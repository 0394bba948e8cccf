import MonaRobot.Core.ThreeStrikes
import MonaRobot.Foundations.History

/-!
# The waits of a recovery

Both waits of the recovery machine are measured from the one timestamp `last_phase_change`. Entering
`WAIT_DISCHARGE` and `WAIT_BOOT` refreshes it; a strike, the end of the discharge and the reports that
freeze or end a recovery do not. `Waited` says, phase by phase, what is known of the time since a
strike: in the two waiting phases it is counted up to the timestamp, in the others up to now. It is
kept by every visit but an `ACTIVE` one, and only ages in between.

`recovery_timing` reads it at the next strike and at the lockout, and reads `Discharging`, the same
for the last opening of the relay, at the closing.
-/

namespace MonaRobot

open Reactive FdirAction

namespace ManagedNode

/-! ## The time since a strike -/

/-- What the phases passed since the last strike have waited for. -/
def waited (node : ManagedNode) : ℚ :=
  match node.phase with
  | .nominal => node.powerOffTime + node.startupTime
  | .powerOn => node.powerOffTime
  | .waitBoot => node.powerOffTime
  | _ => 0

/-- The time from which the current phase waits. -/
def since (c : Time) (node : ManagedNode) : Time :=
  match node.phase with
  | .waitDischarge => node.lastPhaseChange
  | .waitBoot => node.lastPhaseChange
  | _ => c

/-- At `c` the component has kept all waits since the `r`-th strike, which was at `τ`. -/
structure Waited (τ : Time) (r : ℕ) (c : Time) (node : ManagedNode) : Prop extends Counted node where
  later : r ≤ node.retryCount
  kept : τ + (node.retryCount - r) * (node.powerOffTime + node.startupTime) + node.waited ≤
    node.since c
  past : node.since c ≤ c

variable {node node' : ManagedNode} {now τ c c' : Time} {r : ℕ} {o : List FdirAction}

/-- The recovery does not change its own times. -/
theorem Recovers.times (h : Recovers now node node' o) :
    node'.powerOffTime = node.powerOffTime ∧ node'.startupTime = node.startupTime := by
  cases h <;> exact ⟨rfl, rfl⟩

theorem since_mono (hc : c ≤ c') :
    node.since c ≤ node.since c' ∧ (node.since c ≤ c → node.since c' ≤ c') := by
  unfold since
  split
  · exact ⟨le_rfl, fun h => h.trans hc⟩
  · exact ⟨le_rfl, fun h => h.trans hc⟩
  · exact ⟨hc, fun _ => le_rfl⟩

/-- The waits that are kept stay kept. -/
theorem Waited.age (h : Waited τ r c node) (hc : c ≤ c') : Waited τ r c' node where
  toCounted := h.toCounted
  later := h.later
  kept := h.kept.trans (since_mono hc).1
  past := (since_mono hc).2 h.past

theorem Recovers.waited (h : Recovers now node node' o) (hw : Waited τ r now node) :
    Waited τ r now node' := by
  have hc := h.counted hw.toCounted
  obtain ⟨⟨-, -, hvalid, hmech⟩, hlater, hkept, hpast⟩ := hw
  simp only [ManagedNode.waited, since] at hkept hpast
  cases h with
  | exhausted hp =>
    simp only [hp] at hkept
    refine ⟨hc, hlater.trans (Nat.le_succ _), ?_, le_rfl⟩
    simp only [ManagedNode.waited, since, lockOut]
    push_cast
    linarith
  | strike hp =>
    simp only [hp] at hkept
    refine ⟨hc, hlater.trans (Nat.le_succ _), ?_, le_rfl⟩
    simp only [ManagedNode.waited, since]
    push_cast
    linarith
  | relayOpened hp | cleanupRequested hp =>
    simp only [hp] at hkept
    exact ⟨hc, hlater, hkept, le_rfl⟩
  | discharging | booting => exact ⟨hc, hlater, hkept, hpast⟩
  | discharged hp hwait =>
    simp only [hp] at hkept
    refine ⟨hc, hlater, ?_, le_rfl⟩
    simp only [ManagedNode.waited, since]
    linarith
  | relayClosed hp | softwareReset hp =>
    simp only [hp] at hkept
    exact ⟨hc, hlater, hkept, le_rfl⟩
  | booted hp hwait =>
    simp only [hp] at hkept
    refine ⟨hc, hlater, ?_, le_rfl⟩
    simp only [ManagedNode.waited, since]
    linarith
  | lockedOut => exact ⟨hc, hlater, hkept, hpast⟩
  | unknownMechanism value hm => exact absurd hm (hmech value)
  | invalidPhase value hp => exact absurd hp (hvalid value)

/-- At the start of a recovery nothing is waited for yet. -/
theorem since_eq (h : node'.phase = .powerOff ∨ node'.phase = .defective) (c : Time) :
    node'.waited = 0 ∧ node'.since c = c := by
  rcases h with h | h <;> simp [waited, since, h]

/-! ## The time since the opening of the relay -/

/-- At `c` a component with a relay that is not closed again has the latest opening on record. -/
structure Discharging (opened : Option Time) (c : Time) (node : ManagedNode) : Prop where
  waiting : node.resetMechanism = .hardwareRelay → node.phase = .waitDischarge →
    opened = some node.lastPhaseChange
  done : node.resetMechanism = .hardwareRelay → node.phase = .powerOn →
    ∃ t₀, opened = some t₀ ∧ t₀ + node.powerOffTime ≤ c

variable {opened : Option Time}

theorem Discharging.age (h : Discharging opened c node) (hc : c ≤ c') :
    Discharging opened c' node where
  waiting := h.waiting
  done hm hp := by
    obtain ⟨t₀, hopened, hle⟩ := h.done hm hp
    exact ⟨t₀, hopened, hle.trans hc⟩

/-- The openings among the actions of a step at `now`. -/
def openings (nodeName : String) (now : Time) (o : List FdirAction) : List Time :=
  if false ∈ relayCommands nodeName o then [now] else []

theorem Recovers.discharge (h : Recovers now node node' o) (hd : Discharging opened now node) :
    Discharging ((openings node.name now o).getLast?.or opened) now node' := by
  obtain ⟨hwaiting, hdone⟩ := hd
  cases h with
  | relayOpened => exact ⟨fun _ _ => by simp [openings], by simp⟩
  | cleanupRequested _ hm => exact ⟨fun hm' => absurd (hm.symm.trans hm') (by simp), by simp⟩
  | discharging | booting | lockedOut => exact ⟨hwaiting, hdone⟩
  | discharged hp hwait =>
    refine ⟨by simp, fun hm _ => ⟨node.lastPhaseChange, hwaiting hm hp, ?_⟩⟩
    linarith
  | _ => exact ⟨by simp [lockOut], by simp [lockOut]⟩

end ManagedNode

namespace FdirManagerNode

open ManagedNode

variable {s t : FdirManagerNode} {tick : MonitorTick} {node node' : ManagedNode} {c : Health}
  {o : List FdirAction} {tr : List MonitorStep} {τ : Time} {r : ℕ} {nodeName : String}

/-! ## One visit -/

theorem Visits.times (h : Visits s tick node c node' o) :
    node'.powerOffTime = node.powerOffTime ∧ node'.startupTime = node.startupTime := by
  cases h with
  | failed _ _ _ hr => exact hr.times
  | _ => exact ⟨rfl, rfl⟩

theorem Visits.waited (h : Visits s tick node c node' o) (hactive : ¬ s.PolledActive tick node)
    (hw : Waited τ r (tick.now node.name) node) : Waited τ r (tick.now node.name) node' := by
  have hc := h.counted hw.toCounted
  cases h with
  | lockedOut => exact hw
  | active hd hstate => exact absurd ⟨hd, hstate⟩ hactive
  | unconfigured | inactive => exact ⟨hc, hw.later, hw.kept, hw.past⟩
  | failed _ _ _ hr =>
    have hcounted := hw.toCounted
    exact hr.waited ⟨⟨hcounted.strikes, hcounted.defective, hcounted.valid, hcounted.mechanism⟩,
      hw.later, hw.kept, hw.past⟩

theorem Visits.discharge {opened : Option Time} (h : Visits s tick node c node' o)
    (hd : Discharging opened (tick.now node.name) node) :
    Discharging ((openings node.name (tick.now node.name) o).getLast?.or opened)
      (tick.now node.name) node' := by
  cases h with
  | active => exact ⟨by simp, by simp⟩
  | failed _ _ _ hr => exact hr.discharge ⟨hd.waiting, hd.done⟩
  | lockedOut => exact hd
  | _ => exact ⟨hd.waiting, hd.done⟩

/-- A strike starts a recovery, or ends them all. -/
theorem Visits.strike (h : Visits s tick node c node' o)
    (hk : node'.retryCount = node.retryCount + 1) :
    node'.phase = .powerOff ∨ node'.phase = .defective := by
  cases h with
  | failed _ _ _ hr =>
    cases hr with
    | exhausted => exact Or.inr rfl
    | strike => exact Or.inl rfl
    | _ => simp [lockOut] at hk
  | _ => simp at hk

/-- An `ACTIVE` report ends a series of strikes. -/
theorem Visits.polledActive (h : Visits s tick node c node' o) (ha : s.PolledActive tick node) :
    node'.retryCount = 0 ∧ node'.isDefective = false := by
  obtain ⟨hd, hstate⟩ := ha
  cases h with
  | lockedOut hd' => exact absurd (hd.symm.trans hd') Bool.false_ne_true
  | active => exact ⟨rfl, hd⟩
  | unconfigured _ hu => exact absurd (hstate.symm.trans hu) (by decide)
  | inactive _ hi => exact absurd (hstate.symm.trans hi) (by decide)
  | failed _ hs hne _ => exact absurd (hs.symm.trans hstate) hne.1

/-- The relay is closed at the end of the discharge. -/
theorem Visits.closes (h : Visits s tick node c node' o) (ha : true ∈ relayCommands node.name o) :
    node.phase = .powerOn ∧ node.resetMechanism = .hardwareRelay := by
  cases h with
  | failed _ _ _ hr =>
    cases hr with
    | relayClosed hp hm => exact ⟨hp, hm⟩
    | _ => simp at ha
  | _ => simp at ha

/-! ## Runs of one component -/

/-- The openings of the relay in a step of one component. -/
def openedAt (e : ComponentStep) : List Time :=
  openings e.pre.name (e.input.now e.pre.name) e.output

/-- The counter of the component is raised from `k`. -/
def Increments (k : ℕ) (e : ComponentStep) : Prop :=
  e.pre.retryCount = k ∧ e.post.retryCount = k + 1

variable {tr' : List ComponentStep}

/-- Since a strike a component without an `ACTIVE` report keeps all waits. -/
theorem component_waited {e : ComponentStep} {k : ℕ} (he : component.Takes e)
    (hc : Counted e.pre) (hk : Increments k e) (h : component.Run e.post tr' node')
    (hactive : ∀ e' ∈ tr', ¬ FoundActive e')
    (hclock : ((e :: tr').map fun e' => e'.input.now e'.pre.name).Pairwise (· ≤ ·)) {now : Time}
    (hnow : ∀ e' ∈ e :: tr', e'.input.now e'.pre.name ≤ now) :
    Waited (e.input.now e.pre.name) (k + 1) now node' := by
  obtain ⟨hpre, hpost⟩ := hk
  have hv := component_visits he
  rw [List.map_cons, List.pairwise_cons] at hclock
  obtain ⟨hlater, hclock⟩ := hclock
  refine h.aging (H := fun _ now node => Waited (e.input.now e.pre.name) (k + 1) now node)
    (B := fun now => e.input.now e.pre.name ≤ now) (C := fun e' => ¬ FoundActive e') hclock
    (fun e' he' => ⟨hactive e' he', hlater _ (List.mem_map_of_mem he')⟩) (fun now hle => ?_)
    (fun _ e' now he' hno hle hw => ?_) now (hnow e (by simp))
    fun e' he' => hnow e' (List.mem_cons_of_mem _ he')
  · obtain ⟨hwaited, hsince⟩ := since_eq (hv.strike (hpost.trans (congrArg (· + 1) hpre.symm))) now
    refine ⟨hv.counted hc, hpost.ge, ?_, hsince.le⟩
    rw [hwaited, hsince, hpost]
    simpa using hle
  · exact ((component_visits he').waited hno hw).age hle

theorem component_times (h : component.Run node tr' node') :
    node'.powerOffTime = node.powerOffTime ∧ node'.startupTime = node.startupTime :=
  h.invariant (I := fun m => m.powerOffTime = node.powerOffTime ∧ m.startupTime = node.startupTime)
    ⟨rfl, rfl⟩ fun _ he ⟨hoff, hstart⟩ =>
      ⟨(component_visits he).times.1.trans hoff, (component_visits he).times.2.trans hstart⟩

/-- Two strikes of one series are a recovery apart, and the lockout is three after the first. -/
theorem component_apart {e₁ e₂ : ComponentStep} {k : ℕ} (he₁ : component.Takes e₁)
    (hs : Striking e₁.pre) (hk : Increments k e₁) (h : component.Run e₁.post tr' e₂.pre)
    (he₂ : component.Takes e₂) (hactive : ∀ e ∈ tr', ¬ FoundActive e)
    (hclock : ((e₁ :: (tr' ++ [e₂])).map fun e => e.input.now e.pre.name).Pairwise (· ≤ ·)) :
    (∀ l, Increments l e₂ → e₁.input.now e₁.pre.name + (e₁.pre.powerOffTime + e₁.pre.startupTime) ≤
      e₂.input.now e₂.pre.name) ∧
    (k = 0 → e₂.pre.isDefective = false → e₂.post.isDefective = true →
      e₁.input.now e₁.pre.name + 3 * (e₁.pre.powerOffTime + e₁.pre.startupTime) ≤
        e₂.input.now e₂.pre.name) := by
  rw [← List.cons_append, List.map_append, List.pairwise_append] at hclock
  obtain ⟨hclock, -, hlast⟩ := hclock
  have hle : ∀ e ∈ e₁ :: tr', e.input.now e.pre.name ≤ e₂.input.now e₂.pre.name := fun e he =>
    hlast _ (List.mem_map_of_mem he) _ (by simp)
  have hw := component_waited he₁ hs.toCounted hk h hactive hclock hle
  have hv := component_visits he₂
  obtain ⟨hoff, hstart⟩ := component_times ((Machine.Run.cons he₁ h).snoc he₂)
  -- at the end of a step that starts a recovery or ends them all, the waits are over
  have hkept : ¬ FoundActive e₂ → e₂.post.phase = .powerOff ∨ e₂.post.phase = .defective →
      e₁.input.now e₁.pre.name + (e₂.post.retryCount - ((k + 1 : ℕ) : ℚ)) *
        (e₁.pre.powerOffTime + e₁.pre.startupTime) ≤ e₂.input.now e₂.pre.name := by
    intro hno hphase
    have hpost := (hv.waited hno hw).kept
    obtain ⟨hwaited, hsince⟩ := since_eq hphase (e₂.input.now e₂.pre.name)
    rwa [hwaited, hsince, hoff, hstart, add_zero] at hpost
  constructor
  · rintro l ⟨hpre, hpost⟩
    have hkl := hw.later
    have hno : ¬ FoundActive e₂ := fun ha => by
      have hzero := (hv.polledActive ha).1
      omega
    have hcycle := hkept hno (hv.strike (hpost.trans (congrArg (· + 1) hpre.symm)))
    have hone : (1 : ℚ) ≤ e₂.post.retryCount - ((k + 1 : ℕ) : ℚ) := by
      rw [hpost, le_sub_iff_add_le]
      exact_mod_cast (by omega : 1 + (k + 1) ≤ l + 1)
    rcases le_total 0 (e₁.pre.powerOffTime + e₁.pre.startupTime) with hsum | hsum
    · linarith [mul_le_mul_of_nonneg_right hone hsum]
    · linarith [hle e₁ (by simp)]
  · rintro rfl - hd
    have hstriking : Striking e₂.post :=
      component_striking ((Machine.Run.cons he₁ h).snoc he₂) hs
    have hno : ¬ FoundActive e₂ := fun ha =>
      absurd (hv.polledActive ha).2 (by simp [hd])
    have hcycle := hkept hno (Or.inr (hstriking.defective.1 hd))
    rw [hstriking.exhausted hd] at hcycle
    norm_num [maxRecoveryRetries] at hcycle
    exact hcycle

/-- The relay is closed again only after the latest opening has been waited for. -/
theorem component_discharged {e : ComponentStep} (hfresh : Fresh node)
    (h : component.Run node tr' e.pre) (he : component.Takes e)
    (hclock : ((tr' ++ [e]).map fun e' => e'.input.now e'.pre.name).Pairwise (· ≤ ·))
    (ha : true ∈ relayCommands e.pre.name e.output) :
    ∃ t₀, lastOut openedAt tr' = some t₀ ∧ t₀ + e.pre.powerOffTime ≤ e.input.now e.pre.name := by
  rw [List.map_append, List.pairwise_append] at hclock
  obtain ⟨hclock, -, hlast⟩ := hclock
  have hd : Discharging (lastOut openedAt tr') (e.input.now e.pre.name) e.pre := by
    refine h.aging (H := fun past now node => Discharging (lastOut openedAt past) now node)
      (B := fun _ => True) (C := fun _ => True) hclock (fun _ _ => ⟨trivial, trivial⟩)
      (fun now _ => ⟨by simp [hfresh.phase], by simp [hfresh.phase]⟩)
      (fun past e' now he' _ hle hd => ?_) _ trivial
      fun e' he' => hlast _ (List.mem_map_of_mem he') _ (by simp)
    rw [lastOut_concat]
    exact ((component_visits he').discharge hd).age hle
  obtain ⟨hphase, hmech⟩ := (component_visits he).closes ha
  exact hd.done hmech hphase

/-! ## Runs of the manager -/

/-- The clock reading of a tick for a component. -/
def readAt (nodeName : String) (e : MonitorStep) : Time := e.input.now nodeName

/-- The openings of the relay of a component in a tick. -/
def relayOpenings (nodeName : String) (e : MonitorStep) : List Time :=
  openings nodeName (readAt nodeName e) e.output

/-- The tick raises the retry counter of a component from `k`. -/
def IncrementsRetry (nodeName : String) (k : ℕ) (e : MonitorStep) : Prop :=
  (e.pre.record nodeName).map ManagedNode.retryCount = some k ∧
    (e.post.record nodeName).map ManagedNode.retryCount = some (k + 1)

/-- The tick locks a component out. -/
def LocksOut (nodeName : String) (e : MonitorStep) : Prop :=
  (e.pre.record nodeName).map ManagedNode.isDefective = some false ∧
    (e.post.record nodeName).map ManagedNode.isDefective = some true

instance (nodeName : String) (k : ℕ) (e : MonitorStep) : Decidable (IncrementsRetry nodeName k e) :=
  inferInstanceAs (Decidable (_ ∧ _))

instance (nodeName : String) (e : MonitorStep) : Decidable (LocksOut nodeName e) :=
  inferInstanceAs (Decidable (_ ∧ _))

variable {policy : FdirPolicy} {clock : String → Time}

theorem increments_matches {e : MonitorStep} {e' : ComponentStep}
    (h : (componentView nodeName).Matches e e') (k : ℕ) :
    IncrementsRetry nodeName k e ↔ Increments k e' := by
  obtain ⟨hpre, hpost⟩ := record_matches h
  simp [IncrementsRetry, Increments, hpre, hpost]

theorem locksOut_matches {e : MonitorStep} {e' : ComponentStep}
    (h : (componentView nodeName).Matches e e') :
    LocksOut nodeName e ↔ e'.pre.isDefective = false ∧ e'.post.isDefective = true := by
  obtain ⟨hpre, hpost⟩ := record_matches h
  simp [LocksOut, hpre, hpost]

/-- What a run of the manager reads off the clock for a component is what the component sees. -/
theorem readAt_matches {tr : List MonitorStep}
    (h : List.Forall₂ (componentView nodeName).Matches tr tr') :
    tr.map (readAt nodeName) = tr'.map fun e => e.input.now e.pre.name :=
  map_eq_of_forall₂ h fun e e' hab => by
    rw [hab.input]
    rfl

theorem relayOpenings_matches {tr : List MonitorStep}
    (h : List.Forall₂ (componentView nodeName).Matches tr tr') :
    lastOut (relayOpenings nodeName) tr = lastOut openedAt tr' := by
  have hmap : tr.map (relayOpenings nodeName) = tr'.map openedAt :=
    map_eq_of_forall₂ h fun e e' hab => by
      obtain ⟨-, -, hname⟩ := hab.pre
      unfold relayOpenings openedAt openings readAt
      rw [hab.input, hab.output, hname]
      change _ = if false ∈ relayCommands nodeName (commands nodeName e.output) then _ else _
      rw [relayCommands_commands]
      rfl
  rw [lastOut, lastOut, List.flatMap_def, List.flatMap_def, hmap]

/-- **The waits of a recovery.** In a run from an accepted configuration in which the clock, as it is
read for a component, does not go back: when its relay is closed, it was opened before, and the
latest opening is at least the power-off time old; two strikes with no `ACTIVE` report between them
are at least the power-off time and the startup time apart; and a lockout is at least three times
that after the first strike of its series. -/
theorem recovery_timing (hs : Constructed policy clock s) (h : ticks.Run s tr t)
    (hnode : node ∈ s.managedNodes)
    (hclock : (tr.map (readAt node.name)).Pairwise (· ≤ ·)) :
    Throughout (fun past e => true ∈ relayCommands node.name e.output →
      ∃ t₀, lastOut (relayOpenings node.name) past = some t₀ ∧
        t₀ + node.powerOffTime ≤ readAt node.name e) tr ∧
    ∀ past e₁ between e₂ rest, tr = past ++ e₁ :: (between ++ e₂ :: rest) →
      (∀ e ∈ between, ¬ ReportsActive node.name e) → ∀ k, IncrementsRetry node.name k e₁ →
        (∀ l, IncrementsRetry node.name l e₂ →
          readAt node.name e₁ + (node.powerOffTime + node.startupTime) ≤ readAt node.name e₂) ∧
        (k = 0 → LocksOut node.name e₂ →
          readAt node.name e₁ + 3 * (node.powerOffTime + node.startupTime) ≤
            readAt node.name e₂) := by
  have hsound := sound_of_constructed hs
  constructor
  · rintro past e rest rfl ha
    obtain ⟨hpast, he, -⟩ := h.around
    obtain ⟨tr', m, hrun, hrel, hmatch⟩ :=
      (componentView node.name).project hpast ⟨hsound, hnode, rfl⟩
    obtain ⟨e', he', hmatched, rfl⟩ := (componentView node.name).matched he hrel
    obtain ⟨hoff, -⟩ := component_times hrun
    obtain ⟨-, -, hname⟩ := hrel
    have hclock' : ((past ++ [e]).map (readAt node.name)).Pairwise (· ≤ ·) := by
      rw [← List.singleton_append, ← List.append_assoc, List.map_append] at hclock
      exact (List.pairwise_append.1 hclock).1
    rw [readAt_matches (List.rel_append hmatch (.cons hmatched .nil))] at hclock'
    have hread : readAt node.name e = e'.input.now e'.pre.name := by rw [hmatched.input]; rfl
    rw [relayOpenings_matches hmatch, ← hoff, hread]
    refine component_discharged (hs.fresh node hnode) hrun he' hclock' ?_
    rw [hname, hmatched.output]
    exact (relayCommands_commands node.name e.output).symm ▸ ha
  · rintro past e₁ between e₂ rest rfl hactive k hk
    obtain ⟨hpast, he₁, hrest⟩ := h.around
    obtain ⟨hbetween, he₂, -⟩ := hrest.around
    obtain ⟨tr', m, hrun, hrel, -⟩ := (componentView node.name).project hpast ⟨hsound, hnode, rfl⟩
    obtain ⟨e₁', he₁', hm₁, rfl⟩ := (componentView node.name).matched he₁ hrel
    obtain ⟨btr, m₂, hrun', hrel₂, hmatch⟩ := (componentView node.name).project hbetween hm₁.post
    obtain ⟨e₂', he₂', hm₂, rfl⟩ := (componentView node.name).matched he₂ hrel₂
    have hstriking := component_striking hrun (striking_of_fresh (hs.fresh node hnode))
    obtain ⟨hoff, hstart⟩ := component_times hrun
    have hall : List.Forall₂ (componentView node.name).Matches (e₁ :: (between ++ [e₂]))
        (e₁' :: (btr ++ [e₂'])) := .cons hm₁ (List.rel_append hmatch (.cons hm₂ .nil))
    have hclock' : ((e₁ :: (between ++ [e₂])).map (readAt node.name)).Pairwise (· ≤ ·) := by
      refine hclock.sublist (List.Sublist.map _ ?_)
      exact (List.Sublist.cons_cons _ (by simp)).trans (List.sublist_append_right ..)
    rw [readAt_matches hall] at hclock'
    have hactive' : ∀ e ∈ btr, ¬ FoundActive e :=
      forall_of_forall₂ hmatch (fun _ _ hab => mt (foundActive_iff hab).1) hactive
    obtain ⟨hstrikes, hlockout⟩ := component_apart he₁' hstriking ((increments_matches hm₁ k).1 hk)
      hrun' he₂' hactive' hclock'
    rw [hoff, hstart] at hstrikes hlockout
    have hread₁ : readAt node.name e₁ = e₁'.input.now e₁'.pre.name := by rw [hm₁.input]; rfl
    have hread₂ : readAt node.name e₂ = e₂'.input.now e₂'.pre.name := by rw [hm₂.input]; rfl
    rw [hread₁, hread₂]
    refine ⟨fun l hl => hstrikes l ((increments_matches hm₂ l).1 hl), fun hk₀ hlock => ?_⟩
    obtain ⟨hworking, hlocked⟩ := (locksOut_matches hm₂).1 hlock
    exact hlockout hk₀ hworking hlocked

/-- The front lidar is opened at 100 and closed at 200; its first strike is at 50 and its lockout at
800. -/
theorem recovery_timing_failingLidar :
    (∃ t₀, lastOut (relayOpenings "mona_lidar_front")
        ((ticks.trace lidarManager failingLidar).take 4) = some t₀ ∧ t₀ + 3 ≤ 200) ∧
      (50 : ℚ) + 3 * (3 + 40) ≤ 800 := by
  have hrun := ticks.run_trace lidarManager failingLidar (by decide +kernel)
  generalize htr : ticks.trace lidarManager failingLidar = tr at hrun ⊢
  have hlen : tr.length = 17 := by
    rw [← htr]
    decide +kernel
  have hread : readAt "mona_lidar_front" (tr.get ⟨1, by omega⟩) = 50 ∧
      readAt "mona_lidar_front" (tr.get ⟨4, by omega⟩) = 200 ∧
      readAt "mona_lidar_front" (tr.get ⟨16, by omega⟩) = 800 := by
    subst htr
    decide +kernel +revert
  have hsteps : true ∈ relayCommands "mona_lidar_front" (tr.get ⟨4, by omega⟩).output ∧
      IncrementsRetry "mona_lidar_front" 0 (tr.get ⟨1, by omega⟩) ∧
      LocksOut "mona_lidar_front" (tr.get ⟨16, by omega⟩) ∧
      ∀ e ∈ (tr.drop 2).take 14, ¬ ReportsActive "mona_lidar_front" e := by
    subst htr
    clear hread
    decide +kernel +revert
  have hsplit : tr = tr.take 1 ++ tr.get ⟨1, by omega⟩ ::
      ((tr.drop 2).take 14 ++ tr.get ⟨16, by omega⟩ :: tr.drop 17) := by
    simp only [List.get_eq_getElem]
    rw [← List.drop_eq_getElem_cons, ← List.drop_drop (i := 14), List.take_append_drop,
      ← List.drop_eq_getElem_cons, List.take_append_drop]
  obtain ⟨hfirst, hclose, hlast⟩ := hread
  obtain ⟨hcloses, hstrike, hlocks, hsilent⟩ := hsteps
  obtain ⟨hclosed, hseries⟩ := recovery_timing lidarManager_constructed hrun
    (List.mem_singleton_self _) (by rw [← htr]; decide +kernel)
  constructor
  · rw [← hclose]
    exact throughout_iff_getElem.1 hclosed ⟨4, by omega⟩ hcloses
  · have hlock := (hseries _ _ _ _ _ hsplit hsilent 0 hstrike).2 rfl hlocks
    rwa [hfirst, hlast] at hlock

end FdirManagerNode

end MonaRobot
