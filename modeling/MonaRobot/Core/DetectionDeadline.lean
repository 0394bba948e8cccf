import MonaRobot.Core.RecoveryTiming
import MonaRobot.Core.TerminalFault

/-!
# The deadline of a lockout

The waits bound a lockout from below; how soon the ticks come bounds it from above. When consecutive
readings of the clock are at most a period apart, every phase of a recovery has a time by which it
is over: the end of its wait, and one period until a tick notices. `deadline` adds up what is left
of the present attempt (`nextStrike`) and a whole `cycle` for every strike in hand, and a failed
visit never moves it back (`Recovers.deadline`). A component that is still working has its deadline
ahead (`lt_deadline`), so no component works past it.

The bound needs every poll to fail: a report of `UNCONFIGURED` or `INACTIVE` freezes the recovery,
and an `ACTIVE` one starts the count again.
-/

namespace MonaRobot

open Reactive FdirAction

/-- The clock does not go back, and is read again within the period. -/
def Within (period c c' : Time) : Prop := c ≤ c' ∧ c' ≤ c + period

instance (period c c' : Time) : Decidable (Within period c c') :=
  inferInstanceAs (Decidable (_ ∧ _))

namespace ManagedNode

/-! ## What is left of a recovery -/

/-- The longest time from a strike to the next. -/
def cycle (period : ℚ) (node : ManagedNode) : ℚ :=
  node.powerOffTime + node.startupTime + 5 * period

/-- When the last visit was at `c`, the time by which a failing component has its next strike. -/
def nextStrike (period : ℚ) (c : Time) (node : ManagedNode) : Time :=
  match node.phase with
  | .nominal => c + period
  | .powerOff => c + node.cycle period
  | .waitDischarge =>
    max (node.lastPhaseChange + node.powerOffTime) c + node.startupTime + 4 * period
  | .powerOn => c + node.startupTime + 3 * period
  | .waitBoot => max (node.lastPhaseChange + node.startupTime) c + 2 * period
  | _ => c

/-- The time by which it is locked out. -/
def deadline (period : ℚ) (c : Time) (node : ManagedNode) : Time :=
  node.nextStrike period c + (maxRecoveryRetries - node.retryCount) * node.cycle period

variable {node node' : ManagedNode} {period : ℚ} {now c τ : Time} {o : List FdirAction}

/-- The times of a component are not negative. -/
structure Timed (node : ManagedNode) : Prop where
  powerOff : 0 ≤ node.powerOffTime
  startup : 0 ≤ node.startupTime

theorem Timed.cycle_le (h : Timed node) (period : ℚ) : 5 * period ≤ node.cycle period := by
  have hsum := add_nonneg h.powerOff h.startup
  unfold cycle
  linarith

/-- A failed visit within the period locks the component out or keeps its deadline. -/
theorem Recovers.deadline (h : Recovers now node node' o) (hs : Striking node) (ht : Timed node)
    (hnow : Within period c now) :
    node'.isDefective = true ∨ node'.deadline period now ≤ node.deadline period c := by
  obtain ⟨hle, hnext⟩ := hnow
  have hstartup := ht.startup
  have hoff := ht.powerOff
  cases h with
  | exhausted | unknownMechanism | invalidPhase => exact Or.inl rfl
  | lockedOut hp => exact Or.inl (hs.defective.2 hp)
  | strike hp =>
    right
    simp only [ManagedNode.deadline, nextStrike, cycle, hp]
    push_cast
    linarith
  | relayOpened hp | cleanupRequested hp =>
    right
    simp only [ManagedNode.deadline, nextStrike, cycle, hp]
    rw [max_eq_left (by linarith)]
    linarith
  | discharging hp hwait =>
    right
    simp only [ManagedNode.deadline, nextStrike, cycle, hp]
    rw [max_eq_left (by linarith), max_eq_left (by linarith)]
  | discharged hp =>
    right
    have hmax := le_max_right (node.lastPhaseChange + node.powerOffTime) c
    simp only [ManagedNode.deadline, nextStrike, cycle, hp]
    linarith
  | relayClosed hp | softwareReset hp =>
    right
    simp only [ManagedNode.deadline, nextStrike, cycle, hp]
    rw [max_eq_left (by linarith)]
    linarith
  | booting hp hwait =>
    right
    simp only [ManagedNode.deadline, nextStrike, cycle, hp]
    rw [max_eq_left (by linarith), max_eq_left (by linarith)]
  | booted hp =>
    right
    have hmax := le_max_right (node.lastPhaseChange + node.startupTime) c
    simp only [ManagedNode.deadline, nextStrike, cycle, hp]
    linarith

/-- At the first failed visit the deadline is at most three cycles away. -/
theorem deadline_le (hs : Striking node) (ht : Timed node) (hperiod : 0 ≤ period)
    (hw : node.isDefective = false) (hpast : node.since τ ≤ τ) :
    node.deadline period (τ - period) ≤ τ + 3 * node.cycle period := by
  have hcycle := ht.cycle_le period
  have hzero : 0 ≤ node.cycle period := by linarith
  have hstartup := ht.startup
  have hoff := ht.powerOff
  have hspent : (3 - node.retryCount : ℚ) * node.cycle period ≤ 3 * node.cycle period :=
    mul_le_mul_of_nonneg_right (by simp) hzero
  -- in a recovery one strike is used up
  have hused : node.InRecovery →
      (3 - node.retryCount : ℚ) * node.cycle period ≤ 2 * node.cycle period := by
    intro hrec
    refine mul_le_mul_of_nonneg_right ?_ hzero
    have hone : (1 : ℚ) ≤ node.retryCount := by exact_mod_cast hs.started hrec
    linarith
  unfold ManagedNode.deadline maxRecoveryRetries nextStrike
  unfold since at hpast
  push_cast
  cases hp : node.phase with
  | nominal =>
    simp only
    linarith
  | powerOff =>
    have hleft := hused (Or.inl hp)
    simp only
    linarith
  | waitDischarge =>
    have hleft := hused (Or.inr (Or.inl hp))
    rw [hp] at hpast
    have hmax : max (node.lastPhaseChange + node.powerOffTime) (τ - period) ≤
        τ + node.powerOffTime := max_le (by linarith) (by linarith)
    simp only
    unfold cycle at hleft ⊢
    linarith
  | powerOn =>
    have hleft := hused (Or.inr (Or.inr (Or.inl hp)))
    simp only
    unfold cycle at hleft ⊢
    linarith
  | waitBoot =>
    have hleft := hused (Or.inr (Or.inr (Or.inr hp)))
    rw [hp] at hpast
    have hmax : max (node.lastPhaseChange + node.startupTime) (τ - period) ≤
        τ + node.startupTime := max_le (by linarith) (by linarith)
    simp only
    unfold cycle at hleft ⊢
    linarith
  | defective => exact absurd (hs.defective.2 hp) (by simp [hw])
  | other value => exact absurd hp (hs.valid value)

/-- A working component has its deadline ahead. -/
theorem lt_deadline (hs : Striking node) (ht : Timed node) (hperiod : 0 < period)
    (hw : node.isDefective = false) : c < node.deadline period c := by
  have hcycle := ht.cycle_le period
  have hstartup := ht.startup
  have hleft : (0 : ℚ) ≤ (maxRecoveryRetries - node.retryCount) * node.cycle period := by
    refine mul_nonneg (sub_nonneg.2 ?_) (by linarith)
    exact_mod_cast hs.strikes hw
  have hstrike : c < node.nextStrike period c := by
    unfold nextStrike
    cases hp : node.phase with
    | nominal | powerOff | powerOn =>
      simp only
      linarith
    | waitDischarge =>
      have hmax := le_max_right (node.lastPhaseChange + node.powerOffTime) c
      simp only
      linarith
    | waitBoot =>
      have hmax := le_max_right (node.lastPhaseChange + node.startupTime) c
      simp only
      linarith
    | defective => exact absurd (hs.defective.2 hp) (by simp [hw])
    | other value => exact absurd hp (hs.valid value)
  unfold deadline
  linarith

/-- No wait starts in the future. -/
theorem Recovers.since_le (h : Recovers now node node' o) (hs : node.since now ≤ now) :
    node'.since now ≤ now := by
  cases h with
  | discharging | booting | lockedOut => exact hs
  | unknownMechanism | invalidPhase | exhausted => simp [since, lockOut]
  | _ => simp [since]

end ManagedNode

namespace FdirManagerNode

open ManagedNode

variable {s t : FdirManagerNode} {tick : MonitorTick} {node node' : ManagedNode} {c : Health}
  {o : List FdirAction} {period : ℚ} {nodeName : String}

/-! ## One component -/

/-- A poll of the component in this tick finds none of the three states the manager works with. -/
def ReportsFailure (nodeName : String) (e : MonitorStep) : Prop :=
  e.pre.getNodeState (e.input.outcome nodeName) nodeName ∉
    [LifecycleState.primaryStateActive, LifecycleState.primaryStateUnconfigured,
      LifecycleState.primaryStateInactive]

instance (nodeName : String) (e : MonitorStep) : Decidable (ReportsFailure nodeName e) :=
  inferInstanceAs (Decidable (_ ∉ _))

/-- A failed visit of the component. -/
def FoundFailed (e : ComponentStep) : Prop :=
  (single e.pre).getNodeState (e.input.outcome e.pre.name) e.pre.name ∉
    [LifecycleState.primaryStateActive, LifecycleState.primaryStateUnconfigured,
      LifecycleState.primaryStateInactive]

/-- The component is asked as the manager asks it. -/
theorem foundFailed_iff {e : MonitorStep} {e' : ComponentStep}
    (h : (componentView nodeName).Matches e e') : FoundFailed e' ↔ ReportsFailure nodeName e := by
  obtain ⟨hin, -, ⟨hs, hnode, rfl⟩, -⟩ := h
  unfold FoundFailed ReportsFailure
  rw [hin]
  simp [getNodeState, single, hs.getState _ hnode, componentView, MonitorTick.only, pollTick]

theorem Visits.since_le (h : Visits s tick node c node' o)
    (hs : node.since (tick.now node.name) ≤ tick.now node.name) :
    node'.since (tick.now node.name) ≤ tick.now node.name := by
  cases h with
  | active => exact le_rfl
  | failed _ _ _ hr => exact hr.since_le hs
  | _ => exact hs

theorem Visits.timed (h : Visits s tick node c node' o) (ht : Timed node) : Timed node' := by
  obtain ⟨hoff, hstartup⟩ := h.times
  exact ⟨hoff ▸ ht.powerOff, hstartup ▸ ht.startup⟩

/-- The last visit was at `now`, and the component is locked out or has its deadline by `last`. -/
structure Due (period : ℚ) (last now : Time) (node : ManagedNode) : Prop where
  striking : Striking node
  timed : Timed node
  due : node.isDefective = true ∨ node.deadline period now ≤ last

theorem Due.defective {last now : Time} (h : Due period last now node) (hperiod : 0 < period)
    (hlast : last ≤ now) : node.isDefective = true := by
  by_contra hw
  have hworking : node.isDefective = false := by simpa using hw
  have hahead := lt_deadline (c := now) h.striking h.timed hperiod hworking
  have hdue := h.due.resolve_left hw
  linarith

theorem Visits.due {last now : Time} (h : Visits s tick node c node' o)
    (hf : s.getNodeState (tick.outcome node.name) node.name ∉
      [LifecycleState.primaryStateActive, LifecycleState.primaryStateUnconfigured,
        LifecycleState.primaryStateInactive])
    (hnext : Within period now (tick.now node.name)) (hdue : Due period last now node) :
    Due period last (tick.now node.name) node' := by
  refine ⟨h.striking hdue.striking, h.timed hdue.timed, ?_⟩
  cases h with
  | lockedOut hd => exact Or.inl hd
  | active _ hstate | unconfigured _ hstate | inactive _ hstate => simp [hstate] at hf
  | failed hw _ _ hr =>
    have hs := hdue.striking
    have hkept := hr.deadline ⟨⟨hs.strikes, hs.defective, hs.valid, hs.mechanism⟩, hs.started,
      hs.exhausted⟩ ⟨hdue.timed.powerOff, hdue.timed.startup⟩ hnext
    have hlast := hdue.due.resolve_left (by simp [hw])
    exact hkept.imp_right fun hle => hle.trans hlast

/-- A run of failed visits, each within a period of the one before, keeps its deadline. -/
theorem component_due {e : ComponentStep} {tr : List ComponentStep} (hs : Striking node)
    (ht : Timed node) (hperiod : 0 ≤ period) (h : component.Run node (e :: tr) node')
    (hpast : node.since (e.input.now e.pre.name) ≤ e.input.now e.pre.name)
    (hpace : List.IsChain (Within period) ((e :: tr).map fun e' => e'.input.now e'.pre.name))
    (hfailed : ∀ e' ∈ e :: tr, FoundFailed e') :
    ∀ e' ∈ e :: tr, Due period (e.input.now e.pre.name + 3 * node.cycle period)
      (e'.input.now e'.pre.name) e'.post := by
  refine h.paced (G := Within period) (C := FoundFailed) (c := e.input.now e.pre.name - period)
    (List.isChain_cons_cons.2 ⟨⟨?_, ?_⟩, hpace⟩) hfailed ⟨hs, ht, ?_⟩
    fun e' c he' hf hnext hdue => (component_visits he').due hf hnext hdue
  · linarith
  · linarith
  · cases hw : node.isDefective with
    | true => exact Or.inl rfl
    | false => exact Or.inr (deadline_le hs ht hperiod hw hpast)

/-- A component waits from the past on. -/
theorem component_since {tr : List ComponentStep} {now : Time} (hfresh : Fresh node)
    (h : component.Run node tr node')
    (hclock : (tr.map fun e => e.input.now e.pre.name).Pairwise (· ≤ ·))
    (hnow : ∀ e ∈ tr, e.input.now e.pre.name ≤ now) : node'.since now ≤ now := by
  refine h.aging (H := fun _ now node => node.since now ≤ now) (B := fun _ => True)
    (C := fun _ => True) hclock (fun _ _ => ⟨trivial, trivial⟩) (fun c _ => ?_)
    (fun _ e c he _ hle hs => ?_) now trivial hnow
  · simp [since, hfresh.phase]
  · exact (since_mono hle).2 ((component_visits he).since_le hs)

/-! ## Runs of the manager -/

variable {policy : FdirPolicy} {clock : String → Time} {past failing : List MonitorStep}
  {first : MonitorStep}

/-- **The deadline of a lockout.** In a run from an accepted configuration with nonnegative waits,
in which the clock, as it is read for a component, does not go back: when from some tick on every
poll of the component fails, and the clock is read for it at least once a period, then every tick
that comes three recovery cycles or more after the first failure, with five periods added to the two
waits of each, leaves the component defective and publishes an EMERGENCY. -/
theorem detection_deadline (hs : Constructed policy clock s)
    (h : ticks.Run s (past ++ first :: failing) t) (hnode : node ∈ s.managedNodes)
    (hoff : 0 ≤ node.powerOffTime) (hstartup : 0 ≤ node.startupTime) (hperiod : 0 < period)
    (hclock : ((past ++ first :: failing).map (readAt node.name)).Pairwise (· ≤ ·))
    (hpace : List.IsChain (Within period) ((first :: failing).map (readAt node.name)))
    (hfail : ∀ e ∈ first :: failing, ReportsFailure node.name e) :
    ∀ e ∈ first :: failing,
      readAt node.name first + 3 * (node.powerOffTime + node.startupTime + 5 * period) ≤
        readAt node.name e →
      (e.post.record node.name).map ManagedNode.isDefective = some true ∧
        PublishesEmergency e.output := by
  have hsound := sound_of_constructed hs
  obtain ⟨x, hpast, hrest⟩ := h.split
  obtain ⟨ptr, m, hrun, hx, hpmatch⟩ :=
    (componentView node.name).project hpast ⟨hsound, hnode, rfl⟩
  obtain ⟨ftr, m', hfrun, -, hmatch⟩ := (componentView node.name).project hrest hx
  obtain ⟨hmoff, hmstartup⟩ := component_times hrun
  have hm : Striking m := component_striking hrun (striking_of_fresh (hs.fresh node hnode))
  have hfailed : ∀ e' ∈ ftr, FoundFailed e' :=
    forall_of_forall₂ hmatch (fun _ _ hab => (foundFailed_iff hab).2) hfail
  -- no wait has begun after the first failure
  rw [List.map_append, List.pairwise_append, readAt_matches hpmatch] at hclock
  obtain ⟨hpclock, -, hfirst⟩ := hclock
  have hsince : m.since (readAt node.name first) ≤ readAt node.name first := by
    refine component_since (hs.fresh node hnode) hrun hpclock fun e' he' => ?_
    exact hfirst _ (List.mem_map_of_mem he') _ (by simp)
  have hdue : ∀ e' ∈ ftr, Due period (readAt node.name first + 3 * node.cycle period)
      (e'.input.now e'.pre.name) e'.post := by
    rw [readAt_matches hmatch] at hpace
    cases hmatch with
    | @cons _ e₁ _ _ hab _ =>
      have hread : readAt node.name first = e₁.input.now e₁.pre.name := by
        rw [hab.input]
        rfl
      have hcycle : m.cycle period = node.cycle period := by
        rw [cycle, cycle, hmoff, hmstartup]
      rw [hread] at hsince ⊢
      rw [← hcycle]
      exact component_due hm ⟨hmoff ▸ hoff, hmstartup ▸ hstartup⟩ hperiod.le hfrun hsince hpace
        hfailed
  have hlocked : ∀ e ∈ first :: failing,
      readAt node.name first + 3 * node.cycle period ≤ readAt node.name e →
        ∃ m ∈ e.post.managedNodes, e.post.record node.name = some m ∧ m.isDefective = true := by
    refine forall_of_forall₂ hmatch.flip (fun e' e hab hdue hlast => ?_) hdue
    obtain ⟨-, hmem, -⟩ := hab.post
    have hread : readAt node.name e = e'.input.now e'.pre.name := by
      rw [hab.input]
      rfl
    rw [hread] at hlast
    exact ⟨e'.post, hmem, (record_matches hab).2, hdue.defective hperiod hlast⟩
  intro e he hlast
  obtain ⟨m, hmem, hrecord, hd⟩ := hlocked e he hlast
  exact ⟨by rw [hrecord, Option.map_some, hd], publishesEmergency (hrest.takes e he) hmem hd⟩

/-- The front lidar stops answering at 50, and is polled every 50 after that. -/
def silentLidar : List MonitorTick :=
  pollTick (.replied LifecycleState.primaryStateActive) 0 ::
    (List.range 19).map fun k => pollTick .timedOut (50 * (k + 1))

/-- It is given up by 50 + 3 * (3 + 40 + 5 * 50) = 929, so by the tick at 950. -/
theorem detection_deadline_silentLidar :
    ∃ e ∈ ticks.trace lidarManager silentLidar, readAt "mona_lidar_front" e = 950 ∧
      (e.post.record "mona_lidar_front").map ManagedNode.isDefective = some true ∧
      PublishesEmergency e.output := by
  have hrun := ticks.run_trace lidarManager silentLidar (by decide +kernel)
  have hreads : (ticks.trace lidarManager silentLidar).map (readAt "mona_lidar_front") =
      (List.range 20).map fun k : ℕ => (50 * k : ℚ) := by
    decide +kernel
  have hfail : ∀ e ∈ (ticks.trace lidarManager silentLidar).drop 1,
      ReportsFailure "mona_lidar_front" e := by
    decide +kernel
  generalize ticks.trace lidarManager silentLidar = tr at hrun hreads hfail ⊢
  match tr with
  | [] | [_] => exact absurd (congrArg List.length hreads) (by simp)
  | e₀ :: first :: failing =>
    have hclock : ((e₀ :: first :: failing).map (readAt "mona_lidar_front")).Pairwise (· ≤ ·) ∧
        950 ∈ (first :: failing).map (readAt "mona_lidar_front") ∧
        List.IsChain (Within 50) ((first :: failing).map (readAt "mona_lidar_front")) := by
      rw [hreads, (List.cons.inj hreads).2]
      decide +kernel
    obtain ⟨hclock, hlast, hpace⟩ := hclock
    have hfirst : readAt "mona_lidar_front" first = 50 * ((1 : ℕ) : ℚ) :=
      (List.cons.inj (List.cons.inj hreads).2).1
    obtain ⟨e, he, hread⟩ := List.mem_map.1 hlast
    have hrun : ticks.Run lidarManager ([e₀] ++ first :: failing) _ := hrun
    refine ⟨e, List.mem_cons_of_mem _ he, hread, ?_⟩
    refine detection_deadline lidarManager_constructed hrun
      (List.mem_singleton_self _) (by decide) (by decide) (by norm_num : (0 : ℚ) < 50) hclock hpace
      hfail e he ?_
    change readAt "mona_lidar_front" first + 3 * ((3 : ℚ) + 40 + 5 * 50) ≤
      readAt "mona_lidar_front" e
    rw [hfirst, hread]
    norm_num

end FdirManagerNode

end MonaRobot
