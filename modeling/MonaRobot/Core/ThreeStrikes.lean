import MonaRobot.Core.Component

/-!
# The three strikes

The retry counter is raised by the recovery machine and reset by an `ACTIVE` report, and a report of
`UNCONFIGURED` or `INACTIVE` freezes the machine wherever it is. Counter and phase stay in step all
the same (`Striking`): inside a recovery there was at least one strike, and the fourth one is the
lockout.

How many times the current series of strikes has actuated the component can be read off the record:
`powerOffsDone` and `powerOnsDone` are potentials that every visit without an `ACTIVE` report raises
by what it actuates. Both are at most three, and so is the number of actuations between two `ACTIVE`
reports (`three_strikes`).
-/

namespace MonaRobot

open Reactive

/-- The action starts a recovery attempt of the component: its relay is opened, or its cleanup is
requested. -/
def FdirAction.isPowerOff (nodeName : String) : FdirAction → Bool
  | .relay name _ false => decide (name = nodeName)
  | .changeState name transitionId =>
    decide (name = nodeName ∧ transitionId = LifecycleTransition.transitionCleanup)
  | _ => false

/-- The action closes the relay of the component. -/
def FdirAction.isPowerOn (nodeName : String) : FdirAction → Bool
  | .relay name _ true => decide (name = nodeName)
  | _ => false

open FdirAction

namespace ManagedNode

/-! ## The counter and the phase -/

/-- The component is in the middle of a recovery. -/
def InRecovery (node : ManagedNode) : Prop :=
  node.phase = .powerOff ∨ node.phase = .waitDischarge ∨ node.phase = .powerOn ∨
    node.phase = .waitBoot

/-- A recovery has used a strike, and a lockout one more than are permitted. -/
structure Striking (node : ManagedNode) : Prop extends Counted node where
  started : node.InRecovery → 1 ≤ node.retryCount
  exhausted : node.isDefective = true → node.retryCount = maxRecoveryRetries + 1

theorem striking_of_fresh {node : ManagedNode} (h : FdirManagerNode.Fresh node) : Striking node where
  toCounted := counted_of_fresh h
  started := by simp [InRecovery, h.phase]
  exhausted := by simp [h.working]

variable {node node' : ManagedNode} {now : Time} {o : List FdirAction}

theorem Recovers.striking (h : Recovers now node node' o) (hs : Striking node)
    (hw : node.isDefective = false) : Striking node' := by
  have hc := h.counted hs.toCounted
  have hstarted := hs.started
  have hstrikes := hs.strikes hw
  refine ⟨hc, ?_, ?_⟩
  · cases h with
    | strike => exact fun _ => Nat.succ_le_succ (Nat.zero_le _)
    | relayOpened hp | cleanupRequested hp => exact fun _ => hstarted (Or.inl hp)
    | discharging | booting => exact hstarted
    | discharged hp => exact fun _ => hstarted (Or.inr (Or.inl hp))
    | relayClosed hp | softwareReset hp => exact fun _ => hstarted (Or.inr (Or.inr (Or.inl hp)))
    | lockedOut => exact hstarted
    | _ => simp [InRecovery, lockOut]
  · cases h with
    | exhausted hp hr => exact fun _ => congrArg (· + 1) (le_antisymm hstrikes hr)
    | unknownMechanism value hm _ => exact absurd hm (hs.mechanism value)
    | invalidPhase value hp => exact absurd hp (hs.valid value)
    | _ => simp [hw]

/-! ## The actuations of a series of strikes -/

/-- How many recovery attempts were started in the current series of strikes. -/
def powerOffsDone (node : ManagedNode) : ℕ :=
  if node.phase = .powerOff ∨ node.phase = .defective then node.retryCount - 1
  else node.retryCount

/-- How many recovery attempts had the power restored in the current series of strikes. -/
def powerOnsDone (node : ManagedNode) : ℕ :=
  if node.phase = .nominal ∨ node.phase = .waitBoot then node.retryCount else node.retryCount - 1

/-- No series of strikes actuates a component more than three times. -/
theorem Striking.done_le (h : Striking node) :
    node.powerOffsDone ≤ maxRecoveryRetries ∧ node.powerOnsDone ≤ maxRecoveryRetries := by
  cases hw : node.isDefective with
  | true =>
    have hp := h.defective.1 hw
    simp [powerOffsDone, powerOnsDone, hp, h.exhausted hw]
  | false =>
    have hr := h.strikes hw
    unfold powerOffsDone powerOnsDone
    split_ifs <;> omega

/-- A recovery step is paid for by the potentials. -/
theorem Recovers.done (h : Recovers now node node' o) (hs : Striking node)
    (hw : node.isDefective = false) :
    node.powerOffsDone + o.countP (isPowerOff node.name) ≤ node'.powerOffsDone ∧
      node.powerOnsDone + o.countP (isPowerOn node.name) ≤ node'.powerOnsDone := by
  have hstarted := hs.started
  cases h with
  | exhausted hp => simp [powerOffsDone, powerOnsDone, hp, lockOut]
  | strike hp => simp [powerOffsDone, powerOnsDone, hp]
  | relayOpened hp | cleanupRequested hp =>
    have hone := hstarted (Or.inl hp)
    simp only [powerOffsDone, powerOnsDone, hp, isPowerOff, isPowerOn, List.countP_cons,
      List.countP_nil, decide_true, reduceCtorEq, if_true, if_false, or_self, true_or, and_self,
      Bool.false_eq_true]
    omega
  | discharging | booting => simp
  | discharged hp => simp [powerOffsDone, powerOnsDone, hp]
  | relayClosed hp | softwareReset hp =>
    have hone := hstarted (Or.inr (Or.inr (Or.inl hp)))
    simp only [powerOffsDone, powerOnsDone, hp, isPowerOff, isPowerOn, List.countP_cons,
      List.countP_nil, decide_true, reduceCtorEq, if_true, if_false, or_self, or_true,
      Bool.false_eq_true]
    omega
  | booted hp => simp [powerOffsDone, powerOnsDone, hp]
  | lockedOut hp => exact absurd (hs.defective.2 hp) (by simp [hw])
  | unknownMechanism value hm _ => exact absurd hm (hs.mechanism value)
  | invalidPhase value hp => exact absurd hp (hs.valid value)

end ManagedNode

namespace FdirManagerNode

open ManagedNode

variable {s t : FdirManagerNode} {tick : MonitorTick} {node node' : ManagedNode} {c : Health}
  {o : List FdirAction} {tr : List MonitorStep}

/-! ## One visit -/

theorem Visits.striking (h : Visits s tick node c node' o) (hs : Striking node) :
    Striking node' := by
  have hc := h.counted hs.toCounted
  cases h with
  | lockedOut => exact hs
  | active hw => exact ⟨hc, by simp [InRecovery], by simp [hw]⟩
  | unconfigured => exact ⟨hc, hs.started, hs.exhausted⟩
  | inactive => exact ⟨hc, hs.started, hs.exhausted⟩
  | failed hw _ _ hr => exact hr.striking ⟨⟨hs.strikes, hs.defective, hs.valid, hs.mechanism⟩,
      hs.started, hs.exhausted⟩ hw

/-- Between `ACTIVE` reports the actuations of a visit are paid for by the potentials. -/
theorem Visits.done (h : Visits s tick node c node' o) (hs : Striking node)
    (hactive : ¬ s.PolledActive tick node) :
    node.powerOffsDone + o.countP (isPowerOff node.name) ≤ node'.powerOffsDone ∧
      node.powerOnsDone + o.countP (isPowerOn node.name) ≤ node'.powerOnsDone := by
  cases h with
  | lockedOut => simp
  | active hw hstate => exact absurd ⟨hw, hstate⟩ hactive
  | unconfigured | inactive => simp +decide [isPowerOff, isPowerOn, powerOffsDone, powerOnsDone]
  | failed hw _ _ hr =>
    have hdone := hr.done ⟨⟨hs.strikes, hs.defective, hs.valid, hs.mechanism⟩,
      hs.started, hs.exhausted⟩ hw
    rw [List.countP_cons_of_neg (by simp [isPowerOff]),
      List.countP_cons_of_neg (by simp [isPowerOn])]
    exact hdone

/-! ## Whole runs -/

/-- The recovery attempts a tick starts for a component. -/
def powerOffs (nodeName : String) (e : MonitorStep) : ℕ := e.output.countP (isPowerOff nodeName)

/-- The closings of the relay of a component in a tick. -/
def powerOns (nodeName : String) (e : MonitorStep) : ℕ := e.output.countP (isPowerOn nodeName)

/-- What is only done for a component is counted among its commands. -/
theorem countP_commands {nodeName : String} {p : FdirAction → Bool}
    (hp : ∀ a, p a = true → a.component = some nodeName) (o : List FdirAction) :
    (commands nodeName o).countP p = o.countP p := by
  rw [commands, List.countP_filter]
  refine List.countP_congr fun a _ => ?_
  have := hp a
  simp only [Bool.and_eq_true, decide_eq_true_eq]
  tauto

theorem component_of_isPowerOff {nodeName : String} (a : FdirAction)
    (h : isPowerOff nodeName a = true) : a.component = some nodeName := by
  cases a with
  | relay name topic data =>
    cases data with
    | false => exact congrArg some (of_decide_eq_true h)
    | true => cases h
  | changeState name id => exact congrArg some (of_decide_eq_true h).1
  | _ => cases h

theorem component_of_isPowerOn {nodeName : String} (a : FdirAction)
    (h : isPowerOn nodeName a = true) : a.component = some nodeName := by
  cases a with
  | relay name topic data =>
    cases data with
    | false => cases h
    | true => exact congrArg some (of_decide_eq_true h)
  | _ => cases h

theorem component_striking {tr : List ComponentStep} (h : component.Run node tr node')
    (hs : Striking node) : Striking node' :=
  h.invariant hs fun _ he hpre => (component_visits he).striking hpre

/-- A run of one component without an `ACTIVE` report actuates it at most three times. -/
theorem component_done {tr : List ComponentStep} (h : component.Run node tr node')
    (hs : Striking node) (hactive : ∀ e ∈ tr, ¬ FoundActive e) :
    (tr.map fun e => e.output.countP (isPowerOff node.name)).sum ≤ maxRecoveryRetries ∧
      (tr.map fun e => e.output.countP (isPowerOn node.name)).sum ≤ maxRecoveryRetries := by
  obtain ⟨hoff, hon⟩ := (component_striking h hs).done_le
  have hstep : ∀ e : ComponentStep, component.Takes e → ¬ FoundActive e →
      (Striking e.pre ∧ e.pre.name = node.name) →
      (Striking e.post ∧ e.post.name = node.name) ∧
        e.pre.powerOffsDone + e.output.countP (isPowerOff node.name) ≤ e.post.powerOffsDone ∧
        e.pre.powerOnsDone + e.output.countP (isPowerOn node.name) ≤ e.post.powerOnsDone := by
    rintro e he hno ⟨hpre, hname⟩
    have hv := component_visits he
    refine ⟨⟨hv.striking hpre, hv.frame.1.trans hname⟩, ?_⟩
    rw [← hname]
    exact hv.done hpre hno
  have hsumOff := h.sum_le (I := fun m => Striking m ∧ m.name = node.name) (f := powerOffsDone)
    ⟨hs, rfl⟩ hactive fun e he hno hpre =>
    ⟨(hstep e he hno hpre).1, (hstep e he hno hpre).2.1⟩
  have hsumOn := h.sum_le (I := fun m => Striking m ∧ m.name = node.name) (f := powerOnsDone)
    ⟨hs, rfl⟩ hactive fun e he hno hpre =>
    ⟨(hstep e he hno hpre).1, (hstep e he hno hpre).2.2⟩
  exact ⟨(Nat.le_add_left ..).trans (hsumOff.trans hoff),
    (Nat.le_add_left ..).trans (hsumOn.trans hon)⟩

/-- **Three strikes.** In every state of a run from an accepted configuration, a component is
defective exactly in the phase `DEFECTIVE` and exactly at the fourth strike, and inside a recovery it
has one to three strikes. In any part of the run in which a component does not report `ACTIVE`, at
most three recovery attempts are started for it, and its relay is closed at most three times. -/
theorem three_strikes {policy : FdirPolicy} {clock : String → Time}
    (hs : Constructed policy clock s) (h : ticks.Run s tr t) :
    (∀ node ∈ t.managedNodes,
      (node.isDefective = true ↔ node.phase = .defective) ∧
      (node.isDefective = true ↔ node.retryCount = 4) ∧ node.retryCount ≤ 4 ∧
      (node.InRecovery → 1 ≤ node.retryCount ∧ node.retryCount ≤ 3)) ∧
    ∀ node ∈ s.managedNodes, ∀ past window rest, tr = past ++ (window ++ rest) →
      (∀ e ∈ window, ¬ ReportsActive node.name e) →
        (window.map (powerOffs node.name)).sum ≤ 3 ∧ (window.map (powerOns node.name)).sum ≤ 3 := by
  have hsound := sound_of_constructed hs
  constructor
  · have hall : ∀ node ∈ t.managedNodes, Striking node := by
      refine h.invariant (I := fun s => ∀ node ∈ s.managedNodes, Striking node)
        (fun node hnode => striking_of_fresh (hs.fresh node hnode)) fun e he hpre node hnode => ?_
      obtain ⟨-, hpost, -⟩ := takes_iff.1 he
      rw [hpost] at hnode
      obtain ⟨m, hm, rfl⟩ := List.mem_map.1 hnode
      exact (e.pre.visits e.input m).striking (hpre m hm)
    intro node hnode
    obtain ⟨⟨hstrikes, hdefective, -, -⟩, hstarted, hexhausted⟩ := hall node hnode
    unfold maxRecoveryRetries at hstrikes hexhausted
    refine ⟨hdefective, ⟨hexhausted, fun hr => ?_⟩, ?_, fun hp => ⟨hstarted hp, hstrikes ?_⟩⟩
    · by_contra hw
      have hle := hstrikes (by simpa using hw)
      omega
    · cases hw : node.isDefective with
      | true => exact (hexhausted hw).le
      | false => exact (hstrikes hw).trans (by decide)
    · rw [← Bool.not_eq_true, hdefective]
      rcases hp with hp | hp | hp | hp <;> simp [hp]
  · rintro node hnode past window rest rfl hactive
    obtain ⟨x, hpast, hrest⟩ := h.split
    obtain ⟨y, hwindow, -⟩ := hrest.split
    obtain ⟨_, m, hm, hx, -⟩ := (componentView node.name).project hpast ⟨hsound, hnode, rfl⟩
    obtain ⟨tr', m', hm', -, hmatch⟩ := (componentView node.name).project hwindow hx
    have hstart : Striking m := component_striking hm (striking_of_fresh (hs.fresh node hnode))
    have hname : m.name = node.name := hx.2.2
    have hactive' : ∀ e ∈ tr', ¬ FoundActive e :=
      forall_of_forall₂ hmatch (fun _ _ hab => mt (foundActive_iff hab).1) hactive
    have hcount : ∀ p : FdirAction → Bool, (∀ a, p a = true → a.component = some node.name) →
        (window.map fun e => e.output.countP p) = tr'.map fun e => e.output.countP p := by
      intro p hp
      refine map_eq_of_forall₂ hmatch fun e e' hab => ?_
      rw [hab.output]
      exact (countP_commands hp e.output).symm
    unfold powerOffs powerOns
    rw [hcount _ component_of_isPowerOff, hcount _ component_of_isPowerOn, ← hname]
    exact component_done hm' hstart hactive'

/-- The front lidar is active once and never answers again. -/
def failingLidar : List MonitorTick :=
  pollTick (.replied LifecycleState.primaryStateActive) 0 ::
    (List.range 16).map fun k => pollTick .timedOut (50 * (k + 1))

theorem three_strikes_failingLidar :
    (∀ node ∈ (ticks.final lidarManager failingLidar).managedNodes,
      node.isDefective = true ∧ node.retryCount = 4 ∧ node.phase = .defective) ∧
    (((ticks.trace lidarManager failingLidar).drop 1).map (powerOffs "mona_lidar_front")).sum ≤ 3 ∧
    (((ticks.trace lidarManager failingLidar).drop 1).map (powerOns "mona_lidar_front")).sum ≤ 3 := by
  have hrun := ticks.run_trace lidarManager failingLidar (by decide +kernel)
  obtain ⟨hstate, hcount⟩ := three_strikes lidarManager_constructed hrun
  constructor
  · intro node hnode
    have hd : node.isDefective = true := by decide +kernel +revert
    obtain ⟨hphase, hretry, -⟩ := hstate node hnode
    exact ⟨hd, hretry.1 hd, hphase.1 hd⟩
  · refine hcount _ (List.mem_singleton_self _) ((ticks.trace lidarManager failingLidar).take 1)
      ((ticks.trace lidarManager failingLidar).drop 1) [] ?_ (by decide +kernel)
    rw [List.append_nil, List.take_append_drop]

end FdirManagerNode

end MonaRobot
