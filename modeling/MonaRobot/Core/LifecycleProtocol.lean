import MonaRobot.Core.Component

/-!
# The manager and a component that keeps the protocol

A component that is managed by the lifecycle protocol answers each poll with its state, starts each
transition that is requested and permitted, and completes it when it is ready; meanwhile it is in a
transition state. `supervision` is the manager together with one such component, which never fails;
the other components are as the environment has them.

The switch of `monitor_loop` knows the primary states only, and takes a transition state for a
failure. So a component is left alone exactly if each transition is over before the next poll
(`undisturbed_iff`).
-/

namespace MonaRobot

open Reactive

/-- The states of a component that is brought up; in the transition states a callback is running. -/
inductive ComponentState
  | unconfigured
  | configuring
  | inactive
  | activating
  | active
  deriving DecidableEq

namespace ComponentState

/-- What a poll is answered with. -/
def stateId : ComponentState → UInt8
  | .unconfigured => LifecycleState.primaryStateUnconfigured
  | .configuring => LifecycleState.transitionStateConfiguring
  | .inactive => LifecycleState.primaryStateInactive
  | .activating => LifecycleState.transitionStateActivating
  | .active => LifecycleState.primaryStateActive

/-- A transition is running. -/
def InTransition (c : ComponentState) : Prop := c = .configuring ∨ c = .activating

instance (c : ComponentState) : Decidable c.InTransition := inferInstanceAs (Decidable (_ ∨ _))

/-- A request starts the transition, where it is permitted; else it is refused. -/
def request (c : ComponentState) (transitionId : UInt8) : ComponentState :=
  if c = .unconfigured ∧ transitionId = LifecycleTransition.transitionConfigure then .configuring
  else if c = .inactive ∧ transitionId = LifecycleTransition.transitionActivate then .activating
  else c

/-- The transition that is running succeeds. -/
def complete : ComponentState → ComponentState
  | .configuring => .inactive
  | .activating => .active
  | c => c

end ComponentState

/-- The tick with the poll of one component answered. -/
def MonitorTick.replying (tick : MonitorTick) (nodeName : String) (id : UInt8) : MonitorTick :=
  { tick with outcome := Function.update tick.outcome nodeName (.replied id) }

/-- The transitions that are requested of a component. -/
def requests (nodeName : String) (o : List FdirAction) : List UInt8 :=
  o.filterMap fun
    | .changeState name transitionId => if name = nodeName then some transitionId else none
    | _ => none

/-- What happens to the manager and its component: a tick, or the end of the running transition. -/
inductive SupervisionInput
  | tick (tick : MonitorTick)
  | complete

/-- The manager and one of its components. -/
structure Supervised where
  manager : FdirManagerNode
  component : ComponentState

/-- A step of the manager and its component. -/
abbrev SupervisionStep := Step Supervised SupervisionInput (List FdirAction)

namespace FdirManagerNode

/-- The manager with a component of this name that keeps the protocol. -/
def supervision (nodeName : String) : Machine Supervised SupervisionInput (List FdirAction) where
  step s
    | .tick tick => (ticks.step s.manager (tick.replying nodeName s.component.stateId)).map fun r =>
        (⟨r.1, (requests nodeName r.2).foldl ComponentState.request s.component⟩, r.2)
    | .complete => some ({ s with component := s.component.complete }, [])

/-- In the step the component is polled while a transition of it is running. -/
def PolledInTransition (e : SupervisionStep) : Prop :=
  match e.input with
  | .tick _ => e.pre.component.InTransition
  | .complete => False

instance : DecidablePred PolledInTransition := fun e =>
  match e with
  | ⟨_, .tick _, _, _⟩ => inferInstanceAs (Decidable (ComponentState.InTransition _))
  | ⟨_, .complete, _, _⟩ => inferInstanceAs (Decidable False)

/-- The step is no recovery step for the component: its counter is not raised, its cleanup is not
requested and its relay is not opened. -/
structure Undisturbed (nodeName : String) (e : SupervisionStep) : Prop where
  retryCount : ∀ node ∈ e.pre.manager.record nodeName, ∀ node' ∈ e.post.manager.record nodeName,
    node'.retryCount ≤ node.retryCount
  cleanup : .changeState nodeName LifecycleTransition.transitionCleanup ∉ e.output
  relay : false ∉ relayCommands nodeName e.output

instance (nodeName : String) : DecidablePred (Undisturbed nodeName) := fun e =>
  decidable_of_iff ((∀ node ∈ e.pre.manager.record nodeName,
      ∀ node' ∈ e.post.manager.record nodeName, node'.retryCount ≤ node.retryCount) ∧
      .changeState nodeName LifecycleTransition.transitionCleanup ∉ e.output ∧
      false ∉ relayCommands nodeName e.output)
    ⟨fun ⟨h₁, h₂, h₃⟩ => ⟨h₁, h₂, h₃⟩, fun ⟨h₁, h₂, h₃⟩ => ⟨h₁, h₂, h₃⟩⟩

variable {s t : Supervised} {m : FdirManagerNode} {tick : MonitorTick} {node node' : ManagedNode}
  {h : Health} {o : List FdirAction} {tr : List SupervisionStep} {nodeName : String}
  {c : ComponentState}

/-! ## One visit -/

/-- A component that is not in recovery. -/
def Steady (node : ManagedNode) : Prop := node.isDefective = false ∧ node.phase = .nominal

/-- A component in a primary state is not treated as failed. -/
theorem Visits.steady (hv : Visits m tick node h node' o) (hs : Steady node)
    (hstate : m.getNodeState (tick.outcome node.name) node.name = c.stateId)
    (hc : ¬ c.InTransition) :
    Steady node' ∧ node'.retryCount ≤ node.retryCount ∧
      .changeState node.name LifecycleTransition.transitionCleanup ∉ o ∧
      false ∉ relayCommands node.name o := by
  obtain ⟨hworking, hphase⟩ := hs
  cases hv with
  | lockedOut hd => exact absurd (hworking.symm.trans hd) Bool.false_ne_true
  | active => exact ⟨⟨hworking, rfl⟩, Nat.zero_le _, by simp, by simp⟩
  | unconfigured | inactive => exact ⟨⟨hworking, hphase⟩, le_rfl, by simp; decide, by simp⟩
  | failed _ hpoll hne _ =>
    obtain ⟨hactive, hunconfigured, hinactive⟩ := hne
    rw [hstate] at hpoll
    subst hpoll
    cases c with
    | unconfigured => exact absurd rfl hunconfigured
    | inactive => exact absurd rfl hinactive
    | active => exact absurd rfl hactive
    | configuring => exact absurd (Or.inl rfl) hc
    | activating => exact absurd (Or.inr rfl) hc

/-- A component in a transition state is treated as failed: it is a strike. -/
theorem Visits.struck (hv : Visits m tick node h node' o) (hs : Steady node)
    (hstate : m.getNodeState (tick.outcome node.name) node.name = c.stateId)
    (hc : c.InTransition) : node'.retryCount = node.retryCount + 1 := by
  obtain ⟨hworking, hphase⟩ := hs
  have hid : c.stateId ≠ LifecycleState.primaryStateActive ∧
      c.stateId ≠ LifecycleState.primaryStateUnconfigured ∧
      c.stateId ≠ LifecycleState.primaryStateInactive := by
    rcases hc with rfl | rfl <;> decide
  cases hv with
  | lockedOut hd => exact absurd (hworking.symm.trans hd) Bool.false_ne_true
  | active _ hpoll => exact absurd (hstate.symm.trans hpoll) hid.1
  | unconfigured _ hpoll => exact absurd (hstate.symm.trans hpoll) hid.2.1
  | inactive _ hpoll => exact absurd (hstate.symm.trans hpoll) hid.2.2
  | failed _ _ _ hr =>
    cases hr with
    | exhausted | strike => rfl
    | relayOpened hp | cleanupRequested hp | discharging hp | discharged hp | relayClosed hp
    | softwareReset hp | booting hp | booted hp | lockedOut hp =>
      exact absurd (hphase.symm.trans hp) (by simp)
    | unknownMechanism value _ hp =>
      rcases hp with hp | hp <;> exact absurd (hphase.symm.trans hp) (by simp)
    | invalidPhase value hp => exact absurd (hphase.symm.trans hp) (by simp)

/-! ## Every run -/

theorem getNodeState_replying (tick : MonitorTick) (id : UInt8) (h : node.name ∈ m.getStateClients) :
    m.getNodeState ((tick.replying node.name id).outcome node.name) node.name = id := by
  simp [getNodeState, h, MonitorTick.replying]

/-- The manager is sound, and the component of this name is not in recovery. -/
def SteadyRecord (nodeName : String) (s : Supervised) : Prop :=
  Sound s.manager ∧ ∃ node ∈ s.manager.managedNodes, node.name = nodeName ∧ Steady node

/-- After a tick the record under the name is the one of the visit. -/
theorem record_tick {e : MonitorStep} (he : ticks.Takes e) (hs : Sound e.pre)
    (hnode : node ∈ e.pre.managedNodes) :
    e.post.record node.name = some (e.pre.updated e.input node) ∧
      e.pre.updated e.input node ∈ e.post.managedNodes := by
  obtain ⟨-, hpost, -⟩ := takes_iff.1 he
  have hmem : e.pre.updated e.input node ∈ e.post.managedNodes := by
    rw [hpost]
    exact List.mem_map_of_mem hnode
  have hrecord := record_eq (sound_step he hs) hmem
  rw [name_updated] at hrecord
  exact ⟨hrecord, hmem⟩

/-- A step ends the running transition, or is a tick in which the poll of the component is answered.
-/
theorem supervision_cases {e : SupervisionStep} (he : (supervision nodeName).Takes e) :
    (e.input = .complete ∧ e.post.manager = e.pre.manager ∧ e.output = []) ∨
    ∃ tick, e.input = .tick tick ∧ ticks.Takes ⟨e.pre.manager,
      tick.replying nodeName e.pre.component.stateId, e.output, e.post.manager⟩ := by
  obtain ⟨s, i, o, s'⟩ := e
  cases i with
  | complete =>
    obtain ⟨hpost, hout⟩ := Prod.mk.inj (Option.some.inj he)
    exact Or.inl ⟨rfl, (congrArg Supervised.manager hpost).symm, hout.symm⟩
  | tick tick =>
    obtain ⟨r, hstep, hr⟩ := Option.map_eq_some_iff.1 he
    obtain ⟨hpost, hout⟩ := Prod.mk.inj hr
    refine Or.inr ⟨tick, rfl, hstep.trans (congrArg some (Prod.ext ?_ hout))⟩
    exact congrArg Supervised.manager hpost

/-- From a steady record a step leaves the component alone exactly if it does not poll it in a
transition, and then the record stays steady. -/
theorem undisturbed_step {e : SupervisionStep} (he : (supervision nodeName).Takes e)
    (hs : SteadyRecord nodeName e.pre) :
    (Undisturbed nodeName e ↔ ¬ PolledInTransition e) ∧
      (¬ PolledInTransition e → SteadyRecord nodeName e.post) := by
  obtain ⟨hsound, node, hnode, rfl, hsteady⟩ := hs
  rcases supervision_cases he with ⟨hin, hpost, hout⟩ | ⟨tick, hin, htick⟩
  · have hno : ¬ PolledInTransition e := by simp [PolledInTransition, hin]
    refine ⟨iff_of_true ⟨?_, by simp [hout], by simp [hout]⟩ hno, fun _ => ?_⟩
    · rw [hpost]
      intro m hm m' hm'
      rw [Option.mem_unique hm hm']
    · rw [SteadyRecord, hpost]
      exact ⟨hsound, node, hnode, rfl, hsteady⟩
  · have hpolled : PolledInTransition e ↔ e.pre.component.InTransition := by
      simp [PolledInTransition, hin]
    have hv := e.pre.manager.visits (tick.replying node.name e.pre.component.stateId) node
    have hstate := getNodeState_replying tick e.pre.component.stateId
      (hsound.getState node hnode)
    have hpre := record_eq hsound hnode
    obtain ⟨hrecord, hnode'⟩ := record_tick htick hsound hnode
    have hmem : ∀ a, a.component = some node.name → (a ∈ e.output ↔
        a ∈ e.pre.manager.actions (tick.replying node.name e.pre.component.stateId) node) := by
      intro a ha
      rw [← commands_output htick hsound hnode]
      simp [commands, ha]
    rw [hpolled]
    by_cases hc : e.pre.component.InTransition
    · refine ⟨iff_of_false (fun hu => ?_) (fun hno => hno hc), fun hno => absurd hc hno⟩
      have hle := hu.retryCount node hpre _ hrecord
      rw [hv.struck hsteady hstate hc] at hle
      exact absurd hle (Nat.not_succ_le_self _)
    · obtain ⟨hsteady', hle, hcleanup, hrelay⟩ := hv.steady hsteady hstate hc
      refine ⟨iff_of_true ⟨?_, ?_, ?_⟩ hc, fun _ =>
        ⟨sound_step htick hsound, _, hnode', name_updated .., hsteady'⟩⟩
      · intro m hm m' hm'
        rw [Option.mem_unique hm hpre, Option.mem_unique hm' hrecord]
        exact hle
      · rwa [hmem _ rfl]
      · rw [mem_relayCommands] at hrelay ⊢
        rintro ⟨topic, ha⟩
        exact hrelay ⟨topic, (hmem _ rfl).1 ha⟩

/-- **When the manager leaves the component alone.** In every run of a constructed manager with a
component that answers every poll and completes every transition, the counter of the component is
never raised, its cleanup never requested and its relay never opened, exactly if no tick polls it
while a transition of it is running. -/
theorem undisturbed_iff {policy : FdirPolicy} {clock : String → Time}
    (hc : Constructed policy clock s.manager) (hnode : node ∈ s.manager.managedNodes)
    (hr : (supervision node.name).Run s tr t) :
    (∀ e ∈ tr, Undisturbed node.name e) ↔ ∀ e ∈ tr, ¬ PolledInTransition e :=
  hr.forall_mem_iff (J := SteadyRecord node.name)
    ⟨sound_of_constructed hc, node, hnode, rfl, (hc.fresh node hnode).working,
      (hc.fresh node hnode).phase⟩
    fun _ _ => undisturbed_step

/-- The poll before, and the poll after each transition. -/
def promptInputs : List SupervisionInput :=
  [.tick (pollTick .notReady 0), .complete, .tick (pollTick .notReady 1), .complete,
    .tick (pollTick .notReady 2)]

theorem undisturbed_iff_prompt :
    ((supervision "mona_lidar_front").final ⟨lidarManager, .unconfigured⟩
      promptInputs).component = .active ∧
    ∀ e ∈ (supervision "mona_lidar_front").trace ⟨lidarManager, .unconfigured⟩ promptInputs,
      Undisturbed "mona_lidar_front" e :=
  ⟨by decide +kernel,
    (undisturbed_iff (s := ⟨lidarManager, .unconfigured⟩) lidarManager_constructed
      (List.mem_singleton_self _)
      ((supervision "mona_lidar_front").run_trace _ _ (by decide +kernel))).2 (by decide +kernel)⟩

/-- The configuring takes three ticks, the activating none. -/
def slowInputs : List SupervisionInput :=
  [.tick (pollTick .notReady 0), .tick (pollTick .notReady 1), .tick (pollTick .notReady 2),
    .complete, .tick (pollTick .notReady 3), .complete]

/-- A front lidar that takes three ticks to configure comes up, but before it is struck, and its
relay is opened. -/
theorem slowLidar_disturbed :
    let tr := (supervision "mona_lidar_front").trace ⟨lidarManager, .unconfigured⟩ slowInputs
    let t := (supervision "mona_lidar_front").final ⟨lidarManager, .unconfigured⟩ slowInputs
    Constructed lidarPolicy (fun _ => 0) lidarManager ∧
    (supervision "mona_lidar_front").Run ⟨lidarManager, .unconfigured⟩ tr t ∧
    t.component = .active ∧ (¬ ∀ e ∈ tr, Undisturbed "mona_lidar_front" e) ∧
    ∃ e ∈ tr, false ∈ relayCommands "mona_lidar_front" e.output := by
  refine ⟨lidarManager_constructed, (supervision _).run_trace _ _ (by decide +kernel), ?_⟩
  decide +kernel

end FdirManagerNode

end MonaRobot
