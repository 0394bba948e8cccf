import MonaRobot.Core.Recovery
import MonaRobot.Foundations.Machine

/-!
# The monitor loop

`monitor_loop`: one tick polls the managed components in turn, starts or continues what each of them
needs, and publishes the health of the whole. A tick is given what the environment decides: the
outcome of each poll and the clock reading of each recovery step. The replies to the requested
transitions are ignored by the source, so they are not part of it.

`visits` lists what a tick can do with one component; a component is treated independently of the
others (`monitorNode_eq`), so the sweep of the source is a maximum, a map and a concatenation
(`monitorLoop_eq`), in any order of the components (`monitorLoop_perm`).

`FdirManagerNode.ticks` is the machine of ticks executed one after another. A relay command without a
publisher dereferences a null pointer, and the machine has no step there; after an accepted
configuration it never happens (`takes_monitorLoop`).
-/

namespace MonaRobot

open Reactive

/-- How a call of the `get_state` service ends. -/
inductive GetStateOutcome
  | notReady
  | replied (id : UInt8)
  | aborted
  | timedOut
  | failed
  deriving DecidableEq

/-- What the environment decides in a tick, by node name. -/
structure MonitorTick where
  outcome : String → GetStateOutcome
  now : String → Time

/-- Every poll ends the same way, at one clock reading. -/
def pollTick (outcome : GetStateOutcome) (now : Time) : MonitorTick :=
  ⟨fun _ => outcome, fun _ => now⟩

/-- The accumulators of the loop. -/
structure Health where
  globalState : UInt8
  allActive : Bool
  deriving DecidableEq

namespace Health

/-- Two parts of the components together: the larger state, and all active. -/
def join (h₁ h₂ : Health) : Health :=
  ⟨max h₁.globalState h₂.globalState, h₁.allActive && h₂.allActive⟩

/-- Before the first component: startup, and all active until one is not. -/
def initial : Health := ⟨FdirState.stateSystemStartup, true⟩

@[simp] theorem initial_join (h : Health) : initial.join h = h := by
  simp [join, initial]

@[simp] theorem join_initial (h : Health) : h.join initial = h := by
  simp [join, initial]

instance : Std.Commutative join := ⟨fun a b => by simp [join, max_comm, Bool.and_comm]⟩

instance : Std.Associative join := ⟨fun a b c => by simp [join, max_assoc, Bool.and_assoc]⟩

theorem foldl_join_globalState_le_iff {b : UInt8} {hs : List Health} {h : Health} :
    (hs.foldl join h).globalState ≤ b ↔ h.globalState ≤ b ∧ ∀ x ∈ hs, x.globalState ≤ b := by
  induction hs generalizing h with
  | nil => simp
  | cons x hs ih => simp [ih, join, and_assoc]

theorem foldl_join_allActive {hs : List Health} {h : Health} :
    (hs.foldl join h).allActive = true ↔
      h.allActive = true ∧ ∀ x ∈ hs, x.allActive = true := by
  induction hs generalizing h with
  | nil => simp
  | cons x hs ih => simp [ih, join, and_assoc]

end Health

namespace FdirManagerNode

/-! ## One component -/

/-- `get_node_state`: `UNKNOWN` unless the service replies. -/
def getNodeState (s : FdirManagerNode) (outcome : GetStateOutcome) (nodeName : String) : UInt8 :=
  if nodeName ∈ s.getStateClients then
    match outcome with
    | .replied id => id
    | _ => LifecycleState.primaryStateUnknown
  else LifecycleState.primaryStateUnknown

/-- `ACTIVE` is what the service of a known node replies, and nothing else. -/
theorem getNodeState_eq_active_iff {s : FdirManagerNode} {outcome : GetStateOutcome}
    {nodeName : String} : s.getNodeState outcome nodeName = LifecycleState.primaryStateActive ↔
      nodeName ∈ s.getStateClients ∧ outcome = .replied LifecycleState.primaryStateActive := by
  unfold getNodeState
  split_ifs with hclient
  · rw [and_iff_right hclient]
    cases outcome with
    | replied id => exact GetStateOutcome.replied.injEq .. ▸ Iff.rfl
    | _ => exact iff_of_false (by decide) (by simp)
  · exact iff_of_false (by decide) fun h => hclient h.1

/-- The severity of a failed component, by its tier. -/
def tierState : Tier → UInt8
  | .fatal => FdirState.stateEmergency
  | .primary => FdirState.stateProtectiveStop
  | .auxiliary => FdirState.stateDegraded

/-- The state a failed component is counted with after its recovery step. -/
def failureState (node : ManagedNode) : UInt8 :=
  if node.isDefective then FdirState.stateEmergency
  else if ManagedNode.maxRecoveryRetries < node.retryCount then tierState node.tier
  else FdirState.stateSystemStartup

/-- The check for a zombie and the switch over the polled state, for a record that has stored it. -/
def evaluate (now : Time) (h : Health) (node : ManagedNode) :
    Health × ManagedNode × List FdirAction :=
  if node.isDefective = true ∧ node.currentState = LifecycleState.primaryStateActive then
    (⟨FdirState.stateEmergency, false⟩, node, [])
  else if node.currentState = LifecycleState.primaryStateActive then
    (h, { node with retryCount := 0, phase := .nominal }, [])
  else if node.currentState = LifecycleState.primaryStateUnconfigured then
    (⟨max h.globalState FdirState.stateSystemStartup, false⟩, node,
      [.changeState node.name LifecycleTransition.transitionConfigure])
  else if node.currentState = LifecycleState.primaryStateInactive then
    (⟨max h.globalState FdirState.stateSystemStartup, false⟩, node,
      [.changeState node.name LifecycleTransition.transitionActivate])
  else
    let r := node.handleRecoveryFsm now
    (⟨max h.globalState (failureState r.1), false⟩, r.1, r.2)

/-- One pass of the loop of `monitor_loop`. -/
def monitorNode (s : FdirManagerNode) (tick : MonitorTick) (h : Health) (node : ManagedNode) :
    Health × ManagedNode × List FdirAction :=
  if node.isDefective then
    -- locked out: not polled any more
    (⟨max h.globalState FdirState.stateEmergency, false⟩, node, [])
  else
    let r := evaluate (tick.now node.name) h
      { node with currentState := s.getNodeState (tick.outcome node.name) node.name }
    (r.1, r.2.1, .getState node.name :: r.2.2)

/-! ## The tick -/

def diagnosticMessage (allActive : Bool) : String :=
  if allActive then "Nominal operation." else "One or more components are recovering or failed."

/-- The health that is broadcast: `SOFTWARE_OK` if the full software stack is operational. -/
def verdict (h : Health) : UInt8 :=
  if h.allActive then FdirState.stateSoftwareOk else h.globalState

/-- What a tick publishes for the health it found. -/
def publish (h : Health) : List FdirAction :=
  .healthState (verdict h) (diagnosticMessage h.allActive) ::
    (if verdict h = FdirState.stateEmergency then [.contactors false, .motorCmd 0] else []) ++
    [.heartbeat true]

def monitorLoop (s : FdirManagerNode) (tick : MonitorTick) : FdirManagerNode × List FdirAction :=
  let r := Loop.sweep (s.monitorNode tick) Health.initial s.managedNodes
  ({ s with managedNodes := r.2.1 }, r.2.2 ++ publish r.1)

/-- A command on a relay has a publisher. -/
def hasPublisher (s : FdirManagerNode) : FdirAction → Bool
  | .relay nodeName _ _ => decide (nodeName ∈ s.relayPubs)
  | _ => true

/-- Ticks executed one after another. -/
def ticks : Machine FdirManagerNode MonitorTick (List FdirAction) where
  step s tick := if (s.monitorLoop tick).2.all s.hasPublisher then some (s.monitorLoop tick) else none

/-- A step of the manager. -/
abbrev MonitorStep := Step FdirManagerNode MonitorTick (List FdirAction)

/-! ## What a tick does with a component -/

/-- The part of one component in a tick: what it contributes to the health, its new record and the
actions for it. -/
inductive Visits (s : FdirManagerNode) (tick : MonitorTick) (node : ManagedNode) :
    Health → ManagedNode → List FdirAction → Prop
  | lockedOut (_ : node.isDefective = true) :
      Visits s tick node ⟨FdirState.stateEmergency, false⟩ node []
  | active (_ : node.isDefective = false)
      (_ : s.getNodeState (tick.outcome node.name) node.name = LifecycleState.primaryStateActive) :
      Visits s tick node Health.initial
        { node with
          currentState := LifecycleState.primaryStateActive
          retryCount := 0
          phase := .nominal }
        [.getState node.name]
  | unconfigured (_ : node.isDefective = false)
      (_ : s.getNodeState (tick.outcome node.name) node.name =
        LifecycleState.primaryStateUnconfigured) :
      Visits s tick node ⟨FdirState.stateSystemStartup, false⟩
        { node with currentState := LifecycleState.primaryStateUnconfigured }
        [.getState node.name, .changeState node.name LifecycleTransition.transitionConfigure]
  | inactive (_ : node.isDefective = false)
      (_ : s.getNodeState (tick.outcome node.name) node.name =
        LifecycleState.primaryStateInactive) :
      Visits s tick node ⟨FdirState.stateSystemStartup, false⟩
        { node with currentState := LifecycleState.primaryStateInactive }
        [.getState node.name, .changeState node.name LifecycleTransition.transitionActivate]
  | failed {state : UInt8} {node' : ManagedNode} {o : List FdirAction}
      (_ : node.isDefective = false)
      (_ : s.getNodeState (tick.outcome node.name) node.name = state)
      (_ : state ≠ LifecycleState.primaryStateActive ∧
        state ≠ LifecycleState.primaryStateUnconfigured ∧
        state ≠ LifecycleState.primaryStateInactive)
      (_ : ManagedNode.Recovers (tick.now node.name) { node with currentState := state } node' o) :
      Visits s tick node ⟨failureState node', false⟩ node' (.getState node.name :: o)

/-- The contribution of a component to the health. -/
def contribution (s : FdirManagerNode) (tick : MonitorTick) (node : ManagedNode) : Health :=
  (s.monitorNode tick Health.initial node).1

/-- The record of a component after the tick. -/
def updated (s : FdirManagerNode) (tick : MonitorTick) (node : ManagedNode) : ManagedNode :=
  (s.monitorNode tick Health.initial node).2.1

/-- The actions of a tick for a component. -/
def actions (s : FdirManagerNode) (tick : MonitorTick) (node : ManagedNode) : List FdirAction :=
  (s.monitorNode tick Health.initial node).2.2

/-- A working component that is polled `state`: the switch of `monitor_loop`. -/
theorem monitorNode_working (s : FdirManagerNode) (tick : MonitorTick) (h : Health)
    {node : ManagedNode} (hd : node.isDefective = false) {state : UInt8}
    (hstate : s.getNodeState (tick.outcome node.name) node.name = state) :
    s.monitorNode tick h node =
      if state = LifecycleState.primaryStateActive then
        (h, { node with currentState := state, retryCount := 0, phase := .nominal },
          [.getState node.name])
      else if state = LifecycleState.primaryStateUnconfigured then
        (h.join ⟨FdirState.stateSystemStartup, false⟩, { node with currentState := state },
          [.getState node.name, .changeState node.name LifecycleTransition.transitionConfigure])
      else if state = LifecycleState.primaryStateInactive then
        (h.join ⟨FdirState.stateSystemStartup, false⟩, { node with currentState := state },
          [.getState node.name, .changeState node.name LifecycleTransition.transitionActivate])
      else
        let r := { node with currentState := state }.handleRecoveryFsm (tick.now node.name)
        (h.join ⟨failureState r.1, false⟩, r.1, .getState node.name :: r.2) := by
  simp only [monitorNode, evaluate, hd, hstate, Bool.false_eq_true, if_false, false_and,
    Health.join, Bool.and_false]
  split_ifs <;> rfl

/-- A component is treated independently of the others: the accumulators are only joined with its
contribution. -/
theorem monitorNode_eq (s : FdirManagerNode) (tick : MonitorTick) (h : Health)
    (node : ManagedNode) : s.monitorNode tick h node =
      (h.join (s.contribution tick node), s.updated tick node, s.actions tick node) := by
  unfold contribution updated actions
  cases hd : node.isDefective with
  | true =>
    simp [monitorNode, hd, Health.join, Health.initial]
  | false =>
    rw [monitorNode_working s tick h hd rfl, monitorNode_working s tick _ hd rfl]
    simp only [Health.initial_join]
    split_ifs
    · rw [Health.join_initial]
    · rfl
    · rfl
    · rfl

theorem visits (s : FdirManagerNode) (tick : MonitorTick) (node : ManagedNode) :
    Visits s tick node (s.contribution tick node) (s.updated tick node) (s.actions tick node) := by
  unfold contribution updated actions
  cases hd : node.isDefective with
  | true =>
    have h : s.monitorNode tick Health.initial node =
        (⟨FdirState.stateEmergency, false⟩, node, []) := by
      simp only [monitorNode, hd, if_true]
      rfl
    rw [h]
    exact .lockedOut hd
  | false =>
    generalize hstate : s.getNodeState (tick.outcome node.name) node.name = state
    rw [monitorNode_working s tick _ hd hstate]
    simp only [Health.initial_join]
    split_ifs with hactive hunconfigured hinactive
    · subst hactive
      exact .active hd hstate
    · subst hunconfigured
      exact .unconfigured hd hstate
    · subst hinactive
      exact .inactive hd hstate
    · exact .failed hd hstate ⟨hactive, hunconfigured, hinactive⟩ (ManagedNode.recovers _ _)

/-! ## What a tick does -/

/-- The health a tick finds. -/
def health (s : FdirManagerNode) (tick : MonitorTick) : Health :=
  (s.managedNodes.map (s.contribution tick)).foldl Health.join Health.initial

theorem monitorLoop_eq (s : FdirManagerNode) (tick : MonitorTick) : s.monitorLoop tick =
    ({ s with managedNodes := s.managedNodes.map (s.updated tick) },
      s.managedNodes.flatMap (s.actions tick) ++ publish (s.health tick)) := by
  rw [monitorLoop, Loop.sweep_eq (s.monitorNode_eq tick)]
  rfl

/-- Another iteration order of the map: the same health, the same records, and the same actions in
another order. -/
theorem monitorLoop_perm (s : FdirManagerNode) (tick : MonitorTick) {nodes : List ManagedNode}
    (hp : s.managedNodes.Perm nodes) :
    s.health tick = { s with managedNodes := nodes }.health tick ∧
      (s.monitorLoop tick).1.managedNodes.Perm
        ({ s with managedNodes := nodes }.monitorLoop tick).1.managedNodes ∧
      (s.monitorLoop tick).2.Perm ({ s with managedNodes := nodes }.monitorLoop tick).2 := by
  obtain ⟨hhealth, hnodes, hactions⟩ :=
    Loop.sweep_perm (s.monitorNode_eq tick) Health.initial hp
  have heq : s.health tick = { s with managedNodes := nodes }.health tick := by
    rw [Loop.sweep_eq (s.monitorNode_eq tick), Loop.sweep_eq (s.monitorNode_eq tick)] at hhealth
    exact hhealth
  refine ⟨heq, hnodes, ?_⟩
  rw [monitorLoop_eq, monitorLoop_eq, ← heq]
  exact (hp.flatMap_right _).append_right _

theorem mem_publish {h : Health} {a : FdirAction} : a ∈ publish h ↔
    a = .healthState (verdict h) (diagnosticMessage h.allActive) ∨
      (verdict h = FdirState.stateEmergency ∧ (a = .contactors false ∨ a = .motorCmd 0)) ∨
      a = .heartbeat true := by
  unfold publish
  split_ifs with hv <;> simp [hv, or_assoc]

theorem published_publish (h : Health) : published (publish h) = [verdict h] := by
  unfold publish
  split_ifs <;> rfl

theorem component_publish {h : Health} {a : FdirAction} (ha : a ∈ publish h) :
    a.component = none := by
  rcases mem_publish.1 ha with rfl | ⟨-, rfl | rfl⟩ | rfl <;> rfl

theorem takes_iff {e : MonitorStep} : ticks.Takes e ↔
    (∀ a ∈ e.output, e.pre.hasPublisher a = true) ∧
      e.post = { e.pre with managedNodes := e.pre.managedNodes.map (e.pre.updated e.input) } ∧
      e.output = e.pre.managedNodes.flatMap (e.pre.actions e.input) ++
        publish (e.pre.health e.input) := by
  obtain ⟨s, tick, o, t⟩ := e
  simp only [Machine.Takes, ticks, monitorLoop_eq]
  split_ifs with h
  · rw [List.all_eq_true] at h
    constructor
    · intro he
      obtain ⟨rfl, rfl⟩ := Prod.mk.inj (Option.some.inj he)
      exact ⟨h, rfl, rfl⟩
    · rintro ⟨-, rfl, rfl⟩
      rfl
  · rw [List.all_eq_true] at h
    constructor
    · rintro ⟨⟩
    · rintro ⟨hall, -, rfl⟩
      exact absurd hall h

/-- What a tick leaves alone in a record. -/
theorem Visits.frame {s : FdirManagerNode} {tick : MonitorTick} {node node' : ManagedNode}
    {c : Health} {o : List FdirAction} (h : Visits s tick node c node' o) :
    node'.name = node.name ∧ node'.tier = node.tier ∧
      node'.resetMechanism = node.resetMechanism := by
  cases h with
  | failed _ _ _ hr =>
    obtain ⟨hname, htier, -, hmech⟩ := hr.frame
    exact ⟨hname, htier, hmech⟩
  | _ => exact ⟨rfl, rfl, rfl⟩

theorem Visits.resetTopic {s : FdirManagerNode} {tick : MonitorTick} {node node' : ManagedNode}
    {c : Health} {o : List FdirAction} (h : Visits s tick node c node' o) :
    node'.resetTopic = node.resetTopic := by
  cases h with
  | failed _ _ _ hr => exact hr.resetTopic
  | _ => rfl

/-- Every action of a tick for a component names it. -/
theorem Visits.component {s : FdirManagerNode} {tick : MonitorTick} {node node' : ManagedNode}
    {c : Health} {o : List FdirAction} (h : Visits s tick node c node' o) :
    ∀ a ∈ o, a.component = some node.name := by
  intro a ha
  cases h with
  | failed _ _ _ hr =>
    rcases List.mem_cons.1 ha with rfl | ha
    · rfl
    · rcases hr.actions a ha with rfl | ⟨-, data, rfl⟩ <;> rfl
  | lockedOut => cases ha
  | active =>
    obtain rfl := List.mem_singleton.1 ha
    rfl
  | _ =>
    rcases List.mem_pair.1 ha with rfl | rfl <;> rfl

/-- A relay is commanded only for a component that has one, on the topic of its record. -/
theorem Visits.relay {s : FdirManagerNode} {tick : MonitorTick} {node node' : ManagedNode}
    {c : Health} {o : List FdirAction} (h : Visits s tick node c node' o)
    {nodeName resetTopic : String} {data : Bool} (ha : .relay nodeName resetTopic data ∈ o) :
    nodeName = node.name ∧ resetTopic = node.resetTopic ∧ node.resetMechanism = .hardwareRelay := by
  cases h with
  | failed _ _ _ hr =>
    rcases List.mem_cons.1 ha with ha | ha
    · cases ha
    · rcases hr.actions _ ha with ha | ⟨hm, data', ha⟩
      · cases ha
      · cases ha
        exact ⟨rfl, rfl, hm⟩
  | _ => simp at ha

theorem Visits.counted {s : FdirManagerNode} {tick : MonitorTick} {node node' : ManagedNode}
    {c : Health} {o : List FdirAction} (h : Visits s tick node c node' o)
    (hc : ManagedNode.Counted node) : ManagedNode.Counted node' := by
  cases h with
  | lockedOut => exact hc
  | active hd _ =>
    exact ⟨fun _ => Nat.zero_le _, by simp [hd], by simp, hc.mechanism⟩
  | unconfigured => exact ⟨hc.strikes, hc.defective, hc.valid, hc.mechanism⟩
  | inactive => exact ⟨hc.strikes, hc.defective, hc.valid, hc.mechanism⟩
  | failed _ _ _ hr => exact hr.counted ⟨hc.strikes, hc.defective, hc.valid, hc.mechanism⟩

/-- An action of a tick is for a component, or published for the health of the whole. -/
theorem mem_output {e : MonitorStep} (he : ticks.Takes e) {a : FdirAction} (ha : a ∈ e.output) :
    (∃ node ∈ e.pre.managedNodes, a ∈ e.pre.actions e.input node ∧ a.component = some node.name) ∨
      (a ∈ publish (e.pre.health e.input) ∧ a.component = none) := by
  obtain ⟨-, -, hout⟩ := takes_iff.1 he
  rw [hout] at ha
  rcases List.mem_append.1 ha with ha | ha
  · obtain ⟨node, hnode, ha⟩ := List.mem_flatMap.1 ha
    exact Or.inl ⟨node, hnode, ha, (e.pre.visits e.input node).component a ha⟩
  · exact Or.inr ⟨ha, component_publish ha⟩

theorem published_component {o : List FdirAction} {nodeName : String}
    (h : ∀ a ∈ o, a.component = some nodeName) : published o = [] := by
  refine List.filterMap_eq_nil_iff.2 fun a ha => ?_
  have hcomp := h a ha
  cases a with
  | healthState => cases hcomp
  | _ => rfl

/-- A tick publishes one health state. -/
theorem published_monitorLoop (s : FdirManagerNode) (tick : MonitorTick) :
    published (s.monitorLoop tick).2 = [verdict (s.health tick)] := by
  have hnone : published (s.managedNodes.flatMap (s.actions tick)) = [] := by
    rw [published, List.filterMap_flatMap]
    exact List.flatMap_eq_nil_iff.2 fun node _ =>
      published_component (s.visits tick node).component
  rw [monitorLoop_eq, published_append hnone, published_publish]

theorem published_output {e : MonitorStep} (he : ticks.Takes e) :
    published e.output = [verdict (e.pre.health e.input)] := by
  obtain ⟨-, -, hout⟩ := takes_iff.1 he
  rw [hout, ← published_monitorLoop, monitorLoop_eq]

/-! ## Every run of an accepted configuration -/

/-- The manager between two ticks. -/
structure Sound (s : FdirManagerNode) : Prop extends Provisioned s where
  counted : ∀ node ∈ s.managedNodes, ManagedNode.Counted node

theorem sound_of_constructed {policy : FdirPolicy} {clock : String → Time} {s : FdirManagerNode}
    (h : Constructed policy clock s) : Sound s :=
  ⟨h.provisioned, fun node hnode => ManagedNode.counted_of_fresh (h.fresh node hnode)⟩

theorem name_updated (s : FdirManagerNode) (tick : MonitorTick) (node : ManagedNode) :
    (s.updated tick node).name = node.name := (s.visits tick node).frame.1

theorem names_tick (s : FdirManagerNode) (tick : MonitorTick) :
    (s.managedNodes.map (s.updated tick)).map ManagedNode.name =
      s.managedNodes.map ManagedNode.name := by
  rw [List.map_map]
  exact List.map_congr_left fun node _ => s.name_updated tick node

theorem sound_step {e : MonitorStep} (he : ticks.Takes e) (h : Sound e.pre) : Sound e.post := by
  obtain ⟨-, hpost, -⟩ := takes_iff.1 he
  have hmem : ∀ {P : ManagedNode → Prop},
      (∀ node ∈ e.pre.managedNodes, P (e.pre.updated e.input node)) →
        ∀ node ∈ e.post.managedNodes, P node := by
    intro P hP node hnode
    rw [hpost] at hnode
    obtain ⟨m, hm, rfl⟩ := List.mem_map.1 hnode
    exact hP m hm
  refine ⟨⟨?_, hmem ?_, hmem ?_, hmem ?_⟩, hmem ?_⟩
  · rw [hpost, names_tick]
    exact h.nodup
  · intro node hnode
    rw [name_updated, hpost]
    exact h.getState node hnode
  · intro node hnode
    rw [name_updated, hpost]
    exact h.changeState node hnode
  · intro node hnode hr
    obtain ⟨hname, -, hmech⟩ := (e.pre.visits e.input node).frame
    rw [hname, hpost]
    exact h.relay node hnode (hmech ▸ hr)
  · exact fun node hnode => (e.pre.visits e.input node).counted (h.counted node hnode)

theorem sound_run {s t : FdirManagerNode} {tr : List MonitorStep} (h : ticks.Run s tr t)
    (hs : Sound s) : Sound t :=
  h.invariant hs fun _ => sound_step

/-- What is read off the actions of a tick for one component is read off the visit to it. -/
theorem filterMap_output {β : Type} {e : MonitorStep} (he : ticks.Takes e) (hs : Sound e.pre)
    {node : ManagedNode} (hnode : node ∈ e.pre.managedNodes) {f : FdirAction → Option β}
    (hf : ∀ a, a.component ≠ some node.name → f a = none) :
    e.output.filterMap f = (e.pre.actions e.input node).filterMap f := by
  obtain ⟨-, -, hout⟩ := takes_iff.1 he
  have hpub : (publish (e.pre.health e.input)).filterMap f = [] :=
    List.filterMap_eq_nil_iff.2 fun a ha => hf a (by simp [component_publish ha])
  rw [hout, List.filterMap_append, hpub, List.append_nil, List.filterMap_flatMap]
  refine Loop.flatMap_eq_of_unique hnode (List.Nodup.of_map _ hs.nodup) fun m hm hne => ?_
  -- Another component has another name, so nothing of its visit is read.
  refine List.filterMap_eq_nil_iff.2 fun a ha => hf a fun hcomp => hne ?_
  rw [(e.pre.visits e.input m).component a ha] at hcomp
  exact List.inj_on_of_nodup_map hs.nodup hm hnode (Option.some.inj hcomp)

/-- A provisioned manager completes every tick. -/
theorem takes_monitorLoop {s : FdirManagerNode} (h : Provisioned s) (tick : MonitorTick) :
    ticks.Takes ⟨s, tick, (s.monitorLoop tick).2, (s.monitorLoop tick).1⟩ := by
  refine takes_iff.2 ⟨fun a ha => ?_, congrArg Prod.fst (monitorLoop_eq s tick),
    congrArg Prod.snd (monitorLoop_eq s tick)⟩
  cases a with
  | relay nodeName resetTopic data =>
    rw [monitorLoop_eq] at ha
    rcases List.mem_append.1 ha with ha | ha
    · obtain ⟨node, hnode, ha⟩ := List.mem_flatMap.1 ha
      obtain ⟨rfl, -, hm⟩ := (s.visits tick node).relay ha
      exact decide_eq_true (h.relay node hnode hm)
    · cases component_publish ha
  | _ => rfl

end FdirManagerNode

end MonaRobot
