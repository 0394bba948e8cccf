import MonaRobot.Foundations.Pool
import MonaRobot.Core.Component

/-!
# Overlapping ticks

`monitor_timer_` is in a reentrant group, and a tick waits for the reply of every service it calls.
A tick that starts while others wait has its own accumulators, and shares the records with them.
Here a tick runs from one wait to the next as one step: `monitorFrom` is the loop from some
component on, with the state of the waiting tick as its result.

Without interruption it is the tick of `monitor_loop` (`monitorLoop_alone`).

A relay command needs a publisher, which an accepted configuration provides; the steps here do not
ask for it.
-/

namespace MonaRobot

open Reactive

/-- What a waiting tick waits for: the reply of `get_state`; the reply of `change_state` in
`monitor_loop`; the reply of `change_state` in `handle_recovery_fsm`, with the clock reading that it
took before. -/
inductive TickWait
  | getState
  | changeState
  | cleanup (now : Time)
  deriving DecidableEq

/-- A tick that waits: its accumulators, the component it is at, and the components after it. -/
structure WaitingTick where
  health : Health
  nodeName : String
  wait : TickWait
  remaining : List String
  deriving DecidableEq

/-- What the environment decides in a step of a tick, by node name: which services are ready, and
the clock readings. -/
structure TickEnv where
  getStateReady : String → Bool
  changeStateReady : String → Bool
  now : String → Time

/-- How a wait ends, and what the environment decides in the step after it. The reply of
`change_state` is ignored by the source. -/
structure TickReply where
  outcome : GetStateOutcome
  env : TickEnv

/-- What follows on a polled state: the health, the record, the wait if the tick calls a service
that is ready, and the actions. -/
structure Evaluation where
  health : Health
  node : ManagedNode
  wait : Option TickWait
  actions : List FdirAction

/-- The result of a step of a tick. -/
abbrev TickResult := FdirManagerNode × Option WaitingTick × List FdirAction

namespace FdirManagerNode

/-! ## The steps of a tick -/

/-- A call of `get_state` waits. -/
def awaitsState (s : FdirManagerNode) (env : TickEnv) (nodeName : String) : Bool :=
  decide (nodeName ∈ s.getStateClients) && env.getStateReady nodeName

/-- A call of `change_state` waits. -/
def awaitsChange (s : FdirManagerNode) (env : TickEnv) (nodeName : String) : Bool :=
  decide (nodeName ∈ s.changeStateClients) && env.changeStateReady nodeName

/-- The wait of a transition that `monitor_loop` requests. -/
def changeWait (s : FdirManagerNode) (env : TickEnv) (nodeName : String) : Option TickWait :=
  if s.awaitsChange env nodeName then some .changeState else none

/-- Write a record. -/
def setRecord (s : FdirManagerNode) (node : ManagedNode) : FdirManagerNode :=
  { s with managedNodes := s.managedNodes.map fun m => if m.name = node.name then node else m }

/-- The check for a zombie and the switch over the polled state, up to the next wait. -/
def evaluateStep (s : FdirManagerNode) (env : TickEnv) (h : Health) (node : ManagedNode) :
    Evaluation :=
  if node.isDefective = true ∧ node.currentState = LifecycleState.primaryStateActive then
    ⟨⟨FdirState.stateEmergency, false⟩, node, none, []⟩
  else if node.currentState = LifecycleState.primaryStateActive then
    ⟨h, { node with retryCount := 0, phase := .nominal }, none, []⟩
  else if node.currentState = LifecycleState.primaryStateUnconfigured then
    ⟨⟨max h.globalState FdirState.stateSystemStartup, false⟩, node,
      s.changeWait env node.name,
      [.changeState node.name LifecycleTransition.transitionConfigure]⟩
  else if node.currentState = LifecycleState.primaryStateInactive then
    ⟨⟨max h.globalState FdirState.stateSystemStartup, false⟩, node,
      s.changeWait env node.name,
      [.changeState node.name LifecycleTransition.transitionActivate]⟩
  else if node.phase = .powerOff ∧ node.resetMechanism = .lifecycleService ∧
      s.awaitsChange env node.name = true then
    -- the phase is written, and the component counted, after the reply
    ⟨⟨h.globalState, false⟩, node, some (.cleanup (env.now node.name)),
      [.changeState node.name LifecycleTransition.transitionCleanup]⟩
  else
    let r := node.handleRecoveryFsm (env.now node.name)
    ⟨⟨max h.globalState (failureState r.1), false⟩, r.1, none, r.2⟩

/-- The tick goes on with a component that has been polled, and then with the components after it.
-/
def proceed (s : FdirManagerNode) (env : TickEnv) (h : Health) (node : ManagedNode)
    (remaining : List String) (next : FdirManagerNode → Health → TickResult) : TickResult :=
  let r := s.evaluateStep env h node
  match r.wait with
  | some wait => (s.setRecord r.node, some ⟨r.health, node.name, wait, remaining⟩, r.actions)
  | none =>
    let q := next (s.setRecord r.node) r.health
    (q.1, q.2.1, r.actions ++ q.2.2)

/-- The loop of `monitor_loop` from some component on, up to the next wait or to its end. -/
def monitorFrom (env : TickEnv) : List String → FdirManagerNode → Health → TickResult
  | [], s, h => (s, none, publish h)
  | nodeName :: rest, s, h =>
    match s.record nodeName with
    | none => monitorFrom env rest s h
    | some node =>
      if node.isDefective then
        monitorFrom env rest s ⟨max h.globalState FdirState.stateEmergency, false⟩
      else if s.awaitsState env nodeName then
        (s, some ⟨h, nodeName, .getState, rest⟩, [.getState nodeName])
      else
        let q := s.proceed env h
          { node with currentState := LifecycleState.primaryStateUnknown } rest (monitorFrom env rest)
        (q.1, q.2.1, .getState nodeName :: q.2.2)

/-- A wait ends. -/
def resumeTick (s : FdirManagerNode) (t : WaitingTick) (r : TickReply) : TickResult :=
  match s.record t.nodeName with
  | none => (s, none, [])
  | some node =>
    match t.wait with
    | .getState =>
      s.proceed r.env t.health
        { node with currentState := s.getNodeState r.outcome t.nodeName } t.remaining
        (monitorFrom r.env t.remaining)
    | .changeState => monitorFrom r.env t.remaining s t.health
    | .cleanup now =>
      let node := { node with phase := .waitDischarge, lastPhaseChange := now }
      monitorFrom r.env t.remaining (s.setRecord node)
        ⟨max t.health.globalState (failureState node), false⟩

/-- `monitor_loop`, from one wait to the next. -/
def monitorTicks : Handlers FdirManagerNode TickEnv WaitingTick TickReply FdirAction where
  begin s env := monitorFrom env (s.managedNodes.map ManagedNode.name) s Health.initial
  resume := resumeTick

/-- Any number of ticks, in any interleaving. -/
def overlappingTicks : Machine (Pool FdirManagerNode WaitingTick) (PoolInput TickEnv TickReply)
    (List FdirAction) :=
  monitorTicks.pool

/-- A step of the ticks. -/
abbrev TickStep := PoolStep FdirManagerNode TickEnv WaitingTick TickReply FdirAction

/-! ## One tick at a time -/

section Alone

variable {s : FdirManagerNode} {l₁ l₂ : List ManagedNode} {node m : ManagedNode}

/-- The record of a component, in its place. -/
theorem record_mid (hs : s.managedNodes = l₁ ++ node :: l₂)
    (hnodup : (s.managedNodes.map ManagedNode.name).Nodup) : s.record node.name = some node := by
  rw [hs, List.map_append, List.map_cons, List.nodup_middle, List.nodup_cons] at hnodup
  have hbefore : l₁.find? (fun k => decide (k.name = node.name)) = none := by
    rw [List.find?_eq_none]
    intro k hk heq
    exact hnodup.1 (List.mem_append_left _ (List.mem_map.2 ⟨k, hk, of_decide_eq_true heq⟩))
  rw [record, hs, List.find?_append, hbefore, Option.none_or]
  exact List.find?_cons_of_pos (by simp)

/-- A record is written in its place. -/
theorem setRecord_mid (hs : s.managedNodes = l₁ ++ node :: l₂)
    (hnodup : (s.managedNodes.map ManagedNode.name).Nodup) (hm : m.name = node.name) :
    s.setRecord m = { s with managedNodes := l₁ ++ m :: l₂ } := by
  rw [hs, List.map_append, List.map_cons, List.nodup_middle, List.nodup_cons] at hnodup
  have hother : ∀ k ∈ l₁ ++ l₂, (if k.name = m.name then m else k) = k := by
    intro k hk
    refine if_neg fun heq => hnodup.1 ?_
    rw [← hm, ← heq, ← List.map_append]
    exact List.mem_map_of_mem hk
  simp only [List.forall_mem_append] at hother
  rw [setRecord, hs, List.map_append, List.map_cons, if_pos hm.symm,
    List.map_congr_left hother.1, List.map_congr_left hother.2, List.map_id', List.map_id']

/-- While no `change_state` service is ready, the evaluation does not wait. -/
theorem evaluateStep_eq {env : TickEnv} (henv : s.awaitsChange env node.name = false) (h : Health) :
    s.evaluateStep env h node =
      ⟨(evaluate (env.now node.name) h node).1, (evaluate (env.now node.name) h node).2.1, none,
        (evaluate (env.now node.name) h node).2.2⟩ := by
  simp only [evaluateStep, evaluate, changeWait, henv, Bool.false_eq_true, if_false, and_false]
  split_ifs <;> rfl

/-- The environment of a tick without waits for `change_state`. -/
def soloEnv (tick : MonitorTick) : TickEnv := ⟨fun _ => true, fun _ => false, tick.now⟩

/-- After this step the tick, on its own, goes on to its end: the records it leaves, and all that it
puts out from this step on. -/
def Completes (q : TickResult) (t : FdirManagerNode) (out : List FdirAction) : Prop :=
  ∃ o, monitorTicks.Alone q.1 q.2.1 t o ∧ q.2.2 ++ o = out

theorem Completes.prepend {q : TickResult} {t : FdirManagerNode} {out : List FdirAction}
    (h : Completes q t out) (o : List FdirAction) :
    Completes (q.1, q.2.1, o ++ q.2.2) t (o ++ out) := by
  obtain ⟨o', halone, rfl⟩ := h
  exact ⟨o', halone, List.append_assoc ..⟩

theorem Completes.resumed {w : WaitingTick} {r : TickReply} {t : FdirManagerNode}
    {out : List FdirAction} (h : Completes (s.resumeTick w r) t out) (o : List FdirAction) :
    Completes (s, some w, o) t (o ++ out) := by
  obtain ⟨o', halone, rfl⟩ := h
  exact ⟨_, .resume r halone, rfl⟩

theorem evaluate_name (now : Time) (h : Health) (node : ManagedNode) :
    (evaluate now h node).2.1.name = node.name := by
  unfold evaluate
  split_ifs <;> first | rfl | exact (node.recovers now).frame.1

/-- A component that has been polled is evaluated, and written in its place. -/
theorem proceed_alone (tick : MonitorTick) (hs : s.managedNodes = l₁ ++ node :: l₂)
    (hnodup : (s.managedNodes.map ManagedNode.name).Nodup) {h : Health} {state : UInt8}
    {e : Health × ManagedNode × List FdirAction}
    (he : evaluate (tick.now node.name) h { node with currentState := state } = e)
    (remaining : List String) {next : FdirManagerNode → Health → TickResult} {t : FdirManagerNode}
    {out : List FdirAction}
    (hnext : Completes (next { s with managedNodes := l₁ ++ e.2.1 :: l₂ } e.1) t out) :
    Completes (s.proceed (soloEnv tick) h { node with currentState := state } remaining next) t
      (e.2.2 ++ out) := by
  have heval : s.evaluateStep (soloEnv tick) h { node with currentState := state } =
      ⟨e.1, e.2.1, none, e.2.2⟩ := by
    rw [evaluateStep_eq (by simp [awaitsChange, soloEnv]), ← he]
    rfl
  have hname : e.2.1.name = node.name := by
    rw [← he]
    exact evaluate_name ..
  simp only [proceed, heval, setRecord_mid hs hnodup hname]
  exact hnext.prepend e.2.2

/-- The tick from some component on, on its own, is the sweep over the components left. -/
theorem sweep_alone (tick : MonitorTick) (done todo : List ManagedNode) {s : FdirManagerNode}
    (hs : s.managedNodes = done ++ todo)
    (hnodup : (s.managedNodes.map ManagedNode.name).Nodup) (h : Health) :
    Completes (monitorFrom (soloEnv tick) (todo.map ManagedNode.name) s h)
      { s with managedNodes := done ++ (Loop.sweep (s.monitorNode tick) h todo).2.1 }
      ((Loop.sweep (s.monitorNode tick) h todo).2.2 ++
        publish (Loop.sweep (s.monitorNode tick) h todo).1) := by
  induction todo generalizing s done h with
  | nil =>
    refine ⟨[], ?_, List.append_nil _⟩
    have hsame : { s with managedNodes := done ++ [] } = s := by rw [← hs]
    simp only [List.map_nil, monitorFrom, Loop.sweep, hsame]
    exact .ended s
  | cons node todo ih =>
    have hrec := record_mid hs hnodup
    have hsplit : ∀ l : List ManagedNode, done ++ node :: l = (done ++ [node]) ++ l := by simp
    rw [List.map_cons, monitorFrom, hrec]
    by_cases hd : node.isDefective = true
    · have hnode : s.monitorNode tick h node =
          (⟨max h.globalState FdirState.stateEmergency, false⟩, node, []) := if_pos hd
      have hih := ih (done ++ [node]) (hs.trans (hsplit todo)) hnodup
        ⟨max h.globalState FdirState.stateEmergency, false⟩
      simp only [List.append_assoc, List.singleton_append] at hih
      simp only [hd, if_true, Loop.sweep, hnode, List.nil_append]
      exact hih
    · obtain ⟨e, he⟩ : ∃ e, evaluate (tick.now node.name) h
          { node with currentState := s.getNodeState (tick.outcome node.name) node.name } = e :=
        ⟨_, rfl⟩
      have hnode : s.monitorNode tick h node = (e.1, e.2.1, .getState node.name :: e.2.2) := by
        rw [← he]
        exact if_neg hd
      have hname : e.2.1.name = node.name := by
        rw [← he]
        exact evaluate_name ..
      have hih := ih (done ++ [e.2.1]) (s := { s with managedNodes := done ++ e.2.1 :: todo })
        (by simp) (by simpa [hs, hname] using hnodup) e.1
      simp only [List.append_assoc, List.singleton_append] at hih
      dsimp only
      rw [if_neg hd]
      simp only [Loop.sweep, hnode, List.append_assoc, List.cons_append]
      split_ifs with hwait
      · have hpolled := proceed_alone tick hs hnodup he (todo.map ManagedNode.name) hih
        have hresume : s.resumeTick ⟨h, node.name, .getState, todo.map ManagedNode.name⟩
            ⟨tick.outcome node.name, soloEnv tick⟩ = s.proceed (soloEnv tick) h
              { node with currentState := s.getNodeState (tick.outcome node.name) node.name }
              (todo.map ManagedNode.name)
              (monitorFrom (soloEnv tick) (todo.map ManagedNode.name)) := by
          simp only [resumeTick, hrec]
        rw [← hresume] at hpolled
        exact hpolled.resumed [.getState node.name]
      · have hunknown : s.getNodeState (tick.outcome node.name) node.name =
            LifecycleState.primaryStateUnknown := by
          refine if_neg ?_
          simpa [awaitsState, soloEnv] using hwait
        rw [hunknown] at he
        exact (proceed_alone tick hs hnodup he _ hih).prepend [.getState node.name]

/-- On its own, a tick is the one of `monitor_loop`. -/
theorem monitorLoop_alone (s : FdirManagerNode) (tick : MonitorTick)
    (hnodup : (s.managedNodes.map ManagedNode.name).Nodup) :
    ∃ tr, overlappingTicks.Run ⟨s, []⟩ tr ⟨(s.monitorLoop tick).1, []⟩ ∧
      tr.flatMap Step.output = (s.monitorLoop tick).2 := by
  obtain ⟨o, halone, ho⟩ := sweep_alone tick [] s.managedNodes rfl hnodup Health.initial
  obtain ⟨tr, hrun, hout⟩ := Handlers.Alone.run (H := monitorTicks) (i := soloEnv tick) halone
  exact ⟨tr, hrun, hout.trans ho⟩

end Alone

end FdirManagerNode

end MonaRobot
