import MonaRobot.Core.BringUp
import MonaRobot.Perception.MergerLifecycle
import MonaRobot.System.EstopAgreement
import MonaRobot.System.Robot

/-!
# Booting

`Boot.events` adds the merger to the robot, and the lifecycle services of the three nodes that the
manager brings up. The services are up: a poll is answered by the node of this name, and no request
is lost. What a tick requests is queued, and performed by the nodes in this order, at any time.
Nobody else requests a transition; messages and requests of the operator come as before. As in
`HealthLink`, ticks of the manager and callbacks run one after another.

The multiplexer and the merger are loaded into one container, `sensor_control_executor`. Nothing
catches the exception of `control_loop`, so a tick that throws ends the container (`Throws`): from
then on neither node gets a message, their polls have no reply and requests of them no effect, while
the safety node and the manager, in processes of their own, go on.

* `moves`: a step is a tick, the performance of a request, or a message, and what it changes of the
  manager, the lifecycles, the requests and the health messages in flight.
* `robot_run`: the robot in a run of the boot is in a run of its own.
* `components`: the nodes as the components that `FdirManagerNode.guides` speaks of.
-/

namespace MonaRobot

open Reactive

/-- The nodes that keep the lifecycle protocol. -/
inductive LifecycleNode
  | safetyNode
  | twistMuxNode
  | lidarMergerNode
  deriving DecidableEq

/-- The name that the constructor gives a node. -/
def LifecycleNode.nodeName : LifecycleNode → String
  | .safetyNode => "safety_node"
  | .twistMuxNode => "twist_mux_node"
  | .lidarMergerNode => "mona_lidar_merger"

/-- The node of a name. -/
def LifecycleNode.ofName? (nodeName : String) : Option LifecycleNode :=
  [.safetyNode, .twistMuxNode, .lidarMergerNode].find? fun n => n.nodeName = nodeName

/-- What `get_state` replies in a primary state. -/
def PrimaryState.stateId : PrimaryState → UInt8
  | .unconfigured => LifecycleState.primaryStateUnconfigured
  | .inactive => LifecycleState.primaryStateInactive
  | .active => LifecycleState.primaryStateActive
  | .finalized => LifecycleState.primaryStateFinalized

/-- The transition of an id that the manager requests. -/
def Transition.ofId? (id : UInt8) : Option Transition :=
  if id = LifecycleTransition.transitionConfigure then some .configure
  else if id = LifecycleTransition.transitionCleanup then some .cleanup
  else if id = LifecycleTransition.transitionActivate then some .activate
  else none

/-- What a node reads in a transition: its parameters and the clock. -/
structure TransitionReadings where
  maxSpeedNormal : ℚ
  maxSpeedDegraded : ℚ
  muxParams : TwistMuxParams := {}
  mergerParams : MergerParams := {}
  now : Time

namespace TransitionReadings

variable (r : TransitionReadings)

def safety : Transition → SafetyEvent ℚ
  | .configure => .configure r.maxSpeedNormal r.maxSpeedDegraded
  | .activate => .activate
  | .deactivate => .deactivate
  | .cleanup => .cleanup
  | .shutdown => .shutdown

def mux : Transition → MuxLifecycleEvent ℚ
  | .configure => .configure r.muxParams
  | .activate => .activate r.now
  | .deactivate => .deactivate
  | .cleanup => .cleanup
  | .shutdown => .shutdown

def merger {Scan : Type} : Transition → MergerEvent Scan
  | .configure => .configure r.mergerParams
  | .activate => .activate
  | .deactivate => .deactivate
  | .cleanup => .cleanup
  | .shutdown => .shutdown

end TransitionReadings

/-- The node is loaded into the container `sensor_control_executor`. -/
def LifecycleNode.inSensorControl : LifecycleNode → Bool
  | .safetyNode => false
  | .twistMuxNode => true
  | .lidarMergerNode => true

/-- How a poll ends when the process of the node has ended: in any way but a reply. -/
def GetStateOutcome.withoutReply : GetStateOutcome → GetStateOutcome
  | .replied _ => .notReady
  | outcome => outcome

/-- The robot with the merger, the transitions that are requested and not performed yet, and whether
the container of the multiplexer and the merger has ended. -/
structure Boot where
  robot : Robot.State
  merger : MergerLifecycle
  requested : List (LifecycleNode × UInt8)
  crashed : Bool

/-- A tick, where the polls of other components are answered by the environment; the performance of
the oldest request; an input of the robot; or an input of the merger. -/
inductive BootInput (Scan : Type)
  | tick (tick : MonitorTick)
  | transition (readings : TransitionReadings)
  | robot (i : RoutedInput HealthBroadcast.BroadcastInput RobotTopic Time)
  | merger (i : MergerEvent Scan)

/-- What the robot or the merger puts out. -/
inductive BootOutput
  | robot (o : Option (FeedOutput (FeedOutput (List FdirAction) (List (SafetyOutput ℚ)))
      (List (MuxOutput ℚ))))
  | merger (o : List PointCloud2)
  | none

/-- What the manager puts out. -/
def BootOutput.actions : BootOutput → List FdirAction
  | .robot (some (.source (.source o))) => o
  | _ => []

namespace Boot

/-! ## The machine -/

/-- The manager and the nodes from their construction on, with nothing requested. -/
def start (s : FdirManagerNode) (now : Time) : Boot :=
  ⟨Robot.start s now, MergerLifecycle.construct, [], false⟩

def manager (x : Boot) : FdirManagerNode := x.robot.inner.source.source

def lifecycle (x : Boot) : LifecycleNode → PrimaryState
  | .safetyNode => x.robot.inner.source.sink.lifecycle
  | .twistMuxNode => x.robot.inner.sink.lifecycle
  | .lidarMergerNode => x.merger.node.currentState

/-- The process of the node runs. -/
def runs (x : Boot) (n : LifecycleNode) : Bool := !(x.crashed && n.inSensorControl)

/-- The tick with the polls of the nodes answered, as far as their processes run. -/
def answered (x : Boot) (tick : MonitorTick) : MonitorTick :=
  { tick with outcome := fun nodeName =>
      match LifecycleNode.ofName? nodeName with
      | some n =>
        if x.runs n then .replied (x.lifecycle n).stateId
        else (tick.outcome nodeName).withoutReply
      | none => tick.outcome nodeName }

/-- What is requested of the nodes. -/
def requestsOf (o : List FdirAction) : List (LifecycleNode × UInt8) :=
  o.filterMap fun
    | .changeState nodeName id => (LifecycleNode.ofName? nodeName).map (·, id)
    | _ => none

/-- A node performs a transition, or refuses it. -/
def perform (x : Boot) (n : LifecycleNode) (t : Transition) (r : TransitionReadings) :
    Option (Boot × BootOutput) :=
  match n with
  | .safetyNode => (Robot.routing.machine.step x.robot (.own (.source (.sink (r.safety t))))).map
      fun y => ({ x with robot := y.1 }, .robot y.2)
  | .twistMuxNode => (Robot.routing.machine.step x.robot (.own (.sink (r.mux t)))).map
      fun y => ({ x with robot := y.1 }, .robot y.2)
  | .lidarMergerNode => (x.merger.handle (r.merger t : MergerEvent Unit)).map
      fun y => ({ x with merger := y.1 }, .merger y.2)

/-- An input of the manager and the safety node that is no tick and no transition. -/
def isLinkMessage : FeedInput MonitorTick (SafetyEvent ℚ) Unit → Bool
  | .source _ => false
  | .sink (.muxState _) => true
  | .sink i => SafetyNode.fromElsewhere i
  | _ => true

/-- And one of the multiplexer too. -/
def isBroadcastMessage : HealthBroadcast.BroadcastInput → Bool
  | .source i => isLinkMessage i
  | .sink (.mux _) => true
  | .sink _ => false
  | _ => true

/-- An input of the robot that is no tick and no transition. -/
def isRobotMessage : RoutedInput HealthBroadcast.BroadcastInput RobotTopic Time → Bool
  | .own i => isBroadcastMessage i
  | _ => true

/-- How many health messages leave the queue of the safety node on an input. -/
def linkTaken : FeedInput MonitorTick (SafetyEvent ℚ) Unit → ℕ
  | .deliver _ => 1
  | .lose n => n
  | _ => 0

def robotTaken : RoutedInput HealthBroadcast.BroadcastInput RobotTopic Time → ℕ
  | .own (.source i) => linkTaken i
  | _ => 0

def isMergerMessage {Scan : Type} : MergerEvent Scan → Bool
  | .power _ | .fused .. => true
  | _ => false

/-- An input that the multiplexer receives. -/
def isForMux : RoutedInput HealthBroadcast.BroadcastInput RobotTopic Time → Bool
  | .own (.sink _) | .own (.deliver _) | .deliver .safetyState _ => true
  | _ => false

/-- The timer of the multiplexer fires, and `control_loop` throws. -/
def throws (x : Boot) : RoutedInput HealthBroadcast.BroadcastInput RobotTopic Time → Bool
  | .own (.sink (.mux (.controlLoop now))) =>
    let mux := x.robot.inner.sink
    mux.receives (.controlLoop now) && decide (mux.mux.clock ≤ now) &&
      !(mux.mux.node.controlLoop now).isOk
  | _ => false

def events (Scan : Type) : Machine Boot (BootInput Scan) BootOutput where
  step x
    | .tick tick => (Robot.routing.machine.step x.robot
          (.own (.source (.source (x.answered tick))))).map fun y =>
        ({ x with
            robot := y.1
            requested := x.requested ++ requestsOf (BootOutput.robot y.2).actions }, .robot y.2)
    | .transition readings =>
      match x.requested with
      | [] => none
      | (n, id) :: rest =>
        match Transition.ofId? id, x.runs n with
        | some t, true => { x with requested := rest }.perform n t readings
        | _, _ => some ({ x with requested := rest }, .none)
    | .robot i =>
      if isRobotMessage i = false ∨ (x.crashed = true ∧ isForMux i = true) then none
      else if x.throws i then some ({ x with crashed := true }, .none)
      else (Robot.routing.machine.step x.robot i).map fun y => ({ x with robot := y.1 }, .robot y.2)
    | .merger i =>
      if isMergerMessage i = false ∨ x.crashed = true then none
      else (x.merger.handle i).map fun y => ({ x with merger := y.1 }, .merger y.2)

/-- A step of the robot that boots. -/
abbrev BootStep (Scan : Type) := Step Boot (BootInput Scan) BootOutput

/-- The step ends the container: `control_loop` throws in it. -/
def Throws {Scan : Type} (e : BootStep Scan) : Prop :=
  match e.input with
  | .robot i => e.pre.throws i = true
  | _ => False

instance {Scan : Type} (e : BootStep Scan) : Decidable (Throws e) :=
  match e with
  | ⟨_, .robot _, _, _⟩ => inferInstanceAs (Decidable (_ = _))
  | ⟨_, .tick _, _, _⟩ | ⟨_, .transition _, _, _⟩ | ⟨_, .merger _, _, _⟩ =>
    inferInstanceAs (Decidable False)

def isTick {Scan : Type} (e : BootStep Scan) : Bool :=
  match e.input with
  | .tick _ => true
  | _ => false

/-- What the manager puts out in a step. -/
def actions {Scan : Type} (e : BootStep Scan) : List FdirAction :=
  if isTick e then e.output.actions else []

/-- The health messages in flight to the safety node. -/
def health (x : Boot) : List UInt8 := x.robot.inner.source.queue

/-- How many of them are delivered or lost in a step. -/
def healthTaken {Scan : Type} (e : BootStep Scan) : ℕ :=
  match e.input with
  | .robot i => robotTaken i
  | _ => 0

/-- The requests of a node that it has not performed yet. -/
def pending (x : Boot) (n : LifecycleNode) : List UInt8 :=
  x.requested.filterMap fun r => if r.1 = n then some r.2 else none

/-- The state a transition leads to; a refused one leads nowhere. -/
def after (p : PrimaryState) (t : Transition) : PrimaryState := (t.target p).getD p

/-- The state after a request is performed. -/
def afterRequest (p : PrimaryState) (id : UInt8) : PrimaryState :=
  match Transition.ofId? id with
  | some t => after p t
  | none => p

variable {Scan : Type} {x y : Boot} {e : BootStep Scan} {tr : List (BootStep Scan)}
  {n : LifecycleNode} {t : Transition} {r : TransitionReadings}

theorem ofName?_eq_some_iff {nodeName : String} :
    LifecycleNode.ofName? nodeName = some n ↔ nodeName = n.nodeName := by
  constructor
  · intro h
    unfold LifecycleNode.ofName? at h
    have hname := List.find?_some h
    exact (of_decide_eq_true hname).symm
  · rintro rfl
    cases n <;> rfl

/-! ## Transitions of the nodes -/

theorem safety_after {s : SafetyNode} {y : SafetyNode} {o : List (SafetyOutput ℚ)}
    (h : (SafetyNode.events ℚ).Takes ⟨s, r.safety t, o, y⟩) :
    y.lifecycle = after s.lifecycle t := by
  have hpost : y = (s.handle (r.safety t)).1 := congrArg Prod.fst (Option.some.inj h).symm
  have hall : ∀ c : SafetyNode × List (SafetyOutput ℚ),
      (s.transition t c).1.lifecycle = after s.lifecycle t := by
    intro c
    unfold SafetyNode.transition after
    cases t.target s.lifecycle <;> rfl
  rw [hpost]
  cases t <;> exact hall _

theorem mux_after {s y : MuxLifecycle ℚ} {o : List (MuxOutput ℚ)}
    (h : MuxLifecycle.events.Takes ⟨s, r.mux t, o, y⟩) : y.lifecycle = after s.lifecycle t := by
  have hall : ∀ z : MuxLifecycle ℚ, (s.transition t z).lifecycle = after s.lifecycle t := by
    intro z
    unfold MuxLifecycle.transition after
    cases t.target s.lifecycle <;> rfl
  cases t with
  | activate =>
    simp only [Machine.Takes, MuxLifecycle.events, TransitionReadings.mux] at h
    split_ifs at h
    rw [← (Prod.mk.inj (Option.some.inj h)).1]
    exact hall _
  | _ =>
    simp only [Machine.Takes, MuxLifecycle.events, TransitionReadings.mux] at h
    rw [← (Prod.mk.inj (Option.some.inj h)).1]
    exact hall _

theorem merger_after {s y : MergerLifecycle} {o : List PointCloud2}
    (h : s.handle (r.merger t : MergerEvent Unit) = some (y, o)) :
    y.node.currentState = after s.node.currentState t := by
  have hall : ∀ {c z}, s.transition t c = some z →
      z.node.currentState = after s.node.currentState t := by
    intro c z hz
    unfold MergerLifecycle.transition at hz
    unfold after
    cases htarget : t.target s.node.currentState with
    | none =>
      rw [htarget] at hz
      rw [← Option.some.inj hz]
      rfl
    | some p =>
      rw [htarget] at hz
      obtain ⟨z', -, rfl⟩ := Option.map_eq_some_iff.1 hz
      rfl
  cases t <;>
  · obtain ⟨z, hz, heq⟩ := Option.map_eq_some_iff.1 h
    obtain ⟨rfl, -⟩ := Prod.mk.inj heq
    exact hall hz

/-! ## Messages -/

/-- The manager and the lifecycles are the same, and health messages left the queue. -/
structure Passes (x y : HealthBroadcast.State) (taken : ℕ) : Prop where
  manager : y.source.source = x.source.source
  safety : y.source.sink.lifecycle = x.source.sink.lifecycle
  mux : y.sink.lifecycle = x.sink.lifecycle
  le : taken ≤ x.source.queue.length
  queue : y.source.queue = x.source.queue.drop taken

theorem link_message {e : HealthLink.HealthStep ℚ} (he : (HealthLink.feed ℚ).machine.Takes e)
    (hi : isLinkMessage e.input = true) :
    e.post.source = e.pre.source ∧ e.post.sink.lifecycle = e.pre.sink.lifecycle ∧
      linkTaken e.input ≤ e.pre.queue.length ∧
        e.post.queue = e.pre.queue.drop (linkTaken e.input) := by
  induction e, he using (HealthLink.feed ℚ).takes_rec with
  | source => cases hi
  | sink x i o s _ hs =>
    refine ⟨rfl, SafetyNode.lifecycle_step hs ?_, Nat.zero_le _, rfl⟩
    cases i with
    | muxState msg => exact Or.inr ⟨msg, rfl⟩
    | _ => exact Or.inl hi
  | deliver a b m rest c o s hs =>
    exact ⟨rfl, SafetyNode.lifecycle_step hs (Or.inl rfl), Nat.le_add_left 1 rest.length, rfl⟩
  | lose x n hn => exact ⟨rfl, rfl, hn, rfl⟩

theorem mux_message {e : MuxLifecycle.LifecycleStep ℚ} (he : MuxLifecycle.events.Takes e)
    {i : MuxEvent ℚ} (hi : e.input = .mux i) : e.post.lifecycle = e.pre.lifecycle := by
  induction e, he using MuxLifecycle.takes_rec with
  | skipped => rfl
  | mux => rfl
  | _ => cases hi

theorem broadcast_message {e : HealthBroadcast.BroadcastStep}
    (he : HealthBroadcast.feed.machine.Takes e) (hi : isBroadcastMessage e.input = true) :
    Passes e.pre e.post (robotTaken (.own e.input)) := by
  induction e, he using HealthBroadcast.feed.takes_rec with
  | source x i o s hs =>
    obtain ⟨hmanager, hsafety, hle, hqueue⟩ := link_message hs hi
    exact ⟨hmanager, hsafety, rfl, hle, hqueue⟩
  | sink x i o s _ hs =>
    cases i with
    | mux i => exact ⟨rfl, rfl, mux_message hs rfl, Nat.zero_le _, rfl⟩
    | _ => cases hi
  | deliver a b m rest c o s hs => exact ⟨rfl, rfl, mux_message hs rfl, Nat.zero_le _, rfl⟩
  | lose => exact ⟨rfl, rfl, rfl, Nat.zero_le _, rfl⟩

theorem robot_message {e : Robot.RobotStep} (he : Robot.routing.machine.Takes e)
    (hi : isRobotMessage e.input = true) : Passes e.pre.inner e.post.inner (robotTaken e.input) := by
  induction e, he using Robot.routing.takes_rec with
  | own x i o s _ hs => exact broadcast_message hs hi
  | deliver x k m rest d o s _ hs =>
    have hmessage : isBroadcastMessage (Robot.routing.deliver k m d) = true := by
      cases k <;> rfl
    have hpasses := broadcast_message hs hmessage
    cases k <;> exact hpasses
  | lose => exact ⟨rfl, rfl, rfl, Nat.zero_le _, rfl⟩

theorem merger_message {s y : MergerLifecycle} {i : MergerEvent Scan} {o : List PointCloud2}
    (h : s.handle i = some (y, o)) (hi : isMergerMessage i = true) :
    y.node.currentState = s.node.currentState := by
  have he : (MergerLifecycle.events Scan).Takes ⟨s, i, o, y⟩ := h
  generalize hstep : (⟨s, i, o, y⟩ : MergerLifecycle.MergerStep Scan) = e at he
  induction e, he using MergerLifecycle.takes_rec with
  | skipped | fused =>
    cases hstep
    rfl
  | power =>
    cases hstep
    rw [MergerLifecycle.powerCallback_eq]
    rfl
  | _ =>
    cases hstep
    cases hi

/-! ## Steps -/

/-- The steps of the machine: a tick, a request that is dropped or performed, the end of the
container, a message. -/
@[elab_as_elim]
theorem takes_rec {motive : ∀ e : BootStep Scan, (events Scan).Takes e → Prop}
    (tick : ∀ (x : Boot) tick o y (_ : Robot.routing.machine.Takes
        ⟨x.robot, .own (.source (.source (x.answered tick))), o, y⟩) h,
      motive ⟨x, .tick tick, .robot o, { x with
        robot := y
        requested := x.requested ++ requestsOf (BootOutput.robot o).actions }⟩ h)
    (dropped : ∀ (x : Boot) readings n id rest (_ : x.requested = (n, id) :: rest)
      (_ : Transition.ofId? id = none ∨ x.runs n = false) h,
      motive ⟨x, .transition readings, .none, { x with requested := rest }⟩ h)
    (performed : ∀ (x : Boot) readings n id rest t o y (_ : x.requested = (n, id) :: rest)
      (_ : Transition.ofId? id = some t)
      (_ : { x with requested := rest }.perform n t readings = some (y, o)) h,
      motive ⟨x, .transition readings, o, y⟩ h)
    (throws : ∀ (x : Boot) i (_ : isRobotMessage i = true) (_ : x.throws i = true) h,
      motive ⟨x, .robot i, .none, { x with crashed := true }⟩ h)
    (robot : ∀ (x : Boot) i o y (_ : isRobotMessage i = true) (_ : x.throws i = false)
      (_ : Robot.routing.machine.Takes ⟨x.robot, i, o, y⟩) h,
      motive ⟨x, .robot i, .robot o, { x with robot := y }⟩ h)
    (merger : ∀ (x : Boot) i o y (_ : isMergerMessage i = true)
      (_ : x.merger.handle i = some (y, o)) h,
      motive ⟨x, .merger i, .merger o, { x with merger := y }⟩ h)
    (e : BootStep Scan) (he : (events Scan).Takes e) : motive e he := by
  obtain ⟨x, i, o, y⟩ := e
  have hstep := he
  simp only [Machine.Takes, events] at hstep
  cases i with
  | tick t =>
    obtain ⟨⟨s, o'⟩, hr, hx⟩ := Option.map_eq_some_iff.1 hstep
    obtain ⟨rfl, rfl⟩ := Prod.mk.inj hx
    exact tick x t o' s hr he
  | transition readings =>
    cases hrequested : x.requested with
    | nil => simp [hrequested] at hstep
    | cons request rest =>
      obtain ⟨n, id⟩ := request
      simp only [hrequested] at hstep
      cases hid : Transition.ofId? id with
      | none =>
        simp only [hid] at hstep
        obtain ⟨rfl, rfl⟩ := Prod.mk.inj (Option.some.inj hstep)
        exact dropped x readings n id rest hrequested (Or.inl hid) he
      | some t =>
        cases hruns : x.runs n with
        | false =>
          simp only [hid, hruns] at hstep
          obtain ⟨rfl, rfl⟩ := Prod.mk.inj (Option.some.inj hstep)
          exact dropped x readings n id rest hrequested (Or.inr hruns) he
        | true =>
          simp only [hid, hruns] at hstep
          exact performed x readings n id rest t o y hrequested hid hstep he
  | robot i =>
    dsimp only at hstep
    split_ifs at hstep with hi hthrows
    · simp only [not_or, Bool.not_eq_false] at hi
      obtain ⟨rfl, rfl⟩ := Prod.mk.inj (Option.some.inj hstep)
      exact throws x i hi.1 hthrows he
    · simp only [not_or, Bool.not_eq_false] at hi
      obtain ⟨⟨s, o'⟩, hr, hx⟩ := Option.map_eq_some_iff.1 hstep
      obtain ⟨rfl, rfl⟩ := Prod.mk.inj hx
      exact robot x i o' s hi.1 (by simpa using hthrows) hr he
  | merger i =>
    dsimp only at hstep
    split_ifs at hstep with hi
    simp only [not_or, Bool.not_eq_false] at hi
    obtain ⟨⟨s, o'⟩, hr, hx⟩ := Option.map_eq_some_iff.1 hstep
    obtain ⟨rfl, rfl⟩ := Prod.mk.inj hx
    exact merger x i o' s hi.1 hr he

/-- A tick, the performance of a request, or a message. -/
inductive Moves (e : BootStep Scan) : Prop
  | tick (tick : MonitorTick) (_ : isTick e = true) (_ : healthTaken e = 0)
      (_ : FdirManagerNode.ticks.Takes
        ⟨e.pre.manager, e.pre.answered tick, actions e, e.post.manager⟩)
      (_ : ∀ n, e.post.lifecycle n = e.pre.lifecycle n)
      (_ : e.post.requested = e.pre.requested ++ requestsOf (actions e))
      (_ : e.post.health = e.pre.health ++ published (actions e))
  | transition (n : LifecycleNode) (id : UInt8) (rest : List (LifecycleNode × UInt8))
      (_ : isTick e = false) (_ : healthTaken e = 0) (_ : e.post.manager = e.pre.manager)
      (_ : e.pre.requested = (n, id) :: rest) (_ : e.post.requested = rest)
      (_ : e.pre.runs n = true → e.post.lifecycle n = afterRequest (e.pre.lifecycle n) id)
      (_ : ∀ m, m ≠ n → e.post.lifecycle m = e.pre.lifecycle m)
      (_ : e.post.health = e.pre.health)
  | message (_ : isTick e = false) (_ : e.post.manager = e.pre.manager)
      (_ : ∀ n, e.post.lifecycle n = e.pre.lifecycle n) (_ : e.post.requested = e.pre.requested)
      (_ : healthTaken e ≤ e.pre.health.length)
      (_ : e.post.health = e.pre.health.drop (healthTaken e))

/-- A node performs a transition, and nothing else changes. -/
theorem perform_eq_some {o : BootOutput} (h : x.perform n t r = some (y, o)) :
    y.manager = x.manager ∧ y.requested = x.requested ∧ y.health = x.health ∧
      y.lifecycle n = after (x.lifecycle n) t ∧ ∀ m, m ≠ n → y.lifecycle m = x.lifecycle m := by
  cases n with
  | safetyNode =>
    obtain ⟨⟨s, o'⟩, hr, hx⟩ := Option.map_eq_some_iff.1 h
    obtain ⟨rfl, rfl⟩ := Prod.mk.inj hx
    obtain ⟨o₁, -, h₁⟩ := Routing.takes_own hr
    obtain ⟨o₂, -, h₂, hmux, -⟩ := Feed.takes_source h₁
    obtain ⟨o₃, -, h₃, hmanager, hqueue⟩ := Feed.takes_sink h₂
    refine ⟨hmanager, rfl, hqueue, safety_after h₃, fun m hm => ?_⟩
    cases m with
    | safetyNode => exact absurd rfl hm
    | twistMuxNode => exact congrArg MuxLifecycle.lifecycle hmux
    | lidarMergerNode => rfl
  | twistMuxNode =>
    obtain ⟨⟨s, o'⟩, hr, hx⟩ := Option.map_eq_some_iff.1 h
    obtain ⟨rfl, rfl⟩ := Prod.mk.inj hx
    obtain ⟨o₁, -, h₁⟩ := Routing.takes_own hr
    obtain ⟨o₂, -, h₂, hlink, -⟩ := Feed.takes_sink h₁
    refine ⟨congrArg Fed.source hlink, rfl, congrArg Fed.queue hlink, mux_after h₂, fun m hm => ?_⟩
    cases m with
    | safetyNode => exact congrArg (fun z => SafetyNode.lifecycle z.sink) hlink
    | twistMuxNode => exact absurd rfl hm
    | lidarMergerNode => rfl
  | lidarMergerNode =>
    obtain ⟨⟨s, o'⟩, hr, hx⟩ := Option.map_eq_some_iff.1 h
    obtain ⟨rfl, rfl⟩ := Prod.mk.inj hx
    refine ⟨rfl, rfl, rfl, merger_after hr, fun m hm => ?_⟩
    cases m with
    | lidarMergerNode => exact absurd rfl hm
    | _ => rfl

theorem moves (he : (events Scan).Takes e) : Moves e := by
  induction e, he using takes_rec with
  | tick x tick o y hr =>
    obtain ⟨o₁, rfl, h₁⟩ := Routing.takes_own hr
    obtain ⟨o₂, rfl, h₂, hmux, -⟩ := Feed.takes_source h₁
    obtain ⟨o₃, rfl, h₃, hsafety, hqueue⟩ := Feed.takes_source h₂
    refine .tick tick rfl rfl h₃ (fun n => ?_) rfl hqueue
    cases n with
    | safetyNode => exact congrArg SafetyNode.lifecycle hsafety
    | twistMuxNode => exact congrArg MuxLifecycle.lifecycle hmux
    | lidarMergerNode => rfl
  | dropped x readings n id rest hrequested hdropped =>
    refine .transition n id rest rfl rfl rfl hrequested rfl (fun hruns => ?_) (fun _ _ => rfl) rfl
    have hid := hdropped.resolve_right (by simp [hruns])
    simp only [afterRequest, hid]
    rfl
  | performed x readings n id rest t o y hrequested hid hperform =>
    obtain ⟨hmanager, hrest, hhealth, hn, hothers⟩ := perform_eq_some hperform
    refine .transition n id rest rfl rfl hmanager hrequested hrest (fun _ => ?_) hothers hhealth
    simp only [afterRequest, hid]
    exact hn
  | throws x i _ hthrows =>
    have htaken :
        healthTaken (⟨x, .robot i, .none, { x with crashed := true }⟩ : BootStep Scan) = 0 := by
      unfold Boot.throws at hthrows
      split at hthrows
      · rfl
      · cases hthrows
    refine .message rfl rfl (fun _ => rfl) rfl ?_ ?_ <;> rw [htaken]
    · exact Nat.zero_le _
    · exact List.drop_zero.symm
  | robot x i o y hi _ hr =>
    have hpasses := robot_message hr hi
    refine .message rfl hpasses.manager (fun n => ?_) rfl hpasses.le hpasses.queue
    cases n with
    | safetyNode => exact hpasses.safety
    | twistMuxNode => exact hpasses.mux
    | lidarMergerNode => rfl
  | merger x i o y hi hr =>
    refine .message rfl rfl (fun n => ?_) rfl (Nat.zero_le _) rfl
    cases n with
    | lidarMergerNode => exact merger_message hr hi
    | _ => rfl

/-! ## The container -/

theorem perform_crashed {o : BootOutput} (h : x.perform n t r = some (y, o)) :
    y.crashed = x.crashed := by
  cases n <;>
  · obtain ⟨⟨s, o'⟩, -, hx⟩ := Option.map_eq_some_iff.1 h
    obtain ⟨rfl, rfl⟩ := Prod.mk.inj hx
    rfl

/-- The container ends when `control_loop` throws, and only then; nothing starts it again. -/
theorem crashed_step (he : (events Scan).Takes e) :
    e.post.crashed = true ↔ e.pre.crashed = true ∨ Throws e := by
  induction e, he using takes_rec with
  | tick | dropped | merger => exact (or_iff_left not_false).symm
  | performed x readings n id rest t o y _ _ hperform =>
    rw [perform_crashed hperform]
    exact (or_iff_left not_false).symm
  | throws x i _ hthrows => exact iff_of_true rfl (Or.inr hthrows)
  | robot x i o y _ hthrows _ => simp [Throws, hthrows]

/-- A poll of a node whose process has ended has no reply. -/
theorem outcome_of_crashed (tick : MonitorTick) (hn : x.runs n = false) (id : UInt8) :
    (x.answered tick).outcome n.nodeName ≠ .replied id := by
  simp only [answered, ofName?_eq_some_iff.2 rfl, hn]
  cases tick.outcome n.nodeName <;> simp [GetStateOutcome.withoutReply]

/-! ## The robot in a boot -/

theorem perform_robot {o : BootOutput} (h : x.perform n t r = some (y, o)) :
    y.robot = x.robot ∨ ∃ i o, Robot.routing.machine.Takes ⟨x.robot, i, o, y.robot⟩ := by
  cases n with
  | safetyNode | twistMuxNode =>
    obtain ⟨⟨s, o'⟩, hr, hx⟩ := Option.map_eq_some_iff.1 h
    obtain ⟨rfl, rfl⟩ := Prod.mk.inj hx
    exact Or.inr ⟨_, o', hr⟩
  | lidarMergerNode =>
    obtain ⟨⟨s, o'⟩, -, hx⟩ := Option.map_eq_some_iff.1 h
    obtain ⟨rfl, rfl⟩ := Prod.mk.inj hx
    exact Or.inl rfl

/-- What happens to the robot is a step of it. -/
theorem robot_step (he : (events Scan).Takes e) : e.post.robot = e.pre.robot ∨
    ∃ i o, Robot.routing.machine.Takes ⟨e.pre.robot, i, o, e.post.robot⟩ := by
  induction e, he using takes_rec with
  | tick x tick o y hr => exact Or.inr ⟨_, o, hr⟩
  | dropped | throws | merger => exact Or.inl rfl
  | performed x readings n id rest t o y _ _ hperform =>
    exact perform_robot (x := { x with requested := rest }) hperform
  | robot x i o y _ _ hr => exact Or.inr ⟨i, o, hr⟩

/-- The robot in a run. -/
theorem robot_run (h : (events Scan).Run x tr y) :
    ∃ tr', Robot.routing.machine.Run x.robot tr' y.robot := by
  refine h.history (H := fun _ y => ∃ tr', Robot.routing.machine.Run x.robot tr' y.robot)
    ⟨[], .nil _⟩ ?_
  rintro - e - he ⟨tr', hrun⟩
  rcases robot_step he with hsame | ⟨i, o, htake⟩
  · exact ⟨tr', hsame ▸ hrun⟩
  · exact ⟨_, hrun.snoc htake⟩

/-! ## The nodes are components -/

/-- A node that is not finalized, as a component. -/
def component : PrimaryState → ComponentState
  | .inactive => .inactive
  | .active => .active
  | .unconfigured | .finalized => .unconfigured

theorem component_stateId {p : PrimaryState} (hp : p ≠ .finalized) :
    (component p).stateId = p.stateId := by
  cases p with
  | finalized => exact absurd rfl hp
  | _ => rfl

theorem component_settled (p : PrimaryState) : ¬ (component p).InTransition := by
  cases p <;> decide

/-- What the manager requests in a state is one transition further. -/
theorem afterRequest_next {p : PrimaryState} (hp : p ≠ .finalized) {id : UInt8} {rest : List UInt8}
    (h : (component p).nextRequest = id :: rest) : rest = [] ∧
      afterRequest p id ≠ .finalized ∧
      (component (afterRequest p id)).progress = (component p).progress + 1 := by
  cases p with
  | finalized => exact absurd rfl hp
  | active => cases h
  | unconfigured | inactive =>
    obtain ⟨rfl, rfl⟩ := List.cons.inj h
    exact ⟨rfl, by decide, by decide⟩

/-- The components of the manager, as far as they are nodes. -/
def components (x : Boot) (nodeName : String) : ComponentState :=
  match LifecycleNode.ofName? nodeName with
  | some n => component (x.lifecycle n)
  | none => .unconfigured

theorem components_nodeName (x : Boot) (n : LifecycleNode) :
    x.components n.nodeName = component (x.lifecycle n) := by
  rw [components, ofName?_eq_some_iff.2 rfl]

theorem pending_requestsOf (x : Boot) (o : List FdirAction) (n : LifecycleNode) :
    pending { x with requested := requestsOf o } n = requests n.nodeName o := by
  unfold pending requestsOf requests
  rw [List.filterMap_filterMap]
  refine List.filterMap_congr fun a _ => ?_
  cases a with
  | changeState nodeName id =>
    by_cases hname : nodeName = n.nodeName
    · simp [hname, ofName?_eq_some_iff.2 rfl]
    · have hne : ∀ m, LifecycleNode.ofName? nodeName = some m → m ≠ n := by
        rintro m hm rfl
        exact hname (ofName?_eq_some_iff.1 hm)
      simpa [hname] using hne
  | _ => rfl

end Boot

end MonaRobot
