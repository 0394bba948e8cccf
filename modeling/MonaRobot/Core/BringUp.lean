import MonaRobot.Core.LifecycleProtocol
import MonaRobot.Core.Verdicts
import MonaRobot.Foundations.History

/-!
# Bringing up the components

`fleet` is the manager together with all of its components, each of which keeps the lifecycle
protocol. A tick requests of every component the transition that its state permits, so as long as no
tick finds a transition under way, each tick brings each component one transition further, whatever
its record says of earlier failures: the switch of `monitor_loop` is over the polled state alone.

So the manager recovers from any past that has locked no component out (`bring_up`): the third tick
finds all of them active, and leaves no trace of the strikes before.
-/

namespace MonaRobot

open Reactive

namespace ComponentState

/-- The transitions a component has begun on its way up. -/
def progress : ComponentState → ℕ
  | .unconfigured => 0
  | .configuring | .inactive => 1
  | .activating | .active => 2

/-- What the manager requests in a state. -/
def nextRequest : ComponentState → List UInt8
  | .unconfigured => [LifecycleTransition.transitionConfigure]
  | .inactive => [LifecycleTransition.transitionActivate]
  | _ => []

@[simp] theorem progress_complete (c : ComponentState) : c.complete.progress = c.progress := by
  cases c <;> rfl

theorem stateId_inj {c c' : ComponentState} (h : c.stateId = c'.stateId) : c = c' := by
  cases c <;> cases c' <;> first | rfl | exact absurd h (by decide)

theorem progress_le (c : ComponentState) : c.progress ≤ 2 := by
  cases c <;> decide

/-- Each request is the begin of a transition. -/
theorem progress_request (c : ComponentState) :
    (c.nextRequest.foldl request c).progress = c.progress + c.nextRequest.length := by
  cases c <;> rfl

/-- A request is made until the component is active. -/
theorem progress_next {c : ComponentState} (hc : ¬ c.InTransition) :
    min 2 (c.progress + 1) ≤ c.progress + c.nextRequest.length := by
  cases c with
  | configuring => exact absurd (Or.inl rfl) hc
  | activating => exact absurd (Or.inr rfl) hc
  | _ => decide

theorem eq_active {c : ComponentState} (hc : ¬ c.InTransition) (hp : 2 ≤ c.progress) :
    c = .active := by
  cases c with
  | activating => exact absurd (Or.inr rfl) hc
  | active => rfl
  | _ => exact absurd hp (by decide)

end ComponentState

/-- The manager and its components, by node name. -/
structure Fleet where
  manager : FdirManagerNode
  components : String → ComponentState

/-- A tick, with the clock readings it takes, or the end of a component's running transition. -/
inductive FleetInput
  | tick (now : String → Time)
  | complete (nodeName : String)

/-- A step of the manager and its components. -/
abbrev FleetStep := Step Fleet FleetInput (List FdirAction)

namespace Fleet

/-- Each poll of a tick is answered with the state of the component. -/
def tick (s : Fleet) (now : String → Time) : MonitorTick :=
  ⟨fun nodeName => .replied (s.components nodeName).stateId, now⟩

end Fleet

namespace FdirManagerNode

/-- The manager with components that keep the protocol. -/
def fleet : Machine Fleet FleetInput (List FdirAction) where
  step s
    | .tick now => (ticks.step s.manager (s.tick now)).map fun r =>
        (⟨r.1, fun nodeName =>
          (requests nodeName r.2).foldl ComponentState.request (s.components nodeName)⟩, r.2)
    | .complete nodeName =>
      some ({ s with components :=
        Function.update s.components nodeName (s.components nodeName).complete }, [])

def isTick (e : FleetStep) : Bool :=
  match e.input with
  | .tick _ => true
  | .complete _ => false

/-- A tick polls a component while a transition of it is running. -/
def FindsTransition (e : FleetStep) : Prop :=
  isTick e = true ∧
    ∃ node ∈ e.pre.manager.managedNodes, (e.pre.components node.name).InTransition

instance (e : FleetStep) : Decidable (FindsTransition e) :=
  inferInstanceAs (Decidable (_ ∧ ∃ node ∈ e.pre.manager.managedNodes, _))

/-- The actions of a recovery: a relay is opened or closed, or a cleanup is requested. -/
def Recovering : FdirAction → Prop
  | .relay _ _ _ => True
  | .changeState _ transitionId => transitionId = LifecycleTransition.transitionCleanup
  | _ => False

variable {s t : Fleet} {m : FdirManagerNode} {tick : MonitorTick} {node node' : ManagedNode}
  {h : Health} {o : List FdirAction} {tr : List FleetStep} {c : ComponentState} {e : FleetStep}

/-! ## One component -/

/-- A component that is answered for in a primary state. -/
structure Visits.Guided (c : ComponentState) (node node' : ManagedNode) (o : List FdirAction) :
    Prop where
  working : node'.isDefective = false
  requested : requests node.name o = c.nextRequest
  gentle : ∀ a ∈ o, ¬ Recovering a
  cleared : c = .active → node'.retryCount = 0 ∧ node'.phase = .nominal

theorem Visits.guided (hv : Visits m tick node h node' o) (hd : node.isDefective = false)
    (hstate : m.getNodeState (tick.outcome node.name) node.name = c.stateId)
    (hc : ¬ c.InTransition) : Visits.Guided c node node' o := by
  cases hv with
  | lockedOut hd' => exact absurd (hd.symm.trans hd') Bool.false_ne_true
  | active _ hpoll =>
    obtain rfl : c = .active := ComponentState.stateId_inj (hstate.symm.trans hpoll)
    exact ⟨hd, rfl, by simp [Recovering], fun _ => ⟨rfl, rfl⟩⟩
  | unconfigured _ hpoll =>
    obtain rfl : c = .unconfigured := ComponentState.stateId_inj (hstate.symm.trans hpoll)
    exact ⟨hd, by simp [requests, ComponentState.nextRequest], by simp [Recovering]; decide,
      by simp⟩
  | inactive _ hpoll =>
    obtain rfl : c = .inactive := ComponentState.stateId_inj (hstate.symm.trans hpoll)
    exact ⟨hd, by simp [requests, ComponentState.nextRequest], by simp [Recovering]; decide,
      by simp⟩
  | failed _ hpoll hne _ =>
    obtain ⟨hactive, hunconfigured, hinactive⟩ := hne
    rw [hstate] at hpoll
    subst hpoll
    cases c with
    | unconfigured => exact absurd rfl hunconfigured
    | inactive => exact absurd rfl hinactive
    | active => exact absurd rfl hactive
    | configuring => exact absurd (Or.inl rfl) hc
    | activating => exact absurd (Or.inr rfl) hc

/-! ## One tick -/

/-- The manager has locked no component out. -/
structure Ready (m : FdirManagerNode) : Prop where
  sound : Sound m
  working : ∀ node ∈ m.managedNodes, node.isDefective = false

/-- The components in the states `c` answer the polls of a tick, which finds no transition under
way. -/
def Answered (c : String → ComponentState) (e : MonitorStep) : Prop :=
  ∀ node ∈ e.pre.managedNodes,
    e.input.outcome node.name = .replied (c node.name).stateId ∧ ¬ (c node.name).InTransition

/-- What such a tick does. -/
structure Guides (c : String → ComponentState) (e : MonitorStep) : Prop where
  ready : Ready e.post
  gentle : ∀ a ∈ e.output, ¬ Recovering a
  requested : ∀ node ∈ e.pre.managedNodes, requests node.name e.output = (c node.name).nextRequest
  names : e.post.managedNodes.map ManagedNode.name = e.pre.managedNodes.map ManagedNode.name
  allActive : (∀ node ∈ e.pre.managedNodes, c node.name = .active) →
    published e.output = [FdirState.stateSoftwareOk] ∧
      ∀ node ∈ e.post.managedNodes, node.retryCount = 0 ∧ node.phase = .nominal

theorem guides {e : MonitorStep} {c : String → ComponentState} (he : ticks.Takes e)
    (hs : Ready e.pre) (hanswered : Answered c e) : Guides c e := by
  obtain ⟨hsound, hworking⟩ := hs
  obtain ⟨-, hpost, hout⟩ := takes_iff.1 he
  have hnodes : e.post.managedNodes = e.pre.managedNodes.map (e.pre.updated e.input) := by
    rw [hpost]
  have hpoll : ∀ node ∈ e.pre.managedNodes,
      e.pre.getNodeState (e.input.outcome node.name) node.name = (c node.name).stateId := by
    intro node hnode
    simp [getNodeState, hsound.getState node hnode, (hanswered node hnode).1]
  have hguided : ∀ node ∈ e.pre.managedNodes, Visits.Guided (c node.name) node
      (e.pre.updated e.input node) (e.pre.actions e.input node) := fun node hnode =>
    (e.pre.visits _ node).guided (hworking node hnode) (hpoll node hnode) (hanswered node hnode).2
  refine ⟨⟨sound_step he hsound, ?_⟩, ?_, ?_, ?_, ?_⟩
  · rw [hnodes, List.forall_mem_map]
    exact fun node hnode => (hguided node hnode).working
  · intro a ha
    rcases mem_output he ha with ⟨node, hnode, ha, -⟩ | ⟨ha, -⟩
    · exact (hguided node hnode).gentle a ha
    · rcases mem_publish.1 ha with rfl | ⟨-, rfl | rfl⟩ | rfl <;> exact id
  · intro node hnode
    rw [← (hguided node hnode).requested]
    refine filterMap_output he hsound hnode fun a ha => ?_
    cases a with
    | changeState name id => exact if_neg fun hname => ha (congrArg some hname)
    | _ => rfl
  · rw [hnodes, names_tick]
  · intro hactive
    constructor
    · rw [published_output he, (softwareOk_iff _ _).2]
      intro node hnode
      refine ⟨hworking node hnode, ?_⟩
      rw [hpoll node hnode, hactive node hnode]
      rfl
    · rw [hnodes, List.forall_mem_map]
      exact fun node hnode => (hguided node hnode).cleared (hactive node hnode)

/-! ## One step -/

/-- A step ends a running transition, or is a tick whose polls are all answered. -/
theorem fleet_cases (he : fleet.Takes e) :
    (isTick e = false ∧ e.output = [] ∧ e.post.manager = e.pre.manager ∧
      ∃ nodeName, e.post.components =
        Function.update e.pre.components nodeName (e.pre.components nodeName).complete) ∨
    ∃ now, isTick e = true ∧
      ticks.Takes ⟨e.pre.manager, e.pre.tick now, e.output, e.post.manager⟩ ∧
      ∀ nodeName, e.post.components nodeName =
        (requests nodeName e.output).foldl ComponentState.request (e.pre.components nodeName) := by
  obtain ⟨s, i, o, s'⟩ := e
  cases i with
  | complete nodeName =>
    obtain ⟨hpost, hout⟩ := Prod.mk.inj (Option.some.inj he)
    rw [← hpost, ← hout]
    exact Or.inl ⟨rfl, rfl, rfl, nodeName, rfl⟩
  | tick now =>
    obtain ⟨r, hstep, hr⟩ := Option.map_eq_some_iff.1 he
    obtain ⟨hpost, hout⟩ := Prod.mk.inj hr
    rw [← hpost, ← hout]
    exact Or.inr ⟨now, rfl, hstep, fun _ => rfl⟩

/-- A tick of the fleet that finds no transition under way. -/
theorem fleet_guides (he : fleet.Takes e) (hs : Ready e.pre.manager) (hticks : isTick e = true)
    (hprompt : ¬ FindsTransition e) : ∃ now,
      Guides e.pre.components ⟨e.pre.manager, e.pre.tick now, e.output, e.post.manager⟩ ∧
        ∀ node ∈ e.pre.manager.managedNodes, e.post.components node.name =
          (e.pre.components node.name).nextRequest.foldl ComponentState.request
            (e.pre.components node.name) := by
  rcases fleet_cases he with ⟨hno, -⟩ | ⟨now, -, htick, hcomponents⟩
  · exact absurd (hno.symm.trans hticks) Bool.false_ne_true
  · have hg := guides (c := e.pre.components) htick hs fun node hnode =>
      ⟨rfl, fun hc => hprompt ⟨hticks, node, hnode, hc⟩⟩
    refine ⟨now, hg, fun node hnode => ?_⟩
    rw [hcomponents, hg.requested node hnode]

/-- What every step keeps that finds no transition under way, and how far each component gets. -/
theorem fleet_step (he : fleet.Takes e) (hs : Ready e.pre.manager)
    (hprompt : ¬ FindsTransition e) :
    Ready e.post.manager ∧ (∀ a ∈ e.output, ¬ Recovering a) ∧
      e.post.manager.managedNodes.map ManagedNode.name =
        e.pre.manager.managedNodes.map ManagedNode.name ∧
      ∀ node ∈ e.pre.manager.managedNodes, (e.post.components node.name).progress =
        (e.pre.components node.name).progress + (requests node.name e.output).length := by
  cases hticks : isTick e with
  | true =>
    obtain ⟨now, hg, hcomponents⟩ := fleet_guides he hs hticks hprompt
    refine ⟨hg.ready, hg.gentle, hg.names, fun node hnode => ?_⟩
    rw [hcomponents node hnode, ComponentState.progress_request, hg.requested node hnode]
  | false =>
    rcases fleet_cases he with ⟨-, hout, hpost, nodeName, hcomponents⟩ | ⟨now, hyes, -⟩
    · refine ⟨hpost ▸ hs, by simp [hout], by rw [hpost], fun node _ => ?_⟩
      rw [hcomponents, hout]
      by_cases hname : node.name = nodeName
      · simp [hname, requests]
      · simp [hname, requests]
    · exact absurd (hticks.symm.trans hyes) Bool.false_ne_true

/-! ## Every run -/

/-- The components are `n` ticks on their way. -/
def Underway (n : ℕ) (s : Fleet) : Prop :=
  ∀ node ∈ s.manager.managedNodes, min 2 n ≤ (s.components node.name).progress

theorem mem_pre_of_names (hnames : e.post.manager.managedNodes.map ManagedNode.name =
    e.pre.manager.managedNodes.map ManagedNode.name) (hnode : node ∈ e.post.manager.managedNodes) :
    ∃ node' ∈ e.pre.manager.managedNodes, node'.name = node.name := by
  have hmem := List.mem_map_of_mem (f := ManagedNode.name) hnode
  rw [hnames] at hmem
  exact List.mem_map.1 hmem

theorem underway_step (he : fleet.Takes e) (hs : Ready e.pre.manager) (hprompt : ¬ FindsTransition e)
    {n : ℕ} (h : Underway n e.pre) : Underway (n + [e].countP isTick) e.post := by
  obtain ⟨-, -, hnames, hprogress⟩ := fleet_step he hs hprompt
  intro node hnode
  obtain ⟨node', hnode', hname⟩ := mem_pre_of_names hnames hnode
  rw [← hname, hprogress node' hnode']
  have hle := h node' hnode'
  cases hticks : isTick e with
  | true =>
    obtain ⟨now, hg, -⟩ := fleet_guides he hs hticks hprompt
    have hnext := ComponentState.progress_next fun hc => hprompt ⟨hticks, node', hnode', hc⟩
    rw [hg.requested node' hnode']
    simp only [List.countP_cons, List.countP_nil, hticks, if_true]
    omega
  | false =>
    simp only [List.countP_cons, List.countP_nil, hticks]
    simp only [Bool.false_eq_true, if_false]
    omega

theorem underway_run (h : fleet.Run s tr t) (hs : Ready s.manager)
    (hprompt : ∀ e ∈ tr, ¬ FindsTransition e) :
    Ready t.manager ∧ Underway (tr.countP isTick) t := by
  refine h.history (H := fun tr x => (∀ e ∈ tr, ¬ FindsTransition e) →
    Ready x.manager ∧ Underway (tr.countP isTick) x) (fun _ => ⟨hs, ?_⟩)
    (fun tr e _ he ih hno => ?_) hprompt
  · intro node _
    simp
  · rw [List.forall_mem_append, List.forall_mem_singleton] at hno
    obtain ⟨hready, hunderway⟩ := ih hno.1
    rw [List.countP_append]
    exact ⟨(fleet_step he hready hno.2).1, underway_step he hready hno.2 hunderway⟩

/-- The front lidar was never reached, and its relay was opened. -/
def strandedLidar : List MonitorTick := (List.range 2).map fun k => pollTick .timedOut (50 * (k + 1))

/-- Its power is back, and it is brought up: three ticks, with the transitions over in between. -/
def bringUpInputs : List FleetInput :=
  [.tick fun _ => 200, .complete "mona_lidar_front", .tick fun _ => 250,
    .complete "mona_lidar_front", .tick fun _ => 300]

end FdirManagerNode

end MonaRobot
