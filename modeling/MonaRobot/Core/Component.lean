import MonaRobot.Core.Monitor
import MonaRobot.Foundations.View

/-!
# One component of the manager

A tick treats the components independently of each other. `component` is the machine of one of them,
the manager with that component alone, and `componentView` reads every run of the manager as a run of
it: the record of the component, the outcomes of its polls, and the commands for it are all that
matters.

Facts about one component over time are proved of `component`, and hold of every run of the manager.
-/

namespace MonaRobot

open Reactive

/-- The part of a tick that concerns one component. -/
def MonitorTick.only (tick : MonitorTick) (nodeName : String) : MonitorTick :=
  pollTick (tick.outcome nodeName) (tick.now nodeName)

namespace FdirManagerNode

/-- The commands among the actions that are for a component: polls, transitions and its relay. -/
def commands (nodeName : String) (o : List FdirAction) : List FdirAction :=
  o.filter fun a => decide (a.component = some nodeName)

/-- The commands on its relay are among them. -/
theorem relayCommands_commands (nodeName : String) (o : List FdirAction) :
    relayCommands nodeName (commands nodeName o) = relayCommands nodeName o := by
  rw [relayCommands, commands, List.filterMap_filter]
  refine List.filterMap_congr fun a _ => ?_
  split_ifs with ha
  · rfl
  · exact (relayCommand_eq_none (by simpa using ha)).symm

/-- The component is polled, and replies that it is active. -/
def PolledActive (s : FdirManagerNode) (tick : MonitorTick) (node : ManagedNode) : Prop :=
  node.isDefective = false ∧
    s.getNodeState (tick.outcome node.name) node.name = LifecycleState.primaryStateActive

instance (s : FdirManagerNode) (tick : MonitorTick) (node : ManagedNode) :
    Decidable (s.PolledActive tick node) := inferInstanceAs (Decidable (_ ∧ _))

/-- In the tick a component of this name reports that it is active. -/
def ReportsActive (nodeName : String) (e : MonitorStep) : Prop :=
  ∃ node ∈ e.pre.managedNodes, node.name = nodeName ∧ e.pre.PolledActive e.input node

instance (nodeName : String) (e : MonitorStep) : Decidable (ReportsActive nodeName e) :=
  inferInstanceAs (Decidable (∃ node ∈ e.pre.managedNodes, _ ∧ _))

/-- The record under a name, as the map finds it. -/
def record (s : FdirManagerNode) (nodeName : String) : Option ManagedNode :=
  s.managedNodes.find? fun node => decide (node.name = nodeName)

theorem record_eq {s : FdirManagerNode} {node : ManagedNode} (hs : Sound s) (hnode : node ∈ s.managedNodes) :
    s.record node.name = some node := by
  cases h : s.record node.name with
  | none =>
    have hnone := List.find?_eq_none.1 h node hnode
    simp at hnone
  | some m =>
    rw [record] at h
    have hname : m.name = node.name := by simpa using List.find?_some h
    rw [List.inj_on_of_nodup_map hs.nodup (List.mem_of_find?_eq_some h) hnode hname]

/-! ## The machine of one component -/

/-- The manager of one component. -/
def single (node : ManagedNode) : FdirManagerNode :=
  ⟨[node], [node.name], [node.name], [node.name]⟩

/-- A component on its own: its record, and the actions for it. -/
def component : Machine ManagedNode MonitorTick (List FdirAction) where
  step node tick := some ((single node).updated tick node, (single node).actions tick node)

/-- A step of one component. -/
abbrev ComponentStep := Step ManagedNode MonitorTick (List FdirAction)

/-- The component is found active. -/
def FoundActive (e : ComponentStep) : Prop := (single e.pre).PolledActive e.input e.pre

/-- A step of one component is a visit. -/
theorem component_visits {e : ComponentStep} (he : component.Takes e) :
    Visits (single e.pre) e.input e.pre ((single e.pre).contribution e.input e.pre) e.post
      e.output := by
  obtain ⟨hpost, hout⟩ := Prod.mk.inj (Option.some.inj he)
  rw [← hpost, ← hout]
  exact visits ..

/-! ## The manager seen from one component -/

/-- A tick treats a component as if it were alone. -/
theorem monitorNode_single {s : FdirManagerNode} {node : ManagedNode}
    (h : node.name ∈ s.getStateClients) (tick : MonitorTick) (hl : Health) :
    s.monitorNode tick hl node = (single node).monitorNode (tick.only node.name) hl node := by
  simp [monitorNode, getNodeState, single, h, MonitorTick.only, pollTick]

/-- The commands of a tick for a component are those of its own visit. -/
theorem commands_output {e : MonitorStep} (he : ticks.Takes e) (hs : Sound e.pre)
    {node : ManagedNode} (hnode : node ∈ e.pre.managedNodes) :
    commands node.name e.output = e.pre.actions e.input node := by
  have hown : commands node.name (e.pre.actions e.input node) = e.pre.actions e.input node :=
    List.filter_eq_self.2 fun a ha =>
      decide_eq_true ((e.pre.visits e.input node).component a ha)
  have hout : commands node.name e.output = commands node.name (e.pre.actions e.input node) := by
    unfold commands
    rw [← List.filterMap_eq_filter]
    exact filterMap_output he hs hnode fun a ha => by simp [Option.guard, ha]
  rw [hout, hown]

/-- **Each component is on its own**: a run of the manager is, for each of its components, a run of
that component. -/
def componentView (nodeName : String) : Machine.View ticks component where
  input tick := tick.only nodeName
  output := commands nodeName
  Rel s node := Sound s ∧ node ∈ s.managedNodes ∧ node.name = nodeName
  step e node he h := by
    obtain ⟨hs, hnode, rfl⟩ := h
    obtain ⟨-, hpost, -⟩ := takes_iff.1 he
    have halone := monitorNode_single (hs.getState node hnode) e.input Health.initial
    refine ⟨e.pre.updated e.input node, ?_, sound_step he hs, ?_, name_updated ..⟩
    · have hnode' : (single node).updated (e.input.only node.name) node =
          e.pre.updated e.input node := congrArg (fun r => r.2.1) halone.symm
      have ho : (single node).actions (e.input.only node.name) node =
          e.pre.actions e.input node := congrArg (fun r => r.2.2) halone.symm
      simp only [Machine.Takes, component, commands_output he hs hnode, hnode', ho]
    · rw [hpost]
      exact List.mem_map_of_mem hnode

variable {nodeName : String} {e : MonitorStep} {e' : ComponentStep}

/-- The component seen is the record under its name. -/
theorem record_matches (h : (componentView nodeName).Matches e e') :
    e.pre.record nodeName = some e'.pre ∧ e.post.record nodeName = some e'.post := by
  obtain ⟨-, -, ⟨hs, hnode, hname⟩, hs', hnode', hname'⟩ := h
  constructor
  · rw [← hname, record_eq hs hnode]
  · rw [← hname', record_eq hs' hnode']

/-- The component seen is found active exactly if its name reports active. -/
theorem foundActive_iff (h : (componentView nodeName).Matches e e') :
    FoundActive e' ↔ ReportsActive nodeName e := by
  obtain ⟨hin, -, ⟨hs, hnode, rfl⟩, -⟩ := h
  have hstate : (single e'.pre).getNodeState (e'.input.outcome e'.pre.name) e'.pre.name =
      e.pre.getNodeState (e.input.outcome e'.pre.name) e'.pre.name := by
    rw [hin]
    simp [getNodeState, single, hs.getState _ hnode, componentView, MonitorTick.only, pollTick]
  unfold FoundActive PolledActive
  rw [hstate]
  constructor
  · intro h
    exact ⟨e'.pre, hnode, rfl, h⟩
  · rintro ⟨m, hm, hname, h⟩
    obtain rfl := List.inj_on_of_nodup_map hs.nodup hm hnode hname
    exact h

end FdirManagerNode

end MonaRobot
