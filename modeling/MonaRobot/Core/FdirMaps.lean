import MonaRobot.Core.Monitor
import MonaRobot.Foundations.View
import Mathlib.Data.List.AList

/-!
# The maps of the FDIR manager

`managed_nodes_`, `get_state_clients_`, `change_state_clients_` and `relay_pubs_` with their keys
and entries. `init_managed_nodes` fills the four under the node name; later `monitor_loop` passes
the key of a record to its lifecycle helpers, and `handle_recovery_fsm` the name inside the record.
An `at` without an entry throws, and `operator[]` inserts a null one (`subscript`), so each call is
recorded with the entry that it gets (`MapCall`).

`FdirMaps.Refines`: the keys are the names, and every record finds what it needs. Provisioning and
every tick keep it, so the manager without keys is the same one (`refines_init`, `view`).
-/

namespace MonaRobot

open Reactive

/-- A map from node names to shared pointers: null, or a client or publisher under the name of its
service or topic. -/
abbrev HandleMap := AList fun _ : String => Option String

/-- `map[key]`: a missing entry is inserted as a null one. -/
def HandleMap.subscript (handles : HandleMap) (key : String) : HandleMap × Option String :=
  match handles.lookup key with
  | some handle => (handles, handle)
  | none => (handles.insert key none, none)

/-- The state members of the manager, with the keys of `managed_nodes_` in the order in which it
iterates. -/
structure FdirMaps where
  managedNodes : List (String × ManagedNode)
  getStateClients : HandleMap
  changeStateClients : HandleMap
  relayPubs : HandleMap

/-- A call for a component with the map entry it gets: none where `at` throws. -/
structure MapCall where
  action : FdirAction
  entry : Option (Option String)
  deriving DecidableEq

namespace FdirMaps

/-! ## Provisioning -/

/-- `managed_nodes_[key] = node`. -/
def assign (nodes : List (String × ManagedNode)) (key : String) (node : ManagedNode) :
    List (String × ManagedNode) :=
  if key ∈ nodes.map Prod.fst then nodes.map fun e => if e.1 = key then (key, node) else e
  else nodes ++ [(key, node)]

/-- The infrastructure of one component. -/
def provision (s : FdirMaps) (nodeName : String) (node : ManagedNode) : FdirMaps where
  managedNodes := assign s.managedNodes nodeName node
  getStateClients := s.getStateClients.insert nodeName (some (nodeName ++ "/get_state"))
  changeStateClients := s.changeStateClients.insert nodeName (some (nodeName ++ "/change_state"))
  relayPubs :=
    if node.resetMechanism = .hardwareRelay then
      s.relayPubs.insert nodeName (some node.resetTopic)
    else s.relayPubs

/-- One pass of the loop over the tracked components. -/
def initComponent (policy : FdirPolicy) (clock : String → Time) (s : FdirMaps) (compKey : String) :
    Except String FdirMaps :=
  if (policy.components compKey).enabled = false then .ok s
  else (FdirManagerNode.parseComponent policy.recoveryPowerOffTime (policy.components compKey)
    (clock compKey)).map (s.provision (policy.components compKey).nodeName)

def initManagedNodes (policy : FdirPolicy) (clock : String → Time) : Except String FdirMaps :=
  if policy.trackedComponents = [] then
    .error "Missing tracked_components in FDIR policy configuration."
  else match FdirManagerNode.redeclared [] policy.trackedComponents with
    | some key =>
      .error ("parameter 'components." ++ key ++ ".enabled' has already been declared")
    | none => policy.trackedComponents.foldlM (initComponent policy clock) ⟨[], ∅, ∅, ∅⟩

/-! ## The tick -/

/-- `get_node_state`: the exception of a missing entry is caught. -/
def getNodeState (s : FdirMaps) (outcome : GetStateOutcome) (key : String) : UInt8 :=
  match s.getStateClients.lookup key with
  | some _ =>
    match outcome with
    | .replied id => id
    | _ => LifecycleState.primaryStateUnknown
  | none => LifecycleState.primaryStateUnknown

/-- The lookup that a call makes, if any, in the maps of clients or in `pubs`. -/
def call (s : FdirMaps) (pubs : HandleMap) (action : FdirAction) : HandleMap × List MapCall :=
  match action with
  | .getState key => (pubs, [⟨action, s.getStateClients.lookup key⟩])
  | .changeState key _ => (pubs, [⟨action, s.changeStateClients.lookup key⟩])
  | .relay key _ _ => ((pubs.subscript key).1, [⟨action, some (pubs.subscript key).2⟩])
  | _ => (pubs, [])

/-- The calls of one component in turn. -/
def calls (s : FdirMaps) : HandleMap → List FdirAction → HandleMap × List MapCall
  | pubs, [] => (pubs, [])
  | pubs, action :: actions =>
    let r := s.call pubs action
    let q := s.calls r.1 actions
    (q.1, r.2 ++ q.2)

/-- The check for a zombie and the switch over the polled state: the transitions are requested under
the key, the recovery commands under the name in the record. -/
def evaluate (key : String) (now : Time) (h : Health) (node : ManagedNode) :
    Health × ManagedNode × List FdirAction :=
  if node.isDefective = true ∧ node.currentState = LifecycleState.primaryStateActive then
    (⟨FdirState.stateEmergency, false⟩, node, [])
  else if node.currentState = LifecycleState.primaryStateActive then
    (h, { node with retryCount := 0, phase := .nominal }, [])
  else if node.currentState = LifecycleState.primaryStateUnconfigured then
    (⟨max h.globalState FdirState.stateSystemStartup, false⟩, node,
      [.changeState key LifecycleTransition.transitionConfigure])
  else if node.currentState = LifecycleState.primaryStateInactive then
    (⟨max h.globalState FdirState.stateSystemStartup, false⟩, node,
      [.changeState key LifecycleTransition.transitionActivate])
  else
    let r := node.handleRecoveryFsm now
    (⟨max h.globalState (FdirManagerNode.failureState r.1), false⟩, r.1, r.2)

/-- One pass of the loop of `monitor_loop`. -/
def monitorNode (s : FdirMaps) (tick : MonitorTick) :
    Health × HandleMap → String × ManagedNode →
      (Health × HandleMap) × (String × ManagedNode) × List MapCall
  | (h, pubs), (key, node) =>
    if node.isDefective then
      ((⟨max h.globalState FdirState.stateEmergency, false⟩, pubs), (key, node), [])
    else
      let r := evaluate key (tick.now key) h
        { node with currentState := s.getNodeState (tick.outcome key) key }
      let q := s.calls pubs (.getState key :: r.2.2)
      ((r.1, q.1), (key, r.2.1), q.2)

/-- `monitor_loop`: the calls for the components, and what is published for the health. -/
def monitorLoop (s : FdirMaps) (tick : MonitorTick) :
    FdirMaps × List MapCall × List FdirAction :=
  let r := Loop.sweep (s.monitorNode tick) (Health.initial, s.relayPubs) s.managedNodes
  ({ s with managedNodes := r.2.1, relayPubs := r.1.2 }, r.2.2, FdirManagerNode.publish r.1.1)

/-- Ticks executed one after another. No tick is refused: one that misses an entry shows it. -/
def ticks : Machine FdirMaps MonitorTick (List MapCall × List FdirAction) where
  step s tick := some (s.monitorLoop tick)

/-! ## What the keys are for -/

/-- The entry that the map of a call has for it. -/
def entryOf (s : FdirMaps) : FdirAction → Option (Option String)
  | .getState key => s.getStateClients.lookup key
  | .changeState key _ => s.changeStateClients.lookup key
  | .relay key _ _ => s.relayPubs.lookup key
  | _ => none

/-- The maps hold what a record needs, under the name in it. -/
structure Supplied (s : FdirMaps) (node : ManagedNode) : Prop where
  getState : s.getStateClients.lookup node.name = some (some (node.name ++ "/get_state"))
  changeState : s.changeStateClients.lookup node.name = some (some (node.name ++ "/change_state"))
  relay : node.resetMechanism = .hardwareRelay →
    s.relayPubs.lookup node.name = some (some node.resetTopic)

/-- The clients and publishers are the same. -/
structure SameHandles (s s' : FdirMaps) : Prop where
  getStateClients : s'.getStateClients = s.getStateClients
  changeStateClients : s'.changeStateClients = s.changeStateClients
  relayPubs : s'.relayPubs = s.relayPubs

/-- The maps of `m`: the key of every record is its name, and it is supplied. -/
structure Refines (s : FdirMaps) (m : FdirManagerNode) : Prop where
  entries : s.managedNodes = m.managedNodes.map fun node => (node.name, node)
  supplied : ∀ node ∈ m.managedNodes, Supplied s node

variable {policy : FdirPolicy} {clock : String → Time} {s s' s'' : FdirMaps} {m : FdirManagerNode}
  {node : ManagedNode} {tick : MonitorTick}

theorem SameHandles.refl (s : FdirMaps) : SameHandles s s := ⟨rfl, rfl, rfl⟩

theorem SameHandles.trans (h : SameHandles s s') (h' : SameHandles s' s'') : SameHandles s s'' :=
  ⟨h'.getStateClients.trans h.getStateClients, h'.changeStateClients.trans h.changeStateClients,
    h'.relayPubs.trans h.relayPubs⟩

theorem SameHandles.entryOf (h : SameHandles s s') (a : FdirAction) :
    s'.entryOf a = s.entryOf a := by
  cases a with
  | getState key => exact congrArg (AList.lookup key) h.getStateClients
  | changeState key id => exact congrArg (AList.lookup key) h.changeStateClients
  | relay key topic data => exact congrArg (AList.lookup key) h.relayPubs
  | _ => rfl

theorem SameHandles.supplied (h : SameHandles s s') (hs : Supplied s node) : Supplied s' node := by
  constructor
  · rw [h.getStateClients]
    exact hs.getState
  · rw [h.changeStateClients]
    exact hs.changeState
  · rw [h.relayPubs]
    exact hs.relay

/-! ## Provisioning keeps the keys -/

theorem assign_entries (nodes : List ManagedNode) (node : ManagedNode) :
    assign (nodes.map fun n => (n.name, n)) node.name node =
      (FdirManagerNode.assign nodes node).map fun n => (n.name, n) := by
  have hkeys : (nodes.map fun n => (n.name, n)).map Prod.fst = nodes.map ManagedNode.name := by
    rw [List.map_map]
    rfl
  rw [assign, hkeys, FdirManagerNode.assign]
  split_ifs with hmem
  · rw [List.map_map, List.map_map]
    refine List.map_congr_left fun n _ => ?_
    simp only [Function.comp_apply]
    split_ifs <;> rfl
  · rw [List.map_append]
    rfl

theorem supplied_provision (s : FdirMaps) (node : ManagedNode) :
    Supplied (s.provision node.name node) node where
  getState := AList.lookup_insert _
  changeState := AList.lookup_insert _
  relay hr := by
    rw [provision, if_pos hr]
    exact AList.lookup_insert _

/-- Provisioning touches no entry of another name. -/
theorem Supplied.provision {n : ManagedNode} (h : Supplied s n) (hne : n.name ≠ node.name) :
    Supplied (s.provision node.name node) n where
  getState := (AList.lookup_insert_ne hne).trans h.getState
  changeState := (AList.lookup_insert_ne hne).trans h.changeState
  relay hr := by
    unfold FdirMaps.provision
    split_ifs
    · exact (AList.lookup_insert_ne hne).trans (h.relay hr)
    · exact h.relay hr

theorem Refines.provision (h : Refines s m) {nodeName : String} (hname : node.name = nodeName) :
    Refines (s.provision nodeName node) (m.provision node) := by
  subst hname
  constructor
  · rw [FdirMaps.provision, FdirManagerNode.provision, h.entries]
    exact assign_entries m.managedNodes node
  · intro n hn
    rcases FdirManagerNode.mem_assign_of_ne hn with rfl | ⟨hn, hne⟩
    · exact supplied_provision s n
    · exact (h.supplied n hn).provision hne

theorem refines_initComponent (h : Refines s m) {compKey : String}
    (hs : initComponent policy clock s compKey = .ok s') :
    ∃ m', FdirManagerNode.initComponent policy clock m compKey = .ok m' ∧ Refines s' m' := by
  unfold initComponent at hs
  unfold FdirManagerNode.initComponent
  split_ifs at hs ⊢ with henabled
  · obtain rfl := Except.ok.inj hs
    exact ⟨m, rfl, h⟩
  · cases hnode : FdirManagerNode.parseComponent policy.recoveryPowerOffTime
        (policy.components compKey) (clock compKey) with
    | error msg =>
      rw [hnode] at hs
      cases hs
    | ok node =>
      rw [hnode] at hs
      obtain rfl := Except.ok.inj hs
      refine ⟨_, rfl, h.provision ?_⟩
      obtain ⟨tier, mechanism, -, -, -, -, rfl⟩ := FdirManagerNode.parseComponent_ok hnode
      rfl

/-- **The keys are the names** in every accepted configuration, and every record is supplied. -/
theorem refines_init (h : initManagedNodes policy clock = .ok s) :
    ∃ m, FdirManagerNode.initManagedNodes policy clock = .ok m ∧ Refines s m := by
  unfold initManagedNodes at h
  unfold FdirManagerNode.initManagedNodes
  have hempty : Refines ⟨[], ∅, ∅, ∅⟩ ⟨[], [], [], []⟩ := ⟨rfl, by simp⟩
  split_ifs at h ⊢
  cases hkeys : FdirManagerNode.redeclared [] policy.trackedComponents with
  | some key =>
    rw [hkeys] at h
    cases h
  | none =>
    rw [hkeys] at h
    exact Loop.foldlM_related (R := Refines) (f := initComponent policy clock)
      (fun _ _ _ _ hR hs => refines_initComponent hR hs) hempty h

/-! ## A tick keeps the keys -/

/-- A supplied record is polled as without keys. -/
theorem getNodeState_eq (h : Supplied s node) (hm : node.name ∈ m.getStateClients)
    (outcome : GetStateOutcome) :
    s.getNodeState outcome node.name = m.getNodeState outcome node.name := by
  cases outcome <;>
    simp only [getNodeState, h.getState, FdirManagerNode.getNodeState, hm, if_true]

/-- Everything that a tick calls for a supplied record has its entry. -/
theorem Supplied.found (h : Supplied s node) {a : FdirAction} (ha : a ∈ m.actions tick node) :
    ∃ handle, s.entryOf a = some (some handle) := by
  have hcomp := (m.visits tick node).component a ha
  cases a with
  | getState key =>
    obtain rfl : key = node.name := Option.some.inj hcomp
    exact ⟨_, h.getState⟩
  | changeState key id =>
    obtain rfl : key = node.name := Option.some.inj hcomp
    exact ⟨_, h.changeState⟩
  | relay key topic data =>
    obtain ⟨rfl, -, hr⟩ := (m.visits tick node).relay ha
    exact ⟨_, h.relay hr⟩
  | _ => cases hcomp

/-- Calls that find their entries insert none. -/
theorem calls_eq (actions : List FdirAction)
    (h : ∀ a ∈ actions, ∃ handle, s.entryOf a = some (some handle)) :
    s.calls s.relayPubs actions = (s.relayPubs, actions.map fun a => ⟨a, s.entryOf a⟩) := by
  induction actions with
  | nil => rfl
  | cons a actions ih =>
    rw [List.forall_mem_cons] at h
    obtain ⟨⟨handle, ha⟩, hrest⟩ := h
    have hcall : s.call s.relayPubs a = (s.relayPubs, [⟨a, s.entryOf a⟩]) := by
      cases a with
      | getState key => rfl
      | changeState key id => rfl
      | relay key topic data =>
        have hsub : s.relayPubs.subscript key = (s.relayPubs, some handle) := by
          rw [HandleMap.subscript, show s.relayPubs.lookup key = _ from ha]
        rw [call, hsub, ha]
      | _ => cases ha
    rw [calls, hcall, ih hrest]
    rfl

/-- One pass of the loop is the pass without keys, and each call gets the entry that is there. -/
theorem monitorNode_eq (h : Supplied s node) (hm : node.name ∈ m.getStateClients) (acc : Health) :
    s.monitorNode tick (acc, s.relayPubs) (node.name, node) =
      (((m.monitorNode tick acc node).1, s.relayPubs),
        (node.name, (m.monitorNode tick acc node).2.1),
        (m.monitorNode tick acc node).2.2.map fun a => ⟨a, s.entryOf a⟩) := by
  cases hd : node.isDefective with
  | true => simp [monitorNode, FdirManagerNode.monitorNode, hd]
  | false =>
    generalize hr : FdirManagerNode.evaluate (tick.now node.name) acc
      { node with currentState := m.getNodeState (tick.outcome node.name) node.name } = r
    have hpass : m.monitorNode tick acc node = (r.1, r.2.1, .getState node.name :: r.2.2) := by
      rw [FdirManagerNode.monitorNode, if_neg (by simp [hd]), hr]
    have hactions : FdirAction.getState node.name :: r.2.2 = m.actions tick node := by
      rw [m.monitorNode_eq] at hpass
      exact congrArg (fun q => q.2.2) hpass.symm
    have hcalls := calls_eq (m.actions tick node) fun a ha => h.found ha
    have hkeyed : s.monitorNode tick (acc, s.relayPubs) (node.name, node) =
        ((r.1, (s.calls s.relayPubs (m.actions tick node)).1), (node.name, r.2.1),
          (s.calls s.relayPubs (m.actions tick node)).2) := by
      rw [monitorNode, if_neg (by simp [hd]), getNodeState_eq h hm, ← hactions, ← hr]
      rfl
    rw [hkeyed, hcalls, hpass, hactions]

/-- What a tick keeps of a record, it keeps supplied. -/
theorem Supplied.updated (h : Supplied s node) (m : FdirManagerNode) (tick : MonitorTick) :
    Supplied s (m.updated tick node) := by
  obtain ⟨hname, -, hmech⟩ := (m.visits tick node).frame
  have htopic := (m.visits tick node).resetTopic
  constructor
  · rw [hname]
    exact h.getState
  · rw [hname]
    exact h.changeState
  · rw [hname, hmech, htopic]
    exact h.relay

/-- The key of an entry is the name of the record, which is supplied and has a client in `m`. -/
structure Keyed (s : FdirMaps) (m : FdirManagerNode) (entry : String × ManagedNode)
    (node : ManagedNode) : Prop where
  entry : entry = (node.name, node)
  supplied : Supplied s node
  polled : node.name ∈ m.getStateClients

/-- The call is made for the action, and gets an entry that is there. -/
structure Serves (s : FdirMaps) (call : MapCall) (a : FdirAction) : Prop where
  action : call.action = a
  entry : call.entry = s.entryOf a
  found : ∃ handle, s.entryOf a = some (some handle)

/-- A pass of the loop keeps an entry keyed, and every call gets an entry that is there. -/
theorem keyed_monitorNode {entry : String × ManagedNode} (h : Keyed s m entry node)
    (tick : MonitorTick) (acc : Health) :
    (s.monitorNode tick (acc, s.relayPubs) entry).1 =
        ((m.monitorNode tick acc node).1, s.relayPubs) ∧
      Keyed s m (s.monitorNode tick (acc, s.relayPubs) entry).2.1
        (m.monitorNode tick acc node).2.1 ∧
      List.Forall₂ (Serves s) (s.monitorNode tick (acc, s.relayPubs) entry).2.2
        (m.monitorNode tick acc node).2.2 := by
  obtain ⟨rfl, hsupplied, hpolled⟩ := h
  rw [monitorNode_eq hsupplied hpolled, m.monitorNode_eq]
  refine ⟨rfl, ⟨?_, hsupplied.updated m tick, ?_⟩, ?_⟩
  · rw [m.name_updated]
  · rw [m.name_updated]
    exact hpolled
  · rw [List.forall₂_map_left_iff]
    exact List.forall₂_same.2 fun a ha => ⟨rfl, rfl, hsupplied.found ha⟩

/-- **One tick.** It is the tick without keys, the clients and publishers stay as they are, and
every call gets an entry that is there. -/
theorem monitorLoop_refines (h : Refines s m) (hm : FdirManagerNode.Provisioned m)
    (tick : MonitorTick) : SameHandles s (s.monitorLoop tick).1 ∧
      Refines (s.monitorLoop tick).1 (m.monitorLoop tick).1 ∧
      (m.monitorLoop tick).2 =
        (s.monitorLoop tick).2.1.map MapCall.action ++ (s.monitorLoop tick).2.2 ∧
      ∀ call ∈ (s.monitorLoop tick).2.1, call.entry = s.entryOf call.action ∧
        ∃ handle, call.entry = some (some handle) := by
  have hstart : List.Forall₂ (Keyed s m) s.managedNodes m.managedNodes := by
    rw [h.entries, List.forall₂_map_left_iff]
    exact List.forall₂_same.2 fun n hn => ⟨rfl, h.supplied n hn, hm.getState n hn⟩
  obtain ⟨hacc, hentries, hcalls⟩ := Loop.sweep_related
    (R := fun acc acc' => acc = (acc', s.relayPubs)) (S := Keyed s m)
    (fun acc acc' entry node (hacc : acc = (acc', s.relayPubs)) hkeyed =>
      hacc ▸ keyed_monitorNode hkeyed tick acc')
    (rfl : (Health.initial, s.relayPubs) = (Health.initial, s.relayPubs)) hstart
  have hsame : SameHandles s (s.monitorLoop tick).1 := ⟨rfl, rfl, congrArg Prod.snd hacc⟩
  refine ⟨hsame, ⟨?_, ?_⟩, ?_, ?_⟩
  · exact (List.map_id _).symm.trans (map_eq_of_forall₂ hentries fun _ _ hk => hk.entry)
  · exact forall_of_forall₂ (P := fun _ => True) hentries
      (fun _ _ hk _ => hsame.supplied hk.supplied) fun _ _ => trivial
  · have hactions : (s.monitorLoop tick).2.1.map MapCall.action = _ :=
      (map_eq_of_forall₂ hcalls fun _ _ hserves => hserves.action).trans (List.map_id _)
    rw [hactions, monitorLoop, hacc]
    rfl
  · refine forall_of_forall₂ (P := fun _ => True) hcalls.flip ?_ fun _ _ => trivial
    rintro a call ⟨rfl, hentry, hfound⟩ -
    exact ⟨hentry, hentry ▸ hfound⟩

/-! ## Runs without keys -/

/-- The manager with its maps, read as the one without keys. -/
def view : Machine.View ticks FdirManagerNode.ticks where
  input := id
  output o := o.1.map MapCall.action ++ o.2
  Rel s m := Refines s m ∧ FdirManagerNode.Sound m
  step e m he h := by
    obtain ⟨href, hm⟩ := h
    obtain ⟨-, hpost, hout, -⟩ := monitorLoop_refines href hm.toProvisioned e.input
    have htick : e.pre.monitorLoop e.input = (e.post, e.output) := Option.some.inj he
    have htake := FdirManagerNode.takes_monitorLoop hm.toProvisioned e.input
    rw [htick] at hpost hout
    rw [hout] at htake
    exact ⟨_, htake, hpost, FdirManagerNode.sound_step htake hm⟩

end FdirMaps

end MonaRobot
