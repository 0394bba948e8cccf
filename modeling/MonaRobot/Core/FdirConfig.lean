import MonaRobot.Foundations.Loop
import MonaRobot.Msgs

/-!
# The configuration of the FDIR manager

`mona_core::FdirManagerNode::init_managed_nodes`: the record of a managed component, and how the
tracked components of the FDIR policy become records, service clients and relay publishers. The
maps of the source are keyed by node name. `managed_nodes_` is a list of records here, in the order
in which the source's map iterates; the keys of the client and publisher maps are lists of names.

An enumerator of the source is a plain integer, so `ResetMechanism` and `RecoveryPhase` have a
constructor for the values that no branch of the source names.

`fresh_of_init`: every record of an accepted configuration is as its initialiser makes it, under a
name of its own, with the clients and the relay publisher it needs.
-/

namespace MonaRobot

/-- Node criticality tiers according to `fdir_policy.yaml`. -/
inductive Tier
  | fatal
  | primary
  | auxiliary
  deriving DecidableEq

/-- The mechanism utilized to reset a failed component. -/
inductive ResetMechanism
  | lifecycleService
  | hardwareRelay
  | other (value : Int)
  deriving DecidableEq

/-- Phases of the component recovery. -/
inductive RecoveryPhase
  | nominal
  | powerOff
  | waitDischarge
  | powerOn
  | waitBoot
  | defective
  | other (value : Int)
  deriving DecidableEq

/-- The record of a managed component. -/
structure ManagedNode where
  name : String
  tier : Tier
  retryCount : ℕ
  currentState : UInt8
  phase : RecoveryPhase
  lastPhaseChange : Time
  isDefective : Bool
  startupTime : ℚ
  powerOffTime : ℚ
  resetMechanism : ResetMechanism
  resetTopic : String
  deriving DecidableEq

/-- The state members of the manager. -/
structure FdirManagerNode where
  managedNodes : List ManagedNode
  getStateClients : List String
  changeStateClients : List String
  relayPubs : List String
  deriving DecidableEq

/-- The parameters below `components.<key>.`, with their declared defaults. -/
structure ComponentParams where
  enabled : Bool := false
  nodeName : String := ""
  tier : String := ""
  resetMechanism : String := ""
  startupTime : ℚ := 5
  resetTopic : String := ""

/-- The parameters of the manager. -/
structure FdirPolicy where
  recoveryPowerOffTime : ℚ := 3
  trackedComponents : List String := []
  components : String → ComponentParams

namespace FdirManagerNode

/-! ## Validation -/

def parseTier (tierStr : String) : Except String Tier :=
  if tierStr = "FATAL" then .ok .fatal
  else if tierStr = "PRIMARY" then .ok .primary
  else if tierStr = "AUXILIARY" then .ok .auxiliary
  else .error "Invalid safety tier configuration."

def parseResetMechanism (mechStr : String) : Except String ResetMechanism :=
  if mechStr = "hardware_relay" then .ok .hardwareRelay
  else if mechStr = "lifecycle_service" then .ok .lifecycleService
  else .error "Invalid reset_mechanism configuration."

/-- The record a key is provisioned with, created at `now`. -/
def parseComponent (globalPowerOff : ℚ) (params : ComponentParams) (now : Time) :
    Except String ManagedNode :=
  if params.nodeName = "" then .error "Invalid FDIR configuration: Empty node_name."
  else
    (parseTier params.tier).bind fun tier =>
    (parseResetMechanism params.resetMechanism).bind fun mechanism =>
    if mechanism = .hardwareRelay ∧ params.resetTopic = "" then
      .error "Missing reset_topic for hardware relay mechanism."
    else .ok {
      name := params.nodeName
      tier := tier
      retryCount := 0
      currentState := LifecycleState.primaryStateUnconfigured
      phase := .nominal
      lastPhaseChange := now
      isDefective := false
      startupTime := params.startupTime
      powerOffTime := globalPowerOff
      resetMechanism := mechanism
      resetTopic := params.resetTopic }

/-! ## Provisioning -/

/-- `managed_nodes_[node.name] = node`: a record of the same name is replaced. -/
def assign (nodes : List ManagedNode) (node : ManagedNode) : List ManagedNode :=
  if node.name ∈ nodes.map ManagedNode.name then
    nodes.map fun m => if m.name = node.name then node else m
  else nodes ++ [node]

/-- The infrastructure of one component. -/
def provision (s : FdirManagerNode) (node : ManagedNode) : FdirManagerNode where
  managedNodes := assign s.managedNodes node
  getStateClients := s.getStateClients.insert node.name
  changeStateClients := s.changeStateClients.insert node.name
  relayPubs :=
    if node.resetMechanism = .hardwareRelay then s.relayPubs.insert node.name else s.relayPubs

/-- One pass of the loop over the tracked components; a component that is not enabled is skipped. -/
def initComponent (policy : FdirPolicy) (clock : String → Time) (s : FdirManagerNode)
    (compKey : String) : Except String FdirManagerNode :=
  if (policy.components compKey).enabled = false then .ok s
  else (parseComponent policy.recoveryPowerOffTime (policy.components compKey)
    (clock compKey)).map s.provision

/-- The first key whose parameters are already declared when its turn comes. -/
def redeclared (declared : List String) : List String → Option String
  | [] => none
  | key :: keys => if key ∈ declared then some key else redeclared (key :: declared) keys

def initManagedNodes (policy : FdirPolicy) (clock : String → Time) :
    Except String FdirManagerNode :=
  if policy.trackedComponents = [] then
    .error "Missing tracked_components in FDIR policy configuration."
  else match redeclared [] policy.trackedComponents with
    | some key =>
      .error ("parameter 'components." ++ key ++ ".enabled' has already been declared")
    | none => policy.trackedComponents.foldlM (initComponent policy clock) ⟨[], [], [], []⟩

/-! ## What an accepted configuration provisions -/

/-- A record as its initialiser makes it. -/
structure Fresh (node : ManagedNode) : Prop where
  retryCount : node.retryCount = 0
  phase : node.phase = .nominal
  working : node.isDefective = false
  mechanism : ∀ value, node.resetMechanism ≠ .other value

/-- Every record has a name of its own, its two clients, and a publisher if it has a relay. -/
structure Provisioned (s : FdirManagerNode) : Prop where
  nodup : (s.managedNodes.map ManagedNode.name).Nodup
  getState : ∀ node ∈ s.managedNodes, node.name ∈ s.getStateClients
  changeState : ∀ node ∈ s.managedNodes, node.name ∈ s.changeStateClients
  relay : ∀ node ∈ s.managedNodes, node.resetMechanism = .hardwareRelay → node.name ∈ s.relayPubs

theorem parseResetMechanism_ne_other {mechStr : String} {m : ResetMechanism}
    (h : parseResetMechanism mechStr = .ok m) (value : Int) : m ≠ .other value := by
  unfold parseResetMechanism at h
  split_ifs at h <;> cases h <;> simp

/-- An accepted component: its tier and mechanism are parsed, a relay has its topic, and the record is
the initialiser. -/
theorem parseComponent_ok {globalPowerOff : ℚ} {params : ComponentParams} {now : Time}
    {node : ManagedNode} (h : parseComponent globalPowerOff params now = .ok node) :
    ∃ tier mechanism, params.nodeName ≠ "" ∧ parseTier params.tier = .ok tier ∧
      parseResetMechanism params.resetMechanism = .ok mechanism ∧
      ¬ (mechanism = .hardwareRelay ∧ params.resetTopic = "") ∧
      node = ⟨params.nodeName, tier, 0, LifecycleState.primaryStateUnconfigured, .nominal, now, false,
        params.startupTime, globalPowerOff, mechanism, params.resetTopic⟩ := by
  unfold parseComponent at h
  split_ifs at h with hname
  cases ht : parseTier params.tier with
  | error msg => simp [ht, Except.bind] at h
  | ok tier =>
    cases hm : parseResetMechanism params.resetMechanism with
    | error msg => simp [ht, hm, Except.bind] at h
    | ok mechanism =>
      simp only [ht, hm, Except.bind] at h
      split_ifs at h with htopic
      exact ⟨tier, mechanism, hname, rfl, rfl, htopic, (Except.ok.inj h).symm⟩

theorem fresh_of_parseComponent {globalPowerOff : ℚ} {params : ComponentParams} {now : Time}
    {node : ManagedNode} (h : parseComponent globalPowerOff params now = .ok node) : Fresh node := by
  obtain ⟨tier, mechanism, -, -, hm, -, rfl⟩ := parseComponent_ok h
  exact ⟨rfl, rfl, rfl, parseResetMechanism_ne_other hm⟩

/-- A pass of the loop skips a component that is not enabled, and provisions one that is. -/
theorem initComponent_ok {policy : FdirPolicy} {clock : String → Time} {s s' : FdirManagerNode}
    {key : String} (h : initComponent policy clock s key = .ok s') :
    ((policy.components key).enabled = false ∧ s' = s) ∨
    ((policy.components key).enabled = true ∧ ∃ node, parseComponent policy.recoveryPowerOffTime
      (policy.components key) (clock key) = .ok node ∧ s' = s.provision node) := by
  unfold initComponent at h
  split_ifs at h with henabled
  · exact Or.inl ⟨henabled, (Except.ok.inj h).symm⟩
  · cases hnode : parseComponent policy.recoveryPowerOffTime (policy.components key) (clock key) with
    | error msg =>
      rw [hnode] at h
      cases h
    | ok node =>
      rw [hnode] at h
      exact Or.inr ⟨by simpa using henabled, node, rfl, (Except.ok.inj h).symm⟩

/-- An accepted configuration is the result of the loop over the tracked components. -/
theorem initManagedNodes_ok {policy : FdirPolicy} {clock : String → Time} {s : FdirManagerNode}
    (h : initManagedNodes policy clock = .ok s) : policy.trackedComponents ≠ [] ∧
      policy.trackedComponents.foldlM (initComponent policy clock) ⟨[], [], [], []⟩ = .ok s := by
  unfold initManagedNodes at h
  split_ifs at h with hne
  split at h
  · cases h
  · exact ⟨hne, h⟩

/-- A record that is still there beside the new one has another name. -/
theorem mem_assign_of_ne {nodes : List ManagedNode} {node m : ManagedNode}
    (h : m ∈ assign nodes node) : m = node ∨ m ∈ nodes ∧ m.name ≠ node.name := by
  unfold assign at h
  split_ifs at h with hmem
  · obtain ⟨x, hx, rfl⟩ := List.mem_map.1 h
    split_ifs with hname
    · exact Or.inl rfl
    · exact Or.inr ⟨hx, hname⟩
  · rcases List.mem_append.1 h with h | h
    · exact Or.inr ⟨h, fun hname => hmem (hname ▸ List.mem_map_of_mem h)⟩
    · exact Or.inl (List.mem_singleton.1 h)

theorem mem_assign {nodes : List ManagedNode} {node m : ManagedNode} (h : m ∈ assign nodes node) :
    m = node ∨ m ∈ nodes :=
  (mem_assign_of_ne h).imp_right And.left

/-- Replacing a record keeps the names, a new record adds its own. -/
theorem names_assign (nodes : List ManagedNode) (node : ManagedNode) :
    (assign nodes node).map ManagedNode.name =
      if node.name ∈ nodes.map ManagedNode.name then nodes.map ManagedNode.name
      else nodes.map ManagedNode.name ++ [node.name] := by
  unfold assign
  split_ifs with h
  · rw [List.map_map]
    refine List.map_congr_left fun m _ => ?_
    simp only [Function.comp_apply]
    split_ifs with hm
    · exact hm.symm
    · rfl
  · simp

theorem provisioned_provision {s : FdirManagerNode} (h : Provisioned s) (node : ManagedNode) :
    Provisioned (s.provision node) where
  nodup := by
    rw [provision, names_assign]
    split_ifs with hn
    · exact h.nodup
    · exact h.nodup.append (List.nodup_singleton _) (by simpa using hn)
  getState m hm := by
    rcases mem_assign hm with rfl | hm
    · exact List.mem_insert_self ..
    · exact List.mem_insert_of_mem (h.getState m hm)
  changeState m hm := by
    rcases mem_assign hm with rfl | hm
    · exact List.mem_insert_self ..
    · exact List.mem_insert_of_mem (h.changeState m hm)
  relay m hm hr := by
    unfold provision
    rcases mem_assign hm with rfl | hm
    · rw [if_pos hr]
      exact List.mem_insert_self ..
    · split_ifs
      · exact List.mem_insert_of_mem (h.relay m hm hr)
      · exact h.relay m hm hr

/-- Every accepted configuration provisions what its components need, and starts them all afresh. -/
theorem fresh_of_init {policy : FdirPolicy} {clock : String → Time} {s : FdirManagerNode}
    (h : initManagedNodes policy clock = .ok s) :
    Provisioned s ∧ ∀ node ∈ s.managedNodes, Fresh node := by
  refine Loop.foldlM_invariant (I := fun s => Provisioned s ∧ ∀ node ∈ s.managedNodes, Fresh node)
    ?_ ⟨⟨by simp, by simp, by simp, by simp⟩, by simp⟩ (initManagedNodes_ok h).2
  rintro s key s' ⟨hs, hfresh⟩ hkey
  rcases initComponent_ok hkey with ⟨-, rfl⟩ | ⟨-, node, hnode, rfl⟩
  · exact ⟨hs, hfresh⟩
  · refine ⟨provisioned_provision hs node, fun m hm => ?_⟩
    rcases mem_assign hm with rfl | hm
    · exact fresh_of_parseComponent hnode
    · exact hfresh m hm

/-! ## The start of a run -/

/-- The manager as its constructor leaves it: the records of an accepted configuration, in the order
in which the map iterates. -/
def Constructed (policy : FdirPolicy) (clock : String → Time) (s : FdirManagerNode) : Prop :=
  ∃ s₀, initManagedNodes policy clock = .ok s₀ ∧ s.managedNodes.Perm s₀.managedNodes ∧
    s.getStateClients = s₀.getStateClients ∧ s.changeStateClients = s₀.changeStateClients ∧
    s.relayPubs = s₀.relayPubs

variable {policy : FdirPolicy} {clock : String → Time} {s : FdirManagerNode}

theorem Constructed.provisioned (h : Constructed policy clock s) : Provisioned s := by
  obtain ⟨s₀, hinit, hperm, hget, hchange, hrelay⟩ := h
  obtain ⟨hs, -⟩ := fresh_of_init hinit
  constructor
  · exact (hperm.map ManagedNode.name).nodup_iff.2 hs.nodup
  · intro node hnode
    rw [hget]
    exact hs.getState node (hperm.mem_iff.1 hnode)
  · intro node hnode
    rw [hchange]
    exact hs.changeState node (hperm.mem_iff.1 hnode)
  · intro node hnode hr
    rw [hrelay]
    exact hs.relay node (hperm.mem_iff.1 hnode) hr

theorem Constructed.fresh (h : Constructed policy clock s) : ∀ node ∈ s.managedNodes, Fresh node := by
  obtain ⟨s₀, hinit, hperm, -⟩ := h
  exact fun node hnode => (fresh_of_init hinit).2 node (hperm.mem_iff.1 hnode)

/-- The front lidar of `fdir_policy.yaml`, enabled and alone. -/
def lidarPolicy : FdirPolicy where
  trackedComponents := ["safety_lidar_front"]
  components _ :=
    { enabled := true
      nodeName := "mona_lidar_front"
      tier := "PRIMARY"
      resetMechanism := "hardware_relay"
      startupTime := 40
      resetTopic := "hardware/power/lidar_front" }

/-- The manager constructed from `lidarPolicy` at time 0. -/
def lidarManager : FdirManagerNode where
  managedNodes :=
    [{ name := "mona_lidar_front"
       tier := .primary
       retryCount := 0
       currentState := LifecycleState.primaryStateUnconfigured
       phase := .nominal
       lastPhaseChange := 0
       isDefective := false
       startupTime := 40
       powerOffTime := 3
       resetMechanism := .hardwareRelay
       resetTopic := "hardware/power/lidar_front" }]
  getStateClients := ["mona_lidar_front"]
  changeStateClients := ["mona_lidar_front"]
  relayPubs := ["mona_lidar_front"]

theorem lidarManager_constructed : Constructed lidarPolicy (fun _ => 0) lidarManager :=
  ⟨lidarManager, rfl, .refl _, rfl, rfl, rfl⟩

end FdirManagerNode

end MonaRobot
