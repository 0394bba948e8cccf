import MonaRobot.Core.FdirConfig

/-!
# The declared configuration

`init_managed_nodes` validates key by key, but the result is a map by node name. What it guarantees
for every accepted list is `Reflects`: every record is as some enabled key declares it, and every
enabled key has a record under its node name. Two enabled keys of one node name share a record,
which only one of them declares, and a list of disabled keys leaves no record at all. So the records
are those that the policy declares exactly if there is an enabled key and the keys of one node agree
(`faithful_iff`).
-/

namespace MonaRobot.FdirManagerNode

variable {policy : FdirPolicy} {clock : String → Time} {s s' : FdirManagerNode} {key : String}
  {params params' : ComponentParams} {node : ManagedNode} {keys : List String}

/-- The record is under the node name of the key, with what is declared for the key. -/
structure Declares (params : ComponentParams) (node : ManagedNode) : Prop where
  name : node.name = params.nodeName
  tier : parseTier params.tier = .ok node.tier
  mechanism : parseResetMechanism params.resetMechanism = .ok node.resetMechanism
  startupTime : node.startupTime = params.startupTime
  resetTopic : node.resetTopic = params.resetTopic

/-- Every enabled component is monitored as declared, and there is something to monitor. -/
def Faithful (policy : FdirPolicy) (s : FdirManagerNode) : Prop :=
  s.managedNodes ≠ [] ∧ ∀ key ∈ policy.trackedComponents, (policy.components key).enabled = true →
    ∃ node ∈ s.managedNodes, Declares (policy.components key) node

/-- Two keys declare the same for a node. -/
def Agree (params params' : ComponentParams) : Prop :=
  params.tier = params'.tier ∧ params.resetMechanism = params'.resetMechanism ∧
    params.startupTime = params'.startupTime ∧ params.resetTopic = params'.resetTopic

/-- A component is enabled, and the enabled keys of one node agree. -/
def Consistent (policy : FdirPolicy) : Prop :=
  (∃ key ∈ policy.trackedComponents, (policy.components key).enabled = true) ∧
    ∀ key ∈ policy.trackedComponents, ∀ key' ∈ policy.trackedComponents,
      (policy.components key).enabled = true → (policy.components key').enabled = true →
      (policy.components key).nodeName = (policy.components key').nodeName →
      Agree (policy.components key) (policy.components key')

instance (params : ComponentParams) (node : ManagedNode) : Decidable (Declares params node) :=
  decidable_of_iff (node.name = params.nodeName ∧ parseTier params.tier = .ok node.tier ∧
      parseResetMechanism params.resetMechanism = .ok node.resetMechanism ∧
      node.startupTime = params.startupTime ∧ node.resetTopic = params.resetTopic)
    ⟨fun ⟨h₁, h₂, h₃, h₄, h₅⟩ => ⟨h₁, h₂, h₃, h₄, h₅⟩, fun ⟨h₁, h₂, h₃, h₄, h₅⟩ =>
      ⟨h₁, h₂, h₃, h₄, h₅⟩⟩

instance (policy : FdirPolicy) (s : FdirManagerNode) : Decidable (Faithful policy s) :=
  inferInstanceAs (Decidable (_ ∧ ∀ key ∈ policy.trackedComponents, _ → ∃ node ∈ s.managedNodes, _))

instance (params params' : ComponentParams) : Decidable (Agree params params') :=
  inferInstanceAs (Decidable (_ ∧ _ ∧ _ ∧ _))

instance (policy : FdirPolicy) : Decidable (Consistent policy) :=
  inferInstanceAs (Decidable ((∃ key ∈ policy.trackedComponents, _) ∧
    ∀ key ∈ policy.trackedComponents, ∀ key' ∈ policy.trackedComponents, _ → _ → _ → _))

/-! ## One record -/

theorem declares_of_parseComponent {globalPowerOff : ℚ} {now : Time}
    (h : parseComponent globalPowerOff params now = .ok node) : Declares params node := by
  obtain ⟨tier, mechanism, -, ht, hm, -, rfl⟩ := parseComponent_ok h
  exact ⟨rfl, ht, hm, rfl, rfl⟩

theorem parseTier_inj {a b : String} {t : Tier} (ha : parseTier a = .ok t) (hb : parseTier b = .ok t) :
    a = b := by
  unfold parseTier at ha hb
  split_ifs at ha hb <;> grind

theorem parseResetMechanism_inj {a b : String} {m : ResetMechanism}
    (ha : parseResetMechanism a = .ok m) (hb : parseResetMechanism b = .ok m) : a = b := by
  unfold parseResetMechanism at ha hb
  split_ifs at ha hb <;> grind

/-- Keys that one record is faithful to agree. -/
theorem Declares.agree (h : Declares params node) (h' : Declares params' node) :
    Agree params params' :=
  ⟨parseTier_inj h.tier h'.tier, parseResetMechanism_inj h.mechanism h'.mechanism,
    h.startupTime.symm.trans h'.startupTime, h.resetTopic.symm.trans h'.resetTopic⟩

/-- A record is faithful to every key of its node that agrees with its own. -/
theorem Declares.of_agree (h : Declares params node) (hname : params'.nodeName = params.nodeName)
    (ha : Agree params' params) : Declares params' node := by
  obtain ⟨htier, hmech, htime, htopic⟩ := ha
  exact ⟨h.name.trans hname.symm, htier ▸ h.tier, hmech ▸ h.mechanism, h.startupTime.trans htime.symm,
    h.resetTopic.trans htopic.symm⟩

/-! ## The loop over the keys -/

theorem mem_assign_self (nodes : List ManagedNode) (node : ManagedNode) :
    node ∈ assign nodes node := by
  unfold assign
  split_ifs with h
  · obtain ⟨m, hm, hname⟩ := List.mem_map.1 h
    exact List.mem_map.2 ⟨m, hm, if_pos hname⟩
  · exact List.mem_append_right _ (List.mem_singleton_self _)

/-- The names that are in the map stay in it. -/
theorem exists_name_assign {nodes : List ManagedNode} {nodeName : String} (node : ManagedNode)
    (h : ∃ m ∈ nodes, m.name = nodeName) : ∃ m ∈ assign nodes node, m.name = nodeName := by
  obtain ⟨m, hm, rfl⟩ := h
  have hmem : m.name ∈ (assign nodes node).map ManagedNode.name := by
    rw [names_assign]
    split_ifs
    · exact List.mem_map_of_mem hm
    · exact List.mem_append_left _ (List.mem_map_of_mem hm)
  exact List.mem_map.1 hmem

/-- What the map says about the keys passed: every record is as an enabled key declares it, and
every enabled key has a record under its node name. -/
structure Reflects (policy : FdirPolicy) (keys : List String) (s : FdirManagerNode) : Prop where
  declared : ∀ node ∈ s.managedNodes, ∃ key ∈ keys, (policy.components key).enabled = true ∧
    Declares (policy.components key) node
  monitored : ∀ key ∈ keys, (policy.components key).enabled = true →
    ∃ node ∈ s.managedNodes, node.name = (policy.components key).nodeName

theorem reflects_initComponent (hs : Reflects policy keys s)
    (h : initComponent policy clock s key = .ok s') : Reflects policy (keys ++ [key]) s' := by
  rcases initComponent_ok h with ⟨hdisabled, rfl⟩ | ⟨henabled, node, hnode, rfl⟩
  · constructor
    · intro m hm
      obtain ⟨k, hk, hdeclares⟩ := hs.declared m hm
      exact ⟨k, List.mem_append_left _ hk, hdeclares⟩
    · intro k hk henabled
      rcases List.mem_append.1 hk with hk | hk
      · exact hs.monitored k hk henabled
      · rw [List.mem_singleton.1 hk, hdisabled] at henabled
        cases henabled
  · have hdeclares := declares_of_parseComponent hnode
    constructor
    · intro m hm
      rcases mem_assign hm with rfl | hm
      · exact ⟨key, by simp, henabled, hdeclares⟩
      · obtain ⟨k, hk, hdeclares⟩ := hs.declared m hm
        exact ⟨k, List.mem_append_left _ hk, hdeclares⟩
    · intro k hk hk'
      rcases List.mem_append.1 hk with hk | hk
      · exact exists_name_assign node (hs.monitored k hk hk')
      · rw [List.mem_singleton.1 hk]
        exact ⟨node, mem_assign_self _ node, hdeclares.name⟩

/-- Every accepted configuration reflects all its keys. -/
theorem reflects_of_init (h : initManagedNodes policy clock = .ok s) :
    Reflects policy policy.trackedComponents s :=
  Loop.foldlM_history (I := Reflects policy) (p := []) (fun _ _ _ _ => reflects_initComponent)
    ⟨by simp, by simp⟩ (initManagedNodes_ok h).2

/-- **When the configuration is faithful.** For every accepted list of keys, the manager monitors
every enabled component as it is declared, and at least one, exactly if a component is enabled and
the enabled keys of one node agree. -/
theorem faithful_iff (h : initManagedNodes policy clock = .ok s) :
    Faithful policy s ↔ Consistent policy := by
  obtain ⟨hprovisioned, -⟩ := fresh_of_init h
  have hs := reflects_of_init h
  constructor
  · rintro ⟨hne, hfaithful⟩
    constructor
    · obtain ⟨node, hnode⟩ := List.exists_mem_of_ne_nil _ hne
      obtain ⟨key, hkey, henabled, -⟩ := hs.declared node hnode
      exact ⟨key, hkey, henabled⟩
    · intro key hkey key' hkey' henabled henabled' hname
      obtain ⟨node, hnode, hdeclares⟩ := hfaithful key hkey henabled
      obtain ⟨node', hnode', hdeclares'⟩ := hfaithful key' hkey' henabled'
      -- both keys have the one record of their node
      have hsame : node.name = node'.name := by rw [hdeclares.name, hname, hdeclares'.name]
      obtain rfl := List.inj_on_of_nodup_map hprovisioned.nodup hnode hnode' hsame
      exact hdeclares.agree hdeclares'
  · rintro ⟨⟨key, hkey, henabled⟩, hagree⟩
    constructor
    · obtain ⟨node, hnode, -⟩ := hs.monitored key hkey henabled
      exact List.ne_nil_of_mem hnode
    · intro key hkey henabled
      obtain ⟨node, hnode, hname⟩ := hs.monitored key hkey henabled
      obtain ⟨key', hkey', henabled', hdeclares⟩ := hs.declared node hnode
      have hsame : (policy.components key).nodeName = (policy.components key').nodeName :=
        hname.symm.trans hdeclares.name
      exact ⟨node, hnode,
        hdeclares.of_agree hsame (hagree key hkey key' hkey' henabled henabled' hsame)⟩

theorem faithful_iff_lidarPolicy : Faithful lidarPolicy lidarManager :=
  (@faithful_iff lidarPolicy (fun _ => 0) lidarManager rfl).2 (by decide +kernel)

/-- Two enabled keys for one node: it is `FATAL` by the first, and `AUXILIARY` by the second. -/
def sharedNodePolicy : FdirPolicy where
  trackedComponents := ["safety", "diagnostics"]
  components key :=
    { enabled := true
      nodeName := "safety_node"
      tier := if key = "safety" then "FATAL" else "AUXILIARY"
      resetMechanism := "lifecycle_service"
      startupTime := 15 }

/-- The manager constructed from `sharedNodePolicy` at time 0: its node is `AUXILIARY`. -/
def sharedNodeManager : FdirManagerNode where
  managedNodes :=
    [{ name := "safety_node"
       tier := .auxiliary
       retryCount := 0
       currentState := LifecycleState.primaryStateUnconfigured
       phase := .nominal
       lastPhaseChange := 0
       isDefective := false
       startupTime := 15
       powerOffTime := 3
       resetMechanism := .lifecycleService
       resetTopic := "" }]
  relayPubs := []
  getStateClients := ["safety_node"]
  changeStateClients := ["safety_node"]

/-- A list whose only key is not enabled. -/
def disabledPolicy : FdirPolicy where
  trackedComponents := ["safety"]
  components _ := {}

/-- The manager constructed from `disabledPolicy`. -/
def disabledManager : FdirManagerNode where
  managedNodes := []
  relayPubs := []
  getStateClients := []
  changeStateClients := []

/-- Both lists are accepted. By the first the `FATAL` node is monitored as `AUXILIARY`, by the
second nothing is monitored. -/
theorem sharedNode_unfaithful :
    (initManagedNodes sharedNodePolicy (fun _ => 0) = .ok sharedNodeManager ∧
      ¬ Faithful sharedNodePolicy sharedNodeManager) ∧
    initManagedNodes disabledPolicy (fun _ => 0) = .ok disabledManager ∧
      ¬ Faithful disabledPolicy disabledManager :=
  ⟨⟨rfl, by decide +kernel⟩, rfl, by decide +kernel⟩

end MonaRobot.FdirManagerNode
