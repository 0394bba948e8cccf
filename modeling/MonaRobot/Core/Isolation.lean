import MonaRobot.Core.Component

/-!
# The verdict of a tick and the isolation of the components

One loop body polls a component, mutates its record, issues its commands and folds it into the two
accumulators `global_state` and `all_active`. No contribution to the first is ever `SOFTWARE_OK`, so
that verdict comes from the second alone (`softwareOk_iff`); both are folds of a commutative join,
so the iteration order of the map does not show; and through `componentView` two runs that look
alike to one component treat it alike.
-/

namespace MonaRobot.FdirManagerNode

open Reactive

variable {s t : FdirManagerNode} {tick : MonitorTick} {node node' : ManagedNode} {c : Health}
  {o : List FdirAction}

/-! ## The verdict -/

theorem failureState_ne_softwareOk (node : ManagedNode) :
    failureState node ≠ FdirState.stateSoftwareOk := by
  unfold failureState tierState
  split_ifs
  · decide
  · cases node.tier <;> decide
  · decide

/-- No component contributes `SOFTWARE_OK` to the health. -/
theorem Visits.ne_softwareOk (h : Visits s tick node c node' o) :
    c.globalState ≠ FdirState.stateSoftwareOk := by
  cases h with
  | failed => exact failureState_ne_softwareOk _
  | _ => decide

theorem Visits.allActive_iff_polledActive (h : Visits s tick node c node' o) :
    c.allActive = true ↔ s.PolledActive tick node := by
  cases h with
  | active hw hstate => exact iff_of_true rfl ⟨hw, hstate⟩
  | lockedOut hd => exact iff_of_false Bool.false_ne_true fun hp => absurd hd (by simp [hp.1])
  | unconfigured _ hstate | inactive _ hstate =>
    refine iff_of_false Bool.false_ne_true fun hp => ?_
    exact absurd (hstate.symm.trans hp.2) (by decide)
  | failed _ hstate hne _ =>
    exact iff_of_false Bool.false_ne_true fun hp => hne.1 (hstate.symm.trans hp.2)

/-- The joined state is one of those that were joined. -/
theorem foldl_join_globalState_mem (hs : List Health) (h : Health) :
    (hs.foldl Health.join h).globalState = h.globalState ∨
      ∃ x ∈ hs, (hs.foldl Health.join h).globalState = x.globalState := by
  induction hs generalizing h with
  | nil => exact Or.inl rfl
  | cons x hs ih =>
    rw [List.foldl_cons]
    rcases ih (h.join x) with hx | ⟨y, hy, hx⟩
    · rw [hx]
      rcases max_choice h.globalState x.globalState with hmax | hmax
      · exact Or.inl hmax
      · exact Or.inr ⟨x, by simp, hmax⟩
    · exact Or.inr ⟨y, List.mem_cons_of_mem _ hy, hx⟩

theorem health_ne_softwareOk (s : FdirManagerNode) (tick : MonitorTick) :
    (s.health tick).globalState ≠ FdirState.stateSoftwareOk := by
  rcases foldl_join_globalState_mem (s.managedNodes.map (s.contribution tick)) Health.initial with
    h | ⟨x, hx, h⟩
  · rw [health, h]
    decide
  · obtain ⟨node, -, rfl⟩ := List.mem_map.1 hx
    rw [health, h]
    exact (s.visits tick node).ne_softwareOk

/-- The verdict is `SOFTWARE_OK` exactly if every component is polled active. -/
theorem softwareOk_iff (s : FdirManagerNode) (tick : MonitorTick) :
    verdict (s.health tick) = FdirState.stateSoftwareOk ↔
      ∀ node ∈ s.managedNodes, s.PolledActive tick node := by
  have hall : (s.health tick).allActive = true ↔
      ∀ node ∈ s.managedNodes, s.PolledActive tick node := by
    rw [health, Health.foldl_join_allActive, List.forall_mem_map]
    refine (and_iff_right rfl).trans (forall₂_congr fun node _ => ?_)
    exact (s.visits tick node).allActive_iff_polledActive
  rw [← hall, verdict]
  split_ifs with h
  · exact iff_of_true rfl h
  · exact iff_of_false (s.health_ne_softwareOk tick) h

/-- Between two ticks the polled ones are those whose service replies `ACTIVE`. -/
theorem Sound.polledActive_iff (h : Sound s) (hnode : node ∈ s.managedNodes) :
    s.PolledActive tick node ↔ node.isDefective = false ∧
      tick.outcome node.name = .replied LifecycleState.primaryStateActive := by
  rw [PolledActive, getNodeState_eq_active_iff, and_iff_right (h.getState node hnode)]

/-! ## Two runs that look alike to a component -/

/-- The two ticks have the same reply and the same clock reading for the component. -/
def SameReadings (nodeName : String) (e₁ e₂ : MonitorStep) : Prop :=
  e₁.input.outcome nodeName = e₂.input.outcome nodeName ∧
    e₁.input.now nodeName = e₂.input.now nodeName

instance (nodeName : String) (e₁ e₂ : MonitorStep) : Decidable (SameReadings nodeName e₁ e₂) :=
  inferInstanceAs (Decidable (_ ∧ _))

/-- The two ticks do the same to the component: the same commands, and the same record after. -/
def SameTreatment (nodeName : String) (e₁ e₂ : MonitorStep) : Prop :=
  commands nodeName e₁.output = commands nodeName e₂.output ∧
    e₁.post.record nodeName = e₂.post.record nodeName

theorem sameTreatment_run {s₁ s₂ t₁ t₂ : FdirManagerNode} {tr₁ tr₂ : List MonitorStep}
    (hs₁ : Sound s₁) (hs₂ : Sound s₂) (h₁ : ticks.Run s₁ tr₁ t₁) (h₂ : ticks.Run s₂ tr₂ t₂)
    (hnode₁ : node ∈ s₁.managedNodes) (hnode₂ : node ∈ s₂.managedNodes)
    (hsame : List.Forall₂ (SameReadings node.name) tr₁ tr₂) :
    List.Forall₂ (SameTreatment node.name) tr₁ tr₂ := by
  obtain ⟨tr₁', m₁, hrun₁, -, hmatch₁⟩ := (componentView node.name).project h₁ ⟨hs₁, hnode₁, rfl⟩
  obtain ⟨tr₂', m₂, hrun₂, -, hmatch₂⟩ := (componentView node.name).project h₂ ⟨hs₂, hnode₂, rfl⟩
  have hinput : tr₁'.map Step.input = tr₂'.map Step.input := by
    calc tr₁'.map Step.input = tr₁.map fun e => e.input.only node.name :=
          (map_eq_of_forall₂ hmatch₁ fun _ _ hab => hab.input.symm).symm
      _ = tr₂.map fun e => e.input.only node.name := by
          refine map_eq_of_forall₂ hsame fun e₁ e₂ ⟨houtcome, hnow⟩ => ?_
          rw [MonitorTick.only, MonitorTick.only, houtcome, hnow]
      _ = tr₂'.map Step.input := map_eq_of_forall₂ hmatch₂ fun _ _ hab => hab.input.symm
  obtain ⟨rfl, -⟩ := hrun₁.unique hrun₂ hinput
  refine forall₂_of_common hmatch₁ hmatch₂ fun e₁ e e₂ hab hcb => ⟨?_, ?_⟩
  · exact hab.output.symm.trans hcb.output
  · exact (record_matches hab).2.trans (record_matches hcb).2.symm

/-- **The verdict and the isolation of the components.** In every state of a run from an accepted
configuration, a tick publishes SOFTWARE_OK exactly if the poll of every component is replied
`ACTIVE` and none is defective; what it publishes, and the records and commands it leads to, do not
depend on the iteration order; and a run of any other accepted configuration that starts with the
same record of a component, and has the same replies and clock readings for it, treats it in the
same way. -/
theorem verdict_isolation {policy : FdirPolicy} {clock : String → Time} {tr : List MonitorStep}
    (hs : Constructed policy clock s) (h : ticks.Run s tr t) :
    (∀ tick, published (t.monitorLoop tick).2 = [FdirState.stateSoftwareOk] ↔
      ∀ node ∈ t.managedNodes, node.isDefective = false ∧
        tick.outcome node.name = .replied LifecycleState.primaryStateActive) ∧
    (∀ tick nodes, t.managedNodes.Perm nodes →
      published (t.monitorLoop tick).2 =
          published ({ t with managedNodes := nodes }.monitorLoop tick).2 ∧
        (t.monitorLoop tick).1.managedNodes.Perm
          ({ t with managedNodes := nodes }.monitorLoop tick).1.managedNodes ∧
        (t.monitorLoop tick).2.Perm ({ t with managedNodes := nodes }.monitorLoop tick).2) ∧
    ∀ policy' clock' s' t' tr', Constructed policy' clock' s' → ticks.Run s' tr' t' →
      ∀ node ∈ s.managedNodes, node ∈ s'.managedNodes →
        List.Forall₂ (SameReadings node.name) tr tr' →
        List.Forall₂ (SameTreatment node.name) tr tr' := by
  refine ⟨fun tick => ?_, fun tick nodes hp => ?_, ?_⟩
  · have hsound := sound_run h (sound_of_constructed hs)
    rw [published_monitorLoop, List.singleton_inj, softwareOk_iff]
    exact forall₂_congr fun node hnode => hsound.polledActive_iff hnode
  · obtain ⟨hhealth, hnodes, hactions⟩ := t.monitorLoop_perm tick hp
    rw [published_monitorLoop, published_monitorLoop, hhealth]
    exact ⟨rfl, hnodes, hactions⟩
  · intro policy' clock' s' t' tr' hs' h' node hnode hnode' hsame
    exact sameTreatment_run (sound_of_constructed hs) (sound_of_constructed hs') h h' hnode hnode'
      hsame

/-- The two cores of `fdir_policy.yaml`, tracked alone. -/
def corePolicy : FdirPolicy where
  trackedComponents := ["safety_core", "control_mux"]
  components compKey :=
    { enabled := true
      nodeName := if compKey = "safety_core" then "safety_node" else "twist_mux_node"
      tier := "FATAL"
      resetMechanism := "lifecycle_service"
      startupTime := 3 }

/-- The record of a core at time 0. -/
def coreNode (nodeName : String) : ManagedNode where
  name := nodeName
  tier := .fatal
  retryCount := 0
  currentState := LifecycleState.primaryStateUnconfigured
  phase := .nominal
  lastPhaseChange := 0
  isDefective := false
  startupTime := 3
  powerOffTime := 3
  resetMechanism := .lifecycleService
  resetTopic := ""

/-- The manager constructed from `corePolicy` at time 0. -/
def coreManager : FdirManagerNode where
  managedNodes := [coreNode "safety_node", coreNode "twist_mux_node"]
  getStateClients := ["twist_mux_node", "safety_node"]
  changeStateClients := ["twist_mux_node", "safety_node"]
  relayPubs := []

/-- The safety node fails and recovers, the mux ends its polls as given. -/
def coreTicks (mux : GetStateOutcome) : List MonitorTick :=
  [.timedOut, .timedOut, .replied LifecycleState.primaryStateActive].map fun outcome =>
    ⟨fun nodeName => if nodeName = "safety_node" then outcome else mux, fun _ => 1⟩

theorem verdict_isolation_cores :
    published ((ticks.final coreManager (coreTicks .failed)).monitorLoop
        (pollTick (.replied LifecycleState.primaryStateActive) 2)).2 =
      [FdirState.stateSoftwareOk] ∧
    List.Forall₂ (SameTreatment "safety_node") (ticks.trace coreManager (coreTicks .failed))
      (ticks.trace coreManager (coreTicks (.replied LifecycleState.primaryStateActive))) := by
  have hs : Constructed corePolicy (fun _ => 0) coreManager :=
    ⟨coreManager, by decide +kernel, .refl _, rfl, rfl, rfl⟩
  have hfailed := ticks.run_trace coreManager (coreTicks .failed) (by decide +kernel)
  have hactive := ticks.run_trace coreManager
    (coreTicks (.replied LifecycleState.primaryStateActive)) (by decide +kernel)
  obtain ⟨hverdict, -, hsame⟩ := verdict_isolation hs hfailed
  refine ⟨(hverdict _).2 (by decide +kernel), ?_⟩
  exact hsame _ _ _ _ _ hs hactive (coreNode "safety_node") (by simp [coreManager])
    (by simp [coreManager]) (by decide +kernel)

end MonaRobot.FdirManagerNode
