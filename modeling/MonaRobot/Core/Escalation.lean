import MonaRobot.Core.Monitor
import MonaRobot.Foundations.History

/-!
# The tier of a failed component

`fdir_policy.yaml` gives every component a tier, and the switch over the tier in `monitor_loop`
escalates a failed component accordingly. The switch is guarded by `retry_count >
MAX_RECOVERY_RETRIES` and comes after the test of `is_defective`; but `handle_recovery_fsm` declares
a component defective at the very tick its count exceeds the maximum, so a component that is not
defective never gets there (`Visits.startup`). Every component under recovery counts as
SYSTEM_STARTUP, whatever its tier (`startup_of_recovering`).
-/

namespace MonaRobot.FdirManagerNode

open Reactive

variable {s t : FdirManagerNode} {tick : MonitorTick} {node node' : ManagedNode} {c : Health}
  {o : List FdirAction} {e : MonitorStep} {tr : List MonitorStep}

/-! ## The states polled in a tick -/

/-- The component was not found `ACTIVE`. -/
def NotActive (node : ManagedNode) : Prop := node.currentState ≠ LifecycleState.primaryStateActive

/-- The component reported a failed state. -/
def Failed (node : ManagedNode) : Prop :=
  NotActive node ∧ node.currentState ≠ LifecycleState.primaryStateUnconfigured ∧
    node.currentState ≠ LifecycleState.primaryStateInactive

instance (node : ManagedNode) : Decidable (NotActive node) := inferInstanceAs (Decidable (_ ≠ _))

instance (node : ManagedNode) : Decidable (Failed node) := inferInstanceAs (Decidable (_ ∧ _ ∧ _))

/-- The ticks that escalation is about: the software stack was once operational, no component is
defective, some component is not active, and all that are not have failed. -/
structure LosesComponents (past : List MonitorStep) (e : MonitorStep) : Prop where
  started : ∃ e' ∈ past, FdirState.stateSoftwareOk ∈ published e'.output
  working : ∀ node ∈ e.post.managedNodes, node.isDefective = false
  lost : ∃ node ∈ e.post.managedNodes, NotActive node
  failed : ∀ node ∈ e.post.managedNodes, NotActive node → Failed node

instance (past : List MonitorStep) (e : MonitorStep) : Decidable (LosesComponents past e) :=
  decidable_of_iff
    ((∃ e' ∈ past, FdirState.stateSoftwareOk ∈ published e'.output) ∧
      (∀ node ∈ e.post.managedNodes, node.isDefective = false) ∧
      (∃ node ∈ e.post.managedNodes, NotActive node) ∧
      ∀ node ∈ e.post.managedNodes, NotActive node → Failed node)
    ⟨fun ⟨h₁, h₂, h₃, h₄⟩ => ⟨h₁, h₂, h₃, h₄⟩, fun ⟨h₁, h₂, h₃, h₄⟩ => ⟨h₁, h₂, h₃, h₄⟩⟩

/-- The health by the tiers of the failed components: EMERGENCY for a FATAL one, else
PROTECTIVE_STOP for a PRIMARY one, else DEGRADED. -/
def tieredHealth (nodes : List ManagedNode) : UInt8 :=
  if ∃ node ∈ nodes, Failed node ∧ node.tier = .fatal then FdirState.stateEmergency
  else if ∃ node ∈ nodes, Failed node ∧ node.tier = .primary then FdirState.stateProtectiveStop
  else FdirState.stateDegraded

theorem tieredHealth_ne_startup (nodes : List ManagedNode) :
    tieredHealth nodes ≠ FdirState.stateSystemStartup := by
  unfold tieredHealth
  split_ifs <;> decide

/-! ## The dead branch -/

/-- A component that is not defective after the tick contributes SYSTEM_STARTUP: the comparison with
the maximum of the retries, made after the recovery step, is never true of it. -/
theorem Visits.startup (h : Visits s tick node c node' o) (hc : ManagedNode.Counted node')
    (hd : node'.isDefective = false) : c.globalState = FdirState.stateSystemStartup := by
  cases h with
  | lockedOut hw => exact absurd hw (by simp [hd])
  | active => rfl
  | unconfigured => rfl
  | inactive => rfl
  | failed =>
    have hle : ¬ ManagedNode.maxRecoveryRetries < node'.retryCount := not_lt.2 (hc.strikes hd)
    simp [failureState, hd, hle]

/-- The record keeps the state that was polled. -/
theorem Visits.allActive_iff (h : Visits s tick node c node' o) (hd : node'.isDefective = false) :
    c.allActive = true ↔ ¬ NotActive node' := by
  have hfalse : ∀ {b : UInt8}, b ≠ LifecycleState.primaryStateActive →
      (false = true ↔ ¬ b ≠ LifecycleState.primaryStateActive) := fun hb =>
    iff_of_false Bool.false_ne_true (not_not.2 hb)
  unfold NotActive
  cases h with
  | lockedOut hw => exact absurd hw (by simp [hd])
  | active => exact iff_of_true rfl (not_not.2 rfl)
  | unconfigured => exact hfalse (b := LifecycleState.primaryStateUnconfigured) (by decide)
  | inactive => exact hfalse (b := LifecycleState.primaryStateInactive) (by decide)
  | failed _ _ hne hr =>
    obtain ⟨-, -, hstate, -⟩ := hr.frame
    rw [hstate]
    exact hfalse hne.1

/-- A tick that leaves no component defective and finds one that is not active publishes
SYSTEM_STARTUP. -/
theorem startup_of_recovering (he : ticks.Takes e) (hpre : Sound e.pre)
    (hw : ∀ node ∈ e.post.managedNodes, node.isDefective = false)
    (hlost : ∃ node ∈ e.post.managedNodes, NotActive node) :
    published e.output = [FdirState.stateSystemStartup] := by
  have hpost := sound_step he hpre
  obtain ⟨-, hmap, -⟩ := takes_iff.1 he
  have hmem : ∀ m ∈ e.pre.managedNodes, e.pre.updated e.input m ∈ e.post.managedNodes := by
    intro m hm
    rw [hmap]
    exact List.mem_map.2 ⟨m, hm, rfl⟩
  have hstate : (e.pre.health e.input).globalState = FdirState.stateSystemStartup := by
    refine le_antisymm (Health.foldl_join_globalState_le_iff.2 ⟨le_rfl, fun x hx => ?_⟩)
      UInt8.zero_le
    obtain ⟨m, hm, rfl⟩ := List.mem_map.1 hx
    have hm' := hmem m hm
    exact ((e.pre.visits e.input m).startup (hpost.counted _ hm') (hw _ hm')).le
  have hactive : (e.pre.health e.input).allActive = false := by
    obtain ⟨node, hnode, hna⟩ := hlost
    rw [← Bool.not_eq_true]
    intro hall
    rw [hmap] at hnode
    obtain ⟨m, hm, rfl⟩ := List.mem_map.1 hnode
    have hone := (Health.foldl_join_allActive.1 hall).2 _ (List.mem_map.2 ⟨m, hm, rfl⟩)
    exact ((e.pre.visits e.input m).allActive_iff (hw _ (hmem m hm))).1 hone hna
  rw [published_output he, verdict, hactive, if_neg Bool.false_ne_true, hstate]

/-! ## Escalation never happens -/

/-- **No tier is ever reported.** In every run from an accepted configuration, a tick that loses
components publishes SYSTEM_STARTUP, and so not the health of their tiers. -/
theorem escalation_never {policy : FdirPolicy} {clock : String → Time}
    (hs : Constructed policy clock s) (h : ticks.Run s tr t) :
    Throughout (fun past e => LosesComponents past e →
      published e.output = [FdirState.stateSystemStartup] ∧
        published e.output ≠ [tieredHealth e.post.managedNodes]) tr := by
  rintro past e rest rfl hlost
  obtain ⟨hpast, he, -⟩ := h.around
  have hpre := sound_run hpast (sound_of_constructed hs)
  have hpub := startup_of_recovering he hpre hlost.working hlost.lost
  refine ⟨hpub, fun htier => ?_⟩
  rw [hpub] at htier
  exact tieredHealth_ne_startup _ (List.singleton_inj.1 htier).symm

/-- The front lidar works, then its poll times out. -/
def lostLidar : List MonitorTick :=
  [pollTick (.replied LifecycleState.primaryStateActive) 1, pollTick .timedOut 2]

theorem escalation_never_lostLidar :
    (∃ e ∈ ticks.trace lidarManager lostLidar,
      LosesComponents ((ticks.trace lidarManager lostLidar).take 1) e) ∧
    Throughout (fun past e => LosesComponents past e →
      published e.output = [FdirState.stateSystemStartup] ∧
        published e.output ≠ [tieredHealth e.post.managedNodes])
      (ticks.trace lidarManager lostLidar) := by
  refine ⟨by decide +kernel, ?_⟩
  exact escalation_never lidarManager_constructed (ticks.run_trace _ _ (by decide +kernel))

/-- Losing the front lidar, a PRIMARY component, publishes SYSTEM_STARTUP and not
PROTECTIVE_STOP. -/
theorem lostLidar_unescalated :
    Constructed lidarPolicy (fun _ => 0) lidarManager ∧
    ticks.Run lidarManager (ticks.trace lidarManager lostLidar)
      (ticks.final lidarManager lostLidar) ∧
    ¬ Throughout (fun past e => LosesComponents past e →
        published e.output = [tieredHealth e.post.managedNodes])
      (ticks.trace lidarManager lostLidar) :=
  ⟨lidarManager_constructed, ticks.run_trace _ _ (by decide +kernel), by decide +kernel⟩

end MonaRobot.FdirManagerNode
