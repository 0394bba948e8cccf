import MonaRobot.Core.FdirConfig

/-!
# The recovery machine of a component

`handle_recovery_fsm`: one step of the recovery of a failed component, from its record and a clock
reading to the new record and the actions taken. Three failed passes through the whole sequence are
permitted; the fourth time the component is found failed in the phase `NOMINAL` it is defective.

`Recovers` lists what a step can do. `Counted` is what the retry counter says about the phase,
kept by every step.
-/

namespace MonaRobot

/-- What the manager does: the calls of its lifecycle helpers, the commands on the relays, each with
the topic of its publisher, and its four topics. -/
inductive FdirAction
  | getState (nodeName : String)
  | changeState (nodeName : String) (transitionId : UInt8)
  | relay (nodeName resetTopic : String) (data : Bool)
  | healthState (currentState : UInt8) (diagnosticMessage : String)
  | contactors (data : Bool)
  | motorCmd (msg : Twist ℚ)
  | heartbeat (data : Bool)
  deriving DecidableEq

/-- The component an action is for. -/
def FdirAction.component : FdirAction → Option String
  | .getState nodeName => some nodeName
  | .changeState nodeName _ => some nodeName
  | .relay nodeName _ _ => some nodeName
  | _ => none

/-- The health states published among the actions. -/
def published (o : List FdirAction) : List UInt8 :=
  o.filterMap fun
    | .healthState currentState _ => some currentState
    | _ => none

theorem published_append {o₁ o₂ : List FdirAction} (h : published o₁ = []) :
    published (o₁ ++ o₂) = published o₂ := by
  rw [published, List.filterMap_append, ← published, h, List.nil_append, ← published]

/-- The command an action gives on the relay of a component. -/
def FdirAction.relayCommand (nodeName : String) : FdirAction → Option Bool
  | .relay name _ data => if name = nodeName then some data else none
  | _ => none

/-- The commands on the relay of a component. -/
def relayCommands (nodeName : String) (o : List FdirAction) : List Bool :=
  o.filterMap (FdirAction.relayCommand nodeName)

@[simp] theorem mem_relayCommands {nodeName : String} {o : List FdirAction} {data : Bool} :
    data ∈ relayCommands nodeName o ↔ ∃ resetTopic, .relay nodeName resetTopic data ∈ o := by
  rw [relayCommands, List.mem_filterMap]
  constructor
  · rintro ⟨a, ha, hdata⟩
    cases a with
    | relay name topic data' =>
      obtain ⟨rfl, rfl⟩ : name = nodeName ∧ data' = data := by
        simpa [FdirAction.relayCommand] using hdata
      exact ⟨topic, ha⟩
    | _ => cases hdata
  · rintro ⟨topic, ha⟩
    exact ⟨_, ha, if_pos rfl⟩

theorem relayCommand_eq_none {nodeName : String} {a : FdirAction}
    (h : a.component ≠ some nodeName) : a.relayCommand nodeName = none := by
  cases a with
  | relay name topic data => exact if_neg fun hname => h (congrArg some hname)
  | _ => rfl

namespace ManagedNode

/-- `MAX_RECOVERY_RETRIES`. -/
def maxRecoveryRetries : ℕ := 3

/-- The component is locked out. -/
def lockOut (node : ManagedNode) : ManagedNode :=
  { node with isDefective := true, phase := .defective }

/-- The case `POWER_OFF`: cut the power, or request the cleanup. -/
def powerOff (now : Time) (node : ManagedNode) : ManagedNode × List FdirAction :=
  match node.resetMechanism with
  | .hardwareRelay =>
    ({ node with phase := .waitDischarge, lastPhaseChange := now },
      [.relay node.name node.resetTopic false])
  | .lifecycleService =>
    ({ node with phase := .waitDischarge, lastPhaseChange := now },
      [.changeState node.name LifecycleTransition.transitionCleanup])
  | .other _ => (node.lockOut, [])

/-- The case `POWER_ON`: restore the power. -/
def powerOn (now : Time) (node : ManagedNode) : ManagedNode × List FdirAction :=
  match node.resetMechanism with
  | .hardwareRelay =>
    ({ node with phase := .waitBoot, lastPhaseChange := now },
      [.relay node.name node.resetTopic true])
  | .lifecycleService => ({ node with phase := .waitBoot, lastPhaseChange := now }, [])
  | .other _ => (node.lockOut, [])

/-- `handle_recovery_fsm`, with the clock reading it takes. -/
def handleRecoveryFsm (now : Time) (node : ManagedNode) : ManagedNode × List FdirAction :=
  let elapsedTime := now - node.lastPhaseChange
  match node.phase with
  | .nominal =>
    let node := { node with retryCount := node.retryCount + 1 }
    if maxRecoveryRetries < node.retryCount then (node.lockOut, [])
    -- the time of the phase change is not taken here
    else ({ node with phase := .powerOff }, [])
  | .powerOff => node.powerOff now
  | .waitDischarge =>
    if node.powerOffTime ≤ elapsedTime then ({ node with phase := .powerOn }, []) else (node, [])
  | .powerOn => node.powerOn now
  | .waitBoot =>
    if node.startupTime ≤ elapsedTime then
      ({ node with phase := .nominal, lastPhaseChange := now }, [])
    else (node, [])
  | .defective => (node, [])
  | .other _ => (node.lockOut, [])

/-! ## What a recovery step does -/

/-- The recovery steps: the new record and the actions. -/
inductive Recovers (now : Time) (node : ManagedNode) : ManagedNode → List FdirAction → Prop
  | exhausted (_ : node.phase = .nominal) (_ : maxRecoveryRetries ≤ node.retryCount) :
      Recovers now node { node.lockOut with retryCount := node.retryCount + 1 } []
  | strike (_ : node.phase = .nominal) (_ : node.retryCount < maxRecoveryRetries) :
      Recovers now node { node with retryCount := node.retryCount + 1, phase := .powerOff } []
  | relayOpened (_ : node.phase = .powerOff) (_ : node.resetMechanism = .hardwareRelay) :
      Recovers now node { node with phase := .waitDischarge, lastPhaseChange := now }
        [.relay node.name node.resetTopic false]
  | cleanupRequested (_ : node.phase = .powerOff) (_ : node.resetMechanism = .lifecycleService) :
      Recovers now node { node with phase := .waitDischarge, lastPhaseChange := now }
        [.changeState node.name LifecycleTransition.transitionCleanup]
  | discharging (_ : node.phase = .waitDischarge)
      (_ : now - node.lastPhaseChange < node.powerOffTime) : Recovers now node node []
  | discharged (_ : node.phase = .waitDischarge)
      (_ : node.powerOffTime ≤ now - node.lastPhaseChange) :
      Recovers now node { node with phase := .powerOn } []
  | relayClosed (_ : node.phase = .powerOn) (_ : node.resetMechanism = .hardwareRelay) :
      Recovers now node { node with phase := .waitBoot, lastPhaseChange := now }
        [.relay node.name node.resetTopic true]
  | softwareReset (_ : node.phase = .powerOn) (_ : node.resetMechanism = .lifecycleService) :
      Recovers now node { node with phase := .waitBoot, lastPhaseChange := now } []
  | booting (_ : node.phase = .waitBoot) (_ : now - node.lastPhaseChange < node.startupTime) :
      Recovers now node node []
  | booted (_ : node.phase = .waitBoot) (_ : node.startupTime ≤ now - node.lastPhaseChange) :
      Recovers now node { node with phase := .nominal, lastPhaseChange := now } []
  | lockedOut (_ : node.phase = .defective) : Recovers now node node []
  | unknownMechanism (value : Int) (_ : node.resetMechanism = .other value)
      (_ : node.phase = .powerOff ∨ node.phase = .powerOn) : Recovers now node node.lockOut []
  | invalidPhase (value : Int) (_ : node.phase = .other value) : Recovers now node node.lockOut []

theorem recovers (now : Time) (node : ManagedNode) :
    Recovers now node (node.handleRecoveryFsm now).1 (node.handleRecoveryFsm now).2 := by
  cases hp : node.phase with
  | nominal =>
    by_cases hr : maxRecoveryRetries < node.retryCount + 1
    · simp only [handleRecoveryFsm, hp, hr, if_true]
      exact .exhausted hp (Nat.lt_succ_iff.1 hr)
    · simp only [handleRecoveryFsm, hp, hr, if_false]
      exact .strike hp (by omega)
  | powerOff =>
    simp only [handleRecoveryFsm, hp, powerOff]
    split
    · next hm => exact .relayOpened hp hm
    · next hm => exact .cleanupRequested hp hm
    · next value hm => exact .unknownMechanism value hm (Or.inl hp)
  | waitDischarge =>
    by_cases he : node.powerOffTime ≤ now - node.lastPhaseChange
    · simp only [handleRecoveryFsm, hp, he, if_true]
      exact .discharged hp he
    · simp only [handleRecoveryFsm, hp, he, if_false]
      exact .discharging hp (not_le.1 he)
  | powerOn =>
    simp only [handleRecoveryFsm, hp, powerOn]
    split
    · next hm => exact .relayClosed hp hm
    · next hm => exact .softwareReset hp hm
    · next value hm => exact .unknownMechanism value hm (Or.inr hp)
  | waitBoot =>
    by_cases he : node.startupTime ≤ now - node.lastPhaseChange
    · simp only [handleRecoveryFsm, hp, he, if_true]
      exact .booted hp he
    · simp only [handleRecoveryFsm, hp, he, if_false]
      exact .booting hp (not_le.1 he)
  | defective =>
    simp only [handleRecoveryFsm, hp]
    exact .lockedOut hp
  | other value =>
    simp only [handleRecoveryFsm, hp]
    exact .invalidPhase value hp

/-- What the recovery leaves alone. -/
theorem Recovers.frame {now : Time} {node node' : ManagedNode} {o : List FdirAction}
    (h : Recovers now node node' o) : node'.name = node.name ∧ node'.tier = node.tier ∧
      node'.currentState = node.currentState ∧ node'.resetMechanism = node.resetMechanism := by
  cases h <;> exact ⟨rfl, rfl, rfl, rfl⟩

theorem Recovers.resetTopic {now : Time} {node node' : ManagedNode} {o : List FdirAction}
    (h : Recovers now node node' o) : node'.resetTopic = node.resetTopic := by
  cases h <;> rfl

/-- Every action of a recovery step concerns the component itself. -/
theorem Recovers.actions {now : Time} {node node' : ManagedNode} {o : List FdirAction}
    (h : Recovers now node node' o) : ∀ a ∈ o,
      a = .changeState node.name LifecycleTransition.transitionCleanup ∨
        (node.resetMechanism = .hardwareRelay ∧
          ∃ data, a = .relay node.name node.resetTopic data) := by
  intro a ha
  cases h with
  | relayOpened _ hm => exact Or.inr ⟨hm, false, List.mem_singleton.1 ha⟩
  | relayClosed _ hm => exact Or.inr ⟨hm, true, List.mem_singleton.1 ha⟩
  | cleanupRequested => exact Or.inl (List.mem_singleton.1 ha)
  | _ => cases ha

/-! ## The retry counter -/

/-- A working component is in one of the five phases of the sequence and has strikes left; a
defective one is in the phase `DEFECTIVE`. -/
structure Counted (node : ManagedNode) : Prop where
  strikes : node.isDefective = false → node.retryCount ≤ maxRecoveryRetries
  defective : node.isDefective = true ↔ node.phase = .defective
  valid : ∀ value, node.phase ≠ .other value
  mechanism : ∀ value, node.resetMechanism ≠ .other value

/-- A recovery step keeps the count. -/
theorem Recovers.counted {now : Time} {node node' : ManagedNode} {o : List FdirAction}
    (h : Recovers now node node' o) (hc : Counted node) : Counted node' := by
  obtain ⟨hs, hd, hv, hm⟩ := hc
  cases h with
  | exhausted hp hr => exact ⟨fun h => (by cases h), by simp [lockOut], by simp [lockOut], hm⟩
  | strike hp hr => exact ⟨fun _ => hr, by simp_all, by simp, hm⟩
  | relayOpened hp _ => exact ⟨hs, by simp_all, by simp, hm⟩
  | cleanupRequested hp _ => exact ⟨hs, by simp_all, by simp, hm⟩
  | discharging => exact ⟨hs, hd, hv, hm⟩
  | discharged hp _ => exact ⟨hs, by simp_all, by simp, hm⟩
  | relayClosed hp _ => exact ⟨hs, by simp_all, by simp, hm⟩
  | softwareReset hp _ => exact ⟨hs, by simp_all, by simp, hm⟩
  | booting => exact ⟨hs, hd, hv, hm⟩
  | booted hp _ => exact ⟨hs, by simp_all, by simp, hm⟩
  | lockedOut => exact ⟨hs, hd, hv, hm⟩
  | unknownMechanism value hm' _ => exact absurd hm' (hm value)
  | invalidPhase value hp => exact absurd hp (hv value)

theorem counted_of_fresh {node : ManagedNode} (h : FdirManagerNode.Fresh node) : Counted node where
  strikes _ := by
    rw [h.retryCount]
    exact Nat.zero_le _
  defective := by simp [h.working, h.phase]
  valid := by simp [h.phase]
  mechanism := h.mechanism

end ManagedNode

end MonaRobot
