import MonaRobot.Safety.EstopLatch

/-!
# Callbacks while processing is not allowed

`is_processing_allowed_` is to suppress the callbacks of a node that is not active. Five of the six
entry points test it; `estop_reset_callback` does not, and its service exists from `on_configure` to
`on_cleanup`. So a message or request that finds the flag down goes unnoticed unless it is a reset
request on a latched node (`unnoticed_iff`), and over a run the protection holds exactly if there is
no such request (`unnoticed_run_iff`). After a shutdown from the active state the publishers still
send, so the request closes the contactors there (`zombieReset_shutdown`).
-/

namespace MonaRobot

open Reactive

/-- The output is published on one of the topics of the node. -/
def SafetyOutput.isPublished {V : Type} : SafetyOutput V → Bool
  | .response _ _ => false
  | _ => true

namespace SafetyNode

variable {V : Type}

/-- A message or a service request, as opposed to a lifecycle transition. -/
def IsCallback : SafetyEvent V → Prop
  | .smoothedVel _ | .healthState _ | .muxState _ | .odom _ | .estop | .estopReset => True
  | _ => False

instance (i : SafetyEvent V) : Decidable (IsCallback i) :=
  match i with
  | .smoothedVel _ | .healthState _ | .muxState _ | .odom _ | .estop | .estopReset => isTrue trivial
  | .configure _ _ | .activate | .deactivate | .cleanup | .shutdown | .error => isFalse id

/-- The step publishes nothing and changes none of the members the callbacks write. -/
structure Unnoticed (e : SafetyStep V) : Prop where
  silent : ∀ o ∈ e.output, o.isPublished = false
  currentState : e.post.currentState = e.pre.currentState
  eStopActive : e.post.eStopActive = e.pre.eStopActive
  contactors : e.post.hardwareContactorsClosed = e.pre.hardwareContactorsClosed
  lastFdirState : e.post.lastFdirState = e.pre.lastFdirState
  lastMuxState : e.post.lastMuxState = e.pre.lastMuxState

/-- A reset request reaches a latched node while processing is not allowed. -/
def ZombieReset (e : SafetyStep V) : Prop :=
  ResetHandled e ∧ e.pre.isProcessingAllowed = false ∧ e.pre.eStopActive = true

instance [DecidableEq V] (e : SafetyStep V) : Decidable (ZombieReset e) :=
  inferInstanceAs (Decidable (_ ∧ _))

variable [VelocityScalar V]

/-- While processing is not allowed, a callback does nothing unless it is a reset. -/
theorem not_handled_of_not_processing {s : SafetyNode} {i : SafetyEvent V} (hi : IsCallback i)
    (hp : s.isProcessingAllowed = false) (hreset : i ≠ .estopReset) : ¬ s.Handled i := by
  cases i with
  | smoothedVel _ | healthState _ | muxState _ | odom _ | estop => simp [Handled, hp]
  | estopReset => exact absurd rfl hreset
  | _ => exact hi.elim

theorem unnoticed_of_not_handled {e : SafetyStep V} (he : (events V).Takes e)
    (hi : ¬ e.pre.Handled e.input) : Unnoticed e := by
  obtain ⟨hpost, hout⟩ : e.post = e.pre ∧ e.output = e.pre.reply e.input := by
    have hstep := Option.some.inj he
    rw [handle_of_not_handled hi] at hstep
    exact (Prod.mk.inj hstep).imp Eq.symm Eq.symm
  constructor
  · intro o ho
    rw [hout] at ho
    obtain ⟨message, rfl⟩ := reply_mem ho
    rfl
  all_goals rw [hpost]

/-- A handled reset on a latched node shows. -/
theorem not_unnoticed_of_zombieReset {e : SafetyStep V} (he : (events V).Takes e)
    (hz : ZombieReset e) : ¬ Unnoticed e := by
  obtain ⟨⟨hsrv, hi⟩, -, hlatch⟩ := hz
  obtain ⟨s, i, o, t⟩ := e
  obtain rfl : i = .estopReset := hi
  have hstep : s.handle .estopReset = (t, o) := Option.some.inj he
  rw [handle_estopReset ⟨hsrv, Or.inr hlatch⟩] at hstep
  have hcleared : t.eStopActive = false := by
    rw [show t = (s.reset (V := V)).1 from congrArg Prod.fst hstep.symm, reset_fst]
  intro hu
  exact absurd (hu.eStopActive.trans hlatch) (by simp [hcleared])

/-- A callback that finds the flag down goes unnoticed unless it is a reset on a latched node. -/
theorem unnoticed_iff {e : SafetyStep V} (he : (events V).Takes e) (hs : LatchSound e.pre)
    (hi : IsCallback e.input) (hp : e.pre.isProcessingAllowed = false) :
    Unnoticed e ↔ ¬ ZombieReset e := by
  refine ⟨fun hu hz => not_unnoticed_of_zombieReset he hz hu, fun hz => ?_⟩
  refine unnoticed_of_not_handled he fun hh => ?_
  by_cases hreset : e.input = .estopReset
  · rw [hreset] at hh
    obtain ⟨hsrv, hemergency⟩ := hh
    exact hz ⟨⟨hsrv, hreset⟩, hp, hemergency.elim hs.latched id⟩
  · exact not_handled_of_not_processing hi hp hreset hh

/-- **The protection against zombie callbacks.** Over a run from construction, every message or
request that finds `is_processing_allowed_` down publishes nothing and changes nothing, if and only
if none of them is a reset request on a latched node. -/
theorem unnoticed_run_iff {tr : List (SafetyStep V)} {s : SafetyNode}
    (h : (events V).Run construct tr s) :
    (∀ e ∈ tr, IsCallback e.input → e.pre.isProcessingAllowed = false → Unnoticed e) ↔
      ∀ e ∈ tr, ¬ ZombieReset e := by
  have hsound := h.invariant_mem latchSound_construct fun _ he hpre => latchSound_step he hpre
  refine forall₂_congr fun e he => ⟨fun hall hz => ?_, fun hz hi hp => ?_⟩
  · have hi : IsCallback e.input := by
      rw [hz.1.2]
      trivial
    exact not_unnoticed_of_zombieReset (h.takes e he) hz (hall hi hz.2.1)
  · exact (unnoticed_iff (h.takes e he) (hsound e he).1 hi hp).2 hz

/-- Messages and requests to a node that was deactivated without an e-stop. -/
def idleCallbacks : List (SafetyEvent ℚ) :=
  [.configure 1 (3 / 10), .activate, .healthState FdirState.stateSoftwareOk, .deactivate,
    .healthState FdirState.stateEmergency, .smoothedVel ⟨⟨1, 0, 0⟩, 0⟩, .muxState 1,
    .odom ⟨⟨1, 0, 0⟩, 0⟩, .estop, .estopReset]

theorem unnoticed_run_idleCallbacks :
    ((events ℚ).trace construct idleCallbacks).length = 10 ∧
    ∀ e ∈ (events ℚ).trace construct idleCallbacks,
      IsCallback e.input → e.pre.isProcessingAllowed = false → Unnoticed e :=
  ⟨by decide +kernel, (unnoticed_run_iff
    ((events ℚ).run_trace construct idleCallbacks (by decide +kernel))).2 (by decide +kernel)⟩

/-- An e-stop, a shutdown from the active state, and a reset request. -/
def zombieResetRun : List (SafetyEvent ℚ) :=
  [.configure 1 (3 / 10), .activate, .estop, .shutdown, .estopReset]

/-- The finalized node closes the contactors. -/
theorem zombieReset_shutdown :
    (events ℚ).Run construct ((events ℚ).trace construct zombieResetRun)
      ((events ℚ).final construct zombieResetRun) ∧
    ¬ (∀ e ∈ (events ℚ).trace construct zombieResetRun,
      IsCallback e.input → e.pre.isProcessingAllowed = false → Unnoticed e) ∧
    ((events ℚ).final construct zombieResetRun).lifecycle = .finalized ∧
    (((events ℚ).trace construct zombieResetRun).map Step.output).getLast? =
      some [.contactors true, .safetyState SafetyStateMsg.normal "NORMAL: IDLE",
        .response true "System recovered from EMERGENCY. Manual control enabled."] := by
  refine ⟨(events ℚ).run_trace _ _ (by decide +kernel), fun hall => ?_, by decide +kernel,
    by decide +kernel⟩
  have hlen : 4 < ((events ℚ).trace construct zombieResetRun).length := by decide +kernel
  have hestop := (hall _ (List.get_mem _ ⟨4, hlen⟩) (by decide +kernel +revert)
    (by decide +kernel +revert)).eStopActive
  exact absurd hestop (by decide +kernel +revert)

end SafetyNode

end MonaRobot
