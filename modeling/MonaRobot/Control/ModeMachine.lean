import MonaRobot.Control.TwistMux
import Mathlib.Tactic.Linarith

/-!
# The mode machine of the multiplexer

`control_loop` treats a mode that is neither `MANUAL` nor `AUTONOMOUS` while a command source is
fresh as a corrupted state machine, and throws. Two ordinary orders of events lead there:

* a nav message inside the manual lockout stamps `last_nav_time_` and then leaves the mode alone,
  so in `IDLE` or `BLOCKED` it makes a source fresh without making the mode routable;
* a block shorter than `command_timeout` ends with the mode still `BLOCKED` and a command from
  before the block still fresh.

`modeSound_run_iff`: these are all. In a run from an activation every state keeps the mode sound
exactly if no step is of one of these two kinds (`Revives`).
-/

namespace MonaRobot

open Reactive

namespace TwistMuxNode

variable {V : Type} [VelocityScalar V]

/-- A tick at any time from now on that finds the node not blocked and a source fresh finds the
mode `MANUAL` or `AUTONOMOUS`, and does not throw. -/
def ModeSound (x : Clocked (TwistMuxNode V)) : Prop :=
  ∀ now, x.clock ≤ now → x.node.isSafetyBlocked = false →
    (now - x.node.lastTeleopTime ≤ x.node.cmdTimeout ∨
      now - x.node.lastNavTime ≤ x.node.cmdTimeout) →
    (x.node.currentState = .manual ∨ x.node.currentState = .autonomous) ∧
      ∃ r, x.node.controlLoop now = .ok r

/-- The steps after which a tick would throw: with the mode neither `MANUAL` nor `AUTONOMOUS`, a
nav message that is dropped by the lockout but stamped within `command_timeout`, or a message that
ends a block while a source is fresh. -/
def Revives (e : MuxStep V) : Prop :=
  ¬ e.pre.node.Routable ∧
  match e.input with
  | .nav stamp now _ => e.pre.node.listens = true ∧
      now - e.pre.node.lastTeleopTime < e.pre.node.manualTimeout ∧
      now - stamp ≤ e.pre.node.cmdTimeout
  | .fdirState now msg => e.pre.node.isSafetyBlocked = true ∧
      (msg ≠ FdirState.stateEmergency ∧ msg ≠ FdirState.stateProtectiveStop ∧
        msg ≠ FdirState.stateReconfigured) ∧ e.pre.node.isEstopBlocked = false ∧
      ¬ e.pre.node.Silent now
  | .safetyState now msg => e.pre.node.isSafetyBlocked = true ∧
      msg ≠ SafetyStateMsg.emergency ∧ e.pre.node.isFdirBlocked = false ∧
      ¬ e.pre.node.Silent now
  | _ => False

instance (e : MuxStep V) :
    Decidable (Revives e) :=
  match e with
  | ⟨_, .teleop .., _, _⟩ => inferInstanceAs (Decidable (_ ∧ False))
  | ⟨_, .nav .., _, _⟩ => inferInstanceAs (Decidable (_ ∧ _ ∧ _ ∧ _))
  | ⟨_, .fdirState .., _, _⟩ => inferInstanceAs (Decidable (_ ∧ _ ∧ _ ∧ _ ∧ _))
  | ⟨_, .safetyState .., _, _⟩ => inferInstanceAs (Decidable (_ ∧ _ ∧ _ ∧ _ ∧ _))
  | ⟨_, .controlLoop .., _, _⟩ => inferInstanceAs (Decidable (_ ∧ False))

/-! ## Soundness at the current clock reading -/

/-- Soundness at all later ticks is a fact about the current clock reading. -/
theorem modeSound_iff (x : Clocked (TwistMuxNode V)) :
    ModeSound x ↔ x.node.isSafetyBlocked = true ∨ x.node.Routable ∨ x.node.Silent x.clock := by
  constructor
  · intro h
    by_contra hno
    simp only [not_or, Bool.not_eq_true] at hno
    obtain ⟨hb, hr, hs⟩ := hno
    exact hr (h x.clock le_rfl hb ((not_silent_iff ..).1 hs)).1
  · rintro h now hnow hb hf
    have hs : ¬ x.node.Silent now := (not_silent_iff ..).2 hf
    have hr : x.node.Routable := by
      rcases h with h | h | h
      · rw [hb] at h
        cases h
      · exact h
      · exact absurd (h.mono hnow) hs
    exact ⟨hr, (controlLoop_isOk_iff ..).2 (Or.inr (Or.inr (Or.inr hr)))⟩

/-- Right after an activation the mode is sound: both timestamps lie in the past. -/
theorem modeSound_activated (s : TwistMuxNode V) (t₀ : Time) (hp : s.cmdTimeout ≤ s.manualTimeout) :
    ModeSound (s.activated t₀) := by
  rw [modeSound_iff]
  right; right
  simp only [activated, onActivate, Silent]
  constructor <;> linarith

/-! ## One step -/

/-- A sound state whose mode, flag and timestamps are untouched stays sound as time passes. -/
theorem ModeSound.later {x y : Clocked (TwistMuxNode V)} (h : ModeSound x)
    (hclock : x.clock ≤ y.clock) (hb : y.node.isSafetyBlocked = x.node.isSafetyBlocked)
    (hm : y.node.currentState = x.node.currentState)
    (ht : y.node.lastTeleopTime = x.node.lastTeleopTime)
    (hn : y.node.lastNavTime = x.node.lastNavTime) (hc : y.node.cmdTimeout = x.node.cmdTimeout) :
    ModeSound y := by
  rw [modeSound_iff] at h ⊢
  rcases h with h | h | h
  · exact Or.inl (hb.trans h)
  · exact Or.inr (Or.inl (by rw [Routable, hm]; exact h))
  · have := h.mono hclock
    exact Or.inr (Or.inr (by rw [Silent, ht, hn, hc]; exact this))

/-- A nav message keeps a sound mode unless the lockout drops it in an unroutable mode. -/
theorem modeSound_nav_iff {x : Clocked (TwistMuxNode V)} (h : ModeSound x) {stamp now : Time}
    (msg : Twist V) (hnow : x.clock ≤ now) :
    ModeSound ⟨now, x.node.navCallback stamp now msg⟩ ↔
      ¬ (¬ x.node.Routable ∧ x.node.listens = true ∧
        now - x.node.lastTeleopTime < x.node.manualTimeout ∧ now - stamp ≤ x.node.cmdTimeout) := by
  by_cases hl : x.node.listens = true
  swap
  · have heq : x.node.navCallback stamp now msg = x.node := by simp [navCallback, hl]
    simp only [heq, hl, false_and, and_false, not_false_eq_true, iff_true, Bool.false_eq_true]
    exact h.later hnow rfl rfl rfl rfl rfl
  have hb : x.node.isSafetyBlocked = false := (x.node.listens_iff.1 hl).2
  by_cases hlock : now - x.node.lastTeleopTime < x.node.manualTimeout
  swap
  · have hauto : (x.node.navCallback stamp now msg).Routable := by
      simp [navCallback, acceptNav, hl, hlock, Routable]
    simp only [hlock, false_and, and_false, not_false_eq_true, iff_true]
    exact (modeSound_iff _).2 (Or.inr (Or.inl hauto))
  -- the lockout drops the message, but `last_nav_time_` is already stamped
  have hb' : (x.node.navCallback stamp now msg).isSafetyBlocked = false := by
    simp [navCallback, acceptNav, hl, hlock, hb]
  have hr' : (x.node.navCallback stamp now msg).Routable ↔ x.node.Routable := by
    simp [navCallback, acceptNav, hl, hlock, Routable]
  have hs' : (x.node.navCallback stamp now msg).Silent now ↔
      x.node.cmdTimeout < now - x.node.lastTeleopTime ∧ x.node.cmdTimeout < now - stamp := by
    simp [navCallback, acceptNav, hl, hlock, Silent]
  rw [modeSound_iff] at h ⊢
  simp only [hb', hr', hs', hb, hl, hlock, Bool.false_eq_true, false_or, true_and] at h ⊢
  by_cases hr : x.node.Routable
  · simp [hr]
  · have hs : x.node.Silent now := (h.resolve_left hr).mono hnow
    simp only [hr, hs.1, true_and, false_or, not_false_eq_true, not_le]

/-- A message that rewrites the block flags keeps a sound mode unless it ends a block while the
mode is unroutable and a source is fresh. -/
theorem modeSound_unblock_iff {x y : Clocked (TwistMuxNode V)} (h : ModeSound x)
    (hclock : x.clock ≤ y.clock) (hm : y.node.currentState = x.node.currentState)
    (ht : y.node.lastTeleopTime = x.node.lastTeleopTime)
    (hn : y.node.lastNavTime = x.node.lastNavTime) (hc : y.node.cmdTimeout = x.node.cmdTimeout) :
    ModeSound y ↔ ¬ (¬ x.node.Routable ∧ x.node.isSafetyBlocked = true ∧
      y.node.isSafetyBlocked = false ∧ ¬ x.node.Silent y.clock) := by
  have hr : y.node.Routable ↔ x.node.Routable := by rw [Routable, hm, Routable]
  have hs : y.node.Silent y.clock ↔ x.node.Silent y.clock := by rw [Silent, ht, hn, hc, Silent]
  rw [modeSound_iff] at h ⊢
  rw [hr, hs]
  cases hy : y.node.isSafetyBlocked with
  | true => simp
  | false =>
    cases hx : x.node.isSafetyBlocked with
    | true =>
      simp only [true_and, Bool.false_eq_true, false_or]
      tauto
    | false =>
      simp only [hx, Bool.false_eq_true, false_or, false_and, and_false, not_false_eq_true,
        iff_true] at h ⊢
      exact h.imp_right fun h => h.mono hclock

/-- **One step.** From a sound state a step leads to a sound state exactly if it does not revive
an unroutable mode. -/
theorem modeSound_step_iff {e : MuxStep V}
    (he : events.Takes e) (h : ModeSound e.pre) : ModeSound e.post ↔ ¬ Revives e := by
  induction e, he using takes_rec with
  | teleop x now ready msg hnow =>
    simp only [Revives, and_false, not_false_eq_true, iff_true]
    rcases x.node.teleopCallback_cases now ready msg with ⟨-, heq⟩ | ⟨-, -, heq⟩ | ⟨-, -, heq⟩ <;>
      rw [heq]
    · exact h.later hnow rfl rfl rfl rfl rfl
    · exact h.later hnow rfl rfl rfl rfl rfl
    · exact (modeSound_iff _).2 (Or.inr (Or.inl (Or.inl rfl)))
  | nav x stamp now msg hstamp hnow => exact modeSound_nav_iff h msg (hstamp.trans hnow)
  | fdirState x now msg hnow =>
    have hiff := modeSound_unblock_iff (x := x) (y := ⟨now, x.node.fdirStateCallback msg⟩) h hnow
      rfl rfl rfl rfl
    refine hiff.trans ?_
    simp [Revives, fdirStateCallback, fdirBlocks, and_assoc]
  | safetyState x now msg hnow =>
    have hiff := modeSound_unblock_iff (x := x) (y := ⟨now, x.node.safetyStateCallback msg⟩) h hnow
      rfl rfl rfl rfl
    refine hiff.trans ?_
    simp only [Revives, safetyStateCallback, estopBlocks, Bool.or_eq_false_iff,
      decide_eq_false_iff_not]
    tauto
  | controlLoop x now s o hnow htick =>
    simp only [Revives, and_false, not_false_eq_true, iff_true]
    rcases controlLoop_cases htick with ⟨-, rfl, -⟩ | ⟨-, r, hr, rfl, -⟩
    · exact h.later hnow rfl rfl rfl rfl rfl
    rw [modeSound_iff]
    rcases selectTarget_cases hr with ⟨hb, rfl⟩ | ⟨-, hs, rfl⟩ | ⟨-, -, hm, rfl⟩ | ⟨-, -, hm, rfl⟩
    · exact Or.inl hb
    · exact Or.inr (Or.inr hs)
    · exact Or.inr (Or.inl (Or.inl hm))
    · exact Or.inr (Or.inl (Or.inr hm))

/-! ## Whole runs -/

/-- **The mode machine over a run.** Since an activation, every state reached keeps the mode sound
exactly if no step revives an unroutable mode. -/
theorem modeSound_run_iff (s : TwistMuxNode V) (t₀ : Time) (hp : s.cmdTimeout ≤ s.manualTimeout)
    {tr : List (MuxStep V)}
    {x : Clocked (TwistMuxNode V)} (h : events.Run (s.activated t₀) tr x) :
    (∀ y, Machine.Visited (s.activated t₀) tr y → ModeSound y) ↔ ∀ e ∈ tr, ¬ Revives e :=
  h.forall_iff (J := fun _ => True) trivial (modeSound_activated s t₀ hp)
    (fun _ _ _ => trivial) fun _ he _ hpre => modeSound_step_iff he hpre

/-- A drive command, a block that outlasts the command, and a new command after it. -/
def longBlock : List (MuxEvent ℚ) :=
  [.teleop 11 true ⟨⟨4 / 5, 0, 0⟩, 0⟩, .controlLoop 11, .fdirState (111 / 10) FdirState.stateEmergency,
    .controlLoop (112 / 10), .fdirState 12 FdirState.stateSoftwareOk, .controlLoop 12,
    .teleop (121 / 10) true ⟨⟨4 / 5, 0, 0⟩, 0⟩, .controlLoop (122 / 10)]

theorem modeSound_run_longBlock :
    (events.trace (configured.activated 10) longBlock).length = 8 ∧
    ∀ y, Machine.Visited (configured.activated 10) (events.trace (configured.activated 10) longBlock)
      y → ModeSound y :=
  ⟨by decide +kernel, (modeSound_run_iff configured 10 (by decide +kernel)
    (Machine.run_trace _ longBlock (by decide +kernel))).2 (by decide +kernel)⟩

/-- A drive command and a block shorter than `command_timeout`. -/
def shortBlock : List (MuxEvent ℚ) :=
  [.teleop 11 true ⟨⟨4 / 5, 0, 0⟩, 0⟩, .fdirState (111 / 10) FdirState.stateEmergency,
    .controlLoop (111 / 10), .fdirState (112 / 10) FdirState.stateSoftwareOk]

/-- The short block ends with the mode `BLOCKED`, no block and a fresh teleop command, and the next
tick throws. -/
theorem shortBlock_throws :
    0 < configured.cmdTimeout ∧ configured.cmdTimeout ≤ configured.manualTimeout ∧
    ∃ tr x, events.Run (configured.activated 10) tr x ∧
      x.clock ≤ 113 / 10 ∧ x.node.isSafetyBlocked = false ∧
      113 / 10 - x.node.lastTeleopTime ≤ x.node.cmdTimeout ∧
      x.node.currentState = .blocked ∧
      x.node.controlLoop (113 / 10) =
        .error "TwistMuxNode: Undefined state machine state detected." := by
  refine ⟨by decide +kernel, by decide +kernel, _, _,
    Machine.run_trace _ shortBlock (by decide +kernel), by decide +kernel, by decide +kernel,
    by decide +kernel, by decide +kernel, controlLoop_throws ?_ ?_ ?_ ?_⟩ <;> decide +kernel

end TwistMuxNode

end MonaRobot
