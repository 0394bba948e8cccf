import MonaRobot.Safety.Interlock

/-!
# The planar speed of the base

`smoothed_vel_callback` saturates the axes one by one, so every motor command is in the square of
the limit, and its planar speed is up to `√2` times the limit. `speedLimits_run` states both, and
for which velocities the planar speed is within the limit: those that are within it themselves, and
those along one axis.
-/

namespace MonaRobot

open Reactive

namespace Twist

/-- The square of the speed `std::hypot(linear.x, linear.y)`. -/
def planarSq (t : Twist ℚ) : ℚ := t.linear.x ^ 2 + t.linear.y ^ 2

theorem planarSq_zero : (0 : Twist ℚ).planarSq = 0 := by
  change (0 : ℚ) ^ 2 + 0 ^ 2 = 0
  norm_num

/-- In the square of a limit the planar speed is at most `√2` times the limit. -/
theorem Within.planarSq_le {L : ℚ} {t : Twist ℚ} (h : t.Within L) : t.planarSq ≤ 2 * L ^ 2 := by
  obtain ⟨hx, hy, -⟩ := h
  have hx2 : t.linear.x ^ 2 ≤ L ^ 2 := sq_le_sq' (abs_le.1 hx).1 (abs_le.1 hx).2
  have hy2 : t.linear.y ^ 2 ≤ L ^ 2 := sq_le_sq' (abs_le.1 hy).1 (abs_le.1 hy).2
  calc t.linear.x ^ 2 + t.linear.y ^ 2 ≤ L ^ 2 + L ^ 2 := add_le_add hx2 hy2
    _ = 2 * L ^ 2 := (two_mul _).symm

end Twist

namespace SafetyNode

variable {L : ℚ}

/-- The velocity is within the planar limit, or along one axis. -/
def KeepsPlanar (L : ℚ) (msg : Twist ℚ) : Prop :=
  msg.planarSq ≤ L ^ 2 ∨ msg.linear.x = 0 ∨ msg.linear.y = 0 ∨ L = 0

instance (L : ℚ) (msg : Twist ℚ) : Decidable (KeepsPlanar L msg) :=
  inferInstanceAs (Decidable (_ ∨ _ ∨ _ ∨ _))

/-- A component beyond the limit takes up all of it. -/
theorem clamp_sq_of_lt {v : ℚ} (h : L < |v|) : clamp v (-L) L ^ 2 = L ^ 2 := by
  rw [clamp_rat]
  split_ifs with h₁ h₂
  · exact neg_sq L
  · rfl
  · exact absurd (abs_le.2 ⟨not_lt.1 h₁, not_lt.1 h₂⟩) (not_le.2 h)

/-- Then the other component has to be zero. -/
theorem clamp_eq_zero_of_lt {u v : ℚ} (hL : 0 ≤ L) (hu : L < |u|)
    (h : clamp u (-L) L ^ 2 + clamp v (-L) L ^ 2 ≤ L ^ 2) : L = 0 ∨ v = 0 := by
  rw [clamp_sq_of_lt hu, add_le_iff_nonpos_right] at h
  have hzero : clamp v (-L) L ^ 2 = 0 := le_antisymm h (sq_nonneg _)
  exact (clamp_eq_zero_iff hL v).1 ((pow_eq_zero_iff two_ne_zero).1 hzero)

theorem clamp_sq_add_le_iff (hL : 0 ≤ L) (x y : ℚ) :
    clamp x (-L) L ^ 2 + clamp y (-L) L ^ 2 ≤ L ^ 2 ↔
      x ^ 2 + y ^ 2 ≤ L ^ 2 ∨ x = 0 ∨ y = 0 ∨ L = 0 := by
  have hle : ∀ v, clamp v (-L) L ^ 2 ≤ v ^ 2 := fun v => sq_le_sq.2 (abs_clamp_le_abs hL v)
  have hlimit : ∀ v, clamp v (-L) L ^ 2 ≤ L ^ 2 := fun v => sq_le_sq.2 (abs_clamp_le v L)
  constructor
  · intro h
    rcases lt_or_ge L |x| with hx | hx
    · exact Or.inr (Or.inr (clamp_eq_zero_of_lt hL hx h).symm)
    rcases lt_or_ge L |y| with hy | hy
    · rw [add_comm] at h
      rcases clamp_eq_zero_of_lt hL hy h with h | h
      · exact Or.inr (Or.inr (Or.inr h))
      · exact Or.inr (Or.inl h)
    · rw [clamp_of_abs_le hx, clamp_of_abs_le hy] at h
      exact Or.inl h
  · have hstill : clamp 0 (-L) L ^ 2 = 0 := by
      rw [(clamp_eq_zero_iff hL 0).2 (Or.inr rfl), zero_pow two_ne_zero]
    rintro (h | rfl | rfl | rfl)
    · exact (add_le_add (hle x) (hle y)).trans h
    · rw [hstill, zero_add]
      exact hlimit y
    · rw [hstill, add_zero]
      exact hlimit x
    · simpa using add_le_add (hlimit x) (hlimit y)

theorem clip_planarSq_le_iff (hL : 0 ≤ L) (msg : Twist ℚ) :
    (clip L msg).planarSq ≤ L ^ 2 ↔ KeepsPlanar L msg :=
  clamp_sq_add_le_iff hL _ _

/-- A velocity delivered to the open motion gate. -/
def PassesGate (e : SafetyStep ℚ) (msg : Twist ℚ) : Prop :=
  e.input = .smoothedVel msg ∧ ¬ e.pre.MotionShut

/-- The only motor command then is the saturated velocity. -/
theorem motorCmd_of_passesGate {e : SafetyStep ℚ} (he : (events ℚ).Takes e) {msg cmd : Twist ℚ}
    (hgate : PassesGate e msg) (hcmd : .motorCmd cmd ∈ e.output) :
    cmd = clip e.pre.currentLimit msg := by
  obtain ⟨hin, hopen⟩ := hgate
  induction e, he using takes_rec with
  | skipped s i hi =>
    obtain ⟨message, h⟩ := reply_mem hcmd
    cases h
  | smoothedVel s msg' hi =>
    obtain rfl := SafetyEvent.smoothedVel.inj hin
    rw [if_neg hopen] at hcmd
    exact SafetyOutput.motorCmd.inj (List.mem_singleton.1 hcmd)
  | _ => cases hin

theorem motorCmd_of_not_passesGate {e : SafetyStep ℚ} (he : (events ℚ).Takes e) {cmd : Twist ℚ}
    (hgate : ∀ msg, ¬ PassesGate e msg) (hcmd : .motorCmd cmd ∈ e.output) : cmd = 0 := by
  cases sends he _ hcmd with
  | stop => rfl
  | velocity msg hin hpost hopen => exact absurd ⟨hin, hopen⟩ (hgate msg)

/-- **The speed limits, axis by axis.** In every run with nonnegative limits, each component of
every motor command is within the limit in force, `max_speed_degraded` in `DEGRADED` and
`max_speed_normal` in every other mode, and so its planar speed within `√2` times this limit. The
planar speed itself is within the limit exactly if that is so of the velocity that the open motion
gate received, or this velocity is along one axis, or the limit is zero. -/
theorem speedLimits_run {tr : List (SafetyStep ℚ)} {s : SafetyNode}
    (h : (events ℚ).Run construct tr s) (hlim : ∀ e ∈ tr, limitsNonneg e.input = true) :
    ∀ e ∈ tr, ∀ cmd, .motorCmd cmd ∈ e.output → ∀ limit,
      limit = (if e.pre.currentState = .degraded then e.pre.maxSpeedDegraded
        else e.pre.maxSpeedNormal) →
      cmd.Within limit ∧ cmd.planarSq ≤ 2 * limit ^ 2 ∧
      (cmd.planarSq ≤ limit ^ 2 ↔ ∀ msg, PassesGate e msg → KeepsPlanar limit msg) := by
  intro e he cmd hcmd limit hlimit
  obtain rfl : limit = e.pre.currentLimit := hlimit
  obtain ⟨past, rest, rfl⟩ := List.append_of_mem he
  obtain ⟨hpast, htakes, -⟩ := h.around
  have hL := currentLimit_run hpast fun e' he' => hlim e' (List.mem_append_left _ he')
  by_cases hgate : ∃ msg, PassesGate e msg
  · obtain ⟨msg, hgate⟩ := hgate
    obtain rfl := motorCmd_of_passesGate htakes hgate hcmd
    have hwithin : (clip e.pre.currentLimit msg).Within e.pre.currentLimit := by
      have hle : ∀ v, |clamp v (-e.pre.currentLimit) e.pre.currentLimit| ≤ e.pre.currentLimit :=
        fun v => (abs_clamp_le v _).trans_eq (abs_of_nonneg hL)
      exact ⟨hle _, hle _, hle _⟩
    refine ⟨hwithin, hwithin.planarSq_le, (clip_planarSq_le_iff hL msg).trans ?_⟩
    constructor
    · rintro hkeeps msg' ⟨hin, -⟩
      obtain rfl := SafetyEvent.smoothedVel.inj (hgate.1.symm.trans hin)
      exact hkeeps
    · exact fun hall => hall msg hgate
  · rw [not_exists] at hgate
    obtain rfl := motorCmd_of_not_passesGate htakes hgate hcmd
    have hzero : (0 : Twist ℚ).Within e.pre.currentLimit := Twist.within_zero hL
    refine ⟨hzero, hzero.planarSq_le, iff_of_true ?_ fun msg hmsg => absurd hmsg (hgate msg)⟩
    rw [Twist.planarSq_zero]
    exact sq_nonneg _

/-- The activated node is cleared and receives one velocity. -/
def driveAt (msg : Twist ℚ) : List (SafetyEvent ℚ) :=
  [.configure 1 (3 / 10), .activate, .healthState FdirState.stateSoftwareOk, .smoothedVel msg]

/-- The same velocity once more, in `DEGRADED`. -/
def driveDegraded (msg : Twist ℚ) : List (SafetyEvent ℚ) :=
  driveAt msg ++ [.healthState FdirState.stateDegraded, .smoothedVel msg]

/-- A velocity beyond both limits along both axes. -/
theorem speedLimits_run_diagonal :
    let tr := (events ℚ).trace construct (driveDegraded ⟨⟨10, -2, 0⟩, 0⟩)
    (∃ e ∈ tr, .motorCmd ⟨⟨1, -1, 0⟩, 0⟩ ∈ e.output) ∧
    (∃ e ∈ tr, .motorCmd ⟨⟨3 / 10, -3 / 10, 0⟩, 0⟩ ∈ e.output) ∧
    ∀ e ∈ tr, ∀ cmd, .motorCmd cmd ∈ e.output → ∀ limit,
      limit = (if e.pre.currentState = .degraded then e.pre.maxSpeedDegraded
        else e.pre.maxSpeedNormal) → cmd.Within limit ∧ cmd.planarSq ≤ 2 * limit ^ 2 := by
  refine ⟨by decide +kernel, by decide +kernel, fun e he cmd hcmd limit hlimit => ?_⟩
  have hrun := (events ℚ).run_trace construct (driveDegraded ⟨⟨10, -2, 0⟩, 0⟩) (by decide +kernel)
  obtain ⟨hwithin, hsquare, -⟩ :=
    speedLimits_run hrun (by decide +kernel) e he cmd hcmd limit hlimit
  exact ⟨hwithin, hsquare⟩

/-- A diagonal velocity of `1` along each axis is passed on at the limit `1`. -/
theorem diagonalDrive_exceeds :
    ∃ tr s, (events ℚ).Run construct tr s ∧ (∀ e ∈ tr, limitsNonneg e.input = true) ∧
      ∃ e ∈ tr, .motorCmd ⟨⟨1, 1, 0⟩, 0⟩ ∈ e.output ∧
        ¬ (⟨⟨1, 1, 0⟩, 0⟩ : Twist ℚ).planarSq ≤ e.pre.currentLimit ^ 2 :=
  ⟨_, _, Machine.run_trace _ (driveAt ⟨⟨1, 1, 0⟩, 0⟩) (by decide +kernel), by decide +kernel,
    by decide +kernel⟩

end SafetyNode

end MonaRobot
