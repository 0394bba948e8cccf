import Mathlib.Algebra.Order.Field.Rat
import Mathlib.Algebra.Order.AbsoluteValue.Basic
import Mathlib.Tactic.Linarith

/-!
# Messages

The message types the three nodes exchange: the state bytes of `mona_msgs`, the lifecycle bytes of
`lifecycle_msgs` that the FDIR manager reads and requests, and `geometry_msgs/Twist` with the
arithmetic the nodes do on its components.

A velocity component is any type with the operations of a C++ `double` that the nodes use
(`VelocityScalar`): exact rationals here. Clock readings are exact seconds.
-/

namespace MonaRobot

/-- A clock reading, in seconds. -/
abbrev Time := ℚ

/-- A node together with the latest clock reading taken in its run. -/
structure Clocked (σ : Type) where
  clock : Time
  node : σ

/-! ## State bytes -/

/-- Bytes in their numerical order, with the `max` of the language. -/
instance byteLinearOrder : LinearOrder UInt8 where
  le_refl := UInt8.le_refl
  le_trans _ _ _ := UInt8.le_trans
  le_antisymm _ _ := UInt8.le_antisymm
  le_total := UInt8.le_total
  lt_iff_le_not_ge a b := by
    rw [UInt8.not_le]
    exact ⟨fun h => ⟨UInt8.le_of_lt h, h⟩, fun h => h.2⟩
  toDecidableLE := inferInstance
  min := min
  max := max
  min_def _ _ := rfl
  max_def _ _ := rfl

/-! `mona_msgs/FdirState`. -/

namespace FdirState

abbrev stateSystemStartup : UInt8 := 0
abbrev stateSoftwareOk : UInt8 := 1
abbrev stateDegraded : UInt8 := 2
abbrev stateReconfigured : UInt8 := 3
abbrev stateProtectiveStop : UInt8 := 4
abbrev stateEmergency : UInt8 := 5

/-- Not one of the six bytes. -/
def Unknown (b : UInt8) : Prop :=
  b ≠ stateSystemStartup ∧ b ≠ stateSoftwareOk ∧ b ≠ stateDegraded ∧ b ≠ stateReconfigured ∧
    b ≠ stateProtectiveStop ∧ b ≠ stateEmergency

instance (b : UInt8) : Decidable (Unknown b) :=
  inferInstanceAs (Decidable (_ ∧ _ ∧ _ ∧ _ ∧ _ ∧ _))

theorem cases (b : UInt8) :
    b = stateSystemStartup ∨ b = stateSoftwareOk ∨ b = stateDegraded ∨ b = stateReconfigured ∨
      b = stateProtectiveStop ∨ b = stateEmergency ∨ Unknown b := by
  unfold Unknown
  tauto

end FdirState

/-! The byte constants of `mona_msgs/SafetyState`. -/

namespace SafetyStateMsg

abbrev normal : UInt8 := 0
abbrev degraded : UInt8 := 1
abbrev protectiveStop : UInt8 := 2
abbrev emergency : UInt8 := 3

end SafetyStateMsg

/-! The byte constants of `mona_msgs/TwistMuxState`. -/

namespace TwistMuxStateMsg

abbrev idle : UInt8 := 0
abbrev manual : UInt8 := 1
abbrev autonomous : UInt8 := 2
abbrev blockedBySafety : UInt8 := 3

end TwistMuxStateMsg

/-! The levels of `diagnostic_msgs/DiagnosticStatus`. -/

namespace DiagnosticStatus

abbrev ok : UInt8 := 0
abbrev warn : UInt8 := 1

end DiagnosticStatus

/-! The primary states of `lifecycle_msgs/State`, and the transition states between them. -/

namespace LifecycleState

abbrev primaryStateUnknown : UInt8 := 0
abbrev primaryStateUnconfigured : UInt8 := 1
abbrev primaryStateInactive : UInt8 := 2
abbrev primaryStateActive : UInt8 := 3
abbrev primaryStateFinalized : UInt8 := 4
abbrev transitionStateConfiguring : UInt8 := 10
abbrev transitionStateActivating : UInt8 := 13

end LifecycleState

/-! The transition ids of `lifecycle_msgs/Transition` that the FDIR manager requests. -/

namespace LifecycleTransition

abbrev transitionConfigure : UInt8 := 1
abbrev transitionCleanup : UInt8 := 2
abbrev transitionActivate : UInt8 := 3

end LifecycleTransition

/-! ## Velocities -/

/-- The operations of the nodes on a velocity component. `lt` is the `<` of the code, a test. -/
class VelocityScalar (V : Type) extends Zero V, Add V, Mul V, Neg V where
  ofRat : ℚ → V
  lt : V → V → Bool

instance : VelocityScalar ℚ where
  ofRat q := q
  lt a b := decide (a < b)

section Scalar

variable {V : Type} [VelocityScalar V]

open VelocityScalar

/-- `std::clamp`. -/
def clamp (v lo hi : V) : V := if lt v lo then lo else if lt hi v then hi else v

/-- `std::abs`. -/
def scalarAbs (v : V) : V := if lt v 0 then -v else v

/-- `std::hypot(x, y) < b`, for a bound `b ≥ 0`, on the squares. -/
def hypotLt (x y : V) (b : ℚ) : Bool := lt (x * x + y * y) (ofRat (b * b))

/-- `b < std::hypot(x, y)`, for a bound `b ≥ 0`, on the squares. -/
def ltHypot (b : ℚ) (x y : V) : Bool := lt (ofRat (b * b)) (x * x + y * y)

end Scalar

/-- `geometry_msgs/Vector3`. -/
structure Vector3 (V : Type) where
  x : V
  y : V
  z : V
  deriving DecidableEq

instance {V : Type} [Zero V] : Zero (Vector3 V) := ⟨⟨0, 0, 0⟩⟩

/-- `geometry_msgs/Twist`. -/
structure Twist (V : Type) where
  linear : Vector3 V
  angular : Vector3 V
  deriving DecidableEq

/-- The components that drive the holonomic base. -/
inductive Axis
  | linearX
  | linearY
  | angularZ
  deriving DecidableEq

namespace Twist

variable {V : Type}

/-- A driving component. -/
def component (t : Twist V) : Axis → V
  | .linearX => t.linear.x
  | .linearY => t.linear.y
  | .angularZ => t.angular.z

/-- A default-constructed `Twist`. -/
instance [Zero V] : Zero (Twist V) := ⟨⟨0, 0⟩⟩

/-- The three components that drive the holonomic base are zero. -/
def IsStop [Zero V] (t : Twist V) : Prop := t.linear.x = 0 ∧ t.linear.y = 0 ∧ t.angular.z = 0

instance [Zero V] [DecidableEq V] (t : Twist V) : Decidable t.IsStop :=
  inferInstanceAs (Decidable (_ ∧ _ ∧ _))

@[simp] theorem isStop_zero [Zero V] : (0 : Twist V).IsStop := ⟨rfl, rfl, rfl⟩

/-- The three driving components have magnitudes at most `b`. -/
def Within (b : ℚ) (t : Twist ℚ) : Prop :=
  |t.linear.x| ≤ b ∧ |t.linear.y| ≤ b ∧ |t.angular.z| ≤ b

/-- From `t` to `t'`, the magnitude of no driving component rises by more than `b`. -/
def RisesAtMost (b : ℚ) (t t' : Twist ℚ) : Prop :=
  |t'.linear.x| - |t.linear.x| ≤ b ∧ |t'.linear.y| - |t.linear.y| ≤ b ∧
    |t'.angular.z| - |t.angular.z| ≤ b

instance (b : ℚ) (t : Twist ℚ) : Decidable (t.Within b) :=
  inferInstanceAs (Decidable (_ ∧ _ ∧ _))

instance (b : ℚ) (t t' : Twist ℚ) : Decidable (RisesAtMost b t t') :=
  inferInstanceAs (Decidable (_ ∧ _ ∧ _))

theorem within_iff {b : ℚ} {t : Twist ℚ} : t.Within b ↔ ∀ a, |t.component a| ≤ b := by
  constructor
  · rintro ⟨hx, hy, hz⟩ a
    cases a <;> assumption
  · exact fun h => ⟨h .linearX, h .linearY, h .angularZ⟩

theorem risesAtMost_iff {b : ℚ} {t t' : Twist ℚ} :
    RisesAtMost b t t' ↔ ∀ a, |t'.component a| - |t.component a| ≤ b := by
  constructor
  · rintro ⟨hx, hy, hz⟩ a
    cases a <;> assumption
  · exact fun h => ⟨h .linearX, h .linearY, h .angularZ⟩

theorem within_zero {b : ℚ} (hb : 0 ≤ b) : (0 : Twist ℚ).Within b := by
  have h : |(0 : ℚ)| ≤ b := by rwa [abs_zero]
  exact ⟨h, h, h⟩

theorem Within.mono {b b' : ℚ} {t : Twist ℚ} (h : t.Within b) (hb : b ≤ b') : t.Within b' :=
  ⟨h.1.trans hb, h.2.1.trans hb, h.2.2.trans hb⟩

/-- From standstill, the rise is the magnitude. -/
theorem risesAtMost_zero_iff {b : ℚ} {t : Twist ℚ} : RisesAtMost b 0 t ↔ t.Within b := by
  have h : ∀ v : ℚ, |v| - |(0 : ℚ)| ≤ b ↔ |v| ≤ b := fun v => by rw [abs_zero, sub_zero]
  exact and_congr (h _) (and_congr (h _) (h _))

/-- A stop is no rise. -/
theorem risesAtMost_stop {b : ℚ} (hb : 0 ≤ b) (t : Twist ℚ) : RisesAtMost b t 0 := by
  have h : ∀ v : ℚ, |(0 : ℚ)| - |v| ≤ b := fun v => by
    have := abs_nonneg v
    rw [abs_zero]
    linarith
  exact ⟨h _, h _, h _⟩

theorem RisesAtMost.mono {b b' : ℚ} {t t' : Twist ℚ} (h : RisesAtMost b t t') (hb : b ≤ b') :
    RisesAtMost b' t t' :=
  ⟨h.1.trans hb, h.2.1.trans hb, h.2.2.trans hb⟩

end Twist

/-! ## Clamping an exact component -/

theorem clamp_rat (v lo hi : ℚ) :
    clamp v lo hi = if v < lo then lo else if hi < v then hi else v := by
  simp [clamp, VelocityScalar.lt]

/-- A component clamped to `±L` has magnitude at most `|L|`. -/
theorem abs_clamp_le (v L : ℚ) : |clamp v (-L) L| ≤ |L| := by
  rw [clamp_rat]
  split_ifs with h₁ h₂
  · rw [abs_neg]
  · exact le_rfl
  · have hlo : -L ≤ v := not_lt.1 h₁
    have hhi : v ≤ L := not_lt.1 h₂
    exact (abs_le.2 ⟨hlo, hhi⟩).trans (le_abs_self L)

/-- A component within the limit is left alone. -/
theorem clamp_of_abs_le {v L : ℚ} (h : |v| ≤ L) : clamp v (-L) L = v := by
  obtain ⟨hlo, hhi⟩ := abs_le.1 h
  rw [clamp_rat, if_neg (not_lt.2 hlo), if_neg (not_lt.2 hhi)]

/-- Clamping to `±L` does not raise the magnitude. -/
theorem abs_clamp_le_abs {L : ℚ} (hL : 0 ≤ L) (v : ℚ) : |clamp v (-L) L| ≤ |v| := by
  rcases le_total |v| L with h | h
  · rw [clamp_of_abs_le h]
  · calc |clamp v (-L) L| ≤ |L| := abs_clamp_le v L
      _ = L := abs_of_nonneg hL
      _ ≤ |v| := h

/-- Clamping to `±L` stops a component exactly if it is zero or the limit is. -/
theorem clamp_eq_zero_iff {L : ℚ} (hL : 0 ≤ L) (v : ℚ) : clamp v (-L) L = 0 ↔ L = 0 ∨ v = 0 := by
  rw [clamp_rat]
  split_ifs with h₁ h₂
  · constructor
    · intro h
      exact Or.inl (neg_eq_zero.1 h)
    · rintro (h | rfl) <;> linarith
  · constructor
    · intro h
      exact Or.inl h
    · rintro (h | rfl) <;> linarith
  · constructor
    · intro h
      exact Or.inr h
    · rintro (rfl | h) <;> linarith

/-- The limit is attained: a component beyond it is clamped to magnitude `|L|`. -/
theorem exists_abs_clamp_eq (L : ℚ) : ∃ v, |clamp v (-L) L| = |L| := by
  refine ⟨|L| + 1, ?_⟩
  rw [clamp_rat]
  split_ifs with h₁ h₂
  · rw [abs_neg]
  · rfl
  · have := le_abs_self L
    linarith

end MonaRobot
