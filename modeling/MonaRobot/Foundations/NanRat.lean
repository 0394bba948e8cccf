import Mathlib.Algebra.Order.Ring.Rat
import Mathlib.Algebra.Order.Group.Abs
import Mathlib.Tactic.Common

/-!
# Exact numbers with NaN

A number that is exact, or no number at all. An operation on a NaN gives a NaN, and a comparison
with one is false; otherwise both are those of the rationals.
-/

/-- A rational, or a NaN. -/
inductive NanRat
  | nan
  | num (q : ℚ)
  deriving DecidableEq

namespace NanRat

instance : Zero NanRat := ⟨num 0⟩

/-- An operation on numbers; a NaN absorbs it. -/
def lift₂ (f : ℚ → ℚ → ℚ) : NanRat → NanRat → NanRat
  | num a, num b => num (f a b)
  | _, _ => nan

instance : Add NanRat := ⟨lift₂ (· + ·)⟩

instance : Mul NanRat := ⟨lift₂ (· * ·)⟩

instance : Neg NanRat where
  neg
    | num a => num (-a)
    | nan => nan

/-- The test `<`, false of a NaN on either side. -/
def lt : NanRat → NanRat → Bool
  | num a, num b => decide (a < b)
  | _, _ => false

/-- The value is a number. -/
def IsNum : NanRat → Prop
  | num _ => True
  | nan => False

/-- The value is a number of magnitude at most `b`. -/
def Within (b : ℚ) : NanRat → Prop
  | num q => |q| ≤ b
  | nan => False

instance : DecidablePred IsNum
  | num _ => inferInstanceAs (Decidable True)
  | nan => inferInstanceAs (Decidable False)

instance (b : ℚ) : DecidablePred (Within b)
  | num _ => inferInstanceAs (Decidable (_ ≤ _))
  | nan => inferInstanceAs (Decidable False)

variable {a b : ℚ} {v w : NanRat}

@[simp] theorem lt_num (a b : ℚ) : lt (num a) (num b) = decide (a < b) := rfl

@[simp] theorem nan_lt (v : NanRat) : lt nan v = false := rfl

@[simp] theorem lt_nan (v : NanRat) : lt v nan = false := by cases v <;> rfl

@[simp] theorem isNum_num (a : ℚ) : (num a).IsNum := trivial

@[simp] theorem isNum_zero : (0 : NanRat).IsNum := trivial

theorem isNum_lift₂ (f : ℚ → ℚ → ℚ) : (lift₂ f v w).IsNum ↔ v.IsNum ∧ w.IsNum := by
  cases v <;> cases w <;> simp [lift₂]

/-- A sum is a number exactly if both terms are. -/
@[simp] theorem isNum_add : (v + w).IsNum ↔ v.IsNum ∧ w.IsNum := isNum_lift₂ _

/-- A product is a number exactly if both factors are, also if one of them is zero. -/
@[simp] theorem isNum_mul : (v * w).IsNum ↔ v.IsNum ∧ w.IsNum := isNum_lift₂ _

theorem IsNum.exists_eq (h : v.IsNum) : ∃ q, v = num q := by
  cases v with
  | num q => exact ⟨q, rfl⟩
  | nan => exact h.elim

theorem Within.isNum (h : v.Within b) : v.IsNum := by
  cases v with
  | num q => trivial
  | nan => exact h.elim

theorem within_zero (hb : 0 ≤ b) : (0 : NanRat).Within b := by
  change |(0 : ℚ)| ≤ b
  rwa [abs_zero]

end NanRat
