import Mathlib.Algebra.Order.Ring.Abs
import Mathlib.Tactic.Linarith
import Mathlib.Tactic.Ring

/-!
# A saturated first-order filter

The filter moves its value towards a target by the fraction `α` of the distance, and saturates the
result to `±L`. The target may be out of range, so the value does not settle at the target but at
the saturated target, and it may start out of range, when the range has just shrunk.

`bounds` are the bounds that bounded targets give for the values after several steps
(`abs_filter_le_bound`), which are attained in the range (`filter_eq_bound`).

`Approaches ρ c v v'` says that the way from `v` to `v'` leaves at most the fraction `ρ` of the
distance to `c`, and does not cross `c`. One step of the filter approaches the saturated target
(`approaches_filter`), and approaching is composed by `Approaches.trans`.
-/

namespace SaturatedFilter

variable {K : Type*} [CommRing K] [LinearOrder K] [IsStrictOrderedRing K]

/-- The value of the range `±L` closest to `v`. -/
def saturate (L v : K) : K := max (-L) (min v L)

/-- One step of the filter. -/
def filter (α L target v : K) : K := saturate L (α * target + (1 - α) * v)

/-- From `v` to `v'` at least the fraction `1 - ρ` of the way to `c` is made, and `c` is not
crossed. -/
structure Approaches (ρ c v v' : K) : Prop where
  near : |v' - c| ≤ ρ * |v - c|
  above : c ≤ v → c ≤ v'
  below : v ≤ c → v' ≤ c

section Approaches

variable {ρ σ c v v' v'' : K}

omit [IsStrictOrderedRing K] in
theorem Approaches.refl (c v : K) : Approaches 1 c v v :=
  ⟨by rw [one_mul], id, id⟩

theorem Approaches.trans (hσ : 0 ≤ σ) (h : Approaches ρ c v v') (h' : Approaches σ c v' v'') :
    Approaches (σ * ρ) c v v'' where
  near := calc
    |v'' - c| ≤ σ * |v' - c| := h'.near
    _ ≤ σ * (ρ * |v - c|) := mul_le_mul_of_nonneg_left h.near hσ
    _ = σ * ρ * |v - c| := (mul_assoc ..).symm
  above hv := h'.above (h.above hv)
  below hv := h'.below (h.below hv)

theorem Approaches.neg (h : Approaches ρ c v v') : Approaches ρ (-c) (-v) (-v') where
  near := by
    rw [neg_sub_neg, neg_sub_neg, abs_sub_comm c v', abs_sub_comm c v]
    exact h.near
  above hv := neg_le_neg (h.below (neg_le_neg_iff.1 hv))
  below hv := neg_le_neg (h.above (neg_le_neg_iff.1 hv))

end Approaches

/-! ## Saturation -/

section Saturate

variable {L v : K}

theorem saturate_of_le (hL : 0 ≤ L) (h : L ≤ v) : saturate L v = L := by
  rw [saturate, min_eq_right h, max_eq_right (neg_le_self hL)]

theorem saturate_of_le_neg (hL : 0 ≤ L) (h : v ≤ -L) : saturate L v = -L := by
  rw [saturate, min_eq_left (h.trans (neg_le_self hL)), max_eq_left h]

omit [IsStrictOrderedRing K] in
theorem saturate_of_mem (h : -L ≤ v) (h' : v ≤ L) : saturate L v = v := by
  rw [saturate, min_eq_left h', max_eq_right h]

theorem abs_saturate_le (hL : 0 ≤ L) (v : K) : |saturate L v| ≤ L :=
  abs_le.2 ⟨le_max_left _ _, max_le (neg_le_self hL) (min_le_right v L)⟩

theorem abs_saturate_le_abs (hL : 0 ≤ L) (v : K) : |saturate L v| ≤ |v| := by
  rcases le_total L v with h | h
  · rw [saturate_of_le hL h, abs_of_nonneg hL, abs_of_nonneg (hL.trans h)]
    exact h
  rcases le_total v (-L) with h' | h'
  · rw [saturate_of_le_neg hL h', abs_neg, abs_of_nonneg hL, abs_of_nonpos (by linarith)]
    exact le_neg_of_le_neg h'
  · rw [saturate_of_mem h' h]

omit [IsStrictOrderedRing K] in
theorem saturate_mono (L : K) : Monotone (saturate L) := fun _ _ h =>
  max_le_max_left _ (min_le_min_right _ h)

theorem saturate_neg (hL : 0 ≤ L) (v : K) : saturate L (-v) = -saturate L v := by
  rcases le_total L v with h | h
  · rw [saturate_of_le hL h, saturate_of_le_neg hL (neg_le_neg h)]
  rcases le_total v (-L) with h' | h'
  · rw [saturate_of_le_neg hL h', saturate_of_le hL (le_neg_of_le_neg h'), neg_neg]
  · rw [saturate_of_mem h' h, saturate_of_mem (neg_le_neg h) (neg_le_of_neg_le h')]

end Saturate

/-! ## One step of the filter -/

section Filter

variable {α L target v : K}

theorem abs_filter_le (hL : 0 ≤ L) (target v : K) : |filter α L target v| ≤ L :=
  abs_saturate_le hL _

/-- A bound on the value after a step, from a bound `T` on the target and `B` on the value. -/
def bound (α T B : K) : K := α * T + (1 - α) * B

theorem abs_filter_le_bound {T B : K} (h₀ : 0 ≤ α) (h₁ : α ≤ 1) (hL : 0 ≤ L) (ht : |target| ≤ T)
    (hv : |v| ≤ B) : |filter α L target v| ≤ bound α T B := calc
  |filter α L target v| ≤ |α * target + (1 - α) * v| := abs_saturate_le_abs hL _
  _ ≤ |α * target| + |(1 - α) * v| := abs_add_le _ _
  _ = α * |target| + (1 - α) * |v| := by
      rw [abs_mul, abs_mul, abs_of_nonneg h₀, abs_of_nonneg (sub_nonneg.2 h₁)]
  _ ≤ bound α T B := add_le_add (mul_le_mul_of_nonneg_left ht h₀)
      (mul_le_mul_of_nonneg_left hv (sub_nonneg.2 h₁))

omit [LinearOrder K] [IsStrictOrderedRing K] in
theorem bound_self (α B : K) : bound α B B = B := by
  rw [bound]
  ring

/-- The filter leaves no bound that the target and the value keep. -/
theorem abs_filter_le_of_abs_le {B : K} (h₀ : 0 ≤ α) (h₁ : α ≤ 1) (hL : 0 ≤ L)
    (ht : |target| ≤ B) (hv : |v| ≤ B) : |filter α L target v| ≤ B :=
  (abs_filter_le_bound h₀ h₁ hL ht hv).trans_eq (bound_self α B)

/-- Between zero and the limit, the bound is attained. -/
theorem filter_eq_bound (h₀ : 0 ≤ α) (h₁ : α ≤ 1) (ht : 0 ≤ target ∧ target ≤ L)
    (hv : 0 ≤ v ∧ v ≤ L) :
    filter α L target v = bound α target v ∧ 0 ≤ bound α target v ∧ bound α target v ≤ L := by
  have hα : 0 ≤ 1 - α := sub_nonneg.2 h₁
  have hlow : 0 ≤ bound α target v := add_nonneg (mul_nonneg h₀ ht.1) (mul_nonneg hα hv.1)
  have hhigh : bound α target v ≤ L := calc
    bound α target v ≤ bound α L L :=
      add_le_add (mul_le_mul_of_nonneg_left ht.2 h₀) (mul_le_mul_of_nonneg_left hv.2 hα)
    _ = L := bound_self α L
  refine ⟨saturate_of_mem ?_ hhigh, hlow, hhigh⟩
  exact (neg_nonpos.2 (hlow.trans hhigh)).trans hlow

/-- The bounds after each of several steps. -/
def bounds (α : K) : K → List K → List K
  | _, [] => []
  | B, T :: Ts => bound α T B :: bounds α (bound α T B) Ts

omit [LinearOrder K] [IsStrictOrderedRing K] in
theorem bounds_concat (α B T : K) (Ts : List K) : bounds α B (Ts ++ [T]) =
    bounds α B Ts ++ [bound α T ((bounds α B Ts).getLastD B)] := by
  induction Ts generalizing B with
  | nil => rfl
  | cons T' Ts ih => rw [List.cons_append, bounds, ih, bounds, List.getLastD_cons, List.cons_append]

theorem filter_neg (hL : 0 ≤ L) (target v : K) :
    filter α L (-target) (-v) = -filter α L target v := by
  have hmix : α * -target + (1 - α) * -v = -(α * target + (1 - α) * v) := by ring
  rw [filter, hmix, saturate_neg hL, ← filter]

/-- A value above the saturated target stays above it. -/
theorem saturate_le_filter (h₀ : 0 ≤ α) (h₁ : α ≤ 1) (hL : 0 ≤ L) (hv : saturate L target ≤ v) :
    saturate L target ≤ filter α L target v := by
  have hα : 0 ≤ 1 - α := sub_nonneg.2 h₁
  rcases le_total L target with ht | ht
  · -- the target is out of range, and the value at the end of the range or beyond
    rw [saturate_of_le hL ht] at hv ⊢
    have htarget : α * L ≤ α * target := mul_le_mul_of_nonneg_left ht h₀
    have hmemory : (1 - α) * L ≤ (1 - α) * v := mul_le_mul_of_nonneg_left hv hα
    rw [filter, saturate_of_le hL (by linarith)]
  · have htarget : target ≤ v := ((min_eq_left ht).ge.trans (le_max_right _ _)).trans hv
    have hmemory : (1 - α) * target ≤ (1 - α) * v := mul_le_mul_of_nonneg_left htarget hα
    exact saturate_mono L (by linarith)

/-- A value above the saturated target comes closer to it. -/
theorem filter_le (h₀ : 0 ≤ α) (h₁ : α ≤ 1) (hL : 0 ≤ L) (hv : saturate L target ≤ v) :
    filter α L target v ≤ saturate L target + (1 - α) * (v - saturate L target) := by
  have hrest : 0 ≤ (1 - α) * (v - saturate L target) :=
    mul_nonneg (sub_nonneg.2 h₁) (sub_nonneg.2 hv)
  have hlow : -L ≤ saturate L target := le_max_left _ _
  rcases le_total L target with ht | ht
  · rw [saturate_of_le hL ht] at hrest ⊢
    have hle : filter α L target v ≤ L := (le_abs_self _).trans (abs_filter_le hL target v)
    linarith
  · have htarget : target ≤ saturate L target := (min_eq_left ht).ge.trans (le_max_right _ _)
    have hmix : α * target ≤ α * saturate L target := mul_le_mul_of_nonneg_left htarget h₀
    refine max_le (by linarith) ((min_le_left _ _).trans ?_)
    linarith

/-- **A step of the filter approaches the saturated target.** -/
theorem approaches_filter (h₀ : 0 ≤ α) (h₁ : α ≤ 1) (hL : 0 ≤ L) (target v : K) :
    Approaches (1 - α) (saturate L target) v (filter α L target v) := by
  have habove : ∀ {target v : K}, saturate L target ≤ v →
      Approaches (1 - α) (saturate L target) v (filter α L target v) := by
    intro target v hv
    have hstay := saturate_le_filter h₀ h₁ hL hv
    have hclose := filter_le h₀ h₁ hL hv
    refine ⟨?_, fun _ => hstay, fun hle => ?_⟩
    · rw [abs_of_nonneg (sub_nonneg.2 hstay), abs_of_nonneg (sub_nonneg.2 hv)]
      linarith
    · obtain rfl : v = saturate L target := le_antisymm hle hv
      rwa [sub_self, mul_zero, add_zero] at hclose
  rcases le_total (saturate L target) v with hv | hv
  · exact habove hv
  · have hneg := @habove (-target) (-v) <| by
      rw [saturate_neg hL]
      exact neg_le_neg hv
    rw [saturate_neg hL, filter_neg hL] at hneg
    simpa using hneg.neg

end Filter

end SaturatedFilter
