import MonaRobot.Foundations.Machine
import Mathlib.Algebra.Order.Monoid.Defs
import Mathlib.Algebra.BigOperators.Group.List.Basic
import Mathlib.Data.List.Forall2

/-!
# A run as it is seen from elsewhere

A run of one machine can be read as a run of another: what one part of a system sees of the whole, or
what is left of a run when some of its inputs are deleted. A `View` says how the inputs and outputs
are read and which states correspond; a step that is not read leaves the other machine where it is.

* `Erases D tr kept`: `kept` is `tr` less any of its steps that meet `D`.
* `Run.erase`, `View.run`: the steps that are kept are matched by a run, or read through a view.
* `Run.unique`: on the same inputs a machine does the same, so what two runs look alike to a view is
  alike in all that the view sees.
* `Run.sum_le`: what is counted along a run is paid for by a potential.
-/

namespace Reactive

/-! ## Deletion -/

/-- `kept` is `tr` without some of its entries that meet `D`. -/
inductive Erases {α : Type*} (D : α → Prop) : List α → List α → Prop
  | nil : Erases D [] []
  | keep (e : α) {tr kept : List α} : Erases D tr kept → Erases D (e :: tr) (e :: kept)
  | delete {e : α} {tr kept : List α} : D e → Erases D tr kept → Erases D (e :: tr) kept

theorem Erases.refl {α : Type*} (D : α → Prop) : ∀ tr : List α, Erases D tr tr
  | [] => .nil
  | e :: tr => .keep e (Erases.refl D tr)

/-- All entries that meet `D` are deleted. -/
theorem Erases.filter {α : Type*} (D : α → Prop) [DecidablePred D] :
    ∀ tr : List α, Erases D tr (tr.filter fun e => !decide (D e))
  | [] => .nil
  | e :: tr => by
    by_cases he : D e
    · rw [List.filter_cons_of_neg (by simp [he])]
      exact .delete he (Erases.filter D tr)
    · rw [List.filter_cons_of_pos (by simp [he])]
      exact .keep e (Erases.filter D tr)

/-- Entries that show nothing can be deleted. -/
theorem Erases.flatMap_eq {α β : Type*} {D : α → Prop} {f : α → List β} {tr kept : List α}
    (h : Erases D tr kept) (hD : ∀ e ∈ tr, D e → f e = []) : tr.flatMap f = kept.flatMap f := by
  induction h with
  | nil => rfl
  | keep e _ ih =>
    rw [List.flatMap_cons, List.flatMap_cons, ih fun e' he' => hD e' (List.mem_cons_of_mem _ he')]
  | @delete e _ _ hd _ ih =>
    rw [List.flatMap_cons, hD e (by simp) hd, List.nil_append,
      ih fun e' he' => hD e' (List.mem_cons_of_mem _ he')]

/-! ## Matched lists -/

section Matched

variable {α β γ : Type*} {R : α → β → Prop} {l : List α} {l' : List β}

/-- Matched entries that look alike make the lists look alike. -/
theorem map_eq_of_forall₂ {f : α → γ} {g : β → γ} (h : List.Forall₂ R l l')
    (hfg : ∀ a b, R a b → f a = g b) : l.map f = l'.map g := by
  induction h with
  | nil => rfl
  | cons hab _ ih => rw [List.map_cons, List.map_cons, hfg _ _ hab, ih]

theorem forall_of_forall₂ {P : α → Prop} {Q : β → Prop} (h : List.Forall₂ R l l')
    (hPQ : ∀ a b, R a b → P a → Q b) (hP : ∀ a ∈ l, P a) : ∀ b ∈ l', Q b := by
  induction h with
  | nil => simp
  | cons hab _ ih =>
    rw [List.forall_mem_cons] at hP ⊢
    exact ⟨hPQ _ _ hab hP.1, ih hP.2⟩

/-- Two lists matched with the same list are matched with each other. -/
theorem forall₂_of_common {S : γ → β → Prop} {T : α → γ → Prop} {m : List γ}
    (hl : List.Forall₂ R l l') (hm : List.Forall₂ S m l')
    (hT : ∀ a b c, R a b → S c b → T a c) : List.Forall₂ T l m := by
  induction hl generalizing m with
  | nil =>
    cases hm
    exact .nil
  | cons hab _ ih =>
    cases hm with
    | cons hcb hm => exact .cons (hT _ _ _ hab hcb) (ih hm)

end Matched

namespace Machine

/-! ## Views -/

/-- A reading of the steps of `M` as steps of `N`. -/
structure View {σ ι ω σ' ι' ω' : Type*} (M : Machine σ ι ω) (N : Machine σ' ι' ω') where
  input : ι → ι'
  output : ω → ω'
  Rel : σ → σ' → Prop
  step : ∀ e a, M.Takes e → Rel e.pre a →
    ∃ b, N.Takes ⟨a, input e.input, output e.output, b⟩ ∧ Rel e.post b

variable {σ ι ω σ' ι' ω' : Type*} {M : Machine σ ι ω} {N : Machine σ' ι' ω'}

/-- `e'` is what the view sees of `e`. -/
structure View.Matches (v : View M N) (e : Step σ ι ω) (e' : Step σ' ι' ω') : Prop where
  input : e'.input = v.input e.input
  output : e'.output = v.output e.output
  pre : v.Rel e.pre e'.pre
  post : v.Rel e.post e'.post

/-- What the view sees of a step that is taken is a step that is taken. -/
theorem View.matched (v : View M N) {e : Step σ ι ω} (he : M.Takes e) {a : σ'}
    (h : v.Rel e.pre a) : ∃ e', N.Takes e' ∧ v.Matches e e' ∧ e'.pre = a := by
  obtain ⟨b, hb, hpost⟩ := v.step e a he h
  exact ⟨_, hb, ⟨rfl, rfl, h, hpost⟩, rfl⟩

/-- **What is left of a run.** When each kept step is matched by one that is alike and the deleted
steps do not show, the kept steps of a run are matched by a run. -/
theorem Run.erase {Rel : σ → σ' → Prop} {Alike : Step σ ι ω → Step σ' ι' ω' → Prop}
    {D : Step σ ι ω → Prop}
    (hkeep : ∀ e a, M.Takes e → Rel e.pre a →
      ∃ e', N.Takes e' ∧ e'.pre = a ∧ Alike e e' ∧ Rel e.post e'.post)
    (hD : ∀ e a, M.Takes e → D e → Rel e.pre a → Rel e.post a) {s t : σ}
    {tr kept : List (Step σ ι ω)} (h : M.Run s tr t) (hk : Erases D tr kept) {a : σ'}
    (h₀ : Rel s a) :
    ∃ tr' b, N.Run a tr' b ∧ Rel t b ∧ List.Forall₂ Alike kept tr' := by
  induction hk generalizing s a with
  | nil =>
    rw [h.nil_inv]
    exact ⟨[], a, .nil a, h₀, .nil⟩
  | keep e _ ih =>
    obtain ⟨rfl, he, hrest⟩ := h.cons_inv
    obtain ⟨e', he', rfl, halike, hpost⟩ := hkeep e a he h₀
    obtain ⟨tr', c, hrun, hlast, hall⟩ := ih hrest hpost
    exact ⟨e' :: tr', c, .cons he' hrun, hlast, .cons halike hall⟩
  | delete hd _ ih =>
    obtain ⟨rfl, he, hrest⟩ := h.cons_inv
    exact ih hrest (hD _ a he hd h₀)

/-- **The kept steps of a run, seen through a view, are a run**, when the deleted ones do not show. -/
theorem View.run (v : View M N) {D : Step σ ι ω → Prop}
    (hD : ∀ e a, M.Takes e → D e → v.Rel e.pre a → v.Rel e.post a) {s t : σ}
    {tr kept : List (Step σ ι ω)} (h : M.Run s tr t) (hk : Erases D tr kept) {a : σ'}
    (h₀ : v.Rel s a) :
    ∃ tr' b, N.Run a tr' b ∧ v.Rel t b ∧ List.Forall₂ v.Matches kept tr' := by
  refine h.erase (fun e a he hpre => ?_) hD hk h₀
  obtain ⟨e', he', hmatch, heq⟩ := v.matched he hpre
  exact ⟨e', he', heq, hmatch, hmatch.post⟩

/-- A whole run seen through a view. -/
theorem View.project (v : View M N) {s t : σ} {tr : List (Step σ ι ω)} (h : M.Run s tr t) {a : σ'}
    (h₀ : v.Rel s a) :
    ∃ tr' b, N.Run a tr' b ∧ v.Rel t b ∧ List.Forall₂ v.Matches tr tr' :=
  v.run (D := fun _ => False) (fun _ _ _ hd => hd.elim) h (Erases.refl _ tr) h₀

/-! ## Determinism -/

/-- From the same state on the same inputs a machine does the same. -/
theorem Run.unique {s t t' : σ} {tr tr' : List (Step σ ι ω)} (h : M.Run s tr t)
    (h' : M.Run s tr' t') (hi : tr.map Step.input = tr'.map Step.input) : tr = tr' ∧ t = t' := by
  induction tr generalizing s tr' with
  | nil =>
    obtain rfl : tr' = [] := List.map_eq_nil_iff.1 hi.symm
    exact ⟨rfl, h.nil_inv.trans h'.nil_inv.symm⟩
  | cons e tr ih =>
    cases tr' with
    | nil => cases hi
    | cons e' tr' =>
      obtain ⟨hin, hrest⟩ := List.cons.inj hi
      obtain ⟨rfl, he, hrun⟩ := h.cons_inv
      obtain ⟨hpre, he', hrun'⟩ := h'.cons_inv
      obtain ⟨s, i, o, u⟩ := e
      obtain ⟨s', i', o', u'⟩ := e'
      obtain rfl : s = s' := hpre
      obtain rfl : i = i' := hin
      obtain ⟨rfl, rfl⟩ := Prod.mk.inj (Option.some.inj (he.symm.trans he'))
      obtain ⟨rfl, rfl⟩ := ih hrun hrun' hrest
      exact ⟨rfl, rfl⟩

/-! ## Counting along a run -/

/-- When every step raises a potential by at least what it counts, the count over a run is at most the
rise of the potential. -/
theorem Run.sum_le {T : Type*} [AddCommMonoid T] [PartialOrder T] [IsOrderedAddMonoid T]
    {I : σ → Prop} {C : Step σ ι ω → Prop} {f : σ → T} {c : Step σ ι ω → T} {s t : σ}
    {tr : List (Step σ ι ω)} (h : M.Run s tr t) (hI : I s) (hC : ∀ e ∈ tr, C e)
    (hstep : ∀ e, M.Takes e → C e → I e.pre → I e.post ∧ f e.pre + c e ≤ f e.post) :
    f s + (tr.map c).sum ≤ f t := by
  induction tr generalizing s with
  | nil =>
    rw [h.nil_inv]
    simp
  | cons e tr ih =>
    obtain ⟨rfl, he, hrest⟩ := h.cons_inv
    obtain ⟨hpost, hle⟩ := hstep e he (hC e (by simp)) hI
    calc f e.pre + ((e :: tr).map c).sum = f e.pre + c e + (tr.map c).sum := by
          rw [List.map_cons, List.sum_cons, add_assoc]
      _ ≤ f e.post + (tr.map c).sum := add_le_add_left hle _
      _ ≤ f t := ih hrest hpost fun e' he' => hC e' (List.mem_cons_of_mem _ he')

end Machine

end Reactive
