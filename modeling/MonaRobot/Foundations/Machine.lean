import Mathlib.Data.List.Basic
import Mathlib.Data.List.Induction
import Mathlib.Tactic.Common

/-!
# Reactive machines and their runs

A reactive machine handles one input at a time: in a state it either moves to a next state and
emits an output, or the input is not possible there (it cannot occur, or its handling aborts).
Nondeterminism of the environment is in the inputs, so a run is a finite order of inputs.

* `Run s tr t`: the machine goes from `s` to `t`, and `tr` records every input it handled with
  the states before and after it. A property of a history is a property of `tr`.
* `Run.invariant`, `Run.invariant_mem`: the induction over a run, done once.
* `Run.history`: the same for a property of the state and of all that happened before it.
* `Run.latched`: what is kept by every step but a releasing one holds until the release.
* `Run.forall_iff`: when each step, from a good state, reaches a good state exactly if it meets a
  condition, all states of a run are good exactly if all its steps meet the condition.
* `Run.simulates`: forward simulation of one machine by another, over whole runs.
-/

namespace Reactive

/-- A reactive machine; `step s i = none` when `i` is not possible in `s`. -/
structure Machine (σ ι ω : Type*) where
  step : σ → ι → Option (σ × ω)

/-- One handled input, with the states before and after it and what was emitted. -/
structure Step (σ ι ω : Type*) where
  pre : σ
  input : ι
  output : ω
  post : σ

namespace Machine

variable {σ ι ω : Type*} (M : Machine σ ι ω)

/-- The machine takes the step `e`. -/
def Takes (e : Step σ ι ω) : Prop := M.step e.pre e.input = some (e.post, e.output)

/-- `Run s tr t`: handling the inputs of `tr` in order leads from `s` to `t`. -/
inductive Run : σ → List (Step σ ι ω) → σ → Prop
  | nil (s : σ) : Run s [] s
  | snoc {s t u : σ} {tr : List (Step σ ι ω)} {i : ι} {o : ω} :
      Run s tr t → M.step t i = some (u, o) → Run s (tr ++ [⟨t, i, o, u⟩]) u

/-- The states a run from `s` passes through: `s` and the state after each step. -/
def Visited (s : σ) (tr : List (Step σ ι ω)) (x : σ) : Prop := x = s ∨ ∃ e ∈ tr, x = e.post

variable {M}

namespace Run

variable {s t u : σ} {tr tr₁ tr₂ : List (Step σ ι ω)}

theorem single {e : Step σ ι ω} (h : M.Takes e) : M.Run e.pre [e] e.post :=
  snoc (nil e.pre) h

theorem trans (h₁ : M.Run s tr₁ t) (h₂ : M.Run t tr₂ u) : M.Run s (tr₁ ++ tr₂) u := by
  induction h₂ with
  | nil => simpa using h₁
  | snoc _ hstep ih =>
    rw [← List.append_assoc]
    exact snoc ih hstep

theorem cons {e : Step σ ι ω} (he : M.Takes e) (h : M.Run e.post tr t) :
    M.Run e.pre (e :: tr) t :=
  (single he).trans h

theorem nil_inv (h : M.Run s [] t) : t = s := by
  generalize htr : ([] : List (Step σ ι ω)) = tr at h
  cases h with
  | nil => rfl
  | snoc => simp at htr

/-- A nonempty run ends with its last step. -/
theorem snoc_inv {e : Step σ ι ω} (h : M.Run s (tr ++ [e]) t) :
    M.Run s tr e.pre ∧ M.Takes e ∧ t = e.post := by
  generalize htr : tr ++ [e] = tr' at h
  cases h with
  | nil => simp at htr
  | snoc hrun hstep =>
    obtain ⟨rfl, he⟩ := List.append_inj' htr rfl
    obtain rfl := List.singleton_inj.1 he
    exact ⟨hrun, hstep, rfl⟩

/-- A run can be cut anywhere. -/
theorem split (h : M.Run s (tr₁ ++ tr₂) u) : ∃ t, M.Run s tr₁ t ∧ M.Run t tr₂ u := by
  induction tr₂ using List.reverseRecOn generalizing u with
  | nil => exact ⟨u, by simpa using h, nil u⟩
  | append_singleton tr₂ e ih =>
    rw [← List.append_assoc] at h
    obtain ⟨hrun, hstep, rfl⟩ := h.snoc_inv
    obtain ⟨t, h₁, h₂⟩ := ih hrun
    exact ⟨t, h₁, h₂.snoc hstep⟩

theorem cons_inv {e : Step σ ι ω} (h : M.Run s (e :: tr) t) :
    s = e.pre ∧ M.Takes e ∧ M.Run e.post tr t := by
  rw [← List.singleton_append] at h
  obtain ⟨m, h₁, h₂⟩ := h.split
  obtain ⟨hnil, hstep, rfl⟩ := (show M.Run s ([] ++ [e]) m from h₁).snoc_inv
  exact ⟨hnil.nil_inv.symm, hstep, h₂⟩

/-- The run around one of its steps. -/
theorem around {e : Step σ ι ω} (h : M.Run s (tr₁ ++ e :: tr₂) t) :
    M.Run s tr₁ e.pre ∧ M.Takes e ∧ M.Run e.post tr₂ t := by
  obtain ⟨m, h₁, h₂⟩ := h.split
  obtain ⟨rfl, hstep, h₃⟩ := h₂.cons_inv
  exact ⟨h₁, hstep, h₃⟩

theorem takes (h : M.Run s tr t) : ∀ e ∈ tr, M.Takes e := by
  intro e he
  obtain ⟨tr₁, tr₂, rfl⟩ := List.append_of_mem he
  exact h.around.2.1

theorem visited_last (h : M.Run s tr t) : Visited s tr t := by
  cases h with
  | nil => exact Or.inl rfl
  | snoc _ _ => exact Or.inr ⟨_, List.mem_append_right _ (List.mem_singleton_self _), rfl⟩

/-! ## Induction over a run -/

/-- What holds at the start of a run and is kept by the steps that meet `C` holds at the end of a
run whose steps all meet `C`. -/
theorem invariant_under {I : σ → Prop} {C : Step σ ι ω → Prop} (h : M.Run s tr t) (h₀ : I s)
    (hC : ∀ e ∈ tr, C e) (hstep : ∀ e, M.Takes e → C e → I e.pre → I e.post) : I t := by
  induction h with
  | nil => exact h₀
  | @snoc t u tr i o hrun htake ih =>
    have hpre := ih fun e he => hC e (List.mem_append_left _ he)
    exact hstep ⟨t, i, o, u⟩ htake (hC _ (by simp)) hpre

/-- The same for all states that the run passes through. -/
theorem invariant_visited {I : σ → Prop} {C : Step σ ι ω → Prop} (h : M.Run s tr t) (h₀ : I s)
    (hC : ∀ e ∈ tr, C e) (hstep : ∀ e, M.Takes e → C e → I e.pre → I e.post) :
    ∀ x, Visited s tr x → I x := by
  rintro x (rfl | ⟨e, he, rfl⟩)
  · exact h₀
  · obtain ⟨tr₁, tr₂, rfl⟩ := List.append_of_mem he
    obtain ⟨h₁, htake, -⟩ := h.around
    have hpre : I e.pre :=
      h₁.invariant_under h₀ (fun e' he' => hC e' (List.mem_append_left _ he')) hstep
    exact hstep e htake (hC e he) hpre

theorem invariant {I : σ → Prop} (h : M.Run s tr t) (h₀ : I s)
    (hstep : ∀ e, M.Takes e → I e.pre → I e.post) : I t :=
  h.invariant_under (C := fun _ => True) h₀ (fun _ _ => trivial) fun e he _ => hstep e he

/-- An invariant holds before and after every step of a run. -/
theorem invariant_mem {I : σ → Prop} (h : M.Run s tr t) (h₀ : I s)
    (hstep : ∀ e, M.Takes e → I e.pre → I e.post) : ∀ e ∈ tr, I e.pre ∧ I e.post := by
  intro e he
  obtain ⟨tr₁, tr₂, rfl⟩ := List.append_of_mem he
  obtain ⟨h₁, htake, -⟩ := h.around
  have hpre := h₁.invariant h₀ hstep
  exact ⟨hpre, hstep e htake hpre⟩

/-- An invariant of the state together with the history that led to it. -/
theorem history {H : List (Step σ ι ω) → σ → Prop} (h : M.Run s tr t) (h₀ : H [] s)
    (hstep : ∀ tr e, M.Run s tr e.pre → M.Takes e → H tr e.pre → H (tr ++ [e]) e.post) :
    H tr t := by
  induction h with
  | nil => exact h₀
  | snoc hrun htake ih => exact hstep _ _ hrun htake ih

/-- A latch: what every step keeps that is not a release, holds until the first release. -/
theorem latched {L : σ → Prop} {release : Step σ ι ω → Prop} (h : M.Run s tr t) (h₀ : L s)
    (hkeep : ∀ e, M.Takes e → ¬ release e → L e.pre → L e.post)
    (hno : ∀ e ∈ tr, ¬ release e) : ∀ e ∈ tr, L e.pre ∧ L e.post := by
  intro e he
  obtain ⟨tr₁, tr₂, rfl⟩ := List.append_of_mem he
  obtain ⟨h₁, htake, -⟩ := h.around
  have hpre : L e.pre := h₁.invariant_under h₀
    (fun e' he' => hno e' (List.mem_append_left _ he')) hkeep
  exact ⟨hpre, hkeep e htake (hno e (by simp)) hpre⟩

/-- What no step changes is the same throughout. -/
theorem constant {β : Type*} {f : σ → β} (h : M.Run s tr t)
    (hsame : ∀ e ∈ tr, f e.post = f e.pre) : f t = f s ∧ ∀ e ∈ tr, f e.post = f t := by
  induction h with
  | nil => exact ⟨rfl, fun _ he => by cases he⟩
  | snoc hrun htake ih =>
    obtain ⟨hpre, hall⟩ := ih fun e he => hsame e (List.mem_append_left _ he)
    have hlast := hsame _ (List.mem_append_right _ (List.mem_singleton_self _))
    refine ⟨hlast.trans hpre, fun e he => ?_⟩
    rcases List.mem_append.1 he with he | he
    · exact (hall e he).trans hlast.symm
    · rw [List.mem_singleton.1 he]

/-- **Exactness over a run.** If from every good state a step reaches a good state exactly when
it meets `C`, then all states of a run are good exactly when all its steps meet `C`. -/
theorem forall_iff {J P : σ → Prop} {C : Step σ ι ω → Prop} (h : M.Run s tr t) (hJ : J s)
    (hP : P s) (hJstep : ∀ e, M.Takes e → J e.pre → J e.post)
    (hstep : ∀ e, M.Takes e → J e.pre → P e.pre → (P e.post ↔ C e)) :
    (∀ x, Visited s tr x → P x) ↔ ∀ e ∈ tr, C e := by
  constructor
  · intro hall e he
    obtain ⟨tr₁, tr₂, rfl⟩ := List.append_of_mem he
    obtain ⟨h₁, htake, -⟩ := h.around
    have hpre : P e.pre := by
      rcases h₁.visited_last with hs | ⟨e', he', hs⟩
      · exact hs ▸ hP
      · exact hall _ (Or.inr ⟨e', List.mem_append_left _ he', hs⟩)
    exact (hstep e htake (h₁.invariant hJ hJstep) hpre).1 (hall _ (Or.inr ⟨e, he, rfl⟩))
  · intro hC x hx
    exact (h.invariant_visited (I := fun x => J x ∧ P x) ⟨hJ, hP⟩ hC
      (fun e he hc hi => ⟨hJstep e he hi.1, (hstep e he hi.1 hi.2).2 hc⟩) x hx).2

/-- **Exactness of its steps.** If in every good state a step does `P` exactly when it meets `C`,
and then reaches a good state, then all steps of a run do `P` exactly when all of them meet `C`. -/
theorem forall_mem_iff {J : σ → Prop} {P C : Step σ ι ω → Prop} (h : M.Run s tr t) (hJ : J s)
    (hstep : ∀ e ∈ tr, M.Takes e → J e.pre → (P e ↔ C e) ∧ (C e → J e.post)) :
    (∀ e ∈ tr, P e) ↔ ∀ e ∈ tr, C e := by
  have hmain : ((∀ e ∈ tr, P e) ↔ ∀ e ∈ tr, C e) ∧ ((∀ e ∈ tr, C e) → J t) := by
    induction h with
    | nil => exact ⟨iff_of_true (by simp) (by simp), fun _ => hJ⟩
    | @snoc t u tr i o hrun htake ih =>
      obtain ⟨hiff, hgood⟩ := ih fun e he => hstep e (List.mem_append_left _ he)
      have hlast := hstep ⟨t, i, o, u⟩ (by simp) htake
      simp only [List.forall_mem_append, List.forall_mem_singleton]
      constructor
      · rw [hiff]
        exact and_congr_right fun hC => (hlast (hgood hC)).1
      · rintro ⟨hC, hCe⟩
        exact (hlast (hgood hC)).2 hCe
  exact hmain.1

end Run

/-! ## Forward simulation -/

/-- `N` simulates `M` through `Sim`: a step of `M` is matched by handling in `N` the inputs that
`abs` reads off it. -/
def Simulates {σ' ι' ω' : Type*} (N : Machine σ' ι' ω') (M : Machine σ ι ω)
    (abs : Step σ ι ω → List ι') (Sim : σ → σ' → Prop) : Prop :=
  ∀ e a, M.Takes e → Sim e.pre a →
    ∃ tr b, N.Run a tr b ∧ tr.map Step.input = abs e ∧ Sim e.post b

/-- A run of the simulated machine is matched by a run of the simulating one. -/
theorem Run.simulates {σ' ι' ω' : Type*} {N : Machine σ' ι' ω'} {abs : Step σ ι ω → List ι'}
    {Sim : σ → σ' → Prop} (hsim : Simulates N M abs Sim) {s t : σ} {tr : List (Step σ ι ω)}
    (h : M.Run s tr t) {a : σ'} (h₀ : Sim s a) :
    ∃ tr' b, N.Run a tr' b ∧ tr'.map Step.input = tr.flatMap abs ∧ Sim t b := by
  induction h with
  | nil => exact ⟨[], a, .nil a, rfl, h₀⟩
  | @snoc t u tr i o hrun htake ih =>
    obtain ⟨tr₁, b, hb, hin, hs⟩ := ih
    obtain ⟨tr₂, c, hc, hin', hs'⟩ := hsim ⟨t, i, o, u⟩ b htake hs
    exact ⟨tr₁ ++ tr₂, c, hb.trans hc, by simp [hin, hin'], hs'⟩

/-! ## Running a machine on a list of inputs -/

/-- Handle the inputs in order; `none` when one of them is not possible. -/
def exec (M : Machine σ ι ω) : σ → List ι → Option (List (Step σ ι ω) × σ)
  | s, [] => some ([], s)
  | s, i :: is =>
    (M.step s i).bind fun r => (exec M r.1 is).map fun q => (⟨s, i, r.2, r.1⟩ :: q.1, q.2)

/-- The steps of the run on `is`. -/
def trace (M : Machine σ ι ω) (s : σ) (is : List ι) : List (Step σ ι ω) :=
  ((M.exec s is).map Prod.fst).getD []

/-- The state after the run on `is`. -/
def final (M : Machine σ ι ω) (s : σ) (is : List ι) : σ := ((M.exec s is).map Prod.snd).getD s

theorem run_of_exec {s t : σ} {is : List ι} {tr : List (Step σ ι ω)}
    (h : M.exec s is = some (tr, t)) : M.Run s tr t := by
  induction is generalizing s tr with
  | nil =>
    simp only [exec, Option.some.injEq, Prod.mk.injEq] at h
    obtain ⟨rfl, rfl⟩ := h
    exact .nil s
  | cons i is ih =>
    simp only [exec, Option.bind_eq_some_iff, Option.map_eq_some_iff] at h
    obtain ⟨r, hstep, q, hq, he⟩ := h
    simp only [Prod.mk.injEq] at he
    obtain ⟨rfl, rfl⟩ := he
    exact .cons (e := ⟨s, i, r.2, r.1⟩) hstep (ih hq)

/-- A list of possible inputs gives a run. -/
theorem run_trace (s : σ) (is : List ι) (h : (M.exec s is).isSome) :
    M.Run s (M.trace s is) (M.final s is) := by
  obtain ⟨⟨tr, t⟩, hq⟩ := Option.isSome_iff_exists.1 h
  simpa [trace, final, hq] using run_of_exec hq

end Machine

end Reactive
