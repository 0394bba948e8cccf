import MonaRobot.Foundations.View

/-!
# Steps that are matched by runs

One machine refines another when each of its steps is matched by a run of the other, none or several
steps long. What is kept of a step and the run that matches it is any relation `Q`.

* `Run.refines`: then a run is matched, step by step, by a run.
* `Run.flatMap_due`: a machine that puts things out earlier than the one it refines is ahead by what
  is due of it; over a run the two have put out the same, but for what is due at the ends.
* `exists_part`: a step and its part, whose steps are all in the matching run.
-/

namespace Reactive

variable {σ ι ω σ' ι' ω' : Type*}

/-- An entry is matched with one of the parts. -/
theorem exists_part {α β : Type*} {R : α → List β → Prop} {l : List α} {parts : List (List β)}
    (h : List.Forall₂ R l parts) {a : α} (ha : a ∈ l) :
    ∃ part, R a part ∧ ∀ b ∈ part, b ∈ parts.flatten := by
  induction h with
  | nil => cases ha
  | @cons a' part l parts hR _ ih =>
    rw [List.flatten_cons]
    rcases List.mem_cons.1 ha with rfl | ha
    · exact ⟨part, hR, fun b hb => List.mem_append_left _ hb⟩
    · obtain ⟨part', hR', hmem⟩ := ih ha
      exact ⟨part', hR', fun b hb => List.mem_append_right _ (hmem b hb)⟩

namespace Machine

variable {M : Machine σ ι ω} {N : Machine σ' ι' ω'} {s t : σ} {tr : List (Step σ ι ω)}

/-- **Refinement.** When each step is matched by a run, a run is matched by the runs that match its
steps, one after another. -/
theorem Run.refines {Sim : σ → σ' → Prop} {Q : Step σ ι ω → List (Step σ' ι' ω') → Prop}
    (hsim : ∀ e a, M.Takes e → Sim e.pre a → ∃ part b, N.Run a part b ∧ Q e part ∧ Sim e.post b)
    (h : M.Run s tr t) {a : σ'} (h₀ : Sim s a) :
    ∃ parts b, N.Run a parts.flatten b ∧ List.Forall₂ Q tr parts ∧ Sim t b := by
  induction tr generalizing s a with
  | nil =>
    rw [h.nil_inv]
    exact ⟨[], a, .nil a, .nil, h₀⟩
  | cons e tr ih =>
    obtain ⟨rfl, he, hrest⟩ := h.cons_inv
    obtain ⟨part, b, hb, hQ, hpost⟩ := hsim e a he h₀
    obtain ⟨parts, c, hc, hall, hlast⟩ := ih hrest hpost
    exact ⟨part :: parts, c, hb.trans hc, .cons hQ hall, hlast⟩

/-- What is read off a run and off the one that matches it, when the former is ahead of the latter
by what is due. -/
theorem Run.flatMap_due {β : Type*} {f : Step σ ι ω → List β} {g : Step σ' ι' ω' → List β}
    {d : σ → List β} {Q : Step σ ι ω → List (Step σ' ι' ω') → Prop}
    (hQ : ∀ e part, Q e part → d e.pre ++ f e = part.flatMap g ++ d e.post)
    (h : M.Run s tr t) {parts : List (List (Step σ' ι' ω'))} (hall : List.Forall₂ Q tr parts) :
    d s ++ tr.flatMap f = parts.flatten.flatMap g ++ d t := by
  induction hall generalizing s with
  | nil =>
    rw [h.nil_inv]
    simp
  | @cons e part tr parts hR _ ih =>
    obtain ⟨rfl, -, hrest⟩ := h.cons_inv
    calc d e.pre ++ (e :: tr).flatMap f
        = (d e.pre ++ f e) ++ tr.flatMap f := by simp
      _ = part.flatMap g ++ (d e.post ++ tr.flatMap f) := by
        rw [hQ e part hR, List.append_assoc]
      _ = (part :: parts).flatten.flatMap g ++ d t := by
        rw [ih hrest, List.flatten_cons, List.flatMap_append, List.append_assoc]

end Machine

end Reactive
