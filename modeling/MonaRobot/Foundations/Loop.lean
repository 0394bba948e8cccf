import Mathlib.Data.List.Forall2
import Mathlib.Data.List.Perm.Basic
import Mathlib.Data.List.Nodup
import Mathlib.Tactic.Common

/-!
# Loops over a collection

Two kinds of loop over the entries of a collection, and what can be said of them without unrolling.

* A loop that may abort: `foldlM_history`, what every pass keeps, of the accumulator and the entries
  passed, holds of the result and all entries; `foldlM_invariant` is the case without the entries.
  `foldlM_related` follows two such loops.
* A sweep: each pass joins a contribution of the entry into an accumulator, updates the entry in
  place and emits outputs. When the contribution, the update and the outputs of an entry do not
  depend on the accumulator, the sweep is a fold, a map and a concatenation (`sweep_eq`), and with
  a commutative join the result does not depend on the order of the entries (`sweep_perm`). Two
  sweeps whose passes correspond have corresponding results (`sweep_related`).
-/

namespace Loop

variable {α β γ ε ω : Type*}

/-! ## Loops that may abort -/

/-- An invariant of the accumulator together with the entries passed. -/
theorem foldlM_history {f : β → α → Except ε β} {I : List α → β → Prop}
    (hf : ∀ p b a b', I p b → f b a = .ok b' → I (p ++ [a]) b') {l p : List α} {b c : β}
    (hb : I p b) (h : l.foldlM f b = .ok c) : I (p ++ l) c := by
  induction l generalizing p b with
  | nil =>
    obtain rfl := Except.ok.inj h
    rwa [List.append_nil]
  | cons a l ih =>
    rw [List.foldlM_cons] at h
    cases ha : f b a with
    | error e =>
      rw [ha] at h
      cases h
    | ok b' =>
      rw [ha] at h
      rw [← List.singleton_append, ← List.append_assoc]
      exact ih (hf p b a b' hb ha) h

theorem foldlM_invariant {f : β → α → Except ε β} {I : β → Prop}
    (hf : ∀ b a b', I b → f b a = .ok b' → I b') {l : List α} {b c : β} (hb : I b)
    (h : l.foldlM f b = .ok c) : I c :=
  foldlM_history (I := fun _ => I) (p := []) (fun _ => hf) hb h

/-- Two loops whose passes correspond: when the one does not abort, neither does the other. -/
theorem foldlM_related {β' : Type*} {f : β → α → Except ε β} {f' : β' → α → Except ε β'}
    {R : β → β' → Prop}
    (hf : ∀ b b' a c, R b b' → f b a = .ok c → ∃ c', f' b' a = .ok c' ∧ R c c') {l : List α}
    {b c : β} {b' : β'} (hb : R b b') (h : l.foldlM f b = .ok c) :
    ∃ c', l.foldlM f' b' = .ok c' ∧ R c c' := by
  induction l generalizing b b' with
  | nil =>
    obtain rfl := Except.ok.inj h
    exact ⟨b', rfl, hb⟩
  | cons a l ih =>
    rw [List.foldlM_cons] at h
    cases ha : f b a with
    | error e =>
      rw [ha] at h
      cases h
    | ok d =>
      rw [ha] at h
      obtain ⟨d', hd', hR⟩ := hf b b' a d hb ha
      rw [List.foldlM_cons, hd']
      exact ih hR h

/-! ## Sweeps -/

/-- Visit the entries in order: `body` gets the accumulator and the entry, and returns the new
accumulator, the updated entry and the outputs of this pass. -/
def sweep (body : γ → α → γ × α × List ω) : γ → List α → γ × List α × List ω
  | acc, [] => (acc, [], [])
  | acc, x :: xs =>
    let r := body acc x
    let q := sweep body r.1 xs
    (q.1, r.2.1 :: q.2.1, r.2.2 ++ q.2.2)

variable {body : γ → α → γ × α × List ω} {op : γ → γ → γ} {c : α → γ} {u : α → α}
  {o : α → List ω}

/-- A sweep whose passes are independent of each other. -/
theorem sweep_eq (h : ∀ acc x, body acc x = (op acc (c x), u x, o x)) (acc : γ) (xs : List α) :
    sweep body acc xs = ((xs.map c).foldl op acc, xs.map u, xs.flatMap o) := by
  induction xs generalizing acc with
  | nil => rfl
  | cons x xs ih => simp [sweep, h, ih]

/-- Two sweeps whose passes correspond, over entries that do. -/
theorem sweep_related {α' γ' ω' : Type*} {body' : γ' → α' → γ' × α' × List ω'}
    {R : γ → γ' → Prop} {S : α → α' → Prop} {U : ω → ω' → Prop}
    (h : ∀ acc acc' x x', R acc acc' → S x x' →
      R (body acc x).1 (body' acc' x').1 ∧ S (body acc x).2.1 (body' acc' x').2.1 ∧
        List.Forall₂ U (body acc x).2.2 (body' acc' x').2.2)
    {acc : γ} {acc' : γ'} {xs : List α} {xs' : List α'} (hacc : R acc acc')
    (hxs : List.Forall₂ S xs xs') :
    R (sweep body acc xs).1 (sweep body' acc' xs').1 ∧
      List.Forall₂ S (sweep body acc xs).2.1 (sweep body' acc' xs').2.1 ∧
      List.Forall₂ U (sweep body acc xs).2.2 (sweep body' acc' xs').2.2 := by
  induction hxs generalizing acc acc' with
  | nil => exact ⟨hacc, .nil, .nil⟩
  | cons hx _ ih =>
    obtain ⟨hR, hS, hU⟩ := h acc acc' _ _ hacc hx
    obtain ⟨hlast, hentries, houtputs⟩ := ih hR
    exact ⟨hlast, .cons hS hentries, List.rel_append hU houtputs⟩

/-- Outputs that only one entry has. -/
theorem flatMap_eq_of_unique {xs : List α} {x : α} {f : α → List ω} (hx : x ∈ xs)
    (hn : xs.Nodup) (hf : ∀ y ∈ xs, y ≠ x → f y = []) : xs.flatMap f = f x := by
  obtain ⟨l₁, l₂, rfl⟩ := List.append_of_mem hx
  have hne : ∀ y ∈ l₁ ++ l₂, y ≠ x := by
    rintro y hy rfl
    exact (List.nodup_cons.1 (List.nodup_middle.1 hn)).1 hy
  have h₁ : l₁.flatMap f = [] := List.flatMap_eq_nil_iff.2 fun y hy =>
    hf y (by simp [hy]) (hne y (by simp [hy]))
  have h₂ : l₂.flatMap f = [] := List.flatMap_eq_nil_iff.2 fun y hy =>
    hf y (by simp [hy]) (hne y (by simp [hy]))
  rw [List.flatMap_append, List.flatMap_cons, h₁, h₂, List.nil_append, List.append_nil]

/-- The order of the entries decides the order of the results only. -/
theorem sweep_perm [Std.Commutative op] [Std.Associative op]
    (h : ∀ acc x, body acc x = (op acc (c x), u x, o x)) (acc : γ) {xs ys : List α}
    (hp : xs.Perm ys) :
    (sweep body acc xs).1 = (sweep body acc ys).1 ∧
      (sweep body acc xs).2.1.Perm (sweep body acc ys).2.1 ∧
      (sweep body acc xs).2.2.Perm (sweep body acc ys).2.2 := by
  rw [sweep_eq h, sweep_eq h]
  have hcomm : RightCommutative op := by
    constructor
    intro a x y
    calc op (op a x) y = op a (op x y) := Std.Associative.assoc a x y
      _ = op a (op y x) := congrArg (op a) (Std.Commutative.comm x y)
      _ = op (op a y) x := (Std.Associative.assoc a y x).symm
  exact ⟨(hp.map c).foldl_eq acc, hp.map u, hp.flatMap_right o⟩

end Loop
