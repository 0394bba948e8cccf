import MonaRobot.Foundations.Machine
import Mathlib.Data.List.Chain
import Mathlib.Order.Basic

/-!
# Properties of a history

A condition on an event of a history may speak of all that happened before it. `Throughout Φ tr`
says that `Φ` holds of every event of `tr` and its past, and `Answered P Q tr` that the last `Q` of
`tr`, if there is one, was followed by a `P`, which is read off a history from its end
(`answered_concat`). `Latest f tr t b` picks the latest of the timed records in `tr`.

`lastOut f tr` is the last of the outputs that `f` reads off the history; `isChain_flatMap_iff` reads
a relation between consecutive outputs off the events.

* `Run.throughout_congr`: two conditions that agree at every step a run can take hold throughout
  the same runs.
* `Run.aging`: an invariant of the history and of the time, which passes between the steps.
* `Run.paced`: an invariant of the state and of the time of the last step, when the gaps are bounded.
* `Run.throughout_iff`: when an invariant of the history survives exactly the steps that meet a
  condition, a property that is lost with it holds throughout a run exactly if all steps meet the
  condition.
-/

namespace Reactive

variable {α : Type*}

/-- `Φ` holds of every event and its past. -/
def Throughout (Φ : List α → α → Prop) (tr : List α) : Prop :=
  ∀ past e rest, tr = past ++ e :: rest → Φ past e

/-- A condition that does not look at the past. -/
theorem throughout_const {p : α → Prop} {tr : List α} :
    Throughout (fun _ e => p e) tr ↔ ∀ e ∈ tr, p e := by
  constructor
  · intro h e he
    obtain ⟨past, rest, rfl⟩ := List.append_of_mem he
    exact h past e rest rfl
  · rintro h past e rest rfl
    exact h e (by simp)

/-- The condition at each place of the history. -/
theorem throughout_iff_getElem {Φ : List α → α → Prop} {tr : List α} :
    Throughout Φ tr ↔ ∀ i : Fin tr.length, Φ (tr.take i) tr[i] := by
  constructor
  · intro h i
    refine h _ _ (tr.drop (i + 1)) ?_
    rw [Fin.getElem_fin, ← List.drop_eq_getElem_cons, List.take_append_drop]
  · rintro h past e rest rfl
    simpa using h ⟨past.length, by simp⟩

instance {Φ : List α → α → Prop} [∀ past e, Decidable (Φ past e)] (tr : List α) :
    Decidable (Throughout Φ tr) :=
  decidable_of_iff _ throughout_iff_getElem.symm

theorem throughout_concat {Φ : List α → α → Prop} {tr : List α} {e : α} :
    Throughout Φ (tr ++ [e]) ↔ Throughout Φ tr ∧ Φ tr e := by
  constructor
  · intro h
    refine ⟨?_, h tr e [] rfl⟩
    rintro past x rest rfl
    exact h past x (rest ++ [e]) (by simp)
  · rintro ⟨htr, he⟩ past x rest heq
    rcases List.eq_nil_or_concat rest with rfl | ⟨rest, y, rfl⟩
    · obtain ⟨rfl, hx⟩ := List.append_inj' heq rfl
      rw [← List.singleton_inj.1 hx]
      exact he
    · have heq' : tr ++ [e] = (past ++ x :: rest) ++ [y] := by simpa using heq
      exact htr past x rest (List.append_inj' heq' rfl).1

/-- Every `Q` of the history is followed by a later `P`. -/
def Answered (P Q : α → Prop) : List α → Prop
  | [] => True
  | e :: tr => (Q e → ∃ c ∈ tr, P c) ∧ Answered P Q tr

instance Answered.decidable {P Q : α → Prop} [DecidablePred P] [DecidablePred Q] :
    ∀ tr : List α, Decidable (Answered P Q tr)
  | [] => inferInstanceAs (Decidable True)
  | e :: tr =>
    haveI := Answered.decidable (P := P) (Q := Q) tr
    inferInstanceAs (Decidable ((Q e → ∃ c ∈ tr, P c) ∧ Answered P Q tr))

theorem answered_concat {P Q : α → Prop} {tr : List α} {e : α} :
    Answered P Q (tr ++ [e]) ↔ ¬ Q e ∧ (P e ∨ Answered P Q tr) := by
  induction tr with
  | nil => simp [Answered]
  | cons x tr ih =>
    simp only [List.cons_append, Answered, ih, List.mem_append, List.mem_singleton]
    constructor
    · rintro ⟨hx, hQ, hP | htr⟩
      · exact ⟨hQ, Or.inl hP⟩
      · by_cases hP : P e
        · exact ⟨hQ, Or.inl hP⟩
        · refine ⟨hQ, Or.inr ⟨fun hQx => ?_, htr⟩⟩
          obtain ⟨c, hc | rfl, hPc⟩ := hx hQx
          · exact ⟨c, hc, hPc⟩
          · exact absurd hPc hP
    · rintro ⟨hQ, hP | ⟨hx, htr⟩⟩
      · exact ⟨fun _ => ⟨e, Or.inr rfl, hP⟩, hQ, Or.inl hP⟩
      · refine ⟨fun hQx => ?_, hQ, Or.inr htr⟩
        obtain ⟨c, hc, hPc⟩ := hx hQx
        exact ⟨c, Or.inl hc, hPc⟩

/-! ## The latest record -/

/-- Among the timed records that `f` reads off the history, `b` at `t` is the latest. -/
def Latest {τ β : Type*} [LE τ] (f : α → Option (τ × β)) (tr : List α) (t : τ) (b : β) : Prop :=
  (∃ e ∈ tr, f e = some (t, b)) ∧ ∀ e ∈ tr, ∀ p ∈ f e, p.1 ≤ t

section Latest

variable {τ β : Type*} {f : α → Option (τ × β)} {tr : List α} {e : α} {t : τ} {b : β}

theorem Latest.concat_none [LE τ] (h : Latest f tr t b) (he : f e = none) :
    Latest f (tr ++ [e]) t b := by
  obtain ⟨⟨x, hx, hfx⟩, hle⟩ := h
  refine ⟨⟨x, List.mem_append_left _ hx, hfx⟩, fun y hy p hp => ?_⟩
  rcases List.mem_append.1 hy with hy | hy
  · exact hle y hy p hp
  · rw [List.mem_singleton.1 hy, he] at hp
    cases hp

/-- A record that is at least as late as all before it. -/
theorem latest_concat [Preorder τ] (he : f e = some (t, b))
    (hle : ∀ x ∈ tr, ∀ p ∈ f x, p.1 ≤ t) : Latest f (tr ++ [e]) t b := by
  refine ⟨⟨e, by simp, he⟩, fun y hy p hp => ?_⟩
  rcases List.mem_append.1 hy with hy | hy
  · exact hle y hy p hp
  · rw [List.mem_singleton.1 hy, he, Option.mem_some_iff] at hp
    rw [← hp]

/-- `b` was recorded from `t₀` on exactly if the latest record is from `t₀` on. -/
theorem Latest.exists_iff [Preorder τ] (h : Latest f tr t b) (t₀ : τ) :
    (∃ e ∈ tr, ∃ t', f e = some (t', b) ∧ t₀ ≤ t') ↔ t₀ ≤ t := by
  obtain ⟨⟨x, hx, hfx⟩, hle⟩ := h
  constructor
  · rintro ⟨y, hy, t', hfy, ht⟩
    exact ht.trans (hle y hy (t', b) hfy)
  · intro ht
    exact ⟨x, hx, t, hfx, ht⟩

end Latest

/-! ## The last output -/

/-- The last of the outputs that `f` reads off the history. -/
def lastOut {β : Type*} (f : α → List β) (tr : List α) : Option β := (tr.flatMap f).getLast?

theorem lastOut_concat {β : Type*} {f : α → List β} {tr : List α} {e : α} :
    lastOut f (tr ++ [e]) = (f e).getLast?.or (lastOut f tr) := by
  simp [lastOut, List.flatMap_append, List.getLast?_append]

/-- Consecutive outputs are related exactly if at every event the new ones are, with the last one
before them. -/
theorem isChain_flatMap_iff {β : Type*} {R : β → β → Prop} {f : α → List β} {tr : List α} :
    List.IsChain R (tr.flatMap f) ↔ Throughout (fun past e =>
      List.IsChain R (f e) ∧ ∀ x ∈ lastOut f past, ∀ y ∈ (f e).head?, R x y) tr := by
  induction tr using List.reverseRecOn with
  | nil => exact iff_of_true .nil fun past e rest h => by simp at h
  | append_singleton tr e ih =>
    rw [throughout_concat, ← ih, List.flatMap_append, List.flatMap_singleton, List.isChain_append]
    exact Iff.rfl

/-! ## Conditions throughout a run -/

namespace Machine.Run

variable {σ ι ω : Type*} {M : Machine σ ι ω} {s t : σ} {tr : List (Step σ ι ω)}

/-- Conditions that agree at every step which meets `C`, after a past whose steps do, hold throughout
the same runs with such steps. -/
theorem throughout_congr {Φ Ψ : List (Step σ ι ω) → Step σ ι ω → Prop} {C : Step σ ι ω → Prop}
    (h : M.Run s tr t) (hC : ∀ e ∈ tr, C e)
    (hstep : ∀ past e, M.Run s past e.pre → M.Takes e → (∀ e' ∈ past, C e') → C e →
      (Φ past e ↔ Ψ past e)) :
    Throughout Φ tr ↔ Throughout Ψ tr := by
  have hiff : Throughout (fun past e => Φ past e ↔ Ψ past e) tr := by
    rintro past e rest rfl
    obtain ⟨hpast, he, -⟩ := h.around
    exact hstep past e hpast he (fun e' he' => hC e' (List.mem_append_left _ he')) (hC e (by simp))
  exact ⟨fun hΦ past e rest hx => (hiff past e rest hx).1 (hΦ past e rest hx),
    fun hΨ past e rest hx => (hiff past e rest hx).2 (hΨ past e rest hx)⟩

/-- **Exactness over a history.** `G` is an invariant that every step which meets `C` keeps, and `P`
follows from it; a step that does not meet `C` loses `P`. Then `P` holds after every step exactly
if all steps meet `C`. -/
theorem throughout_iff {G P : List (Step σ ι ω) → σ → Prop} {C : Step σ ι ω → Prop}
    (h : M.Run s tr t) (h₀ : G [] s) (hP : ∀ tr x, G tr x → P tr x)
    (hstep : ∀ tr e, M.Run s tr e.pre → M.Takes e → G tr e.pre →
      (C e → G (tr ++ [e]) e.post) ∧ (¬ C e → ¬ P (tr ++ [e]) e.post)) :
    Throughout (fun past e => P (past ++ [e]) e.post) tr ↔ ∀ e ∈ tr, C e := by
  have hmain := h.history (H := fun tr x =>
    (Throughout (fun past e => P (past ++ [e]) e.post) tr ↔ ∀ e ∈ tr, C e) ∧
      ((∀ e ∈ tr, C e) → G tr x)) ?_ ?_
  · exact hmain.1
  · exact ⟨iff_of_true (fun past e rest hx => by simp at hx) (by simp), fun _ => h₀⟩
  · rintro tr e hrun he ⟨hiff, hG⟩
    rw [throughout_concat, hiff, List.forall_mem_append, List.forall_mem_singleton]
    refine ⟨and_congr_right fun hC => ?_, fun ⟨hC, hCe⟩ => (hstep tr e hrun he (hG hC)).1 hCe⟩
    obtain ⟨hkeep, hlose⟩ := hstep tr e hrun he (hG hC)
    exact ⟨fun hPe => by_contra fun hCe => hlose hCe hPe, fun hCe => hP _ _ (hkeep hCe)⟩

/-- **An invariant that ages.** Time passes between the steps and does not go back: what a step makes
of the invariant at its own time holds at every later time. Then the invariant holds at the end of
the run, at every time that is not before one of its steps. -/
theorem aging {T : Type*} [LE T] {H : List (Step σ ι ω) → T → σ → Prop} {B : T → Prop}
    {C : Step σ ι ω → Prop} {time : Step σ ι ω → T} (h : M.Run s tr t)
    (hclock : (tr.map time).Pairwise (· ≤ ·)) (hC : ∀ e ∈ tr, C e ∧ B (time e))
    (h₀ : ∀ c, B c → H [] c s)
    (hstep : ∀ tr e c, M.Takes e → C e → time e ≤ c → H tr (time e) e.pre → H (tr ++ [e]) c e.post)
    (c : T) (hB : B c) (hc : ∀ e ∈ tr, time e ≤ c) : H tr c t := by
  induction h generalizing c with
  | nil => exact h₀ c hB
  | @snoc t u tr i o hrun htake ih =>
    rw [List.map_append, List.pairwise_append] at hclock
    obtain ⟨hpast, -, hlast⟩ := hclock
    obtain ⟨hCe, hBe⟩ := hC ⟨t, i, o, u⟩ (by simp)
    refine hstep tr ⟨t, i, o, u⟩ c htake hCe (hc _ (by simp)) ?_
    refine ih hpast (fun e he => hC e (List.mem_append_left _ he)) _ hBe fun e he => ?_
    exact hlast _ (List.mem_map_of_mem he) _ (by simp)

/-- **An invariant of a paced run.** The readings of the steps follow each other, and the reading `c`
from before the run, as `G` permits. An invariant of the reading and the state that every step at a
permitted next reading keeps holds after each step of the run. -/
theorem paced {T : Type*} {J : T → σ → Prop} {G : T → T → Prop} {C : Step σ ι ω → Prop}
    {time : Step σ ι ω → T} (h : M.Run s tr t) {c : T} (hpace : List.IsChain G (c :: tr.map time))
    (hC : ∀ e ∈ tr, C e) (h₀ : J c s)
    (hstep : ∀ e c, M.Takes e → C e → G c (time e) → J c e.pre → J (time e) e.post) :
    ∀ e ∈ tr, J (time e) e.post := by
  induction tr generalizing s c with
  | nil => simp
  | cons e tr ih =>
    obtain ⟨rfl, he, hrest⟩ := h.cons_inv
    obtain ⟨hnext, hpace⟩ := List.isChain_cons_cons.1 hpace
    have hpost := hstep e c he (hC e (by simp)) hnext h₀
    intro e' he'
    rcases List.mem_cons.1 he' with rfl | he'
    · exact hpost
    · exact ih hrest hpace (fun x hx => hC x (List.mem_cons_of_mem _ hx)) hpost e' he'

end Machine.Run

end Reactive
