import MonaRobot.Foundations.History
import Mathlib.Algebra.Ring.Nat

/-!
# A lossy FIFO channel and its follower

A channel observed in a machine: its messages in flight, oldest first; what a step sends on it; and
how many messages leave at its front, delivered or lost. `Channel.queue_run` is the FIFO law over a
run: what is in flight at the end are the messages in flight at the start and all that were sent,
less the ones that left; `Channel.left_append_queue` is the same as an equation between sequences,
so messages that were sent one after the other leave one after the other
(`Channel.related_of_chain`).

A follower keeps a value that it reads off every message delivered to it. Only older messages are
lost, never the newest, as in a history queue that drops its oldest message to make room.

* `Follower.newest_run`: the newest value, of the last message in flight or of the follower when
  there is none, is that of the last message sent, whatever was delivered or lost meanwhile.
* `Follower.held`: what is true of all messages in flight, of all that are sent and of the
  follower's value stays true of its value.
-/

namespace Reactive

variable {σ ι ω α β : Type*} {M : Machine σ ι ω}

/-- A FIFO channel that a machine sends on. -/
structure Channel (M : Machine σ ι ω) (α : Type*) where
  /-- The messages in flight, the oldest first. -/
  queue : σ → List α
  /-- The messages a step sends. -/
  sent : Step σ ι ω → List α
  /-- How many messages leave at the front in a step. -/
  taken : Step σ ι ω → ℕ
  taken_le : ∀ e, M.Takes e → taken e ≤ (queue e.pre).length
  queue_post : ∀ e, M.Takes e → queue e.post = (queue e.pre).drop (taken e) ++ sent e

namespace Channel

variable {s t : σ} {tr : List (Step σ ι ω)} (c : Channel M α)

/-- The number of messages that left in a history. -/
def gone (tr : List (Step σ ι ω)) : ℕ := (tr.map c.taken).sum

theorem gone_concat (tr : List (Step σ ι ω)) (e : Step σ ι ω) :
    c.gone (tr ++ [e]) = c.gone tr + c.taken e := by
  simp [gone]

/-- **First in, first out.** -/
theorem queue_run (h : M.Run s tr t) : c.gone tr ≤ (c.queue s ++ tr.flatMap c.sent).length ∧
    c.queue t = (c.queue s ++ tr.flatMap c.sent).drop (c.gone tr) := by
  refine h.history (H := fun tr t => c.gone tr ≤ (c.queue s ++ tr.flatMap c.sent).length ∧
    c.queue t = (c.queue s ++ tr.flatMap c.sent).drop (c.gone tr)) ⟨by simp [gone], by simp [gone]⟩ ?_
  rintro tr e - he ⟨hle, hqueue⟩
  have hall : c.queue s ++ (tr ++ [e]).flatMap c.sent =
      (c.queue s ++ tr.flatMap c.sent) ++ c.sent e := by
    simp [List.flatMap_append]
  rw [hall, c.gone_concat]
  generalize c.queue s ++ tr.flatMap c.sent = sofar at hle hqueue ⊢
  have htaken := c.taken_le e he
  rw [hqueue, List.length_drop] at htaken
  constructor
  · rw [List.length_append]
    omega
  · rw [c.queue_post e he, hqueue, List.drop_drop, List.drop_append_of_le_length (by omega)]

/-- The oldest message in flight, by its place among those in flight at the start and those sent. -/
theorem head?_run (h : M.Run s tr t) :
    (c.queue t).head? = (c.queue s ++ tr.flatMap c.sent)[c.gone tr]? := by
  rw [(c.queue_run h).2, List.head?_drop]

/-- A list that goes with the messages in flight at the start and those sent goes with the oldest
one in flight. -/
theorem head?_related {R : α → β → Prop} {l : List β} (h : M.Run s tr t)
    (hall : List.Forall₂ R (c.queue s ++ tr.flatMap c.sent) l) :
    Option.Rel R (c.queue t).head? l[c.gone tr]? := by
  rw [c.head?_run h]
  rcases Nat.lt_or_ge (c.gone tr) l.length with hlt | hge
  · have hlt' := hall.length_eq.symm ▸ hlt
    rw [List.getElem?_eq_getElem hlt, List.getElem?_eq_getElem hlt']
    exact .some (hall.get hlt' hlt)
  · rw [List.getElem?_eq_none hge, List.getElem?_eq_none (hall.length_eq.symm ▸ hge)]
    exact .none

/-- When all messages that were in flight have left, only those sent since are. -/
theorem exists_sent (h : M.Run s tr t) (hgone : (c.queue s).length ≤ c.gone tr) {m : α}
    (hm : m ∈ c.queue t) : ∃ e ∈ tr, m ∈ c.sent e := by
  obtain ⟨-, hqueue⟩ := c.queue_run h
  rw [hqueue, List.drop_append, List.drop_eq_nil_of_le hgone, List.nil_append] at hm
  exact List.mem_flatMap.1 (List.mem_of_mem_drop hm)

/-- The messages that leave in a step, the oldest first. -/
def left (e : Step σ ι ω) : List α := (c.queue e.pre).take (c.taken e)

/-- What left and what is in flight is what was in flight and what was sent, in the same order. -/
theorem left_append_queue (h : M.Run s tr t) :
    tr.flatMap c.left ++ c.queue t = c.queue s ++ tr.flatMap c.sent := by
  refine h.history (H := fun tr t => tr.flatMap c.left ++ c.queue t =
    c.queue s ++ tr.flatMap c.sent) (by simp) fun tr e _ he hpre => ?_
  calc (tr ++ [e]).flatMap c.left ++ c.queue e.post
      = tr.flatMap c.left ++ ((c.queue e.pre).take (c.taken e) ++
          (c.queue e.pre).drop (c.taken e)) ++ c.sent e := by
        rw [c.queue_post e he, List.flatMap_append, List.flatMap_singleton, left]
        simp only [List.append_assoc]
    _ = (c.queue s ++ tr.flatMap c.sent) ++ c.sent e := by rw [List.take_append_drop, hpre]
    _ = c.queue s ++ (tr ++ [e]).flatMap c.sent := by simp [List.flatMap_append]

/-- **Neighbours stay neighbours.** Where consecutive messages are sent related, the oldest one in
flight is related to the last one that left. -/
theorem related_of_chain {R : α → α → Prop} (h : M.Run s tr t)
    (hsent : List.IsChain R (c.queue s ++ tr.flatMap c.sent)) :
    ∀ x ∈ lastOut c.left tr, ∀ y ∈ (c.queue t).head?, R x y := by
  rw [← c.left_append_queue h, List.isChain_append] at hsent
  exact hsent.2.2

end Channel

/-- A value that follows the messages of a channel. -/
structure Follower (M : Machine σ ι ω) (α β : Type*) extends Channel M α where
  value : σ → β
  read : α → β
  /-- A step delivers the oldest message, or leaves the value and the newest message alone. -/
  follows : ∀ e, M.Takes e →
    (∃ m rest, queue e.pre = m :: rest ∧ taken e = 1 ∧ value e.post = read m) ∨
      (value e.post = value e.pre ∧ (taken e = 0 ∨ taken e < (queue e.pre).length))

namespace Follower

variable {s t : σ} {tr : List (Step σ ι ω)} {e : Step σ ι ω} (c : Follower M α β)

/-- What the follower will know when all is delivered. -/
def newest (s : σ) : β := (c.queue s).getLast?.elim (c.value s) c.read

theorem newest_of_nil (h : c.queue s = []) : c.newest s = c.value s := by
  rw [newest, h]
  rfl

theorem newest_step (he : M.Takes e) :
    c.newest e.post = (c.sent e).getLast?.elim (c.newest e.pre) c.read := by
  unfold newest
  rw [c.queue_post e he, List.getLast?_append]
  cases (c.sent e).getLast? with
  | some m => rfl
  | none =>
    rw [Option.none_or, Option.elim_none]
    rcases c.follows e he with ⟨m, rest, hqueue, htaken, hvalue⟩ | ⟨hvalue, htaken⟩
    · rw [hqueue, htaken, hvalue, List.drop_one, List.tail_cons, List.getLast?_cons]
      cases rest.getLast? <;> rfl
    · rw [hvalue, List.getLast?_drop]
      split_ifs with hlen
      · -- nothing was taken, so nothing is in flight
        have hnil : c.queue e.pre = [] := List.length_eq_zero_iff.1 (by omega)
        rw [hnil]
        rfl
      · rfl

/-- **The last message sent decides.** -/
theorem newest_run (h : M.Run s tr t) :
    c.newest t = (lastOut c.sent tr).elim (c.newest s) c.read := by
  refine h.history (H := fun tr t => c.newest t = (lastOut c.sent tr).elim (c.newest s) c.read)
    rfl fun tr e _ he hpre => ?_
  rw [c.newest_step he, lastOut_concat, hpre]
  cases (c.sent e).getLast? <;> rfl

/-- What holds of every message and of the value stays true of the value. -/
theorem held {P : β → Prop} (h : M.Run s tr t) (hvalue : P (c.value s))
    (hqueue : ∀ m ∈ c.queue s, P (c.read m)) (hsent : ∀ e ∈ tr, ∀ m ∈ c.sent e, P (c.read m)) :
    P (c.value t) ∧ ∀ m ∈ c.queue t, P (c.read m) := by
  refine h.invariant_under (I := fun x => P (c.value x) ∧ ∀ m ∈ c.queue x, P (c.read m))
    ⟨hvalue, hqueue⟩ hsent fun e he hsend hpre => ⟨?_, fun m hm => ?_⟩
  · rcases c.follows e he with ⟨m, rest, hm, -, hread⟩ | ⟨hsame, -⟩
    · rw [hread]
      exact hpre.2 m (by simp [hm])
    · rw [hsame]
      exact hpre.1
  · rw [c.queue_post e he] at hm
    rcases List.mem_append.1 hm with hm | hm
    · exact hpre.2 m (List.mem_of_mem_drop hm)
    · exact hsend m hm

end Follower

end Reactive
