import MonaRobot.Foundations.Machine
import Mathlib.Algebra.Ring.Nat

/-!
# Callbacks in progress

Callbacks on a shared state that overlap: a callback begins with its first indivisible step, and
each of its later steps resumes it, whenever this is. `Handlers.pool` is the machine of any number
of callbacks in any interleaving, with those in progress as part of its state.

* `pool_rec`: a step begins a callback, or resumes one of those in progress between the others.
* `Handlers.Alone`: a callback without interruption, which is a run of the pool (`Alone.run`).
* `Handlers.settle`: callbacks that end can be run to their end, one after another.
* `Handlers.Alone.embed`: a callback on its own, as one of more callbacks.
* `Handlers.run_conserves`, `Handlers.run_budget`, `Handlers.run_spends`: the accounts of a run, of
  what its callbacks put out at their ends, of how often they are resumed, and of what those in
  progress can still put out.
-/

namespace Reactive

/-- A callback of the input `i` begins in a shared state, and then may be in progress as a `τ`; each
time it is resumed it is given a `ρ`. -/
structure Handlers (σ ι τ ρ ω : Type*) where
  begin : σ → ι → σ × Option τ × List ω
  resume : σ → τ → ρ → σ × Option τ × List ω

/-- The shared state, and the callbacks in progress. -/
structure Pool (σ τ : Type*) where
  shared : σ
  live : List τ

/-- A callback begins, or the one in place `k` is resumed. -/
inductive PoolInput (ι ρ : Type*)
  | start (i : ι)
  | resume (k : ℕ) (r : ρ)

/-- A step of the callbacks. -/
abbrev PoolStep (σ ι τ ρ ω : Type*) := Step (Pool σ τ) (PoolInput ι ρ) (List ω)

variable {σ ι τ ρ ω : Type*}

/-- A callback begins. -/
def PoolInput.isStart : PoolInput ι ρ → Bool
  | .start _ => true
  | .resume _ _ => false

/-- The callbacks that begin in a run. -/
def starts (tr : List (PoolStep σ ι τ ρ ω)) : ℕ := tr.countP fun e => e.input.isStart

/-- The times that a callback is resumed in a run. -/
def resumes (tr : List (PoolStep σ ι τ ρ ω)) : ℕ := tr.countP fun e => !e.input.isStart

theorem starts_concat (tr : List (PoolStep σ ι τ ρ ω)) (e : PoolStep σ ι τ ρ ω) :
    starts (tr ++ [e]) = starts tr + if e.input.isStart then 1 else 0 := by
  rw [starts, starts, List.countP_append, List.countP_singleton]

theorem resumes_concat (tr : List (PoolStep σ ι τ ρ ω)) (e : PoolStep σ ι τ ρ ω) :
    resumes (tr ++ [e]) = resumes tr + if e.input.isStart then 0 else 1 := by
  rw [resumes, resumes, List.countP_append, List.countP_singleton]
  cases e.input.isStart <;> rfl

/-- The callbacks in progress other than the one that the step is of. -/
def others (e : PoolStep σ ι τ ρ ω) : List τ :=
  match e.input with
  | .start _ => e.pre.live
  | .resume k _ => e.pre.live.eraseIdx k

namespace Handlers

variable (H : Handlers σ ι τ ρ ω)

/-- Any number of callbacks, in any interleaving. -/
def pool : Machine (Pool σ τ) (PoolInput ι ρ) (List ω) where
  step s
    | .start i =>
      let r := H.begin s.shared i
      some (⟨r.1, s.live ++ r.2.1.toList⟩, r.2.2)
    | .resume k r => s.live[k]?.map fun t =>
      let q := H.resume s.shared t r
      (⟨q.1, s.live.take k ++ q.2.1.toList ++ s.live.drop (k + 1)⟩, q.2.2)

variable {H}

theorem takes_resume (a : σ) (before after : List τ) (t : τ) (r : ρ) :
    H.pool.Takes ⟨⟨a, before ++ t :: after⟩, .resume before.length r, (H.resume a t r).2.2,
      ⟨(H.resume a t r).1, before ++ (H.resume a t r).2.1.toList ++ after⟩⟩ := by
  simp [Machine.Takes, pool]

/-- The steps of the pool: a callback begins, or one of those in progress is resumed. -/
@[elab_as_elim]
theorem pool_rec {motive : ∀ e : PoolStep σ ι τ ρ ω, H.pool.Takes e → Prop}
    (start : ∀ a live i h, motive ⟨⟨a, live⟩, .start i, (H.begin a i).2.2,
      ⟨(H.begin a i).1, live ++ (H.begin a i).2.1.toList⟩⟩ h)
    (resume : ∀ a before t after r h, motive ⟨⟨a, before ++ t :: after⟩, .resume before.length r,
      (H.resume a t r).2.2, ⟨(H.resume a t r).1,
        before ++ (H.resume a t r).2.1.toList ++ after⟩⟩ h)
    (e : PoolStep σ ι τ ρ ω) (he : H.pool.Takes e) : motive e he := by
  obtain ⟨⟨a, live⟩, i, o, s'⟩ := e
  have hstep := he
  cases i with
  | start i =>
    simp only [Machine.Takes, pool, Option.some.injEq, Prod.mk.injEq] at hstep
    obtain ⟨rfl, rfl⟩ := hstep
    exact start a live i he
  | resume k r =>
    simp only [Machine.Takes, pool, Option.map_eq_some_iff] at hstep
    obtain ⟨t, ht, heq⟩ := hstep
    obtain ⟨before, after, rfl, rfl⟩ : ∃ before after, live = before ++ t :: after ∧
        before.length = k := by
      obtain ⟨hk, rfl⟩ := List.getElem?_eq_some_iff.1 ht
      exact ⟨live.take k, live.drop (k + 1), by simp, List.length_take_of_le (Nat.le_of_lt hk)⟩
    have hdrop : (before ++ t :: after).drop (before.length + 1) = after := by simp
    rw [List.take_left, hdrop] at heq
    obtain ⟨rfl, rfl⟩ := Prod.mk.inj heq
    exact resume a before t after r he

/-- What all callbacks in progress have is kept when it is kept for the one that is resumed. -/
theorem forall_resumed {P : τ → Prop} {before after l : List τ} {t : τ}
    (h : ∀ u ∈ before ++ t :: after, P u) (hl : ∀ u ∈ l, P u) :
    ∀ u ∈ before ++ l ++ after, P u := by
  simp only [List.forall_mem_append, List.forall_mem_cons] at h ⊢
  exact ⟨⟨h.1, hl⟩, h.2.2⟩

/-- What some callback in progress has is kept when it is kept for the one that is resumed. -/
theorem exists_resumed {P : τ → Prop} {before after l : List τ} {t : τ}
    (h : ∃ u ∈ before ++ t :: after, P u) (hl : P t → ∃ u ∈ l, P u) :
    ∃ u ∈ before ++ l ++ after, P u := by
  obtain ⟨u, hu, hP⟩ := h
  rcases List.mem_append.1 hu with hu | hu
  · exact ⟨u, by simp [hu], hP⟩
  · rcases List.mem_cons.1 hu with rfl | hu
    · obtain ⟨v, hv, hP⟩ := hl hP
      exact ⟨v, by simp [hv], hP⟩
    · exact ⟨u, by simp [hu], hP⟩

@[simp] theorem others_resume (a : σ) (before after : List τ) (t : τ) (r : ρ) (o : List ω)
    (s' : Pool σ τ) : others (⟨⟨a, before ++ t :: after⟩, .resume before.length r, o, s'⟩ :
      PoolStep σ ι τ ρ ω) = before ++ after := by
  simp [others, List.eraseIdx_append_of_length_le]

/-! ## A callback on its own -/

variable (H) in
/-- A callback without interruption, from where it is until it has ended: the state it leads to, and
what it puts out. -/
inductive Alone : σ → Option τ → σ → List ω → Prop
  | ended (a : σ) : Alone a none a []
  | resume {a b : σ} {t : τ} {o : List ω} (r : ρ)
      (h : Alone (H.resume a t r).1 (H.resume a t r).2.1 b o) :
      Alone a (some t) b ((H.resume a t r).2.2 ++ o)

/-- It is a run of the pool, in which the other callbacks wait. -/
theorem Alone.resumed {a b : σ} {p : Option τ} {o : List ω} (h : H.Alone a p b o)
    (l₁ l₂ : List τ) : ∃ tr, H.pool.Run ⟨a, l₁ ++ p.toList ++ l₂⟩ tr ⟨b, l₁ ++ l₂⟩ ∧
      (∀ e ∈ tr, ∃ k r, e.input = .resume k r) ∧ tr.flatMap Step.output = o := by
  induction h with
  | ended a => exact ⟨[], by simpa using Machine.Run.nil _, by simp, rfl⟩
  | @resume a b t o r h ih =>
    obtain ⟨tr, hrun, hin, hout⟩ := ih
    have hwhole := Machine.Run.cons (takes_resume (H := H) a l₁ l₂ t r) hrun
    refine ⟨_, by simpa using hwhole, ?_, ?_⟩
    · rw [List.forall_mem_cons]
      exact ⟨⟨_, r, rfl⟩, hin⟩
    · rw [List.flatMap_cons, hout]

/-- From its first step on it is a run of the pool. -/
theorem Alone.run {a b : σ} {i : ι} {o : List ω}
    (h : H.Alone (H.begin a i).1 (H.begin a i).2.1 b o) :
    ∃ tr, H.pool.Run ⟨a, []⟩ tr ⟨b, []⟩ ∧ tr.flatMap Step.output = (H.begin a i).2.2 ++ o := by
  obtain ⟨tr, hrun, -, hout⟩ := h.resumed [] []
  have hfirst : H.pool.Takes ⟨⟨a, []⟩, .start i, (H.begin a i).2.2,
      ⟨(H.begin a i).1, [] ++ (H.begin a i).2.1.toList ++ []⟩⟩ := by
    simp [Machine.Takes, pool]
  refine ⟨_ :: tr, .cons hfirst hrun, ?_⟩
  rw [List.flatMap_cons, hout]

/-- A callback of some handlers is one of other handlers that resume it in the same way. -/
theorem Alone.embed {ι' τ' : Type*} {F : Handlers σ ι' τ' ρ ω} {f : τ → τ'}
    (hresume : ∀ a t r, F.resume a (f t) r =
      ((H.resume a t r).1, (H.resume a t r).2.1.map f, (H.resume a t r).2.2))
    {a b : σ} {p : Option τ} {o : List ω} (h : H.Alone a p b o) : F.Alone a (p.map f) b o := by
  induction h with
  | ended a => exact .ended a
  | @resume a b t o r h ih =>
    have hstep := Alone.resume (H := F) (a := a) (t := f t) (b := b) (o := o) r (by
      rw [hresume]
      exact ih)
    rwa [hresume] at hstep

/-! ## Running callbacks to their end -/

section Settle

variable {K : σ → Prop} {Q : τ → Prop} {m : τ → ℕ}

/-- A callback that comes closer to its end when it is resumed in the right way can end. -/
theorem exists_alone (hstep : ∀ a t, K a → Q t → ∃ r, K (H.resume a t r).1 ∧
      ∀ u ∈ (H.resume a t r).2.1, Q u ∧ m u < m t)
    {a : σ} {t : τ} (ha : K a) (ht : Q t) : ∃ b o, H.Alone a (some t) b o ∧ K b := by
  induction hm : m t using Nat.strongRecOn generalizing t a with
  | _ n ih =>
    obtain ⟨r, hK, hnext⟩ := hstep a t ha ht
    have hrest : ∃ b o, H.Alone (H.resume a t r).1 (H.resume a t r).2.1 b o ∧ K b := by
      cases hu : (H.resume a t r).2.1 with
      | none => exact ⟨_, [], .ended _, hK⟩
      | some u =>
        obtain ⟨hQ, hlt⟩ := hnext u hu
        exact ih (m u) (hm ▸ hlt) hK hQ rfl
    obtain ⟨b, o, halone, hb⟩ := hrest
    exact ⟨b, _, .resume r halone, hb⟩

/-- Any part of such callbacks in progress can be run to their end, one after another, while the
others wait. -/
theorem settle (hstep : ∀ a t, K a → Q t → ∃ r, K (H.resume a t r).1 ∧
      ∀ u ∈ (H.resume a t r).2.1, Q u ∧ m u < m t)
    {a : σ} (l₁ : List τ) {live : List τ} (l₂ : List τ) (ha : K a) (hlive : ∀ t ∈ live, Q t) :
    ∃ tr b, H.pool.Run ⟨a, l₁ ++ live ++ l₂⟩ tr ⟨b, l₁ ++ l₂⟩ ∧ K b ∧
      ∀ e ∈ tr, ∃ k r, e.input = .resume k r := by
  induction live generalizing a with
  | nil => exact ⟨[], a, by simpa using Machine.Run.nil _, ha, by simp⟩
  | cons t live ih =>
    rw [List.forall_mem_cons] at hlive
    obtain ⟨a₁, o, halone, ha₁⟩ := exists_alone hstep ha hlive.1
    obtain ⟨tr₁, h₁, hin₁, -⟩ := halone.resumed l₁ (live ++ l₂)
    obtain ⟨tr₂, b, h₂, hb, hin₂⟩ := ih ha₁ hlive.2
    rw [List.append_assoc] at h₂
    refine ⟨tr₁ ++ tr₂, b, by simpa using h₁.trans h₂, hb, ?_⟩
    rw [List.forall_mem_append]
    exact ⟨hin₁, hin₂⟩

end Settle

/-! ## Accounts -/

section Accounts

variable {I : Pool σ τ → Prop} {x y : Pool σ τ} {tr : List (PoolStep σ ι τ ρ ω)}

/-- **Nothing is lost and nothing is doubled.** When a callback either stays in progress or puts out
one `p` and ends, the callbacks that have begun are those that have put one out, and those in
progress. -/
theorem run_conserves {p : ω → Bool} (hI : ∀ e, H.pool.Takes e → I e.pre → I e.post)
    (hbegin : ∀ a live i, I ⟨a, live⟩ →
      (H.begin a i).2.2.countP p + (H.begin a i).2.1.toList.length = 1)
    (hresume : ∀ a live t r, I ⟨a, live⟩ → t ∈ live →
      (H.resume a t r).2.2.countP p + (H.resume a t r).2.1.toList.length = 1)
    (h : H.pool.Run x tr y) (hx : I x) :
    (tr.flatMap Step.output).countP p + y.live.length = x.live.length + starts tr := by
  refine (h.history (H := fun tr y => I y ∧
    (tr.flatMap Step.output).countP p + y.live.length = x.live.length + starts tr)
    ⟨hx, by simp [starts]⟩ ?_).2
  rintro tr e - he ⟨hpre, heq⟩
  refine ⟨hI e he hpre, ?_⟩
  rw [List.flatMap_append, List.countP_append, starts_concat]
  induction e, he using pool_rec with
  | start a live i he =>
    have hone := hbegin a live i hpre
    simp only [List.flatMap_singleton, List.length_append, PoolInput.isStart, if_true] at heq ⊢
    omega
  | resume a before t after r he =>
    have hone := hresume a _ t r hpre (by simp)
    simp only [List.flatMap_singleton, List.length_append, List.length_cons,
      PoolInput.isStart, Bool.false_eq_true, if_false] at heq ⊢
    omega

/-- **Callbacks that come closer to their end.** The callbacks are resumed at most as often as those
that have begun can be. -/
theorem run_budget {m : τ → ℕ} {n : ℕ} (hI : ∀ e, H.pool.Takes e → I e.pre → I e.post)
    (hbegin : ∀ a live i, I ⟨a, live⟩ → ((H.begin a i).2.1.toList.map m).sum ≤ n)
    (hresume : ∀ a live t r, I ⟨a, live⟩ → t ∈ live →
      ((H.resume a t r).2.1.toList.map m).sum < m t)
    (h : H.pool.Run x tr y) (hx : I x) :
    resumes tr + (y.live.map m).sum ≤ (x.live.map m).sum + n * starts tr := by
  refine (h.history (H := fun tr y => I y ∧
    resumes tr + (y.live.map m).sum ≤ (x.live.map m).sum + n * starts tr)
    ⟨hx, by simp [starts, resumes]⟩ ?_).2
  rintro tr e - he ⟨hpre, hle⟩
  refine ⟨hI e he hpre, ?_⟩
  rw [starts_concat, resumes_concat]
  induction e, he using pool_rec with
  | start a live i he =>
    have hone := hbegin a live i hpre
    simp only [List.map_append, List.sum_append, PoolInput.isStart, if_true, Nat.mul_add] at hle ⊢
    omega
  | resume a before t after r he =>
    have hone := hresume a _ t r hpre (by simp)
    simp only [List.map_append, List.map_cons, List.sum_append, List.sum_cons,
      PoolInput.isStart, Bool.false_eq_true, if_false, Nat.add_zero] at hle ⊢
    omega

/-- **What the callbacks in progress can still put out.** When each `p` is paid for by the callback
that puts it out, a run puts out no more than the callbacks in progress at its start can pay for,
and those that begin, `n` each. -/
theorem run_spends {C : PoolStep σ ι τ ρ ω → Prop} {p : ω → Bool} {m : τ → ℕ} {n : ℕ}
    (hI : ∀ e, H.pool.Takes e → C e → I e.pre → I e.post)
    (hbegin : ∀ a live i, I ⟨a, live⟩ →
      (H.begin a i).2.2.countP p + ((H.begin a i).2.1.toList.map m).sum ≤ n)
    (hresume : ∀ a live t r, I ⟨a, live⟩ → t ∈ live →
      (H.resume a t r).2.2.countP p + ((H.resume a t r).2.1.toList.map m).sum ≤ m t)
    (h : H.pool.Run x tr y) (hx : I x) (hC : ∀ e ∈ tr, C e) :
    (tr.flatMap Step.output).countP p + (y.live.map m).sum ≤
      (x.live.map m).sum + n * starts tr := by
  refine (h.history (H := fun tr y => (∀ e ∈ tr, C e) → I y ∧
    (tr.flatMap Step.output).countP p + (y.live.map m).sum ≤ (x.live.map m).sum + n * starts tr)
    (fun _ => ⟨hx, by simp [starts]⟩) ?_ hC).2
  intro tr e _ he ih hC
  rw [List.forall_mem_append, List.forall_mem_singleton] at hC
  obtain ⟨hpre, hle⟩ := ih hC.1
  refine ⟨hI e he hC.2 hpre, ?_⟩
  rw [List.flatMap_append, List.countP_append, starts_concat]
  induction e, he using pool_rec with
  | start a live i he =>
    have hone := hbegin a live i hpre
    simp only [List.flatMap_singleton, List.map_append, List.sum_append, PoolInput.isStart, if_true,
      Nat.mul_add] at hle ⊢
    omega
  | resume a before t after r he =>
    have hone := hresume a _ t r hpre (by simp)
    simp only [List.flatMap_singleton, List.map_append, List.map_cons, List.sum_append,
      List.sum_cons, PoolInput.isStart, Bool.false_eq_true, if_false, Nat.add_zero] at hle ⊢
    omega

end Accounts

end Handlers

end Reactive
