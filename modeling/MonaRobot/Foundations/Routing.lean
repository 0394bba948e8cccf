import MonaRobot.Foundations.LossyFifo
import Mathlib.Logic.Function.Basic

/-!
# Topics inside a machine

The parts of a machine publish on topics that other parts subscribe to: what a step sends on a topic
is queued there, and a delivery hands the oldest message of a topic back to the machine. The oldest
messages of a topic may be lost. All other inputs come from elsewhere.

* `Routing.moves`: a step is one of the machine, or the loss of messages.
* `Routing.inner_run`: a run with the topics is a run of the machine, whose inputs are all allowed.
* `Routing.topic`: each topic is a channel; what is delivered on it is read off the messages sent by
  `Channel.head?_run`.
-/

namespace Reactive

open Machine

/-- The state of the machine, and the messages in flight on each topic, the oldest first. -/
structure Routed (σ : Type*) {κ : Type*} (α : κ → Type*) where
  inner : σ
  queue : ∀ k, List (α k)

/-- An input from elsewhere, a delivery, or the loss of the `n` oldest messages of a topic. -/
inductive RoutedInput (ι κ δ : Type*)
  | own (i : ι)
  | deliver (k : κ) (d : δ)
  | lose (k : κ) (n : ℕ)

variable {σ ι ω κ δ : Type*} {α : κ → Type*}

/-- A step of the machine with its topics. -/
abbrev RoutedStep (σ ι ω : Type*) (α : κ → Type*) (δ : Type*) :=
  Step (Routed σ α) (RoutedInput ι κ δ) (Option ω)

/-- How a machine publishes on its topics: a delivery is an input made of the message and of what
else the environment decides, and the inputs `own` come from elsewhere. -/
structure Routing (M : Machine σ ι ω) (α : κ → Type*) (δ : Type*) where
  sends : ω → ∀ k, List (α k)
  deliver : ∀ k, α k → δ → ι
  own : ι → Bool

namespace Routing

variable [DecidableEq κ] {M : Machine σ ι ω} (R : Routing M α δ)

/-! ## The machine -/

def machine : Machine (Routed σ α) (RoutedInput ι κ δ) (Option ω) where
  step x
    | .own i =>
      if R.own i then (M.step x.inner i).map fun r =>
        (⟨r.1, fun j => x.queue j ++ R.sends r.2 j⟩, some r.2)
      else none
    | .deliver k d =>
      match x.queue k with
      | [] => none
      | m :: rest => (M.step x.inner (R.deliver k m d)).map fun r =>
          (⟨r.1, fun j => Function.update x.queue k rest j ++ R.sends r.2 j⟩, some r.2)
    | .lose k n =>
      if n ≤ (x.queue k).length then
        some (⟨x.inner, Function.update x.queue k ((x.queue k).drop n)⟩, none)
      else none

/-- The steps of the machine with its topics. -/
@[elab_as_elim]
theorem takes_rec {motive : ∀ e : RoutedStep σ ι ω α δ, R.machine.Takes e → Prop}
    (own : ∀ (x : Routed σ α) i o s (_ : R.own i = true) (_ : M.Takes ⟨x.inner, i, o, s⟩) h,
      motive ⟨x, .own i, some o, ⟨s, fun j => x.queue j ++ R.sends o j⟩⟩ h)
    (deliver : ∀ (x : Routed σ α) k m rest d o s (_ : x.queue k = m :: rest)
      (_ : M.Takes ⟨x.inner, R.deliver k m d, o, s⟩) h, motive ⟨x, .deliver k d, some o,
        ⟨s, fun j => Function.update x.queue k rest j ++ R.sends o j⟩⟩ h)
    (lose : ∀ (x : Routed σ α) k n (_ : n ≤ (x.queue k).length) h, motive ⟨x, .lose k n, none,
      ⟨x.inner, Function.update x.queue k ((x.queue k).drop n)⟩⟩ h)
    (e : RoutedStep σ ι ω α δ) (he : R.machine.Takes e) : motive e he := by
  obtain ⟨x, i, o, y⟩ := e
  have hstep := he
  simp only [Takes, machine] at hstep
  cases i with
  | own i =>
    dsimp only at hstep
    split_ifs at hstep with hown
    obtain ⟨⟨s, o'⟩, hr, hx⟩ := Option.map_eq_some_iff.1 hstep
    obtain ⟨rfl, rfl⟩ := Prod.mk.inj hx
    exact own x i o' s hown hr he
  | deliver k d =>
    cases hq : x.queue k with
    | nil => simp [hq] at hstep
    | cons m rest =>
      simp only [hq] at hstep
      obtain ⟨⟨s, o'⟩, hr, hx⟩ := Option.map_eq_some_iff.1 hstep
      obtain ⟨rfl, rfl⟩ := Prod.mk.inj hx
      exact deliver x k m rest d o' s hq hr he
  | lose k n =>
    dsimp only at hstep
    split_ifs at hstep with hn
    obtain ⟨rfl, rfl⟩ := Prod.mk.inj (Option.some.inj hstep)
    exact lose x k n hn he

/-! ## The run of the machine -/

/-- The step of the machine. -/
def innerStep (e : RoutedStep σ ι ω α δ) : List (Step σ ι ω) :=
  match e.input, e.output with
  | .own i, some o => [⟨e.pre.inner, i, o, e.post.inner⟩]
  | .deliver k d, some o =>
    ((e.pre.queue k).take 1).map fun m => ⟨e.pre.inner, R.deliver k m d, o, e.post.inner⟩
  | _, _ => []

variable {R} {x y : Routed σ α} {tr : List (RoutedStep σ ι ω α δ)} {e : RoutedStep σ ι ω α δ}

/-- A step is one of the machine, on an input from elsewhere or on the oldest message of a topic; or
it is none. -/
inductive Moves (R : Routing M α δ) (e : RoutedStep σ ι ω α δ) : Prop
  | own (e' : Step σ ι ω) (_ : M.Takes e') (_ : R.innerStep e = [e']) (_ : e.output = some e'.output)
      (_ : e'.pre = e.pre.inner) (_ : e'.post = e.post.inner) (_ : R.own e'.input = true)
  | deliver (e' : Step σ ι ω) (_ : M.Takes e') (_ : R.innerStep e = [e'])
      (_ : e.output = some e'.output) (_ : e'.pre = e.pre.inner) (_ : e'.post = e.post.inner)
      (k : κ) (d : δ) (m : α k) (_ : (e.pre.queue k).head? = some m)
      (_ : e'.input = R.deliver k m d)
  | none (_ : R.innerStep e = []) (_ : e.output = none) (_ : e.post.inner = e.pre.inner)

theorem moves (he : R.machine.Takes e) : Moves R e := by
  induction e, he using R.takes_rec with
  | own x i o s hown hs => exact .own _ hs rfl rfl rfl rfl hown
  | deliver x k m rest d o s hq hs =>
    exact .deliver _ hs (by simp [innerStep, hq]) rfl rfl rfl k d m (by simp [hq]) rfl
  | lose x k n hn => exact .none rfl rfl rfl

theorem takes_own {i : ι} {o : Option ω} (h : R.machine.Takes ⟨x, .own i, o, y⟩) :
    ∃ o', o = some o' ∧ M.Takes ⟨x.inner, i, o', y.inner⟩ := by
  simp only [Takes, machine] at h
  split_ifs at h
  obtain ⟨⟨s, o'⟩, hr, hx⟩ := Option.map_eq_some_iff.1 h
  obtain ⟨rfl, rfl⟩ := Prod.mk.inj hx
  exact ⟨o', rfl, hr⟩

/-- The steps of the machine are a run of it. -/
theorem inner_run (h : R.machine.Run x tr y) :
    M.Run x.inner (tr.flatMap R.innerStep) y.inner := by
  refine h.history (H := fun tr y => M.Run x.inner (tr.flatMap R.innerStep) y.inner) (.nil _) ?_
  intro tr e _ he hrun
  rw [List.flatMap_append, List.flatMap_singleton]
  refine hrun.trans ?_
  cases moves he with
  | own e' htake hinner _ hpre hpost | deliver e' htake hinner _ hpre hpost =>
    rw [hinner, ← hpre, ← hpost]
    exact .single htake
  | none hinner _ hsame =>
    rw [hinner, hsame]
    exact .nil _

variable (R) in
/-- A topic, as a channel. -/
def topic (k : κ) : Channel R.machine (α k) where
  queue x := x.queue k
  sent e := (R.innerStep e).flatMap fun e' => R.sends e'.output k
  taken e :=
    match e.input with
    | .own _ => 0
    | .deliver j _ => if j = k then 1 else 0
    | .lose j n => if j = k then n else 0
  taken_le e he := by
    induction e, he using R.takes_rec with
    | own x i o s _ _ => exact Nat.zero_le _
    | deliver x j m rest d o s hq _ =>
      dsimp only
      split_ifs with hj
      · subst hj
        simp [hq]
      · exact Nat.zero_le _
    | lose x j n hn =>
      dsimp only
      split_ifs with hj
      · subst hj
        exact hn
      · exact Nat.zero_le _
  queue_post e he := by
    induction e, he using R.takes_rec with
    | own x i o s _ _ => simp [innerStep]
    | deliver x j m rest d o s hq _ =>
      by_cases hj : j = k
      · subst hj
        simp [innerStep, hq]
      · simp [innerStep, hq, hj, Ne.symm hj]
    | lose x j n hn =>
      by_cases hj : j = k
      · subst hj
        simp [innerStep]
      · simp [innerStep, hj, Ne.symm hj]

end Routing

end Reactive
