import MonaRobot.Foundations.LossyFifo

/-!
# One machine feeds another

A source publishes on a topic that a sink subscribes to: what a step of the source sends is queued,
and a delivery hands the oldest message in flight to the sink. The oldest messages may be lost, and
the sink has inputs of its own. `Feed.machine` is the machine of the two; its source may itself be
such a machine, so that several sinks follow one source.

* `Feed.moves`: a step is one of the source, one of the sink, or one of neither.
* `Feed.source_run`, `Feed.sink_run`: a run of the two is a run of each.
* `Feed.reads_run`: what a sink reads, and what is in flight after it, are messages that were sent,
  each at most once and in the order of sending.
-/

namespace Reactive

open Machine

/-- The source, the sink, and the messages in flight between them, the oldest first. -/
structure Fed (σ σ' α : Type*) where
  source : σ
  sink : σ'
  queue : List α

/-- An input of the source or of the sink, a delivery, or the loss of the `n` oldest messages. -/
inductive FeedInput (ι ι' κ : Type*)
  | source (i : ι)
  | sink (i : ι')
  | deliver (c : κ)
  | lose (n : ℕ)

/-- What the source or the sink puts out. -/
inductive FeedOutput (ω ω' : Type*)
  | source (o : ω)
  | sink (o : ω')
  | none

/-- A step of the two. -/
abbrev FeedStep (σ ι ω σ' ι' ω' α κ : Type*) :=
  Step (Fed σ σ' α) (FeedInput ι ι' κ) (FeedOutput ω ω')

variable {σ ι ω σ' ι' ω' α κ : Type*}

/-- How `M` feeds `N`: a delivery is an input of `N`, made of the message and of what else the
environment decides, and the inputs `own` reach `N` from elsewhere. -/
structure Feed (M : Machine σ ι ω) (N : Machine σ' ι' ω') (α κ : Type*) where
  sends : ω → List α
  deliver : α → κ → ι'
  own : ι' → Bool

namespace Feed

variable {M : Machine σ ι ω} {N : Machine σ' ι' ω'} (F : Feed M N α κ)

/-! ## The machine -/

def machine : Machine (Fed σ σ' α) (FeedInput ι ι' κ) (FeedOutput ω ω') where
  step x
    | .source i => (M.step x.source i).map fun r =>
        ({ x with source := r.1, queue := x.queue ++ F.sends r.2 }, .source r.2)
    | .sink i =>
      if F.own i then (N.step x.sink i).map fun r => ({ x with sink := r.1 }, .sink r.2) else none
    | .deliver c =>
      match x.queue with
      | [] => none
      | m :: rest => (N.step x.sink (F.deliver m c)).map fun r =>
          ({ x with sink := r.1, queue := rest }, .sink r.2)
    | .lose n =>
      if n ≤ x.queue.length then some ({ x with queue := x.queue.drop n }, .none) else none

/-- The steps of the machine. -/
@[elab_as_elim]
theorem takes_rec {motive : ∀ e : FeedStep σ ι ω σ' ι' ω' α κ, F.machine.Takes e → Prop}
    (source : ∀ (x : Fed σ σ' α) i o s (_ : M.Takes ⟨x.source, i, o, s⟩) h,
      motive ⟨x, .source i, .source o, { x with source := s, queue := x.queue ++ F.sends o }⟩ h)
    (sink : ∀ (x : Fed σ σ' α) i o s (_ : F.own i = true) (_ : N.Takes ⟨x.sink, i, o, s⟩) h,
      motive ⟨x, .sink i, .sink o, { x with sink := s }⟩ h)
    (deliver : ∀ (a : σ) (b : σ') m rest c o s (_ : N.Takes ⟨b, F.deliver m c, o, s⟩) h,
      motive ⟨⟨a, b, m :: rest⟩, .deliver c, .sink o, ⟨a, s, rest⟩⟩ h)
    (lose : ∀ (x : Fed σ σ' α) n (_ : n ≤ x.queue.length) h,
      motive ⟨x, .lose n, .none, { x with queue := x.queue.drop n }⟩ h)
    (e : FeedStep σ ι ω σ' ι' ω' α κ) (he : F.machine.Takes e) : motive e he := by
  obtain ⟨x, i, o, y⟩ := e
  have hstep := he
  simp only [Takes, machine] at hstep
  cases i with
  | source i =>
    obtain ⟨⟨s, o'⟩, hr, hx⟩ := Option.map_eq_some_iff.1 hstep
    obtain ⟨rfl, rfl⟩ := Prod.mk.inj hx
    exact source x i o' s hr he
  | sink i =>
    dsimp only at hstep
    split_ifs at hstep with hown
    obtain ⟨⟨s, o'⟩, hr, hx⟩ := Option.map_eq_some_iff.1 hstep
    obtain ⟨rfl, rfl⟩ := Prod.mk.inj hx
    exact sink x i o' s hown hr he
  | deliver c =>
    obtain ⟨a, b, queue⟩ := x
    cases queue with
    | nil => cases hstep
    | cons m rest =>
      obtain ⟨⟨s, o'⟩, hr, hx⟩ := Option.map_eq_some_iff.1 hstep
      obtain ⟨rfl, rfl⟩ := Prod.mk.inj hx
      exact deliver a b m rest c o' s hr he
  | lose n =>
    dsimp only at hstep
    split_ifs at hstep with hn
    obtain ⟨rfl, rfl⟩ := Prod.mk.inj (Option.some.inj hstep)
    exact lose x n hn he

/-! ## Who moves -/

/-- The step of the source. -/
def sourceStep (e : FeedStep σ ι ω σ' ι' ω' α κ) : List (Step σ ι ω) :=
  match e.input, e.output with
  | .source i, .source o => [⟨e.pre.source, i, o, e.post.source⟩]
  | _, _ => []

/-- The step of the sink. -/
def sinkStep (e : FeedStep σ ι ω σ' ι' ω' α κ) : List (Step σ' ι' ω') :=
  match e.input, e.output with
  | .sink i, .sink o => [⟨e.pre.sink, i, o, e.post.sink⟩]
  | .deliver c, .sink o =>
    (e.pre.queue.take 1).map fun m => ⟨e.pre.sink, F.deliver m c, o, e.post.sink⟩
  | _, _ => []

/-- The messages that a step of the source sends. -/
def sent (e : FeedStep σ ι ω σ' ι' ω' α κ) : List α := (sourceStep e).flatMap fun e' =>
  F.sends e'.output

variable {F} {x y : Fed σ σ' α} {tr : List (FeedStep σ ι ω σ' ι' ω' α κ)}

/-- A step is one of the source, one of the sink, or one of neither. -/
inductive Moves (F : Feed M N α κ) (e : FeedStep σ ι ω σ' ι' ω' α κ) : Prop
  | source (e' : Step σ ι ω) (_ : M.Takes e') (_ : sourceStep e = [e']) (_ : F.sinkStep e = [])
      (_ : e.output = .source e'.output) (_ : e'.pre = e.pre.source) (_ : e'.post = e.post.source)
      (_ : e.post.sink = e.pre.sink)
  | sink (e' : Step σ' ι' ω') (_ : N.Takes e') (_ : sourceStep e = []) (_ : F.sinkStep e = [e'])
      (_ : e.output = .sink e'.output) (_ : e'.pre = e.pre.sink) (_ : e'.post = e.post.sink)
      (_ : e.post.source = e.pre.source)
  | neither (_ : sourceStep e = []) (_ : F.sinkStep e = []) (_ : e.output = .none)
      (_ : e.post.source = e.pre.source) (_ : e.post.sink = e.pre.sink)

theorem moves {e : FeedStep σ ι ω σ' ι' ω' α κ} (he : F.machine.Takes e) : Moves F e := by
  induction e, he using F.takes_rec with
  | source z i o s hs => exact .source _ hs rfl rfl rfl rfl rfl rfl
  | sink z i o s _ hs => exact .sink _ hs rfl rfl rfl rfl rfl rfl
  | deliver a b m rest c o s hs => exact .sink _ hs rfl rfl rfl rfl rfl rfl
  | lose z n _ => exact .neither rfl rfl rfl rfl rfl

theorem takes_source {i : ι} {o : FeedOutput ω ω'} (h : F.machine.Takes ⟨x, .source i, o, y⟩) :
    ∃ o', o = .source o' ∧ M.Takes ⟨x.source, i, o', y.source⟩ ∧ y.sink = x.sink ∧
      y.queue = x.queue ++ F.sends o' := by
  simp only [Takes, machine] at h
  obtain ⟨⟨s, o'⟩, hr, hx⟩ := Option.map_eq_some_iff.1 h
  obtain ⟨rfl, rfl⟩ := Prod.mk.inj hx
  exact ⟨o', rfl, hr, rfl, rfl⟩

theorem takes_sink {i : ι'} {o : FeedOutput ω ω'} (h : F.machine.Takes ⟨x, .sink i, o, y⟩) :
    ∃ o', o = .sink o' ∧ N.Takes ⟨x.sink, i, o', y.sink⟩ ∧ y.source = x.source ∧
      y.queue = x.queue := by
  simp only [Takes, machine] at h
  split_ifs at h
  obtain ⟨⟨s, o'⟩, hr, hx⟩ := Option.map_eq_some_iff.1 h
  obtain ⟨rfl, rfl⟩ := Prod.mk.inj hx
  exact ⟨o', rfl, hr, rfl, rfl⟩

theorem takes_deliver {c : κ} {o : FeedOutput ω ω'} (h : F.machine.Takes ⟨x, .deliver c, o, y⟩) :
    ∃ m rest o', x.queue = m :: rest ∧ N.Takes ⟨x.sink, F.deliver m c, o', y.sink⟩ := by
  obtain ⟨a, b, queue⟩ := x
  cases queue with
  | nil => cases h
  | cons m rest =>
    simp only [Takes, machine] at h
    obtain ⟨⟨s, o'⟩, hr, hx⟩ := Option.map_eq_some_iff.1 h
    obtain ⟨rfl, rfl⟩ := Prod.mk.inj hx
    exact ⟨m, rest, o', rfl, hr⟩

/-! ## The run of each -/

/-- The steps of the source are a run of it. -/
theorem source_run (h : F.machine.Run x tr y) :
    M.Run x.source (tr.flatMap sourceStep) y.source := by
  refine h.history (H := fun tr y => M.Run x.source (tr.flatMap sourceStep) y.source) (.nil _) ?_
  intro tr e _ he hrun
  rw [List.flatMap_append, List.flatMap_singleton]
  refine hrun.trans ?_
  cases moves he with
  | source e' htake hsource _ _ hpre hpost =>
    rw [hsource, ← hpre, ← hpost]
    exact .single htake
  | sink _ _ hsource _ _ _ _ hsame | neither hsource _ _ hsame =>
    rw [hsource, hsame]
    exact .nil _

/-- The steps of the sink are a run of it. -/
theorem sink_run (h : F.machine.Run x tr y) :
    N.Run x.sink (tr.flatMap F.sinkStep) y.sink := by
  refine h.history (H := fun tr y => N.Run x.sink (tr.flatMap F.sinkStep) y.sink) (.nil _) ?_
  intro tr e _ he hrun
  rw [List.flatMap_append, List.flatMap_singleton]
  refine hrun.trans ?_
  cases moves he with
  | sink e' htake _ hsink _ hpre hpost =>
    rw [hsink, ← hpre, ← hpost]
    exact .single htake
  | source _ _ _ hsink _ _ _ hsame | neither _ hsink _ _ hsame =>
    rw [hsink, hsame]
    exact .nil _

/-! ## What is delivered -/

variable (F) in
/-- The queue, as a channel. -/
def channel : Channel F.machine α where
  queue := Fed.queue
  sent := F.sent
  taken e :=
    match e.input with
    | .deliver _ => 1
    | .lose n => n
    | _ => 0
  taken_le e he := by
    induction e, he using F.takes_rec with
    | source z i o s _ => exact Nat.zero_le _
    | sink z i o s _ _ => exact Nat.zero_le _
    | deliver a b m rest c o s _ => exact Nat.le_add_left 1 rest.length
    | lose z n hn => exact hn
  queue_post e he := by
    induction e, he using F.takes_rec with
    | source z i o s _ => simp [sent, sourceStep]
    | sink z i o s _ _ => simp [sent, sourceStep]
    | deliver a b m rest c o s _ => simp [sent, sourceStep]
    | lose z n _ => simp [sent, sourceStep]

/-- What a step of the sink reads leaves the queue, when it reads the messages and nothing else. -/
theorem reads_step {f : Step σ' ι' ω' → List α}
    (hown : ∀ b i o b', F.own i = true → f ⟨b, i, o, b'⟩ = [])
    (hread : ∀ b m c o b', (f ⟨b, F.deliver m c, o, b'⟩).Sublist [m])
    {e : FeedStep σ ι ω σ' ι' ω' α κ} (he : F.machine.Takes e) :
    ((F.sinkStep e).flatMap f).Sublist (F.channel.left e) := by
  induction e, he using F.takes_rec with
  | source z i o s _ => exact List.nil_sublist _
  | sink z i o s hi _ =>
    rw [show F.sinkStep ⟨z, .sink i, .sink o, _⟩ = [⟨z.sink, i, o, s⟩] from rfl,
      List.flatMap_singleton, hown _ _ _ _ hi]
    exact List.nil_sublist _
  | deliver a b m rest c o s _ =>
    rw [show F.sinkStep ⟨⟨a, b, m :: rest⟩, .deliver c, .sink o, ⟨a, s, rest⟩⟩ =
      [⟨b, F.deliver m c, o, s⟩] from rfl, List.flatMap_singleton]
    exact hread b m c o s
  | lose z n _ => exact List.nil_sublist _

/-- **In order, and at most once.** A sink that reads its messages, and perhaps not all of them,
reads messages that were sent, in the order of sending and each at most once; and those in flight
were sent after them. -/
theorem reads_run {f : Step σ' ι' ω' → List α}
    (hown : ∀ b i o b', F.own i = true → f ⟨b, i, o, b'⟩ = [])
    (hread : ∀ b m c o b', (f ⟨b, F.deliver m c, o, b'⟩).Sublist [m])
    (h : F.machine.Run x tr y) :
    ((tr.flatMap F.sinkStep).flatMap f ++ y.queue).Sublist (x.queue ++ tr.flatMap F.sent) := by
  have hall : tr.flatMap F.channel.left ++ y.queue = x.queue ++ tr.flatMap F.sent :=
    F.channel.left_append_queue h
  rw [← hall]
  refine List.Sublist.append ?_ (List.Sublist.refl _)
  have htakes := h.takes
  clear h hall
  induction tr with
  | nil => exact List.Sublist.refl _
  | cons e tr ih =>
    rw [List.flatMap_cons, List.flatMap_append, List.flatMap_cons]
    exact (reads_step hown hread (htakes e (by simp))).append
      (ih fun e' he' => htakes e' (List.mem_cons_of_mem _ he'))

end Feed

end Reactive
