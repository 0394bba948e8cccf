import MonaRobot.Foundations.Pool
import MonaRobot.Control.TwistMux

/-!
# Concurrent block callbacks

`fdir_state_callback` and `safety_state_callback` run in one reentrant group and take no lock, so
any number of them overlap. Each writes its own cause, reads the two causes and writes the merged
flag, and each of these accesses is a step of its own.

An older result can be stored after a newer one: `lostBlock_unmerged` ends with a health state that
does not block, an e-stop that does, and an unblocked multiplexer. The merged flag is right whenever
no callback is in progress, as long as no cause is written while another callback holds a result
that is then outdated (`merged_unless_outdated`).
-/

namespace MonaRobot

open Reactive

/-- A message for one of the two callbacks. -/
inductive BlockMessage
  | fdirState (currentState : UInt8)
  | safetyState (currentState : UInt8)
  deriving DecidableEq

/-- A callback in progress that has written its cause, by its next access: it reads the causes in
this order, the second one only if the first is unset, and writes what it read. -/
inductive BlockCallback
  | loadFdirBlocked
  | loadEstopBlocked
  | storeSafetyBlocked (value : Bool)
  deriving DecidableEq

namespace BlockCallback

/-- The accesses that are left. -/
def left : BlockCallback → ℕ
  | loadFdirBlocked => 3
  | loadEstopBlocked => 2
  | storeSafetyBlocked _ => 1

/-- With these causes, the callback would not store their disjunction, if nothing else is written.
-/
def Outdated (fdir estop : Bool) : BlockCallback → Prop
  | loadFdirBlocked => False
  | loadEstopBlocked => fdir = true ∧ estop = false
  | storeSafetyBlocked value => value ≠ (fdir || estop)

instance (fdir estop : Bool) : DecidablePred (Outdated fdir estop)
  | loadFdirBlocked => inferInstanceAs (Decidable False)
  | loadEstopBlocked => inferInstanceAs (Decidable (_ ∧ _))
  | storeSafetyBlocked _ => inferInstanceAs (Decidable (_ ≠ _))

end BlockCallback

namespace TwistMuxNode

variable {V : Type}

/-- The callbacks that write the merged flag, access by access. Each begins with the write of its
cause; `is_degraded_`, which `fdir_state_callback` writes just before, is not read by either. -/
def blockCallbacks : Handlers (TwistMuxNode V) BlockMessage BlockCallback Unit Empty where
  begin s
    | .fdirState msg =>
      ({ s with
          isDegraded := decide (msg = FdirState.stateDegraded)
          isFdirBlocked := fdirBlocks msg }, some .loadFdirBlocked, [])
    | .safetyState msg => ({ s with isEstopBlocked := estopBlocks msg }, some .loadFdirBlocked, [])
  resume s t _ :=
    match t with
    | .loadFdirBlocked =>
      -- the second operand of `||` is not read when the first one is true
      (s, some (if s.isFdirBlocked then .storeSafetyBlocked true else .loadEstopBlocked), [])
    | .loadEstopBlocked => (s, some (.storeSafetyBlocked s.isEstopBlocked), [])
    | .storeSafetyBlocked value => ({ s with isSafetyBlocked := value }, none, [])

@[simp] theorem resume_loadFdirBlocked (s : TwistMuxNode V) (r : Unit) :
    blockCallbacks.resume s .loadFdirBlocked r =
      (s, some (if s.isFdirBlocked then .storeSafetyBlocked true else .loadEstopBlocked), []) := rfl

@[simp] theorem resume_loadEstopBlocked (s : TwistMuxNode V) (r : Unit) :
    blockCallbacks.resume s .loadEstopBlocked r =
      (s, some (.storeSafetyBlocked s.isEstopBlocked), []) := rfl

@[simp] theorem resume_storeSafetyBlocked (s : TwistMuxNode V) (value : Bool) (r : Unit) :
    blockCallbacks.resume s (.storeSafetyBlocked value) r =
      ({ s with isSafetyBlocked := value }, none, []) := rfl

/-- Any number of the two callbacks, in any interleaving. -/
def blockRace : Machine (Pool (TwistMuxNode V) BlockCallback) (PoolInput BlockMessage Unit)
    (List Empty) :=
  blockCallbacks.pool

/-- A step of the callbacks. -/
abbrev BlockStep (V : Type) := PoolStep (TwistMuxNode V) BlockMessage BlockCallback Unit Empty

/-- A callback has a result in hand that the causes do not give. -/
def Outdated (s : TwistMuxNode V) (t : BlockCallback) : Prop :=
  t.Outdated s.isFdirBlocked s.isEstopBlocked

instance (s : TwistMuxNode V) : DecidablePred s.Outdated :=
  inferInstanceAs (DecidablePred (BlockCallback.Outdated _ _))

/-- A message changes its cause while a callback in progress has a result in hand that is not the
disjunction of the causes any more. -/
def Outdates (e : BlockStep V) : Prop :=
  match e.input with
  | .start (.fdirState msg) =>
    ∃ t ∈ e.pre.live, t.Outdated (fdirBlocks msg) e.pre.shared.isEstopBlocked
  | .start (.safetyState msg) =>
    ∃ t ∈ e.pre.live, t.Outdated e.pre.shared.isFdirBlocked (estopBlocks msg)
  | .resume _ _ => False

instance : DecidablePred (Outdates (V := V))
  | ⟨_, .start (.fdirState _), _, _⟩ => inferInstanceAs (Decidable (∃ t ∈ _, _))
  | ⟨_, .start (.safetyState _), _, _⟩ => inferInstanceAs (Decidable (∃ t ∈ _, _))
  | ⟨_, .resume _ _, _, _⟩ => inferInstanceAs (Decidable False)

/-! ## One callback at a time -/

/-- The causes are read and their disjunction is written. -/
theorem merge_alone (s : TwistMuxNode V) : blockCallbacks.Alone s (some .loadFdirBlocked)
    { s with isSafetyBlocked := s.isFdirBlocked || s.isEstopBlocked } [] := by
  have hstore : ∀ value, blockCallbacks.Alone s (some (.storeSafetyBlocked value))
      { s with isSafetyBlocked := value } [] := fun value => .resume () (.ended _)
  refine .resume (o := []) () ?_
  cases hf : s.isFdirBlocked with
  | true => simpa [hf] using hstore true
  | false =>
    have hload : blockCallbacks.Alone s (some .loadEstopBlocked)
        { s with isSafetyBlocked := s.isEstopBlocked } [] := .resume () (hstore s.isEstopBlocked)
    simpa [hf] using hload

/-- On its own, `fdir_state_callback` is the one of the node. -/
theorem fdirState_alone (s : TwistMuxNode V) (msg : UInt8) :
    ∃ tr, blockRace.Run ⟨s, []⟩ tr ⟨s.fdirStateCallback msg, []⟩ := by
  obtain ⟨tr, hrun, -⟩ := (merge_alone _).run (H := blockCallbacks) (a := s) (i := .fdirState msg)
  exact ⟨tr, hrun⟩

/-- On its own, `safety_state_callback` is the one of the node. -/
theorem safetyState_alone (s : TwistMuxNode V) (msg : UInt8) :
    ∃ tr, blockRace.Run ⟨s, []⟩ tr ⟨s.safetyStateCallback msg, []⟩ := by
  obtain ⟨tr, hrun, -⟩ := (merge_alone _).run (H := blockCallbacks) (a := s) (i := .safetyState msg)
  exact ⟨tr, hrun⟩

/-! ## No cause is written under a callback in progress -/

instance (s : TwistMuxNode V) : Decidable s.Merged := inferInstanceAs (Decidable (_ = _))

/-- No callback in progress is outdated; without any, the flag is right. -/
def Fresh (x : Pool (TwistMuxNode V) BlockCallback) : Prop :=
  (∀ t ∈ x.live, ¬ x.shared.Outdated t) ∧ (x.live = [] → x.shared.Merged)

/-- A callback that begins is not outdated. -/
theorem fresh_start {a : TwistMuxNode V} {live : List BlockCallback}
    (h : ∀ t ∈ live, ¬ a.Outdated t) : Fresh ⟨a, live ++ [.loadFdirBlocked]⟩ := by
  refine ⟨?_, by simp⟩
  rintro t ht
  rcases List.mem_append.1 ht with ht | ht
  · exact h t ht
  · rw [List.mem_singleton.1 ht]
    exact not_false

/-- A callback that reads a cause is not outdated by it, and leaves the others as they are. -/
theorem fresh_load {a : TwistMuxNode V} {before after : List BlockCallback} {t u : BlockCallback}
    (h : Fresh ⟨a, before ++ t :: after⟩) (hu : ¬ a.Outdated u) :
    Fresh ⟨a, before ++ [u] ++ after⟩ :=
  ⟨Handlers.forall_resumed h.1 (by simpa using hu), by simp⟩

theorem fresh_step {e : BlockStep V} (he : blockRace.Takes e) (hno : ¬ Outdates e)
    (h : Fresh e.pre) : Fresh e.post := by
  induction e, he using Handlers.pool_rec with
  | start a live i he =>
    cases i with
    | fdirState msg => exact fresh_start fun t ht hout => hno ⟨t, ht, hout⟩
    | safetyState msg => exact fresh_start fun t ht hout => hno ⟨t, ht, hout⟩
  | resume a before t after r he =>
    have ht : ¬ a.Outdated t := h.1 t (by simp)
    cases t with
    | loadFdirBlocked =>
      refine fresh_load (a := a) h ?_
      cases hf : a.isFdirBlocked <;> simp [Outdated, BlockCallback.Outdated, hf]
    | loadEstopBlocked =>
      refine fresh_load (a := a) h ?_
      simp only [Outdated, BlockCallback.Outdated, not_and, Bool.not_eq_false] at ht
      cases hf : a.isFdirBlocked
      · simp [Outdated, BlockCallback.Outdated, hf]
      · simp [Outdated, BlockCallback.Outdated, hf, ht hf]
    | storeSafetyBlocked value =>
      -- what is stored is the disjunction, and the causes are as before
      exact ⟨Handlers.forall_resumed (P := fun u => ¬ a.Outdated u) h.1 (by simp),
        fun _ => not_not.1 ht⟩

/-! ## A cause is written under a callback in progress -/

/-- The causes are these. -/
def Causes (fdir estop : Bool) (s : TwistMuxNode V) : Prop :=
  s.isFdirBlocked = fdir ∧ s.isEstopBlocked = estop

/-- Any of the callbacks in progress can end while the others wait, and the causes stay. -/
theorem causes_settle {fdir estop : Bool} {a : TwistMuxNode V} (l₁ live l₂ : List BlockCallback)
    (ha : Causes fdir estop a) : ∃ tr b, blockRace.Run ⟨a, l₁ ++ live ++ l₂⟩ tr ⟨b, l₁ ++ l₂⟩ ∧
      Causes fdir estop b ∧ ∀ e ∈ tr, ∃ k r, e.input = .resume k r := by
  refine Handlers.settle (Q := fun _ => True) (m := BlockCallback.left) (fun a t ha _ => ?_) l₁
    l₂ ha fun _ _ => trivial
  refine ⟨(), ?_⟩
  cases t with
  | loadFdirBlocked =>
    refine ⟨ha, fun u hu => ⟨trivial, ?_⟩⟩
    cases hf : a.isFdirBlocked <;> simp [hf] at hu <;> subst hu <;> decide
  | loadEstopBlocked =>
    refine ⟨ha, fun u hu => ⟨trivial, ?_⟩⟩
    simp only [resume_loadEstopBlocked, Option.mem_some_iff] at hu
    simp [← hu, BlockCallback.left]
  | storeSafetyBlocked value => exact ⟨ha, fun u hu => by simp at hu⟩

/-- An outdated callback that is alone ends with the wrong flag. -/
theorem outdated_alone {a : TwistMuxNode V} {t : BlockCallback} (h : a.Outdated t) :
    ∃ b, blockCallbacks.Alone a (some t) b [] ∧ ¬ b.Merged := by
  cases t with
  | loadFdirBlocked => exact h.elim
  | loadEstopBlocked =>
    obtain ⟨hf, he⟩ := h
    refine ⟨_, .resume () (.resume () (.ended _)), ?_⟩
    simp [Merged, hf, he]
  | storeSafetyBlocked value => exact ⟨_, .resume () (.ended _), h⟩

/-- A message that outdates a callback in progress can be followed by an end of all of them that
leaves the flag wrong: the outdated callback stores its result last. -/
theorem outdates_unmerged {e : BlockStep V} (he : blockRace.Takes e) (ho : Outdates e) :
    ∃ tr b, blockRace.Run e.post tr ⟨b, []⟩ ∧ ¬ b.Merged ∧
      ∀ e' ∈ tr, ∃ k r, e'.input = .resume k r := by
  obtain ⟨a, live, ha, t, ht, hout⟩ : ∃ a live, e.post = ⟨a, live⟩ ∧ ∃ t ∈ live, a.Outdated t := by
    induction e, he using Handlers.pool_rec with
    | start a live i he =>
      cases i with
      | fdirState msg =>
        obtain ⟨t, ht, hout⟩ := ho
        exact ⟨_, _, rfl, t, List.mem_append_left _ ht, hout⟩
      | safetyState msg =>
        obtain ⟨t, ht, hout⟩ := ho
        exact ⟨_, _, rfl, t, List.mem_append_left _ ht, hout⟩
    | resume a before t after r he => exact ho.elim
  rw [ha]
  obtain ⟨before, after, rfl⟩ := List.append_of_mem ht
  -- first the callbacks after it, then those before it
  obtain ⟨tr₁, b₁, h₁, hb₁, hin₁⟩ := causes_settle (before ++ [t]) after []
    (show Causes a.isFdirBlocked a.isEstopBlocked a from ⟨rfl, rfl⟩)
  obtain ⟨tr₂, b₂, h₂, hb₂, hin₂⟩ := causes_settle [] before [t] hb₁
  have hout' : b₂.Outdated t := by
    rw [Outdated, hb₂.1, hb₂.2]
    exact hout
  obtain ⟨b, halone, hb⟩ := outdated_alone hout'
  obtain ⟨tr₃, h₃, hin₃, -⟩ := halone.resumed [] []
  refine ⟨tr₁ ++ (tr₂ ++ tr₃), b, ?_, hb, ?_⟩
  · simp only [List.append_assoc, List.singleton_append, List.append_nil, List.nil_append,
      Option.toList_some] at h₁ h₂ h₃
    exact h₁.trans (h₂.trans h₃)
  · simp only [List.forall_mem_append]
    exact ⟨hin₁, hin₂, hin₃⟩

/-! ## Runs -/

/-- **No lost block.** While no message outdates a callback in progress, the merged flag is the
disjunction of the causes whenever no callback is in progress; and every message that does can lead
to a wrong flag, with no further message. -/
theorem merged_unless_outdated {s : TwistMuxNode V} {tr : List (BlockStep V)}
    {t : Pool (TwistMuxNode V) BlockCallback} (hs : s.Merged) (h : blockRace.Run ⟨s, []⟩ tr t) :
    ((∀ e ∈ tr, ¬ Outdates e) →
      ∀ x, Machine.Visited ⟨s, []⟩ tr x → x.live = [] → x.shared.Merged) ∧
    ∀ e ∈ tr, Outdates e → ∃ tr' b, blockRace.Run e.post tr' ⟨b, []⟩ ∧ ¬ b.Merged ∧
      ∀ e' ∈ tr', ∃ k r, e'.input = .resume k r := by
  constructor
  · intro hno x hx hidle
    have h₀ : Fresh ⟨s, []⟩ := ⟨by simp, fun _ => hs⟩
    have hfresh : Fresh x :=
      h.invariant_visited h₀ hno (fun _ he hc hi => fresh_step he hc hi) x hx
    exact hfresh.2 hidle
  · intro e he ho
    exact outdates_unmerged (h.takes e he) ho

/-- A health state that does not block has been read, and its result is not yet stored, when an
e-stop arrives and is merged. -/
def lostBlock : List (PoolInput BlockMessage Unit) :=
  [.start (.fdirState FdirState.stateSoftwareOk), .resume 0 (), .resume 0 (),
    .start (.safetyState SafetyStateMsg.emergency), .resume 1 (), .resume 1 (), .resume 1 (),
    .resume 0 ()]

/-- The e-stop is lost: all callbacks have ended, and the multiplexer is not blocked. -/
theorem lostBlock_unmerged : ¬ ∀ (s : TwistMuxNode ℚ) (tr : List (BlockStep ℚ))
    (t : Pool (TwistMuxNode ℚ) BlockCallback), s.Merged → blockRace.Run ⟨s, []⟩ tr t →
      t.live = [] → t.shared.Merged := by
  intro h
  have hrun := blockRace.run_trace (⟨configured, []⟩ : Pool (TwistMuxNode ℚ) BlockCallback)
    lostBlock (by decide +kernel)
  have hlost : ¬ (blockRace.final (⟨configured, []⟩ : Pool (TwistMuxNode ℚ) BlockCallback)
      lostBlock).shared.Merged := by decide +kernel
  exact hlost (h _ _ _ (by decide +kernel) hrun (by decide +kernel))

/-- The same messages, the second one after the first has ended. -/
def keptBlock : List (PoolInput BlockMessage Unit) :=
  [.start (.fdirState FdirState.stateSoftwareOk), .resume 0 (), .resume 0 (), .resume 0 (),
    .start (.safetyState SafetyStateMsg.emergency), .resume 0 (), .resume 0 (), .resume 0 ()]

theorem merged_unless_outdated_keptBlock :
    (blockRace.final (⟨configured, []⟩ : Pool (TwistMuxNode ℚ) BlockCallback)
      keptBlock).shared.Merged := by
  have hrun := blockRace.run_trace (⟨configured, []⟩ : Pool (TwistMuxNode ℚ) BlockCallback)
    keptBlock (by decide +kernel)
  exact (merged_unless_outdated (by decide +kernel) hrun).1 (by decide +kernel) _ hrun.visited_last
    (by decide +kernel)

end TwistMuxNode

end MonaRobot
