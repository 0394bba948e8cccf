import MonaRobot.Control.TwistMux
import MonaRobot.Foundations.LossyFifo
import MonaRobot.Safety.EstopLatch

/-!
# The multiplexer and the safety node, connected

`SafetyLink.events` is the machine of an active multiplexer and an active safety node with the two
topics between them: `mux_state`, from the multiplexer to the safety node, and `safety_state`, back.
What a callback publishes on them is queued; a delivery takes the oldest message. A history queue
that is full drops its oldest messages for a newer one, so older messages may be lost at any time
and the newest in flight never is. All other messages and requests come from elsewhere, at any time.

`SafetyLink.blocking` is the block flag of the multiplexer as the follower of `safety_state`.
-/

namespace MonaRobot

open Reactive

namespace SafetyNode

variable {V : Type}

/-- The messages on `safety_state`. -/
def safetyStates (o : List (SafetyOutput V)) : List UInt8 :=
  o.filterMap fun
    | .safetyState currentState _ => some currentState
    | _ => none

/-- A message or a request from elsewhere: no lifecycle transition, and not from the multiplexer. -/
def fromElsewhere : SafetyEvent V → Bool
  | .smoothedVel _ | .healthState _ | .odom _ | .estop | .estopReset => true
  | _ => false

theorem mem_safetyStates {o : List (SafetyOutput V)} {b : UInt8} :
    b ∈ safetyStates o ↔ ∃ message, .safetyState b message ∈ o := by
  rw [safetyStates, List.mem_filterMap]
  constructor
  · rintro ⟨a, ha, hb⟩
    cases a with
    | safetyState c message =>
      obtain rfl := Option.some.inj hb
      exact ⟨message, ha⟩
    | _ => cases hb
  · rintro ⟨message, h⟩
    exact ⟨_, h, rfl⟩

end SafetyNode

namespace TwistMuxNode

variable {V : Type}

/-- The messages on `mux_state`. -/
def muxStates (o : List (MuxOutput V)) : List UInt8 :=
  o.filterMap fun
    | .muxState currentState => some currentState
    | _ => none

/-- A message from elsewhere than the safety node, or the timer. -/
def fromElsewhere : MuxEvent V → Bool
  | .safetyState _ _ => false
  | _ => true

end TwistMuxNode

/-- The two nodes and the messages in flight between them, the oldest first. -/
structure SafetyLink (V : Type) where
  safety : SafetyNode
  mux : Clocked (TwistMuxNode V)
  muxStates : List UInt8
  safetyStates : List UInt8

/-- An event at one of the nodes, a delivery, or the loss of older messages. -/
inductive LinkEvent (V : Type)
  | mux (i : MuxEvent V)
  | safety (i : SafetyEvent V)
  | deliverMuxState
  | deliverSafetyState (now : Time)
  | loseMuxStates (n : ℕ)
  | loseSafetyStates (n : ℕ)
  deriving DecidableEq

/-- What the two nodes send in a step. -/
structure LinkOutput (V : Type) where
  safety : List (SafetyOutput V)
  mux : List (MuxOutput V)

namespace SafetyLink

variable {V : Type} [VelocityScalar V]

/-! ## The machine -/

/-- The safety node handles an event. -/
def safetyHandles (x : SafetyLink V) (i : SafetyEvent V) : SafetyLink V × LinkOutput V :=
  let r := x.safety.handle i
  ({ x with safety := r.1, safetyStates := x.safetyStates ++ SafetyNode.safetyStates r.2 },
    ⟨r.2, []⟩)

/-- The multiplexer handles an event, if it can. -/
def muxHandles (x : SafetyLink V) (i : MuxEvent V) : Option (SafetyLink V × LinkOutput V) :=
  (TwistMuxNode.events.step x.mux i).map fun r =>
    ({ x with mux := r.1, muxStates := x.muxStates ++ TwistMuxNode.muxStates r.2 }, ⟨[], r.2⟩)

def events : Machine (SafetyLink V) (LinkEvent V) (LinkOutput V) where
  step x
    | .mux i => if TwistMuxNode.fromElsewhere i then x.muxHandles i else none
    | .safety i => if SafetyNode.fromElsewhere i then some (x.safetyHandles i) else none
    | .deliverMuxState =>
      match x.muxStates with
      | [] => none
      | msg :: rest => some (safetyHandles { x with muxStates := rest } (.muxState msg))
    | .deliverSafetyState now =>
      match x.safetyStates with
      | [] => none
      | msg :: rest => muxHandles { x with safetyStates := rest } (.safetyState now msg)
    | .loseMuxStates n =>
      if n < x.muxStates.length then
        some ({ x with muxStates := x.muxStates.drop n }, ⟨[], []⟩)
      else none
    | .loseSafetyStates n =>
      if n < x.safetyStates.length then
        some ({ x with safetyStates := x.safetyStates.drop n }, ⟨[], []⟩)
      else none

/-- A step of the two nodes. -/
abbrev LinkStep (V : Type) := Step (SafetyLink V) (LinkEvent V) (LinkOutput V)

/-- The steps of the machine, one case for each event. -/
@[elab_as_elim]
theorem takes_rec {motive : ∀ e : LinkStep V, events.Takes e → Prop}
    (mux : ∀ (x : SafetyLink V) i o m (_ : TwistMuxNode.fromElsewhere i = true)
      (_ : TwistMuxNode.events.Takes ⟨x.mux, i, o, m⟩) h, motive ⟨x, .mux i, ⟨[], o⟩,
        { x with mux := m, muxStates := x.muxStates ++ TwistMuxNode.muxStates o }⟩ h)
    (safety : ∀ (x : SafetyLink V) i (_ : SafetyNode.fromElsewhere i = true) h,
      motive ⟨x, .safety i, (x.safetyHandles i).2, (x.safetyHandles i).1⟩ h)
    (deliverMuxState : ∀ (x : SafetyLink V) msg rest (_ : x.muxStates = msg :: rest) h,
      motive ⟨x, .deliverMuxState,
        (safetyHandles { x with muxStates := rest } (.muxState msg)).2,
        (safetyHandles { x with muxStates := rest } (.muxState msg)).1⟩ h)
    (deliverSafetyState : ∀ (x : SafetyLink V) now msg rest o m
      (_ : x.safetyStates = msg :: rest)
      (_ : TwistMuxNode.events.Takes ⟨x.mux, .safetyState now msg, o, m⟩) h,
      motive ⟨x, .deliverSafetyState now, ⟨[], o⟩,
        { x with
          mux := m
          muxStates := x.muxStates ++ TwistMuxNode.muxStates o
          safetyStates := rest }⟩ h)
    (loseMuxStates : ∀ (x : SafetyLink V) n (_ : n < x.muxStates.length) h,
      motive ⟨x, .loseMuxStates n, ⟨[], []⟩, { x with muxStates := x.muxStates.drop n }⟩ h)
    (loseSafetyStates : ∀ (x : SafetyLink V) n (_ : n < x.safetyStates.length) h,
      motive ⟨x, .loseSafetyStates n, ⟨[], []⟩,
        { x with safetyStates := x.safetyStates.drop n }⟩ h)
    (e : LinkStep V) (he : events.Takes e) : motive e he := by
  obtain ⟨x, i, o, y⟩ := e
  have hstep := he
  simp only [Machine.Takes, events] at hstep
  cases i with
  | mux i =>
    dsimp only at hstep
    split_ifs at hstep with hi
    obtain ⟨⟨m, o'⟩, hm, hr⟩ := Option.map_eq_some_iff.1 hstep
    obtain ⟨rfl, rfl⟩ := Prod.mk.inj hr
    exact mux x i o' m hi hm he
  | safety i =>
    dsimp only at hstep
    split_ifs at hstep with hi
    obtain ⟨rfl, rfl⟩ := Prod.mk.inj (Option.some.inj hstep)
    exact safety x i hi he
  | deliverMuxState =>
    cases hq : x.muxStates with
    | nil => simp [hq] at hstep
    | cons msg rest =>
      rw [hq] at hstep
      obtain ⟨rfl, rfl⟩ := Prod.mk.inj (Option.some.inj hstep)
      exact deliverMuxState x msg rest hq he
  | deliverSafetyState now =>
    cases hq : x.safetyStates with
    | nil => simp [hq] at hstep
    | cons msg rest =>
      rw [hq] at hstep
      obtain ⟨⟨m, o'⟩, hm, hr⟩ := Option.map_eq_some_iff.1 hstep
      obtain ⟨rfl, rfl⟩ := Prod.mk.inj hr
      exact deliverSafetyState x now msg rest o' m hq hm he
  | loseMuxStates n =>
    dsimp only at hstep
    split_ifs at hstep with hn
    obtain ⟨rfl, rfl⟩ := Prod.mk.inj (Option.some.inj hstep)
    exact loseMuxStates x n hn he
  | loseSafetyStates n =>
    dsimp only at hstep
    split_ifs at hstep with hn
    obtain ⟨rfl, rfl⟩ := Prod.mk.inj (Option.some.inj hstep)
    exact loseSafetyStates x n hn he

/-- What a step is for the safety node: nothing, or a step of its own on a message. -/
theorem safety_step {e : LinkStep V} (he : events.Takes e) :
    (e.post.safety = e.pre.safety ∧ e.output.safety = [] ∧ e.input ≠ .deliverMuxState) ∨
    ∃ i, (SafetyNode.events V).Takes ⟨e.pre.safety, i, e.output.safety, e.post.safety⟩ ∧
      (SafetyNode.fromElsewhere i = true ∧ e.input = .safety i ∨
        (∃ msg, i = .muxState msg) ∧ e.input = .deliverMuxState) := by
  induction e, he using takes_rec with
  | safety x i hi =>
    exact Or.inr ⟨i, SafetyNode.takes_handle _ _, Or.inl ⟨hi, rfl⟩⟩
  | deliverMuxState x msg rest hq =>
    exact Or.inr ⟨_, SafetyNode.takes_handle _ _, Or.inr ⟨⟨msg, rfl⟩, rfl⟩⟩
  | _ => exact Or.inl ⟨rfl, rfl, by simp⟩

/-- What a step is for the multiplexer: nothing, or a step of its own on a message. -/
theorem mux_step {e : LinkStep V} (he : events.Takes e) :
    (e.post.mux = e.pre.mux ∧ e.output.mux = [] ∧ ∀ i, e.input ≠ .mux i) ∨
    ∃ i, TwistMuxNode.events.Takes ⟨e.pre.mux, i, e.output.mux, e.post.mux⟩ ∧
      (e.input = .mux i ∨
        ∃ now msg, e.input = .deliverSafetyState now ∧ i = .safetyState now msg) := by
  induction e, he using takes_rec with
  | mux x i o m hi hm => exact Or.inr ⟨i, hm, Or.inl rfl⟩
  | deliverSafetyState x now msg rest o m hq hm =>
    exact Or.inr ⟨_, hm, Or.inr ⟨now, msg, rfl, rfl⟩⟩
  | _ => exact Or.inl ⟨rfl, rfl, by simp⟩

/-! ## The block flag follows the safety state -/

/-- How many messages on `safety_state` a step delivers or loses. -/
def safetyStatesTaken (e : LinkStep V) : ℕ :=
  match e.input with
  | .deliverSafetyState _ => 1
  | .loseSafetyStates n => n
  | _ => 0

/-- An event from elsewhere does not write the e-stop flag of the multiplexer. -/
theorem isEstopBlocked_step {e : TwistMuxNode.MuxStep V} (he : TwistMuxNode.events.Takes e)
    (hi : TwistMuxNode.fromElsewhere e.input = true) :
    e.post.node.isEstopBlocked = e.pre.node.isEstopBlocked := by
  rcases TwistMuxNode.blockFlags_step he with ⟨now, msg, -, h⟩ | ⟨now, msg, hin, -⟩ | ⟨-, -, h, -⟩
  · rw [h]
    rfl
  · rw [hin] at hi
    cases hi
  · exact h

theorem isEstopBlocked_deliver {x y : Clocked (TwistMuxNode V)} {now : Time} {msg : UInt8}
    {o : List (MuxOutput V)} (he : TwistMuxNode.events.Takes ⟨x, .safetyState now msg, o, y⟩) :
    y.node.isEstopBlocked = decide (msg = SafetyStateMsg.emergency) := by
  rcases TwistMuxNode.blockFlags_step he with ⟨_, _, h, -⟩ | ⟨_, _, h, hy⟩ | ⟨h, -⟩
  · cases h
  · cases h
    rw [hy]
    rfl
  · exact absurd rfl (h now msg)

/-- `is_estop_blocked_` as the follower of `safety_state`. -/
def blocking (V : Type) [VelocityScalar V] : Follower (events (V := V)) UInt8 Bool where
  queue x := x.safetyStates
  sent e := SafetyNode.safetyStates e.output.safety
  taken := safetyStatesTaken
  value x := x.mux.node.isEstopBlocked
  read msg := decide (msg = SafetyStateMsg.emergency)
  taken_le e he := by
    induction e, he using takes_rec with
    | deliverSafetyState x now msg rest o m hq => simp [safetyStatesTaken, hq]
    | loseSafetyStates x n hn => exact hn.le
    | _ => exact Nat.zero_le _
  queue_post e he := by
    induction e, he using takes_rec with
    | deliverSafetyState x now msg rest o m hq =>
      simp [safetyStatesTaken, hq, SafetyNode.safetyStates]
    | loseSafetyStates x n hn => simp [safetyStatesTaken, SafetyNode.safetyStates]
    | mux x i o m => simp [safetyStatesTaken, SafetyNode.safetyStates]
    | loseMuxStates x n hn => simp [safetyStatesTaken, SafetyNode.safetyStates]
    | safety x i => rfl
    | deliverMuxState x msg rest hq => rfl
  follows e he := by
    induction e, he using takes_rec with
    | deliverSafetyState x now msg rest o m hq hm =>
      exact Or.inl ⟨msg, rest, hq, rfl, isEstopBlocked_deliver hm⟩
    | loseSafetyStates x n hn => exact Or.inr ⟨rfl, Or.inr hn⟩
    | mux x i o m hi hm => exact Or.inr ⟨isEstopBlocked_step hm hi, Or.inl rfl⟩
    | loseMuxStates x n hn => exact Or.inr ⟨rfl, Or.inl rfl⟩
    | safety x i => exact Or.inr ⟨rfl, Or.inl rfl⟩
    | deliverMuxState x msg rest hq => exact Or.inr ⟨rfl, Or.inl rfl⟩

end SafetyLink

end MonaRobot
