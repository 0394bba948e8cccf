import MonaRobot.Control.BlockRace
import MonaRobot.Control.ManualPriority
import MonaRobot.Foundations.Refinement

/-!
# Callbacks of the multiplexer that overlap

All callbacks of the multiplexer run in one reentrant group. `teleop_callback`, `nav_callback` and
`control_loop` lock `mux_mutex_`, so at most one of them is past its lock; the two callbacks of the
block messages lock nothing, and write the flags while another callback is in the middle of its
section. A section reads `is_safety_blocked_` once and, in a tick, `is_degraded_` later, so it may
see the flags of two different moments.

`lockedEvents` is the machine of them all, from access to access. It refines the machine of the
callbacks that run as one step each: every run has the outputs of a sequential run of the same
commands and ticks, in the order in which they took the mutex, with block messages in between that
set the flags to what was read (`locked_refines`). So what holds of every sequential run holds of
the overlapping callbacks too, as the manual priority does (`manual_priority_locked`).
-/

namespace MonaRobot

open Reactive

/-- A callback of a block message in progress, by its next access. `is_degraded_` is written by the
first one, before the cause. -/
inductive FlagCallback
  | storeFdirBlocked (value : Bool)
  | merge (t : BlockCallback)
  deriving DecidableEq

/-- A callback that holds the mutex: it has entered and goes on with the test of
`is_safety_blocked_`; it is a command that the test has not dropped; it is a tick that has selected
its target and goes on with the read of `is_degraded_`. -/
inductive LockedSection (V : Type)
  | entered (i : MuxEvent V)
  | accepted (i : MuxEvent V)
  | selected (now : Time)

/-- The node, the callback that holds the mutex, and the callbacks of block messages in progress. -/
structure LockedMux (V : Type) where
  clock : Time
  node : TwistMuxNode V
  holder : Option (LockedSection V)
  live : List FlagCallback

/-- A callback takes the mutex, its holder goes on, or a callback of a block message does. -/
inductive LockedInput (V : Type)
  | enter (i : MuxEvent V)
  | proceed
  | flags (i : PoolInput BlockMessage Unit)

namespace TwistMuxNode

variable {V : Type}

/-! ## The callbacks, access by access -/

/-- The callbacks of the block messages. -/
def flagCallbacks : Handlers (TwistMuxNode V) BlockMessage FlagCallback Unit Empty where
  begin s
    | .fdirState msg =>
      ({ s with isDegraded := decide (msg = FdirState.stateDegraded) },
        some (.storeFdirBlocked (fdirBlocks msg)), [])
    | .safetyState msg =>
      ({ s with isEstopBlocked := estopBlocks msg }, some (.merge .loadFdirBlocked), [])
  resume s t _ :=
    match t with
    | .storeFdirBlocked value =>
      ({ s with isFdirBlocked := value }, some (.merge .loadFdirBlocked), [])
    | .merge t =>
      let r := blockCallbacks.resume s t ()
      (r.1, r.2.1.map .merge, r.2.2)

/-- The event is a callback that takes the mutex; a tick returns before it takes it when its
publisher is inactive. -/
def takesLock (s : TwistMuxNode V) : MuxEvent V → Bool
  | .teleop .. | .nav .. => true
  | .controlLoop _ => s.smoothPub.isActivated
  | .fdirState .. | .safetyState .. => false

variable [VelocityScalar V]

/-- The holder of the mutex goes on to its next access; it may still hold the mutex then. -/
def proceed (s : TwistMuxNode V) : LockedSection V →
    Except String (TwistMuxNode V × Option (LockedSection V) × List (MuxOutput V))
  | .entered (.controlLoop now) =>
    (s.selectTarget now).map fun s' => (s', some (.selected now), s'.publishState)
  | .entered i => .ok (s, if s.listens then some (.accepted i) else none, [])
  | .accepted (.teleop now serverReady msg) =>
    .ok ((s.acceptTeleop now serverReady msg).1, none, (s.acceptTeleop now serverReady msg).2)
  | .accepted (.nav stamp now msg) => .ok (s.acceptNav stamp now msg, none, [])
  | .accepted _ => .ok (s, none, [])
  | .selected _ => .ok (s.filterVelocity, none, [.cmdVelSmoothed s.filterVelocity.currentVel])

/-- The overlapping callbacks. What a callback reads of the clock it reads while it holds the mutex,
so no other reading comes in between. -/
def lockedEvents : Machine (LockedMux V) (LockedInput V) (List (MuxOutput V)) where
  step x
    | .enter i =>
      if x.holder.isNone ∧ x.node.takesLock i = true ∧ x.clock ≤ i.start ∧ i.start ≤ i.finish then
        some ({ x with clock := i.finish, holder := some (.entered i) }, [])
      else none
    | .proceed => x.holder.bind fun t => (x.node.proceed t).toOption.map fun r =>
        ({ x with node := r.1, holder := r.2.1 }, r.2.2)
    | .flags i => (flagCallbacks.pool.step ⟨x.node, x.live⟩ i).map fun r =>
        ({ x with node := r.1.shared, live := r.1.live }, [])

/-- A step of the overlapping callbacks. -/
abbrev LockedStep (V : Type) := Step (LockedMux V) (LockedInput V) (List (MuxOutput V))

/-- Right after an `on_activate` at time `now`, with no callback in progress. -/
def lockedActivated (s : TwistMuxNode V) (now : Time) : LockedMux V :=
  ⟨now, s.onActivate now, none, []⟩

/-! ## What a step does -/

/-- The steps of the overlapping callbacks: one takes the mutex, a command is tested, a command that
passed the test is handled, a tick selects its target, a tick publishes, or a callback of a block
message goes on. -/
@[elab_as_elim]
theorem locked_rec {motive : ∀ e : LockedStep V, lockedEvents.Takes e → Prop}
    (enter : ∀ (clock : Time) (s : TwistMuxNode V) (live : List FlagCallback) (i : MuxEvent V)
      (_ : s.takesLock i = true) (_ : clock ≤ i.start) (_ : i.start ≤ i.finish) h,
      motive ⟨⟨clock, s, none, live⟩, .enter i, [], ⟨i.finish, s, some (.entered i), live⟩⟩ h)
    (test : ∀ (clock : Time) (s : TwistMuxNode V) (live : List FlagCallback) (i : MuxEvent V)
      (_ : ∀ now, i ≠ .controlLoop now) h, motive ⟨⟨clock, s, some (.entered i), live⟩, .proceed,
        [], ⟨clock, s, if s.listens then some (.accepted i) else none, live⟩⟩ h)
    (command : ∀ (clock : Time) (s : TwistMuxNode V) (live : List FlagCallback) (i : MuxEvent V)
      (r : TwistMuxNode V × Option (LockedSection V) × List (MuxOutput V))
      (_ : s.proceed (.accepted i) = .ok r) h,
      motive ⟨⟨clock, s, some (.accepted i), live⟩, .proceed, r.2.2, ⟨clock, r.1, r.2.1, live⟩⟩ h)
    (select : ∀ (clock : Time) (s s' : TwistMuxNode V) (live : List FlagCallback) (now : Time)
      (_ : s.selectTarget now = .ok s') h,
      motive ⟨⟨clock, s, some (.entered (.controlLoop now)), live⟩, .proceed, s'.publishState,
        ⟨clock, s', some (.selected now), live⟩⟩ h)
    (publish : ∀ (clock : Time) (s : TwistMuxNode V) (live : List FlagCallback) (now : Time) h,
      motive ⟨⟨clock, s, some (.selected now), live⟩, .proceed,
        [.cmdVelSmoothed s.filterVelocity.currentVel], ⟨clock, s.filterVelocity, none, live⟩⟩ h)
    (flags : ∀ (clock : Time) (s s' : TwistMuxNode V) (holder : Option (LockedSection V))
      (live live' : List FlagCallback) (i : PoolInput BlockMessage Unit) (o : List Empty)
      (_ : flagCallbacks.pool.Takes ⟨⟨s, live⟩, i, o, ⟨s', live'⟩⟩) h,
      motive ⟨⟨clock, s, holder, live⟩, .flags i, [], ⟨clock, s', holder, live'⟩⟩ h)
    (e : LockedStep V) (he : lockedEvents.Takes e) : motive e he := by
  obtain ⟨⟨clock, s, holder, live⟩, i, o, y⟩ := e
  have hstep := he
  cases i with
  | enter i =>
    simp only [Machine.Takes, lockedEvents, Option.isNone_iff_eq_none] at hstep
    split_ifs at hstep with h
    obtain ⟨rfl, hlock, hstart, hfinish⟩ := h
    obtain ⟨rfl, rfl⟩ := Prod.mk.inj (Option.some.inj hstep)
    exact enter clock s live i hlock hstart hfinish he
  | proceed =>
    simp only [Machine.Takes, lockedEvents, Option.bind_eq_some_iff,
      Option.map_eq_some_iff] at hstep
    obtain ⟨t, rfl, r, hr, heq⟩ := hstep
    obtain ⟨rfl, rfl⟩ := Prod.mk.inj heq
    have hok : s.proceed t = .ok r := by
      cases hp : s.proceed t with
      | error msg => simp [hp, Except.toOption] at hr
      | ok r' =>
        rw [hp] at hr
        exact congrArg _ (Option.some.inj hr)
    cases t with
    | accepted i => exact command clock s live i r hok he
    | selected now =>
      obtain rfl := Except.ok.inj hok
      exact publish clock s live now he
    | entered i =>
      cases i with
      | controlLoop now =>
        cases hs : s.selectTarget now with
        | error msg => simp [proceed, hs, Except.map] at hok
        | ok s' =>
          simp only [proceed, hs, Except.map, Except.ok.injEq] at hok
          subst hok
          exact select clock s s' live now hs he
      | teleop | nav | fdirState | safetyState =>
        obtain rfl := Except.ok.inj hok
        exact test clock s live _ (fun _ h => by cases h) he
  | flags i =>
    simp only [Machine.Takes, lockedEvents, Option.map_eq_some_iff] at hstep
    obtain ⟨⟨⟨s', live'⟩, o'⟩, hpool, heq⟩ := hstep
    obtain ⟨rfl, rfl⟩ := Prod.mk.inj heq
    exact flags clock s s' holder live live' i o' hpool he

/-! ## The flags apart -/

/-- The same state with these flags. -/
def withFlags (s : TwistMuxNode V) (degraded fdir estop safety : Bool) : TwistMuxNode V :=
  { s with
    isDegraded := degraded
    isFdirBlocked := fdir
    isEstopBlocked := estop
    isSafetyBlocked := safety }

/-- The two states differ in the flags at most. -/
def SameButFlags (s a : TwistMuxNode V) : Prop :=
  ∃ degraded fdir estop safety, a = s.withFlags degraded fdir estop safety

omit [VelocityScalar V] in
theorem SameButFlags.refl (s : TwistMuxNode V) : s.SameButFlags s := ⟨_, _, _, _, rfl⟩

omit [VelocityScalar V] in
theorem SameButFlags.symm {s a : TwistMuxNode V} (h : s.SameButFlags a) : a.SameButFlags s := by
  obtain ⟨d, f, e, b, rfl⟩ := h
  exact ⟨_, _, _, _, rfl⟩

omit [VelocityScalar V] in
theorem SameButFlags.trans {s a c : TwistMuxNode V} (h : s.SameButFlags a)
    (h' : a.SameButFlags c) : s.SameButFlags c := by
  obtain ⟨d, f, e, b, rfl⟩ := h
  obtain ⟨d', f', e', b', rfl⟩ := h'
  exact ⟨_, _, _, _, rfl⟩

omit [VelocityScalar V] in
/-- The callbacks of the block messages write nothing but the flags. -/
theorem flags_step {e : PoolStep (TwistMuxNode V) BlockMessage FlagCallback Unit Empty}
    (he : flagCallbacks.pool.Takes e) : e.pre.shared.SameButFlags e.post.shared := by
  induction e, he using Handlers.pool_rec with
  | start a live i h =>
    cases i with
    | fdirState msg => exact ⟨_, _, _, _, rfl⟩
    | safetyState msg => exact ⟨_, _, _, _, rfl⟩
  | resume a before t after r h =>
    cases t with
    | storeFdirBlocked value => exact ⟨_, _, _, _, rfl⟩
    | merge t => cases t <;> exact ⟨_, _, _, _, rfl⟩

theorem acceptTeleop_withFlags (s : TwistMuxNode V) (d f e b : Bool) (now : Time) (ready : Bool)
    (msg : Twist V) : (s.withFlags d f e b).acceptTeleop now ready msg =
      ((s.acceptTeleop now ready msg).1.withFlags d f e b, (s.acceptTeleop now ready msg).2) := by
  unfold acceptTeleop
  split <;> rfl

omit [VelocityScalar V] in
theorem acceptNav_withFlags (s : TwistMuxNode V) (d f e b : Bool) (stamp now : Time)
    (msg : Twist V) : (s.withFlags d f e b).acceptNav stamp now msg =
      (s.acceptNav stamp now msg).withFlags d f e b := by
  by_cases h : now - s.lastTeleopTime < s.manualTimeout
  · rw [acceptNav.eq_def s, if_pos h]
    exact if_pos h
  · rw [acceptNav.eq_def s, if_neg h]
    exact if_neg h

/-- The target depends on no flag but `is_safety_blocked_`. -/
theorem selectTarget_withFlags {s r : TwistMuxNode V} {now : Time} (h : s.selectTarget now = .ok r)
    (d f e : Bool) : (s.withFlags d f e s.isSafetyBlocked).selectTarget now =
      .ok (r.withFlags d f e s.isSafetyBlocked) := by
  rcases selectTarget_cases h with ⟨hb, rfl⟩ | ⟨hb, hs, rfl⟩ | ⟨hb, hs, hm, rfl⟩ | ⟨hb, hs, hm, rfl⟩
  · exact if_pos hb
  · exact (if_neg (ne_true_of_eq_false hb)).trans (if_pos hs)
  · exact selectTarget_manual hb hs hm
  · exact selectTarget_autonomous hb hs hm

/-- A message that is not dropped. -/
theorem teleopCallback_listens {s : TwistMuxNode V} (h : s.listens = true) (now : Time)
    (ready : Bool) (msg : Twist V) :
    s.teleopCallback now ready msg = s.acceptTeleop now ready msg := by
  simp [teleopCallback, h]

omit [VelocityScalar V] in
theorem navCallback_listens {s : TwistMuxNode V} (h : s.listens = true) (stamp now : Time)
    (msg : Twist V) : s.navCallback stamp now msg = s.acceptNav stamp now msg := by
  simp [navCallback, h]

/-! ## The sequential run behind a run -/

/-- The callbacks that take the mutex in a step, and those that a sequential step is of. -/
def taken (e : LockedStep V) : List (MuxEvent V) :=
  match e.input with
  | .enter i => [i]
  | .proceed | .flags _ => []

def commands (e : MuxStep V) : List (MuxEvent V) :=
  match e.input with
  | .fdirState .. | .safetyState .. => []
  | i => [i]

/-- The callback that holds the mutex. -/
def inHand (x : LockedMux V) : List (MuxEvent V) :=
  match x.holder with
  | none => []
  | some (.entered i) | some (.accepted i) => [i]
  | some (.selected now) => [.controlLoop now]

/-- What a tick in progress has put out already. -/
def due (x : LockedMux V) : List (MuxOutput V) :=
  match x.holder with
  | some (.selected _) => x.node.publishState
  | _ => []

/-- The step handles a command that has passed the test. -/
def HandlesCommand (e : LockedStep V) (i : MuxEvent V) : Prop :=
  e.input = .proceed ∧ e.pre.holder = some (.accepted i)

/-- The step ends a tick. -/
def Publishes (e : LockedStep V) (now : Time) : Prop :=
  e.input = .proceed ∧ e.pre.holder = some (.selected now)

/-- The sequential state behind the state of the overlapping callbacks, in which the holder of the
mutex has not begun yet. -/
inductive Behind : LockedMux V → Clocked (TwistMuxNode V) → Prop
  | idle {clock : Time} {s a : TwistMuxNode V} {live : List FlagCallback}
      (same : a.SameButFlags s) : Behind ⟨clock, s, none, live⟩ ⟨clock, a⟩
  | entered {clock : Time} {s a : TwistMuxNode V} {live : List FlagCallback} {i : MuxEvent V}
      (same : a.SameButFlags s) (lock : a.takesLock i = true) (hstart : clock ≤ i.start)
      (hfinish : i.start ≤ i.finish) : Behind ⟨i.finish, s, some (.entered i), live⟩ ⟨clock, a⟩
  | accepted {clock : Time} {s a : TwistMuxNode V} {live : List FlagCallback} {i : MuxEvent V}
      (same : a.SameButFlags s) (lock : a.takesLock i = true)
      (command : ∀ now, i ≠ .controlLoop now) (up : a.isShuttingDown = false)
      (hstart : clock ≤ i.start) (hfinish : i.start ≤ i.finish) :
      Behind ⟨i.finish, s, some (.accepted i), live⟩ ⟨clock, a⟩
  | selected {clock now : Time} {s a r : TwistMuxNode V} {live : List FlagCallback} {blocked : Bool}
      (target : { a with isSafetyBlocked := blocked }.selectTarget now = .ok r)
      (same : r.SameButFlags s) (active : a.smoothPub.isActivated = true) (hstart : clock ≤ now) :
      Behind ⟨now, s, some (.selected now), live⟩ ⟨clock, a⟩

/-- A callback that has only taken the mutex has yet to do all it does. -/
theorem Behind.entered_inv {x : LockedMux V} {a : Clocked (TwistMuxNode V)} {i : MuxEvent V}
    (h : Behind x a) (hx : x.holder = some (.entered i)) :
    a.node.SameButFlags x.node ∧ a.node.takesLock i = true ∧ a.clock ≤ i.start := by
  cases h with
  | entered same lock hstart hfinish =>
    obtain rfl := LockedSection.entered.inj (Option.some.inj hx)
    exact ⟨same, lock, hstart⟩
  | idle => cases hx
  | accepted => cases hx
  | selected => cases hx

/-- What is kept of a step and the sequential run that matches it: the callbacks, but for the one in
hand; the outputs, but for those that are due; and the flags that were read. -/
structure Matched (e : LockedStep V) (part : List (MuxStep V)) : Prop where
  commands : inHand e.pre ++ taken e = part.flatMap commands ++ inHand e.post
  outputs : due e.pre ++ e.output = part.flatMap Step.output ++ due e.post
  accepted : ∀ i, HandlesCommand e i → ∃ e' ∈ part, e'.input = i ∧ e'.pre.node.listens = true
  ticks : ∀ now, Publishes e now → ∃ e' ∈ part, e'.input = .controlLoop now ∧
    e'.pre.node.isDegraded = e.pre.node.isDegraded ∧
    (e'.pre.node.isSafetyBlocked = true ↔ e.pre.node.currentState = .blocked)

theorem takes_handle {x : Clocked (TwistMuxNode V)} {i : MuxEvent V}
    {r : TwistMuxNode V × List (MuxOutput V)} (hstart : x.clock ≤ i.start)
    (hfinish : i.start ≤ i.finish) (h : x.node.handle i = .ok r) :
    events.Takes ⟨x, i, r.2, ⟨i.finish, r.1⟩⟩ := by
  simp [Machine.Takes, events, hstart, hfinish, h, Except.toOption]

/-- A health state that blocks nothing, and a safety state. -/
def healthOf (degraded : Bool) : UInt8 :=
  if degraded then FdirState.stateDegraded else FdirState.stateSoftwareOk

def safetyOf (blocked : Bool) : UInt8 :=
  if blocked then SafetyStateMsg.emergency else SafetyStateMsg.normal

omit [VelocityScalar V] in
/-- The two messages set the flags to what was read. -/
theorem withFlags_messages (s : TwistMuxNode V) (d b : Bool) :
    (s.fdirStateCallback (healthOf d)).safetyStateCallback (safetyOf b) =
      s.withFlags d false b b := by
  cases d <;> cases b <;> rfl

omit [VelocityScalar V] in
theorem commands_of_takesLock {e : MuxStep V} (h : e.pre.node.takesLock e.input = true) :
    commands e = [e.input] := by
  obtain ⟨x, i, o, y⟩ := e
  cases i with
  | fdirState | safetyState => cases h
  | _ => rfl

/-- The sequential run of a callback: two block messages set the flags to what it read. -/
theorem callback_run (x : Clocked (TwistMuxNode V)) (d b : Bool) {i : MuxEvent V}
    {r : TwistMuxNode V × List (MuxOutput V)} (hlock : x.node.takesLock i = true)
    (hstart : x.clock ≤ i.start) (hfinish : i.start ≤ i.finish)
    (h : (x.node.withFlags d false b b).handle i = .ok r) :
    ∃ part, events.Run x part ⟨i.finish, r.1⟩ ∧ part.flatMap commands = [i] ∧
      part.flatMap Step.output = r.2 ∧
      ⟨⟨x.clock, x.node.withFlags d false b b⟩, i, r.2, ⟨i.finish, r.1⟩⟩ ∈ part := by
  have hfdir : events.Takes ⟨x, .fdirState x.clock (healthOf d), [],
      ⟨x.clock, x.node.fdirStateCallback (healthOf d)⟩⟩ :=
    takes_handle (i := .fdirState x.clock (healthOf d)) le_rfl le_rfl rfl
  have hsafety : events.Takes ⟨⟨x.clock, x.node.fdirStateCallback (healthOf d)⟩,
      .safetyState x.clock (safetyOf b), [], ⟨x.clock, x.node.withFlags d false b b⟩⟩ := by
    rw [← withFlags_messages]
    exact takes_handle (x := ⟨x.clock, x.node.fdirStateCallback (healthOf d)⟩)
      (i := .safetyState x.clock (safetyOf b)) le_rfl le_rfl rfl
  have hcallback := takes_handle (x := ⟨x.clock, x.node.withFlags d false b b⟩) hstart hfinish h
  refine ⟨_, .cons hfdir (.cons hsafety (.single hcallback)), ?_, ?_, by simp⟩
  · simp only [List.flatMap_cons, List.flatMap_nil, List.append_nil]
    exact commands_of_takesLock hlock
  · simp

omit [VelocityScalar V] in
theorem SameButFlags.takesLock_eq {s a : TwistMuxNode V} (h : s.SameButFlags a) (i : MuxEvent V) :
    a.takesLock i = s.takesLock i := by
  obtain ⟨_, _, _, _, rfl⟩ := h
  cases i <;> rfl

omit [VelocityScalar V] in
theorem SameButFlags.publishState_eq {s a : TwistMuxNode V} (h : s.SameButFlags a) :
    a.publishState = s.publishState := by
  obtain ⟨_, _, _, _, rfl⟩ := h
  rfl

/-- A command that is dropped. -/
theorem handle_dropped {s : TwistMuxNode V} {i : MuxEvent V} (hl : s.listens = false)
    (hlock : s.takesLock i = true) (hi : ∀ now, i ≠ .controlLoop now) :
    s.handle i = .ok (s, []) := by
  cases i with
  | teleop now ready msg => simp [handle, teleopCallback, hl]
  | nav stamp now msg => simp [handle, navCallback, hl]
  | fdirState | safetyState => cases hlock
  | controlLoop now => exact absurd rfl (hi now)

/-- A command that has passed the test is handled as by a sequential callback that finds the flag
unset. -/
theorem handle_accepted {a s : TwistMuxNode V} (same : a.SameButFlags s)
    (up : a.isShuttingDown = false) {i : MuxEvent V} (hlock : a.takesLock i = true)
    (hi : ∀ now, i ≠ .controlLoop now)
    {r : TwistMuxNode V × Option (LockedSection V) × List (MuxOutput V)}
    (hr : s.proceed (.accepted i) = .ok r) :
    r.2.1 = none ∧ ∃ a', (a.withFlags false false false false).handle i = .ok (a', r.2.2) ∧
      a'.SameButFlags r.1 := by
  have hl : (a.withFlags false false false false).listens = true := by
    simp [listens, withFlags, up]
  obtain ⟨d, f, e, b, rfl⟩ := same
  cases i with
  | teleop now ready msg =>
    obtain rfl := Except.ok.inj hr
    refine ⟨rfl, ((a.acceptTeleop now ready msg).1.withFlags false false false false), ?_, ?_⟩
    · rw [handle, teleopCallback_listens hl, acceptTeleop_withFlags, acceptTeleop_withFlags]
    · rw [acceptTeleop_withFlags]
      exact ⟨d, f, e, b, rfl⟩
  | nav stamp now msg =>
    obtain rfl := Except.ok.inj hr
    refine ⟨rfl, (a.acceptNav stamp now msg).withFlags false false false false, ?_, ?_⟩
    · rw [handle, navCallback_listens hl, acceptNav_withFlags]
    · rw [acceptNav_withFlags]
      exact ⟨d, f, e, b, rfl⟩
  | fdirState | safetyState => cases hlock
  | controlLoop now => exact absurd rfl (hi now)

/-- A tick that has selected its target ends as a sequential tick does that finds the flags as they
were read. -/
theorem handle_selected {a r s : TwistMuxNode V} {now : Time} {blocked : Bool}
    (target : { a with isSafetyBlocked := blocked }.selectTarget now = .ok r)
    (same : r.SameButFlags s) (active : a.smoothPub.isActivated = true) :
    ∃ a', (a.withFlags s.isDegraded false blocked blocked).handle (.controlLoop now) =
      .ok (a', s.publishState ++ [.cmdVelSmoothed s.filterVelocity.currentVel]) ∧
      a'.SameButFlags s.filterVelocity := by
  obtain ⟨d, f, e, b, rfl⟩ := same
  have htarget : (a.withFlags d false blocked blocked).selectTarget now =
      .ok (r.withFlags d false blocked blocked) := selectTarget_withFlags target d false blocked
  refine ⟨(r.withFlags d false blocked blocked).filterVelocity, ?_, d, f, e, b, rfl⟩
  have hactive : (a.withFlags d false blocked blocked).smoothPub.isActivated ≠ false := by
    rw [ne_eq, Bool.not_eq_false]
    exact active
  show (a.withFlags d false blocked blocked).controlLoop now = _
  rw [controlLoop, if_neg hactive, htarget]
  rfl

/-- A target is selected with the flag that was read. -/
theorem selected_blocked_iff {s r : TwistMuxNode V} {now : Time} (h : s.selectTarget now = .ok r) :
    s.isSafetyBlocked = true ↔ r.currentState = .blocked := by
  rcases selectTarget_cases h with
    ⟨hb, rfl⟩ | ⟨hb, -, rfl⟩ | ⟨hb, -, hm, rfl⟩ | ⟨hb, -, hm, rfl⟩ <;> simp [*]

/-! ### One step -/

/-- The test drops the command, or goes on with it. -/
theorem behind_test {clock start : Time} {s a : TwistMuxNode V} {live : List FlagCallback}
    {i : MuxEvent V} (same : a.SameButFlags s) (lock : a.takesLock i = true)
    (hi : ∀ now, i ≠ .controlLoop now) (hstart : start ≤ i.start) (hfinish : i.start ≤ i.finish)
    {y : LockedMux V}
    (hy : y = ⟨i.finish, s, if s.listens then some (.accepted i) else none, live⟩) :
    ∃ part b, events.Run ⟨start, a⟩ part b ∧
      Matched ⟨⟨clock, s, some (.entered i), live⟩, .proceed, [], y⟩ part ∧ Behind y b := by
  by_cases hl : s.listens = true
  · rw [if_pos hl] at hy
    have hup : a.isShuttingDown = false := by
      obtain ⟨_, _, _, _, rfl⟩ := same
      exact ((listens_iff _).1 hl).1
    refine ⟨[], _, .nil _, ?_, hy ▸ .accepted same lock hi hup hstart hfinish⟩
    subst hy
    exact ⟨rfl, rfl, by simp [HandlesCommand], by simp [Publishes]⟩
  · rw [if_neg hl] at hy
    let b := s.isSafetyBlocked
    have hdrop : (a.withFlags false false b b).listens = false := by
      obtain ⟨_, _, _, _, rfl⟩ := same
      exact Bool.eq_false_iff.2 hl
    have hlock : (a.withFlags false false b b).takesLock i = true := by
      cases i <;> exact lock
    obtain ⟨part, hrun, hcommands, houtputs, -⟩ := callback_run ⟨start, a⟩ false b lock hstart
      hfinish (handle_dropped hdrop hlock hi)
    have hsame : (a.withFlags false false b b).SameButFlags s :=
      .trans (.symm ⟨_, _, _, _, rfl⟩) same
    refine ⟨part, _, hrun, ?_, hy ▸ .idle hsame⟩
    subst hy
    exact ⟨by rw [hcommands]; rfl, by rw [houtputs]; rfl, by simp [HandlesCommand],
      by simp [Publishes]⟩

omit [VelocityScalar V] in
/-- While the flags are written nothing else happens. -/
theorem matched_flags {clock : Time} {s s' : TwistMuxNode V} (h : s.SameButFlags s')
    (holder : Option (LockedSection V)) (live live' : List FlagCallback)
    (i : PoolInput BlockMessage Unit) : Matched
      ⟨⟨clock, s, holder, live⟩, .flags i, [], ⟨clock, s', holder, live'⟩⟩ [] where
  commands := List.append_nil _
  outputs := by simp [due, h.publishState_eq]
  accepted := by simp [HandlesCommand]
  ticks := by simp [Publishes]

/-- **One step** is matched by a sequential run. -/
theorem behind_step {e : LockedStep V} (he : lockedEvents.Takes e) {a : Clocked (TwistMuxNode V)}
    (h : Behind e.pre a) :
    ∃ part b, events.Run a part b ∧ Matched e part ∧ Behind e.post b := by
  induction e, he using locked_rec with
  | enter clock s live i hlock hstart hfinish =>
    cases h with
    | idle same =>
      refine ⟨[], _, .nil _, ⟨rfl, rfl, by simp [HandlesCommand], by simp [Publishes]⟩, ?_⟩
      exact .entered same ((same.takesLock_eq i).symm.trans hlock) hstart hfinish
  | test clock s live i hi =>
    cases h with
    | entered same lock hstart hfinish => exact behind_test same lock hi hstart hfinish rfl
  | command clock s live i r hr =>
    cases h with
    | @accepted start _ a _ _ same lock hi up hstart hfinish =>
      obtain ⟨hend, a', hhandle, hsame⟩ := handle_accepted same up lock hi hr
      obtain ⟨part, hrun, hcommands, houtputs, hmem⟩ := callback_run ⟨start, a⟩ false false lock
        hstart hfinish hhandle
      obtain ⟨s', holder, o⟩ := r
      obtain rfl : holder = none := hend
      refine ⟨part, _, hrun, ⟨by rw [hcommands]; rfl, ?_, ?_, by simp [Publishes]⟩, .idle hsame⟩
      · rw [houtputs]
        exact (List.append_nil o).symm
      · rintro j ⟨-, hj⟩
        obtain rfl := LockedSection.accepted.inj (Option.some.inj hj)
        exact ⟨_, hmem, rfl, by simp [listens, withFlags, up]⟩
  | select clock s s' live now hs =>
    generalize hi : MuxEvent.controlLoop now = i at h
    cases h with
    | entered same lock hstart hfinish =>
      subst hi
      obtain ⟨d, f, e, b, rfl⟩ := same.symm
      refine ⟨[], _, .nil _, ⟨rfl, rfl, by simp [HandlesCommand], by simp [Publishes]⟩, ?_⟩
      exact .selected (selectTarget_withFlags hs d f e) (.symm ⟨_, _, _, _, rfl⟩) lock hstart
  | publish clock s live now =>
    cases h with
    | @selected start _ _ a r _ blocked target same active hstart =>
      obtain ⟨a', hhandle, hsame⟩ := handle_selected target same active
      have hread : blocked = true ↔ s.currentState = .blocked := by
        obtain ⟨_, _, _, _, rfl⟩ := same
        exact selected_blocked_iff target
      obtain ⟨part, hrun, hcommands, houtputs, hmem⟩ := callback_run ⟨start, a⟩ s.isDegraded blocked
        active (i := .controlLoop clock) hstart le_rfl hhandle
      refine ⟨part, _, hrun, ⟨by rw [hcommands]; rfl, ?_, by simp [HandlesCommand], ?_⟩,
        .idle hsame⟩
      · rw [houtputs]
        exact (List.append_nil _).symm
      · rintro t ⟨-, ht⟩
        obtain rfl := LockedSection.selected.inj (Option.some.inj ht)
        exact ⟨_, hmem, rfl, rfl, hread⟩
  | flags clock s s' holder live live' i o hpool =>
    have hflags : s.SameButFlags s' := flags_step hpool
    refine ⟨[], _, .nil _, matched_flags hflags holder live live' i, ?_⟩
    cases h with
    | idle same => exact .idle (same.trans hflags)
    | entered same lock hstart hfinish => exact .entered (same.trans hflags) lock hstart hfinish
    | accepted same lock hi up hstart hfinish =>
      exact .accepted (same.trans hflags) lock hi up hstart hfinish
    | selected target same active hstart => exact .selected target (same.trans hflags) active hstart

/-! ## Whole runs -/

/-- Right after an activation the two states are the same. -/
theorem behind_activated (s : TwistMuxNode V) (t₀ : Time) :
    Behind (s.lockedActivated t₀) (s.activated t₀) := .idle (.refl _)

/-- **Overlapping callbacks are linearizable.** A run of the overlapping callbacks has a sequential
run behind it, of the same commands and ticks in the order in which they took the mutex, with the
same outputs; a callback that holds the mutex has yet to run there, and what it has put out is due.
There an accepted command finds the merged flag unset, and a tick finds the flags as they were read.
-/
theorem locked_refines (s : TwistMuxNode V) (t₀ : Time) {tr : List (LockedStep V)} {x : LockedMux V}
    (h : lockedEvents.Run (s.lockedActivated t₀) tr x) :
    ∃ parts a, events.Run (s.activated t₀) parts.flatten a ∧ Behind x a ∧
      List.Forall₂ Matched tr parts ∧
      tr.flatMap taken = parts.flatten.flatMap commands ++ inHand x ∧
      tr.flatMap Step.output = parts.flatten.flatMap Step.output ++ due x := by
  obtain ⟨parts, a, hrun, hall, hlast⟩ :=
    h.refines (fun e a he hb => behind_step he hb) (behind_activated s t₀)
  refine ⟨parts, a, hrun, hlast, hall, ?_, ?_⟩
  · exact h.flatMap_due (d := inHand) (fun e part hm => hm.commands) hall
  · exact h.flatMap_due (d := due) (fun e part hm => hm.outputs) hall

/-- An e-stop arrives while a manual command is at its test, and is released while a tick has its
target selected; then a nav command is locked out, and a later one is not. -/
def overlap : List (LockedInput ℚ) :=
  [.enter (.teleop 11 true ⟨⟨4 / 5, 0, 0⟩, 0⟩),
    .flags (.start (.safetyState SafetyStateMsg.emergency)), .proceed, .flags (.resume 0 ()),
    .flags (.resume 0 ()), .flags (.resume 0 ()), .proceed, .enter (.controlLoop 12), .proceed,
    .flags (.start (.safetyState SafetyStateMsg.normal)), .flags (.resume 0 ()),
    .flags (.resume 0 ()), .flags (.resume 0 ()), .proceed,
    .enter (.nav 12 12 ⟨⟨1 / 2, 0, 0⟩, 0⟩), .proceed, .proceed,
    .enter (.nav 13 13 ⟨⟨1 / 2, 0, 0⟩, 0⟩), .proceed, .proceed, .enter (.controlLoop 13), .proceed,
    .proceed]

theorem overlap_run : lockedEvents.Run (configured.lockedActivated 10)
    (lockedEvents.trace (configured.lockedActivated 10) overlap)
    (lockedEvents.final (configured.lockedActivated 10) overlap) :=
  Machine.run_trace _ overlap (by decide +kernel)

theorem locked_refines_overlap : ∃ (parts : List (List (MuxStep ℚ))) (a : Clocked (TwistMuxNode ℚ)),
    events.Run (configured.activated 10) parts.flatten a ∧
    Behind (lockedEvents.final (configured.lockedActivated 10) overlap) a ∧
    (lockedEvents.trace (configured.lockedActivated 10) overlap).flatMap Step.output =
      parts.flatten.flatMap Step.output := by
  obtain ⟨parts, a, hrun, hbehind, -, -, houtputs⟩ := locked_refines configured 10 overlap_run
  have hdue : due (lockedEvents.final (configured.lockedActivated 10) overlap) = [] := by
    decide +kernel
  rw [hdue, List.append_nil] at houtputs
  exact ⟨parts, a, hrun, hbehind, houtputs⟩

/-- A tick that has taken the mutex goes on with the selection of its target. -/
theorem selects_of_entered {e : LockedStep V} (he : lockedEvents.Takes e) {now : Time}
    (hi : e.input = .proceed) (hx : e.pre.holder = some (.entered (.controlLoop now))) :
    e.pre.node.selectTarget now = .ok e.post.node := by
  induction e, he using locked_rec with
  | select clock s s' live now' hs =>
    obtain rfl := MuxEvent.controlLoop.inj (LockedSection.entered.inj (Option.some.inj hx))
    exact hs
  | test clock s live i hne =>
    exact absurd (LockedSection.entered.inj (Option.some.inj hx)) (hne now)
  | enter => cases hx
  | command => cases hx
  | publish => cases hx
  | flags => cases hi

/-- **Manual priority**, with callbacks that overlap: when a tick at `now` selects the nav command,
which are the ticks that go on in `AUTONOMOUS` with the target `last_nav_msg_`, no manual command
was accepted before it in the interval `(now - manual_takeover_time, now]`. -/
theorem manual_priority_locked (s : TwistMuxNode V) (t₀ : Time) {tr : List (LockedStep V)}
    {x : LockedMux V} (h : lockedEvents.Run (s.lockedActivated t₀) tr x) :
    Throughout (fun past e => ∀ now, e.input = .proceed →
      e.pre.holder = some (.entered (.controlLoop now)) →
      (e.pre.node.RoutesNav now ↔
        e.post.node.currentState = .autonomous ∧ e.post.node.targetVel = e.pre.node.lastNavMsg) ∧
      (e.pre.node.RoutesNav now → ∀ e' ∈ past, ∀ t ready msg,
        HandlesCommand e' (.teleop t ready msg) → isZeroCmd msg = false →
          ¬ (now - s.manualTimeout < t ∧ t ≤ now))) tr := by
  rintro past e rest rfl now hi hholder
  obtain ⟨hpast, htake, -⟩ := h.around
  obtain ⟨parts, a, hrun, hbehind, hall, -, -⟩ := locked_refines s t₀ hpast
  obtain ⟨⟨_, _, _, _, hnode⟩, hlock, hclock⟩ := hbehind.entered_inv hholder
  have hactive : e.pre.node.smoothPub.isActivated = true := by
    rw [hnode]
    exact hlock
  refine ⟨routesNav_iff hactive (selects_of_entered htake hi hholder), ?_⟩
  rintro ⟨-, -, -, hm⟩ e' he' t ready msg hacc hz ⟨hrecent, -⟩
  have hmode : a.node.currentState = .autonomous := by
    rw [hnode] at hm
    exact hm
  obtain ⟨part, hmatched, hpart⟩ := exists_part hall he'
  obtain ⟨e'', he'', hi, hl⟩ := hmatched.accepted _ hacc
  have hold : s.manualTimeout ≤ a.clock - t :=
    autonomous_run s t₀ hrun hmode (hpart e'' he'') ⟨hl, ready, msg, hi, hz⟩
  have hclock' : a.clock ≤ now := hclock
  linarith

theorem manual_priority_overlap :
    Throughout (fun past e => ∀ now, e.input = .proceed →
      e.pre.holder = some (.entered (.controlLoop now)) →
      (e.pre.node.RoutesNav now ↔
        e.post.node.currentState = .autonomous ∧ e.post.node.targetVel = e.pre.node.lastNavMsg) ∧
      (e.pre.node.RoutesNav now → ∀ e' ∈ past, ∀ t ready msg,
        HandlesCommand e' (.teleop t ready msg) → isZeroCmd msg = false →
          ¬ (now - configured.manualTimeout < t ∧ t ≤ now)))
      (lockedEvents.trace (configured.lockedActivated 10) overlap) :=
  manual_priority_locked configured 10 overlap_run

end TwistMuxNode

end MonaRobot
