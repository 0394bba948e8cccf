import MonaRobot.Foundations.Machine
import MonaRobot.Lifecycle
import MonaRobot.Msgs
import Mathlib.Tactic.Linarith

/-!
# The velocity multiplexer

`mona_control::TwistMuxNode`: the state members of the node and its callbacks, each a function of
the state, the message and the clock readings it takes. A callback runs as one step under
`mux_mutex_`; it reads the clock as often as the source does, so `nav_callback` has two readings.

`TwistMuxNode.events` is the machine of an activated node: any order of messages and timer ticks
whose clock readings never decrease. `control_loop` aborts in its undefined-state branch, and the
machine has no step there.
-/

namespace MonaRobot

open Reactive

/-- Multiplexer priority and health states. -/
inductive TwistMuxState
  | ucfg
  | idle
  | manual
  | autonomous
  | blocked
  deriving DecidableEq

/-- The state members of the node. -/
structure TwistMuxNode (V : Type) where
  smoothPub : LifecyclePublisher
  statePub : LifecyclePublisher
  navClient : Bool
  targetVel : Twist V
  currentVel : Twist V
  lastTeleopMsg : Twist V
  lastNavMsg : Twist V
  lastTeleopTime : Time
  lastNavTime : Time
  currentState : TwistMuxState
  isSafetyBlocked : Bool
  isFdirBlocked : Bool
  isEstopBlocked : Bool
  manualTimeout : ℚ
  cmdTimeout : ℚ
  emaAlpha : ℚ
  maxSpeedNormal : ℚ
  maxSpeedDegraded : ℚ
  isDegraded : Bool
  isShuttingDown : Bool

/-- The declared parameters, as `on_configure` reads them. -/
structure TwistMuxParams where
  commandTimeout : ℚ := 1 / 2
  manualTakeoverTime : ℚ := 2
  emaAlpha : ℚ := 1 / 10
  maxSpeedNormal : ℚ := 1
  maxSpeedDegraded : ℚ := 3 / 10

/-- What the node sends: its two topics and the cancel request to the Nav2 action server. -/
inductive MuxOutput (V : Type)
  | cmdVelSmoothed (msg : Twist V)
  | muxState (currentState : UInt8)
  | cancelAllGoals
  deriving DecidableEq

/-- A message delivered to the node or a firing of its timer, with the clock readings taken.
`serverReady` is `nav_client_->action_server_is_ready()` at that moment. -/
inductive MuxEvent (V : Type)
  | teleop (now : Time) (serverReady : Bool) (msg : Twist V)
  | nav (stamp now : Time) (msg : Twist V)
  | fdirState (now : Time) (currentState : UInt8)
  | safetyState (now : Time) (currentState : UInt8)
  | controlLoop (now : Time)
  deriving DecidableEq

namespace MuxEvent

variable {V : Type}

/-- The time at which the event begins. -/
def start : MuxEvent V → Time
  | .teleop now _ _ => now
  | .nav stamp _ _ => stamp
  | .fdirState now _ => now
  | .safetyState now _ => now
  | .controlLoop now => now

/-- The last clock reading of the event. -/
def finish : MuxEvent V → Time
  | .teleop now _ _ => now
  | .nav _ now _ => now
  | .fdirState now _ => now
  | .safetyState now _ => now
  | .controlLoop now => now

end MuxEvent

/-- The health states that block. -/
def fdirBlocks (msg : UInt8) : Bool :=
  decide (msg = FdirState.stateEmergency ∨ msg = FdirState.stateProtectiveStop ∨
    msg = FdirState.stateReconfigured)

/-- The safety states that block. -/
def estopBlocks (msg : UInt8) : Bool := decide (msg = SafetyStateMsg.emergency)

section Deadzone

variable {V : Type} [VelocityScalar V]

open VelocityScalar

/-- The zero-velocity test of `teleop_callback`: inside the 0.001 deadzone. -/
def isZeroCmd (msg : Twist V) : Bool :=
  hypotLt msg.linear.x msg.linear.y (1 / 1000) && lt (scalarAbs msg.angular.z) (ofRat (1 / 1000))

/-- One component of the EMA filter. -/
def ema (alpha : ℚ) (target current : V) : V := ofRat alpha * target + ofRat (1 - alpha) * current

end Deadzone

namespace TwistMuxNode

/-! ## The state -/

section State

variable {V : Type}

/-- Commands are dropped while blocked, and while the node is being destroyed. -/
def listens (s : TwistMuxNode V) : Bool := !s.isShuttingDown && !s.isSafetyBlocked

/-- The mode is one whose command `control_loop` can route. -/
def Routable (s : TwistMuxNode V) : Prop := s.currentState = .manual ∨ s.currentState = .autonomous

instance (s : TwistMuxNode V) : Decidable s.Routable := inferInstanceAs (Decidable (_ ∨ _))

/-- Both command sources have been silent longer than `command_timeout`. -/
def Silent (s : TwistMuxNode V) (now : Time) : Prop :=
  s.cmdTimeout < now - s.lastTeleopTime ∧ s.cmdTimeout < now - s.lastNavTime

instance (s : TwistMuxNode V) (now : Time) : Decidable (s.Silent now) :=
  inferInstanceAs (Decidable (_ ∧ _))

theorem listens_iff (s : TwistMuxNode V) :
    s.listens = true ↔ s.isShuttingDown = false ∧ s.isSafetyBlocked = false := by
  simp [listens]

theorem not_silent_iff (s : TwistMuxNode V) (now : Time) :
    ¬ s.Silent now ↔ now - s.lastTeleopTime ≤ s.cmdTimeout ∨ now - s.lastNavTime ≤ s.cmdTimeout := by
  rw [Silent, not_and_or, not_lt, not_lt]

/-- Once both sources are silent they stay so as time passes. -/
theorem Silent.mono {s : TwistMuxNode V} {t t' : Time} (h : s.Silent t) (ht : t ≤ t') :
    s.Silent t' := by
  obtain ⟨h₁, h₂⟩ := h
  exact ⟨by linarith, by linarith⟩

/-- The node is blocked exactly if one of the two sources blocks it. -/
def Merged (s : TwistMuxNode V) : Prop := s.isSafetyBlocked = (s.isFdirBlocked || s.isEstopBlocked)

end State

variable {V : Type} [VelocityScalar V]

/-! ## Lifecycle -/

/-- The constructor, which reads the clock. -/
def construct (now : Time) : TwistMuxNode V where
  smoothPub := none
  statePub := none
  navClient := false
  targetVel := 0
  currentVel := 0
  lastTeleopMsg := 0
  lastNavMsg := 0
  lastTeleopTime := now
  lastNavTime := now
  currentState := .ucfg
  isSafetyBlocked := false
  isFdirBlocked := false
  isEstopBlocked := false
  manualTimeout := 2
  cmdTimeout := 1 / 2
  emaAlpha := 1 / 10
  maxSpeedNormal := 0
  maxSpeedDegraded := 0
  isDegraded := false
  isShuttingDown := false

def onConfigure (s : TwistMuxNode V) (params : TwistMuxParams) : TwistMuxNode V :=
  { s with
    cmdTimeout := params.commandTimeout
    manualTimeout := params.manualTakeoverTime
    emaAlpha := params.emaAlpha
    maxSpeedNormal := params.maxSpeedNormal
    maxSpeedDegraded := params.maxSpeedDegraded
    smoothPub := LifecyclePublisher.created
    statePub := LifecyclePublisher.created
    navClient := true }

def onActivate (s : TwistMuxNode V) (now : Time) : TwistMuxNode V :=
  let pastTime := now - (s.manualTimeout + 1)
  { s with
    smoothPub := s.smoothPub.onActivate
    statePub := s.statePub.onActivate
    lastTeleopTime := pastTime
    lastNavTime := pastTime
    currentState := .idle }

/-- A node configured with the declared default parameters. -/
def configured : TwistMuxNode ℚ := onConfigure (construct 0) {}

/-! ## Message callbacks -/

def fdirStateCallback (s : TwistMuxNode V) (msg : UInt8) : TwistMuxNode V :=
  { s with
    isDegraded := decide (msg = FdirState.stateDegraded)
    isFdirBlocked := fdirBlocks msg
    isSafetyBlocked := fdirBlocks msg || s.isEstopBlocked }

def safetyStateCallback (s : TwistMuxNode V) (msg : UInt8) : TwistMuxNode V :=
  { s with
    isEstopBlocked := estopBlocks msg
    isSafetyBlocked := s.isFdirBlocked || estopBlocks msg }

/-- The rest of `teleop_callback`, for a message that is not dropped. -/
def acceptTeleop (s : TwistMuxNode V) (now : Time) (serverReady : Bool) (msg : Twist V) :
    TwistMuxNode V × List (MuxOutput V) :=
  if isZeroCmd msg then
    -- stored for a smooth deceleration, but the lockout timer is not extended
    ({ s with lastTeleopMsg := msg }, [])
  else
    ({ s with lastTeleopTime := now, currentState := .manual, lastTeleopMsg := msg },
      if s.currentState = .autonomous ∧ s.navClient ∧ serverReady then [.cancelAllGoals] else [])

def teleopCallback (s : TwistMuxNode V) (now : Time) (serverReady : Bool) (msg : Twist V) :
    TwistMuxNode V × List (MuxOutput V) :=
  if s.listens = false then (s, []) else s.acceptTeleop now serverReady msg

/-- The rest of `nav_callback`, for a message that is not dropped. -/
def acceptNav (s : TwistMuxNode V) (stamp now : Time) (msg : Twist V) : TwistMuxNode V :=
  if now - s.lastTeleopTime < s.manualTimeout then
    -- locked out by a recent manual command; the timestamp is already written
    { s with lastNavTime := stamp }
  else { s with lastNavTime := stamp, currentState := .autonomous, lastNavMsg := msg }

def navCallback (s : TwistMuxNode V) (stamp now : Time) (msg : Twist V) : TwistMuxNode V :=
  if s.listens = false then s else s.acceptNav stamp now msg

/-! ## The 100 Hz tick -/

/-- The byte `publish_state` sends for a state. -/
def stateByte : TwistMuxState → UInt8
  | .idle => TwistMuxStateMsg.idle
  | .manual => TwistMuxStateMsg.manual
  | .autonomous => TwistMuxStateMsg.autonomous
  | .blocked => TwistMuxStateMsg.blockedBySafety
  | .ucfg => TwistMuxStateMsg.blockedBySafety

def publishState (s : TwistMuxNode V) : List (MuxOutput V) :=
  if s.statePub.isActivated then [.muxState (stateByte s.currentState)] else []

/-- The target selection of `control_loop`, with the exception of its last branch. -/
def selectTarget (s : TwistMuxNode V) (now : Time) : Except String (TwistMuxNode V) :=
  if s.isSafetyBlocked then .ok { s with currentState := .blocked, targetVel := 0 }
  else if s.Silent now then .ok { s with currentState := .idle, targetVel := 0 }
  else match s.currentState with
    | .manual => .ok { s with targetVel := s.lastTeleopMsg }
    | .autonomous => .ok { s with targetVel := s.lastNavMsg }
    | _ => .error "TwistMuxNode: Undefined state machine state detected."

/-- The limit in force. -/
def currentMaxSpeed (s : TwistMuxNode V) : ℚ :=
  if s.isDegraded then s.maxSpeedDegraded else s.maxSpeedNormal

/-- The EMA filter and the saturation of one component. -/
def smooth (s : TwistMuxNode V) (target current : V) : V :=
  clamp (ema s.emaAlpha target current) (-VelocityScalar.ofRat s.currentMaxSpeed)
    (VelocityScalar.ofRat s.currentMaxSpeed)

/-- The EMA filter and the clamping of `control_loop`. -/
def filterVelocity (s : TwistMuxNode V) : TwistMuxNode V :=
  { s with
    currentVel :=
      { linear :=
          { s.currentVel.linear with
            x := s.smooth s.targetVel.linear.x s.currentVel.linear.x
            y := s.smooth s.targetVel.linear.y s.currentVel.linear.y }
        angular :=
          { s.currentVel.angular with
            z := s.smooth s.targetVel.angular.z s.currentVel.angular.z } } }

def controlLoop (s : TwistMuxNode V) (now : Time) :
    Except String (TwistMuxNode V × List (MuxOutput V)) :=
  if s.smoothPub.isActivated = false then .ok (s, [])
  else (s.selectTarget now).map fun s' =>
    (s'.filterVelocity, s'.publishState ++ [.cmdVelSmoothed s'.filterVelocity.currentVel])

/-- The messages on `cmd_vel_smoothed`. -/
def cmdVels (o : List (MuxOutput V)) : List (Twist V) :=
  o.filterMap fun
    | .cmdVelSmoothed msg => some msg
    | _ => none

omit [VelocityScalar V] in
@[simp] theorem cmdVels_tick (s : TwistMuxNode V) (msg : Twist V) :
    cmdVels (s.publishState ++ [.cmdVelSmoothed msg]) = [msg] := by
  unfold publishState
  split_ifs <;> rfl

@[simp] theorem cmdVels_teleopCallback (s : TwistMuxNode V) (now : Time) (ready : Bool)
    (msg : Twist V) : cmdVels (s.teleopCallback now ready msg).2 = [] := by
  unfold teleopCallback acceptTeleop
  split_ifs <;> rfl

/-! ## The machine of an activated node -/

/-- The callback of an event. -/
def handle (s : TwistMuxNode V) :
    MuxEvent V → Except String (TwistMuxNode V × List (MuxOutput V))
  | .teleop now serverReady msg => .ok (s.teleopCallback now serverReady msg)
  | .nav stamp now msg => .ok (s.navCallback stamp now msg, [])
  | .fdirState _ msg => .ok (s.fdirStateCallback msg, [])
  | .safetyState _ msg => .ok (s.safetyStateCallback msg, [])
  | .controlLoop now => s.controlLoop now

/-- Events in any order, with clock readings that never decrease. -/
def events : Machine (Clocked (TwistMuxNode V)) (MuxEvent V) (List (MuxOutput V)) where
  step x e :=
    if x.clock ≤ e.start ∧ e.start ≤ e.finish then
      (x.node.handle e).toOption.map fun r => (⟨e.finish, r.1⟩, r.2)
    else none

/-- The node right after an `on_activate` at time `now`, whatever state it was left in before. -/
def activated (s : TwistMuxNode V) (now : Time) : Clocked (TwistMuxNode V) :=
  ⟨now, s.onActivate now⟩

/-! ## What a step does -/

/-- A step of the activated node. -/
abbrev MuxStep (V : Type) := Step (Clocked (TwistMuxNode V)) (MuxEvent V) (List (MuxOutput V))

/-- The steps of the machine, one case for each callback. -/
@[elab_as_elim]
theorem takes_rec {motive : ∀ e : MuxStep V, events.Takes e → Prop}
    (teleop : ∀ (x : Clocked (TwistMuxNode V)) (now : Time) (ready : Bool) (msg : Twist V)
      (_ : x.clock ≤ now) h, motive ⟨x, .teleop now ready msg,
        (x.node.teleopCallback now ready msg).2,
        ⟨now, (x.node.teleopCallback now ready msg).1⟩⟩ h)
    (nav : ∀ (x : Clocked (TwistMuxNode V)) (stamp now : Time) (msg : Twist V)
      (_ : x.clock ≤ stamp) (_ : stamp ≤ now) h,
      motive ⟨x, .nav stamp now msg, [], ⟨now, x.node.navCallback stamp now msg⟩⟩ h)
    (fdirState : ∀ (x : Clocked (TwistMuxNode V)) (now : Time) (msg : UInt8)
      (_ : x.clock ≤ now) h,
      motive ⟨x, .fdirState now msg, [], ⟨now, x.node.fdirStateCallback msg⟩⟩ h)
    (safetyState : ∀ (x : Clocked (TwistMuxNode V)) (now : Time) (msg : UInt8)
      (_ : x.clock ≤ now) h,
      motive ⟨x, .safetyState now msg, [], ⟨now, x.node.safetyStateCallback msg⟩⟩ h)
    (controlLoop : ∀ (x : Clocked (TwistMuxNode V)) (now : Time) (s : TwistMuxNode V)
      (o : List (MuxOutput V)) (_ : x.clock ≤ now) (_ : x.node.controlLoop now = .ok (s, o)) h,
      motive ⟨x, .controlLoop now, o, ⟨now, s⟩⟩ h)
    (e : MuxStep V) (he : events.Takes e) : motive e he := by
  obtain ⟨x, i, o, ⟨clock, s⟩⟩ := e
  have hstep := he
  simp only [Machine.Takes, events] at hstep
  split_ifs at hstep with hclock
  cases hr : x.node.handle i with
  | error msg => simp [hr, Except.toOption] at hstep
  | ok r =>
    simp only [hr, Except.toOption, Option.map_some, Option.some.injEq, Prod.mk.injEq,
      Clocked.mk.injEq] at hstep
    obtain ⟨⟨rfl, rfl⟩, rfl⟩ := hstep
    cases i with
    | teleop now ready msg =>
      obtain rfl := Except.ok.inj hr
      exact teleop x now ready msg hclock.1 he
    | nav stamp now msg =>
      obtain rfl := Except.ok.inj hr
      exact nav x stamp now msg hclock.1 hclock.2 he
    | fdirState now msg =>
      obtain rfl := Except.ok.inj hr
      exact fdirState x now msg hclock.1 he
    | safetyState now msg =>
      obtain rfl := Except.ok.inj hr
      exact safetyState x now msg hclock.1 he
    | controlLoop now => exact controlLoop x now r.1 r.2 hclock.1 hr he

/-- A teleop message is dropped, stored as a near-zero command, or accepted as a manual command. -/
theorem teleopCallback_cases (s : TwistMuxNode V) (now : Time) (ready : Bool) (msg : Twist V) :
    (s.listens = false ∧ (s.teleopCallback now ready msg).1 = s) ∨
    (s.listens = true ∧ isZeroCmd msg = true ∧
      (s.teleopCallback now ready msg).1 = { s with lastTeleopMsg := msg }) ∨
    (s.listens = true ∧ isZeroCmd msg = false ∧ (s.teleopCallback now ready msg).1 =
      { s with lastTeleopTime := now, currentState := .manual, lastTeleopMsg := msg }) := by
  by_cases hl : s.listens = true
  · by_cases hz : isZeroCmd msg = true
    · exact Or.inr (Or.inl ⟨hl, hz, by simp [teleopCallback, acceptTeleop, hl, hz]⟩)
    · exact Or.inr (Or.inr ⟨hl, by simpa using hz, by simp [teleopCallback, acceptTeleop, hl, hz]⟩)
  · exact Or.inl ⟨by simpa using hl, by simp [teleopCallback, hl]⟩

omit [VelocityScalar V] in
/-- A nav message is dropped, stamped but locked out, or accepted. -/
theorem navCallback_cases (s : TwistMuxNode V) (stamp now : Time) (msg : Twist V) :
    (s.listens = false ∧ s.navCallback stamp now msg = s) ∨
    (s.listens = true ∧ now - s.lastTeleopTime < s.manualTimeout ∧
      s.navCallback stamp now msg = { s with lastNavTime := stamp }) ∨
    (s.listens = true ∧ s.manualTimeout ≤ now - s.lastTeleopTime ∧ s.navCallback stamp now msg =
      { s with lastNavTime := stamp, currentState := .autonomous, lastNavMsg := msg }) := by
  by_cases hl : s.listens = true
  · by_cases hlock : now - s.lastTeleopTime < s.manualTimeout
    · exact Or.inr (Or.inl ⟨hl, hlock, by simp [navCallback, acceptNav, hl, hlock]⟩)
    · exact Or.inr (Or.inr ⟨hl, not_lt.1 hlock, by simp [navCallback, acceptNav, hl, hlock]⟩)
  · exact Or.inl ⟨by simpa using hl, by simp [navCallback, hl]⟩

/-- The four ways in which the target is selected. -/
theorem selectTarget_cases {s s' : TwistMuxNode V} {now : Time} (h : s.selectTarget now = .ok s') :
    (s.isSafetyBlocked = true ∧ s' = { s with currentState := .blocked, targetVel := 0 }) ∨
    (s.isSafetyBlocked = false ∧ s.Silent now ∧
      s' = { s with currentState := .idle, targetVel := 0 }) ∨
    (s.isSafetyBlocked = false ∧ ¬ s.Silent now ∧ s.currentState = .manual ∧
      s' = { s with targetVel := s.lastTeleopMsg }) ∨
    (s.isSafetyBlocked = false ∧ ¬ s.Silent now ∧ s.currentState = .autonomous ∧
      s' = { s with targetVel := s.lastNavMsg }) := by
  unfold selectTarget at h
  split_ifs at h with hb hs
  · exact Or.inl ⟨hb, by simpa using h.symm⟩
  · exact Or.inr (Or.inl ⟨by simpa using hb, hs, by simpa using h.symm⟩)
  · cases hm : s.currentState with
    | manual =>
      rw [hm] at h
      exact Or.inr (Or.inr (Or.inl ⟨by simpa using hb, hs, rfl, by simpa using h.symm⟩))
    | autonomous =>
      rw [hm] at h
      exact Or.inr (Or.inr (Or.inr ⟨by simpa using hb, hs, rfl, by simpa using h.symm⟩))
    | ucfg | idle | blocked => rw [hm] at h; cases h

/-- What a routing tick selects. -/
theorem selectTarget_manual {s : TwistMuxNode V} {now : Time} (hb : s.isSafetyBlocked = false)
    (hs : ¬ s.Silent now) (hm : s.currentState = .manual) :
    s.selectTarget now = .ok { s with targetVel := s.lastTeleopMsg } := by
  simp [selectTarget, hb, hs, hm]

theorem selectTarget_autonomous {s : TwistMuxNode V} {now : Time} (hb : s.isSafetyBlocked = false)
    (hs : ¬ s.Silent now) (hm : s.currentState = .autonomous) :
    s.selectTarget now = .ok { s with targetVel := s.lastNavMsg } := by
  simp [selectTarget, hb, hs, hm]

/-- A completed tick either finds its publisher inactive and does nothing, or selects a target and
filters it. -/
theorem controlLoop_cases {s s' : TwistMuxNode V} {now : Time} {o : List (MuxOutput V)}
    (h : s.controlLoop now = .ok (s', o)) :
    (s.smoothPub.isActivated = false ∧ s' = s ∧ o = []) ∨
    (s.smoothPub.isActivated = true ∧ ∃ r, s.selectTarget now = .ok r ∧ s' = r.filterVelocity ∧
      o = r.publishState ++ [.cmdVelSmoothed r.filterVelocity.currentVel]) := by
  unfold controlLoop at h
  split_ifs at h with hp
  · simp only [Except.ok.injEq, Prod.mk.injEq] at h
    exact Or.inl ⟨hp, h.1.symm, h.2.symm⟩
  · cases hr : s.selectTarget now with
    | error msg => simp [hr, Except.map] at h
    | ok r =>
      simp only [hr, Except.map, Except.ok.injEq, Prod.mk.injEq] at h
      exact Or.inr ⟨by simpa using hp, r, rfl, h.1.symm, h.2.symm⟩

/-- The undefined-state branch. -/
theorem controlLoop_throws {s : TwistMuxNode V} {now : Time} (hp : s.smoothPub.isActivated = true)
    (hb : s.isSafetyBlocked = false) (hs : ¬ s.Silent now) (hr : ¬ s.Routable) :
    s.controlLoop now = .error "TwistMuxNode: Undefined state machine state detected." := by
  have hsel : s.selectTarget now =
      .error "TwistMuxNode: Undefined state machine state detected." := by
    unfold selectTarget
    cases hm : s.currentState <;> simp_all [Routable]
  simp [controlLoop, hp, hsel, Except.map]

/-- A tick throws exactly when it has to route a command in neither control mode. -/
theorem controlLoop_isOk_iff (s : TwistMuxNode V) (now : Time) :
    (∃ r, s.controlLoop now = .ok r) ↔
      s.smoothPub.isActivated = false ∨ s.isSafetyBlocked = true ∨ s.Silent now ∨ s.Routable := by
  unfold controlLoop selectTarget Routable
  split_ifs with hp hb hs
  · simp [hp]
  · simp [hb, Except.map]
  · simp [hs, Except.map]
  · cases hm : s.currentState <;> simp [hp, hb, hs, Except.map]

/-- Only a tick publishes a velocity. -/
theorem cmdVels_step {e : MuxStep V} (he : events.Takes e)
    (hi : ∀ now, e.input ≠ .controlLoop now) : cmdVels e.output = [] := by
  induction e, he using takes_rec with
  | teleop x now ready msg hnow => exact cmdVels_teleopCallback ..
  | controlLoop x now s o hnow htick => exact absurd rfl (hi now)
  | _ => rfl

/-- Only the two state callbacks write the block flags. -/
theorem blockFlags_step {e : MuxStep V} (he : events.Takes e) :
    (∃ now msg, e.input = .fdirState now msg ∧ e.post.node = e.pre.node.fdirStateCallback msg) ∨
    (∃ now msg, e.input = .safetyState now msg ∧
      e.post.node = e.pre.node.safetyStateCallback msg) ∨
    ((∀ now msg, e.input ≠ .safetyState now msg) ∧
      e.post.node.isFdirBlocked = e.pre.node.isFdirBlocked ∧
      e.post.node.isEstopBlocked = e.pre.node.isEstopBlocked ∧
      e.post.node.isSafetyBlocked = e.pre.node.isSafetyBlocked) := by
  induction e, he using takes_rec with
  | teleop x now ready msg hnow =>
    refine Or.inr (Or.inr ⟨by simp, ?_⟩)
    rcases x.node.teleopCallback_cases now ready msg with ⟨-, h⟩ | ⟨-, -, h⟩ | ⟨-, -, h⟩ <;>
      simp only [h, and_self]
  | nav x stamp now msg hstamp hnow =>
    refine Or.inr (Or.inr ⟨by simp, ?_⟩)
    rcases x.node.navCallback_cases stamp now msg with ⟨-, h⟩ | ⟨-, -, h⟩ | ⟨-, -, h⟩ <;>
      simp only [h, and_self]
  | fdirState x now msg hnow => exact Or.inl ⟨now, msg, rfl, rfl⟩
  | safetyState x now msg hnow => exact Or.inr (Or.inl ⟨now, msg, rfl, rfl⟩)
  | controlLoop x now s o hnow htick =>
    refine Or.inr (Or.inr ⟨by simp, ?_⟩)
    rcases controlLoop_cases htick with ⟨-, rfl, -⟩ | ⟨-, r, hr, rfl, -⟩
    · exact ⟨rfl, rfl, rfl⟩
    · rcases selectTarget_cases hr with ⟨-, rfl⟩ | ⟨-, -, rfl⟩ | ⟨-, -, -, rfl⟩ | ⟨-, -, -, rfl⟩ <;>
        exact ⟨rfl, rfl, rfl⟩

theorem merged_step {e : MuxStep V} (he : events.Takes e) (h : Merged e.pre.node) :
    Merged e.post.node := by
  rcases blockFlags_step he with ⟨_, _, -, hpost⟩ | ⟨_, _, -, hpost⟩ | ⟨-, hfdir, hestop, hsafety⟩
  · rw [hpost]
    rfl
  · rw [hpost]
    rfl
  · rw [Merged, hfdir, hestop, hsafety]
    exact h

/-! ## Ticks -/

/-- A step in which `control_loop` finds its publisher active, and completes. -/
def Ticks (e : MuxStep V) : Prop :=
  match e.input with
  | .controlLoop _ => e.pre.node.smoothPub.isActivated = true
  | _ => False

instance (e : MuxStep V) : Decidable (Ticks e) :=
  match e with
  | ⟨_, .controlLoop _, _, _⟩ => inferInstanceAs (Decidable (_ = _))
  | ⟨_, .teleop .., _, _⟩ | ⟨_, .nav .., _, _⟩ | ⟨_, .fdirState .., _, _⟩
  | ⟨_, .safetyState .., _, _⟩ => inferInstanceAs (Decidable False)

theorem component_filterVelocity (s : TwistMuxNode V) (a : Axis) :
    s.filterVelocity.currentVel.component a =
      s.smooth (s.targetVel.component a) (s.currentVel.component a) := by
  cases a <;> rfl

/-- A tick filters every component towards the target it selects, with the limit in force. -/
theorem tick_filters {e : MuxStep V} (he : events.Takes e) (ht : Ticks e) (a : Axis) :
    cmdVels e.output = [e.post.node.currentVel] ∧
    e.post.node.currentMaxSpeed = e.pre.node.currentMaxSpeed ∧
    (e.post.node.currentState = .blocked ∨ e.post.node.currentState = .idle →
      e.post.node.targetVel = 0) ∧
    e.post.node.currentVel.component a =
      e.post.node.smooth (e.post.node.targetVel.component a) (e.pre.node.currentVel.component a) := by
  induction e, he using takes_rec with
  | controlLoop x now s o hnow htick =>
    rcases controlLoop_cases htick with ⟨hp, -⟩ | ⟨-, r, hr, rfl, rfl⟩
    · exact absurd (hp.symm.trans ht) Bool.false_ne_true
    rcases selectTarget_cases hr with ⟨-, rfl⟩ | ⟨-, -, rfl⟩ | ⟨-, -, hm, rfl⟩ | ⟨-, -, hm, rfl⟩
    · exact ⟨cmdVels_tick .., rfl, fun _ => rfl, component_filterVelocity ..⟩
    · exact ⟨cmdVels_tick .., rfl, fun _ => rfl, component_filterVelocity ..⟩
    · exact ⟨cmdVels_tick .., rfl, by simp [filterVelocity, hm], component_filterVelocity ..⟩
    · exact ⟨cmdVels_tick .., rfl, by simp [filterVelocity, hm], component_filterVelocity ..⟩
  | _ => exact ht.elim

/-- Without a tick no velocity is published, and the filter keeps its value. -/
theorem not_ticks {e : MuxStep V} (he : events.Takes e) (ht : ¬ Ticks e) :
    cmdVels e.output = [] ∧ e.post.node.currentVel = e.pre.node.currentVel := by
  induction e, he using takes_rec with
  | teleop x now ready msg hnow =>
    refine ⟨cmdVels_teleopCallback .., ?_⟩
    rcases x.node.teleopCallback_cases now ready msg with ⟨-, h⟩ | ⟨-, -, h⟩ | ⟨-, -, h⟩ <;> rw [h]
  | nav x stamp now msg hstamp hnow =>
    refine ⟨rfl, ?_⟩
    rcases x.node.navCallback_cases stamp now msg with ⟨-, h⟩ | ⟨-, -, h⟩ | ⟨-, -, h⟩ <;> rw [h]
  | fdirState x now msg hnow => exact ⟨rfl, rfl⟩
  | safetyState x now msg hnow => exact ⟨rfl, rfl⟩
  | controlLoop x now s o hnow htick =>
    rcases controlLoop_cases htick with ⟨-, rfl, rfl⟩ | ⟨hp, -⟩
    · exact ⟨rfl, rfl⟩
    · exact absurd hp ht

/-- The command that a tick at `now` selects by its mode. -/
def Selects (s : TwistMuxNode V) (now : Time) (msg : Twist V) : Prop :=
  s.isSafetyBlocked = false ∧ ¬ s.Silent now ∧
    (s.currentState = .manual ∧ msg = s.lastTeleopMsg ∨
      s.currentState = .autonomous ∧ msg = s.lastNavMsg)

/-- A completed tick has the target zero, or the command that it selects. -/
theorem tick_target {e : MuxStep V} (he : events.Takes e) (ht : Ticks e) {now : Time}
    (hin : e.input = .controlLoop now) :
    (e.post.node.targetVel = 0 ∧ ∀ msg, ¬ e.pre.node.Selects now msg) ∨
      ∀ msg, e.pre.node.Selects now msg ↔ msg = e.post.node.targetVel := by
  induction e, he using takes_rec with
  | controlLoop x now' s o hnow htick =>
    obtain rfl := MuxEvent.controlLoop.inj hin
    rcases controlLoop_cases htick with ⟨hp, -⟩ | ⟨-, r, hr, rfl, rfl⟩
    · exact absurd (hp.symm.trans ht) Bool.false_ne_true
    rcases selectTarget_cases hr with ⟨hb, rfl⟩ | ⟨-, hs, rfl⟩ | ⟨hb, hs, hm, rfl⟩ | ⟨hb, hs, hm, rfl⟩
    · exact Or.inl ⟨rfl, fun msg h => absurd (hb.symm.trans h.1) (by decide)⟩
    · exact Or.inl ⟨rfl, fun msg h => h.2.1 hs⟩
    · exact Or.inr fun msg => by simp [Selects, hb, hs, hm, filterVelocity]
    · exact Or.inr fun msg => by simp [Selects, hb, hs, hm, filterVelocity]
  | _ => cases hin

end TwistMuxNode

end MonaRobot
