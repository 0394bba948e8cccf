import MonaRobot.Foundations.Machine
import MonaRobot.Lifecycle
import MonaRobot.Msgs

/-!
# The safety node

`mona_safety::SafetyNode`: the state members of the node with its lifecycle state and its handles,
and its callbacks, each a function of the state and the message to the next state and to what is
sent. Every callback runs as one step.

`SafetyNode.events` is the machine of the node from its construction on: lifecycle transitions,
messages and service requests in any order. A transition that is not permitted is refused, and a
message or request without its subscription or service is not delivered; both leave the node as it
is. `Wired` says how the handles follow the lifecycle; with it, no callback dereferences a null
publisher.
-/

namespace MonaRobot

open Reactive

/-- `SafetyState`. -/
inductive SafetyState
  | normal
  /-- Performance issues detected: slow mode. -/
  | degraded
  /-- Stopped, waiting for a primary node to reboot. -/
  | protectiveStop
  /-- E-stop active. -/
  | emergency
  deriving DecidableEq

/-- The state members of the node. A subscription or a service is present or not. -/
structure SafetyNode where
  lifecycle : PrimaryState
  smoothSub : Bool
  healthSub : Bool
  muxStateSub : Bool
  odomSub : Bool
  srvEstop : Bool
  srvEstopReset : Bool
  motorPub : LifecyclePublisher
  safetyStatePub : LifecyclePublisher
  contactorPub : LifecyclePublisher
  currentState : SafetyState
  lastFdirState : UInt8
  lastMuxState : UInt8
  eStopActive : Bool
  isProcessingAllowed : Bool
  hardwareContactorsClosed : Bool
  maxSpeedNormal : ℚ
  maxSpeedDegraded : ℚ
  deriving DecidableEq

/-- What the node sends: its three topics and the response of a service. -/
inductive SafetyOutput (V : Type)
  | motorCmd (msg : Twist V)
  | contactors (data : Bool)
  | safetyState (currentState : UInt8) (message : String)
  | response (success : Bool) (message : String)
  deriving DecidableEq

/-- A lifecycle transition, a message or a service request. `configure` carries the parameters read
by `on_configure`, and `error` is the error processing of a transition. -/
inductive SafetyEvent (V : Type)
  | configure (maxSpeedNormal maxSpeedDegraded : ℚ)
  | activate
  | deactivate
  | cleanup
  | shutdown
  | error
  | smoothedVel (msg : Twist V)
  | healthState (currentState : UInt8)
  | muxState (currentState : UInt8)
  | odom (twist : Twist V)
  | estop
  | estopReset
  deriving DecidableEq

namespace SafetyNode

/-- The constructor. -/
def construct : SafetyNode where
  lifecycle := .unconfigured
  smoothSub := false
  healthSub := false
  muxStateSub := false
  odomSub := false
  srvEstop := false
  srvEstopReset := false
  motorPub := none
  safetyStatePub := none
  contactorPub := none
  currentState := .normal
  lastFdirState := 255
  lastMuxState := TwistMuxStateMsg.idle
  eStopActive := false
  isProcessingAllowed := false
  hardwareContactorsClosed := false
  maxSpeedNormal := 0
  maxSpeedDegraded := 0

/-! ## What the node sends -/

/-- The mode of the mux, as `safety_state_to_string` names it. -/
def muxStr (s : SafetyNode) : String :=
  if s.lastMuxState = TwistMuxStateMsg.idle then "IDLE"
  else if s.lastMuxState = TwistMuxStateMsg.manual then "MANUAL"
  else if s.lastMuxState = TwistMuxStateMsg.autonomous then "AUTONOMOUS"
  else if s.lastMuxState = TwistMuxStateMsg.blockedBySafety then "BLOCKED"
  else "UNKNOWN"

def safetyStateToString (s : SafetyNode) : SafetyState → String
  | .normal => "NORMAL: " ++ s.muxStr
  | .degraded => "DEGRADED: " ++ s.muxStr
  | .protectiveStop => "PROTECTIVE_STOP"
  | .emergency => "EMERGENCY"

/-- The byte of `mona_msgs/SafetyState` for a state. -/
def stateByte : SafetyState → UInt8
  | .normal => SafetyStateMsg.normal
  | .degraded => SafetyStateMsg.degraded
  | .protectiveStop => SafetyStateMsg.protectiveStop
  | .emergency => SafetyStateMsg.emergency

/-- The state `publish_global_state` broadcasts: the latch has priority over the mode. -/
def globalState (s : SafetyNode) : SafetyState :=
  if s.eStopActive then .emergency else s.currentState

/-- The summary that `produce_diagnostics` reports. -/
def produceDiagnostics (s : SafetyNode) : UInt8 × String :=
  if s.hardwareContactorsClosed then (DiagnosticStatus.ok, "System Normal. Contactors Closed.")
  else (DiagnosticStatus.warn, "System Offline. Contactors Opened.")

/-- The limit in force. -/
def currentLimit (s : SafetyNode) : ℚ :=
  if s.currentState = .degraded then s.maxSpeedDegraded else s.maxSpeedNormal

/-- The motion gate of `smoothed_vel_callback` is shut: velocities are answered by a stop. -/
def MotionShut (s : SafetyNode) : Prop :=
  s.eStopActive = true ∨ s.currentState = .protectiveStop ∨ s.currentState = .emergency

instance (s : SafetyNode) : Decidable s.MotionShut :=
  inferInstanceAs (Decidable (_ ∨ _ ∨ _))

section Callbacks

variable {V : Type}

/-- Close or open the contactors; nothing is sent when they already are. -/
def setHardwareContactors (s : SafetyNode) (enable : Bool) : SafetyNode × List (SafetyOutput V) :=
  if s.hardwareContactorsClosed = enable then (s, [])
  else ({ s with hardwareContactorsClosed := enable },
    if s.contactorPub.isActivated then [.contactors enable] else [])

def publishGlobalState (s : SafetyNode) : List (SafetyOutput V) :=
  if s.safetyStatePub.isActivated then
    [.safetyState (stateByte s.globalState) (s.safetyStateToString s.globalState)]
  else []

/-- Afterwards the flag is as commanded, whether or not anything was sent. -/
@[simp] theorem setHardwareContactors_fst (s : SafetyNode) (enable : Bool) :
    (s.setHardwareContactors (V := V) enable).1 = { s with hardwareContactorsClosed := enable } := by
  unfold setHardwareContactors
  split_ifs with h
  · rw [← h]
  · rfl
  · rfl

theorem setHardwareContactors_mem {s : SafetyNode} {enable : Bool} {o : SafetyOutput V}
    (h : o ∈ (s.setHardwareContactors enable).2) : o = .contactors enable := by
  unfold setHardwareContactors at h
  split_ifs at h <;> simp_all

/-- A change of the contactors is sent while the publisher is active. -/
theorem setHardwareContactors_snd {s : SafetyNode} {enable : Bool}
    (h : s.hardwareContactorsClosed ≠ enable) (hp : s.contactorPub.isActivated = true) :
    (s.setHardwareContactors (V := V) enable).2 = [.contactors enable] := by
  rw [setHardwareContactors, if_neg h, if_pos hp]

theorem publishGlobalState_mem {s : SafetyNode} {o : SafetyOutput V}
    (h : o ∈ s.publishGlobalState) :
    o = .safetyState (stateByte s.globalState) (s.safetyStateToString s.globalState) := by
  unfold publishGlobalState at h
  split_ifs at h <;> simp_all

/-! ## Lifecycle -/

def onConfigure (s : SafetyNode) (maxSpeedNormal maxSpeedDegraded : ℚ) :
    SafetyNode × List (SafetyOutput V) :=
  ({ s with
      maxSpeedNormal := maxSpeedNormal
      maxSpeedDegraded := maxSpeedDegraded
      smoothSub := true
      healthSub := true
      muxStateSub := true
      odomSub := true
      srvEstop := true
      srvEstopReset := true
      motorPub := LifecyclePublisher.created
      safetyStatePub := LifecyclePublisher.created
      contactorPub := LifecyclePublisher.created }, [])

/-- The publishers are activated before the contactors are opened, so the command is sent. -/
def onActivate (s : SafetyNode) : SafetyNode × List (SafetyOutput V) :=
  setHardwareContactors
    { s with
      isProcessingAllowed := true
      motorPub := s.motorPub.onActivate
      safetyStatePub := s.safetyStatePub.onActivate
      contactorPub := s.contactorPub.onActivate } false

/-- Processing ends and the contactors are opened: how the other transitions begin. -/
def halt (s : SafetyNode) : SafetyNode × List (SafetyOutput V) :=
  setHardwareContactors { s with isProcessingAllowed := false } false

def onDeactivate (s : SafetyNode) : SafetyNode × List (SafetyOutput V) :=
  let r := s.halt
  ({ r.1 with
      motorPub := r.1.motorPub.onDeactivate
      safetyStatePub := r.1.safetyStatePub.onDeactivate
      contactorPub := r.1.contactorPub.onDeactivate }, r.2)

def onCleanup (s : SafetyNode) : SafetyNode × List (SafetyOutput V) :=
  let r := s.halt
  ({ r.1 with
      smoothSub := false
      healthSub := false
      muxStateSub := false
      odomSub := false
      srvEstop := false
      srvEstopReset := false
      motorPub := none
      safetyStatePub := none
      contactorPub := none }, r.2)

def onShutdown (s : SafetyNode) : SafetyNode × List (SafetyOutput V) := s.halt

def onError (s : SafetyNode) : SafetyNode × List (SafetyOutput V) := s.halt

/-! ## Message callbacks -/

variable [VelocityScalar V]

def publishStop (s : SafetyNode) : List (SafetyOutput V) :=
  if s.motorPub.isActivated then [.motorCmd 0] else []

theorem publishStop_mem {s : SafetyNode} {o : SafetyOutput V} (h : o ∈ s.publishStop) :
    o = .motorCmd 0 := by
  unfold publishStop at h
  split_ifs at h <;> simp_all

/-- A velocity with the three driving components limited to `±limit`. -/
def clip (limit : ℚ) (msg : Twist V) : Twist V :=
  let c := fun v : V => clamp v (-VelocityScalar.ofRat limit) (VelocityScalar.ofRat limit)
  { linear := { msg.linear with x := c msg.linear.x, y := c msg.linear.y }
    angular := { msg.angular with z := c msg.angular.z } }

def smoothedVelCallback (s : SafetyNode) (msg : Twist V) : SafetyNode × List (SafetyOutput V) :=
  if s.isProcessingAllowed = false ∨ s.motorPub.isActivated = false then (s, [])
  else if s.MotionShut then (s, s.publishStop)
  else (s, [.motorCmd (clip s.currentLimit msg)])

/-- `if (!e_stop_active_) {set_hardware_contactors(true);}`. -/
def closeUnlessEstop (s : SafetyNode) : SafetyNode × List (SafetyOutput V) :=
  if s.eStopActive then (s, []) else s.setHardwareContactors true

omit [VelocityScalar V] in
@[simp] theorem closeUnlessEstop_fst (s : SafetyNode) : (s.closeUnlessEstop (V := V)).1 =
    { s with hardwareContactorsClosed := !s.eStopActive || s.hardwareContactorsClosed } := by
  unfold closeUnlessEstop
  split_ifs with hs
  · cases s
    simp_all
  · simp [hs]

/-- The branches of `health_state_callback`, for a state that has recorded the byte. -/
def applyFdirState (s : SafetyNode) (fdirState : UInt8) : SafetyNode × List (SafetyOutput V) :=
  if fdirState = FdirState.stateSystemStartup then
    let r := setHardwareContactors { s with currentState := .protectiveStop } false
    (r.1, s.publishStop ++ r.2)
  else if fdirState = FdirState.stateEmergency then
    let r := setHardwareContactors { s with eStopActive := true, currentState := .emergency } false
    (r.1, s.publishStop ++ r.2)
  else if fdirState = FdirState.stateProtectiveStop then
    -- power is on, but motion is halted
    let r := closeUnlessEstop { s with currentState := .protectiveStop }
    (r.1, s.publishStop ++ r.2)
  else if fdirState = FdirState.stateDegraded then
    closeUnlessEstop { s with currentState := .degraded }
  else if fdirState = FdirState.stateSoftwareOk then
    if s.eStopActive then (s, []) else setHardwareContactors { s with currentState := .normal } true
  else if fdirState = FdirState.stateReconfigured then
    let r := closeUnlessEstop { s with currentState := .degraded }
    (r.1, s.publishStop ++ r.2)
  else
    -- unknown byte: power is switched off, the mode is left as it is
    s.setHardwareContactors false

/-- The health bytes that close the contactors. -/
def energizes (fdirState : UInt8) : Bool :=
  decide (fdirState = FdirState.stateProtectiveStop ∨ fdirState = FdirState.stateDegraded ∨
    fdirState = FdirState.stateSoftwareOk ∨ fdirState = FdirState.stateReconfigured)

theorem energizes_emergency : energizes FdirState.stateEmergency = false := by decide

theorem energizes_unknown {fdirState : UInt8} (h : FdirState.Unknown fdirState) :
    energizes fdirState = false := by
  obtain ⟨-, h₁, h₂, h₃, h₄, -⟩ := h
  simp [energizes, h₁, h₂, h₃, h₄]

/-- The mode after a health byte. -/
def fdirMode (s : SafetyNode) (fdirState : UInt8) : SafetyState :=
  if fdirState = FdirState.stateSystemStartup ∨ fdirState = FdirState.stateProtectiveStop then
    .protectiveStop
  else if fdirState = FdirState.stateEmergency then .emergency
  else if fdirState = FdirState.stateDegraded ∨ fdirState = FdirState.stateReconfigured then
    .degraded
  else if fdirState = FdirState.stateSoftwareOk ∧ s.eStopActive = false then .normal
  else s.currentState

/-- Only a health EMERGENCY enters the mode `EMERGENCY`. -/
theorem fdirMode_emergency {s : SafetyNode} {fdirState : UInt8}
    (h : s.fdirMode fdirState = .emergency) :
    fdirState = FdirState.stateEmergency ∨ s.currentState = .emergency := by
  unfold fdirMode at h
  split_ifs at h with h₀ h₅ h₂ h₁
  · exact Or.inl h₅
  · exact Or.inr h

/-- All that a health byte changes in the state. -/
def afterFdirState (s : SafetyNode) (fdirState : UInt8) : SafetyNode :=
  { s with
    lastFdirState := fdirState
    eStopActive := s.eStopActive || decide (fdirState = FdirState.stateEmergency)
    currentState := s.fdirMode fdirState
    hardwareContactorsClosed :=
      energizes fdirState && (!s.eStopActive || s.hardwareContactorsClosed) }

theorem applyFdirState_fst (s : SafetyNode) (fdirState : UInt8) :
    (applyFdirState (V := V) { s with lastFdirState := fdirState } fdirState).1 =
      s.afterFdirState fdirState := by
  unfold afterFdirState
  rcases FdirState.cases fdirState with rfl | rfl | rfl | rfl | rfl | rfl | hmsg
  · simp +decide [applyFdirState, fdirMode, energizes]
  · cases hs : s.eStopActive
    · simp +decide [applyFdirState, fdirMode, energizes, hs]
    · cases s
      simp_all +decide [applyFdirState, fdirMode, energizes]
  · simp +decide [applyFdirState, fdirMode, energizes]
  · simp +decide [applyFdirState, fdirMode, energizes]
  · simp +decide [applyFdirState, fdirMode, energizes]
  · simp +decide [applyFdirState, fdirMode, energizes]
  · obtain ⟨h₀, h₁, h₂, h₃, h₄, h₅⟩ := hmsg
    simp [applyFdirState, fdirMode, energizes, h₀, h₁, h₂, h₃, h₄, h₅]

def healthStateCallback (s : SafetyNode) (msg : UInt8) : SafetyNode × List (SafetyOutput V) :=
  if s.isProcessingAllowed = false then (s, [])
  else applyFdirState { s with lastFdirState := msg } msg

def muxStateCallback (s : SafetyNode) (msg : UInt8) : SafetyNode × List (SafetyOutput V) :=
  if s.isProcessingAllowed = false then (s, [])
  else
    let s' := { s with lastMuxState := msg }
    (s', s'.publishGlobalState)

/-- The robot moves although it should stand still. -/
def Escalates (s : SafetyNode) (twist : Twist V) : Prop :=
  s.currentState = .protectiveStop ∧ ltHypot (1 / 20) twist.linear.x twist.linear.y = true

instance (s : SafetyNode) (twist : Twist V) : Decidable (s.Escalates twist) :=
  inferInstanceAs (Decidable (_ ∧ _))

/-- Latch the e-stop, cut the power and broadcast it. -/
def latch (s : SafetyNode) : SafetyNode × List (SafetyOutput V) :=
  let r := setHardwareContactors { s with eStopActive := true, currentState := .emergency } false
  (r.1, r.2 ++ r.1.publishGlobalState)

omit [VelocityScalar V] in
theorem latch_fst (s : SafetyNode) : (s.latch (V := V)).1 =
    { s with
      eStopActive := true
      currentState := .emergency
      hardwareContactorsClosed := false } := by
  simp [latch]

def odomCallback (s : SafetyNode) (twist : Twist V) : SafetyNode × List (SafetyOutput V) :=
  if s.isProcessingAllowed = false then (s, [])
  else if s.Escalates twist then s.latch
  else (s, [])

def estopCallback (s : SafetyNode) : SafetyNode × List (SafetyOutput V) :=
  -- while processing is not allowed the response keeps its default values
  if s.isProcessingAllowed = false then (s, [.response false ""])
  else
    let r := s.latch
    (r.1, s.publishStop ++ r.2 ++ [.response true "EMERGENCY STOP (LEVEL 2) ACTIVATED!"])

/-- What an accepted reset does: normal mode, power on, whatever the last health byte was. -/
def reset (s : SafetyNode) : SafetyNode × List (SafetyOutput V) :=
  let r := setHardwareContactors { s with currentState := .normal, eStopActive := false } true
  (r.1, r.2 ++ r.1.publishGlobalState ++
    [.response true "System recovered from EMERGENCY. Manual control enabled."])

omit [VelocityScalar V] in
theorem reset_fst (s : SafetyNode) : (s.reset (V := V)).1 =
    { s with
      currentState := .normal
      eStopActive := false
      hardwareContactorsClosed := true } := by
  simp [reset]

/-- Not guarded by `is_processing_allowed_`. -/
def estopResetCallback (s : SafetyNode) : SafetyNode × List (SafetyOutput V) :=
  if s.currentState = .emergency ∨ s.eStopActive = true then s.reset
  else (s, [.response false "Reset ignored: System is not in EMERGENCY state."])

/-! ## The machine -/

/-- A requested transition: its callback when it is permitted, refused otherwise. -/
def transition (s : SafetyNode) (t : Transition) (callback : SafetyNode × List (SafetyOutput V)) :
    SafetyNode × List (SafetyOutput V) :=
  match t.target s.lifecycle with
  | some p => ({ callback.1 with lifecycle := p }, callback.2)
  | none => (s, [])

/-- Error processing leads back to the unconfigured state, with the handles as they were. -/
def errorProcessing (s : SafetyNode) : SafetyNode × List (SafetyOutput V) :=
  if s.lifecycle = .finalized then (s, [])
  else
    let r := s.onError
    ({ r.1 with lifecycle := .unconfigured }, r.2)

/-- A message or a request reaches its callback when the subscription or the service exists. -/
def deliver (s : SafetyNode) (handle : Bool) (callback : SafetyNode × List (SafetyOutput V)) :
    SafetyNode × List (SafetyOutput V) :=
  if handle then callback else (s, [])

/-- The handling of an event. -/
def handle (s : SafetyNode) : SafetyEvent V → SafetyNode × List (SafetyOutput V)
  | .configure normal degraded => s.transition .configure (s.onConfigure normal degraded)
  | .activate => s.transition .activate s.onActivate
  | .deactivate => s.transition .deactivate s.onDeactivate
  | .cleanup => s.transition .cleanup s.onCleanup
  | .shutdown => s.transition .shutdown s.onShutdown
  | .error => s.errorProcessing
  | .smoothedVel msg => s.deliver s.smoothSub (s.smoothedVelCallback msg)
  | .healthState msg => s.deliver s.healthSub (s.healthStateCallback msg)
  | .muxState msg => s.deliver s.muxStateSub (s.muxStateCallback msg)
  | .odom twist => s.deliver s.odomSub (s.odomCallback twist)
  | .estop => s.deliver s.srvEstop s.estopCallback
  | .estopReset => s.deliver s.srvEstopReset s.estopResetCallback

/-- The node from its construction on. -/
def events (V : Type) [VelocityScalar V] :
    Machine SafetyNode (SafetyEvent V) (List (SafetyOutput V)) where
  step s e := some (s.handle e)

/-! ## What a step does -/

/-- A step of the safety node. -/
abbrev SafetyStep (V : Type) := Step SafetyNode (SafetyEvent V) (List (SafetyOutput V))

theorem takes_handle (s : SafetyNode) (e : SafetyEvent V) :
    (events V).Takes ⟨s, e, (s.handle e).2, (s.handle e).1⟩ := rfl

/-- The event is not refused, dropped or ignored. -/
def Handled (s : SafetyNode) : SafetyEvent V → Prop
  | .configure _ _ => s.lifecycle = .unconfigured
  | .activate => s.lifecycle = .inactive
  | .deactivate => s.lifecycle = .active
  | .cleanup => s.lifecycle = .inactive
  | .shutdown => s.lifecycle ≠ .finalized
  | .error => s.lifecycle ≠ .finalized
  | .smoothedVel _ =>
    s.smoothSub = true ∧ s.isProcessingAllowed = true ∧ s.motorPub.isActivated = true
  | .healthState _ => s.healthSub = true ∧ s.isProcessingAllowed = true
  | .muxState _ => s.muxStateSub = true ∧ s.isProcessingAllowed = true
  | .odom twist => s.odomSub = true ∧ s.isProcessingAllowed = true ∧ s.Escalates twist
  | .estop => s.srvEstop = true ∧ s.isProcessingAllowed = true
  | .estopReset => s.srvEstopReset = true ∧ (s.currentState = .emergency ∨ s.eStopActive = true)

instance (s : SafetyNode) (e : SafetyEvent V) : Decidable (s.Handled e) :=
  match e with
  | .configure _ _ | .activate | .deactivate | .cleanup => inferInstanceAs (Decidable (_ = _))
  | .shutdown | .error => inferInstanceAs (Decidable (_ ≠ _))
  | .healthState _ | .muxState _ | .estop => inferInstanceAs (Decidable (_ ∧ _))
  | .smoothedVel _ | .odom _ => inferInstanceAs (Decidable (_ ∧ _ ∧ _))
  | .estopReset => inferInstanceAs (Decidable (_ ∧ (_ ∨ _)))

/-- The answer to an event that is not handled. -/
def reply (s : SafetyNode) : SafetyEvent V → List (SafetyOutput V)
  | .estop => if s.srvEstop then [.response false ""] else []
  | .estopReset =>
    if s.srvEstopReset then [.response false "Reset ignored: System is not in EMERGENCY state."]
    else []
  | _ => []

omit [VelocityScalar V] in
theorem reply_mem {s : SafetyNode} {e : SafetyEvent V} {o : SafetyOutput V} (h : o ∈ s.reply e) :
    ∃ message, o = .response false message := by
  cases e with
  | estop | estopReset =>
    simp only [reply] at h
    split_ifs at h
    · exact ⟨_, List.mem_singleton.1 h⟩
    · cases h
  | _ => cases h

/-- An event that is not handled leaves the node as it is. -/
theorem handle_of_not_handled {s : SafetyNode} {e : SafetyEvent V} (h : ¬ s.Handled e) :
    s.handle e = (s, s.reply e) := by
  cases e <;> simp only [Handled] at h
  case configure | activate | deactivate | cleanup | shutdown =>
    cases hl : s.lifecycle <;> simp_all [handle, transition, Transition.target, reply]
  case error => simp_all [handle, errorProcessing, reply]
  all_goals
    simp only [handle, deliver, reply, smoothedVelCallback, healthStateCallback, muxStateCallback,
      odomCallback, estopCallback, estopResetCallback]
    grind

omit [VelocityScalar V] in
theorem transition_of_target {s : SafetyNode} {t : Transition} {p : PrimaryState}
    (h : t.target s.lifecycle = some p) (c : SafetyNode × List (SafetyOutput V)) :
    s.transition t c = ({ c.1 with lifecycle := p }, c.2) := by
  rw [transition, h]

theorem shutdown_target {p : PrimaryState} (h : p ≠ .finalized) :
    Transition.target .shutdown p = some .finalized :=
  Transition.target_of_permitted (t := .shutdown) h

theorem handle_smoothedVel {s : SafetyNode} {msg : Twist V} (h : s.Handled (.smoothedVel msg)) :
    s.handle (.smoothedVel msg) =
      (s, if s.MotionShut then s.publishStop else [.motorCmd (clip s.currentLimit msg)]) := by
  rw [handle, deliver, if_pos h.1, smoothedVelCallback, if_neg (by simp [h.2])]
  split_ifs <;> rfl

theorem handle_healthState {s : SafetyNode} {msg : UInt8}
    (h : s.Handled (V := V) (.healthState msg)) :
    s.handle (V := V) (.healthState msg) =
      (s.afterFdirState msg, (applyFdirState { s with lastFdirState := msg } msg).2) := by
  rw [handle, deliver, if_pos h.1, healthStateCallback, if_neg (by simp [h.2]),
    ← applyFdirState_fst (V := V)]

theorem handle_muxState {s : SafetyNode} {msg : UInt8} (h : s.Handled (V := V) (.muxState msg)) :
    s.handle (V := V) (.muxState msg) =
      ({ s with lastMuxState := msg }, publishGlobalState { s with lastMuxState := msg }) := by
  rw [handle, deliver, if_pos h.1, muxStateCallback, if_neg (by simp [h.2])]

theorem handle_odom {s : SafetyNode} {twist : Twist V} (h : s.Handled (.odom twist)) :
    s.handle (.odom twist) = s.latch := by
  rw [handle, deliver, if_pos h.1, odomCallback, if_neg (by simp [h.2.1]), if_pos h.2.2]

theorem handle_estop {s : SafetyNode} (h : s.Handled (V := V) .estop) :
    s.handle (V := V) .estop = ((s.latch (V := V)).1, s.publishStop ++ s.latch.2 ++
      [.response true "EMERGENCY STOP (LEVEL 2) ACTIVATED!"]) := by
  rw [handle, deliver, if_pos h.1, estopCallback, if_neg (by simp [h.2])]

theorem handle_estopReset {s : SafetyNode} (h : s.Handled (V := V) .estopReset) :
    s.handle (V := V) .estopReset = s.reset := by
  rw [handle, deliver, if_pos h.1, estopResetCallback, if_pos h.2]

/-- The steps of the machine: an event that is not handled, and one case for each that is. -/
@[elab_as_elim]
theorem takes_rec {motive : ∀ e : SafetyStep V, (events V).Takes e → Prop}
    (skipped : ∀ s i (_ : ¬ s.Handled i) h, motive ⟨s, i, s.reply i, s⟩ h)
    (configure : ∀ s n d (_ : s.lifecycle = .unconfigured) h, motive ⟨s, .configure n d, [],
      { (s.onConfigure (V := V) n d).1 with lifecycle := .inactive }⟩ h)
    (activate : ∀ s (_ : s.lifecycle = .inactive) h, motive ⟨s, .activate, s.onActivate.2,
      { (s.onActivate (V := V)).1 with lifecycle := .active }⟩ h)
    (deactivate : ∀ s (_ : s.lifecycle = .active) h, motive ⟨s, .deactivate, s.onDeactivate.2,
      { (s.onDeactivate (V := V)).1 with lifecycle := .inactive }⟩ h)
    (cleanup : ∀ s (_ : s.lifecycle = .inactive) h, motive ⟨s, .cleanup, s.onCleanup.2,
      { (s.onCleanup (V := V)).1 with lifecycle := .unconfigured }⟩ h)
    (shutdown : ∀ s (_ : s.lifecycle ≠ .finalized) h, motive ⟨s, .shutdown, s.onShutdown.2,
      { (s.onShutdown (V := V)).1 with lifecycle := .finalized }⟩ h)
    (error : ∀ s (_ : s.lifecycle ≠ .finalized) h, motive ⟨s, .error, s.onError.2,
      { (s.onError (V := V)).1 with lifecycle := .unconfigured }⟩ h)
    (smoothedVel : ∀ s msg (_ : s.Handled (.smoothedVel msg)) h, motive ⟨s, .smoothedVel msg,
      if s.MotionShut then s.publishStop else [.motorCmd (clip s.currentLimit msg)], s⟩ h)
    (healthState : ∀ s msg (_ : s.Handled (V := V) (.healthState msg)) h,
      motive ⟨s, .healthState msg, (applyFdirState { s with lastFdirState := msg } msg).2,
        s.afterFdirState msg⟩ h)
    (muxState : ∀ s msg (_ : s.Handled (V := V) (.muxState msg)) h,
      motive ⟨s, .muxState msg, publishGlobalState { s with lastMuxState := msg },
        { s with lastMuxState := msg }⟩ h)
    (odom : ∀ s twist (_ : s.Handled (.odom twist)) h,
      motive ⟨s, .odom twist, s.latch.2, (s.latch (V := V)).1⟩ h)
    (estop : ∀ s (_ : s.Handled (V := V) .estop) h, motive ⟨s, .estop, s.publishStop ++ s.latch.2 ++
      [.response true "EMERGENCY STOP (LEVEL 2) ACTIVATED!"], (s.latch (V := V)).1⟩ h)
    (estopReset : ∀ s (_ : s.Handled (V := V) .estopReset) h,
      motive ⟨s, .estopReset, s.reset.2, (s.reset (V := V)).1⟩ h)
    (e : SafetyStep V) (he : (events V).Takes e) : motive e he := by
  obtain ⟨s, i, o, t⟩ := e
  have hstep := he
  simp only [Machine.Takes, events, Option.some.injEq] at hstep
  by_cases hi : s.Handled i
  swap
  · rw [handle_of_not_handled hi] at hstep
    obtain ⟨rfl, rfl⟩ := Prod.mk.inj hstep
    exact skipped s i hi he
  cases i with
  | configure n d =>
    rw [handle, transition_of_target (p := .inactive) (by rw [hi]; rfl)] at hstep
    obtain ⟨rfl, rfl⟩ := Prod.mk.inj hstep
    exact configure s n d hi he
  | activate =>
    rw [handle, transition_of_target (p := .active) (by rw [hi]; rfl)] at hstep
    obtain ⟨rfl, rfl⟩ := Prod.mk.inj hstep
    exact activate s hi he
  | deactivate =>
    rw [handle, transition_of_target (p := .inactive) (by rw [hi]; rfl)] at hstep
    obtain ⟨rfl, rfl⟩ := Prod.mk.inj hstep
    exact deactivate s hi he
  | cleanup =>
    rw [handle, transition_of_target (p := .unconfigured) (by rw [hi]; rfl)] at hstep
    obtain ⟨rfl, rfl⟩ := Prod.mk.inj hstep
    exact cleanup s hi he
  | shutdown =>
    rw [handle, transition_of_target (shutdown_target hi)] at hstep
    obtain ⟨rfl, rfl⟩ := Prod.mk.inj hstep
    exact shutdown s hi he
  | error =>
    rw [handle, errorProcessing, if_neg hi] at hstep
    obtain ⟨rfl, rfl⟩ := Prod.mk.inj hstep
    exact error s hi he
  | smoothedVel msg =>
    rw [handle_smoothedVel hi] at hstep
    obtain ⟨rfl, rfl⟩ := Prod.mk.inj hstep
    exact smoothedVel s msg hi he
  | healthState msg =>
    rw [handle_healthState hi] at hstep
    obtain ⟨rfl, rfl⟩ := Prod.mk.inj hstep
    exact healthState s msg hi he
  | muxState msg =>
    rw [handle_muxState hi] at hstep
    obtain ⟨rfl, rfl⟩ := Prod.mk.inj hstep
    exact muxState s msg hi he
  | odom twist =>
    rw [handle_odom hi] at hstep
    obtain ⟨rfl, rfl⟩ := Prod.mk.inj hstep
    exact odom s twist hi he
  | estop =>
    rw [handle_estop hi] at hstep
    obtain ⟨rfl, rfl⟩ := Prod.mk.inj hstep
    exact estop s hi he
  | estopReset =>
    rw [handle_estopReset hi] at hstep
    obtain ⟨rfl, rfl⟩ := Prod.mk.inj hstep
    exact estopReset s hi he

/-! ## What a step sends -/

/-- What a step can send: a response, the contactor flag as it is afterwards, a stop, the global
state as it is afterwards, or a velocity within the limit while the motion gate is open. -/
inductive Sends (e : SafetyStep V) : SafetyOutput V → Prop
  | response (success : Bool) (message : String) : Sends e (.response success message)
  | contactors : Sends e (.contactors e.post.hardwareContactorsClosed)
  | stop : Sends e (.motorCmd 0)
  | safetyState : Sends e (.safetyState (stateByte e.post.globalState)
      (e.post.safetyStateToString e.post.globalState))
  | velocity (msg : Twist V) (_ : e.input = .smoothedVel msg) (_ : e.post = e.pre)
      (_ : ¬ e.pre.MotionShut) : Sends e (.motorCmd (clip e.pre.currentLimit msg))

theorem Sends.of_contactors {e : SafetyStep V} {s : SafetyNode} {enable : Bool}
    {o : SafetyOutput V} (h : o ∈ (s.setHardwareContactors enable).2)
    (hpost : e.post.hardwareContactorsClosed = enable) : Sends e o := by
  rw [setHardwareContactors_mem h, ← hpost]
  exact .contactors

theorem Sends.of_stop {e : SafetyStep V} {s : SafetyNode} {o : SafetyOutput V}
    (h : o ∈ s.publishStop) : Sends e o := by
  rw [publishStop_mem h]
  exact .stop

theorem Sends.of_globalState {e : SafetyStep V} {o : SafetyOutput V}
    (h : o ∈ e.post.publishGlobalState) : Sends e o := by
  rw [publishGlobalState_mem h]
  exact .safetyState

theorem Sends.of_latch {e : SafetyStep V} {s : SafetyNode} {o : SafetyOutput V}
    (h : o ∈ s.latch.2) (hpost : e.post = (s.latch (V := V)).1) : Sends e o := by
  rcases List.mem_append.1 h with h | h
  · exact .of_contactors h (by rw [hpost, latch_fst])
  · refine .of_globalState ?_
    rw [hpost]
    exact h

/-- A health byte sends a stop or the contactor flag. -/
theorem applyFdirState_mem {s : SafetyNode} {fdirState : UInt8} {o : SafetyOutput V}
    (h : o ∈ (s.applyFdirState fdirState).2) : o = .motorCmd 0 ∨
      o = .contactors (s.applyFdirState (V := V) fdirState).1.hardwareContactorsClosed := by
  have hset : ∀ {s' : SafetyNode} {enable : Bool}, o ∈ (s'.setHardwareContactors enable).2 →
      o = .contactors (s'.setHardwareContactors (V := V) enable).1.hardwareContactorsClosed := by
    intro s' enable ho
    rw [setHardwareContactors_fst]
    exact setHardwareContactors_mem ho
  have hclose : ∀ {s' : SafetyNode}, o ∈ s'.closeUnlessEstop.2 →
      o = .contactors (s'.closeUnlessEstop (V := V)).1.hardwareContactorsClosed := by
    intro s' ho
    unfold closeUnlessEstop at ho ⊢
    split_ifs at ho ⊢
    · cases ho
    · exact hset ho
  obtain ⟨r, hr⟩ : ∃ r, s.applyFdirState (V := V) fdirState = r := ⟨_, rfl⟩
  rw [hr] at h ⊢
  unfold applyFdirState at hr
  split_ifs at hr <;> subst hr
  · exact (List.mem_append.1 h).imp publishStop_mem hset
  · exact (List.mem_append.1 h).imp publishStop_mem hset
  · exact (List.mem_append.1 h).imp publishStop_mem hclose
  · exact Or.inr (hclose h)
  · cases h
  · exact Or.inr (hset h)
  · exact (List.mem_append.1 h).imp publishStop_mem hclose
  · exact Or.inr (hset h)

theorem sends {e : SafetyStep V} (he : (events V).Takes e) : ∀ o ∈ e.output, Sends e o := by
  intro o ho
  induction e, he using takes_rec with
  | skipped s i hi =>
    obtain ⟨message, rfl⟩ := reply_mem ho
    exact .response false message
  | configure s n d hl => cases ho
  | activate s hl => exact .of_contactors ho (by simp [onActivate])
  | deactivate s hl => exact .of_contactors ho (by simp [onDeactivate, halt])
  | cleanup s hl => exact .of_contactors ho (by simp [onCleanup, halt])
  | shutdown s hl => exact .of_contactors ho (by simp [onShutdown, halt])
  | error s hl => exact .of_contactors ho (by simp [onError, halt])
  | smoothedVel s msg hi =>
    by_cases hshut : s.MotionShut
    · rw [if_pos hshut] at ho
      exact .of_stop ho
    · rw [if_neg hshut] at ho
      rw [List.mem_singleton.1 ho]
      exact .velocity msg rfl rfl hshut
  | healthState s msg hi =>
    rcases applyFdirState_mem ho with rfl | rfl
    · exact .stop
    · rw [applyFdirState_fst]
      exact .contactors
  | muxState s msg hi => exact .of_globalState ho
  | odom s twist hi => exact .of_latch ho rfl
  | estop s hi =>
    rcases List.mem_append.1 ho with ho | ho
    · rcases List.mem_append.1 ho with ho | ho
      · exact .of_stop ho
      · exact .of_latch ho rfl
    · rw [List.mem_singleton.1 ho]
      exact .response ..
  | estopReset s hi =>
    rcases List.mem_append.1 ho with ho | ho
    · rcases List.mem_append.1 ho with ho | ho
      · exact .of_contactors ho (by rw [reset_fst])
      · exact .of_globalState ho
    · rw [List.mem_singleton.1 ho]
      exact .response ..

/-- Only a configuration sets the limits. -/
theorem limits_eq {e : SafetyStep V} (he : (events V).Takes e)
    (hno : ∀ n d, e.input ≠ .configure n d) : e.post.maxSpeedNormal = e.pre.maxSpeedNormal ∧
      e.post.maxSpeedDegraded = e.pre.maxSpeedDegraded := by
  induction e, he using takes_rec with
  | configure s n d hl => exact absurd rfl (hno n d)
  | activate s hl => simp [onActivate]
  | deactivate s hl => simp [onDeactivate, halt]
  | cleanup s hl => simp [onCleanup, halt]
  | shutdown s hl => simp [onShutdown, halt]
  | error s hl => simp [onError, halt]
  | odom s twist hi => simp [latch_fst]
  | estop s hi => simp [latch_fst]
  | estopReset s hi => simp [reset_fst]
  | _ => exact ⟨rfl, rfl⟩

/-! ## The handles follow the lifecycle -/

/-- What the lifecycle callbacks maintain about the handles and the processing flag. -/
structure Wired (s : SafetyNode) : Prop where
  /-- Messages are processed in the active state only. -/
  processing : s.isProcessingAllowed = true ↔ s.lifecycle = .active
  /-- In the active state all three publishers send. -/
  sending : s.lifecycle = .active → s.motorPub.isActivated = true ∧
    s.safetyStatePub.isActivated = true ∧ s.contactorPub.isActivated = true
  /-- A configured node has its subscriptions, its services and its publishers. -/
  present : s.lifecycle = .inactive ∨ s.lifecycle = .active → s.smoothSub = true ∧
    s.healthSub = true ∧ s.muxStateSub = true ∧ s.odomSub = true ∧ s.srvEstop = true ∧
    s.srvEstopReset = true ∧ s.motorPub.isSome = true ∧ s.contactorPub.isSome = true
  /-- The reset service and the publisher it sends on exist together. -/
  reset : s.srvEstopReset = s.safetyStatePub.isSome

theorem wired_construct : Wired construct :=
  ⟨by decide, by decide, by decide, rfl⟩

/-- A step that changes neither the lifecycle nor the handles keeps them wired. -/
theorem Wired.congr {s t : SafetyNode} (h : Wired s) (hl : t.lifecycle = s.lifecycle)
    (hp : t.isProcessingAllowed = s.isProcessingAllowed) (hm : t.motorPub = s.motorPub)
    (hs : t.safetyStatePub = s.safetyStatePub) (hc : t.contactorPub = s.contactorPub)
    (h₁ : t.smoothSub = s.smoothSub) (h₂ : t.healthSub = s.healthSub)
    (h₃ : t.muxStateSub = s.muxStateSub) (h₄ : t.odomSub = s.odomSub)
    (h₅ : t.srvEstop = s.srvEstop) (h₆ : t.srvEstopReset = s.srvEstopReset) : Wired t := by
  constructor
  · rw [hp, hl]
    exact h.processing
  · rw [hl, hm, hs, hc]
    exact h.sending
  · rw [hl, h₁, h₂, h₃, h₄, h₅, h₆, hm, hc]
    exact h.present
  · rw [h₆, hs]
    exact h.reset

theorem wired_step {e : SafetyStep V} (he : (events V).Takes e) (h : Wired e.pre) :
    Wired e.post := by
  induction e, he using takes_rec with
  | skipped s i hi => exact h
  | configure s n d hl =>
    have hproc := h.processing
    constructor <;> simp_all [onConfigure, LifecyclePublisher.created]
  | activate s hl =>
    have hpresent := h.present (Or.inl hl)
    have hreset := h.reset
    constructor <;> simp_all [onActivate]
  | deactivate s hl =>
    have hpresent := h.present (Or.inr hl)
    have hreset := h.reset
    constructor <;> simp_all [onDeactivate, halt]
  | cleanup s hl => constructor <;> simp_all [onCleanup, halt]
  | shutdown s hl =>
    have hreset := h.reset
    constructor <;> simp_all [onShutdown, halt]
  | error s hl =>
    have hreset := h.reset
    constructor <;> simp_all [onError, halt]
  | smoothedVel s msg hi => exact h
  | healthState s msg hi => exact h.congr rfl rfl rfl rfl rfl rfl rfl rfl rfl rfl rfl
  | muxState s msg hi => exact h.congr rfl rfl rfl rfl rfl rfl rfl rfl rfl rfl rfl
  | odom s twist hi =>
    simp only [latch_fst]
    exact h.congr rfl rfl rfl rfl rfl rfl rfl rfl rfl rfl rfl
  | estop s hi =>
    simp only [latch_fst]
    exact h.congr rfl rfl rfl rfl rfl rfl rfl rfl rfl rfl rfl
  | estopReset s hi =>
    simp only [reset_fst]
    exact h.congr rfl rfl rfl rfl rfl rfl rfl rfl rfl rfl rfl

/-- In every state the node can reach the handles follow its lifecycle. -/
theorem wired_run {tr : List (SafetyStep V)} {s : SafetyNode}
    (h : (events V).Run construct tr s) : Wired s :=
  h.invariant wired_construct fun _ he hpre => wired_step he hpre

/-- An active node handles every velocity. -/
theorem Wired.handled_smoothedVel {s : SafetyNode} (h : Wired s) (hl : s.lifecycle = .active)
    (msg : Twist V) : s.Handled (.smoothedVel msg) := by
  obtain ⟨hsub, -⟩ := h.present (Or.inr hl)
  exact ⟨hsub, h.processing.2 hl, (h.sending hl).1⟩

/-- No callback dereferences a null publisher: they are present where the callbacks use them. -/
theorem Wired.handles {s : SafetyNode} (h : Wired s) :
    (s.isProcessingAllowed = true → s.motorPub.isSome = true ∧ s.safetyStatePub.isSome = true) ∧
    (s.lifecycle = .inactive → s.motorPub.isSome = true ∧ s.safetyStatePub.isSome = true ∧
      s.contactorPub.isSome = true) ∧
    (s.srvEstopReset = true → s.safetyStatePub.isSome = true) := by
  have hr := h.reset
  refine ⟨fun hp => ?_, fun hl => ?_, fun hs => hr ▸ hs⟩
  · obtain ⟨-, -, -, -, -, hs, hm, -⟩ := h.present (Or.inr (h.processing.1 hp))
    exact ⟨hm, hr ▸ hs⟩
  · obtain ⟨-, -, -, -, -, hs, hm, hc⟩ := h.present (Or.inl hl)
    exact ⟨hm, hr ▸ hs, hc⟩

end Callbacks

end SafetyNode

end MonaRobot
