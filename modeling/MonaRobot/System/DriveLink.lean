import MonaRobot.Control.Ramp
import MonaRobot.System.EstopAgreement

/-!
# The velocity path

`DriveLink.events` is the machine of the two connected nodes with the rest of what flows between
them: `cmd_vel_smoothed`, from the multiplexer to the safety node, and the health messages of the
FDIR manager, of which each node has its own queue. These topics are first in, first out and lose
nothing. A health message enters both queues at once and is delivered to the two nodes
independently; commands, ticks, requests and the traffic on the status topics come at any time.

`Commands` says what the safety node publishes on `hardware/motor_cmd` in a step: it passes the
velocity it gets, it stops, or it publishes nothing.
-/

namespace MonaRobot

open Reactive

namespace SafetyNode

variable {V : Type}

/-! ## Motor commands of the safety node -/

/-- The messages on `hardware/motor_cmd`. -/
def motorCmds (o : List (SafetyOutput V)) : List (Twist V) :=
  o.filterMap fun
    | .motorCmd msg => some msg
    | _ => none

/-- The health bytes that are answered by a stop. -/
def halting (fdirState : UInt8) : Prop :=
  fdirState = FdirState.stateSystemStartup ∨ fdirState = FdirState.stateEmergency ∨
    fdirState = FdirState.stateProtectiveStop ∨ fdirState = FdirState.stateReconfigured

instance (fdirState : UInt8) : Decidable (halting fdirState) :=
  inferInstanceAs (Decidable (_ ∨ _ ∨ _ ∨ _))

@[simp] theorem motorCmds_nil : motorCmds ([] : List (SafetyOutput V)) = [] := rfl

@[simp] theorem motorCmds_response (success : Bool) (message : String) :
    motorCmds [SafetyOutput.response (V := V) success message] = [] := rfl

@[simp] theorem motorCmds_append (o o' : List (SafetyOutput V)) :
    motorCmds (o ++ o') = motorCmds o ++ motorCmds o' :=
  List.filterMap_append ..

@[simp] theorem motorCmds_setHardwareContactors (s : SafetyNode) (enable : Bool) :
    motorCmds (s.setHardwareContactors (V := V) enable).2 = [] := by
  unfold setHardwareContactors
  split_ifs <;> rfl

@[simp] theorem motorCmds_publishGlobalState (s : SafetyNode) :
    motorCmds (s.publishGlobalState (V := V)) = [] := by
  unfold publishGlobalState
  split_ifs <;> rfl

@[simp] theorem motorCmds_closeUnlessEstop (s : SafetyNode) :
    motorCmds (s.closeUnlessEstop (V := V)).2 = [] := by
  unfold closeUnlessEstop
  split_ifs
  · rfl
  · exact motorCmds_setHardwareContactors s true

section

variable [VelocityScalar V]

theorem motorCmds_publishStop {s : SafetyNode} (hp : s.motorPub.isActivated = true) :
    motorCmds (s.publishStop (V := V)) = [0] := by
  rw [publishStop, if_pos hp]
  rfl

/-- A halting byte stops the motors once. -/
theorem motorCmds_applyFdirState {s : SafetyNode} (hp : s.motorPub.isActivated = true)
    (fdirState : UInt8) : motorCmds (s.applyFdirState (V := V) fdirState).2 =
      if halting fdirState then [0] else [] := by
  have hstop := motorCmds_publishStop (V := V) hp
  rcases FdirState.cases fdirState with rfl | rfl | rfl | rfl | rfl | rfl | hmsg
  · simp +decide [applyFdirState, hstop]
  · cases hs : s.eStopActive <;> simp +decide [applyFdirState, hs]
  · simp +decide [applyFdirState]
  · simp +decide [applyFdirState, hstop]
  · simp +decide [applyFdirState, hstop]
  · simp +decide [applyFdirState, hstop]
  · obtain ⟨h₀, h₁, h₂, h₃, h₄, h₅⟩ := hmsg
    simp [applyFdirState, halting, h₀, h₁, h₂, h₃, h₄, h₅]

/-- What an active node answers on `hardware/motor_cmd`. -/
def motorReply (s : SafetyNode) : SafetyEvent V → List (Twist V)
  | .smoothedVel msg => [if s.MotionShut then 0 else clip s.currentLimit msg]
  | .healthState msg => if halting msg then [0] else []
  | .estop => [0]
  | _ => []

theorem motorCmds_step {e : SafetyStep V} (he : (events V).Takes e) (hw : Wired e.pre)
    (hl : e.pre.lifecycle = .active) : motorCmds e.output = e.pre.motorReply e.input := by
  obtain ⟨hsmooth, hhealth, -, -, hestop, -⟩ := hw.present (Or.inr hl)
  have hproc := hw.processing.2 hl
  have hp := (hw.sending hl).1
  have hstop := motorCmds_publishStop (V := V) hp
  induction e, he using takes_rec with
  | skipped s i hi =>
    cases i with
    | smoothedVel msg => exact absurd ⟨hsmooth, hproc, hp⟩ hi
    | healthState msg => exact absurd ⟨hhealth, hproc⟩ hi
    | estop => exact absurd ⟨hestop, hproc⟩ hi
    | estopReset =>
      unfold reply motorReply
      split_ifs <;> rfl
    | _ => rfl
  | smoothedVel s msg hi =>
    simp only [motorReply]
    split_ifs
    · exact hstop
    · rfl
  | healthState s msg hi =>
    exact motorCmds_applyFdirState (s := { s with lastFdirState := msg }) hp msg
  | estop s hi => simp [motorReply, latch, show motorCmds (s.publishStop (V := V)) = [0] from hstop]
  | _ =>
    simp [motorReply, onActivate, onDeactivate, onCleanup, onShutdown, onError, halt, latch, reset]

end

/-- A velocity within the limit is passed as it is. -/
theorem clip_of_within {L : ℚ} {msg : Twist ℚ} (h : msg.Within L) : clip L msg = msg := by
  obtain ⟨hx, hy, hz⟩ := h
  have hclamp : ∀ v : ℚ, |v| ≤ L →
      clamp v (-VelocityScalar.ofRat L) (VelocityScalar.ofRat L) = v := fun _ => clamp_of_abs_le
  simp only [clip, hclamp _ hx, hclamp _ hy, hclamp _ hz]

end SafetyNode

/-- The motor commands of a step of the connected nodes. -/
theorem SafetyLink.motorCmds_step {V : Type} [VelocityScalar V] {e : LinkStep V}
    (he : events.Takes e) (h : BothActive e.pre) : SafetyNode.motorCmds e.output.safety =
      match e.input with
      | .safety i => e.pre.safety.motorReply i
      | _ => [] := by
  obtain ⟨tr, hrun⟩ := h.safety
  have hw := SafetyNode.wired_run hrun
  have hl := h.active
  induction e, he using takes_rec with
  | safety x i hi => exact SafetyNode.motorCmds_step (SafetyNode.takes_handle _ _) hw hl
  | deliverMuxState x msg rest hq =>
    exact SafetyNode.motorCmds_step (SafetyNode.takes_handle _ _) hw hl
  | _ => rfl

/-- The two connected nodes, with the velocities and the health messages in flight, the oldest
first. -/
structure DriveLink (V : Type) where
  link : SafetyLink V
  cmdVels : List (Twist V)
  muxHealth : List UInt8
  safetyHealth : List UInt8

/-- An event of the connected nodes, a health message of the FDIR manager, or a delivery. -/
inductive DriveEvent (V : Type)
  | link (i : LinkEvent V)
  | fdirState (msg : UInt8)
  | deliverCmdVel
  | deliverMuxHealth (now : Time)
  | deliverSafetyHealth

namespace DriveLink

variable {V : Type} [VelocityScalar V]

/-! ## The machine -/

omit [VelocityScalar V] in
/-- An event that does not come over one of the three topics. -/
def fromElsewhere : LinkEvent V → Bool
  | .mux (.fdirState _ _) | .safety (.smoothedVel _) | .safety (.healthState _) => false
  | _ => true

/-- The connected nodes handle an event, if they can. -/
def linkHandles (x : DriveLink V) (i : LinkEvent V) : Option (DriveLink V × LinkOutput V) :=
  (SafetyLink.events.step x.link i).map fun r =>
    ({ x with link := r.1, cmdVels := x.cmdVels ++ TwistMuxNode.cmdVels r.2.mux }, r.2)

def events : Machine (DriveLink V) (DriveEvent V) (LinkOutput V) where
  step x
    | .link i => if fromElsewhere i then x.linkHandles i else none
    | .fdirState msg =>
      some ({ x with
        muxHealth := x.muxHealth ++ [msg]
        safetyHealth := x.safetyHealth ++ [msg] }, ⟨[], []⟩)
    | .deliverCmdVel =>
      match x.cmdVels with
      | [] => none
      | msg :: rest => linkHandles { x with cmdVels := rest } (.safety (.smoothedVel msg))
    | .deliverMuxHealth now =>
      match x.muxHealth with
      | [] => none
      | msg :: rest => linkHandles { x with muxHealth := rest } (.mux (.fdirState now msg))
    | .deliverSafetyHealth =>
      match x.safetyHealth with
      | [] => none
      | msg :: rest => linkHandles { x with safetyHealth := rest } (.safety (.healthState msg))

/-- A step of the two nodes and their topics. -/
abbrev DriveStep (V : Type) := Step (DriveLink V) (DriveEvent V) (LinkOutput V)

/-- The steps of the machine, one case for each event. -/
@[elab_as_elim]
theorem takes_rec {motive : ∀ e : DriveStep V, events.Takes e → Prop}
    (link : ∀ (x : DriveLink V) i o l (_ : fromElsewhere i = true)
      (_ : SafetyLink.events.Takes ⟨x.link, i, o, l⟩) h, motive ⟨x, .link i, o,
        { x with link := l, cmdVels := x.cmdVels ++ TwistMuxNode.cmdVels o.mux }⟩ h)
    (fdirState : ∀ (x : DriveLink V) msg h, motive ⟨x, .fdirState msg, ⟨[], []⟩,
      { x with muxHealth := x.muxHealth ++ [msg], safetyHealth := x.safetyHealth ++ [msg] }⟩ h)
    (deliverCmdVel : ∀ (x : DriveLink V) msg rest o l (_ : x.cmdVels = msg :: rest)
      (_ : SafetyLink.events.Takes ⟨x.link, .safety (.smoothedVel msg), o, l⟩) h,
      motive ⟨x, .deliverCmdVel, o,
        { x with link := l, cmdVels := rest ++ TwistMuxNode.cmdVels o.mux }⟩ h)
    (deliverMuxHealth : ∀ (x : DriveLink V) now msg rest o l (_ : x.muxHealth = msg :: rest)
      (_ : SafetyLink.events.Takes ⟨x.link, .mux (.fdirState now msg), o, l⟩) h,
      motive ⟨x, .deliverMuxHealth now, o,
        { x with
          link := l
          cmdVels := x.cmdVels ++ TwistMuxNode.cmdVels o.mux
          muxHealth := rest }⟩ h)
    (deliverSafetyHealth : ∀ (x : DriveLink V) msg rest o l (_ : x.safetyHealth = msg :: rest)
      (_ : SafetyLink.events.Takes ⟨x.link, .safety (.healthState msg), o, l⟩) h,
      motive ⟨x, .deliverSafetyHealth, o,
        { x with
          link := l
          cmdVels := x.cmdVels ++ TwistMuxNode.cmdVels o.mux
          safetyHealth := rest }⟩ h)
    (e : DriveStep V) (he : events.Takes e) : motive e he := by
  obtain ⟨x, i, o, y⟩ := e
  have hstep := he
  simp only [Machine.Takes, events] at hstep
  cases i with
  | link i =>
    dsimp only at hstep
    split_ifs at hstep with hi
    obtain ⟨⟨l, o'⟩, hl, hr⟩ := Option.map_eq_some_iff.1 hstep
    obtain ⟨rfl, rfl⟩ := Prod.mk.inj hr
    exact link x i o' l hi hl he
  | fdirState msg =>
    obtain ⟨rfl, rfl⟩ := Prod.mk.inj (Option.some.inj hstep)
    exact fdirState x msg he
  | deliverCmdVel =>
    cases hq : x.cmdVels with
    | nil => simp [hq] at hstep
    | cons msg rest =>
      rw [hq] at hstep
      obtain ⟨⟨l, o'⟩, hl, hr⟩ := Option.map_eq_some_iff.1 hstep
      obtain ⟨rfl, rfl⟩ := Prod.mk.inj hr
      exact deliverCmdVel x msg rest o' l hq hl he
  | deliverMuxHealth now =>
    cases hq : x.muxHealth with
    | nil => simp [hq] at hstep
    | cons msg rest =>
      rw [hq] at hstep
      obtain ⟨⟨l, o'⟩, hl, hr⟩ := Option.map_eq_some_iff.1 hstep
      obtain ⟨rfl, rfl⟩ := Prod.mk.inj hr
      exact deliverMuxHealth x now msg rest o' l hq hl he
  | deliverSafetyHealth =>
    cases hq : x.safetyHealth with
    | nil => simp [hq] at hstep
    | cons msg rest =>
      rw [hq] at hstep
      obtain ⟨⟨l, o'⟩, hl, hr⟩ := Option.map_eq_some_iff.1 hstep
      obtain ⟨rfl, rfl⟩ := Prod.mk.inj hr
      exact deliverSafetyHealth x msg rest o' l hq hl he

/-- What a step is for the connected nodes: nothing, or a step of theirs. -/
theorem link_step {e : DriveStep V} (he : events.Takes e) :
    (e.post.link = e.pre.link ∧ e.output = ⟨[], []⟩) ∨
    ∃ i, SafetyLink.events.Takes ⟨e.pre.link, i, e.output, e.post.link⟩ ∧
      (e.input = .link i ∨ (∃ now msg, i = .mux (.fdirState now msg)) ∨
        (∃ msg, i = .safety (.smoothedVel msg)) ∨ ∃ msg, i = .safety (.healthState msg)) := by
  induction e, he using takes_rec with
  | link x i o l hi hl => exact Or.inr ⟨i, hl, Or.inl rfl⟩
  | fdirState x msg => exact Or.inl ⟨rfl, rfl⟩
  | deliverCmdVel x msg rest o l hq hl =>
    exact Or.inr ⟨_, hl, Or.inr (Or.inr (Or.inl ⟨msg, rfl⟩))⟩
  | deliverMuxHealth x now msg rest o l hq hl =>
    exact Or.inr ⟨_, hl, Or.inr (Or.inl ⟨now, msg, rfl⟩)⟩
  | deliverSafetyHealth x msg rest o l hq hl =>
    exact Or.inr ⟨_, hl, Or.inr (Or.inr (Or.inr ⟨msg, rfl⟩))⟩

/-- The topic `cmd_vel_smoothed`. -/
def velocities (V : Type) [VelocityScalar V] : Channel (events (V := V)) (Twist V) where
  queue x := x.cmdVels
  sent e := TwistMuxNode.cmdVels e.output.mux
  taken e :=
    match e.input with
    | .deliverCmdVel => 1
    | _ => 0
  taken_le e he := by
    induction e, he using takes_rec with
    | deliverCmdVel x msg rest o l hq hl => simp [hq]
    | _ => exact Nat.zero_le _
  queue_post e he := by
    induction e, he using takes_rec with
    | deliverCmdVel x msg rest o l hq hl => simp [hq]
    | fdirState x msg => simp [TwistMuxNode.cmdVels]
    | _ => rfl

/-! ## Motor commands -/

/-- The messages on `hardware/motor_cmd`. -/
def motorCmds (e : DriveStep V) : List (Twist V) := SafetyNode.motorCmds e.output.safety

/-- The safety node gets a velocity with its motion gate open. -/
def Passes (e : DriveStep V) : Prop :=
  match e.input with
  | .deliverCmdVel => ¬ e.pre.link.safety.MotionShut
  | _ => False

/-- The safety node stops: it gets a velocity with its motion gate shut, a health byte that is
answered by a stop, or an e-stop request. -/
def Stops (e : DriveStep V) : Prop :=
  match e.input with
  | .deliverCmdVel => e.pre.link.safety.MotionShut
  | .deliverSafetyHealth => ∃ msg ∈ e.pre.safetyHealth.head?, SafetyNode.halting msg
  | .link (.safety .estop) => True
  | _ => False

omit [VelocityScalar V] in
instance : DecidablePred (Passes (V := V)) := fun e =>
  match e with
  | ⟨_, .deliverCmdVel, _, _⟩ => inferInstanceAs (Decidable (¬ _))
  | ⟨_, .link _, _, _⟩ | ⟨_, .fdirState _, _, _⟩ | ⟨_, .deliverMuxHealth _, _, _⟩
  | ⟨_, .deliverSafetyHealth, _, _⟩ => inferInstanceAs (Decidable False)

omit [VelocityScalar V] in
instance : DecidablePred (Stops (V := V)) := fun e =>
  match e with
  | ⟨x, .deliverCmdVel, _, _⟩ => inferInstanceAs (Decidable x.link.safety.MotionShut)
  | ⟨_, .deliverSafetyHealth, _, _⟩ => inferInstanceAs (Decidable (∃ msg ∈ _, _))
  | ⟨_, .link (.safety .estop), _, _⟩ => inferInstanceAs (Decidable True)
  | ⟨_, .link (.safety (.configure _ _)), _, _⟩ | ⟨_, .link (.safety .activate), _, _⟩
  | ⟨_, .link (.safety .deactivate), _, _⟩ | ⟨_, .link (.safety .cleanup), _, _⟩
  | ⟨_, .link (.safety .shutdown), _, _⟩ | ⟨_, .link (.safety .error), _, _⟩
  | ⟨_, .link (.safety (.smoothedVel _)), _, _⟩ | ⟨_, .link (.safety (.healthState _)), _, _⟩
  | ⟨_, .link (.safety (.muxState _)), _, _⟩ | ⟨_, .link (.safety (.odom _)), _, _⟩
  | ⟨_, .link (.safety .estopReset), _, _⟩ | ⟨_, .link (.mux _), _, _⟩
  | ⟨_, .link .deliverMuxState, _, _⟩ | ⟨_, .link (.deliverSafetyState _), _, _⟩
  | ⟨_, .link (.loseMuxStates _), _, _⟩ | ⟨_, .link (.loseSafetyStates _), _, _⟩
  | ⟨_, .fdirState _, _, _⟩ | ⟨_, .deliverMuxHealth _, _, _⟩ => inferInstanceAs (Decidable False)

/-- What the safety node publishes on `hardware/motor_cmd` in a step. -/
inductive Commands (e : DriveStep V) : Prop
  | passes (msg : Twist V) (_ : Passes e) (_ : ¬ Stops e) (_ : e.pre.cmdVels.head? = some msg)
      (_ : (velocities V).left e = [msg])
      (_ : motorCmds e = [SafetyNode.clip e.pre.link.safety.currentLimit msg])
  | stops (_ : ¬ Passes e) (_ : Stops e) (_ : motorCmds e = [0])
  | silent (_ : ¬ Passes e) (_ : ¬ Stops e) (_ : (velocities V).left e = [])
      (_ : motorCmds e = [])

theorem commands {e : DriveStep V} (he : events.Takes e)
    (h : SafetyLink.BothActive e.pre.link) : Commands e := by
  induction e, he using takes_rec with
  | link x i o l hi hl =>
    have hcmds := SafetyLink.motorCmds_step hl h
    cases i with
    | safety j =>
      cases j with
      | estop => exact .stops id trivial hcmds
      | smoothedVel msg => cases hi
      | healthState msg => cases hi
      | _ => exact .silent id id rfl hcmds
    | _ => exact .silent id id rfl hcmds
  | fdirState x msg => exact .silent id id rfl rfl
  | deliverCmdVel x msg rest o l hq hl =>
    have hcmds := SafetyLink.motorCmds_step hl h
    dsimp only [SafetyNode.motorReply] at hcmds
    by_cases hshut : x.link.safety.MotionShut
    · rw [if_pos hshut] at hcmds
      exact .stops (fun hp => hp hshut) hshut hcmds
    · rw [if_neg hshut] at hcmds
      refine .passes msg hshut hshut (by simp [hq]) ?_ hcmds
      simp [Channel.left, velocities, hq]
  | deliverMuxHealth x now msg rest o l hq hl =>
    exact .silent id id rfl (SafetyLink.motorCmds_step hl h)
  | deliverSafetyHealth x msg rest o l hq hl =>
    have hcmds := SafetyLink.motorCmds_step hl h
    dsimp only [SafetyNode.motorReply] at hcmds
    by_cases hhalt : SafetyNode.halting msg
    · rw [if_pos hhalt] at hcmds
      exact .stops id ⟨msg, by simp [hq], hhalt⟩ hcmds
    · rw [if_neg hhalt] at hcmds
      refine .silent id ?_ rfl hcmds
      rintro ⟨b, hb, hhalt'⟩
      obtain rfl : msg = b := by simpa [hq] using hb
      exact hhalt hhalt'

end DriveLink

end MonaRobot
