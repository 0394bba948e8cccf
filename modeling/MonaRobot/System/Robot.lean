import MonaRobot.Control.CommandBound
import MonaRobot.Foundations.Routing
import MonaRobot.Safety.Interlock
import MonaRobot.System.DriveLink
import MonaRobot.System.HealthBroadcast

/-!
# The robot

`Robot.routing` closes the loops between the nodes of `HealthBroadcast.feed`: the velocities and the
mode of the multiplexer go to the safety node over `cmd_vel_smoothed` and `mux_state`, and the
safety state comes back over `safety_state`. The environment decides the readings of the manager,
the commands of the operator and of the autopilot, the odometry, the requests, the lifecycle
transitions and the clock; how the nodes interleave, and what is lost from the topics. As in
`HealthLink`, ticks of the manager and callbacks of the nodes run one after another; a multiplexer
whose `control_loop` has thrown takes no further step.

What moves the robot are the commands on `hardware/motor_cmd`, which the manager and the safety node
write. Only the oldest velocity in flight makes one that is no stop (`motorCmds_cases`).

* `commands_bound_motion`: no motor command exceeds, in any component, all the commands that the
  multiplexer has stored; so a robot without a command stands still.
* `robot_rests`: after a lockout the motor commands decay, whatever the operator sends or resets.
-/

namespace MonaRobot

open Reactive

/-- The topics between the multiplexer and the safety node. -/
inductive RobotTopic
  | cmdVelSmoothed
  | muxState
  | safetyState
  deriving DecidableEq

/-- The messages of a topic. -/
abbrev RobotTopic.Message : RobotTopic → Type
  | .cmdVelSmoothed => Twist ℚ
  | .muxState | .safetyState => UInt8

/-- The motor commands of the manager. -/
def FdirManagerNode.motorCmds (o : List FdirAction) : List (Twist ℚ) :=
  o.filterMap fun
    | .motorCmd msg => some msg
    | _ => none

namespace Robot

/-! ## The machine -/

def routing : Routing HealthBroadcast.feed.machine RobotTopic.Message Time where
  sends o k :=
    match k, o with
    | .cmdVelSmoothed, .sink o => TwistMuxNode.cmdVels o
    | .muxState, .sink o => TwistMuxNode.muxStates o
    | .safetyState, .source (.sink o) => SafetyNode.safetyStates o
    | _, _ => []
  deliver k msg now :=
    match k, msg with
    | .cmdVelSmoothed, msg => .source (.sink (.smoothedVel msg))
    | .muxState, msg => .source (.sink (.muxState msg))
    | .safetyState, msg => .sink (.mux (.safetyState now msg))
  own i :=
    match i with
    | .source (.sink (.smoothedVel _)) | .source (.sink (.muxState _)) => false
    | .sink (.mux (.safetyState _ _)) => false
    | _ => true

/-- The state of the three nodes and of all queues. -/
abbrev State := Routed HealthBroadcast.State RobotTopic.Message

/-- A step of the robot. -/
abbrev RobotStep := RoutedStep HealthBroadcast.State HealthBroadcast.BroadcastInput
  (FeedOutput (FeedOutput (List FdirAction) (List (SafetyOutput ℚ))) (List (MuxOutput ℚ)))
  RobotTopic.Message Time

/-- The manager, the other two from their construction on, and nothing in flight. -/
def start (s : FdirManagerNode) (now : Time) : State :=
  ⟨HealthBroadcast.start s now, fun _ => []⟩

/-- The steps of the nodes in a history. -/
def broadcastSteps (tr : List RobotStep) : List HealthBroadcast.BroadcastStep :=
  tr.flatMap routing.innerStep

/-- The steps of the multiplexer in a history. -/
def muxSteps (tr : List RobotStep) : List (MuxLifecycle.LifecycleStep ℚ) :=
  HealthBroadcast.muxSteps (broadcastSteps tr)

/-- The steps of the safety node in a history. -/
def safetySteps (tr : List RobotStep) : List (SafetyNode.SafetyStep ℚ) :=
  HealthLink.safetySteps (HealthBroadcast.linkSteps (broadcastSteps tr))

/-- What the manager and the safety node publish on `hardware/motor_cmd`. -/
def linkCmds : FeedOutput (List FdirAction) (List (SafetyOutput ℚ)) → List (Twist ℚ)
  | .source o => FdirManagerNode.motorCmds o
  | .sink o => SafetyNode.motorCmds o
  | .none => []

/-- What a step publishes on `hardware/motor_cmd`. -/
def motorCmds (e : RobotStep) : List (Twist ℚ) :=
  match e.output with
  | some (.source o) => linkCmds o
  | _ => []

variable {s : FdirManagerNode} {now : Time} {x y : State} {tr tr' : List RobotStep} {e : RobotStep}
  {cmd : Twist ℚ}

theorem muxSteps_append : muxSteps (tr ++ tr') = muxSteps tr ++ muxSteps tr' := by
  simp only [muxSteps, HealthBroadcast.muxSteps, broadcastSteps, List.flatMap_append]

theorem safetySteps_append : safetySteps (tr ++ tr') = safetySteps tr ++ safetySteps tr' := by
  simp only [safetySteps, HealthLink.safetySteps, HealthBroadcast.linkSteps, broadcastSteps,
    List.flatMap_append]

/-- The nodes in a run of the robot. -/
theorem broadcast_run (h : routing.machine.Run x tr y) :
    HealthBroadcast.feed.machine.Run x.inner (broadcastSteps tr) y.inner :=
  Routing.inner_run h

theorem mux_run (h : routing.machine.Run x tr y) :
    MuxLifecycle.events.Run x.inner.sink (muxSteps tr) y.inner.sink :=
  Feed.sink_run (broadcast_run h)

theorem safety_run (h : routing.machine.Run x tr y) :
    (SafetyNode.events ℚ).Run x.inner.source.sink (safetySteps tr) y.inner.source.sink := by
  have hlink : (HealthLink.feed ℚ).machine.Run x.inner.source
      (HealthBroadcast.linkSteps (broadcastSteps tr)) y.inner.source :=
    Feed.source_run (broadcast_run h)
  exact Feed.sink_run hlink

/-! ## Motor commands -/

theorem mem_safetyCmds {o : List (SafetyOutput ℚ)} (h : cmd ∈ SafetyNode.motorCmds o) :
    .motorCmd cmd ∈ o := by
  obtain ⟨a, ha, hcmd⟩ := List.mem_filterMap.1 h
  cases a with
  | motorCmd msg =>
    obtain rfl := Option.some.inj hcmd
    exact ha
  | _ => cases hcmd

/-- The safety node makes a command that is no stop of a velocity. -/
theorem safetyCmds_cases {e : SafetyNode.SafetyStep ℚ} (he : (SafetyNode.events ℚ).Takes e)
    (hcmd : cmd ∈ SafetyNode.motorCmds e.output) (hmoves : ¬ cmd.IsStop) :
    ∃ msg, e.input = .smoothedVel msg ∧ cmd = SafetyNode.clip e.pre.currentLimit msg := by
  cases SafetyNode.sends he _ (mem_safetyCmds hcmd) with
  | stop => exact absurd Twist.isStop_zero hmoves
  | velocity msg hi => exact ⟨msg, hi, rfl⟩

/-- The manager makes none. -/
theorem managerCmds_stop {e : FdirManagerNode.MonitorStep} (he : FdirManagerNode.ticks.Takes e)
    (hcmd : cmd ∈ FdirManagerNode.motorCmds e.output) : cmd = 0 := by
  obtain ⟨a, ha, hsome⟩ := List.mem_filterMap.1 hcmd
  cases a with
  | motorCmd msg =>
    obtain rfl := Option.some.inj hsome
    exact (FdirManagerNode.output_safe he _ ha).2 _ rfl
  | _ => cases hsome

theorem linkCmds_cases {e : HealthLink.HealthStep ℚ} (he : (HealthLink.feed ℚ).machine.Takes e)
    (hcmd : cmd ∈ linkCmds e.output) (hmoves : ¬ cmd.IsStop) :
    ∃ msg, e.input = .sink (.smoothedVel msg) ∧
      cmd = SafetyNode.clip e.pre.sink.currentLimit msg := by
  induction e, he using (HealthLink.feed ℚ).takes_rec with
  | source x i o s hs =>
    rw [managerCmds_stop hs hcmd] at hmoves
    exact absurd Twist.isStop_zero hmoves
  | sink x i o s hown hs =>
    obtain ⟨msg, rfl, hclip⟩ := safetyCmds_cases hs hcmd hmoves
    exact ⟨msg, rfl, hclip⟩
  | deliver a b m rest c o s hs =>
    obtain ⟨msg, hi, -⟩ := safetyCmds_cases hs hcmd hmoves
    cases hi
  | lose x n hn => cases hcmd

theorem broadcastCmds_cases {e : HealthBroadcast.BroadcastStep}
    (he : HealthBroadcast.feed.machine.Takes e) {o : FeedOutput _ _} (ho : e.output = .source o)
    (hcmd : cmd ∈ linkCmds o) (hmoves : ¬ cmd.IsStop) :
    ∃ msg, e.input = .source (.sink (.smoothedVel msg)) ∧
      cmd = SafetyNode.clip e.pre.source.sink.currentLimit msg := by
  induction e, he using HealthBroadcast.feed.takes_rec with
  | source x i o' s hs =>
    obtain rfl := FeedOutput.source.inj ho
    obtain ⟨msg, hi, hclip⟩ := linkCmds_cases hs hcmd hmoves
    exact ⟨msg, congrArg FeedInput.source hi, hclip⟩
  | _ => cases ho

/-- A motor command is a stop, or the oldest velocity in flight as the safety node limits it. -/
theorem motorCmds_cases (he : routing.machine.Takes e) (hcmd : cmd ∈ motorCmds e) :
    cmd.IsStop ∨ ∃ msg, (e.pre.queue .cmdVelSmoothed).head? = some msg ∧
      cmd = SafetyNode.clip e.pre.inner.source.sink.currentLimit msg := by
  refine or_iff_not_imp_left.2 fun hmoves => ?_
  unfold motorCmds at hcmd
  cases Routing.moves he with
  | own e' htake _ hout hpre _ hown =>
    rw [hout] at hcmd
    cases ho : e'.output with
    | source o =>
      rw [ho] at hcmd
      obtain ⟨msg, hi, -⟩ := broadcastCmds_cases htake ho hcmd hmoves
      rw [hi] at hown
      cases hown
    | _ =>
      rw [ho] at hcmd
      cases hcmd
  | deliver e' htake _ hout hpre _ k d m hhead hi =>
    rw [hout] at hcmd
    cases ho : e'.output with
    | source o =>
      rw [ho] at hcmd
      obtain ⟨msg, hi', hclip⟩ := broadcastCmds_cases htake ho hcmd hmoves
      rw [hi] at hi'
      cases k with
      | cmdVelSmoothed =>
        obtain rfl : m = msg := SafetyEvent.smoothedVel.inj
          (FeedInput.sink.inj (FeedInput.source.inj hi'))
        exact ⟨m, hhead, hpre ▸ hclip⟩
      | muxState | safetyState => cases hi'
    | _ =>
      rw [ho] at hcmd
      cases hcmd
  | none _ hout _ =>
    rw [hout] at hcmd
    cases hcmd

/-! ## What is in flight -/

/-- A step of the nodes sends on `cmd_vel_smoothed` what the multiplexer publishes there. -/
theorem sends_eq {e : HealthBroadcast.BroadcastStep} (he : HealthBroadcast.feed.machine.Takes e) :
    routing.sends e.output .cmdVelSmoothed =
      (HealthBroadcast.feed.sinkStep e).flatMap MuxLifecycle.velocities := by
  cases Feed.moves he with
  | sink e' _ _ hsink hout =>
    rw [hsink, hout, List.flatMap_singleton]
    rfl
  | source _ _ _ hsink hout | neither _ hsink hout =>
    rw [hsink, hout]
    rfl

/-- What is sent on `cmd_vel_smoothed` in a run. -/
theorem sent_run (h : routing.machine.Run x tr y) :
    tr.flatMap (routing.topic .cmdVelSmoothed).sent =
      (muxSteps tr).flatMap MuxLifecycle.velocities := by
  have hinner := (broadcast_run h).takes
  calc tr.flatMap (routing.topic .cmdVelSmoothed).sent
      = (broadcastSteps tr).flatMap fun e => routing.sends e.output .cmdVelSmoothed :=
        List.flatMap_assoc.symm
    _ = (broadcastSteps tr).flatMap fun e =>
          (HealthBroadcast.feed.sinkStep e).flatMap MuxLifecycle.velocities :=
        List.flatMap_congr fun e he => sends_eq (hinner e he)
    _ = (muxSteps tr).flatMap MuxLifecycle.velocities := List.flatMap_assoc.symm

/-- The velocity in flight that a delivery takes. -/
theorem head?_cmdVel (h : routing.machine.Run x tr y) :
    (y.queue .cmdVelSmoothed).head? = (x.queue .cmdVelSmoothed ++
      (muxSteps tr).flatMap MuxLifecycle.velocities)[(routing.topic .cmdVelSmoothed).gone tr]? := by
  rw [← sent_run h]
  exact (routing.topic .cmdVelSmoothed).head?_run h

/-! ## No motion without a command -/

theorem component_of_isStop (h : cmd.IsStop) (a : Axis) : cmd.component a = 0 := by
  cases a with
  | linearX => exact h.1
  | linearY => exact h.2.1
  | angularZ => exact h.2.2

theorem abs_clip_le {L : ℚ} (hL : 0 ≤ L) (msg : Twist ℚ) (a : Axis) :
    |(SafetyNode.clip L msg).component a| ≤ |msg.component a| := by
  cases a <;> exact abs_clamp_le_abs hL _

/-- A motor command is no larger than the oldest velocity in flight. -/
theorem abs_motorCmd_le (he : routing.machine.Takes e) {a : Axis} {B : ℚ} (hB : 0 ≤ B)
    (hL : 0 ≤ e.pre.inner.source.sink.currentLimit)
    (hhead : ∀ msg, (e.pre.queue .cmdVelSmoothed).head? = some msg → |msg.component a| ≤ B) :
    ∀ cmd ∈ motorCmds e, |cmd.component a| ≤ B := by
  intro cmd hcmd
  rcases motorCmds_cases he hcmd with hstop | ⟨msg, hmsg, rfl⟩
  · rw [component_of_isStop hstop, abs_zero]
    exact hB
  · exact (abs_clip_le hL msg a).trans (hhead msg hmsg)

/-- **The robot moves on command only.** In a run of the robot whose configurations have parameters
in their ranges, every motor command on `hardware/motor_cmd` is within any bound, in any component,
of the commands that the multiplexer has stored before it. -/
theorem commands_bound_motion (h : routing.machine.Run (start s now) tr x)
    (htunes : ∀ e ∈ muxSteps tr, MuxLifecycle.tunes e.input = true)
    (hlimits : ∀ e ∈ safetySteps tr, SafetyNode.limitsNonneg e.input = true) :
    Throughout (fun past e => ∀ (a : Axis) (B : ℚ), 0 ≤ B →
      (∀ e' ∈ muxSteps past, ∀ msg ∈ MuxLifecycle.stored e', |msg.component a| ≤ B) →
        ∀ cmd ∈ motorCmds e, |cmd.component a| ≤ B) tr := by
  rintro past e rest rfl a B hB hcmd
  obtain ⟨hpast, he, -⟩ := h.around
  simp only [muxSteps_append, List.forall_mem_append] at htunes
  simp only [safetySteps_append, List.forall_mem_append] at hlimits
  have hvel := MuxLifecycle.below_run (mux_run hpast) hB htunes.1 hcmd
  have hL := SafetyNode.currentLimit_run (safety_run hpast) hlimits.1
  refine abs_motorCmd_le he hB hL fun msg hmsg => hvel msg ?_
  rw [head?_cmdVel hpast] at hmsg
  exact List.mem_of_getElem? hmsg

/-- The operator drives off at half speed; the safety node passes the first velocity. -/
def drivingOff : List (RoutedInput HealthBroadcast.BroadcastInput RobotTopic Time) :=
  [.own (.source (.sink (.configure 1 (3 / 10)))), .own (.source (.sink .activate)),
    .own (.sink (.configure {})), .own (.sink (.activate 10)),
    .own (.sink (.mux (.teleop 10 false ⟨⟨1 / 2, 0, 0⟩, 0⟩))),
    .own (.sink (.mux (.controlLoop (1001 / 100)))), .deliver .cmdVelSmoothed 11]

theorem commands_bound_motion_drivingOff :
    let tr := routing.machine.trace (start FdirManagerNode.lidarManager 0) drivingOff
    (∃ e ∈ tr, ∃ cmd ∈ motorCmds e, cmd.component .linearX = 1 / 20) ∧
      ∀ e ∈ tr, ∀ cmd ∈ motorCmds e, |cmd.component .linearX| ≤ 1 / 2 := by
  have hrun := routing.machine.run_trace (start FdirManagerNode.lidarManager 0) drivingOff
    (by decide +kernel)
  have hbound := commands_bound_motion hrun (by decide +kernel) (by decide +kernel)
  have hstored : ∀ e ∈ muxSteps (routing.machine.trace (start FdirManagerNode.lidarManager 0)
      drivingOff), ∀ msg ∈ MuxLifecycle.stored e, |msg.component .linearX| ≤ 1 / 2 := by
    decide +kernel
  refine ⟨by decide +kernel, fun e he => ?_⟩
  obtain ⟨past, rest, htr⟩ := List.append_of_mem he
  refine hbound past e rest htr .linearX (1 / 2) (by norm_num) fun e' he' => hstored e' ?_
  rw [htr, muxSteps_append]
  exact List.mem_append_left _ he'

/-! ## After a lockout -/

/-- **The robot comes to rest.** Take any run of the robot from an accepted configuration in which
an EMERGENCY has reached the multiplexer, with `ema_alpha` between 0 and 1 and nonnegative speed
limits in both nodes, and any run that goes on from there without new parameters of the filter, with
any commands, resets and transitions. When all velocities that were in flight and `k` more have been
delivered or lost, no component of a motor command is larger than `(1 - ema_alpha) ^ (k + 1)` times
the one of the velocity at the beginning. -/
theorem robot_rests {policy : FdirPolicy} {clock : String → Time}
    (hs : FdirManagerNode.Constructed policy clock s) (h : routing.machine.Run (start s now) tr x)
    (hr : FdirState.stateEmergency ∈ (muxSteps tr).flatMap MuxLifecycle.processed)
    (h' : routing.machine.Run x tr' y) (ht : MuxLifecycle.Tuned x.inner.sink)
    (hno : ∀ e ∈ muxSteps tr', ¬ MuxLifecycle.Reconfigures e)
    (hlimits : ∀ e ∈ safetySteps (tr ++ tr'), SafetyNode.limitsNonneg e.input = true) :
    Throughout (fun past e => ∀ (k : ℕ) (a : Axis),
      (x.queue .cmdVelSmoothed).length + k ≤ (routing.topic .cmdVelSmoothed).gone past →
        ∀ cmd ∈ motorCmds e, |cmd.component a| ≤ (1 - x.inner.sink.mux.node.emaAlpha) ^ (k + 1) *
          |x.inner.sink.mux.node.currentVel.component a|) tr' := by
  rintro past e rest rfl k a hgone
  obtain ⟨hpast, he, -⟩ := h'.around
  simp only [muxSteps_append, List.forall_mem_append] at hno
  simp only [safetySteps_append, List.forall_mem_append] at hlimits
  have hblocked := HealthBroadcast.fdirLocked_steps hs (broadcast_run h) hr (broadcast_run hpast)
  have hdecays := MuxLifecycle.decays_run (mux_run hpast)
    (fun e he => ⟨(hblocked e he).2, hno.1 e he⟩) ht a
  have hL : 0 ≤ e.pre.inner.source.sink.currentLimit := by
    refine SafetyNode.currentLimit_run (safety_run (h.trans hpast)) ?_
    rw [safetySteps_append, List.forall_mem_append]
    exact ⟨hlimits.1, hlimits.2.1⟩
  have h₀ : 0 ≤ 1 - x.inner.sink.mux.node.emaAlpha := sub_nonneg.2 ht.le_one
  refine abs_motorCmd_le he (mul_nonneg (pow_nonneg h₀ _) (abs_nonneg _)) hL fun msg hmsg => ?_
  rw [head?_cmdVel hpast, List.getElem?_append_right (Nat.le_of_add_right_le hgone)] at hmsg
  refine (hdecays _ msg hmsg).trans (mul_le_mul_of_nonneg_right ?_ (abs_nonneg _))
  exact pow_le_pow_of_le_one h₀ (sub_le_self _ ht.nonneg) (by omega)

/-- The safety node is activated, and `HealthBroadcast.lidarLockout` follows. -/
def activatedLockout : List (RoutedInput HealthBroadcast.BroadcastInput RobotTopic Time) :=
  [.own (.source (.sink (.configure 1 (3 / 10)))), .own (.source (.sink .activate))] ++
    HealthBroadcast.lidarLockout.map .own

/-- The state after it, with a velocity in flight. -/
def lockedOut : State :=
  routing.machine.final (start FdirManagerNode.lidarManager 0) activatedLockout

/-- The operator resets the e-stop and goes on driving, for two ticks. -/
def overridden : List (RoutedInput HealthBroadcast.BroadcastInput RobotTopic Time) :=
  [.own (.source (.sink .estopReset)),
    .own (.sink (.mux (.teleop (1003 / 100) false ⟨⟨1, 0, 0⟩, 0⟩))),
    .own (.sink (.mux (.controlLoop (1004 / 100)))),
    .own (.sink (.mux (.controlLoop (1005 / 100)))), .deliver .cmdVelSmoothed 11,
    .deliver .cmdVelSmoothed 11, .deliver .cmdVelSmoothed 11]

theorem robot_rests_overridden :
    ∃ e ∈ (routing.machine.trace lockedOut overridden).getLast?,
      (∃ cmd ∈ motorCmds e, cmd.component .linearX = (1 - 1 / 10) ^ 2 * (1 / 10)) ∧
        ∀ cmd ∈ motorCmds e, |cmd.component .linearX| ≤ (1 - 1 / 10) ^ 2 * |1 / 10| := by
  have hbefore := routing.machine.run_trace (start FdirManagerNode.lidarManager 0) activatedLockout
    (by decide +kernel)
  have hrun := routing.machine.run_trace lockedOut overridden (by decide +kernel)
  have hrests := robot_rests FdirManagerNode.lidarManager_constructed hbefore (by decide +kernel)
    hrun ⟨by decide +kernel, by decide +kernel, by decide +kernel, by decide +kernel⟩
    (by decide +kernel) (by decide +kernel)
  have hlast : ∃ e ∈ (routing.machine.trace lockedOut overridden).getLast?,
      ∃ cmd ∈ motorCmds e, cmd.component .linearX = (1 - 1 / 10) ^ 2 * (1 / 10) := by
    decide +kernel
  obtain ⟨e, he, hmoves⟩ := hlast
  refine ⟨e, he, hmoves, fun cmd hcmd => ?_⟩
  obtain ⟨past, htr⟩ := List.getLast?_eq_some_iff.1 he
  have hgone : (lockedOut.queue .cmdVelSmoothed).length + 1 ≤
      (routing.topic .cmdVelSmoothed).gone
        (routing.machine.trace lockedOut overridden).dropLast := by
    decide +kernel
  rw [htr, List.dropLast_concat] at hgone
  have hle := hrests past e [] htr 1 .linearX hgone cmd hcmd
  have hparams : lockedOut.inner.sink.mux.node.emaAlpha = 1 / 10 ∧
      lockedOut.inner.sink.mux.node.currentVel.component .linearX = 1 / 10 := by decide +kernel
  rw [show routing.machine.final _ activatedLockout = lockedOut from rfl, hparams.1,
    hparams.2] at hle
  exact hle

end Robot

end MonaRobot
