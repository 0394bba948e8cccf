import MonaRobot.Control.ComingToRest
import MonaRobot.System.HealthLink

/-!
# The health of the manager at both echelons

`HealthBroadcast.feed` adds the multiplexer to the manager and the safety node, as a second
subscriber to `system/health_state` with a queue of its own. Commands, safety states, ticks and
lifecycle transitions of the multiplexer come at any time. As in `HealthLink`, ticks of the manager
and callbacks of the nodes run one after another; a multiplexer whose `control_loop` has thrown
takes no further step.

* `degraded_never`: since the manager never sends DEGRADED or RECONFIGURED, the reduced speed limits
  of both nodes are never in force.
* `mux_rests`: once an EMERGENCY has reached the multiplexer it is blocked for good, through any
  transitions; it takes no command any more, and its velocity decays with every message it sends,
  when the parameters of its filter are in their ranges (`MuxLifecycle.Tuned`).
-/

namespace MonaRobot

open Reactive

/-- The message of the manager. -/
def MuxLifecycleEvent.isFdirState {V : Type} : MuxLifecycleEvent V → Bool
  | .mux (.fdirState _ _) => true
  | _ => false

namespace HealthBroadcast

/-! ## The machine -/

/-- The multiplexer subscribes to the health of the manager too. -/
def feed : Feed (HealthLink.feed ℚ).machine (MuxLifecycle.events (V := ℚ)) UInt8 Time where
  sends o :=
    match o with
    | .source o => published o
    | _ => []
  deliver msg now := .mux (.fdirState now msg)
  own i := !i.isFdirState

/-- The state of the three nodes and of the two queues. -/
abbrev State := Fed (Fed FdirManagerNode SafetyNode UInt8) (MuxLifecycle ℚ) UInt8

/-- A step of the three nodes. -/
abbrev BroadcastStep := FeedStep (Fed FdirManagerNode SafetyNode UInt8)
  (FeedInput MonitorTick (SafetyEvent ℚ) Unit)
  (FeedOutput (List FdirAction) (List (SafetyOutput ℚ))) (MuxLifecycle ℚ) (MuxLifecycleEvent ℚ)
  (List (MuxOutput ℚ)) UInt8 Time

/-- The manager, with nothing in flight, and the other two from their construction on. -/
def start (s : FdirManagerNode) (now : Time) : State :=
  ⟨HealthLink.start s, MuxLifecycle.construct now, []⟩

/-- The steps of the manager and the safety node in a history. -/
def linkSteps (tr : List BroadcastStep) : List (HealthLink.HealthStep ℚ) :=
  tr.flatMap Feed.sourceStep

/-- The steps of the multiplexer in a history. -/
def muxSteps (tr : List BroadcastStep) : List (MuxLifecycle.LifecycleStep ℚ) :=
  tr.flatMap feed.sinkStep

variable {s : FdirManagerNode} {now : Time} {x y : State} {tr tr' : List BroadcastStep}

/-! ## What the multiplexer receives -/

/-- A step of the manager and the safety node sends what the manager publishes. -/
theorem sends_eq {e : HealthLink.HealthStep ℚ} (he : (HealthLink.feed ℚ).machine.Takes e) :
    feed.sends e.output = (Feed.sourceStep e).flatMap FdirManagerNode.verdicts := by
  cases Feed.moves he with
  | source e' _ hsource _ hout =>
    rw [hsource, hout, List.flatMap_singleton]
    rfl
  | sink _ _ hsource _ hout | neither hsource _ hout =>
    rw [hsource, hout]
    rfl

/-- **What the multiplexer receives** are verdicts of the manager, in the order in which it sends
them. -/
theorem received (hs : FdirManagerNode.Sound s) (h : feed.machine.Run (start s now) tr x) :
    FdirManagerNode.Verdicts ((muxSteps tr).flatMap MuxLifecycle.processed ++ x.queue)
      x.source.source := by
  have hlink : (HealthLink.feed ℚ).machine.Run (HealthLink.start s) (linkSteps tr) x.source :=
    Feed.source_run h
  have hall := FdirManagerNode.verdicts_run hs (Feed.source_run hlink)
  have hsub : ((muxSteps tr).flatMap MuxLifecycle.processed ++ x.queue).Sublist
      ((HealthLink.managerSteps (linkSteps tr)).flatMap FdirManagerNode.verdicts) := by
    have hreads := Feed.reads_run (F := feed) (f := MuxLifecycle.processed) ?_ ?_ h
    · have hsent : tr.flatMap feed.sent =
          (HealthLink.managerSteps (linkSteps tr)).flatMap FdirManagerNode.verdicts := by
        rw [HealthLink.managerSteps, List.flatMap_assoc, ← List.flatMap_congr fun e he =>
          sends_eq (hlink.takes e he), linkSteps, List.flatMap_assoc]
        rfl
      rw [← hsent]
      exact hreads
    · intro b i o b' hown
      cases i with
      | mux i =>
        cases i with
        | fdirState now msg => cases hown
        | _ => rfl
      | _ => rfl
    · intro b m c o b'
      change (if _ then [m] else []).Sublist [m]
      split_ifs
      · exact List.Sublist.refl _
      · exact List.nil_sublist _
  exact ⟨hall.sound, fun b hb => hall.three b (hsub.subset hb), hall.latched.sublist hsub,
    fun hb => hall.locked (hsub.subset hb)⟩

/-- An input of the three nodes. -/
abbrev BroadcastInput :=
  FeedInput (FeedInput MonitorTick (SafetyEvent ℚ) Unit) (MuxLifecycleEvent ℚ) Time

/-- The robot drives off; the front lidar is locked out, and the last of the messages arrives. -/
def lidarLockout : List BroadcastInput :=
  [.sink (.configure {}), .sink (.activate 10), .sink (.mux (.teleop 10 false ⟨⟨1, 0, 0⟩, 0⟩)),
    .sink (.mux (.controlLoop (1001 / 100)))] ++
  FdirManagerNode.deadLidar.map (fun i => .source (.source i)) ++ [.lose 16, .deliver (1002 / 100)]

theorem lidarLockout_run : feed.machine.Run (start FdirManagerNode.lidarManager 0)
    (feed.machine.trace (start FdirManagerNode.lidarManager 0) lidarLockout)
    (feed.machine.final (start FdirManagerNode.lidarManager 0) lidarLockout) :=
  feed.machine.run_trace _ lidarLockout (by decide +kernel)

/-! ## The reduced limits -/

/-- **The robot is never degraded.** In every state of every run the limit in force in the safety
node is the normal one, and so it is in the multiplexer. -/
theorem degraded_never {policy : FdirPolicy} {clock : String → Time}
    (hs : FdirManagerNode.Constructed policy clock s)
    (h : feed.machine.Run (start s now) tr x) :
    x.source.sink.currentLimit = x.source.sink.maxSpeedNormal ∧
      x.sink.mux.node.currentMaxSpeed = x.sink.mux.node.maxSpeedNormal := by
  have hsound := FdirManagerNode.sound_of_constructed hs
  constructor
  · have hlink := Feed.source_run h
    have hthree := (HealthLink.received hsound hlink).three
    refine if_neg (SafetyNode.notDegraded_run (Feed.sink_run hlink) fun b hb => ?_)
    exact hthree b (List.mem_append_left _ hb)
  · have hthree := (received hsound h).three
    refine if_neg (ne_true_of_eq_false ?_)
    refine MuxLifecycle.notDegraded_run (Feed.sink_run h) fun b hb => ?_
    rcases hthree b (List.mem_append_left _ hb) with rfl | rfl | rfl <;> decide

theorem degraded_never_lidarLockout :
    (feed.machine.final (start FdirManagerNode.lidarManager 0)
      lidarLockout).sink.mux.node.currentMaxSpeed = 1 :=
  (degraded_never FdirManagerNode.lidarManager_constructed lidarLockout_run).2.trans
    (by decide +kernel)

/-! ## After an EMERGENCY -/

/-- Once it has processed an EMERGENCY, the manager blocks the multiplexer in every later step. -/
theorem fdirLocked_steps {policy : FdirPolicy} {clock : String → Time}
    (hs : FdirManagerNode.Constructed policy clock s) (h : feed.machine.Run (start s now) tr x)
    (hr : FdirState.stateEmergency ∈ (muxSteps tr).flatMap MuxLifecycle.processed)
    (h' : feed.machine.Run x tr' y) : ∀ e ∈ muxSteps tr', MuxLifecycle.FdirLocked e.pre := by
  have hrun : MuxLifecycle.events.Run x.sink (muxSteps tr') y.sink := Feed.sink_run h'
  have hall := received (FdirManagerNode.sound_of_constructed hs) (h.trans h')
  rw [muxSteps, List.flatMap_append, List.flatMap_append, List.append_assoc] at hall
  have hlocked : MuxLifecycle.FdirLocked x.sink :=
    MuxLifecycle.fdirLocked_run (Feed.sink_run h) (List.pairwise_append.1 hall.latched).1 hr
  have hsteps := hrun.latched (L := MuxLifecycle.FdirLocked)
    hlocked
    (fun e he hno hpre => MuxLifecycle.fdirLocked_step he (not_not.1 hno) (Or.inl hpre)) ?_
  · exact fun e he => (hsteps e he).1
  · intro e he
    refine not_not.2 fun b hb => hall.after hr b ?_
    exact List.mem_append_left _ (List.mem_flatMap.2 ⟨e, he, hb⟩)

/-- **The multiplexer comes to rest.** Once it has processed an EMERGENCY, in any further run and
through any transitions it is blocked by the manager: it cancels no goal, and a tick that publishes
has the target zero. With `ema_alpha` between 0 and 1 and nonnegative speed limits, and without new
parameters, each component of its velocity decays, by the factor `1 - ema_alpha` for each velocity
published, and does not change its sign. -/
theorem mux_rests {policy : FdirPolicy} {clock : String → Time}
    (hs : FdirManagerNode.Constructed policy clock s) (h : feed.machine.Run (start s now) tr x)
    (hr : FdirState.stateEmergency ∈ (muxSteps tr).flatMap MuxLifecycle.processed)
    (h' : feed.machine.Run x tr' y) :
    (∀ e ∈ muxSteps tr', MuxLifecycle.FdirLocked e.pre ∧ MuxOutput.cancelAllGoals ∉ e.output ∧
      (MuxLifecycle.velocities e ≠ [] → e.post.mux.node.targetVel = 0)) ∧
    (MuxLifecycle.Tuned x.sink → (∀ e ∈ muxSteps tr', ¬ MuxLifecycle.Reconfigures e) →
      ∀ a : Axis, SaturatedFilter.Approaches ((1 - x.sink.mux.node.emaAlpha) ^
        ((muxSteps tr').flatMap MuxLifecycle.velocities).length) 0
        (x.sink.mux.node.currentVel.component a) (y.sink.mux.node.currentVel.component a)) := by
  have hrun : MuxLifecycle.events.Run x.sink (muxSteps tr') y.sink := Feed.sink_run h'
  have hblocked := fdirLocked_steps hs h hr h'
  refine ⟨fun e he => ?_, fun ht hno a => ?_⟩
  · exact ⟨hblocked e he, MuxLifecycle.blocked_step (hrun.takes e he) (hblocked e he).2⟩
  · exact MuxLifecycle.rests_run hrun (fun e he => ⟨(hblocked e he).2, hno e he⟩) ht a

/-- The operator goes on driving, for two ticks. -/
def drivingOn : List BroadcastInput :=
  [.sink (.mux (.teleop (1003 / 100) false ⟨⟨1, 0, 0⟩, 0⟩)),
    .sink (.mux (.controlLoop (1004 / 100))), .sink (.mux (.controlLoop (1005 / 100)))]

theorem mux_rests_drivingOn :
    let x := feed.machine.final (start FdirManagerNode.lidarManager 0) lidarLockout
    SaturatedFilter.Approaches ((1 - 1 / 10) ^ 2) 0 (1 / 10)
      ((feed.machine.final x drivingOn).sink.mux.node.currentVel.component .linearX) := by
  have hrun := feed.machine.run_trace
    (feed.machine.final (start FdirManagerNode.lidarManager 0) lidarLockout) drivingOn
    (by decide +kernel)
  obtain ⟨-, hrests⟩ := mux_rests FdirManagerNode.lidarManager_constructed lidarLockout_run
    (by decide +kernel) hrun
  have hdecays := hrests ⟨by decide +kernel, by decide +kernel, by decide +kernel,
    by decide +kernel⟩ (by decide +kernel) .linearX
  have hcount : ((muxSteps (feed.machine.trace
      (feed.machine.final (start FdirManagerNode.lidarManager 0) lidarLockout)
      drivingOn)).flatMap MuxLifecycle.velocities).length = 2 := by decide +kernel
  have hparams : (feed.machine.final (start FdirManagerNode.lidarManager 0)
      lidarLockout).sink.mux.node.emaAlpha = 1 / 10 ∧
    (feed.machine.final (start FdirManagerNode.lidarManager 0)
      lidarLockout).sink.mux.node.currentVel.component .linearX = 1 / 10 := by decide +kernel
  rw [hcount, hparams.1, hparams.2] at hdecays
  exact hdecays

end HealthBroadcast

end MonaRobot
