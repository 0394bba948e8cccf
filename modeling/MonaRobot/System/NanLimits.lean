import MonaRobot.Control.NanFilter
import MonaRobot.Safety.Interlock

/-!
# The limits with NaN

The saturation of `SafetyNode` lets a NaN pass as that of the multiplexer does (`motorCmds_iff`),
but it has no memory. So both nodes keep their limits exactly if no NaN gets to where they saturate:
the multiplexer selects none in a tick, and none is delivered to the open motion gate
(`limits_run_iff`).
-/

namespace MonaRobot

open Reactive

namespace SafetyNode

variable {e : SafetyStep NanRat} {L : ℚ} {msg : Twist NanRat}

/-- A saturated velocity is within the limit exactly if it had no NaN. -/
theorem clip_numWithin_iff (hL : 0 ≤ L) : (clip L msg).NumWithin L ↔ msg.IsNum := by
  have hclip : ∀ a, (clip L msg).component a =
      clamp (msg.component a) (-VelocityScalar.ofRat L) (VelocityScalar.ofRat L) := fun a => by
    cases a <;> rfl
  constructor
  · intro h a
    have ha := (h a).isNum
    rwa [hclip, saturated_isNum] at ha
  · intro h a
    rw [hclip]
    exact saturated_within hL (h a)

/-- A velocity with a NaN is delivered to the open motion gate. -/
def ReceivesNan (e : SafetyStep NanRat) : Prop :=
  match e.input with
  | .smoothedVel msg => e.pre.Handled e.input ∧ ¬ e.pre.MotionShut ∧ ¬ msg.IsNum
  | _ => False

instance : DecidablePred ReceivesNan := fun e =>
  match e with
  | ⟨_, .smoothedVel _, _, _⟩ => inferInstanceAs (Decidable (_ ∧ _ ∧ _))
  | ⟨_, .configure _ _, _, _⟩ | ⟨_, .activate, _, _⟩ | ⟨_, .deactivate, _, _⟩ | ⟨_, .cleanup, _, _⟩
  | ⟨_, .shutdown, _, _⟩ | ⟨_, .error, _, _⟩ | ⟨_, .healthState _, _, _⟩ | ⟨_, .muxState _, _, _⟩
  | ⟨_, .odom _, _, _⟩ | ⟨_, .estop, _, _⟩ | ⟨_, .estopReset, _, _⟩ =>
    inferInstanceAs (Decidable False)

/-- The motor commands of the step are numbers within the limit in force. -/
def MotorWithin (e : SafetyStep NanRat) : Prop :=
  ∀ cmd, .motorCmd cmd ∈ e.output → cmd.NumWithin e.pre.currentLimit

/-- Stops are within every limit. -/
theorem motorWithin_of_stopOnly (h : StopOnly e.output) (hL : 0 ≤ e.pre.currentLimit) :
    MotorWithin e := by
  intro cmd hcmd
  rw [h cmd hcmd]
  exact Twist.numWithin_zero hL

theorem motorWithin_iff (he : (events NanRat).Takes e) (hL : 0 ≤ e.pre.currentLimit) :
    MotorWithin e ↔ ¬ ReceivesNan e := by
  by_cases hvel : ∃ msg, e.input = .smoothedVel msg
  · induction e, he using takes_rec with
    | skipped s i hi =>
      obtain ⟨msg, rfl⟩ := hvel
      have hstop : StopOnly (s.reply (.smoothedVel msg)) := fun cmd hcmd => by
        obtain ⟨message, h⟩ := reply_mem hcmd
        cases h
      exact iff_of_true (motorWithin_of_stopOnly hstop hL) fun h => hi h.1
    | smoothedVel s msg hi =>
      by_cases hshut : s.MotionShut
      · refine iff_of_true (motorWithin_of_stopOnly ?_ hL) fun h => h.2.1 hshut
        rw [if_pos hshut]
        exact stopOnly_publishStop s
      · have hreceives : ReceivesNan ⟨s, .smoothedVel msg,
            if s.MotionShut then s.publishStop else [.motorCmd (clip s.currentLimit msg)], s⟩ ↔
            ¬ msg.IsNum := ⟨fun h => h.2.2, fun h => ⟨hi, hshut, h⟩⟩
        rw [hreceives, not_not, ← clip_numWithin_iff hL, MotorWithin, if_neg hshut]
        simp
    | _ => exact absurd hvel (by simp)
  · refine iff_of_true (motorWithin_of_stopOnly ?_ hL) fun h => ?_
    · exact stopOnly_step he fun msg h => hvel ⟨msg, h⟩
    · unfold ReceivesNan at h
      split at h
      · exact hvel ⟨_, ‹_›⟩
      · exact h

end SafetyNode

/-- **The limits for every input, NaN included.** With nonnegative limits: in a run of the
multiplexer from its construction, every velocity published is a number within the limit in force in
each driving component, and the filter can always recover, exactly if no tick selects a command with
a NaN. In a run of the safety node, every motor command is a number within the limit in force,
exactly if no velocity with a NaN is delivered to the open motion gate. -/
theorem limits_run_iff {now : Time} {mux : List (MuxLifecycle.LifecycleStep NanRat)}
    {x : MuxLifecycle NanRat} {safety : List (SafetyNode.SafetyStep NanRat)} {s : SafetyNode}
    (hmux : MuxLifecycle.events.Run (MuxLifecycle.construct now) mux x)
    (hmuxLim : ∀ e ∈ mux, MuxLifecycle.limitsNonneg e.input = true)
    (hsafety : (SafetyNode.events NanRat).Run SafetyNode.construct safety s)
    (hsafetyLim : ∀ e ∈ safety, SafetyNode.limitsNonneg e.input = true) :
    ((∀ e ∈ mux, MuxLifecycle.Respects e) ↔ ∀ e ∈ mux, ¬ MuxLifecycle.FiltersNan e) ∧
    ((∀ e ∈ safety, SafetyNode.MotorWithin e) ↔ ∀ e ∈ safety, ¬ SafetyNode.ReceivesNan e) := by
  refine ⟨MuxLifecycle.respects_run_iff hmux hmuxLim, forall₂_congr fun e he => ?_⟩
  obtain ⟨past, rest, rfl⟩ := List.append_of_mem he
  obtain ⟨hpast, htakes, -⟩ := hsafety.around
  exact SafetyNode.motorWithin_iff htakes <| SafetyNode.currentLimit_run hpast fun e' he' =>
    hsafetyLim e' (List.mem_append_left _ he')

/-- A command on the teleop topic of the active multiplexer, a tick, an emergency, and a tick. -/
def teleopAt (msg : Twist NanRat) : List (MuxLifecycleEvent NanRat) :=
  [.configure {}, .activate 0, .mux (.teleop 1 true msg), .mux (.controlLoop 1),
    .mux (.fdirState 1 FdirState.stateEmergency), .mux (.controlLoop 2)]

/-- A velocity for the safety node after it was cleared. -/
def velocityAt (msg : Twist NanRat) : List (SafetyEvent NanRat) :=
  [.configure 1 (3 / 10), .activate, .healthState FdirState.stateSoftwareOk, .smoothedVel msg]

theorem limits_run_iff_numbers :
    (∀ e ∈ MuxLifecycle.events.trace (MuxLifecycle.construct 0) (teleopAt ⟨⟨.num 20, 0, 0⟩, 0⟩),
      MuxLifecycle.Respects e) ∧
    ∀ e ∈ (SafetyNode.events NanRat).trace SafetyNode.construct (velocityAt ⟨⟨.num 20, 0, 0⟩, 0⟩),
      SafetyNode.MotorWithin e := by
  have h := limits_run_iff
    (MuxLifecycle.events.run_trace (MuxLifecycle.construct 0) (teleopAt ⟨⟨.num 20, 0, 0⟩, 0⟩)
      (by decide +kernel)) (by decide +kernel)
    ((SafetyNode.events NanRat).run_trace SafetyNode.construct
      (velocityAt ⟨⟨.num 20, 0, 0⟩, 0⟩) (by decide +kernel)) (by decide +kernel)
  exact ⟨h.1.2 (by decide +kernel), h.2.2 (by decide +kernel)⟩

/-- One command with a NaN is published, and the filter of the blocked node cannot recover from it;
a velocity with a NaN is passed on to the motors. -/
theorem nan_passes :
    (let tr := MuxLifecycle.events.trace (MuxLifecycle.construct 0) (teleopAt ⟨⟨.nan, 0, 0⟩, 0⟩)
     let x := MuxLifecycle.events.final (MuxLifecycle.construct 0) (teleopAt ⟨⟨.nan, 0, 0⟩, 0⟩)
     MuxLifecycle.events.Run (MuxLifecycle.construct 0) tr x ∧
      (∀ e ∈ tr, MuxLifecycle.limitsNonneg e.input = true) ∧
      (∃ e ∈ tr, .cmdVelSmoothed ⟨⟨.nan, 0, 0⟩, 0⟩ ∈ e.output) ∧
      x.mux.node.currentState = .blocked ∧ ¬ MuxLifecycle.CanRecover x) ∧
    ∃ tr s, (SafetyNode.events NanRat).Run SafetyNode.construct tr s ∧
      (∀ e ∈ tr, SafetyNode.limitsNonneg e.input = true) ∧
      ∃ e ∈ tr, .motorCmd ⟨⟨.nan, 0, 0⟩, 0⟩ ∈ e.output := by
  refine ⟨⟨MuxLifecycle.events.run_trace _ _ (by decide +kernel), by decide +kernel,
    by decide +kernel, by decide +kernel, ?_⟩, _, _, (SafetyNode.events NanRat).run_trace _
    (velocityAt ⟨⟨.nan, 0, 0⟩, 0⟩) (by decide +kernel), by decide +kernel, by decide +kernel⟩
  rw [MuxLifecycle.canRecover_iff]
  decide +kernel

end MonaRobot
