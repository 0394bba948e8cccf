import MonaRobot.Control.Blocking

/-!
# Cold start

`on_activate` resets the mode and the timestamps of the multiplexer, so no stored command is routed
before a new one is accepted (`cold_run`): the target of every tick until then is zero. It does not
reset `current_vel_`, the memory of the filter, which outlives a deactivation and a cleanup, and the
ticks after the next activation publish what is left of the old motion. `rest_run_iff` states exactly
when they do.
-/

namespace MonaRobot

open Reactive

namespace TwistMuxNode

/-- What a tick with a zero target publishes is not a stop: the filter remembers a motion, or the
limit in force is negative and the bounds of `clamp` are the wrong way round. -/
def Residue (s : TwistMuxNode ℚ) : Prop :=
  s.currentMaxSpeed < 0 ∨
    0 < s.currentMaxSpeed ∧ s.emaAlpha ≠ 1 ∧ ¬ s.currentVel.IsStop

instance (s : TwistMuxNode ℚ) : Decidable (Residue s) :=
  inferInstanceAs (Decidable (_ ∨ _ ∧ _ ∧ _))

/-- One component of the filter with a zero target. -/
theorem smooth_zero_iff (s : TwistMuxNode ℚ) (v : ℚ) :
    s.smooth 0 v = 0 ↔ ¬ s.currentMaxSpeed < 0 ∧
      (0 < s.currentMaxSpeed → s.emaAlpha = 1 ∨ v = 0) := by
  have hema : ema s.emaAlpha 0 v = (1 - s.emaAlpha) * v := by
    simp [ema, VelocityScalar.ofRat]
  have hzero : (1 - s.emaAlpha) * v = 0 ↔ s.emaAlpha = 1 ∨ v = 0 := by
    rw [mul_eq_zero, sub_eq_zero, eq_comm]
  unfold smooth
  rw [hema]
  change clamp _ (-s.currentMaxSpeed) s.currentMaxSpeed = 0 ↔ _
  rcases lt_or_ge s.currentMaxSpeed 0 with hneg | hpos
  · refine iff_of_false ?_ fun h => h.1 hneg
    rw [clamp_rat]
    split_ifs with h₁ h₂ <;> intro h <;> linarith
  · rw [clamp_eq_zero_iff hpos, hzero]
    rcases hpos.eq_or_lt with hL | hL
    · simp [← hL]
    · simp [hL, hL.ne', hL.le]

/-- A tick with a zero target publishes a stop exactly if there is no residue. -/
theorem filterVelocity_isStop_iff {s : TwistMuxNode ℚ} (h : s.targetVel = 0) :
    s.filterVelocity.currentVel.IsStop ↔ ¬ Residue s := by
  have hstop : s.filterVelocity.currentVel.IsStop ↔ s.smooth 0 s.currentVel.linear.x = 0 ∧
      s.smooth 0 s.currentVel.linear.y = 0 ∧ s.smooth 0 s.currentVel.angular.z = 0 := by
    simp only [filterVelocity, h]
    exact Iff.rfl
  rw [hstop, smooth_zero_iff, smooth_zero_iff, smooth_zero_iff, Residue, Twist.IsStop]
  by_cases hneg : s.currentMaxSpeed < 0
  · simp [hneg]
  · by_cases hfilter : 0 < s.currentMaxSpeed ∧ s.emaAlpha ≠ 1
    · simp [hfilter, hneg]
    · rw [not_and_not_right] at hfilter
      simp +contextual [hfilter, hneg]

/-- A tick in a mode that does not route publishes a stop exactly if there is no residue. -/
theorem cold_tick {s s' : TwistMuxNode ℚ} {now : Time} {o : List (MuxOutput ℚ)}
    (htick : s.controlLoop now = .ok (s', o)) (hp : s.smoothPub.isActivated = true)
    (hr : ¬ s.Routable) : (∀ msg ∈ cmdVels o, msg.IsStop) ↔ ¬ Residue s := by
  rcases controlLoop_cases htick with ⟨hp', -⟩ | ⟨-, r, hsel, -, rfl⟩
  · exact absurd (hp'.symm.trans hp) Bool.false_ne_true
  rw [cmdVels_tick, List.forall_mem_singleton]
  rcases selectTarget_cases hsel with ⟨-, rfl⟩ | ⟨-, -, rfl⟩ | ⟨-, -, hm, -⟩ | ⟨-, -, hm, -⟩
  · exact filterVelocity_isStop_iff rfl
  · exact filterVelocity_isStop_iff rfl
  · exact absurd (Or.inl hm) hr
  · exact absurd (Or.inr hm) hr

end TwistMuxNode

namespace MuxLifecycle

section Fresh

variable {V : Type} [VelocityScalar V] {past : List (LifecycleStep V)} {e : LifecycleStep V}

/-- The node is activated. -/
def Activates (e : LifecycleStep V) : Prop :=
  match e.input with
  | .activate _ => e.pre.lifecycle = .inactive
  | _ => False

/-- A command is received and accepted. -/
def Fed (e : LifecycleStep V) : Prop :=
  match e.input with
  | .mux i => e.pre.receives i = true ∧
    TwistMuxNode.Accepts ⟨e.pre.mux, i, e.output, e.post.mux⟩
  | _ => False

/-- The node has been activated, and has accepted no command since. -/
def Unfed (past : List (LifecycleStep V)) : Prop := ¬ Answered Fed Activates past

omit [VelocityScalar V] in
instance : DecidablePred (Activates (V := V)) := fun e =>
  match e with
  | ⟨_, .activate _, _, _⟩ => inferInstanceAs (Decidable (_ = _))
  | ⟨_, .configure _, _, _⟩ | ⟨_, .deactivate, _, _⟩ | ⟨_, .cleanup, _, _⟩
  | ⟨_, .shutdown, _, _⟩ | ⟨_, .mux _, _, _⟩ => inferInstanceAs (Decidable False)

instance : DecidablePred (Fed (V := V)) := fun e =>
  match e with
  | ⟨_, .mux _, _, _⟩ => inferInstanceAs (Decidable (_ ∧ _))
  | ⟨_, .configure _, _, _⟩ | ⟨_, .activate _, _, _⟩ | ⟨_, .deactivate, _, _⟩
  | ⟨_, .cleanup, _, _⟩ | ⟨_, .shutdown, _, _⟩ => inferInstanceAs (Decidable False)

instance (past : List (LifecycleStep V)) : Decidable (Unfed past) :=
  inferInstanceAs (Decidable (¬ _))

theorem unfed_concat : Unfed (past ++ [e]) ↔ Activates e ∨ ¬ Fed e ∧ Unfed past := by
  rw [Unfed, answered_concat, not_and_or, not_or, not_not]
  exact Iff.rfl

/-- A node that has accepted no command since its activation routes none. -/
theorem cold_step (he : events.Takes e) (h : Unfed past → ¬ e.pre.mux.node.Routable)
    (hunfed : Unfed (past ++ [e])) : ¬ e.post.mux.node.Routable := by
  rcases unfed_concat.1 hunfed with hact | ⟨hfed, hpast⟩
  · induction e, he using takes_rec with
    | skipped x i hi =>
      cases i with
      | activate now => exact absurd hact hi
      | _ => exact hact.elim
    | activate x now hl hnow =>
      simp [onActivate, TwistMuxNode.activated, TwistMuxNode.onActivate, TwistMuxNode.Routable]
    | _ => exact hact.elim
  · have hpre := h hpast
    induction e, he using takes_rec with
    | activate x now hl hnow =>
      simp [onActivate, TwistMuxNode.activated, TwistMuxNode.onActivate, TwistMuxNode.Routable]
    | mux x i o m hi htake => exact (TwistMuxNode.idle_step htake (fun ha => hfed ⟨hi, ha⟩) hpre).1
    | _ => exact hpre

theorem cold_run {now : Time} {tr : List (LifecycleStep V)} {x : MuxLifecycle V}
    (h : events.Run (construct now) tr x) : Unfed tr → ¬ x.mux.node.Routable :=
  h.history (H := fun past x => Unfed past → ¬ x.mux.node.Routable)
    (fun hunfed => absurd trivial hunfed) fun _ _ _ he hpre => cold_step he hpre

end Fresh

/-- The timer fires in an active publisher, and the filter would publish what it remembers. -/
def Residual (e : LifecycleStep ℚ) : Prop :=
  match e.input with
  | .mux (.controlLoop _) => e.pre.watchdogTimer = true ∧
    e.pre.mux.node.smoothPub.isActivated = true ∧ e.pre.mux.node.Residue
  | _ => False

instance : DecidablePred Residual := fun e =>
  match e with
  | ⟨_, .mux (.controlLoop _), _, _⟩ => inferInstanceAs (Decidable (_ ∧ _ ∧ _))
  | ⟨_, .mux (.teleop ..), _, _⟩ | ⟨_, .mux (.nav ..), _, _⟩ | ⟨_, .mux (.fdirState ..), _, _⟩
  | ⟨_, .mux (.safetyState ..), _, _⟩ | ⟨_, .configure _, _, _⟩ | ⟨_, .activate _, _, _⟩
  | ⟨_, .deactivate, _, _⟩ | ⟨_, .cleanup, _, _⟩ | ⟨_, .shutdown, _, _⟩ =>
    inferInstanceAs (Decidable False)

/-- The step publishes no motion. -/
def Rests (e : LifecycleStep ℚ) : Prop := ∀ msg ∈ TwistMuxNode.cmdVels e.output, msg.IsStop

instance : DecidablePred Rests := fun _ => inferInstanceAs (Decidable (∀ msg ∈ _, _))

/-- In a mode that does not route, exactly the residual steps publish a motion. -/
theorem rests_iff {e : LifecycleStep ℚ} (he : events.Takes e) (hr : ¬ e.pre.mux.node.Routable) :
    Rests e ↔ ¬ Residual e := by
  induction e, he using takes_rec with
  | skipped x i hi =>
    refine iff_of_true (by simp [Rests, TwistMuxNode.cmdVels]) ?_
    cases i with
    | mux i =>
      cases i with
      | controlLoop now => exact fun h => hi h.1
      | _ => exact id
    | _ => exact id
  | mux x i o m hi htake =>
    cases i with
    | controlLoop now =>
      have hhandle := (TwistMuxNode.takes_iff.1 htake).2.1
      by_cases hp : x.mux.node.smoothPub.isActivated = true
      · refine (TwistMuxNode.cold_tick hhandle hp hr).trans (not_congr ?_)
        exact ⟨fun h => ⟨hi, hp, h⟩, fun h => h.2.2⟩
      · refine iff_of_true ?_ fun h => hp h.2.1
        rcases TwistMuxNode.controlLoop_cases hhandle with ⟨-, -, rfl⟩ | ⟨hp', -⟩
        · simp [Rests, TwistMuxNode.cmdVels]
        · exact absurd hp' hp
    | _ =>
      refine iff_of_true ?_ id
      have hnone := TwistMuxNode.cmdVels_step htake (by simp)
      simp [Rests, hnone]
  | _ => exact iff_of_true (by simp [Rests, TwistMuxNode.cmdVels]) id

/-- **Cold start.** In a run from construction, everything that is published between an activation
and the first accepted command is a stop, if and only if no firing of the timer in between finds a
residue in the filter. -/
theorem rest_run_iff {now : Time} {tr : List (LifecycleStep ℚ)} {x : MuxLifecycle ℚ}
    (h : events.Run (construct now) tr x) :
    Throughout (fun past e => Unfed past → Rests e) tr ↔
      Throughout (fun past e => Unfed past → ¬ Residual e) tr := by
  refine h.throughout_congr (C := fun _ => True) (fun _ _ => trivial) fun past e hpast he _ _ => ?_
  exact imp_congr_right fun hunfed => rests_iff he (cold_run hpast hunfed)

/-- A node that stands still until a command comes, drives, is restarted and driven on. -/
def promptRestart : List (MuxLifecycleEvent ℚ) :=
  [.configure {}, .activate 0, .mux (.controlLoop 1), .mux (.teleop 1 true ⟨⟨1, 0, 0⟩, 0⟩),
    .mux (.controlLoop 1), .deactivate, .activate 2, .mux (.teleop 2 true ⟨⟨1, 0, 0⟩, 0⟩),
    .mux (.controlLoop 2)]

theorem rest_run_promptRestart :
    (events.trace (construct 0) promptRestart).length = 9 ∧
    Throughout (fun past e => Unfed past → Rests e) (events.trace (construct 0) promptRestart) :=
  ⟨by decide +kernel, (rest_run_iff (events.run_trace _ _ (by decide +kernel))).2
    (by decide +kernel)⟩

/-- A drive, a restart, and the first firing of the timer after it. -/
def rollingRestart : List (MuxLifecycleEvent ℚ) :=
  [.configure {}, .activate 0, .mux (.teleop 1 true ⟨⟨1, 0, 0⟩, 0⟩), .mux (.controlLoop 1),
    .deactivate, .activate 2, .mux (.controlLoop 2)]

/-- The restarted node drives on without a command. -/
theorem rollingRestart_moves :
    events.Run (construct 0) (events.trace (construct 0) rollingRestart)
      (events.final (construct 0) rollingRestart) ∧
    ¬ Throughout (fun past e => Unfed past → Rests e) (events.trace (construct 0) rollingRestart) ∧
    ((events.trace (construct 0) rollingRestart).map fun e => e.output).getLast? =
      some [.muxState TwistMuxStateMsg.idle, .cmdVelSmoothed ⟨⟨9 / 100, 0, 0⟩, 0⟩] :=
  ⟨events.run_trace _ _ (by decide +kernel), by decide +kernel, by decide +kernel⟩

end MuxLifecycle

end MonaRobot
