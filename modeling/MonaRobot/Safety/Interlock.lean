import MonaRobot.Foundations.History
import MonaRobot.Safety.SafetyNode

/-!
# The motion interlock

Motion and power have separate gates: `smoothed_vel_callback` looks at the latch and the mode, the
contactors are a flag of their own. Two events open the contactors and leave the motion gate as it
is: an activation, which keeps the mode the node had (`NORMAL` from its constructor), and an unknown
health byte. `Withdraws` are these two and `Clears` is what closes the contactors again, a health
byte that commands it or a reset.

* `gate_run`: while the motion gate is open, the contactors are closed exactly if every withdrawal
  was followed by a clearance.
* `interlock_run_iff`: over a run the node moves only with closed contactors exactly if no motion is
  requested before that clearance.
-/

namespace MonaRobot

open Reactive

namespace SafetyNode

/-! ## Clearance -/

section Clearance

variable {V : Type} [VelocityScalar V]

/-- The event closes the contactors: a health byte that commands it, unless the e-stop is latched,
or a reset. -/
def closes (s : SafetyNode) : SafetyEvent V → Bool
  | .healthState msg => energizes msg && !s.eStopActive
  | .estopReset => true
  | _ => false

/-- The event opens the contactors but not the motion gate: an activation or an unknown byte. -/
def opensPowerOnly : SafetyEvent V → Bool
  | .activate => true
  | .healthState msg => decide (FdirState.Unknown msg)
  | _ => false

/-- The power is cleared. -/
def Clears (e : SafetyStep V) : Prop := e.pre.Handled e.input ∧ e.pre.closes e.input = true

/-- The clearance is withdrawn while the motion gate stays. -/
def Withdraws (e : SafetyStep V) : Prop := e.pre.Handled e.input ∧ opensPowerOnly e.input = true

instance (e : SafetyStep V) : Decidable (Clears e) := inferInstanceAs (Decidable (_ ∧ _))

instance (e : SafetyStep V) : Decidable (Withdraws e) := inferInstanceAs (Decidable (_ ∧ _))

/-- Since its last withdrawal the power was cleared. -/
def Cleared (past : List (SafetyStep V)) : Prop := Answered Clears Withdraws past

instance (past : List (SafetyStep V)) : Decidable (Cleared past) :=
  inferInstanceAs (Decidable (Answered _ _ _))

/-- While velocities pass, the contactors are closed exactly if the power is cleared. -/
def GateSound (past : List (SafetyStep V)) (s : SafetyNode) : Prop :=
  s.isProcessingAllowed = true → ¬ s.MotionShut →
    (s.hardwareContactorsClosed = true ↔ Cleared past)

theorem Clears.not_withdraws {e : SafetyStep V} (h : Clears e) : ¬ Withdraws e := by
  obtain ⟨s, i, o, t⟩ := e
  obtain ⟨-, hc⟩ := h
  rintro ⟨-, hw⟩
  cases i with
  | healthState msg =>
    have hmsg : energizes msg = true := (Bool.and_eq_true _ _ ▸ hc).1
    rw [energizes_unknown (of_decide_eq_true hw)] at hmsg
    cases hmsg
  | activate => cases hc
  | _ => cases hw

/-! ## One step -/

/-- A step that neither withdraws nor clears, and leaves the gates as they are. -/
theorem GateSound.idle {past : List (SafetyStep V)} {e : SafetyStep V} {t : SafetyNode}
    (h : GateSound past e.pre) (hw : ¬ Withdraws e) (hc : ¬ Clears e)
    (hp : t.isProcessingAllowed = e.pre.isProcessingAllowed)
    (hs : t.eStopActive = e.pre.eStopActive) (hm : t.currentState = e.pre.currentState)
    (hf : t.hardwareContactorsClosed = e.pre.hardwareContactorsClosed) :
    GateSound (past ++ [e]) t := by
  unfold GateSound MotionShut Cleared at h ⊢
  rw [hp, hs, hm, hf, answered_concat]
  simpa only [hw, hc, not_false_eq_true, true_and, false_or] using h

theorem gateSound_of_stopped {past : List (SafetyStep V)} {t : SafetyNode}
    (h : t.isProcessingAllowed = false) : GateSound past t := by
  intro hp
  rw [h] at hp
  cases hp

theorem gateSound_of_shut {past : List (SafetyStep V)} {t : SafetyNode} (h : t.MotionShut) :
    GateSound past t :=
  fun _ hopen => absurd h hopen

theorem gateSound_of_withdraws {past : List (SafetyStep V)} {e : SafetyStep V} {t : SafetyNode}
    (hw : Withdraws e) (h : t.hardwareContactorsClosed = false) : GateSound (past ++ [e]) t := by
  intro _ _
  rw [Cleared, answered_concat, h]
  simp [hw]

theorem gateSound_of_clears {past : List (SafetyStep V)} {e : SafetyStep V} {t : SafetyNode}
    (hc : Clears e) (h : t.hardwareContactorsClosed = true) : GateSound (past ++ [e]) t := by
  intro _ _
  rw [Cleared, answered_concat, h]
  simp [hc, hc.not_withdraws]

/-- A health byte shuts the motion gate, closes the contactors, or is unknown and opens them. -/
theorem gateSound_healthState {past : List (SafetyStep V)} {s : SafetyNode} {msg : UInt8}
    {o : List (SafetyOutput V)} (hi : s.Handled (V := V) (.healthState msg)) :
    GateSound (past ++ [⟨s, .healthState msg, o, s.afterFdirState msg⟩])
      (s.afterFdirState msg) := by
  cases hs : s.eStopActive with
  | true => exact gateSound_of_shut (Or.inl (by simp [afterFdirState, hs]))
  | false =>
    by_cases hmsg : energizes msg = true
    · exact gateSound_of_clears ⟨hi, by simp [closes, hmsg, hs]⟩ (by simp [afterFdirState, hmsg, hs])
    have hopen : (s.afterFdirState msg).hardwareContactorsClosed = false := by
      simp [afterFdirState, hmsg]
    rcases FdirState.cases msg with rfl | rfl | rfl | rfl | rfl | rfl | hne
    · exact gateSound_of_shut (Or.inr (Or.inl rfl))
    · exact absurd (by decide) hmsg
    · exact absurd (by decide) hmsg
    · exact absurd (by decide) hmsg
    · exact absurd (by decide) hmsg
    · exact gateSound_of_shut (Or.inr (Or.inr rfl))
    · exact gateSound_of_withdraws ⟨hi, decide_eq_true hne⟩ hopen

theorem gateSound_step {past : List (SafetyStep V)} {e : SafetyStep V} (he : (events V).Takes e)
    (h : GateSound past e.pre) : GateSound (past ++ [e]) e.post := by
  induction e, he using takes_rec with
  | skipped s i hi => exact h.idle (fun hw => hi hw.1) (fun hc => hi hc.1) rfl rfl rfl rfl
  | configure s n d hl =>
    exact h.idle (fun hw => by cases hw.2) (fun hc => by cases hc.2) rfl rfl rfl rfl
  | activate s hl => exact gateSound_of_withdraws ⟨hl, rfl⟩ (by simp [onActivate])
  | deactivate s hl => exact gateSound_of_stopped (by simp [onDeactivate, halt])
  | cleanup s hl => exact gateSound_of_stopped (by simp [onCleanup, halt])
  | shutdown s hl => exact gateSound_of_stopped (by simp [onShutdown, halt])
  | error s hl => exact gateSound_of_stopped (by simp [onError, halt])
  | smoothedVel s msg hi =>
    exact h.idle (fun hw => by cases hw.2) (fun hc => by cases hc.2) rfl rfl rfl rfl
  | healthState s msg hi => exact gateSound_healthState hi
  | muxState s msg hi =>
    exact h.idle (fun hw => by cases hw.2) (fun hc => by cases hc.2) rfl rfl rfl rfl
  | odom s twist hi => exact gateSound_of_shut (Or.inl (by rw [latch_fst]))
  | estop s hi => exact gateSound_of_shut (Or.inl (by rw [latch_fst]))
  | estopReset s hi => exact gateSound_of_clears ⟨hi, rfl⟩ (by rw [reset_fst])

/-! ## Whole runs -/

/-- While velocities pass, the contactors are closed exactly if the power was cleared since the last
activation and the last unknown byte. -/
theorem gate_run {tr : List (SafetyStep V)} {s : SafetyNode} (h : (events V).Run construct tr s) :
    GateSound tr s :=
  h.history (gateSound_of_stopped rfl) fun _ _ _ he hpre => gateSound_step he hpre

/-! ## Motor commands of the other callbacks -/

/-- Every motor command of the list is a stop. -/
def StopOnly (l : List (SafetyOutput V)) : Prop := ∀ cmd, .motorCmd cmd ∈ l → cmd = 0

theorem stopOnly_publishStop (s : SafetyNode) : StopOnly (s.publishStop (V := V)) := by
  intro cmd h
  exact SafetyOutput.motorCmd.inj (publishStop_mem h)

/-- Only the velocity callback commands motion. -/
theorem stopOnly_step {e : SafetyStep V} (he : (events V).Takes e)
    (hvel : ∀ msg, e.input ≠ .smoothedVel msg) : StopOnly e.output := by
  intro cmd hcmd
  cases sends he _ hcmd with
  | stop => rfl
  | velocity msg hi => exact absurd hi (hvel msg)

end Clearance

/-! ## Motion -/

/-- The parameters are speed limits. -/
def limitsNonneg {V : Type} : SafetyEvent V → Bool
  | .configure normal degraded => decide (0 ≤ normal ∧ 0 ≤ degraded)
  | _ => true

/-- The event is a velocity other than a stop. -/
def isDrive : SafetyEvent ℚ → Bool
  | .smoothedVel msg => !decide msg.IsStop
  | _ => false

/-- A velocity other than a stop arrives while the motion gate is open and the limit positive. -/
def RequestsMotion (e : SafetyStep ℚ) : Prop :=
  e.pre.Handled e.input ∧ isDrive e.input = true ∧ ¬ e.pre.MotionShut ∧ 0 < e.pre.currentLimit

instance (e : SafetyStep ℚ) : Decidable (RequestsMotion e) :=
  inferInstanceAs (Decidable (_ ∧ _ ∧ _ ∧ _))

/-- The node commands motion. -/
def Moves (e : SafetyStep ℚ) : Prop := ∃ cmd, .motorCmd cmd ∈ e.output ∧ ¬ cmd.IsStop

theorem clip_isStop_iff {L : ℚ} (hL : 0 ≤ L) (msg : Twist ℚ) :
    (clip L msg).IsStop ↔ L = 0 ∨ msg.IsStop := by
  have hc : ∀ v : ℚ, clamp v (-VelocityScalar.ofRat L) (VelocityScalar.ofRat L) = 0 ↔
      L = 0 ∨ v = 0 := clamp_eq_zero_iff hL
  simp only [Twist.IsStop, clip, hc]
  tauto

/-- A velocity that is handled moves the robot if the gate is open, the limit positive and the
velocity not a stop. -/
theorem moves_smoothedVel_iff {s t : SafetyNode} {msg : Twist ℚ} {o : List (SafetyOutput ℚ)}
    (hL : 0 ≤ s.currentLimit) (hi : s.Handled (.smoothedVel msg))
    (ho : o = if s.MotionShut then s.publishStop else [.motorCmd (clip s.currentLimit msg)]) :
    Moves ⟨s, .smoothedVel msg, o, t⟩ ↔ RequestsMotion ⟨s, .smoothedVel msg, o, t⟩ := by
  have hreq : isDrive (.smoothedVel msg) = true ↔ ¬ msg.IsStop := by simp [isDrive]
  unfold Moves RequestsMotion
  by_cases hshut : s.MotionShut
  · have hstop : StopOnly o := by
      rw [ho, if_pos hshut]
      exact stopOnly_publishStop s
    refine iff_of_false ?_ fun h => h.2.2.1 hshut
    rintro ⟨cmd, hcmd, hmoves⟩
    rw [hstop cmd hcmd] at hmoves
    exact hmoves Twist.isStop_zero
  · have hpos : 0 < s.currentLimit ↔ s.currentLimit ≠ 0 :=
      ⟨fun h => h.ne', fun h => lt_of_le_of_ne hL h.symm⟩
    rw [if_neg hshut] at ho
    simp only [ho, hi, hreq, hshut, List.mem_singleton, SafetyOutput.motorCmd.injEq,
      exists_eq_left, clip_isStop_iff hL, hpos, not_or, not_false_eq_true, true_and]
    tauto

theorem moves_iff {e : SafetyStep ℚ} (he : (events ℚ).Takes e) (hL : 0 ≤ e.pre.currentLimit) :
    Moves e ↔ RequestsMotion e := by
  by_cases hvel : ∃ msg, e.input = .smoothedVel msg
  · induction e, he using takes_rec with
    | smoothedVel s msg hi => exact moves_smoothedVel_iff hL hi rfl
    | skipped s i hi =>
      refine iff_of_false ?_ fun h => hi h.1
      rintro ⟨cmd, hcmd, -⟩
      obtain ⟨message, h⟩ := reply_mem hcmd
      cases h
    | _ => exact absurd hvel (by simp)
  · have hstop : StopOnly e.output := stopOnly_step he fun msg h => hvel ⟨msg, h⟩
    refine iff_of_false ?_ ?_
    · rintro ⟨cmd, hcmd, hmoves⟩
      rw [hstop cmd hcmd] at hmoves
      exact hmoves Twist.isStop_zero
    · rintro ⟨-, hdrive, -⟩
      cases hi : e.input with
      | smoothedVel msg => exact hvel ⟨msg, hi⟩
      | _ => simp [hi, isDrive] at hdrive

/-! ## The limits -/

section Limits

variable {V : Type} [VelocityScalar V]

/-- Nonnegative parameters give a nonnegative limit, in every mode. -/
theorem limits_step {e : SafetyStep V} (he : (events V).Takes e)
    (hlim : limitsNonneg e.input = true)
    (h : 0 ≤ e.pre.maxSpeedNormal ∧ 0 ≤ e.pre.maxSpeedDegraded) :
    0 ≤ e.post.maxSpeedNormal ∧ 0 ≤ e.post.maxSpeedDegraded := by
  by_cases hconf : ∀ n d, e.input ≠ .configure n d
  · obtain ⟨hn, hd⟩ := limits_eq he hconf
    rw [hn, hd]
    exact h
  · induction e, he using takes_rec with
    | skipped s i hi => exact h
    | configure s n d hl => exact of_decide_eq_true hlim
    | _ => simp at hconf

theorem currentLimit_nonneg {s : SafetyNode}
    (h : 0 ≤ s.maxSpeedNormal ∧ 0 ≤ s.maxSpeedDegraded) : 0 ≤ s.currentLimit := by
  unfold currentLimit
  split_ifs
  · exact h.2
  · exact h.1

/-- The limit in force is nonnegative in a run whose configurations have nonnegative limits. -/
theorem currentLimit_run {tr : List (SafetyStep V)} {s : SafetyNode}
    (h : (events V).Run construct tr s) (hlim : ∀ e ∈ tr, limitsNonneg e.input = true) :
    0 ≤ s.currentLimit :=
  currentLimit_nonneg <| h.invariant_under
    (I := fun s => 0 ≤ s.maxSpeedNormal ∧ 0 ≤ s.maxSpeedDegraded) ⟨le_rfl, le_rfl⟩ hlim
    fun _ he hc hpre => limits_step he hc hpre

end Limits

/-! ## Whole runs -/

/-- **The interlock over a run.** With nonnegative speed limits, every nonzero motor command of a
run is sent with closed contactors exactly if every motion request of the run comes after the power
was cleared, since the last activation and the last unknown byte. -/
theorem interlock_run_iff {tr : List (SafetyStep ℚ)} {s : SafetyNode}
    (h : (events ℚ).Run construct tr s) (hlim : ∀ e ∈ tr, limitsNonneg e.input = true) :
    (∀ e ∈ tr, ∀ cmd, .motorCmd cmd ∈ e.output → ¬ cmd.IsStop →
      e.pre.hardwareContactorsClosed = true) ↔
    Throughout (fun past e => RequestsMotion e → Cleared past) tr := by
  rw [← throughout_const]
  refine h.throughout_congr hlim fun past e hpast he hC _ => ?_
  have hL : 0 ≤ e.pre.currentLimit := currentLimit_run hpast hC
  have hgate : RequestsMotion e → (e.pre.hardwareContactorsClosed = true ↔ Cleared past) := by
    rintro ⟨hi, hdrive, hopen, -⟩
    refine gate_run hpast ?_ hopen
    cases hinput : e.input with
    | smoothedVel msg =>
      rw [hinput] at hi
      exact hi.2.1
    | _ => simp [hinput, isDrive] at hdrive
  constructor
  · intro hclosed hreq
    obtain ⟨cmd, hcmd, hmoves⟩ := (moves_iff he hL).2 hreq
    exact (hgate hreq).1 (hclosed cmd hcmd hmoves)
  · intro hcleared cmd hcmd hmoves
    have hreq : RequestsMotion e := (moves_iff he hL).1 ⟨cmd, hcmd, hmoves⟩
    exact (hgate hreq).2 (hcleared hreq)

/-- A drive with a health message before every command, through a startup, an unknown byte and a
reset. -/
def clearedDrive : List (SafetyEvent ℚ) :=
  [.configure 1 (3 / 10), .activate, .healthState FdirState.stateSoftwareOk,
    .smoothedVel ⟨⟨1, 0, 0⟩, 0⟩, .healthState 9, .healthState FdirState.stateDegraded,
    .smoothedVel ⟨⟨1, 0, 0⟩, 0⟩, .estop, .smoothedVel ⟨⟨1, 0, 0⟩, 0⟩, .estopReset,
    .smoothedVel ⟨⟨1, 0, 0⟩, 0⟩]

theorem interlock_run_clearedDrive :
    (∃ e ∈ (events ℚ).trace construct clearedDrive, .motorCmd ⟨⟨1, 0, 0⟩, 0⟩ ∈ e.output) ∧
    ∀ e ∈ (events ℚ).trace construct clearedDrive, ∀ cmd, .motorCmd cmd ∈ e.output →
      ¬ cmd.IsStop → e.pre.hardwareContactorsClosed = true :=
  ⟨by decide +kernel, (interlock_run_iff (Machine.run_trace _ clearedDrive (by decide +kernel))
    (by decide +kernel)).2 (by decide +kernel)⟩

/-- A velocity right after the first activation. -/
def unclearedDrive : List (SafetyEvent ℚ) :=
  [.configure 1 (3 / 10), .activate, .smoothedVel ⟨⟨1, 0, 0⟩, 0⟩]

/-- The velocity is passed on while the contactors are still open. -/
theorem unclearedDrive_moves :
    ∃ tr s, (events ℚ).Run construct tr s ∧ (∀ e ∈ tr, limitsNonneg e.input = true) ∧
      ∃ e ∈ tr, .motorCmd ⟨⟨1, 0, 0⟩, 0⟩ ∈ e.output ∧ ¬ (⟨⟨1, 0, 0⟩, 0⟩ : Twist ℚ).IsStop ∧
        e.pre.hardwareContactorsClosed = false :=
  ⟨_, _, Machine.run_trace _ unclearedDrive (by decide +kernel), by decide +kernel,
    by decide +kernel⟩

end SafetyNode

end MonaRobot
