import MonaRobot.Safety.EstopLatch
import MonaRobot.Safety.Interlock

/-!
# Reset and the last health verdict

An accepted reset goes to the mode `NORMAL` and closes the contactors, and a reset that is ignored
leaves both as they are; neither looks at `last_fdir_state_`. Until the next health message the node
then moves within the limit of the mode it is in, whatever the last verdict permits.

* `confined_run`: after a reset, velocity, mux-state and odometry messages never make the node send
  more than the reset state lets through.
* `respectsFdir_iff`: in a state the node can reach while active, what follows a reset stays within
  the last verdict exactly if the reset state does (`ResetPermitted`).
-/

namespace MonaRobot

open Reactive

namespace SafetyNode

/-! ## What a verdict permits -/

/-- The health bytes under which the robot may move. -/
def permitsMotion (fdirState : UInt8) : Bool :=
  decide (fdirState = FdirState.stateDegraded ∨ fdirState = FdirState.stateReconfigured ∨
    fdirState = FdirState.stateSoftwareOk)

/-- The health bytes under which it may move within the degraded limit only. -/
def restrictsMotion (fdirState : UInt8) : Bool :=
  decide (fdirState = FdirState.stateDegraded ∨ fdirState = FdirState.stateReconfigured)

/-- The driving components are at most `|L|`. -/
def Within (L : ℚ) (cmd : Twist ℚ) : Prop :=
  |cmd.linear.x| ≤ |L| ∧ |cmd.linear.y| ≤ |L| ∧ |cmd.angular.z| ≤ |L|

/-- What may be sent while `fdirState` is the last health byte. -/
def PermittedOutput (fdirState : UInt8) (maxSpeedDegraded : ℚ) : SafetyOutput ℚ → Prop
  | .contactors data => data = true → energizes fdirState = true
  | .motorCmd cmd => (¬ cmd.IsStop → permitsMotion fdirState = true) ∧
      (restrictsMotion fdirState = true → Within maxSpeedDegraded cmd)
  | _ => True

/-- The messages that may come between a reset and the next health message. -/
def isRoutine : SafetyEvent ℚ → Bool
  | .smoothedVel _ => true
  | .muxState _ => true
  | .odom _ => true
  | _ => false

/-- A reset in `s`, and all that is sent until the next health message, stays within the last health
byte of `s`. -/
def RespectsFdir (s : SafetyNode) : Prop :=
  ∀ e tr t, (events ℚ).Run s (e :: tr) t → e.input = .estopReset →
    (∀ e' ∈ tr, isRoutine e'.input = true) →
    ∀ e' ∈ e :: tr, ∀ o ∈ e'.output, PermittedOutput s.lastFdirState s.maxSpeedDegraded o

/-- The limit `L` is one that the health byte permits. -/
def PermittedLimit (fdirState : UInt8) (maxSpeedDegraded L : ℚ) : Prop :=
  L = 0 ∨ fdirState = FdirState.stateSoftwareOk ∨
    (restrictsMotion fdirState = true ∧ |L| ≤ |maxSpeedDegraded|)

instance (fdirState : UInt8) (maxSpeedDegraded L : ℚ) :
    Decidable (PermittedLimit fdirState maxSpeedDegraded L) :=
  inferInstanceAs (Decidable (_ ∨ _ ∨ (_ ∧ _)))

/-- The state a reset leads to is one that the last health byte permits: when it is accepted, the
contactors may close and the normal limit is permitted; when it is ignored, the motion gate is shut
or the limit in force is permitted. -/
def ResetPermitted (s : SafetyNode) : Prop :=
  (s.eStopActive = true → energizes s.lastFdirState = true ∧
    PermittedLimit s.lastFdirState s.maxSpeedDegraded s.maxSpeedNormal) ∧
  (s.eStopActive = false →
    s.MotionShut ∨ PermittedLimit s.lastFdirState s.maxSpeedDegraded s.currentLimit)

instance (s : SafetyNode) : Decidable (ResetPermitted s) :=
  inferInstanceAs (Decidable ((_ → _) ∧ (_ → _)))

/-! ## The last health byte -/

/-- The health byte a step processes. -/
def processedByte (e : SafetyStep ℚ) : Option UInt8 :=
  match e.input with
  | .healthState msg => if e.pre.Handled e.input then some msg else none
  | _ => none

theorem lastFdirState_step {e : SafetyStep ℚ} (he : (events ℚ).Takes e) :
    e.post.lastFdirState = (processedByte e).getD e.pre.lastFdirState := by
  induction e, he using takes_rec with
  | skipped s i hi => cases i <;> simp [processedByte, hi]
  | healthState s msg hi => simp [processedByte, hi, afterFdirState]
  | odom s twist hi => simp [processedByte, latch_fst]
  | estop s hi => simp [processedByte, latch_fst]
  | estopReset s hi => simp [processedByte, reset_fst]
  | _ =>
    simp [processedByte, onConfigure, onActivate, onDeactivate, onCleanup, onShutdown, onError, halt]

/-- `last_fdir_state_` is the last health byte that was processed, over any number of transitions. -/
theorem lastFdirState_run {tr : List (SafetyStep ℚ)} {s : SafetyNode}
    (h : (events ℚ).Run construct tr s) :
    s.lastFdirState = ((tr.filterMap processedByte).getLast?).getD 255 := by
  refine h.history (H := fun tr s =>
    s.lastFdirState = ((tr.filterMap processedByte).getLast?).getD 255) rfl ?_
  intro past e _ he hpre
  rw [lastFdirState_step he, hpre]
  cases hp : processedByte e <;> simp [hp]

/-! ## Commands under a limit -/

theorem within_clip (L : ℚ) (msg : Twist ℚ) : Within L (clip L msg) :=
  ⟨abs_clamp_le .., abs_clamp_le .., abs_clamp_le ..⟩

theorem within_zero (L : ℚ) : Within L 0 := by
  refine ⟨?_, ?_, ?_⟩ <;> exact (abs_zero (α := ℚ)).trans_le (abs_nonneg L)

theorem permittedOutput_stop (f : UInt8) (d : ℚ) : PermittedOutput f d (.motorCmd 0) :=
  ⟨fun h => absurd Twist.isStop_zero h, fun _ => within_zero d⟩

/-- Every velocity that is clipped to a permitted limit is permitted, and only then. -/
theorem permittedLimit_iff (f : UInt8) (d L : ℚ) :
    PermittedLimit f d L ↔ ∀ msg, PermittedOutput f d (.motorCmd (clip L msg)) := by
  constructor
  · rintro (rfl | rfl | ⟨hf, hL⟩) msg
    · have hstop : (clip 0 msg).IsStop := (clip_isStop_iff le_rfl msg).2 (Or.inl rfl)
      obtain ⟨hx, hy, hz⟩ := within_clip 0 msg
      have hd := (abs_zero (α := ℚ)).trans_le (abs_nonneg d)
      exact ⟨fun h => absurd hstop h, fun _ => ⟨hx.trans hd, hy.trans hd, hz.trans hd⟩⟩
    · exact ⟨fun _ => by decide, fun h => absurd h (by decide)⟩
    · obtain ⟨hx, hy, hz⟩ := within_clip L msg
      refine ⟨fun _ => ?_, fun _ => ⟨hx.trans hL, hy.trans hL, hz.trans hL⟩⟩
      simp only [restrictsMotion, permitsMotion, decide_eq_true_eq] at hf ⊢
      tauto
  · intro h
    by_cases hL : L = 0
    · exact Or.inl hL
    obtain ⟨v, hv⟩ := exists_abs_clamp_eq L
    obtain ⟨hmoves, hwithin⟩ := h ⟨⟨v, 0, 0⟩, 0⟩
    have hx : |(clip L ⟨⟨v, 0, 0⟩, 0⟩).linear.x| = |L| := hv
    have hne : ¬ (clip L ⟨⟨v, 0, 0⟩, 0⟩).IsStop := by
      rintro ⟨hzero, -⟩
      rw [hzero, abs_zero] at hx
      exact hL (abs_eq_zero.1 hx.symm)
    have hf := hmoves hne
    simp only [permitsMotion, decide_eq_true_eq] at hf
    by_cases hr : restrictsMotion f = true
    · exact Or.inr (Or.inr ⟨hr, hx ▸ (hwithin hr).1⟩)
    · simp only [restrictsMotion, decide_eq_true_eq, not_or] at hr
      tauto

/-! ## The reset -/

/-- The state a reset request leads to. -/
def afterReset (s : SafetyNode) : SafetyNode :=
  if s.eStopActive then
    { s with
      currentState := .normal
      eStopActive := false
      hardwareContactorsClosed := true }
  else s

/-- Neither moves nor powers the robot. -/
def Inert : SafetyOutput ℚ → Prop
  | .motorCmd _ => False
  | .contactors _ => False
  | _ => True

theorem inert_reply {s : SafetyNode} {i : SafetyEvent ℚ} {o : SafetyOutput ℚ} (h : o ∈ s.reply i) :
    Inert o := by
  obtain ⟨message, rfl⟩ := reply_mem h
  trivial

theorem inert_publishGlobalState {s : SafetyNode} {o : SafetyOutput ℚ}
    (h : o ∈ s.publishGlobalState) : Inert o := by
  rw [publishGlobalState_mem h]
  trivial

theorem Inert.permitted {o : SafetyOutput ℚ} (h : Inert o) (f : UInt8) (d : ℚ) :
    PermittedOutput f d o := by
  cases o with
  | motorCmd msg => exact h.elim
  | contactors data => exact h.elim
  | _ => trivial

/-- A reset request to an active node is accepted, and the contactors commanded closed, when the
e-stop is latched, and is ignored otherwise. -/
theorem handle_estopReset_active {s : SafetyNode} (hw : Wired s) (hs : LatchSound s)
    (hl : s.lifecycle = .active) :
    ∃ o, s.handle .estopReset =
        (s.afterReset, (if s.eStopActive then [.contactors true] else []) ++ o) ∧
      ∀ x ∈ o, Inert x := by
  obtain ⟨-, -, -, -, -, hsrv, -⟩ := hw.present (Or.inr hl)
  cases hon : s.eStopActive with
  | true =>
    have hhandled : s.Handled (V := ℚ) .estopReset := ⟨hsrv, Or.inr hon⟩
    have hcontactors : (setHardwareContactors (V := ℚ)
        { s with currentState := .normal, eStopActive := false } true).2 = [.contactors true] := by
      have hopen : s.hardwareContactorsClosed = false := hs.opened hon
      exact setHardwareContactors_snd (by simp [hopen]) (hw.sending hl).2.2
    refine ⟨s.afterReset.publishGlobalState ++
      [.response true "System recovered from EMERGENCY. Manual control enabled."], ?_, ?_⟩
    · rw [handle_estopReset hhandled]
      simp [reset, hcontactors, afterReset, hon]
    · intro x hx
      rcases List.mem_append.1 hx with hx | hx
      · exact inert_publishGlobalState hx
      · rw [List.mem_singleton.1 hx]
        trivial
  | false =>
    have hskip : ¬ s.Handled (V := ℚ) .estopReset := by
      rintro ⟨-, hm | hon'⟩
      · rw [hs.latched hm] at hon
        cases hon
      · rw [hon'] at hon
        cases hon
    refine ⟨s.reply .estopReset, ?_, fun x hx => inert_reply hx⟩
    rw [handle_of_not_handled hskip]
    simp [afterReset, hon]

/-! ## Until the next health message -/

/-- Velocities are answered by a stop or limited to what the health byte permits. -/
def Confined (f : UInt8) (d : ℚ) (s : SafetyNode) : Prop :=
  s.MotionShut ∨ PermittedLimit f d s.currentLimit

/-- A velocity, mux-state or odometry message keeps the node confined and what it sends permitted:
the only change it can make to the gates is to latch the e-stop. -/
theorem confined_step {f : UInt8} {d : ℚ} {e : SafetyStep ℚ} (he : (events ℚ).Takes e)
    (hi : isRoutine e.input = true) (h : Confined f d e.pre) :
    Confined f d e.post ∧ ∀ o ∈ e.output, PermittedOutput f d o := by
  induction e, he using takes_rec with
  | skipped s i hskip => exact ⟨h, fun o ho => (inert_reply ho).permitted f d⟩
  | smoothedVel s msg hhandled =>
    refine ⟨h, fun o ho => ?_⟩
    by_cases hshut : s.MotionShut
    · rw [if_pos hshut] at ho
      rw [publishStop_mem ho]
      exact permittedOutput_stop f d
    · rw [if_neg hshut] at ho
      rw [List.mem_singleton.1 ho]
      exact (permittedLimit_iff f d s.currentLimit).1 (h.resolve_left hshut) msg
  | muxState s msg hhandled => exact ⟨h, fun o ho => (inert_publishGlobalState ho).permitted f d⟩
  | odom s twist hhandled =>
    refine ⟨Or.inl (Or.inl (by rw [latch_fst])), fun o ho => ?_⟩
    rcases List.mem_append.1 ho with ho | ho
    · rw [setHardwareContactors_mem ho]
      intro h
      cases h
    · exact (inert_publishGlobalState ho).permitted f d
  | _ => cases hi

theorem confined_run {f : UInt8} {d : ℚ} {s t : SafetyNode} {tr : List (SafetyStep ℚ)}
    (h : (events ℚ).Run s tr t) (hs : Confined f d s)
    (hi : ∀ e ∈ tr, isRoutine e.input = true) : ∀ e ∈ tr, ∀ o ∈ e.output, PermittedOutput f d o := by
  intro e he
  obtain ⟨tr₁, tr₂, rfl⟩ := List.append_of_mem he
  obtain ⟨hpast, htake, -⟩ := h.around
  have hpre : Confined f d e.pre := hpast.invariant_under hs
    (fun e' he' => hi e' (List.mem_append_left _ he'))
    fun _ ht hr hpre => (confined_step ht hr hpre).1
  exact (confined_step htake (hi e he) hpre).2

/-- While velocities are not shut out, each is sent on, clipped to the limit in force. -/
theorem takes_smoothedVel {s : SafetyNode} (hw : Wired s) (hl : s.lifecycle = .active)
    (hopen : ¬ s.MotionShut) (msg : Twist ℚ) :
    (events ℚ).Takes ⟨s, .smoothedVel msg, [.motorCmd (clip s.currentLimit msg)], s⟩ := by
  have hhandle := handle_smoothedVel (hw.handled_smoothedVel hl msg)
  rw [if_neg hopen] at hhandle
  simp [Machine.Takes, events, hhandle]

/-- The state after the reset is confined to the health byte exactly if the state before meets the
condition. -/
theorem confined_afterReset_iff (s : SafetyNode) :
    ResetPermitted s ↔ (s.eStopActive = true → energizes s.lastFdirState = true) ∧
      Confined s.lastFdirState s.maxSpeedDegraded s.afterReset := by
  unfold ResetPermitted Confined afterReset
  cases hon : s.eStopActive with
  | true => simp [MotionShut, currentLimit]
  | false => simp

/-- **Reset and the last verdict.** In any state an active node can reach, `last_fdir_state_` is the
last health byte processed, and a reset and what is sent until the next health message stay within
it exactly if the state the reset leads to is one that it permits. -/
theorem respectsFdir_iff {tr : List (SafetyStep ℚ)} {s : SafetyNode}
    (h : (events ℚ).Run construct tr s) (hl : s.lifecycle = .active) :
    s.lastFdirState = ((tr.filterMap processedByte).getLast?).getD 255 ∧
      (RespectsFdir s ↔ ResetPermitted s) := by
  refine ⟨lastFdirState_run h, ?_⟩
  have hw : Wired s := wired_run h
  obtain ⟨o, hreset, hinert⟩ := handle_estopReset_active hw (latchSound_run h) hl
  rw [confined_afterReset_iff]
  constructor
  · intro hrespects
    have htake : (events ℚ).Takes ⟨s, .estopReset,
        (if s.eStopActive then [.contactors true] else []) ++ o, s.afterReset⟩ := by
      simp [Machine.Takes, events, hreset]
    constructor
    · intro hon
      exact hrespects _ [] _ (.single htake) rfl (by simp) _ (List.mem_singleton_self _)
        (.contactors true) (by simp [hon]) rfl
    · by_cases hshut : s.afterReset.MotionShut
      · exact Or.inl hshut
      refine Or.inr ((permittedLimit_iff ..).2 fun msg => ?_)
      have hw' : Wired s.afterReset := wired_step htake hw
      have hl' : s.afterReset.lifecycle = .active := by
        unfold afterReset
        split_ifs <;> exact hl
      have hvel := takes_smoothedVel hw' hl' hshut msg
      exact hrespects _ [_] _ (.cons htake (.single hvel)) rfl (by simp [isRoutine]) _
        (List.mem_cons_of_mem _ (List.mem_singleton_self _)) _ (List.mem_singleton_self _)
  · rintro ⟨hcontactors, hconfined⟩ e tr' t hrun hi hroutine e' he' x hx
    obtain ⟨hpre, htake, hrest⟩ := hrun.cons_inv
    simp only [Machine.Takes, events, hi, ← hpre, hreset, Option.some.injEq,
      Prod.mk.injEq] at htake
    obtain ⟨hpost, hout⟩ := htake
    rcases List.mem_cons.1 he' with rfl | he'
    · rw [← hout] at hx
      rcases List.mem_append.1 hx with hx | hx
      · split_ifs at hx with hon
        · rw [List.mem_singleton.1 hx]
          exact fun _ => hcontactors hon
        · cases hx
      · exact (hinert x hx).permitted _ _
    · exact confined_run (hpost ▸ hrest) hconfined hroutine e' he' x hx

/-- A drive, an e-stop request and a reset while the last health byte is OK. -/
def operatorReset : List (SafetyEvent ℚ) :=
  [.configure 1 (3 / 10), .activate, .healthState FdirState.stateSoftwareOk, .estop]

theorem respectsFdir_operatorReset :
    RespectsFdir ((events ℚ).final construct operatorReset) :=
  (respectsFdir_iff (Machine.run_trace _ operatorReset (by decide +kernel))
    (by decide +kernel)).2.2 (by decide +kernel)

/-- An FDIR lockout: a health EMERGENCY. -/
def lockout : List (SafetyEvent ℚ) :=
  [.configure 1 (3 / 10), .activate, .healthState FdirState.stateEmergency]

/-- During the lockout a reset commands the contactors closed, and the next velocity is passed on at
the normal limit. -/
theorem lockout_reset_energizes :
    ∃ tr s, (events ℚ).Run construct tr s ∧ s.lifecycle = .active ∧
      s.lastFdirState = FdirState.stateEmergency ∧ ¬ RespectsFdir s ∧
      ∃ e₁ e₂ t, (events ℚ).Run s [e₁, e₂] t ∧ e₁.input = .estopReset ∧
        .contactors true ∈ e₁.output ∧ .motorCmd ⟨⟨1, 0, 0⟩, 0⟩ ∈ e₂.output := by
  refine ⟨_, _, Machine.run_trace _ lockout (by decide +kernel), by decide +kernel,
    by decide +kernel, fun h => ?_, _, _, _,
    .cons (takes_handle _ .estopReset) (.single (takes_handle _ (.smoothedVel ⟨⟨1, 0, 0⟩, 0⟩))),
    rfl, by decide +kernel, by decide +kernel⟩
  have hclosed := h _ [] _ (.single (takes_handle _ .estopReset)) rfl (by simp) _
    (List.mem_singleton_self _) (.contactors true) (by decide +kernel) rfl
  exact absurd hclosed (by decide +kernel)

end SafetyNode

end MonaRobot
