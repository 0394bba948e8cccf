import MonaRobot.Safety.SafetyNode

/-!
# The e-stop latch

Health messages rewrite the mode while the latch is set, and every FDIR case, every source of the
latch and every lifecycle callback touches the contactors. What ties them together is the pair of
facts `LatchSound`: a latched node has its contactors open, and only a latched node is in the mode
`EMERGENCY`.

* `latchSound_run`: these hold in every state the node can reach.
* `estop_latch`: over any run, from the step that latches until a reset request is handled, the
  latch stays set, the contactors stay open, and nothing the node sends moves or powers the robot
  or reports another state than `EMERGENCY`.
-/

namespace MonaRobot

open Reactive

namespace SafetyNode

variable {V : Type}

/-- A latched node has its contactors open, and only a latched node is in the mode `EMERGENCY`. -/
structure LatchSound (s : SafetyNode) : Prop where
  opened : s.eStopActive = true → s.hardwareContactorsClosed = false
  latched : s.currentState = .emergency → s.eStopActive = true

/-- What a latched node may send: a stop, an open command, the state `EMERGENCY`, a response. -/
def SafeOutput [Zero V] : SafetyOutput V → Prop
  | .motorCmd msg => msg.IsStop
  | .contactors data => data = false
  | .safetyState currentState _ => currentState = SafetyStateMsg.emergency
  | .response _ _ => True

/-- A reset request that reaches its callback. -/
def ResetHandled (e : SafetyStep V) : Prop :=
  e.pre.srvEstopReset = true ∧ e.input = .estopReset

instance [DecidableEq V] (e : SafetyStep V) : Decidable (ResetHandled e) :=
  inferInstanceAs (Decidable (_ ∧ _))

variable [VelocityScalar V]

/-! ## One step -/

theorem latchSound_construct : LatchSound construct := ⟨by decide, by decide⟩

theorem latchSound_step {e : SafetyStep V} (he : (events V).Takes e) (h : LatchSound e.pre) :
    LatchSound e.post := by
  obtain ⟨hopen, hlatched⟩ := h
  induction e, he using takes_rec with
  | skipped s i hi => exact ⟨hopen, hlatched⟩
  | configure s n d hl => exact ⟨hopen, hlatched⟩
  | activate s hl => exact ⟨by simp [onActivate], by simpa [onActivate] using hlatched⟩
  | deactivate s hl => exact ⟨by simp [onDeactivate, halt], by simpa [onDeactivate, halt] using hlatched⟩
  | cleanup s hl => exact ⟨by simp [onCleanup, halt], by simpa [onCleanup, halt] using hlatched⟩
  | shutdown s hl => exact ⟨by simp [onShutdown, halt], by simpa [onShutdown, halt] using hlatched⟩
  | error s hl => exact ⟨by simp [onError, halt], by simpa [onError, halt] using hlatched⟩
  | smoothedVel s msg hi => exact ⟨hopen, hlatched⟩
  | healthState s msg hi =>
    constructor
    · intro hs
      simp only [afterFdirState, Bool.or_eq_true, decide_eq_true_eq] at hs ⊢
      rcases hs with hs | rfl
      · have hopened : s.hardwareContactorsClosed = false := hopen hs
        simp [hs, hopened]
      · rw [energizes_emergency, Bool.false_and]
    · intro hm
      rcases fdirMode_emergency hm with rfl | hs
      · simp [afterFdirState]
      · have hestop : s.eStopActive = true := hlatched hs
        simp [afterFdirState, hestop]
  | muxState s msg hi => exact ⟨hopen, hlatched⟩
  | odom s twist hi =>
    rw [latch_fst]
    exact ⟨fun _ => rfl, fun _ => rfl⟩
  | estop s hi =>
    rw [latch_fst]
    exact ⟨fun _ => rfl, fun _ => rfl⟩
  | estopReset s hi =>
    rw [reset_fst]
    constructor
    · intro h
      cases h
    · intro h
      cases h

/-- Only a handled reset request releases the latch. -/
theorem eStopActive_step {e : SafetyStep V} (he : (events V).Takes e) (hno : ¬ ResetHandled e)
    (h : e.pre.eStopActive = true) : e.post.eStopActive = true := by
  induction e, he using takes_rec with
  | healthState s msg hi => simp [afterFdirState, show s.eStopActive = true from h]
  | odom s twist hi => rw [latch_fst]
  | estop s hi => rw [latch_fst]
  | estopReset s hi => exact absurd ⟨hi.1, rfl⟩ hno
  | _ => simpa [onConfigure, onActivate, onDeactivate, onCleanup, onShutdown, onError, halt] using h

/-- A step that ends latched sends nothing unsafe, whether it latched or found the latch set. -/
theorem safeOutput_step {e : SafetyStep V} (he : (events V).Takes e) (hs : LatchSound e.post)
    (h : e.post.eStopActive = true) : ∀ o ∈ e.output, SafeOutput o := by
  intro o ho
  cases sends he o ho with
  | response success message => trivial
  | contactors => exact hs.opened h
  | stop => exact Twist.isStop_zero
  | safetyState =>
    -- the latch has priority in the broadcast state, whatever the mode
    have hglobal : e.post.globalState = .emergency := by rw [globalState, if_pos h]
    exact congrArg stateByte hglobal
  | velocity msg hi hpost hopen =>
    rw [hpost] at h
    exact absurd (Or.inl h) hopen

/-! ## Whole runs -/

/-- In every state the node can reach, the contactors of a latched node are open and only a latched
node is in the mode `EMERGENCY`. -/
theorem latchSound_run {tr : List (SafetyStep V)} {s : SafetyNode}
    (h : (events V).Run construct tr s) : LatchSound s :=
  h.invariant latchSound_construct fun _ he hpre => latchSound_step he hpre

/-- **The latch holds.** In every state of a run from construction the mode `EMERGENCY` means that
the e-stop is latched. From a step `e` that ends latched until a reset request is handled, the latch
stays set, the contactors are open after every step, and everything sent is safe. -/
theorem estop_latch {tr : List (SafetyStep V)} {s : SafetyNode}
    (h : (events V).Run construct tr s) :
    (∀ x, Machine.Visited construct tr x → x.currentState = .emergency → x.eStopActive = true) ∧
    ∀ tr₁ e tr₂ tr₃, tr = tr₁ ++ e :: (tr₂ ++ tr₃) → e.post.eStopActive = true →
      (∀ e' ∈ tr₂, ¬ ResetHandled e') → ∀ e' ∈ e :: tr₂,
        e'.post.eStopActive = true ∧ e'.post.hardwareContactorsClosed = false ∧
          ∀ o ∈ e'.output, SafeOutput o := by
  have hsound := h.invariant_mem latchSound_construct fun _ he hpre => latchSound_step he hpre
  constructor
  · rintro x (rfl | ⟨e, he, rfl⟩)
    · exact latchSound_construct.latched
    · exact (hsound e he).2.latched
  · rintro tr₁ e tr₂ tr₃ rfl hlatch hno e' he'
    have hmem : e' ∈ tr₁ ++ e :: (tr₂ ++ tr₃) := by
      simp only [List.mem_cons, List.mem_append] at he' ⊢
      tauto
    have hkept : e'.post.eStopActive = true := by
      obtain ⟨-, -, hrest⟩ := h.around
      obtain ⟨y, hrun, -⟩ := hrest.split
      rcases List.mem_cons.1 he' with rfl | he'
      · exact hlatch
      · exact (hrun.latched (L := fun x => x.eStopActive = true) hlatch
          (fun _ ht hr => eStopActive_step ht hr) hno e' he').2
    have hpost := (hsound e' hmem).2
    exact ⟨hkept, hpost.opened hkept, safeOutput_step (h.takes e' hmem) hpost hkept⟩

/-- A request in the middle of a drive, and the health message and the command that follow it. -/
def estopDrive : List (SafetyEvent ℚ) :=
  [.configure 1 (3 / 10), .activate, .healthState FdirState.stateSoftwareOk, .estop,
    .healthState FdirState.stateDegraded, .smoothedVel ⟨⟨1, 0, 0⟩, 0⟩, .muxState 1]

theorem estop_latch_estopDrive :
    ((events ℚ).trace construct estopDrive).length = 7 ∧
    ∀ e ∈ ((events ℚ).trace construct estopDrive).drop 3, e.post.eStopActive = true ∧
      e.post.hardwareContactorsClosed = false ∧ ∀ o ∈ e.output, SafeOutput o := by
  refine ⟨by decide +kernel, ?_⟩
  have hlen : 3 < ((events ℚ).trace construct estopDrive).length := by decide +kernel
  rw [List.drop_eq_getElem_cons hlen]
  refine (estop_latch (Machine.run_trace _ estopDrive (by decide +kernel))).2
    (((events ℚ).trace construct estopDrive).take 3) _ _ [] ?_
    (by decide +kernel +revert) (by decide +kernel)
  rw [List.append_nil, ← List.drop_eq_getElem_cons hlen, List.take_append_drop]

end SafetyNode

end MonaRobot
