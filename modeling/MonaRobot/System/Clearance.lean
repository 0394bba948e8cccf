import MonaRobot.System.ContactorBus

/-!
# Who clears the contactors

The contactors close for a health message that energizes, and for an operator's reset, which does
not look at the health. So in any state closed contactors are cleared by the last health message, or
by an operator whose reset no health message has followed (`cleared_run`). As long as no operator
clears them, a node whose last health message was an EMERGENCY is latched (`grounded_run`).

`clearance` says once what a step does to the health byte, the mode and the contactors.
-/

namespace MonaRobot.SafetyNode

open Reactive

variable {V : Type} [VelocityScalar V] {e : SafetyStep V} {tr : List (SafetyStep V)}
  {s : SafetyNode}

/-- The health byte that a step processes. -/
def processed (e : SafetyStep V) : List UInt8 :=
  match e.input with
  | .healthState msg => if e.pre.Handled e.input then [msg] else []
  | _ => []

/-- The step processes a health message. -/
def Processes (e : SafetyStep V) : Prop := processed e ≠ []

/-- The step accepts a reset. -/
def Resets (e : SafetyStep V) : Prop := e.input = .estopReset ∧ e.pre.Handled e.input

instance (e : SafetyStep V) : Decidable (Processes e) := inferInstanceAs (Decidable (_ ≠ _))

instance [DecidableEq V] (e : SafetyStep V) : Decidable (Resets e) :=
  inferInstanceAs (Decidable (_ ∧ _))

/-- A reset was accepted, and no health message has been processed since. -/
def OperatorCleared (tr : List (SafetyStep V)) : Prop := ¬ Answered Processes Resets tr

instance [DecidableEq V] (tr : List (SafetyStep V)) : Decidable (OperatorCleared tr) :=
  inferInstanceAs (Decidable (¬ _))

/-! ## One step -/

/-- What a step is to the health byte, the mode and the contactors: it processes a byte, it accepts
a reset, or it does neither. Then it opens the contactors, or leaves them as they are. -/
inductive Clearance (e : SafetyStep V) : Prop
  | processes (msg : UInt8) (_ : processed e = [msg]) (_ : ¬ Resets e)
      (_ : e.post = e.pre.afterFdirState msg)
  | resets (_ : processed e = []) (_ : Resets e) (_ : e.post.currentState = .normal)
      (_ : e.post.lastFdirState = e.pre.lastFdirState)
  | neither (_ : processed e = []) (_ : ¬ Resets e)
      (_ : e.post.lastFdirState = e.pre.lastFdirState)
      (_ : e.post.currentState = e.pre.currentState ∨ e.post.currentState = .emergency)
      (_ : e.post.hardwareContactorsClosed = false ∨
        e.post.hardwareContactorsClosed = e.pre.hardwareContactorsClosed)
      (_ : ∀ data ∈ contactorCommands e.output, data = false)

omit [VelocityScalar V] in
theorem opens_of_eq {o : List (SafetyOutput V)} {p : LifecyclePublisher} {b : Bool}
    (h : contactorCommands o = announced p b false) :
    ∀ data ∈ contactorCommands o, data = false := by
  intro data hdata
  rw [h, announced] at hdata
  split_ifs at hdata
  · exact List.mem_singleton.1 hdata
  · cases hdata

omit [VelocityScalar V] in
theorem opens_of_nil {o : List (SafetyOutput V)} (h : contactorCommands o = []) :
    ∀ data ∈ contactorCommands o, data = false := by
  intro data hdata
  rw [h] at hdata
  cases hdata

theorem clearance (he : (events V).Takes e) : Clearance e := by
  have hno : ∀ {s t : SafetyNode} {i : SafetyEvent V} {o : List (SafetyOutput V)},
      i ≠ .estopReset → ¬ Resets ⟨s, i, o, t⟩ := fun hi h => hi h.1
  induction e, he using takes_rec with
  | skipped s i hi =>
    refine .neither ?_ (fun h => hi h.2) rfl (Or.inl rfl) (Or.inr rfl)
      (opens_of_nil (contactorCommands_reply s i))
    cases i <;> simp [processed, hi]
  | healthState s msg hi => exact .processes msg (if_pos hi) (hno (by simp)) rfl
  | estopReset s hi => exact .resets rfl ⟨rfl, hi⟩ (by rw [reset_fst]) (by rw [reset_fst])
  | configure s n d hl =>
    exact .neither rfl (hno (by simp)) rfl (Or.inl rfl) (Or.inr rfl) (opens_of_nil rfl)
  | activate s hl =>
    refine .neither rfl (hno (by simp)) ?_ ?_ ?_
      (opens_of_eq (contactorCommands_setHardwareContactors _ _)) <;> simp [onActivate]
  | deactivate s hl =>
    refine .neither rfl (hno (by simp)) ?_ ?_ ?_
      (opens_of_eq (contactorCommands_setHardwareContactors _ _)) <;> simp [onDeactivate, halt]
  | cleanup s hl =>
    refine .neither rfl (hno (by simp)) ?_ ?_ ?_
      (opens_of_eq (contactorCommands_setHardwareContactors _ _)) <;> simp [onCleanup, halt]
  | shutdown s hl =>
    refine .neither rfl (hno (by simp)) ?_ ?_ ?_
      (opens_of_eq (contactorCommands_setHardwareContactors _ _)) <;> simp [onShutdown, halt]
  | error s hl =>
    refine .neither rfl (hno (by simp)) ?_ ?_ ?_
      (opens_of_eq (contactorCommands_setHardwareContactors _ _)) <;> simp [onError, halt]
  | smoothedVel s msg hi =>
    refine .neither rfl (hno (by simp)) rfl (Or.inl rfl) (Or.inr rfl) (opens_of_nil ?_)
    by_cases hshut : s.MotionShut
    · simp [hshut]
    · simp [hshut]
  | muxState s msg hi =>
    exact .neither rfl (hno (by simp)) rfl (Or.inl rfl) (Or.inr rfl) (opens_of_nil (by simp))
  | odom s twist hi =>
    refine .neither rfl (hno (by simp)) ?_ ?_ ?_ (opens_of_eq (contactorCommands_latch s)) <;>
      simp [latch_fst]
  | estop s hi =>
    refine .neither rfl (hno (by simp)) ?_ ?_ ?_
      (opens_of_eq (p := s.contactorPub) (b := s.hardwareContactorsClosed) ?_)
    · simp [latch_fst]
    · simp [latch_fst]
    · simp [latch_fst]
    · simp [contactorCommands_latch]

/-- Whether an operator clears the contactors after a step. -/
theorem operatorCleared_concat : OperatorCleared (tr ++ [e]) ↔
    Resets e ∨ processed e = [] ∧ OperatorCleared tr := by
  unfold OperatorCleared
  rw [answered_concat, Processes]
  tauto

theorem energizes_afterFdirState {msg : UInt8}
    (h : (s.afterFdirState msg).hardwareContactorsClosed = true) : energizes msg = true :=
  (Bool.and_eq_true_iff.1 h).1

/-- The three verdicts of the manager do not lead to the degraded mode. -/
theorem fdirMode_ne_degraded {msg : UInt8} (hs : s.currentState ≠ .degraded)
    (hmsg : msg = FdirState.stateEmergency ∨ msg = FdirState.stateSoftwareOk ∨
      msg = FdirState.stateSystemStartup) : s.fdirMode msg ≠ .degraded := by
  rcases hmsg with rfl | rfl | rfl
  · simp +decide [fdirMode]
  · unfold fdirMode
    split_ifs with h₀ h₅ h₂ h₁
    · simp
    · simp
    · exact absurd h₂ (by decide)
    · simp
    · exact hs
  · simp +decide [fdirMode]

/-! ## Whole runs -/

/-- The health byte in the state is the last one processed. -/
theorem lastProcessed_run (h : (events V).Run construct tr s) :
    s.lastFdirState = (lastOut processed tr).getD 255 := by
  refine h.history (H := fun tr s => s.lastFdirState = (lastOut processed tr).getD 255) rfl ?_
  intro past e _ he hpre
  rw [lastOut_concat]
  cases clearance he with
  | processes msg hp _ hpost =>
    rw [hp, hpost]
    rfl
  | resets hp _ _ hlast | neither hp _ hlast =>
    rw [hp, hlast, hpre]
    rfl

/-- **What closes the contactors.** They are open unless the last health message energizes, or a
reset was accepted after it. -/
theorem cleared_run (h : (events V).Run construct tr s) (hc : s.hardwareContactorsClosed = true) :
    OperatorCleared tr ∨ energizes s.lastFdirState = true := by
  revert hc
  refine h.history (H := fun tr s => s.hardwareContactorsClosed = true →
    OperatorCleared tr ∨ energizes s.lastFdirState = true) (by simp [construct]) ?_
  intro past e _ he hpre hclosed
  rw [operatorCleared_concat]
  cases clearance he with
  | processes msg hp _ hpost =>
    rw [hpost] at hclosed ⊢
    exact Or.inr (energizes_afterFdirState hclosed)
  | resets _ hr => exact Or.inl (Or.inl hr)
  | neither hp _ hlast _ hflag =>
    rw [hlast]
    rcases hflag with hopen | hsame
    · exact absurd (hopen.symm.trans hclosed) Bool.false_ne_true
    · exact (hpre (hsame ▸ hclosed)).imp_left fun hcleared => Or.inr ⟨hp, hcleared⟩

/-- **Grounded.** When the last health message is an EMERGENCY and no reset was accepted after it,
the e-stop is latched. -/
theorem grounded_run (h : (events V).Run construct tr s)
    (hlast : s.lastFdirState = FdirState.stateEmergency) (hno : ¬ OperatorCleared tr) :
    s.eStopActive = true := by
  revert hlast hno
  refine h.history (H := fun tr s => s.lastFdirState = FdirState.stateEmergency →
    ¬ OperatorCleared tr → s.eStopActive = true) (fun hlast => absurd hlast (by decide)) ?_
  intro past e _ he hpre hlast hno
  rw [operatorCleared_concat] at hno
  cases clearance he with
  | processes msg hp _ hpost =>
    rw [hpost] at hlast ⊢
    have hmsg : msg = FdirState.stateEmergency := hlast
    simp [afterFdirState, hmsg]
  | resets _ hr => exact absurd (Or.inl hr) hno
  | neither hp hr hsame =>
    have hestop : e.pre.eStopActive = true :=
      hpre (hsame ▸ hlast) fun hcleared => hno (Or.inr ⟨hp, hcleared⟩)
    refine eStopActive_step he (fun hreset => hr ⟨hreset.2, ?_⟩) hestop
    rw [hreset.2]
    exact ⟨hreset.1, Or.inr hestop⟩

theorem notDegraded_run (h : (events V).Run construct tr s)
    (hall : ∀ b ∈ tr.flatMap processed, b = FdirState.stateEmergency ∨
      b = FdirState.stateSoftwareOk ∨ b = FdirState.stateSystemStartup) :
    s.currentState ≠ .degraded := by
  revert hall
  refine h.history (H := fun tr s => (∀ b ∈ tr.flatMap processed, b = FdirState.stateEmergency ∨
    b = FdirState.stateSoftwareOk ∨ b = FdirState.stateSystemStartup) →
      s.currentState ≠ .degraded) (fun _ => by simp [construct]) fun past e _ he hpre hall => ?_
  rw [List.flatMap_append, List.flatMap_singleton, List.forall_mem_append] at hall
  have hmode := hpre hall.1
  cases clearance he with
  | processes msg hp _ hpost =>
    rw [hpost]
    exact fdirMode_ne_degraded hmode (hall.2 msg (by simp [hp]))
  | resets _ _ hnormal => simp [hnormal]
  | neither _ _ _ hsame =>
    rcases hsame with hsame | hemergency
    · rwa [hsame]
    · simp [hemergency]

end MonaRobot.SafetyNode
