import MonaRobot.Safety.EstopRace

/-!
# Velocities under way

`smoothed_vel_callback` runs in the reentrant group as well. It tests the latch once, then the mode
twice, reads the limit, and only then publishes, so an e-stop between the test and the command does
not reach it: the stop that the e-stop publishes is followed by a command that moves
(`lateVelocity_moves`). `motionRace` is the machine of all callbacks of an active node, one access
at a time, with those of the e-stop as they are in `estopRace`.

How many such commands there are is bounded: after the latch is set, no more than there were
velocities under way past the test of the latch (`estop_bounds_motion`).
-/

namespace MonaRobot

open Reactive

/-- A message or a request; those that set the latch or test it are as before. -/
inductive MotionMessage (V : Type)
  | safety (i : SafetyMessage V)
  | smoothedVel (msg : Twist V)
  | muxState (currentState : UInt8)
  | estopReset
  deriving DecidableEq

/-- One step of a callback. The four tests and loads are those of the motion gate. -/
inductive MotionAccess (V : Type)
  | safety (x : SafetyAccess)
  | testEstop (msg : Twist V)
  | testProtectiveStop (msg : Twist V)
  | testEmergency (msg : Twist V)
  | loadLimit (msg : Twist V)
  | publish (msg : Twist V)
  | testLatch
  | clearEstop
  deriving DecidableEq

namespace SafetyNode

variable {V : Type}

/-- The steps that are left, if any are. -/
def unfinished : List (MotionAccess V) → Option (List (MotionAccess V))
  | [] => none
  | x :: rest => some (x :: rest)

/-- What an accepted reset does. -/
def resetAccesses : List (MotionAccess V) :=
  [.safety (.storeState .normal), .clearEstop, .safety (.setContactors true),
    .safety .publishGlobalState,
    .safety (.respond true "System recovered from EMERGENCY. Manual control enabled.")]

/-- The steps after a test of the gate: a stop if it is shut, or the next test. -/
def gate (shut : Bool) (next : MotionAccess V) : List (MotionAccess V) :=
  if shut then [.safety .publishStop] else [next]

variable [VelocityScalar V]

/-- One step: the state after it, the steps it puts in its place, and what is sent. -/
def execMotion (s : SafetyNode) :
    MotionAccess V → SafetyNode × List (MotionAccess V) × List (SafetyOutput V)
  | .safety x =>
    let r := s.exec x
    (r.1, r.2.1.map .safety, r.2.2)
  | .testEstop msg => (s, gate s.eStopActive (.testProtectiveStop msg), [])
  | .testProtectiveStop msg =>
    (s, gate (decide (s.currentState = .protectiveStop)) (.testEmergency msg), [])
  | .testEmergency msg => (s, gate (decide (s.currentState = .emergency)) (.loadLimit msg), [])
  | .loadLimit msg => (s, [.publish (clip s.currentLimit msg)], [])
  | .publish msg => (s, [], if s.motorPub.isActivated then [.motorCmd msg] else [])
  | .testLatch =>
    (s, if s.eStopActive then resetAccesses
      else [.safety (.respond false "Reset ignored: System is not in EMERGENCY state.")], [])
  | .clearEstop => ({ s with eStopActive := false }, [], [])

/-- All callbacks, step by step. Each begins with its test of `is_processing_allowed_`, and
`estop_reset_callback` with that of the mode. -/
def motionCallbacks :
    Handlers SafetyNode (MotionMessage V) (List (MotionAccess V)) Unit (SafetyOutput V) where
  begin s
    | .safety i =>
      let r := safetyCallbacks.begin s i
      (r.1, r.2.1.map (List.map .safety), r.2.2)
    | .smoothedVel msg =>
      if s.isProcessingAllowed = false ∨ s.motorPub.isActivated = false then (s, none, [])
      else (s, some [.testEstop msg], [])
    | .muxState msg =>
      if s.isProcessingAllowed = false then (s, none, [])
      else ({ s with lastMuxState := msg }, some [.safety .publishGlobalState], [])
    | .estopReset =>
      if s.currentState = .emergency then (s, some resetAccesses, [])
      else (s, some [.testLatch], [])
  resume s l _ :=
    match l with
    | [] => (s, none, [])
    | x :: rest =>
      let r := s.execMotion x
      (r.1, unfinished (r.2.1 ++ rest), r.2.2)

/-- Any number of the callbacks, in any interleaving. -/
def motionRace : Machine (Pool SafetyNode (List (MotionAccess V)))
    (PoolInput (MotionMessage V) Unit) (List (SafetyOutput V)) :=
  motionCallbacks.pool

/-- A step of the callbacks. -/
abbrev MotionStep (V : Type) :=
  PoolStep SafetyNode (MotionMessage V) (List (MotionAccess V)) Unit (SafetyOutput V)

/-! ## One callback at a time -/

/-- The callback of a message, in one step. -/
def motionCallback (s : SafetyNode) : MotionMessage V → SafetyNode × List (SafetyOutput V)
  | .safety i => s.callback i
  | .smoothedVel msg => s.smoothedVelCallback msg
  | .muxState msg => s.muxStateCallback msg
  | .estopReset => s.estopResetCallback

/-- The steps of a callback without interruption, from the state to the result. -/
def MotionAlone (s : SafetyNode) (l : List (MotionAccess V))
    (r : SafetyNode × List (SafetyOutput V)) : Prop :=
  motionCallbacks.Alone s (unfinished l) r.1 r.2

section Alone

variable {s : SafetyNode} {x : MotionAccess V} {rest : List (MotionAccess V)}
  {r : SafetyNode × List (SafetyOutput V)}

theorem motionAlone_cons
    (h : (s.execMotion x).1.MotionAlone ((s.execMotion x).2.1 ++ rest) r) :
    s.MotionAlone (x :: rest) (r.1, (s.execMotion x).2.2 ++ r.2) :=
  .resume () h

theorem motionAlone_end : s.MotionAlone (V := V) [] (s, []) := .ended s

/-- A test of the gate, at the end of which is a stop or the next test. -/
theorem motionAlone_gate {next : MotionAccess V} {shut : Bool}
    (hx : s.execMotion x = (s, gate shut next, []))
    (hshut : shut = true → r = (s, s.publishStop))
    (hopen : shut = false → s.MotionAlone [next] r) : s.MotionAlone [x] r := by
  have h : (s.execMotion x).1.MotionAlone ((s.execMotion x).2.1 ++ []) r := by
    rw [hx, List.append_nil]
    cases hs : shut with
    | true =>
      rw [hshut hs]
      have hstop := motionAlone_cons (V := V) (s := s) (x := .safety .publishStop)
        (r := (s, [])) motionAlone_end
      rwa [List.append_nil] at hstop
    | false => exact hopen hs
  have hall := motionAlone_cons h
  rwa [hx] at hall

end Alone

/-- `smoothed_vel_callback`, after the test of the publisher. -/
theorem motionAlone_velocity (s : SafetyNode) (msg : Twist V) (hp : s.motorPub.isActivated = true) :
    s.MotionAlone [.testEstop msg]
      (s, if s.MotionShut then s.publishStop else [.motorCmd (clip s.currentLimit msg)]) := by
  refine motionAlone_gate rfl (fun hs => ?_) fun hestop => ?_
  · have hshut : s.MotionShut := Or.inl hs
    rw [if_pos hshut]
  refine motionAlone_gate rfl (fun hs => ?_) fun hstop => ?_
  · have hshut : s.MotionShut := Or.inr (Or.inl (of_decide_eq_true hs))
    rw [if_pos hshut]
  refine motionAlone_gate rfl (fun hs => ?_) fun hemergency => ?_
  · have hshut : s.MotionShut := Or.inr (Or.inr (of_decide_eq_true hs))
    rw [if_pos hshut]
  have hopen : ¬ s.MotionShut := by
    rintro (hs | hs | hs)
    · exact absurd (hestop.symm.trans hs) Bool.false_ne_true
    · exact of_decide_eq_false hstop hs
    · exact of_decide_eq_false hemergency hs
  rw [if_neg hopen]
  have hsend := motionAlone_cons (s := s) (x := .loadLimit msg) <|
    motionAlone_cons (x := .publish (clip s.currentLimit msg)) motionAlone_end
  simpa [execMotion, hp] using hsend

/-- `estop_reset_callback`, once it is accepted. -/
theorem motionAlone_reset (s : SafetyNode) : s.MotionAlone resetAccesses (s.reset (V := V)) := by
  have halone := motionAlone_cons (V := V) (s := s) (x := .safety (.storeState .normal)) <|
    motionAlone_cons (x := .clearEstop) <|
    motionAlone_cons (x := .safety (.setContactors true)) <|
    motionAlone_cons (x := .safety .publishGlobalState) <|
    motionAlone_cons (x := .safety (.respond true
      "System recovered from EMERGENCY. Manual control enabled.")) motionAlone_end
  simpa [execMotion, exec, reset, resetAccesses] using halone

/-- `estop_reset_callback`, after the test of the mode. -/
theorem motionAlone_testLatch (s : SafetyNode) (hmode : s.currentState ≠ .emergency) :
    s.MotionAlone (V := V) [.testLatch] s.estopResetCallback := by
  have h : (s.execMotion (V := V) .testLatch).1.MotionAlone
      ((s.execMotion (V := V) .testLatch).2.1 ++ []) (s.estopResetCallback (V := V)) := by
    rw [List.append_nil, estopResetCallback]
    cases hs : s.eStopActive with
    | true => simpa [execMotion, hs] using motionAlone_reset (V := V) s
    | false =>
      have hrefuse := motionAlone_cons (V := V) (s := s) (x := .safety (.respond false
        "Reset ignored: System is not in EMERGENCY state.")) motionAlone_end
      simpa [execMotion, hs, hmode, exec] using hrefuse
  exact motionAlone_cons h

omit [VelocityScalar V] in
theorem unfinished_map (l : List SafetyAccess) :
    unfinished (l.map (MotionAccess.safety (V := V))) = (pending l).map (List.map .safety) := by
  cases l <;> rfl

/-- The callbacks of `estopRace` are the same here. -/
theorem motionAlone_safety {s t : SafetyNode} {p : Option (List SafetyAccess)}
    {o : List (SafetyOutput V)} (h : safetyCallbacks.Alone s p t o) :
    motionCallbacks.Alone s (p.map (List.map .safety)) t o := by
  refine h.embed fun a l r => ?_
  cases l with
  | nil => rfl
  | cons x rest =>
    rw [resume_cons, ← unfinished_map, List.map_append]
    rfl

/-- On its own, a callback is the one of the node. -/
theorem motionCallback_alone (s : SafetyNode) (i : MotionMessage V) :
    ∃ tr, motionRace.Run ⟨s, []⟩ tr ⟨(s.motionCallback i).1, []⟩ ∧
      tr.flatMap Step.output = (s.motionCallback i).2 := by
  have hbegin : ∃ o, motionCallbacks.Alone (motionCallbacks.begin s i).1
      (motionCallbacks.begin s i).2.1 (s.motionCallback i).1 o ∧
      (motionCallbacks.begin s i).2.2 ++ o = (s.motionCallback i).2 := by
    cases i with
    | safety i =>
      obtain ⟨o, halone, ho⟩ := begin_alone s i
      exact ⟨o, motionAlone_safety halone, ho⟩
    | smoothedVel msg =>
      simp only [motionCallbacks, motionCallback, smoothedVelCallback]
      split_ifs with hskip hshut
      · exact ⟨[], .ended s, rfl⟩
      · have halone := motionAlone_velocity s msg (by grind)
        rw [if_pos hshut] at halone
        exact ⟨_, halone, rfl⟩
      · have halone := motionAlone_velocity s msg (by grind)
        rw [if_neg hshut] at halone
        exact ⟨_, halone, rfl⟩
    | muxState msg =>
      simp only [motionCallbacks, motionCallback, muxStateCallback]
      split_ifs
      · exact ⟨[], .ended s, rfl⟩
      · have halone := motionAlone_cons (V := V) (s := { s with lastMuxState := msg })
          (x := .safety .publishGlobalState) motionAlone_end
        exact ⟨_, halone, by simp [execMotion, exec]⟩
    | estopReset =>
      simp only [motionCallbacks, motionCallback, estopResetCallback]
      by_cases hmode : s.currentState = .emergency
      · rw [if_pos hmode, if_pos (Or.inl hmode)]
        exact ⟨_, motionAlone_reset s, rfl⟩
      · rw [if_neg hmode]
        exact ⟨_, motionAlone_testLatch s hmode, rfl⟩
  obtain ⟨o, halone, ho⟩ := hbegin
  obtain ⟨tr, hrun, hout⟩ := halone.run
  exact ⟨tr, hrun, hout.trans ho⟩

/-! ## Commands after the latch is set -/

/-- The velocity of this step has passed the test of the latch. -/
def passed : MotionAccess V → Bool
  | .testProtectiveStop _ | .testEmergency _ | .loadLimit _ | .publish _ => true
  | _ => false

/-- The velocities under way that have passed the test of the latch. -/
def underWay (x : Pool SafetyNode (List (MotionAccess V))) : ℕ :=
  (x.live.map fun l => l.countP passed).sum

omit [VelocityScalar V] in
theorem countP_unfinished (l : List (MotionAccess V)) :
    ((unfinished l).toList.map fun l => l.countP passed).sum = l.countP passed := by
  cases l <;> simp [unfinished]

omit [VelocityScalar V] in
theorem countP_map_safety (l : List SafetyAccess) :
    (l.map (MotionAccess.safety (V := V))).countP passed = 0 := by
  rw [List.countP_eq_zero]
  intro y hy
  obtain ⟨x, -, rfl⟩ := List.mem_map.1 hy
  exact Bool.false_ne_true

section Moving

variable [DecidableEq V]

/-- A command that is not a stop. -/
def isMotion : SafetyOutput V → Bool
  | .motorCmd msg => !decide msg.IsStop
  | _ => false

/-- The callbacks of `estopRace` send no command but the stop. -/
theorem exec_stops (s : SafetyNode) (x : SafetyAccess) :
    (s.exec (V := V) x).2.2.countP isMotion = 0 := by
  rw [List.countP_eq_zero]
  intro o ho
  cases x with
  | publishStop =>
    rw [publishStop_mem ho]
    simp [isMotion]
  | setContactors enable =>
    simp only [exec, setHardwareContactors] at ho
    split_ifs at ho <;> simp_all [isMotion]
  | publishGlobalState =>
    simp only [exec, publishGlobalState] at ho
    split_ifs at ho <;> simp_all [isMotion]
  | respond success message =>
    simp only [exec, List.mem_singleton] at ho
    simp [ho, isMotion]
  | _ => cases ho

/-- A step under a set latch: a command that moves is paid for by the velocity that it is of. -/
theorem execMotion_spends {s : SafetyNode} (hset : s.eStopActive = true) (x : MotionAccess V) :
    (s.execMotion x).2.2.countP isMotion + (s.execMotion x).2.1.countP passed ≤
      [x].countP passed := by
  cases x with
  | safety x =>
    have hzero := countP_map_safety (V := V) (s.exec (V := V) x).2.1
    have hstops := exec_stops (V := V) s x
    simp only [execMotion]
    omega
  | testEstop msg => simp [execMotion, gate, hset, passed]
  | testProtectiveStop msg =>
    simp only [execMotion, gate]
    split_ifs <;> simp [passed]
  | testEmergency msg =>
    simp only [execMotion, gate]
    split_ifs <;> simp [passed]
  | loadLimit msg => simp [execMotion, passed]
  | publish msg =>
    simp only [execMotion]
    split_ifs
    · exact List.countP_le_length
    · exact Nat.zero_le _
  | testLatch => simp [execMotion, hset, resetAccesses, passed]
  | clearEstop => simp [execMotion]

theorem begin_spends (s : SafetyNode) (i : MotionMessage V) :
    (motionCallbacks.begin s i).2.2.countP isMotion +
      ((motionCallbacks.begin s i).2.1.toList.map fun l => l.countP passed).sum = 0 := by
  cases i with
  | safety i =>
    have hbegin : (safetyCallbacks.begin s i).2.2.countP isMotion = 0 := by
      cases i <;> simp only [safetyCallbacks] <;> split_ifs <;> rfl
    simp only [motionCallbacks, hbegin, Nat.zero_add]
    cases (safetyCallbacks.begin s i).2.1 with
    | none => rfl
    | some l => exact countP_map_safety l
  | smoothedVel msg =>
    simp only [motionCallbacks]
    split_ifs <;> simp [passed]
  | muxState msg =>
    simp only [motionCallbacks]
    split_ifs <;> simp [passed]
  | estopReset =>
    simp only [motionCallbacks]
    split_ifs <;> simp [passed, resetAccesses]

theorem resume_spends {s : SafetyNode} (hset : s.eStopActive = true) (l : List (MotionAccess V))
    (r : Unit) : (motionCallbacks.resume s l r).2.2.countP isMotion +
      ((motionCallbacks.resume s l r).2.1.toList.map fun l => l.countP passed).sum ≤
        l.countP passed := by
  cases l with
  | nil => exact Nat.zero_le _
  | cons x rest =>
    have hx := execMotion_spends hset x
    have hcons : (x :: rest).countP passed = [x].countP passed + rest.countP passed := by
      rw [← List.countP_append, List.singleton_append]
    simp only [motionCallbacks, countP_unfinished, List.countP_append]
    omega

/-- **A bounded overshoot.** From the moment the latch is set, for as long as it stays set, the
commands that move are at most as many as there were velocities past the test of the latch; each
such command uses one of these up. -/
theorem estop_bounds_motion {x y : Pool SafetyNode (List (MotionAccess V))}
    {tr : List (MotionStep V)} (hset : x.shared.eStopActive = true) (h : motionRace.Run x tr y)
    (hlatched : ∀ e ∈ tr, e.post.shared.eStopActive = true) :
    (tr.flatMap Step.output).countP isMotion + underWay y ≤ underWay x := by
  have hspends := Handlers.run_spends (H := motionCallbacks)
    (I := fun x => x.shared.eStopActive = true) (C := fun e => e.post.shared.eStopActive = true)
    (p := isMotion) (m := fun l => l.countP passed) (n := 0) (fun e _ hpost _ => hpost)
    (fun a _ i _ => (begin_spends a i).le) (fun a _ l r ha _ => resume_spends ha l r) h hset hlatched
  rwa [Nat.zero_mul, Nat.add_zero] at hspends

end Moving

/-- A velocity has passed the three tests when an e-stop is requested and sets the latch. -/
def lateVelocity : Pool SafetyNode (List (MotionAccess ℚ)) :=
  motionRace.final ⟨(activeNode.callback (V := ℚ) (.healthState FdirState.stateSoftwareOk)).1, []⟩
    [.start (.smoothedVel ⟨⟨1, 0, 0⟩, 0⟩), .resume 0 (), .resume 0 (), .resume 0 (),
      .start (.safety .estop), .resume 1 ()]

/-- The e-stop is handled, with its stop and its answer; then the velocity is published. -/
def overshoot : List (PoolInput (MotionMessage ℚ) Unit) :=
  [.resume 1 (), .resume 1 (), .resume 1 (), .resume 1 (), .resume 1 (), .resume 0 (), .resume 0 ()]

theorem estop_bounds_motion_lateVelocity :
    ((motionRace.trace lateVelocity overshoot).flatMap Step.output).getLast? =
        some (.motorCmd ⟨⟨1, 0, 0⟩, 0⟩) ∧
      ((motionRace.trace lateVelocity overshoot).flatMap Step.output).countP isMotion = 1 := by
  have hrun := (motionRace (V := ℚ)).run_trace lateVelocity overshoot (by decide +kernel)
  have hlast : ((motionRace.trace lateVelocity overshoot).flatMap Step.output).getLast? =
      some (.motorCmd ⟨⟨1, 0, 0⟩, 0⟩) := by decide +kernel
  have hle := estop_bounds_motion (by decide +kernel) hrun (by decide +kernel)
  have hunderWay : underWay lateVelocity = 1 := by decide +kernel
  have hpos : 0 < ((motionRace.trace lateVelocity overshoot).flatMap Step.output).countP isMotion :=
    List.countP_pos_iff.2 ⟨_, List.mem_of_getLast? hlast, by decide⟩
  exact ⟨hlast, by omega⟩

end SafetyNode

end MonaRobot
