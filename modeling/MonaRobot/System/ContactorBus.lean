import MonaRobot.Core.RelayTopics
import MonaRobot.Safety.EstopLatch

/-!
# The contactor topic and its two writers

`hardware/contactors` is written by the safety node, which keeps a flag and publishes its changes,
and by the FDIR manager, which publishes an open command at every EMERGENCY without telling the
safety node. The manager also publishes on the topic that the configuration names for the relay of a
component, and nothing keeps that from being this one. `ContactorBus.events` is the machine of both,
one callback or tick at a time, and `busValue` the last message on the topic.

The safety node publishes exactly the changes of its flag, as long as its publisher is active
(`announces`), and the manager only ever opens when its relays have other topics (`RelaysApart`). So
while the bus is closed the flag says so and the publisher is active (`Announced`); the lifecycle
keeps this because every way out of the active state opens the contactors before it takes the
publisher away, and none leads back with an active one (`Dormant`).

A relay on the topic closes it when its component is powered up again, whatever the safety node does
(`closes_run`), so the bus is sound exactly without one (`contactorBus_sound_iff`).
-/

namespace MonaRobot

open Reactive

namespace SafetyNode

variable {V : Type}

/-! ## What the safety node publishes on the topic -/

/-- The messages on `hardware/contactors`. -/
def contactorCommands (o : List (SafetyOutput V)) : List Bool :=
  o.filterMap fun
    | .contactors data => some data
    | _ => none

/-- What an active publisher sends when the flag goes from `before` to `after`. -/
def announced (p : LifecyclePublisher) (before after : Bool) : List Bool :=
  if p.isActivated = true ∧ before ≠ after then [after] else []

@[simp] theorem announced_self (p : LifecyclePublisher) (flag : Bool) :
    announced p flag flag = [] := by
  simp [announced]

@[simp] theorem contactorCommands_nil : contactorCommands ([] : List (SafetyOutput V)) = [] := rfl

@[simp] theorem contactorCommands_response (success : Bool) (message : String) :
    contactorCommands [SafetyOutput.response (V := V) success message] = [] := rfl

@[simp] theorem contactorCommands_motorCmd (msg : Twist V) :
    contactorCommands [SafetyOutput.motorCmd msg] = [] := rfl

@[simp] theorem contactorCommands_append (o o' : List (SafetyOutput V)) :
    contactorCommands (o ++ o') = contactorCommands o ++ contactorCommands o' :=
  List.filterMap_append ..

@[simp] theorem contactorCommands_publishGlobalState (s : SafetyNode) :
    contactorCommands (s.publishGlobalState (V := V)) = [] := by
  unfold publishGlobalState
  split_ifs <;> rfl

theorem contactorCommands_setHardwareContactors (s : SafetyNode) (enable : Bool) :
    contactorCommands (s.setHardwareContactors (V := V) enable).2 =
      announced s.contactorPub s.hardwareContactorsClosed enable := by
  unfold setHardwareContactors announced
  split_ifs with hflag hp hboth <;> simp_all [contactorCommands]

theorem contactorCommands_latch (s : SafetyNode) : contactorCommands (s.latch (V := V)).2 =
    announced s.contactorPub s.hardwareContactorsClosed false := by
  simp [latch, contactorCommands_setHardwareContactors]

theorem contactorCommands_reset (s : SafetyNode) : contactorCommands (s.reset (V := V)).2 =
    announced s.contactorPub s.hardwareContactorsClosed true := by
  simp [reset, contactorCommands_setHardwareContactors]

/-- A node that is not active, and was never in error, has no active publisher. -/
def Dormant (s : SafetyNode) : Prop :=
  s.lifecycle = .unconfigured ∨ s.lifecycle = .inactive → s.contactorPub.isActivated = false

section

variable [VelocityScalar V]

@[simp] theorem contactorCommands_publishStop (s : SafetyNode) :
    contactorCommands (s.publishStop (V := V)) = [] := by
  unfold publishStop
  split_ifs <;> rfl

omit [VelocityScalar V] in
@[simp] theorem contactorCommands_reply (s : SafetyNode) (i : SafetyEvent V) :
    contactorCommands (s.reply i) = [] := by
  refine List.filterMap_eq_nil_iff.2 fun o ho => ?_
  obtain ⟨message, rfl⟩ := reply_mem ho
  rfl

theorem contactorCommands_applyFdirState (s : SafetyNode) (fdirState : UInt8) :
    contactorCommands (s.applyFdirState (V := V) fdirState).2 =
      announced s.contactorPub s.hardwareContactorsClosed
        (s.applyFdirState (V := V) fdirState).1.hardwareContactorsClosed := by
  unfold applyFdirState closeUnlessEstop
  split_ifs <;> simp [contactorCommands_setHardwareContactors]

/-- The safety node publishes the changes of its flag, through a publisher that is active if it was
so before; and if it is not active any more afterwards, the contactors are open. -/
theorem announces {e : SafetyStep V} (he : (events V).Takes e) (hd : Dormant e.pre) :
    ∃ p : LifecyclePublisher, contactorCommands e.output =
        announced p e.pre.hardwareContactorsClosed e.post.hardwareContactorsClosed ∧
      (e.pre.contactorPub.isActivated = true → p.isActivated = true) ∧
      (p.isActivated = true → e.post.hardwareContactorsClosed = true →
        e.post.contactorPub.isActivated = true) := by
  induction e, he using takes_rec with
  | skipped s i hi => exact ⟨s.contactorPub, by simp, id, fun hp _ => hp⟩
  | configure s n d hl =>
    have hoff : s.contactorPub.isActivated = false := hd (Or.inl hl)
    exact ⟨s.contactorPub, by simp [onConfigure], id, fun hp => by simp [hoff] at hp⟩
  | activate s hl =>
    have hoff : s.contactorPub.isActivated = false := hd (Or.inr hl)
    refine ⟨s.contactorPub.onActivate, ?_, fun hp => by simp [hoff] at hp, fun _ h => ?_⟩
    · simp [onActivate, contactorCommands_setHardwareContactors]
    · simp [onActivate] at h
  | deactivate s hl =>
    exact ⟨s.contactorPub, by simp [onDeactivate, contactorCommands_setHardwareContactors, halt], id,
      fun _ h => by simp [onDeactivate, halt] at h⟩
  | cleanup s hl =>
    exact ⟨s.contactorPub, by simp [onCleanup, contactorCommands_setHardwareContactors, halt], id,
      fun _ h => by simp [onCleanup, halt] at h⟩
  | shutdown s hl =>
    exact ⟨s.contactorPub, by simp [onShutdown, contactorCommands_setHardwareContactors, halt], id,
      fun _ h => by simp [onShutdown, halt] at h⟩
  | error s hl =>
    exact ⟨s.contactorPub, by simp [onError, contactorCommands_setHardwareContactors, halt], id,
      fun _ h => by simp [onError, halt] at h⟩
  | smoothedVel s msg hi =>
    refine ⟨s.contactorPub, ?_, id, fun hp _ => hp⟩
    by_cases hshut : s.MotionShut
    · simp [hshut]
    · simp [hshut]
  | healthState s msg hi =>
    refine ⟨s.contactorPub, ?_, id, fun hp _ => hp⟩
    rw [contactorCommands_applyFdirState, applyFdirState_fst]
  | muxState s msg hi => exact ⟨s.contactorPub, by simp, id, fun hp _ => hp⟩
  | odom s twist hi =>
    exact ⟨s.contactorPub, by simp [contactorCommands_latch, latch_fst], id,
      fun hp _ => by simpa [latch_fst] using hp⟩
  | estop s hi =>
    exact ⟨s.contactorPub, by simp [contactorCommands_latch, latch_fst], id,
      fun hp _ => by simpa [latch_fst] using hp⟩
  | estopReset s hi =>
    exact ⟨s.contactorPub, by simp [contactorCommands_reset, reset_fst], id,
      fun hp _ => by simpa [reset_fst] using hp⟩

theorem dormant_step {e : SafetyStep V} (he : (events V).Takes e) (herror : e.input ≠ .error)
    (h : Dormant e.pre) : Dormant e.post := by
  induction e, he using takes_rec with
  | skipped s i hi => exact h
  | configure s n d hl => exact fun _ => rfl
  | activate s hl => simp [Dormant]
  | deactivate s hl => exact fun _ => LifecyclePublisher.isActivated_onDeactivate _
  | cleanup s hl => exact fun _ => rfl
  | shutdown s hl => simp [Dormant]
  | error s hl => exact absurd rfl herror
  | smoothedVel s msg hi => exact h
  | healthState s msg hi => exact h
  | muxState s msg hi => exact h
  | odom s twist hi =>
    rw [latch_fst]
    exact h
  | estop s hi =>
    rw [latch_fst]
    exact h
  | estopReset s hi =>
    rw [reset_fst]
    exact h

end

end SafetyNode

/-- The two writers of the topic. -/
structure ContactorBus where
  safety : SafetyNode
  manager : FdirManagerNode

/-- An event at the safety node, or a tick of the manager. -/
inductive BusEvent (V : Type)
  | safety (i : SafetyEvent V)
  | tick (i : MonitorTick)

/-- An error transition of the safety node. -/
def BusEvent.isError {V : Type} : BusEvent V → Bool
  | .safety .error => true
  | _ => false

namespace ContactorBus

variable {V : Type} [VelocityScalar V] {fullName : String → String}

/-! ## The machine -/

/-- Both writers in any order; the output is what is published on the topic. -/
def events (V : Type) [VelocityScalar V] (fullName : String → String) :
    Machine ContactorBus (BusEvent V) (List Bool) where
  step x
    | .safety i =>
      let r := x.safety.handle i
      some ({ x with safety := r.1 }, SafetyNode.contactorCommands r.2)
    | .tick i =>
      (FdirManagerNode.ticks.step x.manager i).map fun r =>
        ({ x with manager := r.1 }, FdirManagerNode.actuations fullName r.2)

/-- A step of the two writers. -/
abbrev BusStep (V : Type) := Step ContactorBus (BusEvent V) (List Bool)

/-- The last message on the topic, `false` before the first. -/
def busValue (tr : List (BusStep V)) : Bool := (lastOut Step.output tr).getD false

/-- A step is one of the safety node or one of the manager. -/
theorem takes_cases {e : BusStep V} (he : (events V fullName).Takes e) :
    (∃ i o, e.input = .safety i ∧ e.post.manager = e.pre.manager ∧
      (SafetyNode.events V).Takes ⟨e.pre.safety, i, o, e.post.safety⟩ ∧
      e.output = SafetyNode.contactorCommands o) ∨
    (∃ i o, e.input = .tick i ∧ e.post.safety = e.pre.safety ∧
      FdirManagerNode.ticks.Takes ⟨e.pre.manager, i, o, e.post.manager⟩ ∧
      e.output = FdirManagerNode.actuations fullName o) := by
  obtain ⟨x, i, o, y⟩ := e
  simp only [Machine.Takes, events] at he
  cases i with
  | safety i =>
    obtain ⟨rfl, rfl⟩ := Prod.mk.inj (Option.some.inj he)
    exact Or.inl ⟨i, _, rfl, rfl, SafetyNode.takes_handle _ _, rfl⟩
  | tick i =>
    obtain ⟨r, hr, hx⟩ := Option.map_eq_some_iff.1 he
    obtain ⟨rfl, rfl⟩ := Prod.mk.inj hx
    exact Or.inr ⟨i, r.2, rfl, rfl, hr, rfl⟩

/-! ## The flag and the bus -/

/-- While the bus is closed, the flag of the safety node says so and its publisher can open it. -/
structure Announced (bus : Bool) (s : SafetyNode) : Prop extends SafetyNode.LatchSound s where
  dormant : s.Dormant
  closed : bus = true → s.hardwareContactorsClosed = true ∧ s.contactorPub.isActivated = true

theorem announced_construct : Announced false SafetyNode.construct :=
  ⟨SafetyNode.latchSound_construct, fun _ => rfl, by simp⟩

/-- The last message after a step of the safety node. -/
theorem announced_step {bus : Bool} {e : SafetyNode.SafetyStep V}
    (he : (SafetyNode.events V).Takes e) (herror : e.input ≠ .error) (h : Announced bus e.pre) :
    Announced ((SafetyNode.contactorCommands e.output).getLast?.getD bus) e.post := by
  refine ⟨SafetyNode.latchSound_step he h.toLatchSound, SafetyNode.dormant_step he herror h.dormant,
    ?_⟩
  obtain ⟨p, hout, hp, hpost⟩ := SafetyNode.announces he h.dormant
  rw [hout, SafetyNode.announced]
  split_ifs with hsent
  · intro hafter
    exact ⟨hafter, hpost hsent.1 hafter⟩
  · intro hbus
    obtain ⟨hbefore, hactive⟩ := h.closed hbus
    have hafter : e.post.hardwareContactorsClosed = true := by
      by_contra hopen
      exact hsent ⟨hp hactive, fun heq => hopen (heq ▸ hbefore)⟩
    exact ⟨hafter, hpost (hp hactive) hafter⟩

/-- After a step of the manager the bus is open, or as it was. -/
theorem getLast?_getD_of_opens {bus : Bool} {o : List Bool} (ho : ∀ data ∈ o, data = false)
    (h : o.getLast?.getD bus = true) : bus = true := by
  cases hlast : o.getLast? with
  | none => simpa [hlast] using h
  | some data =>
    rw [hlast, Option.getD_some] at h
    exact absurd (ho data (List.mem_of_getLast? hlast)) (by simp [h])

omit [VelocityScalar V] in
theorem busValue_concat (tr : List (BusStep V)) (e : BusStep V) :
    busValue (tr ++ [e]) = e.output.getLast?.getD (busValue tr) := by
  rw [busValue, lastOut_concat, busValue]
  cases e.output.getLast? <;> rfl

/-- A closed bus means that the contactor flag is set and the e-stop is not latched; so when an open
command is dropped as redundant, the bus is open. -/
structure BusSound (tr : List (BusStep V)) (x : ContactorBus) : Prop where
  closed : busValue tr = true →
    x.safety.hardwareContactorsClosed = true ∧ x.safety.eStopActive = false
  redundant : x.safety.setHardwareContactors (V := V) false = (x.safety, []) → busValue tr = false

omit [VelocityScalar V] in
theorem Announced.busSound {tr : List (BusStep V)} {x : ContactorBus}
    (h : Announced (busValue tr) x.safety) : BusSound tr x where
  closed hbus := by
    have hclosed := (h.closed hbus).1
    refine ⟨hclosed, ?_⟩
    by_contra hestop
    have hopen := h.opened (by simpa using hestop)
    exact absurd (hopen.symm.trans hclosed) Bool.false_ne_true
  redundant hset := by
    have hflag := congrArg (fun r => r.1.hardwareContactorsClosed) hset
    rw [SafetyNode.setHardwareContactors_fst] at hflag
    by_contra hbus
    exact absurd (hflag.trans (h.closed (by simpa using hbus)).1) Bool.false_ne_true

/-- Without a relay on the topic, every step keeps what the flag says about the bus. -/
theorem announced_run {m : FdirManagerNode} {tr : List (BusStep V)} {x : ContactorBus}
    (hm : m.RelaysApart fullName) (h : (events V fullName).Run ⟨SafetyNode.construct, m⟩ tr x)
    (herror : ∀ e ∈ tr, e.input.isError = false) :
    x.manager.RelaysApart fullName ∧ Announced (busValue tr) x.safety := by
  revert herror
  refine h.history
    (H := fun tr x => (∀ e ∈ tr, e.input.isError = false) →
      x.manager.RelaysApart fullName ∧ Announced (busValue tr) x.safety)
    (fun _ => ⟨hm, announced_construct⟩) fun past e _ he hpast hall => ?_
  obtain ⟨hapart, hpre⟩ := hpast fun e' he' => hall e' (List.mem_append_left _ he')
  rw [busValue_concat]
  rcases takes_cases he with ⟨i, o, hi, hsame, hstep, hout⟩ | ⟨i, o, -, hsame, hstep, hout⟩
  · rw [hout, hsame]
    refine ⟨hapart, announced_step hstep (fun hierror => ?_) hpre⟩
    have hno := hall e (by simp)
    rw [hi, show i = .error from hierror] at hno
    exact absurd hno.symm Bool.false_ne_true
  · rw [hout, hsame]
    refine ⟨FdirManagerNode.relaysApart_step hstep hapart, hpre.toLatchSound, hpre.dormant, ?_⟩
    exact fun hbus =>
      hpre.closed (getLast?_getD_of_opens (FdirManagerNode.actuations_opens hstep hapart) hbus)

/-- A tick of the manager, as a step of the two writers. -/
def ofTick (V : Type) (fullName : String → String) (s : SafetyNode)
    (e : FdirManagerNode.MonitorStep) : BusStep V :=
  ⟨⟨s, e.pre⟩, .tick e.input, FdirManagerNode.actuations fullName e.output, ⟨s, e.post⟩⟩

/-- A run of the manager is a run of the two writers. -/
theorem manager_run {m t : FdirManagerNode} {tr : List FdirManagerNode.MonitorStep}
    (h : FdirManagerNode.ticks.Run m tr t) (s : SafetyNode) :
    (events V fullName).Run ⟨s, m⟩ (tr.map (ofTick V fullName s)) ⟨s, t⟩ := by
  refine h.history (H := fun tr t =>
    (events V fullName).Run ⟨s, m⟩ (tr.map (ofTick V fullName s)) ⟨s, t⟩)
    (.nil _) fun past e _ he hpast => ?_
  rw [List.map_append, List.map_singleton]
  refine hpast.snoc ?_
  exact congrArg (Option.map _) he

/-- **When the bus is sound.** Take the manager of an accepted configuration. The bus is sound in
every state of every run of the two writers without an error transition, from the construction of
the safety node, if and only if no component has its relay on `hardware/contactors`. -/
theorem contactorBus_sound_iff {policy : FdirPolicy} {clock : String → Time} {m : FdirManagerNode}
    (hm : FdirManagerNode.Constructed policy clock m) :
    (∀ (tr : List (BusStep V)) (x : ContactorBus),
      (events V fullName).Run ⟨SafetyNode.construct, m⟩ tr x →
        (∀ e ∈ tr, e.input.isError = false) → BusSound tr x) ↔
      m.RelaysApart fullName := by
  constructor
  · intro hall node hnode hr htopic
    obtain ⟨tr, t, hrun, hlast⟩ := FdirManagerNode.closes_run hm hnode hr htopic
    have hsound :=
      hall _ _ (manager_run hrun SafetyNode.construct) (by simp [ofTick, BusEvent.isError])
    have hbus : busValue (tr.map (ofTick V fullName SafetyNode.construct)) = true := by
      rw [busValue, lastOut, List.flatMap_map]
      exact congrArg (Option.getD · false) hlast
    -- the safety node has never been configured
    exact absurd (hsound.closed hbus).1 (by simp [SafetyNode.construct])
  · exact fun hapart tr x h herror => (announced_run hapart h herror).2.busSound

/-- The safety node is activated and cleared, between two ticks of the manager. -/
def clearance : List (BusEvent ℚ) :=
  [.tick (pollTick (.replied LifecycleState.primaryStateInactive) 0),
    .safety (.configure 1 (3 / 10)), .safety .activate,
    .safety (.healthState FdirState.stateSoftwareOk),
    .tick (pollTick (.replied LifecycleState.primaryStateActive) 1)]

theorem contactorBus_sound_clearance :
    busValue ((events ℚ id).trace ⟨SafetyNode.construct, FdirManagerNode.lidarManager⟩ clearance) =
      true ∧
    ((events ℚ id).final ⟨SafetyNode.construct, FdirManagerNode.lidarManager⟩
      clearance).safety.eStopActive = false := by
  have hbus : busValue ((events ℚ id).trace ⟨SafetyNode.construct, FdirManagerNode.lidarManager⟩
      clearance) = true := by decide +kernel
  have hsound := (contactorBus_sound_iff FdirManagerNode.lidarManager_constructed).2
    (by decide +kernel) _ _ ((events ℚ id).run_trace _ clearance (by decide +kernel))
    (by decide +kernel)
  exact ⟨hbus, (hsound.closed hbus).2⟩

/-- The relay of the front lidar is on the topic of the contactors. -/
def aliasedPolicy : FdirPolicy :=
  { FdirManagerNode.lidarPolicy with
    components compKey :=
      { FdirManagerNode.lidarPolicy.components compKey with resetTopic := "hardware/contactors" } }

/-- The manager constructed from `aliasedPolicy` at time 0. -/
def aliasedManager : FdirManagerNode :=
  { FdirManagerNode.lidarManager with
    managedNodes := FdirManagerNode.lidarManager.managedNodes.map fun node =>
      { node with resetTopic := "hardware/contactors" } }

theorem aliasedManager_constructed :
    FdirManagerNode.Constructed aliasedPolicy (fun _ => 0) aliasedManager :=
  ⟨aliasedManager, rfl, .refl _, rfl, rfl, rfl⟩

/-- The e-stop is requested of the active safety node, and the front lidar stops to answer. -/
def aliasedRecovery : List (BusEvent ℚ) :=
  [.safety (.configure 1 (3 / 10)), .safety .activate, .safety .estop, .tick (pollTick .timedOut 0),
    .tick (pollTick .timedOut 0), .tick (pollTick .timedOut 3), .tick (pollTick .timedOut 3)]

/-- The end of the power cycle closes the contactors while the e-stop is latched. -/
theorem aliasedRecovery_closes :
    let x₀ : ContactorBus := ⟨SafetyNode.construct, aliasedManager⟩
    let tr := (events ℚ id).trace x₀ aliasedRecovery
    let x := (events ℚ id).final x₀ aliasedRecovery
    FdirManagerNode.Constructed aliasedPolicy (fun _ => 0) aliasedManager ∧
    (events ℚ id).Run x₀ tr x ∧ (∀ e ∈ tr, e.input.isError = false) ∧
    busValue tr = true ∧ x.safety.eStopActive = true ∧ ¬ BusSound tr x := by
  intro x₀ tr x
  have hend : busValue tr = true ∧ x.safety.eStopActive = true := by decide +kernel
  refine ⟨aliasedManager_constructed, (events ℚ id).run_trace _ _ (by decide +kernel),
    by decide +kernel, hend.1, hend.2, fun hsound => ?_⟩
  exact absurd ((hsound.closed hend.1).2.symm.trans hend.2) Bool.false_ne_true

end ContactorBus

end MonaRobot
