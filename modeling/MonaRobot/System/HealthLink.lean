import MonaRobot.Core.Verdicts
import MonaRobot.Foundations.Feed
import MonaRobot.System.Clearance

/-!
# The manager and the safety node, connected

`HealthLink.feed` connects the FDIR manager with the safety node by the topic `system/health_state`:
what a tick publishes is queued, and a delivery hands the oldest message to the safety node. The
oldest messages may be lost at any time, as in a history queue that is full or when a subscription
is taken away. Lifecycle transitions of the safety node, requests and all other messages come at any
time, and the readings of the ticks are arbitrary.

The ticks of the manager and the callbacks of the safety node run one after another. The manager
gives its timer a reentrant group, and a tick that blocks on a service may be overtaken by the next
one; the safety node reads the health in a reentrant group too. What is lost then is the subject of
`OverlappingLockout` and `EstopRace`, and nothing here speaks of such runs.

* `received`: the safety node processes only the three verdicts that are ever sent, in order, and
  nothing else after an EMERGENCY.
* `energized_healthy`: closed contactors mean that a tick found all components active, or that an
  operator has cleared them since.
* `lockout_final`: once an EMERGENCY has reached the safety node, only an operator powers or moves
  the robot, and no longer than until the next tick or the next health message.
-/

namespace MonaRobot

open Reactive

/-- The message of the manager. -/
def SafetyEvent.isHealthState {V : Type} : SafetyEvent V → Bool
  | .healthState _ => true
  | _ => false

namespace HealthLink

variable {V : Type} [VelocityScalar V]

/-! ## The machine -/

/-- The safety node subscribes to the health of the manager. -/
def feed (V : Type) [VelocityScalar V] :
    Feed FdirManagerNode.ticks (SafetyNode.events V) UInt8 Unit where
  sends := published
  deliver msg _ := .healthState msg
  own i := !i.isHealthState

/-- A step of the two nodes. -/
abbrev HealthStep (V : Type) := FeedStep FdirManagerNode MonitorTick (List FdirAction) SafetyNode
  (SafetyEvent V) (List (SafetyOutput V)) UInt8 Unit

/-- The manager with nothing in flight, and the safety node from its construction on. -/
def start (s : FdirManagerNode) : Fed FdirManagerNode SafetyNode UInt8 :=
  ⟨s, SafetyNode.construct, []⟩

/-- The ticks of the manager in a history. -/
def managerSteps (tr : List (HealthStep V)) : List FdirManagerNode.MonitorStep :=
  tr.flatMap Feed.sourceStep

/-- The steps of the safety node in a history. -/
def safetySteps (tr : List (HealthStep V)) : List (SafetyNode.SafetyStep V) :=
  tr.flatMap (feed V).sinkStep

/-- What a step publishes on `hardware/contactors`. -/
def contactors (fullName : String → String) (e : HealthStep V) : List Bool :=
  match e.output with
  | .source o => FdirManagerNode.actuations fullName o
  | .sink o => SafetyNode.contactorCommands o
  | .none => []

/-- The last message on `hardware/contactors`, `false` before the first. -/
def busValue (fullName : String → String) (tr : List (HealthStep V)) : Bool :=
  (lastOut (contactors fullName) tr).getD false

/-- A tick of the manager. -/
def IsTick (e : HealthStep V) : Prop := managerSteps [e] ≠ []

/-- The safety node accepts a reset. -/
def AcceptsReset (e : HealthStep V) : Prop := ∃ e' ∈ safetySteps [e], SafetyNode.Resets e'

variable {s : FdirManagerNode} {x : Fed FdirManagerNode SafetyNode UInt8}
  {tr : List (HealthStep V)} {e : HealthStep V} {fullName : String → String}

/-! ## What the safety node receives -/

/-- What the safety node has processed, and what is in flight to it. -/
def receives (tr : List (HealthStep V)) (x : Fed FdirManagerNode SafetyNode UInt8) : List UInt8 :=
  (safetySteps tr).flatMap SafetyNode.processed ++ x.queue

/-- It is what was sent, in order, less what was lost. -/
theorem receives_sublist (h : (feed V).machine.Run (start s) tr x) :
    (receives tr x).Sublist ((managerSteps tr).flatMap FdirManagerNode.verdicts) := by
  have hreads := Feed.reads_run (F := feed V) (f := SafetyNode.processed) ?_ ?_ h
  · rw [managerSteps, List.flatMap_assoc]
    exact hreads
  · intro b i o b' hown
    cases i with
    | healthState msg => cases hown
    | _ => rfl
  · intro b m c o b'
    change (if _ then [m] else []).Sublist [m]
    split_ifs
    · exact List.Sublist.refl _
    · exact List.nil_sublist _

/-- **What the safety node receives** are verdicts of the manager, in the order in which it sends
them. -/
theorem received (hs : FdirManagerNode.Sound s) (h : (feed V).machine.Run (start s) tr x) :
    FdirManagerNode.Verdicts (receives tr x) x.source := by
  have hall := FdirManagerNode.verdicts_run hs (Feed.source_run h)
  have hsub := receives_sublist h
  exact ⟨hall.sound, fun b hb => hall.three b (hsub.subset hb), hall.latched.sublist hsub,
    fun hb => hall.locked (hsub.subset hb)⟩

/-- A message that was received was sent by a tick. -/
theorem sent_of_received (h : (feed V).machine.Run (start s) tr x) {b : UInt8}
    (hb : b ∈ receives tr x) : ∃ e ∈ managerSteps tr, b ∈ published e.output :=
  List.mem_flatMap.1 ((receives_sublist h).subset hb)

/-- The ticks of a history. -/
theorem takes_managerSteps (hs : FdirManagerNode.Sound s)
    (h : (feed V).machine.Run (start s) tr x) {e : FdirManagerNode.MonitorStep}
    (he : e ∈ managerSteps tr) :
    FdirManagerNode.ticks.Takes e ∧ FdirManagerNode.Sound e.pre := by
  have hrun : FdirManagerNode.ticks.Run s (managerSteps tr) x.source := Feed.source_run h
  exact ⟨hrun.takes e he, (hrun.invariant_mem hs (fun _ => FdirManagerNode.sound_step) e he).1⟩

/-! ## Power -/

/-- The last message processed was sent, by a tick that found all components active, when it
energizes. -/
theorem healthy_of_energizes (hs : FdirManagerNode.Sound s)
    (h : (feed V).machine.Run (start s) tr x)
    (hlast : SafetyNode.energizes x.sink.lastFdirState = true) :
    x.sink.lastFdirState = FdirState.stateSoftwareOk ∧ ∃ e ∈ managerSteps tr,
      published e.output = [FdirState.stateSoftwareOk] ∧ FdirManagerNode.FindsActive e := by
  have hbyte := SafetyNode.lastProcessed_run (Feed.sink_run h)
  cases hout : lastOut SafetyNode.processed (safetySteps tr) with
  | none =>
    rw [show lastOut SafetyNode.processed (tr.flatMap (feed V).sinkStep) = none from hout] at hbyte
    rw [hbyte] at hlast
    exact absurd hlast (by decide)
  | some b =>
    rw [show lastOut SafetyNode.processed (tr.flatMap (feed V).sinkStep) = some b from hout,
      Option.getD_some] at hbyte
    rw [hbyte] at hlast ⊢
    have hb : b ∈ receives tr x := List.mem_append_left _ (List.mem_of_getLast? hout)
    obtain ⟨e, he, hsent⟩ := sent_of_received h hb
    obtain ⟨htake, hsound⟩ := takes_managerSteps hs h he
    rcases FdirManagerNode.verdict_cases htake hsound with ⟨hpub, -⟩ | ⟨hpub, hactive⟩ | ⟨hpub, -⟩
    · rw [hpub, List.mem_singleton] at hsent
      rw [hsent] at hlast
      exact absurd hlast (by decide)
    · rw [hpub, List.mem_singleton] at hsent
      exact ⟨hsent, e, he, hpub, hactive⟩
    · rw [hpub, List.mem_singleton] at hsent
      rw [hsent] at hlast
      exact absurd hlast (by decide)

omit [VelocityScalar V] in
/-- The last message after a step. -/
theorem busValue_concat : busValue fullName (tr ++ [e]) =
    (contactors fullName e).getLast?.getD (busValue fullName tr) := by
  rw [busValue, lastOut_concat, busValue]
  cases (contactors fullName e).getLast? <;> rfl

theorem safetySteps_concat : safetySteps (tr ++ [e]) = safetySteps tr ++ safetySteps [e] :=
  List.flatMap_append

theorem relaysApart_run (hapart : s.RelaysApart fullName)
    (h : (feed V).machine.Run (start s) tr x) : x.source.RelaysApart fullName := by
  have hrun : FdirManagerNode.ticks.Run s (managerSteps tr) x.source := Feed.source_run h
  exact hrun.invariant hapart fun _ => FdirManagerNode.relaysApart_step

/-- The bus and the flag of the safety node, as in `ContactorBus`. -/
theorem announced_run (hapart : s.RelaysApart fullName) (h : (feed V).machine.Run (start s) tr x)
    (herror : ∀ e ∈ safetySteps tr, e.input ≠ .error) :
    ContactorBus.Announced (busValue fullName tr) x.sink := by
  revert herror
  refine h.history (H := fun tr x => (∀ e ∈ safetySteps tr, e.input ≠ .error) →
    ContactorBus.Announced (busValue fullName tr) x.sink)
    (fun _ => ContactorBus.announced_construct) ?_
  intro past e hrun he hpast herror
  rw [safetySteps_concat, List.forall_mem_append] at herror
  have hpre := hpast herror.1
  rw [busValue_concat]
  cases Feed.moves he with
  | source e' htake _ _ hout hsource _ hsame =>
    rw [contactors, hout, hsame]
    have hpast : e'.pre.RelaysApart fullName := hsource ▸ relaysApart_run hapart hrun
    refine ⟨hpre.toLatchSound, hpre.dormant, fun hbus => hpre.closed ?_⟩
    exact ContactorBus.getLast?_getD_of_opens (FdirManagerNode.actuations_opens htake hpast) hbus
  | sink e' htake _ hsink hout heq heq' =>
    rw [contactors, hout, ← heq']
    rw [← heq] at hpre
    refine ContactorBus.announced_step htake (herror.2 e' ?_) hpre
    simp [safetySteps, hsink]
  | neither _ _ hout _ hsame =>
    rw [contactors, hout, hsame]
    exact hpre

/-- The contactor flag is set by an operator, or by a tick that polled every component active. -/
theorem healthy_of_closed {policy : FdirPolicy} {clock : String → Time}
    (hs : FdirManagerNode.Constructed policy clock s) (h : (feed V).machine.Run (start s) tr x)
    (hclosed : x.sink.hardwareContactorsClosed = true) :
    SafetyNode.OperatorCleared (safetySteps tr) ∨
      x.sink.lastFdirState = FdirState.stateSoftwareOk ∧ ∃ e ∈ managerSteps tr,
        published e.output = [FdirState.stateSoftwareOk] ∧ FdirManagerNode.FindsActive e := by
  rcases SafetyNode.cleared_run (Feed.sink_run h) hclosed with hcleared | hlast
  · exact Or.inl hcleared
  · exact Or.inr (healthy_of_energizes (FdirManagerNode.sound_of_constructed hs) h hlast)

/-- A diagnostic summary OK means the same, through error transitions too. -/
theorem healthy_of_diagnostics {policy : FdirPolicy} {clock : String → Time}
    (hs : FdirManagerNode.Constructed policy clock s) (h : (feed V).machine.Run (start s) tr x)
    (hok : x.sink.produceDiagnostics.1 = DiagnosticStatus.ok) :
    SafetyNode.OperatorCleared (safetySteps tr) ∨
      x.sink.lastFdirState = FdirState.stateSoftwareOk ∧ ∃ e ∈ managerSteps tr,
        published e.output = [FdirState.stateSoftwareOk] ∧ FdirManagerNode.FindsActive e := by
  refine healthy_of_closed hs h ?_
  by_contra hopen
  rw [SafetyNode.produceDiagnostics, if_neg hopen] at hok
  exact absurd hok (by decide)

/-- **Closed contactors mean a healthy robot.** Let no component have its relay on
`hardware/contactors`. In any run without an error transition: while the bus is closed, the last
health message that the safety node processed was SOFTWARE_OK, and a tick that sent it polled every
component active and found none defective; or else an operator has reset the e-stop since that
message. -/
theorem energized_healthy (fullName : String → String) {policy : FdirPolicy}
    {clock : String → Time}
    (hs : FdirManagerNode.Constructed policy clock s) (hapart : s.RelaysApart fullName)
    (h : (feed V).machine.Run (start s) tr x)
    (herror : ∀ e ∈ safetySteps tr, e.input ≠ .error) (hbus : busValue fullName tr = true) :
    SafetyNode.OperatorCleared (safetySteps tr) ∨
      x.sink.lastFdirState = FdirState.stateSoftwareOk ∧ ∃ e ∈ managerSteps tr,
        published e.output = [FdirState.stateSoftwareOk] ∧ FdirManagerNode.FindsActive e :=
  healthy_of_closed hs h ((announced_run hapart h herror).closed hbus).1

/-- The safety node is activated, and learns that the front lidar is active. -/
def clearedByHealth : List (FeedInput MonitorTick (SafetyEvent ℚ) Unit) :=
  [.sink (.configure 1 (3 / 10)), .sink .activate,
    .source (pollTick (.replied LifecycleState.primaryStateActive) 1), .deliver ()]

theorem energized_healthy_clearedByHealth :
    ∃ e ∈ managerSteps
        ((feed ℚ).machine.trace (start FdirManagerNode.lidarManager) clearedByHealth),
      published e.output = [FdirState.stateSoftwareOk] ∧ FdirManagerNode.FindsActive e := by
  have hrun := (feed ℚ).machine.run_trace (start FdirManagerNode.lidarManager) clearedByHealth
    (by decide +kernel)
  have hor := energized_healthy id FdirManagerNode.lidarManager_constructed
    (by decide +kernel) hrun (by decide +kernel) (by decide +kernel)
  exact (hor.resolve_left (by decide +kernel)).2

/-! ## After an EMERGENCY -/

/-- An EMERGENCY has reached the safety node. -/
def Reached (tr : List (HealthStep V)) : Prop :=
  FdirState.stateEmergency ∈ (safetySteps tr).flatMap SafetyNode.processed

instance (tr : List (HealthStep V)) : Decidable (Reached tr) := inferInstanceAs (Decidable (_ ∈ _))

/-- Then it was the last message, and it will be the next one. -/
theorem last_of_reached (hs : FdirManagerNode.Sound s) (h : (feed V).machine.Run (start s) tr x)
    (hr : Reached tr) : FdirManagerNode.Locked x.source ∧
      (∀ b ∈ x.queue, b = FdirState.stateEmergency) ∧
      x.sink.lastFdirState = FdirState.stateEmergency := by
  have hall := received hs h
  refine ⟨hall.locked (List.mem_append_left _ hr), hall.after hr, ?_⟩
  rw [SafetyNode.lastProcessed_run (Feed.sink_run h), lastOut]
  obtain ⟨l, b, hl⟩ : ∃ l b, (safetySteps tr).flatMap SafetyNode.processed = l ++ [b] := by
    rcases List.eq_nil_or_concat' ((safetySteps tr).flatMap SafetyNode.processed) with hnil | hcat
    · rw [Reached, hnil] at hr
      cases hr
    · exact hcat
  rw [show (tr.flatMap (feed V).sinkStep).flatMap SafetyNode.processed = l ++ [b] from hl,
    List.getLast?_concat, Option.getD_some]
  rw [Reached, hl, List.mem_append, List.mem_singleton] at hr
  rcases hr with hr | hr
  · rw [receives, hl, List.append_assoc] at hall
    exact hall.after hr b (by simp)
  · exact hr.symm

/-- A step that follows it: a tick opens the bus, a health message is an EMERGENCY and opens the
contactors, and any other step of the safety node opens them or leaves the bus. -/
theorem cleared_step (hs : FdirManagerNode.Sound s) (hapart : s.RelaysApart fullName)
    (h : (feed V).machine.Run (start s) tr e.pre)
    (he : (feed V).machine.Takes e) (hr : Reached (tr ++ [e]))
    (hpost : ContactorBus.Announced (busValue fullName (tr ++ [e])) e.post.sink)
    (hbus : busValue fullName (tr ++ [e]) = true) :
    AcceptsReset e ∨ ¬ IsTick e ∧ Reached tr ∧ busValue fullName tr = true := by
  have hall := received hs (h.trans (.single he))
  rw [Reached, safetySteps_concat, List.flatMap_append, List.mem_append] at hr
  rw [busValue_concat] at hbus
  cases Feed.moves he with
  | source e' htake hsource hsink hout hpre hpost' _ =>
    have hreached : Reached tr := hr.resolve_right (by simp [safetySteps, hsink])
    obtain ⟨⟨node, hnode, hd⟩, -⟩ := last_of_reached hs h hreached
    rw [← hpre] at hnode
    have hnode' := FdirManagerNode.mem_post_of_defective htake hnode hd
    have hopened := (FdirManagerNode.publishesEmergency htake hnode' hd).contactors
    have hmem : false ∈ contactors fullName e := by
      rw [contactors, hout]
      exact List.mem_filterMap.2 ⟨_, hopened, rfl⟩
    have hopens : ∀ data ∈ contactors fullName e, data = false := by
      rw [contactors, hout]
      exact FdirManagerNode.actuations_opens htake (hpre ▸ relaysApart_run hapart h)
    cases hlast : (contactors fullName e).getLast? with
    | none =>
      rw [List.getLast?_eq_none_iff.1 hlast] at hmem
      cases hmem
    | some data =>
      rw [hlast, Option.getD_some] at hbus
      exact absurd (hopens data (List.mem_of_getLast? hlast)) (by simp [hbus])
  | sink e' htake hsource hsink hout hpre hpost' _ =>
    have hmem : e' ∈ safetySteps [e] := by simp [safetySteps, hsink]
    have htick : ¬ IsTick e := by simp [IsTick, managerSteps, hsource]
    have hone : (safetySteps [e]).flatMap SafetyNode.processed = SafetyNode.processed e' := by
      simp [safetySteps, hsink]
    rw [hone] at hr
    cases SafetyNode.clearance htake with
    | processes msg hp _ hafter =>
      -- the message is an EMERGENCY, after which the flag is open, and so is the bus
      have hmsg : msg = FdirState.stateEmergency := by
        rcases hr with hr | hr
        · rw [receives, safetySteps_concat, List.flatMap_append, hone, hp,
            List.append_assoc] at hall
          exact hall.after hr msg (by simp)
        · rw [hp, List.mem_singleton] at hr
          exact hr.symm
      have hclosed := (hpost.closed (by rw [busValue_concat]; exact hbus)).1
      rw [← hpost', hafter, hmsg] at hclosed
      exact absurd (SafetyNode.energizes_afterFdirState hclosed) (by decide)
    | resets _ hreset => exact Or.inl ⟨e', hmem, hreset⟩
    | neither hp _ _ _ _ hopens =>
      rw [hp] at hr
      refine Or.inr ⟨htick, hr.resolve_right (by simp), ?_⟩
      refine ContactorBus.getLast?_getD_of_opens (o := contactors fullName e) ?_ hbus
      rw [contactors, hout]
      exact hopens
  | neither hsource hsink hout _ _ =>
    refine Or.inr ⟨by simp [IsTick, managerSteps, hsource],
      hr.resolve_right (by simp [safetySteps, hsink]), ?_⟩
    rw [contactors, hout] at hbus
    exact hbus

/-- **The lockout is final.** In any run, once the safety node has processed an EMERGENCY, every
health message in flight to it and every later one is an EMERGENCY. As long as no operator has reset
the e-stop since the last one, it is latched with the contactors open, and no step of the safety
node but a reset moves or powers the robot. Without an error transition and without a relay on
`hardware/contactors`, a closed bus means that an operator has reset the e-stop since the last tick
of the manager. -/
theorem lockout_final (fullName : String → String) {policy : FdirPolicy} {clock : String → Time}
    (hs : FdirManagerNode.Constructed policy clock s) (h : (feed V).machine.Run (start s) tr x)
    (hr : Reached tr) :
    (FdirManagerNode.Locked x.source ∧ (∀ b ∈ x.queue, b = FdirState.stateEmergency) ∧
      x.sink.lastFdirState = FdirState.stateEmergency) ∧
    (¬ SafetyNode.OperatorCleared (safetySteps tr) →
      x.sink.eStopActive = true ∧ x.sink.hardwareContactorsClosed = false ∧
      ∀ e, (feed V).machine.Takes e → e.pre = x → ¬ AcceptsReset e →
        ∀ e' ∈ safetySteps [e], ∀ o ∈ e'.output, SafetyNode.SafeOutput o) ∧
    (s.RelaysApart fullName → (∀ e ∈ safetySteps tr, e.input ≠ .error) →
      busValue fullName tr = true → ¬ Answered IsTick AcceptsReset tr) := by
  have hsound := FdirManagerNode.sound_of_constructed hs
  have hlast := last_of_reached hsound h hr
  refine ⟨hlast, fun hno => ?_, fun hapart herror hbus => ?_⟩
  · have hestop := SafetyNode.grounded_run (Feed.sink_run h) hlast.2.2 hno
    have hlatch := SafetyNode.latchSound_run (Feed.sink_run h)
    refine ⟨hestop, hlatch.opened hestop, ?_⟩
    rintro e he rfl hreset e' he' o ho
    cases Feed.moves he with
    | sink e'' htake _ hsink _ hpre _ _ =>
      simp only [safetySteps, List.flatMap_singleton, hsink, List.mem_singleton] at he'
      subst he'
      have hpre' : e'.pre.eStopActive = true := hpre ▸ hestop
      have hnot : ¬ SafetyNode.ResetHandled e' := fun hhandled => hreset ⟨e', by
        simp [safetySteps, hsink], hhandled.2, by
        rw [hhandled.2]
        exact ⟨hhandled.1, Or.inr hpre'⟩⟩
      have hlatch' : SafetyNode.LatchSound e'.pre := hpre ▸ hlatch
      exact SafetyNode.safeOutput_step htake (SafetyNode.latchSound_step htake hlatch')
        (SafetyNode.eStopActive_step htake hnot hpre') o ho
    | source _ _ _ hsink | neither _ hsink =>
      simp [safetySteps, hsink] at he'
  · revert hr herror hbus
    clear hlast
    refine h.history (H := fun tr x => Reached tr → (∀ e ∈ safetySteps tr, e.input ≠ .error) →
      busValue fullName tr = true → ¬ Answered IsTick AcceptsReset tr) (fun hr => by cases hr) ?_
    intro past e hpast he hpre hr herror hbus
    rw [answered_concat]
    have hpost := announced_run hapart (hpast.trans (.single he)) herror
    rcases cleared_step hsound hapart hpast he hr hpost hbus with hreset | ⟨htick, hr', hbus'⟩
    · exact fun hanswered => hanswered.1 hreset
    · rw [safetySteps_concat, List.forall_mem_append] at herror
      rintro ⟨-, hanswered | hanswered⟩
      · exact htick hanswered
      · exact hpre hr' herror.1 hbus' hanswered

/-- The front lidar is locked out, and the last of the messages arrives. -/
def lidarLockout : List (FeedInput MonitorTick (SafetyEvent ℚ) Unit) :=
  [.sink (.configure 1 (3 / 10)), .sink .activate] ++
    FdirManagerNode.deadLidar.map .source ++ [.lose 16, .deliver ()]

theorem lockout_final_lidarLockout :
    let x := (feed ℚ).machine.final (start FdirManagerNode.lidarManager) lidarLockout
    FdirManagerNode.Locked x.source ∧ x.sink.eStopActive = true ∧
      ∀ e, (feed ℚ).machine.Takes e → e.pre = x → ¬ AcceptsReset e →
        ∀ e' ∈ safetySteps [e], ∀ o ∈ e'.output, SafetyNode.SafeOutput o := by
  have hrun := (feed ℚ).machine.run_trace (start FdirManagerNode.lidarManager) lidarLockout
    (by decide +kernel)
  obtain ⟨⟨hlocked, -⟩, hgrounded, -⟩ :=
    lockout_final id FdirManagerNode.lidarManager_constructed hrun (by decide +kernel)
  obtain ⟨hestop, -, hsafe⟩ := hgrounded (by decide +kernel)
  exact ⟨hlocked, hestop, hsafe⟩

end HealthLink

end MonaRobot
