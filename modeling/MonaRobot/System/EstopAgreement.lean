import MonaRobot.System.SafetyLink

/-!
# Agreement on the e-stop

The latch `e_stop_active_` lives in the safety node and its copy `is_estop_blocked_` in the
multiplexer; an FDIR EMERGENCY sets the latch without publishing it. Two facts tie them together.
Every safety state that is published is EMERGENCY exactly if the latch is set after the step that
publishes it (`safetyStates_iff`); and the copy follows the messages in their order, of which the
newest is never lost (`blocking`).

* `agreement`: with nothing in flight, and a mux state handled since the latch last changed, the
  copy is the latch.
* `stays_blocked`: once a message published after the latch has been delivered, the multiplexer is
  blocked until a reset is handled.
-/

namespace MonaRobot

open Reactive

namespace SafetyNode

variable {V : Type} [VelocityScalar V]

/-! ## What the safety node publishes -/

/-- The broadcast state is EMERGENCY exactly if the latch is set. -/
theorem stateByte_emergency_iff {s : SafetyNode} (hs : LatchSound s) :
    stateByte s.globalState = SafetyStateMsg.emergency ↔ s.eStopActive = true := by
  have hlatched := hs.latched
  unfold globalState
  cases hestop : s.eStopActive with
  | true => exact iff_of_true rfl rfl
  | false =>
    rw [hestop] at hlatched
    cases hm : s.currentState with
    | emergency => exact absurd (hlatched hm) Bool.false_ne_true
    | normal | degraded | protectiveStop => exact iff_of_false (by decide) Bool.false_ne_true

/-- **The published states tell the latch.** -/
theorem safetyStates_iff {e : SafetyStep V} (he : (events V).Takes e) (hs : LatchSound e.pre)
    {b : UInt8} (hb : b ∈ safetyStates e.output) :
    b = SafetyStateMsg.emergency ↔ e.post.eStopActive = true := by
  obtain ⟨message, hmem⟩ := mem_safetyStates.1 hb
  cases sends he _ hmem with
  | safetyState => exact stateByte_emergency_iff (latchSound_step he hs)

/-- An active node answers every mux state. -/
theorem safetyStates_muxState {s : SafetyNode} (hw : Wired s) (hl : s.lifecycle = .active)
    (msg : UInt8) : safetyStates (s.handle (V := V) (.muxState msg)).2 ≠ [] := by
  obtain ⟨-, -, hsub, -⟩ := hw.present (Or.inr hl)
  obtain ⟨-, hpub, -⟩ := hw.sending hl
  rw [handle_muxState ⟨hsub, hw.processing.2 hl⟩, publishGlobalState, if_pos hpub]
  exact List.cons_ne_nil _ _

/-- Messages and requests leave the lifecycle alone. -/
theorem lifecycle_step {e : SafetyStep V} (he : (events V).Takes e)
    (hi : fromElsewhere e.input = true ∨ ∃ msg, e.input = .muxState msg) :
    e.post.lifecycle = e.pre.lifecycle := by
  induction e, he using takes_rec with
  | skipped => rfl
  | smoothedVel => rfl
  | healthState => rfl
  | muxState => rfl
  | odom => rw [latch_fst]
  | estop => rw [latch_fst]
  | estopReset => rw [reset_fst]
  | _ =>
    rcases hi with hi | ⟨_, hi⟩ <;> cases hi

end SafetyNode

namespace SafetyLink

variable {V : Type} [VelocityScalar V]

/-! ## Both nodes stay active -/

/-- Both nodes are active, each after a history of its own. -/
structure BothActive (x : SafetyLink V) : Prop where
  safety : ∃ tr, (SafetyNode.events V).Run SafetyNode.construct tr x.safety
  active : x.safety.lifecycle = .active
  mux : ∃ s now tr, TwistMuxNode.events.Run (TwistMuxNode.activated s now) tr x.mux

theorem bothActive_step {e : LinkStep V} (he : events.Takes e) (h : BothActive e.pre) :
    BothActive e.post := by
  obtain ⟨⟨tr, hrun⟩, hl, ⟨s, now, tr', hrun'⟩⟩ := h
  have hmux : ∃ s now tr, TwistMuxNode.events.Run (TwistMuxNode.activated s now) tr e.post.mux := by
    rcases mux_step he with ⟨hm, -⟩ | ⟨i, hm, -⟩
    · exact ⟨s, now, tr', hm ▸ hrun'⟩
    · exact ⟨s, now, _, hrun'.snoc hm⟩
  rcases safety_step he with ⟨hs, -, -⟩ | ⟨i, hs, hi⟩
  · exact ⟨⟨tr, hs ▸ hrun⟩, hs ▸ hl, hmux⟩
  · refine ⟨⟨_, hrun.snoc hs⟩, ?_, hmux⟩
    have hkeep := SafetyNode.lifecycle_step hs (by tauto)
    exact hkeep.trans hl

theorem bothActive_run {x y : SafetyLink V} {tr : List (LinkStep V)} (h : events.Run x tr y)
    (hx : BothActive x) : BothActive y :=
  h.invariant hx fun _ => bothActive_step

/-- Every safety state sent over a step tells the latch. -/
theorem sent_iff {e : LinkStep V} (he : events.Takes e) (h : BothActive e.pre) {b : UInt8}
    (hb : b ∈ (blocking V).sent e) :
    b = SafetyStateMsg.emergency ↔ e.post.safety.eStopActive = true := by
  obtain ⟨tr, hrun⟩ := h.safety
  rcases safety_step he with ⟨-, ho, -⟩ | ⟨i, hs, -⟩
  · simp [blocking, ho, SafetyNode.safetyStates] at hb
  · exact SafetyNode.safetyStates_iff hs (SafetyNode.latchSound_run hrun) hb

/-! ## Agreement -/

/-- A mux state was handled since the latch last changed. -/
def Reported (tr : List (LinkStep V)) : Prop :=
  ∃ tr₁ e tr₂, tr = tr₁ ++ e :: tr₂ ∧ e.input = .deliverMuxState ∧
    ∀ e' ∈ tr₂, e'.post.safety.eStopActive = e'.pre.safety.eStopActive

/-- Nothing is in flight. -/
def Quiet (x : SafetyLink V) : Prop := x.muxStates = [] ∧ x.safetyStates = []

theorem sent_ne_nil {e : LinkStep V} (he : events.Takes e) (h : BothActive e.pre)
    (hi : e.input = .deliverMuxState) : (blocking V).sent e ≠ [] := by
  obtain ⟨tr, hrun⟩ := h.safety
  have hl := h.active
  induction e, he using takes_rec with
  | deliverMuxState x msg rest hq =>
    exact SafetyNode.safetyStates_muxState (SafetyNode.wired_run hrun) hl msg
  | _ => cases hi

/-- With nothing in flight, and a mux state handled since the latch last changed, the copy in the
multiplexer is the latch. -/
theorem agreement {x y : SafetyLink V} {tr : List (LinkStep V)} (h : events.Run x tr y)
    (hx : BothActive x) (hr : Reported tr) (hq : Quiet y) :
    y.mux.node.isEstopBlocked = y.safety.eStopActive := by
  obtain ⟨tr₁, e, tr₂, rfl, hi, hsame⟩ := hr
  obtain ⟨hpast, he, hrest⟩ := h.around
  have hpre := bothActive_run hpast hx
  have hrun : events.Run e.pre (e :: tr₂) y := .cons he hrest
  -- the last message sent since then decides what the multiplexer knows
  have hne : (e :: tr₂).flatMap (blocking V).sent ≠ [] := by
    rw [List.flatMap_cons]
    exact List.append_ne_nil_of_left_ne_nil (sent_ne_nil he hpre hi) _
  obtain ⟨b, hlast⟩ := Option.ne_none_iff_exists'.1 (mt List.getLast?_eq_none_iff.1 hne)
  obtain ⟨e', he', hb⟩ := List.mem_flatMap.1 (List.mem_of_getLast? hlast)
  -- and the latch has not changed since it was sent
  have hlatch : e'.post.safety.eStopActive = y.safety.eStopActive := by
    obtain ⟨hstart, hall⟩ := hrest.constant (f := fun z => z.safety.eStopActive) hsame
    rcases List.mem_cons.1 he' with rfl | he'
    · exact hstart.symm
    · exact hall e' he'
  have hiff : b = SafetyStateMsg.emergency ↔ y.safety.eStopActive = true := by
    obtain ⟨past, rest, htr⟩ := List.append_of_mem he'
    rw [htr] at hrun
    obtain ⟨hpast', hstep, -⟩ := hrun.around
    rw [← hlatch]
    exact sent_iff hstep (bothActive_run hpast' hpre) hb
  calc y.mux.node.isEstopBlocked = (blocking V).newest y :=
        ((blocking V).newest_of_nil (s := y) hq.2).symm
    _ = decide (b = SafetyStateMsg.emergency) := by
        rw [(blocking V).newest_run (.cons he hrest), lastOut, hlast]
        rfl
    _ = y.safety.eStopActive := by
        rw [Bool.eq_iff_iff, decide_eq_true_iff]
        exact hiff

/-! ## The block -/

/-- A reset request at the safety node. -/
def ResetHandled (e : LinkStep V) : Prop := e.input = .safety .estopReset

instance [DecidableEq V] (e : LinkStep V) : Decidable (ResetHandled e) :=
  inferInstanceAs (Decidable (_ = _))

/-- The step `e`, after `tr`, delivers a safety state that was sent in `l` or later: all that were in
flight before `l` have left. -/
def DeliversSince (l : LinkStep V) (tr : List (LinkStep V)) (e : LinkStep V) : Prop :=
  (∃ now, e.input = .deliverSafetyState now) ∧
    l.pre.safetyStates.length ≤ (blocking V).gone (l :: tr)

/-- Only a handled reset releases the latch. -/
theorem eStopActive_step {e : LinkStep V} (he : events.Takes e) (hno : ¬ ResetHandled e)
    (h : e.pre.safety.eStopActive = true) : e.post.safety.eStopActive = true := by
  rcases safety_step he with ⟨hs, -, -⟩ | ⟨i, hs, hi⟩
  · rw [hs]
    exact h
  · refine SafetyNode.eStopActive_step hs (fun hreset => ?_) h
    obtain ⟨-, hreset⟩ := hreset
    rcases hi with ⟨-, hi⟩ | ⟨⟨msg, hi⟩, -⟩
    · exact hno (hi.trans (congrArg LinkEvent.safety hreset))
    · rw [hi] at hreset
      cases hreset

theorem merged_step {e : LinkStep V} (he : events.Takes e) (h : e.pre.mux.node.Merged) :
    e.post.mux.node.Merged := by
  rcases mux_step he with ⟨hm, -⟩ | ⟨i, hm, -⟩
  · rw [hm]
    exact h
  · exact TwistMuxNode.merged_step hm h

/-- A delivery on `safety_state`. -/
theorem deliver_step {e : LinkStep V} (he : events.Takes e) {now : Time}
    (hi : e.input = .deliverSafetyState now) : ∃ msg, e.pre.safetyStates = msg :: e.post.safetyStates ∧
      e.post.mux.node.isEstopBlocked = decide (msg = SafetyStateMsg.emergency) ∧
      e.post.mux.node.Merged := by
  induction e, he using takes_rec with
  | deliverSafetyState x now msg rest o m hq hm =>
    refine ⟨msg, hq, isEstopBlocked_deliver hm, ?_⟩
    rcases TwistMuxNode.blockFlags_step hm with ⟨_, _, h, -⟩ | ⟨_, _, -, hy⟩ | ⟨h, -⟩
    · cases h
    · change TwistMuxNode.Merged m.node
      rw [show m.node = _ from hy]
      rfl
    · exact absurd rfl (h now msg)
  | _ => cases hi

/-- From a step that ends latched, while no reset is handled, every safety state sent is
EMERGENCY. -/
theorem sent_emergency {x y : SafetyLink V} {tr : List (LinkStep V)} (h : events.Run x tr y)
    (hx : BothActive x) (hlatch : x.safety.eStopActive = true) (hno : ∀ e ∈ tr, ¬ ResetHandled e) :
    ∀ e ∈ tr, ∀ b ∈ (blocking V).sent e, b = SafetyStateMsg.emergency := by
  intro e he b hb
  have hkept := h.latched (L := fun z => z.safety.eStopActive = true) hlatch
    (fun _ ht hr => eStopActive_step ht hr) hno e he
  have hactive := (h.invariant_mem hx fun _ => bothActive_step) e he
  exact (sent_iff (h.takes e he) hactive.1 hb).2 hkept.2

/-- Once a safety state sent since the latch has been delivered, the multiplexer is blocked while no
reset is handled, whatever health messages it gets. -/
theorem stays_blocked {x y : SafetyLink V} {l e : LinkStep V} {tr₁ tr₂ : List (LinkStep V)}
    (h : events.Run x (l :: (tr₁ ++ e :: tr₂)) y) (hx : BothActive x)
    (hlatch : l.post.safety.eStopActive = true) (hsince : DeliversSince l tr₁ e)
    (hno : ∀ e' ∈ tr₁ ++ e :: tr₂, ¬ ResetHandled e') :
    y.mux.node.isEstopBlocked = true ∧ y.mux.node.isSafetyBlocked = true := by
  obtain ⟨⟨now, hi⟩, hgone⟩ := hsince
  obtain ⟨rfl, hl, hrest⟩ := h.cons_inv
  obtain ⟨hrun₁, he, hrun₂⟩ := hrest.around
  have hpost := bothActive_step hl hx
  have hsent := sent_emergency hrest hpost hlatch hno
  -- all that is in flight before the delivery was sent since the latch
  have hflight : ∀ b ∈ e.pre.safetyStates, b = SafetyStateMsg.emergency := by
    intro b hb
    obtain ⟨e', he', hb'⟩ := (blocking V).exists_sent (.cons hl hrun₁) hgone hb
    rcases List.mem_cons.1 he' with rfl | he'
    · exact (sent_iff hl hx hb').2 hlatch
    · exact hsent e' (List.mem_append_left _ he') b hb'
  obtain ⟨msg, hq, hvalue, hmerged⟩ := deliver_step he hi
  rw [hq] at hflight
  have hheld := (blocking V).held (P := fun b => b = true) hrun₂
    (hvalue.trans (decide_eq_true (hflight msg (by simp))))
    (fun b hb => decide_eq_true (hflight b (List.mem_cons_of_mem _ hb)))
    (fun e' he' b hb => decide_eq_true (hsent e' (by simp [he']) b hb))
  have hm : y.mux.node.Merged := hrun₂.invariant (I := fun z => z.mux.node.Merged) hmerged
    fun _ => merged_step
  have hestop : y.mux.node.isEstopBlocked = true := hheld.1
  exact ⟨hestop, by rw [hm, hestop, Bool.or_true]⟩

/-- **The e-stop is agreed on.** In every run of the two active nodes, whatever was in flight at its
start: when nothing is in flight, and a mux state was handled since the latch last changed, the flag
of the multiplexer is the latch of the safety node; and from the delivery of a safety state that was
sent since the latch, the multiplexer stays blocked until a reset is handled. -/
theorem estop_agreement {x y : SafetyLink V} {tr : List (LinkStep V)} (hx : BothActive x)
    (h : events.Run x tr y) :
    (Reported tr → Quiet y → y.mux.node.isEstopBlocked = y.safety.eStopActive) ∧
    ∀ past l tr₁ e tr₂ rest, tr = past ++ l :: (tr₁ ++ e :: (tr₂ ++ rest)) →
      l.post.safety.eStopActive = true → DeliversSince l tr₁ e →
      (∀ e' ∈ tr₁ ++ e :: tr₂, ¬ ResetHandled e') → ∀ e' ∈ e :: tr₂,
        e'.post.mux.node.isEstopBlocked = true ∧ e'.post.mux.node.isSafetyBlocked = true := by
  refine ⟨fun hr hq => agreement h hx hr hq, ?_⟩
  rintro past l tr₁ e tr₂ rest rfl hlatch hsince hno e' he'
  obtain ⟨hpast, hl, hrest⟩ := h.around
  have hpre := bothActive_run hpast hx
  rcases List.mem_cons.1 he' with rfl | he'
  · obtain ⟨hrun, he, -⟩ := hrest.around
    refine stays_blocked (.cons hl (hrun.trans (.single he))) hpre hlatch hsince
      fun e'' he'' => hno e'' ?_
    simp only [List.mem_append, List.mem_cons, List.not_mem_nil] at he'' ⊢
    tauto
  · obtain ⟨before, after, rfl⟩ := List.append_of_mem he'
    have hrest' : events.Run l.post ((tr₁ ++ e :: (before ++ [e'])) ++ (after ++ rest)) y := by
      simpa using hrest
    obtain ⟨z, hz, -⟩ := hrest'.split
    obtain ⟨-, -, rfl⟩ := (show events.Run l.post ((tr₁ ++ e :: before) ++ [e']) z by
      simpa using hz).snoc_inv
    refine stays_blocked (.cons hl hz) hpre hlatch hsince fun e'' he'' => hno e'' ?_
    simp only [List.mem_append, List.mem_cons] at he'' ⊢
    tauto

/-- Both nodes just activated, and a NORMAL left in flight. -/
def freshLink : SafetyLink ℚ where
  safety := (SafetyNode.events ℚ).final SafetyNode.construct [.configure 1 (3 / 10), .activate]
  mux := TwistMuxNode.configured.activated 11
  muxStates := []
  safetyStates := [SafetyStateMsg.normal]

theorem freshLink_bothActive : BothActive freshLink :=
  ⟨⟨_, (SafetyNode.events ℚ).run_trace SafetyNode.construct [.configure 1 (3 / 10), .activate]
    (by decide +kernel)⟩, by decide +kernel, ⟨_, _, [], .nil _⟩⟩

/-- FDIR latches the e-stop, the next tick of the multiplexer has it published, the stale NORMAL and
the EMERGENCY arrive, and FDIR is content again. -/
def fdirLatch : List (LinkEvent ℚ) :=
  [.safety (.healthState FdirState.stateEmergency), .mux (.controlLoop 11), .deliverMuxState,
    .deliverSafetyState 11, .deliverSafetyState 11, .mux (.fdirState 12 FdirState.stateSoftwareOk)]

theorem estop_agreement_fdirLatch :
    (events.final freshLink fdirLatch).mux.node.isEstopBlocked =
        (events.final freshLink fdirLatch).safety.eStopActive ∧
      (events.final freshLink fdirLatch).safety.eStopActive = true ∧
      ∀ e ∈ (events.trace freshLink fdirLatch).drop 4, e.post.mux.node.isEstopBlocked = true ∧
        e.post.mux.node.isSafetyBlocked = true := by
  have hlen : (events.trace freshLink fdirLatch).length = 6 := by decide +kernel
  have hrun := events.run_trace freshLink fdirLatch (by decide +kernel)
  obtain ⟨hagree, hblock⟩ := estop_agreement freshLink_bothActive hrun
  have hreported : Reported (events.trace freshLink fdirLatch) := by
    refine ⟨(events.trace freshLink fdirLatch).take 2, (events.trace freshLink fdirLatch)[2],
      (events.trace freshLink fdirLatch).drop 3, ?_, by decide +kernel +revert, by decide +kernel⟩
    rw [List.getElem_cons_drop, List.take_append_drop]
  refine ⟨hagree hreported ⟨by decide +kernel, by decide +kernel⟩, by decide +kernel, ?_⟩
  rw [← List.getElem_cons_drop (by omega)]
  refine hblock [] (events.trace freshLink fdirLatch)[0]
    (((events.trace freshLink fdirLatch).drop 1).take 3) _ _ [] ?_ (by decide +kernel +revert)
    ⟨⟨11, by decide +kernel +revert⟩, by decide +kernel +revert⟩ (by decide +kernel +revert)
  have hcut : (events.trace freshLink fdirLatch).drop 4 =
      ((events.trace freshLink fdirLatch).drop 1).drop 3 := by rw [List.drop_drop]
  rw [List.append_nil, List.getElem_cons_drop, hcut, List.take_append_drop, List.nil_append,
    List.getElem_cons_drop, List.drop_zero]

end SafetyLink

end MonaRobot
