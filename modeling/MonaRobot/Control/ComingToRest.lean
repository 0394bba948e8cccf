import MonaRobot.Control.Blocking
import MonaRobot.Control.Convergence

/-!
# Blocked by the manager

A health message sets the flags of the multiplexer that follow it, and no other step does
(`followsHealth`): once an EMERGENCY is the last health processed, the manager blocks the node
whatever the safety node says, and whatever transitions it goes through (`fdirLocked_run`).

A blocked node takes no command (`blocked_step`), and its velocity decays by the factor
`1 - ema_alpha` with every message it sends (`rests_run`, `decays_run`).
-/

namespace MonaRobot

open Reactive

namespace MuxLifecycle

variable {e : LifecycleStep ℚ} {tr : List (LifecycleStep ℚ)} {x y : MuxLifecycle ℚ}

/-! ## The health flags of the multiplexer -/

/-- The health byte that a step processes. -/
def processed (e : LifecycleStep ℚ) : List UInt8 :=
  match e.input with
  | .mux (.fdirState now msg) => if e.pre.receives (.fdirState now msg) then [msg] else []
  | _ => []

/-- A step processes a health byte, or leaves the flags that follow the health; and then a block by
the manager stays merged. -/
inductive FollowsHealth (e : LifecycleStep ℚ) : Prop
  | processes (msg : UInt8) (_ : processed e = [msg])
      (_ : e.post.mux.node = e.pre.mux.node.fdirStateCallback msg)
  | keeps (_ : processed e = [])
      (_ : e.post.mux.node.isDegraded = e.pre.mux.node.isDegraded)
      (_ : e.post.mux.node.isFdirBlocked = e.pre.mux.node.isFdirBlocked)
      (_ : e.pre.mux.node.isFdirBlocked = true → e.pre.mux.node.isSafetyBlocked = true →
        e.post.mux.node.isSafetyBlocked = true)

theorem followsHealth (he : events.Takes e) : FollowsHealth e := by
  induction e, he using takes_rec with
  | skipped x i hi =>
    refine .keeps ?_ rfl rfl fun _ h => h
    cases i with
    | mux i =>
      cases i with
      | fdirState now msg => exact if_neg hi
      | _ => rfl
    | _ => rfl
  | mux x i o m hr hm =>
    cases i with
    | fdirState now msg =>
      obtain ⟨-, hhandle, -⟩ := TwistMuxNode.takes_iff.1 hm
      obtain ⟨hnode, -⟩ := Prod.mk.inj (Except.ok.inj hhandle)
      exact .processes msg (if_pos hr) hnode.symm
    | _ =>
      have hdegraded := TwistMuxNode.isDegraded_of_not_delivers hm (by rintro ⟨_, _, ⟨⟩⟩)
      rcases TwistMuxNode.blockFlags_step hm with ⟨_, _, hi, -⟩ | ⟨_, msg, -, hnode⟩ |
        ⟨-, hfdir, -, hsafety⟩
      · cases hi
      · refine .keeps rfl hdegraded (by rw [hnode]; rfl) fun hblocked _ => ?_
        rw [hnode]
        exact Bool.or_eq_true_iff.2 (Or.inl hblocked)
      · exact .keeps rfl hdegraded hfdir fun _ hblocked => hsafety.trans hblocked
  | _ => exact .keeps rfl rfl rfl fun _ h => h

/-- Without a health DEGRADED the node is never degraded. -/
theorem notDegraded_run {now : Time} (h : events.Run (construct now) tr x)
    (hall : ∀ b ∈ tr.flatMap processed, b ≠ FdirState.stateDegraded) :
    x.mux.node.isDegraded = false := by
  revert hall
  refine h.history (H := fun tr x => (∀ b ∈ tr.flatMap processed, b ≠ FdirState.stateDegraded) →
    x.mux.node.isDegraded = false) (fun _ => rfl) fun past e _ he hpre hall => ?_
  rw [List.flatMap_append, List.flatMap_singleton, List.forall_mem_append] at hall
  cases followsHealth he with
  | processes msg hp hnode =>
    rw [hnode]
    exact decide_eq_false (hall.2 msg (by simp [hp]))
  | keeps _ hsame => exact hsame.trans (hpre hall.1)

/-- The manager blocks the node, and the block is merged. -/
def FdirLocked (x : MuxLifecycle ℚ) : Prop :=
  x.mux.node.isFdirBlocked = true ∧ x.mux.node.isSafetyBlocked = true

theorem fdirLocked_step (he : events.Takes e)
    (hall : ∀ b ∈ processed e, b = FdirState.stateEmergency)
    (h : FdirLocked e.pre ∨ processed e ≠ []) : FdirLocked e.post := by
  cases followsHealth he with
  | processes msg hp hnode =>
    rw [FdirLocked, hnode, hall msg (by simp [hp])]
    exact ⟨rfl, rfl⟩
  | keeps hp _ hfdir hsafety =>
    obtain ⟨hblocked, hmerged⟩ := h.resolve_right fun hne => hne hp
    exact ⟨hfdir.trans hblocked, hsafety hblocked hmerged⟩

/-- Once an EMERGENCY was processed, and nothing else after it, the manager blocks the node. -/
theorem fdirLocked_run {now : Time} (h : events.Run (construct now) tr x)
    (hlatched : (tr.flatMap processed).Pairwise fun a b =>
      a = FdirState.stateEmergency → b = FdirState.stateEmergency)
    (hr : FdirState.stateEmergency ∈ tr.flatMap processed) : FdirLocked x := by
  revert hlatched hr
  refine h.history (H := fun tr x => (tr.flatMap processed).Pairwise (fun a b =>
    a = FdirState.stateEmergency → b = FdirState.stateEmergency) →
      FdirState.stateEmergency ∈ tr.flatMap processed → FdirLocked x)
    (fun _ hr => by cases hr) fun past e _ he hpre hlatched hr => ?_
  rw [List.flatMap_append, List.flatMap_singleton] at hlatched hr
  obtain ⟨hpast, -, hafter⟩ := List.pairwise_append.1 hlatched
  rcases List.mem_append.1 hr with hr | hr
  · exact fdirLocked_step he (fun b hb => hafter _ hr b hb rfl) (Or.inl (hpre hpast hr))
  · refine fdirLocked_step he (fun b hb => ?_) (Or.inr (List.ne_nil_of_mem hr))
    cases followsHealth he with
    | processes msg hp _ =>
      rw [hp, List.mem_singleton] at hb hr
      exact hb.trans hr.symm
    | keeps hp =>
      rw [hp] at hb
      cases hb

/-- While it is blocked a node takes no command, and the ticks that publish have the target zero. -/
theorem blocked_step (he : events.Takes e) (hb : e.pre.mux.node.isSafetyBlocked = true) :
    MuxOutput.cancelAllGoals ∉ e.output ∧
      (TwistMuxNode.cmdVels e.output ≠ [] → e.post.mux.node.targetVel = 0) := by
  induction e, he using takes_rec with
  | mux x i o m hr hm =>
    cases i with
    | teleop now ready msg =>
      obtain ⟨-, hout, -⟩ := TwistMuxNode.blockedCommand_idle hm ⟨hb, trivial⟩
      rw [show o = [] from hout]
      exact ⟨by simp, fun h => absurd rfl h⟩
    | controlLoop now =>
      obtain ⟨-, hhandle, -⟩ := TwistMuxNode.takes_iff.1 hm
      rcases TwistMuxNode.controlLoop_cases hhandle with ⟨-, -, hout⟩ | ⟨hp, r, -, -, hout⟩
      · rw [show o = [] from hout]
        exact ⟨by simp, fun h => absurd rfl h⟩
      · refine ⟨?_, fun _ => (TwistMuxNode.halted_of_blocked hhandle hp hb).2⟩
        rw [show o = _ from hout]
        unfold TwistMuxNode.publishState
        split_ifs <;> simp
    | _ =>
      obtain ⟨-, hhandle, -⟩ := TwistMuxNode.takes_iff.1 hm
      obtain ⟨-, hout⟩ := Prod.mk.inj (Except.ok.inj hhandle)
      rw [show o = [] from hout.symm]
      exact ⟨by simp, fun h => absurd rfl h⟩
  | _ => exact ⟨by simp, fun h => absurd rfl h⟩

/-! ## Coming to rest -/

/-- A step that reads new parameters. -/
def Reconfigures (e : LifecycleStep ℚ) : Prop :=
  match e.input with
  | .configure _ => True
  | _ => False

instance : DecidablePred Reconfigures := fun e =>
  match e with
  | ⟨_, .configure _, _, _⟩ => inferInstanceAs (Decidable True)
  | ⟨_, .activate _, _, _⟩ | ⟨_, .deactivate, _, _⟩ | ⟨_, .cleanup, _, _⟩
  | ⟨_, .shutdown, _, _⟩ | ⟨_, .mux _, _, _⟩ => inferInstanceAs (Decidable False)

/-- The velocities that a step publishes. -/
def velocities (e : LifecycleStep ℚ) : List (Twist ℚ) := TwistMuxNode.cmdVels e.output

/-- The parameters of the filter are in their ranges. -/
structure Tuned (x : MuxLifecycle ℚ) : Prop where
  nonneg : 0 ≤ x.mux.node.emaAlpha
  le_one : x.mux.node.emaAlpha ≤ 1
  normal : 0 ≤ x.mux.node.maxSpeedNormal
  degraded : 0 ≤ x.mux.node.maxSpeedDegraded

/-- Without new parameters a step keeps those of the filter. -/
theorem filter_step (he : events.Takes e) (hno : ¬ Reconfigures e) :
    e.post.mux.node.emaAlpha = e.pre.mux.node.emaAlpha ∧
      e.post.mux.node.maxSpeedNormal = e.pre.mux.node.maxSpeedNormal ∧
      e.post.mux.node.maxSpeedDegraded = e.pre.mux.node.maxSpeedDegraded := by
  induction e, he using takes_rec with
  | configure x params hl => exact absurd trivial hno
  | mux x i o m hr hm =>
    obtain ⟨-, -, -, halpha, hn, hd⟩ := TwistMuxNode.handles_step hm
    exact ⟨halpha, hn, hd⟩
  | _ => exact ⟨rfl, rfl, rfl⟩

theorem Tuned.step (h : Tuned e.pre) (he : events.Takes e) (hno : ¬ Reconfigures e) :
    Tuned e.post := by
  obtain ⟨halpha, hn, hd⟩ := filter_step he hno
  exact ⟨halpha ▸ h.nonneg, halpha ▸ h.le_one, hn ▸ h.normal, hd ▸ h.degraded⟩

/-- A step that publishes nothing, and leaves the velocity. -/
theorem rests_of_idle (hout : velocities e = [])
    (hsame : e.post.mux.node.currentVel = e.pre.mux.node.currentVel) (a : Axis) :
    SaturatedFilter.Approaches ((1 - e.pre.mux.node.emaAlpha) ^ (velocities e).length) 0
      (e.pre.mux.node.currentVel.component a) (e.post.mux.node.currentVel.component a) := by
  rw [hout, List.length_nil, pow_zero, hsame]
  exact .refl _ _

/-- A step of a blocked node brings its velocity closer to zero, by one factor for the message that
it publishes. -/
theorem rests_step (he : events.Takes e) (hb : e.pre.mux.node.isSafetyBlocked = true)
    (ht : Tuned e.pre) (hno : ¬ Reconfigures e) (a : Axis) :
    SaturatedFilter.Approaches ((1 - e.pre.mux.node.emaAlpha) ^ (velocities e).length) 0
      (e.pre.mux.node.currentVel.component a) (e.post.mux.node.currentVel.component a) := by
  have htarget := (blocked_step he hb).2
  have hpost := ht.step he hno
  induction e, he using takes_rec with
  | mux x i o m hr hm =>
    by_cases htick : TwistMuxNode.Ticks ⟨x.mux, i, o, m⟩
    · obtain ⟨hout, -⟩ := TwistMuxNode.tick_filters hm htick a
      have hvel : velocities ⟨x, .mux i, o, { x with mux := m }⟩ = [m.node.currentVel] := hout
      have hzero : m.node.targetVel = 0 := htarget (by rw [hout]; simp)
      have hL : 0 ≤ m.node.currentMaxSpeed := by
        unfold TwistMuxNode.currentMaxSpeed
        split_ifs
        · exact hpost.degraded
        · exact hpost.normal
      have hstep := TwistMuxNode.tick_approaches hm htick ht.nonneg ht.le_one hL a
      have hcomponent : (0 : Twist ℚ).component a = 0 := by cases a <;> rfl
      rw [hzero, hcomponent, SaturatedFilter.saturate_of_mem (neg_nonpos.2 hL) hL] at hstep
      rw [hvel, List.length_singleton, pow_one]
      exact hstep
    · obtain ⟨hout, hsame⟩ := TwistMuxNode.not_ticks hm htick
      exact rests_of_idle (e := ⟨x, .mux i, o, { x with mux := m }⟩) hout hsame a
  | _ => exact rests_of_idle rfl rfl a

/-- A step publishes no velocity, or the one in its state. -/
theorem velocities_cases (he : events.Takes e) :
    velocities e = [] ∨ velocities e = [e.post.mux.node.currentVel] := by
  induction e, he using takes_rec with
  | mux x i o m hr hm =>
    by_cases htick : TwistMuxNode.Ticks ⟨x.mux, i, o, m⟩
    · exact Or.inr (TwistMuxNode.tick_filters hm htick .linearX).1
    · exact Or.inl (TwistMuxNode.not_ticks hm htick).1
  | _ => exact Or.inl rfl

/-- A run of a blocked node. -/
theorem rests_run (h : events.Run x tr y)
    (hall : ∀ e ∈ tr, e.pre.mux.node.isSafetyBlocked = true ∧ ¬ Reconfigures e) (ht : Tuned x)
    (a : Axis) :
    SaturatedFilter.Approaches ((1 - x.mux.node.emaAlpha) ^ (tr.flatMap velocities).length) 0
      (x.mux.node.currentVel.component a) (y.mux.node.currentVel.component a) := by
  induction tr generalizing x with
  | nil =>
    rw [h.nil_inv]
    simpa using SaturatedFilter.Approaches.refl 0 (x.mux.node.currentVel.component a)
  | cons e tr ih =>
    obtain ⟨rfl, he, hrest⟩ := h.cons_inv
    obtain ⟨⟨hb, hno⟩, hall'⟩ := List.forall_mem_cons.1 hall
    have hlater := ih hrest hall' (ht.step he hno)
    rw [(filter_step he hno).1] at hlater
    rw [List.flatMap_cons, List.length_append, add_comm, pow_add]
    exact (rests_step he hb ht hno a).trans (pow_nonneg (sub_nonneg.2 ht.le_one) _) hlater

/-- The velocities that a blocked node publishes, one after the other. -/
theorem decays_run (h : events.Run x tr y)
    (hall : ∀ e ∈ tr, e.pre.mux.node.isSafetyBlocked = true ∧ ¬ Reconfigures e) (ht : Tuned x)
    (a : Axis) : ∀ (j : ℕ) (v : Twist ℚ), (tr.flatMap velocities)[j]? = some v →
      |v.component a| ≤
        (1 - x.mux.node.emaAlpha) ^ (j + 1) * |x.mux.node.currentVel.component a| := by
  revert hall
  refine h.history (H := fun tr _ => (∀ e ∈ tr, e.pre.mux.node.isSafetyBlocked = true ∧
    ¬ Reconfigures e) → ∀ (j : ℕ) (v : Twist ℚ), (tr.flatMap velocities)[j]? = some v →
      |v.component a| ≤ (1 - x.mux.node.emaAlpha) ^ (j + 1) * |x.mux.node.currentVel.component a|)
    (fun _ j v hv => by simp at hv) fun past e hpast he ih hall j v hv => ?_
  have hnear := (rests_run (hpast.trans (.single he)) hall ht a).near
  rw [List.forall_mem_append] at hall
  rw [List.flatMap_append, List.flatMap_singleton] at hv hnear
  rcases velocities_cases he with hnone | hone
  · rw [hnone, List.append_nil] at hv
    exact ih hall.1 j v hv
  · rw [hone] at hv hnear
    rcases Nat.lt_or_ge j (past.flatMap velocities).length with hj | hj
    · rw [List.getElem?_append_left hj] at hv
      exact ih hall.1 j v hv
    · -- the last one, which is in the state
      rw [List.getElem?_append_right hj, List.getElem?_singleton] at hv
      split_ifs at hv with hzero
      obtain rfl := Option.some.inj hv
      have hlen : (past.flatMap velocities).length = j := by omega
      rw [List.length_append, List.length_singleton, hlen, sub_zero, sub_zero] at hnear
      exact hnear

end MuxLifecycle

end MonaRobot
