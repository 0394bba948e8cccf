import MonaRobot.System.DriveLink

/-!
# Smooth restart

The multiplexer ramps what it publishes, and the safety node passes it on or stops. What is passed
one after the other was published one after the other, so it stays on the ramp (`ramp_run`,
`Channel.related_of_chain`). After a stop of the safety node's own the next velocity may be
anywhere: the filter of the multiplexer may not have stopped at all (a SYSTEM_STARTUP stops the
safety node only), or not for long enough, and there may be old velocities in flight. Nothing else
breaks the ramp (`smooth_run_iff`).

So the ramp holds if the multiplexer coasts enough before it publishes the velocity with which the
motors start again (`Decayed`). `smooth_run` states it by the ticks that coast, whatever the
commands are, and that it is needed when they are of full speed.
-/

namespace MonaRobot

open Reactive

namespace DriveLink

variable {α L : ℚ} {x y : DriveLink ℚ} {tr : List (DriveStep ℚ)} {e : DriveStep ℚ}

/-- A command that the multiplexer stores in the step is within `L`. -/
def CommandWithin (L : ℚ) (e : DriveStep ℚ) : Prop :=
  match e.input with
  | .link (.mux i) =>
    TwistMuxNode.StoresWithin L ⟨e.pre.link.mux, i, e.output.mux, e.post.link.mux⟩
  | _ => True

instance (L : ℚ) (e : DriveStep ℚ) : Decidable (CommandWithin L e) :=
  match e with
  | ⟨_, .link (.mux _), _, _⟩ => inferInstanceAs (Decidable (TwistMuxNode.StoresWithin _ _))
  | ⟨_, .link (.safety _), _, _⟩ | ⟨_, .link .deliverMuxState, _, _⟩
  | ⟨_, .link (.deliverSafetyState _), _, _⟩ | ⟨_, .link (.loseMuxStates _), _, _⟩
  | ⟨_, .link (.loseSafetyStates _), _, _⟩ | ⟨_, .fdirState _, _, _⟩ | ⟨_, .deliverCmdVel, _, _⟩
  | ⟨_, .deliverMuxHealth _, _, _⟩ | ⟨_, .deliverSafetyHealth, _, _⟩ =>
    inferInstanceAs (Decidable True)

/-- Both nodes are active, with the speed limit `L` in both modes, and the multiplexer has the
filter weight `α` and has stored only commands within `L`. -/
structure Driving (α L : ℚ) (x : DriveLink ℚ) : Prop where
  active : SafetyLink.BothActive x.link
  driven : TwistMuxNode.Driven L x.link.mux
  rated : TwistMuxNode.Rated α L x.link.mux.node
  maxSpeedNormal : x.link.safety.maxSpeedNormal = L
  maxSpeedDegraded : x.link.safety.maxSpeedDegraded = L

theorem Driving.currentLimit (h : Driving α L x) : x.link.safety.currentLimit = L := by
  unfold SafetyNode.currentLimit
  split_ifs
  · exact h.maxSpeedDegraded
  · exact h.maxSpeedNormal

/-- The bounds on the targets of the ticks in a step. -/
def targetBounds (L : ℚ) (e : DriveStep ℚ) : List ℚ :=
  match e.input with
  | .link (.mux i) => e.pre.link.mux.node.targetBound L i
  | _ => []

/-- The command that a tick selects in the step, if any, is zero or of the full speed `L`. -/
def FullSpeed (L : ℚ) (e : DriveStep ℚ) : Prop :=
  match e.input with
  | .link (.mux i) => e.pre.link.mux.node.FullSpeed L i
  | _ => True

instance (L : ℚ) (e : DriveStep ℚ) : Decidable (FullSpeed L e) :=
  match e with
  | ⟨_, .link (.mux _), _, _⟩ => inferInstanceAs (Decidable (TwistMuxNode.FullSpeed _ _ _))
  | ⟨_, .link (.safety _), _, _⟩ | ⟨_, .link .deliverMuxState, _, _⟩
  | ⟨_, .link (.deliverSafetyState _), _, _⟩ | ⟨_, .link (.loseMuxStates _), _, _⟩
  | ⟨_, .link (.loseSafetyStates _), _, _⟩ | ⟨_, .fdirState _, _, _⟩ | ⟨_, .deliverCmdVel, _, _⟩
  | ⟨_, .deliverMuxHealth _, _, _⟩ | ⟨_, .deliverSafetyHealth, _, _⟩ =>
    inferInstanceAs (Decidable True)

/-- What a step is for the multiplexer: nothing, or a step of its own that stores a command within
the limit, if any. -/
theorem mux_step (he : events.Takes e) (hcmd : CommandWithin L e) :
    (e.post.link.mux = e.pre.link.mux ∧ e.output.mux = [] ∧ targetBounds L e = []) ∨
    ∃ i, TwistMuxNode.events.Takes ⟨e.pre.link.mux, i, e.output.mux, e.post.link.mux⟩ ∧
      TwistMuxNode.StoresWithin L ⟨e.pre.link.mux, i, e.output.mux, e.post.link.mux⟩ ∧
      targetBounds L e = e.pre.link.mux.node.targetBound L i ∧
      (FullSpeed L e → e.pre.link.mux.node.FullSpeed L i) := by
  induction e, he using takes_rec with
  | link x i o l hi hl =>
    rcases SafetyLink.mux_step hl with ⟨hm, ho, hne⟩ | ⟨j, hm, hij | ⟨now, msg, hin, rfl⟩⟩
    · refine Or.inl ⟨hm, ho, ?_⟩
      cases i with
      | mux j => exact absurd rfl (hne j)
      | _ => rfl
    · obtain rfl : i = .mux j := hij
      exact Or.inr ⟨j, hm, hcmd, rfl, id⟩
    · obtain rfl : i = .deliverSafetyState now := hin
      refine Or.inr ⟨_, hm, ?_, rfl, fun _ => trivial⟩
      exact TwistMuxNode.storesWithin_of_not_command (by simp) (by simp)
  | fdirState x msg => exact Or.inl ⟨rfl, rfl, rfl⟩
  | deliverMuxHealth x now msg rest o l hq hl =>
    rcases SafetyLink.mux_step hl with ⟨-, -, hne⟩ | ⟨j, hm, hij | ⟨now', msg', hin, -⟩⟩
    · exact absurd rfl (hne _)
    · obtain rfl := LinkEvent.mux.inj hij
      refine Or.inr ⟨_, hm, ?_, rfl, fun _ => trivial⟩
      exact TwistMuxNode.storesWithin_of_not_command (by simp) (by simp)
    · cases hin
  | deliverCmdVel x msg rest o l hq hl =>
    rcases SafetyLink.mux_step hl with ⟨hm, ho, -⟩ | ⟨j, hm, hij | ⟨now, msg', hin, -⟩⟩
    · exact Or.inl ⟨hm, ho, rfl⟩
    · cases hij
    · cases hin
  | deliverSafetyHealth x msg rest o l hq hl =>
    rcases SafetyLink.mux_step hl with ⟨hm, ho, -⟩ | ⟨j, hm, hij | ⟨now, msg', hin, -⟩⟩
    · exact Or.inl ⟨hm, ho, rfl⟩
    · cases hij
    · cases hin

theorem driving_step (he : events.Takes e) (hcmd : CommandWithin L e) (h : Driving α L e.pre) :
    Driving α L e.post := by
  have hmux : TwistMuxNode.Driven L e.post.link.mux ∧ TwistMuxNode.Rated α L e.post.link.mux.node := by
    rcases mux_step he hcmd with ⟨hm, -⟩ | ⟨i, hm, hstores, -⟩
    · rw [hm]
      exact ⟨h.driven, h.rated⟩
    · exact ⟨TwistMuxNode.driven_step hm hstores h.driven, TwistMuxNode.rated_step hm h.rated⟩
  obtain ⟨hdriven, hrated⟩ := hmux
  rcases link_step he with ⟨hlink, -⟩ | ⟨i, hl, -⟩
  · exact ⟨hlink ▸ h.active, hdriven, hrated, hlink ▸ h.maxSpeedNormal, hlink ▸ h.maxSpeedDegraded⟩
  have hactive := SafetyLink.bothActive_step hl h.active
  rcases SafetyLink.safety_step hl with ⟨hs, -, -⟩ | ⟨j, hs, hj⟩
  · refine ⟨hactive, hdriven, hrated, ?_, ?_⟩
    · exact (congrArg SafetyNode.maxSpeedNormal hs).trans h.maxSpeedNormal
    · exact (congrArg SafetyNode.maxSpeedDegraded hs).trans h.maxSpeedDegraded
  · have hno : ∀ n d, j ≠ .configure n d := by
      rintro n d rfl
      rcases hj with ⟨hj, -⟩ | ⟨⟨msg, hj⟩, -⟩ <;> cases hj
    obtain ⟨hn, hd⟩ := SafetyNode.limits_eq hs hno
    exact ⟨hactive, hdriven, hrated, hn.trans h.maxSpeedNormal, hd.trans h.maxSpeedDegraded⟩

theorem driving_run (h : events.Run x tr y) (hx : Driving α L x)
    (hcmd : ∀ e ∈ tr, CommandWithin L e) : Driving α L y :=
  h.invariant_under hx hcmd fun _ he hc hpre => driving_step he hc hpre

/-! ## The ramp of the multiplexer -/

/-- The velocities `sofar` are a ramp within `L` that ends with the filter of the multiplexer. -/
structure Ramped (α L : ℚ) (sofar : List (Twist ℚ)) (x : DriveLink ℚ) : Prop where
  chain : List.IsChain (Twist.RisesAtMost (α * L)) sofar
  within : ∀ v ∈ sofar, v.Within L
  last : ∀ v ∈ sofar.getLast?, v = x.link.mux.node.currentVel

theorem ramped_nil (α L : ℚ) (x : DriveLink ℚ) : Ramped α L [] x :=
  ⟨.nil, by simp, by simp⟩

/-- The filter goes on by one value. -/
theorem Ramped.concat {sofar : List (Twist ℚ)} (h : Ramped α L sofar x)
    (hrise : Twist.RisesAtMost (α * L) x.link.mux.node.currentVel y.link.mux.node.currentVel)
    (hwithin : y.link.mux.node.currentVel.Within L) :
    Ramped α L (sofar ++ [y.link.mux.node.currentVel]) y where
  chain := by
    refine List.isChain_append.2 ⟨h.chain, .singleton _, fun v hv w hw => ?_⟩
    obtain rfl : y.link.mux.node.currentVel = w := by simpa using hw
    rw [h.last v hv]
    exact hrise
  within v hv := by
    rcases List.mem_append.1 hv with hv | hv
    · exact h.within v hv
    · rw [List.mem_singleton.1 hv]
      exact hwithin
  last v hv := by simpa using hv.symm

/-- What a step publishes on `cmd_vel_smoothed`: nothing, or the next value of the filter. -/
theorem ramp_step (h₀ : 0 ≤ α) (h₁ : α ≤ 1) (hL : 0 ≤ L) (he : events.Takes e)
    (hcmd : CommandWithin L e) (hdriving : Driving α L e.pre) :
    (targetBounds L e = [] ∧ (velocities ℚ).sent e = [] ∧
      e.post.link.mux.node.currentVel = e.pre.link.mux.node.currentVel) ∨
    ∃ T, targetBounds L e = [T] ∧
      (velocities ℚ).sent e = [e.post.link.mux.node.currentVel] ∧
      Twist.RisesAtMost (α * L) e.pre.link.mux.node.currentVel e.post.link.mux.node.currentVel ∧
      e.post.link.mux.node.currentVel.Within L ∧
      ∀ B, e.pre.link.mux.node.currentVel.Within B →
        e.post.link.mux.node.currentVel.Within (SaturatedFilter.bound α T B) := by
  rcases mux_step he hcmd with ⟨hm, ho, hnone⟩ | ⟨i, hm, -, hticks, -⟩
  · refine Or.inl ⟨hnone, ?_, by rw [hm]⟩
    simp [velocities, ho, TwistMuxNode.cmdVels]
  · rw [hticks]
    exact TwistMuxNode.ramp_step h₀ h₁ hL hm hdriving.driven hdriving.rated

theorem ramped_step {sofar : List (Twist ℚ)} (h₀ : 0 ≤ α) (h₁ : α ≤ 1) (hL : 0 ≤ L)
    (he : events.Takes e) (hcmd : CommandWithin L e) (hdriving : Driving α L e.pre)
    (h : Ramped α L sofar e.pre) : Ramped α L (sofar ++ (velocities ℚ).sent e) e.post := by
  rcases ramp_step h₀ h₁ hL he hcmd hdriving with
    ⟨-, hsent, hvel⟩ | ⟨T, -, hsent, hrise, hwithin, -⟩
  · rw [hsent, List.append_nil]
    exact ⟨h.chain, h.within, hvel ▸ h.last⟩
  · rw [hsent]
    exact h.concat hrise hwithin

/-- What is in flight at the start and all that is published over a run is one ramp. -/
theorem ramp_run (h₀ : 0 ≤ α) (h₁ : α ≤ 1) (hL : 0 ≤ L) (h : events.Run x tr y)
    (hx : Driving α L x) (hflight : Ramped α L x.cmdVels x) (hcmd : ∀ e ∈ tr, CommandWithin L e) :
    Ramped α L (x.cmdVels ++ tr.flatMap (velocities ℚ).sent) y := by
  have hrun := h.history (H := fun tr y => (∀ e ∈ tr, CommandWithin L e) →
    Ramped α L (x.cmdVels ++ tr.flatMap (velocities ℚ).sent) y)
    (fun _ => by simpa using hflight) fun past e hpast he hpre hall => ?_
  · exact hrun hcmd
  · obtain ⟨hall, hlast⟩ := List.forall_mem_append.1 hall
    rw [List.flatMap_append, List.flatMap_singleton, ← List.append_assoc]
    exact ramped_step h₀ h₁ hL he (hlast e (by simp)) (driving_run hpast hx hall) (hpre hall)

/-! ## Bounds on the filter -/

/-- The relation holds between each velocity published in the history and its bound, and between the
filter and the last bound, which is `b` at the start. -/
structure Tracks (R : Twist ℚ → ℚ → Prop) (α L b : ℚ) (past : List (DriveStep ℚ))
    (y : DriveLink ℚ) : Prop where
  published : List.Forall₂ R (past.flatMap (velocities ℚ).sent)
    (SaturatedFilter.bounds α b (past.flatMap (targetBounds L)))
  current : R y.link.mux.node.currentVel
    ((SaturatedFilter.bounds α b (past.flatMap (targetBounds L))).getLastD b)

theorem tracks_step {R : Twist ℚ → ℚ → Prop} {b : ℚ} {past : List (DriveStep ℚ)} (h₀ : 0 ≤ α)
    (h₁ : α ≤ 1) (hL : 0 ≤ L) (he : events.Takes e) (hcmd : CommandWithin L e)
    (hdriving : Driving α L e.pre)
    (hR : ∀ T B, targetBounds L e = [T] → R e.pre.link.mux.node.currentVel B →
      R e.post.link.mux.node.currentVel (SaturatedFilter.bound α T B))
    (h : Tracks R α L b past e.pre) : Tracks R α L b (past ++ [e]) e.post := by
  obtain ⟨hpublished, hcurrent⟩ := h
  rcases ramp_step h₀ h₁ hL he hcmd hdriving with ⟨hnone, hsent, hvel⟩ | ⟨T, hT, hsent, -⟩
  · refine ⟨?_, ?_⟩
    · simpa [hnone, hsent] using hpublished
    · simpa [hnone, hvel] using hcurrent
  · have hnext := hR T _ hT hcurrent
    constructor
    · rw [List.flatMap_append, List.flatMap_append, List.flatMap_singleton, List.flatMap_singleton,
        hT, hsent, SaturatedFilter.bounds_concat]
      exact List.rel_append hpublished (.cons hnext .nil)
    · rw [List.flatMap_append, List.flatMap_singleton, hT, SaturatedFilter.bounds_concat,
        List.getLastD_concat]
      exact hnext

theorem tracks_run {R : Twist ℚ → ℚ → Prop} {b : ℚ} (h₀ : 0 ≤ α) (h₁ : α ≤ 1) (hL : 0 ≤ L)
    (h : events.Run x tr y) (hx : Driving α L x) (hcmd : ∀ e ∈ tr, CommandWithin L e)
    (hR : ∀ e ∈ tr, events.Takes e → Driving α L e.pre → ∀ T B, targetBounds L e = [T] →
      R e.pre.link.mux.node.currentVel B →
        R e.post.link.mux.node.currentVel (SaturatedFilter.bound α T B))
    (hstart : R x.link.mux.node.currentVel b) : Tracks R α L b tr y := by
  have hrun := h.history (H := fun past y => (∀ e ∈ past, e ∈ tr) → Tracks R α L b past y)
    (fun _ => ⟨.nil, hstart⟩) fun past e hpast he hpre hall => ?_
  · exact hrun fun _ h => h
  · obtain ⟨hall, hlast⟩ := List.forall_mem_append.1 hall
    have hmem : e ∈ tr := hlast e (by simp)
    have hdriving := driving_run hpast hx fun e' he' => hcmd e' (hall e' he')
    exact tracks_step h₀ h₁ hL he (hcmd e hmem) hdriving (hR e hmem he hdriving) (hpre hall)

/-- Commands within the limit keep the filter within its bounds. -/
theorem within_run {b : ℚ} (h₀ : 0 ≤ α) (h₁ : α ≤ 1) (hL : 0 ≤ L) (h : events.Run x tr y)
    (hx : Driving α L x) (hcmd : ∀ e ∈ tr, CommandWithin L e)
    (hstart : x.link.mux.node.currentVel.Within b) :
    Tracks (fun v B => v.Within B) α L b tr y := by
  refine tracks_run h₀ h₁ hL h hx hcmd (fun e he htakes hdriving T B hT hB => ?_) hstart
  rcases ramp_step h₀ h₁ hL htakes (hcmd e he) hdriving with ⟨hnone, -⟩ | ⟨T', hT', -, -, -, hnext⟩
  · rw [hnone] at hT
    cases hT
  · obtain rfl : T' = T := List.singleton_injective (hT'.symm.trans hT)
    exact hnext B hB

/-- And commands of full speed along one axis attain them. -/
theorem attained_run {b : ℚ} (h₀ : 0 ≤ α) (h₁ : α ≤ 1) (h : events.Run x tr y)
    (hx : Driving α L x) (hcmd : ∀ e ∈ tr, CommandWithin L e) (hfull : ∀ e ∈ tr, FullSpeed L e)
    (hstart : x.link.mux.node.currentVel.linear.x = b) (hb : 0 ≤ b) (hbL : b ≤ L) :
    Tracks (fun v B => v.linear.x = B ∧ 0 ≤ B ∧ B ≤ L) α L b tr y := by
  have hL : 0 ≤ L := hb.trans hbL
  refine tracks_run h₀ h₁ hL h hx hcmd ?_ ⟨hstart, hb, hbL⟩
  rintro e he htakes hdriving T B hT ⟨rfl, hlow, hhigh⟩
  rcases mux_step htakes (hcmd e he) with ⟨-, -, hnone⟩ | ⟨i, hm, -, hticks, hspeed⟩
  · rw [hnone] at hT
    cases hT
  · obtain ⟨hnext, hlow', hhigh'⟩ := TwistMuxNode.fullSpeed_step h₀ h₁ hm hdriving.driven
      hdriving.rated (hspeed (hfull e he)) (hticks.symm.trans hT) ⟨hlow, hhigh⟩
    exact ⟨hnext, hnext ▸ hlow', hnext ▸ hhigh'⟩

/-! ## What the safety node passes -/

/-- Since its last stop, if any, the last motor command is the last velocity that was delivered;
right after a stop it is a stop. -/
structure Followed (past : List (DriveStep ℚ)) : Prop where
  passed : Answered Passes Stops past →
    lastOut motorCmds past = lastOut (velocities ℚ).left past
  stopped : ¬ Answered Passes Stops past → lastOut motorCmds past = some 0

theorem followed_step {past : List (DriveStep ℚ)} (h : Followed past) (hcmds : Commands e)
    (hclip : ∀ msg ∈ e.pre.cmdVels.head?,
      SafetyNode.clip e.pre.link.safety.currentLimit msg = msg) : Followed (past ++ [e]) := by
  cases hcmds with
  | passes msg hp hs hhead hleft hsends =>
    rw [hclip msg hhead] at hsends
    constructor
    · intro _
      rw [lastOut_concat, lastOut_concat, hsends, hleft]
      rfl
    · intro hno
      exact absurd (answered_concat.2 ⟨hs, Or.inl hp⟩) hno
  | stops hp hs hsends =>
    constructor
    · intro hans
      exact absurd hs (answered_concat.1 hans).1
    · intro _
      rw [lastOut_concat, hsends]
      rfl
  | silent hp hs hleft hsends =>
    have hans : Answered Passes Stops (past ++ [e]) ↔ Answered Passes Stops past := by
      rw [answered_concat]
      exact ⟨fun h => h.2.resolve_left hp, fun h => ⟨hs, Or.inr h⟩⟩
    constructor
    · rw [hans, lastOut_concat, lastOut_concat, hsends, hleft]
      exact h.passed
    · rw [hans, lastOut_concat, hsends]
      exact h.stopped

/-- What is in flight is within the limit. -/
theorem inFlight_within (h : events.Run x tr y)
    (hramp : Ramped α L (x.cmdVels ++ tr.flatMap (velocities ℚ).sent) y) :
    ∀ msg ∈ y.cmdVels, msg.Within L := by
  intro msg hmsg
  have hall : msg ∈ tr.flatMap (velocities ℚ).left ++ (velocities ℚ).queue y :=
    List.mem_append_right _ hmsg
  rw [(velocities ℚ).left_append_queue h] at hall
  exact hramp.within msg hall

theorem followed_run (h₀ : 0 ≤ α) (h₁ : α ≤ 1) (hL : 0 ≤ L) (h : events.Run x tr y)
    (hx : Driving α L x) (hflight : Ramped α L x.cmdVels x) (hcmd : ∀ e ∈ tr, CommandWithin L e) :
    Followed tr := by
  have hrun := h.history (H := fun tr _ => (∀ e ∈ tr, CommandWithin L e) → Followed tr)
    (fun _ => ⟨fun _ => rfl, fun hno => absurd trivial hno⟩) fun past e hpast he hpre hall => ?_
  · exact hrun hcmd
  · have hpastcmd := (List.forall_mem_append.1 hall).1
    have hdriving := driving_run hpast hx hpastcmd
    have hramp := ramp_run h₀ h₁ hL hpast hx hflight hpastcmd
    refine followed_step (hpre hpastcmd) (commands he hdriving.active) fun msg hmsg => ?_
    rw [hdriving.currentLimit]
    exact SafetyNode.clip_of_within
      (inFlight_within hpast hramp msg (List.mem_of_mem_head? hmsg))

/-! ## Whole runs -/

/-- The step passes the first velocity after a stop of the safety node's own. -/
def Resumes (past : List (DriveStep ℚ)) (e : DriveStep ℚ) : Prop :=
  Passes e ∧ ¬ Answered Passes Stops past

/-- The next velocity to be delivered is within `b`. -/
def HeadWithin (b : ℚ) (x : DriveLink ℚ) : Prop := ∀ msg ∈ x.cmdVels.head?, msg.Within b

instance (past : List (DriveStep ℚ)) (e : DriveStep ℚ) : Decidable (Resumes past e) :=
  inferInstanceAs (Decidable (_ ∧ ¬ _))

instance (b : ℚ) (x : DriveLink ℚ) : Decidable (HeadWithin b x) :=
  inferInstanceAs (Decidable (∀ msg ∈ _, _))

/-- **Smooth restart.** In a run of the two active nodes, consecutive motor commands never rise by
more than `2 * α * L`, if and only if each velocity that is passed right after a stop of the safety
node's own is within `2 * α * L`. -/
theorem smooth_run_iff (h₀ : 0 ≤ α) (h₁ : α ≤ 1) (hL : 0 ≤ L) (hx : Driving α L x)
    (hflight : Ramped α L x.cmdVels x) (h : events.Run x tr y)
    (hcmd : ∀ e ∈ tr, CommandWithin L e) :
    List.IsChain (Twist.RisesAtMost (2 * α * L)) (tr.flatMap motorCmds) ↔
      Throughout (fun past e => Resumes past e → HeadWithin (2 * α * L) e.pre) tr := by
  rw [isChain_flatMap_iff]
  refine h.throughout_congr hcmd fun past e hpast he hpastcmd _ => ?_
  have hbound : 0 ≤ α * L := mul_nonneg h₀ hL
  have hdriving := driving_run hpast hx hpastcmd
  have hramp := ramp_run h₀ h₁ hL hpast hx hflight hpastcmd
  obtain ⟨hpassed, hstopped⟩ := followed_run h₀ h₁ hL hpast hx hflight hpastcmd
  cases commands he hdriving.active with
  | silent hp hs hleft hsends =>
    rw [hsends]
    exact iff_of_true ⟨.nil, by simp⟩ fun hr => absurd hr.1 hp
  | stops hp hs hsends =>
    rw [hsends]
    refine iff_of_true ⟨.singleton _, fun m _ m' hm' => ?_⟩ fun hr => absurd hr.1 hp
    obtain rfl : 0 = m' := by simpa using hm'
    exact Twist.risesAtMost_stop (by linarith) m
  | passes msg hp hs hhead hleft hsends =>
    have hwithin : msg.Within L :=
      inFlight_within hpast hramp msg (List.mem_of_mem_head? hhead)
    rw [hsends, hdriving.currentLimit, SafetyNode.clip_of_within hwithin]
    have hnext : (List.IsChain (Twist.RisesAtMost (2 * α * L)) [msg] ∧ ∀ m ∈ lastOut motorCmds past,
        ∀ m' ∈ [msg].head?, Twist.RisesAtMost (2 * α * L) m m') ↔
          ∀ m ∈ lastOut motorCmds past, Twist.RisesAtMost (2 * α * L) m msg := by
      simp
    rw [hnext]
    by_cases hans : Answered Passes Stops past
    · -- the velocity before this one was passed too
      rw [hpassed hans]
      refine iff_of_true (fun m hm => ?_) fun hr => absurd hans hr.2
      exact ((velocities ℚ).related_of_chain hpast hramp.chain m hm msg hhead).mono (by linarith)
    · rw [hstopped hans]
      constructor
      · rintro hrise - m hm
        obtain rfl : msg = m := Option.some.inj (hhead.symm.trans hm)
        exact Twist.risesAtMost_zero_iff.1 (hrise 0 rfl)
      · intro hgentle m hm
        obtain rfl : 0 = m := Option.some.inj hm
        exact Twist.risesAtMost_zero_iff.2 (hgentle ⟨hp, hans⟩ msg hhead)

/-- The bound on the next velocity to be delivered, by its place among those in flight at the start,
of which only the limit is known, and those published since. -/
def headBound (α L b : ℚ) (x : DriveLink ℚ) (past : List (DriveStep ℚ)) : Option ℚ :=
  (x.cmdVels.map (fun _ => L) ++
    SaturatedFilter.bounds α b (past.flatMap (targetBounds L)))[(velocities ℚ).gone past]?

/-- The multiplexer has coasted enough before it published the next velocity to be delivered: with
every tick that coasts the bound of its filter falls by the factor `1 - α`, with every other one it
becomes the average with `L`. -/
def Decayed (α L b : ℚ) (x : DriveLink ℚ) (past : List (DriveStep ℚ)) : Prop :=
  ∀ B ∈ headBound α L b x past, B ≤ 2 * α * L

instance (α L b : ℚ) (x : DriveLink ℚ) (past : List (DriveStep ℚ)) :
    Decidable (Decayed α L b x past) := inferInstanceAs (Decidable (∀ B ∈ _, _))

/-- The next velocity to be delivered is within its bound. -/
theorem head_within {b : ℚ} (h₀ : 0 ≤ α) (h₁ : α ≤ 1) (hL : 0 ≤ L) (hx : Driving α L x)
    (hflight : Ramped α L x.cmdVels x) (hstart : x.link.mux.node.currentVel.Within b)
    (h : events.Run x tr y) (hcmd : ∀ e ∈ tr, CommandWithin L e) :
    Option.Rel (fun v B => Twist.Within B v) y.cmdVels.head? (headBound α L b x tr) := by
  have hlimit : List.Forall₂ (fun v B => Twist.Within B v) x.cmdVels
      (x.cmdVels.map fun _ => L) := by
    rw [List.forall₂_map_right_iff, List.forall₂_same]
    exact hflight.within
  have hbounds := (within_run h₀ h₁ hL h hx hcmd hstart).published
  exact (velocities ℚ).head?_related h (List.rel_append hlimit hbounds)

/-- At full speed it attains its bound. -/
theorem head_attained {b : ℚ} (h₀ : 0 ≤ α) (h₁ : α ≤ 1) (hx : Driving α L x)
    (hempty : x.cmdVels = []) (hstart : x.link.mux.node.currentVel.linear.x = b) (hb : 0 ≤ b)
    (hbL : b ≤ L) (h : events.Run x tr y) (hcmd : ∀ e ∈ tr, CommandWithin L e)
    (hfull : ∀ e ∈ tr, FullSpeed L e) :
    Option.Rel (fun v B => v.linear.x = B ∧ 0 ≤ B ∧ B ≤ L) y.cmdVels.head?
      (headBound α L b x tr) := by
  have hattained := (attained_run h₀ h₁ h hx hcmd hfull hstart hb hbL).published
  refine (velocities ℚ).head?_related h (List.rel_append ?_ hattained)
  rw [show (velocities ℚ).queue x = [] from hempty, hempty]
  exact .nil

/-- **Smooth restart, by its causes.** In a run of the two active nodes, consecutive motor commands
never rise by more than `2 * α * L` if before each restart of the motors the multiplexer has coasted
enough; and if all its commands are of full speed, only then. -/
theorem smooth_run {b : ℚ} (h₀ : 0 ≤ α) (h₁ : α ≤ 1) (hL : 0 ≤ L) (hx : Driving α L x)
    (hflight : Ramped α L x.cmdVels x) (hstart : x.link.mux.node.currentVel.Within b)
    (h : events.Run x tr y) (hcmd : ∀ e ∈ tr, CommandWithin L e) :
    (Throughout (fun past e => Resumes past e → Decayed α L b x past) tr →
      List.IsChain (Twist.RisesAtMost (2 * α * L)) (tr.flatMap motorCmds)) ∧
    (x.cmdVels = [] → x.link.mux.node.currentVel.linear.x = b → b ≤ L →
      (∀ e ∈ tr, FullSpeed L e) →
      List.IsChain (Twist.RisesAtMost (2 * α * L)) (tr.flatMap motorCmds) →
      Throughout (fun past e => Resumes past e → Decayed α L b x past) tr) := by
  rw [smooth_run_iff h₀ h₁ hL hx hflight h hcmd]
  constructor
  · rintro hdecayed past e rest rfl hresumes msg hmsg
    obtain ⟨hpast, -, -⟩ := h.around
    have hbounded := head_within h₀ h₁ hL hx hflight hstart hpast
      fun e' he' => hcmd e' (List.mem_append_left _ he')
    rw [Option.mem_def.1 hmsg] at hbounded
    generalize hB : headBound α L b x past = o at hbounded
    cases hbounded with
    | some hwithin => exact hwithin.mono (hdecayed past e rest rfl hresumes _ hB)
  · rintro hempty hb hbL hfull hgentle past e rest rfl hresumes B hB
    obtain ⟨hpast, -, -⟩ := h.around
    have hattained := head_attained h₀ h₁ hx hempty hb ((abs_nonneg _).trans hstart.1) hbL hpast
      (fun e' he' => hcmd e' (List.mem_append_left _ he'))
      fun e' he' => hfull e' (List.mem_append_left _ he')
    rw [Option.mem_def.1 hB] at hattained
    generalize hmsg : e.pre.cmdVels.head? = o at hattained
    cases hattained with
    | @some msg _ hfast =>
      calc B = msg.linear.x := hfast.1.symm
        _ ≤ |msg.linear.x| := le_abs_self _
        _ ≤ 2 * α * L := (hgentle past e rest rfl hresumes msg hmsg).1

/-- Both nodes just activated, with the limit 1 in both modes. -/
def freshDrive : DriveLink ℚ where
  link :=
    { safety := (SafetyNode.events ℚ).final SafetyNode.construct [.configure 1 1, .activate]
      mux := ((TwistMuxNode.construct 0).onConfigure { maxSpeedDegraded := 1 }).activated 0
      muxStates := []
      safetyStates := [] }
  cmdVels := []
  muxHealth := []
  safetyHealth := []

theorem freshDrive_driving : Driving (1 / 10) 1 freshDrive where
  active := ⟨⟨_, (SafetyNode.events ℚ).run_trace SafetyNode.construct [.configure 1 1, .activate]
    (by decide +kernel)⟩, by decide +kernel, ⟨_, _, [], .nil _⟩⟩
  driven := TwistMuxNode.driven_activated (MuxLifecycle.inactive_onConfigure _) 0
  rated := ⟨rfl, rfl, rfl⟩
  maxSpeedNormal := by decide +kernel
  maxSpeedDegraded := by decide +kernel

/-- A protective stop of both nodes soon after the start of a drive, and its continuation. The
filter starts at zero, so it need not coast for long. -/
def earlyStop : List (DriveEvent ℚ) :=
  [.link (.mux (.teleop 1 true ⟨⟨1, 0, 0⟩, 0⟩)), .link (.mux (.controlLoop 1)), .deliverCmdVel,
    .fdirState FdirState.stateProtectiveStop, .deliverSafetyHealth, .deliverMuxHealth 1,
    .link (.mux (.controlLoop 1)), .deliverCmdVel, .fdirState FdirState.stateSoftwareOk,
    .deliverSafetyHealth, .deliverMuxHealth 2, .link (.mux (.teleop 2 true ⟨⟨1, 0, 0⟩, 0⟩)),
    .link (.mux (.controlLoop 2)), .deliverCmdVel]

/-- The operator holds the stick while the system starts up: the safety node stops, and the
multiplexer accelerates. -/
def startupDrive : List (DriveEvent ℚ) :=
  [.fdirState FdirState.stateSystemStartup, .deliverSafetyHealth, .deliverMuxHealth 1,
    .link (.mux (.teleop 1 true ⟨⟨1, 0, 0⟩, 0⟩)), .link (.mux (.controlLoop 1)), .deliverCmdVel,
    .link (.mux (.controlLoop 1)), .deliverCmdVel, .link (.mux (.controlLoop 1)), .deliverCmdVel,
    .fdirState FdirState.stateSoftwareOk, .deliverSafetyHealth, .deliverMuxHealth 1,
    .link (.mux (.controlLoop 1)), .deliverCmdVel]

/-- The first drive starts again on the ramp, the second one does not. -/
theorem smooth_run_restarts :
    (events.trace freshDrive earlyStop).length = 14 ∧
    List.IsChain (Twist.RisesAtMost (2 * (1 / 10) * 1))
      ((events.trace freshDrive earlyStop).flatMap motorCmds) ∧
    ¬ List.IsChain (Twist.RisesAtMost (2 * (1 / 10) * 1))
      ((events.trace freshDrive startupDrive).flatMap motorCmds) := by
  have hstart : freshDrive.link.mux.node.currentVel.Within 0 := by decide +kernel
  have hearly := smooth_run (by decide +kernel) (by decide +kernel) (by decide +kernel)
    freshDrive_driving (ramped_nil _ _ _) hstart
    (events.run_trace freshDrive earlyStop (by decide +kernel)) (by decide +kernel)
  have hstartup := smooth_run (by decide +kernel) (by decide +kernel) (by decide +kernel)
    freshDrive_driving (ramped_nil _ _ _) hstart
    (events.run_trace freshDrive startupDrive (by decide +kernel)) (by decide +kernel)
  refine ⟨by decide +kernel, hearly.1 (by decide +kernel), fun hgentle => ?_⟩
  exact absurd (hstartup.2 rfl rfl (by decide +kernel) (by decide +kernel) hgentle)
    (by decide +kernel)

/-- With the end of the startup the motors get a step. -/
theorem startupDrive_jumps :
    Driving (1 / 10) 1 freshDrive ∧ freshDrive.cmdVels = [] ∧
    events.Run freshDrive (events.trace freshDrive startupDrive)
      (events.final freshDrive startupDrive) ∧
    (∀ e ∈ events.trace freshDrive startupDrive, CommandWithin 1 e) ∧
    ¬ List.IsChain (Twist.RisesAtMost (2 * (1 / 10) * 1))
      ((events.trace freshDrive startupDrive).flatMap motorCmds) ∧
    (events.trace freshDrive startupDrive).flatMap motorCmds =
      [0, 0, 0, 0, ⟨⟨3439 / 10000, 0, 0⟩, 0⟩] :=
  ⟨freshDrive_driving, rfl, events.run_trace _ _ (by decide +kernel), by decide +kernel,
    by decide +kernel, by decide +kernel⟩

end DriveLink

end MonaRobot
