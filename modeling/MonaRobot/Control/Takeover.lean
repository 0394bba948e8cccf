import MonaRobot.Control.Blocking

/-!
# Manual takeover

`teleop_callback` decides whether to cancel the Nav2 goal from the mode alone. The mode says
`AUTONOMOUS` only as long as no tick replaces it: after a pause it is `IDLE`, after a stop `BLOCKED`,
and the goal is still active. `Forgets` is such a tick. A goal is pending exactly if the mode is
`AUTONOMOUS` or was forgotten (`Remembers`), so the takeovers cancel what is pending exactly if none
comes between a forgetting tick and the next accepted nav command (`takeover_run_iff`).
-/

namespace MonaRobot

open Reactive

namespace TwistMuxNode

variable {V : Type}

/-- The step requests the cancellation of all goals. -/
def Cancels (e : MuxStep V) : Prop := .cancelAllGoals ∈ e.output

/-- A tick that replaces the mode `AUTONOMOUS` by `BLOCKED` or `IDLE`. -/
def Forgets (e : MuxStep V) : Prop :=
  match e.input with
  | .controlLoop now => e.pre.node.smoothPub.isActivated = true ∧
      e.pre.node.currentState = .autonomous ∧
      (e.pre.node.isSafetyBlocked = true ∨ e.pre.node.Silent now)
  | _ => False

/-- The action server is ready when `teleop_callback` asks for it. -/
def ServerReady (e : MuxStep V) : Prop :=
  match e.input with
  | .teleop _ ready _ => ready = true
  | _ => True

/-- A nav command was accepted since the last cancel request. -/
def GoalPending (past : List (MuxStep V)) : Prop := ¬ Answered Cancels AcceptsNav past

instance [DecidableEq V] : DecidablePred (Cancels (V := V)) := fun e =>
  inferInstanceAs (Decidable (_ ∈ e.output))

instance : DecidablePred (Forgets (V := V)) := fun e =>
  match e with
  | ⟨_, .controlLoop _, _, _⟩ => inferInstanceAs (Decidable (_ ∧ _ ∧ (_ ∨ _)))
  | ⟨_, .teleop .., _, _⟩ | ⟨_, .nav .., _, _⟩ | ⟨_, .fdirState .., _, _⟩
  | ⟨_, .safetyState .., _, _⟩ => inferInstanceAs (Decidable False)

instance : DecidablePred (ServerReady (V := V)) := fun e =>
  match e with
  | ⟨_, .teleop .., _, _⟩ => inferInstanceAs (Decidable (_ = _))
  | ⟨_, .nav .., _, _⟩ | ⟨_, .fdirState .., _, _⟩ | ⟨_, .safetyState .., _, _⟩
  | ⟨_, .controlLoop _, _, _⟩ => inferInstanceAs (Decidable True)

instance [DecidableEq V] (past : List (MuxStep V)) : Decidable (GoalPending past) :=
  inferInstanceAs (Decidable (¬ Answered Cancels AcceptsNav past))

variable [VelocityScalar V]

/-! ## What a step does to the mode and the goal -/

/-- The steps of a node with a ready action server, by what they do to the mode `AUTONOMOUS`. -/
inductive Routes (e : MuxStep V) : Prop
  | keeps (_ : ¬ TakesOver e) (_ : ¬ AcceptsNav e) (_ : ¬ Cancels e) (_ : ¬ Forgets e)
      (_ : e.post.node.currentState = .autonomous ↔ e.pre.node.currentState = .autonomous)
  | takesOver (_ : ¬ AcceptsNav e) (_ : ¬ Forgets e)
      (_ : Cancels e ↔ e.pre.node.currentState = .autonomous)
      (_ : e.post.node.currentState ≠ .autonomous)
  | acceptsNav (_ : ¬ TakesOver e) (_ : AcceptsNav e) (_ : ¬ Forgets e)
      (_ : e.post.node.currentState = .autonomous)
  | forgets (_ : ¬ TakesOver e) (_ : ¬ AcceptsNav e) (_ : ¬ Cancels e) (_ : Forgets e)
      (_ : e.pre.node.currentState = .autonomous) (_ : e.post.node.currentState ≠ .autonomous)

theorem routes_teleop {x : Clocked (TwistMuxNode V)} {now : Time} {msg : Twist V}
    (hn : x.node.navClient = true) : Routes ⟨x, .teleop now true msg,
      (x.node.teleopCallback now true msg).2, ⟨now, (x.node.teleopCallback now true msg).1⟩⟩ := by
  by_cases hl : x.node.listens = true
  swap
  · exact .keeps (fun ht => hl ht.1) id (by simp [Cancels, teleopCallback, hl]) id
      (by simp [teleopCallback, hl])
  by_cases hz : isZeroCmd msg = true
  · refine .keeps (fun ht => ?_) id (by simp [Cancels, teleopCallback, acceptTeleop, hl, hz]) id
      (by simp [teleopCallback, acceptTeleop, hl, hz])
    exact absurd (hz.symm.trans ht.2) (by decide)
  · exact .takesOver id id (by simp [Cancels, teleopCallback, acceptTeleop, hl, hz, hn])
      (by simp [teleopCallback, acceptTeleop, hl, hz])

theorem routes {e : MuxStep V} (he : events.Takes e) (hr : ServerReady e)
    (hp : e.pre.node.smoothPub.isActivated = true) (hn : e.pre.node.navClient = true) :
    Routes e := by
  induction e, he using takes_rec with
  | teleop x now ready msg hnow =>
    obtain rfl : ready = true := hr
    exact routes_teleop hn
  | nav x stamp now msg hstamp hnow =>
    rcases x.node.navCallback_cases stamp now msg with ⟨hl, hs⟩ | ⟨-, hlock, hs⟩ | ⟨hl, hold, hs⟩
    · refine .keeps id (fun ha => ?_) (by simp [Cancels]) id (by rw [hs])
      exact absurd (hl.symm.trans ha.1) Bool.false_ne_true
    · exact .keeps id (fun ha => not_lt.2 ha.2 hlock) (by simp [Cancels]) id (by rw [hs])
    · exact .acceptsNav id ⟨hl, hold⟩ id (by rw [hs])
  | fdirState x now msg hnow => exact .keeps id id (by simp [Cancels]) id Iff.rfl
  | safetyState x now msg hnow => exact .keeps id id (by simp [Cancels]) id Iff.rfl
  | controlLoop x now s o hnow htick =>
    rcases controlLoop_cases htick with ⟨hp', -⟩ | ⟨-, r, hr', rfl, rfl⟩
    · exact absurd (hp'.symm.trans hp) Bool.false_ne_true
    have hcancels : ¬ Cancels (V := V) ⟨x, .controlLoop now,
        r.publishState ++ [.cmdVelSmoothed r.filterVelocity.currentVel], ⟨now, r.filterVelocity⟩⟩ := by
      unfold Cancels publishState
      split_ifs <;> simp
    -- a tick that replaces the mode: it matters only if it was `AUTONOMOUS`
    have hleaves : x.node.isSafetyBlocked = true ∨ x.node.Silent now →
        r.currentState ≠ .autonomous → Routes ⟨x, .controlLoop now,
          r.publishState ++ [.cmdVelSmoothed r.filterVelocity.currentVel],
          ⟨now, r.filterVelocity⟩⟩ := by
      intro hwhy hpost
      by_cases hm : x.node.currentState = .autonomous
      · exact .forgets id id hcancels ⟨hp, hm, hwhy⟩ hm hpost
      · exact .keeps id id hcancels (fun hf => hm hf.2.1) (iff_of_false hpost hm)
    rcases selectTarget_cases hr' with ⟨hb, rfl⟩ | ⟨-, hs, rfl⟩ | ⟨hb, hs, hm, rfl⟩ | ⟨hb, hs, hm, rfl⟩
    · exact hleaves (Or.inl hb) (by simp)
    · exact hleaves (Or.inr hs) (by simp)
    · refine .keeps id id hcancels (fun hf => ?_) Iff.rfl
      exact absurd (hm.symm.trans hf.2.1) (by simp)
    · refine .keeps id id hcancels (fun hf => ?_) Iff.rfl
      exact hf.2.2.elim (fun hb' => absurd (hb.symm.trans hb') Bool.false_ne_true) hs

/-! ## Whole runs -/

/-- A goal is pending exactly if the mode says so or a tick has replaced it since. -/
structure Remembers (past : List (MuxStep V)) (s : TwistMuxNode V) : Prop where
  pending : GoalPending past ↔
    s.currentState = .autonomous ∨ ¬ Answered AcceptsNav Forgets past
  forgotten : ¬ Answered AcceptsNav Forgets past → s.currentState ≠ .autonomous

theorem remembers_step {past : List (MuxStep V)} {e : MuxStep V} (h : Remembers past e.pre.node)
    (he : Routes e) : Remembers (past ++ [e]) e.post.node := by
  obtain ⟨hpending, hforgotten⟩ := h
  unfold GoalPending at hpending
  cases he with
  | keeps _ hnav hcancels hforgets hmode =>
    constructor
    · rw [GoalPending, answered_concat, answered_concat, hmode]
      simpa only [hnav, hcancels, hforgets, not_false_eq_true, true_and, false_or] using hpending
    · rw [answered_concat, Ne, hmode]
      simpa only [hnav, hforgets, not_false_eq_true, true_and, false_or] using hforgotten
  | takesOver hnav hforgets hcancels hpost =>
    constructor
    · rw [GoalPending, answered_concat, answered_concat, hcancels]
      simp only [hnav, hforgets, hpost, not_false_eq_true, true_and, false_or, not_or]
      constructor
      · rintro ⟨hpre, hnone⟩
        exact (hpending.1 hnone).resolve_left hpre
      · intro hlost
        exact ⟨hforgotten hlost, hpending.2 (Or.inr hlost)⟩
    · exact fun _ => hpost
  | acceptsNav _ hnav hforgets hpost =>
    constructor
    · rw [GoalPending, answered_concat, answered_concat]
      simp only [hnav, hpost, not_true_eq_false, false_and, not_false_eq_true, true_or]
    · rw [answered_concat]
      exact fun hlost => absurd ⟨hforgets, Or.inl hnav⟩ hlost
  | forgets _ hnav hcancels hforgets hpre hpost =>
    constructor
    · rw [GoalPending, answered_concat, answered_concat]
      simp only [hnav, hcancels, hforgets, hpost, not_false_eq_true, not_true_eq_false, true_and,
        false_and, false_or, iff_true]
      exact hpending.2 (Or.inl hpre)
    · exact fun _ => hpost

theorem routes_run {x : Clocked (TwistMuxNode V)} {now : Time} {tr : List (MuxStep V)}
    {t : Clocked (TwistMuxNode V)} (hx : MuxLifecycle.Inactive x)
    (h : events.Run (x.node.activated now) tr t) (hready : ∀ e ∈ tr, ServerReady e) :
    Remembers tr t.node := by
  have hrun := h.history
    (H := fun tr t => (∀ e ∈ tr, ServerReady e) → Remembers tr t.node) (fun _ => ⟨?_, ?_⟩)
    fun past e hpast he hpre hall => ?_
  · exact hrun hready
  · simp [GoalPending, Answered, activated, onActivate]
  · simp [Answered]
  · obtain ⟨hp, hn⟩ := activated_run hx hpast
    exact remembers_step (hpre fun e' he' => hall e' (List.mem_append_left _ he'))
      (routes he (hall e (by simp)) hp hn)

/-- **Takeovers cancel.** In a run of an activated node with a ready action server, every takeover
with a pending goal cancels it, if and only if no takeover comes after a tick that replaced the mode
`AUTONOMOUS`, without another nav command accepted in between. -/
theorem takeover_run_iff {x : Clocked (TwistMuxNode V)} {now : Time} {tr : List (MuxStep V)}
    {t : Clocked (TwistMuxNode V)} (hx : MuxLifecycle.Inactive x)
    (h : events.Run (x.node.activated now) tr t) (hready : ∀ e ∈ tr, ServerReady e) :
    Throughout (fun past e => TakesOver e → GoalPending past → Cancels e) tr ↔
      Throughout (fun past e => TakesOver e → Answered AcceptsNav Forgets past) tr := by
  refine h.throughout_congr hready fun past e hpast he hall hlast => ?_
  obtain ⟨hpending, hforgotten⟩ := routes_run hx hpast hall
  obtain ⟨hp, hn⟩ := activated_run hx hpast
  cases routes he hlast hp hn with
  | takesOver _ _ hcancels _ =>
    refine imp_congr_right fun _ => ?_
    rw [hcancels, hpending]
    constructor
    · intro hcancel
      by_contra hlost
      exact hforgotten hlost (hcancel (Or.inr hlost))
    · intro hkept hgoal
      exact hgoal.resolve_right fun hlost => hlost hkept
  | keeps htakes | acceptsNav htakes | forgets htakes =>
    exact iff_of_true (fun ht => absurd ht htakes) fun ht => absurd ht htakes

/-- A goal is cancelled by a takeover; after the lockout there is another one, and it is cancelled
again. -/
def cancelledGoals : List (MuxEvent ℚ) :=
  [.nav 1 1 ⟨⟨1, 0, 0⟩, 0⟩, .controlLoop 1, .teleop 1 true ⟨⟨0, 1, 0⟩, 0⟩, .controlLoop 2,
    .nav 4 4 ⟨⟨1, 0, 0⟩, 0⟩, .teleop 4 true ⟨⟨0, 1, 0⟩, 0⟩]

theorem takeover_run_cancelledGoals :
    (events.trace (configured.activated 0) cancelledGoals).length = 6 ∧
    Throughout (fun past e => TakesOver e → GoalPending past → Cancels e)
      (events.trace (configured.activated 0) cancelledGoals) :=
  ⟨by decide +kernel, (takeover_run_iff MuxLifecycle.inactive_configured
    (events.run_trace _ _ (by decide +kernel)) (by decide +kernel)).2 (by decide +kernel)⟩

/-- A nav command, a pause longer than `command_timeout`, and a teleop command. -/
def pausedGoal : List (MuxEvent ℚ) :=
  [.nav 1 1 ⟨⟨1, 0, 0⟩, 0⟩, .controlLoop 1, .controlLoop 2, .teleop 3 true ⟨⟨0, 1, 0⟩, 0⟩]

/-- The takeover does not cancel the goal. -/
theorem pausedGoal_not_cancelled :
    MuxLifecycle.Inactive ⟨0, configured⟩ ∧
    events.Run (configured.activated 0) (events.trace (configured.activated 0) pausedGoal)
      (events.final (configured.activated 0) pausedGoal) ∧
    (∀ e ∈ events.trace (configured.activated 0) pausedGoal, ServerReady e) ∧
    ¬ Throughout (fun past e => TakesOver e → GoalPending past → Cancels e)
      (events.trace (configured.activated 0) pausedGoal) :=
  ⟨MuxLifecycle.inactive_configured, events.run_trace _ _ (by decide +kernel), by decide +kernel,
    by decide +kernel⟩

end TwistMuxNode

end MonaRobot
