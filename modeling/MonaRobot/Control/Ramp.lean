import MonaRobot.Control.Blocking
import MonaRobot.Control.Convergence

/-!
# The ramp of the filter

With commands within the speed limit `L`, every velocity of the multiplexer is within `L` too, and
no component of it is more than `α * L` above the same component of the velocity before it. A tick
that finds the node blocked, its sources silent, or a zero command to route, coasts: its target is
zero. So the ticks that coast bound the filter, whatever the other ticks route.

`ramp_step` is what a step of a driven node does.
-/

namespace MonaRobot

open Reactive

namespace TwistMuxNode

open SaturatedFilter

/-- The parameters of the filter: its weight, and one speed limit for both modes. -/
structure Rated (α L : ℚ) (s : TwistMuxNode ℚ) : Prop where
  emaAlpha : s.emaAlpha = α
  maxSpeedNormal : s.maxSpeedNormal = L
  maxSpeedDegraded : s.maxSpeedDegraded = L

section Filter

variable {α L : ℚ} {s : TwistMuxNode ℚ}

theorem Rated.currentMaxSpeed (h : Rated α L s) : s.currentMaxSpeed = L := by
  unfold TwistMuxNode.currentMaxSpeed
  split_ifs
  · exact h.maxSpeedDegraded
  · exact h.maxSpeedNormal

theorem Rated.smooth_eq (h : Rated α L s) (hL : 0 ≤ L) (target current : ℚ) :
    s.smooth target current = filter α L target current := by
  rw [smooth_eq_filter (hL.trans_eq h.currentMaxSpeed.symm), h.emaAlpha, h.currentMaxSpeed]

/-- A target within `L` raises the magnitude by `α * L` at most. -/
theorem abs_filter_sub_le (h₀ : 0 ≤ α) (h₁ : α ≤ 1) (hL : 0 ≤ L) {target : ℚ} (ht : |target| ≤ L)
    (current : ℚ) : |filter α L target current| - |current| ≤ α * L := by
  have hbound : |filter α L target current| ≤ α * L + (1 - α) * |current| :=
    abs_filter_le_bound h₀ h₁ hL ht le_rfl
  have hmemory : 0 ≤ α * |current| := mul_nonneg h₀ (abs_nonneg current)
  linarith

end Filter

/-! ## Ticks that coast -/

/-- A tick at `now` finds no command to route but zero. -/
def Coasts (s : TwistMuxNode ℚ) (now : Time) : Prop := ∀ msg, s.Selects now msg → msg = 0

/-- What holds of the command that a tick selects, if any. -/
theorem forall_selects_iff {s : TwistMuxNode ℚ} {now : Time} {p : Twist ℚ → Prop} :
    (∀ msg, s.Selects now msg → p msg) ↔ s.isSafetyBlocked = true ∨ s.Silent now ∨
      (s.currentState = .manual → p s.lastTeleopMsg) ∧
      (s.currentState = .autonomous → p s.lastNavMsg) := by
  constructor
  · intro h
    by_cases hb : s.isSafetyBlocked = true
    · exact Or.inl hb
    by_cases hs : s.Silent now
    · exact Or.inr (Or.inl hs)
    have hb' : s.isSafetyBlocked = false := Bool.eq_false_iff.2 hb
    exact Or.inr (Or.inr ⟨fun hm => h _ ⟨hb', hs, Or.inl ⟨hm, rfl⟩⟩,
      fun hm => h _ ⟨hb', hs, Or.inr ⟨hm, rfl⟩⟩⟩)
  · rintro h msg ⟨hb, hs, hselected⟩
    obtain ⟨hteleop, hnav⟩ := (h.resolve_left (ne_true_of_eq_false hb)).resolve_left hs
    rcases hselected with ⟨hm, rfl⟩ | ⟨hm, rfl⟩
    · exact hteleop hm
    · exact hnav hm

instance (s : TwistMuxNode ℚ) (now : Time) : Decidable (s.Coasts now) :=
  decidable_of_iff' _ forall_selects_iff

/-- What bounds the target of a tick, when commands are within `L`. -/
def targetBound (L : ℚ) (s : TwistMuxNode ℚ) : MuxEvent ℚ → List ℚ
  | .controlLoop now => [if s.Coasts now then 0 else L]
  | _ => []

/-! ## Runs of the activated node -/

section Run

variable {α L : ℚ} {e : MuxStep ℚ}

theorem rated_step (he : events.Takes e) (h : Rated α L e.pre.node) : Rated α L e.post.node := by
  obtain ⟨-, -, -, halpha, hnormal, hdegraded⟩ := handles_step he
  exact ⟨halpha.trans h.emaAlpha, hnormal.trans h.maxSpeedNormal, hdegraded.trans h.maxSpeedDegraded⟩

/-- The commands that the step stores are within `L`. -/
def StoresWithin (L : ℚ) (e : MuxStep ℚ) : Prop := ∀ msg, Stores e msg → msg.Within L

instance (L : ℚ) (e : MuxStep ℚ) : Decidable (StoresWithin L e) :=
  decidable_of_iff ((∀ p ∈ teleopStored e, p.2.Within L) ∧ ∀ p ∈ navStored e, p.2.Within L) <| by
    constructor
    · rintro ⟨hteleop, hnav⟩ msg ⟨t, h | h⟩
      · exact hteleop (t, msg) h
      · exact hnav (t, msg) h
    · intro h
      exact ⟨fun p hp => h p.2 ⟨p.1, Or.inl hp⟩, fun p hp => h p.2 ⟨p.1, Or.inr hp⟩⟩

/-- Messages that are no commands are not stored. -/
theorem storesWithin_of_not_command
    (hteleop : ∀ now ready msg, e.input ≠ .teleop now ready msg)
    (hnav : ∀ stamp now msg, e.input ≠ .nav stamp now msg) : StoresWithin L e := by
  rintro msg ⟨t, h⟩
  unfold teleopStored navStored at h
  cases hi : e.input with
  | teleop now ready m => exact absurd hi (hteleop now ready m)
  | nav stamp now m => exact absurd hi (hnav stamp now m)
  | _ => simp [hi] at h

/-- The node is active, and has stored only commands within `L` since its activation. -/
def Driven (L : ℚ) (x : Clocked (TwistMuxNode ℚ)) : Prop :=
  ∃ y now tr, MuxLifecycle.Inactive y ∧ events.Run (y.node.activated now) tr x ∧
    ∀ e ∈ tr, StoresWithin L e

theorem driven_activated {y : Clocked (TwistMuxNode ℚ)} (hy : MuxLifecycle.Inactive y) (now : Time) :
    Driven L (y.node.activated now) :=
  ⟨y, now, [], hy, .nil _, by simp⟩

theorem driven_step (he : events.Takes e) (hcmd : StoresWithin L e) (h : Driven L e.pre) :
    Driven L e.post := by
  obtain ⟨y, now, tr, hy, hrun, hall⟩ := h
  refine ⟨y, now, tr ++ [e], hy, hrun.trans (.single he), fun e' he' => ?_⟩
  rcases List.mem_append.1 he' with he' | he'
  · exact hall e' he'
  · rw [List.mem_singleton.1 he']
    exact hcmd

theorem Driven.isActivated {x : Clocked (TwistMuxNode ℚ)} (h : Driven L x) :
    x.node.smoothPub.isActivated = true := by
  obtain ⟨y, now, tr, hy, hrun, -⟩ := h
  exact (activated_run hy hrun).1

/-- Every tick of a driven node publishes. -/
theorem Driven.ticks (h : Driven L e.pre) {now : Time} (hin : e.input = .controlLoop now) :
    Ticks e := by
  obtain ⟨x, i, o, y⟩ := e
  obtain rfl : i = .controlLoop now := hin
  exact h.isActivated

/-- The ticks that coast are those with the target zero. -/
theorem coasts_iff (he : events.Takes e) (ht : Ticks e) {now : Time}
    (hin : e.input = .controlLoop now) : e.pre.node.Coasts now ↔ e.post.node.targetVel = 0 := by
  rcases tick_target he ht hin with ⟨hzero, hnone⟩ | hselects
  · exact iff_of_true (fun msg h => absurd h (hnone msg)) hzero
  · constructor
    · exact fun hcoasts => hcoasts _ ((hselects _).2 rfl)
    · exact fun hzero msg h => ((hselects msg).1 h).trans hzero

/-- The target of a tick is within `L`. -/
theorem target_within (hL : 0 ≤ L) (he : events.Takes e) (hdriven : Driven L e.pre) {now : Time}
    (hin : e.input = .controlLoop now) : e.post.node.targetVel.Within L := by
  have hactive := hdriven.isActivated
  obtain ⟨y, t₀, past, hy, hpast, hcmd⟩ := hdriven
  have hrefreshed : Refreshed past e.pre.node :=
    hpast.history (H := fun past x => Refreshed past x.node)
      (refreshed_nil (by simp [activated, onActivate, Routable])) fun _ _ _ ht hpre =>
      refreshed_step ht hpre
  obtain ⟨x, i, o, z⟩ := e
  obtain rfl : i = .controlLoop now := hin
  obtain ⟨-, htick, -⟩ := takes_iff.1 he
  rcases hrefreshed.target hactive htick with h | ⟨e', he', hstores⟩
  · rw [h]
    exact Twist.within_zero hL
  · exact hcmd e' he' _ hstores

/-- A tick is a step of the filter in each component. -/
theorem tick_eq_filter (hL : 0 ≤ L) (he : events.Takes e) (ht : Ticks e)
    (hrated : Rated α L e.pre.node) (a : Axis) : e.post.node.currentVel.component a =
      filter α L (e.post.node.targetVel.component a) (e.pre.node.currentVel.component a) := by
  rw [← (rated_step he hrated).smooth_eq hL]
  exact (tick_filters he ht a).2.2.2

/-- **The ramp.** A step of a driven node publishes no velocity and leaves the filter alone, or it
publishes the next value of the filter, on the ramp, within the limit, and within the bound that a
bound on the value before gives. -/
theorem ramp_step (h₀ : 0 ≤ α) (h₁ : α ≤ 1) (hL : 0 ≤ L) (he : events.Takes e)
    (hdriven : Driven L e.pre) (hrated : Rated α L e.pre.node) :
    (targetBound L e.pre.node e.input = [] ∧ cmdVels e.output = [] ∧
      e.post.node.currentVel = e.pre.node.currentVel) ∨
    ∃ T, targetBound L e.pre.node e.input = [T] ∧ cmdVels e.output = [e.post.node.currentVel] ∧
      Twist.RisesAtMost (α * L) e.pre.node.currentVel e.post.node.currentVel ∧
      e.post.node.currentVel.Within L ∧
      ∀ B, e.pre.node.currentVel.Within B → e.post.node.currentVel.Within (bound α T B) := by
  by_cases htick : ∃ now, e.input = .controlLoop now
  · obtain ⟨now, hin⟩ := htick
    have ht : Ticks e := hdriven.ticks hin
    have hfilter := tick_eq_filter hL he ht hrated
    have hlimit : ∀ a, |e.post.node.targetVel.component a| ≤ L :=
      Twist.within_iff.1 (target_within hL he hdriven hin)
    have htarget : ∀ a, |e.post.node.targetVel.component a| ≤
        if e.pre.node.Coasts now then 0 else L := by
      intro a
      split_ifs with hcoasts
      · rw [(coasts_iff he ht hin).1 hcoasts]
        exact Twist.within_iff.1 (Twist.within_zero le_rfl) a
      · exact hlimit a
    refine Or.inr ⟨_, by rw [hin]; rfl, (tick_filters he ht .linearX).1, ?_, ?_, fun B hB => ?_⟩
    · refine Twist.risesAtMost_iff.2 fun a => ?_
      rw [hfilter]
      exact abs_filter_sub_le h₀ h₁ hL (hlimit a) _
    · refine Twist.within_iff.2 fun a => ?_
      rw [hfilter]
      exact abs_filter_le hL _ _
    · refine Twist.within_iff.2 fun a => ?_
      rw [hfilter]
      exact abs_filter_le_bound h₀ h₁ hL (htarget a) (Twist.within_iff.1 hB a)
  · have hne : ∀ now, e.input ≠ .controlLoop now := fun now hi => htick ⟨now, hi⟩
    obtain ⟨x, i, o, y⟩ := e
    cases i with
    | controlLoop now => exact absurd rfl (hne now)
    | _ => exact Or.inl ⟨rfl, not_ticks he id⟩

/-- The command that a tick selects, if any, is zero or of the full speed `L`. -/
def FullSpeed (L : ℚ) (s : TwistMuxNode ℚ) : MuxEvent ℚ → Prop
  | .controlLoop now => ∀ msg, s.Selects now msg → msg = 0 ∨ msg.linear.x = L
  | _ => True

instance (L : ℚ) (s : TwistMuxNode ℚ) : DecidablePred (s.FullSpeed L)
  | .controlLoop _ => decidable_of_iff' _ (forall_selects_iff (p := fun _ => _ ∨ _))
  | .teleop .. | .nav .. | .fdirState .. | .safetyState .. => inferInstanceAs (Decidable True)

/-- Such a tick attains the bound. -/
theorem fullSpeed_step (h₀ : 0 ≤ α) (h₁ : α ≤ 1) (he : events.Takes e) (hdriven : Driven L e.pre)
    (hrated : Rated α L e.pre.node) (hfull : FullSpeed L e.pre.node e.input) {T : ℚ}
    (hT : targetBound L e.pre.node e.input = [T])
    (hvel : 0 ≤ e.pre.node.currentVel.linear.x ∧ e.pre.node.currentVel.linear.x ≤ L) :
    e.post.node.currentVel.linear.x = bound α T e.pre.node.currentVel.linear.x ∧
    0 ≤ e.post.node.currentVel.linear.x ∧ e.post.node.currentVel.linear.x ≤ L := by
  have hL : 0 ≤ L := hvel.1.trans hvel.2
  obtain ⟨now, hin⟩ : ∃ now, e.input = .controlLoop now := by
    cases hi : e.input with
    | controlLoop now => exact ⟨now, rfl⟩
    | _ => simp [hi, targetBound] at hT
  have ht : Ticks e := hdriven.ticks hin
  rw [hin] at hfull hT
  have htarget : e.post.node.targetVel.linear.x = T ∧ 0 ≤ T ∧ T ≤ L := by
    obtain rfl := List.singleton_injective hT
    rcases tick_target he ht hin with ⟨hzero, -⟩ | hselects
    · rw [if_pos ((coasts_iff he ht hin).2 hzero), hzero]
      exact ⟨rfl, le_rfl, hL⟩
    · by_cases hzero : e.post.node.targetVel = 0
      · rw [if_pos ((coasts_iff he ht hin).2 hzero), hzero]
        exact ⟨rfl, le_rfl, hL⟩
      · rw [if_neg fun hcoasts => hzero ((coasts_iff he ht hin).1 hcoasts)]
        exact ⟨(hfull _ ((hselects _).2 rfl)).resolve_left hzero, hL, le_rfl⟩
  obtain ⟨heq, hlow, hhigh⟩ := filter_eq_bound h₀ h₁ htarget.2 hvel
  have hfilter : e.post.node.currentVel.linear.x = filter α L T e.pre.node.currentVel.linear.x := by
    rw [← htarget.1]
    exact tick_eq_filter hL he ht hrated .linearX
  rw [hfilter, heq]
  exact ⟨rfl, hlow, hhigh⟩

end Run

end TwistMuxNode

end MonaRobot
