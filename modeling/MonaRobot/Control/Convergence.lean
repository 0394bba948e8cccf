import MonaRobot.Control.MuxLifecycle
import MonaRobot.Foundations.SaturatedFilter

/-!
# Convergence of the filter

The ticks of the multiplexer are steps of a saturated filter (`smooth_eq_filter`): each moves a
component of `current_vel_` towards its target by the fraction `ema_alpha_`, and saturates it to the
limit in force. So while target and limit stay the same, the component approaches the saturated
target geometrically, whatever messages come in between, and does not cross it (`ema_convergence`).
-/

namespace MonaRobot

open Reactive

/-- On exact components `std::clamp` to `±L` is the saturation. -/
theorem clamp_eq_saturate {L : ℚ} (hL : 0 ≤ L) (v : ℚ) :
    clamp v (-L) L = SaturatedFilter.saturate L v := by
  rw [clamp_rat]
  split_ifs with h₁ h₂
  · rw [SaturatedFilter.saturate_of_le_neg hL h₁.le]
  · rw [SaturatedFilter.saturate_of_le hL h₂.le]
  · rw [SaturatedFilter.saturate_of_mem (not_lt.1 h₁) (not_lt.1 h₂)]

namespace TwistMuxNode

open SaturatedFilter

/-- The number of ticks in a history. -/
def tickCount (tr : List (MuxStep ℚ)) : ℕ := tr.countP fun e => decide (Ticks e)

/-- A step that delivers a health state. -/
def DeliversHealth (e : MuxStep ℚ) : Prop := ∃ now msg, e.input = .fdirState now msg

variable {e : MuxStep ℚ} {x y : Clocked (TwistMuxNode ℚ)} {tr : List (MuxStep ℚ)} {a : Axis}
  {g L α c : ℚ}

/-! ## One tick -/

theorem smooth_eq_filter {s : TwistMuxNode ℚ} (hL : 0 ≤ s.currentMaxSpeed) (target current : ℚ) :
    s.smooth target current = SaturatedFilter.filter s.emaAlpha s.currentMaxSpeed target current :=
  clamp_eq_saturate hL _

/-- Only a health state decides which limit is in force. -/
theorem isDegraded_of_not_delivers (he : events.Takes e) (hd : ¬ DeliversHealth e) :
    e.post.node.isDegraded = e.pre.node.isDegraded := by
  induction e, he using takes_rec with
  | teleop x now ready msg hnow =>
    rcases x.node.teleopCallback_cases now ready msg with ⟨-, h⟩ | ⟨-, -, h⟩ | ⟨-, -, h⟩ <;> rw [h]
  | nav x stamp now msg hstamp hnow =>
    rcases x.node.navCallback_cases stamp now msg with ⟨-, h⟩ | ⟨-, -, h⟩ | ⟨-, -, h⟩ <;> rw [h]
  | fdirState x now msg hnow => exact absurd ⟨now, msg, rfl⟩ hd
  | safetyState x now msg hnow => rfl
  | controlLoop x now s o hnow htick =>
    rcases controlLoop_cases htick with ⟨-, rfl, -⟩ | ⟨-, r, hr, rfl, -⟩
    · rfl
    · rcases selectTarget_cases hr with ⟨-, rfl⟩ | ⟨-, -, rfl⟩ | ⟨-, -, -, rfl⟩ | ⟨-, -, -, rfl⟩ <;>
        rfl

theorem isDegraded_of_delivers {now : Time} (he : events.Takes e)
    (hin : e.input = .fdirState now FdirState.stateDegraded) : e.post.node.isDegraded = true := by
  induction e, he using takes_rec with
  | fdirState x now' msg hnow =>
    obtain ⟨-, rfl⟩ := MuxEvent.fdirState.inj hin
    rfl
  | _ => cases hin

/-- A tick leaves the component within the limit in force. -/
theorem tick_within (he : events.Takes e) (ht : Ticks e) (hL : 0 ≤ e.post.node.currentMaxSpeed)
    (a : Axis) : |e.post.node.currentVel.component a| ≤ e.post.node.currentMaxSpeed := by
  obtain ⟨-, -, -, hvel⟩ := tick_filters he ht a
  rw [hvel, smooth_eq_filter hL]
  exact abs_filter_le hL _ _

/-- A tick approaches the saturated target. -/
theorem tick_approaches (he : events.Takes e) (ht : Ticks e) (h₀ : 0 ≤ e.pre.node.emaAlpha)
    (h₁ : e.pre.node.emaAlpha ≤ 1) (hL : 0 ≤ e.post.node.currentMaxSpeed) (a : Axis) :
    Approaches (1 - e.pre.node.emaAlpha)
      (saturate e.post.node.currentMaxSpeed (e.post.node.targetVel.component a))
      (e.pre.node.currentVel.component a) (e.post.node.currentVel.component a) := by
  obtain ⟨-, -, -, hvel⟩ := tick_filters he ht a
  obtain ⟨-, -, -, halpha, -⟩ := handles_step he
  rw [hvel, smooth_eq_filter hL, halpha]
  exact approaches_filter h₀ h₁ hL _ _

/-! ## Any number of ticks -/

theorem tickCount_concat (tr : List (MuxStep ℚ)) (e : MuxStep ℚ) :
    tickCount (tr ++ [e]) = tickCount tr + if Ticks e then 1 else 0 := by
  simp [tickCount, List.countP_append, List.countP_singleton]

/-- While every tick has the same saturated target, the component approaches it, by one factor for
each tick. -/
theorem approaches_run (h : events.Run x tr y) (h₀ : 0 ≤ x.node.emaAlpha)
    (h₁ : x.node.emaAlpha ≤ 1) (htick : ∀ e ∈ tr, Ticks e → 0 ≤ e.post.node.currentMaxSpeed ∧
      saturate e.post.node.currentMaxSpeed (e.post.node.targetVel.component a) = c) :
    Approaches ((1 - x.node.emaAlpha) ^ tickCount tr) c (x.node.currentVel.component a)
      (y.node.currentVel.component a) := by
  have hgoal := h.history (H := fun tr y => y.node.emaAlpha = x.node.emaAlpha ∧
    ((∀ e ∈ tr, Ticks e → 0 ≤ e.post.node.currentMaxSpeed ∧
      saturate e.post.node.currentMaxSpeed (e.post.node.targetVel.component a) = c) →
    Approaches ((1 - x.node.emaAlpha) ^ tickCount tr) c (x.node.currentVel.component a)
      (y.node.currentVel.component a))) ⟨rfl, fun _ => by simpa [tickCount] using Approaches.refl c _⟩ ?_
  · exact hgoal.2 htick
  rintro tr e - he ⟨hpre, ih⟩
  obtain ⟨-, -, -, halpha, -⟩ := handles_step he
  refine ⟨halpha.trans hpre, fun hall => ?_⟩
  rw [List.forall_mem_append, List.forall_mem_singleton] at hall
  obtain ⟨hpast, hlast⟩ := hall
  have hsofar := ih hpast
  rw [tickCount_concat]
  by_cases ht : Ticks e
  · obtain ⟨hL, hc⟩ := hlast ht
    have hstep := tick_approaches he ht (hpre ▸ h₀) (hpre ▸ h₁) hL a
    rw [hc, hpre] at hstep
    rw [if_pos ht, pow_succ']
    exact hsofar.trans (sub_nonneg.2 h₁) hstep
  · rw [if_neg ht, (not_ticks he ht).2]
    exact hsofar

/-- What holds of the component after every tick holds at the end, after at least one tick. -/
theorem within_run (h : events.Run x tr y)
    (htick : ∀ e ∈ tr, Ticks e → |e.post.node.currentVel.component a| ≤ L)
    (hn : 0 < tickCount tr) : |y.node.currentVel.component a| ≤ L := by
  have hgoal := h.history (H := fun tr y =>
    (∀ e ∈ tr, Ticks e → |e.post.node.currentVel.component a| ≤ L) → 0 < tickCount tr →
      |y.node.currentVel.component a| ≤ L) (fun _ h => absurd h (by simp [tickCount])) ?_
  · exact hgoal htick hn
  rintro tr e - he ih hall hn
  rw [List.forall_mem_append, List.forall_mem_singleton] at hall
  by_cases ht : Ticks e
  · exact hall.2 ht
  · rw [tickCount_concat, if_neg ht, add_zero] at hn
    rw [(not_ticks he ht).2]
    exact ih hall.1 hn

theorem limits_run (h : events.Run x tr y) : y.node.maxSpeedNormal = x.node.maxSpeedNormal ∧
    y.node.maxSpeedDegraded = x.node.maxSpeedDegraded := by
  refine h.invariant (I := fun y => y.node.maxSpeedNormal = x.node.maxSpeedNormal ∧
    y.node.maxSpeedDegraded = x.node.maxSpeedDegraded) ⟨rfl, rfl⟩ fun e he hpre => ?_
  obtain ⟨-, -, -, -, hn, hd⟩ := handles_step he
  exact ⟨hn.trans hpre.1, hd.trans hpre.2⟩

/-- With nonnegative parameters the limit in force is nonnegative. -/
theorem currentMaxSpeed_nonneg (h : events.Run x tr y) (hn : 0 ≤ x.node.maxSpeedNormal)
    (hd : 0 ≤ x.node.maxSpeedDegraded) : 0 ≤ y.node.currentMaxSpeed := by
  obtain ⟨hn', hd'⟩ := limits_run h
  unfold currentMaxSpeed
  split_ifs
  · rwa [hd']
  · rwa [hn']

/-- In the degraded mode, and until the next health state, the degraded limit is in force. -/
theorem degraded_run (h : events.Run x tr y) (hx : x.node.isDegraded = true)
    (hno : ∀ e ∈ tr, ¬ DeliversHealth e) :
    ∀ e ∈ tr, e.post.node.currentMaxSpeed = x.node.maxSpeedDegraded := by
  intro e he
  have hkept := h.latched (L := fun y => y.node.isDegraded = true ∧
    y.node.maxSpeedDegraded = x.node.maxSpeedDegraded) ⟨hx, rfl⟩ (fun e he hd hpre => ?_) hno e he
  · obtain ⟨-, hdegraded, hlimit⟩ := hkept
    rw [currentMaxSpeed, if_pos hdegraded, hlimit]
  · obtain ⟨-, -, -, -, -, hlimit⟩ := handles_step he
    exact ⟨(isDegraded_of_not_delivers he hd).trans hpre.1, hlimit.trans hpre.2⟩

/-! ## The convergence -/

/-- **The filter converges.** In every run with `0 ≤ ema_alpha ≤ 1`, for each driving component:
while the ticks have one target `g` and one limit `L`, the component approaches `g` clamped to `±L`
geometrically, does not cross it, and is within `L` from the first tick on. So while the ticks are
blocked or idle the speed decays geometrically and keeps its direction, under any limits, and from a
health DEGRADED on every tick publishes at most the degraded limit, until the next health state. -/
theorem ema_convergence (h : events.Run x tr y) (h₀ : 0 ≤ x.node.emaAlpha)
    (h₁ : x.node.emaAlpha ≤ 1) (a : Axis) :
    (∀ g L : ℚ, 0 ≤ L → (∀ e ∈ tr, Ticks e → e.post.node.targetVel.component a = g ∧
        e.post.node.currentMaxSpeed = L) →
      Approaches ((1 - x.node.emaAlpha) ^ tickCount tr) (clamp g (-L) L)
          (x.node.currentVel.component a) (y.node.currentVel.component a) ∧
        (0 < tickCount tr → |y.node.currentVel.component a| ≤ L)) ∧
    (0 ≤ x.node.maxSpeedNormal → 0 ≤ x.node.maxSpeedDegraded →
      ((∀ e ∈ tr, Ticks e →
          e.post.node.currentState = .blocked ∨ e.post.node.currentState = .idle) →
        Approaches ((1 - x.node.emaAlpha) ^ tickCount tr) 0
          (x.node.currentVel.component a) (y.node.currentVel.component a)) ∧
      ∀ past e now rest, tr = past ++ e :: rest →
        e.input = .fdirState now FdirState.stateDegraded → (∀ e' ∈ rest, ¬ DeliversHealth e') →
        ∀ e' ∈ rest, Ticks e' → cmdVels e'.output = [e'.post.node.currentVel] ∧
          |e'.post.node.currentVel.component a| ≤ x.node.maxSpeedDegraded) := by
  refine ⟨fun g L hL htick => ⟨?_, fun hn => ?_⟩, fun hn hd => ⟨fun hidle => ?_, ?_⟩⟩
  · refine approaches_run h h₀ h₁ fun e he ht => ?_
    obtain ⟨htarget, hlimit⟩ := htick e he ht
    rw [htarget, hlimit, clamp_eq_saturate hL]
    exact ⟨hL, rfl⟩
  · refine within_run h ?_ hn
    intro e he ht
    obtain ⟨-, hlimit⟩ := htick e he ht
    exact (tick_within (h.takes e he) ht (hlimit ▸ hL) a).trans_eq hlimit
  · refine approaches_run h h₀ h₁ fun e he ht => ?_
    obtain ⟨past, rest, rfl⟩ := List.append_of_mem he
    have hL := currentMaxSpeed_nonneg (h.around.1.trans (.single h.around.2.1)) hn hd
    obtain ⟨-, -, htarget, -⟩ := tick_filters (h.takes e he) ht a
    rw [htarget (hidle e he ht)]
    refine ⟨hL, ?_⟩
    have hzero : (0 : Twist ℚ).component a = 0 := by cases a <;> rfl
    rw [hzero, saturate_of_mem (neg_nonpos.2 hL) hL]
  · rintro past e now rest rfl hin hno e' he' ht
    obtain ⟨hpast, he, hrest⟩ := h.around
    obtain ⟨-, hlimit⟩ := limits_run (hpast.trans (.single he))
    have hforce := degraded_run hrest (isDegraded_of_delivers he hin) hno e' he'
    rw [hlimit] at hforce
    obtain ⟨hout, -⟩ := tick_filters (hrest.takes e' he') ht a
    exact ⟨hout, (tick_within (hrest.takes e' he') ht (hforce ▸ hd) a).trans_eq hforce⟩

/-- A command beyond the limit, and two ticks. -/
def rampUp : List (MuxEvent ℚ) :=
  [.teleop 0 false ⟨⟨5, 0, 0⟩, 0⟩, .controlLoop (1 / 100), .controlLoop (1 / 50)]

theorem ema_convergence_rampUp :
    Approaches ((1 - 1 / 10) ^ 2) 1 0
      ((events.final (configured.activated 0) rampUp).node.currentVel.component .linearX) := by
  have hrun := events.run_trace (configured.activated 0) rampUp (by decide +kernel)
  have hticks : tickCount (events.trace (configured.activated 0) rampUp) = 2 := by decide +kernel
  have hclamp : clamp 5 (-1) (1 : ℚ) = 1 := by decide +kernel
  have hmain := ema_convergence hrun (by decide +kernel) (by decide +kernel) .linearX
  obtain ⟨happroach, -⟩ := hmain.1 5 1 (by decide +kernel) (by decide +kernel)
  rw [hticks, hclamp] at happroach
  exact happroach

end TwistMuxNode

end MonaRobot
