import MonaRobot.Control.MuxLifecycle
import MonaRobot.Foundations.NanRat

/-!
# NaN in the filter

The multiplexer on components that may be NaN. A NaN passes the deadzone test as a command and the
clamping as within the limit, so a tick that selects one publishes it; and since the filter averages
with its own value, that value stays NaN in every state that can be reached from there
(`canRecover_iff`). With the numbers that it is given otherwise, everything published is a number
within the limit in force (`respects_step`).
-/

namespace MonaRobot

open Reactive

instance : VelocityScalar NanRat where
  ofRat := .num
  lt := NanRat.lt

/-! ## Saturation -/

theorem clamp_nan (lo hi : NanRat) : clamp .nan lo hi = .nan := by
  simp [clamp, VelocityScalar.lt]

theorem clamp_num (q lo hi : ℚ) : clamp (.num q) (.num lo) (.num hi) = NanRat.num (clamp q lo hi) := by
  simp only [clamp, VelocityScalar.lt, NanRat.lt_num, decide_eq_true_eq]
  split_ifs <;> rfl

/-- What is saturated is a number exactly if it was one, and then within the limit. -/
theorem saturated_isNum {L : ℚ} (v : NanRat) :
    (clamp v (-VelocityScalar.ofRat L) (VelocityScalar.ofRat L)).IsNum ↔ v.IsNum := by
  cases v with
  | nan => rw [clamp_nan]
  | num q => exact iff_of_true (clamp_num q (-L) L ▸ trivial) trivial

theorem saturated_within {L : ℚ} (hL : 0 ≤ L) {v : NanRat} (hv : v.IsNum) :
    (clamp v (-VelocityScalar.ofRat L) (VelocityScalar.ofRat L)).Within L := by
  obtain ⟨q, rfl⟩ := hv.exists_eq
  have h : |clamp q (-L) L| ≤ L := (abs_clamp_le q L).trans_eq (abs_of_nonneg hL)
  exact clamp_num q (-L) L ▸ h

namespace Twist

variable {b : ℚ} {t : Twist NanRat}

/-- The driving components are numbers. -/
def IsNum (t : Twist NanRat) : Prop := ∀ a, (t.component a).IsNum

/-- The driving components are numbers of magnitude at most `b`. -/
def NumWithin (b : ℚ) (t : Twist NanRat) : Prop := ∀ a, (t.component a).Within b

theorem forall_axis {P : Axis → Prop} : (∀ a, P a) ↔ P .linearX ∧ P .linearY ∧ P .angularZ :=
  ⟨fun h => ⟨h _, h _, h _⟩, fun ⟨hx, hy, hz⟩ a => by cases a <;> assumption⟩

instance (t : Twist NanRat) : Decidable t.IsNum := decidable_of_iff' _ forall_axis

instance (b : ℚ) (t : Twist NanRat) : Decidable (t.NumWithin b) := decidable_of_iff' _ forall_axis

theorem isNum_zero : (0 : Twist NanRat).IsNum := fun a => by cases a <;> exact NanRat.isNum_zero

theorem numWithin_zero (hb : 0 ≤ b) : (0 : Twist NanRat).NumWithin b := fun a => by
  cases a <;> exact NanRat.within_zero hb

theorem NumWithin.isNum (h : t.NumWithin b) : t.IsNum := fun a => (h a).isNum

end Twist

namespace TwistMuxNode

variable {s : TwistMuxNode NanRat} {e : MuxStep NanRat}

/-- The filter is a number exactly if its target and its own value are. -/
theorem smooth_isNum (target current : NanRat) :
    (s.smooth target current).IsNum ↔ target.IsNum ∧ current.IsNum := by
  rw [smooth, saturated_isNum, ema]
  simp [VelocityScalar.ofRat]

theorem smooth_within (hL : 0 ≤ s.currentMaxSpeed) {target current : NanRat} (ht : target.IsNum)
    (hc : current.IsNum) : (s.smooth target current).Within s.currentMaxSpeed :=
  saturated_within hL (by simp [ema, VelocityScalar.ofRat, ht, hc])

/-- A tick that is about to select a command with a NaN. -/
def SelectsNan (s : TwistMuxNode NanRat) : MuxEvent NanRat → Prop
  | .controlLoop now => s.smoothPub.isActivated = true ∧ s.isSafetyBlocked = false ∧
      ¬ s.Silent now ∧ (s.currentState = .manual ∧ ¬ s.lastTeleopMsg.IsNum ∨
        s.currentState = .autonomous ∧ ¬ s.lastNavMsg.IsNum)
  | _ => False

instance (s : TwistMuxNode NanRat) : DecidablePred s.SelectsNan
  | .controlLoop _ => inferInstanceAs (Decidable (_ ∧ _ ∧ _ ∧ (_ ∨ _)))
  | .teleop .. | .nav .. | .fdirState .. | .safetyState .. => inferInstanceAs (Decidable False)

theorem selectsNan_iff {now : Time} : s.SelectsNan (.controlLoop now) ↔
    s.smoothPub.isActivated = true ∧ ∃ msg, s.Selects now msg ∧ ¬ msg.IsNum := by
  unfold SelectsNan Selects
  aesop

/-- A tick selects a NaN exactly if its target has one. -/
theorem selectsNan_iff_target (he : events.Takes e) (ht : Ticks e) :
    e.pre.node.SelectsNan e.input ↔ ¬ e.post.node.targetVel.IsNum := by
  obtain ⟨now, hin⟩ : ∃ now, e.input = .controlLoop now := by
    unfold Ticks at ht
    split at ht
    · exact ⟨_, ‹_›⟩
    · exact ht.elim
  have hactive : e.pre.node.smoothPub.isActivated = true := by simpa [Ticks, hin] using ht
  rw [hin, selectsNan_iff]
  rcases tick_target he ht hin with ⟨hzero, hnone⟩ | hselects
  · rw [hzero]
    exact iff_of_false (fun ⟨_, msg, h, _⟩ => hnone msg h) (not_not_intro Twist.isNum_zero)
  · simp [hactive, hselects]

theorem not_ticks_of_not_selects : ¬ Ticks e → ¬ e.pre.node.SelectsNan e.input := by
  unfold Ticks SelectsNan
  cases e.input <;> simp_all

/-- What a tick makes of the filter is a number exactly if its target is, and the filter was. -/
theorem tick_isNum (he : events.Takes e) (ht : Ticks e) : e.post.node.currentVel.IsNum ↔
    e.post.node.targetVel.IsNum ∧ e.pre.node.currentVel.IsNum := by
  have hcomponent : ∀ a, (e.post.node.currentVel.component a).IsNum ↔
      (e.post.node.targetVel.component a).IsNum ∧ (e.pre.node.currentVel.component a).IsNum := by
    intro a
    rw [(tick_filters he ht a).2.2.2, smooth_isNum]
  unfold Twist.IsNum
  simp only [hcomponent, forall_and]

/-- A NaN in the filter stays there. -/
theorem isNum_of_step (he : events.Takes e) (h : e.post.node.currentVel.IsNum) :
    e.pre.node.currentVel.IsNum := by
  by_cases ht : Ticks e
  · exact ((tick_isNum he ht).1 h).2
  · rwa [(not_ticks he ht).2] at h

/-- From numbers a step makes numbers exactly if it does not select a NaN, and then everything it
publishes is within the limit in force. -/
theorem isNum_step (he : events.Takes e) (h : e.pre.node.currentVel.IsNum)
    (hL : 0 ≤ e.pre.node.currentMaxSpeed) :
    (e.post.node.currentVel.IsNum ↔ ¬ e.pre.node.SelectsNan e.input) ∧
      (¬ e.pre.node.SelectsNan e.input →
        ∀ msg ∈ cmdVels e.output, msg.NumWithin e.pre.node.currentMaxSpeed) := by
  by_cases ht : Ticks e
  · rw [tick_isNum he ht, selectsNan_iff_target he ht, not_not]
    refine ⟨and_iff_left h, fun htarget => ?_⟩
    obtain ⟨hsent, hlimit, -⟩ := tick_filters he ht .linearX
    rw [hsent, List.forall_mem_singleton]
    intro a
    rw [(tick_filters he ht a).2.2.2, ← hlimit]
    exact smooth_within (hlimit ▸ hL) (htarget a) (h a)
  · obtain ⟨hsent, hvel⟩ := not_ticks he ht
    rw [hvel]
    exact ⟨iff_of_true h (not_ticks_of_not_selects ht), fun _ => by simp [hsent]⟩

end TwistMuxNode

namespace MuxLifecycle

open TwistMuxNode (cmdVels)

variable {x : MuxLifecycle NanRat} {e : LifecycleStep NanRat} {tr : List (LifecycleStep NanRat)}

/-- The parameters are speed limits. -/
def limitsNonneg {V : Type} : MuxLifecycleEvent V → Bool
  | .configure params => decide (0 ≤ params.maxSpeedNormal ∧ 0 ≤ params.maxSpeedDegraded)
  | _ => true

/-- A tick of the running timer that is about to select a command with a NaN. -/
def FiltersNan (e : LifecycleStep NanRat) : Prop :=
  match e.input with
  | .mux i => e.pre.receives i = true ∧ e.pre.mux.node.SelectsNan i
  | _ => False

instance : DecidablePred FiltersNan := fun e =>
  match e with
  | ⟨_, .mux _, _, _⟩ => inferInstanceAs (Decidable (_ ∧ _))
  | ⟨_, .configure _, _, _⟩ | ⟨_, .activate _, _, _⟩ | ⟨_, .deactivate, _, _⟩
  | ⟨_, .cleanup, _, _⟩ | ⟨_, .shutdown, _, _⟩ => inferInstanceAs (Decidable False)

/-- Some further run leads to a filter whose value is a number. -/
def CanRecover (x : MuxLifecycle NanRat) : Prop :=
  ∃ tr y, events.Run x tr y ∧ y.mux.node.currentVel.IsNum

/-- The step publishes numbers within the limit in force, and leaves a filter that can recover. -/
def Respects (e : LifecycleStep NanRat) : Prop :=
  (∀ msg ∈ cmdVels e.output, msg.NumWithin e.pre.mux.node.currentMaxSpeed) ∧ CanRecover e.post

theorem isNum_of_step (he : events.Takes e) (h : e.post.mux.node.currentVel.IsNum) :
    e.pre.mux.node.currentVel.IsNum := by
  induction e, he using takes_rec with
  | mux x i o m hi htake => exact TwistMuxNode.isNum_of_step htake h
  | _ => exact h

/-- A filter recovers only if its value is a number already. -/
theorem canRecover_iff : CanRecover x ↔ x.mux.node.currentVel.IsNum := by
  constructor
  · rintro ⟨tr, y, hrun, hy⟩
    by_contra hx
    exact hrun.invariant (I := fun z => ¬ z.mux.node.currentVel.IsNum) hx
      (fun _ he hpre hpost => hpre (isNum_of_step he hpost)) hy
  · exact fun h => ⟨[], x, .nil x, h⟩

/-- The filter is a number, and the limits are nonnegative. -/
structure Numeric (x : MuxLifecycle NanRat) : Prop where
  currentVel : x.mux.node.currentVel.IsNum
  maxSpeedNormal : 0 ≤ x.mux.node.maxSpeedNormal
  maxSpeedDegraded : 0 ≤ x.mux.node.maxSpeedDegraded

theorem Numeric.currentMaxSpeed (h : Numeric x) : 0 ≤ x.mux.node.currentMaxSpeed := by
  unfold TwistMuxNode.currentMaxSpeed
  split_ifs
  · exact h.maxSpeedDegraded
  · exact h.maxSpeedNormal

theorem respects_step (he : events.Takes e) (hlim : limitsNonneg e.input = true)
    (h : Numeric e.pre) : (Respects e ↔ ¬ FiltersNan e) ∧ (¬ FiltersNan e → Numeric e.post) := by
  have hL := h.currentMaxSpeed
  unfold Respects
  rw [canRecover_iff]
  induction e, he using takes_rec with
  | mux x i o m hi htake =>
    have hfilters : FiltersNan ⟨x, .mux i, o, { x with mux := m }⟩ ↔ x.mux.node.SelectsNan i :=
      and_iff_right hi
    obtain ⟨hiff, hwithin⟩ := TwistMuxNode.isNum_step htake h.currentVel hL
    obtain ⟨-, -, -, -, hn, hd⟩ := TwistMuxNode.handles_step htake
    rw [hfilters]
    refine ⟨⟨fun hr => hiff.1 hr.2, fun hno => ⟨hwithin hno, hiff.2 hno⟩⟩, fun hno => ?_⟩
    exact ⟨hiff.2 hno, h.maxSpeedNormal.trans_eq hn.symm, h.maxSpeedDegraded.trans_eq hd.symm⟩
  | skipped x i hi =>
    have hno : ¬ FiltersNan ⟨x, i, [], x⟩ := by
      cases i with
      | mux i => exact fun hf => hi hf.1
      | _ => exact id
    exact ⟨iff_of_true ⟨by simp [TwistMuxNode.cmdVels], h.currentVel⟩ hno, fun _ => h⟩
  | configure x params hl =>
    obtain ⟨hn, hd⟩ := of_decide_eq_true hlim
    exact ⟨iff_of_true ⟨by simp [TwistMuxNode.cmdVels], h.currentVel⟩ id,
      fun _ => ⟨h.currentVel, hn, hd⟩⟩
  | _ =>
    exact ⟨iff_of_true ⟨by simp [TwistMuxNode.cmdVels], h.currentVel⟩ id, fun _ =>
      ⟨h.currentVel, h.maxSpeedNormal, h.maxSpeedDegraded⟩⟩

/-- Over a run from construction with nonnegative limits, everything that is published is a number
within the limit in force, and the filter can always recover, exactly if no tick selects a NaN. -/
theorem respects_run_iff {now : Time} (h : events.Run (construct now) tr x)
    (hlim : ∀ e ∈ tr, limitsNonneg e.input = true) :
    (∀ e ∈ tr, Respects e) ↔ ∀ e ∈ tr, ¬ FiltersNan e :=
  h.forall_mem_iff (J := Numeric) ⟨Twist.isNum_zero, le_rfl, le_rfl⟩ fun e he ht hpre =>
    respects_step ht (hlim e he) hpre

end MuxLifecycle

end MonaRobot
