import MonaRobot.Control.ComingToRest

/-!
# The velocities exceed no command

The filter averages the command that a tick selects with the velocity before it, and clamps the
result. So with a weight between zero and one and nonnegative limits no velocity exceeds, in any
component, all the commands stored so far, whatever transitions the node goes through
(`below_run`); and a node that has stored no command stands still.
-/

namespace MonaRobot

open Reactive

namespace TwistMuxNode

variable {a : Axis} {B : ℚ}

/-- The command that a step stores. -/
def stored (e : MuxStep ℚ) : List (Twist ℚ) :=
  ((teleopStored e).toList ++ (navStored e).toList).map Prod.snd

/-- The commands in store and the velocity, in one component. -/
structure Below (a : Axis) (B : ℚ) (s : TwistMuxNode ℚ) : Prop where
  teleop : |s.lastTeleopMsg.component a| ≤ B
  nav : |s.lastNavMsg.component a| ≤ B
  velocity : |s.currentVel.component a| ≤ B

theorem component_zero (a : Axis) : (0 : Twist ℚ).component a = 0 := by
  cases a <;> rfl

/-- Storing a command within the bound, and all that leaves the commands and the velocity. -/
theorem Below.stores {s s' : TwistMuxNode ℚ} (h : Below a B s)
    (hteleop : s'.lastTeleopMsg = s.lastTeleopMsg ∨ |s'.lastTeleopMsg.component a| ≤ B)
    (hnav : s'.lastNavMsg = s.lastNavMsg ∨ |s'.lastNavMsg.component a| ≤ B)
    (hvel : s'.currentVel = s.currentVel) : Below a B s' where
  teleop := hteleop.elim (fun heq => heq ▸ h.teleop) id
  nav := hnav.elim (fun heq => heq ▸ h.nav) id
  velocity := hvel ▸ h.velocity

/-- A tick publishes a velocity within the bound. -/
theorem Below.controlLoop {s s' : TwistMuxNode ℚ} {now : Time} {o : List (MuxOutput ℚ)}
    (h : Below a B s) (hB : 0 ≤ B) (h₀ : 0 ≤ s.emaAlpha) (h₁ : s.emaAlpha ≤ 1)
    (hL : 0 ≤ s.currentMaxSpeed) (htick : s.controlLoop now = .ok (s', o)) : Below a B s' := by
  rcases controlLoop_cases htick with ⟨-, rfl, -⟩ | ⟨-, r, hr, rfl, -⟩
  · exact h
  have htarget : |r.targetVel.component a| ≤ B ∧ Below a B r ∧ r.emaAlpha = s.emaAlpha ∧
      r.currentMaxSpeed = s.currentMaxSpeed := by
    have hzero : |(0 : Twist ℚ).component a| ≤ B := by rwa [component_zero, abs_zero]
    rcases selectTarget_cases hr with ⟨-, rfl⟩ | ⟨-, -, rfl⟩ | ⟨-, -, -, rfl⟩ | ⟨-, -, -, rfl⟩
    · exact ⟨hzero, ⟨h.teleop, h.nav, h.velocity⟩, rfl, rfl⟩
    · exact ⟨hzero, ⟨h.teleop, h.nav, h.velocity⟩, rfl, rfl⟩
    · exact ⟨h.teleop, ⟨h.teleop, h.nav, h.velocity⟩, rfl, rfl⟩
    · exact ⟨h.nav, ⟨h.teleop, h.nav, h.velocity⟩, rfl, rfl⟩
  obtain ⟨ht, hbelow, halpha, hmax⟩ := htarget
  refine ⟨hbelow.teleop, hbelow.nav, ?_⟩
  rw [component_filterVelocity, smooth_eq_filter (hmax ▸ hL), halpha, hmax]
  exact SaturatedFilter.abs_filter_le_of_abs_le h₀ h₁ hL ht hbelow.velocity

theorem below_step {e : MuxStep ℚ} (he : events.Takes e) (hB : 0 ≤ B)
    (h₀ : 0 ≤ e.pre.node.emaAlpha) (h₁ : e.pre.node.emaAlpha ≤ 1)
    (hL : 0 ≤ e.pre.node.currentMaxSpeed)
    (hcmd : ∀ msg ∈ stored e, |msg.component a| ≤ B) (h : Below a B e.pre.node) :
    Below a B e.post.node := by
  induction e, he using takes_rec with
  | teleop x now ready msg hnow =>
    have hstores : x.node.listens = true → |msg.component a| ≤ B := fun hl =>
      hcmd msg (by simp [stored, teleopStored, hl])
    rcases x.node.teleopCallback_cases now ready msg with ⟨-, heq⟩ | ⟨hl, -, heq⟩ | ⟨hl, -, heq⟩
    · rw [heq]
      exact h
    · rw [heq]
      exact h.stores (Or.inr (hstores hl)) (Or.inl rfl) rfl
    · rw [heq]
      exact h.stores (Or.inr (hstores hl)) (Or.inl rfl) rfl
  | nav x stamp now msg hstamp hnow =>
    rcases x.node.navCallback_cases stamp now msg with ⟨-, heq⟩ | ⟨-, -, heq⟩ | ⟨hl, hold, heq⟩
    · rw [heq]
      exact h
    · rw [heq]
      exact h.stores (Or.inl rfl) (Or.inl rfl) rfl
    · rw [heq]
      refine h.stores (Or.inl rfl) (Or.inr (hcmd msg ?_)) rfl
      simp [stored, navStored, hl, hold]
  | controlLoop x now s o hnow htick => exact h.controlLoop hB h₀ h₁ hL htick
  | _ => exact h.stores (Or.inl rfl) (Or.inl rfl) rfl

end TwistMuxNode

namespace MuxLifecycle

variable {e : LifecycleStep ℚ} {tr : List (LifecycleStep ℚ)} {x : MuxLifecycle ℚ} {a : Axis} {B : ℚ}

/-- The command that a step stores. -/
def stored (e : LifecycleStep ℚ) : List (Twist ℚ) :=
  match e.input with
  | .mux i =>
    if e.pre.receives i then TwistMuxNode.stored ⟨e.pre.mux, i, e.output, e.post.mux⟩ else []
  | _ => []

/-- The parameters of a configuration are in their ranges. -/
def tunes : MuxLifecycleEvent ℚ → Bool
  | .configure params => decide (0 ≤ params.emaAlpha ∧ params.emaAlpha ≤ 1 ∧
      0 ≤ params.maxSpeedNormal ∧ 0 ≤ params.maxSpeedDegraded)
  | _ => true

theorem Tuned.currentMaxSpeed_nonneg (h : Tuned x) : 0 ≤ x.mux.node.currentMaxSpeed := by
  unfold TwistMuxNode.currentMaxSpeed
  split_ifs
  · exact h.degraded
  · exact h.normal

theorem tuned_construct (now : Time) : Tuned (construct now) :=
  ⟨by norm_num [construct, TwistMuxNode.construct], by norm_num [construct, TwistMuxNode.construct],
    le_rfl, le_rfl⟩

theorem tuned_step (he : events.Takes e) (htunes : tunes e.input = true) (h : Tuned e.pre) :
    Tuned e.post := by
  by_cases hconf : Reconfigures e
  · induction e, he using takes_rec with
    | skipped x i hi => exact h
    | configure x params hl =>
      obtain ⟨h₀, h₁, hn, hd⟩ := of_decide_eq_true htunes
      exact ⟨h₀, h₁, hn, hd⟩
    | _ => exact hconf.elim
  · exact h.step he hconf

/-- The commands in store and the velocity stay within a bound of all commands. -/
theorem below_step (he : events.Takes e) (hB : 0 ≤ B) (ht : Tuned e.pre)
    (hcmd : ∀ msg ∈ stored e, |msg.component a| ≤ B)
    (h : TwistMuxNode.Below a B e.pre.mux.node) : TwistMuxNode.Below a B e.post.mux.node := by
  induction e, he using takes_rec with
  | mux x i o m hr hm =>
    have hstored : stored ⟨x, .mux i, o, { x with mux := m }⟩ =
      TwistMuxNode.stored ⟨x.mux, i, o, m⟩ := if_pos hr
    exact TwistMuxNode.below_step hm hB ht.nonneg ht.le_one ht.currentMaxSpeed_nonneg
      (hstored ▸ hcmd) h
  | skipped x i hi => exact h
  | _ => exact h.stores (Or.inl rfl) (Or.inl rfl) rfl

/-- **No amplification.** Every velocity that the node publishes is within any bound of the commands
that it has stored. -/
theorem below_run {now : Time} (h : events.Run (construct now) tr x) (hB : 0 ≤ B)
    (htunes : ∀ e ∈ tr, tunes e.input = true)
    (hcmd : ∀ e ∈ tr, ∀ msg ∈ stored e, |msg.component a| ≤ B) :
    ∀ v ∈ tr.flatMap velocities, |v.component a| ≤ B := by
  have hinv : ∀ e ∈ tr, TwistMuxNode.Below a B e.post.mux.node := by
    intro e he
    refine (h.invariant_visited (I := fun x => Tuned x ∧ TwistMuxNode.Below a B x.mux.node)
      (C := fun e => tunes e.input = true ∧ ∀ msg ∈ stored e, |msg.component a| ≤ B)
      ⟨tuned_construct now, ?_⟩ (fun e he => ⟨htunes e he, hcmd e he⟩) (fun e he hC hpre => ?_)
      e.post (Or.inr ⟨e, he, rfl⟩)).2
    · have hzero : |(0 : Twist ℚ).component a| ≤ B := by
        rwa [TwistMuxNode.component_zero, abs_zero]
      exact ⟨hzero, hzero, hzero⟩
    · exact ⟨tuned_step he hC.1 hpre.1, below_step he hB hpre.1 hC.2 hpre.2⟩
  intro v hv
  obtain ⟨e, he, hmem⟩ := List.mem_flatMap.1 hv
  rcases velocities_cases (h.takes e he) with hnone | hone
  · rw [hnone] at hmem
    cases hmem
  · rw [hone, List.mem_singleton] at hmem
    rw [hmem]
    exact (hinv e he).velocity

end MuxLifecycle

end MonaRobot
