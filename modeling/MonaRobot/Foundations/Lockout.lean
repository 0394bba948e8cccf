import MonaRobot.Foundations.Machine
import Mathlib.Algebra.Order.Group.Defs
import Mathlib.Algebra.Order.Sub.Basic

/-!
# Priority by a lockout time

Two parties share a resource. One has priority: its commands are always taken, and after each of
them the other is locked out for a time `d`. The other party's requests are granted when the
lockout has run out, and a grant stays until the next priority command or a release. The lockout is
tested only at a request, never while the grant is in use.

* `granted_run`: while a grant stands, no priority command is younger than `d`. The clock may be any
  ordered commutative group.
-/

namespace Reactive.Lockout

variable {T : Type*} [AddCommGroup T] [LinearOrder T]

/-- The clock, the time of the last priority command, and whether a grant stands. -/
structure State (T : Type*) where
  clock : T
  lastHigh : T
  granted : Bool

/-- A priority command, a request of the other party, the end of a grant; each with its time. -/
inductive Input (T : Type*)
  | high (t : T)
  | request (t : T)
  | release (t : T)

/-- The time of an input. -/
def Input.time : Input T → T
  | .high t => t
  | .request t => t
  | .release t => t

/-- The effect of an input that arrives in time order. -/
def apply (d : T) (a : State T) : Input T → State T
  | .high t => ⟨t, t, false⟩
  | .request t => ⟨t, a.lastHigh, a.granted || decide (d ≤ t - a.lastHigh)⟩
  | .release t => ⟨t, a.lastHigh, false⟩

/-- The machine with lockout time `d`; times never decrease. -/
def machine (d : T) : Machine (State T) (Input T) Unit where
  step a i := if a.clock ≤ i.time then some (apply d a i, ()) else none

/-- A step of the machine. -/
abbrev LockoutStep (T : Type*) := Step (State T) (Input T) Unit

variable {d : T}

theorem takes_iff {e : LockoutStep T} :
    (machine d).Takes e ↔ e.pre.clock ≤ e.input.time ∧ e.post = apply d e.pre e.input := by
  simp only [Machine.Takes, machine]
  split_ifs with h
  · simp [h, eq_comm]
  · simp [h]

/-- Every priority command of the history is at most the last one recorded, and a grant is older
than the lockout. -/
structure Fair (d : T) (tr : List (LockoutStep T)) (a : State T) : Prop where
  last : ∀ e ∈ tr, ∀ t, e.input = .high t → t ≤ a.clock ∧ t ≤ a.lastHigh
  expired : a.granted = true → d ≤ a.clock - a.lastHigh

variable [IsOrderedAddMonoid T]

theorem fair_step {tr : List (LockoutStep T)} {e : LockoutStep T} (he : (machine d).Takes e)
    (h : Fair d tr e.pre) : Fair d (tr ++ [e]) e.post := by
  obtain ⟨hclock, hpost⟩ := takes_iff.1 he
  have hsub : e.pre.clock - e.pre.lastHigh ≤ e.input.time - e.pre.lastHigh :=
    sub_le_sub_right hclock _
  constructor
  · intro x hx t ht
    rw [hpost]
    rcases List.mem_append.1 hx with hx | hx
    · obtain ⟨h₁, h₂⟩ := h.last x hx t ht
      have h₃ : t ≤ e.input.time := h₁.trans hclock
      cases hi : e.input with
      | high u =>
        rw [hi] at h₃
        exact ⟨h₃, h₃⟩
      | request u =>
        rw [hi] at h₃
        exact ⟨h₃, h₂⟩
      | release u =>
        rw [hi] at h₃
        exact ⟨h₃, h₂⟩
    · rw [List.mem_singleton.1 hx] at ht
      rw [ht]
      exact ⟨le_rfl, le_rfl⟩
  · rw [hpost]
    intro hgranted
    cases hi : e.input with
    | high u =>
      rw [hi] at hgranted
      cases hgranted
    | release u =>
      rw [hi] at hgranted
      cases hgranted
    | request u =>
      rw [hi] at hgranted hsub
      rcases Bool.or_eq_true _ _ ▸ hgranted with hpre | hnew
      · exact (h.expired hpre).trans hsub
      · exact of_decide_eq_true hnew

/-- **The lockout holds.** While a grant stands, every priority command of the run is at least `d`
old. -/
theorem granted_run {tr : List (LockoutStep T)} {a b : State T} (h : (machine d).Run a tr b)
    (ha : a.granted = false) (hb : b.granted = true) :
    ∀ e ∈ tr, ∀ t, e.input = .high t → d ≤ b.clock - t := by
  have hfair : Fair d tr b := by
    refine h.history (H := fun tr a => Fair d tr a) ⟨by simp, ?_⟩ fun _ _ _ he hpre =>
      fair_step he hpre
    intro hgranted
    rw [ha] at hgranted
    cases hgranted
  intro e he t ht
  calc d ≤ b.clock - b.lastHigh := hfair.expired hb
    _ ≤ b.clock - t := sub_le_sub_left (hfair.last e he t ht).2 _

end Reactive.Lockout
