import Mathlib.Tactic.Common

/-!
# Managed nodes

What the nodes rely on of `rclcpp_lifecycle`: the primary states and which transition each permits,
and a lifecycle publisher, which sends only between its own `on_activate` and `on_deactivate`.
A transition that is not permitted in the current state is refused and runs no callback.
-/

namespace MonaRobot

/-- The primary states of a managed node. -/
inductive PrimaryState
  | unconfigured
  | inactive
  | active
  | finalized
  deriving DecidableEq

/-- The transitions that can be requested of a managed node. -/
inductive Transition
  | configure
  | activate
  | deactivate
  | cleanup
  | shutdown
  deriving DecidableEq

/-- Where a permitted transition leads; every callback of these nodes returns `SUCCESS`. -/
def Transition.target : Transition → PrimaryState → Option PrimaryState
  | .configure, .unconfigured => some .inactive
  | .activate, .inactive => some .active
  | .deactivate, .active => some .inactive
  | .cleanup, .inactive => some .unconfigured
  | .shutdown, .unconfigured => some .finalized
  | .shutdown, .inactive => some .finalized
  | .shutdown, .active => some .finalized
  | _, _ => none

namespace Transition

/-- The states in which a transition is permitted. -/
def Permitted : Transition → PrimaryState → Prop
  | .configure, p => p = .unconfigured
  | .activate, p => p = .inactive
  | .deactivate, p => p = .active
  | .cleanup, p => p = .inactive
  | .shutdown, p => p ≠ .finalized

/-- The state a permitted transition ends in. -/
def goal : Transition → PrimaryState
  | .configure => .inactive
  | .activate => .active
  | .deactivate => .inactive
  | .cleanup => .unconfigured
  | .shutdown => .finalized

variable {t : Transition} {p : PrimaryState}

theorem target_of_permitted (h : t.Permitted p) : t.target p = some t.goal := by
  cases t with
  | shutdown =>
    cases p with
    | finalized => exact absurd rfl h
    | _ => rfl
  | _ =>
    obtain rfl : p = _ := h
    rfl

theorem target_of_not_permitted (h : ¬ t.Permitted p) : t.target p = none := by
  cases t <;> cases p <;> simp_all [Permitted, target]

end Transition

/-- A `LifecyclePublisher::SharedPtr`: null, or a publisher that is activated or not. -/
abbrev LifecyclePublisher := Option Bool

namespace LifecyclePublisher

/-- A publisher as `create_publisher` returns it. -/
def created : LifecyclePublisher := some false

def onActivate (p : LifecyclePublisher) : LifecyclePublisher := p.map fun _ => true

def onDeactivate (p : LifecyclePublisher) : LifecyclePublisher := p.map fun _ => false

/-- `pub && pub->is_activated()`. -/
def isActivated (p : LifecyclePublisher) : Bool := p.getD false

@[simp] theorem isActivated_null : isActivated none = false := rfl

@[simp] theorem isActivated_onDeactivate (p : LifecyclePublisher) :
    p.onDeactivate.isActivated = false := by
  cases p <;> rfl

@[simp] theorem isActivated_onActivate (p : LifecyclePublisher) :
    p.onActivate.isActivated = p.isSome := by
  cases p <;> rfl

@[simp] theorem isSome_onActivate (p : LifecyclePublisher) :
    Option.isSome p.onActivate = Option.isSome p := by
  cases p <;> rfl

@[simp] theorem isSome_onDeactivate (p : LifecyclePublisher) :
    Option.isSome p.onDeactivate = Option.isSome p := by
  cases p <;> rfl

end LifecyclePublisher

end MonaRobot
