import MonaRobot.Control.TwistMux
import MonaRobot.Foundations.History

/-!
# The lifecycle of the multiplexer

`MuxLifecycle.events` is the machine of the multiplexer from its construction on: lifecycle
transitions, messages and firings of the timer in any order. `on_configure` creates the
subscriptions and starts the timer, `on_cleanup` takes them away, and nothing else stops them, so the
callbacks also run while the node is inactive or finalized. A transition that is not permitted is
refused, and a message without a subscription or a firing without a timer does not occur; all three
leave the node as it is.

`Wired` says how the handles follow the lifecycle. `Inactive` are the states from which a run of the
activated node starts.
-/

namespace MonaRobot

open Reactive

namespace TwistMuxNode

variable {V : Type}

def onDeactivate (s : TwistMuxNode V) : TwistMuxNode V :=
  { s with
    smoothPub := s.smoothPub.onDeactivate
    statePub := s.statePub.onDeactivate }

def onCleanup (s : TwistMuxNode V) : TwistMuxNode V :=
  { s with
    statePub := none
    smoothPub := none
    navClient := false }

def onShutdown (s : TwistMuxNode V) : TwistMuxNode V := s

end TwistMuxNode

/-- The node with its lifecycle state. The four subscriptions come and go together. -/
structure MuxLifecycle (V : Type) where
  lifecycle : PrimaryState
  subscribed : Bool
  watchdogTimer : Bool
  mux : Clocked (TwistMuxNode V)

/-- The output is published on one of the two topics. -/
def MuxOutput.isPublished {V : Type} : MuxOutput V → Bool
  | .cancelAllGoals => false
  | _ => true

/-- A lifecycle transition, a message or a firing of the timer. `configure` carries the parameters
read by `on_configure`, and `activate` the clock reading of `on_activate`. -/
inductive MuxLifecycleEvent (V : Type)
  | configure (params : TwistMuxParams)
  | activate (now : Time)
  | deactivate
  | cleanup
  | shutdown
  | mux (i : MuxEvent V)

namespace MuxLifecycle

variable {V : Type} [VelocityScalar V]

/-- The constructor, at time `now`. -/
def construct (now : Time) : MuxLifecycle V where
  lifecycle := .unconfigured
  subscribed := false
  watchdogTimer := false
  mux := ⟨now, TwistMuxNode.construct now⟩

/-! ## The machine -/

omit [VelocityScalar V] in
/-- A requested transition leads to `y` when it is permitted, and is refused otherwise. -/
def transition (x : MuxLifecycle V) (t : Transition) (y : MuxLifecycle V) : MuxLifecycle V :=
  match t.target x.lifecycle with
  | some p => { y with lifecycle := p }
  | none => x

/-- The node is transformed, and the clock is not read. -/
def withNode (x : MuxLifecycle V) (s : TwistMuxNode V) : MuxLifecycle V :=
  { x with mux := ⟨x.mux.clock, s⟩ }

def onConfigure (x : MuxLifecycle V) (params : TwistMuxParams) : MuxLifecycle V :=
  { x.withNode (x.mux.node.onConfigure params) with
    subscribed := true
    watchdogTimer := true }

def onActivate (x : MuxLifecycle V) (now : Time) : MuxLifecycle V :=
  { x with mux := x.mux.node.activated now }

def onDeactivate (x : MuxLifecycle V) : MuxLifecycle V := x.withNode x.mux.node.onDeactivate

def onCleanup (x : MuxLifecycle V) : MuxLifecycle V :=
  { x.withNode x.mux.node.onCleanup with
    subscribed := false
    watchdogTimer := false }

def onShutdown (x : MuxLifecycle V) : MuxLifecycle V := x.withNode x.mux.node.onShutdown

/-- The timer runs, or the subscription of the message exists. -/
def receives (x : MuxLifecycle V) : MuxEvent V → Bool
  | .controlLoop _ => x.watchdogTimer
  | _ => x.subscribed

/-- The node from its construction on. -/
def events : Machine (MuxLifecycle V) (MuxLifecycleEvent V) (List (MuxOutput V)) where
  step x
    | .configure params => some (x.transition .configure (x.onConfigure params), [])
    | .activate now =>
      if x.mux.clock ≤ now then some (x.transition .activate (x.onActivate now), []) else none
    | .deactivate => some (x.transition .deactivate x.onDeactivate, [])
    | .cleanup => some (x.transition .cleanup x.onCleanup, [])
    | .shutdown => some (x.transition .shutdown x.onShutdown, [])
    | .mux i =>
      if x.receives i then
        (TwistMuxNode.events.step x.mux i).map fun r => ({ x with mux := r.1 }, r.2)
      else some (x, [])

/-- A step of the node. -/
abbrev LifecycleStep (V : Type) :=
  Step (MuxLifecycle V) (MuxLifecycleEvent V) (List (MuxOutput V))

/-- The event is not refused, and its subscription or timer exists. -/
def Handled (x : MuxLifecycle V) : MuxLifecycleEvent V → Prop
  | .configure _ => x.lifecycle = .unconfigured
  | .activate _ => x.lifecycle = .inactive
  | .deactivate => x.lifecycle = .active
  | .cleanup => x.lifecycle = .inactive
  | .shutdown => x.lifecycle ≠ .finalized
  | .mux i => x.receives i = true

instance (x : MuxLifecycle V) (i : MuxLifecycleEvent V) : Decidable (x.Handled i) :=
  match i with
  | .configure _ | .activate _ | .deactivate | .cleanup | .mux _ => inferInstanceAs (Decidable (_ = _))
  | .shutdown => inferInstanceAs (Decidable (_ ≠ _))

omit [VelocityScalar V] in
theorem transition_of_permitted {x y : MuxLifecycle V} {t : Transition}
    (h : t.Permitted x.lifecycle) : x.transition t y = { y with lifecycle := t.goal } := by
  rw [transition, Transition.target_of_permitted h]

omit [VelocityScalar V] in
theorem transition_of_not_permitted {x y : MuxLifecycle V} {t : Transition}
    (h : ¬ t.Permitted x.lifecycle) : x.transition t y = x := by
  rw [transition, Transition.target_of_not_permitted h]

/-- The steps of the machine: nothing happens, a transition, or a step of the node's callbacks. -/
@[elab_as_elim]
theorem takes_rec {motive : ∀ e : LifecycleStep V, events.Takes e → Prop}
    (skipped : ∀ (x : MuxLifecycle V) i (_ : ¬ x.Handled i) h, motive ⟨x, i, [], x⟩ h)
    (configure : ∀ (x : MuxLifecycle V) params (_ : x.lifecycle = .unconfigured) h,
      motive ⟨x, .configure params, [], { x.onConfigure params with lifecycle := .inactive }⟩ h)
    (activate : ∀ (x : MuxLifecycle V) now (_ : x.lifecycle = .inactive) (_ : x.mux.clock ≤ now) h,
      motive ⟨x, .activate now, [], { x.onActivate now with lifecycle := .active }⟩ h)
    (deactivate : ∀ (x : MuxLifecycle V) (_ : x.lifecycle = .active) h,
      motive ⟨x, .deactivate, [], { x.onDeactivate with lifecycle := .inactive }⟩ h)
    (cleanup : ∀ (x : MuxLifecycle V) (_ : x.lifecycle = .inactive) h,
      motive ⟨x, .cleanup, [], { x.onCleanup with lifecycle := .unconfigured }⟩ h)
    (shutdown : ∀ (x : MuxLifecycle V) (_ : x.lifecycle ≠ .finalized) h,
      motive ⟨x, .shutdown, [], { x.onShutdown with lifecycle := .finalized }⟩ h)
    (mux : ∀ (x : MuxLifecycle V) i o m (_ : x.receives i = true)
      (_ : TwistMuxNode.events.Takes ⟨x.mux, i, o, m⟩) h,
      motive ⟨x, .mux i, o, { x with mux := m }⟩ h)
    (e : LifecycleStep V) (he : events.Takes e) : motive e he := by
  obtain ⟨x, i, o, y⟩ := e
  have hstep := he
  simp only [Machine.Takes, events] at hstep
  by_cases hi : x.Handled i
  · cases i with
    | configure params =>
      dsimp only at hstep
      rw [transition_of_permitted (t := .configure) hi] at hstep
      obtain ⟨rfl, rfl⟩ := Prod.mk.inj (Option.some.inj hstep)
      exact configure x params hi he
    | activate now =>
      dsimp only at hstep
      split_ifs at hstep with hnow
      rw [transition_of_permitted (t := .activate) hi] at hstep
      obtain ⟨rfl, rfl⟩ := Prod.mk.inj (Option.some.inj hstep)
      exact activate x now hi hnow he
    | deactivate =>
      dsimp only at hstep
      rw [transition_of_permitted (t := .deactivate) hi] at hstep
      obtain ⟨rfl, rfl⟩ := Prod.mk.inj (Option.some.inj hstep)
      exact deactivate x hi he
    | cleanup =>
      dsimp only at hstep
      rw [transition_of_permitted (t := .cleanup) hi] at hstep
      obtain ⟨rfl, rfl⟩ := Prod.mk.inj (Option.some.inj hstep)
      exact cleanup x hi he
    | shutdown =>
      dsimp only at hstep
      rw [transition_of_permitted (t := .shutdown) hi] at hstep
      obtain ⟨rfl, rfl⟩ := Prod.mk.inj (Option.some.inj hstep)
      exact shutdown x hi he
    | mux i =>
      dsimp only at hstep
      rw [if_pos (show x.receives i = true from hi), Option.map_eq_some_iff] at hstep
      obtain ⟨⟨m, o'⟩, htake, hr⟩ := hstep
      obtain ⟨rfl, rfl⟩ := Prod.mk.inj hr
      exact mux x i o' m hi htake he
  · have hstay : y = x ∧ o = [] := by
      cases i with
      | configure params =>
        dsimp only at hstep
        rw [transition_of_not_permitted (t := .configure) hi] at hstep
        exact (Prod.mk.inj (Option.some.inj hstep)).imp Eq.symm Eq.symm
      | activate now =>
        dsimp only at hstep
        split_ifs at hstep
        rw [transition_of_not_permitted (t := .activate) hi] at hstep
        exact (Prod.mk.inj (Option.some.inj hstep)).imp Eq.symm Eq.symm
      | deactivate =>
        dsimp only at hstep
        rw [transition_of_not_permitted (t := .deactivate) hi] at hstep
        exact (Prod.mk.inj (Option.some.inj hstep)).imp Eq.symm Eq.symm
      | cleanup =>
        dsimp only at hstep
        rw [transition_of_not_permitted (t := .cleanup) hi] at hstep
        exact (Prod.mk.inj (Option.some.inj hstep)).imp Eq.symm Eq.symm
      | shutdown =>
        dsimp only at hstep
        rw [transition_of_not_permitted (t := .shutdown) hi] at hstep
        exact (Prod.mk.inj (Option.some.inj hstep)).imp Eq.symm Eq.symm
      | mux i =>
        dsimp only at hstep
        rw [if_neg (show ¬ x.receives i = true from hi)] at hstep
        exact (Prod.mk.inj (Option.some.inj hstep)).imp Eq.symm Eq.symm
    obtain ⟨rfl, rfl⟩ := hstay
    exact skipped y i hi he

/-! ## The handles follow the lifecycle -/

/-- What the lifecycle callbacks maintain about the handles. -/
structure Wired (x : MuxLifecycle V) : Prop where
  /-- An unconfigured node has no publisher, no subscription and no timer. -/
  absent : x.lifecycle = .unconfigured → x.mux.node.smoothPub = none ∧ x.mux.node.statePub = none ∧
    x.subscribed = false ∧ x.watchdogTimer = false
  /-- An inactive node has them all, and its publishers do not send. -/
  dormant : x.lifecycle = .inactive → x.mux.node.smoothPub = some false ∧
    x.mux.node.statePub = some false ∧ x.mux.node.navClient = true ∧ x.subscribed = true ∧
    x.watchdogTimer = true
  /-- In the active state both publishers send. -/
  sending : x.lifecycle = .active → x.mux.node.smoothPub = some true ∧
    x.mux.node.statePub = some true ∧ x.mux.node.navClient = true ∧ x.subscribed = true ∧
    x.watchdogTimer = true

end MuxLifecycle

namespace TwistMuxNode

variable {V : Type} [VelocityScalar V]

/-- What no callback changes: the publishers, the action client and the parameters of the filter. -/
theorem handles_step {e : MuxStep V} (he : events.Takes e) :
    e.post.node.smoothPub = e.pre.node.smoothPub ∧ e.post.node.statePub = e.pre.node.statePub ∧
      e.post.node.navClient = e.pre.node.navClient ∧ e.post.node.emaAlpha = e.pre.node.emaAlpha ∧
      e.post.node.maxSpeedNormal = e.pre.node.maxSpeedNormal ∧
      e.post.node.maxSpeedDegraded = e.pre.node.maxSpeedDegraded := by
  induction e, he using takes_rec with
  | teleop x now ready msg hnow =>
    rcases x.node.teleopCallback_cases now ready msg with ⟨-, h⟩ | ⟨-, -, h⟩ | ⟨-, -, h⟩ <;>
      simp only [h, and_self]
  | nav x stamp now msg hstamp hnow =>
    rcases x.node.navCallback_cases stamp now msg with ⟨-, h⟩ | ⟨-, -, h⟩ | ⟨-, -, h⟩ <;>
      simp only [h, and_self]
  | fdirState x now msg hnow => exact ⟨rfl, rfl, rfl, rfl, rfl, rfl⟩
  | safetyState x now msg hnow => exact ⟨rfl, rfl, rfl, rfl, rfl, rfl⟩
  | controlLoop x now s o hnow htick =>
    rcases controlLoop_cases htick with ⟨-, rfl, -⟩ | ⟨-, r, hr, rfl, -⟩
    · exact ⟨rfl, rfl, rfl, rfl, rfl, rfl⟩
    · rcases selectTarget_cases hr with ⟨-, rfl⟩ | ⟨-, -, rfl⟩ | ⟨-, -, -, rfl⟩ | ⟨-, -, -, rfl⟩ <;>
        exact ⟨rfl, rfl, rfl, rfl, rfl, rfl⟩

/-- Only a tick publishes, and it does so exactly if its publisher is active. -/
theorem publishes_iff {e : MuxStep V} (he : events.Takes e) :
    (∃ o ∈ e.output, o.isPublished = true) ↔
      (∃ now, e.input = .controlLoop now) ∧ e.pre.node.smoothPub.isActivated = true := by
  induction e, he using takes_rec with
  | teleop x now ready msg hnow =>
    simp only [reduceCtorEq, exists_false, false_and, iff_false, not_exists, not_and]
    intro o ho
    simp only [teleopCallback, acceptTeleop] at ho
    split_ifs at ho <;> simp_all [MuxOutput.isPublished]
  | nav x stamp now msg hstamp hnow => simp
  | fdirState x now msg hnow => simp
  | safetyState x now msg hnow => simp
  | controlLoop x now s o hnow htick =>
    rcases controlLoop_cases htick with ⟨hp, -, rfl⟩ | ⟨hp, r, -, -, rfl⟩
    · simp [hp]
    · exact iff_of_true ⟨_, List.mem_append_right _ (List.mem_singleton_self _), rfl⟩ ⟨⟨now, rfl⟩, hp⟩

end TwistMuxNode

namespace MuxLifecycle

variable {V : Type} [VelocityScalar V] {tr : List (LifecycleStep V)} {x : MuxLifecycle V}

omit [VelocityScalar V] in
/-- A step that leaves the lifecycle and the handles alone keeps them wired. -/
theorem Wired.congr {y : MuxLifecycle V} (h : Wired x) (hl : y.lifecycle = x.lifecycle)
    (hs : y.subscribed = x.subscribed) (ht : y.watchdogTimer = x.watchdogTimer)
    (hpub : y.mux.node.smoothPub = x.mux.node.smoothPub)
    (hstate : y.mux.node.statePub = x.mux.node.statePub)
    (hnav : y.mux.node.navClient = x.mux.node.navClient) : Wired y := by
  constructor
  · rw [hl, hs, ht, hpub, hstate]
    exact h.absent
  · rw [hl, hs, ht, hpub, hstate, hnav]
    exact h.dormant
  · rw [hl, hs, ht, hpub, hstate, hnav]
    exact h.sending

omit [VelocityScalar V] in
/-- Before it is finalized a node sends in the active state only. -/
theorem Wired.isActivated_iff (h : Wired x) (hl : x.lifecycle ≠ .finalized) :
    x.mux.node.smoothPub.isActivated = true ↔ x.lifecycle = .active := by
  cases hx : x.lifecycle with
  | unconfigured => simp [(h.absent hx).1]
  | inactive => simp [(h.dormant hx).1, LifecyclePublisher.isActivated]
  | active => simp [(h.sending hx).1, LifecyclePublisher.isActivated]
  | finalized => exact absurd hx hl

theorem wired_construct (now : Time) : Wired (construct (V := V) now) :=
  ⟨fun _ => ⟨rfl, rfl, rfl, rfl⟩, fun h => (by cases h), fun h => (by cases h)⟩

theorem wired_step {e : LifecycleStep V} (he : events.Takes e) (h : Wired e.pre) :
    Wired e.post := by
  induction e, he using takes_rec with
  | skipped x i hi => exact h
  | configure x params hl =>
    exact ⟨fun h => (by cases h), fun _ => ⟨rfl, rfl, rfl, rfl, rfl⟩, fun h => (by cases h)⟩
  | activate x now hl hnow =>
    obtain ⟨hsmooth, hstate, hnav, hsub, htimer⟩ := h.dormant hl
    refine ⟨fun h => (by cases h), fun h => (by cases h), fun _ => ⟨?_, ?_, hnav, hsub, htimer⟩⟩
    · exact congrArg LifecyclePublisher.onActivate hsmooth
    · exact congrArg LifecyclePublisher.onActivate hstate
  | deactivate x hl =>
    obtain ⟨hsmooth, hstate, hnav, hsub, htimer⟩ := h.sending hl
    refine ⟨fun h => (by cases h), fun _ => ⟨?_, ?_, hnav, hsub, htimer⟩, fun h => (by cases h)⟩
    · exact congrArg LifecyclePublisher.onDeactivate hsmooth
    · exact congrArg LifecyclePublisher.onDeactivate hstate
  | cleanup x hl =>
    exact ⟨fun _ => ⟨rfl, rfl, rfl, rfl⟩, fun h => (by cases h), fun h => (by cases h)⟩
  | shutdown x hl => exact ⟨fun h => (by cases h), fun h => (by cases h), fun h => (by cases h)⟩
  | mux x i o m hi htake =>
    obtain ⟨hsmooth, hstate, hnav, -⟩ := TwistMuxNode.handles_step htake
    exact h.congr rfl rfl rfl hsmooth hstate hnav

/-- In every state the node can reach the handles follow its lifecycle. -/
theorem wired_run {now : Time} (h : events.Run (construct now) tr x) : Wired x :=
  h.invariant (wired_construct now) fun _ he hpre => wired_step he hpre

/-- The node in an inactive state that some history of the object leads to, and the clock there:
what `on_activate` finds. -/
def Inactive (x : Clocked (TwistMuxNode V)) : Prop :=
  ∃ now tr y, events.Run (construct now) tr y ∧ y.lifecycle = .inactive ∧ y.mux = x

theorem inactive_onConfigure (params : TwistMuxParams) :
    Inactive ⟨0, (TwistMuxNode.construct (V := V) 0).onConfigure params⟩ :=
  ⟨0, [⟨construct 0, .configure params, [],
      { onConfigure (construct 0) params with lifecycle := .inactive }⟩],
    { onConfigure (construct 0) params with lifecycle := .inactive }, (Machine.Run.nil _).snoc rfl,
    rfl, rfl⟩

theorem inactive_configured : Inactive ⟨0, TwistMuxNode.configured⟩ := inactive_onConfigure {}

/-- Activation succeeds: there are publishers to activate, and an action client. -/
theorem Inactive.handles {x : Clocked (TwistMuxNode V)} (h : Inactive x) (now : Time) :
    (x.node.activated now).node.smoothPub = some true ∧
      (x.node.activated now).node.statePub = some true ∧
      (x.node.activated now).node.navClient = true := by
  obtain ⟨_, _, y, hrun, hl, rfl⟩ := h
  obtain ⟨hsmooth, hstate, hnav, -⟩ := (wired_run hrun).dormant hl
  exact ⟨congrArg LifecyclePublisher.onActivate hsmooth,
    congrArg LifecyclePublisher.onActivate hstate, hnav⟩

/-! ## Publishing -/

/-- The step publishes on `cmd_vel_smoothed` or `mux_state`. -/
def Publishes (e : LifecycleStep V) : Prop := ∃ o ∈ e.output, o.isPublished = true

/-- A shutdown from the active state, which leaves the publishers active and the timer running. -/
def ShutDownActive (e : LifecycleStep V) : Prop :=
  match e.input with
  | .shutdown => e.pre.lifecycle = .active
  | _ => False

/-- The timer fires. -/
def Fires (e : LifecycleStep V) : Prop :=
  match e.input with
  | .mux (.controlLoop _) => True
  | _ => False

omit [VelocityScalar V] in
instance (e : LifecycleStep V) : Decidable (Publishes e) :=
  inferInstanceAs (Decidable (∃ o ∈ e.output, _))

omit [VelocityScalar V] in
instance (e : LifecycleStep V) : Decidable (ShutDownActive e) :=
  match e with
  | ⟨_, .shutdown, _, _⟩ => inferInstanceAs (Decidable (_ = _))
  | ⟨_, .configure _, _, _⟩ | ⟨_, .activate _, _, _⟩ | ⟨_, .deactivate, _, _⟩
  | ⟨_, .cleanup, _, _⟩ | ⟨_, .mux _, _, _⟩ => inferInstanceAs (Decidable False)

omit [VelocityScalar V] in
instance (e : LifecycleStep V) : Decidable (Fires e) :=
  match e with
  | ⟨_, .mux (.controlLoop _), _, _⟩ => inferInstanceAs (Decidable True)
  | ⟨_, .mux (.teleop ..), _, _⟩ | ⟨_, .mux (.nav ..), _, _⟩ | ⟨_, .mux (.fdirState ..), _, _⟩
  | ⟨_, .mux (.safetyState ..), _, _⟩ | ⟨_, .configure _, _, _⟩ | ⟨_, .activate _, _, _⟩
  | ⟨_, .deactivate, _, _⟩ | ⟨_, .cleanup, _, _⟩ | ⟨_, .shutdown, _, _⟩ =>
    inferInstanceAs (Decidable False)

/-- A finalized node sends exactly if it was shut down from the active state; then its timer runs. -/
structure Finalized (past : List (LifecycleStep V)) (x : MuxLifecycle V) : Prop extends Wired x where
  sends : (∃ e ∈ past, ShutDownActive e) ↔
    x.lifecycle = .finalized ∧ x.mux.node.smoothPub.isActivated = true
  runs : x.lifecycle = .finalized → x.mux.node.smoothPub.isActivated = true →
    x.watchdogTimer = true

omit [VelocityScalar V] in
/-- A step that is no shutdown of an active node, and does not touch a finalized one. -/
theorem Finalized.concat {past : List (LifecycleStep V)} {e : LifecycleStep V}
    (h : Finalized past e.pre) (hwired : Wired e.post) (hno : ¬ ShutDownActive e)
    (hl : e.post.lifecycle = .finalized ↔ e.pre.lifecycle = .finalized)
    (hsame : e.pre.lifecycle = .finalized →
      e.post.mux.node.smoothPub = e.pre.mux.node.smoothPub ∧
        e.post.watchdogTimer = e.pre.watchdogTimer) : Finalized (past ++ [e]) e.post where
  toWired := hwired
  sends := by
    have hpast : (∃ e' ∈ past ++ [e], ShutDownActive e') ↔ ∃ e' ∈ past, ShutDownActive e' := by
      simp [or_and_right, exists_or, hno]
    rw [hpast, h.sends, hl]
    exact and_congr_right fun hf => by rw [(hsame hf).1]
  runs hf hp := by
    obtain ⟨hpub, htimer⟩ := hsame (hl.1 hf)
    rw [htimer]
    exact h.runs (hl.1 hf) (hpub ▸ hp)

theorem finalized_step {past : List (LifecycleStep V)} {e : LifecycleStep V} (he : events.Takes e)
    (h : Finalized past e.pre) : Finalized (past ++ [e]) e.post := by
  have hwired := wired_step he h.toWired
  induction e, he using takes_rec with
  | skipped x i hi =>
    refine h.concat hwired (fun hs => ?_) Iff.rfl fun _ => ⟨rfl, rfl⟩
    cases i with
    | shutdown => exact hi (by simp [Handled, show x.lifecycle = .active from hs])
    | _ => exact hs
  | configure x params hl =>
    exact h.concat hwired id (by simp [hl]) fun hf => by simp [hl] at hf
  | activate x now hl hnow =>
    exact h.concat hwired id (by simp [hl]) fun hf => by simp [hl] at hf
  | deactivate x hl => exact h.concat hwired id (by simp [hl]) fun hf => by simp [hl] at hf
  | cleanup x hl => exact h.concat hwired id (by simp [hl]) fun hf => by simp [hl] at hf
  | mux x i o m hi htake =>
    exact h.concat hwired id Iff.rfl fun _ => ⟨(TwistMuxNode.handles_step htake).1, rfl⟩
  | shutdown x hl =>
    have hsends := h.toWired.isActivated_iff hl
    refine ⟨hwired, ?_, fun _ hp => ?_⟩
    · have hpast : ¬ ∃ e ∈ past, ShutDownActive e := fun hs => hl (h.sends.1 hs).1
      simp only [List.mem_append, List.mem_singleton, or_and_right, exists_or, hpast, false_or,
        exists_eq_left]
      exact ⟨fun hs => ⟨trivial, hsends.2 hs⟩, fun hs => hsends.1 hs.2⟩
    · exact (h.toWired.sending (hsends.1 hp)).2.2.2.2

theorem finalized_run {now : Time} (h : events.Run (construct now) tr x) : Finalized tr x :=
  h.history (H := Finalized) ⟨wired_construct now, by simp [construct], by simp [construct]⟩
    fun _ _ _ he hpre => finalized_step he hpre

/-- The steps that publish are the firings that find the publisher active. -/
theorem publishes_iff {e : LifecycleStep V} (he : events.Takes e) :
    Publishes e ↔ Fires e ∧ e.pre.watchdogTimer = true ∧
      e.pre.mux.node.smoothPub.isActivated = true := by
  induction e, he using takes_rec with
  | skipped x i hi =>
    refine iff_of_false (by simp [Publishes]) ?_
    rintro ⟨hf, htimer, -⟩
    cases i with
    | mux i =>
      cases i with
      | controlLoop now => exact hi htimer
      | _ => exact hf
    | _ => exact hf
  | mux x i o m hi htake =>
    refine (TwistMuxNode.publishes_iff htake).trans ?_
    cases i with
    | controlLoop now =>
      have htimer : x.watchdogTimer = true := hi
      simp [Fires, htimer]
    | _ => simp [Fires]
  | _ => simp [Publishes, Fires]

/-- **Publishing while active.** Over a run from construction, everything that is published is
published in the active state, if and only if the timer does not fire after a shutdown from the
active state. -/
theorem publishes_run_iff {now : Time} (h : events.Run (construct now) tr x) :
    (∀ e ∈ tr, Publishes e → e.pre.lifecycle = .active) ↔
      Throughout (fun past e => Fires e → ¬ ∃ e' ∈ past, ShutDownActive e') tr := by
  rw [← throughout_const (p := fun e => Publishes e → e.pre.lifecycle = .active)]
  refine h.throughout_congr (C := fun _ => True) (fun _ _ => trivial) fun past e hpast he _ _ => ?_
  have hfinal := finalized_run hpast
  rw [publishes_iff he]
  constructor
  · rintro hactive hf hs
    obtain ⟨hl, hp⟩ := hfinal.sends.1 hs
    have hl' := hactive ⟨hf, hfinal.runs hl hp, hp⟩
    exact absurd (hl.symm.trans hl') (by decide)
  · rintro hlate ⟨hf, -, hp⟩
    by_cases hl : e.pre.lifecycle = .finalized
    · exact absurd (hfinal.sends.2 ⟨hl, hp⟩) (hlate hf)
    · exact (hfinal.toWired.isActivated_iff hl).1 hp

/-- A drive, and a shutdown after the deactivation. -/
def orderlyShutdown : List (MuxLifecycleEvent ℚ) :=
  [.configure {}, .activate 0, .mux (.teleop 1 true ⟨⟨1, 0, 0⟩, 0⟩), .mux (.controlLoop 1),
    .deactivate, .mux (.controlLoop 2), .shutdown, .mux (.controlLoop 3)]

theorem publishes_run_orderlyShutdown :
    (events.trace (construct 0) orderlyShutdown).length = 8 ∧
    ∀ e ∈ events.trace (construct 0) orderlyShutdown, Publishes e → e.pre.lifecycle = .active :=
  ⟨by decide +kernel, (publishes_run_iff
    (events.run_trace (construct 0) orderlyShutdown (by decide +kernel))).2 (by decide +kernel)⟩

/-- A shutdown from the active state, and the next firing of the timer. -/
def lateFiring : List (MuxLifecycleEvent ℚ) :=
  [.configure {}, .activate 0, .shutdown, .mux (.controlLoop 1)]

/-- The finalized node publishes on both topics. -/
theorem lateFiring_publishes :
    events.Run (construct 0) (events.trace (construct 0) lateFiring)
      (events.final (construct 0) lateFiring) ∧
    ¬ (∀ e ∈ events.trace (construct 0) lateFiring, Publishes e → e.pre.lifecycle = .active) ∧
    ((events.trace (construct 0) lateFiring).map fun e => e.output).getLast? =
      some [.muxState TwistMuxStateMsg.idle, .cmdVelSmoothed 0] :=
  ⟨events.run_trace _ _ (by decide +kernel), by decide +kernel, by decide +kernel⟩

end MuxLifecycle

end MonaRobot
