import MonaRobot.Control.TwistMux
import MonaRobot.Foundations.History
import MonaRobot.Foundations.Lockout

/-!
# Manual priority

The multiplexer is a lockout: a teleop command outside the deadzone is a priority command, a nav
message is a request, and the mode `AUTONOMOUS` is the grant, which a blocked or idle tick releases.
The lockout time is `manual_takeover_time`. Near-zero teleop commands, messages received while
blocked and health messages are no inputs of the lockout.

* `lockout_simulates`: the lockout machine simulates the multiplexer.
* `routesNav_step`: the ticks that route the nav command are those that leave the mode at
  `AUTONOMOUS`, with the target `last_nav_msg_`.
* `manual_priority`: whenever a tick routes the nav command, no manual command was accepted within
  `manual_takeover_time` before it.
-/

namespace MonaRobot

open Reactive

namespace TwistMuxNode

variable {V : Type} [VelocityScalar V]

/-- A teleop command outside the deadzone, received at `t` while not blocked. -/
def AcceptsManual (e : MuxStep V) (t : Time) : Prop :=
  e.pre.node.listens = true ∧
    ∃ ready msg, e.input = .teleop t ready msg ∧ isZeroCmd msg = false

/-- A tick at `now` sets the target from `last_nav_msg_`. -/
def RoutesNav (s : TwistMuxNode V) (now : Time) : Prop :=
  s.smoothPub.isActivated = true ∧ s.isSafetyBlocked = false ∧ ¬ s.Silent now ∧
    s.currentState = .autonomous

/-- The tick then takes the branch that reads `last_nav_msg_`. -/
theorem RoutesNav.selectTarget {s : TwistMuxNode V} {now : Time} (h : s.RoutesNav now) :
    s.selectTarget now = .ok { s with targetVel := s.lastNavMsg } := by
  obtain ⟨-, hb, hs, hm⟩ := h
  exact selectTarget_autonomous hb hs hm

/-- And no other branch leaves the mode at `AUTONOMOUS`. -/
theorem routesNav_iff {s s' : TwistMuxNode V} {now : Time} (hp : s.smoothPub.isActivated = true)
    (h : s.selectTarget now = .ok s') :
    s.RoutesNav now ↔ s'.currentState = .autonomous ∧ s'.targetVel = s.lastNavMsg := by
  constructor
  · intro hroutes
    have hm : s.currentState = .autonomous := hroutes.2.2.2
    obtain rfl := Except.ok.inj (hroutes.selectTarget.symm.trans h)
    exact ⟨hm, rfl⟩
  · rintro ⟨hm', -⟩
    rcases selectTarget_cases h with ⟨-, rfl⟩ | ⟨-, -, rfl⟩ | ⟨-, -, hm, rfl⟩ | ⟨hb, hs, hm, -⟩
    · cases hm'
    · cases hm'
    · cases hm.symm.trans hm'
    · exact ⟨hp, hb, hs, hm⟩

/-- The ticks that route the nav command, by what they leave behind. -/
theorem routesNav_step {e : MuxStep V} (he : events.Takes e) {now : Time}
    (hi : e.input = .controlLoop now) :
    e.pre.node.RoutesNav now ↔ Ticks e ∧ e.post.node.currentState = .autonomous ∧
      e.post.node.targetVel = e.pre.node.lastNavMsg := by
  induction e, he using takes_rec with
  | controlLoop x now' s o hnow htick =>
    obtain rfl := MuxEvent.controlLoop.inj hi
    rcases controlLoop_cases htick with ⟨hp, -, -⟩ | ⟨hp, r, hr, rfl, -⟩
    · have hne : x.node.smoothPub.isActivated ≠ true := ne_true_of_eq_false hp
      exact ⟨fun h => absurd h.1 hne, fun h => absurd h.1 hne⟩
    · exact (routesNav_iff hp hr).trans (iff_and_self.2 fun _ => hp)
  | _ => cases hi

/-! ## The multiplexer as a lockout -/

/-- The inputs of the lockout in a step of the multiplexer. -/
def lockoutInputs (e : MuxStep V) : List (Lockout.Input Time) :=
  match e.input with
  | .teleop now _ msg =>
    if e.pre.node.listens && !isZeroCmd msg then [.high now] else []
  | .nav _ now _ => if e.pre.node.listens then [.request now] else []
  | .controlLoop now => if e.post.node.currentState = .autonomous then [] else [.release now]
  | _ => []

/-- The lockout behind a state of the multiplexer: its clock may lag, as not every event is one of
its inputs. -/
structure LockoutOf (d : Time) (x : Clocked (TwistMuxNode V)) (a : Lockout.State Time) : Prop where
  timeout : x.node.manualTimeout = d
  clock : a.clock ≤ x.clock
  granted : a.granted = true ↔ x.node.currentState = .autonomous
  lastHigh : a.lastHigh = x.node.lastTeleopTime

omit [VelocityScalar V] in
/-- An event that is no input of the lockout and keeps the mode and the lockout timer. -/
theorem LockoutOf.idle {d : Time} {x y : Clocked (TwistMuxNode V)} {a : Lockout.State Time}
    (h : LockoutOf d x a) (hclock : x.clock ≤ y.clock)
    (hd : y.node.manualTimeout = x.node.manualTimeout)
    (hm : y.node.currentState = x.node.currentState)
    (ht : y.node.lastTeleopTime = x.node.lastTeleopTime) :
    ∃ tr b, (Lockout.machine d).Run a tr b ∧ tr.map Step.input = [] ∧ LockoutOf d y b :=
  ⟨[], a, .nil a, rfl, hd.trans h.timeout, h.clock.trans hclock, by rw [hm]; exact h.granted,
    h.lastHigh.trans ht.symm⟩

omit [VelocityScalar V] in
/-- An event that is one input of the lockout. -/
theorem LockoutOf.input {d : Time} {x y : Clocked (TwistMuxNode V)} {a : Lockout.State Time}
    {i : Lockout.Input Time} (h : LockoutOf d x a) (hi : x.clock ≤ i.time)
    (hy : LockoutOf d y (Lockout.apply d a i)) :
    ∃ tr b, (Lockout.machine d).Run a tr b ∧ tr.map Step.input = [i] ∧ LockoutOf d y b := by
  have htake : (Lockout.machine d).Takes ⟨a, i, (), Lockout.apply d a i⟩ :=
    Lockout.takes_iff.2 ⟨h.clock.trans hi, rfl⟩
  exact ⟨_, _, .single htake, rfl, hy⟩

/-- A tick keeps the lockout timer, and leads to `AUTONOMOUS` from nowhere else. -/
theorem controlLoop_frame {s s' : TwistMuxNode V} {now : Time} {o : List (MuxOutput V)}
    (h : s.controlLoop now = .ok (s', o)) :
    s'.manualTimeout = s.manualTimeout ∧ s'.lastTeleopTime = s.lastTeleopTime ∧
      (s'.currentState = .autonomous → s.currentState = .autonomous) := by
  rcases controlLoop_cases h with ⟨-, rfl, -⟩ | ⟨-, r, hr, rfl, -⟩
  · exact ⟨rfl, rfl, id⟩
  rcases selectTarget_cases hr with ⟨-, rfl⟩ | ⟨-, -, rfl⟩ | ⟨-, -, -, rfl⟩ | ⟨-, -, -, rfl⟩
  · exact ⟨rfl, rfl, fun hm => by cases hm⟩
  · exact ⟨rfl, rfl, fun hm => by cases hm⟩
  · exact ⟨rfl, rfl, id⟩
  · exact ⟨rfl, rfl, id⟩

/-- **The multiplexer is a lockout.** -/
theorem lockout_simulates (d : Time) :
    Machine.Simulates (Lockout.machine d) (events (V := V)) lockoutInputs (LockoutOf d) := by
  intro e a he h
  induction e, he using takes_rec with
  | teleop x now ready msg hnow =>
    rcases x.node.teleopCallback_cases now ready msg with
      ⟨hl, heq⟩ | ⟨hl, hz, heq⟩ | ⟨hl, hz, heq⟩
    · simp only [lockoutInputs, hl, Bool.false_and, Bool.false_eq_true, if_false, heq]
      exact h.idle hnow rfl rfl rfl
    · simp only [lockoutInputs, hl, hz, Bool.not_true, Bool.and_false, Bool.false_eq_true,
        if_false, heq]
      exact h.idle hnow rfl rfl rfl
    · simp only [lockoutInputs, hl, hz, Bool.not_false, Bool.and_true, if_true, heq]
      refine h.input hnow ⟨h.timeout, le_rfl, ?_, rfl⟩
      simp [Lockout.apply]
  | nav x stamp now msg hstamp hnow =>
    have hclock : x.clock ≤ now := hstamp.trans hnow
    rcases x.node.navCallback_cases stamp now msg with
      ⟨hl, heq⟩ | ⟨hl, hlock, heq⟩ | ⟨hl, hlock, heq⟩
    · simp only [lockoutInputs, hl, Bool.false_eq_true, if_false, heq]
      exact h.idle hclock rfl rfl rfl
    · simp only [lockoutInputs, hl, if_true, heq]
      refine h.input hclock ⟨h.timeout, le_rfl, ?_, h.lastHigh⟩
      have hlate : ¬ d ≤ now - a.lastHigh := by
        rw [h.lastHigh, ← h.timeout]
        exact not_le.2 hlock
      simpa [Lockout.apply, hlate] using h.granted
    · simp only [lockoutInputs, hl, if_true, heq]
      refine h.input hclock ⟨h.timeout, le_rfl, ?_, h.lastHigh⟩
      have hlate : d ≤ now - a.lastHigh := by
        rw [h.lastHigh, ← h.timeout]
        exact hlock
      simp [Lockout.apply, hlate]
  | fdirState x now msg hnow => exact h.idle hnow rfl rfl rfl
  | safetyState x now msg hnow => exact h.idle hnow rfl rfl rfl
  | controlLoop x now s o hnow htick =>
    obtain ⟨htimeout, hteleop, hauto⟩ := controlLoop_frame htick
    by_cases hm : s.currentState = .autonomous
    · simp only [lockoutInputs, hm, if_true]
      exact h.idle hnow htimeout (hm.trans (hauto hm).symm) hteleop
    · simp only [lockoutInputs, hm, if_false]
      refine h.input hnow ⟨htimeout.trans h.timeout, le_rfl, ?_, h.lastHigh.trans hteleop.symm⟩
      simp [Lockout.apply, hm]

/-! ## Whole runs -/

omit [VelocityScalar V] in
/-- Right after an activation no grant stands. -/
theorem lockoutOf_activated (s : TwistMuxNode V) (t₀ : Time) :
    LockoutOf s.manualTimeout (s.activated t₀) ⟨t₀, t₀ - (s.manualTimeout + 1), false⟩ :=
  ⟨rfl, le_rfl, by simp [activated, onActivate], rfl⟩

/-- An accepted manual command is a priority command of the lockout. -/
theorem AcceptsManual.mem_lockoutInputs {e : MuxStep V} {t : Time} (h : AcceptsManual e t) :
    .high t ∈ lockoutInputs e := by
  obtain ⟨hl, ready, msg, hi, hz⟩ := h
  simp [lockoutInputs, hi, hl, hz]

/-- In the mode `AUTONOMOUS`, every manual command accepted since the activation is at least
`manual_takeover_time` old. -/
theorem autonomous_run (s : TwistMuxNode V) (t₀ : Time) {tr : List (MuxStep V)}
    {x : Clocked (TwistMuxNode V)} (h : events.Run (s.activated t₀) tr x)
    (hm : x.node.currentState = .autonomous) {e : MuxStep V} (he : e ∈ tr) {t : Time}
    (ht : AcceptsManual e t) : s.manualTimeout ≤ x.clock - t := by
  obtain ⟨tr', b, hrun, hinputs, hb⟩ :=
    h.simulates (lockout_simulates s.manualTimeout) (lockoutOf_activated s t₀)
  have hhigh : .high t ∈ tr'.map Step.input := by
    rw [hinputs]
    exact List.mem_flatMap.2 ⟨e, he, ht.mem_lockoutInputs⟩
  obtain ⟨e', he', hi⟩ := List.mem_map.1 hhigh
  calc s.manualTimeout ≤ b.clock - t := Lockout.granted_run hrun rfl (hb.granted.2 hm) e' he' t hi
    _ ≤ x.clock - t := sub_le_sub_right hb.clock t

/-- **Manual priority.** In any run since an activation, when a tick at `now` routes the nav
command, which are the ticks that go on in `AUTONOMOUS` with the target `last_nav_msg_`, no manual
command was accepted before it in the interval `(now - manual_takeover_time, now]`. -/
theorem manual_priority (s : TwistMuxNode V) (t₀ : Time) {tr : List (MuxStep V)}
    {x : Clocked (TwistMuxNode V)} (h : events.Run (s.activated t₀) tr x) :
    Throughout (fun past e => ∀ now, e.input = .controlLoop now →
      (e.pre.node.RoutesNav now ↔ Ticks e ∧ e.post.node.currentState = .autonomous ∧
        e.post.node.targetVel = e.pre.node.lastNavMsg) ∧
      (e.pre.node.RoutesNav now → ∀ e' ∈ past, ∀ t, AcceptsManual e' t →
        ¬ (now - s.manualTimeout < t ∧ t ≤ now))) tr := by
  rintro past e rest rfl now hi
  obtain ⟨hpast, htake, -⟩ := h.around
  refine ⟨routesNav_step htake hi, ?_⟩
  rintro ⟨-, -, -, hm⟩ e' he' t ht ⟨hrecent, -⟩
  have hold : s.manualTimeout ≤ e.pre.clock - t := autonomous_run s t₀ hpast hm he' ht
  have hclock : e.pre.clock ≤ now := by
    obtain ⟨y, i, o, z⟩ := e
    obtain rfl : i = .controlLoop now := hi
    simp only [Machine.Takes, events] at htake
    split_ifs at htake with hc
    exact hc.1
  linarith

/-- A manual command, a nav message inside the lockout and one after it, each with a tick. -/
def takeover : List (MuxEvent ℚ) :=
  [.teleop 11 true ⟨⟨4 / 5, 0, 0⟩, 0⟩, .controlLoop 11, .nav 12 12 ⟨⟨1 / 2, 0, 0⟩, 0⟩,
    .controlLoop 12, .nav 13 13 ⟨⟨1 / 2, 0, 0⟩, 0⟩, .controlLoop 13]

theorem manual_priority_takeover :
    Throughout (fun past e => ∀ now, e.input = .controlLoop now →
      (e.pre.node.RoutesNav now ↔ Ticks e ∧ e.post.node.currentState = .autonomous ∧
        e.post.node.targetVel = e.pre.node.lastNavMsg) ∧
      (e.pre.node.RoutesNav now → ∀ e' ∈ past, ∀ t, AcceptsManual e' t →
        ¬ (now - configured.manualTimeout < t ∧ t ≤ now)))
      (events.trace (configured.activated 10) takeover) :=
  manual_priority configured 10 (Machine.run_trace _ takeover (by decide +kernel))

end TwistMuxNode

end MonaRobot
