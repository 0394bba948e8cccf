import MonaRobot.Control.Blocking

/-!
# An idle gamepad

`teleop_callback` stores a near-zero command and writes nothing else, and only a tick in the mode
`MANUAL` reads what is stored. So a node that has not received it differs at most in the stored
command and in the velocities that ticks derive from it, and such a node decides alike.

* `SameButTeleop`: two nodes that differ in nothing else. Every callback keeps it, with the same
  cancel requests and mux states (`SameButTeleop.handle`), and so does every lifecycle transition.
* `idleGamepad_run`: deleting any near-zero commands from a run since an activation leaves the mode,
  the timers, the nav command and what is sent at every other step as they were, and every target
  but that of the mode `MANUAL`.
-/

namespace MonaRobot

open Reactive

namespace TwistMuxNode

variable {V : Type}

/-! ## One callback -/

/-- What is sent besides the velocities: the cancel requests and the mux states. -/
def arbitration (o : List (MuxOutput V)) : List (MuxOutput V) :=
  o.filter fun
    | .cmdVelSmoothed _ => false
    | _ => true

@[simp] theorem arbitration_tick (s : TwistMuxNode V) (msg : Twist V) :
    arbitration (s.publishState ++ [.cmdVelSmoothed msg]) = s.publishState := by
  unfold publishState
  split_ifs <;> rfl

/-- The node with another stored teleop command, and with another target and velocity. -/
def withTeleop (s : TwistMuxNode V) (msg target current : Twist V) : TwistMuxNode V :=
  { s with lastTeleopMsg := msg, targetVel := target, currentVel := current }

/-- The nodes differ at most in the stored teleop command, and in the target and the velocity that
ticks derive from it. -/
def SameButTeleop (s a : TwistMuxNode V) : Prop :=
  ∃ msg target current, a = s.withTeleop msg target current

theorem SameButTeleop.refl (s : TwistMuxNode V) : SameButTeleop s s := ⟨_, _, _, rfl⟩

theorem SameButTeleop.of_common {s a b : TwistMuxNode V} (ha : SameButTeleop s a)
    (hb : SameButTeleop s b) : SameButTeleop a b := by
  obtain ⟨msg, target, current, rfl⟩ := ha
  obtain ⟨msg', target', current', rfl⟩ := hb
  exact ⟨msg', target', current', rfl⟩

/-- What neither reads nor writes the three. -/
theorem SameButTeleop.congr {s a : TwistMuxNode V} {f : TwistMuxNode V → TwistMuxNode V}
    (h : SameButTeleop s a) (hf : ∀ s msg target current,
      f (withTeleop s msg target current) = (f s).withTeleop msg target current) :
    SameButTeleop (f s) (f a) := by
  obtain ⟨msg, target, current, rfl⟩ := h
  exact ⟨msg, target, current, hf s msg target current⟩

/-- What arbitration decides by, and what it hands on. -/
structure SameMode (s a : TwistMuxNode V) : Prop where
  currentState : a.currentState = s.currentState
  lastTeleopTime : a.lastTeleopTime = s.lastTeleopTime
  lastNavTime : a.lastNavTime = s.lastNavTime
  lastNavMsg : a.lastNavMsg = s.lastNavMsg

theorem SameButTeleop.sameMode {s a : TwistMuxNode V} (h : SameButTeleop s a) : SameMode s a := by
  obtain ⟨msg, target, current, rfl⟩ := h
  exact ⟨rfl, rfl, rfl, rfl⟩

theorem navCallback_withTeleop (s : TwistMuxNode V) (old target current : Twist V)
    (stamp now : Time) (msg : Twist V) :
    (s.withTeleop old target current).navCallback stamp now msg =
      (s.navCallback stamp now msg).withTeleop old target current := by
  have hl : (s.withTeleop old target current).listens = s.listens := rfl
  have htime : (s.withTeleop old target current).lastTeleopTime = s.lastTeleopTime := rfl
  have htimeout : (s.withTeleop old target current).manualTimeout = s.manualTimeout := rfl
  simp only [navCallback, acceptNav, hl, htime, htimeout]
  split_ifs <;> rfl

variable [VelocityScalar V] {s s' a : TwistMuxNode V} {now : Time}

/-- The stored command is read by no branch of `teleop_callback`. -/
theorem teleopCallback_withTeleop (s : TwistMuxNode V) (old target current : Twist V)
    (now : Time) (ready : Bool) (msg : Twist V) : ∃ stored,
    (s.withTeleop old target current).teleopCallback now ready msg =
      ((s.teleopCallback now ready msg).1.withTeleop stored target current,
        (s.teleopCallback now ready msg).2) := by
  have hl : (s.withTeleop old target current).listens = s.listens := rfl
  rw [teleopCallback, teleopCallback, hl]
  by_cases hdropped : s.listens = false
  · rw [if_pos hdropped, if_pos hdropped]
    exact ⟨old, rfl⟩
  rw [if_neg hdropped, if_neg hdropped, acceptTeleop, acceptTeleop]
  by_cases hz : isZeroCmd msg = true
  · rw [if_pos hz, if_pos hz]
    exact ⟨msg, rfl⟩
  · rw [if_neg hz, if_neg hz]
    exact ⟨msg, rfl⟩

/-- The target that a tick selects is the same but in the mode `MANUAL`. -/
theorem SameButTeleop.selectTarget (h : SameButTeleop s a) (hr : s.selectTarget now = .ok s') :
    ∃ a', a.selectTarget now = .ok a' ∧ SameButTeleop s' a' ∧
      (s'.currentState ≠ .manual → a'.targetVel = s'.targetVel) := by
  obtain ⟨msg, target, current, rfl⟩ := h
  rcases selectTarget_cases hr with
    ⟨hb, rfl⟩ | ⟨hb, hs, rfl⟩ | ⟨hb, hs, hm, rfl⟩ | ⟨hb, hs, hm, rfl⟩
  · exact ⟨_, if_pos hb, ⟨msg, 0, current, rfl⟩, fun _ => rfl⟩
  · have hb' : (s.withTeleop msg target current).isSafetyBlocked ≠ true := by simp [withTeleop, hb]
    exact ⟨_, (if_neg hb').trans (if_pos hs), ⟨msg, 0, current, rfl⟩, fun _ => rfl⟩
  · exact ⟨_, selectTarget_manual hb hs hm, ⟨msg, msg, current, rfl⟩, fun hne => absurd hm hne⟩
  · exact ⟨_, selectTarget_autonomous hb hs hm, ⟨msg, s.lastNavMsg, current, rfl⟩, fun _ => rfl⟩

theorem SameButTeleop.controlLoop {o : List (MuxOutput V)} (h : SameButTeleop s a)
    (htick : s.controlLoop now = .ok (s', o)) : ∃ a' o', a.controlLoop now = .ok (a', o') ∧
      SameButTeleop s' a' ∧ arbitration o' = arbitration o ∧ (s.smoothPub.isActivated = true →
        s'.currentState ≠ .manual → a'.targetVel = s'.targetVel) := by
  have hpub : a.smoothPub = s.smoothPub := by
    obtain ⟨msg, target, current, rfl⟩ := h
    rfl
  rcases controlLoop_cases htick with ⟨hp, rfl, rfl⟩ | ⟨hp, r, hr, rfl, rfl⟩
  · refine ⟨a, [], ?_, h, rfl, fun hp' => absurd (hp.symm.trans hp') Bool.false_ne_true⟩
    rw [TwistMuxNode.controlLoop, hpub, if_pos hp]
  · obtain ⟨q, hq, ⟨msg, target, current, rfl⟩, htarget⟩ := h.selectTarget hr
    have htick' : a.controlLoop now = .ok ((r.withTeleop msg target current).filterVelocity,
        r.publishState ++
          [.cmdVelSmoothed (r.withTeleop msg target current).filterVelocity.currentVel]) := by
      rw [TwistMuxNode.controlLoop, hpub, if_neg (by simp [hp]), hq]
      rfl
    refine ⟨_, _, htick', ⟨msg, target, _, rfl⟩, ?_, fun _ => htarget⟩
    rw [arbitration_tick, arbitration_tick]

/-- **One callback.** What it decides does not depend on the stored teleop command. -/
theorem SameButTeleop.handle {i : MuxEvent V} {o : List (MuxOutput V)} (h : SameButTeleop s a)
    (hs : s.handle i = .ok (s', o)) : ∃ a' o', a.handle i = .ok (a', o') ∧ SameButTeleop s' a' ∧
      arbitration o' = arbitration o ∧ ((∃ now, i = .controlLoop now) →
        s.smoothPub.isActivated = true → s'.currentState ≠ .manual →
        a'.targetVel = s'.targetVel) := by
  cases i with
  | controlLoop now =>
    obtain ⟨a', o', htick, hpost, hout, htarget⟩ := h.controlLoop hs
    exact ⟨a', o', htick, hpost, hout, fun _ => htarget⟩
  | teleop now ready msg =>
    obtain ⟨rfl, rfl⟩ := Prod.mk.inj (Except.ok.inj hs)
    obtain ⟨old, target, current, rfl⟩ := h
    obtain ⟨stored, heq⟩ := s.teleopCallback_withTeleop old target current now ready msg
    exact ⟨_, _, congrArg Except.ok heq, ⟨stored, target, current, rfl⟩, rfl, by simp⟩
  | nav stamp now msg =>
    obtain ⟨rfl, rfl⟩ := Prod.mk.inj (Except.ok.inj hs)
    obtain ⟨old, target, current, rfl⟩ := h
    refine ⟨_, _, rfl, ⟨old, target, current, ?_⟩, rfl, by simp⟩
    exact s.navCallback_withTeleop old target current stamp now msg
  | fdirState now msg | safetyState now msg =>
    obtain ⟨rfl, rfl⟩ := Prod.mk.inj (Except.ok.inj hs)
    obtain ⟨old, target, current, rfl⟩ := h
    exact ⟨_, _, rfl, ⟨old, target, current, rfl⟩, rfl, by simp⟩

/-- The same for a step, at a clock that may lag. -/
theorem SameButTeleop.takes {e : MuxStep V} {y : Clocked (TwistMuxNode V)} (he : events.Takes e)
    (h : SameButTeleop e.pre.node y.node) (hclock : y.clock ≤ e.pre.clock) :
    ∃ o z, events.Takes ⟨y, e.input, o, z⟩ ∧ z.clock = e.post.clock ∧
      SameButTeleop e.post.node z.node ∧ arbitration o = arbitration e.output ∧
      (Ticks e → e.post.node.currentState ≠ .manual →
        z.node.targetVel = e.post.node.targetVel) := by
  obtain ⟨x, i, o, x'⟩ := e
  obtain ⟨⟨hstart, hfinish⟩, hhandle, hpost⟩ := takes_iff.1 he
  obtain ⟨a, o', ha, hnode, hout, htarget⟩ := h.handle hhandle
  refine ⟨o', ⟨i.finish, a⟩, takes_iff.2 ⟨⟨hclock.trans hstart, hfinish⟩, ha, rfl⟩, hpost.symm,
    hnode, hout, fun ht => ?_⟩
  cases i with
  | controlLoop now => exact htarget ⟨now, rfl⟩ ht
  | _ => exact ht.elim

/-- A near-zero command is stored or dropped, and nothing is sent. -/
theorem handle_idle {ready : Bool} {msg : Twist V} {o : List (MuxOutput V)}
    (hs : s.handle (.teleop now ready msg) = .ok (s', o)) (hz : isZeroCmd msg = true) :
    SameButTeleop s s' ∧ o = [] := by
  have htaken : s.teleopCallback now ready msg = (s', o) := Except.ok.inj hs
  unfold teleopCallback acceptTeleop at htaken
  split_ifs at htaken with hl
  · obtain ⟨rfl, rfl⟩ := Prod.mk.inj htaken
    exact ⟨.refl s, rfl⟩
  · obtain ⟨rfl, rfl⟩ := Prod.mk.inj htaken
    exact ⟨⟨msg, s.targetVel, s.currentVel, rfl⟩, rfl⟩

end TwistMuxNode

namespace MuxLifecycle

open TwistMuxNode (SameMode arbitration)

variable {V : Type} [VelocityScalar V] {x x' y y' : MuxLifecycle V} {e : LifecycleStep V}

/-! ## One step of the node -/

/-- A near-zero teleop message. -/
def IdleCommand (e : LifecycleStep V) : Prop :=
  match e.input with
  | .mux (.teleop _ _ msg) => isZeroCmd msg = true
  | _ => False

instance : DecidablePred (IdleCommand (V := V)) := fun e =>
  match e with
  | ⟨_, .mux (.teleop ..), _, _⟩ => inferInstanceAs (Decidable (_ = _))
  | ⟨_, .mux (.nav ..), _, _⟩ | ⟨_, .mux (.fdirState ..), _, _⟩
  | ⟨_, .mux (.safetyState ..), _, _⟩ | ⟨_, .mux (.controlLoop _), _, _⟩
  | ⟨_, .configure _, _, _⟩ | ⟨_, .activate _, _, _⟩ | ⟨_, .deactivate, _, _⟩
  | ⟨_, .cleanup, _, _⟩ | ⟨_, .shutdown, _, _⟩ => inferInstanceAs (Decidable False)

/-- The timer fires, and `control_loop` finds its publisher active and completes. -/
def CompletesTick (e : LifecycleStep V) : Prop :=
  match e.input with
  | .mux i => e.pre.receives i = true ∧ TwistMuxNode.Ticks ⟨e.pre.mux, i, e.output, e.post.mux⟩
  | _ => False

/-- The steps are the same for arbitration, and, but for ticks in the mode `MANUAL`, for the
target. -/
structure SameArbitration (e e' : LifecycleStep V) : Prop where
  input : e'.input = e.input
  pre : SameMode e.pre.mux.node e'.pre.mux.node
  post : SameMode e.post.mux.node e'.post.mux.node
  output : arbitration e'.output = arbitration e.output
  target : CompletesTick e → e.post.mux.node.currentState ≠ .manual →
    e'.post.mux.node.targetVel = e.post.mux.node.targetVel

/-- The node `y` is `x` but for what teleop commands leave behind, and its clock may lag. -/
structure SameButTeleop (x y : MuxLifecycle V) : Prop where
  lifecycle : y.lifecycle = x.lifecycle
  subscribed : y.subscribed = x.subscribed
  watchdogTimer : y.watchdogTimer = x.watchdogTimer
  clock : y.mux.clock ≤ x.mux.clock
  node : x.mux.node.SameButTeleop y.mux.node

omit [VelocityScalar V] in
theorem SameButTeleop.refl (x : MuxLifecycle V) : SameButTeleop x x :=
  ⟨rfl, rfl, rfl, le_rfl, .refl _⟩

omit [VelocityScalar V] in
theorem SameButTeleop.transition (h : SameButTeleop x y) (t : Transition)
    (h' : SameButTeleop x' y') : SameButTeleop (x.transition t x') (y.transition t y') := by
  unfold MuxLifecycle.transition
  rw [h.lifecycle]
  cases t.target x.lifecycle with
  | none => exact h
  | some p => exact ⟨rfl, h'.subscribed, h'.watchdogTimer, h'.clock, h'.node⟩

/-- **One step.** What it decides does not depend on what teleop commands leave behind. -/
theorem SameButTeleop.step {i : MuxLifecycleEvent V} {o : List (MuxOutput V)}
    (h : SameButTeleop x y) (hs : events.step x i = some (x', o)) :
    ∃ y' o', events.step y i = some (y', o') ∧ SameButTeleop x' y' ∧
      arbitration o' = arbitration o ∧ (CompletesTick ⟨x, i, o, x'⟩ →
        x'.mux.node.currentState ≠ .manual →
        y'.mux.node.targetVel = x'.mux.node.targetVel) := by
  cases i with
  | configure params =>
    obtain ⟨rfl, rfl⟩ := Prod.mk.inj (Option.some.inj hs)
    refine ⟨_, _, rfl, h.transition .configure ?_, rfl, fun hc => hc.elim⟩
    exact ⟨h.lifecycle, rfl, rfl, h.clock,
      h.node.congr (f := fun s => s.onConfigure params) fun _ _ _ _ => rfl⟩
  | activate now =>
    simp only [events] at hs ⊢
    split_ifs at hs with hnow
    obtain ⟨rfl, rfl⟩ := Prod.mk.inj (Option.some.inj hs)
    rw [if_pos (h.clock.trans hnow)]
    refine ⟨_, _, rfl, h.transition .activate ?_, rfl, fun hc => hc.elim⟩
    refine ⟨h.lifecycle, h.subscribed, h.watchdogTimer, le_rfl, ?_⟩
    exact h.node.congr (f := fun s => s.onActivate now) fun _ _ _ _ => rfl
  | deactivate =>
    obtain ⟨rfl, rfl⟩ := Prod.mk.inj (Option.some.inj hs)
    refine ⟨_, _, rfl, h.transition .deactivate ?_, rfl, fun hc => hc.elim⟩
    exact ⟨h.lifecycle, h.subscribed, h.watchdogTimer, h.clock,
      h.node.congr (f := fun s => s.onDeactivate) fun _ _ _ _ => rfl⟩
  | cleanup =>
    obtain ⟨rfl, rfl⟩ := Prod.mk.inj (Option.some.inj hs)
    refine ⟨_, _, rfl, h.transition .cleanup ?_, rfl, fun hc => hc.elim⟩
    exact ⟨h.lifecycle, rfl, rfl, h.clock,
      h.node.congr (f := fun s => s.onCleanup) fun _ _ _ _ => rfl⟩
  | shutdown =>
    obtain ⟨rfl, rfl⟩ := Prod.mk.inj (Option.some.inj hs)
    refine ⟨_, _, rfl, h.transition .shutdown ?_, rfl, fun hc => hc.elim⟩
    exact ⟨h.lifecycle, h.subscribed, h.watchdogTimer, h.clock, h.node⟩
  | mux i =>
    have hreceives : y.receives i = x.receives i := by
      cases i <;> simp only [receives, h.subscribed, h.watchdogTimer]
    simp only [events, hreceives] at hs ⊢
    split_ifs at hs ⊢ with hi
    · obtain ⟨⟨m, o'⟩, htake, hr⟩ := Option.map_eq_some_iff.1 hs
      obtain ⟨rfl, rfl⟩ := Prod.mk.inj hr
      obtain ⟨o'', n, htake', hclock, hnode, hout, htarget⟩ :=
        h.node.takes (e := ⟨x.mux, i, o', m⟩) htake h.clock
      exact ⟨{ y with mux := n }, o'', Option.map_eq_some_iff.2 ⟨_, htake', rfl⟩,
        ⟨h.lifecycle, h.subscribed, h.watchdogTimer, hclock.le, hnode⟩, hout,
        fun hc => htarget hc.2⟩
    · obtain ⟨rfl, rfl⟩ := Prod.mk.inj (Option.some.inj hs)
      exact ⟨y, [], rfl, h, rfl, fun hc => absurd hc.1 hi⟩

theorem SameButTeleop.matched (he : events.Takes e) (h : SameButTeleop e.pre y) :
    ∃ e', events.Takes e' ∧ e'.pre = y ∧ SameArbitration e e' ∧ SameButTeleop e.post e'.post := by
  obtain ⟨y', o', hs', hpost, hout, htarget⟩ := h.step he
  exact ⟨⟨y, e.input, o', y'⟩, hs', rfl,
    ⟨rfl, h.node.sameMode, hpost.node.sameMode, hout, htarget⟩, hpost⟩

/-- A near-zero command leaves the rest of the node alone, and nothing is sent. -/
theorem idleCommand_step (he : events.Takes e) (hi : IdleCommand e) (h : SameButTeleop e.pre y) :
    SameButTeleop e.post y ∧ e.output = [] := by
  induction e, he using takes_rec with
  | skipped x i hskip => exact ⟨h, rfl⟩
  | mux x i o m hreceives htake =>
    cases i with
    | teleop now ready msg =>
      obtain ⟨⟨hstart, -⟩, hhandle, hclock⟩ := TwistMuxNode.takes_iff.1 htake
      obtain ⟨hnode, hnone⟩ := TwistMuxNode.handle_idle hhandle hi
      exact ⟨⟨h.lifecycle, h.subscribed, h.watchdogTimer, h.clock.trans (hstart.trans hclock.ge),
        hnode.of_common h.node⟩, hnone⟩
    | _ => exact hi.elim
  | _ => exact hi.elim

/-! ## Whole runs -/

/-- The node right after an activation at time `now`, whatever state it was left in before. -/
def activated (x : MuxLifecycle V) (now : Time) : MuxLifecycle V :=
  { x.onActivate now with lifecycle := .active }

/-- **Idle-gamepad traffic is invisible.** What is left of a run since an activation when any
near-zero teleop commands are deleted is a run. Its steps are the same for arbitration, and so is
everything that is sent in the whole run; and the next tick completes after the one exactly if it
does after the other. -/
theorem idleGamepad_run (x : MuxLifecycle V) (now : Time) {tr kept : List (LifecycleStep V)}
    {t : MuxLifecycle V} (h : events.Run (x.activated now) tr t)
    (hk : Erases IdleCommand tr kept) :
    ∃ tr' t', events.Run (x.activated now) tr' t' ∧ List.Forall₂ SameArbitration kept tr' ∧
      tr'.flatMap (fun e => arbitration e.output) = tr.flatMap (fun e => arbitration e.output) ∧
      ∀ time, (∃ r, t'.mux.node.controlLoop time = .ok r) ↔
        ∃ r, t.mux.node.controlLoop time = .ok r := by
  obtain ⟨tr', t', hrun, hlast, hall⟩ := h.erase (fun _ _ he hpre => hpre.matched he)
    (fun _ _ he hi hpre => (idleCommand_step he hi hpre).1) hk (.refl _)
  refine ⟨tr', t', hrun, hall, ?_, fun time => ?_⟩
  · have hsilent : ∀ e ∈ tr, IdleCommand e → arbitration e.output = [] := by
      intro e he hi
      rw [(idleCommand_step (h.takes e he) hi (.refl _)).2]
      rfl
    have hsame : kept.map (fun e => arbitration e.output) = tr'.map fun e => arbitration e.output :=
      map_eq_of_forall₂ hall fun _ _ halike => halike.output.symm
    rw [hk.flatMap_eq hsilent, List.flatMap_def, List.flatMap_def, hsame]
  · obtain ⟨msg, target, current, heq⟩ := hlast.node
    rw [heq, TwistMuxNode.controlLoop_isOk_iff, TwistMuxNode.controlLoop_isOk_iff]
    exact Iff.rfl

/-- A manual command, and a nav command after the lockout, with the near-zero commands of an idle
gamepad in between. -/
def idleGamepad : List (MuxLifecycleEvent ℚ) :=
  [.mux (.teleop 1 true ⟨⟨1, 0, 0⟩, 0⟩), .mux (.controlLoop 1), .mux (.teleop 1 true 0),
    .mux (.controlLoop 1), .mux (.teleop 2 true 0), .mux (.nav 3 3 ⟨⟨1, 0, 0⟩, 0⟩),
    .mux (.teleop 3 true 0), .mux (.controlLoop 3)]

theorem idleGamepad_run_nav :
    ∃ tr' t', events.Run ((onConfigure (construct 0) {}).activated 0) tr' t' ∧
      tr'.length = 5 ∧ List.Forall₂ SameArbitration
        ((events.trace ((onConfigure (construct 0) {}).activated 0) idleGamepad).filter
          fun e => !decide (IdleCommand e)) tr' := by
  have hrun := events.run_trace ((onConfigure (construct 0) {}).activated 0) idleGamepad
    (by decide +kernel)
  obtain ⟨tr', t', hrun', hall, -⟩ := idleGamepad_run _ 0 hrun (.filter IdleCommand _)
  refine ⟨tr', t', hrun', ?_, hall⟩
  rw [← hall.length_eq]
  decide +kernel

end MuxLifecycle

end MonaRobot
