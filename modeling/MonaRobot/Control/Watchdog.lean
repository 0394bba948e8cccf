import MonaRobot.Control.TwistMux
import MonaRobot.Foundations.History

/-!
# The command watchdog

`control_loop` stops the robot when both sources are silent; which of the two it routes depends on
the mode. A nav message inside the manual lockout stamps `last_nav_time_` and is then dropped, so it
keeps the watchdog quiet without being the command that is routed: in `MANUAL` a teleop command of
any age stays the target as long as nav messages arrive.

* `Recorded`: which message the command of each mode is, and what its timestamp says about it.
* `watchdog_run_iff`: over a run, every nonzero target was received from its own source within
  `command_timeout` exactly if no tick finds the routed source silent and the other one fresh
  (`KeptAlive`).
-/

namespace MonaRobot

open Reactive

namespace TwistMuxNode

variable {V : Type} [VelocityScalar V]

/-! ## What is received from each source -/

/-- The teleop message a step stores in `last_teleop_msg_`, with the time it was received. -/
def teleopStored (e : MuxStep V) : Option (Time × Twist V) :=
  match e.input with
  | .teleop now _ msg => if e.pre.node.listens then some (now, msg) else none
  | _ => none

/-- The nav message a step stores in `last_nav_msg_`, with the time it was received. -/
def navStored (e : MuxStep V) : Option (Time × Twist V) :=
  match e.input with
  | .nav stamp now msg =>
    if e.pre.node.listens ∧ e.pre.node.manualTimeout ≤ now - e.pre.node.lastTeleopTime then
      some (stamp, msg)
    else none
  | _ => none

/-- The nonzero target a tick selects was received from the source of its mode within
`command_timeout`. -/
def Watched (past : List (MuxStep V)) (e : MuxStep V) : Prop :=
  ∀ now s, e.input = .controlLoop now → e.pre.node.smoothPub.isActivated = true →
    e.pre.node.selectTarget now = .ok s → s.targetVel ≠ 0 →
    (s.currentState = .manual ∧ ∃ e' ∈ past, ∃ t, teleopStored e' = some (t, s.targetVel) ∧
      now - s.cmdTimeout ≤ t) ∨
    (s.currentState = .autonomous ∧ ∃ e' ∈ past, ∃ t, navStored e' = some (t, s.targetVel) ∧
      now - s.cmdTimeout ≤ t)

/-- In `MANUAL` the teleop timestamp has run out, and only the nav timestamp keeps the tick from
stopping. A near-zero teleop message does not write the timestamp, so none was received in time
either. -/
def ManualKeptAlive (past : List (MuxStep V)) (s : TwistMuxNode V) (now : Time) : Prop :=
  s.currentState = .manual ∧ s.lastTeleopMsg ≠ 0 ∧
    s.cmdTimeout < now - s.lastTeleopTime ∧ now - s.lastNavTime ≤ s.cmdTimeout ∧
    ∀ e' ∈ past, ∀ p ∈ teleopStored e', isZeroCmd p.2 = true → p.1 < now - s.cmdTimeout

/-- In `AUTONOMOUS` the nav timestamp has run out, and only the teleop timestamp keeps the tick from
stopping. -/
def NavKeptAlive (s : TwistMuxNode V) (now : Time) : Prop :=
  s.currentState = .autonomous ∧ s.lastNavMsg ≠ 0 ∧
    s.cmdTimeout < now - s.lastNavTime ∧ now - s.lastTeleopTime ≤ s.cmdTimeout

instance [DecidableEq V] (past : List (MuxStep V)) (s : TwistMuxNode V) (now : Time) :
    Decidable (ManualKeptAlive past s now) :=
  inferInstanceAs (Decidable (_ ∧ _ ∧ _ ∧ _ ∧ _))

instance [DecidableEq V] (s : TwistMuxNode V) (now : Time) : Decidable (s.NavKeptAlive now) :=
  inferInstanceAs (Decidable (_ ∧ _ ∧ _ ∧ _))

/-- A tick of an unblocked node that finds the routed source silent and the other one fresh, with a
nonzero command stored. -/
def KeptAlive (past : List (MuxStep V)) (e : MuxStep V) : Prop :=
  match e.input with
  | .controlLoop now => e.pre.node.smoothPub.isActivated = true ∧
      e.pre.node.isSafetyBlocked = false ∧
      (ManualKeptAlive past e.pre.node now ∨ NavKeptAlive e.pre.node now)
  | _ => False

instance [DecidableEq V] (past : List (MuxStep V)) (e : MuxStep V) :
    Decidable (KeptAlive past e) :=
  match e with
  | ⟨_, .controlLoop _, _, _⟩ => inferInstanceAs (Decidable (_ ∧ _ ∧ (_ ∨ _)))
  | ⟨_, .teleop .., _, _⟩ | ⟨_, .nav .., _, _⟩ | ⟨_, .fdirState .., _, _⟩
  | ⟨_, .safetyState .., _, _⟩ => inferInstanceAs (Decidable False)

/-! ## The records behind the state -/

/-- The messages and times behind the state of a node: in each mode the stored command is the latest
message of its source, and the teleop timestamp is the time of the last manual command. -/
structure Recorded (past : List (MuxStep V)) (x : Clocked (TwistMuxNode V)) : Prop where
  manual : x.node.currentState = .manual →
    ∃ t, Latest teleopStored past t x.node.lastTeleopMsg ∧ x.node.lastTeleopTime ≤ t
  accepted : ∀ e ∈ past, ∀ p ∈ teleopStored e, isZeroCmd p.2 = false →
    p.1 ≤ x.node.lastTeleopTime
  autonomous : x.node.currentState = .autonomous →
    Latest navStored past x.node.lastNavTime x.node.lastNavMsg ∧
      x.node.manualTimeout ≤ x.clock - x.node.lastTeleopTime
  teleopPast : ∀ e ∈ past, ∀ p ∈ teleopStored e, p.1 ≤ x.clock
  navPast : ∀ e ∈ past, ∀ p ∈ navStored e, p.1 ≤ x.clock

omit [VelocityScalar V] in
/-- Some time passes and a record is kept of what is stored. -/
theorem le_clock_concat {f : MuxStep V → Option (Time × Twist V)} {past : List (MuxStep V)}
    {e : MuxStep V} {c c' : Time} (hc : c ≤ c') (h : ∀ x ∈ past, ∀ p ∈ f x, p.1 ≤ c)
    (he : ∀ p ∈ f e, p.1 ≤ c') : ∀ x ∈ past ++ [e], ∀ p ∈ f x, p.1 ≤ c' := by
  intro x hx p hp
  rcases List.mem_append.1 hx with hx | hx
  · exact (h x hx p hp).trans hc
  · rw [List.mem_singleton.1 hx] at hp
    exact he p hp

/-- A step that stores nothing, keeps the timers and commands, and enters no mode. -/
theorem Recorded.idle {past : List (MuxStep V)} {e : MuxStep V}
    {y : Clocked (TwistMuxNode V)} (h : Recorded past e.pre) (hclock : e.pre.clock ≤ y.clock)
    (hteleop : teleopStored e = none) (hnav : navStored e = none)
    (hmanual : y.node.currentState = .manual → e.pre.node.currentState = .manual)
    (hauto : y.node.currentState = .autonomous → e.pre.node.currentState = .autonomous)
    (ht : y.node.lastTeleopTime = e.pre.node.lastTeleopTime)
    (htm : y.node.lastTeleopMsg = e.pre.node.lastTeleopMsg)
    (hn : y.node.currentState = .autonomous → y.node.lastNavTime = e.pre.node.lastNavTime)
    (hnm : y.node.lastNavMsg = e.pre.node.lastNavMsg)
    (hd : y.node.manualTimeout = e.pre.node.manualTimeout) : Recorded (past ++ [e]) y where
  manual hm := by
    obtain ⟨t, hlatest, hle⟩ := h.manual (hmanual hm)
    rw [htm, ht]
    exact ⟨t, hlatest.concat_none hteleop, hle⟩
  accepted x hx p hp hz := by
    rw [ht]
    rcases List.mem_append.1 hx with hx | hx
    · exact h.accepted x hx p hp hz
    · rw [List.mem_singleton.1 hx, hteleop] at hp
      cases hp
  autonomous hm := by
    obtain ⟨hlatest, hold⟩ := h.autonomous (hauto hm)
    rw [hn hm, hnm, hd, ht]
    exact ⟨hlatest.concat_none hnav, hold.trans (sub_le_sub_right hclock _)⟩
  teleopPast := le_clock_concat hclock h.teleopPast (by simp [hteleop])
  navPast := le_clock_concat hclock h.navPast (by simp [hnav])

theorem recorded_teleop {past : List (MuxStep V)} {x : Clocked (TwistMuxNode V)} {now : Time}
    {ready : Bool} {msg : Twist V} {o : List (MuxOutput V)} {y : Clocked (TwistMuxNode V)}
    (h : Recorded past x) (hnow : x.clock ≤ now)
    (hy : y = ⟨now, (x.node.teleopCallback now ready msg).1⟩) :
    Recorded (past ++ [⟨x, .teleop now ready msg, o, y⟩]) y := by
  have hnav : navStored ⟨x, .teleop now ready msg, o, y⟩ = none := rfl
  by_cases hl : x.node.listens = true
  swap
  · have hteleop : teleopStored ⟨x, .teleop now ready msg, o, y⟩ = none := if_neg hl
    have heq : (x.node.teleopCallback now ready msg).1 = x.node := by simp [teleopCallback, hl]
    rw [heq] at hy
    subst hy
    exact h.idle hnow hteleop hnav id id rfl rfl (fun _ => rfl) rfl rfl
  have hteleop : teleopStored ⟨x, .teleop now ready msg, o, y⟩ = some (now, msg) := if_pos hl
  have hlatest : Latest teleopStored (past ++ [⟨x, .teleop now ready msg, o, y⟩]) now msg :=
    latest_concat hteleop fun e he p hp => (h.teleopPast e he p hp).trans hnow
  have hteleopPast : ∀ e ∈ past ++ [⟨x, .teleop now ready msg, o, y⟩], ∀ p ∈ teleopStored e,
      p.1 ≤ now := hlatest.2
  have hnavPast : ∀ e ∈ past ++ [⟨x, .teleop now ready msg, o, y⟩], ∀ p ∈ navStored e,
      p.1 ≤ now := le_clock_concat hnow h.navPast (by simp [hnav])
  by_cases hz : isZeroCmd msg = true
  · have heq : (x.node.teleopCallback now ready msg).1 = { x.node with lastTeleopMsg := msg } := by
      simp [teleopCallback, acceptTeleop, hl, hz]
    rw [heq] at hy
    subst hy
    refine ⟨fun hm => ?_, fun e he p hp hpz => ?_, fun hm => ?_, hteleopPast, hnavPast⟩
    · obtain ⟨t, ⟨⟨e, he, hte⟩, -⟩, hle⟩ := h.manual hm
      have ht : t ≤ x.clock := h.teleopPast e he (t, x.node.lastTeleopMsg) hte
      exact ⟨now, hlatest, hle.trans (ht.trans hnow)⟩
    · rcases List.mem_append.1 he with he | he
      · exact h.accepted e he p hp hpz
      · rw [List.mem_singleton.1 he, hteleop, Option.mem_some_iff] at hp
        rw [← hp, hz] at hpz
        cases hpz
    · obtain ⟨hlast, hold⟩ := h.autonomous hm
      exact ⟨hlast.concat_none hnav, hold.trans (sub_le_sub_right hnow _)⟩
  · have heq : (x.node.teleopCallback now ready msg).1 =
        { x.node with lastTeleopTime := now, currentState := .manual, lastTeleopMsg := msg } := by
      simp [teleopCallback, acceptTeleop, hl, hz]
    rw [heq] at hy
    subst hy
    exact ⟨fun _ => ⟨now, hlatest, le_rfl⟩, fun e he p hp _ => hteleopPast e he p hp,
      fun hm => (by cases hm), hteleopPast, hnavPast⟩

theorem recorded_nav {past : List (MuxStep V)} {x : Clocked (TwistMuxNode V)} {stamp now : Time}
    {msg : Twist V} {o : List (MuxOutput V)} {y : Clocked (TwistMuxNode V)}
    (h : Recorded past x) (hstamp : x.clock ≤ stamp) (hnow : stamp ≤ now)
    (hy : y = ⟨now, x.node.navCallback stamp now msg⟩) :
    Recorded (past ++ [⟨x, .nav stamp now msg, o, y⟩]) y := by
  have hclock : x.clock ≤ now := hstamp.trans hnow
  have hteleop : teleopStored ⟨x, .nav stamp now msg, o, y⟩ = none := rfl
  rcases x.node.navCallback_cases stamp now msg with ⟨hl, heq⟩ | ⟨hl, hlock, heq⟩ | ⟨hl, hold, heq⟩
  · have hnav : navStored ⟨x, .nav stamp now msg, o, y⟩ = none := by simp [navStored, hl]
    rw [heq] at hy
    subst hy
    exact h.idle hclock hteleop hnav id id rfl rfl (fun _ => rfl) rfl rfl
  · have hnav : navStored ⟨x, .nav stamp now msg, o, y⟩ = none := by
      simp [navStored, hlock]
    rw [heq] at hy
    subst hy
    -- in `AUTONOMOUS` the lockout has run out, so this message does not meet the mode
    refine h.idle hclock hteleop hnav id id rfl rfl (fun hm => ?_) rfl rfl
    have hold := (h.autonomous hm).2.trans (sub_le_sub_right hclock _)
    exact absurd hlock (not_lt.2 hold)
  · have hnav : navStored ⟨x, .nav stamp now msg, o, y⟩ = some (stamp, msg) := by
      simp [navStored, hl, hold]
    have hlatest : Latest navStored (past ++ [⟨x, .nav stamp now msg, o, y⟩]) stamp msg :=
      latest_concat hnav fun e he p hp => (h.navPast e he p hp).trans hstamp
    rw [heq] at hy
    subst hy
    refine ⟨fun hm => (by cases hm), fun e he p hp hpz => ?_, fun _ => ⟨hlatest, hold⟩,
      le_clock_concat hclock h.teleopPast (by simp [hteleop]),
      fun e he p hp => (hlatest.2 e he p hp).trans hnow⟩
    rcases List.mem_append.1 he with he | he
    · exact h.accepted e he p hp hpz
    · rw [List.mem_singleton.1 he, hteleop] at hp
      cases hp

theorem recorded_step {past : List (MuxStep V)} {e : MuxStep V} (he : events.Takes e)
    (h : Recorded past e.pre) : Recorded (past ++ [e]) e.post := by
  induction e, he using takes_rec with
  | teleop x now ready msg hnow => exact recorded_teleop h hnow rfl
  | nav x stamp now msg hstamp hnow => exact recorded_nav h hstamp hnow rfl
  | fdirState x now msg hnow => exact h.idle hnow rfl rfl id id rfl rfl (fun _ => rfl) rfl rfl
  | safetyState x now msg hnow => exact h.idle hnow rfl rfl id id rfl rfl (fun _ => rfl) rfl rfl
  | controlLoop x now s o hnow htick =>
    rcases controlLoop_cases htick with ⟨-, rfl, -⟩ | ⟨-, r, hr, rfl, -⟩
    · exact h.idle hnow rfl rfl id id rfl rfl (fun _ => rfl) rfl rfl
    rcases selectTarget_cases hr with ⟨-, rfl⟩ | ⟨-, -, rfl⟩ | ⟨-, -, -, rfl⟩ | ⟨-, -, -, rfl⟩
    · exact h.idle hnow rfl rfl (fun hm => by cases hm) (fun hm => by cases hm) rfl rfl
        (fun _ => rfl) rfl rfl
    · exact h.idle hnow rfl rfl (fun hm => by cases hm) (fun hm => by cases hm) rfl rfl
        (fun _ => rfl) rfl rfl
    · exact h.idle hnow rfl rfl id id rfl rfl (fun _ => rfl) rfl rfl
    · exact h.idle hnow rfl rfl id id rfl rfl (fun _ => rfl) rfl rfl

/-- In every run since an activation the stored commands and times are what the messages of the run
say. -/
theorem recorded_run (s : TwistMuxNode V) (t₀ : Time) {tr : List (MuxStep V)}
    {x : Clocked (TwistMuxNode V)} (h : events.Run (s.activated t₀) tr x) : Recorded tr x := by
  refine h.history (H := Recorded) ?_ fun _ _ _ he hpre => recorded_step he hpre
  exact ⟨fun hm => (by cases hm), by simp, fun hm => (by cases hm), by simp, by simp⟩

/-! ## One tick -/

/-- The routed teleop command is older than `command_timeout` exactly if the tick runs on the nav
timestamp alone. -/
theorem manualKeptAlive_iff {past : List (MuxStep V)} {x : Clocked (TwistMuxNode V)} {now t : Time}
    (h : Recorded past x) (hm : x.node.currentState = .manual) (hs : ¬ x.node.Silent now)
    (hlatest : Latest teleopStored past t x.node.lastTeleopMsg) (hle : x.node.lastTeleopTime ≤ t) :
    ManualKeptAlive past x.node now ↔
      x.node.lastTeleopMsg ≠ 0 ∧ t < now - x.node.cmdTimeout := by
  unfold ManualKeptAlive
  constructor
  · rintro ⟨-, hne, hstale, -, hzero⟩
    obtain ⟨⟨e, he, hte⟩, -⟩ := hlatest
    refine ⟨hne, ?_⟩
    by_cases hz : isZeroCmd x.node.lastTeleopMsg = true
    · exact hzero e he _ hte hz
    · have ht : t ≤ x.node.lastTeleopTime := h.accepted e he _ hte (by simpa using hz)
      linarith
  · rintro ⟨hne, ht⟩
    have hstale : x.node.cmdTimeout < now - x.node.lastTeleopTime := by linarith
    have hfresh : now - x.node.lastNavTime ≤ x.node.cmdTimeout := by
      rcases (not_silent_iff ..).1 hs with h' | h'
      · exact absurd hstale (not_lt.2 h')
      · exact h'
    exact ⟨hm, hne, hstale, hfresh, fun e he p hp _ => (hlatest.2 e he p hp).trans_lt ht⟩

/-- The routed nav command is older than `command_timeout` exactly if the tick runs on the teleop
timestamp alone. -/
theorem navKeptAlive_iff {s : TwistMuxNode V} {now : Time} (hm : s.currentState = .autonomous)
    (hs : ¬ s.Silent now) :
    s.NavKeptAlive now ↔ s.lastNavMsg ≠ 0 ∧ s.lastNavTime < now - s.cmdTimeout := by
  unfold NavKeptAlive
  constructor
  · rintro ⟨-, hne, hstale, -⟩
    exact ⟨hne, by linarith⟩
  · rintro ⟨hne, ht⟩
    have hstale : s.cmdTimeout < now - s.lastNavTime := by linarith
    refine ⟨hm, hne, hstale, ?_⟩
    rcases (not_silent_iff ..).1 hs with h' | h'
    · exact h'
    · exact absurd hstale (not_lt.2 h')

/-- A tick that stops the robot selects a zero target, and one that routes needs a mode. -/
theorem not_keptAlive_of_silent {past : List (MuxStep V)} {s : TwistMuxNode V} {now : Time}
    (h : s.Silent now) : ¬ (ManualKeptAlive past s now ∨ s.NavKeptAlive now) := by
  obtain ⟨hteleop, hnav⟩ := h
  rintro (⟨-, -, -, hfresh, -⟩ | ⟨-, -, -, hfresh⟩)
  · exact absurd hnav (not_lt.2 hfresh)
  · exact absurd hteleop (not_lt.2 hfresh)

/-- A tick that runs on the timestamp of the other source is not watched. -/
theorem not_watched_of_keptAlive {past : List (MuxStep V)} {e : MuxStep V}
    (h : Recorded past e.pre) (hk : KeptAlive past e) : ¬ Watched past e := by
  obtain ⟨x, i, o, y⟩ := e
  intro hw
  cases i with
  | controlLoop now =>
    obtain ⟨hp, hb, hkept⟩ := hk
    have hs : ¬ x.node.Silent now := fun hs => not_keptAlive_of_silent hs hkept
    rcases hkept with hkept | hkept
    · have hm : x.node.currentState = .manual := hkept.1
      obtain ⟨t, hlatest, hle⟩ := h.manual hm
      obtain ⟨hne, hold⟩ := (manualKeptAlive_iff h hm hs hlatest hle).1 hkept
      rcases hw now _ rfl hp (selectTarget_manual hb hs hm) hne with ⟨-, hfresh⟩ | ⟨hauto, -⟩
      · exact absurd hold (not_lt.2 ((hlatest.exists_iff _).1 hfresh))
      · rw [hm] at hauto
        cases hauto
    · have hm : x.node.currentState = .autonomous := hkept.1
      obtain ⟨hne, hold⟩ := (navKeptAlive_iff hm hs).1 hkept
      rcases hw now _ rfl hp (selectTarget_autonomous hb hs hm) hne with ⟨hman, -⟩ | ⟨-, hfresh⟩
      · rw [hm] at hman
        cases hman
      · exact absurd hold (not_lt.2 (((h.autonomous hm).1.exists_iff _).1 hfresh))
  | _ => exact hk

/-- Any other tick is watched. -/
theorem watched_of_not_keptAlive {past : List (MuxStep V)} {e : MuxStep V}
    (h : Recorded past e.pre) (hk : ¬ KeptAlive past e) : Watched past e := by
  obtain ⟨x, i, o, y⟩ := e
  rintro now s rfl hp hsel hne
  rcases selectTarget_cases hsel with
    ⟨-, rfl⟩ | ⟨-, -, rfl⟩ | ⟨hb, hs, hm, rfl⟩ | ⟨hb, hs, hm, rfl⟩
  · exact absurd rfl hne
  · exact absurd rfl hne
  · obtain ⟨t, hlatest, hle⟩ := h.manual hm
    refine Or.inl ⟨hm, (hlatest.exists_iff _).2 ?_⟩
    by_contra hold
    exact hk ⟨hp, hb, Or.inl ((manualKeptAlive_iff h hm hs hlatest hle).2 ⟨hne, not_le.1 hold⟩)⟩
  · refine Or.inr ⟨hm, ((h.autonomous hm).1.exists_iff _).2 ?_⟩
    by_contra hold
    exact hk ⟨hp, hb, Or.inr ((navKeptAlive_iff hm hs).2 ⟨hne, not_le.1 hold⟩)⟩

/-! ## Whole runs -/

/-- **The watchdog over a run.** In any run since an activation, every nonzero target was received
from its own source within `command_timeout` exactly if no tick of the run finds the routed source
silent and the other one fresh. -/
theorem watchdog_run_iff (s : TwistMuxNode V) (t₀ : Time) {tr : List (MuxStep V)}
    {x : Clocked (TwistMuxNode V)} (h : events.Run (s.activated t₀) tr x) :
    Throughout Watched tr ↔ Throughout (fun past e => ¬ KeptAlive past e) tr := by
  refine h.throughout_congr (C := fun _ => True) (fun _ _ => trivial) fun past e hpast _ _ _ => ?_
  have hrec : Recorded past e.pre := recorded_run s t₀ hpast
  exact ⟨fun hw hk => not_watched_of_keptAlive hrec hk hw, watched_of_not_keptAlive hrec⟩

/-- Teleop commands inside the watchdog time, a silence, and nav messages after the lockout. -/
def watchedDrive : List (MuxEvent ℚ) :=
  [.teleop 11 true ⟨⟨4 / 5, 0, 0⟩, 0⟩, .controlLoop (112 / 10), .controlLoop (116 / 10),
    .nav 14 14 ⟨⟨1 / 2, 0, 0⟩, 0⟩, .controlLoop (142 / 10)]

theorem watchdog_run_watchedDrive :
    Throughout Watched (events.trace (configured.activated 10) watchedDrive) :=
  (watchdog_run_iff configured 10 (Machine.run_trace _ watchedDrive (by decide +kernel))).2
    (by decide +kernel)

/-- One teleop command, and nav messages inside the lockout. -/
def staleDrive : List (MuxEvent ℚ) :=
  [.teleop 11 true ⟨⟨4 / 5, 0, 0⟩, 0⟩, .nav (114 / 10) (114 / 10) 0, .nav (118 / 10) (118 / 10) 0]

/-- A tick one second after the only teleop command still drives with it. -/
theorem staleDrive_drives :
    0 < configured.cmdTimeout ∧ configured.cmdTimeout ≤ configured.manualTimeout ∧
    ∃ tr x s, events.Run (configured.activated 10) tr x ∧ x.clock ≤ 12 ∧
      x.node.smoothPub.isActivated = true ∧ x.node.selectTarget 12 = .ok s ∧
      s.currentState = .manual ∧ s.targetVel = ⟨⟨4 / 5, 0, 0⟩, 0⟩ ∧
      ∀ e ∈ tr, ∀ p ∈ teleopStored e, p.1 < 12 - s.cmdTimeout := by
  refine ⟨by decide +kernel, by decide +kernel, _, _, _,
    Machine.run_trace _ staleDrive (by decide +kernel), by decide +kernel, by decide +kernel,
    selectTarget_manual ?_ ?_ ?_, by decide +kernel, by decide +kernel, by decide +kernel⟩
  · decide +kernel
  · decide +kernel
  · decide +kernel

end TwistMuxNode

end MonaRobot
