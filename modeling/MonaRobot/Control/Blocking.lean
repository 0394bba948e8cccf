import MonaRobot.Control.MuxLifecycle
import MonaRobot.Control.Watchdog
import MonaRobot.Foundations.View

/-!
# Blocking

The stored commands and their timestamps survive a block; what does not survive is the mode, and a
tick routes a stored command only in the mode that accepting one of its kind sets.

* `blockView`: a node looks the same without the commands it received while blocked, so deleting any
  of them from a run leaves the rest of it as it was.
* `Halted`: from a tick that found the node blocked, the mode is none that routes and the target is
  zero, until a command is accepted.
* `Refreshed`: and from then on a mode that routes has a stored command from after that tick.

`blocking` states the three for the runs of an activated node.
-/

namespace MonaRobot

open Reactive

namespace TwistMuxNode

variable {V : Type} [VelocityScalar V]

/-! ## Accepted commands -/

/-- A teleop command outside the deadzone, received while not blocked: the operator takes over. -/
def TakesOver (e : MuxStep V) : Prop :=
  match e.input with
  | .teleop _ _ msg => e.pre.node.listens = true ∧ isZeroCmd msg = false
  | _ => False

/-- A nav command outside the manual lockout, received while not blocked. -/
def AcceptsNav (e : MuxStep V) : Prop :=
  match e.input with
  | .nav _ now _ =>
    e.pre.node.listens = true ∧ e.pre.node.manualTimeout ≤ now - e.pre.node.lastTeleopTime
  | _ => False

/-- A command that sets a mode which routes it. -/
def Accepts (e : MuxStep V) : Prop := TakesOver e ∨ AcceptsNav e

instance : DecidablePred (TakesOver (V := V)) := fun e =>
  match e with
  | ⟨_, .teleop .., _, _⟩ => inferInstanceAs (Decidable (_ ∧ _))
  | ⟨_, .nav .., _, _⟩ | ⟨_, .fdirState .., _, _⟩ | ⟨_, .safetyState .., _, _⟩
  | ⟨_, .controlLoop _, _, _⟩ => inferInstanceAs (Decidable False)

omit [VelocityScalar V] in
instance : DecidablePred (AcceptsNav (V := V)) := fun e =>
  match e with
  | ⟨_, .nav .., _, _⟩ => inferInstanceAs (Decidable (_ ∧ _))
  | ⟨_, .teleop .., _, _⟩ | ⟨_, .fdirState .., _, _⟩ | ⟨_, .safetyState .., _, _⟩
  | ⟨_, .controlLoop _, _, _⟩ => inferInstanceAs (Decidable False)

instance : DecidablePred (Accepts (V := V)) := fun e =>
  inferInstanceAs (Decidable (TakesOver e ∨ AcceptsNav e))

/-! ## Deleting blocked commands -/

/-- A teleop or nav message received while blocked. -/
def BlockedCommand (e : MuxStep V) : Prop :=
  e.pre.node.isSafetyBlocked = true ∧ match e.input with
    | .teleop .. => True
    | .nav .. => True
    | _ => False

omit [VelocityScalar V] in
instance : DecidablePred (BlockedCommand (V := V)) := fun e =>
  match e with
  | ⟨_, .teleop .., _, _⟩ | ⟨_, .nav .., _, _⟩ => inferInstanceAs (Decidable (_ = _ ∧ True))
  | ⟨_, .fdirState .., _, _⟩ | ⟨_, .safetyState .., _, _⟩ | ⟨_, .controlLoop _, _, _⟩ =>
    inferInstanceAs (Decidable (_ = _ ∧ False))

/-- The two steps are the same but for the latest clock reading before them. -/
structure SameStep (e e' : MuxStep V) : Prop where
  input : e'.input = e.input
  output : e'.output = e.output
  pre : e'.pre.node = e.pre.node
  post : e'.post.node = e.post.node

/-- A step depends on the node, and on the clock only in that it does not go back. -/
theorem takes_iff {e : MuxStep V} : events.Takes e ↔
    (e.pre.clock ≤ e.input.start ∧ e.input.start ≤ e.input.finish) ∧
      e.pre.node.handle e.input = .ok (e.post.node, e.output) ∧ e.post.clock = e.input.finish := by
  obtain ⟨x, i, o, ⟨clock, s⟩⟩ := e
  simp only [Machine.Takes, events]
  split_ifs with hclock
  · cases hr : x.node.handle i with
    | error msg => simp [Except.toOption]
    | ok r =>
      obtain ⟨s', o'⟩ := r
      simp only [Except.toOption, Option.map_some, Option.some.injEq, Prod.mk.injEq,
        Clocked.mk.injEq, Except.ok.injEq]
      tauto
  · simp [hclock]

/-- A node at an earlier time. -/
def blockView : Machine.View (events (V := V)) (events (V := V)) where
  input := id
  output := id
  Rel x y := y.node = x.node ∧ y.clock ≤ x.clock
  step e y he h := by
    obtain ⟨hnode, hle⟩ := h
    obtain ⟨⟨hstart, hfinish⟩, hhandle, hpost⟩ := takes_iff.1 he
    refine ⟨e.post, takes_iff.2 ⟨⟨hle.trans hstart, hfinish⟩, ?_, hpost⟩, rfl, le_rfl⟩
    rw [hnode]
    exact hhandle

omit [VelocityScalar V] in
theorem not_listens {s : TwistMuxNode V} (h : s.isSafetyBlocked = true) : s.listens = false := by
  simp [listens, h]

/-- A command received while blocked does nothing. -/
theorem blockedCommand_idle {e : MuxStep V} (he : events.Takes e) (hb : BlockedCommand e) :
    e.post.node = e.pre.node ∧ e.output = [] ∧ e.pre.clock ≤ e.post.clock := by
  obtain ⟨hblocked, hi⟩ := hb
  induction e, he using takes_rec with
  | teleop x now ready msg hnow =>
    have hl := not_listens hblocked
    simp only [teleopCallback, hl, if_true]
    exact ⟨trivial, trivial, hnow⟩
  | nav x stamp now msg hstamp hnow =>
    have hl := not_listens hblocked
    simp only [navCallback, hl, if_true]
    exact ⟨trivial, trivial, hstamp.trans hnow⟩
  | _ => exact hi.elim

/-- **Blocked commands do not show.** What is left of a run when commands that were received while
blocked are deleted is a run, with the same nodes and the same outputs. -/
theorem purge {s t : Clocked (TwistMuxNode V)} {tr kept : List (MuxStep V)}
    (h : events.Run s tr t) (hk : Erases BlockedCommand tr kept) :
    ∃ tr' t', events.Run s tr' t' ∧ t'.node = t.node ∧ List.Forall₂ SameStep kept tr' ∧
      tr'.flatMap Step.output = tr.flatMap Step.output := by
  obtain ⟨tr', t', hrun, ⟨hnode, -⟩, hmatch⟩ := blockView.run (D := BlockedCommand)
    (fun e a he hb ⟨hpre, hle⟩ => by
      obtain ⟨hpost, -, hclock⟩ := blockedCommand_idle he hb
      exact ⟨hpre.trans hpost.symm, hle.trans hclock⟩) h hk ⟨rfl, le_rfl⟩
  refine ⟨tr', t', hrun, hnode, hmatch.imp fun e e' hm => ?_, ?_⟩
  · exact ⟨hm.input, hm.output, hm.pre.1, hm.post.1⟩
  · have hsame : kept.map Step.output = tr'.map Step.output :=
      map_eq_of_forall₂ hmatch fun _ _ hm => hm.output.symm
    rw [hk.flatMap_eq fun e he hb => (blockedCommand_idle (h.takes e he) hb).2.1, List.flatMap_def,
      List.flatMap_def, hsame]

/-! ## After a block -/

/-- No mode routes, and the target is zero. -/
def Halted (s : TwistMuxNode V) : Prop := ¬ s.Routable ∧ s.targetVel = 0

/-- A tick that finds the node blocked halts it. -/
theorem halted_of_blocked {s s' : TwistMuxNode V} {now : Time} {o : List (MuxOutput V)}
    (h : s.controlLoop now = .ok (s', o)) (hp : s.smoothPub.isActivated = true)
    (hb : s.isSafetyBlocked = true) : Halted s' := by
  rcases controlLoop_cases h with ⟨hp', -⟩ | ⟨-, r, hr, rfl, -⟩
  · exact absurd (hp'.symm.trans hp) Bool.false_ne_true
  · rcases selectTarget_cases hr with ⟨-, rfl⟩ | ⟨hb', -⟩ | ⟨hb', -⟩ | ⟨hb', -⟩
    · exact ⟨by simp [Routable, filterVelocity], rfl⟩
    all_goals exact absurd (hb'.symm.trans hb) Bool.false_ne_true

/-- Only an accepted command leads to a mode that routes; until then the target is kept or zeroed. -/
theorem idle_step {e : MuxStep V} (he : events.Takes e) (hno : ¬ Accepts e)
    (h : ¬ e.pre.node.Routable) : ¬ e.post.node.Routable ∧
      (e.post.node.targetVel = e.pre.node.targetVel ∨ e.post.node.targetVel = 0) := by
  induction e, he using takes_rec with
  | teleop x now ready msg hnow =>
    rcases x.node.teleopCallback_cases now ready msg with ⟨-, hs⟩ | ⟨-, -, hs⟩ | ⟨hl, hz, hs⟩
    · rw [hs]
      exact ⟨h, Or.inl rfl⟩
    · rw [hs]
      exact ⟨h, Or.inl rfl⟩
    · exact absurd (Or.inl ⟨hl, hz⟩) hno
  | nav x stamp now msg hstamp hnow =>
    rcases x.node.navCallback_cases stamp now msg with ⟨-, hs⟩ | ⟨-, -, hs⟩ | ⟨hl, hlock, hs⟩
    · rw [hs]
      exact ⟨h, Or.inl rfl⟩
    · rw [hs]
      exact ⟨h, Or.inl rfl⟩
    · exact absurd (Or.inr ⟨hl, hlock⟩) hno
  | fdirState x now msg hnow => exact ⟨h, Or.inl rfl⟩
  | safetyState x now msg hnow => exact ⟨h, Or.inl rfl⟩
  | controlLoop x now s o hnow htick =>
    rcases controlLoop_cases htick with ⟨-, rfl, -⟩ | ⟨-, r, hr, rfl, -⟩
    · exact ⟨h, Or.inl rfl⟩
    · rcases selectTarget_cases hr with ⟨-, rfl⟩ | ⟨-, -, rfl⟩ | ⟨-, -, hm, -⟩ | ⟨-, -, hm, -⟩
      · exact ⟨by simp [Routable, filterVelocity], Or.inr rfl⟩
      · exact ⟨by simp [Routable, filterVelocity], Or.inr rfl⟩
      · exact absurd (Or.inl hm) h
      · exact absurd (Or.inr hm) h

/-- Only an accepted command ends a halt. -/
theorem halted_step {e : MuxStep V} (he : events.Takes e) (hno : ¬ Accepts e)
    (h : Halted e.pre.node) : Halted e.post.node := by
  obtain ⟨hmode, htarget | htarget⟩ := idle_step he hno h.1
  · exact ⟨hmode, htarget.trans h.2⟩
  · exact ⟨hmode, htarget⟩

/-- The command of a mode that routes was stored in the history. -/
structure Refreshed (past : List (MuxStep V)) (s : TwistMuxNode V) : Prop where
  manual : s.currentState = .manual → ∃ e ∈ past, ∃ t, teleopStored e = some (t, s.lastTeleopMsg)
  autonomous : s.currentState = .autonomous → ∃ e ∈ past, ∃ t, navStored e = some (t, s.lastNavMsg)

omit [VelocityScalar V] in
theorem refreshed_nil {s : TwistMuxNode V} (h : ¬ s.Routable) : Refreshed [] s :=
  ⟨fun hm => absurd (Or.inl hm) h, fun hm => absurd (Or.inr hm) h⟩

omit [VelocityScalar V] in
/-- A step that keeps the stored commands and enters no mode. -/
theorem Refreshed.keep {past : List (MuxStep V)} {e : MuxStep V} {s : TwistMuxNode V}
    (h : Refreshed past e.pre.node)
    (hmanual : s.currentState = .manual →
      e.pre.node.currentState = .manual ∧ s.lastTeleopMsg = e.pre.node.lastTeleopMsg)
    (hauto : s.currentState = .autonomous →
      e.pre.node.currentState = .autonomous ∧ s.lastNavMsg = e.pre.node.lastNavMsg) :
    Refreshed (past ++ [e]) s where
  manual hm := by
    obtain ⟨hpre, hmsg⟩ := hmanual hm
    obtain ⟨e', he', t, ht⟩ := h.manual hpre
    exact ⟨e', List.mem_append_left _ he', t, hmsg ▸ ht⟩
  autonomous hm := by
    obtain ⟨hpre, hmsg⟩ := hauto hm
    obtain ⟨e', he', t, ht⟩ := h.autonomous hpre
    exact ⟨e', List.mem_append_left _ he', t, hmsg ▸ ht⟩

omit [VelocityScalar V] in
/-- A step that does not touch what is stored. -/
theorem Refreshed.same {past : List (MuxStep V)} {e : MuxStep V} {s : TwistMuxNode V}
    (h : Refreshed past s) (hs : e.pre.node = s) : Refreshed (past ++ [e]) s :=
  Refreshed.keep (hs ▸ h) (fun hm => ⟨hs ▸ hm, hs ▸ rfl⟩) fun hm => ⟨hs ▸ hm, hs ▸ rfl⟩

theorem refreshed_step {past : List (MuxStep V)} {e : MuxStep V} (he : events.Takes e)
    (h : Refreshed past e.pre.node) : Refreshed (past ++ [e]) e.post.node := by
  have hlast : e ∈ past ++ [e] := List.mem_append_right _ (List.mem_singleton_self e)
  induction e, he using takes_rec with
  | teleop x now ready msg hnow =>
    have hstored : ∀ o y, x.node.listens = true →
        teleopStored ⟨x, .teleop now ready msg, o, y⟩ = some (now, msg) := fun o y hl => if_pos hl
    rcases x.node.teleopCallback_cases now ready msg with ⟨-, hs⟩ | ⟨hl, -, hs⟩ | ⟨hl, -, hs⟩
    · simp only [hs] at hlast ⊢
      exact Refreshed.same h rfl
    · simp only [hs] at hlast ⊢
      refine ⟨fun _ => ⟨_, hlast, now, hstored _ _ hl⟩, ?_⟩
      exact (Refreshed.same (s := x.node) h rfl).autonomous
    · simp only [hs] at hlast ⊢
      exact ⟨fun _ => ⟨_, hlast, now, hstored _ _ hl⟩, fun hm => by cases hm⟩
  | nav x stamp now msg hstamp hnow =>
    rcases x.node.navCallback_cases stamp now msg with ⟨-, hs⟩ | ⟨-, -, hs⟩ | ⟨hl, hlock, hs⟩
    · simp only [hs] at hlast ⊢
      exact Refreshed.same h rfl
    · simp only [hs] at hlast ⊢
      refine Refreshed.keep ?_ (fun hm => ⟨hm, rfl⟩) fun hm => ⟨hm, rfl⟩
      exact h
    · simp only [hs] at hlast ⊢
      exact ⟨fun hm => (by cases hm), fun _ => ⟨_, hlast, stamp, if_pos ⟨hl, hlock⟩⟩⟩
  | fdirState x now msg hnow => exact h.keep (fun hm => ⟨hm, rfl⟩) fun hm => ⟨hm, rfl⟩
  | safetyState x now msg hnow => exact h.keep (fun hm => ⟨hm, rfl⟩) fun hm => ⟨hm, rfl⟩
  | controlLoop x now s o hnow htick =>
    rcases controlLoop_cases htick with ⟨-, rfl, -⟩ | ⟨-, r, hr, rfl, -⟩
    · exact Refreshed.same h rfl
    · rcases selectTarget_cases hr with ⟨-, rfl⟩ | ⟨-, -, rfl⟩ | ⟨-, -, -, rfl⟩ | ⟨-, -, -, rfl⟩
      · exact h.keep (fun hm => by cases hm) fun hm => by cases hm
      · exact h.keep (fun hm => by cases hm) fun hm => by cases hm
      · exact h.keep (fun hm => ⟨hm, rfl⟩) fun hm => ⟨hm, rfl⟩
      · exact h.keep (fun hm => ⟨hm, rfl⟩) fun hm => ⟨hm, rfl⟩

/-- The step stores `msg`, from either source. -/
def Stores (e : MuxStep V) (msg : Twist V) : Prop :=
  ∃ t, teleopStored e = some (t, msg) ∨ navStored e = some (t, msg)

/-- The target of a tick is zero, or a stored command of the history. -/
theorem Refreshed.target {past : List (MuxStep V)} {s s' : TwistMuxNode V} {now : Time}
    {o : List (MuxOutput V)} (h : Refreshed past s) (hp : s.smoothPub.isActivated = true)
    (htick : s.controlLoop now = .ok (s', o)) :
    s'.targetVel = 0 ∨ ∃ e ∈ past, Stores e s'.targetVel := by
  rcases controlLoop_cases htick with ⟨hp', -⟩ | ⟨-, r, hr, rfl, -⟩
  · exact absurd (hp'.symm.trans hp) Bool.false_ne_true
  · rcases selectTarget_cases hr with ⟨-, rfl⟩ | ⟨-, -, rfl⟩ | ⟨-, -, hm, rfl⟩ | ⟨-, -, hm, rfl⟩
    · exact Or.inl rfl
    · exact Or.inl rfl
    · obtain ⟨e, he, t, ht⟩ := h.manual hm
      exact Or.inr ⟨e, he, t, Or.inl ht⟩
    · obtain ⟨e, he, t, ht⟩ := h.autonomous hm
      exact Or.inr ⟨e, he, t, Or.inr ht⟩

/-! ## Runs of the activated node -/

/-- A tick that finds the node blocked. -/
def TickBlocked (e : MuxStep V) : Prop :=
  (∃ now, e.input = .controlLoop now) ∧ e.pre.node.isSafetyBlocked = true

/-- The publisher of an activated node stays active. -/
theorem activated_run {x : Clocked (TwistMuxNode V)} {now : Time} {tr : List (MuxStep V)}
    {t : Clocked (TwistMuxNode V)} (hx : MuxLifecycle.Inactive x)
    (h : events.Run (x.node.activated now) tr t) :
    t.node.smoothPub.isActivated = true ∧ t.node.navClient = true := by
  refine h.invariant (I := fun t => t.node.smoothPub.isActivated = true ∧ t.node.navClient = true)
    ?_ fun e he ⟨hp, hn⟩ => ?_
  · obtain ⟨hp, -, hn⟩ := hx.handles now
    exact ⟨by rw [hp]; rfl, hn⟩
  · obtain ⟨hp', -, hn', -⟩ := handles_step he
    exact ⟨hp' ▸ hp, hn' ▸ hn⟩

/-- **Blocking erases commands.** In a run of an activated node, deleting any commands that were
received while blocked leaves all other steps as they were. After a tick that found the node blocked
the target is zero until a command is accepted, and every later target is zero or was stored after
that tick. -/
theorem blocking {x : Clocked (TwistMuxNode V)} {now : Time} {tr : List (MuxStep V)}
    {t : Clocked (TwistMuxNode V)} (hx : MuxLifecycle.Inactive x)
    (h : events.Run (x.node.activated now) tr t) :
    (∀ kept, Erases BlockedCommand tr kept → ∃ tr' t',
      events.Run (x.node.activated now) tr' t' ∧ t'.node = t.node ∧
        List.Forall₂ SameStep kept tr' ∧
        tr'.flatMap Step.output = tr.flatMap Step.output) ∧
    ∀ past e mid rest, tr = past ++ e :: (mid ++ rest) → TickBlocked e →
      ((∀ e' ∈ mid, ¬ Accepts e') → ∀ e' ∈ e :: mid, e'.post.node.targetVel = 0) ∧
      ∀ e' rest' now', rest = e' :: rest' → e'.input = .controlLoop now' →
        e'.post.node.targetVel = 0 ∨ ∃ e'' ∈ mid, Stores e'' e'.post.node.targetVel := by
  refine ⟨fun kept hk => purge h hk, ?_⟩
  rintro past e mid rest rfl ⟨⟨time, hi⟩, hb⟩
  obtain ⟨hpast, he, hrest⟩ := h.around
  obtain ⟨y, hmid, hafter⟩ := hrest.split
  have hhalted : Halted e.post.node := by
    obtain ⟨-, hhandle, -⟩ := takes_iff.1 he
    rw [hi] at hhandle
    exact halted_of_blocked hhandle (activated_run hx hpast).1 hb
  constructor
  · intro hno e' he'
    rcases List.mem_cons.1 he' with rfl | he'
    · exact hhalted.2
    · exact (hmid.latched (L := fun x => Halted x.node) hhalted (fun _ ht hn => halted_step ht hn)
        hno e' he').2.2
  · rintro e' rest' now' rfl hi'
    obtain ⟨rfl, he', -⟩ := hafter.cons_inv
    have hrefreshed : Refreshed mid e'.pre.node :=
      hmid.history (H := fun mid x => Refreshed mid x.node) (refreshed_nil hhalted.1)
        fun _ _ _ ht hpre => refreshed_step ht hpre
    obtain ⟨-, hhandle, -⟩ := takes_iff.1 he'
    rw [hi'] at hhandle
    exact hrefreshed.target (activated_run hx (hpast.trans (.cons he hmid))).1 hhandle

/-- A drive that a protective stop interrupts; a teleop and a nav command arrive during the stop, and
another teleop command after it. -/
def interruptedDrive : List (MuxEvent ℚ) :=
  [.teleop 1 true ⟨⟨1, 0, 0⟩, 0⟩, .controlLoop 1, .fdirState 1 FdirState.stateProtectiveStop,
    .controlLoop 1, .teleop 1 true ⟨⟨1, 0, 0⟩, 0⟩, .nav 1 1 ⟨⟨1, 0, 0⟩, 0⟩,
    .fdirState 2 FdirState.stateSoftwareOk, .controlLoop 2, .teleop 2 true ⟨⟨0, 1, 0⟩, 0⟩,
    .controlLoop 2]

theorem blocking_interruptedDrive :
    (∃ tr' t', events.Run (configured.activated 0) tr' t' ∧
      tr'.flatMap Step.output =
        (events.trace (configured.activated 0) interruptedDrive).flatMap Step.output) ∧
    ∀ e ∈ ((events.trace (configured.activated 0) interruptedDrive).drop 4).take 4,
      e.post.node.targetVel = 0 := by
  have hrun := events.run_trace (configured.activated 0) interruptedDrive (by decide +kernel)
  generalize htr : events.trace (configured.activated 0) interruptedDrive = tr at hrun ⊢
  have hlen : tr.length = 10 := by
    rw [← htr]
    decide +kernel
  have hsteps : ((tr.get ⟨3, by omega⟩).input = .controlLoop 1 ∧
      (tr.get ⟨3, by omega⟩).pre.node.isSafetyBlocked = true) ∧
      ∀ e ∈ (tr.drop 4).take 4, ¬ Accepts e := by
    subst htr
    decide +kernel +revert
  have hsplit : tr = tr.take 3 ++ tr.get ⟨3, by omega⟩ :: ((tr.drop 4).take 4 ++ tr.drop 8) := by
    have hdrop : tr.drop 8 = (tr.drop 4).drop 4 := by rw [List.drop_drop]
    rw [List.get_eq_getElem, hdrop, List.take_append_drop, ← List.drop_eq_getElem_cons,
      List.take_append_drop]
  obtain ⟨⟨hi, hb⟩, hno⟩ := hsteps
  obtain ⟨hpurge, hblocked⟩ := blocking MuxLifecycle.inactive_configured hrun
  constructor
  · obtain ⟨tr', t', hrun', -, -, hout⟩ := hpurge _ (.filter BlockedCommand tr)
    exact ⟨tr', t', hrun', hout⟩
  · intro e he
    exact (hblocked _ _ _ _ hsplit ⟨⟨1, hi⟩, hb⟩).1 hno e (List.mem_cons_of_mem _ he)

end TwistMuxNode

end MonaRobot
