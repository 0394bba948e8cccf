import MonaRobot.Core.OverlappingLockout

/-!
# Late replies

When a tick declares a component defective that another one is past, the other tick can still end
without an emergency: when the components that it has to visit reply that they are starting up, it
publishes an emergency only if it was certain to before (`canEnd_waiting`). So every exposed lockout
can be reverted with no further tick (`exposes_reverts`), and the runs that keep the lockout,
whatever the replies, are those whose lockouts are not exposed (`lockout_overlapping`).
-/

namespace MonaRobot

open Reactive

namespace FdirManagerNode

/-! ## Records that stay alike -/

/-- The same components are defective, and what all steps keep is kept. -/
structure Alike (s s' : FdirManagerNode) : Prop extends Follows s s' where
  same : ∀ c, s'.defective c = s.defective c

variable {s s₁ s' : FdirManagerNode} {h : Health} {names : List String} {t : WaitingTick}

theorem Alike.refl (s : FdirManagerNode) : s.Alike s := ⟨.refl s, fun _ => rfl⟩

theorem Alike.trans (h₁ : s.Alike s₁) (h₂ : s₁.Alike s') : s.Alike s' :=
  ⟨h₁.toFollows.trans h₂.toFollows, fun c => (h₂.same c).trans (h₁.same c)⟩

theorem Alike.certain_iff (hs : s.Alike s') : s'.Certain h names ↔ s.Certain h names := by
  simp only [Certain, hs.same]

theorem Alike.covered_iff (hs : s.Alike s') : s'.Covered t ↔ s.Covered t := by
  simp only [Covered, hs.certain_iff, hs.same]

/-- A record is written whose strikes and lockout are as before. -/
theorem alike_setRecord {m k : ManagedNode} (hk : s.record m.name = some k)
    (hd : m.isDefective = k.isDefective) (hr : m.retryCount = k.retryCount) :
    s.Alike (s.setRecord m) := by
  refine ⟨follows_setRecord hk (fun h => hd.trans h) fun h => ?_, defective_setRecord_same hk hd⟩
  rwa [ManagedNode.WithinStrikes, hd, hr]

/-! ## Components that are starting up -/

/-- All `get_state` services are ready, no `change_state` service is, at one clock reading. -/
def pollEnv (now : Time) : TickEnv := ⟨fun _ => true, fun _ => false, fun _ => now⟩

/-- A component that is starting up replies. -/
def startupReply : TickReply := ⟨.replied LifecycleState.primaryStateUnconfigured, pollEnv 0⟩

/-- From here on the tick can end with records that are like those of `s`, and what it publishes is
an emergency exactly if `P`. -/
def CanEnd (s : FdirManagerNode) (q : TickResult) (P : Prop) : Prop :=
  ∃ b o v, monitorTicks.Alone q.1 q.2.1 b o ∧ s.Alike b ∧ published (q.2.2 ++ o) = [v] ∧
    (v = FdirState.stateEmergency ↔ P)

variable {q : TickResult} {P : Prop}

theorem CanEnd.congr {P' : Prop} (hq : CanEnd s q P) (hP : P ↔ P') : CanEnd s q P' := by
  rwa [← hP]

/-- A silent change of the records before. -/
theorem CanEnd.after {o : List FdirAction} (hq : CanEnd s₁ q P) (hs : s.Alike s₁)
    (ho : published o = []) : CanEnd s (q.1, q.2.1, o ++ q.2.2) P := by
  obtain ⟨b, o', v, halone, hb, hpub, hv⟩ := hq
  refine ⟨b, o', v, halone, hs.trans hb, ?_, hv⟩
  rw [List.append_assoc, published_append ho, hpub]

/-- The reply that a tick waits for. -/
theorem CanEnd.resumed {o : List FdirAction} (hq : CanEnd s (s.resumeTick t startupReply) P)
    (ho : published o = []) : CanEnd s (s, some t, o) P := by
  obtain ⟨b, o', v, halone, hb, hpub, hv⟩ := hq
  refine ⟨b, _, v, .resume startupReply halone, hb, ?_, hv⟩
  rw [published_append ho]
  exact hpub

/-- A startup that is counted makes no emergency. -/
theorem emergency_startup (hs : h.Sane) :
    Health.Emergency ⟨max h.globalState FdirState.stateSystemStartup, false⟩ ↔ h.Emergency := by
  have hstartup : ¬ FdirState.stateEmergency ≤ FdirState.stateSystemStartup := by decide
  simp only [Health.Emergency, true_and, le_max_iff, hstartup, or_false]
  refine ⟨fun hle => ⟨?_, hle⟩, And.right⟩
  rw [← Bool.not_eq_true]
  exact fun hactive => absurd hle (not_le.2 (hs.active hactive))

theorem certain_startup (hs : h.Sane) :
    s.Certain ⟨max h.globalState FdirState.stateSystemStartup, false⟩ names ↔
      s.Certain h names := by
  rw [Certain, Certain, emergency_startup hs]

/-- The tick goes on with a component that is starting up. -/
theorem proceed_startup {m : ManagedNode}
    (hm : m.currentState = LifecycleState.primaryStateUnconfigured)
    (next : FdirManagerNode → Health → TickResult) :
    s.proceed (pollEnv 0) h m names next =
      let q := next (s.setRecord m) ⟨max h.globalState FdirState.stateSystemStartup, false⟩
      (q.1, q.2.1, [.changeState m.name LifecycleTransition.transitionConfigure] ++ q.2.2) := by
  have hne : LifecycleState.primaryStateUnconfigured ≠ LifecycleState.primaryStateActive := by
    decide
  have hwait : s.changeWait (pollEnv 0) m.name = none := by
    simp [changeWait, awaitsChange, pollEnv]
  have heval : s.evaluateStep (pollEnv 0) h m =
      ⟨⟨max h.globalState FdirState.stateSystemStartup, false⟩, m, none,
        [.changeState m.name LifecycleTransition.transitionConfigure]⟩ := by
    simp only [evaluateStep, hm, hne, and_false, if_false, if_true, hwait]
  rw [proceed, heval]

/-- A tick that waits for the state of a component can end, if the loop over the others can. -/
theorem canEnd_getState {nodeName : String} {o : List FdirAction} (hp : s.Provided)
    (hs : h.Sane) (hk : s.Known nodeName)
    (hnext : ∀ s' h', s'.Provided → h'.Sane →
      CanEnd s' (monitorFrom (pollEnv 0) names s' h') (s'.Certain h' names))
    (ho : published o = []) :
    CanEnd s (s, some ⟨h, nodeName, .getState, names⟩, o) (s.Certain h names) := by
  obtain ⟨node, hrec⟩ := hk
  obtain rfl := (mem_of_record hrec).2
  obtain ⟨m, hm⟩ : ∃ m, { node with currentState := LifecycleState.primaryStateUnconfigured } = m :=
    ⟨_, rfl⟩
  have halike : s.Alike (s.setRecord m) := by
    subst hm
    exact alike_setRecord hrec rfl rfl
  have hreply : s.getNodeState startupReply.outcome node.name =
      LifecycleState.primaryStateUnconfigured := if_pos (hp _ _ hrec).1
  have hresume : s.resumeTick ⟨h, node.name, .getState, names⟩ startupReply =
      s.proceed (pollEnv 0) h m names (monitorFrom (pollEnv 0) names) := by
    rw [← hm, ← hreply]
    simp only [resumeTick, hrec]
    rfl
  refine CanEnd.resumed ?_ ho
  rw [hresume, proceed_startup (by rw [← hm]), ← certain_startup hs, ← halike.certain_iff]
  exact (hnext _ _ (halike.provided hp) (hs.worse_count _ (by decide)).sane).after halike rfl

theorem canEnd_monitorFrom (names : List String) (hp : s.Provided) (hs : h.Sane) :
    CanEnd s (monitorFrom (pollEnv 0) names s h) (s.Certain h names) := by
  induction names generalizing s h with
  | nil =>
    refine ⟨s, [], verdict h, .ended s, .refl s, ?_, ?_⟩
    · rw [List.append_nil]
      exact published_publish h
    · rw [verdict_eq_emergency hs]
      simp [Certain]
  | cons nodeName rest ih =>
    have hpassed : s.defective nodeName = false →
        (s.Certain h (nodeName :: rest) ↔ s.Certain h rest) := by
      intro hd
      simp [Certain, hd]
    unfold monitorFrom
    cases hrec : s.record nodeName with
    | none =>
      rw [hpassed (by simp [defective, hrec])]
      exact ih hp hs
    | some node =>
      obtain rfl := (mem_of_record hrec).2
      dsimp only
      by_cases hd : node.isDefective = true
      · have hdefective : s.defective node.name = true := by simpa [defective, hrec] using hd
        rw [if_pos hd]
        exact (ih hp (hs.worse_count _ le_rfl).sane).congr
          (iff_of_true (Or.inl h.emergency_count) (Or.inr ⟨_, by simp, hdefective⟩))
      · have hawaits : s.awaitsState (pollEnv 0) node.name = true := by
          simpa [awaitsState, pollEnv] using (hp _ _ hrec).1
        rw [if_neg hd, if_pos hawaits, hpassed (by simpa [defective, hrec] using hd)]
        exact canEnd_getState hp hs ⟨node, hrec⟩ (fun s' h' => ih) rfl

/-- A waiting tick can end, and then publishes an emergency exactly if it was certain to. -/
theorem canEnd_waiting (hp : s.Provided) (ht : s.Waits t) :
    CanEnd s (s, some t, []) (s.Covered t) := by
  obtain ⟨h, nodeName, wait, remaining⟩ := t
  obtain ⟨hs, node, hrec⟩ := ht
  obtain rfl := (mem_of_record hrec).2
  cases wait with
  | getState =>
    rw [covered_iff_certain rfl]
    exact canEnd_getState hp hs ⟨node, hrec⟩ (fun s' h' => canEnd_monitorFrom remaining) rfl
  | changeState =>
    rw [covered_iff_certain rfl]
    refine CanEnd.resumed ?_ rfl
    simp only [resumeTick, hrec]
    exact canEnd_monitorFrom remaining hp hs
  | cleanup now =>
    obtain ⟨m, hm⟩ : ∃ m, { node with phase := .waitDischarge, lastPhaseChange := now } = m :=
      ⟨_, rfl⟩
    have halike : s.Alike (s.setRecord m) := by
      subst hm
      exact alike_setRecord hrec rfl rfl
    have hsane := (hs.worse_count _ (failureState_le m)).sane
    have hloop := (canEnd_monitorFrom remaining (halike.provided hp) hsane).after (o := []) halike
      rfl
    rw [halike.certain_iff] at hloop
    have hcovered : s.Covered ⟨h, node.name, .cleanup now, remaining⟩ ↔
        s.Certain ⟨max h.globalState (failureState m), false⟩ remaining := by
      have hdefective : s.defective node.name = m.isDefective := by
        rw [← hm]
        simp [defective, hrec]
      cases hd : m.isDefective with
      | true =>
        rw [failureState, if_pos hd]
        exact iff_of_true (Or.inr ⟨rfl, hdefective.trans hd⟩) (Or.inl h.emergency_count)
      | false =>
        have hstrikes : ¬ ManagedNode.maxRecoveryRetries < m.retryCount := by
          subst hm
          exact not_lt.2 ((hp _ _ hrec).2 hd)
        rw [failureState, if_neg (by simp [hd]), if_neg hstrikes, certain_startup hs]
        simp [Covered, hdefective, hd]
    rw [hcovered]
    refine CanEnd.resumed ?_ rfl
    simp only [resumeTick, hrec, hm]
    exact hloop

/-! ## After an exposed lockout -/

theorem mem_published_flatMap {tr : List TickStep} {b : UInt8} :
    b ∈ published (tr.flatMap Step.output) ↔ ∃ e ∈ tr, b ∈ published e.output := by
  simp only [published, List.filterMap_flatMap, List.mem_flatMap]

/-- One of the waiting ticks ends while the others wait. -/
theorem canEnd_run (l₁ l₂ : List WaitingTick) (hp : s.Provided) (ht : s.Waits t) :
    ∃ tr b v, overlappingTicks.Run ⟨s, l₁ ++ [t] ++ l₂⟩ tr ⟨b, l₁ ++ l₂⟩ ∧
      (∀ e ∈ tr, ∃ k r, e.input = .resume k r) ∧ s.Alike b ∧
      (∃ e ∈ tr, v ∈ published e.output) ∧ (v = FdirState.stateEmergency ↔ s.Covered t) := by
  obtain ⟨b, o, v, halone, hb, hpub, hv⟩ := canEnd_waiting hp ht
  obtain ⟨tr, hrun, hin, hout⟩ := halone.resumed l₁ l₂
  refine ⟨tr, b, v, hrun, hin, hb, mem_published_flatMap.1 ?_, hv⟩
  rw [hout, show published o = [v] from hpub]
  exact List.mem_singleton_self v

/-- The lockout stays. -/
theorem lockedOut_run {x y : Pool FdirManagerNode WaitingTick} {tr : List TickStep}
    (h : overlappingTicks.Run x tr y) (ho : Orderly x) (hx : x.shared.LockedOut) :
    ∀ e ∈ tr, e.post.shared.LockedOut := by
  have hall := h.invariant_mem (I := fun x => Orderly x ∧ x.shared.LockedOut) ⟨ho, hx⟩ ?_
  · exact fun e he => (hall e he).2.2
  rintro e he ⟨hpre, hlocked⟩
  obtain ⟨hpost, hfollows⟩ := orderly_step he hpre
  exact ⟨hpost, hfollows.lockedOut hlocked⟩

/-- A tick that is certain to publish an emergency does so in the step, or can end with it. -/
theorem emergency_run {e : TickStep} {before after : List WaitingTick}
    (ht : TakesTick e before after P q) (hp : q.1.Provided) (hcov : ∀ t ∈ q.2.1, q.1.Covered t)
    (hpub : ∀ b ∈ published q.2.2, b = FdirState.stateEmergency) : ∃ tr b,
    overlappingTicks.Run e.post tr ⟨b, before ++ after⟩ ∧
      (∀ e' ∈ tr, ∃ k r, e'.input = .resume k r) ∧ q.1.Alike b ∧
      ∃ e₁ ∈ e :: tr, FdirState.stateEmergency ∈ published e₁.output := by
  obtain ⟨hproceeds, -, -, -, hout, hpost⟩ := ht
  cases hq : q.2.1 with
  | none =>
    obtain ⟨v, hv⟩ := List.exists_mem_of_ne_nil _ (hproceeds.ends hq)
    refine ⟨[], q.1, ?_, by simp, .refl _, e, by simp, ?_⟩
    · rw [hpost, hq, Option.toList_none, List.append_nil]
      exact .nil _
    · rw [hout]
      exact hpub v hv ▸ hv
  | some t =>
    obtain ⟨tr, b, v, hrun, hin, hb, ⟨e₁, he₁, hv⟩, hiff⟩ :=
      canEnd_run before after hp (hproceeds.waits t hq)
    refine ⟨tr, b, ?_, hin, hb, e₁, List.mem_cons_of_mem _ he₁, ?_⟩
    · rwa [hpost, hq]
    · rwa [← hiff.2 (hcov t hq)]

/-- After an exposed lockout, the ticks in progress can publish an emergency, and then something
else. -/
theorem exposes_reverts {e : TickStep} (he : overlappingTicks.Takes e) (ho : Orderly e.pre)
    (hp : e.pre.shared.Provided) (hx : Exposes e) (past : List TickStep) :
    ∃ tr y, overlappingTicks.Run e.post tr y ∧ (∀ e' ∈ tr, ∃ k r, e'.input = .resume k r) ∧
      ¬ Irreversible (past ++ e :: tr) := by
  obtain ⟨hfree, hlocked, t, ht, hcov⟩ := hx
  obtain ⟨hwaits, -⟩ := orderly_step he ho
  obtain ⟨before, after, P, q, htick⟩ := takesTick he ho
  have hpost := htick.post
  rw [htick.others] at ht
  have hprovided : q.1.Provided := htick.proceeds.follows.provided hp
  -- the tick of the lockout ends, with an emergency
  obtain ⟨hsure, hpub⟩ := htick.proceeds.locked (fun hs => absurd hs hfree)
    (by rwa [hpost] at hlocked)
  obtain ⟨tr₁, b, hrun₁, hin₁, hb, e₁, he₁, hemergency⟩ := emergency_run htick hprovided hsure hpub
  -- then one that it has overtaken ends, with what it has counted
  obtain ⟨l₁, l₂, hsplit⟩ := List.append_of_mem ht
  have hmem : t ∈ e.post.live := by
    rw [hpost]
    rcases List.mem_append.1 ht with ht | ht <;> simp [ht]
  have htwaits : b.Waits t := by
    have hw := hwaits t hmem
    rw [hpost] at hw
    exact hw.imp id (hb.known _)
  obtain ⟨tr₂, c, v, hrun₂, hin₂, -, ⟨e₂, he₂, hv⟩, hiff⟩ :=
    canEnd_run l₁ l₂ (hb.provided hprovided) htwaits
  rw [List.append_assoc, List.singleton_append, ← hsplit] at hrun₂
  refine ⟨tr₁ ++ tr₂, _, hrun₁.trans hrun₂, List.forall_mem_append.2 ⟨hin₁, hin₂⟩, fun hirr => ?_⟩
  have hlocked₁ : e₁.post.shared.LockedOut := by
    rcases List.mem_cons.1 he₁ with rfl | he₁
    · exact hlocked
    · exact lockedOut_run hrun₁ hwaits hlocked e₁ he₁
  obtain ⟨l₃, l₄, hcut⟩ := List.append_of_mem he₁
  have hreverted := hirr (past ++ l₃) e₁ (l₄ ++ tr₂)
    (by rw [← List.cons_append, hcut]; simp) ⟨hemergency, hlocked₁⟩ e₂
    (List.mem_append_right _ he₂) v hv
  rw [hpost] at hcov
  exact hcov (hb.covered_iff.1 (hiff.1 hreverted))

/-! ## Every run of an accepted configuration -/

theorem provided_of_sound (hs : Sound s) : s.Provided := by
  intro nodeName node hrec
  obtain ⟨hmem, rfl⟩ := mem_of_record hrec
  exact ⟨hs.getState node hmem, (hs.counted node hmem).strikes⟩

/-- **The lockout with overlapping ticks.** In every run of overlapping ticks the lockout is
irreversible, as long as the first component is not declared defective while another tick in
progress is past it; and after every step where it is, the ticks in progress can end so that the
emergency is reverted, with no further tick. -/
theorem lockout_overlapping {policy : FdirPolicy} {clock : String → Time} {tr : List TickStep}
    {y : Pool FdirManagerNode WaitingTick} (hc : Constructed policy clock s)
    (h : overlappingTicks.Run ⟨s, []⟩ tr y) :
    ((∀ e ∈ tr, ¬ Exposes e) → Irreversible tr) ∧
    ∀ past e rest, tr = past ++ e :: rest → Exposes e → ∃ tr' z,
      overlappingTicks.Run e.post tr' z ∧ (∀ e' ∈ tr', ∃ k r, e'.input = .resume k r) ∧
        ¬ Irreversible (past ++ e :: tr') := by
  refine ⟨irreversible_run h, ?_⟩
  rintro past e rest rfl hx
  obtain ⟨hpast, he, -⟩ := h.around
  obtain ⟨ho, hfollows⟩ := orderly_run hpast fun t ht => by cases ht
  exact exposes_reverts he ho
    (hfollows.provided (provided_of_sound (sound_of_constructed hc))) hx past

/-- Ticks, one after another, on a front lidar that never answers. -/
def silentTicks (times : List Time) : List (PoolInput TickEnv TickReply) :=
  times.flatMap fun now => [.start (pollEnv now), .resume 0 ⟨.timedOut, pollEnv now⟩]

/-- The front lidar has used up its strikes, and two ticks ask for its state. The first one gets no
answer and declares it defective, the second one gets a late reply. -/
def lateReply : List (PoolInput TickEnv TickReply) :=
  silentTicks ((List.range 15).map fun k => 50 * (k : Time)) ++
    [.start (pollEnv 750), .start (pollEnv 750), .resume 0 ⟨.timedOut, pollEnv 750⟩,
      .resume 0 ⟨.replied LifecycleState.primaryStateUnconfigured, pollEnv 750⟩]

/-- After the emergency for the defective lidar a startup is published. -/
theorem lateReply_reverts : ¬ ∀ policy clock s tr t, Constructed policy clock s →
    overlappingTicks.Run ⟨s, []⟩ tr t → Irreversible tr := by
  intro h
  have hrun := overlappingTicks.run_trace ⟨lidarManager, []⟩ lateReply (by decide +kernel)
  have hirr := h _ _ _ _ _ lidarManager_constructed hrun
  generalize htr : overlappingTicks.trace ⟨lidarManager, []⟩ lateReply = tr at hirr
  have hlen : tr.length = 34 := by
    rw [← htr]
    decide +kernel
  have hpub : PublishesLockout (tr.get ⟨32, by omega⟩) := by
    subst htr
    decide +kernel +revert
  have hsplit : tr = tr.take 32 ++ tr.get ⟨32, by omega⟩ :: tr.drop 33 := by
    rw [List.get_eq_getElem, ← List.drop_eq_getElem_cons, List.take_append_drop]
  have hlate : ∃ e ∈ tr.drop 33, ∃ b ∈ published e.output, b ≠ FdirState.stateEmergency := by
    rw [← htr]
    decide +kernel
  obtain ⟨e, he, b, hb, hne⟩ := hlate
  exact hne (hirr _ _ _ hsplit hpub e he b hb)

/-- Two ticks overlap at the first strike, the others follow one after another, up to the lockout
and one tick more. -/
def overlapThenSilent : List (PoolInput TickEnv TickReply) :=
  [.start (pollEnv 0), .start (pollEnv 0), .resume 0 ⟨.timedOut, pollEnv 0⟩,
      .resume 0 ⟨.timedOut, pollEnv 0⟩] ++
    silentTicks ((List.range 14).map fun k => 50 * (k + 1 : Time)) ++ [.start (pollEnv 750)]

theorem lockout_overlapThenSilent :
    (∃ e ∈ (overlappingTicks.trace ⟨lidarManager, []⟩ overlapThenSilent).dropLast,
      PublishesLockout e) ∧
    Irreversible (overlappingTicks.trace ⟨lidarManager, []⟩ overlapThenSilent) := by
  have hrun := overlappingTicks.run_trace ⟨lidarManager, []⟩ overlapThenSilent (by decide +kernel)
  exact ⟨by decide +kernel,
    (lockout_overlapping lidarManager_constructed hrun).1 (by decide +kernel)⟩

end FdirManagerNode

end MonaRobot
