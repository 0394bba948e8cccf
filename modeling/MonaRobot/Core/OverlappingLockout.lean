import MonaRobot.Core.OverlappingTicks
import MonaRobot.Core.TerminalFault

/-!
# The lockout with overlapping ticks

Between two ticks the lockout of a component is irreversible. Overlapping ticks can break it: a tick
that has already asked for the state of a component counts it as it answers, when another tick has
declared it defective in the meantime. The lockout is irreversible as long as no component is
declared defective while another tick is past it (`irreversible_run`).

A tick with an emergency in its accumulators, or a defective component ahead, publishes an emergency
whatever the replies are; `Proceeds` says this of a step of a tick, by induction on the components
that are left, and `guarded_step` of a step of all the ticks.
-/

namespace MonaRobot

open Reactive

namespace FdirManagerNode

/-! ## Defective components -/

/-- The component is recorded as defective. -/
def defective (s : FdirManagerNode) (nodeName : String) : Bool :=
  (s.record nodeName).any ManagedNode.isDefective

/-- Some component is defective. -/
def LockedOut (s : FdirManagerNode) : Prop :=
  ∃ node ∈ s.managedNodes, s.defective node.name = true

instance : DecidablePred LockedOut := fun s =>
  inferInstanceAs (Decidable (∃ node ∈ s.managedNodes, s.defective node.name = true))

theorem defective_iff {s : FdirManagerNode} {nodeName : String} :
    s.defective nodeName = true ↔
      ∃ node, s.record nodeName = some node ∧ node.isDefective = true := by
  rw [defective, Option.any_eq_true]

theorem mem_of_record {s : FdirManagerNode} {nodeName : String} {node : ManagedNode}
    (h : s.record nodeName = some node) : node ∈ s.managedNodes ∧ node.name = nodeName :=
  ⟨List.mem_of_find?_eq_some h, by simpa using List.find?_some h⟩

theorem lockedOut_of_defective {s : FdirManagerNode} {nodeName : String}
    (h : s.defective nodeName = true) : s.LockedOut := by
  obtain ⟨node, hnode, -⟩ := defective_iff.1 h
  obtain ⟨hmem, rfl⟩ := mem_of_record hnode
  exact ⟨node, hmem, h⟩

/-- A written record is found under its name, and the others as before. -/
theorem record_setRecord (s : FdirManagerNode) (node : ManagedNode) (nodeName : String) :
    (s.setRecord node).record nodeName =
      (s.record nodeName).map fun m => if m.name = node.name then node else m := by
  have hname : ∀ m : ManagedNode, (if m.name = node.name then node else m).name = m.name := by
    intro m
    split_ifs with h
    · exact h.symm
    · rfl
  simp only [record, setRecord, List.find?_map, Function.comp_def, hname]

theorem defective_setRecord {s : FdirManagerNode} {node m : ManagedNode}
    (hm : s.record node.name = some m) (nodeName : String) :
    (s.setRecord node).defective nodeName =
      if nodeName = node.name then node.isDefective else s.defective nodeName := by
  rw [defective, record_setRecord]
  split_ifs with h
  · subst h
    simp [hm, (mem_of_record hm).2]
  · cases hr : s.record nodeName with
    | none => simp [defective, hr]
    | some k =>
      have hk : k.name ≠ node.name := fun heq => h ((mem_of_record hr).2.symm.trans heq)
      simp [defective, hr, hk]

theorem defective_setRecord_same {s : FdirManagerNode} {m k : ManagedNode}
    (hk : s.record m.name = some k) (hd : m.isDefective = k.isDefective) (nodeName : String) :
    (s.setRecord m).defective nodeName = s.defective nodeName := by
  rw [defective_setRecord hk]
  split_ifs with heq
  · simp [defective, heq, hk, hd]
  · rfl

/-- The component has a record. -/
def Known (s : FdirManagerNode) (nodeName : String) : Prop :=
  ∃ node, s.record nodeName = some node

end FdirManagerNode

/-- A component that is not defective has not been struck more often than permitted. -/
def ManagedNode.WithinStrikes (node : ManagedNode) : Prop :=
  node.isDefective = false → node.retryCount ≤ ManagedNode.maxRecoveryRetries

namespace FdirManagerNode

/-- Every record has a client for its state, and its strikes are within those permitted. -/
def Provided (s : FdirManagerNode) : Prop :=
  ∀ nodeName node, s.record nodeName = some node →
    nodeName ∈ s.getStateClients ∧ node.WithinStrikes

/-- What the steps of all ticks keep. -/
structure Follows (s s' : FdirManagerNode) : Prop where
  defective : ∀ c, s.defective c = true → s'.defective c = true
  known : ∀ c, s.Known c → s'.Known c
  provided : s.Provided → s'.Provided

theorem Follows.refl (s : FdirManagerNode) : s.Follows s := ⟨fun _ => id, fun _ => id, id⟩

theorem Follows.trans {s s₁ s₂ : FdirManagerNode} (h₁ : s.Follows s₁) (h₂ : s₁.Follows s₂) :
    s.Follows s₂ where
  defective c hc := h₂.defective c (h₁.defective c hc)
  known c hc := h₂.known c (h₁.known c hc)
  provided hp := h₂.provided (h₁.provided hp)

theorem Follows.lockedOut {s s' : FdirManagerNode} (h : s.Follows s') (hs : s.LockedOut) :
    s'.LockedOut := by
  obtain ⟨node, -, hd⟩ := hs
  exact lockedOut_of_defective (h.defective _ hd)

/-- A component that is known is written, and its record may not become better. -/
theorem follows_setRecord {s : FdirManagerNode} {m k : ManagedNode} (hk : s.record m.name = some k)
    (hd : k.isDefective = true → m.isDefective = true)
    (hstrikes : k.WithinStrikes → m.WithinStrikes) : s.Follows (s.setRecord m) where
  defective c hc := by
    rw [defective_setRecord hk]
    split_ifs with heq
    · rw [heq, defective, hk] at hc
      exact hd hc
    · exact hc
  known c := by
    rintro ⟨node, hnode⟩
    exact ⟨_, by rw [record_setRecord, hnode]; rfl⟩
  provided hp c node hnode := by
    rw [record_setRecord, Option.map_eq_some_iff] at hnode
    obtain ⟨r, hr, rfl⟩ := hnode
    obtain ⟨hclient, hwithin⟩ := hp c r hr
    refine ⟨hclient, ?_⟩
    split_ifs with heq
    · obtain rfl : r = k := by
        rw [← heq, (mem_of_record hr).2, hr] at hk
        exact Option.some.inj hk
      exact hstrikes hwithin
    · exact hwithin

/-! ## The severity of the accumulators -/

end FdirManagerNode

namespace Health

/-- The tick will publish an emergency. -/
def Emergency (h : Health) : Prop :=
  h.allActive = false ∧ FdirState.stateEmergency ≤ h.globalState

instance : DecidablePred Emergency := fun _ => inferInstanceAs (Decidable (_ ∧ _))

/-- It is at most an emergency, and less while all components are active. -/
structure Sane (h : Health) : Prop where
  bound : h.globalState ≤ FdirState.stateEmergency
  active : h.allActive = true → h.globalState < FdirState.stateEmergency

/-- `h'` is at least as severe as `h`. -/
structure Worse (h h' : Health) : Prop where
  inactive : h.allActive = false → h'.allActive = false
  state : h.globalState ≤ h'.globalState
  sane : h'.Sane

theorem Emergency.worse {h h' : Health} (he : Emergency h) (hw : Worse h h') : Emergency h' :=
  ⟨hw.inactive he.1, he.2.trans hw.state⟩

/-- A component that is not active is counted. -/
theorem Sane.worse_count {h : Health} (hs : h.Sane) (state : UInt8)
    (hstate : state ≤ FdirState.stateEmergency) : Worse h ⟨max h.globalState state, false⟩ :=
  ⟨fun _ => rfl, le_max_left _ _, max_le hs.bound hstate, by simp⟩

theorem emergency_count (h : Health) :
    Emergency ⟨max h.globalState FdirState.stateEmergency, false⟩ :=
  ⟨rfl, le_max_right _ _⟩

end Health

/-- The wait is for the reply of `change_state` in `handle_recovery_fsm`. -/
def TickWait.inRecovery : TickWait → Bool
  | cleanup _ => true
  | _ => false

/-- A recovery step keeps a component defective. -/
theorem ManagedNode.Recovers.defective {now : Time} {node node' : ManagedNode}
    {o : List FdirAction} (h : ManagedNode.Recovers now node node' o)
    (hd : node.isDefective = true) : node'.isDefective = true := by
  cases h <;> first | exact hd | rfl

theorem ManagedNode.Recovers.withinStrikes {now : Time} {node node' : ManagedNode}
    {o : List FdirAction} (h : ManagedNode.Recovers now node node' o)
    (hs : node.WithinStrikes) : node'.WithinStrikes := by
  cases h with
  | strike _ hr => exact fun _ => hr
  | exhausted | unknownMechanism | invalidPhase => exact fun hd => by cases hd
  | _ => exact hs

namespace FdirManagerNode

/-! ## What a step of a tick does -/

/-- A tick with these accumulators and these components to come will publish an emergency. -/
def Certain (s : FdirManagerNode) (h : Health) (names : List String) : Prop :=
  h.Emergency ∨ ∃ nodeName ∈ names, s.defective nodeName = true

/-- A waiting tick will publish an emergency, whatever the replies are. -/
def Covered (s : FdirManagerNode) (t : WaitingTick) : Prop :=
  s.Certain t.health t.remaining ∨ (t.wait.inRecovery = true ∧ s.defective t.nodeName = true)

instance (s : FdirManagerNode) (h : Health) (names : List String) : Decidable (s.Certain h names) :=
  inferInstanceAs (Decidable (_ ∨ ∃ nodeName ∈ names, _))

instance (s : FdirManagerNode) : DecidablePred s.Covered := fun _ =>
  inferInstanceAs (Decidable (_ ∨ _))

theorem Certain.mono {s s' : FdirManagerNode} {h h' : Health} {names : List String}
    (hc : s.Certain h names) (hw : h.Worse h')
    (hkept : ∀ c, s.defective c = true → s'.defective c = true) : s'.Certain h' names := by
  rcases hc with he | ⟨c, hc, hd⟩
  · exact Or.inl (he.worse hw)
  · exact Or.inr ⟨c, hc, hkept c hd⟩

theorem Covered.mono {s s' : FdirManagerNode} {t : WaitingTick} (hc : s.Covered t)
    (hs : t.health.Sane) (hkept : ∀ c, s.defective c = true → s'.defective c = true) :
    s'.Covered t :=
  hc.imp (fun h => h.mono ⟨id, le_rfl, hs⟩ hkept) fun h => ⟨h.1, hkept _ h.2⟩

/-- Outside the recovery it does not matter whether the component itself is defective. -/
theorem covered_iff_certain {s : FdirManagerNode} {t : WaitingTick}
    (hw : t.wait.inRecovery = false) : s.Covered t ↔ s.Certain t.health t.remaining := by
  simp [Covered, hw]

/-- A tick waits for a component that has a record. -/
def Waits (s : FdirManagerNode) (t : WaitingTick) : Prop :=
  t.health.Sane ∧ s.Known t.nodeName

/-- What the evaluation of a component does. -/
structure Evaluated (h : Health) (node : ManagedNode) (r : Evaluation) : Prop where
  name : r.node.name = node.name
  worse : h.Worse r.health
  kept : node.isDefective = true → r.node.isDefective = true
  declared : node.isDefective = false → r.node.isDefective = true →
    r.wait = none ∧ r.health.Emergency
  strikes : node.WithinStrikes → r.node.WithinStrikes
  silent : published r.actions = []

theorem evaluated (s : FdirManagerNode) (env : TickEnv) {h : Health} (node : ManagedNode)
    (hs : h.Sane) : Evaluated h node (s.evaluateStep env h node) := by
  have hsame : ∀ {P : Prop}, node.isDefective = false → node.isDefective = true → P :=
    fun hw hd => absurd (hw.symm.trans hd) (by decide)
  unfold evaluateStep
  split_ifs with hzombie hactive hun hin hclean
  · exact ⟨rfl, ⟨fun _ => rfl, hs.bound, le_rfl, by simp⟩, id, fun hw hd => hsame hw hd, id, rfl⟩
  · exact ⟨rfl, ⟨id, le_rfl, hs⟩, id, fun hw hd => hsame hw hd, fun _ _ => Nat.zero_le _, rfl⟩
  · exact ⟨rfl, hs.worse_count _ (by decide), id, fun hw hd => hsame hw hd, id, rfl⟩
  · exact ⟨rfl, hs.worse_count _ (by decide), id, fun hw hd => hsame hw hd, id, rfl⟩
  · exact ⟨rfl, ⟨fun _ => rfl, le_rfl, hs.bound, by simp⟩, id, fun hw hd => hsame hw hd, id, rfl⟩
  · have hr := node.recovers (env.now node.name)
    refine ⟨hr.frame.1, hs.worse_count _ (failureState_le _), hr.defective, fun _ hd => ?_,
      hr.withinStrikes, ?_⟩
    · have hstate : failureState (node.handleRecoveryFsm (env.now node.name)).1 =
          FdirState.stateEmergency := if_pos hd
      exact ⟨rfl, by simpa only [hstate] using h.emergency_count⟩
    · have hcomp : ∀ a ∈ (node.handleRecoveryFsm (env.now node.name)).2,
          a.component = some node.name := by
        intro a ha
        rcases hr.actions a ha with rfl | ⟨-, data, rfl⟩ <;> rfl
      exact published_component hcomp

/-- What a step of a tick does to the records and to the tick, if `P` makes it publish an emergency:
the lockout stays, and if it came before, or comes with the step, then so does the emergency. A tick
that ends publishes. -/
structure Proceeds (s : FdirManagerNode) (P : Prop) (q : TickResult) : Prop where
  follows : s.Follows q.1
  waits : ∀ t ∈ q.2.1, q.1.Waits t
  covered : (P ∨ ∃ c, s.defective c = false ∧ q.1.defective c = true) →
    (∀ t ∈ q.2.1, q.1.Covered t) ∧ ∀ b ∈ published q.2.2, b = FdirState.stateEmergency
  ends : q.2.1 = none → published q.2.2 ≠ []

/-- A silent change of the records before a step. -/
theorem Proceeds.after {s s₁ : FdirManagerNode} {P P₁ : Prop} {q : TickResult} {o : List FdirAction}
    (h : Proceeds s₁ P₁ q) (hs : s.Follows s₁) (hP : P → P₁)
    (hnew : ∀ c, s.defective c = false → s₁.defective c = true → P₁)
    (ho : published o = []) : Proceeds s P (q.1, q.2.1, o ++ q.2.2) := by
  have hout : published (o ++ q.2.2) = published q.2.2 := published_append ho
  refine ⟨hs.trans h.follows, h.waits, fun hpre => ?_, hout ▸ h.ends⟩
  rw [hout]
  refine h.covered ?_
  rcases hpre with hpre | ⟨c, hc, hc'⟩
  · exact Or.inl (hP hpre)
  · cases h₁ : s₁.defective c with
    | true => exact Or.inl (hnew c hc h₁)
    | false => exact Or.inr ⟨c, h₁, hc'⟩

theorem Proceeds.weaken {s : FdirManagerNode} {P P₁ : Prop} {q : TickResult} (h : Proceeds s P₁ q)
    (hP : P → P₁) : Proceeds s P q :=
  ⟨h.follows, h.waits, fun hpre => h.covered (hpre.imp_left hP), h.ends⟩

/-- A tick that goes on with a component does so as it then does with the others. -/
theorem proceeds_proceed {s : FdirManagerNode} (env : TickEnv) {h : Health} (node : ManagedNode)
    {m : ManagedNode} {remaining : List String} (next : FdirManagerNode → Health → TickResult)
    (hm : s.record node.name = some m) (hd : m.isDefective = node.isDefective)
    (hr : m.retryCount = node.retryCount) (hs : h.Sane)
    (hnext : ∀ s' h', h'.Sane → Proceeds s' (s'.Certain h' remaining) (next s' h')) :
    Proceeds s (s.Certain h remaining) (s.proceed env h node remaining next) := by
  have he := evaluated s env node hs
  have hbefore : s.defective node.name = node.isDefective := by simp [defective, hm, hd]
  unfold proceed
  generalize s.evaluateStep env h node = r at he ⊢
  have hrec : s.record r.node.name = some m := he.name ▸ hm
  have hfollows : s.Follows (s.setRecord r.node) :=
    follows_setRecord hrec (fun hm' => he.kept (hd ▸ hm')) fun hm' => he.strikes <| by
      rwa [ManagedNode.WithinStrikes, ← hd, ← hr]
  have hnew : ∀ c, s.defective c = false → (s.setRecord r.node).defective c = true →
      r.wait = none ∧ r.health.Emergency := by
    intro c hc hc'
    rw [defective_setRecord hrec, he.name] at hc'
    split_ifs at hc' with heq
    · exact he.declared (hbefore ▸ heq ▸ hc) hc'
    · exact absurd (hc.symm.trans hc') (by decide)
  have hcertain : s.Certain h remaining → (s.setRecord r.node).Certain r.health remaining :=
    fun hc => hc.mono he.worse hfollows.defective
  obtain ⟨h', node', wait, o⟩ := r
  cases wait with
  | none =>
    exact (hnext _ _ he.worse.sane).after hfollows hcertain
      (fun c hc hc' => Or.inl (hnew c hc hc').2) he.silent
  | some wait =>
    refine ⟨hfollows, fun t ht => ?_, fun hpre => ⟨fun t ht => ?_, ?_⟩, fun hnone => by cases hnone⟩
    · obtain rfl := Option.some.inj ht
      exact ⟨he.worse.sane, hfollows.known _ ⟨m, hm⟩⟩
    · obtain rfl := Option.some.inj ht
      rcases hpre with hc | ⟨c, hc, hc'⟩
      · exact Or.inl (hcertain hc)
      · cases (hnew c hc hc').1
    · rw [he.silent]
      simp

/-- An emergency is published exactly if the tick has found one. -/
theorem verdict_eq_emergency {h : Health} (hs : h.Sane) :
    verdict h = FdirState.stateEmergency ↔ h.Emergency := by
  unfold verdict Health.Emergency
  cases ha : h.allActive with
  | true => simp; decide
  | false => simp [hs.bound.ge_iff_eq]

/-- Nothing is published while a tick goes on to its next wait, and at its end the health is. -/
theorem proceeds_publish (s : FdirManagerNode) {h : Health} (hs : h.Sane) :
    Proceeds s (s.Certain h []) (s, none, publish h) := by
  refine ⟨.refl s, fun t ht => (by cases ht), fun hpre => ⟨fun t ht => (by cases ht), ?_⟩, ?_⟩
  · have hemergency : h.Emergency := by
      rcases hpre with (he | ⟨c, hc, -⟩) | ⟨c, hc, hc'⟩
      · exact he
      · cases hc
      · exact absurd (hc.symm.trans hc') (by decide)
    rw [published_publish, (verdict_eq_emergency hs).2 hemergency]
    simp
  · simp [published_publish]

/-- The loop from some component on. -/
theorem proceeds_monitorFrom (env : TickEnv) (names : List String) (s : FdirManagerNode)
    {h : Health} (hs : h.Sane) : Proceeds s (s.Certain h names) (monitorFrom env names s h) := by
  induction names generalizing s h with
  | nil => exact proceeds_publish s hs
  | cons nodeName rest ih =>
    -- a component that is passed and is not defective does not make the emergency certain
    have hpassed : s.defective nodeName = false →
        s.Certain h (nodeName :: rest) → s.Certain h rest := by
      rintro hd (he | ⟨c, hc, hc'⟩)
      · exact Or.inl he
      · rcases List.mem_cons.1 hc with rfl | hc
        · exact absurd (hd.symm.trans hc') (by decide)
        · exact Or.inr ⟨c, hc, hc'⟩
    unfold monitorFrom
    cases hrec : s.record nodeName with
    | none => exact (ih s hs).weaken (hpassed (by simp [defective, hrec]))
    | some node =>
      obtain rfl := (mem_of_record hrec).2
      dsimp only
      by_cases hd : node.isDefective = true
      · rw [if_pos hd]
        exact (ih s (hs.worse_count _ le_rfl).sane).weaken fun _ => Or.inl h.emergency_count
      · have hworking : s.defective node.name = false := by simpa [defective, hrec] using hd
        rw [if_neg hd]
        split_ifs
        · refine ⟨.refl s, fun t ht => ?_, fun hpre => ⟨fun t ht => ?_, by simp [published]⟩,
            fun hnone => by cases hnone⟩
          · obtain rfl := Option.some.inj ht
            exact ⟨hs, node, hrec⟩
          · obtain rfl := Option.some.inj ht
            rcases hpre with hc | ⟨c, hc, hc'⟩
            · exact Or.inl (hpassed hworking hc)
            · exact absurd (hc.symm.trans hc') (by decide)
        · have hproceed := proceeds_proceed env
            { node with currentState := LifecycleState.primaryStateUnknown } (monitorFrom env rest)
            hrec rfl rfl hs fun s' h' hs' => ih s' hs'
          exact hproceed.after (o := [.getState node.name]) (.refl s) (hpassed hworking)
            (fun c hc hc' => absurd (hc.symm.trans hc') (by decide)) rfl

theorem sane_initial : Health.initial.Sane := ⟨by decide, by decide⟩

theorem proceeds_begin (s : FdirManagerNode) (env : TickEnv) :
    Proceeds s s.LockedOut (monitorTicks.begin s env) := by
  refine (proceeds_monitorFrom env _ s sane_initial).weaken ?_
  rintro ⟨node, hnode, hd⟩
  exact Or.inr ⟨node.name, List.mem_map_of_mem hnode, hd⟩

theorem proceeds_resume (s : FdirManagerNode) {t : WaitingTick} (r : TickReply) (ht : s.Waits t) :
    Proceeds s (s.Covered t) (monitorTicks.resume s t r) := by
  obtain ⟨h, nodeName, wait, remaining⟩ := t
  obtain ⟨hs, node, hrec⟩ := ht
  obtain rfl := (mem_of_record hrec).2
  simp only [monitorTicks, resumeTick, hrec]
  cases wait with
  | getState =>
    have hproceed := proceeds_proceed r.env
      { node with currentState := s.getNodeState r.outcome node.name } (monitorFrom r.env remaining)
      hrec rfl rfl hs fun s' h' hs' => proceeds_monitorFrom r.env remaining s' hs'
    exact hproceed.weaken (covered_iff_certain rfl).1
  | changeState =>
    exact (proceeds_monitorFrom r.env remaining s hs).weaken (covered_iff_certain rfl).1
  | cleanup now =>
    have hsame := defective_setRecord_same
      (m := { node with phase := .waitDischarge, lastPhaseChange := now }) hrec rfl
    have hfollows : s.Follows
        (s.setRecord { node with phase := .waitDischarge, lastPhaseChange := now }) :=
      follows_setRecord hrec id id
    have hworse := hs.worse_count _
      (failureState_le { node with phase := .waitDischarge, lastPhaseChange := now })
    refine (proceeds_monitorFrom r.env remaining _ hworse.sane).after (o := []) hfollows ?_
      (fun c hc hc' => absurd (hc.symm.trans ((hsame c).symm.trans hc')) (by decide)) rfl
    rintro (hc | ⟨-, hd⟩)
    · exact hc.mono hworse hfollows.defective
    · have hd' : node.isDefective = true := by simpa [defective, hrec] using hd
      have hstate : failureState { node with phase := .waitDischarge, lastPhaseChange := now } =
          FdirState.stateEmergency := if_pos hd'
      rw [hstate]
      exact Or.inl h.emergency_count

/-- A step that ends with a defective component is one of a tick that will publish an emergency, or
does. -/
theorem Proceeds.locked {s : FdirManagerNode} {P : Prop} {q : TickResult} (h : Proceeds s P q)
    (hP : s.LockedOut → P) (hq : q.1.LockedOut) :
    (∀ t ∈ q.2.1, q.1.Covered t) ∧ ∀ b ∈ published q.2.2, b = FdirState.stateEmergency := by
  by_cases hs : s.LockedOut
  · exact h.covered (Or.inl (hP hs))
  · obtain ⟨node, -, hd⟩ := hq
    refine h.covered (Or.inr ⟨node.name, ?_, hd⟩)
    rw [← Bool.not_eq_true]
    exact fun hd' => hs (lockedOut_of_defective hd')

/-! ## Overlapping ticks -/

/-- The first lockout comes while another tick in progress is past it. -/
def Exposes (e : TickStep) : Prop :=
  ¬ e.pre.shared.LockedOut ∧ e.post.shared.LockedOut ∧ ∃ t ∈ others e, ¬ e.post.shared.Covered t

instance : DecidablePred Exposes := fun _ =>
  inferInstanceAs (Decidable (_ ∧ _ ∧ ∃ t ∈ _, _))

/-- The ticks in progress wait for components that have a record. -/
def Orderly (x : Pool FdirManagerNode WaitingTick) : Prop := ∀ t ∈ x.live, x.shared.Waits t

/-- Once a component is defective, every tick in progress will publish an emergency. -/
def Guarded (x : Pool FdirManagerNode WaitingTick) : Prop :=
  x.shared.LockedOut → ∀ t ∈ x.live, x.shared.Covered t

/-- The step takes one tick on to `q`, while those of `before` and `after` wait. -/
structure TakesTick (e : TickStep) (before after : List WaitingTick) (P : Prop) (q : TickResult) :
    Prop where
  proceeds : Proceeds e.pre.shared P q
  guarded : Guarded e.pre → e.pre.shared.LockedOut → P
  waiting : ∀ t ∈ before ++ after, t ∈ e.pre.live
  others : others e = before ++ after
  output : e.output = q.2.2
  post : e.post = ⟨q.1, before ++ q.2.1.toList ++ after⟩

theorem takesTick {e : TickStep} (he : overlappingTicks.Takes e) (ho : Orderly e.pre) :
    ∃ before after P q, TakesTick e before after P q := by
  induction e, he using Handlers.pool_rec with
  | start s live env he =>
    refine ⟨live, [], _, _, ⟨proceeds_begin s env, fun _ => id, by simp, by simp [others], rfl, ?_⟩⟩
    rw [List.append_nil]
  | resume s before t after r he =>
    have hmem : t ∈ before ++ t :: after := by simp
    refine ⟨before, after, _, _, ⟨proceeds_resume s r (ho t hmem), fun hg hs => hg hs t hmem, ?_,
      Handlers.others_resume .., rfl, rfl⟩⟩
    intro u hu
    rcases List.mem_append.1 hu with hu | hu <;> simp [hu]

/-- The ticks that wait for records do so after the step too. -/
theorem orderly_step {e : TickStep} (he : overlappingTicks.Takes e) (ho : Orderly e.pre) :
    Orderly e.post ∧ e.pre.shared.Follows e.post.shared := by
  obtain ⟨before, after, P, q, hp, -, hwaiting, -, -, hpost⟩ := takesTick he ho
  rw [hpost]
  have hothers : ∀ t ∈ before ++ after, q.1.Waits t := fun t ht =>
    (ho t (hwaiting t ht)).imp id (hp.follows.known _)
  simp only [List.forall_mem_append] at hothers
  refine ⟨?_, hp.follows⟩
  simp only [Orderly, List.forall_mem_append]
  exact ⟨⟨hothers.1, fun t ht => hp.waits t (Option.mem_toList.1 ht)⟩, hothers.2⟩

theorem guarded_step {e : TickStep} (he : overlappingTicks.Takes e) (hno : ¬ Exposes e)
    (ho : Orderly e.pre) (hg : Guarded e.pre) : Guarded e.post ∧
      (e.post.shared.LockedOut → ∀ b ∈ published e.output, b = FdirState.stateEmergency) := by
  obtain ⟨before, after, P, q, hp, hP, hwaiting, hothers, hout, hpost⟩ := takesTick he ho
  rw [Exposes, hothers, hpost] at hno
  rw [hpost, hout]
  refine ⟨fun hq => ?_, fun hq => (hp.locked (hP hg) hq).2⟩
  have hrest : ∀ t ∈ before ++ after, q.1.Covered t := by
    intro t ht
    by_cases hs : e.pre.shared.LockedOut
    · exact (hg hs t (hwaiting t ht)).mono (ho t (hwaiting t ht)).1 hp.follows.defective
    · by_contra hcov
      exact hno ⟨hs, hq, t, ht, hcov⟩
  simp only [List.forall_mem_append] at hrest ⊢
  exact ⟨⟨hrest.1, fun t ht => (hp.locked (hP hg) hq).1 t (Option.mem_toList.1 ht)⟩, hrest.2⟩

/-! ## Runs -/

/-- The step publishes an emergency, with a component that is defective. -/
def PublishesLockout (e : TickStep) : Prop :=
  FdirState.stateEmergency ∈ published e.output ∧ e.post.shared.LockedOut

instance : DecidablePred PublishesLockout := fun _ => inferInstanceAs (Decidable (_ ∧ _))

/-- After an emergency for a defective component nothing else is published. -/
def Irreversible (tr : List TickStep) : Prop :=
  ∀ past e rest, tr = past ++ e :: rest → PublishesLockout e →
    ∀ e' ∈ rest, ∀ b ∈ published e'.output, b = FdirState.stateEmergency

/-- In every run the lockout stays, and the ticks in progress wait for records. -/
theorem orderly_run {x y : Pool FdirManagerNode WaitingTick} {tr : List TickStep}
    (h : overlappingTicks.Run x tr y) (ho : Orderly x) :
    Orderly y ∧ x.shared.Follows y.shared := by
  refine h.invariant (I := fun y => Orderly y ∧ x.shared.Follows y.shared) ⟨ho, .refl _⟩ ?_
  rintro e he ⟨hpre, hfollows⟩
  obtain ⟨hpost, hstep⟩ := orderly_step he hpre
  exact ⟨hpost, hfollows.trans hstep⟩

/-- While no lockout is exposed, it is irreversible. -/
theorem irreversible_run {s : FdirManagerNode} {tr : List TickStep}
    {t : Pool FdirManagerNode WaitingTick} (h : overlappingTicks.Run ⟨s, []⟩ tr t)
    (hno : ∀ e ∈ tr, ¬ Exposes e) : Irreversible tr := by
  rintro past e rest rfl ⟨-, hlocked⟩ e' he'
  obtain ⟨mid, after, rfl⟩ := List.append_of_mem he'
  obtain ⟨hpast, htake, hrest⟩ := h.around
  obtain ⟨hmid, htake', -⟩ := hrest.around
  have hrun : overlappingTicks.Run ⟨s, []⟩ (past ++ e :: mid) e'.pre :=
    hpast.trans (.cons htake hmid)
  have hpre : Orderly e'.pre ∧ Guarded e'.pre := by
    refine hrun.invariant_under (I := fun x => Orderly x ∧ Guarded x)
      ⟨fun t ht => (by cases ht), fun _ t ht => by cases ht⟩
      (fun e'' he'' => hno e'' (by simp at he'' ⊢; tauto)) fun e'' htake hc hi => ?_
    exact ⟨(orderly_step htake hi.1).1, (guarded_step htake hc hi.1 hi.2).1⟩
  have ho : Orderly e.post := (orderly_run (hpast.snoc htake) fun t ht => by cases ht).1
  have hlocked' : e'.post.shared.LockedOut :=
    ((orderly_run hmid ho).2.trans (orderly_step htake' hpre.1).2).lockedOut hlocked
  exact (guarded_step htake' (hno e' (by simp)) hpre.1 hpre.2).2 hlocked'

end FdirManagerNode

end MonaRobot
