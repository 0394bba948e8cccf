import MonaRobot.Core.LateReplies

/-!
# The accounts of overlapping ticks

However the ticks of `monitor_timer_` overlap, and whatever the services answer, each of them ends:
it waits at most twice for every component. At its end it publishes the health once and the
heartbeat once, and before that neither, so what has been published accounts for every tick that
has started but those that still wait (`ticks_accounted`).
-/

namespace MonaRobot

open Reactive

/-- The action publishes the health, or the heartbeat. -/
def FdirAction.isHealthState : FdirAction → Bool
  | .healthState .. => true
  | _ => false

def FdirAction.isHeartbeat : FdirAction → Bool
  | .heartbeat _ => true
  | _ => false

/-- How often a waiting tick waits at most, the wait in progress included. -/
def WaitingTick.waitsLeft (t : WaitingTick) : ℕ :=
  2 * t.remaining.length + if t.wait = .getState then 2 else 1

namespace FdirManagerNode

variable {s : FdirManagerNode} {h : Health} {node : ManagedNode} {p : FdirAction → Bool}

/-- An action that the end of a tick takes once, and that no component is the reason of. -/
structure OncePerTick (p : FdirAction → Bool) : Prop where
  component : ∀ a, a.component ≠ none → p a = false
  publish : ∀ h, (publish h).countP p = 1

theorem oncePerTick_isHealthState : OncePerTick FdirAction.isHealthState where
  component a ha := by
    cases a with
    | healthState => exact absurd rfl ha
    | _ => rfl
  publish h := by
    unfold FdirManagerNode.publish
    split_ifs <;> rfl

theorem oncePerTick_isHeartbeat : OncePerTick FdirAction.isHeartbeat where
  component a ha := by
    cases a with
    | heartbeat => exact absurd rfl ha
    | _ => rfl
  publish h := by
    unfold FdirManagerNode.publish
    split_ifs <;> rfl

/-! ## One step of a tick -/

/-- The step ends the tick with one `p`, or the tick waits, at most `n` times more; the number of
components stays. -/
structure Accounts (s : FdirManagerNode) (p : FdirAction → Bool) (n : ℕ) (q : TickResult) :
    Prop where
  components : q.1.managedNodes.length = s.managedNodes.length
  once : q.2.2.countP p + q.2.1.toList.length = 1
  waits : (q.2.1.toList.map WaitingTick.waitsLeft).sum ≤ n

/-- After a step that has taken no `p`. -/
theorem Accounts.after {s₁ : FdirManagerNode} {n n₁ : ℕ} {q : TickResult} {o : List FdirAction}
    (hq : Accounts s₁ p n₁ q) (hs : s₁.managedNodes.length = s.managedNodes.length) (hn : n₁ ≤ n)
    (ho : o.countP p = 0) : Accounts s p n (q.1, q.2.1, o ++ q.2.2) where
  components := hq.components.trans hs
  once := by
    rw [List.countP_append, ho, Nat.zero_add]
    exact hq.once
  waits := hq.waits.trans hn

theorem length_setRecord (s : FdirManagerNode) (node : ManagedNode) :
    (s.setRecord node).managedNodes.length = s.managedNodes.length := List.length_map _

/-- A component is the reason of all that its evaluation does. -/
theorem countP_evaluateStep (hp : OncePerTick p) (s : FdirManagerNode) (env : TickEnv) (h : Health)
    (node : ManagedNode) : (s.evaluateStep env h node).actions.countP p = 0 := by
  rw [List.countP_eq_zero]
  intro a ha
  rw [Bool.not_eq_true]
  refine hp.component a ?_
  unfold evaluateStep at ha
  split_ifs at ha
  · cases ha
  · cases ha
  · rw [List.mem_singleton.1 ha]
    simp [FdirAction.component]
  · rw [List.mem_singleton.1 ha]
    simp [FdirAction.component]
  · rw [List.mem_singleton.1 ha]
    simp [FdirAction.component]
  · rcases (node.recovers (env.now node.name)).actions a ha with rfl | ⟨-, data, rfl⟩ <;>
      simp [FdirAction.component]

/-- The wait after an evaluation is the last one for the component. -/
theorem wait_evaluateStep {env : TickEnv} {wait : TickWait}
    (hw : (s.evaluateStep env h node).wait = some wait) : wait ≠ .getState := by
  rintro rfl
  unfold evaluateStep changeWait at hw
  split_ifs at hw <;> simp at hw

theorem accounts_proceed (hp : OncePerTick p) (env : TickEnv) (h : Health) (node : ManagedNode)
    {remaining : List String} {next : FdirManagerNode → Health → TickResult}
    (hnext : ∀ s' h', Accounts s' p (2 * remaining.length) (next s' h')) :
    Accounts s p (2 * remaining.length + 1) (s.proceed env h node remaining next) := by
  have hsilent := countP_evaluateStep hp s env h node
  have hwait := @wait_evaluateStep s h node env
  unfold proceed
  generalize s.evaluateStep env h node = r at hsilent hwait ⊢
  obtain ⟨h', node', wait, o⟩ := r
  cases wait with
  | none => exact (hnext _ _).after (s.length_setRecord node') (Nat.le_succ _) hsilent
  | some wait =>
    refine ⟨s.length_setRecord node', ?_, ?_⟩
    · simpa using hsilent
    · simp [WaitingTick.waitsLeft, hwait rfl]

/-- The loop from some component on. -/
theorem accounts_monitorFrom (hp : OncePerTick p) (env : TickEnv) (names : List String)
    (s : FdirManagerNode) (h : Health) :
    Accounts s p (2 * names.length) (monitorFrom env names s h) := by
  induction names generalizing s h with
  | nil => exact ⟨rfl, hp.publish h, le_rfl⟩
  | cons nodeName rest ih =>
    have hle : 2 * rest.length ≤ 2 * (nodeName :: rest).length := by simp
    unfold monitorFrom
    cases hrec : s.record nodeName with
    | none => exact (ih s h).after (o := []) rfl hle rfl
    | some node =>
      dsimp only
      split_ifs with hd hready
      · exact (ih s _).after (o := []) rfl hle rfl
      · refine ⟨rfl, ?_, ?_⟩
        · simp [hp.component (.getState nodeName) (by simp [FdirAction.component])]
        · simp [WaitingTick.waitsLeft, Nat.mul_add]
      · refine (accounts_proceed hp env h _ fun s' h' => ih s' h').after (o := [.getState nodeName])
          rfl ?_ ?_
        · simp [Nat.mul_add]
        · simp [hp.component (.getState nodeName) (by simp [FdirAction.component])]

/-- A tick that waits for a component that has a record goes on. -/
theorem accounts_resume (hp : OncePerTick p) {t : WaitingTick} (r : TickReply)
    (ht : s.Known t.nodeName) : Accounts s p (t.waitsLeft - 1) (s.resumeTick t r) := by
  obtain ⟨node, hrec⟩ := ht
  obtain ⟨h, nodeName, wait, remaining⟩ := t
  simp only [resumeTick, hrec]
  cases wait with
  | getState =>
    exact accounts_proceed hp r.env h _ fun s' h' => accounts_monitorFrom hp r.env remaining s' h'
  | changeState => exact accounts_monitorFrom hp r.env remaining s h
  | cleanup now =>
    exact (accounts_monitorFrom hp r.env remaining _ _).after (o := []) (s.length_setRecord _)
      le_rfl rfl

/-! ## Any number of ticks -/

/-- The ticks in progress wait for components that have a record, of `n` altogether. -/
def Counts (n : ℕ) (x : Pool FdirManagerNode WaitingTick) : Prop :=
  Orderly x ∧ x.shared.managedNodes.length = n

theorem counts_idle (s : FdirManagerNode) : Counts s.managedNodes.length ⟨s, []⟩ :=
  ⟨fun t ht => (by cases ht), rfl⟩

theorem accounts_begin (hp : OncePerTick p) (s : FdirManagerNode) (env : TickEnv) :
    Accounts s p (2 * s.managedNodes.length) (monitorTicks.begin s env) := by
  have hloop := accounts_monitorFrom hp env (s.managedNodes.map ManagedNode.name) s Health.initial
  rwa [List.length_map] at hloop

theorem counts_step {n : ℕ} {e : TickStep} (he : overlappingTicks.Takes e) (h : Counts n e.pre) :
    Counts n e.post := by
  obtain ⟨horderly, hn⟩ := h
  refine ⟨(orderly_step he horderly).1, Eq.trans ?_ hn⟩
  induction e, he using Handlers.pool_rec with
  | start s live env he => exact (accounts_begin oncePerTick_isHeartbeat s env).components
  | resume s before t after r he =>
    exact (accounts_resume oncePerTick_isHeartbeat r (horderly t (by simp)).2).components

variable {x : Pool FdirManagerNode WaitingTick} {tr : List TickStep}

/-- Every tick that has started has taken its `p`, or waits. -/
theorem once_run (hp : OncePerTick p) (h : overlappingTicks.Run ⟨s, []⟩ tr x) :
    (tr.flatMap Step.output).countP p + x.live.length = starts tr := by
  have hall := Handlers.run_conserves (fun e he hc => counts_step he hc)
    (fun a live env _ => (accounts_begin hp a env).once)
    (fun a live t r hc ht => (accounts_resume hp r (hc.1 t ht).2).once) h (counts_idle s)
  rwa [List.length_nil, Nat.zero_add] at hall

/-- **Every tick is accounted for.** In any run of overlapping ticks, the health messages are as
many as the ticks that have started, less those that wait, and so are the heartbeats. The ticks have
waited at most twice for each component, with the waits to come. -/
theorem ticks_accounted (h : overlappingTicks.Run ⟨s, []⟩ tr x) :
    (tr.flatMap Step.output).countP FdirAction.isHealthState + x.live.length = starts tr ∧
    (tr.flatMap Step.output).countP FdirAction.isHeartbeat + x.live.length = starts tr ∧
    resumes tr + (x.live.map WaitingTick.waitsLeft).sum ≤
      2 * s.managedNodes.length * starts tr := by
  refine ⟨once_run oncePerTick_isHealthState h, once_run oncePerTick_isHeartbeat h, ?_⟩
  have hall := Handlers.run_budget (m := WaitingTick.waitsLeft) (n := 2 * s.managedNodes.length)
    (fun e he hc => counts_step he hc) (fun a live env hc => ?_) (fun a live t r hc ht => ?_) h
    (counts_idle s)
  · simpa using hall
  · rw [← hc.2]
    exact (accounts_begin oncePerTick_isHeartbeat a env).waits
  · have hle := (accounts_resume oncePerTick_isHeartbeat r (hc.1 t ht).2).waits
    have hpos : 0 < t.waitsLeft := by
      unfold WaitingTick.waitsLeft
      split_ifs <;> omega
    exact lt_of_le_of_lt hle (Nat.sub_lt hpos Nat.one_pos)

/-- Up to the late reply, which one tick still waits for. -/
theorem ticks_accounted_lateReply :
    let tr := overlappingTicks.trace ⟨lidarManager, []⟩ (lateReply.take 33)
    (tr.flatMap Step.output).countP FdirAction.isHealthState + 1 = starts tr ∧
      resumes tr + 2 ≤ 2 * starts tr := by
  have hrun := overlappingTicks.run_trace ⟨lidarManager, []⟩ (lateReply.take 33) (by decide +kernel)
  have hlive : (overlappingTicks.final ⟨lidarManager, []⟩ (lateReply.take 33)).live.map
      WaitingTick.waitsLeft = [2] := by decide +kernel
  have hlength := congrArg List.length hlive
  rw [List.length_map] at hlength
  obtain ⟨hhealth, -, hwaits⟩ := ticks_accounted hrun
  rw [hlength] at hhealth
  rw [hlive] at hwaits
  exact ⟨hhealth, hwaits⟩

end FdirManagerNode

end MonaRobot
