import MonaRobot.Core.Verdicts
import MonaRobot.Foundations.History

/-!
# Relays on the contactor topic

The manager publishes on `hardware/contactors` itself, and on the topic that the configuration names
for the relay of a component, whatever it is. As long as no relay has this topic (`RelaysApart`),
all that the manager puts on it opens the contactors (`actuations_opens`). A relay on it closes
them, in the fourth tick after its component stops to answer (`closes_run`).
-/

namespace MonaRobot

open Reactive

/-- The record of a component in its first recovery. -/
def ManagedNode.firstFailure (node : ManagedNode) (phase : RecoveryPhase) (lastPhaseChange : Time) :
    ManagedNode :=
  { node with
    currentState := LifecycleState.primaryStateUnknown
    retryCount := 1
    phase := phase
    lastPhaseChange := lastPhaseChange }

namespace FdirManagerNode

open ManagedNode

/-- The topic of the contactors, as both nodes write it. -/
def contactorTopic : String := "hardware/contactors"

/-- The messages on `hardware/contactors`. The full name of a topic depends on the namespace and the
remappings that the nodes are started with. -/
def actuations (fullName : String → String) (o : List FdirAction) : List Bool :=
  o.filterMap fun
    | .contactors data => some data
    | .relay _ resetTopic data =>
      if fullName resetTopic = fullName contactorTopic then some data else none
    | _ => none

/-- No component has its relay on `hardware/contactors`. -/
def RelaysApart (fullName : String → String) (s : FdirManagerNode) : Prop :=
  ∀ node ∈ s.managedNodes, node.resetMechanism = .hardwareRelay →
    fullName node.resetTopic ≠ fullName contactorTopic

instance (fullName : String → String) (s : FdirManagerNode) : Decidable (s.RelaysApart fullName) :=
  inferInstanceAs (Decidable (∀ node ∈ s.managedNodes, _ → _))

variable {fullName : String → String} {e : MonitorStep} {m s t : FdirManagerNode}
  {node : ManagedNode} {tr : List MonitorStep}

/-- No tick changes the topics. -/
theorem relaysApart_step (he : ticks.Takes e) (h : RelaysApart fullName e.pre) :
    RelaysApart fullName e.post := by
  obtain ⟨-, hpost, -⟩ := takes_iff.1 he
  intro node' hnode' hm
  rw [hpost] at hnode'
  obtain ⟨node, hnode, rfl⟩ := List.mem_map.1 hnode'
  have hv := e.pre.visits e.input node
  rw [hv.resetTopic]
  exact h node hnode (hv.frame.2.2 ▸ hm)

/-- Without a relay on the topic, the manager only opens the contactors. -/
theorem actuations_opens (he : ticks.Takes e) (h : RelaysApart fullName e.pre) :
    ∀ data ∈ actuations fullName e.output, data = false := by
  intro data hdata
  obtain ⟨a, ha, hdata⟩ := List.mem_filterMap.1 hdata
  cases a with
  | contactors b =>
    obtain rfl := Option.some.inj hdata
    rcases mem_output he ha with ⟨_, _, _, hcomp⟩ | ⟨hpub, -⟩
    · cases hcomp
    · rcases mem_publish.1 hpub with h | ⟨-, h | h⟩ | h <;> cases h
      rfl
  | relay nodeName topic b =>
    obtain ⟨htopic, -⟩ := Option.ite_none_right_eq_some.1 hdata
    rcases mem_output he ha with ⟨node, hnode, ha, -⟩ | ⟨-, hcomp⟩
    · obtain ⟨-, rfl, hm⟩ := (e.pre.visits e.input node).relay ha
      exact absurd htopic (h node hnode hm)
    · cases hcomp
  | _ => cases hdata

/-! ## A relay on the topic -/

/-- The poll of one component times out, and all others report that they are active. -/
def failingTick (nodeName : String) (now : Time) : MonitorTick where
  outcome name := if name = nodeName then .timedOut else .replied LifecycleState.primaryStateActive
  now _ := now

/-- No component is defective, `node` among them. -/
structure Working (node : ManagedNode) (s : FdirManagerNode) : Prop extends Sound s where
  mem : node ∈ s.managedNodes
  working : ∀ n ∈ s.managedNodes, n.isDefective = false

/-- The component that fails goes on with its recovery. -/
theorem failing_eq (s : FdirManagerNode) (hd : node.isDefective = false) (now : Time) :
    let r := { node with currentState := LifecycleState.primaryStateUnknown }.handleRecoveryFsm now
    s.updated (failingTick node.name now) node = r.1 ∧
      s.actions (failingTick node.name now) node = .getState node.name :: r.2 := by
  have hstate : s.getNodeState ((failingTick node.name now).outcome node.name) node.name =
      LifecycleState.primaryStateUnknown := by
    simp [getNodeState, failingTick]
  unfold updated actions
  rw [monitorNode_working s _ _ hd hstate]
  exact ⟨rfl, rfl⟩

/-- The others stay active, and nothing is commanded for them. -/
theorem Working.others (h : Working node s) {n : ManagedNode} (hn : n ∈ s.managedNodes)
    (hne : n ≠ node) (now : Time) :
    (s.updated (failingTick node.name now) n).isDefective = false ∧
      s.actions (failingTick node.name now) n = [.getState n.name] := by
  have hname : n.name ≠ node.name := fun heq =>
    hne (List.inj_on_of_nodup_map h.nodup hn h.mem heq)
  have hstate : s.getNodeState ((failingTick node.name now).outcome n.name) n.name =
      LifecycleState.primaryStateActive := by
    simp [getNodeState, failingTick, hname, h.getState n hn]
  unfold updated actions
  rw [monitorNode_working s _ _ (h.working n hn) hstate]
  exact ⟨h.working n hn, rfl⟩

/-- Without a lockout, nothing is published on the topic for the health of the whole. -/
theorem actuations_publish (he : ticks.Takes e) (hs : Sound e.pre) (h : ¬ Locked e.post) :
    actuations fullName (publish (e.pre.health e.input)) = [] := by
  have hv : verdict (e.pre.health e.input) ≠ FdirState.stateEmergency := by
    intro hv
    refine h ((emergency_iff he hs).1 ?_)
    rw [published_output he, hv]
    exact List.mem_singleton_self _
  rw [publish, if_neg hv]
  rfl

/-- A tick in which one component fails and is not locked out: what is published on the topic are
the commands on its relay, if they are published there. -/
theorem working_step (fullName : String → String) (h : Working node s) (now : Time)
    {node' : ManagedNode} {o : List FdirAction}
    (hr : { node with currentState := LifecycleState.primaryStateUnknown }.handleRecoveryFsm now =
      (node', o)) (hd : node'.isDefective = false) :
    ∃ e : MonitorStep, ticks.Takes e ∧ e.pre = s ∧ Working node' e.post ∧
      actuations fullName e.output = actuations fullName o := by
  obtain ⟨hupdated, hactions⟩ := failing_eq s (h.working node h.mem) now
  simp only [hr] at hupdated hactions
  obtain ⟨e, he, rfl, hin⟩ : ∃ e : MonitorStep, ticks.Takes e ∧ e.pre = s ∧
      e.input = failingTick node.name now := ⟨_, takes_monitorLoop h.toProvisioned _, rfl, rfl⟩
  obtain ⟨-, hpost, hout⟩ := takes_iff.1 he
  rw [← hin] at hupdated hactions
  have hworking : ∀ n ∈ e.post.managedNodes, n.isDefective = false := by
    rw [hpost]
    intro n' hn'
    obtain ⟨n, hn, rfl⟩ := List.mem_map.1 hn'
    by_cases hne : n = node
    · rw [hne, hupdated]
      exact hd
    · rw [hin]
      exact (h.others hn hne now).1
  refine ⟨e, he, rfl, ⟨sound_step he h.toSound, ?_, hworking⟩, ?_⟩
  · rw [hpost, ← hupdated]
    exact List.mem_map_of_mem h.mem
  · have hnone : ¬ Locked e.post := fun ⟨n, hn, hdefective⟩ =>
      absurd ((hworking n hn).symm.trans hdefective) Bool.false_ne_true
    have hone : e.pre.managedNodes.flatMap
        (fun n => actuations fullName (e.pre.actions e.input n)) =
          actuations fullName (e.pre.actions e.input node) := by
      refine Loop.flatMap_eq_of_unique h.mem (List.Nodup.of_map _ h.nodup) fun n hn hne => ?_
      rw [hin, (h.others hn hne now).2]
      rfl
    have hsplit : actuations fullName e.output = e.pre.managedNodes.flatMap
        (fun n => actuations fullName (e.pre.actions e.input n)) ++
          actuations fullName (publish (e.pre.health e.input)) := by
      rw [hout, actuations, List.filterMap_append, List.filterMap_flatMap]
      rfl
    rw [hsplit, hone, actuations_publish he h.toSound hnone, List.append_nil, hactions]
    rfl

/-- **A relay on the topic closes the contactors.** A component whose relay is on the topic is
powered down and up again when it stops to answer, and then the last message on the topic is a
closing one. -/
theorem closes_run {policy : FdirPolicy} {clock : String → Time}
    (hs : Constructed policy clock s) (hnode : node ∈ s.managedNodes)
    (hm : node.resetMechanism = .hardwareRelay)
    (htopic : fullName node.resetTopic = fullName contactorTopic) :
    ∃ tr t, ticks.Run s tr t ∧ lastOut (fun e => actuations fullName e.output) tr = some true := by
  have hfresh := hs.fresh node hnode
  have hstart : Working node s :=
    ⟨sound_of_constructed hs, hnode, fun n hn => (hs.fresh n hn).working⟩
  have hstrike :
      { node with currentState := LifecycleState.primaryStateUnknown }.handleRecoveryFsm 0 =
        (node.firstFailure .powerOff node.lastPhaseChange, []) := by
    simp [handleRecoveryFsm, firstFailure, hfresh.phase, hfresh.retryCount, maxRecoveryRetries]
  have hopened : (node.firstFailure .powerOff node.lastPhaseChange).handleRecoveryFsm 0 =
      (node.firstFailure .waitDischarge 0, [.relay node.name node.resetTopic false]) := by
    simp [handleRecoveryFsm, powerOff, firstFailure, hm]
  have hdischarged : (node.firstFailure .waitDischarge 0).handleRecoveryFsm node.powerOffTime =
      (node.firstFailure .powerOn 0, []) := by
    simp [handleRecoveryFsm, firstFailure]
  have hclosed : (node.firstFailure .powerOn 0).handleRecoveryFsm 0 =
      (node.firstFailure .waitBoot 0, [.relay node.name node.resetTopic true]) := by
    simp [handleRecoveryFsm, powerOn, firstFailure, hm]
  obtain ⟨e₁, he₁, rfl, h₁, -⟩ := working_step fullName hstart 0 hstrike hfresh.working
  obtain ⟨e₂, he₂, hpre₂, h₂, -⟩ := working_step fullName h₁ 0 hopened hfresh.working
  obtain ⟨e₃, he₃, hpre₃, h₃, -⟩ :=
    working_step fullName h₂ node.powerOffTime hdischarged hfresh.working
  obtain ⟨e₄, he₄, hpre₄, -, hout⟩ := working_step fullName h₃ 0 hclosed hfresh.working
  have hrun : ticks.Run e₁.pre ([e₁, e₂, e₃] ++ [e₄]) e₄.post :=
    .cons he₁ (hpre₂ ▸ .cons he₂ (hpre₃ ▸ .cons he₃ (hpre₄ ▸ .single he₄)))
  refine ⟨_, _, hrun, ?_⟩
  rw [lastOut_concat, hout]
  simp [actuations, htopic]

end FdirManagerNode

end MonaRobot
