import MonaRobot.Core.Escalation
import MonaRobot.Core.Isolation
import MonaRobot.Core.TerminalFault

/-!
# The verdicts that are ever sent

`fdir_manager` knows six health states, and a tick publishes one of three (`verdict_cases`):
EMERGENCY when it leaves a component defective, SOFTWARE_OK when it polled every component active,
and else SYSTEM_STARTUP. Over a run no other state follows an EMERGENCY (`verdicts_run`).
-/

namespace MonaRobot.FdirManagerNode

open Reactive

variable {s t : FdirManagerNode} {tick : MonitorTick} {e : MonitorStep} {tr : List MonitorStep}

/-- A component is locked out. -/
def Locked (s : FdirManagerNode) : Prop := ∃ node ∈ s.managedNodes, node.isDefective = true

instance (s : FdirManagerNode) : Decidable s.Locked :=
  inferInstanceAs (Decidable (∃ node ∈ s.managedNodes, _))

/-- A tick that polls every component active. -/
def FindsActive (e : MonitorStep) : Prop :=
  ∀ node ∈ e.pre.managedNodes, e.pre.PolledActive e.input node

theorem locked_step (he : ticks.Takes e) (h : Locked e.pre) : Locked e.post := by
  obtain ⟨node, hnode, hd⟩ := h
  exact ⟨node, mem_post_of_defective he hnode hd, hd⟩

/-- A component that is not defective was polled active, or was not found active. -/
theorem notActive_of_not_polledActive {node : ManagedNode} (h : ¬ s.PolledActive tick node)
    (hd : (s.updated tick node).isDefective = false) : NotActive (s.updated tick node) := by
  have hvisit := s.visits tick node
  by_contra hactive
  exact h (hvisit.allActive_iff_polledActive.1 ((hvisit.allActive_iff hd).2 hactive))

/-- **Three verdicts.** -/
theorem verdict_cases (he : ticks.Takes e) (hs : Sound e.pre) :
    (published e.output = [FdirState.stateEmergency] ∧ Locked e.post) ∨
    (published e.output = [FdirState.stateSoftwareOk] ∧ FindsActive e) ∨
    (published e.output = [FdirState.stateSystemStartup] ∧ ¬ Locked e.post) := by
  by_cases hlocked : Locked e.post
  · obtain ⟨node, hnode, hd⟩ := hlocked
    exact Or.inl ⟨(publishesEmergency he hnode hd).health, node, hnode, hd⟩
  right
  have hw : ∀ node ∈ e.post.managedNodes, node.isDefective = false := by
    intro node hnode
    by_contra hd
    exact hlocked ⟨node, hnode, by simpa using hd⟩
  by_cases hactive : FindsActive e
  · refine Or.inl ⟨?_, hactive⟩
    rw [published_output he, (softwareOk_iff e.pre e.input).2 hactive]
  · refine Or.inr ⟨startup_of_recovering he hs hw ?_, hlocked⟩
    obtain ⟨-, hpost, -⟩ := takes_iff.1 he
    unfold FindsActive at hactive
    push Not at hactive
    obtain ⟨node, hnode, hnot⟩ := hactive
    have hmem : e.pre.updated e.input node ∈ e.post.managedNodes := by
      rw [hpost]
      exact List.mem_map_of_mem hnode
    exact ⟨_, hmem, notActive_of_not_polledActive hnot (hw _ hmem)⟩

/-- An EMERGENCY is sent exactly by the ticks that leave a component locked out. -/
theorem emergency_iff (he : ticks.Takes e) (hs : Sound e.pre) :
    FdirState.stateEmergency ∈ published e.output ↔ Locked e.post := by
  rcases verdict_cases he hs with ⟨hpub, hlocked⟩ | ⟨hpub, hactive⟩ | ⟨hpub, hlocked⟩
  · exact iff_of_true (by simp [hpub]) hlocked
  · refine iff_of_false (by rw [hpub]; decide) fun ⟨node, hnode, hd⟩ => ?_
    have hhealth := (publishesEmergency he hnode hd).health
    rw [hpub] at hhealth
    exact absurd hhealth (by decide)
  · exact iff_of_false (by rw [hpub]; decide) hlocked

/-- The health states that a step publishes. -/
def verdicts (e : MonitorStep) : List UInt8 := published e.output

/-- What is sent over a run: the three verdicts, and nothing else after an EMERGENCY, which means
that a component is locked out. -/
structure Verdicts (sent : List UInt8) (s : FdirManagerNode) : Prop where
  sound : Sound s
  three : ∀ b ∈ sent, b = FdirState.stateEmergency ∨ b = FdirState.stateSoftwareOk ∨
    b = FdirState.stateSystemStartup
  latched : sent.Pairwise fun a b => a = FdirState.stateEmergency → b = FdirState.stateEmergency
  locked : FdirState.stateEmergency ∈ sent → Locked s

/-- After an EMERGENCY only EMERGENCY was sent. -/
theorem Verdicts.after {sent sent' : List UInt8} (h : Verdicts (sent ++ sent') s)
    (hsent : FdirState.stateEmergency ∈ sent) : ∀ b ∈ sent', b = FdirState.stateEmergency :=
  fun b hb => (List.pairwise_append.1 h.latched).2.2 _ hsent b hb rfl

theorem verdicts_step (he : ticks.Takes e) {sent : List UInt8} (h : Verdicts sent e.pre) :
    Verdicts (sent ++ published e.output) e.post := by
  have hone := verdict_cases he h.sound
  refine ⟨sound_step he h.sound, fun b hb => ?_, ?_, fun hb => ?_⟩
  · rcases List.mem_append.1 hb with hb | hb
    · exact h.three b hb
    · rcases hone with ⟨hpub, -⟩ | ⟨hpub, -⟩ | ⟨hpub, -⟩ <;> rw [hpub, List.mem_singleton] at hb
      · exact Or.inl hb
      · exact Or.inr (Or.inl hb)
      · exact Or.inr (Or.inr hb)
  · refine List.pairwise_append.2 ⟨h.latched, ?_, fun a ha b hb heq => ?_⟩
    · rw [published_output he]
      exact List.pairwise_singleton _ _
    · obtain ⟨node, hnode, hd⟩ := locked_step he (h.locked (heq ▸ ha))
      rw [(publishesEmergency he hnode hd).health] at hb
      exact List.mem_singleton.1 hb
  · rcases List.mem_append.1 hb with hb | hb
    · exact locked_step he (h.locked hb)
    · exact (emergency_iff he h.sound).1 hb

theorem verdicts_run (hs : Sound s) (h : ticks.Run s tr t) : Verdicts (tr.flatMap verdicts) t := by
  refine h.history (H := fun tr t => Verdicts (tr.flatMap verdicts) t)
    ⟨hs, by simp, .nil, by simp⟩ fun tr e _ he hpre => ?_
  rw [List.flatMap_append, List.flatMap_singleton]
  exact verdicts_step he hpre

end MonaRobot.FdirManagerNode
