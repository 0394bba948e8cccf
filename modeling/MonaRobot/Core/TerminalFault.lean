import MonaRobot.Core.Monitor

/-!
# The lockout of a defective component

A component that has used up its strikes is locked out for good, and with it the robot: the tick
that declares it defective and every later tick publish EMERGENCY, open contactors and a zero
velocity (`terminal_fault`). The emergency survives the tick because every contribution to the health
is at most EMERGENCY, a defective component contributes exactly that (`Visits.defective`), and its
`all_active = false` bars the override to SOFTWARE_OK.

A tick leaves a defective component as it is and does nothing for it (`Visits.of_defective`); the
rest is the induction over the run.
-/

namespace MonaRobot.FdirManagerNode

open Reactive

variable {s t : FdirManagerNode} {tick : MonitorTick} {node node' : ManagedNode} {c : Health}
  {o : List FdirAction} {e : MonitorStep} {tr : List MonitorStep}

/-! ## The health of a tick with a defective component -/

theorem failureState_le (node : ManagedNode) : failureState node ≤ FdirState.stateEmergency := by
  unfold failureState tierState
  split_ifs
  · exact le_rfl
  · cases node.tier <;> decide
  · decide

/-- No component is worse than an emergency. -/
theorem Visits.le_emergency (h : Visits s tick node c node' o) :
    c.globalState ≤ FdirState.stateEmergency := by
  cases h with
  | failed => exact failureState_le _
  | lockedOut => exact le_rfl
  | active => decide
  | unconfigured => decide
  | inactive => decide

/-- A component that is defective after the tick makes it an emergency. -/
theorem Visits.defective (h : Visits s tick node c node' o) (hd : node'.isDefective = true) :
    c = ⟨FdirState.stateEmergency, false⟩ := by
  cases h with
  | lockedOut => rfl
  | failed =>
    rw [failureState, if_pos hd]
  | active hw => exact absurd hd (by simp [hw])
  | unconfigured hw => exact absurd hd (by simp [hw])
  | inactive hw => exact absurd hd (by simp [hw])

/-- One defective component settles the health of the whole. -/
theorem health_defective (hnode : node ∈ s.managedNodes)
    (hd : (s.updated tick node).isDefective = true) :
    s.health tick = ⟨FdirState.stateEmergency, false⟩ := by
  have hc : s.contribution tick node = ⟨FdirState.stateEmergency, false⟩ :=
    (s.visits tick node).defective hd
  have hmem : (⟨FdirState.stateEmergency, false⟩ : Health) ∈
      s.managedNodes.map (s.contribution tick) := List.mem_map.2 ⟨node, hnode, hc⟩
  have hactive : (s.health tick).allActive = false := by
    rw [← Bool.not_eq_true]
    intro hall
    exact absurd ((Health.foldl_join_allActive.1 hall).2 _ hmem) (by simp)
  have hle : (s.health tick).globalState ≤ FdirState.stateEmergency := by
    refine Health.foldl_join_globalState_le_iff.2 ⟨by decide, fun x hx => ?_⟩
    obtain ⟨m, -, rfl⟩ := List.mem_map.1 hx
    exact (s.visits tick m).le_emergency
  have hge : FdirState.stateEmergency ≤ (s.health tick).globalState :=
    (Health.foldl_join_globalState_le_iff.1 le_rfl).2 _ hmem
  calc s.health tick = ⟨(s.health tick).globalState, (s.health tick).allActive⟩ := rfl
    _ = ⟨FdirState.stateEmergency, false⟩ := by rw [le_antisymm hle hge, hactive]

/-! ## The outputs -/

/-- The publications of an emergency: the health, the contactors opened, the zero velocity. -/
structure PublishesEmergency (o : List FdirAction) : Prop where
  health : published o = [FdirState.stateEmergency]
  contactors : .contactors false ∈ o
  motorCmd : .motorCmd 0 ∈ o

theorem publishesEmergency (he : ticks.Takes e) (hnode : node ∈ e.post.managedNodes)
    (hd : node.isDefective = true) : PublishesEmergency e.output := by
  obtain ⟨-, hpost, hout⟩ := takes_iff.1 he
  rw [hpost] at hnode
  obtain ⟨m, hm, rfl⟩ := List.mem_map.1 hnode
  have hhealth := health_defective hm hd
  have hpub : ∀ a ∈ publish ⟨FdirState.stateEmergency, false⟩, a ∈ e.output := by
    intro a ha
    rw [hout, hhealth]
    exact List.mem_append_right _ ha
  refine ⟨?_, hpub _ (mem_publish.2 (Or.inr (Or.inl ⟨rfl, Or.inl rfl⟩))),
    hpub _ (mem_publish.2 (Or.inr (Or.inl ⟨rfl, Or.inr rfl⟩)))⟩
  rw [published_output he, hhealth]
  rfl

/-- The manager never closes the contactors and never asks for a motion. -/
theorem output_safe (he : ticks.Takes e) :
    ∀ a ∈ e.output, a ≠ .contactors true ∧ ∀ msg, a = .motorCmd msg → msg = 0 := by
  intro a ha
  rcases mem_output he ha with ⟨m, -, -, hcomp⟩ | ⟨ha, -⟩
  · refine ⟨?_, fun msg => ?_⟩ <;> rintro rfl <;> cases hcomp
  · rcases mem_publish.1 ha with rfl | ⟨-, rfl | rfl⟩ | rfl
    · exact ⟨by simp, by simp⟩
    · exact ⟨by simp, by simp⟩
    · exact ⟨by simp, fun msg h => (FdirAction.motorCmd.inj h).symm⟩
    · exact ⟨by simp, by simp⟩

/-! ## The record of a defective component -/

theorem Visits.of_defective (h : Visits s tick node c node' o) (hd : node.isDefective = true) :
    node' = node ∧ o = [] := by
  cases h with
  | lockedOut => exact ⟨rfl, rfl⟩
  | active hw => exact absurd hd (by simp [hw])
  | unconfigured hw => exact absurd hd (by simp [hw])
  | inactive hw => exact absurd hd (by simp [hw])
  | failed hw => exact absurd hd (by simp [hw])

/-- A tick leaves the record of a defective component alone. -/
theorem mem_post_of_defective (he : ticks.Takes e) (hnode : node ∈ e.pre.managedNodes)
    (hd : node.isDefective = true) : node ∈ e.post.managedNodes := by
  obtain ⟨-, hpost, -⟩ := takes_iff.1 he
  rw [hpost]
  exact List.mem_map.2 ⟨node, hnode, ((e.pre.visits e.input node).of_defective hd).1⟩

/-- A tick does nothing for a defective component. -/
theorem no_action_of_defective (he : ticks.Takes e) (hs : Sound e.pre)
    (hnode : node ∈ e.pre.managedNodes) (hd : node.isDefective = true) :
    ∀ a ∈ e.output, a.component ≠ some node.name := by
  intro a ha hcomp
  rcases mem_output he ha with ⟨m, hm, ha, hname⟩ | ⟨-, hnone⟩
  · rw [hname] at hcomp
    obtain rfl := List.inj_on_of_nodup_map hs.nodup hm hnode (Option.some.inj hcomp)
    rw [((e.pre.visits e.input m).of_defective hd).2] at ha
    cases ha
  · rw [hnone] at hcomp
    cases hcomp

/-! ## The lockout -/

/-- What holds from the tick that declares the component defective on. -/
theorem locked_out (h : ticks.Run s tr t) (hs : Sound s) (hnode : node ∈ s.managedNodes)
    (hd : node.isDefective = true) : ∀ e ∈ tr, PublishesEmergency e.output ∧
      (∀ a ∈ e.output, a.component ≠ some node.name) ∧ Sound e.post ∧
      node ∈ e.post.managedNodes := by
  intro e he
  have hinv := h.invariant_mem (I := fun x => Sound x ∧ node ∈ x.managedNodes) ⟨hs, hnode⟩
    (fun e' he' hpre => ⟨sound_step he' hpre.1, mem_post_of_defective he' hpre.2 hd⟩) e he
  obtain ⟨⟨hpre, hmem⟩, hpost, hmem'⟩ := hinv
  have htakes := h.takes e he
  exact ⟨publishesEmergency htakes hmem' hd, no_action_of_defective htakes hpre hmem hd, hpost,
    hmem'⟩

/-- **The lockout is irreversible.** In every run from an accepted configuration: no tick closes the
contactors or asks for a motion; and from the tick after which a component is defective on, every
tick publishes the emergency, no later tick polls the component, requests a transition of it or
commands its relay, and its record stays as it is. -/
theorem terminal_fault {policy : FdirPolicy} {clock : String → Time}
    (hs : Constructed policy clock s) (h : ticks.Run s tr t) :
    (∀ e ∈ tr, ∀ a ∈ e.output, a ≠ .contactors true ∧ ∀ msg, a = .motorCmd msg → msg = 0) ∧
    ∀ past e rest, tr = past ++ e :: rest → ∀ node ∈ e.post.managedNodes,
      node.isDefective = true → node.phase = .defective ∧
        (∀ e' ∈ e :: rest, PublishesEmergency e'.output) ∧
        ∀ e' ∈ rest, (∀ a ∈ e'.output, a.component ≠ some node.name) ∧
          node ∈ e'.post.managedNodes ∧
          ∀ node' ∈ e'.post.managedNodes, node'.name = node.name → node' = node := by
  refine ⟨fun e he => output_safe (h.takes e he), ?_⟩
  rintro past e rest rfl node hnode hd
  obtain ⟨hpast, he, hrest⟩ := h.around
  have hpost : Sound e.post := sound_step he (sound_run hpast (sound_of_constructed hs))
  have hlocked := locked_out hrest hpost hnode hd
  refine ⟨(hpost.counted node hnode).defective.1 hd, ?_, fun e' he' => ?_⟩
  · intro e' he'
    rcases List.mem_cons.1 he' with rfl | he'
    · exact publishesEmergency he hnode hd
    · exact (hlocked e' he').1
  · obtain ⟨-, hactions, hsound, hmem⟩ := hlocked e' he'
    refine ⟨hactions, hmem, fun node' hnode' hname => ?_⟩
    exact List.inj_on_of_nodup_map hsound.nodup hnode' hmem hname

/-- The front lidar never answers: three passes through the recovery, the fourth failure, and one
tick more. -/
def deadLidar : List MonitorTick := (List.range 17).map fun k => pollTick .timedOut (50 * k)

theorem terminal_fault_deadLidar :
    (∃ e ∈ (ticks.trace lidarManager deadLidar).dropLast, ∃ node ∈ e.post.managedNodes,
      node.isDefective = true) ∧
    ∀ past e rest, ticks.trace lidarManager deadLidar = past ++ e :: rest →
      ∀ node ∈ e.post.managedNodes, node.isDefective = true →
        ∀ e' ∈ e :: rest, PublishesEmergency e'.output := by
  refine ⟨by decide +kernel, fun past e rest htr node hnode hd => ?_⟩
  have hrun := ticks.run_trace lidarManager deadLidar (by decide +kernel)
  exact ((terminal_fault lidarManager_constructed hrun).2 past e rest htr node hnode hd).2.1

end MonaRobot.FdirManagerNode
