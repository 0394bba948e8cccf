import MonaRobot.Core.FdirMaps

/-!
# Map lookups

The four maps are filled under different conditions, and a key that is tracked later overwrites the
record, the clients and the publisher of one with the same node name. No lookup ever misses
(`lookups_run`): the clients of every name stay, and the publisher that a relay record finds is the
one of its own topic, because a record and its publisher are overwritten together.
-/

namespace MonaRobot

open Reactive

namespace ManagedNode

/-! ## The fallbacks -/

/-- `handle_recovery_fsm` takes one of its fallbacks: the phase is none of the switch, or the
mechanism is unknown in a phase that actuates it. -/
def FallsBack (node : ManagedNode) : Prop :=
  match node.phase with
  | .powerOff | .powerOn => ∃ value, node.resetMechanism = .other value
  | .other _ => True
  | _ => False

/-- A recovery step locks a working component out when its strikes are used up, or by a fallback. -/
theorem Recovers.defective_iff {now : Time} {node node' : ManagedNode} {o : List FdirAction}
    (h : Recovers now node node' o) (hd : node.isDefective = false) : node'.isDefective = true ↔
      node.FallsBack ∨ node.phase = .nominal ∧ maxRecoveryRetries ≤ node.retryCount := by
  cases h with
  | exhausted hp hr => simp [hp, hr, lockOut]
  | strike hp hr => simp [FallsBack, hp, hd, hr]
  | relayOpened hp hm => simp [FallsBack, hp, hm, hd]
  | cleanupRequested hp hm => simp [FallsBack, hp, hm, hd]
  | relayClosed hp hm => simp [FallsBack, hp, hm, hd]
  | softwareReset hp hm => simp [FallsBack, hp, hm, hd]
  | discharging hp | discharged hp | booting hp | booted hp | lockedOut hp =>
    simp [FallsBack, hp, hd]
  | unknownMechanism value hm hp => rcases hp with hp | hp <;> simp [FallsBack, hp, hm, lockOut]
  | invalidPhase value hp => simp [FallsBack, hp, lockOut]

theorem Counted.not_fallsBack {node : ManagedNode} (h : Counted node) : ¬ node.FallsBack := by
  unfold FallsBack
  cases hp : node.phase with
  | powerOff | powerOn => exact fun ⟨value, hm⟩ => h.mechanism value hm
  | other value => exact absurd hp (h.valid value)
  | _ => exact id

end ManagedNode

namespace FdirMaps

variable {policy : FdirPolicy} {clock : String → Time} {s t : FdirMaps} {m : FdirManagerNode}

/-! ## One tick -/

/-- A step of the manager with its maps. -/
abbrev MapStep := Step FdirMaps MonitorTick (List MapCall × List FdirAction)

/-- The tick misses no entry of `s`: every call gets the handle that is there for it, the publisher
of every relay command is one for the topic of the record that it is for, which is the topic of the
command without keys, and no record makes the recovery fall back. -/
structure Found (s : FdirMaps) (e : MapStep) : Prop where
  handles : ∀ call ∈ e.output.1, ∃ handle, call.entry = some (some handle) ∧
    s.entryOf call.action = some (some handle)
  topics : ∀ call ∈ e.output.1, ∀ key topic data, call.action = .relay key topic data →
    ∃ node, (key, node) ∈ e.pre.managedNodes ∧ topic = node.resetTopic ∧
      call.entry = some (some topic)
  valid : ∀ entry ∈ e.pre.managedNodes, ¬ entry.2.FallsBack

/-- What holds between two ticks: the manager with the maps of `s` is a sound one without keys. -/
def Intact (s t : FdirMaps) : Prop :=
  SameHandles s t ∧ ∃ m, Refines t m ∧ FdirManagerNode.Sound m

theorem intact_step {e : MapStep} (he : ticks.Takes e) (h : Intact s e.pre) : Intact s e.post := by
  obtain ⟨hsame, m, href⟩ := h
  have htick : e.pre.monitorLoop e.input = (e.post, e.output) := Option.some.inj he
  obtain ⟨hkeep, -⟩ := monitorLoop_refines href.1 href.2.toProvisioned e.input
  obtain ⟨m', -, hpost⟩ := view.step e m he href
  rw [htick] at hkeep
  exact ⟨hsame.trans hkeep, m', hpost⟩

/-- A relay is commanded for a record that has one, on the topic of that record. -/
theorem relay_topic (href : Refines s m) (tick : MonitorTick) {key topic : String} {data : Bool}
    (h : .relay key topic data ∈ (m.monitorLoop tick).2) :
    ∃ node, (key, node) ∈ s.managedNodes ∧ topic = node.resetTopic ∧
      s.entryOf (.relay key topic data) = some (some topic) := by
  rw [FdirManagerNode.monitorLoop_eq] at h
  rcases List.mem_append.1 h with h | h
  · obtain ⟨node, hnode, ha⟩ := List.mem_flatMap.1 h
    obtain ⟨rfl, rfl, hr⟩ := (m.visits tick node).relay ha
    refine ⟨node, ?_, rfl, (href.supplied node hnode).relay hr⟩
    rw [href.entries]
    exact List.mem_map_of_mem hnode
  · cases FdirManagerNode.component_publish h

theorem found_step {e : MapStep} (he : ticks.Takes e) (h : Intact s e.pre) : Found s e := by
  obtain ⟨hsame, m, href, hm⟩ := h
  have htick : e.pre.monitorLoop e.input = (e.post, e.output) := Option.some.inj he
  obtain ⟨-, -, hout, hcalls⟩ := monitorLoop_refines href hm.toProvisioned e.input
  rw [htick] at hout hcalls
  constructor
  · intro call hcall
    obtain ⟨hentry, handle, hfound⟩ := hcalls call hcall
    exact ⟨handle, hfound, by rw [← hsame.entryOf, ← hentry, hfound]⟩
  · intro call hcall key topic data haction
    have hmem : .relay key topic data ∈ (m.monitorLoop e.input).2 := by
      rw [hout, ← haction]
      exact List.mem_append_left _ (List.mem_map_of_mem hcall)
    obtain ⟨node, hnode, hrecord, htopic⟩ := relay_topic href e.input hmem
    exact ⟨node, hnode, hrecord, by rw [(hcalls call hcall).1, haction, htopic]⟩
  · intro entry hentry
    rw [href.entries] at hentry
    obtain ⟨node, hnode, rfl⟩ := List.mem_map.1 hentry
    exact (hm.counted node hnode).not_fallsBack

/-! ## Every run of an accepted configuration -/

/-- The manager as its constructor leaves it, its records in the order in which the map iterates. -/
def Constructed (policy : FdirPolicy) (clock : String → Time) (s : FdirMaps) : Prop :=
  ∃ s₀, initManagedNodes policy clock = .ok s₀ ∧ s.managedNodes.Perm s₀.managedNodes ∧
    SameHandles s₀ s

/-- It is the manager without keys that the same configuration constructs. -/
theorem Constructed.refines (h : Constructed policy clock s) :
    ∃ m, FdirManagerNode.Constructed policy clock m ∧ Refines s m := by
  obtain ⟨s₀, hinit, hperm, hsame⟩ := h
  obtain ⟨m₀, hm₀, href⟩ := refines_init hinit
  have hkeyed : ∀ entry ∈ s.managedNodes, ∃ node ∈ m₀.managedNodes, (node.name, node) = entry := by
    intro entry hentry
    have hmem := hperm.mem_iff.1 hentry
    rw [href.entries] at hmem
    exact List.mem_map.1 hmem
  refine ⟨{ m₀ with managedNodes := s.managedNodes.map Prod.snd }, ⟨m₀, hm₀, ?_, rfl, rfl, rfl⟩,
    ⟨?_, ?_⟩⟩
  · have hrecords : (s.managedNodes.map Prod.snd).Perm (s₀.managedNodes.map Prod.snd) :=
      hperm.map Prod.snd
    rw [href.entries, List.map_map] at hrecords
    exact hrecords.trans (.of_eq (List.map_id _))
  · rw [List.map_map]
    refine (List.map_id _).symm.trans (List.map_congr_left fun entry hentry => ?_)
    obtain ⟨node, -, rfl⟩ := hkeyed entry hentry
    rfl
  · intro node hnode
    obtain ⟨entry, hentry, rfl⟩ := List.mem_map.1 hnode
    obtain ⟨node, hmem, rfl⟩ := hkeyed entry hentry
    exact hsame.supplied (href.supplied node hmem)

/-- A run of the manager with its maps is a run of the manager without keys: the same ticks, calls
and messages. -/
theorem run_without_keys (h : Constructed policy clock s) {tr : List MapStep}
    (hrun : ticks.Run s tr t) : ∃ m tr' m', FdirManagerNode.Constructed policy clock m ∧
      FdirManagerNode.ticks.Run m tr' m' ∧ Refines t m' ∧ List.Forall₂ view.Matches tr tr' := by
  obtain ⟨m, hm, href⟩ := h.refines
  obtain ⟨tr', m', hrun', ⟨hlast, -⟩, hmatch⟩ :=
    view.project hrun (a := m) ⟨href, FdirManagerNode.sound_of_constructed hm⟩
  exact ⟨m, tr', m', hm, hrun', hlast, hmatch⟩

/-- **Map lookups never miss.** In every run of an accepted configuration, every call of every tick
gets the entry that the constructor made for it, and no recovery step takes a fallback. -/
theorem lookups_run (h : Constructed policy clock s) {tr : List MapStep} (hrun : ticks.Run s tr t) :
    ∀ e ∈ tr, Found s e := by
  intro e he
  obtain ⟨m, hm, href⟩ := h.refines
  have hintact : Intact s s := ⟨.refl s, m, href, FdirManagerNode.sound_of_constructed hm⟩
  obtain ⟨hpre, -⟩ := hrun.invariant_mem hintact (fun _ => intact_step) e he
  exact found_step (hrun.takes e he) hpre

/-- Two keys for one node, to be reset in software by the first and by a relay by the second. -/
def twoMechanisms : FdirPolicy where
  trackedComponents := ["lidar_driver", "lidar_power"]
  components key :=
    { enabled := true
      nodeName := "mona_lidar_front"
      tier := "PRIMARY"
      resetMechanism := if key = "lidar_driver" then "lifecycle_service" else "hardware_relay"
      startupTime := 40
      resetTopic := if key = "lidar_driver" then "" else "hardware/power/lidar_front" }

/-- The manager constructed from `twoMechanisms` at time 0: its record has the relay. -/
def twoMechanismsManager : FdirMaps where
  managedNodes :=
    [("mona_lidar_front",
      { name := "mona_lidar_front"
        tier := .primary
        retryCount := 0
        currentState := LifecycleState.primaryStateUnconfigured
        phase := .nominal
        lastPhaseChange := 0
        isDefective := false
        startupTime := 40
        powerOffTime := 3
        resetMechanism := .hardwareRelay
        resetTopic := "hardware/power/lidar_front" })]
  getStateClients := AList.singleton "mona_lidar_front" (some "mona_lidar_front/get_state")
  changeStateClients := AList.singleton "mona_lidar_front" (some "mona_lidar_front/change_state")
  relayPubs := AList.singleton "mona_lidar_front" (some "hardware/power/lidar_front")

/-- The component fails, and its relay is opened and closed again. -/
def powerCycle : List MonitorTick :=
  [pollTick .timedOut 0, pollTick .timedOut 0, pollTick .timedOut 3, pollTick .timedOut 3]

theorem lookups_run_powerCycle :
    (∀ e ∈ ticks.trace twoMechanismsManager powerCycle, Found twoMechanismsManager e) ∧
    ((ticks.trace twoMechanismsManager powerCycle).flatMap fun e => e.output.1.drop 1) =
      [⟨.relay "mona_lidar_front" "hardware/power/lidar_front" false,
          some (some "hardware/power/lidar_front")⟩,
        ⟨.relay "mona_lidar_front" "hardware/power/lidar_front" true,
          some (some "hardware/power/lidar_front")⟩] := by
  have hconstructed : Constructed twoMechanisms (fun _ => 0) twoMechanismsManager :=
    ⟨twoMechanismsManager, rfl, .refl _, .refl _⟩
  exact ⟨lookups_run hconstructed (ticks.run_trace _ powerCycle rfl), by decide +kernel⟩

end FdirMaps

end MonaRobot
