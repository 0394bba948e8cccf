import MonaRobot.Core.Monitor
import MonaRobot.Foundations.History

/-!
# The power of a component

The recovery of a component with a hardware relay opens the relay in the phase `POWER_OFF` and closes
it in the phase `POWER_ON`. `RelayTracks` says, phase by phase, what the last command on the relay
was. The recovery keeps it (`Recovers.relayTracks`), and so does every poll but one: a component that
is found `ACTIVE` in `WAIT_DISCHARGE` or `POWER_ON` goes to `NOMINAL` with its relay open
(`CutShort`). Over a run that is the only way (`relayClosed_run_iff`).
-/

namespace MonaRobot

open Reactive

namespace ManagedNode

/-! ## The phases and the relay -/

/-- What the phase of a component says about the last command on its relay. -/
structure RelayTracks (phase : RecoveryPhase) (last : Option Bool) : Prop where
  opened : phase = .waitDischarge ∨ phase = .powerOn → last = some false
  restored : phase = .waitBoot → last = some true
  closed : phase = .nominal ∨ phase = .powerOff → last ≠ some false

variable {node node' : ManagedNode} {now : Time} {o : List FdirAction} {last : Option Bool}

/-- The recovery of a component with a relay opens it, waits, closes it and waits again. -/
theorem Recovers.relayTracks (h : Recovers now node node' o) (hm : node.resetMechanism = .hardwareRelay)
    (hl : RelayTracks node.phase last) :
    RelayTracks node'.phase ((relayCommands node.name o).getLast?.or last) := by
  obtain ⟨hopened, hrestored, hclosed⟩ := hl
  cases h with
  | exhausted => exact ⟨by simp [lockOut], by simp [lockOut], by simp [lockOut]⟩
  | strike hp => exact ⟨by simp, by simp, fun _ => hclosed (Or.inl hp)⟩
  | relayOpened =>
    exact ⟨fun _ => by simp [relayCommands, FdirAction.relayCommand], by simp, by simp⟩
  | cleanupRequested _ hm' => exact absurd (hm.symm.trans hm') (by simp)
  | discharging => exact ⟨hopened, hrestored, hclosed⟩
  | discharged hp => exact ⟨fun _ => hopened (Or.inl hp), by simp, by simp⟩
  | relayClosed =>
    exact ⟨by simp, fun _ => by simp [relayCommands, FdirAction.relayCommand], by simp⟩
  | softwareReset _ hm' => exact absurd (hm.symm.trans hm') (by simp)
  | booting => exact ⟨hopened, hrestored, hclosed⟩
  | booted hp =>
    refine ⟨by simp, by simp, fun _ => ?_⟩
    rw [show ((relayCommands node.name []).getLast?.or last) = last from rfl, hrestored hp]
    simp
  | lockedOut => exact ⟨hopened, hrestored, hclosed⟩
  | unknownMechanism => exact ⟨by simp [lockOut], by simp [lockOut], by simp [lockOut]⟩
  | invalidPhase => exact ⟨by simp [lockOut], by simp [lockOut], by simp [lockOut]⟩

end ManagedNode

namespace FdirManagerNode

open ManagedNode

variable {s t : FdirManagerNode} {tick : MonitorTick} {node node' : ManagedNode} {c : Health}
  {o : List FdirAction} {e : MonitorStep} {tr : List MonitorStep} {last : Option Bool}

/-- The poll ends the recovery of the component with its relay open. -/
def LeavesOpen (s : FdirManagerNode) (tick : MonitorTick) (node : ManagedNode) : Prop :=
  node.isDefective = false ∧ node.resetMechanism = .hardwareRelay ∧
    (node.phase = .waitDischarge ∨ node.phase = .powerOn) ∧
    s.getNodeState (tick.outcome node.name) node.name = LifecycleState.primaryStateActive

/-- Every poll but one that leaves the relay open keeps track of the relay. -/
theorem Visits.relayTracks (h : Visits s tick node c node' o) (hc : Counted node)
    (hm : node.resetMechanism = .hardwareRelay) (hopen : ¬ LeavesOpen s tick node)
    (hl : RelayTracks node.phase last) :
    RelayTracks node'.phase ((relayCommands node.name o).getLast?.or last) := by
  cases h with
  | lockedOut => exact hl
  | unconfigured => exact hl
  | inactive => exact hl
  | active hd hactive =>
    refine ⟨by simp, by simp, fun _ => ?_⟩
    change last ≠ some false
    cases hp : node.phase with
    | nominal => exact hl.closed (Or.inl hp)
    | powerOff => exact hl.closed (Or.inr hp)
    | waitDischarge => exact absurd ⟨hd, hm, Or.inl hp, hactive⟩ hopen
    | powerOn => exact absurd ⟨hd, hm, Or.inr hp, hactive⟩ hopen
    | waitBoot => simp [hl.restored hp]
    | defective => exact absurd (hc.defective.2 hp) (by simp [hd])
    | other value => exact absurd hp (hc.valid value)
  | failed _ _ _ hr => exact hr.relayTracks hm hl

/-- A poll that leaves the relay open ends in `NOMINAL`, without a command. -/
theorem Visits.leavesOpen (h : Visits s tick node c node' o) (hopen : LeavesOpen s tick node) :
    node'.phase = .nominal ∧ relayCommands node.name o = [] := by
  obtain ⟨hd, -, -, hactive⟩ := hopen
  cases h with
  | lockedOut hd' => exact absurd hd' (by simp [hd])
  | active => exact ⟨rfl, rfl⟩
  | unconfigured _ hu => exact absurd (hactive.symm.trans hu) (by decide)
  | inactive _ hi => exact absurd (hactive.symm.trans hi) (by decide)
  | failed _ hstate hne _ => exact absurd (hstate.symm.trans hactive) hne.1

/-! ## The last command of a history -/

/-- The last command published on the relay of a component. -/
def lastRelay (nodeName : String) (tr : List MonitorStep) : Option Bool :=
  lastOut (fun e => relayCommands nodeName e.output) tr

/-- The commands of a tick on the relay of a component are those of its own visit. -/
theorem relayCommands_output (he : ticks.Takes e) (hs : Sound e.pre)
    (hnode : node ∈ e.pre.managedNodes) : relayCommands node.name e.output =
      relayCommands node.name (e.pre.actions e.input node) :=
  filterMap_output he hs hnode fun _ => relayCommand_eq_none

theorem lastRelay_concat (he : ticks.Takes e) (hs : Sound e.pre)
    (hnode : node ∈ e.pre.managedNodes) : lastRelay node.name (tr ++ [e]) =
      (relayCommands node.name (e.pre.actions e.input node)).getLast?.or
        (lastRelay node.name tr) := by
  rw [lastRelay, lastOut_concat, relayCommands_output he hs hnode, lastRelay]

/-! ## No relay is left open -/

/-- No component with a relay is nominal with its relay opened last. -/
def RelayClosed (tr : List MonitorStep) (s : FdirManagerNode) : Prop :=
  ∀ node ∈ s.managedNodes, node.resetMechanism = .hardwareRelay → node.phase = .nominal →
    lastRelay node.name tr ≠ some false

instance (tr : List MonitorStep) (s : FdirManagerNode) : Decidable (RelayClosed tr s) :=
  inferInstanceAs (Decidable (∀ node ∈ s.managedNodes, _ → _ → _))

/-- The tick ends a recovery with the relay open. -/
def CutShort (e : MonitorStep) : Prop := ∃ node ∈ e.pre.managedNodes, LeavesOpen e.pre e.input node

instance (s : FdirManagerNode) (tick : MonitorTick) (node : ManagedNode) :
    Decidable (LeavesOpen s tick node) := inferInstanceAs (Decidable (_ ∧ _ ∧ _ ∧ _))

instance (e : MonitorStep) : Decidable (CutShort e) :=
  inferInstanceAs (Decidable (∃ node ∈ e.pre.managedNodes, _))

/-- The invariant of a history: every relay is as its component's phase says. -/
structure Powered (tr : List MonitorStep) (s : FdirManagerNode) : Prop extends Sound s where
  tracks : ∀ node ∈ s.managedNodes, node.resetMechanism = .hardwareRelay →
    RelayTracks node.phase (lastRelay node.name tr)

theorem Powered.relayClosed (h : Powered tr s) : RelayClosed tr s := fun node hnode hm hp =>
  (h.tracks node hnode hm).closed (Or.inl hp)

theorem powered_step (he : ticks.Takes e) (h : Powered tr e.pre) (hcut : ¬ CutShort e) :
    Powered (tr ++ [e]) e.post := by
  refine ⟨sound_step he h.toSound, fun node' hnode' hm => ?_⟩
  obtain ⟨-, hpost, -⟩ := takes_iff.1 he
  rw [hpost] at hnode'
  obtain ⟨node, hnode, rfl⟩ := List.mem_map.1 hnode'
  have hv := e.pre.visits e.input node
  obtain ⟨hname, -, hmech⟩ := hv.frame
  rw [hmech] at hm
  rw [hname, lastRelay_concat he h.toSound hnode]
  exact hv.relayTracks (h.counted node hnode) hm (fun hopen => hcut ⟨node, hnode, hopen⟩)
    (h.tracks node hnode hm)

theorem not_relayClosed_of_cutShort (he : ticks.Takes e) (h : Powered tr e.pre)
    (hcut : CutShort e) : ¬ RelayClosed (tr ++ [e]) e.post := by
  intro hclosed
  obtain ⟨node, hnode, hopen⟩ := hcut
  have hv := e.pre.visits e.input node
  obtain ⟨hname, -, hmech⟩ := hv.frame
  obtain ⟨hphase, hnone⟩ := hv.leavesOpen hopen
  obtain ⟨-, hm, hp, -⟩ := hopen
  obtain ⟨-, hpost, -⟩ := takes_iff.1 he
  have hmem : e.pre.updated e.input node ∈ e.post.managedNodes := by
    rw [hpost]
    exact List.mem_map.2 ⟨node, hnode, rfl⟩
  have hlast := hclosed _ hmem (hmech.trans hm) hphase
  rw [hname, lastRelay_concat he h.toSound hnode, hnone] at hlast
  exact hlast ((h.tracks node hnode hm).opened hp)

/-- **The relays are closed exactly if no recovery is cut short.** After every tick of a run from an
accepted configuration, no component is nominal with its relay open, if and only if no tick finds a
component `ACTIVE` while its relay is open. -/
theorem relayClosed_run_iff {policy : FdirPolicy} {clock : String → Time}
    (hs : Constructed policy clock s) (h : ticks.Run s tr t) :
    Throughout (fun past e => RelayClosed (past ++ [e]) e.post) tr ↔ ∀ e ∈ tr, ¬ CutShort e := by
  refine h.throughout_iff (G := Powered) ⟨sound_of_constructed hs, fun node hnode _ => ?_⟩
    (fun _ _ hG => hG.relayClosed) fun past e _ he hG => ?_
  · have hp := (hs.fresh node hnode).phase
    exact ⟨by simp [hp], by simp [hp], fun _ => by simp [lastRelay, lastOut]⟩
  · exact ⟨powered_step he hG, fun hcut => not_relayClosed_of_cutShort he hG (not_not.1 hcut)⟩

/-- The front lidar fails, goes through the whole recovery and is back. -/
def rebootedLidar : List MonitorTick :=
  [pollTick .timedOut 0, pollTick .timedOut 1, pollTick .timedOut 10, pollTick .timedOut 11,
    pollTick (.replied LifecycleState.primaryStateActive) 20]

theorem relayClosed_run_rebootedLidar :
    Throughout (fun past e => RelayClosed (past ++ [e]) e.post)
      (ticks.trace lidarManager rebootedLidar) :=
  (relayClosed_run_iff lidarManager_constructed (ticks.run_trace _ _ (by decide +kernel))).2
    (by decide +kernel)

/-- Two polls of the front lidar time out, the third finds it active. -/
def blinkingLidar : List MonitorTick :=
  [pollTick .timedOut 0, pollTick .timedOut 1,
    pollTick (.replied LifecycleState.primaryStateActive) 2]

/-- The lidar stays without power behind a healthy status. -/
theorem blinkingLidar_unpowered :
    Constructed lidarPolicy (fun _ => 0) lidarManager ∧
    ticks.Run lidarManager (ticks.trace lidarManager blinkingLidar)
      (ticks.final lidarManager blinkingLidar) ∧
    ¬ Throughout (fun past e => RelayClosed (past ++ [e]) e.post)
        (ticks.trace lidarManager blinkingLidar) ∧
    ((ticks.trace lidarManager blinkingLidar).map fun e => published e.output).getLast? =
      some [FdirState.stateSoftwareOk] :=
  ⟨lidarManager_constructed, ticks.run_trace _ _ (by decide +kernel), by decide +kernel,
    by decide +kernel⟩

end FdirManagerNode

end MonaRobot
