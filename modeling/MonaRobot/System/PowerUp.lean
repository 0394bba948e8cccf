import MonaRobot.System.Boot

/-!
# Powering up

With an accepted configuration that tracks the nodes of the robot, and with every requested
transition over before the next tick, the manager brings the robot up, whatever else happens but the
end of the container. `Booting` is what such a run keeps.

* `boots`: no recovery is ever started, and from the third tick on every tick finds the nodes active
  and publishes SOFTWARE_OK.
* `powers_up`: once the health messages of the first two ticks have left its queue, every health
  message that reaches the safety node closes the contactors, unless the e-stop is latched.

Both need that `control_loop` does not throw (`Orderly`): when it has, no tick publishes SOFTWARE_OK
any more, if the multiplexer or the merger is tracked (`unhealthy_run`).
-/

namespace MonaRobot

open Reactive

namespace Boot

variable {Scan : Type} {x y : Boot} {e : BootStep Scan} {tr : List (BootStep Scan)}
  {names : List String} {k : ℕ}

/-! ## The bring-up -/

/-- After `k` ticks the container runs, no component is locked out, each node has been sent what its
state permits and nothing else, and the managed ones are as far as `k` ticks bring them. -/
structure Booting (names : List String) (k : ℕ) (x : Boot) : Prop where
  running : x.crashed = false
  ready : FdirManagerNode.Ready x.manager
  names_eq : x.manager.managedNodes.map ManagedNode.name = names
  managed : ∀ nodeName ∈ names, ∃ n : LifecycleNode, nodeName = n.nodeName
  alive : ∀ n, x.lifecycle n ≠ .finalized
  pending : ∀ n, x.pending n = [] ∨ x.pending n = (component (x.lifecycle n)).nextRequest
  underway : ∀ n : LifecycleNode, n.nodeName ∈ names →
    min 2 k ≤ (component (x.lifecycle n)).progress + (x.pending n).length
  settled : 3 ≤ k → ∀ n : LifecycleNode, n.nodeName ∈ names → x.lifecycle n = .active

/-- A tick finds a transition that is requested and not performed yet. -/
def Hurried (e : BootStep Scan) : Prop := isTick e = true ∧ e.pre.requested ≠ []

instance (e : BootStep Scan) : Decidable (Hurried e) := inferInstanceAs (Decidable (_ ∧ _))

/-- The step is no tick before all requested transitions are over, and no `control_loop` that
throws. -/
structure Orderly (e : BootStep Scan) : Prop where
  prompt : ¬ Hurried e
  completes : ¬ Throws e

instance (e : BootStep Scan) : Decidable (Orderly e) :=
  decidable_of_iff (¬ Hurried e ∧ ¬ Throws e) ⟨fun ⟨h₁, h₂⟩ => ⟨h₁, h₂⟩, fun ⟨h₁, h₂⟩ => ⟨h₁, h₂⟩⟩

theorem Booting.runs (h : Booting names k x) (n : LifecycleNode) : x.runs n = true := by
  simp [Boot.runs, h.running]

theorem requested_of_not_hurried (h : ¬ Hurried e) (htick : isTick e = true) :
    e.pre.requested = [] := by
  by_contra hne
  exact h ⟨htick, hne⟩

theorem active_of_progress {p : PrimaryState} (h : 2 ≤ (component p).progress) : p = .active := by
  cases p with
  | active => rfl
  | _ => exact absurd h (by decide)

theorem booting_start {policy : FdirPolicy} {clock : String → Time} {m : FdirManagerNode}
    (hc : FdirManagerNode.Constructed policy clock m)
    (hmanaged : ∀ node ∈ m.managedNodes, ∃ n : LifecycleNode, node.name = n.nodeName) (now : Time) :
    Booting (m.managedNodes.map ManagedNode.name) 0 (start m now) where
  running := rfl
  ready := ⟨FdirManagerNode.sound_of_constructed hc, fun node hnode => (hc.fresh node hnode).working⟩
  names_eq := rfl
  managed := List.forall_mem_map.2 hmanaged
  alive n := by cases n <;> exact fun h => (by cases h)
  pending n := Or.inl rfl
  underway n _ := Nat.zero_le _
  settled h := absurd h (by decide)

/-- Nothing is requested of a component that is not managed. -/
theorem requests_of_not_managed {e : FdirManagerNode.MonitorStep}
    (he : FdirManagerNode.ticks.Takes e) {nodeName : String}
    (h : nodeName ∉ e.pre.managedNodes.map ManagedNode.name) :
    requests nodeName e.output = [] := by
  refine List.filterMap_eq_nil_iff.2 fun a ha => ?_
  cases a with
  | changeState name id =>
    refine if_neg fun hname => h ?_
    rcases FdirManagerNode.mem_output he ha with ⟨node, hnode, -, hcomponent⟩ | ⟨-, hcomponent⟩
    · obtain rfl : name = node.name := Option.some.inj hcomponent
      exact hname ▸ List.mem_map_of_mem hnode
    · cases hcomponent
  | _ => rfl

/-- A tick guides the nodes. -/
theorem guides_tick {tick : MonitorTick} (h : Booting names k e.pre)
    (htake : FdirManagerNode.ticks.Takes
      ⟨e.pre.manager, e.pre.answered tick, actions e, e.post.manager⟩) :
    FdirManagerNode.Guides e.pre.components
      ⟨e.pre.manager, e.pre.answered tick, actions e, e.post.manager⟩ := by
  refine FdirManagerNode.guides htake h.ready fun node hnode => ?_
  obtain ⟨n, hname⟩ := h.managed node.name (h.names_eq ▸ List.mem_map_of_mem hnode)
  rw [hname, components_nodeName, component_stateId (h.alive n)]
  refine ⟨?_, component_settled _⟩
  simp only [answered, ofName?_eq_some_iff.2 rfl, h.runs n, if_true]

theorem booting_tick {tick : MonitorTick} (h : Booting names k e.pre)
    (hrunning : e.post.crashed = false) (hnil : e.pre.requested = [])
    (htake : FdirManagerNode.ticks.Takes
      ⟨e.pre.manager, e.pre.answered tick, actions e, e.post.manager⟩)
    (hsame : ∀ n, e.post.lifecycle n = e.pre.lifecycle n)
    (hrequested : e.post.requested = e.pre.requested ++ requestsOf (actions e)) :
    Booting names (k + 1) e.post := by
  have hg := guides_tick h htake
  have hidle : ∀ n, e.pre.pending n = [] := fun n => by
    rw [Boot.pending, hnil]
    rfl
  have hpending : ∀ n, e.post.pending n = requests n.nodeName (actions e) := by
    intro n
    rw [← pending_requestsOf e.pre, Boot.pending, hrequested, hnil]
    rfl
  have hnext : ∀ n : LifecycleNode, n.nodeName ∈ names →
      e.post.pending n = (component (e.pre.lifecycle n)).nextRequest := by
    intro n hn
    rw [← h.names_eq] at hn
    obtain ⟨node, hnode, hname⟩ := List.mem_map.1 hn
    rw [hpending, ← components_nodeName, ← hname]
    exact hg.requested node hnode
  have hle : ∀ n : LifecycleNode, n.nodeName ∈ names →
      min 2 k ≤ (component (e.pre.lifecycle n)).progress := by
    intro n hn
    have hunderway := h.underway n hn
    rwa [hidle n] at hunderway
  refine ⟨hrunning, hg.ready, hg.names.trans h.names_eq, h.managed, fun n => ?_, fun n => ?_,
    fun n hn => ?_, fun hk n hn => ?_⟩
  · rw [hsame]
    exact h.alive n
  · rw [hsame]
    by_cases hn : n.nodeName ∈ names
    · exact Or.inr (hnext n hn)
    · refine Or.inl ?_
      rw [hpending]
      exact requests_of_not_managed htake (h.names_eq ▸ hn)
  · have hstep := ComponentState.progress_next (component_settled (e.pre.lifecycle n))
    have hpre := hle n hn
    rw [hsame, hnext n hn]
    omega
  · have hpre := hle n hn
    rw [hsame]
    exact active_of_progress (by omega)

theorem booting_transition {n : LifecycleNode} {id : UInt8} {rest : List (LifecycleNode × UInt8)}
    (h : Booting names k e.pre) (hrunning : e.post.crashed = false)
    (hmanager : e.post.manager = e.pre.manager)
    (hpre : e.pre.requested = (n, id) :: rest) (hpost : e.post.requested = rest)
    (hn : e.post.lifecycle n = afterRequest (e.pre.lifecycle n) id)
    (hothers : ∀ m, m ≠ n → e.post.lifecycle m = e.pre.lifecycle m) : Booting names k e.post := by
  have hpending : e.pre.pending n = id :: e.post.pending n := by
    simp [Boot.pending, hpre, hpost]
  have hsame : ∀ m, m ≠ n → e.post.pending m = e.pre.pending m := by
    intro m hm
    simp [Boot.pending, hpre, hpost, Ne.symm hm]
  have hnext : (component (e.pre.lifecycle n)).nextRequest = id :: e.post.pending n := by
    rcases h.pending n with hnil | hnext
    · exact absurd (hpending.symm.trans hnil) (List.cons_ne_nil _ _)
    · rw [← hnext, hpending]
  obtain ⟨hlast, halive, hprogress⟩ := afterRequest_next (h.alive n) hnext
  refine ⟨hrunning, hmanager ▸ h.ready, hmanager ▸ h.names_eq, h.managed, fun m => ?_, fun m => ?_,
    fun m hm => ?_, fun hk m hm => ?_⟩
  · by_cases hmn : m = n
    · rw [hmn, hn]
      exact halive
    · rw [hothers m hmn]
      exact h.alive m
  · by_cases hmn : m = n
    · rw [hmn]
      exact Or.inl hlast
    · rw [hsame m hmn, hothers m hmn]
      exact h.pending m
  · have hle := h.underway m hm
    by_cases hmn : m = n
    · subst hmn
      rw [hpending, List.length_cons] at hle
      rw [hn, hprogress]
      omega
    · rw [hothers m hmn, hsame m hmn]
      exact hle
  · by_cases hmn : m = n
    · subst hmn
      -- nothing is requested of an active node
      rw [h.settled hk m hm] at hnext
      cases hnext
    · rw [hothers m hmn]
      exact h.settled hk m hm

theorem booting_step (he : (events Scan).Takes e) (h : Booting names k e.pre)
    (hgood : Orderly e) : Booting names (k + [e].countP isTick) e.post := by
  rw [List.countP_singleton]
  have hrunning : e.post.crashed = false := by
    by_contra hcrashed
    rcases (crashed_step he).1 (by simpa using hcrashed) with hpre | hthrows
    · exact absurd (h.running.symm.trans hpre) Bool.false_ne_true
    · exact hgood.completes hthrows
  cases moves he with
  | tick tick htick _ htake hsame hrequested _ =>
    rw [htick]
    have hnone := requested_of_not_hurried hgood.prompt htick
    exact booting_tick h hrunning hnone htake hsame hrequested
  | transition n id rest htick _ hmanager hpre hpost hn hothers _ =>
    rw [htick]
    exact booting_transition h hrunning hmanager hpre hpost (hn (h.runs n)) hothers
  | message htick hmanager hsame hrequested _ _ =>
    have hpending : ∀ n, e.post.pending n = e.pre.pending n := fun n => by
      rw [Boot.pending, hrequested, Boot.pending]
    rw [htick]
    refine ⟨hrunning, hmanager ▸ h.ready, hmanager ▸ h.names_eq, h.managed, fun n => ?_,
      fun n => ?_, fun n hn => ?_, fun hk n hn => ?_⟩
    · rw [hsame]
      exact h.alive n
    · rw [hsame, hpending]
      exact h.pending n
    · rw [hsame, hpending]
      exact h.underway n hn
    · rw [hsame]
      exact h.settled hk n hn

theorem booting_run (h : (events Scan).Run x tr y) (hx : Booting names 0 x)
    (hgood : ∀ e ∈ tr, Orderly e) : Booting names (tr.countP isTick) y := by
  refine h.history (H := fun tr y => (∀ e ∈ tr, Orderly e) →
    Booting names (tr.countP isTick) y) (fun _ => hx) (fun tr e _ he ih hno => ?_) hgood
  rw [List.forall_mem_append, List.forall_mem_singleton] at hno
  rw [List.countP_append]
  exact booting_step he (ih hno.1) hno.2

/-- The third tick and every later one finds the nodes active. -/
theorem finds_active {tick : MonitorTick} (h : Booting names k e.pre) (hk : 2 ≤ k)
    (hnil : e.pre.requested = []) (htake : FdirManagerNode.ticks.Takes
      ⟨e.pre.manager, e.pre.answered tick, actions e, e.post.manager⟩) :
    (∀ n : LifecycleNode, n.nodeName ∈ names → e.pre.lifecycle n = .active) ∧
      published (actions e) = [FdirState.stateSoftwareOk] := by
  have hactive : ∀ n : LifecycleNode, n.nodeName ∈ names → e.pre.lifecycle n = .active := by
    intro n hn
    have hle := h.underway n hn
    rw [Boot.pending, hnil] at hle
    exact active_of_progress ((min_eq_left hk).symm.trans_le hle)
  refine ⟨hactive, ((guides_tick h htake).allActive fun node hnode => ?_).1⟩
  have hmem : node.name ∈ names := h.names_eq ▸ List.mem_map_of_mem hnode
  obtain ⟨n, hname⟩ := h.managed node.name hmem
  rw [hname, components_nodeName, hactive n (hname ▸ hmem)]
  rfl

/-- **The robot boots.** Take any run of the robot from the construction of the nodes, under an
accepted configuration that tracks nodes of the robot only, in which each transition that the
manager requests is over before the next tick and `control_loop` never throws. Then no recovery is
ever started, and from the third tick on every tick finds all tracked nodes active and publishes
SOFTWARE_OK. -/
theorem boots {policy : FdirPolicy} {clock : String → Time} {m : FdirManagerNode} {now : Time}
    (hc : FdirManagerNode.Constructed policy clock m)
    (hmanaged : ∀ node ∈ m.managedNodes, ∃ n : LifecycleNode, node.name = n.nodeName)
    (h : (events Scan).Run (start m now) tr x) (hgood : ∀ e ∈ tr, Orderly e) :
    (∀ e ∈ tr, ∀ a ∈ actions e, ¬ FdirManagerNode.Recovering a) ∧
    Throughout (fun past e => isTick e = true → 2 ≤ past.countP isTick →
      (∀ n : LifecycleNode, n.nodeName ∈ m.managedNodes.map ManagedNode.name →
        e.pre.lifecycle n = .active) ∧
      published (actions e) = [FdirState.stateSoftwareOk]) tr := by
  have hstart := booting_start hc hmanaged now
  constructor
  · intro e he
    obtain ⟨past, rest, rfl⟩ := List.append_of_mem he
    obtain ⟨hpast, htakes, -⟩ := h.around
    have hbooting := booting_run hpast hstart fun e' he' => hgood e' (List.mem_append_left _ he')
    cases moves htakes with
    | tick tick _ _ htake => exact (guides_tick hbooting htake).gentle
    | transition _ _ _ htick | message htick => simp [actions, htick]
  · rintro past e rest rfl hticks htwo
    obtain ⟨hpast, htakes, -⟩ := h.around
    have hbooting := booting_run hpast hstart fun e' he' => hgood e' (List.mem_append_left _ he')
    have hnil := requested_of_not_hurried (hgood e (by simp)).prompt hticks
    cases moves htakes with
    | tick tick _ _ htake => exact finds_active hbooting htwo hnil htake
    | transition _ _ _ htick | message htick =>
      exact absurd (htick.symm.trans hticks) Bool.false_ne_true

/-- The components that `fdir_policy.yaml` tracks. -/
def shippedPolicy : FdirPolicy where
  trackedComponents := ["safety_core", "control_mux", "perception_merger"]
  components compKey :=
    { enabled := true
      nodeName :=
        if compKey = "safety_core" then "safety_node"
        else if compKey = "control_mux" then "twist_mux_node"
        else "mona_lidar_merger"
      tier := if compKey = "perception_merger" then "PRIMARY" else "FATAL"
      resetMechanism := "lifecycle_service"
      startupTime := if compKey = "perception_merger" then 10 else 3 }

/-- The manager constructed from `shippedPolicy` at time 0. -/
def shippedManager : FdirManagerNode where
  managedNodes := [FdirManagerNode.coreNode "safety_node", FdirManagerNode.coreNode "twist_mux_node",
    { FdirManagerNode.coreNode "mona_lidar_merger" with tier := .primary, startupTime := 10 }]
  getStateClients := ["mona_lidar_merger", "twist_mux_node", "safety_node"]
  changeStateClients := ["mona_lidar_merger", "twist_mux_node", "safety_node"]
  relayPubs := []

theorem shippedManager_constructed :
    FdirManagerNode.Constructed shippedPolicy (fun _ => 0) shippedManager :=
  ⟨shippedManager, by decide +kernel, .refl _, rfl, rfl, rfl⟩

theorem shippedManager_managed :
    ∀ node ∈ shippedManager.managedNodes, ∃ n : LifecycleNode, node.name = n.nodeName := by
  simp only [shippedManager, List.forall_mem_cons, List.not_mem_nil, false_implies, implies_true,
    and_true]
  exact ⟨⟨.safetyNode, rfl⟩, ⟨.twistMuxNode, rfl⟩, ⟨.lidarMergerNode, rfl⟩⟩

/-- Three ticks, with the three transitions in between. -/
def bootInputs : List (BootInput Unit) :=
  let tick : BootInput Unit := .tick (pollTick .notReady 0)
  let transitions : List (BootInput Unit) :=
    List.replicate 3 (.transition { maxSpeedNormal := 1, maxSpeedDegraded := 3 / 10, now := 1 })
  [tick] ++ transitions ++ [tick] ++ transitions ++ [tick]

theorem boots_shipped :
    ∃ e ∈ ((events Unit).trace (start shippedManager 0) bootInputs).getLast?,
      (∀ n, e.pre.lifecycle n = .active) ∧
        published (actions e) = [FdirState.stateSoftwareOk] := by
  have hrun := (events Unit).run_trace (start shippedManager 0) bootInputs (by decide +kernel)
  obtain ⟨-, hready⟩ := boots shippedManager_constructed shippedManager_managed hrun
    (by decide +kernel)
  have hlast : ∃ e ∈ ((events Unit).trace (start shippedManager 0) bootInputs).getLast?,
      isTick e = true := by
    decide +kernel
  have hthird :
      2 ≤ (((events Unit).trace (start shippedManager 0) bootInputs).dropLast).countP isTick := by
    decide +kernel
  obtain ⟨e, he, htick⟩ := hlast
  obtain ⟨past, htr⟩ := List.getLast?_eq_some_iff.1 he
  rw [htr, List.dropLast_concat] at hthird
  obtain ⟨hactive, hok⟩ := hready past e [] htr htick hthird
  exact ⟨e, he, fun n => hactive n (by cases n <;> decide), hok⟩

/-! ## After the end of the container -/

/-- What a run keeps after it: the container stays away, and the manager goes on polling. -/
def Ended (nodeName : String) (x : Boot) : Prop :=
  x.crashed = true ∧ nodeName ∈ x.manager.managedNodes.map ManagedNode.name

theorem ended_step {nodeName : String} (he : (events Scan).Takes e) (h : Ended nodeName e.pre) :
    Ended nodeName e.post := by
  obtain ⟨hcrashed, hmanaged⟩ := h
  refine ⟨(crashed_step he).2 (Or.inl hcrashed), ?_⟩
  cases moves he with
  | tick tick _ _ htake =>
    obtain ⟨-, hpost, -⟩ := FdirManagerNode.takes_iff.1 htake
    rw [show e.post.manager = _ from hpost, FdirManagerNode.names_tick]
    exact hmanaged
  | transition _ _ _ _ _ hmanager | message _ hmanager =>
    rw [hmanager]
    exact hmanaged

/-- **No health without the container.** In any run that goes on after it has ended, with the
multiplexer or the merger tracked, no tick publishes SOFTWARE_OK. -/
theorem unhealthy_run {n : LifecycleNode} (hn : n.inSensorControl = true)
    (hx : Ended n.nodeName x) (h : (events Scan).Run x tr y) :
    ∀ e ∈ tr, FdirState.stateSoftwareOk ∉ published (actions e) := by
  intro e he
  obtain ⟨hcrashed, hmanaged⟩ := (h.invariant_mem hx (fun _ => ended_step) e he).1
  cases moves (h.takes e he) with
  | tick tick _ _ htake =>
    rw [show published (actions e) = _ from FdirManagerNode.published_output htake,
      List.mem_singleton, eq_comm, FdirManagerNode.softwareOk_iff]
    intro hall
    obtain ⟨node, hnode, hname⟩ := List.mem_map.1 hmanaged
    have hreplied := (FdirManagerNode.getNodeState_eq_active_iff.1 (hall node hnode).2).2
    rw [hname] at hreplied
    exact outcome_of_crashed tick (by simp [Boot.runs, hcrashed, hn]) _ hreplied
  | transition _ _ _ htick | message htick => simp [actions, htick, published]

/-- A teleop command and two ticks, the second of which finds it stale; a nav command that the
lockout drops after it has stamped it; and the next tick of the multiplexer. -/
def throwingInputs : List (BootInput Unit) :=
  bootInputs ++ [MuxEvent.teleop 2 false ⟨⟨1, 0, 0⟩, 0⟩, .controlLoop 2, .controlLoop 3,
    .nav (31 / 10) (31 / 10) ⟨⟨1, 0, 0⟩, 0⟩, .controlLoop (32 / 10)].map
      (fun i => .robot (.own (.sink (.mux i)))) ++ [.tick (pollTick .notReady 4)]

example : ((events Unit).final (start shippedManager 0) throwingInputs).crashed = true ∧
    ((events Unit).trace (start shippedManager 0) throwingInputs).getLast?.map
      (fun e => published (actions e)) = some [FdirState.stateSystemStartup] := by
  decide +kernel

/-! ## Power -/

/-- The health messages of the safety node, as a channel. -/
def healthTopic (Scan : Type) : Channel (events Scan) UInt8 where
  queue := health
  sent e := published (actions e)
  taken := healthTaken
  taken_le e he := by
    cases moves he with
    | tick _ _ hnone | transition _ _ _ _ hnone => exact hnone ▸ Nat.zero_le _
    | message _ _ _ _ hle => exact hle
  queue_post e he := by
    cases moves he with
    | tick _ _ hnone _ _ _ hhealth => rw [hnone, hhealth, List.drop_zero]
    | transition _ _ _ htick hnone _ _ _ _ _ hhealth =>
      rw [hnone, hhealth, actions, htick]
      exact (List.append_nil _).symm
    | message htick _ _ _ _ hhealth =>
      rw [hhealth, actions, htick]
      exact (List.append_nil _).symm

/-- What is sent: one message in a tick, and SOFTWARE_OK from the third on. -/
theorem sent_run (h : (events Scan).Run x tr y) (hx : Booting names 0 x)
    (hgood : ∀ e ∈ tr, Orderly e) :
    (tr.flatMap (healthTopic Scan).sent).length = tr.countP isTick ∧
      ∀ b ∈ (tr.flatMap (healthTopic Scan).sent).drop 2, b = FdirState.stateSoftwareOk := by
  refine h.history (H := fun tr _ => (∀ e ∈ tr, Orderly e) →
    (tr.flatMap (healthTopic Scan).sent).length = tr.countP isTick ∧
      ∀ b ∈ (tr.flatMap (healthTopic Scan).sent).drop 2, b = FdirState.stateSoftwareOk)
    (fun _ => ⟨rfl, by simp⟩) (fun tr e hpast he ih hno => ?_) hgood
  rw [List.forall_mem_append, List.forall_mem_singleton] at hno
  obtain ⟨hlength, hok⟩ := ih hno.1
  rw [List.flatMap_append, List.flatMap_singleton, List.countP_append, List.countP_singleton]
  generalize tr.flatMap (healthTopic Scan).sent = sofar at hlength hok ⊢
  cases moves he with
  | tick tick htick _ htake =>
    have hone : (healthTopic Scan).sent e = [_] := FdirManagerNode.published_output htake
    refine ⟨by rw [hone, htick, List.length_append, hlength]; rfl, fun b hb => ?_⟩
    rcases Nat.lt_or_ge sofar.length 2 with hfew | htwo
    · rw [hone, List.drop_eq_nil_of_le (by rw [List.length_append]; exact hfew)] at hb
      cases hb
    · rw [List.drop_append_of_le_length htwo] at hb
      rcases List.mem_append.1 hb with hb | hb
      · exact hok b hb
      · have hnil := requested_of_not_hurried hno.2.prompt htick
        have hactive := finds_active (booting_run hpast hx hno.1) (hlength ▸ htwo) hnil htake
        rw [show (healthTopic Scan).sent e = published (actions e) from rfl, hactive.2] at hb
        exact List.mem_singleton.1 hb
  | transition _ _ _ htick | message htick =>
    have hnone : (healthTopic Scan).sent e = [] := by
      simp [healthTopic, actions, htick, published]
    rw [hnone, htick, List.append_nil]
    exact ⟨hlength, hok⟩

/-- The safety node. -/
def safety (x : Boot) : SafetyNode := x.robot.inner.source.sink

/-- A health message is delivered to it. -/
def deliversHealth (e : BootStep Scan) : Bool :=
  match e.input with
  | .robot (.own (.source (.deliver _))) => true
  | _ => false

theorem input_of_deliversHealth (hi : deliversHealth e = true) :
    ∃ c, e.input = .robot (.own (.source (.deliver c))) := by
  unfold deliversHealth at hi
  split at hi
  · exact ⟨_, ‹_›⟩
  · cases hi

/-- A delivery takes the oldest health message. -/
theorem deliversHealth_takes (he : (events Scan).Takes e) (hi : deliversHealth e = true) :
    ∃ msg o, e.pre.health.head? = some msg ∧
      (SafetyNode.events ℚ).Takes ⟨e.pre.safety, .healthState msg, o, e.post.safety⟩ := by
  obtain ⟨c, hinput⟩ := input_of_deliversHealth hi
  induction e, he using takes_rec with
  | robot x i o y _ _ hr =>
    obtain rfl := BootInput.robot.inj hinput
    obtain ⟨o₁, -, h₁⟩ := Routing.takes_own hr
    obtain ⟨o₂, -, h₂, -⟩ := Feed.takes_source h₁
    obtain ⟨msg, rest, o₃, hqueue, h₃⟩ := Feed.takes_deliver h₂
    exact ⟨msg, o₃, by rw [health, hqueue]; rfl, h₃⟩
  | throws x i _ hthrows =>
    obtain rfl := BootInput.robot.inj hinput
    cases hthrows
  | _ => cases hinput

/-- **The robot is powered up.** In a run as before, with the safety node tracked, let the health
messages of the first two ticks have left the queue of the safety node, delivered or lost. Then
every delivery closes the contactors and leads to the normal mode, unless the e-stop is latched. -/
theorem powers_up {policy : FdirPolicy} {clock : String → Time} {m : FdirManagerNode} {now : Time}
    (hc : FdirManagerNode.Constructed policy clock m)
    (hmanaged : ∀ node ∈ m.managedNodes, ∃ n : LifecycleNode, node.name = n.nodeName)
    (hsafety : LifecycleNode.safetyNode.nodeName ∈ m.managedNodes.map ManagedNode.name)
    (h : (events Scan).Run (start m now) tr x) (hgood : ∀ e ∈ tr, Orderly e) :
    Throughout (fun past e => deliversHealth e = true → 2 ≤ (healthTopic Scan).gone past →
      e.pre.safety.eStopActive = false →
        e.post.safety.hardwareContactorsClosed = true ∧
          e.post.safety.currentState = .normal) tr := by
  rintro past e rest rfl hi htwo hestop
  obtain ⟨hpast, htakes, -⟩ := h.around
  have hno : ∀ e' ∈ past, Orderly e' := fun e' he' => hgood e' (List.mem_append_left _ he')
  have hstart := booting_start hc hmanaged now
  obtain ⟨hlength, hok⟩ := sent_run hpast hstart hno
  obtain ⟨msg, o, hhead, htake⟩ := deliversHealth_takes htakes hi
  -- the message is the one of the third tick or of a later one
  have hsent : (past.flatMap (healthTopic Scan).sent)[(healthTopic Scan).gone past]? = some msg := by
    rw [← hhead]
    exact ((healthTopic Scan).head?_run hpast).symm
  obtain ⟨hlt, -⟩ := List.getElem?_eq_some_iff.1 hsent
  have hmsg : msg = FdirState.stateSoftwareOk := by
    refine hok msg (List.mem_of_getElem? (i := (healthTopic Scan).gone past - 2) ?_)
    rw [List.getElem?_drop, Nat.add_sub_cancel' htwo, hsent]
  have hactive : e.pre.safety.lifecycle = .active :=
    (booting_run hpast hstart hno).settled (by omega) .safetyNode hsafety
  obtain ⟨robotTrace, hrobot⟩ := robot_run hpast
  have hwired : SafetyNode.Wired e.pre.safety := SafetyNode.wired_run (Robot.safety_run hrobot)
  have hhandled : e.pre.safety.Handled (V := ℚ) (.healthState msg) :=
    ⟨(hwired.present (Or.inr hactive)).2.1, hwired.processing.2 hactive⟩
  have hpost : e.post.safety = e.pre.safety.afterFdirState msg := by
    have hstep := Option.some.inj htake
    rw [SafetyNode.handle_healthState hhandled] at hstep
    exact (Prod.mk.inj hstep).1.symm
  rw [hpost, hmsg]
  simp +decide [SafetyNode.afterFdirState, SafetyNode.fdirMode, hestop]

/-- The robot boots, and the three health messages are delivered. -/
def powerUpInputs : List (BootInput Unit) :=
  bootInputs ++ List.replicate 3 (.robot (.own (.source (.deliver ()))))

theorem powers_up_shipped :
    ∃ e ∈ ((events Unit).trace (start shippedManager 0) powerUpInputs).getLast?,
      e.pre.safety.hardwareContactorsClosed = false ∧
        e.post.safety.hardwareContactorsClosed = true := by
  have hrun := (events Unit).run_trace (start shippedManager 0) powerUpInputs (by decide +kernel)
  have hpowers := powers_up shippedManager_constructed shippedManager_managed (by decide) hrun
    (by decide +kernel)
  have hlast : ∃ e ∈ ((events Unit).trace (start shippedManager 0) powerUpInputs).getLast?,
      deliversHealth e = true ∧ e.pre.safety.hardwareContactorsClosed = false ∧
        e.pre.safety.eStopActive = false := by
    decide +kernel
  obtain ⟨e, he, hdelivers, hopen, hestop⟩ := hlast
  obtain ⟨past, htr⟩ := List.getLast?_eq_some_iff.1 he
  have hgone : 2 ≤ (healthTopic Unit).gone
      ((events Unit).trace (start shippedManager 0) powerUpInputs).dropLast := by
    decide +kernel
  rw [htr, List.dropLast_concat] at hgone
  exact ⟨e, he, hopen, (hpowers past e [] htr hdelivers hgone hestop).1⟩

end Boot

end MonaRobot
