import MonaRobot.Foundations.History
import MonaRobot.Perception.LidarMerger

/-!
# The lifecycle of the lidar merger

`MergerLifecycle.events` is the machine of the merger from its construction on: transitions, power
messages and synchronized scans in any order. `on_configure` can throw at any of its accesses; the
error processing then ends in the finalized state. `on_cleanup` keeps the power subscription, so the
power is followed between two configurations too, and `on_shutdown` and `on_error` keep the scan
subscriptions.

A callback that dereferences a null pointer has no result, and the machine has no step there;
`handles_all` says that this never happens. `published_iff` says which scans are merged, and into
which frame, from the history alone.
-/

namespace MonaRobot

open Reactive

/-- The declared parameters, as `on_configure` reads them. -/
structure MergerParams where
  targetFrame : String := "base_link"
  transformTimeout : ℚ := 1 / 10

/-- The node with its handles. -/
structure MergerLifecycle where
  node : LidarMergerNode
  transformTimeout : ℚ
  powerSub : Bool
  subFront : Bool
  subBack : Bool
  subLeft : Bool
  subRight : Bool
  sync : Bool
  tfBuffer : Bool
  tfListener : Bool

/-- A transition, a power message, or four scans that the synchronizer has matched. The projection
of the scans depends on the transforms received by then. -/
inductive MergerEvent (Scan : Type)
  | configure (params : MergerParams)
  | configureThrows (params : MergerParams) (accesses : ℕ)
  | activate
  | deactivate
  | cleanup
  | shutdown
  | power (data : Bool)
  | fused (now : Time) (projector : Projector Scan) (front back left right : Scan)

namespace MergerLifecycle

/-- The constructor. -/
def construct : MergerLifecycle where
  node := { currentState := .unconfigured, hasPower := true, targetFrame := "", publisher := none }
  transformTimeout := 0
  powerSub := false
  subFront := false
  subBack := false
  subLeft := false
  subRight := false
  sync := false
  tfBuffer := false
  tfListener := false

/-! ## The callbacks -/

def withNode (x : MergerLifecycle) (node : LidarMergerNode) : MergerLifecycle := { x with node }

/-- The frame that is used for a configured one. -/
def resolveFrame (targetFrame : String) : String :=
  if targetFrame = "" then "base_link" else targetFrame

/-- What `on_configure` writes, in order. -/
def configureAccesses (params : MergerParams) : List (MergerLifecycle → MergerLifecycle) :=
  [fun x => x.withNode { x.node with targetFrame := params.targetFrame },
    fun x => { x with transformTimeout := params.transformTimeout },
    fun x => x.withNode { x.node with targetFrame := resolveFrame x.node.targetFrame },
    fun x => { x with tfBuffer := true },
    fun x => { x with tfListener := true },
    fun x => x.withNode { x.node with publisher := LifecyclePublisher.created },
    fun x => { x with powerSub := true },
    fun x => { x with subFront := true },
    fun x => { x with subBack := true },
    fun x => { x with subLeft := true },
    fun x => { x with subRight := true },
    fun x => { x with sync := true }]

/-- The first of the accesses. -/
def configureTo (x : MergerLifecycle) (params : MergerParams) (accesses : ℕ) : MergerLifecycle :=
  ((configureAccesses params).take accesses).foldl (fun y access => access y) x

def onConfigure (x : MergerLifecycle) (params : MergerParams) : MergerLifecycle :=
  (configureAccesses params).foldl (fun y access => access y) x

def onActivate (x : MergerLifecycle) : Option MergerLifecycle :=
  if x.node.publisher = none then none
  else some (x.withNode { x.node with publisher := x.node.publisher.onActivate })

def onDeactivate (x : MergerLifecycle) : Option MergerLifecycle :=
  if x.node.publisher = none then none
  else some (x.withNode { x.node with publisher := x.node.publisher.onDeactivate })

def onCleanup (x : MergerLifecycle) : MergerLifecycle :=
  { x.withNode { x.node with publisher := none } with
    sync := false
    tfListener := false
    tfBuffer := false
    subFront := false
    subBack := false
    subLeft := false
    subRight := false }

def onShutdown (x : MergerLifecycle) : MergerLifecycle :=
  { x.withNode { x.node with publisher := none } with sync := false }

def onError (x : MergerLifecycle) : MergerLifecycle :=
  x.withNode { x.node with publisher := none }

/-- A message that does not change the flag is ignored. -/
def powerCallback (x : MergerLifecycle) (data : Bool) : MergerLifecycle :=
  if x.node.hasPower = data then x else x.withNode { x.node with hasPower := data }

/-- The pointers that `fused_callback` dereferences when it does not return early. -/
def fusedCallback {Scan : Type} (x : MergerLifecycle) (projector : Projector Scan) (now : Time)
    (front back left right : Scan) : Option (List PointCloud2) :=
  if x.node.currentState = .active ∧ x.node.hasPower = true ∧
      (x.tfBuffer = false ∨ x.node.publisher = none) then none
  else some (x.node.fusedCallback projector now front back left right)

/-! ## The machine -/

/-- The synchronizer is there and receives all four scans. -/
def receivesScans (x : MergerLifecycle) : Bool :=
  x.sync && x.subFront && x.subBack && x.subLeft && x.subRight

def withState (x : MergerLifecycle) (p : PrimaryState) : MergerLifecycle :=
  x.withNode { x.node with currentState := p }

/-- A requested transition: its callback when it is permitted, refused otherwise. -/
def transition (x : MergerLifecycle) (t : Transition) (callback : Option MergerLifecycle) :
    Option MergerLifecycle :=
  match t.target x.node.currentState with
  | some p => callback.map fun y => y.withState p
  | none => some x

/-- The handling of an event; there is none when a null pointer is dereferenced. -/
def handle {Scan : Type} (x : MergerLifecycle) :
    MergerEvent Scan → Option (MergerLifecycle × List PointCloud2)
  | .configure params => (x.transition .configure (x.onConfigure params)).map (·, [])
  | .configureThrows params accesses =>
    if x.node.currentState = .unconfigured then
      some ((x.configureTo params accesses).onError.withState .finalized, [])
    else some (x, [])
  | .activate => (x.transition .activate x.onActivate).map (·, [])
  | .deactivate => (x.transition .deactivate x.onDeactivate).map (·, [])
  | .cleanup => (x.transition .cleanup x.onCleanup).map (·, [])
  | .shutdown => (x.transition .shutdown x.onShutdown).map (·, [])
  | .power data => some (if x.powerSub then x.powerCallback data else x, [])
  | .fused now projector front back left right =>
    if x.receivesScans then
      (x.fusedCallback projector now front back left right).map fun o => (x, o)
    else some (x, [])

/-- The merger from its construction on. -/
def events (Scan : Type) : Machine MergerLifecycle (MergerEvent Scan) (List PointCloud2) where
  step x i := x.handle i

/-- A step of the merger. -/
abbrev MergerStep (Scan : Type) := Step MergerLifecycle (MergerEvent Scan) (List PointCloud2)

variable {Scan : Type} {x : MergerLifecycle} {e : MergerStep Scan} {past : List (MergerStep Scan)}

/-! ## What a step does -/

/-- The transition is permitted, or the message has its subscription. -/
def Handled (x : MergerLifecycle) : MergerEvent Scan → Prop
  | .configure _ | .configureThrows _ _ => x.node.currentState = .unconfigured
  | .activate => x.node.currentState = .inactive
  | .deactivate => x.node.currentState = .active
  | .cleanup => x.node.currentState = .inactive
  | .shutdown => x.node.currentState ≠ .finalized
  | .power _ => x.powerSub = true
  | .fused .. => x.receivesScans = true

theorem transition_of_permitted {t : Transition} (h : t.Permitted x.node.currentState)
    (callback : Option MergerLifecycle) :
    x.transition t callback = callback.map fun y => y.withState t.goal := by
  rw [transition, Transition.target_of_permitted h]

theorem transition_of_not_permitted {t : Transition} (h : ¬ t.Permitted x.node.currentState)
    (callback : Option MergerLifecycle) : x.transition t callback = some x := by
  rw [transition, Transition.target_of_not_permitted h]

/-- What is not handled leaves the node as it is. -/
theorem handle_of_not_handled {i : MergerEvent Scan} (h : ¬ x.Handled i) :
    x.handle i = some (x, []) := by
  cases i with
  | configure params =>
    rw [handle, transition_of_not_permitted (t := .configure) h]
    rfl
  | activate =>
    rw [handle, transition_of_not_permitted (t := .activate) h]
    rfl
  | deactivate =>
    rw [handle, transition_of_not_permitted (t := .deactivate) h]
    rfl
  | cleanup =>
    rw [handle, transition_of_not_permitted (t := .cleanup) h]
    rfl
  | shutdown =>
    rw [handle, transition_of_not_permitted (t := .shutdown) h]
    rfl
  | configureThrows params accesses => exact if_neg h
  | power data =>
    rw [handle, if_neg (show ¬ x.powerSub = true from h)]
  | fused => exact if_neg h

/-- The steps of the merger: nothing happens, a transition, a power message or four scans. -/
@[elab_as_elim]
theorem takes_rec {motive : ∀ e : MergerStep Scan, (events Scan).Takes e → Prop}
    (skipped : ∀ (x : MergerLifecycle) (i : MergerEvent Scan) (_ : ¬ x.Handled i) h,
      motive ⟨x, i, [], x⟩ h)
    (configure : ∀ (x : MergerLifecycle) (params : MergerParams)
      (_ : x.node.currentState = .unconfigured) h, motive
        ⟨x, .configure params, [], (x.onConfigure params).withState .inactive⟩ h)
    (configureThrows : ∀ (x : MergerLifecycle) (params : MergerParams) (accesses : ℕ)
      (_ : x.node.currentState = .unconfigured) h, motive
        ⟨x, .configureThrows params accesses, [],
          (x.configureTo params accesses).onError.withState .finalized⟩ h)
    (activate : ∀ (x y : MergerLifecycle) (_ : x.node.currentState = .inactive)
      (_ : x.onActivate = some y) h, motive ⟨x, .activate, [], y.withState .active⟩ h)
    (deactivate : ∀ (x y : MergerLifecycle) (_ : x.node.currentState = .active)
      (_ : x.onDeactivate = some y) h, motive ⟨x, .deactivate, [], y.withState .inactive⟩ h)
    (cleanup : ∀ (x : MergerLifecycle) (_ : x.node.currentState = .inactive) h,
      motive ⟨x, .cleanup, [], x.onCleanup.withState .unconfigured⟩ h)
    (shutdown : ∀ (x : MergerLifecycle) (_ : x.node.currentState ≠ .finalized) h,
      motive ⟨x, .shutdown, [], x.onShutdown.withState .finalized⟩ h)
    (power : ∀ (x : MergerLifecycle) (data : Bool) (_ : x.powerSub = true) h,
      motive ⟨x, .power data, [], x.powerCallback data⟩ h)
    (fused : ∀ (x : MergerLifecycle) (now : Time) (projector : Projector Scan)
      (front back left right : Scan) (o : List PointCloud2) (_ : x.receivesScans = true)
      (_ : x.fusedCallback projector now front back left right = some o) h,
      motive ⟨x, .fused now projector front back left right, o, x⟩ h)
    (e : MergerStep Scan) (he : (events Scan).Takes e) : motive e he := by
  obtain ⟨x, i, o, y⟩ := e
  have hstep : x.handle i = some (y, o) := he
  by_cases hi : x.Handled i
  · cases i with
    | configure params =>
      rw [handle, transition_of_permitted (t := .configure) hi] at hstep
      obtain ⟨rfl, rfl⟩ := Prod.mk.inj (Option.some.inj hstep)
      exact configure x params hi he
    | configureThrows params accesses =>
      rw [handle, if_pos (show x.node.currentState = .unconfigured from hi)] at hstep
      obtain ⟨rfl, rfl⟩ := Prod.mk.inj (Option.some.inj hstep)
      exact configureThrows x params accesses hi he
    | activate =>
      rw [handle, transition_of_permitted (t := .activate) hi] at hstep
      simp only [Option.map_map, Option.map_eq_some_iff] at hstep
      obtain ⟨z, hz, heq⟩ := hstep
      obtain ⟨rfl, rfl⟩ := Prod.mk.inj heq
      exact activate x z hi hz he
    | deactivate =>
      rw [handle, transition_of_permitted (t := .deactivate) hi] at hstep
      simp only [Option.map_map, Option.map_eq_some_iff] at hstep
      obtain ⟨z, hz, heq⟩ := hstep
      obtain ⟨rfl, rfl⟩ := Prod.mk.inj heq
      exact deactivate x z hi hz he
    | cleanup =>
      rw [handle, transition_of_permitted (t := .cleanup) hi] at hstep
      obtain ⟨rfl, rfl⟩ := Prod.mk.inj (Option.some.inj hstep)
      exact cleanup x hi he
    | shutdown =>
      rw [handle, transition_of_permitted (t := .shutdown) hi] at hstep
      obtain ⟨rfl, rfl⟩ := Prod.mk.inj (Option.some.inj hstep)
      exact shutdown x hi he
    | power data =>
      rw [handle, if_pos (show x.powerSub = true from hi)] at hstep
      obtain ⟨rfl, rfl⟩ := Prod.mk.inj (Option.some.inj hstep)
      exact power x data hi he
    | fused now projector front back left right =>
      rw [handle, if_pos (show x.receivesScans = true from hi), Option.map_eq_some_iff] at hstep
      obtain ⟨o', ho, heq⟩ := hstep
      obtain ⟨rfl, rfl⟩ := Prod.mk.inj heq
      exact fused x now projector front back left right o' hi ho he
  · rw [handle_of_not_handled hi] at hstep
    obtain ⟨rfl, rfl⟩ := Prod.mk.inj (Option.some.inj hstep)
    exact skipped x i hi he

/-! ## The handles follow the lifecycle -/

/-- What a configured node has. -/
structure Configured (x : MergerLifecycle) : Prop where
  tfBuffer : x.tfBuffer = true
  scans : x.receivesScans = true
  frame : x.node.targetFrame ≠ ""

/-- The publisher is there from the configuration on, sends while the node is active, and is gone
when the node is. -/
def Wired (x : MergerLifecycle) : Prop :=
  match x.node.currentState with
  | .unconfigured | .finalized => x.node.publisher = none
  | .inactive => x.node.publisher = some false ∧ x.Configured
  | .active => x.node.publisher = some true ∧ x.Configured

theorem resolveFrame_ne_empty (targetFrame : String) : resolveFrame targetFrame ≠ "" := by
  unfold resolveFrame
  split_ifs with h
  · decide
  · exact h

theorem powerCallback_eq (x : MergerLifecycle) (data : Bool) :
    x.powerCallback data = x.withNode { x.node with hasPower := data } := by
  unfold powerCallback
  split_ifs with h
  · rw [← h]
    rfl
  · rfl

theorem onActivate_eq_some {y : MergerLifecycle} (h : x.onActivate = some y) :
    y = x.withNode { x.node with publisher := x.node.publisher.onActivate } := by
  unfold onActivate at h
  split_ifs at h
  exact (Option.some.inj h).symm

theorem onDeactivate_eq_some {y : MergerLifecycle} (h : x.onDeactivate = some y) :
    y = x.withNode { x.node with publisher := x.node.publisher.onDeactivate } := by
  unfold onDeactivate at h
  split_ifs at h
  exact (Option.some.inj h).symm

theorem wired_step (he : (events Scan).Takes e) (h : Wired e.pre) : Wired e.post := by
  induction e, he using takes_rec with
  | skipped x i hi => exact h
  | configure x params hx => exact ⟨rfl, rfl, rfl, resolveFrame_ne_empty params.targetFrame⟩
  | configureThrows x params accesses hx => exact rfl
  | activate x y hx hy =>
    rw [Wired, hx] at h
    obtain rfl := onActivate_eq_some hy
    obtain ⟨hpub, hconf⟩ := h
    exact ⟨congrArg LifecyclePublisher.onActivate hpub, hconf.tfBuffer, hconf.scans, hconf.frame⟩
  | deactivate x y hx hy =>
    rw [Wired, hx] at h
    obtain rfl := onDeactivate_eq_some hy
    obtain ⟨hpub, hconf⟩ := h
    exact ⟨congrArg LifecyclePublisher.onDeactivate hpub, hconf.tfBuffer, hconf.scans, hconf.frame⟩
  | cleanup x hx => exact rfl
  | shutdown x hx => exact rfl
  | power x data hsub =>
    rw [powerCallback_eq]
    cases hp : x.node.currentState with
    | unconfigured | finalized =>
      rw [Wired, hp] at h
      simpa [Wired, withNode, hp] using h
    | inactive | active =>
      rw [Wired, hp] at h
      obtain ⟨hpub, hconf⟩ := h
      simp only [Wired, withNode, hp]
      exact ⟨hpub, hconf.tfBuffer, hconf.scans, hconf.frame⟩
  | fused x now projector front back left right o hscans ho => exact h

theorem wired_run (h : (events Scan).Run construct past x) : Wired x :=
  h.invariant (show construct.node.publisher = none from rfl) fun _ he hi => wired_step he hi

/-- With its handles wired, the node handles every event. -/
theorem Wired.handle_isSome (h : Wired x) (i : MergerEvent Scan) : (x.handle i).isSome := by
  by_cases hi : x.Handled i
  · cases i with
    | activate =>
      have hx : x.node.currentState = .inactive := hi
      rw [Wired, hx] at h
      rw [handle, transition_of_permitted (t := .activate) hi, onActivate, h.1]
      rfl
    | deactivate =>
      have hx : x.node.currentState = .active := hi
      rw [Wired, hx] at h
      rw [handle, transition_of_permitted (t := .deactivate) hi, onDeactivate, h.1]
      rfl
    | configure params =>
      rw [handle, transition_of_permitted (t := .configure) hi]
      rfl
    | cleanup =>
      rw [handle, transition_of_permitted (t := .cleanup) hi]
      rfl
    | shutdown =>
      rw [handle, transition_of_permitted (t := .shutdown) hi]
      rfl
    | configureThrows params accesses =>
      rw [handle]
      split_ifs <;> rfl
    | power data => rfl
    | fused now projector front back left right =>
      rw [handle, if_pos (show x.receivesScans = true from hi), fusedCallback, if_neg]
      · rfl
      · rintro ⟨hx, -, hnull⟩
        rw [Wired, hx] at h
        rcases hnull with hnull | hnull
        · exact absurd (h.2.tfBuffer.symm.trans hnull) (by decide)
        · exact absurd (h.1.symm.trans hnull) (by decide)
  · rw [handle_of_not_handled hi]
    rfl

/-- A cloud with the byte of the scan. -/
def byteProjector : Projector UInt8 := fun _ scan => .ok { width := 1, data := [scan] }

/-- The power is cut; the merger is configured again, and gets its power back. -/
def powerCut : List (MergerEvent UInt8) :=
  [.configure { targetFrame := "" }, .activate, .fused 1 byteProjector 1 2 3 4, .power false,
    .fused 2 byteProjector 1 2 3 4, .deactivate, .cleanup, .configure { targetFrame := "map" },
    .activate, .fused 3 byteProjector 1 2 3 4, .power true, .fused 4 byteProjector 1 2 3 4]

theorem powerCut_run : (events UInt8).Run construct ((events UInt8).trace construct powerCut)
    ((events UInt8).final construct powerCut) :=
  Machine.run_trace _ powerCut (by decide +kernel)

/-- **No null pointer is dereferenced.** After any run, also one with failed configurations, every
event is handled. -/
theorem handles_all (h : (events Scan).Run construct past x) (i : MergerEvent Scan) :
    (x.handle i).isSome := (wired_run h).handle_isSome i

theorem handles_all_powerCut :
    (((events UInt8).final construct powerCut).handle (.deactivate : MergerEvent UInt8)).isSome :=
  handles_all powerCut_run _

/-! ## What is published -/

/-- The power message that a step receives. -/
def powers (e : MergerStep Scan) : List Bool :=
  match e.input with
  | .power data => if e.pre.powerSub then [data] else []
  | _ => []

/-- The frame that a step configures. -/
def frames (e : MergerStep Scan) : List String :=
  match e.input with
  | .configure params =>
    if e.pre.node.currentState = .unconfigured then [resolveFrame params.targetFrame] else []
  | _ => []

theorem powers_power {y : MergerLifecycle} {data : Bool} {o : List PointCloud2}
    (h : x.powerSub = true) : powers (⟨x, .power data, o, y⟩ : MergerStep Scan) = [data] := if_pos h

theorem frames_configure {y : MergerLifecycle} {params : MergerParams} {o : List PointCloud2}
    (h : x.node.currentState = .unconfigured) :
    frames (⟨x, .configure params, o, y⟩ : MergerStep Scan) =
      [resolveFrame params.targetFrame] := if_pos h

/-- The power is the one received last, and a configured node has the frame configured last. -/
structure Recorded (past : List (MergerStep Scan)) (x : MergerLifecycle) : Prop where
  wired : x.Wired
  power : x.node.hasPower = (lastOut powers past).getD true
  frame : x.node.currentState = .inactive ∨ x.node.currentState = .active →
    lastOut frames past = some x.node.targetFrame

/-- A step without a power message or a configuration, which keeps the power flag and leads to a
configured state from one with the same frame only. -/
theorem Recorded.quiet (h : Recorded past e.pre) (he : (events Scan).Takes e)
    (hpowers : powers e = []) (hframes : frames e = [])
    (hpower : e.post.node.hasPower = e.pre.node.hasPower)
    (hframe : e.post.node.currentState = .inactive ∨ e.post.node.currentState = .active →
      (e.pre.node.currentState = .inactive ∨ e.pre.node.currentState = .active) ∧
        e.post.node.targetFrame = e.pre.node.targetFrame) : Recorded (past ++ [e]) e.post where
  wired := wired_step he h.wired
  power := by
    rw [lastOut_concat, hpowers, hpower]
    exact h.power
  frame hp := by
    obtain ⟨hpre, hsame⟩ := hframe hp
    rw [lastOut_concat, hframes, hsame]
    exact h.frame hpre

/-- The accesses of a configuration that throws do not touch the power flag. -/
theorem configureTo_hasPower (x : MergerLifecycle) (params : MergerParams) (accesses : ℕ) :
    (x.configureTo params accesses).node.hasPower = x.node.hasPower := by
  unfold configureTo
  refine List.foldlRecOn (motive := fun y : MergerLifecycle =>
    y.node.hasPower = x.node.hasPower) _ _ rfl ?_
  intro y hy access hmem
  have haccess := List.mem_of_mem_take hmem
  simp only [configureAccesses, List.mem_cons, List.not_mem_nil, or_false] at haccess
  rcases haccess with rfl | rfl | rfl | rfl | rfl | rfl | rfl | rfl | rfl | rfl | rfl | rfl <;>
    exact hy

theorem recorded_step (he : (events Scan).Takes e) (h : Recorded past e.pre) :
    Recorded (past ++ [e]) e.post := by
  have hwired : Wired e.post := wired_step he h.wired
  have htake := he
  induction e, he using takes_rec with
  | skipped x i hi =>
    refine h.quiet htake ?_ ?_ rfl fun hp => ⟨hp, rfl⟩
    · cases i with
      | power data => exact if_neg hi
      | _ => rfl
    · cases i with
      | configure params => exact if_neg hi
      | _ => rfl
  | configure x params hx =>
    refine ⟨hwired, ?_, fun _ => ?_⟩
    · rw [lastOut_concat]
      exact h.power
    · rw [lastOut_concat, frames_configure hx]
      rfl
  | configureThrows x params accesses hx =>
    refine h.quiet htake rfl rfl (configureTo_hasPower x params accesses) fun hp => ?_
    rcases hp with hp | hp <;> cases hp
  | activate x y hx hy =>
    obtain rfl := onActivate_eq_some hy
    exact h.quiet htake rfl rfl rfl fun _ => ⟨Or.inl hx, rfl⟩
  | deactivate x y hx hy =>
    obtain rfl := onDeactivate_eq_some hy
    exact h.quiet htake rfl rfl rfl fun _ => ⟨Or.inr hx, rfl⟩
  | cleanup x hx =>
    refine h.quiet htake rfl rfl rfl fun hp => ?_
    rcases hp with hp | hp <;> cases hp
  | shutdown x hx =>
    refine h.quiet htake rfl rfl rfl fun hp => ?_
    rcases hp with hp | hp <;> cases hp
  | power x data hsub =>
    refine ⟨hwired, ?_, ?_⟩
    · rw [lastOut_concat, powers_power hsub, powerCallback_eq]
      rfl
    · rw [lastOut_concat, powerCallback_eq]
      exact h.frame
  | fused x now projector front back left right o hscans ho =>
    exact h.quiet htake rfl rfl rfl fun hp => ⟨hp, rfl⟩

theorem recorded_run (h : (events Scan).Run construct past x) : Recorded past x :=
  h.history ⟨show construct.node.publisher = none from rfl, rfl, by simp [construct]⟩
    fun _ _ _ he hi => recorded_step he hi

/-- Scans that no synchronizer receives would not be merged either. -/
theorem Wired.fused_output (h : Wired x) {y : MergerLifecycle} {now : Time}
    {projector : Projector Scan} {front back left right : Scan} {o : List PointCloud2}
    (he : x.handle (.fused now projector front back left right) = some (y, o)) :
    o = x.node.fusedCallback projector now front back left right := by
  rw [handle] at he
  by_cases hscans : x.receivesScans = true
  · rw [if_pos hscans, fusedCallback] at he
    split_ifs at he
    · cases he
    · exact (Prod.mk.inj (Option.some.inj he)).2.symm
  · rw [if_neg hscans] at he
    have hx : x.node.currentState ≠ .active := by
      intro hx
      rw [Wired, hx] at h
      exact hscans h.2.scans
    rw [← (Prod.mk.inj (Option.some.inj he)).2, LidarMergerNode.fusedCallback, if_pos hx]

/-- The merger publishes while it is active and has power. -/
theorem Wired.fusedCallback_ne_nil_iff (h : Wired x) (now : Time) (projector : Projector Scan)
    (front back left right : Scan) :
    x.node.fusedCallback projector now front back left right ≠ [] ↔
      x.node.currentState = .active ∧ x.node.hasPower = true := by
  unfold LidarMergerNode.fusedCallback
  by_cases hx : x.node.currentState = .active
  · rw [Wired, hx] at h
    have hpub : x.node.publisher.isActivated = true := by rw [h.1]; rfl
    cases hpower : x.node.hasPower <;> simp [hx, hpub]
  · simp [hx]

/-- **What the merger publishes.** In any run, synchronized scans are merged into one cloud exactly
if the node is active and the last power message ever received, if there was one, says that there is
power. The cloud has the frame of the last configuration, which is not empty, and joins the
projections into that frame that succeed. -/
theorem published_iff {tr : List (MergerStep Scan)} (h : (events Scan).Run construct tr x) :
    Throughout (fun past e => ∀ now projector front back left right,
      e.input = .fused now projector front back left right →
        (e.output ≠ [] ↔ e.pre.node.currentState = .active ∧ lastOut powers past ≠ some false) ∧
        ∀ cloud ∈ e.output, ∃ frame ≠ "", lastOut frames past = some frame ∧
          cloud = { (LidarMergerNode.projected (projector frame)
            [front, back, left, right]).foldl LidarMergerNode.join {} with
              header := ⟨now, frame⟩ }) tr := by
  rintro past e rest rfl now projector front back left right hi
  obtain ⟨hpast, he, -⟩ := h.around
  have hrec := recorded_run hpast
  have hout : e.output = e.pre.node.fusedCallback projector now front back left right := by
    refine hrec.wired.fused_output (y := e.post) ?_
    rw [← hi]
    exact he
  have hpower : e.pre.node.hasPower = true ↔ lastOut powers past ≠ some false := by
    rw [hrec.power]
    cases lastOut powers past <;> simp
  have hiff := hrec.wired.fusedCallback_ne_nil_iff now projector front back left right
  rw [hout, ← hpower]
  refine ⟨hiff, fun cloud hcloud => ?_⟩
  have hactive := (hiff.1 (List.ne_nil_of_mem hcloud)).1
  have hwired := hrec.wired
  rw [Wired, hactive] at hwired
  exact ⟨e.pre.node.targetFrame, hwired.2.frame, hrec.frame (Or.inr hactive),
    LidarMergerNode.mem_fusedCallback hcloud⟩

theorem published_iff_powerCut :
    Throughout (fun past e => ∀ now projector front back left right,
      e.input = .fused now projector front back left right →
        (e.output ≠ [] ↔ e.pre.node.currentState = .active ∧ lastOut powers past ≠ some false) ∧
        ∀ cloud ∈ e.output, ∃ frame ≠ "", lastOut frames past = some frame ∧
          cloud = { (LidarMergerNode.projected (projector frame)
            [front, back, left, right]).foldl LidarMergerNode.join {} with
              header := ⟨now, frame⟩ }) ((events UInt8).trace construct powerCut) :=
  published_iff powerCut_run

example : (((events UInt8).trace construct powerCut).flatMap Step.output).map PointCloud2.header =
    [⟨1, "base_link"⟩, ⟨4, "map"⟩] := by decide +kernel

end MergerLifecycle

end MonaRobot
