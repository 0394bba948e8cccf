import MonaRobot.Foundations.Pool
import MonaRobot.Safety.SafetyNode

/-!
# Concurrent safety callbacks

`health_state_callback` runs in a reentrant group, `estop_callback` and `odom_callback` run in the
default one, so any number of health messages overlap with e-stop requests and odometry. A callback
is the list of its accesses to the latch, the mode and the contactors, with what it sends in
between.

Four health states close the contactors after a test of the latch, in a step of its own. An e-stop
that latches and opens the contactors between the two is lost: `lostEstop_energized`. The latch
keeps the contactors open whenever no callback is in progress, as long as none closes them under a
set latch that no other callback in progress still follows up (`open_unless_lateClose`).
-/

namespace MonaRobot

open Reactive

/-- A health message, an odometry message or an e-stop request. -/
inductive SafetyMessage (V : Type)
  | healthState (currentState : UInt8)
  | odom (twist : Twist V)
  | estop
  deriving DecidableEq

/-- One step of a callback. `loadEstop mode` is the test of the latch: if it is unset, the callback
goes on to the `mode` and the contactors. -/
inductive SafetyAccess
  | storeEstop
  | storeState (state : SafetyState)
  | loadEstop (mode : Option SafetyState)
  | setContactors (enable : Bool)
  | publishStop
  | publishGlobalState
  | respond (success : Bool) (message : String)
  deriving DecidableEq

namespace SafetyNode

/-- The branches of `health_state_callback`. -/
def fdirAccesses (fdirState : UInt8) : List SafetyAccess :=
  if fdirState = FdirState.stateSystemStartup then
    [.storeState .protectiveStop, .publishStop, .setContactors false]
  else if fdirState = FdirState.stateEmergency then
    [.storeEstop, .storeState .emergency, .publishStop, .setContactors false]
  else if fdirState = FdirState.stateProtectiveStop then
    [.storeState .protectiveStop, .publishStop, .loadEstop none]
  else if fdirState = FdirState.stateDegraded then [.storeState .degraded, .loadEstop none]
  else if fdirState = FdirState.stateSoftwareOk then [.loadEstop (some .normal)]
  else if fdirState = FdirState.stateReconfigured then
    [.storeState .degraded, .publishStop, .loadEstop none]
  else [.setContactors false]

def odomAccesses : List SafetyAccess :=
  [.storeEstop, .storeState .emergency, .setContactors false, .publishGlobalState]

def estopAccesses : List SafetyAccess :=
  [.storeEstop, .storeState .emergency, .publishStop, .setContactors false, .publishGlobalState,
    .respond true "EMERGENCY STOP (LEVEL 2) ACTIVATED!"]

/-- The steps that are left, if any are. -/
def pending : List SafetyAccess → Option (List SafetyAccess)
  | [] => none
  | x :: rest => some (x :: rest)

@[simp] theorem mem_pending {l l' : List SafetyAccess} : l' ∈ pending l ↔ l' = l ∧ l ≠ [] := by
  cases l with
  | nil => simp [pending]
  | cons x l => simp [pending, eq_comm]

section Accesses

variable {V : Type} [VelocityScalar V]

/-- One step: the state after it, the steps it puts in its place, and what is sent. -/
def exec (s : SafetyNode) : SafetyAccess → SafetyNode × List SafetyAccess × List (SafetyOutput V)
  | .storeEstop => ({ s with eStopActive := true }, [], [])
  | .storeState state => ({ s with currentState := state }, [], [])
  | .loadEstop mode =>
    (s, if s.eStopActive then [] else (mode.map .storeState).toList ++ [.setContactors true], [])
  | .setContactors enable =>
    let r := s.setHardwareContactors enable
    (r.1, [], r.2)
  | .publishStop => (s, [], s.publishStop)
  | .publishGlobalState => (s, [], s.publishGlobalState)
  | .respond success message => (s, [], [.response success message])

/-- The callbacks, step by step. Each begins with the test of `is_processing_allowed_`;
`odom_callback` also with the test of the mode and the speed. -/
def safetyCallbacks :
    Handlers SafetyNode (SafetyMessage V) (List SafetyAccess) Unit (SafetyOutput V) where
  begin s
    | .healthState msg =>
      if s.isProcessingAllowed = false then (s, none, [])
      else ({ s with lastFdirState := msg }, pending (fdirAccesses msg), [])
    | .odom twist =>
      if s.isProcessingAllowed = false then (s, none, [])
      else if s.Escalates twist then (s, pending odomAccesses, [])
      else (s, none, [])
    | .estop =>
      if s.isProcessingAllowed = false then (s, none, [.response false ""])
      else (s, pending estopAccesses, [])
  resume s l _ :=
    match l with
    | [] => (s, none, [])
    | x :: rest =>
      let r := s.exec x
      (r.1, pending (r.2.1 ++ rest), r.2.2)

/-- Any number of the callbacks, in any interleaving. -/
def estopRace : Machine (Pool SafetyNode (List SafetyAccess)) (PoolInput (SafetyMessage V) Unit)
    (List (SafetyOutput V)) :=
  safetyCallbacks.pool

/-- A step of the callbacks. -/
abbrev RaceStep (V : Type) :=
  PoolStep SafetyNode (SafetyMessage V) (List SafetyAccess) Unit (SafetyOutput V)

/-! ## One callback at a time -/

theorem resume_cons (s : SafetyNode) (x : SafetyAccess) (rest : List SafetyAccess) (r : Unit) :
    (safetyCallbacks : Handlers SafetyNode (SafetyMessage V) _ _ _).resume s (x :: rest) r =
      ((s.exec (V := V) x).1, pending ((s.exec (V := V) x).2.1 ++ rest), (s.exec x).2.2) := rfl

/-- The callback of a message, in one step. -/
def callback (s : SafetyNode) : SafetyMessage V → SafetyNode × List (SafetyOutput V)
  | .healthState msg => s.healthStateCallback msg
  | .odom twist => s.odomCallback twist
  | .estop => s.estopCallback

/-- The steps of a callback without interruption, from the state to the result. -/
def Alone (s : SafetyNode) (l : List SafetyAccess) (r : SafetyNode × List (SafetyOutput V)) :
    Prop :=
  safetyCallbacks.Alone s (pending l) r.1 r.2

section Alone

variable {s : SafetyNode} {rest : List SafetyAccess} {r : SafetyNode × List (SafetyOutput V)}

theorem alone_cons {x : SafetyAccess}
    (h : (s.exec (V := V) x).1.Alone ((s.exec (V := V) x).2.1 ++ rest) r) :
    s.Alone (x :: rest) (r.1, (s.exec x).2.2 ++ r.2) :=
  .resume () h

theorem alone_storeEstop (h : { s with eStopActive := true }.Alone rest r) :
    s.Alone (.storeEstop :: rest) r :=
  alone_cons h

theorem alone_storeState (state : SafetyState)
    (h : { s with currentState := state }.Alone rest r) :
    s.Alone (.storeState state :: rest) r :=
  alone_cons h

theorem alone_publishStop (h : s.Alone rest r) :
    s.Alone (.publishStop :: rest) (r.1, s.publishStop ++ r.2) :=
  alone_cons h

theorem alone_publishGlobalState (h : s.Alone rest r) :
    s.Alone (.publishGlobalState :: rest) (r.1, s.publishGlobalState ++ r.2) :=
  alone_cons h

theorem alone_setContactors (enable : Bool)
    (h : (s.setHardwareContactors (V := V) enable).1.Alone rest r) :
    s.Alone (.setContactors enable :: rest) (r.1, (s.setHardwareContactors enable).2 ++ r.2) :=
  alone_cons h

theorem alone_end : s.Alone (V := V) [] (s, []) := .ended s

/-- A callback that ends with the contactors. -/
theorem alone_contactors (s : SafetyNode) (enable : Bool) :
    s.Alone (V := V) [.setContactors enable] (s.setHardwareContactors enable) := by
  have h := alone_setContactors (V := V) (s := s) enable alone_end
  rwa [List.append_nil] at h

/-- A callback that ends with the test of the latch. -/
theorem alone_loadEstop {mode : Option SafetyState} (hset : s.eStopActive = true → r = (s, []))
    (hclear : s.eStopActive = false →
      s.Alone ((mode.map .storeState).toList ++ [.setContactors true]) r) :
    s.Alone [.loadEstop mode] r := by
  have h : (s.exec (V := V) (.loadEstop mode)).1.Alone
      ((s.exec (V := V) (.loadEstop mode)).2.1 ++ []) r := by
    rw [List.append_nil]
    cases hs : s.eStopActive with
    | true =>
      rw [hset hs]
      simpa only [exec, hs, if_true] using alone_end
    | false => simpa only [exec, hs, Bool.false_eq_true, if_false] using hclear hs
  exact alone_cons h

theorem alone_closeUnlessEstop (s : SafetyNode) :
    s.Alone (V := V) [.loadEstop none] s.closeUnlessEstop := by
  refine alone_loadEstop (fun hs => if_pos hs) fun hs => ?_
  rw [closeUnlessEstop, if_neg (by simp [hs])]
  exact alone_contactors s true

end Alone

/-- `health_state_callback`, after it has recorded the byte. -/
theorem alone_fdirAccesses (s : SafetyNode) (msg : UInt8) :
    s.Alone (V := V) (fdirAccesses msg) (s.applyFdirState msg) := by
  unfold fdirAccesses applyFdirState
  split_ifs with h₀ h₅ h₂ h₁ h₃ hs h₄
  · exact alone_storeState _ (alone_publishStop (alone_contactors _ _))
  · exact alone_storeEstop (alone_storeState _ (alone_publishStop (alone_contactors _ _)))
  · exact alone_storeState _ (alone_publishStop (alone_closeUnlessEstop _))
  · exact alone_storeState _ (alone_closeUnlessEstop _)
  · exact alone_loadEstop (fun _ => rfl) fun hs' => absurd (hs.symm.trans hs') (by decide)
  · exact alone_loadEstop (fun hs' => absurd hs' hs) fun _ =>
      alone_storeState _ (alone_contactors _ _)
  · exact alone_storeState _ (alone_publishStop (alone_closeUnlessEstop _))
  · exact alone_contactors _ _

/-- A callback on its own does in its steps what it does in one. -/
theorem begin_alone (s : SafetyNode) (i : SafetyMessage V) :
    ∃ o, safetyCallbacks.Alone (safetyCallbacks.begin s i).1 (safetyCallbacks.begin s i).2.1
      (s.callback i).1 o ∧ (safetyCallbacks.begin s i).2.2 ++ o = (s.callback i).2 := by
  by_cases hp : s.isProcessingAllowed = false
  · refine ⟨[], ?_⟩
    cases i <;> simp only [safetyCallbacks, callback, healthStateCallback, odomCallback,
      estopCallback, if_pos hp, List.append_nil, and_true]
    all_goals exact .ended s
  cases i with
  | healthState msg =>
    have halone := alone_fdirAccesses (V := V) { s with lastFdirState := msg } msg
    simp only [safetyCallbacks, callback, healthStateCallback, if_neg hp]
    exact ⟨_, halone, rfl⟩
  | odom twist =>
    simp only [safetyCallbacks, callback, odomCallback, if_neg hp]
    split_ifs
    · have halone := alone_storeEstop (V := V) (s := s) <| alone_storeState .emergency <|
        alone_setContactors false <| alone_publishGlobalState alone_end
      exact ⟨_, halone, by simp [latch]⟩
    · exact ⟨[], .ended s, rfl⟩
  | estop =>
    have halone := alone_storeEstop (V := V) (s := s) <| alone_storeState .emergency <|
      alone_publishStop <| alone_setContactors false <| alone_publishGlobalState <|
      alone_cons (x := .respond true "EMERGENCY STOP (LEVEL 2) ACTIVATED!") alone_end
    simp only [safetyCallbacks, callback, estopCallback, if_neg hp]
    exact ⟨_, halone, by simp [latch, publishStop, exec]⟩

/-- On its own, a callback is the one of the node. -/
theorem callback_alone (s : SafetyNode) (i : SafetyMessage V) :
    ∃ tr, estopRace.Run ⟨s, []⟩ tr ⟨(s.callback i).1, []⟩ ∧
      tr.flatMap Step.output = (s.callback i).2 := by
  obtain ⟨o, halone, ho⟩ := begin_alone s i
  obtain ⟨tr, hrun, hout⟩ := halone.run
  exact ⟨tr, hrun, hout.trans ho⟩

/-! ## The latch opens the contactors -/

/-- The access that a step makes. -/
def access (e : RaceStep V) : Option SafetyAccess :=
  match e.input with
  | .start _ => none
  | .resume k _ => e.pre.live[k]?.bind List.head?

/-- The contactors are closed under a set latch, and no callback in progress has still to open them.
-/
def LateClose (e : RaceStep V) : Prop :=
  access e = some (.setContactors true) ∧ e.pre.shared.eStopActive = true ∧
    ∀ l ∈ e.pre.live, SafetyAccess.setContactors false ∉ l

instance : DecidablePred (LateClose (V := V)) := fun _ => inferInstanceAs (Decidable (_ ∧ _ ∧ _))

omit [VelocityScalar V] in
@[simp] theorem access_resume (a s' : SafetyNode) (before after live : List (List SafetyAccess))
    (x : SafetyAccess) (rest : List SafetyAccess) (r : Unit) (o : List (SafetyOutput V)) :
    access ⟨⟨a, before ++ (x :: rest) :: after⟩, .resume before.length r, o, ⟨s', live⟩⟩ =
      some x := by
  simp [access]

/-- A callback that sets the latch opens the contactors afterwards. -/
def Secured : List SafetyAccess → Prop
  | [] => True
  | .storeEstop :: rest => SafetyAccess.setContactors false ∈ rest ∧ Secured rest
  | _ :: rest => Secured rest

theorem secured_fdirAccesses (msg : UInt8) : Secured (fdirAccesses msg) := by
  unfold fdirAccesses
  split_ifs <;> simp [Secured]

theorem secured_begin (s : SafetyNode) (i : SafetyMessage V) :
    ∀ l ∈ (safetyCallbacks.begin s i).2.1, Secured l := by
  intro l hl
  cases i with
  | healthState msg =>
    simp only [safetyCallbacks] at hl
    split_ifs at hl
    · cases hl
    · obtain ⟨rfl, -⟩ := mem_pending.1 (show l ∈ pending (fdirAccesses msg) from hl)
      exact secured_fdirAccesses msg
  | odom twist =>
    simp only [safetyCallbacks] at hl
    split_ifs at hl
    · cases hl
    · obtain ⟨rfl, -⟩ := mem_pending.1 (show l ∈ pending odomAccesses from hl)
      simp [odomAccesses, Secured]
    · cases hl
  | estop =>
    simp only [safetyCallbacks] at hl
    split_ifs at hl
    · cases hl
    · obtain ⟨rfl, -⟩ := mem_pending.1 (show l ∈ pending estopAccesses from hl)
      simp [estopAccesses, Secured]

/-- A callback that begins leaves the latch and the contactors. -/
theorem begin_fst (s : SafetyNode) (i : SafetyMessage V) :
    (safetyCallbacks.begin s i).1.eStopActive = s.eStopActive ∧
      (safetyCallbacks.begin s i).1.hardwareContactorsClosed = s.hardwareContactorsClosed := by
  cases i <;> simp only [safetyCallbacks] <;> split_ifs <;> exact ⟨rfl, rfl⟩

/-- The latch is set by its own access only. -/
theorem exec_eStopActive (s : SafetyNode) (x : SafetyAccess) :
    (s.exec (V := V) x).1.eStopActive = (s.eStopActive || decide (x = .storeEstop)) := by
  cases x <;> simp [exec]

theorem exec_setContactors (s : SafetyNode) (enable : Bool) :
    (s.exec (V := V) (.setContactors enable)).1.hardwareContactorsClosed = enable := by
  simp [exec]

/-- The test of the latch sets it not. -/
theorem secured_exec {s : SafetyNode} {x : SafetyAccess} {rest : List SafetyAccess}
    (h : Secured (x :: rest)) : Secured ((s.exec (V := V) x).2.1 ++ rest) := by
  cases x with
  | storeEstop => exact h.2
  | loadEstop mode =>
    cases mode <;> simp only [exec] <;> split_ifs <;> exact h
  | _ => exact h

/-- A set latch has opened the contactors, or a callback in progress will. -/
def Guarded (x : Pool SafetyNode (List SafetyAccess)) : Prop :=
  (x.shared.eStopActive = true → x.shared.hardwareContactorsClosed = false ∨
    ∃ l ∈ x.live, SafetyAccess.setContactors false ∈ l) ∧ ∀ l ∈ x.live, Secured l

/-- What is left of a callback is in progress. -/
theorem exists_pending {l : List SafetyAccess} (h : SafetyAccess.setContactors false ∈ l) :
    ∃ l' ∈ (pending l).toList, SafetyAccess.setContactors false ∈ l' :=
  ⟨l, Option.mem_toList.2 (mem_pending.2 ⟨rfl, List.ne_nil_of_mem h⟩), h⟩

/-- A step of a callback in progress, unless it is a late close, leaves a set latch guarded. -/
theorem guarded_exec {a : SafetyNode} {before after : List (List SafetyAccess)} {x : SafetyAccess}
    {rest : List SafetyAccess}
    (hno : x = .setContactors true → a.eStopActive = true →
      ∃ l ∈ before ++ (x :: rest) :: after, SafetyAccess.setContactors false ∈ l)
    (hlatch : a.eStopActive = true → a.hardwareContactorsClosed = false ∨
      ∃ l ∈ before ++ (x :: rest) :: after, SafetyAccess.setContactors false ∈ l)
    (hsecured : Secured (x :: rest)) (hset : (a.exec (V := V) x).1.eStopActive = true) :
    (a.exec (V := V) x).1.hardwareContactorsClosed = false ∨
      ∃ l ∈ before ++ (pending ((a.exec (V := V) x).2.1 ++ rest)).toList ++ after,
        SafetyAccess.setContactors false ∈ l := by
  have hkeep : x ≠ .setContactors false →
      (∃ l ∈ before ++ (x :: rest) :: after, SafetyAccess.setContactors false ∈ l) →
      ∃ l ∈ before ++ (pending ((a.exec (V := V) x).2.1 ++ rest)).toList ++ after,
        SafetyAccess.setContactors false ∈ l := fun hx h =>
    Handlers.exists_resumed h fun hmem => exists_pending <| List.mem_append_right _ <|
      (List.mem_cons.1 hmem).resolve_left hx.symm
  cases x with
  | storeEstop =>
    obtain ⟨l, hl, hopen⟩ := exists_pending hsecured.1
    exact Or.inr ⟨l, List.mem_append_left _ (List.mem_append_right _ hl), hopen⟩
  | setContactors enable =>
    cases enable with
    | false => exact Or.inl (exec_setContactors a false)
    | true =>
      rw [exec_eStopActive, Bool.or_eq_true] at hset
      exact Or.inr (hkeep (by simp) (hno rfl (by simpa using hset)))
  | _ =>
    rw [exec_eStopActive, Bool.or_eq_true] at hset
    rcases hlatch (by simpa using hset) with hopen | h
    · exact Or.inl hopen
    · exact Or.inr (hkeep (by simp) h)

theorem guarded_step {e : RaceStep V} (he : estopRace.Takes e) (hno : ¬ LateClose e)
    (h : Guarded e.pre) : Guarded e.post := by
  obtain ⟨hlatch, hsecured⟩ := h
  induction e, he using Handlers.pool_rec with
  | start a live i he =>
    obtain ⟨hl, hc⟩ := begin_fst a i
    constructor
    · rw [hl, hc]
      intro hset
      rcases hlatch hset with hopen | ⟨l, hl, hopen⟩
      · exact Or.inl hopen
      · exact Or.inr ⟨l, List.mem_append_left _ hl, hopen⟩
    · intro l hl
      rcases List.mem_append.1 hl with hl | hl
      · exact hsecured l hl
      · exact secured_begin a i l (Option.mem_toList.1 hl)
  | resume a before t after r he =>
    cases t with
    | nil =>
      refine ⟨fun hset => ?_, Handlers.forall_resumed hsecured fun l hl => by cases hl⟩
      exact (hlatch hset).imp_right fun h => Handlers.exists_resumed h fun hmem => by cases hmem
    | cons x rest =>
      have hx : Secured (x :: rest) := hsecured _ (by simp)
      refine ⟨guarded_exec (fun hxt hset => ?_) hlatch hx,
        Handlers.forall_resumed hsecured fun l hl => ?_⟩
      · by_contra hnone
        have hopen : ∀ l ∈ before ++ (x :: rest) :: after, SafetyAccess.setContactors false ∉ l :=
          fun l hl hmem => hnone ⟨l, hl, hmem⟩
        exact hno ⟨by rw [access_resume, hxt], hset, hopen⟩
      · obtain ⟨rfl, -⟩ := mem_pending.1 (Option.mem_toList.1 hl)
        exact secured_exec hx

/-! ## After a late close -/

/-- The latch is set and the contactors are closed. -/
def Energized (s : SafetyNode) : Prop :=
  s.eStopActive = true ∧ s.hardwareContactorsClosed = true

instance : DecidablePred Energized := fun _ => inferInstanceAs (Decidable (_ ∧ _))

/-- Callbacks that do not open the contactors end with the contactors closed under the latch. -/
theorem energized_settle {a : SafetyNode} {live : List (List SafetyAccess)} (ha : Energized a)
    (hlive : ∀ l ∈ live, SafetyAccess.setContactors false ∉ l) :
    ∃ tr b, (estopRace (V := V)).Run ⟨a, live⟩ tr ⟨b, []⟩ ∧ Energized b ∧
      ∀ e ∈ tr, ∃ k r, e.input = .resume k r := by
  have h := Handlers.settle (H := safetyCallbacks (V := V)) (K := Energized)
    (Q := fun l => SafetyAccess.setContactors false ∉ l) (m := List.length)
    (fun a l ha hl => ⟨(), ?_⟩) [] [] ha hlive
  · rw [List.nil_append, List.append_nil] at h
    exact h
  · cases l with
    | nil => exact ⟨ha, fun u hu => by cases hu⟩
    | cons x rest =>
      rw [List.mem_cons, not_or] at hl
      obtain ⟨hx, hrest⟩ := hl
      have hnew : (a.exec (V := V) x).2.1 = [] := by
        cases x <;> simp [exec, ha.1]
      refine ⟨⟨?_, ?_⟩, fun u hu => ?_⟩
      · rw [resume_cons, exec_eStopActive, ha.1, Bool.true_or]
      · rw [resume_cons]
        cases x with
        | setContactors enable =>
          have henable : enable = true := by
            cases enable
            · exact absurd rfl hx
            · rfl
          rw [exec_setContactors, henable]
        | _ => exact ha.2
      · rw [resume_cons, hnew, List.nil_append, mem_pending] at hu
        rw [hu.1]
        exact ⟨hrest, Nat.lt_succ_self _⟩

/-- After a late close, all callbacks in progress end with the contactors closed under the latch. -/
theorem lateClose_energized {e : RaceStep V} (he : estopRace.Takes e) (hlate : LateClose e) :
    ∃ tr b, (estopRace (V := V)).Run e.post tr ⟨b, []⟩ ∧ Energized b ∧
      ∀ e' ∈ tr, ∃ k r, e'.input = .resume k r := by
  obtain ⟨haccess, hset, hlive⟩ := hlate
  induction e, he using Handlers.pool_rec with
  | start a live i he => cases haccess
  | resume a before t after r he =>
    cases t with
    | nil => simp [access] at haccess
    | cons x rest =>
      obtain rfl : x = .setContactors true :=
        Option.some.inj ((access_resume ..).symm.trans haccess)
      refine energized_settle (V := V) ⟨?_, exec_setContactors (V := V) a true⟩
        (Handlers.forall_resumed hlive fun l hl => ?_)
      · rw [resume_cons, exec_eStopActive, hset, Bool.true_or]
      · obtain ⟨rfl, -⟩ := mem_pending.1 (Option.mem_toList.1 hl)
        have ht : SafetyAccess.setContactors false ∉ .setContactors true :: l := hlive _ (by simp)
        exact fun hmem => ht (List.mem_cons_of_mem _ hmem)

/-! ## Runs -/

/-- **No lost e-stop.** While no contactors are closed under a set latch unless a callback in
progress has still to open them, a set latch has opened the contactors whenever no callback is in
progress; and after every close that is late, the callbacks in progress can end with the contactors
closed. -/
theorem open_unless_lateClose {s : SafetyNode} {tr : List (RaceStep V)}
    {t : Pool SafetyNode (List SafetyAccess)}
    (hs : s.eStopActive = true → s.hardwareContactorsClosed = false)
    (h : estopRace.Run ⟨s, []⟩ tr t) :
    ((∀ e ∈ tr, ¬ LateClose e) → ∀ x, Machine.Visited ⟨s, []⟩ tr x → x.live = [] →
      x.shared.eStopActive = true → x.shared.hardwareContactorsClosed = false) ∧
    ∀ e ∈ tr, LateClose e → ∃ tr' b, (estopRace (V := V)).Run e.post tr' ⟨b, []⟩ ∧ Energized b ∧
      ∀ e' ∈ tr', ∃ k r, e'.input = .resume k r := by
  constructor
  · intro hno x hx hidle hset
    have h₀ : Guarded ⟨s, []⟩ := ⟨fun hset => Or.inl (hs hset), by simp⟩
    have hguarded : Guarded x :=
      h.invariant_visited h₀ hno (fun _ he hc hi => guarded_step (V := V) he hc hi) x hx
    rcases hguarded.1 hset with hopen | ⟨l, hl, -⟩
    · exact hopen
    · rw [hidle] at hl
      cases hl
  · intro e he hlate
    exact lateClose_energized (h.takes e he) hlate

end Accesses

/-- A configured and activated node, with its contactors open. -/
def activeNode : SafetyNode :=
  (events (V := ℚ)).final construct [.configure 1 (3 / 10), .activate]

/-- A health state of normal operation has tested the latch when an e-stop is requested and handled.
-/
def lostEstop : List (PoolInput (SafetyMessage ℚ) Unit) :=
  [.start (.healthState FdirState.stateSoftwareOk), .resume 0 (), .start .estop, .resume 1 (),
    .resume 1 (), .resume 1 (), .resume 1 (), .resume 1 (), .resume 1 (), .resume 0 (), .resume 0 ()]

/-- The e-stop is lost: all callbacks have ended, and the contactors are closed under the latch. -/
theorem lostEstop_energized : ¬ ∀ (s : SafetyNode) (tr : List (RaceStep ℚ))
    (t : Pool SafetyNode (List SafetyAccess)),
    (s.eStopActive = true → s.hardwareContactorsClosed = false) → estopRace.Run ⟨s, []⟩ tr t →
      t.live = [] → t.shared.eStopActive = true → t.shared.hardwareContactorsClosed = false := by
  intro h
  have hrun := (estopRace (V := ℚ)).run_trace ⟨activeNode, []⟩ lostEstop (by decide +kernel)
  have hlost : Energized (estopRace.final ⟨activeNode, []⟩ lostEstop).shared := by decide +kernel
  have hopen := h _ _ _ (by decide +kernel) hrun (by decide +kernel) hlost.1
  exact absurd (hlost.2.symm.trans hopen) (by decide)

/-- The latch is set between the test and the close, but the e-stop opens the contactors last. -/
def keptEstop : List (PoolInput (SafetyMessage ℚ) Unit) :=
  [.start (.healthState FdirState.stateSoftwareOk), .resume 0 (), .start .estop, .resume 1 (),
    .resume 0 (), .resume 0 (), .resume 0 (), .resume 0 (), .resume 0 (), .resume 0 (), .resume 0 ()]

theorem open_unless_lateClose_keptEstop :
    (estopRace.final ⟨activeNode, []⟩ keptEstop).shared.hardwareContactorsClosed = false := by
  have hrun := (estopRace (V := ℚ)).run_trace ⟨activeNode, []⟩ keptEstop (by decide +kernel)
  exact (open_unless_lateClose (by decide +kernel) hrun).1 (by decide +kernel) _ hrun.visited_last
    (by decide +kernel) (by decide +kernel)

end SafetyNode

end MonaRobot
