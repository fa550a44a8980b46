import Mathlib.Tactic.ByContra
import Narrative.Proofs.Machine.Standing

/-!
# Transitions of a machine

Every change of state leaves the current state, names the next one, and enters it or asks for its
scene. Between leaving and entering the machine is vacant: no state is active and nothing is
waited for. What a change tells follows from where it started and whether it arrived:
`Machine.Moved` says so once for all of them.
-/

namespace Narrative.Machine

variable {ℓ : Type} [SceneLoader ℓ]

/-- What leaving the current state tells: first its sub-state, then the state itself. -/
def farewell (machine : Machine) : List Notice :=
  (machine.subKind?.map Notice.subExited).toList ++ (machine.active?.map Notice.exited).toList

/-- The sub-states have something to tell only while free roam is active. -/
def Told (machine : Machine) : Prop :=
  machine.active? ≠ some .freeRoam → machine.subNotices = []

/-- A machine none of whose states is active, and which waits for nothing. -/
structure Vacant (machine : Machine) : Prop where
  /-- No state is active. -/
  inactive : ∀ kind, machine.isActive kind = false
  /-- No scene is waited for. -/
  pending : machine.pending = none
  /-- No sub-state is current. -/
  roamless : machine.subKind? = none
  /-- The sub-states have nothing to tell. -/
  told : machine.subNotices = []

/-- A change from the standing of one machine to a target. -/
structure Moved (machine moved : Machine) (target : StateKind) : Prop where
  /-- The standing is sound again. -/
  sound : moved.Sound
  /-- The target is current. -/
  current : moved.current = some target
  /-- The state left is remembered. -/
  previous : moved.previous = machine.current
  /-- No sub-state is current. -/
  roamless : moved.subKind? = none
  /-- The sub-states have nothing to tell. -/
  told : moved.subNotices = []
  /-- The change tells what was left, what became current, and whether it was entered. -/
  queue : moved.queue = machine.queue ++ machine.farewell ++
    .changed machine.current target :: (moved.active?.map Notice.entered).toList

/-- Where no state is active, nothing is left. -/
theorem farewell_eq_nil {machine : Machine} (sound : machine.Sound)
    (inactive : machine.active? = none) : machine.subKind? = none ∧ machine.farewell = [] := by
  have roamless : machine.subKind? = none := by
    by_contra roaming
    have active := sound.roams roaming
    rw [inactive] at active
    contradiction
  exact ⟨roamless, by simp [farewell, roamless, inactive]⟩

/-- A machine whose current state is not active is vacant once it waits for nothing. -/
theorem vacant_of_inactive {machine other : Machine} (sound : machine.Sound)
    (told : machine.subNotices = []) (inactive : machine.active? = none)
    (active : ∀ kind, other.isActive kind = machine.isActive kind)
    (pending : other.pending = none) (sub : other.subMachine? = machine.subMachine?) :
    other.Vacant where
  inactive kind := by
    rw [active]
    by_contra on
    have on : machine.isActive kind = true := by simpa using on
    have found := active?_eq_some_iff.2 ⟨sound.single kind on, on⟩
    rw [inactive] at found
    contradiction
  pending := pending
  roamless := by
    unfold subKind?
    rw [sub]
    exact (farewell_eq_nil sound inactive).1
  told := by
    unfold subNotices
    rw [sub]
    exact told

/-- Where no state is active, there is nothing to leave. -/
theorem leaves_of_inactive {machine other : Machine} (sound : machine.Sound)
    (told : machine.Told) (inactive : machine.active? = none)
    (active : ∀ kind, other.isActive kind = machine.isActive kind)
    (pending : other.pending = none) (sub : other.subMachine? = machine.subMachine?)
    (current : other.current = machine.current) (notices : other.notices = machine.notices) :
    other.Vacant ∧ other.current = machine.current ∧
      other.queue = machine.queue ++ machine.farewell := by
  have silent : machine.subNotices = [] := told (by simp [inactive])
  refine ⟨vacant_of_inactive sound silent inactive active pending sub, current, ?_⟩
  rw [(farewell_eq_nil sound inactive).2, List.append_nil]
  exact queue_congr notices sub

/-- Once the current state is put to rest, no state is active. -/
theorem isActive_of_rested {machine other : Machine} {key : StateKind} {left : GameState}
    (sound : machine.Sound) (standing : machine.current = some key)
    (written : other.states = machine.states.insert key left) (off : left.active = false)
    (kind : StateKind) : other.isActive kind = false := by
  rw [isActive_of_insert written]
  split
  · exact off
  · next different =>
    by_contra on
    have on : machine.isActive kind = true := by simpa using on
    have equal := sound.single kind on
    rw [standing] at equal
    exact different (Option.some.inj equal).symm

/-- Once the active state is put to rest and left its sub-states, those of free roam have told that
they were left, if it is free roam that is left; if not, there was nothing to tell. -/
theorem subNotices_of_rested {machine other : Machine} {key : StateKind} {state left : GameState}
    (sound : machine.Sound) (active : machine.active? = some key)
    (known : machine.state? key = some state)
    (written : other.states = machine.states.insert key left)
    (exited : left.subMachine = state.subMachine.map SubMachine.exit) :
    other.subKind? = none ∧ other.subNotices =
      machine.subNotices ++ (machine.subKind?.map Notice.subExited).toList := by
  unfold subKind? subNotices
  rw [subMachine?_of_insert written]
  split
  · next roam =>
    have same : machine.subMachine? = state.subMachine := by
      unfold subMachine?
      rw [← roam, known]
      rfl
    rw [same, exited]
    cases state.subMachine with
    | none => exact ⟨rfl, rfl⟩
    | some sub => exact ⟨sub.current_exit, sub.notices_exit⟩
  · next elsewhere =>
    have roamless : machine.subKind? = none := by
      by_contra roaming
      have equal := sound.roams roaming
      rw [active] at equal
      exact elsewhere (Option.some.inj equal)
    unfold subKind? at roamless
    rw [roamless]
    simp

/-- Leaving the current state makes the machine vacant and tells what was left. -/
theorem exitCurrent_spec {machine : Machine} (sound : machine.Sound) (told : machine.Told) :
    machine.exitCurrent.value.Vacant ∧
      machine.exitCurrent.value.current = machine.current ∧
      machine.exitCurrent.value.queue = machine.queue ++ machine.farewell := by
  unfold exitCurrent
  dsimp only
  split
  · next none =>
    have inactive : machine.active? = Option.none := by simp [active?, none]
    exact leaves_of_inactive sound told inactive (fun _ => rfl) rfl rfl rfl rfl
  · next current standing =>
    split
    · next unknown =>
      have off : machine.isActive current = false := by
        change (machine.state? current).any _ = false
        change machine.state? current = none at unknown
        rw [unknown]
        rfl
      have inactive : machine.active? = none := by simp [active?, standing, off]
      exact leaves_of_inactive sound told inactive (fun _ => rfl) rfl rfl rfl rfl
    · next state known =>
      change machine.state? current = some state at known
      have activity : machine.isActive current = state.active := by
        unfold isActive
        rw [known]
        rfl
      split
      · next on =>
        have active : machine.active? = some current :=
          active?_eq_some_iff.2 ⟨standing, activity.trans on⟩
        let left : GameState :=
          { state with
            request := none, active := false, subMachine := state.subMachine.map SubMachine.exit }
        let rested : Machine :=
          { machine with pending := none, states := machine.states.insert current left }
        have written : rested.states = machine.states.insert current left := rfl
        obtain ⟨agrees, notices, silent⟩ := drainSubNotices_spec rested
        obtain ⟨roamless, sub⟩ := subNotices_of_rested sound active known written rfl
        refine ⟨⟨fun kind => ?_, agrees.pending, agrees.subKind.trans roamless, silent⟩,
          agrees.current, ?_⟩
        · exact (agrees.active kind).trans (isActive_of_rested sound standing written rfl kind)
        · change (rested.drainSubNotices.notices ++ [Notice.exited current])
            ++ rested.drainSubNotices.subNotices = _
          rw [silent, notices]
          unfold queue farewell
          rw [sub, active]
          simp [rested]
      · next off =>
        have inactive : machine.active? = none := by
          simp [active?, standing, activity, off]
        have waiting : state? { machine with pending := none } current = some state := known
        obtain ⟨agrees, sub⟩ := agrees_of_insert
          { machine with
            pending := none
            states := machine.states.insert current { state with request := none } }
          waiting rfl rfl rfl rfl rfl
        exact leaves_of_inactive sound told inactive agrees.active rfl sub rfl rfl

/-- Naming the next state keeps the machine vacant and is told. -/
theorem changeTo_spec {machine : Machine} (vacant : machine.Vacant) (next : StateKind) :
    (machine.changeTo next).value.Vacant ∧
      (machine.changeTo next).value.current = some next ∧
      (machine.changeTo next).value.previous = machine.current ∧
      (machine.changeTo next).value.queue =
        machine.queue ++ [.changed machine.current next] := by
  refine ⟨⟨vacant.inactive, vacant.pending, vacant.roamless, vacant.told⟩, rfl, rfl, ?_⟩
  change (machine.notices ++ [.changed machine.current next]) ++ machine.subNotices =
    (machine.notices ++ machine.subNotices) ++ [.changed machine.current next]
  rw [vacant.told, List.append_nil, List.append_nil]

/-- A vacant machine is sound. -/
theorem Vacant.sound {machine : Machine} (vacant : machine.Vacant) : machine.Sound where
  single kind active := by
    rw [vacant.inactive] at active
    contradiction
  waits _ := active?_eq_none_of_inactive vacant.inactive
  roams roaming := absurd vacant.roamless roaming

/-- Entering the current state of a vacant machine. -/
theorem enter_spec {machine : Machine} {kind : StateKind} (vacant : machine.Vacant)
    (current : machine.current = some kind) :
    (machine.enter kind).value.Sound ∧
      (machine.enter kind).value.current = some kind ∧
      (machine.enter kind).value.previous = machine.previous ∧
      (machine.enter kind).value.subKind? = none ∧
      (machine.enter kind).value.subNotices = [] ∧
      (machine.enter kind).value.queue =
        machine.queue ++ ((machine.enter kind).value.active?.map Notice.entered).toList := by
  unfold enter
  split
  · have inactive : (pure machine : Logged Machine).value.active? = none :=
      active?_eq_none_of_inactive vacant.inactive
    refine ⟨vacant.sound, current, rfl, vacant.roamless, vacant.told, ?_⟩
    rw [inactive]
    simp
  · next state known =>
    let entered : Machine :=
      { machine with
        states := machine.states.insert kind { state with active := true, request := none }
        notices := machine.notices ++ [.entered kind] }
    change entered.Sound ∧ entered.current = some kind ∧ entered.previous = machine.previous ∧
      entered.subKind? = none ∧ entered.subNotices = [] ∧
      entered.queue = machine.queue ++ (entered.active?.map Notice.entered).toList
    have written : entered.states =
        machine.states.insert kind { state with active := true, request := none } := rfl
    have on : ∀ other, entered.isActive other = decide (other = kind) := by
      intro other
      rw [isActive_of_insert written]
      split
      · next same => simp [same]
      · next different => rw [vacant.inactive, decide_eq_false different]
    have active : entered.active? = some kind :=
      active?_eq_some_iff.2 ⟨current, by simp [on]⟩
    have sub : entered.subMachine? = machine.subMachine? :=
      subMachine?_of_insert_same known written rfl
    have silent : entered.subNotices = [] := by
      unfold subNotices
      rw [sub]
      exact vacant.told
    refine ⟨⟨fun other equal => ?_, fun waiting => ?_, fun roaming => ?_⟩, current, rfl, ?_, silent,
      ?_⟩
    · rw [on, decide_eq_true_eq] at equal
      rw [equal]
      exact current
    · exact absurd vacant.pending waiting
    · unfold subKind? at roaming
      rw [sub] at roaming
      exact absurd vacant.roamless roaming
    · unfold subKind?
      rw [sub]
      exact vacant.roamless
    · unfold queue
      rw [silent, vacant.told, active]
      simp [entered]

/-- Asking for the scene of the current state of a vacant machine, or entering it. -/
theorem loadOrEnter_spec {machine : Machine} {kind : StateKind} (vacant : machine.Vacant)
    (current : machine.current = some kind) (transition : Transition) (loader : ℓ) :
    let moved := (machine.loadOrEnter kind transition loader).value.1
    moved.Sound ∧ moved.current = some kind ∧ moved.previous = machine.previous ∧
      moved.subKind? = none ∧ moved.subNotices = [] ∧
      moved.queue = machine.queue ++ (moved.active?.map Notice.entered).toList := by
  unfold loadOrEnter
  split
  · next scene _ =>
    let waiting : Machine :=
      { machine with pending := some (SceneLoader.load loader scene transition).1 }
    change waiting.Sound ∧ waiting.current = some kind ∧ waiting.previous = machine.previous ∧
      waiting.subKind? = none ∧ waiting.subNotices = [] ∧
      waiting.queue = machine.queue ++ (waiting.active?.map Notice.entered).toList
    have inactive : waiting.active? = none := active?_eq_none_of_inactive vacant.inactive
    refine ⟨⟨fun other active => ?_, fun _ => inactive, fun roaming => ?_⟩, current, rfl,
      vacant.roamless, vacant.told, ?_⟩
    · have off := vacant.inactive other
      change waiting.isActive other = false at off
      rw [off] at active
      contradiction
    · exact absurd vacant.roamless roaming
    · rw [inactive]
      simp [queue, subNotices, subMachine?, state?, waiting]
  · exact enter_spec vacant current

/-- Leaving the current state for another. -/
theorem moveTo_moved {machine : Machine} (sound : machine.Sound) (told : machine.Told)
    (next : StateKind) (transition : Transition) (loader : ℓ) :
    machine.Moved (machine.moveTo next transition loader).value.1 next := by
  obtain ⟨left, current, leaving⟩ := exitCurrent_spec sound told
  obtain ⟨named, arriving, previous, naming⟩ := changeTo_spec left next
  obtain ⟨sound, present, before, roamless, silent, queue⟩ :=
    loadOrEnter_spec named arriving transition loader
  refine ⟨sound, present, before.trans (previous.trans current), roamless, silent, ?_⟩
  refine queue.trans ?_
  rw [naming, leaving, current, List.append_assoc]
  rfl

/-- A loading state that leads to a target is not entered by that. -/
theorem withLoading_spec {machine : Machine} (vacant : machine.Vacant) (target : StateKind) :
    (machine.withLoading target).value.Vacant ∧
      (machine.withLoading target).value.current = machine.current ∧
      (machine.withLoading target).value.queue = machine.queue := by
  have kept : ∀ state : GameState, state.active = false → ∀ other : Machine,
      other.states = machine.states.insert .loading state → other.pending = machine.pending →
      other.notices = machine.notices → other.Vacant ∧ other.queue = machine.queue := by
    intro state off other written pending notices
    have sub : other.subMachine? = machine.subMachine? := by
      rw [subMachine?_of_insert written]
      exact if_neg (by decide)
    refine ⟨⟨fun kind => ?_, pending.trans vacant.pending, ?_, ?_⟩, queue_congr notices sub⟩
    · rw [isActive_of_insert written]
      split
      · exact off
      · exact vacant.inactive kind
    · unfold subKind?
      rw [sub]
      exact vacant.roamless
    · unfold subNotices
      rw [sub]
      exact vacant.told
  unfold withLoading
  split
  · next state known =>
    have off : state.active = false := by
      have inactive := vacant.inactive .loading
      unfold isActive at inactive
      rw [known] at inactive
      exact inactive
    obtain ⟨vacant, queue⟩ := kept { state with target := some target } off
      { machine with
        states := machine.states.insert .loading { state with target := some target } } rfl rfl rfl
    exact ⟨vacant, rfl, queue⟩
  · let made : GameState :=
      { GameState.resting machine.loadingScene Option.none with target := some target }
    obtain ⟨vacant, queue⟩ := kept made rfl
      { machine with states := machine.states.insert .loading made } rfl rfl rfl
    exact ⟨vacant, rfl, queue⟩

/-- Leaving the current state for the loading state. -/
theorem moveThroughLoading_moved {machine : Machine} (sound : machine.Sound)
    (told : machine.Told) (target : StateKind) (loader : ℓ) :
    machine.Moved (machine.moveThroughLoading target loader).value.1 .loading := by
  obtain ⟨left, current, leaving⟩ := exitCurrent_spec sound told
  obtain ⟨ready, staying, preparing⟩ := withLoading_spec left target
  obtain ⟨named, arriving, previous, naming⟩ := changeTo_spec ready .loading
  obtain ⟨sound, present, before, roamless, silent, queue⟩ :=
    loadOrEnter_spec named arriving .fade loader
  refine ⟨sound, present, before.trans (previous.trans (staying.trans current)), roamless, silent,
    ?_⟩
  refine queue.trans ?_
  rw [naming, preparing, leaving, staying, current, List.append_assoc]
  rfl

/-- A state that was met without loading its scene. -/
theorem enterState_moved {machine moved : Machine} {kind : StateKind} (sound : machine.Sound)
    (told : machine.Told) (entered : (machine.enterState kind).value = .ok moved) :
    machine.Moved moved kind := by
  unfold enterState at entered
  simp only [Logged.value_bind] at entered
  split at entered
  · simp at entered
  · obtain ⟨left, current, leaving⟩ := exitCurrent_spec sound told
    obtain ⟨named, arriving, previous, naming⟩ := changeTo_spec left kind
    obtain ⟨sound, present, before, roamless, silent, queue⟩ := enter_spec named arriving
    obtain rfl := Except.ok.inj entered
    refine ⟨sound, present, before.trans (previous.trans current), roamless, silent, ?_⟩
    rw [queue, naming, leaving, current, List.append_assoc]
    rfl

/-- A state that is met without loading its scene is one that there is. -/
theorem enterState_known {machine moved : Machine} {kind : StateKind}
    (entered : (machine.enterState kind).value = .ok moved) :
    (machine.lookup kind).value = .ok () := by
  unfold enterState at entered
  simp only [Logged.value_bind] at entered
  split at entered
  · cases entered
  · assumption

/-- A switch is to a state that there is. It leads through the loading state if that state requires
loading and the loading state does not lead to it already, and to that state otherwise. -/
theorem switchState_cases {machine : Machine} {next : StateKind} {loader left : ℓ}
    {moved : Machine} (met : (machine.switchState next loader).value = .ok (moved, left)) :
    (machine.lookup next).value = .ok () ∧
      (machine.requiresLoading.contains next = true ∧ machine.loadingTarget? ≠ some next ∧
          (machine.moveThroughLoading next loader).value = (moved, left) ∨
        (machine.requiresLoading.contains next = true → machine.loadingTarget? = some next) ∧
          (machine.moveTo next .fade loader).value = (moved, left)) := by
  unfold switchState at met
  simp only [Logged.value_bind] at met
  split at met
  · cases met
  · next known =>
    split at met
    · next through => exact ⟨known, .inl ⟨through.1, through.2, Except.ok.inj met⟩⟩
    · next direct =>
      refine ⟨known, .inr ⟨fun requires => ?_, Except.ok.inj met⟩⟩
      by_contra elsewhere
      exact direct ⟨requires, elsewhere⟩

/-- A request that is met asks for a state that there is. It is reached directly, or through the
loading state if it requires that. -/
theorem fulfil_cases {machine : Machine} {request : Request} {loader left : ℓ} {moved : Machine}
    (met : (machine.fulfil loader request).value = .ok (moved, left)) :
    (machine.lookup request.target).value = .ok () ∧
      ((∃ transition,
          (machine.moveTo request.target transition loader).value = (moved, left)) ∨
        machine.requiresLoading.contains request.target = true ∧
          (machine.moveThroughLoading request.target loader).value = (moved, left)) := by
  cases request with
  | switch target =>
    obtain ⟨known, ⟨requires, -, through⟩ | ⟨-, direct⟩⟩ := switchState_cases met
    · exact ⟨known, .inr ⟨requires, through⟩⟩
    · exact ⟨known, .inl ⟨.fade, direct⟩⟩
  | enterScene target =>
    change (machine.enterScene target loader).value = _ at met
    unfold enterScene at met
    simp only [Logged.value_bind] at met
    split at met
    · cases met
    · next known => exact ⟨known, .inl ⟨.cut, Except.ok.inj met⟩⟩

/-- A request is met by a change to some state, or not at all. -/
theorem fulfil_moved {machine : Machine} (sound : machine.Sound) (told : machine.Told)
    (request : Request) (loader : ℓ) {moved : Machine} {left : ℓ}
    (met : (machine.fulfil loader request).value = .ok (moved, left)) :
    ∃ target, machine.Moved moved target := by
  obtain ⟨-, ⟨transition, direct⟩ | ⟨-, through⟩⟩ := fulfil_cases met
  · have change := moveTo_moved sound told request.target transition loader
    rw [direct] at change
    exact ⟨_, change⟩
  · have change := moveThroughLoading_moved sound told request.target loader
    rw [through] at change
    exact ⟨_, change⟩

/-- A change is the same from every machine of one standing and one queue. -/
theorem Moved.of_agrees {machine other moved : Machine} {target : StateKind}
    (change : other.Moved moved target) (agrees : machine.Agrees other)
    (same : other.queue = machine.queue) : machine.Moved moved target where
  sound := change.sound
  current := change.current
  previous := change.previous.trans agrees.current
  roamless := change.roamless
  told := change.told
  queue := by
    rw [change.queue, same, agrees.current]
    unfold farewell
    rw [agrees.subKind, agrees.active?]

/-- Nothing is left to tell by the sub-states of a machine with an empty queue. -/
theorem told_of_queue {machine : Machine} (told : machine.queue = []) : machine.Told :=
  fun _ => (List.append_eq_nil_iff.1 told).2

/-- What the sub-states have to tell does not depend on what states ask for. -/
theorem OnlyAsks.told {machine other : Machine} (asks : machine.OnlyAsks other)
    (told : machine.Told) : other.Told := by
  intro elsewhere
  rw [asks.agrees.active?] at elsewhere
  unfold subNotices
  rw [asks.subMachine?]
  exact told elsewhere

/-- The request of the current state is dropped, or met by a change of state. -/
theorem processRequest_cases {machine : Machine} (sound : machine.Sound) (told : machine.Told)
    (loader : ℓ) :
    machine.OnlyAsks (machine.processRequest loader).value.2.1 ∨
      ∃ target, machine.Moved (machine.processRequest loader).value.2.1 target := by
  unfold processRequest
  split
  · exact .inl (.refl machine)
  · next request _ =>
    have asks := machine.dropRequest_onlyAsks
    dsimp only
    rw [Logged.value_bind]
    split
    · next moved left met =>
      obtain ⟨target, change⟩ :=
        fulfil_moved (asks.agrees.sound sound) (asks.told told) request loader met
      exact .inr ⟨target, change.of_agrees asks.agrees asks.queue⟩
    · exact .inl asks

/-- Asking for the scene of the current state changes nothing, or ends the wait of a machine none
of whose states is active. -/
theorem pollScene_cases {machine : Machine} (sound : machine.Sound) (told : machine.Told)
    (loader : ℓ) :
    (machine.pollScene loader).value.1 = machine ∨
      machine.active? = none ∧ (machine.pollScene loader).value.1.Sound ∧
        (machine.pollScene loader).value.1.current = machine.current ∧
        (machine.pollScene loader).value.1.previous = machine.previous ∧
        (machine.pollScene loader).value.1.subKind? = none ∧
        (machine.pollScene loader).value.1.subNotices = [] ∧
        (machine.pollScene loader).value.1.queue = machine.queue ++
          ((machine.pollScene loader).value.1.active?.map Notice.entered).toList := by
  unfold pollScene
  split
  · next ticket current waiting standing =>
    have inactive : machine.active? = none := sound.waits (by simp [waiting])
    have silent : machine.subNotices = [] := told (by simp [inactive])
    have vacant : Vacant { machine with pending := none } :=
      vacant_of_inactive sound silent inactive (fun _ => rfl) rfl rfl
    dsimp only
    split
    · obtain ⟨entered, arrived, previous, roamless, quiet, queue⟩ := enter_spec vacant standing
      exact .inr ⟨inactive, entered, arrived.trans standing.symm, previous, roamless, quiet, queue⟩
    · split
      · refine .inr ⟨inactive, vacant.sound, rfl, rfl, vacant.roamless, vacant.told, ?_⟩
        change machine.queue = machine.queue ++ (machine.active?.map Notice.entered).toList
        rw [inactive]
        simp
      · exact .inl rfl
  · exact .inl rfl

/-- No state of a plan is active, and none has anything to tell. -/
theorem ofPlan_vacant (plan : StatePlan) (tracing : Tracing) :
    (ofPlan plan tracing).Vacant ∧ (ofPlan plan tracing).queue = [] := by
  have resting : ∀ kind state, (ofPlan plan tracing).state? kind = some state →
      ∃ scene sub, state = .resting scene sub ∧
        (sub = none ∨ sub = some (.ofKinds plan.subStates)) := by
    intro kind state found
    have member := SortedMap.mem_of_mem_ofList (SortedMap.mem_of_get? found)
    obtain ⟨known, -, same⟩ := List.mem_map.1 member
    obtain ⟨rfl, rfl⟩ := Prod.mk.inj same
    refine ⟨_, _, rfl, ?_⟩
    split
    · exact .inr rfl
    · exact .inl rfl
  have inactive : ∀ kind, (ofPlan plan tracing).isActive kind = false := by
    intro kind
    unfold isActive
    cases found : (ofPlan plan tracing).state? kind with
    | none => rfl
    | some state =>
      obtain ⟨scene, sub, rfl, -⟩ := resting kind state found
      rfl
  have silent : (ofPlan plan tracing).subKind? = none ∧
      (ofPlan plan tracing).subNotices = [] := by
    unfold subKind? subNotices subMachine?
    cases found : (ofPlan plan tracing).state? .freeRoam with
    | none => exact ⟨rfl, rfl⟩
    | some state =>
      obtain ⟨scene, sub, rfl, none | some⟩ := resting .freeRoam state found
      · rw [none]
        exact ⟨rfl, rfl⟩
      · rw [some]
        exact ⟨rfl, rfl⟩
  exact ⟨⟨inactive, rfl, silent.1, silent.2⟩, silent.2⟩

end Narrative.Machine
