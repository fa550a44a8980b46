import Narrative.Machine
import Narrative.Proofs.SortedMap

/-!
# The standing of a machine

What counts about a machine between two operations is which state is current, whether it is
active, what it waits for, and which sub-state of free roam is current. This is its standing;
requests and notices come and go without changing it. `Machine.Sound` is what every standing
keeps to, and the notices are read as one queue, those of the sub-states last.
-/

namespace Narrative

namespace SubMachine

/-- A replaced sub-state changes neither the current one nor the notices. -/
@[simp]
theorem current_replace (machine : SubMachine) (kind : SubKind) (state : SubState) :
    (machine.replace kind state).current = machine.current := rfl

@[simp]
theorem notices_replace (machine : SubMachine) (kind : SubKind) (state : SubState) :
    (machine.replace kind state).notices = machine.notices := rfl

/-- A replaced sub-state is still there. -/
@[simp]
theorem isRegistered_replace (machine : SubMachine) (kind wanted : SubKind) (state : SubState) :
    (machine.replace kind state).isRegistered wanted = machine.isRegistered wanted :=
  SortedMap.contains_modify ..

/-- No sub-state is current once the current one was left. -/
@[simp]
theorem current_exit (machine : SubMachine) : machine.exit.current = none := by
  unfold exit
  split
  · next none => exact none
  · rfl

/-- Leaving the current sub-state is told. -/
theorem notices_exit (machine : SubMachine) :
    machine.exit.notices = machine.notices ++ (machine.current.map Notice.subExited).toList := by
  unfold exit
  split
  · next none => simp [none]
  · next some => simp [some]

@[simp]
theorem current_enter (machine : SubMachine) (next : SubKind) :
    (machine.enter next).current = some next := rfl

@[simp]
theorem notices_enter (machine : SubMachine) (next : SubKind) :
    (machine.enter next).notices = machine.notices ++ [.subEntered next] := rfl

/-- A switch succeeds exactly for the sub-states there are. -/
theorem switchTo_value (machine : SubMachine) (next : SubKind) :
    (machine.switchTo next).value =
      if machine.isRegistered next then .ok (machine.exit.enter next)
      else .error (.unknownSubState next) := by
  unfold switchTo
  split <;> rfl

/-- A request changes neither the current sub-state nor the notices. -/
theorem request_keeps (machine : SubMachine) (next : SubKind) :
    (machine.request next).value.current = machine.current ∧
      (machine.request next).value.notices = machine.notices := by
  unfold request
  split <;> exact ⟨rfl, rfl⟩

/-- A dropped request changes neither the current sub-state nor the notices. -/
theorem dropRequest_keeps (machine : SubMachine) :
    machine.dropRequest.current = machine.current ∧
      machine.dropRequest.notices = machine.notices := by
  unfold dropRequest
  split <;> exact ⟨rfl, rfl⟩

/-- Meeting the request of the current sub-state changes it to another one, or leaves it. -/
theorem processRequest_cases (machine : SubMachine) :
    (machine.processRequest.value.2.current = machine.current ∧
        machine.processRequest.value.2.notices = machine.notices) ∨
      ∃ left next, machine.current = some left ∧
        machine.processRequest.value.2.current = some next ∧
        machine.processRequest.value.2.notices =
          machine.notices ++ [.subExited left, .subEntered next] := by
  unfold processRequest
  split
  · exact .inl ⟨rfl, rfl⟩
  · next next asked =>
    obtain ⟨current, notices⟩ := machine.dropRequest_keeps
    dsimp only
    rw [Logged.value_bind, switchTo_value]
    split
    · next switched same =>
      split at same
      · obtain rfl := Except.ok.inj same
        unfold pendingRequest? at asked
        obtain ⟨state, found, -⟩ := Option.bind_eq_some_iff.1 asked
        obtain ⟨left, standing, -⟩ := Option.bind_eq_some_iff.1 found
        refine .inr ⟨left, next, standing, rfl, ?_⟩
        change (machine.dropRequest.exit.enter next).notices = _
        rw [notices_enter, notices_exit, current, notices, standing]
        simp
      · cases same
    · exact .inl ⟨current, notices⟩

end SubMachine

/-- A state without what it asks for. -/
def GameState.silent (state : GameState) : GameState := { state with request := none }

namespace Machine

/-- The sub-state of free roam that is current. -/
def subKind? (machine : Machine) : Option SubKind := machine.subMachine?.bind SubMachine.current

/-- What the sub-states have not told yet. -/
def subNotices (machine : Machine) : List Notice := machine.subMachine?.elim [] SubMachine.notices

/-- The changes that were not told yet, in the order in which they will be. -/
def queue (machine : Machine) : List Notice := machine.notices ++ machine.subNotices

/-- Two machines of one standing. -/
structure Agrees (machine other : Machine) : Prop where
  /-- The same state is current. -/
  current : other.current = machine.current
  /-- The same load is waited for. -/
  pending : other.pending = machine.pending
  /-- The same states are active. -/
  active : ∀ kind, other.isActive kind = machine.isActive kind
  /-- The same sub-state of free roam is current. -/
  subKind : other.subKind? = machine.subKind?

/-- What the standing of a machine keeps to. -/
structure Sound (machine : Machine) : Prop where
  /-- Only the current state can be active. -/
  single : ∀ kind, machine.isActive kind = true → machine.current = some kind
  /-- A state that waits for its scene is not active. -/
  waits : machine.pending ≠ none → machine.active? = none
  /-- A sub-state of free roam is current only while free roam is active. -/
  roams : machine.subKind? ≠ none → machine.active? = some .freeRoam

namespace Agrees

/-- Every machine has its own standing. -/
theorem refl (machine : Machine) : machine.Agrees machine := ⟨rfl, rfl, fun _ => rfl, rfl⟩

/-- Two steps that keep the standing keep it together. -/
theorem trans {first second third : Machine} (left : first.Agrees second)
    (right : second.Agrees third) : first.Agrees third :=
  ⟨right.current.trans left.current, right.pending.trans left.pending,
    fun kind => (right.active kind).trans (left.active kind), right.subKind.trans left.subKind⟩

variable {machine other : Machine}

/-- Machines of one standing have the same active state. -/
theorem active? (agrees : machine.Agrees other) : other.active? = machine.active? := by
  unfold Machine.active?
  rw [agrees.current]
  exact congrArg (Option.filter · machine.current) (funext agrees.active)

/-- Soundness depends on the standing alone. -/
theorem sound (agrees : machine.Agrees other) (sound : machine.Sound) : other.Sound where
  single kind active := by
    rw [agrees.current]
    exact sound.single kind (agrees.active kind ▸ active)
  waits pending := by
    rw [agrees.active?]
    exact sound.waits (agrees.pending ▸ pending)
  roams roaming := by
    rw [agrees.active?]
    exact sound.roams (agrees.subKind ▸ roaming)

end Agrees

/-- The active state is the current one. -/
theorem active?_eq_some_iff {machine : Machine} {kind : StateKind} :
    machine.active? = some kind ↔ machine.current = some kind ∧ machine.isActive kind = true := by
  simp [active?, Option.filter_eq_some_iff]

/-- Where no state is active, none is the active one. -/
theorem active?_eq_none_of_inactive {machine : Machine}
    (inactive : ∀ kind, machine.isActive kind = false) : machine.active? = none := by
  cases found : machine.active? with
  | none => rfl
  | some kind =>
    have active := (active?_eq_some_iff.1 found).2
    rw [inactive] at active
    contradiction

section Insert

variable {machine other : Machine} {key : StateKind} {state : GameState}

/-- The states after one of them was replaced. -/
theorem state?_of_insert (written : other.states = machine.states.insert key state)
    (kind : StateKind) :
    other.state? kind = if kind = key then some state else machine.state? kind := by
  unfold state?
  rw [written]
  split
  · next same => rw [same, SortedMap.get?_insert_self]
  · next different => rw [SortedMap.get?_insert_of_ne _ _ different]

/-- The active states after one state was replaced. -/
theorem isActive_of_insert (written : other.states = machine.states.insert key state)
    (kind : StateKind) :
    other.isActive kind = if kind = key then state.active else machine.isActive kind := by
  unfold isActive
  rw [state?_of_insert written]
  split <;> rfl

/-- The sub-states after one state was replaced. -/
theorem subMachine?_of_insert (written : other.states = machine.states.insert key state) :
    other.subMachine? = if key = .freeRoam then state.subMachine else machine.subMachine? := by
  unfold subMachine?
  rw [state?_of_insert written]
  by_cases same : key = .freeRoam
  · rw [if_pos same.symm, if_pos same]
    rfl
  · rw [if_neg (Ne.symm same), if_neg same]

/-- A replaced state with the same sub-states leaves the sub-states of free roam as they are. -/
theorem subMachine?_of_insert_same {before : GameState} (found : machine.state? key = some before)
    (written : other.states = machine.states.insert key state)
    (sub : state.subMachine = before.subMachine) :
    other.subMachine? = machine.subMachine? := by
  rw [subMachine?_of_insert written]
  split
  · next roam =>
    unfold subMachine?
    rw [← roam, found, sub]
    rfl
  · rfl

/-- A replaced state that is as active as before and has the same sub-states changes nothing that
the standing depends on. -/
theorem agrees_of_insert (other : Machine) {before : GameState}
    (found : machine.state? key = some before)
    (written : other.states = machine.states.insert key state)
    (active : state.active = before.active)
    (sub : state.subMachine = before.subMachine)
    (current : other.current = machine.current) (pending : other.pending = machine.pending) :
    machine.Agrees other ∧ other.subMachine? = machine.subMachine? := by
  have same : other.subMachine? = machine.subMachine? :=
    subMachine?_of_insert_same found written sub
  refine ⟨⟨current, pending, fun kind => ?_, ?_⟩, same⟩
  · rw [isActive_of_insert written]
    split
    · next equal =>
      unfold isActive
      rw [equal, found, active]
      rfl
    · rfl
  · unfold subKind?
    rw [same]

end Insert

/-- Machines with the same notices and the same sub-states have the same queue. -/
theorem queue_congr {machine other : Machine} (notices : other.notices = machine.notices)
    (sub : other.subMachine? = machine.subMachine?) : other.queue = machine.queue := by
  unfold queue subNotices
  rw [notices, sub]

/-- With an empty queue, neither the machine nor its sub-states have anything to tell. -/
theorem notices_of_queue {machine : Machine} {sub : SubMachine} (told : machine.queue = [])
    (found : machine.subMachine? = some sub) : machine.notices = [] ∧ sub.notices = [] := by
  unfold queue subNotices at told
  rw [found] at told
  exact List.append_eq_nil_iff.1 told

section WithSubMachine

variable {machine : Machine} {sub : SubMachine}

/-- Replacing the sub-states of free roam activates and leaves no state. -/
@[simp]
theorem isActive_withSubMachine (machine : Machine) (sub : SubMachine) (kind : StateKind) :
    (machine.withSubMachine sub).isActive kind = machine.isActive kind := by
  unfold isActive state? withSubMachine
  by_cases roam : kind = .freeRoam
  · rw [roam, SortedMap.get?_modify_self]
    cases machine.states.get? StateKind.freeRoam <;> rfl
  · rw [SortedMap.get?_modify_of_ne _ _ roam]

@[simp]
theorem current_withSubMachine (machine : Machine) (sub : SubMachine) :
    (machine.withSubMachine sub).current = machine.current := rfl

@[simp]
theorem active?_withSubMachine (machine : Machine) (sub : SubMachine) :
    (machine.withSubMachine sub).active? = machine.active? := by
  unfold active?
  rw [current_withSubMachine]
  exact congrArg (Option.filter · machine.current) (funext (isActive_withSubMachine machine sub))

/-- The sub-states of free roam are those that were put in place of the old ones. -/
theorem subMachine?_withSubMachine {old : SubMachine} (found : machine.subMachine? = some old)
    (sub : SubMachine) : (machine.withSubMachine sub).subMachine? = some sub := by
  unfold subMachine? state? at found ⊢
  unfold withSubMachine
  rw [SortedMap.get?_modify_self]
  cases state : machine.states.get? StateKind.freeRoam with
  | none => simp [state] at found
  | some state => rfl

/-- The current sub-state is that of the sub-states that were put in place. -/
theorem subKind?_withSubMachine {old : SubMachine} (found : machine.subMachine? = some old)
    (sub : SubMachine) : (machine.withSubMachine sub).subKind? = sub.current := by
  unfold subKind?
  rw [subMachine?_withSubMachine found]
  rfl

/-- The sub-states that there are, put in their own place, change nothing. -/
theorem withSubMachine_of_found (found : machine.subMachine? = some sub) :
    machine.withSubMachine sub = machine := by
  obtain ⟨state, known, same⟩ := Option.bind_eq_some_iff.1 found
  unfold withSubMachine
  rw [SortedMap.modify_of_fixed known (by rw [← same])]

/-- Sub-states that were put in place of others that were put in place before. -/
theorem withSubMachine_withSubMachine (machine : Machine) (first second : SubMachine) :
    (machine.withSubMachine first).withSubMachine second = machine.withSubMachine second := by
  unfold withSubMachine
  dsimp only
  rw [SortedMap.modify_modify fun _ => rfl]

/-- Sub-states of which the same one is current leave the standing as it is. -/
theorem agrees_withSubMachine {old : SubMachine} (found : machine.subMachine? = some old)
    (current : sub.current = old.current) : machine.Agrees (machine.withSubMachine sub) := by
  refine ⟨rfl, rfl, isActive_withSubMachine machine sub, ?_⟩
  rw [subKind?_withSubMachine found, current]
  unfold subKind?
  rw [found]
  rfl

/-- The queue with other sub-states. -/
theorem queue_withSubMachine {old : SubMachine} (found : machine.subMachine? = some old)
    (sub : SubMachine) : (machine.withSubMachine sub).queue = machine.notices ++ sub.notices := by
  unfold queue subNotices
  rw [subMachine?_withSubMachine found]
  rfl

/-- Sub-states with the same to tell leave the queue as it is. -/
theorem queue_withSubMachine_of_same {old : SubMachine} (found : machine.subMachine? = some old)
    (notices : sub.notices = old.notices) : (machine.withSubMachine sub).queue = machine.queue := by
  rw [queue_withSubMachine found, notices]
  unfold queue subNotices
  rw [found]
  rfl

/-- The sub-states of free roam while it is active. -/
theorem freeRoam_eq_ok_iff :
    machine.freeRoam = .ok sub ↔
      machine.active? = some .freeRoam ∧ machine.subMachine? = some sub := by
  unfold freeRoam
  split
  · next active => cases machine.subMachine? <;> simp [active]
  · next inactive => simp [inactive]

/-- Other sub-states of free roam, while it is active, leave the machine as orderly as it was. -/
theorem Sound.withSubMachine {old : SubMachine} (sound : machine.Sound)
    (roam : machine.freeRoam = .ok old) (sub : SubMachine) :
    (machine.withSubMachine sub).Sound where
  single kind on := sound.single kind (by rwa [isActive_withSubMachine] at on)
  waits pending := by
    rw [active?_withSubMachine]
    exact sound.waits pending
  roams _ := by
    rw [active?_withSubMachine]
    exact (freeRoam_eq_ok_iff.1 roam).1

end WithSubMachine

/-- Handing on the notices of the sub-states keeps the standing and the queue, and leaves none with
them. -/
theorem drainSubNotices_spec (machine : Machine) :
    machine.Agrees machine.drainSubNotices ∧
      machine.drainSubNotices.notices = machine.queue ∧
      machine.drainSubNotices.subNotices = [] := by
  unfold drainSubNotices
  split
  · next none =>
    refine ⟨.refl machine, ?_, ?_⟩
    · simp [queue, subNotices, none]
    · simp [subNotices, none]
  · next sub found =>
    have agrees : machine.Agrees (machine.withSubMachine sub.takeNotices.2) :=
      agrees_withSubMachine found rfl
    refine ⟨⟨agrees.current, agrees.pending, agrees.active, agrees.subKind⟩, ?_, ?_⟩
    · simp only [queue, subNotices, found]
      rfl
    · unfold subNotices
      change (machine.withSubMachine sub.takeNotices.2).subMachine?.elim [] _ = []
      rw [subMachine?_withSubMachine found]
      rfl

/-- Every notice of the queue is told at once, in order. -/
@[simp]
theorem takeNotices_fst (machine : Machine) : machine.takeNotices.1 = machine.queue :=
  (drainSubNotices_spec machine).2.1

/-- Telling the notices keeps the standing. -/
theorem agrees_takeNotices (machine : Machine) : machine.Agrees machine.takeNotices.2 :=
  let agrees := (drainSubNotices_spec machine).1
  ⟨agrees.current, agrees.pending, agrees.active, agrees.subKind⟩

/-- Telling the notices keeps what was left last. -/
theorem previous_takeNotices (machine : Machine) :
    machine.takeNotices.2.previous = machine.previous := by
  change machine.drainSubNotices.previous = machine.previous
  unfold drainSubNotices
  split <;> rfl

/-- Telling the notices takes those of the sub-states, and leaves the sub-states as they are. -/
theorem subMachine?_takeNotices (machine : Machine) :
    machine.takeNotices.2.subMachine? =
      machine.subMachine?.map fun sub => sub.takeNotices.2 := by
  change machine.drainSubNotices.subMachine? = _
  unfold drainSubNotices
  split
  · next none => rw [none, Option.map_none]
  · next sub found =>
    rw [found]
    exact subMachine?_withSubMachine found _

/-- No notice is left once they were told. -/
@[simp]
theorem queue_takeNotices (machine : Machine) : machine.takeNotices.2.queue = [] :=
  (drainSubNotices_spec machine).2.2

/-- A machine that is another one but for what its states ask for. -/
structure OnlyAsks (machine other : Machine) : Prop where
  /-- Nothing but the states differs. -/
  rest : other = { machine with states := other.states }
  /-- The states differ in nothing but their requests. -/
  states : ∀ kind, (other.state? kind).map GameState.silent =
    (machine.state? kind).map GameState.silent

namespace OnlyAsks

variable {machine other : Machine}

/-- Every machine asks for what it asks for. -/
theorem refl (machine : Machine) : machine.OnlyAsks machine := ⟨rfl, fun _ => rfl⟩

/-- Two such steps in a row. -/
theorem trans {third : Machine} (first : machine.OnlyAsks other) (second : other.OnlyAsks third) :
    machine.OnlyAsks third where
  rest := by rw [second.rest, first.rest]
  states kind := (second.states kind).trans (first.states kind)

/-- One state was replaced by another that differs in its request. -/
theorem of_insert {key : StateKind} {state asking : GameState}
    (known : machine.state? key = some state) (same : asking.silent = state.silent) :
    machine.OnlyAsks { machine with states := machine.states.insert key asking } := by
  refine ⟨rfl, fun kind => ?_⟩
  rw [state?_of_insert rfl]
  split
  · next equal => rw [equal, known, Option.map_some, Option.map_some, same]
  · rfl

/-- The sub-states are the same. -/
theorem subMachine? (asks : machine.OnlyAsks other) :
    other.subMachine? = machine.subMachine? := by
  have silent (state : Option GameState) :
      state.bind GameState.subMachine = (state.map GameState.silent).bind GameState.subMachine := by
    cases state <;> rfl
  unfold Machine.subMachine?
  rw [silent, asks.states, ← silent]

/-- The standing is the same. -/
theorem agrees (asks : machine.OnlyAsks other) : machine.Agrees other where
  current := by rw [asks.rest]
  pending := by rw [asks.rest]
  active kind := by
    have silent (state : Option GameState) :
        state.any GameState.active = (state.map GameState.silent).any GameState.active := by
      cases state <;> rfl
    unfold isActive
    rw [silent, asks.states, ← silent]
  subKind := by
    unfold subKind?
    rw [asks.subMachine?]

/-- The queue is the same. -/
theorem queue (asks : machine.OnlyAsks other) : other.queue = machine.queue :=
  queue_congr (by rw [asks.rest]) asks.subMachine?

end OnlyAsks

/-- A request changes nothing but what a state asks for. -/
theorem request_onlyAsks (machine : Machine) (next : Request) :
    machine.OnlyAsks (machine.request next).value := by
  unfold request
  split
  · exact .refl machine
  · next kind state found =>
    obtain ⟨asked, -, found⟩ := Option.bind_eq_some_iff.1 found
    obtain ⟨asker, known, same⟩ := Option.map_eq_some_iff.1 found
    obtain ⟨rfl, rfl⟩ := Prod.mk.inj same
    exact .of_insert known rfl

/-- A request that is used up changes nothing but what a state asks for. -/
theorem dropRequest_onlyAsks (machine : Machine) : machine.OnlyAsks machine.dropRequest := by
  unfold dropRequest
  split
  · exact .refl machine
  · next current standing =>
    unfold SortedMap.modify
    cases known : machine.states.get? current with
    | none => exact .refl machine
    | some state => exact .of_insert known rfl

end Machine

end Narrative
