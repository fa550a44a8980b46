import Narrative.Proofs.Machine.Transition

/-!
# Requests of a machine

The active state asks for its successor in a single slot: a request takes the place of the one
before. Meeting the request uses it up, whether it can be met or not. A state that was entered asks
for nothing yet, so that after every change of state the active state, if there is one, asks for
nothing.
-/

namespace Narrative

namespace SubMachine

/-- Sub-states as a game uses them: what the current one asks for can be met and is not another
conversation, and there is exploration to go back to. -/
structure Answerable (sub : SubMachine) : Prop where
  /-- A request is for another sub-state that there is. -/
  asked : ∀ next, sub.pendingRequest? = some next → sub.isRegistered next = true ∧ next ≠ .dialog
  /-- The current sub-state is there. -/
  standing : ∀ kind, sub.current = some kind → sub.isRegistered kind = true
  /-- Where a sub-state is current, exploration is there too. -/
  ready : sub.current ≠ none → sub.isRegistered .exploration = true

variable {sub other : SubMachine}

/-- Nothing is asked for where no sub-state is current. -/
theorem answerable_of_vacant (vacant : sub.current = none) : sub.Answerable where
  asked next asked := by
    unfold pendingRequest? at asked
    rw [vacant] at asked
    cases asked
  standing kind standing := by
    rw [vacant] at standing
    cases standing
  ready some := absurd vacant some

/-- What is told does not matter. -/
theorem Answerable.takeNotices (answerable : sub.Answerable) : sub.takeNotices.2.Answerable :=
  ⟨answerable.asked, answerable.standing, answerable.ready⟩

/-- A sub-state that was just entered asks for nothing. -/
theorem pendingRequest?_enter (sub : SubMachine) (next : SubKind) :
    (sub.enter next).pendingRequest? = none := by
  change ((sub.replace next .entered).state? next).bind SubState.request = none
  unfold state? replace
  rw [SortedMap.get?_modify_self]
  cases sub.subStates.get? next <;> rfl

/-- Leaving the current sub-state removes none. -/
theorem isRegistered_exit (sub : SubMachine) (kind : SubKind) :
    sub.exit.isRegistered kind = sub.isRegistered kind := by
  unfold exit
  split
  · rfl
  · exact isRegistered_replace ..

/-- A switch to a sub-state that there is leaves sub-states that can answer. -/
theorem answerable_switched {next : SubKind} (known : sub.isRegistered next = true)
    (ready : sub.isRegistered .exploration = true) : (sub.exit.enter next).Answerable := by
  have same (kind : SubKind) : (sub.exit.enter next).isRegistered kind = sub.isRegistered kind :=
    (isRegistered_replace sub.exit next kind .entered).trans (sub.isRegistered_exit kind)
  refine ⟨fun other asked => ?_, fun kind standing => ?_, fun _ => (same _).trans ready⟩
  · rw [pendingRequest?_enter] at asked
    cases asked
  · obtain rfl := Option.some.inj standing
    exact (same _).trans known

/-- The current sub-state, if it is there, asks for what it is made to ask for. -/
theorem pendingRequest?_request {kind : SubKind} (current : sub.current = some kind)
    (known : sub.isRegistered kind = true) (next : SubKind) :
    (sub.request next).value.pendingRequest? = some next := by
  obtain ⟨state, found⟩ := Option.isSome_iff_exists.1 known
  unfold request
  rw [current]
  change sub.state? kind = some state at found
  rw [Option.bind_some, found]
  unfold pendingRequest?
  change ((sub.current.bind (sub.replace kind _).state?)).bind _ = _
  rw [current, Option.bind_some]
  unfold state? at found ⊢
  unfold replace
  rw [SortedMap.get?_modify_self, found]
  rfl

/-- Asking for a sub-state keeps the current one, and keeps what there is. -/
theorem isRegistered_request (sub : SubMachine) (next kind : SubKind) :
    (sub.request next).value.isRegistered kind = sub.isRegistered kind := by
  unfold request
  split
  · rfl
  · exact isRegistered_replace ..

/-- A request for another sub-state that there is can be answered. -/
theorem Answerable.request (answerable : sub.Answerable) {next : SubKind}
    (known : sub.current ≠ none → sub.isRegistered next = true) (away : next ≠ .dialog) :
    (sub.request next).value.Answerable := by
  have current := (sub.request_keeps next).1
  cases standing : sub.current with
  | none => exact answerable_of_vacant (current.trans standing)
  | some kind =>
    refine ⟨fun asked same => ?_, fun other placed => ?_, fun _ => ?_⟩
    · rw [pendingRequest?_request standing (answerable.standing kind standing)] at same
      obtain rfl := Option.some.inj same
      rw [isRegistered_request]
      exact ⟨known (by simp [standing]), away⟩
    · rw [isRegistered_request]
      exact answerable.standing other (current.symm.trans placed)
    · rw [isRegistered_request]
      exact answerable.ready (by simp [standing])

/-- A request that is made stands instead of the one before, if any sub-state is current. -/
theorem Answerable.pending_request (answerable : sub.Answerable) (current : sub.current ≠ none)
    (next : SubKind) : (sub.request next).value.pendingRequest? ≠ none := by
  obtain ⟨kind, standing⟩ := Option.ne_none_iff_exists'.1 current
  rw [pendingRequest?_request standing (answerable.standing kind standing)]
  exact Option.some_ne_none _

/-- A request that can be answered is met by a switch away from the conversation. -/
theorem Answerable.processRequest (answerable : sub.Answerable) :
    sub.processRequest.value.2 = sub ∨
      sub.processRequest.value.2.Answerable ∧
        sub.processRequest.value.2.current ≠ some .dialog := by
  unfold SubMachine.processRequest
  split
  · exact .inl rfl
  · next next asked =>
    obtain ⟨known, away⟩ := answerable.asked next asked
    have current : sub.current ≠ none := by
      intro vacant
      unfold pendingRequest? at asked
      rw [vacant] at asked
      cases asked
    have same (kind : SubKind) : sub.dropRequest.isRegistered kind = sub.isRegistered kind := by
      unfold dropRequest
      split
      · rfl
      · exact isRegistered_replace ..
    dsimp only
    rw [Logged.value_bind, switchTo_value, if_pos ((same next).trans known)]
    refine .inr ⟨answerable_switched ((same _).trans known)
      ((same _).trans (answerable.ready current)), fun talking => away ?_⟩
    exact Option.some.inj talking

end SubMachine

namespace Machine

variable {machine other : Machine} {kind : StateKind}

/-- The current state asks for what was written for it. -/
theorem pendingRequest?_of_insert (current : other.current = some kind) (state : GameState)
    (written : other.states = machine.states.insert kind state) :
    other.pendingRequest? = state.request := by
  unfold pendingRequest?
  rw [current, Option.bind_some, state?_of_insert written, if_pos rfl]
  rfl

/-- The active state asks for what it was last made to ask for. -/
theorem pendingRequest?_request (active : machine.active? = some kind) (next : Request) :
    (machine.request next).value.pendingRequest? = some next := by
  obtain ⟨current, on⟩ := active?_eq_some_iff.1 active
  obtain ⟨state, known, -⟩ := (Option.any_eq_true _ _).1 on
  unfold request
  rw [active, Option.bind_some, known]
  let asking : GameState := { state with request := some next }
  let asked : Machine := { machine with states := machine.states.insert kind asking }
  have standing : asked.current = some kind := current
  exact pendingRequest?_of_insert standing asking rfl

/-- A request that was used up is gone. -/
theorem pendingRequest?_dropRequest (machine : Machine) :
    machine.dropRequest.pendingRequest? = none := by
  unfold dropRequest
  split
  · next vacant =>
    unfold pendingRequest?
    rw [vacant]
    rfl
  · next current standing =>
    change (machine.current.bind (SortedMap.get? _)).bind GameState.request = none
    rw [standing, Option.bind_some, SortedMap.get?_modify_self]
    cases machine.states.get? current <;> rfl

/-- What the sub-states of free roam are does not matter to the request. -/
theorem pendingRequest?_withSubMachine (machine : Machine) (sub : SubMachine) :
    (machine.withSubMachine sub).pendingRequest? = machine.pendingRequest? := by
  unfold pendingRequest? state? withSubMachine
  cases machine.current with
  | none => rfl
  | some kind =>
    rw [Option.bind_some, Option.bind_some]
    by_cases roam : kind = .freeRoam
    · rw [roam, SortedMap.get?_modify_self]
      cases machine.states.get? .freeRoam <;> rfl
    · rw [SortedMap.get?_modify_of_ne _ _ roam]

/-- Telling the changes leaves the request alone. -/
theorem pendingRequest?_takeNotices (machine : Machine) :
    machine.takeNotices.2.pendingRequest? = machine.pendingRequest? := by
  change machine.drainSubNotices.pendingRequest? = _
  unfold drainSubNotices
  split
  · rfl
  · next sub _ => exact machine.pendingRequest?_withSubMachine sub.takeNotices.2

/-- The active state, if there is one, asks for nothing. -/
def Unasked (machine : Machine) : Prop :=
  machine.active? ≠ none → machine.pendingRequest? = none

/-- Where no state is active, none asks. -/
theorem unasked_of_inactive (inactive : machine.active? = none) : machine.Unasked :=
  fun active => absurd inactive active

/-- A state that was entered asks for nothing. -/
theorem enter_unasked (current : machine.current = some kind) :
    (machine.enter kind).value.Unasked := by
  unfold enter
  split
  · next unknown =>
    intro _
    change (machine.current.bind machine.state?).bind GameState.request = none
    rw [current, Option.bind_some, unknown]
    rfl
  · next state _ =>
    let entered : GameState := { state with active := true, request := none }
    let moved : Machine :=
      { machine with
        states := machine.states.insert kind entered
        notices := machine.notices ++ [.entered kind] }
    have standing : moved.current = some kind := current
    exact fun _ => pendingRequest?_of_insert standing entered rfl

variable {ℓ : Type} [SceneLoader ℓ]

/-- Whether its scene has to be loaded or not, the state that becomes current asks for nothing. -/
theorem loadOrEnter_unasked (vacant : machine.Vacant) (current : machine.current = some kind)
    (transition : Transition) (loader : ℓ) :
    (machine.loadOrEnter kind transition loader).value.1.Unasked := by
  unfold loadOrEnter
  split
  · exact unasked_of_inactive (active?_eq_none_of_inactive vacant.inactive)
  · exact enter_unasked current

/-- After leaving the current state for another. -/
theorem moveTo_unasked (sound : machine.Sound) (told : machine.Told) (next : StateKind)
    (transition : Transition) (loader : ℓ) :
    (machine.moveTo next transition loader).value.1.Unasked := by
  obtain ⟨left, -⟩ := exitCurrent_spec sound told
  obtain ⟨named, arriving, -⟩ := changeTo_spec left next
  exact loadOrEnter_unasked named arriving transition loader

/-- After leaving the current state for the loading state. -/
theorem moveThroughLoading_unasked (sound : machine.Sound) (told : machine.Told)
    (target : StateKind) (loader : ℓ) :
    (machine.moveThroughLoading target loader).value.1.Unasked := by
  obtain ⟨left, -⟩ := exitCurrent_spec sound told
  obtain ⟨ready, -⟩ := withLoading_spec left target
  obtain ⟨named, arriving, -⟩ := changeTo_spec ready .loading
  exact loadOrEnter_unasked named arriving .fade loader

/-- After entering a state without loading its scene. -/
theorem enterState_unasked {moved : Machine}
    (entered : (machine.enterState kind).value = .ok moved) : moved.Unasked := by
  unfold enterState at entered
  simp only [Logged.value_bind] at entered
  split at entered
  · simp at entered
  · obtain rfl := Except.ok.inj entered
    exact enter_unasked rfl

/-- After a request was met. -/
theorem fulfil_unasked (sound : machine.Sound) (told : machine.Told) (request : Request)
    (loader : ℓ) {moved : Machine} {left : ℓ}
    (met : (machine.fulfil loader request).value = .ok (moved, left)) : moved.Unasked := by
  obtain ⟨-, ⟨transition, direct⟩ | ⟨-, through⟩⟩ := fulfil_cases met
  · have unasked := moveTo_unasked sound told request.target transition loader
    rw [direct] at unasked
    exact unasked
  · have unasked := moveThroughLoading_unasked sound told request.target loader
    rw [through] at unasked
    exact unasked

/-- Once the request of the current state was taken, whether it could be met or not, the active
state asks for nothing. -/
theorem processRequest_unasked (sound : machine.Sound) (told : machine.Told) (loader : ℓ) :
    (machine.processRequest loader).value.2.1.Unasked := by
  unfold processRequest
  split
  · next silent => exact fun _ => silent
  · next request _ =>
    have asks := machine.dropRequest_onlyAsks
    dsimp only
    rw [Logged.value_bind]
    split
    · next moved left met =>
      exact fulfil_unasked (asks.agrees.sound sound) (asks.told told) request loader met
    · exact fun _ => machine.pendingRequest?_dropRequest

/-- Asking for the scene of the current state changes nothing, or it ends the wait of a machine none
of whose states is active; then the active state, if there is one, asks for nothing. -/
theorem pollScene_unasked (sound : machine.Sound) (loader : ℓ) :
    (machine.pollScene loader).value.1 = machine ∨
      machine.active? = none ∧ (machine.pollScene loader).value.1.Unasked := by
  unfold pollScene
  split
  · next ticket current waiting standing =>
    have inactive : machine.active? = none := sound.waits (by simp [waiting])
    dsimp only
    split
    · exact .inr ⟨inactive, enter_unasked standing⟩
    · split
      · exact .inr ⟨inactive, unasked_of_inactive inactive⟩
      · exact .inl rfl
  · exact .inl rfl

end Machine

end Narrative
