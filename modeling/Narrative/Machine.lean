import Narrative.Config
import Narrative.Machine.SubMachine
import Narrative.Scene

/-!
# The state machine

At most one state is active, and it is the current one. A state becomes current at once and
active when its scene is loaded, or at once if it has none. A state that requires loading is
reached through the loading state, which is made when it is first needed and remembers where it
leads. A state asks for its successor by a request, and every change waits as a notice until it
is told.
-/

namespace Narrative

/-- One state of the game. -/
structure GameState where
  /-- The scene to load before it is entered. -/
  scene : Option String
  /-- Whether it is active. -/
  active : Bool
  /-- Where the loading state leads. -/
  target : Option StateKind
  /-- The successor it asks for. -/
  request : Option Request
  /-- The sub-states of free roam. -/
  subMachine : Option SubMachine
  deriving DecidableEq

/-- A state that is not active. -/
def GameState.resting (scene : Option String) (subMachine : Option SubMachine) : GameState :=
  ⟨scene, false, none, none, subMachine⟩

/-- The states of the game. -/
structure Machine where
  /-- The states there are. -/
  states : SortedMap StateKind GameState
  /-- The scene of the loading state. -/
  loadingScene : Option String
  /-- The states that are reached through the loading state. -/
  requiresLoading : SortedSet StateKind
  /-- The current state. -/
  current : Option StateKind
  /-- The state before it. -/
  previous : Option StateKind
  /-- The load that the current state waits for. -/
  pending : Option Ticket
  /-- The changes that were not told yet, oldest first. -/
  notices : List Notice
  /-- The filter of the log. -/
  tracing : Tracing
  deriving DecidableEq

namespace Machine

variable {ℓ : Type}

/-- The states of a plan, none of which is current. The loading state is not among them. -/
def ofPlan (plan : StatePlan) (tracing : Tracing) : Machine where
  states := .ofList <|
    (plan.registered.members.filter (· != .loading)).map fun kind =>
      (kind, .resting (plan.scene? kind)
        (if kind = .freeRoam then some (.ofKinds plan.subStates) else none))
  loadingScene := plan.scene? .loading
  requiresLoading := plan.requiresLoading
  current := none
  previous := none
  pending := none
  notices := []
  tracing := tracing

/-- The state of a kind. -/
def state? (machine : Machine) (kind : StateKind) : Option GameState := machine.states.get? kind

/-- Whether the state of a kind is active. -/
def isActive (machine : Machine) (kind : StateKind) : Bool := (machine.state? kind).any (·.active)

/-- The active state. -/
def active? (machine : Machine) : Option StateKind := machine.current.filter machine.isActive

/-- Whether the current state waits for its scene. -/
def isLoadingScene (machine : Machine) : Bool := machine.pending.isSome

/-- The number of states. -/
def size (machine : Machine) : Nat := machine.states.toList.length

/-- Where the loading state leads, while it is current. -/
def loadingTarget? (machine : Machine) : Option StateKind :=
  if machine.current = some .loading then (machine.state? .loading).bind GameState.target else none

/-- The sub-states of free roam, whether it is active or not. -/
def subMachine? (machine : Machine) : Option SubMachine :=
  (machine.state? .freeRoam).bind GameState.subMachine

/-- The sub-states of free roam, while it is active. -/
def freeRoam (machine : Machine) : Except MachineError SubMachine :=
  if machine.active? = some .freeRoam then
    match machine.subMachine? with
    | some sub => .ok sub
    | none => .error .notFreeRoam
  else .error .notFreeRoam

/-- The machine with other sub-states of free roam. -/
def withSubMachine (machine : Machine) (sub : SubMachine) : Machine :=
  { machine with
    states := machine.states.modify .freeRoam fun state => { state with subMachine := some sub } }

/-- Refuse a state that there is not. The loading state is never asked for by name. -/
def lookup (machine : Machine) (kind : StateKind) : Logged (Except MachineError Unit) :=
  if kind ≠ .loading ∧ machine.states.contains kind then pure (.ok ())
  else do
    Logged.note .error .machine s!"game state {kind} does not exist"
    pure (.error (.unknownState kind))

/-- Queue what the sub-states have not told yet. -/
def drainSubNotices (machine : Machine) : Machine :=
  match machine.subMachine? with
  | none => machine
  | some sub =>
    let (notices, sub) := sub.takeNotices
    { machine.withSubMachine sub with notices := machine.notices ++ notices }

/-- Leave the current state, if it is active, and forget what it waits and asks for. -/
def exitCurrent (machine : Machine) : Logged Machine :=
  let machine := { machine with pending := none }
  match machine.current with
  | none => pure machine
  | some current =>
    match machine.state? current with
    | none => pure machine
    | some state =>
      if state.active then do
        let state :=
          { state with
            request := none, active := false, subMachine := state.subMachine.map SubMachine.exit }
        let machine := { machine with states := machine.states.insert current state }
        let machine := machine.drainSubNotices
        machine.tracing.note .machine .debug s!"[Machine] exited {current}"
        pure { machine with notices := machine.notices ++ [.exited current] }
      else
        pure { machine with
          states := machine.states.insert current { state with request := none } }

/-- Make a state the current one. -/
def changeTo (machine : Machine) (next : StateKind) : Logged Machine := do
  let left := machine.current.elim "none" StateKind.name
  machine.tracing.note .machine .info s!"[Machine] {left} -> {next}"
  pure { machine with
    previous := machine.current
    current := some next
    notices := machine.notices ++ [.changed machine.current next] }

/-- Make a state active. -/
def enter (machine : Machine) (kind : StateKind) : Logged Machine :=
  match machine.state? kind with
  | none => pure machine
  | some state => do
    machine.tracing.note .machine .debug s!"[Machine] entered {kind}"
    pure { machine with
      states := machine.states.insert kind { state with active := true, request := none }
      notices := machine.notices ++ [.entered kind] }

/-- Load the scene of the current state, or enter the state if it has none. -/
def loadOrEnter [SceneLoader ℓ] (machine : Machine) (kind : StateKind) (transition : Transition)
    (loader : ℓ) : Logged (Machine × ℓ) :=
  match (machine.state? kind).bind GameState.scene with
  | some scene => do
    Logged.note .debug .machine s!"loading scene {scene} for {kind}"
    let (ticket, loader) := SceneLoader.load loader scene transition
    pure ({ machine with pending := some ticket }, loader)
  | none => do
    let machine ← machine.enter kind
    pure (machine, loader)

/-- Leave the current state for another, whose scene is loaded first. -/
def moveTo [SceneLoader ℓ] (machine : Machine) (next : StateKind) (transition : Transition)
    (loader : ℓ) : Logged (Machine × ℓ) := do
  let machine ← machine.exitCurrent
  let machine ← machine.changeTo next
  machine.loadOrEnter next transition loader

/-- The machine with a loading state that leads to a target. -/
def withLoading (machine : Machine) (target : StateKind) : Logged Machine :=
  match machine.state? .loading with
  | some state =>
    pure { machine with
      states := machine.states.insert .loading { state with target := some target } }
  | none => do
    Logged.note .debug .machine "synthesized Loading state"
    pure { machine with
      states := machine.states.insert .loading
        { GameState.resting machine.loadingScene none with target := some target } }

/-- Leave the current state for the loading state, which leads to a target. -/
def moveThroughLoading [SceneLoader ℓ] (machine : Machine) (target : StateKind) (loader : ℓ) :
    Logged (Machine × ℓ) := do
  let machine ← machine.exitCurrent
  let machine ← machine.withLoading target
  let machine ← machine.changeTo .loading
  machine.loadOrEnter .loading .fade loader

/-- Enter a state without loading its scene. -/
def enterState (machine : Machine) (kind : StateKind) : Logged (Except MachineError Machine) := do
  match ← machine.lookup kind with
  | .error error => pure (.error error)
  | .ok () => do
    let machine ← machine.exitCurrent
    let machine ← machine.changeTo kind
    let machine ← machine.enter kind
    pure (.ok machine)

/-- Change to a state, through the loading state if it requires that and the loading state does
not already lead to it. -/
def switchState [SceneLoader ℓ] (machine : Machine) (next : StateKind) (loader : ℓ) :
    Logged (Except MachineError (Machine × ℓ)) := do
  match ← machine.lookup next with
  | .error error => pure (.error error)
  | .ok () =>
    if machine.requiresLoading.contains next ∧ machine.loadingTarget? ≠ some next then do
      let moved ← machine.moveThroughLoading next loader
      pure (.ok moved)
    else do
      let moved ← machine.moveTo next .fade loader
      pure (.ok moved)

/-- Change to a state at once, whatever loading it requires. -/
def enterScene [SceneLoader ℓ] (machine : Machine) (next : StateKind) (loader : ℓ) :
    Logged (Except MachineError (Machine × ℓ)) := do
  match ← machine.lookup next with
  | .error error => pure (.error error)
  | .ok () => do
    let moved ← machine.moveTo next .cut loader
    pure (.ok moved)

/-- Ask for the scene of the current state, and enter the state if it is there. -/
def pollScene [SceneLoader ℓ] (machine : Machine) (loader : ℓ) : Logged (Machine × ℓ) :=
  match machine.pending, machine.current with
  | some ticket, some current => do
    let (phase, loader) := SceneLoader.poll loader ticket
    if phase.isReady then do
      let machine ← { machine with pending := none }.enter current
      pure (machine, loader)
    else if phase = .failed then do
      Logged.note .error .machine
        s!"scene load for {current} failed; the state stays inactive"
      pure ({ machine with pending := none }, loader)
    else pure (machine, loader)
  | _, _ => pure (machine, loader)

/-- Report that a request gives way to another. -/
def reportReplaced (next : Request) : Option Request → Logged Unit
  | none => pure ()
  | some previous =>
    Logged.note .warn .machine
      s!"{previous.text} replaced by {next.text} before it was handled"

/-- The active state asks for a successor, in place of the one it asked for before. -/
def request (machine : Machine) (next : Request) : Logged Machine :=
  match machine.active?.bind fun kind => (machine.state? kind).map fun state => (kind, state) with
  | none => do
    Logged.note .warn .machine s!"{next.text} requested with no active state"
    pure machine
  | some (kind, state) => do
    reportReplaced next state.request
    pure { machine with
      states := machine.states.insert kind { state with request := some next } }

/-- The request of the current state. -/
def pendingRequest? (machine : Machine) : Option Request :=
  (machine.current.bind machine.state?).bind GameState.request

/-- The machine without the request of its current state. -/
def dropRequest (machine : Machine) : Machine :=
  match machine.current with
  | none => machine
  | some current =>
    { machine with
      states := machine.states.modify current fun state => { state with request := none } }

/-- Change state as a request asks. -/
def fulfil [SceneLoader ℓ] (machine : Machine) (loader : ℓ) :
    Request → Logged (Except MachineError (Machine × ℓ))
  | .switch target => machine.switchState target loader
  | .enterScene target => machine.enterScene target loader

/-- Meet the request of the current state, if it has one. The request is used up even if it
cannot be met. -/
def processRequest [SceneLoader ℓ] (machine : Machine) (loader : ℓ) :
    Logged (Option (Except MachineError StateKind) × Machine × ℓ) :=
  match machine.pendingRequest? with
  | none => pure (none, machine, loader)
  | some request => do
    let machine := machine.dropRequest
    match ← machine.fulfil loader request with
    | .ok (machine, loader) => pure (some (.ok request.target), machine, loader)
    | .error error => pure (some (.error error), machine, loader)

/-- The changes that were not told yet, and the machine without them. -/
def takeNotices (machine : Machine) : List Notice × Machine :=
  let machine := machine.drainSubNotices
  (machine.notices, { machine with notices := [] })

end Machine

end Narrative
