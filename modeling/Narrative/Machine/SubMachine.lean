import Narrative.Log
import Narrative.Machine.Notice

/-!
# Sub-states of free roam

The sub-states are there from the start and are only entered and left. At most one is current.
Only the current one can hold a request for its successor.
-/

namespace Narrative

/-- One sub-state. -/
structure SubState where
  /-- Whether it is active. -/
  active : Bool
  /-- The successor it asks for. -/
  request : Option SubKind
  deriving DecidableEq, Repr

namespace SubState

/-- A sub-state that is neither active nor asks for anything. -/
def resting : SubState := ⟨false, none⟩

/-- A sub-state that was just entered. -/
def entered : SubState := ⟨true, none⟩

end SubState

/-- The sub-states of free roam. -/
structure SubMachine where
  /-- The sub-states there are. -/
  subStates : SortedMap SubKind SubState
  /-- The current one. -/
  current : Option SubKind
  /-- The changes that were not told yet, oldest first. -/
  notices : List Notice
  deriving DecidableEq

namespace SubMachine

/-- Sub-states none of which is current. -/
def ofKinds (kinds : SortedSet SubKind) : SubMachine :=
  ⟨kinds.map fun _ => .resting, none, []⟩

/-- Whether there is a sub-state of a kind. -/
def isRegistered (machine : SubMachine) (kind : SubKind) : Bool := machine.subStates.contains kind

/-- The sub-state of a kind. -/
def state? (machine : SubMachine) (kind : SubKind) : Option SubState :=
  machine.subStates.get? kind

/-- The machine with one of its sub-states replaced. -/
def replace (machine : SubMachine) (kind : SubKind) (state : SubState) : SubMachine :=
  { machine with subStates := machine.subStates.modify kind fun _ => state }

/-- Leave the current sub-state, if there is one. -/
def exit (machine : SubMachine) : SubMachine :=
  match machine.current with
  | none => machine
  | some current =>
    let machine := machine.replace current .resting
    { machine with current := none, notices := machine.notices ++ [.subExited current] }

/-- Enter a sub-state of the machine, which has none that is current. -/
def enter (machine : SubMachine) (next : SubKind) : SubMachine :=
  let machine := machine.replace next .entered
  { machine with current := some next, notices := machine.notices ++ [.subEntered next] }

/-- Leave the current sub-state and enter another. -/
def switchTo (machine : SubMachine) (next : SubKind) : Logged (Except MachineError SubMachine) :=
  if machine.isRegistered next then do
    Logged.note .debug .machine s!"switched sub-state to {next}"
    pure (.ok (machine.exit.enter next))
  else do
    Logged.note .error .machine s!"sub-state {next} does not exist"
    pure (.error (.unknownSubState next))

/-- Report that a request gives way to another. -/
def reportReplaced (next : SubKind) : Option SubKind → Logged Unit
  | none => pure ()
  | some previous =>
    Logged.note .warn .machine
      s!"sub-state request {previous} replaced by {next} before it was handled"

/-- The current sub-state asks for a successor, in place of the one it asked for before. -/
def request (machine : SubMachine) (next : SubKind) : Logged SubMachine :=
  match machine.current.bind fun kind => (machine.state? kind).map fun state => (kind, state) with
  | none => do
    Logged.note .warn .machine s!"sub-state request {next} with no sub-state active"
    pure machine
  | some (kind, state) => do
    reportReplaced next state.request
    pure (machine.replace kind { state with request := some next })

/-- The request of the current sub-state. -/
def pendingRequest? (machine : SubMachine) : Option SubKind :=
  (machine.current.bind machine.state?).bind SubState.request

/-- The machine without the request of its current sub-state. -/
def dropRequest (machine : SubMachine) : SubMachine :=
  match machine.current.bind fun kind => (machine.state? kind).map fun state => (kind, state) with
  | none => machine
  | some (kind, state) => machine.replace kind { state with request := none }

/-- Meet the request of the current sub-state, if it has one. The request is used up even if it
cannot be met. -/
def processRequest (machine : SubMachine) :
    Logged (Option (Except MachineError SubKind) × SubMachine) :=
  match machine.pendingRequest? with
  | none => pure (none, machine)
  | some next => do
    let machine := machine.dropRequest
    match ← machine.switchTo next with
    | .ok machine => pure (some (.ok next), machine)
    | .error error => pure (some (.error error), machine)

/-- The changes that were not told yet, and the machine without them. -/
def takeNotices (machine : SubMachine) : List Notice × SubMachine :=
  (machine.notices, { machine with notices := [] })

end SubMachine

end Narrative
