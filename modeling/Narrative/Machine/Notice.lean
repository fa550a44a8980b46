import Narrative.Format.Union
import Narrative.Kind
import Narrative.Text.Quoted

/-!
# Requests and notices

A state asks for its successor by a request, and every change of state is told by a notice.
-/

namespace Narrative

/-- What a state asks for. -/
inductive Request where
  /-- Change to a state, through loading where it needs that. -/
  | switch (target : StateKind)
  /-- Enter a state at once. -/
  | enterScene (target : StateKind)
  deriving DecidableEq, Repr

namespace Request

/-- The state asked for. -/
def target : Request → StateKind
  | switch target => target
  | enterScene target => target

/-- How a request is shown in the log. -/
def text : Request → String
  | switch target => s!"Switch({target})"
  | enterScene target => s!"EnterScene({target})"

/-- The stored form. -/
def format : Format Request :=
  Format.named
    [.holding "Switch" Format.stateKind switch fun
        | switch target => some target
        | _ => none,
      .holding "EnterScene" Format.stateKind enterScene fun
        | enterScene target => some target
        | _ => none]

end Request

/-- A change of state. -/
inductive Notice where
  /-- A state became the current one, in place of another. -/
  | changed (source : Option StateKind) (target : StateKind)
  /-- The current state became active. -/
  | entered (kind : StateKind)
  /-- The active state was left. -/
  | exited (kind : StateKind)
  /-- A sub-state of free roam became active. -/
  | subEntered (kind : SubKind)
  /-- The active sub-state of free roam was left. -/
  | subExited (kind : SubKind)
  deriving DecidableEq, Repr

namespace Notice

/-- How a state that may be missing is shown in the log. -/
def optionText (kind : Option StateKind) : String :=
  match kind with
  | some kind => s!"Some({kind})"
  | none => "None"

/-- How a notice is shown in the log. -/
def text : Notice → String
  | changed source target =>
    Text.structured "Changed" [("from", optionText source), ("to", target.name)]
  | entered kind => s!"Entered({kind})"
  | exited kind => s!"Exited({kind})"
  | subEntered kind => s!"SubEntered({kind})"
  | subExited kind => s!"SubExited({kind})"

/-- The two states of a change. -/
def changeFormat : Format (Option StateKind × StateKind) :=
  Format.record
    (.field (.nullable "from" Format.stateKind) <| .field (.required "to" Format.stateKind) .done)
    (fun (source, target, ()) => (source, target)) fun pair => (pair.1, pair.2, ())

/-- The stored form. -/
def format : Format Notice :=
  Format.named
    [.holding "Changed" changeFormat (fun pair => changed pair.1 pair.2) fun
        | changed source target => some (source, target)
        | _ => none,
      .holding "Entered" Format.stateKind entered fun
        | entered kind => some kind
        | _ => none,
      .holding "Exited" Format.stateKind exited fun
        | exited kind => some kind
        | _ => none,
      .holding "SubEntered" Format.subKind subEntered fun
        | subEntered kind => some kind
        | _ => none,
      .holding "SubExited" Format.subKind subExited fun
        | subExited kind => some kind
        | _ => none]

end Notice

/-- Why a change of state is refused. -/
inductive MachineError where
  /-- There is no such state. -/
  | unknownState (kind : StateKind)
  /-- Free roam has no such sub-state. -/
  | unknownSubState (kind : SubKind)
  /-- Free roam is not the active state. -/
  | notFreeRoam
  deriving DecidableEq, Repr

/-- The wording of an error. -/
def MachineError.message : MachineError → String
  | unknownState kind => s!"game state {kind} is not registered"
  | unknownSubState kind => s!"FreeRoam sub-state {kind} is not registered"
  | notFreeRoam => "FreeRoam is not the active game state"

end Narrative
