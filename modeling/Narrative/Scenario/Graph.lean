import Narrative.Dialog.Graph

/-!
# Scenario graphs

The scenario is the graph of the story as a whole: it moves the game from state to state and plays
the dialogs that every player sees.
-/

namespace Narrative

/-- A node of the scenario. -/
inductive ScenarioNode where
  /-- Where the scenario starts. -/
  | start
  /-- Enter a state at once. -/
  | enterScene (target : StateKind)
  /-- Change to a state, through loading where it needs that. -/
  | sceneChange (target : StateKind)
  /-- Go on once a flag is raised, which passing here does. -/
  | condition (flag : String)
  /-- A branch that the conditions decide. -/
  | branch (options : List BranchOption)
  /-- Play a dialog. -/
  | event (dialog : String)
  /-- Play the last dialog. -/
  | ending (dialog : String)
  /-- A scene cut into the play. -/
  | cutIn
  deriving DecidableEq

namespace ScenarioNode

instance : NodeKind ScenarioNode where
  isStart
    | start => true
    | _ => false
  label
    | start => "Start"
    | enterScene _ => "EnterScene"
    | sceneChange _ => "SceneChange"
    | condition _ => "Condition"
    | branch _ => "Branch"
    | event _ => "Event"
    | ending _ => "Ending"
    | cutIn => "CutIn"

/-- The stored form. -/
def format : Format ScenarioNode :=
  Format.tagged "type"
    [.plain "Start" start (· == start),
      .record "EnterScene" (.field (.required "target" Format.stateKind) .done)
        (fun (target, ()) => enterScene target) fun
        | enterScene target => some (target, ())
        | _ => none,
      .record "SceneChange" (.field (.required "target" Format.stateKind) .done)
        (fun (target, ()) => sceneChange target) fun
        | sceneChange target => some (target, ())
        | _ => none,
      .record "Condition" (.field (.required "flag" Format.text) .done)
        (fun (flag, ()) => condition flag) fun
        | condition flag => some (flag, ())
        | _ => none,
      .record "Branch" (.field (.required "options" (Format.list BranchOption.format)) .done)
        (fun (options, ()) => branch options) fun
        | branch options => some (options, ())
        | _ => none,
      .record "Event" (.field (.required "dialog" Format.text) .done)
        (fun (dialog, ()) => event dialog) fun
        | event dialog => some (dialog, ())
        | _ => none,
      .record "Ending" (.field (.required "dialog" Format.text) .done)
        (fun (dialog, ()) => ending dialog) fun
        | ending dialog => some (dialog, ())
        | _ => none,
      .plain "CutIn" cutIn (· == cutIn)]

end ScenarioNode

/-- The graph of the story as a whole. -/
abbrev ScenarioGraph := Graph ScenarioNode

end Narrative
