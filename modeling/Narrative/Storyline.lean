import Narrative.Scenario.Graph

/-!
# Storylines

A storyline is a place in the scenario. Each advance moves on to the next node that asks for
something, and reports what that is; nodes that only route the walk are passed on the way.
-/

namespace Narrative

/-- What an advance asks for. -/
inductive StoryStep where
  /-- Enter a state at once. -/
  | enterState (target : StateKind)
  /-- Change to a state, through loading where it needs that. -/
  | switchState (target : StateKind)
  /-- Play a dialog, perhaps the last one. -/
  | playDialog (dialog : String) (ending : Bool)
  /-- Show a scene cut into the play. -/
  | cutIn
  /-- Nothing, since the walk cannot go on from where it stands. -/
  | waiting
  /-- Nothing, since there is no scenario. -/
  | idle
  deriving DecidableEq, Repr

/-- How a step is shown in the log. -/
def StoryStep.text : StoryStep → String
  | enterState target => s!"EnterState({target})"
  | switchState target => s!"SwitchState({target})"
  | playDialog dialog ending =>
    Text.structured "PlayDialog" [("dialog", Text.quoted dialog), ("ending", toString ending)]
  | cutIn => "CutIn"
  | waiting => "Waiting"
  | idle => "Idle"

/-- A place in the scenario. -/
structure Storyline where
  /-- The scenario. -/
  graph : Option ScenarioGraph
  /-- The node it stands on; none if the scenario has no start. -/
  node : Option NodeId
  /-- The dialog of the last step that played one. -/
  dialog : Option String
  /-- Whether it was reported already that there is nothing to advance. -/
  idleReported : Bool
  /-- The filter of the log. -/
  tracing : Tracing
  deriving DecidableEq

namespace Storyline

/-- A storyline without a scenario. -/
def empty (tracing : Tracing) : Storyline := ⟨none, none, none, false, tracing⟩

/-- The node that starts a scenario; that there is none is reported. -/
def startOf (graph : ScenarioGraph) : Logged (Option NodeId) :=
  match graph.start with
  | .ok node => pure (some node)
  | .error error => do
    Logged.note .error .engine error.message
    pure none

/-- The storyline at the start of a scenario. -/
def load (storyline : Storyline) (graph : Option ScenarioGraph) : Logged Storyline :=
  match graph with
  | some graph => do
    let node ← startOf graph
    pure ⟨some graph, node, none, false, storyline.tracing⟩
  | none => do
    Logged.note .error .engine "no scenario graph is set"
    pure ⟨none, none, none, false, storyline.tracing⟩

/-- The storyline at the start of its scenario. -/
def reset (storyline : Storyline) : Logged Storyline :=
  match storyline.graph with
  | some graph => do
    let node ← startOf graph
    pure { storyline with node := node, dialog := none, idleReported := false }
  | none => pure { storyline with node := none, dialog := none, idleReported := false }

/-- Whether there is a scenario to advance. -/
def isLoaded (storyline : Storyline) : Bool := storyline.graph.isSome && storyline.node.isSome

/-- Where an advance came to. -/
structure Arrival where
  /-- The node it stands on. -/
  node : NodeId
  /-- What it asks for. -/
  step : StoryStep
  /-- The flags. -/
  flags : Flags

/-- The port by which a walk leaves a node; none if no option of a branch is open. -/
def wayOut (graph : ScenarioGraph) (node : NodeId) (flags : Flags) : Logged (Option String) :=
  match graph.kind? node with
  | some (.branch options) => do
    match ← Branch.resolve flags options with
    | some index => pure (some (Port.option index))
    | none => do
      Logged.note .warn .flow s!"scenario branch {node.text} has no satisfied option"
      pure none
  | _ => pure (some Port.exit)

/-- Leave a node; none if there is no way. -/
def leave (graph : ScenarioGraph) (node : NodeId) (flags : Flags) : Logged (Option NodeId) := do
  match ← wayOut graph node flags with
  | none => pure none
  | some port =>
    match graph.connected? node port with
    | some next => pure (some next)
    | none => do
      Logged.note .warn .flow s!"scenario '{graph.name}' dead end at {node.text} on port '{port}'"
      pure none

/-- What a node asks for; none for a node that only routes the walk. -/
def stepOf : ScenarioNode → Option StoryStep
  | .start => none
  | .branch _ => none
  | .condition _ => none
  | .enterScene target => some (.enterState target)
  | .sceneChange target => some (.switchState target)
  | .event dialog => some (.playDialog dialog false)
  | .ending dialog => some (.playDialog dialog true)
  | .cutIn => some .cutIn

/-- Pass a node: a condition raises its flag. -/
def pass (kind : ScenarioNode) (flags : Flags) : Logged Flags :=
  match kind with
  | .condition flag => Prod.snd <$> flags.activate flag
  | _ => pure flags

/-- Walk from a node, passing at most some number of others, until one asks for something. -/
def walk (tracing : Tracing) (graph : ScenarioGraph) (bound : Nat) (node : NodeId)
    (flags : Flags) : Logged Arrival :=
  match bound with
  | 0 => do
    Logged.note .error .flow s!"scenario '{graph.name}' cycles through pass-through nodes"
    pure ⟨node, .waiting, flags⟩
  | bound + 1 => do
    match ← leave graph node flags with
    | none => pure ⟨node, .waiting, flags⟩
    | some next =>
      match graph.kind? next with
      | none => pure ⟨next, .waiting, flags⟩
      | some kind => do
        tracing.note .engine .debug s!"[Scenario] at {next.text} ({NodeKind.label kind})"
        match stepOf kind with
        | some step => pure ⟨next, step, flags⟩
        | none => do
          let flags ← pass kind flags
          walk tracing graph bound next flags

/-- The dialog of the last step that played one, after a further step. -/
def dialogAfter (dialog : Option String) : StoryStep → Option String
  | .playDialog name _ => some name
  | _ => dialog

/-- Move on to the next node that asks for something. A walk that passes more nodes than the
scenario has is given up. -/
def advance (storyline : Storyline) (flags : Flags) : Logged (StoryStep × Storyline × Flags) :=
  match storyline.graph, storyline.node with
  | some graph, some node => do
    let arrival ← walk storyline.tracing graph (graph.size + 1) node flags
    let storyline :=
      { storyline with
        node := some arrival.node
        dialog := dialogAfter storyline.dialog arrival.step
        idleReported := false }
    pure (arrival.step, storyline, arrival.flags)
  | _, _ => do
    if !storyline.idleReported then
      Logged.note .warn .engine "advance called with no scenario loaded"
    pure (.idle, { storyline with idleReported := true }, flags)

end Storyline

end Narrative
