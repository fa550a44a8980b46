import Narrative.Lint.Issue
import Narrative.Lint.Settings

/-!
# Wiring

Every graph has exactly one node that starts it, no port points past the last node, and every
port that a walk follows is wired.
-/

namespace Narrative.Lint

/-- The ports that a walk may follow out of a node. -/
class Wired (κ : Type) extends NodeKind κ where
  /-- The names of the ports, each with the severity of leaving it unwired. -/
  followed : κ → List (String × Severity)

/-- The ports of the options of a branch. -/
def optionPorts (count : Nat) : List (String × Severity) :=
  (List.range count).map fun index => (Port.option index, .error)

instance : Wired DialogNode where
  followed
    | .start => [(Port.exit, .error)]
    | .line _ => [(Port.exit, .error)]
    | .event _ => [(Port.exit, .error)]
    | .branch _ options => optionPorts options.length
    | .finish => []

/-- A content node without an exit is offered for good. -/
instance : Wired OfferNode where
  followed
    | .start => [(Port.exit, .error)]
    | .content .. => []
    | .branch options => optionPorts options.length
    | .finish => []

instance : Wired ScenarioNode where
  followed
    | .start => [(Port.exit, .error)]
    | .condition _ => [(Port.exit, .error)]
    | .branch options => optionPorts options.length
    | .enterScene _ => [(Port.exit, .warning)]
    | .sceneChange _ => [(Port.exit, .warning)]
    | .event _ => [(Port.exit, .warning)]
    | .cutIn => [(Port.exit, .warning)]
    | .ending _ => []

variable {κ : Type} [Wired κ]

/-- The nodes that could start a graph. -/
def starts (graph : Graph κ) : List NodeId :=
  graph.ids.filter fun id => (graph.kind? id).any NodeKind.isStart

/-- A graph without a node that starts it, or with more than one. -/
def startIssues (place : Place) (graph : Graph κ) : List Issue :=
  match starts graph with
  | [] => [⟨place, none, .startMissing⟩]
  | first :: extra => extra.map fun id => ⟨place, some id, .startRepeated first⟩

/-- Ports of a node that point past the last node of its graph. -/
def danglingPorts (graph : Graph κ) (node : Node κ) : List Fault :=
  node.ports.filterMap fun port =>
    match port.target with
    | none => none
    | some target => if graph.size ≤ target then some (.portDangling port.name target) else none

/-- Ports that a walk follows and that point nowhere. -/
def unwiredPorts (node : Node κ) : List Fault :=
  (Wired.followed node.kind).filterMap fun (port, severity) =>
    match node.connection? port with
    | none => some (.portUnwired severity port (NodeKind.label node.kind))
    | some _ => none

/-- What is wrong with the wiring of a graph. -/
def graphWiring (settings : WiringSettings) (place : Place) (graph : Graph κ) : List Issue :=
  startIssues place graph ++
    atNodes place graph fun node =>
      danglingPorts graph node ++ if settings.unconnectedPorts then unwiredPorts node else []

/-- A dialog that has another name than the one it is stored under. -/
def nameIssues (key : String) (dialog : DialogGraph) : List Issue :=
  if dialog.name = key then [] else [⟨.dialog key, none, .misnamed key dialog.name⟩]

/-- What is wrong with the wiring of a bundle. -/
def wiringIssues (settings : WiringSettings) (bundle : Bundle) : List Issue :=
  bundle.scenario.elim [] (fun scenario =>
      graphWiring settings (.scenario scenario.name) scenario)
    ++ bundle.dialogs.toList.flatMap (fun (key, dialog) =>
      nameIssues key dialog ++ graphWiring settings (.dialog key) dialog.graph)
    ++ bundle.offers.toList.flatMap fun (key, offers) => graphWiring settings (.offers key) offers

end Narrative.Lint
