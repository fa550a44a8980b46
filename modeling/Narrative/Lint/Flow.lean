import Narrative.Graph.Reachable
import Narrative.Lint.Issue
import Narrative.Lint.Settings

/-!
# Flow

Every node can be reached from the start of its graph, and every branch that the conditions
decide has an option that is always open.
-/

namespace Narrative.Lint

/-- The nodes that no walk from the start comes to. Further nodes that could start the graph are
not counted: that they are there is an issue of its own. -/
def unreached {κ : Type} [NodeKind κ] (graph : Graph κ) : List NodeId :=
  match graph.start? with
  | none => []
  | some start =>
    let reached := graph.reachable start
    graph.ids.filter fun id =>
      !reached.contains id && !(graph.kind? id).any NodeKind.isStart

/-- The nodes of a graph that cannot be reached. -/
def graphReachability {κ : Type} [NodeKind κ] (place : Place) (graph : Graph κ) : List Issue :=
  (unreached graph).map fun id => ⟨place, some id, .unreachable⟩

/-- The nodes of a bundle that cannot be reached. -/
def reachabilityIssues (bundle : Bundle) : List Issue :=
  bundle.scenario.elim [] (fun scenario => graphReachability (.scenario scenario.name) scenario)
    ++ bundle.dialogs.toList.flatMap (fun (key, dialog) =>
      graphReachability (.dialog key) dialog.graph)
    ++ bundle.offers.toList.flatMap fun (key, offers) => graphReachability (.offers key) offers

/-- Whether there are options and all have a condition. -/
def canFail {α : Type} [Candidate α] (options : List α) : Bool :=
  !options.isEmpty && options.all fun option => (Candidate.condition option).isSome

/-- What is wrong with a branch that the conditions decide. -/
def branchFaults {α : Type} [Candidate α] (options : List α) : List Fault :=
  if canFail options then [.fallbackMissing] else []

/-- What is wrong with a branch that the player decides. -/
def choiceFaults (options : List DialogOption) : List Fault :=
  (if options.isEmpty then [.choiceEmpty] else [])
    ++ options.zipIdx.filterMap fun (option, index) =>
      if option.condition.isSome then some (.conditionIgnored index) else none

/-- What is wrong with a node of the scenario, if it is a branch. -/
def scenarioFlow : ScenarioNode → List Fault
  | .branch options => branchFaults options
  | _ => []

/-- What is wrong with a node of an offer graph, if it is a branch. -/
def offerFlow : OfferNode → List Fault
  | .branch options => branchFaults options
  | _ => []

/-- What is wrong with a node of a dialog, if it is a branch. -/
def dialogFlow : DialogNode → List Fault
  | .branch .player options => choiceFaults options
  | .branch .automatic options => branchFaults options
  | _ => []

/-- A character that can have nothing to offer. -/
def selectionIssues (name : String) (selection : Selection) : List Issue :=
  if canFail selection.entries then [⟨.character name, none, .characterSilent⟩] else []

/-- The branches of a bundle that need not have an open option. -/
def fallbackIssues (bundle : Bundle) : List Issue :=
  bundle.scenario.elim [] (fun scenario =>
      atNodes (.scenario scenario.name) scenario fun node => scenarioFlow node.kind)
    ++ bundle.offers.toList.flatMap (fun (key, offers) =>
      atNodes (.offers key) offers fun node => offerFlow node.kind)
    ++ bundle.dialogs.toList.flatMap (fun (key, dialog) =>
      atNodes (.dialog key) dialog.graph fun node => dialogFlow node.kind)
    ++ bundle.characters.toList.flatMap fun (name, selection) => selectionIssues name selection

/-- What is wrong with the flow of a bundle. -/
def flowIssues (settings : FlowSettings) (bundle : Bundle) : List Issue :=
  (if settings.reachability then reachabilityIssues bundle else [])
    ++ if settings.fallback then fallbackIssues bundle else []

end Narrative.Lint
