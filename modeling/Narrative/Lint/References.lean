import Narrative.Lint.Issue
import Narrative.Lint.Settings

/-!
# References

A bundle refers to cells, dialogs and offer graphs by name, from many places. The references are
listed first; a name that is not declared is then found by looking at each of them, and a declared
cell that is not used by looking for it among all of them.
-/

namespace Narrative.Lint

/-- What is referred to. -/
inductive Target where
  /-- The cell that a condition reads. -/
  | condition (cell : CellRef)
  /-- A flag to raise. -/
  | flag (name : String)
  /-- A number to change. -/
  | unit (name : String)
  /-- A dialog to play or offer. -/
  | dialog (name : String)
  /-- An offer graph. -/
  | offers (name : String)
  deriving DecidableEq, Repr

namespace Target

/-- Whether a bundle has what is referred to. -/
def resolves (bundle : Bundle) : Target → Bool
  | condition cell => bundle.flags.declares cell
  | flag name => bundle.flags.flags.contains name
  | unit name => bundle.flags.units.contains name
  | dialog name => bundle.dialogs.contains name
  | offers name => bundle.offers.contains name

/-- What is wrong where a bundle does not have it. -/
def fault : Target → Fault
  | condition cell => .conditionUndeclared cell.name
  | flag name => .flagUndeclared name
  | unit name => .unitUndeclared name
  | dialog name => .dialogUnknown name
  | offers name => .offersUnknown name

/-- Whether the settings ask for it to be looked up. -/
def isChecked (settings : ReferenceSettings) : Target → Bool
  | condition _ => settings.states
  | flag _ => settings.states
  | unit _ => settings.states
  | dialog _ => settings.graphs
  | offers _ => settings.graphs

/-- The cell referred to. -/
def cell? : Target → Option CellRef
  | condition cell => some cell
  | flag name => some (.flag name)
  | unit name => some (.unit name)
  | _ => none

/-- The cell of a condition, where there is one. -/
def ofCondition (condition : Option Condition) : List Target :=
  (condition.map fun condition => Target.condition condition.cell).toList

/-- The cell that an effect changes. -/
def ofEffect : Effect → List Target
  | .activateFlag name => [.flag name]
  | .setValue cell _ => [.unit cell]
  | .addValue cell _ => [.unit cell]
  | .switchState _ => []
  | .emit _ => []

/-- What a node of the scenario refers to. -/
def ofScenarioNode : ScenarioNode → List Target
  | .condition name => [.flag name]
  | .branch options => options.flatMap fun option => ofCondition option.condition
  | .event name => [.dialog name]
  | .ending name => [.dialog name]
  | _ => []

/-- What a node of a dialog refers to. -/
def ofDialogNode : DialogNode → List Target
  | .branch _ options =>
    options.flatMap fun option => ofCondition option.condition ++ option.effects.flatMap ofEffect
  | .event effects => effects.flatMap ofEffect
  | _ => []

/-- What a node of an offer graph refers to. -/
def ofOfferNode : OfferNode → List Target
  | .content name guard => ofCondition guard ++ [.dialog name]
  | .branch options => options.flatMap fun option => ofCondition option.condition
  | _ => []

/-- What a choice of a selection refers to. -/
def ofEntry (entry : SelectionEntry) : List Target :=
  ofCondition entry.condition ++ [.offers entry.graph]

end Target

/-- A place that refers to something. -/
structure Reference where
  /-- The part of the bundle. -/
  place : Place
  /-- The node, if the reference is that of one node. -/
  node : Option NodeId
  /-- What is referred to. -/
  target : Target
  deriving DecidableEq, Repr

namespace Reference

/-- The references at the nodes of a graph, in the order of the nodes. -/
def ofGraph {κ : Type} (place : Place) (graph : Graph κ) (targets : κ → List Target) :
    List Reference :=
  graph.nodes.zipIdx.flatMap fun (node, id) =>
    (targets node.kind).map fun target => ⟨place, some id, target⟩

/-- The references of a bundle: those of the scenario, the dialogs, the offer graphs and the
characters. -/
def ofBundle (bundle : Bundle) : List Reference :=
  bundle.scenario.elim [] (fun scenario =>
      ofGraph (.scenario scenario.name) scenario Target.ofScenarioNode)
    ++ bundle.dialogs.toList.flatMap (fun (key, dialog) =>
      ofGraph (.dialog key) dialog.graph Target.ofDialogNode)
    ++ bundle.offers.toList.flatMap (fun (key, offers) =>
      ofGraph (.offers key) offers Target.ofOfferNode)
    ++ bundle.characters.toList.flatMap fun (name, selection) =>
      (selection.entries.flatMap Target.ofEntry).map fun target =>
        ⟨.character name, none, target⟩

/-- What is wrong with a reference. -/
def issue? (settings : ReferenceSettings) (bundle : Bundle) (reference : Reference) :
    Option Issue :=
  if reference.target.isChecked settings && !reference.target.resolves bundle then
    some ⟨reference.place, reference.node, reference.target.fault⟩
  else none

end Reference

/-- The declared cells that no reference is to. -/
def unusedIssues (bundle : Bundle) (references : List Reference) : List Issue :=
  let used := references.filterMap fun reference => reference.target.cell?
  (bundle.flags.units.keys.filter fun name => !used.contains (.unit name)).map
      (fun name => ⟨.flags, none, .unitUnused name⟩)
    ++ (bundle.flags.flags.keys.filter fun name => !used.contains (.flag name)).map
      fun name => ⟨.flags, none, .flagUnused name⟩

/-- What is wrong with the references of a bundle. -/
def referenceIssues (settings : ReferenceSettings) (bundle : Bundle) : List Issue :=
  let references := Reference.ofBundle bundle
  references.filterMap (Reference.issue? settings bundle)
    ++ if settings.unused then unusedIssues bundle references else []

end Narrative.Lint
