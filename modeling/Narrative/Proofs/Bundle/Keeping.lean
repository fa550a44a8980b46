import Narrative.Bundle
import Narrative.Proofs.Format.Union

/-!
# What the stored form of a bundle keeps

Every part of a bundle is kept by its format, from the cells up to the bundle. Identifiers of
nodes are words of 64 bits, so a port is asked to point at one. The depths count the arrays and
objects a part is stored in.
-/

namespace Narrative

/-- References to cells are kept. -/
theorem CellRef.format_keeps (depth : Nat) (cell : CellRef) :
    CellRef.format.Keeps (depth + 1) cell := by
  apply Format.paired_keeps
  · decide
  · decide
  · simp only [List.forall_mem_cons]
    refine ⟨?_, ?_, List.forall_mem_nil _⟩
    · apply Variant.holding_keeps
      intro name found
      cases cell with
      | unit _ =>
        cases found
        exact ⟨Format.text_keeps depth _, rfl⟩
      | flag _ => cases found
    · apply Variant.holding_keeps
      intro name found
      cases cell with
      | unit _ => cases found
      | flag _ =>
        cases found
        exact ⟨Format.text_keeps depth _, rfl⟩
  · cases cell <;> simp [Variant.holding]

/-- Conditions are kept. -/
theorem Condition.format_keeps (depth : Nat) (condition : Condition) :
    Condition.format.Keeps (depth + 2) condition := by
  have comparison : Format.enumeration.Keeps (depth + 1) condition.comparison :=
    Format.enumeration_keeps _ (by decide) (by cases condition.comparison <;> decide)
  exact Format.record_keeps (by decide)
    ⟨CellRef.format_keeps depth condition.cell, comparison, trivial⟩ rfl

/-- Numbers with their requirements are kept. -/
theorem UnitCell.format_keeps (depth : Nat) (cell : UnitCell) :
    UnitCell.format.Keeps (depth + 1) cell :=
  Format.record_keeps (by decide)
    ⟨Format.integer64_keeps depth cell.initial, Format.integer64_keeps depth cell.current,
      Format.integer64_keeps depth cell.required, trivial⟩ rfl

/-- Truth values are kept. -/
theorem FlagCell.format_keeps (depth : Nat) (cell : FlagCell) :
    FlagCell.format.Keeps (depth + 1) cell :=
  Format.record_keeps (by decide)
    ⟨Format.boolean_keeps depth cell.initial, Format.boolean_keeps depth cell.raised, trivial⟩ rfl

/-- Declared cells are kept. -/
theorem Flags.format_keeps (depth : Nat) (flags : Flags) :
    Flags.format.Keeps (depth + 3) flags := by
  have units : (Format.sortedMap UnitCell.format).Keeps (depth + 2) flags.units :=
    Format.sortedMap_keeps (fun _ => rfl) fun _ _ => UnitCell.format_keeps depth _
  have raised : (Format.sortedMap FlagCell.format).Keeps (depth + 2) flags.flags :=
    Format.sortedMap_keeps (fun _ => rfl) fun _ _ => FlagCell.format_keeps depth _
  exact Format.record_keeps (by decide) ⟨units, raised, trivial⟩ rfl

/-- The kinds of state are kept. -/
theorem StateKind.format_keeps (depth : Nat) (kind : StateKind) :
    Format.stateKind.Keeps depth kind :=
  Format.enumeration_keeps depth (by decide) (by cases kind <;> decide)

/-- Speakers are kept. -/
theorem Speaker.format_keeps (depth : Nat) (speaker : Speaker) :
    Speaker.format.Keeps (depth + 1) speaker := by
  apply Format.named_keeps
  · decide
  · simp only [List.forall_mem_cons]
    refine ⟨?_, ?_, ?_, List.forall_mem_nil _⟩
    · exact Variant.plain_keeps fun same => eq_of_beq same
    · exact Variant.plain_keeps fun same => eq_of_beq same
    · apply Variant.holding_keeps
      intro name found
      cases speaker with
      | character _ =>
        cases found
        exact ⟨Format.text_keeps depth _, rfl⟩
      | _ => cases found
  · cases speaker <;> simp [Variant.plain, Variant.holding]

/-- Effects are kept. -/
theorem Effect.format_keeps (depth : Nat) (effect : Effect) :
    Effect.format.Keeps (depth + 1) effect := by
  apply Format.tagged_keeps
  · decide
  · simp only [List.forall_mem_cons]
    refine ⟨?_, ?_, ?_, ?_, ?_, List.forall_mem_nil _⟩
    · refine Alternative.record_keeps (by decide) (by decide) fun values found => ?_
      cases effect with
      | activateFlag _ =>
        cases found
        exact ⟨⟨Format.text_keeps depth _, trivial⟩, rfl⟩
      | _ => cases found
    · refine Alternative.record_keeps (by decide) (by decide) fun values found => ?_
      cases effect with
      | setValue _ _ =>
        cases found
        exact ⟨⟨Format.text_keeps depth _, Format.integer64_keeps depth _, trivial⟩, rfl⟩
      | _ => cases found
    · refine Alternative.record_keeps (by decide) (by decide) fun values found => ?_
      cases effect with
      | addValue _ _ =>
        cases found
        exact ⟨⟨Format.text_keeps depth _, Format.integer64_keeps depth _, trivial⟩, rfl⟩
      | _ => cases found
    · refine Alternative.record_keeps (by decide) (by decide) fun values found => ?_
      cases effect with
      | switchState _ =>
        cases found
        exact ⟨⟨StateKind.format_keeps depth _, trivial⟩, rfl⟩
      | _ => cases found
    · refine Alternative.record_keeps (by decide) (by decide) fun values found => ?_
      cases effect with
      | emit _ =>
        cases found
        exact ⟨⟨Format.text_keeps depth _, trivial⟩, rfl⟩
      | _ => cases found
  · cases effect <;> simp [Alternative.record]

/-- A condition or none is kept. -/
theorem Condition.optional_keeps (depth : Nat) (condition : Option Condition) :
    Condition.format.optional.Keeps (depth + 2) condition :=
  Format.optional_keeps Format.record_solid fun _ _ => Condition.format_keeps depth _

/-- A string or none is kept. -/
theorem Format.optionalText_keeps (depth : Nat) (value : Option String) :
    Format.text.optional.Keeps depth value :=
  Format.optional_keeps Format.text_solid fun _ _ => Format.text_keeps depth _

/-- Options of branches are kept. -/
theorem BranchOption.format_keeps (depth : Nat) (option : BranchOption) :
    BranchOption.format.Keeps (depth + 3) option :=
  Format.record_keeps (by decide)
    ⟨Condition.optional_keeps depth option.condition, Format.integer32_keeps _ option.priority,
      trivial⟩ rfl

/-- Options of branches in dialogs are kept. -/
theorem DialogOption.format_keeps (depth : Nat) (option : DialogOption) :
    DialogOption.format.Keeps (depth + 3) option := by
  have effects : (Format.list Effect.format).Keeps (depth + 2) option.effects :=
    Format.list_keeps fun _ _ => Effect.format_keeps depth _
  exact Format.record_keeps (by decide)
    ⟨Format.text_keeps _ option.text, Condition.optional_keeps depth option.condition,
      Format.integer32_keeps _ option.priority, effects, trivial⟩ rfl

/-- Nodes of dialogs are kept. -/
theorem DialogNode.format_keeps (depth : Nat) (node : DialogNode) :
    DialogNode.format.Keeps (depth + 5) node := by
  apply Format.tagged_keeps
  · decide
  · simp only [List.forall_mem_cons]
    refine ⟨?_, ?_, ?_, ?_, ?_, List.forall_mem_nil _⟩
    · exact Alternative.plain_keeps fun same => of_decide_eq_true same
    · refine Alternative.record_keeps (by decide) (by decide) fun values found => ?_
      cases node with
      | line _ =>
        cases found
        exact ⟨⟨Speaker.format_keeps (depth + 3) _, Format.text_keeps _ _,
          Format.optionalText_keeps _ _, trivial⟩, rfl⟩
      | _ => cases found
    · refine Alternative.record_keeps (by decide) (by decide) fun values found => ?_
      cases node with
      | branch decider options =>
        cases found
        have select : Format.enumeration.Keeps (depth + 4) decider :=
          Format.enumeration_keeps _ (by decide) (by cases decider <;> decide)
        have listed : (Format.list DialogOption.format).Keeps (depth + 4) options :=
          Format.list_keeps fun _ _ => DialogOption.format_keeps depth _
        exact ⟨⟨select, listed, trivial⟩, rfl⟩
      | _ => cases found
    · refine Alternative.record_keeps (by decide) (by decide) fun values found => ?_
      cases node with
      | event effects =>
        cases found
        have listed : (Format.list Effect.format).Keeps (depth + 4) effects :=
          Format.list_keeps fun _ _ => Effect.format_keeps (depth + 2) _
        exact ⟨⟨listed, trivial⟩, rfl⟩
      | _ => cases found
    · exact Alternative.plain_keeps fun same => of_decide_eq_true same
  · cases node <;> simp [Alternative.record, Alternative.plain]

/-- The options of a branch without lines are kept. -/
theorem BranchOption.list_keeps (depth : Nat) (options : List BranchOption) :
    (Format.list BranchOption.format).Keeps (depth + 4) options :=
  Format.list_keeps fun _ _ => BranchOption.format_keeps depth _

/-- Nodes of offer graphs are kept. -/
theorem OfferNode.format_keeps (depth : Nat) (node : OfferNode) :
    OfferNode.format.Keeps (depth + 5) node := by
  apply Format.tagged_keeps
  · decide
  · simp only [List.forall_mem_cons]
    refine ⟨?_, ?_, ?_, ?_, List.forall_mem_nil _⟩
    · exact Alternative.plain_keeps fun same => of_decide_eq_true same
    · refine Alternative.record_keeps (by decide) (by decide) fun values found => ?_
      cases node with
      | content _ guard =>
        cases found
        exact ⟨⟨Format.text_keeps _ _, Condition.optional_keeps (depth + 2) guard, trivial⟩, rfl⟩
      | _ => cases found
    · refine Alternative.record_keeps (by decide) (by decide) fun values found => ?_
      cases node with
      | branch options =>
        cases found
        exact ⟨⟨BranchOption.list_keeps depth options, trivial⟩, rfl⟩
      | _ => cases found
    · exact Alternative.plain_keeps fun same => of_decide_eq_true same
  · cases node <;> simp [Alternative.record, Alternative.plain]

/-- Nodes of scenarios are kept. -/
theorem ScenarioNode.format_keeps (depth : Nat) (node : ScenarioNode) :
    ScenarioNode.format.Keeps (depth + 5) node := by
  apply Format.tagged_keeps
  · decide
  · simp only [List.forall_mem_cons]
    refine ⟨?_, ?_, ?_, ?_, ?_, ?_, ?_, ?_, List.forall_mem_nil _⟩
    · exact Alternative.plain_keeps fun same => of_decide_eq_true same
    · refine Alternative.record_keeps (by decide) (by decide) fun values found => ?_
      cases node with
      | enterScene target =>
        cases found
        exact ⟨⟨StateKind.format_keeps _ target, trivial⟩, rfl⟩
      | _ => cases found
    · refine Alternative.record_keeps (by decide) (by decide) fun values found => ?_
      cases node with
      | sceneChange target =>
        cases found
        exact ⟨⟨StateKind.format_keeps _ target, trivial⟩, rfl⟩
      | _ => cases found
    · refine Alternative.record_keeps (by decide) (by decide) fun values found => ?_
      cases node with
      | condition flag =>
        cases found
        exact ⟨⟨Format.text_keeps _ flag, trivial⟩, rfl⟩
      | _ => cases found
    · refine Alternative.record_keeps (by decide) (by decide) fun values found => ?_
      cases node with
      | branch options =>
        cases found
        exact ⟨⟨BranchOption.list_keeps depth options, trivial⟩, rfl⟩
      | _ => cases found
    · refine Alternative.record_keeps (by decide) (by decide) fun values found => ?_
      cases node with
      | event dialog =>
        cases found
        exact ⟨⟨Format.text_keeps _ dialog, trivial⟩, rfl⟩
      | _ => cases found
    · refine Alternative.record_keeps (by decide) (by decide) fun values found => ?_
      cases node with
      | ending dialog =>
        cases found
        exact ⟨⟨Format.text_keeps _ dialog, trivial⟩, rfl⟩
      | _ => cases found
    · exact Alternative.plain_keeps fun same => of_decide_eq_true same
  · cases node <;> simp [Alternative.record, Alternative.plain]

/-- Whether a port points at no node or at an identifier of 64 bits. -/
def Port.Addressable (port : Port) : Prop := ∀ target ∈ port.target, target < UInt64.size

instance (port : Port) : Decidable port.Addressable :=
  inferInstanceAs (Decidable (∀ target ∈ port.target, target < UInt64.size))

/-- Ports are kept. -/
theorem Port.format_keeps (depth : Nat) {port : Port} (addressable : port.Addressable) :
    Port.format.Keeps (depth + 1) port := by
  have target : Format.natural.optional.Keeps depth port.target :=
    Format.optional_keeps Format.natural_solid fun target points =>
      Format.natural_keeps depth (addressable target points)
  exact Format.record_keeps (by decide) ⟨Format.text_keeps depth port.name, target, trivial⟩ rfl

namespace Graph

variable {κ : Type}

/-- Whether every port of a graph points at no node or at an identifier of 64 bits. -/
def Addressable (graph : Graph κ) : Prop :=
  ∀ node ∈ graph.nodes, ∀ port ∈ node.ports, port.Addressable

instance (graph : Graph κ) : Decidable graph.Addressable :=
  inferInstanceAs (Decidable (∀ node ∈ graph.nodes, ∀ port ∈ node.ports, port.Addressable))

/-- The fields of a graph are kept where its nodes are. -/
theorem layout_keeps (depth : Nat) {kind : Format κ} {graph : Graph κ}
    (addressable : graph.Addressable)
    (nodes : ∀ node ∈ graph.nodes, kind.Keeps (depth + 2) node.kind) :
    (layout kind).Keeps (depth + 4) (graph.name, graph.nodes, ()) := by
  have node : ∀ node ∈ graph.nodes, (Node.format kind).Keeps (depth + 3) node := by
    intro node member
    have ports : (Format.list Port.format).Keeps (depth + 2) node.ports :=
      Format.list_keeps fun port within =>
        Port.format_keeps depth (addressable node member port within)
    exact Format.record_keeps (show ["kind", "ports"].Nodup by decide)
      ⟨nodes node member, ports, trivial⟩ rfl
  exact ⟨Format.text_keeps _ graph.name, Format.list_keeps node, trivial⟩

/-- Graphs are kept where their nodes are. -/
theorem format_keeps (depth : Nat) {kind : Format κ} {graph : Graph κ}
    (addressable : graph.Addressable)
    (nodes : ∀ node ∈ graph.nodes, kind.Keeps (depth + 2) node.kind) :
    (format kind).Keeps (depth + 5) graph :=
  Format.record_keeps (show ["name", "nodes"].Nodup by decide)
    (layout_keeps depth addressable nodes) rfl

end Graph

/-- Dialogs are kept. -/
theorem DialogGraph.format_keeps (depth : Nat) {dialog : DialogGraph}
    (addressable : dialog.graph.Addressable) : DialogGraph.format.Keeps (depth + 8) dialog := by
  have graph : (Graph.layout DialogNode.format).Keeps (depth + 7)
      (dialog.graph.name, dialog.graph.nodes, ()) :=
    Graph.layout_keeps (depth + 3) addressable fun _ _ => DialogNode.format_keeps depth _
  exact Format.extended_keeps (by decide) graph
    ⟨Format.optionalText_keeps _ dialog.music, trivial⟩ rfl

/-- Selections of offer graphs are kept. -/
theorem Selection.format_keeps (depth : Nat) (selection : Selection) :
    Selection.format.Keeps (depth + 5) selection := by
  have entry : ∀ entry : SelectionEntry, SelectionEntry.format.Keeps (depth + 3) entry :=
    fun entry => Format.record_keeps (by decide)
      ⟨Condition.optional_keeps depth entry.condition, Format.text_keeps _ entry.graph,
        Format.integer32_keeps _ entry.priority, trivial⟩ rfl
  exact Format.record_keeps (by decide) ⟨Format.list_keeps fun _ _ => entry _, trivial⟩ rfl

namespace Bundle

/-- Whether every port of every graph points at no node or at an identifier of 64 bits. The node
may be missing. -/
structure Addressable (bundle : Bundle) : Prop where
  /-- The ports of the scenario. -/
  scenario : ∀ graph ∈ bundle.scenario, graph.Addressable
  /-- The ports of the dialogs. -/
  dialogs : ∀ entry ∈ bundle.dialogs.toList, entry.2.graph.Addressable
  /-- The ports of the offer graphs. -/
  offers : ∀ entry ∈ bundle.offers.toList, entry.2.Addressable

/-- Bundles are kept. -/
theorem format_keeps (depth : Nat) {bundle : Bundle} (addressable : bundle.Addressable) :
    format.Keeps (depth + 10) bundle := by
  have scenario : (Graph.format ScenarioNode.format).optional.Keeps (depth + 9) bundle.scenario :=
    Format.optional_keeps Format.record_solid fun graph present =>
      Graph.format_keeps (depth + 4) (addressable.scenario graph present) fun _ _ =>
        ScenarioNode.format_keeps (depth + 1) _
  have dialogs : (Format.sortedMap DialogGraph.format).Keeps (depth + 9) bundle.dialogs :=
    Format.sortedMap_keeps (fun _ => rfl) fun entry member =>
      DialogGraph.format_keeps depth (addressable.dialogs entry member)
  have offers : (Format.sortedMap (Graph.format OfferNode.format)).Keeps (depth + 9)
      bundle.offers :=
    Format.sortedMap_keeps (fun _ => rfl) fun entry member =>
      Graph.format_keeps (depth + 3) (addressable.offers entry member) fun _ _ =>
        OfferNode.format_keeps depth _
  have characters : (Format.sortedMap Selection.format).Keeps (depth + 9) bundle.characters :=
    Format.sortedMap_keeps (fun _ => rfl) fun _ _ => Selection.format_keeps (depth + 3) _
  exact Format.record_keeps (by decide)
    ⟨scenario, dialogs, offers, characters, Flags.format_keeps (depth + 6) bundle.flags, trivial⟩
    rfl

end Bundle

end Narrative
