import Mathlib.Tactic.ByContra
import Narrative.Lint
import Narrative.Proofs.Unresolved

/-!
# What a report without issues about references says

A report that has no issue about references vouches for every name in the bundle: each cell, each
dialog and each offer graph that is referred to is there. What a game evaluates and changes are
cells that some node or some selection refers to, so that it meets declared cells only as long as no
cell is taken away.
-/

namespace Narrative

open Lint (Reference Target)

namespace Bundle

/-- A bundle has all of what is referred to. -/
def HasAll (bundle : Bundle) (targets : List Target) : Prop :=
  ∀ target ∈ targets, target.resolves bundle = true

namespace HasAll

variable {bundle : Bundle} {target : Target} {targets first second : List Target}

/-- A bundle has what is referred to first. -/
theorem head (all : bundle.HasAll (target :: targets)) : target.resolves bundle = true :=
  all target List.mem_cons_self

/-- A bundle has what one part refers to. -/
theorem left (all : bundle.HasAll (first ++ second)) : bundle.HasAll first :=
  fun target member => all target (List.mem_append_left second member)

/-- A bundle has what the other part refers to. -/
theorem right (all : bundle.HasAll (first ++ second)) : bundle.HasAll second :=
  fun target member => all target (List.mem_append_right first member)

/-- A bundle has what one of several things refers to. -/
theorem of_mem {α : Type} {items : List α} {names : α → List Target}
    (all : bundle.HasAll (items.flatMap names)) {item : α} (member : item ∈ items) :
    bundle.HasAll (names item) :=
  fun target named => all target (List.mem_flatMap.2 ⟨item, member, named⟩)

end HasAll

end Bundle

/-- A bundle has all of what the nodes of a graph refer to. -/
def Graph.Resolves {κ : Type} (graph : Graph κ) (bundle : Bundle) (targets : κ → List Target) :
    Prop :=
  ∀ id kind, graph.kind? id = some kind → bundle.HasAll (targets kind)

/-- A bundle has all of what a dialog refers to. -/
def DialogGraph.Resolves (dialog : DialogGraph) (bundle : Bundle) : Prop :=
  dialog.graph.Resolves bundle Target.ofDialogNode

/-- A bundle has all of what it refers to itself. -/
structure Bundle.Resolves (bundle : Bundle) : Prop where
  /-- What the scenario refers to. -/
  scenario : ∀ scenario, bundle.scenario = some scenario →
    scenario.Resolves bundle Target.ofScenarioNode
  /-- What the dialogs refer to. -/
  dialogs : ∀ name dialog, bundle.dialog name = .ok dialog → dialog.Resolves bundle
  /-- What the offer graphs refer to. -/
  offers : ∀ name graph, bundle.offers.get? name = some graph →
    graph.Resolves bundle Target.ofOfferNode
  /-- What the selections of the characters refer to. -/
  characters : ∀ character selection, bundle.characters.get? character = some selection →
    bundle.HasAll (selection.entries.flatMap Target.ofEntry)

/-- A dialog is found exactly if it is stored. -/
theorem Bundle.dialog_eq_ok {bundle : Bundle} {name : String} {dialog : DialogGraph} :
    bundle.dialog name = .ok dialog ↔ bundle.dialogs.get? name = some dialog := by
  unfold Bundle.dialog
  cases bundle.dialogs.get? name with
  | none => exact iff_of_false nofun nofun
  | some other =>
    exact ⟨fun same => congrArg some (Except.ok.inj same),
      fun same => congrArg Except.ok (Option.some.inj same)⟩

/-- A dialog that is referred to and resolves is stored. -/
theorem Bundle.exists_dialog {bundle : Bundle} {name : String}
    (resolves : (Target.dialog name).resolves bundle = true) :
    ∃ dialog, bundle.dialog name = .ok dialog := by
  obtain ⟨dialog, stored⟩ := Option.isSome_iff_exists.1 resolves
  exact ⟨dialog, dialog_eq_ok.2 stored⟩

namespace Lint

/-- A report without an issue about references. -/
def Report.Resolves (report : Report) : Prop :=
  ∀ issue ∈ report.issues, issue.area ≠ .references

/-- What a node refers to is among the references of its graph. -/
theorem Reference.mem_ofGraph {κ : Type} {graph : Graph κ} {id : NodeId} {kind : κ}
    {targets : κ → List Target} {target : Target} (place : Place)
    (known : graph.kind? id = some kind) (member : target ∈ targets kind) :
    ⟨place, some id, target⟩ ∈ ofGraph place graph targets := by
  obtain ⟨node, found, rfl⟩ := Option.map_eq_some_iff.1 known
  have entry : (node, id) ∈ graph.nodes.zipIdx := List.mem_zipIdx_iff_getElem?.2 found
  exact List.mem_flatMap.2 ⟨(node, id), entry, List.mem_map.2 ⟨target, member, rfl⟩⟩

/-- What is wrong with a reference is an issue about references. -/
theorem Target.fault_area (target : Target) : target.fault.area = .references := by
  cases target <;> rfl

/-- Every reference resolves if there is no issue about references. -/
theorem Report.Resolves.resolves {bundle : Bundle} (clean : (report .standard bundle).Resolves)
    {reference : Reference} (member : reference ∈ Reference.ofBundle bundle) :
    reference.target.resolves bundle = true := by
  by_contra missing
  have checked : reference.target.isChecked .standard = true := by
    cases reference.target <;> rfl
  have issue : reference.issue? .standard bundle =
      some ⟨reference.place, reference.node, reference.target.fault⟩ := by
    unfold Reference.issue?
    rw [checked, Bool.eq_false_iff.2 missing]
    rfl
  have found : ⟨reference.place, reference.node, reference.target.fault⟩ ∈
      referenceIssues .standard bundle :=
    List.mem_append_left _ (List.mem_filterMap.2 ⟨reference, member, issue⟩)
  have reported : ⟨reference.place, reference.node, reference.target.fault⟩ ∈
      (report .standard bundle).issues :=
    List.mem_append_left _ (List.mem_append_left _ (List.mem_append_right _ found))
  exact clean _ reported reference.target.fault_area

/-- Every name of a bundle resolves if there is no issue about references. -/
theorem Report.Resolves.bundle {bundle : Bundle} (clean : (report .standard bundle).Resolves) :
    bundle.Resolves := by
  have listed (reference : Reference) (member : reference ∈ Reference.ofBundle bundle) :=
    clean.resolves member
  unfold Reference.ofBundle at listed
  simp only [List.mem_append] at listed
  constructor
  · intro scenario authored id kind known target member
    refine listed ⟨.scenario scenario.name, some id, target⟩ (.inl (.inl (.inl ?_)))
    rw [authored]
    exact Reference.mem_ofGraph _ known member
  · intro name dialog stored id kind known target member
    refine listed ⟨.dialog name, some id, target⟩ (.inl (.inl (.inr ?_)))
    have entry := SortedMap.mem_of_get? (Bundle.dialog_eq_ok.1 stored)
    exact List.mem_flatMap.2 ⟨_, entry, Reference.mem_ofGraph _ known member⟩
  · intro name graph stored id kind known target member
    refine listed ⟨.offers name, some id, target⟩ (.inl (.inr ?_))
    have entry := SortedMap.mem_of_get? stored
    exact List.mem_flatMap.2 ⟨_, entry, Reference.mem_ofGraph _ known member⟩
  · intro character selection stored target member
    refine listed ⟨.character character, none, target⟩ (.inr ?_)
    have entry := SortedMap.mem_of_get? stored
    exact List.mem_flatMap.2 ⟨_, entry, List.mem_map.2 ⟨target, member, rfl⟩⟩

end Lint

variable {bundle : Bundle} {flags : Flags}

/-- A change of a cell that the flags have is not reported. -/
theorem Flags.Write.apply_resolved (write : Write) (covers : flags.Covers bundle.flags)
    (declared : bundle.flags.declares write.cell = true) : (write.apply flags).Resolved :=
  (write.apply_resolved_iff flags).1.2 (covers write.cell declared)

namespace Branch

/-- A condition on a cell that the flags have is evaluated without a report. -/
theorem satisfied_resolved (covers : flags.Covers bundle.flags) {condition : Option Condition}
    (has : bundle.HasAll (Target.ofCondition condition)) :
    (satisfied flags condition).Resolved := by
  cases condition with
  | none => exact .pure true
  | some condition =>
    have declared := covers condition.cell has.head
    exact (satisfied_resolved_iff flags condition).2 declared

variable {α : Type} [Candidate α]

/-- A branch is resolved without a report if the flags have the cells of all its conditions. -/
theorem resolve_resolved (covers : flags.Covers bundle.flags) {options : List α}
    (has : ∀ option ∈ options, bundle.HasAll (Target.ofCondition (Candidate.condition option))) :
    (resolve flags options).Resolved := by
  have resolved (index : Nat) (best : Option (Nat × Int32)) :
      (resolveFrom flags index best options).Resolved := by
    induction options generalizing index best with
    | nil => exact .pure _
    | cons option rest ih =>
      have others := ih fun other member => has other (List.mem_cons_of_mem _ member)
      unfold resolveFrom
      refine .bind (satisfied_resolved covers (has option List.mem_cons_self)) ?_
      dsimp only
      split
      · exact others _ _
      · exact others _ _
  exact resolved 0 none

end Branch

end Narrative
