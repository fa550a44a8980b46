import Narrative.Proofs.Branch.Choice
import Narrative.Proofs.Lint.Walkable
import Narrative.Proofs.SortedMap
import Narrative.Proofs.Storyline.Unstalled

/-!
# What silence about a branch says

The search for branches that need not have an open option looks at the options only, and not at
the flags. It is silent about a branch that has options exactly if the branch resolves under all
flags: a branch of the scenario or of an offer graph, an automatic branch of a dialog, and the
choice among the offer graphs of a character.
-/

namespace Narrative

namespace Lint

/-- The search for branches that need not have an open option finds nothing at a node; or nothing
about a part of the bundle as a whole. -/
def SilentAt (bundle : Bundle) (place : Place) (node : Option NodeId) : Prop :=
  ∀ issue ∈ fallbackIssues bundle, ¬(issue.place = place ∧ issue.node = node)

/-- What the search finds: the faults of each node, and the characters that can be silent. -/
inductive Found (bundle : Bundle) : Issue → Prop
  /-- A fault of a node of the scenario. -/
  | scenario {scenario : ScenarioGraph} {id : NodeId} {kind : ScenarioNode} {fault : Fault}
      (stored : bundle.scenario = some scenario) (known : scenario.kind? id = some kind)
      (faulty : fault ∈ scenarioFlow kind) :
      Found bundle ⟨.scenario scenario.name, some id, fault⟩
  /-- A fault of a node of an offer graph. -/
  | offers {key : String} {graph : OfferGraph} {id : NodeId} {kind : OfferNode} {fault : Fault}
      (stored : bundle.offers.get? key = some graph) (known : graph.kind? id = some kind)
      (faulty : fault ∈ offerFlow kind) : Found bundle ⟨.offers key, some id, fault⟩
  /-- A fault of a node of a dialog. -/
  | dialog {key : String} {dialog : DialogGraph} {id : NodeId} {kind : DialogNode} {fault : Fault}
      (stored : bundle.dialogs.get? key = some dialog)
      (known : dialog.graph.kind? id = some kind) (faulty : fault ∈ dialogFlow kind) :
      Found bundle ⟨.dialog key, some id, fault⟩
  /-- A character all of whose offer graphs have a condition. -/
  | character {name : String} {selection : Selection}
      (stored : bundle.characters.get? name = some selection)
      (fails : canFail selection.entries = true) :
      Found bundle ⟨.character name, none, .characterSilent⟩

/-- The faults at the nodes of a graph are those of its kinds of node. -/
theorem mem_atNodes_iff {κ : Type} {place : Place} {graph : Graph κ} {find : κ → List Fault}
    {issue : Issue} :
    issue ∈ atNodes place graph (fun node => find node.kind) ↔
      ∃ id kind fault, graph.kind? id = some kind ∧ fault ∈ find kind ∧
        issue = ⟨place, some id, fault⟩ := by
  constructor
  · intro member
    rcases List.mem_flatMap.1 member with ⟨⟨node, id⟩, placed, listed⟩
    rcases List.mem_map.1 listed with ⟨fault, faulty, rfl⟩
    have found : graph.node? id = some node := List.mem_zipIdx_iff_getElem?.1 placed
    have known : graph.kind? id = some node.kind := by
      unfold Graph.kind?
      rw [found]
      rfl
    exact ⟨id, node.kind, fault, known, faulty, rfl⟩
  · rintro ⟨id, kind, fault, known, faulty, rfl⟩
    rcases Option.map_eq_some_iff.1 known with ⟨node, found, rfl⟩
    have listed : fault ∈ (fun node : Node κ => find node.kind) node := faulty
    exact mem_atNodes place found listed

/-- The search finds what there is to find, and nothing else. -/
theorem mem_fallbackIssues_iff {bundle : Bundle} {issue : Issue} :
    issue ∈ fallbackIssues bundle ↔ Found bundle issue := by
  unfold fallbackIssues
  simp only [List.mem_append, List.mem_flatMap]
  constructor
  · rintro (((atScenario | ⟨⟨key, graph⟩, member, atOffers⟩) | ⟨⟨key, dialog⟩, member, atDialog⟩) |
      ⟨⟨name, selection⟩, member, atCharacter⟩)
    · cases stored : bundle.scenario with
      | none =>
        rw [stored] at atScenario
        cases atScenario
      | some scenario =>
        rw [stored] at atScenario
        rcases mem_atNodes_iff.1 atScenario with ⟨id, kind, fault, known, faulty, rfl⟩
        exact .scenario stored known faulty
    · rcases mem_atNodes_iff.1 atOffers with ⟨id, kind, fault, known, faulty, rfl⟩
      exact .offers (SortedMap.get?_of_mem member) known faulty
    · rcases mem_atNodes_iff.1 atDialog with ⟨id, kind, fault, known, faulty, rfl⟩
      exact .dialog (SortedMap.get?_of_mem member) known faulty
    · dsimp only [selectionIssues] at atCharacter
      split at atCharacter
      · next fails =>
        rw [List.mem_singleton.1 atCharacter]
        exact .character (SortedMap.get?_of_mem member) fails
      · cases atCharacter
  · rintro (⟨stored, known, faulty⟩ | ⟨stored, known, faulty⟩ | ⟨stored, known, faulty⟩ |
      ⟨stored, fails⟩)
    · refine .inl (.inl (.inl ?_))
      rw [stored]
      exact mem_atNodes_iff.2 ⟨_, _, _, known, faulty, rfl⟩
    · exact .inl (.inl (.inr ⟨_, SortedMap.mem_of_get? stored,
        mem_atNodes_iff.2 ⟨_, _, _, known, faulty, rfl⟩⟩))
    · exact .inl (.inr ⟨_, SortedMap.mem_of_get? stored,
        mem_atNodes_iff.2 ⟨_, _, _, known, faulty, rfl⟩⟩)
    · refine .inr ⟨_, SortedMap.mem_of_get? stored, ?_⟩
      dsimp only [selectionIssues]
      rw [if_pos fails]
      exact List.mem_singleton_self _

section Options

variable {α : Type} [Candidate α] {options : List α}

/-- Options cannot fail exactly if the branch resolves under all flags. -/
theorem canFail_eq_false_iff (stocked : options ≠ []) :
    canFail options = false ↔ Branch.AlwaysResolves options := by
  rw [Branch.alwaysResolves_iff]
  constructor
  · exact exists_unconditional stocked
  · rintro ⟨option, member, unconditional⟩
    rw [Bool.eq_false_iff]
    intro fails
    unfold canFail at fails
    rw [Bool.and_eq_true, List.all_eq_true] at fails
    have conditional := fails.2 option member
    rw [unconditional] at conditional
    cases conditional

/-- There is no fault exactly if the branch resolves under all flags. -/
theorem branchFaults_eq_nil_iff (stocked : options ≠ []) :
    (∀ fault, fault ∉ branchFaults options) ↔ Branch.AlwaysResolves options := by
  rw [← canFail_eq_false_iff stocked]
  unfold branchFaults
  by_cases fails : canFail options = true
  · rw [if_pos fails, fails]
    simp
  · rw [if_neg fails]
    simp [fails]

end Options

variable {bundle : Bundle}

/-- The search is silent where there is nothing to find. -/
theorem silentAt_iff {place : Place} {node : Option NodeId} :
    SilentAt bundle place node ↔ ∀ fault, ¬Found bundle ⟨place, node, fault⟩ := by
  constructor
  · intro silent fault found
    exact silent _ (mem_fallbackIssues_iff.2 found) ⟨rfl, rfl⟩
  · rintro clean ⟨_, _, fault⟩ member ⟨rfl, rfl⟩
    exact clean fault (mem_fallbackIssues_iff.1 member)

/-- Silence about a node of the scenario: it has no fault. -/
theorem silentAt_scenario {scenario : ScenarioGraph} {id : NodeId} {kind : ScenarioNode}
    (stored : bundle.scenario = some scenario) (known : scenario.kind? id = some kind) :
    SilentAt bundle (.scenario scenario.name) (some id) ↔
      ∀ fault, fault ∉ scenarioFlow kind := by
  rw [silentAt_iff]
  constructor
  · intro clean fault faulty
    exact clean fault (.scenario stored known faulty)
  · intro clean fault found
    generalize scenario.name = name at found
    cases found with
    | scenario other there faulty =>
      obtain rfl := Option.some.inj (stored.symm.trans other)
      obtain rfl := Option.some.inj (known.symm.trans there)
      exact clean fault faulty

/-- Silence about a node of an offer graph: it has no fault. -/
theorem silentAt_offers {key : String} {graph : OfferGraph} {id : NodeId} {kind : OfferNode}
    (stored : bundle.offers.get? key = some graph) (known : graph.kind? id = some kind) :
    SilentAt bundle (.offers key) (some id) ↔ ∀ fault, fault ∉ offerFlow kind := by
  rw [silentAt_iff]
  constructor
  · intro clean fault faulty
    exact clean fault (.offers stored known faulty)
  · intro clean fault found
    cases found with
    | offers other there faulty =>
      obtain rfl := Option.some.inj (stored.symm.trans other)
      obtain rfl := Option.some.inj (known.symm.trans there)
      exact clean fault faulty

/-- Silence about a node of a dialog: it has no fault. -/
theorem silentAt_dialog {key : String} {dialog : DialogGraph} {id : NodeId} {kind : DialogNode}
    (stored : bundle.dialogs.get? key = some dialog)
    (known : dialog.graph.kind? id = some kind) :
    SilentAt bundle (.dialog key) (some id) ↔ ∀ fault, fault ∉ dialogFlow kind := by
  rw [silentAt_iff]
  constructor
  · intro clean fault faulty
    exact clean fault (.dialog stored known faulty)
  · intro clean fault found
    cases found with
    | dialog other there faulty =>
      obtain rfl := Option.some.inj (stored.symm.trans other)
      obtain rfl := Option.some.inj (known.symm.trans there)
      exact clean fault faulty

/-- Silence about a character: its offer graphs cannot all be closed. -/
theorem silentAt_character {name : String} {selection : Selection}
    (stored : bundle.characters.get? name = some selection) :
    SilentAt bundle (.character name) none ↔ canFail selection.entries = false := by
  rw [silentAt_iff, Bool.eq_false_iff]
  constructor
  · intro clean fails
    exact clean _ (.character stored fails)
  · intro sure fault found
    cases found with
    | character other fails =>
      obtain rfl := Option.some.inj (stored.symm.trans other)
      exact sure fails

/-- The search is silent about the branches with options that resolve under all flags, and about no
others. -/
structure FallbackExact (bundle : Bundle) : Prop where
  /-- The branches of the scenario. -/
  scenario : ∀ scenario id options, bundle.scenario = some scenario →
    scenario.kind? id = some (.branch options) → options ≠ [] →
    (SilentAt bundle (.scenario scenario.name) (some id) ↔ Branch.AlwaysResolves options)
  /-- The branches of the offer graphs. -/
  offers : ∀ key graph id options, bundle.offers.get? key = some graph →
    graph.kind? id = some (.branch options) → options ≠ [] →
    (SilentAt bundle (.offers key) (some id) ↔ Branch.AlwaysResolves options)
  /-- The automatic branches of the dialogs. -/
  dialogs : ∀ key dialog id options, bundle.dialogs.get? key = some dialog →
    dialog.graph.kind? id = some (.branch .automatic options) → options ≠ [] →
    (SilentAt bundle (.dialog key) (some id) ↔ Branch.AlwaysResolves options)
  /-- The choice among the offer graphs of a character. -/
  characters : ∀ name selection, bundle.characters.get? name = some selection →
    selection.entries ≠ [] →
    (SilentAt bundle (.character name) none ↔ Branch.AlwaysResolves selection.entries)

/-- The search is exact. -/
theorem fallbackIssues_exact (bundle : Bundle) : FallbackExact bundle where
  scenario := by
    intro scenario id options stored known stocked
    rw [silentAt_scenario stored known]
    exact branchFaults_eq_nil_iff stocked
  offers := by
    intro key graph id options stored known stocked
    rw [silentAt_offers stored known]
    exact branchFaults_eq_nil_iff stocked
  dialogs := by
    intro key dialog id options stored known stocked
    rw [silentAt_dialog stored known]
    exact branchFaults_eq_nil_iff stocked
  characters := by
    intro name selection stored stocked
    rw [silentAt_character stored]
    exact canFail_eq_false_iff stocked

end Lint

/-- A branch resolves to the first of its open options that no open option surpasses, and to nothing
exactly if none is open. Closed options only count for the places of the others. A branch that has
options resolves under all flags exactly if one of them has no condition, and the search for
branches that need not have an open option is silent about exactly those. -/
theorem branches_resolve_exactly :
    (∀ {α : Type} [Candidate α] (flags : Flags) (options : List α),
      (∀ index, (Branch.resolve flags options).value = some index ↔
        ∃ option, Branch.Wins flags options index option) ∧
      ((Branch.resolve flags options).value = none ↔
        ∀ option ∈ options, ¬Branch.IsOpen flags option) ∧
      (Branch.resolve flags (Branch.opened flags options)).value =
        (Branch.resolve flags options).value.map (Branch.rank flags options) ∧
      ∀ before gone put after, options = before ++ gone ++ after →
        (∀ option ∈ gone, ¬Branch.IsOpen flags option) →
        (∀ option ∈ put, ¬Branch.IsOpen flags option) →
        (Branch.resolve flags (before ++ put ++ after)).value =
          (Branch.resolve flags options).value.map
            (Branch.moved before.length gone.length put.length)) ∧
    (∀ {α : Type} [Candidate α] (options : List α), options ≠ [] →
      (Branch.AlwaysResolves options ↔
        ∃ option ∈ options, Candidate.condition option = none)) ∧
    ∀ bundle, Lint.FallbackExact bundle := by
  refine ⟨?_, ?_, Lint.fallbackIssues_exact⟩
  · intro α _ flags options
    refine ⟨fun _ => Branch.resolve_eq_some_iff, Branch.resolve_eq_none_iff,
      Branch.resolve_opened flags options, ?_⟩
    rintro before gone put after rfl goneClosed putClosed
    exact Branch.resolve_replace goneClosed putClosed
  · intro α _ options _
    exact Branch.alwaysResolves_iff

/-- The branch of the quest always resolves, and the search is silent about it. Before its flag is
raised, its first option only counts for the place of the second. -/
theorem branches_resolve_exactly_quest :
    let found : BranchOption := ⟨some ⟨.flag "found", .equal⟩, 1⟩
    let otherwise : BranchOption := ⟨none, 0⟩
    (Branch.resolve Bundle.quest.flags [otherwise]).value =
        (Branch.resolve Bundle.quest.flags [found, otherwise]).value.map (Branch.moved 0 1 0) ∧
      Branch.AlwaysResolves [found, otherwise] ∧
      Lint.SilentAt Bundle.quest (.scenario "quest") (some 1) := by
  intro found otherwise
  have closed : ∀ option ∈ [found], ¬Branch.IsOpen Bundle.quest.flags option := by
    intro option member
    rw [List.mem_singleton.1 member, ← Branch.satisfied_iff]
    decide
  have always : Branch.AlwaysResolves [found, otherwise] := by
    apply (branches_resolve_exactly.2.1 _ (List.cons_ne_nil _ _)).2
    exact ⟨otherwise, List.mem_cons_of_mem _ List.mem_cons_self, rfl⟩
  refine ⟨?_, always, ?_⟩
  · exact (branches_resolve_exactly.1 Bundle.quest.flags [found, otherwise]).2.2.2
      [] [found] [] [otherwise] rfl closed (fun _ absent => by cases absent)
  · apply ((branches_resolve_exactly.2.2 Bundle.quest).scenario .quest 1 [found, otherwise]
      rfl rfl (List.cons_ne_nil _ _)).2
    exact always

end Narrative
