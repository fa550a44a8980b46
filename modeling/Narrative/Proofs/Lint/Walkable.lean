import Mathlib.Tactic.ByContra
import Narrative.Lint
import Narrative.Proofs.Graph.Cycle

/-!
# What a passed report says about a dialog

A report passes if it has no error and no warning about the flow. Between them, the areas then
vouch for everything that a walk through a dialog relies on: there is a node to start from, every
port that the walk may follow leads to a node, no branch is empty, and every branch that the
conditions decide has an option that is always open.
-/

namespace Narrative

/-- What a walk through a dialog relies on. -/
structure DialogGraph.Walkable (dialog : DialogGraph) : Prop where
  /-- Some node starts the dialog. -/
  startable : ∃ id, dialog.graph.start = .ok id
  /-- Every port that a walk follows leads to a node. -/
  wired : ∀ id kind, dialog.graph.kind? id = some kind →
    ∀ followed ∈ Lint.Wired.followed kind,
      ∃ next, dialog.graph.connected? id followed.1 = some next
  /-- No branch is empty. -/
  stocked : ∀ id decider options,
    dialog.graph.kind? id = some (.branch decider options) → options ≠ []
  /-- Every branch that the conditions decide has an option that is always open. -/
  resolving : ∀ id options, dialog.graph.kind? id = some (.branch .automatic options) →
    ∃ option ∈ options, option.condition = none

namespace Lint

/-- A report without an error and without a warning about the flow. -/
def Report.Passes (report : Report) : Prop :=
  ∀ issue ∈ report.issues,
    issue.severity ≠ .error ∧ ¬(issue.severity = .warning ∧ issue.area = .flow)

/-- A fault that is looked for at every node is reported where it is found. -/
theorem mem_atNodes {κ : Type} {graph : Graph κ} {id : NodeId} {node : Node κ}
    {find : Node κ → List Fault} {fault : Fault} (place : Place)
    (found : graph.node? id = some node) (faulty : fault ∈ find node) :
    ⟨place, some id, fault⟩ ∈ atNodes place graph find := by
  have member : (node, id) ∈ graph.nodes.zipIdx := by
    rw [List.mem_zipIdx_iff_getElem?]
    exact found
  exact List.mem_flatMap.2 ⟨(node, id), member, List.mem_map.2 ⟨fault, faulty, rfl⟩⟩

section Wiring

variable {κ : Type} [Wired κ] {place : Place} {graph : Graph κ}

/-- Some node starts a graph whose wiring has no error. -/
theorem startable_of_wiring
    (sound : ∀ issue ∈ graphWiring .standard place graph, issue.severity ≠ .error) :
    ∃ id, graph.start = .ok id := by
  unfold Graph.start
  cases first : graph.start? with
  | some id => exact ⟨id, rfl⟩
  | none =>
    -- Without a start there is an error.
    have absent : starts graph = [] := by
      unfold starts
      rw [List.filter_eq_nil_iff]
      intro id _ starting
      obtain ⟨kind, known, isStart⟩ := (Option.any_eq_true _ _).1 starting
      obtain ⟨node, found, rfl⟩ := Option.map_eq_some_iff.1 known
      unfold Graph.start? at first
      have never := List.findIdx?_eq_none_iff.1 first node (List.mem_of_getElem? found)
      rw [isStart] at never
      cases never
    have issue : (⟨place, none, .startMissing⟩ : Issue) ∈ graphWiring .standard place graph := by
      unfold graphWiring startIssues
      rw [absent]
      exact List.mem_append_left _ List.mem_cons_self
    exact absurd rfl (sound _ issue)

/-- A port that a walk follows leads to a node if the wiring has neither an error nor an issue as
grave as leaving that port unwired. -/
theorem wired_of_wiring {severity : Severity}
    (sound : ∀ issue ∈ graphWiring .standard place graph,
      issue.severity ≠ .error ∧ issue.severity ≠ severity)
    {id : NodeId} {kind : κ} (known : graph.kind? id = some kind) {port : String}
    (followed : (port, severity) ∈ Wired.followed kind) :
    ∃ next, graph.connected? id port = some next := by
  obtain ⟨node, found, rfl⟩ := Option.map_eq_some_iff.1 known
  have wiring : ∀ fault, fault ∈ danglingPorts graph node ++ unwiredPorts node →
      fault.severity ≠ .error ∧ fault.severity ≠ severity := by
    intro fault faulty
    have issue : (⟨place, some id, fault⟩ : Issue) ∈ graphWiring .standard place graph :=
      List.mem_append_right _ (mem_atNodes _ found faulty)
    exact sound _ issue
  cases points : node.connection? port with
  | none =>
    have unwired : Fault.portUnwired severity port (NodeKind.label node.kind) ∈
        unwiredPorts node := by
      refine List.mem_filterMap.2 ⟨(port, severity), followed, ?_⟩
      dsimp only
      rw [points]
    exact absurd rfl (wiring _ (List.mem_append_right _ unwired)).2
  | some target =>
    obtain ⟨first, known, aims⟩ := Option.bind_eq_some_iff.1 points
    by_cases inside : target < graph.size
    · exact ⟨target, Graph.connected?_of_connection? found points inside⟩
    · have dangling : Fault.portDangling first.name target ∈ danglingPorts graph node := by
        refine List.mem_filterMap.2 ⟨first, List.mem_of_find?_eq_some known, ?_⟩
        rw [aims]
        exact if_pos (Nat.le_of_not_lt inside)
      exact absurd rfl (wiring _ (List.mem_append_left _ dangling)).1

end Wiring

/-- A branch that has options, and need not fail, has an option without a condition. -/
theorem exists_unconditional {α : Type} [Candidate α] {options : List α} (stocked : options ≠ [])
    (sound : canFail options = false) :
    ∃ option ∈ options, Candidate.condition option = none := by
  by_contra conditional
  have fails : canFail options = true := by
    unfold canFail
    rw [Bool.and_eq_true, List.all_eq_true]
    refine ⟨by simpa using stocked, fun option member => ?_⟩
    rw [Option.isSome_iff_ne_none]
    exact fun unconditional => conditional ⟨option, member, unconditional⟩
  rw [sound] at fails
  cases fails

section Dialog

variable {bundle : Bundle} {key : String} {dialog : DialogGraph} {issue : Issue}

/-- An issue with the wiring of a dialog is reported. -/
theorem mem_report_of_wiring (stored : (key, dialog) ∈ bundle.dialogs.toList)
    (found : issue ∈ graphWiring WiringSettings.standard (.dialog key) dialog.graph) :
    issue ∈ (report .standard bundle).issues := by
  have reported : issue ∈ wiringIssues WiringSettings.standard bundle := by
    unfold wiringIssues
    apply List.mem_append_left
    apply List.mem_append_right
    exact List.mem_flatMap.2 ⟨_, stored, List.mem_append_right _ found⟩
  unfold report
  exact List.mem_append_left _ (List.mem_append_left _ (List.mem_append_left _ reported))

/-- An issue with the flow of a dialog is reported. -/
theorem mem_report_of_flow (stored : (key, dialog) ∈ bundle.dialogs.toList)
    (found : issue ∈ atNodes (.dialog key) dialog.graph fun node => dialogFlow node.kind) :
    issue ∈ (report .standard bundle).issues := by
  have reported : issue ∈ flowIssues FlowSettings.standard bundle := by
    unfold flowIssues
    apply List.mem_append_right
    change issue ∈ fallbackIssues bundle
    unfold fallbackIssues
    apply List.mem_append_left
    apply List.mem_append_right
    exact List.mem_flatMap.2 ⟨_, stored, found⟩
  unfold report
  exact List.mem_append_left _ (List.mem_append_right _ reported)

/-- An issue with the texts of a dialog is reported. -/
theorem mem_report_of_quality (stored : (key, dialog) ∈ bundle.dialogs.toList)
    (found : issue ∈ atNodes (.dialog key) dialog.graph fun node =>
      dialogQuality QualitySettings.standard node.kind) :
    issue ∈ (report .standard bundle).issues := by
  have reported : issue ∈ qualityIssues QualitySettings.standard bundle := by
    unfold qualityIssues
    apply List.mem_append_left
    apply List.mem_append_left
    exact List.mem_flatMap.2 ⟨_, stored, found⟩
  unfold report
  exact List.mem_append_right _ reported

variable (passes : (report .standard bundle).Passes)
  (stored : (key, dialog) ∈ bundle.dialogs.toList)

include passes stored

/-- Some node starts a dialog of a bundle whose report passes. -/
theorem startable_of_passes : ∃ id, dialog.graph.start = .ok id :=
  startable_of_wiring fun issue found => (passes issue (mem_report_of_wiring stored found)).1

/-- Every port that a walk follows is wired in a dialog of a bundle whose report passes. -/
theorem wired_of_passes {id : NodeId} {kind : DialogNode}
    (known : dialog.graph.kind? id = some kind) :
    ∀ followed ∈ Wired.followed kind,
      ∃ next, dialog.graph.connected? id followed.1 = some next := by
  intro ⟨port, severity⟩ member
  have grave : severity = .error := by
    cases kind
    case branch decider options =>
      obtain ⟨_, _, same⟩ := List.mem_map.1 member
      exact (congrArg Prod.snd same).symm
    case finish => cases member
    all_goals exact congrArg Prod.snd (List.mem_singleton.1 member)
  obtain rfl := grave
  have sound (issue : Issue)
      (found : issue ∈ graphWiring WiringSettings.standard (.dialog key) dialog.graph) :
      issue.severity ≠ .error := (passes issue (mem_report_of_wiring stored found)).1
  exact wired_of_wiring (fun issue found => ⟨sound issue found, sound issue found⟩) known member

/-- No branch is empty in a dialog of a bundle whose report passes. -/
theorem stocked_of_passes {id : NodeId} {decider : Decider} {options : List DialogOption}
    (known : dialog.graph.kind? id = some (.branch decider options)) : options ≠ [] := by
  rintro rfl
  obtain ⟨node, found, kind⟩ := Option.map_eq_some_iff.1 known
  have faulty : Fault.branchEmpty ∈ dialogQuality QualitySettings.standard node.kind := by
    rw [kind]
    exact List.mem_append_left _ List.mem_cons_self
  exact absurd rfl (passes _ (mem_report_of_quality stored (mem_atNodes _ found faulty))).1

/-- Every branch that the conditions decide has an option that is always open in a dialog of a
bundle whose report passes. -/
theorem resolving_of_passes {id : NodeId} {options : List DialogOption}
    (known : dialog.graph.kind? id = some (.branch .automatic options)) :
    ∃ option ∈ options, option.condition = none := by
  refine exists_unconditional (stocked_of_passes passes stored known) ?_
  obtain ⟨node, found, kind⟩ := Option.map_eq_some_iff.1 known
  by_contra fails
  have faulty : Fault.fallbackMissing ∈ dialogFlow node.kind := by
    rw [kind]
    change Fault.fallbackMissing ∈ branchFaults options
    unfold branchFaults
    rw [if_pos (by simpa using fails)]
    exact List.mem_cons_self
  exact (passes _ (mem_report_of_flow stored (mem_atNodes _ found faulty))).2 ⟨rfl, rfl⟩

/-- The dialogs of a bundle whose report passes can be walked. -/
theorem walkable_of_passes : dialog.Walkable where
  startable := startable_of_passes passes stored
  wired _ _ known := wired_of_passes passes stored known
  stocked _ _ _ known := stocked_of_passes passes stored known
  resolving _ _ known := resolving_of_passes passes stored known

end Dialog

end Lint

end Narrative
