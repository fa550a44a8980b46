import Narrative.Proofs.Dialog.Passage
import Narrative.Storyline

/-!
# Storylines that never stall

A storyline waits when its scenario has nowhere to go, and when an advance passes more nodes than
there are. The lint vouches that every port and every branch leads on, except from the last dialogs,
and an advance that only routes cannot come back to a node unless it goes round a cycle of nodes
that only route. In a scenario without such a cycle a storyline therefore waits at last dialogs
only, whatever becomes of the flags between its advances.
-/

namespace Narrative

namespace ScenarioGraph

/-- A node that only routes the walk: the start, a branch or a condition. -/
def RoutesAt (graph : ScenarioGraph) (id : NodeId) : Prop :=
  graph.kind? id = some .start ∨ (∃ options, graph.kind? id = some (.branch options)) ∨
    ∃ flag, graph.kind? id = some (.condition flag)

/-- Every cycle over connected ports has a node that does more than routing. -/
def Progressing (graph : ScenarioGraph) : Prop :=
  ∀ first rest, graph.Cycle first rest → ∃ id ∈ first :: rest, ¬graph.RoutesAt id

/-- A last dialog after which nothing is wired. -/
def EndsAt (graph : ScenarioGraph) (id : NodeId) : Prop :=
  (∃ dialog, graph.kind? id = some (.ending dialog)) ∧ graph.connected? id Port.exit = none

/-- What a walk through a scenario relies on. -/
structure Walkable (graph : ScenarioGraph) : Prop where
  /-- Some node starts the scenario. -/
  startable : ∃ id, graph.start = .ok id
  /-- Every port that a walk follows leads to a node. -/
  wired : ∀ id kind, graph.kind? id = some kind →
    ∀ followed ∈ Lint.Wired.followed kind, ∃ next, graph.connected? id followed.1 = some next
  /-- Every branch has an option that is always open. -/
  resolving : ∀ id options, graph.kind? id = some (.branch options) →
    ∃ option ∈ options, option.condition = none

end ScenarioGraph

namespace Lint

/-- A report of things that may be intended, without an error and without a warning. -/
def Report.Unworried (report : Report) : Prop := ∀ issue ∈ report.issues, issue.severity = .info

section Scenario

variable {bundle : Bundle} {scenario : ScenarioGraph} {issue : Issue}

/-- An issue with the wiring of the scenario is reported. -/
theorem mem_report_of_scenario_wiring (authored : bundle.scenario = some scenario)
    (found : issue ∈ graphWiring WiringSettings.standard (.scenario scenario.name) scenario) :
    issue ∈ (report .standard bundle).issues := by
  have reported : issue ∈ wiringIssues WiringSettings.standard bundle := by
    unfold wiringIssues
    rw [authored]
    exact List.mem_append_left _ (List.mem_append_left _ found)
  unfold report
  exact List.mem_append_left _ (List.mem_append_left _ (List.mem_append_left _ reported))

/-- An issue with the flow of the scenario is reported. -/
theorem mem_report_of_scenario_flow (authored : bundle.scenario = some scenario)
    (found : issue ∈ atNodes (.scenario scenario.name) scenario
      fun node => scenarioFlow node.kind) :
    issue ∈ (report .standard bundle).issues := by
  have reported : issue ∈ flowIssues FlowSettings.standard bundle := by
    unfold flowIssues
    apply List.mem_append_right
    change issue ∈ fallbackIssues bundle
    unfold fallbackIssues
    rw [authored]
    exact List.mem_append_left _ (List.mem_append_left _ (List.mem_append_left _ found))
  unfold report
  exact List.mem_append_left _ (List.mem_append_right _ reported)

/-- An empty branch of the scenario is reported. -/
theorem mem_report_of_scenario_quality (authored : bundle.scenario = some scenario)
    (found : issue ∈ atNodes (.scenario scenario.name) scenario
      fun node => scenarioQuality node.kind) :
    issue ∈ (report .standard bundle).issues := by
  have reported : issue ∈ qualityIssues QualitySettings.standard bundle := by
    unfold qualityIssues
    rw [authored]
    exact List.mem_append_left _ (List.mem_append_right _ found)
  unfold report
  exact List.mem_append_right _ reported

variable (unworried : (report .standard bundle).Unworried)
  (authored : bundle.scenario = some scenario)

include unworried authored

/-- Every branch has an option that is always open in a scenario whose report is unworried. -/
theorem scenario_resolving {id : NodeId} {options : List BranchOption}
    (known : scenario.kind? id = some (.branch options)) :
    ∃ option ∈ options, option.condition = none := by
  obtain ⟨node, found, kind⟩ := Option.map_eq_some_iff.1 known
  refine exists_unconditional ?_ ?_
  · rintro rfl
    have faulty : Fault.branchEmpty ∈ scenarioQuality node.kind := by
      rw [kind]
      exact List.mem_cons_self
    cases unworried _ (mem_report_of_scenario_quality authored (mem_atNodes _ found faulty))
  · by_contra fails
    have faulty : Fault.fallbackMissing ∈ scenarioFlow node.kind := by
      rw [kind]
      change Fault.fallbackMissing ∈ branchFaults options
      unfold branchFaults
      rw [if_pos (by simpa using fails)]
      exact List.mem_cons_self
    cases unworried _ (mem_report_of_scenario_flow authored (mem_atNodes _ found faulty))

/-- A scenario whose report is unworried can be walked. -/
theorem scenario_walkable : scenario.Walkable where
  startable := startable_of_wiring fun issue found => by
    rw [unworried issue (mem_report_of_scenario_wiring authored found)]
    exact nofun
  wired id kind known := by
    rintro ⟨port, severity⟩ followed
    have grave : severity ≠ .info := by
      rintro rfl
      cases kind with
      | branch options =>
        obtain ⟨_, _, same⟩ := List.mem_map.1 followed
        cases congrArg Prod.snd same
      | ending dialog => cases followed
      | _ => cases congrArg Prod.snd (List.mem_singleton.1 followed)
    have harmless (issue : Issue)
        (found : issue ∈ graphWiring WiringSettings.standard (.scenario scenario.name) scenario) :
        issue.severity ≠ .error ∧ issue.severity ≠ severity := by
      rw [unworried issue (mem_report_of_scenario_wiring authored found)]
      exact ⟨nofun, grave.symm⟩
    exact wired_of_wiring harmless known followed
  resolving _ _ known := scenario_resolving unworried authored known

end Scenario

end Lint

namespace Storyline

variable {graph : ScenarioGraph} {passed : List NodeId} {node : NodeId}

/-- What a node asks for is never to wait. -/
theorem stepOf_ne {kind : ScenarioNode} {step : StoryStep} (asks : stepOf kind = some step) :
    step ≠ .waiting ∧ step ≠ .idle := by
  cases kind <;> cases asks <;> exact ⟨nofun, nofun⟩

/-- A node that asks for nothing only routes the walk. -/
theorem routesAt_of_silent {kind : ScenarioNode} (known : graph.kind? node = some kind)
    (silent : stepOf kind = none) : graph.RoutesAt node := by
  cases kind with
  | start => exact .inl known
  | branch options => exact .inr (.inl ⟨options, known⟩)
  | condition flag => exact .inr (.inr ⟨flag, known⟩)
  | _ => cases silent

/-- A node that only routes the walk is no last dialog. -/
theorem not_endsAt (routes : graph.RoutesAt node) : ¬graph.EndsAt node := by
  rintro ⟨⟨dialog, ending⟩, -⟩
  obtain start | ⟨options, branch⟩ | ⟨flag, condition⟩ := routes
  · cases ending.symm.trans start
  · cases ending.symm.trans branch
  · cases ending.symm.trans condition

/-- Every node but a last dialog is left for another. -/
theorem leave_leads (walkable : graph.Walkable) (inside : node < graph.size)
    (goesOn : ¬graph.EndsAt node) (flags : Flags) :
    ∃ next, (leave graph node flags).value = some next ∧ graph.Leads node next := by
  obtain ⟨kind, known⟩ := Graph.kind?_of_lt inside
  have wired := walkable.wired node kind known
  have along {port : String} (chosen : (wayOut graph node flags).value = some port)
      (connected : ∃ next, graph.connected? node port = some next) :
      ∃ next, (leave graph node flags).value = some next ∧ graph.Leads node next := by
    obtain ⟨next, leads⟩ := connected
    unfold leave
    rw [Logged.value_bind, chosen]
    dsimp only
    rw [leads]
    exact ⟨next, rfl, port, leads⟩
  have exits (other : ∀ options, kind ≠ .branch options) :
      (wayOut graph node flags).value = some Port.exit := by
    unfold wayOut
    rw [known]
    cases kind with
    | branch options => exact absurd rfl (other options)
    | _ => rfl
  cases kind with
  | branch options =>
    obtain ⟨index, resolved⟩ :=
      Branch.resolve_of_unconditional flags (walkable.resolving node options known)
    have followed : (Port.option index, Lint.Severity.error) ∈ Lint.optionPorts options.length :=
      List.mem_map.2 ⟨index, List.mem_range.2 (Branch.resolve_lt resolved), rfl⟩
    refine along ?_ (wired _ followed)
    unfold wayOut
    rw [known]
    dsimp only
    rw [Logged.value_bind, resolved]
    rfl
  | ending dialog =>
    refine along (exits nofun) (Option.ne_none_iff_exists'.1 fun unwired => ?_)
    exact goesOn ⟨⟨dialog, known⟩, unwired⟩
  | _ => exact along (exits nofun) (wired _ List.mem_cons_self)

/-- An arrival at a node that asks for the step. -/
structure Arrival.Asked (graph : ScenarioGraph) (arrival : Arrival) : Prop where
  /-- It stands on a node of the scenario. -/
  inside : arrival.node < graph.size
  /-- The step is what a node asks for. -/
  step : arrival.step ≠ .waiting ∧ arrival.step ≠ .idle

/-- A walk that goes on from its node comes to a node that asks for something, if it does so from
every node that it may go on at and that only routes. -/
theorem walk_succ_asked (walkable : graph.Walkable) (inside : node < graph.size)
    (goesOn : ¬graph.EndsAt node) {tracing : Tracing} {bound : Nat}
    (onward : ∀ next flags, graph.Leads node next → graph.RoutesAt next →
      (walk tracing graph bound next flags).value.Asked graph) (flags : Flags) :
    (walk tracing graph (bound + 1) node flags).value.Asked graph := by
  obtain ⟨next, left, leads⟩ := leave_leads walkable inside goesOn flags
  obtain ⟨kind, known⟩ := Graph.kind?_of_lt leads.lt
  unfold walk
  rw [Logged.value_bind, left]
  dsimp only
  rw [known]
  dsimp only
  rw [Logged.value_bind]
  cases asks : stepOf kind with
  | some step => exact ⟨leads.lt, stepOf_ne asks⟩
  | none => exact onward next _ leads (routesAt_of_silent known asks)

/-- A walk that has only routed so far comes to a node that asks for something, as long as it may
still pass the nodes that it has not passed. -/
theorem walk_asked (walkable : graph.Walkable) (progressing : graph.Progressing)
    (trail : graph.Trail passed node) (routed : ∀ id ∈ passed, graph.RoutesAt id)
    (inside : node < graph.size) (routes : graph.RoutesAt node) {bound : Nat}
    (enough : passed.length + bound = graph.size) (tracing : Tracing) (flags : Flags) :
    (walk tracing graph bound node flags).value.Asked graph := by
  have fresh := trail.fresh graph.RoutesAt progressing routed
  induction bound generalizing passed node flags with
  | zero =>
    -- All nodes were passed, but the walk stands on one that it has not passed.
    have room := trail.length_lt fresh inside
    omega
  | succ bound ih =>
    refine walk_succ_asked walkable inside (not_endsAt routes) (fun next flags leads goesOn => ?_)
      flags
    have longer := trail.step fresh inside leads
    have still : ∀ id ∈ passed ++ [node], graph.RoutesAt id := by
      intro id member
      obtain earlier | last := List.mem_append.1 member
      · exact routed id earlier
      · rw [List.mem_singleton.1 last]
        exact routes
    have length : (passed ++ [node]).length = passed.length + 1 := List.length_append
    exact ih longer still leads.lt goesOn (by omega) flags
      (longer.fresh graph.RoutesAt progressing still)

/-- An advance from a node that does not end the scenario comes to a node that asks for
something. -/
theorem walk_from_asked (walkable : graph.Walkable) (progressing : graph.Progressing)
    (inside : node < graph.size) (goesOn : ¬graph.EndsAt node) (tracing : Tracing)
    (flags : Flags) : (walk tracing graph (graph.size + 1) node flags).value.Asked graph :=
  walk_succ_asked walkable inside goesOn (fun next flags leads routes =>
    walk_asked walkable progressing (.nil graph next) nofun leads.lt routes (Nat.zero_add _)
      tracing flags) flags

/-- An advance from a last dialog after which nothing is wired stays there. -/
theorem walk_ended (ends : graph.EndsAt node) (tracing : Tracing) (bound : Nat) (flags : Flags) :
    (walk tracing graph (bound + 1) node flags).value = ⟨node, .waiting, flags⟩ := by
  obtain ⟨⟨dialog, known⟩, unwired⟩ := ends
  have stuck : (leave graph node flags).value = none := by
    unfold leave wayOut
    rw [known]
    dsimp only
    rw [Logged.value_bind, Logged.value_pure]
    dsimp only
    rw [unwired]
    rfl
  unfold walk
  rw [Logged.value_bind, stuck]
  rfl

/-- A storyline that stands on a node of a scenario. -/
structure Under (graph : ScenarioGraph) (storyline : Storyline) : Prop where
  /-- The scenario is this one. -/
  authored : storyline.graph = some graph
  /-- It stands on one of its nodes. -/
  inside : ∃ node, storyline.node = some node ∧ node < graph.size

/-- The steps that advances under some flags take, each with the storyline that it leaves. -/
def advances (storyline : Storyline) : List Flags → List (StoryStep × Storyline)
  | [] => []
  | flags :: rest =>
    let (step, after, _) := (storyline.advance flags).value
    (step, after) :: after.advances rest

variable {storyline : Storyline}

/-- A scenario that can be walked is started on one of its nodes. -/
theorem load_under (walkable : graph.Walkable) (storyline : Storyline) :
    (storyline.load (some graph)).value.Under graph := by
  obtain ⟨node, begins⟩ := walkable.startable
  have first : (startOf graph).value = some node := by
    unfold startOf
    rw [begins]
    rfl
  exact ⟨rfl, node, first, Graph.start_lt begins⟩

/-- One advance waits only at a last dialog after which nothing is wired, and is never idle. -/
theorem advance_unstalled (walkable : graph.Walkable) (progressing : graph.Progressing)
    (under : storyline.Under graph) (flags : Flags) :
    let came := (storyline.advance flags).value
    came.2.1.Under graph ∧ came.1 ≠ .idle ∧
      (came.1 = .waiting → ∃ node, came.2.1.node = some node ∧ graph.EndsAt node) := by
  obtain ⟨authored, node, stands, inside⟩ := under
  unfold advance
  rw [authored, stands]
  dsimp only
  rw [Logged.value_bind]
  by_cases ends : graph.EndsAt node
  · rw [walk_ended ends]
    exact ⟨⟨rfl, node, rfl, inside⟩, nofun, fun _ => ⟨node, rfl, ends⟩⟩
  · have asked := walk_from_asked walkable progressing inside ends storyline.tracing flags
    exact ⟨⟨rfl, _, rfl, asked.inside⟩, asked.step.2, fun waits => absurd waits asked.step.1⟩

/-- The same for advances in order. -/
theorem advances_unstalled (walkable : graph.Walkable) (progressing : graph.Progressing)
    (under : storyline.Under graph) (moments : List Flags) {step : StoryStep} {after : Storyline}
    (taken : (step, after) ∈ storyline.advances moments) :
    step ≠ .idle ∧ (step = .waiting → ∃ node, after.node = some node ∧ graph.EndsAt node) := by
  induction moments generalizing storyline with
  | nil => cases taken
  | cons flags rest ih =>
    obtain ⟨goesOn, unstalled⟩ := advance_unstalled walkable progressing under flags
    obtain now | later := List.mem_cons.1 taken
    · obtain ⟨rfl, rfl⟩ := Prod.mk.inj now
      exact unstalled
    · exact ih goesOn later

end Storyline

/-- In a scenario whose bundle has a report without errors and warnings, and in which every cycle
over connected ports has a node that does more than routing, no advance is idle, and an advance
waits only on a last dialog after which nothing is wired. This holds of every number of advances
after the scenario was loaded, whatever becomes of the flags between them. -/
theorem scenario_never_stalls {bundle : Bundle} {scenario : ScenarioGraph}
    (unworried : (Lint.report .standard bundle).Unworried)
    (authored : bundle.scenario = some scenario) (progressing : scenario.Progressing)
    (storyline : Storyline) (moments : List Flags) :
    ∀ step after, (step, after) ∈ (storyline.load (some scenario)).value.advances moments →
      step ≠ .idle ∧
        (step = .waiting → ∃ node, after.node = some node ∧ scenario.EndsAt node) := by
  intro step after taken
  have walkable := Lint.scenario_walkable unworried authored
  exact Storyline.advances_unstalled walkable progressing
    (Storyline.load_under walkable storyline) moments taken

/-- A story that raises a flag, plays a dialog and comes back to its branch, which then leads to the
last dialog. -/
def ScenarioGraph.quest : ScenarioGraph :=
  ⟨"quest",
    [⟨.start, [⟨Port.exit, some 1⟩]⟩,
      ⟨.branch [⟨some ⟨.flag "found", .equal⟩, 1⟩, ⟨none, 0⟩],
        [⟨Port.option 0, some 4⟩, ⟨Port.option 1, some 2⟩]⟩,
      ⟨.condition "found", [⟨Port.exit, some 3⟩]⟩,
      ⟨.event "hello", [⟨Port.exit, some 1⟩]⟩,
      ⟨.ending "hello", []⟩]⟩

/-- The quest, with its dialog and its flag. -/
def Bundle.quest : Bundle :=
  { Bundle.empty.addDialog .greeting with
    scenario := some .quest
    flags := Flags.empty.declareFlag "found" false }

/-- The quest comes back over its first dialog only. -/
theorem ScenarioGraph.quest_progressing : quest.Progressing := by
  have ascends : ∀ entry ∈ quest.nodes.zipIdx, entry.2 ≠ 3 →
      ∀ port ∈ entry.1.ports, ∀ target ∈ port.target, entry.2 < target := by decide
  intro first rest cycle
  obtain ⟨source, member, target, leads, descends⟩ := cycle.descends
  obtain ⟨node, found, port, there, aims⟩ := leads.target
  refine ⟨source, member, fun routes => ?_⟩
  have event : source = 3 := by
    by_contra other
    have entry : (node, source) ∈ quest.nodes.zipIdx := List.mem_zipIdx_iff_getElem?.2 found
    exact Nat.not_lt_of_le descends (ascends _ entry other port there target aims)
  subst event
  obtain start | ⟨options, branch⟩ | ⟨flag, condition⟩ := routes
  · cases start
  · cases branch
  · cases condition

/-- The quest plays its dialog before the flag is raised and its last dialog after that, and waits
from then on, but never before, whatever becomes of the flag. -/
theorem scenario_never_stalls_quest :
    let begun := ((Storyline.empty .standard).load (some .quest)).value
    let raised := Flags.empty.declareFlag "found" true
    (begun.advances [Bundle.quest.flags, raised, raised]).map Prod.fst =
        [.playDialog "hello" false, .playDialog "hello" true, .waiting] ∧
      ∀ moments step after, (step, after) ∈ begun.advances moments →
        step ≠ .idle ∧
          (step = .waiting → ∃ node, after.node = some node ∧ ScenarioGraph.quest.EndsAt node) := by
  have unworried : (Lint.report .standard Bundle.quest).Unworried := by
    have none : (Lint.report .standard Bundle.quest).issues = [] := by decide
    intro issue member
    rw [none] at member
    cases member
  refine ⟨rfl, fun moments => ?_⟩
  exact scenario_never_stalls unworried rfl ScenarioGraph.quest_progressing _ moments

end Narrative
