import Narrative.Proofs.Dialog.Rounds
import Narrative.Proofs.Storyline.Journey

/-!
# Rounds of a storyline

An advance passes the nodes of a scenario that ask for nothing. It rests where the next node asks
for something and where no way leads on. Like a walk through a dialog it is given up after as many
nodes as the scenario has and one more, and what is said of walks that come back holds of it, too.
-/

namespace Narrative

open Dialog (Manner Memory)

/-- Whether an entry is about content that cannot work. -/
def Entry.isError (entry : Entry) : Bool := entry.level = .error

namespace ScenarioNode

/-- The cells that the way on from a node depends on. -/
def reads : ScenarioNode → List CellRef
  | branch options => Branch.cells options
  | _ => []

/-- The change of a cell where a node is passed. -/
def write? : ScenarioNode → Option Flags.Write
  | condition flag => some (.activate flag)
  | _ => none

/-- The cells that are changed where a node is passed. -/
def writes (kind : ScenarioNode) : List CellRef := (kind.write?.map Flags.Write.cell).toList

end ScenarioNode

namespace ScenarioGraph

variable (graph : ScenarioGraph)

/-- Where a walk goes on to: a node that asks for nothing. -/
def onward (here : Station Flags) : Option (Station Flags) :=
  (Storyline.leave graph here.node here.memory).value.bind fun next =>
    if (graph.asked? next).isSome then none else some ⟨next, graph.activateAt here.memory next⟩

/-- A walk rests before a node that asks for something, and where no way leads on. -/
inductive RestsAt (here : Station Flags) : Prop where
  /-- The next node asks for something. -/
  | arrives {next : NodeId} {step : StoryStep} (goes : graph.GoesTo here.memory here.node next)
    (asks : graph.asked? next = some step)
  /-- No way leads on. -/
  | deadEnd (stuck : ∀ next, ¬graph.GoesTo here.memory here.node next)

/-- What is reported of a walk that is given up. -/
def cycleEntry : Entry :=
  ⟨.error, .flow, s!"scenario '{graph.name}' cycles through pass-through nodes"⟩

variable {graph} {here next : Station Flags}

/-- Where a walk goes on, it comes to a node that asks for nothing. -/
theorem onward_eq_some_iff : graph.onward here = some next ↔
    graph.GoesTo here.memory here.node next.node ∧ graph.asked? next.node = none ∧
      next.memory = graph.activateAt here.memory next.node := by
  rcases next with ⟨node, memory⟩
  unfold onward
  constructor
  · intro leads
    rcases Option.bind_eq_some_iff.1 leads with ⟨other, left, passes⟩
    split at passes
    · cases passes
    · next silent =>
      obtain ⟨rfl, rfl⟩ := Station.mk.inj (Option.some.inj passes)
      exact ⟨Storyline.leave_iff.1 left, by simpa using silent, rfl⟩
  · rintro ⟨goes, silent, same⟩
    dsimp only at goes silent same
    rw [Storyline.leave_iff.2 goes, Option.bind_some, silent, same]
    rfl

/-- A walk goes on unless it rests. -/
theorem restsAt_iff : graph.RestsAt here ↔ graph.onward here = none := by
  constructor
  · intro rests
    by_contra goesOn
    rcases Option.ne_none_iff_exists'.1 goesOn with ⟨next, leads⟩
    rcases onward_eq_some_iff.1 leads with ⟨goes, silent, -⟩
    cases rests with
    | @arrives other step there asks =>
      have same := (Storyline.leave_iff.2 goes).symm.trans (Storyline.leave_iff.2 there)
      rw [Option.some.inj same, asks] at silent
      cases silent
    | deadEnd stuck => exact stuck next.node goes
  · intro stays
    cases left : (Storyline.leave graph here.node here.memory).value with
    | none =>
      apply RestsAt.deadEnd
      intro next goes
      rw [Storyline.leave_iff.2 goes] at left
      cases left
    | some next =>
      have goes := Storyline.leave_iff.1 left
      cases asks : graph.asked? next with
      | some step => exact .arrives goes asks
      | none =>
        have leads : graph.onward here = some ⟨next, graph.activateAt here.memory next⟩ :=
          onward_eq_some_iff.2 ⟨goes, asks, rfl⟩
        rw [leads] at stays
        cases stays

/-- A node is left alike under flags that agree on the cells that are read in the scenario. -/
theorem GoesTo.congr {flags other : Flags} {node next : NodeId}
    (agree : Flags.AgreeOn (graph.cells ScenarioNode.reads) flags other)
    (goes : graph.GoesTo flags node next) : graph.GoesTo other node next := by
  rcases goes with ⟨port, leaves, connected⟩
  refine ⟨port, ?_, connected⟩
  unfold LeavesBy at leaves ⊢
  cases known : graph.kind? node with
  | none =>
    rw [known] at leaves
    exact leaves
  | some kind =>
    rw [known] at leaves
    cases kind with
    | branch options =>
      have same : (Branch.resolve flags options).value = (Branch.resolve other options).value :=
        Branch.resolve_congr fun cell member => agree cell (Graph.mem_cells known member)
      dsimp only at leaves ⊢
      rw [← same]
      exact leaves
    | _ => exact leaves

/-- What coming to a node does to the flags. -/
theorem activateAt_eq (flags : Flags) (node : NodeId) :
    graph.activateAt flags node = ((graph.kind? node).bind ScenarioNode.write?).elim flags
      fun write => (write.apply flags).value.2 := by
  unfold activateAt
  cases graph.kind? node with
  | none => rfl
  | some kind => cases kind <;> rfl

/-- A cell that is the same is the same after a node was come to. -/
theorem sameAt_activateAt {flags other : Flags} {cell : CellRef} (node : NodeId)
    (same : flags.SameAt other cell) :
    (graph.activateAt flags node).SameAt (graph.activateAt other node) cell := by
  rw [activateAt_eq, activateAt_eq]
  cases (graph.kind? node).bind ScenarioNode.write? with
  | none => exact same
  | some write => exact write.sameAt_apply same

/-- Coming to a node leaves every cell alone that is not written in the scenario. -/
theorem sameAt_of_spared (flags : Flags) {cell : CellRef} (node : NodeId)
    (spared : cell ∉ graph.cells ScenarioNode.writes) :
    flags.SameAt (graph.activateAt flags node) cell := by
  rw [activateAt_eq]
  cases changes : (graph.kind? node).bind ScenarioNode.write? with
  | none => exact .refl flags cell
  | some write =>
    rcases Option.bind_eq_some_iff.1 changes with ⟨kind, known, here⟩
    apply write.sameAt_of_ne
    intro same
    apply spared
    apply Graph.mem_cells known
    simp [ScenarioNode.writes, here, same]

/-- The walk through a scenario. -/
def walking (graph : ScenarioGraph) : Walking Flags where
  size := graph.size
  flags := id
  reads := graph.cells ScenarioNode.reads
  writes := graph.cells ScenarioNode.writes
  onward := graph.onward
  Rests := graph.RestsAt
  rests_iff _ := restsAt_iff
  inside here next leads := (onward_eq_some_iff.1 leads).1.leads.source_lt
  follows here other next alike leads := by
    rcases onward_eq_some_iff.1 leads with ⟨goes, silent, memory⟩
    have goesToo := goes.congr alike.flags
    rw [alike.node] at goesToo
    refine ⟨⟨next.node, graph.activateAt other.memory next.node⟩,
      onward_eq_some_iff.2 ⟨goesToo, silent, rfl⟩, rfl, ?_⟩
    intro cell read
    rw [memory]
    exact sameAt_activateAt next.node (alike.flags cell read)
  spares here next cell leads spared := by
    rcases onward_eq_some_iff.1 leads with ⟨-, -, memory⟩
    rw [memory]
    exact sameAt_of_spared here.memory next.node spared

end ScenarioGraph

namespace Storyline

variable {graph : ScenarioGraph} {tracing : Tracing} {node next : NodeId} {flags : Flags}

/-- Whether a walk waits and reports a cycle. -/
def GivenUp (graph : ScenarioGraph) (came : Logged Arrival) : Prop :=
  came.value.step = .waiting ∧ graph.cycleEntry ∈ came.sifted Entry.isError

/-- A walk that rests is not given up. -/
theorem not_givenUp_of_restsAt {bound : Nat} (rests : graph.RestsAt ⟨node, flags⟩) :
    ¬GivenUp graph (walk tracing graph (bound + 1) node flags) := by
  have leaves : (leave graph node flags).sifted Entry.isError = [] :=
    sifted_leave (fun _ => rfl) (fun _ => rfl)
  rintro ⟨-, told⟩
  rw [walk] at told
  cases rests with
  | @arrives next step goes asks =>
    have left := leave_iff.2 goes
    obtain ⟨kind, known⟩ := Graph.kind?_of_lt goes.leads.lt
    have asked : stepOf kind = some step := (stepOf_eq_asked? known).trans asks
    simp [left, leaves, known, asked, Entry.isError] at told
  | deadEnd stuck =>
    have left : (leave graph node flags).value = none :=
      Option.eq_none_iff_forall_ne_some.2 fun next left => stuck next (leave_iff.1 left)
    simp [left, leaves] at told

/-- A walk that goes on is given up if the walk from there is. -/
theorem givenUp_iff_of_onward {bound : Nat} {next : Station Flags}
    (leads : graph.onward ⟨node, flags⟩ = some next) :
    GivenUp graph (walk tracing graph (bound + 1) node flags) ↔
      GivenUp graph (walk tracing graph bound next.node next.memory) := by
  rcases ScenarioGraph.onward_eq_some_iff.1 leads with ⟨goes, silent, after⟩
  obtain ⟨kind, known⟩ := Graph.kind?_of_lt goes.leads.lt
  have left := leave_iff.2 goes
  have asks : stepOf kind = none := (stepOf_eq_asked? known).trans silent
  have leaves : (leave graph node flags).sifted Entry.isError = [] :=
    sifted_leave (fun _ => rfl) (fun _ => rfl)
  have passes : (pass kind flags).sifted Entry.isError = [] :=
    sifted_pass (fun _ => rfl) kind flags
  dsimp only at left after
  unfold GivenUp
  rw [walk, after]
  simp [left, leaves, known, asks, passes, value_pass known, Entry.isError]

/-- A walk is given up exactly if it takes as many steps as it may. -/
theorem walk_givenUp_iff (tracing : Tracing) (graph : ScenarioGraph) (bound : Nat) (node : NodeId)
    (flags : Flags) :
    GivenUp graph (walk tracing graph bound node flags) ↔
      ∃ there, graph.walking.after bound ⟨node, flags⟩ = some there := by
  refine Walking.givenUp_iff_after (fun bound here =>
    GivenUp graph (walk tracing graph bound here.node here.memory)) ?_ ?_ ?_ bound ⟨node, flags⟩
  · intro here
    refine ⟨rfl, ?_⟩
    simp [walk, Entry.isError, ScenarioGraph.cycleEntry]
  · intro bound here rests
    exact not_givenUp_of_restsAt rests
  · intro bound here next leads
    exact givenUp_iff_of_onward leads

/-- An advance waits and reports a cycle exactly if it takes as many steps as it may. -/
theorem advance_givenUp_iff (storyline : Storyline) (graph : ScenarioGraph) (place : NodeId)
    (flags : Flags) :
    let came := { storyline with graph := some graph, node := some place }.advance flags
    came.value.1 = .waiting ∧ graph.cycleEntry ∈ came.entries ↔
      ∃ there, graph.walking.after (graph.size + 1) ⟨place, flags⟩ = some there := by
  have grave : graph.cycleEntry.isError = true := rfl
  rw [← walk_givenUp_iff storyline.tracing]
  simp [advance, GivenUp, Logged.sifted, List.mem_filter, grave]

end Storyline

/-- A walk through a dialog is reported to go round a cycle exactly if it passes more nodes than the
dialog has before it rests: at a line, a branch of the player or an end, or where no way leads on.
An advance waits and is reported exactly if it passes more nodes than the scenario has before it
rests: where the next node asks for something, or where no way leads on. Of both holds what follows
for walks that come back. -/
theorem cycle_reports_tell_long_walks (dialog : DialogGraph) (manner : Manner) (node : NodeId)
    (character : Option Speaker) (memory : Memory) (scenario : ScenarioGraph)
    (storyline : Storyline) (place : NodeId) (flags : Flags) :
    (dialog.walking manner.tracing).Reported ⟨node, memory⟩
        ((Dialog.run manner dialog node character memory).value.wait =
          some (.stalled .endless)) ∧
      let came := { storyline with graph := some scenario, node := some place }.advance flags
      scenario.walking.Reported ⟨place, flags⟩
        (came.value.1 = .waiting ∧ scenario.cycleEntry ∈ came.entries) :=
  ⟨Walking.reported_of_long (Dialog.walk_givenUp_iff manner dialog _ node character memory),
    Walking.reported_of_long (storyline.advance_givenUp_iff scenario place flags)⟩

/-- A dialog of two events that lead to each other. -/
def DialogGraph.carousel : DialogGraph :=
  ⟨⟨"loop",
    [⟨.start, [⟨Port.exit, some 1⟩]⟩, ⟨.event [.activateFlag "first"], [⟨Port.exit, some 2⟩]⟩,
      ⟨.event [], [⟨Port.exit, some 1⟩]⟩]⟩, none⟩

/-- A scenario of one condition that leads back to the start. -/
def ScenarioGraph.carousel : ScenarioGraph :=
  ⟨"loop",
    [⟨.start, [⟨Port.exit, some 1⟩]⟩, ⟨.condition "first", [⟨Port.exit, some 0⟩]⟩]⟩

/-- Where no branch asks for a cell, the reports are right: these walks never rest. -/
theorem cycle_reports_tell_long_walks_carousel :
    let manner : Manner := ⟨.instant, .standard, .standard⟩
    let memory : Memory := ⟨Flags.empty.declareFlag "first" false, none⟩
    let came := (⟨some .carousel, some 0, none, false, .standard⟩ : Storyline).advance memory.flags
    ((Dialog.run manner .carousel 0 none memory).value.wait = some (.stalled .endless) ∧
        (DialogGraph.carousel.walking manner.tracing).Endless ⟨0, memory⟩) ∧
      (came.value.1 = .waiting ∧ ScenarioGraph.carousel.cycleEntry ∈ came.entries) ∧
      ScenarioGraph.carousel.walking.Endless ⟨0, memory.flags⟩ := by
  intro manner memory came
  have judged := cycle_reports_tell_long_walks .carousel manner 0 none memory .carousel
    (.empty .standard) 0 memory.flags
  have stalled : (Dialog.run manner .carousel 0 none memory).value.wait =
      some (.stalled .endless) := by decide
  have told : came.value.1 = .waiting ∧ ScenarioGraph.carousel.cycleEntry ∈ came.entries := by
    decide
  exact ⟨⟨stalled, (judged.1.apart (by decide)).1 stalled⟩, told,
    (judged.2.apart (by decide)).1 told⟩

/-- A dialog that counts its rounds, and ends after the third. -/
def DialogGraph.laps : DialogGraph :=
  ⟨⟨"laps",
    [⟨.start, [⟨Port.exit, some 1⟩]⟩,
      ⟨.branch .automatic
          [⟨"done", some ⟨.unit "laps", .greaterOrEqual⟩, 1, []⟩,
            ⟨"on", none, 0, [.addValue "laps" 1]⟩],
        [⟨Port.option 0, some 2⟩, ⟨Port.option 1, some 1⟩]⟩,
      ⟨.finish, []⟩]⟩, none⟩

/-- A scenario that raises one flag after the other, the last of which leads out of the round. -/
def ScenarioGraph.ladder : ScenarioGraph :=
  ⟨"ladder",
    [⟨.start, [⟨Port.exit, some 1⟩]⟩,
      ⟨.branch
          [⟨some ⟨.flag "third", .equal⟩, 3⟩, ⟨some ⟨.flag "second", .equal⟩, 2⟩,
            ⟨some ⟨.flag "first", .equal⟩, 1⟩, ⟨none, 0⟩],
        [⟨Port.option 0, some 5⟩, ⟨Port.option 1, some 4⟩, ⟨Port.option 2, some 3⟩,
          ⟨Port.option 3, some 2⟩]⟩,
      ⟨.condition "first", [⟨Port.exit, some 1⟩]⟩,
      ⟨.condition "second", [⟨Port.exit, some 1⟩]⟩,
      ⟨.condition "third", [⟨Port.exit, some 1⟩]⟩,
      ⟨.cutIn, []⟩]⟩

/-- Three rounds to count, and three flags to raise. -/
def Flags.rounds : Flags :=
  (((Flags.empty.declareUnit "laps" 0 3).declareFlag "first" false).declareFlag "second"
    false).declareFlag "third" false

/-- A walk that goes round three times is reported, although without a bound it would come to the
end of the dialog. An advance that goes round three times is reported, although without a bound it
would come to the scene that is cut into the play. -/
theorem cycle_reports_premature :
    let manner : Manner := ⟨.instant, .standard, .standard⟩
    let memory : Memory := ⟨.rounds, none⟩
    let storyline : Storyline := ⟨some .ladder, some 0, none, false, .standard⟩
    (Dialog.run manner .laps 0 none memory).value.wait = some (.stalled .endless) ∧
      ¬(DialogGraph.laps.walking manner.tracing).Endless ⟨0, memory⟩ ∧
      ((storyline.advance .rounds).value.1 = .waiting ∧
        ScenarioGraph.ladder.cycleEntry ∈ (storyline.advance .rounds).entries) ∧
      ¬ScenarioGraph.ladder.walking.Endless ⟨0, .rounds⟩ := by
  refine ⟨by decide, fun endless => ?_, by decide, fun endless => ?_⟩
  · exact endless 5 _ rfl (.finish rfl)
  · let raised := ["first", "second", "third"].foldl
      (fun flags flag => (flags.activate flag).value.2) Flags.rounds
    have stands : ScenarioGraph.ladder.walking.after 7 ⟨0, .rounds⟩ = some ⟨1, raised⟩ := rfl
    have goes : ScenarioGraph.ladder.GoesTo raised 1 5 := Storyline.leave_iff.1 rfl
    exact endless 7 _ stands (.arrives goes rfl)

end Narrative
