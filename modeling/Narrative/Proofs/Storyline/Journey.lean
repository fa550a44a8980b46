import Narrative.Proofs.Branch
import Narrative.Proofs.Graph.Cycle
import Narrative.Storyline

/-!
# The journey of a storyline

A storyline goes from node to node, and every advance goes on where the one before it stopped. A
branch is left by the option that it resolves to under the flags of that moment, and any other node
by its only way out. However the walk is cut into advances, and whatever becomes of the flags
between them, the nodes that it comes to form one path from the start of the scenario, and what the
advances ask for is what the nodes on this path ask for.
-/

namespace Narrative

/-- A node that a storyline came to, with the flags under which it left the node before. -/
structure Move where
  /-- The flags under which the way was chosen. -/
  flags : Flags
  /-- The node that it led to. -/
  node : NodeId
  deriving DecidableEq

namespace ScenarioGraph

variable (graph : ScenarioGraph)

/-- Whether a port is the way out of a node: that of the option to which a branch resolves, and the
only one of any other node. -/
def LeavesBy (flags : Flags) (node : NodeId) (port : String) : Prop :=
  match graph.kind? node with
  | some (.branch options) =>
    ∃ index, (Branch.resolve flags options).value = some index ∧ port = Port.option index
  | _ => port = Port.exit

/-- Whether the way out of a node leads to another. -/
def GoesTo (flags : Flags) (node next : NodeId) : Prop :=
  ∃ port, graph.LeavesBy flags node port ∧ graph.connected? node port = some next

/-- Moves in a row, each along the way out of the node before. -/
def Path (node : NodeId) : List Move → Prop
  | [] => True
  | move :: rest => graph.GoesTo move.flags node move.node ∧ Path move.node rest

/-- The flags after a node was come to. A condition has its flag activated; nothing else changes
them. -/
def activateAt (flags : Flags) (node : NodeId) : Flags :=
  match graph.kind? node with
  | some (.condition flag) => (flags.activate flag).value.2
  | _ => flags

/-- The moves that come to some nodes in order, if the flags change on the way only. -/
def moves (flags : Flags) : List NodeId → List Move
  | [] => []
  | node :: rest => ⟨flags, node⟩ :: moves (graph.activateAt flags node) rest

/-- What the node at a position asks for: a step of its own for each of five sorts of node, and
nothing for the start, branches and conditions, which only lead on. -/
def asked? (node : NodeId) : Option StoryStep :=
  match graph.kind? node with
  | some (.enterScene target) => some (.enterState target)
  | some (.sceneChange target) => some (.switchState target)
  | some (.event dialog) => some (.playDialog dialog false)
  | some (.ending dialog) => some (.playDialog dialog true)
  | some .cutIn => some .cutIn
  | _ => none

/-- What is reported of coming to a node. -/
def arrivalEntry (node : NodeId) : Entry :=
  let label := (graph.kind? node).elim "" NodeKind.label
  ⟨.debug, .engine, s!"[Scenario] at {node.text} ({label})"⟩

variable {graph}

/-- The nodes of moves are those that they come to. -/
@[simp]
theorem nodes_moves (flags : Flags) (nodes : List NodeId) :
    (graph.moves flags nodes).map Move.node = nodes := by
  induction nodes generalizing flags with
  | nil => rfl
  | cons node rest ih => exact congrArg _ (ih _)

/-- Paths in a row are a path. -/
theorem Path.append {node : NodeId} {first second : List Move} (begins : graph.Path node first)
    (continues : graph.Path ((first.map Move.node).getLastD node) second) :
    graph.Path node (first ++ second) := by
  induction first generalizing node with
  | nil => exact continues
  | cons move rest ih =>
    obtain ⟨goes, onward⟩ := begins
    rw [List.map_cons, List.getLastD_cons] at continues
    exact ⟨goes, ih onward continues⟩

/-- A path goes over connected ports. -/
theorem GoesTo.leads {flags : Flags} {node next : NodeId} (goes : graph.GoesTo flags node next) :
    graph.Leads node next := by
  obtain ⟨port, -, connected⟩ := goes
  exact ⟨port, connected⟩

end ScenarioGraph

/-- One advance of a storyline. -/
structure Advance where
  /-- The flags that it was made under. -/
  before : Flags
  /-- What it asked for. -/
  step : StoryStep
  /-- The node that it came to. -/
  node : Option NodeId
  /-- The flags that it left. -/
  after : Flags
  /-- What it wrote into the log. -/
  entries : List Entry

/-- An advance that left a node and came to some others, passing at most some number of them. The
nodes that it came to are those that it reported. -/
structure Advance.Recounts (graph : ScenarioGraph) (tracing : Tracing) (bound : Nat)
    (node : NodeId) (visited : List NodeId) (advance : Advance) : Prop where
  /-- It went along a path. -/
  path : graph.Path node (graph.moves advance.before visited)
  /-- It stands where the path ends. -/
  stands : advance.node = some (visited.getLastD node)
  /-- Only the conditions on the path changed the flags. -/
  flags : advance.after = visited.foldl graph.activateAt advance.before
  /-- No node on the path asks for anything but what the advance asks for. -/
  asked : visited.filterMap graph.asked? =
    if advance.step = .waiting then [] else [advance.step]
  /-- It stopped at the node that asks for something. -/
  last : advance.step ≠ .waiting → visited.getLast?.bind graph.asked? = some advance.step
  /-- It waits only where no way leads on, or after as many nodes as it may pass. -/
  waits : advance.step = .waiting →
    (∀ next, ¬graph.GoesTo advance.after (visited.getLastD node) next) ∨ visited.length = bound
  /-- It reported every node on the path, if such reports are kept. -/
  told : advance.entries.filter Entry.ofEngine =
    if tracing.allows .engine .debug then visited.map graph.arrivalEntry else []

namespace Storyline

/-- The advances of a storyline under some flags, one after another. Whatever becomes of the flags
between two advances, they are what the second one is made under. -/
def journey (storyline : Storyline) : List Flags → List Advance
  | [] => []
  | flags :: rest =>
    let came := storyline.advance flags
    ⟨flags, came.value.1, came.value.2.1.node, came.value.2.2, came.entries⟩ ::
      came.value.2.1.journey rest

/-- Advances one after another, each of which goes on where the one before it stopped, and the moves
of all of them. -/
inductive Recounted (graph : ScenarioGraph) (tracing : Tracing) :
    NodeId → List Advance → List Move → Prop where
  /-- No advance makes no move. -/
  | nil (node : NodeId) : Recounted graph tracing node [] []
  /-- The moves of an advance come before those of the advances after it. -/
  | cons {node : NodeId} {visited : List NodeId} {advance : Advance} {advances : List Advance}
      {moves : List Move}
      (recounts : advance.Recounts graph tracing (graph.size + 1) node visited)
      (rest : Recounted graph tracing (visited.getLastD node) advances moves) :
      Recounted graph tracing node (advance :: advances)
        (graph.moves advance.before visited ++ moves)

variable {graph : ScenarioGraph} {tracing : Tracing} {node next : NodeId} {flags : Flags}

/-- The port by which a walk leaves a node is the way out of it, and there is none if it has no way
out. -/
theorem wayOut_iff {port : String} :
    (wayOut graph node flags).value = some port ↔ graph.LeavesBy flags node port := by
  unfold wayOut ScenarioGraph.LeavesBy
  cases graph.kind? node with
  | none => simp [eq_comm]
  | some kind =>
    cases kind with
    | branch options =>
      dsimp only
      rw [Logged.value_bind]
      cases (Branch.resolve flags options).value with
      | none => simp
      | some index => simp [eq_comm]
    | _ => simp [eq_comm]

/-- A walk leaves a node for another exactly if the way out leads there. -/
theorem leave_iff : (leave graph node flags).value = some next ↔ graph.GoesTo flags node next := by
  unfold leave ScenarioGraph.GoesTo
  simp only [← wayOut_iff, Logged.value_bind]
  cases (wayOut graph node flags).value with
  | none => simp
  | some port =>
    cases connected : graph.connected? node port with
    | none => simp [connected]
    | some other => simp [connected]

/-- Leaving a node warns of cells and of the flow only. -/
theorem sifted_leave {test : Entry → Bool}
    (cells : ∀ message, test ⟨.warn, .cells, message⟩ = false)
    (flow : ∀ message, test ⟨.warn, .flow, message⟩ = false) :
    (leave graph node flags).sifted test = [] := by
  have wayOut : (wayOut graph node flags).sifted test = [] := by
    unfold wayOut
    split
    · next options _ =>
      rw [Logged.sifted_bind, Branch.sifted_resolve cells, List.nil_append]
      split
      · rfl
      · simp [flow]
    · rfl
  unfold leave
  rw [Logged.sifted_bind, wayOut, List.nil_append]
  split
  · rfl
  · split
    · rfl
    · simp [flow]

/-- Passing a node activates the flag of a condition. -/
theorem value_pass {kind : ScenarioNode} (known : graph.kind? node = some kind) :
    (pass kind flags).value = graph.activateAt flags node := by
  unfold ScenarioGraph.activateAt
  rw [known]
  cases kind <;> rfl

/-- A node that asks for something changes no flag. -/
theorem activateAt_of_asking {kind : ScenarioNode} {step : StoryStep}
    (known : graph.kind? node = some kind) (asks : stepOf kind = some step) :
    graph.activateAt flags node = flags := by
  unfold ScenarioGraph.activateAt
  rw [known]
  cases kind with
  | condition flag => cases asks
  | _ => rfl

/-- Passing a node warns of cells only. -/
theorem sifted_pass {test : Entry → Bool}
    (cells : ∀ message, test ⟨.warn, .cells, message⟩ = false) (kind : ScenarioNode)
    (flags : Flags) : (pass kind flags).sifted test = [] := by
  cases kind with
  | condition flag =>
    unfold pass Flags.activate
    rw [Logged.sifted_map]
    split
    · rfl
    · simp [cells]
  | _ => rfl

/-- An advance asks for what the node that it comes to asks for. -/
theorem stepOf_eq_asked? {kind : ScenarioNode} (known : graph.kind? node = some kind) :
    stepOf kind = graph.asked? node := by
  unfold ScenarioGraph.asked?
  rw [known]
  cases kind <;> rfl

/-- No node asks to wait. -/
theorem stepOf_ne_waiting {kind : ScenarioNode} {step : StoryStep}
    (asks : stepOf kind = some step) : step ≠ .waiting := by
  cases kind <;> cases asks <;> exact nofun

/-- Coming to a node is reported, if such reports are kept. -/
theorem sifted_arrival (tracing : Tracing) {kind : ScenarioNode}
    (known : graph.kind? next = some kind) :
    (tracing.note .engine .debug s!"[Scenario] at {next.text} ({NodeKind.label kind})").sifted
        Entry.ofEngine =
      if tracing.allows .engine .debug then [graph.arrivalEntry next] else [] := by
  unfold ScenarioGraph.arrivalEntry
  rw [known, Logged.sifted_optional, Entry.ofEngine, decide_eq_true rfl, Bool.and_true]
  rfl

/-- An arrival, as an advance under some flags. -/
def Arrival.advance (flags : Flags) (came : Logged Arrival) : Advance :=
  ⟨flags, came.value.step, some came.value.node, came.value.flags, came.entries⟩

/-- A walk that stays where it is waits there. -/
theorem recounts_here {bound : Nat} {came : Logged Arrival}
    (value : came.value = ⟨node, .waiting, flags⟩) (quiet : came.sifted Entry.ofEngine = [])
    (stuck : (∀ next, ¬graph.GoesTo flags node next) ∨ bound = 0) :
    (Arrival.advance flags came).Recounts graph tracing bound node [] where
  path := trivial
  stands := by simp [Arrival.advance, value]
  flags := by simp [Arrival.advance, value]
  asked := by simp [Arrival.advance, value]
  last asks := absurd (by simp [Arrival.advance, value]) asks
  waits _ := by simpa [Arrival.advance, value, eq_comm] using stuck
  told := by simpa [Arrival.advance, Logged.sifted] using quiet

/-- A walk comes to a node that asks for something, and stops there. -/
theorem recounts_asking {bound : Nat} {came : Logged Arrival} {kind : ScenarioNode}
    {step : StoryStep} (goes : graph.GoesTo flags node next)
    (known : graph.kind? next = some kind) (asks : stepOf kind = some step)
    (value : came.value = ⟨next, step, flags⟩)
    (reports : came.sifted Entry.ofEngine =
      if tracing.allows .engine .debug then [graph.arrivalEntry next] else []) :
    (Arrival.advance flags came).Recounts graph tracing bound node [next] := by
  have asked : graph.asked? next = some step := stepOf_eq_asked? known ▸ asks
  have waiting := stepOf_ne_waiting asks
  exact {
    path := ⟨goes, trivial⟩
    stands := by simp [Arrival.advance, value]
    flags := by simp [Arrival.advance, value, activateAt_of_asking known asks]
    asked := by simp [Arrival.advance, value, asked, waiting]
    last := fun _ => by simp [Arrival.advance, value, asked]
    waits := fun waits => absurd (by simpa [Arrival.advance, value] using waits) waiting
    told := by simpa [Arrival.advance, Logged.sifted] using reports }

/-- A walk comes to a node that asks for nothing, and goes on from there. -/
theorem recounts_passing {bound : Nat} {came onward : Logged Arrival} {visited : List NodeId}
    (goes : graph.GoesTo flags node next) (silent : graph.asked? next = none)
    (recounts : (Arrival.advance (graph.activateAt flags next) onward).Recounts graph tracing bound
      next visited)
    (value : came.value = onward.value)
    (reports : came.sifted Entry.ofEngine =
      (if tracing.allows .engine .debug then [graph.arrivalEntry next] else []) ++
        onward.sifted Entry.ofEngine) :
    (Arrival.advance flags came).Recounts graph tracing (bound + 1) node (next :: visited) where
  path := ⟨goes, recounts.path⟩
  stands := by
    rw [List.getLastD_cons, ← recounts.stands]
    simp [Arrival.advance, value]
  flags := by
    rw [List.foldl_cons]
    simpa [Arrival.advance, value] using recounts.flags
  asked := by
    rw [List.filterMap_cons_none silent]
    change _ = if came.value.step = .waiting then [] else [came.value.step]
    rw [value]
    exact recounts.asked
  last asks := by
    have asked := recounts.last (by simpa [Arrival.advance, value] using asks)
    -- Something was asked for later on, so that the last node is the same.
    obtain ⟨id, last, asks⟩ := Option.bind_eq_some_iff.1 asked
    rw [List.getLast?_cons, last]
    simpa [Arrival.advance, value] using asks
  waits waits := by
    rw [List.getLastD_cons, List.length_cons]
    have waited := recounts.waits (by simpa [Arrival.advance, value] using waits)
    simpa [Arrival.advance, value] using waited
  told := by
    have later : onward.sifted Entry.ofEngine = _ := recounts.told
    refine reports.trans ?_
    rw [later]
    split
    · rfl
    · rfl

/-- A walk goes along a path, changes the flags by the conditions on it only, and stops at the first
node that asks for something. -/
theorem walk_recounts (graph : ScenarioGraph) (tracing : Tracing) (bound : Nat) (node : NodeId)
    (flags : Flags) :
    ∃ visited, (Arrival.advance flags (walk tracing graph bound node flags)).Recounts graph tracing
      bound node visited := by
  induction bound generalizing node flags with
  | zero => exact ⟨[], recounts_here rfl rfl (.inr rfl)⟩
  | succ bound ih =>
    have leaves : (leave graph node flags).sifted Entry.ofEngine = [] :=
      sifted_leave (fun _ => rfl) (fun _ => rfl)
    have passes (kind : ScenarioNode) : (pass kind flags).sifted Entry.ofEngine = [] :=
      sifted_pass (fun _ => rfl) kind flags
    unfold walk
    cases left : (leave graph node flags).value with
    | none =>
      have stuck (next : NodeId) : ¬graph.GoesTo flags node next := by
        rw [← leave_iff, left]
        exact nofun
      refine ⟨[], recounts_here ?_ ?_ (.inl stuck)⟩
      · rw [Logged.value_bind, left]
        rfl
      · rw [Logged.sifted_bind, leaves, left]
        rfl
    | some next =>
      have goes := leave_iff.1 left
      obtain ⟨kind, known⟩ := Graph.kind?_of_lt goes.leads.lt
      have arrival := sifted_arrival tracing known
      cases asks : stepOf kind with
      | some step =>
        refine ⟨[next], recounts_asking goes known asks ?_ ?_⟩
        · simp [left, known, asks]
        · simp [left, known, asks, leaves, arrival]
      | none =>
        have silent : graph.asked? next = none := stepOf_eq_asked? known ▸ asks
        obtain ⟨visited, recounts⟩ := ih next (graph.activateAt flags next)
        refine ⟨next :: visited, recounts_passing goes silent recounts ?_ ?_⟩
        · simp [left, known, asks, value_pass known]
        · simp [left, known, asks, leaves, passes, arrival, value_pass known]

variable {storyline : Storyline}

/-- A storyline that stands on a node of a scenario. -/
structure StandsOn (graph : ScenarioGraph) (tracing : Tracing) (node : NodeId)
    (storyline : Storyline) : Prop where
  /-- The scenario is this one. -/
  graph : storyline.graph = some graph
  /-- The node is this one. -/
  node : storyline.node = some node
  /-- The filter of the log is this one. -/
  tracing : storyline.tracing = tracing

/-- An advance goes along a path from the node that the storyline stands on. -/
theorem advance_recounts (stands : storyline.StandsOn graph tracing node) (flags : Flags) :
    let came := storyline.advance flags
    ∃ visited,
      Advance.Recounts graph tracing (graph.size + 1) node visited
        ⟨flags, came.value.1, came.value.2.1.node, came.value.2.2, came.entries⟩ ∧
      came.value.2.1.StandsOn graph tracing (visited.getLastD node) := by
  obtain ⟨visited, recounts⟩ := walk_recounts graph tracing (graph.size + 1) node flags
  have entries : (storyline.advance flags).entries =
      (walk tracing graph (graph.size + 1) node flags).entries := by
    unfold advance
    rw [stands.graph, stands.node, stands.tracing]
    exact List.append_nil _
  have value : (storyline.advance flags).value =
      let arrival := (walk tracing graph (graph.size + 1) node flags).value
      (arrival.step,
        { storyline with
          node := some arrival.node
          dialog := dialogAfter storyline.dialog arrival.step
          idleReported := false }, arrival.flags) := by
    unfold advance
    rw [stands.graph, stands.node, stands.tracing]
    rfl
  dsimp only at value ⊢
  rw [value, entries]
  exact ⟨visited, recounts, stands.graph, recounts.stands, stands.tracing⟩

/-- Advances one after another go along paths, each from where the one before it stopped. -/
theorem journey_recounted (stands : storyline.StandsOn graph tracing node)
    (moments : List Flags) :
    ∃ moves, Recounted graph tracing node (storyline.journey moments) moves := by
  induction moments generalizing storyline node with
  | nil => exact ⟨[], .nil node⟩
  | cons flags rest ih =>
    obtain ⟨visited, recounts, onward⟩ := advance_recounts stands flags
    obtain ⟨moves, recounted⟩ := ih onward
    exact ⟨_, .cons recounts recounted⟩

namespace Recounted

variable {advances : List Advance} {moves : List Move}

/-- All moves together are one path. -/
theorem path (recounted : Recounted graph tracing node advances moves) : graph.Path node moves := by
  induction recounted with
  | nil => trivial
  | cons recounts _ ih =>
    refine recounts.path.append ?_
    rw [ScenarioGraph.nodes_moves]
    exact ih

/-- What is asked for is what the nodes on the path ask for. -/
theorem steps (recounted : Recounted graph tracing node advances moves) :
    (advances.map Advance.step).filter (· ≠ .waiting) =
      moves.filterMap fun move => graph.asked? move.node := by
  induction recounted with
  | nil => rfl
  | @cons _ visited advance _ _ recounts _ ih =>
    have asked : (graph.moves advance.before visited).filterMap (graph.asked? ∘ Move.node) =
        visited.filterMap graph.asked? := by
      rw [← List.filterMap_map, ScenarioGraph.nodes_moves]
    change _ = List.filterMap (graph.asked? ∘ Move.node) _ at ih ⊢
    rw [List.filterMap_append, asked, recounts.asked, ← ih, List.map_cons]
    by_cases waits : advance.step = .waiting
    · simp [waits]
    · simp [waits]

end Recounted

/-- A storyline without a scenario or without a place is idle, and leaves the flags alone. -/
theorem advance_idle (homeless : storyline.graph = none ∨ storyline.node = none) (flags : Flags) :
    (storyline.advance flags).value =
      (.idle, { storyline with idleReported := true }, flags) := by
  unfold advance
  obtain unloaded | unplaced := homeless
  · rw [unloaded]
    cases storyline.idleReported <;> rfl
  · rw [unplaced]
    cases storyline.graph <;> cases storyline.idleReported <;> rfl

/-- A storyline without a place stays idle. -/
theorem journey_idle (homeless : storyline.node = none) (moments : List Flags) :
    ∀ advance ∈ storyline.journey moments,
      advance.step = .idle ∧ advance.node = none ∧ advance.after = advance.before := by
  induction moments generalizing storyline with
  | nil => nofun
  | cons flags rest ih =>
    have idle := advance_idle (.inr homeless) flags
    intro advance member
    unfold journey at member
    dsimp only at member
    rw [idle] at member
    obtain rfl | later := List.mem_cons.1 member
    · exact ⟨rfl, homeless, rfl⟩
    · have still : { storyline with idleReported := true }.node = none := homeless
      exact ih still advance later

end Storyline

/-- After a scenario was loaded, the nodes that all advances together come to are a path from its
start, along which every branch is left by the option that it resolves to under the flags of that
moment and every other node by its only way out. What the advances ask for is what the nodes on this
path ask for, each as often as it is come to and in order; an advance that waits, because no way
leads on or because it passed more nodes than there are, is followed by one that goes on from the
same node. The flags are changed by activating the flags of the conditions on the path, and in no
other way, whatever they are set to between the advances. Without a start every advance is idle. -/
theorem storyline_follows_path (scenario : ScenarioGraph) (storyline : Storyline)
    (moments : List Flags) :
    let journey := (storyline.load (some scenario)).value.journey moments
    (∀ first, scenario.start? = some first → ∃ moves,
      scenario.Path first moves ∧
      (journey.map Advance.step).filter (· ≠ .waiting) =
        moves.filterMap (fun move => scenario.asked? move.node) ∧
      Storyline.Recounted scenario storyline.tracing first journey moves) ∧
    (scenario.start? = none → ∀ advance ∈ journey,
      advance.step = .idle ∧ advance.node = none ∧ advance.after = advance.before) := by
  have begun : (storyline.load (some scenario)).value =
      ⟨some scenario, scenario.start?, none, false, storyline.tracing⟩ := by
    unfold Storyline.load Storyline.startOf Graph.start
    dsimp only
    cases scenario.start? <;> rfl
  intro journey
  refine ⟨fun first begins => ?_, fun missing => ?_⟩
  · have stands :
        (storyline.load (some scenario)).value.StandsOn scenario storyline.tracing first := by
      rw [begun]
      exact ⟨rfl, begins, rfl⟩
    obtain ⟨moves, recounted⟩ := Storyline.journey_recounted stands moments
    exact ⟨moves, recounted.path, recounted.steps, recounted⟩
  · refine Storyline.journey_idle ?_ moments
    rw [begun]
    exact missing

/-- A scenario with a node of every sort, in which the option of the branch that is preferred opens
on the way. -/
def ScenarioGraph.tour : ScenarioGraph :=
  ⟨"tour",
    [⟨.start, [⟨Port.exit, some 1⟩]⟩, ⟨.enterScene .title, [⟨Port.exit, some 2⟩]⟩,
      ⟨.condition "met", [⟨Port.exit, some 3⟩]⟩,
      ⟨.branch [⟨none, 0⟩, ⟨some ⟨.flag "met", .equal⟩, 1⟩],
        [⟨Port.option 0, some 7⟩, ⟨Port.option 1, some 4⟩]⟩,
      ⟨.sceneChange .freeRoam, [⟨Port.exit, some 5⟩]⟩, ⟨.event "hello", [⟨Port.exit, some 6⟩]⟩,
      ⟨.cutIn, [⟨Port.exit, some 7⟩]⟩, ⟨.ending "hello", []⟩]⟩

/-- The tour asks for a step of each of the five sorts, as the nodes on its path do, and then
waits. -/
theorem storyline_follows_path_tour :
    let before := Flags.empty.declareFlag "met" false
    let journey := ((Storyline.empty .standard).load (some .tour)).value.journey
      (List.replicate 6 before)
    journey.map Advance.step =
        [.enterState .title, .switchState .freeRoam, .playDialog "hello" false, .cutIn,
          .playDialog "hello" true, .waiting] ∧
      ∃ moves, ScenarioGraph.tour.Path 0 moves ∧
        moves.filterMap (fun move => ScenarioGraph.tour.asked? move.node) =
          [.enterState .title, .switchState .freeRoam, .playDialog "hello" false, .cutIn,
            .playDialog "hello" true] := by
  intro before journey
  obtain ⟨moves, path, asked, -⟩ :=
    (storyline_follows_path .tour (.empty .standard) (List.replicate 6 before)).1 0 rfl
  have steps : journey.map Advance.step =
      [.enterState .title, .switchState .freeRoam, .playDialog "hello" false, .cutIn,
        .playDialog "hello" true, .waiting] := rfl
  have returned := congrArg (List.filter (· ≠ .waiting)) steps
  exact ⟨steps, moves, path, asked.symm.trans returned⟩

end Narrative
