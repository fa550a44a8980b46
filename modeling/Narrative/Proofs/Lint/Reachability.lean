import Narrative.Lint.Flow
import Narrative.Proofs.Conversation.Press
import Narrative.Proofs.Graph.Search
import Narrative.Proofs.Repertoire.Provenance
import Narrative.Proofs.Repertoire.Walks
import Narrative.Proofs.Storyline.Journey

/-!
# Nodes that are reported as out of reach

The lint reports the nodes of a graph that no way over connected ports leads to from its start. All
three walks go over connected ports and begin at the start: a dialog, the scenario, and the offers
of a character. So none of them ever comes to a node that is reported, whatever the flags and
whatever the player does. What carries this is one invariant of each of the three: the node where it
stands can be reached from the start of its graph.
-/

namespace Narrative

open Dialog (Memory)

/-- Whether a node can be reached from the start of its graph. -/
def Graph.Entered {κ : Type} [NodeKind κ] (graph : Graph κ) (id : NodeId) : Prop :=
  ∃ first, graph.start? = some first ∧ graph.Reaches first id

namespace Graph

variable {κ : Type} [NodeKind κ] {graph : Graph κ} {first id next : NodeId}

/-- The start can be reached. -/
theorem entered_start (begins : graph.start? = some first) : graph.Entered first :=
  ⟨first, begins, .refl⟩

/-- What can be reached from such a node can be reached, too. -/
theorem Entered.trans (entered : graph.Entered id) (reaches : graph.Reaches id next) :
    graph.Entered next := by
  obtain ⟨first, begins, reached⟩ := entered
  exact ⟨first, begins, reached.trans reaches⟩

/-- A graph that starts at a node has that start. -/
theorem start?_of_start (begins : graph.start = .ok first) : graph.start? = some first := by
  unfold start at begins
  split at begins
  · next found => exact found.trans (congrArg some (Except.ok.inj begins))
  · cases begins

/-- The start is one of the nodes. -/
theorem start?_lt (begins : graph.start? = some first) : first < graph.size := by
  have starts : graph.start = .ok first := by
    unfold start
    rw [begins]
  exact start_lt starts

/-- A node that can be reached is one of the graph. -/
theorem Entered.lt (entered : graph.Entered id) : id < graph.size := by
  obtain ⟨first, begins, reached⟩ := entered
  cases reached with
  | refl => exact start?_lt begins
  | tail _ leads => exact leads.lt

end Graph

namespace Lint

variable {κ : Type} [NodeKind κ] {graph : Graph κ} {first id : NodeId}

/-- The nodes reported are those that do not start the graph and cannot be reached. -/
theorem mem_unreached_iff (begins : graph.start? = some first) :
    id ∈ unreached graph ↔
      (∃ kind, graph.kind? id = some kind ∧ NodeKind.isStart kind = false) ∧
        ¬graph.Reaches first id := by
  have reached := (Graph.reachable_searches (Graph.start?_lt begins)).2 id
  have inside : (∃ kind, graph.kind? id = some kind ∧ NodeKind.isStart kind = false) ↔
      id < graph.size ∧ (graph.kind? id).any NodeKind.isStart = false := by
    constructor
    · rintro ⟨kind, known, ordinary⟩
      obtain ⟨node, found, -⟩ := Option.map_eq_some_iff.1 known
      refine ⟨(List.getElem?_eq_some_iff.1 found).1, ?_⟩
      rw [known]
      exact ordinary
    · rintro ⟨inside, ordinary⟩
      obtain ⟨kind, known⟩ := Graph.kind?_of_lt inside
      rw [known] at ordinary
      exact ⟨kind, known, ordinary⟩
  unfold unreached Graph.ids
  rw [begins, inside, ← reached]
  dsimp only
  rw [List.mem_filter, List.mem_range]
  simp only [Bool.and_eq_true, Bool.not_eq_true', List.contains_eq_mem, decide_eq_false_iff_not,
    and_assoc, and_congr_right_iff]
  exact fun _ => and_comm

/-- The nodes are reported in order. -/
theorem unreached_sorted (graph : Graph κ) : (unreached graph).Pairwise (· < ·) := by
  unfold unreached
  split
  · exact .nil
  · exact List.pairwise_lt_range.filter _

/-- A node that can be reached is not reported. -/
theorem not_mem_unreached (entered : graph.Entered id) : id ∉ unreached graph := by
  obtain ⟨first, begins, reached⟩ := entered
  exact fun reported => ((mem_unreached_iff begins).1 reported).2 reached

end Lint

/-- A path comes to nodes that can be reached from its root. -/
theorem DialogGraph.Path.reaches {dialog : DialogGraph} {tracing : Tracing} {root last : NodeId}
    {memory : Memory} {legs : List Leg} (path : dialog.Path tracing root memory legs last) :
    ∀ id ∈ legs.map Leg.node ++ [last], dialog.graph.Reaches root id := by
  induction path with
  | nil node memory =>
    intro id member
    obtain rfl := List.mem_singleton.1 member
    exact .refl
  | cons opens connected _ ih =>
    intro id member
    obtain rfl | later := List.mem_cons.1 member
    · exact .refl
    · exact .head ⟨_, connected⟩ (ih id later)

/-- A conversation whose running dialog stands on a node that can be reached. -/
def Conversation.Entered (conversation : Conversation) : Prop :=
  ∀ session, conversation.session = some session → session.dialog.graph.Entered session.node

namespace Conversation

variable {conversation : Conversation} {session : Session} {manner : Dialog.Manner}

/-- A conversation without a dialog stands nowhere. -/
theorem entered_of_idle (idle : conversation.session = none) : conversation.Entered := by
  intro session found
  rw [idle] at found
  cases found

/-- A turn goes to a node that can be reached. -/
theorem entered_of_goes {tracing : Tracing} {dialog : DialogGraph} {root last : NodeId}
    {memory : Memory} {legs : List Leg} {turn : Turn}
    (goes : turn.Goes tracing dialog root memory legs last) (begins : dialog.graph.Entered root) :
    turn.conversation.Entered := by
  intro session running
  obtain ⟨rfl, rfl⟩ := goes.stands session running
  exact begins.trans (goes.path.reaches _ List.mem_concat_self)

/-- A turn that stays does so on a node that can be reached. -/
theorem entered_of_stays {turn : Turn} {flags : Flags}
    (stays : turn.Stays conversation session flags)
    (entered : session.dialog.graph.Entered session.node) : turn.conversation.Entered := by
  obtain ⟨after, running, dialog, node⟩ | ⟨ended, -⟩ := stays.stands
  · intro other found
    obtain rfl := Option.some.inj (running.symm.trans found)
    rw [dialog, node]
    exact entered
  · exact entered_of_idle ended

/-- Every command keeps a conversation on nodes that can be reached. -/
theorem Entered.obey (entered : conversation.Entered) (integral : conversation.Integral manner)
    (command : Command) : (conversation.obey command).Entered := by
  cases command with
  | start dialog music flags =>
    unfold Conversation.obey
    dsimp only
    split
    · exact entered
    · next started =>
      obtain ⟨root, last, begins, goes⟩ := start_goes started
      exact entered_of_goes goes (Graph.entered_start (Graph.start?_of_start begins))
  | resume tick animating flags =>
    change Entered (conversation.resume tick animating flags).value.conversation
    cases running : conversation.session with
    | none =>
      unfold resume
      rw [running]
      dsimp only
      split <;> exact entered_of_idle rfl
    | some session =>
      have here := entered session running
      have steps := resume_steps integral running tick animating flags
      cases left : conversation.resumeLegs tick animating flags with
      | nil =>
        rw [left] at steps
        cases steps with
        | stay stays => exact entered_of_stays stays here
      | cons leg rest =>
        rw [left] at steps
        cases steps with
        | go asks same goes passing => exact entered_of_goes goes here
  | abandon =>
    change Entered conversation.abandon.value.1
    unfold abandon
    split
    · exact entered
    · exact entered_of_idle rfl
  | reset => exact entered_of_idle rfl
  | takeRequested => exact entered

/-- Commands in order keep a conversation on nodes that can be reached. -/
theorem Entered.obeyAll (entered : conversation.Entered) (integral : conversation.Integral manner)
    (commands : List Command) : (conversation.obeyAll commands).Entered := by
  induction commands generalizing conversation with
  | nil => exact entered
  | cons command rest ih => exact ih (entered.obey integral command) (integral.obey command)

end Conversation

/-- A path comes to nodes that can be reached from its root. -/
theorem ScenarioGraph.Path.reaches {graph : ScenarioGraph} {root : NodeId} {moves : List Move}
    (path : graph.Path root moves) : ∀ move ∈ moves, graph.Reaches root move.node := by
  induction moves generalizing root with
  | nil => nofun
  | cons first rest ih =>
    obtain ⟨goes, onward⟩ := path
    intro move member
    obtain rfl | later := List.mem_cons.1 member
    · exact .single goes.leads
    · exact .head goes.leads (ih onward move later)

namespace Advance.Recounts

variable {graph : ScenarioGraph} {tracing : Tracing} {bound : Nat} {node : NodeId}
  {visited : List NodeId} {advance : Advance}

/-- An advance comes to nodes that can be reached from where the storyline stood. -/
theorem reaches (recounts : advance.Recounts graph tracing bound node visited) :
    ∀ id ∈ visited, graph.Reaches node id := by
  intro id member
  have nodes : (graph.moves advance.before visited).map Move.node = visited :=
    ScenarioGraph.nodes_moves ..
  rw [← nodes] at member
  obtain ⟨move, moved, rfl⟩ := List.mem_map.1 member
  exact recounts.path.reaches move moved

/-- So can the node where it stops. -/
theorem reaches_last (recounts : advance.Recounts graph tracing bound node visited) :
    graph.Reaches node (visited.getLastD node) := by
  cases visited using List.reverseRecOn with
  | nil => exact .refl
  | append_singleton earlier last =>
    rw [List.getLastD_concat]
    exact recounts.reaches last List.mem_concat_self

end Advance.Recounts

/-- What can be asked of a storyline. -/
inductive Storyline.Command where
  /-- Load a scenario, or report that there is none. -/
  | load (scenario : Option ScenarioGraph)
  /-- Move on to the next node that asks for something. -/
  | advance (flags : Flags)
  /-- Go back to the start of the scenario. -/
  | reset

namespace Storyline

variable {storyline : Storyline} {graph : ScenarioGraph} {node : NodeId} {tracing : Tracing}

/-- The storyline after a command. -/
def obey (storyline : Storyline) : Command → Storyline
  | .load scenario => (storyline.load scenario).value
  | .advance flags => (storyline.advance flags).value.2.1
  | .reset => storyline.reset.value

/-- The storyline after commands in order. -/
def obeyAll (storyline : Storyline) : List Command → Storyline
  | [] => storyline
  | command :: rest => (storyline.obey command).obeyAll rest

/-- A storyline that stands on a node that can be reached, if it stands anywhere. -/
structure Entered (tracing : Tracing) (storyline : Storyline) : Prop where
  /-- The filter of the log. -/
  tracing : storyline.tracing = tracing
  /-- The node can be reached from the start of the scenario. -/
  node : ∀ graph node, storyline.graph = some graph → storyline.node = some node →
    graph.Entered node

/-- A storyline that stands at the start of its scenario. -/
theorem entered_startOf (graph : ScenarioGraph) {node : NodeId}
    (stands : (startOf graph).value = some node) : graph.Entered node := by
  unfold startOf at stands
  split at stands
  · next found =>
    obtain rfl := Option.some.inj stands
    exact Graph.entered_start (Graph.start?_of_start found)
  · cases stands

/-- Every command keeps a storyline on nodes that can be reached. -/
theorem Entered.obey (entered : storyline.Entered tracing) (command : Command) :
    (storyline.obey command).Entered tracing := by
  cases command with
  | load scenario =>
    cases scenario with
    | none => exact ⟨entered.tracing, nofun⟩
    | some scenario =>
      refine ⟨entered.tracing, fun graph node same stands => ?_⟩
      obtain rfl := Option.some.inj same
      exact entered_startOf _ stands
  | advance flags =>
    change Entered tracing (storyline.advance flags).value.2.1
    cases loaded : storyline.graph with
    | none =>
      rw [advance_idle (.inl loaded)]
      exact ⟨entered.tracing, entered.node⟩
    | some graph =>
      cases placed : storyline.node with
      | none =>
        rw [advance_idle (.inr placed)]
        exact ⟨entered.tracing, entered.node⟩
      | some node =>
        obtain ⟨visited, recounts, stands⟩ :=
          advance_recounts ⟨loaded, placed, entered.tracing⟩ flags
        refine ⟨stands.tracing, fun other id same standing => ?_⟩
        obtain rfl := Option.some.inj (stands.graph.symm.trans same)
        obtain rfl := Option.some.inj (stands.node.symm.trans standing)
        exact (entered.node _ _ loaded placed).trans recounts.reaches_last
  | reset =>
    change Entered tracing storyline.reset.value
    unfold reset
    split
    · next graph loaded =>
      refine ⟨entered.tracing, fun other node same stands => ?_⟩
      obtain rfl := Option.some.inj (loaded.symm.trans same)
      exact entered_startOf _ stands
    · exact ⟨entered.tracing, nofun⟩

/-- Commands in order keep a storyline on nodes that can be reached. -/
theorem Entered.obeyAll (entered : storyline.Entered tracing) (commands : List Command) :
    (storyline.obeyAll commands).Entered tracing := by
  induction commands generalizing storyline with
  | nil => exact entered
  | cons command rest ih => exact ih (entered.obey command)

end Storyline

namespace OfferGraph

variable {graph : OfferGraph} {flags : Flags} {node place : NodeId} {accepted : Option String}
  {turns : List NodeId}

/-- A walk that turns from branch to branch comes to nodes that can be reached from where it began.
-/
theorem reaches_of_turns (chain : List.IsChain (graph.TurnsTo flags) (node :: turns)) :
    ∀ id ∈ node :: turns, graph.Reaches node id := by
  induction turns generalizing node with
  | nil =>
    intro id member
    obtain rfl := List.mem_singleton.1 member
    exact .refl
  | cons next rest ih =>
    obtain ⟨turn, onward⟩ := List.isChain_cons_cons.1 chain
    intro id member
    obtain rfl | later := List.mem_cons.1 member
    · exact .refl
    · exact .head turn.1.leads (ih onward id later)

/-- The place that a decision leads to can be reached from where it is made. -/
theorem Decides.reaches (decides : graph.Decides flags node place accepted) :
    graph.Reaches node place := by
  cases decides with
  | accepts candidate _ =>
    obtain follows | ⟨-, rfl⟩ := candidate
    · exact .single follows.leads
    · exact .refl
  | refuses _ => exact .refl

end OfferGraph

namespace Lint

/-- In a graph with a start, the search for the nodes that can be reached ends, and the nodes that
are reported are those that do not start the graph and that no way over connected ports leads to
from the start, in order and each once. And no walk comes to a node that is reported, neither on its
way nor where it stops: not a dialog, whatever was asked of the conversation before; not the
scenario, whatever was asked of the storyline before; and not the walk of a character in an offer
graph, whatever was asked of the characters of the bundle before. -/
theorem unreached_never_entered :
    (∀ (κ : Type) [NodeKind κ] (graph : Graph κ) (first : NodeId), graph.start? = some first →
      graph.Searches [] [first] (graph.reachable first) ∧
      (∀ place, graphReachability place graph =
        (unreached graph).map fun id => ⟨place, some id, .unreachable⟩) ∧
      (unreached graph).Pairwise (· < ·) ∧
      ∀ id, id ∈ unreached graph ↔
        (∃ kind, graph.kind? id = some kind ∧ NodeKind.isStart kind = false) ∧
          ¬graph.Reaches first id) ∧
    (∀ (config : Config) (commands : List Conversation.Command),
      let conversation := (Conversation.ofConfig config).obeyAll commands
      (∀ dialog music flags turn, conversation.start dialog music flags = .ok turn →
        let legs := conversation.startLegs dialog flags
        ∃ root last, dialog.graph.start? = some root ∧
          turn.value.Goes config.tracing dialog root (conversation.memory flags) legs last ∧
          ∀ id ∈ legs.map Leg.node ++ [last], id ∉ unreached dialog.graph) ∧
      ∀ session, conversation.session = some session →
        session.node ∉ unreached session.dialog.graph ∧ ∀ tick animating flags,
          let legs := conversation.resumeLegs tick animating flags
          let turn := (conversation.resume tick animating flags).value
          (legs = [] ∧ turn.Stays conversation session flags) ∨
            ∃ last, turn.Goes config.tracing session.dialog session.node
                (conversation.memory flags) legs last ∧
              ∀ id ∈ legs.map Leg.node ++ [last], id ∉ unreached session.dialog.graph) ∧
    (∀ (tracing : Tracing) (commands : List Storyline.Command),
      let storyline := (Storyline.empty tracing).obeyAll commands
      ∀ graph node, storyline.graph = some graph → storyline.node = some node →
        node ∉ unreached graph ∧ ∀ flags,
          let came := storyline.advance flags
          ∃ visited, Advance.Recounts graph tracing (graph.size + 1) node visited
              ⟨flags, came.value.1, came.value.2.1.node, came.value.2.2, came.entries⟩ ∧
            ∀ id ∈ visited, id ∉ unreached graph) ∧
    ∀ (tracing : Tracing) (bundle : Bundle) (questions : List Question),
      let asked := (Repertoire.empty tracing).askAll bundle questions
      (∀ character name node graph, asked.place? character name = some node →
        bundle.offers.get? name = some graph → node ∉ unreached graph) ∧
      ∀ question name graph node, asked.Opens bundle question name graph node →
        let came := (Repertoire.walk asked.tracing graph question.flags (graph.size + 1) node).value
        (asked.ask bundle question).place? question.character name = some came.1 ∧
        ∃ turns, List.IsChain (graph.TurnsTo question.flags) (node :: turns) ∧
          (graph.Decides question.flags (turns.getLastD node) came.1 came.2 ∨
            turns.length = graph.size + 1 ∧ came = (turns.getLastD node, none)) ∧
          ∀ id ∈ node :: turns ++ [came.1], id ∉ unreached graph := by
  refine ⟨fun κ _ graph first begins => ?_, fun config commands => ?_, fun tracing commands => ?_,
    fun tracing bundle questions => ?_⟩
  · obtain ⟨searches, -⟩ := Graph.reachable_searches (Graph.start?_lt begins)
    exact ⟨searches, fun _ => rfl, unreached_sorted graph, fun _ => mem_unreached_iff begins⟩
  · intro conversation
    have built : (Conversation.ofConfig config).Integral (Conversation.ofConfig config).manner :=
      Conversation.integral_of_idle rfl rfl
    have integral := built.obeyAll commands
    have entered := (Conversation.entered_of_idle rfl).obeyAll built commands
    refine ⟨fun dialog music flags turn started => ?_, fun session running => ⟨?_, ?_⟩⟩
    · obtain ⟨root, last, begins, goes⟩ := Conversation.start_goes started
      rw [integral.manner] at goes
      have found := Graph.start?_of_start begins
      refine ⟨root, last, found, goes, fun id member => not_mem_unreached ?_⟩
      exact (Graph.entered_start found).trans (goes.path.reaches id member)
    · exact not_mem_unreached (entered session running)
    · intro tick animating flags legs turn
      have steps : Conversation.Steps conversation session flags legs turn :=
        Conversation.resume_steps integral running ..
      clear_value legs turn
      cases steps with
      | stay stays => exact .inl ⟨rfl, stays⟩
      | go _ _ goes _ =>
        rw [integral.manner] at goes
        refine .inr ⟨_, goes, fun id member => not_mem_unreached ?_⟩
        exact (entered session running).trans (goes.path.reaches id member)
  · intro storyline graph node loaded placed
    have begun : (Storyline.empty tracing).Entered tracing := ⟨rfl, nofun⟩
    have entered := begun.obeyAll commands
    have here := entered.node graph node loaded placed
    refine ⟨not_mem_unreached here, fun flags => ?_⟩
    obtain ⟨visited, recounts, -⟩ :=
      Storyline.advance_recounts ⟨loaded, placed, entered.tracing⟩ flags
    exact ⟨visited, recounts, fun id member =>
      not_mem_unreached (here.trans (recounts.reaches id member))⟩
  · intro asked
    have begun : (Repertoire.empty tracing).Housed bundle := fun _ _ _ placed => by cases placed
    have housed := begun.askAll questions
    -- A place is a node that can be reached.
    have entered {name : String} {node : NodeId} {graph : OfferGraph}
        (houses : bundle.Houses name node) (stored : bundle.offers.get? name = some graph) :
        graph.Entered node := by
      obtain ⟨other, first, -, same, begins, reached, -⟩ := houses
      obtain rfl := Option.some.inj (stored.symm.trans same)
      exact ⟨first, begins, reached⟩
    refine ⟨fun character name node graph placed stored =>
      not_mem_unreached (entered (housed character name node placed) stored), ?_⟩
    intro question name graph node opens came
    have here : graph.Entered node := entered (opens.houses housed) opens.concerns.stored
    obtain ⟨turns, chain, decides⟩ :=
      Repertoire.walk_passes asked.tracing graph question.flags (graph.size + 1) here.lt
    have last : graph.Reaches node (turns.getLastD node) :=
      Graph.reaches_of_isChain (chain.imp fun _ _ turns => turns.1.leads)
    refine ⟨opens.takes.2, turns, chain, decides, fun id member => not_mem_unreached ?_⟩
    obtain turned | stopped := List.mem_append.1 member
    · exact here.trans (OfferGraph.reaches_of_turns chain id turned)
    · obtain rfl := List.mem_singleton.1 stopped
      obtain decides | ⟨-, same⟩ := decides
      · exact here.trans (last.trans decides.reaches)
      · rw [show came.1 = turns.getLastD node from congrArg Prod.fst same]
        exact here.trans last

end Lint

/-- A line that comes back to itself, and an end that only a second port of a name points at. -/
def DialogGraph.island : DialogGraph :=
  ⟨⟨"island",
    [⟨.start, [⟨Port.exit, some 1⟩, ⟨Port.exit, some 2⟩]⟩,
      ⟨.line ⟨.narrator, "Waves.", none⟩, [⟨Port.exit, some 1⟩, ⟨"beyond", some 7⟩]⟩,
      ⟨.finish, []⟩]⟩, none⟩

/-- The end of the island is reported, and no dialog comes there. -/
theorem Lint.unreached_never_entered_island :
    let island := DialogGraph.island
    unreached island.graph = [2] ∧ ¬island.graph.Reaches 0 2 ∧
      ∀ config commands session,
        ((Conversation.ofConfig config).obeyAll commands).session = some session →
          session.dialog = island → session.node ≠ 2 := by
  intro island
  have reported : unreached island.graph = [2] := by decide
  obtain ⟨-, -, -, reports⟩ := unreached_never_entered.1 DialogNode island.graph 0 rfl
  refine ⟨reported, ((reports 2).1 (reported ▸ List.mem_singleton_self 2)).2, ?_⟩
  intro config commands session running same there
  obtain ⟨spared, -⟩ := (unreached_never_entered.2.1 config commands).2 session running
  rw [same, reported, there] at spared
  exact spared (List.mem_singleton_self 2)

end Narrative
