import Narrative.Proofs.Graph.Rounds
import Narrative.Proofs.Repertoire.Asking

/-!
# Walks through an offer graph without a bound

A character walks on from node to node as long as the successor is another branch, and then one node
is decided: the successor, or the node itself if it has none. The walk that a question makes is
given up after as many turns as the graph has nodes and one more. Since the flags do not change on
the way, a walk that comes back to a branch goes round for ever; so those walks are given up that
have no end, and every other comes to the decision that it comes to without a bound.
-/

namespace Narrative

namespace OfferGraph

variable (graph : OfferGraph) (flags : Flags)

/-- Whether a port is the way out of a node: the only one of a start and of a content node, and that
of the option to which a branch resolves. An end has none. -/
def LeavesBy (node : NodeId) (port : String) : Prop :=
  match graph.kind? node with
  | some .start => port = Port.exit
  | some (.content ..) => port = Port.exit
  | some (.branch options) =>
    ∃ index, (Branch.resolve flags options).value = some index ∧ port = Port.option index
  | _ => False

/-- Whether a node is the successor of another: the way out leads there, and it is no end. -/
def Follows (node next : NodeId) : Prop :=
  (∃ port, graph.LeavesBy flags node port ∧ graph.connected? node port = some next) ∧
    graph.kind? next ≠ some .finish

/-- Whether a walk turns from a node to another: its successor, which is a branch. -/
def TurnsTo (node next : NodeId) : Prop :=
  graph.Follows flags node next ∧ next ≠ node ∧ ∃ options, graph.kind? next = some (.branch options)

/-- Whether a node is to be decided where a walk stands: the successor, or the node where it stands
if there is none. -/
def IsCandidate (node candidate : NodeId) : Prop :=
  graph.Follows flags node candidate ∨
    (∀ next, ¬graph.Follows flags node next) ∧ candidate = node

/-- What becomes of a walk where it turns no further: the candidate is accepted and becomes the
place if it is a content node whose guard holds, and otherwise the walk stays where it is. -/
inductive Decides (node : NodeId) : NodeId → Option String → Prop where
  /-- The candidate offers a dialog. -/
  | accepts {place : NodeId} {dialog : String} (candidate : graph.IsCandidate flags node place)
      (offers : graph.OffersAt flags place dialog) : Decides node place (some dialog)
  /-- The candidate offers nothing. -/
  | refuses (refused : ∀ candidate dialog, graph.IsCandidate flags node candidate →
      ¬graph.OffersAt flags candidate dialog) : Decides node node none

/-- A walk from a node to the decision at its end: the place that it comes to, and the dialog that
is accepted. -/
inductive Walks : NodeId → NodeId → Option String → Prop where
  /-- It turns no further. -/
  | decides {node place : NodeId} {accepted : Option String}
      (stays : ∀ next, ¬graph.TurnsTo flags node next)
      (decided : graph.Decides flags node place accepted) : Walks node place accepted
  /-- It turns to another branch first. -/
  | turns {node next place : NodeId} {accepted : Option String}
      (turns : graph.TurnsTo flags node next) (onward : Walks next place accepted) :
      Walks node place accepted

/-- Whether a walk from a node turns for ever. -/
def Endless (node : NodeId) : Prop :=
  ∀ there, Relation.ReflTransGen (graph.TurnsTo flags) node there →
    ∃ next, graph.TurnsTo flags there next

/-- What is reported of a walk that is given up. -/
def loopEntry : Entry :=
  ⟨.warn, .flow, s!"dialog-state graph '{graph.name}' loops through branches"⟩

/-- Whether an entry is that report. -/
def isLoop (entry : Entry) : Bool := entry = graph.loopEntry

variable {graph flags} {node next other place : NodeId} {accepted : Option String}

/-- The port by which a walk leaves a node is the way out of it. -/
theorem wayOut_iff {kind : OfferNode} (known : graph.kind? node = some kind) {port : String} :
    (Repertoire.wayOut flags kind).value = some port ↔ graph.LeavesBy flags node port := by
  unfold Repertoire.wayOut LeavesBy
  rw [known]
  cases kind with
  | branch options =>
    dsimp only
    rw [Logged.value_map]
    cases (Branch.resolve flags options).value with
    | none => simp
    | some index => simp [eq_comm]
  | finish => simp
  | _ => simp [eq_comm]

/-- A walk finds the successor of a node. -/
theorem successor?_iff {kind : OfferNode} (known : graph.kind? node = some kind) :
    Repertoire.successor? graph node (Repertoire.wayOut flags kind).value = some next ↔
      graph.Follows flags node next := by
  unfold Repertoire.successor? Follows
  simp only [Option.filter_eq_some_iff, Option.bind_eq_some_iff, wayOut_iff known, bne_iff_ne]

/-- A node with a way out is one of the graph. -/
theorem Follows.known (follows : graph.Follows flags node next) :
    ∃ kind, graph.kind? node = some kind := by
  obtain ⟨⟨port, -, connected⟩, -⟩ := follows
  exact Graph.kind?_of_lt (Graph.Leads.source_lt ⟨port, connected⟩)

/-- A node has one successor at most. -/
theorem Follows.unique (follows : graph.Follows flags node next)
    (also : graph.Follows flags node other) : next = other := by
  obtain ⟨kind, known⟩ := follows.known
  have found := (successor?_iff known).2 follows
  rw [(successor?_iff known).2 also] at found
  exact (Option.some.inj found).symm

/-- A successor is where some port leads. -/
theorem Follows.leads (follows : graph.Follows flags node next) : graph.Leads node next := by
  obtain ⟨⟨port, -, connected⟩, -⟩ := follows
  exact ⟨port, connected⟩

/-- Of two candidates there is only one. -/
theorem IsCandidate.unique (candidate : graph.IsCandidate flags node next)
    (also : graph.IsCandidate flags node other) : next = other := by
  obtain follows | ⟨none, rfl⟩ := candidate
  · obtain too | ⟨none, -⟩ := also
    · exact follows.unique too
    · exact absurd follows (none next)
  · obtain too | ⟨-, rfl⟩ := also
    · exact absurd too (none other)
    · rfl

/-- What a walk decides on is the candidate. -/
theorem isCandidate_successor? {kind : OfferNode} (known : graph.kind? node = some kind) :
    graph.IsCandidate flags node
      ((Repertoire.successor? graph node (Repertoire.wayOut flags kind).value).getD node) := by
  cases found : Repertoire.successor? graph node (Repertoire.wayOut flags kind).value with
  | some next => exact .inl ((successor?_iff known).1 found)
  | none =>
    refine .inr ⟨fun next follows => ?_, rfl⟩
    rw [(successor?_iff known).2 follows] at found
    cases found

/-- A walk turns from a node in one way at most. -/
theorem TurnsTo.unique (turns : graph.TurnsTo flags node next)
    (also : graph.TurnsTo flags node other) : next = other :=
  turns.1.unique also.1

/-- One decision is made. -/
theorem Decides.unique {elsewhere : NodeId} {offered : Option String}
    (decided : graph.Decides flags node place accepted)
    (also : graph.Decides flags node elsewhere offered) :
    place = elsewhere ∧ accepted = offered := by
  cases decided with
  | accepts candidate offers =>
    cases also with
    | accepts too offered =>
      obtain rfl := candidate.unique too
      obtain ⟨guard, content, -⟩ := offers
      obtain ⟨guard', content', -⟩ := offered
      obtain ⟨rfl, -⟩ := OfferNode.content.inj (Option.some.inj (content.symm.trans content'))
      exact ⟨rfl, rfl⟩
    | refuses refused => exact absurd offers (refused _ _ candidate)
  | refuses refused =>
    cases also with
    | accepts too offered => exact absurd offered (refused _ _ too)
    | refuses _ => exact ⟨rfl, rfl⟩

/-- A walk comes to one decision. -/
theorem Walks.unique {elsewhere : NodeId} {offered : Option String}
    (walks : graph.Walks flags node place accepted)
    (also : graph.Walks flags node elsewhere offered) : place = elsewhere ∧ accepted = offered := by
  induction walks with
  | decides stays decided =>
    cases also with
    | decides _ too => exact decided.unique too
    | turns turns _ => exact absurd turns (stays _)
  | turns turns _ ih =>
    cases also with
    | decides stays _ => exact absurd turns (stays _)
    | turns too onward => exact ih (turns.unique too ▸ onward)

/-- A walk that turns first comes to the decision of the walk from there. -/
theorem Walks.of_turns (reaches : Relation.ReflTransGen (graph.TurnsTo flags) node next)
    (walks : graph.Walks flags next place accepted) : graph.Walks flags node place accepted := by
  induction reaches using Relation.ReflTransGen.head_induction_on with
  | refl => exact walks
  | head turns _ ih => exact .turns turns ih

/-- A walk that comes to a decision does not turn for ever. -/
theorem Walks.not_endless (walks : graph.Walks flags node place accepted) :
    ¬graph.Endless flags node := by
  induction walks with
  | decides stays _ =>
    intro endless
    obtain ⟨next, turns⟩ := endless _ .refl
    exact stays next turns
  | turns turns _ ih =>
    exact fun endless => ih fun there reaches => endless there (.head turns reaches)

/-- Where a walk turns no further, something is decided. -/
theorem exists_decides (graph : OfferGraph) (flags : Flags) (node : NodeId) :
    ∃ place accepted, graph.Decides flags node place accepted := by
  by_cases offers : ∃ place dialog, graph.IsCandidate flags node place ∧
      graph.OffersAt flags place dialog
  · obtain ⟨place, dialog, candidate, offers⟩ := offers
    exact ⟨place, some dialog, .accepts candidate offers⟩
  · exact ⟨node, none, .refuses fun place dialog candidate offered =>
      offers ⟨place, dialog, candidate, offered⟩⟩

/-- A walk that does not turn for ever comes to a decision. -/
theorem exists_walks (ends : ¬graph.Endless flags node) :
    ∃ place accepted, graph.Walks flags node place accepted := by
  unfold Endless at ends
  push Not at ends
  obtain ⟨there, reaches, stays⟩ := ends
  obtain ⟨place, accepted, decided⟩ := exists_decides graph flags there
  exact ⟨place, accepted, .of_turns reaches (.decides stays decided)⟩

/-- Where a content node is the successor, it is all that is decided: it is accepted if its guard
holds, and otherwise the walk stays on the node before it. -/
theorem walks_before_content {dialog : String} {guard : Option Condition}
    (follows : graph.Follows flags node next)
    (content : graph.kind? next = some (.content dialog guard)) :
    if (Branch.satisfied flags guard).value then graph.Walks flags node next (some dialog)
    else graph.Walks flags node node none := by
  have stays : ∀ other, ¬graph.TurnsTo flags node other := by
    rintro other ⟨also, -, options, branch⟩
    obtain rfl := follows.unique also
    cases branch.symm.trans content
  split
  · next holds => exact .decides stays (.accepts (.inl follows) ⟨guard, content, holds⟩)
  · next fails =>
    refine .decides stays (.refuses fun place other candidate => ?_)
    rintro ⟨condition, also, holds⟩
    obtain rfl := candidate.unique (.inl follows)
    obtain ⟨-, rfl⟩ := OfferNode.content.inj (Option.some.inj (content.symm.trans also))
    exact fails holds

/-- The successor of a node that is no branch does not depend on the flags. -/
theorem Follows.later (follows : graph.Follows flags node next)
    (unbranched : ∀ options, graph.kind? node ≠ some (.branch options)) (later : Flags) :
    graph.Follows later node next := by
  obtain ⟨⟨port, leaves, connected⟩, goesOn⟩ := follows
  refine ⟨⟨port, ?_, connected⟩, goesOn⟩
  unfold LeavesBy at leaves ⊢
  split at leaves
  · exact leaves
  · exact leaves
  · next options branch => exact absurd branch (unbranched options)
  · exact leaves

/-- Where a walk turns to. -/
def turn? (graph : OfferGraph) (flags : Flags) (node : NodeId) : Option NodeId :=
  (graph.kind? node).bind fun kind =>
    (Repertoire.successor? graph node (Repertoire.wayOut flags kind).value).filter fun next =>
      next ≠ node && (graph.kind? next).any fun kind => kind matches .branch _

/-- A walk turns to a node exactly if it is found. -/
theorem turn?_iff : turn? graph flags node = some next ↔ graph.TurnsTo flags node next := by
  have isBranch : (graph.kind? next).any (fun kind => kind matches .branch _) = true ↔
      ∃ options, graph.kind? next = some (.branch options) := by
    cases graph.kind? next with
    | none => simp
    | some kind => cases kind <;> simp
  unfold turn? TurnsTo
  simp only [Option.bind_eq_some_iff, Option.filter_eq_some_iff, Bool.and_eq_true, isBranch,
    decide_eq_true_eq]
  constructor
  · rintro ⟨kind, known, found, apart, branch⟩
    exact ⟨(successor?_iff known).1 found, apart, branch⟩
  · rintro ⟨follows, apart, branch⟩
    obtain ⟨kind, known⟩ := follows.known
    exact ⟨kind, known, (successor?_iff known).2 follows, apart, branch⟩

/-- The walk through an offer graph. Nothing changes on the way. -/
def walking (graph : OfferGraph) (flags : Flags) : Walking Unit where
  size := graph.size
  flags _ := flags
  reads := []
  writes := []
  onward here := (turn? graph flags here.node).map fun next => ⟨next, ()⟩
  Rests here := ∀ next, ¬graph.TurnsTo flags here.node next
  rests_iff here := by
    rw [Option.map_eq_none_iff, Option.eq_none_iff_forall_ne_some]
    simp only [← turn?_iff, ne_eq]
  inside here next leads := by
    obtain ⟨node, turns, -⟩ := Option.map_eq_some_iff.1 leads
    exact (turn?_iff.1 turns).1.leads.source_lt
  follows here other next alike leads := by
    rw [alike.node] at leads
    exact ⟨next, leads, rfl, fun _ read => (by cases read)⟩
  spares _ _ cell _ _ := .refl flags cell

/-- A walk goes on to where it turns. -/
theorem onward_walking (turns : graph.TurnsTo flags node next) :
    (graph.walking flags).onward ⟨node, ()⟩ = some ⟨next, ()⟩ :=
  congrArg (Option.map fun next => Station.mk next ()) (turn?_iff.2 turns)

/-- A walk that ends comes to rest. -/
theorem Walks.rests (walks : graph.Walks flags node place accepted) :
    ∃ count there, (graph.walking flags).after count ⟨node, ()⟩ = some there ∧
      (graph.walking flags).Rests there := by
  induction walks with
  | decides stays _ => exact ⟨0, _, rfl, stays⟩
  | @turns node next _ _ turns _ ih =>
    obtain ⟨count, there, stands, rests⟩ := ih
    refine ⟨count + 1, there, ?_, rests⟩
    exact (congrArg (Option.bind · _) (onward_walking turns)).trans stands

/-- A walk that takes more turns than there are nodes turns for ever. -/
theorem endless_of_long
    (long : ∃ there, (graph.walking flags).after (graph.size + 1) ⟨node, ()⟩ = some there) :
    graph.Endless flags node := by
  by_contra ends
  obtain ⟨place, accepted, walks⟩ := exists_walks ends
  obtain ⟨count, there, stands, rests⟩ := walks.rests
  have apart : ∀ cell ∈ (graph.walking flags).reads, cell ∉ (graph.walking flags).writes := nofun
  exact Walking.endless_of_apart apart long count there stands rests

end OfferGraph

namespace Repertoire

variable {graph : OfferGraph} {flags : Flags} {node next : NodeId}

/-- A text ends as its last part does. -/
theorem concludes {text : String} {last : Char} (known : text.toList.getLast? = some last)
    (before : String) : (before ++ text).toList.getLast? = some last := by
  rw [String.toList_append, List.getLast?_append, known]
  rfl

/-- That a branch leads nowhere is another report. -/
theorem not_isLoop_nowhere (graph : OfferGraph) (node : NodeId) :
    graph.isLoop ⟨.warn, .flow,
      s!"dialog-state branch {node.text} in '{graph.name}' has nowhere to go"⟩ = false := by
  have loops : (toString "' loops through branches").toList.getLast? = some 's' := rfl
  have nowhere : (toString "' has nowhere to go").toList.getLast? = some 'o' := rfl
  refine decide_eq_false fun same => ?_
  have ends := congrArg (fun entry : Entry => entry.message.toList.getLast?) same
  dsimp only [OfferGraph.loopEntry] at ends
  rw [concludes nowhere, concludes loops] at ends
  cases ends

/-- The way out of a node is not reported as a loop. -/
theorem sifted_wayOut (graph : OfferGraph) (flags : Flags) (kind : OfferNode) :
    (wayOut flags kind).sifted graph.isLoop = [] := by
  cases kind with
  | branch options =>
    exact (Logged.sifted_map ..).trans (Branch.sifted_resolve (fun _ => rfl) flags options)
  | _ => rfl

/-- A walk that turns goes on from there. -/
theorem walk_turn (tracing : Tracing) (turns : graph.TurnsTo flags node next) (bound : Nat) :
    let onward := walk tracing graph flags bound next
    let came := walk tracing graph flags (bound + 1) node
    came.value = onward.value ∧ came.sifted graph.isLoop = onward.sifted graph.isLoop := by
  obtain ⟨follows, apart, options, branch⟩ := turns
  obtain ⟨kind, known⟩ := follows.known
  have quiet : (wayOut flags kind).sifted graph.isLoop = [] := sifted_wayOut graph flags kind
  have found := (OfferGraph.successor?_iff known).2 follows
  dsimp only
  rw [walk]
  simp [known, found, branch, apart, quiet, OfferGraph.isLoop, OfferGraph.loopEntry]

/-- A walk that turns no further is decided, and not reported. -/
theorem walk_decides (tracing : Tracing) {kind : OfferNode} (known : graph.kind? node = some kind)
    (stays : ∀ next, ¬graph.TurnsTo flags node next) (bound : Nat) :
    let came := walk tracing graph flags (bound + 1) node
    graph.Decides flags node came.value.1 came.value.2 ∧ came.sifted graph.isLoop = [] := by
  have quiet : (wayOut flags kind).sifted graph.isLoop = [] := sifted_wayOut graph flags kind
  have traces (message : String) :
      (tracing.note .flow .trace message).sifted graph.isLoop = [] := by
    simp [OfferGraph.isLoop, OfferGraph.loopEntry]
  have candidate : graph.IsCandidate flags node
      ((successor? graph node (wayOut flags kind).value).getD node) :=
    OfferGraph.isCandidate_successor? known
  dsimp only
  rw [walk, known]
  dsimp only
  rw [Logged.value_bind, Logged.value_bind, Logged.sifted_bind, Logged.sifted_bind, quiet, traces,
    List.nil_append, List.nil_append]
  generalize (successor? graph node (wayOut flags kind).value).getD node = place at candidate ⊢
  -- If the candidate offers nothing, the walk is refused.
  have refused (silent : ∀ dialog, ¬graph.OffersAt flags place dialog) :
      graph.Decides flags node node none := by
    refine .refuses fun other dialog also => ?_
    obtain rfl := candidate.unique also
    exact silent dialog
  split
  · next dialog guard content =>
    have test : ((Branch.satisfied flags guard).sifted graph.isLoop) = [] :=
      Branch.sifted_satisfied (fun _ => rfl) flags guard
    rw [Logged.value_bind, Logged.sifted_bind, test, List.nil_append]
    split
    · next holds => exact ⟨.accepts candidate ⟨guard, content, holds⟩, rfl⟩
    · next fails =>
      refine ⟨refused fun other => ?_, rfl⟩
      rintro ⟨condition, content', holds⟩
      obtain ⟨-, rfl⟩ := OfferNode.content.inj (Option.some.inj (content.symm.trans content'))
      exact fails holds
  · next options branch =>
    have here : place = node := by
      by_contra apart
      obtain follows | ⟨-, same⟩ := candidate
      · exact stays place ⟨follows, apart, options, branch⟩
      · exact apart same
    rw [if_pos here]
    refine ⟨refused fun dialog => ?_, ?_⟩
    · rintro ⟨guard, content, -⟩
      cases branch.symm.trans content
    · simp [not_isLoop_nowhere]
  · next other _ =>
    refine ⟨refused fun dialog => ?_, rfl⟩
    rintro ⟨guard, content, -⟩
    exact other dialog guard content

/-- A walk with a bound comes to its decision unreported, or takes as many turns as it may and is
reported. -/
theorem walk_cases (tracing : Tracing) (graph : OfferGraph) (flags : Flags) (bound : Nat)
    {node : NodeId} (inside : node < graph.size) :
    let came := walk tracing graph flags bound node
    (graph.Walks flags node came.value.1 came.value.2 ∧ came.sifted graph.isLoop = []) ∨
      (∃ there, (graph.walking flags).after bound ⟨node, ()⟩ = some there) ∧
        came.value.2 = none ∧ came.sifted graph.isLoop ≠ [] := by
  induction bound generalizing node with
  | zero =>
    refine .inr ⟨⟨_, rfl⟩, rfl, ?_⟩
    simp [walk, OfferGraph.isLoop, OfferGraph.loopEntry]
  | succ bound ih =>
    by_cases turns : ∃ next, graph.TurnsTo flags node next
    · obtain ⟨next, turns⟩ := turns
      obtain ⟨value, reports⟩ := walk_turn tracing turns bound
      dsimp only
      rw [value, reports]
      obtain ⟨walks, quiet⟩ | ⟨⟨there, stands⟩, refused, told⟩ := ih turns.1.leads.lt
      · exact .inl ⟨.turns turns walks, quiet⟩
      · refine .inr ⟨⟨there, ?_⟩, refused, told⟩
        exact (congrArg (Option.bind · _) (OfferGraph.onward_walking turns)).trans stands
    · obtain ⟨kind, known⟩ := Graph.kind?_of_lt inside
      have stays : ∀ next, ¬graph.TurnsTo flags node next := not_exists.1 turns
      obtain ⟨decides, quiet⟩ := walk_decides tracing known stays bound
      exact .inl ⟨.decides stays decides, quiet⟩

/-- A walk with a bound turns from branch to branch, and then decides, or stays where it is once it
took as many turns as it may. -/
theorem walk_passes (tracing : Tracing) (graph : OfferGraph) (flags : Flags) (bound : Nat)
    {node : NodeId} (inside : node < graph.size) :
    let came := (walk tracing graph flags bound node).value
    ∃ turns, List.IsChain (graph.TurnsTo flags) (node :: turns) ∧
      (graph.Decides flags (turns.getLastD node) came.1 came.2 ∨
        turns.length = bound ∧ came = (turns.getLastD node, none)) := by
  induction bound generalizing node with
  | zero => exact ⟨[], List.isChain_singleton node, .inr ⟨rfl, rfl⟩⟩
  | succ bound ih =>
    by_cases turns : ∃ next, graph.TurnsTo flags node next
    · obtain ⟨next, turns⟩ := turns
      obtain ⟨others, chain, came⟩ := ih turns.1.leads.lt
      refine ⟨next :: others, List.isChain_cons_cons.2 ⟨turns, chain⟩, ?_⟩
      rw [(walk_turn tracing turns bound).1, List.getLastD_cons, List.length_cons]
      exact came.imp_right (And.imp_left (congrArg (· + 1)))
    · obtain ⟨kind, known⟩ := Graph.kind?_of_lt inside
      obtain ⟨decides, -⟩ := walk_decides tracing known (not_exists.1 turns) bound
      exact ⟨[], List.isChain_singleton node, .inl decides⟩

/-- The decision of a walk is what it comes to within the bound, unless it turns for ever. -/
theorem walks_iff (tracing : Tracing) (inside : node < graph.size) {place : NodeId}
    {accepted : Option String} :
    graph.Walks flags node place accepted ↔ ¬graph.Endless flags node ∧
      (walk tracing graph flags (graph.size + 1) node).value = (place, accepted) := by
  obtain ⟨came, -⟩ | ⟨long, -⟩ := walk_cases tracing graph flags (graph.size + 1) inside
  · constructor
    · intro walks
      obtain ⟨rfl, rfl⟩ := came.unique walks
      exact ⟨walks.not_endless, rfl⟩
    · rintro ⟨-, same⟩
      rw [same] at came
      exact came
  · have endless := OfferGraph.endless_of_long long
    exact iff_of_false (fun walks => walks.not_endless endless) fun ends => ends.1 endless

/-- A walk is reported exactly if it turns for ever. -/
theorem loopEntry_mem_iff (tracing : Tracing) (inside : node < graph.size) :
    graph.loopEntry ∈ (walk tracing graph flags (graph.size + 1) node).entries ↔
      graph.Endless flags node := by
  have told : graph.loopEntry ∈ (walk tracing graph flags (graph.size + 1) node).entries ↔
      (walk tracing graph flags (graph.size + 1) node).sifted graph.isLoop ≠ [] := by
    rw [Logged.sifted, ne_eq, List.filter_eq_nil_iff]
    simp [OfferGraph.isLoop]
  rw [told]
  obtain ⟨walks, quiet⟩ | ⟨long, -, reported⟩ :=
    walk_cases tracing graph flags (graph.size + 1) inside
  · exact iff_of_false (fun told => told quiet) walks.not_endless
  · exact iff_of_true reported (OfferGraph.endless_of_long long)

/-- A walk that turns for ever accepts nothing. -/
theorem walk_refused_of_endless (tracing : Tracing) (inside : node < graph.size)
    (endless : graph.Endless flags node) :
    (walk tracing graph flags (graph.size + 1) node).value.2 = none := by
  obtain ⟨walks, -⟩ | ⟨-, refused, -⟩ := walk_cases tracing graph flags (graph.size + 1) inside
  · exact absurd endless walks.not_endless
  · exact refused

/-- A question that lets its character walk on is answered by the walk. -/
theorem Opens.select_value {repertoire : Repertoire} {bundle : Bundle} {question : Question}
    {name : String} (opens : repertoire.Opens bundle question name graph node) :
    (repertoire.select bundle question.character question.flags).value =
      (repertoire.stepIn question.character name graph node question.flags).value := by
  obtain ⟨⟨⟨selection, index, entry, known, resolved, listed, rfl⟩, stored⟩, begins⟩ := opens
  have applies : (applicable selection question.flags).value = some entry := by
    unfold applicable
    rw [Logged.value_bind, resolved]
    exact listed
  unfold place? at begins
  unfold select
  rw [known]
  dsimp only
  rw [Logged.value_bind, applies]
  dsimp only
  rw [stored]
  dsimp only
  rw [begins]

/-- The place that the walk comes to is kept, and what it accepts is offered from then on. -/
theorem Opens.takes {repertoire : Repertoire} {bundle : Bundle} {question : Question}
    {name : String} (opens : repertoire.Opens bundle question name graph node) :
    let came := (walk repertoire.tracing graph question.flags (graph.size + 1) node).value
    (repertoire.answer bundle question).value = came.2.or (repertoire.active? question.character) ∧
      (repertoire.ask bundle question).place? question.character name = some came.1 := by
  unfold ask answer place?
  rw [Logged.value_map, opens.select_value, stepIn_value]
  dsimp only
  rw [thread_withThread, SortedMap.get?_insert_self]
  exact ⟨rfl, rfl⟩

/-- The walk that a question makes comes to the same place and accepts the same as a walk that turns
from branch to branch without a bound: from there one node is decided, the successor or the node
itself if it has none, and it is accepted exactly if it is a content node whose guard holds. The
walk is reported to loop exactly if it would turn for ever, and then it accepts nothing. Where a
content node is refused the walk stays on the node before it; whenever that node is left for the
content node again, which a node that is no branch always is, the content node is decided again
under the flags of that time. What was accepted is the answer to the question, and the place is
where the next question to the character about the same graph begins. -/
theorem walks_decide_exactly (tracing : Tracing) (graph : OfferGraph) (flags : Flags)
    {node : NodeId} (inside : node < graph.size) :
    let came := walk tracing graph flags (graph.size + 1) node
    (∀ place accepted, graph.Walks flags node place accepted ↔
      ¬graph.Endless flags node ∧ came.value = (place, accepted)) ∧
    (graph.loopEntry ∈ came.entries ↔ graph.Endless flags node) ∧
    (graph.Endless flags node → came.value.2 = none) ∧
    (∀ last next dialog guard, Relation.ReflTransGen (graph.TurnsTo flags) node last →
      graph.Follows flags last next → graph.kind? next = some (.content dialog guard) →
      (Branch.satisfied flags guard).value = false →
        came.value = (last, none) ∧
        (∀ later, (∀ options, graph.kind? last ≠ some (.branch options)) →
          graph.Follows later last next) ∧
        ∀ later, graph.Follows later last next →
          (walk tracing graph later (graph.size + 1) last).value =
            if (Branch.satisfied later guard).value then (next, some dialog) else (last, none)) ∧
    ∀ (repertoire : Repertoire) (bundle : Bundle) (question : Question) (name : String),
      repertoire.tracing = tracing → question.flags = flags →
      repertoire.Opens bundle question name graph node →
        (repertoire.answer bundle question).value =
          came.value.2.or (repertoire.active? question.character) ∧
        ∀ later : Question, later.character = question.character →
          later.Concerns bundle name graph →
            (repertoire.ask bundle question).Opens bundle later name graph came.value.1 := by
  intro came
  refine ⟨fun _ _ => walks_iff tracing inside, loopEntry_mem_iff tracing inside,
    walk_refused_of_endless tracing inside, fun last next dialog guard reaches follows content
    fails => ⟨?_, fun later unbranched => follows.later unbranched later, fun later again => ?_⟩,
    ?_⟩
  · have walks := OfferGraph.walks_before_content follows content
    rw [fails] at walks
    exact ((walks_iff tracing inside).1 (.of_turns reaches walks)).2
  · have walks := OfferGraph.walks_before_content again content
    obtain ⟨kind, known⟩ := follows.known
    have stands : last < graph.size := follows.leads.source_lt
    split at walks
    · next holds =>
      rw [if_pos holds]
      exact ((walks_iff tracing stands).1 walks).2
    · next fails =>
      rw [if_neg fails]
      exact ((walks_iff tracing stands).1 walks).2
  · rintro repertoire bundle question name rfl rfl opens
    obtain ⟨answer, place⟩ := opens.takes
    refine ⟨answer, fun later same concerns => ⟨concerns, ?_⟩⟩
    rw [same, place]
    rfl

end Repertoire

/-- A branch before a content node with a guard, and two branches that lead to each other. -/
def OfferGraph.gate : OfferGraph :=
  ⟨"gate",
    [⟨.start, [⟨Port.exit, some 1⟩]⟩, ⟨.branch [⟨none, 0⟩], [⟨Port.option 0, some 2⟩]⟩,
      ⟨.content "welcome" (some ⟨.flag "key", .equal⟩), []⟩,
      ⟨.branch [⟨none, 0⟩], [⟨Port.option 0, some 4⟩]⟩,
      ⟨.branch [⟨none, 0⟩], [⟨Port.option 0, some 3⟩]⟩]⟩

/-- Without the key nobody is let in, and the branch before the gate is the place to wait; with the
key the gate opens. Between the other two branches one goes round for ever. -/
theorem Repertoire.walks_decide_exactly_gate :
    let gate := OfferGraph.gate
    let locked := Flags.empty.declareFlag "key" false
    let opened := (locked.activate "key").value.2
    (walk .standard gate locked (gate.size + 1) 0).value = (1, none) ∧
      (walk .standard gate opened (gate.size + 1) 1).value = (2, some "welcome") ∧
      gate.Endless locked 3 := by
  intro gate locked opened
  have turns : gate.TurnsTo locked 0 1 := OfferGraph.turn?_iff.1 rfl
  have follows : gate.Follows locked 1 2 := ⟨⟨Port.option 0, ⟨0, rfl, rfl⟩, rfl⟩, by decide⟩
  have again : gate.Follows opened 1 2 := ⟨⟨Port.option 0, ⟨0, rfl, rfl⟩, rfl⟩, by decide⟩
  have begins : 0 < gate.size := by decide
  have within : 3 < gate.size := by decide
  have waits := (walks_decide_exactly .standard gate locked begins).2.2.2.1 1 2
    "welcome" (some ⟨.flag "key", .equal⟩) (.single turns) follows rfl (by decide)
  refine ⟨waits.1, (waits.2.2 opened again).trans (by decide), ?_⟩
  exact (walks_decide_exactly .standard gate locked within).2.1.1 (by decide)

end Narrative
