import Narrative.Proofs.Branch
import Narrative.Proofs.Graph.Cycle
import Narrative.Proofs.SortedMap
import Narrative.Repertoire

/-!
# Asking characters

A question is put to one character. It is answered from one offer graph, the one that the selection
of the character resolves to, or from none; and it changes what is known of that character only. A
walk in an offer graph passes branches, and accepts at most one content node after that.
-/

namespace Narrative

/-- A character that is asked under some flags. -/
structure Question where
  /-- The character. -/
  character : String
  /-- The flags. -/
  flags : Flags
  deriving DecidableEq

/-- A question that is answered from an offer graph: the one of the best entry that is open in the
selection of its character. -/
structure Question.Concerns (bundle : Bundle) (question : Question) (name : String)
    (graph : OfferGraph) : Prop where
  /-- The selection of the character resolves to an entry that names the graph. -/
  resolved : ∃ selection index entry,
    bundle.characters.get? question.character = some selection ∧
      (Branch.resolve question.flags selection.entries).value = some index ∧
        selection.entries[index]? = some entry ∧ entry.graph = name
  /-- The graph is stored. -/
  stored : bundle.offers.get? name = some graph

/-- Whether an offer graph offers a dialog at a node under some flags. -/
def OfferGraph.OffersAt (graph : OfferGraph) (flags : Flags) (node : NodeId) (dialog : String) :
    Prop :=
  ∃ guard, graph.kind? node = some (.content dialog guard) ∧
    (Branch.satisfied flags guard).value = true

namespace Repertoire

variable (repertoire : Repertoire) (bundle : Bundle)

/-- The place of a character in an offer graph. -/
def place? (character name : String) : Option NodeId :=
  (repertoire.thread character).places.get? name

/-- The repertoire with what one character offers. -/
def withThread (character : String) (thread : Thread) : Repertoire :=
  { repertoire with threads := repertoire.threads.insert character thread }

/-- The answer to a question, with what is reported on the way to it. -/
def answer (question : Question) : Logged (Option String) :=
  Prod.fst <$> repertoire.select bundle question.character question.flags

/-- The repertoire after a question. -/
def ask (question : Question) : Repertoire :=
  (repertoire.select bundle question.character question.flags).value.2

/-- The repertoire after some questions in order. -/
def askAll (questions : List Question) : Repertoire :=
  questions.foldl (fun repertoire question => repertoire.ask bundle question) repertoire

/-- What is reported when a character accepts a dialog. -/
def acceptanceEntry (character dialog : String) : Entry :=
  ⟨.debug, .flow, s!"[Selector] '{character}' now plays '{dialog}'"⟩

variable {repertoire bundle}

@[simp]
theorem thread_withThread (character : String) (thread : Thread) :
    (repertoire.withThread character thread).thread character = thread := by
  unfold Repertoire.thread withThread
  rw [SortedMap.get?_insert_self, Option.getD_some]

/-- What one character offers is not seen at any other. -/
theorem thread_withThread_of_ne {character other : String} (apart : other ≠ character)
    (thread : Thread) :
    (repertoire.withThread character thread).thread other = repertoire.thread other := by
  unfold Repertoire.thread withThread
  rw [SortedMap.get?_insert_of_ne _ _ apart]

/-- A walk from a node that passed some branches, and then accepted a dialog at one more node or at
none. -/
structure Strolls (graph : OfferGraph) (flags : Flags) (node : NodeId) (turns : List NodeId)
    (place : NodeId) (accepted : Option String) : Prop where
  /-- It went over connected ports. -/
  chain : List.IsChain graph.Leads (node :: turns)
  /-- It passed branches only. -/
  branches : ∀ id ∈ turns, ∃ options, graph.kind? id = some (.branch options)
  /-- It stays where it came to if it accepts nothing. -/
  rests : accepted = none → place = turns.getLastD node
  /-- It accepts what is offered where it stays, which is where it came to or one node further. -/
  accepts : ∀ dialog, accepted = some dialog →
    graph.OffersAt flags place dialog ∧
      (place = turns.getLastD node ∨ graph.Leads (turns.getLastD node) place)

namespace Strolls

variable {graph : OfferGraph} {flags : Flags} {node next place : NodeId} {turns : List NodeId}
  {accepted : Option String}

/-- A walk that stays where it is. -/
theorem here (graph : OfferGraph) (flags : Flags) (node : NodeId) :
    Strolls graph flags node [] node none where
  chain := List.isChain_singleton node
  branches := nofun
  rests _ := rfl
  accepts := nofun

/-- A walk that passes one more branch first. -/
theorem turn {options : List BranchOption} (leads : graph.Leads node next)
    (branch : graph.kind? next = some (.branch options))
    (onward : Strolls graph flags next turns place accepted) :
    Strolls graph flags node (next :: turns) place accepted where
  chain := List.isChain_cons_cons.2 ⟨leads, onward.chain⟩
  branches id member := by
    obtain rfl | later := List.mem_cons.1 member
    · exact ⟨options, branch⟩
    · exact onward.branches id later
  rests refused := by
    rw [List.getLastD_cons]
    exact onward.rests refused
  accepts dialog offered := by
    rw [List.getLastD_cons]
    exact onward.accepts dialog offered

/-- A walk reaches the node where it stays. -/
theorem reaches (strolls : Strolls graph flags node turns place accepted) :
    graph.Reaches node place := by
  have passed := Graph.reaches_of_isChain strolls.chain
  cases accepted with
  | none => exact strolls.rests rfl ▸ passed
  | some dialog =>
    obtain ⟨-, rfl | leads⟩ := strolls.accepts dialog rfl
    · exact passed
    · exact passed.tail leads

/-- A walk that does not begin at an end does not stay at one. -/
theorem not_finish (strolls : Strolls graph flags node turns place accepted) {kind : OfferNode}
    (known : graph.kind? node = some kind) (goesOn : kind ≠ .finish) :
    ∃ kind, graph.kind? place = some kind ∧ kind ≠ .finish := by
  cases accepted with
  | some dialog =>
    obtain ⟨⟨guard, content, -⟩, -⟩ := strolls.accepts dialog rfl
    exact ⟨_, content, nofun⟩
  | none =>
    rw [strolls.rests rfl, List.getLastD_eq_getLast?]
    cases last : turns.getLast? with
    | none => exact ⟨kind, known, goesOn⟩
    | some id =>
      obtain ⟨options, branch⟩ := strolls.branches id (List.mem_of_getLast? last)
      exact ⟨_, branch, nofun⟩

end Strolls

/-- A successor is where some port leads. -/
theorem leads_of_successor? {graph : OfferGraph} {node next : NodeId} {port : Option String}
    (follows : successor? graph node port = some next) : graph.Leads node next := by
  obtain ⟨found, -⟩ := Option.filter_eq_some_iff.1 follows
  obtain ⟨name, -, connected⟩ := Option.bind_eq_some_iff.1 found
  exact ⟨name, connected⟩

/-- A walk passes branches, and then accepts what one node offers, or nothing. -/
theorem walk_strolls (tracing : Tracing) (graph : OfferGraph) (flags : Flags) (bound : Nat)
    (node : NodeId) :
    let came := (walk tracing graph flags bound node).value
    ∃ turns, Strolls graph flags node turns came.1 came.2 := by
  induction bound generalizing node with
  | zero => exact ⟨[], .here graph flags node⟩
  | succ bound ih =>
    unfold walk
    cases known : graph.kind? node with
    | none => exact ⟨[], .here graph flags node⟩
    | some kind =>
      dsimp only
      rw [Logged.value_bind, Logged.value_bind]
      generalize follows : successor? graph node (wayOut flags kind).value = next
      -- The candidate is the node itself, or a node that one of its ports leads to.
      have near : next.getD node = node ∨ graph.Leads node (next.getD node) := by
        cases next with
        | none => exact .inl rfl
        | some next => exact .inr (leads_of_successor? follows)
      split
      · next dialog guard content =>
        rw [Logged.value_bind]
        split
        · next open_ =>
          refine ⟨[], List.isChain_singleton node, nofun, nofun, fun other offered => ?_⟩
          obtain rfl := Option.some.inj offered
          exact ⟨⟨guard, content, open_⟩, near⟩
        · exact ⟨[], .here graph flags node⟩
      · next options branch =>
        split
        · exact ⟨[], .here graph flags node⟩
        · next apart =>
          obtain ⟨turns, onward⟩ := ih (next.getD node)
          exact ⟨_, onward.turn (near.resolve_left apart) branch⟩
      · exact ⟨[], .here graph flags node⟩

/-- A walk reports no acceptance. -/
theorem sifted_walk (tracing : Tracing) (graph : OfferGraph) (flags : Flags) (bound : Nat)
    (node : NodeId) : (walk tracing graph flags bound node).sifted Entry.isDebug = [] := by
  induction bound generalizing node with
  | zero => simp [walk, Entry.isDebug]
  | succ bound ih =>
    unfold walk
    cases graph.kind? node with
    | none => rfl
    | some kind =>
      have wayOut : (wayOut flags kind).sifted Entry.isDebug = [] := by
        cases kind with
        | branch options =>
          exact (Logged.sifted_map ..).trans (Branch.sifted_resolve (fun _ => rfl) flags options)
        | _ => rfl
      dsimp only
      rw [Logged.sifted_bind, wayOut, Logged.sifted_bind]
      simp only [Logged.sifted_optional, Entry.isDebug, reduceCtorEq, decide_false, Bool.and_false,
        Bool.false_eq_true, if_false, List.nil_append]
      split
      · rw [Logged.sifted_bind, Branch.sifted_satisfied (fun _ => rfl)]
        split <;> rfl
      · split
        · simp [Entry.isDebug]
        · exact ih _
      · rfl

/-- A character walks on in an offer graph. It stays where the walk comes to, and offers what was
accepted on the way, or else what it offered before. -/
theorem stepIn_value (repertoire : Repertoire) (character name : String) (graph : OfferGraph)
    (node : NodeId) (flags : Flags) :
    (repertoire.stepIn character name graph node flags).value =
      let thread := repertoire.thread character
      let came := (walk repertoire.tracing graph flags (graph.size + 1) node).value
      let active := came.2.or thread.active
      (active, repertoire.withThread character ⟨thread.places.insert name came.1, active⟩) := by
  unfold stepIn
  dsimp only
  rw [Logged.value_bind]
  split <;> split <;> rfl

/-- What is accepted is reported, if such reports are kept. -/
theorem sifted_stepIn (repertoire : Repertoire) (character name : String) (graph : OfferGraph)
    (node : NodeId) (flags : Flags) :
    (repertoire.stepIn character name graph node flags).sifted Entry.isDebug =
      let came := (walk repertoire.tracing graph flags (graph.size + 1) node).value
      if repertoire.tracing.allows .flow .debug then
        came.2.toList.map (acceptanceEntry character)
      else [] := by
  unfold stepIn
  dsimp only
  rw [Logged.sifted_bind, sifted_walk, List.nil_append]
  cases (walk repertoire.tracing graph flags (graph.size + 1) node).value.2 with
  | none => cases (repertoire.thread character).active <;> simp [Entry.isDebug]
  | some dialog => simp [Entry.isDebug, acceptanceEntry]

/-- A question that lets its character walk on in an offer graph, from its place or from the start
of the graph. -/
structure Opens (repertoire : Repertoire) (bundle : Bundle) (question : Question) (name : String)
    (graph : OfferGraph) (node : NodeId) : Prop where
  /-- The question is answered from the graph. -/
  concerns : question.Concerns bundle name graph
  /-- The character has a place there, or the graph has a start. -/
  begins : (repertoire.place? question.character name).or graph.start? = some node

/-- A question changes nothing, or lets its character walk on. -/
theorem select_cases (repertoire : Repertoire) (bundle : Bundle) (question : Question) :
    let came := repertoire.select bundle question.character question.flags
    (came.value.2 = repertoire ∧ came.sifted Entry.isDebug = []) ∨
      ∃ name graph node, repertoire.Opens bundle question name graph node ∧
        came.value =
          (repertoire.stepIn question.character name graph node question.flags).value ∧
        came.sifted Entry.isDebug = (repertoire.stepIn question.character name graph node
          question.flags).sifted Entry.isDebug := by
  unfold select
  cases known : bundle.characters.get? question.character with
  | none => exact .inl ⟨rfl, by simp [Entry.isDebug]⟩
  | some selection =>
    have quiet : (applicable selection question.flags).sifted Entry.isDebug = [] := by
      unfold applicable
      rw [Logged.sifted_bind, Branch.sifted_resolve (fun _ => rfl)]
      split <;> rfl
    dsimp only
    rw [Logged.value_bind, Logged.sifted_bind, quiet, List.nil_append]
    cases applies : (applicable selection question.flags).value with
    | none => exact .inl ⟨rfl, by simp [Entry.isDebug]⟩
    | some entry =>
      dsimp only
      cases stored : bundle.offers.get? entry.graph with
      | none => exact .inl ⟨rfl, by simp [Entry.isDebug]⟩
      | some graph =>
        dsimp only
        split
        · exact .inl ⟨rfl, by simp [Entry.isDebug]⟩
        · next node begins =>
          refine .inr ⟨entry.graph, graph, node, ⟨⟨?_, stored⟩, begins⟩, rfl, rfl⟩
          unfold applicable at applies
          rw [Logged.value_bind] at applies
          split at applies
          · next index resolved => exact ⟨selection, index, entry, known, resolved, applies, rfl⟩
          · cases applies

/-- A question does not touch what other characters offer. -/
theorem thread_ask_of_ne (repertoire : Repertoire) (bundle : Bundle) {question : Question}
    {other : String} (apart : other ≠ question.character) :
    (repertoire.ask bundle question).thread other = repertoire.thread other := by
  unfold ask
  obtain ⟨unchanged, -⟩ | ⟨name, graph, node, -, came, -⟩ :=
    select_cases repertoire bundle question
  · rw [unchanged]
  · rw [came, stepIn_value]
    exact thread_withThread_of_ne apart _

/-- A question keeps the filter of the log. -/
theorem tracing_ask (repertoire : Repertoire) (bundle : Bundle) (question : Question) :
    (repertoire.ask bundle question).tracing = repertoire.tracing := by
  unfold ask
  obtain ⟨unchanged, -⟩ | ⟨name, graph, node, -, came, -⟩ :=
    select_cases repertoire bundle question
  · rw [unchanged]
  · rw [came, stepIn_value]
    rfl

/-- Two answers, each with the repertoire after it, that are the same for a character: the same is
answered and reported, and the character offers the same from then on. -/
structure Alike (character : String) (first second : Logged (Option String × Repertoire)) :
    Prop where
  /-- The same is answered and reported. -/
  answer : Prod.fst <$> first = Prod.fst <$> second
  /-- The character offers the same. -/
  thread : first.value.2.thread character = second.value.2.thread character

/-- The same is done before. -/
theorem Alike.bind {α : Type} {character : String} (before : Logged α)
    {first second : α → Logged (Option String × Repertoire)}
    (same : Alike character (first before.value) (second before.value)) :
    Alike character (before >>= first) (before >>= second) where
  answer := by
    rw [Logged.map_bind, Logged.map_bind]
    exact congrArg (fun answer => before >>= fun _ => answer) same.answer
  thread := same.thread

/-- What a walk in an offer graph comes to depends on what is known of the character only. -/
theorem stepIn_alike {repertoire other : Repertoire} {character : String}
    (thread : repertoire.thread character = other.thread character)
    (tracing : repertoire.tracing = other.tracing) (name : String) (graph : OfferGraph)
    (node : NodeId) (flags : Flags) :
    Alike character (repertoire.stepIn character name graph node flags)
      (other.stepIn character name graph node flags) where
  answer := by
    unfold stepIn
    rw [thread, tracing]
    generalize walk other.tracing graph flags (graph.size + 1) node = came
    obtain ⟨⟨place, accepted⟩, entries⟩ := came
    cases accepted with
    | some dialog => rfl
    | none => cases active : (other.thread character).active <;> simp [active] <;> rfl
  thread := by
    rw [stepIn_value, stepIn_value, thread, tracing]
    dsimp only
    rw [thread_withThread, thread_withThread]

/-- What a question is answered and what becomes of its character depend on what is known of the
character only. -/
theorem select_alike {repertoire other : Repertoire} (bundle : Bundle) (question : Question)
    (thread : repertoire.thread question.character = other.thread question.character)
    (tracing : repertoire.tracing = other.tracing) :
    Alike question.character (repertoire.select bundle question.character question.flags)
      (other.select bundle question.character question.flags) := by
  unfold select active?
  rw [thread]
  cases bundle.characters.get? question.character with
  | none => exact ⟨rfl, thread⟩
  | some selection =>
    refine .bind _ ?_
    cases (applicable selection question.flags).value with
    | none => exact ⟨rfl, thread⟩
    | some entry =>
      dsimp only
      cases bundle.offers.get? entry.graph with
      | none => exact ⟨rfl, thread⟩
      | some graph =>
        dsimp only
        cases ((other.thread question.character).places.get? entry.graph).or graph.start? with
        | none => exact ⟨rfl, thread⟩
        | some node => exact stepIn_alike thread tracing entry.graph graph node question.flags

end Repertoire

end Narrative
