import Narrative.Proofs.Repertoire.Asking

/-!
# Where offers come from

What a repertoire holds was come by in earlier questions, each under flags of its own. Every place
is a node that can be reached from the start of its offer graph, and no end. What a character offers
was accepted in answer to some question put to it, at a node whose guard held then. A question
accepts one dialog at most, and what was accepted is offered until a reset.
-/

namespace Narrative

/-- The start of a graph is a node that starts it. -/
theorem Graph.kind?_of_start? {κ : Type} [NodeKind κ] {graph : Graph κ} {first : NodeId}
    (begins : graph.start? = some first) :
    ∃ kind, graph.kind? first = some kind ∧ NodeKind.isStart kind = true := by
  obtain ⟨inside, starts, -⟩ := List.findIdx?_eq_some_iff_getElem.1 begins
  refine ⟨graph.nodes[first].kind, ?_, starts⟩
  unfold kind? node?
  rw [List.getElem?_eq_getElem inside]
  rfl

/-- Whether a node of an offer graph is one to stay at: it can be reached from the start of the
graph, and is no end. -/
def Bundle.Houses (bundle : Bundle) (name : String) (node : NodeId) : Prop :=
  ∃ graph first kind, bundle.offers.get? name = some graph ∧ graph.start? = some first ∧
    graph.Reaches first node ∧ graph.kind? node = some kind ∧ kind ≠ .finish

namespace Repertoire

variable {repertoire : Repertoire} {bundle : Bundle} {question : Question}
  {accepted : Option String}

/-- A question that accepts a dialog, or none. A character that walks on passes branches, and may
then accept a dialog at one node; nothing else is changed. What is accepted is reported, if such
reports are kept. -/
structure Account (repertoire : Repertoire) (bundle : Bundle) (question : Question)
    (accepted : Option String) : Prop where
  /-- What becomes of the repertoire. -/
  after : (repertoire.ask bundle question = repertoire ∧ accepted = none) ∨
    ∃ name graph node turns place, repertoire.Opens bundle question name graph node ∧
      Strolls graph question.flags node turns place accepted ∧
      let thread := repertoire.thread question.character
      let active := accepted.or thread.active
      (repertoire.answer bundle question).value = active ∧
        repertoire.ask bundle question = repertoire.withThread question.character
          ⟨thread.places.insert name place, active⟩
  /-- What is reported. -/
  told : (repertoire.answer bundle question).sifted Entry.isDebug =
    if repertoire.tracing.allows .flow .debug then
      accepted.toList.map (acceptanceEntry question.character)
    else []

/-- Every question accepts one dialog or none. -/
theorem ask_account (repertoire : Repertoire) (bundle : Bundle) (question : Question) :
    ∃ accepted, repertoire.Account bundle question accepted := by
  obtain ⟨unchanged, silent⟩ | ⟨name, graph, node, opens, came, told⟩ :=
    select_cases repertoire bundle question
  · refine ⟨none, .inl ⟨unchanged, rfl⟩, ?_⟩
    unfold answer
    rw [Logged.sifted_map, silent]
    simp
  · obtain ⟨turns, strolls⟩ :=
      walk_strolls repertoire.tracing graph question.flags (graph.size + 1) node
    rw [stepIn_value] at came
    rw [sifted_stepIn] at told
    refine ⟨_, .inr ⟨name, graph, node, turns, _, opens, strolls, ?_, ?_⟩, ?_⟩
    · exact congrArg Prod.fst came
    · exact congrArg Prod.snd came
    · exact (Logged.sifted_map ..).trans told

/-- A question put to a repertoire that makes its character accept a dialog at a node. -/
structure Accepts (repertoire : Repertoire) (bundle : Bundle) (question : Question) (name : String)
    (graph : OfferGraph) (node : NodeId) (dialog : String) : Prop where
  /-- The selection of the character resolves to the graph. -/
  concerns : question.Concerns bundle name graph
  /-- The node offers the dialog, and its guard holds. -/
  offered : graph.OffersAt question.flags node dialog
  /-- The node can be reached from the start. -/
  reached : ∃ first, graph.start? = some first ∧ graph.Reaches first node
  /-- The character stays at the node. -/
  place : (repertoire.ask bundle question).place? question.character name = some node
  /-- The dialog is the answer. -/
  answer : (repertoire.answer bundle question).value = some dialog

/-- A repertoire whose places are nodes to stay at. -/
def Housed (repertoire : Repertoire) (bundle : Bundle) : Prop :=
  ∀ character name node, repertoire.place? character name = some node → bundle.Houses name node

/-- A character that walks on begins at a node to stay at. -/
theorem Opens.houses {name : String} {graph : OfferGraph} {node : NodeId}
    (opens : repertoire.Opens bundle question name graph node) (housed : repertoire.Housed bundle) :
    bundle.Houses name node := by
  obtain placed | ⟨-, begins⟩ := Option.or_eq_some_iff.1 opens.begins
  · exact housed _ _ _ placed
  · obtain ⟨kind, known, starts⟩ := Graph.kind?_of_start? begins
    refine ⟨graph, node, kind, opens.concerns.stored, begins, .refl, known, ?_⟩
    rintro rfl
    cases starts

/-- A walk that begins at a node to stay at comes to another. -/
theorem Strolls.houses {name : String} {graph : OfferGraph} {node place : NodeId}
    {turns : List NodeId} {flags : Flags}
    (strolls : Strolls graph flags node turns place accepted)
    (stored : bundle.offers.get? name = some graph) (begins : bundle.Houses name node) :
    bundle.Houses name place := by
  obtain ⟨other, first, kind, same, starts, reached, known, goesOn⟩ := begins
  obtain rfl : graph = other := Option.some.inj (stored.symm.trans same)
  obtain ⟨last, here, stays⟩ := strolls.not_finish known goesOn
  exact ⟨graph, first, last, stored, starts, reached.trans strolls.reaches, here, stays⟩

/-- Places are nodes to stay at after a question, too. -/
theorem Housed.ask (housed : repertoire.Housed bundle) (question : Question) :
    (repertoire.ask bundle question).Housed bundle := by
  obtain ⟨accepted, account⟩ := ask_account repertoire bundle question
  obtain ⟨unchanged, -⟩ | ⟨name, graph, node, turns, place, opens, strolls, -, after⟩ :=
    account.after
  · rw [unchanged]
    exact housed
  · rw [after]
    intro character other id placed
    unfold place? at placed
    by_cases own : character = question.character
    · subst own
      rw [thread_withThread] at placed
      by_cases here : other = name
      · subst here
        rw [SortedMap.get?_insert_self] at placed
        obtain rfl := Option.some.inj placed
        exact strolls.houses opens.concerns.stored (opens.houses housed)
      · rw [SortedMap.get?_insert_of_ne _ _ here] at placed
        exact housed _ _ _ placed
    · rw [thread_withThread_of_ne own] at placed
      exact housed _ _ _ placed

/-- A dialog that is accepted is offered at a node that can be reached. -/
theorem Account.accepts {dialog : String}
    (account : repertoire.Account bundle question (some dialog))
    (housed : repertoire.Housed bundle) :
    ∃ name graph node, repertoire.Accepts bundle question name graph node dialog := by
  obtain ⟨-, refused⟩ | ⟨name, graph, node, turns, place, opens, strolls, answer, after⟩ :=
    account.after
  · cases refused
  · obtain ⟨other, first, kind, same, starts, reached, -⟩ :=
      strolls.houses opens.concerns.stored (opens.houses housed)
    obtain rfl : graph = other := Option.some.inj (opens.concerns.stored.symm.trans same)
    have placed : (repertoire.ask bundle question).place? question.character name = some place := by
      unfold place?
      rw [after, thread_withThread, SortedMap.get?_insert_self]
    exact ⟨name, graph, place, opens.concerns, (strolls.accepts dialog rfl).1,
      ⟨first, starts, reached⟩, placed, answer⟩

variable {questions : List Question}

/-- Places are nodes to stay at after any questions. -/
theorem Housed.askAll (housed : repertoire.Housed bundle) (questions : List Question) :
    (repertoire.askAll bundle questions).Housed bundle := by
  induction questions generalizing repertoire with
  | nil => exact housed
  | cons question rest ih => exact ih (housed.ask question)

end Repertoire

end Narrative
