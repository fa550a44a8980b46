import Narrative.Bundle

/-!
# Repertoires

The repertoire says which dialog each character offers. A character has a place in each of its
offer graphs, which moves on as the story allows it, and offers the dialog of the content node
accepted last. Places are kept until a reset; those of different characters are independent.
-/

namespace Narrative

/-- What one character offers. -/
structure Thread where
  /-- The node it stands on in each offer graph it has used. -/
  places : SortedMap String NodeId
  /-- The dialog it offers. -/
  active : Option String
  deriving DecidableEq

namespace Thread

/-- A character that was never asked. -/
def empty : Thread := ⟨∅, none⟩

end Thread

/-- What every character offers. -/
structure Repertoire where
  /-- The characters that were asked. -/
  threads : SortedMap String Thread
  /-- The filter of the log. -/
  tracing : Tracing
  deriving DecidableEq

namespace Repertoire

/-- A repertoire nobody was asked of. -/
def empty (tracing : Tracing) : Repertoire := ⟨∅, tracing⟩

/-- The repertoire as it was before anybody was asked. -/
def reset (repertoire : Repertoire) : Repertoire := empty repertoire.tracing

/-- What a character offers. -/
def thread (repertoire : Repertoire) (character : String) : Thread :=
  (repertoire.threads.get? character).getD .empty

/-- The dialog a character offers. -/
def active? (repertoire : Repertoire) (character : String) : Option String :=
  (repertoire.thread character).active

/-- The port by which a node of an offer graph is left; none at an end, or if no option of a
branch is open. -/
def wayOut (flags : Flags) : OfferNode → Logged (Option String)
  | .start => pure (some Port.exit)
  | .content .. => pure (some Port.exit)
  | .branch options => (·.map Port.option) <$> Branch.resolve flags options
  | .finish => pure none

/-- The node after another by a port; an end is no successor. -/
def successor? (graph : OfferGraph) (node : NodeId) (port : Option String) : Option NodeId :=
  (port.bind (graph.connected? node)).filter fun next => graph.kind? next != some .finish

/-- Walk on from a node until a content node decides, passing at most some number of branches:
the node reached, and the dialog that was accepted. A node without a successor is decided
again. -/
def walk (tracing : Tracing) (graph : OfferGraph) (flags : Flags) (bound : Nat) (node : NodeId) :
    Logged (NodeId × Option String) :=
  match bound with
  | 0 => do
    Logged.note .warn .flow s!"dialog-state graph '{graph.name}' loops through branches"
    pure (node, none)
  | bound + 1 =>
    match graph.kind? node with
    | none => pure (node, none)
    | some kind => do
      let port ← wayOut flags kind
      let candidate := (successor? graph node port).getD node
      tracing.note .flow .trace
        s!"[Selector] '{graph.name}' {node.text} -> candidate {candidate.text}"
      match graph.kind? candidate with
      | some (.content dialog guard) => do
        if ← Branch.satisfied flags guard then pure (candidate, some dialog)
        else pure (node, none)
      | some (.branch _) =>
        if candidate = node then do
          Logged.note .warn .flow
            s!"dialog-state branch {node.text} in '{graph.name}' has nowhere to go"
          pure (node, none)
        else walk tracing graph flags bound candidate
      | _ => pure (node, none)

/-- The offer graph that applies to a character, of those in its selection. -/
def applicable (selection : Selection) (flags : Flags) : Logged (Option SelectionEntry) := do
  match ← Branch.resolve flags selection.entries with
  | some index => pure selection.entries[index]?
  | none => pure none

/-- Walk on in one offer graph of a character. -/
def stepIn (repertoire : Repertoire) (character : String) (name : String) (graph : OfferGraph)
    (node : NodeId) (flags : Flags) : Logged (Option String × Repertoire) := do
  let thread := repertoire.thread character
  let (place, accepted) ← walk repertoire.tracing graph flags (graph.size + 1) node
  if let some dialog := accepted then
    repertoire.tracing.note .flow .debug s!"[Selector] '{character}' now plays '{dialog}'"
  let active := accepted.or thread.active
  if active.isNone then
    Logged.note .warn .flow
      s!"'{character}' has no dialog yet: no content node in '{graph.name}' has been unlocked"
  let thread : Thread := ⟨thread.places.insert name place, active⟩
  pure (active, { repertoire with threads := repertoire.threads.insert character thread })

/-- Ask a character what it offers. -/
def select (repertoire : Repertoire) (bundle : Bundle) (character : String) (flags : Flags) :
    Logged (Option String × Repertoire) :=
  match bundle.characters.get? character with
  | none => do
    Logged.note .warn .engine s!"no dialog selection for character '{character}'"
    pure (none, repertoire)
  | some selection => do
    match ← applicable selection flags with
    | none => do
      Logged.note .warn .flow s!"no dialog-state graph applies to '{character}' right now"
      pure (repertoire.active? character, repertoire)
    | some entry =>
      match bundle.offers.get? entry.graph with
      | none => do
        Logged.note .error .engine
          s!"character '{character}' references unknown dialog-state graph '{entry.graph}'"
        pure (none, repertoire)
      | some graph =>
        match ((repertoire.thread character).places.get? entry.graph).or graph.start? with
        | none => do
          Logged.note .error .engine (GraphError.message (.missingStart graph.name))
          pure (none, repertoire)
        | some node => stepIn repertoire character entry.graph graph node flags

end Repertoire

end Narrative
