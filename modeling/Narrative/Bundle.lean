import Narrative.Digest
import Narrative.Format.Document
import Narrative.Json.Writer
import Narrative.Offer.Graph
import Narrative.Scenario.Graph

/-!
# Bundles

A bundle is everything that the authors of a game write: the scenario, the dialogs, the offer
graphs, which of them each character uses, and the declared flags. It is stored as one JSON text
and known by the fingerprint of its compact form.
-/

namespace Narrative

/-- One of the offer graphs a character may use. -/
structure SelectionEntry where
  /-- When it may be used. -/
  condition : Option Condition
  /-- The name of the offer graph. -/
  graph : String
  /-- Its rank among those that may be used. -/
  priority : Int32
  deriving DecidableEq, Repr

namespace SelectionEntry

instance : Candidate SelectionEntry := ⟨condition, priority⟩

/-- The stored form. -/
def format : Format SelectionEntry :=
  Format.record
    (.field (.optional "condition" Condition.format) <|
      .field (.required "graph" Format.text) <|
      .field (.withDefault "priority" Format.integer32 0) .done)
    (fun (condition, graph, priority, ()) => ⟨condition, graph, priority⟩)
    fun entry => (entry.condition, entry.graph, entry.priority, ())

end SelectionEntry

/-- The offer graphs a character may use. -/
structure Selection where
  /-- The choices, in order. -/
  entries : List SelectionEntry
  deriving DecidableEq

namespace Selection

/-- The selection of one graph in all circumstances. -/
def single (graph : String) : Selection := ⟨[⟨none, graph, 0⟩]⟩

/-- The stored form. -/
def format : Format Selection :=
  Format.record (.field (.required "entries" (Format.list SelectionEntry.format)) .done)
    (fun (entries, ()) => ⟨entries⟩) fun selection => (selection.entries, ())

end Selection

/-- Everything that the authors of a game write. -/
structure Bundle where
  /-- The story as a whole. -/
  scenario : Option ScenarioGraph
  /-- The dialogs by name. -/
  dialogs : SortedMap String DialogGraph
  /-- The offer graphs by name. -/
  offers : SortedMap String OfferGraph
  /-- The offer graphs that each character may use. -/
  characters : SortedMap String Selection
  /-- The declared flags. -/
  flags : Flags
  deriving DecidableEq

/-- Why bytes are not a stored bundle. -/
inductive LoadError where
  /-- The bytes are not UTF-8. -/
  | encoding
  /-- The text is not a stored bundle. -/
  | document (cause : DocumentError)
  deriving DecidableEq, Repr

/-- The wording of an error, without its cause. -/
def LoadError.message : LoadError → String
  | encoding => "bundle is not valid UTF-8"
  | document _ => "bundle is not a valid graph bundle"

namespace Bundle

/-- The bundle without content. -/
def empty : Bundle := ⟨none, ∅, ∅, ∅, ∅⟩

instance : Inhabited Bundle := ⟨empty⟩

/-- Add a dialog under its own name. -/
def addDialog (bundle : Bundle) (dialog : DialogGraph) : Bundle :=
  { bundle with dialogs := bundle.dialogs.insert dialog.name dialog }

/-- Add an offer graph under its own name. -/
def addOffers (bundle : Bundle) (offers : OfferGraph) : Bundle :=
  { bundle with offers := bundle.offers.insert offers.name offers }

/-- The dialog of a name. -/
def dialog (bundle : Bundle) (name : String) : Except GraphError DialogGraph :=
  match bundle.dialogs.get? name with
  | some dialog => .ok dialog
  | none => .error (.unknownGraph name)

/-- The stored form. -/
def format : Format Bundle :=
  Format.record
    (.field (.optional "scenario" (Graph.format ScenarioNode.format)) <|
      .field (.withDefault "dialogs" (Format.sortedMap DialogGraph.format) ∅) <|
      .field (.withDefault "dialog_states" (Format.sortedMap (Graph.format OfferNode.format)) ∅) <|
      .field (.withDefault "characters" (Format.sortedMap Selection.format) ∅) <|
      .field (.withDefault "flags" Flags.format ∅) .done)
    (fun (scenario, dialogs, offers, characters, flags, ()) =>
      ⟨scenario, dialogs, offers, characters, flags⟩)
    fun bundle =>
      (bundle.scenario, bundle.dialogs, bundle.offers, bundle.characters, bundle.flags, ())

/-- The text under which a bundle is stored. -/
def save (bundle : Bundle) : String := (format.write bundle).indented

/-- The bundle of a stored text. -/
def ofText (source : String) : Except LoadError Bundle :=
  (format.ofText source).mapError .document

/-- The bundle of stored bytes. -/
def load (bytes : ByteArray) : Except LoadError Bundle :=
  match String.fromUTF8? bytes with
  | some source => ofText source
  | none => .error .encoding

/-- The fingerprint of the compact form. -/
def fingerprint (bundle : Bundle) : String := Digest.ofText (format.write bundle).compact

end Bundle

end Narrative
