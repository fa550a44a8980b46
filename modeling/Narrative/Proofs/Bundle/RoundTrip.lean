import Narrative.Proofs.Bundle.Keeping
import Narrative.Proofs.Dialog.Passage
import Narrative.Proofs.Json.Parsing

/-!
# Bundles read back from their texts

A saved bundle is loaded again as it was. So is every text of a document that stands for it, in
which fields may be left out that have the values they have where they are absent.
-/

namespace Narrative

/-- The text of the bytes that encode a text is that text. -/
theorem fromUTF8?_toUTF8 (source : String) : String.fromUTF8? source.toUTF8 = some source := by
  unfold String.fromUTF8?
  exact dif_pos source.isValidUTF8

namespace Bundle

variable {bundle : Bundle}

/-- A text of a document that stands for a bundle is read as the bundle. -/
theorem ofText_of_parse (addressable : bundle.Addressable) {document : Json} {source : String}
    (stored : format.stores bundle document) (parsed : Json.parse source = some document) :
    format.ofText source = .ok bundle := by
  have kept : format.Keeps 127 bundle := format_keeps 117 addressable
  unfold Format.ofText Format.ofDocument
  rw [parsed]
  simp only [kept.read stored]

/-- A text of a document that stands for a bundle is loaded as the bundle. -/
theorem load_of_parse (addressable : bundle.Addressable) {document : Json} {source : String}
    (stored : format.stores bundle document) (parsed : Json.parse source = some document) :
    load source.toUTF8 = .ok bundle := by
  unfold load ofText
  rw [fromUTF8?_toUTF8]
  simp only [ofText_of_parse addressable stored parsed]
  rfl

/-- A document that stands for a bundle is plain enough to be read. -/
theorem plain_of_stores (addressable : bundle.Addressable) {document : Json}
    (stored : format.stores bundle document) : document.Plain Json.maximumDepth :=
  (format_keeps 117 addressable).plain stored

/-- The text under which a bundle is stored is read as the bundle. -/
theorem ofText_save (addressable : bundle.Addressable) : format.ofText bundle.save = .ok bundle :=
  have written := (format_keeps 0 addressable).written
  ofText_of_parse addressable written (Json.parse_indented (plain_of_stores addressable written))

/-- A bundle is known by its compact form. -/
theorem eq_of_compact {other : Bundle} (addressable : bundle.Addressable)
    (otherAddressable : other.Addressable)
    (same : (format.write bundle).compact = (format.write other).compact) : bundle = other := by
  have read : ∀ {bundle : Bundle}, bundle.Addressable →
      format.ofText (format.write bundle).compact = .ok bundle := fun addressable =>
    have written := (format_keeps 0 addressable).written
    ofText_of_parse addressable written (Json.parse_compact (plain_of_stores addressable written))
  exact Except.ok.inj ((read addressable).symm.trans (same ▸ read otherAddressable))

end Bundle

/-- A saved bundle is loaded as it was. What was saved stands for the bundle, and so is any other
document that does loaded as it: its indented form, its compact form, and whatever else is a text
of it. -/
theorem bundle_round_trip {bundle : Bundle} (addressable : bundle.Addressable) :
    Bundle.load bundle.save.toUTF8 = .ok bundle ∧
      Bundle.format.stores bundle (Bundle.format.write bundle) ∧
      ∀ document, Bundle.format.stores bundle document →
        Bundle.load document.indented.toUTF8 = .ok bundle ∧
          Bundle.load document.compact.toUTF8 = .ok bundle ∧
            ∀ source, Json.parse source = some document →
              Bundle.load source.toUTF8 = .ok bundle := by
  have written := (Bundle.format_keeps 0 addressable).written
  have plain : ∀ document, Bundle.format.stores bundle document →
      document.Plain Json.maximumDepth := fun _ => Bundle.plain_of_stores addressable
  refine ⟨?_, written, fun document stored => ⟨?_, ?_, fun source parsed => ?_⟩⟩
  · exact Bundle.load_of_parse addressable written (Json.parse_indented (plain _ written))
  · exact Bundle.load_of_parse addressable stored (Json.parse_indented (plain document stored))
  · exact Bundle.load_of_parse addressable stored (Json.parse_compact (plain document stored))
  · exact Bundle.load_of_parse addressable stored parsed

namespace DialogGraph

/-- The document of a greeting without the fields that have their defaults. -/
def briefGreeting : Json :=
  .object [("name", .text "hello"),
    ("nodes", .array
      [.object [("kind", .object [("type", .text "Start")]),
          ("ports", .array [.object [("name", .text "exit"), ("target", .integer 1)]])],
        .object [("kind", .object [("type", .text "Line"), ("text", .text "Hello.")]),
          ("ports", .array [.object [("name", .text "exit"), ("target", .integer 2)]])],
        .object [("kind", .object [("type", .text "End")])]])]

/-- The document without the defaults stands for the greeting. -/
theorem briefGreeting_stored : format.stores greeting briefGreeting := by
  have wired : ∀ (kind : DialogNode) (document : Json) (target : Nat),
      DialogNode.format.stores kind document →
        (Node.format DialogNode.format).stores ⟨kind, [⟨Port.exit, some target⟩]⟩
          (.object [("kind", document), ("ports", .array
            [.object [("name", .text "exit"), ("target", .integer target)]])]) := by
    intro kind document target stored
    have port : Port.format.stores ⟨Port.exit, some target⟩
        (.object [("name", .text "exit"), ("target", .integer target)]) :=
      ⟨_, rfl, .inl ⟨_, _, rfl, rfl, .inl ⟨_, _, rfl, rfl, rfl⟩⟩⟩
    exact ⟨_, rfl, .inl ⟨_, _, rfl, stored, .inl ⟨_, _, rfl, ⟨_, rfl, port, trivial⟩, rfl⟩⟩⟩
  have start : DialogNode.format.stores .start (.object [("type", .text "Start")]) :=
    ⟨_, .head _, _, ⟨(), rfl, rfl⟩, rfl⟩
  have line : DialogNode.format.stores (.line ⟨.narrator, "Hello.", none⟩)
      (.object [("type", .text "Line"), ("text", .text "Hello.")]) :=
    ⟨_, .tail _ (.head _), _, ⟨_, rfl, .inr ⟨rfl, .inl ⟨_, _, rfl, rfl, .inr ⟨rfl, rfl⟩⟩⟩⟩, rfl⟩
  have finish : DialogNode.format.stores .finish (.object [("type", .text "End")]) :=
    ⟨_, .tail _ (.tail _ (.tail _ (.tail _ (.head _)))), _, ⟨(), rfl, rfl⟩, rfl⟩
  have last : (Node.format DialogNode.format).stores ⟨.finish, []⟩
      (.object [("kind", .object [("type", .text "End")])]) :=
    ⟨_, rfl, .inl ⟨_, _, rfl, finish, .inr ⟨rfl, rfl⟩⟩⟩
  refine ⟨[("name", _), ("nodes", _)], [], rfl, ?_, .inr ⟨rfl, rfl⟩⟩
  exact .inl ⟨_, _, rfl, rfl, .inl ⟨_, _, rfl,
    ⟨_, rfl, wired _ _ 1 start, wired _ _ 2 line, last, trivial⟩, rfl⟩⟩

end DialogGraph

/-- A greeting is loaded as it was saved, and also without the fields that have their defaults. -/
theorem bundle_round_trip_greeting :
    Bundle.load (Bundle.empty.addDialog .greeting).save.toUTF8 =
        .ok (Bundle.empty.addDialog .greeting) ∧
      Bundle.load (Json.object
          [("dialogs", .object [("hello", DialogGraph.briefGreeting)])]).compact.toUTF8 =
        .ok (Bundle.empty.addDialog .greeting) := by
  have addressable : (Bundle.empty.addDialog .greeting).Addressable := by
    constructor
    · exact fun _ => nofun
    · intro entry member
      obtain rfl := List.mem_singleton.1 member
      decide
    · exact fun _ => nofun
  obtain ⟨saved, _, brief⟩ := bundle_round_trip addressable
  refine ⟨saved, (brief _ ?_).2.1⟩
  exact ⟨_, rfl, .inr ⟨rfl, .inl ⟨_, _, rfl,
    ⟨_, rfl, rfl, DialogGraph.briefGreeting_stored, trivial⟩,
    .inr ⟨rfl, .inr ⟨rfl, .inr ⟨rfl, rfl⟩⟩⟩⟩⟩⟩

end Narrative
