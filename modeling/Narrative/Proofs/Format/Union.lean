import Narrative.Format.Union
import Narrative.Proofs.Format.Record

/-!
# What unions keep

A union keeps a value when its alternatives have different names, each keeps the value as far as
it is its own, and one of them has it. The name in a stored form then leads back to the
alternative that the form was stored by.
-/

namespace Narrative

namespace Alternative

variable {α : Type} {types : List Type}

/-- What an alternative stores of a value beside a tag is read as the value. -/
structure Keeps (alternative : Alternative α) (tag : String) (depth : Nat) (value : α) : Prop where
  /-- The written members stand for the value. -/
  written : ∀ {members}, alternative.members? value = some members →
    alternative.stores value members
  /-- Members that stand for the value are read as it. -/
  read : ∀ {members}, alternative.stores value members →
    alternative.readMembers members = .ok value
  /-- Members that stand for the value are plain. -/
  plain : ∀ {members}, alternative.stores value members → Json.HavePlain depth members
  /-- No member that stands for the value is the tag. -/
  untagged : ∀ {members}, alternative.stores value members → ∀ member ∈ members, member.1 ≠ tag

/-- An alternative with fields keeps the values whose fields are kept. -/
theorem record_keeps {name tag : String} {layout : Layout types} {pack : Values types → α}
    {unpack : α → Option (Values types)} {depth : Nat} {value : α}
    (distinct : layout.names.Nodup) (untagged : tag ∉ layout.names)
    (keeps : ∀ values, unpack value = some values →
      layout.Keeps depth values ∧ pack values = value) :
    (record name layout pack unpack).Keeps tag depth value := by
  constructor
  · intro members written
    obtain ⟨values, found, rfl⟩ := Option.map_eq_some_iff.1 written
    exact ⟨values, found, Layout.storesMembers_written (keeps values found).1⟩
  · rintro members ⟨values, found, stored⟩
    obtain ⟨kept, inverse⟩ := keeps values found
    show (layout.readMembers .held members).map pack = _
    rw [Layout.readMembers_stored .held distinct kept stored]
    exact congrArg Except.ok inverse
  · rintro members ⟨values, found, stored⟩
    exact Layout.havePlain_of_storesMembers (keeps values found).1 stored
  · rintro members ⟨values, found, stored⟩ member within same
    exact untagged (same ▸ Layout.name_mem_of_storesMembers stored within)

/-- An alternative without fields keeps its one value. -/
theorem plain_keeps {name tag : String} {depth : Nat} {value other : α} {holds : α → Bool}
    (alone : holds other = true → other = value) :
    (plain name value holds).Keeps tag depth other := by
  refine record_keeps (show ([] : List String).Nodup from .nil) List.not_mem_nil ?_
  intro values found
  refine ⟨trivial, ?_⟩
  by_cases held : holds other = true
  · exact (alone held).symm
  · rw [if_neg held] at found
    cases found

end Alternative

namespace Variant

variable {α β : Type}

/-- What an alternative stores of a value beside its name is read as the value. -/
structure Keeps (variant : Variant α) (depth : Nat) (value : α) : Prop where
  /-- The written content stands for the value. -/
  written : ∀ {content}, variant.content? value = some content → variant.stores value content
  /-- A value that is stored without content is the one of the name. -/
  bare : variant.stores value none → variant.bare? = some value
  /-- An alternative that stores a content has no value without one. -/
  full : ∀ {document}, variant.stores value (some document) → variant.bare? = none
  /-- A content that stands for the value is read as it. -/
  read : ∀ {document}, variant.stores value (some document) →
    ∀ arrival, variant.fill arrival document = .ok value
  /-- A content that stands for the value is plain. -/
  plain : ∀ {document}, variant.stores value (some document) → document.Plain depth

/-- An alternative without content keeps its one value. -/
theorem plain_keeps {name : String} {depth : Nat} {value other : α} {holds : α → Bool}
    (alone : holds other = true → other = value) : (plain name value holds).Keeps depth other where
  written := by
    intro content written
    by_cases held : holds other = true
    · have none : some Option.none = some content := (if_pos held).symm.trans written
      exact ⟨held, (Option.some.inj none).symm⟩
    · have absent : Option.none = some content := (if_neg held).symm.trans written
      cases absent
  bare stored := congrArg some (alone stored.1).symm
  full stored := nomatch stored.2
  read stored := nomatch stored.2
  plain stored := nomatch stored.2

/-- An alternative with content keeps the values whose content is kept. -/
theorem holding_keeps {name : String} {content : Format β} {pack : β → α} {unpack : α → Option β}
    {depth : Nat} {value : α}
    (keeps : ∀ inner, unpack value = some inner → content.Keeps depth inner ∧ pack inner = value) :
    (holding name content pack unpack).Keeps depth value := by
  constructor
  · intro document written
    obtain ⟨inner, found, rfl⟩ := Option.map_eq_some_iff.1 written
    exact ⟨inner, _, found, rfl, (keeps inner found).1.written⟩
  · rintro ⟨inner, held, _, absent, _⟩
    cases absent
  · exact fun _ => rfl
  · rintro document ⟨inner, held, found, same, stored⟩ arrival
    obtain rfl := Option.some.inj same
    obtain ⟨kept, inverse⟩ := keeps inner found
    show (content.read arrival document).map pack = _
    rw [kept.read stored]
    exact congrArg Except.ok inverse
  · rintro document ⟨inner, held, found, same, stored⟩
    obtain rfl := Option.some.inj same
    exact (keeps inner found).1.plain stored

/-- Content that stands beside the name is taken by an alternative that stores one. -/
theorem Keeps.fillBeside {variant : Variant α} {depth : Nat} {value : α} {document : Json}
    (keeps : variant.Keeps depth value) (stored : variant.stores value (some document))
    (arrival : Arrival) : variant.fillBeside arrival document = .ok value := by
  unfold Variant.fillBeside
  rw [keeps.full stored]
  exact keeps.read stored arrival

end Variant

namespace Format

variable {α : Type}

/-- Where some alternative has parts of a value, the first form is that of one that has. -/
theorem firstForm_eq {β γ : Type} {parts? : β → Option γ} {form : β → γ → Json} {choices : List β}
    (covered : ∃ choice ∈ choices, (parts? choice).isSome = true) :
    ∃ choice ∈ choices, ∃ parts, parts? choice = some parts ∧
      firstForm parts? form choices = form choice parts := by
  unfold firstForm
  cases found : choices.findSome? fun choice => (parts? choice).map (form choice) with
  | none =>
    obtain ⟨choice, member, answered⟩ := covered
    have absent := List.findSome?_eq_none_iff.1 found choice member
    rw [Option.map_eq_none_iff] at absent
    rw [absent] at answered
    cases answered
  | some document =>
    obtain ⟨choice, member, answered⟩ := List.exists_of_findSome?_eq_some found
    obtain ⟨parts, has, same⟩ := Option.map_eq_some_iff.1 answered
    exact ⟨choice, member, parts, has, same.symm⟩

/-- Past the tag, members of other names do not change the alternative. -/
theorem findTag_of_ne {alternatives : List (Alternative α)} {arrival : Arrival} {tag : String}
    {found : Alternative α} {members : List (String × Json)}
    (untagged : ∀ member ∈ members, member.1 ≠ tag) :
    findTag alternatives arrival tag members (some found) = .ok found := by
  induction members with
  | nil => rfl
  | cons member members ih =>
    simp only [findTag, untagged member List.mem_cons_self, if_false]
    exact ih fun other within => untagged other (List.mem_cons_of_mem _ within)

/-- The tag in front of the members leads to its alternative. -/
theorem findTag_front {alternatives : List (Alternative α)} {alternative : Alternative α}
    {arrival : Arrival} {tag : String} {members : List (String × Json)}
    (distinct : (alternatives.map Alternative.name).Nodup) (listed : alternative ∈ alternatives)
    (untagged : ∀ member ∈ members, member.1 ≠ tag) :
    findTag alternatives arrival tag ((tag, .text alternative.name) :: members) none =
      .ok alternative := by
  simp only [findTag, if_true, readTag, choose_name distinct listed]
  exact findTag_of_ne untagged

/-- A tag in front of plain members makes a plain object. -/
theorem withTag_plain {tag name : String} {members : List (String × Json)} {depth : Nat}
    (plain : Json.HavePlain depth members) : (withTag tag name members).Plain (depth + 1) := by
  simpa [withTag, Json.Plain, Json.HavePlain] using plain

/-- A tagged union keeps what its alternatives keep. -/
theorem tagged_keeps {alternatives : List (Alternative α)} {tag : String} {depth : Nat} {value : α}
    (distinct : (alternatives.map Alternative.name).Nodup)
    (keeps : ∀ alternative ∈ alternatives, alternative.Keeps tag depth value)
    (covered : ∃ alternative ∈ alternatives, (alternative.members? value).isSome = true) :
    (tagged tag alternatives).Keeps (depth + 1) value := by
  constructor
  · obtain ⟨alternative, listed, members, has, same⟩ := firstForm_eq covered
    exact ⟨alternative, listed, members, (keeps alternative listed).written has, same⟩
  · rintro _ ⟨alternative, listed, members, stored, rfl⟩ arrival
    have kept := keeps alternative listed
    have apart := kept.untagged stored
    have readable : (withTag tag alternative.name members).isReadable = true :=
      Json.isReadable_of_plain (withTag_plain (kept.plain stored))
    have others : members.filter (fun member => member.1 != tag) = members :=
      List.filter_eq_self.2 fun member within => by simpa using apart member within
    show (if (withTag tag alternative.name members).isReadable = true then
      readTagged alternatives tag arrival (withTag tag alternative.name members) else _) = _
    rw [if_pos readable]
    simp only [withTag, readTagged, findTag_front distinct listed apart]
    show alternative.readMembers (List.filter _ _) = _
    rw [List.filter_cons_of_neg (by simp), others]
    exact kept.read stored
  · rintro _ ⟨alternative, listed, members, stored, rfl⟩
    exact withTag_plain ((keeps alternative listed).plain stored)

/-- A paired union keeps what its alternatives keep. -/
theorem paired_keeps {variants : List (Variant α)} {tag content : String} {depth : Nat} {value : α}
    (apart : content ≠ tag) (distinct : (variants.map Variant.name).Nodup)
    (keeps : ∀ variant ∈ variants, variant.Keeps depth value)
    (covered : ∃ variant ∈ variants, (variant.content? value).isSome = true) :
    (paired tag content variants).Keeps (depth + 1) value := by
  constructor
  · obtain ⟨variant, listed, content, has, same⟩ := firstForm_eq covered
    exact ⟨variant, listed, content, (keeps variant listed).written has, same⟩
  · rintro _ ⟨variant, listed, inner, stored, rfl⟩ arrival
    have kept := keeps variant listed
    have found : Variant.find variants variant.name = .ok variant := choose_name distinct listed
    unfold paired
    cases inner with
    | none =>
      simp only [besideName, withTag, Option.map_none, Option.toList_none, readPair, if_true,
        readName, found]
      show readPair.afterName tag content arrival variant [] = _
      simp only [readPair.afterName, kept.bare stored]
    | some document =>
      simp only [besideName, withTag, Option.map_some, Option.toList_some, readPair, if_true,
        readName, found]
      show readPair.afterName tag content arrival variant [(content, document)] = _
      simp only [readPair.afterName, apart, if_false, if_true, kept.fillBeside stored]
      rfl
  · rintro _ ⟨variant, listed, inner, stored, rfl⟩
    cases inner with
    | none => exact withTag_plain trivial
    | some document => exact withTag_plain ⟨(keeps variant listed).plain stored, trivial⟩

/-- A named union keeps what its alternatives keep. -/
theorem named_keeps {variants : List (Variant α)} {depth : Nat} {value : α}
    (distinct : (variants.map Variant.name).Nodup)
    (keeps : ∀ variant ∈ variants, variant.Keeps depth value)
    (covered : ∃ variant ∈ variants, (variant.content? value).isSome = true) :
    (named variants).Keeps (depth + 1) value := by
  constructor
  · obtain ⟨variant, listed, content, has, same⟩ := firstForm_eq covered
    exact ⟨variant, listed, content, (keeps variant listed).written has, same⟩
  · rintro _ ⟨variant, listed, inner, stored, rfl⟩ arrival
    have kept := keeps variant listed
    have found : Variant.find variants variant.name = .ok variant := choose_name distinct listed
    unfold named
    cases inner with
    | none =>
      simp only [underName, found, bind, Except.bind, kept.bare stored]
    | some document =>
      simp only [underName, readOnly, found]
      exact kept.read stored arrival
  · rintro _ ⟨variant, listed, inner, stored, rfl⟩
    cases inner with
    | none => simp [underName, Json.Plain]
    | some document =>
      have plain := (keeps variant listed).plain stored
      simpa [underName, Json.Plain, Json.HavePlain] using plain

end Format

end Narrative
