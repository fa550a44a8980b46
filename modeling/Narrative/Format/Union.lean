import Narrative.Format.Record

/-!
# Alternatives

A value of a type with alternatives is stored in one of three ways. A tagged union is the record
of the alternative with its name in one more member, the tag. A paired union is an object of two
members, the name and the content. A named union is the name alone, or an object whose one member
has the name and holds the content. What follows a name is read as it comes; what comes before the
name, and all of a tagged union, is held.
-/

namespace Narrative

/-- One alternative of a tagged union. -/
structure Alternative (α : Type) where
  /-- Its name. -/
  name : String
  /-- The members other than the tag, for a value of this alternative. -/
  members? : α → Option (List (String × Json))
  /-- The value of the members other than the tag. -/
  readMembers : List (String × Json) → Except Fault α
  /-- The value of the fields in order. -/
  readElements : List Json → Except Fault α
  /-- Whether members other than the tag stand for a value of this alternative. -/
  stores : α → List (String × Json) → Prop

namespace Alternative

variable {α : Type} {types : List Type}

/-- The alternative with the fields of a layout. -/
def record (name : String) (layout : Layout types) (pack : Values types → α)
    (unpack : α → Option (Values types)) : Alternative α where
  name := name
  members? value := (unpack value).map layout.writeMembers
  readMembers members := (layout.readMembers .held members).map pack
  readElements elements := (layout.readElements .held elements).map pack
  stores value members := ∃ values, unpack value = some values ∧ layout.storesMembers values members

/-- The alternative without fields, and how to tell its value. -/
def plain (name : String) (value : α) (holds : α → Bool) : Alternative α :=
  record name .done (fun _ => value) fun other => if holds other then some () else none

end Alternative

/-- One alternative of a paired or named union. -/
structure Variant (α : Type) where
  /-- Its name. -/
  name : String
  /-- Its value without content; none for an alternative with content. -/
  bare? : Option α
  /-- The content of a value of this alternative, itself none where there is no content. -/
  content? : α → Option (Option Json)
  /-- The value with the given content. -/
  fill : Arrival → Json → Except Fault α
  /-- Whether a content stands for a value of this alternative, itself none where there is no
  content. -/
  stores : α → Option Json → Prop

namespace Variant

variable {α β : Type}

/-- The alternative without content, and how to tell its value. -/
def plain (name : String) (value : α) (holds : α → Bool) : Variant α where
  name := name
  bare? := some value
  content? other := if holds other then some none else none
  fill arrival document := do
    let () ← Format.readNothing arrival document
    .ok value
  stores other content := holds other = true ∧ content = none

/-- An alternative with content. -/
def holding (name : String) (content : Format β) (pack : β → α) (unpack : α → Option β) :
    Variant α where
  name := name
  bare? := none
  content? value := (unpack value).map fun inner => some (content.write inner)
  fill arrival document := (content.read arrival document).map pack
  stores value document :=
    ∃ inner held, unpack value = some inner ∧ document = some held ∧ content.stores inner held

/-- The value with content that stands beside the name. An alternative without content takes
only null there. -/
def fillBeside (variant : Variant α) (arrival : Arrival) (document : Json) : Except Fault α :=
  match variant.bare?, document with
  | none, _ => variant.fill arrival document
  | some value, .null => .ok value
  | some _, _ => .error .mismatch

/-- The alternative of a name, or the names there are. -/
def find (variants : List (Variant α)) (found : String) : Except Fault (Variant α) :=
  Format.choose name variants found

end Variant

namespace Format

variable {α β γ : Type}

/-- The form of the first alternative that has parts of a value. -/
def firstForm (parts? : β → Option γ) (form : β → γ → Json) (choices : List β) : Json :=
  (choices.findSome? fun choice => (parts? choice).map (form choice)).getD .null

/-- A tag in front of other members. -/
def withTag (tag name : String) (members : List (String × Json)) : Json :=
  .object ((tag, .text name) :: members)

/-- A name beside its content, if it has one. -/
def besideName (tag content name : String) (inner : Option Json) : Json :=
  withTag tag name (inner.map fun document => (content, document)).toList

/-- A name that holds its content, if it has one. -/
def underName (name : String) : Option Json → Json
  | none => .text name
  | some document => .object [(name, document)]

/-- The choice that a tag names. A tag that is held may be a position too. -/
def readTag (name : β → String) (choices : List β) (arrival : Arrival) : Json → Except Fault β
  | .text found => choose name choices found
  | .integer position =>
    if arrival = .held ∧ 0 ≤ position then
      match choices[position.toNat]? with
      | some choice => .ok choice
      | none => .error .mismatch
    else .error .mismatch
  | _ => .error .mismatch

/-- The alternative that the tag among some members names, given the one found before them. -/
def findTag (alternatives : List (Alternative α)) (arrival : Arrival) (tag : String) :
    List (String × Json) → Option (Alternative α) → Except Fault (Alternative α)
  | [], some found => .ok found
  | [], none => .error (.missingField tag)
  | (name, document) :: rest, found =>
    if name = tag then
      match found with
      | some _ => .error (.duplicateField tag)
      | none => do
        let alternative ← readTag Alternative.name alternatives arrival document
        findTag alternatives arrival tag rest (some alternative)
    else findTag alternatives arrival tag rest found

/-- The value of a tagged union in a document that is readable. -/
def readTagged (alternatives : List (Alternative α)) (tag : String) (arrival : Arrival) :
    Json → Except Fault α
  | .object members => do
    let alternative ← findTag alternatives arrival tag members none
    alternative.readMembers (members.filter fun member => member.1 != tag)
  | .array [] => .error (.missingField tag)
  | .array (first :: rest) => do
    let alternative ← readTag Alternative.name alternatives arrival first
    alternative.readElements rest
  | _ => .error .mismatch

/-- A tagged union. The tag is found before any other member is read; an array has the tag in
front of the fields. -/
def tagged (tag : String) (alternatives : List (Alternative α)) : Format α where
  write value :=
    firstForm (Alternative.members? · value) (fun alternative => withTag tag alternative.name)
      alternatives
  read arrival document :=
    if document.isReadable then readTagged alternatives tag arrival document
    else .error .mismatch
  stores value document :=
    ∃ alternative ∈ alternatives, ∃ members,
      alternative.stores value members ∧ document = withTag tag alternative.name members

/-- The name of an alternative as a value of its own, alone or as an object's one member. -/
def readName (variants : List (Variant α)) (arrival : Arrival) : Json → Except Fault (Variant α)
  | .text found => Variant.find variants found
  | .object members => readOnly (readBare (Variant.find variants) arrival) arrival members
  | _ => .error .mismatch

/-- Refuse a second occurrence of either member of a paired union. -/
def refuseRepeats (tag content : String) (value : α) : List (String × Json) → Except Fault α
  | [] => .ok value
  | (name, _) :: rest =>
    if name = tag ∨ name = content then .error (.duplicateField name)
    else refuseRepeats tag content value rest

/-- The value of a paired union among members of which none has been used, up to the first of
the two: the name or the content. -/
def readPair (variants : List (Variant α)) (tag content : String) (arrival : Arrival) :
    List (String × Json) → Except Fault α
  | [] => .error (.missingField tag)
  | (name, document) :: rest =>
    if name = tag then do
      let variant ← readName variants arrival document
      afterName variant rest
    else if name = content then
      if document.isReadable then afterContent document rest else .error .mismatch
    else readPair variants tag content arrival rest
where
  /-- The value once the name is known. -/
  afterName (variant : Variant α) : List (String × Json) → Except Fault α
    | [] =>
      match variant.bare? with
      | some value => .ok value
      | none => .error (.missingField content)
    | (name, document) :: rest =>
      if name = tag then .error (.duplicateField tag)
      else if name = content then do
        let value ← variant.fillBeside arrival document
        refuseRepeats tag content value rest
      else afterName variant rest
  /-- The value once the content is known. -/
  afterContent (document : Json) : List (String × Json) → Except Fault α
    | [] => .error (.missingField tag)
    | (name, next) :: rest =>
      if name = tag then do
        let variant ← readName variants arrival next
        let value ← variant.fillBeside .held document
        refuseRepeats tag content value rest
      else if name = content then .error (.duplicateField content)
      else afterContent document rest

/-- The value of a paired union whose name and content are the two elements of an array. -/
def readCouple (variants : List (Variant α)) (arrival : Arrival) : List Json → Except Fault α
  | [] => .error .mismatch
  | first :: rest => do
    let variant ← readTag Variant.name variants arrival first
    match rest with
    | [] => .error .mismatch
    | second :: others => do
      let value ← variant.fillBeside arrival second
      if others.isEmpty then .ok value else .error .mismatch

/-- A paired union. A plain alternative is written as its name alone. -/
def paired (tag content : String) (variants : List (Variant α)) : Format α where
  write value :=
    firstForm (Variant.content? · value) (fun variant => besideName tag content variant.name)
      variants
  read arrival
    | .object members => readPair variants tag content arrival members
    | .array elements => readCouple variants arrival elements
    | _ => .error .mismatch
  stores value document :=
    ∃ variant ∈ variants, ∃ inner,
      variant.stores value inner ∧ document = besideName tag content variant.name inner

/-- A named union. -/
def named (variants : List (Variant α)) : Format α where
  write value :=
    firstForm (Variant.content? · value) (fun variant => underName variant.name) variants
  read arrival
    | .text found => do
      let variant ← Variant.find variants found
      match variant.bare? with
      | some value => .ok value
      | none => .error .mismatch
    | .object members =>
      let read := fun found content => do
        let variant ← Variant.find variants found
        variant.fill arrival content
      readOnly read arrival members
    | _ => .error .mismatch
  stores value document :=
    ∃ variant ∈ variants, ∃ inner,
      variant.stores value inner ∧ document = underName variant.name inner

end Format

end Narrative
