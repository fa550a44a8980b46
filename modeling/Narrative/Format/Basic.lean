import Narrative.Json.Basic
import Narrative.SortedMap

/-!
# Formats of stored values

A format writes a value as a document and reads a value back from one. Reading says why a
document is refused: three causes are told apart by name, since an author can act on them, and
every other disagreement between a document and its expected shape is a mismatch.

A document is read as it streams by, or after it was held back as a whole because a name that
decides its shape may come late. Three things differ. Whatever is held must be readable, also what
is passed over. A held object is seen to have a member too many before its first one is read. And
in a held document a tag may be a position, and an empty object may stand for no content.
-/

namespace Narrative

/-- Why a document is not the stored form of a value. -/
inductive Fault where
  /-- A record lacks a field that has no default. -/
  | missingField (name : String)
  /-- A record has a field twice. -/
  | duplicateField (name : String)
  /-- A name is not among those of the alternatives. -/
  | unknownVariant (found : String) (expected : List String)
  /-- A value has another shape than the expected one, or is out of its range. -/
  | mismatch
  deriving DecidableEq, Repr

namespace Fault

/-- A name between grave accents. -/
def marked (name : String) : String := "\x60" ++ name ++ "\x60"

/-- The alternatives that a refused name was compared with. -/
def expectation : List String → String
  | [] => "there are no variants"
  | [only] => "expected " ++ marked only
  | [first, second] => "expected " ++ marked first ++ " or " ++ marked second
  | names => "expected one of " ++ ", ".intercalate (names.map marked)

/-- The wording of a fault that has one. -/
def detail? : Fault → Option String
  | missingField name => some ("missing field " ++ marked name)
  | duplicateField name => some ("duplicate field " ++ marked name)
  | unknownVariant found expected =>
    some ("unknown variant " ++ marked found ++ ", " ++ expectation expected)
  | mismatch => none

end Fault

/-- How a document comes to its reader. -/
inductive Arrival where
  /-- In the order of its text. -/
  | streamed
  /-- As a whole, held back until its shape was known. -/
  | held
  deriving DecidableEq, Repr

/-- A writer and a reader of one stored type. -/
structure Format (α : Type) where
  /-- The stored form of a value. -/
  write : α → Json
  /-- The value of a stored form. -/
  read : Arrival → Json → Except Fault α
  /-- Whether a document stands for a value. The written form does, and so does what is left of it
  without some of the fields whose values are their defaults. -/
  stores (value : α) (document : Json) : Prop := document = write value

namespace Format

variable {α β κ ν : Type}

/-- A string. -/
def text : Format String where
  write := .text
  read _
    | .text value => .ok value
    | _ => .error .mismatch

/-- A truth value. -/
def boolean : Format Bool where
  write := .bool
  read _
    | .bool value => .ok value
    | _ => .error .mismatch

/-- A string of exactly one character. -/
def character : Format Char where
  write value := .text (String.singleton value)
  read _
    | .text value =>
      match value.toList with
      | [only] => .ok only
      | _ => .error .mismatch
    | _ => .error .mismatch

/-- A natural number of at most 64 bits. -/
def natural : Format Nat where
  write := .ofNat
  read _
    | .integer value =>
      if 0 ≤ value ∧ value < UInt64.size then .ok value.toNat else .error .mismatch
    | _ => .error .mismatch

/-- An unsigned word of 64 bits. -/
def word64 : Format UInt64 where
  write value := .ofNat value.toNat
  read _
    | .integer value =>
      if 0 ≤ value ∧ value < UInt64.size then .ok (UInt64.ofNat value.toNat) else .error .mismatch
    | _ => .error .mismatch

/-- A signed word of 64 bits. -/
def integer64 : Format Int64 where
  write value := .integer value.toInt
  read _
    | .integer value =>
      if Int64.minValue.toInt ≤ value ∧ value ≤ Int64.maxValue.toInt then .ok (Int64.ofInt value)
      else .error .mismatch
    | _ => .error .mismatch

/-- A signed word of 32 bits. -/
def integer32 : Format Int32 where
  write value := .integer value.toInt
  read _
    | .integer value =>
      if Int32.minValue.toInt ≤ value ∧ value ≤ Int32.maxValue.toInt then .ok (Int32.ofInt value)
      else .error .mismatch
    | _ => .error .mismatch

/-- A value or null. -/
def optional (format : Format α) : Format (Option α) where
  write := .ofOption format.write
  read arrival
    | .null => .ok none
    | document => (format.read arrival document).map some
  stores
    | none, document => document = .null
    | some value, document => format.stores value document

/-- Whether documents stand for values one by one. -/
def storesEach (format : Format α) : List α → List Json → Prop
  | [], [] => True
  | value :: values, document :: documents =>
    format.stores value document ∧ format.storesEach values documents
  | _, _ => False

/-- An array whose elements all have one format. -/
def list (format : Format α) : Format (List α) where
  write := .ofList format.write
  read arrival
    | .array elements => elements.mapM (format.read arrival)
    | _ => .error .mismatch
  stores values document :=
    ∃ elements, document = .array elements ∧ format.storesEach values elements

/-- A value stored as the value of another format that determines it. -/
def convert (format : Format α) (pack : α → β) (unpack : β → α) : Format β where
  write value := format.write (unpack value)
  read arrival document := (format.read arrival document).map pack
  stores value := format.stores (unpack value)

/-- Read what stands for no content: null, or once it is held an empty object too. -/
def readNothing (arrival : Arrival) : Json → Except Fault Unit
  | .null => .ok ()
  | .object [] => if arrival = .held then .ok () else .error .mismatch
  | _ => .error .mismatch

/-- The choice of a name, or the names there are. -/
def choose (name : α → String) (choices : List α) (found : String) : Except Fault α :=
  match choices.find? fun choice => name choice == found with
  | some choice => .ok choice
  | none => .error (.unknownVariant found (choices.map name))

/-- The choice of a name that stands beside no content. -/
def readBare (find : String → Except Fault α) (arrival : Arrival) (found : String)
    (content : Json) : Except Fault α := do
  let choice ← find found
  let () ← readNothing arrival content
  .ok choice

/-- Read an object that has one member by its name and content. A further member is a mismatch:
at once in a held object, and in a streamed one after the first member was read. -/
def readOnly (read : String → Json → Except Fault α) (arrival : Arrival) :
    List (String × Json) → Except Fault α
  | [] => .error .mismatch
  | [(name, content)] => read name content
  | (name, content) :: _ =>
    match arrival with
    | .held => .error .mismatch
    | .streamed => do
      let _ ← read name content
      .error .mismatch

end Format

/-- A type with finitely many values, each known by its name. -/
class Enumerated (α : Type) where
  /-- The values in their order. -/
  all : List α
  /-- The name of a value. -/
  name : α → String

namespace Enumerated

variable {α : Type} [Enumerated α]

/-- The value of a name, or the names there are. -/
def read (found : String) : Except Fault α := Format.choose name all found

end Enumerated

namespace Format

variable {α κ ν : Type}

/-- A name of an enumeration; an object whose one member has that name and no value will do. -/
def enumeration [Enumerated α] : Format α where
  write value := .text (Enumerated.name value)
  read arrival
    | .text found => Enumerated.read found
    | .object members => readOnly (readBare Enumerated.read arrival) arrival members
    | _ => .error .mismatch

/-- How the keys of a map are written as member names. -/
class MemberName (κ : Type) where
  /-- The member name of a key. -/
  write : κ → String
  /-- The key of a member name. -/
  read : String → Except Fault κ

instance : MemberName String := ⟨id, .ok⟩

instance [Enumerated α] : MemberName α := ⟨Enumerated.name, Enumerated.read⟩

/-- Whether members stand for the entries of a map one by one. -/
def storesEntries [MemberName κ] (format : Format ν) :
    List (κ × ν) → List (String × Json) → Prop
  | [], [] => True
  | (key, value) :: entries, (name, document) :: members =>
    name = MemberName.write key ∧ format.stores value document ∧
      format.storesEntries entries members
  | _, _ => False

/-- An object with a member for each entry; of two members of one name the later one counts. -/
def sortedMap [Ord κ] [Std.TransOrd κ] [Std.LawfulEqOrd κ] [MemberName κ] (format : Format ν) :
    Format (SortedMap κ ν) where
  write map :=
    .object (map.toList.map fun entry => (MemberName.write entry.1, format.write entry.2))
  read arrival
    | .object members => do
      let entries ← members.mapM fun member => do
        let key ← MemberName.read member.1
        let value ← format.read arrival member.2
        pure (key, value)
      pure (SortedMap.ofList entries)
    | _ => .error .mismatch
  stores map document :=
    ∃ members, document = .object members ∧ format.storesEntries map.toList members

/-- An array of the members, in any order when it is read. -/
def sortedSet [Ord κ] [Std.TransOrd κ] [Std.LawfulEqOrd κ] (format : Format κ) :
    Format (SortedSet κ) :=
  (list format).convert SortedSet.ofMembers SortedSet.members

end Format

end Narrative
