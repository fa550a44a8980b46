/-!
# JSON documents

A document is the tree that a JSON text describes. An object keeps its members in the order of
the text, repeated names included: what a repeated name means is for the reader of each object
to say. A number is an integer exactly when its text has neither fraction nor exponent and is
not a negative zero; any other number keeps its text, since nothing is computed from it. A
value can follow the grammar and stand for nothing all the same. Such a value does no harm where
nobody reads it, so it is part of the tree too.
-/

namespace Narrative

/-- A JSON value. -/
inductive Json where
  /-- The word null. -/
  | null
  /-- A truth value. -/
  | bool (value : Bool)
  /-- A number written without fraction and exponent, other than negative zero. -/
  | integer (value : Int)
  /-- Any other number, as it is written. -/
  | decimal (literal : String)
  /-- A string. -/
  | text (value : String)
  /-- An array. -/
  | array (elements : List Json)
  /-- An object with its members in order. -/
  | object (members : List (String × Json))
  /-- A value that stands for nothing, as it is written: a number beyond the doubles, a string
  with half of a surrogate pair, or an object with such a string as a name. -/
  | unreadable (literal : String)
  deriving Inhabited

namespace Json

mutual

/-- Whether every value of a tree stands for something. -/
def isReadable : Json → Bool
  | unreadable _ => false
  | array elements => areReadable elements
  | object members => haveReadable members
  | null => true
  | bool _ => true
  | integer _ => true
  | decimal _ => true
  | text _ => true

/-- Whether all elements of an array are readable. -/
def areReadable : List Json → Bool
  | [] => true
  | element :: rest => isReadable element && areReadable rest

/-- Whether all members of an object have readable values. -/
def haveReadable : List (String × Json) → Bool
  | [] => true
  | (_, value) :: rest => isReadable value && haveReadable rest

end

/-- The value of the first member of a name; none in a value that is no object. -/
def member? (name : String) : Json → Option Json
  | object members => (members.find? fun member => member.1 == name).map Prod.snd
  | _ => none

/-- The array of the documents of some values. -/
def ofList {α : Type} (element : α → Json) (values : List α) : Json :=
  array (values.map element)

/-- The document of a value, or null where there is none. -/
def ofOption {α : Type} (element : α → Json) : Option α → Json
  | some value => element value
  | none => null

/-- The integer of a natural number. -/
def ofNat (value : Nat) : Json := integer value

end Json

end Narrative
