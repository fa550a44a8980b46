import Narrative.Format.Basic

/-!
# Records

A record is stored as an object with a member for each field. A layout lists the fields in
order. It is written in that order with every field present; it is read from the members in any
order, ignoring those of other names, and a field with a default may be absent. Faults are found
in the order of the text: a repeated field and a fault within a field where they stand, an absent
field only after the last member. An array of the fields in order is read as a record too.
-/

namespace Narrative

/-- One field of a record. -/
structure Field (α : Type) where
  /-- The name of its member. -/
  name : String
  /-- How its value is stored. -/
  format : Format α
  /-- Its value where an object lacks it; none if an object must have it. -/
  absent : Option α
  /-- Its value where an array ends before it; none if an array must have it. -/
  cut : Option α

namespace Field

variable {α : Type}

/-- A field that must be present. -/
def required (name : String) (format : Format α) : Field α := ⟨name, format, none, none⟩

/-- A field that has a value where it is absent. -/
def withDefault (name : String) (format : Format α) (value : α) : Field α :=
  ⟨name, format, some value, some value⟩

/-- A field whose value may be null, as it is where the field is absent. -/
def optional (name : String) (format : Format α) : Field (Option α) :=
  ⟨name, format.optional, some none, some none⟩

/-- A field whose value may be null, as it is where an object lacks it; an array must have it. -/
def nullable (name : String) (format : Format α) : Field (Option α) :=
  ⟨name, format.optional, some none, none⟩

end Field

/-- The values of the fields of a record, in order. -/
@[reducible] def Values : List Type → Type
  | [] => Unit
  | α :: rest => α × Values rest

/-- The values read so far, in the order of the fields. -/
@[reducible] def Slots : List Type → Type
  | [] => Unit
  | α :: rest => Option α × Slots rest

/-- No value read so far. -/
def Slots.empty : (types : List Type) → Slots types
  | [] => ()
  | _ :: rest => (none, Slots.empty rest)

/-- The fields of a record in order. -/
inductive Layout : List Type → Type 1 where
  /-- A record without further fields. -/
  | done : Layout []
  /-- A field followed by the others. -/
  | field {α : Type} {rest : List Type} (first : Field α) (others : Layout rest) :
    Layout (α :: rest)

namespace Layout

variable {types : List Type}

/-- The names of the fields in order. -/
def names {types : List Type} : Layout types → List String
  | .done => []
  | .field first others => first.name :: others.names

/-- The members of a record, one for each field. -/
def writeMembers {types : List Type} : Layout types → Values types → List (String × Json)
  | .done, () => []
  | .field first others, (value, values) =>
    (first.name, first.format.write value) :: others.writeMembers values

/-- The elements of a row, one for each field. -/
def writeElements {types : List Type} : Layout types → Values types → List Json
  | .done, () => []
  | .field first others, (value, values) =>
    first.format.write value :: others.writeElements values

/-- Whether members stand for the fields of a record, in order. A field may be left out if its value
is the one it has where it is absent. -/
def storesMembers {types : List Type} : Layout types → Values types → List (String × Json) → Prop
  | .done, (), members => members = []
  | .field first others, (value, values), members =>
    (∃ document rest, members = (first.name, document) :: rest ∧
        first.format.stores value document ∧ others.storesMembers values rest) ∨
      first.absent = some value ∧ others.storesMembers values members

/-- Whether elements stand for the fields of a row, in order. -/
def storesElements {types : List Type} : Layout types → Values types → List Json → Prop
  | .done, (), elements => elements = []
  | .field first others, (value, values), elements =>
    ∃ document rest, elements = document :: rest ∧
      first.format.stores value document ∧ others.storesElements values rest

/-- Take in one member. -/
def accept {types : List Type} (arrival : Arrival) : Layout types → String → Json →
    Slots types → Except Fault (Slots types)
  | .done, _, _, () => .ok ()
  | .field first others, name, document, (slot, slots) =>
    if name = first.name then
      match slot with
      | some _ => .error (.duplicateField name)
      | none => do
        let value ← first.format.read arrival document
        .ok (some value, slots)
    else do
      let slots ← others.accept arrival name document slots
      .ok (slot, slots)

/-- The values of the fields once all members are taken in. -/
def complete {types : List Type} : Layout types → Slots types → Except Fault (Values types)
  | .done, () => .ok ()
  | .field first others, (slot, slots) =>
    match slot.or first.absent with
    | none => .error (.missingField first.name)
    | some value => do
      let values ← others.complete slots
      .ok (value, values)

/-- Take in all members in order. -/
def acceptAll (layout : Layout types) (arrival : Arrival) :
    List (String × Json) → Slots types → Except Fault (Slots types)
  | [], slots => .ok slots
  | (name, document) :: rest, slots => do
    let slots ← layout.accept arrival name document slots
    layout.acceptAll arrival rest slots

/-- The values of the fields among the members of an object. -/
def readMembers (layout : Layout types) (arrival : Arrival) (members : List (String × Json)) :
    Except Fault (Values types) := do
  let slots ← layout.acceptAll arrival members (Slots.empty types)
  layout.complete slots

/-- The values of the fields as the elements of an array, in order. -/
def readElements {types : List Type} (arrival : Arrival) :
    Layout types → List Json → Except Fault (Values types)
  | .done, [] => .ok ()
  | .done, _ :: _ => .error .mismatch
  | .field first others, [] =>
    match first.cut with
    | none => .error .mismatch
    | some value => do
      let values ← others.readElements arrival []
      .ok (value, values)
  | .field first others, document :: rest => do
    let value ← first.format.read arrival document
    let values ← others.readElements arrival rest
    .ok (value, values)

/-- The values of the fields of a stored record. -/
def read (layout : Layout types) (arrival : Arrival) : Json → Except Fault (Values types)
  | .object members => layout.readMembers arrival members
  | .array elements => layout.readElements arrival elements
  | _ => .error .mismatch

end Layout

namespace Format

variable {α : Type} {types others : List Type}

/-- A record with the fields of a layout. -/
def record (layout : Layout types) (pack : Values types → α) (unpack : α → Values types) :
    Format α where
  write value := .object (layout.writeMembers (unpack value))
  read arrival document := (layout.read arrival document).map pack
  stores value document :=
    ∃ members, document = .object members ∧ layout.storesMembers (unpack value) members

/-- An array with the values of a layout in order; no object will do. -/
def row (layout : Layout types) (pack : Values types → α) (unpack : α → Values types) :
    Format α where
  write value := .array (layout.writeElements (unpack value))
  read arrival
    | .array elements => (layout.readElements arrival elements).map pack
    | _ => .error .mismatch
  stores value document :=
    ∃ elements, document = .array elements ∧ layout.storesElements (unpack value) elements

/-- A record whose fields stand in one object with those of another record, after them. It is
read from objects only, its own fields before those of the other, which are held until then with
all members of other names. -/
def extended (base : Layout types) (own : Layout others)
    (pack : Values types → Values others → α) (unpack : α → Values types × Values others) :
    Format α where
  write value :=
    .object (base.writeMembers (unpack value).1 ++ own.writeMembers (unpack value).2)
  read arrival
    | .object members => do
      let ours ← own.readMembers arrival members
      let held := members.filter fun member => !own.names.contains member.1
      if Json.haveReadable held then do
        let theirs ← base.readMembers .held held
        .ok (pack theirs ours)
      else .error .mismatch
    | _ => .error .mismatch
  stores value document :=
    ∃ theirs ours, document = .object (theirs ++ ours) ∧
      base.storesMembers (unpack value).1 theirs ∧ own.storesMembers (unpack value).2 ours

end Format

end Narrative
