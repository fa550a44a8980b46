import Narrative.Format.Union
import Narrative.Log

/-!
# Flags and units

What the story remembers: truth values that are raised once, and numbers that are compared with a
requirement. Each cell remembers its authored initial value. A cell exists only if it was
declared, and nothing but a declaration creates one; writing to an undeclared cell changes
nothing and is reported.
-/

namespace Narrative

/-- How a number is compared with its requirement. -/
inductive Comparison where
  /-- Both are equal. -/
  | equal
  /-- The number is above the requirement. -/
  | greaterThan
  /-- The number is below the requirement. -/
  | lessThan
  /-- The number meets or passes the requirement. -/
  | greaterOrEqual
  /-- The number does not pass the requirement. -/
  | lessOrEqual
  deriving DecidableEq, Inhabited, Repr

namespace Comparison

instance : Enumerated Comparison where
  all := [equal, greaterThan, lessThan, greaterOrEqual, lessOrEqual]
  name
    | equal => "Equal"
    | greaterThan => "GreaterThan"
    | lessThan => "LessThan"
    | greaterOrEqual => "GreaterOrEqual"
    | lessOrEqual => "LessOrEqual"

/-- Whether a number stands in this relation to its requirement. -/
def holds : Comparison → Int64 → Int64 → Bool
  | equal, current, required => current == required
  | greaterThan, current, required => required < current
  | lessThan, current, required => current < required
  | greaterOrEqual, current, required => required ≤ current
  | lessOrEqual, current, required => current ≤ required

end Comparison

/-- The word nearest to an integer. -/
def nearestWord (value : Int) : Int64 :=
  if value < Int64.minValue.toInt then Int64.minValue
  else if Int64.maxValue.toInt < value then Int64.maxValue
  else Int64.ofInt value

/-- A number with a requirement. -/
structure UnitCell where
  /-- The authored value. -/
  initial : Int64
  /-- The value now. -/
  current : Int64
  /-- The value it is compared with. -/
  required : Int64
  deriving DecidableEq, Repr

namespace UnitCell

/-- A fresh cell at its initial value. -/
def declare (initial required : Int64) : UnitCell := ⟨initial, initial, required⟩

/-- Whether the number stands in a relation to its requirement. -/
def meets (cell : UnitCell) (comparison : Comparison) : Bool :=
  comparison.holds cell.current cell.required

/-- The cell after an addition that stops at the ends of the range. -/
def add (cell : UnitCell) (delta : Int64) : UnitCell :=
  { cell with current := nearestWord (cell.current.toInt + delta.toInt) }

/-- The cell at its initial value again. -/
def reset (cell : UnitCell) : UnitCell := { cell with current := cell.initial }

/-- The stored form. -/
def format : Format UnitCell :=
  Format.record
    (.field (.required "initial" Format.integer64) <|
      .field (.required "current" Format.integer64) <|
      .field (.required "required" Format.integer64) .done)
    (fun (initial, current, required, ()) => ⟨initial, current, required⟩)
    fun cell => (cell.initial, cell.current, cell.required, ())

end UnitCell

/-- A truth value that is raised once. -/
structure FlagCell where
  /-- The authored value. -/
  initial : Bool
  /-- The value now. -/
  raised : Bool
  deriving DecidableEq, Repr

namespace FlagCell

/-- A fresh cell at its initial value. -/
def declare (initial : Bool) : FlagCell := ⟨initial, initial⟩

/-- The cell once it is raised. -/
def raise (cell : FlagCell) : FlagCell := { cell with raised := true }

/-- Whether the truth value, as zero or one, stands in a relation to one. -/
def meets (cell : FlagCell) (comparison : Comparison) : Bool :=
  comparison.holds (if cell.raised then 1 else 0) 1

/-- The cell at its initial value again. -/
def reset (cell : FlagCell) : FlagCell := { cell with raised := cell.initial }

/-- The stored form. -/
def format : Format FlagCell :=
  Format.record
    (.field (.withDefault "initial" Format.boolean false) <|
      .field (.withDefault "condition" Format.boolean false) .done)
    (fun (initial, raised, ()) => ⟨initial, raised⟩)
    fun cell => (cell.initial, cell.raised, ())

end FlagCell

/-- The name of a cell. -/
inductive CellRef where
  /-- A number. -/
  | unit (name : String)
  /-- A truth value. -/
  | flag (name : String)
  deriving DecidableEq, Repr

namespace CellRef

/-- The name without the sort of cell. -/
def name : CellRef → String
  | unit name => name
  | flag name => name

/-- The stored form: the sort of cell under the scope, beside the name. -/
def format : Format CellRef :=
  Format.paired "scope" "name"
    [.holding "Unit" Format.text unit fun
        | unit name => some name
        | flag _ => none,
      .holding "Scenario" Format.text flag fun
        | flag name => some name
        | unit _ => none]

end CellRef

/-- A requirement on one cell. -/
structure Condition where
  /-- The cell. -/
  cell : CellRef
  /-- The relation that has to hold. -/
  comparison : Comparison
  deriving DecidableEq, Repr

/-- The stored form. -/
def Condition.format : Format Condition :=
  Format.record
    (.field (.required "state" CellRef.format) <|
      .field (.withDefault "comparison" Format.enumeration .equal) .done)
    (fun (cell, comparison, ()) => ⟨cell, comparison⟩)
    fun condition => (condition.cell, condition.comparison, ())

/-- The declared cells. -/
structure Flags where
  /-- The numbers. -/
  units : SortedMap String UnitCell
  /-- The truth values. -/
  flags : SortedMap String FlagCell
  deriving DecidableEq

namespace Flags

/-- No cell. -/
def empty : Flags := ⟨∅, ∅⟩

instance : EmptyCollection Flags := ⟨empty⟩

instance : Inhabited Flags := ⟨empty⟩

/-- Declare a number, in place of one of the same name. -/
def declareUnit (flags : Flags) (name : String) (initial required : Int64) : Flags :=
  { flags with units := flags.units.insert name (.declare initial required) }

/-- Declare a truth value, in place of one of the same name. -/
def declareFlag (flags : Flags) (name : String) (initial : Bool) : Flags :=
  { flags with flags := flags.flags.insert name (.declare initial) }

/-- The number of a name. -/
def unit? (flags : Flags) (name : String) : Option UnitCell := flags.units.get? name

/-- The truth value of a name. -/
def flag? (flags : Flags) (name : String) : Option FlagCell := flags.flags.get? name

/-- Whether a cell is declared. -/
def declares (flags : Flags) : CellRef → Bool
  | .unit name => flags.units.contains name
  | .flag name => flags.flags.contains name

/-- Whether a condition holds; none if its cell is not declared. -/
def evaluate (flags : Flags) (condition : Condition) : Option Bool :=
  match condition.cell with
  | .unit name => (flags.unit? name).map (·.meets condition.comparison)
  | .flag name => (flags.flag? name).map (·.meets condition.comparison)

/-- Raise a flag; the answer tells whether it is declared. -/
def activate (flags : Flags) (name : String) : Logged (Bool × Flags) :=
  match flags.flag? name with
  | some cell => pure (true, { flags with flags := flags.flags.insert name cell.raise })
  | none => do
    Logged.note .warn .cells s!"activate: undeclared scenario flag '{name}'"
    pure (false, flags)

/-- Set a number; the answer tells whether it is declared. -/
def setValue (flags : Flags) (name : String) (value : Int64) : Logged (Bool × Flags) :=
  match flags.unit? name with
  | some cell =>
    pure (true, { flags with units := flags.units.insert name { cell with current := value } })
  | none => do
    Logged.note .warn .cells s!"set: undeclared unit state '{name}'"
    pure (false, flags)

/-- Add to a number; the answer tells whether it is declared. -/
def addValue (flags : Flags) (name : String) (delta : Int64) : Logged (Bool × Flags) :=
  match flags.unit? name with
  | some cell => pure (true, { flags with units := flags.units.insert name (cell.add delta) })
  | none => do
    Logged.note .warn .cells s!"add: undeclared unit state '{name}'"
    pure (false, flags)

/-- Every cell at its initial value again. -/
def reset (flags : Flags) : Flags :=
  ⟨flags.units.map UnitCell.reset, flags.flags.map FlagCell.reset⟩

/-- The stored form. -/
def format : Format Flags :=
  Format.record
    (.field (.withDefault "units" (Format.sortedMap UnitCell.format) ∅) <|
      .field (.withDefault "scenario" (Format.sortedMap FlagCell.format) ∅) .done)
    (fun (units, flags, ()) => ⟨units, flags⟩)
    fun flags => (flags.units, flags.flags, ())

end Flags

end Narrative
