import Narrative.Flags
import Narrative.Proofs.SortedMap

/-!
# Changes of the flags

The story changes the flags one cell at a time: a flag is raised, or a number is set or added to.
No such change declares a cell or makes the story forget its authored value, so that starting over
brings back the same flags before and after it.
-/

namespace Narrative.Flags

/-- A change of one cell. -/
inductive Write where
  /-- Raise a flag. -/
  | activate (flag : String)
  /-- Set a number. -/
  | set (cell : String) (value : Int64)
  /-- Add to a number. -/
  | add (cell : String) (delta : Int64)

/-- The cell that a change is for. -/
def Write.cell : Write → CellRef
  | activate flag => .flag flag
  | set cell _ => .unit cell
  | add cell _ => .unit cell

/-- Change a cell; the answer tells whether it is declared. -/
def Write.apply (flags : Flags) : Write → Logged (Bool × Flags)
  | activate flag => flags.activate flag
  | set cell value => flags.setValue cell value
  | add cell delta => flags.addValue cell delta

/-- Whether a flag is raised. -/
def Raised (flags : Flags) (name : String) : Prop :=
  ∃ cell, flags.flag? name = some cell ∧ cell.raised = true

/-- Flags that are as the authors wrote them. -/
structure Pristine (flags : Flags) : Prop where
  /-- Every number has its initial value. -/
  units : ∀ name cell, flags.unit? name = some cell → cell.current = cell.initial
  /-- Every truth value is the initial one. -/
  flags : ∀ name cell, flags.flag? name = some cell → cell.raised = cell.initial

/-- What the authors wrote about a number. -/
def authoredUnit? (flags : Flags) (name : String) : Option (Int64 × Int64) :=
  (flags.unit? name).map fun cell => (cell.initial, cell.required)

/-- What the authors wrote about a truth value. -/
def authoredFlag? (flags : Flags) (name : String) : Option Bool :=
  (flags.flag? name).map FlagCell.initial

variable {flags other : Flags}

/-- A number after starting over. -/
theorem unit?_reset (flags : Flags) (name : String) :
    flags.reset.unit? name = (flags.unit? name).map UnitCell.reset :=
  SortedMap.get?_map flags.units UnitCell.reset name

/-- A truth value after starting over. -/
theorem flag?_reset (flags : Flags) (name : String) :
    flags.reset.flag? name = (flags.flag? name).map FlagCell.reset :=
  SortedMap.get?_map flags.flags FlagCell.reset name

/-- Starting over twice is starting over once. -/
theorem reset_reset (flags : Flags) : flags.reset.reset = flags.reset := by
  have units : flags.reset.units.map UnitCell.reset = flags.reset.units := by
    refine SortedMap.map_of_fixed fun entry member => ?_
    obtain ⟨before, -, rfl⟩ := List.mem_map.1 member
    rfl
  have truths : flags.reset.flags.map FlagCell.reset = flags.reset.flags := by
    refine SortedMap.map_of_fixed fun entry member => ?_
    obtain ⟨before, -, rfl⟩ := List.mem_map.1 member
    rfl
  unfold reset at units truths ⊢
  rw [units, truths]

/-- Flags that are as the authors wrote them are so after starting over. -/
theorem Pristine.reset (pristine : flags.Pristine) : flags.reset = flags := by
  have units : flags.units.map UnitCell.reset = flags.units := by
    refine SortedMap.map_of_fixed fun entry member => ?_
    obtain ⟨name, initial, current, required⟩ := entry
    obtain rfl : current = initial := pristine.units name _ (SortedMap.get?_of_mem member)
    rfl
  have truths : flags.flags.map FlagCell.reset = flags.flags := by
    refine SortedMap.map_of_fixed fun entry member => ?_
    obtain ⟨name, initial, raised⟩ := entry
    obtain rfl : raised = initial := pristine.flags name _ (SortedMap.get?_of_mem member)
    rfl
  unfold Flags.reset
  rw [units, truths]

/-- Flags that start over alike were authored alike. -/
theorem authored_of_reset (same : other.reset = flags.reset) (name : String) :
    other.authoredUnit? name = flags.authoredUnit? name ∧
      other.authoredFlag? name = flags.authoredFlag? name := by
  have unit (some : Flags) : some.authoredUnit? name = some.reset.authoredUnit? name := by
    unfold authoredUnit?
    rw [unit?_reset, Option.map_map]
    rfl
  have flag (some : Flags) : some.authoredFlag? name = some.reset.authoredFlag? name := by
    unfold authoredFlag?
    rw [flag?_reset, Option.map_map]
    rfl
  exact ⟨by rw [unit, unit flags, same], by rw [flag, flag flags, same]⟩

/-- Starting over keeps the declared cells. -/
theorem declares_reset (flags : Flags) (cell : CellRef) :
    flags.reset.declares cell = flags.declares cell := by
  cases cell with
  | unit name => exact (congrArg Option.isSome (flags.unit?_reset name)).trans Option.isSome_map
  | flag name => exact (congrArg Option.isSome (flags.flag?_reset name)).trans Option.isSome_map

/-- What comes of a change of one cell: nothing if the cell is not declared, or else a raised flag,
or a number with what the authors wrote about it. -/
theorem Write.apply_cases (write : Write) (flags : Flags) :
    (write.apply flags).value.2 = flags ∨
      (∃ name cell, flags.flag? name = some cell ∧
        (write.apply flags).value.2 = { flags with flags := flags.flags.insert name cell.raise }) ∨
      ∃ name cell after, flags.unit? name = some cell ∧ after.reset = cell.reset ∧
        (write.apply flags).value.2 = { flags with units := flags.units.insert name after } := by
  cases write with
  | activate flag =>
    dsimp only [apply]
    unfold Flags.activate
    cases found : flags.flag? flag with
    | none => exact .inl rfl
    | some cell => exact .inr (.inl ⟨flag, cell, found, rfl⟩)
  | set name value =>
    dsimp only [apply]
    unfold setValue
    cases found : flags.unit? name with
    | none => exact .inl rfl
    | some cell => exact .inr (.inr ⟨name, cell, { cell with current := value }, found, rfl, rfl⟩)
  | add name delta =>
    dsimp only [apply]
    unfold addValue
    cases found : flags.unit? name with
    | none => exact .inl rfl
    | some cell => exact .inr (.inr ⟨name, cell, cell.add delta, found, rfl, rfl⟩)

/-- A change of one cell is forgotten when the story starts over. -/
theorem Write.reset_apply (write : Write) (flags : Flags) :
    (write.apply flags).value.2.reset = flags.reset := by
  obtain same | ⟨name, cell, found, value⟩ | ⟨name, cell, after, found, same, value⟩ :=
    write.apply_cases flags
  · rw [same]
  · rw [value]
    exact congrArg (fun truths => Flags.mk _ truths) (SortedMap.map_insert_of_same found rfl)
  · rw [value]
    exact congrArg (fun units => Flags.mk units _) (SortedMap.map_insert_of_same found same)

/-- A raised flag stays raised when one cell changes. -/
theorem Write.raised_apply (write : Write) {name : String} (raised : flags.Raised name) :
    (write.apply flags).value.2.Raised name := by
  obtain same | ⟨flag, cell, -, value⟩ | ⟨_, _, after, -, -, value⟩ := write.apply_cases flags
  · rw [same]
    exact raised
  · rw [value]
    unfold Raised flag?
    by_cases same : name = flag
    · rw [same, SortedMap.get?_insert_self]
      exact ⟨cell.raise, rfl, rfl⟩
    · rw [SortedMap.get?_insert_of_ne _ _ same]
      exact raised
  · rw [value]
    exact raised

/-- A change of the flags from outside that changes one cell. -/
def IsWrite (change : Flags → Flags) : Prop :=
  ∃ write : Write, ∀ flags, change flags = (write.apply flags).value.2

/-- Flags that others become when cells are changed: the authors wrote them alike, and raised flags
stay raised. -/
structure Evolves (flags after : Flags) : Prop where
  /-- The story starts over with the same flags. -/
  cells : after.reset = flags.reset
  /-- Raised flags stay raised. -/
  raised : ∀ name, flags.Raised name → after.Raised name

/-- Nothing changes. -/
theorem Evolves.refl (flags : Flags) : flags.Evolves flags := ⟨rfl, fun _ => id⟩

/-- Two changes in a row. -/
theorem Evolves.trans {third : Flags} (first : flags.Evolves other) (second : other.Evolves third) :
    flags.Evolves third :=
  ⟨second.cells.trans first.cells, fun name raised => second.raised name (first.raised name raised)⟩

/-- One cell changes. -/
theorem Write.evolves (write : Write) (flags : Flags) :
    flags.Evolves (write.apply flags).value.2 :=
  ⟨write.reset_apply flags, fun _ => write.raised_apply⟩

/-- Changes keep the declared cells. -/
theorem Evolves.declares (evolves : flags.Evolves other) (cell : CellRef) :
    other.declares cell = flags.declares cell := by
  rw [← declares_reset other, evolves.cells, declares_reset]

/-- Flags in which every cell is declared that others declare. -/
def Covers (flags declared : Flags) : Prop :=
  ∀ cell, declared.declares cell = true → flags.declares cell = true

/-- A change of the flags from outside that takes no cell away. -/
def KeepsCells (change : Flags → Flags) : Prop := ∀ flags, (change flags).Covers flags

/-- Flags that cover others which cover a third. -/
theorem Covers.trans {third : Flags} (first : third.Covers other) (second : other.Covers flags) :
    third.Covers flags := fun cell declared => first cell (second cell declared)

/-- Changes of one cell after the other take no cell away. -/
theorem Evolves.covers (evolves : flags.Evolves other) : other.Covers flags := fun cell declared =>
  (evolves.declares cell).trans declared

/-- Starting over takes no cell away. -/
theorem reset_covers (flags : Flags) : flags.reset.Covers flags := fun cell declared =>
  (flags.declares_reset cell).trans declared

/-- The changes of the flags that there are operations for. -/
inductive Offered : (Flags → Flags) → Prop where
  /-- A number is declared. -/
  | declareUnit (name : String) (initial required : Int64) :
    Offered fun flags => flags.declareUnit name initial required
  /-- A truth value is declared. -/
  | declareFlag (name : String) (initial : Bool) :
    Offered fun flags => flags.declareFlag name initial
  /-- A cell changes. -/
  | write (write : Write) : Offered fun flags => (write.apply flags).value.2
  /-- Every cell has its initial value again. -/
  | reset : Offered Flags.reset

/-- No operation takes a cell away. -/
theorem Offered.keepsCells {change : Flags → Flags} (offered : Offered change) :
    KeepsCells change := by
  intro flags cell declared
  cases offered with
  | declareUnit name initial required =>
    cases cell with
    | unit other => exact SortedMap.contains_insert _ _ _ declared
    | flag other => exact declared
  | declareFlag name initial =>
    cases cell with
    | unit other => exact declared
    | flag other => exact SortedMap.contains_insert _ _ _ declared
  | write write => exact (write.evolves flags).covers cell declared
  | reset => exact flags.reset_covers cell declared

end Narrative.Flags
