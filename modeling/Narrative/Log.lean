import Narrative.Format.Record

/-!
# Log entries

Operations that report something return their value together with the entries they wrote, oldest
first. The value never depends on the entries, and sequencing two operations puts the entries of
the first in front. Optional entries, those that only help to follow a run, pass a filter that
the configuration sets.
-/

namespace Narrative

/-- How grave an entry is, the least grave first. -/
inductive Level where
  /-- Every step. -/
  | trace
  /-- What helps to find a fault. -/
  | debug
  /-- What a player would notice. -/
  | info
  /-- A request that could not be met. -/
  | warn
  /-- Content that cannot work. -/
  | error
  deriving DecidableEq, Inhabited, Repr

namespace Level

instance : Enumerated Level where
  all := [trace, debug, info, warn, error]
  name
    | trace => "Trace"
    | debug => "Debug"
    | info => "Info"
    | warn => "Warn"
    | error => "Error"

/-- The word that heads an entry of this level. -/
def label : Level → String
  | trace => "TRACE"
  | debug => "DEBUG"
  | info => "INFO"
  | warn => "WARN"
  | error => "ERROR"

/-- Whether a level is at least as grave as another. -/
def reaches (level threshold : Level) : Bool := threshold.ctorIdx ≤ level.ctorIdx

end Level

/-- The part of the program that an entry comes from. -/
inductive Category where
  /-- The game as a whole. -/
  | engine
  /-- The walk through graphs. -/
  | flow
  /-- Flags and units. -/
  | cells
  /-- State transitions. -/
  | machine
  /-- Stored bundles. -/
  | resources
  deriving DecidableEq, Inhabited, Repr

namespace Category

instance : Enumerated Category where
  all := [engine, flow, cells, machine, resources]
  name
    | engine => "Engine"
    | flow => "Flow"
    | cells => "Variables"
    | machine => "Machine"
    | resources => "Resources"

/-- The place of a category in the alphabetical order of the names. -/
def rank : Category → Nat
  | engine => 0
  | flow => 1
  | machine => 2
  | resources => 3
  | cells => 4

instance : Ord Category := ⟨compareOn rank⟩

instance : Std.TransOrd Category := inferInstanceAs (Std.TransCmp (compareOn rank))

instance : Std.LawfulEqOrd Category where
  compare_self := by intro category; cases category <;> decide
  eq_of_compare := by intro left right; cases left <;> cases right <;> decide

/-- The name under which the entries of a category are filed. -/
def target : Category → String
  | engine => "shirube::engine"
  | flow => "shirube::flow"
  | cells => "shirube::variables"
  | machine => "shirube::machine"
  | resources => "shirube::resources"

end Category

/-- One line of the log. -/
structure Entry where
  /-- How grave it is. -/
  level : Level
  /-- Where it comes from. -/
  category : Category
  /-- What happened. -/
  message : String
  deriving DecidableEq, Repr

/-- A value with the entries written on the way to it. -/
structure Logged (α : Type) where
  /-- The value. -/
  value : α
  /-- The entries, oldest first. -/
  entries : List Entry

namespace Logged

variable {α β : Type}

instance : Monad Logged where
  pure value := ⟨value, []⟩
  bind first next := ⟨(next first.value).value, first.entries ++ (next first.value).entries⟩

@[simp]
theorem value_pure (value : α) : (pure value : Logged α).value = value := rfl

@[simp]
theorem entries_pure (value : α) : (pure value : Logged α).entries = [] := rfl

@[simp]
theorem value_bind (first : Logged α) (next : α → Logged β) :
    (first >>= next).value = (next first.value).value := rfl

@[simp]
theorem entries_bind (first : Logged α) (next : α → Logged β) :
    (first >>= next).entries = first.entries ++ (next first.value).entries := rfl

@[simp]
theorem value_map (change : α → β) (first : Logged α) :
    (change <$> first).value = change first.value := rfl

/-- One entry. -/
def note (level : Level) (category : Category) (message : String) : Logged Unit :=
  ⟨(), [⟨level, category, message⟩]⟩

@[simp]
theorem value_note (level : Level) (category : Category) (message : String) :
    (note level category message).value = () := rfl

end Logged

/-- The filter of the optional entries. -/
structure Tracing where
  /-- Whether any optional entry is written. -/
  enabled : Bool
  /-- The least grave level that is written. -/
  level : Level
  /-- The categories that are written. -/
  categories : SortedSet Category
  deriving DecidableEq

namespace Tracing

/-- No optional entry until the filter is enabled; then debugging entries of three categories. -/
def standard : Tracing := ⟨false, .debug, SortedSet.ofMembers [.engine, .flow, .machine]⟩

/-- Every optional entry. -/
def verbose : Tracing :=
  ⟨true, .trace, SortedSet.ofMembers [.engine, .flow, .cells, .machine, .resources]⟩

/-- Whether an optional entry of a category and level is written. -/
def allows (tracing : Tracing) (category : Category) (level : Level) : Bool :=
  tracing.enabled && level.reaches tracing.level && tracing.categories.contains category

/-- An optional entry. -/
def note (tracing : Tracing) (category : Category) (level : Level) (message : String) :
    Logged Unit :=
  if tracing.allows category level then Logged.note level category message else pure ()

@[simp]
theorem value_note (tracing : Tracing) (category : Category) (level : Level) (message : String) :
    (tracing.note category level message).value = () := rfl

/-- The stored form of a filter; an absent field is that of the standard filter. -/
def format : Format Tracing :=
  Format.record
    (.field (.withDefault "enabled" Format.boolean standard.enabled) <|
      .field (.withDefault "level" Format.enumeration standard.level) <|
      .field (.withDefault "categories" (Format.sortedSet Format.enumeration) standard.categories)
      .done)
    (fun (enabled, level, categories, ()) => ⟨enabled, level, categories⟩)
    fun tracing => (tracing.enabled, tracing.level, tracing.categories, ())

end Tracing

end Narrative
