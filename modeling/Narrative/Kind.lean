import Narrative.Format.Basic

/-!
# Kinds of state

The game is always in one of eight states; free roam has five sub-states of its own. Both kinds
are ordered as they are listed here, which is the order of every set and map keyed by them.
-/

namespace Narrative

/-- The states of the game. -/
inductive StateKind where
  /-- The title screen. -/
  | title
  /-- The player walks around and talks to characters. -/
  | freeRoam
  /-- A battle. -/
  | battle
  /-- A puzzle. -/
  | puzzle
  /-- The screen shown while another state is made ready. -/
  | loading
  /-- A scripted scene that plays a scenario dialog. -/
  | event
  /-- The closing credits. -/
  | creditRoll
  /-- The player reads a code. -/
  | readCode
  deriving DecidableEq, Inhabited, Repr

namespace StateKind

/-- Every kind in order. -/
def all : List StateKind :=
  [title, freeRoam, battle, puzzle, loading, event, creditRoll, readCode]

/-- The name of a kind. -/
def name : StateKind → String
  | title => "Title"
  | freeRoam => "FreeRoam"
  | battle => "Battle"
  | puzzle => "Puzzle"
  | loading => "Loading"
  | event => "Event"
  | creditRoll => "CreditRoll"
  | readCode => "ReadCode"

instance : ToString StateKind := ⟨name⟩

instance : Enumerated StateKind := ⟨all, name⟩

instance : Ord StateKind := ⟨compareOn StateKind.ctorIdx⟩

instance : Std.TransOrd StateKind := inferInstanceAs (Std.TransCmp (compareOn StateKind.ctorIdx))

instance : Std.LawfulEqOrd StateKind where
  compare_self := by intro kind; cases kind <;> decide
  eq_of_compare := by intro left right; cases left <;> cases right <;> decide

/-- The letters of a name with the Latin capitals made small; other letters stay. -/
def folded (name : String) : List Char := name.toList.map Char.toLower

/-- The kind of a name in any mixture of Latin capitals and small letters. -/
def ofName? (found : String) : Option StateKind :=
  all.find? fun kind => folded kind.name == folded found

/-- The complaint about a name that no kind has. -/
def unknownName (found : String) : String := s!"unknown game state '{found}'"

end StateKind

/-- The sub-states of free roam. -/
inductive SubKind where
  /-- The player walks around. -/
  | exploration
  /-- A conversation with a character. -/
  | dialog
  /-- The menu is open. -/
  | menu
  /-- A scripted scene. -/
  | event
  /-- A scene cut into the play. -/
  | cutIn
  deriving DecidableEq, Inhabited, Repr

namespace SubKind

/-- Every kind in order. -/
def all : List SubKind := [exploration, dialog, menu, event, cutIn]

/-- The name of a kind. -/
def name : SubKind → String
  | exploration => "Exploration"
  | dialog => "Dialog"
  | menu => "Menu"
  | event => "Event"
  | cutIn => "CutIn"

instance : ToString SubKind := ⟨name⟩

instance : Enumerated SubKind := ⟨all, name⟩

instance : Ord SubKind := ⟨compareOn SubKind.ctorIdx⟩

instance : Std.TransOrd SubKind := inferInstanceAs (Std.TransCmp (compareOn SubKind.ctorIdx))

instance : Std.LawfulEqOrd SubKind where
  compare_self := by intro kind; cases kind <;> decide
  eq_of_compare := by intro left right; cases left <;> cases right <;> decide

end SubKind

namespace Format

/-- A kind of game state by its name. -/
def stateKind : Format StateKind := enumeration

/-- A kind of sub-state by its name. -/
def subKind : Format SubKind := enumeration

end Format

end Narrative
