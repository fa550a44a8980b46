import Narrative.Flags

/-!
# Resolution of branches

Of the options of a branch whose conditions hold, the one with the highest priority is taken, and
the first of several with that priority. An option without a condition is always open; one whose
condition is on an undeclared cell never is.
-/

namespace Narrative

/-- What a branch chooses from. -/
class Candidate (α : Type) where
  /-- The condition under which an option is open; none if it always is. -/
  condition : α → Option Condition
  /-- The rank among open options. -/
  priority : α → Int32

namespace Branch

variable {α : Type} [Candidate α]

/-- Whether a condition is met. A condition on an undeclared cell is not, and is reported. -/
def satisfied (flags : Flags) : Option Condition → Logged Bool
  | none => pure true
  | some condition =>
    match flags.evaluate condition with
    | some result => pure result
    | none => do
      Logged.note .warn .cells
        s!"condition references unknown state '{condition.cell.name}'"
      pure false

/-- The best open option among some options, the first of which has the given index, and the
best of the options before them. -/
def resolveFrom (flags : Flags) (index : Nat) (best : Option (Nat × Int32)) :
    List α → Logged (Option Nat)
  | [] => pure (best.map Prod.fst)
  | option :: rest => do
    let isOpen ← satisfied flags (Candidate.condition option)
    let priority := Candidate.priority option
    if isOpen && best.all fun leader => leader.2 < priority then
      resolveFrom flags (index + 1) (some (index, priority)) rest
    else resolveFrom flags (index + 1) best rest

/-- The index of the open option with the highest priority, the first of several. -/
def resolve (flags : Flags) (options : List α) : Logged (Option Nat) :=
  resolveFrom flags 0 none options

end Branch

end Narrative
