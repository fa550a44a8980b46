import Narrative.Proofs.Branch
import Narrative.Proofs.Flags

/-!
# Flags that agree on some cells

A branch reads the cells of its conditions and no others, and what a change makes of a cell depends
on that cell alone. Flags that agree on the cells that are read are therefore as good as the same:
branches resolve alike under them, and they still agree after the same changes.
-/

namespace Narrative

namespace Flags

variable {flags other : Flags}

/-- Whether flags have the same in a cell. -/
def SameAt (flags other : Flags) : CellRef → Prop
  | .unit name => flags.unit? name = other.unit? name
  | .flag name => flags.flag? name = other.flag? name

/-- Whether flags have the same in each of some cells. -/
def AgreeOn (cells : List CellRef) (flags other : Flags) : Prop :=
  ∀ cell ∈ cells, flags.SameAt other cell

/-- Flags have the same as themselves. -/
@[simp]
theorem SameAt.refl (flags : Flags) (cell : CellRef) : flags.SameAt flags cell := by
  cases cell <;> rfl

/-- Having the same as others the other way round. -/
theorem SameAt.symm {cell : CellRef} (same : flags.SameAt other cell) :
    other.SameAt flags cell := by
  cases cell with
  | unit name => exact Eq.symm same
  | flag name => exact Eq.symm same

/-- Having the same as others that have the same as a third. -/
theorem SameAt.trans {third : Flags} {cell : CellRef} (first : flags.SameAt other cell)
    (second : other.SameAt third cell) : flags.SameAt third cell := by
  cases cell with
  | unit name => exact Eq.trans first second
  | flag name => exact Eq.trans first second

/-- A condition asks for nothing but its cell. -/
theorem evaluate_congr {condition : Condition} (same : flags.SameAt other condition.cell) :
    flags.evaluate condition = other.evaluate condition := by
  rcases condition with ⟨name | name, comparison⟩
  · have found : flags.unit? name = other.unit? name := same
    simp [evaluate, found]
  · have found : flags.flag? name = other.flag? name := same
    simp [evaluate, found]

namespace Write

/-- What a change makes of the number of a name. -/
def onUnit (name : String) (cell : UnitCell) : Write → UnitCell
  | activate _ => cell
  | set target value => if name = target then { cell with current := value } else cell
  | add target delta => if name = target then cell.add delta else cell

/-- What a change makes of the truth value of a name. -/
def onFlag (name : String) (cell : FlagCell) : Write → FlagCell
  | activate target => if name = target then cell.raise else cell
  | set _ _ => cell
  | add _ _ => cell

/-- A change modifies its cell where it is. -/
theorem value_apply (write : Write) (flags : Flags) :
    (write.apply flags).value.2 =
      match write with
      | activate target => { flags with flags := flags.flags.modify target FlagCell.raise }
      | set target value =>
        { flags with units := flags.units.modify target fun cell => { cell with current := value } }
      | add target delta => { flags with units := flags.units.modify target (·.add delta) } := by
  cases write with
  | activate target =>
    dsimp only [apply]
    unfold Flags.activate flag? SortedMap.modify
    cases flags.flags.get? target <;> rfl
  | set target value =>
    dsimp only [apply]
    unfold setValue unit? SortedMap.modify
    cases flags.units.get? target <;> rfl
  | add target delta =>
    dsimp only [apply]
    unfold addValue unit? SortedMap.modify
    cases flags.units.get? target <;> rfl

/-- What a change makes of a number depends on that number alone. -/
theorem unit?_apply (write : Write) (flags : Flags) (name : String) :
    (write.apply flags).value.2.unit? name =
      (flags.unit? name).map fun cell => write.onUnit name cell := by
  rw [value_apply]
  unfold unit?
  cases write with
  | activate target => exact Option.map_id'.symm
  | set target value => exact SortedMap.get?_modify flags.units target name _
  | add target delta => exact SortedMap.get?_modify flags.units target name _

/-- What a change makes of a truth value depends on that truth value alone. -/
theorem flag?_apply (write : Write) (flags : Flags) (name : String) :
    (write.apply flags).value.2.flag? name =
      (flags.flag? name).map fun cell => write.onFlag name cell := by
  rw [value_apply]
  unfold flag?
  cases write with
  | activate target => exact SortedMap.get?_modify flags.flags target name _
  | set target value => exact Option.map_id'.symm
  | add target delta => exact Option.map_id'.symm

/-- A cell that is the same is the same after a change. -/
theorem sameAt_apply (write : Write) {cell : CellRef} (same : flags.SameAt other cell) :
    (write.apply flags).value.2.SameAt (write.apply other).value.2 cell := by
  cases cell with
  | unit name =>
    have before : flags.unit? name = other.unit? name := same
    show (write.apply flags).value.2.unit? name = (write.apply other).value.2.unit? name
    rw [unit?_apply, unit?_apply, before]
  | flag name =>
    have before : flags.flag? name = other.flag? name := same
    show (write.apply flags).value.2.flag? name = (write.apply other).value.2.flag? name
    rw [flag?_apply, flag?_apply, before]

/-- A change leaves every cell alone that it is not for. -/
theorem sameAt_of_ne (write : Write) (flags : Flags) {cell : CellRef} (apart : write.cell ≠ cell) :
    flags.SameAt (write.apply flags).value.2 cell := by
  cases cell with
  | unit name =>
    show flags.unit? name = (write.apply flags).value.2.unit? name
    have still (number : UnitCell) : write.onUnit name number = number := by
      cases write with
      | activate target => rfl
      | set target value => exact if_neg fun same => apart (congrArg CellRef.unit same.symm)
      | add target delta => exact if_neg fun same => apart (congrArg CellRef.unit same.symm)
    simp [unit?_apply, still]
  | flag name =>
    show flags.flag? name = (write.apply flags).value.2.flag? name
    have still (truth : FlagCell) : write.onFlag name truth = truth := by
      cases write with
      | activate target => exact if_neg fun same => apart (congrArg CellRef.flag same.symm)
      | set target value => rfl
      | add target delta => rfl
    simp [flag?_apply, still]

end Write

end Flags

namespace Branch

variable {α : Type} [Candidate α] {flags other : Flags}

/-- The cells that the conditions of some options are on. -/
def cells (options : List α) : List CellRef :=
  options.filterMap fun option => (Candidate.condition option).map Condition.cell

/-- An option is open alike under flags that agree on the cell of its condition. -/
theorem satisfied_congr {condition : Option Condition}
    (same : ∀ asked, condition = some asked → flags.SameAt other asked.cell) :
    (satisfied flags condition).value = (satisfied other condition).value := by
  cases condition with
  | none => rfl
  | some asked =>
    unfold satisfied
    dsimp only
    rw [Flags.evaluate_congr (same asked rfl)]

/-- A branch resolves alike under flags that agree on the cells of its conditions. -/
theorem resolve_congr {options : List α} (agree : Flags.AgreeOn (cells options) flags other) :
    (resolve flags options).value = (resolve other options).value := by
  have pass : ∀ (index : Nat) (best : Option (Nat × Int32)),
      (resolveFrom flags index best options).value =
        (resolveFrom other index best options).value := by
    induction options with
    | nil => exact fun _ _ => rfl
    | cons option rest ih =>
      intro index best
      have first : (satisfied flags (Candidate.condition option)).value =
          (satisfied other (Candidate.condition option)).value := by
        apply satisfied_congr
        intro asked condition
        apply agree
        simp [cells, condition]
      have others : Flags.AgreeOn (cells rest) flags other := by
        intro cell member
        apply agree
        unfold cells at member ⊢
        rw [List.filterMap_cons]
        split
        · exact member
        · exact List.mem_cons_of_mem _ member
      unfold resolveFrom
      rw [Logged.value_bind, Logged.value_bind, first]
      dsimp only
      split
      · exact ih others _ _
      · exact ih others _ _
  exact pass 0 none

end Branch

end Narrative
