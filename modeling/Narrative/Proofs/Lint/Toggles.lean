import Narrative.Lint

/-!
# Checks that can be switched off

The lint is made up of checks. Each belongs to an area, which can be switched off as a whole, and
most have a switch of their own. A switch does no more than to leave out what its check finds: the
report under some settings is the report of all checks, less the issues of those that are off. So no
check depends on another one being on, and the order of what is found is always the same.
-/

namespace Narrative

namespace Lint

/-- The checks that the lint is made up of. -/
inductive Check where
  /-- Start nodes, names of dialogs, and ports that point past the last node. -/
  | layout
  /-- Ports that a walk follows. -/
  | ports
  /-- Cells that are referred to. -/
  | cells
  /-- Dialogs and offer graphs that are referred to. -/
  | graphs
  /-- Cells that nothing refers to. -/
  | unused
  /-- Nodes that no walk comes to. -/
  | reachability
  /-- Branches and selections that need not have an open option. -/
  | fallback
  /-- Texts and empty branches. -/
  | texts
  deriving DecidableEq, Repr

/-- The area that a check belongs to. -/
def Check.area : Check → Area
  | layout => .wiring
  | ports => .wiring
  | cells => .references
  | graphs => .references
  | unused => .references
  | reachability => .flow
  | fallback => .flow
  | texts => .quality

/-- The check that finds a fault. -/
def Fault.check : Fault → Check
  | startMissing => .layout
  | startRepeated _ => .layout
  | misnamed .. => .layout
  | portDangling .. => .layout
  | portUnwired .. => .ports
  | conditionUndeclared _ => .cells
  | flagUndeclared _ => .cells
  | unitUndeclared _ => .cells
  | dialogUnknown _ => .graphs
  | offersUnknown _ => .graphs
  | unitUnused _ => .unused
  | flagUnused _ => .unused
  | unreachable => .reachability
  | fallbackMissing => .fallback
  | choiceEmpty => .fallback
  | conditionIgnored _ => .fallback
  | characterSilent => .fallback
  | lineLong .. => .texts
  | lineBlank => .texts
  | branchEmpty => .texts
  | optionBlank _ => .texts

namespace Settings

/-- Whether an area is looked at. -/
def enables (settings : Settings) : Area → Bool
  | .wiring => settings.wiring.enabled
  | .references => settings.references.enabled
  | .flow => settings.flow.enabled
  | .quality => settings.quality.enabled

/-- Whether the own switch of a check is on, if it has one. -/
def selects (settings : Settings) : Check → Bool
  | .layout => true
  | .ports => settings.wiring.unconnectedPorts
  | .cells => settings.references.states
  | .graphs => settings.references.graphs
  | .unused => settings.references.unused
  | .reachability => settings.flow.reachability
  | .fallback => settings.flow.fallback
  | .texts => true

/-- Whether a check is made: its area is looked at, and its own switch is on. -/
def runs (settings : Settings) (check : Check) : Bool :=
  settings.enables check.area && settings.selects check

/-- Whether an issue is one of a check that is made. -/
def admits (settings : Settings) (issue : Issue) : Bool := settings.runs issue.fault.check

end Settings

/-- Issues that one check has found. -/
def Check.Finds (check : Check) (issues : List Issue) : Prop :=
  ∀ issue ∈ issues, issue.fault.check = check

namespace Check.Finds

variable {check : Check} {first second : List Issue}

/-- Nothing is found. -/
theorem nil (check : Check) : check.Finds [] := fun _ member => absurd member List.not_mem_nil

/-- Issues in a row. -/
theorem append (left : check.Finds first) (right : check.Finds second) :
    check.Finds (first ++ second) := fun issue member =>
  (List.mem_append.1 member).elim (left issue) (right issue)

/-- One issue for each of some things. -/
theorem map {α : Type} (things : List α) {issue : α → Issue}
    (each : ∀ thing, (issue thing).fault.check = check) : check.Finds (things.map issue) := by
  intro found member
  obtain ⟨thing, -, rfl⟩ := List.mem_map.1 member
  exact each thing

/-- The issues of each of some things. -/
theorem flatMap {α : Type} (things : List α) {issues : α → List Issue}
    (each : ∀ thing, check.Finds (issues thing)) : check.Finds (things.flatMap issues) := by
  intro issue member
  obtain ⟨thing, -, found⟩ := List.mem_flatMap.1 member
  exact each thing issue found

/-- The issues of something that need not be there. -/
theorem elim {α : Type} (thing : Option α) {issues : α → List Issue}
    (each : ∀ thing, check.Finds (issues thing)) : check.Finds (thing.elim [] issues) := by
  cases thing with
  | none => exact nil check
  | some thing => exact each thing

/-- The issues at the nodes of a graph. -/
theorem atNodes {κ : Type} (place : Place) (graph : Graph κ) {find : Node κ → List Fault}
    (each : ∀ node, ∀ fault ∈ find node, fault.check = check) :
    check.Finds (atNodes place graph find) := by
  refine flatMap _ fun (node, id) issue member => ?_
  obtain ⟨fault, found, rfl⟩ := List.mem_map.1 member
  exact each node fault found

end Check.Finds

variable (settings : Settings) (bundle : Bundle)

/-- Every issue is counted once. -/
theorem Report.counts (report : Report) :
    report.count .error + report.count .warning + report.count .info = report.issues.length := by
  obtain ⟨issues⟩ := report
  unfold count
  induction issues with
  | nil => rfl
  | cons issue rest ih =>
    dsimp only at ih ⊢
    rw [List.countP_cons, List.countP_cons, List.countP_cons, List.length_cons, ← ih]
    cases issue.severity <;> simp <;> omega

end Lint

end Narrative
