import Narrative.Bundle

/-!
# Issues

An issue is a fault that was found somewhere in a bundle. The fault says what is wrong; how grave
it is, which area it belongs to, and its wording follow from it.
-/

namespace Narrative.Lint

/-- How grave an issue is. -/
inductive Severity where
  /-- It must be mended. -/
  | error
  /-- It should be looked at. -/
  | warning
  /-- It may be intended. -/
  | info
  deriving DecidableEq, Inhabited, Repr

namespace Severity

instance : Enumerated Severity where
  all := [error, warning, info]
  name
    | error => "Error"
    | warning => "Warning"
    | info => "Info"

/-- The word that heads an issue. -/
def label : Severity → String
  | error => "error"
  | warning => "warning"
  | info => "info"

end Severity

/-- The areas in which faults are looked for. -/
inductive Area where
  /-- Start nodes and the wiring of ports. -/
  | wiring
  /-- The names of cells and graphs. -/
  | references
  /-- How walks come through the graphs. -/
  | flow
  /-- The texts. -/
  | quality
  deriving DecidableEq, Inhabited, Repr

namespace Area

instance : Enumerated Area where
  all := [wiring, references, flow, quality]
  name
    | wiring => "structure"
    | references => "references"
    | flow => "flow"
    | quality => "quality"

end Area

/-- A part of a bundle. -/
inductive Place where
  /-- The scenario, by its own name. -/
  | scenario (name : String)
  /-- A dialog, by the name it is stored under. -/
  | dialog (name : String)
  /-- An offer graph, by the name it is stored under. -/
  | offers (name : String)
  /-- The selection of a character. -/
  | character (name : String)
  /-- The declared cells. -/
  | flags
  deriving DecidableEq, Repr

/-- How a place is shown. -/
def Place.text : Place → String
  | scenario name => s!"scenario:{name}"
  | dialog name => s!"dialog:{name}"
  | offers name => s!"dialog-state:{name}"
  | character name => s!"character:{name}"
  | flags => "flags"

/-- What can be wrong with a bundle. -/
inductive Fault where
  /-- No node starts the graph. -/
  | startMissing
  /-- The walk starts elsewhere. -/
  | startRepeated (first : NodeId)
  /-- A dialog has another name than the one it is stored under. -/
  | misnamed (key name : String)
  /-- A port points past the last node. -/
  | portDangling (port : String) (target : NodeId)
  /-- A port that a walk follows points nowhere. -/
  | portUnwired (severity : Severity) (port label : String)
  /-- The cell of a condition is not declared. -/
  | conditionUndeclared (cell : String)
  /-- A flag to raise is not declared. -/
  | flagUndeclared (flag : String)
  /-- A number to change is not declared. -/
  | unitUndeclared (unit : String)
  /-- There is no dialog of a name. -/
  | dialogUnknown (dialog : String)
  /-- There is no offer graph of a name. -/
  | offersUnknown (graph : String)
  /-- Nothing uses a declared number. -/
  | unitUnused (unit : String)
  /-- Nothing uses a declared flag. -/
  | flagUnused (flag : String)
  /-- No walk comes to the node. -/
  | unreachable
  /-- Every option of the branch has a condition, which may not hold. -/
  | fallbackMissing
  /-- The player has nothing to choose from. -/
  | choiceEmpty
  /-- The condition of an option does not keep the player from choosing it. -/
  | conditionIgnored (index : Nat)
  /-- Every offer graph of a character has a condition, which may not hold. -/
  | characterSilent
  /-- A line is longer than it should be. -/
  | lineLong (length longest : Nat)
  /-- A line shows nothing. -/
  | lineBlank
  /-- A branch has no options. -/
  | branchEmpty
  /-- An option shows nothing. -/
  | optionBlank (index : Nat)
  deriving DecidableEq, Repr

namespace Fault

/-- The area a fault belongs to. -/
def area : Fault → Area
  | startMissing => .wiring
  | startRepeated _ => .wiring
  | misnamed .. => .wiring
  | portDangling .. => .wiring
  | portUnwired .. => .wiring
  | conditionUndeclared _ => .references
  | flagUndeclared _ => .references
  | unitUndeclared _ => .references
  | dialogUnknown _ => .references
  | offersUnknown _ => .references
  | unitUnused _ => .references
  | flagUnused _ => .references
  | unreachable => .flow
  | fallbackMissing => .flow
  | choiceEmpty => .flow
  | conditionIgnored _ => .flow
  | characterSilent => .flow
  | lineLong .. => .quality
  | lineBlank => .quality
  | branchEmpty => .quality
  | optionBlank _ => .quality

/-- How grave a fault is: an error can stop a walk, and what is only noted may be intended. -/
def severity : Fault → Severity
  | startMissing => .error
  | startRepeated _ => .warning
  | misnamed .. => .warning
  | portDangling .. => .error
  | portUnwired severity .. => severity
  | conditionUndeclared _ => .warning
  | flagUndeclared _ => .warning
  | unitUndeclared _ => .warning
  | dialogUnknown _ => .error
  | offersUnknown _ => .error
  | unitUnused _ => .info
  | flagUnused _ => .info
  | unreachable => .warning
  | fallbackMissing => .warning
  | choiceEmpty => .warning
  | conditionIgnored _ => .info
  | characterSilent => .warning
  | lineLong .. => .warning
  | lineBlank => .info
  | branchEmpty => .error
  | optionBlank _ => .warning

/-- The wording of a fault. -/
def message : Fault → String
  | startMissing => "graph has no Start node"
  | startRepeated first => s!"extra Start node; only {first.text} is used"
  | misnamed key name => s!"graph is stored under '{key}' but named '{name}'"
  | portDangling port target => s!"port '{port}' points at missing node {target.text}"
  | portUnwired _ port label => s!"port '{port}' of {label} node is not connected"
  | conditionUndeclared cell => s!"condition reads undeclared state '{cell}'; it will never hold"
  | flagUndeclared flag => s!"undeclared scenario flag '{flag}'"
  | unitUndeclared unit => s!"undeclared unit state '{unit}'"
  | dialogUnknown dialog => s!"unknown dialog graph '{dialog}'"
  | offersUnknown graph => s!"unknown dialog-state graph '{graph}'"
  | unitUnused unit => s!"unit state '{unit}' is never used"
  | flagUnused flag => s!"scenario flag '{flag}' is never used"
  | unreachable => "node is unreachable from Start"
  | fallbackMissing => "branch has no unconditional option and can fail to resolve"
  | choiceEmpty => "player branch has no options; the dialog stalls here"
  | conditionIgnored index => s!"option {index} has a condition; player branches show every option"
  | characterSilent =>
    "no unconditional dialog-state graph; the character can have nothing to say"
  | lineLong length longest => s!"line is {length} characters long (max {longest})"
  | lineBlank => "line has no text"
  | branchEmpty => "branch has no options"
  | optionBlank index => s!"option {index} has no text"

end Fault

/-- A fault where it was found. -/
structure Issue where
  /-- The part of the bundle. -/
  place : Place
  /-- The node, if the fault is that of one node. -/
  node : Option NodeId
  /-- What is wrong. -/
  fault : Fault
  deriving DecidableEq, Repr

namespace Issue

/-- How grave the issue is. -/
def severity (issue : Issue) : Severity := issue.fault.severity

/-- The area of the issue. -/
def area (issue : Issue) : Area := issue.fault.area

/-- How an issue is shown. -/
def text (issue : Issue) : String :=
  let origin :=
    match issue.node with
    | some node => s!"{issue.place.text} {node.text}"
    | none => issue.place.text
  s!"{issue.severity.label} [{Enumerated.name issue.area}] {origin}: {issue.fault.message}"

/-- The stored form. -/
def document (issue : Issue) : Json :=
  .object
    [("level", .text (Enumerated.name issue.severity)), ("message", .text issue.fault.message),
      ("graph", .text issue.place.text), ("node", .ofOption .ofNat issue.node),
      ("category", .text (Enumerated.name issue.area))]

end Issue

/-- The faults found at the nodes of a graph, in the order of the nodes. -/
def atNodes {κ : Type} (place : Place) (graph : Graph κ) (find : Node κ → List Fault) :
    List Issue :=
  graph.nodes.zipIdx.flatMap fun (node, id) =>
    (find node).map fun fault => ⟨place, some id, fault⟩

end Narrative.Lint
