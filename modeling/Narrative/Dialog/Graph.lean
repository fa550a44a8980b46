import Narrative.Branch
import Narrative.Graph
import Narrative.Kind
import Narrative.Text.Quoted

/-!
# Dialog graphs

A dialog is a graph of lines to show, branches that the player or the conditions decide, and
events that change what the story remembers. It ends at an End node.
-/

namespace Narrative

/-- Who speaks a line. -/
inductive Speaker where
  /-- Nobody in the scene. -/
  | narrator
  /-- The player. -/
  | player
  /-- Another character. -/
  | character (name : String)
  deriving DecidableEq, Inhabited, Repr

namespace Speaker

/-- The name to show. -/
def name : Speaker → String
  | narrator => "Narrator"
  | player => "Player"
  | character name => name

instance : ToString Speaker := ⟨name⟩

/-- Whether the speaker is a character other than the player. -/
def isCharacter : Speaker → Bool
  | character _ => true
  | _ => false

/-- The stored form. -/
def format : Format Speaker :=
  Format.named
    [.plain "Narrator" narrator (· == narrator), .plain "Player" player (· == player),
      .holding "Character" Format.text character fun
        | character name => some name
        | _ => none]

end Speaker

/-- What an event or the choice of an option does. -/
inductive Effect where
  /-- Raise a flag. -/
  | activateFlag (flag : String)
  /-- Set a number. -/
  | setValue (cell : String) (value : Int64)
  /-- Add to a number. -/
  | addValue (cell : String) (delta : Int64)
  /-- Ask for another state of the game. -/
  | switchState (target : StateKind)
  /-- Tell the host of an event. -/
  | emit (event : String)
  deriving DecidableEq, Repr

namespace Effect

/-- How an effect is shown in the log. -/
def text : Effect → String
  | activateFlag flag => Text.structured "ActivateFlag" [("flag", Text.quoted flag)]
  | setValue cell value =>
    Text.structured "SetValue" [("state", Text.quoted cell), ("value", toString value.toInt)]
  | addValue cell delta =>
    Text.structured "AddValue" [("state", Text.quoted cell), ("delta", toString delta.toInt)]
  | switchState target => Text.structured "SwitchGameState" [("state", target.name)]
  | emit event => Text.structured "Emit" [("event", Text.quoted event)]

/-- The stored form. -/
def format : Format Effect :=
  Format.tagged "effect"
    [.record "ActivateFlag" (.field (.required "flag" Format.text) .done)
        (fun (flag, ()) => activateFlag flag) fun
        | activateFlag flag => some (flag, ())
        | _ => none,
      .record "SetValue"
        (.field (.required "state" Format.text) <|
          .field (.required "value" Format.integer64) .done)
        (fun (cell, value, ()) => setValue cell value) fun
        | setValue cell value => some (cell, value, ())
        | _ => none,
      .record "AddValue"
        (.field (.required "state" Format.text) <|
          .field (.required "delta" Format.integer64) .done)
        (fun (cell, delta, ()) => addValue cell delta) fun
        | addValue cell delta => some (cell, delta, ())
        | _ => none,
      .record "SwitchGameState" (.field (.required "state" Format.stateKind) .done)
        (fun (target, ()) => switchState target) fun
        | switchState target => some (target, ())
        | _ => none,
      .record "Emit" (.field (.required "event" Format.text) .done)
        (fun (event, ()) => emit event) fun
        | emit event => some (event, ())
        | _ => none]

end Effect

/-- An option of a branch in a scenario or offer graph. -/
structure BranchOption where
  /-- When the option is open. -/
  condition : Option Condition
  /-- Its rank among open options. -/
  priority : Int32
  deriving DecidableEq, Repr

namespace BranchOption

instance : Candidate BranchOption := ⟨condition, priority⟩

/-- The stored form. -/
def format : Format BranchOption :=
  Format.record
    (.field (.optional "condition" Condition.format) <|
      .field (.withDefault "priority" Format.integer32 0) .done)
    (fun (condition, priority, ()) => ⟨condition, priority⟩)
    fun option => (option.condition, option.priority, ())

end BranchOption

/-- A line to show. -/
structure Line where
  /-- Who speaks it. -/
  speaker : Speaker
  /-- What is said. -/
  text : String
  /-- The picture shown with it. -/
  illustration : Option String
  deriving DecidableEq, Repr

/-- The fields of a stored line. -/
def Line.layout : Layout [Speaker, String, Option String] :=
  .field (.withDefault "speaker" Speaker.format .narrator) <|
    .field (.required "text" Format.text) <|
    .field (.optional "illustration" Format.text) .done

/-- An option of a branch in a dialog. -/
structure DialogOption where
  /-- What the player reads. -/
  text : String
  /-- When the option is open. -/
  condition : Option Condition
  /-- Its rank among open options. -/
  priority : Int32
  /-- What its choice does. -/
  effects : List Effect
  deriving DecidableEq, Repr

namespace DialogOption

instance : Candidate DialogOption := ⟨condition, priority⟩

/-- The stored form. -/
def format : Format DialogOption :=
  Format.record
    (.field (.required "text" Format.text) <|
      .field (.optional "condition" Condition.format) <|
      .field (.withDefault "priority" Format.integer32 0) <|
      .field (.withDefault "effects" (Format.list Effect.format) []) .done)
    (fun (text, condition, priority, effects, ()) => ⟨text, condition, priority, effects⟩)
    fun option => (option.text, option.condition, option.priority, option.effects, ())

end DialogOption

/-- Who decides a branch of a dialog. -/
inductive Decider where
  /-- The player chooses. -/
  | player
  /-- The conditions decide. -/
  | automatic
  deriving DecidableEq, Inhabited, Repr

instance : Enumerated Decider where
  all := [.player, .automatic]
  name
    | .player => "Player"
    | .automatic => "Automatic"

/-- A node of a dialog. -/
inductive DialogNode where
  /-- Where the dialog starts. -/
  | start
  /-- A line to show. -/
  | line (line : Line)
  /-- A branch, each option with a port of its own. -/
  | branch (decider : Decider) (options : List DialogOption)
  /-- Effects without a line. -/
  | event (effects : List Effect)
  /-- Where the dialog ends. -/
  | finish
  deriving DecidableEq

namespace DialogNode

instance : NodeKind DialogNode where
  isStart
    | start => true
    | _ => false
  label
    | start => "Start"
    | line _ => "Line"
    | branch .. => "Branch"
    | event _ => "Event"
    | finish => "End"

/-- The stored form. -/
def format : Format DialogNode :=
  Format.tagged "type"
    [.plain "Start" start (· == start),
      .record "Line" Line.layout
        (fun (speaker, text, illustration, ()) => line ⟨speaker, text, illustration⟩) fun
        | line ⟨speaker, text, illustration⟩ => some (speaker, text, illustration, ())
        | _ => none,
      .record "Branch"
        (.field (.withDefault "select" Format.enumeration .player) <|
          .field (.required "options" (Format.list DialogOption.format)) .done)
        (fun (decider, options, ()) => branch decider options) fun
        | branch decider options => some (decider, options, ())
        | _ => none,
      .record "Event" (.field (.withDefault "effects" (Format.list Effect.format) []) .done)
        (fun (effects, ()) => event effects) fun
        | event effects => some (effects, ())
        | _ => none,
      .plain "End" finish (· == finish)]

end DialogNode

/-- A dialog with the music it is played to. -/
structure DialogGraph where
  /-- The nodes of the dialog. -/
  graph : Graph DialogNode
  /-- The music cue; none leaves the music as it is. -/
  music : Option String
  deriving DecidableEq

namespace DialogGraph

/-- A dialog without nodes. -/
def empty (name : String) : DialogGraph := ⟨.empty name, none⟩

/-- The name of the dialog. -/
def name (dialog : DialogGraph) : String := dialog.graph.name

/-- The first character that speaks a line, in the order of the nodes. -/
def firstCharacter? (dialog : DialogGraph) : Option Speaker :=
  dialog.graph.nodes.findSome? fun node =>
    match node.kind with
    | .line line => if line.speaker.isCharacter then some line.speaker else none
    | _ => none

/-- The stored form: the fields of the graph and the music in one object. -/
def format : Format DialogGraph :=
  Format.extended (Graph.layout DialogNode.format)
    (.field (.optional "music" Format.text) .done)
    (fun (name, nodes, ()) (music, ()) => ⟨⟨name, nodes⟩, music⟩)
    fun dialog => ((dialog.graph.name, dialog.graph.nodes, ()), (dialog.music, ()))

end DialogGraph

end Narrative
