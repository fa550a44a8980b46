import Narrative.Config
import Narrative.Dialog.Graph
import Narrative.Host

/-!
# The walk through a dialog

A dialog runs from node to node until it has to wait: for a line to be revealed, for the player,
or for time to pass. The walk is a function of the graph and of what the story remembers; what it
asks of the host is part of its result.
-/

namespace Narrative.Dialog

/-- What effects change: the flags, and the state of the game that was asked for. -/
structure Memory where
  /-- The flags. -/
  flags : Flags
  /-- The state asked for last; none if none was, or if the request was taken. -/
  requested : Option StateKind
  deriving DecidableEq

/-- How a dialog is presented and followed. -/
structure Manner where
  /-- The pace of the text. -/
  pace : TextPace
  /-- The sound cues. -/
  sounds : SoundCues
  /-- The filter of the log. -/
  tracing : Tracing
  deriving DecidableEq

/-- Why a dialog cannot go on. -/
inductive Stall where
  /-- The dialog stands outside its graph. -/
  | outside
  /-- The start leads nowhere. -/
  | startUnwired
  /-- An event leads nowhere. -/
  | eventUnwired
  /-- The player has nothing to choose from. -/
  | nothingToChoose
  /-- No option of an automatic branch is open. -/
  | nothingOpen
  /-- The option of an automatic branch leads nowhere. -/
  | optionUnwired
  /-- A port that the player has to leave by leads nowhere. -/
  | portUnwired (port : String)
  /-- The walk passes more nodes than there are without having to wait. -/
  | endless
  deriving DecidableEq, Repr

/-- The wording of a reason. -/
def Stall.text : Stall → String
  | outside => "cursor points outside the graph"
  | startUnwired => "start node has no exit"
  | eventUnwired => "event node has no exit"
  | nothingToChoose => "branch has no option to show"
  | nothingOpen => "automatic branch has no satisfied option"
  | optionUnwired => "selected option has no connected exit"
  | portUnwired port => s!"port '{port}' is not connected"
  | endless => "graph cycles without reaching a line, branch or end"

/-- What a running dialog waits for. -/
inductive Wait where
  /-- A line is being revealed: the characters to come, the time saved up for them, and who
  speaks. -/
  | reveal (remaining : List Char) (budget : Duration) (speaker : Speaker)
  /-- A revealed line waits to be confirmed. -/
  | confirm
  /-- A branch waits for a choice among some options, one of which is highlighted. -/
  | choose (count selected : Nat)
  /-- An ended dialog waits to be closed. -/
  | closing (remaining : Duration)
  /-- The dialog cannot go on. -/
  | stalled (reason : Stall)
  deriving DecidableEq

/-- Where a walk came to. -/
structure Stop where
  /-- The node it stands on. -/
  node : NodeId
  /-- The character whose portrait is shown. -/
  character : Option Speaker
  /-- What it waits for; nothing once the dialog is over. -/
  wait : Option Wait
  /-- What the story remembers. -/
  memory : Memory
  /-- What the host is asked to do on the way. -/
  calls : List Call

/-- The stop of a longer walk, which asked for other calls before. -/
def Stop.after (calls : List Call) (stop : Stop) : Stop :=
  { stop with calls := calls ++ stop.calls }

/-- Report that a request for a state gives way to another. -/
def reportReplaced (target : StateKind) : Option StateKind → Logged Unit
  | none => pure ()
  | some previous =>
    Logged.note .warn .machine
      s!"state request {previous.name} replaced by {target.name} before it was handled"

/-- Apply one effect. -/
def applyEffect (tracing : Tracing) (memory : Memory) (effect : Effect) :
    Logged (Memory × List Call) := do
  tracing.note .cells .debug s!"[Effect] {effect.text}"
  match effect with
  | .activateFlag flag => do
    let (_, flags) ← memory.flags.activate flag
    pure ({ memory with flags := flags }, [])
  | .setValue cell value => do
    let (_, flags) ← memory.flags.setValue cell value
    pure ({ memory with flags := flags }, [])
  | .addValue cell delta => do
    let (_, flags) ← memory.flags.addValue cell delta
    pure ({ memory with flags := flags }, [])
  | .switchState target => do
    reportReplaced target memory.requested
    pure ({ memory with requested := some target }, [])
  | .emit event => pure (memory, [.emit event])

/-- Apply effects in order. -/
def applyEffects (tracing : Tracing) (memory : Memory) : List Effect →
    Logged (Memory × List Call)
  | [] => pure (memory, [])
  | effect :: rest => do
    let (memory, first) ← applyEffect tracing memory effect
    let (memory, others) ← applyEffects tracing memory rest
    pure (memory, first ++ others)

/-- Reveal the characters of a line that there is time for: those shown, those to come, and the
time left. -/
def reveal (interval : Duration) : List Char → Duration → List Char × List Char × Duration
  | [], budget => ([], [], budget)
  | first :: rest, budget =>
    if budget.reaches interval then
      let (shown, remaining, budget) := reveal interval rest (budget.sub interval)
      (first :: shown, remaining, budget)
    else ([], first :: rest, budget)

/-- Go on revealing a line. A speaker other than the narrator stops talking with the last
character. -/
def revealLine (manner : Manner) (remaining : List Char) (budget : Duration) (speaker : Speaker) :
    Wait × List Call :=
  let (shown, remaining, budget) := reveal manner.pace.interval remaining budget
  let calls := shown.flatMap fun character =>
    [.showText character, .playSound manner.sounds.speak]
  if remaining.isEmpty then
    (.confirm, calls ++ if speaker = .narrator then [] else [.setTalking speaker false])
  else (.reveal remaining budget speaker, calls)

/-- Bring up the portrait of the speaker of a line: the character shown from then on, and what
the host is asked to do. -/
def present (character : Option Speaker) : Speaker → Option Speaker × List Call
  | .narrator => (character, [])
  | .player => (character, [.showSpeaker .player, .setTalking .player true])
  | .character name =>
    let speaker := Speaker.character name
    let leaving :=
      if character = some speaker then []
      else (character.map Call.hideSpeaker).toList
    (some speaker, leaving ++ [.showSpeaker speaker, .setTalking speaker true])

/-- Bring up a line, without its text. -/
def openLine (character : Option Speaker) (line : Line) : Option Speaker × List Call :=
  let picture : List Call :=
    match line.illustration with
    | some illustration => [.hideIllustration, .showIllustration illustration]
    | none => []
  let (character, portrait) := present character line.speaker
  (character, picture ++ portrait ++ [.clearText, .setSpeakerName line.speaker])

/-- Stop for good. -/
def stall (dialog : DialogGraph) (node : NodeId) (character : Option Speaker) (memory : Memory)
    (calls : List Call) (reason : Stall) : Logged Stop := do
  Logged.note .error .flow s!"dialog '{dialog.name}' stalled at {node.text}: {reason.text}"
  pure ⟨node, character, some (.stalled reason), memory, calls⟩

/-- Walk from a node, passing at most some number of nodes, until the dialog has to wait. -/
def walk (manner : Manner) (dialog : DialogGraph) (bound : Nat) (node : NodeId)
    (character : Option Speaker) (memory : Memory) : Logged Stop :=
  match bound with
  | 0 => stall dialog node character memory [] .endless
  | bound + 1 =>
    match dialog.graph.kind? node with
    | none => stall dialog node character memory [] .outside
    | some kind => do
      manner.tracing.note .engine .trace
        s!"[Dialog] '{dialog.name}' at {node.text} ({NodeKind.label kind})"
      match kind with
      | .start =>
        match dialog.graph.connected? node Port.exit with
        | none => stall dialog node character memory [] .startUnwired
        | some next => walk manner dialog bound next character memory
      | .line line =>
        let (character, opening) := openLine character line
        let (wait, shown) :=
          revealLine manner line.text.toList manner.pace.interval line.speaker
        pure ⟨node, character, some wait, memory, opening ++ shown⟩
      | .branch .player options =>
        if options.isEmpty then stall dialog node character memory [] .nothingToChoose
        else
          pure ⟨node, character, some (.choose options.length 0), memory,
            [.showOptions (options.map DialogOption.text)]⟩
      | .branch .automatic options => do
        match ← Branch.resolve memory.flags options with
        | none => stall dialog node character memory [] .nothingOpen
        | some index =>
          match dialog.graph.connected? node (Port.option index) with
          | none => stall dialog node character memory [] .optionUnwired
          | some next => do
            let effects := (options[index]?).elim [] DialogOption.effects
            let (memory, calls) ← applyEffects manner.tracing memory effects
            let stop ← walk manner dialog bound next character memory
            pure (stop.after calls)
      | .event effects => do
        let (memory, calls) ← applyEffects manner.tracing memory effects
        match dialog.graph.connected? node Port.exit with
        | none => stall dialog node character memory calls .eventUnwired
        | some next => do
          let stop ← walk manner dialog bound next character memory
          pure (stop.after calls)
      | .finish =>
        if manner.pace.delay.isZero then pure ⟨node, character, none, memory, []⟩
        else pure ⟨node, character, some (.closing manner.pace.delay), memory, []⟩

/-- Walk from a node until the dialog has to wait. A walk that passes more nodes than the graph
has, without having to wait, is given up. -/
def run (manner : Manner) (dialog : DialogGraph) (node : NodeId) (character : Option Speaker)
    (memory : Memory) : Logged Stop :=
  walk manner dialog (dialog.graph.size + 1) node character memory

end Narrative.Dialog
