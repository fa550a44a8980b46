import Narrative.Dialog.Walk
import Narrative.Tick

/-!
# Conversations

A conversation plays one dialog at a time. It remembers where the dialog waits and what the music
was before, goes on with each tick, and puts the host back in order when the dialog ends, by
itself or because it is abandoned.
-/

namespace Narrative

open Dialog (Manner Memory Stop Wait)

/-- A running dialog. -/
structure Session where
  /-- The dialog. -/
  dialog : DialogGraph
  /-- The node it stands on. -/
  node : NodeId
  /-- What it waits for. -/
  wait : Wait
  /-- The character whose portrait is shown. -/
  character : Option Speaker
  /-- The music to go back to, itself none for silence; none if the dialog left it alone. -/
  restore : Option (Option String)
  deriving DecidableEq

/-- Plays one dialog at a time. -/
structure Conversation where
  /-- How dialogs are presented. -/
  manner : Manner
  /-- The running dialog. -/
  session : Option Session
  /-- The state of the game that effects asked for, until it is taken. -/
  requested : Option StateKind
  /-- Whether it was reported already that there is nothing to go on with. -/
  idleReported : Bool
  deriving DecidableEq

/-- How far a dialog has come. -/
inductive Progress where
  /-- No dialog is running. -/
  | idle
  /-- It waits for the player or for time. -/
  | suspended
  /-- It cannot go on. -/
  | stalled
  /-- It is over. -/
  | done
  deriving DecidableEq, Repr

instance : Enumerated Progress where
  all := [.idle, .suspended, .stalled, .done]
  name
    | .idle => "Idle"
    | .suspended => "Suspended"
    | .stalled => "Stalled"
    | .done => "Done"

/-- Why a dialog does not start. -/
inductive StartError where
  /-- The graph cannot be walked. -/
  | graph (error : GraphError)
  /-- Another dialog is running. -/
  | alreadyRunning (dialog : String)
  deriving DecidableEq, Repr

/-- The wording of an error. -/
def StartError.message : StartError → String
  | graph error => error.message
  | alreadyRunning dialog => s!"dialog '{dialog}' is already running"

/-- What a step of a conversation comes to. -/
structure Turn where
  /-- The conversation after it. -/
  conversation : Conversation
  /-- The flags after it. -/
  flags : Flags
  /-- What the host is asked to do. -/
  calls : List Call
  /-- How far the dialog has come. -/
  progress : Progress

/-- The turn with other calls before its own. -/
def Turn.after (calls : List Call) (turn : Turn) : Turn :=
  { turn with calls := calls ++ turn.calls }

/-- How far a dialog has come that waits. -/
def Dialog.Wait.progress : Wait → Progress
  | stalled _ => .stalled
  | _ => .suspended

namespace Conversation

/-- A conversation without a dialog. -/
def ofConfig (config : Config) : Conversation :=
  ⟨⟨config.text, config.sounds, config.tracing⟩, none, none, false⟩

/-- Whether a dialog is running. -/
def isRunning (conversation : Conversation) : Bool := conversation.session.isSome

/-- Whether the running dialog cannot go on. -/
def isStalled (conversation : Conversation) : Bool :=
  conversation.session.any fun session =>
    match session.wait with
    | .stalled _ => true
    | _ => false

/-- The name of the running dialog. -/
def dialogName? (conversation : Conversation) : Option String :=
  conversation.session.map fun session => session.dialog.name

/-- The node that the running dialog stands on. -/
def node? (conversation : Conversation) : Option NodeId := conversation.session.map Session.node

/-- The highlighted option, while the player chooses. -/
def selected? (conversation : Conversation) : Option Nat :=
  conversation.session.bind fun session =>
    match session.wait with
    | .choose _ selected => some selected
    | _ => none

/-- The state that was asked for, and the conversation without the request. -/
def takeRequested (conversation : Conversation) : Option StateKind × Conversation :=
  (conversation.requested, { conversation with requested := none })

/-- The conversation without its dialog. -/
def clear (conversation : Conversation) : Conversation :=
  { conversation with session := none, idleReported := false }

/-- The conversation as it was built: no dialog, and no request. -/
def reset (conversation : Conversation) : Conversation :=
  { conversation.clear with requested := none }

/-- What brings back the music from before the dialog. -/
def restoreCalls : Option (Option String) → List Call
  | none => []
  | some (some cue) => [.playMusic cue]
  | some none => [.stopMusic]

/-- End the running dialog. -/
def finish (conversation : Conversation) (session : Session) (flags : Flags) : Logged Turn := do
  Logged.note .info .engine s!"dialog '{session.dialog.name}' finished"
  pure ⟨conversation.clear, flags, .dialogEnd :: restoreCalls session.restore, .done⟩

/-- Take over where a walk came to. -/
def settle (conversation : Conversation) (session : Session) (stop : Stop) : Logged Turn := do
  let conversation := { conversation with requested := stop.memory.requested }
  match stop.wait with
  | none => do
    let turn ← finish conversation session stop.memory.flags
    pure (turn.after stop.calls)
  | some wait =>
    let session :=
      { session with node := stop.node, character := stop.character, wait := wait }
    pure ⟨{ conversation with session := some session }, stop.memory.flags, stop.calls,
      wait.progress⟩

/-- What the effects of the running dialog change. -/
def memory (conversation : Conversation) (flags : Flags) : Memory := ⟨flags, conversation.requested⟩

/-- Go on at another node. -/
def goTo (conversation : Conversation) (session : Session) (node : NodeId) (memory : Memory) :
    Logged Turn := do
  let stop ← Dialog.run conversation.manner session.dialog node session.character memory
  settle conversation session stop

/-- Stay at the node for good. -/
def stall (conversation : Conversation) (session : Session) (flags : Flags)
    (reason : Dialog.Stall) : Logged Turn := do
  let stop ← Dialog.stall session.dialog session.node session.character
    (conversation.memory flags) [] reason
  settle conversation session stop

/-- Keep waiting. -/
def keep (conversation : Conversation) (session : Session) (wait : Wait) (flags : Flags)
    (calls : List Call) : Turn :=
  ⟨{ conversation with session := some { session with wait := wait } }, flags, calls,
    wait.progress⟩

/-- What opens a dialog: its music, and the portraits of the player and of the first character
that speaks. -/
def openingCalls (dialog : DialogGraph) : List Call :=
  (dialog.music.map Call.playMusic).toList
    ++ [.showSpeaker .player, .setTalking .player false]
    ++ match dialog.firstCharacter? with
      | some speaker => [.showSpeaker speaker, .setTalking speaker false]
      | none => []

/-- Start a dialog while some music plays. Only one dialog runs at a time. -/
def start (conversation : Conversation) (dialog : DialogGraph) (music : Option String)
    (flags : Flags) : Except StartError (Logged Turn) :=
  match conversation.session with
  | some running => .error (.alreadyRunning running.dialog.name)
  | none =>
    match dialog.graph.start with
    | .error error => .error (.graph error)
    | .ok node => .ok do
      Logged.note .info .engine s!"starting dialog '{dialog.name}'"
      let restore := dialog.music.map fun _ => music
      let session : Session := ⟨dialog, node, .confirm, dialog.firstCharacter?, restore⟩
      let turn ← goTo { conversation with idleReported := false } session node
        (conversation.memory flags)
      pure (turn.after (openingCalls dialog))

/-- Choose an option of the branch that the dialog stands on. -/
def choose (conversation : Conversation) (session : Session) (index : Nat) (flags : Flags) :
    Logged Turn :=
  match session.dialog.graph.connected? session.node (Port.option index) with
  | none => stall conversation session flags (.portUnwired (Port.option index))
  | some next => do
    let effects :=
      match session.dialog.graph.kind? session.node with
      | some (.branch _ options) => (options[index]?).elim [] DialogOption.effects
      | _ => []
    conversation.manner.tracing.note .flow .debug
      s!"[Branch] option {index} selected in '{session.dialog.name}'"
    let (memory, calls) ←
      Dialog.applyEffects conversation.manner.tracing (conversation.memory flags) effects
    let turn ← goTo conversation session next memory
    pure (turn.after calls)

/-- The option highlighted after a press, and what the host is asked to do. -/
def moveHighlight (sounds : SoundCues) (input : Input) (count selected : Nat) :
    Nat × List Call :=
  if input.up then (selected - 1, [.playSound sounds.cursor, .highlight (selected - 1)])
  else if input.down then
    let below := min (selected + 1) (count - 1)
    (below, [.playSound sounds.cursor, .highlight below])
  else (selected, [])

/-- Go on with a running dialog for one tick, while an illustration may be moving. -/
def resumeSession (conversation : Conversation) (session : Session) (tick : Tick)
    (animating : Bool) (flags : Flags) : Logged Turn :=
  let sounds := conversation.manner.sounds
  let confirmed := tick.input.confirm && !animating
  match session.wait with
  | .reveal remaining budget speaker =>
    let (wait, calls) :=
      Dialog.revealLine conversation.manner remaining (budget.add tick.elapsed) speaker
    pure (keep conversation session wait flags calls)
  | .confirm =>
    if confirmed then do
      let turn ←
        match session.dialog.graph.connected? session.node Port.exit with
        | none => stall conversation session flags (.portUnwired Port.exit)
        | some next => goTo conversation session next (conversation.memory flags)
      pure (turn.after [.playSound sounds.decide])
    else pure (keep conversation session .confirm flags [])
  | .choose count selected =>
    let (selected, moves) := moveHighlight sounds tick.input count selected
    if confirmed then do
      let turn ← choose conversation session selected flags
      pure (turn.after (moves ++ [.playSound sounds.decide, .hideOptions]))
    else pure (keep conversation session (.choose count selected) flags moves)
  | .closing remaining =>
    let remaining := remaining.sub tick.elapsed
    if remaining.isZero then finish conversation session flags
    else pure (keep conversation session (.closing remaining) flags [])
  | .stalled reason => pure (keep conversation session (.stalled reason) flags [])

/-- Go on for one tick. That there is no dialog is reported once. -/
def resume (conversation : Conversation) (tick : Tick) (animating : Bool) (flags : Flags) :
    Logged Turn :=
  match conversation.session with
  | some session => resumeSession conversation session tick animating flags
  | none => do
    if !conversation.idleReported then
      Logged.note .warn .engine "resume called with no dialog loaded"
    pure ⟨{ conversation with idleReported := true }, flags, [], .idle⟩

/-- Break off the running dialog, if there is one, and put the host back in order. -/
def abandon (conversation : Conversation) : Logged (Conversation × List Call) :=
  match conversation.session with
  | none => pure (conversation, [])
  | some session => do
    Logged.note .info .engine s!"abandoning dialog '{session.dialog.name}'"
    let options : List Call :=
      match session.wait with
      | .choose .. => [.hideOptions]
      | _ => []
    pure (conversation.clear, options ++ .dialogEnd :: restoreCalls session.restore)

end Conversation

end Narrative
