import Narrative.Conversation

/-!
# Interpreters of dialogs

An interpreter plays one dialog at a time. The dialog, the place in its graph and what is to be done
next are kept in registers of their own, and their types do not tie them together: there may be a
dialog without a place, a place without a dialog, or a step left over from another node. Each step
looks into the registers that it needs, and goes idle or stalls where it misses one.

A conversation keeps the same registers in one session, all of them or none.
-/

namespace Narrative

/-- Why an interpreter cannot go on. -/
inductive Interpreter.Stall where
  /-- There is no place in the graph. -/
  | lost
  /-- The dialog cannot go on from its place. -/
  | dialog (reason : Dialog.Stall)
  deriving DecidableEq, Repr

/-- The wording of a reason. -/
def Interpreter.Stall.text : Stall → String
  | lost => "cursor lost its node"
  | dialog reason => reason.text

/-- What an interpreter does next. -/
inductive Interpreter.Step where
  /-- Nothing. -/
  | idle
  /-- Enter the node at the place. -/
  | enter
  /-- Reveal a line: its characters, how many of them are shown, the time saved up, and who
  speaks. -/
  | reveal (characters : List Char) (next : Nat) (budget : Duration) (speaker : Speaker)
  /-- Wait for a line to be confirmed. -/
  | confirm
  /-- Wait for a choice among some options, one of which is highlighted. -/
  | choose (count selected : Nat)
  /-- Wait until an ended dialog is closed. -/
  | closing (remaining : Duration)
  /-- Nothing, for a reason that was reported. -/
  | stalled (reason : Stall)
  deriving DecidableEq

/-- Plays one dialog at a time. -/
structure Interpreter where
  /-- How dialogs are presented. -/
  manner : Dialog.Manner
  /-- The dialog. -/
  dialog : Option DialogGraph
  /-- The place in its graph. -/
  cursor : Cursor
  /-- What is to be done next. -/
  step : Interpreter.Step
  /-- The character whose portrait is shown. -/
  character : Option Speaker
  /-- The music that played when the dialog was started; none for silence. -/
  previous : Option String
  /-- Whether the dialog set its own music. -/
  overridden : Bool
  /-- The state of the game that effects asked for, until it is taken. -/
  requested : Option StateKind
  /-- Whether it was reported already that there is nothing to go on with. -/
  idleReported : Bool
  deriving DecidableEq

namespace Interpreter

open Conversation (moveHighlight openingCalls)

/-- What a step of an interpreter comes to. -/
structure Turn where
  /-- The interpreter after it. -/
  interpreter : Interpreter
  /-- The flags after it. -/
  flags : Flags
  /-- What the host is asked to do. -/
  calls : List Call
  /-- How far the dialog has come. -/
  progress : Progress

/-- The turn with other calls before its own. -/
def Turn.after (calls : List Call) (turn : Turn) : Turn :=
  { turn with calls := calls ++ turn.calls }

/-- An interpreter without a dialog. -/
def ofConfig (config : Config) : Interpreter :=
  ⟨⟨config.text, config.sounds, config.tracing⟩, none, .unstarted, .idle, none, none, false, none,
    false⟩

/-- The interpreter with all registers of its dialog cleared. -/
def clear (interpreter : Interpreter) : Interpreter :=
  { interpreter with
    dialog := none
    cursor := .unstarted
    step := .idle
    character := none
    previous := none
    overridden := false
    idleReported := false }

/-- The interpreter as it was built: no dialog, and no request. -/
def reset (interpreter : Interpreter) : Interpreter :=
  { interpreter.clear with requested := none }

/-- Whether there is a dialog. -/
def isRunning (interpreter : Interpreter) : Bool := interpreter.dialog.isSome

/-- Whether the dialog cannot go on. -/
def isStalled (interpreter : Interpreter) : Bool :=
  match interpreter.step with
  | .stalled _ => true
  | _ => false

/-- The name of the dialog. -/
def dialogName? (interpreter : Interpreter) : Option String :=
  interpreter.dialog.map DialogGraph.name

/-- The node at the place. -/
def node? (interpreter : Interpreter) : Option NodeId := interpreter.cursor.current

/-- The highlighted option, while the player chooses. -/
def selected? (interpreter : Interpreter) : Option Nat :=
  match interpreter.step with
  | .choose _ selected => some selected
  | _ => none

/-- The state that was asked for, and the interpreter without the request. -/
def takeRequested (interpreter : Interpreter) : Option StateKind × Interpreter :=
  (interpreter.requested, { interpreter with requested := none })

/-- What brings back the music from before the dialog. -/
def restoreCalls (interpreter : Interpreter) : List Call :=
  if interpreter.overridden then [interpreter.previous.elim Call.stopMusic Call.playMusic] else []

/-- Stay for good. -/
def stall (interpreter : Interpreter) (flags : Flags) (reason : Stall) : Logged Turn := do
  let name := (interpreter.dialog.map DialogGraph.name).getD "<none>"
  let place := (interpreter.cursor.current.map NodeId.text).getD "-"
  Logged.note .error .flow s!"dialog '{name}' stalled at {place}: {reason.text}"
  pure ⟨{ interpreter with step := .stalled reason }, flags, [], .stalled⟩

/-- End the dialog. -/
def finish (interpreter : Interpreter) (flags : Flags) : Logged Turn := do
  match interpreter.dialog with
  | some dialog => Logged.note .info .engine s!"dialog '{dialog.name}' finished"
  | none => pure ()
  pure ⟨interpreter.clear, flags, .dialogEnd :: interpreter.restoreCalls, .done⟩

/-- The interpreter at the node where a port leads; none if the port leads nowhere. -/
def advance? (interpreter : Interpreter) (port : String) : Option Interpreter :=
  interpreter.dialog.bind fun dialog =>
    (interpreter.cursor.next? dialog.graph port).map fun next =>
      { interpreter with cursor := ⟨some next⟩ }

/-- Apply effects in order. -/
def applyEffects (interpreter : Interpreter) (flags : Flags) (effects : List Effect) :
    Logged (Interpreter × Flags × List Call) := do
  let (memory, calls) ←
    Dialog.applyEffects interpreter.manner.tracing ⟨flags, interpreter.requested⟩ effects
  pure ({ interpreter with requested := memory.requested }, memory.flags, calls)

/-- Show the characters of a line from some position on that there is time for: those shown, the
position after them, and the time left. -/
def revealFrom (interval : Duration) (characters : List Char) (next : Nat) (budget : Duration) :
    List Char × Nat × Duration :=
  if budget.reaches interval then
    if inside : next < characters.length then
      let (shown, after, left) :=
        revealFrom interval characters (next + 1) (budget.sub interval)
      (characters[next] :: shown, after, left)
    else ([], next, budget)
  else ([], next, budget)
termination_by characters.length - next

/-- Go on revealing a line, if that is what is to be done. -/
def reveal (interpreter : Interpreter) (flags : Flags) : Turn :=
  match interpreter.step with
  | .reveal characters next budget speaker =>
    let (shown, next, budget) :=
      revealFrom interpreter.manner.pace.interval characters next budget
    let calls := shown.flatMap fun character =>
      [.showText character, .playSound interpreter.manner.sounds.speak]
    if next < characters.length then
      ⟨{ interpreter with step := .reveal characters next budget speaker }, flags, calls,
        .suspended⟩
    else
      ⟨{ interpreter with step := .confirm }, flags,
        calls ++ if speaker = .narrator then [] else [.setTalking speaker false], .suspended⟩
  | _ => ⟨interpreter, flags, [], .suspended⟩

/-- Bring up a line, and be about to reveal it. -/
def enterLine (interpreter : Interpreter) (line : Line) : Interpreter × List Call :=
  let (character, calls) := Dialog.openLine interpreter.character line
  ({ interpreter with
      character := character
      step := .reveal line.text.toList 0 interpreter.manner.pace.interval line.speaker }, calls)

/-- Enter nodes of a dialog, at most some number of them, until there is something to wait for. -/
def walk (dialog : DialogGraph) (bound : Nat) (interpreter : Interpreter) (flags : Flags) :
    Logged Turn :=
  match bound with
  | 0 => interpreter.stall flags (.dialog .endless)
  | bound + 1 =>
    match interpreter.cursor.current with
    | none => interpreter.stall flags .lost
    | some node =>
      match dialog.graph.kind? node with
      | none => interpreter.stall flags (.dialog .outside)
      | some kind => do
        interpreter.manner.tracing.note .engine .trace
          s!"[Dialog] '{dialog.name}' at {node.text} ({NodeKind.label kind})"
        match kind with
        | .start =>
          match interpreter.advance? Port.exit with
          | none => interpreter.stall flags (.dialog .startUnwired)
          | some interpreter => walk dialog bound interpreter flags
        | .line line =>
          let (interpreter, calls) := interpreter.enterLine line
          pure ((interpreter.reveal flags).after calls)
        | .branch .player options =>
          if options.isEmpty then interpreter.stall flags (.dialog .nothingToChoose)
          else
            pure ⟨{ interpreter with step := .choose options.length 0 }, flags,
              [.showOptions (options.map DialogOption.text)], .suspended⟩
        | .branch .automatic options => do
          match ← Branch.resolve flags options with
          | none => interpreter.stall flags (.dialog .nothingOpen)
          | some index =>
            let port := Port.option index
            match dialog.graph.connected? node port with
            | none => interpreter.stall flags (.dialog .optionUnwired)
            | some _ => do
              let effects := (options[index]?).elim [] DialogOption.effects
              let (interpreter, flags, calls) ← interpreter.applyEffects flags effects
              Turn.after calls <$>
                match interpreter.advance? port with
                | none => interpreter.stall flags (.dialog .optionUnwired)
                | some interpreter => walk dialog bound interpreter flags
        | .event effects => do
          let (interpreter, flags, calls) ← interpreter.applyEffects flags effects
          Turn.after calls <$>
            match interpreter.advance? Port.exit with
            | none => interpreter.stall flags (.dialog .eventUnwired)
            | some interpreter => walk dialog bound interpreter flags
        | .finish =>
          let delay := interpreter.manner.pace.delay
          if delay.isZero then interpreter.finish flags
          else pure ⟨{ interpreter with step := .closing delay }, flags, [], .suspended⟩

/-- Enter nodes until there is something to wait for, at most one more than the graph has. -/
def run (interpreter : Interpreter) (flags : Flags) : Logged Turn :=
  match interpreter.dialog with
  | none => pure ⟨interpreter, flags, [], .idle⟩
  | some dialog => walk dialog (dialog.graph.size + 1) interpreter flags

/-- Leave the node by a port and go on, or stay for good. -/
def follow (interpreter : Interpreter) (port : String) (flags : Flags) : Logged Turn :=
  match interpreter.advance? port with
  | none => interpreter.stall flags (.dialog (.portUnwired port))
  | some interpreter => { interpreter with step := .enter }.run flags

/-- Choose an option of the branch at the place. -/
def choose (interpreter : Interpreter) (index : Nat) (flags : Flags) : Logged Turn :=
  match interpreter.dialog with
  | none => pure ⟨interpreter, flags, [], .idle⟩
  | some dialog =>
    match interpreter.cursor.current with
    | none => interpreter.stall flags .lost
    | some node =>
      let port := Port.option index
      match dialog.graph.connected? node port with
      | none => interpreter.stall flags (.dialog (.portUnwired port))
      | some _ => do
        let effects :=
          match dialog.graph.kind? node with
          | some (.branch _ options) => (options[index]?).elim [] DialogOption.effects
          | _ => []
        interpreter.manner.tracing.note .flow .debug
          s!"[Branch] option {index} selected in '{dialog.name}'"
        let (interpreter, flags, calls) ← interpreter.applyEffects flags effects
        Turn.after calls <$> interpreter.follow port flags

/-- Start a dialog while some music plays. -/
def start (interpreter : Interpreter) (dialog : DialogGraph) (music : Option String)
    (flags : Flags) : Except StartError (Logged Turn) :=
  match interpreter.dialog with
  | some running => .error (.alreadyRunning running.name)
  | none =>
    match dialog.graph.start with
    | .error error => .error (.graph error)
    | .ok node => .ok do
      Logged.note .info .engine s!"starting dialog '{dialog.name}'"
      let ready : Interpreter :=
        { interpreter with
          dialog := some dialog
          cursor := ⟨some node⟩
          step := .enter
          character := dialog.firstCharacter?
          previous := music
          overridden := dialog.music.isSome
          idleReported := false }
      Turn.after (openingCalls dialog) <$> ready.run flags

/-- Go on for one tick, while an illustration may be moving. The step is taken out of its register,
and what is done with it puts another one there. -/
def resume (interpreter : Interpreter) (tick : Tick) (animating : Bool) (flags : Flags) :
    Logged Turn :=
  let sounds := interpreter.manner.sounds
  let confirmed := tick.input.confirm && !animating
  let taken := { interpreter with step := .idle }
  match interpreter.step with
  | .idle => do
    if !taken.idleReported then
      Logged.note .warn .engine "resume called with no dialog loaded"
    pure ⟨{ taken with idleReported := true }, flags, [], .idle⟩
  | .enter => { taken with step := .enter }.run flags
  | .reveal characters next budget speaker =>
    pure ({ taken with
      step := .reveal characters next (budget.add tick.elapsed) speaker }.reveal flags)
  | .confirm =>
    if confirmed then Turn.after [.playSound sounds.decide] <$> taken.follow Port.exit flags
    else pure ⟨{ taken with step := .confirm }, flags, [], .suspended⟩
  | .choose count selected =>
    let (selected, moves) := moveHighlight sounds tick.input count selected
    if confirmed then
      Turn.after (moves ++ [.playSound sounds.decide, .hideOptions]) <$>
        taken.choose selected flags
    else pure ⟨{ taken with step := .choose count selected }, flags, moves, .suspended⟩
  | .closing remaining =>
    let remaining := remaining.sub tick.elapsed
    if remaining.isZero then taken.finish flags
    else pure ⟨{ taken with step := .closing remaining }, flags, [], .suspended⟩
  | .stalled reason => pure ⟨{ taken with step := .stalled reason }, flags, [], .stalled⟩

/-- Break off the dialog, if there is one, and put the host back in order. -/
def abandon (interpreter : Interpreter) : Logged (Interpreter × List Call) :=
  match interpreter.dialog with
  | none => pure (interpreter, [])
  | some dialog => do
    Logged.note .info .engine s!"abandoning dialog '{dialog.name}'"
    let options : List Call :=
      match interpreter.step with
      | .choose .. => [.hideOptions]
      | _ => []
    pure (interpreter.clear, options ++ .dialogEnd :: interpreter.restoreCalls)

end Interpreter

end Narrative
