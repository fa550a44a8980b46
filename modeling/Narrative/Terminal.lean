import Narrative.Host

/-!
# Terminals

A terminal shows what happens as text: the lines as they are spoken, and everything else as a
remark in brackets on a line of its own. It plays no sound, nothing on it moves, and every state
is ready at once.
-/

namespace Narrative

/-- A host that writes to a screen. -/
structure Terminal where
  /-- What has been written. -/
  screen : String
  /-- The music that plays. -/
  music : Option String
  /-- The options to choose from. -/
  options : List String
  /-- Whether the last line still stands open. -/
  midLine : Bool
  deriving DecidableEq, Repr

namespace Terminal

/-- A terminal with an empty screen. -/
def empty : Terminal := ⟨"", none, [], false⟩

instance : Inhabited Terminal := ⟨empty⟩

/-- Write a text as it is. -/
def write (terminal : Terminal) (text : String) : Terminal :=
  { terminal with screen := terminal.screen ++ text }

/-- Write a text and end the line. -/
def writeLine (terminal : Terminal) (text : String) : Terminal := terminal.write (text ++ "\n")

/-- End the line that stands open, if one does. -/
def endLine (terminal : Terminal) : Terminal :=
  if terminal.midLine then { terminal.writeLine "" with midLine := false } else terminal

/-- Make a remark on a line of its own. -/
def remark (terminal : Terminal) (text : String) : Terminal :=
  terminal.endLine.writeLine s!"  ({text})"

/-- Write a text and leave the line open. -/
def speak (terminal : Terminal) (text : String) : Terminal :=
  { terminal.write text with midLine := true }

/-- The line of an option. -/
def optionLine (selected : Nat) (option : String × Nat) : String :=
  let marker := if option.2 = selected then ">" else " "
  s!"  {marker} {option.1}"

/-- Show the options, of which one is highlighted. -/
def showHighlight (terminal : Terminal) (selected : Nat) : Terminal :=
  (terminal.options.zipIdx.map (optionLine selected)).foldl writeLine terminal.endLine

/-- The terminal after a call. -/
def perform (terminal : Terminal) : Call → Terminal
  | .showSpeaker speaker => terminal.remark s!"{speaker} appears"
  | .hideSpeaker speaker => terminal.remark s!"{speaker} leaves"
  | .setTalking .. => terminal
  | .setSpeakerName speaker => terminal.endLine.speak s!"{speaker}: "
  | .showText character => terminal.speak (String.singleton character)
  | .clearText => terminal.endLine
  | .showOptions options => { terminal.endLine with options := options }
  | .highlight selected => terminal.showHighlight selected
  | .hideOptions => { terminal with options := [] }
  | .showIllustration illustration => terminal.remark s!"illustration: {illustration}"
  | .hideIllustration => terminal
  | .dialogEnd => terminal.remark "dialog closed"
  | .playMusic cue => { terminal.remark s!"music: {cue}" with music := some cue }
  | .stopMusic =>
    if terminal.music.isSome then { terminal.remark "music stops" with music := none }
    else terminal
  | .playSound _ => terminal
  | .emit event => terminal.remark s!"event: {event}"

instance : Host Terminal where
  perform := perform
  music := music
  animating _ := false
  loaderReady _ _ := true

end Terminal

end Narrative
