import Narrative.Host

/-!
# Recording hosts

A recorder keeps every call that it receives. What it answers is set from outside: the illustration
moves, and a state is not ready, as long as the recorder is told so; only the music follows from
the calls.
-/

namespace Narrative

/-- A host that keeps its calls. -/
structure Recorder where
  /-- The calls, oldest first. -/
  calls : List Call
  /-- The music that plays. -/
  music : Option String
  /-- Whether an illustration is said to move. -/
  animating : Bool
  /-- The states that are said not to be ready. -/
  held : List StateKind
  deriving DecidableEq

namespace Recorder

/-- A recorder without calls to which some music plays. -/
def playing (music : Option String) : Recorder := ⟨[], music, false, []⟩

/-- A recorder without calls. -/
def empty : Recorder := playing none

instance : Inhabited Recorder := ⟨empty⟩

/-- The music after a call. -/
def musicAfter (music : Option String) : Call → Option String
  | .playMusic cue => some cue
  | .stopMusic => none
  | _ => music

instance : Host Recorder where
  perform recorder call :=
    { recorder with
      calls := recorder.calls ++ [call], music := musicAfter recorder.music call }
  music := Recorder.music
  animating := Recorder.animating
  loaderReady recorder kind := !recorder.held.contains kind

/-- The calls, and the recorder without them. -/
def takeCalls (recorder : Recorder) : List Call × Recorder :=
  (recorder.calls, { recorder with calls := [] })

/-- The lines that some calls show, given the line shown so far, if there is one. -/
def linesFrom : Option (List Char) → List Call → List String
  | shown, [] => (shown.map String.ofList).toList
  | shown, .clearText :: rest => (shown.map String.ofList).toList ++ linesFrom (some []) rest
  | shown, .showText character :: rest => linesFrom (some (shown.getD [] ++ [character])) rest
  | shown, _ :: rest => linesFrom shown rest

/-- The lines that the calls show. -/
def lines (recorder : Recorder) : List String := linesFrom none recorder.calls

/-- The number of calls equal to one. -/
def count (recorder : Recorder) (call : Call) : Nat := recorder.calls.count call

/-- The calls without those that reveal a line. -/
def significant (recorder : Recorder) : List Call := recorder.calls.filter Call.isSignificant

/-- Whether an event of the story has happened. -/
def hasEmitted (recorder : Recorder) (event : String) : Bool :=
  recorder.calls.contains (.emit event)

/-- The stored form. -/
def format : Format Recorder :=
  Format.record
    (.field (.required "calls" (Format.list Call.format)) <|
      .field (.nullable "music" Format.text) <|
      .field (.withDefault "illustration_animating" Format.boolean false) <|
      .field (.withDefault "held_loaders" (Format.list Format.stateKind) []) .done)
    (fun (calls, music, animating, held, ()) => ⟨calls, music, animating, held⟩)
    fun recorder => (recorder.calls, recorder.music, recorder.animating, recorder.held, ())

end Recorder

end Narrative
