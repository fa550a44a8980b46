import Narrative.Dialog.Graph

/-!
# Hosts

The game shows nothing itself. It asks its host by calls, and learns three things from it: the
music that plays, whether an illustration is still moving, and whether a state that has to be
loaded is ready.
-/

namespace Narrative

/-- What a host is asked to do. -/
inductive Call where
  /-- Show the portrait of a speaker. -/
  | showSpeaker (speaker : Speaker)
  /-- Hide the portrait of a speaker. -/
  | hideSpeaker (speaker : Speaker)
  /-- Start or stop the talking of a portrait. -/
  | setTalking (speaker : Speaker) (talking : Bool)
  /-- Show the name of the speaker of the line. -/
  | setSpeakerName (speaker : Speaker)
  /-- Show the next character of the line. -/
  | showText (character : Char)
  /-- Take the text of the line away. -/
  | clearText
  /-- Show the options of a branch. -/
  | showOptions (options : List String)
  /-- Highlight an option. -/
  | highlight (index : Nat)
  /-- Take the options away. -/
  | hideOptions
  /-- Show an illustration. -/
  | showIllustration (illustration : String)
  /-- Take the illustration away. -/
  | hideIllustration
  /-- The dialog is over. -/
  | dialogEnd
  /-- Play a music cue. -/
  | playMusic (cue : String)
  /-- Stop the music. -/
  | stopMusic
  /-- Play a sound cue. -/
  | playSound (cue : String)
  /-- An event of the story has happened. -/
  | emit (event : String)
  deriving DecidableEq, Repr

namespace Call

/-- Whether a call is more than one of the many that reveal a line. -/
def isSignificant : Call → Bool
  | showText _ => false
  | playSound _ => false
  | _ => true

/-- A speaker and whether it talks, as an array of two. -/
def talkingFormat : Format (Speaker × Bool) :=
  Format.row
    (.field (.required "speaker" Speaker.format) <|
      .field (.required "talking" Format.boolean) .done)
    (fun (speaker, talking, ()) => (speaker, talking))
    fun (speaker, talking) => (speaker, talking, ())

/-- The stored form: the name of the call, beside what it is about. -/
def format : Format Call :=
  Format.paired "call" "args"
    [.holding "ShowSpeaker" Speaker.format showSpeaker fun
        | showSpeaker speaker => some speaker
        | _ => none,
      .holding "HideSpeaker" Speaker.format hideSpeaker fun
        | hideSpeaker speaker => some speaker
        | _ => none,
      .holding "SetSpeakerTalking" talkingFormat (fun pair => setTalking pair.1 pair.2) fun
        | setTalking speaker talking => some (speaker, talking)
        | _ => none,
      .holding "SetSpeakerName" Speaker.format setSpeakerName fun
        | setSpeakerName speaker => some speaker
        | _ => none,
      .holding "ShowLineText" Format.character showText fun
        | showText character => some character
        | _ => none,
      .plain "ClearLineText" clearText (· == clearText),
      .holding "ShowOptions" (Format.list Format.text) showOptions fun
        | showOptions options => some options
        | _ => none,
      .holding "UpdateOptionText" Format.natural highlight fun
        | highlight index => some index
        | _ => none,
      .plain "HideOptions" hideOptions (· == hideOptions),
      .holding "ShowIllustration" Format.text showIllustration fun
        | showIllustration illustration => some illustration
        | _ => none,
      .plain "HideIllustration" hideIllustration (· == hideIllustration),
      .plain "OnDialogEnd" dialogEnd (· == dialogEnd),
      .holding "PlayMusic" Format.text playMusic fun
        | playMusic cue => some cue
        | _ => none,
      .plain "StopMusic" stopMusic (· == stopMusic),
      .holding "PlaySound" Format.text playSound fun
        | playSound cue => some cue
        | _ => none,
      .holding "Emit" Format.text emit fun
        | emit event => some event
        | _ => none]

end Call

/-- What the game asks and learns from. -/
class Host (η : Type) where
  /-- The host after a call. -/
  perform : η → Call → η
  /-- The music that plays. -/
  music : η → Option String
  /-- Whether an illustration is still moving. -/
  animating : η → Bool
  /-- Whether a state that has to be loaded is ready. -/
  loaderReady : η → StateKind → Bool

/-- The host after a list of calls, in order. -/
def Host.performAll {η : Type} [Host η] (host : η) (calls : List Call) : η :=
  calls.foldl Host.perform host

end Narrative
