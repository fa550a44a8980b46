import Narrative.Dialog.Walk

/-!
# What a walk asks of the host

Most of what a walk asks for stages a line: a portrait and a picture are brought up, and the text
appears letter by letter. Effects ask for nothing but that the host is told of events. What holds of
all such calls holds of most of a walk.
-/

namespace Narrative

open Dialog (Manner Memory applyEffect applyEffects present openLine revealLine reveal)

/-- The event of the story that an effect tells the host of. -/
def Effect.emitted? : Effect → Option String
  | emit event => some event
  | _ => none

namespace Call

/-- Whether a call changes a portrait. -/
def isPortrait : Call → Bool
  | showSpeaker _ => true
  | hideSpeaker _ => true
  | setTalking .. => true
  | _ => false

/-- Whether a call stages a line. -/
def isStaging : Call → Bool
  | setSpeakerName _ => true
  | showText _ => true
  | clearText => true
  | showIllustration _ => true
  | hideIllustration => true
  | playSound _ => true
  | call => call.isPortrait

/-- What holds of calls of some kind holds of many of them. -/
theorem all_of_kind {kind holds : Call → Bool}
    (implied : ∀ call, kind call = true → holds call = true) {calls : List Call}
    (every : calls.all kind = true) : calls.all holds = true :=
  List.all_eq_true.2 fun call found => implied call (List.all_eq_true.1 every call found)

/-- A portrait is part of the staging. -/
theorem staging_of_portrait (call : Call) (portrait : call.isPortrait = true) :
    call.isStaging = true := by
  cases call with
  | showSpeaker _ => rfl
  | hideSpeaker _ => rfl
  | setTalking _ _ => rfl
  | _ => cases portrait

end Call

namespace Dialog

/-- Bringing up a speaker changes portraits. -/
theorem present_portrait (character : Option Speaker) (speaker : Speaker) :
    (present character speaker).2.all Call.isPortrait = true := by
  unfold present
  split
  · rfl
  · rfl
  · dsimp only
    split
    · rfl
    · cases character <;> rfl

/-- Bringing up a line is staging. -/
theorem openLine_staging (character : Option Speaker) (line : Line) :
    (openLine character line).2.all Call.isStaging = true := by
  have portrait := Call.all_of_kind Call.staging_of_portrait
    (present_portrait character line.speaker)
  unfold openLine
  dsimp only
  rw [List.all_append, List.all_append, portrait]
  cases line.illustration <;> rfl

/-- What is shown of a line and what is to come are the whole of it. -/
theorem reveal_append (interval : Duration) (remaining : List Char) (budget : Duration) :
    (reveal interval remaining budget).1 ++ (reveal interval remaining budget).2.1 = remaining := by
  induction remaining generalizing budget with
  | nil => rfl
  | cons first rest ih =>
    unfold reveal
    split
    · exact congrArg (first :: ·) (ih (budget.sub interval))
    · rfl

/-- Revealing a line is staging. -/
theorem revealLine_staging (manner : Manner) (remaining : List Char) (budget : Duration)
    (speaker : Speaker) :
    (revealLine manner remaining budget speaker).2.all Call.isStaging = true := by
  have shown (characters : List Char) : (characters.flatMap fun character =>
      [Call.showText character, .playSound manner.sounds.speak]).all Call.isStaging = true := by
    rw [List.all_flatMap]
    exact List.all_eq_true.2 fun _ _ => rfl
  unfold revealLine
  dsimp only
  split
  · rw [List.all_append, shown]
    split <;> rfl
  · exact shown _

/-- Effects in a row. -/
theorem memory_applyEffects_append (tracing : Tracing) (memory : Memory)
    (first second : List Effect) :
    (applyEffects tracing memory (first ++ second)).value.1 =
      (applyEffects tracing (applyEffects tracing memory first).value.1 second).value.1 := by
  induction first generalizing memory with
  | nil => rfl
  | cons effect rest ih => exact ih (applyEffect tracing memory effect).value.1

/-- What effects ask of the host are the events that they tell of. -/
theorem calls_applyEffects (tracing : Tracing) (memory : Memory) (effects : List Effect) :
    (applyEffects tracing memory effects).value.2 =
      (effects.filterMap Effect.emitted?).map Call.emit := by
  induction effects generalizing memory with
  | nil => rfl
  | cons effect rest ih =>
    change (applyEffect tracing memory effect).value.2 ++
      (applyEffects tracing (applyEffect tracing memory effect).value.1 rest).value.2 = _
    rw [ih]
    cases effect <;> rfl

end Dialog

end Narrative
