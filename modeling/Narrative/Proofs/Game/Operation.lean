import Narrative.Host.Recorder
import Narrative.Proofs.Dialog.Passage
import Narrative.Proofs.Game.Trace
import Narrative.Scene.Loader

/-!
# Operations of a game

A game is used through its operations, in any order. What surrounds it takes part: between two
operations the flags, the host and the scene loader may change in any way. Beside the game that an
operation leaves stand the attempts to start a dialog that it makes on the way, in order, each
with the game that makes it.
-/

namespace Narrative

/-- What can happen to a game. -/
inductive Operation (η ℓ : Type) where
  /-- Time passes. -/
  | tick (tick : Tick)
  /-- The player talks to a character. -/
  | talkTo (character : String)
  /-- The menu is asked for. -/
  | openMenu
  /-- Exploration is asked for again. -/
  | closeMenu
  /-- A state is asked for. -/
  | requestState (request : Request)
  /-- The next step of the scenario is taken. -/
  | advanceScenario
  /-- The story starts over. -/
  | reset
  /-- The story is to start over at the next occasion. -/
  | scheduleReset
  /-- The flags are changed from outside. -/
  | flags (change : Flags → Flags)
  /-- The host changes. -/
  | host (change : η → η)
  /-- The scene loader changes. -/
  | loader (change : ℓ → ℓ)

/-- Whether an operation leaves the record of calls alone; only a change of the host can touch
it. -/
def Operation.SparesRecord {ℓ : Type} : Operation Recorder ℓ → Prop
  | host change => ∀ recorder, (change recorder).calls = recorder.calls
  | _ => True

/-- An attempt to start a dialog. -/
structure Attempt (η ℓ : Type) where
  /-- The game that makes it. -/
  game : Game η ℓ
  /-- The dialog to be started. -/
  dialog : DialogGraph

section Attempt

variable {η ℓ : Type} [Host η]

/-- How an attempt ends. -/
def Attempt.outcome (attempt : Attempt η ℓ) : Except StartError (Logged (Progress × Game η ℓ)) :=
  attempt.game.startDialog attempt.dialog

/-- Whether an attempt starts its dialog. -/
def Attempt.succeeds (attempt : Attempt η ℓ) : Bool := attempt.outcome.isOk

/-- How many attempts start their dialogs. -/
def startsOf (attempts : List (Attempt η ℓ)) : Nat := attempts.countP Attempt.succeeds

@[simp]
theorem startsOf_nil : startsOf ([] : List (Attempt η ℓ)) = 0 := rfl

@[simp]
theorem startsOf_append (first second : List (Attempt η ℓ)) :
    startsOf (first ++ second) = startsOf first + startsOf second := List.countP_append

/-- An attempt that succeeds counts. -/
theorem startsOf_accepted (attempt : Attempt η ℓ) {started : Logged (Progress × Game η ℓ)}
    (rest : List (Attempt η ℓ)) (accepted : attempt.outcome = .ok started) :
    startsOf (attempt :: rest) = 1 + startsOf rest := by
  rw [Nat.add_comm]
  refine List.countP_cons_of_pos ?_
  unfold Attempt.succeeds
  rw [accepted]
  rfl

/-- An attempt that is refused does not count. -/
theorem startsOf_refused (attempt : Attempt η ℓ) {error : StartError}
    (rest : List (Attempt η ℓ)) (refused : attempt.outcome = .error error) :
    startsOf (attempt :: rest) = startsOf rest := by
  refine List.countP_cons_of_neg ?_
  unfold Attempt.succeeds
  rw [refused]
  exact Bool.false_ne_true

end Attempt

namespace Game

variable {η ℓ : Type}

/-- The attempt on entering the event state. -/
def eventAttempts (game : Game η ℓ) : List (Attempt η ℓ) :=
  match game.storyline.dialog with
  | none => []
  | some name =>
    match game.bundle.dialog name with
    | .error _ => []
    | .ok dialog => [⟨game, dialog⟩]

/-- The attempts of one reaction. -/
def reactionAttempts (game : Game η ℓ) : Notice → List (Attempt η ℓ)
  | .entered .event => game.eventAttempts
  | _ => []

variable [Host η]

/-- The attempts while the changes that wait to be told are told. -/
def settleAttempts (game : Game η ℓ) : List (Attempt η ℓ) :=
  game.settleTrace (reactionTrace reactionAttempts)

/-- The attempts of a tick. -/
def tickAttempts [SceneLoader ℓ] (game : Game η ℓ) (tick : Tick) : List (Attempt η ℓ) :=
  let polled := game.pollScene.value
  polled.settleAttempts ++ (polled.settle.value.proceed tick).value.settleAttempts

/-- The attempts of talking to a character. -/
def talkAttempts (game : Game η ℓ) (character : String) : List (Attempt η ℓ) :=
  game.talkTrace (fun dialog => [⟨game, dialog⟩]) settleAttempts character

/-- The attempts before the first operation. -/
def openingAttempts (bundle : Bundle) (config : Config) (host : η) (loader : ℓ) :
    List (Attempt η ℓ) := openingTrace settleAttempts bundle config host loader

variable [SceneLoader ℓ]

/-- The game after an operation. -/
def apply (game : Game η ℓ) : Operation η ℓ → Game η ℓ
  | .tick tick => (game.tick tick).value
  | .talkTo character => (game.talkTo character).value.2
  | .openMenu => game.openMenu.value.2
  | .closeMenu => game.closeMenu.value.2
  | .requestState request => (game.requestState request).value
  | .advanceScenario => game.advanceScenario.value.2
  | .reset => game.reset.value
  | .scheduleReset => game.scheduleReset
  | .flags change => { game with flags := change game.flags }
  | .host change => { game with host := change game.host }
  | .loader change => { game with loader := change game.loader }

/-- The attempts of an operation. -/
def attempts (game : Game η ℓ) : Operation η ℓ → List (Attempt η ℓ)
  | .tick tick => game.tickAttempts tick
  | .talkTo character => game.talkAttempts character
  | _ => []

/-- The game after operations in order. -/
def runAll (game : Game η ℓ) : List (Operation η ℓ) → Game η ℓ
  | [] => game
  | operation :: rest => (game.apply operation).runAll rest

/-- Operations in a row. -/
theorem runAll_append (game : Game η ℓ) (first second : List (Operation η ℓ)) :
    game.runAll (first ++ second) = (game.runAll first).runAll second := by
  induction first generalizing game with
  | nil => rfl
  | cons operation rest ih => exact ih (game.apply operation)

/-- The attempts of operations in order. -/
def runAttempts (game : Game η ℓ) : List (Operation η ℓ) → List (Attempt η ℓ)
  | [] => []
  | operation :: rest => game.attempts operation ++ (game.apply operation).runAttempts rest

end Game

/-- A character with one line to say. -/
def Bundle.greeting : Bundle :=
  { Bundle.empty with
    dialogs := .ofList [("hello", .greeting)]
    offers := .ofList
      [("guide", ⟨"guide", [⟨.start, [⟨Port.exit, some 1⟩]⟩, ⟨.content "hello" none, []⟩]⟩)]
    characters := .ofList [("guide", .single "guide")] }

/-- Free roam from the start, without scenes or waiting. -/
def Config.roaming : Config :=
  { Config.instant with states := { StatePlan.withoutScenes with startup := .freeRoam } }

/-- The player meets the character and hears the line out. -/
def Operation.meeting : List (Operation Recorder InstantLoader) :=
  [.talkTo "guide", .tick (.press ⟨true, false, false⟩)]

end Narrative
