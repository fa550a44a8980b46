import Narrative.Proofs.Game.Happening
import Narrative.Proofs.Game.Trace

/-!
# The story of a run

Beside the game that an operation leaves stands what became of the story on the way: the steps that
the scenario took, the times that it started over, and the requests that were taken, in order. No
function of a game keeps such a list. It is read off the games that an operation passes, and the
scenario moves nowhere else.
-/

namespace Narrative

/-- Something that matters to the story. -/
inductive StoryEvent (η ℓ : Type) where
  /-- The scenario took a step. -/
  | stepped (step : StoryStep)
  /-- The story started over from a game. -/
  | restarted (game : Game η ℓ)
  /-- The request of the current state was taken. -/
  | taken (request : Request)

/-- Whether the scenario may have moved. -/
def StoryEvent.moves {η ℓ : Type} : StoryEvent η ℓ → Bool
  | stepped _ => true
  | restarted _ => true
  | taken _ => false

namespace Game

variable {η ℓ : Type}

/-- The step that the scenario takes, unless it is deferred. -/
def stepStory (game : Game η ℓ) : List (StoryEvent η ℓ) :=
  match game.machine.active? with
  | none => []
  | some .loading => []
  | some _ => [.stepped (game.storyline.advance game.flags).value.1]

/-- The story starts over if that is pending. -/
def pendingStory (game : Game η ℓ) : List (StoryEvent η ℓ) :=
  if game.resetPending then [.restarted game] else []

/-- A scenario dialog that is over hands on what it asked for, or has the scenario take a step. -/
def handOverStory (game : Game η ℓ) (progress : Progress) : List (StoryEvent η ℓ) :=
  if progress = .done ∧ !game.forwardRequest.value.1 then
    game.forwardRequest.value.2.stepStory
  else []

/-- The request of the current state is met. -/
def requestStory (game : Game η ℓ) : List (StoryEvent η ℓ) :=
  (game.machine.pendingRequest?.map StoryEvent.taken).toList

variable [Host η]

/-- The scenario dialog goes on. -/
def updateEventStory (game : Game η ℓ) (tick : Tick) : List (StoryEvent η ℓ) :=
  if game.conversation.isRunning then
    (game.resumeDialog tick).value.2.handOverStory (game.resumeDialog tick).value.1
  else []

/-- The title takes a step. -/
def updateTitleStory (game : Game η ℓ) (tick : Tick) : List (StoryEvent η ℓ) :=
  if tick.input.confirm then game.pendingStory ++ game.resetIfPending.value.stepStory else []

/-- The active state does its part of a tick. -/
def activeStory (game : Game η ℓ) (tick : Tick) : List (StoryEvent η ℓ) :=
  match game.machine.active? with
  | some .title => game.updateTitleStory tick
  | some .event => game.updateEventStory tick
  | _ => []

/-- The scenario dialog starts, and may be over at once. -/
def eventStory (game : Game η ℓ) : List (StoryEvent η ℓ) :=
  match game.storyline.dialog with
  | none => []
  | some name =>
    match game.bundle.dialog name with
    | .error _ => []
    | .ok dialog =>
      match game.startDialog dialog with
      | .error _ => []
      | .ok started => started.value.2.handOverStory started.value.1

/-- The reaction to one change of state. -/
def reactionStory (game : Game η ℓ) : Notice → List (StoryEvent η ℓ)
  | .entered .freeRoam => game.pendingStory
  | .entered .event => game.eventStory
  | _ => []

/-- The changes that wait to be told are told. -/
def settleStory (game : Game η ℓ) : List (StoryEvent η ℓ) :=
  game.settleTrace (reactionTrace reactionStory)

/-- The player talks to a character. -/
def talkStory (game : Game η ℓ) (character : String) : List (StoryEvent η ℓ) :=
  game.talkTrace (fun _ => []) settleStory character

/-- What becomes of the story before the first operation. -/
def openingStory (bundle : Bundle) (config : Config) (host : η) (loader : ℓ) :
    List (StoryEvent η ℓ) := openingTrace settleStory bundle config host loader

variable [SceneLoader ℓ]

/-- The requests are met after the active state did its part. -/
def proceedStory (game : Game η ℓ) (tick : Tick) : List (StoryEvent η ℓ) :=
  game.activeStory tick ++ (game.updateActive tick).value.requestStory

/-- What becomes of the story in a tick. -/
def tickStory (game : Game η ℓ) (tick : Tick) : List (StoryEvent η ℓ) :=
  game.pollScene.value.settleStory ++ game.ready.proceedStory tick ++
    (game.ready.proceed tick).value.settleStory

/-- What becomes of the story in an operation. -/
def story (game : Game η ℓ) : Operation η ℓ → List (StoryEvent η ℓ)
  | .tick tick => game.tickStory tick
  | .talkTo character => game.talkStory character
  | .advanceScenario => game.stepStory
  | .reset => [.restarted game]
  | _ => []

/-- What becomes of the story in operations in order. -/
def runStory (game : Game η ℓ) : List (Operation η ℓ) → List (StoryEvent η ℓ)
  | [] => []
  | operation :: rest => game.story operation ++ (game.apply operation).runStory rest

end Game

end Narrative
