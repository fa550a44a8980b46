import Narrative.Conversation
import Narrative.Machine
import Narrative.Repertoire
import Narrative.Storyline

/-!
# Games

A game holds the authored bundle, what the story remembers, and the parts that move: the state
machine, the storyline, the conversation and the repertoire. It asks its host and its scene
loader for everything else.
-/

namespace Narrative

/-- A game on a host, with a scene loader. -/
structure Game (η ℓ : Type) where
  /-- The configuration. -/
  config : Config
  /-- What the authors wrote. -/
  bundle : Bundle
  /-- What the story remembers. -/
  flags : Flags
  /-- The states. -/
  machine : Machine
  /-- The place in the scenario. -/
  storyline : Storyline
  /-- The running dialog. -/
  conversation : Conversation
  /-- What the characters offer. -/
  repertoire : Repertoire
  /-- Whether the story is to start over at the next occasion. -/
  resetPending : Bool
  /-- The host. -/
  host : η
  /-- The scene loader. -/
  loader : ℓ

namespace Game

variable {η ℓ : Type}

/-- The state that is current, active or not. -/
def currentState? (game : Game η ℓ) : Option StateKind := game.machine.current

/-- The sub-state of free roam that is current, while free roam is active. -/
def currentSubState? (game : Game η ℓ) : Option SubKind :=
  if game.machine.active? = some .freeRoam then game.machine.subMachine?.bind SubMachine.current
  else none

/-- The game with another machine. -/
def withMachine (game : Game η ℓ) (machine : Machine) : Game η ℓ := { game with machine := machine }

/-- The game with other sub-states of free roam. -/
def withSubMachine (game : Game η ℓ) (sub : SubMachine) : Game η ℓ :=
  game.withMachine (game.machine.withSubMachine sub)

/-- The active state asks for a successor. -/
def requestState (game : Game η ℓ) (request : Request) : Logged (Game η ℓ) :=
  game.withMachine <$> game.machine.request request

/-- The story starts over at the next occasion. -/
def scheduleReset (game : Game η ℓ) : Game η ℓ := { game with resetPending := true }

/-- Hand what a dialog asked for to the active state; the answer tells whether it asked. -/
def forwardRequest (game : Game η ℓ) : Logged (Bool × Game η ℓ) :=
  let (requested, conversation) := game.conversation.takeRequested
  match requested with
  | none => pure (false, game)
  | some target => do
    let game ← { game with conversation := conversation }.requestState (.switch target)
    pure (true, game)

/-- The request that carries out a step of the scenario. -/
def requestOf : StoryStep → Option Request
  | .enterState target => some (.enterScene target)
  | .switchState target => some (.switch target)
  | .playDialog .. => some (.switch .event)
  | _ => none

/-- Take the next step of the scenario. No step is taken while a state is made ready. -/
def advanceScenario (game : Game η ℓ) : Logged (StoryStep × Game η ℓ) :=
  match game.machine.active? with
  | none => defer
  | some .loading => defer
  | some _ => do
    let (step, storyline, flags) ← game.storyline.advance game.flags
    game.config.tracing.note .flow .info s!"[Scenario] {step.text}"
    let game := { game with storyline := storyline, flags := flags }
    match requestOf step with
    | none => pure (step, game)
    | some request => do
      let game ← game.requestState request
      pure (step, game)
where
  /-- Take no step, and say so. -/
  defer : Logged (StoryStep × Game η ℓ) := do
    Logged.note .warn .flow
      s!"scenario advance deferred while {Notice.optionText game.machine.current} is loading"
    pure (.waiting, game)

variable [Host η]

/-- The game after calls to its host. -/
def perform (game : Game η ℓ) (calls : List Call) : Game η ℓ :=
  { game with host := Host.performAll game.host calls }

/-- The game after a step of its conversation. -/
def afterTurn (game : Game η ℓ) (turn : Turn) : Game η ℓ :=
  { game with conversation := turn.conversation, flags := turn.flags }.perform turn.calls

/-- Start a dialog. -/
def startDialog (game : Game η ℓ) (dialog : DialogGraph) :
    Except StartError (Logged (Progress × Game η ℓ)) :=
  match game.conversation.start dialog (Host.music game.host) game.flags with
  | .error error => .error error
  | .ok turn => .ok ((fun turn => (turn.progress, game.afterTurn turn)) <$> turn)

/-- Go on with the running dialog. -/
def resumeDialog (game : Game η ℓ) (tick : Tick) : Logged (Progress × Game η ℓ) :=
  (fun turn => (turn.progress, game.afterTurn turn)) <$>
    game.conversation.resume tick (Host.animating game.host) game.flags

/-- Break off the running dialog, if there is one. -/
def abandonDialog (game : Game η ℓ) : Logged (Game η ℓ) := do
  let (conversation, calls) ← game.conversation.abandon
  pure ({ game with conversation := conversation }.perform calls)

/-- Start the story over: everything it remembers is as the authors wrote it. The states stay as
they are. -/
def reset (game : Game η ℓ) : Logged (Game η ℓ) := do
  Logged.note .info .engine "resetting game state to authored defaults"
  let game ← game.abandonDialog
  let storyline ← game.storyline.reset
  pure { game with
    flags := game.flags.reset
    storyline := storyline
    repertoire := game.repertoire.reset
    conversation := game.conversation.reset
    resetPending := false }

/-- Start the story over if that is pending. -/
def resetIfPending (game : Game η ℓ) : Logged (Game η ℓ) :=
  if game.resetPending then game.reset else pure game

end Game

end Narrative
