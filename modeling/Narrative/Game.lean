import Narrative.Game.Reaction

/-!
# Playing a game

A game starts in its first state. From then on it moves with every tick, and with what its host
asks for: conversations, the menu, and a state to change to.
-/

namespace Narrative

/-- Why a conversation does not start. -/
inductive InteractionError where
  /-- Free roam cannot take it. -/
  | machine (error : MachineError)
  /-- The character has nothing to offer. -/
  | noDialog (character : String)
  /-- Another sub-state than exploration is current. -/
  | busy (kind : SubKind)
  /-- The dialog offered does not exist. -/
  | graph (error : GraphError)
  /-- The dialog does not start. -/
  | dialog (error : StartError)
  deriving DecidableEq, Repr

/-- The wording of an error. -/
def InteractionError.message : InteractionError → String
  | machine error => error.message
  | noDialog character => s!"'{character}' has no dialog to offer right now"
  | busy kind => s!"cannot start a conversation during the {kind} sub-state"
  | graph error => error.message
  | dialog error => error.message

namespace Game

variable {η ℓ : Type} [Host η]

/-- The game of a bundle whose first state was entered, before it reacts to that. -/
def unopened (bundle : Bundle) (config : Config) (machine : Machine) (storyline : Storyline)
    (host : η) (loader : ℓ) : Game η ℓ where
  config := config
  bundle := bundle
  flags := bundle.flags
  machine := machine
  storyline := storyline
  conversation := .ofConfig config
  repertoire := .empty config.tracing
  resetPending := false
  host := host
  loader := loader

/-- The game of a bundle, in its first state. -/
def ofBundle (bundle : Bundle) (config : Config) (host : η) (loader : ℓ) :
    Logged (Except MachineError (Game η ℓ)) := do
  match ← (Machine.ofPlan config.states config.tracing).enterState config.states.startup with
  | .error error => pure (.error error)
  | .ok machine => do
    let storyline ← (Storyline.empty config.tracing).load bundle.scenario
    let game ← (unopened bundle config machine storyline host loader).settle
    pure (.ok game)

/-- Whether the running dialog belongs to free roam. -/
def inConversation (game : Game η ℓ) : Bool :=
  game.conversation.isRunning &&
    (game.machine.subMachine?.bind SubMachine.current) == some .dialog

/-- Let the scenario dialog of the event state go on. -/
def updateEvent (game : Game η ℓ) (tick : Tick) : Logged (Game η ℓ) :=
  if game.conversation.isRunning then do
    let (progress, game) ← game.resumeDialog tick
    let (forwarded, game) ← game.forwardRequest
    if progress = .done ∧ !forwarded then Prod.snd <$> game.advanceScenario else pure game
  else pure game

/-- Ask free roam for exploration, if it is active. -/
def requestExploration (game : Game η ℓ) : Logged (Game η ℓ) :=
  match game.machine.freeRoam with
  | .ok sub => game.withSubMachine <$> sub.request .exploration
  | .error _ => pure game

/-- Let the conversation of free roam go on. -/
def updateFreeRoam (game : Game η ℓ) (tick : Tick) : Logged (Game η ℓ) :=
  if game.inConversation then do
    let (progress, game) ← game.resumeDialog tick
    let game ← if progress = .done then game.requestExploration else pure game
    let (_, game) ← game.forwardRequest
    pure game
  else pure game

/-- Let the title take the next step of the scenario, starting over if that is pending. -/
def updateTitle (game : Game η ℓ) (tick : Tick) : Logged (Game η ℓ) :=
  if tick.input.confirm then do
    let game ← game.resetIfPending
    Prod.snd <$> game.advanceScenario
  else pure game

/-- Let the loading state hand over once the host is ready for its target. -/
def updateLoading (game : Game η ℓ) : Logged (Game η ℓ) :=
  match game.machine.loadingTarget? with
  | some target =>
    if Host.loaderReady game.host target then game.requestState (.switch target) else pure game
  | none => pure game

/-- Let the active state do its part of a tick. -/
def updateActive (game : Game η ℓ) (tick : Tick) : Logged (Game η ℓ) :=
  match game.machine.active? with
  | some .title => game.updateTitle tick
  | some .loading => game.updateLoading
  | some .event => game.updateEvent tick
  | some .freeRoam => game.updateFreeRoam tick
  | some .creditRoll =>
    if tick.input.confirm then game.requestState (.switch .title) else pure game
  | _ => pure game

/-- Meet the request of the current state. -/
def processRequest [SceneLoader ℓ] (game : Game η ℓ) : Logged (Game η ℓ) := do
  let (result, machine, loader) ← game.machine.processRequest game.loader
  if let some (.error error) := result then
    Logged.note .error .machine s!"state request aborted: {error.message}"
  pure { game with machine := machine, loader := loader }

/-- Meet the request of the current sub-state, if free roam is active. -/
def processSubRequest (game : Game η ℓ) : Logged (Game η ℓ) :=
  match game.machine.freeRoam with
  | .error _ => pure game
  | .ok sub => do
    let (result, sub) ← sub.processRequest
    if let some (.error error) := result then
      Logged.note .error .machine s!"sub-state request aborted: {error.message}"
    pure (game.withSubMachine sub)

/-- Enter the current state if its scene is there. -/
def pollScene [SceneLoader ℓ] (game : Game η ℓ) : Logged (Game η ℓ) := do
  let (machine, loader) ← game.machine.pollScene game.loader
  pure { game with machine := machine, loader := loader }

/-- What moves once the notices are told: the active state, and the requests. -/
def proceed [SceneLoader ℓ] (game : Game η ℓ) (tick : Tick) : Logged (Game η ℓ) := do
  let game ← game.updateActive tick
  let game ← game.processRequest
  game.processSubRequest

/-- One tick: the scene that was waited for, the active state, and the requests, in this order. -/
def tick [SceneLoader ℓ] (game : Game η ℓ) (tick : Tick) : Logged (Game η ℓ) := do
  let game ← game.pollScene
  let game ← game.settle
  let game ← game.proceed tick
  game.settle

/-- Free roam while the player explores it and can be talked to. -/
def approachable (game : Game η ℓ) : Except InteractionError SubMachine :=
  match game.machine.freeRoam with
  | .error error => .error (.machine error)
  | .ok sub =>
    match sub.current with
    | none => .error (.machine .notFreeRoam)
    | some .exploration =>
      if sub.isRegistered .dialog then .ok sub
      else .error (.machine (.unknownSubState .dialog))
    | some other => .error (.busy other)

/-- The dialog that a character offers now, and the repertoire once it was asked. -/
def offerOf (game : Game η ℓ) (character : String) :
    Logged (Except InteractionError (String × DialogGraph × Repertoire)) := do
  let (offer, repertoire) ← game.repertoire.select game.bundle character game.flags
  match offer with
  | none => pure (.error (.noDialog character))
  | some name =>
    match game.bundle.dialog name with
    | .error error => pure (.error (.graph error))
    | .ok dialog => pure (.ok (name, dialog, repertoire))

/-- Give a conversation that was started its sub-state, and hand on what it asked for. -/
def joinDialog (game : Game η ℓ) (progress : Progress) :
    Logged (Except MachineError (Game η ℓ)) :=
  match game.machine.freeRoam with
  | .error error => pure (.error error)
  | .ok sub => do
    match ← sub.switchTo .dialog with
    | .error error => pure (.error error)
    | .ok sub => do
      let sub ← if progress = .done then sub.request .exploration else pure sub
      let (_, game) ← (game.withSubMachine sub).forwardRequest
      pure (.ok game)

/-- Turn to a conversation that was started. -/
def turnToDialog (game : Game η ℓ) (progress : Progress) :
    Logged (Except InteractionError Unit × Game η ℓ) := do
  match ← game.joinDialog progress with
  | .error error => pure (.error (.machine error), game)
  | .ok game => do
    let game ← game.settle
    pure (.ok (), game)

/-- Talk to a character. -/
def talkTo (game : Game η ℓ) (character : String) :
    Logged (Except InteractionError Unit × Game η ℓ) :=
  match game.approachable with
  | .error error => pure (.error error, game)
  | .ok _ => do
    match ← game.offerOf character with
    | .error error => pure (.error error, game)
    | .ok (name, dialog, repertoire) => do
      Logged.note .info .engine s!"{character} starts dialog '{name}'"
      match game.startDialog dialog with
      | .error error => pure (.error (.dialog error), game)
      | .ok started => do
        let (progress, game) ← started
        { game with repertoire := repertoire }.turnToDialog progress

/-- Ask free roam for a sub-state. -/
def requestSubState (game : Game η ℓ) (next : SubKind) :
    Logged (Except MachineError Unit × Game η ℓ) :=
  match game.machine.freeRoam with
  | .error error => pure (.error error, game)
  | .ok sub =>
    if sub.isRegistered next then do
      let sub ← sub.request next
      pure (.ok (), game.withSubMachine sub)
    else do
      Logged.note .error .machine s!"sub-state {next} does not exist"
      pure (.error (.unknownSubState next), game)

/-- Ask for the menu. -/
def openMenu (game : Game η ℓ) : Logged (Except MachineError Unit × Game η ℓ) :=
  game.requestSubState .menu

/-- Ask for exploration again. -/
def closeMenu (game : Game η ℓ) : Logged (Except MachineError Unit × Game η ℓ) :=
  game.requestSubState .exploration

end Game

end Narrative
