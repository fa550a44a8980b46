import Narrative.Proofs.Conversation.Effects
import Narrative.Proofs.Game.Operation

/-!
# Happenings of a game

Beside the game that an operation leaves stands what happened on the way to the state that a dialog
asks for: which states the effects of dialogs asked for, when the scenario moved, and which requests
were taken, in order. No function of a game keeps such a list. It is read off the games that an
operation passes: the effects from the walks of their dialogs, the moves from where their scenarios
stand, the requests from their machines.
-/

namespace Narrative

/-- Something that matters to the state that a dialog asks for. -/
inductive Happening where
  /-- A dialog executed an effect that asks for a state. -/
  | asked (target : StateKind)
  /-- The scenario moved to another node. -/
  | moved
  /-- The request of the current state was taken. -/
  | taken (request : Request)
  deriving DecidableEq

/-- What happens as effects are executed. -/
def Happening.ofEffects (effects : List Effect) : List Happening :=
  (Effect.targets effects).map asked

/-- What happens as an attempt starts its dialog. -/
def Attempt.happenings {η ℓ : Type} (attempt : Attempt η ℓ) : List Happening :=
  Happening.ofEffects (attempt.game.conversation.startEffects attempt.dialog attempt.game.flags)

namespace Game

variable {η ℓ : Type}

/-- What happens to the scenario between two games. -/
def movement (before after : Game η ℓ) : List Happening :=
  if after.storyline.node = before.storyline.node then [] else [.moved]

/-- Between games at one node of the scenario, it does not move. -/
theorem movement_of_same {before after : Game η ℓ}
    (same : after.storyline = before.storyline) : before.movement after = [] :=
  if_pos (congrArg Storyline.node same)

/-- Where it does not move, the scenario stands where it stood. -/
theorem node_of_unmoved {before after : Game η ℓ} (still : .moved ∉ before.movement after) :
    after.storyline.node = before.storyline.node := by
  unfold movement at still
  split at still
  · assumption
  · exact absurd (List.mem_singleton_self _) still

/-- What happens as the request of the current state is met. -/
def requestHappenings (game : Game η ℓ) : List Happening :=
  (game.machine.pendingRequest?.map Happening.taken).toList

variable [Host η]

/-- The effects that the active state has its dialog execute in a tick. -/
def activeEffects (game : Game η ℓ) (tick : Tick) : List Effect :=
  let effects := game.conversation.resumeEffects tick (Host.animating game.host) game.flags
  match game.machine.active? with
  | some .event => effects
  | some .freeRoam => if game.inConversation then effects else []
  | _ => []

/-- What happens as the active state does its part of a tick: its dialog goes on first, and the
scenario moves after that. -/
def activeHappenings (game : Game η ℓ) (tick : Tick) : List Happening :=
  Happening.ofEffects (game.activeEffects tick) ++ game.movement (game.updateActive tick).value

/-- What happens while the changes that wait to be told are told. There is one reaction at most that
starts a dialog, and the scenario moves after that. -/
def settleHappenings (game : Game η ℓ) : List Happening :=
  game.settleAttempts.flatMap Attempt.happenings ++ game.movement game.settle.value

/-- What happens before the first operation. -/
def openingHappenings (bundle : Bundle) (config : Config) (host : η) (loader : ℓ) :
    List Happening := openingTrace settleHappenings bundle config host loader

variable [SceneLoader ℓ]

/-- The game of a tick whose active state is about to do its part. -/
def ready (game : Game η ℓ) : Game η ℓ := game.pollScene.value.settle.value

/-- What happens in a tick. -/
def tickHappenings (game : Game η ℓ) (tick : Tick) : List Happening :=
  game.pollScene.value.settleHappenings ++ game.ready.activeHappenings tick ++
    (game.ready.updateActive tick).value.requestHappenings ++
      (game.ready.proceed tick).value.settleHappenings

/-- What happens in an operation. -/
def happenings (game : Game η ℓ) : Operation η ℓ → List Happening
  | .tick tick => game.tickHappenings tick
  | operation =>
    (game.attempts operation).flatMap Attempt.happenings ++ game.movement (game.apply operation)

/-- What happens in operations in order. -/
def runHappenings (game : Game η ℓ) : List (Operation η ℓ) → List Happening
  | [] => []
  | operation :: rest => game.happenings operation ++ (game.apply operation).runHappenings rest

omit [Host η] in
/-- Meeting requests leaves the scenario alone. -/
theorem processRequest_storyline (game : Game η ℓ) :
    game.processRequest.value.storyline = game.storyline := by
  unfold processRequest
  dsimp only [Logged.value_bind]
  split <;> rfl

omit [Host η] [SceneLoader ℓ] in
/-- Meeting the request of a sub-state leaves the scenario alone. -/
theorem processSubRequest_storyline (game : Game η ℓ) :
    game.processSubRequest.value.storyline = game.storyline := by
  unfold processSubRequest
  split
  · rfl
  · dsimp only [Logged.value_bind]
    split <;> rfl

/-- Every move of the scenario happens: if an operation tells none, the scenario stands where it
stood. -/
theorem node_apply_of_unmoved (game : Game η ℓ) (operation : Operation η ℓ)
    (still : .moved ∉ game.happenings operation) :
    (game.apply operation).storyline.node = game.storyline.node := by
  cases operation with
  | tick tick =>
    change .moved ∉ game.tickHappenings tick at still
    unfold tickHappenings settleHappenings activeHappenings at still
    simp only [List.mem_append, not_or] at still
    obtain ⟨⟨⟨⟨-, polled⟩, -, active⟩, -⟩, -, proceeded⟩ := still
    calc (game.apply (.tick tick)).storyline.node
        = (game.ready.proceed tick).value.storyline.node := node_of_unmoved proceeded
      _ = (game.ready.updateActive tick).value.storyline.node := by
        change Storyline.node (processSubRequest _).value.storyline = _
        rw [processSubRequest_storyline, processRequest_storyline]
      _ = game.ready.storyline.node := node_of_unmoved active
      _ = game.storyline.node := node_of_unmoved polled
  | _ => exact node_of_unmoved fun moved => still (List.mem_append_right _ moved)

/-- If a run tells no move, the scenario stands where it stood. -/
theorem node_runAll_of_unmoved (game : Game η ℓ) (operations : List (Operation η ℓ))
    (still : .moved ∉ game.runHappenings operations) :
    (game.runAll operations).storyline.node = game.storyline.node := by
  induction operations generalizing game with
  | nil => rfl
  | cons operation rest ih =>
    unfold runHappenings at still
    obtain ⟨first, others⟩ := not_or.1 (mt List.mem_append.2 still)
    exact (ih _ others).trans (game.node_apply_of_unmoved operation first)

end Game

/-- A dialog that asks for the credits before its only line. -/
def DialogGraph.omen : DialogGraph :=
  ⟨⟨"omen",
    [⟨.start, [⟨Port.exit, some 1⟩]⟩,
      ⟨.event [.switchState .creditRoll], [⟨Port.exit, some 2⟩]⟩,
      ⟨.line ⟨.narrator, "It is over.", none⟩, [⟨Port.exit, some 3⟩]⟩, ⟨.finish, []⟩]⟩, none⟩

/-- A story of which the omen is the first step, and free roam the second. -/
def Bundle.omen : Bundle :=
  { Bundle.empty with
    scenario := some ⟨"main",
      [⟨.start, [⟨Port.exit, some 1⟩]⟩, ⟨.event "omen", [⟨Port.exit, some 2⟩]⟩,
        ⟨.sceneChange .freeRoam, []⟩]⟩
    dialogs := .ofList [("omen", .omen)] }

/-- The title from the start, without scenes or waiting. -/
def Config.staged : Config := { Config.instant with states := StatePlan.withoutScenes }

/-- The player starts the story, and then waits. -/
def Operation.heeding : List (Operation Recorder InstantLoader) :=
  [.tick (.press ⟨true, false, false⟩), .tick (.press .none)]

/-- The player starts the story, and hears the line out at once. -/
def Operation.hurrying : List (Operation Recorder InstantLoader) :=
  [.tick (.press ⟨true, false, false⟩), .tick (.press ⟨true, false, false⟩)]

end Narrative
