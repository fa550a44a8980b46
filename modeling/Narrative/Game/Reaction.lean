import Narrative.Game.Basic

/-!
# Reactions to changes of state

The parts of a game are kept in step by the notices of its machine: entering a state starts what
belongs to it, and leaving one ends what cannot go on without it.
-/

namespace Narrative.Game

variable {η ℓ : Type} [Host η]

/-- Whether the flag of an entry rule is raised. An undeclared one is not, and is reported. -/
def ruleHolds (flags : Flags) (rule : EntryRule) : Logged Bool :=
  match flags.flag? rule.flag with
  | some cell => pure cell.raised
  | none => do
    Logged.note .warn .cells s!"entry rule reads undeclared flag '{rule.flag}'"
    pure false

/-- The event on entering free roam: that of the first rule for the state before it. -/
def entryEvent? (game : Game η ℓ) : Logged (Option String) :=
  match game.config.entryRules.find? fun rule => some rule.after == game.machine.previous with
  | none => pure none
  | some rule => do
    let holds ← ruleHolds game.flags rule
    pure (if holds then rule.onTrue else rule.onFalse)

/-- Let the player explore, if free roam is active and can be explored. -/
def explore (game : Game η ℓ) : Logged (Game η ℓ) :=
  match game.machine.freeRoam with
  | .error _ => pure game
  | .ok sub => do
    match ← sub.switchTo .exploration with
    | .ok sub => pure (game.withSubMachine sub)
    | .error error => do
      Logged.note .error .machine error.message
      pure game

/-- Free roam was entered: an entry rule's event takes the place of exploration. -/
def onFreeRoamEntered (game : Game η ℓ) : Logged (Game η ℓ) := do
  let game ← game.resetIfPending
  match ← game.entryEvent? with
  | some event => do
    Logged.note .info .engine s!"FreeRoam entry emits '{event}'"
    pure (game.perform [.emit event])
  | none => game.explore

/-- Event was entered: play the dialog of the last scenario step that named one. A dialog that
ends at once hands over to the state it asked for, or to the next step. -/
def onEventEntered (game : Game η ℓ) : Logged (Game η ℓ) :=
  match game.storyline.dialog with
  | none => do
    Logged.note .warn .flow "Event state entered with no scenario dialog"
    pure game
  | some name =>
    match game.bundle.dialog name with
    | .error error => do
      Logged.note .error .flow error.message
      pure game
    | .ok dialog =>
      match game.startDialog dialog with
      | .error error => do
        Logged.note .error .flow error.message
        pure game
      | .ok started => do
        let (progress, game) ← started
        let (forwarded, game) ← game.forwardRequest
        if progress = .done ∧ !forwarded then Prod.snd <$> game.advanceScenario
        else pure game

/-- React to one change of state. -/
def react (game : Game η ℓ) (notice : Notice) : Logged (Game η ℓ) := do
  game.config.tracing.note .machine .trace s!"[Notice] {notice.text}"
  match notice with
  | .entered .loading => pure (game.perform [.stopMusic])
  | .entered .freeRoam => game.onFreeRoamEntered
  | .entered .event => game.onEventEntered
  | .entered .creditRoll => pure game.scheduleReset
  | .exited .freeRoam => game.abandonDialog
  | .exited .event => game.abandonDialog
  | .subExited .dialog => game.abandonDialog
  | _ => pure game

/-- React to changes of state in order. -/
def reactAll (game : Game η ℓ) : List Notice → Logged (Game η ℓ)
  | [] => pure game
  | notice :: rest => do
    let game ← game.react notice
    game.reactAll rest

/-- React to the changes that wait to be told, in at most some number of batches. -/
def reactBatches (bound : Nat) (game : Game η ℓ) : Logged (Game η ℓ) :=
  match bound with
  | 0 => pure game
  | bound + 1 =>
    let (notices, machine) := game.machine.takeNotices
    if notices.isEmpty then pure (game.withMachine machine)
    else do
      let game ← (game.withMachine machine).reactAll notices
      reactBatches bound game

/-- React to the changes that wait to be told, until none is left. A reaction can only change the
sub-state, and the reaction to that changes no state; a third batch is therefore empty. -/
def settle (game : Game η ℓ) : Logged (Game η ℓ) := reactBatches 3 game

end Narrative.Game
