import Narrative.Proofs.Game.Happening
import Narrative.Proofs.Game.Ownership

/-!
# What a game tells

A game takes the notices of its machine in batches and reacts to each. Beside the game that an
operation leaves stand the notices that it tells on the way, in order, each with the game that has
it waiting. What is told while a game settles are the departures that wait, the arrival behind them,
and the exploration that the reaction to an arrival may start.
-/

namespace Narrative

/-- A notice that is told. -/
structure Telling (η ℓ : Type) where
  /-- The game in which it waits to be told. -/
  game : Game η ℓ
  /-- The notice. -/
  notice : Notice

namespace Game

variable {η ℓ : Type} [Host η] {game : Game η ℓ}

omit [Host η] in
/-- The notices of a batch, which wait in a game. -/
def batchTellings (game : Game η ℓ) (notices : List Notice) : List (Telling η ℓ) :=
  notices.map (Telling.mk game)

/-- The notices that are told while a game settles. -/
def settleTellings (game : Game η ℓ) : List (Telling η ℓ) := game.settleTrace batchTellings

/-- The notices of a tick. -/
def tickTellings [SceneLoader ℓ] (game : Game η ℓ) (tick : Tick) : List (Telling η ℓ) :=
  game.pollScene.value.settleTellings ++ (game.ready.proceed tick).value.settleTellings

/-- The notices of talking to a character. -/
def talkTellings (game : Game η ℓ) (character : String) : List (Telling η ℓ) :=
  game.talkTrace (fun _ => []) settleTellings character

/-- The notices of an operation. Only a tick and a conversation that starts tell any. -/
def tellings [SceneLoader ℓ] (game : Game η ℓ) : Operation η ℓ → List (Telling η ℓ)
  | .tick tick => game.tickTellings tick
  | .talkTo character => game.talkTellings character
  | _ => []

/-- The notices of operations in order. -/
def runTellings [SceneLoader ℓ] (game : Game η ℓ) : List (Operation η ℓ) → List (Telling η ℓ)
  | [] => []
  | operation :: rest => game.tellings operation ++ (game.apply operation).runTellings rest

/-- The notices before the first operation. -/
def openingTellings (bundle : Bundle) (config : Config) (host : η) (loader : ℓ) :
    List (Telling η ℓ) := openingTrace settleTellings bundle config host loader

/-- Departures are told and have nothing else told. -/
theorem settleTellings_departures {departures : List Notice}
    (orderly : game.Orderly departures none) :
    game.settleTellings = departures.map (Telling.mk game) :=
  batchesTrace_departures (fun _ => rfl) orderly 2

/-- An arrival is told after the departures, and what its reaction leaves after that. -/
theorem settleTellings_arrival {departures others : List Notice} {kind : StateKind}
    (orderly : game.Orderly departures (some kind))
    (second : ((game.parted departures).react (.entered kind)).value.Orderly others none) :
    game.settleTellings = (departures ++ [Notice.entered kind]).map (Telling.mk game) ++
      others.map (Telling.mk ((game.parted departures).react (.entered kind)).value) := by
  rw [settleTellings, settleTrace_arrival (fun _ => rfl) orderly,
    batchesTrace_departures (fun _ => rfl) second]
  rfl

/-- Starting a dialog leaves the loader alone. -/
theorem startDialog_loader {dialog : DialogGraph} {started : Logged (Progress × Game η ℓ)}
    (accepted : game.startDialog dialog = .ok started) : started.value.2.loader = game.loader := by
  obtain ⟨turn, -, value⟩ := startDialog_cases accepted
  rw [value]
  rfl

/-- Talking to a character tells nothing unless a conversation starts, and then what is told while
the game settles that it joined. -/
theorem talkTo_told (game : Game η ℓ) (character : String) :
    (game.talkTo character).value.2 = game ∧ game.talkTellings character = [] ∨
      ∃ (sub : SubMachine) (turned : Game η ℓ) (progress : Progress),
        game.approachable = .ok sub ∧ turned.machine = game.machine ∧
        turned.loader = game.loader ∧
        (∃ dialog started, game.startDialog dialog = .ok started ∧
          turned.conversation = started.value.2.conversation ∧
          turned.host = started.value.2.host) ∧
        (game.talkTo character).value.2 = (turned.joined sub progress).settle.value ∧
        game.talkTellings character = (turned.joined sub progress).settleTellings := by
  have talked := game.talkTo_talks (fun _ => []) settleTellings character
  change game.Talks _ _ (game.talkTellings character) _ at talked
  generalize game.talkTellings character = tellings at talked ⊢
  generalize (game.talkTo character).value.2 = after at talked ⊢
  cases talked with
  | declined => exact .inl ⟨rfl, rfl⟩
  | refused => exact .inl ⟨rfl, rfl⟩
  | @accepted sub approachable dialog started accepted turned repertoire noted =>
    have machine : turned.machine = game.machine := noted ▸ (startDialog_keeps accepted).1
    have loader : turned.loader = game.loader := noted ▸ startDialog_loader accepted
    have conversation : turned.conversation = started.value.2.conversation := noted ▸ rfl
    have host : turned.host = started.value.2.host := noted ▸ rfl
    exact .inr ⟨sub, turned, started.value.1, approachable, machine, loader,
      ⟨dialog, started, accepted, conversation, host⟩, rfl, rfl⟩

end Game

end Narrative
