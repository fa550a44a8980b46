import Narrative.Game
import Narrative.Proofs.Machine.Standing

/-!
# Traces of a game

A game takes the notices of its machine in batches and reacts to each. What is observed of the
batches makes up a trace, in the order in which they are taken. In particular it may be observed of
each reaction by itself. A conversation that was started and a game that was opened leave notices to
be taken, so that their traces are those of a game that settles. The attempts to start a dialog,
what becomes of the story and the notices that are told are such traces.
-/

namespace Narrative.Game

variable {η ℓ α : Type} [Host η]

/-- What is observed at reactions in order. -/
def batchTrace (observe : Game η ℓ → Notice → List α) (game : Game η ℓ) : List Notice → List α
  | [] => []
  | notice :: rest => observe game notice ++ (game.react notice).value.batchTrace observe rest

/-- What is observed of some number of batches, each with the game in which its notices wait. -/
def batchesTrace (observe : Game η ℓ → List Notice → List α) (bound : Nat) (game : Game η ℓ) :
    List α :=
  match bound with
  | 0 => []
  | bound + 1 =>
    let (notices, machine) := game.machine.takeNotices
    if notices.isEmpty then []
    else
      observe game notices
        ++ batchesTrace observe bound ((game.withMachine machine).reactAll notices).value

/-- What is observed while the changes that wait to be told are told. -/
def settleTrace (observe : Game η ℓ → List Notice → List α) (game : Game η ℓ) : List α :=
  game.batchesTrace observe 3

/-- What is observed at the reactions of a batch, the notices of which are taken first. -/
def reactionTrace (observe : Game η ℓ → Notice → List α) (game : Game η ℓ)
    (notices : List Notice) : List α :=
  (game.withMachine game.machine.takeNotices.2).batchTrace observe notices

/-- What is observed of the game that a conversation joined that was started. -/
def turnTrace (observe : Game η ℓ → List α) (game : Game η ℓ) (progress : Progress) : List α :=
  match (game.joinDialog progress).value with
  | .error _ => []
  | .ok game => observe game

/-- What is observed as the player talks to a character: of the dialog that is attempted, and of the
game that the conversation joined. -/
def talkTrace (attempted : DialogGraph → List α) (observe : Game η ℓ → List α) (game : Game η ℓ)
    (character : String) : List α :=
  match game.approachable with
  | .error _ => []
  | .ok _ =>
    match (game.offerOf character).value with
    | .error _ => []
    | .ok (_, dialog, repertoire) =>
      attempted dialog ++
        match game.startDialog dialog with
        | .error _ => []
        | .ok started =>
          turnTrace observe { started.value.2 with repertoire := repertoire } started.value.1

/-- What is observed of the game whose first state was entered. -/
def openingTrace (observe : Game η ℓ → List α) (bundle : Bundle) (config : Config) (host : η)
    (loader : ℓ) : List α :=
  match ((Machine.ofPlan config.states config.tracing).enterState config.states.startup).value with
  | .error _ => []
  | .ok machine =>
    let storyline := ((Storyline.empty config.tracing).load bundle.scenario).value
    observe (unopened bundle config machine storyline host loader)

/-- Reactions in order, split at some notice. -/
theorem reactAll_append (game : Game η ℓ) (first second : List Notice) :
    (game.reactAll (first ++ second)).value =
      ((game.reactAll first).value.reactAll second).value := by
  induction first generalizing game with
  | nil => rfl
  | cons notice rest ih => exact ih (game.react notice).value

/-- What is observed at reactions in order, split at some notice. -/
theorem batchTrace_append (observe : Game η ℓ → Notice → List α) (game : Game η ℓ)
    (first second : List Notice) :
    game.batchTrace observe (first ++ second) =
      game.batchTrace observe first ++
        (game.reactAll first).value.batchTrace observe second := by
  induction first generalizing game with
  | nil => rfl
  | cons notice rest ih =>
    change _ ++ (game.react notice).value.batchTrace observe (rest ++ second) = (_ ++ _) ++ _
    rw [ih, List.append_assoc]
    rfl

/-- Where nothing waits, nothing is observed. -/
theorem batchesTrace_told (observe : Game η ℓ → List Notice → List α) {game : Game η ℓ}
    (told : game.machine.queue = []) (bound : Nat) : game.batchesTrace observe bound = [] := by
  cases bound with
  | zero => rfl
  | succ bound =>
    have empty : game.machine.takeNotices.1.isEmpty = true := by
      rw [Machine.takeNotices_fst, told]
      rfl
    exact if_pos empty

/-- What waits is observed first, if nothing is observed of an empty batch. -/
theorem batchesTrace_succ {observe : Game η ℓ → List Notice → List α}
    (nothing : ∀ game, observe game [] = []) (game : Game η ℓ) (bound : Nat) :
    game.batchesTrace observe (bound + 1) = observe game game.machine.queue ++
      batchesTrace observe bound
        ((game.withMachine game.machine.takeNotices.2).reactAll game.machine.queue).value := by
  rw [← Machine.takeNotices_fst]
  by_cases empty : game.machine.takeNotices.1.isEmpty = true
  · have told : (game.withMachine game.machine.takeNotices.2).machine.queue = [] :=
      game.machine.queue_takeNotices
    have untold : game.machine.takeNotices.1 = [] := List.isEmpty_iff.1 empty
    rw [untold, nothing]
    change _ = batchesTrace observe bound (game.withMachine game.machine.takeNotices.2)
    rw [batchesTrace_told observe told]
    exact if_pos empty
  · exact if_neg empty

/-- Where nothing is observed at a departure, nothing is observed at departures in order. -/
theorem batchTrace_departures {observe : Game η ℓ → Notice → List α} {departing : Notice → Prop}
    (silent : ∀ game notice, departing notice → observe game notice = [])
    {notices : List Notice} (depart : ∀ notice ∈ notices, departing notice) (game : Game η ℓ) :
    game.batchTrace observe notices = [] := by
  induction notices generalizing game with
  | nil => rfl
  | cons notice rest ih =>
    unfold batchTrace
    rw [silent game notice (depart notice List.mem_cons_self),
      ih (fun other member => depart other (List.mem_cons_of_mem _ member))]
    rfl

end Narrative.Game
