import Mathlib.Data.List.Chain
import Narrative.Proofs.Game.Happening
import Narrative.Proofs.Game.Settling
import Narrative.Proofs.Machine.Requests

/-!
# Honouring what dialogs ask for

A dialog asks for a state by an effect. The game hands what it asked for to the active state, where
it waits until it is taken. A game honours what dialogs asked for in the past if nothing came
between so far and what was asked for last still waits. Most steps leave that alone; those that hand
on what a dialog asked for, or have the scenario take its step, are looked at one by one.
-/

namespace Narrative

namespace Happening

/-- What may come next: after a dialog asked for a state, other effects of dialogs may ask for
others, and then the request for the last of these states is taken. -/
def Follows : Happening → Happening → Prop
  | asked _, asked _ => True
  | asked target, taken request => request = .switch target
  | asked _, moved => False
  | _, _ => True

/-- Whatever came before, a dialog may ask. -/
theorem follows_asked (before : Happening) (target : StateKind) :
    before.Follows (asked target) := by
  cases before <;> trivial

/-- The last thing that happened is that a dialog asked. -/
def Owing (past : List Happening) : Prop := ∃ target, past.getLast? = some (asked target)

variable {past : List Happening}

/-- Unless a dialog asked last, anything may come next. -/
theorem follows_of_not_owing (free : ¬ Owing past) {last : Happening}
    (standing : last ∈ past.getLast?) (next : Happening) : last.Follows next := by
  cases last with
  | asked target => exact absurd ⟨target, standing⟩ free
  | _ => trivial

/-- One more happening. -/
theorem isChain_snoc {next : Happening} :
    (past ++ [next]).IsChain Follows ↔
      past.IsChain Follows ∧ ∀ last ∈ past.getLast?, last.Follows next := by
  rw [List.isChain_append]
  simp

/-- Dialogs may ask at any time. -/
theorem isChain_append_asked (chain : past.IsChain Follows) (targets : List StateKind) :
    (past ++ targets.map asked).IsChain Follows := by
  induction targets generalizing past with
  | nil => simpa using chain
  | cons target rest ih =>
    have first := isChain_snoc.2 ⟨chain, fun last _ => last.follows_asked target⟩
    have all := ih first
    rwa [List.append_assoc] at all

end Happening

namespace Game

open Happening (Owing Follows)

variable {η ℓ : Type} {game after : Game η ℓ} {past : List Happening}

/-- A game that honours what dialogs asked for in the past. -/
structure Honours (past : List Happening) (game : Game η ℓ) : Prop where
  /-- So far everything followed. -/
  chain : past.IsChain Follows
  /-- What was asked for last waits to be taken, in a state that has dialogs. -/
  waits : ∀ target, past.getLast? = some (.asked target) →
    game.machine.pendingRequest? = some (.switch target) ∧
      (game.machine.active? = some .event ∨ game.machine.active? = some .freeRoam)
  /-- What waits during a scenario dialog is what a dialog asked for. -/
  owed : game.machine.active? = some .event → game.conversation.isRunning = true →
    game.machine.pendingRequest? ≠ none → Owing past

/-- Where nothing waits, no dialog asked last. -/
theorem Honours.free (honours : game.Honours past)
    (silent : game.machine.pendingRequest? = none) : ¬ Owing past := by
  rintro ⟨target, asked⟩
  have waits := (honours.waits target asked).1
  rw [silent] at waits
  cases waits

/-- In a state that has no dialogs, no dialog asked last. -/
theorem Honours.free_of_elsewhere (honours : game.Honours past)
    (event : game.machine.active? ≠ some .event)
    (freeRoam : game.machine.active? ≠ some .freeRoam) : ¬ Owing past := by
  rintro ⟨target, asked⟩
  exact (honours.waits target asked).2.elim event freeRoam

/-- Only the active state, its request and the running dialog matter. -/
theorem Honours.congr (honours : game.Honours past)
    (active : after.machine.active? = game.machine.active?)
    (request : after.machine.pendingRequest? = game.machine.pendingRequest?)
    (running : after.conversation.isRunning = true → game.conversation.isRunning = true) :
    after.Honours past where
  chain := honours.chain
  waits := by
    rw [active, request]
    exact honours.waits
  owed := by
    rw [active, request]
    exact fun event on => honours.owed event (running on)

/-- The scenario may move unless a dialog asked last. -/
theorem Honours.move (honours : game.Honours past) (free : ¬ Owing past)
    (idle : after.machine.active? = some .event → after.conversation.isRunning = true →
      after.machine.pendingRequest? = none) (before between : Game η ℓ) :
    after.Honours (past ++ before.movement between) := by
  have free' : ¬ Owing (past ++ before.movement between) := by
    unfold movement
    split
    · rwa [List.append_nil]
    · rintro ⟨target, asked⟩
      rw [List.getLast?_concat] at asked
      cases asked
  refine ⟨?_, fun target asked => absurd ⟨target, asked⟩ free', fun event on waits =>
    absurd (idle event on) waits⟩
  unfold movement
  split
  · rw [List.append_nil]
    exact honours.chain
  · exact Happening.isChain_snoc.2 ⟨honours.chain, fun last standing =>
      Happening.follows_of_not_owing free standing .moved⟩

/-- A game between two steps honours what dialogs asked for, and nothing is left to hand on. -/
structure Reliable (past : List Happening) (game : Game η ℓ) : Prop extends
    Honours past game where
  /-- What dialogs asked for was handed to the active state. -/
  handed : game.conversation.requested = none

/-- A step that leaves the active state, its request and the scenario as they are, and has no dialog
start or ask for anything. -/
structure Spares (game after : Game η ℓ) : Prop where
  /-- The same state is active. -/
  active : after.machine.active? = game.machine.active?
  /-- The current state asks for the same. -/
  request : after.machine.pendingRequest? = game.machine.pendingRequest?
  /-- No dialog is started. -/
  running : after.conversation.isRunning = true → game.conversation.isRunning = true
  /-- No dialog asks for a state. -/
  handed : game.conversation.requested = none → after.conversation.requested = none
  /-- The scenario is the same. -/
  storyline : after.storyline = game.storyline

namespace Spares

/-- Nothing changes but what does not matter. -/
theorem of_same (machine : after.machine = game.machine)
    (conversation : after.conversation = game.conversation)
    (storyline : after.storyline = game.storyline) : game.Spares after :=
  ⟨congrArg _ machine, congrArg _ machine, fun running => conversation ▸ running,
    fun handed => conversation ▸ handed, storyline⟩

/-- Nothing changes. -/
theorem refl (game : Game η ℓ) : game.Spares game := of_same rfl rfl rfl

/-- Two such steps in a row. -/
theorem trans {third : Game η ℓ} (first : game.Spares after) (second : after.Spares third) :
    game.Spares third :=
  ⟨second.active.trans first.active, second.request.trans first.request,
    fun running => first.running (second.running running),
    fun handed => second.handed (first.handed handed),
    second.storyline.trans first.storyline⟩

/-- Such a step honours what was honoured before. -/
theorem honours (spares : game.Spares after) (honours : game.Honours past) :
    after.Honours past :=
  honours.congr spares.active spares.request spares.running

/-- Such a step keeps a game reliable. -/
theorem reliable (spares : game.Spares after) (reliable : game.Reliable past) :
    after.Reliable past :=
  ⟨spares.honours reliable.toHonours, spares.handed reliable.handed⟩

/-- Nothing happens in such a step. -/
theorem uneventful (spares : game.Spares after) (reliable : game.Reliable past) :
    after.Reliable (past ++ [] ++ game.movement after) := by
  rw [movement_of_same spares.storyline, List.append_nil, List.append_nil]
  exact spares.reliable reliable

end Spares

/-- Other sub-states of free roam. -/
theorem withSubMachine_spares (game : Game η ℓ) (sub : SubMachine) :
    game.Spares (game.withSubMachine sub) :=
  ⟨Machine.active?_withSubMachine _ sub, Machine.pendingRequest?_withSubMachine _ sub, id, id, rfl⟩

/-- Taking the notices of a game. -/
theorem withMachine_taken_spares (game : Game η ℓ) :
    game.Spares (game.withMachine game.machine.takeNotices.2) :=
  ⟨game.machine.agrees_takeNotices.active?, game.machine.pendingRequest?_takeNotices, id, id, rfl⟩

/-- Meeting the request of a sub-state. -/
theorem processSubRequest_spares (game : Game η ℓ) :
    game.Spares game.processSubRequest.value := by
  obtain same | ⟨sub, -, value⟩ := game.processSubRequest_cases
  · rw [same]
    exact .refl game
  · rw [value]
    exact game.withSubMachine_spares _

/-- Asking free roam for exploration. -/
theorem requestExploration_spares (game : Game η ℓ) :
    game.Spares game.requestExploration.value := by
  obtain same | ⟨sub, -, value⟩ := game.requestExploration_cases
  · rw [same]
    exact .refl game
  · rw [value]
    exact game.withSubMachine_spares _

/-- Asking free roam for a sub-state. -/
theorem requestSubState_spares (game : Game η ℓ) (next : SubKind) :
    game.Spares (game.requestSubState next).value.2 := by
  obtain same | ⟨sub, -, -, value⟩ := game.requestSubState_cases next
  · rw [same]
    exact .refl game
  · rw [value]
    exact game.withSubMachine_spares _

variable [Host η]

/-- Breaking off the running dialog. -/
theorem abandonDialog_spares (game : Game η ℓ) : game.Spares game.abandonDialog.value := by
  have requested : game.abandonDialog.value.conversation.requested =
      game.conversation.requested := by
    change game.conversation.abandon.value.1.requested = _
    unfold Conversation.abandon
    split <;> rfl
  refine ⟨rfl, rfl, fun running => ?_, fun handed => requested.trans handed, rfl⟩
  rw [game.abandonDialog_quiet.1] at running
  cases running

/-- The reaction to a departure. -/
theorem react_departure_spares (game : Game η ℓ) {notice : Notice}
    (departing : notice.isArrival = false) : game.Spares (game.react notice).value := by
  rw [game.react_departure_value departing]
  split
  · exact game.abandonDialog_spares
  · exact .refl game

/-- The reactions to departures. -/
theorem reactAll_departures_spares (game : Game η ℓ) {departures : List Notice}
    (departing : ∀ notice ∈ departures, notice.isArrival = false) :
    game.Spares (game.reactAll departures).value := by
  induction departures generalizing game with
  | nil => exact .refl game
  | cons notice rest ih =>
    have first := game.react_departure_spares (departing notice List.mem_cons_self)
    exact first.trans (ih _ fun other member => departing other (List.mem_cons_of_mem _ member))

/-- Batches of reactions to departures. -/
theorem reactBatches_spares (bound : Nat)
    (departing : ∀ notice ∈ game.machine.queue, notice.isArrival = false) :
    game.Spares (reactBatches bound game).value := by
  induction bound generalizing game with
  | zero => exact .refl game
  | succ bound ih =>
    have taken := game.withMachine_taken_spares
    unfold reactBatches
    dsimp only
    split
    · exact taken
    · rw [Logged.value_bind, Machine.takeNotices_fst]
      have reacted := reactAll_departures_spares
        (game.withMachine game.machine.takeNotices.2) departing
      refine (taken.trans reacted).trans (ih fun notice member => ?_)
      obtain ⟨quiet, -⟩ := reactAll_departures
        (game.withMachine game.machine.takeNotices.2) departing
      rw [quiet.queue, game.withMachine_taken.2] at member
      cases member

omit [Host η] in
/-- Where no dialog asked for anything, nothing is handed on. -/
theorem forwardRequest_handed (handed : game.conversation.requested = none) :
    game.forwardRequest.value = (false, game) := by
  unfold forwardRequest Conversation.takeRequested
  rw [handed]
  rfl

omit [Host η] in
/-- What comes of handing on what a dialog asked for: if effects were executed that ask for a state,
it is the last of these that waits then. -/
theorem forwardRequest_reliable {effects : List Effect} (honours : game.Honours past)
    (dialogs : game.machine.active? = some .event ∨ game.machine.active? = some .freeRoam)
    (requested : game.conversation.requested = (Effect.targets effects).getLast?) :
    game.forwardRequest.value.2.Reliable (past ++ Happening.ofEffects effects) ∧
      game.forwardRequest.value.2.storyline = game.storyline ∧
      (Effect.targets effects ≠ [] → game.forwardRequest.value.1 = true) := by
  unfold Happening.ofEffects
  cases last : (Effect.targets effects).getLast? with
  | none =>
    have silent := List.getLast?_eq_none_iff.1 last
    rw [forwardRequest_handed (requested.trans last), silent, List.map_nil, List.append_nil]
    exact ⟨⟨honours, requested.trans last⟩, rfl, absurd rfl⟩
  | some target =>
    unfold forwardRequest Conversation.takeRequested
    rw [requested, last]
    have kept := (game.machine.request_onlyAsks (.switch target)).agrees.active?
    have waiting : (game.machine.request (.switch target)).value.pendingRequest? =
        some (.switch target) := by
      obtain event | freeRoam := dialogs
      · exact Machine.pendingRequest?_request event _
      · exact Machine.pendingRequest?_request freeRoam _
    have asked : (past ++ (Effect.targets effects).map Happening.asked).getLast? =
        some (.asked target) := by
      rw [List.getLast?_append, List.getLast?_map, last]
      rfl
    refine ⟨⟨⟨?_, fun other same => ?_, fun _ _ _ => ⟨target, asked⟩⟩, rfl⟩, rfl, fun _ => rfl⟩
    · exact Happening.isChain_append_asked honours.chain _
    · obtain rfl := Happening.asked.inj (Option.some.inj (asked.symm.trans same))
      refine ⟨waiting, ?_⟩
      change (game.machine.request _).value.active? = _ ∨ (game.machine.request _).value.active? = _
      rw [kept]
      exact dialogs

omit [Host η] in
/-- A step of the scenario leaves the conversation and the active state alone, and what waits gives
way only to something else that waits. -/
theorem advanceScenario_keeps (game : Game η ℓ) :
    game.advanceScenario.value.2.conversation = game.conversation ∧
      game.advanceScenario.value.2.machine.active? = game.machine.active? ∧
      (game.machine.pendingRequest? ≠ none →
        game.advanceScenario.value.2.machine.pendingRequest? ≠ none) := by
  refine ⟨?_, game.advanceScenario_asks.machine.agrees.active?, ?_⟩
  · unfold advanceScenario
    split
    · rfl
    · rfl
    · dsimp only [Logged.value_bind]
      split <;> rfl
  · unfold advanceScenario
    cases active : game.machine.active? with
    | none => exact id
    | some kind =>
      cases kind with
      | loading => exact id
      | _ =>
        dsimp only [Logged.value_bind]
        split
        · exact id
        · next request _ =>
          intro _
          change (game.machine.request request).value.pendingRequest? ≠ none
          rw [Machine.pendingRequest?_request active]
          exact Option.some_ne_none _

omit [Host η] in
/-- A scenario dialog that is over hands on what it asked for, or has the scenario take its step.
The step is fair if nothing waits that it could replace, or if it neither moves nor replaces it. -/
theorem handOver_reliable {effects : List Effect} {progress : Progress}
    (honours : game.Honours past) (event : game.machine.active? = some .event)
    (requested : game.conversation.requested = (Effect.targets effects).getLast?)
    (ended : game.conversation.isRunning = false ↔ progress = .done)
    (fair : progress = .done → Effect.targets effects = [] →
      game.machine.pendingRequest? = none ∨
        game.advanceScenario.value.2.storyline.node = game.storyline.node ∧
          game.advanceScenario.value.2.machine.pendingRequest? = game.machine.pendingRequest?) :
    let after :=
      (if progress = .done ∧ !game.forwardRequest.value.1 then
        Prod.snd <$> game.forwardRequest.value.2.advanceScenario
      else pure game.forwardRequest.value.2).value
    after.Reliable (past ++ Happening.ofEffects effects ++ game.movement after) := by
  intro after
  by_cases silent : Effect.targets effects = []
  · have nothing : Happening.ofEffects effects = [] := by
      unfold Happening.ofEffects
      rw [silent, List.map_nil]
    have handed : game.conversation.requested = none := by
      rw [requested, silent]
      rfl
    rw [nothing, List.append_nil]
    by_cases done : progress = .done
    · have stepped : after = game.advanceScenario.value.2 := by
        change (ite _ _ _ : Logged _).value = _
        rw [forwardRequest_handed handed]
        exact congrArg Logged.value (if_pos ⟨done, rfl⟩)
      obtain ⟨conversation, active, -⟩ := game.advanceScenario_keeps
      rw [stepped]
      refine ⟨?_, (congrArg Conversation.requested conversation).trans handed⟩
      have idle : game.advanceScenario.value.2.conversation.isRunning ≠ true := by
        rw [conversation, ended.2 done]
        exact Bool.false_ne_true
      obtain free | ⟨still, waiting⟩ := fair done silent
      · exact honours.move (honours.free free) (fun _ running => absurd running idle) game _
      · have unmoved : game.movement game.advanceScenario.value.2 = [] := if_pos still
        rw [unmoved, List.append_nil]
        exact honours.congr active waiting fun running => absurd running idle
    · have waits : after = game := by
        change (ite _ _ _ : Logged _).value = _
        rw [forwardRequest_handed handed]
        exact congrArg Logged.value (if_neg fun finished => done finished.1)
      rw [waits, movement_of_same rfl, List.append_nil]
      exact ⟨honours, handed⟩
  · obtain ⟨reliable, same, forwarded⟩ :=
      forwardRequest_reliable honours (.inl event) requested
    have handedOn : after = game.forwardRequest.value.2 := by
      change (ite _ _ _ : Logged _).value = _
      rw [forwarded silent]
      exact congrArg Logged.value (if_neg fun finished => Bool.false_ne_true finished.2)
    rw [handedOn, movement_of_same same, List.append_nil]
    exact reliable

end Game

end Narrative
