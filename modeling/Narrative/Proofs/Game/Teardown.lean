import Narrative.Proofs.Game.Quiet

/-!
# Tearing dialogs down

A dialog can end in many ways: by itself, because its state or its sub-state is left, or because
the story starts over. Whatever happens to a game, its calls end every dialog that was started
exactly once, and take away every panel of options exactly once. The ledger of an operation counts
the attempts that start a dialog on the way; the ledger of a run adds them up.
-/

namespace Narrative

namespace Game

variable {η ℓ : Type} [Host η]

/-- Exploring asks nothing of the host. -/
theorem explore_ledger (game : Game η ℓ) : game.Ledger 0 game.explore.value := by
  obtain same | ⟨sub, -, -, value⟩ := game.explore_cases
  · rw [same]
    exact .of_same rfl rfl
  · rw [value]
    exact .of_same rfl rfl

/-- The ledger of entering free roam. -/
theorem onFreeRoamEntered_ledger (game : Game η ℓ) :
    game.Ledger 0 game.onFreeRoamEntered.value := by
  refine game.resetIfPending_quiet.ledger.trans (?_ : Ledger _ 0 _)
  obtain ⟨event, value⟩ | value := game.onFreeRoamEntered_cases
  · rw [value]
    exact (perform_quiet _ fun call member => by rw [List.mem_singleton.1 member]; rfl).ledger
  · rw [value]
    exact explore_ledger _

/-- The ledger of one reaction. -/
theorem react_ledger (game : Game η ℓ) (notice : Notice) :
    game.Ledger (startsOf (game.reactionAttempts notice)) (game.react notice).value := by
  have music : ∀ call ∈ [Call.stopMusic], call.isPlain = true := fun call member => by
    rw [List.mem_singleton.1 member]
    rfl
  unfold react
  rw [Logged.value_bind]
  cases notice with
  | changed _ _ => exact .of_same rfl rfl
  | entered kind =>
    cases kind with
    | loading => exact (game.perform_quiet music).ledger
    | freeRoam => exact game.onFreeRoamEntered_ledger
    | event => exact game.onEventEntered_quiet.ledger
    | _ => exact .of_same rfl rfl
  | exited kind =>
    cases kind with
    | freeRoam => exact game.abandonDialog_quiet.2.ledger
    | event => exact game.abandonDialog_quiet.2.ledger
    | _ => exact .of_same rfl rfl
  | subEntered _ => exact .of_same rfl rfl
  | subExited kind =>
    cases kind with
    | dialog => exact game.abandonDialog_quiet.2.ledger
    | _ => exact .of_same rfl rfl

/-- The ledger of reactions in order. -/
theorem reactAll_ledger (game : Game η ℓ) (notices : List Notice) :
    game.Ledger (startsOf (game.batchTrace reactionAttempts notices))
      (game.reactAll notices).value := by
  induction notices generalizing game with
  | nil => exact .of_same rfl rfl
  | cons notice rest ih =>
    unfold batchTrace reactAll
    rw [startsOf_append]
    exact (game.react_ledger notice).trans (ih _)

/-- The ledger of some number of batches. -/
theorem reactBatches_ledger (game : Game η ℓ) (bound : Nat) :
    game.Ledger (startsOf (game.batchesTrace (reactionTrace reactionAttempts) bound))
      (reactBatches bound game).value := by
  induction bound generalizing game with
  | zero => exact .of_same rfl rfl
  | succ bound ih =>
    unfold batchesTrace reactBatches
    dsimp only
    have told (machine : Machine) : game.Ledger 0 (game.withMachine machine) := .of_same rfl rfl
    split
    · exact told _
    · rw [startsOf_append, ← Nat.zero_add (_ + _)]
      exact (told _).trans ((reactAll_ledger _ _).trans (ih _))

/-- The ledger of telling what waits to be told. -/
theorem settle_ledger (game : Game η ℓ) :
    game.Ledger (startsOf game.settleAttempts) game.settle.value := game.reactBatches_ledger 3

/-- Meeting the request of a sub-state asks nothing of the host. -/
theorem processSubRequest_ledger (game : Game η ℓ) :
    game.Ledger 0 game.processSubRequest.value := by
  obtain same | ⟨sub, -, value⟩ := game.processSubRequest_cases
  · rw [same]
    exact .of_same rfl rfl
  · rw [value]
    exact .of_same rfl rfl

/-- The ledger of talking to a character. -/
theorem Talked.ledger {game after : Game η ℓ} {attempts : List (Attempt η ℓ)}
    (talked : game.Talked attempts after) : game.Ledger (startsOf attempts) after := by
  cases talked with
  | declined => exact .of_same rfl rfl
  | refused _ dialog refused =>
    rw [startsOf_refused ⟨game, dialog⟩ [] refused]
    exact .of_same rfl rfl
  | @accepted sub _ dialog started accepted turned _ noted =>
    have joins : started.value.2.Ledger 0 (turned.joined sub started.value.1) := by
      have turns : started.value.2.Ledger 0 (turned.withSubMachine (sub.joined started.value.1)) :=
        noted ▸ .of_same rfl rfl
      exact turns.trans (forwardRequest_asks _).quiet.ledger
    rw [List.singleton_append, startsOf_accepted ⟨game, dialog⟩ _ accepted]
    refine (startDialog_quiet accepted).2.ledger.trans ?_
    rw [← Nat.zero_add (startsOf _)]
    exact joins.trans (settle_ledger _)

variable [SceneLoader ℓ]

/-- The ledger of a tick. -/
theorem tick_ledger (game : Game η ℓ) (tick : Tick) :
    game.Ledger (startsOf (game.tickAttempts tick)) (game.tick tick).value := by
  have polled : game.Ledger 0 game.pollScene.value := .of_same rfl rfl
  have proceeds (game : Game η ℓ) : game.Ledger 0 (game.proceed tick).value := by
    have met (game : Game η ℓ) : game.Ledger 0 game.processRequest.value := by
      rw [processRequest_value]
      exact .of_same rfl rfl
    exact (game.updateActive_quiet tick).ledger.trans ((met _).trans (processSubRequest_ledger _))
  unfold tickAttempts
  rw [startsOf_append, ← Nat.zero_add (_ + _)]
  refine polled.trans ((settle_ledger _).trans ?_)
  rw [← Nat.zero_add (startsOf _)]
  exact (proceeds _).trans (settle_ledger _)

/-- The ledger of an operation that leaves the host to the game. -/
theorem apply_ledger (game : Game η ℓ) {operation : Operation η ℓ}
    (spared : ∀ change, operation ≠ .host change) :
    game.Ledger (startsOf (game.attempts operation)) (game.apply operation) := by
  cases operation with
  | tick tick => exact game.tick_ledger tick
  | talkTo character => exact (game.talkTo_talked character).ledger
  | openMenu => exact (game.requestSubState_quiet .menu).ledger
  | closeMenu => exact (game.requestSubState_quiet .exploration).ledger
  | requestState request => exact (game.requestState_asks request).quiet.ledger
  | advanceScenario => exact game.advanceScenario_asks.quiet.ledger
  | reset => exact game.reset_quiet.ledger
  | scheduleReset => exact .of_same rfl rfl
  | flags _ => exact .of_same rfl rfl
  | host change => exact absurd rfl (spared change)
  | loader _ => exact .of_same rfl rfl

omit [SceneLoader ℓ] in
/-- The ledger of opening a game. -/
theorem ofBundle_ledger {bundle : Bundle} {config : Config} {host : η} {loader : ℓ}
    {opened : Game η ℓ} (valid : (Game.ofBundle bundle config host loader).value = .ok opened) :
    ∃ unopened : Game η ℓ, unopened.host = host ∧ unopened.conversation.session = none ∧
      unopened.Ledger (startsOf (openingAttempts bundle config host loader)) opened := by
  obtain ⟨machine, entered, rfl⟩ := ofBundle_cases valid
  unfold openingAttempts openingTrace
  rw [entered]
  exact ⟨unopened bundle config machine
    ((Storyline.empty config.tracing).load bundle.scenario).value host loader, rfl, rfl,
    settle_ledger _⟩

end Game

namespace Recorder

variable {ℓ : Type}

/-- The record of a game accounts for every dialog that was started and every panel that was
shown since an earlier game. -/
structure Accounts (before : Game Recorder ℓ) (starts : Nat) (after : Game Recorder ℓ) : Prop where
  /-- Each dialog is ended once, or is running. -/
  endings : Call.endings after.host.calls + after.conversation.openDialogs =
    Call.endings before.host.calls + before.conversation.openDialogs + starts
  /-- Each panel is taken away once, or is shown. -/
  panels : Call.panels after.host.calls + before.conversation.openPanels =
    Call.panels before.host.calls + after.conversation.openPanels

namespace Accounts

variable {before after last : Game Recorder ℓ} {starts more : Nat}

/-- A settled ledger is an account. -/
theorem of_ledger (ledger : before.Ledger starts after) : Accounts before starts after := by
  obtain ⟨calls, performed, books⟩ := ledger
  have ends := books.endings
  have shows := books.panels
  have record : after.host.calls = before.host.calls ++ calls := by
    rw [performed, calls_performAll]
  constructor
  · rw [record, Call.endings_append]
    omega
  · rw [record, Call.panels_append]
    omega

/-- Accounts add up. -/
theorem trans (first : Accounts before starts after) (second : Accounts after more last) :
    Accounts before (starts + more) last := by
  have firstEnds := first.endings
  have secondEnds := second.endings
  have firstPanels := first.panels
  have secondPanels := second.panels
  exact ⟨by omega, by omega⟩

end Accounts

variable [SceneLoader ℓ]

/-- The account of an operation. -/
theorem accounts_apply (game : Game Recorder ℓ) {operation : Operation Recorder ℓ}
    (spares : operation.SparesRecord) :
    Accounts game (startsOf (game.attempts operation)) (game.apply operation) := by
  cases operation with
  | host change =>
    have kept : (change game.host).calls = game.host.calls := spares game.host
    constructor
    · change Call.endings (change game.host).calls + game.conversation.openDialogs = _
      rw [kept]
      rfl
    · change Call.panels (change game.host).calls + game.conversation.openPanels = _
      rw [kept]
      rfl
  | _ => exact .of_ledger (game.apply_ledger nofun)

/-- The account of a run. -/
theorem accounts_runAll (game : Game Recorder ℓ) (operations : List (Operation Recorder ℓ))
    (spares : ∀ operation ∈ operations, operation.SparesRecord) :
    Accounts game (startsOf (game.runAttempts operations)) (game.runAll operations) := by
  induction operations generalizing game with
  | nil => exact ⟨rfl, rfl⟩
  | cons operation rest ih =>
    unfold Game.runAttempts Game.runAll
    rw [startsOf_append]
    exact (accounts_apply game (spares operation List.mem_cons_self)).trans
      (ih _ fun other member => spares other (List.mem_cons_of_mem _ member))

end Recorder

/-- After every operation of a game, the dialogs that were started are those that the record of
its calls ends, and the one that is running; and the panels of options that the record leaves
open are the one that waits for a choice. -/
theorem dialogs_torn_down_once {ℓ : Type} [SceneLoader ℓ] {bundle : Bundle} {config : Config}
    {host : Recorder} {loader : ℓ} {opened : Game Recorder ℓ}
    (valid : (Game.ofBundle bundle config host loader).value = .ok opened)
    (operations : List (Operation Recorder ℓ))
    (spares : ∀ operation ∈ operations, operation.SparesRecord) :
    let game := opened.runAll operations
    let starts := startsOf (Game.openingAttempts bundle config host loader)
      + startsOf (opened.runAttempts operations)
    Call.endings game.host.calls + (if game.conversation.isRunning then 1 else 0) =
        Call.endings host.calls + starts ∧
      Call.panels game.host.calls =
        Call.panels host.calls + if game.conversation.selected?.isSome then 1 else 0 := by
  obtain ⟨unopened, rfl, idle, opening⟩ := Game.ofBundle_ledger valid
  obtain ⟨dialogs, panels⟩ := Conversation.open_of_idle unopened.conversation idle
  obtain ⟨ends, shows⟩ := (Recorder.Accounts.of_ledger opening).trans
    (Recorder.accounts_runAll opened operations spares)
  rw [dialogs] at ends
  rw [panels] at shows
  exact ⟨ends, (Int.add_zero _).symm.trans shows⟩

/-- A conversation that was heard out was started once and is ended once. -/
theorem dialogs_torn_down_once_meeting :
    ∃ opened, (Game.ofBundle .greeting .roaming Recorder.empty InstantLoader.empty).value =
        .ok opened ∧
      startsOf (opened.runAttempts Operation.meeting) = 1 ∧
      Call.endings (opened.runAll Operation.meeting).host.calls = 1 ∧
      Call.panels (opened.runAll Operation.meeting).host.calls = 0 := by
  refine ⟨_, rfl, rfl, ?_⟩
  have valid : (Game.ofBundle .greeting .roaming Recorder.empty InstantLoader.empty).value =
    .ok _ := rfl
  have spares : ∀ operation ∈ Operation.meeting, operation.SparesRecord := by
    intro operation member
    simp only [Operation.meeting, List.mem_cons, List.not_mem_nil, or_false] at member
    obtain rfl | rfl := member <;> trivial
  exact dialogs_torn_down_once valid Operation.meeting spares

end Narrative
