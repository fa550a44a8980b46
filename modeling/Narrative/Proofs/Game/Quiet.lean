import Narrative.Proofs.Conversation.Ledger
import Narrative.Proofs.Game.Operation
import Narrative.Proofs.Game.Outcome
import Narrative.Proofs.Host.Record

/-!
# Quiet steps of a game

Most of what a game does moves no state: it goes on with the conversation, takes a step of the
scenario, or asks for a state that it will enter later. Such a quiet step leaves the standing of
the machine and its queue as they are. What it asks of the host settles the books of the
conversation, and so do the steps that are not quiet.
-/

namespace Narrative

namespace Game

variable {η ℓ : Type} [Host η]

/-- What a step asks of the host settles what it starts and ends. -/
def Ledger (game : Game η ℓ) (starts : Nat) (after : Game η ℓ) : Prop :=
  ∃ calls, after.host = Host.performAll game.host calls ∧
    game.conversation.Ledger starts calls after.conversation

namespace Ledger

variable {game other third : Game η ℓ} {starts more : Nat}

/-- A step that asks nothing and keeps the session. -/
theorem of_same (host : other.host = game.host)
    (session : other.conversation.session = game.conversation.session) : game.Ledger 0 other :=
  ⟨[], host, Conversation.Ledger.of_plain session Call.plain_nil⟩

/-- Two steps in a row. -/
theorem trans (first : game.Ledger starts other) (second : other.Ledger more third) :
    game.Ledger (starts + more) third := by
  obtain ⟨calls, performed, left⟩ := first
  obtain ⟨others, continued, right⟩ := second
  refine ⟨calls ++ others, ?_, left.trans right⟩
  rw [Host.performAll_append, ← performed]
  exact continued

/-- Without a start, a conversation runs only if it ran before. -/
theorem running (ledger : game.Ledger 0 other) (running : other.conversation.isRunning = true) :
    game.conversation.isRunning = true := by
  obtain ⟨_, _, ledger⟩ := ledger
  exact ledger.running running

end Ledger

/-- A step that moves no state. -/
structure Quiet (game : Game η ℓ) (starts : Nat) (after : Game η ℓ) : Prop where
  /-- The standing of the machine is the same. -/
  standing : game.machine.Agrees after.machine
  /-- No notice is added or told. -/
  queue : after.machine.queue = game.machine.queue
  /-- The calls settle what the step starts and ends. -/
  ledger : game.Ledger starts after

namespace Quiet

variable {game other third : Game η ℓ} {starts more : Nat}

/-- A step that moves nothing but what no standing, host or session depends on. -/
theorem of_same (machine : other.machine = game.machine) (host : other.host = game.host)
    (session : other.conversation.session = game.conversation.session) : game.Quiet 0 other :=
  ⟨machine ▸ .refl game.machine, congrArg _ machine, .of_same host session⟩

/-- Nothing moves. -/
theorem refl (game : Game η ℓ) : game.Quiet 0 game := of_same rfl rfl rfl

/-- Two steps in a row. -/
theorem trans (first : game.Quiet starts other) (second : other.Quiet more third) :
    game.Quiet (starts + more) third :=
  ⟨first.standing.trans second.standing, second.queue.trans first.queue,
    first.ledger.trans second.ledger⟩

end Quiet

/-- A step that asks for a state at most, and leaves the running dialog and the host alone. -/
structure Asks (game after : Game η ℓ) : Prop where
  /-- The machine differs in what it asks for. -/
  machine : game.machine.OnlyAsks after.machine
  /-- The session is the same. -/
  session : after.conversation.session = game.conversation.session
  /-- The host is the same. -/
  host : after.host = game.host

namespace Asks

variable {game after : Game η ℓ}

omit [Host η] in
/-- Such a step leaves the sub-states alone. -/
theorem subMachine? (asks : game.Asks after) :
    after.machine.subMachine? = game.machine.subMachine? := asks.machine.subMachine?

omit [Host η] in
/-- Two such steps in a row. -/
theorem trans {third : Game η ℓ} (first : game.Asks after) (second : after.Asks third) :
    game.Asks third :=
  ⟨first.machine.trans second.machine, second.session.trans first.session,
    second.host.trans first.host⟩

/-- Such a step is quiet. -/
theorem quiet (asks : game.Asks after) : game.Quiet 0 after :=
  ⟨asks.machine.agrees, asks.machine.queue, .of_same asks.host asks.session⟩

end Asks

section Asking

omit [Host η]

/-- Asking for a state. -/
theorem requestState_asks (game : Game η ℓ) (request : Request) :
    game.Asks (game.requestState request).value :=
  ⟨game.machine.request_onlyAsks request, rfl, rfl⟩

/-- Handing on what a dialog asked for. -/
theorem forwardRequest_asks (game : Game η ℓ) : game.Asks game.forwardRequest.value.2 := by
  unfold forwardRequest
  dsimp only
  split
  · exact ⟨.refl _, rfl, rfl⟩
  · have asks := requestState_asks { game with conversation := game.conversation.takeRequested.2 }
    exact ⟨(asks _).machine, (asks _).session, (asks _).host⟩

/-- Taking a step of the scenario. -/
theorem advanceScenario_asks (game : Game η ℓ) : game.Asks game.advanceScenario.value.2 := by
  unfold advanceScenario
  split
  · exact ⟨.refl _, rfl, rfl⟩
  · exact ⟨.refl _, rfl, rfl⟩
  · dsimp only [Logged.value_bind]
    split
    · exact ⟨.refl _, rfl, rfl⟩
    · next request _ =>
      have asks (storyline : Storyline) (flags : Flags) :=
        requestState_asks { game with storyline := storyline, flags := flags } request
      exact ⟨(asks _ _).machine, (asks _ _).session, (asks _ _).host⟩

/-- Handing on what a dialog asked for, or else taking a step of the scenario if it is over. -/
theorem handOver_asks (game : Game η ℓ) (progress : Progress) :
    game.Asks
      (if progress = .done ∧ !game.forwardRequest.value.1 then
        Prod.snd <$> game.forwardRequest.value.2.advanceScenario
      else pure game.forwardRequest.value.2).value := by
  split
  · exact game.forwardRequest_asks.trans (advanceScenario_asks _)
  · exact game.forwardRequest_asks

end Asking

omit [Host η] in
/-- Sub-states of which the same one is current, and which have the same to tell, change neither
the standing nor the queue. -/
theorem withSubMachine_keeps {game : Game η ℓ} {old sub : SubMachine}
    (found : game.machine.subMachine? = some old) (current : sub.current = old.current)
    (notices : sub.notices = old.notices) :
    game.machine.Agrees (game.withSubMachine sub).machine ∧
      (game.withSubMachine sub).machine.queue = game.machine.queue :=
  ⟨Machine.agrees_withSubMachine found current, Machine.queue_withSubMachine_of_same found notices⟩

/-- Asking the current sub-state for another one. -/
theorem withSubMachine_request_quiet {game : Game η ℓ} {sub : SubMachine}
    (roaming : game.machine.freeRoam = .ok sub) (next : SubKind) :
    game.Quiet 0 (game.withSubMachine (sub.request next).value) := by
  obtain ⟨-, found⟩ := Machine.freeRoam_eq_ok_iff.1 roaming
  obtain ⟨current, notices⟩ := sub.request_keeps next
  obtain ⟨standing, queue⟩ := withSubMachine_keeps found current notices
  exact ⟨standing, queue, .of_same rfl rfl⟩

/-- Asking free roam for a sub-state. -/
theorem requestSubState_quiet (game : Game η ℓ) (next : SubKind) :
    game.Quiet 0 (game.requestSubState next).value.2 := by
  obtain same | ⟨sub, roaming, -, value⟩ := game.requestSubState_cases next
  · rw [same]
    exact .refl game
  · rw [value]
    exact withSubMachine_request_quiet roaming next

/-- Asking free roam for exploration. -/
theorem requestExploration_quiet (game : Game η ℓ) :
    game.Quiet 0 game.requestExploration.value := by
  obtain same | ⟨sub, roaming, value⟩ := game.requestExploration_cases
  · rw [same]
    exact .refl game
  · rw [value]
    exact withSubMachine_request_quiet roaming .exploration

/-- Plain calls. -/
theorem perform_quiet (game : Game η ℓ) {calls : List Call}
    (plain : ∀ call ∈ calls, call.isPlain = true) : game.Quiet 0 (game.perform calls) :=
  ⟨.refl game.machine, rfl, calls, rfl, .of_plain rfl plain⟩

/-- A turn of the conversation. -/
theorem afterTurn_quiet {game : Game η ℓ} {starts : Nat} {turn : Turn}
    (ledger : game.conversation.Ledger starts turn.calls turn.conversation) :
    game.Quiet starts (game.afterTurn turn) :=
  ⟨.refl game.machine, rfl, turn.calls, rfl, ledger⟩

/-- Starting a dialog, which is possible only while none is running. -/
theorem startDialog_quiet {game : Game η ℓ} {dialog : DialogGraph}
    {started : Logged (Progress × Game η ℓ)} (accepted : game.startDialog dialog = .ok started) :
    game.conversation.isRunning = false ∧ game.Quiet 1 started.value.2 := by
  obtain ⟨turn, opened, value⟩ := startDialog_cases accepted
  obtain ⟨idle, ledger⟩ := Conversation.start_ledger opened
  rw [value]
  refine ⟨?_, afterTurn_quiet ledger⟩
  unfold Conversation.isRunning
  rw [idle]
  rfl

/-- Going on with the running dialog. -/
theorem resumeDialog_quiet (game : Game η ℓ) (tick : Tick) :
    game.Quiet 0 (game.resumeDialog tick).value.2 :=
  afterTurn_quiet (Conversation.resume_ledger ..)

/-- Breaking off the running dialog, which leaves none. -/
theorem abandonDialog_quiet (game : Game η ℓ) :
    game.abandonDialog.value.conversation.isRunning = false ∧
      game.Quiet 0 game.abandonDialog.value := by
  obtain ⟨idle, ledger⟩ := game.conversation.abandon_ledger
  refine ⟨?_, .refl game.machine, rfl, game.conversation.abandon.value.2, rfl, ledger⟩
  change game.conversation.abandon.value.1.isRunning = false
  unfold Conversation.isRunning
  rw [idle]
  rfl

/-- Starting the story over. -/
theorem reset_quiet (game : Game η ℓ) : game.Quiet 0 game.reset.value := by
  obtain ⟨idle, quiet⟩ := game.abandonDialog_quiet
  unfold reset
  dsimp only [Logged.value_bind, Logged.value_pure]
  have session : game.abandonDialog.value.conversation.session = none := by
    unfold Conversation.isRunning at idle
    exact Option.not_isSome_iff_eq_none.1 (by rw [idle]; exact Bool.false_ne_true)
  refine quiet.trans (?_ : Quiet _ 0 _)
  exact .of_same rfl rfl session.symm

/-- Starting the story over if that is pending. -/
theorem resetIfPending_quiet (game : Game η ℓ) : game.Quiet 0 game.resetIfPending.value := by
  unfold resetIfPending
  split
  · exact game.reset_quiet
  · exact .refl game

/-- The scenario dialog goes on. -/
theorem updateEvent_quiet (game : Game η ℓ) (tick : Tick) :
    game.Quiet 0 (game.updateEvent tick).value := by
  rw [updateEvent_value]
  split
  · exact (game.resumeDialog_quiet tick).trans (handOver_asks _ _).quiet
  · exact .refl game

/-- The conversation of free roam goes on. -/
theorem updateFreeRoam_quiet (game : Game η ℓ) (tick : Tick) :
    game.Quiet 0 (game.updateFreeRoam tick).value := by
  rw [updateFreeRoam_value]
  split
  · refine (game.resumeDialog_quiet tick).trans (?_ : Quiet _ 0 _)
    split
    · exact (requestExploration_quiet _).trans (forwardRequest_asks _).quiet
    · exact (forwardRequest_asks _).quiet
  · exact .refl game

/-- The title takes a step. -/
theorem updateTitle_quiet (game : Game η ℓ) (tick : Tick) :
    game.Quiet 0 (game.updateTitle tick).value := by
  unfold updateTitle
  split
  · exact game.resetIfPending_quiet.trans (advanceScenario_asks _).quiet
  · exact .refl game

/-- The loading state hands over. -/
theorem updateLoading_quiet (game : Game η ℓ) : game.Quiet 0 game.updateLoading.value := by
  unfold updateLoading
  split
  · split
    · exact (game.requestState_asks _).quiet
    · exact .refl game
  · exact .refl game

/-- The active state does its part of a tick. -/
theorem updateActive_quiet (game : Game η ℓ) (tick : Tick) :
    game.Quiet 0 (game.updateActive tick).value := by
  unfold updateActive
  split
  · exact game.updateTitle_quiet tick
  · exact game.updateLoading_quiet
  · exact game.updateEvent_quiet tick
  · exact game.updateFreeRoam_quiet tick
  · split
    · exact (game.requestState_asks _).quiet
    · exact .refl game
  · exact .refl game

/-- The scenario dialog starts on entering the event state, if the attempt succeeds. -/
theorem onEventEntered_quiet (game : Game η ℓ) :
    game.Quiet (startsOf game.eventAttempts) game.onEventEntered.value := by
  unfold onEventEntered eventAttempts
  cases game.storyline.dialog with
  | none => exact .refl game
  | some name =>
    dsimp only
    cases game.bundle.dialog name with
    | error _ => exact .refl game
    | ok dialog =>
      dsimp only
      cases accepted : game.startDialog dialog with
      | error error =>
        rw [startsOf_refused ⟨game, dialog⟩ [] accepted]
        exact .refl game
      | ok started =>
        rw [startsOf_accepted ⟨game, dialog⟩ [] accepted]
        exact (startDialog_quiet accepted).2.trans (handOver_asks _ _).quiet

end Game

end Narrative
