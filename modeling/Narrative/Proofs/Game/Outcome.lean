import Narrative.Proofs.Game.Operation
import Narrative.Proofs.Machine.Standing

/-!
# What comes of a step

The steps of a game report what they do, and ask first whether they can be taken. Here stands what
comes of them, without the reports: the game stays as it is, or one of its parts is replaced.
-/

namespace Narrative

/-- The sub-states once a conversation joined them. One that is over already asks for
exploration. -/
def SubMachine.joined (sub : SubMachine) (progress : Progress) : SubMachine :=
  if progress = .done then ((sub.exit.enter .dialog).request .exploration).value
  else sub.exit.enter .dialog

/-- A conversation that joined is current, and what was left for it was told before it. -/
theorem SubMachine.joined_keeps (sub : SubMachine) (progress : Progress) :
    (sub.joined progress).current = some .dialog ∧
      (sub.joined progress).notices = sub.exit.notices ++ [.subEntered .dialog] := by
  unfold joined
  split
  · exact (sub.exit.enter .dialog).request_keeps .exploration
  · exact ⟨rfl, rfl⟩

namespace Game

variable {η ℓ : Type}

/-- Meeting a request changes the machine and the loader only. -/
theorem processRequest_value [SceneLoader ℓ] (game : Game η ℓ) :
    game.processRequest.value =
      { game with
        machine := (game.machine.processRequest game.loader).value.2.1
        loader := (game.machine.processRequest game.loader).value.2.2 } := by
  unfold processRequest
  dsimp only [Logged.value_bind]
  split <;> rfl

/-- Meeting the request of a sub-state changes the sub-states of free roam at most. -/
theorem processSubRequest_cases (game : Game η ℓ) :
    game.processSubRequest.value = game ∨
      ∃ sub, game.machine.freeRoam = .ok sub ∧
        game.processSubRequest.value = game.withSubMachine sub.processRequest.value.2 := by
  unfold processSubRequest
  cases game.machine.freeRoam with
  | error _ => exact .inl rfl
  | ok sub =>
    refine .inr ⟨sub, rfl, ?_⟩
    dsimp only [Logged.value_bind]
    split <;> rfl

/-- Asking free roam for a sub-state is possible while it is active and has that sub-state. -/
theorem requestSubState_cases (game : Game η ℓ) (next : SubKind) :
    (game.requestSubState next).value.2 = game ∨
      ∃ sub, game.machine.freeRoam = .ok sub ∧ sub.isRegistered next = true ∧
        (game.requestSubState next).value.2 = game.withSubMachine (sub.request next).value := by
  unfold requestSubState
  cases game.machine.freeRoam with
  | error _ => exact .inl rfl
  | ok sub =>
    dsimp only
    split
    · next registered => exact .inr ⟨sub, rfl, registered, rfl⟩
    · exact .inl rfl

/-- What comes of asking free roam for exploration while it is active. -/
theorem requestExploration_value {game : Game η ℓ} {sub : SubMachine}
    (roaming : game.machine.freeRoam = .ok sub) :
    game.requestExploration.value = game.withSubMachine (sub.request .exploration).value := by
  unfold requestExploration
  rw [roaming]
  rfl

/-- Asking free roam for exploration is possible while it is active. -/
theorem requestExploration_cases (game : Game η ℓ) :
    game.requestExploration.value = game ∨
      ∃ sub, game.machine.freeRoam = .ok sub ∧
        game.requestExploration.value = game.withSubMachine (sub.request .exploration).value := by
  cases roaming : game.machine.freeRoam with
  | error _ =>
    unfold requestExploration
    rw [roaming]
    exact .inl rfl
  | ok sub => exact .inr ⟨sub, rfl, requestExploration_value roaming⟩

/-- Exploring is possible while free roam is active and can be explored. -/
theorem explore_cases (game : Game η ℓ) :
    game.explore.value = game ∨
      ∃ sub, game.machine.freeRoam = .ok sub ∧ sub.isRegistered .exploration = true ∧
        game.explore.value = game.withSubMachine (sub.exit.enter .exploration) := by
  unfold explore
  cases game.machine.freeRoam with
  | error _ => exact .inl rfl
  | ok sub =>
    dsimp only
    rw [Logged.value_bind, SubMachine.switchTo_value]
    by_cases registered : sub.isRegistered .exploration = true
    · rw [if_pos registered]
      exact .inr ⟨sub, rfl, registered, rfl⟩
    · rw [if_neg registered]
      exact .inl rfl

/-- The game once a conversation joined free roam: the conversation got its sub-state, and what it
asked for was handed on. -/
def joined (game : Game η ℓ) (sub : SubMachine) (progress : Progress) : Game η ℓ :=
  (game.withSubMachine (sub.joined progress)).forwardRequest.value.2

/-- What comes of a conversation that is to join free roam. -/
theorem joinDialog_value (game : Game η ℓ) (progress : Progress) :
    (game.joinDialog progress).value =
      match game.machine.freeRoam with
      | .error error => .error error
      | .ok sub =>
        if sub.isRegistered .dialog then .ok (game.joined sub progress)
        else .error (.unknownSubState .dialog) := by
  unfold joinDialog
  cases game.machine.freeRoam with
  | error _ => rfl
  | ok sub =>
    dsimp only
    rw [Logged.value_bind, SubMachine.switchTo_value]
    unfold joined SubMachine.joined
    by_cases registered : sub.isRegistered .dialog = true
    · rw [if_pos registered, if_pos registered]
      by_cases ended : progress = .done
      · simp only [if_pos ended]
        rfl
      · simp only [if_neg ended]
        rfl
    · rw [if_neg registered, if_neg registered]
      rfl

/-- A conversation joins free roam where that has a sub-state for it. -/
theorem joinDialog_joined {game : Game η ℓ} {sub : SubMachine}
    (roaming : game.machine.freeRoam = .ok sub) (registered : sub.isRegistered .dialog = true)
    (progress : Progress) : (game.joinDialog progress).value = .ok (game.joined sub progress) := by
  rw [joinDialog_value, roaming]
  exact if_pos registered

/-- A character can be talked to only while free roam is explored. -/
theorem approachable_cases {game : Game η ℓ} {sub : SubMachine}
    (approachable : game.approachable = .ok sub) :
    game.machine.freeRoam = .ok sub ∧ sub.current = some .exploration ∧
      sub.isRegistered .dialog = true := by
  unfold Game.approachable at approachable
  split at approachable
  · cases approachable
  · next roaming =>
    split at approachable
    · cases approachable
    · next exploring =>
      split at approachable
      · next registered =>
        obtain rfl := Except.ok.inj approachable
        exact ⟨roaming, exploring, registered⟩
      · cases approachable
    · cases approachable

variable [Host η]

/-- A dialog is started by a turn of the conversation. -/
theorem startDialog_ok {game : Game η ℓ} {dialog : DialogGraph}
    {started : Logged (Progress × Game η ℓ)} (accepted : game.startDialog dialog = .ok started) :
    ∃ turn, game.conversation.start dialog (Host.music game.host) game.flags = .ok turn ∧
      started = (fun turn => (turn.progress, game.afterTurn turn)) <$> turn := by
  unfold startDialog at accepted
  split at accepted
  · cases accepted
  · next turn opened => exact ⟨turn, opened, (Except.ok.inj accepted).symm⟩

/-- What the turn that starts a dialog leaves. -/
theorem startDialog_cases {game : Game η ℓ} {dialog : DialogGraph}
    {started : Logged (Progress × Game η ℓ)} (accepted : game.startDialog dialog = .ok started) :
    ∃ turn, game.conversation.start dialog (Host.music game.host) game.flags = .ok turn ∧
      started.value = (turn.value.progress, game.afterTurn turn.value) := by
  obtain ⟨turn, opened, rfl⟩ := startDialog_ok accepted
  exact ⟨turn, opened, rfl⟩

/-- Starting a dialog leaves the machine and the scenario as they are. -/
theorem startDialog_keeps {game : Game η ℓ} {dialog : DialogGraph}
    {started : Logged (Progress × Game η ℓ)} (accepted : game.startDialog dialog = .ok started) :
    started.value.2.machine = game.machine ∧ started.value.2.storyline = game.storyline := by
  obtain ⟨turn, -, value⟩ := startDialog_cases accepted
  rw [value]
  exact ⟨rfl, rfl⟩

/-- What talking to a character comes to: what is observed of the dialog that is attempted and of
the game that settles once the conversation has joined it, and the game that is left. -/
inductive Talks {α : Type} (game : Game η ℓ) (attempted : DialogGraph → List α)
    (observe : Game η ℓ → List α) : List α → Game η ℓ → Prop where
  /-- Nobody can be talked to now, or the character offers nothing. -/
  | declined : game.Talks attempted observe [] game
  /-- The dialog on offer cannot be started. -/
  | refused {sub : SubMachine} (approachable : game.approachable = .ok sub) (dialog : DialogGraph)
      {error : StartError} (refused : game.startDialog dialog = .error error) :
      game.Talks attempted observe (attempted dialog) game
  /-- The dialog on offer is started, the offer is noted, and the conversation joins free roam. -/
  | accepted {sub : SubMachine} (approachable : game.approachable = .ok sub)
      (dialog : DialogGraph) {started : Logged (Progress × Game η ℓ)}
      (accepted : game.startDialog dialog = .ok started) {turned : Game η ℓ}
      (repertoire : Repertoire)
      (noted : turned = { started.value.2 with repertoire := repertoire }) :
      game.Talks attempted observe
        (attempted dialog ++ observe (turned.joined sub started.value.1))
        (turned.joined sub started.value.1).settle.value

/-- What comes of talking to a character, whatever is observed of it. -/
theorem talkTo_talks {α : Type} (game : Game η ℓ) (attempted : DialogGraph → List α)
    (observe : Game η ℓ → List α) (character : String) :
    game.Talks attempted observe (game.talkTrace attempted observe character)
      (game.talkTo character).value.2 := by
  unfold talkTo talkTrace
  cases approachable : game.approachable with
  | error _ => exact .declined
  | ok sub =>
    obtain ⟨roaming, -, registered⟩ := approachable_cases approachable
    dsimp only
    rw [Logged.value_bind]
    obtain error | ⟨name, dialog, repertoire⟩ := (game.offerOf character).value
    · exact .declined
    · dsimp only
      rw [Logged.value_bind]
      cases accepted : game.startDialog dialog with
      | error error =>
        dsimp only
        rw [List.append_nil]
        exact .refused approachable dialog accepted
      | ok started =>
        let turned : Game η ℓ := { started.value.2 with repertoire := repertoire }
        have roams : turned.machine.freeRoam = .ok sub :=
          (congrArg Machine.freeRoam (startDialog_keeps accepted).1).trans roaming
        have joining := joinDialog_joined roams registered started.value.1
        have noted : turned = { started.value.2 with repertoire := repertoire } := rfl
        dsimp only
        rw [Logged.value_bind]
        unfold turnToDialog turnTrace
        rw [Logged.value_bind, joining]
        exact .accepted approachable dialog accepted repertoire noted

/-- The attempts that talking to a character makes, and the game that it leaves. -/
abbrev Talked (game : Game η ℓ) (attempts : List (Attempt η ℓ)) (after : Game η ℓ) : Prop :=
  game.Talks (fun dialog => [⟨game, dialog⟩]) settleAttempts attempts after

/-- What comes of talking to a character. -/
theorem talkTo_talked (game : Game η ℓ) (character : String) :
    game.Talked (game.talkAttempts character) (game.talkTo character).value.2 :=
  game.talkTo_talks _ settleAttempts character

/-- What comes of the scenario dialog in a tick. -/
theorem updateEvent_value (game : Game η ℓ) (tick : Tick) :
    (game.updateEvent tick).value =
      if game.conversation.isRunning then
        let turned := (game.resumeDialog tick).value.2
        (if (game.resumeDialog tick).value.1 = .done ∧ !turned.forwardRequest.value.1 then
          Prod.snd <$> turned.forwardRequest.value.2.advanceScenario
        else pure turned.forwardRequest.value.2).value
      else game := by
  unfold updateEvent
  split <;> rfl

/-- What comes of the conversation of free roam in a tick. -/
theorem updateFreeRoam_value (game : Game η ℓ) (tick : Tick) :
    (game.updateFreeRoam tick).value =
      if game.inConversation then
        (if (game.resumeDialog tick).value.1 = .done then
          (game.resumeDialog tick).value.2.requestExploration.value
        else (game.resumeDialog tick).value.2).forwardRequest.value.2
      else game := by
  unfold updateFreeRoam
  split
  · dsimp only [Logged.value_bind, Logged.value_pure]
    split <;> rfl
  · rfl

/-- What comes of entering free roam: an event for the host, or exploration. -/
theorem onFreeRoamEntered_cases (game : Game η ℓ) :
    (∃ event, game.onFreeRoamEntered.value =
        game.resetIfPending.value.perform [.emit event]) ∨
      game.onFreeRoamEntered.value = game.resetIfPending.value.explore.value := by
  unfold onFreeRoamEntered
  rw [Logged.value_bind, Logged.value_bind]
  split
  · next event _ => exact .inl ⟨event, rfl⟩
  · exact .inr rfl

/-- What comes of opening a game: its first state is entered, and that is told. -/
theorem ofBundle_cases {bundle : Bundle} {config : Config} {host : η} {loader : ℓ}
    {opened : Game η ℓ} (valid : (Game.ofBundle bundle config host loader).value = .ok opened) :
    ∃ machine,
      ((Machine.ofPlan config.states config.tracing).enterState config.states.startup).value =
        .ok machine ∧
      opened =
        (unopened bundle config machine ((Storyline.empty config.tracing).load
          bundle.scenario).value host loader).settle.value := by
  unfold ofBundle at valid
  rw [Logged.value_bind] at valid
  cases entered :
      ((Machine.ofPlan config.states config.tracing).enterState config.states.startup).value with
  | error _ =>
    rw [entered] at valid
    cases valid
  | ok machine =>
    rw [entered] at valid
    obtain rfl := Except.ok.inj valid
    exact ⟨machine, rfl, rfl⟩

end Game

end Narrative
