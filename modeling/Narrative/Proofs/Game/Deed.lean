import Narrative.Proofs.Game.Settling
import Narrative.Proofs.Game.Story
import Narrative.Proofs.Machine.Resolved

/-!
# What a game does

Whatever happens to a game, its flags, its storyline, its conversation and its repertoire change in
a few ways only, which are its deeds. A deed tells what becomes of the story in it, what is reported
on the way, and the game that it leaves. Every operation is a row of deeds, so that what each deed
keeps is kept by every run.
-/

namespace Narrative

/-- Whether an operation changes the flags from outside only in a way that is permitted. -/
def Operation.ChangesFlags {η ℓ : Type} (permitted : (Flags → Flags) → Prop) :
    Operation η ℓ → Prop
  | flags change => permitted change
  | _ => True

/-- Where every change is permitted, every operation is. -/
theorem Operation.changesFlags {η ℓ : Type} (operation : Operation η ℓ) :
    operation.ChangesFlags fun _ => True := by
  cases operation <;> trivial

namespace Game

variable {η ℓ : Type} [Host η]

/-- One deed of a game. -/
inductive Deed (permitted : (Flags → Flags) → Prop) (game : Game η ℓ) :
    List (StoryEvent η ℓ) → List Entry → Game η ℓ → Prop where
  /-- What surrounds the story changes. -/
  | surroundings (machine : Machine) (resetPending : Bool) (host : η) (loader : ℓ) :
    Deed permitted game [] []
      { game with machine := machine, resetPending := resetPending, host := host, loader := loader }
  /-- Something is reported that has nothing to do with undeclared names. -/
  | reports {α : Type} {report : Logged α} (resolved : report.Resolved) :
    Deed permitted game [] report.entries game
  /-- A dialog of the bundle is started. -/
  | begins {name : String} {dialog : DialogGraph} {started : Logged (Progress × Game η ℓ)}
      (stored : game.bundle.dialog name = .ok dialog)
      (accepted : game.startDialog dialog = .ok started) :
    Deed permitted game [] started.entries started.value.2
  /-- The running dialog goes on. -/
  | resumes (tick : Tick) :
    Deed permitted game [] (game.resumeDialog tick).entries (game.resumeDialog tick).value.2
  /-- The running dialog is broken off. -/
  | breaksOff : Deed permitted game [] game.abandonDialog.entries game.abandonDialog.value
  /-- What a dialog asked for is handed on. -/
  | handsOn :
    Deed permitted game [] [] { game with conversation := game.conversation.takeRequested.2 }
  /-- A character is asked what it offers. -/
  | consults (character : String) :
    Deed permitted game []
      (game.repertoire.select game.bundle character game.flags).entries game
  /-- What a character offers, or offered under some flags before, is noted. -/
  | notes (character : String) (flags : Flags) :
    Deed permitted game [] []
      { game with repertoire := (game.repertoire.select game.bundle character flags).value.2 }
  /-- The scenario takes a step. -/
  | steps :
    Deed permitted game [.stepped (game.storyline.advance game.flags).value.1]
      (game.storyline.advance game.flags).entries
      { game with
        storyline := (game.storyline.advance game.flags).value.2.1
        flags := (game.storyline.advance game.flags).value.2.2 }
  /-- The story starts over. -/
  | restarts : Deed permitted game [.restarted game] game.reset.entries game.reset.value
  /-- A request is taken. -/
  | takes (request : Request) : Deed permitted game [.taken request] [] game
  /-- The flags are changed from outside. -/
  | rewrites {change : Flags → Flags} (allowed : permitted change) :
    Deed permitted game [] [] { game with flags := change game.flags }

/-- Deeds in a row. -/
inductive Deeds (permitted : (Flags → Flags) → Prop) :
    Game η ℓ → List (StoryEvent η ℓ) → List Entry → Game η ℓ → Prop where
  /-- No deed. -/
  | none (game : Game η ℓ) : Deeds permitted game [] [] game
  /-- A deed before others. -/
  | more {game between after : Game η ℓ} {story later : List (StoryEvent η ℓ)}
      {entries others : List Entry} (deed : game.Deed permitted story entries between)
      (rest : Deeds permitted between later others after) :
    Deeds permitted game (story ++ later) (entries ++ others) after

namespace Deeds

variable {permitted : (Flags → Flags) → Prop} {game between after : Game η ℓ}
  {story later : List (StoryEvent η ℓ)} {entries others : List Entry}

/-- A single deed. -/
theorem single (deed : game.Deed permitted story entries after) :
    game.Deeds permitted story entries after := by
  have row := Deeds.more deed (.none after)
  rwa [List.append_nil, List.append_nil] at row

/-- Deeds after deeds. -/
theorem append (first : game.Deeds permitted story entries between)
    (second : between.Deeds permitted later others after) :
    game.Deeds permitted (story ++ later) (entries ++ others) after := by
  induction first with
  | none => exact second
  | more deed _ ih =>
    rw [List.append_assoc, List.append_assoc]
    exact .more deed (ih second)

end Deeds

/-- What a function of a game comes to is a row of deeds, the last of which leaves a game that is
part of its outcome. -/
def Does {α : Type} (permitted : (Flags → Flags) → Prop) (game : Game η ℓ)
    (story : List (StoryEvent η ℓ)) (outcome : Logged α) (left : α → Game η ℓ) : Prop :=
  game.Deeds permitted story outcome.entries (left outcome.value)

namespace Does

variable {permitted : (Flags → Flags) → Prop} {game : Game η ℓ}
  {story later : List (StoryEvent η ℓ)} {α β : Type} {left : α → Game η ℓ} {last : β → Game η ℓ}

/-- A single deed. -/
theorem of_deed {outcome : Logged α}
    (deed : game.Deed permitted story outcome.entries (left outcome.value)) :
    game.Does permitted story outcome left := .single deed

/-- Nothing is done. -/
theorem pure {value : α} (same : left value = game) :
    game.Does permitted [] (Pure.pure value) left := same ▸ Deeds.none (left value)

/-- Something is done with what was left before. -/
theorem bind {first : Logged α} {next : α → Logged β}
    (before : game.Does permitted story first left)
    (rest : (left first.value).Does permitted later (next first.value) last) :
    game.Does permitted (story ++ later) (first >>= next) last := before.append rest

/-- Something is done after nothing became of the story. -/
theorem bind_silent {first : Logged α} {next : α → Logged β}
    (before : game.Does permitted [] first left)
    (rest : (left first.value).Does permitted story (next first.value) last) :
    game.Does permitted story (first >>= next) last := bind before rest

/-- Nothing becomes of the story after something was done. -/
theorem bind_last {first : Logged α} {next : α → Logged β}
    (before : game.Does permitted story first left)
    (rest : (left first.value).Does permitted [] (next first.value) last) :
    game.Does permitted story (first >>= next) last := by
  have row := bind before rest
  rwa [List.append_nil] at row

/-- Something is done after a report. -/
theorem after {first : Logged β} {next : β → Logged α} (resolved : first.Resolved)
    (rest : game.Does permitted story (next first.value) left) :
    game.Does permitted story (first >>= next) left := by
  have reported : game.Does permitted [] first fun _ => game := of_deed (.reports resolved)
  exact bind_silent reported rest

/-- The outcome is read off in two steps. -/
theorem map {first : Logged β} {change : β → α}
    (before : game.Does permitted story first fun value => left (change value)) :
    game.Does permitted story (change <$> first) left := bind_last before (pure rfl)

/-- Only what surrounds the story changes. -/
theorem of_surroundings {outcome : Logged α} (resolved : outcome.Resolved)
    (value : left outcome.value =
      { game with
        machine := (left outcome.value).machine
        resetPending := (left outcome.value).resetPending
        host := (left outcome.value).host
        loader := (left outcome.value).loader }) :
    game.Does permitted [] outcome left := by
  have changed : game.Deed permitted [] [] _ := .surroundings (left outcome.value).machine
    (left outcome.value).resetPending (left outcome.value).host (left outcome.value).loader
  rw [← value] at changed
  unfold Does
  rw [← List.append_nil outcome.entries]
  exact (Deeds.single (.reports resolved)).append (.single changed)

end Does

variable (permitted : (Flags → Flags) → Prop) (game : Game η ℓ)

/-- A state is asked for. -/
theorem requestState_does (request : Request) :
    game.Does permitted [] (game.requestState request) id :=
  .of_surroundings (.map (game.machine.request_resolved request) _) rfl

/-- What a dialog asked for is handed on. -/
theorem forwardRequest_does : game.Does permitted [] game.forwardRequest Prod.snd := by
  unfold forwardRequest
  dsimp only
  split
  · exact .pure rfl
  · have handed : game.Deeds permitted [] [] _ := .single .handsOn
    exact .bind_silent (handed.append (requestState_does permitted _ _)) (.pure rfl)

/-- The scenario takes a step, unless it is deferred. -/
theorem advanceScenario_does :
    game.Does permitted game.stepStory game.advanceScenario Prod.snd := by
  have deferred : game.Does permitted [] (advanceScenario.defer game) Prod.snd :=
    .after (.note (by decide) _) (.pure rfl)
  have stepped : game.Does permitted [.stepped (game.storyline.advance game.flags).value.1]
      (game.storyline.advance game.flags)
      fun came => { game with storyline := came.2.1, flags := came.2.2 } := .of_deed .steps
  unfold stepStory advanceScenario
  cases game.machine.active? with
  | none => exact deferred
  | some kind =>
    cases kind with
    | loading => exact deferred
    | _ =>
      refine .bind_last stepped (.after (.optional (by decide) _ _ _) ?_)
      dsimp only
      split
      · exact .pure rfl
      · exact .bind_silent (requestState_does permitted _ _) (.pure rfl)

/-- A scenario dialog that is over hands on what it asked for, or has the scenario take a step. -/
theorem handOver_does (progress : Progress) :
    game.Does permitted (game.handOverStory progress)
      (do
        let (forwarded, game) ← game.forwardRequest
        if progress = .done ∧ !forwarded then Prod.snd <$> game.advanceScenario else pure game)
      id := by
  refine .bind_silent (forwardRequest_does permitted game) ?_
  unfold handOverStory
  dsimp only
  split
  · exact .map (advanceScenario_does permitted _)
  · exact .pure rfl

/-- The running dialog goes on. -/
theorem resumeDialog_does (tick : Tick) :
    game.Does permitted [] (game.resumeDialog tick) Prod.snd := .of_deed (.resumes tick)

/-- The story starts over if that is pending. -/
theorem resetIfPending_does : game.Does permitted game.pendingStory game.resetIfPending id := by
  unfold resetIfPending pendingStory
  split
  · exact .of_deed .restarts
  · exact .pure rfl

/-- Free roam is asked for exploration. -/
theorem requestExploration_does : game.Does permitted [] game.requestExploration id := by
  unfold requestExploration
  split
  · exact .of_surroundings (.map (SubMachine.request_resolved _ _) _) rfl
  · exact .pure rfl

/-- The scenario dialog goes on. -/
theorem updateEvent_does (tick : Tick) :
    game.Does permitted (game.updateEventStory tick) (game.updateEvent tick) id := by
  unfold updateEvent updateEventStory
  split
  · exact .bind_silent (resumeDialog_does permitted game tick) (handOver_does permitted _ _)
  · exact .pure rfl

/-- The conversation of free roam goes on. -/
theorem updateFreeRoam_does (tick : Tick) :
    game.Does permitted [] (game.updateFreeRoam tick) id := by
  unfold updateFreeRoam
  split
  · refine .bind_silent (resumeDialog_does permitted game tick) ?_
    have handed (gone : Game η ℓ) :
        gone.Does permitted [] (do let (_, game) ← gone.forwardRequest; pure game) id :=
      .bind_silent (forwardRequest_does permitted gone) (.pure rfl)
    dsimp only
    split
    · exact .bind_silent (requestExploration_does permitted _) (handed _)
    · exact .after (.pure _) (handed _)
  · exact .pure rfl

/-- The title takes a step. -/
theorem updateTitle_does (tick : Tick) :
    game.Does permitted (game.updateTitleStory tick) (game.updateTitle tick) id := by
  unfold updateTitle updateTitleStory
  split
  · exact .bind (resetIfPending_does permitted game) (.map (advanceScenario_does permitted _))
  · exact .pure rfl

/-- The active state does its part of a tick. -/
theorem updateActive_does (tick : Tick) :
    game.Does permitted (game.activeStory tick) (game.updateActive tick) id := by
  unfold updateActive activeStory
  cases game.machine.active? with
  | none => exact .pure rfl
  | some kind =>
    cases kind with
    | title => exact updateTitle_does permitted game tick
    | event => exact updateEvent_does permitted game tick
    | freeRoam => exact updateFreeRoam_does permitted game tick
    | loading =>
      dsimp only
      unfold updateLoading
      split
      · split
        · exact requestState_does permitted game _
        · exact .pure rfl
      · exact .pure rfl
    | creditRoll =>
      dsimp only
      split
      · exact requestState_does permitted game _
      · exact .pure rfl
    | _ => exact .pure rfl

/-- The player explores. -/
theorem explore_does : game.Does permitted [] game.explore id := by
  unfold explore
  split
  · exact .pure rfl
  · refine .after (SubMachine.switchTo_resolved _ _) ?_
    split
    · exact .of_surroundings (.pure _) rfl
    · exact .after (.note (by decide) _) (.pure rfl)

omit [Host η] in
/-- The rule for an entry reads a flag that may be undeclared. That is reported by an entry of its
own kind. -/
theorem entryEvent?_resolved : game.entryEvent?.Resolved := by
  unfold entryEvent?
  split
  · exact .pure _
  · next rule _ =>
    refine .bind ?_ (.pure _)
    unfold ruleHolds
    split
    · exact .pure _
    · have begun : (toString "entry rule reads undeclared flag '").toList.head? = some 'e' := rfl
      exact .bind (.worded (begins (begins begun (toString rule.flag)) _) (by decide) _ _) (.pure _)

/-- Free roam was entered. -/
theorem onFreeRoamEntered_does :
    game.Does permitted game.pendingStory game.onFreeRoamEntered id := by
  refine .bind_last (resetIfPending_does permitted game) ?_
  refine .after (entryEvent?_resolved _) ?_
  split
  · exact .after (.note (by decide) _) (.of_surroundings (.pure _) rfl)
  · exact explore_does permitted _

/-- Event was entered. -/
theorem onEventEntered_does : game.Does permitted game.eventStory game.onEventEntered id := by
  unfold onEventEntered eventStory
  cases game.storyline.dialog with
  | none => exact .after (.note (by decide) _) (.pure rfl)
  | some name =>
    dsimp only
    cases stored : game.bundle.dialog name with
    | error error => exact .after (.note (by decide) _) (.pure rfl)
    | ok dialog =>
      dsimp only
      cases accepted : game.startDialog dialog with
      | error error => exact .after (.note (by decide) _) (.pure rfl)
      | ok started =>
        have begun : game.Does permitted [] started Prod.snd := .of_deed (.begins stored accepted)
        exact .bind_silent begun (handOver_does permitted _ _)

/-- A reaction. -/
theorem react_does (notice : Notice) :
    game.Does permitted (game.reactionStory notice) (game.react notice) id := by
  refine .after (.optional (by decide) _ _ _) ?_
  cases notice with
  | entered kind =>
    cases kind with
    | freeRoam => exact onFreeRoamEntered_does permitted game
    | event => exact onEventEntered_does permitted game
    | _ => exact .of_surroundings (.pure _) rfl
  | exited kind =>
    cases kind with
    | freeRoam => exact .of_deed .breaksOff
    | event => exact .of_deed .breaksOff
    | _ => exact .pure rfl
  | subExited kind =>
    cases kind with
    | dialog => exact .of_deed .breaksOff
    | _ => exact .pure rfl
  | _ => exact .pure rfl

/-- Reactions in order. -/
theorem reactAll_does (notices : List Notice) :
    game.Does permitted (game.batchTrace reactionStory notices) (game.reactAll notices) id := by
  induction notices generalizing game with
  | nil => exact .pure rfl
  | cons notice rest ih => exact .bind (react_does permitted game notice) (ih _)

/-- Batches of reactions. -/
theorem reactBatches_does (bound : Nat) :
    game.Does permitted (game.batchesTrace (reactionTrace reactionStory) bound)
      (reactBatches bound game) id := by
  induction bound generalizing game with
  | zero => exact .pure rfl
  | succ bound ih =>
    unfold reactBatches batchesTrace
    dsimp only
    split
    · exact .of_surroundings (.pure _) rfl
    · have taken : game.Deeds permitted [] [] (game.withMachine game.machine.takeNotices.2) :=
        .single (.surroundings _ _ _ _)
      exact taken.append (Does.bind (reactAll_does permitted _ _) (ih _))

/-- The changes that wait to be told are told. -/
theorem settle_does : game.Does permitted game.settleStory game.settle id :=
  reactBatches_does permitted game 3

omit [Host η] in
/-- What a character offers is that of the repertoire, and a dialog of the bundle. -/
theorem offerOf_cases (character : String) :
    (game.offerOf character).entries =
        (game.repertoire.select game.bundle character game.flags).entries ∧
      ∀ name dialog repertoire, (game.offerOf character).value = .ok (name, dialog, repertoire) →
        game.bundle.dialog name = .ok dialog ∧
          repertoire = (game.repertoire.select game.bundle character game.flags).value.2 := by
  unfold offerOf
  constructor
  · refine (congrArg (_ ++ ·) ?_).trans (List.append_nil _)
    dsimp only
    split
    · rfl
    · split <;> rfl
  · intro name dialog repertoire offered
    rw [Logged.value_bind] at offered
    dsimp only at offered
    split at offered
    · cases offered
    · next other _ =>
      split at offered
      · cases offered
      · next stored =>
        cases offered
        exact ⟨stored, rfl⟩

/-- A conversation that was started gets its sub-state, if free roam has it. -/
theorem joinDialog_does (progress : Progress) :
    game.Does permitted [] (game.joinDialog progress) fun joined => joined.toOption.getD game := by
  unfold joinDialog
  split
  · exact .pure rfl
  · refine .after (SubMachine.switchTo_resolved _ _) ?_
    split
    · exact .pure rfl
    · have handed (sub : SubMachine) : game.Does permitted [] (do
          let (_, game) ← (game.withSubMachine sub).forwardRequest
          pure (Except.ok game : Except MachineError (Game η ℓ)))
          fun joined => joined.toOption.getD game := by
        have moved : game.Deeds permitted [] [] (game.withSubMachine sub) :=
          .single (.surroundings _ _ _ _)
        exact moved.append (Does.bind_silent (forwardRequest_does permitted _) (.pure rfl))
      dsimp only
      split
      · exact .after (SubMachine.request_resolved _ _) (handed _)
      · exact .after (.pure _) (handed _)

/-- A conversation that was started is turned to. -/
theorem turnToDialog_does (progress : Progress) :
    game.Does permitted (game.turnTrace settleStory progress) (game.turnToDialog progress)
      Prod.snd := by
  have joins := joinDialog_does permitted game progress
  unfold turnToDialog turnTrace
  refine .bind_silent joins ?_
  cases (game.joinDialog progress).value with
  | error error => exact .pure rfl
  | ok joined => exact .bind_last (settle_does permitted joined) (.pure rfl)

/-- The player talks to a character. -/
theorem talkTo_does (character : String) :
    game.Does permitted (game.talkStory character) (game.talkTo character) Prod.snd := by
  obtain ⟨entries, offers⟩ := game.offerOf_cases character
  have consulted : game.Does permitted [] (game.offerOf character) fun _ => game := by
    unfold Does
    rw [entries]
    exact .single (.consults character)
  unfold talkTo talkStory talkTrace
  cases game.approachable with
  | error _ => exact .pure rfl
  | ok _ =>
    refine .bind_silent consulted ?_
    cases offered : (game.offerOf character).value with
    | error _ => exact .pure rfl
    | ok offer =>
      obtain ⟨name, dialog, repertoire⟩ := offer
      obtain ⟨stored, rfl⟩ := offers name dialog repertoire offered
      refine .after (.note (by decide) _) ?_
      dsimp only
      cases accepted : game.startDialog dialog with
      | error _ => exact .pure rfl
      | ok started =>
        have begun : game.Does permitted [] started Prod.snd := .of_deed (.begins stored accepted)
        refine .bind_silent begun ?_
        have same : started.value.2.repertoire.select started.value.2.bundle character game.flags =
            game.repertoire.select game.bundle character game.flags := by
          obtain ⟨turn, -, value⟩ := startDialog_cases accepted
          rw [value]
          rfl
        have noted : started.value.2.Deed permitted [] [] _ := .notes character game.flags
        rw [same] at noted
        exact (Deeds.single noted).append (turnToDialog_does permitted _ _)

/-- Free roam is asked for a sub-state. -/
theorem requestSubState_does (next : SubKind) :
    game.Does permitted [] (game.requestSubState next) Prod.snd := by
  unfold requestSubState
  split
  · exact .pure rfl
  · split
    · refine .of_surroundings (.bind (SubMachine.request_resolved _ _) (.pure _)) rfl
    · exact .after (.note (by decide) _) (.pure rfl)

section Operations

variable [SceneLoader ℓ]

/-- The scene of the current state is asked for. -/
theorem pollScene_does : game.Does permitted [] game.pollScene id :=
  .of_surroundings (.bind (game.machine.pollScene_resolved game.loader) (.pure _)) rfl

/-- The request of the current state is met. -/
theorem processRequest_does : game.Does permitted game.requestStory game.processRequest id := by
  have met : game.Does permitted [] game.processRequest id := by
    refine .of_surroundings (.bind (game.machine.processRequest_resolved game.loader) ?_) ?_
    · dsimp only
      split
      · exact .bind (.note (by decide) _) (.pure _)
      · exact .pure _
    · rw [processRequest_value]
      rfl
  unfold requestStory
  cases game.machine.pendingRequest? with
  | none => exact met
  | some request =>
    have taken : game.Deeds permitted [.taken request] [] game := .single (.takes request)
    exact taken.append met

omit [SceneLoader ℓ] in
/-- The request of the current sub-state is met. -/
theorem processSubRequest_does : game.Does permitted [] game.processSubRequest id := by
  unfold processSubRequest
  split
  · exact .pure rfl
  · refine .after (SubMachine.processRequest_resolved _) ?_
    dsimp only
    split
    · exact .after (.note (by decide) _) (.of_surroundings (.pure _) rfl)
    · exact .of_surroundings (.pure _) rfl

/-- The active state and the requests move. -/
theorem proceed_does (tick : Tick) :
    game.Does permitted (game.proceedStory tick) (game.proceed tick) id :=
  .bind (updateActive_does permitted game tick) <|
    .bind_last (processRequest_does permitted _) (processSubRequest_does permitted _)

/-- A tick. -/
theorem tick_does (tick : Tick) :
    game.Does permitted (game.tickStory tick) (game.tick tick) id := by
  unfold tickStory
  rw [List.append_assoc]
  exact .bind_silent (pollScene_does permitted game) <| .bind (settle_does permitted _) <|
    .bind (proceed_does permitted _ tick) (settle_does permitted _)

/-- What an operation reports. -/
def report (game : Game η ℓ) : Operation η ℓ → List Entry
  | .tick tick => (game.tick tick).entries
  | .talkTo character => (game.talkTo character).entries
  | .openMenu => game.openMenu.entries
  | .closeMenu => game.closeMenu.entries
  | .requestState request => (game.requestState request).entries
  | .advanceScenario => game.advanceScenario.entries
  | .reset => game.reset.entries
  | _ => []

/-- What operations in order report. -/
def runReport (game : Game η ℓ) : List (Operation η ℓ) → List Entry
  | [] => []
  | operation :: rest => game.report operation ++ (game.apply operation).runReport rest

variable {permitted game}

/-- Every operation is a row of deeds. -/
theorem apply_deeds {operation : Operation η ℓ} (changes : operation.ChangesFlags permitted) :
    game.Deeds permitted (game.story operation) (game.report operation) (game.apply operation) := by
  cases operation with
  | tick tick => exact tick_does permitted game tick
  | talkTo character => exact talkTo_does permitted game character
  | openMenu => exact requestSubState_does permitted game .menu
  | closeMenu => exact requestSubState_does permitted game .exploration
  | requestState request => exact requestState_does permitted game request
  | advanceScenario => exact advanceScenario_does permitted game
  | reset => exact .single .restarts
  | flags change => exact .single (.rewrites changes)
  | _ => exact .single (.surroundings _ _ _ _)

/-- Every run is a row of deeds. -/
theorem runAll_deeds {operations : List (Operation η ℓ)}
    (changes : ∀ operation ∈ operations, operation.ChangesFlags permitted) :
    game.Deeds permitted (game.runStory operations) (game.runReport operations)
      (game.runAll operations) := by
  induction operations generalizing game with
  | nil => exact .none game
  | cons operation rest ih =>
    exact (apply_deeds (changes operation List.mem_cons_self)).append
      (ih fun other member => changes other (List.mem_cons_of_mem _ member))

end Operations

/-- A game is opened by deeds, from a game in which nothing has become of the story. -/
theorem ofBundle_deeds {bundle : Bundle} {config : Config} {host : η} {loader : ℓ}
    {opened : Game η ℓ} (valid : (Game.ofBundle bundle config host loader).value = .ok opened) :
    let entering := (Machine.ofPlan config.states config.tracing).enterState config.states.startup
    let loading := (Storyline.empty config.tracing).load bundle.scenario
    ∃ machine entries,
      (Game.ofBundle bundle config host loader).entries =
        entering.entries ++ (loading.entries ++ entries) ∧
      (unopened bundle config machine loading.value host loader).Deeds permitted
        (openingStory bundle config host loader) entries opened := by
  intro entering loading
  obtain ⟨machine, entered, rfl⟩ := ofBundle_cases valid
  let started : Game η ℓ := unopened bundle config machine loading.value host loader
  refine ⟨machine, started.settle.entries, ?_, ?_⟩
  · unfold ofBundle
    rw [Logged.entries_bind, entered]
    dsimp only
    rw [Logged.entries_bind, Logged.entries_bind, Logged.entries_pure, List.append_nil]
  · unfold openingStory openingTrace
    rw [entered]
    exact settle_does permitted started

end Game

end Narrative
