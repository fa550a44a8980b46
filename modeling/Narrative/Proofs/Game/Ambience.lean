import Narrative.Proofs.Conversation.Ambience
import Narrative.Proofs.Game.Telling

/-!
# The ambient music of a game

Whatever dialogs are played, the music that plays without them is set by two things only: whoever
surrounds the game may change it between two operations, and the loading state silences it. A
dialog that loses its place is broken off before the loading state is told to be entered, so that
the music it brings back does not outlast the silence.
-/

namespace Narrative

open Recorder (musicAfter)

/-- Whether a notice silences the music. -/
def Notice.silences (notice : Notice) : Bool := decide (notice = .entered .loading)

/-- What silences the music among some notices that are told, in order. -/
def Telling.silences {η ℓ : Type} (tellings : List (Telling η ℓ)) : List (Option String) :=
  (tellings.filter fun telling => telling.notice.silences).map fun _ => none

/-- What silences the music among notices that wait in one game. -/
theorem Telling.silences_map {η ℓ : Type} (game : Game η ℓ) (notices : List Notice) :
    Telling.silences (notices.map (Telling.mk game)) =
      (notices.filter Notice.silences).map fun _ => none := by
  unfold Telling.silences
  rw [List.filter_map, List.map_map]
  rfl

/-- What silences the music among notices in a row. -/
theorem Telling.silences_append {η ℓ : Type} (first second : List (Telling η ℓ)) :
    Telling.silences (first ++ second) = Telling.silences first ++ Telling.silences second := by
  unfold Telling.silences
  rw [List.filter_append, List.map_append]

/-- The last music that was set, or else the one before. -/
def Recorder.lastMusic (music : Option String) (settings : List (Option String)) : Option String :=
  settings.getLast?.getD music

/-- Music that is set in a row. -/
theorem Recorder.lastMusic_append (music : Option String) (first second : List (Option String)) :
    lastMusic music (first ++ second) = lastMusic (lastMusic music first) second := by
  unfold lastMusic
  rw [List.getLast?_append]
  cases second.getLast? <;> rfl

open Recorder (lastMusic)

namespace Game

variable {ℓ : Type} {game after : Game Recorder ℓ}

/-- The ambient music of a game: what plays, or would play without the running dialog. -/
def ambience (game : Game Recorder ℓ) : Option String := game.conversation.ambience game.host.music

/-- A step that leaves the session and the host alone. -/
theorem ambience_of_same (session : after.conversation.session = game.conversation.session)
    (host : after.host = game.host) : after.ambience = game.ambience := by
  unfold ambience Conversation.ambience
  rw [session, host]

/-- A step that asks for a state at most. -/
theorem Asks.ambience (asks : game.Asks after) : after.ambience = game.ambience :=
  ambience_of_same asks.session asks.host

/-- Calls that leave the music as it is. -/
theorem perform_ambience (game : Game Recorder ℓ) {calls : List Call}
    (keeps : calls.all Call.keepsMusic = true) :
    (game.perform calls).ambience = game.ambience := by
  unfold ambience
  change game.conversation.ambience (Host.performAll game.host calls).music = _
  rw [Recorder.music_performAll, Recorder.music_kept keeps]

/-- A turn of the conversation that leaves the ambient music as it is. -/
theorem afterTurn_ambience {turn : Turn}
    (kept : turn.conversation.ambience (turn.calls.foldl musicAfter game.host.music) =
      game.conversation.ambience game.host.music) :
    (game.afterTurn turn).ambience = game.ambience := by
  unfold ambience
  change turn.conversation.ambience (Host.performAll game.host turn.calls).music = _
  rw [Recorder.music_performAll]
  exact kept

/-- Starting a dialog. -/
theorem startDialog_ambience {dialog : DialogGraph} {started : Logged (Progress × Game Recorder ℓ)}
    (accepted : game.startDialog dialog = .ok started) :
    started.value.2.ambience = game.ambience := by
  obtain ⟨turn, begun, value⟩ := startDialog_cases accepted
  rw [value]
  exact afterTurn_ambience (Conversation.start_ambience begun)

/-- Going on with the running dialog. -/
theorem resumeDialog_ambience (game : Game Recorder ℓ) (tick : Tick) :
    (game.resumeDialog tick).value.2.ambience = game.ambience :=
  afterTurn_ambience (Conversation.resume_ambience ..)

/-- Breaking off the running dialog. -/
theorem abandonDialog_ambience (game : Game Recorder ℓ) :
    game.abandonDialog.value.ambience = game.ambience := by
  unfold ambience
  change game.conversation.abandon.value.1.ambience
    (Host.performAll game.host game.conversation.abandon.value.2).music = _
  rw [Recorder.music_performAll]
  exact Conversation.abandon_ambience ..

/-- Starting the story over. -/
theorem reset_ambience (game : Game Recorder ℓ) : game.reset.value.ambience = game.ambience := by
  obtain ⟨idle, -⟩ := game.abandonDialog_quiet
  have abandoned := game.abandonDialog_ambience
  unfold ambience at abandoned
  rw [Conversation.ambience_of_idle idle] at abandoned
  exact abandoned

/-- Starting the story over if that is pending. -/
theorem resetIfPending_ambience (game : Game Recorder ℓ) :
    game.resetIfPending.value.ambience = game.ambience := by
  unfold resetIfPending
  split
  · exact game.reset_ambience
  · rfl

/-- Asking free roam for a sub-state. -/
theorem requestSubState_ambience (game : Game Recorder ℓ) (next : SubKind) :
    (game.requestSubState next).value.2.ambience = game.ambience := by
  obtain same | ⟨sub, -, -, value⟩ := game.requestSubState_cases next
  · rw [same]
  · rw [value]
    rfl

/-- Asking free roam for exploration. -/
theorem requestExploration_ambience (game : Game Recorder ℓ) :
    game.requestExploration.value.ambience = game.ambience := by
  obtain same | ⟨sub, -, value⟩ := game.requestExploration_cases
  · rw [same]
  · rw [value]
    rfl

/-- The scenario dialog goes on. -/
theorem updateEvent_ambience (game : Game Recorder ℓ) (tick : Tick) :
    (game.updateEvent tick).value.ambience = game.ambience := by
  rw [updateEvent_value]
  split
  · exact (handOver_asks _ _).ambience.trans (game.resumeDialog_ambience tick)
  · rfl

/-- The conversation of free roam goes on. -/
theorem updateFreeRoam_ambience (game : Game Recorder ℓ) (tick : Tick) :
    (game.updateFreeRoam tick).value.ambience = game.ambience := by
  rw [updateFreeRoam_value]
  split
  · refine (forwardRequest_asks _).ambience.trans (Eq.trans ?_ (game.resumeDialog_ambience tick))
    split
    · exact requestExploration_ambience _
    · rfl
  · rfl

/-- The title takes a step. -/
theorem updateTitle_ambience (game : Game Recorder ℓ) (tick : Tick) :
    (game.updateTitle tick).value.ambience = game.ambience := by
  unfold updateTitle
  split
  · exact (advanceScenario_asks _).ambience.trans game.resetIfPending_ambience
  · rfl

/-- The active state does its part of a tick. -/
theorem updateActive_ambience (game : Game Recorder ℓ) (tick : Tick) :
    (game.updateActive tick).value.ambience = game.ambience := by
  unfold updateActive
  split
  · exact game.updateTitle_ambience tick
  · unfold updateLoading
    split
    · split
      · exact (game.requestState_asks _).ambience
      · rfl
    · rfl
  · exact game.updateEvent_ambience tick
  · exact game.updateFreeRoam_ambience tick
  · split
    · exact (game.requestState_asks _).ambience
    · rfl
  · rfl

/-- Entering free roam. -/
theorem onFreeRoamEntered_ambience (game : Game Recorder ℓ) :
    game.onFreeRoamEntered.value.ambience = game.ambience := by
  obtain ⟨event, value⟩ | value := game.onFreeRoamEntered_cases
  · rw [value]
    exact (perform_ambience _ rfl).trans game.resetIfPending_ambience
  · rw [value]
    refine Eq.trans ?_ game.resetIfPending_ambience
    obtain same | ⟨sub, -, -, explored⟩ := game.resetIfPending.value.explore_cases
    · rw [same]
    · rw [explored]
      rfl

/-- Entering the event state. -/
theorem onEventEntered_ambience (game : Game Recorder ℓ) :
    game.onEventEntered.value.ambience = game.ambience := by
  unfold onEventEntered
  cases game.storyline.dialog with
  | none => rfl
  | some name =>
    dsimp only
    cases game.bundle.dialog name with
    | error _ => rfl
    | ok dialog =>
      dsimp only
      cases accepted : game.startDialog dialog with
      | error _ => rfl
      | ok started => exact (handOver_asks _ _).ambience.trans (startDialog_ambience accepted)

/-- Every reaction leaves the ambient music as it is, unless the notice silences it while no dialog
is running. -/
theorem react_ambience (game : Game Recorder ℓ) (notice : Notice)
    (idle : notice.silences = true → game.conversation.isRunning = false) :
    (game.react notice).value.ambience =
      if notice.silences then none else game.ambience := by
  unfold react
  rw [Logged.value_bind]
  cases notice with
  | entered kind =>
    cases kind with
    | loading => exact Conversation.ambience_of_idle (idle rfl) none
    | freeRoam => exact game.onFreeRoamEntered_ambience
    | event => exact game.onEventEntered_ambience
    | _ => rfl
  | exited kind =>
    cases kind with
    | freeRoam => exact game.abandonDialog_ambience
    | event => exact game.abandonDialog_ambience
    | _ => rfl
  | subExited kind =>
    cases kind with
    | dialog => exact game.abandonDialog_ambience
    | _ => rfl
  | _ => rfl

/-- A departure does not silence the music. -/
theorem silences_of_departing {notice : Notice} (departing : notice.isArrival = false) :
    notice.silences = false := by
  cases notice with
  | entered _ => cases departing
  | _ => rfl

/-- Reactions to departures leave the ambient music as it is. -/
theorem reactAll_ambience (game : Game Recorder ℓ) {departures : List Notice}
    (departing : ∀ notice ∈ departures, notice.isArrival = false) :
    (game.reactAll departures).value.ambience = game.ambience := by
  induction departures generalizing game with
  | nil => rfl
  | cons notice rest ih =>
    have keeps := silences_of_departing (departing notice List.mem_cons_self)
    have first := game.react_ambience notice fun silences => by
      rw [keeps] at silences
      cases silences
    rw [keeps] at first
    exact (ih (game.react notice).value fun other member =>
      departing other (List.mem_cons_of_mem _ member)).trans first

/-- Departures do not silence the music. -/
theorem silences_departures {departures : List Notice}
    (departing : ∀ notice ∈ departures, notice.isArrival = false) (game : Game Recorder ℓ) :
    Telling.silences (departures.map (Telling.mk game)) = [] := by
  rw [Telling.silences_map]
  have none : departures.filter Notice.silences = [] := by
    refine List.filter_eq_nil_iff.2 fun notice member silences => ?_
    rw [silences_of_departing (departing notice member)] at silences
    cases silences
  rw [none]
  rfl

/-- Where nothing waits, the ambient music stays as it is. -/
theorem reactBatches_told_ambience (told : game.machine.queue = []) (bound : Nat) :
    (reactBatches bound game).value.ambience = game.ambience := by
  cases bound with
  | zero => rfl
  | succ bound =>
    have empty : game.machine.takeNotices.1.isEmpty = true := by
      rw [Machine.takeNotices_fst, told]
      rfl
    unfold reactBatches
    dsimp only
    rw [if_pos empty]
    rfl

/-- Telling departures leaves the ambient music as it is. -/
theorem reactBatches_departures_ambience {departures : List Notice}
    (orderly : game.Orderly departures none) (bound : Nat) :
    (reactBatches (bound + 1) game).value.ambience = game.ambience := by
  obtain ⟨-, told⟩ := game.withMachine_taken
  have notices : game.machine.takeNotices.1 = departures :=
    (Machine.takeNotices_fst _).trans (orderly.queue.trans (List.append_nil _))
  obtain ⟨quiet, -⟩ := reactAll_departures
    (game.withMachine game.machine.takeNotices.2) orderly.departing
  have reacted := reactAll_ambience (game.withMachine game.machine.takeNotices.2) orderly.departing
  unfold reactBatches
  dsimp only
  rw [notices]
  split
  · rfl
  · rw [Logged.value_bind]
    exact (reactBatches_told_ambience (quiet.queue.trans told) bound).trans reacted

/-- While a game settles, the ambient music is set by nothing but what silences it. -/
theorem settle_ambience {departures : List Notice} {arrival : Option StateKind}
    (orderly : game.Orderly departures arrival) :
    game.settle.value.ambience =
      lastMusic game.ambience (Telling.silences game.settleTellings) := by
  cases arrival with
  | none =>
    have tellings : game.settleTellings = departures.map (Telling.mk game) :=
      settleTellings_departures orderly
    rw [tellings, silences_departures orderly.departing]
    exact reactBatches_departures_ambience orderly 2
  | some kind =>
    obtain ⟨arrived, active, settled⟩ := settle_arrival orderly
    obtain ⟨⟨others, -, second⟩, -⟩ := react_arrival arrived active
    have parted : (game.parted departures).ambience = game.ambience :=
      reactAll_ambience (game.withMachine game.machine.takeNotices.2) orderly.departing
    have reacted := (game.parted departures).react_ambience (.entered kind) fun _ => arrived.idle
    rw [settled, reactBatches_departures_ambience second 1, reacted, parted,
      settleTellings_arrival orderly second, List.map_append,
      Telling.silences_append, Telling.silences_append, silences_departures orderly.departing,
      silences_departures second.departing, List.append_nil, List.nil_append,
      Telling.silences_map]
    cases silences : Notice.silences (.entered kind) with
    | false =>
      rw [List.filter_cons_of_neg (by rw [silences]; exact Bool.false_ne_true)]
      rfl
    | true =>
      rw [List.filter_cons_of_pos silences]
      rfl

/-- Meeting the request of a sub-state. -/
theorem processSubRequest_ambience (game : Game Recorder ℓ) :
    game.processSubRequest.value.ambience = game.ambience := by
  obtain same | ⟨sub, -, value⟩ := game.processSubRequest_cases
  · rw [same]
  · rw [value]
    rfl

variable [SceneLoader ℓ]

/-- What sets the music in an operation: notices that silence it, and a change of the host after
which something else plays. -/
def musicSettings (game : Game Recorder ℓ) : Operation Recorder ℓ → List (Option String)
  | .host change =>
    if (change game.host).music = game.host.music then [] else [(change game.host).music]
  | operation => Telling.silences (game.tellings operation)

/-- What sets the music in operations in order. -/
def runMusicSettings (game : Game Recorder ℓ) :
    List (Operation Recorder ℓ) → List (Option String)
  | [] => []
  | operation :: rest =>
    game.musicSettings operation ++ (game.apply operation).runMusicSettings rest

/-- Whether the host changes the music only while no dialog is running. -/
def Discreet (game : Game Recorder ℓ) : List (Operation Recorder ℓ) → Prop
  | [] => True
  | operation :: rest =>
    (∀ change, operation = .host change → game.conversation.isRunning = true →
      (change game.host).music = game.host.music) ∧ (game.apply operation).Discreet rest

/-- A tick sets the ambient music by nothing but notices that silence it. -/
theorem tick_ambience (rest : game.AtRest) (tick : Tick) :
    (game.tick tick).value.ambience =
      lastMusic game.ambience (Telling.silences (game.tickTellings tick)) := by
  obtain ⟨_, polled⟩ := pollScene_atRest rest
  obtain ⟨told, -⟩ := settle_atRest polled
  obtain ⟨_, _, -, proceeded⟩ := proceed_atRest told tick
  have first := settle_ambience polled
  have second := settle_ambience proceeded
  have between : (game.ready.proceed tick).value.ambience = game.ready.ambience := by
    change
      (game.ready.updateActive tick).value.processRequest.value.processSubRequest.value.ambience = _
    rw [processSubRequest_ambience, processRequest_value]
    exact updateActive_ambience game.ready tick
  unfold tickTellings
  rw [Telling.silences_append, Recorder.lastMusic_append]
  exact second.trans (congrArg (lastMusic · _) (between.trans first))

omit [SceneLoader ℓ] in
/-- Talking to a character sets the ambient music by nothing but notices that silence it. -/
theorem talkTo_ambience (rest : game.AtRest) (character : String) :
    (game.talkTo character).value.2.ambience =
      lastMusic game.ambience (Telling.silences (game.talkTellings character)) := by
  obtain ⟨same, silent⟩ | ⟨sub, turned, progress, approachable, machine, -, begun, value, told⟩ :=
    game.talkTo_told character
  · rw [same, silent]
    rfl
  · obtain ⟨roaming, exploring, -⟩ := approachable_cases approachable
    obtain ⟨dialog, started, accepted, conversation, host⟩ := begun
    have orderly := joined_orderly (machine ▸ rest.sound) (machine ▸ rest.told)
      (machine ▸ roaming) exploring progress
    have turns : turned.ambience = started.value.2.ambience :=
      ambience_of_same (congrArg Conversation.session conversation) host
    have joins : (turned.joined sub progress).ambience = turned.ambience :=
      (forwardRequest_asks (turned.withSubMachine (sub.joined progress))).ambience
    rw [value, told, settle_ambience orderly, joins, turns, startDialog_ambience accepted]

/-- What an operation makes of the ambient music. -/
theorem apply_ambience (rest : game.AtRest) (operation : Operation Recorder ℓ)
    (discreet : ∀ change, operation = .host change → game.conversation.isRunning = true →
      (change game.host).music = game.host.music) :
    (game.apply operation).ambience = lastMusic game.ambience (game.musicSettings operation) := by
  cases operation with
  | tick tick => exact tick_ambience rest tick
  | talkTo character => exact talkTo_ambience rest character
  | openMenu => exact game.requestSubState_ambience .menu
  | closeMenu => exact game.requestSubState_ambience .exploration
  | requestState request => exact (game.requestState_asks request).ambience
  | advanceScenario => exact game.advanceScenario_asks.ambience
  | reset => exact game.reset_ambience
  | host change =>
    change game.conversation.ambience (change game.host).music = lastMusic _ (ite ..)
    split
    · next kept =>
      rw [kept]
      rfl
    · next sets =>
      cases running : game.conversation.isRunning with
      | true => exact absurd (discreet change rfl running) sets
      | false => exact Conversation.ambience_of_idle running _
  | _ => rfl

/-- What operations in order make of the ambient music. -/
theorem runAll_ambience (rest : game.AtRest) (operations : List (Operation Recorder ℓ))
    (discreet : game.Discreet operations) :
    (game.runAll operations).ambience =
      lastMusic game.ambience (game.runMusicSettings operations) := by
  induction operations generalizing game with
  | nil => rfl
  | cons operation others ih =>
    obtain ⟨first, later⟩ := discreet
    unfold runMusicSettings
    rw [Recorder.lastMusic_append, ← apply_ambience rest operation first]
    exact ih (apply_atRest rest operation).1 later

omit [SceneLoader ℓ] in
/-- Opening a game sets the ambient music by nothing but notices that silence it. -/
theorem ofBundle_ambience {bundle : Bundle} {config : Config} {host : Recorder} {loader : ℓ}
    {opened : Game Recorder ℓ}
    (valid : (Game.ofBundle bundle config host loader).value = .ok opened) :
    opened.ambience =
      lastMusic host.music (Telling.silences (openingTellings bundle config host loader)) := by
  obtain ⟨machine, entered, rfl⟩ := ofBundle_cases valid
  obtain ⟨vacant, told⟩ := Machine.ofPlan_vacant config.states config.tracing
  have change := Machine.enterState_moved vacant.sound (Machine.told_of_queue told) entered
  unfold openingTellings openingTrace
  rw [entered]
  exact settle_ambience (orderly_of_moved told nofun change)

/-- Dialogs are neutral to the music. If the host changes the music only while no dialog is running,
then between two operations without a running dialog nothing plays if the loading state was entered
since the last such change, or since the game was opened; otherwise what the host set last plays,
whatever dialogs were played meanwhile and however they came to their end. -/
theorem dialogs_keep_ambience {bundle : Bundle} {config : Config} {host : Recorder} {loader : ℓ}
    {opened : Game Recorder ℓ}
    (valid : (Game.ofBundle bundle config host loader).value = .ok opened)
    (operations : List (Operation Recorder ℓ)) (discreet : opened.Discreet operations)
    (idle : (opened.runAll operations).conversation.isRunning = false) :
    (opened.runAll operations).host.music =
      (Telling.silences (openingTellings bundle config host loader) ++
        opened.runMusicSettings operations).getLast?.getD host.music := by
  have ambience := runAll_ambience (ofBundle_atRest valid).1 operations discreet
  rw [ofBundle_ambience valid, ← Recorder.lastMusic_append] at ambience
  exact (Conversation.ambience_of_idle idle _).symm.trans ambience

/-- The greeting, with music of its own. -/
def serenade : Bundle :=
  { Bundle.greeting with
    dialogs := .ofList [("hello", { DialogGraph.greeting with music := some "waltz" })] }

/-- The host sets the music, and the player hears the serenade out. -/
def evening : List (Operation Recorder InstantLoader) :=
  .host (fun recorder => { recorder with music := some "fields" }) :: Operation.meeting

/-- After a serenade the music plays that the host had set before. -/
theorem dialogs_keep_ambience_serenade :
    ∃ opened, (Game.ofBundle serenade .roaming (Recorder.playing (some "theme"))
        InstantLoader.empty).value = .ok opened ∧
      opened.Discreet evening ∧
      (opened.runAll (evening.take 2)).host.music = some "waltz" ∧
      (opened.runAll evening).conversation.isRunning = false ∧
      (opened.runAll evening).host.music = some "fields" := by
  have valid : (Game.ofBundle serenade .roaming (Recorder.playing (some "theme"))
    InstantLoader.empty).value = .ok _ := rfl
  refine ⟨_, valid, ?discreet, rfl, rfl, dialogs_keep_ambience valid evening ?discreet rfl⟩
  exact ⟨fun _ _ running => (by cases running), fun _ same => (by cases same),
    fun _ same => (by cases same), trivial⟩

end Game

end Narrative
