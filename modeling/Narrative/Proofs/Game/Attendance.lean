import Narrative.Proofs.Conversation.Effects
import Narrative.Proofs.Game.Ownership
import Narrative.Proofs.Machine.Requests

/-!
# The attended dialog sub-state

The dialog sub-state of free roam is attended while its dialog is running or it has asked for its
successor. A dialog that comes to its end asks for exploration, one that is broken off by another
sub-state or by another state has left the sub-state, and a request that was made is always one
that can be met. Only a story that starts over breaks off the dialog and leaves the sub-state with
nothing to end it.
-/

namespace Narrative

namespace Game

variable {η ℓ : Type} {game after : Game η ℓ}

/-- What the current sub-state of free roam asks for. -/
def subRequest? (game : Game η ℓ) : Option SubKind :=
  game.machine.subMachine?.bind SubMachine.pendingRequest?

/-- A game whose sub-states can answer. -/
def Answerable (game : Game η ℓ) : Prop :=
  ∀ sub, game.machine.subMachine? = some sub → sub.Answerable

/-- The dialog sub-state is attended: its dialog is running, or it has asked for its successor. -/
def Attended (game : Game η ℓ) : Prop :=
  game.machine.subKind? = some .dialog →
    game.conversation.isRunning = true ∨ game.subRequest? ≠ none

/-- Where no sub-state is current, there is nothing to answer or attend to. -/
theorem attended_of_roamless (roamless : game.machine.subKind? = none) :
    game.Answerable ∧ game.Attended := by
  refine ⟨fun sub found => SubMachine.answerable_of_vacant ?_, fun talking => ?_⟩
  · unfold Machine.subKind? at roamless
    rw [found] at roamless
    exact roamless
  · rw [roamless] at talking
    cases talking

/-- Where another sub-state is current, there is nothing to attend to. -/
theorem attended_of_elsewhere (elsewhere : game.machine.subKind? ≠ some .dialog) :
    game.Attended :=
  fun talking => absurd talking elsewhere

/-- With the same sub-states, and a dialog that still runs if it did, an attended game stays so. -/
theorem Attended.congr (attended : game.Attended)
    (same : after.machine.subMachine? = game.machine.subMachine?)
    (running : game.conversation.isRunning = true → after.conversation.isRunning = true) :
    after.Attended := by
  unfold Attended subRequest? Machine.subKind?
  rw [same]
  exact fun talking => (attended talking).imp_left running

/-- With the same sub-states, a game answers as before. -/
theorem Answerable.congr (answerable : game.Answerable)
    (same : after.machine.subMachine? = game.machine.subMachine?) : after.Answerable :=
  fun sub found => answerable sub (same ▸ found)

/-- A step that only asks for a state keeps an attended game. -/
theorem Asks.attended (asks : game.Asks after) (attended : game.Attended) : after.Attended := by
  refine attended.congr asks.subMachine? fun running => ?_
  unfold Conversation.isRunning at running ⊢
  rwa [asks.session]

variable [Host η]

/-- Away from the dialog sub-state, and ready to answer. -/
def Elsewhere (game : Game η ℓ) : Prop :=
  game.Answerable ∧ game.machine.subKind? ≠ some .dialog

omit [Host η] in
/-- With the same sub-states, a game is elsewhere as before. -/
theorem Elsewhere.congr (elsewhere : game.Elsewhere)
    (same : after.machine.subMachine? = game.machine.subMachine?) : after.Elsewhere := by
  refine ⟨elsewhere.1.congr same, ?_⟩
  unfold Machine.subKind?
  rw [same]
  exact elsewhere.2

/-- The reaction to the event state only asks for a state. -/
theorem onEventEntered_onlyAsks (game : Game η ℓ) :
    game.machine.OnlyAsks game.onEventEntered.value.machine := by
  unfold onEventEntered
  cases game.storyline.dialog with
  | none => exact .refl _
  | some name =>
    dsimp only
    cases game.bundle.dialog name with
    | error _ => exact .refl _
    | ok dialog =>
      dsimp only
      cases accepted : game.startDialog dialog with
      | error error => exact .refl _
      | ok started =>
        have asks := (handOver_asks started.value.2 started.value.1).machine
        rw [(startDialog_keeps accepted).1] at asks
        exact asks

omit [Host η] in
/-- Exploring leads to exploration, if anywhere. -/
theorem explore_elsewhere (elsewhere : game.Elsewhere) : game.explore.value.Elsewhere := by
  obtain same | ⟨sub, roaming, known, value⟩ := game.explore_cases
  · rw [same]
    exact elsewhere
  · obtain ⟨-, found⟩ := Machine.freeRoam_eq_ok_iff.1 roaming
    have placed := Machine.subMachine?_withSubMachine found (sub.exit.enter .exploration)
    rw [value]
    refine ⟨fun other same => ?_, ?_⟩
    · obtain rfl := Option.some.inj (placed.symm.trans same)
      exact SubMachine.answerable_switched known known
    · change (game.machine.withSubMachine _).subKind? ≠ _
      rw [Machine.subKind?_withSubMachine found]
      exact nofun

/-- No reaction leads to the dialog sub-state. -/
theorem react_elsewhere (elsewhere : game.Elsewhere) (notice : Notice) :
    (game.react notice).value.Elsewhere := by
  have abandoned : game.abandonDialog.value.Elsewhere := elsewhere.congr rfl
  unfold react
  rw [Logged.value_bind]
  cases notice with
  | entered kind =>
    cases kind with
    | freeRoam =>
      change game.onFreeRoamEntered.value.Elsewhere
      have ready : game.resetIfPending.value.Elsewhere := by
        unfold resetIfPending
        split
        · exact elsewhere.congr rfl
        · exact elsewhere
      obtain ⟨event, value⟩ | value := game.onFreeRoamEntered_cases
      · rw [value]
        exact ready.congr rfl
      · rw [value]
        exact explore_elsewhere ready
    | event => exact elsewhere.congr game.onEventEntered_onlyAsks.subMachine?
    | _ => exact elsewhere.congr rfl
  | exited kind =>
    cases kind with
    | freeRoam => exact abandoned
    | event => exact abandoned
    | _ => exact elsewhere
  | subExited kind =>
    cases kind with
    | dialog => exact abandoned
    | _ => exact elsewhere
  | _ => exact elsewhere

/-- No reactions lead to the dialog sub-state. -/
theorem reactAll_elsewhere (elsewhere : game.Elsewhere) (notices : List Notice) :
    (game.reactAll notices).value.Elsewhere := by
  induction notices generalizing game with
  | nil => exact elsewhere
  | cons notice rest ih => exact ih (react_elsewhere elsewhere notice)

omit [Host η] in
/-- Taking the notices of a game leads nowhere. -/
theorem withMachine_taken_elsewhere (elsewhere : game.Elsewhere) :
    (game.withMachine game.machine.takeNotices.2).Elsewhere := by
  refine ⟨fun sub found => ?_, ?_⟩
  · change game.machine.takeNotices.2.subMachine? = some sub at found
    rw [Machine.subMachine?_takeNotices] at found
    obtain ⟨old, known, rfl⟩ := Option.map_eq_some_iff.1 found
    exact (elsewhere.1 old known).takeNotices
  · change game.machine.takeNotices.2.subKind? ≠ _
    rw [game.machine.agrees_takeNotices.subKind]
    exact elsewhere.2

/-- No batches of reactions lead to the dialog sub-state. -/
theorem reactBatches_elsewhere (bound : Nat) (elsewhere : game.Elsewhere) :
    (reactBatches bound game).value.Elsewhere := by
  induction bound generalizing game with
  | zero => exact elsewhere
  | succ bound ih =>
    have taken := withMachine_taken_elsewhere elsewhere
    unfold reactBatches
    dsimp only
    split
    · exact taken
    · exact ih (reactAll_elsewhere taken _)

/-- The reactions to departures that break nothing off change nothing. -/
theorem reactAll_harmless (game : Game η ℓ) {notices : List Notice}
    (harmless : ∀ notice ∈ notices, notice.isArrival = false ∧ notice.breaksOff = false) :
    (game.reactAll notices).value = game := by
  induction notices with
  | nil => rfl
  | cons notice rest ih =>
    obtain ⟨departing, keeps⟩ := harmless notice List.mem_cons_self
    unfold reactAll
    rw [Logged.value_bind, game.react_departure_value departing, keeps]
    exact ih fun other member => harmless other (List.mem_cons_of_mem _ member)

omit [Host η] in
/-- A game ready to be settled: its dialog sub-state is attended, and no notice that waits is about
to break its dialog off. -/
structure Settleable (game : Game η ℓ) : Prop where
  /-- The sub-states can answer. -/
  answerable : game.Answerable
  /-- The dialog sub-state is attended. -/
  attended : game.Attended
  /-- While it is current, nothing breaks its dialog off. -/
  undisturbed : game.machine.subKind? = some .dialog →
    ∀ notice ∈ game.machine.queue, notice.isArrival = false ∧ notice.breaksOff = false

omit [Host η] in
/-- A game at rest is ready to be settled. -/
theorem AtRest.settleable (rest : game.AtRest) (answerable : game.Answerable)
    (attended : game.Attended) : game.Settleable :=
  ⟨answerable, attended, fun _ notice member => by
    rw [rest.told] at member
    cases member⟩

omit [Host η] in
/-- Where no sub-state is current, a game is ready to be settled. -/
theorem settleable_of_roamless (roamless : game.machine.subKind? = none) : game.Settleable := by
  obtain ⟨answerable, attended⟩ := attended_of_roamless roamless
  refine ⟨answerable, attended, fun talking => ?_⟩
  rw [roamless] at talking
  cases talking

omit [Host η] in
/-- Away from the dialog sub-state, a game is ready to be settled. -/
theorem Elsewhere.settleable (elsewhere : game.Elsewhere) : game.Settleable :=
  ⟨elsewhere.1, attended_of_elsewhere elsewhere.2, fun talking => absurd talking elsewhere.2⟩

omit [Host η] in
/-- Taking the notices of a game leaves what its sub-state asks for. -/
theorem subRequest?_taken (game : Game η ℓ) :
    (game.withMachine game.machine.takeNotices.2).subRequest? = game.subRequest? := by
  unfold subRequest?
  change game.machine.takeNotices.2.subMachine?.bind _ = _
  rw [Machine.subMachine?_takeNotices]
  cases game.machine.subMachine? <;> rfl

omit [Host η] in
/-- Taking the notices of a game keeps it attended. -/
theorem withMachine_taken_attended (answerable : game.Answerable) (attended : game.Attended) :
    (game.withMachine game.machine.takeNotices.2).Answerable ∧
      (game.withMachine game.machine.takeNotices.2).Attended := by
  have taken : (game.withMachine game.machine.takeNotices.2).machine.subMachine? =
      game.machine.subMachine?.map fun sub => sub.takeNotices.2 :=
    game.machine.subMachine?_takeNotices
  refine ⟨fun sub found => ?_, fun talking => ?_⟩
  · rw [taken] at found
    obtain ⟨old, known, rfl⟩ := Option.map_eq_some_iff.1 found
    exact (answerable old known).takeNotices
  · have before : game.machine.subKind? = some .dialog :=
      game.machine.agrees_takeNotices.subKind.symm.trans talking
    refine (attended before).imp_right fun asked => ?_
    rw [subRequest?_taken]
    exact asked

/-- Batches of reactions that break nothing off keep a game attended. -/
theorem reactBatches_attended (bound : Nat) (answerable : game.Answerable)
    (attended : game.Attended)
    (harmless : ∀ notice ∈ game.machine.queue,
      notice.isArrival = false ∧ notice.breaksOff = false) :
    (reactBatches bound game).value.Answerable ∧ (reactBatches bound game).value.Attended := by
  induction bound generalizing game with
  | zero => exact ⟨answerable, attended⟩
  | succ bound ih =>
    obtain ⟨answers, attends⟩ := withMachine_taken_attended answerable attended
    have told : (game.withMachine game.machine.takeNotices.2).machine.queue = [] :=
      game.machine.queue_takeNotices
    unfold reactBatches
    dsimp only
    split
    · exact ⟨answers, attends⟩
    · rw [Logged.value_bind, Machine.takeNotices_fst, reactAll_harmless _ harmless]
      refine ih answers attends fun notice member => ?_
      rw [told] at member
      cases member

/-- Settling keeps a game attended. -/
theorem Settleable.settle (settleable : game.Settleable) :
    game.settle.value.Answerable ∧ game.settle.value.Attended := by
  by_cases talking : game.machine.subKind? = some .dialog
  · exact reactBatches_attended 3 settleable.answerable settleable.attended
      (settleable.undisturbed talking)
  · obtain ⟨answerable, elsewhere⟩ := reactBatches_elsewhere 3 ⟨settleable.answerable, talking⟩
    exact ⟨answerable, attended_of_elsewhere elsewhere⟩

omit [Host η] in
/-- A sub-state of free roam that asks for exploration is attended. -/
theorem requestExploration_attended {sub : SubMachine} (answerable : game.Answerable)
    (roaming : game.machine.freeRoam = .ok sub) (current : sub.current ≠ none) :
    game.requestExploration.value.Answerable ∧ game.requestExploration.value.Attended := by
  obtain ⟨-, found⟩ := Machine.freeRoam_eq_ok_iff.1 roaming
  have answers := answerable sub found
  have placed := Machine.subMachine?_withSubMachine found (sub.request .exploration).value
  rw [requestExploration_value roaming]
  refine ⟨fun other same => ?_, fun _ => .inr ?_⟩
  · obtain rfl := Option.some.inj (placed.symm.trans same)
    exact answers.request answers.ready nofun
  · unfold subRequest?
    change (game.machine.withSubMachine _).subMachine?.bind _ ≠ none
    rw [placed]
    exact answers.pending_request current .exploration

/-- The conversation of free roam keeps its sub-state attended: if it comes to its end, it asks for
exploration. -/
theorem updateFreeRoam_attended (sound : game.machine.Sound) (answerable : game.Answerable)
    (attended : game.Attended) (tick : Tick) :
    (game.updateFreeRoam tick).value.Answerable ∧ (game.updateFreeRoam tick).value.Attended := by
  rw [updateFreeRoam_value]
  split
  · next talks =>
    obtain ⟨running, talking⟩ := Bool.and_eq_true_iff.1 talks
    have talking : game.machine.subKind? = some .dialog := eq_of_beq talking
    obtain ⟨sub, found, current⟩ := Option.bind_eq_some_iff.1 talking
    have roaming : game.machine.freeRoam = .ok sub :=
      Machine.freeRoam_eq_ok_iff.2 ⟨sound.roams (by simp [talking]), found⟩
    have ended := (Conversation.resume_executes running tick (Host.animating game.host)
      game.flags).ended
    have handedOn {gone : Game η ℓ} (goes : gone.Answerable ∧ gone.Attended) :
        gone.forwardRequest.value.2.Answerable ∧ gone.forwardRequest.value.2.Attended :=
      ⟨goes.1.congr gone.forwardRequest_asks.subMachine?, gone.forwardRequest_asks.attended goes.2⟩
    apply handedOn
    split
    · have resumed : (game.resumeDialog tick).value.2.machine.freeRoam = .ok sub := roaming
      exact requestExploration_attended (answerable.congr rfl) resumed (by simp [current])
    · next unfinished =>
      refine ⟨answerable.congr rfl, fun _ => .inl ?_⟩
      exact (Bool.not_eq_false _).mp fun idle => unfinished (ended.1 idle)
  · exact ⟨answerable, attended⟩

/-- The active state does its part of a tick and leaves the game attended. -/
theorem updateActive_attended (sound : game.machine.Sound) (answerable : game.Answerable)
    (attended : game.Attended) (tick : Tick) :
    (game.updateActive tick).value.Answerable ∧ (game.updateActive tick).value.Attended := by
  by_cases roam : game.machine.active? = some .freeRoam
  · unfold updateActive
    rw [roam]
    exact updateFreeRoam_attended sound answerable attended tick
  · -- Anywhere else no sub-state is current, and the part of the state changes nothing about that.
    refine attended_of_roamless ((game.updateActive_quiet tick).standing.subKind.trans ?_)
    by_contra roaming
    exact roam (sound.roams roaming)

omit [Host η] in
/-- Meeting the request of the sub-state, which can be met, leaves the dialog sub-state. -/
theorem processSubRequest_settleable (settleable : game.Settleable) :
    game.processSubRequest.value.Settleable := by
  obtain same | ⟨sub, roaming, value⟩ := game.processSubRequest_cases
  · rw [same]
    exact settleable
  · obtain ⟨-, found⟩ := Machine.freeRoam_eq_ok_iff.1 roaming
    rw [value]
    obtain same | ⟨answers, elsewhere⟩ := (settleable.answerable sub found).processRequest
    · have kept : game.withSubMachine sub = game :=
        congrArg game.withMachine (Machine.withSubMachine_of_found found)
      rw [same, kept]
      exact settleable
    · refine Elsewhere.settleable ⟨fun other placed => ?_, ?_⟩
      · have there := Machine.subMachine?_withSubMachine found sub.processRequest.value.2
        obtain rfl := Option.some.inj (there.symm.trans placed)
        exact answers
      · change (game.machine.withSubMachine _).subKind? ≠ _
        rw [Machine.subKind?_withSubMachine found]
        exact elsewhere

section Ticks

variable [SceneLoader ℓ]

/-- The part of a tick that moves the game leaves it ready to be settled. -/
theorem proceed_settleable (rest : game.AtRest) (answerable : game.Answerable)
    (attended : game.Attended) (tick : Tick) : (game.proceed tick).value.Settleable := by
  have met (updated : Game η ℓ) (rest : updated.AtRest) (answerable : updated.Answerable)
      (attended : updated.Attended) : updated.processRequest.value.Settleable := by
    rw [processRequest_value]
    obtain asks | ⟨target, change⟩ := Machine.processRequest_cases rest.sound
      (Machine.told_of_queue rest.told) updated.loader
    · refine ⟨answerable.congr asks.subMachine?, attended.congr asks.subMachine? id,
        fun _ notice member => ?_⟩
      rw [show Machine.queue _ = [] from asks.queue.trans rest.told] at member
      cases member
    · exact settleable_of_roamless change.roamless
  obtain ⟨answers, attends⟩ := updateActive_attended rest.sound answerable attended tick
  exact processSubRequest_settleable
    (met _ (rest.quiet (game.updateActive_quiet tick)) answers attends)

/-- A tick keeps a game attended. -/
theorem tick_attended (rest : game.AtRest) (answerable : game.Answerable)
    (attended : game.Attended) (tick : Tick) :
    (game.tick tick).value.Answerable ∧ (game.tick tick).value.Attended := by
  obtain ⟨_, orderly⟩ := pollScene_atRest rest
  have polled : game.pollScene.value.Settleable := by
    obtain same | ⟨-, -, -, -, roamless, -, -⟩ :=
      Machine.pollScene_cases rest.sound (Machine.told_of_queue rest.told) game.loader
    · have subs : game.pollScene.value.machine.subMachine? = game.machine.subMachine? :=
        congrArg Machine.subMachine? same
      refine ⟨answerable.congr subs, attended.congr subs id, fun _ notice member => ?_⟩
      have told : game.pollScene.value.machine.queue = [] :=
        (congrArg Machine.queue same).trans rest.told
      rw [told] at member
      cases member
    · exact settleable_of_roamless roamless
  obtain ⟨answers, attends⟩ := polled.settle
  exact (proceed_settleable (settle_atRest orderly).1 answers attends tick).settle

end Ticks

/-- A started dialog that is not over is running. -/
theorem startDialog_running {dialog : DialogGraph} {started : Logged (Progress × Game η ℓ)}
    (accepted : game.startDialog dialog = .ok started) (unfinished : started.value.1 ≠ .done) :
    started.value.2.conversation.isRunning = true := by
  obtain ⟨turn, opened, value⟩ := startDialog_cases accepted
  rw [value] at unfinished ⊢
  have ended := (Conversation.start_executes opened).ended
  exact (Bool.not_eq_false _).mp fun idle => unfinished (ended.1 idle)

/-- A conversation that was started in free roam keeps its sub-state attended. -/
theorem joined_settleable {sub : SubMachine} (answerable : game.Answerable)
    (sound : game.machine.Sound) (told : game.machine.queue = [])
    (roaming : game.machine.freeRoam = .ok sub)
    (exploring : sub.current = some .exploration) (registered : sub.isRegistered .dialog = true)
    {progress : Progress}
    (running : progress ≠ .done → game.conversation.isRunning = true) :
    (game.joined sub progress).Settleable := by
  obtain ⟨-, found⟩ := Machine.freeRoam_eq_ok_iff.1 roaming
  have placed := Machine.subMachine?_withSubMachine found (sub.joined progress)
  have explorable := (answerable sub found).standing _ exploring
  have joined : (sub.exit.enter .dialog).Answerable :=
    SubMachine.answerable_switched registered explorable
  have ready := joined.ready nofun
  have asks := forwardRequest_asks (game.withSubMachine (sub.joined progress))
  have answers : (game.withSubMachine (sub.joined progress)).Answerable := by
    intro other same
    obtain rfl := Option.some.inj (placed.symm.trans same)
    unfold SubMachine.joined
    split
    · exact joined.request (fun _ => ready) nofun
    · exact joined
  have attends : (game.withSubMachine (sub.joined progress)).Attended := by
    intro _
    by_cases ended : progress = .done
    · right
      unfold subRequest?
      change (game.machine.withSubMachine _).subMachine?.bind _ ≠ none
      rw [placed]
      unfold SubMachine.joined
      rw [if_pos ended]
      exact joined.pending_request nofun .exploration
    · exact .inl (running ended)
  refine ⟨answers.congr asks.subMachine?, asks.attended attends, fun _ notice member => ?_⟩
  rw [(joined_orderly sound told roaming exploring progress).queue] at member
  simp only [Option.map_none, Option.toList_none, List.append_nil, List.mem_cons,
    List.not_mem_nil, or_false] at member
  obtain rfl | rfl := member <;> exact ⟨rfl, rfl⟩

/-- Talking to a character keeps a game attended. -/
theorem Talked.attended {attempts : List (Attempt η ℓ)} (talked : game.Talked attempts after)
    (rest : game.AtRest) (answerable : game.Answerable) (attended : game.Attended) :
    after.Answerable ∧ after.Attended := by
  cases talked with
  | declined => exact ⟨answerable, attended⟩
  | refused => exact ⟨answerable, attended⟩
  | @accepted sub approachable dialog started accepted turned repertoire noted =>
    obtain ⟨roaming, exploring, registered⟩ := approachable_cases approachable
    have same : turned.machine = game.machine :=
      (congrArg Game.machine noted).trans (startDialog_keeps accepted).1
    have joined : (turned.joined sub started.value.1).Settleable := by
      refine joined_settleable (answerable.congr (congrArg _ same)) (same ▸ rest.sound)
        (same ▸ rest.told) (same ▸ roaming) exploring registered fun unfinished => ?_
      rw [noted]
      exact startDialog_running accepted unfinished
    exact joined.settle

omit [Host η] in
/-- Asking free roam for another sub-state keeps a game attended. -/
theorem requestSubState_attended (answerable : game.Answerable) (attended : game.Attended)
    {next : SubKind} (away : next ≠ .dialog) :
    (game.requestSubState next).value.2.Answerable ∧
      (game.requestSubState next).value.2.Attended := by
  obtain same | ⟨sub, roaming, registered, value⟩ := game.requestSubState_cases next
  · rw [same]
    exact ⟨answerable, attended⟩
  · obtain ⟨-, found⟩ := Machine.freeRoam_eq_ok_iff.1 roaming
    have answers := answerable sub found
    have placed := Machine.subMachine?_withSubMachine found (sub.request next).value
    rw [value]
    refine ⟨fun other same => ?_, fun talking => .inr ?_⟩
    · obtain rfl := Option.some.inj (placed.symm.trans same)
      exact answers.request (fun _ => registered) away
    · have current : sub.current ≠ none := by
        change (game.machine.withSubMachine (sub.request next).value).subKind? = _ at talking
        rw [Machine.subKind?_withSubMachine found, (sub.request_keeps next).1] at talking
        simp [talking]
      unfold subRequest?
      change (game.machine.withSubMachine _).subMachine?.bind _ ≠ none
      rw [placed]
      exact answers.pending_request current next

section Runs

variable [SceneLoader ℓ]

/-- Sub-states can answer after every operation, and unless the story starts over, every operation
keeps a game attended. -/
theorem apply_attended (rest : game.AtRest) (answerable : game.Answerable)
    (attended : game.Attended) (operation : Operation η ℓ) :
    (game.apply operation).Answerable ∧
      ((game.apply operation).Attended ∨
        operation = .reset ∧ game.machine.subKind? = some .dialog ∧ game.subRequest? = none) := by
  cases operation with
  | tick tick => exact (tick_attended rest answerable attended tick).imp_right .inl
  | talkTo character =>
    exact ((game.talkTo_talked character).attended rest answerable attended).imp_right .inl
  | openMenu =>
    have away : SubKind.menu ≠ .dialog := nofun
    exact (requestSubState_attended answerable attended away).imp_right .inl
  | closeMenu =>
    have away : SubKind.exploration ≠ .dialog := nofun
    exact (requestSubState_attended answerable attended away).imp_right .inl
  | requestState request =>
    have asks := game.requestState_asks request
    exact ⟨answerable.congr asks.subMachine?, .inl (asks.attended attended)⟩
  | advanceScenario =>
    have asks := game.advanceScenario_asks
    exact ⟨answerable.congr asks.subMachine?, .inl (asks.attended attended)⟩
  | reset =>
    refine ⟨answerable.congr rfl, ?_⟩
    by_cases lost : game.machine.subKind? = some .dialog ∧ game.subRequest? = none
    · exact .inr ⟨rfl, lost⟩
    · exact .inl fun talking => .inr fun silent => lost ⟨talking, silent⟩
  | _ => exact ⟨answerable.congr rfl, .inl (attended.congr rfl id)⟩

/-- A story that starts over leaves the dialog sub-state unattended, unless that has asked for its
successor. -/
theorem reset_unattended (talking : game.machine.subKind? = some .dialog)
    (silent : game.subRequest? = none) : ¬ (game.apply .reset).Attended := by
  intro attended
  obtain running | asked := attended talking
  · exact Bool.false_ne_true running
  · exact asked silent

/-- Unless a story starts over during a conversation that asks for nothing, every run keeps a game
attended. -/
theorem runAll_attended (rest : game.AtRest) (answerable : game.Answerable)
    (attended : game.Attended) {operations : List (Operation η ℓ)}
    (kept : ∀ earlier, earlier ++ [.reset] <+: operations →
      ¬ ((game.runAll earlier).machine.subKind? = some .dialog ∧
        (game.runAll earlier).subRequest? = none)) :
    (game.runAll operations).Attended := by
  induction operations generalizing game with
  | nil => exact attended
  | cons operation others ih =>
    obtain ⟨answers, attends | ⟨rfl, lost⟩⟩ := apply_attended rest answerable attended operation
    · refine ih (apply_atRest rest operation).1 answers attends fun earlier before => ?_
      exact kept (operation :: earlier) ((List.prefix_cons_inj operation).2 before)
    · have first : [.reset] <+: Operation.reset :: others := ⟨others, rfl⟩
      exact absurd lost (kept [] first)

omit [SceneLoader ℓ] in
/-- A game that was opened is attended. -/
theorem ofBundle_attended {bundle : Bundle} {config : Config} {host : η} {loader : ℓ}
    {opened : Game η ℓ} (valid : (Game.ofBundle bundle config host loader).value = .ok opened) :
    opened.Answerable ∧ opened.Attended := by
  obtain ⟨machine, entered, rfl⟩ := ofBundle_cases valid
  obtain ⟨vacant, told⟩ := Machine.ofPlan_vacant config.states config.tracing
  have change := Machine.enterState_moved vacant.sound (Machine.told_of_queue told) entered
  exact (settleable_of_roamless change.roamless).settle

omit [SceneLoader ℓ] [Host η] in
/-- The current sub-state is that of a sound machine, which has one only in free roam. -/
theorem currentSubState?_eq (sound : game.machine.Sound) :
    game.currentSubState? = game.machine.subKind? := by
  unfold currentSubState?
  split
  · rfl
  · next elsewhere =>
    by_contra roaming
    exact elsewhere (sound.roams (Ne.symm roaming))

/-- The dialog sub-state is attended throughout a run exactly if no story starts over while the
sub-state is current and asks for nothing. Whatever else happens, while the dialog sub-state of
free roam is current, its dialog is running, or it has asked for a successor. -/
theorem dialog_substate_attended {bundle : Bundle} {config : Config} {host : η} {loader : ℓ}
    {opened : Game η ℓ} (valid : (Game.ofBundle bundle config host loader).value = .ok opened)
    (operations : List (Operation η ℓ)) :
    (∀ earlier, earlier <+: operations →
        (opened.runAll earlier).currentSubState? = some .dialog →
          (opened.runAll earlier).conversation.isRunning = true ∨
            (opened.runAll earlier).subRequest? ≠ none) ↔
      ∀ earlier, earlier ++ [.reset] <+: operations →
        ¬ ((opened.runAll earlier).currentSubState? = some .dialog ∧
          (opened.runAll earlier).subRequest? = none) := by
  have start := (ofBundle_atRest valid).1
  obtain ⟨answerable, attended⟩ := ofBundle_attended valid
  have same (earlier : List (Operation η ℓ)) :
      (opened.runAll earlier).currentSubState? = (opened.runAll earlier).machine.subKind? :=
    currentSubState?_eq (runAll_atRest start earlier).sound
  simp only [same]
  constructor
  · intro always earlier before lost
    have last : (opened.runAll (earlier ++ [.reset])).Attended := always _ before
    rw [runAll_append] at last
    exact reset_unattended lost.1 lost.2 last
  · intro kept earlier before
    exact runAll_attended start answerable attended fun first within =>
      kept first (within.trans before)

/-- A character that is talked to, and a story that never starts over. -/
theorem dialog_substate_attended_talking :
    ∃ opened, (Game.ofBundle .greeting .roaming Recorder.empty InstantLoader.empty).value =
        .ok opened ∧
      (opened.runAll [.talkTo "guide"]).currentSubState? = some .dialog ∧
      ((opened.runAll [.talkTo "guide"]).conversation.isRunning = true ∨
        (opened.runAll [.talkTo "guide"]).subRequest? ≠ none) := by
  refine ⟨_, rfl, rfl, ?_⟩
  have valid : (Game.ofBundle .greeting .roaming Recorder.empty InstantLoader.empty).value =
    .ok _ := rfl
  refine (dialog_substate_attended valid [.talkTo "guide"]).2 (fun earlier before => ?_)
    [.talkTo "guide"] (List.prefix_refl _) rfl
  have member := before.subset (List.mem_append_right earlier (List.mem_singleton_self _))
  cases List.mem_singleton.1 member

/-- A story that starts over during a conversation leaves the dialog sub-state for good: nothing is
running, nothing is asked for, a tick changes nothing about it, and nobody can be talked to. -/
theorem dialog_substate_orphaned :
    ∃ opened, (Game.ofBundle .greeting .roaming Recorder.empty InstantLoader.empty).value =
        .ok opened ∧
      let game := opened.runAll [.talkTo "guide", .reset, .tick (.press .none)]
      game.currentSubState? = some .dialog ∧ game.conversation.isRunning = false ∧
        game.subRequest? = none ∧
          (game.talkTo "guide").value.1 = .error (.busy .dialog) := by
  exact ⟨_, rfl, rfl, rfl, rfl, rfl⟩

end Runs

end Game

end Narrative
