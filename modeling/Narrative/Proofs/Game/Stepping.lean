import Narrative.Proofs.Game.Deed
import Narrative.Proofs.Game.Handover

/-!
# No step of the scenario is lost

A step of the scenario that leads to another state is carried out by a request, which waits with the
active state. That request is the next one that is taken: nothing replaces or drops it, and the
scenario does not move before. A step is taken in the title, where the request is met in the same
tick, or when a scenario dialog is over. Then no dialog is running that could ask for anything else,
and none is started until the request is met.
-/

namespace Narrative

/-- The steps of the scenario that a request is to carry out: entering a state at once, changing to
a state, and playing a dialog, for which the event state is changed to. -/
inductive StoryStep.CarriedOutBy : StoryStep → Request → Prop where
  /-- A state is entered at once. -/
  | enterState (target : StateKind) : CarriedOutBy (.enterState target) (.enterScene target)
  /-- A state is changed to. -/
  | switchState (target : StateKind) : CarriedOutBy (.switchState target) (.switch target)
  /-- A dialog is played in the event state. -/
  | playDialog (dialog : String) (ending : Bool) :
      CarriedOutBy (.playDialog dialog ending) (.switch .event)

/-- The game makes the request that is to carry out a step. -/
theorem Game.requestOf_eq_some_iff {step : StoryStep} {request : Request} :
    Game.requestOf step = some request ↔ step.CarriedOutBy request := by
  constructor
  · intro asked
    cases step with
    | enterState target =>
      obtain rfl := Option.some.inj asked
      exact .enterState target
    | switchState target =>
      obtain rfl := Option.some.inj asked
      exact .switchState target
    | playDialog dialog ending =>
      obtain rfl := Option.some.inj asked
      exact .playDialog dialog ending
    | _ => cases asked
  · intro carried
    cases carried <;> rfl

namespace StoryEvent

variable {η ℓ : Type}

/-- What may come next: after a step that a request is to carry out, that this request is taken. -/
def Follows : StoryEvent η ℓ → StoryEvent η ℓ → Prop
  | stepped step, next => ∀ request, step.CarriedOutBy request → next = taken request
  | _, _ => True

/-- The last thing that became of the story is a step that a request is to carry out. -/
def Pledges (past : List (StoryEvent η ℓ)) (request : Request) : Prop :=
  ∃ step, past.getLast? = some (stepped step) ∧ step.CarriedOutBy request

/-- No request is to carry out the last step. -/
def Unpledged (past : List (StoryEvent η ℓ)) : Prop := ∀ request, ¬ Pledges past request

variable {past : List (StoryEvent η ℓ)} {event : StoryEvent η ℓ}

/-- Where no request is to carry out the last step, anything may come next. -/
theorem isChain_snoc (chain : past.IsChain Follows) (free : Unpledged past)
    (next : StoryEvent η ℓ) : (past ++ [next]).IsChain Follows := by
  refine List.isChain_append.2 ⟨chain, .singleton next, fun last standing first same => ?_⟩
  cases last with
  | stepped step => exact fun request asked => absurd ⟨step, standing, asked⟩ (free request)
  | _ => trivial

/-- After anything but a step, no request is to carry out a step. -/
theorem unpledged_snoc (past : List (StoryEvent η ℓ)) (other : ∀ step, event ≠ stepped step) :
    Unpledged (past ++ [event]) := by
  rintro request ⟨step, last, -⟩
  rw [List.getLast?_concat] at last
  exact other step (Option.some.inj last)

end StoryEvent

namespace Game

open StoryEvent (Follows Pledges Unpledged)

variable {η ℓ : Type} {game after : Game η ℓ} {past : List (StoryEvent η ℓ)}

/-- A game in which the request for the last step of the past waits. -/
structure Keeps (past : List (StoryEvent η ℓ)) (game : Game η ℓ) : Prop where
  /-- So far everything followed. -/
  chain : past.IsChain Follows
  /-- The request for the last step waits. -/
  waits : ∀ request, Pledges past request → game.machine.pendingRequest? = some request

/-- A game between two operations: if a request for the last step waits, then that of a scenario
dialog that is over. -/
structure Steady (past : List (StoryEvent η ℓ)) (game : Game η ℓ) : Prop extends
    Keeps past game where
  /-- The step was taken in the event state. -/
  event : ∀ request, Pledges past request →
    game.machine.active? = some .event ∧ game.conversation.isRunning = false

/-- Where no request is to carry out the last step, nothing needs to wait. -/
theorem Steady.of_unpledged (chain : past.IsChain Follows) (free : Unpledged past)
    (game : Game η ℓ) : game.Steady past :=
  ⟨⟨chain, fun request pledged => absurd pledged (free request)⟩,
    fun request pledged => absurd pledged (free request)⟩

/-- In another state than event, no request is to carry out the last step. -/
theorem Steady.free (steady : game.Steady past) (elsewhere : game.machine.active? ≠ some .event) :
    Unpledged past := fun request pledged => elsewhere (steady.event request pledged).1

/-- While a dialog is running, no request is to carry out the last step. -/
theorem Steady.free_of_running (steady : game.Steady past)
    (running : game.conversation.isRunning = true) : Unpledged past := by
  intro request pledged
  rw [(steady.event request pledged).2] at running
  cases running

/-- Where nothing waits, no request is to carry out the last step. -/
theorem Keeps.free (keeps : game.Keeps past) (silent : game.machine.pendingRequest? = none) :
    Unpledged past := by
  intro request pledged
  rw [keeps.waits request pledged] at silent
  cases silent

/-- Where nothing waits with a steady game, no request is to carry out the last step. -/
theorem Steady.free_of_silent (steady : game.Steady past)
    (silent : game.machine.pendingRequest? = none) : Unpledged past := steady.toKeeps.free silent

/-- Steps that leave the story alone keep a game steady. -/
theorem Steady.spares (steady : game.Steady past) (spares : game.Spares after) :
    after.Steady past where
  chain := steady.chain
  waits request pledged := spares.request.trans (steady.waits request pledged)
  event request pledged := by
    obtain ⟨active, idle⟩ := steady.event request pledged
    refine ⟨spares.active.trans active, ?_⟩
    by_contra running
    rw [spares.running (by simpa using running)] at idle
    cases idle

/-- The request for a step waits once the step is taken. -/
theorem advanceScenario_waits {step : StoryStep} {request : Request}
    (stepped : .stepped step ∈ game.stepStory) (asked : step.CarriedOutBy request) :
    game.advanceScenario.value.2.machine.pendingRequest? = some request := by
  unfold stepStory at stepped
  unfold advanceScenario
  cases active : game.machine.active? with
  | none =>
    rw [active] at stepped
    cases stepped
  | some kind =>
    rw [active] at stepped
    cases kind with
    | loading => cases stepped
    | _ =>
      obtain rfl := StoryEvent.stepped.inj (List.mem_singleton.1 stepped)
      dsimp only [Logged.value_bind]
      rw [requestOf_eq_some_iff.2 asked]
      exact Machine.pendingRequest?_request active request

/-- A step is taken at most, and nothing else becomes of the story with it. -/
theorem stepStory_cases (game : Game η ℓ) :
    game.stepStory = [] ∨ ∃ step, game.stepStory = [.stepped step] := by
  unfold stepStory
  split
  · exact .inl rfl
  · exact .inl rfl
  · exact .inr ⟨_, rfl⟩

/-- Taking a step where no request is to carry out the last one. -/
theorem advanceScenario_keeps_step (chain : past.IsChain Follows) (free : Unpledged past)
    (game : Game η ℓ) : game.advanceScenario.value.2.Keeps (past ++ game.stepStory) := by
  obtain none | ⟨step, taken⟩ := game.stepStory_cases
  · rw [none, List.append_nil]
    exact (Steady.of_unpledged chain free _).toKeeps
  · have stepped : .stepped step ∈ game.stepStory := taken ▸ List.mem_singleton_self _
    rw [taken]
    refine ⟨StoryEvent.isChain_snoc chain free _, ?_⟩
    rintro request ⟨other, last, asked⟩
    rw [List.getLast?_concat] at last
    obtain rfl := StoryEvent.stepped.inj (Option.some.inj last)
    exact advanceScenario_waits stepped asked

/-- A scenario dialog that is over hands on what it asked for, or has the scenario take a step. -/
theorem handOver_steady (chain : past.IsChain Follows) (free : Unpledged past)
    (event : game.machine.active? = some .event) {progress : Progress}
    (ended : game.conversation.isRunning = false ↔ progress = .done) :
    (if progress = .done ∧ !game.forwardRequest.value.1 then
        Prod.snd <$> game.forwardRequest.value.2.advanceScenario
      else pure game.forwardRequest.value.2).value.Steady
      (past ++ game.handOverStory progress) := by
  unfold handOverStory
  split
  · next finished =>
    have asks := game.forwardRequest_asks
    have idle : game.forwardRequest.value.2.conversation.isRunning = false :=
      (congrArg Option.isSome asks.session).trans (ended.2 finished.1)
    obtain ⟨conversation, active, -⟩ := game.forwardRequest.value.2.advanceScenario_keeps
    refine ⟨advanceScenario_keeps_step chain free _, fun _ _ => ⟨?_, ?_⟩⟩
    · exact active.trans (asks.machine.agrees.active?.trans event)
    · exact (congrArg Conversation.isRunning conversation).trans idle
  · rw [List.append_nil]
    exact .of_unpledged chain free _

/-- The story starts over, if that is pending, where no request is to carry out the last step. -/
theorem pendingStory_unpledged (chain : past.IsChain Follows) (free : Unpledged past)
    (game : Game η ℓ) :
    (past ++ game.pendingStory).IsChain Follows ∧ Unpledged (past ++ game.pendingStory) := by
  unfold pendingStory
  split
  · exact ⟨StoryEvent.isChain_snoc chain free _, StoryEvent.unpledged_snoc past nofun⟩
  · rw [List.append_nil]
    exact ⟨chain, free⟩

variable [Host η]

/-- The active state does its part of a tick. -/
theorem updateActive_keeps (steady : game.Steady past) (tick : Tick) :
    (game.updateActive tick).value.Keeps (past ++ game.activeStory tick) := by
  have chain := steady.chain
  have elsewhere (free : Unpledged past) (after : Game η ℓ) : after.Keeps (past ++ []) := by
    rw [List.append_nil]
    exact (Steady.of_unpledged chain free after).toKeeps
  unfold updateActive activeStory
  cases active : game.machine.active? with
  | none =>
    rw [List.append_nil]
    exact steady.toKeeps
  | some kind =>
    have free (other : kind ≠ .event) : Unpledged past := by
      refine steady.free fun event => other ?_
      exact Option.some.inj (active.symm.trans event)
    cases kind with
    | title =>
      dsimp only
      unfold updateTitle updateTitleStory
      split
      · obtain ⟨longer, still⟩ := pendingStory_unpledged chain (free nofun) game
        rw [← List.append_assoc]
        exact advanceScenario_keeps_step longer still game.resetIfPending.value
      · exact elsewhere (free nofun) game
    | event =>
      dsimp only
      rw [updateEvent_value]
      unfold updateEventStory
      split
      · next running =>
        let turned := (game.resumeDialog tick).value.2
        have still : turned.machine.active? = some .event := active
        have ended : turned.conversation.isRunning = false ↔
            (game.resumeDialog tick).value.1 = .done :=
          (Conversation.resume_executes running tick (Host.animating game.host) game.flags).ended
        exact (handOver_steady chain (steady.free_of_running running) still ended).toKeeps
      · rw [List.append_nil]
        exact steady.toKeeps
    | _ => exact elsewhere (free nofun) _

omit [Host η] in
/-- The request of the current state is the one for the last step, if there is one. -/
theorem Keeps.taken (keeps : game.Keeps past) :
    (past ++ game.requestStory).IsChain Follows ∧ Unpledged (past ++ game.requestStory) := by
  unfold requestStory
  cases waiting : game.machine.pendingRequest? with
  | none =>
    rw [Option.map_none, Option.toList_none, List.append_nil]
    exact ⟨keeps.chain, keeps.free waiting⟩
  | some request =>
    rw [Option.map_some, Option.toList_some]
    refine ⟨List.isChain_append.2 ⟨keeps.chain, .singleton _, ?_⟩,
      StoryEvent.unpledged_snoc past nofun⟩
    intro last standing first same
    obtain rfl : .taken request = first := Option.some.inj same
    cases last with
    | stepped step =>
      intro other asked
      have waits := keeps.waits other ⟨step, standing, asked⟩
      exact congrArg StoryEvent.taken (Option.some.inj (waiting.symm.trans waits))
    | _ => trivial

/-- Nothing becomes of the story at a departure. -/
theorem reactionStory_departure (game : Game η ℓ) (notice : Notice)
    (departing : notice.isArrival = false) : game.reactionStory notice = [] := by
  cases notice with
  | entered _ => cases departing
  | _ => rfl

/-- The reaction to entering the event state. -/
theorem onEventEntered_steady (chain : past.IsChain Follows) (free : Unpledged past)
    (event : game.machine.active? = some .event) :
    game.onEventEntered.value.Steady (past ++ game.eventStory) := by
  have idle : game.Steady (past ++ []) := by
    rw [List.append_nil]
    exact .of_unpledged chain free game
  unfold onEventEntered eventStory
  cases game.storyline.dialog with
  | none => exact idle
  | some name =>
    dsimp only
    cases game.bundle.dialog name with
    | error _ => exact idle
    | ok dialog =>
      dsimp only
      cases accepted : game.startDialog dialog with
      | error error => exact idle
      | ok started =>
        obtain ⟨turn, opened, value⟩ := startDialog_cases accepted
        have active : started.value.2.machine.active? = some .event :=
          (startDialog_keeps accepted).1 ▸ event
        have ended : started.value.2.conversation.isRunning = false ↔ started.value.1 = .done := by
          rw [value]
          exact (Conversation.start_executes opened).ended
        exact handOver_steady chain free active ended

/-- The reaction to an arrival. -/
theorem react_arrival_steady (chain : past.IsChain Follows) (free : Unpledged past)
    {kind : StateKind} (active : game.machine.active? = some kind) :
    (game.react (.entered kind)).value.Steady (past ++ game.reactionStory (.entered kind)) := by
  unfold react
  rw [Logged.value_bind]
  cases kind with
  | event => exact onEventEntered_steady chain free active
  | freeRoam =>
    obtain ⟨longer, still⟩ := pendingStory_unpledged chain free game
    exact .of_unpledged longer still _
  | _ =>
    change Steady (past ++ []) _
    rw [List.append_nil]
    exact .of_unpledged chain free _

/-- Settling keeps a game steady, if nothing waits with a state that was only just entered. -/
theorem settle_steady {departures : List Notice} {arrival : Option StateKind}
    (orderly : game.Orderly departures arrival) (steady : game.Steady past)
    (silent : arrival ≠ none → game.machine.pendingRequest? = none) :
    game.settle.value.Steady (past ++ game.settleStory) := by
  unfold settleStory
  cases arrival with
  | none =>
    have spares : game.Spares game.settle.value := reactBatches_spares 3 fun notice member =>
      orderly.departing notice (by simpa [orderly.queue] using member)
    rw [settleTrace, reactionsTrace_departures reactionStory_departure orderly, List.append_nil]
    exact steady.spares spares
  | some kind =>
    obtain ⟨-, active, -⟩ := settle_arrival orderly
    have free := steady.free_of_silent (silent (Option.some_ne_none kind))
    rw [settleReactions_arrival reactionStory_departure orderly]
    exact (react_arrival_steady steady.chain free active).spares (settle_spares orderly).2

/-- Talking to a character leaves the scenario alone. -/
theorem talkStory_nil (rest : game.AtRest) (character : String) :
    game.talkStory character = [] := by
  have talks := game.talkTo_talks (fun _ => []) settleStory character
  change game.Talks _ _ (game.talkStory character) _ at talks
  generalize game.talkStory character = story at talks ⊢
  generalize (game.talkTo character).value.2 = after at talks
  cases talks with
  | declined => rfl
  | refused => rfl
  | @accepted sub approachable dialog started accepted turned repertoire noted =>
    obtain ⟨roaming, exploring, -⟩ := approachable_cases approachable
    have machine : turned.machine = game.machine := noted ▸ (startDialog_keeps accepted).1
    have orderly := joined_orderly (machine ▸ rest.sound) (machine ▸ rest.told)
      (machine ▸ roaming) exploring started.value.1
    exact reactionsTrace_departures reactionStory_departure orderly 2

/-- Talking to a character keeps a game steady: in free roam no step is still to be carried out. -/
theorem Talked.steady {attempts : List (Attempt η ℓ)} (talked : game.Talked attempts after)
    (steady : game.Steady past) : after.Steady past := by
  cases talked with
  | declined => exact steady
  | refused => exact steady
  | accepted approachable dialog accepted repertoire noted =>
    obtain ⟨roaming, -, -⟩ := approachable_cases approachable
    have freeRoam := (Machine.freeRoam_eq_ok_iff.1 roaming).1
    refine .of_unpledged steady.chain (steady.free ?_) _
    rw [freeRoam]
    exact nofun

variable [SceneLoader ℓ]

/-- The first half of a tick keeps a game steady. -/
theorem ready_steady (rest : game.AtRest) (steady : game.Steady past) :
    game.ready.Steady (past ++ game.pollScene.value.settleStory) := by
  obtain ⟨arrival, orderly⟩ := pollScene_atRest rest
  refine settle_steady orderly ?_ (pollScene_unasked rest orderly)
  obtain same | ⟨inactive, -⟩ := Machine.pollScene_unasked rest.sound game.loader
  · exact steady.spares (.of_same same rfl rfl)
  · exact .of_unpledged steady.chain (steady.free (by simp [inactive])) _

/-- A tick keeps a game steady. -/
theorem tick_steady (rest : game.AtRest) (steady : game.Steady past) (tick : Tick) :
    (game.tick tick).value.Steady (past ++ game.tickStory tick) := by
  have updated := updateActive_keeps (ready_steady rest steady) tick
  obtain ⟨chain, free⟩ := updated.taken
  obtain ⟨departures, arrival, -, orderly⟩ := proceed_atRest (ready_atRest rest) tick
  have settled := settle_steady orderly (.of_unpledged chain free _) fun arrives =>
    proceed_unasked (ready_atRest rest) tick (orderly.active_of_arrival arrives)
  unfold tickStory proceedStory
  simp only [← List.append_assoc]
  exact settled

/-- An operation keeps a game steady if it leaves the story to the game. -/
theorem apply_steady (rest : game.AtRest) (steady : game.Steady past)
    {operation : Operation η ℓ} (leaves : operation.LeavesStory) :
    (game.apply operation).Steady (past ++ game.story operation) := by
  have spared {after : Game η ℓ} (spares : game.Spares after) : after.Steady (past ++ []) := by
    rw [List.append_nil]
    exact steady.spares spares
  cases operation with
  | tick tick => exact tick_steady rest steady tick
  | talkTo character =>
    change Steady (past ++ game.talkStory character) (game.talkTo character).value.2
    rw [talkStory_nil rest, List.append_nil]
    exact (game.talkTo_talked character).steady steady
  | openMenu => exact spared (game.requestSubState_spares .menu)
  | closeMenu => exact spared (game.requestSubState_spares .exploration)
  | requestState _ => exact leaves.elim
  | advanceScenario => exact leaves.elim
  | reset => exact leaves.elim
  | _ => exact spared (.of_same rfl rfl rfl)

/-- A run keeps a game steady if it leaves the story to the game. -/
theorem runAll_steady (rest : game.AtRest) (steady : game.Steady past)
    {operations : List (Operation η ℓ)}
    (leaves : ∀ operation ∈ operations, operation.LeavesStory) :
    (game.runAll operations).Steady (past ++ game.runStory operations) := by
  induction operations generalizing game past with
  | nil => simpa [runStory, runAll] using steady
  | cons operation others ih =>
    have first := apply_steady rest steady (leaves operation List.mem_cons_self)
    unfold runStory
    rw [← List.append_assoc]
    exact ih (apply_atRest rest operation).1 first
      fun other member => leaves other (List.mem_cons_of_mem _ member)

omit [SceneLoader ℓ] in
/-- A game that was opened is steady. -/
theorem ofBundle_steady {bundle : Bundle} {config : Config} {host : η} {loader : ℓ}
    {opened : Game η ℓ} (valid : (Game.ofBundle bundle config host loader).value = .ok opened) :
    opened.Steady (openingStory bundle config host loader) := by
  obtain ⟨machine, entered, rfl⟩ := ofBundle_cases valid
  obtain ⟨vacant, told⟩ := Machine.ofPlan_vacant config.states config.tracing
  have change := Machine.enterState_moved vacant.sound (Machine.told_of_queue told) entered
  let storyline := ((Storyline.empty config.tracing).load bundle.scenario).value
  let unmoved : Game η ℓ := unopened bundle config machine storyline host loader
  have orderly : unmoved.Orderly _ _ := orderly_of_moved told nofun change
  have begun : unmoved.Steady [] := .of_unpledged .nil (fun _ pledged => by
    obtain ⟨_, last, -⟩ := pledged
    cases last) unmoved
  unfold openingStory openingTrace
  rw [entered]
  exact settle_steady orderly begun fun active => Machine.enterState_unasked entered active

omit [SceneLoader ℓ] in
/-- The scenario moves in the steps that it takes and where the story starts over, and nowhere
else. -/
theorem Deed.unmoved {permitted : (Flags → Flags) → Prop} {story : List (StoryEvent η ℓ)}
    {entries : List Entry} (deed : game.Deed permitted story entries after)
    (still : ∀ event ∈ story, event.moves = false) : after.storyline = game.storyline := by
  cases deed with
  | begins _ accepted => exact (startDialog_keeps accepted).2
  | steps => cases still _ List.mem_cons_self
  | restarts => cases still _ List.mem_cons_self
  | _ => rfl

omit [SceneLoader ℓ] in
/-- Deeds in which the scenario does not move leave it where it stands. -/
theorem Deeds.unmoved {permitted : (Flags → Flags) → Prop} {story : List (StoryEvent η ℓ)}
    {entries : List Entry} (deeds : game.Deeds permitted story entries after)
    (still : ∀ event ∈ story, event.moves = false) : after.storyline = game.storyline := by
  induction deeds with
  | none => rfl
  | more deed _ ih =>
    have early := deed.unmoved fun event member => still event (List.mem_append_left _ member)
    exact (ih fun event member => still event (List.mem_append_right _ member)).trans early

/-- As long as only the game itself asks for states and moves the scenario, no step of the scenario
is lost. A step that is carried out by a request has the request wait with the active state once it
is taken, and of all that becomes of the story, that this request is taken comes next; at the end of
a run it still waits if it was not taken. Where the story tells neither a step nor that it starts
over, the scenario stands where it stood. -/
theorem scenario_steps_taken {bundle : Bundle} {config : Config} {host : η} {loader : ℓ}
    {opened : Game η ℓ} (valid : (Game.ofBundle bundle config host loader).value = .ok opened)
    (operations : List (Operation η ℓ))
    (leaves : ∀ operation ∈ operations, operation.LeavesStory) :
    let story := openingStory bundle config host loader ++ opened.runStory operations
    story.IsChain Follows ∧
      (∀ step request, story.getLast? = some (.stepped step) → step.CarriedOutBy request →
        (opened.runAll operations).machine.pendingRequest? = some request) ∧
      (∀ (game : Game η ℓ) step request, .stepped step ∈ game.stepStory →
        step.CarriedOutBy request →
          game.advanceScenario.value.2.machine.pendingRequest? = some request) ∧
      ∀ earlier later, operations = earlier ++ later →
        (∀ event ∈ (opened.runAll earlier).runStory later, event.moves = false) →
          (opened.runAll operations).storyline = (opened.runAll earlier).storyline := by
  intro story
  have rest := (ofBundle_atRest valid).1
  have steady := runAll_steady rest (ofBundle_steady valid) leaves
  refine ⟨steady.chain, fun step request last asked => steady.waits request ⟨step, last, asked⟩,
    fun game step request => advanceScenario_waits, fun earlier later split still => ?_⟩
  have row : (opened.runAll earlier).Deeds (fun _ => True) _ _
      ((opened.runAll earlier).runAll later) :=
    runAll_deeds fun operation _ => operation.changesFlags
  rw [split, runAll_append]
  exact row.unmoved still

end Game

/-- A dialog that is over as soon as it starts. -/
def DialogGraph.hush : DialogGraph :=
  ⟨⟨"hush", [⟨.start, [⟨Port.exit, some 1⟩]⟩, ⟨.finish, []⟩]⟩, none⟩

/-- A story of which the hush is the first step, the title the second and free roam the third. -/
def Bundle.hush : Bundle :=
  { Bundle.empty.addDialog .hush with
    scenario := some ⟨"main",
      [⟨.start, [⟨Port.exit, some 1⟩]⟩, ⟨.event "hush", [⟨Port.exit, some 2⟩]⟩,
        ⟨.enterScene .title, [⟨Port.exit, some 3⟩]⟩, ⟨.sceneChange .freeRoam, []⟩]⟩ }

/-- The player starts the story, and asks for this and that before time passes. -/
def Operation.fidgeting : List (Operation Recorder InstantLoader) :=
  [.tick (.press ⟨true, false, false⟩), .talkTo "guide", .openMenu, .closeMenu]

/-- The hush is over at the end of the tick in which it starts, and the step that enters the title
waits whatever is asked for in between, until the next tick takes it. From the title the story goes
on to free roam in one tick. -/
theorem Game.scenario_steps_taken_hush :
    ∃ opened, (Game.ofBundle .hush .staged Recorder.empty InstantLoader.empty).value =
        .ok opened ∧
      (∀ operation ∈ Operation.fidgeting, operation.LeavesStory) ∧
      (opened.runAll Operation.fidgeting).machine.pendingRequest? = some (.enterScene .title) ∧
      opened.runStory (Operation.fidgeting ++
          [.tick (.press .none), .tick (.press ⟨true, false, false⟩)]) =
        [.stepped (.playDialog "hush" false), .taken (.switch .event),
          .stepped (.enterState .title), .taken (.enterScene .title),
          .stepped (.switchState .freeRoam), .taken (.switch .freeRoam)] := by
  have valid : (Game.ofBundle .hush .staged Recorder.empty InstantLoader.empty).value = .ok _ := rfl
  have leaves : ∀ operation ∈ Operation.fidgeting, operation.LeavesStory := by
    intro operation member
    simp only [Operation.fidgeting, List.mem_cons, List.not_mem_nil, or_false] at member
    obtain rfl | rfl | rfl | rfl := member <;> trivial
  obtain ⟨-, waits, -⟩ := Game.scenario_steps_taken valid Operation.fidgeting leaves
  exact ⟨_, valid, leaves, waits (.enterState .title) (.enterScene .title) rfl (.enterState .title),
    rfl⟩

end Narrative
