import Narrative.Proofs.Game.Honours
import Narrative.Proofs.Game.Ownership

/-!
# The state that a dialog asks for

The state that a dialog asks for is entered next: until the request for it is taken, only another
effect of a dialog may replace it, and the scenario does not move.

There is one way to break this. A scenario dialog that asks as it starts is handed on at once, and
the next tick goes on with the dialog before it takes the request. If the dialog ends in that tick
without asking again, nothing is handed on then, and the scenario takes its step as if nobody had
asked. Such a tick lets the scenario overtake the dialog, and a run without one honours everything
that dialogs ask for.
-/

namespace Narrative

/-- Whether an operation leaves it to the game to ask for states and to move the scenario. -/
def Operation.LeavesStory {η ℓ : Type} : Operation η ℓ → Prop
  | requestState _ => False
  | advanceScenario => False
  | reset => False
  | _ => True

namespace Game

open Happening (Owing Follows)

variable {η ℓ : Type} [Host η] {game after : Game η ℓ} {past : List Happening}

/-- A tick lets the scenario overtake a dialog: the scenario dialog ends without asking for a state,
what it asked for before still waits, and the scenario takes a step that moves it or that replaces
what waits. -/
structure Overtaken (game : Game η ℓ) (tick : Tick) : Prop where
  /-- A scenario is played. -/
  event : game.machine.active? = some .event
  /-- Its dialog is running. -/
  running : game.conversation.isRunning = true
  /-- A request waits. -/
  waits : game.machine.pendingRequest? ≠ none
  /-- The dialog ends in this tick. -/
  ended : (game.resumeDialog tick).value.1 = .done
  /-- It asks for nothing in this tick. -/
  silent : Effect.targets (game.activeEffects tick) = []
  /-- The scenario moves, or something else waits then. -/
  lost : (game.updateActive tick).value.storyline.node ≠ game.storyline.node ∨
    (game.updateActive tick).value.machine.pendingRequest? ≠ game.machine.pendingRequest?

/-- A dialog that goes on leaves to be handed on what its effects asked for last. -/
theorem resumeDialog_honours (reliable : game.Reliable past)
    (running : game.conversation.isRunning = true) (tick : Tick) :
    let turned := (game.resumeDialog tick).value.2
    let effects :=
      game.conversation.resumeEffects tick (Host.animating game.host) game.flags
    turned.Honours past ∧
      turned.conversation.requested = (Effect.targets effects).getLast? ∧
      (turned.conversation.isRunning = false ↔ (game.resumeDialog tick).value.1 = .done) := by
  intro turned effects
  have executes := Conversation.resume_executes running tick (Host.animating game.host) game.flags
  refine ⟨reliable.congr rfl rfl fun _ => running, ?_, executes.ended⟩
  refine executes.requested.trans ?_
  rw [reliable.handed, Option.or_none]

/-- A scenario dialog that ends without having asked for anything in the tick has the scenario take
its step. -/
theorem updateActive_advances (handed : game.conversation.requested = none)
    (event : game.machine.active? = some .event) (running : game.conversation.isRunning = true)
    {tick : Tick} (ended : (game.resumeDialog tick).value.1 = .done)
    (silent : Effect.targets (game.activeEffects tick) = []) :
    (game.updateActive tick).value = (game.resumeDialog tick).value.2.advanceScenario.value.2 := by
  have executes := Conversation.resume_executes running tick (Host.animating game.host) game.flags
  have nothing : (game.resumeDialog tick).value.2.conversation.requested = none := by
    refine executes.requested.trans ?_
    unfold activeEffects at silent
    rw [event] at silent
    rw [silent, handed]
    rfl
  unfold updateActive
  rw [event]
  change (game.updateEvent tick).value = _
  rw [updateEvent_value, if_pos running]
  dsimp only
  rw [forwardRequest_handed nothing]
  exact congrArg Logged.value (if_pos ⟨ended, rfl⟩)

/-- The scenario dialog does its part of a tick. -/
theorem updateActive_event_reliable (reliable : game.Reliable past)
    (event : game.machine.active? = some .event) {tick : Tick} (kept : ¬ game.Overtaken tick) :
    (game.updateActive tick).value.Reliable (past ++ game.activeHappenings tick) := by
  have active : (game.updateActive tick).value = (game.updateEvent tick).value := by
    unfold updateActive
    rw [event]
  have effects : game.activeEffects tick =
      game.conversation.resumeEffects tick (Host.animating game.host) game.flags := by
    unfold activeEffects
    rw [event]
  unfold activeHappenings
  rw [← List.append_assoc]
  by_cases running : game.conversation.isRunning = true
  · obtain ⟨turned, requested, ended⟩ := resumeDialog_honours reliable running tick
    rw [← effects] at requested
    rw [active, updateEvent_value, if_pos running]
    refine handOver_reliable turned event requested ended fun done silent => ?_
    by_contra unfair
    obtain ⟨waits, lost⟩ := not_or.1 unfair
    rw [← updateActive_advances reliable.handed event running done silent] at lost
    exact kept ⟨event, running, waits, done, silent, not_and_or.1 lost⟩
  · have same : (game.updateActive tick).value = game := by
      rw [active, updateEvent_value, if_neg running]
    rw [same, effects, Conversation.resumeEffects_of_idle running]
    exact (Spares.refl game).uneventful reliable

/-- The conversation of free roam does its part of a tick. -/
theorem updateActive_freeRoam_reliable (reliable : game.Reliable past)
    (freeRoam : game.machine.active? = some .freeRoam) (tick : Tick) :
    (game.updateActive tick).value.Reliable (past ++ game.activeHappenings tick) := by
  have active : (game.updateActive tick).value = (game.updateFreeRoam tick).value := by
    unfold updateActive
    rw [freeRoam]
  unfold activeHappenings activeEffects
  dsimp only
  rw [← List.append_assoc, active, updateFreeRoam_value, freeRoam]
  dsimp only
  split
  · next talks =>
    have running := (Bool.and_eq_true_iff.1 talks).1
    obtain ⟨turned, requested, -⟩ := resumeDialog_honours reliable running tick
    -- Whether it asks for exploration or not, the conversation hands on what it asked for.
    have handedOn {gone : Game η ℓ} (spares : (game.resumeDialog tick).value.2.Spares gone)
        (same : gone.conversation = (game.resumeDialog tick).value.2.conversation) :
        gone.forwardRequest.value.2.Reliable
          (past ++ Happening.ofEffects (game.conversation.resumeEffects tick
            (Host.animating game.host) game.flags) ++
            game.movement gone.forwardRequest.value.2) := by
      have dialogs : gone.machine.active? = some .freeRoam := spares.active.trans freeRoam
      obtain ⟨reliable, storyline, -⟩ := forwardRequest_reliable (spares.honours turned)
        (.inr dialogs) ((congrArg Conversation.requested same).trans requested)
      have stands : gone.forwardRequest.value.2.storyline = game.storyline :=
        storyline.trans spares.storyline
      rw [movement_of_same stands, List.append_nil]
      exact reliable
    split
    · refine handedOn (requestExploration_spares _) ?_
      unfold requestExploration
      split <;> rfl
    · exact handedOn (.refl _) rfl
  · exact (Spares.refl game).uneventful reliable

/-- Starting the story over if that is pending leaves nothing that a dialog asked for. -/
theorem resetIfPending_handed (handed : game.conversation.requested = none) :
    game.resetIfPending.value.conversation.requested = none := by
  unfold resetIfPending
  split
  · rfl
  · exact handed

/-- A state without dialogs does its part of a tick. -/
theorem updateActive_elsewhere_reliable (reliable : game.Reliable past)
    (event : game.machine.active? ≠ some .event)
    (freeRoam : game.machine.active? ≠ some .freeRoam) (tick : Tick) :
    (game.updateActive tick).value.Reliable (past ++ game.activeHappenings tick) := by
  have effects : game.activeEffects tick = [] := by
    unfold activeEffects
    dsimp only
    split
    · next active => exact absurd active event
    · next active => exact absurd active freeRoam
    · rfl
  constructor
  · unfold activeHappenings
    rw [effects]
    refine reliable.move (reliable.free_of_elsewhere event freeRoam) (fun active => ?_) game _
    exact absurd ((game.updateActive_quiet tick).standing.active?.symm.trans active) event
  · have handed := reliable.handed
    unfold updateActive
    split
    · unfold updateTitle
      split
      · rw [Logged.value_bind]
        change (advanceScenario _).value.2.conversation.requested = none
        rw [(advanceScenario_keeps _).1]
        exact resetIfPending_handed handed
      · exact handed
    · unfold updateLoading
      split
      · split
        · exact handed
        · exact handed
      · exact handed
    · next active => exact absurd active event
    · next active => exact absurd active freeRoam
    · split
      · exact handed
      · exact handed
    · exact handed

/-- The active state does its part of a tick. -/
theorem updateActive_reliable (reliable : game.Reliable past) {tick : Tick}
    (kept : ¬ game.Overtaken tick) :
    (game.updateActive tick).value.Reliable (past ++ game.activeHappenings tick) := by
  by_cases event : game.machine.active? = some .event
  · exact updateActive_event_reliable reliable event kept
  · by_cases freeRoam : game.machine.active? = some .freeRoam
    · exact updateActive_freeRoam_reliable reliable freeRoam tick
    · exact updateActive_elsewhere_reliable reliable event freeRoam tick

/-- A dialog that is started leaves to be handed on what its effects asked for last. -/
theorem startDialog_asked {dialog : DialogGraph} {started : Logged (Progress × Game η ℓ)}
    (handed : game.conversation.requested = none)
    (accepted : game.startDialog dialog = .ok started) :
    started.value.2.conversation.requested = (Effect.targets
        (game.conversation.startEffects dialog game.flags)).getLast? ∧
      (started.value.2.conversation.isRunning = false ↔ started.value.1 = .done) := by
  obtain ⟨turn, opened, value⟩ := startDialog_cases accepted
  have executes := Conversation.start_executes opened
  rw [value]
  refine ⟨executes.requested.trans ?_, executes.ended⟩
  rw [handed, Option.or_none]

/-- An attempt that is refused executes nothing. -/
theorem startEffects_refused {dialog : DialogGraph} {error : StartError}
    (refused : game.startDialog dialog = .error error) :
    game.conversation.startEffects dialog game.flags = [] := by
  unfold startDialog Conversation.start at refused
  unfold Conversation.startEffects
  cases idle : game.conversation.session with
  | some _ => rfl
  | none =>
    rw [idle] at refused
    cases rooted : dialog.graph.start with
    | error _ => rfl
    | ok _ =>
      rw [rooted] at refused
      cases refused

/-- The reaction to entering the event state starts its dialog. -/
theorem onEventEntered_reliable (reliable : game.Reliable past)
    (event : game.machine.active? = some .event)
    (silent : game.machine.pendingRequest? = none) :
    game.onEventEntered.value.Reliable
      (past ++ game.eventAttempts.flatMap Attempt.happenings ++
        game.movement game.onEventEntered.value) := by
  have idle := (Spares.refl game).uneventful reliable
  unfold onEventEntered eventAttempts
  cases game.storyline.dialog with
  | none => exact idle
  | some name =>
    dsimp only
    cases game.bundle.dialog name with
    | error _ => exact idle
    | ok dialog =>
      dsimp only
      rw [List.flatMap_singleton]
      cases accepted : game.startDialog dialog with
      | error error =>
        unfold Attempt.happenings
        rw [startEffects_refused accepted]
        exact idle
      | ok started =>
        obtain ⟨machine, storyline⟩ := startDialog_keeps accepted
        obtain ⟨requested, ended⟩ := startDialog_asked reliable.handed accepted
        have active : started.value.2.machine.active? = some .event := machine ▸ event
        have fresh : started.value.2.machine.pendingRequest? = none := machine ▸ silent
        have begun : started.value.2.Honours past :=
          ⟨reliable.chain, machine ▸ reliable.waits, fun _ _ waits => absurd fresh waits⟩
        have result := handOver_reliable begun active requested ended fun _ _ => .inl fresh
        unfold movement at result ⊢
        rw [storyline] at result
        exact result

/-- The reaction to entering free roam keeps the state and asks for nothing. -/
theorem onFreeRoamEntered_keeps (handed : game.conversation.requested = none) :
    game.onFreeRoamEntered.value.machine.active? = game.machine.active? ∧
      game.onFreeRoamEntered.value.conversation.requested = none := by
  have ready := resetIfPending_handed handed
  have active := game.resetIfPending_quiet.standing.active?
  obtain ⟨event, value⟩ | value := game.onFreeRoamEntered_cases
  · rw [value]
    exact ⟨active, ready⟩
  · rw [value]
    obtain same | ⟨sub, -, -, explored⟩ := game.resetIfPending.value.explore_cases
    · rw [same]
      exact ⟨active, ready⟩
    · rw [explored]
      exact ⟨(Machine.active?_withSubMachine _ _).trans active, ready⟩

/-- The reaction to an arrival. -/
theorem react_arrival_reliable {kind : StateKind} (reliable : game.Reliable past)
    (active : game.machine.active? = some kind) (silent : game.machine.pendingRequest? = none) :
    (game.react (.entered kind)).value.Reliable
      (past ++ (game.reactionAttempts (.entered kind)).flatMap Attempt.happenings ++
        game.movement (game.react (.entered kind)).value) := by
  have elsewhere (reacted : Game η ℓ) (event : kind ≠ .event)
      (same : reacted.machine.active? = game.machine.active?) :
      reacted.Honours (past ++ [] ++ game.movement reacted) := by
    rw [List.append_nil]
    refine reliable.move (reliable.free silent) (fun arrived => ?_) game reacted
    exact absurd (Option.some.inj (active.symm.trans (same.symm.trans arrived))) event
  unfold react
  rw [Logged.value_bind]
  cases kind with
  | event => exact onEventEntered_reliable reliable active silent
  | freeRoam =>
    obtain ⟨same, ready⟩ := onFreeRoamEntered_keeps reliable.handed
    exact ⟨elsewhere _ nofun same, ready⟩
  | _ => exact ⟨elsewhere _ nofun rfl, reliable.handed⟩

/-- Only the reaction to an arrival matters while a game settles: what is told before and after it
leaves the story alone. -/
theorem settle_spares {departures : List Notice} {kind : StateKind}
    (orderly : game.Orderly departures (some kind)) :
    game.Spares (game.parted departures) ∧
      Spares ((game.parted departures).react (.entered kind)).value game.settle.value := by
  obtain ⟨arrived, active, settled⟩ := settle_arrival orderly
  obtain ⟨⟨others, -, after⟩, -⟩ := react_arrival arrived active
  refine ⟨game.withMachine_taken_spares.trans (reactAll_departures_spares _ orderly.departing), ?_⟩
  rw [settled]
  exact reactBatches_spares 2 fun notice member =>
    after.departing notice (by simpa [after.queue] using member)

/-- Settling honours what dialogs asked for, and what the dialog asks for that is started on the
way. -/
theorem settle_reliable {departures : List Notice} {arrival : Option StateKind}
    (orderly : game.Orderly departures arrival) (reliable : game.Reliable past)
    (silent : arrival ≠ none → game.machine.pendingRequest? = none) :
    game.settle.value.Reliable (past ++ game.settleHappenings) := by
  unfold settleHappenings
  rw [← List.append_assoc]
  cases arrival with
  | none =>
    have spares : game.Spares game.settle.value := reactBatches_spares 3 fun notice member =>
      orderly.departing notice (by simpa [orderly.queue] using member)
    rw [settleAttempts, settleTrace, reactionsTrace_departures reactionAttempts_departure orderly,
      List.flatMap_nil]
    exact spares.uneventful reliable
  | some kind =>
    obtain ⟨-, active, -⟩ := settle_arrival orderly
    obtain ⟨parting, spares⟩ := settle_spares orderly
    have silent := silent (Option.some_ne_none kind)
    have reacted := react_arrival_reliable (parting.reliable reliable) active
      (parting.request.trans silent)
    have moved : game.movement game.settle.value = (game.parted departures).movement
        ((game.parted departures).react (.entered kind)).value := by
      unfold movement
      rw [spares.storyline, parting.storyline]
    rw [settleAttempts, settleReactions_arrival reactionAttempts_departure orderly, moved]
    exact spares.reliable reacted

section Ticks

variable [SceneLoader ℓ]

omit [Host η] in
/-- A state that was only just entered, once its scene was there, asks for nothing. -/
theorem pollScene_unasked {departures : List Notice} {arrival : Option StateKind}
    (rest : game.AtRest) (orderly : game.pollScene.value.Orderly departures arrival)
    (arrives : arrival ≠ none) : game.pollScene.value.machine.pendingRequest? = none := by
  obtain same | ⟨-, unasked⟩ := Machine.pollScene_unasked rest.sound game.loader
  · obtain ⟨kind, rfl⟩ := Option.ne_none_iff_exists'.1 arrives
    have told : game.pollScene.value.machine.queue = [] :=
      (congrArg Machine.queue same).trans rest.told
    rw [orderly.queue] at told
    simp at told
  · exact unasked (orderly.active_of_arrival arrives)

/-- The scene that was waited for does not matter to what dialogs asked for. -/
theorem ready_reliable (rest : game.AtRest) (reliable : game.Reliable past) :
    game.ready.Reliable (past ++ game.pollScene.value.settleHappenings) := by
  obtain ⟨arrival, orderly⟩ := pollScene_atRest rest
  refine settle_reliable orderly ?_ (pollScene_unasked rest orderly)
  obtain same | ⟨inactive, unasked⟩ := Machine.pollScene_unasked rest.sound game.loader
  · have spares : game.Spares game.pollScene.value := .of_same same rfl rfl
    exact spares.reliable reliable
  · have free : ¬ Owing past :=
      reliable.free_of_elsewhere (by simp [inactive]) (by simp [inactive])
    exact ⟨⟨reliable.chain, fun target asked => absurd ⟨target, asked⟩ free,
      fun event _ waits => absurd (unasked (event ▸ Option.some_ne_none _)) waits⟩, reliable.handed⟩

/-- The game of a tick whose active state is about to do its part is at rest. -/
theorem ready_atRest (rest : game.AtRest) : game.ready.AtRest := by
  obtain ⟨_, orderly⟩ := pollScene_atRest rest
  exact (settle_atRest orderly).1

omit [Host η] in
/-- Once the request of the current state was taken nothing waits. -/
theorem processRequest_unasked (rest : game.AtRest) :
    game.processRequest.value.machine.Unasked := by
  rw [processRequest_value]
  exact Machine.processRequest_unasked rest.sound (Machine.told_of_queue rest.told) game.loader

/-- Once everything has moved nothing waits. -/
theorem proceed_unasked (rest : game.AtRest) (tick : Tick) :
    (game.proceed tick).value.machine.Unasked := by
  have met := processRequest_unasked (rest.quiet (game.updateActive_quiet tick))
  have spares := processSubRequest_spares (game.updateActive tick).value.processRequest.value
  intro active
  exact spares.request.trans (met (spares.active ▸ active))

omit [Host η] in
/-- The request of the current state is the one that was asked for last, if a dialog asked. Once it
was taken nothing waits. -/
theorem processRequest_honours (rest : game.AtRest) (honours : game.Honours past) :
    game.processRequest.value.Honours (past ++ game.requestHappenings) := by
  have idle (event : game.processRequest.value.machine.active? = some .event)
      (waits : game.processRequest.value.machine.pendingRequest? ≠ none) : False :=
    waits (processRequest_unasked rest (event ▸ Option.some_ne_none _))
  unfold requestHappenings
  cases waiting : game.machine.pendingRequest? with
  | none =>
    have free := honours.free waiting
    rw [Option.map_none, Option.toList_none, List.append_nil]
    exact ⟨honours.chain, fun target asked => absurd ⟨target, asked⟩ free,
      fun event _ waits => (idle event waits).elim⟩
  | some request =>
    rw [Option.map_some, Option.toList_some]
    refine ⟨Happening.isChain_snoc.2 ⟨honours.chain, fun last standing => ?_⟩,
      fun target asked => ?_, fun event _ waits => (idle event waits).elim⟩
    · cases last with
      | asked target =>
        have waits := (honours.waits target standing).1
        exact Option.some.inj (waiting.symm.trans waits)
      | _ => trivial
    · rw [List.getLast?_concat] at asked
      cases asked

/-- A tick honours what dialogs asked for, unless it lets the scenario overtake one. -/
theorem tick_reliable (rest : game.AtRest) (reliable : game.Reliable past) {tick : Tick}
    (kept : ¬ game.ready.Overtaken tick) :
    (game.tick tick).value.Reliable (past ++ game.tickHappenings tick) := by
  have updated := updateActive_reliable (ready_reliable rest reliable) kept
  have quiet := (ready_atRest rest).quiet (game.ready.updateActive_quiet tick)
  have met := processRequest_honours quiet updated.toHonours
  have spares := processSubRequest_spares (game.ready.updateActive tick).value.processRequest.value
  obtain ⟨departures, arrival, -, orderly⟩ := proceed_atRest (ready_atRest rest) tick
  have taken : (game.ready.updateActive tick).value.processRequest.value.conversation.requested =
      none := by
    rw [processRequest_value]
    exact updated.handed
  have settled := settle_reliable orderly (spares.reliable ⟨met, taken⟩) fun arrives => ?_
  · unfold tickHappenings
    simp only [← List.append_assoc]
    exact settled
  · exact proceed_unasked (ready_atRest rest) tick (orderly.active_of_arrival arrives)

/-- A tick that lets the scenario overtake a dialog breaks what was to follow. -/
theorem overtaken_breaks (rest : game.AtRest) (reliable : game.Reliable past) {tick : Tick}
    (overtaken : game.ready.Overtaken tick) :
    ¬ (past ++ game.tickHappenings tick).IsChain Follows := by
  intro chain
  have ready := ready_reliable rest reliable
  obtain ⟨target, asked⟩ := ready.owed overtaken.event overtaken.running overtaken.waits
  have waiting := (ready.waits target asked).1
  have follows : ∀ next rest, game.ready.activeHappenings tick ++
      (game.ready.updateActive tick).value.requestHappenings = next :: rest →
        Follows (.asked target) next := by
    intro next others first
    unfold tickHappenings at chain
    simp only [← List.append_assoc] at chain
    have early := chain.left_of_append
    rw [List.append_assoc, first] at early
    exact (List.isChain_append.1 early).2.2 _ asked _ rfl
  have nothing : Happening.ofEffects (game.ready.activeEffects tick) = [] := by
    unfold Happening.ofEffects
    rw [overtaken.silent]
    rfl
  unfold activeHappenings at follows
  rw [nothing, List.nil_append] at follows
  by_cases still : (game.ready.updateActive tick).value.storyline.node = game.ready.storyline.node
  · have replaced := overtaken.lost.resolve_left fun moved => moved still
    have waits : (game.ready.updateActive tick).value.machine.pendingRequest? ≠ none := by
      rw [updateActive_advances ready.handed overtaken.event overtaken.running overtaken.ended
        overtaken.silent]
      exact (advanceScenario_keeps _).2.2 overtaken.waits
    obtain ⟨request, found⟩ := Option.ne_none_iff_exists'.1 waits
    have same : request = .switch target := follows (.taken request) [] (by
      unfold movement requestHappenings
      rw [if_pos still, found]
      rfl)
    exact replaced (found.trans (same ▸ waiting.symm))
  · exact follows .moved _ (by
      unfold movement
      rw [if_neg still]
      rfl)

end Ticks

/-- Talking to a character honours what dialogs asked for. -/
theorem Talked.reliable {attempts : List (Attempt η ℓ)} (talked : game.Talked attempts after)
    (rest : game.AtRest) (reliable : game.Reliable past) :
    after.Reliable (past ++ attempts.flatMap Attempt.happenings ++ game.movement after) := by
  have idle := (Spares.refl game).uneventful reliable
  cases talked with
  | declined => exact idle
  | refused _ dialog refused =>
    rw [List.flatMap_singleton]
    unfold Attempt.happenings
    rw [startEffects_refused refused]
    exact idle
  | @accepted sub approachable dialog started accepted turned repertoire noted =>
    obtain ⟨roaming, exploring, -⟩ := approachable_cases approachable
    have freeRoam := (Machine.freeRoam_eq_ok_iff.1 roaming).1
    have machine : turned.machine = game.machine :=
      (congrArg Game.machine noted).trans (startDialog_keeps accepted).1
    have storyline : turned.storyline = game.storyline :=
      (congrArg Game.storyline noted).trans (startDialog_keeps accepted).2
    have requested := (congrArg (fun turned => turned.conversation.requested) noted).trans
      (startDialog_asked reliable.handed accepted).1
    have begun : turned.Honours past := by
      refine ⟨reliable.chain, machine ▸ reliable.waits, fun event => ?_⟩
      rw [machine, freeRoam] at event
      cases event
    -- The conversation joins free roam, where what it asked for is handed on.
    have joining := turned.withSubMachine_spares (sub.joined started.value.1)
    obtain ⟨joined, stands, -⟩ := forwardRequest_reliable (joining.honours begun)
      (.inr (joining.active.trans (machine ▸ freeRoam))) requested
    have orderly := joined_orderly (machine ▸ rest.sound) (machine ▸ rest.told)
      (machine ▸ roaming) exploring started.value.1
    have settled := settle_reliable orderly joined (absurd rfl)
    have same : (turned.joined sub started.value.1).storyline = game.storyline :=
      stands.trans storyline
    unfold settleHappenings movement at settled
    rw [same] at settled
    simp only [← List.append_assoc] at settled
    rw [List.singleton_append, List.flatMap_cons, ← List.append_assoc]
    exact settled

section Runs

variable [SceneLoader ℓ]

/-- An operation honours what dialogs asked for, unless it lets the scenario overtake one. -/
theorem apply_reliable (rest : game.AtRest) (reliable : game.Reliable past)
    {operation : Operation η ℓ} (leaves : operation.LeavesStory)
    (kept : ∀ tick, operation = .tick tick → ¬ game.ready.Overtaken tick) :
    (game.apply operation).Reliable (past ++ game.happenings operation) := by
  have spared {after : Game η ℓ} (spares : game.Spares after) :
      after.Reliable (past ++ ([] ++ game.movement after)) := by
    rw [← List.append_assoc]
    exact spares.uneventful reliable
  cases operation with
  | tick tick => exact tick_reliable rest reliable (kept tick rfl)
  | talkTo character =>
    have talked := (game.talkTo_talked character).reliable rest reliable
    rw [List.append_assoc] at talked
    exact talked
  | openMenu => exact spared (game.requestSubState_spares .menu)
  | closeMenu => exact spared (game.requestSubState_spares .exploration)
  | requestState _ => exact leaves.elim
  | advanceScenario => exact leaves.elim
  | reset => exact leaves.elim
  | _ => exact spared (.of_same rfl rfl rfl)

/-- A run honours what dialogs asked for, unless a tick lets the scenario overtake one. -/
theorem runAll_reliable (rest : game.AtRest) (reliable : game.Reliable past)
    {operations : List (Operation η ℓ)}
    (leaves : ∀ operation ∈ operations, operation.LeavesStory)
    (kept : ∀ earlier tick, earlier ++ [.tick tick] <+: operations →
      ¬ (game.runAll earlier).ready.Overtaken tick) :
    (game.runAll operations).Reliable (past ++ game.runHappenings operations) := by
  induction operations generalizing game past with
  | nil => simpa [runHappenings, runAll] using reliable
  | cons operation others ih =>
    have first := apply_reliable rest reliable (leaves _ List.mem_cons_self)
      fun tick same => kept [] tick ⟨others, by rw [same]; rfl⟩
    unfold runHappenings
    rw [← List.append_assoc]
    have others := fun other member => leaves other (List.mem_cons_of_mem operation member)
    refine ih (apply_atRest rest operation).1 first others fun earlier tick before => ?_
    exact kept (operation :: earlier) tick ((List.prefix_cons_inj operation).2 before)

/-- Where everything follows, no tick of the run lets the scenario overtake a dialog. -/
theorem runAll_kept (rest : game.AtRest) (reliable : game.Reliable past)
    {operations : List (Operation η ℓ)}
    (leaves : ∀ operation ∈ operations, operation.LeavesStory)
    (chain : (past ++ game.runHappenings operations).IsChain Follows) (earlier tick)
    (before : earlier ++ [.tick tick] <+: operations) :
    ¬ (game.runAll earlier).ready.Overtaken tick := by
  induction operations generalizing game past earlier with
  | nil => simp at before
  | cons operation others ih =>
    unfold runHappenings at chain
    rw [← List.append_assoc] at chain
    have kept (tick : Tick) (same : operation = .tick tick) : ¬ game.ready.Overtaken tick := by
      intro overtaken
      rw [same] at chain
      exact overtaken_breaks rest reliable overtaken chain.left_of_append
    cases earlier with
    | nil =>
      obtain ⟨same, -⟩ := List.cons_prefix_cons.1 before
      exact kept tick same.symm
    | cons done earlier =>
      obtain ⟨rfl, within⟩ := List.cons_prefix_cons.1 before
      have first := apply_reliable rest reliable (leaves _ List.mem_cons_self) kept
      exact ih (apply_atRest rest done).1 first
        (fun other member => leaves other (List.mem_cons_of_mem _ member)) chain earlier within

omit [SceneLoader ℓ] in
/-- A game that was opened honours what a dialog asked for while it was. -/
theorem ofBundle_reliable {bundle : Bundle} {config : Config} {host : η} {loader : ℓ}
    {opened : Game η ℓ} (valid : (Game.ofBundle bundle config host loader).value = .ok opened) :
    opened.Reliable (openingHappenings bundle config host loader) := by
  obtain ⟨machine, entered, rfl⟩ := ofBundle_cases valid
  obtain ⟨vacant, told⟩ := Machine.ofPlan_vacant config.states config.tracing
  have change := Machine.enterState_moved vacant.sound (Machine.told_of_queue told) entered
  let storyline := ((Storyline.empty config.tracing).load bundle.scenario).value
  let unmoved : Game η ℓ := unopened bundle config machine storyline host loader
  have orderly : unmoved.Orderly _ _ := orderly_of_moved told nofun change
  have begun : unmoved.Reliable [] := ⟨⟨.nil, nofun, fun _ running => by cases running⟩, rfl⟩
  unfold openingHappenings openingTrace
  rw [entered]
  exact settle_reliable orderly begun fun active => Machine.enterState_unasked entered active

/-- As long as only the game itself asks for states and moves the scenario, what dialogs ask for is
never lost, unless a tick lets the scenario overtake one. After a dialog asked for a state, other
effects of dialogs may ask for others, and the next request that is taken is the one for the last of
these states; the scenario does not move before that, and at the end of a run the request still
waits if it was not taken. -/
theorem dialog_request_honoured {bundle : Bundle} {config : Config} {host : η} {loader : ℓ}
    {opened : Game η ℓ} (valid : (Game.ofBundle bundle config host loader).value = .ok opened)
    (operations : List (Operation η ℓ))
    (leaves : ∀ operation ∈ operations, operation.LeavesStory) :
    let happenings :=
      openingHappenings bundle config host loader ++ opened.runHappenings operations
    (happenings.IsChain Follows ∧
        ∀ target, happenings.getLast? = some (.asked target) →
          (opened.runAll operations).machine.pendingRequest? = some (.switch target)) ↔
      ∀ earlier tick, earlier ++ [.tick tick] <+: operations →
        ¬ (opened.runAll earlier).ready.Overtaken tick := by
  intro happenings
  have rest := (ofBundle_atRest valid).1
  have reliable := ofBundle_reliable valid
  constructor
  · rintro ⟨chain, -⟩ earlier tick before
    exact runAll_kept rest reliable leaves chain earlier tick before
  · intro kept
    have honoured := runAll_reliable rest reliable leaves kept
    exact ⟨honoured.chain, fun target asked => (honoured.waits target asked).1⟩

/-- A player who waits for the omen sees the credits that it asked for. -/
theorem dialog_request_honoured_heeding :
    ∃ opened, (Game.ofBundle .omen .staged Recorder.empty InstantLoader.empty).value =
        .ok opened ∧
      (opened.runAll Operation.heeding).currentState? = some .creditRoll ∧
      let happenings := openingHappenings .omen .staged Recorder.empty InstantLoader.empty ++
        opened.runHappenings Operation.heeding
      happenings = [.moved, .taken (.switch .event), .asked .creditRoll,
        .taken (.switch .creditRoll)] ∧ happenings.IsChain Follows := by
  refine ⟨_, rfl, rfl, rfl, ?_⟩
  have valid : (Game.ofBundle .omen .staged Recorder.empty InstantLoader.empty).value = .ok _ := rfl
  have leaves : ∀ operation ∈ Operation.heeding, operation.LeavesStory := by
    intro operation member
    simp only [Operation.heeding, List.mem_cons, List.not_mem_nil, or_false] at member
    obtain rfl | rfl := member <;> trivial
  refine ((dialog_request_honoured valid Operation.heeding leaves).2 ?_).1
  -- At the first tick no scenario is played yet, and at the second the line is not over.
  intro earlier tick before overtaken
  cases earlier with
  | nil => cases overtaken.event
  | cons first earlier =>
    obtain ⟨rfl, within⟩ := List.cons_prefix_cons.1 before
    cases earlier with
    | nil =>
      obtain ⟨same, -⟩ := List.cons_prefix_cons.1 within
      obtain rfl := Operation.tick.inj same
      cases overtaken.ended
    | cons second earlier =>
      obtain ⟨-, beyond⟩ := List.cons_prefix_cons.1 within
      simp at beyond

/-- A player who hears the omen out at once never sees the credits that it asked for: the scenario
moves on to free roam. -/
theorem dialog_request_lost :
    ∃ opened, (Game.ofBundle .omen .staged Recorder.empty InstantLoader.empty).value =
        .ok opened ∧
      (∀ operation ∈ Operation.hurrying, operation.LeavesStory) ∧
      (opened.runAll Operation.hurrying).currentState? = some .freeRoam ∧
      opened.runHappenings Operation.hurrying = [.moved, .taken (.switch .event),
        .asked .creditRoll, .moved, .taken (.switch .freeRoam)] ∧
      ¬ (opened.runHappenings Operation.hurrying).IsChain Follows := by
  refine ⟨_, rfl, fun operation member => ?_, rfl, rfl, fun chain => ?_⟩
  · simp only [Operation.hurrying, List.mem_cons, List.not_mem_nil, or_false] at member
    obtain rfl | rfl := member <;> trivial
  · -- The third happening asks for the credits, and the fourth is a move.
    exact List.isChain_cons_cons.1 (chain.tail.tail) |>.1

end Runs

end Game

end Narrative
