import Narrative.Proofs.Game.Driving
import Narrative.Proofs.Game.Handover

/-!
# When the loading state hands over

While it is active, the loading state asks for the state it leads to as soon as the host is ready
for that state, and the request is met in the same tick. But the host can make the active state ask
for a state too, and the loading state takes the same request for its own. So it hands over in a
tick if the host is ready, or if the last that the host asked for since the tick before is the state
it leads to.
-/

namespace Narrative

namespace Machine

variable {ℓ : Type} [SceneLoader ℓ] {plan : StatePlan} {machine : Machine}

/-- A request for the state that the loading state leads to is met by a change to that state. -/
theorem fulfil_led {request : Request} {target : StateKind}
    (known : (machine.lookup target).value = .ok ()) (same : request.target = target)
    (leads : machine.loadingTarget? = some target) (loader : ℓ) :
    ∃ transition, (machine.fulfil loader request).value =
      .ok (machine.moveTo target transition loader).value := by
  cases request with
  | switch next =>
    obtain rfl : next = target := same
    refine ⟨.fade, ?_⟩
    change (machine.switchState next loader).value = _
    unfold switchState
    rw [Logged.value_bind, known]
    dsimp only
    rw [if_neg fun through => through.2 leads]
    rfl
  | enterScene next =>
    obtain rfl : next = target := same
    refine ⟨.cut, ?_⟩
    change (machine.enterScene next loader).value = _
    unfold enterScene
    rw [Logged.value_bind, known]
    rfl

/-- The loading state gives way to the state it leads to exactly if that is what it asks for. -/
theorem processRequest_led (sound : machine.Sound) (told : machine.Told)
    (built : machine.Built plan) {target : StateKind}
    (leads : machine.loadingTarget? = some target) (loader : ℓ) :
    (machine.processRequest loader).value.2.1.current = some target ↔
      ∃ request, machine.pendingRequest? = some request ∧ request.target = target := by
  have current := current_of_leads leads
  obtain ⟨other, led, real, registered, -⟩ := (built.integral sound).leads current
  obtain rfl := Option.some.inj (led.symm.trans leads)
  have asks := machine.dropRequest_onlyAsks
  have away : machine.dropRequest.current ≠ some other := by
    rw [asks.agrees.current, current]
    exact fun same => real (Option.some.inj same).symm
  unfold processRequest
  cases machine.pendingRequest? with
  | none =>
    refine ⟨fun arrived => ?_, nofun⟩
    exact absurd (Option.some.inj (arrived.symm.trans current)) real
  | some request =>
    dsimp only
    rw [Logged.value_bind]
    have sounder := asks.agrees.sound sound
    constructor
    · intro arrived
      refine ⟨request, rfl, ?_⟩
      split at arrived
      · next moved left met =>
        change moved.current = some other at arrived
        obtain ⟨-, ⟨transition, direct⟩ | ⟨-, through⟩⟩ := fulfil_cases met
        · have named := moveTo_moved sounder (asks.told told) request.target transition loader
          rw [direct] at named
          exact Option.some.inj (named.current.symm.trans arrived)
        · have named := moveThroughLoading_moved sounder (asks.told told) request.target loader
          rw [through] at named
          exact absurd (Option.some.inj (arrived.symm.trans named.current)) real
      · exact absurd arrived away
    · rintro ⟨asked, found, same⟩
      obtain rfl := Option.some.inj found
      have known : (machine.dropRequest.lookup other).value = .ok () :=
        built.dropRequest.lookup_registered real registered
      obtain ⟨transition, met⟩ :=
        fulfil_led known same (asks.stays.loadingTarget?.trans leads) loader
      rw [met]
      exact (moveTo_moved sounder (asks.told told) other transition loader).current

end Machine

namespace Game

variable {η ℓ : Type} [Host η] [SceneLoader ℓ] {game after : Game η ℓ}

/-- Where a state is active no scene is waited for, and a game at rest has nothing to tell. -/
theorem ready_of_active (rest : game.AtRest) (active : game.machine.active? ≠ none) :
    game.ready = game.withMachine game.machine.takeNotices.2 := by
  have waitless : game.machine.pending = none := by
    by_contra waits
    exact active (rest.sound.waits waits)
  have idle : (game.machine.pollScene game.loader).value = (game.machine, game.loader) := by
    refine Machine.pollScene_idle (fun ticket kind waiting => ?_) game.loader
    cases waitless.symm.trans waiting
  have polled : game.pollScene.value = game := by
    change { game with
      machine := (game.machine.pollScene game.loader).value.1
      loader := (game.machine.pollScene game.loader).value.2 } = game
    rw [idle]
  have empty : game.machine.takeNotices.1.isEmpty = true := by
    rw [Machine.takeNotices_fst, rest.told]
    rfl
  unfold ready
  rw [polled]
  unfold settle reactBatches
  dsimp only
  rw [if_pos empty]
  rfl

omit [SceneLoader ℓ] in
/-- The loading state asks for the state it leads to if the host is ready for that. -/
theorem updateActive_loading {target : StateKind} (active : game.machine.active? = some .loading)
    (leads : game.machine.loadingTarget? = some target) (tick : Tick) :
    (game.updateActive tick).value.machine.pendingRequest? =
      if Host.loaderReady game.host target then some (.switch target)
      else game.machine.pendingRequest? := by
  unfold updateActive
  rw [active]
  change game.updateLoading.value.machine.pendingRequest? = _
  unfold updateLoading
  rw [leads]
  dsimp only
  split
  · exact Machine.pendingRequest?_request active _
  · rfl

/-- In a tick the loading state hands over exactly if the host is ready for the state it leads to,
or if that is what it was made to ask for. -/
theorem tick_led {plan : StatePlan} (rest : game.AtRest) (built : game.machine.Built plan)
    {target : StateKind} (active : game.machine.active? = some .loading)
    (leads : game.machine.loadingTarget? = some target) (tick : Tick) :
    (game.tick tick).value.currentState? = some target ↔
      Host.loaderReady game.host target = true ∨
        ∃ request, game.machine.pendingRequest? = some request ∧ request.target = target := by
  have ready := ready_of_active rest (active ▸ Option.some_ne_none _)
  have stays : game.machine.Stays game.ready.machine := by
    rw [ready]
    exact game.machine.takeNotices_stays
  have host : game.ready.host = game.host := by
    rw [ready]
    rfl
  have kept : game.ready.machine.pendingRequest? = game.machine.pendingRequest? := by
    rw [ready]
    exact game.machine.pendingRequest?_takeNotices
  have asked := updateActive_loading (stays.active.trans active)
    (stays.loadingTarget?.trans leads) tick
  rw [host, kept] at asked
  have updated : (game.ready.updateActive tick).value.AtRest :=
    (ready_atRest rest).quiet (game.ready.updateActive_quiet tick)
  have stirred := Stirs.stays (game.ready.updateActive_stirs tick)
  have led : (game.ready.updateActive tick).value.machine.loadingTarget? = some target :=
    (stays.trans stirred.1).loadingTarget?.trans leads
  have fitting : (game.ready.updateActive tick).value.machine.Built plan :=
    Drives.built (game.ready_drives.then_silent (Stirs.drives (updateActive_stirs _ tick)))
      rest.sound (Machine.told_of_queue rest.told) built
  have current : (game.tick tick).value.currentState? =
      (game.ready.updateActive tick).value.processRequest.value.machine.current := by
    have switched := Stirs.stays
      (processSubRequest_stirs (game.ready.updateActive tick).value.processRequest.value)
    have settled := Stirs.stays (game.ready.proceed tick).value.settle_stirs
    exact settled.1.current.trans switched.1.current
  rw [current, processRequest_value]
  rw [Machine.processRequest_led updated.sound (Machine.told_of_queue updated.told) fitting led,
    asked]
  by_cases able : Host.loaderReady game.host target = true
  · rw [if_pos able]
    exact ⟨fun _ => .inl able, fun _ => ⟨_, rfl, rfl⟩⟩
  · rw [if_neg able]
    exact ⟨.inr, fun handed => handed.resolve_left able⟩

omit [SceneLoader ℓ] in
/-- Settling leaves the request of an active loading state as it is. -/
theorem settle_loading {departures : List Notice} {arrival : Option StateKind}
    (orderly : game.Orderly departures arrival) (active : game.machine.active? = some .loading) :
    game.settle.value.machine.pendingRequest? = game.machine.pendingRequest? := by
  cases arrival with
  | none =>
    have spares : game.Spares game.settle.value := reactBatches_spares 3 fun notice member =>
      orderly.departing notice (by simpa [orderly.queue] using member)
    exact spares.request
  | some kind =>
    obtain rfl : kind = .loading :=
      Option.some.inj ((orderly.arriving kind rfl).1.symm.trans active)
    obtain ⟨parting, settled⟩ := settle_spares orderly
    exact settled.request.trans parting.request

/-- A tick leaves an active loading state that asks for nothing. -/
theorem tick_loading (rest : game.AtRest) (tick : Tick)
    (active : (game.tick tick).value.machine.active? = some .loading) :
    (game.tick tick).value.machine.pendingRequest? = none := by
  obtain ⟨departures, arrival, -, orderly⟩ := proceed_atRest (ready_atRest rest) tick
  obtain ⟨stays, -⟩ := Stirs.stays (game.ready.proceed tick).value.settle_stirs
  have before : (game.ready.proceed tick).value.machine.active? = some .loading :=
    stays.active.symm.trans active
  refine (settle_loading orderly before).trans (proceed_unasked (ready_atRest rest) tick ?_)
  exact before ▸ Option.some_ne_none _

end Game

/-- What the host asked for last, once an operation followed; a tick uses it up. -/
def Operation.asking {η ℓ : Type} (asked : Option Request) : Operation η ℓ → Option Request
  | tick _ => none
  | requestState request => some request
  | _ => asked

/-- What the host asked for last since the last tick. -/
def Operation.lastAsked {η ℓ : Type} (operations : List (Operation η ℓ)) : Option Request :=
  operations.foldl asking none

namespace Game

variable {η ℓ : Type} [Host η] [SceneLoader ℓ] {game : Game η ℓ} {asked : Option Request}

/-- While the loading state is active, what it asks for is what the host asked for last. -/
def HeedsHost (asked : Option Request) (game : Game η ℓ) : Prop :=
  game.machine.active? = some .loading → game.machine.pendingRequest? = asked

/-- While the loading state is active, nobody but the host can make it ask for anything, and a tick
uses that up. -/
theorem HeedsHost.apply (heeds : game.HeedsHost asked) (rest : game.AtRest)
    (operation : Operation η ℓ) : (game.apply operation).HeedsHost (operation.asking asked) := by
  have spared {after : Game η ℓ} (spares : game.Spares after) : after.HeedsHost asked :=
    fun active => spares.request.trans (heeds (spares.active.symm.trans active))
  cases operation with
  | tick tick => exact tick_loading rest tick
  | talkTo character =>
    intro active
    obtain ⟨same, -⟩ | ⟨sub, turned, progress, approachable, machine, -, -, value, -⟩ :=
      game.talkTo_told character
    · change (game.talkTo character).value.2.machine.pendingRequest? = asked
      rw [same]
      exact heeds (same ▸ active)
    · -- Who can be talked to is met in free roam, and free roam stays active.
      obtain ⟨roaming, -, known⟩ := approachable_cases approachable
      have joined := Stirs.stays (joined_stirs (machine ▸ roaming) known progress)
      have settled := Stirs.stays (turned.joined sub progress).settle_stirs
      have roams : (game.talkTo character).value.2.machine.active? = some .freeRoam := by
        rw [value, settled.1.active, joined.1.active, machine]
        exact (Machine.freeRoam_eq_ok_iff.1 roaming).1
      cases roams.symm.trans active
  | openMenu => exact spared (game.requestSubState_spares .menu)
  | closeMenu => exact spared (game.requestSubState_spares .exploration)
  | requestState request =>
    intro active
    have before := (game.machine.request_onlyAsks request).agrees.active?.symm.trans active
    exact Machine.pendingRequest?_request before request
  | advanceScenario =>
    intro active
    have before : game.machine.active? = some .loading :=
      (advanceScenario_keeps game).2.1.symm.trans active
    have deferred : game.advanceScenario.value.2 = game := by
      unfold advanceScenario
      rw [before]
      rfl
    change game.advanceScenario.value.2.machine.pendingRequest? = asked
    rw [deferred]
    exact heeds before
  | _ => exact heeds

/-- The same for operations in order. -/
theorem HeedsHost.runAll (heeds : game.HeedsHost asked) (rest : game.AtRest)
    (operations : List (Operation η ℓ)) :
    (game.runAll operations).HeedsHost (operations.foldl Operation.asking asked) := by
  induction operations generalizing game asked with
  | nil => exact heeds
  | cons operation others ih =>
    exact ih (heeds.apply rest operation) (apply_atRest rest operation).1

/-- While the loading state is active, what it asks for is what the host asked for last since the
last tick, and a tick hands over to the state it leads to exactly if the host is ready for that
state or has asked for it. -/
theorem loading_hands_over {bundle : Bundle} {config : Config} {host : η} {loader : ℓ}
    {opened : Game η ℓ} (valid : (Game.ofBundle bundle config host loader).value = .ok opened)
    (operations : List (Operation η ℓ)) {target : StateKind}
    (active : (opened.runAll operations).machine.active? = some .loading)
    (leads : (opened.runAll operations).machine.loadingTarget? = some target) :
    let game := opened.runAll operations
    game.machine.pendingRequest? = Operation.lastAsked operations ∧
      ∀ tick, (game.tick tick).value.currentState? = some target ↔
        Host.loaderReady game.host target = true ∨
          ∃ request, Operation.lastAsked operations = some request ∧ request.target = target := by
  intro game
  have start := (ofBundle_atRest valid).1
  have fresh : opened.HeedsHost none := fun active =>
    absurd (Machine.active?_eq_some_iff.1 active).1 (opened_elsewhere valid)
  have asks : game.machine.pendingRequest? = Operation.lastAsked operations :=
    fresh.runAll start operations active
  refine ⟨asks, fun tick => ?_⟩
  rw [← asks]
  exact tick_led (runAll_atRest start operations) (runAll_built valid operations) active leads tick

/-- A loading state that leads to a battle the host is not ready for stays. -/
theorem loading_hands_over_held :
    ∃ opened, (Game.ofBundle .empty .staged { Recorder.empty with held := [.battle] }
        InstantLoader.empty).value = .ok opened ∧
      let game := opened.runAll [.requestState (.switch .battle), .tick (.press .none)]
      game.machine.active? = some .loading ∧ game.machine.loadingTarget? = some .battle ∧
        ∀ tick, (game.tick tick).value.currentState? ≠ some .battle := by
  have valid : (Game.ofBundle .empty .staged { Recorder.empty with held := [.battle] }
    InstantLoader.empty).value = .ok _ := rfl
  refine ⟨_, valid, ?_⟩
  intro game
  have active : game.machine.active? = some .loading := rfl
  have leads : game.machine.loadingTarget? = some .battle := rfl
  have ready : Host.loaderReady game.host .battle = false := rfl
  refine ⟨active, leads, fun tick arrived => ?_⟩
  have handed := ((loading_hands_over valid _ active leads).2 tick).1 arrived
  rw [ready] at handed
  obtain able | ⟨request, asked, -⟩ := handed
  · cases able
  · cases asked

/-- But the host can have it hand over to that battle by asking for it once more. -/
theorem loading_hands_over_early :
    ∃ opened, (Game.ofBundle .empty .staged { Recorder.empty with held := [.battle] }
        InstantLoader.empty).value = .ok opened ∧
      let game := opened.runAll [.requestState (.switch .battle), .tick (.press .none),
        .requestState (.switch .battle)]
      game.machine.active? = some .loading ∧ game.machine.loadingTarget? = some .battle ∧
        Host.loaderReady game.host .battle = false ∧
          game.machine.pendingRequest? = some (.switch .battle) ∧
            (game.tick (.press .none)).value.currentState? = some .battle :=
  ⟨_, rfl, rfl, rfl, rfl, rfl, rfl⟩

end Game

end Narrative
