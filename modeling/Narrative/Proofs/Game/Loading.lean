import Narrative.Proofs.Game.Pace
import Narrative.Proofs.History

/-!
# The way through the loading state

A state that requires loading is reached from the loading state alone, and not before the loading
state was entered with that target: since it was named no other state was, and its own scene, if it
has one, was asked for and reported to be there. Whether the loading state hands over is decided by
where it leads and not by whether it was entered. That it was entered follows from who asks: a
request is made by an active state, and is met where it was made.
-/

namespace Narrative

open Machine (Event Introduced Overheard)

namespace Machine

variable {ℓ : Type} [SceneLoader ℓ] {plan : StatePlan} {machine : Machine}

/-- The request of the current state is used up, or it is met by a change to a state that is
introduced. A switch leads to the loading state, unless the state it leads to requires no loading or
is where the loading state leads already. -/
theorem processRequest_introduced (sound : machine.Sound) (told : machine.Told)
    (built : machine.Built plan) (loader : Overheard ℓ) :
    let met := (machine.processRequest loader).value.2
    machine.OnlyAsks met.1 ∧ met.2 = loader ∨
      ∃ request target transition, machine.pendingRequest? = some request ∧
        machine.Moved met.1 target ∧
        Introduced plan met.1 target transition loader.heard met.2.heard ∧
        ∀ next, request = .switch next → target = .loading ∨
          (plan.requiresLoading.contains target = true → machine.loadingTarget? = some target) := by
  intro met
  unfold met processRequest
  split
  · exact .inl ⟨.refl machine, rfl⟩
  · next request asked =>
    have asks := machine.dropRequest_onlyAsks
    have sounder := asks.agrees.sound sound
    dsimp only
    rw [Logged.value_bind]
    split
    · next moved left fulfilled =>
      obtain ⟨target, transition, change, -, introduced⟩ :=
        fulfil_introduced sounder (asks.told told) built.dropRequest request fulfilled
      refine .inr ⟨request, target, transition, asked, change.of_agrees asks.agrees asks.queue,
        introduced, fun next same => ?_⟩
      subst same
      obtain ⟨-, ⟨-, -, through⟩ | ⟨leads, direct⟩⟩ := switchState_cases fulfilled
      · have named :=
          (moveThroughLoading_moved sounder (asks.told told) next loader).current
        rw [through] at named
        exact .inl (Option.some.inj (change.current.symm.trans named))
      · have named := (moveTo_moved sounder (asks.told told) next .fade loader).current
        rw [direct] at named
        obtain rfl := Option.some.inj (change.current.symm.trans named)
        refine .inr fun requires => ?_
        rw [← asks.stays.loadingTarget?]
        exact leads (built.dropRequest.requiresLoading ▸ requires)
    · exact .inl ⟨asks, rfl⟩

end Machine

/-- Whether an operation leaves what was heard of the loader alone; only a change of the loader can
touch it. -/
def Operation.SparesHeard {η ℓ : Type} : Operation η (Overheard ℓ) → Prop
  | loader change => ∀ overheard, (change overheard).heard = overheard.heard
  | _ => True

namespace Game

variable {η ℓ : Type} {plan : StatePlan} {game after : Game η (Overheard ℓ)}
  {past more : List (Telling η (Overheard ℓ))} {named : Telling η (Overheard ℓ)}
  {meanwhile : List (Telling η (Overheard ℓ))}

/-- A visit of the loading state: it was named, and no other state since. -/
structure Visit (past : List (Telling η (Overheard ℓ))) (named : Telling η (Overheard ℓ))
    (meanwhile : List (Telling η (Overheard ℓ))) : Prop where
  /-- What was told ends with the naming and what was told since. -/
  past : ∃ earlier, past = earlier ++ named :: meanwhile
  /-- The loading state was named. -/
  named : ∃ source, named.notice = .changed source .loading
  /-- No other state was named since. -/
  since : ∀ telling ∈ meanwhile, telling.notice.isChange = false

/-- What was heard up to when the loading state was named, and since then: its scene was asked for,
and as often as the loader was asked about it, the answer was that it is not there yet. -/
def Waits (plan : StatePlan) (named heard : List Event) (ticket : Ticket) : Prop :=
  ∃ scene before transition answers, plan.scene? .loading = some scene ∧
    named = before ++ [.loads scene transition ticket] ∧
      heard = named ++ List.replicate answers (.polls ticket .loading)

/-- A wait goes on while the scene is not there yet. -/
theorem Waits.still {named heard : List Event} {ticket : Ticket}
    (waits : Waits plan named heard ticket) :
    Waits plan named (heard ++ [.polls ticket .loading]) ticket := by
  obtain ⟨scene, before, transition, answers, planned, asked, rfl⟩ := waits
  refine ⟨scene, before, transition, answers + 1, planned, asked, ?_⟩
  rw [List.replicate_succ', List.append_assoc]

/-- The scene of the loading state was asked for when the loading state was named, and at last the
loader answered that it is there. -/
def Reported (plan : StatePlan) (named heard : List Event) : Prop :=
  ∃ waiting ticket phase, Waits plan named waiting ticket ∧ phase.isReady = true ∧
    heard = waiting ++ [.polls ticket phase]

/-- The way to a state is prepared: in a visit that goes on the loading state was entered while it
led to that state, and its own scene, if it has one, was reported to be there. -/
def Prepared (plan : StatePlan) (past : List (Telling η (Overheard ℓ))) (target : StateKind) :
    Prop :=
  ∃ named meanwhile, Visit past named meanwhile ∧ ∃ entered ∈ meanwhile,
    entered.notice = .entered .loading ∧ entered.game.machine.loadingTarget? = some target ∧
      (plan.scene? .loading ≠ none →
        Reported plan named.game.loader.heard entered.game.loader.heard)

/-- A notice that names a state for which the way was prepared, if that state requires loading. -/
def Heralded (plan : StatePlan) (past : List (Telling η (Overheard ℓ)))
    (telling : Telling η (Overheard ℓ)) : Prop :=
  ∀ source target, telling.notice = .changed source target →
    plan.requiresLoading.contains target = true → target ≠ .loading →
      source = some .loading ∧ Prepared plan past target

/-- What was told leads to a game: if its loading state waits for its scene, it has been visited and
nothing else was heard since, and if it is active, the way to where it leads is prepared. -/
structure Led (plan : StatePlan) (past : List (Telling η (Overheard ℓ)))
    (game : Game η (Overheard ℓ)) : Prop where
  /-- The visit of a loading state that waits. -/
  waits : game.machine.current = some .loading → ∀ ticket, game.machine.pending = some ticket →
    ∃ named meanwhile, Visit past named meanwhile ∧
      Waits plan named.game.loader.heard game.loader.heard ticket
  /-- The preparations of a loading state that is active. -/
  leads : game.machine.active? = some .loading → ∀ target,
    game.machine.loadingTarget? = some target → Prepared plan past target

/-- A visit goes on while no other state is named. -/
theorem Visit.append (visit : Visit past named meanwhile)
    (unchanged : ∀ telling ∈ more, telling.notice.isChange = false) :
    Visit (past ++ more) named (meanwhile ++ more) := by
  obtain ⟨earlier, rfl⟩ := visit.past
  refine ⟨⟨earlier, List.append_assoc ..⟩, visit.named, fun telling member => ?_⟩
  exact (List.mem_append.1 member).elim (visit.since telling) (unchanged telling)

/-- What was prepared stays prepared while no other state is named. -/
theorem Prepared.append {target : StateKind} (prepared : Prepared plan past target)
    (unchanged : ∀ telling ∈ more, telling.notice.isChange = false) :
    Prepared plan (past ++ more) target := by
  obtain ⟨named, meanwhile, visit, entered, member, told⟩ := prepared
  exact ⟨named, meanwhile ++ more, visit.append unchanged, entered,
    List.mem_append_left more member, told⟩

/-- Notices that name no state need no preparations. -/
theorem heralded_of_unchanged (unchanged : ∀ telling ∈ more, telling.notice.isChange = false) :
    Justified (Heralded plan) past more := by
  refine justified_of_free fun telling member _ source target told => ?_
  have same := unchanged telling member
  rw [told] at same
  cases same

/-- Where the loading state is not current, nothing needs to have led there. -/
theorem led_of_elsewhere (elsewhere : game.machine.current ≠ some .loading) :
    Led plan past game where
  waits current := absurd current elsewhere
  leads active := absurd (Machine.active?_eq_some_iff.1 active).1 elsewhere

/-- A step that moves no state goes on from where what was told leads to. -/
theorem Led.stays (led : Led plan past game) (stays : game.machine.Stays after.machine)
    (heard : after.loader.heard = game.loader.heard)
    (unchanged : ∀ telling ∈ more, telling.notice.isChange = false) :
    Led plan (past ++ more) after where
  waits current ticket pending := by
    obtain ⟨named, meanwhile, visit, waits⟩ :=
      led.waits (stays.current.symm.trans current) ticket (stays.pending.symm.trans pending)
    exact ⟨named, meanwhile ++ more, visit.append unchanged, heard.symm ▸ waits⟩
  leads active target leads :=
    (led.leads (stays.active.symm.trans active) target
      (stays.loadingTarget?.symm.trans leads)).append unchanged

/-- A state that waits for its scene goes on waiting while the scene is not there yet. -/
theorem Led.still {ticket : Ticket} (led : Led plan past game)
    (waiting : game.machine.pending = some ticket) (same : after.machine = game.machine)
    (heard : after.loader.heard = game.loader.heard ++ [.polls ticket .loading]) :
    Led plan past after := by
  refine ⟨fun current other pending => ?_, fun active target leads => ?_⟩
  · rw [same] at current pending
    obtain rfl := Option.some.inj (pending.symm.trans waiting)
    obtain ⟨named, meanwhile, visit, waits⟩ := led.waits current other pending
    exact ⟨named, meanwhile, visit, heard ▸ waits.still⟩
  · rw [same] at active leads
    exact led.leads active target leads

/-- The state that waited for its scene is entered once the loader answers that it is there. If it
is the loading state, the way to where it leads is prepared by that. -/
theorem Led.entered {ticket : Ticket} {phase : Phase} {kind : StateKind} (led : Led plan past game)
    (waiting : game.machine.pending = some ticket) (standing : game.machine.current = some kind)
    (current : after.machine.current = some kind) (pending : after.machine.pending = none)
    (heard : after.loader.heard = game.loader.heard ++ [.polls ticket phase])
    (ready : phase.isReady = true) : Led plan (past ++ [⟨after, .entered kind⟩]) after := by
  refine ⟨fun _ ticket waits => ?_, fun active target leads => ?_⟩
  · cases pending.symm.trans waits
  · have loading : kind = .loading :=
      Option.some.inj (current.symm.trans (Machine.active?_eq_some_iff.1 active).1)
    obtain ⟨named, meanwhile, visit, waits⟩ := led.waits (loading ▸ standing) ticket waiting
    have entering : ∀ telling ∈ [Telling.mk after (.entered kind)],
        telling.notice.isChange = false := by simp [Notice.isChange]
    exact ⟨named, _, visit.append entering, _, List.mem_append_right _ (List.mem_singleton_self _),
      congrArg Notice.entered loading, leads, fun _ => ⟨_, ticket, phase, waits, ready, heard⟩⟩

/-- The state that a request is met by is named only if the way to it was prepared: it is the active
state that asked, and if that led there, it is the loading state. -/
theorem Led.names {request : Request} {target : StateKind} (led : Led plan past game)
    (built : game.machine.Built plan) (pending : game.machine.pendingRequest? = some request)
    (leads : target = .loading ∨
      (plan.requiresLoading.contains target = true → game.machine.loadingTarget? = some target))
    (after : Game η (Overheard ℓ)) :
    Heralded plan past ⟨after, .changed game.machine.current target⟩ := by
  intro source other named requires real
  obtain ⟨rfl, rfl⟩ := Notice.changed.inj named
  have leads := leads.resolve_left real requires
  have standing := Machine.current_of_leads leads
  have active := built.active?_of_asking (pending ▸ Option.some_ne_none _)
  exact ⟨standing, led.leads (active.trans standing) target leads⟩

/-- Notices that name no state, told of a game. -/
theorem unchanged_map {notices : List Notice} (game : Game η (Overheard ℓ))
    (unchanged : ∀ notice ∈ notices, notice.isChange = false) :
    ∀ telling ∈ notices.map (Telling.mk game), telling.notice.isChange = false := by
  intro telling member
  obtain ⟨notice, listed, rfl⟩ := List.mem_map.1 member
  exact unchanged notice listed

/-- A state that was entered names no state. -/
theorem unchanged_arrival (arrival : Option StateKind) (game : Game η (Overheard ℓ)) :
    ∀ telling ∈ (arrival.map Notice.entered).toList.map (Telling.mk game),
      telling.notice.isChange = false := by
  refine unchanged_map game fun notice member => ?_
  obtain ⟨kind, -, rfl⟩ := Option.map_eq_some_iff.1 (Option.mem_toList.1 member)
  rfl

/-- A change to a state that is introduced. If it is the loading state, that is its visit. -/
theorem led_of_introduced {moved : Machine} {target : StateKind} {transition : Transition}
    (change : game.machine.Moved moved target)
    (introduced :
      Introduced plan moved target transition game.loader.heard after.loader.heard)
    (stays : moved.Stays after.machine) :
    Led plan (past ++ (game.machine.farewell ++ [Notice.changed game.machine.current target] ++
      (moved.active?.map Notice.entered).toList).map (Telling.mk after)) after := by
  by_cases loading : target = .loading
  · subst loading
    have visit : Visit (past ++ (game.machine.farewell ++
          [Notice.changed game.machine.current .loading] ++
            (moved.active?.map Notice.entered).toList).map (Telling.mk after))
        ⟨after, .changed game.machine.current .loading⟩
        ((moved.active?.map Notice.entered).toList.map (Telling.mk after)) :=
      ⟨⟨past ++ game.machine.farewell.map (Telling.mk after), by simp⟩, ⟨_, rfl⟩,
        unchanged_arrival moved.active? after⟩
    cases introduced with
    | entered sceneless pending active _ =>
      refine ⟨fun _ ticket waiting => ?_, fun _ target leads => ?_⟩
      · cases (stays.pending.trans pending).symm.trans waiting
      · refine ⟨_, _, visit, ⟨after, .entered .loading⟩, ?_, rfl, leads, absurd sceneless⟩
        rw [active]
        exact List.mem_singleton_self _
    | asked planned pending heard =>
      refine ⟨fun _ other waiting => ?_, fun active => ?_⟩
      · obtain rfl := Option.some.inj ((stays.pending.trans pending).symm.trans waiting)
        exact ⟨_, _, visit, _, _, _, 0, planned, heard, (List.append_nil _).symm⟩
      · have inactive : moved.active? = none := change.sound.waits (by simp [pending])
        cases (stays.active.trans inactive).symm.trans active
  · refine led_of_elsewhere fun current => loading ?_
    exact Option.some.inj (change.current.symm.trans (stays.current.symm.trans current))

section Steps

variable [SceneLoader ℓ]

/-- Asking for the scene of the current state names no state. -/
theorem Led.pollScene (led : Led plan past game) (sound : game.machine.Sound)
    (built : game.machine.Built plan) (told : game.machine.queue = []) :
    let polled := game.pollScene.value
    Justified (Heralded plan) past (polled.machine.queue.map (Telling.mk polled)) ∧
      Led plan (past ++ polled.machine.queue.map (Telling.mk polled)) polled := by
  intro polled
  have machine : polled.machine = (game.machine.pollScene game.loader).value.1 := rfl
  have loader : polled.loader = (game.machine.pollScene game.loader).value.2 := rfl
  clear_value polled
  -- Where nothing is told, nothing has to be prepared.
  have untold (queue : polled.machine.queue = []) (led : Led plan past polled) :
      Justified (Heralded plan) past (polled.machine.queue.map (Telling.mk polled)) ∧
        Led plan (past ++ polled.machine.queue.map (Telling.mk polled)) polled := by
    rw [queue, List.map_nil, List.append_nil]
    exact ⟨trivial, led⟩
  by_cases waits : ∃ ticket kind, game.machine.pending = some ticket ∧
      game.machine.current = some kind
  · obtain ⟨ticket, kind, waiting, standing⟩ := waits
    have heard : polled.loader.heard =
        game.loader.heard ++ [.polls ticket (SceneLoader.poll game.loader ticket).1] := by
      rw [loader, Machine.pollScene_value waiting standing]
      rfl
    rw [Machine.pollScene_value waiting standing] at machine
    -- Both answers that the scene is there have the state entered.
    have arrives (phase : Phase) (ready : phase.isReady = true)
        (heard : polled.loader.heard = game.loader.heard ++ [.polls ticket phase])
        (entered : polled.machine =
          (Machine.enter { game.machine with pending := none } kind).value) :
        Justified (Heralded plan) past (polled.machine.queue.map (Telling.mk polled)) ∧
          Led plan (past ++ polled.machine.queue.map (Telling.mk polled)) polled := by
      obtain ⟨current, pending, -, queue⟩ :=
        Machine.enter_unwaiting sound (Machine.told_of_queue told) built waiting standing
      rw [← entered] at current pending queue
      rw [queue, told]
      exact ⟨heralded_of_unchanged (unchanged_arrival (some kind) polled),
        led.entered waiting standing current pending heard ready⟩
    cases answer : (SceneLoader.poll game.loader ticket).1 with
    | loading =>
      rw [answer] at machine heard
      have same : polled.machine = game.machine := machine
      exact untold (same ▸ told) (led.still waiting same heard)
    | failed =>
      rw [answer] at machine
      have inactive : polled.machine.active? = none := by
        rw [machine]
        exact sound.waits (by simp [waiting])
      have waitless : polled.machine.pending = none := by rw [machine]
      refine untold ?_ ⟨fun _ other pending => ?_, fun active => ?_⟩
      · rw [machine]
        exact told
      · cases waitless.symm.trans pending
      · cases inactive.symm.trans active
    | sceneReady =>
      rw [answer] at machine heard
      exact arrives .sceneReady rfl heard machine
    | finished =>
      rw [answer] at machine heard
      exact arrives .finished rfl heard machine
  · have idle : ∀ ticket kind, game.machine.pending = some ticket →
        game.machine.current ≠ some kind :=
      fun ticket kind waiting standing => waits ⟨ticket, kind, waiting, standing⟩
    rw [Machine.pollScene_idle idle] at machine loader
    have led := led.stays (machine ▸ .refl game.machine)
      (congrArg Overheard.heard loader) (List.forall_mem_nil _)
    rw [List.append_nil] at led
    exact untold (machine ▸ told) led

variable [Host η]

/-- Meeting requests names a state that requires loading only if the way to it was prepared. -/
theorem Led.processRequest (led : Led plan past game) (rest : game.AtRest)
    (built : game.machine.Built plan)
    (unforced : ∀ target, game.machine.pendingRequest? ≠ some (.enterScene target)) :
    let after := game.processRequest.value.processSubRequest.value
    Justified (Heralded plan) past (after.machine.queue.map (Telling.mk after)) ∧
      Led plan (past ++ after.machine.queue.map (Telling.mk after)) after := by
  intro after
  obtain ⟨stays, kept⟩ := Stirs.stays (processSubRequest_stirs game.processRequest.value)
  have value := game.processRequest_value
  have machine : game.processRequest.value.machine =
      (game.machine.processRequest game.loader).value.2.1 := by rw [value]
  have loader : game.processRequest.value.loader =
      (game.machine.processRequest game.loader).value.2.2 := by rw [value]
  have conversation : game.processRequest.value.conversation = game.conversation := by rw [value]
  obtain ⟨asks, same⟩ | ⟨request, target, transition, pending, change, introduced, leads⟩ :=
    Machine.processRequest_introduced rest.sound (Machine.told_of_queue rest.told) built game.loader
  · rw [← machine] at asks
    have spares : game.Asks game.processRequest.value :=
      ⟨asks, congrArg Conversation.session conversation, by rw [value]⟩
    obtain ⟨departures, shape, orderly⟩ := processSubRequest_atRest (rest.quiet spares.quiet)
    have queue : after.machine.queue = departures := orderly.queue.trans (List.append_nil _)
    have unchanged : ∀ telling ∈ after.machine.queue.map (Telling.mk after),
        telling.notice.isChange = false := by
      refine unchanged_map after fun notice member => ?_
      rw [queue] at member
      obtain rfl | ⟨left, next, rfl⟩ := shape
      · cases member
      · obtain rfl | rfl := List.mem_pair.1 member <;> rfl
    exact ⟨heralded_of_unchanged unchanged,
      led.stays (asks.stays.trans stays)
        (congrArg Overheard.heard (kept.trans (loader.trans same))) unchanged⟩
  · rw [← machine] at change introduced
    rw [← loader, ← kept] at introduced
    have placed : game.processRequest.value.conversation.isRunning = true →
        game.machine.HoldsDialog := conversation ▸ rest.placed
    have orderly := processSubRequest_roamless
      (orderly_of_moved rest.told placed change) change.roamless
    have leaving : ∀ telling ∈ game.machine.farewell.map (Telling.mk after),
        telling.notice.isChange = false := by
      refine unchanged_map after fun notice member => ?_
      simpa using List.countP_eq_zero.1 game.machine.countP_farewell.1 notice member
    have switched : target = .loading ∨ (plan.requiresLoading.contains target = true →
        game.machine.loadingTarget? = some target) := by
      cases request with
      | enterScene other => exact absurd pending (unforced other)
      | switch next => exact leads next rfl
    have left : Led plan (past ++ game.machine.farewell.map (Telling.mk after)) game :=
      led.stays (.refl game.machine) rfl leaving
    rw [orderly.queue]
    refine ⟨?_, led_of_introduced change introduced stays⟩
    rw [List.map_append, List.map_append]
    exact justified_append.2 ⟨justified_append.2 ⟨heralded_of_unchanged leaving,
      left.names built pending switched after, trivial⟩,
        heralded_of_unchanged (unchanged_arrival _ after)⟩

/-- What moves once the notices are told names a state that requires loading only if the way to it
was prepared. -/
theorem Led.proceed (led : Led plan past game) (rest : game.AtRest)
    (built : game.machine.Built plan) (tick : Tick)
    (unforced : ∀ target,
      (game.updateActive tick).value.machine.pendingRequest? ≠ some (.enterScene target)) :
    let after := (game.proceed tick).value
    Justified (Heralded plan) past (after.machine.queue.map (Telling.mk after)) ∧
      Led plan (past ++ after.machine.queue.map (Telling.mk after)) after := by
  have stirs := game.updateActive_stirs tick
  obtain ⟨stays, loader⟩ := Stirs.stays stirs
  have asked : Led plan past (game.updateActive tick).value := by
    rw [← List.append_nil past]
    exact led.stays stays (congrArg Overheard.heard loader) (List.forall_mem_nil _)
  have fitting : (game.updateActive tick).value.machine.Built plan :=
    (Stirs.drives stirs).built rest.sound (Machine.told_of_queue rest.told) built
  exact asked.processRequest (rest.quiet (game.updateActive_quiet tick)) fitting unforced

/-- Settling tells of no other state than the notices that wait. -/
theorem Led.settle {departures : List Notice} {arrival : Option StateKind}
    (orderly : game.Orderly departures arrival)
    (told : Justified (Heralded plan) past (game.machine.queue.map (Telling.mk game)))
    (led : Led plan (past ++ game.machine.queue.map (Telling.mk game)) game) :
    Justified (Heralded plan) past game.settleTellings ∧
      Led plan (past ++ game.settleTellings) game.settle.value := by
  obtain ⟨extra, same, unchanged⟩ := settleTellings_queue orderly
  obtain ⟨stays, loader⟩ := Stirs.stays game.settle_stirs
  rw [same, ← List.append_assoc]
  exact ⟨justified_append.2 ⟨told, heralded_of_unchanged unchanged⟩,
    led.stays stays (congrArg Overheard.heard loader) unchanged⟩

/-- A tick names a state that requires loading only if the way to it was prepared, as long as no
request passes over the loading state. -/
theorem Led.tick (led : Led plan past game) (rest : game.AtRest)
    (built : game.machine.Built plan) (tick : Tick)
    (unforced : ∀ target, .taken (.enterScene target) ∉ game.tickHappenings tick) :
    Justified (Heralded plan) past (game.tickTellings tick) ∧
      Led plan (past ++ game.tickTellings tick) (game.tick tick).value := by
  obtain ⟨arrival, polled⟩ := pollScene_atRest rest
  obtain ⟨entering, arrived⟩ := led.pollScene rest.sound built rest.told
  obtain ⟨first, ready⟩ := arrived.settle polled entering
  have fitting : game.ready.machine.Built plan :=
    game.ready_drives.built rest.sound (Machine.told_of_queue rest.told) built
  have asked (target : StateKind) :
      (game.ready.updateActive tick).value.machine.pendingRequest? ≠ some (.enterScene target) := by
    intro pending
    refine unforced target (List.mem_append_left _ (List.mem_append_right _ ?_))
    unfold requestHappenings
    rw [pending]
    exact List.mem_singleton_self _
  obtain ⟨departures, others, -, proceeded⟩ := proceed_atRest (ready_atRest rest) tick
  obtain ⟨naming, moved⟩ := ready.proceed (ready_atRest rest) fitting tick asked
  obtain ⟨second, after⟩ := moved.settle proceeded naming
  rw [List.append_assoc] at after
  exact ⟨justified_append.2 ⟨first, second⟩, after⟩

/-- Talking to a character names no state. -/
theorem Led.talkTo (led : Led plan past game) (rest : game.AtRest) (character : String) :
    Justified (Heralded plan) past (game.talkTellings character) ∧
      Led plan (past ++ game.talkTellings character) (game.talkTo character).value.2 := by
  obtain ⟨same, silent⟩ | ⟨sub, turned, progress, approachable, machine, loader, -, value, told⟩ :=
    game.talkTo_told character
  · rw [same, silent, List.append_nil]
    exact ⟨trivial, led⟩
  · obtain ⟨roaming, exploring, known⟩ := approachable_cases approachable
    have orderly := joined_orderly (machine ▸ rest.sound) (machine ▸ rest.told)
      (machine ▸ roaming) exploring progress
    have begun : game.Stirs [] turned := .of_same machine loader
    obtain ⟨stays, kept⟩ := Stirs.stays
      (begun.then_silent (joined_stirs (machine ▸ roaming) known progress))
    have unchanged : ∀ telling ∈ (turned.joined sub progress).machine.queue.map
        (Telling.mk (turned.joined sub progress)), telling.notice.isChange = false := by
      refine unchanged_map _ fun notice member => ?_
      rw [orderly.queue] at member
      obtain rfl | rfl := List.mem_pair.1 member <;> rfl
    rw [value, told]
    exact (led.stays stays (congrArg Overheard.heard kept) unchanged).settle orderly
      (heralded_of_unchanged unchanged)

/-- An operation names a state that requires loading only if the way to it was prepared. -/
theorem Led.apply (led : Led plan past game) (rest : game.AtRest) (built : game.machine.Built plan)
    (operation : Operation η (Overheard ℓ)) (spares : operation.SparesHeard)
    (unforced : ∀ target, .taken (.enterScene target) ∉ game.happenings operation) :
    Justified (Heralded plan) past (game.tellings operation) ∧
      Led plan (past ++ game.tellings operation) (game.apply operation) := by
  have stirred {after : Game η (Overheard ℓ)} (stirs : game.Stirs [] after) :
      Justified (Heralded plan) past [] ∧ Led plan (past ++ []) after :=
    let ⟨stays, loader⟩ := Stirs.stays stirs
    ⟨trivial, led.stays stays (congrArg Overheard.heard loader) (List.forall_mem_nil _)⟩
  cases operation with
  | tick tick => exact led.tick rest built tick unforced
  | talkTo character => exact led.talkTo rest character
  | openMenu => exact stirred (game.requestSubState_stirs .menu)
  | closeMenu => exact stirred (game.requestSubState_stirs .exploration)
  | requestState request => exact stirred (game.requestState_stirs request)
  | advanceScenario => exact stirred game.advanceScenario_stirs
  | loader change =>
    exact ⟨trivial, led.stays (.refl game.machine) (spares game.loader) (List.forall_mem_nil _)⟩
  | _ => exact stirred (.of_same rfl rfl)

/-- Operations in any order name a state that requires loading only if the way to it was
prepared. -/
theorem Led.runAll (led : Led plan past game) (rest : game.AtRest)
    (built : game.machine.Built plan) (operations : List (Operation η (Overheard ℓ)))
    (spares : ∀ operation ∈ operations, operation.SparesHeard)
    (unforced : ∀ target, .taken (.enterScene target) ∉ game.runHappenings operations) :
    Justified (Heralded plan) past (game.runTellings operations) := by
  induction operations generalizing game past with
  | nil => trivial
  | cons operation others ih =>
    obtain ⟨spared, later⟩ := List.forall_mem_cons.1 spares
    obtain ⟨first, after⟩ := led.apply rest built operation spared fun target taken =>
      unforced target (List.mem_append_left _ taken)
    have fitting := (game.apply_drives operation).built rest.sound
      (Machine.told_of_queue rest.told) built
    have second := ih after (apply_atRest rest operation).1 fitting later fun target taken =>
      unforced target (List.mem_append_right _ taken)
    exact justified_append.2 ⟨first, second⟩

omit [SceneLoader ℓ] in
/-- Before the first operation no state is named but the first one. -/
theorem openingTellings_changes {bundle : Bundle} {config : Config} {host : η}
    {loader : Overheard ℓ} {machine : Machine}
    (entered : ((Machine.ofPlan config.states config.tracing).enterState
      config.states.startup).value = .ok machine) :
    ((openingTellings bundle config host loader).map Telling.notice).filter Notice.isChange =
      [.changed none config.states.startup] := by
  obtain ⟨vacant, told⟩ := Machine.ofPlan_vacant config.states config.tracing
  have change := Machine.enterState_moved vacant.sound (Machine.told_of_queue told) entered
  unfold openingTellings openingTrace
  rw [entered]
  dsimp only
  let storyline := ((Storyline.empty config.tracing).load bundle.scenario).value
  let started := unopened bundle config machine storyline host loader
  have orderly : started.Orderly _ _ := orderly_of_moved told nofun change
  obtain ⟨extra, same, unchanged⟩ := settleTellings_queue orderly
  have silent : (extra.map Telling.notice).filter Notice.isChange = [] := by
    refine List.filter_eq_nil_iff.2 fun notice member => ?_
    obtain ⟨telling, listed, rfl⟩ := List.mem_map.1 member
    simp [unchanged telling listed]
  have waits : started.machine.queue.filter Notice.isChange =
      [.changed none config.states.startup] := by
    have inactive := Machine.active?_eq_none_of_inactive vacant.inactive
    rw [orderly.queue, (Machine.farewell_eq_nil vacant.sound inactive).2]
    cases started.machine.active? <;> rfl
  have told : (started.machine.queue.map (Telling.mk started)).map Telling.notice =
      started.machine.queue := by simp [Function.comp_def]
  change (started.settleTellings.map Telling.notice).filter Notice.isChange = _
  rw [same, List.map_append, List.filter_append, silent, told, waits, List.append_nil]

/-- A state that requires loading is reached through the loading state, whatever is asked for and
whatever the loader answers, as long as no request passes over the loading state. Apart from the
first state, which nothing leads to, such a state is named only where the loading state was current,
and since the loading state was named, it was entered while it led there, its own scene, if it has
one, having been reported to be there. -/
theorem reached_through_loading {bundle : Bundle} {config : Config} {host : η}
    {loader : Overheard ℓ} {opened : Game η (Overheard ℓ)}
    (valid : (Game.ofBundle bundle config host loader).value = .ok opened)
    (operations : List (Operation η (Overheard ℓ)))
    (spares : ∀ operation ∈ operations, operation.SparesHeard)
    (unforced : ∀ target, .taken (.enterScene target) ∉ opened.runHappenings operations) :
    ((openingTellings bundle config host loader).map Telling.notice).filter Notice.isChange =
        [.changed none config.states.startup] ∧
      ∀ before told later source target, opened.runTellings operations = before ++ told :: later →
        told.notice = .changed source target →
        config.states.requiresLoading.contains target = true → target ≠ .loading →
          source = some .loading ∧ Prepared config.states before target := by
  have rest := (ofBundle_atRest valid).1
  have built : opened.machine.Built config.states := runAll_built valid []
  obtain ⟨machine, entered, -⟩ := ofBundle_cases valid
  refine ⟨openingTellings_changes entered, fun before told later source target split named => ?_⟩
  have led : Led config.states [] opened := led_of_elsewhere (opened_elsewhere valid)
  have heralded : Heralded config.states before told :=
    (split ▸ led.runAll rest built operations spares unforced).reason
  exact heralded source target named

/-- A battle is reached through the loading state, whose scene has to be there first. -/
theorem reached_through_loading_battle :
    ∃ opened, (Game.ofBundle .empty .instant Recorder.empty
        (⟨InstantLoader.empty, []⟩ : Overheard InstantLoader)).value = .ok opened ∧
      let tellings := opened.runTellings
        [.requestState (.switch .battle), .tick (.press .none), .tick (.press .none)]
      tellings.map Telling.notice = [.exited .title, .changed (some .title) .loading,
          .entered .loading, .exited .loading, .changed (some .loading) .battle] ∧
        ∃ before told, tellings = before ++ [told] ∧
          told.notice = .changed (some .loading) .battle ∧
            Prepared Config.instant.states before .battle := by
  refine ⟨_, rfl, rfl, [_, _, _, _], _, rfl, rfl, ?_⟩
  have valid : (Game.ofBundle .empty .instant Recorder.empty
    (⟨InstantLoader.empty, []⟩ : Overheard InstantLoader)).value = .ok _ := rfl
  refine ((reached_through_loading valid
    [.requestState (.switch .battle), .tick (.press .none), .tick (.press .none)]
    (by simp [Operation.SparesHeard]) ?_).2 [_, _, _, _] _ [] _ _ rfl rfl (by decide) nofun).2
  intro target taken
  change .taken (.enterScene target) ∈
    [Happening.taken (.switch .battle), .taken (.switch .battle)] at taken
  simp at taken

/-- A loading state that requires loading itself is not reached from the loading state. -/
theorem loading_reached_directly :
    let config : Config := { Config.instant with
      states := { StatePlan.withoutScenes with
        requiresLoading := SortedSet.ofMembers [.battle, .loading] } }
    ∃ opened, (Game.ofBundle .empty config Recorder.empty
        (⟨InstantLoader.empty, []⟩ : Overheard InstantLoader)).value = .ok opened ∧
      opened.runHappenings [.requestState (.switch .battle), .tick (.press .none)] =
        [.taken (.switch .battle)] ∧
      ∃ before told later, opened.runTellings
          [.requestState (.switch .battle), .tick (.press .none)] = before ++ told :: later ∧
        told.notice = .changed (some .title) .loading ∧
          config.states.requiresLoading.contains .loading = true :=
  ⟨_, rfl, rfl, [_], _, [_], rfl, rfl, by decide⟩

end Steps

end Game

end Narrative
