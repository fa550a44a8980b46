import Narrative.Proofs.Machine.Makeup
import Narrative.Proofs.Machine.Telling

/-!
# The strides of a machine

What an operation does to a machine, to what it waits for, and to what is heard of it, is one of
six things. At most sub-states change; a state is named and entered at once; a state is named and
its scene asked for; or the loader is asked for the scene that is waited for, and answers that it is
not there yet, that it will never be, or that it is there, which enters the state. Whatever concerns
the entering of states follows from these six.
-/

namespace Narrative

namespace Machine

variable {ℓ : Type} {plan : StatePlan} {machine : Machine}

/-- A state that there is becomes active when it is entered. -/
theorem active?_enter {kind : StateKind} (current : machine.current = some kind)
    (known : machine.state? kind ≠ none) : (machine.enter kind).value.active? = some kind := by
  unfold enter
  split
  · next missing => exact absurd missing known
  · refine active?_eq_some_iff.2 ⟨current, ?_⟩
    rw [Logged.value_bind, Logged.value_pure, isActive_of_insert rfl, if_pos rfl]

/-- Entering a state does not change what is waited for. -/
theorem pending_enter (machine : Machine) (kind : StateKind) :
    (machine.enter kind).value.pending = machine.pending := by
  unfold enter
  split <;> rfl

/-- A state that was named is introduced: it is entered if it has no scene, and otherwise its scene
is asked for. -/
inductive Introduced (plan : StatePlan) (moved : Machine) (kind : StateKind)
    (transition : Transition) (heard left : List Event) : Prop where
  /-- It has no scene and is active. -/
  | entered (sceneless : plan.scene? kind = none) (pending : moved.pending = none)
      (active : moved.active? = some kind) (unheard : left = heard)
  /-- Its scene is asked for, and it waits for that. -/
  | asked {scene : String} {ticket : Ticket} (planned : plan.scene? kind = some scene)
      (pending : moved.pending = some ticket)
      (heard : left = heard ++ [.loads scene transition ticket])

section Moves

variable [SceneLoader ℓ]

/-- Loading the scene of a state that there is, or entering it. -/
theorem loadOrEnter_introduced (built : machine.Built plan) (vacant : machine.Vacant)
    {kind : StateKind} (current : machine.current = some kind) (transition : Transition)
    (loader : Overheard ℓ) :
    let moved := (machine.loadOrEnter kind transition loader).value
    moved.1.Built plan ∧ Introduced plan moved.1 kind transition loader.heard moved.2.heard := by
  intro moved
  refine ⟨built.loadOrEnter kind transition loader, ?_⟩
  have known : machine.state? kind ≠ none := built.standing kind current
  obtain ⟨state, found⟩ := Option.ne_none_iff_exists'.1 known
  have shown : (machine.state? kind).bind GameState.scene = plan.scene? kind := by
    rw [found]
    exact (built.fits kind state found).scene
  unfold moved loadOrEnter
  rw [shown]
  cases planned : plan.scene? kind with
  | none =>
    exact .entered planned ((machine.pending_enter kind).trans vacant.pending)
      (active?_enter current known) rfl
  | some scene => exact .asked planned rfl rfl

/-- Leaving the current state for another one of the plan. -/
theorem moveTo_introduced (sound : machine.Sound) (told : machine.Told)
    (built : machine.Built plan) {next : StateKind} (real : next ≠ .loading)
    (registered : plan.registered.contains next = true) (transition : Transition)
    (loader : Overheard ℓ) :
    let moved := (machine.moveTo next transition loader).value
    moved.1.Built plan ∧ Introduced plan moved.1 next transition loader.heard moved.2.heard := by
  obtain ⟨left, -, -⟩ := exitCurrent_spec sound told
  obtain ⟨named, arriving, -, -⟩ := changeTo_spec left next
  have known := built.exitCurrent.present next real registered
  exact loadOrEnter_introduced (built.exitCurrent.changeTo known) named arriving transition loader

/-- Leaving the current state for the loading state. -/
theorem moveThroughLoading_introduced (sound : machine.Sound) (told : machine.Told)
    (built : machine.Built plan) {target : StateKind} (real : target ≠ .loading)
    (registered : plan.registered.contains target = true)
    (requires : plan.requiresLoading.contains target = true) (loader : Overheard ℓ) :
    let moved := (machine.moveThroughLoading target loader).value
    moved.1.Built plan ∧ Introduced plan moved.1 .loading .fade loader.heard moved.2.heard := by
  obtain ⟨left, -, -⟩ := exitCurrent_spec sound told
  obtain ⟨ready, -, -⟩ := withLoading_spec left target
  obtain ⟨named, arriving, -, -⟩ := changeTo_spec ready .loading
  obtain ⟨built, known⟩ := built.exitCurrent.withLoading real registered requires
  exact loadOrEnter_introduced (built.changeTo known) named arriving .fade loader

/-- A state that was met without loading its scene. -/
theorem enterState_entered (sound : machine.Sound) (told : machine.Told)
    (built : machine.Built plan) {kind : StateKind} {moved : Machine}
    (entered : (machine.enterState kind).value = .ok moved) :
    moved.Built plan ∧ moved.pending = none ∧ moved.active? = some kind := by
  unfold enterState at entered
  simp only [Logged.value_bind] at entered
  split at entered
  · cases entered
  · next known =>
    obtain ⟨real, registered⟩ := built.lookup_ok known
    obtain ⟨left, -, -⟩ := exitCurrent_spec sound told
    obtain ⟨named, arriving, -, -⟩ := changeTo_spec left kind
    have there := built.exitCurrent.present kind real registered
    have built := built.exitCurrent.changeTo there
    obtain rfl := Except.ok.inj entered
    exact ⟨built.enter kind, (pending_enter _ kind).trans named.pending,
      active?_enter arriving (built.standing kind arriving)⟩

/-- A request that is met is met by a change to a state of the plan or to the loading state, which
is introduced. -/
theorem fulfil_introduced (sound : machine.Sound) (told : machine.Told)
    (built : machine.Built plan) (request : Request) {loader left : Overheard ℓ} {moved : Machine}
    (met : (machine.fulfil loader request).value = .ok (moved, left)) :
    ∃ target transition, machine.Moved moved target ∧ moved.Built plan ∧
      Introduced plan moved target transition loader.heard left.heard := by
  obtain ⟨known, ⟨transition, direct⟩ | ⟨requires, through⟩⟩ := fulfil_cases met
  · obtain ⟨real, registered⟩ := built.lookup_ok known
    have change := moveTo_moved sound told request.target transition loader
    have introduced := moveTo_introduced sound told built real registered transition loader
    rw [direct] at change introduced
    exact ⟨_, transition, change, introduced⟩
  · obtain ⟨real, registered⟩ := built.lookup_ok known
    rw [built.requiresLoading] at requires
    have change := moveThroughLoading_moved sound told request.target loader
    have introduced :=
      moveThroughLoading_introduced sound told built real registered requires loader
    rw [through] at change introduced
    exact ⟨.loading, .fade, change, introduced⟩

end Moves

/-- Whether an event tells that a sub-state is entered or left. -/
def Event.isSub : Event → Bool
  | .notice (.subEntered _) | .notice (.subExited _) => true
  | _ => false

/-- Sub-states that tell nothing but how they are entered and left. -/
def TellsSubs (old sub : SubMachine) : Prop :=
  ∃ news, sub.notices = old.notices ++ news ∧
    ∀ notice ∈ news, (Event.notice notice).isSub = true

/-- Sub-states with the notices that were there before. -/
theorem tellsSubs_of_same {old sub : SubMachine} (same : sub.notices = old.notices) :
    TellsSubs old sub :=
  ⟨[], by rw [same, List.append_nil], nofun⟩

/-- Leaving the current sub-state. -/
theorem exit_tellsSubs (sub : SubMachine) : TellsSubs sub sub.exit := by
  refine ⟨_, sub.notices_exit, fun notice listed => ?_⟩
  obtain ⟨kind, -, rfl⟩ := Option.map_eq_some_iff.1 (Option.mem_toList.1 listed)
  rfl

/-- A switch to a sub-state that there is. -/
theorem switchTo_tellsSubs {old sub : SubMachine} {next : SubKind}
    (switched : (old.switchTo next).value = .ok sub) : TellsSubs old sub := by
  rw [SubMachine.switchTo_value] at switched
  split at switched
  · obtain rfl := Except.ok.inj switched
    obtain ⟨left, notices, subs⟩ := exit_tellsSubs old
    refine ⟨left ++ [.subEntered next], ?_, ?_⟩
    · rw [SubMachine.notices_enter, notices, List.append_assoc]
    · intro notice listed
      obtain earlier | last := List.mem_append.1 listed
      · exact subs notice earlier
      · obtain rfl := List.mem_singleton.1 last
        rfl
  · cases switched

/-- Meeting the request of the current sub-state. -/
theorem processRequest_tellsSubs (sub : SubMachine) :
    TellsSubs sub sub.processRequest.value.2 := by
  obtain ⟨-, same⟩ | ⟨left, next, -, -, told⟩ := sub.processRequest_cases
  · exact tellsSubs_of_same same
  · exact ⟨_, told, by simp [Event.isSub]⟩

/-- What an operation does to a machine, with what happens around it meanwhile. -/
inductive Stride (plan : StatePlan) (command : Command ℓ) (machine after : Machine)
    (events : List Event) : Prop where
  /-- The current state and what it waits for stay. While it is active, sub-states may change. -/
  | still (current : after.current = machine.current) (pending : after.pending = machine.pending)
      (active : after.active? = machine.active?) (subs : ∀ event ∈ events, event.isSub = true)
      (silent : machine.active? = none → events = [])
  /-- A state becomes current and is entered, since it has no scene or its scene is passed over. -/
  | enters {target : StateKind} (current : after.current = some target)
      (pending : after.pending = none) (active : after.active? = some target)
      (cause : plan.scene? target = none ∨ command = .enterState target)
      (told : events = machine.farewell.map Event.notice ++
        [.notice (.changed machine.current target), .notice (.entered target)])
  /-- A state becomes current, and its scene is asked for. -/
  | asks {target : StateKind} {scene : String} {transition : Transition} {ticket : Ticket}
      (current : after.current = some target) (pending : after.pending = some ticket)
      (planned : plan.scene? target = some scene)
      (told : events = machine.farewell.map Event.notice ++
        [.notice (.changed machine.current target), .loads scene transition ticket])
  /-- The scene that the current state waits for is not there yet. -/
  | waits {ticket : Ticket} (waiting : machine.pending = some ticket)
      (current : after.current = machine.current) (pending : after.pending = some ticket)
      (inactive : after.active? = none) (told : events = [.polls ticket .loading])
  /-- The scene that the current state waits for will never be there. -/
  | fails {ticket : Ticket} (waiting : machine.pending = some ticket)
      (current : after.current = machine.current) (pending : after.pending = none)
      (inactive : after.active? = none) (told : events = [.polls ticket .failed])
  /-- The scene that the current state waits for is there, and it is entered. -/
  | arrives {ticket : Ticket} {kind : StateKind} {phase : Phase} (asking : command = .pollScene)
      (waiting : machine.pending = some ticket) (standing : machine.current = some kind)
      (ready : phase.isReady = true) (current : after.current = some kind)
      (pending : after.pending = none) (active : after.active? = some kind)
      (told : events = [.polls ticket phase, .notice (.entered kind)])

/-- What an outcome adds is what it told. -/
theorem Outcome.Tells.news_eq {outcome : Outcome ℓ} {news : List Notice}
    (tells : Outcome.Tells machine outcome news) : outcome.news machine = news := by
  unfold Outcome.news
  rw [tells.log]
  exact List.drop_left

/-- What a change of state adds is what it told. -/
theorem Moved.news_eq {moved : Machine} {target : StateKind} (change : machine.Moved moved target)
    (loader : ℓ) : Outcome.news machine ⟨moved, loader, none, []⟩ =
      machine.farewell ++ .changed machine.current target ::
        (moved.active?.map Notice.entered).toList := by
  unfold Outcome.news
  rw [List.nil_append, change.queue, List.append_assoc]
  exact List.drop_left

/-- A change to a state that is introduced is a stride. -/
theorem Moved.stride {command : Command ℓ} {moved : Machine} {target : StateKind}
    {transition : Transition} {left : List Event} (change : machine.Moved moved target)
    (introduced : Introduced plan moved target transition [] left) :
    Stride plan command machine moved
      ((machine.farewell ++ .changed machine.current target ::
        (moved.active?.map Notice.entered).toList).map Event.notice ++ left) := by
  cases introduced with
  | entered sceneless pending active unheard =>
    refine .enters change.current pending active (.inl sceneless) ?_
    rw [active, unheard]
    simp
  | @asked scene ticket planned pending heard =>
    have inactive : moved.active? = none := change.sound.waits (by simp [pending])
    refine @Stride.asks _ _ _ _ _ _ target scene transition ticket change.current pending planned ?_
    rw [inactive, heard]
    simp

namespace Outcome

/-- An outcome that a stride leads to, and that leaves a machine that is built. -/
structure Strides (plan : StatePlan) (machine : Machine) (command : Command ℓ)
    (outcome : Outcome (Overheard ℓ)) : Prop where
  /-- Its states are those of the plan. -/
  built : outcome.machine.Built plan
  /-- A stride led to it. -/
  stride : Stride plan command machine outcome.machine
    (command.inOrder (outcome.news machine) outcome.loader.heard)

variable {command : Command ℓ} {outcome : Outcome (Overheard ℓ)}

/-- An outcome that differs from the machine in nothing but requests and notices that were
taken. -/
theorem strides_of_agrees (built : outcome.machine.Built plan)
    (agrees : machine.Agrees outcome.machine)
    (silent : outcome.taken ++ outcome.machine.queue = machine.queue)
    (unheard : outcome.loader.heard = []) : Strides plan machine command outcome := by
  have nothing : command.inOrder (outcome.news machine) outcome.loader.heard = [] := by
    unfold news
    rw [silent, unheard, List.drop_length, Command.inOrder_nil]
  refine ⟨built, .still agrees.current agrees.pending agrees.active? ?_ fun _ => nothing⟩
  rw [nothing]
  exact nofun

/-- A change of state, or none, of a machine whose request may have been used up before. -/
theorem ofMove_strides {asked : Machine} (asks : machine.OnlyAsks asked)
    (built : asked.Built plan) (loader : ℓ)
    (order : ∀ told heard, command.inOrder told heard = told.map Event.notice ++ heard)
    {result : Except MachineError (Machine × Overheard ℓ)}
    (moves : ∀ moved left, result = .ok (moved, left) → ∃ target transition,
      machine.Moved moved target ∧ moved.Built plan ∧
        Introduced plan moved target transition [] left.heard) :
    Strides plan machine command (ofMove asked ⟨loader, []⟩ result) := by
  cases result with
  | error _ => exact strides_of_agrees built asks.agrees asks.queue rfl
  | ok result =>
    obtain ⟨target, transition, change, built, introduced⟩ := moves _ _ rfl
    refine ⟨built, ?_⟩
    change Stride plan command machine result.1
      (command.inOrder (news machine ⟨result.1, result.2, none, []⟩) result.2.heard)
    rw [order, change.news_eq]
    exact change.stride introduced

/-- A change of the sub-states of free roam, or none. -/
theorem ofSub_strides (built : machine.Built plan) (loader : ℓ)
    {change : SubMachine → SubMachine × Option MachineError}
    (fits : ∀ sub : SubMachine, sub.Fits → (change sub).1.Fits)
    (order : ∀ told heard, command.inOrder told heard = told.map Event.notice ++ heard)
    (tells : ∀ sub : SubMachine, TellsSubs sub (change sub).1) :
    Strides plan machine command (ofSub machine ⟨loader, []⟩ change) := by
  unfold ofSub
  split
  · next sub roam =>
    obtain ⟨active, found⟩ := freeRoam_eq_ok_iff.1 roam
    obtain ⟨added, notices, subs⟩ := tells sub
    refine ⟨built.withSubMachine (fits sub (built.sub_fits found)),
      .still rfl rfl (active?_withSubMachine ..) ?_ fun inactive => ?_⟩
    · have news : news machine (⟨machine.withSubMachine (change sub).1,
          (⟨loader, []⟩ : Overheard ℓ), (change sub).2, []⟩) = added := by
        unfold Outcome.news
        rw [List.nil_append, queue_withSubMachine found, notices, ← List.append_assoc]
        unfold queue subNotices
        rw [found]
        exact List.drop_left
      change ∀ event ∈ command.inOrder (Outcome.news machine _) [], event.isSub = true
      rw [news, order, List.append_nil]
      intro event member
      obtain ⟨notice, listed, rfl⟩ := List.mem_map.1 member
      exact subs notice listed
    · rw [active] at inactive
      cases inactive
  · exact strides_of_agrees built (.refl machine) rfl rfl

end Outcome

variable [SceneLoader ℓ]

/-- Where no scene is waited for, none is asked for. -/
theorem pollScene_idle
    (idle : ∀ ticket kind, machine.pending = some ticket → machine.current ≠ some kind)
    (loader : ℓ) : (machine.pollScene loader).value = (machine, loader) := by
  unfold pollScene
  split
  · next ticket kind waiting standing => exact absurd standing (idle ticket kind waiting)
  · rfl

/-- What asking for the scene of the current state comes to, by the answer. -/
theorem pollScene_value {ticket : Ticket} {kind : StateKind}
    (waiting : machine.pending = some ticket) (standing : machine.current = some kind)
    (loader : ℓ) :
    (machine.pollScene loader).value =
      (match (SceneLoader.poll loader ticket).1 with
        | .loading => machine
        | .failed => { machine with pending := none }
        | _ => (enter { machine with pending := none } kind).value,
        (SceneLoader.poll loader ticket).2) := by
  unfold pollScene
  rw [waiting, standing]
  dsimp only
  cases (SceneLoader.poll loader ticket).1 <;> rfl

/-- A state that was waited for is entered, which is told. -/
theorem enter_unwaiting (sound : machine.Sound) (told : machine.Told) (built : machine.Built plan)
    {ticket : Ticket} {kind : StateKind} (waiting : machine.pending = some ticket)
    (standing : machine.current = some kind) :
    let entered := (enter { machine with pending := none } kind).value
    entered.current = some kind ∧ entered.pending = none ∧ entered.active? = some kind ∧
      entered.queue = machine.queue ++ [.entered kind] := by
  intro entered
  have inactive : machine.active? = none := sound.waits (by simp [waiting])
  have vacant : Vacant { machine with pending := none } :=
    vacant_of_inactive sound (told (by simp [inactive])) inactive (fun _ => rfl) rfl rfl
  have active : entered.active? = some kind :=
    active?_enter standing (built.standing kind standing)
  obtain ⟨-, current, -, -, -, queue⟩ := enter_spec vacant standing
  refine ⟨current, pending_enter _ kind, active, queue.trans ?_⟩
  rw [active]
  rfl

/-- Asking for the scene of the current state. -/
theorem pollScene_strides (sound : machine.Sound) (told : machine.Told)
    (built : machine.Built plan) (loader : ℓ) :
    Outcome.Strides plan machine .pollScene (Command.pollScene.perform machine ⟨loader, []⟩) := by
  let heeding : Overheard ℓ := ⟨loader, []⟩
  refine ⟨built.pollScene heeding, ?_⟩
  change Stride plan _ machine (machine.pollScene heeding).value.1
    ((machine.pollScene heeding).value.2.heard ++
      ((machine.pollScene heeding).value.1.queue.drop machine.queue.length).map Event.notice)
  by_cases waits : ∃ ticket kind, machine.pending = some ticket ∧ machine.current = some kind
  · obtain ⟨ticket, kind, waiting, standing⟩ := waits
    have inactive : machine.active? = none := sound.waits (by simp [waiting])
    have heard : (SceneLoader.poll heeding ticket).2.heard =
        [.polls ticket (SceneLoader.poll loader ticket).1] := rfl
    have answer : (SceneLoader.poll heeding ticket).1 = (SceneLoader.poll loader ticket).1 := rfl
    rw [pollScene_value waiting standing, heard, answer]
    have arrives (phase : Phase) (ready : phase.isReady = true) :
        Stride plan (Command.pollScene : Command ℓ) machine
          (enter { machine with pending := none } kind).value
          ([.polls ticket phase] ++ (((enter { machine with pending := none } kind).value.queue.drop
            machine.queue.length).map Event.notice)) := by
      obtain ⟨current, pending, active, queue⟩ :=
        enter_unwaiting sound told built waiting standing
      refine .arrives rfl waiting standing ready current pending active ?_
      rw [queue, List.drop_left]
      rfl
    cases (SceneLoader.poll loader ticket).1 with
    | loading => exact .waits waiting rfl waiting inactive (by simp)
    | failed =>
      have silent : queue { machine with pending := none } = machine.queue := rfl
      exact .fails waiting rfl rfl inactive (by simp [silent])
    | sceneReady => exact arrives .sceneReady rfl
    | finished => exact arrives .finished rfl
  · have idle : ∀ ticket kind, machine.pending = some ticket → machine.current ≠ some kind :=
      fun ticket kind waiting standing => waits ⟨ticket, kind, waiting, standing⟩
    have nothing : heeding.heard ++ (machine.queue.drop machine.queue.length).map Event.notice =
        [] := by simp [heeding]
    rw [pollScene_idle idle, nothing]
    exact .still rfl rfl rfl nofun fun _ => rfl

/-- Meeting the request of the current state. -/
theorem processRequest_strides (sound : machine.Sound) (told : machine.Told)
    (built : machine.Built plan) (loader : ℓ) :
    Outcome.Strides plan machine .processRequest
      (Command.processRequest.perform machine ⟨loader, []⟩) := by
  rw [Command.perform_processRequest]
  have asks := machine.dropRequest_onlyAsks
  have sound := asks.agrees.sound sound
  have told := asks.told told
  split
  · exact Outcome.strides_of_agrees built (.refl machine) rfl rfl
  · next request _ =>
    refine Outcome.ofMove_strides asks built.dropRequest loader (fun _ _ => rfl)
      fun moved left met => ?_
    obtain ⟨target, transition, change, built, introduced⟩ :=
      fulfil_introduced sound told built.dropRequest request met
    exact ⟨target, transition, change.of_agrees asks.agrees asks.queue, built, introduced⟩

/-- Every operation is a stride. -/
theorem Command.perform_strides (sound : machine.Sound) (told : machine.Told)
    (built : machine.Built plan) (loader : ℓ) (command : Command ℓ) :
    Outcome.Strides plan machine command (command.perform machine ⟨loader, []⟩) := by
  cases command with
  | enterState kind =>
    cases known : (machine.enterState kind).value with
    | error error =>
      rw [perform, known]
      exact Outcome.strides_of_agrees built (.refl machine) rfl rfl
    | ok moved =>
      rw [perform, known]
      obtain ⟨built, pending, active⟩ := enterState_entered sound told built known
      have change := enterState_moved sound told known
      refine ⟨built, .enters change.current pending active (.inr rfl) ?_⟩
      change (Outcome.news machine ⟨moved, (⟨loader, []⟩ : Overheard ℓ), none, []⟩).map
        Event.notice ++ [] = _
      rw [change.news_eq, active]
      simp
  | switchState next =>
    exact Outcome.ofMove_strides (.refl machine) built loader (fun _ _ => rfl)
      fun moved left switched => fulfil_introduced sound told built (.switch next) switched
  | enterScene next =>
    exact Outcome.ofMove_strides (.refl machine) built loader (fun _ _ => rfl)
      fun moved left entered => fulfil_introduced sound told built (.enterScene next) entered
  | pollScene => exact pollScene_strides sound told built loader
  | request next =>
    have asks := machine.request_onlyAsks next
    exact Outcome.strides_of_agrees (built.request next) asks.agrees asks.queue rfl
  | processRequest => exact processRequest_strides sound told built loader
  | switchSub next =>
    refine Outcome.ofSub_strides built loader (fun sub fits => ?_) (fun _ _ => rfl) fun sub => ?_
    · split
      · next switched => exact fits.switchTo switched
      · exact fits
    · split
      · next switched => exact switchTo_tellsSubs switched
      · exact tellsSubs_of_same rfl
  | exitSub =>
    rw [perform]
    exact Outcome.ofSub_strides built loader (fun sub fits => fits.exit) (fun _ _ => rfl)
      exit_tellsSubs
  | requestSub next =>
    rw [perform]
    exact Outcome.ofSub_strides built loader (fun sub fits => fits.request next) (fun _ _ => rfl)
      fun sub => tellsSubs_of_same (sub.request_keeps next).2
  | processSub =>
    rw [perform]
    exact Outcome.ofSub_strides built loader (fun sub fits => fits.processRequest) (fun _ _ => rfl)
      processRequest_tellsSubs
  | takeNotices =>
    refine Outcome.strides_of_agrees built.takeNotices machine.agrees_takeNotices ?_ rfl
    change machine.takeNotices.1 ++ machine.takeNotices.2.queue = machine.queue
    rw [takeNotices_fst, queue_takeNotices, List.append_nil]
  | takeSubNotices =>
    rw [perform]
    split
    · next sub roam =>
      obtain ⟨active, found⟩ := freeRoam_eq_ok_iff.1 roam
      have fits := built.sub_fits found
      refine ⟨built.withSubMachine ⟨fits.single, fits.asks, fits.entered⟩,
        .still rfl rfl (active?_withSubMachine ..) ?_ fun inactive => ?_⟩
      · have silent : (sub.notices ++ queue (machine.withSubMachine sub.takeNotices.2)).drop
            machine.queue.length = [] := by
          refine List.drop_eq_nil_of_le (Nat.le_of_eq ?_)
          rw [queue_withSubMachine found]
          simp [SubMachine.takeNotices, queue, subNotices, found, Nat.add_comm]
        have nothing : (Command.takeSubNotices : Command ℓ).inOrder
            ((sub.notices ++ queue (machine.withSubMachine sub.takeNotices.2)).drop
              machine.queue.length) [] = [] := by
          rw [silent, inOrder_nil]
        exact fun event listed => absurd (nothing ▸ listed) (List.not_mem_nil)
      · rw [active] at inactive
        cases inactive
    · exact Outcome.strides_of_agrees built (.refl machine) rfl rfl
  | loader change => exact Outcome.strides_of_agrees built (.refl machine) rfl rfl

end Machine

end Narrative
