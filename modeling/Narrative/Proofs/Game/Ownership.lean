import Narrative.Proofs.Game.Settling

/-!
# The place of the running dialog

Between two operations, a dialog is running only in the event state or in the dialog sub-state of
free roam, whatever has happened to the game since it was opened. Nothing stores this link. It
holds because every operation starts from a game at rest and leaves an orderly one to be settled,
and because of it no attempt ever finds another dialog running.
-/

namespace Narrative.Game

variable {η ℓ : Type} {game after : Game η ℓ}

/-- What was left is told by departures. -/
theorem farewell_departing (machine : Machine) :
    ∀ notice ∈ machine.farewell, notice.isArrival = false := by
  intro notice member
  obtain sub | state := List.mem_append.1 member
  · obtain ⟨kind, -, rfl⟩ := Option.map_eq_some_iff.1 (Option.mem_toList.1 sub)
    rfl
  · obtain ⟨kind, -, rfl⟩ := Option.map_eq_some_iff.1 (Option.mem_toList.1 state)
    rfl

/-- A change of state leaves an orderly game if every running dialog had its place before. -/
theorem orderly_of_moved {machine : Machine} {target : StateKind} (told : machine.queue = [])
    (placed : after.conversation.isRunning = true → machine.HoldsDialog)
    (change : machine.Moved after.machine target) :
    after.Orderly (machine.farewell ++ [.changed machine.current target])
      after.machine.active? where
  sound := change.sound
  queue := by
    rw [change.queue, told, List.nil_append, List.append_assoc]
    rfl
  departing notice member := by
    obtain left | named := List.mem_append.1 member
    · exact farewell_departing machine notice left
    · rw [List.mem_singleton.1 named]
      rfl
  arriving _ active := ⟨active, change.roamless⟩
  placed running := by
    obtain ⟨notice, member, breaks⟩ := (placed running).farewell
    exact .inl ⟨notice, List.mem_append_left _ member, breaks⟩

/-- The conversation of an orderly game may rest on another standing with the same queue. -/
theorem Orderly.congr {departures : List Notice} {arrival : Option StateKind}
    (orderly : game.Orderly departures arrival) (standing : game.machine.Agrees after.machine)
    (queue : after.machine.queue = game.machine.queue)
    (running : after.conversation.isRunning = true → game.conversation.isRunning = true) :
    after.Orderly departures arrival where
  sound := standing.sound orderly.sound
  queue := queue.trans orderly.queue
  departing := orderly.departing
  arriving kind arrives := by
    rw [standing.active?, standing.subKind]
    exact orderly.arriving kind arrives
  placed on := (orderly.placed (running on)).imp_right fun ⟨nowhere, holds⟩ =>
    ⟨nowhere, standing.holdsDialog holds⟩

/-- A sub-state that is left for another one leaves an orderly game. -/
theorem orderly_of_switched {old sub : SubMachine} {left next : SubKind}
    (sound : game.machine.Sound) (told : game.machine.queue = [])
    (roaming : game.machine.freeRoam = .ok old) (standing : old.current = some left)
    (current : sub.current = some next)
    (notices : sub.notices = old.notices ++ [.subExited left, .subEntered next])
    (placed : game.conversation.isRunning = true → left = .dialog ∨ next = .dialog) :
    (game.withSubMachine sub).Orderly [.subExited left, .subEntered next] none := by
  obtain ⟨active, found⟩ := Machine.freeRoam_eq_ok_iff.1 roaming
  have same : (game.withSubMachine sub).machine.active? = some .freeRoam :=
    (Machine.active?_withSubMachine _ _).trans active
  refine ⟨sound.withSubMachine roaming sub, ?_, ?_, nofun, fun running => ?_⟩
  · have silent := Machine.notices_of_queue told found
    change (game.machine.withSubMachine sub).queue = _
    rw [Machine.queue_withSubMachine found, notices, silent.1, silent.2]
    rfl
  · intro notice member
    simp only [List.mem_cons, List.not_mem_nil, or_false] at member
    obtain rfl | rfl := member <;> rfl
  · obtain rfl | rfl := placed running
    · exact .inl ⟨.subExited .dialog, List.mem_cons_self, rfl⟩
    · refine .inr ⟨rfl, .inr ⟨same, ?_⟩⟩
      exact (Machine.subKind?_withSubMachine found sub).trans current

/-- What the part of a tick that moves the game leaves to be told before an arrival: nothing, that
another sub-state is current, or that another state is. -/
inductive Parting : List Notice → Option StateKind → Prop where
  /-- Nothing changes. -/
  | rests : Parting [] none
  /-- A sub-state is left for another. -/
  | switches (left next : SubKind) : Parting [.subExited left, .subEntered next] none
  /-- A state is left for another. -/
  | moves (machine : Machine) (source : Option StateKind) (target : StateKind)
      (arrival : Option StateKind) : Parting (machine.farewell ++ [.changed source target]) arrival

/-- Meeting the request of a sub-state leaves a game at rest orderly. -/
theorem processSubRequest_atRest (rest : game.AtRest) :
    ∃ departures,
      (departures = [] ∨ ∃ left next, departures = [.subExited left, .subEntered next]) ∧
        game.processSubRequest.value.Orderly departures none := by
  obtain same | ⟨sub, roaming, value⟩ := game.processSubRequest_cases
  · rw [same]
    exact ⟨[], .inl rfl, rest.orderly⟩
  · obtain ⟨active, found⟩ := Machine.freeRoam_eq_ok_iff.1 roaming
    rw [value]
    obtain ⟨current, notices⟩ | ⟨left, next, standing, current, notices⟩ :=
      sub.processRequest_cases
    · obtain ⟨agrees, queue⟩ := withSubMachine_keeps found current notices
      exact ⟨[], .inl rfl, rest.orderly.congr agrees queue id⟩
    · refine ⟨_, .inr ⟨left, next, rfl⟩, orderly_of_switched rest.sound rest.told roaming standing
        current notices fun running => .inl ?_⟩
      obtain event | ⟨-, talking⟩ := rest.placed running
      · rw [active] at event
        cases event
      · unfold Machine.subKind? at talking
        rw [found] at talking
        exact Option.some.inj (standing.symm.trans talking)

/-- Meeting the request of a sub-state changes nothing that matters while no sub-state is
current. -/
theorem processSubRequest_roamless {departures : List Notice} {arrival : Option StateKind}
    (orderly : game.Orderly departures arrival) (roamless : game.machine.subKind? = none) :
    game.processSubRequest.value.Orderly departures arrival := by
  obtain same | ⟨sub, roaming, value⟩ := game.processSubRequest_cases
  · rw [same]
    exact orderly
  · obtain ⟨-, found⟩ := Machine.freeRoam_eq_ok_iff.1 roaming
    rw [value]
    obtain ⟨current, notices⟩ | ⟨left, next, standing, -⟩ := sub.processRequest_cases
    · obtain ⟨agrees, queue⟩ := withSubMachine_keeps found current notices
      exact orderly.congr agrees queue id
    · unfold Machine.subKind? at roamless
      rw [found] at roamless
      cases standing.symm.trans roamless

variable [SceneLoader ℓ]

/-- Asking for the scene of the current state has nothing but an arrival told. -/
theorem pollScene_atRest (rest : game.AtRest) :
    ∃ arrival, game.pollScene.value.Orderly [] arrival := by
  obtain same | ⟨inactive, sound, -, -, roamless, -, queue⟩ :=
    Machine.pollScene_cases rest.sound (Machine.told_of_queue rest.told) game.loader
  · refine ⟨none, rest.orderly.congr ?_ ?_ id⟩
    · change game.machine.Agrees (game.machine.pollScene game.loader).value.1
      rw [same]
      exact .refl game.machine
    · exact congrArg Machine.queue same
  · rw [rest.told] at queue
    refine ⟨(game.machine.pollScene game.loader).value.1.active?, sound, queue, nofun,
      fun kind active => ⟨active, roamless⟩, fun running => ?_⟩
    obtain event | ⟨roam, -⟩ := rest.placed running
    · rw [inactive] at event
      cases event
    · rw [inactive] at roam
      cases roam

variable [Host η]

/-- The part of a tick that moves the game leaves a game at rest orderly. -/
theorem proceed_atRest (rest : game.AtRest) (tick : Tick) :
    ∃ departures arrival, Parting departures arrival ∧
      (game.proceed tick).value.Orderly departures arrival := by
  have moved : ∀ updated : Game η ℓ, updated.AtRest →
      ∃ departures arrival, Parting departures arrival ∧
        updated.processRequest.value.processSubRequest.value.Orderly departures arrival := by
    intro updated rest
    rw [processRequest_value]
    obtain asks | ⟨target, change⟩ := Machine.processRequest_cases rest.sound
      (Machine.told_of_queue rest.told) updated.loader
    · have agrees := asks.agrees
      have met : AtRest
          { updated with
            machine := (updated.machine.processRequest updated.loader).value.2.1
            loader := (updated.machine.processRequest updated.loader).value.2.2 } :=
        ⟨agrees.sound rest.sound, asks.queue.trans rest.told,
          fun running => agrees.holdsDialog (rest.placed running)⟩
      obtain ⟨departures, rfl | ⟨left, next, rfl⟩, orderly⟩ := processSubRequest_atRest met
      · exact ⟨[], none, .rests, orderly⟩
      · exact ⟨_, none, .switches left next, orderly⟩
    · exact ⟨_, _, .moves _ _ target _, processSubRequest_roamless
        (orderly_of_moved rest.told rest.placed change) change.roamless⟩
  exact moved _ (rest.quiet (game.updateActive_quiet tick))

/-- A tick keeps a game at rest. -/
theorem tick_atRest (rest : game.AtRest) (tick : Tick) :
    (game.tick tick).value.AtRest ∧ Unhindered (game.tickAttempts tick) := by
  obtain ⟨_, polled⟩ := pollScene_atRest rest
  obtain ⟨told, first⟩ := settle_atRest polled
  obtain ⟨_, _, -, proceeded⟩ := proceed_atRest told tick
  obtain ⟨after, second⟩ := settle_atRest proceeded
  refine ⟨after, fun attempt member => ?_⟩
  obtain early | late := List.mem_append.1 member
  · exact first attempt early
  · exact second attempt late

omit [SceneLoader ℓ]

omit [Host η] in
/-- While free roam is explored, no dialog is running. -/
theorem AtRest.idle_of_exploring (rest : game.AtRest) {sub : SubMachine}
    (roaming : game.machine.freeRoam = .ok sub) (exploring : sub.current = some .exploration) :
    game.conversation.isRunning = false := by
  obtain ⟨active, found⟩ := Machine.freeRoam_eq_ok_iff.1 roaming
  by_contra running
  rw [Bool.not_eq_false] at running
  obtain event | ⟨-, talking⟩ := rest.placed running
  · rw [active] at event
    cases event
  · unfold Machine.subKind? at talking
    rw [found] at talking
    cases exploring.symm.trans talking

/-- A conversation that joins free roam gets its sub-state. -/
theorem joined_orderly {sub : SubMachine} (sound : game.machine.Sound)
    (told : game.machine.queue = []) (roaming : game.machine.freeRoam = .ok sub)
    (exploring : sub.current = some .exploration) (progress : Progress) :
    (game.joined sub progress).Orderly [.subExited .exploration, .subEntered .dialog] none := by
  obtain ⟨current, notices⟩ := sub.joined_keeps progress
  rw [SubMachine.notices_exit, exploring, List.append_assoc] at notices
  have orderly := orderly_of_switched sound told roaming exploring current notices
    fun _ => .inr rfl
  have forwarded := (forwardRequest_asks (game.withSubMachine (sub.joined progress))).quiet
  exact orderly.congr forwarded.standing forwarded.queue forwarded.ledger.running

/-- Talking to a character keeps a game at rest. -/
theorem Talked.atRest {attempts : List (Attempt η ℓ)} (talked : game.Talked attempts after)
    (rest : game.AtRest) : after.AtRest ∧ Unhindered attempts := by
  have none : Unhindered ([] : List (Attempt η ℓ)) := fun _ member =>
    absurd member List.not_mem_nil
  have attempted {sub : SubMachine} (approachable : game.approachable = .ok sub)
      (dialog : DialogGraph) {others : List (Attempt η ℓ)} (unhindered : Unhindered others) :
      Unhindered (⟨game, dialog⟩ :: others) := by
    obtain ⟨roaming, exploring, -⟩ := approachable_cases approachable
    intro attempt member
    obtain rfl | later := List.mem_cons.1 member
    · exact rest.idle_of_exploring roaming exploring
    · exact unhindered attempt later
  cases talked with
  | declined => exact ⟨rest, none⟩
  | refused approachable dialog => exact ⟨rest, attempted approachable dialog none⟩
  | accepted approachable dialog accepted repertoire noted =>
    obtain ⟨roaming, exploring, -⟩ := approachable_cases approachable
    have same := (congrArg Game.machine noted).trans (startDialog_keeps accepted).1
    obtain ⟨after, unhindered⟩ := settle_atRest
      (joined_orderly (same ▸ rest.sound) (same ▸ rest.told) (same ▸ roaming) exploring _)
    exact ⟨after, attempted approachable dialog unhindered⟩

variable [SceneLoader ℓ]

/-- Every operation keeps a game at rest, and makes its attempts while no dialog is running. -/
theorem apply_atRest (rest : game.AtRest) (operation : Operation η ℓ) :
    (game.apply operation).AtRest ∧ Unhindered (game.attempts operation) := by
  have none : Unhindered ([] : List (Attempt η ℓ)) := fun _ member =>
    absurd member List.not_mem_nil
  cases operation with
  | tick tick => exact tick_atRest rest tick
  | talkTo character => exact (game.talkTo_talked character).atRest rest
  | openMenu => exact ⟨rest.quiet (game.requestSubState_quiet .menu), none⟩
  | closeMenu => exact ⟨rest.quiet (game.requestSubState_quiet .exploration), none⟩
  | requestState request => exact ⟨rest.quiet (game.requestState_asks request).quiet, none⟩
  | advanceScenario => exact ⟨rest.quiet game.advanceScenario_asks.quiet, none⟩
  | reset => exact ⟨rest.quiet game.reset_quiet, none⟩
  | _ => exact ⟨⟨rest.sound, rest.told, rest.placed⟩, none⟩

/-- Every run keeps a game at rest. -/
theorem runAll_atRest (rest : game.AtRest) (operations : List (Operation η ℓ)) :
    (game.runAll operations).AtRest := by
  induction operations generalizing game with
  | nil => exact rest
  | cons operation others ih => exact ih (apply_atRest rest operation).1

omit [SceneLoader ℓ] in
/-- A game that was opened is at rest, and its attempts were unhindered. -/
theorem ofBundle_atRest {bundle : Bundle} {config : Config} {host : η} {loader : ℓ}
    {opened : Game η ℓ} (valid : (Game.ofBundle bundle config host loader).value = .ok opened) :
    opened.AtRest ∧ Unhindered (openingAttempts bundle config host loader) := by
  obtain ⟨machine, entered, rfl⟩ := ofBundle_cases valid
  obtain ⟨vacant, told⟩ := Machine.ofPlan_vacant config.states config.tracing
  have change := Machine.enterState_moved vacant.sound (Machine.told_of_queue told) entered
  unfold openingAttempts openingTrace
  rw [entered]
  exact settle_atRest (orderly_of_moved told nofun change)

omit [SceneLoader ℓ] in
/-- An unhindered attempt never finds another dialog running. -/
theorem Unhindered.not_alreadyRunning {attempts : List (Attempt η ℓ)}
    (unhindered : Unhindered attempts) {attempt : Attempt η ℓ} (member : attempt ∈ attempts)
    (dialog : String) : attempt.outcome ≠ .error (.alreadyRunning dialog) := by
  have idle := unhindered attempt member
  unfold Conversation.isRunning at idle
  intro refused
  unfold Attempt.outcome startDialog Conversation.start at refused
  cases session : attempt.game.conversation.session with
  | some running =>
    rw [session] at idle
    cases idle
  | none =>
    rw [session] at refused
    dsimp only at refused
    split at refused
    · next error failed =>
      split at failed
      · cases failed
        cases refused
      · cases failed
    · cases refused

/-- Between two operations, a running dialog belongs to the event state or to the dialog sub-state
of free roam; and no attempt to start a dialog is ever refused because another one is running. -/
theorem running_dialog_has_its_place {bundle : Bundle} {config : Config} {host : η} {loader : ℓ}
    {opened : Game η ℓ} (valid : (Game.ofBundle bundle config host loader).value = .ok opened) :
    (∀ attempt ∈ openingAttempts bundle config host loader, ∀ dialog,
        attempt.outcome ≠ .error (.alreadyRunning dialog)) ∧
      ∀ operations : List (Operation η ℓ),
        let game := opened.runAll operations
        (game.conversation.isRunning = true →
          game.machine.active? = some .event ∨
            game.machine.active? = some .freeRoam ∧ game.currentSubState? = some .dialog) ∧
        ∀ operation, ∀ attempt ∈ game.attempts operation, ∀ dialog,
          attempt.outcome ≠ .error (.alreadyRunning dialog) := by
  obtain ⟨start, opening⟩ := ofBundle_atRest valid
  refine ⟨fun attempt member => opening.not_alreadyRunning member, fun operations => ?_⟩
  have rest := runAll_atRest start operations
  refine ⟨fun running => ?_, fun operation attempt member =>
    (apply_atRest rest operation).2.not_alreadyRunning member⟩
  obtain event | ⟨roam, talking⟩ := rest.placed running
  · exact .inl event
  · refine .inr ⟨roam, ?_⟩
    unfold currentSubState?
    rw [if_pos roam]
    exact talking

/-- A character that is being talked to has the dialog sub-state. -/
theorem running_dialog_has_its_place_talking :
    ∃ opened, (Game.ofBundle .greeting .roaming Recorder.empty InstantLoader.empty).value =
        .ok opened ∧
      (opened.runAll [.talkTo "guide"]).conversation.isRunning = true ∧
      ((opened.runAll [.talkTo "guide"]).machine.active? = some .event ∨
        (opened.runAll [.talkTo "guide"]).machine.active? = some .freeRoam ∧
          (opened.runAll [.talkTo "guide"]).currentSubState? = some .dialog) := by
  refine ⟨_, rfl, rfl, ?_⟩
  have valid : (Game.ofBundle .greeting .roaming Recorder.empty InstantLoader.empty).value =
    .ok _ := rfl
  exact ((running_dialog_has_its_place valid).2 [.talkTo "guide"]).1 rfl

end Narrative.Game
