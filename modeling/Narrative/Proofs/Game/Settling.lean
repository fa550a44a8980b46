import Narrative.Proofs.Game.Quiet
import Narrative.Proofs.Machine.Transition

/-!
# Settling

A running dialog belongs to the event state or to the dialog sub-state of free roam. While notices
wait to be told this need not hold, but then a departure among them is about to break the dialog
off. The notices that wait are always departures with at most one arrival behind them, so that
every dialog that has lost its place is broken off before the arrival starts another one.
-/

namespace Narrative

namespace Notice

/-- Whether a notice tells that a state became active. -/
def isArrival : Notice → Bool
  | entered _ => true
  | _ => false

/-- Whether a notice breaks off the running dialog. -/
def breaksOff : Notice → Bool
  | exited .freeRoam => true
  | exited .event => true
  | subExited .dialog => true
  | _ => false

end Notice

/-- The places where a dialog may run. -/
def Machine.HoldsDialog (machine : Machine) : Prop :=
  machine.active? = some .event ∨
    machine.active? = some .freeRoam ∧ machine.subKind? = some .dialog

/-- Whether a dialog may run depends on the standing alone. -/
theorem Machine.Agrees.holdsDialog {machine other : Machine} (agrees : machine.Agrees other)
    (holds : machine.HoldsDialog) : other.HoldsDialog := by
  unfold HoldsDialog
  rw [agrees.active?, agrees.subKind]
  exact holds

/-- A machine that holds a dialog tells so when its current state is left. -/
theorem Machine.HoldsDialog.farewell {machine : Machine} (holds : machine.HoldsDialog) :
    ∃ notice ∈ machine.farewell, notice.breaksOff = true := by
  unfold Machine.farewell
  obtain event | ⟨roam, -⟩ := holds
  · exact ⟨.exited .event, by simp [event], rfl⟩
  · exact ⟨.exited .freeRoam, by simp [roam], rfl⟩

namespace Game

variable {η ℓ : Type}

/-- A game none of whose notices waits. -/
structure AtRest (game : Game η ℓ) : Prop where
  /-- The standing of the machine is sound. -/
  sound : game.machine.Sound
  /-- Every notice was told. -/
  told : game.machine.queue = []
  /-- A running dialog has its place. -/
  placed : game.conversation.isRunning = true → game.machine.HoldsDialog

/-- A game whose notices are some departures with at most one arrival behind them. -/
structure Orderly (game : Game η ℓ) (departures : List Notice) (arrival : Option StateKind) :
    Prop where
  /-- The standing of the machine is sound. -/
  sound : game.machine.Sound
  /-- The notices that wait. -/
  queue : game.machine.queue = departures ++ (arrival.map Notice.entered).toList
  /-- No departure is an arrival. -/
  departing : ∀ notice ∈ departures, notice.isArrival = false
  /-- The state that arrives is active, and no sub-state is current yet. -/
  arriving : ∀ kind, arrival = some kind →
    game.machine.active? = some kind ∧ game.machine.subKind? = none
  /-- A running dialog is about to be broken off, or has its place. -/
  placed : game.conversation.isRunning = true →
    (∃ notice ∈ departures, notice.breaksOff = true) ∨
      arrival = none ∧ game.machine.HoldsDialog

/-- A game that has only just entered a state: its notices were told, and no dialog is running. -/
structure Arrived (game : Game η ℓ) : Prop where
  /-- The standing of the machine is sound. -/
  sound : game.machine.Sound
  /-- Every notice was told. -/
  told : game.machine.queue = []
  /-- No sub-state is current. -/
  roamless : game.machine.subKind? = none
  /-- No dialog is running. -/
  idle : game.conversation.isRunning = false

/-- Every attempt is made while no dialog is running. -/
def Unhindered (attempts : List (Attempt η ℓ)) : Prop :=
  ∀ attempt ∈ attempts, attempt.game.conversation.isRunning = false

variable {game after : Game η ℓ}

/-- A game at rest is orderly. -/
theorem AtRest.orderly (rest : game.AtRest) : game.Orderly [] none where
  sound := rest.sound
  queue := rest.told
  departing _ member := absurd member List.not_mem_nil
  arriving _ arrival := nomatch arrival
  placed running := .inr ⟨rfl, rest.placed running⟩

/-- What arrives is active. -/
theorem Orderly.active_of_arrival {departures : List Notice} {arrival : Option StateKind}
    (orderly : game.Orderly departures arrival) (arrives : arrival ≠ none) :
    game.machine.active? ≠ none := by
  obtain ⟨kind, rfl⟩ := Option.ne_none_iff_exists'.1 arrives
  rw [(orderly.arriving kind rfl).1]
  exact Option.some_ne_none kind

/-- Without a running dialog, a game whose notices were told is at rest. -/
theorem Arrived.atRest (arrived : game.Arrived) : game.AtRest where
  sound := arrived.sound
  told := arrived.told
  placed running := by
    rw [arrived.idle] at running
    cases running

variable [Host η]

/-- Quiet steps keep a game at rest. -/
theorem AtRest.quiet (rest : game.AtRest) (quiet : game.Quiet 0 after) : after.AtRest where
  sound := quiet.standing.sound rest.sound
  told := quiet.queue.trans rest.told
  placed running := quiet.standing.holdsDialog (rest.placed (quiet.ledger.running running))

/-- What comes of the reaction to a departure: the running dialog is broken off, if the notice
breaks it off. -/
theorem react_departure_value (game : Game η ℓ) {notice : Notice}
    (departing : notice.isArrival = false) :
    (game.react notice).value = if notice.breaksOff then game.abandonDialog.value else game := by
  unfold react
  rw [Logged.value_bind]
  cases notice with
  | entered _ => cases departing
  | exited kind => cases kind <;> rfl
  | subExited kind => cases kind <;> rfl
  | _ => rfl

/-- The reaction to a departure is quiet, and breaks off the running dialog if that has lost its
place. -/
theorem react_departure (game : Game η ℓ) {notice : Notice}
    (departing : notice.isArrival = false) :
    game.Quiet 0 (game.react notice).value ∧
      (notice.breaksOff = true → (game.react notice).value.conversation.isRunning = false) := by
  obtain ⟨idle, abandoned⟩ := game.abandonDialog_quiet
  rw [game.react_departure_value departing]
  split
  · exact ⟨abandoned, fun _ => idle⟩
  · next keeps => exact ⟨.refl game, fun breaks => absurd breaks keeps⟩

omit [Host η] in
/-- The reaction to a departure makes no attempt. -/
theorem reactionAttempts_departure (game : Game η ℓ) (notice : Notice)
    (departing : notice.isArrival = false) : game.reactionAttempts notice = [] := by
  cases notice with
  | entered _ => cases departing
  | _ => rfl

/-- The reactions to departures are quiet, and the dialog that has lost its place is broken off by
them. -/
theorem reactAll_departures (game : Game η ℓ) {departures : List Notice}
    (departing : ∀ notice ∈ departures, notice.isArrival = false) :
    game.Quiet 0 (game.reactAll departures).value ∧
      ((∃ notice ∈ departures, notice.breaksOff = true) →
        (game.reactAll departures).value.conversation.isRunning = false) := by
  induction departures generalizing game with
  | nil => exact ⟨.refl game, fun ⟨_, member, _⟩ => absurd member List.not_mem_nil⟩
  | cons notice rest ih =>
    obtain ⟨first, breaks⟩ := game.react_departure (departing notice List.mem_cons_self)
    obtain ⟨others, breaksLater⟩ := ih (game.react notice).value
      fun other member => departing other (List.mem_cons_of_mem _ member)
    unfold reactAll
    refine ⟨first.trans others, fun ⟨breaking, member, breaksOff⟩ => ?_⟩
    obtain rfl | later := List.mem_cons.1 member
    · -- Once broken off, the dialog does not come back with the departures that follow.
      by_contra running
      have before := others.ledger.running (by simpa using running)
      rw [breaks breaksOff] at before
      cases before
    · exact breaksLater ⟨breaking, later, breaksOff⟩

/-- Quiet steps keep a game in which no dialog is running. -/
theorem Arrived.quiet (arrived : game.Arrived) (quiet : game.Quiet 0 after) : after.Arrived where
  sound := quiet.standing.sound arrived.sound
  told := quiet.queue.trans arrived.told
  roamless := quiet.standing.subKind.trans arrived.roamless
  idle := by
    by_contra running
    have before := quiet.ledger.running (by simpa using running)
    rw [arrived.idle] at before
    cases before

omit [Host η] in
/-- Exploring after an arrival enters the sub-state of exploration at most. -/
theorem explore_orderly (arrived : game.Arrived) :
    ∃ departures, (departures = [] ∨ departures = [.subEntered .exploration]) ∧
      game.explore.value.Orderly departures none := by
  obtain same | ⟨sub, roaming, -, value⟩ := game.explore_cases
  · rw [same]
    exact ⟨[], .inl rfl, arrived.atRest.orderly⟩
  · obtain ⟨-, found⟩ := Machine.freeRoam_eq_ok_iff.1 roaming
    rw [value]
    have standing : game.machine.subKind? = sub.current := by
      unfold Machine.subKind?
      rw [found]
      rfl
    have vacant : sub.exit = sub := by
      unfold SubMachine.exit
      rw [← standing, arrived.roamless]
    have silent := Machine.notices_of_queue arrived.told found
    refine ⟨[.subEntered .exploration], .inr rfl,
      ⟨arrived.sound.withSubMachine roaming _, ?_, ?_, nofun, fun running => ?_⟩⟩
    · change (game.machine.withSubMachine _).queue = _
      rw [Machine.queue_withSubMachine found, silent.1, SubMachine.notices_enter, vacant,
        silent.2]
      rfl
    · intro notice member
      rw [List.mem_singleton.1 member]
      rfl
    · exact absurd running (by
        change game.conversation.isRunning ≠ true
        rw [arrived.idle]
        exact Bool.false_ne_true)

/-- The reaction to an arrival is orderly and enters the sub-state of exploration at most, and its
attempt is unhindered. -/
theorem react_arrival (arrived : game.Arrived) {kind : StateKind}
    (active : game.machine.active? = some kind) :
    (∃ departures,
        (departures = [] ∨ kind = .freeRoam ∧ departures = [.subEntered .exploration]) ∧
          (game.react (.entered kind)).value.Orderly departures none) ∧
      Unhindered (game.reactionAttempts (.entered kind)) := by
  have music : ∀ call ∈ [Call.stopMusic], call.isPlain = true := fun call member => by
    rw [List.mem_singleton.1 member]
    rfl
  have none : Unhindered ([] : List (Attempt η ℓ)) := fun _ member =>
    absurd member List.not_mem_nil
  unfold react
  rw [Logged.value_bind]
  cases kind with
  | loading =>
    exact ⟨⟨[], .inl rfl, (arrived.atRest.quiet (game.perform_quiet music)).orderly⟩, none⟩
  | freeRoam =>
    refine ⟨?_, none⟩
    change ∃ departures, _ ∧ game.onFreeRoamEntered.value.Orderly departures Option.none
    have ready := arrived.quiet game.resetIfPending_quiet
    obtain ⟨event, value⟩ | value := game.onFreeRoamEntered_cases
    · rw [value]
      exact ⟨[], .inl rfl, (ready.atRest.quiet (perform_quiet _ fun call member => by
        rw [List.mem_singleton.1 member]
        rfl)).orderly⟩
    · obtain ⟨departures, shape, orderly⟩ := explore_orderly ready
      rw [value]
      exact ⟨departures, shape.imp_right fun entered => ⟨rfl, entered⟩, orderly⟩
  | event =>
    refine ⟨⟨[], .inl rfl, ?_⟩, fun attempt member => ?_⟩
    · have quiet := game.onEventEntered_quiet
      have holds : game.onEventEntered.value.machine.HoldsDialog :=
        quiet.standing.holdsDialog (.inl active)
      exact AtRest.orderly ⟨quiet.standing.sound arrived.sound, quiet.queue.trans arrived.told,
        fun _ => holds⟩
    · change attempt ∈ game.eventAttempts at member
      unfold eventAttempts at member
      split at member
      · cases member
      · split at member
        · cases member
        · rw [List.mem_singleton.1 member]
          exact arrived.idle
  | creditRoll =>
    have scheduled : game.Quiet 0 game.scheduleReset := .of_same rfl rfl rfl
    exact ⟨⟨[], .inl rfl, (arrived.atRest.quiet scheduled).orderly⟩, none⟩
  | _ => exact ⟨⟨[], .inl rfl, arrived.atRest.orderly⟩, none⟩

omit [Host η] in
/-- Taking the notices of a game keeps what does not depend on them. -/
theorem withMachine_taken (game : Game η ℓ) :
    game.machine.Agrees (game.withMachine game.machine.takeNotices.2).machine ∧
      (game.withMachine game.machine.takeNotices.2).machine.queue = [] :=
  ⟨game.machine.agrees_takeNotices, game.machine.queue_takeNotices⟩

/-- A game at rest has nothing more to react to. -/
theorem reactBatches_atRest (bound : Nat) (rest : game.AtRest) :
    (reactBatches (bound + 1) game).value.AtRest := by
  obtain ⟨standing, told⟩ := game.withMachine_taken
  have empty : game.machine.takeNotices.1.isEmpty = true := by
    rw [Machine.takeNotices_fst, rest.told]
    rfl
  unfold reactBatches
  dsimp only
  rw [if_pos empty]
  exact ⟨standing.sound rest.sound, told,
    fun running => standing.holdsDialog (rest.placed running)⟩

/-- After a batch of departures, a game is at rest. -/
theorem reactBatches_departures (bound : Nat) {departures : List Notice}
    (orderly : game.Orderly departures none) :
    (reactBatches (bound + 2) game).value.AtRest := by
  obtain ⟨standing, told⟩ := game.withMachine_taken
  have notices : game.machine.takeNotices.1 = departures :=
    (Machine.takeNotices_fst _).trans (orderly.queue.trans (List.append_nil _))
  obtain ⟨quiet, breaks⟩ := reactAll_departures
    (game.withMachine game.machine.takeNotices.2) orderly.departing
  have rest : ((game.withMachine game.machine.takeNotices.2).reactAll departures).value.AtRest := by
    refine ⟨quiet.standing.sound (standing.sound orderly.sound), quiet.queue.trans told,
      fun running => ?_⟩
    obtain breaking | ⟨-, holds⟩ := orderly.placed (quiet.ledger.running running)
    · rw [breaks breaking] at running
      cases running
    · exact quiet.standing.holdsDialog (standing.holdsDialog holds)
  unfold reactBatches
  dsimp only
  rw [notices]
  cases departures with
  | nil => exact rest
  | cons notice others => exact reactBatches_atRest bound rest

/-- The game once the departures that wait were told. -/
def parted (game : Game η ℓ) (departures : List Notice) : Game η ℓ :=
  ((game.withMachine game.machine.takeNotices.2).reactAll departures).value

/-- Settling an arrival tells the departures first, which breaks off the dialog that has lost its
place. Then the game reacts to the arrival, and after that only to what the reaction left. -/
theorem settle_arrival {departures : List Notice} {kind : StateKind}
    (orderly : game.Orderly departures (some kind)) :
    (game.parted departures).Arrived ∧ (game.parted departures).machine.active? = some kind ∧
      game.settle.value =
        (reactBatches 2 ((game.parted departures).react (.entered kind)).value).value := by
  obtain ⟨standing, told⟩ := game.withMachine_taken
  obtain ⟨current, roamless⟩ := orderly.arriving kind rfl
  have notices : game.machine.takeNotices.1 = departures ++ [.entered kind] :=
    (Machine.takeNotices_fst _).trans orderly.queue
  obtain ⟨quiet, breaks⟩ := reactAll_departures
    (game.withMachine game.machine.takeNotices.2) orderly.departing
  have arrived : (game.parted departures).Arrived := by
    refine ⟨quiet.standing.sound (standing.sound orderly.sound), quiet.queue.trans told,
      quiet.standing.subKind.trans (standing.subKind.trans roamless), ?_⟩
    by_contra running
    rw [Bool.not_eq_false] at running
    obtain breaking | ⟨elsewhere, -⟩ := orderly.placed (quiet.ledger.running running)
    · rw [parted, breaks breaking] at running
      cases running
    · cases elsewhere
  have active : (game.parted departures).machine.active? = some kind :=
    quiet.standing.active?.trans (standing.active?.trans current)
  have value := reactAll_append (game.withMachine game.machine.takeNotices.2) departures
    [.entered kind]
  have pending : game.machine.takeNotices.1.isEmpty = false := by
    rw [notices]
    cases departures <;> rfl
  refine ⟨arrived, active, ?_⟩
  unfold settle reactBatches
  dsimp only
  rw [pending, notices]
  change (reactBatches 2 ((game.withMachine _).reactAll _).value).value = _
  rw [value]
  rfl

section Trace

variable {α : Type} {departures : List Notice}

/-- Where departures wait, they are observed as one batch. -/
theorem batchesTrace_departures {observe : Game η ℓ → List Notice → List α}
    (nothing : ∀ game, observe game [] = []) (orderly : game.Orderly departures none)
    (bound : Nat) : game.batchesTrace observe (bound + 1) = observe game departures := by
  have queue : game.machine.queue = departures := orderly.queue.trans (List.append_nil _)
  obtain ⟨-, told⟩ := game.withMachine_taken
  obtain ⟨quiet, -⟩ := reactAll_departures
    (game.withMachine game.machine.takeNotices.2) orderly.departing
  rw [batchesTrace_succ nothing, queue, batchesTrace_told observe (quiet.queue.trans told),
    List.append_nil]

/-- An arrival is observed with the departures before it, and what its reaction leaves after
that. -/
theorem settleTrace_arrival {observe : Game η ℓ → List Notice → List α}
    (nothing : ∀ game, observe game [] = []) {kind : StateKind}
    (orderly : game.Orderly departures (some kind)) :
    game.settleTrace observe = observe game (departures ++ [.entered kind]) ++
      batchesTrace observe 2 ((game.parted departures).react (.entered kind)).value := by
  have value := reactAll_append (game.withMachine game.machine.takeNotices.2) departures
    [.entered kind]
  have queue : game.machine.queue = departures ++ [.entered kind] := orderly.queue
  rw [settleTrace, batchesTrace_succ nothing, queue, value]
  rfl

variable {observe : Game η ℓ → Notice → List α}
  (silent : ∀ game notice, notice.isArrival = false → observe game notice = [])

include silent

/-- Where nothing is observed at a departure, nothing is observed where only departures wait. -/
theorem reactionsTrace_departures (orderly : game.Orderly departures none) (bound : Nat) :
    game.batchesTrace (reactionTrace observe) (bound + 1) = [] := by
  rw [batchesTrace_departures (fun _ => rfl) orderly]
  exact batchTrace_departures silent orderly.departing _

/-- Where nothing is observed at a departure, a game that settles an arrival is observed at the
arrival, once the departures were told. -/
theorem settleReactions_arrival {kind : StateKind}
    (orderly : game.Orderly departures (some kind)) :
    game.settleTrace (reactionTrace observe) =
      observe (game.parted departures) (.entered kind) := by
  obtain ⟨arrived, active, -⟩ := settle_arrival orderly
  obtain ⟨⟨others, -, after⟩, -⟩ := react_arrival arrived active
  have first : reactionTrace observe game (departures ++ [.entered kind]) =
      observe (game.parted departures) (.entered kind) := by
    unfold reactionTrace
    rw [batchTrace_append, batchTrace_departures silent orderly.departing, List.nil_append]
    exact List.append_nil _
  rw [settleTrace_arrival (fun _ => rfl) orderly, first, reactionsTrace_departures silent after,
    List.append_nil]

end Trace

/-- An orderly game is at rest after three batches, and all its attempts on the way are
unhindered. -/
theorem settle_atRest {departures : List Notice} {arrival : Option StateKind}
    (orderly : game.Orderly departures arrival) :
    game.settle.value.AtRest ∧ Unhindered game.settleAttempts := by
  cases arrival with
  | none =>
    refine ⟨reactBatches_departures 1 orderly, fun attempt member => ?_⟩
    rw [settleAttempts, settleTrace, reactionsTrace_departures reactionAttempts_departure orderly]
      at member
    cases member
  | some kind =>
    obtain ⟨arrived, active, settled⟩ := settle_arrival orderly
    obtain ⟨⟨_, -, second⟩, unhindered⟩ := react_arrival arrived active
    rw [settled, settleAttempts, settleReactions_arrival reactionAttempts_departure orderly]
    exact ⟨reactBatches_departures 0 second, unhindered⟩

end Game

end Narrative
