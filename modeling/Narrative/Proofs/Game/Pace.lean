import Narrative.Proofs.Game.Attendance
import Narrative.Proofs.Game.Driving
import Narrative.Proofs.Game.Handover

/-!
# The pace of a game

In one tick at most one state is left for another and at most one sub-state is entered, whatever
reactions the tick causes on the way. A tick tells its notices in two halves. The first tells that
the state is active whose scene was waited for, and if that is free roam, that it is explored; the
second tells what became of requests. Once free roam is explored in the first half nothing is asked
for, and the second half has nothing to tell.
-/

namespace Narrative

namespace Notice

/-- Whether a notice tells that another state is current. -/
def isChange : Notice → Bool
  | changed _ _ => true
  | _ => false

/-- Whether a notice tells that a sub-state was entered. -/
def isSubEntry : Notice → Bool
  | subEntered _ => true
  | _ => false

end Notice

/-- Leaving the current state tells of no other state and enters no sub-state. -/
theorem Machine.countP_farewell (machine : Machine) :
    machine.farewell.countP Notice.isChange = 0 ∧
      machine.farewell.countP Notice.isSubEntry = 0 := by
  unfold farewell
  cases machine.subKind? <;> cases machine.active? <;> exact ⟨rfl, rfl⟩

/-- A state that was entered tells of no other state and of no sub-state. -/
theorem countP_arrival (arrival : Option StateKind) :
    (arrival.map Notice.entered).toList.countP Notice.isChange = 0 ∧
      (arrival.map Notice.entered).toList.countP Notice.isSubEntry = 0 := by
  cases arrival <;> exact ⟨rfl, rfl⟩

namespace Game

variable {η ℓ : Type} {game : Game η ℓ}

/-- What is left to be told before an arrival tells of one other state at most, or of one sub-state
that was entered, but not of both. -/
theorem Parting.countP {departures : List Notice} {arrival : Option StateKind}
    (parting : Parting departures arrival) :
    departures.countP Notice.isChange ≤ 1 ∧ departures.countP Notice.isSubEntry ≤ 1 ∧
      (arrival ≠ none → departures.countP Notice.isSubEntry = 0) := by
  cases parting with
  | rests => exact ⟨Nat.zero_le 1, Nat.zero_le 1, fun arrives => absurd rfl arrives⟩
  | switches left next => exact ⟨Nat.zero_le 1, Nat.le_refl 1, fun arrives => absurd rfl arrives⟩
  | moves machine source target =>
    obtain ⟨changes, entries⟩ := machine.countP_farewell
    rw [List.countP_append, List.countP_append, changes, entries]
    exact ⟨Nat.le_refl 1, Nat.zero_le 1, fun _ => rfl⟩

/-- A game in which free roam is explored and nothing is asked for. -/
structure Strolling (game : Game η ℓ) : Prop where
  /-- Free roam is active. -/
  roaming : game.machine.active? = some .freeRoam
  /-- It is explored. -/
  exploring : game.machine.subKind? = some .exploration
  /-- No other state is asked for. -/
  unasked : game.machine.pendingRequest? = none
  /-- No other sub-state is asked for. -/
  silent : game.subRequest? = none

/-- Taking the notices does not matter to who strolls. -/
theorem Strolling.taken (strolling : game.Strolling) :
    (game.withMachine game.machine.takeNotices.2).Strolling where
  roaming := game.machine.agrees_takeNotices.active?.trans strolling.roaming
  exploring := game.machine.agrees_takeNotices.subKind.trans strolling.exploring
  unasked := game.machine.pendingRequest?_takeNotices.trans strolling.unasked
  silent := game.subRequest?_taken.trans strolling.silent

/-- Exploring a free roam that was only just entered leads to strolling, if anywhere. -/
theorem explore_strolling (arrived : game.Arrived) (unasked : game.machine.pendingRequest? = none) :
    game.explore.value.machine.queue = [] ∨ game.explore.value.Strolling := by
  obtain same | ⟨sub, roaming, -, value⟩ := game.explore_cases
  · rw [same]
    exact .inl arrived.told
  · obtain ⟨active, found⟩ := Machine.freeRoam_eq_ok_iff.1 roaming
    have placed := Machine.subMachine?_withSubMachine found (sub.exit.enter .exploration)
    rw [value]
    refine .inr ⟨(Machine.active?_withSubMachine _ _).trans active,
      Machine.subKind?_withSubMachine found _,
      (Machine.pendingRequest?_withSubMachine _ _).trans unasked, ?_⟩
    unfold subRequest?
    change (game.machine.withSubMachine _).subMachine?.bind _ = none
    rw [placed]
    exact SubMachine.pendingRequest?_enter sub.exit .exploration

variable [Host η]

/-- Batches of reactions to departures that break nothing off do not matter to who strolls. -/
theorem Strolling.reactBatches (bound : Nat) (strolling : game.Strolling)
    (harmless : ∀ notice ∈ game.machine.queue,
      notice.isArrival = false ∧ notice.breaksOff = false) :
    (reactBatches bound game).value.Strolling := by
  induction bound generalizing game with
  | zero => exact strolling
  | succ bound ih =>
    have taken := strolling.taken
    have told : (game.withMachine game.machine.takeNotices.2).machine.queue = [] :=
      game.machine.queue_takeNotices
    unfold Game.reactBatches
    dsimp only
    split
    · exact taken
    · rw [Logged.value_bind, Machine.takeNotices_fst, reactAll_harmless _ harmless]
      refine ih taken fun notice member => ?_
      rw [told] at member
      cases member

/-- The reaction to entering free roam leads to strolling, if it enters a sub-state. -/
theorem onFreeRoamEntered_strolling (arrived : game.Arrived)
    (unasked : game.machine.pendingRequest? = none) {notice : Notice}
    (queue : game.onFreeRoamEntered.value.machine.queue = [notice]) :
    game.onFreeRoamEntered.value.Strolling := by
  have ready := arrived.quiet game.resetIfPending_quiet
  have kept := game.resetIfPending_undriven.1
  obtain ⟨event, value⟩ | value := game.onFreeRoamEntered_cases
  · rw [value] at queue
    cases ready.told.symm.trans queue
  · rw [value] at queue ⊢
    obtain told | strolling := explore_strolling ready (kept ▸ unasked)
    · cases told.symm.trans queue
    · exact strolling

/-- While a game settles it tells what waits, and after that of no other state. -/
theorem settleTellings_queue {departures : List Notice} {arrival : Option StateKind}
    (orderly : game.Orderly departures arrival) :
    ∃ extra, game.settleTellings = game.machine.queue.map (Telling.mk game) ++ extra ∧
      ∀ telling ∈ extra, telling.notice.isChange = false := by
  rw [orderly.queue]
  cases arrival with
  | none =>
    refine ⟨[], ?_, List.forall_mem_nil _⟩
    rw [settleTellings_departures orderly]
    simp
  | some kind =>
    obtain ⟨arrived, active, -⟩ := settle_arrival orderly
    obtain ⟨⟨others, shape, second⟩, -⟩ := react_arrival arrived active
    rw [settleTellings_arrival orderly second]
    refine ⟨_, rfl, fun telling member => ?_⟩
    obtain ⟨notice, listed, rfl⟩ := List.mem_map.1 member
    obtain rfl | ⟨-, rfl⟩ := shape
    · cases listed
    · obtain rfl := List.mem_singleton.1 listed
      rfl

/-- What is told while a game settles: the departures, the arrival, and the exploration of free
roam, which then is explored while nothing is asked for. -/
theorem settle_told {departures : List Notice} {arrival : Option StateKind}
    (orderly : game.Orderly departures arrival)
    (unasked : arrival ≠ none → game.machine.pendingRequest? = none) :
    ∃ extra, game.settleTellings.map Telling.notice =
        departures ++ (arrival.map Notice.entered).toList ++ extra ∧
      (extra = [] ∨
        arrival ≠ none ∧ extra = [.subEntered .exploration] ∧ game.settle.value.Strolling) := by
  cases arrival with
  | none =>
    refine ⟨[], ?_, .inl rfl⟩
    rw [settleTellings_departures orderly, List.map_map]
    simp [Function.comp_def]
  | some kind =>
    obtain ⟨arrived, active, settled⟩ := settle_arrival orderly
    obtain ⟨⟨extra, shape, second⟩, -⟩ := react_arrival arrived active
    have told : game.settleTellings.map Telling.notice =
        departures ++ [.entered kind] ++ extra := by
      rw [settleTellings_arrival orderly second]
      simp [Function.comp_def]
    refine ⟨extra, told, ?_⟩
    obtain empty | ⟨rfl, rfl⟩ := shape
    · exact .inl empty
    · have parting : game.Spares (game.parted departures) :=
        game.withMachine_taken_spares.trans (reactAll_departures_spares _ orderly.departing)
      have silent := parting.request.trans (unasked (Option.some_ne_none _))
      have queue : ((game.parted departures).react (.entered .freeRoam)).value.machine.queue =
          [.subEntered .exploration] := second.queue
      refine .inr ⟨Option.some_ne_none _, rfl, ?_⟩
      rw [settled]
      refine Strolling.reactBatches 2 ?_ fun notice member => ?_
      · change (game.parted departures).onFreeRoamEntered.value.Strolling
        exact onFreeRoamEntered_strolling arrived silent queue
      · rw [queue] at member
        obtain rfl := List.mem_singleton.1 member
        exact ⟨rfl, rfl⟩

section Ticks

variable [SceneLoader ℓ]

/-- Who strolls goes on strolling: the part of a tick that moves the game leaves the machine as it
is. -/
theorem Strolling.proceed (strolling : game.Strolling) (tick : Tick) :
    (game.proceed tick).value.machine = game.machine := by
  have idle : game.inConversation = false := by
    have exploring : game.machine.subMachine?.bind SubMachine.current = some .exploration :=
      strolling.exploring
    unfold inConversation
    rw [exploring]
    exact Bool.and_false _
  have updated : (game.updateActive tick).value = game := by
    unfold updateActive
    rw [strolling.roaming]
    change (game.updateFreeRoam tick).value = game
    rw [updateFreeRoam_value, idle]
    rfl
  have met : game.processRequest.value = game := by
    rw [processRequest_value]
    unfold Machine.processRequest
    rw [strolling.unasked]
    rfl
  have switched : game.processSubRequest.value.machine = game.machine := by
    obtain same | ⟨sub, roaming, value⟩ := game.processSubRequest_cases
    · rw [same]
    · obtain ⟨-, found⟩ := Machine.freeRoam_eq_ok_iff.1 roaming
      have silent : sub.pendingRequest? = none := by
        have silent := strolling.silent
        unfold subRequest? at silent
        rw [found] at silent
        exact silent
      have kept : sub.processRequest.value.2 = sub := by
        unfold SubMachine.processRequest
        rw [silent]
        rfl
      rw [value, kept]
      exact Machine.withSubMachine_of_found found
  change (game.updateActive tick).value.processRequest.value.processSubRequest.value.machine = _
  rw [updated, met, switched]

/-- The first half of a tick tells of no other state and of one sub-state at most, and then the
second half begins with a stroll. -/
theorem ready_pace (rest : game.AtRest) :
    let notices := game.pollScene.value.settleTellings.map Telling.notice
    notices.countP Notice.isChange = 0 ∧
      (notices.countP Notice.isSubEntry = 0 ∨
        notices.countP Notice.isSubEntry = 1 ∧ game.ready.Strolling) := by
  intro notices
  obtain ⟨arrival, orderly⟩ := pollScene_atRest rest
  obtain ⟨entering, exploring⟩ := countP_arrival arrival
  obtain ⟨extra, told, rfl | ⟨-, rfl, strolling⟩⟩ :=
    settle_told orderly (pollScene_unasked rest orderly)
  · have same : notices = (arrival.map Notice.entered).toList := by
      rw [← List.append_nil (arrival.map Notice.entered).toList]
      exact told
    rw [same]
    exact ⟨entering, .inl exploring⟩
  · have same : notices = (arrival.map Notice.entered).toList ++ [.subEntered .exploration] := told
    rw [same, List.countP_append, List.countP_append, entering, exploring]
    exact ⟨rfl, .inr ⟨rfl, strolling⟩⟩

/-- The second half of a tick tells of one other state at most, and of one sub-state at most. -/
theorem proceed_pace (rest : game.AtRest) (tick : Tick) :
    let notices := (game.proceed tick).value.settleTellings.map Telling.notice
    notices.countP Notice.isChange ≤ 1 ∧ notices.countP Notice.isSubEntry ≤ 1 := by
  intro notices
  obtain ⟨departures, arrival, parting, orderly⟩ := proceed_atRest rest tick
  obtain ⟨entering, exploring⟩ := countP_arrival arrival
  obtain ⟨changes, entries, alone⟩ := parting.countP
  obtain ⟨extra, told, shape⟩ := settle_told orderly fun arrives =>
    proceed_unasked rest tick (orderly.active_of_arrival arrives)
  have same : notices = departures ++ (arrival.map Notice.entered).toList ++ extra := told
  rw [same, List.countP_append, List.countP_append, List.countP_append, List.countP_append,
    entering, exploring]
  obtain rfl | ⟨arrives, rfl, -⟩ := shape
  · exact ⟨changes, entries⟩
  · rw [alone arrives]
    exact ⟨changes, Nat.le_refl 1⟩

/-- A tick changes the state at most once and enters at most one sub-state, whatever happens on the
way. Between two operations no notice waits, so that the notices of a tick are those that lead from
the machine before it to the machine after it. -/
theorem one_change_per_tick {bundle : Bundle} {config : Config} {host : η} {loader : ℓ}
    {opened : Game η ℓ} (valid : (Game.ofBundle bundle config host loader).value = .ok opened)
    (operations : List (Operation η ℓ)) (tick : Tick) :
    let game := opened.runAll operations
    let after := (game.tick tick).value
    let notices := (game.tickTellings tick).map Telling.notice
    game.machine.queue = [] ∧ after.machine.queue = [] ∧
      game.machine.view.followAll notices = some after.machine.view ∧
      notices.countP Notice.isChange ≤ 1 ∧ notices.countP Notice.isSubEntry ≤ 1 := by
  intro game after notices
  have rest : game.AtRest := runAll_atRest (ofBundle_atRest valid).1 operations
  have rested : after.AtRest := (tick_atRest rest tick).1
  obtain ⟨news, queue, leads⟩ := (game.tick_drives tick).tells rest.sound
    (Machine.told_of_queue rest.told)
  rw [rest.told, rested.told, List.append_nil, List.nil_append] at queue
  have leads : game.machine.view.followAll notices = some after.machine.view := by
    rw [← queue] at leads
    exact leads
  have halves : notices = game.pollScene.value.settleTellings.map Telling.notice ++
      (game.ready.proceed tick).value.settleTellings.map Telling.notice := List.map_append
  obtain ⟨still, first⟩ := ready_pace rest
  obtain ⟨changes, entries⟩ := proceed_pace (ready_atRest rest) tick
  refine ⟨rest.told, rested.told, leads, ?_, ?_⟩
  · rw [halves, List.countP_append, still, Nat.zero_add]
    exact changes
  · rw [halves, List.countP_append]
    obtain none | ⟨one, strolling⟩ := first
    · rw [none, Nat.zero_add]
      exact entries
    · -- After a stroll began, the second half has nothing to tell.
      have told : (game.ready.proceed tick).value.machine.queue = [] :=
        (congrArg Machine.queue (strolling.proceed tick)).trans (ready_atRest rest).told
      rw [one, settleTellings, settleTrace, batchesTrace_told batchTellings told]
      rfl

/-- A title that is left for free roam: both a state and a sub-state are entered in one tick. -/
theorem one_change_per_tick_roaming :
    ∃ opened, (Game.ofBundle .omen .staged Recorder.empty InstantLoader.empty).value = .ok opened ∧
      let game := opened.runAll [.requestState (.switch .freeRoam)]
      let notices := (game.tickTellings (.press .none)).map Telling.notice
      notices = [.exited .title, .changed (some .title) .freeRoam, .entered .freeRoam,
          .subEntered .exploration] ∧
        notices.countP Notice.isChange ≤ 1 ∧ notices.countP Notice.isSubEntry ≤ 1 := by
  refine ⟨_, rfl, rfl, ?_⟩
  have valid : (Game.ofBundle .omen .staged Recorder.empty InstantLoader.empty).value = .ok _ := rfl
  exact (one_change_per_tick valid [.requestState (.switch .freeRoam)] (.press .none)).2.2.2

end Ticks

end Game

end Narrative
