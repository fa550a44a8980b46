import Narrative.Proofs.Game.Readiness
import Narrative.Proofs.Game.SubStates

/-!
# What becomes of a request for the menu

Free roam takes a request for the menu, or for exploration, as soon as it is active and has that
sub-state. The request is kept by the current sub-state, and the next tick meets it. But free roam
can be active without a current sub-state, after an entry rule has told an event instead of letting
the player explore: then the request is taken all the same, and nobody keeps it.
-/

namespace Narrative

namespace SubMachine

variable {sub : SubMachine} {next : SubKind}

/-- A request for a sub-state that there is leads to it. -/
theorem current_processRequest (pending : sub.pendingRequest? = some next)
    (known : sub.isRegistered next = true) : sub.processRequest.value.2.current = some next := by
  have there : sub.dropRequest.isRegistered next = true :=
    (sub.isRegistered_dropRequest next).trans known
  unfold processRequest
  rw [pending]
  dsimp only
  rw [Logged.value_bind, switchTo_value, if_pos there]
  rfl

/-- What is asked of the current sub-state is where it leads to; without one, nothing is kept. -/
theorem current_processRequest_request (standing : sub.Standing)
    (known : sub.isRegistered next = true) :
    (sub.request next).value.takeNotices.2.processRequest.value.2.current =
      sub.current.map fun _ => next := by
  have kept : (sub.request next).value.current = sub.current := (sub.request_keeps next).1
  cases current : sub.current with
  | none =>
    have vacant : (sub.request next).value.takeNotices.2.current = none := kept.trans current
    rcases (sub.request next).value.takeNotices.2.processRequest_cases with
      ⟨same, -⟩ | ⟨left, _, some, -⟩
    · exact same.trans vacant
    · cases vacant.symm.trans some
  | some kind =>
    have pending : (sub.request next).value.takeNotices.2.pendingRequest? = some next :=
      pendingRequest?_request current (standing kind current) next
    have there : (sub.request next).value.takeNotices.2.isRegistered next = true :=
      (sub.isRegistered_request next next).trans known
    exact current_processRequest pending there

end SubMachine

namespace Game

variable {η ℓ : Type} {game : Game η ℓ}

/-- A request that is accepted was made of free roam, which has the sub-state asked for. -/
theorem requestSubState_ok {next : SubKind}
    (accepted : (game.requestSubState next).value.1 = .ok ()) :
    ∃ sub, game.machine.freeRoam = .ok sub ∧ sub.isRegistered next = true ∧
      (game.requestSubState next).value.2 = game.withSubMachine (sub.request next).value := by
  unfold requestSubState at accepted ⊢
  cases roaming : game.machine.freeRoam with
  | error error =>
    rw [roaming] at accepted
    cases accepted
  | ok sub =>
    rw [roaming] at accepted
    dsimp only at accepted ⊢
    by_cases known : sub.isRegistered next = true
    · rw [if_pos known]
      exact ⟨sub, rfl, known, rfl⟩
    · rw [if_neg known] at accepted
      cases accepted

/-- What comes of the request of the current sub-state while free roam is active. -/
theorem processSubRequest_value {sub : SubMachine} (roaming : game.machine.freeRoam = .ok sub) :
    game.processSubRequest.value = game.withSubMachine sub.processRequest.value.2 := by
  unfold processSubRequest
  rw [roaming]
  dsimp only [Logged.value_bind]
  split <;> rfl

/-- Without a request of the current state nothing is met. -/
theorem processRequest_silent [SceneLoader ℓ] (silent : game.machine.pendingRequest? = none) :
    game.processRequest.value = game := by
  have idle : (game.machine.processRequest game.loader).value =
      (none, game.machine, game.loader) := by
    unfold Machine.processRequest
    rw [silent]
    rfl
  rw [processRequest_value, idle]

variable [Host η]

/-- Reactions to departures leave the standing of the machine as it is. -/
theorem reactBatches_standing (bound : Nat)
    (departing : ∀ notice ∈ game.machine.queue, notice.isArrival = false) :
    game.machine.Agrees (reactBatches bound game).value.machine := by
  induction bound generalizing game with
  | zero => exact .refl _
  | succ bound ih =>
    obtain ⟨taken, told⟩ := game.withMachine_taken
    unfold reactBatches
    dsimp only
    split
    · exact taken
    · rw [Logged.value_bind, Machine.takeNotices_fst]
      obtain ⟨quiet, -⟩ := reactAll_departures
        (game.withMachine game.machine.takeNotices.2) departing
      refine (taken.trans quiet.standing).trans (ih ?_)
      intro notice member
      rw [quiet.queue, told] at member
      cases member

/-- A conversation that does not come to its end leaves the sub-states of free roam alone. -/
theorem updateActive_subMachine? (roam : game.machine.active? = some .freeRoam) {tick : Tick}
    (unfinished : (game.resumeDialog tick).value.1 ≠ .done) :
    (game.updateActive tick).value.machine.subMachine? = game.machine.subMachine? := by
  unfold updateActive
  rw [roam]
  change (game.updateFreeRoam tick).value.machine.subMachine? = _
  rw [updateFreeRoam_value, if_neg unfinished]
  split
  · exact (forwardRequest_asks _).subMachine?
  · rfl

variable [SceneLoader ℓ]

/-- The running dialog comes to its end in a tick. -/
def CompletesDialog (game : Game η ℓ) (tick : Tick) : Prop :=
  (game.ready.resumeDialog tick).value.1 = .done

instance (game : Game η ℓ) (tick : Tick) : Decidable (game.CompletesDialog tick) :=
  inferInstanceAs (Decidable (_ = _))

/-- A tick of free roam that takes no request of the state, and ends no dialog, meets the request of
the current sub-state. -/
theorem tick_subKind? (rest : game.AtRest) {sub : SubMachine}
    (roaming : game.machine.freeRoam = .ok sub) {tick : Tick}
    (untaken : ∀ request, .taken request ∉ game.tickHappenings tick)
    (unfinished : ¬game.CompletesDialog tick) :
    (game.tick tick).value.machine.subKind? =
      sub.takeNotices.2.processRequest.value.2.current := by
  obtain ⟨active, found⟩ := Machine.freeRoam_eq_ok_iff.1 roaming
  have ready := ready_of_active rest (active ▸ Option.some_ne_none _)
  have readyRest : game.ready.AtRest := ready_atRest rest
  have readyActive : game.ready.machine.active? = some .freeRoam := by
    rw [ready]
    exact game.machine.agrees_takeNotices.active?.trans active
  have readySub : game.ready.machine.subMachine? = some sub.takeNotices.2 := by
    rw [ready]
    exact game.machine.subMachine?_takeNotices.trans (congrArg _ found)
  have quiet := game.ready.updateActive_quiet tick
  have updatedRest : (game.ready.updateActive tick).value.AtRest := readyRest.quiet quiet
  have updated : (game.ready.updateActive tick).value.machine.freeRoam =
      .ok sub.takeNotices.2 :=
    Machine.freeRoam_eq_ok_iff.2 ⟨quiet.standing.active?.trans readyActive,
      (updateActive_subMachine? readyActive unfinished).trans readySub⟩
  have silent : (game.ready.updateActive tick).value.machine.pendingRequest? = none := by
    cases waiting : (game.ready.updateActive tick).value.machine.pendingRequest? with
    | none => rfl
    | some request =>
      have taken : .taken request ∈ (game.ready.updateActive tick).value.requestHappenings := by
        unfold requestHappenings
        simp [waiting]
      exact absurd (List.mem_append_left _ (List.mem_append_right _ taken)) (untaken request)
  have proceeded : (game.ready.proceed tick).value =
      (game.ready.updateActive tick).value.withSubMachine
        sub.takeNotices.2.processRequest.value.2 := by
    change (game.ready.updateActive tick).value.processRequest.value.processSubRequest.value = _
    rw [processRequest_silent silent, processSubRequest_value updated]
  -- What is left to tell are departures, and telling them moves nothing.
  have settled : (game.ready.proceed tick).value.machine.Agrees (game.tick tick).value.machine := by
    apply reactBatches_standing 3
    obtain ⟨departures, -, orderly⟩ := processSubRequest_atRest updatedRest
    rw [processSubRequest_value updated, ← proceeded] at orderly
    intro notice member
    rw [orderly.queue] at member
    exact orderly.departing notice (by simpa using member)
  rw [settled.subKind, proceeded]
  obtain ⟨-, there⟩ := Machine.freeRoam_eq_ok_iff.1 updated
  exact Machine.subKind?_withSubMachine there _

/-- A request for a sub-state that was accepted is met by the next tick, if a sub-state is there
that keeps it; otherwise it is lost. -/
theorem requestSubState_met (rest : game.AtRest) (standing : game.SubStates SubMachine.Standing)
    {next : SubKind} (accepted : (game.requestSubState next).value.1 = .ok ()) {tick : Tick}
    (untaken : ∀ request, .taken request ∉
      (game.requestSubState next).value.2.tickHappenings tick)
    (unfinished : ¬(game.requestSubState next).value.2.CompletesDialog tick) :
    ((game.requestSubState next).value.2.tick tick).value.currentSubState? =
      game.currentSubState?.map fun _ => next := by
  obtain ⟨sub, roaming, known, value⟩ := requestSubState_ok accepted
  obtain ⟨active, found⟩ := Machine.freeRoam_eq_ok_iff.1 roaming
  have askedRest : (game.requestSubState next).value.2.AtRest :=
    rest.quiet (game.requestSubState_quiet next)
  have asked : (game.requestSubState next).value.2.machine.freeRoam =
      .ok (sub.request next).value := by
    rw [value]
    exact Machine.freeRoam_eq_ok_iff.2 ⟨(Machine.active?_withSubMachine _ _).trans active,
      Machine.subMachine?_withSubMachine found _⟩
  have before : game.currentSubState? = sub.current := by
    rw [currentSubState?_eq rest.sound]
    unfold Machine.subKind?
    rw [found]
    rfl
  rw [currentSubState?_eq (tick_atRest askedRest tick).1.sound,
    tick_subKind? askedRest asked untaken unfinished, before]
  exact SubMachine.current_processRequest_request (standing sub found) known

end Game

/-- Whatever has happened to a game, a request for the menu that was accepted leads to the menu with
the next tick, if a sub-state is current; and so does a request for exploration. If none is
current, there is none after the tick. This is so in every tick that takes no request of the state
and ends no dialog. -/
theorem menu_request_met_from_current {η ℓ : Type} [Host η] [SceneLoader ℓ] {bundle : Bundle}
    {config : Config} {host : η} {loader : ℓ} {opened : Game η ℓ}
    (valid : (Game.ofBundle bundle config host loader).value = .ok opened)
    (operations : List (Operation η ℓ)) (tick : Tick) :
    let game := opened.runAll operations
    let asked := game.openMenu.value.2
    let closing := game.closeMenu.value.2
    (game.openMenu.value.1 = .ok () →
      (∀ request, .taken request ∉ asked.tickHappenings tick) → ¬asked.CompletesDialog tick →
      (asked.tick tick).value.currentSubState? = game.currentSubState?.map fun _ => .menu) ∧
    (game.closeMenu.value.1 = .ok () →
      (∀ request, .taken request ∉ closing.tickHappenings tick) →
      ¬closing.CompletesDialog tick →
      (closing.tick tick).value.currentSubState? =
        game.currentSubState?.map fun _ => .exploration) := by
  intro game asked closing
  have rest := Game.runAll_atRest (Game.ofBundle_atRest valid).1 operations
  have standing := Game.subStates_reachable SubMachine.standing_invariant valid operations
  exact ⟨fun accepted untaken unfinished =>
      Game.requestSubState_met rest standing accepted untaken unfinished,
    fun accepted untaken unfinished =>
      Game.requestSubState_met rest standing accepted untaken unfinished⟩

/-- Who explores can open the menu, and close it again. -/
theorem menu_request_met_from_current_roaming :
    ∃ opened, (Game.ofBundle .greeting .roaming Recorder.empty InstantLoader.empty).value =
        .ok opened ∧
      (opened.openMenu.value.2.tick (.press .none)).value.currentSubState? = some .menu ∧
      let inMenu := opened.runAll [.openMenu, .tick (.press .none)]
      (inMenu.closeMenu.value.2.tick (.press .none)).value.currentSubState? =
        some .exploration := by
  refine ⟨_, rfl, ?_⟩
  have valid : (Game.ofBundle .greeting .roaming Recorder.empty InstantLoader.empty).value =
    .ok _ := rfl
  have opens := (menu_request_met_from_current valid [] (.press .none)).1 rfl
    (fun _ => List.not_mem_nil) (by decide)
  have closes := (menu_request_met_from_current valid [.openMenu, .tick (.press .none)]
    (.press .none)).2 rfl (fun _ => List.not_mem_nil) (by decide)
  exact ⟨opens, closes⟩

/-- A flag that decides what happens on entering free roam. -/
def Bundle.welcome : Bundle :=
  { Bundle.empty with flags := Flags.empty.declareFlag "welcomed" false }

/-- The title from the start. Who comes from there to free roam is welcomed first. -/
def Config.welcoming : Config :=
  { Config.staged with entryRules := [⟨.title, "welcomed", none, some "welcome"⟩] }

/-- The player comes to free roam. -/
def Operation.arriving : List (Operation Recorder InstantLoader) :=
  [.requestState (.switch .freeRoam), .tick (.press .none)]

/-- Who is welcomed can neither open the menu nor start exploring: both requests are accepted, no
request of the state is taken and no dialog ends in the tick after them, and yet there is no
sub-state then. -/
theorem menu_request_lost :
    ∃ opened, (Game.ofBundle .welcome .welcoming Recorder.empty InstantLoader.empty).value =
        .ok opened ∧
      let game := opened.runAll Operation.arriving
      let asked := game.openMenu.value.2
      let closing := game.closeMenu.value.2
      (game.openMenu.value.1 = .ok () ∧
        asked.tickHappenings (.press .none) = [] ∧ ¬asked.CompletesDialog (.press .none) ∧
        (asked.tick (.press .none)).value.currentSubState? = none) ∧
      game.closeMenu.value.1 = .ok () ∧
        closing.tickHappenings (.press .none) = [] ∧ ¬closing.CompletesDialog (.press .none) ∧
        (closing.tick (.press .none)).value.currentSubState? = none := by
  exact ⟨_, rfl, ⟨rfl, rfl, by decide, rfl⟩, rfl, rfl, by decide, rfl⟩

end Narrative
