import Narrative.Proofs.Game.Attendance

/-!
# What the sub-states of a game keep

A game does only a few things with the sub-states of free roam: it tells their notices, switches to
one that there is, asks the current one for another, and meets what that asked for. Leaving free
roam leaves the current sub-state, too. A property of sub-states none of which is current that all
this keeps holds in every game that can be reached.
-/

namespace Narrative

namespace SubMachine

/-- A property that sub-states have while none is current, and keep whatever a game does with
them. -/
structure Invariant (holds : SubMachine → Prop) : Prop where
  /-- It holds while no sub-state is current. -/
  vacant : ∀ {sub}, sub.current = none → holds sub
  /-- Telling the notices keeps it. -/
  told : ∀ {sub}, holds sub → holds sub.takeNotices.2
  /-- A switch to a sub-state that there is keeps it. -/
  switched : ∀ {sub next}, holds sub → sub.isRegistered next = true → holds (sub.exit.enter next)
  /-- Asking for a sub-state keeps it. -/
  asked : ∀ {sub} next, holds sub → holds (sub.request next).value
  /-- Using up what was asked for keeps it. -/
  dropped : ∀ {sub}, holds sub → holds sub.dropRequest

variable {holds : SubMachine → Prop}

/-- Using up a request leaves what sub-states there are. -/
theorem isRegistered_dropRequest (sub : SubMachine) (kind : SubKind) :
    sub.dropRequest.isRegistered kind = sub.isRegistered kind := by
  unfold dropRequest
  split
  · rfl
  · exact isRegistered_replace ..

/-- Meeting a request keeps an invariant. -/
theorem Invariant.met (invariant : Invariant holds) {sub : SubMachine} (kept : holds sub) :
    holds sub.processRequest.value.2 := by
  unfold processRequest
  split
  · exact kept
  · next next _ =>
    have dropped := invariant.dropped kept
    dsimp only
    rw [Logged.value_bind, switchTo_value]
    by_cases known : sub.dropRequest.isRegistered next = true
    · rw [if_pos known]
      exact invariant.switched dropped known
    · rw [if_neg known]
      exact dropped

/-- The current sub-state is one of those that there are. -/
def Standing (sub : SubMachine) : Prop :=
  ∀ kind, sub.current = some kind → sub.isRegistered kind = true

/-- That the current sub-state is there is kept. -/
theorem standing_invariant : Invariant Standing where
  vacant none kind current := by
    rw [none] at current
    cases current
  told standing := standing
  switched := by
    intro sub next _ known kind current
    obtain rfl := Option.some.inj current
    have kept : (sub.exit.enter next).isRegistered next = sub.exit.isRegistered next :=
      isRegistered_replace ..
    unfold exit at kept ⊢
    split at kept
    · exact kept.trans known
    · exact kept.trans ((isRegistered_replace ..).trans known)
  asked := by
    intro sub next standing kind current
    have there := standing kind ((sub.request_keeps next).1.symm.trans current)
    unfold request
    split
    · exact there
    · exact (isRegistered_replace ..).trans there
  dropped := by
    intro sub standing kind current
    rw [isRegistered_dropRequest]
    exact standing kind (sub.dropRequest_keeps.1.symm.trans current)

end SubMachine

namespace Game

variable {η ℓ : Type} {game after : Game η ℓ} {holds : SubMachine → Prop}

/-- The sub-states of free roam have a property. -/
def SubStates (holds : SubMachine → Prop) (game : Game η ℓ) : Prop :=
  ∀ sub, game.machine.subMachine? = some sub → holds sub

namespace SubStates

/-- With the same sub-states, a game is as before. -/
theorem congr (kept : game.SubStates holds)
    (same : after.machine.subMachine? = game.machine.subMachine?) : after.SubStates holds :=
  fun sub found => kept sub (same ▸ found)

/-- Where no sub-state is current, an invariant holds. -/
theorem of_roamless (invariant : SubMachine.Invariant holds)
    (roamless : game.machine.subKind? = none) : game.SubStates holds := by
  intro sub found
  apply invariant.vacant
  unfold Machine.subKind? at roamless
  rw [found] at roamless
  exact roamless

/-- Other sub-states are put in place. -/
theorem withSubMachine {old sub : SubMachine} (found : game.machine.subMachine? = some old)
    (kept : holds sub) : (game.withSubMachine sub).SubStates holds := by
  intro other placed
  have there := Machine.subMachine?_withSubMachine found sub
  obtain rfl := Option.some.inj (there.symm.trans placed)
  exact kept

/-- The notices of a game are taken. -/
theorem taken (invariant : SubMachine.Invariant holds) (kept : game.SubStates holds) :
    (game.withMachine game.machine.takeNotices.2).SubStates holds := by
  intro sub found
  change game.machine.takeNotices.2.subMachine? = some sub at found
  rw [Machine.subMachine?_takeNotices] at found
  obtain ⟨old, known, rfl⟩ := Option.map_eq_some_iff.1 found
  exact invariant.told (kept old known)

/-- The player explores. -/
theorem explore (invariant : SubMachine.Invariant holds) (kept : game.SubStates holds) :
    game.explore.value.SubStates holds := by
  rcases game.explore_cases with same | ⟨sub, roaming, known, value⟩
  · rw [same]
    exact kept
  · obtain ⟨-, found⟩ := Machine.freeRoam_eq_ok_iff.1 roaming
    rw [value]
    exact withSubMachine found (invariant.switched (kept sub found) known)

/-- Free roam is asked for a sub-state. -/
theorem requestSubState (invariant : SubMachine.Invariant holds) (kept : game.SubStates holds)
    (next : SubKind) : (game.requestSubState next).value.2.SubStates holds := by
  rcases game.requestSubState_cases next with same | ⟨sub, roaming, -, value⟩
  · rw [same]
    exact kept
  · obtain ⟨-, found⟩ := Machine.freeRoam_eq_ok_iff.1 roaming
    rw [value]
    exact withSubMachine found (invariant.asked next (kept sub found))

/-- Free roam is asked for exploration. -/
theorem requestExploration (invariant : SubMachine.Invariant holds) (kept : game.SubStates holds) :
    game.requestExploration.value.SubStates holds := by
  rcases game.requestExploration_cases with same | ⟨sub, roaming, value⟩
  · rw [same]
    exact kept
  · obtain ⟨-, found⟩ := Machine.freeRoam_eq_ok_iff.1 roaming
    rw [value]
    exact withSubMachine found (invariant.asked .exploration (kept sub found))

/-- The request of the current sub-state is met. -/
theorem processSubRequest (invariant : SubMachine.Invariant holds) (kept : game.SubStates holds) :
    game.processSubRequest.value.SubStates holds := by
  rcases game.processSubRequest_cases with same | ⟨sub, roaming, value⟩
  · rw [same]
    exact kept
  · obtain ⟨-, found⟩ := Machine.freeRoam_eq_ok_iff.1 roaming
    rw [value]
    exact withSubMachine found (invariant.met (kept sub found))

variable [Host η]

/-- A reaction. -/
theorem react (invariant : SubMachine.Invariant holds) (kept : game.SubStates holds)
    (notice : Notice) : (game.react notice).value.SubStates holds := by
  have abandoned : game.abandonDialog.value.SubStates holds := kept.congr rfl
  unfold Game.react
  rw [Logged.value_bind]
  cases notice with
  | entered kind =>
    cases kind with
    | freeRoam =>
      change game.onFreeRoamEntered.value.SubStates holds
      have ready : game.resetIfPending.value.SubStates holds := by
        unfold resetIfPending
        split
        · exact kept.congr rfl
        · exact kept
      rcases game.onFreeRoamEntered_cases with ⟨event, value⟩ | value
      · rw [value]
        exact ready.congr rfl
      · rw [value]
        exact ready.explore invariant
    | event => exact kept.congr game.onEventEntered_onlyAsks.subMachine?
    | _ => exact kept.congr rfl
  | exited kind =>
    cases kind with
    | freeRoam => exact abandoned
    | event => exact abandoned
    | _ => exact kept
  | subExited kind =>
    cases kind with
    | dialog => exact abandoned
    | _ => exact kept
  | _ => exact kept

/-- Batches of reactions. -/
theorem reactBatches (invariant : SubMachine.Invariant holds) (bound : Nat)
    (kept : game.SubStates holds) : (Game.reactBatches bound game).value.SubStates holds := by
  have reactAll (notices : List Notice) {game : Game η ℓ} (kept : game.SubStates holds) :
      (game.reactAll notices).value.SubStates holds := by
    induction notices generalizing game with
    | nil => exact kept
    | cons notice rest ih => exact ih (kept.react invariant notice)
  induction bound generalizing game with
  | zero => exact kept
  | succ bound ih =>
    have taken := kept.taken invariant
    unfold Game.reactBatches
    dsimp only
    split
    · exact taken
    · exact ih (reactAll _ taken)

/-- The active state does its part of a tick. -/
theorem updateActive (invariant : SubMachine.Invariant holds) (sound : game.machine.Sound)
    (kept : game.SubStates holds) (tick : Tick) :
    (game.updateActive tick).value.SubStates holds := by
  by_cases roam : game.machine.active? = some .freeRoam
  · unfold Game.updateActive
    rw [roam]
    change (game.updateFreeRoam tick).value.SubStates holds
    have handed {gone : Game η ℓ} (goes : gone.SubStates holds) :
        gone.forwardRequest.value.2.SubStates holds :=
      goes.congr gone.forwardRequest_asks.subMachine?
    have resumed : (game.resumeDialog tick).value.2.SubStates holds := kept.congr rfl
    rw [updateFreeRoam_value]
    split
    · apply handed
      split
      · exact resumed.requestExploration invariant
      · exact resumed
    · exact kept
  · -- Elsewhere no sub-state is current, and none becomes current.
    apply of_roamless invariant
    refine (game.updateActive_quiet tick).standing.subKind.trans ?_
    by_contra roaming
    exact roam (sound.roams roaming)

/-- A character is talked to. -/
theorem talked (invariant : SubMachine.Invariant holds) {attempts : List (Attempt η ℓ)}
    (talked : game.Talked attempts after) (kept : game.SubStates holds) :
    after.SubStates holds := by
  cases talked with
  | declined => exact kept
  | refused => exact kept
  | @accepted sub approachable dialog started accepted turned repertoire noted =>
    obtain ⟨roaming, -, registered⟩ := approachable_cases approachable
    have same : turned.machine = game.machine :=
      (congrArg Game.machine noted).trans (startDialog_keeps accepted).1
    obtain ⟨-, found⟩ := Machine.freeRoam_eq_ok_iff.1 (same ▸ roaming)
    have entered := invariant.switched (kept sub (same ▸ found)) registered
    have joined : holds (sub.joined started.value.1) := by
      unfold SubMachine.joined
      split
      · exact invariant.asked .exploration entered
      · exact entered
    have placed : (turned.joined sub started.value.1).SubStates holds :=
      (withSubMachine found joined).congr (forwardRequest_asks _).subMachine?
    exact placed.reactBatches invariant 3

variable [SceneLoader ℓ]

/-- A tick. -/
theorem tick (invariant : SubMachine.Invariant holds) (rest : game.AtRest)
    (kept : game.SubStates holds) (tick : Tick) : (game.tick tick).value.SubStates holds := by
  obtain ⟨_, orderly⟩ := pollScene_atRest rest
  have polled : game.pollScene.value.SubStates holds := by
    rcases Machine.pollScene_cases rest.sound (Machine.told_of_queue rest.told) game.loader with
      same | ⟨-, -, -, -, roamless, -, -⟩
    · exact kept.congr (congrArg Machine.subMachine? same)
    · exact of_roamless invariant roamless
  have settled := polled.reactBatches invariant 3
  have resting : game.pollScene.value.settle.value.AtRest := (settle_atRest orderly).1
  have updated := settled.updateActive invariant resting.sound tick
  have moved := resting.quiet (game.pollScene.value.settle.value.updateActive_quiet tick)
  have met (before : Game η ℓ) (rest : before.AtRest) (kept : before.SubStates holds) :
      before.processRequest.value.SubStates holds := by
    rw [processRequest_value]
    rcases Machine.processRequest_cases rest.sound (Machine.told_of_queue rest.told)
      before.loader with asks | ⟨target, change⟩
    · exact kept.congr asks.subMachine?
    · exact of_roamless invariant change.roamless
  exact ((met _ moved updated).processSubRequest invariant).reactBatches invariant 3

/-- An operation. -/
theorem apply (invariant : SubMachine.Invariant holds) (rest : game.AtRest)
    (kept : game.SubStates holds) (operation : Operation η ℓ) :
    (game.apply operation).SubStates holds := by
  cases operation with
  | tick tick => exact kept.tick invariant rest tick
  | talkTo character => exact talked invariant (game.talkTo_talked character) kept
  | openMenu => exact kept.requestSubState invariant .menu
  | closeMenu => exact kept.requestSubState invariant .exploration
  | requestState request => exact kept.congr (game.requestState_asks request).subMachine?
  | advanceScenario => exact kept.congr game.advanceScenario_asks.subMachine?
  | _ => exact kept.congr rfl

/-- Operations in order. -/
theorem runAll (invariant : SubMachine.Invariant holds) (rest : game.AtRest)
    (kept : game.SubStates holds) (operations : List (Operation η ℓ)) :
    (game.runAll operations).SubStates holds := by
  induction operations generalizing game with
  | nil => exact kept
  | cons operation others ih =>
    exact ih (apply_atRest rest operation).1 (kept.apply invariant rest operation)

end SubStates

/-- An invariant of sub-states holds in every game that can be reached. -/
theorem subStates_reachable [Host η] [SceneLoader ℓ] {bundle : Bundle} {config : Config}
    {host : η} {loader : ℓ} {opened : Game η ℓ} (invariant : SubMachine.Invariant holds)
    (valid : (Game.ofBundle bundle config host loader).value = .ok opened)
    (operations : List (Operation η ℓ)) : (opened.runAll operations).SubStates holds := by
  have started : opened.SubStates holds := by
    obtain ⟨machine, entered, rfl⟩ := ofBundle_cases valid
    obtain ⟨vacant, told⟩ := Machine.ofPlan_vacant config.states config.tracing
    have change := Machine.enterState_moved vacant.sound (Machine.told_of_queue told) entered
    exact SubStates.reactBatches invariant 3 (SubStates.of_roamless invariant change.roamless)
  exact started.runAll invariant (ofBundle_atRest valid).1 operations

end Game

end Narrative
