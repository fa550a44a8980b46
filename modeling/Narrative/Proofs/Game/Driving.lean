import Narrative.Proofs.Game.Telling
import Narrative.Proofs.Machine.Integrity

/-!
# The driving of the machine

A game does nothing with its machine but what the operations of a machine do: whatever happens to a
game, its machine goes through a course of its own, and the notices that the game tells are those
that are taken in that course. What holds of every machine in the course of its operations
therefore holds of the machine of a game. Most steps of a game stir its machine at most: they need
no operation that could change the current state, or what it waits for.
-/

namespace Narrative

namespace Machine

variable {ℓ : Type} [SceneLoader ℓ]

/-- A loader that is overheard answers the same: loading the scene of a state. -/
theorem loadOrEnter_overheard (machine : Machine) (kind : StateKind) (transition : Transition)
    (loader : Overheard ℓ) :
    (machine.loadOrEnter kind transition loader.loader).value =
      ((machine.loadOrEnter kind transition loader).value).map id Overheard.loader := by
  unfold loadOrEnter
  split <;> rfl

/-- The same for a request that is met. -/
theorem fulfil_overheard (machine : Machine) (loader : Overheard ℓ) (request : Request) :
    (machine.fulfil loader.loader request).value =
      ((machine.fulfil loader request).value).map (Prod.map id Overheard.loader) := by
  cases request with
  | switch target =>
    change (machine.switchState target loader.loader).value =
      (machine.switchState target loader).value.map _
    unfold switchState
    simp only [Logged.value_bind]
    split
    · rfl
    · split
      · exact congrArg Except.ok (loadOrEnter_overheard _ .loading .fade loader)
      · exact congrArg Except.ok (loadOrEnter_overheard _ target .fade loader)
  | enterScene target =>
    change (machine.enterScene target loader.loader).value =
      (machine.enterScene target loader).value.map _
    unfold enterScene
    simp only [Logged.value_bind]
    split
    · rfl
    · exact congrArg Except.ok (loadOrEnter_overheard _ target .cut loader)

/-- The same for the request of the current state. -/
theorem processRequest_overheard (machine : Machine) (loader : Overheard ℓ) :
    (machine.processRequest loader.loader).value.2 =
      ((machine.processRequest loader).value.2).map id Overheard.loader := by
  unfold processRequest
  split
  · rfl
  · next request _ =>
    dsimp only
    rw [Logged.value_bind, Logged.value_bind, fulfil_overheard]
    cases (machine.dropRequest.fulfil loader request).value <;> rfl

/-- The same for the scene of the current state. -/
theorem pollScene_overheard (machine : Machine) (loader : Overheard ℓ) :
    (machine.pollScene loader.loader).value =
      ((machine.pollScene loader).value).map id Overheard.loader := by
  unfold pollScene
  split
  · next ticket current _ _ =>
    have answer : (SceneLoader.poll loader ticket).1 = (SceneLoader.poll loader.loader ticket).1 :=
      rfl
    dsimp only
    rw [answer]
    split
    · rfl
    · split <;> rfl
  · rfl

/-- Where the loading state leads, whether it is current or not. -/
def led? (machine : Machine) : Option StateKind := (machine.state? .loading).bind GameState.target

/-- A machine whose current state, what that waits for, and where the loading state leads are the
same as before. -/
structure Stays (machine after : Machine) : Prop where
  /-- The same state is current. -/
  current : after.current = machine.current
  /-- It waits for the same scene. -/
  pending : after.pending = machine.pending
  /-- It is active if it was. -/
  active : after.active? = machine.active?
  /-- The loading state leads to the same state. -/
  led : after.led? = machine.led?

omit [SceneLoader ℓ] in
/-- Nothing changes. -/
theorem Stays.refl (machine : Machine) : machine.Stays machine := ⟨rfl, rfl, rfl, rfl⟩

omit [SceneLoader ℓ] in
/-- Two steps in a row. -/
theorem Stays.trans {machine middle after : Machine} (first : machine.Stays middle)
    (second : middle.Stays after) : machine.Stays after :=
  ⟨second.current.trans first.current, second.pending.trans first.pending,
    second.active.trans first.active, second.led.trans first.led⟩

omit [SceneLoader ℓ] in
/-- Where the loading state leads, while it is current, stays the same. -/
theorem Stays.loadingTarget? {machine after : Machine} (stays : machine.Stays after) :
    after.loadingTarget? = machine.loadingTarget? := by
  have led : (after.state? .loading).bind GameState.target =
      (machine.state? .loading).bind GameState.target := stays.led
  unfold Machine.loadingTarget?
  rw [stays.current, led]

omit [SceneLoader ℓ] in
/-- Only the loading state leads anywhere. -/
theorem current_of_leads {machine : Machine} {target : StateKind}
    (leads : machine.loadingTarget? = some target) : machine.current = some .loading := by
  by_contra elsewhere
  unfold loadingTarget? at leads
  rw [if_neg elsewhere] at leads
  cases leads

omit [SceneLoader ℓ] in
/-- Requests that differ. -/
theorem OnlyAsks.stays {machine after : Machine} (asks : machine.OnlyAsks after) :
    machine.Stays after := by
  refine ⟨asks.agrees.current, asks.agrees.pending, asks.agrees.active?, ?_⟩
  have target (state : Option GameState) :
      (state.map GameState.silent).bind GameState.target = state.bind GameState.target := by
    cases state <;> rfl
  unfold led?
  rw [← target, asks.states, target]

omit [SceneLoader ℓ] in
/-- Other sub-states of free roam. -/
theorem withSubMachine_stays (machine : Machine) (sub : SubMachine) :
    machine.Stays (machine.withSubMachine sub) := by
  refine ⟨rfl, rfl, active?_withSubMachine machine sub, ?_⟩
  have elsewhere : StateKind.loading ≠ .freeRoam := nofun
  unfold led? state? withSubMachine
  rw [SortedMap.get?_modify_of_ne _ _ elsewhere]

omit [SceneLoader ℓ] in
/-- Taking the notices. -/
theorem takeNotices_stays (machine : Machine) : machine.Stays machine.takeNotices.2 := by
  refine ⟨machine.agrees_takeNotices.current, machine.agrees_takeNotices.pending,
    machine.agrees_takeNotices.active?, ?_⟩
  change machine.drainSubNotices.led? = machine.led?
  unfold drainSubNotices
  split
  · rfl
  · next sub _ => exact (machine.withSubMachine_stays sub.takeNotices.2).led

/-- Operations that move no state: they ask for one, change sub-states, or take notices. -/
def Command.IsStill {ℓ : Type} : Command ℓ → Prop
  | request _ | switchSub _ | exitSub | requestSub _ | processSub | takeNotices => True
  | _ => False

/-- An operation that moves no state leaves the loader alone. -/
theorem Command.perform_still (machine : Machine) (loader : Overheard ℓ) {command : Command ℓ}
    (still : command.IsStill) :
    machine.Stays (command.perform machine loader).machine ∧
      (command.perform machine loader).loader = loader := by
  have roaming (change : SubMachine → SubMachine × Option MachineError) :
      machine.Stays (Outcome.ofSub machine loader change).machine ∧
        (Outcome.ofSub machine loader change).loader = loader := by
    unfold Outcome.ofSub
    split
    · exact ⟨machine.withSubMachine_stays _, rfl⟩
    · exact ⟨.refl machine, rfl⟩
  cases command with
  | request next => exact ⟨(machine.request_onlyAsks next).stays, rfl⟩
  | takeNotices => exact ⟨machine.takeNotices_stays, rfl⟩
  | switchSub next => exact roaming _
  | exitSub => exact roaming _
  | requestSub next => exact roaming _
  | processSub => exact roaming _
  | _ => exact still.elim

end Machine

open Machine (Command Overheard)

namespace Course

variable {ℓ : Type} [SceneLoader ℓ] {first second : Course ℓ} {taken : List Notice}

omit [SceneLoader ℓ] in
/-- Two courses at one point, of which one has a longer past: notices were taken before. -/
structure Behind (taken : List Notice) (first second : Course ℓ) : Prop where
  /-- The machine is the same. -/
  machine : second.machine = first.machine
  /-- The loader is the same. -/
  loader : second.loader = first.loader
  /-- The notices that were taken before come first. -/
  taken : second.taken = taken ++ first.taken

/-- An operation does not depend on the past. -/
theorem Behind.step (behind : Behind taken first second) (command : Command ℓ) :
    Behind taken (first.step command) (second.step command) := by
  have same : second.outcome command = first.outcome command := by
    unfold outcome
    rw [behind.machine, behind.loader]
  refine ⟨congrArg Machine.Outcome.machine same,
    congrArg (fun outcome => outcome.loader.loader) same, ?_⟩
  change second.taken ++ (second.outcome command).taken = taken ++ (first.taken ++ _)
  rw [behind.taken, same, List.append_assoc]

/-- Operations do not depend on the past. -/
theorem Behind.runAll (behind : Behind taken first second) (commands : List (Command ℓ)) :
    Behind taken (first.runAll commands) (second.runAll commands) := by
  induction commands generalizing first second with
  | nil => exact behind
  | cons command rest ih => exact ih (behind.step command)

/-- Operations in a row. -/
theorem runAll_append (course : Course ℓ) (before after : List (Command ℓ)) :
    course.runAll (before ++ after) = (course.runAll before).runAll after := by
  induction before generalizing course with
  | nil => rfl
  | cons command rest ih => exact ih (course.step command)

/-- Operations that move no state leave the loader alone. -/
theorem runAll_still (course : Course ℓ) {commands : List (Command ℓ)}
    (still : ∀ command ∈ commands, command.IsStill) :
    course.machine.Stays (course.runAll commands).machine ∧
      (course.runAll commands).loader = course.loader := by
  induction commands generalizing course with
  | nil => exact ⟨.refl course.machine, rfl⟩
  | cons command rest ih =>
    obtain ⟨first, later⟩ := List.forall_mem_cons.1 still
    obtain ⟨stays, same⟩ := Command.perform_still course.machine ⟨course.loader, []⟩ first
    obtain ⟨others, kept⟩ := ih (course.step command) later
    exact ⟨stays.trans others, kept.trans (congrArg Overheard.loader same)⟩

/-- The states of a machine stay those of its plan. -/
theorem runAll_built {plan : StatePlan} (course : Course ℓ) (sound : course.machine.Sound)
    (told : course.machine.Told) (built : course.machine.Built plan)
    (commands : List (Command ℓ)) : (course.runAll commands).machine.Built plan := by
  induction commands generalizing course with
  | nil => exact built
  | cons command rest ih =>
    obtain ⟨sounder, silent⟩ := Command.perform_orderly sound told ⟨course.loader, []⟩ command
    exact ih _ sounder silent (Command.perform_strides sound told built course.loader command).built

end Course

namespace Game

variable {η ℓ : Type} [SceneLoader ℓ] {game middle after : Game η ℓ} {told : List Notice}

/-- The course of a game's machine from here on. -/
def course (game : Game η ℓ) : Course ℓ := ⟨game.machine, game.loader, [], []⟩

/-- A step of a game in which its machine goes through operations of some kind, and some notices are
taken. -/
def DrivesBy (allowed : Command ℓ → Prop) (game : Game η ℓ) (told : List Notice)
    (after : Game η ℓ) : Prop :=
  ∃ commands : List (Command ℓ), (∀ command ∈ commands, allowed command) ∧
    (game.course.runAll commands).machine = after.machine ∧
      (game.course.runAll commands).loader = after.loader ∧
        (game.course.runAll commands).taken = told

/-- A step of a game in which its machine goes through operations, but nobody takes the notices of
its sub-states apart. -/
abbrev Drives (game : Game η ℓ) (told : List Notice) (after : Game η ℓ) : Prop :=
  game.DrivesBy (fun command => command ≠ .takeSubNotices) told after

/-- A step of a game in which its machine goes through operations that move no state. -/
abbrev Stirs (game : Game η ℓ) (told : List Notice) (after : Game η ℓ) : Prop :=
  game.DrivesBy Command.IsStill told after

namespace DrivesBy

variable {allowed : Command ℓ → Prop}

/-- A step that leaves the machine and the loader alone. -/
theorem of_same (machine : after.machine = game.machine) (loader : after.loader = game.loader) :
    game.DrivesBy allowed [] after :=
  ⟨[], fun _ member => absurd member List.not_mem_nil, machine.symm, loader.symm, rfl⟩

/-- Nothing happens. -/
theorem refl (game : Game η ℓ) : game.DrivesBy allowed [] game := of_same rfl rfl

/-- Two steps in a row. -/
theorem trans {others : List Notice} (first : game.DrivesBy allowed told middle)
    (second : middle.DrivesBy allowed others after) :
    game.DrivesBy allowed (told ++ others) after := by
  obtain ⟨before, permitted, machine, loader, taken⟩ := first
  obtain ⟨commands, admitted, arrived, left, heard⟩ := second
  have behind : Course.Behind told middle.course (game.course.runAll before) :=
    ⟨machine, loader, taken.trans (List.append_nil told).symm⟩
  obtain ⟨same, answers, all⟩ := behind.runAll commands
  refine ⟨before ++ commands, fun command member => ?_, ?_⟩
  · exact (List.mem_append.1 member).elim (permitted command) (admitted command)
  · rw [Course.runAll_append]
    exact ⟨same.trans arrived, answers.trans left, all.trans (congrArg (told ++ ·) heard)⟩

/-- Two steps in a row that take nothing. -/
theorem then_silent (first : game.DrivesBy allowed told middle)
    (second : middle.DrivesBy allowed [] after) : game.DrivesBy allowed told after :=
  List.append_nil told ▸ first.trans second

/-- One operation. -/
theorem of_outcome {outcome : Machine.Outcome (Overheard ℓ)} (command : Command ℓ)
    (permitted : allowed command) (same : game.course.outcome command = outcome)
    (machine : outcome.machine = after.machine) (loader : outcome.loader.loader = after.loader) :
    game.DrivesBy allowed outcome.taken after := by
  subst same
  exact ⟨[command], fun _ member => List.mem_singleton.1 member ▸ permitted, machine, loader, rfl⟩

end DrivesBy

/-- A step that moves no state is a step. -/
theorem Stirs.drives (stirs : game.Stirs told after) : game.Drives told after := by
  obtain ⟨commands, still, course⟩ := stirs
  refine ⟨commands, fun command member whole => ?_, course⟩
  subst whole
  exact still _ member

/-- A step that moves no state leaves the loader alone. -/
theorem Stirs.stays (stirs : game.Stirs told after) :
    game.machine.Stays after.machine ∧ after.loader = game.loader := by
  obtain ⟨commands, still, machine, loader, -⟩ := stirs
  rw [← machine, ← loader]
  exact game.course.runAll_still still

/-- What a step adds to the queue, taken or not, leads from the view of the machine before it to the
view of the machine after it. -/
theorem Drives.tells (drives : game.Drives told after) (sound : game.machine.Sound)
    (silent : game.machine.Told) :
    ∃ news, told ++ after.machine.queue = game.machine.queue ++ news ∧
      game.machine.view.followAll news = some after.machine.view := by
  obtain ⟨commands, whole, machine, -, taken⟩ := drives
  have entire : .takeSubNotices ∉ commands := fun member => whole _ member rfl
  obtain ⟨-, -, news, log, leads⟩ := game.course.runAll_tells sound silent entire
  refine ⟨news, ?_, machine ▸ leads⟩
  rw [← machine, ← taken]
  exact log

/-- A step keeps the states of the machine those of its plan. -/
theorem Drives.built {plan : StatePlan} (drives : game.Drives told after)
    (sound : game.machine.Sound)
    (silent : game.machine.Told) (built : game.machine.Built plan) : after.machine.Built plan := by
  obtain ⟨commands, -, machine, -⟩ := drives
  rw [← machine]
  exact game.course.runAll_built sound silent built commands

/-- Asking for a state. -/
theorem requestState_stirs (game : Game η ℓ) (request : Request) :
    game.Stirs [] (game.requestState request).value :=
  .of_outcome (.request request) trivial rfl rfl rfl

/-- Handing on what a dialog asked for. -/
theorem forwardRequest_stirs (game : Game η ℓ) : game.Stirs [] game.forwardRequest.value.2 := by
  unfold forwardRequest
  dsimp only
  split
  · exact .refl game
  · exact requestState_stirs { game with conversation := game.conversation.takeRequested.2 } _

/-- Taking a step of the scenario. -/
theorem advanceScenario_stirs (game : Game η ℓ) :
    game.Stirs [] game.advanceScenario.value.2 := by
  unfold advanceScenario
  split
  · exact .refl game
  · exact .refl game
  · dsimp only [Logged.value_bind]
    split
    · exact .of_same rfl rfl
    · exact requestState_stirs
        { game with
          storyline := (game.storyline.advance game.flags).value.2.1
          flags := (game.storyline.advance game.flags).value.2.2 } _

/-- Handing on what a dialog asked for, or else taking a step of the scenario if it is over. -/
theorem handOver_stirs (game : Game η ℓ) (progress : Progress) :
    game.Stirs []
      (if progress = .done ∧ !game.forwardRequest.value.1 then
        Prod.snd <$> game.forwardRequest.value.2.advanceScenario
      else pure game.forwardRequest.value.2).value := by
  split
  · exact game.forwardRequest_stirs.then_silent (advanceScenario_stirs _)
  · exact game.forwardRequest_stirs

/-- Asking the current sub-state for another one. -/
theorem withSubMachine_request_stirs {sub : SubMachine}
    (roaming : game.machine.freeRoam = .ok sub) (next : SubKind) :
    game.Stirs [] (game.withSubMachine (sub.request next).value) := by
  have outcome : game.course.outcome (.requestSub next) =
      ⟨game.machine.withSubMachine (sub.request next).value, ⟨game.loader, []⟩, none, []⟩ :=
    Command.perform_requestSub roaming ⟨game.loader, []⟩ next
  exact .of_outcome (.requestSub next) trivial outcome rfl rfl

/-- Asking free roam for a sub-state. -/
theorem requestSubState_stirs (game : Game η ℓ) (next : SubKind) :
    game.Stirs [] (game.requestSubState next).value.2 := by
  obtain same | ⟨sub, roaming, -, value⟩ := game.requestSubState_cases next
  · rw [same]
    exact .refl game
  · rw [value]
    exact withSubMachine_request_stirs roaming next

/-- Asking free roam for exploration. -/
theorem requestExploration_stirs (game : Game η ℓ) :
    game.Stirs [] game.requestExploration.value := by
  obtain same | ⟨sub, roaming, value⟩ := game.requestExploration_cases
  · rw [same]
    exact .refl game
  · rw [value]
    exact withSubMachine_request_stirs roaming .exploration

/-- A switch to a sub-state that there is. -/
theorem withSubMachine_switch_stirs {sub : SubMachine} {next : SubKind}
    (roaming : game.machine.freeRoam = .ok sub) (known : sub.isRegistered next = true) :
    game.Stirs [] (game.withSubMachine (sub.exit.enter next)) := by
  have switched : (sub.switchTo next).value = .ok (sub.exit.enter next) :=
    (sub.switchTo_value next).trans (if_pos known)
  have outcome : game.course.outcome (.switchSub next) =
      ⟨game.machine.withSubMachine (sub.exit.enter next), ⟨game.loader, []⟩, none, []⟩ :=
    Command.perform_switchSub roaming switched ⟨game.loader, []⟩
  exact .of_outcome (.switchSub next) trivial outcome rfl rfl

/-- Meeting the request of the current state. -/
theorem processRequest_drives (game : Game η ℓ) : game.Drives [] game.processRequest.value := by
  have same := game.machine.processRequest_overheard ⟨game.loader, []⟩
  rw [processRequest_value]
  exact .of_outcome .processRequest nofun rfl (congrArg Prod.fst same).symm
    (congrArg Prod.snd same).symm

/-- Meeting the request of the current sub-state. -/
theorem processSubRequest_stirs (game : Game η ℓ) :
    game.Stirs [] game.processSubRequest.value := by
  obtain same | ⟨sub, roaming, value⟩ := game.processSubRequest_cases
  · rw [same]
    exact .refl game
  · have outcome : game.course.outcome .processSub =
        ⟨game.machine.withSubMachine sub.processRequest.value.2, ⟨game.loader, []⟩,
          Machine.refusal sub.processRequest.value.1, []⟩ :=
      Command.perform_processSub roaming ⟨game.loader, []⟩
    rw [value]
    exact .of_outcome .processSub trivial outcome rfl rfl

/-- Asking for the scene of the current state. -/
theorem pollScene_drives (game : Game η ℓ) : game.Drives [] game.pollScene.value := by
  have same := game.machine.pollScene_overheard ⟨game.loader, []⟩
  exact .of_outcome .pollScene nofun rfl (congrArg Prod.fst same).symm (congrArg Prod.snd same).symm

/-- Taking the notices. -/
theorem withMachine_taken_stirs (game : Game η ℓ) :
    game.Stirs game.machine.takeNotices.1 (game.withMachine game.machine.takeNotices.2) :=
  .of_outcome .takeNotices trivial rfl rfl rfl

variable [Host η]

omit [SceneLoader ℓ] in
/-- Breaking off the running dialog, or starting the story over, leaves the machine alone. -/
theorem resetIfPending_undriven (game : Game η ℓ) :
    game.resetIfPending.value.machine = game.machine ∧
      game.resetIfPending.value.loader = game.loader := by
  unfold resetIfPending
  split <;> exact ⟨rfl, rfl⟩

/-- The active state does its part of a tick. -/
theorem updateActive_stirs (game : Game η ℓ) (tick : Tick) :
    game.Stirs [] (game.updateActive tick).value := by
  have resumed : game.Stirs [] (game.resumeDialog tick).value.2 := .of_same rfl rfl
  unfold updateActive
  split
  · unfold updateTitle
    obtain ⟨machine, loader⟩ := game.resetIfPending_undriven
    split
    · exact (DrivesBy.of_same machine loader).then_silent (advanceScenario_stirs _)
    · exact .refl game
  · unfold updateLoading
    split
    · split
      · exact game.requestState_stirs _
      · exact .refl game
    · exact .refl game
  · rw [updateEvent_value]
    split
    · exact resumed.then_silent (handOver_stirs _ _)
    · exact .refl game
  · rw [updateFreeRoam_value]
    split
    · refine resumed.then_silent (DrivesBy.then_silent ?_ (forwardRequest_stirs _))
      split
      · exact requestExploration_stirs _
      · exact .refl _
    · exact .refl game
  · split
    · exact game.requestState_stirs _
    · exact .refl game
  · exact .refl game

/-- What moves once the notices are told. -/
theorem proceed_drives (game : Game η ℓ) (tick : Tick) :
    game.Drives [] (game.proceed tick).value :=
  ((game.updateActive_stirs tick).drives.then_silent (processRequest_drives _)).then_silent
    (processSubRequest_stirs _).drives

omit [Host η] in
/-- Exploring. -/
theorem explore_stirs (game : Game η ℓ) : game.Stirs [] game.explore.value := by
  obtain same | ⟨sub, roaming, known, value⟩ := game.explore_cases
  · rw [same]
    exact .refl game
  · rw [value]
    exact withSubMachine_switch_stirs roaming known

/-- The reaction to entering free roam. -/
theorem onFreeRoamEntered_stirs (game : Game η ℓ) :
    game.Stirs [] game.onFreeRoamEntered.value := by
  obtain ⟨machine, loader⟩ := game.resetIfPending_undriven
  obtain ⟨event, value⟩ | value := game.onFreeRoamEntered_cases
  · rw [value]
    exact .of_same machine loader
  · rw [value]
    exact (DrivesBy.of_same machine loader).then_silent (explore_stirs _)

/-- The reaction to entering the event state. -/
theorem onEventEntered_stirs (game : Game η ℓ) : game.Stirs [] game.onEventEntered.value := by
  unfold onEventEntered
  cases game.storyline.dialog with
  | none => exact .refl game
  | some name =>
    dsimp only
    cases game.bundle.dialog name with
    | error _ => exact .refl game
    | ok dialog =>
      dsimp only
      cases accepted : game.startDialog dialog with
      | error error => exact .refl game
      | ok started =>
        have begun : game.Stirs [] started.value.2 :=
          .of_same (startDialog_keeps accepted).1 (startDialog_loader accepted)
        exact begun.then_silent (handOver_stirs _ _)

/-- A reaction. -/
theorem react_stirs (game : Game η ℓ) (notice : Notice) :
    game.Stirs [] (game.react notice).value := by
  unfold react
  rw [Logged.value_bind]
  cases notice with
  | entered kind =>
    cases kind with
    | freeRoam => exact game.onFreeRoamEntered_stirs
    | event => exact game.onEventEntered_stirs
    | _ => exact .of_same rfl rfl
  | exited kind => cases kind <;> exact .of_same rfl rfl
  | subExited kind => cases kind <;> exact .of_same rfl rfl
  | _ => exact .refl game

/-- Reactions in order. -/
theorem reactAll_stirs (game : Game η ℓ) (notices : List Notice) :
    game.Stirs [] (game.reactAll notices).value := by
  induction notices generalizing game with
  | nil => exact .refl game
  | cons notice rest ih => exact (game.react_stirs notice).then_silent (ih _)

/-- Batches of reactions take the notices that they tell. -/
theorem reactBatches_stirs (bound : Nat) (game : Game η ℓ) :
    game.Stirs ((game.batchesTrace batchTellings bound).map Telling.notice)
      (reactBatches bound game).value := by
  induction bound generalizing game with
  | zero => exact .refl game
  | succ bound ih =>
    have taken := game.withMachine_taken_stirs
    unfold reactBatches batchesTrace batchTellings
    dsimp only
    by_cases empty : game.machine.takeNotices.1.isEmpty = true
    · rw [if_pos empty, if_pos empty]
      rw [List.isEmpty_iff.1 empty] at taken
      exact taken
    · rw [if_neg empty, if_neg empty, List.map_append, List.map_map]
      have told : game.machine.takeNotices.1.map (Telling.notice ∘ Telling.mk game) =
          game.machine.takeNotices.1 := List.map_id _
      rw [told]
      exact (taken.then_silent (reactAll_stirs _ _)).trans (ih _)

/-- Settling takes the notices that it tells. -/
theorem settle_stirs (game : Game η ℓ) :
    game.Stirs (game.settleTellings.map Telling.notice) game.settle.value :=
  game.reactBatches_stirs 3

/-- The first half of a tick takes the notices that it tells. -/
theorem ready_drives (game : Game η ℓ) :
    game.Drives (game.pollScene.value.settleTellings.map Telling.notice) game.ready :=
  game.pollScene_drives.trans (settle_stirs _).drives

/-- A tick takes the notices that it tells. -/
theorem tick_drives (game : Game η ℓ) (tick : Tick) :
    game.Drives ((game.tickTellings tick).map Telling.notice) (game.tick tick).value := by
  unfold tickTellings
  rw [List.map_append]
  exact (game.ready_drives.then_silent (proceed_drives _ tick)).trans (settle_stirs _).drives

omit [Host η] in
/-- A conversation that joins free roam. -/
theorem joined_stirs {sub : SubMachine} (roaming : game.machine.freeRoam = .ok sub)
    (known : sub.isRegistered .dialog = true) (progress : Progress) :
    game.Stirs [] (game.joined sub progress) := by
  obtain ⟨active, found⟩ := Machine.freeRoam_eq_ok_iff.1 roaming
  have switched := withSubMachine_switch_stirs roaming known
  refine DrivesBy.then_silent (DrivesBy.then_silent switched ?_) (forwardRequest_stirs _)
  unfold SubMachine.joined
  split
  · have roams : (game.withSubMachine (sub.exit.enter .dialog)).machine.freeRoam =
        .ok (sub.exit.enter .dialog) :=
      Machine.freeRoam_eq_ok_iff.2 ⟨(Machine.active?_withSubMachine _ _).trans active,
        Machine.subMachine?_withSubMachine found _⟩
    have replaced (other : SubMachine) :
        (game.withSubMachine (sub.exit.enter .dialog)).withSubMachine other =
          game.withSubMachine other :=
      congrArg game.withMachine (Machine.withSubMachine_withSubMachine _ _ other)
    have asked := withSubMachine_request_stirs roams .exploration
    rw [replaced] at asked
    exact asked
  · exact .refl _

/-- Every operation takes the notices that it tells. -/
theorem apply_drives (game : Game η ℓ) (operation : Operation η ℓ) :
    game.Drives ((game.tellings operation).map Telling.notice) (game.apply operation) := by
  cases operation with
  | tick tick => exact game.tick_drives tick
  | talkTo character =>
    obtain ⟨same, silent⟩ |
        ⟨sub, turned, progress, approachable, machine, loader, -, value, told⟩ :=
      game.talkTo_told character
    · change game.Drives ((game.talkTellings character).map _) (game.talkTo character).value.2
      rw [same, silent]
      exact .refl game
    · obtain ⟨roaming, -, known⟩ := approachable_cases approachable
      change game.Drives ((game.talkTellings character).map _) (game.talkTo character).value.2
      rw [value, told]
      have begun : game.Stirs [] turned := .of_same machine loader
      have joined : game.Stirs [] (turned.joined sub progress) :=
        begun.then_silent (joined_stirs (machine ▸ roaming) known progress)
      exact Stirs.drives (joined.trans (settle_stirs _))
  | openMenu => exact (game.requestSubState_stirs .menu).drives
  | closeMenu => exact (game.requestSubState_stirs .exploration).drives
  | requestState request => exact (game.requestState_stirs request).drives
  | advanceScenario => exact game.advanceScenario_stirs.drives
  | loader change => exact .of_outcome (.loader change) nofun rfl rfl rfl
  | _ => exact .of_same rfl rfl

/-- Operations in order take the notices that they tell. -/
theorem runAll_drives (game : Game η ℓ) (operations : List (Operation η ℓ)) :
    game.Drives ((game.runTellings operations).map Telling.notice) (game.runAll operations) := by
  induction operations generalizing game with
  | nil => exact .refl game
  | cons operation rest ih =>
    unfold runTellings
    rw [List.map_append]
    exact (game.apply_drives operation).trans (ih _)

/-- The loading state is not the first state. -/
theorem opened_elsewhere {bundle : Bundle} {config : Config} {host : η} {loader : ℓ}
    {opened : Game η ℓ} (valid : (Game.ofBundle bundle config host loader).value = .ok opened) :
    opened.machine.current ≠ some .loading := by
  obtain ⟨machine, entered, rfl⟩ := ofBundle_cases valid
  obtain ⟨vacant, told⟩ := Machine.ofPlan_vacant config.states config.tracing
  have change := Machine.enterState_moved vacant.sound (Machine.told_of_queue told) entered
  obtain ⟨real, -⟩ := (Machine.ofPlan_built config.states config.tracing).lookup_ok
    (Machine.enterState_known entered)
  let storyline := ((Storyline.empty config.tracing).load bundle.scenario).value
  let started := unopened bundle config machine storyline host loader
  obtain ⟨stays, -⟩ := Stirs.stays started.settle_stirs
  intro loading
  exact real (Option.some.inj ((stays.current.trans change.current).symm.trans loading))

/-- The states of a game's machine are those of its plan throughout. -/
theorem runAll_built {bundle : Bundle} {config : Config} {host : η} {loader : ℓ}
    {opened : Game η ℓ} (valid : (Game.ofBundle bundle config host loader).value = .ok opened)
    (operations : List (Operation η ℓ)) :
    (opened.runAll operations).machine.Built config.states := by
  obtain ⟨machine, entered, rfl⟩ := ofBundle_cases valid
  obtain ⟨vacant, told⟩ := Machine.ofPlan_vacant config.states config.tracing
  have silent := Machine.told_of_queue told
  have change := Machine.enterState_moved vacant.sound silent entered
  obtain ⟨built, -⟩ := Machine.enterState_entered vacant.sound silent
    (Machine.ofPlan_built config.states config.tracing) entered
  let storyline := ((Storyline.empty config.tracing).load bundle.scenario).value
  let started := unopened bundle config machine storyline host loader
  have drives : started.Drives _ (started.settle.value.runAll operations) :=
    started.settle_stirs.drives.trans (runAll_drives started.settle.value operations)
  exact drives.built change.sound (fun _ => change.told) built

end Game

end Narrative
