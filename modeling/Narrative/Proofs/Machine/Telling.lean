import Narrative.Proofs.Machine.Course
import Narrative.Proofs.Machine.View
import Narrative.Scene.Loader

/-!
# What a machine tells

Every operation tells what it changes, in the order in which it changes it: what it adds to the
notices leads from the view of the machine before it to the view of the machine after it. So the
notices of a whole course, taken or still waiting, can be followed from the start, and the view
that follows is that of the machine.
-/

namespace Narrative

namespace SubMachine

/-- Sub-states that change as they tell: what they add to the notices leads from the sub-state
that was current to the one that is. -/
structure Tells (old sub : SubMachine) (news : List Notice) : Prop where
  /-- What was told before stays. -/
  notices : sub.notices = old.notices ++ news
  /-- What is told leads from one sub-state to the other while free roam is active. -/
  leads : ∀ view : View, view.active = some .freeRoam → view.sub = old.current →
    view.followAll news = some { view with sub := sub.current }

namespace Tells

variable {old middle sub : SubMachine} {first second : List Notice}

/-- Sub-states of which the same one is current tell nothing. -/
theorem of_same (current : sub.current = old.current) (notices : sub.notices = old.notices) :
    old.Tells sub [] where
  notices := by rw [notices, List.append_nil]
  leads view _ standing := by rw [current, ← standing, View.followAll_nil]

/-- Two changes in a row are told one after the other. -/
theorem trans (before : old.Tells middle first) (after : middle.Tells sub second) :
    old.Tells sub (first ++ second) where
  notices := by rw [after.notices, before.notices, List.append_assoc]
  leads view active standing := by
    rw [View.followAll_append, before.leads view active standing, Option.bind_some]
    exact after.leads _ active rfl

end Tells

/-- Leaving the current sub-state is told. -/
theorem exit_tells (machine : SubMachine) :
    machine.Tells machine.exit (machine.current.map Notice.subExited).toList where
  notices := machine.notices_exit
  leads view _ standing := by
    rw [current_exit]
    cases current : machine.current with
    | none =>
      have same : { view with sub := none } = view := by rw [← current, ← standing]
      exact congrArg some same.symm
    | some kind =>
      rw [current] at standing
      simp [View.follow, standing]

/-- Entering a sub-state where none is current is told. -/
theorem enter_tells (machine : SubMachine) (none : machine.current = none) (next : SubKind) :
    machine.Tells (machine.enter next) [.subEntered next] where
  notices := machine.notices_enter next
  leads view active standing := by
    rw [none] at standing
    simp [View.follow, active, standing]

/-- A switch to a sub-state that there is tells what is left and what is entered. -/
theorem switchTo_tells {machine sub : SubMachine} {next : SubKind}
    (switched : (machine.switchTo next).value = .ok sub) : ∃ news, machine.Tells sub news := by
  rw [switchTo_value] at switched
  split at switched
  · obtain rfl := Except.ok.inj switched
    exact ⟨_, machine.exit_tells.trans (machine.exit.enter_tells machine.current_exit next)⟩
  · cases switched

/-- A request that is made or dropped tells nothing. -/
theorem request_tells (machine : SubMachine) (next : SubKind) :
    machine.Tells (machine.request next).value [] :=
  .of_same (machine.request_keeps next).1 (machine.request_keeps next).2

theorem dropRequest_tells (machine : SubMachine) : machine.Tells machine.dropRequest [] :=
  .of_same machine.dropRequest_keeps.1 machine.dropRequest_keeps.2

/-- Meeting the request of the current sub-state tells the switch, if there is one. -/
theorem processRequest_tells (machine : SubMachine) :
    ∃ news, machine.Tells machine.processRequest.value.2 news := by
  unfold processRequest
  split
  · exact ⟨[], .of_same rfl rfl⟩
  · dsimp only
    rw [Logged.value_bind]
    split
    · next switched =>
      obtain ⟨news, tells⟩ := switchTo_tells switched
      exact ⟨_, machine.dropRequest_tells.trans tells⟩
    · exact ⟨[], machine.dropRequest_tells⟩

end SubMachine

namespace Machine

variable {ℓ : Type}

/-- What the notices of a machine are to tell. -/
def view (machine : Machine) : View :=
  ⟨machine.current, machine.previous, machine.active?, machine.subKind?⟩

/-- What leaving the current state tells leads to where nothing is active. -/
theorem followAll_farewell {machine : Machine} (sound : machine.Sound) :
    machine.view.followAll machine.farewell =
      some { machine.view with active := none, sub := none } := by
  unfold farewell
  cases roaming : machine.subKind? with
  | none =>
    cases active : machine.active? <;> simp [view, View.follow, roaming, active]
  | some kind =>
    have active := sound.roams (by simp [roaming])
    simp [view, View.follow, roaming, active]

/-- The view depends on the standing and on what was left last. -/
theorem view_congr {machine other : Machine} (agrees : machine.Agrees other)
    (previous : other.previous = machine.previous) : other.view = machine.view := by
  rw [view, view, agrees.current, previous, agrees.active?, agrees.subKind]

/-- An operation that tells what it does, and leaves a machine of which that holds again. -/
structure Tells (machine after : Machine) (news : List Notice) : Prop where
  /-- The standing is sound again. -/
  sound : after.Sound
  /-- The sub-states have something to tell only while free roam is active. -/
  told : after.Told
  /-- What was told before stays. -/
  queue : after.queue = machine.queue ++ news
  /-- What is told leads from one view to the other. -/
  leads : machine.view.followAll news = some after.view

/-- An operation after which only requests differ tells nothing. -/
theorem OnlyAsks.tells {machine other : Machine} (asks : machine.OnlyAsks other)
    (sound : machine.Sound) (told : machine.Told) : machine.Tells other [] where
  sound := asks.agrees.sound sound
  told := asks.told told
  queue := by rw [asks.queue, List.append_nil]
  leads := by rw [View.followAll_nil, view_congr asks.agrees (by rw [asks.rest])]

/-- Entering the current state, where nothing is active, leads to the view after it. -/
theorem followAll_entered {machine : Machine} (roamless : machine.subKind? = none) :
    View.followAll ⟨machine.current, machine.previous, none, none⟩
      (machine.active?.map Notice.entered).toList = some machine.view := by
  cases active : machine.active? with
  | none => simp [Machine.view, active, roamless]
  | some entered =>
    have same := (active?_eq_some_iff.1 active).1
    simp [Machine.view, View.follow, active, roamless, same]

/-- A change of state tells what was left, what became current, and whether it was entered. -/
theorem Moved.tells {machine moved : Machine} {target : StateKind} (sound : machine.Sound)
    (change : machine.Moved moved target) :
    machine.Tells moved (machine.farewell ++
      .changed machine.current target :: (moved.active?.map Notice.entered).toList) where
  sound := change.sound
  told _ := change.told
  queue := by rw [change.queue, List.append_assoc]
  leads := by
    rw [View.followAll_append, followAll_farewell sound, Option.bind_some, View.followAll_cons]
    have named : View.follow { machine.view with active := none, sub := none }
        (.changed machine.current target) =
          some ⟨moved.current, moved.previous, none, none⟩ := by
      simp [View.follow, view, change.current, change.previous]
    rw [named, Option.bind_some]
    exact followAll_entered change.roamless

/-- What sub-states of free roam tell is told by the machine. -/
theorem withSubMachine_tells {machine : Machine} {old sub : SubMachine} {news : List Notice}
    (sound : machine.Sound) (roam : machine.freeRoam = .ok old) (tells : old.Tells sub news) :
    machine.Tells (machine.withSubMachine sub) news := by
  obtain ⟨active, found⟩ := freeRoam_eq_ok_iff.1 roam
  have standing : machine.view.sub = old.current := by simp [view, subKind?, found]
  refine ⟨sound.withSubMachine roam sub, fun elsewhere => ?_, ?_, ?_⟩
  · rw [active?_withSubMachine] at elsewhere
    exact absurd active elsewhere
  · rw [queue_withSubMachine found, tells.notices]
    simp [queue, subNotices, found]
  · rw [tells.leads machine.view active standing]
    unfold view
    rw [active?_withSubMachine, subKind?_withSubMachine found]
    rfl

section Commands

variable {machine : Machine}

/-- An outcome of which all was told: what was taken, and what still waits. -/
structure Outcome.Tells (machine : Machine) (outcome : Outcome ℓ) (news : List Notice) : Prop where
  /-- The standing is sound again. -/
  sound : outcome.machine.Sound
  /-- The sub-states have something to tell only while free roam is active. -/
  told : outcome.machine.Told
  /-- What was told before stays. -/
  log : outcome.taken ++ outcome.machine.queue = machine.queue ++ news
  /-- What is told leads from one view to the other. -/
  leads : machine.view.followAll news = some outcome.machine.view

namespace Outcome

/-- Where no notice is taken, it is the machine that tells. -/
theorem tells_of_machine {outcome : Outcome ℓ} (untaken : outcome.taken = [])
    (tells : ∃ news, machine.Tells outcome.machine news) : ∃ news, Tells machine outcome news := by
  obtain ⟨news, sound, told, queue, leads⟩ := tells
  exact ⟨news, sound, told, by rw [untaken, List.nil_append, queue], leads⟩

/-- A change of state is told, and so is that none was made. -/
theorem ofMove_tells (sound : machine.Sound) (told : machine.Told) (loader : ℓ)
    {result : Except MachineError (Machine × ℓ)}
    (moves : ∀ moved left, result = .ok (moved, left) → ∃ target, machine.Moved moved target) :
    ∃ news, Tells machine (ofMove machine loader result) news := by
  cases result with
  | error _ => exact tells_of_machine rfl ⟨[], (OnlyAsks.refl machine).tells sound told⟩
  | ok result =>
    obtain ⟨target, change⟩ := moves _ _ rfl
    exact tells_of_machine rfl ⟨_, change.tells sound⟩

/-- A change of the sub-states is told, and so is that none was made. -/
theorem ofSub_tells (sound : machine.Sound) (told : machine.Told) (loader : ℓ)
    {change : SubMachine → SubMachine × Option MachineError}
    (tells : ∀ sub : SubMachine, ∃ news, sub.Tells (change sub).1 news) :
    ∃ news, Tells machine (ofSub machine loader change) news := by
  unfold ofSub
  split
  · next sub roam =>
    obtain ⟨news, tells⟩ := tells sub
    exact tells_of_machine rfl ⟨news, withSubMachine_tells sound roam tells⟩
  · exact tells_of_machine rfl ⟨[], (OnlyAsks.refl machine).tells sound told⟩

end Outcome

variable [SceneLoader ℓ]

/-- Asking for the scene of the current state tells whether the state was entered. -/
theorem pollScene_tells (sound : machine.Sound) (told : machine.Told) (loader : ℓ) :
    ∃ news, machine.Tells (machine.pollScene loader).value.1 news := by
  obtain same | ⟨inactive, after, current, previous, roamless, quiet, queue⟩ :=
    pollScene_cases sound told loader
  · rw [same]
    exact ⟨[], (OnlyAsks.refl machine).tells sound told⟩
  · refine ⟨_, after, fun _ => quiet, queue, ?_⟩
    have standing : machine.view = ⟨(machine.pollScene loader).value.1.current,
        (machine.pollScene loader).value.1.previous, none, none⟩ := by
      rw [view, current, previous, inactive, (farewell_eq_nil sound inactive).1]
    rw [standing]
    exact followAll_entered roamless

/-- Meeting the request of the current state tells the change, if there is one. -/
theorem processRequest_tells (sound : machine.Sound) (told : machine.Told) (loader : ℓ) :
    ∃ news, machine.Tells (machine.processRequest loader).value.2.1 news := by
  obtain asks | ⟨target, change⟩ := processRequest_cases sound told loader
  · exact ⟨[], asks.tells sound told⟩
  · exact ⟨_, change.tells sound⟩

/-- Every operation tells what it does, in the order in which it does it, as long as nobody takes
the notices of the sub-states apart. -/
theorem Command.perform_tells (sound : machine.Sound) (told : machine.Told)
    (loader : Overheard ℓ) {command : Command ℓ} (whole : command ≠ .takeSubNotices) :
    ∃ news, Outcome.Tells machine (command.perform machine loader) news := by
  cases command with
  | enterState kind =>
    refine Outcome.ofMove_tells sound told loader fun moved left entered => ⟨kind, ?_⟩
    cases known : (machine.enterState kind).value with
    | error _ => rw [known] at entered; cases entered
    | ok arrived =>
      rw [known] at entered
      obtain ⟨rfl, -⟩ := Prod.mk.inj (Except.ok.inj entered)
      exact enterState_moved sound told known
  | switchState next =>
    exact Outcome.ofMove_tells sound told loader fun moved left switched =>
      fulfil_moved sound told (.switch next) loader switched
  | enterScene next =>
    exact Outcome.ofMove_tells sound told loader fun moved left entered =>
      fulfil_moved sound told (.enterScene next) loader entered
  | pollScene => exact Outcome.tells_of_machine rfl (pollScene_tells sound told loader)
  | request next =>
    exact Outcome.tells_of_machine rfl ⟨[], (machine.request_onlyAsks next).tells sound told⟩
  | processRequest => exact Outcome.tells_of_machine rfl (processRequest_tells sound told loader)
  | switchSub next =>
    refine Outcome.ofSub_tells sound told loader fun sub => ?_
    split
    · next switched => exact SubMachine.switchTo_tells switched
    · exact ⟨[], .of_same rfl rfl⟩
  | exitSub =>
    rw [perform]
    refine Outcome.ofSub_tells sound told loader fun sub => ?_
    exact ⟨_, sub.exit_tells⟩
  | requestSub next =>
    rw [perform]
    refine Outcome.ofSub_tells sound told loader fun sub => ?_
    exact ⟨[], sub.request_tells next⟩
  | processSub =>
    rw [perform]
    refine Outcome.ofSub_tells sound told loader fun sub => ?_
    exact sub.processRequest_tells
  | takeNotices =>
    have agrees := machine.agrees_takeNotices
    refine ⟨[], agrees.sound sound, told_of_queue machine.queue_takeNotices, ?_, ?_⟩
    · change machine.takeNotices.1 ++ machine.takeNotices.2.queue = machine.queue ++ []
      rw [takeNotices_fst, queue_takeNotices]
    · rw [View.followAll_nil]
      exact congrArg some (view_congr agrees machine.previous_takeNotices).symm
  | takeSubNotices => exact absurd rfl whole
  | loader change =>
    exact Outcome.tells_of_machine rfl ⟨[], (OnlyAsks.refl machine).tells sound told⟩

/-- A request of free roam's sub-state that is refused is used up. -/
theorem processSub_refused {sub : SubMachine} {error : MachineError}
    (refused : refusal sub.processRequest.value.1 = some error) :
    sub.processRequest.value.2 = sub.dropRequest := by
  unfold SubMachine.processRequest at refused ⊢
  split
  · next quiet =>
    rw [quiet] at refused
    cases refused
  · next next asked =>
    simp only [asked, Logged.value_bind] at refused ⊢
    split
    · next switched =>
      rw [switched] at refused
      cases refused
    · rfl

/-- What is left of a machine of which an operation was refused: all is as it was, but for the
request that was used up. -/
def Spares (machine after : Machine) (command : Command ℓ) : Prop :=
  after = machine ∨
    command = .processRequest ∧ after = machine.dropRequest ∨
      command = .processSub ∧
        ∃ sub, machine.freeRoam = .ok sub ∧ after = machine.withSubMachine sub.dropRequest

/-- An operation that is refused asks nothing of the loader, takes no notice, and leaves the
machine as it was but for the request that it used up. -/
theorem Command.perform_refused {loader : Overheard ℓ} {command : Command ℓ} {error : MachineError}
    (refused : (command.perform machine loader).error = some error) :
    ∃ after, command.perform machine loader = ⟨after, loader, some error, []⟩ ∧
      machine.Spares after command := by
  have moving (asked : Machine) (result : Except MachineError (Machine × Overheard ℓ))
      (refused : (Outcome.ofMove asked loader result).error = some error) :
      Outcome.ofMove asked loader result = ⟨asked, loader, some error, []⟩ := by
    cases result with
    | ok moved => cases refused
    | error other =>
      obtain rfl := Option.some.inj refused
      rfl
  have changing (change : SubMachine → SubMachine × Option MachineError)
      (refused : (Outcome.ofSub machine loader change).error = some error)
      (spares : ∀ sub, machine.freeRoam = .ok sub → (change sub).2 = some error →
        machine.Spares (machine.withSubMachine (change sub).1) command) :
      ∃ after, Outcome.ofSub machine loader change = ⟨after, loader, some error, []⟩ ∧
        machine.Spares after command := by
    unfold Outcome.ofSub at refused ⊢
    split
    · next sub roam =>
      rw [roam] at refused
      change (change sub).2 = some error at refused
      exact ⟨_, by rw [← refused], spares sub roam refused⟩
    · next other elsewhere =>
      rw [elsewhere] at refused
      obtain rfl := Option.some.inj refused
      exact ⟨_, rfl, .inl rfl⟩
  cases command with
  | enterState kind => exact ⟨_, moving _ _ refused, .inl rfl⟩
  | switchState next => exact ⟨_, moving _ _ refused, .inl rfl⟩
  | enterScene next => exact ⟨_, moving _ _ refused, .inl rfl⟩
  | processRequest =>
    rw [perform_processRequest] at refused ⊢
    split at refused
    · cases refused
    · exact ⟨_, moving _ _ refused, .inr (.inl ⟨rfl, rfl⟩)⟩
  | switchSub next =>
    refine changing _ refused fun sub roam refused => .inl ?_
    split at refused
    · cases refused
    · exact withSubMachine_of_found (freeRoam_eq_ok_iff.1 roam).2
  | processSub =>
    refine changing _ refused fun sub roam refused => .inr (.inr ⟨rfl, sub, roam, ?_⟩)
    exact congrArg machine.withSubMachine (processSub_refused refused)
  | exitSub => exact changing _ refused fun _ _ refused => by cases refused
  | requestSub next => exact changing _ refused fun _ _ refused => by cases refused
  | pollScene => cases refused
  | request next => cases refused
  | takeNotices => cases refused
  | takeSubNotices =>
    rw [perform] at refused ⊢
    cases roam : machine.freeRoam with
    | ok sub =>
      rw [roam] at refused
      cases refused
    | error other =>
      rw [roam] at refused
      obtain rfl := Option.some.inj refused
      exact ⟨machine, rfl, .inl rfl⟩
  | loader change => cases refused

omit [SceneLoader ℓ] in
/-- What is spared tells nothing. -/
theorem Spares.queue {after : Machine} {command : Command ℓ}
    (spares : machine.Spares after command) : after.queue = machine.queue := by
  obtain rfl | ⟨-, rfl⟩ | ⟨-, sub, roam, rfl⟩ := spares
  · rfl
  · exact machine.dropRequest_onlyAsks.queue
  · obtain ⟨-, found⟩ := freeRoam_eq_ok_iff.1 roam
    exact queue_withSubMachine_of_same found sub.dropRequest_keeps.2

end Commands

end Machine

open Machine (Command)

namespace Course

variable {ℓ : Type} [SceneLoader ℓ]

/-- A course all of which was told. -/
structure Faithful (course : Course ℓ) : Prop where
  /-- The standing of the machine is sound. -/
  sound : course.machine.Sound
  /-- The sub-states have something to tell only while free roam is active. -/
  told : course.machine.Told
  /-- What was told can be followed, and leads to the machine. -/
  followed : View.empty.followAll course.log = some course.machine.view

omit [SceneLoader ℓ] in
/-- A machine that was not used has told nothing. -/
theorem faithful_start (plan : StatePlan) (tracing : Tracing) (loader : ℓ) :
    (start plan tracing loader).Faithful := by
  obtain ⟨vacant, silent⟩ := Machine.ofPlan_vacant plan tracing
  refine ⟨vacant.sound, fun _ => vacant.told, ?_⟩
  have view : (Machine.ofPlan plan tracing).view = View.empty := by
    rw [Machine.view, Machine.active?_eq_none_of_inactive vacant.inactive, vacant.roamless]
    rfl
  change View.empty.followAll ([] ++ (Machine.ofPlan plan tracing).queue) =
    some (Machine.ofPlan plan tracing).view
  rw [silent, view]
  rfl

/-- Each operation adds what it tells to what was told before, and leaves the machine as orderly as
it was. -/
theorem step_tells (course : Course ℓ) (sound : course.machine.Sound) (told : course.machine.Told)
    {command : Command ℓ} (whole : command ≠ .takeSubNotices) :
    (course.step command).machine.Sound ∧ (course.step command).machine.Told ∧
      ∃ news, (course.step command).log = course.log ++ news ∧
        course.machine.view.followAll news = some (course.step command).machine.view := by
  obtain ⟨news, tells⟩ := Command.perform_tells sound told ⟨course.loader, []⟩ whole
  refine ⟨tells.sound, tells.told, news, ?_, tells.leads⟩
  change course.taken ++ (course.outcome command).taken ++ (course.outcome command).machine.queue =
    course.taken ++ course.machine.queue ++ news
  rw [List.append_assoc, List.append_assoc]
  exact congrArg _ tells.log

/-- Operations in any order add what they tell to what was told before, and leave the machine as
orderly as it was. -/
theorem runAll_tells (course : Course ℓ) (sound : course.machine.Sound)
    (told : course.machine.Told) {commands : List (Command ℓ)}
    (whole : .takeSubNotices ∉ commands) :
    (course.runAll commands).machine.Sound ∧ (course.runAll commands).machine.Told ∧
      ∃ news, (course.runAll commands).log = course.log ++ news ∧
        course.machine.view.followAll news = some (course.runAll commands).machine.view := by
  induction commands generalizing course with
  | nil => exact ⟨sound, told, [], (List.append_nil _).symm, rfl⟩
  | cons command rest ih =>
    obtain ⟨first, later⟩ := List.ne_and_not_mem_of_not_mem_cons whole
    obtain ⟨sound, told, news, log, leads⟩ := course.step_tells sound told (Ne.symm first)
    obtain ⟨sound, told, others, grown, follows⟩ := ih _ sound told later
    refine ⟨sound, told, news ++ others, ?_, ?_⟩
    · rw [← List.append_assoc, ← log]
      exact grown
    · rw [View.followAll_append, leads]
      exact follows

/-- Each operation of a faithful course adds what it tells to what was told before. -/
theorem Faithful.news {course : Course ℓ} (faithful : course.Faithful) {command : Command ℓ}
    (whole : command ≠ .takeSubNotices) :
    ∃ news, (course.step command).log = course.log ++ news ∧
      course.machine.view.followAll news = some (course.step command).machine.view :=
  (course.step_tells faithful.sound faithful.told whole).2.2

/-- A course stays faithful with operations in any order. -/
theorem Faithful.runAll {course : Course ℓ} (faithful : course.Faithful)
    {commands : List (Command ℓ)} (whole : .takeSubNotices ∉ commands) :
    (course.runAll commands).Faithful := by
  obtain ⟨sound, told, news, log, leads⟩ := course.runAll_tells faithful.sound faithful.told whole
  refine ⟨sound, told, ?_⟩
  rw [log, View.followAll_append, faithful.followed, Option.bind_some, leads]

/-- An operation that is refused changes nothing but the request that it used up. -/
theorem step_refused {course : Course ℓ} {command : Command ℓ} {error : MachineError}
    (refused : (course.outcome command).error = some error) :
    (course.step command).log = course.log ∧
      ∃ after, course.machine.Spares after command ∧
        course.step command = { course with machine := after } := by
  obtain ⟨after, outcome, spares⟩ := Machine.Command.perform_refused refused
  have same : course.step command = { course with machine := after } := by
    have silent : Machine.Outcome.news course.machine
        ⟨after, (⟨course.loader, []⟩ : Machine.Overheard ℓ), some error, []⟩ = [] := by
      unfold Machine.Outcome.news
      rw [List.nil_append, spares.queue]
      exact List.drop_length
    unfold step
    rw [show course.outcome command = _ from outcome]
    dsimp only
    rw [silent, Command.inOrder_nil, List.append_nil, List.append_nil]
  refine ⟨?_, after, spares, same⟩
  rw [same]
  exact congrArg (course.taken ++ ·) spares.queue

/-- The notices of a machine are a faithful log. After any operations in any order, with notices
taken wherever, what was told so far can be followed from the start and leads to exactly the
machine that there is. States are entered and left in turn, and sub-states only during a stay in
free roam. Each further operation adds what leads to the machine after it; one that is refused
adds nothing, and changes nothing but the request that it used up. -/
theorem log_faithful (plan : StatePlan) (tracing : Tracing) (loader : ℓ)
    {commands : List (Command ℓ)} (whole : .takeSubNotices ∉ commands) :
    let course := (start plan tracing loader).runAll commands
    View.empty.followAll course.log =
        some ⟨course.machine.current, course.machine.previous, course.machine.active?,
          course.machine.subKind?⟩ ∧
      Bracketed course.log course.machine.active? course.machine.subKind? ∧
      ∀ command : Command ℓ, command ≠ .takeSubNotices →
        (∃ news, (course.step command).log = course.log ++ news ∧
            course.machine.view.followAll news = some (course.step command).machine.view) ∧
          ∀ error, (course.outcome command).error = some error →
            (course.step command).log = course.log ∧
              ∃ after, course.machine.Spares after command ∧
                course.step command = { course with machine := after } := by
  intro course
  have faithful : course.Faithful := (faithful_start plan tracing loader).runAll whole
  exact ⟨faithful.followed, View.bracketed_of_followAll faithful.followed, fun command whole =>
    ⟨faithful.news whole, fun _ refused => step_refused refused⟩⟩

/-- During a conversation in free roam the loading state is asked for by its name, which is refused;
the notices still tell where the machine is. -/
theorem log_faithful_refused :
    let commands : List (Command InstantLoader) :=
      [.enterState .freeRoam, .switchSub .dialog, .takeNotices, .request (.switch .loading),
        .processRequest]
    Command.takeSubNotices ∉ commands ∧
      ((start .standard .standard InstantLoader.empty).runAll commands).log =
        [.changed none .freeRoam, .entered .freeRoam, .subEntered .dialog] ∧
      View.empty.followAll ((start .standard .standard InstantLoader.empty).runAll commands).log =
        some ⟨some .freeRoam, none, some .freeRoam, some .dialog⟩ := by
  intro commands
  have whole : Command.takeSubNotices ∉ commands := by simp [commands]
  have log : ((start .standard .standard InstantLoader.empty).runAll commands).log =
      [.changed none .freeRoam, .entered .freeRoam, .subEntered .dialog] := by decide +kernel
  refine ⟨whole, log, ?_⟩
  refine (log_faithful .standard .standard InstantLoader.empty whole).1.trans ?_
  decide +kernel

end Course

end Narrative
