import Narrative.Proofs.Machine.Stride

/-!
# The integrity of a machine

Whatever is done with a machine, at most its current state is active, an inactive one asks for
nothing and has no sub-state, and the loading state leads to a state that requires loading. A state
that is current without being active waits for its scene, or the loader has said that the scene
will never be there: the chronicle of the course, which holds every word between the machine and
the loader, ends with the load of its scene, answers that it is not there yet, and a failure.
-/

namespace Narrative

namespace Machine

variable {ℓ : Type} {plan : StatePlan} {machine : Machine}

/-- A chronicle that ends with a wait: a state was named, its scene was asked for, and as often as
the loader was asked about it, the answer was that it is not there yet. -/
def Awaits (plan : StatePlan) (chronicle : List Event) (kind : StateKind) (ticket : Ticket) :
    Prop :=
  ∃ (earlier : List Event) (source : Option StateKind) (scene : String) (transition : Transition)
    (answers : Nat), plan.scene? kind = some scene ∧
      chronicle = earlier ++ .notice (.changed source kind) :: .loads scene transition ticket ::
        List.replicate answers (.polls ticket .loading)

/-- A chronicle that ends with a wait in vain: at last the loader answered that the scene will
never be there. -/
def Failed (plan : StatePlan) (chronicle : List Event) (kind : StateKind) : Prop :=
  ∃ ticket waiting, Awaits plan waiting kind ticket ∧
    chronicle = waiting ++ [.polls ticket .failed]

variable {chronicle events : List Event} {kind : StateKind} {ticket : Ticket}

/-- A wait goes on while the scene is not there yet. -/
theorem Awaits.still (awaits : Awaits plan chronicle kind ticket) :
    Awaits plan (chronicle ++ [.polls ticket .loading]) kind ticket := by
  obtain ⟨earlier, source, scene, transition, answers, planned, rfl⟩ := awaits
  refine ⟨earlier, source, scene, transition, answers + 1, planned, ?_⟩
  rw [List.replicate_succ']
  simp

/-- A chronicle that explains why the current state of a machine is not active. -/
structure Explains (plan : StatePlan) (chronicle : List Event) (machine : Machine) : Prop where
  /-- While the machine waits, the chronicle ends with the wait. -/
  waits : ∀ ticket, machine.pending = some ticket →
    ∃ kind, machine.current = some kind ∧ Awaits plan chronicle kind ticket
  /-- Where it does not, the chronicle ends with a wait in vain. -/
  fails : ∀ kind, machine.current = some kind → machine.active? = none →
    machine.pending = none → Failed plan chronicle kind

/-- A chronicle explains the machine after a stride if it tells what happened meanwhile. -/
theorem Explains.stride {command : Command ℓ} {after : Machine}
    (explains : Explains plan chronicle machine) (sound : after.Sound)
    (stride : Stride plan command machine after events) :
    Explains plan (chronicle ++ events) after := by
  -- A state that is active needs no explanation, and asks for no scene.
  have active (arrived : after.active? ≠ none) (waitless : after.pending = none) :
      Explains plan (chronicle ++ events) after := by
    refine ⟨fun ticket waiting => ?_, fun kind _ inactive => absurd inactive arrived⟩
    rw [waitless] at waiting
    cases waiting
  cases stride with
  | still current pending active _ silent =>
    have unheard (inactive : after.active? = none) : chronicle ++ events = chronicle := by
      rw [silent (active.symm.trans inactive), List.append_nil]
    refine ⟨fun ticket waiting => ?_, fun kind named inactive waitless => ?_⟩
    · rw [unheard (sound.waits (by simp [waiting])), current]
      exact explains.waits ticket (pending.symm.trans waiting)
    · rw [unheard inactive]
      exact explains.fails kind (current.symm.trans named) (active.symm.trans inactive)
        (pending.symm.trans waitless)
  | enters _ pending entered _ _ => exact active (entered ▸ Option.some_ne_none _) pending
  | arrives _ _ _ _ _ pending entered _ => exact active (entered ▸ Option.some_ne_none _) pending
  | @asks target scene transition ticket current pending planned told =>
    refine ⟨fun other waiting => ?_, fun kind _ _ waitless => ?_⟩
    · obtain rfl := Option.some.inj (waiting.symm.trans pending)
      refine ⟨target, current, chronicle ++ machine.farewell.map Event.notice, machine.current,
        scene, transition, 0, planned, ?_⟩
      rw [told]
      simp
    · rw [pending] at waitless
      cases waitless
  | @waits ticket waiting current pending _ told =>
    refine ⟨fun other still => ?_, fun kind _ _ waitless => ?_⟩
    · obtain rfl := Option.some.inj (still.symm.trans pending)
      obtain ⟨kind, named, awaits⟩ := explains.waits other waiting
      exact ⟨kind, current.trans named, told ▸ awaits.still⟩
    · rw [pending] at waitless
      cases waitless
  | @fails ticket waiting current pending _ told =>
    refine ⟨fun other still => ?_, fun kind named _ _ => ?_⟩
    · rw [pending] at still
      cases still
    · obtain ⟨waited, known, awaits⟩ := explains.waits ticket waiting
      obtain rfl := Option.some.inj ((current.symm.trans named).symm.trans known)
      exact ⟨ticket, chronicle, awaits, by rw [told]⟩

variable [SceneLoader ℓ]

/-- Every operation leaves a machine as orderly as it was. -/
theorem Command.perform_orderly (sound : machine.Sound) (told : machine.Told)
    (loader : Overheard ℓ) (command : Command ℓ) :
    (command.perform machine loader).machine.Sound ∧
      (command.perform machine loader).machine.Told := by
  by_cases whole : command = .takeSubNotices
  · subst whole
    rw [perform]
    split
    · next sub roam =>
      refine ⟨sound.withSubMachine roam _, fun elsewhere => absurd ?_ elsewhere⟩
      exact (active?_withSubMachine ..).trans (freeRoam_eq_ok_iff.1 roam).1
    · exact ⟨sound, told⟩
  · obtain ⟨_, tells⟩ := perform_tells sound told loader whole
    exact ⟨tells.sound, tells.told⟩

/-- A machine that holds together. -/
structure Integral (plan : StatePlan) (machine : Machine) : Prop where
  /-- Only the current state is active. -/
  single : ∀ kind, machine.isActive kind = true → machine.current = some kind
  /-- A state that waits for its scene is not active. -/
  waits : machine.pending ≠ none → machine.active? = none
  /-- A state that is not active asks for nothing. -/
  silent : ∀ kind state, machine.state? kind = some state → state.active = false →
    state.request = none
  /-- Only free roam has sub-states. -/
  roaming : ∀ kind state, machine.state? kind = some state → state.subMachine ≠ none →
    kind = .freeRoam
  /-- A sub-state of free roam is current only while free roam is active. -/
  roams : ∀ sub, machine.subMachine? = some sub → sub.current ≠ none →
    machine.active? = some .freeRoam
  /-- Only the current sub-state is active or asks for anything, and it is active. -/
  subs : ∀ sub, machine.subMachine? = some sub → sub.Fits
  /-- No state is there twice. -/
  unique : machine.states.keys.Nodup
  /-- The states are those of the plan, but for the loading state. -/
  states : ∀ kind, kind ≠ .loading →
    (machine.state? kind ≠ none ↔ plan.registered.contains kind = true)
  /-- While the loading state is current, it leads to a state of the plan that requires loading. -/
  leads : machine.current = some .loading → ∃ target, machine.loadingTarget? = some target ∧
    target ≠ .loading ∧ plan.registered.contains target = true ∧
      plan.requiresLoading.contains target = true

/-- A machine that is built and sound holds together. -/
theorem Built.integral (built : machine.Built plan) (sound : machine.Sound) :
    machine.Integral plan where
  single := sound.single
  waits := sound.waits
  silent kind state known := (built.fits kind state known).silent
  roaming kind state known := (built.fits kind state known).roaming
  roams sub found current := by
    refine sound.roams ?_
    unfold subKind?
    rw [found]
    exact current
  subs sub found := built.sub_fits found
  unique := machine.states.keys_nodup
  states kind real := by
    refine ⟨fun there => ?_, built.present kind real⟩
    obtain ⟨state, known⟩ := Option.ne_none_iff_exists'.1 there
    exact (built.fits kind state known).known.resolve_left real
  leads current := by
    obtain ⟨state, known⟩ := Option.ne_none_iff_exists'.1 (built.standing .loading current)
    obtain ⟨target, led, listed⟩ := (built.fits .loading state known).leading rfl
    refine ⟨target, ?_, listed⟩
    unfold loadingTarget?
    rw [if_pos current, known]
    exact led

end Machine

open Machine (Command)

namespace Course

variable {ℓ : Type} {plan : StatePlan} {course : Course ℓ}

/-- A course of which the chronicle explains why the current state is not active. -/
structure Explained (plan : StatePlan) (course : Course ℓ) : Prop where
  /-- The standing of the machine is sound. -/
  sound : course.machine.Sound
  /-- The sub-states have something to tell only while free roam is active. -/
  told : course.machine.Told
  /-- The states are those of the plan. -/
  built : course.machine.Built plan
  /-- The chronicle explains the machine. -/
  explains : Machine.Explains plan course.chronicle course.machine

/-- Before the first operation there is nothing to explain. -/
theorem explained_start (plan : StatePlan) (tracing : Tracing) (loader : ℓ) :
    (start plan tracing loader).Explained plan :=
  let vacant := (Machine.ofPlan_vacant plan tracing).1
  ⟨vacant.sound, fun _ => vacant.told, Machine.ofPlan_built plan tracing, nofun, nofun⟩

variable [SceneLoader ℓ]

/-- A course stays explained with each operation. -/
theorem Explained.step (explained : course.Explained plan) (command : Command ℓ) :
    (course.step command).Explained plan := by
  obtain ⟨sound, told⟩ :=
    Command.perform_orderly explained.sound explained.told ⟨course.loader, []⟩ command
  obtain ⟨built, stride⟩ :=
    Command.perform_strides explained.sound explained.told explained.built course.loader command
  exact ⟨sound, told, built, explained.explains.stride sound stride⟩

/-- A course stays explained with operations in any order. -/
theorem Explained.runAll (explained : course.Explained plan) (commands : List (Command ℓ)) :
    (course.runAll commands).Explained plan := by
  induction commands generalizing course with
  | nil => exact explained
  | cons command rest ih => exact ih (explained.step command)

/-- Whatever is done with a machine and its loader, the machine holds together, and if its current
state neither is active nor waits for its scene, then the last that was heard of that scene is that
it will never be there. -/
theorem machine_integral (plan : StatePlan) (tracing : Tracing) (loader : ℓ)
    (commands : List (Command ℓ)) :
    let course := (start plan tracing loader).runAll commands
    course.machine.Integral plan ∧
      ∀ kind, course.machine.current = some kind → course.machine.active? = none →
        course.machine.pending = none → Machine.Failed plan course.chronicle kind := by
  intro course
  have explained : course.Explained plan := (explained_start plan tracing loader).runAll commands
  exact ⟨explained.built.integral explained.sound, explained.explains.fails⟩

/-- A loader that fails leaves the title current, inactive, and without a scene to wait for. -/
example :
    let course := (start .standard .standard ManualLoader.empty).runAll
      [.switchState .title, .pollScene, .loader ManualLoader.failAll, .pollScene]
    course.machine.current = some .title ∧ course.machine.active? = none ∧
      course.machine.pending = none ∧
        course.chronicle = [.notice (.changed none .title), .loads "MainTitleScene" .fade 0,
          .polls 0 .loading, .polls 0 .failed] := by
  decide +kernel

end Course

end Narrative
