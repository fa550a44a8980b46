import Narrative.Proofs.History
import Narrative.Proofs.Machine.Integrity

/-!
# The deferral of entries

A state with a scene is not entered when it is named, but in a poll in which the loader answers that
the scene is there; and what the loader is asked about is the load of the last change, never an
earlier one. Both are read off the chronicle: each answer and each entry in it stands where the
chronicle before it gives a reason for it.
-/

namespace Narrative

namespace Machine

variable {ℓ : Type} {plan : StatePlan} {machine after : Machine} {past events : List Event}

/-- A chronicle after which a state may be entered: it has just been named, or the loader has just
answered that the scene it waits for is there. -/
def Reached (plan : StatePlan) (past : List Event) (kind : StateKind) : Prop :=
  (∃ earlier source, past = earlier ++ [.notice (.changed source kind)]) ∨
    ∃ waiting ticket phase, Awaits plan waiting kind ticket ∧ phase.isReady = true ∧
      past = waiting ++ [.polls ticket phase]

/-- An event for which the chronicle before it gives the reason. The loader is asked about a load
that is waited for, and a state is entered that was reached. -/
def Placed (plan : StatePlan) (past : List Event) : Event → Prop
  | .polls ticket _ => ∃ kind, Awaits plan past kind ticket
  | .notice (.entered kind) => Reached plan past kind
  | _ => True

/-- What leaving the current state tells needs no reason. -/
theorem justified_farewell (machine : Machine) :
    Justified (Placed plan) past (machine.farewell.map Event.notice) := by
  refine justified_of_free fun event told _ => ?_
  obtain ⟨notice, listed, rfl⟩ := List.mem_map.1 told
  obtain sub | left := List.mem_append.1 listed
  · obtain ⟨kind, -, rfl⟩ := Option.map_eq_some_iff.1 (Option.mem_toList.1 sub)
    trivial
  · obtain ⟨kind, -, rfl⟩ := Option.map_eq_some_iff.1 (Option.mem_toList.1 left)
    trivial

/-- Leaving the current state enters none. -/
theorem entered_notMem_farewell (machine : Machine) (kind : StateKind) :
    Event.notice (.entered kind) ∉ machine.farewell.map Event.notice := by
  simp [farewell]

/-- What happens in a stride has its reason. -/
theorem Explains.justified {command : Command ℓ} (explains : Explains plan past machine)
    (stride : Stride plan command machine after events) : Justified (Placed plan) past events := by
  cases stride with
  | still _ _ _ subs _ =>
    refine justified_of_free fun event told _ => ?_
    have sub := subs event told
    unfold Event.isSub at sub
    split at sub
    · trivial
    · trivial
    · cases sub
  | @enters target _ _ _ _ told =>
    rw [told]
    refine justified_append.2 ⟨justified_farewell machine, trivial, .inl ?_, trivial⟩
    exact ⟨_, machine.current, rfl⟩
  | asks _ _ _ told =>
    rw [told]
    exact justified_append.2 ⟨justified_farewell machine, trivial, trivial, trivial⟩
  | @waits ticket waiting _ _ _ told =>
    obtain ⟨kind, -, awaits⟩ := explains.waits ticket waiting
    rw [told]
    exact ⟨⟨kind, awaits⟩, trivial⟩
  | @fails ticket waiting _ _ _ told =>
    obtain ⟨kind, -, awaits⟩ := explains.waits ticket waiting
    rw [told]
    exact ⟨⟨kind, awaits⟩, trivial⟩
  | @arrives ticket kind phase _ waiting standing ready _ _ _ told =>
    obtain ⟨waited, known, awaits⟩ := explains.waits ticket waiting
    obtain rfl := Option.some.inj (standing.symm.trans known)
    rw [told]
    exact ⟨⟨kind, awaits⟩, .inr ⟨past, ticket, phase, awaits, ready, rfl⟩, trivial⟩

/-- The reasons for which a state is entered in an operation: it is the operation that passes over
the scene, the state has none, or the operation asks the loader about the load that the state waits
for, and the scene is there. -/
def EntryGrounds (plan : StatePlan) (past : List Event) (command : Command ℓ) (kind : StateKind)
    (events : List Event) : Prop :=
  command = .enterState kind ∨ plan.scene? kind = none ∨
    command = .pollScene ∧ ∃ ticket phase, Awaits plan past kind ticket ∧ phase.isReady = true ∧
      events = [.polls ticket phase, .notice (.entered kind)]

/-- In a stride a state becomes active only as it is entered. -/
theorem Stride.activates {command : Command ℓ} (sound : after.Sound)
    (stride : Stride plan command machine after events) {kind : StateKind}
    (active : after.active? = some kind) :
    machine.active? = some kind ∨ Event.notice (.entered kind) ∈ events := by
  cases stride with
  | still _ _ same _ _ => exact .inl (same ▸ active)
  | enters _ _ arrived _ told =>
    obtain rfl := Option.some.inj (active.symm.trans arrived)
    exact .inr (by simp [told])
  | asks _ pending _ _ =>
    rw [sound.waits (by simp [pending])] at active
    cases active
  | waits _ _ _ inactive _ =>
    rw [inactive] at active
    cases active
  | fails _ _ _ inactive _ =>
    rw [inactive] at active
    cases active
  | arrives _ _ _ _ _ _ arrived told =>
    obtain rfl := Option.some.inj (active.symm.trans arrived)
    exact .inr (by simp [told])

/-- A state that is entered in a stride is active after it, for one of the reasons there are. -/
theorem Stride.entry {command : Command ℓ} (explains : Explains plan past machine)
    (stride : Stride plan command machine after events) {kind : StateKind}
    (entered : Event.notice (.entered kind) ∈ events) :
    after.active? = some kind ∧ EntryGrounds plan past command kind events := by
  cases stride with
  | still _ _ _ subs _ => exact absurd (subs _ entered) Bool.false_ne_true
  | @enters target _ _ arrived cause told =>
    rw [told] at entered
    have same : kind = target := by simpa [entered_notMem_farewell] using entered
    rw [same]
    obtain sceneless | commanded := cause
    · exact ⟨arrived, .inr (.inl sceneless)⟩
    · exact ⟨arrived, .inl commanded⟩
  | asks _ _ _ told =>
    rw [told] at entered
    exact absurd entered (by simp [entered_notMem_farewell])
  | waits _ _ _ _ told =>
    rw [told] at entered
    exact absurd entered (by simp)
  | fails _ _ _ _ told =>
    rw [told] at entered
    exact absurd entered (by simp)
  | @arrives ticket kind phase asking waiting standing ready _ _ arrived told =>
    obtain ⟨waited, known, awaits⟩ := explains.waits ticket waiting
    obtain rfl := Option.some.inj (standing.symm.trans known)
    rw [told] at entered ⊢
    obtain rfl : _ = kind := by simpa using entered
    exact ⟨arrived, .inr (.inr ⟨asking, ticket, phase, awaits, ready, rfl⟩)⟩

/-- Between two entries a state is named: each entry belongs to a change of its own. -/
theorem Reached.renamed {earlier between : List Event} {first kind : StateKind}
    (reached : Reached plan (earlier ++ .notice (.entered first) :: between) kind) :
    ∃ source, Event.notice (.changed source kind) ∈ between := by
  obtain ⟨start, source, same⟩ | ⟨waiting, ticket, phase, awaits, -, same⟩ := reached
  · exact ⟨source, (suffix_of_notMem same (by simp)).subset (by simp)⟩
  · obtain ⟨start, source, scene, transition, answers, -, rfl⟩ := awaits
    rw [List.append_assoc] at same
    have ending := suffix_of_notMem same (by simp)
    exact ⟨source, ending.subset (by simp)⟩

/-- After a change the loader is asked only about a load that is no older than the change. -/
theorem Awaits.reloaded {earlier between : List Event} {source : Option StateKind}
    {target kind : StateKind} {ticket : Ticket}
    (awaits : Awaits plan (earlier ++ .notice (.changed source target) :: between) kind ticket) :
    ∃ scene transition, Event.loads scene transition ticket ∈ between := by
  obtain ⟨start, other, scene, transition, answers, -, same⟩ := awaits
  have ending := suffix_of_notMem (same.trans (List.append_cons ..)) (by simp)
  exact ⟨scene, transition, ending.subset (by simp)⟩

end Machine

open Machine (Command)

namespace Course

variable {ℓ : Type} {plan : StatePlan} {course : Course ℓ}

/-- A course all of whose chronicle has its reasons. -/
structure Grounded (plan : StatePlan) (course : Course ℓ) : Prop extends
    Explained plan course where
  /-- Each event stands where the chronicle before it gives the reason. -/
  placed : Justified (Machine.Placed plan) [] course.chronicle

variable [SceneLoader ℓ]

/-- The chronicle grows with each operation by what happens in its stride. -/
theorem Explained.stride (explained : course.Explained plan) (command : Command ℓ) :
    ∃ events, (course.step command).chronicle = course.chronicle ++ events ∧
      Machine.Stride plan command course.machine (course.step command).machine events :=
  let strides :=
    Command.perform_strides explained.sound explained.told explained.built course.loader command
  ⟨_, rfl, strides.stride⟩

/-- A course stays grounded with each operation. -/
theorem Grounded.step (grounded : course.Grounded plan) (command : Command ℓ) :
    (course.step command).Grounded plan := by
  obtain ⟨events, chronicle, stride⟩ := grounded.toExplained.stride command
  refine ⟨grounded.toExplained.step command, ?_⟩
  rw [chronicle]
  exact justified_append.2 ⟨grounded.placed, grounded.explains.justified stride⟩

/-- A course stays grounded with operations in any order. -/
theorem Grounded.runAll (grounded : course.Grounded plan) (commands : List (Command ℓ)) :
    (course.runAll commands).Grounded plan := by
  induction commands generalizing course with
  | nil => exact grounded
  | cons command rest ih => exact ih (grounded.step command)

/-- Entries are deferred. Whatever is done with a machine and its loader, a state becomes active in
an operation only as it is entered, and a state with a scene is entered, unless by the operation
that passes over the scene, only in a poll that asks about the load which the last change asked for
and hears that the scene is there. Each entry belongs to a change of its own; and once there was a
change, no load from before it is ever asked about again. -/
theorem entry_deferred (plan : StatePlan) (tracing : Tracing) (loader : ℓ)
    (commands : List (Command ℓ)) :
    let course := (start plan tracing loader).runAll commands
    (∀ command : Command ℓ, ∃ events,
      (course.step command).chronicle = course.chronicle ++ events ∧
        ∀ kind,
          ((course.step command).machine.active? = some kind →
            course.machine.active? = some kind ∨ .notice (.entered kind) ∈ events) ∧
          (.notice (.entered kind) ∈ events →
            (course.step command).machine.active? = some kind ∧
              Machine.EntryGrounds plan course.chronicle command kind events)) ∧
      (∀ earlier between later first kind,
        course.chronicle = earlier ++ .notice (.entered first) :: between ++
            .notice (.entered kind) :: later →
          ∃ source, .notice (.changed source kind) ∈ between) ∧
      ∀ earlier between later source target ticket phase,
        course.chronicle = earlier ++ .notice (.changed source target) :: between ++
            .polls ticket phase :: later →
          ∃ scene transition, .loads scene transition ticket ∈ between := by
  intro course
  have grounded : course.Grounded plan :=
    Grounded.runAll ⟨explained_start plan tracing loader, trivial⟩ commands
  refine ⟨fun command => ?_, ?_, ?_⟩
  · obtain ⟨events, chronicle, stride⟩ := grounded.toExplained.stride command
    have sound := (grounded.step command).sound
    exact ⟨events, chronicle, fun kind => ⟨stride.activates sound, stride.entry grounded.explains⟩⟩
  · intro earlier between later first kind split
    have reached : Machine.Reached plan (earlier ++ .notice (.entered first) :: between) kind :=
      (split ▸ grounded.placed).reason
    exact reached.renamed
  · intro earlier between later source target ticket phase split
    have placed : ∃ kind,
        Machine.Awaits plan (earlier ++ .notice (.changed source target) :: between) kind ticket :=
      (split ▸ grounded.placed).reason
    obtain ⟨kind, awaits⟩ := placed
    exact awaits.reloaded

/-- A load that a later change took the place of may well be done; nobody asks about it. -/
example :
    let course := (start .standard .standard ManualLoader.empty).runAll
      [.switchState .title, .switchState .freeRoam, .loader fun loader => loader.markReady 0,
        .pollScene, .loader fun loader => loader.markReady 1, .pollScene]
    course.machine.active? = some .freeRoam ∧
      course.chronicle = [.notice (.changed none .title), .loads "MainTitleScene" .fade 0,
        .notice (.changed (some .title) .freeRoam), .loads "FreeRoamScene" .fade 1,
        .polls 1 .loading, .polls 1 .sceneReady, .notice (.entered .freeRoam)] := by
  decide +kernel

end Course

end Narrative
