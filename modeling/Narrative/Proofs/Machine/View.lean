import Mathlib.Data.List.Induction
import Narrative.Machine.Notice

/-!
# What notices tell

Someone who sees nothing of a machine but its notices can follow it: from each notice a view of the
machine follows, and a notice that does not fit the view is refused. Notices that can be followed
are bracketed: states are entered and left in turn, and the sub-states between the entering and the
leaving of free roam likewise.
-/

namespace Narrative

/-- What notices tell about a machine. -/
structure View where
  /-- The state that is current. -/
  current : Option StateKind
  /-- The state before it. -/
  previous : Option StateKind
  /-- The state that is active. -/
  active : Option StateKind
  /-- The sub-state of free roam that is current. -/
  sub : Option SubKind
  deriving DecidableEq

namespace View

/-- The view before anything was told. -/
def empty : View := ⟨none, none, none, none⟩

/-- The view after a change, if the change is possible where it is told. A state is named while
none is active, entered after it was named, and left after its sub-state; a sub-state is entered
while free roam is active and no other one is current. -/
def follow (view : View) : Notice → Option View
  | .changed source target =>
    if view.current = source ∧ view.active = none then
      some { view with current := some target, previous := source }
    else none
  | .entered kind =>
    if view.current = some kind ∧ view.active = none then some { view with active := some kind }
    else none
  | .exited kind =>
    if view.active = some kind ∧ view.sub = none then some { view with active := none } else none
  | .subEntered kind =>
    if view.active = some .freeRoam ∧ view.sub = none then some { view with sub := some kind }
    else none
  | .subExited kind => if view.sub = some kind then some { view with sub := none } else none

/-- The view after changes in order, if each is possible where it is told. -/
def followAll (view : View) (notices : List Notice) : Option View := notices.foldlM follow view

@[simp]
theorem followAll_nil (view : View) : view.followAll [] = some view := rfl

@[simp]
theorem followAll_cons (view : View) (notice : Notice) (rest : List Notice) :
    view.followAll (notice :: rest) =
      (view.follow notice).bind fun after => after.followAll rest := rfl

/-- Changes in a row are followed one part after the other. -/
@[simp]
theorem followAll_append (view : View) (first second : List Notice) :
    view.followAll (first ++ second) =
      (view.followAll first).bind fun middle => middle.followAll second :=
  List.foldlM_append

end View

/-- A stay in a state, with the sub-states that were visited meanwhile. -/
structure Stay where
  /-- The state. -/
  kind : StateKind
  /-- The sub-states, in order. -/
  subs : List SubKind

/-- Visits of sub-states: each is entered, and left before the next. -/
def Stay.visits (subs : List SubKind) : List Notice :=
  subs.flatMap fun sub => [.subEntered sub, .subExited sub]

/-- A stay that is over: the state is entered, sub-states are visited, the state is left. -/
def Stay.notices (stay : Stay) : List Notice :=
  .entered stay.kind :: Stay.visits stay.subs ++ [.exited stay.kind]

/-- Whether a notice tells that a state or sub-state is entered or left. -/
def Notice.isBracket : Notice → Bool
  | changed _ _ => false
  | _ => true

/-- Notices that tell of stays one after the other, the last of which goes on in the active state
and its sub-state. Only during a stay in free roam are there sub-states. -/
def Bracketed (notices : List Notice) (active : Option StateKind) (sub : Option SubKind) : Prop :=
  ∃ (past : List Stay) (subs : List SubKind),
    (∀ stay ∈ past, stay.subs ≠ [] → stay.kind = .freeRoam) ∧
      (subs ≠ [] ∨ sub ≠ none → active = some .freeRoam) ∧
      notices.filter Notice.isBracket =
        past.flatMap Stay.notices ++ (active.map Notice.entered).toList ++ Stay.visits subs ++
          (sub.map Notice.subEntered).toList

namespace Bracketed

variable {before : List Notice} {view after : View}

/-- Notices that are followed stay bracketed with each further one. -/
theorem follow (bracketed : Bracketed before view.active view.sub) {notice : Notice}
    (followed : view.follow notice = some after) :
    Bracketed (before ++ [notice]) after.active after.sub := by
  obtain ⟨past, subs, placed, roaming, told⟩ := bracketed
  cases notice with
  | changed source target =>
    obtain ⟨-, same⟩ := Option.ite_none_right_eq_some.1 followed
    obtain rfl := Option.some.inj same
    refine ⟨past, subs, placed, roaming, ?_⟩
    rw [List.filter_append, told]
    simp [Notice.isBracket]
  | entered kind =>
    obtain ⟨⟨-, inactive⟩, same⟩ := Option.ite_none_right_eq_some.1 followed
    obtain rfl := Option.some.inj same
    -- Without an active state there are no sub-states to be told after it.
    rw [inactive] at roaming told
    have none : subs = [] ∧ view.sub = none := by
      by_contra some
      have roam := roaming (by tauto)
      cases roam
    obtain ⟨rfl, roamless⟩ := none
    refine ⟨past, [], placed, fun some => by simp [roamless] at some, ?_⟩
    rw [roamless] at told ⊢
    rw [List.filter_append, told]
    simp [Notice.isBracket, Stay.visits]
  | exited kind =>
    obtain ⟨⟨active, roamless⟩, same⟩ := Option.ite_none_right_eq_some.1 followed
    obtain rfl := Option.some.inj same
    rw [active, roamless] at roaming told
    refine ⟨past ++ [⟨kind, subs⟩], [], ?_, fun some => by simp [roamless] at some, ?_⟩
    · intro stay member visited
      obtain earlier | last := List.mem_append.1 member
      · exact placed stay earlier visited
      · obtain rfl := List.mem_singleton.1 last
        exact Option.some.inj (roaming (.inl visited))
    · rw [roamless, List.filter_append, told]
      simp [Notice.isBracket, Stay.notices, Stay.visits]
  | subEntered kind =>
    obtain ⟨⟨roam, roamless⟩, same⟩ := Option.ite_none_right_eq_some.1 followed
    obtain rfl := Option.some.inj same
    refine ⟨past, subs, placed, fun _ => roam, ?_⟩
    rw [roamless] at told
    rw [List.filter_append, told]
    simp [Notice.isBracket]
  | subExited kind =>
    obtain ⟨standing, same⟩ := Option.ite_none_right_eq_some.1 followed
    obtain rfl := Option.some.inj same
    refine ⟨past, subs ++ [kind], placed, fun _ => roaming (.inr (by simp [standing])), ?_⟩
    rw [standing] at told
    rw [List.filter_append, told]
    simp [Notice.isBracket, Stay.visits]

end Bracketed

/-- Notices that can be followed from the start are bracketed. -/
theorem View.bracketed_of_followAll {notices : List Notice} {view : View}
    (followed : View.empty.followAll notices = some view) :
    Bracketed notices view.active view.sub := by
  induction notices using List.reverseRecOn generalizing view with
  | nil =>
    obtain rfl := Option.some.inj followed
    exact ⟨[], [], nofun, fun some => by simp [View.empty] at some, rfl⟩
  | append_singleton before notice ih =>
    rw [View.followAll_append] at followed
    obtain ⟨middle, first, last⟩ := Option.bind_eq_some_iff.1 followed
    rw [View.followAll_cons] at last
    obtain ⟨after, next, same⟩ := Option.bind_eq_some_iff.1 last
    obtain rfl := Option.some.inj same
    exact (ih first).follow next

end Narrative
