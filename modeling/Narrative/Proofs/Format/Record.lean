import Narrative.Format.Record
import Narrative.Proofs.Format.Keeping

/-!
# What records keep

A record keeps the values of its fields when its fields have different names and each keeps its
value. The members of a field are taken in by that field only, whatever members of other names
stand beside them, and a field that was left out is completed with the value it has then.
-/

namespace Narrative

namespace Layout

variable {types : List Type}

/-- Whether each field keeps its value. -/
def Keeps {types : List Type} (depth : Nat) : Layout types → Values types → Prop
  | .done, () => True
  | .field first others, (value, values) =>
    first.format.Keeps depth value ∧ others.Keeps depth values

/-- The written members stand for the values. -/
theorem storesMembers_written {layout : Layout types} {values : Values types} {depth : Nat}
    (keeps : layout.Keeps depth values) :
    layout.storesMembers values (layout.writeMembers values) := by
  induction layout with
  | done => rfl
  | field first others ih =>
    obtain ⟨kept, keeps⟩ := keeps
    exact .inl ⟨_, _, rfl, kept.written, ih keeps⟩

/-- Members that stand for the fields have their names. -/
theorem name_mem_of_storesMembers {layout : Layout types} {values : Values types}
    {members : List (String × Json)} (stored : layout.storesMembers values members)
    {member : String × Json} (within : member ∈ members) : member.1 ∈ layout.names := by
  induction layout generalizing members with
  | done =>
    obtain rfl : members = [] := stored
    cases within
  | field first others ih =>
    obtain ⟨document, rest, rfl, _, stored⟩ | ⟨_, stored⟩ := stored
    · obtain rfl | later := List.mem_cons.1 within
      · exact List.mem_cons_self
      · exact List.mem_cons_of_mem _ (ih stored later)
    · exact List.mem_cons_of_mem _ (ih stored within)

/-- Members that stand for kept values are plain. -/
theorem havePlain_of_storesMembers {layout : Layout types} {values : Values types} {depth : Nat}
    {members : List (String × Json)} (keeps : layout.Keeps depth values)
    (stored : layout.storesMembers values members) : Json.HavePlain depth members := by
  induction layout generalizing members with
  | done =>
    obtain rfl : members = [] := stored
    simp [Json.HavePlain]
  | field first others ih =>
    obtain ⟨kept, keeps⟩ := keeps
    obtain ⟨document, rest, rfl, held, stored⟩ | ⟨_, stored⟩ := stored
    · exact ⟨kept.plain held, ih keeps stored⟩
    · exact ih keeps stored

/-- A member of a name that no field has is passed over. -/
theorem accept_of_notMem {types : List Type} {arrival : Arrival} {name : String}
    {document : Json} : ∀ {layout : Layout types} {slots : Slots types}, name ∉ layout.names →
      layout.accept arrival name document slots = .ok slots
  | .done, (), _ => rfl
  | .field first others, (slot, slots), foreign => by
    have unlike : name ≠ first.name := fun same => foreign (same ▸ List.mem_cons_self)
    have later : name ∉ others.names := fun member => foreign (List.mem_cons_of_mem _ member)
    simp only [accept, unlike, if_false, accept_of_notMem later]
    rfl

/-- Members of names that no field has are passed over. -/
theorem acceptAll_of_notMem {layout : Layout types} {arrival : Arrival} {slots : Slots types}
    {members : List (String × Json)} (foreign : ∀ member ∈ members, member.1 ∉ layout.names) :
    layout.acceptAll arrival members slots = .ok slots := by
  induction members with
  | nil => rfl
  | cons member members ih =>
    have passed := ih fun other within => foreign other (List.mem_cons_of_mem _ within)
    simp only [acceptAll, accept_of_notMem (foreign member List.mem_cons_self)]
    exact passed

/-- Members are taken in one after another. -/
theorem acceptAll_append {layout : Layout types} {arrival : Arrival} {slots taken : Slots types}
    {earlier later : List (String × Json)}
    (accepted : layout.acceptAll arrival earlier slots = .ok taken) :
    layout.acceptAll arrival (earlier ++ later) slots = layout.acceptAll arrival later taken := by
  induction earlier generalizing slots with
  | nil =>
    obtain rfl := Except.ok.inj accepted
    rfl
  | cons member members ih =>
    simp only [acceptAll, List.cons_append] at accepted ⊢
    cases first : layout.accept arrival member.1 member.2 slots with
    | error fault =>
      rw [first] at accepted
      cases accepted
    | ok next =>
      rw [first] at accepted
      exact ih accepted

/-- Members of other names than the first field are for the later ones. -/
theorem acceptAll_field {α : Type} {first : Field α} {others : Layout types} {arrival : Arrival}
    {slot : Option α} {slots taken : Slots types} {members : List (String × Json)}
    (unlike : ∀ member ∈ members, member.1 ≠ first.name)
    (accepted : others.acceptAll arrival members slots = .ok taken) :
    (Layout.field first others).acceptAll arrival members (slot, slots) = .ok (slot, taken) := by
  induction members generalizing slots with
  | nil =>
    obtain rfl := Except.ok.inj accepted
    rfl
  | cons member members ih =>
    have other : member.1 ≠ first.name := unlike member List.mem_cons_self
    simp only [acceptAll, accept, other, if_false] at accepted ⊢
    cases next : others.accept arrival member.1 member.2 slots with
    | error fault =>
      rw [next] at accepted
      cases accepted
    | ok now =>
      rw [next] at accepted
      exact ih (fun other within => unlike other (List.mem_cons_of_mem _ within)) accepted

/-- The members that stand for kept values are taken in, and completed to the values. -/
theorem acceptAll_stored {layout : Layout types} {values : Values types} {depth : Nat}
    {arrival : Arrival} {members : List (String × Json)} (distinct : layout.names.Nodup)
    (keeps : layout.Keeps depth values) (stored : layout.storesMembers values members) :
    ∃ taken, layout.acceptAll arrival members (Slots.empty types) = .ok taken ∧
      layout.complete taken = .ok values := by
  induction layout generalizing members with
  | done =>
    obtain rfl : members = [] := stored
    exact ⟨(), rfl, rfl⟩
  | @field α types first others ih =>
    obtain ⟨value, values⟩ := values
    obtain ⟨kept, keeps⟩ := keeps
    obtain ⟨alone, distinct⟩ := List.nodup_cons.1 distinct
    -- The members of the later fields leave the slot of the first one as it is.
    have later : ∀ {rest : List (String × Json)} (slot : Option α),
        others.storesMembers values rest → ∃ taken,
          (Layout.field first others).acceptAll arrival rest (slot, Slots.empty types) =
              .ok (slot, taken) ∧
            others.complete taken = .ok values := by
      intro rest slot stored
      obtain ⟨taken, accepted, complete⟩ := ih distinct keeps stored
      refine ⟨taken, acceptAll_field ?_ accepted, complete⟩
      intro member within same
      exact alone (same ▸ name_mem_of_storesMembers stored within)
    obtain ⟨document, rest, rfl, held, stored⟩ | ⟨absent, stored⟩ := stored
    · obtain ⟨taken, accepted, complete⟩ := later (some value) stored
      refine ⟨(some value, taken), ?_, ?_⟩
      · simp only [acceptAll, accept, if_true, Slots.empty, kept.read held]
        exact accepted
      · simp only [Layout.complete, Option.some_or, complete]
        rfl
    · obtain ⟨taken, accepted, complete⟩ := later none stored
      refine ⟨(none, taken), accepted, ?_⟩
      simp only [Layout.complete, absent, Option.none_or, complete]
      rfl

/-- Behind members of other names, the members that stand for kept values are read as the
values. -/
theorem readMembers_behind {layout : Layout types} {values : Values types} {depth : Nat}
    {foreign members : List (String × Json)} (arrival : Arrival) (distinct : layout.names.Nodup)
    (keeps : layout.Keeps depth values) (apart : ∀ member ∈ foreign, member.1 ∉ layout.names)
    (stored : layout.storesMembers values members) :
    layout.readMembers arrival (foreign ++ members) = .ok values := by
  obtain ⟨taken, accepted, complete⟩ := acceptAll_stored distinct keeps stored
  have all : layout.acceptAll arrival (foreign ++ members) (Slots.empty types) = .ok taken :=
    (acceptAll_append (acceptAll_of_notMem apart)).trans accepted
  unfold readMembers
  rw [all]
  exact complete

/-- The members that stand for kept values are read as the values. -/
theorem readMembers_stored {layout : Layout types} {values : Values types} {depth : Nat}
    {members : List (String × Json)} (arrival : Arrival) (distinct : layout.names.Nodup)
    (keeps : layout.Keeps depth values) (stored : layout.storesMembers values members) :
    layout.readMembers arrival members = .ok values := by
  have read := readMembers_behind arrival distinct keeps (List.forall_mem_nil _) stored
  exact read

end Layout

namespace Format

variable {α : Type} {types others : List Type}

/-- A record is kept when its fields keep their values. -/
theorem record_keeps {layout : Layout types} {pack : Values types → α}
    {unpack : α → Values types} {depth : Nat} {value : α} (distinct : layout.names.Nodup)
    (keeps : layout.Keeps depth (unpack value)) (inverse : pack (unpack value) = value) :
    (record layout pack unpack).Keeps (depth + 1) value := by
  constructor
  · exact ⟨_, rfl, Layout.storesMembers_written keeps⟩
  · rintro _ ⟨members, rfl, stored⟩ arrival
    show (layout.readMembers arrival members).map pack = _
    rw [Layout.readMembers_stored arrival distinct keeps stored]
    exact congrArg Except.ok inverse
  · rintro _ ⟨members, rfl, stored⟩
    exact Layout.havePlain_of_storesMembers keeps stored

/-- No record is null. -/
theorem record_solid {layout : Layout types} {pack : Values types → α}
    {unpack : α → Values types} : (record layout pack unpack).Solid :=
  fun _ => nofun

/-- A record whose fields stand in the object of another record is kept with it when the fields of
both keep their values and no two of them have one name. -/
theorem extended_keeps {base : Layout types} {own : Layout others}
    {pack : Values types → Values others → α} {unpack : α → Values types × Values others}
    {depth : Nat} {value : α} (distinct : (base.names ++ own.names).Nodup)
    (theirs : base.Keeps depth (unpack value).1) (ours : own.Keeps depth (unpack value).2)
    (inverse : pack (unpack value).1 (unpack value).2 = value) :
    (extended base own pack unpack).Keeps (depth + 1) value := by
  obtain ⟨first, second, disjoint⟩ := List.nodup_append.1 distinct
  constructor
  · exact ⟨_, _, rfl, Layout.storesMembers_written theirs, Layout.storesMembers_written ours⟩
  · rintro _ ⟨inherited, added, rfl, before, after⟩ arrival
    have apart : ∀ member ∈ inherited, member.1 ∉ own.names := by
      intro member within same
      exact disjoint _ (Layout.name_mem_of_storesMembers before within) _ same rfl
    -- The base sees the members of its own names only.
    have held : (inherited ++ added).filter (fun member => !own.names.contains member.1) =
        inherited := by
      rw [List.filter_append, List.filter_eq_self.2, List.filter_eq_nil_iff.2, List.append_nil]
      · intro member within
        simpa using Layout.name_mem_of_storesMembers after within
      · intro member within
        simpa using apart member within
    have readable : Json.haveReadable inherited = true :=
      Json.haveReadable_of_plain (Layout.havePlain_of_storesMembers theirs before)
    have readOurs := Layout.readMembers_behind arrival second ours apart after
    have readTheirs := Layout.readMembers_stored .held first theirs before
    unfold extended
    simp only [readOurs, held, readable, if_true]
    show ((base.readMembers .held inherited) >>= _) = _
    rw [readTheirs]
    exact congrArg Except.ok inverse
  · rintro _ ⟨inherited, added, rfl, before, after⟩
    exact Json.havePlain_append (Layout.havePlain_of_storesMembers theirs before)
      (Layout.havePlain_of_storesMembers ours after)

end Format

end Narrative
