import Narrative.Format.Basic
import Narrative.Proofs.Json.Plain
import Narrative.Proofs.SortedMap

/-!
# What formats keep

A format keeps a value when its written form stands for the value, whatever stands for the value
is read as it, however it comes, and is plain. Each format here keeps the values whose parts are
kept by the formats it is made of. Null stands for no value of a format that may be optional.
-/

namespace Narrative

namespace Format

variable {α β κ ν : Type}

/-- What is stored of a value, in no more than some number of arrays and objects within each
other, is read as the value. -/
structure Keeps (format : Format α) (depth : Nat) (value : α) : Prop where
  /-- The written form stands for the value. -/
  written : format.stores value (format.write value)
  /-- What stands for the value is read as it. -/
  read : ∀ {document : Json}, format.stores value document →
    ∀ arrival, format.read arrival document = .ok value
  /-- What stands for the value is plain. -/
  plain : ∀ {document : Json}, format.stores value document → document.Plain depth

/-- Whether null stands for no value. -/
def Solid (format : Format α) : Prop := ∀ value, ¬ format.stores value .null

/-- A format with one stored form of each value keeps what it reads back from there. -/
theorem keeps_of_written {format : Format α} {depth : Nat} {value : α}
    (only : ∀ document, format.stores value document ↔ document = format.write value)
    (back : ∀ arrival, format.read arrival (format.write value) = .ok value)
    (plain : (format.write value).Plain depth) : format.Keeps depth value := by
  constructor
  · exact (only _).2 rfl
  · intro document stored arrival
    rw [(only document).1 stored]
    exact back arrival
  · intro document stored
    rw [(only document).1 stored]
    exact plain

/-- Strings are kept. -/
theorem text_keeps (depth : Nat) (value : String) : text.Keeps depth value :=
  keeps_of_written (fun _ => .rfl) (fun _ => rfl) (by simp [text, Json.Plain])

/-- No string is null. -/
theorem text_solid : text.Solid := fun _ => nofun

/-- Truth values are kept. -/
theorem boolean_keeps (depth : Nat) (value : Bool) : boolean.Keeps depth value :=
  keeps_of_written (fun _ => .rfl) (fun _ => rfl) (by simp [boolean, Json.Plain])

/-- Natural numbers of 64 bits are kept. -/
theorem natural_keeps (depth : Nat) {value : Nat} (small : value < UInt64.size) :
    natural.Keeps depth value := by
  have range : (0 : Int) ≤ value ∧ (value : Int) < UInt64.size := by omega
  apply keeps_of_written (fun _ => .rfl)
  · intro arrival
    simp only [natural, Json.ofNat, range, and_self, if_true, Int.toNat_natCast]
  · show Json.Plain depth (.integer value)
    simpa [Json.Plain] using small

/-- No natural number is null. -/
theorem natural_solid : natural.Solid := fun _ => nofun

/-- Signed words of 64 bits are kept. -/
theorem integer64_keeps (depth : Nat) (value : Int64) : integer64.Keeps depth value := by
  apply keeps_of_written (fun _ => .rfl)
  · intro arrival
    show (if Int64.minValue.toInt ≤ value.toInt ∧ value.toInt ≤ Int64.maxValue.toInt then _
      else _) = _
    rw [if_pos ⟨value.minValue_le_toInt, value.toInt_le⟩, Int64.ofInt_toInt]
  · show Json.Plain depth (.integer value.toInt)
    have low := value.le_toInt
    have high := value.toInt_lt
    simp only [Json.Plain, UInt64.size]
    omega

/-- Signed words of 32 bits are kept. -/
theorem integer32_keeps (depth : Nat) (value : Int32) : integer32.Keeps depth value := by
  apply keeps_of_written (fun _ => .rfl)
  · intro arrival
    show (if Int32.minValue.toInt ≤ value.toInt ∧ value.toInt ≤ Int32.maxValue.toInt then _
      else _) = _
    rw [if_pos ⟨value.minValue_le_toInt, value.toInt_le⟩, Int32.ofInt_toInt]
  · show Json.Plain depth (.integer value.toInt)
    have low := value.le_toInt
    have high := value.toInt_lt
    simp only [Json.Plain, UInt64.size]
    omega

/-- A value is kept, or that there is none, where null stands for no value. -/
theorem optional_keeps {format : Format α} {depth : Nat} {value : Option α}
    (solid : format.Solid) (keeps : ∀ inner ∈ value, format.Keeps depth inner) :
    format.optional.Keeps depth value := by
  cases value with
  | none =>
    apply keeps_of_written (fun _ => .rfl) (fun _ => rfl)
    show Json.Plain depth .null
    simp [Json.Plain]
  | some inner =>
    have kept := keeps inner rfl
    constructor
    · exact kept.written
    · intro document stored arrival
      have back := kept.read stored arrival
      cases document with
      | null => exact absurd stored (solid inner)
      | bool _ | integer _ | decimal _ | text _ | array _ | object _ | unreadable _ =>
        show (format.read arrival _).map some = _
        rw [back]
        rfl
    · exact kept.plain

/-- What the elements of a stored array keep, one by one. -/
theorem storesEach_keeps {format : Format α} {depth : Nat} :
    ∀ {values : List α}, (∀ value ∈ values, format.Keeps depth value) →
      ∀ {elements : List Json}, format.storesEach values elements →
        (∀ arrival, elements.mapM (format.read arrival) = .ok values) ∧
          Json.ArePlain depth elements
  | [], _, [], _ => ⟨fun _ => rfl, by simp [Json.ArePlain]⟩
  | value :: _, keeps, document :: _, ⟨stored, others⟩ => by
    have kept := keeps value List.mem_cons_self
    obtain ⟨read, plain⟩ :=
      storesEach_keeps (fun value member => keeps value (List.mem_cons_of_mem _ member)) others
    constructor
    · intro arrival
      rw [List.mapM_cons, kept.read stored arrival, read arrival]
      rfl
    · exact ⟨kept.plain stored, plain⟩

/-- Lists of kept values are kept. -/
theorem list_keeps {format : Format α} {depth : Nat} {values : List α}
    (keeps : ∀ value ∈ values, format.Keeps depth value) :
    (list format).Keeps (depth + 1) values := by
  constructor
  · refine ⟨values.map format.write, rfl, ?_⟩
    induction values with
    | nil => trivial
    | cons value values ih =>
      exact ⟨(keeps value List.mem_cons_self).written,
        ih fun value member => keeps value (List.mem_cons_of_mem _ member)⟩
  · rintro _ ⟨elements, rfl, stored⟩ arrival
    exact (storesEach_keeps keeps stored).1 arrival
  · rintro _ ⟨elements, rfl, stored⟩
    exact (storesEach_keeps keeps stored).2

/-- Among choices of different names, a name chooses its own. -/
theorem choose_name {name : α → String} {choices : List α} {choice : α}
    (distinct : (choices.map name).Nodup) (member : choice ∈ choices) :
    choose name choices (name choice) = .ok choice := by
  have found : choices.find? (fun other => name other == name choice) = some choice := by
    induction choices with
    | nil => cases member
    | cons first others ih =>
      obtain ⟨unlike, distinct⟩ := List.nodup_cons.1 distinct
      obtain rfl | later := List.mem_cons.1 member
      · exact List.find?_cons_of_pos (beq_self_eq_true _)
      · have other : name first ≠ name choice := by
          intro same
          rw [same] at unlike
          exact unlike (List.mem_map_of_mem later)
        rw [List.find?_cons_of_neg (by simpa using other)]
        exact ih distinct later
  unfold choose
  rw [found]

/-- The values of an enumeration are kept. -/
theorem enumeration_keeps [Enumerated α] (depth : Nat) {value : α}
    (distinct : ((Enumerated.all : List α).map Enumerated.name).Nodup)
    (member : value ∈ (Enumerated.all : List α)) : (enumeration : Format α).Keeps depth value := by
  apply keeps_of_written (fun _ => .rfl)
  · exact fun _ => choose_name distinct member
  · show Json.Plain depth (.text _)
    simp [Json.Plain]

section Maps

variable [MemberName κ]

/-- What the members of a stored map keep, one by one. -/
theorem storesEntries_keeps {format : Format ν} {depth : Nat}
    (named : ∀ key : κ, MemberName.read (MemberName.write key) = .ok key) :
    ∀ {entries : List (κ × ν)}, (∀ entry ∈ entries, format.Keeps depth entry.2) →
      ∀ {members : List (String × Json)}, format.storesEntries entries members →
        (∀ arrival, (members.mapM fun member => do
            let key ← MemberName.read member.1
            let value ← format.read arrival member.2
            pure (key, value)) = .ok entries) ∧
          Json.HavePlain depth members
  | [], _, [], _ => ⟨fun _ => rfl, by simp [Json.HavePlain]⟩
  | entry :: _, keeps, (_, document) :: _, ⟨rfl, stored, others⟩ => by
    have kept := keeps entry List.mem_cons_self
    obtain ⟨read, plain⟩ := storesEntries_keeps named
      (fun entry member => keeps entry (List.mem_cons_of_mem _ member)) others
    constructor
    · intro arrival
      rw [List.mapM_cons, read arrival]
      simp only [named, kept.read stored arrival]
      rfl
    · exact ⟨kept.plain stored, plain⟩

/-- Maps of kept values are kept. -/
theorem sortedMap_keeps [Ord κ] [Std.TransOrd κ] [Std.LawfulEqOrd κ] {format : Format ν}
    {depth : Nat} {map : SortedMap κ ν}
    (named : ∀ key : κ, MemberName.read (MemberName.write key) = .ok key)
    (keeps : ∀ entry ∈ map.toList, format.Keeps depth entry.2) :
    (sortedMap format : Format (SortedMap κ ν)).Keeps (depth + 1) map := by
  constructor
  · refine ⟨_, rfl, ?_⟩
    generalize map.toList = entries at keeps
    induction entries with
    | nil => trivial
    | cons entry entries ih =>
      exact ⟨rfl, (keeps entry List.mem_cons_self).written,
        ih fun entry member => keeps entry (List.mem_cons_of_mem _ member)⟩
  · rintro _ ⟨members, rfl, stored⟩ arrival
    have read := (storesEntries_keeps named keeps stored).1 arrival
    unfold sortedMap
    simp only [read]
    exact congrArg Except.ok map.ofList_toList
  · rintro _ ⟨members, rfl, stored⟩
    exact (storesEntries_keeps named keeps stored).2

end Maps

end Format

end Narrative
