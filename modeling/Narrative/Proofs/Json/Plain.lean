import Narrative.Json.Basic

/-!
# Plain documents

A document is plain when it is made of what a stored value consists of: no number with a fraction
or an exponent, no value that stands for nothing, every integer a word of 64 bits apart from its
sign, and no more than some number of arrays and objects within each other.
-/

namespace Narrative.Json

mutual

/-- Whether a document is plain and nested in at most some number of arrays and objects. -/
def Plain : Nat → Json → Prop
  | _, null => True
  | _, bool _ => True
  | _, integer value => value.natAbs < UInt64.size
  | _, decimal _ => False
  | _, text _ => True
  | 0, array _ => False
  | depth + 1, array elements => ArePlain depth elements
  | 0, object _ => False
  | depth + 1, object members => HavePlain depth members
  | _, unreadable _ => False

/-- Whether all elements of an array are plain. -/
def ArePlain : Nat → List Json → Prop
  | _, [] => True
  | depth, element :: rest => Plain depth element ∧ ArePlain depth rest

/-- Whether all members of an object have plain values. -/
def HavePlain : Nat → List (String × Json) → Prop
  | _, [] => True
  | depth, (_, value) :: rest => Plain depth value ∧ HavePlain depth rest

end

/-- The members of an object are plain one by one. -/
theorem havePlain_iff {depth : Nat} {members : List (String × Json)} :
    HavePlain depth members ↔ ∀ member ∈ members, Plain depth member.2 := by
  induction members with
  | nil => simp [HavePlain]
  | cons member rest ih =>
    obtain ⟨name, value⟩ := member
    simp [HavePlain, ih]

/-- Plain members in a row. -/
theorem havePlain_append {depth : Nat} {first second : List (String × Json)}
    (left : HavePlain depth first) (right : HavePlain depth second) :
    HavePlain depth (first ++ second) := by
  rw [havePlain_iff] at left right ⊢
  intro member within
  obtain earlier | later := List.mem_append.1 within
  · exact left member earlier
  · exact right member later

mutual

/-- A plain document stands for something throughout. -/
theorem isReadable_of_plain : ∀ {depth : Nat} {document : Json}, Plain depth document →
    document.isReadable = true
  | _, null, _ => rfl
  | _, bool _, _ => rfl
  | _, integer _, _ => rfl
  | _, text _, _ => rfl
  | _ + 1, array _, plain => areReadable_of_plain plain
  | _ + 1, object _, plain => haveReadable_of_plain plain

/-- Plain elements stand for something throughout. -/
theorem areReadable_of_plain : ∀ {depth : Nat} {elements : List Json}, ArePlain depth elements →
    areReadable elements = true
  | _, [], _ => rfl
  | _, _ :: _, ⟨first, others⟩ => by
    unfold areReadable
    rw [isReadable_of_plain first, areReadable_of_plain others]
    rfl

/-- Plain members stand for something throughout. -/
theorem haveReadable_of_plain : ∀ {depth : Nat} {members : List (String × Json)},
    HavePlain depth members → haveReadable members = true
  | _, [], _ => rfl
  | _, (_, _) :: _, ⟨first, others⟩ => by
    unfold haveReadable
    rw [isReadable_of_plain first, haveReadable_of_plain others]
    rfl

end

end Narrative.Json
