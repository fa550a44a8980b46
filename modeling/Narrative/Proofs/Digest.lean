import Narrative.Digest

/-!
# What fingerprints tell apart

A fingerprint spells out a digest, so that texts with different digests have different fingerprints.
Whether the digests of some texts are different is a matter of these texts.
-/

namespace Narrative.Digest

/-- Whether different texts of a list have different digests. -/
def Separates (texts : List String) : Prop :=
  ∀ first ∈ texts, ∀ second ∈ texts,
    md5 first.toUTF8.toList = md5 second.toUTF8.toList → first = second

instance (texts : List String) : Decidable (Separates texts) :=
  inferInstanceAs (Decidable (∀ first ∈ texts, ∀ second ∈ texts, _ → _))

/-- Hexadecimal digits are different. -/
theorem digitChar_inj {left right : Nat} (leftSmall : left < 16) (rightSmall : right < 16)
    (same : Nat.digitChar left = Nat.digitChar right) : left = right := by
  have different : ∀ left < 16, ∀ right < 16,
      Nat.digitChar left = Nat.digitChar right → left = right := by decide
  exact different left leftSmall right rightSmall same

/-- Bytes are known by their hexadecimal digits. -/
theorem eq_of_hexadecimal {left right : List UInt8} (same : hexadecimal left = hexadecimal right) :
    left = right := by
  have spelled := String.ofList_injective same
  clear same
  induction left generalizing right with
  | nil =>
    cases right with
    | nil => rfl
    | cons => cases spelled
  | cons first rest ih =>
    cases right with
    | nil => cases spelled
    | cons other others =>
      simp only [List.flatMap_cons, List.cons_append, List.nil_append, List.cons.injEq] at spelled
      obtain ⟨high, low, later⟩ := spelled
      have firstSmall := first.toNat_lt
      have otherSmall := other.toNat_lt
      have high := digitChar_inj (by omega) (by omega) high
      have low := digitChar_inj (by omega) (by omega) low
      have head : first = other := UInt8.toNat_inj.1 (by omega)
      rw [head, ih later]

/-- Texts that a list of texts tells apart are known by their fingerprints. -/
theorem Separates.eq_of_ofText {texts : List String} (separates : Separates texts)
    {first second : String} (one : first ∈ texts) (other : second ∈ texts)
    (same : ofText first = ofText second) : first = second :=
  separates first one second other (eq_of_hexadecimal same)

end Narrative.Digest
