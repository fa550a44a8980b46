import Narrative.Json.Reader
import Narrative.Json.Writer

/-!
# Written strings and integers

A string is read back from its written form, whatever characters it has: each is written so that
it is one unit again, and no character is half of a surrogate pair. An integer is read back if its
digits are a word of 64 bits and nothing follows that would continue a number.
-/

namespace Narrative.Json

section Strings

/-- The digit of a number below sixteen has that number as its value. -/
theorem hexDigit?_digitChar : ∀ digit < 16, hexDigit? (Nat.digitChar digit) = some digit := by
  decide

/-- The escape of a control character has its code as the code unit. -/
theorem codeUnit?_control {code : Nat} (control : code < 32) :
    codeUnit? '0' '0' (Nat.digitChar (code / 16)) (Nat.digitChar (code % 16)) = some code := by
  have zero : hexDigit? '0' = some 0 := by decide
  have high := hexDigit?_digitChar (code / 16) (by omega)
  have low := hexDigit?_digitChar (code % 16) (by omega)
  have whole : ((0 * 16 + 0) * 16 + code / 16) * 16 + code % 16 = code := by omega
  simp only [codeUnit?, zero, high, low, Option.bind_eq_bind, Option.bind_some, whole]

/-- A written character is one unit of a string. -/
theorem readUnits_escapeChar (c : Char) (input : List Char) :
    readUnits (escapeChar c ++ input) =
      (readUnits input).map fun (units, rest) => (c.toNat :: units, rest) := by
  have folded : ∀ found : Option (List Nat × List Char),
      (do
        let (units, rest) ← found
        some (c.toNat :: units, rest)) =
          found.map fun (units, rest) => (c.toNat :: units, rest) := by
    intro found
    cases found <;> rfl
  unfold escapeChar
  by_cases quoted : c = '"'
  · subst quoted
    exact folded _
  by_cases slash : c = '\\'
  · subst slash
    exact folded _
  rw [if_neg quoted, if_neg slash]
  by_cases control : c.toNat < 32
  · rw [if_pos control]
    split
    · next same => subst same; exact folded _
    split
    · next same => subst same; exact folded _
    split
    · next same => subst same; exact folded _
    split
    · next same => subst same; exact folded _
    split
    · next same => subst same; exact folded _
    simp only [List.cons_append, List.nil_append, readUnits, codeUnit?_control control]
    exact folded _
  · rw [if_neg control, List.singleton_append, readUnits]
    · rw [if_neg (by simp [control, slash])]
      exact folded _
    · exact quoted
    · exact fun _ _ _ _ _ same _ => slash same
    · exact fun _ _ same _ => slash same

/-- The units of a written string are the codes of its characters. -/
theorem readUnits_written (characters rest : List Char) :
    readUnits (characters.flatMap escapeChar ++ '"' :: rest) =
      some (characters.map Char.toNat, rest) := by
  induction characters with
  | nil => simp [readUnits]
  | cons c characters ih =>
    rw [List.flatMap_cons, List.append_assoc, readUnits_escapeChar, ih]
    rfl

/-- The code of a character is no half of a surrogate pair. -/
theorem not_surrogate (c : Char) :
    isHighSurrogate c.toNat = false ∧ isLowSurrogate c.toNat = false := by
  have valid : c.toNat < 0xd800 ∨ (0xdfff < c.toNat ∧ c.toNat < 0x110000) := c.valid
  simp only [isHighSurrogate, isLowSurrogate, Bool.and_eq_false_iff, decide_eq_false_iff_not]
  omega

/-- The codes of characters are the units of these characters. -/
theorem charactersOf?_map (characters : List Char) :
    charactersOf? (characters.map Char.toNat) = some characters := by
  induction characters with
  | nil => rfl
  | cons c characters ih =>
    obtain ⟨high, low⟩ := not_surrogate c
    cases characters with
    | nil => simp [charactersOf?, high, low]
    | cons next characters =>
      simp only [List.map_cons] at ih ⊢
      simp only [charactersOf?, high, low, ih, Bool.false_eq_true, if_false, Option.map_some,
        Char.ofNat_toNat]

/-- A written string is read back. -/
theorem readText_written (value : String) (rest : List Char) :
    readText (value.toList.flatMap escapeChar ++ '"' :: rest) = some (some value, rest) := by
  unfold readText
  rw [readUnits_written]
  simp [charactersOf?_map]

end Strings

section Integers

/-- Whether a text does not go on with a number: it starts with no digit, point or exponent. -/
def Stops (input : List Char) : Prop :=
  ∀ c ∈ input.head?, c.isDigit = false ∧ c ≠ '.' ∧ c ≠ 'e' ∧ c ≠ 'E'

/-- The digits of a number end where the text stops. -/
theorem readDigits_append {digits rest : List Char} (all : ∀ c ∈ digits, c.isDigit = true)
    (stops : Stops rest) : readDigits (digits ++ rest) = (digits, rest) := by
  have none : rest.takeWhile Char.isDigit = [] ∧ rest.dropWhile Char.isDigit = rest := by
    cases rest with
    | nil => exact ⟨rfl, rfl⟩
    | cons c rest => simp [(stops c rfl).1]
  unfold readDigits
  rw [List.takeWhile_append_of_pos all, List.dropWhile_append_of_pos all, none.1, none.2,
    List.append_nil]

/-- Without a point there is no fraction. -/
theorem readFraction_of_stops {rest : List Char} (stops : Stops rest) :
    readFraction rest = some ([], rest) := by
  unfold readFraction
  split
  · exact absurd rfl (stops '.' rfl).2.1
  · rfl

/-- Without a mark there is no exponent. -/
theorem readExponent_of_stops {rest : List Char} (stops : Stops rest) :
    readExponent rest = some (none, rest) := by
  cases rest with
  | nil => rfl
  | cons c rest =>
    obtain ⟨_, _, small, large⟩ := stops c rfl
    simp [readExponent, small, large]

/-- The digits of a number start with a zero only if there is no other. -/
theorem toDigits_head (number : Nat) :
    (Nat.toDigits 10 number).head? ≠ some '0' ∨ number = 0 := by
  induction number using Nat.base_induction 10 (by decide) with
  | single digit small =>
    rw [Nat.toDigits_of_lt_base small]
    by_cases zero : digit = 0
    · exact .inr zero
    · left
      simpa using zero
  | digit number last small positive ih =>
    left
    have front := ih.resolve_right (by omega)
    rw [← Nat.toDigits_append_toDigits (by decide) positive small]
    cases digits : Nat.toDigits 10 number with
    | nil => exact absurd digits Nat.toDigits_ne_nil
    | cons first others =>
      rw [digits] at front
      exact front

/-- Digits count one by one as long as their number is a word of 64 bits. -/
theorem absorb_of_lt {digits : List Char} {significand : Nat}
    (small : Nat.ofDigitChars 10 digits significand < UInt64.size) :
    Magnitude.absorb significand digits = (Nat.ofDigitChars 10 digits significand, []) := by
  induction digits generalizing significand with
  | nil => rfl
  | cons digit digits ih =>
    rw [Nat.ofDigitChars_cons] at small ⊢
    have grows : 10 * significand + (digit.toNat - '0'.toNat) ≤
        Nat.ofDigitChars 10 digits (10 * significand + (digit.toNat - '0'.toNat)) := by
      rw [Nat.ofDigitChars_eq_ofDigitChars_zero]
      have power : 0 < 10 ^ digits.length := Nat.pow_pos (by decide)
      have scaled := Nat.le_mul_of_pos_left
        (10 * significand + (digit.toNat - '0'.toNat)) power
      omega
    have next : significand * 10 + (digit.toNat - '0'.toNat) < UInt64.size := by omega
    unfold Magnitude.absorb
    simp only [next, if_true]
    rw [Nat.mul_comm significand 10]
    exact ih small

/-- A word of 64 bits is finite. -/
theorem ofDigits_isFinite {number : Nat} (small : number < UInt64.size) :
    (Magnitude.ofDigits (Nat.toDigits 10 number) [] 0).isFinite = true := by
  have all : Magnitude.absorb 0 (Nat.toDigits 10 number) = (number, []) := by
    have counted : Nat.ofDigitChars 10 (Nat.toDigits 10 number) 0 = number :=
      Nat.ofDigitChars_ten_toDigits
    rw [absorb_of_lt (by rw [counted]; exact small), counted]
  simp [Magnitude.ofDigits, all, Magnitude.absorb, Magnitude.isFinite]

/-- The digits of a word of 64 bits are read as its integer, or as the one below zero, but not as
one below zero if there is nothing to it. -/
theorem readMagnitude_toDigits {number : Nat} {rest : List Char} (negative : Bool)
    (small : number < UInt64.size) (signed : negative = true → number ≠ 0) (stops : Stops rest) :
    readMagnitude negative (Nat.toDigits 10 number ++ rest) =
      some (integer (if negative then -number else number), rest) := by
  have digits : readDigits (Nat.toDigits 10 number ++ rest) = (Nat.toDigits 10 number, rest) :=
    readDigits_append (fun _ => Nat.isDigit_of_mem_toDigits (by decide) (by decide)) stops
  obtain ⟨leading, found⟩ : ∃ leading, (Nat.toDigits 10 number).head? = some leading :=
    ⟨_, List.head?_eq_some_head Nat.toDigits_ne_nil⟩
  have plain : ¬ (leading = '0' ∧ (Nat.toDigits 10 number).length ≠ 1) := by
    rintro ⟨rfl, long⟩
    obtain rfl := (toDigits_head number).resolve_left fun other => other found
    exact long rfl
  have nonzero : (negative && number == 0) = false := by
    cases negative with
    | false => rfl
    | true => simpa using signed rfl
  unfold readMagnitude
  simp only [digits, found, plain, readFraction_of_stops stops, readExponent_of_stops stops,
    Option.bind_eq_bind, Option.bind_some, if_false, Option.getD_none, ofDigits_isFinite small,
    Bool.not_true, Bool.false_eq_true, List.isEmpty_nil, Option.isNone_none, Bool.true_and,
    Nat.ofDigitChars_ten_toDigits, nonzero, Bool.not_false, if_true]

end Integers

end Narrative.Json
