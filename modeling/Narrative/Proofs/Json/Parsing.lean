import Narrative.Proofs.Json.Spelling

/-!
# Reading spellings

Every spelling of a plain document is read as the document, if it is not nested deeper than the
reader allows. The reader spends two units of its fuel at most on each character.
-/

namespace Narrative.Json

section Blanks

/-- White space in front of a token is skipped. -/
theorem skipBlank_append {gap : List Char} {c : Char} {rest : List Char} (blank : Blank gap)
    (token : isBlank c = false) : skipBlank (gap ++ c :: rest) = c :: rest := by
  unfold skipBlank
  rw [List.dropWhile_append_of_pos blank, List.dropWhile_cons_of_neg (by simp [token])]

/-- The token in white space is found, and the white space after it is left. -/
theorem Around.skipBlank {token : Char} {input : List Char} (around : Around token input)
    (visible : isBlank token = false) (rest : List Char) :
    ∃ after, Blank after ∧ Json.skipBlank (input ++ rest) = token :: (after ++ rest) := by
  obtain ⟨before, after, leading, trailing, rfl⟩ := around
  refine ⟨after, trailing, ?_⟩
  rw [List.append_assoc]
  exact skipBlank_append leading visible

/-- There is a token in it. -/
theorem Around.length_pos {token : Char} {input : List Char} (around : Around token input) :
    0 < input.length := by
  obtain ⟨before, after, _, _, rfl⟩ := around
  simp only [List.length_append, List.length_cons]
  omega

/-- A blank is no digit, point or exponent. -/
theorem not_number_of_isBlank {c : Char} (blank : isBlank c = true) :
    c.isDigit = false ∧ c ≠ '.' ∧ c ≠ 'e' ∧ c ≠ 'E' := by
  simp only [isBlank, Bool.or_eq_true, beq_iff_eq] at blank
  obtain ((rfl | rfl) | rfl) | rfl := blank <;> decide

/-- A character that is none of a number ends it. -/
theorem stops_cons {c : Char} {rest : List Char}
    (ends : c.isDigit = false ∧ c ≠ '.' ∧ c ≠ 'e' ∧ c ≠ 'E') : Stops (c :: rest) := by
  intro first same
  obtain rfl := Option.some.inj same
  exact ends

/-- White space in front of a token that ends a number ends it too. -/
theorem stops_append {gap rest : List Char} (blank : Blank gap) (stops : Stops rest) :
    Stops (gap ++ rest) := by
  cases gap with
  | nil => exact stops
  | cons c gap => exact stops_cons (not_number_of_isBlank (blank c List.mem_cons_self))

/-- A token in white space ends a number if the token does. -/
theorem Around.stops {token : Char} {input rest : List Char} (around : Around token input)
    (ends : token.isDigit = false ∧ token ≠ '.' ∧ token ≠ 'e' ∧ token ≠ 'E') :
    Stops (input ++ rest) := by
  obtain ⟨before, after, leading, _, rfl⟩ := around
  rw [List.append_assoc]
  exact stops_append leading (stops_cons ends)

end Blanks

section Heads

/-- A natural number has a first digit. -/
theorem toDigits_cons (number : Nat) :
    ∃ c rest, Nat.toDigits 10 number = c :: rest ∧ c.isDigit = true := by
  cases digits : Nat.toDigits 10 number with
  | nil => exact absurd digits Nat.toDigits_ne_nil
  | cons c rest =>
    have member : c ∈ Nat.toDigits 10 number := digits ▸ List.mem_cons_self
    exact ⟨c, rest, rfl, Nat.isDigit_of_mem_toDigits (by decide) (by decide) member⟩

/-- A number starts with a minus sign or a digit. -/
theorem integerText_head (value : Int) :
    ∃ c rest, integerText value = c :: rest ∧ (c = '-' ∨ c.isDigit = true) := by
  unfold integerText
  split
  · exact ⟨_, _, rfl, .inl rfl⟩
  · obtain ⟨c, rest, digits, digit⟩ := toDigits_cons value.natAbs
    exact ⟨c, rest, digits, .inr digit⟩

/-- No number starts as another token does. -/
theorem not_token_of_number {c : Char} (number : c = '-' ∨ c.isDigit = true) :
    c ≠ 'n' ∧ c ≠ 't' ∧ c ≠ 'f' ∧ c ≠ '"' ∧ c ≠ '[' ∧ c ≠ '{' ∧ c ≠ ']' ∧ isBlank c = false := by
  obtain rfl | digit := number
  · decide
  · have visible : isBlank c = false := by
      cases blank : isBlank c with
      | false => rfl
      | true => exact absurd (not_number_of_isBlank blank).1 (by rw [digit]; decide)
    refine ⟨?_, ?_, ?_, ?_, ?_, ?_, ?_, visible⟩ <;>
      · rintro rfl
        exact absurd digit (by decide)

/-- A spelling starts with a token that closes no array. -/
theorem spells_head : ∀ {document : Json} {input : List Char}, Spells document input →
    ∃ c rest, input = c :: rest ∧ isBlank c = false ∧ c ≠ ']'
  | null, _, rfl => ⟨_, _, rfl, rfl, by decide⟩
  | bool true, _, rfl => ⟨_, _, rfl, rfl, by decide⟩
  | bool false, _, rfl => ⟨_, _, rfl, rfl, by decide⟩
  | integer value, _, rfl => by
    obtain ⟨c, rest, same, number⟩ := integerText_head value
    obtain ⟨_, _, _, _, _, _, closing, visible⟩ := not_token_of_number number
    exact ⟨c, rest, same, visible, closing⟩
  | text _, _, rfl => ⟨_, _, rfl, rfl, by decide⟩
  | array _, _, ⟨_, _, _, _, _, _, rfl⟩ => ⟨_, _, rfl, rfl, by decide⟩
  | object _, _, ⟨_, _, _, _, _, _, rfl⟩ => ⟨_, _, rfl, rfl, by decide⟩

/-- The spelling of some elements starts with a token that closes no array. -/
theorem spellElements_head {element : Json} {elements : List Json} {input : List Char}
    (spelled : SpellElements (element :: elements) input) :
    ∃ c rest, input = c :: rest ∧ isBlank c = false ∧ c ≠ ']' := by
  cases elements with
  | nil => exact spells_head spelled
  | cons next elements =>
    obtain ⟨first, comma, others, spelled, _, _, rfl⟩ := spelled
    obtain ⟨c, rest, rfl, head⟩ := spells_head spelled
    exact ⟨c, _, rfl, head⟩

/-- The spelling of some members starts with a quote. -/
theorem spellMembers_head {member : String × Json} {members : List (String × Json)}
    {input : List Char} (spelled : SpellMembers (member :: members) input) :
    ∃ rest, input = '"' :: rest := by
  cases members with
  | nil =>
    obtain ⟨_, _, _, _, rfl⟩ := spelled
    exact ⟨_, rfl⟩
  | cons next members =>
    obtain ⟨_, _, _, _, _, _, _, _, rfl⟩ := spelled
    exact ⟨_, rfl⟩

end Heads

section Reading

/-- An integer is read from its written form. -/
theorem readNumber_integerText {value : Int} {rest : List Char}
    (small : value.natAbs < UInt64.size) (stops : Stops rest) :
    readNumber (integerText value ++ rest) = some (integer value, rest) := by
  unfold integerText
  by_cases negative : value < 0
  · rw [if_pos negative, List.cons_append]
    show readMagnitude true (Nat.toDigits 10 value.natAbs ++ rest) = _
    rw [readMagnitude_toDigits true small (fun _ => by omega) stops]
    have same : -(value.natAbs : Int) = value := by omega
    rw [if_pos rfl, same]
  · rw [if_neg negative]
    have same : (value.natAbs : Int) = value := by omega
    have read := readMagnitude_toDigits false small nofun stops
    rw [if_neg Bool.false_ne_true, same] at read
    obtain ⟨c, digits, found, digit⟩ := toDigits_cons value.natAbs
    have unsigned : c ≠ '-' := by
      rintro rfl
      exact absurd digit (by decide)
    rw [found, List.cons_append] at read ⊢
    unfold readNumber
    split
    · next same => exact absurd (List.cons.inj same).1 unsigned
    · exact read

/-- A text that starts as no other token does is a number. -/
theorem readValue_number {fuel depth : Nat} {c : Char} {rest : List Char}
    (number : c = '-' ∨ c.isDigit = true) :
    readValue (fuel + 1) depth (c :: rest) = readNumber (c :: rest) := by
  obtain ⟨n, t, f, quote, array, object, _⟩ := not_token_of_number number
  rw [readValue] <;> intros <;> simp_all

/-- A written string is read as a value. -/
theorem readValue_quote {fuel depth : Nat} (value : String) (rest : List Char) :
    readValue (fuel + 1) depth (quote value ++ rest) = some (text value, rest) := by
  simp [readValue, quote, readText_written]

/-- An array without elements is read. -/
theorem readValue_array_nil {fuel depth : Nat} {gap rest : List Char} (blank : Blank gap) :
    readValue (fuel + 1) (depth + 1) ('[' :: (gap ++ ']' :: rest)) = some (array [], rest) := by
  have closing : skipBlank (gap ++ ']' :: rest) = ']' :: rest := skipBlank_append blank rfl
  simp [readValue, closing]

/-- An array is read where its elements are. -/
theorem readValue_array {fuel depth : Nat} {gap : List Char} {c : Char} {inner rest : List Char}
    {elements : List Json} (blank : Blank gap) (visible : isBlank c = false) (opening : c ≠ ']')
    (read : readElements fuel depth (c :: inner) = some (elements, rest)) :
    readValue (fuel + 1) (depth + 1) ('[' :: (gap ++ c :: inner)) =
      some (array elements, rest) := by
  simp [readValue, skipBlank_append blank visible, opening, read]

/-- An object without members is read. -/
theorem readValue_object_nil {fuel depth : Nat} {gap rest : List Char} (blank : Blank gap) :
    readValue (fuel + 1) (depth + 1) ('{' :: (gap ++ '}' :: rest)) =
      some (object [], rest) := by
  have closing : skipBlank (gap ++ '}' :: rest) = '}' :: rest := skipBlank_append blank rfl
  simp [readValue, closing]

/-- Members that were read with their names. -/
def named (members : List (String × Json)) : List (Option String × Json) :=
  members.map fun member => (some member.1, member.2)

/-- Members with names are members that stand for something. -/
theorem mapM_named (members : List (String × Json)) :
    (named members).mapM namedMember? = some members := by
  induction members with
  | nil => rfl
  | cons member members ih =>
    unfold named at ih ⊢
    rw [List.map_cons, List.mapM_cons, ih]
    rfl

/-- An object is read where its members are. -/
theorem readValue_object {fuel depth : Nat} {gap inner rest : List Char}
    {members : List (String × Json)} (blank : Blank gap)
    (read : readMembers fuel depth ('"' :: inner) = some (named members, rest)) :
    readValue (fuel + 1) (depth + 1) ('{' :: (gap ++ '"' :: inner)) =
      some (object members, rest) := by
  have opening : skipBlank (gap ++ '"' :: inner) = '"' :: inner := skipBlank_append blank rfl
  simp [readValue, opening, read, mapM_named]

/-- The last element of an array is read with the bracket after it. -/
theorem readElements_last {fuel depth : Nat} {input gap rest : List Char} {element : Json}
    (blank : Blank gap)
    (read : readValue fuel depth (input ++ (gap ++ ']' :: rest)) =
      some (element, gap ++ ']' :: rest)) :
    readElements (fuel + 1) depth (input ++ (gap ++ ']' :: rest)) = some ([element], rest) := by
  have closing : skipBlank (gap ++ ']' :: rest) = ']' :: rest := skipBlank_append blank rfl
  simp [readElements, read, closing]

/-- An element before others is read with the comma after it. -/
theorem readElements_cons {fuel depth : Nat} {input comma inner rest : List Char} {c : Char}
    {element : Json} {elements : List Json} (around : Around ',' comma)
    (visible : isBlank c = false)
    (read : readValue fuel depth (input ++ (comma ++ c :: inner)) =
      some (element, comma ++ c :: inner))
    (others : readElements fuel depth (c :: inner) = some (elements, rest)) :
    readElements (fuel + 1) depth (input ++ (comma ++ c :: inner)) =
      some (element :: elements, rest) := by
  obtain ⟨after, blank, found⟩ := around.skipBlank rfl (c :: inner)
  simp [readElements, read, found, skipBlank_append blank visible, others]

/-- The last member of an object is read with the bracket after it. -/
theorem readMembers_last {fuel depth : Nat} {name : String} {colon gap inner rest : List Char}
    {c : Char} {value : Json} (around : Around ':' colon) (visible : isBlank c = false)
    (blank : Blank gap)
    (read : readValue fuel depth (c :: inner) = some (value, gap ++ '}' :: rest)) :
    readMembers (fuel + 1) depth (quote name ++ (colon ++ c :: inner)) =
      some (named [(name, value)], rest) := by
  obtain ⟨after, trailing, found⟩ := around.skipBlank rfl (c :: inner)
  have closing : skipBlank (gap ++ '}' :: rest) = '}' :: rest := skipBlank_append blank rfl
  simp [quote, readMembers, readText_written, found, skipBlank_append trailing visible, read,
    closing, named]

/-- A member before others is read with the comma after it. -/
theorem readMembers_cons {fuel depth : Nat} {name : String}
    {colon comma inner following rest : List Char} {c : Char} {value : Json}
    {members : List (String × Json)} (aroundColon : Around ':' colon)
    (visible : isBlank c = false) (aroundComma : Around ',' comma)
    (read : readValue fuel depth (c :: inner) = some (value, comma ++ '"' :: following))
    (others : readMembers fuel depth ('"' :: following) = some (named members, rest)) :
    readMembers (fuel + 1) depth (quote name ++ (colon ++ c :: inner)) =
      some (named ((name, value) :: members), rest) := by
  obtain ⟨after, trailing, found⟩ := aroundColon.skipBlank rfl (c :: inner)
  obtain ⟨later, blank, next⟩ := aroundComma.skipBlank rfl ('"' :: following)
  have opening : skipBlank (later ++ '"' :: following) = '"' :: following :=
    skipBlank_append blank rfl
  simp [quote, readMembers, readText_written, found, skipBlank_append trailing visible, read,
    next, opening, others, named]

mutual

/-- A spelling of a plain document is read as the document, up to where it ends. -/
theorem readValue_of_spells : ∀ {document : Json} {fuel depth : Nat} {input rest : List Char},
    Plain depth document → Spells document input → Stops rest → 2 * input.length ≤ fuel →
      readValue fuel depth (input ++ rest) = some (document, rest)
  | document, 0, _, _, _, _, spelled, _, enough => by
    obtain ⟨c, others, rfl, _⟩ := spells_head spelled
    simp at enough
  | null, _ + 1, _, _, _, _, rfl, _, _ => by simp [readValue, compactText, after?]
  | bool true, _ + 1, _, _, _, _, rfl, _, _ => by simp [readValue, compactText, after?]
  | bool false, _ + 1, _, _, _, _, rfl, _, _ => by simp [readValue, compactText, after?]
  | integer value, _ + 1, _, _, _, plain, rfl, stops, _ => by
    obtain ⟨c, digits, same, number⟩ := integerText_head value
    have small : value.natAbs < UInt64.size := by simpa [Plain] using plain
    have read := readNumber_integerText small stops
    rw [same, List.cons_append] at read ⊢
    rw [readValue_number number]
    exact read
  | text value, _ + 1, _, _, rest, _, rfl, _, _ => readValue_quote value rest
  | array [], fuel + 1, depth + 1, _, rest, _,
      ⟨before, _, after, leading, trailing, rfl, rfl⟩, _, _ => by
    have gap : Blank (before ++ after) := List.forall_mem_append.2 ⟨leading, trailing⟩
    have read : readValue (fuel + 1) (depth + 1) ('[' :: (before ++ after ++ ']' :: rest)) = _ :=
      readValue_array_nil gap
    simpa using read
  | array (_ :: _), fuel + 1, depth + 1, _, rest, plain,
      ⟨before, inner, after, leading, trailing, spelled, rfl⟩, _, enough => by
    have shorter : 2 * inner.length < fuel := by
      simp only [List.length_cons, List.length_append] at enough
      omega
    have read : readElements fuel depth (inner ++ (after ++ ']' :: rest)) = _ :=
      readElements_of_spells plain spelled trailing shorter
    obtain ⟨c, others, rfl, visible, opening⟩ := spellElements_head spelled
    simpa using readValue_array leading visible opening read
  | object [], fuel + 1, depth + 1, _, rest, _,
      ⟨before, _, after, leading, trailing, rfl, rfl⟩, _, _ => by
    have gap : Blank (before ++ after) := List.forall_mem_append.2 ⟨leading, trailing⟩
    have read : readValue (fuel + 1) (depth + 1) ('{' :: (before ++ after ++ '}' :: rest)) = _ :=
      readValue_object_nil gap
    simpa using read
  | object (_ :: _), fuel + 1, depth + 1, _, rest, plain,
      ⟨before, inner, after, leading, trailing, spelled, rfl⟩, _, enough => by
    have shorter : 2 * inner.length < fuel := by
      simp only [List.length_cons, List.length_append] at enough
      omega
    have read : readMembers fuel depth (inner ++ (after ++ '}' :: rest)) = _ :=
      readMembers_of_spells plain spelled trailing shorter
    obtain ⟨others, rfl⟩ := spellMembers_head spelled
    simpa using readValue_object leading read

/-- A spelling of plain elements is read as the elements, with the bracket after it. -/
theorem readElements_of_spells : ∀ {element : Json} {elements : List Json} {fuel depth : Nat}
    {input gap rest : List Char}, ArePlain depth (element :: elements) →
      SpellElements (element :: elements) input → Blank gap → 2 * input.length < fuel →
        readElements fuel depth (input ++ (gap ++ ']' :: rest)) = some (element :: elements, rest)
  | _, [], fuel + 1, depth, input, gap, rest, ⟨plain, _⟩, spelled, blank, enough => by
    have stops : Stops (gap ++ ']' :: rest) := stops_append blank (stops_cons (by decide))
    exact readElements_last blank
      (readValue_of_spells plain spelled stops (Nat.lt_succ_iff.1 enough))
  | _, _ :: _, fuel + 1, depth, _, gap, rest, ⟨plain, others⟩,
      ⟨first, comma, later, spelled, around, spelledLater, rfl⟩, blank, enough => by
    have positive := around.length_pos
    simp only [List.length_append] at enough
    have read : readElements fuel depth (later ++ (gap ++ ']' :: rest)) = _ :=
      readElements_of_spells others spelledLater blank (by omega)
    have stops : Stops (comma ++ (later ++ (gap ++ ']' :: rest))) := around.stops (by decide)
    have value : readValue fuel depth (first ++ _) = _ :=
      readValue_of_spells plain spelled stops (by omega)
    obtain ⟨c, inner, rfl, visible, _⟩ := spellElements_head spelledLater
    simpa using readElements_cons around visible value read

/-- A spelling of plain members is read as the members, with the bracket after it. -/
theorem readMembers_of_spells : ∀ {member : String × Json} {members : List (String × Json)}
    {fuel depth : Nat} {input gap rest : List Char}, HavePlain depth (member :: members) →
      SpellMembers (member :: members) input → Blank gap → 2 * input.length < fuel →
        readMembers fuel depth (input ++ (gap ++ '}' :: rest)) =
          some (named (member :: members), rest)
  | (name, value), [], fuel + 1, depth, _, gap, rest, ⟨plain, _⟩,
      ⟨colon, content, around, spelled, rfl⟩, blank, enough => by
    simp only [List.length_append] at enough
    have stops : Stops (gap ++ '}' :: rest) := stops_append blank (stops_cons (by decide))
    have read : readValue fuel depth (content ++ _) = _ :=
      readValue_of_spells plain spelled stops (by omega)
    obtain ⟨c, inner, rfl, visible, _⟩ := spells_head spelled
    have whole : readMembers (fuel + 1) depth (quote name ++ _) = _ :=
      readMembers_last around visible blank read
    simpa using whole
  | (name, value), _ :: _, fuel + 1, depth, _, gap, rest, ⟨plain, others⟩,
      ⟨colon, content, comma, later, aroundColon, spelled, aroundComma, spelledLater, rfl⟩,
      blank, enough => by
    have positive := aroundComma.length_pos
    simp only [List.length_append] at enough
    have read : readMembers fuel depth (later ++ (gap ++ '}' :: rest)) = _ :=
      readMembers_of_spells others spelledLater blank (by omega)
    have stops : Stops (comma ++ (later ++ (gap ++ '}' :: rest))) := aroundComma.stops (by decide)
    have first : readValue fuel depth (content ++ _) = _ :=
      readValue_of_spells plain spelled stops (by omega)
    obtain ⟨c, inner, rfl, visible, _⟩ := spells_head spelled
    obtain ⟨following, rfl⟩ := spellMembers_head spelledLater
    have whole : readMembers (fuel + 1) depth (quote name ++ _) = _ :=
      readMembers_cons aroundColon visible aroundComma first read
    simpa using whole

end

end Reading

/-- A spelling of a plain document is a text of the document, with white space around it too. -/
theorem parse_of_spells {document : Json} {before input after : List Char}
    (plain : Plain maximumDepth document) (spelled : Spells document input)
    (leading : Blank before) (trailing : Blank after) :
    parse (String.ofList (before ++ (input ++ after))) = some document := by
  have stops : Stops after := by
    have ends : Stops (after ++ []) := stops_append trailing nofun
    rwa [List.append_nil] at ends
  have read : readValue (2 * (before ++ (input ++ after)).length + 1) maximumDepth
      (input ++ after) = some (document, after) := by
    apply readValue_of_spells plain spelled stops
    simp only [List.length_append]
    omega
  have none : skipBlank after = [] := by
    unfold skipBlank
    rw [← List.append_nil after, List.dropWhile_append_of_pos trailing]
    rfl
  obtain ⟨c, others, rfl, visible, _⟩ := spells_head spelled
  have start : skipBlank (before ++ (c :: others ++ after)) = c :: others ++ after :=
    skipBlank_append leading visible
  unfold parse
  simp only [String.toList_ofList, start, read, Option.bind_eq_bind, Option.bind_some, none,
    List.isEmpty_nil, if_true]

/-- The indented form of a plain document is a text of the document. -/
theorem parse_indented {document : Json} (plain : Plain maximumDepth document) :
    parse document.indented = some document := by
  have read := parse_of_spells plain (spells_indentedText 0 plain) blank_nil blank_nil
  rw [List.append_nil] at read
  exact read

/-- The compact form of a plain document is a text of the document. -/
theorem parse_compact {document : Json} (plain : Plain maximumDepth document) :
    parse document.compact = some document := by
  have read := parse_of_spells plain (spells_compactText plain) blank_nil blank_nil
  rw [List.append_nil] at read
  exact read

end Narrative.Json
