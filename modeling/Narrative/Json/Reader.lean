import Narrative.Json.Basic
import Narrative.Json.Magnitude

/-!
# Reading JSON

A text is a document when it is one JSON value with white space around it. Beyond the grammar, a
value nested in more than 127 arrays and objects is refused, and so is a raw control character in
a string. A number that is not finite and a string with an unpaired surrogate escape are values,
but stand for nothing, and an object with such a string among its names does so as a whole.
-/

namespace Narrative.Json

/-- White space between tokens. -/
def isBlank (c : Char) : Bool := c == ' ' || c == '\t' || c == '\n' || c == '\r'

/-- The text after its leading white space. -/
def skipBlank (input : List Char) : List Char := input.dropWhile isBlank

/-- The text after a given beginning. -/
def after? : List Char → List Char → Option (List Char)
  | [], input => some input
  | _ :: _, [] => none
  | expected :: rest, found :: input => if expected = found then after? rest input else none

/-- The value of a hexadecimal digit. -/
def hexDigit? (c : Char) : Option Nat :=
  if '0' ≤ c ∧ c ≤ '9' then some (c.toNat - '0'.toNat)
  else if 'a' ≤ c ∧ c ≤ 'f' then some (c.toNat - 'a'.toNat + 10)
  else if 'A' ≤ c ∧ c ≤ 'F' then some (c.toNat - 'A'.toNat + 10)
  else none

/-- The code unit of four hexadecimal digits. -/
def codeUnit? (first second third fourth : Char) : Option Nat := do
  let high ← hexDigit? first
  let upper ← hexDigit? second
  let lower ← hexDigit? third
  let low ← hexDigit? fourth
  some (((high * 16 + upper) * 16 + lower) * 16 + low)

/-- The character that a letter after a backslash stands for. -/
def shortEscape? (letter : Char) : Option Char :=
  match letter with
  | '"' => some '"'
  | '\\' => some '\\'
  | '/' => some '/'
  | 'b' => some '\x08'
  | 'f' => some '\x0c'
  | 'n' => some '\n'
  | 'r' => some '\r'
  | 't' => some '\t'
  | _ => none

/-- Whether a code unit is the first half of a surrogate pair. -/
def isHighSurrogate (unit : Nat) : Bool := 0xd800 ≤ unit && unit < 0xdc00

/-- Whether a code unit is the second half of a surrogate pair. -/
def isLowSurrogate (unit : Nat) : Bool := 0xdc00 ≤ unit && unit < 0xe000

/-- The code point of a surrogate pair. -/
def pairedCodePoint (high low : Nat) : Nat := 0x10000 + (high - 0xd800) * 0x400 + (low - 0xdc00)

/-- The code units of a string up to its closing quote, and the text after that quote. A character
that is not escaped counts as one unit. -/
def readUnits : List Char → Option (List Nat × List Char)
  | [] => none
  | '"' :: rest => some ([], rest)
  | '\\' :: 'u' :: a :: b :: c :: d :: rest => do
    let unit ← codeUnit? a b c d
    let (units, rest) ← readUnits rest
    some (unit :: units, rest)
  | '\\' :: letter :: rest => do
    let c ← shortEscape? letter
    let (units, rest) ← readUnits rest
    some (c.toNat :: units, rest)
  | c :: rest =>
    if c.toNat < 32 ∨ c = '\\' then none
    else do
      let (units, rest) ← readUnits rest
      some (c.toNat :: units, rest)

/-- The characters of code units; none if half of a surrogate pair stands without the other. -/
def charactersOf? : List Nat → Option (List Char)
  | [] => some []
  | [unit] =>
    if isHighSurrogate unit || isLowSurrogate unit then none else some [Char.ofNat unit]
  | unit :: next :: rest =>
    if isLowSurrogate unit then none
    else if isHighSurrogate unit then
      if isLowSurrogate next then
        (charactersOf? rest).map (Char.ofNat (pairedCodePoint unit next) :: ·)
      else none
    else (charactersOf? (next :: rest)).map (Char.ofNat unit :: ·)

/-- A string after its opening quote: none if it stands for nothing. -/
def readText (input : List Char) : Option (Option String × List Char) := do
  let (units, rest) ← readUnits input
  some ((charactersOf? units).map String.ofList, rest)

/-- The text between a place and a later one. -/
def between (input rest : List Char) : String :=
  String.ofList (input.take (input.length - rest.length))

/-- The digits at the front of a text, and the text after them. -/
def readDigits (input : List Char) : List Char × List Char :=
  (input.takeWhile Char.isDigit, input.dropWhile Char.isDigit)

/-- The fraction of a number, empty where there is none; a point needs a digit after it. -/
def readFraction (input : List Char) : Option (List Char × List Char) :=
  match input with
  | '.' :: rest =>
    let (digits, rest) := readDigits rest
    if digits.isEmpty then none else some (digits, rest)
  | _ => some ([], input)

/-- The exponent of a number, none where there is none; its mark needs a digit after it. -/
def readExponent (input : List Char) : Option (Option Int × List Char) :=
  let scan (negative : Bool) (rest : List Char) : Option (Option Int × List Char) :=
    let (digits, rest) := readDigits rest
    let size : Int := Nat.ofDigitChars 10 digits 0
    if digits.isEmpty then none else some (some (if negative then -size else size), rest)
  match input with
  | mark :: rest =>
    if mark = 'e' ∨ mark = 'E' then
      match rest with
      | '-' :: rest => scan true rest
      | '+' :: rest => scan false rest
      | _ => scan false rest
    else some (none, input)
  | [] => some (none, input)

/-- A number as it is written, given the places at its first digit and after its last one. -/
def numeral (negative : Bool) (input rest : List Char) : String :=
  if negative then "-" ++ between input rest else between input rest

/-- A number without its sign. The whole part has at least one digit, and no zero in front of
another digit. -/
def readMagnitude (negative : Bool) (input : List Char) : Option (Json × List Char) := do
  let (whole, rest) := readDigits input
  let leading ← whole.head?
  if leading = '0' ∧ whole.length ≠ 1 then none
  else do
    let (fraction, rest) ← readFraction rest
    let (exponent, rest) ← readExponent rest
    let significand := Nat.ofDigitChars 10 whole 0
    if !(Magnitude.ofDigits whole fraction (exponent.getD 0)).isFinite then
      some (unreadable (numeral negative input rest), rest)
    else if fraction.isEmpty && exponent.isNone && !(negative && significand == 0) then
      some (integer (if negative then -significand else significand), rest)
    else some (decimal (numeral negative input rest), rest)

/-- A number at the front of a text. -/
def readNumber (input : List Char) : Option (Json × List Char) :=
  match input with
  | '-' :: rest => readMagnitude true rest
  | _ => readMagnitude false input

/-- A member whose name stands for something. -/
def namedMember? (member : Option String × Json) : Option (String × Json) :=
  member.1.map (·, member.2)

/-- The number of arrays and objects that a value may be nested in. -/
def maximumDepth : Nat := 127

mutual

/-- A value at the front of a text that starts with no white space. -/
def readValue (fuel depth : Nat) (input : List Char) : Option (Json × List Char) :=
  match fuel with
  | 0 => none
  | fuel + 1 =>
    match input with
    | 'n' :: rest => (after? ['u', 'l', 'l'] rest).map (null, ·)
    | 't' :: rest => (after? ['r', 'u', 'e'] rest).map (bool true, ·)
    | 'f' :: rest => (after? ['a', 'l', 's', 'e'] rest).map (bool false, ·)
    | '"' :: rest => (readText rest).map fun
      | (some found, rest) => (text found, rest)
      | (none, rest) => (unreadable (between input rest), rest)
    | '[' :: rest =>
      match depth, skipBlank rest with
      | 0, _ => none
      | _ + 1, ']' :: rest => some (array [], rest)
      | depth + 1, rest => (readElements fuel depth rest).map fun (elements, rest) =>
        (array elements, rest)
    | '{' :: rest =>
      match depth, skipBlank rest with
      | 0, _ => none
      | _ + 1, '}' :: rest => some (object [], rest)
      | depth + 1, rest => (readMembers fuel depth rest).map fun (members, rest) =>
        match members.mapM namedMember? with
        | some members => (object members, rest)
        | none => (unreadable (between input rest), rest)
    | _ => readNumber input

/-- The elements of an array, of which there is at least one, up to its closing bracket. -/
def readElements (fuel depth : Nat) (input : List Char) : Option (List Json × List Char) :=
  match fuel with
  | 0 => none
  | fuel + 1 => do
    let (element, rest) ← readValue fuel depth input
    match skipBlank rest with
    | ']' :: rest => some ([element], rest)
    | ',' :: rest => do
      let (elements, rest) ← readElements fuel depth (skipBlank rest)
      some (element :: elements, rest)
    | _ => none

/-- The members of an object, of which there is at least one, up to its closing bracket. -/
def readMembers (fuel depth : Nat) (input : List Char) :
    Option (List (Option String × Json) × List Char) :=
  match fuel with
  | 0 => none
  | fuel + 1 =>
    match input with
    | '"' :: rest => do
      let (name, rest) ← readText rest
      match skipBlank rest with
      | ':' :: rest => do
        let (value, rest) ← readValue fuel depth (skipBlank rest)
        match skipBlank rest with
        | '}' :: rest => some ([(name, value)], rest)
        | ',' :: rest => do
          let (members, rest) ← readMembers fuel depth (skipBlank rest)
          some ((name, value) :: members, rest)
        | _ => none
      | _ => none
    | _ => none

end

/-- The document of a text, if the text is one. Each step into a value consumes a character
within two calls, so twice the length of the text is fuel enough. -/
def parse (source : String) : Option Json := do
  let input := source.toList
  let (document, rest) ← readValue (2 * input.length + 1) maximumDepth (skipBlank input)
  if (skipBlank rest).isEmpty then some document else none

end Narrative.Json
