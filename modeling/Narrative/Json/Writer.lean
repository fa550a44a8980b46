import Narrative.Json.Basic

/-!
# Writing JSON

The compact form has no space between tokens. The indented form puts each element and each
member on a line of its own, two spaces further in than the bracket that opens them, and writes
an empty array or object as its two brackets. Both escape a string in the same way: the quote,
the backslash and the control characters, of which five have a letter and the others four
hexadecimal digits; every other character stands for itself. A value that stands for nothing is
written as it was found.
-/

namespace Narrative.Json

/-- The written form of an integer. -/
def integerText (value : Int) : List Char :=
  if value < 0 then '-' :: Nat.toDigits 10 value.natAbs else Nat.toDigits 10 value.natAbs

/-- The written form of one character of a string. -/
def escapeChar (c : Char) : List Char :=
  if c = '"' then ['\\', '"']
  else if c = '\\' then ['\\', '\\']
  else if c.toNat < 32 then
    if c = '\x08' then ['\\', 'b']
    else if c = '\x0c' then ['\\', 'f']
    else if c = '\n' then ['\\', 'n']
    else if c = '\r' then ['\\', 'r']
    else if c = '\t' then ['\\', 't']
    else ['\\', 'u', '0', '0', Nat.digitChar (c.toNat / 16), Nat.digitChar (c.toNat % 16)]
  else [c]

/-- The written form of a string, quotes included. -/
def quote (value : String) : List Char :=
  '"' :: value.toList.flatMap escapeChar ++ ['"']

/-- Lists of characters one after another, with a separator between them. -/
def separate (separator : List Char) : List (List Char) → List Char
  | [] => []
  | [piece] => piece
  | piece :: rest => piece ++ separator ++ separate separator rest

mutual

/-- The form without space between tokens. -/
def compactText : Json → List Char
  | null => ['n', 'u', 'l', 'l']
  | bool true => ['t', 'r', 'u', 'e']
  | bool false => ['f', 'a', 'l', 's', 'e']
  | integer value => integerText value
  | decimal literal => literal.toList
  | text value => quote value
  | array elements => '[' :: separate [','] (compactElements elements) ++ [']']
  | object members => '{' :: separate [','] (compactMembers members) ++ ['}']
  | unreadable literal => literal.toList

/-- The compact forms of the elements of an array. -/
def compactElements : List Json → List (List Char)
  | [] => []
  | element :: rest => compactText element :: compactElements rest

/-- The compact forms of the members of an object. -/
def compactMembers : List (String × Json) → List (List Char)
  | [] => []
  | (name, value) :: rest => (quote name ++ ':' :: compactText value) :: compactMembers rest

end

/-- A new line with the indentation of a depth. -/
def newLine (depth : Nat) : List Char := '\n' :: List.replicate (2 * depth) ' '

mutual

/-- The indented form of a value that stands at a depth. -/
def indentedText (depth : Nat) : Json → List Char
  | array [] => ['[', ']']
  | array (element :: rest) =>
    '[' :: newLine (depth + 1)
      ++ separate (',' :: newLine (depth + 1)) (indentedElements (depth + 1) (element :: rest))
      ++ newLine depth ++ [']']
  | object [] => ['{', '}']
  | object (member :: rest) =>
    '{' :: newLine (depth + 1)
      ++ separate (',' :: newLine (depth + 1)) (indentedMembers (depth + 1) (member :: rest))
      ++ newLine depth ++ ['}']
  | null => compactText null
  | bool value => compactText (bool value)
  | integer value => compactText (integer value)
  | decimal literal => compactText (decimal literal)
  | text value => compactText (text value)
  | unreadable literal => compactText (unreadable literal)

/-- The indented forms of the elements of an array. -/
def indentedElements (depth : Nat) : List Json → List (List Char)
  | [] => []
  | element :: rest => indentedText depth element :: indentedElements depth rest

/-- The indented forms of the members of an object. -/
def indentedMembers (depth : Nat) : List (String × Json) → List (List Char)
  | [] => []
  | (name, value) :: rest =>
    (quote name ++ ':' :: ' ' :: indentedText depth value) :: indentedMembers depth rest

end

/-- The text of a document without space between tokens. -/
def compact (document : Json) : String := String.ofList document.compactText

/-- The text of a document with every element and member on its own line. -/
def indented (document : Json) : String := String.ofList (document.indentedText 0)

end Narrative.Json
