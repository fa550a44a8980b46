import Narrative.Text.Shapeless

/-!
# Quoted text

The quoted form of a string stands between double quotes and shows every character: the quote and
the backslash after a backslash, four control characters as a letter after a backslash, any other
character without a shape of its own as its hexadecimal code point in braces, and the rest as
themselves.
-/

namespace Narrative.Text

/-- The hexadecimal code point of a character in braces. -/
def codePoint (c : Char) : List Char := '\\' :: 'u' :: '{' :: Nat.toDigits 16 c.toNat ++ ['}']

/-- The quoted form of one character. -/
def quoteChar (c : Char) : List Char :=
  if c = '"' then ['\\', '"']
  else if c = '\\' then ['\\', '\\']
  else if c = '\n' then ['\\', 'n']
  else if c = '\r' then ['\\', 'r']
  else if c = '\t' then ['\\', 't']
  else if c = '\x00' then ['\\', '0']
  else if isShapeless c then codePoint c
  else [c]

/-- The quoted form of a string. -/
def quoted (value : String) : String :=
  String.ofList ('"' :: value.toList.flatMap quoteChar ++ ['"'])

/-- The form of a value with named parts: its name, then the parts in braces. -/
def structured (name : String) (parts : List (String × String)) : String :=
  name ++ " \x7b " ++ ", ".intercalate (parts.map fun part => part.1 ++ ": " ++ part.2) ++ " \x7d"

end Narrative.Text
