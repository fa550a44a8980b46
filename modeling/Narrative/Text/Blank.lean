/-!
# White space

White space is what the Unicode property White_Space says: 25 code points, in ten ranges.
-/

namespace Narrative.Text

/-- The first and last code points of the ranges of white space. -/
def blankRanges : List (Nat × Nat) :=
  [(0x9, 0xd), (0x20, 0x20), (0x85, 0x85), (0xa0, 0xa0), (0x1680, 0x1680), (0x2000, 0x200a),
    (0x2028, 0x2029), (0x202f, 0x202f), (0x205f, 0x205f), (0x3000, 0x3000)]

/-- Whether a character is white space. -/
def isBlank (c : Char) : Bool :=
  blankRanges.any fun range => range.1 ≤ c.toNat && c.toNat ≤ range.2

/-- Characters without the white space at their front and end. -/
def trimList (source : List Char) : List Char :=
  ((source.dropWhile isBlank).reverse.dropWhile isBlank).reverse

/-- A text without the white space around it. -/
def trim (source : String) : String := String.ofList (trimList source.toList)

end Narrative.Text
