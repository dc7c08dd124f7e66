/-!
# Blank characters

The characters with the Unicode property White_Space, and the removal of such
characters from both ends of a text.
-/

namespace VenueLink.Text

/-- A character is blank when it has the property White_Space. -/
def isBlank (c : Char) : Bool :=
  let n := c.toNat
  (0x09 ≤ n && n ≤ 0x0d) || n == 0x20 || n == 0x85 || n == 0xa0 || n == 0x1680
    || (0x2000 ≤ n && n ≤ 0x200a) || n == 0x2028 || n == 0x2029 || n == 0x202f
    || n == 0x205f || n == 0x3000

/-- The characters without the blank ones at both ends. -/
def trimChars (cs : List Char) : List Char :=
  ((cs.dropWhile isBlank).reverse.dropWhile isBlank).reverse

/-- The text without the blank characters at both ends. -/
def trim (s : String) : String :=
  String.ofList (trimChars s.toList)

/-- A text is blank when nothing of it is left after trimming. -/
def isAllBlank (s : String) : Bool :=
  s.toList.all isBlank

end VenueLink.Text
