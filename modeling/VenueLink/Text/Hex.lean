/-!
# Hexadecimal digits

The digits in lower and in upper case, and the value of a digit in either.
-/

namespace VenueLink.Text

/-- The digit of a value below sixteen, in lower case. -/
def lowerHex (n : Nat) : Char :=
  if n < 10 then Char.ofNat (48 + n) else Char.ofNat (87 + n)

/-- The digit of a value below sixteen, in upper case. -/
def upperHex (n : Nat) : Char :=
  if n < 10 then Char.ofNat (48 + n) else Char.ofNat (55 + n)

/-- The two digits of a byte, in upper case. -/
def upperHexByte (b : UInt8) : List Char :=
  [upperHex (b.toNat / 16), upperHex (b.toNat % 16)]

/-- The value of a digit in either case. -/
def hexValue? (c : Char) : Option Nat :=
  if c.isDigit then some (c.toNat - 48)
  else if 'a' ≤ c ∧ c ≤ 'f' then some (c.toNat - 87)
  else if 'A' ≤ c ∧ c ≤ 'F' then some (c.toNat - 55)
  else none

theorem hexValue?_lowerHex :
  ∀ n < 16, hexValue? (lowerHex n) = some n
  := by
  decide

end VenueLink.Text
