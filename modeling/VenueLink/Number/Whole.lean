import VenueLink.Number.Literal

/-!
# Whole numbers in text

Digits, perhaps after a plus sign, that fit a number of bits.
-/

namespace VenueLink.Number

/-- The number that digits write, if it fits so many bits. -/
def readWhole? (bits : Nat) (cs : List Char) : Option Nat :=
  let digits := match cs with
    | '+' :: rest => rest
    | rest => rest
  match takeDigits digits with
  | (d :: ds, []) =>
    let n := ofDigits (d :: ds)
    if n < pow2 bits then some n else none
  | _ => none

/-- The number that a text writes, if it fits so many bits. -/
def parseWhole? (bits : Nat) (s : String) : Option Nat :=
  readWhole? bits s.toList

end VenueLink.Number
