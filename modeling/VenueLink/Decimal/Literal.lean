import VenueLink.Decimal.Arithmetic
import VenueLink.Number.Whole

/-!
# Decimal literals

Reading a decimal from text, with or without an exponent.  Digits that do not fit are
rounded away at the first one of them.
-/

namespace VenueLink.Decimal

open Number (digit? pow10)

/-- The digits read so far. -/
structure Reading where
  /-- The digits before and after the point as one number. -/
  value : Nat
  /-- How many of them stand after the point. -/
  places : Nat
  /-- Whether the point was read. -/
  point : Bool
  /-- Whether a digit was read. -/
  started : Bool

/-- Round at the first digit that does not fit: five and above go up.  When the rounded
number no longer fits, its last digit goes too. -/
def Reading.round? (r : Reading) (next : Nat) : Option (Nat × Nat) :=
  if next < 5 then some (r.value, r.places)
  else if r.value + 1 < limit then some (r.value + 1, r.places)
  else if r.places = 0 then none
  else some ((r.value + 1 + 4) / 10, r.places - 1)

/-- The end of a literal: digits and separators only. -/
def isTail (cs : List Char) : Bool :=
  cs.all fun c => c.isDigit || c = '_'

/-- Read the characters of a literal after its sign: digits with at most one point, and
separators anywhere after the first digit. -/
def Reading.run (r : Reading) : List Char → Option (Nat × Nat)
  | [] => if r.started then some (r.value, r.places) else none
  | c :: rest =>
    match digit? c with
    | some d =>
      let value := r.value * 10 + d
      if r.point && r.places = maxScale then
        if isTail rest then r.round? d else none
      else if value < limit then
        run ⟨value, if r.point then r.places + 1 else r.places, r.point, true⟩ rest
      else if r.point && isTail rest then r.round? d
      else none
    | none =>
      if c = '.' ∧ !r.point then run { r with point := true } rest
      else if c = '_' ∧ r.started then
        if r.point && r.places = maxScale then
          if isTail rest then r.round? 0 else none
        else run r rest
      else none

/-- A literal without exponent. -/
def readPlain? (cs : List Char) : Option Decimal :=
  let (negative, rest) := match cs with
    | '-' :: r => (true, r)
    | '+' :: r => (false, r)
    | r => (false, r)
  (Reading.run ⟨0, 0, false, false⟩ rest).bind fun (n, places) =>
    ofParts? (withSign negative n) places

/-- An exponent: digits that fit 32 bits and may have a plus in front. -/
def readPower? (cs : List Char) : Option Nat :=
  Number.readWhole? 32 cs

/-- Divide by `10 ^ n`, first rounding away the places that leave the scale. -/
def shiftDown? (d : Decimal) (n : Nat) : Option Decimal :=
  if maxScale < n then none
  else if d.scale + n ≤ maxScale then ofParts? d.coefficient (d.scale + n)
  else (d.rescale (maxScale - n)).bind fun e => ofParts? e.coefficient maxScale

/-- Multiply by `10 ^ n`: take places away while there are any, then append zeros. -/
def shiftUp? (d : Decimal) (n : Nat) : Option Decimal :=
  if n ≤ d.scale then ofParts? d.coefficient (d.scale - n)
  else if maxScale < n then none
  else ofParts? (d.coefficient * pow10 (n - d.scale)) 0

/-- A literal with an exponent: the base, the mark and the power of ten. -/
def readScientific? (cs : List Char) : Option Decimal :=
  let isMark := fun c : Char => c = 'e' ∨ c = 'E'
  match cs.dropWhile (fun c => !isMark c) with
  | [] => none
  | _ :: power =>
    (readPlain? (cs.takeWhile (fun c => !isMark c))).bind fun base =>
      match power with
      | '-' :: digits => (readPower? digits).bind (shiftDown? base)
      | digits => (readPower? digits).bind (shiftUp? base)

/-- The decimal that a text denotes, with or without an exponent. -/
def parse? (s : String) : Option Decimal :=
  (readPlain? s.toList).or (readScientific? s.toList)

end VenueLink.Decimal
