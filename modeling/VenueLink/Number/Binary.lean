import VenueLink.Number.Power

/-!
# Binary fractions

A finite double is an integer times a power of two.  This module takes a double apart
into these two integers and rounds it to whole numbers and to fixed places by exact
arithmetic on them.
-/

namespace VenueLink.Number

/-- The magnitude `mantissa * 2 ^ exponent` of a finite double. -/
structure Magnitude where
  mantissa : Nat
  exponent : Int
deriving Repr, DecidableEq

/-- The mantissa and exponent that a finite double stores. -/
def magnitude (x : Float) : Magnitude :=
  let bits := x.toBits.toNat
  let fraction : Nat := bits % pow2 52
  let biased : Nat := bits / pow2 52 % pow2 11
  if biased = 0 then ⟨fraction, -1074⟩ else ⟨fraction + pow2 52, (biased : Int) - 1075⟩

/-- Whether the sign bit is set. -/
def isNegative (x : Float) : Bool :=
  pow2 63 ≤ x.toBits.toNat

/-- A magnitude as a fraction: numerator and denominator. -/
def Magnitude.fraction (v : Magnitude) : Nat × Nat :=
  if 0 ≤ v.exponent then (v.mantissa * pow2 v.exponent.toNat, 1)
  else (v.mantissa, pow2 (-v.exponent).toNat)

/-- How a value halfway between two neighbours is rounded. -/
inductive Tie where
  /-- To the neighbour further from zero. -/
  | away
  /-- To the even neighbour. -/
  | even
deriving Repr, DecidableEq

/-- The whole number nearest to `num / den`. -/
def roundDiv (num den : Nat) (tie : Tie) : Nat :=
  let q := num / den
  let r := num % den
  if 2 * r < den then q
  else if den < 2 * r then q + 1
  else match tie with
    | .away => q + 1
    | .even => q + q % 2

/-- The whole number nearest to a finite double, a half going away from zero. -/
def roundToInt (x : Float) : Int :=
  let (num, den) := (magnitude x).fraction
  let n := roundDiv num den .away
  if isNegative x then -(n : Int) else n

/-- The whole number that a finite double has before its point. -/
def truncToInt (x : Float) : Int :=
  let (num, den) := (magnitude x).fraction
  let n := num / den
  if isNegative x then -(n : Int) else n

/-- The decimal digits of `n`, with zeros in front up to `width` digits. -/
def paddedDigits (width n : Nat) : String :=
  let digits := toString n
  "".pushn '0' (width - digits.length) ++ digits

/-- A nonnegative fraction written with `places` digits after the point, a half going to
the even digit. -/
def fixedText (places num den : Nat) : String :=
  let n := roundDiv (num * pow10 places) den .even
  if places = 0 then toString n
  else toString (n / pow10 places) ++ "." ++ paddedDigits places (n % pow10 places)

end VenueLink.Number
