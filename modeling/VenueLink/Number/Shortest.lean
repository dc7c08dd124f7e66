import VenueLink.Number.Binary

/-!
# Shortest decimal text of a double

The fewest decimal digits that read back as a given double, the nearest such digits when
there are several, and the two layouts in which they are written.
-/

namespace VenueLink.Number

/-- The decimal `digits * 10 ^ exponent`. -/
structure Digits where
  digits : Nat
  exponent : Int
deriving Repr, DecidableEq

/-- The powers of ten as a fraction: numerator and denominator. -/
def powerOfTen (e : Int) : Nat × Nat :=
  if 0 ≤ e then (pow10 e.toNat, 1) else (1, pow10 (-e).toNat)

/-- The least `k` with `num < den * 10 ^ k`, for a positive fraction: the place of its
first digit. -/
def firstPlace (num den : Nat) : Int :=
  let guess : Int := (Nat.toDigits 10 num).length - (Nat.toDigits 10 den).length
  let (p, q) := powerOfTen guess
  if num * q < den * p then guess else guess + 1

/-- The reals that round to a double: ends as numerators over a common denominator, and
whether the ends belong to it. -/
structure Rounding where
  lower : Nat
  value : Nat
  upper : Nat
  denominator : Nat
  closed : Bool

/-- The interval of reals that round to the double of magnitude `v`.  The gap below a
power of two is half as wide as the one above. -/
def Magnitude.rounding (v : Magnitude) : Rounding :=
  let narrow := v.mantissa = pow2 52 ∧ -1074 < v.exponent
  let (scale, den) := ({ mantissa := 1, exponent := v.exponent - 2 } : Magnitude).fraction
  { lower := (4 * v.mantissa - if narrow then 1 else 2) * scale
    value := 4 * v.mantissa * scale
    upper := (4 * v.mantissa + 2) * scale
    denominator := den
    closed := v.mantissa % 2 = 0 }

/-- Whether `k * 10 ^ e` rounds to the double. -/
def Rounding.holds (r : Rounding) (k : Nat) (e : Int) : Bool :=
  let (p, q) := powerOfTen e
  let point := k * p * r.denominator
  if r.closed then r.lower * q ≤ point && point ≤ r.upper * q
  else r.lower * q < point && point < r.upper * q

/-- The multiple of `10 ^ e` next to the value that rounds to it, the nearer one of two. -/
def Rounding.onGrid (r : Rounding) (e : Int) : Option Nat :=
  let (p, q) := powerOfTen e
  let num := r.value * q
  let den := r.denominator * p
  let below := num / den
  let nearest := roundDiv num den .even
  let other := if nearest = below then below + 1 else below
  if r.holds nearest e then some nearest
  else if r.holds other e then some other
  else none

/-- The digits without the zeros at their end. -/
def Digits.strip (fuel : Nat) (d : Digits) : Digits :=
  match fuel with
  | 0 => d
  | fuel + 1 =>
    if d.digits ≠ 0 ∧ d.digits % 10 = 0 then
      Digits.strip fuel ⟨d.digits / 10, d.exponent + 1⟩
    else d

/-- The shortest digits that read back as a finite positive double. -/
def shortest (v : Magnitude) : Digits :=
  let r := v.rounding
  let place := firstPlace r.value r.denominator
  let found? := (List.range 17).findSome? fun n =>
    let e := place - (n + 1 : Nat)
    (r.onGrid e).map fun k => Digits.strip 18 ⟨k, e⟩
  found?.getD ⟨0, 0⟩

/-- How the digits of a double are laid out. -/
structure Layout where
  /-- Doubles below ten to this power are written with an exponent. -/
  leastPlace : Int
  /-- A positive exponent is written with its sign. -/
  plus : Bool

/-- The numbers of the data format keep the point down to `0.00001` and write `1e+16`. -/
def Layout.json : Layout := ⟨-5, true⟩

/-- The numbers of a report keep the point down to `0.0001` and write `1e16`. -/
def Layout.plain : Layout := ⟨-4, false⟩

/-- Digits with a point, at least one digit standing on either side of it. -/
def Digits.positional (d : Digits) : String :=
  if 0 ≤ d.exponent then toString (d.digits * pow10 d.exponent.toNat) ++ ".0"
  else
    let places := (-d.exponent).toNat
    toString (d.digits / pow10 places) ++ "." ++ paddedDigits places (d.digits % pow10 places)

/-- Digits with a point after the first one and an exponent. -/
def Digits.scientific (plus : Bool) (d : Digits) : String :=
  let text := toString d.digits
  let exponent := d.exponent + (text.length - 1 : Nat)
  let tail := text.toList.drop 1
  String.ofList (text.toList.take 1) ++ (if tail.isEmpty then "" else "." ++ String.ofList tail)
    ++ "e" ++ (if plus && 0 ≤ exponent then "+" else "") ++ toString exponent

/-- The text of a double in a layout: the point stands below `10 ^ 16`. -/
def Layout.text (layout : Layout) (x : Float) : String :=
  if x.isNaN then "NaN"
  else
    let sign := if isNegative x then "-" else ""
    if !x.isFinite then sign ++ "inf"
    else
      let v := magnitude x
      if v.mantissa = 0 then sign ++ "0.0"
      else
        let d := shortest v
        let place := d.exponent + ((toString d.digits).length - 1 : Nat)
        if layout.leastPlace ≤ place ∧ place < 16 then sign ++ d.positional
        else sign ++ d.scientific layout.plus

end VenueLink.Number
