import VenueLink.Decimal.Basic

/-!
# Checked arithmetic of decimals

Sums, differences, products and quotients that are exact when the result fits and
otherwise rounded to the digits that fit, a half going to the even digit.  A result whose
whole part does not fit is no result.
-/

namespace VenueLink.Decimal

open Number (pow10 pow2 roundDiv)

/-- The fewest digits at the end of `n` that have to go so that the rest fits, given the
number of digits already dropped. -/
def dropFrom (n scale : Nat) : Nat → Nat → Option Nat
  | _, 0 => none
  | dropped, fuel + 1 =>
    if scale < dropped then none
    else if scale ≤ maxScale + dropped ∧ roundDiv n (pow10 dropped) .even < limit then
      some dropped
    else dropFrom n scale (dropped + 1) fuel

/-- The decimal nearest to `± n / 10 ^ scale` among those with the most places that fit. -/
def fit? (negative : Bool) (n scale : Nat) : Option Decimal :=
  (dropFrom n scale 0 (scale + 1)).bind fun dropped =>
    ofParts? (withSign negative (roundDiv n (pow10 dropped) .even)) (scale - dropped)

/-- The sum at the larger of the two scales.  Adding zero leaves the other operand as it
is, places included. -/
def add? (a b : Decimal) : Option Decimal :=
  if a.isZero then some b
  else if b.isZero then some a
  else
    let (x, y) := aligned a b
    fit? (x + y < 0) (x + y).natAbs (max a.scale b.scale)

/-- The decimal with the opposite sign. -/
def neg (d : Decimal) : Decimal :=
  ⟨-d.coefficient, d.scale, (Int.natAbs_neg d.coefficient).symm ▸ d.coefficient_lt,
    d.scale_le⟩

/-- The difference, under the rules of the sum. -/
def sub? (a b : Decimal) : Option Decimal :=
  add? a b.neg

/-- The product at the sum of the two scales.  A zero factor gives zero without places, and
so does a product of two coefficients below `2 ^ 32` beyond 47 places. -/
def mul? (a b : Decimal) : Option Decimal :=
  let x := a.coefficient.natAbs
  let y := b.coefficient.natAbs
  let scale := a.scale + b.scale
  if x = 0 ∨ y = 0 then some zero
  else if x < pow2 32 ∧ y < pow2 32 ∧ 47 < scale then some zero
  else fit? (a.coefficient * b.coefficient < 0) (x * y) scale

/-- How many digits, nine at most, a quotient at `scale` can be lengthened by. -/
def headroom (quotient : Nat) (scale : Int) : Nat :=
  (List.range 9).foldl
    (fun best k =>
      if (scale + (k + 1 : Nat) ≤ maxScale) ∧ quotient * pow10 (k + 1) < limit then k + 1
      else best)
    0

/-- A quotient in the making. -/
structure Quotient where
  quotient : Nat
  remainder : Nat
  scale : Int
  /-- Whether digits were appended for a remainder. -/
  lengthened : Bool

/-- Lengthen a quotient until it is exact or no further digit fits. -/
def Quotient.lengthen (divisor : Nat) : Nat → Quotient → Option Quotient
  | 0, _ => none
  | fuel + 1, q =>
    if q.remainder = 0 then
      if 0 ≤ q.scale then some q
      else
        let k := min 9 (-q.scale).toNat
        if q.quotient * pow10 k < limit then
          lengthen divisor fuel ⟨q.quotient * pow10 k, 0, q.scale + k, q.lengthened⟩
        else none
    else
      let k := if q.scale = maxScale then 0 else headroom q.quotient q.scale
      if k < 9 ∧ q.scale + k < 0 then none
      else if k = 0 then
        let twice := 2 * q.remainder
        let up := divisor < twice ∨ (twice = divisor ∧ q.quotient % 2 = 1)
        let n := if up then q.quotient + 1 else q.quotient
        if n < limit then some ⟨n, 0, q.scale, true⟩
        else if q.scale < 1 then none
        else some ⟨roundDiv n 10 .even, 0, q.scale - 1, true⟩
      else
        let scaled := q.remainder * pow10 k
        let n := q.quotient * pow10 k + scaled / divisor
        let r := scaled % divisor
        if n < limit then lengthen divisor fuel ⟨n, r, q.scale + k, true⟩
        else if q.scale + k < 1 then none
        else
          let sticky := if r = 0 then 0 else 1
          some ⟨roundDiv (2 * n + sticky) 20 .even, 0, q.scale + k - 1, true⟩

/-- Take `k` zeros off the end of a number with at least `k` places, if it ends in them. -/
def dropZeros (k : Nat) (n : Nat × Nat) : Nat × Nat :=
  if k ≤ n.2 ∧ n.1 % pow10 k = 0 then (n.1 / pow10 k, n.2 - k) else n

/-- Take zeros off by eights as long as the number is also a multiple of `2 ^ 32`. -/
def dropEights : Nat → Nat × Nat → Nat × Nat
  | 0, n => n
  | fuel + 1, n =>
    if n.1 % pow2 32 = 0 ∧ 8 ≤ n.2 ∧ n.1 % pow10 8 = 0 then
      dropEights fuel (n.1 / pow10 8, n.2 - 8)
    else n

/-- The zeros at the end of a lengthened quotient come off in blocks of eight, four, two
and one, each of the last three at most once. -/
def shorten (n scale : Nat) : Nat × Nat :=
  dropZeros 1 (dropZeros 2 (dropZeros 4 (dropEights 4 (n, scale))))

/-- The quotient: division by zero has none, zero divided by anything is zero without
places, and digits are appended nine at a time until the quotient is exact or full. -/
def div? (a b : Decimal) : Option Decimal :=
  let x := a.coefficient.natAbs
  let y := b.coefficient.natAbs
  if y = 0 then none
  else if x = 0 then some zero
  else
    let start : Quotient := ⟨x / y, x % y, (a.scale : Int) - b.scale, false⟩
    (start.lengthen y 16).bind fun q =>
      let (n, scale) := if q.lengthened then shorten q.quotient q.scale.toNat
        else (q.quotient, q.scale.toNat)
      ofParts? (withSign (a.coefficient * b.coefficient < 0) n) scale

/-- The same value at a smaller scale, a half going away from zero. -/
def rescale (d : Decimal) (scale : Nat) : Option Decimal :=
  if d.scale ≤ scale then ofParts? (d.coefficient * pow10 (scale - d.scale)) scale
  else
    ofParts? (withSign (d.coefficient < 0)
      (roundDiv d.coefficient.natAbs (pow10 (d.scale - scale)) .away)) scale

end VenueLink.Decimal
