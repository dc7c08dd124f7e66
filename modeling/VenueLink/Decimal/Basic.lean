import VenueLink.Number.Binary

/-!
# Scaled decimals

Amounts and prices are integers of at most 96 bits divided by a power of ten of at most
28 places.  The places are kept, so `1.50` and `1.5` are different texts of equal values.
-/

namespace VenueLink

/-- The first magnitude that no longer fits a coefficient. -/
def Decimal.limit : Nat := Number.pow2 96

/-- The most places after the point. -/
def Decimal.maxScale : Nat := 28

/-- The number `coefficient / 10 ^ scale`. -/
structure Decimal where
  coefficient : Int
  scale : Nat
  coefficient_lt : coefficient.natAbs < Decimal.limit := by decide
  scale_le : scale ≤ Decimal.maxScale := by decide
deriving DecidableEq, Repr

namespace Decimal

open Number (pow10)

/-- The number zero without places. -/
def zero : Decimal := ⟨0, 0, by decide, by decide⟩

instance : Inhabited Decimal := ⟨zero⟩

/-- The decimal with the given coefficient and scale, if both are in range. -/
def ofParts? (coefficient : Int) (scale : Nat) : Option Decimal :=
  if h : coefficient.natAbs < limit ∧ scale ≤ maxScale then
    some ⟨coefficient, scale, h.1, h.2⟩
  else none

/-- A magnitude with the sign of another number. -/
def withSign (negative : Bool) (n : Nat) : Int :=
  if negative then -(n : Int) else n

/-- Whether the value is zero, whatever its places. -/
def isZero (d : Decimal) : Bool :=
  d.coefficient = 0

/-- Two decimals brought to the larger of their scales. -/
def aligned (a b : Decimal) : Int × Int :=
  let s := max a.scale b.scale
  (a.coefficient * pow10 (s - a.scale), b.coefficient * pow10 (s - b.scale))

/-- Order by value. -/
def lt (a b : Decimal) : Bool :=
  let (x, y) := aligned a b
  x < y

/-- Order by value. -/
def le (a b : Decimal) : Bool :=
  let (x, y) := aligned a b
  x ≤ y

/-- Equality of values, which disregards the places. -/
def eqv (a b : Decimal) : Bool :=
  let (x, y) := aligned a b
  x = y

/-- Whether the value is greater than zero. -/
def isPositive (d : Decimal) : Bool :=
  0 < d.coefficient

/-- The magnitude of a decimal. -/
def abs (d : Decimal) : Decimal :=
  ⟨(d.coefficient.natAbs : Int), d.scale,
    (Int.natAbs_natCast d.coefficient.natAbs).symm ▸ d.coefficient_lt, d.scale_le⟩

/-- The larger of two values, the first one when they are equal. -/
def maximum (a b : Decimal) : Decimal :=
  if lt a b then b else a

/-- The text of a decimal: as many digits after the point as it has places. -/
def text (d : Decimal) : String :=
  let n := d.coefficient.natAbs
  let sign := if d.coefficient < 0 then "-" else ""
  if d.scale = 0 then sign ++ toString n
  else sign ++ toString (n / pow10 d.scale) ++ "."
    ++ Number.paddedDigits d.scale (n % pow10 d.scale)

instance : ToString Decimal := ⟨text⟩

end Decimal

end VenueLink
