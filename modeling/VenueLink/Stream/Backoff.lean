import VenueLink.Moment
import VenueLink.Number.Binary

/-!
# Reconnect backoff

The delays between attempts to connect: they grow by a factor from a first delay to a
greatest one, and may be spread at random.  After a connection was open they start anew.
-/

namespace VenueLink

/-- A span in seconds. -/
def Span.seconds (s : Span) : Float :=
  Float.ofNat (s.nanos / 1000000000)
    + Float.ofNat (s.nanos % 1000000000) / Float.ofNat 1000000000

/-- The span of a finite number of seconds that is not negative, to the nearest
nanosecond. -/
def Span.ofSeconds (x : Float) : Span :=
  let (num, den) := (Number.magnitude x).fraction
  ⟨Number.roundDiv (num * 1000000000) den .even⟩

/-- How delays grow and when attempts end. -/
structure Backoff where
  /-- The delay before the first attempt. -/
  initial : Span
  /-- The greatest delay. -/
  maximum : Span
  /-- The factor from one delay to the next. -/
  multiplier : Float
  /-- The part of a delay by which it may be spread. -/
  jitter : Float
  /-- The attempts allowed in a row, without limit when zero. -/
  maxAttempts : Nat
deriving DecidableEq, Repr

namespace Backoff

/-- One second, doubled up to half a minute, spread by a tenth, without end. -/
def standard : Backoff := ⟨.ofSecs 1, .ofSecs 30, 2, 0.1, 0⟩

instance : Inhabited Backoff := ⟨standard⟩

/-- A power by repeated squaring, from the lowest bit of the exponent on. -/
def powerFrom : Nat → Float → Float → Nat → Float
  | 0, result, _, _ => result
  | fuel + 1, result, base, n =>
    let result := if n % 2 = 1 then result * base else result
    if n / 2 = 0 then result else powerFrom fuel result (base * base) (n / 2)

/-- A power with a whole exponent, which is cut to 31 bits. -/
def power (base : Float) (n : Nat) : Float :=
  powerFrom 32 1 base (min n (Number.pow2 31 - 1))

/-- The delay after so many attempts, before it is spread.  Factors below one count as one,
and a delay that is no number or too great is the greatest one. -/
def delay (b : Backoff) (attempts : Nat) : Span :=
  let factor := if 1 < b.multiplier then b.multiplier else 1
  let scaled := b.initial.seconds * power factor attempts
  if !scaled.isFinite || b.maximum.seconds ≤ scaled then b.maximum
  else .ofSeconds scaled

/-- A delay spread by a number between minus and plus the jitter. -/
def spread (b : Backoff) (d : Span) (offset : Float) : Span :=
  if b.jitter ≤ 0 || d.nanos = 0 then d
  else
    let factor := 1 + offset
    .ofSeconds ((if 0 < factor then factor else 0) * d.seconds)

/-- Whether another attempt is allowed after so many. -/
def allows (b : Backoff) (attempts : Nat) : Bool :=
  b.maxAttempts = 0 || attempts < b.maxAttempts

/-- The delay before the next attempt, if one is allowed, and the attempts then made. -/
def next? (b : Backoff) (attempts : Nat) : Option (Span × Nat) :=
  if b.allows attempts then some (b.delay attempts, attempts + 1) else none

end Backoff

end VenueLink
