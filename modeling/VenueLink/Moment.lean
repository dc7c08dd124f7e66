import VenueLink.Number.Power

/-!
# Moments and spans

A moment is a number of nanoseconds since the epoch and a span a number of nanoseconds.
Moments come from the clock or from whole milliseconds that the venue reports, which have
to lie in the years that a calendar date can have.
-/

namespace VenueLink

/-- A moment, in nanoseconds since the epoch. -/
structure Moment where
  nanos : Int
deriving DecidableEq, Repr, Inhabited

/-- A length of time, in nanoseconds. -/
structure Span where
  nanos : Nat
deriving DecidableEq, Repr, Inhabited

namespace Moment

/-- The first and the last millisecond that a calendar date can have. -/
def calendarMillis : Int × Int := (-8334601228800000, 8210266876799999)

/-- The moment at a whole number of milliseconds. -/
def ofMillis (ms : Int) : Moment := ⟨ms * 1000000⟩

/-- The moment at a whole number of milliseconds, if a calendar date has it. -/
def ofMillis? (ms : Int) : Option Moment :=
  if calendarMillis.1 ≤ ms ∧ ms ≤ calendarMillis.2 then some (ofMillis ms) else none

/-- The whole milliseconds up to a moment. -/
def millis (t : Moment) : Int := t.nanos.fdiv 1000000

/-- The nanoseconds from one moment to another, negative when the other comes first. -/
def nanosSince (t start : Moment) : Int := t.nanos - start.nanos

/-- The time from one moment to a later one, nothing when it is not later. -/
def since (later earlier : Moment) : Span := ⟨(later.nanosSince earlier).toNat⟩

end Moment

namespace Span

/-- A span of whole milliseconds. -/
def ofMillis (ms : Nat) : Span := ⟨ms * 1000000⟩

/-- A span of whole seconds. -/
def ofSecs (s : Nat) : Span := ⟨s * 1000000000⟩

/-- The whole milliseconds of a span. -/
def millis (s : Span) : Nat := s.nanos / 1000000

/-- A number of units, each divided into `10 ^ places` parts, without zeros at the end. -/
def unitsText (parts places : Nat) : String :=
  let whole := parts / Number.pow10 places
  let digits := toString (Number.pow10 places + parts % Number.pow10 places)
  let fraction := ((digits.toList.drop 1).reverse.dropWhile (· = '0')).reverse
  if fraction.isEmpty then toString whole
  else toString whole ++ "." ++ String.ofList fraction

/-- A span in the largest unit of which it has at least one. -/
def text (s : Span) : String :=
  if 1000000000 ≤ s.nanos then unitsText s.nanos 9 ++ "s"
  else if 1000000 ≤ s.nanos then unitsText s.nanos 6 ++ "ms"
  else if 1000 ≤ s.nanos then unitsText s.nanos 3 ++ "µs"
  else toString s.nanos ++ "ns"

end Span

end VenueLink
