import VenueLink.Moment

/-!
# Calendar dates

The date and the time of day of a moment, in the calendar that is used everywhere, and
their text.
-/

namespace VenueLink

/-- A day of the calendar. -/
structure Date where
  year : Int
  month : Nat
  day : Nat
deriving DecidableEq, Repr

namespace Date

/-- The days of 400 years, after which the calendar repeats. -/
def daysOfCycle : Nat := 146097

/-- The days from the first of March of the year 0 to the epoch. -/
def daysBeforeEpoch : Int := 719468

/-- The date that is so many days after the epoch.  Years are counted from March on, so that
a leap day ends its year. -/
def ofDays (days : Int) : Date :=
  let shifted := days + daysBeforeEpoch
  let cycle := shifted.fdiv daysOfCycle
  let inCycle := (shifted.fmod daysOfCycle).toNat
  let year := (inCycle - inCycle / 1460 + inCycle / 36524 - inCycle / 146096) / 365
  let inYear := inCycle - (365 * year + year / 4 - year / 100)
  let fromMarch := (5 * inYear + 2) / 153
  let month := if fromMarch < 10 then fromMarch + 3 else fromMarch - 9
  { year := cycle * 400 + year + if month ≤ 2 then 1 else 0
    month
    day := inYear - (153 * fromMarch + 2) / 5 + 1 }

/-- A number with at least so many digits. -/
def padded (digits n : Nat) : String :=
  let text := toString n
  String.ofList (List.replicate (digits - text.length) '0') ++ text

/-- The text of a date.  A year outside of four digits has a sign. -/
def text (d : Date) : String :=
  let sign := if d.year < 0 then "-" else if 9999 < d.year then "+" else ""
  sign ++ padded 4 d.year.natAbs ++ "-" ++ padded 2 d.month ++ "-" ++ padded 2 d.day

end Date

namespace Moment

/-- The nanoseconds of a day. -/
def nanosOfDay : Nat := 86400000000000

/-- The date of a moment. -/
def date (t : Moment) : Date := .ofDays (t.nanos.fdiv nanosOfDay)

/-- The text of the date and time of a moment, the seconds with so many places, at most
nine. -/
def text (places : Nat) (t : Moment) : String :=
  let ofDay := (t.nanos.fmod nanosOfDay).toNat
  let secs := ofDay / 1000000000
  let fraction := ofDay % 1000000000 / Number.pow10 (9 - places)
  t.date.text ++ "T" ++ Date.padded 2 (secs / 3600) ++ ":" ++ Date.padded 2 (secs / 60 % 60)
    ++ ":" ++ Date.padded 2 (secs % 60)
    ++ (if places = 0 then "" else "." ++ Date.padded places fraction) ++ "Z"

/-- The text of a moment with the fewest of no, three, six and nine places that lose
nothing. -/
def exactText (t : Moment) : String :=
  t.text (([0, 3, 6].find? fun places => t.nanos % Number.pow10 (9 - places) = 0).getD 9)

end Moment

end VenueLink
