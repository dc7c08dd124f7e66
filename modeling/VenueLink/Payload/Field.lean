import VenueLink.Decimal.Literal
import VenueLink.Json.Basic
import VenueLink.Moment
import VenueLink.Text.Blank
import VenueLink.Text.Case

/-!
# Fields of venue payloads

The venue names the same thing by several keys and writes numbers as numbers or as text.
These readings take a list of keys and accept both spellings.
-/

namespace VenueLink

namespace Json

/-- The text of a scalar: a string that is not blank, trimmed, or a number. -/
def scalarText? : Json → Option String
  | .str s => if Text.isAllBlank s then none else some (Text.trim s)
  | .num n => some n.text
  | _ => none

/-- The decimal that a number or a text denotes, zero for everything else. -/
def toDecimal : Json → Decimal
  | .num n => (Decimal.parse? n.text).getD .zero
  | .str s => (Decimal.parse? (Text.trim s)).getD .zero
  | _ => .zero

/-- The double that a number or a text denotes. -/
def toFloat? : Json → Option Float
  | .num n => some n.toFloat
  | .str s => VenueLink.Number.parseFloat? (Text.trim s)
  | _ => none

/-- The moment that a time in seconds or milliseconds denotes.  Positive numbers above
`10 ^ 12` count milliseconds, other positive numbers seconds. -/
def toMoment? (v : Json) : Option Moment :=
  v.toFloat?.bind fun s =>
    if s.isFinite && 0 < s then
      let seconds := if 1e12 < s then s / 1000 else s
      Moment.ofMillis? (VenueLink.Number.roundToInt (seconds * 1000))
    else none

/-- The moment of a time that may be absent or unreadable: then it is `now`. -/
def momentOr (now : Moment) (v? : Option Json) : Moment :=
  (v?.bind toMoment?).getD now

/-- Whether a flag of the venue says yes: true, one of three words in any letter case, or a
number other than zero. -/
def isTruthy : Option Json → Bool
  | some (.bool b) => b
  | some (.str s) => ["true", "1", "success"].contains (Text.lower (Text.trim s))
  | some (.num n) => n.toFloat != 0
  | _ => false

namespace Members

/-- The value of the first of the keys that has one other than null. -/
def first? (members : Members) (keys : List String) : Option Json :=
  (keys.filterMap fun key => members.get? key).find? fun v => !v.isNull

/-- The text of the first of the keys that has a scalar text. -/
def text? (members : Members) (keys : List String) : Option String :=
  (keys.filterMap fun key => members.get? key).findSome? scalarText?

/-- The decimal of the first of the keys that has a value other than null. -/
def decimal? (members : Members) (keys : List String) : Option Decimal :=
  (members.first? keys).map toDecimal

/-- The decimal of the first of the keys that has a value, zero when there is none. -/
def decimalOrZero (members : Members) (keys : List String) : Decimal :=
  (members.decimal? keys).getD .zero

end Members

end Json

end VenueLink
