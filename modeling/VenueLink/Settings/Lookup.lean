import VenueLink.Moment
import VenueLink.Number.Whole
import VenueLink.Text.Blank

/-!
# Variables

Settings are read from variables.  A value that cannot be read as the number that is wanted
is passed over, as if the variable were not set.
-/

namespace VenueLink

/-- The value of a variable, if it is set. -/
abbrev Lookup := String → Option String

namespace Lookup

/-- The variables of a list, the first of equal names winning. -/
def ofList (vars : List (String × String)) : Lookup :=
  fun name => vars.lookup name

/-- A whole number of so many bits, without the blanks around it. -/
def whole? (vars : Lookup) (bits : Nat) (name : String) : Option Nat :=
  (vars name).bind fun s => Number.parseWhole? bits (Text.trim s)

/-- A double, without the blanks around it. -/
def float? (vars : Lookup) (name : String) : Option Float :=
  (vars name).bind fun s => Number.parseFloat? (Text.trim s)

/-- A span of whole seconds. -/
def secs? (vars : Lookup) (name : String) : Option Span :=
  (vars.whole? 64 name).map Span.ofSecs

/-- A span of whole milliseconds. -/
def millis? (vars : Lookup) (name : String) : Option Span :=
  (vars.whole? 64 name).map Span.ofMillis

end Lookup

end VenueLink
