import VenueLink.Moment.Date

/-!
# Log lines

A line has a level, the part of the service that it comes from, a message and fields.
-/

namespace VenueLink

/-- How serious a line is. -/
inductive LogLevel where
  | error
  | warn
  | info
  | debug
  | trace
deriving DecidableEq, Repr

namespace LogLevel

/-- The number of a level: the more a filter lets through, the greater it is. -/
def number : LogLevel → Nat
  | error => 1
  | warn => 2
  | info => 3
  | debug => 4
  | trace => 5

/-- The word for a level. -/
def label : LogLevel → String
  | error => "ERROR"
  | warn => "WARN"
  | info => "INFO"
  | debug => "DEBUG"
  | trace => "TRACE"

end LogLevel

/-- A line of the log. -/
structure LogLine where
  level : LogLevel
  /-- The part of the service that it comes from. -/
  source : String
  message : String
  fields : List (String × String) := []
deriving DecidableEq, Repr

/-- The text of a line: level, source, message and fields. -/
def LogLine.text (l : LogLine) : String :=
  l.level.label ++ " " ++ l.source ++ ": " ++ l.message
    ++ String.join (l.fields.map fun f => " " ++ f.1 ++ "=" ++ f.2)

/-- The text of a line with the date at which it was written; levels are flush right. -/
def LogLine.stamped (date : Moment) (l : LogLine) : String :=
  date.text 6 ++ " " ++ String.ofList (List.replicate (5 - l.level.label.length) ' ') ++ l.text

end VenueLink
