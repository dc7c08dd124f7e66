import VenueLink.Log.Line
import VenueLink.Number.Whole
import VenueLink.Settings.Lookup
import VenueLink.Text.Blank
import VenueLink.Text.Cut

/-!
# Log filters

A filter is a list of directives with commas between them.  A directive sets the level for
the sources that begin with a text, or for all of them; in brackets it can ask for the name
of a span and for fields.  The most specific directive that applies to a line decides.
-/

namespace VenueLink

/-- A directive: it lets lines up to a level through. -/
structure LogDirective where
  source? : Option String := none
  span? : Option String := none
  /-- The fields asked for, and whether a value is asked for. -/
  fields : List (String × Bool) := []
  /-- Zero lets nothing through, five everything. -/
  level : Nat := LogLevel.trace.number
deriving DecidableEq, Repr

/-- The directives that can apply to a line outside of all spans. -/
structure LogFilter where
  directives : List LogDirective
deriving DecidableEq, Repr

namespace LogDirective

/-- The level that a text names, by a number or by a word in any letter case. -/
def readLevel? (cs : List Char) : Option Nat :=
  match Number.readWhole? 64 cs with
  | some n => if n ≤ 5 then some n else none
  | none => [("error", 1), ("warn", 2), ("info", 3), ("debug", 4), ("trace", 5), ("off", 0)].lookup
      (String.ofList (cs.map Char.toLower))

/-- What follows the brackets, or the source when there are none: nothing, or a level. -/
def withLevel? (d : LogDirective) : List Char → Option LogDirective
  | [] => some d
  | '=' :: [] => some d
  | '=' :: level => (readLevel? level).map fun level => { d with level }
  | _ => none

/-- A field that is asked for. -/
def readField? (cs : List Char) : Option (String × Bool) :=
  if cs.isEmpty then none
  else some (String.ofList (cs.takeWhile (· ≠ '=')), cs.contains '=')

/-- The rest of a directive after an opening bracket: the name of a span, fields in braces,
and what follows. -/
def withBrackets? (d : LogDirective) (cs : List Char) : Option LogDirective :=
  let name := cs.takeWhile fun c => !(c = ']' || c = '\x7b')
  match cs.drop name.length with
  | ']' :: rest => withLevel? { d with span? := some (String.ofList name) } rest
  | '\x7b' :: rest =>
    let field := rest.takeWhile (· ≠ '\x7d')
    match rest.drop field.length with
    | '\x7d' :: ']' :: after =>
      (readField? field).bind fun field =>
        let span? := if name.isEmpty then none else some (String.ofList name)
        withLevel? { d with span?, fields := [field] } after
    | _ => none
  | _ => none

/-- Whether a directive may begin with a character. -/
def mayBegin (c : Char) : Bool :=
  c.isAlphanum || c = '-' || c = ':' || c = '_' || 0x80 ≤ c.toNat

/-- The directive that a text is.  A text without a level is one, or else a source of which
everything is let through. -/
def read? (s : List Char) : Option LogDirective :=
  match Text.trimChars s with
  | [] => none
  | '[' :: rest => withBrackets? {} rest
  | c :: cs =>
    if !mayBegin c then none
    else
      let first := (c :: cs).takeWhile fun c => !(c = '=' || c = '[')
      match (c :: cs).drop first.length with
      | [] => match readLevel? first with
        | some level => some { level }
        | none => some { source? := some (String.ofList first) }
      | '[' :: rest => withBrackets? { source? := some (String.ofList first) } rest
      | rest => withLevel? { source? := some (String.ofList first) } rest

/-- Whether a directive can apply outside of all spans. -/
def isStatic (d : LogDirective) : Bool :=
  d.span?.isNone && d.fields.all fun f => !f.2

/-- Whether a directive asks for a span or for fields. -/
def isDynamic (d : LogDirective) : Bool :=
  d.span?.isSome || !d.fields.isEmpty

/-- Whether a directive applies to a line. -/
def applies (d : LogDirective) (l : LogLine) : Bool :=
  (d.source?.all fun s => s.toList.isPrefixOf l.source.toList)
    && d.fields.all fun f => f.1 = "message" || l.fields.any fun g => g.1 = f.1

/-- Whether a directive is at least as specific as another one that applies to the same
line. -/
def atLeast (d e : LogDirective) : Bool :=
  let length := fun (d : LogDirective) => (d.source?.map fun s => s.utf8ByteSize + 1).getD 0
  length e < length d || (length e = length d && e.fields.length ≤ d.fields.length)

end LogDirective

namespace LogFilter

/-- Lines of information and of anything more serious. -/
def standard : LogFilter := ⟨[{ level := LogLevel.info.number }]⟩

/-- Errors alone: the filter of no directives. -/
def errorsOnly : LogFilter := ⟨[{ level := LogLevel.error.number }]⟩

/-- The filter that a text is, if all its directives can be read. -/
def parse? (s : String) : Option LogFilter :=
  (((Text.cutAt (· = ',') s.toList).filter (· ≠ [])).mapM LogDirective.read?).map fun ds =>
    if ds.isEmpty then errorsOnly
    else ⟨ds.filter (fun d => !d.isDynamic) ++ ds.filter (fun d => d.isDynamic && d.isStatic)⟩

/-- The filter that a variable sets; without one, or when it cannot be read, the standard
filter. -/
def read (vars : Lookup) : LogFilter :=
  ((vars "RUST_LOG").bind parse?).getD standard

/-- The directive that decides about a line: the last one of the most specific. -/
def decisive? (f : LogFilter) (l : LogLine) : Option LogDirective :=
  (f.directives.filter fun d => d.applies l).foldl
    (fun best d => match best with
      | none => some d
      | some b => if d.atLeast b then some d else some b) none

/-- Whether a line is let through. -/
def passes (f : LogFilter) (l : LogLine) : Bool :=
  (f.decisive? l).any fun d => l.level.number ≤ d.level

end LogFilter

end VenueLink
