import VenueLink.Stream.Backoff

/-!
# Connection health

When the traffic of one connection was last seen.  Instants are counted in nanoseconds of a
clock that never goes back.
-/

namespace VenueLink

/-- A reading of a clock that never goes back, in nanoseconds. -/
structure Instant where
  nanos : Nat
deriving DecidableEq, Repr, Inhabited

namespace Instant

/-- The time from one instant to a later one. -/
def since (later earlier : Instant) : Span := ⟨later.nanos - earlier.nanos⟩

/-- The instant after a span. -/
def after (t : Instant) (s : Span) : Instant := ⟨t.nanos + s.nanos⟩

end Instant

/-- A span in seconds with two places after the point. -/
def Span.secondsText (s : Span) : String :=
  let (num, den) := (Number.magnitude s.seconds).fraction
  Number.fixedText 2 num den ++ "s"

/-- When the traffic of a connection was last seen. -/
structure Health where
  openedAt : Instant
  lastEvent? : Option Instant := none
  lastServerPing? : Option Instant := none
  lastClientPing? : Option Instant := none
  lastPong? : Option Instant := none
deriving DecidableEq, Repr, Inhabited

namespace Health

/-- The record of a connection begun at an instant: no traffic was seen on it. -/
def begun (t : Instant) : Health := { openedAt := t }

/-- A readable message came in. -/
def sawEvent (h : Health) (t : Instant) : Health := { h with lastEvent? := some t }

/-- A probe of the venue came in. -/
def sawServerPing (h : Health) (t : Instant) : Health := { h with lastServerPing? := some t }

/-- A probe was sent. -/
def sentPing (h : Health) (t : Instant) : Health := { h with lastClientPing? := some t }

/-- A probe of the venue was answered. -/
def sentPong (h : Health) (t : Instant) : Health := { h with lastPong? := some t }

/-- The time since the last readable message, or since the beginning. -/
def idle (h : Health) (now : Instant) : Span :=
  now.since (h.lastEvent?.getD h.openedAt)

/-- The ages of the four kinds of traffic, with their names. -/
def ages (h : Health) (now : Instant) : List (String × Option Span) :=
  [("last_event_age", h.lastEvent?), ("last_server_ping_age", h.lastServerPing?),
    ("last_client_ping_age", h.lastClientPing?), ("last_pong_age", h.lastPong?)].map
    fun (name, at?) => (name, at?.map now.since)

/-- The ages in one line. -/
def summary (h : Health) (now : Instant) : String :=
  " ".intercalate ((h.ages now).map fun (name, age?) =>
    name ++ "=" ++ match age? with
      | some age => age.secondsText
      | none => "n/a")

end Health

end VenueLink
