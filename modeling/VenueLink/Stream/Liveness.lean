import VenueLink.Stream.Health

/-!
# Liveness

A timer beside an open connection.  At every tick it asks for a probe to be sent, unless
nothing was received for too long: then it reports the silence and ends.
-/

namespace VenueLink

/-- How often a probe is sent and how long a silence may last. -/
structure Liveness where
  pingInterval : Span
  staleAfter : Span
deriving DecidableEq, Repr, Inhabited

/-- What the timer asks for. -/
inductive LivenessEvent where
  /-- Send a probe. -/
  | probe
  /-- Nothing was received for so long. -/
  | silent (idle : Span)
deriving DecidableEq, Repr

namespace Liveness

/-- A probe every ten seconds, and at most 45 seconds of silence: the venue drops silent
streams after about 40 seconds. -/
def standard : Liveness := ⟨.ofSecs 10, .ofSecs 45⟩

/-- Whether the timer can run at all: it needs an interval. -/
def canRun (l : Liveness) : Bool := l.pingInterval.nanos ≠ 0

/-- What the timer asks for at a tick. -/
def tick (l : Liveness) (h : Health) (now : Instant) : LivenessEvent :=
  let idle := h.idle now
  if l.staleAfter.nanos < idle.nanos then .silent idle else .probe

/-- Whether the timer goes on after it asked for something. -/
def continues : LivenessEvent → Bool
  | .probe => true
  | .silent _ => false

end Liveness

end VenueLink
