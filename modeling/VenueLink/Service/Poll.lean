import VenueLink.Desk.Balances
import VenueLink.Desk.Poll
import VenueLink.Service.Startup

/-!
# Polls of the service

At a fixed interval the balances are refreshed and every resting order is polled.
-/

namespace VenueLink.Service

/-- Whether polls can be timed at all: they need an interval. -/
def canPoll (s : Settings) : Bool := s.pollInterval.nanos ≠ 0

/-- A poll: balances, then every resting order. -/
def poll (p : Policy) : Routine Desk (Except VenueError Unit) := do
  let refreshed ← Desk.refreshBalances p
  Desk.sweep p
  return refreshed

/-- The lines that a poll writes. -/
def pollLines (refreshed : Except VenueError Unit) (d : Desk) : List LogLine :=
  (match refreshed with
    | .ok _ => []
    | .error e => [line .warn "Balance refresh failed" [("error", e.message)]])
    ++ [line .debug "Poll cycle complete" [("assets", toString d.balances.records.length)]]

end VenueLink.Service
