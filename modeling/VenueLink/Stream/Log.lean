import VenueLink.Log.Line
import VenueLink.Stream.Supervisor

/-!
# What the supervisor tells

The lines that a supervisor writes about connections that are tried, fail and are tried
again.
-/

namespace VenueLink.Supervisor

/-- The part of the service that the lines come from. -/
def source : String := "biconomy_connector::infrastructure::stream::supervisor"

/-- The line that an effect of a supervisor writes, if it writes one. -/
def effectLine? (s : Supervisor) : Effect → Option LogLine
  | .connect url _ => some ⟨.info, source, "Connecting user stream", [("url", url)]⟩
  | .count (.interruption _) =>
    s.monitor.lastInterruption?.map fun e =>
      ⟨.warn, source, "User stream interrupted", [("error", e.message)]⟩
  | .delay attempt d =>
    some ⟨.info, source, "Reconnecting user stream",
      [("attempt", toString attempt), ("delay_ms", toString d.millis)]⟩
  | _ => none

/-- The line that the end of a supervisor writes, if it ended on request. -/
def endLine? (s : Supervisor) : Option LogLine :=
  if s.stage = .ended none then some ⟨.info, source, "User stream supervisor stopped", []⟩
  else none

/-- The lines of a step that led to a supervisor and to effects. -/
def lines (s : Supervisor) (effects : List Effect) : List LogLine :=
  effects.filterMap s.effectLine? ++ s.endLine?.toList

end VenueLink.Supervisor
