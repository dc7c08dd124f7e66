import VenueLink.Desk.CancelRun
import VenueLink.Service.Startup

/-!
# Stopping the service

A signal stops the service.  Resting orders are canceled while there still is a way to the
venue, and then the parts of the service end.
-/

namespace VenueLink

/-- The signal that stops the service. -/
inductive StopSignal where
  | interrupt
  | terminate
deriving DecidableEq, Repr

/-- The message for a signal. -/
def StopSignal.message : StopSignal → String
  | interrupt => "Received Ctrl+C, initiating shutdown"
  | terminate => "Received SIGTERM, initiating shutdown"

namespace Service

/-- The line for the outcome of one order. -/
def outcomeLine (id : ClientId) : CancelOutcome → LogLine
  | .canceled => line .info "Order canceled" [("order", id.text)]
  | .failed reason =>
    line .warn "Order not confirmed canceled" [("order", id.text), ("reason", reason)]

/-- The lines of the cancel run at the end; none when no order rested. -/
def cancelLines (r : CancelReport) : List LogLine :=
  if r.outcomes.isEmpty then []
  else r.outcomes.map (fun entry => outcomeLine entry.1 entry.2)
    ++ [line .info "Cancel-all finished" [("canceled", toString r.successes.length),
      ("failed", toString r.failures.length)]]

/-- The lines that end the log. -/
def stoppedLines : List LogLine :=
  [line .debug "User stream event channel closed" [],
    line .info "Biconomy connector stopped" []]

end Service

end VenueLink
