import VenueLink.Desk.Basic
import VenueLink.Json.Printer
import VenueLink.Moment.Date
import VenueLink.Net.Http
import VenueLink.Service.Startup
import VenueLink.Stream.Monitor

/-!
# The health page

What the service answers to those who ask how it is: whether it lives, whether it is ready,
a report, and what was counted.  Its stream decides how well it is.
-/

namespace VenueLink

/-- How well the service is. -/
inductive Wellbeing where
  /-- The stream is open. -/
  | healthy
  /-- The stream is being connected. -/
  | degraded
  /-- There is no stream. -/
  | unhealthy
deriving DecidableEq, Repr

namespace Wellbeing

/-- How well the service is by the state of its stream. -/
def ofState : ConnectionState → Wellbeing
  | .opened => healthy
  | .connecting => degraded
  | .interrupted => degraded
  | .closing => unhealthy
  | .closed => unhealthy

/-- The word for it. -/
def label : Wellbeing → String
  | healthy => "healthy"
  | degraded => "degraded"
  | unhealthy => "unhealthy"

end Wellbeing

/-- What the health page tells of. -/
structure HealthPage where
  version : String
  /-- The time since the service was started. -/
  uptime : Span
  now : Instant
  date : Moment
  monitor : Monitor
  desk : Desk
  /-- All that was counted. -/
  metrics : List Metric

/-- Why the page cannot be put up at its port. -/
inductive PortFault where
  | taken
  | forbidden
deriving DecidableEq, Repr

/-- The words for a port that cannot be had. -/
def PortFault.message : PortFault → String
  | taken => "Address already in use (os error 98)"
  | forbidden => "Permission denied (os error 13)"

namespace HealthPage

/-- The sentence for a port at which the page cannot be put up. -/
def bindMessage (port : Nat) (fault : PortFault) : String :=
  "cannot bind health port " ++ toString port ++ ": " ++ fault.message

/-- The line that tells whether the page was put up. -/
def line (port : Nat) : Except PortFault Unit → LogLine
  | .ok _ => ⟨.info, "biconomy_connector::infrastructure::health", "Health endpoint up",
    [("port", toString port)]⟩
  | .error fault => Service.line .error "Health server error" [("error", bindMessage port fault)]

/-- The status of a service that cannot be used. -/
def unavailable : Nat := 503

/-- A page of plain text. -/
def plain (status : Nat) (body : String) : HttpResponse :=
  { status, contentType? := some "text/plain; charset=utf-8", body }

/-- What the report says of the stream. -/
def streamReport (now : Instant) (m : Monitor) : Json :=
  let text? := fun (s? : Option String) => (s?.map Json.str).getD .null
  .object [("state", .str m.state.label), ("connections", .ofNat m.connections),
    ("last_interruption", text? (m.lastInterruption?.map fun e => e.message)),
    ("traffic", text? (m.health?.map fun h => h.summary now))]

/-- The report. -/
def report (p : HealthPage) : Json :=
  .object [("status", .str (Wellbeing.ofState p.monitor.state).label), ("version", .str p.version),
    ("uptime_secs", .ofNat (p.uptime.nanos / 1000000000)),
    ("current_time", .str p.date.exactText), ("stream", streamReport p.now p.monitor),
    ("open_orders", .ofNat p.desk.book.resting.length),
    ("balance_assets", .ofNat p.desk.balances.records.length)]

/-- What is found at a path. -/
def page? (p : HealthPage) (path : String) : Option HttpResponse :=
  match path with
  | "/health" => some {
      status := if Wellbeing.ofState p.monitor.state = .unhealthy then unavailable else 200
      contentType? := some "application/json"
      body := p.report.render }
  | "/healthz" => some (plain 200 "OK")
  | "/readyz" =>
    some (if p.monitor.isOpen then plain 200 "READY" else plain unavailable "NOT READY")
  | "/metrics" => some {
      status := 200
      contentType? := some "text/plain; version=0.0.4; charset=utf-8"
      body := Metric.exposition p.metrics }
  | _ => none

/-- The methods by which a page can be asked for. -/
def methods : List String := ["GET", "HEAD"]

/-- The answer to a request. -/
def answer (p : HealthPage) (r : HttpRequest) : HttpResponse :=
  match p.page? r.path with
  | none => { status := 404 }
  | some page =>
    if r.method ∈ methods then page
    else { status := 405, allow? := some (",".intercalate methods) }

/-- The text of the answer to the text of a request. -/
def answerText (p : HealthPage) (request : String) : String :=
  match HttpRequest.parse? request with
  | none => ({ status := 400 } : HttpResponse).text true
  | some r => (p.answer r).text (r.method ≠ "HEAD")

end HealthPage

end VenueLink
