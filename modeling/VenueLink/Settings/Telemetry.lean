import VenueLink.Net.Uri
import VenueLink.Settings.Lookup
import VenueLink.Text.Case

/-!
# Telemetry settings

Whether spans are exported, where to, and under which name.
-/

namespace VenueLink

/-- The settings of telemetry. -/
structure Telemetry where
  /-- Whether spans are exported. -/
  enabled : Bool := false
  endpoint : String := "http://localhost:4317"
  service : String := "biconomy-connector"
deriving DecidableEq, Repr, Inhabited

/-- Why telemetry cannot be started. -/
inductive TelemetryError where
  /-- The endpoint is no address. -/
  | exporter (endpoint : String) (e : UriError)
  /-- Log lines already go somewhere else. -/
  | alreadyStarted
deriving DecidableEq, Repr

/-- The sentence for telemetry that cannot be started. -/
def TelemetryError.message : TelemetryError → String
  | exporter endpoint e =>
    "failed to create OTLP exporter: invalid URI " ++ endpoint ++ ". Reason " ++ e.message
  | alreadyStarted =>
    "failed to install tracing subscriber: a global default trace dispatcher has already been set"

namespace Telemetry

/-- Whether a switch is on: one of three words in any letter case. -/
def isOn (value : String) : Bool :=
  ["1", "true", "yes"].contains (Text.lower (Text.trim value))

/-- Read the settings from variables. -/
def read (vars : Lookup) : Telemetry where
  enabled := (vars "OTEL_ENABLED").any isOn
  endpoint := (vars "OTEL_EXPORTER_OTLP_ENDPOINT").getD (default : Telemetry).endpoint
  service := (vars "OTEL_SERVICE_NAME").getD (default : Telemetry).service

/-- The endpoint in use: the one of the settings, or of a variable when that is empty. -/
def effectiveEndpoint (vars : Lookup) (t : Telemetry) : String :=
  if t.endpoint ≠ "" then t.endpoint
  else ((vars "OTEL_EXPORTER_OTLP_TRACES_ENDPOINT").or
    (vars "OTEL_EXPORTER_OTLP_ENDPOINT")).getD (default : Telemetry).endpoint

/-- Start telemetry: an exporter needs an address, and lines can be taken over only once. -/
def start (vars : Lookup) (started : Bool) (t : Telemetry) : Except TelemetryError Unit :=
  let endpoint := t.effectiveEndpoint vars
  match t.enabled, Uri.parse endpoint with
  | true, .error e => .error (.exporter endpoint e)
  | _, _ => if started then .error .alreadyStarted else .ok ()

end Telemetry

end VenueLink
