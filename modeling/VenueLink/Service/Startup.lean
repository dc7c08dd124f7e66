import VenueLink.Log.Filter
import VenueLink.Settings.Basic
import VenueLink.Settings.Telemetry

/-!
# Starting the service

Telemetry is started first, then the settings are read; either can end the service with a
sentence.  What is told on the way depends on the filter.
-/

namespace VenueLink.Service

/-- The part of the service that most lines come from. -/
def source : String := "biconomy_connector"

/-- A line of the service itself. -/
def line (level : LogLevel) (message : String) (fields : List (String × String)) : LogLine :=
  ⟨level, source, message, fields⟩

/-- The variables that the service reads. -/
def variableNames : List String :=
  ["BICONOMY_API_KEY", "BICONOMY_API_SECRET", "BICONOMY_CANCEL_BATCH_SIZE",
    "BICONOMY_CANCEL_TIMEOUT_SECS", "BICONOMY_DOMAIN", "BICONOMY_PING_INTERVAL_SECS",
    "BICONOMY_POLL_INTERVAL_SECS", "BICONOMY_RECONNECT_DELAY_INITIAL_MS",
    "BICONOMY_RECONNECT_DELAY_MAX_SECS", "BICONOMY_RECONNECT_DELAY_MULTIPLIER",
    "BICONOMY_RECONNECT_MAX_ATTEMPTS", "BICONOMY_RESOLVE_FAIL_AFTER_SECS",
    "BICONOMY_STALE_AFTER_SECS", "BICONOMY_TRADING_PAIRS", "BICONOMY_WS_URL", "HEALTH_PORT",
    "OTEL_ENABLED", "OTEL_EXPORTER_OTLP_ENDPOINT", "OTEL_EXPORTER_OTLP_TRACES_ENDPOINT",
    "OTEL_SERVICE_NAME", "RUST_LOG"]

/-- The lines that tell the settings. -/
def settingsLines (s : Settings) : List LogLine :=
  [line .info "Configuration loaded" [("domain", s.domain),
      ("trading_pairs", toString s.pairs.length), ("health_port", toString s.healthPort),
      ("poll_interval_secs", toString (s.pollInterval.nanos / 1000000000))],
    line .debug "Venue endpoints" [("rest_base_url", s.restBase), ("stream_url", s.streamUrl),
      ("ping_interval_secs", toString (s.liveness.pingInterval.nanos / 1000000000))]]

/-- What came of a start: the settings, or the sentence with which the service ends; and the
lines written. -/
structure Startup where
  settings : Except String Settings
  lines : List LogLine

/-- What is written when the service ends with a sentence. -/
def complaint (message : String) : String := "Error: " ++ message

/-- Start with some variables. -/
def start (vars : Lookup) : Startup :=
  match (Telemetry.read vars).start vars false with
  | .error e => ⟨.error (complaint e.message), []⟩
  | .ok _ =>
    let starting := line .info "Starting Biconomy connector" []
    match Settings.read vars with
    | .error e => ⟨.error (complaint e.message), [starting]⟩
    | .ok s => ⟨.ok s, starting :: settingsLines s⟩

end VenueLink.Service
