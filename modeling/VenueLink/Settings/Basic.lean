import VenueLink.Desk.CancelRun
import VenueLink.Settings.Lookup
import VenueLink.Stream.Supervisor
import VenueLink.Text.Cut

/-!
# Settings

What the service needs to know, read from variables.  Only the credentials are required;
everything else has a default.
-/

namespace VenueLink

/-- The settings of the service. -/
structure Settings where
  credentials : Credentials
  /-- The domain of the venue. -/
  domain : String
  pairs : List Pair
  streamUrl : String
  liveness : Liveness
  backoff : Backoff
  /-- The time allowed for the answer to the login. -/
  loginTimeout : Span
  /-- The time allowed for canceling all orders. -/
  cancelTimeout : Span
  /-- The orders that one bulk request shall cancel. -/
  cancelBatch : Nat
  /-- The age from which an order that cannot be found is given up as lost. -/
  lostAfter : Span
  /-- The time between polls. -/
  pollInterval : Span
  healthPort : Nat
deriving DecidableEq, Repr

/-- Why settings cannot be read. -/
inductive SettingsError where
  /-- A required variable is not set. -/
  | missing (name : String)
  /-- A required variable is blank. -/
  | empty (name : String)
  /-- The value of a variable cannot be read. -/
  | invalid (name value : String)
deriving DecidableEq, Repr

/-- The sentence for settings that cannot be read. -/
def SettingsError.message : SettingsError → String
  | missing name => "missing required environment variable: " ++ name
  | empty name => "environment variable " ++ name ++ " cannot be empty"
  | invalid name value => "invalid value for " ++ name ++ ": " ++ value

namespace Settings

/-- The variable of the key. -/
def keyVariable : String := "BICONOMY_API_KEY"

/-- The variable of the secret. -/
def secretVariable : String := "BICONOMY_API_SECRET"

/-- The variable of the pairs. -/
def pairsVariable : String := "BICONOMY_TRADING_PAIRS"

/-- The value of a required variable, which has to be set and not to be blank. -/
def required (vars : Lookup) (name : String) : Except SettingsError String :=
  match vars name with
  | none => .error (.missing name)
  | some value => if Text.isAllBlank value then .error (.empty name) else .ok value

/-- The items of a list with commas: trimmed, and not empty. -/
def items (raw : String) : List String :=
  ((Text.cutAt (· = ',') raw.toList).map fun cs => String.ofList (Text.trimChars cs)).filter
    (· ≠ "")

/-- Read pairs one after the other, up to the first that is none. -/
def readPairs : List String → Except SettingsError (List Pair)
  | [] => .ok []
  | s :: rest =>
    match Pair.parse? s with
    | none => .error (.invalid pairsVariable s)
    | some p => (readPairs rest).map (p :: ·)

/-- The pairs of a list with commas. -/
def pairsOf (raw? : Option String) : Except SettingsError (List Pair) :=
  readPairs ((raw?.map items).getD [])

/-- Read settings from variables. -/
def read (vars : Lookup) : Except SettingsError Settings := do
  let apiKey ← required vars keyVariable
  let apiSecret ← required vars secretVariable
  let pairs ← pairsOf (vars pairsVariable)
  return {
    credentials := ⟨apiKey, apiSecret⟩
    domain := ((vars "BICONOMY_DOMAIN").filter fun s => !Text.isAllBlank s).getD
      Venue.productionDomain
    pairs
    streamUrl := (vars "BICONOMY_WS_URL").getD Venue.streamUrl
    liveness := {
      pingInterval := (vars.secs? "BICONOMY_PING_INTERVAL_SECS").getD
        Liveness.standard.pingInterval
      staleAfter := (vars.secs? "BICONOMY_STALE_AFTER_SECS").getD Liveness.standard.staleAfter }
    backoff := { Backoff.standard with
      initial := (vars.millis? "BICONOMY_RECONNECT_DELAY_INITIAL_MS").getD
        Backoff.standard.initial
      maximum := (vars.secs? "BICONOMY_RECONNECT_DELAY_MAX_SECS").getD Backoff.standard.maximum
      multiplier := (vars.float? "BICONOMY_RECONNECT_DELAY_MULTIPLIER").getD
        Backoff.standard.multiplier
      maxAttempts := (vars.whole? 32 "BICONOMY_RECONNECT_MAX_ATTEMPTS").getD
        Backoff.standard.maxAttempts }
    loginTimeout := StreamSettings.standard.loginTimeout
    cancelTimeout := (vars.secs? "BICONOMY_CANCEL_TIMEOUT_SECS").getD (.ofSecs 10)
    cancelBatch := (vars.whole? 64 "BICONOMY_CANCEL_BATCH_SIZE").getD CancelRun.maxBatch
    lostAfter := (vars.secs? "BICONOMY_RESOLVE_FAIL_AFTER_SECS").getD (.ofSecs 30)
    pollInterval := (vars.secs? "BICONOMY_POLL_INTERVAL_SECS").getD (.ofSecs 10)
    healthPort := (vars.whole? 16 "HEALTH_PORT").getD 8083 }

/-- The base of all requests. -/
def restBase (s : Settings) : String := Venue.restBase s.domain

/-- The settings of the stream supervisor: it asks for the balances of all assets traded. -/
def stream (s : Settings) : StreamSettings where
  url := s.streamUrl
  headers := Venue.siteHeaders
  liveness := s.liveness
  backoff := s.backoff
  loginTimeout := s.loginTimeout
  assets := Pair.assets s.pairs
  credentials := s.credentials

/-- The rules of the desk. -/
def policy (s : Settings) : Policy where
  pairs := s.pairs
  lostAfter := s.lostAfter
  batchSize := s.cancelBatch

end Settings

end VenueLink
