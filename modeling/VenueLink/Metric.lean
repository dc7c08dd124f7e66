import VenueLink.Order.Book
import VenueLink.Stream.Error

/-!
# Metrics

What the service counts: reconciliation results, contradictions, unreadable payloads and
the fate of stream connections.  Each metric has a sample that it raises and a line that
explains it.
-/

namespace VenueLink

/-- Something that is counted, or the connection flag. -/
inductive Metric where
  /-- An order left a cancel run with an outcome. -/
  | cancelOutcome (outcome : String)
  /-- So many members of a bulk cancel were not acknowledged. -/
  | unacknowledged (members : Nat)
  /-- A search for a venue id ended. -/
  | resolution (outcome : String)
  /-- Contradicting information about an order came in. -/
  | anomaly (kind : String)
  /-- A payload or a record of it was skipped. -/
  | malformed (source : String)
  /-- A new fill was recorded. -/
  | fill
  /-- The user stream is open, or is not. -/
  | connected (isOpen : Bool)
  /-- The user stream was interrupted. -/
  | interruption (reason : String)
  /-- The user stream is connected again. -/
  | reconnect
deriving DecidableEq, Repr

/-- The word for a contradiction. -/
def Anomaly.label : Anomaly → String
  | venueIdConflict => "venue_id_conflict"
  | terminalConflict => "terminal_conflict"

namespace Metric

/-- The name of a metric and the sentence that explains it. -/
def about : Metric → String × String
  | cancelOutcome _ => ("biconomy_cancel_outcomes_total", "Per-order cancel-all outcomes by result")
  | unacknowledged _ => ("biconomy_batch_cancel_unacknowledged_total",
      "Bulk-cancel members routed to the single-cancel fallback")
  | resolution _ => ("biconomy_resolutions_total", "Venue id resolution attempts by outcome")
  | anomaly _ => ("biconomy_state_anomalies_total", "Conflicting order information by kind")
  | malformed _ => ("biconomy_malformed_payloads_total",
      "Venue payloads or records skipped as malformed")
  | fill => ("biconomy_trade_fills_total", "New fills forwarded to the tracker")
  | connected _ => ("biconomy_stream_connected", "1 while the user stream is open, 0 otherwise")
  | interruption _ => ("biconomy_stream_interruptions_total", "User stream interruptions by reason")
  | reconnect => ("biconomy_stream_reconnects_total", "User stream reconnection attempts")

/-- Whether the metric is a level rather than a count. -/
def isGauge : Metric → Bool
  | connected _ => true
  | _ => false

/-- The lines that describe a metric in an exposition. -/
def describe (m : Metric) : List String :=
  let (name, help) := m.about
  ["# HELP " ++ name ++ " " ++ help,
    "# TYPE " ++ name ++ " " ++ if m.isGauge then "gauge" else "counter"]

/-- The label of a metric, if it has one. -/
def label? : Metric → Option (String × String)
  | cancelOutcome v => some ("outcome", v)
  | resolution v => some ("outcome", v)
  | anomaly v => some ("kind", v)
  | malformed v => some ("source", v)
  | interruption v => some ("reason", v)
  | _ => none

/-- The sample that a metric raises: its name with its label. -/
def sample (m : Metric) : String :=
  match m.label? with
  | none => m.about.1
  | some (key, value) => m.about.1 ++ "\x7b" ++ key ++ "=\"" ++ value ++ "\"\x7d"

/-- By how much a metric raises its sample. -/
def amount : Metric → Nat
  | unacknowledged n => n
  | connected _ => 0
  | _ => 1

/-- Add to the entry of a sample. -/
def addTo (table : List (String × Nat)) (sample : String) (n : Nat) : List (String × Nat) :=
  match table with
  | [] => [(sample, n)]
  | (s, k) :: rest => if s = sample then (s, k + n) :: rest else (s, k) :: addTo rest sample n

/-- What some metrics raise each sample by. -/
def totals (ms : List Metric) : List (String × Nat) :=
  ms.foldl (fun table m => addTo table m.sample m.amount) []

/-- What some metrics raise each sample by, samples that stay as they are left out. -/
def increases (ms : List Metric) : List (String × Nat) :=
  (totals ms).filter fun entry => entry.2 ≠ 0

/-- The connection flag after some metrics, if one of them sets it. -/
def lastConnected? (ms : List Metric) : Option Bool :=
  ms.foldl (fun last m => match m with
    | connected b => some b
    | _ => last) none

/-- The samples of a metric among some metrics, with their values. -/
def samples (ms : List Metric) (m : Metric) : List (String × Nat) :=
  let alike := ms.filter fun other => other.about.1 = m.about.1
  if m.isGauge then [(m.sample, if lastConnected? alike = some true then 1 else 0)]
  else totals alike

/-- The part of an exposition for the metrics of one name: its description and its
samples. -/
def family (ms : List Metric) (m : Metric) : String :=
  String.join (m.describe.map fun line => line ++ "\n")
    ++ String.join ((samples ms m).map fun s => s.1 ++ " " ++ toString s.2 ++ "\n") ++ "\n"

/-- The exposition of some metrics, name by name. -/
def exposition (ms : List Metric) : String :=
  let names := (ms.map fun m => m.about.1).eraseDups
  String.join ((names.filterMap fun name => ms.find? fun m => m.about.1 = name).map (family ms))

end Metric

end VenueLink
