import VenueLink.Balance.Table
import VenueLink.Metric
import VenueLink.Order.Matching

/-!
# The desk

The state that reconciliation keeps: the order book of record, the balance table, and what
was counted and warned of on the way.
-/

namespace VenueLink

/-- The rules under which a desk works. -/
structure Policy where
  /-- The pairs traded. -/
  pairs : List Pair := []
  /-- The age from which an order that cannot be found is given up as lost. -/
  lostAfter : Span := .ofSecs 30
  /-- The length of a page of a listing. -/
  pageSize : Nat := 200
  tolerance : Tolerance := .standard
  /-- The orders that one bulk request shall cancel. -/
  batchSize : Nat := 10
deriving DecidableEq, Repr, Inhabited

/-- The state of reconciliation. -/
structure Desk where
  book : Book := {}
  balances : BalanceTable := {}
  /-- Whether the last snapshot of balances was unreadable. -/
  degraded : Bool := false
  /-- How often a warning told that balances became unreadable. -/
  degradedWarnings : Nat := 0
  /-- What was counted. -/
  metrics : List Metric := []
deriving DecidableEq, Repr, Inhabited

namespace Desk

/-- Count something. -/
def count (m : Metric) (d : Desk) : Desk :=
  { d with metrics := d.metrics ++ [m] }

/-- Apply an update to the book, and count the contradictions it meets. -/
def propose (u : Update) (d : Desk) : Desk :=
  let (book, verdict?) := d.book.apply u
  let anomalies := (verdict?.map (·.anomalies)).getD []
  { d with book, metrics := d.metrics ++ anomalies.map fun a => .anomaly a.label }

/-- Record a fill, and say whether it was new; new fills are counted. -/
def record (f : Fill) (d : Desk) : Bool × Desk :=
  match d.book.record f with
  | (book, true) => (true, { d with book }.count .fill)
  | (_, false) => (false, d)

end Desk

end VenueLink
