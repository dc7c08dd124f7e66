import VenueLink.Desk.CancelReport
import VenueLink.Json.Printer

/-!
# Canceling many orders

Orders whose venue id is known or can be found are canceled by bulk requests; those that a
bulk request does not acknowledge, and those without an id, are canceled one by one, side by
side.  The run may be cut short at any question; its progress is part of its state.
-/

namespace VenueLink

/-- The state of a cancel run: the desk, and how far the run has come. -/
structure CancelRun where
  desk : Desk
  progress : CancelProgress
deriving DecidableEq, Repr

/-- An order in a bulk request, with the venue id under which it is canceled. -/
structure BulkMember where
  order : Order
  venueId : VenueId
deriving DecidableEq, Repr

namespace CancelRun

/-- The most orders that the venue takes in one bulk request. -/
def maxBatch : Nat := 10

/-- The orders in one bulk request: at least one. -/
def batchSize (p : Policy) : Nat :=
  max 1 (min p.batchSize maxBatch)

/-- A list in pieces of `n + 1` items, the last one perhaps shorter. -/
def pieces {α : Type} (n : Nat) : List α → List (List α)
  | [] => []
  | a :: rest => (a :: rest.take n) :: pieces n (rest.drop n)
termination_by items => items.length

/-- The reason given for orders that a run did not come to. -/
def timeoutReason : String := "cancel-all timed out"

/-- The beginning of a run. -/
def start (d : Desk) (orders : List Order) : CancelRun :=
  ⟨d, .start orders⟩

/-- Settle the outcome of an order. -/
def settle (id : ClientId) (outcome : CancelOutcome) (run : CancelRun) : CancelRun :=
  { run with progress := run.progress.settle id outcome }

/-- Work on the desk alone. -/
def atDesk {α : Type} (m : Routine Desk α) : Routine CancelRun α :=
  m.within (·.desk) fun desk run => { run with desk }

/-- The members of bulk requests among some orders, and the other orders. -/
def members (p : Policy) : List Order → Routine Desk (List BulkMember × List Order)
  | [] => return ([], [])
  | o :: rest => do
    let id? ← match o.confirmedId? with
      | some id => pure (some id)
      | none => Resolution.id? <$> Desk.resolve p o
    let (found, others) ← members p rest
    match id? with
    | some id => return (⟨o, id⟩ :: found, others)
    | none => return (found, o :: others)

/-- A member of a bulk request as data. -/
def memberJson (m : BulkMember) : Json :=
  .object [("market", .str m.order.pair.symbol), ("order_id", .str m.venueId.text)]

/-- The bulk request for some members. -/
def bulkRequest (ms : List BulkMember) : VenueRequest :=
  .of .cancelBatch [("orders_json", (Json.arr (ms.map memberJson)).render)]

/-- The venue ids that the entries of a bulk answer acknowledge: their result is truthy. -/
def acknowledged (entries : List Json) : List VenueId :=
  let granted := (entries.filterMap Json.members?).filter fun entry =>
    Json.isTruthy (entry.get? "result")
  granted.filterMap OrderEntry.venueId?

/-- Settle the members of a bulk request that were acknowledged, and give back the orders of
the others, which are counted. -/
def settleBulk (now : Moment) (ids : List VenueId) (ms : List BulkMember) (run : CancelRun) :
    List Order × CancelRun :=
  let run := (ms.filter fun m => ids.contains m.venueId).foldl
    (fun run m => { run with desk := run.desk.markCanceled m.order now }.settle m.order.clientId
      .canceled) run
  let missed := (ms.filter fun m => !ids.contains m.venueId).map (·.order)
  (missed, if missed.isEmpty then run
    else { run with desk := run.desk.count (.unacknowledged missed.length) })

/-- Send a bulk request.  The result are the orders that it does not acknowledge, all of
them when it fails. -/
def cancelBulk (ms : List BulkMember) : Routine CancelRun (List Order) := do
  let reply ← .fetch (bulkRequest ms)
  let now ← .now
  let entries := match reply with
    | .ok result => result.entries
    | .error _ => []
  .update (settleBulk now (acknowledged entries) ms)

/-- Send bulk requests one after the other, and collect what they do not acknowledge. -/
def cancelBulks : List (List BulkMember) → Routine CancelRun (List Order)
  | [] => return []
  | ms :: rest => do
    let missed ← cancelBulk ms
    let others ← cancelBulks rest
    return missed ++ others

/-- The first part of a run: the bulk requests.  The result are the orders that are left to
be canceled one by one. -/
def bulkPart (p : Policy) (orders : List Order) : Routine CancelRun (List Order) := do
  let (ms, others) ← atDesk (members p orders)
  let missed ← cancelBulks (pieces (batchSize p - 1) ms)
  return others ++ missed

/-- The second part of a run for one order: a single cancel, and its outcome. -/
def singlePart (p : Policy) (o : Order) : Routine CancelRun Unit := do
  let result ← atDesk (Desk.cancelOrder p o)
  .modify (settle o.clientId (.ofResult result))

/-- The end of a run: its report, whose outcomes are counted. -/
def finish (run : CancelRun) : CancelReport × Desk :=
  let report := run.progress.finish timeoutReason
  (report, { run.desk with metrics := run.desk.metrics ++ report.metrics })

end CancelRun

end VenueLink
