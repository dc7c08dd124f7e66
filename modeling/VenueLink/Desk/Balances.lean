import VenueLink.Desk.Basic
import VenueLink.Payload.BalanceEntry
import VenueLink.Routine

/-!
# Keeping balances

A snapshot replaces the whole table and an update patches single assets.  A snapshot of
which nothing can be read leaves nothing of the assets traded; the first one of a row of
such snapshots is warned of.
-/

namespace VenueLink.Desk

/-- Replace the balances by a snapshot, and tell how many records it has. -/
def applySnapshot (p : Policy) (raw : Json) (d : Desk) : Nat × Desk :=
  match BalanceEntry.records raw with
  | [] =>
    let records := (Pair.assets p.pairs).map BalanceRecord.zero
    let warnings := if d.degraded then d.degradedWarnings else d.degradedWarnings + 1
    (records.length, { d with
      balances := .ofRecords records
      degraded := true
      degradedWarnings := warnings }.count (.malformed "balance_snapshot"))
  | records =>
    (records.length, { d with balances := .ofRecords records, degraded := false })

/-- Patch the balances that an update names, and tell how many records it has. -/
def applyBalanceUpdate (raw : Json) (d : Desk) : Nat × Desk :=
  match BalanceEntry.records raw with
  | [] => (0, d.count (.malformed "asset_update"))
  | records =>
    (records.length, { d with balances := records.foldl BalanceTable.patch d.balances })

/-- Fetch a snapshot of the balances and apply it. -/
def refreshBalances (p : Policy) : Routine Desk (Except VenueError Unit) := do
  match ← .fetch (.of .balances []) with
  | .error e => return .error e
  | .ok raw =>
    let _ ← .update (applySnapshot p raw)
    return .ok ()

end VenueLink.Desk
