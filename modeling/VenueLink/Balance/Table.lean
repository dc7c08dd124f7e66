import VenueLink.Balance.Record
import VenueLink.Text.Case

/-!
# The balance table

One record for each asset, sorted by asset.
-/

namespace VenueLink

/-- The records in force, sorted by asset. -/
structure BalanceTable where
  records : List BalanceRecord := []
deriving DecidableEq, Repr, Inhabited

namespace BalanceTable

/-- Put a record at its place, over the one of the same asset. -/
def insertRecord (r : BalanceRecord) : List BalanceRecord → List BalanceRecord
  | [] => [r]
  | s :: rest =>
    if r.asset = s.asset then r :: rest
    else if r.asset < s.asset then r :: s :: rest
    else s :: insertRecord r rest

/-- Set the record of one asset. -/
def patch (t : BalanceTable) (r : BalanceRecord) : BalanceTable :=
  ⟨insertRecord r t.records⟩

/-- The table of the given records alone, the last one of an asset winning. -/
def ofRecords (rs : List BalanceRecord) : BalanceTable :=
  rs.foldl patch {}

/-- The record kept for an asset name as it stands in the table. -/
def get? (t : BalanceTable) (asset : String) : Option BalanceRecord :=
  t.records.find? fun r => r.asset = asset

/-- After a record is set it is the one of its asset, and the others are as before. -/
theorem get?_patch (t : BalanceTable) (r : BalanceRecord) (asset : String) :
  (t.patch r).get? asset = if asset = r.asset then some r else t.get? asset
  := by
  obtain ⟨records⟩ := t
  simp only [patch, get?]
  fun_induction insertRecord r records with
  | case1 =>
    by_cases h : asset = r.asset
    · simp [h]
    · simp [h, Ne.symm h]
  | case2 s rest hs =>
    by_cases h : asset = r.asset
    · simp [h]
    · simp [h, Ne.symm h, show s.asset ≠ asset from fun e => h (e.symm.trans hs.symm)]
  | case3 s rest hs hlt =>
    by_cases h : asset = r.asset
    · simp [h]
    · simp [h, Ne.symm h]
  | case4 s rest hs hlt ih =>
    by_cases h : s.asset = asset
    · simp [h, show ¬asset = r.asset from fun e => hs (e.symm.trans h.symm)]
    · simp [h, ih]

/-- The record of an asset named in any letter case. -/
def balance? (t : BalanceTable) (asset : String) : Option BalanceRecord :=
  t.get? (Text.upper asset)

end BalanceTable

/-- The assets of some pairs, sorted and without repetition. -/
def Pair.assets (pairs : List Pair) : List String :=
  (pairs.flatMap fun p => [p.base, p.quote]).foldl insertAsset []
where
  /-- Put a name at its place among sorted names, once. -/
  insertAsset (names : List String) (name : String) : List String :=
    match names with
    | [] => [name]
    | n :: rest =>
      if name = n then n :: rest
      else if name < n then name :: n :: rest
      else n :: insertAsset rest name

end VenueLink
