import VenueLink.Balance.Record
import VenueLink.Payload.Field

/-!
# Balance entries

Balances come as a list of objects or as a map by asset, at any depth.  An object is the
entry of an asset when it has one of the amount keys with a value that is no object; the
search goes on below it in any case.
-/

namespace VenueLink.BalanceEntry

open Json (Members)

/-- The keys that make an object an entry. -/
def amountKeys : List String :=
  ["available", "available_balance", "balance", "free", "total", "total_balance", "freeze",
    "frozen", "locked", "other_freeze"]

/-- The keys of the asset. -/
def assetKeys : List String := ["asset", "currency", "coin", "symbol"]

/-- The keys of the free amount. -/
def availableKeys : List String := ["available", "free", "available_balance"]

/-- The keys of the whole amount. -/
def totalKeys : List String := ["total", "total_balance", "balance"]

/-- The keys of the frozen amount. -/
def frozenKeys : List String := ["freeze", "frozen", "locked"]

/-- The keys of the amount frozen otherwise. -/
def otherFrozenKeys : List String := ["other_freeze", "other_locked"]

/-- Whether an object is the entry of an asset. -/
def isEntry (members : Members) : Bool :=
  amountKeys.any fun key => (members.get? key).any fun v => !v.isObject

/-- An entry and the key under which it was found. -/
structure Leaf where
  members : Members
  parent? : Option String

mutual
/-- The entries in a value found under a key. -/
def leaves (parent? : Option String) : Json → List Leaf
  | .arr items => itemLeaves items
  | .obj members =>
    (if isEntry members then [⟨members, parent?⟩] else []) ++ memberLeaves members
  | _ => []
/-- The entries in the items of a list, which have no key of their own. -/
def itemLeaves : List Json → List Leaf
  | [] => []
  | item :: rest => leaves none item ++ itemLeaves rest
/-- The entries in the members of an object, each found under its key. -/
def memberLeaves : List (String × Json) → List Leaf
  | [] => []
  | (key, value) :: rest => leaves (some key) value ++ memberLeaves rest
end

/-- The asset of an entry: the one it names, else the key it was found under. -/
def Leaf.asset? (leaf : Leaf) : Option String :=
  ((leaf.members.text? assetKeys).or leaf.parent?).filter fun s => !Text.isAllBlank s

/-- The whole amount of an entry: the one given, else what is free and frozen together. -/
def total? (members : Members) : Option Decimal :=
  match members.decimal? totalKeys with
  | some total => some total
  | none =>
    ((members.decimalOrZero availableKeys).add? (members.decimalOrZero frozenKeys)).bind
      fun sum => sum.add? (members.decimalOrZero otherFrozenKeys)

/-- The record of an entry, if its asset has a name and its amounts fit. -/
def Leaf.record? (leaf : Leaf) : Option BalanceRecord :=
  leaf.asset?.bind fun asset =>
    (total? leaf.members).map fun total =>
      .ofAsset asset (leaf.members.decimalOrZero availableKeys) total

/-- The balance records in a value. -/
def records (v : Json) : List BalanceRecord :=
  (leaves none v).filterMap Leaf.record?

end VenueLink.BalanceEntry
