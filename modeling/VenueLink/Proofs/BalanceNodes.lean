import Mathlib.Tactic.Common
import VenueLink.Payload.BalanceEntry

/-!
# Which objects report a balance

Every object in a value is looked at by itself.  Whether it reports a balance is told by its own
members and the key it stands under, and what stands below it plays no part: a page that counts
its entries reports a balance beside them.
-/

namespace VenueLink.BalanceEntry

open Json (Members)

/-! ## The objects in a value -/

mutual
/-- The objects in a value found under a key, each before those below it. -/
def nodes (parent? : Option String) : Json → List Leaf
  | .arr items => itemNodes items
  | .obj members => ⟨members, parent?⟩ :: memberNodes members
  | _ => []
/-- The objects in the items of a list. -/
def itemNodes : List Json → List Leaf
  | [] => []
  | item :: rest => nodes none item ++ itemNodes rest
/-- The objects in the members of an object. -/
def memberNodes : List (String × Json) → List Leaf
  | [] => []
  | (key, value) :: rest => nodes (some key) value ++ memberNodes rest
end

mutual
/-- The entries in a value are those of its objects that are entries. -/
theorem leaves_eq (parent? : Option String) (v : Json) :
  leaves parent? v = (nodes parent? v).filter fun node => isEntry node.members
  := by
  cases v with
  | arr items => exact itemLeaves_eq items
  | obj members =>
      rw [leaves, nodes, List.filter_cons, memberLeaves_eq members]
      split <;> rfl
  | _ => rfl
theorem itemLeaves_eq (items : List Json) :
  itemLeaves items = (itemNodes items).filter fun node => isEntry node.members
  := by
  cases items with
  | nil => rfl
  | cons item rest =>
      rw [itemLeaves, itemNodes, List.filter_append, leaves_eq none item, itemLeaves_eq rest]
theorem memberLeaves_eq (members : List (String × Json)) :
  memberLeaves members = (memberNodes members).filter fun node => isEntry node.members
  := by
  cases members with
  | nil => rfl
  | cons member rest =>
      obtain ⟨key, value⟩ := member
      rw [memberLeaves, memberNodes, List.filter_append, leaves_eq (some key) value,
        memberLeaves_eq rest]
end

/-! ## What an object reports -/

namespace Leaf

/-- The record that an object adds to those below it. -/
def own? (node : Leaf) : Option BalanceRecord :=
  if isEntry node.members then node.record? else none

/-- The records below an object. -/
def below (node : Leaf) : List BalanceRecord :=
  (memberLeaves node.members).filterMap record?

/-- The records in an object, found under a key. -/
def all (node : Leaf) : List BalanceRecord :=
  (leaves node.parent? (.obj node.members)).filterMap record?

variable {node : Leaf}

/-- The records in an object are its own and those below it. -/
theorem all_eq (node : Leaf) :
  node.all = node.own?.toList ++ node.below
  := by
  rw [all, leaves, List.filterMap_append]
  congr 1
  unfold own?
  split
  · cases h : node.record? <;> simp [h]
  · rfl

/-- One of the keys of amounts has a value that is no object. -/
def HasAmount (node : Leaf) : Prop :=
  ∃ key ∈ amountKeys, ∃ v, node.members.get? key = some v ∧ v.isObject = false

/-- An object is of an asset that it names, or else of one that it stands under. -/
def IsOf (node : Leaf) (asset : String) : Prop :=
  Text.isAllBlank asset = false ∧ (node.members.text? assetKeys = some asset
    ∨ node.members.text? assetKeys = none ∧ node.parent? = some asset)

/-- An object reports a record: it has an amount, it is of the asset, and the total is in range. -/
structure Reports (node : Leaf) (r : BalanceRecord) : Prop where
  amount : node.HasAmount
  asset : ∃ asset, node.IsOf asset ∧ r.asset = Pair.assetName asset
  available : r.available = node.members.decimalOrZero availableKeys
  total : total? node.members = some r.total

theorem isEntry_iff (node : Leaf) :
  isEntry node.members = true ↔ node.HasAmount
  := by
  simp only [isEntry, HasAmount, List.any_eq_true, Option.any_eq_true, Bool.not_eq_true']

theorem asset?_eq_some_iff {asset : String} :
  node.asset? = some asset ↔ node.IsOf asset
  := by
  rw [asset?, Option.filter_eq_some_iff, Option.or_eq_some_iff, Bool.not_eq_true', and_comm]
  rfl

theorem asset?_eq_none_iff :
  node.asset? = none ↔ ∀ asset, ¬node.IsOf asset
  := by
  rw [Option.eq_none_iff_forall_ne_some]
  simp only [ne_eq, asset?_eq_some_iff]

theorem own?_eq_some_iff (node : Leaf) (r : BalanceRecord) :
  node.own? = some r ↔ node.Reports r
  := by
  rw [own?, Option.ite_none_right_eq_some, isEntry_iff, record?]
  simp only [Option.bind_eq_some_iff, Option.map_eq_some_iff, asset?_eq_some_iff]
  constructor
  · rintro ⟨hamount, asset, hasset, total, htotal, rfl⟩
    exact ⟨hamount, ⟨asset, hasset, rfl⟩, rfl, htotal⟩
  · rintro ⟨hamount, ⟨asset, hasset, hname⟩, havailable, htotal⟩
    refine ⟨hamount, asset, hasset, r.total, htotal, ?_⟩
    rw [BalanceRecord.ofAsset, ← hname, ← havailable]

/-- An object reports nothing when each of the keys of amounts that it has leads to an object, when
it has no name, or when its total is out of range. -/
theorem own?_eq_none_iff (node : Leaf) :
  node.own? = none
    ↔ ¬node.HasAmount ∨ (∀ asset, ¬node.IsOf asset) ∨ total? node.members = none
  := by
  rw [← asset?_eq_none_iff, ← isEntry_iff, own?, record?]
  by_cases hentry : isEntry node.members = true
  · cases hasset : node.asset? with
    | none => simp [hentry]
    | some asset => simp [hentry]
  · simp [hentry]

end Leaf

/-- The records in a value are those that its objects report.  In each object there is first its own
record and then those below it.  What an object reports is told by its own members and its key, and
so is when it reports nothing, whether there are records below it or not. -/
theorem records_of_nodes (raw : Json) :
  records raw = (nodes none raw).filterMap Leaf.own? ∧
  ∀ node : Leaf, node.all = node.own?.toList ++ node.below ∧
    (∀ r, node.own? = some r ↔ node.Reports r) ∧
    (node.own? = none
      ↔ ¬node.HasAmount ∨ (∀ asset, ¬node.IsOf asset) ∨ total? node.members = none)
  := by
  constructor
  · rw [records, leaves_eq, List.filterMap_filter]
    rfl
  · intro node
    exact ⟨node.all_eq, node.own?_eq_some_iff, node.own?_eq_none_iff⟩

/-- A page that lists an asset, with something under a key of amounts. -/
def countingPage (count : Json) : Json :=
  .object [("data", .object [("total", count),
    ("list", .arr [.object [("asset", .str "BTC"), ("available", .str "1")]])])]

/-- A page that counts its entries reports a balance beside them, be the count a number, a text or a
list: there is an object with a record below it that has one of its own, named after its key. -/
theorem countingPage_reports :
  (∃ node ∈ nodes none (countingPage (.ofInt 2)), node.below.map (·.asset) = ["BTC"]
      ∧ node.parent? = some "data" ∧ node.own?.map (·.asset) = some "DATA")
    ∧ [Json.ofInt 2, .str "2", .arr []].all fun count =>
      (records (countingPage count)).map (·.asset) = ["DATA", "BTC"]
  := by
  decide

end VenueLink.BalanceEntry
