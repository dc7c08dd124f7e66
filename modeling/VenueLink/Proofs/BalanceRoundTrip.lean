import VenueLink.Payload.BalanceEntry
import VenueLink.Proofs.DecimalText
import VenueLink.Proofs.JsonText
import VenueLink.Proofs.LetterCase

/-!
# Balances written and read back

The balance records in a value, written as a list of objects with amounts as text, are the
balance records in that list.  So what is read from whatever a venue sends does not change when it
is written and read again.
-/

namespace VenueLink

/-! ## Amounts -/

theorem Text.isBlank_of_isDigit {c : Char} (h : c.isDigit = true) :
  isBlank c = false
  := by
  rw [Char.isDigit_iff_toNat] at h
  have hle : 48 ≤ c.toNat := h.1
  have hge : c.toNat ≤ 57 := h.2
  rw [← Bool.not_eq_true]
  intro hblank
  simp only [isBlank, Bool.or_eq_true, Bool.and_eq_true, decide_eq_true_eq, beq_iff_eq] at hblank
  omega

/-- There are no blanks in the text of a decimal. -/
theorem Decimal.trim_text (d : Decimal) :
  Text.trim d.text = d.text
  := by
  apply Text.trim_of_isTrimmed
  apply Text.isTrimmed_of_forall
  rw [toList_text, List.forall_mem_append]
  constructor
  · split
    · exact List.forall_mem_singleton.mpr rfl
    · exact nofun
  · intro c hc
    rcases isDigit_or_of_mem_magnitudeChars c hc with hdigit | rfl
    · exact Text.isBlank_of_isDigit hdigit
    · rfl

/-- An amount is read back from its text. -/
theorem Json.toDecimal_text (d : Decimal) :
  (Json.str d.text).toDecimal = d
  := by
  rw [Json.toDecimal, d.trim_text, d.parse?_text, Option.getD_some]

/-! ## Records -/

namespace BalanceRecord

/-- The asset and the amounts of a record, as text. -/
def fields (r : BalanceRecord) : Json.Members :=
  [("asset", .str r.asset), ("available", .str r.available.text), ("total", .str r.total.text)]

/-- A record as an object. -/
def encode (r : BalanceRecord) : Json := .object r.fields

theorem encode_eq (r : BalanceRecord) :
  r.encode = .obj r.fields
  := by
  have hkeys : ["asset", "available", "total"].Pairwise (· < ·) := by decide
  have hsorted : r.fields.Pairwise fun a b => a.1 < b.1 := List.pairwise_map.mp hkeys
  rw [encode, Json.object, Json.Members.ofList_of_pairwise hsorted]

/-- The asset of a record has a name, and it is as names are kept. -/
structure IsNamed (r : BalanceRecord) : Prop where
  nonblank : Text.isAllBlank r.asset = false
  name : Pair.assetName r.asset = r.asset

/-- The name of an asset is read back. -/
theorem IsNamed.scalarText? {r : BalanceRecord} (h : r.IsNamed) :
  (Json.str r.asset).scalarText? = some r.asset
  := by
  have htrimmed := Pair.isTrimmed_assetName r.asset
  rw [h.name] at htrimmed
  rw [Json.scalarText?, h.nonblank, Text.trim_of_isTrimmed htrimmed]
  rfl

end BalanceRecord

namespace BalanceEntry

/-- The asset of a record that is found has a name. -/
theorem isNamed_of_record? {leaf : Leaf} {r : BalanceRecord} (h : leaf.record? = some r) :
  r.IsNamed
  := by
  obtain ⟨asset, hasset, htotal⟩ := Option.bind_eq_some_iff.mp h
  obtain ⟨total, -, rfl⟩ := Option.map_eq_some_iff.mp htotal
  have hnonblank := (Option.filter_eq_some_iff.mp hasset).2
  rw [Bool.not_eq_true'] at hnonblank
  exact ⟨Pair.isAllBlank_assetName hnonblank, Pair.assetName_assetName asset⟩

theorem isNamed_of_mem_records {raw : Json} {r : BalanceRecord} (h : r ∈ records raw) :
  r.IsNamed
  := by
  obtain ⟨leaf, -, hleaf⟩ := List.mem_filterMap.mp h
  exact isNamed_of_record? hleaf

/-- The records in a list are those in its items. -/
theorem records_arr (items : List Json) :
  records (.arr items) = items.flatMap records
  := by
  induction items with
  | nil => rfl
  | cons item rest ih =>
      rw [List.flatMap_cons, ← ih]
      exact List.filterMap_append

/-- A record is read back from its fields. -/
theorem record?_fields {r : BalanceRecord} (h : r.IsNamed) :
  Leaf.record? ⟨r.fields, none⟩ = some r
  := by
  have hasset : r.fields.text? assetKeys = some r.asset := by
    rw [← h.scalarText?]
    simp [Json.Members.text?, Json.Members.get?, BalanceRecord.fields, assetKeys]
  have havailable : r.fields.decimal? availableKeys = some r.available := by
    rw [← Json.toDecimal_text r.available]
    rfl
  have htotal : r.fields.decimal? totalKeys = some r.total := by
    rw [← Json.toDecimal_text r.total]
    rfl
  have hnamed : Leaf.asset? ⟨r.fields, none⟩ = some r.asset := by
    rw [Leaf.asset?, hasset, Option.some_or, Option.filter_some, h.nonblank]
    rfl
  have hgiven : total? r.fields = some r.total := by rw [total?, htotal]
  rw [Leaf.record?, hnamed, Option.bind_some, hgiven, Option.map_some, Json.Members.decimalOrZero,
    havailable, Option.getD_some, BalanceRecord.ofAsset, h.name]

/-- The object that a record is written as is an entry without others below it. -/
theorem leaves_encode (r : BalanceRecord) :
  leaves none r.encode = [⟨r.fields, none⟩]
  := by
  rw [BalanceRecord.encode_eq]
  rfl

/-- The balance records in a value, written as a list, are the balance records in that list. -/
theorem records_encode_records (raw : Json) :
  records (.arr ((records raw).map BalanceRecord.encode)) = records raw
  := by
  have hrecord {r : BalanceRecord} (hr : r ∈ records raw) : records r.encode = [r] := by
    rw [records, leaves_encode, List.filterMap_cons, record?_fields (isNamed_of_mem_records hr),
      List.filterMap_nil]
  rw [records_arr, List.flatMap_map]
  calc (records raw).flatMap (fun r => records r.encode)
    _ = (records raw).flatMap fun r => [r] :=
        List.flatMap_congr fun r hr => hrecord hr
    _ = records raw := List.flatMap_singleton' _

end BalanceEntry

end VenueLink
