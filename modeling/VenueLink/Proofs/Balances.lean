import VenueLink.Desk.Push
import VenueLink.Proofs.LetterCase
import VenueLink.Proofs.Routine
import Mathlib.Data.String.Basic

/-!
# Balances after any inputs

Snapshots, updates and refreshes come to the balances one after another.  The last snapshot
and the updates since then decide what the table holds: of an asset it is the last record
that was pushed, else the last one in the snapshot.
-/

namespace VenueLink

/-! ## Tables -/

namespace BalanceTable

variable {t : BalanceTable}

/-- The last record of an asset among some records. -/
def lastOf? (asset : String) (rs : List BalanceRecord) : Option BalanceRecord :=
  (rs.filter fun r => r.asset = asset).getLast?

@[simp]
theorem lastOf?_nil (asset : String) :
  lastOf? asset [] = none
  := rfl

/-- Of the records in two lists the last one stands in the second if it can. -/
theorem lastOf?_append (asset : String) (rs rs' : List BalanceRecord) :
  lastOf? asset (rs ++ rs') = (lastOf? asset rs').or (lastOf? asset rs)
  := by
  rw [lastOf?, List.filter_append, List.getLast?_append]
  rfl

theorem lastOf?_singleton (asset : String) (r : BalanceRecord) :
  lastOf? asset [r] = if asset = r.asset then some r else none
  := by
  by_cases h : asset = r.asset
  · simp [lastOf?, h]
  · simp [lastOf?, h, Ne.symm h]

/-- After records are set one by one, an asset has the last of its own, or else the record it
had. -/
theorem get?_foldl_patch (rs : List BalanceRecord) (t : BalanceTable) (asset : String) :
  (rs.foldl patch t).get? asset = (lastOf? asset rs).or (t.get? asset)
  := by
  induction rs using List.reverseRecOn with
  | nil => rfl
  | append_singleton rest r ih =>
      rw [List.foldl_concat, get?_patch, ih, lastOf?_append, lastOf?_singleton]
      split
      · rfl
      · rfl

theorem get?_ofRecords (rs : List BalanceRecord) (asset : String) :
  (ofRecords rs).get? asset = lastOf? asset rs
  := by
  rw [ofRecords, get?_foldl_patch]
  apply Option.or_none

/-- The record found for an asset is a record of it. -/
theorem asset_of_get? {asset : String} {r : BalanceRecord} (h : t.get? asset = some r) :
  r.asset = asset
  := by
  simpa using List.find?_some h

/-- The assets of a table stand in order, each of them once. -/
def Sorted (t : BalanceTable) : Prop :=
  t.records.Pairwise fun r s => r.asset < s.asset

theorem mem_insertRecord {r s : BalanceRecord} {rs : List BalanceRecord}
    (h : s ∈ insertRecord r rs) :
  s = r ∨ s ∈ rs
  := by
  fun_induction insertRecord r rs with
  | case1 => exact .inl (List.mem_singleton.mp h)
  | case2 _ rest => exact (List.mem_cons.mp h).imp_right (List.mem_cons_of_mem _)
  | case3 => exact List.mem_cons.mp h
  | case4 q rest _ _ ih =>
      rcases List.mem_cons.mp h with rfl | h
      · exact .inr List.mem_cons_self
      · exact (ih h).imp_right (List.mem_cons_of_mem _)

/-- Setting a record keeps the assets in order. -/
theorem Sorted.patch (h : t.Sorted) (r : BalanceRecord) :
  (t.patch r).Sorted
  := by
  obtain ⟨rs⟩ := t
  change (insertRecord r rs).Pairwise _
  replace h : rs.Pairwise fun r s => r.asset < s.asset := h
  fun_induction insertRecord r rs with
  | case1 => apply List.pairwise_singleton
  | case2 s rest heq =>
      rw [List.pairwise_cons] at h ⊢
      rwa [heq]
  | case3 s rest _ hlt =>
      rw [List.pairwise_cons]
      refine ⟨?_, h⟩
      intro q hq
      rcases List.mem_cons.mp hq with rfl | hq
      · exact hlt
      · exact hlt.trans (List.rel_of_pairwise_cons h hq)
  | case4 s rest hne hnlt ih =>
      rw [List.pairwise_cons] at h ⊢
      refine ⟨?_, ih h.2⟩
      intro q hq
      rcases mem_insertRecord hq with rfl | hq
      · exact lt_of_le_of_ne (not_lt.mp hnlt) (Ne.symm hne)
      · exact h.1 q hq

theorem Sorted.foldl_patch (h : t.Sorted) (rs : List BalanceRecord) :
  (rs.foldl BalanceTable.patch t).Sorted
  := by
  induction rs generalizing t with
  | nil => exact h
  | cons r rest ih => apply ih (h.patch r)

theorem sorted_ofRecords (rs : List BalanceRecord) :
  (ofRecords rs).Sorted
  := Sorted.foldl_patch List.Pairwise.nil rs

/-- A table in order lists the records that it gives for their assets. -/
theorem Sorted.mem_records (h : t.Sorted) (r : BalanceRecord) :
  r ∈ t.records ↔ t.get? r.asset = some r
  := by
  constructor
  · intro hr
    obtain ⟨rs⟩ := t
    replace h : rs.Pairwise fun r s => r.asset < s.asset := h
    change rs.find? (fun s => s.asset = r.asset) = some r
    replace hr : r ∈ rs := hr
    induction rs with
    | nil => exact absurd hr List.not_mem_nil
    | cons s rest ih =>
        rw [List.pairwise_cons] at h
        rcases List.mem_cons.mp hr with rfl | hr
        · simp
        · rw [List.find?_cons_of_neg]
          · apply ih h.2 hr
          · simp [(h.1 r hr).ne]
  · exact List.mem_of_find?_eq_some

end BalanceTable

/-! ## Snapshots that cannot be read -/

theorem Pair.mem_insertAsset (names : List String) (name asset : String) :
  asset ∈ assets.insertAsset names name ↔ asset = name ∨ asset ∈ names
  := by
  fun_induction assets.insertAsset names name with
  | case1 => rw [List.mem_singleton, or_iff_left List.not_mem_nil]
  | case2 rest => rw [List.mem_cons, ← or_assoc, or_self]
  | case3 => rw [List.mem_cons]
  | case4 n rest _ _ ih => rw [List.mem_cons, List.mem_cons, ih, or_left_comm]

theorem Pair.mem_assets (pairs : List Pair) (asset : String) :
  asset ∈ assets pairs ↔ ∃ pair ∈ pairs, asset = pair.base ∨ asset = pair.quote
  := by
  have hnames : ∀ names : List String,
      asset ∈ names.foldl assets.insertAsset [] ↔ asset ∈ names := by
    intro names
    induction names using List.reverseRecOn with
    | nil => exact Iff.rfl
    | append_singleton rest name ih =>
        rw [List.foldl_concat, mem_insertAsset, ih, List.mem_append, List.mem_singleton, or_comm]
  rw [assets, hnames, List.mem_flatMap]
  simp only [List.mem_cons, List.not_mem_nil, or_false]

/-- A pair that is parsed is one of two assets. -/
theorem Pair.exists_ofAssets_of_parse? {raw : String} {pair : Pair} (h : parse? raw = some pair) :
  ∃ base quote, pair = ofAssets base quote
  := by
  unfold parse? at h
  split at h
  · rw [Option.ite_none_left_eq_some] at h
    exact ⟨_, _, (Option.some.inj h.2).symm⟩
  · exact absurd h nofun

/-- Among zero records an asset has the one of its name. -/
theorem BalanceTable.lastOf?_map_zero {names : List String}
    (h : ∀ name ∈ names, Pair.assetName name = name) (asset : String) :
  lastOf? asset (names.map BalanceRecord.zero)
    = if asset ∈ names then some ⟨asset, .zero, .zero⟩ else none
  := by
  induction names using List.reverseRecOn with
  | nil => rfl
  | append_singleton rest name ih =>
      have hname : BalanceRecord.zero name = ⟨name, .zero, .zero⟩ := by
        rw [BalanceRecord.zero, BalanceRecord.ofAsset,
          h name (List.mem_append_right _ List.mem_cons_self)]
      rw [List.map_append, lastOf?_append, ih fun n hn => h n (List.mem_append_left _ hn),
        List.map_singleton, hname, lastOf?_singleton]
      by_cases heq : asset = name
      · simp [heq]
      · simp [heq]

namespace Desk

/-- The records that a snapshot puts in place of the table. -/
def snapshotRecords (pairs : List Pair) (raw : Json) : List BalanceRecord :=
  match BalanceEntry.records raw with
  | [] => (Pair.assets pairs).map BalanceRecord.zero
  | records => records

/-- What a snapshot says of an asset: the last record of it, and where nothing can be read, that
there is nothing of an asset traded. -/
def snapshotRecord? (pairs : List Pair) (raw : Json) (asset : String) : Option BalanceRecord :=
  match BalanceEntry.records raw with
  | [] =>
    if ∃ pair ∈ pairs, asset = pair.base ∨ asset = pair.quote then some ⟨asset, .zero, .zero⟩
    else none
  | records => BalanceTable.lastOf? asset records

theorem lastOf?_snapshotRecords {pairs : List Pair}
    (h : ∀ pair ∈ pairs, ∃ base quote, pair = .ofAssets base quote) (raw : Json) (asset : String) :
  BalanceTable.lastOf? asset (snapshotRecords pairs raw) = snapshotRecord? pairs raw asset
  := by
  have hkept : ∀ name ∈ Pair.assets pairs, Pair.assetName name = name := by
    intro name hname
    obtain ⟨pair, hpair, hname⟩ := (Pair.mem_assets pairs name).mp hname
    obtain ⟨base, quote, rfl⟩ := h pair hpair
    rcases hname with rfl | rfl
    · apply Pair.assetName_assetName
    · apply Pair.assetName_assetName
  unfold snapshotRecords snapshotRecord?
  split
  · simp only [BalanceTable.lastOf?_map_zero hkept, Pair.mem_assets]
  · rfl

/-! ## Inputs -/

/-- What comes to the balances of a desk. -/
inductive BalanceInput where
  /-- A snapshot is applied. -/
  | snapshot (raw : Json)
  /-- An update of single assets is applied. -/
  | update (raw : Json)
  /-- A message of the user stream comes in. -/
  | message (now : Moment) (body : Json)
  /-- A refresh is made, and the venue answers it. -/
  | refresh (now : Moment) (reply : Reply)

namespace BalanceInput

/-- What the desk makes of an input. -/
def apply (p : Policy) (d : Desk) : BalanceInput → Desk
  | snapshot raw => (d.applySnapshot p raw).2
  | update raw => (d.applyBalanceUpdate raw).2
  | message now body => d.applyMessage now body
  | refresh now reply => ((refreshBalances p).answeredBy now (fun _ => reply) d).2

/-- The snapshot that an input brings; the answer to a refresh brings one unless it is a
failure. -/
def snapshot? : BalanceInput → Option Json
  | snapshot raw => some raw
  | update _ => none
  | message _ _ => none
  | refresh _ reply => ((VenueRequest.of .balances []).outcome reply).toOption

/-- The records that an input pushes. -/
def pushed : BalanceInput → List BalanceRecord
  | snapshot _ => []
  | update raw => BalanceEntry.records raw
  | message _ body =>
    match body.methodAndPayload? with
    | some (method, payload) =>
      if method = "asset.update" then BalanceEntry.records payload else []
    | none => []
  | refresh _ _ => []

end BalanceInput

theorem applySnapshot_balances (p : Policy) (raw : Json) (d : Desk) :
  (d.applySnapshot p raw).2.balances = .ofRecords (snapshotRecords p.pairs raw)
  := by
  unfold applySnapshot snapshotRecords
  cases BalanceEntry.records raw with
  | nil => rfl
  | cons r rest => rfl

theorem applyBalanceUpdate_balances (raw : Json) (d : Desk) :
  (d.applyBalanceUpdate raw).2.balances
    = (BalanceEntry.records raw).foldl BalanceTable.patch d.balances
  := by
  unfold applyBalanceUpdate
  cases BalanceEntry.records raw with
  | nil => rfl
  | cons r rest => rfl

theorem applyOrderEntry_balances (now : Moment) (entry : Json) (d : Desk) :
  (d.applyOrderEntry now entry).balances = d.balances
  := by
  unfold applyOrderEntry
  split
  · rfl
  · rfl

theorem applyOrderMessage_balances (now : Moment) (payload : Json) (d : Desk) :
  (d.applyOrderMessage now payload).balances = d.balances
  := by
  unfold applyOrderMessage
  split
  case h_1 items =>
    induction items generalizing d with
    | nil => rfl
    | cons entry rest ih => rw [List.foldl_cons, ih, applyOrderEntry_balances]
  · apply applyOrderEntry_balances

/-- A refresh that fails leaves the desk as it is, and any other applies the snapshot. -/
theorem answeredBy_refreshBalances (p : Policy) (now : Moment) (reply : Reply) (d : Desk) :
  (refreshBalances p).answeredBy now (fun _ => reply) d
    = match (VenueRequest.of .balances []).outcome reply with
      | .ok raw => (.ok (), (d.applySnapshot p raw).2)
      | .error e => (.error e, d)
  := by
  rw [refreshBalances, Routine.fetch_eq]
  simp only [Bind.bind, Routine.andThen, Routine.answeredBy]
  cases (VenueRequest.of .balances []).outcome reply with
  | ok raw => rfl
  | error e => rfl

/-- One input: a snapshot takes the place of the table, and everything else patches it with the
records that it pushes. -/
theorem BalanceInput.apply_balances (p : Policy) (input : BalanceInput) (d : Desk) :
  (input.apply p d).balances
    = match input.snapshot? with
      | some raw => .ofRecords (snapshotRecords p.pairs raw)
      | none => input.pushed.foldl BalanceTable.patch d.balances
  := by
  cases input with
  | snapshot raw => exact applySnapshot_balances p raw d
  | update raw => exact applyBalanceUpdate_balances raw d
  | message now body =>
      change (d.applyMessage now body).balances = (message now body).pushed.foldl _ _
      unfold applyMessage pushed
      dsimp only
      cases body.methodAndPayload? with
      | none => rfl
      | some call =>
          obtain ⟨method, payload⟩ := call
          by_cases hasset : method = "asset.update"
          · simp only [hasset, if_true]
            apply applyBalanceUpdate_balances
          · simp only [hasset, if_false]
            split
            · apply applyOrderMessage_balances
            · rfl
  | refresh now reply =>
      change ((refreshBalances p).answeredBy now (fun _ => reply) d).2.balances
        = match ((VenueRequest.of .balances []).outcome reply).toOption with
          | some raw => .ofRecords (snapshotRecords p.pairs raw)
          | none => d.balances
      rw [answeredBy_refreshBalances]
      cases (VenueRequest.of .balances []).outcome reply with
      | error e => rfl
      | ok raw => apply applySnapshot_balances

/-! ## Runs of inputs -/

/-- The desk after some inputs. -/
def after (p : Policy) (inputs : List BalanceInput) (d : Desk) : Desk :=
  inputs.foldl (fun d input => input.apply p d) d

/-- The last snapshot that was applied. -/
def lastSnapshot? (inputs : List BalanceInput) : Option Json :=
  (inputs.filterMap BalanceInput.snapshot?).getLast?

/-- The records that were pushed since the last snapshot. -/
def pushedSince (inputs : List BalanceInput) : List BalanceRecord :=
  (inputs.rtakeWhile fun input => input.snapshot?.isNone).flatMap BalanceInput.pushed

/-- What some inputs tell of an asset: the last record pushed since the last snapshot, and else
what that snapshot says. -/
def told? (pairs : List Pair) (inputs : List BalanceInput) (asset : String) :
    Option BalanceRecord :=
  (BalanceTable.lastOf? asset (pushedSince inputs)).or
    ((lastSnapshot? inputs).bind fun raw => snapshotRecord? pairs raw asset)

variable {p : Policy} {d : Desk}

theorem after_concat (p : Policy) (inputs : List BalanceInput) (input : BalanceInput) (d : Desk) :
  after p (inputs ++ [input]) d = input.apply p (after p inputs d)
  := List.foldl_concat ..

/-- An input with a snapshot outdates all that was told before. -/
theorem told?_concat_snapshot {input : BalanceInput} {raw : Json}
    (h : input.snapshot? = some raw) (pairs : List Pair) (inputs : List BalanceInput)
    (asset : String) :
  told? pairs (inputs ++ [input]) asset = snapshotRecord? pairs raw asset
  := by
  have hpushed : pushedSince (inputs ++ [input]) = [] := by
    rw [pushedSince, List.rtakeWhile_concat_neg _ _ _ (by simp [h])]
    rfl
  have hsnapshot : lastSnapshot? (inputs ++ [input]) = some raw := by
    rw [lastSnapshot?, List.filterMap_append, List.filterMap_cons_some h]
    apply List.getLast?_concat
  rw [told?, hpushed, hsnapshot, BalanceTable.lastOf?_nil, Option.none_or, Option.bind_some]

/-- An input without a snapshot adds the records that it pushes. -/
theorem told?_concat_pushed {input : BalanceInput} (h : input.snapshot? = none)
    (pairs : List Pair) (inputs : List BalanceInput) (asset : String) :
  told? pairs (inputs ++ [input]) asset
    = (BalanceTable.lastOf? asset input.pushed).or (told? pairs inputs asset)
  := by
  have hpushed : pushedSince (inputs ++ [input]) = pushedSince inputs ++ input.pushed := by
    rw [pushedSince, List.rtakeWhile_concat_pos _ _ _ (by simp [h]), List.flatMap_append,
      List.flatMap_singleton]
    rfl
  have hsnapshot : lastSnapshot? (inputs ++ [input]) = lastSnapshot? inputs := by
    rw [lastSnapshot?, List.filterMap_append, List.filterMap_cons_none h, List.filterMap_nil,
      List.append_nil]
    rfl
  rw [told?, hpushed, hsnapshot, BalanceTable.lastOf?_append, Option.or_assoc]
  rfl

/-- After any inputs to an empty table an asset has the record that they tell of it. -/
theorem get?_after (hp : ∀ pair ∈ p.pairs, ∃ base quote, pair = .ofAssets base quote)
    (hd : d.balances = {}) (inputs : List BalanceInput) (asset : String) :
  (after p inputs d).balances.get? asset = told? p.pairs inputs asset
  := by
  induction inputs using List.reverseRecOn with
  | nil =>
      change d.balances.get? asset = none
      rw [hd]
      rfl
  | append_singleton rest input ih =>
      rw [after_concat, BalanceInput.apply_balances]
      cases h : input.snapshot? with
      | some raw =>
          rw [told?_concat_snapshot h, ← lastOf?_snapshotRecords hp]
          apply BalanceTable.get?_ofRecords
      | none =>
          rw [told?_concat_pushed h, ← ih]
          apply BalanceTable.get?_foldl_patch

/-- Inputs keep a table in order. -/
theorem sorted_after (p : Policy) (hd : d.balances.Sorted) (inputs : List BalanceInput) :
  (after p inputs d).balances.Sorted
  := by
  induction inputs using List.reverseRecOn with
  | nil => exact hd
  | append_singleton rest input ih =>
      rw [after_concat, BalanceInput.apply_balances]
      split
      · apply BalanceTable.sorted_ofRecords
      · apply ih.foldl_patch

/-- The table is the fold of what comes to it.  After any inputs to an empty table an asset has
the last record pushed since the last snapshot, or else the last one in that snapshot, or else
nothing if the snapshot has no record and the asset is traded, and no other asset has a record.
A record stands at its own asset, the table lists its records in the order of their assets, and
an input that brings neither a snapshot nor a record leaves the table as it is. -/
theorem balances_after (hp : ∀ pair ∈ p.pairs, ∃ base quote, pair = .ofAssets base quote)
    (hd : d.balances = {}) (inputs : List BalanceInput) :
  (∀ asset, (after p inputs d).balances.get? asset = told? p.pairs inputs asset)
    ∧ (∀ asset r, (after p inputs d).balances.get? asset = some r → r.asset = asset)
    ∧ (∀ r, r ∈ (after p inputs d).balances.records
        ↔ (after p inputs d).balances.get? r.asset = some r)
    ∧ (after p inputs d).balances.records.Pairwise (fun r s => r.asset < s.asset)
    ∧ ∀ input : BalanceInput, input.snapshot? = none → input.pushed = [] →
      (after p (inputs ++ [input]) d).balances = (after p inputs d).balances
  := by
  have hsorted : (after p inputs d).balances.Sorted := by
    apply sorted_after
    rw [hd]
    exact List.Pairwise.nil
  refine ⟨get?_after hp hd inputs, fun _ _ => BalanceTable.asset_of_get?, hsorted.mem_records,
    hsorted, ?_⟩
  intro input hsnapshot hpushed
  rw [after_concat, BalanceInput.apply_balances, hsnapshot, hpushed]
  rfl

/-- A policy with a pair that was written in small letters. -/
def samplePolicy : Policy := { pairs := [.ofAssets " btc" "usdt"] }

/-- A record of an asset, a snapshot without one, two records of another asset, and a refresh
that fails. -/
def sampleInputs : List BalanceInput :=
  [.update (.object [("doge", .object [("available", .str "1")])]),
    .snapshot (.arr []),
    .message ⟨0⟩ (.object [("method", .str "asset.update"), ("params", .arr [
      .object [("asset", .str " eth "), ("available", .str "2")],
      .object [("coin", .str "Eth"), ("free", .str "3")]])]),
    .refresh ⟨0⟩ (.error .rateLimited)]

/-- An asset traded is at nothing, the one pushed has its last record, and the one from before the
snapshot has none. -/
theorem balances_after_sampleInputs :
  (∀ pair ∈ samplePolicy.pairs, ∃ base quote, pair = .ofAssets base quote)
    ∧ (after samplePolicy sampleInputs {}).balances.get? "BTC" = some ⟨"BTC", .zero, .zero⟩
    ∧ ((after samplePolicy sampleInputs {}).balances.get? "ETH").map (fun r => r.total.coefficient)
      = some 3
    ∧ (after samplePolicy sampleInputs {}).balances.get? "DOGE" = none
  := by
  have hp : ∀ pair ∈ samplePolicy.pairs, ∃ base quote, pair = .ofAssets base quote := by
    intro pair hpair
    exact ⟨_, _, List.mem_singleton.mp hpair⟩
  obtain ⟨hget, -⟩ := balances_after (d := {}) hp rfl sampleInputs
  refine ⟨hp, ?_⟩
  rw [hget, hget, hget]
  decide

end Desk

end VenueLink
