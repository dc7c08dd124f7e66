import Mathlib.Data.List.SplitBy
import VenueLink.Proofs.Batch

/-!
# Warnings of outages

Nothing can be read of some snapshots of the balances.  An outage is a longest row of such ones
among the snapshots that are applied, whatever is pushed between them and however many refreshes
fail meanwhile.  A desk warns of each outage once, when it begins.
-/

namespace VenueLink

/-! ## Outages -/

namespace BalanceEntry

variable {raw raw' : Json} {rest : List Json}

/-- Nothing can be read of a snapshot. -/
def isUnreadable (raw : Json) : Bool := (records raw).isEmpty

/-- Both of two snapshots can be read, or neither can. -/
def alike (raw raw' : Json) : Bool := isUnreadable raw == isUnreadable raw'

/-- The outages among some snapshots: the longest rows of those of which nothing can be read. -/
def outages (snapshots : List Json) : List (List Json) :=
  (snapshots.splitBy alike).filter fun row => row.all isUnreadable

theorem alike_iff :
  alike raw raw' = true ↔ isUnreadable raw = isUnreadable raw'
  := beq_iff_eq

/-- The snapshots in a row of like ones are like the first. -/
theorem isUnreadable_of_mem_row (h : (raw :: rest).IsChain fun r s => alike r s = true)
    (hmem : raw' ∈ raw :: rest) :
  isUnreadable raw' = isUnreadable raw
  := by
  induction rest generalizing raw with
  | nil => rw [List.mem_singleton.mp hmem]
  | cons next rest ih =>
      rw [List.isChain_cons_cons] at h
      rcases List.mem_cons.mp hmem with rfl | hmem
      · rfl
      · rw [ih h.2 hmem, alike_iff.mp h.1]

/-- A row of like snapshots is an outage when nothing can be read of the first. -/
theorem all_isUnreadable_row (h : (raw :: rest).IsChain fun r s => alike r s = true) :
  (raw :: rest).all isUnreadable = isUnreadable raw
  := by
  rw [Bool.eq_iff_iff, List.all_eq_true]
  constructor
  · intro hall
    exact hall raw List.mem_cons_self
  · intro hraw raw' hmem
    rw [isUnreadable_of_mem_row h hmem, hraw]

end BalanceEntry

open BalanceEntry (isUnreadable alike outages)

/-! ## Alarms -/

/-- What is known of outages: whether one lasts, and how many were warned of. -/
structure Alarm where
  on : Bool
  warnings : Nat
deriving DecidableEq, Repr

namespace Alarm

variable {a : Alarm} {raw raw' : Json} {rest : List Json}

/-- Take note of a snapshot.  One that cannot be read is warned of unless an outage lasts, and
any other ends the outage. -/
def note (a : Alarm) (raw : Json) : Alarm :=
  if isUnreadable raw then ⟨true, if a.on then a.warnings else a.warnings + 1⟩
  else ⟨false, a.warnings⟩

theorem on_note (a : Alarm) (raw : Json) :
  (a.note raw).on = isUnreadable raw
  := by
  cases h : isUnreadable raw with
  | true => simp [note, h]
  | false => simp [note, h]

/-- A snapshot that is like the last one changes nothing. -/
theorem note_note (h : alike raw raw' = true) :
  (a.note raw).note raw' = a.note raw
  := by
  rw [BalanceEntry.alike_iff] at h
  cases hraw : isUnreadable raw with
  | true => simp [note, ← h, hraw]
  | false => simp [note, ← h, hraw]

/-- Of a row of like snapshots only the first one matters. -/
theorem foldl_note_row (h : (raw :: rest).IsChain fun r s => alike r s = true) :
  (raw :: rest).foldl note a = a.note raw
  := by
  induction rest generalizing a raw with
  | nil => rfl
  | cons next rest ih =>
      rw [List.isChain_cons_cons] at h
      rw [List.foldl_cons, ih h.2, note_note h.1]

/-- Each row of which nothing can be read is warned of once, if each row is unlike the next and
the first of them does not continue an outage. -/
theorem warnings_foldl_note {rows : List (List Json)} (hne : [] ∉ rows)
    (hrow : ∀ row ∈ rows, row.IsChain fun r s => alike r s = true)
    (hunlike : rows.IsChain fun row row' =>
      ∃ h h', alike (row.getLast h) (row'.head h') = false)
    (hfirst : a.on = true → ∀ row ∈ rows.head?, ∃ raw ∈ row, isUnreadable raw = false) :
  (rows.flatten.foldl note a).warnings
    = a.warnings + (rows.filter fun row => row.all isUnreadable).length
  := by
  induction rows generalizing a with
  | nil => rfl
  | cons row rows ih =>
      rw [List.mem_cons, not_or] at hne
      obtain ⟨raw, rest, rfl⟩ := List.exists_cons_of_ne_nil (Ne.symm hne.1)
      have hlike := hrow _ List.mem_cons_self
      have hrest : ∀ row ∈ rows, row.IsChain fun r s => alike r s = true := by
        intro row hmem
        exact hrow row (List.mem_cons_of_mem _ hmem)
      obtain ⟨hnext, hunlike⟩ := List.isChain_cons.mp hunlike
      -- The outage that lasts after this row, if any, is not continued by the next one.
      have hends : (a.note raw).on = true →
          ∀ row ∈ rows.head?, ∃ next ∈ row, isUnreadable next = false := by
        intro hon row hmem
        obtain ⟨h, h', hdiffer⟩ := hnext row hmem
        rw [on_note, ← BalanceEntry.isUnreadable_of_mem_row hlike (List.getLast_mem h)] at hon
        use row.head h', List.head_mem h'
        simpa [alike, hon] using hdiffer
      rw [List.flatten_cons, List.foldl_append, foldl_note_row hlike,
        ih hne.2 hrest hunlike hends, List.filter_cons,
        BalanceEntry.all_isUnreadable_row hlike]
      cases hraw : isUnreadable raw with
      | false => simp [note, hraw]
      | true =>
          have hoff : a.on = false := by
            rw [← Bool.not_eq_true]
            intro hon
            obtain ⟨raw', hmem, hread⟩ := hfirst hon _ rfl
            rw [BalanceEntry.isUnreadable_of_mem_row hlike hmem, hraw] at hread
            exact nomatch hread
          simp only [note, hraw, hoff, if_true, Bool.false_eq_true, if_false, List.length_cons]
          omega

/-- As many warnings are given as there are outages, when none lasts before. -/
theorem warnings_foldl_note_outages (h : a.on = false) (snapshots : List Json) :
  (snapshots.foldl note a).warnings = a.warnings + (outages snapshots).length
  := by
  conv_lhs => rw [← List.flatten_splitBy alike snapshots]
  apply warnings_foldl_note
  · apply List.nil_notMem_splitBy
  · intro row hmem
    exact List.isChain_of_mem_splitBy hmem
  · apply List.isChain_getLast_head_splitBy
  · intro hon
    exact absurd hon (h ▸ Bool.false_ne_true)

end Alarm

namespace Desk

/-! ## The alarm of a desk -/

/-- What a desk knows of outages. -/
def alarm (d : Desk) : Alarm := ⟨d.degraded, d.degradedWarnings⟩

theorem alarm_applySnapshot (p : Policy) (raw : Json) (d : Desk) :
  (d.applySnapshot p raw).2.alarm = d.alarm.note raw
  := by
  unfold applySnapshot Alarm.note isUnreadable
  cases BalanceEntry.records raw with
  | nil => rfl
  | cons r rest => rfl

theorem alarm_applyBalanceUpdate (raw : Json) (d : Desk) :
  (d.applyBalanceUpdate raw).2.alarm = d.alarm
  := by
  unfold applyBalanceUpdate
  cases BalanceEntry.records raw with
  | nil => rfl
  | cons r rest => rfl

theorem alarm_applyOrderEntry (now : Moment) (entry : Json) (d : Desk) :
  (d.applyOrderEntry now entry).alarm = d.alarm
  := by
  unfold applyOrderEntry
  cases updateOf? now entry with
  | some u => rfl
  | none => rfl

theorem alarm_applyOrderMessage (now : Moment) (payload : Json) (d : Desk) :
  (d.applyOrderMessage now payload).alarm = d.alarm
  := by
  rw [applyOrderMessage_eq]
  induction entriesOf payload generalizing d with
  | nil => rfl
  | cons entry rest ih => rw [List.foldl_cons, ih, alarm_applyOrderEntry]

theorem alarm_applyMessage (now : Moment) (body : Json) (d : Desk) :
  (d.applyMessage now body).alarm = d.alarm
  := by
  unfold applyMessage
  split
  · rfl
  · split
    · apply alarm_applyBalanceUpdate
    · split
      · apply alarm_applyOrderMessage
      · rfl

/-- One input: a snapshot is taken note of, and everything else leaves the alarm as it is. -/
theorem BalanceInput.alarm_apply (p : Policy) (input : BalanceInput) (d : Desk) :
  (input.apply p d).alarm = input.snapshot?.toList.foldl Alarm.note d.alarm
  := by
  cases input with
  | snapshot raw => exact alarm_applySnapshot p raw d
  | update raw => exact alarm_applyBalanceUpdate raw d
  | message now body => exact alarm_applyMessage now body d
  | refresh now reply =>
      rw [apply, snapshot?, answeredBy_refreshBalances]
      cases (VenueRequest.of .balances []).outcome reply with
      | error e => rfl
      | ok raw => apply alarm_applySnapshot

/-- Some inputs: the snapshots that they bring are taken note of one after another. -/
theorem alarm_after (p : Policy) (inputs : List BalanceInput) (d : Desk) :
  (after p inputs d).alarm = (inputs.filterMap BalanceInput.snapshot?).foldl Alarm.note d.alarm
  := by
  induction inputs using List.reverseRecOn with
  | nil => rfl
  | append_singleton rest input ih =>
      rw [after_concat, BalanceInput.alarm_apply, ih, List.filterMap_append, List.foldl_append]
      cases h : input.snapshot? with
      | none => simp [h]
      | some raw => simp [h]

/-- Whatever comes to the balances, as many warnings are given as there are outages among the
snapshots that are applied. -/
theorem degradedWarnings_after {d : Desk} (hd : d.degraded = false) (p : Policy)
    (inputs : List BalanceInput) :
  (after p inputs d).degradedWarnings
    = d.degradedWarnings + (outages (inputs.filterMap BalanceInput.snapshot?)).length
  := by
  calc (after p inputs d).degradedWarnings
      = ((inputs.filterMap BalanceInput.snapshot?).foldl Alarm.note d.alarm).warnings :=
        congrArg Alarm.warnings (alarm_after p inputs d)
    _ = d.degradedWarnings + (outages (inputs.filterMap BalanceInput.snapshot?)).length :=
        Alarm.warnings_foldl_note_outages hd _

/-- Two snapshots of which nothing can be read, with a message and a failing refresh between
them, then one that can be read, and another of which nothing can be read. -/
def outageInputs : List BalanceInput :=
  [.snapshot (.arr []),
    .message ⟨0⟩ (.object [("method", .str "asset.update"), ("params", .object [
      ("asset", .str "BTC"), ("available", .str "1")])]),
    .refresh ⟨0⟩ (.error .rateLimited),
    .refresh ⟨0⟩ (.ok (.object [("code", .ofNat 0), ("result", .object [])])),
    .refresh ⟨0⟩ (.ok (.object [("code", .ofNat 0), ("result", .object [
      ("asset", .str "BTC"), ("available", .str "1")])])),
    .snapshot .null]

theorem degradedWarnings_after_outageInputs :
  ({} : Desk).degraded = false ∧ (after samplePolicy outageInputs {}).degradedWarnings = 2
  := by
  use rfl
  rw [degradedWarnings_after rfl]
  decide

end Desk

end VenueLink
