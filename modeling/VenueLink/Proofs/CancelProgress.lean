import VenueLink.Desk.CancelReport
import Mathlib.Data.List.Nodup
import Mathlib.Data.List.Sort
import Mathlib.Tactic.Common

/-!
# The progress of a cancel run

At any moment the orders of a run fall into those that are pending and those with an outcome
in the report; settling an outcome moves an order from the first to the second, for good.
-/

namespace VenueLink

/-! ## Reports -/

namespace CancelReport

/-- The outcomes of a report are in the order of their keys, each key once. -/
def Sorted (r : CancelReport) : Prop :=
  r.outcomes.Pairwise fun a b => a.1.text < b.1.text

/-- The orders that a report has an outcome for. -/
def keys (r : CancelReport) : List ClientId := r.outcomes.map (·.1)

theorem mem_keys_iff (r : CancelReport) (id : ClientId) :
  id ∈ r.keys ↔ (r.get? id).isSome
  := by
  obtain ⟨outcomes⟩ := r
  simp only [keys, get?]
  induction outcomes with
  | nil => simp
  | cons entry rest ih =>
      obtain ⟨k, out⟩ := entry
      by_cases h : id = k
      · simp [h]
      · simp [List.lookup_cons, beq_false_of_ne h, h, ih]

theorem Sorted.nodup_keys {r : CancelReport} (h : r.Sorted) :
  r.keys.Nodup
  := by
  rw [keys, List.Nodup, List.pairwise_map]
  apply h.imp
  intro a b hab heq
  rw [heq] at hab
  exact String.lt_irrefl _ hab

theorem mem_insertOutcome {id : ClientId} {out : CancelOutcome}
    {outcomes : List (ClientId × CancelOutcome)} {entry : ClientId × CancelOutcome}
    (h : entry ∈ insertOutcome id out outcomes) :
  entry = (id, out) ∨ entry ∈ outcomes
  := by
  fun_induction insertOutcome id out outcomes with
  | case1 => simpa using h
  | case2 v rest =>
      rcases List.mem_cons.mp h with h | h
      · exact .inl h
      · exact .inr (List.mem_cons_of_mem _ h)
  | case3 k v rest hne hlt =>
      rcases List.mem_cons.mp h with h | h
      · exact .inl h
      · exact .inr h
  | case4 k v rest hne hlt ih =>
      rcases List.mem_cons.mp h with rfl | h
      · exact .inr List.mem_cons_self
      · rcases ih h with h | h
        · exact .inl h
        · exact .inr (List.mem_cons_of_mem _ h)

theorem sorted_insert {r : CancelReport} (h : r.Sorted) (id : ClientId) (out : CancelOutcome) :
  (r.insert id out).Sorted
  := by
  obtain ⟨outcomes⟩ := r
  simp only [Sorted, insert] at *
  fun_induction insertOutcome id out outcomes with
  | case1 => simp
  | case2 v rest =>
      rw [List.pairwise_cons] at h ⊢
      exact h
  | case3 k v rest hne hlt =>
      rw [List.pairwise_cons]
      refine ⟨?_, h⟩
      intro entry hentry
      rcases List.mem_cons.mp hentry with rfl | hentry
      · exact hlt
      · exact String.lt_trans hlt ((List.pairwise_cons.mp h).1 entry hentry)
  | case4 k v rest hne hlt ih =>
      rw [List.pairwise_cons] at h ⊢
      refine ⟨?_, ih h.2⟩
      intro entry hentry
      rcases mem_insertOutcome hentry with rfl | hentry
      · by_contra hlt'
        apply hne
        have := String.le_antisymm (String.not_lt.mp hlt') (String.not_lt.mp hlt)
        cases id
        cases k
        simp_all
      · exact h.1 entry hentry

theorem Sorted.mem_outcomes_iff {r : CancelReport} (h : r.Sorted) (id : ClientId)
    (out : CancelOutcome) :
  (id, out) ∈ r.outcomes ↔ r.get? id = some out
  := by
  obtain ⟨outcomes⟩ := r
  simp only [Sorted, get?] at *
  induction outcomes with
  | nil => simp
  | cons entry rest ih =>
      obtain ⟨k, v⟩ := entry
      obtain ⟨hlt, hrest⟩ := List.pairwise_cons.mp h
      by_cases hid : id = k
      · subst hid
        have hnot : (id, out) ∉ rest := fun hmem => String.lt_irrefl _ (hlt (id, out) hmem)
        simp [hnot, eq_comm]
      · simp [List.lookup_cons, beq_false_of_ne hid, hid, ih hrest]

/-- Two sorted reports with the same outcome for every order are the same. -/
theorem Sorted.eq_of_get? {r r' : CancelReport} (h : r.Sorted) (h' : r'.Sorted)
    (hget : ∀ id, r.get? id = r'.get? id) :
  r = r'
  := by
  let before (a b : ClientId × CancelOutcome) : Prop := a.1.text < b.1.text
  have : Std.Irrefl before := ⟨fun a => String.lt_irrefl a.1.text⟩
  have : Std.Antisymm before :=
    ⟨fun a b hab hba => absurd (String.lt_trans hab hba) (String.lt_irrefl a.1.text)⟩
  have heq : r.outcomes = r'.outcomes := by
    apply List.Pairwise.eq_of_mem_iff (r := before) h h'
    rintro ⟨id, out⟩
    rw [h.mem_outcomes_iff, h'.mem_outcomes_iff, hget]
  cases r
  cases r'
  exact congrArg mk heq

end CancelReport

/-! ## Progress -/

namespace CancelProgress

/-- The orders of a run are pending or have an outcome, not both, and no others are or do. -/
structure Parts (ids : List ClientId) (g : CancelProgress) : Prop where
  mem_iff : ∀ id, id ∈ ids ↔ id ∈ g.pending ∨ (g.report.get? id).isSome
  not_both : ∀ id ∈ g.pending, g.report.get? id = none
  sorted : g.report.Sorted

theorem parts_start (orders : List Order) :
  (start orders).Parts (orders.map (·.clientId)) where
  mem_iff id := by simp [start, CancelReport.get?]
  not_both id _ := rfl
  sorted := List.Pairwise.nil

theorem mem_pending_settle (g : CancelProgress) (id other : ClientId) (out : CancelOutcome) :
  other ∈ (g.settle id out).pending ↔ other ∈ g.pending ∧ other ≠ id
  := by
  unfold settle
  split
  case isTrue => simp
  case isFalse h =>
    simp only [iff_self_and]
    rintro hother rfl
    exact h hother

theorem get?_settle (g : CancelProgress) (id other : ClientId) (out : CancelOutcome) :
  (g.settle id out).report.get? other
    = if id ∈ g.pending ∧ other = id then some out else g.report.get? other
  := by
  unfold settle
  split
  case isTrue h => simp [CancelReport.get?_insert, h]
  case isFalse h => simp [h]

variable {ids : List ClientId} {g : CancelProgress}

theorem parts_settle (h : g.Parts ids) (id : ClientId) (out : CancelOutcome) :
  (g.settle id out).Parts ids where
  mem_iff other := by
    rw [h.mem_iff, mem_pending_settle, get?_settle]
    by_cases hid : other = id
    · subst hid
      by_cases hp : other ∈ g.pending
      · simp [hp]
      · simp [hp]
    · simp [hid]
  not_both other hother := by
    rw [mem_pending_settle] at hother
    rw [get?_settle, if_neg (fun h => hother.2 h.2)]
    apply h.not_both other hother.1
  sorted := by
    unfold settle
    split
    · apply CancelReport.sorted_insert h.sorted
    · exact h.sorted

/-- The first outcome that is settled stays. -/
theorem get?_settle_of_some (h : g.Parts ids) {id other : ClientId} {out out' : CancelOutcome}
    (hout : g.report.get? other = some out) :
  (g.settle id out').report.get? other = some out
  := by
  rw [get?_settle, if_neg, hout]
  rintro ⟨hp, rfl⟩
  rw [h.not_both other hp] at hout
  cases hout

/-- The report of a run that is over has the outcomes that were settled, and a failure for
each order that was pending. -/
theorem get?_finish (g : CancelProgress) (reason : String) (id : ClientId) :
  (g.finish reason).get? id
    = if id ∈ g.pending then some (.failed reason) else g.report.get? id
  := by
  obtain ⟨pending, report⟩ := g
  simp only [finish]
  induction pending generalizing report with
  | nil => simp
  | cons first rest ih =>
      rw [List.foldl_cons, ih, CancelReport.get?_insert]
      by_cases h : id = first
      · simp [h]
      · simp [h]

theorem sorted_finish (h : g.report.Sorted) (reason : String) :
  (g.finish reason).Sorted
  := by
  obtain ⟨pending, report⟩ := g
  simp only [finish]
  induction pending generalizing report with
  | nil => exact h
  | cons first rest ih =>
      rw [List.foldl_cons]
      apply ih
      apply CancelReport.sorted_insert h

/-- The report of a run that is over has one outcome for each of its orders. -/
theorem mem_keys_finish (h : g.Parts ids) (reason : String) (id : ClientId) :
  id ∈ (g.finish reason).keys ↔ id ∈ ids
  := by
  rw [CancelReport.mem_keys_iff, get?_finish, h.mem_iff]
  split
  case isTrue hp => simp [hp]
  case isFalse hp => simp [hp]

end CancelProgress

end VenueLink
