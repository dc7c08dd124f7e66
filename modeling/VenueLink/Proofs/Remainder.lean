import Mathlib.Tactic.NormNum
import VenueLink.Payload.OrderEntry
import VenueLink.Proofs.DecimalLiteral

/-!
# Orders of which nothing remains

Where nothing else tells the state of an order, its remaining amount does.  An amount that can be
read tells that the order is filled just when it is zero.  But an amount that cannot be read, or
not as a decimal, tells the same.
-/

namespace VenueLink

open Decimal (Literal)
open Json (Members)

namespace Json

/-- The text that stands for a number. -/
def numberText? : Json → Option String
  | .num n => some n.text
  | .str s => some (Text.trim s)
  | _ => none

/-- The decimal that is read from a value. -/
def decimal? (v : Json) : Option Decimal := v.numberText?.bind Decimal.parse?

/-- The literal that a value is. -/
def literal? (v : Json) : Option Literal := v.numberText?.bind Literal.ofText?

/-- What cannot be read is taken for zero. -/
theorem toDecimal_eq (v : Json) :
  v.toDecimal = v.decimal?.getD .zero
  := by
  cases v <;> simp [toDecimal, decimal?, numberText?]

/-- A decimal that is read from a value is zero just when the number is, unless that is tiny. -/
theorem isZero_iff_of_decimal? {v : Json} {d : Decimal} (h : v.decimal? = some d) :
  ∃ l, v.literal? = some l ∧ (¬l.IsTiny → (d.isZero = true ↔ l.value = 0))
  := by
  obtain ⟨text, htext, hparse⟩ := Option.bind_eq_some_iff.mp h
  obtain ⟨l, hl, hzero⟩ := Decimal.isZero_iff_of_parse? hparse
  use l
  rw [literal?, htext]
  exact ⟨hl, hzero⟩

end Json

namespace OrderEntry

/-- Nothing tells the state of an order but its remaining amount, if that does. -/
def IsOpenQuestion (entry : Members) : Prop :=
  ∀ rule ∈ StatusRule.all, rule ≠ .nothingRemaining → rule.derive? entry = none

instance (entry : Members) : Decidable (IsOpenQuestion entry) :=
  inferInstanceAs (Decidable (∀ rule ∈ StatusRule.all, _))

/-- The remaining amount decides. -/
theorem state_eq {entry : Members} (h : IsOpenQuestion entry) :
  state entry =
    if (entry.decimal? remainingKeys).any Decimal.isZero then .filled else .resting
  := by
  have hnone (rule : StatusRule) (hrule : rule ≠ .nothingRemaining) : rule.derive? entry = none :=
    h rule (by cases rule <;> decide) hrule
  have hlast : state entry = (StatusRule.nothingRemaining.derive? entry).getD .resting := by
    simp only [state, firstRule?, StatusRule.all, List.findSome?_cons, List.findSome?_nil, hnone,
      ne_eq, reduceCtorEq, not_false_eq_true, Option.map_none]
    cases StatusRule.nothingRemaining.derive? entry <;> rfl
  rw [hlast, StatusRule.derive?]
  split <;> rfl

/-- An order of which nothing else is known is filled just when its remaining amount is read as
zero, which it also is when no decimal can be read. -/
theorem state_eq_filled_iff {entry : Members} (h : IsOpenQuestion entry) :
  state entry = .filled ↔ ∃ v, entry.first? remainingKeys = some v ∧
    ∀ d, v.decimal? = some d → d.isZero = true
  := by
  rw [state_eq h, Members.decimal?]
  cases entry.first? remainingKeys with
  | none => simp
  | some v =>
      rw [Option.map_some, Option.any_some, Json.toDecimal_eq]
      cases hd : v.decimal? with
      | none => simp [hd, Decimal.isZero, Decimal.zero]
      | some d => simp [hd]

/-- The remaining amount of an order of which nothing else is known.  If there is none the order
rests.  If no decimal can be read from it the order is taken for filled.  If one can be read it
is a number, and unless that is tiny the order is filled just when it is zero. -/
theorem state_of_remainder {entry : Members} (h : IsOpenQuestion entry) :
  (state entry = .filled ∨ state entry = .resting) ∧
  (entry.first? remainingKeys = none → state entry = .resting) ∧
  ∀ v, entry.first? remainingKeys = some v →
    (v.decimal? = none → state entry = .filled) ∧
    ∀ d, v.decimal? = some d →
      ∃ l, v.literal? = some l ∧ (¬l.IsTiny → (state entry = .filled ↔ l.value = 0))
  := by
  have hfilled := state_eq_filled_iff h
  refine ⟨?_, ?_, ?_⟩
  · rw [state_eq h]
    split
    · exact .inl rfl
    · exact .inr rfl
  · intro hnone
    rw [state_eq h, Members.decimal?, hnone]
    rfl
  · intro v hv
    rw [hv] at hfilled
    constructor
    · intro hunread
      exact hfilled.mpr ⟨v, rfl, by simp [hunread]⟩
    · intro d hd
      obtain ⟨l, hl, hzero⟩ := Json.isZero_iff_of_decimal? hd
      refine ⟨l, hl, fun htiny => ?_⟩
      rw [hfilled, ← hzero htiny]
      simp [hd]

/-- An order of which a half remains rests. -/
theorem state_of_remainder_half :
  IsOpenQuestion [("left", .str "0.50")] ∧ state [("left", .str "0.50")] = .resting
  := by
  have hopen : IsOpenQuestion [("left", .str "0.50")] := by decide
  obtain ⟨hstates, -, hread⟩ := state_of_remainder hopen
  obtain ⟨l, hl, hzero⟩ := (hread (.str "0.50") rfl).2 ⟨50, 2, by decide, by decide⟩
    (by decide)
  have hhalf : Json.literal? (.str "0.50") = some ⟨false, [0], [5, 0], 0⟩ := by decide
  cases hl.symm.trans hhalf
  have hbase : Literal.base ⟨false, [0], [5, 0], 0⟩ = 1 / 2 := by
    norm_num [Literal.base, Literal.digits, Number.ofDigits, Decimal.withSign]
  have hvalue : Literal.value ⟨false, [0], [5, 0], 0⟩ = 1 / 2 := by
    rw [Literal.value, hbase, zpow_zero, mul_one]
  have htiny : ¬Literal.IsTiny ⟨false, [0], [5, 0], 0⟩ := by
    rw [Literal.IsTiny, hbase, hvalue, abs_of_pos (by norm_num)]
    norm_num [Decimal.maxScale]
  use hopen
  apply hstates.resolve_left
  rw [hzero htiny, hvalue]
  norm_num

/-- An order is taken for filled though its remaining amount is no number, or is a number that is
not zero. -/
theorem filled_though_unreadable :
  (∃ entry v, IsOpenQuestion entry ∧ entry.first? remainingKeys = some v ∧ v.literal? = none ∧
    state entry = .filled) ∧
  ∃ entry v l, IsOpenQuestion entry ∧ entry.first? remainingKeys = some v ∧
    v.literal? = some l ∧ l.value ≠ 0 ∧ state entry = .filled
  := by
  refine ⟨⟨[("left", .str "abc")], .str "abc", ?_, rfl, ?_, ?_⟩,
    [("left", .str "1e300")], .str "1e300", ⟨false, [1], [], 300⟩, ?_, rfl, ?_, ?_, ?_⟩
  · decide
  · decide
  · decide
  · decide
  · decide
  · rw [Ne, Literal.value_eq_zero_iff]
    decide
  · decide

end OrderEntry

end VenueLink
