import VenueLink.Proofs.DecimalLiteral

/-!
# The text of decimals

What is written is read back: the text of a decimal is a literal without exponent, and what is
read from it is the decimal with its places.  All digits of the text fit, so nothing is rounded.
-/

namespace VenueLink.Decimal

open Nat (ofDigitChars toDigits)
open Number (digit? paddedDigits pow10)

/-! ## Digits -/

/-- Appended digits do not make a number smaller. -/
theorem le_ofDigitChars (cs : List Char) (n : Nat) :
  n ≤ ofDigitChars 10 cs n
  := by
  rw [Nat.ofDigitChars_eq_ofDigitChars_zero]
  exact Nat.le_add_right_of_le (Nat.le_mul_of_pos_left n (Nat.pow_pos (by decide)))

/-- Digits that fit are appended to those read so far. -/
theorem run_digits (point started : Bool) {cs rest : List Char} {value places : Nat}
    (hcs : ∀ c ∈ cs, c.isDigit = true) (hfits : ofDigitChars 10 cs value < limit)
    (hplaces : point = true → places + cs.length ≤ maxScale) :
  Reading.run ⟨value, places, point, started⟩ (cs ++ rest)
    = Reading.run ⟨ofDigitChars 10 cs value, places + if point then cs.length else 0, point,
      started || !cs.isEmpty⟩ rest
  := by
  induction cs generalizing value places started with
  | nil => simp [Nat.ofDigitChars_nil]
  | cons c cs ih =>
      rw [List.forall_mem_cons] at hcs
      rw [Nat.ofDigitChars_cons, Nat.mul_comm] at hfits ⊢
      have hc : digit? c = some (c.toNat - '0'.toNat) := if_pos hcs.1
      have hvalue := Nat.lt_of_le_of_lt (le_ofDigitChars cs _) hfits
      have hroom : ¬(point && places = maxScale) = true := by
        rw [Bool.and_eq_true, decide_eq_true_eq]
        rintro ⟨hpoint, rfl⟩
        exact absurd (hplaces hpoint) (by simp)
      rw [List.cons_append, Reading.run, hc]
      dsimp only
      rw [if_neg hroom, if_pos hvalue]
      cases point with
      | false => simpa using ih true hcs.2 hfits nofun
      | true =>
          have hplaces := hplaces rfl
          rw [List.length_cons, Nat.add_comm cs.length, ← Nat.add_assoc] at hplaces
          simpa [Nat.add_assoc, Nat.add_comm 1] using ih true hcs.2 hfits fun _ => hplaces

theorem isDigit_toDigits (n : Nat) :
  ∀ c ∈ toDigits 10 n, c.isDigit = true
  := fun _ => Nat.isDigit_of_mem_toDigits (by decide) (by decide)

theorem toList_pushn (s : String) (c : Char) (n : Nat) :
  (s.pushn c n).toList = s.toList ++ List.replicate n c
  := by
  rw [String.pushn_eq_repeat_push]
  induction n with
  | zero => exact (List.append_nil _).symm
  | succ n ih =>
      rw [Nat.repeat, String.toList_push, ih, List.append_assoc, ← List.replicate_succ']

theorem toList_paddedDigits (width n : Nat) :
  (paddedDigits width n).toList
    = List.replicate (width - (toDigits 10 n).length) '0' ++ toDigits 10 n
  := by
  rw [paddedDigits, String.toList_append]
  simp only [Nat.toString_eq_ofList_toDigits]
  rw [String.toList_ofList, String.length_ofList, toList_pushn]
  rfl

theorem length_paddedDigits {width n : Nat} (hwidth : 0 < width) (h : n < pow10 width) :
  (paddedDigits width n).toList.length = width
  := by
  have hle : (toDigits 10 n).length ≤ width := (Nat.length_toDigits_le_iff (by decide) hwidth).mpr h
  rw [toList_paddedDigits, List.length_append, List.length_replicate, Nat.sub_add_cancel hle]

theorem isDigit_paddedDigits (width n : Nat) :
  ∀ c ∈ (paddedDigits width n).toList, c.isDigit = true
  := by
  rw [toList_paddedDigits, List.forall_mem_append]
  refine ⟨?_, isDigit_toDigits n⟩
  intro c hc
  rw [List.eq_of_mem_replicate hc]
  rfl

/-- Padded digits shift a number and fill the places that become free. -/
theorem ofDigitChars_paddedDigits {width n : Nat} (hwidth : 0 < width) (h : n < pow10 width)
    (m : Nat) :
  ofDigitChars 10 (paddedDigits width n).toList m = m * pow10 width + n
  := by
  rw [Nat.ofDigitChars_eq_ofDigitChars_zero, length_paddedDigits hwidth h, toList_paddedDigits,
    Nat.ofDigitChars_append, Nat.ofDigitChars_replicate_zero, Nat.mul_zero,
    Nat.ofDigitChars_ten_toDigits, Nat.mul_comm]
  rfl

/-! ## Texts -/

/-- The characters for a number with some places. -/
def magnitudeChars (n places : Nat) : List Char :=
  if places = 0 then toDigits 10 n
  else toDigits 10 (n / pow10 places) ++ '.' :: (paddedDigits places (n % pow10 places)).toList

theorem toList_text (d : Decimal) :
  d.text.toList = (if d.coefficient < 0 then ['-'] else [])
    ++ magnitudeChars d.coefficient.natAbs d.scale
  := by
  have hsign : (if d.coefficient < 0 then "-" else "").toList
      = if d.coefficient < 0 then ['-'] else [] := apply_ite String.toList _ _ _
  unfold text magnitudeChars
  dsimp only
  split
  · rw [String.toList_append, hsign, Nat.toString_eq_ofList_toDigits, String.toList_ofList]
  · simp only [String.toList_append, hsign, Nat.toString_eq_ofList_toDigits, String.toList_ofList,
      List.append_assoc]
    rfl

/-- A number that is written starts with a digit. -/
theorem exists_magnitudeChars (n places : Nat) :
  ∃ c rest, magnitudeChars n places = c :: rest ∧ c.isDigit = true
  := by
  have hdigits (n : Nat) (tail : List Char) :
      ∃ c rest, toDigits 10 n ++ tail = c :: rest ∧ c.isDigit = true := by
    cases h : toDigits 10 n with
    | nil => exact absurd h Nat.toDigits_ne_nil
    | cons c rest => exact ⟨c, rest ++ tail, rfl, isDigit_toDigits n c (h ▸ List.mem_cons_self)⟩
  unfold magnitudeChars
  split
  · simpa using hdigits n []
  · apply hdigits

/-- A number is written with digits and a point. -/
theorem isDigit_or_of_mem_magnitudeChars {n places : Nat} :
  ∀ c ∈ magnitudeChars n places, c.isDigit = true ∨ c = '.'
  := by
  unfold magnitudeChars
  split
  · intro c hc
    exact .inl (isDigit_toDigits n c hc)
  · rw [List.forall_mem_append, List.forall_mem_cons]
    refine ⟨?_, .inr rfl, ?_⟩
    · intro c hc
      exact .inl (isDigit_toDigits _ c hc)
    · intro c hc
      exact .inl (isDigit_paddedDigits _ _ c hc)

/-- The digits before the point are read. -/
theorem run_toDigits {n : Nat} (hn : n < limit) (rest : List Char) :
  Reading.run ⟨0, 0, false, false⟩ (toDigits 10 n ++ rest) = Reading.run ⟨n, 0, false, true⟩ rest
  := by
  have hread : ofDigitChars 10 (toDigits 10 n) 0 = n := Nat.ofDigitChars_ten_toDigits
  have hstarted : (toDigits 10 n).isEmpty = false :=
    List.isEmpty_eq_false_iff.mpr Nat.toDigits_ne_nil
  rw [run_digits false false (isDigit_toDigits n) (by rwa [hread]) nofun, hread, hstarted]
  rfl

theorem run_nil (value places : Nat) (point : Bool) :
  Reading.run ⟨value, places, point, true⟩ [] = some (value, places)
  := rfl

theorem run_point (value places : Nat) (started : Bool) (rest : List Char) :
  Reading.run ⟨value, places, false, started⟩ ('.' :: rest)
    = Reading.run ⟨value, places, true, started⟩ rest
  := rfl

/-- The digits after the point are read. -/
theorem run_paddedDigits {m n places : Nat} (hpos : 0 < places) (hplaces : places ≤ maxScale)
    (hn : n < pow10 places) (hfits : m * pow10 places + n < limit) :
  Reading.run ⟨m, 0, true, true⟩ (paddedDigits places n).toList
    = some (m * pow10 places + n, places)
  := by
  rw [← ofDigitChars_paddedDigits hpos hn] at hfits ⊢
  have hlength := length_paddedDigits hpos hn
  have hfull : 0 + (paddedDigits places n).toList.length ≤ maxScale := by
    rwa [hlength, Nat.zero_add]
  rw [← List.append_nil (paddedDigits places n).toList,
    run_digits true true (isDigit_paddedDigits places n) hfits fun _ => hfull, List.append_nil,
    hlength, if_pos rfl, Nat.zero_add, Bool.true_or, run_nil]

/-- A number that is written is read back, with its places. -/
theorem run_magnitudeChars {n places : Nat} (hn : n < limit) (hplaces : places ≤ maxScale) :
  Reading.run ⟨0, 0, false, false⟩ (magnitudeChars n places) = some (n, places)
  := by
  unfold magnitudeChars
  split
  case isTrue hzero =>
    rw [← List.append_nil (toDigits 10 n), run_toDigits hn, hzero, run_nil]
  case isFalse hpos =>
    have hwhole := Nat.lt_of_le_of_lt (Nat.div_le_self n (pow10 places)) hn
    have hfraction := Nat.mod_lt n (Number.pow10_pos places)
    rw [← Nat.div_add_mod' n (pow10 places)] at hn
    rw [run_toDigits hwhole, run_point,
      run_paddedDigits (Nat.pos_of_ne_zero hpos) hplaces hfraction hn, Nat.div_add_mod']

theorem splitSign_of_isDigit {c : Char} (hc : c.isDigit = true) (rest : List Char) :
  Literal.splitSign (c :: rest) = (false, c :: rest)
  := by
  unfold Literal.splitSign
  split
  case h_1 h =>
    cases h
    cases hc
  case h_2 h =>
    cases h
    cases hc
  case h_3 => rfl

theorem withSign_natAbs (n : Int) :
  withSign (n < 0) n.natAbs = n
  := by
  by_cases h : n < 0
  · rw [decide_eq_true h, withSign, if_pos rfl]
    omega
  · rw [decide_eq_false h, withSign, if_neg Bool.false_ne_true]
    omega

/-- A decimal is read back from its text. -/
theorem parse?_text (d : Decimal) :
  parse? d.text = some d
  := by
  obtain ⟨c, rest, hchars, hc⟩ := exists_magnitudeChars d.coefficient.natAbs d.scale
  have hsign : Literal.splitSign d.text.toList
      = (decide (d.coefficient < 0), magnitudeChars d.coefficient.natAbs d.scale) := by
    rw [toList_text, hchars]
    by_cases hneg : d.coefficient < 0
    · rw [if_pos hneg, decide_eq_true hneg]
      rfl
    · rw [if_neg hneg, decide_eq_false hneg]
      exact splitSign_of_isDigit hc rest
  rw [parse?, readPlain?_eq, hsign, run_magnitudeChars d.coefficient_lt d.scale_le,
    Option.bind_some, withSign_natAbs, ofParts?, dif_pos ⟨d.coefficient_lt, d.scale_le⟩]
  rfl

end VenueLink.Decimal
