import Mathlib.Algebra.Order.Field.Power
import Mathlib.Algebra.Order.Ring.Rat
import Mathlib.Data.List.TakeWhile
import Mathlib.Tactic.FieldSimp
import Mathlib.Tactic.Positivity
import Mathlib.Tactic.Ring
import Mathlib.Tactic.SplitIfs
import VenueLink.Decimal.Literal

/-!
# What decimal literals write

A literal writes a number: its digits with a point, times a power of ten.  The decimal that is
read from it need not be that number, since digits that do not fit are rounded away.  But zero is
always read as zero, and a number is never read as zero unless it, or the digits in front of its
exponent, are below `10 ^ -28`.
-/

namespace VenueLink.Decimal

open Number (digit? ofDigits pow10 takeDigits)

/-! ## Literals -/

/-- A decimal literal: a sign, the digits before and after the point, and a power of ten. -/
structure Literal where
  negative : Bool
  whole : List Nat
  fraction : List Nat
  power : Int
deriving DecidableEq

namespace Literal

/-- The digits of a literal before and after the point, if it is not read yet.  Separators count
for nothing. -/
def readDigits? (point : Bool) : List Char → Option (List Nat × List Nat)
  | [] => some ([], [])
  | c :: rest =>
    match digit? c with
    | some d => (readDigits? point rest).map fun (whole, fraction) =>
      if point then (whole, d :: fraction) else (d :: whole, fraction)
    | none =>
      if c = '.' ∧ !point then readDigits? true rest
      else if c = '_' then readDigits? point rest
      else none

/-- The mark of an exponent. -/
def isMark (c : Char) : Bool := c = 'e' ∨ c = 'E'

/-- A text without a plus sign in front. -/
def dropPlus : List Char → List Char
  | '+' :: rest => rest
  | rest => rest

/-- Digits, perhaps after a plus sign. -/
def readWhole? (cs : List Char) : Option Nat :=
  match takeDigits (dropPlus cs) with
  | (d :: ds, []) => some (ofDigits (d :: ds))
  | _ => none

/-- The power of ten after a mark. -/
def readPower? : List Char → Option Int
  | '-' :: digits => (readWhole? digits).map fun n => -(n : Int)
  | digits => (readWhole? digits).map fun n => (n : Int)

/-- Whether a minus sign is in front, and the text after the sign. -/
def splitSign : List Char → Bool × List Char
  | '-' :: rest => (true, rest)
  | '+' :: rest => (false, rest)
  | rest => (false, rest)

/-- A sign, and digits with a power of ten. -/
def ofBase? (cs : List Char) (power : Int) : Option Literal :=
  ((readDigits? false (splitSign cs).2).filter fun ds => !(ds.1 ++ ds.2).isEmpty).map
    fun ds => ⟨(splitSign cs).1, ds.1, ds.2, power⟩

/-- The literal that a text is. -/
def ofText? (s : String) : Option Literal :=
  match s.toList.dropWhile (fun c => !isMark c) with
  | [] => ofBase? s.toList 0
  | _ :: power => (readPower? power).bind (ofBase? (s.toList.takeWhile fun c => !isMark c))

/-- All digits of a literal, as one number. -/
def digits (l : Literal) : Nat := ofDigits (l.whole ++ l.fraction)

/-- The number in front of the power of ten. -/
def base (l : Literal) : ℚ := (withSign l.negative l.digits : ℤ) / 10 ^ l.fraction.length

/-- The number that a literal writes. -/
def value (l : Literal) : ℚ := l.base * 10 ^ l.power

end Literal

/-! ## Digits -/

/-- The number that is written when digits are appended to those of another. -/
def append (n : Nat) (ds : List Nat) : Nat := ds.foldl (fun n d => n * 10 + d) n

theorem append_cons (n d : Nat) (ds : List Nat) :
  append n (d :: ds) = append (n * 10 + d) ds
  := rfl

theorem lt_ten_of_digit? {c : Char} {d : Nat} (h : digit? c = some d) :
  d < 10
  := by
  unfold digit? at h
  split at h
  case isTrue hdigit =>
    cases h
    rw [Char.isDigit, Bool.and_eq_true, decide_eq_true_eq, decide_eq_true_eq] at hdigit
    have hle : c.toNat ≤ 57 := hdigit.2
    change c.toNat - 48 < 10
    omega
  case isFalse => cases h

theorem digit?_eq_none_iff {c : Char} :
  digit? c = none ↔ c.isDigit = false
  := by
  simp [digit?]

/-- Appended digits make a number longer, and leave its digits in front. -/
theorem append_bounds {ds : List Nat} (h : ∀ d ∈ ds, d < 10) (n : Nat) :
  n * pow10 ds.length ≤ append n ds ∧ append n ds < (n + 1) * pow10 ds.length
  := by
  induction ds generalizing n with
  | nil => simp [append, Number.pow10_zero]
  | cons d rest ih =>
      rw [List.forall_mem_cons] at h
      obtain ⟨hle, hlt⟩ := ih h.2 (n * 10 + d)
      rw [append_cons, List.length_cons, Number.pow10_succ, Nat.mul_comm (pow10 _), ← Nat.mul_assoc,
        ← Nat.mul_assoc]
      constructor
      · exact Nat.le_trans (Nat.mul_le_mul_right _ (by omega)) hle
      · exact Nat.lt_of_lt_of_le hlt (Nat.mul_le_mul_right _ (by omega))

namespace Literal

/-- After the point there are no more digits before it. -/
theorem whole_of_readDigits? {cs : List Char} {whole fraction : List Nat}
    (h : readDigits? true cs = some (whole, fraction)) :
  whole = []
  := by
  induction cs generalizing whole fraction with
  | nil =>
      cases h
      rfl
  | cons c rest ih =>
      unfold readDigits? at h
      split at h
      · obtain ⟨⟨whole', fraction'⟩, hrest, heq⟩ := Option.map_eq_some_iff.mp h
        cases heq
        exact ih hrest
      · rw [if_neg (by simp)] at h
        split at h
        · exact ih h
        · cases h

end Literal

/-! ## Rounding -/

/-- Of digits that write `m` with so many places some are kept, which write `n`: all of them, or
the first ones, as many as fit, and then the last one may be rounded. -/
structure Kept (m places n kept : Nat) : Prop where
  zero : m = 0 → n = 0
  cases : (n = m ∧ kept = places) ∨
    (kept ≤ places ∧ m < (n + 1) * pow10 (places - kept) ∧
      (kept = maxScale ∨ limit ≤ (n + 1) * 10))

/-- Rounding keeps the digits in front. -/
theorem kept_of_round? {r : Reading} {next m k n kept : Nat}
    (hle : r.value * pow10 k ≤ m) (hlt : m < (r.value + 1) * pow10 k) (hnext : 5 ≤ next → m ≠ 0)
    (hfull : r.places = maxScale ∨ limit ≤ (r.value + 1) * 10)
    (h : r.round? next = some (n, kept)) :
  Kept m (r.places + k) n kept
  := by
  unfold Reading.round? at h
  split at h
  case isTrue hdown =>
    cases h
    constructor
    · rintro rfl
      exact (Nat.mul_eq_zero.mp (Nat.le_zero.mp hle)).resolve_right (Number.pow10_pos k).ne'
    · right
      rw [Nat.add_sub_cancel_left]
      exact ⟨Nat.le_add_right .., hlt, hfull⟩
  case isFalse hup =>
    have hm := hnext (by omega)
    split at h
    case isTrue =>
      cases h
      refine ⟨fun hzero => absurd hzero hm, .inr ⟨Nat.le_add_right .., ?_, ?_⟩⟩
      · rw [Nat.add_sub_cancel_left]
        exact Nat.lt_of_lt_of_le hlt (Nat.mul_le_mul_right _ (by omega))
      · omega
    case isFalse hlimit =>
      split at h
      · cases h
      case isFalse hplaces =>
        cases h
        refine ⟨fun hzero => absurd hzero hm, .inr ⟨by omega, ?_, by omega⟩⟩
        have hshift : r.places + k - (r.places - 1) = k + 1 := by omega
        rw [hshift, Number.pow10_succ]
        apply Nat.lt_of_lt_of_le hlt
        rw [Nat.mul_comm (pow10 k), ← Nat.mul_assoc]
        exact Nat.mul_le_mul_right _ (by omega)

/-- The end of a literal holds digits only. -/
theorem exists_digits_of_isTail {cs : List Char} (h : isTail cs = true) :
  ∃ ds, Literal.readDigits? true cs = some ([], ds) ∧ ∀ d ∈ ds, d < 10
  := by
  induction cs with
  | nil => exact ⟨[], rfl, nofun⟩
  | cons c rest ih =>
      rw [isTail, List.all_cons, Bool.and_eq_true] at h
      obtain ⟨ds, hds, hlt⟩ := ih h.2
      unfold Literal.readDigits?
      cases hc : digit? c with
      | some d =>
          rw [hds]
          exact ⟨d :: ds, rfl, List.forall_mem_cons.mpr ⟨lt_ten_of_digit? hc, hlt⟩⟩
      | none =>
          have hseparator : c = '_' := by simpa [digit?_eq_none_iff.mp hc] using h.1
          simpa [hseparator, hds] using hlt

/-- Where digits do not fit, those in front of them are kept. -/
theorem kept_of_tail {r : Reading} {d n kept : Nat} {rest : List Char} (hd : d < 10)
    (htail : isTail rest = true) (hfull : r.places = maxScale ∨ limit ≤ (r.value + 1) * 10)
    (h : r.round? d = some (n, kept)) :
  ∃ fraction, Literal.readDigits? true rest = some ([], fraction) ∧
    Kept (append r.value (d :: fraction)) (r.places + (d :: fraction).length) n kept
  := by
  obtain ⟨fraction, hfraction, hdigits⟩ := exists_digits_of_isTail htail
  use fraction, hfraction
  obtain ⟨hle, hlt⟩ := append_bounds (List.forall_mem_cons.mpr ⟨hd, hdigits⟩) r.value
  apply kept_of_round? hle hlt _ hfull h
  intro hup hzero
  have hfirst := (append_bounds hdigits (r.value * 10 + d)).1
  rw [← append_cons, hzero, Nat.le_zero, Nat.mul_eq_zero] at hfirst
  have := Number.pow10_pos fraction.length
  omega

/-- What is read of a literal is what is kept of its digits. -/
theorem kept_of_run {cs : List Char} {r : Reading} {n kept : Nat}
    (h : r.run cs = some (n, kept)) :
  ∃ whole fraction, Literal.readDigits? r.point cs = some (whole, fraction) ∧
    (r.started = true ∨ whole ++ fraction ≠ []) ∧
    Kept (append r.value (whole ++ fraction)) (r.places + fraction.length) n kept
  := by
  induction cs generalizing r with
  | nil =>
      unfold Reading.run at h
      split at h
      case isTrue hstarted =>
        cases h
        exact ⟨[], [], rfl, .inl hstarted, id, .inl ⟨rfl, rfl⟩⟩
      case isFalse => cases h
  | cons c rest ih =>
      unfold Reading.run at h
      unfold Literal.readDigits?
      cases hc : digit? c with
      | some d =>
          have hd := lt_ten_of_digit? hc
          simp only [hc] at h ⊢
          split at h
          case isTrue hplaces =>
            rw [Bool.and_eq_true, decide_eq_true_eq] at hplaces
            split at h
            · obtain ⟨fraction, hfraction, hkept⟩ := kept_of_tail hd ‹_› (.inl hplaces.2) h
              rw [hplaces.1, hfraction]
              exact ⟨[], d :: fraction, rfl, .inr nofun, hkept⟩
            · cases h
          case isFalse =>
            split at h
            case isTrue =>
              obtain ⟨whole, fraction, hdigits, -, hkept⟩ := ih h
              rw [hdigits]
              cases hpoint : r.point with
              | false =>
                  refine ⟨d :: whole, fraction, rfl, .inr nofun, ?_⟩
                  simpa [hpoint, append_cons] using hkept
              | true =>
                  obtain rfl := Literal.whole_of_readDigits? (hpoint ▸ hdigits)
                  refine ⟨[], d :: fraction, rfl, .inr nofun, ?_⟩
                  have hlength : r.places + (d :: fraction).length =
                      r.places + 1 + fraction.length := by
                    rw [List.length_cons]
                    omega
                  rw [hlength]
                  simpa [hpoint, append_cons] using hkept
            case isFalse hlimit =>
              split at h
              case isTrue htail =>
                rw [Bool.and_eq_true] at htail
                obtain ⟨fraction, hfraction, hkept⟩ := kept_of_tail hd htail.2 (.inr (by omega)) h
                rw [htail.1, hfraction]
                exact ⟨[], d :: fraction, rfl, .inr nofun, hkept⟩
              case isFalse => cases h
      | none =>
          simp only [hc] at h ⊢
          split at h
          case isTrue hpoint =>
            rw [if_pos hpoint]
            exact ih h
          case isFalse hpoint =>
            rw [if_neg hpoint]
            split at h
            case isTrue hseparator =>
              rw [if_pos hseparator.1]
              split at h
              case isTrue hplaces =>
                rw [Bool.and_eq_true, decide_eq_true_eq] at hplaces
                split at h
                case isTrue htail =>
                  obtain ⟨fraction, hfraction, hdigits⟩ := exists_digits_of_isTail htail
                  rw [hplaces.1, hfraction]
                  obtain ⟨hle, hlt⟩ := append_bounds hdigits r.value
                  exact ⟨[], fraction, rfl, .inl hseparator.2,
                    kept_of_round? hle hlt (by omega) (.inl hplaces.2) h⟩
                case isFalse => cases h
              case isFalse => exact ih h
            case isFalse => cases h

/-! ## Numbers that are not read as zero -/

theorem pow10_le {m n : Nat} (h : m ≤ n) :
  pow10 m ≤ pow10 n
  := Nat.pow_le_pow_right (by decide) h

variable {m places n kept : Nat}

/-- Digits that write a number from `10 ^ -28` on are not all rounded away. -/
theorem Kept.ne_zero (h : Kept m places n kept) (hm : pow10 places ≤ m * pow10 maxScale) :
  n ≠ 0
  := by
  rintro rfl
  have hplaces := Number.pow10_pos places
  rcases h.cases with ⟨rfl, -⟩ | ⟨hle, hlt, rfl | hlimit⟩
  · omega
  · have hsplit : pow10 places = pow10 (places - maxScale) * pow10 maxScale := by
      rw [← Number.pow10_add, Nat.sub_add_cancel hle]
    rw [hsplit] at hm
    have := Nat.le_of_mul_le_mul_right hm (Number.pow10_pos maxScale)
    omega
  · exact absurd hlimit (by decide)

/-- Digits that write a number from `10 ^ -28` on once they are divided by a power of ten are
enough to write such a number. -/
theorem Kept.le (h : Kept m places n kept) {p : Nat} (hkept : kept ≤ maxScale)
    (hp : p ≤ maxScale) (hfar : maxScale ≤ kept + p)
    (hm : pow10 (places + p) ≤ m * pow10 maxScale) :
  pow10 (kept + p - maxScale) ≤ n
  := by
  rcases h.cases with ⟨rfl, rfl⟩ | ⟨hle, hlt, hfull⟩
  · have hsplit : pow10 (kept + p) = pow10 (kept + p - maxScale) * pow10 maxScale := by
      rw [← Number.pow10_add, Nat.sub_add_cancel hfar]
    rw [hsplit] at hm
    exact Nat.le_of_mul_le_mul_right hm (Number.pow10_pos maxScale)
  · by_cases hscale : kept = maxScale
    · subst hscale
      have hsplit : pow10 places = pow10 (places - maxScale) * pow10 maxScale := by
        rw [← Number.pow10_add, Nat.sub_add_cancel hle]
      have hlt' : pow10 p * pow10 places < (n + 1) * pow10 places := by
        rw [← Number.pow10_add, Nat.add_comm]
        apply Nat.lt_of_le_of_lt hm
        rw [hsplit, ← Nat.mul_assoc]
        exact Nat.mul_lt_mul_of_pos_right hlt (Number.pow10_pos maxScale)
      rw [Nat.add_sub_cancel_left]
      exact Nat.le_of_lt_succ (Nat.lt_of_mul_lt_mul_right hlt')
    · have hlimit := hfull.resolve_left hscale
      have hbound : pow10 27 * 10 + 10 ≤ limit := by decide
      have hpow : pow10 (kept + p - maxScale) ≤ pow10 27 := by
        apply pow10_le
        unfold maxScale at *
        omega
      omega

/-! ## Shifts -/

theorem eq_of_ofParts? {c : Int} {scale : Nat} {d : Decimal} (h : ofParts? c scale = some d) :
  d.coefficient = c ∧ d.scale = scale
  := by
  unfold ofParts? at h
  split at h
  · cases h
    exact ⟨rfl, rfl⟩
  · cases h

@[simp] theorem natAbs_withSign (negative : Bool) (n : Nat) :
  (withSign negative n).natAbs = n
  := by
  cases negative <;> simp [withSign]

theorem withSign_eq_zero_iff {negative : Bool} {n : Nat} :
  withSign negative n = 0 ↔ n = 0
  := by
  cases negative <;> simp [withSign]

theorem roundDiv_zero {den : Nat} (h : 0 < den) :
  Number.roundDiv 0 den .away = 0
  := by
  simp [Number.roundDiv, h]

theorem roundDiv_ne_zero {num den : Nat} (hden : 0 < den) (h : den ≤ num) :
  Number.roundDiv num den .away ≠ 0
  := by
  have hquotient : 0 < num / den := Nat.div_pos h hden
  unfold Number.roundDiv
  dsimp only
  split_ifs <;> omega

variable {d e : Decimal}

/-- Multiplication by a power of ten keeps zero, and makes nothing zero. -/
theorem coefficient_of_shiftUp? (h : shiftUp? d n = some e) :
  e.coefficient = 0 ↔ d.coefficient = 0
  := by
  unfold shiftUp? at h
  split at h
  · rw [(eq_of_ofParts? h).1]
  · split at h
    · cases h
    · rw [(eq_of_ofParts? h).1, Int.mul_eq_zero]
      have := Number.pow10_pos (n - d.scale)
      omega

/-- Division by a power of ten keeps zero, and makes nothing zero that is large enough for the
places that are left. -/
theorem coefficient_of_shiftDown? (h : shiftDown? d n = some e) :
  n ≤ maxScale ∧ (d.coefficient = 0 → e.coefficient = 0) ∧
    ((maxScale < d.scale + n → pow10 (d.scale + n - maxScale) ≤ d.coefficient.natAbs) →
      e.coefficient = 0 → d.coefficient = 0)
  := by
  unfold shiftDown? at h
  split at h
  · cases h
  case isFalse hn =>
    use Nat.not_lt.mp hn
    split at h
    · rw [(eq_of_ofParts? h).1]
      exact ⟨id, fun _ => id⟩
    case isFalse hscale =>
      obtain ⟨rescaled, hrescaled, he⟩ := Option.bind_eq_some_iff.mp h
      unfold rescale at hrescaled
      rw [if_neg (by omega)] at hrescaled
      rw [(eq_of_ofParts? he).1, (eq_of_ofParts? hrescaled).1, withSign_eq_zero_iff]
      have hplaces : d.scale - (maxScale - n) = d.scale + n - maxScale := by omega
      rw [hplaces]
      constructor
      · intro hzero
        rw [hzero]
        exact roundDiv_zero (Number.pow10_pos _)
      · intro hlarge hzero
        exact absurd hzero (roundDiv_ne_zero (Number.pow10_pos _) (hlarge (by omega)))

/-! ## Reading literals -/

namespace Literal

theorem isMark_of_readDigits? {point : Bool} {cs : List Char} {ds : List Nat × List Nat}
    (h : readDigits? point cs = some ds) :
  ∀ c ∈ cs, isMark c = false
  := by
  induction cs generalizing point ds with
  | nil => exact nofun
  | cons c rest ih =>
      rw [List.forall_mem_cons]
      unfold readDigits? at h
      cases hc : digit? c with
      | some d =>
          simp only [hc] at h
          obtain ⟨ds', hrest, -⟩ := Option.map_eq_some_iff.mp h
          refine ⟨?_, ih hrest⟩
          rw [isMark, decide_eq_false_iff_not]
          rintro (rfl | rfl) <;> cases hc
      | none =>
          simp only [hc] at h
          split at h
          case isTrue hpoint => exact ⟨by rw [hpoint.1]; decide, ih h⟩
          case isFalse =>
            split at h
            case isTrue hseparator => exact ⟨by rw [hseparator]; decide, ih h⟩
            case isFalse => cases h

/-- There is no mark of an exponent in front of an exponent. -/
theorem isMark_of_ofBase? {cs : List Char} {power : Int} {l : Literal}
    (h : ofBase? cs power = some l) :
  ∀ c ∈ cs, isMark c = false
  := by
  unfold ofBase? at h
  obtain ⟨ds, hds, -⟩ := Option.map_eq_some_iff.mp h
  have hrest := isMark_of_readDigits? (Option.filter_eq_some_iff.mp hds).1
  unfold splitSign at hrest
  split at hrest
  · exact List.forall_mem_cons.mpr ⟨by decide, hrest⟩
  · exact List.forall_mem_cons.mpr ⟨by decide, hrest⟩
  · exact hrest

/-- A whole number that fits is one. -/
theorem readWhole?_of_fits {bits : Nat} {cs : List Char}
    (h : Number.readWhole? bits cs = some n) :
  readWhole? cs = some n
  := by
  unfold Number.readWhole? at h
  dsimp only at h
  split at h
  case h_1 d ds hdigits =>
    have hdigits : takeDigits (dropPlus cs) = (d :: ds, []) := hdigits
    rw [readWhole?, hdigits]
    split at h
    · exact h
    · cases h
  case h_2 => cases h

end Literal

theorem readPlain?_eq (cs : List Char) :
  readPlain? cs = (Reading.run ⟨0, 0, false, false⟩ (Literal.splitSign cs).2).bind
    fun read => ofParts? (withSign (Literal.splitSign cs).1 read.1) read.2
  := rfl

/-- What is read of a literal without exponent is what is kept of its digits. -/
theorem kept_of_readPlain? {cs : List Char} (power : Int) (h : readPlain? cs = some d) :
  ∃ l, Literal.ofBase? cs power = some l ∧ l.power = power ∧
    Kept l.digits l.fraction.length d.coefficient.natAbs d.scale
  := by
  rw [readPlain?_eq] at h
  obtain ⟨⟨n, kept⟩, hrun, hparts⟩ := Option.bind_eq_some_iff.mp h
  obtain ⟨hcoefficient, hscale⟩ := eq_of_ofParts? hparts
  obtain ⟨whole, fraction, hdigits, hnonempty, hkept⟩ := kept_of_run hrun
  have hbase : Literal.ofBase? cs power =
      some ⟨(Literal.splitSign cs).1, whole, fraction, power⟩ := by
    rw [Literal.ofBase?, hdigits, Option.filter_some, if_pos]
    · rfl
    · simpa using hnonempty
  have hkept : Kept (append 0 (whole ++ fraction)) (0 + fraction.length) n kept := hkept
  rw [Nat.zero_add] at hkept
  refine ⟨_, hbase, rfl, ?_⟩
  rw [hcoefficient, natAbs_withSign, hscale]
  exact hkept

namespace Literal

/-- A literal is not too fine for the places that are kept: neither the digits in front of its
exponent nor the number it writes is below `10 ^ -28`. -/
structure Fits (l : Literal) : Prop where
  base : pow10 l.fraction.length ≤ l.digits * pow10 maxScale
  value : ∀ p : Nat, l.power = -p →
    pow10 (l.fraction.length + p) ≤ l.digits * pow10 maxScale

/-- Zero is read as zero, and what is not too fine is not. -/
structure Reads (l : Literal) (d : Decimal) : Prop where
  zero : l.digits = 0 → d.coefficient = 0
  fits : l.Fits → d.coefficient ≠ 0

end Literal

open Literal (Reads)

theorem Kept.reads {l : Literal}
    (h : Kept l.digits l.fraction.length d.coefficient.natAbs d.scale) :
  Reads l d where
  zero hzero := Int.natAbs_eq_zero.mp (h.zero hzero)
  fits hfits := Int.natAbs_ne_zero.mp (h.ne_zero hfits.base)

/-- A literal with a power of ten that makes it smaller. -/
theorem reads_shiftDown? {l : Literal}
    (h : Kept l.digits l.fraction.length d.coefficient.natAbs d.scale) (hpower : l.power = -n)
    (he : shiftDown? d n = some e) :
  Reads l e
  := by
  obtain ⟨hn, hzero, hlarge⟩ := coefficient_of_shiftDown? he
  constructor
  · intro hdigits
    exact hzero (h.reads.zero hdigits)
  · intro hfits he
    apply h.reads.fits hfits
    apply hlarge _ he
    intro hfar
    exact h.le d.scale_le hn hfar.le (hfits.value n hpower)

/-- A literal with a power of ten that makes it larger. -/
theorem reads_shiftUp? {l : Literal}
    (h : Kept l.digits l.fraction.length d.coefficient.natAbs d.scale)
    (he : shiftUp? d n = some e) :
  Reads l e where
  zero hdigits := (coefficient_of_shiftUp? he).mpr (h.reads.zero hdigits)
  fits hfits hzero := h.reads.fits hfits ((coefficient_of_shiftUp? he).mp hzero)

theorem readScientific?_eq (cs : List Char) :
  readScientific? cs = match cs.dropWhile fun c => !Literal.isMark c with
    | [] => none
    | _ :: power => (readPlain? (cs.takeWhile fun c => !Literal.isMark c)).bind fun base =>
      match power with
      | '-' :: digits => (readPower? digits).bind (shiftDown? base)
      | digits => (readPower? digits).bind (shiftUp? base)
  := rfl

/-- What is read of a literal with an exponent. -/
theorem reads_of_readScientific? {s : String} (h : readScientific? s.toList = some e) :
  ∃ l, Literal.ofText? s = some l ∧ Reads l e
  := by
  rw [readScientific?_eq] at h
  unfold Literal.ofText?
  split at h
  · cases h
  case h_2 mark power _ =>
    obtain ⟨d, hplain, h⟩ := Option.bind_eq_some_iff.mp h
    split at h
    case h_1 digits =>
      obtain ⟨n, hn, he⟩ := Option.bind_eq_some_iff.mp h
      obtain ⟨l, hl, hpower, hkept⟩ := kept_of_readPlain? (-n) hplain
      refine ⟨l, ?_, reads_shiftDown? hkept hpower he⟩
      rw [Literal.readPower?, Literal.readWhole?_of_fits hn]
      exact hl
    case h_2 hsign =>
      obtain ⟨n, hn, he⟩ := Option.bind_eq_some_iff.mp h
      obtain ⟨l, hl, -, hkept⟩ := kept_of_readPlain? n hplain
      refine ⟨l, ?_, reads_shiftUp? hkept he⟩
      rw [Literal.readPower?.eq_def]
      split
      · exact absurd rfl (hsign _)
      · rw [Literal.readWhole?_of_fits hn]
        exact hl

/-- Whatever decimal is read from a text, the text is a literal that reads so. -/
theorem reads_of_parse? {s : String} (h : parse? s = some d) :
  ∃ l, Literal.ofText? s = some l ∧ Reads l d
  := by
  rw [parse?, Option.or_eq_some_iff] at h
  rcases h with h | ⟨-, h⟩
  · obtain ⟨l, hl, -, hkept⟩ := kept_of_readPlain? 0 h
    have hplain : s.toList.dropWhile (fun c => !Literal.isMark c) = [] := by
      rw [List.dropWhile_eq_nil_iff]
      intro c hc
      rw [Literal.isMark_of_ofBase? hl c hc]
      rfl
    use l, by rw [Literal.ofText?, hplain, hl]
    exact hkept.reads
  · exact reads_of_readScientific? h

/-- The decimal and the literal of `-1.50e-3`. -/
example :
  parse? "-1.50e-3" = some ⟨-150, 5, by decide, by decide⟩ ∧
    Literal.ofText? "-1.50e-3" = some ⟨true, [1], [5, 0], -3⟩
  := by decide

/-! ## Numbers -/

namespace Literal

theorem cast_pow10 (n : Nat) :
  (pow10 n : ℚ) = 10 ^ n
  := Nat.cast_pow 10 n

theorem abs_base (l : Literal) :
  |l.base| = l.digits / pow10 l.fraction.length
  := by
  have habs : |((withSign l.negative l.digits : ℤ) : ℚ)| = l.digits := by
    rw [← Int.cast_abs, Int.abs_eq_natAbs, natAbs_withSign]
    rfl
  rw [base, abs_div, habs, cast_pow10, abs_of_pos (by positivity)]

theorem value_eq_zero_iff (l : Literal) :
  l.value = 0 ↔ l.digits = 0
  := by
  have hpow : (10 : ℚ) ^ l.fraction.length ≠ 0 := by positivity
  have hpower : (10 : ℚ) ^ l.power ≠ 0 := by positivity
  rw [value, base, mul_eq_zero, or_iff_left hpower, div_eq_zero_iff, or_iff_left hpow,
    Int.cast_eq_zero, withSign_eq_zero_iff]

/-- A literal writes a number that is not zero, but it or the digits in front of the exponent are
below `10 ^ -28`. -/
def IsTiny (l : Literal) : Prop :=
  l.value ≠ 0 ∧ (|l.base| < 1 / 10 ^ maxScale ∨ |l.value| < 1 / 10 ^ maxScale)

/-- A fraction is at least `10 ^ -28` when its numerator is large enough. -/
theorem le_of_le_div {places : Nat}
    (h : (1 : ℚ) / 10 ^ maxScale ≤ m / pow10 places) :
  pow10 places ≤ m * pow10 maxScale
  := by
  rw [← cast_pow10, div_le_div_iff₀ (by simp [Number.pow10_pos]) (by simp [Number.pow10_pos]),
    one_mul] at h
  exact_mod_cast h

theorem abs_value_of_neg {l : Literal} {p : Nat} (hp : l.power = -p) :
  |l.value| = l.digits / pow10 (l.fraction.length + p)
  := by
  rw [value, abs_mul, abs_base, hp, zpow_neg, zpow_natCast, abs_inv, abs_of_pos (by positivity),
    ← cast_pow10, ← div_eq_mul_inv, div_div, Number.pow10_add, Nat.cast_mul]

theorem fits_of_not_isTiny {l : Literal} (h : ¬l.IsTiny) (hvalue : l.value ≠ 0) :
  l.Fits
  := by
  rw [IsTiny, not_and, not_or, not_lt, not_lt] at h
  obtain ⟨hbase, hvalue⟩ := h hvalue
  constructor
  · rw [abs_base] at hbase
    exact le_of_le_div hbase
  · intro p hp
    rw [abs_value_of_neg hp] at hvalue
    exact le_of_le_div hvalue

end Literal

/-- Whatever decimal is read from a text, the text writes a number, and unless that is tiny it is
zero just when the decimal is. -/
theorem isZero_iff_of_parse? {s : String} (h : parse? s = some d) :
  ∃ l, Literal.ofText? s = some l ∧ (¬l.IsTiny → (d.isZero = true ↔ l.value = 0))
  := by
  obtain ⟨l, hl, hreads⟩ := reads_of_parse? h
  use l, hl
  intro htiny
  rw [isZero, decide_eq_true_iff]
  constructor
  · intro hzero
    by_contra hvalue
    exact hreads.fits (Literal.fits_of_not_isTiny htiny hvalue) hzero
  · intro hvalue
    exact hreads.zero (l.value_eq_zero_iff.mp hvalue)

end VenueLink.Decimal
