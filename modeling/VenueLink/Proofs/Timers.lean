import VenueLink.Proofs.DecimalLiteral
import VenueLink.Service.Poll

/-!
# Intervals that were accepted

Whole numbers are read from variables by what their texts write, and a text that writes none is
passed over.  Nothing else is asked of an interval, so zero is accepted for one.  Neither the timer
that sends probes nor the one that polls can run on it.
-/

namespace VenueLink

open Decimal.Literal (dropPlus)

/-! ## Texts that write numbers -/

/-- What a text has between the blanks around it and without a plus sign. -/
def Text.numeral (text : String) : List Char := dropPlus (trimChars text.toList)

/-- A text writes a number in digits. -/
structure Text.Writes (text : String) (n : Nat) : Prop where
  ne_nil : numeral text ≠ []
  isDigit_of_mem : ∀ c ∈ numeral text, c.isDigit = true
  ofDigitChars_eq : Nat.ofDigitChars 10 (numeral text) 0 = n

namespace Number

theorem takeDigits_eq (cs : List Char) :
  takeDigits cs
    = ((cs.takeWhile Char.isDigit).map fun c => c.toNat - '0'.toNat, cs.dropWhile Char.isDigit)
  := by
  induction cs with
  | nil => rfl
  | cons c rest ih =>
      rw [takeDigits, digit?]
      cases hc : c.isDigit with
      | true => simp [ih, hc]
      | false => simp [hc]

/-- Nothing but digits is taken from a text just when it has nothing else. -/
theorem takeDigits_eq_iff {cs : List Char} {ds : List Nat} :
  takeDigits cs = (ds, [])
    ↔ (∀ c ∈ cs, c.isDigit = true) ∧ (cs.map fun c => c.toNat - '0'.toNat) = ds
  := by
  rw [takeDigits_eq, Prod.mk.injEq, List.dropWhile_eq_nil_iff, and_comm, and_congr_right_iff]
  intro hall
  rw [List.takeWhile_eq_self_iff.mpr hall]

theorem ofDigits_map (cs : List Char) :
  ofDigits (cs.map fun c => c.toNat - '0'.toNat) = Nat.ofDigitChars 10 cs 0
  := by
  rw [ofDigits, List.foldl_map, Nat.ofDigitChars_eq_foldl]
  simp only [Nat.mul_comm]

/-- A number is read when it fits and is written in digits, perhaps after a plus sign. -/
theorem readWhole?_eq_some_iff {bits n : Nat} {cs : List Char} :
  readWhole? bits cs = some n
    ↔ n < pow2 bits ∧ dropPlus cs ≠ [] ∧ (∀ c ∈ dropPlus cs, c.isDigit = true)
      ∧ Nat.ofDigitChars 10 (dropPlus cs) 0 = n
  := by
  unfold readWhole?
  dsimp only
  split
  case h_1 d ds hdigits =>
    replace hdigits : takeDigits (dropPlus cs) = (d :: ds, []) := hdigits
    obtain ⟨hall, hvalues⟩ := takeDigits_eq_iff.mp hdigits
    have hne : dropPlus cs ≠ [] := by
      intro hnil
      rw [hnil] at hvalues
      exact nomatch hvalues
    rw [← hvalues, ofDigits_map, Option.ite_none_right_eq_some, Option.some.injEq]
    constructor
    · rintro ⟨hlt, rfl⟩
      exact ⟨hlt, hne, hall, rfl⟩
    · rintro ⟨hlt, -, -, rfl⟩
      exact ⟨hlt, rfl⟩
  case h_2 hnone =>
    replace hnone : ∀ d ds, takeDigits (dropPlus cs) ≠ (d :: ds, []) := hnone
    constructor
    · exact nofun
    · rintro ⟨-, hne, hall, -⟩
      obtain ⟨c, rest, hcs⟩ := List.exists_cons_of_ne_nil hne
      apply absurd (takeDigits_eq_iff.mpr ⟨hall, rfl⟩)
      rw [hcs, List.map_cons, ← hcs]
      exact hnone _ _

end Number

/-! ## Variables -/

namespace Lookup

variable {vars : Lookup} {name : String}

/-- A variable has a number when its text writes the number and that fits. -/
theorem whole?_eq_some_iff {bits n : Nat} :
  vars.whole? bits name = some n
    ↔ n < Number.pow2 bits ∧ ∃ text, vars name = some text ∧ Text.Writes text n
  := by
  have hparse : ∀ text : String, Number.parseWhole? bits (Text.trim text) = some n
      ↔ n < Number.pow2 bits ∧ Text.Writes text n := by
    intro text
    rw [Number.parseWhole?, Text.trim, String.toList_ofList, Number.readWhole?_eq_some_iff]
    constructor
    · rintro ⟨hlt, hne, hdigit, hvalue⟩
      exact ⟨hlt, hne, hdigit, hvalue⟩
    · rintro ⟨hlt, hne, hdigit, hvalue⟩
      exact ⟨hlt, hne, hdigit, hvalue⟩
  rw [whole?, Option.bind_eq_some_iff]
  simp only [hparse]
  constructor
  · rintro ⟨text, hset, hlt, hwrites⟩
    exact ⟨hlt, text, hset, hwrites⟩
  · rintro ⟨hlt, text, hset, hwrites⟩
    exact ⟨text, hset, hlt, hwrites⟩

/-- What the default lacks, the span that is read has just when the variable writes seconds that
have it. -/
theorem getD_secs?_iff {P : Span → Prop} {default : Span} (h : ¬ P default) :
  P ((vars.secs? name).getD default)
    ↔ ∃ text n, vars name = some text ∧ Text.Writes text n ∧ n < Number.pow2 64 ∧ P (.ofSecs n)
  := by
  unfold secs?
  constructor
  · intro hspan
    cases hread : vars.whole? 64 name with
    | none =>
        rw [hread] at hspan
        exact absurd hspan h
    | some n =>
        rw [hread] at hspan
        obtain ⟨hlt, text, hset, hwrites⟩ := whole?_eq_some_iff.mp hread
        exact ⟨text, n, hset, hwrites, hlt, hspan⟩
  · rintro ⟨text, n, hset, hwrites, hlt, hspan⟩
    rw [whole?_eq_some_iff.mpr ⟨hlt, text, hset, hwrites⟩]
    exact hspan

end Lookup

/-! ## Timers -/

/-- The first tick of a timer that starts at a reading of a clock.  There is none when the timer
cannot run, or when the clock does not count that far. -/
def Liveness.firstTick? (l : Liveness) (clockEnd now : Instant) : Option Instant :=
  if l.canRun ∧ (now.after l.pingInterval).nanos ≤ clockEnd.nanos then
    some (now.after l.pingInterval)
  else none

namespace Settings

variable {vars : Lookup} {s : Settings}

/-- The variable of the interval between probes. -/
def pingVariable : String := "BICONOMY_PING_INTERVAL_SECS"

/-- The variable of the interval between polls. -/
def pollVariable : String := "BICONOMY_POLL_INTERVAL_SECS"

/-- An interval that cannot be read is ten seconds. -/
theorem intervals_of_read (h : read vars = .ok s) :
  s.liveness.pingInterval = (vars.secs? pingVariable).getD (.ofSecs 10)
    ∧ s.pollInterval = (vars.secs? pollVariable).getD (.ofSecs 10)
  := by
  unfold read at h
  simp only [bind, Except.bind] at h
  -- Only the key, the secret and the pairs can be refused.
  split at h
  · cases h
  split at h
  · cases h
  split at h
  · cases h
  cases h
  exact ⟨rfl, rfl⟩

theorem nanos_ofSecs_eq_zero {n : Nat} :
  (Span.ofSecs n).nanos = 0 ↔ n = 0
  := by
  rw [Span.ofSecs, Nat.mul_eq_zero, or_iff_left (by decide)]

/-- The interval that is read is zero just when the variable writes zero. -/
theorem nanos_eq_zero_iff {name : String} :
  ((vars.secs? name).getD (.ofSecs 10)).nanos = 0
    ↔ ∃ text, vars name = some text ∧ Text.Writes text 0
  := by
  have hdefault : ¬ (Span.ofSecs 10).nanos = 0 := by decide
  rw [Lookup.getD_secs?_iff (P := fun span => span.nanos = 0) hdefault]
  constructor
  · rintro ⟨text, n, hset, hwrites, -, hzero⟩
    obtain rfl := nanos_ofSecs_eq_zero.mp hzero
    exact ⟨text, hset, hwrites⟩
  · rintro ⟨text, hset, hwrites⟩
    exact ⟨text, 0, hset, hwrites, Number.pow2_pos 64, rfl⟩

theorem firstTick?_eq_none_iff {l : Liveness} {clockEnd now : Instant} :
  l.firstTick? clockEnd now = none
    ↔ l.pingInterval.nanos = 0 ∨ clockEnd.nanos < (now.after l.pingInterval).nanos
  := by
  simp [Liveness.firstTick?, Liveness.canRun, or_iff_not_imp_left]

/-- With settings that were accepted, the timer of polls cannot run just when the variable of its
interval writes zero, and so it is with the timer of probes.  On a clock that counts ten seconds
more, the latter has no first tick just when the variable writes zero or more seconds than the
clock counts. -/
theorem timers_of_read (h : read vars = .ok s) :
  (Service.canPoll s = false ↔ ∃ text, vars pollVariable = some text ∧ Text.Writes text 0)
    ∧ (s.liveness.canRun = false ↔ ∃ text, vars pingVariable = some text ∧ Text.Writes text 0)
    ∧ ∀ clockEnd now : Instant, (now.after (.ofSecs 10)).nanos ≤ clockEnd.nanos →
      (s.liveness.firstTick? clockEnd now = none
        ↔ ∃ text n, vars pingVariable = some text ∧ Text.Writes text n ∧ n < Number.pow2 64
          ∧ (n = 0 ∨ clockEnd.nanos < (now.after (.ofSecs n)).nanos))
  := by
  obtain ⟨hping, hpoll⟩ := intervals_of_read h
  have hrun : s.liveness.canRun = false ↔ s.liveness.pingInterval.nanos = 0 := by
    simp [Liveness.canRun]
  have hpolls : Service.canPoll s = false ↔ s.pollInterval.nanos = 0 := by
    simp [Service.canPoll]
  refine ⟨?_, ?_, ?_⟩
  · rw [hpolls, hpoll, nanos_eq_zero_iff]
  · rw [hrun, hping, nanos_eq_zero_iff]
  · intro clockEnd now hclock
    have hdefault : ¬ ((Span.ofSecs 10).nanos = 0
        ∨ clockEnd.nanos < (now.after (.ofSecs 10)).nanos) := by
      rw [not_or, Nat.not_lt]
      exact ⟨by decide, hclock⟩
    rw [firstTick?_eq_none_iff, hping, Lookup.getD_secs?_iff
      (P := fun span => span.nanos = 0 ∨ clockEnd.nanos < (now.after span).nanos) hdefault]
    simp only [nanos_ofSecs_eq_zero]

/-- Variables with a key, a secret and two intervals. -/
def intervalLookup (ping poll : String) : Lookup :=
  .ofList [(keyVariable, "k"), (secretVariable, "s"), (pingVariable, ping), (pollVariable, poll)]

/-- The probes have the longest interval that is read, on a clock with seconds of 63 bits, and the
polls have none. -/
theorem timers_of_read_longInterval :
  ∃ s, read (intervalLookup "18446744073709551615" " +00 ") = .ok s
    ∧ Service.canPoll s = false ∧ s.liveness.canRun = true
    ∧ s.liveness.firstTick? ⟨9223372036854775807999999999⟩ ⟨0⟩ = none
  := by
  refine ⟨_, rfl, ?_⟩
  obtain ⟨hpoll, hrun, htick⟩ :=
    @timers_of_read (intervalLookup "18446744073709551615" " +00 ") _ rfl
  refine ⟨hpoll.mpr ⟨" +00 ", rfl, ?_⟩, ?_,
    (htick _ _ (by decide)).mpr ⟨_, 18446744073709551615, rfl, ?_⟩⟩
  · exact ⟨by decide, List.all_eq_true.mp (by decide), by decide⟩
  · rw [← Bool.not_eq_false, hrun]
    rintro ⟨text, hset, hwrites⟩
    obtain rfl := Option.some.inj hset
    exact absurd hwrites.ofDigitChars_eq (by decide)
  · exact ⟨⟨by decide, List.all_eq_true.mp (by decide), by decide⟩, by decide, by decide⟩

/-- Settings without either interval are accepted. -/
theorem accepted_without_intervals :
  ∃ s, read (intervalLookup "0" " +00 ") = .ok s
    ∧ s.liveness.pingInterval.nanos = 0 ∧ s.liveness.canRun = false
    ∧ s.pollInterval.nanos = 0 ∧ Service.canPoll s = false
  := by
  refine ⟨_, rfl, ?_⟩
  decide +kernel

end Settings

end VenueLink
