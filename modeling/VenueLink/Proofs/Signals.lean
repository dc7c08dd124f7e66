import VenueLink.Order.Matching

/-!
# What a score says

An entry that carries an id of the order is an exact match.  Any other entry is told by its
traits: side, amount and price.  Each trait that can be read agrees with the order or disagrees,
and the score says whether any disagrees and how many agree, in whatever order they are looked
at.
-/

namespace VenueLink

open Json (Members)

/-- A value reads like a text: it is that text between blanks, or a number that is written so. -/
inductive Json.ReadsLike : Json → String → Prop
  | text (s : String) : ReadsLike (.str s) (Text.trim s)
  | number (n : Number) : ReadsLike (.num n) n.text

namespace OrderEntry

variable {o : Order} {t : Tolerance} {entry : Members} {signals signals' : List Signal}

/-! ## Ids -/

/-- One of some keys holds a value that reads like a text. -/
def HasText (entry : Members) (keys : List String) (text : String) : Prop :=
  ∃ key ∈ keys, ∃ v, entry.get? key = some v ∧ v.ReadsLike text

theorem anyEquals_iff (entry : Members) (keys : List String) (text : String) :
  anyEquals entry keys text = true ↔ HasText entry keys text
  := by
  simp only [anyEquals, HasText, List.any_eq_true, List.mem_filterMap]
  constructor
  · rintro ⟨v, ⟨key, hkey, hv⟩, hequals⟩
    refine ⟨key, hkey, v, hv, ?_⟩
    cases v with
    | str s =>
        rw [← of_decide_eq_true hequals]
        exact .text s
    | num n =>
        rw [← of_decide_eq_true hequals]
        exact .number n
    | _ => cases hequals
  · rintro ⟨key, hkey, v, hv, hreads⟩
    refine ⟨v, ⟨key, hkey, hv⟩, ?_⟩
    cases hreads with
    | text s => exact decide_eq_true rfl
    | number n => exact decide_eq_true rfl

/-- An entry carries the client id of an order. -/
def HasClientId (o : Order) (entry : Members) : Prop :=
  HasText entry clientIdKeys o.clientId.text

/-- An entry carries the venue id that an order holds, confirmed or not. -/
def HasVenueId (o : Order) (entry : Members) : Prop :=
  ∃ id, o.knownId? = some id ∧ HasText entry venueIdKeys id.text

/-- An entry carries no id of an order. -/
def HasNoId (o : Order) (entry : Members) : Prop :=
  ¬HasClientId o entry ∧ ¬HasVenueId o entry

theorem any_anyEquals_iff (o : Order) (entry : Members) :
  (o.knownId?.any fun id => anyEquals entry venueIdKeys id.text) = true ↔ HasVenueId o entry
  := by
  simp only [Option.any_eq_true, anyEquals_iff, HasVenueId]

/-! ## Traits -/

/-- What an entry may tell of an order that it does not name. -/
inductive Trait where
  | side
  | amount
  | price
deriving DecidableEq

/-- The traits in the order in which they are looked at. -/
def Trait.all : List Trait := [side, amount, price]

theorem Trait.mem_all (x : Trait) :
  x ∈ all
  := by
  cases x <;> decide

/-- A trait of an entry can be read, and agrees with the order or disagrees: the side when the
first field of it that is not null has a code, the amount when both amounts are positive, and the
price when both prices are. -/
inductive Tells (o : Order) (t : Tolerance) (entry : Members) : Trait → Bool → Prop
  | side {v : Json} {code : Int} (hv : entry.first? sideKeys = some v)
    (hcode : sideCode? v = some code) : Tells o t entry .side (code = o.side.code)
  | amount (hentry : (entry.decimalOrZero amountKeys).isPositive = true)
    (horder : o.amount.isPositive = true) :
    Tells o t entry .amount (t.close (entry.decimalOrZero amountKeys) o.amount)
  | price (hentry : (entry.decimalOrZero priceKeys).isPositive = true)
    (horder : o.price.isPositive = true) :
    Tells o t entry .price (t.close (entry.decimalOrZero priceKeys) o.price)

/-- The signal of a trait. -/
def signal (o : Order) (t : Tolerance) (entry : Members) : Trait → Signal
  | .side => sideSignal o entry
  | .amount => amountSignal o t entry
  | .price => priceSignal o t entry

theorem signal_eq_some_iff (x : Trait) (b : Bool) :
  signal o t entry x = some b ↔ Tells o t entry x b
  := by
  constructor
  · intro h
    cases x with
    | side =>
        obtain ⟨code, hcode, rfl⟩ := Option.map_eq_some_iff.mp h
        obtain ⟨v, hv, hcode⟩ := Option.bind_eq_some_iff.mp hcode
        exact .side hv hcode
    | amount =>
        obtain ⟨hpositive, hclose⟩ := Option.ite_none_right_eq_some.mp h
        obtain rfl := Option.some.inj hclose
        rw [Bool.and_eq_true] at hpositive
        exact .amount hpositive.1 hpositive.2
    | price =>
        obtain ⟨hpositive, hclose⟩ := Option.ite_none_right_eq_some.mp h
        obtain rfl := Option.some.inj hclose
        rw [Bool.and_eq_true] at hpositive
        exact .price hpositive.2 hpositive.1
  · intro h
    cases h with
    | side hv hcode => simp [signal, sideSignal, hv, hcode]
    | amount hentry horder => simp [signal, amountSignal, hentry, horder]
    | price hentry horder => simp [signal, priceSignal, hentry, horder]

instance (x : Trait) (b : Bool) : Decidable (Tells o t entry x b) :=
  decidable_of_iff (signal o t entry x = some b) (signal_eq_some_iff x b)

/-- No trait of an entry disagrees with the order. -/
def Tolerates (o : Order) (t : Tolerance) (entry : Members) : Prop :=
  ∀ x, ¬Tells o t entry x false

/-- The traits of an entry that agree with the order. -/
def agreeing (o : Order) (t : Tolerance) (entry : Members) : List Trait :=
  Trait.all.filter fun x => Tells o t entry x true

/-! ## Weighing -/

/-- The score of an entry without ids of which so many traits agree and none disagrees. -/
def scoreOfAgreeing : Nat → Score
  | 0 => .noMatch
  | n + 1 => .heuristic (n + 1)

/-- Signals looked at one after the other, up to the first that disagrees, come to what their
number says. -/
theorem weigh_eq (signals : List Signal) (n : Nat) :
  weigh signals n = if some false ∈ signals then .contradiction
    else scoreOfAgreeing (n + signals.count (some true))
  := by
  induction signals generalizing n with
  | nil => cases n <;> rfl
  | cons s rest ih =>
      match s with
      | none => simp [weigh, ih]
      | some true => simp [weigh, ih, Nat.add_assoc, Nat.add_comm 1]
      | some false => simp [weigh]

theorem weigh_of_perm (h : signals.Perm signals') (n : Nat) :
  weigh signals n = weigh signals' n
  := by
  rw [weigh_eq, weigh_eq, h.count_eq]
  simp only [h.mem_iff]

/-- The score of an entry when the traits are looked at in a given order. -/
def scoreIn (traits : List Trait) (o : Order) (t : Tolerance) (entry : Members) : Score :=
  if anyEquals entry clientIdKeys o.clientId.text then .exact .clientId
  else if o.knownId?.any fun id => anyEquals entry venueIdKeys id.text then .exact .venueId
  else weigh (traits.map (signal o t entry)) 0

theorem scoreIn_all (o : Order) (t : Tolerance) (entry : Members) :
  scoreIn Trait.all o t entry = score o t entry
  := rfl

theorem scoreIn_of_perm {traits traits' : List Trait} (h : traits.Perm traits') (o : Order)
    (t : Tolerance) (entry : Members) :
  scoreIn traits o t entry = scoreIn traits' o t entry
  := by
  rw [scoreIn, scoreIn, weigh_of_perm (h.map _)]

theorem mem_signals_iff (o : Order) (t : Tolerance) (entry : Members) (b : Bool) :
  some b ∈ Trait.all.map (signal o t entry) ↔ ∃ x, Tells o t entry x b
  := by
  simp only [List.mem_map, Trait.mem_all, true_and, signal_eq_some_iff]

theorem count_signals (o : Order) (t : Tolerance) (entry : Members) :
  (Trait.all.map (signal o t entry)).count (some true) = (agreeing o t entry).length
  := by
  rw [agreeing, ← List.countP_eq_length_filter, List.count, List.countP_map]
  apply List.countP_congr
  intro x _
  simp [← signal_eq_some_iff]

/-! ## Scores -/

theorem score_of_hasClientId (h : HasClientId o entry) :
  score o t entry = .exact .clientId
  := if_pos ((anyEquals_iff ..).mpr h)

theorem score_of_hasVenueId (hclient : ¬HasClientId o entry)
    (h : HasVenueId o entry) :
  score o t entry = .exact .venueId
  := by
  rw [score, if_neg (mt (anyEquals_iff ..).mp hclient), if_pos ((any_anyEquals_iff ..).mpr h)]

/-- Where an entry carries no id the signals decide. -/
theorem score_of_hasNoId (h : HasNoId o entry) :
  score o t entry = weigh (Trait.all.map (signal o t entry)) 0
  := by
  rw [score, if_neg (mt (anyEquals_iff ..).mp h.1), if_neg (mt (any_anyEquals_iff ..).mp h.2)]
  rfl

theorem score_of_tells {x : Trait} (h : HasNoId o entry) (hx : Tells o t entry x false) :
  score o t entry = .contradiction
  := by
  rw [score_of_hasNoId h, weigh_eq, if_pos ((mem_signals_iff ..).mpr ⟨x, hx⟩)]

theorem score_of_tolerates (h : HasNoId o entry) (htolerates : Tolerates o t entry) :
  score o t entry = scoreOfAgreeing (agreeing o t entry).length
  := by
  have hnone : some false ∉ Trait.all.map (signal o t entry) := by
    rw [mem_signals_iff, not_exists]
    exact htolerates
  rw [score_of_hasNoId h, weigh_eq, if_neg hnone, count_signals, Nat.zero_add]

/-- An entry of which no trait can be read is one of which none disagrees and none agrees. -/
theorem tells_nothing_iff (o : Order) (t : Tolerance) (entry : Members) :
  (∀ x b, ¬Tells o t entry x b) ↔ Tolerates o t entry ∧ (agreeing o t entry).length = 0
  := by
  simp only [List.length_eq_zero_iff, agreeing, List.filter_eq_nil_iff, decide_eq_true_iff,
    Trait.mem_all, true_imp_iff, Bool.forall_bool, Tolerates, forall_and]

/-- What a score says of an entry. -/
inductive Says (o : Order) (t : Tolerance) (entry : Members) : Score → Prop
  | clientId (h : HasClientId o entry) : Says o t entry (.exact .clientId)
  | venueId (hclient : ¬HasClientId o entry) (h : HasVenueId o entry) :
    Says o t entry (.exact .venueId)
  | contradiction {x : Trait} (hno : HasNoId o entry) (h : Tells o t entry x false) :
    Says o t entry .contradiction
  | agreeing (hno : HasNoId o entry) (h : Tolerates o t entry) :
    Says o t entry (scoreOfAgreeing (agreeing o t entry).length)

theorem says_score (o : Order) (t : Tolerance) (entry : Members) :
  Says o t entry (score o t entry)
  := by
  by_cases hclient : HasClientId o entry
  · rw [score_of_hasClientId hclient]
    exact .clientId hclient
  by_cases hvenue : HasVenueId o entry
  · rw [score_of_hasVenueId hclient hvenue]
    exact .venueId hclient hvenue
  by_cases hdisagrees : ∃ x, Tells o t entry x false
  · obtain ⟨x, hx⟩ := hdisagrees
    rw [score_of_tells ⟨hclient, hvenue⟩ hx]
    exact .contradiction ⟨hclient, hvenue⟩ hx
  · have htolerates := not_exists.mp hdisagrees
    rw [score_of_tolerates ⟨hclient, hvenue⟩ htolerates]
    exact .agreeing ⟨hclient, hvenue⟩ htolerates

/-- A score says exactly what an entry tells.  It is exact when the entry carries an id of the
order, the client id before the venue id.  Of any other entry it is a contradiction when a trait
disagrees, a number when none disagrees and so many agree, and no match when none can be read.  So
an entry without an id matches when no trait disagrees and at least two agree, and the order in
which the traits are looked at makes no difference. -/
theorem score_iff (o : Order) (t : Tolerance) (entry : Members) :
  (score o t entry = .exact .clientId ↔ HasClientId o entry)
    ∧ (score o t entry = .exact .venueId ↔ ¬HasClientId o entry ∧ HasVenueId o entry)
    ∧ (score o t entry = .contradiction
      ↔ HasNoId o entry ∧ ∃ x, Tells o t entry x false)
    ∧ (∀ n, score o t entry = .heuristic n
      ↔ HasNoId o entry ∧ Tolerates o t entry ∧ 1 ≤ n ∧ (agreeing o t entry).length = n)
    ∧ (score o t entry = .noMatch ↔ HasNoId o entry ∧ ∀ x b, ¬Tells o t entry x b)
    ∧ ((score o t entry).isMatch = true ↔ ¬HasNoId o entry
      ∨ Tolerates o t entry ∧ 2 ≤ (agreeing o t entry).length)
    ∧ ∀ traits : List Trait, traits.Perm Trait.all → scoreIn traits o t entry = score o t entry
  := by
  have hperm (traits : List Trait) (h : traits.Perm Trait.all) :
      scoreIn traits o t entry = score o t entry := by
    rw [scoreIn_of_perm h, scoreIn_all]
  have hsays := says_score o t entry
  rw [tells_nothing_iff]
  simp only [← and_assoc]
  refine ⟨?_, hperm⟩
  generalize score o t entry = s at hsays
  cases hsays with
  | clientId h => simp [h, HasNoId, Score.isMatch]
  | venueId hclient h => simp [hclient, h, HasNoId, Score.isMatch]
  | contradiction hno h =>
      have htolerates : ¬Tolerates o t entry := fun htolerates => htolerates _ h
      have hdisagrees : ∃ x, Tells o t entry x false := ⟨_, h⟩
      simp [hno, hno.1, hno.2, htolerates, hdisagrees, Score.isMatch]
  | agreeing hno h =>
      have hdisagrees : ¬∃ x, Tells o t entry x false := not_exists.mpr h
      generalize (agreeing o t entry).length = n
      cases n with
      | zero =>
          simp [scoreOfAgreeing, hno, hno.1, hno.2, h, hdisagrees, Score.isMatch,
            Nat.one_le_iff_ne_zero, eq_comm]
      | succ n =>
          simp [scoreOfAgreeing, hno, hno.1, hno.2, h, hdisagrees, Score.isMatch, Score.minSignals]

end OrderEntry

end VenueLink
