import VenueLink.Payload.OrderEntry

/-!
# Matching entries to orders

An entry is matched to an order by one of its ids, or else by side, amount and price: no
readable signal may disagree and at least two have to agree.
-/

namespace VenueLink

open Json (Members)

/-- How far an amount or price may be from the one expected. -/
structure Tolerance where
  /-- The deviation allowed for each unit of the expected value. -/
  relative : Decimal
  /-- The least deviation allowed. -/
  floor : Decimal
deriving DecidableEq, Repr

namespace Tolerance

/-- One part in ten thousand, and never less than one part in a hundred million of a unit. -/
def standard : Tolerance := ⟨⟨1, 4, by decide, by decide⟩, ⟨1, 8, by decide, by decide⟩⟩

instance : Inhabited Tolerance := ⟨standard⟩

/-- Whether a value is close to the expected one.  Only zero is close to zero, and nothing
is close when the arithmetic leaves the range. -/
def close (t : Tolerance) (candidate expected : Decimal) : Bool :=
  if expected.isZero then candidate.eqv expected
  else
    match expected.abs.mul? t.relative with
    | none => false
    | some scaled =>
      (candidate.sub? expected).any fun gap => gap.abs.le (scaled.maximum t.floor)

end Tolerance

/-- The id by which an entry names an order. -/
inductive ExactKey where
  | clientId
  | venueId
deriving DecidableEq, Repr

/-- How well an entry matches an order. -/
inductive Score where
  /-- An id is the same. -/
  | exact (key : ExactKey)
  /-- So many signals agree and none disagrees. -/
  | heuristic (signals : Nat)
  /-- A signal disagrees. -/
  | contradiction
  /-- No id is the same and no signal can be read. -/
  | noMatch
deriving DecidableEq, Repr

namespace Score

/-- The signals that have to agree. -/
def minSignals : Nat := 2

/-- Whether the entry is taken to be of the order. -/
def isMatch : Score → Bool
  | exact _ => true
  | heuristic signals => minSignals ≤ signals
  | _ => false

/-- The strength of a match: an id is stronger than any number of signals. -/
def rank : Score → Nat
  | exact _ => 255
  | heuristic signals => signals
  | _ => 0

/-- Whether an id is the same. -/
def isExact : Score → Bool
  | exact _ => true
  | _ => false

end Score

namespace OrderEntry

/-- The keys of the side. -/
def sideKeys : List String := ["side", "type"]

/-- The keys of the amount. -/
def amountKeys : List String := ["amount", "number", "deal_stock", "size"]

/-- The keys of the price. -/
def priceKeys : List String := ["price", "deal_price", "avg_price"]

/-- The venue's number for a side: a word, digits or a number, which is cut at its point. -/
def sideCode? : Json → Option Int
  | .str s =>
    let word := Text.lower (Text.trim s)
    if word = "buy" then some Side.buy.code
    else if word = "sell" then some Side.sell.code
    else match VenueLink.Number.takeDigits word.toList with
      | (d :: ds, []) =>
        let n := VenueLink.Number.ofDigits (d :: ds)
        if n < Number.pow2 63 then some n else none
      | _ => none
  | .num n => some (n.int64?.getD (VenueLink.Number.truncToInt n.toFloat))
  | _ => none

/-- Whether one of the keys holds a text or a number that reads like the expected text. -/
def anyEquals (entry : Members) (keys : List String) (expected : String) : Bool :=
  (keys.filterMap fun key => entry.get? key).any fun
    | .str s => Text.trim s = expected
    | .num n => n.text = expected
    | _ => false

/-- What one signal says: nothing, that the entry agrees with the order, or that it does
not. -/
abbrev Signal := Option Bool

/-- The side, when the entry's can be read. -/
def sideSignal (o : Order) (entry : Members) : Signal :=
  ((entry.first? sideKeys).bind sideCode?).map fun code => code = o.side.code

/-- The amount, when both are positive. -/
def amountSignal (o : Order) (t : Tolerance) (entry : Members) : Signal :=
  let amount := entry.decimalOrZero amountKeys
  if amount.isPositive && o.amount.isPositive then some (t.close amount o.amount) else none

/-- The price, when both are positive. -/
def priceSignal (o : Order) (t : Tolerance) (entry : Members) : Signal :=
  let price := entry.decimalOrZero priceKeys
  if o.price.isPositive && price.isPositive then some (t.close price o.price) else none

/-- Count agreeing signals one after the other, up to the first that disagrees. -/
def weigh : List Signal → Nat → Score
  | [], 0 => .noMatch
  | [], n + 1 => .heuristic (n + 1)
  | none :: rest, n => weigh rest n
  | some true :: rest, n => weigh rest (n + 1)
  | some false :: _, _ => .contradiction

/-- How well an entry matches an order. -/
def score (o : Order) (t : Tolerance) (entry : Members) : Score :=
  if anyEquals entry clientIdKeys o.clientId.text then .exact .clientId
  else if o.knownId?.any fun id => anyEquals entry venueIdKeys id.text then .exact .venueId
  else weigh [sideSignal o entry, amountSignal o t entry, priceSignal o t entry] 0

end OrderEntry

end VenueLink
