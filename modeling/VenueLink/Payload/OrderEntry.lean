import VenueLink.Order.Basic
import VenueLink.Payload.Field

/-!
# Order entries

What an order entry of a listing, a detail response or a push says about an order: its
ids, its market, its state by a table of rules, and the time of its last change.
-/

namespace VenueLink.OrderEntry

open Json (Members)

/-- The keys of the venue's id. -/
def venueIdKeys : List String := ["order_id", "orderId", "id"]

/-- The keys of the client's id. -/
def clientIdKeys : List String :=
  ["client_id", "clientId", "clientOrderId", "client_oid", "clientOid"]

/-- The keys of the market symbol. -/
def symbolKeys : List String := ["market", "symbol"]

/-- The keys of the time of the last change. -/
def timestampKeys : List String := ["mtime", "update_time", "ctime"]

/-- The keys of the amount not filled yet. -/
def remainingKeys : List String := ["left", "remain", "unfilled_amount", "remain_amount"]

/-- The rules that read a state from an entry, in the order in which they are tried. -/
inductive StatusRule where
  /-- The status is a number: 1 and 2 rest, 3 is filled. -/
  | numericStatus
  /-- The status is a word for filled. -/
  | filledText
  /-- The status is a word for canceled. -/
  | canceledText
  /-- The cancel flag is true or one. -/
  | cancelFlag
  /-- The amount not filled yet is zero. -/
  | nothingRemaining
deriving DecidableEq, Repr

namespace StatusRule

/-- The rules in the order in which they are tried. -/
def all : List StatusRule :=
  [numericStatus, filledText, canceledText, cancelFlag, nothingRemaining]

/-- The name of a rule. -/
def label : StatusRule → String
  | numericStatus => "numeric_status"
  | filledText => "filled_status_text"
  | canceledText => "canceled_status_text"
  | cancelFlag => "cancel_flag"
  | nothingRemaining => "nothing_remaining"

end StatusRule

/-- The integer status of an entry. -/
def statusNumber? (entry : Members) : Option Int :=
  match entry.get? "status" with
  | some (.num n) => n.int64?
  | _ => none

/-- The status of an entry as a word. -/
def statusWord? (entry : Members) : Option String :=
  ((entry.get? "status").bind Json.str?).map fun s => Text.lower (Text.trim s)

/-- Whether the cancel flag is set. -/
def isCancelFlagged (entry : Members) : Bool :=
  match entry.get? "is_cancel" with
  | some (.bool b) => b
  | some (.num n) => n.int64? = some 1
  | _ => false

/-- The state that a rule reads, if the rule applies. -/
def StatusRule.derive? (entry : Members) : StatusRule → Option OrderState
  | numericStatus =>
    match statusNumber? entry with
    | some 1 => some .resting
    | some 2 => some .resting
    | some 3 => some .filled
    | _ => none
  | filledText =>
    if (statusWord? entry).any (["filled", "finished", "done", "success"].contains ·) then
      some .filled
    else none
  | canceledText =>
    if (statusWord? entry).any (["cancelled", "canceled", "cancel"].contains ·) then
      some .canceled
    else none
  | cancelFlag => if isCancelFlagged entry then some .canceled else none
  | nothingRemaining =>
    if (entry.decimal? remainingKeys).any Decimal.isZero then some .filled else none

/-- The first rule that applies, with the state that it reads. -/
def firstRule? (entry : Members) : Option (StatusRule × OrderState) :=
  StatusRule.all.findSome? fun rule => (rule.derive? entry).map fun state => (rule, state)

/-- The state of an entry: an entry that no rule reads is of a resting order. -/
def state (entry : Members) : OrderState :=
  ((firstRule? entry).map (·.2)).getD .resting

/-- The venue's id in an entry. -/
def venueId? (entry : Members) : Option VenueId :=
  (entry.text? venueIdKeys).map VenueId.mk

/-- The client's id in an entry: the first of its keys with a value decides, and the value
has to be text that is not blank. -/
def clientId? (entry : Members) : Option ClientId :=
  ((entry.first? clientIdKeys).bind Json.str?).bind fun s =>
    if Text.isAllBlank s then none else some ⟨Text.trim s⟩

/-- The time of the last change, `now` when it cannot be read. -/
def timestamp (now : Moment) (entry : Members) : Moment :=
  Json.momentOr now (entry.first? timestampKeys)

/-- What an entry says. -/
structure Reading where
  pair : Pair
  venueId? : Option VenueId
  clientId? : Option ClientId
  state : OrderState
  timestamp : Moment
deriving DecidableEq, Repr

/-- What an entry says, if it names a market. -/
def read? (now : Moment) (entry : Members) : Option Reading :=
  ((entry.text? symbolKeys).bind Pair.ofSymbol?).map fun pair =>
    { pair
      venueId? := OrderEntry.venueId? entry
      clientId? := OrderEntry.clientId? entry
      state := OrderEntry.state entry
      timestamp := OrderEntry.timestamp now entry }

end VenueLink.OrderEntry
