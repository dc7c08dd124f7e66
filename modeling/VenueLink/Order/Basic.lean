import VenueLink.Decimal.Basic
import VenueLink.Moment
import VenueLink.Order.Lifecycle
import VenueLink.Pair

/-!
# Orders, updates and fills

An order is known by the id its client gave it.  The id that the venue gave it may be
unknown, seen or confirmed, and a confirmed one is never replaced by another.
-/

namespace VenueLink

/-- The id that the client gave an order. -/
structure ClientId where
  text : String
deriving DecidableEq, Repr, Inhabited

/-- The id that the venue gave an order. -/
structure VenueId where
  text : String
deriving DecidableEq, Repr, Inhabited

/-- The id of a fill. -/
structure TradeId where
  text : String
deriving DecidableEq, Repr, Inhabited

/-- What is known about the id that the venue gave an order. -/
inductive VenueIdentity where
  /-- No id was seen. -/
  | unknown
  /-- An id was seen and not checked against a listing. -/
  | unconfirmed (id : VenueId)
  /-- The id is confirmed and stays. -/
  | confirmed (id : VenueId)
deriving DecidableEq, Repr, Inhabited

namespace VenueIdentity

/-- The confirmed id. -/
def confirmed? : VenueIdentity → Option VenueId
  | confirmed id => some id
  | _ => none

/-- The id seen, confirmed or not. -/
def known? : VenueIdentity → Option VenueId
  | unknown => none
  | unconfirmed id => some id
  | confirmed id => some id

/-- Whether an id is confirmed. -/
def isConfirmed (v : VenueIdentity) : Bool :=
  v.confirmed?.isSome

end VenueIdentity

/-- The side of an order. -/
inductive Side where
  | buy
  | sell
deriving DecidableEq, Repr, Inhabited

namespace Side

/-- The venue's number for a side. -/
def code : Side → Int
  | sell => 1
  | buy => 2

/-- The side for a number of the venue. -/
def ofCode? (code : Int) : Option Side :=
  if code = 1 then some sell else if code = 2 then some buy else none

/-- The word for a side. -/
def label : Side → String
  | buy => "buy"
  | sell => "sell"

end Side

/-- An order that was submitted to the venue. -/
structure Order where
  clientId : ClientId
  venue : VenueIdentity
  pair : Pair
  side : Side
  /-- The limit price, zero when there is none. -/
  price : Decimal
  amount : Decimal
  createdAt : Moment
  state : OrderState
deriving DecidableEq, Repr, Inhabited

/-- An order already carries another confirmed venue id. -/
structure IdConflict where
  clientId : ClientId
  confirmed : VenueId
  proposed : VenueId
deriving DecidableEq, Repr

/-- The sentence for a venue id conflict. -/
def IdConflict.message (e : IdConflict) : String :=
  "order " ++ e.clientId.text ++ " already confirmed as " ++ e.confirmed.text ++ ", refusing "
    ++ e.proposed.text

namespace Order

/-- The confirmed venue id. -/
def confirmedId? (o : Order) : Option VenueId := o.venue.confirmed?

/-- The venue id seen, confirmed or not. -/
def knownId? (o : Order) : Option VenueId := o.venue.known?

/-- Whether the order rests on the venue. -/
def isResting (o : Order) : Bool := !o.state.isTerminal

/-- The time since submission. -/
def age (o : Order) (now : Moment) : Span := now.since o.createdAt

/-- Confirm a venue id, unless another one is confirmed. -/
def confirm (o : Order) (id : VenueId) : Except IdConflict Order :=
  match o.venue with
  | .confirmed existing =>
    if existing = id then .ok o else .error ⟨o.clientId, existing, id⟩
  | _ => .ok { o with venue := .confirmed id }

end Order

/-- A state proposed for the order that the ids name.  At least one id is there. -/
structure Update where
  clientId? : Option ClientId
  venueId? : Option VenueId
  pair : Pair
  state : OrderState
  timestamp : Moment
  identified : clientId?.isSome ∨ venueId?.isSome
deriving DecidableEq, Repr

namespace Update

/-- The sentence for an update without any id. -/
def missingIdMessage : String := "order update carries no identifier"

/-- The update with the given ids, if there is one. -/
def make? (clientId? : Option ClientId) (venueId? : Option VenueId) (pair : Pair)
    (state : OrderState) (timestamp : Moment) : Option Update :=
  if h : clientId?.isSome ∨ venueId?.isSome then
    some ⟨clientId?, venueId?, pair, state, timestamp, h⟩
  else none

/-- The update of an order by its client id, with its venue id only if that is confirmed:
an id that travels with an update gets confirmed by it. -/
def forOrder (o : Order) (state : OrderState) (timestamp : Moment) : Update :=
  ⟨some o.clientId, o.confirmedId?, o.pair, state, timestamp, .inl rfl⟩

/-- Whether the update names an order by one of its ids. -/
def references (u : Update) (o : Order) : Bool :=
  u.clientId? = some o.clientId || (u.venueId?.isSome && u.venueId? = o.knownId?)

end Update

/-- One fill of an order. -/
structure Fill where
  tradeId : TradeId
  clientId? : Option ClientId
  venueId : VenueId
  pair : Pair
  price : Decimal
  baseAmount : Decimal
  quoteAmount : Decimal
  feeAsset : String
  feeAmount : Decimal
  timestamp : Moment
deriving DecidableEq, Repr, Inhabited

end VenueLink
