import VenueLink.Desk.Resolution
import VenueLink.Payload.FillEntry

/-!
# Polling orders

The state of an order is asked for among the resting and then among the finished orders,
and its fills are fetched from the deals listing.  A sweep does both for every resting
order; what fails for one order does not touch the others.
-/

namespace VenueLink

/-- Why a poll has no result. -/
inductive PollError where
  /-- A request failed. -/
  | venue (e : VenueError)
  /-- The order has no venue id. -/
  | unresolved (id : ClientId)
  /-- The venue does not know the order. -/
  | notFound (id : ClientId)
deriving DecidableEq, Repr

/-- The sentence for a failed poll. -/
def PollError.message : PollError → String
  | venue e => e.message
  | unresolved id => "order " ++ id.text ++ " has no venue order id"
  | notFound id => "order " ++ id.text ++ " not found on venue"

namespace Desk

/-- The request for one order by its venue id. -/
def orderRequest (endpoint : Endpoint) (o : Order) (id : VenueId) : VenueRequest :=
  .of endpoint [("market", o.pair.symbol), ("order_id", id.text)]

/-- The entry of an order in a detail response, nothing when the venue says that there is no
such order or the entry is empty. -/
def detail (endpoint : Endpoint) (o : Order) (id : VenueId) :
    Routine Desk (Except VenueError (Option Json.Members)) := do
  match ← .fetch (orderRequest endpoint o id) with
  | .ok result => return .ok (result.orderMembers?.filter fun entry => !entry.isEmpty)
  | .error e => if e.isMissingOrder then return .ok none else return .error e

/-- The entry of an order among the resting orders, or else among the finished ones. -/
def anyDetail (o : Order) (id : VenueId) :
    Routine Desk (Except VenueError (Option Json.Members)) := do
  match ← detail .pendingDetail o id with
  | .ok none => detail .finishedDetail o id
  | found => return found

/-- Ask for the state of an order and propose it.  When the venue does not know the order,
the listings are searched once more. -/
def pollStatus (p : Policy) (o : Order) : Routine Desk (Except PollError Update) := do
  match ← resolveMissing p o with
  | .resolved id =>
    match ← anyDetail o id with
    | .error e => return .error (.venue e)
    | .ok none =>
      let _ ← resolve p o
      return .error (.notFound o.clientId)
    | .ok (some entry) =>
      let now ← .now
      let u := Update.forOrder { o with venue := .confirmed id } (OrderEntry.state entry)
        (OrderEntry.timestamp now entry)
      .modify (propose u)
      return .ok u
  | _ => return .error (.unresolved o.clientId)

/-- The fill that an entry of the deals listing of an order reports. -/
def fillOf? (o : Order) (id : VenueId) (now : Moment) (index : Nat) (entry : Json) :
    Option Fill :=
  (entry.members?.bind (FillEntry.read? now id o.pair.quote index)).map fun reading =>
    { tradeId := reading.tradeId
      clientId? := some o.clientId
      venueId := id
      pair := o.pair
      price := reading.price
      baseAmount := reading.baseAmount
      quoteAmount := reading.quoteAmount
      feeAsset := reading.feeAsset
      feeAmount := reading.feeAmount
      timestamp := reading.timestamp }

/-- The fills in a deals listing of an order.  Entries that cannot be used are passed over
and keep their positions. -/
def fillsOfEntries (o : Order) (id : VenueId) (now : Moment) (entries : List Json) : List Fill :=
  (entries.zipIdx.map fun (entry, index) => fillOf? o id now index entry).filterMap (·)

/-- Record fills one after the other, and tell which of them were new. -/
def recordAll : List Fill → Desk → List Fill × Desk
  | [], d => ([], d)
  | f :: rest, d =>
    let (isNew, d) := d.record f
    let (fresh, d) := recordAll rest d
    (if isNew then f :: fresh else fresh, d)

/-- Fetch the fills of an order and record them; the result are the new ones.  An order
without a known venue id has none. -/
def pollFills (o : Order) : Routine Desk (Except VenueError (List Fill)) := do
  match o.knownId? with
  | none => return .ok []
  | some id =>
    match ← .fetch (orderRequest .deals o id) with
    | .error e => return .error e
    | .ok result =>
      let now ← .now
      let fresh ← .update (recordAll (fillsOfEntries o id now result.entries))
      return .ok fresh

/-- Poll the fills and the state of some orders, one order after the other. -/
def pollEach (p : Policy) : List Order → Routine Desk Unit
  | [] => return ()
  | o :: rest => do
    let _ ← pollFills o
    let _ ← pollStatus p o
    pollEach p rest

/-- Poll every order that rests at the beginning. -/
def sweep (p : Policy) : Routine Desk Unit := do
  let d ← .state
  pollEach p d.book.resting

end Desk

end VenueLink
