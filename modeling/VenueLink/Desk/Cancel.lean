import VenueLink.Desk.Poll

/-!
# Canceling one order

An order that has ended is not canceled again.  A cancel needs the venue's id, which is
searched for when it is not confirmed, and counts as done when the venue accepts it or says
that there is no such order.
-/

namespace VenueLink

/-- Why an order was not canceled. -/
inductive CancelError where
  /-- The venue's id could not be found. -/
  | unresolved (id : ClientId)
  /-- The request failed. -/
  | rejected (id : ClientId) (e : VenueError)
  /-- The order has ended otherwise. -/
  | ended (id : ClientId) (state : OrderState)
deriving DecidableEq, Repr

/-- The sentence for an order that was not canceled. -/
def CancelError.message : CancelError → String
  | unresolved id => "cannot cancel " ++ id.text ++ " without a venue order id"
  | rejected id e => "cancel of " ++ id.text ++ " rejected: " ++ e.message
  | ended id state => "order " ++ id.text ++ " already " ++ state.label

namespace Desk

/-- An order as the book has it now, or as it was given when it is not under watch. -/
def current (d : Desk) (o : Order) : Order :=
  (d.book.find? o.clientId).getD o

/-- What the state of an order says about canceling it: nothing while it rests. -/
def settled? (o : Order) : Option (Except CancelError Unit) :=
  match o.state with
  | .resting => none
  | .canceled => some (.ok ())
  | state => some (.error (.ended o.clientId state))

/-- Propose that an order is canceled. -/
def markCanceled (o : Order) (now : Moment) (d : Desk) : Desk :=
  d.propose (.forOrder o .canceled now)

/-- Send the cancel of an order that rests under a venue id. -/
def submitCancel (o : Order) (id : VenueId) : Routine Desk (Except CancelError Unit) := do
  let reply ← .fetch (orderRequest .cancel o id)
  let now ← .now
  match reply with
  | .ok _ =>
    .modify (markCanceled o now)
    return .ok ()
  | .error e =>
    if e.isMissingOrder then
      .modify (markCanceled o now)
      return .ok ()
    else return .error (.rejected o.clientId e)

/-- Cancel an order.  The search for its id may show that it has ended, so that is looked at
once more before anything is sent. -/
def cancelOrder (p : Policy) (o : Order) : Routine Desk (Except CancelError Unit) := do
  let o := (← .state).current o
  match settled? o with
  | some result => return result
  | none =>
    match ← resolveMissing p o with
    | .resolved id =>
      let o := (← .state).current o
      match settled? o with
      | some result => return result
      | none => submitCancel o id
    | _ => return .error (.unresolved o.clientId)

end Desk

end VenueLink
