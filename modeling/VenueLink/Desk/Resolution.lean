import VenueLink.Desk.Basic
import VenueLink.Routine

/-!
# Finding the venue's id of an order

The listings of resting and of finished orders are searched for an entry that matches the
order.  An entry that carries one of its ids ends the search; otherwise the entry with the
most agreeing signals wins, the first of equals.  An order that is in neither listing is
given up as lost from a certain age on.
-/

namespace VenueLink

/-- What came of a search for the venue's id. -/
inductive Resolution where
  /-- The id is known and confirmed. -/
  | resolved (id : VenueId)
  /-- It was not found. -/
  | unresolved
  /-- It was not found, and the order was given up as lost. -/
  | failed
deriving DecidableEq, Repr

namespace Resolution

/-- The id found. -/
def id? : Resolution → Option VenueId
  | resolved id => some id
  | _ => none

/-- The word for an outcome. -/
def label : Resolution → String
  | resolved _ => "resolved"
  | unresolved => "unresolved"
  | failed => "failed"

end Resolution

/-- An entry that matches an order. -/
structure Candidate where
  score : Score
  venueId : VenueId
  state : OrderState
  timestamp : Moment
deriving DecidableEq, Repr

namespace Candidate

/-- An entry as a candidate for an order: it has to match and to carry a venue id. -/
def ofMembers? (tolerance : Tolerance) (o : Order) (now : Moment) (entry : Json.Members) :
    Option Candidate :=
  let score := OrderEntry.score o tolerance entry
  if score.isMatch then
    (OrderEntry.venueId? entry).map fun venueId =>
      ⟨score, venueId, OrderEntry.state entry, OrderEntry.timestamp now entry⟩
  else none

/-- The stronger of two candidates, the first of equals. -/
def better (best? : Option Candidate) (c : Candidate) : Option Candidate :=
  match best? with
  | none => some c
  | some best => if best.score.rank < c.score.rank then some c else some best

/-- The best candidate among one known already and the entries of a listing. -/
def best (tolerance : Tolerance) (o : Order) (now : Moment) (known? : Option Candidate)
    (entries : List Json) : Option Candidate :=
  ((entries.filterMap Json.members?).filterMap (ofMembers? tolerance o now)).foldl better known?

end Candidate

namespace Resolution

/-- The request for the first page of a listing of an order's market. -/
def listingRequest (p : Policy) (o : Order) (listing : Endpoint) : VenueRequest :=
  .of listing [("market", o.pair.symbol), ("page", "1"), ("page_size", toString p.pageSize)]

/-- The listings that are searched, in this order. -/
def listings : List Endpoint := [.pending, .finished]

/-- Search some listings for an order.  A listing that cannot be had is passed over. -/
def search (p : Policy) (o : Order) :
    List Endpoint → Option Candidate → Routine Desk (Option Candidate)
  | [], best? => return best?
  | listing :: rest, best? => do
    let reply ← .fetch (listingRequest p o listing)
    let now ← .now
    let entries := match reply with
      | .ok result => result.entries
      | .error _ => []
    let best? := Candidate.best p.tolerance o now best? entries
    if best?.any fun best => best.score.isExact then return best?
    else search p o rest best?

/-- Take the venue id of a candidate for confirmed, and its state if the order has ended. -/
def adopt (o : Order) (c : Candidate) (d : Desk) : Resolution × Desk :=
  match d.book.confirm o.clientId c.venueId with
  | .error _ => (unresolved, d.count (.anomaly Anomaly.venueIdConflict.label))
  | .ok book =>
    let d := { d with book }
    if c.state.isTerminal then
      (resolved c.venueId,
        d.propose (.forOrder { o with venue := .confirmed c.venueId } c.state c.timestamp))
    else (resolved c.venueId, d)

/-- Give an order that was not found up as lost, if it is old enough. -/
def escalate (p : Policy) (o : Order) (now : Moment) (d : Desk) : Resolution × Desk :=
  if (o.age now).nanos ≤ p.lostAfter.nanos then (unresolved, d)
  else (failed, d.propose (.forOrder o .failed now))

/-- Draw the conclusion of a search, and count it. -/
def conclude (p : Policy) (o : Order) (now : Moment) (best? : Option Candidate) (d : Desk) :
    Resolution × Desk :=
  let (resolution, d) := match best? with
    | some c => adopt o c d
    | none => escalate p o now d
  (resolution, d.count (.resolution resolution.label))

end Resolution

namespace Desk

/-- Find the venue's id of an order in the listings. -/
def resolve (p : Policy) (o : Order) : Routine Desk Resolution := do
  let best? ← Resolution.search p o Resolution.listings none
  let now ← .now
  .update (Resolution.conclude p o now best?)

/-- The venue's id of an order: the one confirmed in the order given, or else found. -/
def resolveMissing (p : Policy) (o : Order) : Routine Desk Resolution :=
  match o.confirmedId? with
  | some id => return .resolved id
  | none => resolve p o

end Desk

end VenueLink
