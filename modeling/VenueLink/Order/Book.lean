import VenueLink.Order.Basic

/-!
# The order book of record

The orders under watch with the fills recorded for them.  Order state changes only by
proposals, which go through the lifecycle; a fill is recorded once for its trade id.
-/

namespace VenueLink

/-- The orders under watch, their fills and the trade ids of all recorded fills. -/
structure Book where
  orders : List Order := []
  fills : List (ClientId × List Fill) := []
  seen : List TradeId := []
deriving DecidableEq, Repr, Inhabited

/-- A contradiction between what is recorded and what is reported. -/
inductive Anomaly where
  /-- An update names another venue id than the confirmed one. -/
  | venueIdConflict
  /-- An update names another end than the one reached. -/
  | terminalConflict
deriving DecidableEq, Repr

/-- What a proposal did: the transition, and the contradictions it met. -/
structure Verdict where
  transition : Transition
  anomalies : List Anomaly
deriving DecidableEq, Repr

/-- Why a venue id could not be confirmed. -/
inductive ConfirmError where
  /-- No order with the client id is under watch. -/
  | unknownOrder (id : ClientId)
  /-- Another venue id is confirmed. -/
  | conflict (e : IdConflict)
deriving DecidableEq, Repr

/-- The sentence for a refused confirmation. -/
def ConfirmError.message : ConfirmError → String
  | unknownOrder id => "unknown order: " ++ id.text
  | conflict e => e.message

namespace Book

/-- The order with a client id. -/
def find? (b : Book) (id : ClientId) : Option Order :=
  b.orders.find? fun o => o.clientId = id

/-- The order that holds a venue id, confirmed or not. -/
def findByVenue? (b : Book) (id : VenueId) : Option Order :=
  b.orders.find? fun o => o.knownId? = some id

/-- Replace the order of the same client id. -/
def put (b : Book) (o : Order) : Book :=
  { b with orders := b.orders.map fun p => if p.clientId = o.clientId then o else p }

/-- An order that is put in place is found under its client id if there was one, and all
others are found as before. -/
theorem find?_put (b : Book) (o : Order) (id : ClientId) :
  (b.put o).find? id = if id = o.clientId then (b.find? id).map fun _ => o else b.find? id
  := by
  obtain ⟨orders, _, _⟩ := b
  simp only [put, find?]
  induction orders with
  | nil => simp
  | cons p rest ih =>
    by_cases hp : p.clientId = o.clientId <;> by_cases hid : p.clientId = id <;>
      simp_all [eq_comm]

/-- Watch an order, in place of one with the same client id. -/
def track (b : Book) (o : Order) : Book :=
  if (b.find? o.clientId).isSome then b.put o else { b with orders := b.orders ++ [o] }

/-- The order that an update is for: the one of its client id when that is under watch,
otherwise the one that holds its venue id. -/
def target? (b : Book) (u : Update) : Option Order :=
  (u.clientId?.bind b.find?).or (u.venueId?.bind b.findByVenue?)

/-- The order with the venue id of an update confirmed, if that is possible. -/
def identify (o : Order) (u : Update) : Order × List Anomaly :=
  match u.venueId? with
  | none => (o, [])
  | some id => match o.confirm id with
    | .ok confirmed => (confirmed, [])
    | .error _ => (o, [.venueIdConflict])

/-- The order after an update: its venue id is confirmed if that is possible, and its state
is proposed to the lifecycle. -/
def updated (o : Order) (u : Update) : Order × Verdict :=
  let (o, idAnomalies) := identify o u
  let transition := o.state.propose u.state
  let stateAnomalies := match transition with
    | .conflict _ _ => [Anomaly.terminalConflict]
    | _ => []
  ({ o with state := o.state.after u.state }, ⟨transition, idAnomalies ++ stateAnomalies⟩)

/-- Apply an update; no verdict when it is for no order under watch. -/
def apply (b : Book) (u : Update) : Book × Option Verdict :=
  match b.target? u with
  | none => (b, none)
  | some o => let (o, verdict) := updated o u; (b.put o, some verdict)

/-- The fills recorded for an order, in the order of arrival. -/
def fillsOf (b : Book) (id : ClientId) : List Fill :=
  ((b.fills.find? fun entry => entry.1 = id).map (·.2)).getD []

/-- The order that a fill belongs to. -/
def owner? (b : Book) (f : Fill) : Option Order :=
  (f.clientId?.bind b.find?).or (b.findByVenue? f.venueId)

/-- Append a fill to those of an order. -/
def appendFill (id : ClientId) (f : Fill) :
    List (ClientId × List Fill) → List (ClientId × List Fill)
  | [] => [(id, [f])]
  | (key, fs) :: rest =>
    if key = id then (key, fs ++ [f]) :: rest else (key, fs) :: appendFill id f rest

/-- Record a fill, and say whether it was recorded: it needs an order under watch and a
trade id that no recorded fill has. -/
def record (b : Book) (f : Fill) : Book × Bool :=
  match b.owner? f with
  | none => (b, false)
  | some o =>
    if b.seen.contains f.tradeId then (b, false)
    else ({ b with
      fills := appendFill o.clientId f b.fills
      seen := b.seen ++ [f.tradeId] }, true)

/-- Confirm the venue id of an order under watch. -/
def confirm (b : Book) (id : ClientId) (venueId : VenueId) : Except ConfirmError Book :=
  match b.find? id with
  | none => .error (.unknownOrder id)
  | some o => match o.confirm venueId with
    | .ok o => .ok (b.put o)
    | .error e => .error (.conflict e)

/-- Order by submission, then by client id. -/
def submittedBefore (a b : Order) : Bool :=
  if a.createdAt.nanos = b.createdAt.nanos then a.clientId.text ≤ b.clientId.text
  else a.createdAt.nanos < b.createdAt.nanos

/-- Put an order at its place among orders sorted by submission. -/
def insertBySubmission (o : Order) : List Order → List Order
  | [] => [o]
  | p :: rest =>
    if submittedBefore o p then o :: p :: rest else p :: insertBySubmission o rest

/-- The resting orders, oldest first. -/
def resting (b : Book) : List Order :=
  (b.orders.filter Order.isResting).foldr insertBySubmission []

end Book

end VenueLink
