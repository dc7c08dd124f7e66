import VenueLink.Balance.Table
import VenueLink.Json.Parser
import VenueLink.Json.Printer
import VenueLink.Text.Blank

/-!
# Frames of the user stream

The requests that go out on the user stream and what a frame that comes in is: a probe of
the venue, the answer to a request, or a message for the reconciliation.
-/

namespace VenueLink

/-- A request on the user stream. -/
inductive StreamRequest where
  /-- Log in. -/
  | login (id : Nat) (apiKey signature : String) (timestampMs : Int)
  /-- Ask the venue for a sign of life. -/
  | ping (id : Nat)
  /-- Answer a probe of the venue under its id. -/
  | pong (id : Json)
  /-- Ask for the messages about orders. -/
  | subscribeOrders (id : Nat)
  /-- Ask for the messages about balances of some assets. -/
  | subscribeAssets (id : Nat) (assets : List String)
deriving BEq, Repr

namespace StreamRequest

/-- The method of a probe, whoever sends it. -/
def pingMethod : String := "server.ping"

/-- The method that a request names. -/
def method : StreamRequest → String
  | login .. => "server.sign"
  | ping _ => pingMethod
  | pong _ => "server.pong"
  | subscribeOrders _ => "order.subscribe"
  | subscribeAssets .. => "asset.subscribe"

/-- The parameters of a request. -/
def params : StreamRequest → List Json
  | login _ apiKey signature timestampMs => [.str apiKey, .str signature, .ofInt timestampMs]
  | subscribeAssets _ assets => assets.map .str
  | _ => []

/-- The id under which a request is answered. -/
def id : StreamRequest → Json
  | login n .. => .ofNat n
  | ping n => .ofNat n
  | pong id => id
  | subscribeOrders n => .ofNat n
  | subscribeAssets n _ => .ofNat n

/-- The frame of a request. -/
def text (r : StreamRequest) : String :=
  (Json.object [("method", .str r.method), ("params", .arr r.params), ("id", r.id)]).render

end StreamRequest

/-- What a frame of the venue is. -/
inductive Inbound where
  /-- Nothing but blanks. -/
  | blank
  /-- No data at all. -/
  | malformed
  /-- A probe, with its id unless that is null. -/
  | probe (id? : Option Json)
  /-- The answer to a request: an object with a result and without a method. -/
  | ack (reply : Json)
  /-- Anything else. -/
  | event (message : Json)
deriving BEq, Repr

namespace Inbound

/-- What a value received is. -/
def ofJson (message : Json) : Inbound :=
  match message.members? with
  | none => .event message
  | some members =>
    match members.get? "method" with
    | some method =>
      if method.str? = some StreamRequest.pingMethod then
        .probe ((members.get? "id").filter fun id => !id.isNull)
      else .event message
    | none => if (members.get? "result").isSome then .ack message else .event message

/-- What a frame is. -/
def ofText (text : String) : Inbound :=
  let trimmed := Text.trim text
  if trimmed.isEmpty then .blank
  else match Json.parse? trimmed with
    | none => .malformed
    | some message => ofJson message

/-- The sentence for a frame that is no data; the place of the mistake is not told. -/
def malformedMessage : String :=
  "malformed payload in user stream frame: <json error>"

end Inbound

/-- Whether the answer to a login grants it: its code is absent, null or zero. -/
def isLoginGranted (reply : Json) : Bool :=
  match reply.get? "code" with
  | none => true
  | some .null => true
  | some (.num n) => n.int64? = some 0
  | some _ => false

end VenueLink
