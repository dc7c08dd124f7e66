import VenueLink.Desk.Balances
import VenueLink.Payload.OrderEntry

/-!
# Messages of the user stream

A message names a method and carries a payload.  Balance updates patch the table, order
updates are proposed to the book one by one; a record that cannot be read is counted and
passed over.
-/

namespace VenueLink

/-- The method and the payload of a message: an object with both as members, or a list
that begins with both. -/
def Json.methodAndPayload? : Json → Option (String × Json)
  | .obj members =>
    ((members.lookup "method").bind str?).map fun method =>
      (method, (members.lookup "params").getD .null)
  | .arr (method :: payload :: _) => method.str?.map fun method => (method, payload)
  | _ => none

namespace Desk

/-- The update that an entry of a message proposes. -/
def updateOf? (now : Moment) (entry : Json) : Option Update :=
  (entry.members?.bind (OrderEntry.read? now)).bind fun reading =>
    Update.make? reading.clientId? reading.venueId? reading.pair reading.state reading.timestamp

/-- Apply an entry of a message about orders. -/
def applyOrderEntry (now : Moment) (d : Desk) (entry : Json) : Desk :=
  match updateOf? now entry with
  | some u => d.propose u
  | none => d.count (.malformed "order_update")

/-- Apply the entries of a message about orders: the items of a list, or one entry. -/
def applyOrderMessage (now : Moment) (payload : Json) (d : Desk) : Desk :=
  match payload with
  | .arr items => items.foldl (applyOrderEntry now) d
  | entry => applyOrderEntry now d entry

/-- Apply a message of the user stream.  Methods that are not known are ignored. -/
def applyMessage (now : Moment) (message : Json) (d : Desk) : Desk :=
  match message.methodAndPayload? with
  | none => d.count (.malformed "push_message")
  | some (method, payload) =>
    if method = "asset.update" then (d.applyBalanceUpdate payload).2
    else if method = "order.update" then d.applyOrderMessage now payload
    else d

end Desk

end VenueLink
