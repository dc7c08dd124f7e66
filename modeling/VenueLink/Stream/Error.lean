import VenueLink.Moment

/-!
# Stream errors

How a connection of the user stream can end without being asked to.
-/

namespace VenueLink

/-- Why a connection of the user stream ended. -/
inductive StreamError where
  /-- The connection could not be made. -/
  | connect (message : String)
  /-- A frame could not be sent. -/
  | send (message : String)
  /-- A frame could not be received. -/
  | receive (message : String)
  /-- The venue closed the connection. -/
  | closed
  /-- The venue refused the login. -/
  | authRejected (reason : String)
  /-- The login was not answered in time. -/
  | authTimeout
  /-- Nothing was received for so long. -/
  | stale (idle : Span)
deriving DecidableEq, Repr

namespace StreamError

/-- The sentence for an ended connection. -/
def message : StreamError → String
  | connect m => "connection failed: " ++ m
  | send m => "send failed: " ++ m
  | receive m => "receive failed: " ++ m
  | closed => "connection closed by venue"
  | authRejected reason => "authentication rejected: " ++ reason
  | authTimeout => "authentication timed out"
  | stale idle => "no inbound traffic for " ++ idle.text

/-- The word for the cause. -/
def label : StreamError → String
  | connect _ => "connect"
  | send _ => "send"
  | receive _ => "receive"
  | closed => "closed"
  | authRejected _ => "auth_rejected"
  | authTimeout => "auth_timeout"
  | stale _ => "stale"

end StreamError

end VenueLink
