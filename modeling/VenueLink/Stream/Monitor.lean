import VenueLink.Stream.Error
import VenueLink.Stream.Health

/-!
# Stream monitor

What is known from outside about the user stream: the state of its connection, how many
connections were tried, the health record of the last one and why it was interrupted.
-/

namespace VenueLink

/-- The state of the connection of the user stream. -/
inductive ConnectionState where
  /-- Connecting, logging in or subscribing. -/
  | connecting
  /-- Logged in and subscribed. -/
  | opened
  /-- Ending on request. -/
  | closing
  /-- Ended by a failure; another connection follows. -/
  | interrupted
  /-- There is no connection and none is about to come. -/
  | closed
deriving DecidableEq, Repr, Inhabited

/-- The word for a connection state. -/
def ConnectionState.label : ConnectionState → String
  | connecting => "connecting"
  | opened => "open"
  | closing => "closing"
  | interrupted => "interrupted"
  | closed => "closed"

/-- What is known from outside about the user stream. -/
structure Monitor where
  state : ConnectionState := .closed
  /-- The connections tried so far. -/
  connections : Nat := 0
  /-- The health record of the last connection. -/
  health? : Option Health := none
  /-- Why a connection was last interrupted. -/
  lastInterruption? : Option StreamError := none
deriving DecidableEq, Repr, Inhabited

namespace Monitor

/-- Whether the stream is logged in and subscribed. -/
def isOpen (m : Monitor) : Bool := m.state = .opened

/-- A connection is tried: it starts with a fresh health record. -/
def tried (m : Monitor) (now : Instant) : Monitor :=
  { m with
    state := .connecting
    connections := m.connections + 1
    health? := some (.begun now) }

/-- A connection ended by a failure. -/
def interrupt (m : Monitor) (e : StreamError) : Monitor :=
  { m with state := .interrupted, lastInterruption? := some e }

/-- Change the health record of the last connection. -/
def mark (m : Monitor) (f : Health → Health) : Monitor :=
  { m with health? := m.health?.map f }

end Monitor

end VenueLink
