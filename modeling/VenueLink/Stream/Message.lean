import VenueLink.Stream.Supervisor

/-!
# Messages below the frames

A connection carries messages of several kinds.  Texts are frames, and so are bytes that are
a text; the signs of life that the connection exchanges on its own are not.
-/

namespace VenueLink

/-- A message that comes in on a connection. -/
inductive StreamMessage where
  | text (s : String)
  | binary (bytes : ByteArray)
  | ping
  | pong
  /-- The venue ends the connection. -/
  | close
deriving BEq

namespace StreamMessage

/-- What a message is to the supervisor, if it is anything. -/
def occurrence? : StreamMessage → Option Occurrence
  | text s => some (.frame s)
  | binary bytes => (String.fromUTF8? bytes).map .frame
  | close => some (.failed .closed)
  | ping => none
  | pong => none

/-- What the messages of a connection are to the supervisor. -/
def occurrences (messages : List StreamMessage) : List Occurrence :=
  messages.filterMap occurrence?

end StreamMessage

end VenueLink
