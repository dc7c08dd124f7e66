import VenueLink.Net.Header
import VenueLink.Net.Uri
import VenueLink.Stream.Error

/-!
# The address of a stream

What is checked before a stream connection is made: the address, then the headers in their
order, then the scheme.
-/

namespace VenueLink

/-- Why a stream connection cannot even be tried. -/
inductive AddressFault where
  /-- The address cannot be read. -/
  | uri (e : UriError)
  /-- The address names no host. -/
  | noHost
  /-- A header cannot be sent. -/
  | header (name : String) (fault : Header.Fault)
  /-- The scheme is not one of streams. -/
  | scheme
deriving DecidableEq, Repr

namespace AddressFault

/-- The words for an address that cannot be tried. -/
def message : AddressFault → String
  | uri e => "HTTP format error: " ++ e.message
  | noHost => "URL error: No host name in the URL"
  | header name fault => "invalid header " ++ name ++ ": " ++ fault.message
  | scheme => "URL error: URL scheme not supported"

/-- The stream error of an address that cannot be tried. -/
def streamError (fault : AddressFault) : StreamError :=
  .connect fault.message

end AddressFault

namespace StreamAddress

/-- The first header of a list that cannot be sent. -/
def firstFault? : List (String × String) → Option AddressFault
  | [] => none
  | header :: rest =>
    match Header.fault? header with
    | some fault => some (.header header.1 fault)
    | none => firstFault? rest

/-- The port at which a stream address is reached: the one it names, or that of its
scheme. -/
def port? (u : Uri) : Option Nat :=
  match u.port?, u.scheme? with
  | some port, _ => some port
  | none, some "ws" => some 80
  | none, some "wss" => some 443
  | none, _ => none

/-- The address and the port to connect to, if a connection can be tried. -/
def prepare (url : String) (headers : List (String × String)) :
    Except AddressFault (String × Nat) :=
  match Uri.parse url with
  | .error e => .error (.uri e)
  | .ok u =>
    match u.authority? with
    | none => .error .noHost
    | some authority =>
      match firstFault? headers, port? u with
      | some fault, _ => .error fault
      | none, none => .error .scheme
      | none, some port => .ok (authority, port)

end StreamAddress

end VenueLink
