/-!
# Requests and responses of a page

As much as a small server has to know: the first line of a request, and the text of a
response.
-/

namespace VenueLink

/-- The first line of a request. -/
structure HttpRequest where
  method : String
  /-- The path that is asked for, without a query. -/
  path : String
deriving DecidableEq, Repr

/-- A response. -/
structure HttpResponse where
  status : Nat
  contentType? : Option String := none
  /-- The methods that are allowed instead. -/
  allow? : Option String := none
  body : String := ""
deriving DecidableEq, Repr

/-- The first line of a text as a request: method, target and version. -/
def HttpRequest.parse? (text : String) : Option HttpRequest :=
  match (String.ofList (text.toList.takeWhile fun c => c ≠ '\r' && c ≠ '\n')).splitOn " " with
  | [method, target, version] =>
    if ["HTTP/1.0", "HTTP/1.1"].contains version then
      some ⟨method, String.ofList (target.toList.takeWhile (· ≠ '?'))⟩
    else none
  | _ => none

namespace HttpResponse

/-- The words for a status. -/
def reason : Nat → String
  | 200 => "OK"
  | 400 => "Bad Request"
  | 404 => "Not Found"
  | 405 => "Method Not Allowed"
  | 503 => "Service Unavailable"
  | _ => ""

/-- The headers of a response after which the connection ends. -/
def headers (r : HttpResponse) : List (String × String) :=
  (r.contentType?.map fun v => ("content-type", v)).toList
    ++ (r.allow?.map fun v => ("allow", v)).toList
    ++ [("content-length", toString r.body.utf8ByteSize), ("connection", "close")]

/-- The text of a response; one without its body still tells the length of it. -/
def text (r : HttpResponse) (withBody : Bool) : String :=
  "HTTP/1.1 " ++ toString r.status ++ " " ++ reason r.status ++ "\r\n"
    ++ String.join (r.headers.map fun h => h.1 ++ ": " ++ h.2 ++ "\r\n")
    ++ "\r\n" ++ if withBody then r.body else ""

end HttpResponse

end VenueLink
