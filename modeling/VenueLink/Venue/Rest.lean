import VenueLink.Json.Parser
import VenueLink.Net.Uri
import VenueLink.Net.Url
import VenueLink.Venue.Request
import VenueLink.Venue.Site

/-!
# Requests and responses on the wire

A private request is a form sent to an address below the base; the response is data with a
status.  An address that cannot be sent to is known before anything is sent.
-/

namespace VenueLink.Rest

/-- A request as it is sent. -/
structure Posting where
  url : Url
  headers : List (String × String)
  body : String
deriving DecidableEq, Repr

/-- A response as it is received. -/
structure Response where
  status : Nat
  body : String
deriving DecidableEq, Repr

/-- The type of a form. -/
def formType : String := "application/x-www-form-urlencoded"

/-- A text without the slashes at its end. -/
def dropSlashesAtEnd (s : String) : String :=
  String.ofList (s.toList.reverse.dropWhile (· = '/')).reverse

/-- A text without the slashes in front of it. -/
def dropSlashesInFront (s : String) : String :=
  String.ofList (s.toList.dropWhile (· = '/'))

/-- The address of a path below a base, as text. -/
def addressText (base path : String) : String :=
  dropSlashesAtEnd base ++ "/" ++ Venue.apiVersion ++ "/" ++ dropSlashesInFront path

/-- The failure of a request that cannot be made, with its address if it has one. -/
def cannotMake (url? : Option Url) : VenueError :=
  .connection ("builder error" ++ (url?.map fun u => " for url (" ++ u.text ++ ")").getD "")

/-- The address of a path below a base.  It has to be readable, its scheme has to be one of
two, and its text has to be a request target. -/
def address (base path : String) : Except VenueError Url :=
  match Url.parse? (addressText base path) with
  | none => .error (cannotMake none)
  | some u =>
    if u.scheme ≠ "http" ∧ u.scheme ≠ "https" then .error (cannotMake (some u))
    else match Uri.parse u.text with
      | .ok _ => .ok u
      | .error _ => .error (cannotMake (some u))

/-- Whether a character stands for itself in a form. -/
def isFormChar (c : Char) : Bool :=
  c.isAlphanum || "*-._".toList.contains c

/-- A text in a form: a space is a plus sign, and all but letters, digits and four signs is
percent-encoded. -/
def formText (s : String) : String :=
  String.ofList (s.toList.flatMap fun c =>
    if c = ' ' then ['+'] else Percent.encode (fun c => !isFormChar c) [c])

/-- Parameters as a form. -/
def form (params : Params) : String :=
  "&".intercalate (params.map fun p => formText p.1 ++ "=" ++ formText p.2)

/-- The posting of parameters to a path below a base, signed when credentials are given. -/
def posting (base path : String) (params : Params) (credentials? : Option Credentials) :
    Except VenueError Posting :=
  (address base path).map fun url =>
    { url
      headers := Venue.siteHeaders ++ [("Content-Type", formType)]
      body := form ((credentials?.map fun c => c.signRequest params).getD params) }

/-- The status that limits the rate of requests. -/
def tooManyRequests : Nat := 429

/-- What a response to a path says: data when its status reports success. -/
def Response.reply (path : String) (r : Response) : Except VenueError Json :=
  if r.status = tooManyRequests then .error .rateLimited
  else if r.status < 200 ∨ 300 ≤ r.status then .error (.http r.status r.body)
  else match Json.parse? r.body with
    | some v => .ok v
    | none => .error (.invalidResponse (path ++ ": <json error>"))

end VenueLink.Rest
