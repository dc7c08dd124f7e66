import VenueLink.Digest.Hmac

/-!
# Request signing

A private request names its key and carries a signature over its parameters: the keyed
digest of the parameters in the order of their names, followed by the secret.
-/

namespace VenueLink

/-- The key and the secret with which requests are signed. -/
structure Credentials where
  apiKey : String
  apiSecret : String
deriving DecidableEq, Repr, Inhabited

/-- The text in which credentials are shown: neither part is readable. -/
def Credentials.redacted : String :=
  "Credentials \x7b api_key: \"[REDACTED]\", api_secret: \"[REDACTED]\" \x7d"

/-- The parameters of a request, sorted by name. -/
abbrev Params := List (String × String)

namespace Params

/-- Set a parameter. -/
def insert (name value : String) : Params → Params
  | [] => [(name, value)]
  | (n, v) :: rest =>
    if name = n then (name, value) :: rest
    else if name < n then (name, value) :: (n, v) :: rest
    else (n, v) :: insert name value rest

/-- The parameters of a list of pairs, the last of equal names winning. -/
def ofList (pairs : List (String × String)) : Params :=
  pairs.foldl (fun params p => params.insert p.1 p.2) []

/-- The value of a parameter. -/
def get? (params : Params) (name : String) : Option String :=
  params.lookup name

end Params

namespace Credentials

/-- The text that is signed: the parameters, each followed by an ampersand, and the secret. -/
def signedText (c : Credentials) (params : Params) : String :=
  String.join (params.map fun p => p.1 ++ "=" ++ p.2 ++ "&") ++ "secret_key=" ++ c.apiSecret

/-- The signature over parameters. -/
def sign (c : Credentials) (params : Params) : String :=
  Digest.hexText
    (Digest.hmacSha256 c.apiSecret.toUTF8.toList (c.signedText params).toUTF8.toList)

/-- The parameters with the key and the signature added. -/
def signRequest (c : Credentials) (params : Params) : Params :=
  let named := params.insert "api_key" c.apiKey
  named.insert "sign" (c.sign named)

/-- The signature of a stream login at a moment. -/
def signLogin (c : Credentials) (timestampMs : Int) : String :=
  c.sign (Params.ofList [("api_key", c.apiKey), ("timestamp", toString timestampMs)])

end Credentials

end VenueLink
