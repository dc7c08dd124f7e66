import VenueLink.Payload.Envelope

/-!
# Venue errors

How a request to the venue can fail, and which failures say that an order does not exist.
-/

namespace VenueLink

/-- Why a request has no usable answer. -/
inductive VenueError where
  /-- No response was received. -/
  | connection (message : String)
  /-- The response has a status other than success. -/
  | http (status : Nat) (body : String)
  /-- The response carries a code other than zero. -/
  | rejected (context code message : String)
  /-- The response cannot be read. -/
  | invalidResponse (message : String)
  /-- The venue limits the rate of requests. -/
  | rateLimited
deriving DecidableEq, Repr

namespace VenueError

/-- The sentence for a failed request. -/
def message : VenueError → String
  | connection m => "venue connection error: " ++ m
  | http status body => "venue returned HTTP " ++ toString status ++ ": " ++ body
  | rejected context code m => context ++ " failed (" ++ code ++ "): " ++ m
  | invalidResponse m => "invalid venue response: " ++ m
  | rateLimited => "rate limited by venue"

/-- The failure that an unusable response is. -/
def ofPayload : PayloadError → VenueError
  | .rejected context code m => rejected context code m
  | .malformed context reason => invalidResponse (PayloadError.malformed context reason).message

/-- Whether some characters stand in a row in others. -/
def occursIn (part : List Char) : List Char → Bool
  | [] => part.isEmpty
  | c :: rest => part.isPrefixOf (c :: rest) || occursIn part rest

/-- Whether the sentence says, in any letter case, that an order does not exist. -/
def isMissingOrder (e : VenueError) : Bool :=
  let text := (Text.lower e.message).toList
  occursIn "order not found".toList text || occursIn "does not exist".toList text

end VenueError

end VenueLink
