import VenueLink.Signing
import VenueLink.Venue.Endpoint
import VenueLink.Venue.Error

/-!
# Requests to the venue

A private request names an endpoint and carries parameters; they are signed on the way.
-/

namespace VenueLink

/-- A private request: an endpoint with its parameters. -/
structure VenueRequest where
  endpoint : Endpoint
  params : Params
deriving DecidableEq, Repr

namespace VenueRequest

/-- The request of an endpoint with some parameters. -/
def of (endpoint : Endpoint) (params : List (String × String)) : VenueRequest :=
  ⟨endpoint, .ofList params⟩

/-- The result in a response to a request. -/
def result (r : VenueRequest) (response : Json) : Except VenueError Json :=
  match response.result r.endpoint.context with
  | .ok result => .ok result
  | .error e => .error (.ofPayload e)

end VenueRequest

end VenueLink
