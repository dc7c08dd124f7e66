/-!
# The venue's site

Where the venue is reached and how requests to it are marked.
-/

namespace VenueLink.Venue

/-- The domain of the venue in production. -/
def productionDomain : String := "vip"

/-- The base of all requests on a domain. -/
def restBase (domain : String) : String :=
  "https://api.biconomy." ++ domain ++ "/"

/-- The version of the private interface, as it stands in front of every path. -/
def apiVersion : String := "api/v2"

/-- The address of the user stream. -/
def streamUrl : String := "wss://bei.biconomy.com/ws"

/-- The headers that mark a request for the site. -/
def siteHeaders : List (String × String) := [("X-SITE-ID", "127")]

end VenueLink.Venue
