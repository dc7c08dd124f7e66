/-!
# Endpoints of the venue

The private requests that reconciliation makes, with their paths and the names that error
sentences give them.
-/

namespace VenueLink

/-- A private request of the venue. -/
inductive Endpoint where
  | balances
  | cancel
  | cancelBatch
  | pending
  | pendingDetail
  | finished
  | finishedDetail
  | deals
deriving DecidableEq, Repr

namespace Endpoint

/-- The path below the private interface. -/
def path : Endpoint → String
  | balances => "/private/user"
  | cancel => "/private/trade/cancel"
  | cancelBatch => "/private/trade/cancel_batch"
  | pending => "/private/order/pending"
  | pendingDetail => "/private/order/pending/detail"
  | finished => "/private/order/finished"
  | finishedDetail => "/private/order/finished/detail"
  | deals => "/private/order/deals"

/-- The name in error sentences. -/
def context : Endpoint → String
  | balances => "fetch balances"
  | cancel => "cancel order"
  | cancelBatch => "batch cancel"
  | pending => "list pending orders"
  | pendingDetail => "pending order detail"
  | finished => "list finished orders"
  | finishedDetail => "finished order detail"
  | deals => "fetch order deals"

end Endpoint

end VenueLink
