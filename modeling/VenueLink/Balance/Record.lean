import VenueLink.Decimal.Basic
import VenueLink.Pair

/-!
# Balance records

How much of an asset is free and how much there is in all.
-/

namespace VenueLink

/-- The balance of one asset. -/
structure BalanceRecord where
  asset : String
  available : Decimal
  total : Decimal
deriving DecidableEq, Repr, Inhabited

namespace BalanceRecord

/-- The record of an asset, whose name is trimmed and put in upper case. -/
def ofAsset (asset : String) (available total : Decimal) : BalanceRecord :=
  ⟨Pair.assetName asset, available, total⟩

/-- The record of an asset of which there is nothing. -/
def zero (asset : String) : BalanceRecord :=
  ofAsset asset .zero .zero

end BalanceRecord

end VenueLink
