import VenueLink.Order.Basic
import VenueLink.Payload.Field

/-!
# Fill entries

What an entry of the deals listing says about a fill.  A price that is missing follows from
the money exchanged, a missing amount of money from the price.
-/

namespace VenueLink.FillEntry

open Json (Members)

/-- The keys of the amount filled. -/
def baseAmountKeys : List String := ["amount", "number", "deal_stock"]

/-- The keys of the fill's id. -/
def tradeIdKeys : List String := ["id", "deal_id"]

/-- The keys of the asset in which the fee was charged. -/
def feeAssetKeys : List String := ["fee_asset", "fee_currency"]

/-- The keys of the time of the fill. -/
def timeKeys : List String := ["ctime", "time"]

/-- What an entry says. -/
structure Reading where
  tradeId : TradeId
  price : Decimal
  baseAmount : Decimal
  quoteAmount : Decimal
  feeAmount : Decimal
  feeAsset : String
  timestamp : Moment
deriving DecidableEq, Repr

/-- The money exchanged, when the entry gives a positive amount. -/
def money? (entry : Members) : Option Decimal :=
  (entry.decimal? ["deal_money"]).filter Decimal.isPositive

/-- The price: the one given when it is positive, else the money per amount, else zero.  A
quotient that does not fit is no price. -/
def price? (entry : Members) (base : Decimal) : Option Decimal :=
  let given := entry.decimalOrZero ["price"]
  if given.isPositive then some given
  else match money? entry with
    | some money => money.div? base
    | none => some .zero

/-- The money exchanged: the amount given, else price times amount if that fits. -/
def quoteAmount? (entry : Members) (base price : Decimal) : Option Decimal :=
  match money? entry with
  | some money => some money
  | none => price.mul? base

/-- The id of a fill: the one given, else the order's id and the position in the listing. -/
def tradeId (entry : Members) (venueId : VenueId) (index : Nat) : TradeId :=
  ⟨(entry.text? tradeIdKeys).getD (venueId.text ++ "-" ++ toString index)⟩

/-- What the entry at a position of the listing says about a fill of the order, if its
amount is positive and its price and money fit. -/
def read? (now : Moment) (venueId : VenueId) (quoteAsset : String) (index : Nat)
    (entry : Members) : Option Reading :=
  let base := entry.decimalOrZero baseAmountKeys
  if !base.isPositive then none
  else
    (price? entry base).bind fun price =>
      (quoteAmount? entry base price).map fun quote =>
        { tradeId := tradeId entry venueId index
          price
          baseAmount := base
          quoteAmount := quote
          feeAmount := entry.decimalOrZero ["fee"]
          feeAsset := Text.upper ((entry.text? feeAssetKeys).getD quoteAsset)
          timestamp := Json.momentOr now (entry.first? timeKeys) }

end VenueLink.FillEntry
