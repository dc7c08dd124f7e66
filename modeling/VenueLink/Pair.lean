import VenueLink.Text.Blank
import VenueLink.Text.Case

/-!
# Trading pairs

A pair names the asset traded and the asset it is paid in, both in upper case.  It is
written `BASE-QUOTE`, and the venue writes `BASE_QUOTE` for the same market.
-/

namespace VenueLink

/-- The asset traded and the asset it is paid in. -/
structure Pair where
  base : String
  quote : String
deriving DecidableEq, Repr, Inhabited

namespace Pair

/-- The text before and after the last occurrence of a separator. -/
def splitLast? (separator : Char) : List Char → Option (List Char × List Char)
  | [] => none
  | c :: rest =>
    match splitLast? separator rest with
    | some (before, after) => some (c :: before, after)
    | none => if c = separator then some ([], rest) else none

/-- An asset name as it is kept: trimmed and in upper case. -/
def assetName (s : String) : String :=
  Text.upper (Text.trim s)

/-- The pair of two asset names. -/
def ofAssets (base quote : String) : Pair :=
  ⟨assetName base, assetName quote⟩

/-- The pair written with a hyphen: the last one separates, and text has to stand on
either side of it. -/
def parse? (raw : String) : Option Pair :=
  match splitLast? '-' (Text.trimChars raw.toList) with
  | some (base, quote) =>
    if base.isEmpty || quote.isEmpty then none
    else some (ofAssets (String.ofList base) (String.ofList quote))
  | none => none

/-- The sentence for a text that names no pair. -/
def invalidMessage (raw : String) : String :=
  "invalid trading pair: " ++ raw

/-- A market symbol of the venue in the hyphenated form. -/
def hyphenated (symbol : String) : String :=
  String.ofList (symbol.toList.map fun c => if c = '_' then '-' else c)

/-- The pair that a market symbol of the venue names. -/
def ofSymbol? (symbol : String) : Option Pair :=
  parse? (hyphenated symbol)

/-- The market symbol of the venue. -/
def symbol (p : Pair) : String :=
  p.base ++ "_" ++ p.quote

/-- The pair as text. -/
def display (p : Pair) : String :=
  p.base ++ "-" ++ p.quote

end Pair

end VenueLink
