import VenueLink.Number.Binary

/-!
# Decimal literals

Reading a double from a decimal literal.  `parseFloat?` reads a free-standing literal and
rounds once; `scaled?` is the rule of the data format, which keeps as many leading digits
as fit a 64-bit word and scales them by powers of ten.
-/

namespace VenueLink.Number

/-- The value of a decimal digit. -/
def digit? (c : Char) : Option Nat :=
  if c.isDigit then some (c.toNat - '0'.toNat) else none

/-- The digits in front of a text, as values, and the text after them. -/
def takeDigits : List Char → List Nat × List Char
  | [] => ([], [])
  | c :: rest =>
    match digit? c with
    | some d => let (ds, tail) := takeDigits rest; (d :: ds, tail)
    | none => ([], c :: rest)

/-- The number that decimal digits write. -/
def ofDigits (ds : List Nat) : Nat :=
  ds.foldl (fun n d => n * 10 + d) 0

/-- The double nearest to `mantissa * 10 ^ exponent`.  Exponents that certainly lead out
of the range of doubles are answered without computing the power. -/
def nearest (mantissa : Nat) (exponent : Int) : Float :=
  if mantissa = 0 then 0
  else
    let place := exponent + (Nat.toDigits 10 mantissa).length
    if 310 < place then Float.ofBits 0x7ff0000000000000
    else if place < -330 then 0
    else if 0 ≤ exponent then Float.ofScientific mantissa false exponent.toNat
    else Float.ofScientific mantissa true (-exponent).toNat

/-- An exponent part: the mark `e`, an optional sign and at least one digit. -/
def readExponent? : List Char → Option Int
  | [] => some 0
  | c :: rest =>
    if c = 'e' ∨ c = 'E' then
      let (negative, rest) := match rest with
        | '-' :: r => (true, r)
        | '+' :: r => (false, r)
        | r => (false, r)
      match takeDigits rest with
      | (d :: ds, []) => some (if negative then -(ofDigits (d :: ds) : Int) else ofDigits (d :: ds))
      | _ => none
    else none

/-- A literal without its sign: a word for infinity or an undefined value in any letter
case, or digits with at most one point and an optional exponent. -/
def readMagnitude? (cs : List Char) : Option Float :=
  let word := String.ofList (cs.map Char.toLower)
  if word = "inf" ∨ word = "infinity" then some (Float.ofBits 0x7ff0000000000000)
  else if word = "nan" then some (Float.ofBits 0x7ff8000000000000)
  else
    let (whole, rest) := takeDigits cs
    let (fraction, rest) := match rest with
      | '.' :: r => takeDigits r
      | r => ([], r)
    if whole.isEmpty && fraction.isEmpty then none
    else (readExponent? rest).map fun e =>
      nearest (ofDigits (whole ++ fraction)) (e - fraction.length)

/-- The double that a literal denotes, rounded to the nearest one. -/
def parseFloat? (s : String) : Option Float :=
  match s.toList with
  | '-' :: rest => (readMagnitude? rest).map (- ·)
  | '+' :: rest => readMagnitude? rest
  | cs => readMagnitude? cs

/-- The double nearest to a power of ten up to `10 ^ 308`. -/
def powerFloat (k : Nat) : Float :=
  Float.ofScientific 1 false k

/-- `significand * 10 ^ exponent` in one multiplication or division by a power of ten,
after divisions by `10 ^ 308` for smaller exponents; nothing beyond the range of doubles. -/
def scaled? (significand : Nat) (exponent : Int) : Option Float :=
  let f := Float.ofNat significand
  if significand = 0 then some 0
  else if 308 < exponent then none
  else if 0 ≤ exponent then
    let y := f * powerFloat exponent.toNat
    if y.isFinite then some y else none
  else if -308 ≤ exponent then some (f / powerFloat (-exponent).toNat)
  else if -616 ≤ exponent then
    some (f / powerFloat 308 / powerFloat (-exponent - 308).toNat)
  else some 0

end VenueLink.Number
