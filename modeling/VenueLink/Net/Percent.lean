import VenueLink.Text.Hex

/-!
# Percent encoding

Bytes written as a percent sign and two hexadecimal digits.
-/

namespace VenueLink.Percent

/-- The encoding of a byte. -/
def encodeByte (b : UInt8) : List Char :=
  '%' :: Text.upperHexByte b

/-- A text with the characters of a set encoded. -/
def encode (set : Char → Bool) (cs : List Char) : List Char :=
  cs.flatMap fun c =>
    if set c then (String.singleton c).toUTF8.toList.flatMap encodeByte else [c]

/-- The bytes of a text in which encoded bytes stand for themselves. -/
def decodeBytes : List Char → List UInt8
  | [] => []
  | '%' :: a :: b :: rest =>
    match Text.hexValue? a, Text.hexValue? b with
    | some x, some y => UInt8.ofNat (16 * x + y) :: decodeBytes rest
    | _, _ => 37 :: decodeBytes (a :: b :: rest)
  | c :: rest => (String.singleton c).toUTF8.toList ++ decodeBytes rest

/-- The text of decoded bytes, if they are the bytes of a text. -/
def decode? (cs : List Char) : Option (List Char) :=
  (String.fromUTF8? ⟨(decodeBytes cs).toArray⟩).map String.toList

/-- Controls and everything beyond the basic characters. -/
def control (c : Char) : Bool :=
  c.toNat ≤ 0x1f || 0x7e < c.toNat

/-- What is encoded in a fragment. -/
def fragment (c : Char) : Bool :=
  control c || " \"<>\x60".toList.contains c

/-- What is encoded in a query. -/
def query (c : Char) : Bool :=
  control c || " \"#<>".toList.contains c

/-- What is encoded in the query of a special scheme. -/
def specialQuery (c : Char) : Bool :=
  query c || c = '\''

/-- What is encoded in a path. -/
def path (c : Char) : Bool :=
  query c || "?\x60\x7b\x7d".toList.contains c

end VenueLink.Percent
