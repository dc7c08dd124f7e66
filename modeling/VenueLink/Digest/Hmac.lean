import VenueLink.Digest.Sha256
import VenueLink.Text.Hex

/-!
# Keyed digests

The HMAC construction over SHA-256, and the hexadecimal text of bytes.
-/

namespace VenueLink.Digest

/-- The key as one block: a longer key is digested first, a shorter one filled with zeros. -/
def keyBlock (key : List UInt8) : List UInt8 :=
  let k := if 64 < key.length then sha256 key else key
  k ++ List.replicate (64 - k.length) 0

/-- The digest of a message under a key. -/
def hmacSha256 (key message : List UInt8) : List UInt8 :=
  let block := keyBlock key
  sha256 (block.map (· ^^^ 0x5c) ++ sha256 (block.map (· ^^^ 0x36) ++ message))

/-- The bytes as pairs of hexadecimal digits in upper case. -/
def hexText (bytes : List UInt8) : String :=
  String.ofList (bytes.flatMap Text.upperHexByte)

end VenueLink.Digest
