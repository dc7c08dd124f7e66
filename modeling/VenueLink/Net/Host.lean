import VenueLink.Net.Percent
import VenueLink.Number.Power
import VenueLink.Text.Cut

/-!
# Hosts

The host of an address is a name, a number of four bytes or a bracketed number of eight
words.  Names that end in a number have to be of the second kind.
-/

namespace VenueLink

/-- A host. -/
inductive Host where
  | name (s : String)
  | bytes (n : Nat)
  | words (ws : List Nat)
deriving DecidableEq, Repr

namespace Host

/-- Whether a character may not stand in a host of any kind. -/
def isForbidden (c : Char) : Bool :=
  "\x00\t\n\r #/:<>?@[\\]^|".toList.contains c

/-- Whether a character may not stand in the name of a domain. -/
def isForbiddenInDomain (c : Char) : Bool :=
  isForbidden c || c.toNat ≤ 0x1f || c = '%' || c.toNat = 0x7f

/-- The number that digits of a base write. -/
def readDigits? (base : Nat) (cs : List Char) : Option Nat :=
  cs.foldlM (fun n c => (Text.hexValue? c).bind fun d =>
    if d < base then some (n * base + d) else none) 0

/-- A part of a number of four bytes: hexadecimal after `0x`, octal after a zero. -/
def readPart? : List Char → Option Nat
  | [] => none
  | '0' :: 'x' :: digits => readDigits? 16 digits
  | '0' :: 'X' :: digits => readDigits? 16 digits
  | '0' :: d :: digits => readDigits? 8 (d :: digits)
  | digits => readDigits? 10 digits

/-- The parts of a name between its dots, without an empty one at its end. -/
def parts (cs : List Char) : List (List Char) :=
  let all := Text.cutAt (· = '.') cs
  if 1 < all.length && all.getLast? = some [] then all.dropLast else all

/-- Whether the last part of a name is a number. -/
def endsInNumber (cs : List Char) : Bool :=
  match (parts cs).getLast? with
  | none => false
  | some last => (!last.isEmpty && last.all Char.isDigit) || (readPart? last).isSome

/-- The number of four bytes that a name is: every part but the last is one byte, and the
last one fills the rest. -/
def readBytes? (cs : List Char) : Option Nat :=
  let ps := parts cs
  if 4 < ps.length then none
  else (ps.mapM readPart?).bind fun ns =>
    match ns.reverse with
    | [] => none
    | last :: firsts =>
      if firsts.any (255 < ·) || Number.pow2 (8 * (5 - ns.length)) ≤ last then none
      else some (firsts.reverse.zipIdx.foldl
        (fun sum (n, i) => sum + n * Number.pow2 (8 * (3 - i))) last)

/-- A decimal part of a number of four bytes, without zeros in front. -/
def readByte? (cs : List Char) : Option Nat :=
  if (cs.length = 1 || (1 < cs.length && cs.head? ≠ some '0')) && cs.length ≤ 3 then
    (readDigits? 10 cs).filter (· ≤ 255)
  else none

/-- The two words of four bytes at the end of a number of eight words. -/
def readTail? (cs : List Char) : Option (List Nat) :=
  match (Text.cutAt (· = '.') cs).map readByte? with
  | [some a, some b, some c, some d] => some [256 * a + b, 256 * c + d]
  | _ => none

/-- A word: one to four hexadecimal digits. -/
def readWord? (cs : List Char) : Option Nat :=
  if cs.isEmpty || 4 < cs.length then none else readDigits? 16 cs

/-- Words with colons between them; the last two may be written as four bytes. -/
def readWords? (lastMayBeBytes : Bool) : List (List Char) → Option (List Nat)
  | [] => some []
  | [last] =>
    if lastMayBeBytes && last.contains '.' then readTail? last
    else (readWord? last).map fun w => [w]
  | word :: rest => (readWord? word).bind fun w => (readWords? lastMayBeBytes rest).map (w :: ·)

/-- A text cut at the first double colon. -/
def splitDouble? : List Char → Option (List Char × List Char)
  | ':' :: ':' :: rest => some ([], rest)
  | c :: rest => (splitDouble? rest).map fun (before, after) => (c :: before, after)
  | [] => none

/-- The words of a text, none of an empty one. -/
def wordsOf? (lastMayBeBytes : Bool) (cs : List Char) : Option (List Nat) :=
  if cs.isEmpty then some [] else readWords? lastMayBeBytes (Text.cutAt (· = ':') cs)

/-- The number of eight words that a text is: a double colon stands for zeros. -/
def readEight? (cs : List Char) : Option (List Nat) :=
  match splitDouble? cs with
  | none => (wordsOf? true cs).filter fun ws => ws.length = 8
  | some (before, after) =>
    match wordsOf? false before, wordsOf? true after with
    | some front, some back =>
      if 7 < front.length + back.length then none
      else some (front ++ List.replicate (8 - front.length - back.length) 0 ++ back)
    | _, _ => none

/-- A host in brackets. -/
def readBracketed? (cs : List Char) : Option Host :=
  match cs.reverse with
  | ']' :: inner => (readEight? inner.reverse).map words
  | _ => none

/-- The host of a special scheme. -/
def readSpecial? : List Char → Option Host
  | '[' :: rest => readBracketed? rest
  | cs =>
    (Percent.decode? cs).bind fun decoded =>
      let domain := decoded.map Char.toLower
      if domain.isEmpty || domain.any isForbiddenInDomain then none
      else if endsInNumber domain then (readBytes? domain).map bytes
      else some (name (String.ofList domain))

/-- The host of any other scheme. -/
def readOpaque? : List Char → Option Host
  | '[' :: rest => readBracketed? rest
  | cs =>
    if cs.any isForbidden then none
    else some (name (String.ofList (Percent.encode Percent.control cs)))

/-- The hexadecimal digits of a word. -/
def wordText (w : Nat) : String := String.ofList (Nat.toDigits 16 w)

/-- How many zeros a list begins with. -/
def zeros : List Nat → Nat
  | 0 :: rest => zeros rest + 1
  | _ => 0

/-- The start and the length of the first longest row of zeros. -/
def longestZeros (ws : List Nat) : Nat × Nat :=
  (List.range ws.length).foldl
    (fun best i => let n := zeros (ws.drop i); if best.2 < n then (i, n) else best) (0, 0)

/-- Words with colons between them; the longest row of zeros, of two at least, is left
out. -/
def wordsText (ws : List Nat) : String :=
  let join := fun (part : List Nat) => ":".intercalate (part.map wordText)
  let (start, length) := longestZeros ws
  if length < 2 then join ws
  else join (ws.take start) ++ "::" ++ join (ws.drop (start + length))

/-- The text of a host. -/
def text : Host → String
  | name s => s
  | bytes n => ".".intercalate ([3, 2, 1, 0].map fun i => toString (n / Number.pow2 (8 * i) % 256))
  | words ws => "[" ++ wordsText ws ++ "]"

end Host

end VenueLink
