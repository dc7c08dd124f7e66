import VenueLink.Json.Basic
import VenueLink.Number.Literal
import VenueLink.Text.Hex

/-!
# Reading data values

The strict grammar of the data format.  At most 127 arrays and objects may be open at a
time, escapes of half a surrogate pair and raw control characters are refused, and so are
numbers beyond the range of doubles.
-/

namespace VenueLink.Json

open VenueLink.Number (digit? takeDigits ofDigits scaled?)

/-- The most arrays and objects that may be open at a time. -/
def maxDepth : Nat := 127

/-- Whether a character may stand between tokens. -/
def isSpace (c : Char) : Bool :=
  c = ' ' || c = '\t' || c = '\n' || c = '\r'

/-- The text from its first token on. -/
def skipSpace (cs : List Char) : List Char :=
  cs.dropWhile isSpace

/-- The value of four hexadecimal digits. -/
def hex4? (a b c d : Char) : Option Nat := do
  let a ← Text.hexValue? a
  let b ← Text.hexValue? b
  let c ← Text.hexValue? c
  let d ← Text.hexValue? d
  return ((a * 16 + b) * 16 + c) * 16 + d

/-- The character of an escape of one letter. -/
def simpleEscape? : Char → Option Char
  | '"' => some '"'
  | '\\' => some '\\'
  | '/' => some '/'
  | 'b' => some '\x08'
  | 'f' => some '\x0c'
  | 'n' => some '\n'
  | 'r' => some '\r'
  | 't' => some '\t'
  | _ => none

/-- The rest of a string after its opening quote, and the text after its closing quote. -/
def readString? : List Char → Option (List Char × List Char)
  | '"' :: rest => some ([], rest)
  | '\\' :: 'u' :: a :: b :: c :: d :: rest =>
    match hex4? a b c d with
    | none => none
    | some n =>
      if 0xdc00 ≤ n ∧ n < 0xe000 then none
      else if 0xd800 ≤ n ∧ n < 0xdc00 then
        match rest with
        | '\\' :: 'u' :: e :: f :: g :: h :: rest =>
          match hex4? e f g h with
          | some m =>
            if 0xdc00 ≤ m ∧ m < 0xe000 then
              (readString? rest).map fun (s, tail) =>
                (Char.ofNat (0x10000 + (n - 0xd800) * 0x400 + (m - 0xdc00)) :: s, tail)
            else none
          | none => none
        | _ => none
      else (readString? rest).map fun (s, tail) => (Char.ofNat n :: s, tail)
  | '\\' :: c :: rest =>
    match simpleEscape? c with
    | some e => (readString? rest).map fun (s, tail) => (e :: s, tail)
    | none => none
  | c :: rest =>
    if c = '\\' ∨ c.toNat < 0x20 then none
    else (readString? rest).map fun (s, tail) => (c :: s, tail)
  | [] => none

/-- Leading digits of a number as a 64-bit word, and the power of ten that scales it. -/
structure Significand where
  word : Nat
  exponent : Int

/-- Append the digits before the point; those that leave the word raise the exponent. -/
def Significand.whole (s : Significand) : List Nat → Significand
  | [] => s
  | d :: ds =>
    if s.word * 10 + d < Number.pow2 64 then whole { s with word := s.word * 10 + d } ds
    else { s with exponent := s.exponent + (ds.length + 1) }

/-- Append the digits after the point; those that leave the word are dropped. -/
def Significand.fraction (s : Significand) : List Nat → Significand
  | [] => s
  | d :: ds =>
    if s.word * 10 + d < Number.pow2 64 then fraction ⟨s.word * 10 + d, s.exponent - 1⟩ ds
    else s

/-- A double from its leading digits, with the power of ten that its exponent part adds. -/
def Significand.number? (s : Significand) (negative : Bool) (exponent : Int) : Option Number :=
  let magnitude? :=
    if Number.pow2 31 ≤ exponent ∧ s.word ≠ 0 then none
    else if exponent ≤ -(Number.pow2 31) then some 0
    else scaled? s.word (s.exponent + exponent)
  magnitude?.map fun x => .float (if negative then -x else x)

/-- The exponent part of a number, zero when there is none. -/
def readExponent? : List Char → Option (Option Int × List Char)
  | c :: rest =>
    if c = 'e' ∨ c = 'E' then
      let (negative, rest) := match rest with
        | '-' :: r => (true, r)
        | '+' :: r => (false, r)
        | r => (false, r)
      match takeDigits rest with
      | (d :: ds, tail) =>
        let n : Int := ofDigits (d :: ds)
        some (some (if negative then -n else n), tail)
      | ([], _) => none
    else some (none, c :: rest)
  | [] => some (none, [])

/-- An integer, or the double of an integer that does not fit and of minus zero. -/
def integer? (negative : Bool) (digits : List Nat) : Option Number :=
  let n := ofDigits digits
  if negative then
    if 0 < n ∧ n ≤ Number.pow2 63 then some (.int (-(n : Int)))
    else (Significand.whole ⟨0, 0⟩ digits).number? true 0
  else if n < Number.pow2 64 then some (.int n)
  else (Significand.whole ⟨0, 0⟩ digits).number? false 0

/-- A number after its sign, and the text after it. -/
def readNumber? (negative : Bool) (cs : List Char) : Option (Number × List Char) :=
  match takeDigits cs with
  | ([], _) => none
  | (0 :: _ :: _, _) => none
  | (whole, rest) =>
    let (point, fraction, rest) := match rest with
      | '.' :: r => let (ds, tail) := takeDigits r; (true, ds, tail)
      | r => (false, [], r)
    if point && fraction.isEmpty then none
    else
      (readExponent? rest).bind fun (exponent?, tail) =>
        let number :=
          if !point && exponent?.isNone then integer? negative whole
          else ((Significand.whole ⟨0, 0⟩ whole).fraction fraction).number? negative
            (exponent?.getD 0)
        number.map fun n => (n, tail)

mutual
/-- A value and the text after it, with `depth` more arrays and objects allowed. -/
def readValue? : Nat → Nat → List Char → Option (Json × List Char)
  | 0, _, _ => none
  | fuel + 1, depth, cs =>
    match skipSpace cs with
    | 'n' :: 'u' :: 'l' :: 'l' :: rest => some (.null, rest)
    | 't' :: 'r' :: 'u' :: 'e' :: rest => some (.bool true, rest)
    | 'f' :: 'a' :: 'l' :: 's' :: 'e' :: rest => some (.bool false, rest)
    | '"' :: rest => (readString? rest).map fun (s, tail) => (.str (String.ofList s), tail)
    | '[' :: rest =>
      if depth = 0 then none
      else match skipSpace rest with
        | ']' :: tail => some (.arr [], tail)
        | rest => (readItems? fuel (depth - 1) rest).map fun (items, tail) => (.arr items, tail)
    | '{' :: rest =>
      if depth = 0 then none
      else match skipSpace rest with
        | '}' :: tail => some (.obj [], tail)
        | rest => (readMembers? fuel (depth - 1) rest).map fun (pairs, tail) =>
            (.object pairs, tail)
    | '-' :: rest => (readNumber? true rest).map fun (n, tail) => (.num n, tail)
    | rest => (readNumber? false rest).map fun (n, tail) => (.num n, tail)
/-- The items of an array up to its closing bracket, of which there is at least one. -/
def readItems? : Nat → Nat → List Char → Option (List Json × List Char)
  | 0, _, _ => none
  | fuel + 1, depth, cs =>
    match readValue? fuel depth cs with
    | none => none
    | some (item, rest) =>
      match skipSpace rest with
      | ']' :: tail => some ([item], tail)
      | ',' :: rest => (readItems? fuel depth rest).map fun (items, tail) => (item :: items, tail)
      | _ => none
/-- The members of an object up to its closing bracket, of which there is at least one. -/
def readMembers? : Nat → Nat → List Char → Option (List (String × Json) × List Char)
  | 0, _, _ => none
  | fuel + 1, depth, cs =>
    match skipSpace cs with
    | '"' :: rest =>
      match readString? rest with
      | none => none
      | some (key, rest) =>
        match skipSpace rest with
        | ':' :: rest =>
          match readValue? fuel depth rest with
          | none => none
          | some (value, rest) =>
            match skipSpace rest with
            | '}' :: tail => some ([(String.ofList key, value)], tail)
            | ',' :: rest =>
              (readMembers? fuel depth rest).map fun (pairs, tail) =>
                ((String.ofList key, value) :: pairs, tail)
            | _ => none
        | _ => none
    | _ => none
end

/-- The value that a text denotes.  Every call of a reader consumes a character, so the
length of the text bounds their number. -/
def parse? (s : String) : Option Json :=
  let cs := s.toList
  match readValue? (2 * cs.length + 2) maxDepth cs with
  | some (v, rest) => if (skipSpace rest).isEmpty then some v else none
  | none => none

end VenueLink.Json
