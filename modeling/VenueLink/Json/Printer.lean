import VenueLink.Json.Basic
import VenueLink.Text.Hex

/-!
# Writing data values

The compact text of a value: no spaces, members in the order of their keys, and only the
characters escaped that have to be.
-/

namespace VenueLink.Json

/-- A character inside quotes. -/
def escapeChar (c : Char) : List Char :=
  if c = '"' then ['\\', '"']
  else if c = '\\' then ['\\', '\\']
  else if c = '\x08' then ['\\', 'b']
  else if c = '\x0c' then ['\\', 'f']
  else if c = '\n' then ['\\', 'n']
  else if c = '\r' then ['\\', 'r']
  else if c = '\t' then ['\\', 't']
  else if c.toNat < 0x20 then
    ['\\', 'u', '0', '0', Text.lowerHex (c.toNat / 16), Text.lowerHex (c.toNat % 16)]
  else [c]

/-- A text in quotes. -/
def quote (s : String) : List Char :=
  '"' :: s.toList.flatMap escapeChar ++ ['"']

mutual
/-- The characters of a value. -/
def chars : Json → List Char
  | .null => ['n', 'u', 'l', 'l']
  | .bool true => ['t', 'r', 'u', 'e']
  | .bool false => ['f', 'a', 'l', 's', 'e']
  | .num n => n.text.toList
  | .str s => quote s
  | .arr [] => ['[', ']']
  | .arr (item :: rest) => '[' :: chars item ++ itemChars rest
  | .obj [] => ['{', '}']
  | .obj ((key, value) :: rest) => '{' :: quote key ++ ':' :: chars value ++ memberChars rest
/-- The items after the first one, and the closing bracket. -/
def itemChars : List Json → List Char
  | [] => [']']
  | item :: rest => ',' :: chars item ++ itemChars rest
/-- The members after the first one, and the closing bracket. -/
def memberChars : List (String × Json) → List Char
  | [] => ['}']
  | (key, value) :: rest => ',' :: quote key ++ ':' :: chars value ++ memberChars rest
end

/-- The compact text of a value. -/
def render (v : Json) : String :=
  String.ofList v.chars

end VenueLink.Json
