import VenueLink.Number.Shortest

/-!
# Data values

The values of the data format in which the venue speaks: numbers are either 64-bit
integers or doubles, and the members of an object are kept sorted by key with one value
for each.
-/

namespace VenueLink

/-- A number: an integer of 64 bits, with or without sign, or a double. -/
inductive Json.Number where
  | int (n : Int)
  | float (x : Float)
deriving DecidableEq, Repr

/-- A value of the data format. -/
inductive Json where
  | null
  | bool (b : Bool)
  | num (n : Json.Number)
  | str (s : String)
  | arr (items : List Json)
  | obj (members : List (String × Json))
deriving BEq, Repr, Inhabited

namespace Json

/-- The members of an object, sorted by key. -/
abbrev Members := List (String × Json)

namespace Members

/-- The value of a member. -/
def get? (key : String) : Members → Option Json
  | [] => none
  | (k, v) :: rest => if k = key then some v else get? key rest

/-- Put a member at its place, over a member of the same key. -/
def insert (key : String) (value : Json) : Members → Members
  | [] => [(key, value)]
  | (k, v) :: rest =>
    if key = k then (key, value) :: rest
    else if key < k then (key, value) :: (k, v) :: rest
    else (k, v) :: insert key value rest

/-- The members of a list of pairs, the last of equal keys winning. -/
def ofList (pairs : List (String × Json)) : Members :=
  pairs.foldl (fun members pair => members.insert pair.1 pair.2) []

end Members

/-- The object with the given members. -/
def object (pairs : List (String × Json)) : Json :=
  .obj (Members.ofList pairs)

/-- An integer as a value. -/
def ofInt (n : Int) : Json :=
  .num (.int n)

/-- A natural number as a value. -/
def ofNat (n : Nat) : Json :=
  .num (.int n)

/-- The members of an object. -/
def members? : Json → Option Members
  | .obj members => some members
  | _ => none

/-- The value of a string. -/
def str? : Json → Option String
  | .str s => some s
  | _ => none

/-- The value of a member of an object. -/
def get? (key : String) (v : Json) : Option Json :=
  v.members?.bind fun members => members.get? key

/-- Whether the value is null. -/
def isNull : Json → Bool
  | .null => true
  | _ => false

/-- Whether the value is an object. -/
def isObject : Json → Bool
  | .obj _ => true
  | _ => false

/-- The name of a value's kind. -/
def kind : Json → String
  | .null => "null"
  | .bool _ => "bool"
  | .num _ => "number"
  | .str _ => "string"
  | .arr _ => "array"
  | .obj _ => "object"

namespace Number

/-- The integer of a number, if it fits 64 bits with a sign. -/
def int64? : Number → Option Int
  | .int n => if n < Number.pow2 63 then some n else none
  | .float _ => none

/-- The double nearest to a number. -/
def toFloat : Number → Float
  | .int n => Float.ofInt n
  | .float x => x

/-- The text of a number. -/
def text : Number → String
  | .int n => toString n
  | .float x => VenueLink.Number.Layout.json.text x

end Number

end Json

end VenueLink
