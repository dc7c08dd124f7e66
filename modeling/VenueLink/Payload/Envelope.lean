import VenueLink.Json.Printer
import VenueLink.Payload.Field

/-!
# Response envelopes

A response carries a code and, when the code reports success, the result.  Lists of
entries and single order entries lie some envelopes deep.
-/

namespace VenueLink

/-- Why a response has no result. -/
inductive PayloadError where
  /-- The response has the wrong shape. -/
  | malformed (context reason : String)
  /-- The response carries a code other than zero. -/
  | rejected (context code message : String)
deriving DecidableEq, Repr

/-- The sentence for an unusable response. -/
def PayloadError.message : PayloadError → String
  | malformed context reason => "malformed payload in " ++ context ++ ": " ++ reason
  | rejected context code message => context ++ " failed (" ++ code ++ "): " ++ message

namespace Json

/-- Whether a code reports success: it is absent, null, or zero as an integer or as text. -/
def isSuccessCode : Option Json → Bool
  | none => true
  | some .null => true
  | some (.num n) => n.int64? = some 0
  | some (.str s) => Text.trim s = "0"
  | some _ => false

/-- The text of a code: of a scalar as it is, of anything else as data. -/
def codeText (code : Json) : String :=
  code.scalarText?.getD code.render

/-- The result in a response: the member of that name, or the response itself when it has
no such member. -/
def result (context : String) (response : Json) : Except PayloadError Json :=
  match response.members? with
  | none => .error (.malformed context ("expected object, got " ++ response.kind))
  | some members =>
    if isSuccessCode (members.get? "code") then .ok ((members.get? "result").getD response)
    else .error (.rejected context (((members.get? "code").map codeText).getD "")
      ((members.text? ["message", "msg"]).getD ""))

/-- The value that a table has for the first of the keys that occurs in it. -/
def firstOf {α : Type} (keys : List String) (table : List (String × α)) : Option α :=
  keys.findSome? fun key => table.lookup key

/-- The keys under which a listing holds its entries. -/
def listingKeys : List String := ["result", "data", "pairs", "symbols"]

mutual
/-- The entries of a listing.  A list holds its items, an object the entries of the first
list or object that stands under a listing key, or itself as its only entry when there is
none. -/
def entries : Json → List Json
  | .arr items => items
  | .obj members => (firstOf listingKeys (entriesUnder members)).getD [.obj members]
  | _ => []
/-- The entries of each list or object among the members of an object. -/
def entriesUnder : List (String × Json) → List (String × List Json)
  | [] => []
  | (key, value) :: rest =>
    match value with
    | .arr items => (key, items) :: entriesUnder rest
    | .obj _ => (key, entries value) :: entriesUnder rest
    | _ => entriesUnder rest
end

/-- The keys under which a detail response holds its order. -/
def detailKeys : List String := ["order", "orders", "result", "data"]

mutual
/-- The order in a detail response.  An object stands for the order under the first detail
key that is present at all, or for itself when none is; a list for the order in its first
item. -/
def orderMembers? : Json → Option (List (String × Json))
  | .obj members => (firstOf detailKeys (orderEntriesUnder members)).getD (some members)
  | .arr (item :: _) => orderMembers? item
  | _ => none
/-- The order in each of the members of an object. -/
def orderEntriesUnder : List (String × Json) → List (String × Option (List (String × Json)))
  | [] => []
  | (key, value) :: rest => (key, orderMembers? value) :: orderEntriesUnder rest
end

end Json

end VenueLink
