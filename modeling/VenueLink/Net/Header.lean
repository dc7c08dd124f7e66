/-!
# Headers

The names and the values that a request may carry.
-/

namespace VenueLink.Header

/-- Why a header cannot be sent. -/
inductive Fault where
  | name
  | value
deriving DecidableEq, Repr

/-- The words for a header that cannot be sent. -/
def Fault.message : Fault → String
  | name => "invalid HTTP header name"
  | value => "failed to parse header value"

/-- Whether a character may stand in a name. -/
def isNameChar (c : Char) : Bool :=
  c.isAlphanum || "!#$%&'*+-.^_\x60|~".toList.contains c

/-- Whether a character may stand in a value: everything but controls, apart from the tab. -/
def isValueChar (c : Char) : Bool :=
  c = '\t' || (32 ≤ c.toNat && c.toNat ≠ 127)

/-- The most characters that a name may have. -/
def maxNameLength : Nat := 65535

/-- What is wrong with a header, if anything is; the name is looked at first. -/
def fault? (header : String × String) : Option Fault :=
  let name := header.1.toList
  if name.isEmpty || maxNameLength < name.length || !name.all isNameChar then some .name
  else if !header.2.toList.all isValueChar then some .value
  else none

end VenueLink.Header
