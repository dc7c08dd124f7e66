import VenueLink.Number.Whole

/-!
# Request targets

The text of a request target is an absolute address, the path of one, or an authority alone.
The characters allowed are those of the generic syntax; a path may also hold characters
beyond the basic ones.
-/

namespace VenueLink

/-- An address: its scheme and authority if it has them, and the rest. -/
structure Uri where
  scheme? : Option String := none
  authority? : Option String := none
  rest : String := ""
deriving DecidableEq, Repr

/-- Why a text is no address. -/
inductive UriError where
  | empty
  | tooLong
  | schemeTooLong
  | invalidCharacter
  | invalidAuthority
  | invalidFormat
deriving DecidableEq, Repr

/-- The words for a text that is no address. -/
def UriError.message : UriError → String
  | empty => "empty string"
  | tooLong => "uri too long"
  | schemeTooLong => "scheme too long"
  | invalidCharacter => "invalid uri character"
  | invalidAuthority => "invalid authority"
  | invalidFormat => "invalid format"

namespace Uri

/-- The most bytes that an address may have. -/
def maxLength : Nat := 65534

/-- The most characters that a scheme may have. -/
def maxSchemeLength : Nat := 64

/-- The most colons in a row of an authority. -/
def maxColons : Nat := 8

/-- Whether a character may stand in a scheme. -/
def isSchemeChar (c : Char) : Bool :=
  c.isAlphanum || "+-.~".toList.contains c

/-- Whether a character may stand in an authority. -/
def isAuthorityChar (c : Char) : Bool :=
  c.isAlphanum || "!$&'()*+,-.:;=@[]_~".toList.contains c

/-- Whether a character ends an authority. -/
def endsAuthority (c : Char) : Bool :=
  c = '/' || c = '?' || c = '#'

/-- Whether a character may stand in a path. -/
def isPathChar (c : Char) : Bool :=
  let n := c.toNat
  n = 0x21 || c = '"' || (0x24 ≤ n && n ≤ 0x3b) || n = 0x3d || (0x40 ≤ n && n ≤ 0x5f)
    || (0x61 ≤ n && n ≤ 0x7e) || 0x7f ≤ n

/-- Whether a character may stand in a query. -/
def isQueryChar (c : Char) : Bool :=
  let n := c.toNat
  n = 0x21 || (0x24 ≤ n && n ≤ 0x3b) || n = 0x3d || 0x3f ≤ n

/-- Whether a text begins with the characters of another one in any letter case. -/
def beginsWith (start cs : List Char) : Bool :=
  start.isPrefixOf ((cs.take start.length).map Char.toLower)

/-- The scheme in front of a text, if there is one, and the text after it. -/
def splitScheme (cs : List Char) : Except UriError (Option String × List Char) :=
  if beginsWith "http://".toList cs then .ok (some "http", cs.drop 7)
  else if beginsWith "https://".toList cs then .ok (some "https", cs.drop 8)
  else
    let name := cs.takeWhile isSchemeChar
    match cs.drop name.length with
    | ':' :: '/' :: '/' :: rest =>
      if name.isEmpty && rest.isEmpty then .ok (none, cs)
      else if maxSchemeLength < name.length then .error .schemeTooLong
      else .ok (some (String.ofList name), rest)
    | _ => .ok (none, cs)

/-- What is known of an authority after some of its characters. -/
structure AuthorityScan where
  colons : Nat := 0
  opened : Bool := false
  closed : Bool := false
  percent : Bool := false
  /-- Whether the last character was an at sign. -/
  endsInAt : Bool := false

/-- The scan of an authority after one more character. -/
def AuthorityScan.next (s : AuthorityScan) (c : Char) : Except UriError AuthorityScan :=
  let s' := { s with endsInAt := c = '@' }
  if c = ':' then
    if maxColons ≤ s.colons then .error .invalidAuthority
    else .ok { s' with colons := s.colons + 1 }
  else if c = '[' then
    if s.percent || s.opened then .error .invalidAuthority else .ok { s' with opened := true }
  else if c = ']' then
    if !s.opened || s.closed then .error .invalidAuthority
    else .ok { s' with closed := true, colons := 0, percent := false }
  else if c = '@' then .ok { s' with colons := 0, percent := false }
  else if c = '%' then .ok { s' with percent := true }
  else if isAuthorityChar c then .ok s'
  else .error .invalidCharacter

/-- Whether the characters of an authority stand in their places. -/
def checkAuthority (cs : List Char) : Except UriError Unit := do
  let s ← cs.foldlM AuthorityScan.next {}
  if s.opened != s.closed || 1 < s.colons || s.endsInAt || s.percent then
    .error .invalidAuthority
  else .ok ()

/-- The authority in front of a text, and the text after it. -/
def splitAuthority (cs : List Char) : Except UriError (List Char × List Char) := do
  let authority := cs.takeWhile fun c => !endsAuthority c
  checkAuthority authority
  return (authority, cs.drop authority.length)

/-- A path with a query: what stands from a number sign on is dropped. -/
def checkPath (cs : List Char) : Except UriError String :=
  let kept := cs.takeWhile (· ≠ '#')
  let path := kept.takeWhile (· ≠ '?')
  let query := (kept.drop path.length).drop 1
  if path.all isPathChar && query.all isQueryChar then .ok (String.ofList kept)
  else .error .invalidCharacter

/-- The address that a text is. -/
def parse (s : String) : Except UriError Uri := do
  if maxLength < s.utf8ByteSize then .error .tooLong
  else match s.toList with
    | [] => .error .empty
    | ['*'] => return { rest := "*" }
    | '/' :: path => return { rest := ← checkPath ('/' :: path) }
    | cs =>
      let (scheme?, afterScheme) ← splitScheme cs
      if afterScheme.isEmpty then .error .empty
      let (authority, path) ← splitAuthority afterScheme
      match scheme? with
      | none =>
        if !path.isEmpty then
          .error (if cs.length = 1 then .invalidCharacter else .invalidFormat)
        else return { authority? := some (String.ofList authority) }
      | some scheme =>
        if authority.isEmpty then .error .invalidFormat
        else return {
          scheme? := some scheme
          authority? := some (String.ofList authority)
          rest := ← checkPath path }

/-- The port that an address names, if it is one. -/
def port? (u : Uri) : Option Nat :=
  u.authority?.bind fun authority =>
    let host := (authority.toList.reverse.takeWhile fun c => c ≠ '@' && c ≠ ']').reverse
    match host.dropWhile (· ≠ ':') with
    | ':' :: digits => Number.parseWhole? 16 (String.ofList digits)
    | _ => none

end Uri

end VenueLink
