import VenueLink.Net.Host

/-!
# Addresses by the URL standard

An address is read leniently: blanks around it and line breaks inside it are dropped, and
what may not stand in it is percent-encoded.  Only hosts and ports can be wrong.  User names
and passwords are left out of the text.
-/

namespace VenueLink

/-- The path of an address. -/
inductive UrlPath where
  /-- Text that is not divided. -/
  | undivided (text : String)
  /-- Segments, each with a slash in front. -/
  | segments (parts : List String)
deriving DecidableEq, Repr

/-- An address. -/
structure Url where
  scheme : String
  host? : Option Host := none
  port? : Option Nat := none
  path : UrlPath
  query? : Option String := none
  fragment? : Option String := none
deriving DecidableEq, Repr

namespace Url

/-- The port of a special scheme, if it has one. -/
def specialPort? (scheme : String) : Option (Option Nat) :=
  [("http", some 80), ("https", some 443), ("ws", some 80), ("wss", some 443),
    ("ftp", some 21), ("file", none)].lookup scheme

/-- Whether a scheme is special: it needs a host, and a backslash is a slash in it. -/
def isSpecial (scheme : String) : Bool := (specialPort? scheme).isSome

/-- A text without blanks and controls at its ends and without tabs and line breaks. -/
def clean (s : String) : List Char :=
  let isEdge := fun c : Char => c.toNat ≤ 0x20
  let inner := ((s.toList.dropWhile isEdge).reverse.dropWhile isEdge).reverse
  inner.filter fun c => !(c = '\t' || c = '\n' || c = '\r')

/-- The scheme in front of a text, in lower case, and the text after its colon. -/
def splitScheme? (cs : List Char) : Option (String × List Char) :=
  let name := cs.takeWhile fun c => c.isAlphanum || "+-.".toList.contains c
  match name.head?, cs.drop name.length with
  | some c, ':' :: rest =>
    if c.isAlpha then some (String.ofList (name.map Char.toLower), rest) else none
  | _, _ => none

/-- Whether a character divides a path. -/
def isSlash (special : Bool) (c : Char) : Bool :=
  c = '/' || (special && c = '\\')

/-- Whether a segment is the given number of dots, each perhaps encoded. -/
def isDots : Nat → List Char → Bool
  | 0, cs => cs.isEmpty
  | n + 1, '.' :: rest => isDots n rest
  | n + 1, '%' :: '2' :: e :: rest => (e = 'e' || e = 'E') && isDots n rest
  | _, _ => false

/-- The segments of a path: one dot stays, two dots go back, and both leave an empty segment
when they stand at the end.  The segments before are in reverse. -/
def walk (before : List (List Char)) : List (List Char) → List (List Char)
  | [] => before.reverse
  | segment :: rest =>
    if isDots 2 segment then
      walk (if rest.isEmpty then [] :: before.drop 1 else before.drop 1) rest
    else if isDots 1 segment then
      walk (if rest.isEmpty then [] :: before else before) rest
    else walk (segment :: before) rest

/-- The segments of a path that begins with a slash. -/
def segmentsOf (special : Bool) (cs : List Char) : UrlPath :=
  let relative := if cs.head?.any (isSlash special) then cs.drop 1 else cs
  let parts := Text.cutAt (isSlash special) relative
  .segments ((walk [] parts).map fun part => String.ofList (Percent.encode Percent.path part))

/-- The port of an authority, if it has one; the port of the scheme counts as none. -/
def readPort? (scheme : String) (cs : List Char) : Option (Option Nat) :=
  if cs.isEmpty then some none
  else
    (Host.readDigits? 10 cs).bind fun n =>
      if 65535 < n then none
      else if (specialPort? scheme).join = some n then some none
      else some (some n)

/-- The host and the port of an authority without user name: the last colon outside of
brackets comes before the port. -/
def splitPort (cs : List Char) : List Char × Option (List Char) :=
  let tail := cs.reverse.takeWhile fun c => c ≠ ':' && c ≠ ']'
  match cs.reverse.drop tail.length with
  | ':' :: host => (host.reverse, some tail.reverse)
  | _ => (cs, none)

/-- The host and the port of an authority. -/
def readAuthority? (scheme : String) (authority : List Char) : Option (Host × Option Nat) :=
  let cs := (authority.reverse.takeWhile (· ≠ '@')).reverse
  let (host, port?) := splitPort cs
  if host.isEmpty && (isSpecial scheme || port?.isSome || cs.length ≠ authority.length) then none
  else
    (if isSpecial scheme then Host.readSpecial? host else Host.readOpaque? host).bind fun host =>
      (readPort? scheme (port?.getD [])).map fun port? => (host, port?)

/-- A text cut before the first of some characters. -/
def cutBefore (stop : Char → Bool) (cs : List Char) : List Char × List Char :=
  (cs.takeWhile fun c => !stop c, cs.dropWhile fun c => !stop c)

/-- The query and the fragment of an address, which come after its path. -/
def withTail (special : Bool) (u : Url) (tail : List Char) : Url :=
  let (front, fragment) := cutBefore (· = '#') tail
  let querySet := if special then Percent.specialQuery else Percent.query
  { u with
    query? := match front with
      | '?' :: q => some (String.ofList (Percent.encode querySet q))
      | _ => none
    fragment? := match fragment with
      | '#' :: f => some (String.ofList (Percent.encode Percent.fragment f))
      | _ => none }

/-- Whether a character ends a path. -/
def endsPath (c : Char) : Bool := c = '?' || c = '#'

/-- An address after its authority. -/
def afterAuthority (scheme : String) (host? : Option Host) (port? : Option Nat)
    (cs : List Char) : Url :=
  let special := isSpecial scheme
  let (path, tail) := cutBefore endsPath cs
  let path := if path.isEmpty && !special then .segments [] else segmentsOf special path
  withTail special { scheme, host?, port?, path } tail

/-- An address whose authority comes next. -/
def readHierarchical? (scheme : String) (cs : List Char) : Option Url :=
  let special := isSpecial scheme
  let (authority, rest) := cutBefore (fun c => isSlash special c || endsPath c) cs
  (readAuthority? scheme authority).map fun (host, port?) =>
    afterAuthority scheme (some host) port? rest

/-- An address of a file: its host may be missing, and the own host counts as missing. -/
def readFile? (cs : List Char) : Option Url :=
  match cs with
  | a :: b :: rest =>
    if isSlash true a && isSlash true b then
      let (authority, path) := cutBefore (fun c => isSlash true c || endsPath c) rest
      if authority.isEmpty then some (afterAuthority "file" none none path)
      else (Host.readSpecial? authority).map fun host =>
        afterAuthority "file" (if host = .name "localhost" then none else some host) none path
    else some (afterAuthority "file" none none cs)
  | _ => some (afterAuthority "file" none none cs)

/-- An address of a scheme that is not special. -/
def readOther? (scheme : String) (cs : List Char) : Option Url :=
  match cs with
  | '/' :: '/' :: rest => readHierarchical? scheme rest
  | '/' :: _ => some (afterAuthority scheme none none cs)
  | _ =>
    let (path, tail) := cutBefore endsPath cs
    some (withTail false
      { scheme, path := .undivided (String.ofList (Percent.encode Percent.control path)) } tail)

/-- The address that a text is. -/
def parse? (s : String) : Option Url :=
  (splitScheme? (clean s)).bind fun (scheme, cs) =>
    if scheme = "file" then readFile? cs
    else if isSpecial scheme then readHierarchical? scheme (cs.dropWhile (isSlash true))
    else readOther? scheme cs

/-- The text of a path.  A path of segments that could be taken for an authority has a dot
in front. -/
def pathText (u : Url) : String :=
  match u.path with
  | .undivided text => text
  | .segments parts =>
    let text := String.join (parts.map fun part => "/" ++ part)
    if u.host?.isNone && u.scheme ≠ "file" && 1 < parts.length && parts.head? = some "" then
      "/." ++ text
    else text

/-- The text of an address. -/
def text (u : Url) : String :=
  let authority := match u.host? with
    | some host => "//" ++ host.text ++ (u.port?.map fun n => ":" ++ toString n).getD ""
    | none => if u.scheme = "file" then "//" else ""
  u.scheme ++ ":" ++ authority ++ pathText u ++ (u.query?.map ("?" ++ ·)).getD ""
    ++ (u.fragment?.map ("#" ++ ·)).getD ""

end Url

end VenueLink
