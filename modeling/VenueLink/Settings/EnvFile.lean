import VenueLink.Settings.Lookup

/-!
# Files of variables

A file sets variables, one on each line: a name, an equals sign and a value.  Values may be
quoted, over several lines if need be, and may hold the values of other variables.  A
variable that is set already stays as it is.  Reading ends at the first line that cannot be
read.
-/

namespace VenueLink

/-- The variables that are set. -/
abbrev Environment := List (String × String)

namespace EnvFile

/-! ## Lines -/

/-- What the characters of a line so far leave open. -/
inductive LineState where
  | complete
  | blank
  | escape
  | strong
  | strongEscape
  | weak
  | weakEscape
deriving DecidableEq, Repr

/-- What is open after one more character; nothing after the sign of a comment. -/
def LineState.next? (s : LineState) (c : Char) : Option LineState :=
  let opening := if c = '\\' then escape else if c = '"' then weak
    else if c = '\'' then strong else complete
  match s with
  | .blank => if c = '#' then none else some opening
  | .complete =>
    if Text.isBlank c && c ≠ '\n' && c ≠ '\r' then some .blank else some opening
  | .escape => some .complete
  | .weak => some (if c = '\\' then .weakEscape else if c = '"' then .complete else .weak)
  | .weakEscape => some .weak
  | .strong => some (if c = '\\' then .strongEscape else if c = '\'' then .complete else .strong)
  | .strongEscape => some .strong

/-- What a line leaves open, or nothing when it ends in a comment, and the characters before
the comment. -/
def LineState.scan (s : LineState) : List Char → Option LineState × List Char
  | [] => (some s, [])
  | c :: rest =>
    match s.next? c with
    | none => (none, [])
    | some t => let (state, kept) := scan t rest; (state, c :: kept)

/-- The lines of a text, each with its line break. -/
def physicalLines : List Char → List (List Char)
  | [] => []
  | c :: rest =>
    if c = '\n' then [c] :: physicalLines rest
    else match physicalLines rest with
      | line :: lines => (c :: line) :: lines
      | [] => [[c]]

/-- Whether a line holds a comment alone. -/
def isComment (cs : List Char) : Bool :=
  (cs.dropWhile Text.isBlank).head? = some '#'

/-- A line without its line break. -/
def dropBreak (cs : List Char) : List Char :=
  match cs.reverse with
  | '\n' :: '\r' :: rest => rest.reverse
  | '\n' :: rest => rest.reverse
  | _ => cs

/-- Lines joined as long as something is open; `none` stands for a line that is still open
at the end of the file. -/
def joinLines (state : LineState) (before : List Char) :
    List (List Char) → List (Option (List Char))
  | [] => if state = .complete then [] else [none]
  | line :: rest =>
    if isComment (before ++ line) then some [] :: joinLines .complete [] rest
    else match state.scan line with
      | (none, kept) => some (before ++ kept) :: joinLines .complete [] rest
      | (some .complete, _) => some (dropBreak (before ++ line)) :: joinLines .complete [] rest
      | (some state, _) => joinLines state (before ++ line) rest

/-! ## Values -/

/-- The name of a variable in a value that is being read: after a dollar sign, or in
braces. -/
inductive Reference where
  | bare (name : List Char)
  | braced (name : List Char)
deriving DecidableEq, Repr

/-- A value that is being read. -/
structure ValueScan where
  output : List Char := []
  reference? : Option Reference := none
  strong : Bool := false
  weak : Bool := false
  escaped : Bool := false
  /-- Only blanks or a comment may follow. -/
  ended : Bool := false
  commented : Bool := false
deriving DecidableEq, Repr

namespace ValueScan

/-- Append characters. -/
def push (s : ValueScan) (cs : List Char) : ValueScan :=
  { s with output := s.output ++ cs }

/-- The character that an escaped one stands for. -/
def unescape? (c : Char) : Option Char :=
  if "\\'\"$ ".toList.contains c then some c
  else if c = 'n' then some '\n'
  else none

/-- Whether a character may stand in the name after a dollar sign. -/
def isNameChar (c : Char) : Bool := c.isAlphanum

/-- One more character in a reference. -/
def nextInReference (vars : Lookup) (s : ValueScan) (r : Reference) (c : Char) : ValueScan :=
  let value := fun (name : List Char) => ((vars (String.ofList name)).getD "").toList
  match r with
  | .bare name =>
    if isNameChar c then { s with reference? := some (.bare (name ++ [c])) }
    else if c = '\x7b' && name.isEmpty then { s with reference? := some (.braced []) }
    else
      let s := s.push (value name)
      if c = '$' then { s with reference? := some (.bare []) }
      else { s with reference? := none }.push [c]
  | .braced name =>
    if c = '\x7d' then { s with reference? := none }.push (value name)
    else { s with reference? := some (.braced (name ++ [c])) }

/-- One more character of a value. -/
def next? (vars : Lookup) (s : ValueScan) (c : Char) : Option ValueScan :=
  if s.commented then some s
  else if s.ended then
    if c = ' ' || c = '\t' then some s
    else if c = '#' then some { s with commented := true }
    else none
  else if s.escaped then (unescape? c).map fun c => { s with escaped := false }.push [c]
  else if s.strong then some (if c = '\'' then { s with strong := false } else s.push [c])
  else match s.reference? with
    | some r => some (nextInReference vars s r c)
    | none =>
      if c = '$' then some { s with reference? := some (.bare []) }
      else if c = '"' then some { s with weak := !s.weak }
      else if c = '\\' then some { s with escaped := true }
      else if s.weak then some (s.push [c])
      else if c = '\'' then some { s with strong := true }
      else if c = ' ' || c = '\t' then some { s with ended := true }
      else some (s.push [c])

/-- The value at the end of its line: quotes and braces have to be closed. -/
def finish? (vars : Lookup) (s : ValueScan) : Option String :=
  if s.strong || s.weak then none
  else match s.reference? with
    | some (.braced _) => none
    | some (.bare name) =>
      some (String.ofList (s.output ++ ((vars (String.ofList name)).getD "").toList))
    | none => some (String.ofList s.output)

end ValueScan

/-- The value that characters write. -/
def readValue? (vars : Lookup) (cs : List Char) : Option String :=
  (cs.foldlM (ValueScan.next? vars) {}).bind (ValueScan.finish? vars)

/-! ## Assignments -/

/-- A name and the text after it and after blanks. -/
def readName? (cs : List Char) : Option (String × List Char) :=
  let name := cs.takeWhile fun c => c.isAlphanum || c = '_' || c = '.'
  match name with
  | c :: _ =>
    if c.isAlpha || c = '_' then
      some (String.ofList name, (cs.drop name.length).dropWhile Text.isBlank)
    else none
  | [] => none

/-- The name of an assignment, which may have the word `export` in front, and the text after
the equals sign. -/
def readTarget? (cs : List Char) : Option (String × List Char) :=
  (readName? cs).bind fun (name, rest) =>
    match rest with
    | '=' :: value => some (name, value)
    | _ =>
      if name = "export" then
        (readName? rest).bind fun (name, rest) => match rest with
          | '=' :: value => some (name, value)
          | _ => none
      else none

/-- Whether nothing stands on a line, or only a comment. -/
def isVoid (cs : List Char) : Bool :=
  cs.isEmpty || cs.head? = some '#'

/-- The assignment on a line, if there is one; no result when the line cannot be read. -/
def readLine? (vars : Lookup) (line : List Char) : Option (Option (String × String)) :=
  let cs := Text.trimChars line
  if isVoid cs then some none
  else (readTarget? cs).bind fun (name, value) =>
    let value := value.dropWhile Text.isBlank
    if isVoid value then some (some (name, ""))
    else (readValue? vars value).map fun value => some (name, value)

/-- A lookup in the variables set, and then in those that a file assigned. -/
def sees (env assigned : Environment) : Lookup :=
  fun name => (env.lookup name).or (assigned.lookup name)

/-- Carry out the lines of a file, and tell whether all could be read. -/
def loadLines (env assigned : Environment) : List (Option (List Char)) → Environment × Bool
  | [] => (env, true)
  | none :: _ => (env, false)
  | some line :: rest =>
    match readLine? (sees env assigned) line with
    | none => (env, false)
    | some none => loadLines env assigned rest
    | some (some (name, value)) =>
      let env := if (env.lookup name).isSome then env else env ++ [(name, value)]
      loadLines env ((name, value) :: assigned) rest

/-- A text without the mark of its byte order. -/
def dropMark (cs : List Char) : List Char :=
  match cs with
  | '\ufeff' :: rest => rest
  | _ => cs

/-- Load a file, and tell whether all its lines could be read. -/
def load (env : Environment) (text : String) : Environment × Bool :=
  loadLines env [] (joinLines .complete [] (physicalLines (dropMark text.toList)))

/-- The names that may occur in a text: runs of the characters that names are made of. -/
def mentions (text : String) : List String :=
  let runs := fun (inName : Char → Bool) =>
    (text.toList.splitBy fun a b => inName a && inName b).filter fun run => run.all inName
  (runs ValueScan.isNameChar ++ runs fun c => c.isAlphanum || c = '_' || c = '.').map String.ofList

/-- The files that are looked for, from a directory outwards. -/
def places (directory : String) : List String :=
  let parts := (directory.splitOn "/").filter (· ≠ "")
  (List.range (parts.length + 1)).reverse.map fun n =>
    "/" ++ String.join ((parts.take n).map fun part => part ++ "/") ++ ".env"

/-- Load the files of some directories, the innermost first: the first one there is, and
when that fails the first one of the directories around the innermost. -/
def loadNearest (env : Environment) (texts : List (Option String)) : Environment :=
  match texts.findSome? id with
  | none => env
  | some text =>
    let (env, ok) := load env text
    if ok then env
    else match (texts.drop 1).findSome? id with
      | none => env
      | some text => (load env text).1

end EnvFile

end VenueLink
