import VenueLink.Text.CaseTable

/-!
# Letter case

Upper-casing in full, where one character may become several, and the part of
lower-casing that can lead to a word of the basic alphabet.
-/

namespace VenueLink.Text

/-- The first index in `lo .. hi` at which `test` holds, for a `test` that stays true
once it is, and `hi` when there is none. -/
def firstIndex (test : Nat → Bool) (lo hi : Nat) : Nat :=
  if h : lo < hi then
    let mid := (lo + hi) / 2
    if test mid then firstIndex test lo mid else firstIndex test (mid + 1) hi
  else lo
termination_by hi - lo

/-- The upper-case form of one character. -/
def upperChar (c : Char) : List Char :=
  let n := c.toNat
  if n < 0x80 then [c.toUpper]
  else
    let i := firstIndex (fun k => n ≤ (upperSequences.getD k (0, [])).1) 0 upperSequences.size
    let (code, sequence) := upperSequences.getD i (0, [])
    if code = n then sequence.map Char.ofNat
    else
      let j := firstIndex (fun k => n ≤ (upperRuns.getD k (0, 0, 1, 0)).2.1) 0 upperRuns.size
      let (first, _, stride, distance) := upperRuns.getD j (n + 1, 0, 1, 0)
      if first ≤ n && (n - first) % stride = 0 then
        [Char.ofNat (n + distance).toNat]
      else [c]

/-- The text in upper case, character by character. -/
def upper (s : String) : String :=
  String.ofList (s.toList.flatMap upperChar)

/-- The lower-case form of a character, if basic letters occur in that form; every other
character stands for itself.

Lower-case text is only ever compared with words of the basic alphabet.  Apart from the
capitals of that alphabet two characters alone can lead into it, the Kelvin sign and the
dotted capital I, so the comparison has the same outcome as with every letter mapped. -/
def lowerChar (c : Char) : List Char :=
  if c = '\u212a' then ['k']
  else if c = '\u0130' then ['i', '\u0307']
  else [c.toLower]

/-- The text in lower case, as far as a comparison with a basic word can tell. -/
def lower (s : String) : String :=
  String.ofList (s.toList.flatMap lowerChar)

end VenueLink.Text
