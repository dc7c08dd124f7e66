/-!
# Texts in pieces

A text is cut at every character of a class, and these characters are left out.
-/

namespace VenueLink.Text

/-- The pieces of a text between the characters of a class. -/
def cutAt (isSeparator : Char → Bool) : List Char → List (List Char)
  | [] => [[]]
  | c :: rest =>
    if isSeparator c then [] :: cutAt isSeparator rest
    else match cutAt isSeparator rest with
      | piece :: pieces => (c :: piece) :: pieces
      | [] => [[c]]

end VenueLink.Text
