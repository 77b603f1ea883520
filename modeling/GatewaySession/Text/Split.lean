/-!
# Splitting at a separator

The pieces of a text between occurrences of a character. There is one piece more than there are
separators, and joining the pieces with the separator gives the text back.

## Main definitions

* `Text.splitChars`, `Text.split` — the pieces
-/

namespace GatewaySession

namespace Text

/-- The pieces of a text between separators. -/
def splitChars (separator : Char) : List Char → List (List Char)
  | [] => [[]]
  | c :: rest =>
    if c = separator then [] :: splitChars separator rest
    else
      match splitChars separator rest with
      | piece :: pieces => (c :: piece) :: pieces
      | [] => [[c]]

/-- The pieces of a text between separators. -/
def split (separator : Char) (text : String) : List String :=
  (splitChars separator text.toList).map String.ofList

end Text

end GatewaySession
