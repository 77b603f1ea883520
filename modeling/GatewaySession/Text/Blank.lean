/-!
# White space and occurrence

The Unicode property `White_Space` and trimming by it. The set is closed under later versions of
the standard: it has not changed since Unicode 6.3.

## Main definitions

* `Text.isBlank` — membership in `White_Space`
* `Text.trim`, `Text.trimEnd` — a text without the white space, or a given character, at its ends
* `Text.contains` — occurrence of one text in another
-/

namespace GatewaySession

namespace Text

/-- Whether a character has the Unicode property `White_Space`. -/
def isBlank (c : Char) : Bool :=
  let n := c.toNat
  (0x9 ≤ n && n ≤ 0xD) || n == 0x20 || n == 0x85 || n == 0xA0 || n == 0x1680 ||
    (0x2000 ≤ n && n ≤ 0x200A) || n == 0x2028 || n == 0x2029 || n == 0x202F || n == 0x205F ||
    n == 0x3000

/-- Drops the characters at the end that satisfy `p`. -/
def dropEndWhile (p : Char → Bool) (text : List Char) : List Char :=
  (text.reverse.dropWhile p).reverse

/-- The characters between the white space at both ends. -/
def trimChars (text : List Char) : List Char :=
  dropEndWhile isBlank (text.dropWhile isBlank)

/-- The text between the white space at both ends. -/
def trim (text : String) : String := String.ofList (trimChars text.toList)

/-- A text without the given character at its end, however often it stands there. -/
def trimEnd (c : Char) (text : String) : String :=
  String.ofList (dropEndWhile (· == c) text.toList)

/-- Whether `part` stands somewhere in a sequence of characters as a run. -/
def occursIn (part : List Char) : List Char → Bool
  | [] => part.isEmpty
  | c :: rest => part.isPrefixOf (c :: rest) || occursIn part rest

/-- Whether `part` occurs in `text` as a run of consecutive characters. -/
def contains (text part : String) : Bool := occursIn part.toList text.toList

end Text

end GatewaySession
