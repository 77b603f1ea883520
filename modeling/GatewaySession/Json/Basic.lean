import GatewaySession.Json.Document
import GatewaySession.Number.Decimal
import GatewaySession.Number.Shortest
import GatewaySession.Table
import GatewaySession.Text.Utf8

/-!
# JSON values

A value is what a document means: text without escapes, numbers as integers or doubles, objects with
each name once. Integers are those written without fraction and exponent that fit 64 bits with or
without sign; every other number, also a negative zero, is a double.

Reading a value from a document rejects what has no meaning: a string that is not UTF-8 or holds
half of a surrogate pair, a number too large for a double, more than 127 nested arrays and objects.
In an object the last of several members with one name counts, and names are kept in ascending
order.

## Main definitions

* `Json.Value` — values
* `Json.Document.text?`, `Json.Numeral.value?` — what strings and numbers mean
* `Json.Document.value?`, `Json.parse?` — reading
* `Json.Value.render`, `Json.renderLines` — writing, compact, and one member on each line
-/

namespace GatewaySession

namespace Json

/-- A JSON value. Members of an object are in the order in which they are written. -/
inductive Value where
  | null
  | bool (value : Bool)
  | integer (n : Int)
  /-- A finite double, by its bits. -/
  | float (bits : UInt64)
  | string (text : String)
  | array (items : List Value)
  | object (members : List (String × Value))

namespace Value

instance : Inhabited Value := ⟨null⟩

/-- The value of a member of an object. -/
def get? (name : String) : Value → Option Value
  | object members => Table.findValue? name members
  | _ => none

/-- The text of a string value. -/
def text? : Value → Option String
  | string text => some text
  | _ => none

/-- Whether the value is an object. -/
def isObject : Value → Bool
  | object _ => true
  | _ => false

end Value

/-! ### What strings mean -/

/-- The number of four hexadecimal digits. -/
def unitOfHex? (a b c d : Char) : Option Nat := do
  let a ← hexValue? a
  let b ← hexValue? b
  let c ← hexValue? c
  let d ← hexValue? d
  return ((a * 16 + b) * 16 + c) * 16 + d

/-- The character that a letter after a backslash stands for. -/
def escaped? : Char → Option Char
  | '"' => some '"'
  | '\\' => some '\\'
  | '/' => some '/'
  | 'b' => some '\x08'
  | 'f' => some '\x0c'
  | 'n' => some '\n'
  | 'r' => some '\r'
  | 't' => some '\t'
  | _ => none

/-- Resolves escapes. Four-digit escapes are UTF-16 units, so the upper half of a surrogate pair
must be followed by an escaped lower half, and no half may stand alone. -/
def unescape? : List Char → Option (List Char)
  | [] => some []
  | '\\' :: 'u' :: a :: b :: c :: d :: rest => do
    let unit ← unitOfHex? a b c d
    if 0xD800 ≤ unit ∧ unit < 0xDC00 then
      match rest with
      | '\\' :: 'u' :: a' :: b' :: c' :: d' :: rest' => do
        let low ← unitOfHex? a' b' c' d'
        if 0xDC00 ≤ low ∧ low < 0xE000 then
          let tail ← unescape? rest'
          some (Char.ofNat (0x10000 + (unit - 0xD800) * 0x400 + (low - 0xDC00)) :: tail)
        else none
      | _ => none
    else if 0xDC00 ≤ unit ∧ unit < 0xE000 then none
    else
      let tail ← unescape? rest
      some (Char.ofNat unit :: tail)
  | '\\' :: c :: rest => do
    let c ← escaped? c
    let tail ← unescape? rest
    some (c :: tail)
  | ['\\'] => none
  | c :: rest => (unescape? rest).map (c :: ·)

/-- The text that the octets of a string stand for. -/
def textOfBody? (body : Bytes) : Option String :=
  ((Utf8.decodeChars? body).bind unescape?).map String.ofList

/-! ### What numbers mean -/

namespace Numeral

/-- Largest significand that is kept exactly. -/
def maxSignificand : Nat := UInt64.size - 1

/-- Appends digits to a significand as long as it stays within 64 bits; returns it with the number
of digits that did not fit any more. -/
def absorb (significand : Nat) : Bytes → Nat × Nat
  | [] => (significand, 0)
  | digit :: rest =>
    let next := significand * 10 + (digit.toNat - 0x30)
    if next ≤ maxSignificand then absorb next rest else (significand, rest.length + 1)

/-- The number of a run of digits. -/
def natOfDigits (digits : Bytes) : Nat :=
  digits.foldl (fun n digit => n * 10 + (digit.toNat - 0x30)) 0

/-- The power of ten that the exponent adds. -/
def power (numeral : Numeral) : Int :=
  if numeral.exponentNegative then -(natOfDigits numeral.exponent : Int)
  else natOfDigits numeral.exponent

/-- Whether neither fraction nor exponent is written. -/
def isWhole (numeral : Numeral) : Bool := numeral.fraction.isEmpty && numeral.exponent.isEmpty

/-- The magnitude code of a number read as a double. Digits beyond the first nineteen or twenty are
dropped; those before the point still count for the power of ten. -/
def code? (numeral : Numeral) : Option Nat :=
  let (whole, dropped) := absorb 0 numeral.whole
  let (significand, rest) := absorb whole numeral.fraction
  let places := numeral.fraction.length - rest
  Binary64.ofDecimal? significand ((dropped : Int) - places + numeral.power)

/-- The integer of a number, if it is written as one and fits 64 bits. Negative zero is none. -/
def integer? (numeral : Numeral) : Option Int :=
  let (n, dropped) := absorb 0 numeral.whole
  if !numeral.isWhole || dropped != 0 then none
  else if !numeral.negative then some n
  else if n = 0 ∨ UInt64.size / 2 < n then none
  else some (-(n : Int))

/-- The value of a number, if a double can hold it. -/
def value? (numeral : Numeral) : Option Value :=
  match numeral.integer? with
  | some n => some (.integer n)
  | none => numeral.code?.map fun code => .float (Binary64.bits numeral.negative code)

end Numeral

/-! ### Reading -/

/-- How deep arrays and objects may nest in a value. -/
def maxDepth : Nat := 127

namespace Document

mutual

/-- The value of a document, with a budget for nesting. -/
def valueWithin? (depth : Nat) : Document → Option Value
  | .null => some .null
  | .bool value => some (.bool value)
  | .number numeral => numeral.value?
  | .string body => (textOfBody? body).map .string
  | .array items =>
    match depth with
    | 0 => none
    | depth + 1 => (itemsWithin? depth items).map .array
  | .object members =>
    match depth with
    | 0 => none
    | depth + 1 => (membersWithin? depth members).map fun members =>
        .object (Table.ofList members).entries

/-- The values of items. -/
def itemsWithin? (depth : Nat) : List Document → Option (List Value)
  | [] => some []
  | item :: rest => do
    let value ← valueWithin? depth item
    let values ← itemsWithin? depth rest
    some (value :: values)

/-- The names and values of members. -/
def membersWithin? (depth : Nat) : List (Bytes × Document) → Option (List (String × Value))
  | [] => some []
  | (name, document) :: rest => do
    let text ← textOfBody? name
    let value ← valueWithin? depth document
    let values ← membersWithin? depth rest
    some ((text, value) :: values)

end

/-- The value of a document. -/
def value? (document : Document) : Option Value := valueWithin? maxDepth document

end Document

/-- The value of a text in UTF-8. -/
def parse? (text : Bytes) : Option Value := (Document.parse? text).bind Document.value?

/-! ### Writing -/

/-- A character inside a string. Only what the grammar forbids is escaped. -/
def escapeChar (c : Char) : List Char :=
  if c = '"' then ['\\', '"']
  else if c = '\\' then ['\\', '\\']
  else if c = '\x08' then ['\\', 'b']
  else if c = '\x0c' then ['\\', 'f']
  else if c = '\n' then ['\\', 'n']
  else if c = '\r' then ['\\', 'r']
  else if c = '\t' then ['\\', 't']
  else if c.toNat < 0x20 then
    ['\\', 'u', '0', '0', hexDigit (c.toNat / 16), hexDigit (c.toNat % 16)]
  else [c]

/-- A string with its quotation marks. -/
def renderString (text : String) : List Char :=
  '"' :: text.toList.flatMap escapeChar ++ ['"']

namespace Value

mutual

/-- The compact text of a value. -/
def renderChars : Value → List Char
  | .null => ['n', 'u', 'l', 'l']
  | .bool true => ['t', 'r', 'u', 'e']
  | .bool false => ['f', 'a', 'l', 's', 'e']
  | .integer n => Decimal.intDigits n
  | .float bits => Shortest.text bits
  | .string text => renderString text
  | .array [] => ['[', ']']
  | .array (item :: rest) => '[' :: renderChars item ++ renderItems rest ++ [']']
  | .object [] => ['\x7b', '\x7d']
  | .object ((name, value) :: rest) =>
    '\x7b' :: renderString name ++ ':' :: renderChars value ++ renderMembers rest ++ ['\x7d']

/-- Items after the first, each with its comma. -/
def renderItems : List Value → List Char
  | [] => []
  | item :: rest => ',' :: renderChars item ++ renderItems rest

/-- Members after the first, each with its comma. -/
def renderMembers : List (String × Value) → List Char
  | [] => []
  | (name, value) :: rest =>
    ',' :: renderString name ++ ':' :: renderChars value ++ renderMembers rest

end

/-- The compact text of a value. -/
def render (value : Value) : String := String.ofList value.renderChars

/-- The compact text of a value in UTF-8. -/
def encode (value : Value) : Bytes := Utf8.encodeChars value.renderChars

end Value

/-- A member on a line of its own, indented by two spaces. -/
def renderLine (entry : String × String) : List Char :=
  '\n' :: ' ' :: ' ' :: renderString entry.1 ++ ':' :: ' ' :: renderString entry.2

/-- Lines after the first, each with the comma before it. -/
def renderLinesAfter : List (String × String) → List Char
  | [] => []
  | entry :: rest => ',' :: renderLine entry ++ renderLinesAfter rest

/-- An object of texts with each member on its own line. -/
def renderLines (table : Table String) : List Char :=
  match table.entries with
  | [] => ['\x7b', '\x7d']
  | entry :: rest => '\x7b' :: renderLine entry ++ renderLinesAfter rest ++ ['\n', '\x7d']

end Json

end GatewaySession
