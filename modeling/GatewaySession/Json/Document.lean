import GatewaySession.Bytes

/-!
# JSON documents as written

The reader is a pushdown automaton that consumes one octet at a time and builds the tree of the
document *as written*: numbers keep their digits, strings keep their octets with all escapes. It
checks the grammar and nothing else. What a number or a string means, and how deep a value may nest,
is settled where the tree is interpreted, because a member nobody asks for is checked for grammar
only.

Feeding octets is a fold, so reading a concatenation is reading its parts one after the other; there
is no recursion on the text and hence no limit on nesting here.

## Main definitions

* `Json.Numeral`, `Json.Document` — the tree as written
* `Json.Document.step` — the automaton
* `Json.Document.parse?` — a whole text, with white space around it and nothing after it
-/

namespace GatewaySession

namespace Json

/-- A number as written. Digits are ASCII octets; an empty fraction or exponent means that there is
none. -/
structure Numeral where
  /-- Whether a minus sign stands in front. -/
  negative : Bool
  /-- Digits before the point. -/
  whole : Bytes
  /-- Digits after the point. -/
  fraction : Bytes
  /-- Whether the exponent has a minus sign. -/
  exponentNegative : Bool
  /-- Digits of the exponent. -/
  exponent : Bytes

/-- A JSON text as a tree. Strings, also those that name members, are their octets between the
quotation marks. -/
inductive Document where
  | null
  | bool (value : Bool)
  | number (numeral : Numeral)
  | string (body : Bytes)
  | array (items : List Document)
  | object (members : List (Bytes × Document))

namespace Document

instance : Inhabited Document := ⟨null⟩

/-! ### States of the reader -/

/-- A value under construction around the current one; items and members are kept in reverse. -/
inductive Frame
  /-- An array with the items so far. -/
  | array (items : List Document)
  /-- An object between members. -/
  | object (members : List (Bytes × Document))
  /-- An object that waits for the value of a member. -/
  | member (members : List (Bytes × Document)) (key : Bytes)

/-- Where a string stands. -/
inductive Role
  | key
  | value

/-- How far a number has been read. -/
inductive Phase
  /-- After the minus sign. -/
  | minus
  /-- After a leading zero, which no digit follows. -/
  | zero
  /-- Among the digits before the point. -/
  | whole
  /-- After the point. -/
  | point
  /-- Among the digits after the point. -/
  | fraction
  /-- After the exponent mark. -/
  | mark
  /-- After the sign of the exponent. -/
  | markSign
  /-- Among the digits of the exponent. -/
  | exponent

/-- What the next octet belongs to. -/
inductive Mode
  /-- A value begins. -/
  | value
  /-- A value begins, or the array ends. -/
  | valueOrEnd
  /-- A member name begins. -/
  | key
  /-- A member name begins, or the object ends. -/
  | keyOrEnd
  /-- The colon after a member name. -/
  | colon (name : Bytes)
  /-- A comma or the end of the innermost array or object. -/
  | separator
  /-- The document is complete. -/
  | complete (document : Document)
  /-- Inside a string, octets in reverse. -/
  | string (role : Role) (body : Bytes)
  /-- After a backslash. -/
  | escape (role : Role) (body : Bytes)
  /-- Inside a four-digit escape. -/
  | hex (role : Role) (left : Nat) (body : Bytes)
  /-- Inside a number. -/
  | number (phase : Phase) (numeral : Numeral)
  /-- Inside a literal name, with the octets still to come. -/
  | word (rest : Bytes) (document : Document)

/-- The mode with the values around the current one, innermost first. -/
structure State where
  /-- What the next octet belongs to. -/
  mode : Mode
  /-- The values under construction. -/
  frames : List Frame

/-! ### Octet classes -/

/-- The four octets of white space. -/
def isSpace (b : UInt8) : Bool := b == 0x20 || b == 0x0A || b == 0x0D || b == 0x09

/-- A decimal digit. -/
def isDigit (b : UInt8) : Bool := 0x30 ≤ b && b ≤ 0x39

/-- A hexadecimal digit of either case. -/
def isHexDigit (b : UInt8) : Bool :=
  isDigit b || (0x41 ≤ b && b ≤ 0x46) || (0x61 ≤ b && b ≤ 0x66)

/-- An octet that may follow a backslash on its own: one of `" \ / b f n r t`. -/
def isEscape (b : UInt8) : Bool :=
  b == 0x22 || b == 0x5C || b == 0x2F || b == 0x62 || b == 0x66 || b == 0x6E || b == 0x72 ||
    b == 0x74

/-! ### Steps -/

/-- Hands a finished value to the innermost frame. -/
def deliver (document : Document) : List Frame → Option State
  | [] => some ⟨.complete document, []⟩
  | .array items :: frames => some ⟨.separator, .array (document :: items) :: frames⟩
  | .member members key :: frames =>
    some ⟨.separator, .object ((key, document) :: members) :: frames⟩
  | .object _ :: _ => none

/-- Begins a value. -/
def beginValue (frames : List Frame) (b : UInt8) : Option State :=
  if b == 0x22 then some ⟨.string .value [], frames⟩
  else if b == 0x5B then some ⟨.valueOrEnd, .array [] :: frames⟩
  else if b == 0x7B then some ⟨.keyOrEnd, .object [] :: frames⟩
  else if b == 0x2D then some ⟨.number .minus ⟨true, [], [], false, []⟩, frames⟩
  else if b == 0x30 then some ⟨.number .zero ⟨false, [b], [], false, []⟩, frames⟩
  else if isDigit b then some ⟨.number .whole ⟨false, [b], [], false, []⟩, frames⟩
  else if b == 0x6E then some ⟨.word [0x75, 0x6C, 0x6C] .null, frames⟩
  else if b == 0x74 then some ⟨.word [0x72, 0x75, 0x65] (.bool true), frames⟩
  else if b == 0x66 then some ⟨.word [0x61, 0x6C, 0x73, 0x65] (.bool false), frames⟩
  else none

/-- The end of the innermost array or object. -/
def close (frames : List Frame) (b : UInt8) : Option State :=
  match frames with
  | .array items :: frames => if b == 0x5D then deliver (.array items.reverse) frames else none
  | .object members :: frames =>
    if b == 0x7D then deliver (.object members.reverse) frames else none
  | _ => none

/-- A comma, or the end of the innermost array or object. -/
def separate (frames : List Frame) (b : UInt8) : Option State :=
  if b == 0x2C then
    match frames with
    | .array items :: frames => some ⟨.value, .array items :: frames⟩
    | .object members :: frames => some ⟨.key, .object members :: frames⟩
    | _ => none
  else close frames b

/-- The closing quotation mark of a string. -/
def endString (frames : List Frame) (role : Role) (body : Bytes) : Option State :=
  match role with
  | .value => deliver (.string body) frames
  | .key => some ⟨.colon body, frames⟩

/-- Continues a number, if the octet can. -/
def Phase.advance (numeral : Numeral) (b : UInt8) : Phase → Option (Phase × Numeral)
  | .minus =>
    if b == 0x30 then some (.zero, { numeral with whole := [b] })
    else if isDigit b then some (.whole, { numeral with whole := [b] })
    else none
  | .zero =>
    if b == 0x2E then some (.point, numeral)
    else if b == 0x65 || b == 0x45 then some (.mark, numeral)
    else none
  | .whole =>
    if isDigit b then some (.whole, { numeral with whole := numeral.whole ++ [b] })
    else if b == 0x2E then some (.point, numeral)
    else if b == 0x65 || b == 0x45 then some (.mark, numeral)
    else none
  | .point =>
    if isDigit b then some (.fraction, { numeral with fraction := [b] }) else none
  | .fraction =>
    if isDigit b then some (.fraction, { numeral with fraction := numeral.fraction ++ [b] })
    else if b == 0x65 || b == 0x45 then some (.mark, numeral)
    else none
  | .mark =>
    if b == 0x2B then some (.markSign, numeral)
    else if b == 0x2D then some (.markSign, { numeral with exponentNegative := true })
    else if isDigit b then some (.exponent, { numeral with exponent := [b] })
    else none
  | .markSign =>
    if isDigit b then some (.exponent, { numeral with exponent := [b] }) else none
  | .exponent =>
    if isDigit b then some (.exponent, { numeral with exponent := numeral.exponent ++ [b] })
    else none

/-- Whether a number may end here. -/
def Phase.isFinal : Phase → Bool
  | .zero | .whole | .fraction | .exponent => true
  | .minus | .point | .mark | .markSign => false

/-- One octet after a complete value. -/
def stepAfterValue (state : State) (b : UInt8) : Option State :=
  match state.mode with
  | .separator => if isSpace b then some state else separate state.frames b
  | .complete _ => if isSpace b then some state else none
  | _ => none

/-- One octet. -/
def step (state : State) (b : UInt8) : Option State :=
  match state.mode with
  | .value => if isSpace b then some state else beginValue state.frames b
  | .valueOrEnd =>
    if isSpace b then some state
    else if b == 0x5D then close state.frames b
    else beginValue state.frames b
  | .key =>
    if isSpace b then some state
    else if b == 0x22 then some ⟨.string .key [], state.frames⟩
    else none
  | .keyOrEnd =>
    if isSpace b then some state
    else if b == 0x22 then some ⟨.string .key [], state.frames⟩
    else close state.frames b
  | .colon name =>
    if isSpace b then some state
    else if b == 0x3A then
      match state.frames with
      | .object members :: frames => some ⟨.value, .member members name :: frames⟩
      | _ => none
    else none
  | .separator | .complete _ => stepAfterValue state b
  | .string role body =>
    if b == 0x22 then endString state.frames role body.reverse
    else if b == 0x5C then some ⟨.escape role (b :: body), state.frames⟩
    else if b < 0x20 then none
    else some ⟨.string role (b :: body), state.frames⟩
  | .escape role body =>
    if isEscape b then some ⟨.string role (b :: body), state.frames⟩
    else if b == 0x75 then some ⟨.hex role 4 (b :: body), state.frames⟩
    else none
  | .hex role left body =>
    if isHexDigit b then
      if left ≤ 1 then some ⟨.string role (b :: body), state.frames⟩
      else some ⟨.hex role (left - 1) (b :: body), state.frames⟩
    else none
  | .number phase numeral =>
    match phase.advance numeral b with
    | some (phase, numeral) => some ⟨.number phase numeral, state.frames⟩
    | none =>
      if phase.isFinal then
        (deliver (.number numeral) state.frames).bind fun state => stepAfterValue state b
      else none
  | .word rest document =>
    match rest with
    | [] => none
    | [last] => if b == last then deliver document state.frames else none
    | first :: rest => if b == first then some ⟨.word rest document, state.frames⟩ else none

/-! ### Whole texts -/

/-- Feeds octets to the reader. -/
def feed (state : State) (text : Bytes) : Option State := text.foldlM step state

/-- The document of a state in which the text may end. -/
def finish? (state : State) : Option Document :=
  match state.mode with
  | .complete document => some document
  | .number phase numeral =>
    if phase.isFinal ∧ state.frames.isEmpty then some (.number numeral) else none
  | _ => none

/-- Reads a whole text. -/
def parse? (text : Bytes) : Option Document := (feed ⟨.value, []⟩ text).bind finish?

end Document

end Json

end GatewaySession
