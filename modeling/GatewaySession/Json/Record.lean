import GatewaySession.Json.Basic

/-!
# Records in JSON

A record has named fields in a fixed order. It is read from an object, where members with other
names are ignored and a field given twice is an error, or from an array of its fields in that
order, which may be cut short but not run over. A field that is missing from an object and one that
is cut off from an array are told apart: an optional field without a default may be missing, but an
array must reach it.

Ignored members are not interpreted at all, so they may nest deeper, hold larger numbers and contain
worse strings than a value may.

## Main definitions

* `Json.Slot` — what a record has for a field
* `Json.Document.slots?` — the slots of the fields, in order
* `Json.Slot.required`, `Json.Slot.optional`, `Json.Slot.defaulted` — what may be left out
-/

namespace GatewaySession

namespace Json

/-- What a record has for a field. -/
inductive Slot where
  /-- The field is there. -/
  | given (document : Document)
  /-- The object has no such member. -/
  | missing
  /-- The array ended before the field. -/
  | cutOff

namespace Document

/-- The slot of one field among the members of an object; none if it is there twice. -/
def slotOf? (members : List (String × Document)) (name : String) : Option Slot :=
  match members.filter fun member => member.1 == name with
  | [] => some .missing
  | [(_, document)] => some (.given document)
  | _ => none

/-- The members of an object with their names decoded. -/
def named? (members : List (Bytes × Document)) : Option (List (String × Document)) :=
  members.mapM fun (name, document) => (textOfBody? name).map fun text => (text, document)

/-- The slots of the fields with the given names. -/
def slots? (names : List String) : Document → Option (List Slot)
  | .array items =>
    if items.length ≤ names.length then
      some (items.map .given ++ List.replicate (names.length - items.length) .cutOff)
    else none
  | .object members => do
    let members ← named? members
    names.mapM (slotOf? members)
  | _ => none

/-! ### Single fields -/

/-- A text. -/
def text? : Document → Option String
  | .string body => textOfBody? body
  | _ => none

/-- A truth value. -/
def bool? : Document → Option Bool
  | .bool value => some value
  | _ => none

/-- An integer. -/
def integer? : Document → Option Int
  | .number numeral => numeral.integer?
  | _ => none

/-- A 64-bit integer with sign. -/
def int64? (document : Document) : Option Int64 := document.integer?.bind Decimal.toInt64?

/-- An unsigned integer below a bound. -/
def natBelow? (bound : Nat) (document : Document) : Option Nat :=
  document.integer?.bind fun n => if 0 ≤ n ∧ n < bound then some n.toNat else none

/-- A 16-bit integer without sign. -/
def uint16? (document : Document) : Option UInt16 :=
  (document.natBelow? UInt16.size).map UInt16.ofNat

/-- A 64-bit integer without sign. -/
def uint64? (document : Document) : Option UInt64 :=
  (document.natBelow? UInt64.size).map UInt64.ofNat

/-- A list of texts. -/
def texts? : Document → Option (List String)
  | .array items => items.mapM text?
  | _ => none

/-- A map from texts to texts; the last of several members with one name counts. -/
def textTable? : Document → Option (Table String)
  | .object members => do
    let members ← named? members
    let entries ← members.mapM fun (name, document) => document.text?.map fun text => (name, text)
    some (Table.ofList entries)
  | _ => none

end Document

namespace Slot

variable {α : Type}

/-- A field that must be there. -/
def required (read : Document → Option α) : Slot → Option α
  | given document => read document
  | missing => none
  | cutOff => none

/-- A field that may be `null`. -/
def nullable (read : Document → Option α) : Document → Option (Option α)
  | .null => some none
  | document => (read document).map some

/-- A field that may be `null` or missing, but that an array must reach. -/
def optional (read : Document → Option α) : Slot → Option (Option α)
  | given document => nullable read document
  | missing => some none
  | cutOff => none

/-- A field with a value of its own when it is left out. -/
def defaulted (value : α) (read : Document → Option α) : Slot → Option α
  | given document => read document
  | missing => some value
  | cutOff => some value

end Slot

end Json

end GatewaySession
