import GatewaySession.Proofs.Json.Scalar
import GatewaySession.Proofs.Table

/-!
# Reading the values that were written

A written value is followed by an octet that no number contains: a comma or the end of the array or
object around it. So wherever a value may begin, the reader takes the written value in one piece and
hands it on before it looks at that octet. The induction is on the value. What the reader has
already finished of an array or object is in the innermost frame, in reverse.

Not every value has one meaning. A double is written in its shortest form, of which nothing is said
here; a value without doubles is *whole*. A whole value is *exact* within a budget for nesting if
its integers fit 64 bits, with or without sign, and every object in it has its members in order.
What is written for an exact value means that value again.

## Main definitions

* `Json.Value.IsWhole` — no doubles
* `Json.Value.IsExact` — no doubles, and within what the reader keeps
* `Json.documentOf`, `Json.memberOf` — what is written for a value and for a member
* `Json.Value.IsRead` — the reader takes a written value in one piece

## Main results

* `Json.Value.IsWhole.isRead` — the grammar, for whole values
* `Json.Document.parse?_object` — the document of a written object
* `Json.Document.valueWithin?_documentOf` — the meaning of what is written for an exact value
* `Json.parse?_encode` — an exact object is read as it was written
-/

namespace GatewaySession

namespace Json

namespace Value

/-- Whether a value has no doubles in it. -/
inductive IsWhole : Value → Prop
  | null : IsWhole .null
  | bool (value : Bool) : IsWhole (.bool value)
  | integer (n : Int) : IsWhole (.integer n)
  | string (text : String) : IsWhole (.string text)
  | array {items : List Value} (items_whole : ∀ item ∈ items, IsWhole item) :
      IsWhole (.array items)
  | object {members : List (String × Value)}
      (members_whole : ∀ member ∈ members, IsWhole member.2) :
      IsWhole (.object members)

attribute [simp] IsWhole.null IsWhole.bool IsWhole.integer IsWhole.string

/-- Whether a value has no doubles in it, nests no deeper than the budget, and is within what the
reader keeps: integers of 64 bits with or without sign, and the members of each object in ascending
order of their names. -/
inductive IsExact : Nat → Value → Prop
  | null {depth : Nat} : IsExact depth .null
  | bool {depth : Nat} (value : Bool) : IsExact depth (.bool value)
  | integer {depth : Nat} {n : Int} (least : -9223372036854775808 ≤ n)
      (most : n < 18446744073709551616) : IsExact depth (.integer n)
  | string {depth : Nat} (text : String) : IsExact depth (.string text)
  | array {depth : Nat} {items : List Value} (items_exact : ∀ item ∈ items, IsExact depth item) :
      IsExact (depth + 1) (.array items)
  | object {depth : Nat} {members : List (String × Value)}
      (ascending : members.Pairwise fun a b => a.1 < b.1)
      (members_exact : ∀ member ∈ members, IsExact depth member.2) :
      IsExact (depth + 1) (.object members)

theorem IsExact.isWhole {depth : Nat} {value : Value} (exact : value.IsExact depth) :
    value.IsWhole := by
  induction exact with
  | null => exact .null
  | bool value => exact .bool value
  | integer => exact .integer _
  | string text => exact .string text
  | array _ ih => exact .array ih
  | object _ _ ih => exact .object ih

end Value

/-! ### What is written -/

mutual

/-- What is written for a value without doubles. -/
def documentOf : Value → Document
  | .null => .null
  | .bool value => .bool value
  | .integer n => .number (numeralOf n)
  | .float _ => .null
  | .string text => .string (bodyOf text)
  | .array items => .array (documentsOf items)
  | .object members => .object (memberDocumentsOf members)

/-- What is written for items. -/
def documentsOf : List Value → List Document
  | [] => []
  | item :: rest => documentOf item :: documentsOf rest

/-- What is written for members. -/
def memberDocumentsOf : List (String × Value) → List (Bytes × Document)
  | [] => []
  | (name, value) :: rest => (bodyOf name, documentOf value) :: memberDocumentsOf rest

end

/-- What is written for a member. -/
def memberOf (member : String × Value) : Bytes × Document := (bodyOf member.1, documentOf member.2)

theorem documentsOf_eq_map (items : List Value) : documentsOf items = items.map documentOf := by
  induction items with
  | nil => rfl
  | cons item items ih => rw [documentsOf, ih, List.map_cons]

theorem memberDocumentsOf_eq_map (members : List (String × Value)) :
    memberDocumentsOf members = members.map memberOf := by
  induction members with
  | nil => rfl
  | cons member members ih => rw [memberDocumentsOf, ih, List.map_cons, memberOf]

@[simp] theorem documentOf_array (items : List Value) :
    documentOf (.array items) = .array (items.map documentOf) := by
  rw [documentOf, documentsOf_eq_map]

@[simp] theorem documentOf_object (members : List (String × Value)) :
    documentOf (.object members) = .object (members.map memberOf) := by
  rw [documentOf, memberDocumentsOf_eq_map]

/-! ### The grammar -/

namespace Document

/-- Whether a text begins with an octet that no number contains. -/
def IsEnding (text : Bytes) : Prop := ∃ b rest, text = b :: rest ∧ Ends b

theorem isEnding_items (items : List Value) :
    IsEnding (Utf8.encodeChars (Value.renderItems items) ++ [0x5D]) := by
  cases items with
  | nil => exact ⟨0x5D, [], rfl, rfl, rfl, rfl⟩
  | cons item items => exact ⟨0x2C, _, rfl, rfl, rfl, rfl⟩

theorem isEnding_members (members : List (String × Value)) :
    IsEnding (Utf8.encodeChars (Value.renderMembers members) ++ [0x7D]) := by
  cases members with
  | nil => exact ⟨0x7D, [], rfl, rfl, rfl, rfl⟩
  | cons member members => exact ⟨0x2C, _, rfl, rfl, rfl, rfl⟩

/-- A finished value is followed by what may follow a value. -/
theorem deliver_bind_step (document : Document) (frames : List Frame) (b : UInt8) :
    ((deliver document frames).bind fun state => step state b) =
      (deliver document frames).bind fun state => stepAfterValue state b := by
  match frames with
  | [] => rfl
  | .array _ :: _ => rfl
  | .object _ :: _ => rfl
  | .member _ _ :: _ => rfl

end Document

open Document

namespace Value

/-- Whether the reader takes a written value in one piece, wherever a value may begin. -/
structure IsRead (value : Value) : Prop where
  /-- The first octet is no white space and ends no array. -/
  begins : ∃ b text, value.encode = b :: text ∧ isSpace b = false ∧ (b == 0x5D) = false
  /-- The text after it finds the value handed on. -/
  fed : ∀ (frames : List Frame) {rest : Bytes}, IsEnding rest →
    feed ⟨.value, frames⟩ (value.encode ++ rest) =
      (deliver (documentOf value) frames).bind fun state => feed state rest

namespace IsRead

/-- Where the first item of an array may begin, the reader does as where any value may. -/
theorem fed_first {value : Value} (read : value.IsRead) (frames : List Frame) (rest : Bytes) :
    feed ⟨.valueOrEnd, frames⟩ (value.encode ++ rest) =
      feed ⟨.value, frames⟩ (value.encode ++ rest) := by
  obtain ⟨b, text, written, notSpace, notEnd⟩ := read.begins
  rw [written, List.cons_append, feed_cons, feed_cons]
  simp only [step, notSpace, notEnd, Bool.false_eq_true, if_false]

/-- Every value but a number is handed on with its last octet already. -/
theorem of_deliver {value : Value}
    (begins : ∃ b text, value.encode = b :: text ∧ isSpace b = false ∧ (b == 0x5D) = false)
    (taken : ∀ frames : List Frame,
      feed ⟨.value, frames⟩ value.encode = deliver (documentOf value) frames) : value.IsRead where
  begins := begins
  fed frames _ _ := by rw [feed_append, taken frames]

/-! ### Scalars -/

theorem null : IsRead .null :=
  of_deliver ⟨0x6E, _, rfl, rfl, rfl⟩ fun _ => Option.bind_fun_some _

theorem bool (value : Bool) : IsRead (.bool value) := by
  cases value with
  | false => exact of_deliver ⟨0x66, _, rfl, rfl, rfl⟩ fun _ => Option.bind_fun_some _
  | true => exact of_deliver ⟨0x74, _, rfl, rfl, rfl⟩ fun _ => Option.bind_fun_some _

theorem string (text : String) : IsRead (.string text) := by
  refine of_deliver ?_ fun frames => ?_
  · rw [encode, renderChars, encodeChars_renderString]
    exact ⟨0x22, _, rfl, rfl, rfl⟩
  · rw [encode, renderChars]
    exact feed_string frames text

/-- A natural number begins with a digit. -/
theorem natDigits_begins (n : Nat) :
    ∃ b text, Utf8.encodeChars (Decimal.natDigits n) = b :: text ∧
      isSpace b = false ∧ (b == 0x5D) = false := by
  obtain rfl | positive := Nat.eq_zero_or_pos n
  · exact ⟨0x30, [], rfl, rfl, rfl⟩
  · obtain ⟨c, text, eq, -, octets, -, least, most⟩ := exists_natDigits_eq positive
    have differs {b : UInt8} (h : ¬(0x31 ≤ b.toNat ∧ b.toNat ≤ 0x39)) :
        (UInt8.ofNat c.toNat == b) = false := not_beq_of_toNat (by omega)
    refine ⟨UInt8.ofNat c.toNat, Utf8.encodeChars text, ?_, ?_, differs (by decide)⟩
    · rw [eq, Utf8.encodeChars_cons, octets, List.singleton_append]
    · simp only [isSpace, differs (b := 0x20) (by decide), differs (b := 0x0A) (by decide),
        differs (b := 0x0D) (by decide), differs (b := 0x09) (by decide), Bool.or_false]

theorem integer (n : Int) : IsRead (.integer n) where
  begins := by
    rw [encode, renderChars]
    match n with
    | .ofNat n => exact natDigits_begins n
    | .negSucc n => exact ⟨0x2D, _, rfl, rfl, rfl⟩
  fed frames rest ending := by
    obtain ⟨b, rest, rfl, ends⟩ := ending
    rw [encode, renderChars, feed_integer frames n ends, ← deliver_bind_step, Option.bind_assoc,
      documentOf]
    simp only [feed_cons]

end IsRead

end Value

/-! ### Arrays -/

namespace Document

/-- The items after the first, and the end of the array. -/
theorem feed_items {items : List Value} (read : ∀ item ∈ items, item.IsRead)
    (before : List Document) (frames : List Frame) :
    feed ⟨.separator, .array before :: frames⟩
        (Utf8.encodeChars (Value.renderItems items) ++ [0x5D]) =
      deliver (.array (before.reverse ++ items.map documentOf)) frames := by
  induction items generalizing before with
  | nil =>
    rw [List.map_nil, List.append_nil]
    exact Option.bind_fun_some _
  | cons item items ih =>
    obtain ⟨first, rest⟩ := List.forall_mem_cons.1 read
    have comma (text : Bytes) : feed ⟨.separator, .array before :: frames⟩ (0x2C :: text) =
        feed ⟨.value, .array before :: frames⟩ text := rfl
    have text : Utf8.encodeChars (Value.renderItems (item :: items)) ++ [0x5D] =
        0x2C :: (item.encode ++ (Utf8.encodeChars (Value.renderItems items) ++ [0x5D])) := by
      rw [Value.renderItems, List.cons_append, Utf8.encodeChars_cons, Utf8.encodeChars_append,
        List.append_assoc, List.append_assoc]
      rfl
    rw [text, comma, first.fed _ (isEnding_items items), deliver, Option.bind_some, ih rest,
      List.reverse_cons, List.append_assoc]
    rfl

/-- **A written array** where a value begins. -/
theorem feed_array {items : List Value} (read : ∀ item ∈ items, item.IsRead)
    (frames : List Frame) :
    feed ⟨.value, frames⟩ (Value.array items).encode =
      deliver (.array (items.map documentOf)) frames := by
  match items with
  | [] => exact Option.bind_fun_some _
  | item :: items =>
    obtain ⟨first, rest⟩ := List.forall_mem_cons.1 read
    have opened (text : Bytes) : feed ⟨.value, frames⟩ (0x5B :: text) =
        feed ⟨.valueOrEnd, .array [] :: frames⟩ text := rfl
    have text : (Value.array (item :: items)).encode =
        0x5B :: (item.encode ++ (Utf8.encodeChars (Value.renderItems items) ++ [0x5D])) := by
      rw [Value.encode, Value.renderChars, List.cons_append, List.cons_append,
        Utf8.encodeChars_cons, Utf8.encodeChars_append, Utf8.encodeChars_append, List.append_assoc]
      rfl
    rw [text, opened, first.fed_first, first.fed _ (isEnding_items items), deliver,
      Option.bind_some, feed_items rest]
    rfl

/-! ### Objects -/

/-- The name of a member with the colon after it. -/
theorem feed_name (members : List (Bytes × Document)) (frames : List Frame) (name : String)
    (rest : Bytes) :
    feed ⟨.key, .object members :: frames⟩
        (Utf8.encodeChars (renderString name) ++ 0x3A :: rest) =
      feed ⟨.value, .member members (bodyOf name) :: frames⟩ rest := by
  rw [feed_append, feed_key, Option.bind_some, feed_cons]
  rfl

/-- The name of a first member with the colon after it. -/
theorem feed_firstName (frames : List Frame) (name : String) (rest : Bytes) :
    feed ⟨.keyOrEnd, .object [] :: frames⟩
        (Utf8.encodeChars (renderString name) ++ 0x3A :: rest) =
      feed ⟨.value, .member [] (bodyOf name) :: frames⟩ rest := by
  rw [feed_append, feed_firstKey, Option.bind_some, feed_cons]
  rfl

/-- The members after the first, and the end of the object. -/
theorem feed_members {members : List (String × Value)} (read : ∀ member ∈ members, member.2.IsRead)
    (before : List (Bytes × Document)) (frames : List Frame) :
    feed ⟨.separator, .object before :: frames⟩
        (Utf8.encodeChars (Value.renderMembers members) ++ [0x7D]) =
      deliver (.object (before.reverse ++ members.map memberOf)) frames := by
  induction members generalizing before with
  | nil =>
    rw [List.map_nil, List.append_nil]
    exact Option.bind_fun_some _
  | cons member members ih =>
    obtain ⟨first, rest⟩ := List.forall_mem_cons.1 read
    have comma (text : Bytes) : feed ⟨.separator, .object before :: frames⟩ (0x2C :: text) =
        feed ⟨.key, .object before :: frames⟩ text := rfl
    have text : Utf8.encodeChars (Value.renderMembers (member :: members)) ++ [0x7D] =
        0x2C :: (Utf8.encodeChars (renderString member.1) ++ 0x3A :: (member.2.encode ++
          (Utf8.encodeChars (Value.renderMembers members) ++ [0x7D]))) := by
      rw [Value.renderMembers]
      simp only [List.cons_append, Utf8.encodeChars_append, Utf8.encodeChars_cons, Value.encode,
        List.append_assoc, show Utf8.encodeChar ',' = [0x2C] from rfl,
        show Utf8.encodeChar ':' = [0x3A] from rfl, List.nil_append]
    rw [text, comma, feed_name, first.fed _ (isEnding_members members), deliver, Option.bind_some,
      ih rest, List.reverse_cons, List.append_assoc]
    rfl

/-- **A written object** where a value begins. -/
theorem feed_object {members : List (String × Value)} (read : ∀ member ∈ members, member.2.IsRead)
    (frames : List Frame) :
    feed ⟨.value, frames⟩ (Value.object members).encode =
      deliver (.object (members.map memberOf)) frames := by
  match members with
  | [] => exact Option.bind_fun_some _
  | (name, value) :: members =>
    obtain ⟨first, rest⟩ := List.forall_mem_cons.1 read
    have opened (text : Bytes) : feed ⟨.value, frames⟩ (0x7B :: text) =
        feed ⟨.keyOrEnd, .object [] :: frames⟩ text := rfl
    have text : (Value.object ((name, value) :: members)).encode =
        0x7B :: (Utf8.encodeChars (renderString name) ++ 0x3A :: (value.encode ++
          (Utf8.encodeChars (Value.renderMembers members) ++ [0x7D]))) := by
      rw [Value.encode, Value.renderChars]
      simp only [List.cons_append, Utf8.encodeChars_append, Utf8.encodeChars_cons, Value.encode,
        List.append_assoc, show Utf8.encodeChar ':' = [0x3A] from rfl, List.nil_append]
      rfl
    rw [text, opened, feed_firstName, first.fed _ (isEnding_members members), deliver,
      Option.bind_some, feed_members rest]
    rfl

end Document

/-- **A whole value** is read in one piece. -/
theorem Value.IsWhole.isRead {value : Value} (whole : value.IsWhole) : value.IsRead := by
  induction whole with
  | null => exact .null
  | bool value => exact .bool value
  | integer n => exact .integer n
  | string text => exact .string text
  | array _ ih =>
    refine .of_deliver ?_ fun frames => ?_
    · cases ‹List Value› <;> exact ⟨0x5B, _, rfl, rfl, rfl⟩
    · rw [documentOf_array, feed_array ih frames]
  | object _ ih =>
    refine .of_deliver ?_ fun frames => ?_
    · cases ‹List (String × Value)› <;> exact ⟨0x7B, _, rfl, rfl, rfl⟩
    · rw [documentOf_object, feed_object ih frames]

/-- **The document of a written object.** -/
theorem Document.parse?_object {members : List (String × Value)}
    (whole : ∀ member ∈ members, member.2.IsWhole) :
    Document.parse? (Value.object members).encode = some (.object (members.map memberOf)) := by
  rw [Document.parse?, feed_object fun member mem => (whole member mem).isRead]
  rfl

/-! ### The meaning -/

namespace Document

/-- The meaning of what is written for items, from that of each. -/
theorem itemsWithin?_map {depth : Nat} {items : List Value}
    (means : ∀ item ∈ items, valueWithin? depth (documentOf item) = some item) :
    itemsWithin? depth (items.map documentOf) = some items := by
  induction items with
  | nil => rfl
  | cons item items ih =>
    obtain ⟨first, rest⟩ := List.forall_mem_cons.1 means
    rw [List.map_cons, itemsWithin?, first, ih rest]
    rfl

/-- The meaning of what is written for members, from that of each. -/
theorem membersWithin?_map {depth : Nat} {members : List (String × Value)}
    (means : ∀ member ∈ members, valueWithin? depth (documentOf member.2) = some member.2) :
    membersWithin? depth (members.map memberOf) = some members := by
  induction members with
  | nil => rfl
  | cons member members ih =>
    obtain ⟨first, rest⟩ := List.forall_mem_cons.1 means
    rw [List.map_cons, memberOf, membersWithin?, textOfBody?_bodyOf, first, ih rest]
    rfl

/-- **What is written for an exact value** means that value. -/
theorem valueWithin?_documentOf {depth : Nat} {value : Value} (exact : value.IsExact depth) :
    valueWithin? depth (documentOf value) = some value := by
  induction exact with
  | null => rw [documentOf, valueWithin?]
  | bool value => rw [documentOf, valueWithin?]
  | integer least most =>
    rw [documentOf, valueWithin?, Numeral.value?, Numeral.integer?_numeralOf least most]
  | string text => rw [documentOf, valueWithin?, textOfBody?_bodyOf, Option.map_some]
  | array _ ih => rw [documentOf_array, valueWithin?, itemsWithin?_map ih, Option.map_some]
  | @object _ members ascending _ ih =>
    have ordered : (Table.ofList members).entries = members :=
      congrArg Table.entries (Table.ofList_entries ⟨members, ascending⟩)
    rw [documentOf_object, valueWithin?, membersWithin?_map ih, Option.map_some, ordered]

end Document

/-- **An exact object** is read as it was written. -/
theorem parse?_encode {members : List (String × Value)}
    (exact : (Value.object members).IsExact maxDepth) :
    parse? (Value.object members).encode = some (.object members) := by
  have whole : ∀ member ∈ members, member.2.IsWhole := by
    cases exact.isWhole with
    | object whole => exact whole
  rw [parse?, Document.parse?_object whole, Option.bind_some, ← documentOf_object]
  exact Document.valueWithin?_documentOf exact

end Json

end GatewaySession
