import GatewaySession.Proofs.Json.Value

/-!
# Reading the objects that were written

Two kinds of objects are written: records, compact, whose members are strings and integers, and
tables of texts with each member on its own line. A record is a value like any other, of which only
the slots are asked for. Of a table, reading goes line by line: the induction is on the lines that
are left, with the ones that were read already in the innermost frame.

## Main definitions

* `Json.Document.entryOf` — what is written for an entry of a table

## Main results

* `Json.Document.slots?_memberOf` — the slots of a record
* `Json.Document.parse?_renderLines`, `Json.Document.textTable?_entryOf` — a table of texts
-/

namespace GatewaySession

namespace Json

/-! ### Records -/

namespace Document

/-- The names of members are read as they were written. -/
theorem named?_memberOf (members : List (String × Value)) :
    named? (members.map memberOf) =
      some (members.map fun member => (member.1, documentOf member.2)) := by
  rw [named?]
  induction members with
  | nil => rfl
  | cons member members ih =>
    rw [List.map_cons, List.mapM_cons, ih]
    simp only [memberOf, textOfBody?_bodyOf]
    rfl

/-- The slots of a written record. -/
theorem slots?_memberOf (names : List String) (members : List (String × Value)) :
    slots? names (.object (members.map memberOf)) =
      names.mapM (slotOf? (members.map fun member => (member.1, documentOf member.2))) := by
  rw [slots?, named?_memberOf]
  rfl

/-! ### Tables of texts -/

/-- What is written for an entry of a table. -/
def entryOf (entry : String × String) : Bytes × Document := memberOf (entry.1, .string entry.2)

/-- White space before the name of a member. -/
theorem feed_space_key (frames : List Frame) (rest : Bytes) :
    feed ⟨.key, frames⟩ (0x0A :: 0x20 :: 0x20 :: rest) = feed ⟨.key, frames⟩ rest := rfl

theorem feed_space_firstKey (frames : List Frame) (rest : Bytes) :
    feed ⟨.keyOrEnd, frames⟩ (0x0A :: 0x20 :: 0x20 :: rest) = feed ⟨.keyOrEnd, frames⟩ rest := rfl

theorem encodeChars_renderLine (entry : String × String) :
    Utf8.encodeChars (renderLine entry) = 0x0A :: 0x20 :: 0x20 ::
      (Utf8.encodeChars (renderString entry.1) ++
        0x3A :: 0x20 :: Utf8.encodeChars (renderString entry.2)) := by
  rw [renderLine]
  simp only [List.cons_append, Utf8.encodeChars_append, Utf8.encodeChars_cons,
    show Utf8.encodeChar '\n' = [0x0A] from rfl, show Utf8.encodeChar ' ' = [0x20] from rfl,
    show Utf8.encodeChar ':' = [0x3A] from rfl, List.nil_append]

/-- The text of a member after the blank that follows the colon. -/
theorem feed_text (members : List (Bytes × Document)) (frames : List Frame)
    (entry : String × String) (rest : Bytes) :
    feed ⟨.value, .member members (bodyOf entry.1) :: frames⟩
        (0x20 :: (Utf8.encodeChars (renderString entry.2) ++ rest)) =
      feed ⟨.separator, .object (entryOf entry :: members) :: frames⟩ rest := by
  have blank (text : Bytes) : feed ⟨.value, .member members (bodyOf entry.1) :: frames⟩
      (0x20 :: text) = feed ⟨.value, .member members (bodyOf entry.1) :: frames⟩ text := rfl
  rw [blank, feed_append, feed_string]
  rfl

/-- The lines after the first, and the end of the object. -/
theorem feed_lines (before : List (Bytes × Document)) (frames : List Frame)
    (entries : List (String × String)) :
    feed ⟨.separator, .object before :: frames⟩
        (Utf8.encodeChars (renderLinesAfter entries) ++ [0x0A, 0x7D]) =
      deliver (.object (before.reverse ++ entries.map entryOf)) frames := by
  induction entries generalizing before with
  | nil =>
    rw [List.map_nil, List.append_nil]
    have ended : feed ⟨.separator, .object before :: frames⟩ [0x0A, 0x7D] =
        (deliver (.object before.reverse) frames).bind some := rfl
    rw [show Utf8.encodeChars (renderLinesAfter []) = [] from rfl, List.nil_append, ended]
    exact Option.bind_fun_some _
  | cons entry entries ih =>
    have comma (text : Bytes) : feed ⟨.separator, .object before :: frames⟩ (0x2C :: text) =
        feed ⟨.key, .object before :: frames⟩ text := rfl
    rw [renderLinesAfter, List.cons_append, Utf8.encodeChars_cons, Utf8.encodeChars_append,
      encodeChars_renderLine, show Utf8.encodeChar ',' = [0x2C] from rfl]
    simp only [List.cons_append, List.nil_append, List.append_assoc]
    rw [comma, feed_space_key, feed_name, feed_text, ih, List.reverse_cons, List.append_assoc]
    rfl

/-- **A written table** is read as its entries. -/
theorem parse?_renderLines (table : Table String) :
    parse? (Utf8.encodeChars (renderLines table)) =
      some (.object (table.entries.map entryOf)) := by
  rw [renderLines]
  cases table.entries with
  | nil => rfl
  | cons entry entries =>
    have opened (text : Bytes) : feed ⟨.value, []⟩ (0x7B :: text) =
        feed ⟨.keyOrEnd, [.object []]⟩ text := rfl
    have colon (text : Bytes) : feed ⟨.colon (bodyOf entry.1), [.object []]⟩ (0x3A :: text) =
        feed ⟨.value, [.member [] (bodyOf entry.1)]⟩ text := rfl
    simp only [List.cons_append, Utf8.encodeChars_cons, Utf8.encodeChars_append,
      encodeChars_renderLine, show Utf8.encodeChar '\x7b' = [0x7B] from rfl, List.nil_append,
      List.append_assoc, show Utf8.encodeChars ['\n', '\x7d'] = [0x0A, 0x7D] from rfl]
    rw [parse?, opened, feed_space_firstKey, feed_append, feed_firstKey, Option.bind_some, colon,
      feed_text, feed_lines]
    rfl

/-- The texts of a written table. -/
theorem textTable?_entryOf (entries : List (String × String)) :
    textTable? (.object (entries.map entryOf)) = some (Table.ofList entries) := by
  have members : entries.map entryOf =
      (entries.map fun entry => (entry.1, Value.string entry.2)).map memberOf := by
    rw [List.map_map]
    rfl
  have texts (entries : List (String × String)) :
      (entries.map fun entry => (entry.1, documentOf (.string entry.2))).mapM
        (fun member => member.2.text?.map fun text => (member.1, text)) = some entries := by
    induction entries with
    | nil => rfl
    | cons entry entries ih =>
      rw [List.map_cons, List.mapM_cons, ih, documentOf, text?, textOfBody?_bodyOf]
      rfl
  rw [textTable?, members, named?_memberOf, List.map_map]
  simp only [Option.bind_eq_bind, Option.bind_some]
  rw [show (fun member : String × Value => (member.1, documentOf member.2)) ∘
      (fun entry : String × String => (entry.1, Value.string entry.2)) =
      fun entry => (entry.1, documentOf (.string entry.2)) from rfl, texts, Option.bind_some]

end Document

end Json

end GatewaySession
