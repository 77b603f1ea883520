import GatewaySession.Text.Utf8

/-!
# Reading what was written in UTF-8

The octets of a character take the scan from between characters back to between characters and
yield that character, whatever follows. So the scan of an encoded text yields its characters, and
there is no mark among them. The encodings of two characters also differ before either ends, in
their order, so octets order texts as characters do.

## Main results

* `Utf8.scan_encodeChar` — one character
* `Utf8.decodeChars?_encodeChars`, `Utf8.decodeLossy_encode` — a text
* `Utf8.exists_encode_eq` — octets below `0x80` are a text
* `Utf8.encode_lt` — texts are ordered as their octets are
-/

namespace GatewaySession

namespace Utf8

/-! ### Octets -/

theorem toNat_octet {n : Nat} (h : n < 256) : (UInt8.ofNat n).toNat = n :=
  UInt8.toNat_ofNat_of_lt' h

/-- An octet that continues a sequence and is not its last. -/
theorem scan_continued {needed value low high n : Nat} (rest : Bytes) (h : n < 256)
    (least : low ≤ n) (greatest : n ≤ high) (more : 1 < needed) :
    scan (some ⟨needed, value, low, high⟩) (UInt8.ofNat n :: rest) =
      scan (some ⟨needed - 1, value * 64 + (n - 0x80), 0x80, 0xBF⟩) rest := by
  rw [scan]
  simp only [toNat_octet h]
  rw [if_pos ⟨least, greatest⟩, if_neg (by omega)]

/-- The last octet of a sequence. -/
theorem scan_ended {value low high n : Nat} (rest : Bytes) (h : n < 256)
    (least : low ≤ n) (greatest : n ≤ high) :
    scan (some ⟨1, value, low, high⟩) (UInt8.ofNat n :: rest) =
      some (Char.ofNat (value * 64 + (n - 0x80))) :: scan none rest := by
  rw [scan]
  simp only [toNat_octet h]
  rw [if_pos ⟨least, greatest⟩, if_pos (Nat.le_refl 1)]

/-! ### First octets -/

theorem lead_two {n : Nat} (least : 0x80 ≤ n) (less : n < 0x800) :
    lead (UInt8.ofNat (0xC0 + n / 64)) = .sequence ⟨1, n / 64, 0x80, 0xBF⟩ := by
  simp only [lead, toNat_octet (n := 0xC0 + n / 64) (by omega)]
  rw [if_neg (by omega), if_neg (by omega), if_pos (by omega), Nat.add_sub_cancel_left]

/-- The octets that may follow the first of three leave out overlong forms and surrogates. -/
theorem lead_three {n : Nat} (least : 0x800 ≤ n) (less : n < 0x10000)
    (scalar : n < 0xD800 ∨ 0xDFFF < n) :
    ∃ low high, lead (UInt8.ofNat (0xE0 + n / 4096)) = .sequence ⟨2, n / 4096, low, high⟩ ∧
      low ≤ 0x80 + n / 64 % 64 ∧ 0x80 + n / 64 % 64 ≤ high := by
  simp only [lead, toNat_octet (n := 0xE0 + n / 4096) (by omega)]
  rw [if_neg (by omega), if_neg (by omega), if_neg (by omega)]
  rcases Nat.lt_or_ge n 0x1000 with small | _
  · rw [if_pos (by omega), show n / 4096 = 0 by omega]
    exact ⟨_, _, rfl, by omega, by omega⟩
  rw [if_neg (by omega)]
  rcases Decidable.em (n / 4096 = 0xD) with surrogate | _
  · rw [if_pos (by omega), surrogate]
    exact ⟨_, _, rfl, by omega, by omega⟩
  rw [if_neg (by omega), if_pos (by omega), Nat.add_sub_cancel_left]
  exact ⟨_, _, rfl, by omega, by omega⟩

/-- The octets that may follow the first of four leave out overlong forms and what is beyond the
last scalar. -/
theorem lead_four {n : Nat} (least : 0x10000 ≤ n) (less : n < 0x110000) :
    ∃ low high, lead (UInt8.ofNat (0xF0 + n / 262144)) = .sequence ⟨3, n / 262144, low, high⟩ ∧
      low ≤ 0x80 + n / 4096 % 64 ∧ 0x80 + n / 4096 % 64 ≤ high := by
  simp only [lead, toNat_octet (n := 0xF0 + n / 262144) (by omega)]
  rw [if_neg (by omega), if_neg (by omega), if_neg (by omega), if_neg (by omega),
    if_neg (by omega), if_neg (by omega)]
  rcases Nat.lt_or_ge n 0x40000 with small | _
  · rw [if_pos (by omega), show n / 262144 = 0 by omega]
    exact ⟨_, _, rfl, by omega, by omega⟩
  rw [if_neg (by omega)]
  rcases Nat.lt_or_ge n 0x100000 with small | _
  · rw [if_pos (by omega), Nat.add_sub_cancel_left]
    exact ⟨_, _, rfl, by omega, by omega⟩
  rw [if_neg (by omega), if_pos (by omega), show n / 262144 = 4 by omega]
  exact ⟨_, _, rfl, by omega, by omega⟩

/-! ### Texts -/

theorem toNat_scalar (c : Char) : c.toNat < 0xD800 ∨ 0xDFFF < c.toNat ∧ c.toNat < 0x110000 :=
  c.valid

/-- **The octets of a character** are scanned as that character. -/
theorem scan_encodeChar (c : Char) (rest : Bytes) :
    scan none (encodeChar c ++ rest) = some c :: scan none rest := by
  have scalar := toNat_scalar c
  have again : Char.ofNat c.toNat = c := Char.ofNat_toNat c
  rw [encodeChar]
  generalize c.toNat = n at scalar again
  rcases Nat.lt_or_ge n 0x80 with one | _
  · rw [if_pos one, List.singleton_append, scan]
    simp only [lead, toNat_octet (n := n) (by omega)]
    rw [if_pos one, again]
  rcases Nat.lt_or_ge n 0x800 with two | _
  · rw [if_neg (by omega), if_pos two, List.cons_append, List.singleton_append, scan,
      lead_two (by assumption) two]
    simp only
    rw [scan_ended rest (by omega) (by omega) (by omega),
      show n / 64 * 64 + (0x80 + n % 64 - 0x80) = n by omega, again]
  rcases Nat.lt_or_ge n 0x10000 with three | _
  · obtain ⟨low, high, begun, least, greatest⟩ :=
      lead_three (n := n) (by assumption) three (by omega)
    rw [if_neg (by omega), if_neg (by omega), if_pos three, List.cons_append, List.cons_append,
      List.singleton_append, scan, begun]
    simp only
    rw [scan_continued _ (by omega) least greatest (by omega),
      scan_ended rest (by omega) (by omega) (by omega), show (n / 4096 * 64 +
        (0x80 + n / 64 % 64 - 0x80)) * 64 + (0x80 + n % 64 - 0x80) = n by omega, again]
  · obtain ⟨low, high, begun, least, greatest⟩ := lead_four (n := n) (by assumption) (by omega)
    rw [if_neg (by omega), if_neg (by omega), if_neg (by omega), List.cons_append,
      List.cons_append, List.cons_append, List.singleton_append, scan, begun]
    simp only
    rw [scan_continued _ (by omega) least greatest (by omega),
      scan_continued _ (by omega) (by omega) (by omega) (by omega),
      scan_ended rest (by omega) (by omega) (by omega), show ((n / 262144 * 64 +
        (0x80 + n / 4096 % 64 - 0x80)) * 64 + (0x80 + n / 64 % 64 - 0x80)) * 64 +
          (0x80 + n % 64 - 0x80) = n by omega, again]

theorem scan_encodeChars (text : List Char) :
    scan none (encodeChars text) = text.map some := by
  induction text with
  | nil => rfl
  | cons c text ih =>
    rw [encodeChars, List.flatMap_cons, scan_encodeChar, List.map_cons]
    exact congrArg (some c :: ·) ih

theorem mapM_id_map_some {α : Type} (items : List α) : (items.map some).mapM id = some items := by
  induction items with
  | nil => rfl
  | cons item items ih => rw [List.map_cons, List.mapM_cons, ih]; rfl

/-- **Characters** are read as they were written. -/
@[simp] theorem decodeChars?_encodeChars (text : List Char) :
    decodeChars? (encodeChars text) = some text := by
  rw [decodeChars?, scan_encodeChars, mapM_id_map_some]

/-- A text has no ill-formed parts to be replaced. -/
@[simp] theorem decodeLossy_encode (text : String) : decodeLossy (encode text) = text := by
  rw [decodeLossy, encode, scan_encodeChars, List.map_map]
  exact (congrArg String.ofList (List.map_id _)).trans String.ofList_toList

@[simp] theorem encodeChars_append (first second : List Char) :
    encodeChars (first ++ second) = encodeChars first ++ encodeChars second :=
  List.flatMap_append

theorem encodeChars_cons (c : Char) (text : List Char) :
    encodeChars (c :: text) = encodeChar c ++ encodeChars text :=
  List.flatMap_cons

/-- An octet below `0x80` is a character. -/
theorem encodeChar_ofNat {b : UInt8} (low : b.toNat < 0x80) :
    encodeChar (Char.ofNat b.toNat) = [b] := by
  have valid : b.toNat.isValidChar := .inl (by omega)
  have scalar : (Char.ofNat b.toNat).toNat = b.toNat := by
    rw [Char.ofNat, dif_pos valid]
    rfl
  rw [encodeChar, scalar, if_pos low, UInt8.ofNat_toNat]

/-- **Octets below `0x80`** are a text. -/
theorem exists_encode_eq {octets : Bytes} (low : ∀ b ∈ octets, b.toNat < 0x80) :
    ∃ text, encode text = octets := by
  refine ⟨String.ofList (octets.map fun b => Char.ofNat b.toNat), ?_⟩
  rw [encode, String.toList_ofList]
  induction octets with
  | nil => rfl
  | cons b octets ih =>
    obtain ⟨here, later⟩ := List.forall_mem_cons.1 low
    rw [List.map_cons, encodeChars_cons, encodeChar_ofNat here, ih later]
    rfl

/-! ### Order -/

/-- Octets are compared by their numbers, and what follows them if these are equal. -/
theorem cons_octet_lt {m n : Nat} {rest rest' : Bytes} (h : n < 256)
    (less : m < n ∨ m = n ∧ rest < rest') : UInt8.ofNat m :: rest < UInt8.ofNat n :: rest' := by
  rw [List.cons_lt_cons_iff]
  rcases less with less | ⟨rfl, less⟩
  · rw [UInt8.lt_iff_toNat_lt, toNat_octet h, toNat_octet (Nat.lt_trans less h)]
    exact .inl less
  · exact .inr ⟨rfl, less⟩

/-- **The octets of the lesser character** are less before either ends, so they stay less whatever
follows. -/
theorem encodeChar_append_lt {c d : Char} (h : c < d) (rest rest' : Bytes) :
    encodeChar c ++ rest < encodeChar d ++ rest' := by
  have less : c.toNat < d.toNat := h
  have scalar := toNat_scalar d
  simp only [encodeChar]
  generalize c.toNat = m at less
  generalize d.toNat = n at less scalar
  -- Of two encodings the longer has the greater first octet. In those of one length the octets
  -- are digits, so the first that differ decide.
  rcases Nat.lt_or_ge m 0x80 with one | _
  · rw [if_pos one]
    repeat' split
    all_goals exact cons_octet_lt (by omega) (.inl (by omega))
  rw [if_neg (show ¬m < 0x80 by omega), if_neg (show ¬n < 0x80 by omega)]
  rcases Nat.lt_or_ge m 0x800 with two | _
  · rw [if_pos two]
    rcases Nat.lt_or_ge n 0x800 with same | _
    · rw [if_pos same]
      refine cons_octet_lt (by omega) ?_
      rcases Nat.lt_or_ge (m / 64) (n / 64) with first | _
      · exact .inl (by omega)
      exact .inr ⟨by omega, cons_octet_lt (by omega) (.inl (by omega))⟩
    · rw [if_neg (by omega)]
      split
      all_goals exact cons_octet_lt (by omega) (.inl (by omega))
  rw [if_neg (show ¬m < 0x800 by omega), if_neg (show ¬n < 0x800 by omega)]
  rcases Nat.lt_or_ge m 0x10000 with three | _
  · rw [if_pos three]
    rcases Nat.lt_or_ge n 0x10000 with same | _
    · rw [if_pos same]
      refine cons_octet_lt (by omega) ?_
      rcases Nat.lt_or_ge (m / 4096) (n / 4096) with first | _
      · exact .inl (by omega)
      refine .inr ⟨by omega, cons_octet_lt (by omega) ?_⟩
      rcases Nat.lt_or_ge (m / 64) (n / 64) with second | _
      · exact .inl (by omega)
      exact .inr ⟨by omega, cons_octet_lt (by omega) (.inl (by omega))⟩
    · rw [if_neg (by omega)]
      exact cons_octet_lt (by omega) (.inl (by omega))
  rw [if_neg (show ¬m < 0x10000 by omega), if_neg (show ¬n < 0x10000 by omega)]
  refine cons_octet_lt (by omega) ?_
  rcases Nat.lt_or_ge (m / 262144) (n / 262144) with first | _
  · exact .inl (by omega)
  refine .inr ⟨by omega, cons_octet_lt (by omega) ?_⟩
  rcases Nat.lt_or_ge (m / 4096) (n / 4096) with second | _
  · exact .inl (by omega)
  refine .inr ⟨by omega, cons_octet_lt (by omega) ?_⟩
  rcases Nat.lt_or_ge (m / 64) (n / 64) with third | _
  · exact .inl (by omega)
  exact .inr ⟨by omega, cons_octet_lt (by omega) (.inl (by omega))⟩

theorem encodeChar_ne_nil (c : Char) : encodeChar c ≠ [] := by
  simp only [encodeChar]
  repeat' split
  all_goals exact List.cons_ne_nil _ _

theorem encodeChars_lt {first second : List Char} (h : first < second) :
    encodeChars first < encodeChars second := by
  induction h with
  | nil =>
    rw [encodeChars_cons]
    obtain ⟨b, rest, eq⟩ := List.exists_cons_of_ne_nil (encodeChar_ne_nil _)
    rw [eq]
    exact List.nil_lt_cons _ _
  | rel less =>
    rw [encodeChars_cons, encodeChars_cons]
    exact encodeChar_append_lt less _ _
  | cons _ ih =>
    rw [encodeChars_cons, encodeChars_cons]
    exact List.append_left_lt ih

/-- **Texts are ordered as their octets are.** -/
theorem encode_lt {first second : String} (h : first < second) : encode first < encode second :=
  encodeChars_lt (String.lt_iff.1 h)

end Utf8

end GatewaySession
