import GatewaySession.Json.Record
import GatewaySession.Proofs.Number.Decimal
import GatewaySession.Proofs.Text.Utf8

/-!
# Reading the strings and integers that were written

A written string is read twice. The grammar sees octets: none of those between the quotation marks
ends the string, so the reader collects all of them. The meaning sees characters: resolving the
escapes of a text gives the text.

A written integer has no end of its own. The reader learns that it has ended from the octet that
follows, which must be one that no number contains.

## Main definitions

* `Json.bodyOf` — the octets between the quotation marks of a written string
* `Json.numeralOf` — the number as written for an integer
* `Json.Document.IsBody` — octets that a string contains whole
* `Json.Document.Ends` — octets that no number contains

## Main results

* `Json.textOfBody?_bodyOf`, `Json.Numeral.integer?_numeralOf` — what is written means what was
  meant
* `Json.Document.feed_string`, `Json.Document.feed_key`, `Json.Document.feed_integer` — the grammar
-/

namespace GatewaySession

namespace Json

/-! ### The meaning of strings -/

/-- The octets between the quotation marks of a written string. -/
def bodyOf (text : String) : Bytes := Utf8.encodeChars (text.toList.flatMap escapeChar)

theorem hexValue?_hexDigit : ∀ n < 16, hexValue? (hexDigit n) = some n := by
  decide

theorem hexValue?_zero : hexValue? '0' = some 0 := by
  decide

/-- A four-digit escape of a character below 256. -/
theorem unescape?_hex {n : Nat} (h : n < 256) (rest : List Char) :
    unescape? ('\\' :: 'u' :: '0' :: '0' :: hexDigit (n / 16) :: hexDigit (n % 16) :: rest) =
      (unescape? rest).map (Char.ofNat n :: ·) := by
  have unit : unitOfHex? '0' '0' (hexDigit (n / 16)) (hexDigit (n % 16)) = some n := by
    rw [unitOfHex?, hexValue?_zero, hexValue?_hexDigit _ (by omega),
      hexValue?_hexDigit _ (by omega)]
    simp only [Option.bind_eq_bind, Option.bind_some, Option.pure_def]
    congr 1
    omega
  rw [unescape?, unit]
  simp only [Option.bind_eq_bind, Option.bind_some]
  rw [if_neg (by omega), if_neg (by omega)]
  cases unescape? rest <;> rfl

/-- A letter after a backslash, which is not the one that begins a four-digit escape. -/
theorem unescape?_letter {letter c : Char} (known : escaped? letter = some c) (rest : List Char) :
    unescape? ('\\' :: letter :: rest) = (unescape? rest).map (c :: ·) := by
  have notHex (a b c d : Char) (rest' : List Char) (h : letter = 'u') :
      ¬rest = a :: b :: c :: d :: rest' := by
    rw [h, show escaped? 'u' = none from rfl] at known
    exact absurd known (by simp)
  rw [unescape?.eq_3 letter rest notHex, known]
  simp only [Option.bind_eq_bind, Option.bind_some]
  cases unescape? rest <;> rfl

theorem unescape?_plain {c : Char} (h : c ≠ '\\') (rest : List Char) :
    unescape? (c :: rest) = (unescape? rest).map (c :: ·) := by
  rw [unescape?] <;> simp_all

/-- **How a character is written**: as a letter after a backslash, in hexadecimal digits, or as it
is. -/
theorem escapeChar_cases (c : Char) :
    (∃ letter, escaped? letter = some c ∧ escapeChar c = ['\\', letter]) ∨
      (c.toNat < 0x20 ∧ escapeChar c =
        ['\\', 'u', '0', '0', hexDigit (c.toNat / 16), hexDigit (c.toNat % 16)]) ∨
      (¬c.toNat < 0x20 ∧ c ≠ '"' ∧ c ≠ '\\' ∧ escapeChar c = [c]) := by
  by_cases lettered : c = '"' ∨ c = '\\' ∨ c = '\x08' ∨ c = '\x0c' ∨ c = '\n' ∨ c = '\r' ∨ c = '\t'
  · rcases lettered with rfl | rfl | rfl | rfl | rfl | rfl | rfl <;> exact .inl ⟨_, rfl, rfl⟩
  simp only [not_or] at lettered
  obtain ⟨quote, backslash, backspace, feed, newline, carriage, tab⟩ := lettered
  rw [escapeChar, if_neg quote, if_neg backslash, if_neg backspace, if_neg feed, if_neg newline,
    if_neg carriage, if_neg tab]
  split
  · next small => exact .inr (.inl ⟨small, rfl⟩)
  · next printable => exact .inr (.inr ⟨printable, quote, backslash, rfl⟩)

/-- Resolving the escape of a character gives the character. -/
theorem unescape?_escapeChar (c : Char) (rest : List Char) :
    unescape? (escapeChar c ++ rest) = (unescape? rest).map (c :: ·) := by
  obtain ⟨letter, known, eq⟩ | ⟨small, eq⟩ | ⟨-, -, notBackslash, eq⟩ := escapeChar_cases c
  · rw [eq]
    exact unescape?_letter known rest
  · have read := unescape?_hex (n := c.toNat) (by omega) rest
    rw [Char.ofNat_toNat] at read
    rw [eq]
    exact read
  · rw [eq]
    exact unescape?_plain notBackslash rest

theorem unescape?_escaped (text : List Char) : unescape? (text.flatMap escapeChar) = some text := by
  induction text with
  | nil => rw [List.flatMap_nil, unescape?]
  | cons c text ih => rw [List.flatMap_cons, unescape?_escapeChar, ih, Option.map_some]

/-- **A written string** means the text it was written for. -/
@[simp] theorem textOfBody?_bodyOf (text : String) : textOfBody? (bodyOf text) = some text := by
  rw [textOfBody?, bodyOf, Utf8.decodeChars?_encodeChars, Option.bind_some, unescape?_escaped,
    Option.map_some, String.ofList_toList]

/-! ### The grammar of strings -/

namespace Document

theorem feed_nil (state : State) : feed state [] = some state := rfl

theorem feed_cons (state : State) (b : UInt8) (text : Bytes) :
    feed state (b :: text) = (step state b).bind fun state => feed state text := by
  rw [feed, List.foldlM_cons]
  rfl

theorem feed_append (state : State) (first second : Bytes) :
    feed state (first ++ second) = (feed state first).bind fun state => feed state second := by
  rw [feed, List.foldlM_append]
  rfl

/-- Octets that a string contains whole: none of them ends it or breaks an escape. -/
def IsBody (octets : Bytes) : Prop :=
  ∀ (role : Role) (body : Bytes) (frames : List Frame),
    feed ⟨.string role body, frames⟩ octets = some ⟨.string role (octets.reverse ++ body), frames⟩

theorem IsBody.nil : IsBody [] := fun _ _ _ => rfl

theorem IsBody.append {first second : Bytes} (hfirst : IsBody first) (hsecond : IsBody second) :
    IsBody (first ++ second) := by
  intro role body frames
  rw [feed_append, hfirst role body frames, Option.bind_some, hsecond role _ frames,
    List.reverse_append, List.append_assoc]

/-- An octet that stands for itself. -/
theorem IsBody.plain {b : UInt8} (notQuote : b ≠ 0x22) (notBackslash : b ≠ 0x5C)
    (printable : ¬b < 0x20) : IsBody [b] := by
  intro role body frames
  simp only [feed_cons, feed_nil, step, beq_iff_eq, notQuote, notBackslash, printable, if_false,
    Option.bind_some, List.reverse_singleton, List.singleton_append]

/-- A backslash with a letter. -/
theorem IsBody.letter {b : UInt8} (h : isEscape b = true) : IsBody [0x5C, b] := by
  intro role body frames
  simp only [feed_cons, feed_nil, step, beq_self_eq_true, if_true, Option.bind_some, h,
    show ((0x5C : UInt8) == 0x22) = false from rfl, Bool.false_eq_true, if_false]
  rfl

/-- A backslash with four hexadecimal digits. -/
theorem IsBody.hex {a b c d : UInt8} (ha : isHexDigit a = true) (hb : isHexDigit b = true)
    (hc : isHexDigit c = true) (hd : isHexDigit d = true) : IsBody [0x5C, 0x75, a, b, c, d] := by
  intro role body frames
  simp only [feed_cons, feed_nil, step, beq_self_eq_true, if_true, Option.bind_some, ha, hb, hc, hd,
    show ((0x5C : UInt8) == 0x22) = false from rfl, show isEscape 0x75 = false from rfl,
    Bool.false_eq_true, if_false]
  rfl

/-- Octets from 128 on stand for themselves. -/
theorem IsBody.high {octets : Bytes} (h : ∀ b ∈ octets, 0x80 ≤ b.toNat) : IsBody octets := by
  induction octets with
  | nil => exact .nil
  | cons b octets ih =>
    obtain ⟨first, rest⟩ := List.forall_mem_cons.1 h
    have hb : IsBody [b] := by
      refine .plain ?_ ?_ ?_
      · rintro rfl; exact absurd first (by decide)
      · rintro rfl; exact absurd first (by decide)
      · intro less
        have := UInt8.lt_iff_toNat_lt.1 less
        have : (0x20 : UInt8).toNat = 0x20 := rfl
        omega
    exact hb.append (ih rest)

/-- The octets of a character that is written as it is. -/
theorem IsBody.encodeChar {c : Char} (notQuote : c ≠ '"') (notBackslash : c ≠ '\\')
    (printable : ¬c.toNat < 0x20) : IsBody (Utf8.encodeChar c) := by
  have scalar := Utf8.toNat_scalar c
  have differs {d : Char} (h : c ≠ d) : c.toNat ≠ d.toNat := fun eq =>
    h (Char.toNat_inj.1 eq)
  rw [Utf8.encodeChar]
  rcases Nat.lt_or_ge c.toNat 0x80 with one | _
  · have octet : (UInt8.ofNat c.toNat).toNat = c.toNat := Utf8.toNat_octet (by omega)
    have quote := differs notQuote
    have backslash := differs notBackslash
    rw [if_pos one]
    refine .plain ?_ ?_ ?_
    · intro h
      rw [h] at octet
      exact quote octet.symm
    · intro h
      rw [h] at octet
      exact backslash octet.symm
    · intro less
      have := UInt8.lt_iff_toNat_lt.1 less
      rw [octet] at this
      exact printable this
  · refine .high fun b mem => ?_
    rw [if_neg (by omega)] at mem
    split at mem
    · simp only [List.mem_cons, List.not_mem_nil, or_false] at mem
      rcases mem with rfl | rfl <;> rw [Utf8.toNat_octet (by omega)] <;> omega
    split at mem
    · simp only [List.mem_cons, List.not_mem_nil, or_false] at mem
      rcases mem with rfl | rfl | rfl <;> rw [Utf8.toNat_octet (by omega)] <;> omega
    · simp only [List.mem_cons, List.not_mem_nil, or_false] at mem
      rcases mem with rfl | rfl | rfl | rfl <;> rw [Utf8.toNat_octet (by omega)] <;> omega

theorem isHexDigit_hexDigit : ∀ n < 16,
    Utf8.encodeChar (hexDigit n) = [UInt8.ofNat (hexDigit n).toNat] ∧
      isHexDigit (UInt8.ofNat (hexDigit n).toNat) = true := by
  decide

/-- A letter that stands for a character after a backslash is an octet that may follow one. -/
theorem isEscape_of_escaped? {letter c : Char} (known : escaped? letter = some c) :
    ∃ b, Utf8.encodeChar letter = [b] ∧ isEscape b = true := by
  unfold escaped? at known
  split at known
  all_goals first | exact ⟨_, rfl, rfl⟩ | cases known

/-- The octets of a character as it is written. -/
theorem IsBody.escapeChar (c : Char) : IsBody (Utf8.encodeChars (escapeChar c)) := by
  obtain ⟨letter, known, eq⟩ | ⟨small, eq⟩ | ⟨printable, notQuote, notBackslash, eq⟩ :=
    escapeChar_cases c
  · obtain ⟨b, octet, escape⟩ := isEscape_of_escaped? known
    simp only [eq, Utf8.encodeChars, List.flatMap_cons, List.flatMap_nil, octet]
    exact .letter escape
  · obtain ⟨high, isHigh⟩ := isHexDigit_hexDigit (c.toNat / 16) (by omega)
    obtain ⟨low, isLow⟩ := isHexDigit_hexDigit (c.toNat % 16) (by omega)
    simp only [eq, Utf8.encodeChars, List.flatMap_cons, List.flatMap_nil, high, low]
    exact .hex (a := 0x30) (b := 0x30) rfl rfl isHigh isLow
  · rw [eq, Utf8.encodeChars_cons]
    exact (IsBody.encodeChar notQuote notBackslash printable).append .nil

/-- The octets of a written string. -/
theorem IsBody.bodyOf (text : String) : IsBody (bodyOf text) := by
  rw [Json.bodyOf]
  induction text.toList with
  | nil => exact .nil
  | cons c text ih =>
    rw [List.flatMap_cons, Utf8.encodeChars_append]
    exact (IsBody.escapeChar c).append ih

theorem encodeChars_renderString (text : String) :
    Utf8.encodeChars (renderString text) = 0x22 :: (Json.bodyOf text ++ [0x22]) := by
  rw [renderString, Utf8.encodeChars_append, Utf8.encodeChars_cons]
  rfl

/-- From the quotation mark at the beginning of a string to the one at its end. -/
theorem feed_bodyOf (role : Role) (frames : List Frame) (text : String) :
    feed ⟨.string role [], frames⟩ (Json.bodyOf text ++ [0x22]) =
      endString frames role (Json.bodyOf text) := by
  have ended (body : Bytes) :
      step ⟨.string role body, frames⟩ 0x22 = endString frames role body.reverse := rfl
  rw [feed_append, IsBody.bodyOf text role [] frames, Option.bind_some, feed_cons, ended,
    List.append_nil, List.reverse_reverse]
  exact Option.bind_fun_some _

/-- **A written string** where a value begins. -/
theorem feed_string (frames : List Frame) (text : String) :
    feed ⟨.value, frames⟩ (Utf8.encodeChars (renderString text)) =
      deliver (.string (Json.bodyOf text)) frames := by
  rw [encodeChars_renderString, feed_cons]
  exact feed_bodyOf .value frames text

/-- **A written string** where the name of a member begins. -/
theorem feed_key (frames : List Frame) (text : String) :
    feed ⟨.key, frames⟩ (Utf8.encodeChars (renderString text)) =
      some ⟨.colon (Json.bodyOf text), frames⟩ := by
  rw [encodeChars_renderString, feed_cons]
  exact feed_bodyOf .key frames text

/-- A written string where the name of a first member begins. -/
theorem feed_firstKey (frames : List Frame) (text : String) :
    feed ⟨.keyOrEnd, frames⟩ (Utf8.encodeChars (renderString text)) =
      some ⟨.colon (Json.bodyOf text), frames⟩ := by
  rw [encodeChars_renderString, feed_cons]
  exact feed_bodyOf .key frames text

end Document

/-! ### The meaning of integers -/

/-- The number as it is written for an integer. -/
def numeralOf (n : Int) : Numeral where
  negative := decide (n < 0)
  whole := Utf8.encodeChars (Decimal.natDigits n.natAbs)
  fraction := []
  exponentNegative := false
  exponent := []

/-- A digit is one octet. -/
theorem encodeChar_of_isDigit {c : Char} (h : c.isDigit) :
    Utf8.encodeChar c = [UInt8.ofNat c.toNat] ∧
      0x30 ≤ (UInt8.ofNat c.toNat).toNat ∧ (UInt8.ofNat c.toNat).toNat ≤ 0x39 ∧
      (UInt8.ofNat c.toNat).toNat = c.toNat := by
  obtain ⟨least, greatest⟩ := Decimal.isDigit_iff.1 h
  have least : 0x30 ≤ c.toNat := least
  have greatest : c.toNat ≤ 0x39 := greatest
  have octet : (UInt8.ofNat c.toNat).toNat = c.toNat := Utf8.toNat_octet (by omega)
  refine ⟨?_, by omega, by omega, octet⟩
  rw [Utf8.encodeChar, if_pos (by omega)]

theorem le_ofDigitChars (text : List Char) (n : Nat) : n ≤ Nat.ofDigitChars 10 text n := by
  have weight : Nat.ofDigitChars 10 text n = 10 ^ text.length * n + Nat.ofDigitChars 10 text 0 :=
    Nat.ofDigitChars_eq_ofDigitChars_zero
  have := Nat.le_mul_of_pos_left n (Nat.pow_pos (n := text.length) (show 0 < 10 by decide))
  omega

namespace Numeral

/-- Digits are absorbed as long as the number they spell fits. -/
theorem absorb_encodeChars {text : List Char} (digits : ∀ c ∈ text, c.isDigit) (n : Nat)
    (fits : Nat.ofDigitChars 10 text n ≤ maxSignificand) :
    absorb n (Utf8.encodeChars text) = (Nat.ofDigitChars 10 text n, 0) := by
  induction text generalizing n with
  | nil =>
    rw [Nat.ofDigitChars_nil]
    rfl
  | cons c text ih =>
    obtain ⟨first, rest⟩ := List.forall_mem_cons.1 digits
    obtain ⟨octets, -, -, octet⟩ := encodeChar_of_isDigit first
    have next : n * 10 + (c.toNat - 0x30) = 10 * n + (c.toNat - '0'.toNat) := by
      rw [Nat.mul_comm]
      rfl
    rw [Nat.ofDigitChars_cons] at fits ⊢
    have below := Nat.le_trans (le_ofDigitChars text _) fits
    rw [Utf8.encodeChars_cons, octets, List.singleton_append, absorb]
    simp only [octet, next]
    rw [if_pos below]
    exact ih rest _ fits

/-- **A written integer** means the integer it was written for, if it fits 64 bits with or without
sign. -/
theorem integer?_numeralOf {n : Int} (least : -9223372036854775808 ≤ n)
    (greatest : n < 18446744073709551616) :
    (numeralOf n).integer? = some n := by
  have absorbed : absorb 0 (numeralOf n).whole = (n.natAbs, 0) := by
    have value := Decimal.ofDigitChars_natDigits n.natAbs
    have fits : n.natAbs ≤ maxSignificand := by
      rw [show maxSignificand = 2 ^ 64 - 1 from rfl]
      omega
    rw [numeralOf, absorb_encodeChars (fun _ => Decimal.isDigit_of_mem_natDigits) 0
      (by rw [value]; exact fits), value]
  have whole : (numeralOf n).isWhole = true := rfl
  have sign : (numeralOf n).negative = decide (n < 0) := rfl
  rw [integer?, absorbed]
  simp only [whole, sign, Bool.not_true, Bool.false_or, bne_self_eq_false, Bool.false_eq_true,
    if_false]
  by_cases negative : n < 0
  · have small : ¬(n.natAbs = 0 ∨ UInt64.size / 2 < n.natAbs) := by
      rw [show UInt64.size / 2 = 2 ^ 63 from rfl]
      omega
    rw [decide_eq_true negative, if_neg (by decide), if_neg small]
    congr 1
    omega
  · rw [decide_eq_false negative, if_pos (by decide)]
    congr 1
    omega

end Numeral

namespace Document

/-- A 64-bit integer is read as it was written. -/
theorem int64?_numeralOf (n : Int64) : (number (numeralOf n.toInt)).int64? = some n := by
  have least : -2 ^ 63 ≤ n.toInt := n.le_toInt
  have greatest : n.toInt < 2 ^ 63 := n.toInt_lt
  rw [int64?, integer?, Numeral.integer?_numeralOf least (by omega), Option.bind_some,
    Decimal.toInt64?, if_pos ⟨n.minValue_le_toInt, n.toInt_le⟩, Int64.ofInt_toInt]

/-! ### The grammar of integers -/

/-- An octet that no number contains after a digit. -/
def Ends (b : UInt8) : Prop :=
  isDigit b = false ∧ (b == 0x2E) = false ∧ (b == 0x65 || b == 0x45) = false

theorem isDigit_octet {c : Char} (h : c.isDigit) : isDigit (UInt8.ofNat c.toNat) = true := by
  obtain ⟨-, least, greatest, -⟩ := encodeChar_of_isDigit h
  rw [isDigit, Bool.and_eq_true, decide_eq_true_iff, decide_eq_true_iff, UInt8.le_iff_toNat_le,
    UInt8.le_iff_toNat_le]
  exact ⟨least, greatest⟩

/-- The digits before the point, after the first of them. -/
theorem feed_digits (numeral : Numeral) (frames : List Frame) {text : List Char}
    (digits : ∀ c ∈ text, c.isDigit) :
    feed ⟨.number .whole numeral, frames⟩ (Utf8.encodeChars text) =
      some ⟨.number .whole { numeral with whole := numeral.whole ++ Utf8.encodeChars text },
        frames⟩ := by
  induction text generalizing numeral with
  | nil =>
    rw [show Utf8.encodeChars [] = [] from rfl, List.append_nil]
    rfl
  | cons c text ih =>
    obtain ⟨first, rest⟩ := List.forall_mem_cons.1 digits
    have advanced : step ⟨.number .whole numeral, frames⟩ (UInt8.ofNat c.toNat) =
        some ⟨.number .whole { numeral with whole := numeral.whole ++ [UInt8.ofNat c.toNat] },
          frames⟩ := by
      rw [step]
      simp only [Phase.advance, isDigit_octet first, if_true]
    rw [Utf8.encodeChars_cons, (encodeChar_of_isDigit first).1, List.singleton_append, feed_cons,
      advanced, Option.bind_some, ih _ rest, List.append_assoc, List.singleton_append]

/-- The digits of a positive number begin with one other than zero. -/
theorem exists_natDigits_eq {n : Nat} (positive : 0 < n) :
    ∃ c text, Decimal.natDigits n = c :: text ∧ (∀ d ∈ text, d.isDigit) ∧
      Utf8.encodeChar c = [UInt8.ofNat c.toNat] ∧ isDigit (UInt8.ofNat c.toNat) = true ∧
      0x31 ≤ (UInt8.ofNat c.toNat).toNat ∧ (UInt8.ofNat c.toNat).toNat ≤ 0x39 := by
  obtain ⟨zero, -⟩ | ⟨-, c, text, eq, nonzero⟩ := Decimal.natDigits_cases n
  · omega
  have digits : ∀ d ∈ c :: text, d.isDigit := fun d mem =>
    Decimal.isDigit_of_mem_natDigits (eq ▸ mem)
  obtain ⟨first, rest⟩ := List.forall_mem_cons.1 digits
  obtain ⟨octets, least, greatest, octet⟩ := encodeChar_of_isDigit first
  have : c.toNat ≠ 0x30 := fun h => nonzero (Char.toNat_inj.1 h)
  exact ⟨c, text, eq, rest, octets, isDigit_octet first, by omega, greatest⟩

theorem not_beq_of_toNat {a b : UInt8} (h : a.toNat ≠ b.toNat) : (a == b) = false :=
  beq_eq_false_iff_ne.2 fun eq => h (congrArg UInt8.toNat eq)

/-- The digits of a positive number where a value begins. -/
theorem feed_positive (frames : List Frame) {n : Nat} (positive : 0 < n) :
    feed ⟨.value, frames⟩ (Utf8.encodeChars (Decimal.natDigits n)) =
      some ⟨.number .whole ⟨false, Utf8.encodeChars (Decimal.natDigits n), [], false, []⟩,
        frames⟩ := by
  obtain ⟨c, text, eq, rest, octets, digit, least, greatest⟩ := exists_natDigits_eq positive
  have differs {b : UInt8} (h : ¬(0x31 ≤ b.toNat ∧ b.toNat ≤ 0x39)) :
      (UInt8.ofNat c.toNat == b) = false := not_beq_of_toNat (by omega)
  have begun : step ⟨.value, frames⟩ (UInt8.ofNat c.toNat) =
      some ⟨.number .whole ⟨false, [UInt8.ofNat c.toNat], [], false, []⟩, frames⟩ := by
    rw [step]
    simp only [isSpace, beginValue, digit, differs (b := 0x20) (by decide),
      differs (b := 0x0A) (by decide), differs (b := 0x0D) (by decide),
      differs (b := 0x09) (by decide), differs (b := 0x22) (by decide),
      differs (b := 0x5B) (by decide), differs (b := 0x7B) (by decide),
      differs (b := 0x2D) (by decide), differs (b := 0x30) (by decide), Bool.or_false,
      Bool.false_eq_true, if_false, if_true]
  rw [eq, Utf8.encodeChars_cons, octets, List.singleton_append, feed_cons, begun,
    Option.bind_some, feed_digits _ _ rest, List.singleton_append]

/-- The digits of a positive number after a minus sign. -/
theorem feed_afterMinus (frames : List Frame) {n : Nat} (positive : 0 < n) :
    feed ⟨.number .minus ⟨true, [], [], false, []⟩, frames⟩
        (Utf8.encodeChars (Decimal.natDigits n)) =
      some ⟨.number .whole ⟨true, Utf8.encodeChars (Decimal.natDigits n), [], false, []⟩,
        frames⟩ := by
  obtain ⟨c, text, eq, rest, octets, digit, least, greatest⟩ := exists_natDigits_eq positive
  have notZero : (UInt8.ofNat c.toNat == 0x30) = false :=
    not_beq_of_toNat (show _ ≠ 0x30 by omega)
  have begun : step ⟨.number .minus ⟨true, [], [], false, []⟩, frames⟩ (UInt8.ofNat c.toNat) =
      some ⟨.number .whole ⟨true, [UInt8.ofNat c.toNat], [], false, []⟩, frames⟩ := by
    rw [step]
    simp only [Phase.advance, notZero, digit, Bool.false_eq_true, if_false, if_true]
  rw [eq, Utf8.encodeChars_cons, octets, List.singleton_append, feed_cons, begun,
    Option.bind_some, feed_digits _ _ rest, List.singleton_append]

/-- The written integer is a number that may end and has no more digits to take. -/
theorem feed_intDigits (frames : List Frame) (n : Int) :
    ∃ phase : Phase, phase.isFinal = true ∧
      (∀ b, Ends b → phase.advance (numeralOf n) b = none) ∧
      feed ⟨.value, frames⟩ (Utf8.encodeChars (Decimal.intDigits n)) =
        some ⟨.number phase (numeralOf n), frames⟩ := by
  have whole (b : UInt8) (h : Ends b) : Phase.advance (numeralOf n) b .whole = none := by
    obtain ⟨digit, point, mark⟩ := h
    simp only [Phase.advance, digit, point, mark, Bool.false_eq_true, if_false]
  have zero (b : UInt8) (h : Ends b) : Phase.advance (numeralOf n) b .zero = none := by
    obtain ⟨-, point, mark⟩ := h
    simp only [Phase.advance, point, mark, Bool.false_eq_true, if_false]
  match n with
  | .ofNat 0 => exact ⟨.zero, rfl, zero, rfl⟩
  | .ofNat (n + 1) =>
    refine ⟨.whole, rfl, whole, ?_⟩
    rw [Decimal.intDigits, feed_positive frames n.succ_pos]
    rfl
  | .negSucc n =>
    refine ⟨.whole, rfl, whole, ?_⟩
    have minus : step ⟨.value, frames⟩ 0x2D =
        some ⟨.number .minus ⟨true, [], [], false, []⟩, frames⟩ := rfl
    have numeral : numeralOf (.negSucc n) =
        ⟨true, Utf8.encodeChars (Decimal.natDigits (n + 1)), [], false, []⟩ := by
      rw [numeralOf, decide_eq_true (Int.negSucc_lt_zero n)]
      rfl
    rw [Decimal.intDigits, Utf8.encodeChars_cons, show Utf8.encodeChar '-' = [0x2D] from rfl,
      List.singleton_append, feed_cons, minus, Option.bind_some, numeral]
    exact feed_afterMinus frames n.succ_pos

/-- **A written integer** where a value begins, up to the octet that ends it. -/
theorem feed_integer (frames : List Frame) (n : Int) {b : UInt8} (ends : Ends b) (rest : Bytes) :
    feed ⟨.value, frames⟩ (Utf8.encodeChars (Decimal.intDigits n) ++ b :: rest) =
      ((deliver (.number (numeralOf n)) frames).bind fun state => stepAfterValue state b).bind
        fun state => feed state rest := by
  obtain ⟨phase, final, noMore, fed⟩ := feed_intDigits frames n
  have ended : step ⟨.number phase (numeralOf n), frames⟩ b =
      (deliver (.number (numeralOf n)) frames).bind fun state => stepAfterValue state b := by
    rw [step]
    simp only [noMore b ends, final, if_true]
  rw [feed_append, fed, Option.bind_some, feed_cons, ended]

end Document

end Json

end GatewaySession
