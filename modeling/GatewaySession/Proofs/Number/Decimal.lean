import GatewaySession.Number.Decimal

/-!
# Reading what was written in decimal

The digits of a natural number are digits, and read from left to right they give the number back.
Zeros in front change the length and nothing else, so a number padded to a width that it fits has
exactly that width.

The texts that are read as an integer are not only those that are written: zeros in front and a plus
sign are allowed. Which they are is said once, by what a text spells, and reading is that.

## Main definitions

* `Decimal.IsRun`, `Decimal.Spells` — what a run of digits, with or without a sign, stands for

## Main results

* `Decimal.digits?_eq_some_iff` — a run of digits, by the positional value of the library
* `Decimal.digits?_padded` — padded numbers
* `Decimal.length_padded` — the width of a padded number
* `Decimal.readInt64?_eq_some_iff` — texts of integers
-/

namespace GatewaySession

namespace Decimal

/-! ### Runs of digits -/

theorem isDigit_iff {c : Char} : c.isDigit = true ↔ '0' ≤ c ∧ c ≤ '9' := by
  simp only [Char.isDigit, Bool.and_eq_true, decide_eq_true_eq]
  exact Iff.rfl

theorem digit?_of_isDigit {c : Char} (h : c.isDigit) : digit? c = some (c.toNat - '0'.toNat) := by
  rw [digit?, if_pos (isDigit_iff.1 h)]

theorem digitsFrom?_eq {text : List Char} (h : ∀ c ∈ text, c.isDigit) (value : Nat) :
    digitsFrom? value text = some (Nat.ofDigitChars 10 text value) := by
  induction text generalizing value with
  | nil => simp [digitsFrom?]
  | cons c text ih =>
    obtain ⟨first, rest⟩ := List.forall_mem_cons.1 h
    rw [digitsFrom?, digit?_of_isDigit first, Nat.ofDigitChars_cons, Nat.mul_comm 10 value]
    exact ih rest _

/-- A run of digits has its positional value. -/
theorem digits?_eq {text : List Char} (h : ∀ c ∈ text, c.isDigit) (some_digit : text ≠ []) :
    digits? text = some (Nat.ofDigitChars 10 text 0) := by
  cases text with
  | nil => exact absurd rfl some_digit
  | cons c text => exact digitsFrom?_eq h 0

theorem isDigit_of_digitsFrom? {text : List Char} {value n : Nat}
    (h : digitsFrom? value text = some n) : ∀ c ∈ text, c.isDigit := by
  induction text generalizing value with
  | nil => exact fun c mem => absurd mem List.not_mem_nil
  | cons c text ih =>
    simp only [digitsFrom?, Option.bind_eq_bind, Option.bind_eq_some_iff] at h
    obtain ⟨d, digit, rest⟩ := h
    refine List.forall_mem_cons.2 ⟨?_, ih rest⟩
    rw [digit?] at digit
    split at digit
    next within => exact isDigit_iff.2 within
    · cases digit

/-- Whether a text is a non-empty run of digits that stands for a number. -/
structure IsRun (text : List Char) (n : Nat) : Prop where
  /-- There is a digit. -/
  ne_nil : text ≠ []
  /-- There is nothing else. -/
  isDigit : ∀ c ∈ text, c.isDigit
  /-- The number is the positional value of the digits. -/
  value : Nat.ofDigitChars 10 text 0 = n

/-- **A run of digits** is read as its positional value, and nothing else is read. -/
theorem digits?_eq_some_iff {text : List Char} {n : Nat} :
    digits? text = some n ↔ IsRun text n := by
  constructor
  · intro h
    cases text with
    | nil => cases h
    | cons c text =>
      have digits : ∀ d ∈ c :: text, d.isDigit := isDigit_of_digitsFrom? h
      exact ⟨nofun, digits, Option.some.inj ((digits?_eq digits nofun).symm.trans h)⟩
  · rintro ⟨some_digit, digits, rfl⟩
    exact digits?_eq digits some_digit

/-! ### Natural numbers -/

theorem isDigit_of_mem_natDigits {n : Nat} {c : Char} (h : c ∈ natDigits n) : c.isDigit :=
  Nat.isDigit_of_mem_toDigits (by decide) (by decide) h

theorem natDigits_ne_nil (n : Nat) : natDigits n ≠ [] := Nat.toDigits_ne_nil

@[simp] theorem ofDigitChars_natDigits (n : Nat) : Nat.ofDigitChars 10 (natDigits n) 0 = n :=
  Nat.ofDigitChars_ten_toDigits

/-- Only zero begins with the digit zero. -/
theorem natDigits_cases (n : Nat) :
    n = 0 ∧ natDigits n = ['0'] ∨
      0 < n ∧ ∃ first rest, natDigits n = first :: rest ∧ first ≠ '0' := by
  induction n using Nat.strongRecOn with
  | ind n ih =>
    rcases Nat.lt_or_ge n 10 with small | large
    · rcases Nat.eq_zero_or_pos n with rfl | positive
      · exact .inl ⟨rfl, Nat.toDigits_zero 10⟩
      · refine .inr ⟨positive, n.digitChar, [], Nat.toDigits_of_lt_base small, fun h => ?_⟩
        have code := Nat.toNat_digitChar_of_lt_ten small
        rw [h, show ('0').toNat = 48 from rfl] at code
        omega
    · rcases ih (n / 10) (by omega) with ⟨zero, -⟩ | ⟨-, first, rest, eq, nonzero⟩
      · omega
      · refine .inr ⟨by omega, first, rest ++ [(n % 10).digitChar], ?_, nonzero⟩
        rw [natDigits] at eq ⊢
        rw [Nat.toDigits_of_base_le (by decide) large, eq, List.cons_append]

/-! ### Padded numbers -/

theorem isDigit_of_mem_padded {width n : Nat} {c : Char} (h : c ∈ padded width n) : c.isDigit := by
  rcases List.mem_append.1 h with zero | digit
  · rw [List.eq_of_mem_replicate zero]
    rfl
  · exact isDigit_of_mem_natDigits digit

theorem padded_ne_nil (width n : Nat) : padded width n ≠ [] := fun h =>
  natDigits_ne_nil n (List.append_eq_nil_iff.1 h).2

/-- **A padded number** is read as the number. -/
theorem digits?_padded (width n : Nat) : digits? (padded width n) = some n := by
  rw [digits?_eq (fun _ => isDigit_of_mem_padded) (padded_ne_nil width n), padded,
    Nat.ofDigitChars_append, Nat.ofDigitChars_replicate_zero, Nat.mul_zero, ofDigitChars_natDigits]

/-- A number that fits a width is padded to that width. -/
theorem length_padded {width n : Nat} (positive : 0 < width) (fits : n < Nat.pow 10 width) :
    (padded width n).length = width := by
  have short : (natDigits n).length ≤ width :=
    (Nat.length_toDigits_le_iff (by decide) positive).2 fits
  simp only [padded, List.length_append, List.length_replicate]
  omega

/-! ### Integers -/

/-- What a text with an optional sign stands for. -/
inductive Spells : List Char → Int → Prop
  | plain {text : List Char} {n : Nat} (digits : IsRun text n) : Spells text n
  | plus {text : List Char} {n : Nat} (digits : IsRun text n) : Spells ('+' :: text) n
  | minus {text : List Char} {n : Nat} (digits : IsRun text n) : Spells ('-' :: text) (-n)

/-- A run of digits begins with no sign. -/
theorem IsRun.ne_of_cons {c sign : Char} {rest : List Char} {n : Nat} (h : IsRun (c :: rest) n)
    (notDigit : sign.isDigit = false) : c ≠ sign := by
  rintro rfl
  have digit := h.isDigit c List.mem_cons_self
  rw [notDigit] at digit
  cases digit

theorem unsigned?_of_isRun {text : List Char} {n : Nat} (h : IsRun text n) :
    unsigned? text = some n := by
  cases text with
  | nil => exact absurd rfl h.ne_nil
  | cons c rest =>
    rw [unsigned?.eq_2 _ fun _ same => h.ne_of_cons (by decide) (List.cons.inj same).1]
    exact digits?_eq_some_iff.2 h

theorem signed?_minus (text : List Char) :
    signed? ('-' :: text) = (digits? text).map fun n : Nat => -(n : Int) := by
  rw [signed?]
  cases digits? text <;> rfl

theorem signed?_of_not_minus {text : List Char} (h : ∀ rest, text ≠ '-' :: rest) :
    signed? text = (unsigned? text).map fun n : Nat => (n : Int) := by
  rw [signed?.eq_2 _ h]
  cases unsigned? text <;> rfl

/-- **A text is read** as the integer that it spells. -/
theorem signed?_eq_some_iff {text : List Char} {n : Int} :
    signed? text = some n ↔ Spells text n := by
  constructor
  · intro h
    by_cases minus : ∃ rest, text = '-' :: rest
    · obtain ⟨rest, rfl⟩ := minus
      rw [signed?_minus] at h
      obtain ⟨m, digits, rfl⟩ := Option.map_eq_some_iff.1 h
      exact .minus (digits?_eq_some_iff.1 digits)
    rw [signed?_of_not_minus fun rest same => minus ⟨rest, same⟩] at h
    obtain ⟨m, digits, rfl⟩ := Option.map_eq_some_iff.1 h
    by_cases plus : ∃ rest, text = '+' :: rest
    · obtain ⟨rest, rfl⟩ := plus
      exact .plus (digits?_eq_some_iff.1 digits)
    · rw [unsigned?.eq_2 _ fun rest same => plus ⟨rest, same⟩] at digits
      exact .plain (digits?_eq_some_iff.1 digits)
  · rintro (digits | digits | digits)
    · rw [signed?_of_not_minus, unsigned?_of_isRun digits]
      · rfl
      · rintro rest rfl
        exact digits.ne_of_cons (by decide) rfl
    · rw [signed?_of_not_minus fun rest same => absurd (List.cons.inj same).1 (by decide),
        show unsigned? ('+' :: _) = digits? _ from rfl, digits?_eq_some_iff.2 digits]
      rfl
    · rw [signed?_minus, digits?_eq_some_iff.2 digits]
      rfl

/-- **A time in text** is read as the integer that it spells, if that fits 64 bits with sign. -/
theorem readInt64?_eq_some_iff {text : String} {word : Int64} :
    readInt64? text = some word ↔ Spells text.toList word.toInt := by
  rw [readInt64?, Option.bind_eq_some_iff]
  constructor
  · rintro ⟨n, read, fits⟩
    rw [toInt64?] at fits
    split at fits
    next within =>
      obtain rfl := Option.some.inj fits
      rw [Int64.toInt_minValue, Int64.toInt_maxValue] at within
      rw [Int64.toInt_ofInt_of_le within.1 (by omega)]
      exact signed?_eq_some_iff.1 read
    · cases fits
  · intro h
    refine ⟨word.toInt, signed?_eq_some_iff.2 h, ?_⟩
    rw [toInt64?, if_pos ⟨Int64.minValue_le_toInt word, Int64.toInt_le word⟩, Int64.ofInt_toInt]

end Decimal

end GatewaySession
