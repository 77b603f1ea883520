import GatewaySession.Proofs.Number.Decimal
import GatewaySession.Proofs.Timestamp.Calendar

/-!
# Reading the points in time that were written

The written form has fixed widths: four digits for the year, two for each of the parts after it, and
three, six or nine for a fraction. So every number ends where its width ends or where something
other than a digit stands, and the white space that reading would skip is never there.

## Main definitions

* `Timestamp.IsPlain` — a year of four digits and no leap second

## Main results

* `Timestamp.parseChars?_renderChars`, `Timestamp.parse?_render` — a plain point in time is read as
  it was written
-/

namespace GatewaySession

namespace Timestamp

/-- Whether the year has four digits and the second is no leap second. -/
def IsPlain (t : Timestamp) : Prop :=
  0 ≤ (Date.ofDays (t.seconds / daySeconds)).year ∧
    (Date.ofDays (t.seconds / daySeconds)).year ≤ 9999 ∧ t.nanos < secondNanos

instance (t : Timestamp) : Decidable t.IsPlain := inferInstanceAs (Decidable (_ ∧ _ ∧ _))

/-! ### Numbers -/

theorem isBlank_of_isDigit {c : Char} (h : c.isDigit) : Text.isBlank c = false := by
  obtain ⟨least, greatest⟩ := Decimal.isDigit_iff.1 h
  have least : 0x30 ≤ c.toNat := least
  have greatest : c.toNat ≤ 0x39 := greatest
  simp only [Text.isBlank, Bool.or_eq_false_iff, Bool.and_eq_false_iff, decide_eq_false_iff_not,
    beq_eq_false_iff_ne, Nat.not_le]
  omega

theorem skipBlank_cons {c : Char} (h : Text.isBlank c = false) (rest : List Char) :
    skipBlank (c :: rest) = c :: rest := by
  rw [skipBlank, List.dropWhile_cons_of_neg (by rw [h]; decide)]

/-- There is no white space in front of a number. -/
theorem skipBlank_digits {digits : List Char} (h : ∀ c ∈ digits, c.isDigit) (nonempty : digits ≠ [])
    (rest : List Char) : skipBlank (digits ++ rest) = digits ++ rest := by
  cases digits with
  | nil => exact absurd rfl nonempty
  | cons c digits => exact skipBlank_cons (isBlank_of_isDigit (h c List.mem_cons_self)) _

/-- A run of digits ends at the limit, or before what is no digit. -/
theorem digitsUpTo?_digits {limit : Nat} {digits : List Char} (h : ∀ c ∈ digits, c.isDigit)
    (nonempty : digits ≠ []) (fits : digits.length ≤ limit) {c : Char} (stop : c.isDigit = false)
    (rest : List Char) :
    digitsUpTo? limit (digits ++ c :: rest) =
      some (Nat.ofDigitChars 10 digits 0, digits.length, c :: rest) := by
  have ended : ((c :: rest).take (limit - digits.length)).takeWhile Char.isDigit = [] := by
    cases limit - digits.length with
    | zero => rfl
    | succ k => rw [List.take_succ_cons, List.takeWhile_cons_of_neg (by rw [stop]; decide)]
  have run : ((digits ++ c :: rest).take limit).takeWhile Char.isDigit = digits := by
    rw [List.take_append, List.take_of_length_le fits, List.takeWhile_append_of_pos h, ended,
      List.append_nil]
  rw [digitsUpTo?, run, Decimal.digits?_eq h nonempty, List.drop_left]
  rfl

theorem digitsUpTo?_padded {limit width n : Nat} (positive : 0 < width)
    (fits : n < Nat.pow 10 width) (short : width ≤ limit) {c : Char} (stop : c.isDigit = false)
    (rest : List Char) :
    digitsUpTo? limit (Decimal.padded width n ++ c :: rest) = some (n, width, c :: rest) := by
  have length := Decimal.length_padded positive fits
  have value := Decimal.digits?_padded width n
  rw [Decimal.digits?_eq (fun _ => Decimal.isDigit_of_mem_padded)
    (Decimal.padded_ne_nil width n)] at value
  rw [digitsUpTo?_digits (fun _ => Decimal.isDigit_of_mem_padded) (Decimal.padded_ne_nil width n)
    (by omega) stop, length, Option.some.inj value]

/-- A number of two digits. -/
theorem number?_padded {n : Nat} (fits : n < 100) {c : Char} (stop : c.isDigit = false)
    (rest : List Char) : number? 2 (Decimal.padded 2 n ++ c :: rest) = some (n, c :: rest) := by
  rw [number?, skipBlank_digits (fun _ => Decimal.isDigit_of_mem_padded)
    (Decimal.padded_ne_nil 2 n), digitsUpTo?_padded (by decide) fits (Nat.le_refl 2) stop]
  rfl

/-- A year of four digits. -/
theorem year?_padded {n : Nat} (fits : n < 10000) (rest : List Char) :
    year? (Decimal.padded 4 n ++ '-' :: rest) = some ((n : Int), '-' :: rest) := by
  have short : 4 ≤ 4 := Nat.le_refl 4
  have read := digitsUpTo?_padded (by decide) fits short (show ('-').isDigit = false from rfl) rest
  have digit : ∀ c ∈ Decimal.padded 4 n, c.isDigit := fun _ => Decimal.isDigit_of_mem_padded
  rw [year?, skipBlank_digits digit (Decimal.padded_ne_nil 4 n)]
  cases eq : Decimal.padded 4 n with
  | nil => exact absurd eq (Decimal.padded_ne_nil 4 n)
  | cons c digits =>
    have first : c.isDigit := digit c (eq ▸ List.mem_cons_self)
    rw [eq] at read
    rw [List.cons_append] at read ⊢
    split
    · next h =>
      rw [(List.cons.inj h).1] at first
      exact absurd first (by decide)
    · next h =>
      rw [(List.cons.inj h).1] at first
      exact absurd first (by decide)
    · rw [read]
      rfl

theorem mark?_self {c : Char} (visible : Text.isBlank c = false) (rest : List Char) :
    mark? c (c :: rest) = some rest := by
  rw [mark?, skipBlank_cons visible]
  simp only [if_true]

/-! ### Fractions -/

/-- A fraction of a width is read in nanoseconds. -/
theorem fraction?_padded {width n : Nat} (positive : 0 < width) (short : width ≤ 9)
    (fits : n < Nat.pow 10 width) (rest : List Char) :
    fraction? ('.' :: Decimal.padded width n ++ 'Z' :: rest) =
      some (n * Nat.pow 10 (9 - width), 'Z' :: rest) := by
  rw [List.cons_append, fraction?,
    digitsUpTo?_padded positive fits short (show ('Z').isDigit = false from rfl)]
  rfl

/-- **A written fraction** is read as it was written. -/
theorem fraction?_renderFraction {nanos : Nat} (less : nanos < secondNanos) (rest : List Char) :
    fraction? (renderFraction nanos ++ 'Z' :: rest) = some (nanos, 'Z' :: rest) := by
  have less : nanos < 1000000000 := less
  rw [renderFraction]
  split
  · next zero =>
    rw [zero]
    rfl
  split
  · next millis =>
    have whole : nanos / 1000000 * 1000000 = nanos := by omega
    rw [fraction?_padded (by decide) (by decide) (show nanos / 1000000 < 1000 by omega),
      show nanos / 1000000 * Nat.pow 10 (9 - 3) = nanos from whole]
  split
  · next micros =>
    have whole : nanos / 1000 * 1000 = nanos := by omega
    rw [fraction?_padded (by decide) (by decide) (show nanos / 1000 < 1000000 by omega),
      show nanos / 1000 * Nat.pow 10 (9 - 6) = nanos from whole]
  · rw [fraction?_padded (by decide) (by decide) less,
      show nanos * Nat.pow 10 (9 - 9) = nanos from Nat.mul_one nanos]

/-! ### Points in time -/

/-- The days of the years of four digits. -/
theorem days_of_year {days : Int} (least : 0 ≤ (Date.ofDays days).year)
    (greatest : (Date.ofDays days).year ≤ 9999) : -720000 ≤ days ∧ days ≤ 3000000 := by
  have count := Date.toDays_ofDays days
  obtain ⟨month1, month12, day1, day31⟩ := Date.isValid_ofDays days
  have short := Nat.le_trans day31 (Date.daysIn_le _ _)
  rw [Date.toDays] at count
  generalize Date.ofDays days = date at *
  split at count
  · omega
  · omega

/-- A day of a year of four digits and the parts of a second of that day make up a point in
time. -/
theorem ofParts?_parts {days : Int} (early : -720000 ≤ days) (late : days ≤ 3000000)
    (clock : Nat) (less : clock < 86400) (nanos : Nat) :
    ofParts? (Date.ofDays days) (clock / 3600) (clock / 60 % 60) (clock % 60) nanos 0 =
      some ⟨days * daySeconds + clock, nanos⟩ := by
  have whole : clock / 3600 * 3600 + clock / 60 % 60 * 60 + clock % 60 = clock := by omega
  have within : inRange (days * daySeconds + clock) = true := by
    rw [inRange, Bool.and_eq_true, decide_eq_true_iff, decide_eq_true_iff,
      show Date.toDays ⟨-262143, 1, 1⟩ = -96465292 by decide,
      show Date.toDays ⟨262142, 12, 31⟩ = 95026236 by decide, show daySeconds = 86400 from rfl]
    omega
  rw [ofParts?, if_pos ⟨Date.isValid_ofDays days, by omega, by omega, by omega⟩]
  simp only [Date.toDays_ofDays, whole, if_neg (show ¬clock % 60 = 60 by omega), Int.sub_zero,
    Int.natCast_zero, within, Nat.zero_mul, Nat.add_zero, and_self, if_true]

/-- The text of a plain point in time by its parts. -/
theorem renderChars_of_isPlain {t : Timestamp} (plain : t.IsPlain) :
    t.renderChars =
      Decimal.padded 4 (Date.ofDays (t.seconds / daySeconds)).year.toNat ++ '-' ::
        (Decimal.padded 2 (Date.ofDays (t.seconds / daySeconds)).month ++ '-' ::
          (Decimal.padded 2 (Date.ofDays (t.seconds / daySeconds)).day ++ 'T' ::
            (Decimal.padded 2 ((t.seconds % daySeconds).toNat / 3600) ++ ':' ::
              (Decimal.padded 2 ((t.seconds % daySeconds).toNat / 60 % 60) ++ ':' ::
                (Decimal.padded 2 ((t.seconds % daySeconds).toNat % 60) ++
                  (renderFraction t.nanos ++ ['Z'])))))) := by
  obtain ⟨least, greatest, less⟩ := plain
  rw [renderChars]
  simp only [if_neg (Nat.not_le.2 less), renderYear, if_pos (And.intro least greatest),
    Nat.zero_mul, Nat.sub_zero, Nat.add_zero, List.append_assoc, List.cons_append]

/-- **A plain point in time** is read as it was written. -/
theorem parseChars?_renderChars {t : Timestamp} (plain : t.IsPlain) :
    parseChars? t.renderChars = some t := by
  obtain ⟨month1, month12, day1, day31⟩ := Date.isValid_ofDays (t.seconds / daySeconds)
  have short := Nat.le_trans day31 (Date.daysIn_le _ _)
  have clock0 : 0 ≤ t.seconds % daySeconds := Int.emod_nonneg _ (by decide)
  have clock1 : t.seconds % daySeconds < 86400 := Int.emod_lt_of_pos _ (by decide)
  have fraction := fraction?_renderFraction plain.2.2 []
  rw [renderChars_of_isPlain plain]
  obtain ⟨least, greatest, -⟩ := plain
  obtain ⟨early, late⟩ := days_of_year least greatest
  have parts := ofParts?_parts early late (t.seconds % daySeconds).toNat (by omega) t.nanos
  rw [Int.toNat_of_nonneg clock0, Int.mul_comm, Int.mul_ediv_add_emod] at parts
  have year : ((Date.ofDays (t.seconds / daySeconds)).year.toNat : Int) =
      (Date.ofDays (t.seconds / daySeconds)).year := Int.toNat_of_nonneg least
  obtain ⟨head, rest, eq, noDigit⟩ : ∃ c rest, renderFraction t.nanos ++ ['Z'] = c :: rest ∧
      c.isDigit = false := by
    rw [renderFraction]
    repeat' split
    all_goals exact ⟨_, _, rfl, rfl⟩
  rw [parseChars?, year?_padded (by omega)]
  simp only [Option.bind_eq_bind, Option.bind_some]
  rw [mark?_self rfl, Option.bind_some, number?_padded (by omega) rfl, Option.bind_some]
  simp only
  rw [mark?_self rfl, Option.bind_some, number?_padded (by omega) rfl, Option.bind_some]
  simp only [true_or, if_true]
  rw [number?_padded (by omega) rfl, Option.bind_some]
  simp only
  rw [mark?_self rfl, Option.bind_some, number?_padded (by omega) rfl, Option.bind_some]
  simp only
  rw [mark?_self rfl, Option.bind_some, eq, number?_padded (by omega) noDigit, Option.bind_some,
    ← eq]
  simp only
  rw [fraction, Option.bind_some]
  simp only
  rw [show offset? (skipBlank ['Z']) = some (0, []) from rfl, Option.bind_some, year]
  exact parts

/-- **A plain point in time** is read as it was written. -/
@[simp] theorem parse?_render {t : Timestamp} (plain : t.IsPlain) : parse? t.render = some t := by
  rw [parse?, render, String.toList_ofList, parseChars?_renderChars plain]

end Timestamp

end GatewaySession
