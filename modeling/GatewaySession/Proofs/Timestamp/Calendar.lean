import GatewaySession.Timestamp

/-!
# Days and dates

Converting a count of days to a date and back gives the count, and the date is one that the calendar
has. A count of days is taken apart twice: into cycles of 400 years, whose days are taken apart into
centuries, spans of four years and what is left, and then, within a year that begins in March, into
months. The formula for the year corrects for leap days by three quotients; the parts tell which
corrections are made.

## Main definitions

* `Date.ofMarchYear` — the date of a day within a year that begins in March

## Main results

* `Date.isValid_ofDays` — every count of days is a date of the calendar
* `Date.toDays_ofDays` — and the date has that count of days
-/

namespace GatewaySession

namespace Date

/-! ### Years -/

/-- A day of a cycle as centuries, spans of four years, and days. Only the last century of the cycle
has a last day in its last span. -/
theorem exists_parts {day : Int} (least : 0 ≤ day) (less : day < 146097) :
    ∃ century span rest : Int, day = 36524 * century + 1461 * span + rest ∧
      (0 ≤ century ∧ century ≤ 3) ∧ (0 ≤ span ∧ span ≤ 24) ∧ (0 ≤ rest ∧ rest ≤ 1460) ∧
      (span = 24 → rest = 1460 → century = 3) := by
  rcases Int.lt_or_eq_of_le (show day ≤ 146096 by omega) with h | rfl
  · exact ⟨day / 36524, day % 36524 / 1461, day % 36524 % 1461, by omega, by omega, by omega,
      by omega, by omega⟩
  · exact ⟨3, 24, 1460, by decide⟩

/-- The year of a day in a cycle. The formula subtracts a day for each span of four years that is
complete but for its leap day, and gives one back for each century but the last day. -/
theorem yearOfCycle {day century span rest : Int}
    (parts : day = 36524 * century + 1461 * span + rest) (hcentury : 0 ≤ century ∧ century ≤ 3)
    (hspan : 0 ≤ span ∧ span ≤ 24) (hrest : 0 ≤ rest ∧ rest ≤ 1460)
    (last : span = 24 → rest = 1460 → century = 3) :
    ∃ year, 0 ≤ year ∧ year ≤ 3 ∧ 0 ≤ rest - 365 * year ∧ rest - 365 * year ≤ 365 ∧
      (rest - 365 * year = 365 → year = 3) ∧
      (day - day / 1460 + day / 36524 - day / 146096) / 365 = 100 * century + 4 * span + year := by
  have within : 1461 * span + rest ≤ 36524 := by omega
  have centuries : day / 36524 - day / 146096 = century := by
    obtain rfl | rfl | rfl | rfl : century = 0 ∨ century = 1 ∨ century = 2 ∨ century = 3 := by
      omega
    · omega
    · omega
    · omega
    · rcases Int.lt_or_eq_of_le within with h | h
      · omega
      · omega
  have spans : day / 1460 = 25 * century + span + (24 * century + span + rest) / 1460 := by omega
  have corrected : day - day / 1460 + day / 36524 - day / 146096 =
      365 * (100 * century + 4 * span) + (rest - (24 * century + span + rest) / 1460) := by
    omega
  refine ⟨(rest - (24 * century + span + rest) / 1460) / 365, by omega, by omega, by omega,
    by omega, by omega, ?_⟩
  rw [corrected]
  omega

/-- The date of a day within a year that begins in March. -/
def ofMarchYear (year day : Int) : Date :=
  let month := (5 * day + 2) / 153
  let calendarMonth := if month < 10 then month + 3 else month - 9
  ⟨year + if calendarMonth ≤ 2 then 1 else 0, calendarMonth.toNat,
    (day - (153 * month + 2) / 5 + 1).toNat⟩

theorem isLeap_of_four {year : Int} (four : year % 4 = 0)
    (hundred : year % 100 = 0 → year % 400 = 0) : isLeap year = true := by
  simp only [isLeap, four, beq_self_eq_true, Bool.true_and, Bool.or_eq_true, bne_iff_ne,
    beq_iff_eq]
  by_cases h : year % 100 = 0
  · exact .inr (hundred h)
  · exact .inl h

/-- The leap days before a year that begins in March, by the parts of the year. -/
theorem leapDays_of_parts (cycle : Int) {century span year : Int}
    (hcentury : 0 ≤ century ∧ century ≤ 3) (hspan : 0 ≤ span ∧ span ≤ 24)
    (hyear : 0 ≤ year ∧ year ≤ 3) :
    (100 * century + 4 * span + year + cycle * 400) / 4 = 25 * century + span + 100 * cycle ∧
      (100 * century + 4 * span + year + cycle * 400) / 100 = century + 4 * cycle ∧
      (100 * century + 4 * span + year + cycle * 400) / 400 = cycle := by
  refine ⟨by omega, by omega, by omega⟩

/-- The last day of a year of 366 days is a leap day. -/
theorem isLeap_of_last (cycle : Int) {century span : Int} (hspan : 0 ≤ span ∧ span ≤ 24)
    (last : span = 24 → century = 3) :
    isLeap (100 * century + 4 * span + 3 + cycle * 400 + 1) = true :=
  isLeap_of_four (by omega) (by omega)

/-- The date of a day of a cycle, by its parts. -/
theorem ofDays_of_parts {days cycle day century span year rest : Int}
    (hcycle : (days + 719468) / 146097 = cycle) (hday : (days + 719468) % 146097 = day)
    (parts : day = 36524 * century + 1461 * span + rest)
    (hcentury : 0 ≤ century ∧ century ≤ 3) (hspan : 0 ≤ span ∧ span ≤ 24)
    (hyear : 0 ≤ year ∧ year ≤ 3)
    (formula : (day - day / 1460 + day / 36524 - day / 146096) / 365 =
      100 * century + 4 * span + year) :
    ofDays days =
      ofMarchYear (100 * century + 4 * span + year + cycle * 400) (rest - 365 * year) := by
  obtain ⟨fourth, hundredth, -⟩ := leapDays_of_parts 0 hcentury hspan hyear
  simp only [Int.zero_mul, Int.mul_zero, Int.add_zero] at fourth hundredth
  have inYear : day - (365 * (100 * century + 4 * span + year) + (25 * century + span) - century) =
      rest - 365 * year := by
    clear formula fourth hundredth hcycle hday
    omega
  rw [ofDays, ofMarchYear]
  simp only [hcycle, hday, formula, fourth, hundredth, inYear]

/-- The year that begins in March, and the day in it, of a count of days. -/
theorem exists_marchYear (days : Int) : ∃ year day : Int,
    0 ≤ day ∧ day ≤ 365 ∧ (day = 365 → isLeap (year + 1) = true) ∧
      days = 365 * year + year / 4 - year / 100 + year / 400 + day - 719468 ∧
      ofDays days = ofMarchYear year day := by
  have count := Int.emod_add_mul_ediv (days + 719468) 146097
  have day0 := Int.emod_nonneg (days + 719468) (show (146097 : Int) ≠ 0 by decide)
  have less := Int.emod_lt_of_pos (days + 719468) (show (0 : Int) < 146097 by decide)
  generalize hday : (days + 719468) % 146097 = day at count day0 less
  generalize hcycle : (days + 719468) / 146097 = cycle at count
  obtain ⟨century, span, rest, parts, hcentury, hspan, hrest, last⟩ := exists_parts day0 less
  obtain ⟨year, year0, year3, least, greatest, leapDay, formula⟩ :=
    yearOfCycle parts hcentury hspan hrest last
  refine ⟨100 * century + 4 * span + year + cycle * 400, rest - 365 * year, least, greatest,
    fun h => ?_, ?_, ofDays_of_parts hcycle hday parts hcentury hspan ⟨year0, year3⟩ formula⟩
  · have third := leapDay h
    rw [third]
    exact isLeap_of_last cycle hspan fun h24 => last h24 (by omega)
  · obtain ⟨fourth, hundredth, fourHundredth⟩ :=
      leapDays_of_parts cycle hcentury hspan ⟨year0, year3⟩
    rw [fourth, hundredth, fourHundredth]
    clear formula fourth hundredth fourHundredth hday hcycle last leapDay
    omega

/-! ### Months -/

theorem daysIn_le (year : Int) (month : Nat) : daysIn year month ≤ 31 := by
  rw [daysIn]
  repeat' split
  all_goals omega

/-- The twelve months of a year that begins in March, with the days on which they begin. -/
theorem month_cases {day : Int} (least : 0 ≤ day) (greatest : day ≤ 365) :
    ∃ month, 0 ≤ month ∧ month ≤ 11 ∧ (5 * day + 2) / 153 = month ∧
      (153 * month + 2) / 5 ≤ day ∧ day < (153 * (month + 1) + 2) / 5 :=
  ⟨(5 * day + 2) / 153, by omega, by omega, rfl, by omega, by omega⟩

theorem toDays_ofMarchYear (year : Int) {day : Int} (least : 0 ≤ day) (greatest : day ≤ 365) :
    (ofMarchYear year day).toDays =
      365 * year + year / 4 - year / 100 + year / 400 + day - 719468 := by
  obtain ⟨month, month0, month11, eq, begins, -⟩ := month_cases least greatest
  rw [ofMarchYear, toDays]
  simp only [eq]
  by_cases first : month < 10
  · simp only [if_pos first, if_neg (show ¬month + 3 ≤ 2 by omega),
      if_neg (show ¬(month + 3).toNat ≤ 2 by omega), Int.add_zero]
    omega
  · simp only [if_neg first, if_pos (show month - 9 ≤ 2 by omega),
      if_pos (show (month - 9).toNat ≤ 2 by omega), Int.add_sub_cancel]
    omega

theorem isValid_ofMarchYear {year day : Int} (least : 0 ≤ day) (greatest : day ≤ 365)
    (leap : day = 365 → isLeap (year + 1) = true) : (ofMarchYear year day).IsValid := by
  obtain ⟨month, month0, month11, eq, begins, ends⟩ := month_cases least greatest
  rw [ofMarchYear, IsValid, daysIn]
  simp only [eq]
  by_cases first : month < 10
  · rw [if_pos first, if_neg (show ¬(month + 3).toNat = 2 by omega)]
    refine ⟨by omega, by omega, by omega, ?_⟩
    split
    · omega
    · obtain rfl | rfl | rfl | rfl | rfl | rfl : month = 0 ∨ month = 2 ∨ month = 4 ∨ month = 5 ∨
          month = 7 ∨ month = 9 := by omega
      all_goals omega
  · rw [if_neg first]
    obtain rfl | rfl : month = 10 ∨ month = 11 := by omega
    · rw [if_neg (show ¬((10 : Int) - 9).toNat = 2 by decide),
        if_neg (show ¬_ by decide)]
      refine ⟨by omega, by omega, by omega, by omega⟩
    · rw [if_pos (show ((11 : Int) - 9).toNat = 2 by decide),
        if_pos (show (11 : Int) - 9 ≤ 2 by decide)]
      refine ⟨by omega, by omega, by omega, ?_⟩
      split
      · omega
      · next common =>
        have : day ≠ 365 := fun h => common (leap h)
        omega

/-! ### Both -/

/-- **Every count of days** is a date of the calendar. -/
theorem isValid_ofDays (days : Int) : (ofDays days).IsValid := by
  obtain ⟨year, day, least, greatest, leap, -, eq⟩ := exists_marchYear days
  rw [eq]
  exact isValid_ofMarchYear least greatest leap

/-- **A date** has the count of days that it was made of. -/
@[simp] theorem toDays_ofDays (days : Int) : (ofDays days).toDays = days := by
  obtain ⟨year, day, least, greatest, -, count, eq⟩ := exists_marchYear days
  rw [eq, toDays_ofMarchYear year least greatest]
  exact count.symm

end Date

end GatewaySession
