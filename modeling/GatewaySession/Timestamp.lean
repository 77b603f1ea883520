import GatewaySession.Number.Decimal
import GatewaySession.Text.Blank

/-!
# Points in time

A point in time is a count of seconds since the beginning of 1970 in UTC and a count of nanoseconds
within the second; during a leap second the latter runs from one to two thousand million. The text
form is that of RFC 3339: written in UTC with `Z` and as many groups of three fraction digits as are
needed, read with any offset. Reading is liberal about white space between the parts, about the
separator and about a missing colon in the offset, and knows years outside four digits by their
sign.

Dates are converted through counts of days. The year is shifted to begin in March, so that the leap
day is the last of its year and the days before a month are a linear function of the month.

## Main definitions

* `Timestamp` — the point in time
* `Timestamp.render` — its text
* `Timestamp.parse?` — the point in time of a text
-/

namespace GatewaySession

/-- A point in time. -/
structure Timestamp where
  /-- Seconds since the beginning of 1970, UTC. -/
  seconds : Int
  /-- Nanoseconds within the second. -/
  nanos : Nat
  deriving DecidableEq

/-- A day of the Gregorian calendar, extended to all years. -/
structure Date where
  /-- Year, with year zero before year one. -/
  year : Int
  /-- Month from 1. -/
  month : Nat
  /-- Day of the month from 1. -/
  day : Nat
  deriving DecidableEq

namespace Date

/-- Whether a year has a leap day. -/
def isLeap (year : Int) : Bool := year % 4 == 0 && (year % 100 != 0 || year % 400 == 0)

/-- Days of a month. -/
def daysIn (year : Int) (month : Nat) : Nat :=
  if month = 2 then if isLeap year then 29 else 28
  else if month = 4 ∨ month = 6 ∨ month = 9 ∨ month = 11 then 30
  else 31

/-- Whether the calendar has the date. -/
def IsValid (date : Date) : Prop :=
  1 ≤ date.month ∧ date.month ≤ 12 ∧ 1 ≤ date.day ∧ date.day ≤ daysIn date.year date.month

instance (date : Date) : Decidable date.IsValid :=
  inferInstanceAs (Decidable (_ ∧ _ ∧ _ ∧ _))

/-- Days from the beginning of 1970 to the date. -/
def toDays (date : Date) : Int :=
  let year := if date.month ≤ 2 then date.year - 1 else date.year
  let month := if date.month ≤ 2 then date.month + 9 else date.month - 3
  let dayOfYear : Int := ((153 * month + 2) / 5 + date.day : Nat) - 1
  365 * year + year / 4 - year / 100 + year / 400 + dayOfYear - 719468

/-- The date a number of days after the beginning of 1970. -/
def ofDays (days : Int) : Date :=
  let shifted := days + 719468
  let era := shifted / 146097
  let dayOfEra := shifted % 146097
  let yearOfEra := (dayOfEra - dayOfEra / 1460 + dayOfEra / 36524 - dayOfEra / 146096) / 365
  let dayOfYear := dayOfEra - (365 * yearOfEra + yearOfEra / 4 - yearOfEra / 100)
  let month := (5 * dayOfYear + 2) / 153
  let day := dayOfYear - (153 * month + 2) / 5 + 1
  let calendarMonth := if month < 10 then month + 3 else month - 9
  let year := yearOfEra + era * 400 + if calendarMonth ≤ 2 then 1 else 0
  ⟨year, calendarMonth.toNat, day.toNat⟩

end Date

namespace Timestamp

/-- Seconds of a day. -/
def daySeconds : Int := 86400

/-- Nanoseconds of a second. -/
def secondNanos : Nat := 1000000000

/-! ### Writing -/

/-- A year: four digits, or a sign and at least four digits outside that range. -/
def renderYear (year : Int) : List Char :=
  if 0 ≤ year ∧ year ≤ 9999 then Decimal.padded 4 year.toNat
  else (if year < 0 then '-' else '+') :: Decimal.padded 4 year.natAbs

/-- The fraction of a second in as few groups of three digits as hold it. -/
def renderFraction (nanos : Nat) : List Char :=
  if nanos = 0 then []
  else if nanos % 1000000 = 0 then '.' :: Decimal.padded 3 (nanos / 1000000)
  else if nanos % 1000 = 0 then '.' :: Decimal.padded 6 (nanos / 1000)
  else '.' :: Decimal.padded 9 nanos

/-- The text of a point in time. A leap second is the sixtieth of its minute. -/
def renderChars (t : Timestamp) : List Char :=
  let date := Date.ofDays (t.seconds / daySeconds)
  let second := (t.seconds % daySeconds).toNat
  let leap := if secondNanos ≤ t.nanos then 1 else 0
  renderYear date.year ++ '-' :: Decimal.padded 2 date.month ++ '-' :: Decimal.padded 2 date.day ++
    'T' :: Decimal.padded 2 (second / 3600) ++ ':' :: Decimal.padded 2 (second / 60 % 60) ++
    ':' :: Decimal.padded 2 (second % 60 + leap) ++ renderFraction (t.nanos - leap * secondNanos) ++
    ['Z']

/-- The text of a point in time. -/
def render (t : Timestamp) : String := String.ofList t.renderChars

/-! ### Reading -/

/-- A text without the white space in front. -/
def skipBlank (text : List Char) : List Char := text.dropWhile Text.isBlank

/-- Up to `limit` digits, at least one: their number and count, and what follows. -/
def digitsUpTo? (limit : Nat) (text : List Char) : Option (Nat × Nat × List Char) :=
  let digits := (text.take limit).takeWhile Char.isDigit
  (Decimal.digits? digits).map fun n => (n, digits.length, text.drop digits.length)

/-- A number of up to `limit` digits after optional white space. -/
def number? (limit : Nat) (text : List Char) : Option (Nat × List Char) :=
  (digitsUpTo? limit (skipBlank text)).map fun (n, _, rest) => (n, rest)

/-- A given character after optional white space. -/
def mark? (c : Char) (text : List Char) : Option (List Char) :=
  match skipBlank text with
  | first :: rest => if first = c then some rest else none
  | [] => none

/-- A year: up to four digits, or a sign and any number of digits. -/
def year? (text : List Char) : Option (Int × List Char) :=
  match skipBlank text with
  | '-' :: rest => (digitsUpTo? rest.length rest).map fun (n, _, rest) => (-(n : Int), rest)
  | '+' :: rest => (digitsUpTo? rest.length rest).map fun (n, _, rest) => ((n : Int), rest)
  | text => (digitsUpTo? 4 text).map fun (n, _, rest) => ((n : Int), rest)

/-- A fraction in nanoseconds; digits beyond the ninth are dropped. -/
def fraction? : List Char → Option (Nat × List Char)
  | '.' :: rest => do
    let (n, count, rest) ← digitsUpTo? 9 rest
    some (n * Nat.pow 10 (9 - count), rest.dropWhile Char.isDigit)
  | text => some (0, text)

/-- Whether a text begins with `UTC` in letters of either case. -/
def beginsWithUtc (text : List Char) : Bool :=
  (text.take 3).map Char.toUpper == ['U', 'T', 'C']

/-- Two digits as a number. -/
def pair? : List Char → Option (Nat × List Char)
  | a :: b :: rest => do
    let a ← Decimal.digit? a
    let b ← Decimal.digit? b
    some (a * 10 + b, rest)
  | _ => none

/-- The offset in seconds after its sign. -/
def offsetAfterSign? (text : List Char) : Option (Nat × List Char) := do
  let (hours, rest) ← pair? text
  let (minutes, rest) ← pair? (rest.dropWhile fun c => c == ':' || Text.isBlank c)
  if minutes < 60 ∧ hours < 24 then some (hours * 3600 + minutes * 60, rest) else none

/-- The offset from UTC in seconds. -/
def offset? (text : List Char) : Option (Int × List Char) :=
  if beginsWithUtc text then some (0, text.drop 3)
  else
    match text with
    | 'Z' :: rest => some (0, rest)
    | 'z' :: rest => some (0, rest)
    | '+' :: rest => (offsetAfterSign? rest).map fun (n, rest) => ((n : Int), rest)
    | '-' :: rest => (offsetAfterSign? rest).map fun (n, rest) => (-(n : Int), rest)
    | '\u2212' :: rest => (offsetAfterSign? rest).map fun (n, rest) => (-(n : Int), rest)
    | _ => none

/-- The first and the last second that dates are kept for. -/
def inRange (seconds : Int) : Bool :=
  Date.toDays ⟨-262143, 1, 1⟩ * daySeconds ≤ seconds &&
    seconds < (Date.toDays ⟨262142, 12, 31⟩ + 1) * daySeconds

/-- The point in time of the parts of a text. Both the date as written and the date in UTC have to
be among those that dates are kept for. -/
def ofParts? (date : Date) (hour minute second nanos : Nat) (offset : Int) : Option Timestamp :=
  if date.IsValid ∧ hour < 24 ∧ minute < 60 ∧ second ≤ 60 then
    let leap : Nat := if second = 60 then 1 else 0
    let ofDay : Nat := hour * 3600 + minute * 60 + second
    let written := date.toDays * daySeconds + ofDay - leap
    let seconds := written - offset
    if inRange written ∧ inRange seconds then some ⟨seconds, nanos + leap * secondNanos⟩ else none
  else none

/-- The point in time of a text. -/
def parseChars? (text : List Char) : Option Timestamp := do
  let (year, rest) ← year? text
  let rest ← mark? '-' rest
  let (month, rest) ← number? 2 rest
  let rest ← mark? '-' rest
  let (day, rest) ← number? 2 rest
  match rest with
  | separator :: rest =>
    if separator = 'T' ∨ separator = 't' ∨ separator = ' ' then
      let (hour, rest) ← number? 2 rest
      let rest ← mark? ':' rest
      let (minute, rest) ← number? 2 rest
      let rest ← mark? ':' rest
      let (second, rest) ← number? 2 rest
      let (nanos, rest) ← fraction? rest
      let (offset, rest) ← offset? (skipBlank rest)
      if (skipBlank rest).isEmpty then ofParts? ⟨year, month, day⟩ hour minute second nanos offset
      else none
    else none
  | [] => none

/-- The point in time of a text. -/
def parse? (text : String) : Option Timestamp := parseChars? text.toList

end Timestamp

end GatewaySession
