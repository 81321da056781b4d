import EmissionsPlatform.Foundation.Calendar
import EmissionsPlatform.Foundation.DecimalText

/-! Moments as texts: the notation of JavaScript's `toISOString`, and the
pattern of an ISO 8601 date and time with `Z` or an offset that schema checks
ask for. The pattern wants a year of four digits, and `toISOString` writes
other years with a sign and six; `datetime_toISOString_iff` says that this is
the only difference. -/
namespace EmissionsPlatform.IsoDatetime
open Calendar DecimalText
set_option autoImplicit false

/-! ## Writing -/

/-- A number filled up with zeros. -/
def written (width value : Nat) : List Char := padStart width '0' (Nat.toDigits 10 value)

def yearText (year : Int) : List Char :=
  if 0 ≤ year ∧ year ≤ 9999 then written 4 year.toNat
  else (if year < 0 then '-' else '+') :: written 6 year.natAbs

/-- The date of a day, counted from 1970-01-01. -/
def dateText (day : Int) : List Char :=
  yearText (civil day).year ++ '-' :: (written 2 (civil day).month ++
    '-' :: written 2 (day - monthStart (civil day) + 1).toNat)

/-- The time of day after so many milliseconds. -/
def timeText (elapsed : Nat) : List Char :=
  written 2 (elapsed / 3600000) ++ ':' :: (written 2 (elapsed / 60000 % 60) ++
    ':' :: (written 2 (elapsed / 1000 % 60) ++ '.' :: written 3 (elapsed % 1000)))

/-- `Date.prototype.toISOString` of a time value; `none` is a `RangeError`. -/
def toISOString (milliseconds : Int) : Option String :=
  if milliseconds.natAbs ≤ 8640000000000000 then
    some (String.ofList (dateText (milliseconds / 86400000) ++
      'T' :: (timeText (milliseconds % 86400000).toNat ++ ['Z'])))
  else none

/-! ## Reading -/

/-- `\d{width}`: the number, and what follows it. -/
def digits (width : Nat) (text : List Char) : Option (Nat × List Char) :=
  if (text.take width).length = width ∧ (text.take width).all Char.isDigit then
    some (digitsValue (text.take width), text.drop width)
  else none

def skip (separator : Char) (text : List Char) : Option (List Char) :=
  if text.head? = some separator then some text.tail else none

def monthDays (year : Int) (month : Nat) : Int :=
  monthOffset (leapDays year) (month + 1) - monthOffset (leapDays year) month

/-- `YYYY-MM-DD`, where the month has that day. -/
def date (text : List Char) : Option (List Char) := do
  let (year, text) ← digits 4 text
  let text ← skip '-' text
  let (month, text) ← digits 2 text
  let text ← skip '-' text
  let (day, text) ← digits 2 text
  if 1 ≤ month ∧ month ≤ 12 ∧ 1 ≤ day ∧ day ≤ monthDays year month then some text else none

/-- `(\.\d+)?`. -/
def fraction (text : List Char) : Option (List Char) :=
  match skip '.' text with
  | none => some text
  | some rest => if rest.takeWhile Char.isDigit = [] then none else some (rest.dropWhile Char.isDigit)

/-- `HH:mm:ss`, with or without a fraction. -/
def time (text : List Char) : Option (List Char) := do
  let (hour, text) ← digits 2 text
  let text ← skip ':' text
  let (minute, text) ← digits 2 text
  let text ← skip ':' text
  let (second, text) ← digits 2 text
  if hour ≤ 23 ∧ minute ≤ 59 ∧ second ≤ 59 then fraction text else none

/-- `[+-]\d{2}:?\d{2}`. -/
def offset (text : List Char) : Option (List Char) := do
  let text ← (skip '+' text).or (skip '-' text)
  let (_, text) ← digits 2 text
  let (_, text) ← digits 2 ((skip ':' text).getD text)
  some text

/-- The whole pattern. -/
def datetime (text : String) : Bool :=
  (date text.toList).any fun text =>
    ((skip 'T' text).bind time).any fun zone => zone == ['Z'] || offset zone == some []

example : datetime "2024-02-29T23:59:59.001Z" = true ∧ datetime "2023-02-29T23:59:59Z" = false := by decide
example : toISOString 1704067205000 = some "2024-01-01T00:00:05.000Z" := by decide

variable {width value : Nat} {rest : List Char} {day : Int}

@[simp] theorem skip_cons (separator head : Char) :
    skip separator (head :: rest) = if head = separator then some rest else none := by
  simp [skip]

theorem length_written (positive : 0 < width) (small : value < 10 ^ width) : (written width value).length = width :=
  length_padStart ((Nat.length_toDigits_le_iff (by decide) positive).mpr small)

theorem written_digits {digit : Char} (member : digit ∈ written width value) : digit.isDigit = true := by
  rcases List.mem_append.mp member with fill | digitMember
  · rw [List.eq_of_mem_replicate fill]
    decide
  · exact digit_of_toDigits digitMember

/-- What is written in a width is read back in it. -/
theorem digits_written (positive : 0 < width) (small : value < 10 ^ width) :
    digits width (written width value ++ rest) = some (value, rest) := by
  have length := length_written positive small
  have front : (written width value ++ rest).take width = written width value := List.take_left' length
  rw [digits, front, List.drop_left' length, if_pos ⟨length, List.all_eq_true.mpr fun _ => written_digits⟩, written,
    digitsValue_padStart, digitsValue_toDigits]

/-! ## Reading what is written -/

/-- A day is a day of its month. -/
theorem day_of_month (day : Int) :
    1 ≤ day - monthStart (civil day) + 1 ∧
      day - monthStart (civil day) + 1 ≤ monthDays (civil day).year (civil day).month := by
  have spec := civil_spec day
  simp only [monthStart, monthDays] at spec ⊢
  omega

theorem monthDays_le (month : YearMonth) : monthDays month.year month.month ≤ 31 := by
  obtain ⟨year, month, range⟩ := month
  have leap := leapDays_range year
  simp only [monthDays]
  rcases month with _ | _ | _ | _ | _ | _ | _ | _ | _ | _ | _ | _ | _ | month <;>
    simp only [monthOffset] <;> omega

theorem date_dateText (four : 0 ≤ (civil day).year ∧ (civil day).year ≤ 9999) :
    date (dateText day ++ rest) = some rest := by
  have inMonth := day_of_month day
  have longest := monthDays_le (civil day)
  have range := (civil day).range
  have year : (civil day).year.toNat < 10 ^ 4 := by omega
  have month : (civil day).month < 10 ^ 2 := by omega
  have ofMonth : (day - monthStart (civil day) + 1).toNat < 10 ^ 2 := by omega
  have valid : 1 ≤ (civil day).month ∧ (civil day).month ≤ 12 ∧ 1 ≤ (day - monthStart (civil day) + 1).toNat ∧
      ((day - monthStart (civil day) + 1).toNat : Int) ≤
        monthDays ((civil day).year.toNat : Int) (civil day).month := by
    rw [Int.toNat_of_nonneg four.1]
    omega
  simp only [date, dateText, yearText, if_pos four, List.append_assoc, List.cons_append, Option.bind_eq_bind,
    digits_written (by decide) year, digits_written (by decide) month, digits_written (by decide) ofMonth,
    Option.bind_some, skip_cons, ↓reduceIte, if_pos valid]

/-- A year of another length begins with a sign. -/
theorem date_of_signed (signed : ¬ (0 ≤ (civil day).year ∧ (civil day).year ≤ 9999)) :
    date (dateText day ++ rest) = none := by
  have sign : Char.isDigit (if (civil day).year < 0 then '-' else '+') = false := by split <;> rfl
  simp [date, dateText, yearText, signed, digits, sign]

theorem time_timeText {elapsed : Nat} (within : elapsed < 86400000) :
    time (timeText elapsed ++ ['Z']) = some ['Z'] := by
  have hour : elapsed / 3600000 < 10 ^ 2 := by omega
  have minute : elapsed / 60000 % 60 < 10 ^ 2 := by omega
  have second : elapsed / 1000 % 60 < 10 ^ 2 := by omega
  have thousandths : elapsed % 1000 < 10 ^ 3 := by omega
  have valid : elapsed / 3600000 ≤ 23 ∧ elapsed / 60000 % 60 ≤ 59 ∧ elapsed / 1000 % 60 ≤ 59 := by omega
  have nonempty : written 3 (elapsed % 1000) ≠ [] := by
    intro empty
    have length := length_written (by decide) thousandths
    rw [empty] at length
    cases length
  have onlyDigits : ∀ digit ∈ written 3 (elapsed % 1000), digit.isDigit = true := fun _ => written_digits
  obtain ⟨taken, dropped⟩ := span_digits ['Z'] onlyDigits (by simp)
  simp only [time, timeText, List.append_assoc, List.cons_append, Option.bind_eq_bind, digits_written (by decide) hour,
    digits_written (by decide) minute, digits_written (by decide) second, Option.bind_some, skip_cons, ↓reduceIte,
    if_pos valid, fraction, taken, dropped, if_neg nonempty]

/-- A year of four digits is within the range of time values. -/
theorem in_range_of_year {milliseconds : Int} (four : 0 ≤ (civil (milliseconds / 86400000)).year ∧
    (civil (milliseconds / 86400000)).year ≤ 9999) : milliseconds.natAbs ≤ 8640000000000000 := by
  obtain ⟨reached, notPassed⟩ := yearAt_spec (milliseconds / 86400000)
  have first := yearStart_mono (a := 0) four.1
  have last := yearStart_mono (b := 10000) (show (civil (milliseconds / 86400000)).year + 1 ≤ 10000 by omega)
  have year : yearAt (milliseconds / 86400000) = (civil (milliseconds / 86400000)).year := rfl
  rw [year] at reached notPassed
  rw [show yearStart 0 = -719528 by decide] at first
  rw [show yearStart 10000 = 2932897 by decide] at last
  omega

/-- **What `toISOString` writes matches the pattern exactly in the years 0 to
9999.** -/
theorem datetime_toISOString_iff (milliseconds : Int) :
    (∃ text, toISOString milliseconds = some text ∧ datetime text = true) ↔
      0 ≤ (civil (milliseconds / 86400000)).year ∧ (civil (milliseconds / 86400000)).year ≤ 9999 := by
  have within : (milliseconds % 86400000).toNat < 86400000 := by omega
  by_cases four : 0 ≤ (civil (milliseconds / 86400000)).year ∧ (civil (milliseconds / 86400000)).year ≤ 9999
  · refine iff_of_true ⟨_, if_pos (in_range_of_year four), ?_⟩ four
    simp [datetime, date_dateText four, time_timeText within]
  · refine iff_of_false ?_ four
    rintro ⟨text, written, accepted⟩
    obtain ⟨-, isText⟩ := Option.ite_none_right_eq_some.mp written
    cases isText
    simp [datetime, date_of_signed four] at accepted

end EmissionsPlatform.IsoDatetime
