import Mathlib.Data.Prod.Lex
import Mathlib.Order.Basic
import Mathlib.Data.Int.Order.Basic
import Mathlib.Order.Monotone.Basic

/-! The proleptic Gregorian calendar by months. Days are counted from
1970-01-01 and instants are microseconds from its first moment.

`civil` finds the month of a day and `monthStart` the first day of a month;
`monthStart_le_iff` says the two are adjoint, which is all a later proof needs
to know about leap years and month lengths. A `Timezone` adds an offset to
every instant; under a constant offset the adjunction holds between instants
and local months as well (`Timezone.Fixed.monthBegins_le_iff`). -/
namespace EmissionsPlatform
set_option autoImplicit false

/-- A month of the calendar. -/
structure YearMonth where
  year : Int
  /-- January is 1. -/
  month : Nat
  range : 1 ≤ month ∧ month ≤ 12
  deriving DecidableEq

namespace YearMonth

/-- Years first, then months. -/
def key (ym : YearMonth) : ℤ ×ₗ ℕ := toLex (ym.year, ym.month)

theorem key_injective : Function.Injective key := by
  rintro ⟨year, month, range⟩ ⟨year', month', range'⟩ same
  simpa [key] using same

instance : LinearOrder YearMonth := LinearOrder.lift' key key_injective

theorem lt_iff {a b : YearMonth} : a < b ↔ a.year < b.year ∨ (a.year = b.year ∧ a.month < b.month) :=
  Prod.Lex.lt_iff

end YearMonth

namespace Calendar

/-- A year divisible by 4 is a leap year, but of the centuries only those
divisible by 400. -/
def leapDays (year : Int) : Int :=
  if year % 4 = 0 ∧ (year % 100 ≠ 0 ∨ year % 400 = 0) then 1 else 0

/-- The first day of a year. -/
def yearStart (year : Int) : Int :=
  365 * (year - 1) + (year - 1) / 4 - (year - 1) / 100 + (year - 1) / 400 - 719162

/-- The days of a year before its `month`-th month; from 13 on, all of them. -/
def monthOffset (leap : Int) : Nat → Int
  | 0 => 0
  | 1 => 0
  | 2 => 31
  | 3 => 59 + leap
  | 4 => 90 + leap
  | 5 => 120 + leap
  | 6 => 151 + leap
  | 7 => 181 + leap
  | 8 => 212 + leap
  | 9 => 243 + leap
  | 10 => 273 + leap
  | 11 => 304 + leap
  | 12 => 334 + leap
  | _ => 365 + leap

/-- The last month, at most the one given, to have begun by a day of the year. -/
def lastBegun (leap offset : Int) : Nat → Nat
  | 0 => 1
  | 1 => 1
  | month + 2 => if monthOffset leap (month + 2) ≤ offset then month + 2 else lastBegun leap offset (month + 1)

theorem lastBegun_range (leap offset : Int) (month : Nat) :
    1 ≤ lastBegun leap offset (month + 1) ∧ lastBegun leap offset (month + 1) ≤ month + 1 := by
  induction month with
  | zero => simp [lastBegun]
  | succ month ih =>
    rw [lastBegun]
    split <;> omega

/-- The month a day of the year belongs to. -/
def monthAt (leap offset : Int) : Nat := lastBegun leap offset 12

/-- The year a day belongs to: 400 years have 146097 days, and the estimate
this gives is at most one year early. -/
def yearAt (day : Int) : Int :=
  let estimate := 400 * (day + 719162) / 146097 + 1
  if yearStart (estimate + 1) ≤ day then estimate + 1 else estimate

/-- The month of a day. -/
def civil (day : Int) : YearMonth :=
  let year := yearAt day
  ⟨year, monthAt (leapDays year) (day - yearStart year), lastBegun_range _ _ 11⟩

/-- The first day of a month. -/
def monthStart (ym : YearMonth) : Int :=
  yearStart ym.year + monthOffset (leapDays ym.year) ym.month

/-- The same day of the year after, or the last one of its month: only a 29th
of February has no such day. -/
def yearLater (day : Int) : Int :=
  let month := civil day
  let next : YearMonth := { month with year := month.year + 1 }
  let leap := leapDays next.year
  let lastDay := monthOffset leap (next.month + 1) - monthOffset leap next.month - 1
  monthStart next + min (day - monthStart month) lastDay

theorem leapDays_range (year : Int) : 0 ≤ leapDays year ∧ leapDays year ≤ 1 := by
  unfold leapDays
  split <;> decide

theorem yearStart_succ (year : Int) : yearStart (year + 1) = yearStart year + 365 + leapDays year := by
  unfold yearStart leapDays
  split <;> omega

theorem yearStart_mono {a b : Int} (before : a ≤ b) : yearStart a ≤ yearStart b := by
  unfold yearStart
  omega

theorem yearAt_spec (day : Int) : yearStart (yearAt day) ≤ day ∧ day < yearStart (yearAt day + 1) := by
  unfold yearAt
  simp only
  split
  · rename_i reached
    refine ⟨reached, ?_⟩
    unfold yearStart
    omega
  · rename_i notReached
    refine ⟨?_, by omega⟩
    unfold yearStart
    omega

theorem lastBegun_spec {leap offset : Int} (nonneg : 0 ≤ offset) (month : Nat)
    (bounded : offset < monthOffset leap (month + 2)) :
    monthOffset leap (lastBegun leap offset (month + 1)) ≤ offset ∧
      offset < monthOffset leap (lastBegun leap offset (month + 1) + 1) := by
  induction month with
  | zero => exact ⟨nonneg, bounded⟩
  | succ month ih =>
    rw [lastBegun]
    split
    · rename_i begun
      exact ⟨begun, bounded⟩
    · rename_i notBegun
      exact ih (not_le.mp notBegun)

theorem monthAt_spec (leap : Int) {offset : Int} (nonneg : 0 ≤ offset) (bounded : offset < 365 + leap) :
    monthOffset leap (monthAt leap offset) ≤ offset ∧
      offset < monthOffset leap (monthAt leap offset + 1) :=
  lastBegun_spec nonneg 11 bounded

private theorem monthOffset_le_succ {leap : Int} (leapRange : 0 ≤ leap ∧ leap ≤ 1) (month : Nat) :
    monthOffset leap month ≤ monthOffset leap (month + 1) := by
  rcases month with _ | _ | _ | _ | _ | _ | _ | _ | _ | _ | _ | _ | _ | month <;>
    simp only [monthOffset] <;> omega

theorem monthOffset_mono {leap : Int} (leapRange : 0 ≤ leap ∧ leap ≤ 1) {a b : Nat} (before : a ≤ b) :
    monthOffset leap a ≤ monthOffset leap b :=
  monotone_nat_of_le_succ (monthOffset_le_succ leapRange) before

theorem monthOffset_le {leap : Int} (leapRange : 0 ≤ leap ∧ leap ≤ 1) (month : Nat)
    (bounded : month ≤ 13) : 0 ≤ monthOffset leap month ∧ monthOffset leap month ≤ 365 + leap :=
  ⟨monthOffset_mono leapRange (Nat.zero_le month), monthOffset_mono leapRange bounded⟩

/-- A day lies between the first day of its month and that of the next. -/
theorem civil_spec (day : Int) :
    monthStart (civil day) ≤ day ∧
      day < yearStart (civil day).year + monthOffset (leapDays (civil day).year) ((civil day).month + 1) := by
  obtain ⟨reached, notPassed⟩ := yearAt_spec day
  rw [yearStart_succ] at notPassed
  have inYear := @monthAt_spec (leapDays (yearAt day)) (day - yearStart (yearAt day))
    (by omega) (by omega)
  simp only [monthStart, civil]
  omega

/-- **The calendar's adjunction.** A month has begun by a day exactly when the
day's month is that month or a later one. -/
theorem monthStart_le_iff {ym : YearMonth} {day : Int} : monthStart ym ≤ day ↔ ym ≤ civil day := by
  obtain ⟨reached, notPassed⟩ := civil_spec day
  have range := ym.range
  have civilRange := (civil day).range
  have leap := leapDays_range ym.year
  have civilLeap := leapDays_range (civil day).year
  have offset := monthOffset_le leap ym.month (by omega)
  have civilOffset := monthOffset_le civilLeap (civil day).month (by omega)
  have nextOffset := monthOffset_le civilLeap ((civil day).month + 1) (by omega)
  constructor
  · intro begun
    apply not_lt.mp
    intro later
    rcases YearMonth.lt_iff.mp later with year | ⟨year, month⟩
    · have := yearStart_mono (a := (civil day).year + 1) (b := ym.year) (by omega)
      rw [yearStart_succ] at this
      simp only [monthStart] at begun
      omega
    · have := monthOffset_mono leap (a := (civil day).month + 1) (b := ym.month) (by omega)
      simp only [monthStart] at begun
      rw [year] at notPassed
      omega
  · intro notLater
    rcases notLater.lt_or_eq with earlier | rfl
    · rcases YearMonth.lt_iff.mp earlier with year | ⟨year, month⟩
      · have := yearStart_mono (a := ym.year + 1) (b := (civil day).year) (by omega)
        rw [yearStart_succ] at this
        simp only [monthStart] at reached ⊢
        omega
      · have := monthOffset_mono leap (a := ym.month) (b := (civil day).month) (by omega)
        simp only [monthStart] at reached ⊢
        rw [← year] at reached
        omega
    · exact reached

/-- Each month has some days, and none more than 31. -/
theorem monthOffset_succ_range {leap : Int} (leapRange : 0 ≤ leap ∧ leap ≤ 1) {month : Nat}
    (range : 1 ≤ month ∧ month ≤ 12) :
    monthOffset leap month + 28 ≤ monthOffset leap (month + 1) ∧
      monthOffset leap (month + 1) ≤ monthOffset leap month + 31 := by
  rcases month with _ | _ | _ | _ | _ | _ | _ | _ | _ | _ | _ | _ | _ | month <;>
    simp only [monthOffset] <;> omega

/-- A leap day moves what comes after it by a day. -/
theorem monthOffset_leap {leap other : Int} (leapRange : 0 ≤ leap ∧ leap ≤ 1) (otherRange : 0 ≤ other ∧ other ≤ 1)
    (month : Nat) : monthOffset leap month ≤ monthOffset other month + 1 := by
  rcases month with _ | _ | _ | _ | _ | _ | _ | _ | _ | _ | _ | _ | _ | month <;>
    simp only [monthOffset] <;> omega

/-- A year later is later. -/
theorem lt_yearLater (day : Int) : day < yearLater day := by
  obtain ⟨reached, notPassed⟩ := civil_spec day
  have leap := leapDays_range (civil day).year
  have nextLeap := leapDays_range ((civil day).year + 1)
  have days := monthOffset_succ_range leap (civil day).range
  have nextDays := monthOffset_succ_range nextLeap (civil day).range
  have shift := monthOffset_leap leap nextLeap (civil day).month
  have year := yearStart_succ (civil day).year
  simp only [yearLater, monthStart] at reached ⊢
  omega

end Calendar

example : (Calendar.civil 0).month = 1 ∧ (Calendar.civil 0).year = 1970 := by decide
example : Calendar.monthStart ⟨2024, 3, by decide⟩ = 19783 := by decide

/-- Microseconds in a day. -/
def microsPerDay : Int := 86400000000

/-- A timezone, as a rule between instants and wall-clock readings (both in
microseconds). -/
structure Timezone where
  name : String
  /-- What the wall clock shows beyond UTC at an instant. -/
  offsetAt : Int → Int
  /-- The instant a wall-clock reading is taken to mean. -/
  toInstant : Int → Int

namespace Timezone

/-- The local calendar month of an instant. -/
def yearMonthAt (timezone : Timezone) (instant : Int) : YearMonth :=
  Calendar.civil ((instant + timezone.offsetAt instant) / microsPerDay)

/-- The instant of the local midnight a month begins with. -/
def monthBegins (timezone : Timezone) (ym : YearMonth) : Int :=
  timezone.toInstant (Calendar.monthStart ym * microsPerDay)

/-- A timezone that is always `seconds` ahead of UTC. -/
structure Fixed (timezone : Timezone) (seconds : Int) : Prop where
  offsetAt : ∀ instant, timezone.offsetAt instant = seconds * 1000000
  toInstant : ∀ reading, timezone.toInstant reading = reading - seconds * 1000000

variable {timezone : Timezone} {seconds : Int}

/-- Under a constant offset, an instant is past a month's beginning exactly
when its local month is that month or a later one. -/
theorem Fixed.monthBegins_le_iff (fixed : Fixed timezone seconds) {ym : YearMonth} {instant : Int} :
    timezone.monthBegins ym ≤ instant ↔ ym ≤ timezone.yearMonthAt instant := by
  rw [monthBegins, yearMonthAt, fixed.toInstant, fixed.offsetAt, ← Calendar.monthStart_le_iff]
  unfold microsPerDay
  omega

/-- Months begin on whole milliseconds. -/
theorem Fixed.monthBegins_whole (fixed : Fixed timezone seconds) (ym : YearMonth) :
    timezone.monthBegins ym / 1000 * 1000 = timezone.monthBegins ym := by
  rw [monthBegins, fixed.toInstant]
  unfold microsPerDay
  omega

/-- Coordinated universal time. -/
def utc : Timezone := ⟨"UTC", fun _ => 0, id⟩

theorem utc_fixed : utc.Fixed 0 := ⟨fun _ => rfl, fun reading => (Int.sub_zero reading).symm⟩

end Timezone

end EmissionsPlatform
