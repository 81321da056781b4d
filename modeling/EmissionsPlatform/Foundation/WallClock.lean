import EmissionsPlatform.Foundation.Calendar

/-! What a timezone's wall clock shows, and how a reading of it is converted
back to an instant. A clock that is set back shows some readings twice; the
conversion takes the later instant, so that what lies before it is told by what
the clock is still to show (`ConvertsToLater.ahead_iff`). A month compares with
a month as the readings compare with its first midnight (`yearMonthAt_lt_iff`),
so all that can go wrong at a month boundary is the order of an instant and
that midnight.
For a clock that is changed once, `changing_early_iff` says which instants come
out of order. -/
namespace EmissionsPlatform.Timezone
set_option autoImplicit false

/-- What the wall clock shows at an instant. -/
def shows (timezone : Timezone) (instant : Int) : Int := instant + timezone.offsetAt instant

/-- A reading that is shown is converted to an instant it is shown at, and to
no earlier one than it could be. -/
structure ConvertsToLater (timezone : Timezone) : Prop where
  shown : ∀ {reading instant : Int},
    timezone.shows instant = reading → timezone.shows (timezone.toInstant reading) = reading
  last : ∀ {reading instant : Int}, timezone.shows instant = reading → instant ≤ timezone.toInstant reading

/-- The reading a month begins with. -/
def firstMidnight (ym : YearMonth) : Int := Calendar.monthStart ym * microsPerDay

variable {timezone : Timezone} {ym : YearMonth} {instant reading change before after : Int} {name : String}

/-- The reading is shown from an instant on exactly when it is not converted to
an earlier one. -/
theorem ConvertsToLater.ahead_iff (converts : timezone.ConvertsToLater)
    (shown : ∃ instant, timezone.shows instant = reading) (start : Int) :
    (∃ instant, start ≤ instant ∧ timezone.shows instant = reading) ↔ start ≤ timezone.toInstant reading := by
  constructor
  · rintro ⟨instant, ahead, atReading⟩
    exact ahead.trans (converts.last atReading)
  · intro ahead
    obtain ⟨instant, atReading⟩ := shown
    exact ⟨_, ahead, converts.shown atReading⟩

/-- The local month of an instant is an earlier one exactly when its reading is
before the month's first midnight. -/
theorem yearMonthAt_lt_iff : timezone.yearMonthAt instant < ym ↔ timezone.shows instant < firstMidnight ym := by
  rw [← not_le, yearMonthAt, ← Calendar.monthStart_le_iff, firstMidnight, shows]
  unfold microsPerDay
  omega

/-! ## A clock that is changed once -/

/-- The offset is one before an instant and another from it on. -/
def changing (name : String) (change before after : Int) : Timezone where
  name := name
  offsetAt instant := if instant < change then before else after
  toInstant reading := if reading < change + after then reading - before else reading - after

theorem shows_changing (instant : Int) :
    (changing name change before after).shows instant =
      if instant < change then instant + before else instant + after := by
  simp only [shows, changing]
  by_cases earlier : instant < change
  · rw [if_pos earlier, if_pos earlier]
  · rw [if_neg earlier, if_neg earlier]

theorem changing_converts : (changing name change before after).ConvertsToLater where
  shown {reading instant} shown := by
    rw [shows_changing] at shown ⊢
    simp only [changing]
    split at shown <;> split <;> split <;> omega
  last {reading instant} shown := by
    rw [shows_changing] at shown
    simp only [changing]
    split at shown <;> split <;> omega

theorem monthBegins_changing : (changing name change before after).monthBegins ym =
    if firstMidnight ym < change + after then firstMidnight ym - before else firstMidnight ym - after :=
  rfl

/-- The instants before a midnight whose readings are not are those from its
first showing to a change that sets the clock back over it. -/
theorem changing_early_iff
    (shown : ∃ instant, (changing name change before after).shows instant = firstMidnight ym) :
    instant < (changing name change before after).monthBegins ym ∧
        ¬ (changing name change before after).shows instant < firstMidnight ym ↔
      change + after ≤ firstMidnight ym ∧ firstMidnight ym - before ≤ instant ∧ instant < change := by
  obtain ⟨atMidnight, shown⟩ := shown
  rw [shows_changing] at shown
  rw [monthBegins_changing, shows_changing]
  split at shown <;> split <;> split <;> omega

/-- From a midnight on, its reading is not undercut. -/
theorem le_shows_changing (shown : ∃ instant, (changing name change before after).shows instant = firstMidnight ym)
    (passed : (changing name change before after).monthBegins ym ≤ instant) :
    firstMidnight ym ≤ (changing name change before after).shows instant := by
  obtain ⟨atMidnight, shown⟩ := shown
  rw [shows_changing] at shown ⊢
  rw [monthBegins_changing] at passed
  split at shown <;> split at passed <;> split <;> omega

end EmissionsPlatform.Timezone
