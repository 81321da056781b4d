import EmissionsPlatform.Foundation.WallClock
import EmissionsPlatform.ReportedTotal
import Mathlib.Logic.Basic

/-! The two filters of `getSiteMetrics` at the boundary of the current month.
The closed months are told by the local month of a reading, the current one by
the instant that its first local midnight is converted back to. The two agree
as long as the clock is not set back over that midnight behind the reading
(`one_filter_selects_iff`); where it is, the readings from the first showing of
the midnight to the change are in neither sum (`set_back_readings_lost_iff`). -/
namespace EmissionsPlatform.MonthBoundary
open EmissionPoints IngestHandler IngestPipeline Conservation MetricsService ReportedTotal Timezone
set_option autoImplicit false

/-- The filter of `meas_agg`: the local (year, month) of a reading is before the current one. -/
def SelectedByPrior (runtime : Runtime) (timezone : String) (now recordedAt : Int) : Prop :=
  runtime.siteLocalYearMonth recordedAt timezone < runtime.siteLocalYearMonth now timezone

/-- The filter of the current month's sum: `m.recorded_at >= currentMonthStart`. -/
def SelectedByCurrent (runtime : Runtime) (timezone : String) (now recordedAt : Int) : Prop :=
  currentMonthStart runtime timezone now ≤ recordedAt

/-- The instant the current month's first local midnight is converted back to. -/
def midnight (runtime : Runtime) (timezone : String) (now : Int) : Int :=
  (runtime.timezones timezone).monthBegins (runtime.siteLocalYearMonth now timezone)

/-- The local midnight of the first of the current month exists. -/
def MidnightExists (runtime : Runtime) (timezone : String) (now : Int) : Prop :=
  ∃ instant, (runtime.timezones timezone).shows instant = firstMidnight (runtime.siteLocalYearMonth now timezone)

/-- The clock shows the first midnight of the current month in a later
millisecond than the reading's. -/
def MidnightAhead (runtime : Runtime) (timezone : String) (now recordedAt : Int) : Prop :=
  ∃ instant, toDate recordedAt + 1000 ≤ instant ∧
    (runtime.timezones timezone).shows instant = firstMidnight (runtime.siteLocalYearMonth now timezone)

/-- The clock shows that midnight behind a reading it shows before the midnight,
and is not set back over it behind a later one. -/
structure KeptInOrder (runtime : Runtime) (timezone : String) (now recordedAt : Int) : Prop where
  ahead : (runtime.timezones timezone).shows recordedAt < firstMidnight (runtime.siteLocalYearMonth now timezone) →
    MidnightAhead runtime timezone now recordedAt
  passed : firstMidnight (runtime.siteLocalYearMonth now timezone) ≤ (runtime.timezones timezone).shows recordedAt →
    ¬ MidnightAhead runtime timezone now recordedAt

variable {runtime : Runtime} {timezone : String} {now recordedAt : Int}

instance : Decidable (SelectedByPrior runtime timezone now recordedAt) := inferInstanceAs (Decidable (_ < _))

instance : Decidable (SelectedByCurrent runtime timezone now recordedAt) := inferInstanceAs (Decidable (_ ≤ _))

theorem selectedByPrior_iff : SelectedByPrior runtime timezone now recordedAt ↔
    (runtime.timezones timezone).shows recordedAt < firstMidnight (runtime.siteLocalYearMonth now timezone) :=
  yearMonthAt_lt_iff

theorem not_selectedByCurrent_iff :
    ¬ SelectedByCurrent runtime timezone now recordedAt ↔ recordedAt < toDate (midnight runtime timezone now) :=
  not_le

theorem not_selectedByCurrent_iff_ahead (converts : (runtime.timezones timezone).ConvertsToLater)
    (exists_midnight : MidnightExists runtime timezone now) :
    ¬ SelectedByCurrent runtime timezone now recordedAt ↔ MidnightAhead runtime timezone now recordedAt := by
  have ahead : MidnightAhead runtime timezone now recordedAt ↔
      toDate recordedAt + 1000 ≤ midnight runtime timezone now := converts.ahead_iff exists_midnight _
  rw [not_selectedByCurrent_iff, ahead, toDate, toDate]
  omega

/-- **Exactly one of the two filters selects a reading if and only if the clock
is still to show the month's first midnight where it shows the reading before
it, and is not to show it again where it shows the reading behind it.** -/
theorem one_filter_selects_iff (converts : (runtime.timezones timezone).ConvertsToLater)
    (exists_midnight : MidnightExists runtime timezone now) :
    Xor (SelectedByPrior runtime timezone now recordedAt) (SelectedByCurrent runtime timezone now recordedAt) ↔
      KeptInOrder runtime timezone now recordedAt := by
  rw [xor_iff_iff_not, not_selectedByCurrent_iff_ahead converts exists_midnight, selectedByPrior_iff]
  constructor
  · exact fun same => ⟨same.mp, fun passed ahead => absurd (same.mpr ahead) (not_lt.mpr passed)⟩
  · exact fun ordered => ⟨ordered.ahead, fun ahead => not_le.mp fun passed => ordered.passed passed ahead⟩

-- On 2020-11-01 the clocks of Havana went from 01:00 back to 00:00, at 05:00 UTC.
private def havana : Timezone := changing "America/Havana" 1604206800000000 (-14400000000) (-18000000000)

private def inHavana : Runtime := { Runtime.exactUtc with timezones := fun _ => havana }

private theorem havana_midnight_exists : MidnightExists inHavana "America/Havana" 1604318400000000 :=
  ⟨1604206800000000, by decide⟩

/-- Behind the second showing of 00:30 the clock shows no midnight of the first. -/
private theorem second_showing_in_order : KeptInOrder inHavana "America/Havana" 1604318400000000 1604208600000000 where
  ahead before := absurd before (by decide)
  passed _ := by
    rintro ⟨instant, later, atMidnight⟩
    have midnight :
        firstMidnight (inHavana.siteLocalYearMonth 1604318400000000 "America/Havana") = 1604188800000000 := by
      decide
    have whole : toDate 1604208600000000 = 1604208600000000 := by decide
    rw [midnight, inHavana, havana, shows_changing] at atMidnight
    rw [whole] at later
    split at atMidnight <;> omega

/-- A reading of 00:30, the second time the clock shows it, is in one sum. -/
theorem second_showing_is_selected :
    Xor (SelectedByPrior inHavana "America/Havana" 1604318400000000 1604208600000000)
      (SelectedByCurrent inHavana "America/Havana" 1604318400000000 1604208600000000) :=
  (one_filter_selects_iff changing_converts havana_midnight_exists).mpr second_showing_in_order

/-- A reading of 00:30, the first time the clock shows it, is in none. -/
theorem first_showing_is_lost :
    ¬ ∀ (runtime : Runtime) (timezone : String) (now recordedAt : Int),
      (runtime.timezones timezone).ConvertsToLater → MidnightExists runtime timezone now →
        Xor (SelectedByPrior runtime timezone now recordedAt) (SelectedByCurrent runtime timezone now recordedAt) := by
  intro always
  have selected := always inHavana "America/Havana" 1604318400000000 1604205000000000 changing_converts
    havana_midnight_exists
  revert selected
  decide

/-! ## What the sums cover -/

/-- Where every reading of the site keeps its order, the two filters divide the
site's readings between them. -/
theorem sums_cover_readings {db : Database} {site : Site} (wellformed : Wellformed db)
    (converts : (runtime.timezones site.timezone).ConvertsToLater)
    (exists_midnight : MidnightExists runtime site.timezone now)
    (ordered : ∀ row ∈ siteReadings db site.id, KeptInOrder runtime site.timezone now row.recordedAt) :
    totalKg ((siteReadings db site.id).filter fun row => SelectedByPrior runtime site.timezone now row.recordedAt) +
        (currentMonthTotal db site.id (currentMonthStart runtime site.timezone now)).millionths =
      totalKg (siteReadings db site.id) := by
  rw [currentMonthTotal_eq wellformed, ← totalKg_filter_add
    (fun row => SelectedByPrior runtime site.timezone now row.recordedAt) (siteReadings db site.id)]
  congr 2
  apply List.filter_congr
  intro row member
  rw [decide_eq_decide]
  have divided := (one_filter_selects_iff converts exists_midnight).mpr (ordered row member)
  exact (xor_iff_not_iff'.mp divided).symm

/-! ## A clock that is set back over the midnight -/

section
variable {name : String} {change before after : Int}

/-- Offsets of whole milliseconds lose nothing in a `Date`. -/
theorem toDate_midnight (zone : runtime.timezones timezone = changing name change before after)
    (whole : before % 1000 = 0 ∧ after % 1000 = 0) :
    toDate (midnight runtime timezone now) = midnight runtime timezone now := by
  rw [toDate, midnight, zone, monthBegins, changing]
  unfold microsPerDay
  simp only
  split <;> omega

/-- **A reading is in neither sum exactly when it is recorded from the first
showing of the midnight to a change that sets the clock back over it.** -/
theorem set_back_readings_lost_iff (zone : runtime.timezones timezone = changing name change before after)
    (whole : before % 1000 = 0 ∧ after % 1000 = 0) (exists_midnight : MidnightExists runtime timezone now) :
    ¬ SelectedByPrior runtime timezone now recordedAt ∧ ¬ SelectedByCurrent runtime timezone now recordedAt ↔
      change + after ≤ firstMidnight (runtime.siteLocalYearMonth now timezone) ∧
        firstMidnight (runtime.siteLocalYearMonth now timezone) - before ≤ recordedAt ∧ recordedAt < change := by
  rw [MidnightExists, zone] at exists_midnight
  rw [not_selectedByCurrent_iff, toDate_midnight zone whole, selectedByPrior_iff, midnight, zone, and_comm]
  exact changing_early_iff exists_midnight

/-- No reading is in both sums. -/
theorem not_selected_twice (zone : runtime.timezones timezone = changing name change before after)
    (whole : before % 1000 = 0 ∧ after % 1000 = 0) (exists_midnight : MidnightExists runtime timezone now) :
    ¬ (SelectedByPrior runtime timezone now recordedAt ∧ SelectedByCurrent runtime timezone now recordedAt) := by
  rintro ⟨prior, current⟩
  rw [MidnightExists, zone] at exists_midnight
  rw [SelectedByCurrent, currentMonthStart, ← midnight, toDate_midnight zone whole, midnight, zone] at current
  rw [selectedByPrior_iff, zone] at prior
  exact absurd (le_shows_changing exists_midnight current) (not_le.mpr prior)

end

end EmissionsPlatform.MonthBoundary
