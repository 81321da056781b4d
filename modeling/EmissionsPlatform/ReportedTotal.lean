import EmissionsPlatform.Conservation
import EmissionsPlatform.MetricsService

/-! What the reported total is made of. The closed months are summed over the
rows of `site_monthly_emissions`, the current one over the readings from its
beginning on. A row of a month is only ever created by a late reading of that
month; a month whose readings all came in while it was current has none, and
leaves the total when it ends. `total_and_forgotten` accounts for every
reading, and `total_is_exact_iff` says when nothing is forgotten. -/
namespace EmissionsPlatform.ReportedTotal
open Contracts UniqueIndex EmissionPoints IngestHandler IngestPipeline Conservation MetricsService Transition
set_option autoImplicit false

/-- No row of the monthly table holds a total of its own: nothing computes one. -/
def AllStale (db : Database) : Prop :=
  ∀ key row, db.siteMonthlyEmissions.get? key = some row → row.stale = true

/-- The readings of closed months without a row in the monthly table. -/
def forgotten (runtime : Runtime) (db : Database) (site : Site) (now : Int) : List Measurement :=
  (siteReadings db site.id).filter fun row =>
    monthOf runtime site.timezone row < runtime.siteLocalYearMonth now site.timezone ∧
      db.siteMonthlyEmissions.get? (site.id, monthOf runtime site.timezone row) = none

/-- Every closed month with a positive reading has a row. -/
def ClosedMonthsHaveRows (runtime : Runtime) (db : Database) (site : Site) (now : Int) : Prop :=
  ∀ row ∈ siteReadings db site.id, 0 < row.value.millionths →
    monthOf runtime site.timezone row < runtime.siteLocalYearMonth now site.timezone →
      (db.siteMonthlyEmissions.get? (site.id, monthOf runtime site.timezone row)).isSome

variable {runtime : Runtime} {call : Call} {message : KafkaIngestMessage} {db after : Database}
variable {pipeline next : Pipeline} {action : Action} {actions : List Action} {site : Site}
variable {now seconds : Int} {rows : List Measurement}

/-! ## Joining readings with their points -/

private theorem filter_of_id {points : List EmissionPoint} (ids : (points.map EmissionPoint.id).Nodup)
    {point : EmissionPoint} (member : point ∈ points) (siteId : Nat) :
    (points.filter fun other => other.id = point.id ∧ other.siteId = siteId) =
      if point.siteId = siteId then [point] else [] := by
  induction points with
  | nil => cases member
  | cons head rest ih =>
    rw [List.map_cons, List.nodup_cons] at ids
    rcases List.mem_cons.mp member with rfl | later
    · have others : (rest.filter fun other => other.id = point.id ∧ other.siteId = siteId) = [] := by
        rw [List.filter_eq_nil_iff]
        intro other otherMember
        have different : other.id ≠ point.id :=
          fun same => ids.1 (List.mem_map.mpr ⟨other, otherMember, same⟩)
        simp [different]
      rw [List.filter_cons, others]
      by_cases ours : point.siteId = siteId <;> simp only [ours, and_self, and_false, decide_true, decide_false,
        ↓reduceIte, Bool.false_eq_true]
    · have different : head.id ≠ point.id :=
        fun same => ids.1 (List.mem_map.mpr ⟨point, later, same.symm⟩)
      rw [List.filter_cons_of_neg (by simp [different])]
      exact ih ids.2 later

/-- Summing through the emission points is summing through the site. -/
theorem joinedMeasurements_eq (wellformed : Wellformed db) (siteId : Nat) :
    joinedMeasurements db siteId = siteReadings db siteId := by
  have joined : ∀ row ∈ db.measurements.rows,
      ((db.siteEmissionPoints.rows.filter fun sep => sep.id = row.emissionPointId ∧ sep.siteId = siteId).map
        fun _ => row) = if row.siteId = siteId then [row] else [] := by
    intro row member
    obtain ⟨point, stored, same, ofSite⟩ := wellformed.attributed row member
    rw [← same, filter_of_id wellformed.sequenced.ids stored, ofSite]
    split <;> rfl
  rw [joinedMeasurements, siteReadings, List.flatMap_congr joined]
  induction db.measurements.rows with
  | nil => rfl
  | cons row rest ih =>
    by_cases ours : row.siteId = siteId <;> simp [ours, ih]

/-! ## Sums over parts of the readings -/

theorem totalKg_filter_add (p : Measurement → Prop) [DecidablePred p] (rows : List Measurement) :
    totalKg (rows.filter fun row => p row) + totalKg (rows.filter fun row => ¬ p row) = totalKg rows := by
  induction rows with
  | nil => rfl
  | cons row rest ih =>
    by_cases holds : p row
    · rw [List.filter_cons_of_pos (by simpa using holds), List.filter_cons_of_neg (by simp [holds]),
        totalKg_cons, totalKg_cons]
      omega
    · rw [List.filter_cons_of_neg (by simp [holds]), List.filter_cons_of_pos (by simp [holds]),
        totalKg_cons, totalKg_cons]
      omega

theorem totalKg_ofMonth_cons (timezone : String) (month : YearMonth) (row : Measurement) (rest : List Measurement) :
    totalKg (ofMonth runtime timezone month (row :: rest)) =
      (if monthOf runtime timezone row = month then row.value.millionths else 0) +
        totalKg (ofMonth runtime timezone month rest) := by
  rw [ofMonth, ofMonth, List.filter_cons]
  by_cases here : monthOf runtime timezone row = month <;> simp [here]

private theorem sum_pick {months : List YearMonth} (nodup : months.Nodup) (month : YearMonth) (value : Nat) :
    (months.map fun other => if month = other then value else 0).sum = if month ∈ months then value else 0 := by
  induction months with
  | nil => rfl
  | cons head rest ih =>
    rw [List.nodup_cons] at nodup
    rw [List.map_cons, List.sum_cons, ih nodup.2]
    by_cases here : month = head
    · subst here
      simp [nodup.1]
    · simp [here]

/-- The sums of several months are the sum of the readings in them. -/
theorem sum_ofMonth (timezone : String) {months : List YearMonth} (nodup : months.Nodup) (rows : List Measurement) :
    (months.map fun month => totalKg (ofMonth runtime timezone month rows)).sum =
      totalKg (rows.filter fun row => monthOf runtime timezone row ∈ months) := by
  induction rows with
  | nil => simp [ofMonth]
  | cons row rest ih =>
    simp only [totalKg_ofMonth_cons, List.sum_map_add, sum_pick nodup, ih]
    by_cases counted : monthOf runtime timezone row ∈ months <;> simp [counted]

theorem totalKg_eq_zero_iff : totalKg rows = 0 ↔ ∀ row ∈ rows, row.value.millionths = 0 := by
  induction rows with
  | nil => simp
  | cons row rest ih => simp [ih]

/-! ## The statements of the read -/

theorem selectSite_eq (member : site ∈ db.sites.rows) : selectSite db site.slug = some site := by
  cases found : selectSite db site.slug with
  | none =>
    have := List.find?_eq_none.mp found site member
    simp at this
  | some other =>
    have same : other.slug = site.slug := by simpa using List.find?_some found
    rw [db.sites.eq_of_key (List.mem_of_find?_eq_some found) member same]

theorem millionths_ofColumns (rows : List Measurement) :
    (SqlNumeric.total (rows.map fun m => .ofColumn m.value)).millionths = totalKg rows := by
  rw [SqlNumeric.millionths_total, List.map_map]
  rfl

theorem currentMonthTotal_eq (wellformed : Wellformed db) (start : Int) (id : Nat) :
    (currentMonthTotal db id start).millionths =
      totalKg ((siteReadings db id).filter fun row => start ≤ row.recordedAt) := by
  rw [currentMonthTotal, millionths_ofColumns, joinedMeasurements_eq wellformed]

/-- With nothing cached, a row counts the readings of its month. -/
theorem effectiveTotal_eq (wellformed : Wellformed db) (stale : AllStale db)
    {entry : (Nat × YearMonth) × MonthlyEmissions} (stored : entry ∈ db.siteMonthlyEmissions.entries) :
    (effectiveTotal runtime db site entry).millionths =
      totalKg (ofMonth runtime site.timezone entry.1.2 (siteReadings db site.id)) := by
  have isStale := stale entry.1 entry.2 (InsertionMap.get?_eq_some_iff.mpr stored)
  rw [effectiveTotal, if_pos isStale, measSum, joinedMeasurements_eq wellformed]
  exact millionths_ofColumns _

/-- The closed months that have a row. -/
def countedMonths (db : Database) (siteId : Nat) (current : YearMonth) : List YearMonth :=
  (monthlyRows db siteId current).map fun entry => entry.1.2

theorem mem_countedMonths {siteId : Nat} {current month : YearMonth} :
    month ∈ countedMonths db siteId current ↔
      month < current ∧ (db.siteMonthlyEmissions.get? (siteId, month)).isSome := by
  simp only [countedMonths, monthlyRows, List.mem_map, List.mem_filter, decide_eq_true_eq,
    Option.isSome_iff_exists, InsertionMap.get?_eq_some_iff]
  constructor
  · rintro ⟨⟨⟨id, ym⟩, row⟩, ⟨stored, rfl, closed⟩, rfl⟩
    exact ⟨closed, row, stored⟩
  · rintro ⟨closed, row, stored⟩
    exact ⟨((siteId, month), row), ⟨stored, rfl, closed⟩, rfl⟩

theorem countedMonths_nodup (db : Database) (siteId : Nat) (current : YearMonth) :
    (countedMonths db siteId current).Nodup := by
  have keys : ((monthlyRows db siteId current).map Prod.fst).Nodup :=
    db.siteMonthlyEmissions.nodup.sublist (List.filter_sublist.map _)
  have split : countedMonths db siteId current = ((monthlyRows db siteId current).map Prod.fst).map Prod.snd := by
    rw [List.map_map]
    rfl
  rw [split]
  refine List.Nodup.map_on ?_ keys
  rintro ⟨id, month⟩ first ⟨id', month'⟩ second rfl
  have owner : ∀ key ∈ (monthlyRows db siteId current).map Prod.fst, key.1 = siteId := by
    intro key member
    obtain ⟨entry, stored, rfl⟩ := List.mem_map.mp member
    simpa using (of_decide_eq_true (List.mem_filter.mp stored).2).1
  rw [show id = siteId from owner _ first, show id' = siteId from owner _ second]

theorem priorTotal_eq (wellformed : Wellformed db) (stale : AllStale db) (current : YearMonth) :
    (priorTotal runtime db site current).millionths =
      totalKg ((siteReadings db site.id).filter fun row =>
        monthOf runtime site.timezone row ∈ countedMonths db site.id current) := by
  rw [← sum_ofMonth site.timezone (countedMonths_nodup db site.id current), priorTotal,
    SqlNumeric.millionths_total, List.map_map, countedMonths, List.map_map]
  refine congrArg List.sum (List.map_congr_left fun entry member => ?_)
  exact effectiveTotal_eq wellformed stale (List.mem_of_mem_filter member)

/-- Under a fixed offset, the current month's sum covers the readings that are
not of a closed month. -/
theorem started_iff (fixed : (runtime.timezones site.timezone).Fixed seconds) (row : Measurement) :
    currentMonthStart runtime site.timezone now ≤ row.recordedAt ↔
      ¬ monthOf runtime site.timezone row < runtime.siteLocalYearMonth now site.timezone := by
  rw [currentMonthStart, toDate, fixed.monthBegins_whole, fixed.monthBegins_le_iff, not_lt]
  rfl

/-- **Every reading is reported or forgotten**: the printed total and the
readings of closed months without a row make up all readings of the site. -/
theorem total_and_forgotten (now : Int) (wellformed : Wellformed db) (stale : AllStale db)
    (fixed : (runtime.timezones site.timezone).Fixed seconds) :
    (priorTotal runtime db site (runtime.siteLocalYearMonth now site.timezone)).millionths +
        (currentMonthTotal db site.id (currentMonthStart runtime site.timezone now)).millionths +
          totalKg (forgotten runtime db site now) = totalKg (siteReadings db site.id) := by
  let current := runtime.siteLocalYearMonth now site.timezone
  let counted (row : Measurement) := monthOf runtime site.timezone row ∈ countedMonths db site.id current
  let closed (row : Measurement) := monthOf runtime site.timezone row < current
  have open_part : ((siteReadings db site.id).filter fun row =>
      currentMonthStart runtime site.timezone now ≤ row.recordedAt) =
        (siteReadings db site.id).filter fun row => ¬ closed row :=
    List.filter_congr fun row _ => by rw [decide_eq_decide]; exact started_iff fixed row
  have counted_part : ((siteReadings db site.id).filter fun row => counted row) =
      ((siteReadings db site.id).filter fun row => closed row).filter fun row => counted row := by
    rw [List.filter_filter]
    apply List.filter_congr
    intro row _
    rw [← Bool.decide_and, decide_eq_decide]
    exact ⟨fun isCounted => ⟨isCounted, (mem_countedMonths.mp isCounted).1⟩, And.left⟩
  have forgotten_part : forgotten runtime db site now =
      ((siteReadings db site.id).filter fun row => closed row).filter fun row => ¬ counted row := by
    rw [List.filter_filter, forgotten]
    apply List.filter_congr
    intro row _
    rw [← Bool.decide_and, decide_eq_decide, and_comm]
    apply and_congr_left
    intro isClosed
    have asked : counted row ↔ _ := mem_countedMonths
    rw [asked, Option.isSome_iff_ne_none]
    simp [current, isClosed]
  rw [priorTotal_eq wellformed stale, currentMonthTotal_eq wellformed, open_part, forgotten_part, counted_part,
    ← totalKg_filter_add closed (siteReadings db site.id),
    ← totalKg_filter_add counted ((siteReadings db site.id).filter fun row => closed row)]
  omega

theorem forgotten_eq_zero_iff :
    totalKg (forgotten runtime db site now) = 0 ↔ ClosedMonthsHaveRows runtime db site now := by
  rw [totalKg_eq_zero_iff]
  constructor
  · intro nothing row member positive closed
    rw [Option.isSome_iff_ne_none]
    intro missing
    have zero := nothing row (List.mem_filter.mpr ⟨member, decide_eq_true ⟨closed, missing⟩⟩)
    omega
  · intro rows row member
    obtain ⟨stored, filtered⟩ := List.mem_filter.mp member
    obtain ⟨closed, missing⟩ := of_decide_eq_true filtered
    by_contra positive
    have found := rows row stored (Nat.pos_of_ne_zero positive) closed
    simp [missing] at found

/-! ## Whole runs -/

theorem AllStale.unrecorded (stale : AllStale db) (unrecorded : Unrecorded db after) : AllStale after :=
  fun key row found => stale key row (unrecorded.siteMonthlyEmissions ▸ found)

/-- A commit writes a row of the monthly table only to flag it. -/
theorem AllStale.committed {siteId : Nat} {timezone : String} {increments : List MetricsIncrement}
    (stale : AllStale db) : AllStale (committed runtime call message siteId timezone rows increments db) := by
  intro key row found
  simp only [IngestHandler.committed, get?_foldl_flagStale] at found
  split at found
  · cases found
    rfl
  · exact stale key row found

theorem StepEffect.allStale (effect : StepEffect runtime db after) (stale : AllStale db) : AllStale after :=
  effect.preserves (fun _ _ _ _ => stale) stale.unrecorded fun unrecorded _ _ _ _ =>
    (stale.unrecorded unrecorded).committed

theorem run_allStale (ran : run (step runtime) initial actions = some pipeline) : AllStale pipeline.db :=
  run_preserves ran (fun _ effect stale => StepEffect.allStale effect stale) nofun

/-- The read reports the exact sum of the site's readings. -/
def ReportsExactly (runtime : Runtime) (db : Database) (site : Site) (now : Int) : Prop :=
  ∃ metrics, getSiteMetrics runtime db site.slug now = some metrics ∧
    DecimalText.millionths metrics.totalKgCo2e = some (totalKg (siteReadings db site.id))

/-- **The total is exact exactly when every closed month with a positive
reading has a row in the monthly table.** -/
theorem total_is_exact_iff (ran : run (step runtime) initial actions = some pipeline)
    (member : site ∈ pipeline.db.sites.rows) (fixed : (runtime.timezones site.timezone).Fixed seconds) (now : Int) :
    ReportsExactly runtime pipeline.db site now ↔ ClosedMonthsHaveRows runtime pipeline.db site now := by
  have accounted := total_and_forgotten now (run_sound ran).wellformed (run_allStale ran) fixed
  rw [← forgotten_eq_zero_iff, ReportsExactly, getSiteMetrics, selectSite_eq member, Option.map_some]
  simp only [Option.some.injEq, exists_eq_left', millionths_total]
  omega

/-! ## A month that ends is forgotten -/

/-- The clock readings of the handled calls, in order. -/
def clocks (actions : List Action) : List Int :=
  actions.filterMap fun
    | .handle _ call _ => some (instantOfMs call.now)
    | _ => none

private def january : KafkaIngestMessage :=
  ⟨⟨"3f2a6c1e-8d4b-4c7a-9e51-0b6d2f7a8c90", "north-plant", [⟨"stack-1", 1704067200000, "1.500000"⟩]⟩, 1704067201000⟩

private def handledAt (now : Int) : List Action :=
  [.createSite "north-plant" "North plant" "Africa/Abidjan" Numeric.zero, .start,
    .handle 0 (.healthy now now) january]

private theorem handledInJanuary_ran : (run (step .exactUtc) initial (handledAt 1704067202000)).isSome := by decide

private theorem handledInFebruary_ran : (run (step .exactUtc) initial (handledAt 1706745600000)).isSome := by decide

private def northPlant : Site := ⟨1, "north-plant", "North plant", "Africa/Abidjan", Numeric.zero⟩

/-- Handled in February, the reading's month is flagged, and counted in March. -/
theorem late_reading_is_reported :
    ReportsExactly .exactUtc ((run (step .exactUtc) initial (handledAt 1706745600000)).get handledInFebruary_ran).db
      northPlant 1709251200000000 :=
  (total_is_exact_iff (Option.some_get handledInFebruary_ran).symm (by decide) Timezone.utc_fixed
    1709251200000000).mpr (by unfold ClosedMonthsHaveRows; decide)

/-- Handled in January, the reading is in no total from February on. -/
theorem punctual_reading_is_forgotten :
    ¬ ∀ (runtime : Runtime) (actions : List Action) (pipeline : Pipeline) (site : Site) (seconds now : Int),
      runtime.arithmetic.Exact → run (step runtime) initial actions = some pipeline →
        site ∈ pipeline.db.sites.rows → (runtime.timezones site.timezone).Fixed seconds →
          (clocks actions).Pairwise (· ≤ ·) → (∀ clock ∈ clocks actions, clock ≤ now) →
            ReportsExactly runtime pipeline.db site now := by
  intro always
  obtain ⟨metrics, answered, exact⟩ := always .exactUtc (handledAt 1704067202000) _ northPlant 0 1706745600000000
    NumberArithmetic.exact_exact (Option.some_get handledInJanuary_ran).symm (by decide) Timezone.utc_fixed
    (by decide) (by decide)
  revert metrics
  decide

end EmissionsPlatform.ReportedTotal
