import EmissionsPlatform.HandlerEffects

/-! What a committed call writes to `site_monthly_emissions`, with all columns of
the table. The handler's model keeps the total and the flag of a row; here a row
also has its `computed_at`, and `erase` forgets it again (`erase_upsertAll`).

`stale_flags_are_exact` says which rows a call touches and how, whatever the
table held before. -/
namespace EmissionsPlatform.StaleFlags
open Contracts UniqueIndex IngestHandler
set_option autoImplicit false

/-- A row of `site_monthly_emissions`, below its primary key. -/
structure CacheRow where
  totalKg : Numeric
  stale : Bool
  /-- In microseconds. -/
  computedAt : Option Int
  deriving DecidableEq

abbrev CacheTable := InsertionMap (Nat × YearMonth) CacheRow

/-- The columns the handler's model keeps. -/
def CacheRow.kept (row : CacheRow) : MonthlyEmissions := ⟨row.totalKg, row.stale⟩

def erase (cache : CacheTable) : InsertionMap (Nat × YearMonth) MonthlyEmissions := cache.mapValues CacheRow.kept

/-- One upsert: `VALUES (…, '0', true, new Date()) ON CONFLICT DO UPDATE SET
stale = true`. `clock` is what `new Date()` reads at each. -/
def upsert (siteId : Nat) (clock : YearMonth → Int) (cache : CacheTable) (month : YearMonth) : CacheTable :=
  match cache.get? (siteId, month) with
  | some row => cache.set (siteId, month) { row with stale := true }
  | none => cache.set (siteId, month) ⟨Numeric.zero, true, some (instantOfMs (clock month))⟩

/-- The loop of `markMonthsStale`. -/
def upsertAll (siteId : Nat) (clock : YearMonth → Int) (ordered : List YearMonth) (cache : CacheTable) : CacheTable :=
  ordered.foldl (upsert siteId clock) cache

/-- The readings a call has inserted. -/
def newReadings (before after : Database) : List Measurement :=
  after.measurements.rows.drop before.measurements.rows.length

/-- The site-local month of the `now` a call has captured. -/
def nowYearMonth (runtime : Runtime) (call : Call) (site : Site) : YearMonth :=
  runtime.siteLocalYearMonth (instantOfMs call.now) site.timezone

/-- The months a call upserts, in order. -/
def writtenMonths (runtime : Runtime) (call : Call) (site : Site) (before after : Database) : List YearMonth :=
  staleMonths runtime site.timezone (nowYearMonth runtime call site) (newReadings before after)

/-- The rows a call is to touch: of the site, of a month before that of its
`now`, with a newly inserted reading. -/
def Touched (runtime : Runtime) (call : Call) (site : Site) (before after : Database) (key : Nat × YearMonth) : Prop :=
  key.1 = site.id ∧ key.2 < nowYearMonth runtime call site ∧
    ∃ row ∈ newReadings before after, monthOf runtime site.timezone row = key.2

/-- The touched rows are flagged and keep the rest, or are created at zero;
every other row is as it was. -/
structure FlagsOnly (touched : Nat × YearMonth → Prop) (before after : CacheTable) : Prop where
  existing : ∀ key row, touched key → before.get? key = some row → after.get? key = some { row with stale := true }
  created : ∀ key, touched key → before.get? key = none →
    ∃ computedAt, after.get? key = some ⟨Numeric.zero, true, some computedAt⟩
  others : ∀ key, ¬ touched key → after.get? key = before.get? key

/-- What a committed call does to the table. -/
structure StaleExactly (runtime : Runtime) (call : Call) (clock : YearMonth → Int) (site : Site) (db after : Database)
    (cache : CacheTable) (result : IngestResult) : Prop where
  /-- The upserts are those of the handler. -/
  written : erase (upsertAll site.id clock (writtenMonths runtime call site db after) cache) =
    after.siteMonthlyEmissions
  inserted : (newReadings db after).length = result.inserted
  flags : FlagsOnly (Touched runtime call site db after) cache
    (upsertAll site.id clock (writtenMonths runtime call site db after) cache)
  months : ∀ month, month ∈ writtenMonths runtime call site db after ↔
    Touched runtime call site db after (site.id, month)
  ordered : (writtenMonths runtime call site db after).Pairwise (· < ·)
  nothing : newReadings db after = [] → upsertAll site.id clock (writtenMonths runtime call site db after) cache = cache

variable {runtime : Runtime} {call : Call} {message : KafkaIngestMessage} {db after : Database}
variable {process process' : Process} {site : Site} {result : IngestResult} {clock : YearMonth → Int}
variable {cache : CacheTable} {siteId : Nat} {month : YearMonth} {ordered : List YearMonth} {key : Nat × YearMonth}

/-! ## The upserts -/

theorem erase_upsert : erase (upsert siteId clock cache month) = flagStale siteId (erase cache) month := by
  rw [upsert, flagStale, erase, erase, InsertionMap.get?_mapValues]
  cases cache.get? (siteId, month) with
  | none => exact InsertionMap.mapValues_set CacheRow.kept
  | some row => exact InsertionMap.mapValues_set CacheRow.kept

/-- Without their `computed_at`, the upserts are those of the handler's model. -/
theorem erase_upsertAll (ordered : List YearMonth) (cache : CacheTable) :
    erase (upsertAll siteId clock ordered cache) = ordered.foldl (flagStale siteId) (erase cache) := by
  induction ordered generalizing cache with
  | nil => rfl
  | cons first rest ih => exact (ih (upsert siteId clock cache first)).trans (by rw [erase_upsert]; rfl)

/-- A row as an upsert leaves it. -/
def flagged (clock : YearMonth → Int) (month : YearMonth) (old : Option CacheRow) : CacheRow :=
  match old with
  | some row => { row with stale := true }
  | none => ⟨Numeric.zero, true, some (instantOfMs (clock month))⟩

theorem get?_upsert : (upsert siteId clock cache month).get? key =
    if key = (siteId, month) then some (flagged clock month (cache.get? key)) else cache.get? key := by
  rw [upsert]
  by_cases here : key = (siteId, month)
  · subst here
    cases held : cache.get? (siteId, month) <;> simp [flagged]
  · cases cache.get? (siteId, month) <;> simp [InsertionMap.get?_set, here]

theorem flagged_flagged (clock : YearMonth → Int) (month : YearMonth) (old : Option CacheRow) :
    flagged clock month (some (flagged clock month old)) = flagged clock month old := by
  cases old <;> rfl

theorem get?_upsertAll (ordered : List YearMonth) (cache : CacheTable) :
    (upsertAll siteId clock ordered cache).get? key =
      if key.1 = siteId ∧ key.2 ∈ ordered then some (flagged clock key.2 (cache.get? key)) else cache.get? key := by
  induction ordered generalizing cache with
  | nil => simp [upsertAll]
  | cons first rest ih =>
    obtain ⟨site, ym⟩ := key
    rw [upsertAll, List.foldl_cons, ← upsertAll, ih, get?_upsert]
    by_cases here : (site, ym) = (siteId, first)
    · cases here
      by_cases again : first ∈ rest <;> simp [again, flagged_flagged]
    · by_cases ours : site = siteId
      · subst ours
        have different : ym ≠ first := fun same => here (same ▸ rfl)
        simp [here, different]
      · simp [ours]

/-- The months are flagged in order, each once. -/
theorem staleMonths_ordered (runtime : Runtime) (timezone : String) (nowYearMonth : YearMonth)
    (rows : List Measurement) :
    (staleMonths runtime timezone nowYearMonth rows).Pairwise (· < ·) := by
  have sorted : (staleMonths runtime timezone nowYearMonth rows).Pairwise (· ≤ ·) := List.pairwise_insertionSort _ _
  have once : (staleMonths runtime timezone nowYearMonth rows).Nodup :=
    (List.perm_insertionSort _ _).nodup_iff.mpr (InsertionMap.values_nodup monthKey fun _ _ found =>
      InsertionMap.groupBy_labelled monthKey (fun _ => rfl) (fun _ _ => rfl) found)
  exact (sorted.and once).imp fun ⟨notAfter, different⟩ => lt_of_le_of_ne notAfter different

/-! ## The call -/

theorem mem_writtenMonths : month ∈ writtenMonths runtime call site db after ↔
    Touched runtime call site db after (site.id, month) := by
  rw [writtenMonths, mem_staleMonths, Touched]
  exact (and_iff_right rfl).symm

/-- Upserting the months of a call touches their rows only. -/
theorem flagsOnly_upsertAll (cache : CacheTable) : FlagsOnly (Touched runtime call site db after) cache
    (upsertAll site.id clock (writtenMonths runtime call site db after) cache) := by
  have upserted : ∀ key, Touched runtime call site db after key ↔
      key.1 = site.id ∧ key.2 ∈ writtenMonths runtime call site db after := by
    rintro ⟨id, month⟩
    rw [mem_writtenMonths, Touched, Touched]
    exact ⟨fun touched => ⟨touched.1, rfl, touched.2⟩, fun touched => ⟨touched.1, touched.2.2⟩⟩
  constructor
  · intro key row touched held
    rw [get?_upsertAll, if_pos ((upserted key).mp touched), held]
    rfl
  · intro key touched missing
    rw [get?_upsertAll, if_pos ((upserted key).mp touched), missing]
    exact ⟨_, rfl⟩
  · intro key untouched
    rw [get?_upsertAll, if_neg fun among => untouched ((upserted key).mpr among)]

/-- **Stale flags are exact**: a committed call flags or creates the rows of the
past months it inserted readings of, oldest first, and touches nothing else. -/
theorem stale_flags_are_exact (remembers : Remembers db process) (member : site ∈ db.sites.rows)
    (slug : site.slug = message.siteSlug) (kept : erase cache = db.siteMonthlyEmissions) (clock : YearMonth → Int)
    (handled : handle runtime call message db process = (after, process', .ok result)) :
    StaleExactly runtime call clock site db after cache result := by
  obtain ⟨effect, -⟩ := handle_cases remembers handled
  cases effect with
  | unknown _ absent _ => exact absurd slug (absent site member)
  | persisted known knownMember knownSlug middle unrecorded emissionPointMap sound rows increments commits =>
    cases db.sites.eq_of_key knownMember member (knownSlug.trans slug.symm)
    have new : newReadings db (committed runtime call message site.id site.timezone rows increments middle) =
        middle.measurements.created rows := by
      simp only [newReadings, committed, Table.insertIgnoring_rows, unrecorded.measurements, List.drop_left]
    refine ⟨?_, ?_, flagsOnly_upsertAll cache, fun _ => mem_writtenMonths, staleMonths_ordered _ _ _ _, fun none => ?_⟩
    · rw [erase_upsertAll, kept, writtenMonths, new, ← unrecorded.siteMonthlyEmissions]
      rfl
    · rw [new]
      rfl
    · rw [writtenMonths, none]
      rfl

/-- Day 19723 is the first of January 2024. -/
private def computedJanuary : CacheTable :=
  InsertionMap.empty.set (1, Calendar.civil 19723) ⟨⟨5000000, by decide⟩, false, some 1706832000000000⟩

private def cachedPlant : Database :=
  { Database.migrated with
    sites := Database.migrated.sites.insertIgnoring [⟨1, "north-plant", "North plant", "Africa/Abidjan", Numeric.zero⟩]
    siteMonthlyEmissions := erase computedJanuary }

/-- Readings of December, January and February, handled in February. -/
private def threeMonths : KafkaIngestMessage :=
  ⟨⟨"3f2a6c1e-8d4b-4c7a-9e51-0b6d2f7a8c90", "north-plant",
    [⟨"stack-1", 1706745600000, "1.5"⟩, ⟨"stack-1", 1704067200000, "2.5"⟩, ⟨"stack-1", 1704067199999, "3.5"⟩]⟩,
    1706745601000⟩

/-- December is created and January flagged; February has no row. -/
theorem past_months_are_flagged :
    StaleExactly .exactUtc (.healthy 1706745602000 1706745602000) (fun _ => 1706745602000)
      ⟨1, "north-plant", "North plant", "Africa/Abidjan", Numeric.zero⟩ cachedPlant
      (handle .exactUtc (.healthy 1706745602000 1706745602000) threeMonths cachedPlant .started).1 computedJanuary
      ⟨true, 3, 0, "7.500000", some 1⟩ :=
  stale_flags_are_exact (remembers_started _) (by decide) rfl rfl _
    (Prod.ext rfl (Prod.ext rfl (by decide +kernel)))

end EmissionsPlatform.StaleFlags
