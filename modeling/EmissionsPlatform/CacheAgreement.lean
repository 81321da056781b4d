import EmissionsPlatform.MetricsRelay
import EmissionsPlatform.ReportedTotal

/-! The current month in Redis and in Postgres. Consumers commit readings and
increments, relay replicas apply the increments to the site's hash, and a read
sums the readings.

The hash has a field for every month, and the read sums from the beginning of
the current month on, without an end. So a reading of a later month, which
nothing refuses, is in the sum and not in the field. `cache_agrees_iff` says
that once everything is delivered this is the only difference. -/
namespace EmissionsPlatform.CacheAgreement
open Contracts LeaseQueue IngestHandler IngestPipeline Conservation MetricsService ReportedTotal Transition
open MetricsRelay (hashKey yyyymm appliedKg Exact)
open Relay (Config)
set_option autoImplicit false

structure Platform where
  pipeline : Pipeline
  redis : Keyspace
  /-- The rows whose script has run. -/
  ran : List Nat
  deriving DecidableEq

inductive Action
  | ingest (action : IngestPipeline.Action)
  | relay (action : MetricsRelay.Action)

/-- What the relay works on. -/
def Platform.relay (platform : Platform) : MetricsRelay.State :=
  ⟨platform.pipeline.db.metricsOutbox, platform.pipeline.db.systemAlerts, platform.redis, platform.ran⟩

/-- The platform after the relay's step. -/
def Platform.relayed (platform : Platform) (state : MetricsRelay.State) : Platform :=
  ⟨⟨{ platform.pipeline.db with metricsOutbox := state.queue, systemAlerts := state.systemAlerts },
    platform.pipeline.processes⟩, state.redis, state.ran⟩

/-- Rows reach the relay's table through the consumers only, and no lifetime
ends. -/
def step (runtime : Runtime) (config : Config) (platform : Platform) : Action → Option Platform
  | .ingest action =>
    (IngestPipeline.step runtime platform.pipeline action).map fun pipeline => { platform with pipeline }
  | .relay (.enqueue _ _) | .relay (.expireGuard _) => none
  | .relay action => (MetricsRelay.step config platform.relay action).map platform.relayed

def initial : Platform := ⟨IngestPipeline.initial, InsertionMap.empty, []⟩

/-- Every row of `metrics_outbox` is delivered. -/
def Drained (platform : Platform) : Prop :=
  ∀ row ∈ platform.pipeline.db.metricsOutbox.rows, row.delivery.deliveredAt ≠ none

instance (platform : Platform) : Decidable (Drained platform) :=
  inferInstanceAs (Decidable (∀ row ∈ _, _))

/-- The field of the month of `now`, an absent one counted as 0, is what a read
at `now` reports for the month to date. -/
def CacheAgrees (runtime : Runtime) (platform : Platform) (site : Site) (now : Int) : Prop :=
  ∃ metrics, getSiteMetrics runtime platform.pipeline.db site.slug now = some metrics ∧
    DecimalText.millionths metrics.currentMonthToDateKgCo2e = some ((platform.redis.field? (hashKey site.id)
      (yyyymm (runtime.siteLocalYearMonth now site.timezone))).getD 0)

/-- No positive reading of the site is of a later month. -/
def NothingAhead (runtime : Runtime) (db : Database) (site : Site) (now : Int) : Prop :=
  ∀ row ∈ siteReadings db site.id, 0 < row.value.millionths →
    monthOf runtime site.timezone row ≤ runtime.siteLocalYearMonth now site.timezone

instance (runtime : Runtime) (db : Database) (site : Site) (now : Int) : Decidable (NothingAhead runtime db site now) :=
  inferInstanceAs (Decidable (∀ row ∈ _, _ → _))

/-! ## What a run keeps -/

variable {runtime : Runtime} {config : Config} {platform next : Platform} {action : Action} {actions : List Action}
variable {pipeline after : Pipeline} {site : Site} {seconds now : Int}

/-- The tables agree, and Redis agrees with the relay's table. -/
structure Agreeing (runtime : Runtime) (platform : Platform) : Prop where
  sound : IngestPipeline.Sound platform.pipeline
  conserved : Conserved runtime platform.pipeline.db
  exact : Exact platform.relay

/-- A consumer leaves the relay's table alone or appends rows to it. -/
theorem ingest_metricsOutbox {chosen : IngestPipeline.Action} (sound : IngestPipeline.Sound pipeline)
    (stepped : IngestPipeline.step runtime pipeline chosen = some after) :
    after.db.metricsOutbox = pipeline.db.metricsOutbox ∨
      ∃ moment increments, after.db.metricsOutbox = enqueue moment increments pipeline.db.metricsOutbox := by
  refine @StepEffect.preserves _ _ _ (fun db => db.metricsOutbox = pipeline.db.metricsOutbox ∨
    ∃ moment increments, db.metricsOutbox = enqueue moment increments pipeline.db.metricsOutbox)
    (step_effect sound stepped).1 ?_ ?_ ?_
  · exact fun _ _ _ _ => Or.inl rfl
  · exact fun unrecorded => Or.inl unrecorded.metricsOutbox
  · intro call message middle emissionPointMap rows increments site unrecorded _ _ _ _
    exact Or.inr ⟨instantOfMs call.now, increments, congrArg (enqueue _ _) unrecorded.metricsOutbox⟩

/-- Redis agrees with the table while the relay's rows are only added to. -/
theorem exact_of_ingest (exact : Exact platform.relay)
    (written : after.db.metricsOutbox = platform.pipeline.db.metricsOutbox ∨
      ∃ moment increments, after.db.metricsOutbox = enqueue moment increments platform.pipeline.db.metricsOutbox) :
    Exact ({ platform with pipeline := after } : Platform).relay := by
  have queue : Exact { platform.relay with queue := after.db.metricsOutbox } := by
    rcases written with same | ⟨moment, increments, added⟩
    · rw [same]
      exact exact
    · rw [added]
      exact exact.enqueue moment increments
  exact queue.of_queue queue.sound queue.settled rfl fun _ stored _ => stored

/-- The relay writes delivery columns, alerts and Redis. -/
theorem Agreeing.relayed (agreeing : Agreeing runtime platform) {state : MetricsRelay.State} (exact : Exact state)
    (contents : state.queue.rows.map Row.content = platform.pipeline.db.metricsOutbox.rows.map Row.content) :
    Agreeing runtime (platform.relayed state) := by
  have data : state.queue.rows.map Row.data = platform.pipeline.db.metricsOutbox.rows.map Row.data := by
    have seconds := congrArg (List.map Prod.snd) contents
    rwa [List.map_map, List.map_map] at seconds
  obtain ⟨⟨⟨siteIds, siteFresh, sequenced, measured, attributed, incremented⟩, remembers⟩, conserved, -⟩ := agreeing
  have stillIncremented : ∀ row ∈ state.queue.rows, ∃ site ∈ platform.pipeline.db.sites.rows,
      site.id = row.data.siteId := by
    intro row stored
    obtain ⟨old, known, same⟩ := List.mem_map.mp (data ▸ List.mem_map_of_mem stored)
    exact same ▸ incremented old known
  refine ⟨⟨⟨siteIds, siteFresh, sequenced, measured, attributed, stillIncremented⟩, fun process member => ?_⟩,
    ⟨fun site member month => ?_, conserved.counts, conserved.sums⟩, exact⟩
  · exact ⟨(remembers process member).sites, (remembers process member).points⟩
  · have same : increments (platform.relayed state).pipeline.db = increments platform.pipeline.db := data
    rw [same]
    exact conserved.months site member month

/-- The step lemma. -/
theorem step_agreeing (exactly : runtime.arithmetic.Exact) (agreeing : Agreeing runtime platform)
    (stepped : step runtime config platform action = some next) : Agreeing runtime next := by
  cases action with
  | ingest chosen =>
    obtain ⟨pipeline, ingested, rfl⟩ := Option.map_eq_some_iff.mp stepped
    obtain ⟨effect, sound⟩ := step_effect agreeing.sound ingested
    exact ⟨sound, StepEffect.conserved exactly effect agreeing.sound.wellformed agreeing.conserved,
      exact_of_ingest agreeing.exact (ingest_metricsOutbox agreeing.sound ingested)⟩
  | relay chosen =>
    have ticks : (∀ moment increments, chosen ≠ .enqueue moment increments) ∧
        (MetricsRelay.step config platform.relay chosen).map platform.relayed = some next := by
      cases chosen with
      | enqueue moment increments => cases stepped
      | expireGuard id => cases stepped
      | poll worker moment => exact ⟨nofun, stepped⟩
      | apply worker call random => exact ⟨nofun, stepped⟩
      | commit worker moment => exact ⟨nofun, stepped⟩
      | rollback worker => exact ⟨nofun, stepped⟩
    obtain ⟨old, mapped⟩ := ticks
    obtain ⟨state, relayed, rfl⟩ := Option.map_eq_some_iff.mp mapped
    exact agreeing.relayed (MetricsRelay.step_exact agreeing.exact relayed)
      (MetricsRelay.step_contents agreeing.exact old relayed)

theorem initial_agreeing : Agreeing runtime initial :=
  ⟨initial_sound, initial_conserved, MetricsRelay.initial_exact⟩

/-! ## The two sums -/

/-- Rows that have all been applied amount to the sum of their increments. -/
theorem appliedKg_of_applied {rows : List (Row MetricsIncrement)} {ran : List Nat} (siteId : Nat) (month : YearMonth)
    (applied : ∀ row ∈ rows, row.id ∈ ran) :
    appliedKg (rows.map Row.content) ran siteId month = deltaKg siteId month (rows.map Row.data) := by
  induction rows with
  | nil => rfl
  | cons row rest ih =>
    have others := ih fun other member => applied other (List.mem_cons_of_mem _ member)
    have counted := applied row List.mem_cons_self
    simp only [appliedKg, deltaKg, List.map_cons, List.sum_cons, Row.content, counted, true_and] at others ⊢
    rw [others, List.filter_cons]
    by_cases ours : row.data.siteId = siteId ∧ row.data.month = month <;> simp [ours]

/-- Once every row is delivered, a field of the hash holds the readings of its
site and month. -/
theorem total_of_drained (agreeing : Agreeing runtime platform) (drained : Drained platform)
    (member : site ∈ platform.pipeline.db.sites.rows) (month : YearMonth) :
    MetricsRelay.total platform.redis site.id month =
      totalKg (ofMonth runtime site.timezone month (siteReadings platform.pipeline.db site.id)) := by
  have ran : ∀ row ∈ platform.pipeline.db.metricsOutbox.rows, row.id ∈ platform.ran :=
    fun row stored => agreeing.exact.settled.rows row stored (drained row stored)
  rw [← agreeing.conserved.months site member month, increments, ← appliedKg_of_applied site.id month ran]
  exact agreeing.exact.totals site.id month

/-- The sum of a read is the current month and everything after it. -/
theorem currentMonthTotal_split (agreeing : Agreeing runtime platform)
    (fixed : (runtime.timezones site.timezone).Fixed seconds) (now : Int) :
    (currentMonthTotal platform.pipeline.db site.id (currentMonthStart runtime site.timezone now)).millionths =
      totalKg (ofMonth runtime site.timezone (runtime.siteLocalYearMonth now site.timezone)
          (siteReadings platform.pipeline.db site.id)) +
        totalKg ((siteReadings platform.pipeline.db site.id).filter fun row =>
          runtime.siteLocalYearMonth now site.timezone < monthOf runtime site.timezone row) := by
  let current := runtime.siteLocalYearMonth now site.timezone
  let readings := siteReadings platform.pipeline.db site.id
  let unclosed := readings.filter fun row => ¬ monthOf runtime site.timezone row < current
  have summed : (readings.filter fun row => currentMonthStart runtime site.timezone now ≤ row.recordedAt) = unclosed :=
    List.filter_congr fun row _ => by rw [decide_eq_decide]; exact started_iff fixed row
  have now_part : (unclosed.filter fun row => monthOf runtime site.timezone row = current) =
      ofMonth runtime site.timezone current readings := by
    rw [List.filter_filter, ofMonth]
    apply List.filter_congr
    intro row _
    rw [← Bool.decide_and, decide_eq_decide]
    exact ⟨And.left, fun same => ⟨same, same ▸ lt_irrefl _⟩⟩
  have later_part : (unclosed.filter fun row => ¬ monthOf runtime site.timezone row = current) =
      readings.filter fun row => current < monthOf runtime site.timezone row := by
    rw [List.filter_filter]
    apply List.filter_congr
    intro row _
    rw [← Bool.decide_and, decide_eq_decide, not_lt]
    constructor
    · rintro ⟨different, notBefore⟩
      exact lt_of_le_of_ne notBefore (Ne.symm different)
    · intro later
      exact ⟨later.ne', later.le⟩
  rw [currentMonthTotal_eq agreeing.sound.wellformed, summed,
    ← totalKg_filter_add (fun row => monthOf runtime site.timezone row = current) unclosed, now_part, later_part]

theorem ahead_eq_zero_iff {db : Database} :
    totalKg ((siteReadings db site.id).filter fun row =>
        runtime.siteLocalYearMonth now site.timezone < monthOf runtime site.timezone row) = 0 ↔
      NothingAhead runtime db site now := by
  rw [totalKg_eq_zero_iff]
  constructor
  · intro nothing row member positive
    by_contra ahead
    have zero := nothing row (List.mem_filter.mpr ⟨member, decide_eq_true (not_le.mp ahead)⟩)
    omega
  · intro within row member
    obtain ⟨stored, ahead⟩ := List.mem_filter.mp member
    by_contra positive
    exact absurd (within row stored (Nat.pos_of_ne_zero positive)) (not_le.mpr (of_decide_eq_true ahead))

/-- **When the cache agrees with the live sum**: whenever every increment is
delivered, exactly if no positive reading of the site is of a month after the
one of the read. -/
theorem cache_agrees_iff (exactly : runtime.arithmetic.Exact)
    (ran : run (step runtime config) initial actions = some platform) (drained : Drained platform)
    (member : site ∈ platform.pipeline.db.sites.rows) (fixed : (runtime.timezones site.timezone).Fixed seconds)
    (now : Int) : CacheAgrees runtime platform site now ↔ NothingAhead runtime platform.pipeline.db site now := by
  have agreeing : Agreeing runtime platform :=
    run_invariant (Agreeing runtime)
      (fun agreeing stepped => step_agreeing exactly agreeing stepped) initial_agreeing ran
  have field := total_of_drained agreeing drained member (runtime.siteLocalYearMonth now site.timezone)
  have live := currentMonthTotal_split agreeing fixed now
  rw [MetricsRelay.total] at field
  rw [← ahead_eq_zero_iff, CacheAgrees, getSiteMetrics, selectSite_eq member, Option.map_some]
  simp only [Option.some.injEq, exists_eq_left', respond, millionths_formatNumeric (millionths_text _), field]
  omega

/-- The clock readings of the handled calls, in order. -/
def handlingTimes (actions : List Action) : List Int :=
  clocks <| actions.filterMap fun
    | .ingest action => some action
    | .relay _ => none

private def readingOf (recordedAtMs : Int) : KafkaIngestMessage :=
  ⟨⟨"3f2a6c1e-8d4b-4c7a-9e51-0b6d2f7a8c90", "north-plant", [⟨"stack-1", recordedAtMs, "1.500000"⟩]⟩, 1704067201000⟩

private def batchOfTen : Config := ⟨10, 10, 2000000, 300000000⟩

/-- One reading, handled early in January and delivered. -/
private def drainedAfter (recordedAtMs : Int) : List Action :=
  [.ingest (.createSite "north-plant" "North plant" "Africa/Abidjan" Numeric.zero), .ingest .start,
    .ingest (.handle 0 (.healthy 1704067202000 1704067202000) (readingOf recordedAtMs)),
    .relay (.poll 0 1704067203000000), .relay (.apply 0 .replied 0), .relay (.commit 0 1704067204000000)]

private def plant : Site := ⟨1, "north-plant", "North plant", "Africa/Abidjan", Numeric.zero⟩

private theorem january_ran : (run (step .exactUtc batchOfTen) initial (drainedAfter 1704067200000)).isSome := by
  decide +kernel

private theorem february_ran : (run (step .exactUtc batchOfTen) initial (drainedAfter 1706745600000)).isSome := by
  decide +kernel

theorem punctual_reading_is_in_both :
    CacheAgrees .exactUtc ((run (step .exactUtc batchOfTen) initial (drainedAfter 1704067200000)).get january_ran)
      plant 1704067205000000 :=
  (cache_agrees_iff NumberArithmetic.exact_exact (Option.some_get january_ran).symm (by decide +kernel)
    (by decide +kernel) Timezone.utc_fixed 1704067205000000).mpr (by decide +kernel)

/-- A reading of February, handled and read in January, is in the sum and in
February's field. -/
theorem future_reading_is_in_the_sum_alone :
    ¬∀ (runtime : Runtime) (config : Config) (actions : List Action) (platform : Platform) (site : Site)
        (seconds now : Int),
      runtime.arithmetic.Exact → run (step runtime config) initial actions = some platform → Drained platform →
        site ∈ platform.pipeline.db.sites.rows → (runtime.timezones site.timezone).Fixed seconds →
          (∀ clock ∈ handlingTimes actions, clock ≤ now) → CacheAgrees runtime platform site now := by
  intro always
  obtain ⟨metrics, answered, agrees⟩ := always .exactUtc batchOfTen (drainedAfter 1706745600000) _ plant 0
    1704067205000000 NumberArithmetic.exact_exact (Option.some_get february_ran).symm (by decide +kernel)
    (by decide +kernel) Timezone.utc_fixed (by decide +kernel)
  revert metrics
  decide +kernel

end EmissionsPlatform.CacheAgreement
