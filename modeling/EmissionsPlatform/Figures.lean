import EmissionsPlatform.CacheAgreement
import EmissionsPlatform.EndToEnd

/-! The figures of a site at the end of the whole way. A reading is counted where
`GET /sites/:slug/metrics` adds up the month to date, in the field of the month
that the metrics relay keeps in Redis, and in the alerts of its batch, and each
of the three is written by other code.

`figures_are_the_ledger` says that all three count the same: what the messages
of the topic submitted, in the order of their accounts, each key once. -/
namespace EmissionsPlatform.Figures
open Contracts Conservation EndToEnd IngestHandler KafkaConsumer MetricsService Redelivery RelayWrites
open Transition UniqueIndex
open CacheAgreement (Agreeing Drained total_of_drained)
open MessageAccounts (Processed step_database)
open MetricsRelay (hashKey yyyymm)
open ReportedTotal (currentMonthTotal_eq selectSite_eq)
set_option autoImplicit false

/-- What the recorded messages submitted for a site, each key by the first. -/
def ledgerOf (world : World) (system : System) (siteId : Nat) : List Reading :=
  (insertAll Reading.key [] (system.back.accounts.map (MessageAccounts.Entry.submits world.parse system.back))).filter
    fun reading => reading.siteId = siteId

/-- What readings add up to, in millionths. -/
def kgOf (stored : List Reading) : Nat := (stored.map fun reading => reading.value.millionths).sum

/-- What the metrics relay works between. -/
def cache (system : System) : CacheAgreement.Platform := ⟨system.back.pipeline, system.redis, system.ran⟩

/-- The three figures of a site. -/
structure Counted (world : World) (system : System) (site : Site) : Prop where
  /-- What the endpoint prints for the month to date. -/
  monthToDate : ∀ now, ∃ metrics, getSiteMetrics world.runtime system.back.pipeline.db site.slug now = some metrics ∧
    DecimalText.millionths metrics.currentMonthToDateKgCo2e = some (kgOf ((ledgerOf world system site.id).filter
      fun reading => currentMonthStart world.runtime site.timezone now ≤ reading.recordedAt))
  /-- What Redis holds for a month, once every increment is delivered. -/
  months : Drained (cache system) → ∀ month, (system.redis.field? (hashKey site.id) (yyyymm month)).getD 0 =
    kgOf ((ledgerOf world system site.id).filter
      fun reading => world.runtime.siteLocalYearMonth reading.recordedAt site.timezone = month)
  /-- What the events of a batch announce. -/
  batches : ∀ batch, insertedKg (batchPayloads system.back.pipeline.db site.slug batch) =
    some (kgOf ((ledgerOf world system site.id).filter fun reading => reading.batchId = batch))

variable {world : World} {system next : System} {action : Action} {actions : List Action}
variable {runtime : Runtime} {parse : List UInt8 → Option Json} {message : KafkaMessage} {db after : Database}
variable {outcome : Except Failure Unit} {site : Site}

/-! ## What a step keeps -/

/-- A call of `processMessage`. -/
theorem conserved_of_processed (exactly : runtime.arithmetic.Exact) (wellformed : IngestPipeline.Wellformed db)
    (conserved : Conserved runtime db) (processed : Processed runtime parse message db after outcome) :
    Conserved runtime after := by
  cases processed with
  | reported read unrecorded => exact conserved.unrecorded unrecorded
  | handled call kafkaMsg result read effect =>
    exact StepEffect.conserved exactly (.handled call kafkaMsg after result effect) wellformed conserved

theorem step_conserved (exactly : world.runtime.arithmetic.Exact) (founded : Founded world system)
    (conserved : Conserved world.runtime system.back.pipeline.db) (stepped : step world system action = some next) :
    Conserved world.runtime next.back.pipeline.db := by
  have wellformed := founded.accountable.pipeline.wellformed
  rcases back_cases stepped with ⟨same | ⟨own, moved, -⟩, -⟩ | ⟨turn, rfl⟩
  · rw [same]
    exact conserved
  · rcases step_database founded.accountable moved with same | ⟨slug, name, timezone, emissionLimit, added⟩ |
      ⟨_, _, _, _, -, processed⟩
    · rw [same]
      exact conserved
    · rw [added]
      exact conserved.createSite wellformed slug name timezone emissionLimit
    · exact conserved_of_processed exactly wellformed conserved processed
  · obtain ⟨relays, moved, rfl⟩ := step_relay stepped
    exact (step_draining founded.relays moved).2.conserved conserved

/-! ## Rows and readings -/

/-- The ledger of a site is its stored rows. -/
theorem kgOf_ledger (founded : Founded world system) (siteId : Nat) (counts : Reading → Bool) :
    kgOf ((ledgerOf world system siteId).filter counts) =
      totalKg ((siteReadings system.back.pipeline.db siteId).filter fun row =>
        counts (describe system.back.pipeline.db.siteEmissionPoints row)) := by
  rw [ledgerOf, ← founded.ledger, readings, List.filter_map, List.filter_map, kgOf, List.map_map]
  rfl

/-- The readings of a batch at a site. -/
theorem batchReadings_eq (member : site ∈ db.sites.rows) (batch : Uuid) :
    batchReadings db site.slug batch = (siteReadings db site.id).filter fun row => row.batchId = batch := by
  rw [batchReadings, siteReadings, List.filter_filter]
  refine List.filter_congr fun row _ => ?_
  rw [← Bool.decide_and, decide_eq_decide]
  constructor
  · rintro ⟨ofBatch, other, known, slug, ofSite⟩
    rw [db.sites.eq_of_key known member slug] at ofSite
    exact ⟨ofBatch, ofSite.symm⟩
  · rintro ⟨ofBatch, ofSite⟩
    exact ⟨ofBatch, site, member, rfl, ofSite.symm⟩

/-! ## Whole runs -/

theorem counted_of_conserved (founded : Founded world system)
    (conserved : Conserved world.runtime system.back.pipeline.db) (member : site ∈ system.back.pipeline.db.sites.rows) :
    Counted world system site := by
  have sound := founded.accountable.pipeline
  refine ⟨fun now => ?_, fun drained month => ?_, fun batch => ?_⟩
  · refine ⟨_, by rw [getSiteMetrics, selectSite_eq member, Option.map_some], ?_⟩
    rw [respond, millionths_formatNumeric (millionths_text _), currentMonthTotal_eq sound.wellformed,
      kgOf_ledger founded]
    rfl
  · have agreeing : Agreeing world.runtime (cache system) := ⟨sound, conserved, founded.relays.applied⟩
    rw [kgOf_ledger founded]
    exact total_of_drained agreeing drained member month
  · rw [conserved.sums, batchReadings_eq member, kgOf_ledger founded]
    rfl

/-- **Every figure is the ledger.** In every run of the whole platform, whatever is
sent, lost, sent again or tried again, the month to date that is printed for a
site, the months that Redis holds for it once the increments are delivered, and
the sums that are announced of its batches are what the messages of the topic
submitted for it, each reading once. -/
theorem figures_are_the_ledger {partitions : Nat} (exactly : world.runtime.arithmetic.Exact)
    (ran : run (step world) (initial partitions) actions = some system)
    (member : site ∈ system.back.pipeline.db.sites.rows) : Counted world system site := by
  have kept : Founded world system ∧ Conserved world.runtime system.back.pipeline.db :=
    run_invariant
      (fun system : System => Founded world system ∧ Conserved world.runtime system.back.pipeline.db)
      (fun holds stepped => ⟨step_founded holds.1 stepped, step_conserved exactly holds.1 holds.2 stepped⟩)
      ⟨initial_founded world partitions, initial_conserved⟩ ran
  exact counted_of_conserved kept.1 kept.2 member

/-- The increment of the batch that was read twice is applied. -/
private def applied : List Action :=
  retriedAndTakenOver ++ [.relay (.metrics (.poll 9 1704067204000000)), .relay (.metrics (.apply 9 .replied 0)),
    .relay (.metrics (.commit 9 1704067204000001))]

private theorem applied_ran :
    ∃ system ∈ run (step oneMessage) (initial 1) applied, ∃ site ∈ system.back.pipeline.db.sites.rows,
      Drained (cache system) ∧ kgOf (ledgerOf oneMessage system site.id) = 1500000 := by decide +kernel

theorem retried_batch_is_counted_once :
    ∃ system site, run (step oneMessage) (initial 1) applied = some system ∧
      site ∈ system.back.pipeline.db.sites.rows ∧ Drained (cache system) ∧
        kgOf (ledgerOf oneMessage system site.id) = 1500000 ∧ Counted oneMessage system site := by
  obtain ⟨system, ran, site, member, drained, kg⟩ := applied_ran
  exact ⟨system, site, ran, member, drained, kg, figures_are_the_ledger NumberArithmetic.exact_exact ran member⟩

end EmissionsPlatform.Figures
