import EmissionsPlatform.Foundation.RangePartitions
import EmissionsPlatform.IngestPipeline

/-! The `measurements` table as the migrations create it: partitioned by
`recorded_at`, one partition for each of four months and a default one. The
other modules have it as one table under `measurements_batch_point_time_unique`;
`measurements_are_one_table` says that they may, because the index includes
`recorded_at`, and that neither new monthly partitions nor reclaiming rows from
the default one changes that. -/
namespace EmissionsPlatform.MeasurementPartitions
open Contracts UniqueIndex EmissionPoints IngestHandler IngestPipeline RangePartitions
set_option autoImplicit false

/-- The first instant of a month in UTC. -/
def monthBegins (year : Int) (month : Nat) : Int :=
  (Calendar.yearStart year + Calendar.monthOffset (Calendar.leapDays year) month) * microsPerDay

/-- `FOR VALUES FROM ('<month>') TO ('<month after>')`. -/
def monthPartition (year : Int) (month : Nat) : Partition Measurement :=
  ⟨monthBegins year month, monthBegins year (month + 1), []⟩

/-- The partitions of `0001_partition_measurements.sql`. -/
def migratedPartitions : Partitioned Measurement :=
  ⟨[monthPartition 2026 5, monthPartition 2026 6, monthPartition 2026 7, monthPartition 2026 8], []⟩

/-- The inserts of the write side, and the work on the partitions. -/
abbrev step := RangePartitions.step Measurement.recordedAt Measurement.key

/-- The unique index includes the partition key. -/
theorem key_includes : Includes Measurement.recordedAt Measurement.key := by
  intro row other same
  exact congrArg (fun key => key.2.2) same

theorem migrated_placed : Placed Measurement.recordedAt migratedPartitions := by
  refine ⟨?_, ?_, List.forall_mem_nil _⟩
  · simp only [migratedPartitions, List.pairwise_cons]
    decide
  · decide

/-- The platform and its partitioned table. A step of the write side inserts
into the partitions what explains its effect on the one table; partitions are
created and filled at any time. -/
inductive Lockstep (runtime : Runtime) : Pipeline → Partitioned Measurement → Prop
  | migrated : Lockstep runtime initial migratedPartitions
  | write {pipeline next : Pipeline} {table : Partitioned Measurement} (action : IngestPipeline.Action)
    (rows : List Measurement) (before : Lockstep runtime pipeline table)
    (stepped : IngestPipeline.step runtime pipeline action = some next)
    (wrote : next.db.measurements.rows = insertIgnoring Measurement.key pipeline.db.measurements.rows rows) :
    Lockstep runtime next (insert Measurement.recordedAt Measurement.key table rows)
  | createPartition {pipeline : Pipeline} {table after : Partitioned Measurement} (lo hi : Int)
    (before : Lockstep runtime pipeline table) (created : step table (.createPartition lo hi) = some after) :
    Lockstep runtime pipeline after
  | reclaim {pipeline : Pipeline} {table after : Partitioned Measurement} (lo hi : Int)
    (before : Lockstep runtime pipeline table) (reclaimed : step table (.reclaim lo hi) = some after) :
    Lockstep runtime pipeline after

variable {runtime : Runtime} {pipeline next : Pipeline} {table : Partitioned Measurement}

/-- Whatever a step does to the readings is an insert that skips conflicts. -/
theorem step_inserts {action : IngestPipeline.Action} (sound : Sound pipeline)
    (stepped : IngestPipeline.step runtime pipeline action = some next) :
    ∃ rows, next.db.measurements.rows = insertIgnoring Measurement.key pipeline.db.measurements.rows rows := by
  have nothing : ∀ {db : Database}, db.measurements = pipeline.db.measurements →
      ∃ rows, db.measurements.rows = insertIgnoring Measurement.key pipeline.db.measurements.rows rows :=
    fun same => ⟨[], by rw [same, insertIgnoring, admitted, List.append_nil]⟩
  refine (step_effect sound stepped).1.preserves (fun _ _ _ _ => nothing rfl)
    (fun unrecorded => nothing unrecorded.measurements) ?_
  intro call message middle emissionPointMap rows increments site unrecorded _ _ _ _
  exact ⟨rows, by rw [← unrecorded.measurements]; rfl⟩

theorem lockstep_refines (lockstep : Lockstep runtime pipeline table) :
    table.contents.Perm pipeline.db.measurements.rows ∧ Placed Measurement.recordedAt table := by
  induction lockstep with
  | migrated => exact ⟨List.Perm.nil, migrated_placed⟩
  | write action rows _ stepped wrote ih =>
    rw [wrote]
    exact insert_refines key_includes ih.2 ih.1 rows
  | createPartition lo hi _ created ih =>
    obtain ⟨still, contents⟩ := createPartition_spec ih.2 created
    exact ⟨contents ▸ ih.1, still⟩
  | reclaim lo hi _ reclaimed ih =>
    obtain ⟨still, contents⟩ := reclaim_spec ih.2 reclaimed
    exact ⟨contents.trans ih.1, still⟩

/-- **The partitions are one table under one unique index.** Beside every run of
the write side, and whatever partitions are created or filled from the default
one meanwhile: the partitions together hold the rows of the one table, each row
in the partition whose range has its instant, and no key twice. -/
theorem measurements_are_one_table (runtime : Runtime) :
    (∀ pipeline table, Lockstep runtime pipeline table →
      table.contents.Perm pipeline.db.measurements.rows ∧ Placed Measurement.recordedAt table ∧
        (table.contents.map Measurement.key).Nodup) ∧
    ∀ actions pipeline, Transition.run (IngestPipeline.step runtime) initial actions = some pipeline →
      ∃ table, Lockstep runtime pipeline table := by
  constructor
  · intro pipeline table lockstep
    obtain ⟨same, placed⟩ := lockstep_refines lockstep
    exact ⟨same, placed, (same.map _).nodup_iff.mpr pipeline.db.measurements.nodup⟩
  · intro actions pipeline ran
    refine (Transition.run_invariant (fun pipeline => Sound pipeline ∧ ∃ table, Lockstep runtime pipeline table) ?_
      ⟨initial_sound, migratedPartitions, .migrated⟩ ran).2
    rintro before after action ⟨sound, table, lockstep⟩ stepped
    obtain ⟨rows, wrote⟩ := step_inserts sound stepped
    exact ⟨(step_effect sound stepped).2, _, .write action rows lockstep stepped wrote⟩

/-- Readings of July, September and October 2026. -/
private def autumnBatch : KafkaIngestMessage :=
  ⟨⟨"3f2a6c1e-8d4b-4c7a-9e51-0b6d2f7a8c90", "north-plant",
    [⟨"stack-1", 1784073600000, "1.500000"⟩, ⟨"stack-1", 1789430400000, "2.250000"⟩,
      ⟨"flare-7", 1792022400000, "0.250000"⟩]⟩, 1792022401000⟩

/-- A site, and a consumer that has started. -/
private def awaiting : Pipeline :=
  ⟨createSite "north-plant" "North plant" "Africa/Abidjan" Numeric.zero .migrated, [.started]⟩

private def consumed : Database × Process × Except Failure IngestResult :=
  handle .exactUtc (.healthy 1792022402000 1792022402000) autumnBatch awaiting.db .started

private def measured : Pipeline := ⟨consumed.1, [consumed.2.1]⟩

/-- Where the partitions' rows were, and where they are once those of September
have a partition of their own. -/
private def autumnTable : Partitioned Measurement :=
  insert Measurement.recordedAt Measurement.key migratedPartitions measured.db.measurements.rows

private def reclaimedTable : Option (Partitioned Measurement) :=
  step autumnTable (.reclaim (monthBegins 2026 9) (monthBegins 2026 10))

private theorem measured_lockstep : Lockstep .exactUtc measured autumnTable :=
  .write (.handle 0 (.healthy 1792022402000 1792022402000) autumnBatch) measured.db.measurements.rows
    (.write .start []
      (.write (.createSite "north-plant" "North plant" "Africa/Abidjan" Numeric.zero) [] .migrated rfl rfl) rfl rfl)
    rfl (by decide +kernel)

/-- Of three readings one lies in its month and two in the default partition,
until one of those is reclaimed. -/
theorem september_is_reclaimed :
    ∃ table, Lockstep .exactUtc measured table ∧
      autumnTable.parts.map (fun part => part.rows.length) = [0, 0, 1, 0] ∧ autumnTable.catchAll.length = 2 ∧
      table.parts.map (fun part => part.rows.length) = [0, 0, 1, 0, 1] ∧ table.catchAll.length = 1 ∧
      measured.db.measurements.rows.length = 3 ∧ table.contents.Perm measured.db.measurements.rows := by
  obtain ⟨table, reclaimed, months, rest⟩ : ∃ table ∈ reclaimedTable,
      table.parts.map (fun part => part.rows.length) = [0, 0, 1, 0, 1] ∧ table.catchAll.length = 1 := by
    decide +kernel
  have lockstep : Lockstep .exactUtc measured table :=
    .reclaim (monthBegins 2026 9) (monthBegins 2026 10) measured_lockstep reclaimed
  exact ⟨table, lockstep, by decide +kernel, by decide +kernel, months, rest, by decide +kernel,
    ((measurements_are_one_table .exactUtc).1 _ _ lockstep).1⟩

end EmissionsPlatform.MeasurementPartitions
