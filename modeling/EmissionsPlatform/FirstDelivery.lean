import EmissionsPlatform.IngestPipeline
import EmissionsPlatform.Foundation.DoubleSums

/-! The first delivery of a batch. The unique index that catches retries also
compares the readings of one batch with each other, and the reported sum is
made of doubles. So a first delivery stores every reading exactly when no two
of them name the same point and instant and the doubles add up to the decimals
(`every_reading_stored_iff`); for batches as small as real ones the sum is no
condition (`every_reading_stored_iff_of_small`). -/
namespace EmissionsPlatform.FirstDelivery
open Contracts Validation UniqueIndex LeaseQueue EmissionPoints IngestHandler Fallible
open IngestPipeline (Wellformed)
set_option autoImplicit false

/-- The submitted values, in millionths. -/
def submittedValues (message : KafkaIngestMessage) : List Nat :=
  message.measurements.map fun m => (DecimalText.millionths m.valueKgCo2e).getD 0

/-- A row holds a submitted reading, at an emission point of the site. -/
structure Represents (after : Database) (site : Site) (message : KafkaIngestMessage) (m : MeasurementInput)
    (row : Measurement) : Prop where
  ofSite : row.siteId = site.id
  point : ⟨row.emissionPointId, site.id, m.emissionPoint⟩ ∈ after.siteEmissionPoints.rows
  batch : Uuid.ofText message.batchId = some row.batchId
  recordedAt : row.recordedAt = instantOfMs m.recordedAtMs
  value : Numeric.ofText m.valueKgCo2e = some row.value

/-- Every element of the measurements array has its own inserted row, and the
numbers that are reported say so. -/
structure StoresEveryReading (db after : Database) (site : Site) (message : KafkaIngestMessage)
    (result : IngestResult) : Prop where
  rows : ∃ inserted, after.measurements.rows = db.measurements.rows ++ inserted ∧
    List.Forall₂ (Represents after site message) message.measurements inserted
  inserted : result.inserted = message.measurements.length
  duplicates : result.duplicates = 0
  sumKg : result.sumKg = DecimalText.numericText (submittedValues message).sum
  announced : ∃ event, after.outbox.rows = db.outbox.rows ++ [event] ∧
    event.data.payload.measurementsInserted = (message.measurements.length : Int) ∧
      event.data.payload.sumKgCo2e = DecimalText.numericText (submittedValues message).sum

/-- No two readings of the batch name the same point and instant. -/
def DistinctReadings (message : KafkaIngestMessage) : Prop :=
  (message.measurements.map fun m => (m.emissionPoint, m.recordedAtMs)).Nodup

instance (message : KafkaIngestMessage) : Decidable (DistinctReadings message) :=
  inferInstanceAs (Decidable (List.Nodup _))

/-- The database holds no measurement of the batch. -/
def NeverStored (db : Database) (message : KafkaIngestMessage) : Prop :=
  ∀ row ∈ db.measurements.rows, Uuid.ofText message.batchId ≠ some row.batchId

variable {runtime : Runtime} {call : Call} {message : KafkaIngestMessage} {db after middle : Database}
variable {process process' : Process} {site : Site} {result : IngestResult} {rows : List Measurement}
variable {emissionPointMap : InsertionMap String Nat} {increments : List MetricsIncrement}

/-! ## The proposed rows -/

/-- Two proposed rows conflict exactly when their readings name the same point
and instant. -/
theorem key_eq_iff {siteId : Nat} (ids : (db.siteEmissionPoints.rows.map EmissionPoint.id).Nodup)
    (sound : ResultSound db.siteEmissionPoints siteId emissionPointMap) {m m' : MeasurementInput}
    {row row' : Measurement} (stored : StoredAs runtime siteId emissionPointMap message.batchId m row)
    (stored' : StoredAs runtime siteId emissionPointMap message.batchId m' row') :
    (m.emissionPoint, m.recordedAtMs) = (m'.emissionPoint, m'.recordedAtMs) ↔ row.key = row'.key := by
  have batch : row.batchId = row'.batchId := Option.some.inj (stored.batch.symm.trans stored'.batch)
  have instants : row.recordedAt = row'.recordedAt ↔ m.recordedAtMs = m'.recordedAtMs := by
    rw [stored.recordedAt, stored'.recordedAt, instantOfMs, instantOfMs]
    omega
  have points : row.emissionPointId = row'.emissionPointId ↔ m.emissionPoint = m'.emissionPoint := by
    constructor
    · intro same
      exact congrArg EmissionPoint.code
        (List.inj_on_of_nodup_map ids (sound _ _ stored.point) (sound _ _ stored'.point) same)
    · intro same
      exact Option.some.inj (stored.point.symm.trans (same ▸ stored'.point))
  simp only [Measurement.key, Prod.mk.injEq, batch, true_and, instants, points]

/-- Under a batch nothing is stored of, all rows are created exactly when the
readings are distinct. -/
theorem created_eq_self_iff {siteId : Nat} {timezone : String}
    (ids : (db.siteEmissionPoints.rows.map EmissionPoint.id).Nodup)
    (sound : ResultSound db.siteEmissionPoints siteId emissionPointMap) (first : NeverStored db message)
    (commits : Commits runtime message siteId timezone emissionPointMap rows increments db) :
    db.measurements.created rows = rows ↔ DistinctReadings message := by
  have fresh : ∀ row ∈ rows, row.key ∉ db.measurements.rows.map Measurement.key := by
    intro row proposed held
    obtain ⟨old, stored, same⟩ := List.mem_map.mp held
    obtain ⟨m, -, storedAs⟩ := exists_left commits.stored proposed
    exact first old stored (storedAs.batch.trans (congrArg some (congrArg Prod.fst same).symm))
  rw [Table.created, admitted_eq_self_iff, and_iff_left fresh]
  exact (nodup_map_iff commits.stored fun _ _ _ _ stored stored' => key_eq_iff ids sound stored stored').symm

theorem values_eq {siteId : Nat} {batchId : String} {measurements : List MeasurementInput}
    (stored : List.Forall₂ (StoredAs runtime siteId emissionPointMap batchId) measurements rows) :
    rows.map (fun row => row.value.millionths) =
      measurements.map fun m => (DecimalText.millionths m.valueKgCo2e).getD 0 := by
  induction stored with
  | nil => rfl
  | cons first rest ih =>
    rw [List.map_cons, List.map_cons, ih, Numeric.ofText_eq_some_iff.mp first.value, Option.getD_some]

/-- The reported sum of stored rows is the submitted one exactly when the
numbers add up. -/
theorem sumKg_eq_iff {values : List Nat} (same : rows.map (fun row => row.value.millionths) = values) :
    sumKg runtime.arithmetic rows = DecimalText.numericText values.sum ↔ runtime.arithmetic.AddsExactly values := by
  have read : sumKg runtime.arithmetic rows = DecimalText.numericText (runtime.arithmetic.toMillionths
      ((values.map runtime.arithmetic.ofMillionths).foldl runtime.arithmetic.add runtime.arithmetic.zero)) := by
    rw [sumKg, NumberArithmetic.toFixed, ← same, List.map_map, List.foldl_map]
    simp only [valueOf, Numeric.text, NumberArithmetic.parseFloat_numericText, Function.comp_apply]
  rw [read, NumberArithmetic.AddsExactly]
  constructor
  · intro texts
    have values := congrArg DecimalText.millionths texts
    rw [DecimalText.millionths_numericText, DecimalText.millionths_numericText] at values
    exact Option.some.inj values
  · exact congrArg DecimalText.numericText

/-! ## The call -/

/-- **The first delivery of a batch stores every reading if and only if its
readings are distinct and their values add up.** -/
theorem every_reading_stored_iff (wellformed : Wellformed db) (remembers : Remembers db process)
    (member : site ∈ db.sites.rows) (slug : site.slug = message.siteSlug) (first : NeverStored db message)
    (handled : handle runtime call message db process = (after, process', .ok result)) :
    StoresEveryReading db after site message result ↔
      DistinctReadings message ∧ runtime.arithmetic.AddsExactly (submittedValues message) := by
  obtain ⟨effect, -⟩ := handle_cases remembers handled
  cases effect with
  | unknown _ absent _ => exact absurd slug (absent site member)
  | persisted known knownMember knownSlug middle unrecorded emissionPointMap sound rows increments commits =>
    cases db.sites.eq_of_key knownMember member (knownSlug.trans slug.symm)
    have ids := (unrecorded.sequenced wellformed.sequenced).ids
    have all := created_eq_self_iff ids sound (fun row stored => first row (unrecorded.measurements ▸ stored)) commits
    have values : rows.map (fun row => row.value.millionths) = submittedValues message := values_eq commits.stored
    constructor
    · intro stores
      have created : middle.measurements.created rows = rows :=
        admitted_sublist.eq_of_length (stores.inserted.trans commits.stored.length_eq)
      have reported := stores.sumKg
      simp only [persistedResult, created] at reported
      exact ⟨all.mp created, (sumKg_eq_iff values).mp reported⟩
    · rintro ⟨distinct, adds⟩
      have created := all.mpr distinct
      have sum := (sumKg_eq_iff values).mpr adds
      have length := commits.stored.length_eq
      refine ⟨⟨rows, ?_, commits.stored.imp fun m row stored => ?_⟩, ?_, ?_, ?_, ?_⟩
      · rw [← unrecorded.measurements]
        exact congrArg (middle.measurements.rows ++ ·) created
      · exact ⟨stored.site, sound _ _ stored.point, stored.batch, stored.recordedAt, stored.value⟩
      · rw [persistedResult, created, length]
      · rw [persistedResult, created, length, Nat.sub_self]
      · rw [persistedResult, created, sum]
      · rw [← unrecorded.outbox]
        refine ⟨_, rfl, ?_, ?_⟩
        · simp only [outboxEvent, created, length]
        · simp only [outboxEvent, created, sum]

private def coinciding (recordedAtMs : Int) : KafkaIngestMessage :=
  ⟨⟨"3f2a6c1e-8d4b-4c7a-9e51-0b6d2f7a8c90", "north-plant",
    [⟨"stack-1", 1704067200000, "1.500000"⟩, ⟨"stack-1", recordedAtMs, "2.500000"⟩]⟩, 1704067201000⟩

private def emptyPlant : Database :=
  IngestPipeline.createSite "north-plant" "North plant" "Africa/Abidjan" Numeric.zero .migrated

private theorem emptyPlant_wellformed : Wellformed emptyPlant :=
  IngestPipeline.initial_sound.wellformed.createSite "north-plant" "North plant" "Africa/Abidjan" Numeric.zero

private def delivered (recordedAtMs : Int) : Database × Process × Except Failure IngestResult :=
  handle .exactUtc (.healthy 1704067202000 1704067202000) (coinciding recordedAtMs) emptyPlant .started

/-- Readings a minute apart are both stored. -/
theorem separate_readings_are_stored :
    StoresEveryReading emptyPlant (delivered 1704067260000).1
      ⟨1, "north-plant", "North plant", "Africa/Abidjan", Numeric.zero⟩
      (coinciding 1704067260000) ⟨true, 2, 0, "4.000000", some 1⟩ :=
  (every_reading_stored_iff emptyPlant_wellformed (remembers_started _) (by decide) rfl nofun
    (Prod.ext rfl (Prod.ext rfl (by decide +kernel)))).mpr
    ⟨by decide, NumberArithmetic.exact_exact.addsExactly _⟩

/-- Of two readings of one minute, the second is lost. -/
theorem coinciding_reading_is_lost :
    ¬ ∀ (runtime : Runtime) (call : Call) (document : Json) (message : KafkaIngestMessage) (db after : Database)
      (process process' : Process) (site : Site) (result : IngestResult),
      kafkaMessageSchema (some document) = .ok message → Wellformed db → Remembers db process →
        site ∈ db.sites.rows → site.slug = message.siteSlug → NeverStored db message →
          handle runtime call message db process = (after, process', .ok result) →
            StoresEveryReading db after site message result := by
  intro always
  have stores := always .exactUtc (.healthy 1704067202000 1704067202000)
    (.object [("batch_id", .string "3f2a6c1e-8d4b-4c7a-9e51-0b6d2f7a8c90"), ("site_slug", .string "north-plant"),
      ("measurements", .array
        [.object [("emission_point", .string "stack-1"), ("recorded_at_ms", .number (.integer 1704067200000)),
          ("value_kg_co2e", .string "1.500000")],
        .object [("emission_point", .string "stack-1"), ("recorded_at_ms", .number (.integer 1704067200000)),
          ("value_kg_co2e", .string "2.500000")]]),
      ("received_at_ms", .number (.integer 1704067201000))])
    (coinciding 1704067200000) emptyPlant (delivered 1704067200000).1 .started (delivered 1704067200000).2.1
    ⟨1, "north-plant", "North plant", "Africa/Abidjan", Numeric.zero⟩ ⟨true, 1, 1, "1.500000", some 1⟩
    (by decide +kernel)
    emptyPlant_wellformed (remembers_started _) (by decide) rfl nofun (Prod.ext rfl (Prod.ext rfl (by decide +kernel)))
  exact absurd stores.inserted (by decide)

/-- **As doubles, the values of a batch of up to 22 million kg add up**: such a
batch is stored whole exactly when its readings are distinct. -/
theorem every_reading_stored_iff_of_small {document : Json} (doubles : runtime.arithmetic = .binary64)
    (accepted : kafkaMessageSchema (some document) = .ok message)
    (small : (submittedValues message).sum ≤ 22000000000000) (wellformed : Wellformed db)
    (remembers : Remembers db process) (member : site ∈ db.sites.rows) (slug : site.slug = message.siteSlug)
    (first : NeverStored db message)
    (handled : handle runtime call message db process = (after, process', .ok result)) :
    StoresEveryReading db after site message result ↔ DistinctReadings message := by
  have few : (submittedValues message).length ≤ 100 := by
    rw [submittedValues, List.length_map]
    exact kafkaMessage_length accepted
  have adds : runtime.arithmetic.AddsExactly (submittedValues message) := by
    rw [doubles]
    apply NumberArithmetic.addsExactly_of_small
    · calc 2 * (2 * (submittedValues message).length + 1) * (submittedValues message).sum
          ≤ 2 * (2 * 100 + 1) * 22000000000000 := by gcongr
        _ < 2 ^ 53 := by decide
    · omega
  rw [every_reading_stored_iff wellformed remembers member slug first handled, and_iff_left adds]

end EmissionsPlatform.FirstDelivery
