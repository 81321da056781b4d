import EmissionsPlatform.OutboxRelay

/-! What a batch id identifies. The database drops a reading whose batch id,
emission point and instant are stored already; a reading that is new under an
old batch id is stored like any other. So a message leaves the tables alone
exactly when all its readings are stored under its batch, and a batch id is the
unit of idempotency only while its messages bring nothing new. -/
namespace EmissionsPlatform.BatchIdentity
open Contracts UniqueIndex LeaseQueue EmissionPoints IngestHandler IngestPipeline Transition
open OutboxRelay (Recorded created_eq_nil)
set_option autoImplicit false

/-- The tables a batch is to change once. -/
structure SameTables (before after : Database) : Prop where
  measurements : after.measurements = before.measurements
  siteMonthlyEmissions : after.siteMonthlyEmissions = before.siteMonthlyEmissions
  metricsOutbox : after.metricsOutbox = before.metricsOutbox

/-- The call commits and inserts a reading. -/
def Inserts (runtime : Runtime) (pipeline : Pipeline) (index : Nat) (call : Call) (message : KafkaIngestMessage) :
    Prop :=
  ∃ process ∈ pipeline.processes[index]?, ∃ result,
    (handle runtime call message pipeline.db process).2.2 = .ok result ∧ 0 < result.inserted

/-- Once a message of a batch has inserted a reading, no later message of the
batch changes the tables. -/
def BatchIsUnit (runtime : Runtime) (actions : List Action) : Prop :=
  ∀ before index call first between index' call' second rest start middle next finish,
    actions = before ++ .handle index call first :: (between ++ .handle index' call' second :: rest) →
      second.siteSlug = first.siteSlug → second.batchId = first.batchId →
        run (step runtime) initial before = some start →
          step runtime start (.handle index call first) = some middle → Inserts runtime start index call first →
            run (step runtime) middle between = some next →
              step runtime next (.handle index' call' second) = some finish → SameTables next.db finish.db

/-- A reading of the site is stored under the batch. -/
def Begun (db : Database) (siteSlug batchId : String) : Prop :=
  ∃ site ∈ db.sites.rows, site.slug = siteSlug ∧
    ∃ row ∈ db.measurements.rows, row.siteId = site.id ∧ Uuid.ofText batchId = some row.batchId

instance (db : Database) (siteSlug batchId : String) : Decidable (Begun db siteSlug batchId) :=
  inferInstanceAs (Decidable (∃ site ∈ _, _ ∧ ∃ row ∈ _, _ ∧ _))

/-- A message of a batch that has begun brings no new reading. -/
def BringsNothingNew (pipeline : Pipeline) : Action → Prop
  | .handle _ _ message => Begun pipeline.db message.siteSlug message.batchId → Recorded pipeline.db message
  | _ => True

instance (pipeline : Pipeline) : ∀ action, Decidable (BringsNothingNew pipeline action)
  | .handle _ _ _ => inferInstanceAs (Decidable (_ → _))
  | .createSite _ _ _ _ | .start => inferInstanceAs (Decidable True)

variable {runtime : Runtime} {call : Call} {message : KafkaIngestMessage} {db after middle : Database}
variable {outcome : Except Failure IngestResult} {result : IngestResult} {pipeline next : Pipeline}
variable {siteSlug batchId : String} {actions : List Action}

/-! ## One call -/

theorem sameTables_of_unrecorded (unrecorded : Unrecorded db after) : SameTables db after :=
  ⟨unrecorded.measurements, unrecorded.siteMonthlyEmissions, unrecorded.metricsOutbox⟩

/-- A transaction that inserts no reading flags no month and queues no increment. -/
theorem committed_of_nothing_created (message : KafkaIngestMessage) (siteId : Nat) (timezone : String)
    {rows : List Measurement} (none : db.measurements.created rows = []) :
    SameTables db (committed runtime call message siteId timezone rows [] db) := by
  have table : db.measurements.insertIgnoring rows = db.measurements := by
    cases measurements : db.measurements with
    | mk stored nodup =>
      rw [measurements] at none
      simp only [Table.insertIgnoring, insertIgnoring, Table.mk.injEq]
      rw [show admitted Measurement.key (stored.map Measurement.key) rows = [] from none, List.append_nil]
  refine ⟨table, ?_, ?_⟩
  · simp only [committed, none]
    rfl
  · simp [committed, enqueue, stamp]

/-- A message whose readings are all stored changes nothing. -/
theorem sameTables_of_recorded (effect : Effect runtime call message db after outcome)
    (recorded : Recorded db message) : SameTables db after := by
  cases effect with
  | threw _ failure unrecorded => exact sameTables_of_unrecorded unrecorded
  | unknown _ absent unrecorded => exact sameTables_of_unrecorded unrecorded
  | persisted site member slug middle unrecorded emissionPointMap sound rows increments commits =>
    have none : middle.measurements.created rows = [] :=
      created_eq_nil (recorded.unrecorded unrecorded) (unrecorded.sites ▸ member) slug sound commits
    have written := commits.written
    rw [none, monthlySums_nil] at written
    cases written
    have before := sameTables_of_unrecorded unrecorded
    have after : SameTables middle (committed runtime call message site.id site.timezone rows [] middle) :=
      committed_of_nothing_created message site.id site.timezone none
    exact ⟨after.measurements.trans before.measurements,
      after.siteMonthlyEmissions.trans before.siteMonthlyEmissions, after.metricsOutbox.trans before.metricsOutbox⟩

/-- A message that commits without a change to the measurements had all its
readings stored. -/
theorem recorded_of_sameTables (wellformed : Wellformed db) (effect : Effect runtime call message db after (.ok result))
    (same : SameTables db after) (known : result.siteId ≠ none) : Recorded db message := by
  cases effect with
  | unknown _ absent unrecorded => exact absurd rfl known
  | persisted site member slug middle unrecorded emissionPointMap sound rows increments commits =>
    intro other otherMember otherSlug m submitted
    cases db.sites.eq_of_key otherMember member (otherSlug.trans slug.symm)
    have none : middle.measurements.created rows = [] := by
      have lengths := congrArg (fun table => table.rows.length) same.measurements
      simp only [committed, Table.insertIgnoring_rows, List.length_append, unrecorded.measurements] at lengths
      rw [← List.length_eq_zero_iff, unrecorded.measurements]
      omega
    obtain ⟨row, proposed, storedAs⟩ := Fallible.exists_right commits.stored submitted
    have held : row.key ∈ db.measurements.rows.map Measurement.key := by
      rw [← unrecorded.measurements]
      apply (key_covered proposed).resolve_right
      intro new
      rw [show admitted Measurement.key (middle.measurements.rows.map Measurement.key) rows = [] from none] at new
      cases new
    obtain ⟨old, stored, sameKey⟩ := List.mem_map.mp held
    obtain ⟨batch, point, recordedAt⟩ : old.batchId = row.batchId ∧ old.emissionPointId = row.emissionPointId ∧
        old.recordedAt = row.recordedAt := by
      simpa [Measurement.key] using sameKey
    obtain ⟨ofRow, pointStored, pointId, pointSite⟩ := wellformed.attributed old stored
    -- The map and the stored reading name one emission point.
    have samePoint : ofRow = ⟨row.emissionPointId, site.id, m.emissionPoint⟩ :=
      List.inj_on_of_nodup_map (unrecorded.sequenced wellformed.sequenced).ids (unrecorded.points pointStored)
        (sound _ _ storedAs.point) (pointId.trans point)
    refine ⟨ofRow, pointStored, ?_, old, stored, batch ▸ storedAs.batch, pointId.symm,
      recordedAt.trans storedAs.recordedAt⟩
    rw [samePoint]
    exact ⟨rfl, rfl⟩

/-! ## A whole run -/

/-- What the batch has begun stays begun. -/
theorem StepEffect.begun (effect : StepEffect runtime db after) (begun : Begun db siteSlug batchId) :
    Begun after siteSlug batchId := by
  obtain ⟨site, member, slug, row, stored, ofSite⟩ := begun
  refine @IngestPipeline.StepEffect.preserves _ _ _ (fun db => Begun db siteSlug batchId) effect ?_ ?_ ?_
  · intro newSlug name timezone emissionLimit
    exact ⟨site, createSite_grows newSlug name timezone emissionLimit db member, slug, row, stored, ofSite⟩
  · intro middle unrecorded
    exact ⟨site, unrecorded.sites ▸ member, slug, row, unrecorded.measurements ▸ stored, ofSite⟩
  · intro call message middle emissionPointMap rows increments other unrecorded _ _ _ _
    exact ⟨site, unrecorded.sites ▸ member, slug, row,
      List.mem_append_left _ (unrecorded.measurements ▸ stored), ofSite⟩

/-- A call that inserts a reading begins its batch. -/
theorem begun_of_inserts {index : Nat} (sound : IngestPipeline.Sound pipeline)
    (inserts : Inserts runtime pipeline index call message)
    (stepped : step runtime pipeline (.handle index call message) = some next) :
    Begun next.db message.siteSlug message.batchId := by
  obtain ⟨process, held, result, returned, some⟩ := inserts
  obtain ⟨process', held', rfl⟩ := step_handle.mp stepped
  cases Option.some.inj (held.symm.trans held')
  obtain ⟨effect, -⟩ := handle_effect runtime call message sound held
  rw [returned] at effect
  generalize (handle runtime call message pipeline.db process).1 = handled at effect
  cases effect with
  | unknown _ absent unrecorded => cases some
  | persisted site member slug middle unrecorded emissionPointMap resolved rows increments commits =>
    obtain ⟨row, created⟩ := List.exists_mem_of_length_pos some
    obtain ⟨m, submitted, storedAs⟩ := created_submitted commits created
    exact ⟨site, unrecorded.sites ▸ member, slug, row, List.mem_append_right _ created, storedAs.site, storedAs.batch⟩

/-- The step lemma: a message of a batch that has begun changes nothing when it
brings nothing new. -/
theorem step_sameTables {index : Nat} (sound : IngestPipeline.Sound pipeline)
    (begun : Begun pipeline.db message.siteSlug message.batchId)
    (nothingNew : BringsNothingNew pipeline (.handle index call message))
    (stepped : step runtime pipeline (.handle index call message) = some next) :
    SameTables pipeline.db next.db := by
  obtain ⟨process, held, rfl⟩ := step_handle.mp stepped
  obtain ⟨effect, -⟩ := handle_effect runtime call message sound held
  exact sameTables_of_recorded effect (nothingNew begun)

/-- **The batch id is the unit of idempotency** in a run whose messages bring
nothing new under a batch that has begun. -/
theorem batch_is_unit (runtime : Runtime)
    (meets : StepsMeet (step runtime) BringsNothingNew initial actions) : BatchIsUnit runtime actions := by
  intro before index call first between index' call' second rest start middle next finish split sameSlug sameBatch
    reached stepped inserts ran stepped'
  have sound := run_sound reached
  have soundMiddle := (step_effect sound stepped).2
  have begun : Begun next.db first.siteSlug first.batchId := by
    have kept :=
      run_invariant (fun pipeline => IngestPipeline.Sound pipeline ∧ Begun pipeline.db first.siteSlug first.batchId)
      (fun ⟨sound, begun⟩ stepped =>
        have ⟨effect, later⟩ := step_effect sound stepped
        ⟨later, StepEffect.begun effect begun⟩)
      ⟨soundMiddle, begun_of_inserts sound inserts stepped⟩ ran
    exact kept.2
  have reachedNext : run (step runtime) initial (before ++ .handle index call first :: between) = some next :=
    run_append.mpr ⟨start, reached, run_cons.mpr ⟨middle, stepped, ran⟩⟩
  have nothingNew := stepsMeet_iff.mp meets (before ++ .handle index call first :: between)
    (.handle index' call' second) rest next (by rw [split]; simp) reachedNext
  exact step_sameTables (run_sound reachedNext) (sameSlug ▸ sameBatch ▸ begun) nothingNew stepped'

/-- A message of one reading, under the batch id its client chose. -/
private def underOneBatch (valueKgCo2e : String) (recordedAtMs : Int) : KafkaIngestMessage :=
  ⟨⟨"3f2a6c1e-8d4b-4c7a-9e51-0b6d2f7a8c90", "north-plant", [⟨"stack-1", recordedAtMs, valueKgCo2e⟩]⟩, 1704067201000⟩

private def onePlant : List Action := [.createSite "north-plant" "North Plant" "Africa/Abidjan" Numeric.zero, .start]

private def thenHandles (messages : List KafkaIngestMessage) : List Action :=
  onePlant ++ messages.map fun message => .handle 0 (.healthy 1704067202000 1704067202000) message

/-- A second value for the stored reading leaves the tables alone. -/
theorem corrected_value_is_dropped :
    BatchIsUnit .exactUtc
      (thenHandles [underOneBatch "1.500000" 1704067200000, underOneBatch "2.500000" 1704067200000]) := by
  apply batch_is_unit
  decide +kernel

/-- A second instant is a second reading of the batch. -/
theorem changed_instant_is_stored : ¬∀ (runtime : Runtime) (actions : List Action), BatchIsUnit runtime actions := by
  intro always
  have same : SameTables _ _ := always .exactUtc
    (thenHandles [underOneBatch "1.500000" 1704067200000, underOneBatch "1.500000" 1704067260000]) onePlant 0
    (.healthy 1704067202000 1704067202000) (underOneBatch "1.500000" 1704067200000) [] 0
    (.healthy 1704067202000 1704067202000) (underOneBatch "1.500000" 1704067260000) [] _ _ _ _ rfl rfl rfl rfl rfl
    ⟨_, rfl, _, rfl, by decide +kernel⟩ rfl rfl
  have lengths := congrArg (fun table => table.rows.length) same.measurements
  revert lengths
  decide +kernel

end EmissionsPlatform.BatchIdentity
