import EmissionsPlatform.IngestPipeline

/-! The readings are counted once in every table. A metrics increment and an
outbox row are written in the transaction that inserts the readings they are
about, so their sums agree with the stored readings after every run, however
many messages were redelivered, overlapped or rolled back. -/
namespace EmissionsPlatform.Conservation
open Contracts UniqueIndex EmissionPoints IngestHandler IngestPipeline Transition
open LeaseQueue (Row enqueue stamp map_data_stamp)
set_option autoImplicit false

/-- The readings of a site. -/
def siteReadings (db : Database) (siteId : Nat) : List Measurement :=
  db.measurements.rows.filter fun row => row.siteId = siteId

/-- The increments queued so far. -/
def increments (db : Database) : List MetricsIncrement := db.metricsOutbox.rows.map Row.data

/-- The readings stored for a batch of the site with this slug. -/
def batchReadings (db : Database) (slug : String) (batch : Uuid) : List Measurement :=
  db.measurements.rows.filter fun row =>
    row.batchId = batch ∧ ∃ site ∈ db.sites.rows, site.slug = slug ∧ site.id = row.siteId

/-- The payloads of the outbox rows of a batch. -/
def batchPayloads (db : Database) (slug : String) (batch : Uuid) : List AlertEnvelopeBusinessPayload :=
  (db.outbox.rows.map fun row => row.data.payload).filter fun payload =>
    payload.siteSlug = slug ∧ Uuid.ofText payload.batchId = some batch

def insertedCount (payloads : List AlertEnvelopeBusinessPayload) : Int :=
  (payloads.map AlertEnvelopeBusinessPayload.measurementsInserted).sum

/-- The sum of the payloads' decimal texts; `none` when one is not decimal. -/
def insertedKg : List AlertEnvelopeBusinessPayload → Option Nat
  | [] => some 0
  | payload :: rest => (DecimalText.millionths payload.sumKgCo2e).bind fun kg => (insertedKg rest).map (kg + ·)

/-- The tables agree on what was ingested. -/
structure Conserved (runtime : Runtime) (db : Database) : Prop where
  /-- By site and site-local month: increments and readings. -/
  months : ∀ site ∈ db.sites.rows, ∀ month, deltaKg site.id month (increments db) =
    totalKg (ofMonth runtime site.timezone month (siteReadings db site.id))
  /-- By site and batch: the counts of the outbox rows and the readings. -/
  counts : ∀ slug batch, insertedCount (batchPayloads db slug batch) = (batchReadings db slug batch).length
  /-- By site and batch: the sums of the outbox rows and the readings. -/
  sums : ∀ slug batch, insertedKg (batchPayloads db slug batch) = some (totalKg (batchReadings db slug batch))

variable {runtime : Runtime} {call : Call} {message : KafkaIngestMessage} {db after : Database}
variable {emissionPointMap : InsertionMap String Nat} {rows : List Measurement}
variable {written : List MetricsIncrement} {pipeline next : Pipeline} {actions : List Action}
variable {site : Site} {slug : String} {batch : Uuid} {month : YearMonth}

theorem insertedKg_append (first rest : List AlertEnvelopeBusinessPayload) :
    insertedKg (first ++ rest) = (insertedKg first).bind fun kg => (insertedKg rest).map (kg + ·) := by
  induction first with
  | nil => simp [insertedKg]
  | cons payload first ih =>
    rw [List.cons_append, insertedKg, insertedKg, ih]
    cases DecimalText.millionths payload.sumKgCo2e with
    | none => rfl
    | some kg =>
      cases insertedKg first with
      | none => rfl
      | some more => cases insertedKg rest <;> simp [Nat.add_assoc]

theorem insertedCount_append (first rest : List AlertEnvelopeBusinessPayload) :
    insertedCount (first ++ rest) = insertedCount first + insertedCount rest := by
  simp [insertedCount]

/-! ## One transaction -/

section Committed

variable (member : site ∈ db.sites.rows) (slugged : site.slug = message.siteSlug)
variable (commits : Commits runtime message site.id site.timezone emissionPointMap rows written db)

include commits in
/-- The rows of a transaction are rows of its site and its batch. -/
theorem created_own {row : Measurement} (created : row ∈ db.measurements.created rows) :
    row.siteId = site.id ∧ Uuid.ofText message.batchId = some row.batchId := by
  obtain ⟨m, _, storedAs⟩ := created_submitted commits created
  exact ⟨storedAs.site, storedAs.batch⟩

include commits in
theorem siteReadings_committed (siteId : Nat) :
    siteReadings (committed runtime call message site.id site.timezone rows written db) siteId =
      siteReadings db siteId ++ if siteId = site.id then db.measurements.created rows else [] := by
  simp only [siteReadings, committed, Table.insertIgnoring_rows, List.filter_append]
  congr 1
  split
  · rename_i same
    rw [List.filter_eq_self]
    intro row created
    simp [(created_own commits created).1, same]
  · rename_i different
    rw [List.filter_eq_nil_iff]
    intro row created
    simp [(created_own commits created).1, Ne.symm different]

theorem increments_committed :
    increments (committed runtime call message site.id site.timezone rows written db) = increments db ++ written := by
  simp [increments, committed, enqueue, map_data_stamp]

include member slugged commits in
theorem batchReadings_committed (siteIds : (db.sites.rows.map Site.id).Nodup) :
    batchReadings (committed runtime call message site.id site.timezone rows written db) slug batch =
      batchReadings db slug batch ++
        if message.siteSlug = slug ∧ Uuid.ofText message.batchId = some batch then db.measurements.created rows
        else [] := by
  change ((db.measurements.rows ++ db.measurements.created rows).filter fun row =>
    row.batchId = batch ∧ ∃ owner ∈ db.sites.rows, owner.slug = slug ∧ owner.id = row.siteId) = _
  rw [List.filter_append, batchReadings]
  congr 1
  split
  · rename_i own
    rw [List.filter_eq_self]
    intro row created
    obtain ⟨ofSite, ofBatch⟩ := created_own commits created
    have sameBatch : row.batchId = batch := Option.some.inj (ofBatch.symm.trans own.2)
    exact decide_eq_true ⟨sameBatch, site, member, slugged.trans own.1, ofSite.symm⟩
  · rename_i other
    rw [List.filter_eq_nil_iff]
    intro row created
    obtain ⟨ofSite, ofBatch⟩ := created_own commits created
    rw [decide_eq_true_eq]
    rintro ⟨rfl, owner, ownerMember, rfl, ownerId⟩
    -- The site with this id is the message's site.
    have same : owner = site := List.inj_on_of_nodup_map siteIds ownerMember member (ownerId.trans ofSite)
    exact other ⟨by rw [same, slugged], ofBatch⟩

theorem batchPayloads_committed :
    batchPayloads (committed runtime call message site.id site.timezone rows written db) slug batch =
      batchPayloads db slug batch ++
        if message.siteSlug = slug ∧ Uuid.ofText message.batchId = some batch then
          [(outboxEvent runtime call message (db.measurements.created rows)).payload]
        else [] := by
  have appended : (committed runtime call message site.id site.timezone rows written db).outbox.rows.map
      (fun row => row.data.payload) = db.outbox.rows.map (fun row => row.data.payload) ++
        [(outboxEvent runtime call message (db.measurements.created rows)).payload] := by
    simp [committed, enqueue, stamp]
  rw [batchPayloads, appended, List.filter_append, batchPayloads]
  congr 1
  split
  · rename_i own
    exact List.filter_cons_of_pos (decide_eq_true own)
  · rename_i other
    exact List.filter_cons_of_neg fun same => other (of_decide_eq_true same)

include member slugged commits in
/-- A transaction adds the same to both sides. -/
theorem Conserved.committed (exactly : runtime.arithmetic.Exact) (conserved : Conserved runtime db)
    (siteIds : (db.sites.rows.map Site.id).Nodup) :
    Conserved runtime (committed runtime call message site.id site.timezone rows written db) := by
  refine ⟨fun other otherMember month => ?_, fun slug batch => ?_, fun slug batch => ?_⟩
  · rw [increments_committed, deltaKg_append, siteReadings_committed commits, conserved.months other otherMember,
      ofMonth_append, totalKg_append]
    congr 1
    split
    · rename_i same
      rw [List.inj_on_of_nodup_map siteIds otherMember member same]
      exact deltaKg_increments exactly commits.written month
    · rename_i different
      rw [deltaKg_other_site commits.written different]
      rfl
  · rw [batchPayloads_committed, batchReadings_committed member slugged commits siteIds, insertedCount_append,
      conserved.counts, List.length_append, Nat.cast_add]
    congr 1
    split <;> simp [insertedCount, outboxEvent]
  · rw [batchPayloads_committed, batchReadings_committed member slugged commits siteIds, insertedKg_append,
      conserved.sums, totalKg_append]
    split
    · simp [insertedKg, outboxEvent, sumKg_exact exactly]
    · simp [insertedKg, totalKg]

end Committed

/-! ## Whole runs -/

theorem Conserved.unrecorded (conserved : Conserved runtime db) (unrecorded : Unrecorded db after) :
    Conserved runtime after := by
  refine ⟨fun site member month => ?_, fun slug batch => ?_, fun slug batch => ?_⟩
  · rw [unrecorded.sites] at member
    rw [increments, siteReadings, unrecorded.metricsOutbox, unrecorded.measurements]
    exact conserved.months site member month
  · rw [batchPayloads, batchReadings, unrecorded.outbox, unrecorded.measurements, unrecorded.sites]
    exact conserved.counts slug batch
  · rw [batchPayloads, batchReadings, unrecorded.outbox, unrecorded.measurements, unrecorded.sites]
    exact conserved.sums slug batch

/-- A new site has none of the readings stored before. -/
theorem batchReadings_createSite (wellformed : Wellformed db) (newSlug name timezone : String)
    (emissionLimit : Numeric) (slug : String) (batch : Uuid) :
    batchReadings (createSite newSlug name timezone emissionLimit db) slug batch = batchReadings db slug batch := by
  apply List.filter_congr
  intro row member
  rw [decide_eq_decide]
  refine and_congr_right fun _ => ⟨?_, ?_⟩
  · rintro ⟨site, siteMember, slugged, same⟩
    obtain ⟨owner, ownerMember, ownerId⟩ := wellformed.measured row member
    rcases List.mem_append.mp siteMember with old | new
    · exact ⟨site, old, slugged, same⟩
    · have fresh := wellformed.siteFresh owner ownerMember
      rw [List.mem_singleton.mp (admitted_subset new)] at same
      simp only at same
      omega
  · rintro ⟨site, siteMember, rest⟩
    exact ⟨site, createSite_grows newSlug name timezone emissionLimit db siteMember, rest⟩

theorem siteReadings_fresh (wellformed : Wellformed db) : siteReadings db db.nextSiteId = [] := by
  rw [siteReadings, List.filter_eq_nil_iff]
  intro row stored
  obtain ⟨owner, ownerMember, ownerId⟩ := wellformed.measured row stored
  have := wellformed.siteFresh owner ownerMember
  simp only [decide_eq_true_eq]
  omega

theorem deltaKg_fresh (wellformed : Wellformed db) (month : YearMonth) :
    deltaKg db.nextSiteId month (increments db) = 0 := by
  have none : ((increments db).filter fun increment =>
      increment.siteId = db.nextSiteId ∧ increment.month = month) = [] := by
    rw [List.filter_eq_nil_iff]
    intro increment queued
    obtain ⟨row, stored, rfl⟩ := List.mem_map.mp queued
    obtain ⟨owner, ownerMember, ownerId⟩ := wellformed.incremented row stored
    have := wellformed.siteFresh owner ownerMember
    simp only [decide_eq_true_eq, not_and]
    omega
  rw [deltaKg, none]
  rfl

/-- A new site has no readings and no increments yet. -/
theorem Conserved.createSite (conserved : Conserved runtime db) (wellformed : Wellformed db)
    (newSlug name timezone : String) (emissionLimit : Numeric) :
    Conserved runtime (createSite newSlug name timezone emissionLimit db) := by
  have readings := batchReadings_createSite wellformed newSlug name timezone emissionLimit
  refine ⟨fun site member month => ?_, fun slug batch => ?_, fun slug batch => ?_⟩
  · rcases List.mem_append.mp member with old | new
    · exact conserved.months site old month
    · rw [List.mem_singleton.mp (admitted_subset new)]
      change deltaKg db.nextSiteId month (increments db) =
        totalKg (ofMonth runtime timezone month (siteReadings db db.nextSiteId))
      rw [deltaKg_fresh wellformed, siteReadings_fresh wellformed]
      rfl
  · rw [readings]
    exact conserved.counts slug batch
  · rw [readings]
    exact conserved.sums slug batch

/-- The step lemma of conservation. -/
theorem StepEffect.conserved (exactly : runtime.arithmetic.Exact) (effect : StepEffect runtime db after)
    (wellformed : Wellformed db) (conserved : Conserved runtime db) : Conserved runtime after :=
  effect.preserves (conserved.createSite wellformed) conserved.unrecorded
    fun unrecorded member slugged _ commits => (conserved.unrecorded unrecorded).committed member slugged commits
      exactly (wellformed.unrecorded unrecorded).siteIds

theorem initial_conserved : Conserved runtime initial.db := ⟨nofun, fun _ _ => rfl, fun _ _ => rfl⟩

/-- **Conservation across the ingest transaction.** In every reachable state
the increments of each site and month, and the outbox rows of each batch, add
up to the stored readings. -/
theorem ingest_conserves (exactly : runtime.arithmetic.Exact)
    (ran : run (step runtime) initial actions = some pipeline) : Conserved runtime pipeline.db :=
  run_preserves ran (fun wellformed effect conserved => StepEffect.conserved exactly effect wellformed conserved)
    initial_conserved

/-- Two readings around the turn of the year. -/
private def newYearBatch : KafkaIngestMessage :=
  ⟨⟨"3F2A6C1E-8d4b-4c7a-9e51-0b6d2f7a8c90", "north-plant",
    [⟨"stack-1", 1704067199000, "1.500000"⟩, ⟨"flare-7", 1704067200000, "2.25"⟩]⟩, 1704067201000⟩

/-- A batch is rolled back at its outbox row, then committed, then redelivered. -/
private def redelivered : List Action :=
  [.createSite "north-plant" "North plant" "Africa/Abidjan" Numeric.zero, .start,
    .handle 0 ⟨1704067202000, 1704067202000, fun statement => decide (statement = .insertOutbox)⟩ newYearBatch,
    .handle 0 (.healthy 1704067203000 1704067203000) newYearBatch,
    .handle 0 (.healthy 1704067204000 1704067204000) newYearBatch]

private theorem redelivered_ran : (run (step .exactUtc) initial redelivered).isSome := by decide

theorem redelivered_batch_conserved :
    Conserved .exactUtc ((run (step .exactUtc) initial redelivered).get redelivered_ran).db ∧
      ((run (step .exactUtc) initial redelivered).get redelivered_ran).db.measurements.rows.length = 2 :=
  ⟨ingest_conserves NumberArithmetic.exact_exact (Option.some_get redelivered_ran).symm, by decide⟩

end EmissionsPlatform.Conservation
