import EmissionsPlatform.Conservation

/-! Delivery order and multiplicity. Emission point ids are given out in the
order of arrival, so two runs that deliver the same messages differ in ids.
`readings` forgets the ids: it shows each stored reading by its site, its
emission point's code, its batch, its instant and its value. On readings a
committed call is one insert that skips conflicts (`committed_refines`), and
inserts of batches that share no key commute and are idempotent. -/
namespace EmissionsPlatform.Redelivery
open Contracts UniqueIndex EmissionPoints IngestHandler IngestPipeline Conservation Transition
set_option autoImplicit false

/-- A stored reading, without generated ids. -/
structure Reading where
  siteId : Nat
  emissionPoint : Option String
  batchId : Uuid
  recordedAt : Int
  value : Numeric
  deriving DecidableEq

/-- The unique index on readings: batch, emission point and instant. -/
def Reading.key (reading : Reading) : Uuid × Option (Nat × String) × Int :=
  (reading.batchId, reading.emissionPoint.map fun code => (reading.siteId, code), reading.recordedAt)

def pointOf (points : Table EmissionPoint.key) (id : Nat) : Option EmissionPoint :=
  points.rows.find? fun point => point.id = id

def describe (points : Table EmissionPoint.key) (row : Measurement) : Reading :=
  ⟨row.siteId, (pointOf points row.emissionPointId).map EmissionPoint.code, row.batchId, row.recordedAt, row.value⟩

def describeKey (points : Table EmissionPoint.key) (key : Uuid × Nat × Int) :
    Uuid × Option (Nat × String) × Int :=
  (key.1, (pointOf points key.2.1).map EmissionPoint.key, key.2.2)

/-- The stored readings. -/
def readings (db : Database) : List Reading := db.measurements.rows.map (describe db.siteEmissionPoints)

def readingOf (siteId : Nat) (batch : Uuid) (m : MeasurementInput) : Option Reading :=
  (Numeric.ofText m.valueKgCo2e).map fun value =>
    ⟨siteId, some m.emissionPoint, batch, instantOfMs m.recordedAtMs, value⟩

/-- The readings a message submits. -/
def submitted (sites : Table Site.slug) (message : KafkaIngestMessage) : List Reading :=
  match sites.rows.find? fun site => site.slug = message.siteSlug, Uuid.ofText message.batchId with
  | some site, some batch => message.measurements.filterMap (readingOf site.id batch)
  | _, _ => []

/-- The messages handled in a run. -/
def messagesOf (actions : List Action) : List KafkaIngestMessage :=
  actions.filterMap fun
    | .handle _ _ message => some message
    | _ => none

/-- No site is created, and every handled message is committed. -/
def Delivers (runtime : Runtime) (pipeline : Pipeline) : Action → Prop
  | .createSite _ _ _ _ => False
  | .start => True
  | .handle index call message => ∀ process ∈ pipeline.processes[index]?,
    (handle runtime call message pipeline.db process).2.2.isOk

instance (runtime : Runtime) (pipeline : Pipeline) : ∀ action, Decidable (Delivers runtime pipeline action)
  | .createSite _ _ _ _ => inferInstanceAs (Decidable False)
  | .start => inferInstanceAs (Decidable True)
  | .handle _ _ _ => inferInstanceAs (Decidable (∀ process ∈ _, _))

variable {runtime : Runtime} {call : Call} {message : KafkaIngestMessage} {db after middle : Database}
variable {points points' : Table EmissionPoint.key} {nextId : Nat}
variable {emissionPointMap : InsertionMap String Nat} {rows : List Measurement}
variable {written : List MetricsIncrement} {pipeline next start one two : Pipeline}
variable {site : Site} {action : Action} {actions actions' : List Action}

/-! ## Ids and what they stand for -/

/-- A row stands for a reading: its point is stored, and is a point of its site. -/
def Attributed (points : Table EmissionPoint.key) (row : Measurement) : Prop :=
  ∃ point ∈ points.rows, point.id = row.emissionPointId ∧ point.siteId = row.siteId

theorem pointOf_eq (ids : (points.rows.map EmissionPoint.id).Nodup) {point : EmissionPoint}
    (member : point ∈ points.rows) : pointOf points point.id = some point := by
  cases found : pointOf points point.id with
  | none =>
    have := List.find?_eq_none.mp found point member
    simp at this
  | some other =>
    have same : other.id = point.id := by simpa using List.find?_some found
    rw [List.inj_on_of_nodup_map ids (List.mem_of_find?_eq_some found) member same]

/-- More points do not change what a row stands for. -/
theorem describe_grows (ids : (points'.rows.map EmissionPoint.id).Nodup)
    (grows : points.rows ⊆ points'.rows) (old : (points.rows.map EmissionPoint.id).Nodup)
    {row : Measurement} (attributed : Attributed points row) : describe points' row = describe points row := by
  obtain ⟨point, member, same, _⟩ := attributed
  rw [describe, describe, ← same, pointOf_eq old member, pointOf_eq ids (grows member)]

theorem key_describe (ids : (points.rows.map EmissionPoint.id).Nodup) {row : Measurement}
    (attributed : Attributed points row) : (describe points row).key = describeKey points row.key := by
  obtain ⟨point, member, same, site⟩ := attributed
  simp only [describe, Reading.key, describeKey, Measurement.key, ← same, pointOf_eq ids member,
    Option.map_some, ← site, EmissionPoint.key]

/-- Different keys of attributed rows stand for different keys. -/
theorem describeKey_faithful (ids : (points.rows.map EmissionPoint.id).Nodup) {row other : Measurement}
    (attributed : Attributed points row) (otherAttributed : Attributed points other)
    (equal : describeKey points row.key = describeKey points other.key) : row.key = other.key := by
  obtain ⟨point, member, same, _⟩ := attributed
  obtain ⟨point', member', same', _⟩ := otherAttributed
  simp only [describeKey, Measurement.key, ← same, ← same', pointOf_eq ids member, pointOf_eq ids member',
    Option.map_some, Prod.mk.injEq, Option.some.injEq] at equal
  obtain ⟨batches, keys, instants⟩ := equal
  have samePoint : point = point' := points.eq_of_key member member' keys
  rw [Measurement.key, Measurement.key, ← same, ← same', batches, instants, samePoint]

/-- A message's rows stand for the readings it submits. -/
theorem describe_stored (ids : (points.rows.map EmissionPoint.id).Nodup) {siteId : Nat} {batch : Uuid}
    {batchId : String} {ms : List MeasurementInput} (sound : ResultSound points siteId emissionPointMap)
    (isBatch : Uuid.ofText batchId = some batch)
    (stored : List.Forall₂ (StoredAs runtime siteId emissionPointMap batchId) ms rows) :
    rows.map (describe points) = ms.filterMap (readingOf siteId batch) := by
  induction stored with
  | nil => rfl
  | cons first rest ih =>
    rename_i m row ms rows
    have found := pointOf_eq ids (sound _ _ first.point)
    have isRow : readingOf siteId batch m = some (describe points row) := by
      rw [readingOf, first.value, Option.map_some, describe, found, first.site, first.recordedAt,
        Option.some.inj (isBatch.symm.trans first.batch), Option.map_some]
    rw [List.map_cons, List.filterMap_cons_some isRow, ih]

/-! ## A committed call is an insert of readings -/

theorem readings_unrecorded (wellformed : Wellformed db) (unrecorded : Unrecorded db after) :
    readings after = readings db := by
  rw [readings, unrecorded.measurements]
  apply List.map_congr_left
  intro row member
  exact describe_grows (unrecorded.sequenced wellformed.sequenced).ids unrecorded.points
    wellformed.sequenced.ids (wellformed.attributed row member)

theorem submitted_of_site (member : site ∈ db.sites.rows) (slugged : site.slug = message.siteSlug)
    {batch : Uuid} (isBatch : Uuid.ofText message.batchId = some batch) :
    submitted db.sites message = message.measurements.filterMap (readingOf site.id batch) := by
  have found : (db.sites.rows.find? fun site => site.slug = message.siteSlug) = some site := by
    cases looked : db.sites.rows.find? fun site => site.slug = message.siteSlug with
    | none =>
      have := List.find?_eq_none.mp looked site member
      simp [slugged] at this
    | some other =>
      have same : other.slug = message.siteSlug := by simpa using List.find?_some looked
      rw [db.sites.eq_of_key (List.mem_of_find?_eq_some looked) member (same.trans slugged.symm)]
  simp only [submitted, found, isBatch]

/-- The rows an insert creates stand for the submitted readings whose key is
not held. -/
theorem describe_created (wellformed : Wellformed db) (member : site ∈ db.sites.rows)
    (slugged : site.slug = message.siteSlug) (sound : ResultSound db.siteEmissionPoints site.id emissionPointMap)
    (nonempty : rows ≠ [])
    (stored : List.Forall₂ (StoredAs runtime site.id emissionPointMap message.batchId) message.measurements rows) :
    (db.measurements.created rows).map (describe db.siteEmissionPoints) =
      admitted Reading.key ((readings db).map Reading.key) (submitted db.sites message) := by
  have ids := wellformed.sequenced.ids
  have attributed : ∀ row ∈ rows, Attributed db.siteEmissionPoints row := by
    intro row proposed
    obtain ⟨m, _, storedAs⟩ := Fallible.exists_left stored proposed
    exact ⟨_, sound _ _ storedAs.point, rfl, storedAs.site.symm⟩
  -- Every row of the transaction carries the message's batch.
  obtain ⟨batch, isBatch⟩ : ∃ batch, Uuid.ofText message.batchId = some batch := by
    obtain ⟨row, proposed⟩ := List.exists_mem_of_ne_nil rows nonempty
    obtain ⟨m, _, storedAs⟩ := Fallible.exists_left stored proposed
    exact ⟨_, storedAs.batch⟩
  have held : (readings db).map Reading.key =
      (db.measurements.rows.map Measurement.key).map (describeKey db.siteEmissionPoints) := by
    rw [readings, List.map_map, List.map_map]
    exact List.map_congr_left fun row kept => key_describe ids (wellformed.attributed row kept)
  rw [submitted_of_site member slugged isBatch, ← describe_stored ids sound isBatch stored,
    held, admitted_map (describe db.siteEmissionPoints) (describeKey db.siteEmissionPoints)]
  · rfl
  · exact fun row proposed => key_describe ids (attributed row proposed)
  · intro row proposed key known equal
    rcases known with old | alsoProposed
    · obtain ⟨other, otherStored, rfl⟩ := List.mem_map.mp old
      exact describeKey_faithful ids (attributed row proposed) (wellformed.attributed other otherStored) equal
    · obtain ⟨other, otherProposed, rfl⟩ := List.mem_map.mp alsoProposed
      exact describeKey_faithful ids (attributed row proposed) (attributed other otherProposed) equal

/-- **Refinement**: forgetting ids, a committed call inserts the submitted
readings and skips those whose key is held. -/
theorem committed_refines (wellformed : Wellformed db) (member : site ∈ db.sites.rows)
    (slugged : site.slug = message.siteSlug) (sound : ResultSound db.siteEmissionPoints site.id emissionPointMap)
    (commits : Commits runtime message site.id site.timezone emissionPointMap rows written db) :
    readings (committed runtime call message site.id site.timezone rows written db) =
      insertIgnoring Reading.key (readings db) (submitted db.sites message) := by
  rw [insertIgnoring, ← describe_created wellformed member slugged sound commits.nonempty commits.stored]
  simp only [readings, committed, Table.insertIgnoring_rows, List.map_append]

/-- The unique index of the readings. -/
theorem readings_keys_nodup (wellformed : Wellformed db) : ((readings db).map Reading.key).Nodup := by
  have ids := wellformed.sequenced.ids
  rw [readings, List.map_map]
  refine List.Nodup.map_on ?_ db.measurements.nodup.of_map
  intro row stored other otherStored equal
  simp only [Function.comp_apply, key_describe ids (wellformed.attributed row stored),
    key_describe ids (wellformed.attributed other otherStored)] at equal
  exact db.measurements.eq_of_key stored otherStored (describeKey_faithful ids
    (wellformed.attributed row stored) (wellformed.attributed other otherStored) equal)

/-- The step lemma: a delivered message inserts what it submits. -/
theorem handle_refines {index : Nat} (sound : Sound pipeline)
    (delivers : Delivers runtime pipeline (.handle index call message))
    (known : ∃ site ∈ pipeline.db.sites.rows, site.slug = message.siteSlug)
    (stepped : step runtime pipeline (.handle index call message) = some next) :
    readings next.db = insertIgnoring Reading.key (readings pipeline.db) (submitted pipeline.db.sites message) ∧
      next.db.sites = pipeline.db.sites := by
  obtain ⟨process, held, rfl⟩ := step_handle.mp stepped
  have returned := delivers process held
  have effect := (handle_effect runtime call message sound held).1
  generalize (handle runtime call message pipeline.db process).1 = after at effect
  generalize (handle runtime call message pipeline.db process).2.2 = outcome at effect returned
  cases effect with
  | threw _ failure unrecorded => cases returned
  | unknown _ absent unrecorded =>
    obtain ⟨site, member, slugged⟩ := known
    exact absurd slugged (absent site member)
  | persisted site member slugged middle unrecorded emissionPointMap isSound rows increments commits =>
    refine ⟨?_, unrecorded.sites⟩
    rw [committed_refines (sound.wellformed.unrecorded unrecorded) (unrecorded.sites ▸ member) slugged isSound
      commits, readings_unrecorded sound.wellformed unrecorded, unrecorded.sites]

/-- The run lemma: a run of deliveries inserts what its messages submit, in
order. -/
theorem run_refines (sound : Sound start) (delivers : StepsMeet (step runtime) (Delivers runtime) start actions)
    (known : ∀ message ∈ messagesOf actions, ∃ site ∈ start.db.sites.rows, site.slug = message.siteSlug)
    (ran : run (step runtime) start actions = some one) :
    readings one.db = insertAll Reading.key (readings start.db)
        ((messagesOf actions).map (submitted start.db.sites)) ∧ one.db.sites = start.db.sites := by
  induction actions generalizing start with
  | nil =>
    cases ran
    exact ⟨rfl, rfl⟩
  | cons action rest ih =>
    obtain ⟨next, stepped, finished⟩ := run_cons.mp ran
    have nextSound := (step_effect sound stepped).2
    have later := delivers.2 next stepped
    cases action with
    | createSite slug name timezone emissionLimit => exact delivers.1.elim
    | start =>
      cases stepped
      have refined := ih nextSound later known finished
      exact refined
    | handle index call message =>
      have first := known message List.mem_cons_self
      obtain ⟨inserted, sites⟩ := handle_refines sound delivers.1 first stepped
      obtain ⟨others, othersSites⟩ := ih nextSound later
        (fun other member => sites ▸ known other (List.mem_cons_of_mem _ member)) finished
      rw [inserted, sites] at others
      exact ⟨others, othersSites.trans sites⟩

/-! ## Order and multiplicity -/

theorem mem_submitted {sites : Table Site.slug} {reading : Reading} (member : reading ∈ submitted sites message) :
    (∃ site ∈ sites.rows, site.slug = message.siteSlug ∧ reading.siteId = site.id) ∧
      Uuid.ofText message.batchId = some reading.batchId ∧ ∃ code, reading.emissionPoint = some code := by
  unfold submitted at member
  split at member
  · rename_i site batch found isBatch
    obtain ⟨m, _, read⟩ := List.mem_filterMap.mp member
    obtain ⟨value, _, rfl⟩ := Option.map_eq_some_iff.mp read
    exact ⟨⟨site, List.mem_of_find?_eq_some found, by simpa using List.find?_some found, rfl⟩, isBatch, _, rfl⟩
  · cases member

/-- The messages of one batch of one site carry one list of measurements. -/
def OnePayload (messages : List KafkaIngestMessage) : Prop :=
  ∀ first ∈ messages, ∀ second ∈ messages, first.siteSlug = second.siteSlug →
    Uuid.ofText first.batchId = Uuid.ofText second.batchId → first.measurements = second.measurements

theorem key_eq_iff {first second : Reading} {code code' : String} (point : first.emissionPoint = some code)
    (point' : second.emissionPoint = some code') :
    first.key = second.key ↔ first.batchId = second.batchId ∧ first.siteId = second.siteId ∧ code = code' ∧
      first.recordedAt = second.recordedAt := by
  simp [Reading.key, point, point', and_assoc]

/-- Two batches of different sites, or with different ids, share no key. -/
theorem submitted_compatible {messages : List KafkaIngestMessage} (wellformed : Wellformed db)
    (onePayload : OnePayload messages) :
    Compatible Reading.key (messages.map (submitted db.sites)) := by
  intro batch member batch' member' row rowMember row' rowMember' same
  obtain ⟨first, firstMember, rfl⟩ := List.mem_map.mp member
  obtain ⟨second, secondMember, rfl⟩ := List.mem_map.mp member'
  obtain ⟨⟨site, siteMember, slugged, ofSite⟩, isBatch, code, point⟩ := mem_submitted rowMember
  obtain ⟨⟨site', siteMember', slugged', ofSite'⟩, isBatch', code', point'⟩ := mem_submitted rowMember'
  obtain ⟨batches, sites, _, _⟩ := (key_eq_iff point point').mp same
  have sameSite : site = site' := List.inj_on_of_nodup_map wellformed.siteIds siteMember siteMember'
    (ofSite.symm.trans (sites.trans ofSite'))
  have slugs : first.siteSlug = second.siteSlug := slugged.symm.trans (sameSite ▸ slugged')
  have ids : Uuid.ofText first.batchId = Uuid.ofText second.batchId := by rw [isBatch, isBatch', batches]
  rw [submitted, submitted, slugs, ids, onePayload first firstMember second secondMember slugs ids]

/-- A batch the start knows nothing of proposes no key it holds. -/
theorem submitted_unknown (wellformed : Wellformed db)
    (unknown : ∀ batch, Uuid.ofText message.batchId = some batch → batchReadings db message.siteSlug batch = [])
    {reading : Reading} (member : reading ∈ submitted db.sites message) :
    reading.key ∉ (readings db).map Reading.key := by
  intro held
  obtain ⟨stored, storedMember, same⟩ := List.mem_map.mp held
  obtain ⟨row, rowStored, rfl⟩ := List.mem_map.mp storedMember
  obtain ⟨⟨site, siteMember, slugged, ofSite⟩, isBatch, code, point⟩ := mem_submitted member
  obtain ⟨owner, ownerMember, ownerId, _⟩ := wellformed.attributed row rowStored
  have described : (describe db.siteEmissionPoints row).emissionPoint = some owner.code := by
    rw [describe, ← ownerId, pointOf_eq wellformed.sequenced.ids ownerMember, Option.map_some]
  obtain ⟨batches, sites, _, _⟩ := (key_eq_iff described point).mp same
  have found : row ∈ batchReadings db message.siteSlug reading.batchId :=
    List.mem_filter.mpr ⟨rowStored, decide_eq_true
      ⟨batches, site, siteMember, slugged, ofSite.symm.trans sites.symm⟩⟩
  rw [unknown _ isBatch] at found
  cases found

theorem totalKg_of_readings (runtime : Runtime) (timezone : String) (month : YearMonth) (siteId : Nat)
    (db : Database) :
    totalKg (ofMonth runtime timezone month (siteReadings db siteId)) =
      (((readings db).filter fun reading =>
          runtime.siteLocalYearMonth reading.recordedAt timezone = month ∧ reading.siteId = siteId).map
        fun reading => reading.value.millionths).sum := by
  simp only [totalKg, ofMonth, siteReadings, readings, List.filter_map, List.map_map, List.filter_filter,
    Bool.decide_and]
  rfl

theorem length_batchReadings (slug : String) (batch : Uuid) (db : Database) :
    (batchReadings db slug batch).length = ((readings db).filter fun reading =>
      reading.batchId = batch ∧ ∃ site ∈ db.sites.rows, site.slug = slug ∧ site.id = reading.siteId).length := by
  simp only [batchReadings, readings, List.filter_map, List.length_map]
  rfl

/-- **Delivery order and multiplicity do not matter.** Two runs that deliver
the same messages, each at least once, from a reachable state without their
batches leave the same readings, the same monthly increments and the same
batch counts. -/
theorem delivery_order_and_multiplicity_do_not_matter (exactly : runtime.arithmetic.Exact)
    {before : List Action} (reached : run (step runtime) initial before = some start)
    (delivers : StepsMeet (step runtime) (Delivers runtime) start actions)
    (delivers' : StepsMeet (step runtime) (Delivers runtime) start actions')
    (ran : run (step runtime) start actions = some one)
    (ran' : run (step runtime) start actions' = some two)
    (sameMessages : ∀ message, message ∈ messagesOf actions ↔ message ∈ messagesOf actions')
    (known : ∀ message ∈ messagesOf actions, ∃ site ∈ start.db.sites.rows, site.slug = message.siteSlug)
    (onePayload : OnePayload (messagesOf actions))
    (unknown : ∀ message ∈ messagesOf actions, ∀ batch ∈ Uuid.ofText message.batchId,
      batchReadings start.db message.siteSlug batch = []) :
    (readings one.db).Perm (readings two.db) ∧
      (∀ site ∈ start.db.sites.rows, ∀ month,
        deltaKg site.id month (increments one.db) = deltaKg site.id month (increments two.db)) ∧
      ∀ slug batch, insertedCount (batchPayloads one.db slug batch) =
        insertedCount (batchPayloads two.db slug batch) := by
  have sound := run_sound reached
  obtain ⟨refined, sites⟩ := run_refines sound delivers known ran
  obtain ⟨refined', sites'⟩ := run_refines sound delivers'
    (fun message member => known message ((sameMessages message).mpr member)) ran'
  have conserved := ingest_conserves exactly (run_append.mpr ⟨start, reached, ran⟩)
  have conserved' := ingest_conserves exactly (run_append.mpr ⟨start, reached, ran'⟩)
  have same : (readings one.db).Perm (readings two.db) := by
    rw [refined, refined']
    refine insertAll_perm (readings_keys_nodup sound.wellformed)
      (submitted_compatible sound.wellformed onePayload) (fun batch => ?_) ?_
    · simp only [List.mem_map, sameMessages]
    · intro batch member reading readingMember
      obtain ⟨message, messageMember, rfl⟩ := List.mem_map.mp member
      exact submitted_unknown sound.wellformed (unknown message messageMember) readingMember
  refine ⟨same, fun site member month => ?_, fun slug batch => ?_⟩
  · rw [conserved.months site (sites ▸ member), conserved'.months site (sites' ▸ member),
      totalKg_of_readings, totalKg_of_readings]
    exact ((same.filter _).map _).sum_eq
  · rw [conserved.counts, conserved'.counts, length_batchReadings, length_batchReadings, sites, sites']
    exact congrArg Int.ofNat (same.filter _).length_eq

private def morning : KafkaIngestMessage :=
  ⟨⟨"3f2a6c1e-8d4b-4c7a-9e51-0b6d2f7a8c90", "north-plant",
    [⟨"stack-1", 1704067199000, "1.500000"⟩, ⟨"stack-1", 1704067199000, "7.000000"⟩]⟩, 1704067201000⟩

private def evening : KafkaIngestMessage :=
  ⟨⟨"9d1b7c40-52e6-4f0a-8a3d-6c5e4b3a2910", "north-plant", [⟨"flare-7", 1704067200000, "2.250000"⟩]⟩, 1704067202000⟩

private def prepared : List Action := [.createSite "north-plant" "North plant" "Africa/Abidjan" Numeric.zero, .start]

private def inOrder : List Action :=
  [.handle 0 (.healthy 1704067203000 1704067203000) morning,
    .handle 0 (.healthy 1704067204000 1704067204000) evening,
    .handle 0 (.healthy 1704067205000 1704067205000) morning]

private def outOfOrder : List Action :=
  [.handle 0 (.healthy 1704067203000 1704067203000) evening, .start,
    .handle 1 (.healthy 1704067204000 1704067204000) morning]

private theorem prepared_ran : (run (step .exactUtc) initial prepared).isSome := by decide

private def ready : Pipeline := (run (step .exactUtc) initial prepared).get prepared_ran

private theorem inOrder_ran : (run (step .exactUtc) ready inOrder).isSome := by decide

private theorem outOfOrder_ran : (run (step .exactUtc) ready outOfOrder).isSome := by decide

theorem two_deliveries_leave_the_same_readings :
    (readings ((run (step .exactUtc) ready inOrder).get inOrder_ran).db).Perm
      (readings ((run (step .exactUtc) ready outOfOrder).get outOfOrder_ran).db) :=
  have sameMessages : ∀ message, message ∈ messagesOf inOrder ↔ message ∈ messagesOf outOfOrder := by
    intro message
    simp only [messagesOf, inOrder, outOfOrder, List.filterMap_cons, List.filterMap_nil, List.mem_cons,
      List.not_mem_nil]
    tauto
  have onePayload : OnePayload (messagesOf inOrder) := by
    unfold OnePayload
    decide
  (delivery_order_and_multiplicity_do_not_matter NumberArithmetic.exact_exact
    (Option.some_get prepared_ran).symm (by decide) (by decide) (Option.some_get inOrder_ran).symm
    (Option.some_get outOfOrder_ran).symm sameMessages (by decide) onePayload (by decide)).1

end EmissionsPlatform.Redelivery
