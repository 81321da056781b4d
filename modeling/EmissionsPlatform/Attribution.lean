import EmissionsPlatform.ConcurrentResolution
import EmissionsPlatform.IngestPipeline
import EmissionsPlatform.ReportedTotal
import EmissionsPlatform.TransactionLocks

/-! Calls of `handle` in any number of processes, statement by statement. A call
finds its site, resolves its emission points and commits its transaction, other
calls take their steps in between, and any of them may end early.

An id goes through a cache under a string key and through a map of the call
before it is stored with a reading. `readings_are_attributed` says that it is
the id of the right row all the way: nothing a call has left behind can send a
reading to another point or another site. -/
namespace EmissionsPlatform.Attribution
open Contracts UniqueIndex EmissionPoints IngestHandler MetricsService ReportedTotal Transition
open ConcurrentResolution (resolveStep settled)
open IngestPipeline (createSite Wellformed)
open TransactionLocks (Transaction proposed)
set_option autoImplicit false

/-- Where a call is. -/
inductive Stage
  | received
  /-- The site is known, and `resolveEmissionPoints` has come as far as told. -/
  | resolving (siteId : Nat) (timezone : String) (stage : ConcurrentResolution.Stage)
  /-- It has returned or thrown, with the map it had been given, if any. -/
  | ended (resolved : Option (Nat × InsertionMap String Nat))
  deriving DecidableEq

/-- The site and the map that `resolveEmissionPoints` has returned. -/
def Stage.resolved : Stage → Option (Nat × InsertionMap String Nat)
  | .resolving siteId _ (.returned map) => some (siteId, map)
  | .ended resolved => resolved
  | _ => none

/-- A call of a process. -/
structure Handling where
  process : Nat
  call : Call
  message : KafkaIngestMessage
  stage : Stage

/-- The transaction of a call. -/
def Handling.transaction (handling : Handling) (siteId : Nat) (timezone : String)
    (emissionPointMap : InsertionMap String Nat) : Transaction :=
  ⟨handling.call, handling.message, siteId, timezone, emissionPointMap⟩

/-- A stored reading and what it was submitted as. -/
structure Submission where
  row : Measurement
  siteSlug : String
  reading : MeasurementInput
  deriving DecidableEq

structure Platform where
  db : Database
  processes : List Process
  calls : List Handling
  /-- What every stored reading was submitted as, for the record. -/
  submissions : List Submission

/-- The readings of the message that the transaction creates rows for. -/
def submitted (runtime : Runtime) (transaction : Transaction) (db : Database) : List Submission :=
  match proposed runtime transaction with
  | .error _ => []
  | .ok rows =>
    ((transaction.message.measurements.zip rows).filter fun pair => pair.2 ∈ db.measurements.created rows).map
      fun pair => ⟨pair.2, transaction.message.siteSlug, pair.1⟩

/-- The next statement of a call, on the database and the call's process. -/
def Handling.advance (runtime : Runtime) (db : Database) (process : Process) (handling : Handling) :
    Option (Database × Process × Stage × List Submission) :=
  match handling.stage with
  | .received =>
    match process.siteIdCache.get? handling.message.siteSlug with
    | some (siteId, timezone) => some (db, process, .resolving siteId timezone .lookup, [])
    | none =>
      match findSite db handling.message.siteSlug with
      | none =>
        some (insertAlert handling.call "unknown_site_in_consumer"
          [("site_slug", .text handling.message.siteSlug), ("batch_id", .text handling.message.batchId)] db,
          process, .ended none, [])
      | some site =>
        some (db, { process with
            siteIdCache := process.siteIdCache.set handling.message.siteSlug (site.id, site.timezone) },
          .resolving site.id site.timezone .lookup, [])
  | .resolving siteId timezone (.returned map) =>
    let transaction := handling.transaction siteId timezone map
    match transaction.persist runtime db with
    | .error _ => some (db, process, .ended (some (siteId, map)), [])
    | .ok (after, _) => some (after, process, .ended (some (siteId, map)), submitted runtime transaction db)
  | .resolving siteId timezone stage =>
    (resolveStep db.siteEmissionPoints db.nextEmissionPointId process.emissionPointCache
      ⟨handling.process, siteId, handling.message.measurements, stage⟩).map
        fun (siteEmissionPoints, nextEmissionPointId, emissionPointCache, stage) =>
          ({ db with siteEmissionPoints, nextEmissionPointId }, { process with emissionPointCache },
            .resolving siteId timezone stage, [])
  | .ended _ => none

inductive Action
  | createSite (slug name timezone : String) (emissionLimit : Numeric)
  | start
  | receive (process : Nat) (call : Call) (message : KafkaIngestMessage)
  | advance (index : Nat)
  /-- A statement throws, or the process dies. -/
  | abort (index : Nat)

def step (runtime : Runtime) (platform : Platform) : Action → Option Platform
  | .createSite slug name timezone emissionLimit =>
    some { platform with db := createSite slug name timezone emissionLimit platform.db }
  | .start => some { platform with processes := platform.processes ++ [.started] }
  | .receive process call message =>
    if process < platform.processes.length then
      some { platform with calls := platform.calls ++ [⟨process, call, message, .received⟩] }
    else none
  | .advance index =>
    platform.calls[index]?.bind fun handling =>
      platform.processes[handling.process]?.bind fun process =>
        (handling.advance runtime platform.db process).map fun (db, process, stage, submissions) =>
          ⟨db, platform.processes.set handling.process process,
            platform.calls.set index { handling with stage }, platform.submissions ++ submissions⟩
  | .abort index =>
    platform.calls[index]?.map fun handling =>
      { platform with calls := platform.calls.set index { handling with stage := .ended handling.stage.resolved } }

def initial : Platform := ⟨.migrated, [], [], []⟩

/-- The id belongs to a row, and that row is the only one with the site and the
code. -/
def IsPointOf (db : Database) (siteId : Nat) (code : String) (id : Nat) : Prop :=
  ∃ point ∈ db.siteEmissionPoints.rows, point.id = id ∧
    ∀ other ∈ db.siteEmissionPoints.rows, other.siteId = siteId ∧ other.code = code ↔ other = point

/-! ## The invariant -/

/-- What a resolution has found so far is right. -/
def StageSound (points : Table EmissionPoint.key) (siteId : Nat) : ConcurrentResolution.Stage → Prop
  | .lookup => True
  | .select resolution | .insert resolution => ResultSound points siteId resolution.result
  | .returned map => ResultSound points siteId map

/-- A call works for the site of its message, with ids that are right. -/
def Handling.Sound (db : Database) (handling : Handling) : Prop :=
  match handling.stage with
  | .received => True
  | .resolving siteId timezone stage =>
    (∃ site ∈ db.sites.rows, site.slug = handling.message.siteSlug ∧ site.id = siteId ∧ site.timezone = timezone) ∧
      StageSound db.siteEmissionPoints siteId stage
  | .ended resolved => ∀ found ∈ resolved, ResultSound db.siteEmissionPoints found.1 found.2

/-- A reading is stored with the site it was submitted for and the point it
names, at its instant and with its value. -/
structure Submission.Right (db : Database) (submission : Submission) : Prop where
  site : ∃ site ∈ db.sites.rows, site.slug = submission.siteSlug ∧ site.id = submission.row.siteId
  point : ⟨submission.row.emissionPointId, submission.row.siteId, submission.reading.emissionPoint⟩ ∈
    db.siteEmissionPoints.rows
  recordedAt : submission.row.recordedAt = instantOfMs submission.reading.recordedAtMs
  value : Numeric.ofText submission.reading.valueKgCo2e = some submission.row.value

structure Attributed (platform : Platform) : Prop where
  wellformed : Wellformed platform.db
  remembers : ∀ process ∈ platform.processes, Remembers platform.db process
  calls : ∀ handling ∈ platform.calls, handling.Sound platform.db
  accounted : ∀ row ∈ platform.db.measurements.rows, ∃ submission ∈ platform.submissions, submission.row = row
  right : ∀ submission ∈ platform.submissions, submission.Right platform.db

variable {runtime : Runtime} {db after : Database} {process process' : Process} {handling : Handling}
variable {platform next : Platform} {action : Action} {actions : List Action} {stage : Stage}
variable {submissions : List Submission} {points points' : Table EmissionPoint.key} {siteId nextId nextId' : Nat}
variable {cache cache' : InsertionMap String Nat} {submission : Submission}

/-- Sites and points are only added. -/
structure Grows (db after : Database) : Prop where
  sites : db.sites.rows ⊆ after.sites.rows
  points : db.siteEmissionPoints.rows ⊆ after.siteEmissionPoints.rows

theorem Grows.refl (db : Database) : Grows db db := ⟨List.Subset.refl _, List.Subset.refl _⟩

theorem Submission.Right.mono (right : submission.Right db) (grows : Grows db after) : submission.Right after := by
  obtain ⟨⟨site, member, same⟩, point, recordedAt, value⟩ := right
  exact ⟨⟨site, grows.sites member, same⟩, grows.points point, recordedAt, value⟩

theorem StageSound.mono {stage : ConcurrentResolution.Stage} (grows : points.rows ⊆ points'.rows)
    (sound : StageSound points siteId stage) : StageSound points' siteId stage := by
  cases stage with
  | lookup => trivial
  | select resolution => exact ResultSound.mono grows sound
  | insert resolution => exact ResultSound.mono grows sound
  | returned map => exact ResultSound.mono grows sound

theorem Handling.Sound.mono (sound : handling.Sound db) (grows : Grows db after) : handling.Sound after := by
  obtain ⟨process, call, message, stage⟩ := handling
  cases stage with
  | received => trivial
  | resolving siteId timezone stage =>
    obtain ⟨⟨site, member, same⟩, stageSound⟩ := sound
    exact ⟨⟨site, grows.sites member, same⟩, stageSound.mono grows.points⟩
  | ended resolved => exact fun found known => ResultSound.mono grows.points (sound found known)

theorem resolved_sound {found : Nat × InsertionMap String Nat} (sound : handling.Sound db)
    (resolved : handling.stage.resolved = some found) : ResultSound db.siteEmissionPoints found.1 found.2 := by
  obtain ⟨process, call, message, stage⟩ := handling
  cases stage with
  | received => cases resolved
  | ended outcome => exact sound found resolved
  | resolving siteId timezone stage =>
    cases stage with
    | lookup => cases resolved
    | select resolution => cases resolved
    | insert resolution => cases resolved
    | returned map =>
      cases resolved
      exact sound.2

/-! ## One statement -/

theorem settled_sound {resolution : Resolution} {proceed : Resolution → ConcurrentResolution.Stage}
    (sound : ResultSound points siteId resolution.result)
    (proceeds : StageSound points siteId (proceed resolution)) :
    StageSound points siteId (settled resolution proceed) := by
  unfold settled
  split
  · exact sound
  · exact proceeds

/-- A statement of `resolveEmissionPoints` adds points, and what the process and
the call learn of them is right. -/
theorem resolveStep_sound {process : Nat} {measurements : List MeasurementInput}
    {stage stage' : ConcurrentResolution.Stage} (sequenced : Sequenced points nextId) (cached : CacheSound points cache)
    (sound : StageSound points siteId stage)
    (moved : resolveStep points nextId cache ⟨process, siteId, measurements, stage⟩ =
      some (points', nextId', cache', stage')) :
    points.rows ⊆ points'.rows ∧ Sequenced points' nextId' ∧ CacheSound points' cache' ∧
      StageSound points' siteId stage' := by
  cases stage with
  | lookup =>
    cases moved
    have looked : ResultSound points siteId (lookupCodes cache siteId (uniqueCodes measurements)).result :=
      lookupCodes_sound cached
    exact ⟨List.Subset.refl _, sequenced, cached, settled_sound looked looked⟩
  | select resolution =>
    cases moved
    have existing : ∀ row ∈ selectMissing points siteId resolution.missing, row ∈ points.rows ∧ row.siteId = siteId :=
      fun row member => ⟨(mem_selectMissing.mp member).1, (mem_selectMissing.mp member).2.1⟩
    have selected := ResultSound.learn sound existing
    exact ⟨List.Subset.refl _, sequenced, cached.cacheRows existing, settled_sound selected selected⟩
  | insert resolution =>
    cases moved
    have grows : points.rows ⊆ (points.insertIgnoring (toCreate siteId nextId resolution.missing)).rows :=
      List.subset_append_left _ _
    exact ⟨grows, sequenced.insert resolution.missing, (cached.mono grows).cacheRows created_stored,
      (ResultSound.mono grows sound).learn created_stored⟩
  | returned map => cases moved

/-- What one statement of a call keeps right, and what it adds. -/
structure Progresses (db : Database) (handling : Handling) (after : Database) (process : Process) (stage : Stage)
    (submissions : List Submission) : Prop where
  grows : Grows db after
  wellformed : Wellformed after
  remembers : Remembers after process
  sound : ({ handling with stage } : Handling).Sound after
  right : ∀ submission ∈ submissions, submission.Right after
  accounted : ∀ row ∈ after.measurements.rows,
    row ∈ db.measurements.rows ∨ ∃ submission ∈ submissions, submission.row = row

/-- A statement that records nothing. -/
theorem progresses_of_unrecorded (wellformed : Wellformed db) (unrecorded : Unrecorded db after)
    (remembers : Remembers after process) (sound : ({ handling with stage } : Handling).Sound after) :
    Progresses db handling after process stage [] := by
  refine ⟨⟨unrecorded.sites ▸ List.Subset.refl _, unrecorded.points⟩, wellformed.unrecorded unrecorded, remembers,
    sound, nofun, fun row member => Or.inl ?_⟩
  rwa [unrecorded.measurements] at member

/-- The transaction: every row it creates is the row of one of its readings. -/
theorem persist_progresses {site : Site} {map : InsertionMap String Nat} {result : IngestResult}
    (wellformed : Wellformed db) (remembers : Remembers db process) (member : site ∈ db.sites.rows)
    (slug : site.slug = handling.message.siteSlug) (sound : ResultSound db.siteEmissionPoints site.id map)
    (done : (handling.transaction site.id site.timezone map).persist runtime db = .ok (after, result)) :
    Progresses db handling after process (.ended (some (site.id, map)))
      (submitted runtime (handling.transaction site.id site.timezone map) db) := by
  obtain ⟨rows, proposes⟩ := TransactionLocks.proposed_of_persist done
  obtain ⟨rows', increments, commits, rfl, -⟩ := persist_eq_ok done
  have related := TransactionLocks.proposed_eq_ok proposes
  cases TransactionLocks.storedRows_unique related commits.stored
  have created : ∀ submission, submission ∈ submitted runtime (handling.transaction site.id site.timezone map) db ↔
      ∃ m row, (m, row) ∈ handling.message.measurements.zip rows ∧ row ∈ db.measurements.created rows ∧
        submission = ⟨row, handling.message.siteSlug, m⟩ := by
    intro submission
    simp only [submitted, proposes, List.mem_map, List.mem_filter, decide_eq_true_eq, Prod.exists]
    constructor
    · rintro ⟨m, row, ⟨paired, new⟩, rfl⟩
      exact ⟨m, row, paired, new, rfl⟩
    · rintro ⟨m, row, paired, new, rfl⟩
      exact ⟨m, row, ⟨paired, new⟩, rfl⟩
  refine ⟨⟨List.Subset.refl _, List.Subset.refl _⟩, wellformed.committed member sound commits,
    ⟨remembers.sites, remembers.points⟩, fun found known => ?_, fun submission known => ?_, fun row stored => ?_⟩
  · cases known
    exact sound
  · obtain ⟨m, row, paired, _, rfl⟩ := (created submission).mp known
    have storedAs := List.forall₂_zip related paired
    have point : ⟨row.emissionPointId, site.id, m.emissionPoint⟩ ∈ db.siteEmissionPoints.rows :=
      sound _ _ storedAs.point
    rw [← show row.siteId = site.id from storedAs.site] at point
    exact ⟨⟨site, member, slug, storedAs.site.symm⟩, point, storedAs.recordedAt, storedAs.value⟩
  · rcases List.mem_append.mp stored with old | new
    · exact Or.inl old
    · obtain ⟨m, paired⟩ := Fallible.exists_zip_left related (admitted_subset new)
      exact Or.inr ⟨_, (created _).mpr ⟨m, row, paired, new, rfl⟩, rfl⟩

/-- The spec of one statement. -/
theorem advance_progresses (wellformed : Wellformed db) (remembers : Remembers db process)
    (sound : handling.Sound db)
    (advanced : handling.advance runtime db process = some (after, process', stage, submissions)) :
    Progresses db handling after process' stage submissions := by
  unfold Handling.advance at advanced
  unfold Handling.Sound at sound
  split at advanced
  · -- The site is remembered, not there, or learned.
    split at advanced
    · rename_i siteId timezone found
      cases advanced
      exact progresses_of_unrecorded wellformed (.refl db) remembers ⟨remembers.sites _ _ _ found, trivial⟩
    · split at advanced
      · cases advanced
        have unrecorded := insertAlert_unrecorded handling.call "unknown_site_in_consumer"
          [("site_slug", .text handling.message.siteSlug), ("batch_id", .text handling.message.batchId)] db
        exact progresses_of_unrecorded wellformed unrecorded
          (remembers.mono (unrecorded.sites ▸ List.Subset.refl _) unrecorded.points) nofun
      · rename_i site found
        cases advanced
        obtain ⟨member, slug⟩ := findSite_eq_some found
        refine progresses_of_unrecorded wellformed (.refl db) ⟨fun other id timezone held => ?_, remembers.points⟩
          ⟨⟨site, member, slug, rfl, rfl⟩, trivial⟩
        rcases InsertionMap.get?_set_eq_some held with ⟨rfl, same⟩ | ⟨_, old⟩
        · cases same
          exact ⟨site, member, slug, rfl, rfl⟩
        · exact remembers.sites other id timezone old
  · rename_i siteId timezone map stands
    simp only [stands] at sound
    obtain ⟨⟨site, member, slug, rfl, rfl⟩, right⟩ := sound
    simp only at advanced
    split at advanced
    · cases advanced
      apply progresses_of_unrecorded wellformed (.refl db) remembers
      intro found known
      cases known
      exact right
    · rename_i done
      cases advanced
      exact persist_progresses wellformed remembers member slug right done
  · rename_i siteId timezone resolving running stands
    simp only [stands] at sound
    obtain ⟨⟨points, nextId, cache, moved⟩, resolved, same⟩ := Option.map_eq_some_iff.mp advanced
    cases same
    obtain ⟨grows, sequenced, cached, right⟩ :=
      resolveStep_sound wellformed.sequenced remembers.points sound.2 resolved
    have unrecorded : Unrecorded db { db with siteEmissionPoints := points, nextEmissionPointId := nextId } :=
      ⟨rfl, rfl, rfl, rfl, rfl, rfl, grows, fun _ => sequenced⟩
    exact progresses_of_unrecorded wellformed unrecorded ⟨remembers.sites, cached⟩ ⟨sound.1, right⟩
  · cases advanced

/-! ## Whole runs -/

/-- Sites, points and what is known of them stay right when a step only adds to
the database. -/
theorem Attributed.moved (attributed : Attributed platform) (index : Nat)
    (progresses : Progresses platform.db handling after process' stage submissions) :
    Attributed ⟨after, platform.processes.set handling.process process',
      platform.calls.set index { handling with stage }, platform.submissions ++ submissions⟩ := by
  refine ⟨progresses.wellformed, fun other member => ?_, fun other member => ?_, fun row stored => ?_,
    fun submission member => ?_⟩
  · rcases List.mem_or_eq_of_mem_set member with old | rfl
    · exact (attributed.remembers other old).mono progresses.grows.sites progresses.grows.points
    · exact progresses.remembers
  · rcases List.mem_or_eq_of_mem_set member with old | rfl
    · exact (attributed.calls other old).mono progresses.grows
    · exact progresses.sound
  · rcases progresses.accounted row stored with old | ⟨submission, new, same⟩
    · obtain ⟨submission, known, same⟩ := attributed.accounted row old
      exact ⟨submission, List.mem_append_left _ known, same⟩
    · exact ⟨submission, List.mem_append_right _ new, same⟩
  · rcases List.mem_append.mp member with old | new
    · exact (attributed.right submission old).mono progresses.grows
    · exact progresses.right submission new

/-- The step lemma. -/
theorem step_attributed (attributed : Attributed platform) (stepped : step runtime platform action = some next) :
    Attributed next := by
  cases action with
  | createSite slug name timezone emissionLimit =>
    cases stepped
    have grows : Grows platform.db (createSite slug name timezone emissionLimit platform.db) :=
      ⟨IngestPipeline.createSite_grows slug name timezone emissionLimit platform.db, List.Subset.refl _⟩
    exact ⟨attributed.wellformed.createSite slug name timezone emissionLimit,
      fun process member => (attributed.remembers process member).mono grows.sites grows.points,
      fun handling member => (attributed.calls handling member).mono grows, attributed.accounted,
      fun submission member => (attributed.right submission member).mono grows⟩
  | start =>
    cases stepped
    refine ⟨attributed.wellformed, fun process member => ?_, attributed.calls, attributed.accounted,
      attributed.right⟩
    rcases List.mem_append.mp member with old | new
    · exact attributed.remembers process old
    · rw [List.mem_singleton.mp new]
      exact remembers_started _
  | receive process call message =>
    obtain ⟨_, same⟩ := Option.ite_none_right_eq_some.mp stepped
    cases same
    refine ⟨attributed.wellformed, attributed.remembers, fun handling member => ?_, attributed.accounted,
      attributed.right⟩
    rcases List.mem_append.mp member with old | new
    · exact attributed.calls handling old
    · rw [List.mem_singleton.mp new]
      trivial
  | advance index =>
    obtain ⟨handling, held, stepped⟩ := Option.bind_eq_some_iff.mp stepped
    obtain ⟨process, works, stepped⟩ := Option.bind_eq_some_iff.mp stepped
    obtain ⟨⟨after, process', stage, submissions⟩, advanced, same⟩ := Option.map_eq_some_iff.mp stepped
    cases same
    exact attributed.moved index (advance_progresses attributed.wellformed
      (attributed.remembers process (List.mem_of_getElem? works))
      (attributed.calls handling (List.mem_of_getElem? held)) advanced)
  | abort index =>
    obtain ⟨handling, held, same⟩ := Option.map_eq_some_iff.mp stepped
    cases same
    refine ⟨attributed.wellformed, attributed.remembers, fun other member => ?_, attributed.accounted,
      attributed.right⟩
    rcases List.mem_or_eq_of_mem_set member with old | rfl
    · exact attributed.calls other old
    · exact fun found known => resolved_sound (attributed.calls handling (List.mem_of_getElem? held)) known

theorem initial_attributed : Attributed initial :=
  ⟨IngestPipeline.initial_sound.wellformed, nofun, nofun, nofun, nofun⟩

theorem isPointOf_of_row {code : String} {id : Nat} (stored : ⟨id, siteId, code⟩ ∈ db.siteEmissionPoints.rows) :
    IsPointOf db siteId code id := by
  refine ⟨_, stored, rfl, fun other member => ⟨?_, fun same => same ▸ ⟨rfl, rfl⟩⟩⟩
  rintro ⟨site, ofCode⟩
  exact db.siteEmissionPoints.eq_of_key member stored (Prod.ext site ofCode)

/-- **Readings are attributed to the right emission point.** In every state of
every run each id in a cache or in a returned map belongs to the one row with
its site and code, each stored reading to the point that it was submitted for,
and a site's readings can be summed either way. -/
theorem readings_are_attributed (runtime : Runtime) (actions : List Action) (platform : Platform)
    (ran : run (step runtime) initial actions = some platform) :
    (∀ process ∈ platform.processes, ∀ siteId code id,
      process.emissionPointCache.get? (cacheKey siteId code) = some id → IsPointOf platform.db siteId code id) ∧
    (∀ handling ∈ platform.calls, ∀ siteId map, handling.stage.resolved = some (siteId, map) →
      ∀ code id, map.get? code = some id → IsPointOf platform.db siteId code id) ∧
    (∀ row ∈ platform.db.measurements.rows, ∃ submission ∈ platform.submissions, submission.row = row ∧
      IsPointOf platform.db row.siteId submission.reading.emissionPoint row.emissionPointId) ∧
    ∀ siteId, joinedMeasurements platform.db siteId = Conservation.siteReadings platform.db siteId := by
  have attributed := run_invariant Attributed (fun attributed stepped => step_attributed attributed stepped)
    initial_attributed ran
  refine ⟨?_, ?_, ?_, joinedMeasurements_eq attributed.wellformed⟩
  · intro process member siteId code id cached
    exact isPointOf_of_row ((attributed.remembers process member).points siteId code id cached)
  · intro handling member siteId map returned code id found
    exact isPointOf_of_row (resolved_sound (attributed.calls handling member) returned code id found)
  · intro row stored
    obtain ⟨submission, known, rfl⟩ := attributed.accounted row stored
    exact ⟨submission, known, rfl, isPointOf_of_row (attributed.right submission known).point⟩

private def stackReading (siteSlug batchId : String) : KafkaIngestMessage :=
  ⟨⟨batchId, siteSlug, [⟨"stack-1", 1704067200000, "1.500000"⟩]⟩, 1704067201000⟩

/-- Two processes resolve one new code for two sites in turns. The first call
dies with its map, and its process then stores a reading at the point that call
has left behind. -/
private def interleaved : List Action :=
  [.createSite "north-plant" "North Plant" "Africa/Abidjan" Numeric.zero,
    .createSite "south-plant" "South Plant" "Africa/Abidjan" Numeric.zero,
    .start, .start,
    .receive 0 (.healthy 1704067202000 1704067202000)
      (stackReading "north-plant" "3f2a6c1e-8d4b-4c7a-9e51-0b6d2f7a8c90"),
    .receive 1 (.healthy 1704067202000 1704067202000)
      (stackReading "south-plant" "3f2a6c1e-8d4b-4c7a-9e51-0b6d2f7a8c91"),
    .advance 0, .advance 1, .advance 0, .advance 1, .advance 0, .advance 1, .advance 1, .advance 0, .abort 0,
    .advance 1,
    .receive 0 (.healthy 1704067202000 1704067202000)
      (stackReading "north-plant" "3f2a6c1e-8d4b-4c7a-9e51-0b6d2f7a8c92"),
    .advance 2, .advance 2, .advance 2]

private theorem interleaved_ran : (run (step .exactUtc) initial interleaved).isSome := by decide +kernel

theorem interleaved_readings_are_attributed :
    ((run (step .exactUtc) initial interleaved).get interleaved_ran).db.measurements.rows.length = 2 ∧
      ∀ row ∈ ((run (step .exactUtc) initial interleaved).get interleaved_ran).db.measurements.rows,
        ∃ submission ∈ ((run (step .exactUtc) initial interleaved).get interleaved_ran).submissions,
          submission.row = row ∧
            IsPointOf ((run (step .exactUtc) initial interleaved).get interleaved_ran).db row.siteId
            submission.reading.emissionPoint row.emissionPointId :=
  ⟨by decide +kernel,
    (readings_are_attributed .exactUtc interleaved _ (Option.some_get interleaved_ran).symm).2.2.1⟩

/-! ## Calls that nothing interrupts

The pipeline handles a message in one step. Here that is a run of the call's
statements, ended where the call throws. -/

/-- One statement of a call, on the call, the database and the process. -/
def Advances (runtime : Runtime) (before after : Handling × Database × Process) : Prop :=
  ∃ stage submissions, before.1.advance runtime before.2.1 before.2.2 =
      some (after.2.1, after.2.2, stage, submissions) ∧ after.1 = { before.1 with stage }

variable {call : Call} {message : KafkaIngestMessage} {timezone : String} {index : Nat}

theorem resolve_advances {outcome : Except Failure (InsertionMap String Nat)}
    (resolved : resolveEmissionPoints call siteId message.measurements db process = (after, process', outcome)) :
    ∃ stage, Relation.ReflTransGen (Advances runtime)
      (⟨index, call, message, .resolving siteId timezone .lookup⟩, db, process)
        (⟨index, call, message, stage⟩, after, process') ∧
      ∀ map, outcome = .ok map → stage = .resolving siteId timezone (.returned map) := by
  unfold resolveEmissionPoints at resolved
  simp only at resolved
  generalize looked : lookupCodes process.emissionPointCache siteId (uniqueCodes message.measurements) = resolution
    at resolved
  have looks : Advances runtime (⟨index, call, message, .resolving siteId timezone .lookup⟩, db, process)
      (⟨index, call, message, .resolving siteId timezone (settled resolution .select)⟩, db, process) := by
    rw [← looked]
    exact ⟨_, [], rfl, rfl⟩
  split at resolved
  · rename_i nothing
    cases resolved
    rw [settled, if_pos nothing] at looks
    exact ⟨_, .single looks, fun map same => by cases same; rfl⟩
  rename_i missing
  rw [settled, if_neg missing] at looks
  split at resolved
  · cases resolved
    exact ⟨_, .refl, fun map failed => by cases failed⟩
  generalize selected : selectMissing db.siteEmissionPoints siteId resolution.missing = rows at resolved
  have selects : Advances runtime (⟨index, call, message, .resolving siteId timezone (.select resolution)⟩, db, process)
      (⟨index, call, message, .resolving siteId timezone (settled (resolution.learn rows) .insert)⟩, db,
        process.cacheRows siteId rows) := by
    rw [← selected]
    exact ⟨_, [], rfl, rfl⟩
  split at resolved
  · rename_i nothing
    cases resolved
    rw [settled, if_pos nothing] at selects
    exact ⟨_, .tail (.single looks) selects, fun map same => by cases same; rfl⟩
  rename_i stillMissing
  rw [settled, if_neg stillMissing] at selects
  split at resolved
  · cases resolved
    exact ⟨_, .tail (.single looks) selects, fun map failed => by cases failed⟩
  cases resolved
  exact ⟨_, .tail (.tail (.single looks) selects) ⟨_, [], rfl, rfl⟩, fun map same => by cases same; rfl⟩

/-- What `handle` does from the point where the site is known. -/
theorem handleFor_advances (db : Database) (process : Process) : ∃ stage,
    Relation.ReflTransGen (Advances runtime) (⟨index, call, message, .resolving siteId timezone .lookup⟩, db, process)
      (⟨index, call, message, stage⟩, (handleFor runtime call message siteId timezone db process).1,
        (handleFor runtime call message siteId timezone db process).2.1) := by
  generalize resolved : resolveEmissionPoints call siteId message.measurements db process = resolution
  obtain ⟨middle, learned, outcome⟩ := resolution
  obtain ⟨stage, advances, returns⟩ := @resolve_advances runtime _ _ _ _ _ call message timezone index _ resolved
  simp only [handleFor, resolved]
  cases outcome with
  | error failure => exact ⟨stage, advances⟩
  | ok map =>
    cases returns map rfl
    refine ⟨.ended (some (siteId, map)), advances.tail ?_⟩
    have alone : persist runtime call message siteId timezone
        (runtime.siteLocalYearMonth (instantOfMs call.now) timezone) map middle =
          Transaction.persist runtime ⟨call, message, siteId, timezone, map⟩ middle := rfl
    cases done : Transaction.persist runtime ⟨call, message, siteId, timezone, map⟩ middle with
    | error failure => exact ⟨_, [], by simp [Handling.advance, Handling.transaction, alone, done], rfl⟩
    | ok result =>
      exact ⟨_, submitted runtime ⟨call, message, siteId, timezone, map⟩ middle,
        by simp [Handling.advance, Handling.transaction, alone, done], rfl⟩

theorem handle_advances (db : Database) (process : Process) : ∃ stage,
    Relation.ReflTransGen (Advances runtime) (⟨index, call, message, .received⟩, db, process)
      (⟨index, call, message, stage⟩, (handle runtime call message db process).1,
        (handle runtime call message db process).2.1) := by
  unfold handle
  split
  · rename_i siteId timezone found
    obtain ⟨stage, advances⟩ := handleFor_advances db process
    exact ⟨stage, .head ⟨_, [], by simp [Handling.advance, found], rfl⟩ advances⟩
  · rename_i missing
    split
    · exact ⟨_, .refl⟩
    · split
      · rename_i absent
        exact ⟨.ended none, .single ⟨_, [], by simp [Handling.advance, missing, absent], rfl⟩⟩
      · rename_i site found
        obtain ⟨stage, advances⟩ := handleFor_advances db
          { process with siteIdCache := process.siteIdCache.set message.siteSlug (site.id, site.timezone) }
        exact ⟨stage, .head ⟨_, [], by simp [Handling.advance, missing, found], rfl⟩ advances⟩

/-- A call that goes on alone moves the platform's database and its process. -/
theorem advances_run {before after : Handling × Database × Process}
    (advances : Relation.ReflTransGen (Advances runtime) before after)
    (held : platform.calls[index]? = some before.1) (works : platform.processes[before.1.process]? = some before.2.2)
    (same : platform.db = before.2.1) :
    ∃ actions next, run (step runtime) platform actions = some next ∧ next.db = after.2.1 ∧
      next.processes = platform.processes.set before.1.process after.2.2 := by
  induction advances using Relation.ReflTransGen.head_induction_on generalizing platform with
  | refl =>
    obtain ⟨bound, stands⟩ := List.getElem?_eq_some_iff.mp works
    exact ⟨[], platform, rfl, same, by rw [← stands, List.set_getElem_self]⟩
  | head first rest ih =>
    rename_i before middle
    obtain ⟨stage, submissions, advanced, stands⟩ := first
    let moved : Platform := ⟨middle.2.1, platform.processes.set before.1.process middle.2.2,
      platform.calls.set index { before.1 with stage }, platform.submissions ++ submissions⟩
    have stepped : step runtime platform (.advance index) = some moved := by
      simp [step, held, works, same, advanced, moved]
    have sameProcess : middle.1.process = before.1.process := by rw [stands]
    have heldMoved : moved.calls[index]? = some middle.1 := by
      rw [stands, List.getElem?_set_self (List.getElem?_eq_some_iff.mp held).1]
    have worksMoved : moved.processes[middle.1.process]? = some middle.2.2 := by
      rw [sameProcess, List.getElem?_set_self (List.getElem?_eq_some_iff.mp works).1]
    obtain ⟨actions, next, ran, db, processes⟩ := ih heldMoved worksMoved rfl
    refine ⟨.advance index :: actions, next, run_cons.mpr ⟨moved, stepped, ran⟩, db, ?_⟩
    rw [processes, sameProcess, List.set_set]

/-- Every run of the pipeline is a run here, with the same database and the same
processes. -/
theorem pipeline_run_is_run {pipeline final : IngestPipeline.Pipeline} {chosen : List IngestPipeline.Action}
    (ran : run (IngestPipeline.step runtime) pipeline chosen = some final) (db : platform.db = pipeline.db)
    (processes : platform.processes = pipeline.processes) :
    ∃ actions next, run (step runtime) platform actions = some next ∧ next.db = final.db ∧
      next.processes = final.processes := by
  induction chosen generalizing platform pipeline with
  | nil =>
    cases ran
    exact ⟨[], platform, rfl, db, processes⟩
  | cons choice chosen ih =>
    obtain ⟨middle, stepped, ran⟩ := run_cons.mp ran
    have one : ∃ actions next, run (step runtime) platform actions = some next ∧ next.db = middle.db ∧
        next.processes = middle.processes := by
      cases choice with
      | createSite slug name timezone emissionLimit =>
        cases stepped
        exact ⟨[.createSite slug name timezone emissionLimit], _, rfl, by simp [db], processes⟩
      | start =>
        cases stepped
        exact ⟨[.start], _, rfl, db, by simp [processes]⟩
      | handle index call message =>
        obtain ⟨process, held, rfl⟩ := IngestPipeline.step_handle.mp stepped
        obtain ⟨stage, advances⟩ := @handle_advances runtime call message index platform.db process
        let received : Platform := { platform with calls := platform.calls ++ [⟨index, call, message, .received⟩] }
        have known : index < platform.processes.length := by
          rw [processes]
          exact (List.getElem?_eq_some_iff.mp held).1
        have accepted : step runtime platform (.receive index call message) = some received := if_pos known
        have works : received.processes[index]? = some process := by
          rw [← held, ← processes]
        have begins : received.calls[platform.calls.length]? = some ⟨index, call, message, .received⟩ :=
          List.getElem?_concat_length
        obtain ⟨actions, next, reached, sameDb, sameProcesses⟩ := advances_run advances begins works rfl
        refine ⟨.receive index call message :: actions, next, run_cons.mpr ⟨received, accepted, reached⟩, ?_, ?_⟩
        · rw [sameDb, db]
        · rw [sameProcesses, db, ← processes]
    obtain ⟨actions, next, reached, sameDb, sameProcesses⟩ := one
    obtain ⟨later, last, finished, same⟩ := ih ran sameDb sameProcesses
    exact ⟨actions ++ later, last, run_append.mpr ⟨next, reached, finished⟩, same⟩

end EmissionsPlatform.Attribution
