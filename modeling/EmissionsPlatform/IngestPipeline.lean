import EmissionsPlatform.HandlerEffects
import EmissionsPlatform.Foundation.Transition

/-! The write side of the platform: sites are created, consumer processes start,
and any of them handles any message at any time. A handled message commits, is
acknowledged without effect, or throws at any statement.

`Sound` is what holds in every state of every run: ids are unique, foreign keys
point somewhere, each reading belongs to the site of its emission point, and no
process remembers anything wrong. -/
namespace EmissionsPlatform.IngestPipeline
open Contracts UniqueIndex LeaseQueue EmissionPoints IngestHandler Transition
set_option autoImplicit false

structure Pipeline where
  db : Database
  processes : List Process
  deriving DecidableEq

inductive Action
  | createSite (slug name timezone : String) (emissionLimit : Numeric)
  /-- A consumer process starts, or one that died starts again. -/
  | start
  | handle (index : Nat) (call : Call) (message : KafkaIngestMessage)

/-- A slug that is taken leaves the table as it is. -/
def createSite (slug name timezone : String) (emissionLimit : Numeric) (db : Database) : Database :=
  { db with
    sites := db.sites.insertIgnoring [⟨db.nextSiteId, slug, name, timezone, emissionLimit⟩]
    nextSiteId := db.nextSiteId + 1 }

def step (runtime : Runtime) (pipeline : Pipeline) : Action → Option Pipeline
  | .createSite slug name timezone emissionLimit =>
    some { pipeline with db := createSite slug name timezone emissionLimit pipeline.db }
  | .start => some { pipeline with processes := pipeline.processes ++ [.started] }
  | .handle index call message =>
    match pipeline.processes[index]? with
    | none => none
    | some process =>
      let (db, process, _) := handle runtime call message pipeline.db process
      some ⟨db, pipeline.processes.set index process⟩

/-- The migrated database, and no process. -/
def initial : Pipeline := ⟨.migrated, []⟩

/-- What the tables' types leave open. -/
structure Wellformed (db : Database) : Prop where
  siteIds : (db.sites.rows.map Site.id).Nodup
  siteFresh : ∀ site ∈ db.sites.rows, site.id < db.nextSiteId
  sequenced : Sequenced db.siteEmissionPoints db.nextEmissionPointId
  /-- A reading's site exists. -/
  measured : ∀ row ∈ db.measurements.rows, ∃ site ∈ db.sites.rows, site.id = row.siteId
  /-- A reading's emission point is a point of its site. -/
  attributed : ∀ row ∈ db.measurements.rows,
    ∃ point ∈ db.siteEmissionPoints.rows, point.id = row.emissionPointId ∧ point.siteId = row.siteId
  /-- An increment's site exists. -/
  incremented : ∀ row ∈ db.metricsOutbox.rows, ∃ site ∈ db.sites.rows, site.id = row.data.siteId

structure Sound (pipeline : Pipeline) : Prop where
  wellformed : Wellformed pipeline.db
  remembers : ∀ process ∈ pipeline.processes, Remembers pipeline.db process

/-- What a step does to the database. -/
inductive StepEffect (runtime : Runtime) (db : Database) : Database → Prop
  | unchanged : StepEffect runtime db db
  | siteCreated (slug name timezone : String) (emissionLimit : Numeric) :
    StepEffect runtime db (createSite slug name timezone emissionLimit db)
  | handled (call : Call) (message : KafkaIngestMessage) (after : Database)
    (outcome : Except Failure IngestResult) (effect : Effect runtime call message db after outcome) :
    StepEffect runtime db after

variable {runtime : Runtime} {call : Call} {message : KafkaIngestMessage} {db after middle : Database}
variable {pipeline next : Pipeline} {action : Action} {actions : List Action}
variable {siteId : Nat} {timezone : String} {emissionPointMap : InsertionMap String Nat}
variable {rows : List Measurement} {increments : List MetricsIncrement}

/-- A created reading was submitted with the message. -/
theorem created_submitted
    (commits : Commits runtime message siteId timezone emissionPointMap rows increments db)
    {row : Measurement} (created : row ∈ db.measurements.created rows) :
    ∃ m ∈ message.measurements, StoredAs runtime siteId emissionPointMap message.batchId m row :=
  Fallible.exists_left commits.stored (admitted_subset created)

theorem Wellformed.unrecorded (wellformed : Wellformed db) (unrecorded : Unrecorded db after) :
    Wellformed after := by
  refine ⟨unrecorded.sites ▸ wellformed.siteIds, ?_, unrecorded.sequenced wellformed.sequenced, ?_, ?_, ?_⟩
  · rw [unrecorded.sites, unrecorded.nextSiteId]
    exact wellformed.siteFresh
  · rw [unrecorded.measurements, unrecorded.sites]
    exact wellformed.measured
  · rw [unrecorded.measurements]
    intro row member
    obtain ⟨point, stored, same⟩ := wellformed.attributed row member
    exact ⟨point, unrecorded.points stored, same⟩
  · rw [unrecorded.metricsOutbox, unrecorded.sites]
    exact wellformed.incremented

theorem Wellformed.committed {site : Site} (wellformed : Wellformed db) (member : site ∈ db.sites.rows)
    (sound : ResultSound db.siteEmissionPoints site.id emissionPointMap)
    (commits : Commits runtime message site.id site.timezone emissionPointMap rows increments db) :
    Wellformed (committed runtime call message site.id site.timezone rows increments db) := by
  refine ⟨wellformed.siteIds, wellformed.siteFresh, wellformed.sequenced, ?_, ?_, ?_⟩
  · intro row stored
    rcases List.mem_append.mp stored with old | new
    · exact wellformed.measured row old
    · obtain ⟨m, _, storedAs⟩ := created_submitted commits new
      exact ⟨site, member, storedAs.site.symm⟩
  · intro row stored
    rcases List.mem_append.mp stored with old | new
    · exact wellformed.attributed row old
    · obtain ⟨m, _, storedAs⟩ := created_submitted commits new
      exact ⟨_, sound _ _ storedAs.point, rfl, storedAs.site.symm⟩
  · intro row stored
    rcases List.mem_append.mp stored with old | new
    · exact wellformed.incremented row old
    · obtain ⟨sum, _, isIncrement⟩ := Fallible.exists_left commits.written (mem_stamp new).2.2.1
      exact ⟨site, member, isIncrement.site.symm⟩

theorem createSite_sites (slug name timezone : String) (emissionLimit : Numeric) (db : Database) :
    (createSite slug name timezone emissionLimit db).sites.rows = db.sites.rows ∨
      (createSite slug name timezone emissionLimit db).sites.rows =
        db.sites.rows ++ [⟨db.nextSiteId, slug, name, timezone, emissionLimit⟩] := by
  simp only [createSite, Table.insertIgnoring_rows, Table.created, admitted]
  split
  · exact Or.inl (List.append_nil _)
  · exact Or.inr rfl

theorem createSite_grows (slug name timezone : String) (emissionLimit : Numeric) (db : Database) :
    db.sites.rows ⊆ (createSite slug name timezone emissionLimit db).sites.rows :=
  fun _ member => List.mem_append_left _ member

theorem Wellformed.createSite (wellformed : Wellformed db) (slug name timezone : String)
    (emissionLimit : Numeric) : Wellformed (createSite slug name timezone emissionLimit db) := by
  have grows := createSite_grows slug name timezone emissionLimit db
  refine ⟨?_, ?_, wellformed.sequenced, fun row member => ?_, wellformed.attributed, fun row member => ?_⟩
  · rcases createSite_sites slug name timezone emissionLimit db with same | added
    · rw [same]
      exact wellformed.siteIds
    · rw [added, List.map_append]
      refine List.nodup_append.mpr ⟨wellformed.siteIds, List.nodup_singleton _, ?_⟩
      rintro old oldMember new newMember rfl
      obtain ⟨site, stored, rfl⟩ := List.mem_map.mp oldMember
      have := wellformed.siteFresh site stored
      simp only [List.map_cons, List.map_nil, List.mem_singleton] at newMember
      omega
  · intro site member
    rcases List.mem_append.mp member with old | new
    · exact Nat.lt_succ_of_lt (wellformed.siteFresh site old)
    · rw [List.mem_singleton.mp (admitted_subset new)]
      exact Nat.lt_succ_self _
  · obtain ⟨site, stored, same⟩ := wellformed.measured row member
    exact ⟨site, grows stored, same⟩
  · obtain ⟨site, stored, same⟩ := wellformed.incremented row member
    exact ⟨site, grows stored, same⟩

/-- A property of databases that outlives new sites, unrecorded changes and
commits outlives every step. -/
theorem StepEffect.preserves {property : Database → Prop} (effect : StepEffect runtime db after)
    (created : ∀ slug name timezone emissionLimit, property (createSite slug name timezone emissionLimit db))
    (unrecorded : ∀ {middle}, Unrecorded db middle → property middle)
    (persisted : ∀ {call message middle emissionPointMap rows increments} {site : Site}, Unrecorded db middle →
      site ∈ middle.sites.rows → site.slug = message.siteSlug →
        ResultSound middle.siteEmissionPoints site.id emissionPointMap →
          Commits runtime message site.id site.timezone emissionPointMap rows increments middle →
            property (committed runtime call message site.id site.timezone rows increments middle)) :
    property after := by
  cases effect with
  | unchanged => exact unrecorded (.refl db)
  | siteCreated slug name timezone emissionLimit => exact created slug name timezone emissionLimit
  | handled call message after outcome effect =>
    cases effect with
    | threw _ failure changed => exact unrecorded changed
    | unknown _ absent changed => exact unrecorded changed
    | persisted site member slug middle changed emissionPointMap sound rows increments commits =>
      exact persisted changed (changed.sites ▸ member) slug sound commits

theorem StepEffect.wellformed (effect : StepEffect runtime db after) (wellformed : Wellformed db) :
    Wellformed after :=
  effect.preserves wellformed.createSite wellformed.unrecorded fun unrecorded member _ sound commits =>
    (wellformed.unrecorded unrecorded).committed member sound commits

/-- Sites and points are only added. -/
theorem effect_grows {outcome : Except Failure IngestResult} (effect : Effect runtime call message db after outcome) :
    after.sites = db.sites ∧ db.siteEmissionPoints.rows ⊆ after.siteEmissionPoints.rows := by
  cases effect with
  | threw _ failure unrecorded => exact ⟨unrecorded.sites, unrecorded.points⟩
  | unknown _ absent unrecorded => exact ⟨unrecorded.sites, unrecorded.points⟩
  | persisted site member slug middle unrecorded emissionPointMap sound rows increments commits =>
    exact ⟨unrecorded.sites, unrecorded.points⟩

theorem step_handle {index : Nat} :
    step runtime pipeline (.handle index call message) = some next ↔
      ∃ process, pipeline.processes[index]? = some process ∧
        next = ⟨(handle runtime call message pipeline.db process).1,
          pipeline.processes.set index (handle runtime call message pipeline.db process).2.1⟩ := by
  simp only [step]
  split
  · rename_i missing
    simp [missing]
  · rename_i process held
    simp [held, eq_comm]

/-- What a handled message does to the database, and how the call ends. -/
theorem handle_effect (runtime : Runtime) (call : Call) (message : KafkaIngestMessage) {process : Process}
    {index : Nat} (sound : Sound pipeline)
    (held : pipeline.processes[index]? = some process) :
    Effect runtime call message pipeline.db (handle runtime call message pipeline.db process).1
        (handle runtime call message pipeline.db process).2.2 ∧
      Remembers (handle runtime call message pipeline.db process).1
        (handle runtime call message pipeline.db process).2.1 :=
  handle_cases (sound.remembers process (List.mem_of_getElem? held)) rfl

/-- The step lemma: what a step does to the database, and that it keeps the
pipeline sound. -/
theorem step_effect (sound : Sound pipeline) (stepped : step runtime pipeline action = some next) :
    StepEffect runtime pipeline.db next.db ∧ Sound next := by
  cases action with
  | createSite slug name timezone emissionLimit =>
    cases stepped
    refine ⟨.siteCreated slug name timezone emissionLimit, ?_, fun process member => ?_⟩
    · exact sound.wellformed.createSite slug name timezone emissionLimit
    · exact (sound.remembers process member).mono (createSite_grows _ _ _ _ _) fun _ member => member
  | start =>
    cases stepped
    refine ⟨.unchanged, sound.wellformed, fun process member => ?_⟩
    rcases List.mem_append.mp member with old | new
    · exact sound.remembers process old
    · rw [List.mem_singleton.mp new]
      exact remembers_started _
  | handle index call message =>
    obtain ⟨process, held, rfl⟩ := step_handle.mp stepped
    obtain ⟨effect, remembers⟩ := handle_effect runtime call message sound held
    have stepEffect : StepEffect runtime pipeline.db _ := .handled call message _ _ effect
    obtain ⟨sites, points⟩ := effect_grows effect
    refine ⟨stepEffect, stepEffect.wellformed sound.wellformed, fun other member => ?_⟩
    rcases List.mem_or_eq_of_mem_set member with old | rfl
    · exact (sound.remembers other old).mono (sites ▸ fun _ member => member) points
    · exact remembers

theorem initial_sound : Sound initial :=
  ⟨⟨List.nodup_nil, nofun, ⟨List.nodup_nil, nofun⟩, nofun, nofun, nofun⟩, nofun⟩

theorem run_sound (ran : run (step runtime) initial actions = some next) : Sound next :=
  run_invariant Sound (fun sound stepped => (step_effect sound stepped).2) initial_sound ran

/-- The run rule: what every step effect preserves holds of every reachable
database. -/
theorem run_preserves {property : Database → Prop} (ran : run (step runtime) initial actions = some next)
    (preserved : ∀ {db after}, Wellformed db → StepEffect runtime db after → property db → property after)
    (start : property initial.db) : property next.db := by
  have kept := run_invariant (fun pipeline => Sound pipeline ∧ property pipeline.db)
    (fun kept stepped =>
      have ⟨effect, sound⟩ := step_effect kept.1 stepped
      ⟨sound, preserved kept.1.wellformed effect kept.2⟩)
    ⟨initial_sound, start⟩ ran
  exact kept.2

end EmissionsPlatform.IngestPipeline
