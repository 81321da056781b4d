import EmissionsPlatform.ReportedTotal

/-! One read of the metrics among commits of the ingest consumers. Every
statement of its transaction sees the latest commits, so the closed months and
the current month are summed over two states of the database.

Both sums only grow. Hence the pair a read returns is the pair of one state
unless a commit between the two statements adds to the current month when that
commit, or an earlier one between them, has added to the closed months:
`one_state_iff`. -/
namespace EmissionsPlatform.SnapshotRead
open Contracts UniqueIndex IngestHandler Conservation MetricsService ReportedTotal Transition
open IngestPipeline (Pipeline Wellformed StepEffect)
set_option autoImplicit false

/-- The sum of the closed months, as the read asks for it at `now`. -/
def priorMonths (runtime : Runtime) (site : Site) (now : Int) (db : Database) : SqlNumeric :=
  priorTotal runtime db site (runtime.siteLocalYearMonth now site.timezone)

/-- The sum of the current month. -/
def currentMonth (runtime : Runtime) (site : Site) (now : Int) (db : Database) : SqlNumeric :=
  currentMonthTotal db site.id (currentMonthStart runtime site.timezone now)

/-- Where a read is. `now` is fixed when its transaction begins, and with it
the month boundaries, which no commit can change. `priorAt` and `currentAt`
are the states its two sums were taken over. -/
inductive Stage
  | idle
  | begun (slug : String) (now : Int)
  | selected (site : Site) (now : Int)
  | summed (site : Site) (now : Int) (priorTotal : String) (priorAt : Database)
  | returned (site : Site) (now : Int) (metrics : SiteMetrics) (priorAt currentAt : Database)
  | notFound
  deriving DecidableEq

/-- The read has begun and not ended. -/
def Stage.isOpen : Stage → Bool
  | .begun _ _ | .selected _ _ | .summed _ _ _ _ => true
  | .idle | .returned _ _ _ _ _ | .notFound => false

/-- The next statement of the read, on the latest commits. -/
def advance (runtime : Runtime) (db : Database) : Stage → Option Stage
  | .begun slug now =>
    some (match selectSite db slug with
      | none => .notFound
      | some site => .selected site now)
  | .selected site now => some (.summed site now (priorMonths runtime site now db).text db)
  | .summed site now priorTotal priorAt =>
    some (.returned site now (respond site priorTotal (currentMonth runtime site now db).text now) priorAt db)
  | .idle | .returned _ _ _ _ _ | .notFound => none

structure State where
  pipeline : Pipeline
  stage : Stage
  /-- The states of the database during the read, oldest first. -/
  during : List Database
  deriving DecidableEq

inductive Action
  | ingest (action : IngestPipeline.Action)
  | begin (slug : String) (now : Int)
  | statement

def step (runtime : Runtime) (state : State) : Action → Option State
  | .ingest action =>
    (IngestPipeline.step runtime state.pipeline action).map fun pipeline =>
      { state with
        pipeline
        during := if state.stage.isOpen then state.during ++ [pipeline.db] else state.during }
  | .begin slug now =>
    match state.stage with
    | .idle => some ⟨state.pipeline, .begun slug now, [state.pipeline.db]⟩
    | _ => none
  | .statement => (advance runtime state.pipeline.db state.stage).map fun stage => { state with stage }

def initial : State := ⟨IngestPipeline.initial, .idle, []⟩

/-- The site and the moment of a read, and what it returned. -/
def State.answer (state : State) : Option (Site × Int × SiteMetrics) :=
  match state.stage with
  | .returned site now metrics _ _ => some (site, now, metrics)
  | _ => none

/-- The returned pair is the pair of one state that existed during the read. -/
def OneState (runtime : Runtime) (state : State) : Prop :=
  ∀ answer ∈ state.answer, ∃ db ∈ state.during,
    answer.2.2.priorMonthsTotalKgCo2e = formatNumeric (priorMonths runtime answer.1 answer.2.1 db).text ∧
      answer.2.2.currentMonthToDateKgCo2e = formatNumeric (currentMonth runtime answer.1 answer.2.1 db).text

instance (runtime : Runtime) (state : State) : Decidable (OneState runtime state) :=
  inferInstanceAs (Decidable (∀ answer ∈ _, ∃ db ∈ _, _ ∧ _))

/-- The readings of closed months that have a row in the monthly table. -/
def closedReadings (runtime : Runtime) (site : Site) (now : Int) (db : Database) : List Measurement :=
  (siteReadings db site.id).filter fun row =>
    monthOf runtime site.timezone row ∈ countedMonths db site.id (runtime.siteLocalYearMonth now site.timezone)

/-- The readings of the current month. -/
def currentReadings (runtime : Runtime) (site : Site) (now : Int) (db : Database) : List Measurement :=
  (siteReadings db site.id).filter fun row => currentMonthStart runtime site.timezone now ≤ row.recordedAt

/-- Some positive reading is among the later ones and not among the earlier. -/
def Adds (before after : List Measurement) : Prop := ∃ row ∈ after, 0 < row.value.millionths ∧ row ∉ before

instance (before after : List Measurement) : Decidable (Adds before after) :=
  inferInstanceAs (Decidable (∃ row ∈ _, _ ∧ _))

/-- A commit between the two sums does not add to the current month when the
closed months have been added to since the first of them. -/
def AddsInOrder (runtime : Runtime) (before after : Database) : Stage → Prop
  | .summed site now _ priorAt =>
    Adds (closedReadings runtime site now priorAt) (closedReadings runtime site now after) →
      ¬Adds (currentReadings runtime site now before) (currentReadings runtime site now after)
  | _ => True

instance (runtime : Runtime) (before after : Database) : ∀ stage, Decidable (AddsInOrder runtime before after stage)
  | .summed _ _ _ _ => inferInstanceAs (Decidable (_ → ¬_))
  | .idle | .begun _ _ | .selected _ _ | .returned _ _ _ _ _ | .notFound => inferInstanceAs (Decidable True)

def Orderly (runtime : Runtime) (state : State) : Action → Prop
  | .ingest action => ∀ next ∈ IngestPipeline.step runtime state.pipeline action,
      AddsInOrder runtime state.pipeline.db next.db state.stage
  | _ => True

instance (runtime : Runtime) (state : State) : ∀ action, Decidable (Orderly runtime state action)
  | .ingest _ => inferInstanceAs (Decidable (∀ next ∈ _, AddsInOrder _ _ _ _))
  | .begin _ _ | .statement => inferInstanceAs (Decidable True)

/-! ## Both sums grow -/

variable {runtime : Runtime} {db later after : Database} {site : Site} {now : Int} {state next : State}
variable {action : Action} {actions : List Action} {rows more : List Measurement}

/-- Readings and monthly rows are only added. -/
structure Grows (before after : Database) : Prop where
  measurements : before.measurements.rows ⊆ after.measurements.rows
  months : ∀ key, (before.siteMonthlyEmissions.get? key).isSome → (after.siteMonthlyEmissions.get? key).isSome

theorem Grows.refl (db : Database) : Grows db db := ⟨List.Subset.refl _, fun _ => id⟩

theorem Grows.trans (first : Grows db later) (second : Grows later after) : Grows db after :=
  ⟨List.Subset.trans first.measurements second.measurements,
    fun key held => second.months key (first.months key held)⟩

theorem grows_unrecorded (unrecorded : Unrecorded db after) : Grows db after :=
  ⟨unrecorded.measurements ▸ List.Subset.refl _, fun key => by rw [unrecorded.siteMonthlyEmissions]; exact id⟩

theorem grows_committed {call : Call} {message : KafkaIngestMessage} {siteId : Nat} {timezone : String}
    {increments : List MetricsIncrement} :
    Grows db (committed runtime call message siteId timezone rows increments db) := by
  refine ⟨List.subset_append_left _ _, fun key held => ?_⟩
  simp only [committed, get?_foldl_flagStale]
  split
  · rfl
  · exact held

theorem StepEffect.grows (effect : StepEffect runtime db after) : Grows db after :=
  effect.preserves (fun _ _ _ _ => ⟨List.Subset.refl _, fun _ => id⟩) grows_unrecorded
    fun unrecorded _ _ _ _ => (grows_unrecorded unrecorded).trans grows_committed

/-- A state the sums can be read from. -/
structure Readable (db : Database) : Prop where
  wellformed : Wellformed db
  allStale : AllStale db

theorem siteReadings_nodup (db : Database) (siteId : Nat) : (siteReadings db siteId).Nodup :=
  (List.Nodup.of_map _ db.measurements.nodup).filter _

theorem Grows.siteReadings (grows : Grows db after) (siteId : Nat) :
    siteReadings db siteId ⊆ siteReadings after siteId := by
  intro row member
  obtain ⟨stored, ours⟩ := List.mem_filter.mp member
  exact List.mem_filter.mpr ⟨grows.measurements stored, ours⟩

theorem Grows.closedReadings (grows : Grows db after) :
    closedReadings runtime site now db ⊆ closedReadings runtime site now after := by
  intro row member
  obtain ⟨stored, counted⟩ := List.mem_filter.mp member
  obtain ⟨closed, held⟩ := mem_countedMonths.mp (of_decide_eq_true counted)
  refine List.mem_filter.mpr ⟨grows.siteReadings site.id stored, decide_eq_true ?_⟩
  exact mem_countedMonths.mpr ⟨closed, grows.months _ held⟩

theorem Grows.currentReadings (grows : Grows db after) :
    currentReadings runtime site now db ⊆ currentReadings runtime site now after := by
  intro row member
  obtain ⟨stored, started⟩ := List.mem_filter.mp member
  exact List.mem_filter.mpr ⟨grows.siteReadings site.id stored, started⟩

/-- More readings make more of a sum exactly when a positive one is added. -/
theorem totalKg_lt_iff (nodup : rows.Nodup) (moreNodup : more.Nodup) (subset : rows ⊆ more) :
    totalKg rows ≤ totalKg more ∧ (totalKg rows < totalKg more ↔ Adds rows more) := by
  have same : (more.filter fun row => row ∈ rows).Perm rows := by
    apply (List.perm_ext_iff_of_nodup (moreNodup.filter _) nodup).mpr
    intro row
    simpa using fun member => subset member
  have kept : totalKg (more.filter fun row => row ∈ rows) = totalKg rows := (same.map _).sum_eq
  have parts := totalKg_filter_add (fun row => row ∈ rows) more
  refine ⟨by omega, ?_⟩
  have added : Adds rows more ↔ ¬totalKg (more.filter fun row => ¬row ∈ rows) = 0 := by
    rw [totalKg_eq_zero_iff]
    simp only [Adds, List.mem_filter, decide_eq_true_eq, not_forall, exists_prop, Nat.pos_iff_ne_zero]
    exact ⟨fun ⟨row, member, positive, fresh⟩ => ⟨row, ⟨member, fresh⟩, positive⟩,
      fun ⟨row, ⟨member, fresh⟩, positive⟩ => ⟨row, member, positive, fresh⟩⟩
  rw [added]
  omega

/-- The closed months' sum, by the readings it covers. -/
theorem priorMonths_grows (runtime : Runtime) (site : Site) (now : Int) (readable : Readable db)
    (readableAfter : Readable after) (grows : Grows db after) :
    (priorMonths runtime site now db).millionths ≤ (priorMonths runtime site now after).millionths ∧
      ((priorMonths runtime site now db).millionths < (priorMonths runtime site now after).millionths ↔
        Adds (closedReadings runtime site now db) (closedReadings runtime site now after)) := by
  rw [priorMonths, priorMonths, priorTotal_eq readable.wellformed readable.allStale,
    priorTotal_eq readableAfter.wellformed readableAfter.allStale]
  exact totalKg_lt_iff ((siteReadings_nodup db site.id).filter _) ((siteReadings_nodup after site.id).filter _)
    grows.closedReadings

theorem currentMonth_grows (runtime : Runtime) (site : Site) (now : Int) (readable : Readable db)
    (readableAfter : Readable after) (grows : Grows db after) :
    (currentMonth runtime site now db).millionths ≤ (currentMonth runtime site now after).millionths ∧
      ((currentMonth runtime site now db).millionths < (currentMonth runtime site now after).millionths ↔
        Adds (currentReadings runtime site now db) (currentReadings runtime site now after)) := by
  rw [currentMonth, currentMonth, currentMonthTotal_eq readable.wellformed,
    currentMonthTotal_eq readableAfter.wellformed]
  exact totalKg_lt_iff ((siteReadings_nodup db site.id).filter _) ((siteReadings_nodup after site.id).filter _)
    grows.currentReadings

/-! ## The states a read has seen -/

structure Reading (runtime : Runtime) (state : State) : Prop where
  sound : IngestPipeline.Sound state.pipeline
  allStale : AllStale state.pipeline.db
  readable : ∀ db ∈ state.during, Readable db
  latest : state.stage.isOpen = true → state.pipeline.db ∈ state.during ∧
    ∀ db ∈ state.during, Grows db state.pipeline.db
  summed : ∀ site now priorTotal priorAt, state.stage = .summed site now priorTotal priorAt →
    priorAt ∈ state.during ∧ priorTotal = (priorMonths runtime site now priorAt).text
  returned : ∀ site now metrics priorAt currentAt, state.stage = .returned site now metrics priorAt currentAt →
    metrics = respond site (priorMonths runtime site now priorAt).text
      (currentMonth runtime site now currentAt).text now

theorem Reading.readableNow (reading : Reading runtime state) : Readable state.pipeline.db :=
  ⟨reading.sound.wellformed, reading.allStale⟩

theorem initial_reading : Reading runtime initial :=
  ⟨IngestPipeline.initial_sound, nofun, nofun, nofun, nofun, nofun⟩

theorem step_ingest {chosen : IngestPipeline.Action} (stepped : step runtime state (.ingest chosen) = some next) :
    ∃ pipeline, IngestPipeline.step runtime state.pipeline chosen = some pipeline ∧
      next = ⟨pipeline, state.stage,
        if state.stage.isOpen then state.during ++ [pipeline.db] else state.during⟩ := by
  obtain ⟨pipeline, advanced, rfl⟩ := Option.map_eq_some_iff.mp stepped
  exact ⟨pipeline, advanced, rfl⟩

theorem Reading.ingest (reading : Reading runtime state) {chosen : IngestPipeline.Action} {pipeline : Pipeline}
    (advanced : IngestPipeline.step runtime state.pipeline chosen = some pipeline) :
    Readable pipeline.db ∧ Grows state.pipeline.db pipeline.db ∧ Reading runtime ⟨pipeline, state.stage,
      if state.stage.isOpen then state.during ++ [pipeline.db] else state.during⟩ := by
  obtain ⟨effect, sound⟩ := IngestPipeline.step_effect reading.sound advanced
  have grows := StepEffect.grows effect
  have readable : Readable pipeline.db := ⟨sound.wellformed, StepEffect.allStale effect reading.allStale⟩
  refine ⟨readable, grows, sound, readable.allStale, fun db member => ?_, fun isOpen => ?_, ?_, reading.returned⟩
  · simp only at member
    split at member
    · rcases List.mem_append.mp member with old | new
      · exact reading.readable db old
      · rw [List.mem_singleton.mp new]
        exact readable
    · exact reading.readable db member
  · simp only at isOpen
    simp only [isOpen, ↓reduceIte]
    refine ⟨List.mem_append_right _ (List.mem_singleton_self _), fun db member => ?_⟩
    rcases List.mem_append.mp member with old | new
    · exact ((reading.latest isOpen).2 db old).trans grows
    · rw [List.mem_singleton.mp new]
      exact .refl _
  · intro site now priorTotal priorAt atStage
    obtain ⟨member, text⟩ := reading.summed site now priorTotal priorAt atStage
    simp only at atStage
    simp only [atStage, Stage.isOpen, ↓reduceIte]
    exact ⟨List.mem_append_left _ member, text⟩

/-- The three statements of a read. -/
theorem step_statement (stepped : step runtime state .statement = some next) :
    (∃ slug now, state.stage = .begun slug now ∧
        (next = { state with stage := .notFound } ∨ ∃ site, next = { state with stage := .selected site now })) ∨
      (∃ site now, state.stage = .selected site now ∧ next = { state with
        stage := .summed site now (priorMonths runtime site now state.pipeline.db).text state.pipeline.db }) ∨
      ∃ site now priorTotal priorAt, state.stage = .summed site now priorTotal priorAt ∧ next = { state with
        stage := .returned site now (respond site priorTotal (currentMonth runtime site now state.pipeline.db).text now)
          priorAt state.pipeline.db } := by
  obtain ⟨stage, advanced, rfl⟩ := Option.map_eq_some_iff.mp stepped
  cases atStage : state.stage with
  | begun slug now =>
    rw [atStage] at advanced
    cases advanced
    refine Or.inl ⟨slug, now, rfl, ?_⟩
    cases selectSite state.pipeline.db slug with
    | none => exact Or.inl rfl
    | some site => exact Or.inr ⟨site, rfl⟩
  | selected site now =>
    rw [atStage] at advanced
    cases advanced
    exact Or.inr (Or.inl ⟨site, now, rfl, rfl⟩)
  | summed site now priorTotal priorAt =>
    rw [atStage] at advanced
    cases advanced
    exact Or.inr (Or.inr ⟨site, now, priorTotal, priorAt, rfl, rfl⟩)
  | idle | returned | notFound =>
    rw [atStage] at advanced
    cases advanced

theorem step_reading (reading : Reading runtime state) (stepped : step runtime state action = some next) :
    Reading runtime next := by
  cases action with
  | ingest chosen =>
    obtain ⟨pipeline, advanced, rfl⟩ := step_ingest stepped
    exact (reading.ingest advanced).2.2
  | begin slug now =>
    simp only [step] at stepped
    split at stepped
    · cases stepped
      refine ⟨reading.sound, reading.allStale, ?_, fun _ => ⟨List.mem_singleton_self _, ?_⟩, nofun, nofun⟩
      · intro db member
        rw [List.mem_singleton.mp member]
        exact reading.readableNow
      · intro db member
        rw [List.mem_singleton.mp member]
        exact .refl _
    · cases stepped
  | statement =>
    rcases step_statement stepped with ⟨slug, now, atStage, missing | ⟨site, found⟩⟩ | ⟨site, now, atStage, rfl⟩ |
      ⟨site, now, priorTotal, priorAt, atStage, rfl⟩
    · subst missing
      exact ⟨reading.sound, reading.allStale, reading.readable, nofun, nofun, nofun⟩
    · subst found
      have latest := reading.latest (by rw [atStage]; rfl)
      exact ⟨reading.sound, reading.allStale, reading.readable, fun _ => latest, nofun, nofun⟩
    · have latest := reading.latest (by rw [atStage]; rfl)
      refine ⟨reading.sound, reading.allStale, reading.readable, fun _ => latest, ?_, nofun⟩
      intro _ _ _ _ same
      cases same
      exact ⟨latest.1, rfl⟩
    · refine ⟨reading.sound, reading.allStale, reading.readable, nofun, nofun, ?_⟩
      intro _ _ _ _ _ same
      cases same
      rw [(reading.summed site now priorTotal priorAt atStage).2]

/-- What a read has summed: the site, its moment, the state the closed months
were summed over, and the state the current month was or would be summed over. -/
def State.frame (state : State) : Option (Site × Int × Database × Database) :=
  match state.stage with
  | .summed site now _ priorAt => some (site, now, priorAt, state.pipeline.db)
  | .returned site now _ priorAt currentAt => some (site, now, priorAt, currentAt)
  | _ => none

/-- What a step does to the frame of a read: nothing, or it takes the first of
the two sums, or it is a commit between them. -/
inductive FrameStep (runtime : Runtime) (state : State) (action : Action) (next : State) : Prop
  | none (before : state.frame = none) (after : next.frame = none) (orderly : Orderly runtime state action)
  | same (frame : next.frame = state.frame) (during : next.during = state.during)
    (orderly : Orderly runtime state action)
  | first (site : Site) (now : Int) (latest : state.pipeline.db ∈ state.during)
    (frame : next.frame = some (site, now, state.pipeline.db, state.pipeline.db))
    (before : state.frame = none) (during : next.during = state.during) (orderly : Orderly runtime state action)
  | commit (site : Site) (now : Int) (priorAt : Database)
    (before : state.frame = some (site, now, priorAt, state.pipeline.db))
    (frame : next.frame = some (site, now, priorAt, next.pipeline.db))
    (during : next.during = state.during ++ [next.pipeline.db])
    (prior : priorAt ∈ state.during) (latest : ∀ db ∈ state.during, Grows db state.pipeline.db)
    (grows : Grows state.pipeline.db next.pipeline.db) (readable : Readable next.pipeline.db)
    (orderly : Orderly runtime state action ↔
      (Adds (closedReadings runtime site now priorAt) (closedReadings runtime site now next.pipeline.db) →
        ¬Adds (currentReadings runtime site now state.pipeline.db)
          (currentReadings runtime site now next.pipeline.db)))

theorem step_frame (reading : Reading runtime state) (stepped : step runtime state action = some next) :
    FrameStep runtime state action next := by
  cases action with
  | ingest chosen =>
    obtain ⟨pipeline, advanced, rfl⟩ := step_ingest stepped
    cases atStage : state.stage with
    | idle | begun slug now | selected site now | notFound =>
      exact .none (by rw [State.frame, atStage]) rfl (by simp [Orderly, atStage, AddsInOrder])
    | returned site now metrics priorAt currentAt =>
      exact .same (by simp [State.frame, atStage]) rfl (by simp [Orderly, atStage, AddsInOrder])
    | summed site now priorTotal priorAt =>
      obtain ⟨readable, grows, -⟩ := reading.ingest advanced
      have isOpen : state.stage.isOpen = true := by rw [atStage]; rfl
      refine .commit site now priorAt (by rw [State.frame, atStage]) rfl rfl
        (reading.summed site now priorTotal priorAt atStage).1 (reading.latest isOpen).2 grows readable ?_
      simp [Orderly, advanced, atStage, AddsInOrder]
  | begin slug now =>
    simp only [step] at stepped
    split at stepped
    · rename_i atStage
      cases stepped
      exact .none (by rw [State.frame, atStage]) rfl trivial
    · cases stepped
  | statement =>
    rcases step_statement stepped with ⟨slug, now, atStage, missing | ⟨site, found⟩⟩ | ⟨site, now, atStage, rfl⟩ |
      ⟨site, now, priorTotal, priorAt, atStage, rfl⟩
    · subst missing
      exact .none (by rw [State.frame, atStage]) rfl trivial
    · subst found
      exact .none (by rw [State.frame, atStage]) rfl trivial
    · exact .first site now (reading.latest (by rw [atStage]; rfl)).1 rfl (by rw [State.frame, atStage]) rfl trivial
    · exact .same (by simp [State.frame, atStage]) rfl trivial

/-! ## One state, or none -/

/-- One of the states seen has both sums. -/
def Aligned (runtime : Runtime) (state : State) : Prop :=
  ∀ site now priorAt latest, state.frame = some (site, now, priorAt, latest) → ∃ db ∈ state.during,
    (priorMonths runtime site now db).millionths = (priorMonths runtime site now priorAt).millionths ∧
      (currentMonth runtime site now db).millionths = (currentMonth runtime site now latest).millionths

/-- Every state seen has too little of the current month or too much of the
closed ones. -/
def Skewed (runtime : Runtime) (state : State) : Prop :=
  ∃ site now priorAt latest, state.frame = some (site, now, priorAt, latest) ∧
    (priorMonths runtime site now priorAt).millionths < (priorMonths runtime site now latest).millionths ∧
      ∀ db ∈ state.during,
        (currentMonth runtime site now db).millionths < (currentMonth runtime site now latest).millionths ∨
          (priorMonths runtime site now priorAt).millionths < (priorMonths runtime site now db).millionths

theorem Skewed.not_aligned (skewed : Skewed runtime state) : ¬Aligned runtime state := by
  intro aligned
  obtain ⟨site, now, priorAt, latest, frame, -, every⟩ := skewed
  obtain ⟨db, member, samePrior, sameCurrent⟩ := aligned site now priorAt latest frame
  rcases every db member with less | more <;> omega

/-- The step lemma of an orderly read. -/
theorem step_aligned (reading : Reading runtime state) (aligned : Aligned runtime state)
    (orderly : Orderly runtime state action) (stepped : step runtime state action = some next) :
    Aligned runtime next := by
  intro site now priorAt latest framed
  cases step_frame reading stepped with
  | none before after _ => rw [after] at framed; cases framed
  | same frame during _ =>
    rw [during]
    exact aligned site now priorAt latest (frame ▸ framed)
  | first site' now' member frame before during _ =>
    rw [frame] at framed
    cases framed
    exact ⟨_, during ▸ member, rfl, rfl⟩
  | commit site' now' priorAt' before frame during prior latest' grows readable inOrder =>
    rw [frame] at framed
    cases framed
    rw [during]
    have priorGrows := priorMonths_grows runtime site now (reading.readable priorAt prior) readable
      ((latest' priorAt prior).trans grows)
    have currentGrows := currentMonth_grows runtime site now reading.readableNow readable grows
    by_cases added : Adds (currentReadings runtime site now state.pipeline.db)
        (currentReadings runtime site now next.pipeline.db)
    · -- The closed months are still what was summed, so the new state has both sums.
      have kept : ¬Adds (closedReadings runtime site now priorAt)
          (closedReadings runtime site now next.pipeline.db) := fun closed => inOrder.mp orderly closed added
      rw [← priorGrows.2] at kept
      exact ⟨_, List.mem_append_right _ (List.mem_singleton_self _), by omega, rfl⟩
    · rw [← currentGrows.2] at added
      obtain ⟨db, member, samePrior, sameCurrent⟩ := aligned site now priorAt _ before
      exact ⟨db, List.mem_append_left _ member, samePrior, by omega⟩

/-- A disorderly commit leaves no state that has both sums. -/
theorem skewed_of_disorderly (reading : Reading runtime state) (disorderly : ¬Orderly runtime state action)
    (stepped : step runtime state action = some next) : Skewed runtime next := by
  cases step_frame reading stepped with
  | none before after orderly => exact absurd orderly disorderly
  | same frame during orderly => exact absurd orderly disorderly
  | first site now member frame before during orderly => exact absurd orderly disorderly
  | commit site now priorAt before frame during prior latest grows readable inOrder =>
    rw [inOrder, Classical.not_imp, not_not, ← (priorMonths_grows runtime site now (reading.readable priorAt prior)
      readable ((latest priorAt prior).trans grows)).2,
      ← (currentMonth_grows runtime site now reading.readableNow readable grows).2] at disorderly
    obtain ⟨closed, current⟩ := disorderly
    refine ⟨site, now, priorAt, _, frame, closed, fun db member => ?_⟩
    rw [during] at member
    rcases List.mem_append.mp member with old | new
    · have below := (currentMonth_grows runtime site now (reading.readable db old) reading.readableNow
        (latest db old)).1
      exact Or.inl (by omega)
    · rw [List.mem_singleton.mp new]
      exact Or.inr closed

/-- What is skewed stays skewed: later states have more of both. -/
theorem step_skewed (reading : Reading runtime state) (skewed : Skewed runtime state)
    (stepped : step runtime state action = some next) : Skewed runtime next := by
  obtain ⟨site, now, priorAt, latest, framed, closed, every⟩ := skewed
  cases step_frame reading stepped with
  | none before after _ => rw [before] at framed; cases framed
  | same frame during _ => exact ⟨site, now, priorAt, latest, frame.trans framed, closed, during ▸ every⟩
  | first site' now' member frame before during _ => rw [before] at framed; cases framed
  | commit site' now' priorAt' before frame during prior grown grows readable _ =>
    rw [before] at framed
    cases framed
    have priorGrows := (priorMonths_grows runtime site now reading.readableNow readable grows).1
    have currentGrows := (currentMonth_grows runtime site now reading.readableNow readable grows).1
    refine ⟨site, now, priorAt, _, frame, by omega, fun db member => ?_⟩
    rw [during] at member
    rcases List.mem_append.mp member with old | new
    · exact (every db old).imp_left fun less => by omega
    · rw [List.mem_singleton.mp new]
      exact Or.inr (by omega)

theorem run_reading (ran : run (step runtime) initial actions = some state) : Reading runtime state :=
  run_invariant (Reading runtime) step_reading initial_reading ran

/-- In terms of the printed strings. -/
theorem oneState_iff (reading : Reading runtime state) (returned : state.answer.isSome = true) :
    OneState runtime state ↔ Aligned runtime state := by
  cases atStage : state.stage with
  | returned site now metrics priorAt currentAt =>
    have answered : state.answer = some (site, now, metrics) := by rw [State.answer, atStage]
    have framed : state.frame = some (site, now, priorAt, currentAt) := by rw [State.frame, atStage]
    simp only [OneState, answered, Option.mem_some_iff, forall_eq',
      reading.returned site now metrics priorAt currentAt atStage, respond, formatNumeric_text_eq_iff]
    constructor
    · rintro ⟨db, member, prior, current⟩ _ _ _ _ same
      cases framed.symm.trans same
      exact ⟨db, member, prior.symm, current.symm⟩
    · intro aligned
      obtain ⟨db, member, prior, current⟩ := aligned site now priorAt currentAt framed
      exact ⟨db, member, prior.symm, current.symm⟩
  | idle | begun | selected | summed | notFound =>
    rw [State.answer, atStage] at returned
    cases returned

/-- **When a read is a snapshot.** The two sums a read returns are the sums of
one state that existed during the read exactly when no commit between its two
statements adds to the current month once the closed months have been added
to. -/
theorem one_state_iff (runtime : Runtime) (actions : List Action) (state : State)
    (ran : run (step runtime) initial actions = some state) (returned : state.answer.isSome = true) :
    OneState runtime state ↔ StepsMeet (step runtime) (Orderly runtime) initial actions := by
  rw [oneState_iff (run_reading ran) returned]
  constructor
  · intro aligned
    apply stepsMeet_of_run ran
    intro before action later middle next split reached stepped finished
    by_contra disorderly
    have reading := run_reading reached
    have skewed := run_invariant (fun state => Reading runtime state ∧ Skewed runtime state)
      (fun holds stepped => ⟨step_reading holds.1 stepped, step_skewed holds.1 holds.2 stepped⟩)
      ⟨step_reading reading stepped, skewed_of_disorderly reading disorderly stepped⟩ finished
    exact skewed.2.not_aligned aligned
  · intro orderly
    exact (run_invariant_of_steps (fun state => Reading runtime state ∧ Aligned runtime state)
      (fun holds orderly stepped =>
        ⟨step_reading holds.1 stepped, step_aligned holds.1 holds.2 orderly stepped⟩)
      ⟨initial_reading, nofun⟩ orderly ran).2

/-- Two readings around the turn of the year. -/
private def turnOfYear : KafkaIngestMessage :=
  ⟨⟨"3f2a6c1e-8d4b-4c7a-9e51-0b6d2f7a8c90", "north-plant",
    [⟨"stack-1", 1704067199000, "1.500000"⟩, ⟨"flare-7", 1704067200000, "2.25"⟩]⟩, 1704067201000⟩

/-- The second of them alone. -/
private def newYear : KafkaIngestMessage :=
  ⟨⟨"3f2a6c1e-8d4b-4c7a-9e51-0b6d2f7a8c90", "north-plant", [⟨"flare-7", 1704067200000, "2.25"⟩]⟩, 1704067201000⟩

/-- A message is committed between the two sums of a read. -/
private def readAround (message : KafkaIngestMessage) : List Action :=
  [.ingest (.createSite "north-plant" "North plant" "Africa/Abidjan" Numeric.zero), .ingest .start,
    .begin "north-plant" 1704067203000000, .statement, .statement,
    .ingest (.handle 0 (.healthy 1704067202000 1704067202000) message), .statement]

private theorem readAroundNewYear_ran : (run (step .exactUtc) initial (readAround newYear)).isSome := by decide

private theorem readAroundTurn_ran : (run (step .exactUtc) initial (readAround turnOfYear)).isSome := by decide

theorem current_month_commit_is_harmless :
    OneState .exactUtc ((run (step .exactUtc) initial (readAround newYear)).get readAroundNewYear_ran) :=
  (one_state_iff .exactUtc (readAround newYear) _ (Option.some_get readAroundNewYear_ran).symm (by decide)).mpr
    (by decide)

/-- A commit that adds to both months shows in the second sum only. -/
theorem read_mixes_two_states :
    ¬∀ (runtime : Runtime) (actions : List Action) (state : State),
      run (step runtime) initial actions = some state → OneState runtime state := by
  intro always
  have mixed := always .exactUtc (readAround turnOfYear) _ (Option.some_get readAroundTurn_ran).symm
  revert mixed
  decide

end EmissionsPlatform.SnapshotRead
