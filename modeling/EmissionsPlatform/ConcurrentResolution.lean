import EmissionsPlatform.EmissionPoints

/-! Resolutions of several consumer processes side by side. Each process has
its own cache, all of them share the `site_emission_points` table, and a run
interleaves their cache lookups, `SELECT`s and `INSERT`s in any order.

A code inserted by somebody else between a call's `SELECT` and its `INSERT` is
returned by neither, and the look-up that would find it is not there:
`maps_total_iff` says that this race is all that can go wrong. -/
namespace EmissionsPlatform.ConcurrentResolution
open Contracts UniqueIndex EmissionPoints Transition
set_option autoImplicit false

/-- Where a call is: before its cache lookup, before a statement, or done. -/
inductive Stage
  | lookup
  | select (resolution : Resolution)
  | insert (resolution : Resolution)
  | returned (result : InsertionMap String Nat)
  deriving DecidableEq

structure Call where
  process : Nat
  siteId : Nat
  measurements : List MeasurementInput
  stage : Stage
  deriving DecidableEq

structure Consumers where
  points : Table EmissionPoint.key
  nextId : Nat
  /-- `emissionPointCache`, by process. -/
  caches : List (InsertionMap String Nat)
  calls : List Call
  deriving DecidableEq

/-- Return when nothing is missing, and go on otherwise. -/
def settled (resolution : Resolution) (next : Resolution → Stage) : Stage :=
  if resolution.missing = [] then .returned resolution.result else next resolution

/-- One step of `resolveEmissionPoints`, on the table, its sequence and the
cache of the call's process. -/
def resolveStep (points : Table EmissionPoint.key) (nextId : Nat) (cache : InsertionMap String Nat)
    (call : Call) : Option (Table EmissionPoint.key × Nat × InsertionMap String Nat × Stage) :=
  match call.stage with
  | .lookup =>
    some (points, nextId, cache,
      settled (lookupCodes cache call.siteId (uniqueCodes call.measurements)) .select)
  | .select resolution =>
    let rows := selectMissing points call.siteId resolution.missing
    some (points, nextId, cacheRows call.siteId cache rows, settled (resolution.learn rows) .insert)
  | .insert resolution =>
    let proposed := toCreate call.siteId nextId resolution.missing
    let rows := points.created proposed
    some (points.insertIgnoring proposed, nextId + resolution.missing.length,
      cacheRows call.siteId cache rows, .returned (resolution.learn rows).result)
  | .returned _ => none

inductive Action
  /-- A consumer process starts, with an empty cache. -/
  | start
  | resolve (process siteId : Nat) (measurements : List MeasurementInput)
  | advance (index : Nat)
  deriving DecidableEq

def step (consumers : Consumers) : Action → Option Consumers
  | .start => some { consumers with caches := consumers.caches ++ [.empty] }
  | .resolve process siteId measurements =>
    if process < consumers.caches.length then
      some { consumers with calls := consumers.calls ++ [⟨process, siteId, measurements, .lookup⟩] }
    else none
  | .advance index =>
    match consumers.calls[index]? with
    | none => none
    | some call =>
      match consumers.caches[call.process]? with
      | none => none
      | some cache =>
        match resolveStep consumers.points consumers.nextId cache call with
        | none => none
        | some (points, nextId, cache, stage) =>
          some ⟨points, nextId, consumers.caches.set call.process cache,
            consumers.calls.set index { call with stage }⟩

/-- No process, and a table filled by earlier ones. -/
def initial (points : Table EmissionPoint.key) (nextId : Nat) : Consumers := ⟨points, nextId, [], []⟩

/-- The map a call returned, if it has, is defined on every code of its input. -/
def Call.MapTotal (call : Call) : Prop :=
  ∀ result, call.stage = .returned result →
    ∀ m ∈ call.measurements, (result.get? m.emissionPoint).isSome

/-- Every returned map is defined on every code of its call's input. -/
def MapsTotal (consumers : Consumers) : Prop := ∀ call ∈ consumers.calls, call.MapTotal

/-- A call's codes without a row when it is about to insert them. -/
def Call.Unraced (points : Table EmissionPoint.key) (call : Call) : Prop :=
  match call.stage with
  | .insert resolution =>
    ∀ code ∈ resolution.missing, (call.siteId, code) ∉ points.rows.map EmissionPoint.key
  | _ => True

instance (points : Table EmissionPoint.key) : ∀ call : Call, Decidable (call.Unraced points)
  | ⟨_, _, _, .insert _⟩ => inferInstanceAs (Decidable (∀ code ∈ _, _))
  | ⟨_, _, _, .lookup⟩ | ⟨_, _, _, .select _⟩ | ⟨_, _, _, .returned _⟩ => inferInstanceAs (Decidable True)

/-- An `INSERT` is taken only while none of its codes has a row: nobody has
inserted one since the call's `SELECT`. -/
def NoRace (consumers : Consumers) : Action → Prop
  | .advance index => ∀ call ∈ consumers.calls[index]?, call.Unraced consumers.points
  | _ => True

instance (consumers : Consumers) : ∀ action, Decidable (NoRace consumers action)
  | .advance _ => inferInstanceAs (Decidable (∀ call ∈ _, _))
  | .start | .resolve _ _ _ => inferInstanceAs (Decidable True)

/-- A resolution in progress keeps track of the codes of its call. -/
def Call.Tracked (call : Call) : Prop :=
  match call.stage with
  | .select resolution | .insert resolution => Tracks (uniqueCodes call.measurements) resolution
  | _ => True

/-! ## One step of one call -/

variable {consumers after : Consumers} {call : Call} {points points' : Table EmissionPoint.key}
variable {nextId nextId' index : Nat} {cache cache' : InsertionMap String Nat} {stage : Stage}
variable {resolution : Resolution} {action : Action} {actions : List Action}

theorem step_advance :
    step consumers (.advance index) = some after ↔
      ∃ call, consumers.calls[index]? = some call ∧
        ∃ cache, consumers.caches[call.process]? = some cache ∧
          ∃ points nextId cache' stage,
            resolveStep consumers.points consumers.nextId cache call = some (points, nextId, cache', stage) ∧
              after = ⟨points, nextId, consumers.caches.set call.process cache',
                consumers.calls.set index { call with stage }⟩ := by
  simp only [step]
  split
  · rename_i missing
    simp [missing]
  · rename_i call found
    split
    · rename_i missing
      simp [found, missing]
    · rename_i cache held
      split
      · rename_i stuck
        simp [found, held, stuck]
      · rename_i points nextId cache' stage moved
        simp [found, held, moved, eq_comm]

private theorem settled_total {next : Resolution → Stage} (proceeds : ∀ r result, next r ≠ .returned result)
    (tracks : Tracks (uniqueCodes call.measurements) resolution) :
    ({ call with stage := settled resolution next } : Call).MapTotal := by
  intro result returned m member
  simp only [settled] at returned
  split at returned
  · rename_i nothing
    cases returned
    exact total_of_tracks tracks m member (nothing ▸ List.not_mem_nil)
  · exact absurd returned (proceeds _ _)

/-- What a step does to its call: it keeps track, and a map it returns is total
unless the step is an `INSERT` that lost the race. -/
theorem resolveStep_spec (tracked : call.Tracked)
    (moved : resolveStep points nextId cache call = some (points', nextId', cache', stage)) :
    ({ call with stage } : Call).Tracked ∧
      (({ call with stage } : Call).MapTotal ↔ call.Unraced points) := by
  obtain ⟨process, siteId, measurements, current⟩ := call
  cases current with
  | lookup =>
    cases moved
    have tracks := lookupCodes_tracks cache siteId (uniqueCodes measurements)
    refine ⟨?_, fun _ => trivial, fun _ => settled_total nofun tracks⟩
    unfold settled
    split
    · trivial
    · exact tracks
  | select resolution =>
    cases moved
    have tracks := Tracks.learn tracked (selectMissing points siteId resolution.missing)
    refine ⟨?_, fun _ => trivial, fun _ => settled_total nofun tracks⟩
    unfold settled
    split
    · trivial
    · exact tracks
  | insert resolution =>
    cases moved
    have tracks := Tracks.learn tracked (points.created (toCreate siteId nextId resolution.missing))
    refine ⟨trivial, ?_, ?_⟩
    · intro total code missing stored
      obtain ⟨m, member, rfl⟩ := mem_uniqueCodes.mp (Tracks.asked tracked code missing)
      have found := total _ rfl m member
      rw [(tracks.lacks _ (mem_uniqueCodes.mpr ⟨m, member, rfl⟩)).mpr
        (missing_after_insert.mpr ⟨missing, stored⟩)] at found
      cases found
    · intro unraced result returned m member
      cases returned
      apply total_of_tracks tracks m member
      intro lost
      obtain ⟨missing, stored⟩ := missing_after_insert.mp lost
      exact unraced _ missing stored
  | returned result => cases moved

/-! ## Whole runs -/

/-- Every call keeps track. -/
def Tracked (consumers : Consumers) : Prop := ∀ call ∈ consumers.calls, call.Tracked

theorem step_tracked (tracked : Tracked consumers) (stepped : step consumers action = some after) :
    Tracked after := by
  cases action with
  | start =>
    cases stepped
    exact tracked
  | resolve process siteId measurements =>
    simp only [step] at stepped
    split at stepped
    · cases stepped
      intro call member
      rcases List.mem_append.mp member with old | new
      · exact tracked call old
      · rw [List.mem_singleton.mp new]
        trivial
    · cases stepped
  | advance index =>
    obtain ⟨call, held, cache, cached, points, nextId, cache', stage, moved, rfl⟩ := step_advance.mp stepped
    intro other member
    rcases List.mem_or_eq_of_mem_set member with old | rfl
    · exact tracked other old
    · exact (resolveStep_spec (tracked call (List.mem_of_getElem? held)) moved).1

/-- The step lemma: after a step every returned map is total exactly when they
were total before it and the step did not lose the race. -/
theorem step_total_iff (tracked : Tracked consumers) (stepped : step consumers action = some after) :
    MapsTotal after ↔ MapsTotal consumers ∧ NoRace consumers action := by
  cases action with
  | start =>
    cases stepped
    simp [MapsTotal, NoRace]
  | resolve process siteId measurements =>
    simp only [step] at stepped
    split at stepped
    · cases stepped
      have idle : Call.MapTotal ⟨process, siteId, measurements, .lookup⟩ := nofun
      simp [MapsTotal, NoRace, or_imp, forall_and, idle]
    · cases stepped
  | advance index =>
    obtain ⟨call, held, cache, cached, points, nextId, cache', stage, moved, rfl⟩ := step_advance.mp stepped
    have spec := (resolveStep_spec (tracked call (List.mem_of_getElem? held)) moved).2
    -- The call that moves had not returned yet.
    have running : call.MapTotal := by
      intro result returned
      simp [resolveStep, returned] at moved
    simp only [NoRace, held, Option.mem_some_iff, forall_eq']
    constructor
    · intro total
      refine ⟨fun other member => ?_, spec.mp (total _ (mem_set_self _ held))⟩
      rcases mem_set_of_mem { call with stage } held member with rfl | kept
      · exact running
      · exact total other kept
    · rintro ⟨total, unraced⟩ other member
      rcases List.mem_or_eq_of_mem_set member with old | rfl
      · exact total other old
      · exact spec.mpr unraced

/-- A call that has not returned can always take its next step. -/
theorem running_call_advances (held : consumers.calls[index]? = some call)
    (cached : consumers.caches[call.process]? = some cache) (running : ∀ result, call.stage ≠ .returned result) :
    (step consumers (.advance index)).isSome := by
  obtain ⟨process, siteId, measurements, current⟩ := call
  cases current with
  | lookup => simp [step, held, cached, resolveStep]
  | select resolution => simp [step, held, cached, resolveStep]
  | insert resolution => simp [step, held, cached, resolveStep]
  | returned result => exact absurd rfl (running result)

/-- **Resolution succeeds exactly in runs without the race**: every map a call
has returned is defined on every code of its input if and only if no `INSERT`
was taken after somebody else had inserted one of its codes. -/
theorem maps_total_iff (points : Table EmissionPoint.key) (nextId : Nat)
    (ran : run step (initial points nextId) actions = some after) :
    MapsTotal after ↔ StepsMeet step NoRace (initial points nextId) actions := by
  have tracked : Tracked (initial points nextId) := fun _ member => absurd member List.not_mem_nil
  have total : MapsTotal (initial points nextId) := fun _ member => absurd member List.not_mem_nil
  have holds := run_holds_iff Tracked MapsTotal step_tracked step_total_iff tracked ran
  exact holds.trans (and_iff_right total)

private def flareReading : MeasurementInput := ⟨"flare-7", 1700000000000, "1.000000"⟩

private def oneAfterTheOther : List Action :=
  [.start, .start, .resolve 0 1 [flareReading], .resolve 1 1 [flareReading], .advance 0, .advance 0, .advance 0,
    .advance 1, .advance 1]

private def resolvedOnce : Consumers :=
  let found := InsertionMap.empty.set "flare-7" 1
  let cached := InsertionMap.empty.set "1:flare-7" 1
  ⟨Table.empty.insertIgnoring [⟨1, 1, "flare-7"⟩], 2, [cached, cached],
    [⟨0, 1, [flareReading], .returned found⟩, ⟨1, 1, [flareReading], .returned found⟩]⟩

theorem one_after_the_other_is_total :
    run step (initial .empty 1) oneAfterTheOther = some resolvedOnce ∧ MapsTotal resolvedOnce :=
  have ran : run step (initial .empty 1) oneAfterTheOther = some resolvedOnce := by decide
  have unraced : StepsMeet step NoRace (initial .empty 1) oneAfterTheOther := by decide
  ⟨ran, (maps_total_iff .empty 1 ran).mpr unraced⟩

/-- Two processes select the same new code, and both insert it: the second one
gets no row back. -/
theorem lost_race_leaves_code_unresolved :
    ¬ ∀ (points : Table EmissionPoint.key) (nextId : Nat) (actions : List Action) (consumers : Consumers),
      run step (initial points nextId) actions = some consumers → MapsTotal consumers := by
  intro always
  have total := always .empty 1
    [.start, .start, .resolve 0 1 [flareReading], .resolve 1 1 [flareReading], .advance 0, .advance 1, .advance 0,
      .advance 1, .advance 0, .advance 1]
    ⟨Table.empty.insertIgnoring [⟨1, 1, "flare-7"⟩], 3, [InsertionMap.empty.set "1:flare-7" 1, .empty],
      [⟨0, 1, [flareReading], .returned (InsertionMap.empty.set "flare-7" 1)⟩,
        ⟨1, 1, [flareReading], .returned .empty⟩]⟩ (by decide)
  have found := total ⟨1, 1, [flareReading], .returned .empty⟩ (by simp) .empty rfl flareReading (by simp)
  cases found

end EmissionsPlatform.ConcurrentResolution
