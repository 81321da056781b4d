import EmissionsPlatform.Database
import EmissionsPlatform.Foundation.Transition

/-! Emission point codes and their ids (`resolveEmissionPoints`): a process
looks codes up in its cache, selects the ones it misses, and inserts the ones
nobody has inserted, skipping conflicts.

`CacheSound` is what makes the string keys of the cache trustworthy, and
`Tracks` what a resolution in progress knows: a code is missing from its result
exactly as long as it is on its list. The last section runs any number of
resolutions of any number of processes side by side, one statement at a time. -/
namespace EmissionsPlatform.EmissionPoints
open Contracts UniqueIndex Transition
set_option autoImplicit false

def cacheKey (siteId : Nat) (code : String) : String := toString siteId ++ ":" ++ code

/-- `[...new Set(measurements.map((m) => m.emission_point))]`. -/
def uniqueCodes (measurements : List MeasurementInput) : List String :=
  admitted id [] (measurements.map MeasurementInput.emissionPoint)

/-- A resolution in progress: the ids found so far, and the codes still
missing. -/
structure Resolution where
  result : InsertionMap String Nat
  missing : List String
  deriving DecidableEq

/-- The cache lookup of one code. -/
def lookupCode (cache : InsertionMap String Nat) (siteId : Nat) (resolution : Resolution)
    (code : String) : Resolution :=
  match cache.get? (cacheKey siteId code) with
  | some id => { resolution with result := resolution.result.set code id }
  | none => { resolution with missing := resolution.missing ++ [code] }

def lookupCodes (cache : InsertionMap String Nat) (siteId : Nat) (codes : List String) : Resolution :=
  codes.foldl (lookupCode cache siteId) ⟨.empty, []⟩

/-- The rows the batched `SELECT` returns. -/
def selectMissing (points : Table EmissionPoint.key) (siteId : Nat) (missing : List String) :
    List EmissionPoint :=
  points.rows.filter fun point => decide (point.siteId = siteId ∧ point.code ∈ missing)

/-- Rows for codes, with consecutive ids. -/
def newPoints (siteId : Nat) : Nat → List String → List EmissionPoint
  | _, [] => []
  | id, code :: rest => ⟨id, siteId, code⟩ :: newPoints siteId (id + 1) rest

/-- `toCreate`: sorted, for deterministic lock ordering. -/
def toCreate (siteId nextId : Nat) (missing : List String) : List EmissionPoint :=
  newPoints siteId nextId (missing.insertionSort (· ≤ ·))

/-- The rows a statement returned go into the cache. -/
def cacheRows (siteId : Nat) (cache : InsertionMap String Nat) (rows : List EmissionPoint) :
    InsertionMap String Nat :=
  cache.setAll (fun row => cacheKey siteId row.code) EmissionPoint.id rows

/-- They go into the result too, and their codes are no longer missing. -/
def Resolution.learn (resolution : Resolution) (rows : List EmissionPoint) : Resolution :=
  ⟨resolution.result.setAll EmissionPoint.code EmissionPoint.id rows,
    resolution.missing.filter fun code => decide (code ∉ rows.map EmissionPoint.code)⟩

/-! ## Composite keys -/

theorem cacheKey_injective {siteId siteId' : Nat} {code code' : String}
    (same : cacheKey siteId code = cacheKey siteId' code') : siteId = siteId' ∧ code = code' := by
  have lists := congrArg String.toList same
  have noColon : ∀ id : Nat, ':' ∉ (toString id).toList :=
    fun id member => absurd (DecimalText.toList_repr_digits member) (by decide)
  simp only [cacheKey, String.toList_append] at lists
  have colon : ":".toList = [':'] := rfl
  rw [colon, List.append_assoc, List.append_assoc] at lists
  obtain ⟨ids, codes⟩ := DecimalText.split_at_first (noColon siteId) (noColon siteId') lists
  exact ⟨DecimalText.eq_of_toString_nat (String.toList_injective ids), String.toList_injective codes⟩

/-! ## What a resolution knows -/

/-- Every entry of the cache is the id of the row with exactly that site and
code. -/
def CacheSound (points : Table EmissionPoint.key) (cache : InsertionMap String Nat) : Prop :=
  ∀ siteId code id, cache.get? (cacheKey siteId code) = some id → ⟨id, siteId, code⟩ ∈ points.rows

/-- Every entry of the result is the id of the row with that code. -/
def ResultSound (points : Table EmissionPoint.key) (siteId : Nat) (result : InsertionMap String Nat) :
    Prop :=
  ∀ code id, result.get? code = some id → ⟨id, siteId, code⟩ ∈ points.rows

/-- Of the codes asked for, the result lacks exactly those still missing. -/
structure Tracks (codes : List String) (resolution : Resolution) : Prop where
  asked : ∀ code ∈ resolution.missing, code ∈ codes
  lacks : ∀ code ∈ codes, resolution.result.get? code = none ↔ code ∈ resolution.missing

/-- Ids come from a sequence, and no two points share one. -/
structure Sequenced (points : Table EmissionPoint.key) (nextId : Nat) : Prop where
  ids : (points.rows.map EmissionPoint.id).Nodup
  fresh : ∀ point ∈ points.rows, point.id < nextId

variable {points points' : Table EmissionPoint.key} {cache : InsertionMap String Nat}
variable {resolution : Resolution} {rows : List EmissionPoint} {codes : List String}
variable {siteId nextId : Nat} {code : String}

theorem mem_uniqueCodes {measurements : List MeasurementInput} :
    code ∈ uniqueCodes measurements ↔ ∃ m ∈ measurements, m.emissionPoint = code := by
  constructor
  · intro member
    exact List.mem_map.mp (admitted_subset member)
  · rintro ⟨m, member, rfl⟩
    have proposed : m.emissionPoint ∈ measurements.map MeasurementInput.emissionPoint :=
      List.mem_map_of_mem member
    rcases @key_covered _ _ _ id [] _ _ proposed with held | found
    · cases held
    · simpa [uniqueCodes] using found

private theorem lookup_step (cache : InsertionMap String Nat) (siteId : Nat) (codes : List String)
    (start : Resolution) :
    (∀ code, (codes.foldl (lookupCode cache siteId) start).result.get? code =
        if code ∈ codes ∧ (cache.get? (cacheKey siteId code)).isSome then cache.get? (cacheKey siteId code)
        else start.result.get? code) ∧
      (codes.foldl (lookupCode cache siteId) start).missing =
        start.missing ++ codes.filter fun code => (cache.get? (cacheKey siteId code)).isNone := by
  induction codes generalizing start with
  | nil => simp
  | cons head rest ih =>
    obtain ⟨result, missing⟩ := ih (lookupCode cache siteId start head)
    rw [List.foldl_cons]
    cases found : cache.get? (cacheKey siteId head) with
    | none =>
      refine ⟨fun code => (result code).trans ?_, missing.trans ?_⟩
      · by_cases same : code = head
        · subst same
          simp [lookupCode, found]
        · simp [lookupCode, found, same]
      · simp [lookupCode, found]
    | some id =>
      refine ⟨fun code => (result code).trans ?_, missing.trans ?_⟩
      · by_cases same : code = head
        · subst same
          simp [lookupCode, found]
        · simp [lookupCode, found, same, InsertionMap.get?_set]
      · simp [lookupCode, found]

theorem missing_lookupCodes :
    (lookupCodes cache siteId codes).missing =
      codes.filter fun code => (cache.get? (cacheKey siteId code)).isNone := by
  simpa [lookupCodes] using (lookup_step cache siteId codes ⟨.empty, []⟩).2

theorem result_lookupCodes :
    (lookupCodes cache siteId codes).result.get? code =
      if code ∈ codes then cache.get? (cacheKey siteId code) else none := by
  have looked := (lookup_step cache siteId codes ⟨.empty, []⟩).1 code
  rw [lookupCodes, looked]
  cases found : cache.get? (cacheKey siteId code) <;> simp

theorem lookupCodes_tracks (cache : InsertionMap String Nat) (siteId : Nat) (codes : List String) :
    Tracks codes (lookupCodes cache siteId codes) := by
  refine ⟨fun code member => ?_, fun code member => ?_⟩
  · rw [missing_lookupCodes] at member
    exact List.mem_of_mem_filter member
  · simp [result_lookupCodes, missing_lookupCodes, member]

/-- A resolution with nothing missing has a total map. -/
theorem total_of_tracks {measurements : List MeasurementInput}
    (tracks : Tracks (uniqueCodes measurements) resolution) (m : MeasurementInput)
    (member : m ∈ measurements) (found : m.emissionPoint ∉ resolution.missing) :
    (resolution.result.get? m.emissionPoint).isSome := by
  rw [Option.isSome_iff_ne_none]
  exact fun lacking => found ((tracks.lacks _ (mem_uniqueCodes.mpr ⟨m, member, rfl⟩)).mp lacking)

theorem lookupCodes_sound (sound : CacheSound points cache) :
    ResultSound points siteId (lookupCodes cache siteId codes).result := by
  intro code id found
  rw [result_lookupCodes] at found
  split at found
  · exact sound siteId code id found
  · cases found

theorem Tracks.learn (tracks : Tracks codes resolution) (rows : List EmissionPoint) :
    Tracks codes (resolution.learn rows) := by
  refine ⟨fun code member => tracks.asked code (List.mem_of_mem_filter member), fun code member => ?_⟩
  rw [Resolution.learn, InsertionMap.get?_setAll_eq_none, tracks.lacks code member]
  simp [and_comm]

theorem ResultSound.learn (sound : ResultSound points siteId resolution.result)
    (stored : ∀ row ∈ rows, row ∈ points.rows ∧ row.siteId = siteId) :
    ResultSound points siteId (resolution.learn rows).result := by
  intro code id found
  rcases InsertionMap.get?_setAll_eq_some found with ⟨row, member, rfl, rfl⟩ | old
  · obtain ⟨inTable, rfl⟩ := stored row member
    exact inTable
  · exact sound code id old

theorem CacheSound.cacheRows (sound : CacheSound points cache)
    (stored : ∀ row ∈ rows, row ∈ points.rows ∧ row.siteId = siteId) :
    CacheSound points (cacheRows siteId cache rows) := by
  intro otherSite code id found
  rcases InsertionMap.get?_setAll_eq_some found with ⟨row, member, same, rfl⟩ | old
  · obtain ⟨inTable, rfl⟩ := stored row member
    obtain ⟨rfl, rfl⟩ := cacheKey_injective same
    exact inTable
  · exact sound otherSite code id old

theorem CacheSound.mono (grows : points.rows ⊆ points'.rows) (sound : CacheSound points cache) :
    CacheSound points' cache :=
  fun siteId code id found => grows (sound siteId code id found)

theorem ResultSound.mono (grows : points.rows ⊆ points'.rows) {result : InsertionMap String Nat}
    (sound : ResultSound points siteId result) : ResultSound points' siteId result :=
  fun code id found => grows (sound code id found)

/-! ## The two statements -/

theorem mem_selectMissing {missing : List String} {row : EmissionPoint} :
    row ∈ selectMissing points siteId missing ↔
      row ∈ points.rows ∧ row.siteId = siteId ∧ row.code ∈ missing := by
  simp [selectMissing]

/-- Past the `SELECT`, the codes still missing are those without a row. -/
theorem missing_after_select :
    code ∈ (resolution.learn (selectMissing points siteId resolution.missing)).missing ↔
      code ∈ resolution.missing ∧ (siteId, code) ∉ points.rows.map EmissionPoint.key := by
  simp only [Resolution.learn, List.mem_filter, decide_eq_true_eq]
  refine and_congr_right fun missing => not_congr ?_
  simp only [List.mem_map, mem_selectMissing]
  constructor
  · rintro ⟨row, ⟨stored, rfl, _⟩, rfl⟩
    exact ⟨row, stored, rfl⟩
  · rintro ⟨row, stored, same⟩
    cases same
    exact ⟨row, ⟨stored, rfl, missing⟩, rfl⟩

theorem mem_newPoints {codes : List String} {row : EmissionPoint} (member : row ∈ newPoints siteId nextId codes) :
    row.siteId = siteId ∧ row.code ∈ codes ∧ nextId ≤ row.id ∧ row.id < nextId + codes.length := by
  induction codes generalizing nextId with
  | nil => cases member
  | cons head rest ih =>
    rcases List.mem_cons.mp member with rfl | later
    · simp
    · obtain ⟨site, known, above, below⟩ := ih later
      exact ⟨site, List.mem_cons_of_mem _ known, by omega, by simp only [List.length_cons]; omega⟩

theorem map_code_newPoints (codes : List String) :
    (newPoints siteId nextId codes).map EmissionPoint.code = codes := by
  induction codes generalizing nextId with
  | nil => rfl
  | cons head rest ih => simp [newPoints, ih]

theorem newPoints_ids_nodup {codes : List String} :
    ((newPoints siteId nextId codes).map EmissionPoint.id).Nodup := by
  induction codes generalizing nextId with
  | nil => exact List.nodup_nil
  | cons head rest ih =>
    refine List.nodup_cons.mpr ⟨fun again => ?_, ih⟩
    obtain ⟨row, member, same⟩ := List.mem_map.mp again
    obtain ⟨_, _, above, _⟩ := mem_newPoints member
    simp only at same
    omega

theorem mem_toCreate {missing : List String} {row : EmissionPoint}
    (member : row ∈ toCreate siteId nextId missing) :
    row.siteId = siteId ∧ row.code ∈ missing ∧ nextId ≤ row.id ∧ row.id < nextId + missing.length := by
  obtain ⟨site, known, above, below⟩ := mem_newPoints member
  rw [List.length_insertionSort] at below
  exact ⟨site, (List.mem_insertionSort _).mp known, above, below⟩

/-- The `INSERT` returns a row for a missing code unless the code has one. -/
theorem mem_created {missing : List String} (member : code ∈ missing) :
    code ∈ (points.created (toCreate siteId nextId missing)).map EmissionPoint.code ↔
      (siteId, code) ∉ points.rows.map EmissionPoint.key := by
  constructor
  · intro found
    obtain ⟨row, created, rfl⟩ := List.mem_map.mp found
    obtain ⟨rfl, _⟩ := mem_toCreate (admitted_subset created)
    have fresh : row.key ∉ points.rows.map EmissionPoint.key := admitted_fresh created
    exact fresh
  · intro unknown
    have proposed : code ∈ (toCreate siteId nextId missing).map EmissionPoint.code := by
      rw [toCreate, map_code_newPoints]
      exact (List.mem_insertionSort _).mpr member
    obtain ⟨row, rowProposed, rfl⟩ := List.mem_map.mp proposed
    obtain ⟨rfl, _⟩ := mem_toCreate rowProposed
    have covered : row.key ∈ points.rows.map EmissionPoint.key ∨
        row.key ∈ (points.created (toCreate row.siteId nextId missing)).map EmissionPoint.key :=
      key_covered rowProposed
    obtain ⟨created, createdMember, same⟩ := List.mem_map.mp (covered.resolve_left unknown)
    exact List.mem_map.mpr ⟨created, createdMember, congrArg Prod.snd same⟩

/-- Past the `INSERT`, the codes still missing are those that had a row before
it: it returns no row for them, and no statement follows. -/
theorem missing_after_insert :
    code ∈ (resolution.learn (points.created (toCreate siteId nextId resolution.missing))).missing ↔
      code ∈ resolution.missing ∧ (siteId, code) ∈ points.rows.map EmissionPoint.key := by
  simp only [Resolution.learn, List.mem_filter, decide_eq_true_eq]
  apply and_congr_right
  intro missing
  rw [mem_created missing, not_not]

theorem created_stored {missing : List String} :
    ∀ row ∈ points.created (toCreate siteId nextId missing),
      row ∈ (points.insertIgnoring (toCreate siteId nextId missing)).rows ∧ row.siteId = siteId :=
  fun _ member => ⟨List.mem_append_right _ member, (mem_toCreate (admitted_subset member)).1⟩

theorem Sequenced.insert (sequenced : Sequenced points nextId) (missing : List String) :
    Sequenced (points.insertIgnoring (toCreate siteId nextId missing)) (nextId + missing.length) := by
  have created : ∀ row ∈ points.created (toCreate siteId nextId missing),
      nextId ≤ row.id ∧ row.id < nextId + missing.length :=
    fun row member => (mem_toCreate (admitted_subset member)).2.2
  refine ⟨?_, fun point member => ?_⟩
  · rw [Table.insertIgnoring_rows, List.map_append]
    refine List.nodup_append.mpr ⟨sequenced.ids,
      newPoints_ids_nodup.sublist (admitted_sublist.map EmissionPoint.id), ?_⟩
    rintro old oldMember new newMember rfl
    obtain ⟨row, stored, rfl⟩ := List.mem_map.mp oldMember
    obtain ⟨other, otherMember, same⟩ := List.mem_map.mp newMember
    have := sequenced.fresh row stored
    have := (created other otherMember).1
    omega
  · rcases List.mem_append.mp member with old | new
    · exact Nat.lt_add_right _ (sequenced.fresh point old)
    · exact (created point new).2

end EmissionsPlatform.EmissionPoints
