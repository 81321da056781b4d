import EmissionsPlatform.IngestHandler

/-! What one call of the ingest handler does to the database. `handle_cases`
says it once, and every later result about the consumer is derived from it: a
call throws or meets an unknown site and records nothing, or it commits a
transaction, whose effect is `committed`. -/
namespace EmissionsPlatform.IngestHandler
open Contracts UniqueIndex LeaseQueue EmissionPoints Fallible
set_option autoImplicit false

/-- A reading and the row proposed for it. -/
structure StoredAs (runtime : Runtime) (siteId : Nat) (emissionPointMap : InsertionMap String Nat)
    (batchId : String) (m : MeasurementInput) (row : Measurement) : Prop where
  site : row.siteId = siteId
  point : emissionPointMap.get? m.emissionPoint = some row.emissionPointId
  batch : Uuid.ofText batchId = some row.batchId
  recordedAt : row.recordedAt = instantOfMs m.recordedAtMs
  accepted : runtime.acceptsTimestamp m.recordedAtMs = true
  value : Numeric.ofText m.valueKgCo2e = some row.value

/-- A month's sum and the increment written for it. -/
structure IncrementOf (runtime : Runtime) (siteId : Nat) (sum : YearMonth × runtime.arithmetic.Number)
    (increment : MetricsIncrement) : Prop where
  site : increment.siteId = siteId
  month : increment.month = sum.1
  delta : Numeric.ofText (runtime.arithmetic.toFixed sum.2) = some increment.deltaKg

/-- A committed transaction, by the rows it proposed and the increments it
wrote. -/
def committed (runtime : Runtime) (call : Call) (message : KafkaIngestMessage) (siteId : Nat)
    (timezone : String) (rows : List Measurement) (increments : List MetricsIncrement)
    (db : Database) : Database :=
  let inserted := db.measurements.created rows
  let now := instantOfMs call.now
  { db with
    measurements := db.measurements.insertIgnoring rows
    siteMonthlyEmissions :=
      (staleMonths runtime timezone (runtime.siteLocalYearMonth now timezone) inserted).foldl
        (flagStale siteId) db.siteMonthlyEmissions
    metricsOutbox := enqueue now increments db.metricsOutbox
    outbox := enqueue now [outboxEvent runtime call message inserted] db.outbox }

def persistedResult (runtime : Runtime) (message : KafkaIngestMessage) (siteId : Nat)
    (inserted : List Measurement) : IngestResult :=
  ⟨true, inserted.length, message.measurements.length - inserted.length,
    sumKg runtime.arithmetic inserted, some siteId⟩

variable {runtime : Runtime} {call : Call} {message : KafkaIngestMessage} {siteId : Nat}
variable {timezone batchId : String} {emissionPointMap : InsertionMap String Nat}
variable {db after : Database} {process process' : Process} {result : IngestResult}
variable {rows inserted : List Measurement} {increments : List MetricsIncrement}
variable {months months' : InsertionMap (Nat × YearMonth) MonthlyEmissions} {month : YearMonth}

/-! ## Months -/

theorem monthKey_injective : Function.Injective monthKey := by
  intro a b same
  have lists := congrArg String.toList same
  have noHyphen : ∀ number : Nat, '-' ∉ (toString number).toList :=
    fun number member => absurd (DecimalText.toList_repr_digits member) (by decide)
  have hyphen : "-".toList = ['-'] := rfl
  simp only [monthKey, String.toList_append] at lists
  rw [hyphen, List.append_assoc, List.append_assoc] at lists
  obtain ⟨years, months⟩ := DecimalText.split_at_last (noHyphen a.month) (noHyphen b.month) lists
  have sameYear := DecimalText.eq_of_toString_int (String.toList_injective years)
  have sameMonth := DecimalText.eq_of_toString_nat (String.toList_injective months)
  cases a
  cases b
  simp_all

/-- The months flagged are the past months of the rows. -/
theorem mem_staleMonths {nowYearMonth : YearMonth} :
    month ∈ staleMonths runtime timezone nowYearMonth rows ↔
      month < nowYearMonth ∧ ∃ row ∈ rows, monthOf runtime timezone row = month := by
  have past : ∀ other, other ∈ (rows.map (monthOf runtime timezone)).filter (fun m => decide (m < nowYearMonth)) ↔
      other < nowYearMonth ∧ ∃ row ∈ rows, monthOf runtime timezone row = other := by
    intro other
    rw [List.mem_filter, List.mem_map, decide_eq_true_eq, and_comm]
  rw [← past, staleMonths, List.mem_insertionSort, InsertionMap.mem_values_iff]
  constructor
  · rintro ⟨key, found⟩
    have labelled := InsertionMap.groupBy_labelled monthKey (fun _ => rfl) (fun _ _ => rfl) found
    have held := InsertionMap.mem_keys_iff.mpr ⟨month, found⟩
    obtain ⟨other, member, same⟩ := (InsertionMap.mem_keys_groupBy _).mp held
    rwa [monthKey_injective (labelled.trans same.symm)]
  · intro member
    have held := (@InsertionMap.mem_keys_groupBy _ _ _ _ (monthKey month) monthKey id (fun held _ => held) _).mpr
      ⟨month, member, rfl⟩
    obtain ⟨other, found⟩ := InsertionMap.mem_keys_iff.mp held
    refine ⟨monthKey month, ?_⟩
    rw [found, monthKey_injective (InsertionMap.groupBy_labelled monthKey (fun _ => rfl) (fun _ _ => rfl) found)]

theorem get?_flagStale {key : Nat × YearMonth} :
    (flagStale siteId months month).get? key =
      if key = (siteId, month) then some ⟨((months.get? key).map MonthlyEmissions.totalKg).getD Numeric.zero, true⟩
      else months.get? key := by
  unfold flagStale
  split
  · rename_i row found
    rw [InsertionMap.get?_set]
    split
    · rename_i same
      rw [same, found]
      rfl
    · rfl
  · rename_i missing
    rw [InsertionMap.get?_set]
    split
    · rename_i same
      rw [same, missing]
      rfl
    · rfl

/-- Flagging months leaves every other row alone, and the totals of the flagged
ones too. -/
theorem get?_foldl_flagStale (flagged : List YearMonth) {key : Nat × YearMonth} :
    (flagged.foldl (flagStale siteId) months).get? key =
      if key.1 = siteId ∧ key.2 ∈ flagged then
        some ⟨((months.get? key).map MonthlyEmissions.totalKg).getD Numeric.zero, true⟩
      else months.get? key := by
  induction flagged generalizing months with
  | nil => simp
  | cons first rest ih =>
    obtain ⟨site, ym⟩ := key
    rw [List.foldl_cons, ih, get?_flagStale]
    by_cases here : (site, ym) = (siteId, first)
    · cases here
      by_cases again : first ∈ rest <;> simp [again]
    · by_cases ours : site = siteId
      · subst ours
        have different : ym ≠ first := fun same => here (same ▸ rfl)
        simp [here, different]
      · simp [ours]

/-! ## Monthly sums -/

/-- The sum of the values of rows, in millionths. -/
def totalKg (rows : List Measurement) : Nat := (rows.map fun row => row.value.millionths).sum

@[simp] theorem totalKg_nil : totalKg [] = 0 := rfl

@[simp] theorem totalKg_cons (row : Measurement) (rest : List Measurement) :
    totalKg (row :: rest) = row.value.millionths + totalKg rest := by
  simp [totalKg]

@[simp] theorem totalKg_append (first rest : List Measurement) :
    totalKg (first ++ rest) = totalKg first + totalKg rest := by
  simp [totalKg]

theorem valueOf_exact (exactly : runtime.arithmetic.Exact) (row : Measurement) :
    runtime.arithmetic.toMillionths (valueOf runtime.arithmetic row) = row.value.millionths := by
  rw [valueOf, Numeric.text, NumberArithmetic.parseFloat_numericText, exactly.ofMillionths]

theorem sumKg_exact (exactly : runtime.arithmetic.Exact) (rows : List Measurement) :
    DecimalText.millionths (sumKg runtime.arithmetic rows) = some (totalKg rows) := by
  have summed := exactly.foldl (rows.map (valueOf runtime.arithmetic)) runtime.arithmetic.zero
  rw [List.foldl_map, exactly.zero, Nat.zero_add, List.map_map] at summed
  rw [sumKg, NumberArithmetic.millionths_toFixed, summed, totalKg]
  exact congrArg (fun values => some (List.sum values))
    (List.map_congr_left fun row _ => valueOf_exact exactly row)

/-- The rows of one local month. -/
def ofMonth (runtime : Runtime) (timezone : String) (month : YearMonth) (rows : List Measurement) :
    List Measurement :=
  rows.filter fun row => monthOf runtime timezone row = month

@[simp] theorem ofMonth_append (first rest : List Measurement) :
    ofMonth runtime timezone month (first ++ rest) =
      ofMonth runtime timezone month first ++ ofMonth runtime timezone month rest :=
  List.filter_append first rest

/-- What `writeMetricsOutbox` adds up for a month. -/
def monthSum (runtime : Runtime) (timezone : String) (month : YearMonth) (rows : List Measurement) :
    runtime.arithmetic.Number :=
  runtime.arithmetic.addUp ((ofMonth runtime timezone month rows).map (valueOf runtime.arithmetic))

private theorem foldl_label {Label Value Item : Type} (add : Value → Item → Value) (label : Label) (items : List Item)
    (start : Value) :
    items.foldl (fun existing item => (existing.1, add existing.2 item)) (label, start) =
      (label, items.foldl add start) := by
  induction items generalizing start with
  | nil => rfl
  | cons item rest ih => exact ih (add start item)

/-- One month among the sums: the sum of its rows, if it has any. -/
theorem monthlySums_filter (runtime : Runtime) (timezone : String) (rows : List Measurement)
    (month : YearMonth) :
    ((monthlySums runtime timezone rows).filter fun sum => sum.1 = month) =
      if ofMonth runtime timezone month rows = [] then []
      else [(month, monthSum runtime timezone month rows)] := by
  let grouped := InsertionMap.groupBy (fun row => monthKey (monthOf runtime timezone row))
    (fun row => (monthOf runtime timezone row, valueOf runtime.arithmetic row))
    (fun existing row => (existing.1, runtime.arithmetic.add existing.2 (valueOf runtime.arithmetic row))) rows
  have sameKey : ∀ other : YearMonth, monthKey other = monthKey month ↔ other = month :=
    fun other => monthKey_injective.eq_iff
  have labelled : ∀ key value, grouped.get? key = some value → monthKey value.1 = key := by
    intro key value found
    refine InsertionMap.groupBy_labelled (fun sum : YearMonth × runtime.arithmetic.Number => monthKey sum.1)
      ?_ ?_ found
    · exact fun row => rfl
    · exact fun content row => rfl
  have asked : (grouped.values.filter fun sum => sum.1 = month) = (grouped.get? (monthKey month)).toList := by
    rw [← InsertionMap.values_filter _ labelled]
    simp only [sameKey]
  have sorted : ((monthlySums runtime timezone rows).filter fun sum => sum.1 = month).Perm
      (grouped.get? (monthKey month)).toList :=
    asked ▸ (List.perm_insertionSort _ _).filter _
  have found : grouped.get? (monthKey month) =
      if ofMonth runtime timezone month rows = [] then none
      else some (month, monthSum runtime timezone month rows) := by
    rw [InsertionMap.get?_groupBy]
    simp only [sameKey]
    change InsertionMap.gather _ _ none (ofMonth runtime timezone month rows) = _
    rw [monthSum]
    cases matching : ofMonth runtime timezone month rows with
    | nil => rfl
    | cons row rest =>
      have member : row ∈ ofMonth runtime timezone month rows := by simp [matching]
      have inMonth : monthOf runtime timezone row = month := by simpa [ofMonth] using (List.mem_filter.mp member).2
      rw [InsertionMap.gather_none_cons, if_neg (List.cons_ne_nil _ _), inMonth, List.map_cons,
        NumberArithmetic.addUp, List.foldl_map]
      exact congrArg some (foldl_label
        (fun acc row => runtime.arithmetic.add acc (valueOf runtime.arithmetic row)) month rest _)
  rw [found] at sorted
  split at sorted
  · rename_i none
    rw [if_pos none]
    exact sorted.eq_nil
  · rename_i some
    rw [if_neg some]
    exact List.perm_singleton.mp sorted

@[simp] theorem monthlySums_nil : monthlySums runtime timezone [] = [] := rfl

/-- The sum of the increments of a site and month, in millionths. -/
def deltaKg (siteId : Nat) (month : YearMonth) (increments : List MetricsIncrement) : Nat :=
  ((increments.filter fun increment => increment.siteId = siteId ∧ increment.month = month).map
    fun increment => increment.deltaKg.millionths).sum

@[simp] theorem deltaKg_append (first rest : List MetricsIncrement) :
    deltaKg siteId month (first ++ rest) = deltaKg siteId month first + deltaKg siteId month rest := by
  simp [deltaKg]

private theorem delta_column {sums : List (YearMonth × runtime.arithmetic.Number)}
    (written : List.Forall₂ (IncrementOf runtime siteId) sums increments) (month : YearMonth) :
    ((increments.filter fun increment => increment.siteId = siteId ∧ increment.month = month).map
        fun increment => increment.deltaKg.millionths) =
      (sums.filter fun sum => sum.1 = month).map fun sum => runtime.arithmetic.toMillionths sum.2 := by
  induction written with
  | nil => rfl
  | cons first rest ih =>
    rename_i sum increment sums increments
    have delta := Numeric.ofText_eq_some_iff.mp first.delta
    rw [NumberArithmetic.millionths_toFixed, Option.some.injEq] at delta
    by_cases here : sum.1 = month
    · rw [List.filter_cons_of_pos (by simp [first.site, first.month, here]),
        List.filter_cons_of_pos (by simp [here]), List.map_cons, List.map_cons, ih, delta]
    · rw [List.filter_cons_of_neg (by simp [first.month, here]),
        List.filter_cons_of_neg (by simp [here]), ih]

/-- The increments of a month add up to the readings they were written for. -/
theorem deltaKg_increments (exactly : runtime.arithmetic.Exact)
    (written : List.Forall₂ (IncrementOf runtime siteId) (monthlySums runtime timezone rows) increments)
    (month : YearMonth) :
    deltaKg siteId month increments = totalKg (ofMonth runtime timezone month rows) := by
  rw [deltaKg, delta_column written, monthlySums_filter]
  split
  · rename_i none
    rw [none]
    rfl
  · rw [List.map_singleton, List.sum_singleton, monthSum, exactly.addUp, totalKg, List.map_map]
    exact congrArg List.sum (List.map_congr_left fun row _ => valueOf_exact exactly row)

/-- An increment belongs to the site it was written for. -/
theorem deltaKg_other_site {sums : List (YearMonth × runtime.arithmetic.Number)}
    (written : List.Forall₂ (IncrementOf runtime siteId) sums increments) {other : Nat} (different : other ≠ siteId) :
    deltaKg other month increments = 0 := by
  have sites : ∀ increment ∈ increments, increment.siteId = siteId := by
    intro increment member
    obtain ⟨sum, _, isIncrement⟩ := exists_left written member
    exact isIncrement.site
  have none : (increments.filter fun increment => increment.siteId = other ∧ increment.month = month) = [] := by
    rw [List.filter_eq_nil_iff]
    intro increment member
    simp [sites increment member, Ne.symm different]
  rw [deltaKg, none]
  rfl

/-! ## The transaction -/

/-- The rows and increments of a transaction that commits. -/
structure Commits (runtime : Runtime) (message : KafkaIngestMessage) (siteId : Nat) (timezone : String)
    (emissionPointMap : InsertionMap String Nat) (rows : List Measurement)
    (increments : List MetricsIncrement) (db : Database) : Prop where
  nonempty : rows ≠ []
  stored : List.Forall₂ (StoredAs runtime siteId emissionPointMap message.batchId) message.measurements rows
  written : List.Forall₂ (IncrementOf runtime siteId)
    (monthlySums runtime timezone (db.measurements.created rows)) increments

theorem attempt_eq_ok {statement : Statement} :
    call.attempt statement = .ok () ↔ call.fails statement = false := by
  unfold Call.attempt
  split <;> simp_all

theorem storedAs_iff {m : MeasurementInput} {row : Measurement} :
    StoredAs runtime siteId emissionPointMap batchId m row ↔
      ∃ new, measurementRow siteId emissionPointMap batchId m = .ok new ∧ storedRow runtime new = .ok row := by
  constructor
  · intro stored
    refine ⟨⟨siteId, row.emissionPointId, batchId, m.recordedAtMs, m.valueKgCo2e⟩, ?_, ?_⟩
    · simp [measurementRow, stored.point]
    · obtain ⟨site, point, batch, recordedAt, accepted, value⟩ := stored
      subst site
      simp [storedRow, batch, value, accepted, ← recordedAt]
  · rintro ⟨new, proposed, taken⟩
    unfold measurementRow at proposed
    split at proposed
    · cases proposed
    · rename_i emissionPointId found
      cases proposed
      unfold storedRow at taken
      split at taken
      · rename_i uuid value readUuid readValue
        split at taken
        · rename_i accepted
          cases taken
          exact ⟨rfl, found, readUuid, rfl, accepted, readValue⟩
        · cases taken
      · cases taken

theorem incrementOf_iff {sum : YearMonth × runtime.arithmetic.Number} {increment : MetricsIncrement} :
    IncrementOf runtime siteId sum increment ↔ incrementRow runtime siteId sum = .ok increment := by
  unfold incrementRow
  constructor
  · rintro ⟨rfl, month, delta⟩
    simp [delta, ← month]
  · intro taken
    split at taken
    · rename_i deltaKg read
      cases taken
      exact ⟨rfl, rfl, read⟩
    · cases taken

theorem storedRows_iff {ms : List MeasurementInput} :
    List.Forall₂ (StoredAs runtime siteId emissionPointMap batchId) ms rows ↔
      ∃ proposed, ms.mapM (measurementRow siteId emissionPointMap batchId) = .ok proposed ∧
        proposed.mapM (storedRow runtime) = .ok rows := by
  constructor
  · intro stored
    induction stored with
    | nil => exact ⟨[], rfl, rfl⟩
    | cons first rest ih =>
      obtain ⟨new, proposed, taken⟩ := storedAs_iff.mp first
      obtain ⟨others, proposedOthers, takenOthers⟩ := ih
      exact ⟨new :: others, mapM_eq_ok.mpr (.cons proposed (mapM_eq_ok.mp proposedOthers)),
        mapM_eq_ok.mpr (.cons taken (mapM_eq_ok.mp takenOthers))⟩
  · rintro ⟨proposed, built, taken⟩
    have builtEach := mapM_eq_ok.mp built
    have takenEach := mapM_eq_ok.mp taken
    clear built taken
    induction builtEach generalizing rows with
    | nil =>
      cases takenEach
      exact .nil
    | cons first rest ih =>
      cases takenEach with
      | cons taken others => exact .cons (storedAs_iff.mpr ⟨_, first, taken⟩) (ih others)

theorem recordMonths_eq_ok {nowYearMonth : YearMonth}
    (recorded : recordMonths runtime call siteId timezone nowYearMonth inserted months = .ok (months', increments)) :
    months' = (staleMonths runtime timezone nowYearMonth inserted).foldl (flagStale siteId) months ∧
      List.Forall₂ (IncrementOf runtime siteId) (monthlySums runtime timezone inserted) increments := by
  unfold recordMonths at recorded
  split at recorded
  · rename_i none
    cases recorded
    subst none
    exact ⟨rfl, .nil⟩
  · obtain ⟨flagged, marked, recorded⟩ := bind_eq_ok.mp recorded
    obtain ⟨written, wrote, recorded⟩ := bind_eq_ok.mp recorded
    cases recorded
    obtain ⟨_, _, wrote⟩ := bind_eq_ok.mp wrote
    refine ⟨(foldlM_eq_ok.mp marked).2, (mapM_eq_ok.mp wrote).imp fun _ _ taken => incrementOf_iff.mpr taken⟩

/-- What a transaction that commits has done. -/
theorem persist_eq_ok
    (done : persist runtime call message siteId timezone
      (runtime.siteLocalYearMonth (instantOfMs call.now) timezone) emissionPointMap db = .ok (after, result)) :
    ∃ rows increments, Commits runtime message siteId timezone emissionPointMap rows increments db ∧
      after = committed runtime call message siteId timezone rows increments db ∧
      result = persistedResult runtime message siteId (db.measurements.created rows) := by
  unfold persist at done
  obtain ⟨_, _, done⟩ := bind_eq_ok.mp done
  obtain ⟨proposed, built, done⟩ := bind_eq_ok.mp done
  obtain ⟨rows, inserted, done⟩ := bind_eq_ok.mp done
  obtain ⟨⟨months, increments⟩, recorded, done⟩ := bind_eq_ok.mp done
  obtain ⟨_, _, done⟩ := bind_eq_ok.mp done
  obtain ⟨_, _, done⟩ := bind_eq_ok.mp done
  cases done
  obtain ⟨_, _, inserted⟩ := bind_eq_ok.mp inserted
  obtain ⟨rfl, written⟩ := recordMonths_eq_ok recorded
  refine ⟨rows, increments, ⟨?_, ?_, written⟩, rfl, rfl⟩
  · rintro rfl
    split at inserted
    · cases inserted
    · rename_i nonempty
      cases mapM_eq_ok.mp inserted
      exact nonempty rfl
  · refine storedRows_iff.mpr ⟨proposed, built, ?_⟩
    split at inserted
    · cases inserted
    · exact inserted

/-- With all services healthy, rows and increments that can be written are. -/
theorem persist_of_commits {rows : List Measurement} {increments : List MetricsIncrement}
    (healthy : ∀ statement, call.fails statement = false)
    (commits : Commits runtime message siteId timezone emissionPointMap rows increments db) :
    persist runtime call message siteId timezone (runtime.siteLocalYearMonth (instantOfMs call.now) timezone)
        emissionPointMap db =
      .ok (committed runtime call message siteId timezone rows increments db,
        persistedResult runtime message siteId (db.measurements.created rows)) := by
  have attempted : ∀ statement, call.attempt statement = .ok () :=
    fun statement => attempt_eq_ok.mpr (healthy statement)
  obtain ⟨proposed, built, taken⟩ := storedRows_iff.mp commits.stored
  have inserted : insertMeasurements runtime call proposed = .ok rows := by
    refine bind_eq_ok.mpr ⟨(), attempted _, ?_⟩
    cases proposed with
    | nil =>
      cases taken
      exact absurd rfl commits.nonempty
    | cons first rest => exact taken
  have recorded : recordMonths runtime call siteId timezone
      (runtime.siteLocalYearMonth (instantOfMs call.now) timezone) (db.measurements.created rows)
      db.siteMonthlyEmissions =
        .ok ((staleMonths runtime timezone (runtime.siteLocalYearMonth (instantOfMs call.now) timezone)
          (db.measurements.created rows)).foldl (flagStale siteId) db.siteMonthlyEmissions, increments) := by
    have written := commits.written
    unfold recordMonths
    split
    · rename_i none
      rw [none, monthlySums_nil] at written
      cases written
      rw [none]
      rfl
    · refine bind_eq_ok.mpr ⟨_, foldlM_eq_ok.mpr ⟨fun month _ => attempted _, rfl⟩, ?_⟩
      refine bind_eq_ok.mpr ⟨increments, bind_eq_ok.mpr ⟨(), attempted _, ?_⟩, rfl⟩
      exact mapM_eq_ok.mpr (written.imp fun _ _ isIncrement => incrementOf_iff.mp isIncrement)
  exact bind_eq_ok.mpr ⟨(), attempted _, bind_eq_ok.mpr ⟨proposed, built, bind_eq_ok.mpr ⟨rows, inserted,
    bind_eq_ok.mpr ⟨_, recorded, bind_eq_ok.mpr ⟨(), attempted _, bind_eq_ok.mpr ⟨(), attempted _, rfl⟩⟩⟩⟩⟩⟩

/-! ## The call -/

/-- Emission points may have been added; nothing else that later results are
about has changed. -/
structure Unrecorded (before after : Database) : Prop where
  sites : after.sites = before.sites
  nextSiteId : after.nextSiteId = before.nextSiteId
  measurements : after.measurements = before.measurements
  siteMonthlyEmissions : after.siteMonthlyEmissions = before.siteMonthlyEmissions
  metricsOutbox : after.metricsOutbox = before.metricsOutbox
  outbox : after.outbox = before.outbox
  points : before.siteEmissionPoints.rows ⊆ after.siteEmissionPoints.rows
  sequenced : Sequenced before.siteEmissionPoints before.nextEmissionPointId →
    Sequenced after.siteEmissionPoints after.nextEmissionPointId

theorem Unrecorded.refl (db : Database) : Unrecorded db db :=
  ⟨rfl, rfl, rfl, rfl, rfl, rfl, fun _ member => member, id⟩

/-- A process remembers sites and emission points as they are stored. -/
structure Remembers (db : Database) (process : Process) : Prop where
  sites : ∀ slug id timezone, process.siteIdCache.get? slug = some (id, timezone) →
    ∃ site ∈ db.sites.rows, site.slug = slug ∧ site.id = id ∧ site.timezone = timezone
  points : CacheSound db.siteEmissionPoints process.emissionPointCache

theorem remembers_started (db : Database) : Remembers db .started := ⟨nofun, nofun⟩

/-- What is remembered stays right while sites and points are only added. -/
theorem Remembers.mono (remembers : Remembers db process) (sites : db.sites.rows ⊆ after.sites.rows)
    (points : db.siteEmissionPoints.rows ⊆ after.siteEmissionPoints.rows) : Remembers after process := by
  refine ⟨fun slug id timezone found => ?_, remembers.points.mono points⟩
  obtain ⟨site, member, same⟩ := remembers.sites slug id timezone found
  exact ⟨site, sites member, same⟩

theorem insertAlert_unrecorded (call : Call) (alertType : String) (payload : List (String × AlertField))
    (db : Database) : Unrecorded db (insertAlert call alertType payload db) := by
  unfold insertAlert
  split <;> exact ⟨rfl, rfl, rfl, rfl, rfl, rfl, fun _ member => member, id⟩

/-- What a resolution does, whether it returns or throws: it adds points, and
the process learns them. A map it returns is right and total. -/
structure Resolves (siteId : Nat) (measurements : List MeasurementInput) (db : Database) (process : Process)
    (after : Database) (process' : Process) (outcome : Except Failure (InsertionMap String Nat)) : Prop where
  unrecorded : Unrecorded db after
  siteIdCache : process'.siteIdCache = process.siteIdCache
  cache : CacheSound after.siteEmissionPoints process'.emissionPointCache
  sound : ∀ map, outcome = .ok map → ResultSound after.siteEmissionPoints siteId map
  total : ∀ map, outcome = .ok map → ∀ m ∈ measurements, (map.get? m.emissionPoint).isSome

variable {measurements : List MeasurementInput} {outcome : Except Failure (InsertionMap String Nat)}

private theorem total_of_nothing_missing {resolution : Resolution}
    (tracks : Tracks (uniqueCodes measurements) resolution) (nothing : resolution.missing = [])
    (m : MeasurementInput) (member : m ∈ measurements) : (resolution.result.get? m.emissionPoint).isSome :=
  total_of_tracks tracks m member (nothing ▸ List.not_mem_nil)

theorem resolveEmissionPoints_spec (cached : CacheSound db.siteEmissionPoints process.emissionPointCache)
    (resolved : resolveEmissionPoints call siteId measurements db process = (after, process', outcome)) :
    Resolves siteId measurements db process after process' outcome := by
  have looked := lookupCodes_tracks process.emissionPointCache siteId (uniqueCodes measurements)
  have lookedSound : ResultSound db.siteEmissionPoints siteId
      (lookupCodes process.emissionPointCache siteId (uniqueCodes measurements)).result :=
    lookupCodes_sound cached
  unfold resolveEmissionPoints at resolved
  simp only at resolved
  generalize lookupCodes process.emissionPointCache siteId (uniqueCodes measurements) = resolution
    at looked lookedSound resolved
  split at resolved
  · rename_i nothing
    cases resolved
    exact ⟨.refl db, rfl, cached, fun _ same => by cases same; exact lookedSound,
      fun _ same => by cases same; exact total_of_nothing_missing looked nothing⟩
  split at resolved
  · cases resolved
    refine ⟨.refl db, rfl, cached, fun _ failed => ?_, fun _ failed => ?_⟩
    · cases failed
    · cases failed
  have existing : ∀ row ∈ selectMissing db.siteEmissionPoints siteId resolution.missing,
      row ∈ db.siteEmissionPoints.rows ∧ row.siteId = siteId :=
    fun row member => ⟨(mem_selectMissing.mp member).1, (mem_selectMissing.mp member).2.1⟩
  have selected := looked.learn (selectMissing db.siteEmissionPoints siteId resolution.missing)
  have selectedSound := lookedSound.learn existing
  have learned := cached.cacheRows existing
  split at resolved
  · rename_i nothing
    cases resolved
    exact ⟨.refl db, rfl, learned, fun _ same => by cases same; exact selectedSound,
      fun _ same => by cases same; exact total_of_nothing_missing selected nothing⟩
  split at resolved
  · cases resolved
    refine ⟨.refl db, rfl, learned, fun _ failed => ?_, fun _ failed => ?_⟩
    · cases failed
    · cases failed
  cases resolved
  have grows : db.siteEmissionPoints.rows ⊆ (db.siteEmissionPoints.insertIgnoring
      (toCreate siteId db.nextEmissionPointId
        (resolution.learn (selectMissing db.siteEmissionPoints siteId resolution.missing)).missing)).rows :=
    fun _ member => List.mem_append_left _ member
  refine ⟨⟨rfl, rfl, rfl, rfl, rfl, rfl, grows, fun sequenced => sequenced.insert _⟩, rfl,
    (learned.mono grows).cacheRows created_stored, fun _ same => ?_, fun _ same => ?_⟩
  · cases same
    exact (selectedSound.mono grows).learn created_stored
  · cases same
    -- Nobody can have inserted one of the codes since the `SELECT`.
    intro m member
    apply total_of_tracks (selected.learn _) m member
    intro lost
    obtain ⟨missing, stored⟩ := missing_after_insert.mp lost
    exact (missing_after_select.mp missing).2 stored

theorem resolveEmissionPoints_healthy (healthy : ∀ statement, call.fails statement = false) :
    ∃ after process' map,
      resolveEmissionPoints call siteId measurements db process = (after, process', .ok map) := by
  unfold resolveEmissionPoints
  simp only [healthy, Bool.false_eq_true, ↓reduceIte]
  split
  · exact ⟨_, _, _, rfl⟩
  · split <;> exact ⟨_, _, _, rfl⟩

theorem findSite_eq_some {slug : String} {site : Site} (found : findSite db slug = some site) :
    site ∈ db.sites.rows ∧ site.slug = slug :=
  ⟨List.mem_of_find?_eq_some found, by simpa using List.find?_some found⟩

theorem findSite_eq_none {slug : String} :
    findSite db slug = none ↔ ∀ site ∈ db.sites.rows, site.slug ≠ slug := by
  simp [findSite]

/-- What a call does to the database, and how it ends. -/
inductive Effect (runtime : Runtime) (call : Call) (message : KafkaIngestMessage) (db : Database) :
    Database → Except Failure IngestResult → Prop
  /-- The call threw: nothing is recorded. -/
  | threw (after : Database) (failure : Failure) (unrecorded : Unrecorded db after) :
    Effect runtime call message db after (.error failure)
  /-- No site has the message's slug: nothing is recorded, and the message is
  acknowledged. -/
  | unknown (after : Database) (absent : ∀ site ∈ db.sites.rows, site.slug ≠ message.siteSlug)
    (unrecorded : Unrecorded db after) : Effect runtime call message db after (.ok unknownSite)
  /-- The transaction committed. -/
  | persisted (site : Site) (member : site ∈ db.sites.rows) (slug : site.slug = message.siteSlug)
    (middle : Database) (unrecorded : Unrecorded db middle) (emissionPointMap : InsertionMap String Nat)
    (sound : ResultSound middle.siteEmissionPoints site.id emissionPointMap)
    (rows : List Measurement) (increments : List MetricsIncrement)
    (commits : Commits runtime message site.id site.timezone emissionPointMap rows increments middle) :
    Effect runtime call message db
      (committed runtime call message site.id site.timezone rows increments middle)
      (.ok (persistedResult runtime message site.id (middle.measurements.created rows)))

private theorem handleFor_cases {outcome : Except Failure IngestResult} {site : Site}
    (remembers : Remembers db process) (member : site ∈ db.sites.rows) (slug : site.slug = message.siteSlug)
    (handled : handleFor runtime call message site.id site.timezone db process = (after, process', outcome)) :
    Effect runtime call message db after outcome ∧ Remembers after process' := by
  unfold handleFor at handled
  simp only at handled
  split at handled
  · rename_i middle learned failure resolved
    cases handled
    have resolves := resolveEmissionPoints_spec remembers.points resolved
    refine ⟨.threw _ failure resolves.unrecorded, fun slug id timezone found => ?_, resolves.cache⟩
    rw [resolves.siteIdCache] at found
    rw [resolves.unrecorded.sites]
    exact remembers.sites slug id timezone found
  · rename_i middle learned emissionPointMap resolved
    have resolves := resolveEmissionPoints_spec remembers.points resolved
    have remembered : Remembers middle learned := by
      refine ⟨fun slug id timezone found => ?_, resolves.cache⟩
      rw [resolves.siteIdCache] at found
      rw [resolves.unrecorded.sites]
      exact remembers.sites slug id timezone found
    split at handled
    · rename_i failure _
      cases handled
      exact ⟨.threw _ failure resolves.unrecorded, remembered⟩
    · rename_i committedDb result done
      cases handled
      obtain ⟨rows, increments, commits, rfl, rfl⟩ := persist_eq_ok done
      exact ⟨.persisted site member slug middle resolves.unrecorded emissionPointMap
        (resolves.sound _ rfl) rows increments commits, ⟨remembered.sites, remembered.points⟩⟩

/-- **What one call does.** -/
theorem handle_cases {outcome : Except Failure IngestResult} (remembers : Remembers db process)
    (handled : handle runtime call message db process = (after, process', outcome)) :
    Effect runtime call message db after outcome ∧ Remembers after process' := by
  unfold handle at handled
  split at handled
  · rename_i siteId timezone found
    obtain ⟨site, member, slug, rfl, rfl⟩ := remembers.sites _ _ _ found
    exact handleFor_cases remembers member slug handled
  · split at handled
    · cases handled
      exact ⟨.threw _ _ (.refl db), remembers⟩
    · split at handled
      · rename_i missing
        cases handled
        have unrecorded := insertAlert_unrecorded call "unknown_site_in_consumer"
          [("site_slug", .text message.siteSlug), ("batch_id", .text message.batchId)] db
        exact ⟨.unknown _ (findSite_eq_none.mp missing) unrecorded,
          remembers.mono (unrecorded.sites ▸ fun _ member => member) unrecorded.points⟩
      · rename_i site found
        obtain ⟨member, slug⟩ := findSite_eq_some found
        refine handleFor_cases ?_ member slug handled
        refine ⟨fun other id timezone held => ?_, remembers.points⟩
        rcases InsertionMap.get?_set_eq_some held with ⟨rfl, same⟩ | ⟨_, old⟩
        · cases same
          exact ⟨site, member, slug, rfl, rfl⟩
        · exact remembers.sites other id timezone old

end EmissionsPlatform.IngestHandler
