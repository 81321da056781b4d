import EmissionsPlatform.Redelivery

/-! The consumer's reading of one Kafka message
(`KafkaConsumerService.processMessage`). A value that is missing, is no JSON or
fails the schema is reported and acknowledged; any other is handled. A message
whose handling throws is fetched again, so one that always throws holds up its
partition for ever.

`processMessage_returns_iff` says which messages a healthy consumer gets past:
those whose instants the database takes, and whose new readings add up, month
by month, to something the metrics outbox has room for. -/
namespace EmissionsPlatform.KafkaConsumer
open Contracts UniqueIndex EmissionPoints IngestHandler IngestPipeline Redelivery Transition
set_option autoImplicit false

/-- A message of the ingest topic. -/
structure KafkaMessage where
  /-- `null` is a tombstone; an empty buffer is a value. -/
  value : Option (List UInt8)
  offset : String
  deriving DecidableEq

/-- The alert of a message that cannot be handled. -/
def reportMalformed (call : Call) (reason : String) (details : List (String × AlertField)) (topic : String)
    (partition : Nat) (message : KafkaMessage) (db : Database) : Database :=
  insertAlert call "malformed_kafka_message"
    (("reason", .text reason) :: details ++
      [("topic", .text topic), ("partition", .number partition), ("offset", .text message.offset)]) db

/-- `processMessage`; `parse` is `JSON.parse` of the decoded bytes. -/
def processMessage (runtime : Runtime) (parse : List UInt8 → Option Json) (call : Call) (topic : String)
    (partition : Nat) (message : KafkaMessage) (db : Database) (process : Process) :
    Database × Process × Except Failure Unit :=
  match message.value with
  | none => (reportMalformed call "empty value" [] topic partition message db, process, .ok ())
  | some bytes =>
    match parse bytes with
    | none => (reportMalformed call "JSON parse failed" [] topic partition message db, process, .ok ())
    | some parsed =>
      match kafkaMessageSchema (some parsed) with
      | .error issues =>
        (reportMalformed call "schema validation failed" [("issues", .texts issues)] topic partition message db,
          process, .ok ())
      | .ok kafkaMsg =>
        let (db, process, outcome) := handle runtime call kafkaMsg db process
        (db, process, outcome.map fun _ => ())

/-! ## What a message adds -/

/-- The readings of a message that are not stored yet. -/
def newReadings (db : Database) (message : KafkaIngestMessage) : List Reading :=
  admitted Reading.key ((readings db).map Reading.key) (submitted db.sites message)

/-- What `writeMetricsOutbox` makes of the readings of one month, in millionths. -/
def monthTotal (runtime : Runtime) (timezone : String) (new : List Reading) (month : YearMonth) : Nat :=
  runtime.arithmetic.toMillionths (runtime.arithmetic.addUp
    ((new.filter fun reading => runtime.siteLocalYearMonth reading.recordedAt timezone = month).map
      fun reading => runtime.arithmetic.parseFloat reading.value.text))

/-- The database takes every instant of the message, and the new readings of
every month add up to less than 10^12. -/
def Digestible (runtime : Runtime) (db : Database) (site : Site) (message : KafkaIngestMessage) : Prop :=
  (∀ m ∈ message.measurements, runtime.acceptsTimestamp m.recordedAtMs = true) ∧
    ∀ reading ∈ newReadings db message,
      monthTotal runtime site.timezone (newReadings db message)
        (runtime.siteLocalYearMonth reading.recordedAt site.timezone) < 10 ^ 18

instance (runtime : Runtime) (db : Database) (site : Site) (message : KafkaIngestMessage) :
    Decidable (Digestible runtime db site message) :=
  inferInstanceAs (Decidable ((∀ m ∈ _, _) ∧ ∀ reading ∈ _, _))

variable {runtime : Runtime} {call : Call} {message : KafkaIngestMessage} {db after middle : Database}
variable {process : Process} {emissionPointMap : InsertionMap String Nat} {rows : List Measurement}
variable {site : Site} {siteId : Nat} {timezone : String} {pipeline : Pipeline} {actions : List IngestPipeline.Action}

theorem newReadings_unrecorded (wellformed : Wellformed db) (unrecorded : Unrecorded db after) :
    newReadings after message = newReadings db message := by
  rw [newReadings, readings_unrecorded wellformed unrecorded, unrecorded.sites, newReadings]

/-- The sums of created rows are those of the readings they stand for. -/
theorem monthTotal_describe (points : Table EmissionPoint.key) (month : YearMonth) :
    monthTotal runtime timezone (rows.map (describe points)) month =
      runtime.arithmetic.toMillionths (monthSum runtime timezone month rows) := by
  rw [monthTotal, List.filter_map, List.map_map]
  rfl

/-! ## When a transaction can commit -/

theorem mem_monthlySums {sum : YearMonth × runtime.arithmetic.Number} :
    sum ∈ monthlySums runtime timezone rows ↔
      ∃ row ∈ rows,
        sum = (monthOf runtime timezone row, monthSum runtime timezone (monthOf runtime timezone row) rows) := by
  have ofItsMonth : sum ∈ monthlySums runtime timezone rows ↔
      sum ∈ (monthlySums runtime timezone rows).filter fun other => other.1 = sum.1 := by simp
  rw [ofItsMonth, monthlySums_filter]
  split
  · rename_i none
    refine ⟨nofun, ?_⟩
    rintro ⟨row, member, rfl⟩
    have among : row ∈ ofMonth runtime timezone (monthOf runtime timezone row) rows :=
      List.mem_filter.mpr ⟨member, by simp⟩
    rw [none] at among
    cases among
  · rename_i some
    rw [List.mem_singleton]
    constructor
    · intro same
      obtain ⟨row, among⟩ := List.exists_mem_of_ne_nil _ some
      obtain ⟨member, inMonth⟩ := List.mem_filter.mp among
      exact ⟨row, member, by rw [of_decide_eq_true inMonth]; exact same⟩
    · rintro ⟨row, member, rfl⟩
      rfl

/-- The increments can be written when each month's sum fits its column. -/
theorem increments_exist_iff :
    (∃ increments, List.Forall₂ (IncrementOf runtime siteId) (monthlySums runtime timezone rows) increments) ↔
      ∀ row ∈ rows, runtime.arithmetic.toMillionths
        (monthSum runtime timezone (monthOf runtime timezone row) rows) < 10 ^ 18 := by
  constructor
  · rintro ⟨increments, written⟩ row member
    obtain ⟨increment, -, isIncrement⟩ := Fallible.exists_right written (mem_monthlySums.mpr ⟨row, member, rfl⟩)
    have reads := Numeric.ofText_eq_some_iff.mp isIncrement.delta
    rw [NumberArithmetic.millionths_toFixed, Option.some.injEq] at reads
    rw [reads]
    exact increment.deltaKg.fits
  · intro fits
    apply Fallible.exists_rights
    intro sum member
    obtain ⟨row, proposed, rfl⟩ := mem_monthlySums.mp member
    obtain ⟨deltaKg, reads⟩ := Numeric.ofText_isSome_iff.mpr
      ⟨_, fits row proposed, NumberArithmetic.millionths_toFixed runtime.arithmetic _⟩
    exact ⟨⟨siteId, _, deltaKg⟩, rfl, rfl, reads⟩

/-- The rows can be written when the database takes their instants. -/
theorem rows_exist_iff (valid : ValidMessage message)
    (total : ∀ m ∈ message.measurements, (emissionPointMap.get? m.emissionPoint).isSome) :
    (∃ rows, List.Forall₂ (StoredAs runtime siteId emissionPointMap message.batchId) message.measurements rows) ↔
      ∀ m ∈ message.measurements, runtime.acceptsTimestamp m.recordedAtMs = true := by
  constructor
  · rintro ⟨rows, stored⟩ m member
    obtain ⟨row, -, storedAs⟩ := Fallible.exists_right stored member
    exact storedAs.accepted
  · intro accepted
    apply Fallible.exists_rights
    intro m member
    obtain ⟨emissionPointId, found⟩ := Option.isSome_iff_exists.mp (total m member)
    obtain ⟨value, reads⟩ := Numeric.ofText_of_regex (valid.values m member)
    exact ⟨⟨siteId, emissionPointId, ⟨String.ofList (message.batchId.toList.map Char.toLower)⟩,
      instantOfMs m.recordedAtMs, value⟩, rfl, found, if_pos valid.batchId, rfl, accepted m member, reads⟩

/-- With all services healthy, the transaction commits exactly when the message
is digestible. -/
theorem persist_returns_iff (runtime : Runtime) (healthy : ∀ statement, call.fails statement = false)
    (valid : ValidMessage message)
    (wellformed : Wellformed db) (member : site ∈ db.sites.rows) (slug : site.slug = message.siteSlug)
    (sound : ResultSound db.siteEmissionPoints site.id emissionPointMap)
    (total : ∀ m ∈ message.measurements, (emissionPointMap.get? m.emissionPoint).isSome) :
    (∃ done, persist runtime call message site.id site.timezone
        (runtime.siteLocalYearMonth (instantOfMs call.now) site.timezone) emissionPointMap db = .ok done) ↔
      Digestible runtime db site message := by
  have totals : ∀ rows : List Measurement, rows ≠ [] →
      List.Forall₂ (StoredAs runtime site.id emissionPointMap message.batchId) message.measurements rows →
        ((∀ reading ∈ newReadings db message, monthTotal runtime site.timezone (newReadings db message)
            (runtime.siteLocalYearMonth reading.recordedAt site.timezone) < 10 ^ 18) ↔
          ∀ row ∈ db.measurements.created rows, runtime.arithmetic.toMillionths (monthSum runtime site.timezone
            (monthOf runtime site.timezone row) (db.measurements.created rows)) < 10 ^ 18) := by
    intro rows nonempty stored
    rw [newReadings, ← describe_created wellformed member slug sound nonempty stored, List.forall_mem_map]
    simp only [monthTotal_describe]
    rfl
  have nonempty : ∀ rows : List Measurement,
      List.Forall₂ (StoredAs runtime site.id emissionPointMap message.batchId) message.measurements rows →
        rows ≠ [] := by
    intro rows stored none
    rw [none] at stored
    exact valid.nonempty (List.forall₂_nil_right_iff.mp stored)
  constructor
  · rintro ⟨⟨after, result⟩, done⟩
    obtain ⟨rows, increments, commits, -, -⟩ := persist_eq_ok done
    exact ⟨(rows_exist_iff valid total).mp ⟨rows, commits.stored⟩,
      (totals rows commits.nonempty commits.stored).mpr (increments_exist_iff.mp ⟨increments, commits.written⟩)⟩
  · rintro ⟨accepted, fits⟩
    obtain ⟨rows, stored⟩ := (@rows_exist_iff runtime _ _ site.id valid total).mpr accepted
    obtain ⟨increments, written⟩ := (@increments_exist_iff runtime _ site.id site.timezone).mpr
      ((totals rows (nonempty rows stored) stored).mp fits)
    exact ⟨_, persist_of_commits healthy ⟨nonempty rows stored, stored, written⟩⟩

/-! ## When a message is got past -/

theorem handleFor_returns_iff (healthy : ∀ statement, call.fails statement = false) (valid : ValidMessage message)
    (wellformed : Wellformed db) (cached : CacheSound db.siteEmissionPoints process.emissionPointCache)
    (member : site ∈ db.sites.rows) (slug : site.slug = message.siteSlug) :
    (∃ result, (handleFor runtime call message site.id site.timezone db process).2.2 = .ok result) ↔
      Digestible runtime db site message := by
  obtain ⟨middle, learned, emissionPointMap, resolved⟩ :=
    @resolveEmissionPoints_healthy call site.id db process message.measurements healthy
  have resolves := resolveEmissionPoints_spec cached resolved
  have returns := persist_returns_iff runtime healthy valid
    (wellformed.unrecorded resolves.unrecorded) (resolves.unrecorded.sites ▸ member) slug
    (resolves.sound _ rfl) (resolves.total _ rfl)
  have same : Digestible runtime middle site message ↔ Digestible runtime db site message := by
    rw [Digestible, Digestible, newReadings_unrecorded wellformed resolves.unrecorded]
  rw [← same, ← returns, handleFor]
  simp only [resolved]
  cases persist runtime call message site.id site.timezone
    (runtime.siteLocalYearMonth (instantOfMs call.now) site.timezone) emissionPointMap middle <;> simp

/-- With all services healthy, a valid message is committed or acknowledged
unless its site is known and cannot digest it. -/
theorem handle_returns_iff (runtime : Runtime) (healthy : ∀ statement, call.fails statement = false)
    (valid : ValidMessage message)
    (wellformed : Wellformed db) (remembers : Remembers db process) :
    (∃ result, (handle runtime call message db process).2.2 = .ok result) ↔
      ∀ site ∈ db.sites.rows, site.slug = message.siteSlug → Digestible runtime db site message := by
  have ofSite : ∀ site ∈ db.sites.rows, site.slug = message.siteSlug →
      ((∀ other ∈ db.sites.rows, other.slug = message.siteSlug → Digestible runtime db other message) ↔
        Digestible runtime db site message) := by
    intro site member slug
    refine ⟨fun every => every site member slug, fun digestible other otherMember otherSlug => ?_⟩
    rwa [db.sites.eq_of_key otherMember member (otherSlug.trans slug.symm)]
  unfold handle
  split
  · rename_i siteId timezone found
    obtain ⟨site, member, slug, rfl, rfl⟩ := remembers.sites _ _ _ found
    rw [ofSite site member slug]
    exact handleFor_returns_iff healthy valid wellformed remembers.points member slug
  · rw [if_neg (by simp [healthy])]
    split
    · rename_i missing
      refine iff_of_true ⟨_, rfl⟩ fun site member slug => ?_
      exact absurd slug (findSite_eq_none.mp missing site member)
    · rename_i site found
      obtain ⟨member, slug⟩ := findSite_eq_some found
      rw [ofSite site member slug]
      exact handleFor_returns_iff healthy valid wellformed remembers.points member slug

/-- What the consumer can get past: nothing it cannot read holds it up, and a
message it can read must be digestible for its site, if the site is known. -/
def Passable (runtime : Runtime) (parse : List UInt8 → Option Json) (message : KafkaMessage) (db : Database) : Prop :=
  ∀ parsed ∈ message.value.bind parse, ∀ kafkaMsg ∈ (kafkaMessageSchema (some parsed)).toOption,
    ∀ site ∈ db.sites.rows, site.slug = kafkaMsg.siteSlug → Digestible runtime db site kafkaMsg

instance (runtime : Runtime) (parse : List UInt8 → Option Json) (message : KafkaMessage) (db : Database) :
    Decidable (Passable runtime parse message db) :=
  inferInstanceAs (Decidable (∀ parsed ∈ _, ∀ kafkaMsg ∈ _, ∀ site ∈ _, _ → Digestible _ _ _ _))

/-- **No message can wedge its partition** but one that is not passable: in
every reachable state a healthy consumer returns from exactly the passable
messages. -/
theorem processMessage_returns_iff (runtime : Runtime) (parse : List UInt8 → Option Json)
    (actions : List IngestPipeline.Action) (pipeline : Pipeline) (index : Nat) (process : Process)
    (now persistedAtMs : Int) (topic : String) (partition : Nat) (message : KafkaMessage)
    (ran : run (step runtime) initial actions = some pipeline)
    (held : pipeline.processes[index]? = some process) :
    (processMessage runtime parse (.healthy now persistedAtMs) topic partition message pipeline.db process).2.2 =
        .ok () ↔
      Passable runtime parse message pipeline.db := by
  have sound := run_sound ran
  unfold processMessage Passable
  cases value : message.value with
  | none => simp
  | some bytes =>
    cases read : parse bytes with
    | none => simp [read]
    | some parsed =>
      cases accepted : kafkaMessageSchema (some parsed) with
      | error issues => simp [read, accepted, Except.toOption]
      | ok kafkaMsg =>
        have healthy : ∀ statement, (Call.healthy now persistedAtMs).fails statement = false := fun _ => rfl
        have returns := handle_returns_iff runtime healthy (kafkaMessage_valid accepted) sound.wellformed
          (sound.remembers process (List.mem_of_getElem? held))
        simp only [Option.bind_some, read, accepted, Except.toOption, Option.mem_some_iff, forall_eq']
        rw [← returns]
        cases (handle runtime (.healthy now persistedAtMs) kafkaMsg pipeline.db process).2.2 <;> simp [Except.map]

/-- Doubles, every site on UTC. -/
private def doubles : Runtime := ⟨.binary64, fun _ => .utc, fun _ => true⟩

/-- A message with one reading, as it is sent. -/
private def wire (value : String) : List UInt8 :=
  ("\x7b\"batch_id\":\"3f2a6c1e-8d4b-4c7a-9e51-0b6d2f7a8c90\",\"site_slug\":\"north-plant\",\"measurements\":" ++
    "[\x7b\"emission_point\":\"stack-1\",\"recorded_at_ms\":1704067200000,\"value_kg_co2e\":\"" ++ value ++
    "\"\x7d],\"received_at_ms\":1704067201000\x7d").toUTF8.data.toList

/-- And as it is parsed. -/
private def document (value : String) : Json :=
  .object [("batch_id", .string "3f2a6c1e-8d4b-4c7a-9e51-0b6d2f7a8c90"), ("site_slug", .string "north-plant"),
    ("measurements", .array [.object [("emission_point", .string "stack-1"),
      ("recorded_at_ms", .number (.integer 1704067200000)), ("value_kg_co2e", .string value)]]),
    ("received_at_ms", .number (.integer 1704067201000))]

private def parseWire (value : String) (bytes : List UInt8) : Option Json :=
  if bytes = wire value then some (document value) else none

/-- A site and a consumer. -/
private def started : List IngestPipeline.Action :=
  [.createSite "north-plant" "North plant" "Africa/Abidjan" Numeric.zero, .start]

private theorem started_ran : (run (step doubles) initial started).isSome := by decide

theorem small_reading_is_got_past :
    (processMessage doubles (parseWire "1.500000") (.healthy 1704067202000 1704067202000) "emissions.ingest.v1" 0
      ⟨some (wire "1.500000"), "0"⟩ ((run (step doubles) initial started).get started_ran).db .started).2.2 = .ok () :=
  (processMessage_returns_iff doubles (parseWire "1.500000") started _ 0 .started 1704067202000 1704067202000
    "emissions.ingest.v1" 0 ⟨some (wire "1.500000"), "0"⟩ (Option.some_get started_ran).symm (by decide)).mpr
      (by decide +kernel)

/-- The largest reading the schema admits is 10^12 as a double, for which the
metrics outbox has no room. -/
theorem largest_reading_wedges :
    ¬∀ (runtime : Runtime) (parse : List UInt8 → Option Json) (actions : List IngestPipeline.Action)
      (pipeline : Pipeline) (index : Nat) (process : Process) (now persistedAtMs : Int) (topic : String)
      (partition : Nat) (message : KafkaMessage), run (step runtime) initial actions = some pipeline →
        pipeline.processes[index]? = some process →
          (processMessage runtime parse (.healthy now persistedAtMs) topic partition message pipeline.db
            process).2.2 = .ok () := by
  intro always
  have returned := always doubles (parseWire "999999999999.999999") started _ 0 .started 1704067202000 1704067202000
    "emissions.ingest.v1" 0 ⟨some (wire "999999999999.999999"), "0"⟩ (Option.some_get started_ran).symm (by decide)
  revert returned
  decide +kernel

end EmissionsPlatform.KafkaConsumer
