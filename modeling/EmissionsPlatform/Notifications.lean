import EmissionsPlatform.KafkaConsumer
import EmissionsPlatform.MetricsRelay
import EmissionsPlatform.SystemAlertsRelay

/-! From what is queued to who receives it. A batch the API accepts is produced
to Kafka and read by the consumer; the outbox row the consumer writes is posted
as a business alert; and the system alerts that the consumer, the outbox relay
and the metrics relay insert are posted by the relay of their own. Each writer
has its own idea of the fields, and each receiver a schema.

`queued_notifications_accepted` says that they agree: no row that is ever queued
is answered with `invalid_payload`. -/
namespace EmissionsPlatform.Notifications
open Contracts Validation LeaseQueue IngestHandler KafkaConsumer Alerting Transition
open SystemAlertsRelay (Accepted KnownSeverity)
set_option autoImplicit false

/-! ## The wire -/

def measurementJson (m : MeasurementInput) : Json :=
  .object [("emission_point", .string m.emissionPoint), ("recorded_at_ms", .number (.integer m.recordedAtMs)),
    ("value_kg_co2e", .string m.valueKgCo2e)]

/-- The Kafka value of an accepted batch, `{ ...batch, received_at_ms }`. -/
def kafkaValue (batch : IngestBatchInput) (receivedAtMs : Int) : Json :=
  .object [("batch_id", .string batch.batchId), ("site_slug", .string batch.siteSlug),
    ("measurements", .array (batch.measurements.map measurementJson)),
    ("received_at_ms", .number (.integer receivedAtMs))]

/-- The alert is read as it was written, and the receiver answers that it is ok. -/
structure BusinessAccepted (content : Nat × OutboxEvent) : Prop where
  read : alertEnvelopeBusinessSchema (some (envelopeJson (OutboxRelay.envelope content))) =
    .ok (OutboxRelay.envelope content)
  answered : ∀ service, ∃ response,
    (postBusiness service (envelopeJson (OutboxRelay.envelope content))).2 = .ok response

/-! ## The platform -/

structure Platform where
  pipeline : IngestPipeline.Pipeline
  alerting : AlertsService
  systemLog : List AlertEnvelopeSystem
  redis : Keyspace
  /-- The rows of `metrics_outbox` whose script has run. -/
  ran : List Nat

structure Config where
  outboxRelay : Relay.Config
  metricsRelay : Relay.Config
  systemAlertsRelay : SystemAlertsRelay.Config

inductive Action
  | createSite (slug name timezone : String) (emissionLimit : Numeric)
  /-- A consumer process starts. -/
  | start
  /-- A consumer process works on a message of the topic, whoever produced it. -/
  | consume (index : Nat) (call : Call) (topic : String) (partition : Nat) (message : KafkaMessage)
  | outboxRelay (action : OutboxRelay.Action)
  | metricsRelay (action : MetricsRelay.Action)
  | systemAlertsRelay (action : SystemAlertsRelay.Action)

/-- The clock a consumer reads is past 1970. -/
def Action.Clocked : Action → Prop
  | .consume _ call _ _ _ => 0 < call.persistedAtMs
  | _ => True

instance : ∀ action : Action, Decidable action.Clocked
  | .consume _ call _ _ _ => inferInstanceAs (Decidable (0 < call.persistedAtMs))
  | .createSite _ _ _ _ | .start | .outboxRelay _ | .metricsRelay _ | .systemAlertsRelay _ =>
    inferInstanceAs (Decidable True)

/-- The tables are filled by the consumers only. -/
def step (runtime : Runtime) (parse : List UInt8 → Option Json) (config : Config) (platform : Platform) :
    Action → Option Platform
  | .createSite slug name timezone emissionLimit =>
    (IngestPipeline.step runtime platform.pipeline (.createSite slug name timezone emissionLimit)).map
      fun pipeline => { platform with pipeline }
  | .start =>
    (IngestPipeline.step runtime platform.pipeline .start).map fun pipeline => { platform with pipeline }
  | .consume index call topic partition message =>
    platform.pipeline.processes[index]?.map fun process =>
      let (db, process, _) :=
        processMessage runtime parse call topic partition message platform.pipeline.db process
      { platform with pipeline := ⟨db, platform.pipeline.processes.set index process⟩ }
  | .outboxRelay (.ingest _) => none
  | .outboxRelay action =>
    (OutboxRelay.step runtime config.outboxRelay ⟨platform.pipeline, platform.alerting⟩ action).map
      fun relayed => { platform with pipeline := relayed.pipeline, alerting := relayed.alerting }
  | .metricsRelay (.enqueue _ _) => none
  | .metricsRelay action =>
    let db := platform.pipeline.db
    (MetricsRelay.step config.metricsRelay ⟨db.metricsOutbox, db.systemAlerts, platform.redis, platform.ran⟩
      action).map fun relayed => { platform with
        pipeline := { platform.pipeline with
          db := { db with metricsOutbox := relayed.queue, systemAlerts := relayed.systemAlerts } }
        redis := relayed.redis
        ran := relayed.ran }
  | .systemAlertsRelay action =>
    let db := platform.pipeline.db
    (SystemAlertsRelay.step config.systemAlertsRelay platform.systemLog db.systemAlerts action).map
      fun (systemLog, systemAlerts) =>
        { platform with pipeline := { platform.pipeline with db := { db with systemAlerts } }, systemLog }

def initial : Platform := ⟨IngestPipeline.initial, .started, [], InsertionMap.empty, []⟩

variable {runtime : Runtime} {parse : List UInt8 → Option Json} {config : Config} {platform next : Platform}
variable {action : Action} {actions : List Action} {call : Call} {message : KafkaIngestMessage}
variable {db after middle : Database} {process process' : Process} {document : Json}
variable {batch : IngestBatchInput} {receivedAtMs : Int} {event : OutboxEvent}

/-! ## From the API to the consumer -/

theorem measurement_reread {item : Json} {m : MeasurementInput}
    (accepted : measurementInputSchema (some item) = .ok m) :
    measurementInputSchema (some (measurementJson m)) = .ok m := by
  unfold measurementInputSchema object at accepted
  split at accepted
  · obtain ⟨⟨emissionPoint, recordedAtMs, valueKgCo2e⟩, checked, rfl⟩ := map_eq_ok.mp accepted
    simp only [both_eq_ok, emissionPointCodeSchema, epochMillisecondsSchema, numericKgSchema, string_eq_ok,
      integer_eq_ok] at checked
    obtain ⟨⟨-, code⟩, ⟨-, recordedAt⟩, -, value⟩ := checked
    refine map_eq_ok.mpr ⟨(emissionPoint, recordedAtMs, valueKgCo2e), ?_, rfl⟩
    simp only [both_eq_ok, emissionPointCodeSchema, epochMillisecondsSchema, numericKgSchema, string_eq_ok,
      integer_eq_ok]
    exact ⟨⟨rfl, code⟩, ⟨rfl, recordedAt⟩, rfl, value⟩
  · cases accepted

/-- What the API accepts and produces, the consumer accepts with the same
values. -/
theorem kafkaValue_accepted (accepted : ingestBatchSchema (some document) = .ok batch) (clock : 0 < receivedAtMs) :
    kafkaMessageSchema (some (kafkaValue batch receivedAtMs)) = .ok { batch with receivedAtMs } := by
  unfold ingestBatchSchema object at accepted
  split at accepted
  · obtain ⟨⟨batchId, siteSlug, measurements⟩, checked, rfl⟩ := map_eq_ok.mp accepted
    simp only [both_eq_ok, uuidSchema, slugSchema, string_eq_ok, measurementsSchema, array_eq_ok] at checked
    obtain ⟨⟨-, uuid⟩, ⟨-, slug⟩, values, -, sizes, related⟩ := checked
    have reread : List.Forall₂ (fun value m => measurementInputSchema (some value) = .ok m)
        (measurements.map measurementJson) measurements := by
      rw [List.forall₂_map_left_iff, List.forall₂_same]
      intro m member
      obtain ⟨item, -, read⟩ := Fallible.exists_left related member
      exact measurement_reread read
    refine map_eq_ok.mpr ⟨(⟨batchId, siteSlug, measurements⟩, receivedAtMs), both_eq_ok.mpr ⟨?_, ?_⟩, rfl⟩
    · refine map_eq_ok.mpr ⟨(batchId, siteSlug, measurements), ?_, rfl⟩
      simp only [both_eq_ok, uuidSchema, slugSchema, string_eq_ok, measurementsSchema, array_eq_ok]
      refine ⟨⟨rfl, uuid⟩, ⟨rfl, slug⟩, _, rfl, ?_, reread⟩
      rwa [List.length_map, ← related.length_eq]
    · rw [integer_eq_ok]
      exact ⟨rfl, List.forall_mem_singleton.mpr (decide_eq_true clock)⟩
  · cases accepted

/-! ## From the consumer to the alerting receiver -/

/-- What the receiver's schema asks of an outbox row. -/
structure Announceable (event : OutboxEvent) : Prop where
  eventType : event.eventType = "ingest.batch.persisted"
  batchId : uuidRegex event.payload.batchId = true
  inserted : 0 ≤ event.payload.measurementsInserted
  submitted : 0 < event.payload.measurementsSubmitted
  received : 0 < event.payload.receivedAtMs
  persisted : 0 < event.payload.persistedAtMs

theorem accepted_of_announceable (id : Nat) (announceable : Announceable event) : BusinessAccepted (id, event) := by
  obtain ⟨eventType, aggregateId, ⟨siteSlug, batchId, inserted, submitted, sumKg, received, persisted⟩⟩ := event
  obtain ⟨rfl, uuid, nonnegative, positive, receivedAt, persistedAt⟩ := announceable
  have payload : alertEnvelopeBusinessPayloadSchema
      (some (payloadJson ⟨siteSlug, batchId, inserted, submitted, sumKg, received, persisted⟩)) =
        .ok ⟨siteSlug, batchId, inserted, submitted, sumKg, received, persisted⟩ := by
    refine map_eq_ok.mpr ⟨(siteSlug, batchId, inserted, submitted, sumKg, received, persisted), ?_, rfl⟩
    simp only [both_eq_ok, uuidSchema, string_eq_ok, integer_eq_ok, List.forall_mem_singleton]
    exact ⟨⟨rfl, List.forall_mem_nil _⟩, ⟨rfl, uuid⟩, ⟨rfl, decide_eq_true nonnegative⟩,
      ⟨rfl, decide_eq_true positive⟩, ⟨rfl, List.forall_mem_nil _⟩, ⟨rfl, decide_eq_true receivedAt⟩,
      ⟨rfl, decide_eq_true persistedAt⟩⟩
  have read : alertEnvelopeBusinessSchema (some (envelopeJson (OutboxRelay.envelope
      (id, ⟨"ingest.batch.persisted", aggregateId,
        ⟨siteSlug, batchId, inserted, submitted, sumKg, received, persisted⟩⟩)))) =
        .ok (OutboxRelay.envelope (id, ⟨"ingest.batch.persisted", aggregateId,
          ⟨siteSlug, batchId, inserted, submitted, sumKg, received, persisted⟩⟩)) := by
    refine map_eq_ok.mpr ⟨(toString id, "ingest.batch.persisted", aggregateId, _), ?_, rfl⟩
    simp only [both_eq_ok, string_eq_ok, literal_eq_ok]
    exact ⟨⟨rfl, List.forall_mem_nil _⟩, ⟨rfl, trivial⟩, ⟨rfl, List.forall_mem_nil _⟩, payload⟩
  refine ⟨read, fun service => ?_⟩
  simp only [postBusiness, read]
  exact ⟨_, rfl⟩

/-- What the consumer announces of a message it accepted, however many readings
were new. -/
theorem outboxEvent_announceable (accepted : kafkaMessageSchema (some document) = .ok message)
    (clock : 0 < call.persistedAtMs) (insertedRows : List Measurement) :
    Announceable (outboxEvent runtime call message insertedRows) := by
  have valid := kafkaMessage_valid accepted
  refine ⟨rfl, valid.batchId, Int.natCast_nonneg _, ?_, ?_, clock⟩
  · exact Int.natCast_pos.mpr (List.length_pos_of_ne_nil valid.nonempty)
  · unfold kafkaMessageSchema object at accepted
    split at accepted
    · obtain ⟨⟨batch, receivedAtMs⟩, checked, rfl⟩ := map_eq_ok.mp accepted
      obtain ⟨-, positive⟩ := integer_eq_ok.mp (both_eq_ok.mp checked).2
      exact of_decide_eq_true (positive _ List.mem_cons_self)
    · cases accepted

/-! ## What the queues carry -/

structure Acceptable (db : Database) : Prop where
  outbox : Carries Announceable KnownSeverity db.outbox
  metricsOutbox : Carries (fun _ => True) KnownSeverity db.metricsOutbox
  systemAlerts : Carries KnownSeverity (fun _ => True) db.systemAlerts

theorem warn_known (alertType : String) (payload : List (String × AlertField)) :
    KnownSeverity ⟨alertType, "warn", payload⟩ :=
  List.mem_map.mpr ⟨.warn, List.mem_cons_of_mem _ List.mem_cons_self, rfl⟩

theorem critical_known (alertType : String) (payload : List (String × AlertField)) :
    KnownSeverity ⟨alertType, "critical", payload⟩ :=
  List.mem_map.mpr ⟨.critical, List.mem_cons_of_mem _ (List.mem_cons_of_mem _ List.mem_cons_self), rfl⟩

/-- The consumer's own alerts. -/
theorem Acceptable.insertAlert (acceptable : Acceptable db) (call : Call) (alertType : String)
    (payload : List (String × AlertField)) : Acceptable (insertAlert call alertType payload db) := by
  unfold IngestHandler.insertAlert
  split
  · exact acceptable
  · exact { acceptable with
      systemAlerts := acceptable.systemAlerts.enqueue _ (List.forall_mem_singleton.mpr (warn_known _ _)) }

/-- Resolving emission points touches no queue. -/
theorem Acceptable.resolveEmissionPoints (acceptable : Acceptable db) {siteId : Nat}
    {measurements : List MeasurementInput} {outcome : Except Failure (InsertionMap String Nat)}
    (resolved : resolveEmissionPoints call siteId measurements db process = (after, process', outcome)) :
    Acceptable after := by
  unfold IngestHandler.resolveEmissionPoints at resolved
  simp only at resolved
  split at resolved
  · cases resolved
    exact acceptable
  · split at resolved
    · cases resolved
      exact acceptable
    · split at resolved
      · cases resolved
        exact acceptable
      · split at resolved
        · cases resolved
          exact acceptable
        · cases resolved
          exact ⟨acceptable.outbox, acceptable.metricsOutbox, acceptable.systemAlerts⟩

theorem Acceptable.handleFor (acceptable : Acceptable db) {siteId : Nat} {timezone : String}
    (announceable : ∀ insertedRows, Announceable (outboxEvent runtime call message insertedRows)) :
    Acceptable (handleFor runtime call message siteId timezone db process).1 := by
  unfold IngestHandler.handleFor
  cases resolved : IngestHandler.resolveEmissionPoints call siteId message.measurements db process with
  | mk middle rest =>
    obtain ⟨learned, outcome⟩ := rest
    have middleAcceptable := acceptable.resolveEmissionPoints resolved
    cases outcome with
    | error failure => exact middleAcceptable
    | ok emissionPointMap =>
      cases done : persist runtime call message siteId timezone
          (runtime.siteLocalYearMonth (instantOfMs call.now) timezone) emissionPointMap middle with
      | error failure =>
        simp only [done]
        exact middleAcceptable
      | ok written =>
        obtain ⟨committedDb, result⟩ := written
        simp only [done]
        obtain ⟨rows, increments, -, rfl, -⟩ := persist_eq_ok done
        exact ⟨middleAcceptable.outbox.enqueue _ (List.forall_mem_singleton.mpr (announceable _)),
          middleAcceptable.metricsOutbox.enqueue _ fun _ _ => trivial, middleAcceptable.systemAlerts⟩

theorem Acceptable.handle (acceptable : Acceptable db)
    (announceable : ∀ insertedRows, Announceable (outboxEvent runtime call message insertedRows)) :
    Acceptable (handle runtime call message db process).1 := by
  unfold IngestHandler.handle
  split
  · exact acceptable.handleFor announceable
  · split
    · exact acceptable
    · split
      · exact acceptable.insertAlert _ _ _
      · exact acceptable.handleFor announceable

/-- Whatever the topic holds, the consumer queues nothing a receiver refuses. -/
theorem Acceptable.processMessage (acceptable : Acceptable db) (runtime : Runtime)
    (parse : List UInt8 → Option Json) (clock : 0 < call.persistedAtMs) (topic : String) (partition : Nat)
    (message : KafkaMessage) (process : Process) :
    Acceptable (processMessage runtime parse call topic partition message db process).1 := by
  unfold KafkaConsumer.processMessage
  split
  · exact acceptable.insertAlert _ _ _
  · split
    · exact acceptable.insertAlert _ _ _
    · split
      · exact acceptable.insertAlert _ _ _
      · rename_i kafkaMsg accepted
        exact acceptable.handle fun insertedRows => outboxEvent_announceable accepted clock insertedRows

/-! ## The relays -/

theorem outboxRelay_alerts {relay : Relay.Config} {alerting : AlertsService} {startedAt : Int}
    {row : Row OutboxEvent} {random : Nat} {post : OutboxRelay.Post} :
    ∀ alert ∈ (OutboxRelay.deliverRow relay alerting startedAt row random post).2.2, KnownSeverity alert := by
  intro alert reported
  have given : ∀ error, alert ∈ (OutboxRelay.handleFailure relay startedAt row error random).2 →
      KnownSeverity alert := by
    intro error member
    obtain ⟨attempts, rfl⟩ := Relay.mem_handleFailure member
    exact critical_known _ _
  cases post with
  | unreachable error => exact given error reported
  | replyLost error => exact given error reported
  | replied errText =>
    simp only [OutboxRelay.deliverRow] at reported
    cases posted : postBusiness alerting (envelopeJson (OutboxRelay.envelope row.content)) with
    | mk later answer =>
      rw [posted] at reported
      cases answer with
      | ok response => cases reported
      | error issues => exact given _ reported

theorem metricsRelay_alerts {relay : Relay.Config} {state : MetricsRelay.State} {startedAt : Int}
    {row : Row MetricsIncrement} {random : Nat} {call : MetricsRelay.RedisCall} {redis : Keyspace}
    {ran : List Nat} {delivery : Delivery} {alerts : List SystemAlert}
    (applied : MetricsRelay.applyRow relay state startedAt row random call = some (redis, ran, delivery, alerts)) :
    ∀ alert ∈ alerts, KnownSeverity alert := by
  have given : ∀ error, ∀ alert ∈ (MetricsRelay.handleFailure relay startedAt row error random).2,
      KnownSeverity alert := by
    intro error alert member
    obtain ⟨attempts, rfl⟩ := Relay.mem_handleFailure member
    exact critical_known _ _
  cases call with
  | replied =>
    obtain ⟨_, -, same⟩ := Option.map_eq_some_iff.mp applied
    cases same
    exact nofun
  | replyLost error =>
    simp only [MetricsRelay.applyRow, Option.map_eq_some_iff, Prod.mk.injEq] at applied
    obtain ⟨_, -, -, -, written⟩ := applied
    have reported := given error
    rwa [written] at reported
  | failed error =>
    simp only [MetricsRelay.applyRow, Option.some.injEq, Prod.mk.injEq] at applied
    obtain ⟨-, -, written⟩ := applied
    have reported := given error
    rwa [written] at reported

/-- A tick's commit moves its alerts to their table. -/
theorem commitTick_carries {α : Type} {Fits : α → Prop} {now : Int} {worker : Nat}
    {queue later : Queue α SystemAlert} {systemAlerts laterAlerts : Queue SystemAlert Empty}
    (carries : Carries Fits KnownSeverity queue) (alerts : Carries KnownSeverity (fun _ => True) systemAlerts)
    (committed : Relay.commitTick now worker queue systemAlerts = some (later, laterAlerts)) :
    Carries Fits KnownSeverity later ∧ Carries KnownSeverity (fun _ => True) laterAlerts := by
  obtain ⟨produced, isCommitted, rfl⟩ := Relay.commitTick_eq_some.mp committed
  obtain ⟨kept, known⟩ := carries.commit isCommitted
  exact ⟨kept, alerts.enqueue now known⟩

theorem Acceptable.outboxRelay (acceptable : Acceptable platform.pipeline.db) {relay : Relay.Config}
    {chosen : OutboxRelay.Action} (ofRelay : ∀ action, chosen ≠ .ingest action) {later : OutboxRelay.Platform}
    (stepped : OutboxRelay.step runtime relay ⟨platform.pipeline, platform.alerting⟩ chosen = some later) :
    Acceptable later.pipeline.db := by
  cases chosen with
  | ingest action => exact absurd rfl (ofRelay action)
  | poll worker now =>
    obtain ⟨outbox, polled, rfl⟩ := Option.map_eq_some_iff.mp stepped
    exact ⟨acceptable.outbox.poll polled, acceptable.metricsOutbox, acceptable.systemAlerts⟩
  | deliver worker post random =>
    obtain ⟨startedAt, row, alerting, delivery, alerts, outbox, -, delivered, settled, rfl⟩ :=
      OutboxRelay.step_deliver stepped
    have known : ∀ alert ∈ alerts, KnownSeverity alert := by
      have reported := @outboxRelay_alerts relay platform.alerting startedAt row random post
      rwa [delivered] at reported
    exact ⟨acceptable.outbox.settle known settled, acceptable.metricsOutbox, acceptable.systemAlerts⟩
  | commit worker now =>
    obtain ⟨⟨outbox, systemAlerts⟩, committed, rfl⟩ := Option.map_eq_some_iff.mp stepped
    obtain ⟨carried, alerts⟩ := commitTick_carries acceptable.outbox acceptable.systemAlerts committed
    exact ⟨carried, acceptable.metricsOutbox, alerts⟩
  | rollback worker =>
    cases stepped
    exact ⟨acceptable.outbox.rollback worker, acceptable.metricsOutbox, acceptable.systemAlerts⟩

theorem Acceptable.metricsRelay (acceptable : Acceptable db) {relay : Relay.Config} {redis : Keyspace}
    {ran : List Nat} {chosen : MetricsRelay.Action}
    (ofRelay : ∀ now increments, chosen ≠ .enqueue now increments) {later : MetricsRelay.State}
    (stepped : MetricsRelay.step relay ⟨db.metricsOutbox, db.systemAlerts, redis, ran⟩ chosen = some later) :
    Acceptable { db with metricsOutbox := later.queue, systemAlerts := later.systemAlerts } := by
  cases chosen with
  | enqueue now increments => exact absurd rfl (ofRelay now increments)
  | poll worker now =>
    obtain ⟨queue, polled, rfl⟩ := Option.map_eq_some_iff.mp stepped
    exact ⟨acceptable.outbox, acceptable.metricsOutbox.poll polled, acceptable.systemAlerts⟩
  | apply worker call random =>
    obtain ⟨startedAt, row, redis, ran, delivery, alerts, queue, -, applied, settled, rfl⟩ :=
      MetricsRelay.step_apply stepped
    exact ⟨acceptable.outbox, acceptable.metricsOutbox.settle (metricsRelay_alerts applied) settled,
      acceptable.systemAlerts⟩
  | commit worker now =>
    obtain ⟨⟨queue, systemAlerts⟩, committed, rfl⟩ := Option.map_eq_some_iff.mp stepped
    obtain ⟨carried, alerts⟩ := commitTick_carries acceptable.metricsOutbox acceptable.systemAlerts committed
    exact ⟨acceptable.outbox, carried, alerts⟩
  | rollback worker =>
    cases stepped
    exact ⟨acceptable.outbox, acceptable.metricsOutbox.rollback worker, acceptable.systemAlerts⟩
  | expireGuard id =>
    simp only [MetricsRelay.step] at stepped
    split at stepped
    · cases stepped
      exact acceptable
    · cases stepped

/-! ## Runs -/

/-- The step lemma: no step queues anything a receiver refuses. -/
theorem step_acceptable (acceptable : Acceptable platform.pipeline.db) (clocked : action.Clocked)
    (stepped : step runtime parse config platform action = some next) : Acceptable next.pipeline.db := by
  cases action with
  | createSite slug name timezone emissionLimit =>
    cases stepped
    exact ⟨acceptable.outbox, acceptable.metricsOutbox, acceptable.systemAlerts⟩
  | start =>
    cases stepped
    exact acceptable
  | consume index call topic partition message =>
    obtain ⟨process, -, rfl⟩ := Option.map_eq_some_iff.mp stepped
    exact acceptable.processMessage runtime parse clocked topic partition message process
  | outboxRelay chosen =>
    have ofRelay : ∀ action, chosen ≠ .ingest action := by
      rintro action rfl
      cases stepped
    simp only [step] at stepped
    obtain ⟨later, relayed, rfl⟩ := Option.map_eq_some_iff.mp stepped
    exact acceptable.outboxRelay ofRelay relayed
  | metricsRelay chosen =>
    have ofRelay : ∀ now increments, chosen ≠ .enqueue now increments := by
      rintro now increments rfl
      cases stepped
    simp only [step] at stepped
    obtain ⟨later, relayed, rfl⟩ := Option.map_eq_some_iff.mp stepped
    exact acceptable.metricsRelay ofRelay relayed
  | systemAlertsRelay chosen =>
    obtain ⟨⟨systemLog, systemAlerts⟩, relayed, rfl⟩ := Option.map_eq_some_iff.mp stepped
    exact { acceptable with
      systemAlerts := SystemAlertsRelay.step_carries acceptable.systemAlerts relayed }

theorem initial_acceptable : Acceptable initial.pipeline.db := ⟨empty_carries, empty_carries, empty_carries⟩

theorem run_acceptable (clocked : ∀ action ∈ actions, action.Clocked)
    (ran : run (step runtime parse config) initial actions = some platform) : Acceptable platform.pipeline.db :=
  run_invariant_of_kind Action.Clocked (fun platform => Acceptable platform.pipeline.db)
    (fun acceptable clocked stepped => step_acceptable acceptable clocked stepped) clocked initial_acceptable ran

/-- **Every queued notification is acceptable to its receiver.** A batch the API
accepts is accepted by the consumer as it was, and however many of its readings
are new, so is the alert of its outbox row; and in every run, whatever the topic
holds, so are all rows of the outbox and of the system alerts. -/
theorem queued_notifications_accepted (runtime : Runtime) (parse : List UInt8 → Option Json) (config : Config)
    {actions : List Action} {platform : Platform} (clocked : ∀ action ∈ actions, action.Clocked)
    (ran : run (step runtime parse config) initial actions = some platform) :
    (∀ document batch receivedAtMs, ingestBatchSchema (some document) = .ok batch → 0 < receivedAtMs →
        kafkaMessageSchema (some (kafkaValue batch receivedAtMs)) = .ok { batch with receivedAtMs } ∧
          ∀ (call : Call) (insertedRows : List Measurement) (id : Nat), 0 < call.persistedAtMs →
            BusinessAccepted (id, outboxEvent runtime call { batch with receivedAtMs } insertedRows)) ∧
      (∀ row ∈ platform.pipeline.db.outbox.rows, BusinessAccepted row.content) ∧
        ∀ row ∈ platform.pipeline.db.systemAlerts.rows, Accepted row.content := by
  refine ⟨?_, ?_, ?_⟩
  · intro document batch receivedAtMs accepted received
    have produced := kafkaValue_accepted accepted received
    refine ⟨produced, fun call insertedRows id clock => ?_⟩
    exact accepted_of_announceable id (outboxEvent_announceable produced clock insertedRows)
  · intro row member
    exact accepted_of_announceable row.id ((run_acceptable clocked ran).outbox.rows row member)
  · intro row member
    exact SystemAlertsRelay.accepted_of_severity ((run_acceptable clocked ran).systemAlerts.rows row member)

private def stackBatch : IngestBatchInput :=
  ⟨"3F2A6C1E-8d4b-4c7a-9e51-0b6d2f7a8c90", "north-plant", [⟨"stack-1", 1704067200000, "1.5"⟩]⟩

private def stackBody : Json :=
  .object [("measurements", .array [measurementJson ⟨"stack-1", 1704067200000, "1.5"⟩]),
    ("site_slug", .string "north-plant"), ("batch_id", .string "3F2A6C1E-8d4b-4c7a-9e51-0b6d2f7a8c90")]

/-- One byte stands for the batch, any other value is no JSON. -/
private def parseByte (bytes : List UInt8) : Option Json :=
  if bytes = [123] then some (kafkaValue stackBatch 1704067201000) else none

/-- A single attempt for every row. -/
private def oneTry : Relay.Config := ⟨10, 1, 1000000, 60000000⟩

private def oneTryEach : Config := ⟨oneTry, oneTry, ⟨oneTry, fun startedAt => startedAt + 31536000000000⟩⟩

/-- A batch is stored and its announcement given up, and a tombstone arrives. -/
private def givenUp : List Action :=
  [.createSite "north-plant" "North plant" "Africa/Abidjan" Numeric.zero, .start,
    .consume 0 (.healthy 1704067202000 1704067202001) "emissions.ingest.v1" 0 ⟨some [123], "0"⟩,
    .consume 0 (.healthy 1704067203000 1704067203001) "emissions.ingest.v1" 0 ⟨none, "1"⟩,
    .outboxRelay (.poll 7 1704067204000000), .outboxRelay (.deliver 7 (.unreachable "fetch failed") 0),
    .outboxRelay (.commit 7 1704067204000001), .systemAlertsRelay (.poll 8 1704067205000000),
    .systemAlertsRelay (.deliver 8 (.replied "") 0)]

private theorem givenUp_ran : (run (step .exactUtc parseByte oneTryEach) initial givenUp).isSome := by decide +kernel

theorem given_up_announcement_accepted :
    let platform := (run (step .exactUtc parseByte oneTryEach) initial givenUp).get givenUp_ran
    platform.pipeline.db.outbox.rows.length = 1 ∧ platform.pipeline.db.systemAlerts.rows.length = 2 ∧
      kafkaMessageSchema (some (kafkaValue stackBatch 1704067201000)) =
        .ok { stackBatch with receivedAtMs := 1704067201000 } ∧
      (∀ row ∈ platform.pipeline.db.outbox.rows, BusinessAccepted row.content) ∧
        ∀ row ∈ platform.pipeline.db.systemAlerts.rows, Accepted row.content :=
  have accepted := queued_notifications_accepted .exactUtc parseByte oneTryEach
    (by decide) (Option.some_get givenUp_ran).symm
  ⟨by decide +kernel, by decide +kernel,
    (accepted.1 stackBody stackBatch 1704067201000 (by rfl) (by decide)).1, accepted.2⟩

end EmissionsPlatform.Notifications
