import EmissionsPlatform.Alerting
import EmissionsPlatform.IngestPipeline
import EmissionsPlatform.Relay

/-! From a persisted batch to its announcement: consumers commit outbox rows,
relay replicas post them to one alerting receiver, and the receiver logs or
suppresses what it is posted.

The receiver suppresses by batch id, so two rows of one batch id are one
announcement. `persisted_batches_announced` says that this is all that can go
wrong while the receiver evicts nothing. -/
namespace EmissionsPlatform.OutboxRelay
open Contracts UniqueIndex LeaseQueue IngestHandler IngestPipeline Relay Alerting Transition
set_option autoImplicit false

/-- The alert of a row the relay gives up. -/
def exhausted (row : Row OutboxEvent) (attempts : Nat) (errMsg : String) : SystemAlert where
  alertType := "outbox_delivery_exhausted"
  severity := "critical"
  payload :=
    [("outbox_id", .text (toString row.id)), ("event_type", .text row.data.eventType),
      ("aggregate_id", .text row.data.aggregateId), ("attempts", .number attempts),
      ("last_error", .text errMsg)]

/-- `handleFailure` of the outbox relay. -/
def handleFailure : Config → Int → Row OutboxEvent → String → Nat → Settlement :=
  Relay.handleFailure exhausted

/-- What the relay posts for a row, by its id and data. -/
def envelope (content : Nat × OutboxEvent) : AlertEnvelopeBusiness :=
  ⟨toString content.1, content.2.eventType, content.2.aggregateId, content.2.payload⟩

/-- How a `POST` ends: the receiver's answer arrives (`errText` is the body of
one that is not ok), the receiver was reached and its answer is lost, or it
was not reached. -/
inductive Post
  | replied (errText : String)
  | replyLost (error : String)
  | unreachable (error : String)
  deriving DecidableEq

/-- `deliverRow`. -/
def deliverRow (config : Config) (alerting : AlertsService) (startedAt : Int) (row : Row OutboxEvent)
    (random : Nat) : Post → AlertsService × Settlement
  | .unreachable error => (alerting, handleFailure config startedAt row error random)
  | .replyLost error =>
    ((postBusiness alerting (envelopeJson (envelope row.content))).1,
      handleFailure config startedAt row error random)
  | .replied errText =>
    match postBusiness alerting (envelopeJson (envelope row.content)) with
    | (alerting, .ok _) => (alerting, markDelivered startedAt row)
    | (alerting, .error _) =>
      (alerting, handleFailure config startedAt row ("HTTP 400: " ++ errText) random)

/-- The write side of the platform and the alerting receiver. -/
structure Platform where
  pipeline : Pipeline
  alerting : AlertsService
  deriving DecidableEq

inductive Action
  | ingest (action : IngestPipeline.Action)
  /-- A replica's tick begins. -/
  | poll (worker : Nat) (now : Int)
  | deliver (worker : Nat) (post : Post) (random : Nat)
  | commit (worker : Nat) (now : Int)
  /-- A replica's tick is rolled back, or the replica dies. -/
  | rollback (worker : Nat)

def Platform.outbox (platform : Platform) : Queue OutboxEvent SystemAlert := platform.pipeline.db.outbox

/-- The relay writes the outbox and the system alerts. -/
def Platform.write (platform : Platform) (alerting : AlertsService)
    (outbox : Queue OutboxEvent SystemAlert) (systemAlerts : Queue SystemAlert Empty) : Platform :=
  ⟨⟨{ platform.pipeline.db with outbox, systemAlerts }, platform.pipeline.processes⟩, alerting⟩

def step (runtime : Runtime) (config : Config) (platform : Platform) : Action → Option Platform
  | .ingest action =>
    (IngestPipeline.step runtime platform.pipeline action).map fun pipeline => { platform with pipeline }
  | .poll worker now =>
    (poll now config.batchSize worker platform.outbox).map fun outbox =>
      platform.write platform.alerting outbox platform.pipeline.db.systemAlerts
  | .deliver worker post random =>
    (platform.outbox.next? worker).bind fun (startedAt, row) =>
      let (alerting, delivery, alerts) := deliverRow config platform.alerting startedAt row random post
      (settle worker delivery alerts platform.outbox).map fun outbox =>
        platform.write alerting outbox platform.pipeline.db.systemAlerts
  | .commit worker now =>
    (commitTick now worker platform.outbox platform.pipeline.db.systemAlerts).map
      fun (outbox, systemAlerts) => platform.write platform.alerting outbox systemAlerts
  | .rollback worker =>
    some (platform.write platform.alerting (rollback worker platform.outbox) platform.pipeline.db.systemAlerts)

def initial : Platform := ⟨IngestPipeline.initial, .started⟩

/-- Some POST of the content was logged as delivered. -/
def Announced (alerting : AlertsService) (content : Nat × OutboxEvent) : Prop :=
  (.delivered, envelope content) ∈ alerting.log

instance (alerting : AlertsService) (content : Nat × OutboxEvent) : Decidable (Announced alerting content) :=
  inferInstanceAs (Decidable (_ ∈ _))

/-- Every outbox row with readings that ended up delivered was announced. -/
def AllAnnounced (platform : Platform) : Prop :=
  ∀ row ∈ platform.outbox.rows, 0 < row.data.payload.measurementsInserted →
    row.delivery.deliveredAt ≠ none → Announced platform.alerting row.content

/-- Every reading of the message is stored under its batch. -/
def Recorded (db : Database) (message : KafkaIngestMessage) : Prop :=
  ∀ site ∈ db.sites.rows, site.slug = message.siteSlug → ∀ m ∈ message.measurements,
    ∃ point ∈ db.siteEmissionPoints.rows, (point.siteId = site.id ∧ point.code = m.emissionPoint) ∧
      ∃ row ∈ db.measurements.rows, Uuid.ofText message.batchId = some row.batchId ∧
        row.emissionPointId = point.id ∧ row.recordedAt = instantOfMs m.recordedAtMs

instance (db : Database) (message : KafkaIngestMessage) : Decidable (Recorded db message) :=
  inferInstanceAs (Decidable (∀ site ∈ _, _ → ∀ m ∈ _, ∃ point ∈ _, _ ∧ ∃ row ∈ _, _ ∧ _ ∧ _))

/-- A consumer adds readings under a batch id only if no outbox row with
readings carries the id already. -/
def FreshBatch (platform : Platform) : Action → Prop
  | .ingest (.handle _ _ message) =>
    (∃ row ∈ platform.outbox.rows, row.data.payload.measurementsInserted ≠ 0 ∧
      row.data.payload.batchId = message.batchId) → Recorded platform.pipeline.db message
  | _ => True

instance (platform : Platform) : ∀ action, Decidable (FreshBatch platform action)
  | .ingest (.handle _ _ _) => inferInstanceAs (Decidable ((∃ row ∈ _, _ ∧ _) → Recorded _ _))
  | .ingest (.createSite _ _ _ _) | .ingest .start => inferInstanceAs (Decidable True)
  | .poll _ _ | .deliver _ _ _ | .commit _ _ | .rollback _ => inferInstanceAs (Decidable True)

/-! ## What a consumer adds to the outbox -/

variable {runtime : Runtime} {config : Config} {platform after : Platform} {action : Action}
variable {pipeline next : Pipeline} {db middle : Database} {message : KafkaIngestMessage}
variable {actions : List Action}

theorem Recorded.unrecorded (recorded : Recorded db message) (unrecorded : Unrecorded db middle) :
    Recorded middle message := by
  intro site member slug m submitted
  rw [unrecorded.sites] at member
  obtain ⟨point, stored, same, row, measured, known⟩ := recorded site member slug m submitted
  exact ⟨point, unrecorded.points stored, same, row, by rwa [unrecorded.measurements], known⟩

/-- A message whose readings are all stored inserts none. -/
theorem created_eq_nil {site : Site} {emissionPointMap : InsertionMap String Nat} {rows : List Measurement}
    {increments : List MetricsIncrement} (recorded : Recorded db message) (member : site ∈ db.sites.rows)
    (slug : site.slug = message.siteSlug)
    (sound : EmissionPoints.ResultSound db.siteEmissionPoints site.id emissionPointMap)
    (commits : Commits runtime message site.id site.timezone emissionPointMap rows increments db) :
    db.measurements.created rows = [] := by
  apply admitted_eq_nil
  intro row proposed
  obtain ⟨m, submitted, storedAs⟩ := Fallible.exists_left commits.stored proposed
  obtain ⟨point, stored, ⟨ofSite, code⟩, old, measured, batch, attributed, recordedAt⟩ :=
    recorded site member slug m submitted
  have samePoint : (⟨row.emissionPointId, site.id, m.emissionPoint⟩ : EmissionPoint) = point :=
    db.siteEmissionPoints.eq_of_key (sound _ _ storedAs.point) stored
      (Prod.ext ofSite.symm code.symm)
  have sameKey : old.key = row.key := by
    have sameBatch := Option.some.inj (batch.symm.trans storedAs.batch)
    rw [Measurement.key, Measurement.key, sameBatch, attributed, recordedAt, storedAs.recordedAt, ← samePoint]
  exact sameKey ▸ List.mem_map_of_mem measured

/-- A step of the write side leaves the outbox alone, or appends the event of a
handled message. -/
theorem ingest_outbox {chosen : IngestPipeline.Action} (sound : IngestPipeline.Sound pipeline)
    (stepped : IngestPipeline.step runtime pipeline chosen = some next) :
    next.db.outbox = pipeline.db.outbox ∨
      ∃ index call message event, chosen = .handle index call message ∧
        next.db.outbox = enqueue (instantOfMs call.now) [event] pipeline.db.outbox ∧
          event.payload.batchId = message.batchId ∧
            (Recorded pipeline.db message → event.payload.measurementsInserted = 0) := by
  cases chosen with
  | createSite slug name timezone emissionLimit => cases stepped; exact Or.inl rfl
  | start => cases stepped; exact Or.inl rfl
  | handle index call message =>
    obtain ⟨process, held, rfl⟩ := step_handle.mp stepped
    obtain ⟨effect, -⟩ := handle_effect runtime call message sound held
    generalize (handle runtime call message pipeline.db process).2.2 = outcome at effect
    generalize (handle runtime call message pipeline.db process).1 = handled at effect
    cases effect with
    | threw _ failure unrecorded => exact Or.inl unrecorded.outbox
    | unknown _ absent unrecorded => exact Or.inl unrecorded.outbox
    | persisted site member slug middle unrecorded emissionPointMap resolved rows increments commits =>
      refine Or.inr ⟨index, call, message,
        outboxEvent runtime call message (middle.measurements.created rows), rfl, ?_, rfl, ?_⟩
      · exact congrArg (enqueue _ _) unrecorded.outbox
      · intro recorded
        simp [outboxEvent, created_eq_nil (recorded.unrecorded unrecorded) (unrecorded.sites ▸ member) slug
          resolved commits]

/-! ## The invariant -/

/-- The rows of the outbox, without their delivery columns. -/
def Platform.events (platform : Platform) : List (Nat × OutboxEvent) := platform.outbox.rows.map Row.content

structure Announcing (platform : Platform) : Prop where
  pipeline : IngestPipeline.Sound platform.pipeline
  queue : LeaseQueue.Sound platform.outbox
  alerting : Alerting.Sound platform.alerting
  /-- What the receiver has logged was posted for some row. -/
  posted : ∀ entry ∈ platform.alerting.log, entry.2.eventType = "ingest.batch.persisted" ∧
    ∃ content ∈ platform.events, entry.2 = envelope content
  /-- A batch id has one row with readings. -/
  distinct : ∀ content ∈ platform.events, ∀ other ∈ platform.events,
    content.2.payload.measurementsInserted ≠ 0 → other.2.payload.measurementsInserted ≠ 0 →
      content.2.payload.batchId = other.2.payload.batchId → content = other
  settled : Settled (fun content => content.2.payload.measurementsInserted ≠ 0 →
    Announced platform.alerting content) platform.outbox

theorem initial_announcing : Announcing initial :=
  ⟨IngestPipeline.initial_sound, empty_sound, started_sound, nofun, nofun, empty_settled⟩

/-- The relay's tables are nothing to the write side. -/
theorem write_sound (sound : IngestPipeline.Sound platform.pipeline) {alerting : AlertsService}
    {outbox : Queue OutboxEvent SystemAlert} {systemAlerts : Queue SystemAlert Empty} :
    IngestPipeline.Sound (platform.write alerting outbox systemAlerts).pipeline := by
  obtain ⟨⟨siteIds, siteFresh, sequenced, measured, attributed, incremented⟩, remembers⟩ := sound
  refine ⟨⟨siteIds, siteFresh, sequenced, measured, attributed, incremented⟩, fun process member => ?_⟩
  exact ⟨(remembers process member).sites, (remembers process member).points⟩

/-- A change of the delivery columns alone. -/
theorem Announcing.write (announcing : Announcing platform) {outbox : Queue OutboxEvent SystemAlert}
    {systemAlerts : Queue SystemAlert Empty} (sound : LeaseQueue.Sound outbox)
    (contents : outbox.rows.map Row.content = platform.events)
    (settled : Settled (fun content => content.2.payload.measurementsInserted ≠ 0 →
      Announced platform.alerting content) outbox) :
    Announcing (platform.write platform.alerting outbox systemAlerts) := by
  have events : (platform.write platform.alerting outbox systemAlerts).events = platform.events := contents
  refine ⟨write_sound announcing.pipeline, sound, announcing.alerting, ?_, ?_, settled⟩
  · rw [events]
    exact announcing.posted
  · rw [events]
    exact announcing.distinct

theorem postBusiness_log (service : AlertsService) (body : Json) :
    service.log ⊆ (postBusiness service body).1.log := by
  unfold postBusiness
  split
  · exact List.Subset.refl _
  · rename_i alert _
    obtain ⟨event, log⟩ := handleBusiness_log service alert
    simp only [log]
    exact List.subset_append_left _ _

/-- Posting a row: the receiver stays sound, and a row with readings that it
accepts is announced. -/
theorem Announcing.post (announcing : Announcing platform) {content : Nat × OutboxEvent}
    (member : content ∈ platform.events) {alerting : AlertsService} {answer : Except (List String) Response}
    (handled : postBusiness platform.alerting (envelopeJson (envelope content)) = (alerting, answer))
    (few : alerting.seen.length < 10000) :
    Announcing { platform with alerting } ∧ ((∃ response, answer = .ok response) →
      content.2.payload.measurementsInserted ≠ 0 → Announced alerting content) := by
  have grows := postBusiness_log platform.alerting (envelopeJson (envelope content))
  rw [handled] at grows
  have room := announcing.alerting.room (Nat.lt_of_le_of_lt (seen_mono grows) few)
  have settled := announcing.settled.mono fun known announced some => grows (announced some)
  unfold postBusiness at handled
  split at handled
  · cases handled
    exact ⟨announcing, fun ⟨_, isOk⟩ => nomatch isOk⟩
  · rename_i alert accepted
    obtain ⟨rfl, event⟩ := envelope_read accepted
    cases handled
    obtain ⟨kind, log⟩ := handleBusiness_log platform.alerting (envelope content)
    obtain ⟨sound, logged⟩ := @handleBusiness_logged _ (envelope content) announcing.alerting room
    have posted : ∀ entry ∈ (handleBusiness platform.alerting (envelope content)).1.log,
        entry.2.eventType = "ingest.batch.persisted" ∧ ∃ known ∈ platform.events, entry.2 = envelope known := by
      rw [log]
      intro entry known
      rcases List.mem_append.mp known with old | new
      · exact announcing.posted entry old
      · rw [List.mem_singleton.mp new]
        exact ⟨event, content, member, rfl⟩
    refine ⟨⟨announcing.pipeline, announcing.queue, sound, posted, announcing.distinct, settled⟩,
      fun _ some => ?_⟩
    -- Whatever was logged under the key was posted for this very row.
    obtain ⟨other, delivered, sameKey⟩ := logged some
    obtain ⟨otherEvent, known, stored, rfl⟩ := posted _ delivered
    have same := announcing.distinct known stored content member (sound.nonempty _ delivered) some
      (batchId_of_dedupKey (otherEvent.trans event.symm) sameKey)
    rwa [same] at delivered

/-- The same rows, and one more that starts undelivered. -/
theorem Announcing.ingest (announcing : Announcing platform) {chosen : IngestPipeline.Action}
    (fresh : FreshBatch platform (.ingest chosen))
    (stepped : IngestPipeline.step runtime platform.pipeline chosen = some next) :
    Announcing { platform with pipeline := next } := by
  have sound := (step_effect announcing.pipeline stepped).2
  have written := ingest_outbox announcing.pipeline stepped
  obtain ⟨-, queue, alerting, posted, distinct, settled⟩ := announcing
  rcases written with same | ⟨index, call, message, event, rfl, added, batch, recorded⟩
  · have outbox : ({ platform with pipeline := next } : Platform).outbox = platform.outbox := same
    refine ⟨sound, outbox ▸ queue, alerting, ?_, ?_, outbox ▸ settled⟩
    · rw [Platform.events, outbox]
      exact posted
    · rw [Platform.events, outbox]
      exact distinct
  · have outbox : ({ platform with pipeline := next } : Platform).outbox =
        enqueue (instantOfMs call.now) [event] platform.outbox := added
    have events : ({ platform with pipeline := next } : Platform).events =
        platform.events ++ [(platform.outbox.nextId, event)] := by
      rw [Platform.events, outbox, enqueue, List.map_append]
      rfl
    -- A batch id that has a row with readings gets no second one.
    have apart : ∀ content ∈ platform.events, content.2.payload.measurementsInserted ≠ 0 →
        event.payload.measurementsInserted ≠ 0 → content.2.payload.batchId ≠ event.payload.batchId := by
      intro content member some more same
      obtain ⟨row, stored, rfl⟩ := List.mem_map.mp member
      exact more (recorded (fresh ⟨row, stored, some, same.trans batch⟩))
    refine ⟨sound, outbox ▸ enqueue_sound _ _ queue, alerting, ?_, ?_, outbox ▸ enqueue_settled _ _ settled⟩
    · intro entry logged
      obtain ⟨event, content, member, same⟩ := posted entry logged
      exact ⟨event, content, events ▸ List.mem_append_left _ member, same⟩
    · rw [events]
      intro content member other otherMember some more same
      rcases List.mem_append.mp member with old | new
      · rcases List.mem_append.mp otherMember with otherOld | otherNew
        · exact distinct content old other otherOld some more same
        · cases List.mem_singleton.mp otherNew
          exact absurd same (apart content old some more)
      · cases List.mem_singleton.mp new
        rcases List.mem_append.mp otherMember with otherOld | otherNew
        · exact absurd same.symm (apart other otherOld more some)
        · exact (List.mem_singleton.mp otherNew).symm

/-! ## Steps and runs -/

theorem step_deliver {worker random : Nat} {post : Post}
    (stepped : step runtime config platform (.deliver worker post random) = some after) :
    ∃ startedAt row alerting delivery alerts outbox,
      platform.outbox.next? worker = some (startedAt, row) ∧
        deliverRow config platform.alerting startedAt row random post = (alerting, delivery, alerts) ∧
          settle worker delivery alerts platform.outbox = some outbox ∧
            after = platform.write alerting outbox platform.pipeline.db.systemAlerts := by
  simp only [step, Option.bind_eq_some_iff, Option.map_eq_some_iff] at stepped
  obtain ⟨⟨startedAt, row⟩, next, outbox, settled, rfl⟩ := stepped
  exact ⟨startedAt, row, _, _, _, outbox, next, rfl, settled, rfl⟩

/-- The receiver is not reached and the row not delivered, or the receiver is
posted the row and delivers it only with an answer. -/
theorem deliverRow_cases {alerting later : AlertsService} {startedAt : Int} {row : Row OutboxEvent}
    {random : Nat} {post : Post} {delivery : Delivery} {alerts : List SystemAlert}
    (undelivered : row.delivery.deliveredAt = none)
    (handled : deliverRow config alerting startedAt row random post = (later, delivery, alerts)) :
    later = alerting ∧ delivery.deliveredAt = none ∨
      ∃ answer, postBusiness alerting (envelopeJson (envelope row.content)) = (later, answer) ∧
        (delivery.deliveredAt ≠ none → ∃ response, answer = .ok response) := by
  have failed : ∀ errMsg, (handleFailure config startedAt row errMsg random).1.deliveredAt = none :=
    fun errMsg => handleFailure_deliveredAt.trans undelivered
  cases post with
  | unreachable error =>
    obtain ⟨rfl, written⟩ := Prod.mk.inj handled
    exact Or.inl ⟨rfl, by rw [← failed error, written]⟩
  | replyLost error =>
    obtain ⟨rfl, written⟩ := Prod.mk.inj handled
    refine Or.inr ⟨_, rfl, fun delivered => absurd ?_ delivered⟩
    rw [← failed error, written]
  | replied errText =>
    simp only [deliverRow] at handled
    split at handled
    · rename_i receiver response answered
      cases handled
      exact Or.inr ⟨_, answered, fun _ => ⟨response, rfl⟩⟩
    · rename_i receiver issues answered
      obtain ⟨rfl, written⟩ := Prod.mk.inj handled
      refine Or.inr ⟨_, answered, fun delivered => absurd ?_ delivered⟩
      rw [← failed ("HTTP 400: " ++ errText), written]

/-- A receiver's log only grows. -/
theorem deliverRow_log (alerting : AlertsService) (startedAt : Int) (row : Row OutboxEvent) (random : Nat)
    (post : Post) : alerting.log ⊆ (deliverRow config alerting startedAt row random post).1.log := by
  have posted := postBusiness_log alerting (envelopeJson (envelope row.content))
  cases post with
  | unreachable error => exact List.Subset.refl _
  | replyLost error => exact posted
  | replied errText =>
    simp only [deliverRow]
    split <;> rename_i answered <;> rwa [answered] at posted

theorem step_log (stepped : step runtime config platform action = some after) :
    platform.alerting.log ⊆ after.alerting.log := by
  cases action with
  | ingest action =>
    obtain ⟨pipeline, -, rfl⟩ := Option.map_eq_some_iff.mp stepped
    exact List.Subset.refl _
  | poll worker now =>
    obtain ⟨outbox, -, rfl⟩ := Option.map_eq_some_iff.mp stepped
    exact List.Subset.refl _
  | deliver worker post random =>
    obtain ⟨startedAt, row, alerting, delivery, alerts, outbox, -, handled, -, rfl⟩ := step_deliver stepped
    have grows := @deliverRow_log config platform.alerting startedAt row random post
    rwa [handled] at grows
  | commit worker now =>
    obtain ⟨written, -, rfl⟩ := Option.map_eq_some_iff.mp stepped
    exact List.Subset.refl _
  | rollback worker =>
    cases stepped
    exact List.Subset.refl _

theorem step_announcing (announcing : Announcing platform) (fresh : FreshBatch platform action)
    (few : after.alerting.seen.length < 10000)
    (stepped : step runtime config platform action = some after) : Announcing after := by
  cases action with
  | ingest action =>
    obtain ⟨pipeline, advanced, rfl⟩ := Option.map_eq_some_iff.mp stepped
    exact announcing.ingest fresh advanced
  | poll worker now =>
    obtain ⟨outbox, polled, rfl⟩ := Option.map_eq_some_iff.mp stepped
    exact announcing.write (poll_sound announcing.queue polled) (by rw [(poll_eq_some polled).2]; rfl)
      (poll_settled announcing.settled polled)
  | deliver worker post random =>
    obtain ⟨startedAt, row, alerting, delivery, alerts, outbox, next, handled, settled, rfl⟩ :=
      step_deliver stepped
    obtain ⟨pending, written, produced, held⟩ := next?_eq_some next
    obtain ⟨stored, undelivered⟩ := (announcing.queue.held worker _ held).pending row List.mem_cons_self
    have contents : outbox.rows = platform.outbox.rows := by
      obtain ⟨_, _, _, _, _, _, rfl⟩ := settle_eq_some settled
      rfl
    rcases deliverRow_cases undelivered handled with ⟨rfl, kept⟩ | ⟨answer, posted, answered⟩
    · exact announcing.write (settle_sound announcing.queue settled) (by rw [contents]; rfl)
        (settle_settled announcing.settled (fun delivered => absurd kept delivered) settled)
    · obtain ⟨after, announced⟩ := announcing.post (List.mem_map_of_mem stored) posted few
      refine after.write (settle_sound announcing.queue settled) (by rw [contents]; rfl)
        (settle_settled after.settled (fun delivered _ other found => ?_) settled)
      cases next.symm.trans found
      exact announced (answered delivered)
  | commit worker now =>
    obtain ⟨⟨outbox, systemAlerts⟩, committed, rfl⟩ := Option.map_eq_some_iff.mp stepped
    obtain ⟨alerts, committed, -⟩ := commitTick_eq_some.mp committed
    exact announcing.write (commit_sound announcing.queue committed)
      (commit_contents announcing.queue committed) (commit_settled announcing.settled committed)
  | rollback worker =>
    cases stepped
    exact announcing.write (rollback_sound worker announcing.queue) rfl
      (rollback_settled worker announcing.settled)

/-- **Every persisted batch is announced.** Let the receiver see fewer than
10,000 distinct keys, and let no consumer add readings under a batch id that
has an outbox row with readings. Then every outbox row with readings that ends
up delivered was logged as delivered by one of its POSTs. -/
theorem persisted_batches_announced (runtime : Runtime) (config : Config) (actions : List Action)
    (platform : Platform) (ran : run (step runtime config) initial actions = some platform)
    (few : platform.alerting.seen.length < 10000)
    (fresh : StepsMeet (step runtime config) FreshBatch initial actions) : AllAnnounced platform := by
  have announcing : platform.alerting.seen.length < 10000 → Announcing platform := by
    refine run_invariant_of_steps (fun platform => platform.alerting.seen.length < 10000 → Announcing platform)
      ?_ (fun _ => initial_announcing) fresh ran
    intro before after action announcing fresh stepped few
    have fewBefore := Nat.lt_of_le_of_lt (seen_mono (step_log stepped)) few
    exact step_announcing (announcing fewBefore) fresh few stepped
  intro row stored some delivered
  exact (announcing few).settled.rows row stored delivered (Int.ne_of_gt some)

private def batchesOfFifty : Config := ⟨50, 10, 2000000, 300000000⟩

/-- One reading of a site, in a batch whose id the client chose. -/
private def batchOf (siteSlug : String) : KafkaIngestMessage :=
  ⟨⟨"3f2a6c1e-8d4b-4c7a-9e51-0b6d2f7a8c90", siteSlug, [⟨"stack-1", 1704067200000, "1.500000"⟩]⟩, 1704067201000⟩

private def ingests (siteSlug : String) : List Action :=
  [.ingest (.createSite siteSlug siteSlug "Africa/Abidjan" Numeric.zero), .ingest .start,
    .ingest (.handle 0 (.healthy 1704067202000 1704067202000) (batchOf siteSlug))]

/-- The message is redelivered, the first POST's answer is lost, the tick rolls
back, and another replica delivers both rows. -/
private def sentAgain : List Action :=
  ingests "north-plant" ++ ingests "north-plant" ++
    [.poll 0 1704067203000000, .deliver 0 (.replyLost "timeout") 0, .rollback 0,
      .poll 1 1704067204000000, .deliver 1 (.replied "") 0, .deliver 1 (.replied "") 0, .commit 1 1704067205000000]

private theorem sentAgain_ran : (run (step .exactUtc batchesOfFifty) initial sentAgain).isSome := by decide

theorem retried_row_is_announced :
    AllAnnounced ((run (step .exactUtc batchesOfFifty) initial sentAgain).get sentAgain_ran) :=
  persisted_batches_announced .exactUtc batchesOfFifty sentAgain _ (Option.some_get sentAgain_ran).symm (by decide)
    (by decide)

/-- Two sites whose clients chose the same batch id. -/
private def sharedBatchId : List Action :=
  ingests "north-plant" ++ ingests "south-plant" ++
    [.poll 0 1704067203000000, .deliver 0 (.replied "") 0, .deliver 0 (.replied "") 0, .commit 0 1704067204000000]

private theorem sharedBatchId_ran : (run (step .exactUtc batchesOfFifty) initial sharedBatchId).isSome := by decide

/-- The second site's batch is delivered and never announced. -/
theorem shared_batch_id_is_suppressed :
    ¬∀ (runtime : Runtime) (config : Config) (actions : List Action) (platform : Platform),
      run (step runtime config) initial actions = some platform →
        platform.alerting.seen.length < 10000 → AllAnnounced platform := by
  intro always
  have announced := always .exactUtc batchesOfFifty sharedBatchId _ (Option.some_get sharedBatchId_ran).symm
    (by decide)
  unfold AllAnnounced at announced
  revert announced
  decide

end EmissionsPlatform.OutboxRelay
