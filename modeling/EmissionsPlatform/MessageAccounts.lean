import EmissionsPlatform.ConsumerGroup
import EmissionsPlatform.KafkaConsumer

/-! The consumer group and the database it writes to, as one system. A consumer
calls `processMessage` on the message at its position and moves on when the call
returns and its offset is resolved; a call that throws, or whose process dies
before `resolveOffset`, leaves the position where it is, with whatever the call
has done to the database.

`accounts` tells of each call that returned what became of its message. It is
no column of the platform: it is there to say that a position never moves past
a message that is not accounted for, that an account is right, and that the
stored readings are what the accounts add up to. -/
namespace EmissionsPlatform.MessageAccounts
open Contracts UniqueIndex IngestHandler IngestPipeline KafkaConsumer Redelivery Transition
open LeaseQueue (enqueue enqueue_nil)
set_option autoImplicit false

/-- What became of a message whose call returned. -/
inductive Account
  /-- The value is missing, no JSON, or not of the schema. -/
  | unreadable
  /-- No site had the message's slug. -/
  | unknownSite
  /-- Its transaction committed. -/
  | recorded
  deriving DecidableEq

/-- The message a value carries. -/
def readMessage (parse : List UInt8 → Option Json) (message : KafkaMessage) : Option KafkaIngestMessage :=
  (message.value.bind parse).bind fun parsed => (kafkaMessageSchema (some parsed)).toOption

/-- The account of a message, by the sites there are. -/
def accountOf (parse : List UInt8 → Option Json) (db : Database) (message : KafkaMessage) : Account :=
  match readMessage parse message with
  | none => .unreadable
  | some kafkaMsg => if ∃ site ∈ db.sites.rows, site.slug = kafkaMsg.siteSlug then .recorded else .unknownSite

structure Entry where
  partition : Nat
  offset : Nat
  account : Account
  deriving DecidableEq

structure State where
  group : ConsumerGroup.Group KafkaMessage
  pipeline : Pipeline
  accounts : List Entry

inductive Action
  | createSite (slug name timezone : String) (emissionLimit : Numeric)
  | produce (partition : Nat) (message : KafkaMessage)
  /-- A consumer process starts, or one that died starts again. -/
  | start
  | crash (consumer : Nat)
  | position (consumer partition : Nat)
  | revoke (consumer partition : Nat)
  /-- One turn of the loop over `batch.messages`. `resolves` is false when the
  process dies between the end of the call and `resolveOffset`, or the reply to
  `COMMIT` is lost, on which the call ends. -/
  | consume (session : Nat) (call : Call) (resolves : Bool)

/-- A step of the group alone. -/
def State.grouped (state : State) (action : ConsumerGroup.Action KafkaMessage) : Option State :=
  (ConsumerGroup.step state.group action).map fun group => { state with group }

def step (runtime : Runtime) (parse : List UInt8 → Option Json) (topic : String) (state : State) :
    Action → Option State
  | .createSite slug name timezone emissionLimit =>
    (IngestPipeline.step runtime state.pipeline (.createSite slug name timezone emissionLimit)).map fun pipeline =>
      { state with pipeline }
  | .produce partition message => state.grouped (.produce partition message)
  | .start =>
    (state.grouped .start).bind fun state =>
      (IngestPipeline.step runtime state.pipeline .start).map fun pipeline => { state with pipeline }
  | .crash consumer => state.grouped (.crash consumer)
  | .position consumer partition => state.grouped (.position consumer partition)
  | .revoke consumer partition => state.grouped (.revoke consumer partition)
  | .consume index call resolves =>
    state.group.sessions[index]?.bind fun session =>
      (state.group.log session.partition)[session.position]?.bind fun message =>
        state.pipeline.processes[session.consumer]?.bind fun process =>
          let (db, process, outcome) :=
            processMessage runtime parse call topic session.partition message state.pipeline.db process
          let pipeline := ⟨db, state.pipeline.processes.set session.consumer process⟩
          match outcome with
          | .error _ =>
            (ConsumerGroup.step state.group (.consume index .threw)).map fun group =>
              { state with group, pipeline }
          | .ok () =>
            (ConsumerGroup.step state.group (.consume index (if resolves then .returned else .threw))).map fun group =>
              ⟨group, pipeline, state.accounts ++
                [⟨session.partition, session.position, accountOf parse state.pipeline.db message⟩]⟩

/-- The migrated database, a topic with its messages of earlier days, and a
group nobody has joined. -/
def initial (topic : List (List KafkaMessage)) : State :=
  ⟨ConsumerGroup.initial topic, IngestPipeline.initial, []⟩

/-- The message at an offset has an account. -/
def State.accounted (state : State) (partition offset : Nat) : Prop :=
  ∃ account, (⟨partition, offset, account⟩ : Entry) ∈ state.accounts

/-- A partition is taken over only when each message appended to it since the
group first positioned itself has an account. -/
def TakesOverAccounted (state : State) : Action → Prop
  | .position _ partition => ∀ ends ∈ state.group.joinedAt, ∀ offset < (state.group.log partition).length,
    ends.getD partition 0 ≤ offset → ∃ entry ∈ state.accounts, entry.partition = partition ∧ entry.offset = offset
  | _ => True

instance (state : State) : ∀ action, Decidable (TakesOverAccounted state action)
  | .position _ _ => inferInstanceAs (Decidable (∀ ends ∈ _, ∀ offset < _, _ → ∃ entry ∈ _, _ ∧ _))
  | .createSite _ _ _ _ | .produce _ _ | .start | .crash _ | .revoke _ _ | .consume _ _ _ =>
    inferInstanceAs (Decidable True)

variable {runtime : Runtime} {parse : List UInt8 → Option Json} {topic : String} {call : Call}
variable {message : KafkaMessage} {kafkaMsg : KafkaIngestMessage} {db after : Database} {process process' : Process}
variable {outcome : Except Failure Unit} {pipeline : Pipeline} {state next : State} {action : Action}

/-! ## One message -/

/-- `sum_kg_co2e` of readings, added up in their order. -/
def sumOf (arithmetic : NumberArithmetic) (stored : List Reading) : String :=
  arithmetic.toFixed
    (stored.foldl (fun acc reading => arithmetic.add acc (arithmetic.parseFloat reading.value.text)) arithmetic.zero)

/-- The event of a batch of which these readings are stored. -/
structure Tells (runtime : Runtime) (batch : IngestBatchInput) (stored : List Reading) (event : OutboxEvent) :
    Prop where
  eventType : event.eventType = "ingest.batch.persisted"
  aggregateId : event.aggregateId = batch.siteSlug
  siteSlug : event.payload.siteSlug = batch.siteSlug
  batchId : event.payload.batchId = batch.batchId
  inserted : event.payload.measurementsInserted = stored.length
  submitted : event.payload.measurementsSubmitted = batch.measurements.length
  sum : event.payload.sumKgCo2e = sumOf runtime.arithmetic stored

/-- How a call of `processMessage` ends, and what it does to the readings and to
the outbox. -/
inductive Consumed (runtime : Runtime) (parse : List UInt8 → Option Json) (message : KafkaMessage)
    (db after : Database) : Except Failure Unit → Prop
  | unreadable (read : readMessage parse message = none) (same : readings after = readings db)
    (quiet : after.outbox = db.outbox) : Consumed runtime parse message db after (.ok ())
  | unknownSite (kafkaMsg : KafkaIngestMessage) (read : readMessage parse message = some kafkaMsg)
    (absent : ∀ site ∈ db.sites.rows, site.slug ≠ kafkaMsg.siteSlug) (same : readings after = readings db)
    (quiet : after.outbox = db.outbox) : Consumed runtime parse message db after (.ok ())
  | recorded (kafkaMsg : KafkaIngestMessage) (read : readMessage parse message = some kafkaMsg)
    (known : ∃ site ∈ db.sites.rows, site.slug = kafkaMsg.siteSlug)
    (inserted : readings after = insertIgnoring Reading.key (readings db) (submitted db.sites kafkaMsg))
    (now : Int) (event : OutboxEvent) (queued : after.outbox = enqueue now [event] db.outbox)
    (tells : Tells runtime kafkaMsg.toIngestBatchInput (newReadings db kafkaMsg) event) :
    Consumed runtime parse message db after (.ok ())
  | threw (failure : Failure) (same : readings after = readings db) (quiet : after.outbox = db.outbox) :
    Consumed runtime parse message db after (.error failure)

/-- The queues of a later database: rows were only added to them. -/
structure Fills (before after : Database) : Prop where
  outbox : ∃ now events, after.outbox = enqueue now events before.outbox
  metricsOutbox : ∃ now increments, after.metricsOutbox = enqueue now increments before.metricsOutbox

theorem Fills.quiet {before after : Database} (outbox : after.outbox = before.outbox)
    (metricsOutbox : after.metricsOutbox = before.metricsOutbox) : Fills before after :=
  ⟨⟨0, [], by rw [outbox, enqueue_nil]⟩, ⟨0, [], by rw [metricsOutbox, enqueue_nil]⟩⟩

/-- The event tells of the readings that the rows stand for. -/
theorem outboxEvent_tells {points : Table EmissionPoint.key} {rows : List Measurement} {stored : List Reading}
    (described : rows.map (describe points) = stored) :
    Tells runtime kafkaMsg.toIngestBatchInput stored (outboxEvent runtime call kafkaMsg rows) := by
  subst described
  refine ⟨rfl, rfl, rfl, rfl, ?_, rfl, ?_⟩
  · rw [List.length_map]
    rfl
  · rw [sumOf, List.foldl_map]
    rfl

/-- What a call of `processMessage` does: it reports a message that it cannot
read, or handles it. -/
inductive Processed (runtime : Runtime) (parse : List UInt8 → Option Json) (message : KafkaMessage)
    (db after : Database) : Except Failure Unit → Prop
  | reported (read : readMessage parse message = none) (unrecorded : Unrecorded db after) :
    Processed runtime parse message db after (.ok ())
  | handled (call : Call) (kafkaMsg : KafkaIngestMessage) (result : Except Failure IngestResult)
    (read : readMessage parse message = some kafkaMsg) (effect : Effect runtime call kafkaMsg db after result) :
    Processed runtime parse message db after (result.map fun _ => ())

theorem processMessage_spec {index partition : Nat} (sound : Sound pipeline)
    (held : pipeline.processes[index]? = some process)
    (processed : processMessage runtime parse call topic partition message pipeline.db process =
      (after, process', outcome)) :
    Sound ⟨after, pipeline.processes.set index process'⟩ ∧
      Processed runtime parse message pipeline.db after outcome := by
  -- A message that cannot be read is reported, and nothing else happens.
  have reported : ∀ {reason details}, readMessage parse message = none →
      (reportMalformed call reason details topic partition message pipeline.db, process, .ok ()) =
        (after, process', outcome) →
      Sound ⟨after, pipeline.processes.set index process'⟩ ∧
        Processed runtime parse message pipeline.db after outcome := by
    rintro reason details read ⟨⟩
    have unrecorded := insertAlert_unrecorded call "malformed_kafka_message"
      (("reason", .text reason) :: details ++
        [("topic", .text topic), ("partition", .number partition), ("offset", .text message.offset)]) pipeline.db
    refine ⟨⟨sound.wellformed.unrecorded unrecorded, fun other member => ?_⟩, .reported read unrecorded⟩
    have known : other ∈ pipeline.processes := by
      rcases List.mem_or_eq_of_mem_set member with old | rfl
      · exact old
      · exact List.mem_of_getElem? held
    refine (sound.remembers other known).mono (fun site inside => ?_) unrecorded.points
    rw [reportMalformed, unrecorded.sites]
    exact inside
  unfold processMessage at processed
  split at processed
  · rename_i missing
    exact reported (by simp [readMessage, missing]) processed
  · rename_i bytes present
    split at processed
    · rename_i noJson
      exact reported (by simp [readMessage, present, noJson]) processed
    · rename_i parsed isJson
      split at processed
      · rename_i issues refused
        exact reported (by simp [readMessage, present, isJson, refused, Except.toOption]) processed
      · rename_i kafkaMsg accepted
        have read : readMessage parse message = some kafkaMsg := by
          simp [readMessage, present, isJson, accepted, Except.toOption]
        cases processed
        have stepped : IngestPipeline.step runtime pipeline (.handle index call kafkaMsg) =
            some ⟨(handle runtime call kafkaMsg pipeline.db process).1,
              pipeline.processes.set index (handle runtime call kafkaMsg pipeline.db process).2.1⟩ :=
          step_handle.mpr ⟨process, held, rfl⟩
        exact ⟨(step_effect sound stepped).2,
          .handled call kafkaMsg _ read (handle_effect runtime call kafkaMsg sound held).1⟩

theorem Processed.sites (processed : Processed runtime parse message db after outcome) : after.sites = db.sites := by
  cases processed with
  | reported read unrecorded => exact unrecorded.sites
  | handled call kafkaMsg result read effect => exact (effect_grows effect).1

theorem Processed.fills (processed : Processed runtime parse message db after outcome) : Fills db after := by
  cases processed with
  | reported read unrecorded => exact .quiet unrecorded.outbox unrecorded.metricsOutbox
  | handled call kafkaMsg result read effect =>
    cases effect with
    | threw _ failure unrecorded => exact .quiet unrecorded.outbox unrecorded.metricsOutbox
    | unknown _ absent unrecorded => exact .quiet unrecorded.outbox unrecorded.metricsOutbox
    | persisted site member slug middle unrecorded emissionPointMap isSound rows increments commits =>
      exact ⟨⟨_, _, congrArg (enqueue _ _) unrecorded.outbox⟩, ⟨_, _, congrArg (enqueue _ _) unrecorded.metricsOutbox⟩⟩

theorem Processed.consumed (wellformed : Wellformed db) (processed : Processed runtime parse message db after outcome) :
    Consumed runtime parse message db after outcome := by
  cases processed with
  | reported read unrecorded => exact .unreadable read (readings_unrecorded wellformed unrecorded) unrecorded.outbox
  | handled call kafkaMsg result read effect =>
    cases effect with
    | threw _ failure unrecorded =>
      exact .threw failure (readings_unrecorded wellformed unrecorded) unrecorded.outbox
    | unknown _ absent unrecorded =>
      exact .unknownSite kafkaMsg read absent (readings_unrecorded wellformed unrecorded) unrecorded.outbox
    | persisted site member slug middle unrecorded emissionPointMap isSound rows increments commits =>
      have middleWellformed := wellformed.unrecorded unrecorded
      have middleMember : site ∈ middle.sites.rows := unrecorded.sites ▸ member
      have described := describe_created middleWellformed middleMember slug isSound commits.nonempty commits.stored
      rw [readings_unrecorded wellformed unrecorded, unrecorded.sites] at described
      refine .recorded kafkaMsg read ⟨site, member, slug⟩ ?_ _ _ (congrArg (enqueue _ _) unrecorded.outbox)
        (outboxEvent_tells described)
      rw [committed_refines middleWellformed middleMember slug isSound commits,
        readings_unrecorded wellformed unrecorded, unrecorded.sites]

/-! ## What stays as sites and messages are added -/

/-- The sites of a later state: as they were, or one more. -/
def SitesGrow (before after : Table Site.slug) : Prop := ∃ more, after.rows = before.rows ++ more

theorem createSite_grow (slug name timezone : String) (emissionLimit : Numeric) (db : Database) :
    SitesGrow db.sites (createSite slug name timezone emissionLimit db).sites := by
  rcases createSite_sites slug name timezone emissionLimit db with same | added
  · exact ⟨[], by rw [same, List.append_nil]⟩
  · exact ⟨_, added⟩

/-- A message of a known site goes on submitting the same readings. -/
theorem submitted_of_known {before after : Table Site.slug} (grow : SitesGrow before after)
    (known : ∃ site ∈ before.rows, site.slug = kafkaMsg.siteSlug) :
    submitted after kafkaMsg = submitted before kafkaMsg := by
  obtain ⟨more, added⟩ := grow
  obtain ⟨site, member, slug⟩ := known
  have same : (after.rows.find? fun site => site.slug = kafkaMsg.siteSlug) =
      before.rows.find? fun site => site.slug = kafkaMsg.siteSlug := by
    rw [added, List.find?_append]
    cases found : before.rows.find? fun site => site.slug = kafkaMsg.siteSlug with
    | none => exact absurd (decide_eq_true slug) (by simpa using List.find?_eq_none.mp found site member)
    | some other => rfl
  rw [submitted, submitted, same]

/-- What was submitted once stays so. -/
theorem submitted_mono {before after : Table Site.slug} (grow : SitesGrow before after) {reading : Reading}
    (member : reading ∈ submitted before kafkaMsg) : reading ∈ submitted after kafkaMsg := by
  obtain ⟨⟨site, stored, slug, _⟩, _⟩ := mem_submitted member
  rwa [submitted_of_known grow ⟨site, stored, slug⟩]

/-- The message is at the offset of the partition. -/
def At (group : ConsumerGroup.Group KafkaMessage) (partition offset : Nat) (message : KafkaMessage) : Prop :=
  (group.log partition)[offset]? = some message

/-- A log only grows at its end. -/
theorem at_of_step {group after : ConsumerGroup.Group KafkaMessage} {action : ConsumerGroup.Action KafkaMessage}
    {partition offset : Nat} (stepped : ConsumerGroup.step group action = some after)
    (isAt : At group partition offset message) : At after partition offset message := by
  have unchanged : after.topic = group.topic → At after partition offset message := by
    intro same
    unfold At ConsumerGroup.Group.log at isAt ⊢
    rwa [same]
  cases action with
  | produce target new =>
    obtain ⟨log, held, rfl⟩ := ConsumerGroup.step_produce.mp stepped
    unfold At ConsumerGroup.Group.log at isAt ⊢
    by_cases own : target = partition
    · subst own
      rw [List.getD_eq_getElem?_getD, held, Option.getD_some] at isAt
      rw [List.getD_eq_getElem?_getD, List.getElem?_set_self (List.getElem?_eq_some_iff.mp held).1, Option.getD_some]
      exact List.getElem?_append_left (List.getElem?_eq_some_iff.mp isAt).1 ▸ isAt
    · rwa [List.getD_eq_getElem?_getD, List.getElem?_set_ne own, ← List.getD_eq_getElem?_getD]
  | start => cases stepped; exact unchanged rfl
  | crash consumer => cases stepped; exact unchanged rfl
  | position consumer target =>
    obtain ⟨-, rfl⟩ := ConsumerGroup.step_position.mp stepped
    exact unchanged rfl
  | revoke consumer target => cases stepped; exact unchanged rfl
  | consume index outcome =>
    obtain ⟨session, -, -, rfl⟩ := ConsumerGroup.step_consume.mp stepped
    refine unchanged ?_
    cases outcome <;> rfl

/-! ## The accounts are right -/

/-- An account tells what became of the message at its offset. -/
inductive Right (parse : List UInt8 → Option Json) (state : State) : Entry → Prop
  | unreadable {partition offset : Nat} (message : KafkaMessage) (isAt : At state.group partition offset message)
    (read : readMessage parse message = none) : Right parse state ⟨partition, offset, .unreadable⟩
  | unknownSite {partition offset : Nat} (message : KafkaMessage) (isAt : At state.group partition offset message)
    (kafkaMsg : KafkaIngestMessage) (read : readMessage parse message = some kafkaMsg) :
    Right parse state ⟨partition, offset, .unknownSite⟩
  /-- Each reading the message submits is stored under its key. -/
  | recorded {partition offset : Nat} (message : KafkaMessage) (isAt : At state.group partition offset message)
    (kafkaMsg : KafkaIngestMessage) (read : readMessage parse message = some kafkaMsg)
    (known : ∃ site ∈ state.pipeline.db.sites.rows, site.slug = kafkaMsg.siteSlug)
    (held : ∀ reading ∈ submitted state.pipeline.db.sites kafkaMsg,
      reading.key ∈ (readings state.pipeline.db).map Reading.key) :
    Right parse state ⟨partition, offset, .recorded⟩

/-- A message of the topic submitted the reading. -/
def Sourced (parse : List UInt8 → Option Json) (state : State) (reading : Reading) : Prop :=
  ∃ partition offset message kafkaMsg, At state.group partition offset message ∧
    readMessage parse message = some kafkaMsg ∧ reading ∈ submitted state.pipeline.db.sites kafkaMsg

structure Accountable (parse : List UInt8 → Option Json) (state : State) : Prop where
  group : ConsumerGroup.Sound state.group
  pipeline : IngestPipeline.Sound state.pipeline
  right : ∀ entry ∈ state.accounts, Right parse state entry
  sourced : ∀ reading ∈ readings state.pipeline.db, Sourced parse state reading

/-- What an account needs is never taken away. -/
structure Grows (before after : State) : Prop where
  sites : SitesGrow before.pipeline.db.sites after.pipeline.db.sites
  keys : (readings before.pipeline.db).map Reading.key ⊆ (readings after.pipeline.db).map Reading.key
  logs : ∀ partition offset message, At before.group partition offset message → At after.group partition offset message

theorem Right.mono {entry : Entry} (grows : Grows state next) (right : Right parse state entry) :
    Right parse next entry := by
  cases right with
  | unreadable message isAt read => exact .unreadable message (grows.logs _ _ _ isAt) read
  | unknownSite message isAt kafkaMsg read => exact .unknownSite message (grows.logs _ _ _ isAt) kafkaMsg read
  | recorded message isAt kafkaMsg read known held =>
    have same := submitted_of_known grows.sites known
    refine .recorded message (grows.logs _ _ _ isAt) kafkaMsg read ?_ ?_
    · obtain ⟨site, member, slug⟩ := known
      obtain ⟨more, added⟩ := grows.sites
      exact ⟨site, added ▸ List.mem_append_left more member, slug⟩
    · rw [same]
      exact fun reading member => grows.keys (held reading member)

theorem Sourced.mono {reading : Reading} (grows : Grows state next) (sourced : Sourced parse state reading) :
    Sourced parse next reading := by
  obtain ⟨partition, offset, message, kafkaMsg, isAt, read, member⟩ := sourced
  exact ⟨partition, offset, message, kafkaMsg, grows.logs _ _ _ isAt, read, submitted_mono grows.sites member⟩

/-- A step that neither adds readings nor accounts. -/
theorem Accountable.quiet (accountable : Accountable parse state) (grows : Grows state next)
    (group : ConsumerGroup.Sound next.group) (pipeline : IngestPipeline.Sound next.pipeline)
    (accounts : next.accounts = state.accounts)
    (same : readings next.pipeline.db = readings state.pipeline.db) : Accountable parse next :=
  ⟨group, pipeline, fun entry member => (accountable.right entry (accounts ▸ member)).mono grows,
    fun reading member => (accountable.sourced reading (same ▸ member)).mono grows⟩

/-- A step of the group alone takes nothing away. -/
theorem grows_of_group {action : ConsumerGroup.Action KafkaMessage}
    (grouped : ConsumerGroup.step state.group action = some next.group) (pipeline : next.pipeline = state.pipeline) :
    Grows state next := by
  refine ⟨⟨[], by rw [pipeline, List.append_nil]⟩, ?_, fun _ _ _ isAt => at_of_step grouped isAt⟩
  rw [pipeline]
  exact List.Subset.refl _

theorem grouped_spec {action : ConsumerGroup.Action KafkaMessage} (accountable : Accountable parse state)
    (stepped : state.grouped action = some next) :
    ConsumerGroup.step state.group action = some next.group ∧ next.pipeline = state.pipeline ∧
      next.accounts = state.accounts ∧ Accountable parse next := by
  obtain ⟨group, grouped, rfl⟩ := Option.map_eq_some_iff.mp stepped
  exact ⟨grouped, rfl, rfl, accountable.quiet (grows_of_group grouped rfl)
    (ConsumerGroup.step_sound accountable.group grouped) accountable.pipeline rfl rfl⟩

/-- A turn of the loop: the call, what it leaves of the group, and its account. -/
theorem step_consume {index : Nat} {resolves : Bool}
    (stepped : step runtime parse topic state (.consume index call resolves) = some next) :
    ∃ session message process after process' outcome ending,
      state.group.sessions[index]? = some session ∧ At state.group session.partition session.position message ∧
        state.pipeline.processes[session.consumer]? = some process ∧
          processMessage runtime parse call topic session.partition message state.pipeline.db process =
            (after, process', outcome) ∧
          ConsumerGroup.step state.group (.consume index ending) = some next.group ∧
          next.pipeline = ⟨after, state.pipeline.processes.set session.consumer process'⟩ ∧
          ((∃ failure, outcome = .error failure) ∧ ending = .threw ∧ next.accounts = state.accounts ∨
            outcome = .ok () ∧ next.accounts = state.accounts ++
              [⟨session.partition, session.position, accountOf parse state.pipeline.db message⟩]) := by
  obtain ⟨session, held, rest⟩ := Option.bind_eq_some_iff.mp stepped
  obtain ⟨message, isAt, rest⟩ := Option.bind_eq_some_iff.mp rest
  obtain ⟨process, alive, rest⟩ := Option.bind_eq_some_iff.mp rest
  cases processed : processMessage runtime parse call topic session.partition message state.pipeline.db process with
  | mk after second =>
    obtain ⟨process', outcome⟩ := second
    simp only [processed] at rest
    cases outcome with
    | error failure =>
      obtain ⟨group, grouped, rfl⟩ := Option.map_eq_some_iff.mp rest
      exact ⟨session, message, process, after, process', _, _, held, isAt, alive, processed, grouped, rfl,
        Or.inl ⟨⟨failure, rfl⟩, rfl, rfl⟩⟩
    | ok value =>
      obtain ⟨group, grouped, rfl⟩ := Option.map_eq_some_iff.mp rest
      exact ⟨session, message, process, after, process', _, _, held, isAt, alive, processed, grouped, rfl,
        Or.inr ⟨rfl, rfl⟩⟩

/-- What the account of a call that returned says is right. -/
theorem right_of_consumed {partition offset : Nat}
    (consumed : Consumed runtime parse message state.pipeline.db next.pipeline.db (.ok ()))
    (sites : next.pipeline.db.sites = state.pipeline.db.sites) (isAt : At next.group partition offset message) :
    Right parse next ⟨partition, offset, accountOf parse state.pipeline.db message⟩ := by
  cases consumed with
  | unreadable read _ =>
    rw [accountOf, read]
    exact .unreadable message isAt read
  | unknownSite kafkaMsg read absent _ =>
    have none : ¬∃ site ∈ state.pipeline.db.sites.rows, site.slug = kafkaMsg.siteSlug := by
      rintro ⟨site, member, slug⟩
      exact absent site member slug
    simp only [accountOf, read, if_neg none]
    exact .unknownSite message isAt kafkaMsg read
  | recorded kafkaMsg read known inserted =>
    simp only [accountOf, read, if_pos known]
    refine .recorded message isAt kafkaMsg read (sites ▸ known) ?_
    rw [sites, inserted]
    intro reading member
    rw [insertIgnoring, List.map_append, List.mem_append]
    exact key_covered member

/-- What a turn of the loop does: the database takes in the message, the message
gets its account if the call returns, and nothing is taken away. -/
theorem consume_spec {index : Nat} {resolves : Bool} (accountable : Accountable parse state)
    (stepped : step runtime parse topic state (.consume index call resolves) = some next) :
    ∃ partition offset message outcome, At state.group partition offset message ∧
      Consumed runtime parse message state.pipeline.db next.pipeline.db outcome ∧ Grows state next ∧
        next.pipeline.db.sites = state.pipeline.db.sites ∧ IngestPipeline.Sound next.pipeline ∧
          ConsumerGroup.Sound next.group ∧
            ((∃ failure, outcome = .error failure) ∧ next.accounts = state.accounts ∨
              outcome = .ok () ∧ next.accounts = state.accounts ++
                [⟨partition, offset, accountOf parse state.pipeline.db message⟩]) := by
  obtain ⟨session, message, process, after, process', outcome, ending, held, isAt, alive, processed, grouped,
    pipeline, accounts⟩ := step_consume stepped
  obtain ⟨sound, effect⟩ := processMessage_spec accountable.pipeline alive processed
  have sites := effect.sites
  have consumed := effect.consumed accountable.pipeline.wellformed
  obtain rfl : next.pipeline.db = after := by rw [pipeline]
  have keeps : ∀ {more : List Reading}, readings next.pipeline.db = readings state.pipeline.db ++ more →
      Grows state next := by
    intro more added
    refine ⟨⟨[], by rw [sites, List.append_nil]⟩, ?_, fun _ _ _ isAt => at_of_step grouped isAt⟩
    rw [added, List.map_append]
    exact List.subset_append_left _ _
  have grows : Grows state next := by
    cases consumed with
    | unreadable _ same => exact keeps (same.trans (List.append_nil _).symm)
    | unknownSite _ _ _ same => exact keeps (same.trans (List.append_nil _).symm)
    | recorded _ _ _ inserted => exact keeps inserted
    | threw _ same => exact keeps (same.trans (List.append_nil _).symm)
  refine ⟨_, _, message, outcome, isAt, consumed, grows, sites, pipeline ▸ sound,
    ConsumerGroup.step_sound accountable.group grouped, ?_⟩
  exact accounts.imp (fun threw => ⟨threw.1, threw.2.2⟩) id

theorem consume_accountable {index : Nat} {resolves : Bool} (accountable : Accountable parse state)
    (stepped : step runtime parse topic state (.consume index call resolves) = some next) : Accountable parse next := by
  obtain ⟨partition, offset, message, outcome, isAt, consumed, grows, sites, sound, group, accounts⟩ :=
    consume_spec accountable stepped
  have sourced : ∀ reading ∈ readings next.pipeline.db, Sourced parse next reading := by
    have old : readings next.pipeline.db = readings state.pipeline.db →
        ∀ reading ∈ readings next.pipeline.db, Sourced parse next reading := by
      intro same reading member
      rw [same] at member
      exact (accountable.sourced reading member).mono grows
    cases consumed with
    | unreadable _ same => exact old same
    | unknownSite _ _ _ same => exact old same
    | threw _ same => exact old same
    | recorded kafkaMsg read _ inserted =>
      intro reading member
      rw [inserted] at member
      rcases List.mem_append.mp member with before | new
      · exact (accountable.sourced reading before).mono grows
      · refine ⟨_, _, message, kafkaMsg, grows.logs _ _ _ isAt, read, ?_⟩
        rw [sites]
        exact admitted_subset new
  refine ⟨group, sound, ?_, sourced⟩
  rcases accounts with ⟨_, same⟩ | ⟨rfl, added⟩
  · rw [same]
    exact fun entry member => (accountable.right entry member).mono grows
  · rw [added]
    intro entry member
    rcases List.mem_append.mp member with before | new
    · exact (accountable.right entry before).mono grows
    · rw [List.mem_singleton.mp new]
      exact right_of_consumed consumed sites (grows.logs _ _ _ isAt)

/-- The step lemma. -/
theorem step_accountable (accountable : Accountable parse state)
    (stepped : step runtime parse topic state action = some next) : Accountable parse next := by
  cases action with
  | createSite slug name timezone emissionLimit =>
    have created : IngestPipeline.step runtime state.pipeline (.createSite slug name timezone emissionLimit) =
        some { state.pipeline with db := createSite slug name timezone emissionLimit state.pipeline.db } := rfl
    have sound := (step_effect accountable.pipeline created).2
    cases stepped
    exact accountable.quiet ⟨createSite_grow _ _ _ _ _, List.Subset.refl _, fun _ _ _ isAt => isAt⟩
      accountable.group sound rfl rfl
  | produce partition message => exact (grouped_spec accountable stepped).2.2.2
  | start =>
    have started : IngestPipeline.step runtime state.pipeline .start =
        some { state.pipeline with processes := state.pipeline.processes ++ [.started] } := rfl
    have sound := (step_effect accountable.pipeline started).2
    have group : ConsumerGroup.step state.group .start = some { state.group with
        started := state.group.started + 1, running := state.group.running ++ [state.group.started] } := rfl
    have groupSound := ConsumerGroup.step_sound accountable.group group
    cases stepped
    exact accountable.quiet
      ⟨⟨[], (List.append_nil _).symm⟩, List.Subset.refl _, fun _ _ _ isAt => isAt⟩ groupSound sound
      rfl rfl
  | crash consumer => exact (grouped_spec accountable stepped).2.2.2
  | position consumer partition => exact (grouped_spec accountable stepped).2.2.2
  | revoke consumer partition => exact (grouped_spec accountable stepped).2.2.2
  | consume index call resolves => exact consume_accountable accountable stepped

/-- A step leaves the database alone, adds a site or works on a message. -/
theorem step_database (accountable : Accountable parse state)
    (stepped : step runtime parse topic state action = some next) :
    next.pipeline.db = state.pipeline.db ∨ (∃ slug name timezone emissionLimit,
        next.pipeline.db = createSite slug name timezone emissionLimit state.pipeline.db) ∨
      ∃ partition offset message outcome, At state.group partition offset message ∧
        Processed runtime parse message state.pipeline.db next.pipeline.db outcome := by
  have grouped : ∀ {grouped : ConsumerGroup.Action KafkaMessage}, state.grouped grouped = some next →
      next.pipeline.db = state.pipeline.db := by
    intro grouped stepped
    rw [(grouped_spec accountable stepped).2.1]
  cases action with
  | createSite slug name timezone emissionLimit =>
    cases stepped
    exact Or.inr (Or.inl ⟨slug, name, timezone, emissionLimit, rfl⟩)
  | produce partition message => exact Or.inl (grouped stepped)
  | start =>
    cases stepped
    exact Or.inl rfl
  | crash consumer => exact Or.inl (grouped stepped)
  | position consumer partition => exact Or.inl (grouped stepped)
  | revoke consumer partition => exact Or.inl (grouped stepped)
  | consume index call resolves =>
    obtain ⟨_, message, _, _, _, outcome, _, _, isAt, alive, processed, _, pipeline, _⟩ := step_consume stepped
    have effect := (processMessage_spec accountable.pipeline alive processed).2
    exact Or.inr (Or.inr ⟨_, _, message, outcome, isAt, by rw [pipeline]; exact effect⟩)

theorem step_fills (accountable : Accountable parse state)
    (stepped : step runtime parse topic state action = some next) : Fills state.pipeline.db next.pipeline.db := by
  rcases step_database accountable stepped with same | ⟨_, _, _, _, added⟩ | ⟨_, _, _, _, -, processed⟩
  · exact .quiet (by rw [same]) (by rw [same])
  · exact .quiet (by rw [added]; rfl) (by rw [added]; rfl)
  · exact processed.fills

/-- Readings and events are written together, by recording a message. -/
theorem step_recorded (accountable : Accountable parse state)
    (stepped : step runtime parse topic state action = some next) :
    readings next.pipeline.db = readings state.pipeline.db ∧ next.pipeline.db.outbox = state.pipeline.db.outbox ∨
      ∃ partition offset message kafkaMsg now event, At state.group partition offset message ∧
        readMessage parse message = some kafkaMsg ∧
          readings next.pipeline.db = readings state.pipeline.db ++ newReadings state.pipeline.db kafkaMsg ∧
            next.pipeline.db.outbox = enqueue now [event] state.pipeline.db.outbox ∧
              Tells runtime kafkaMsg.toIngestBatchInput (newReadings state.pipeline.db kafkaMsg) event := by
  rcases step_database accountable stepped with same | ⟨_, _, _, _, added⟩ |
    ⟨partition, offset, message, outcome, isAt, processed⟩
  · exact Or.inl ⟨by rw [same], by rw [same]⟩
  · exact Or.inl ⟨by rw [added]; rfl, by rw [added]; rfl⟩
  · cases processed.consumed accountable.pipeline.wellformed with
    | unreadable _ same quiet => exact Or.inl ⟨same, quiet⟩
    | unknownSite _ _ _ same quiet => exact Or.inl ⟨same, quiet⟩
    | threw _ same quiet => exact Or.inl ⟨same, quiet⟩
    | recorded kafkaMsg read _ inserted now event queued tells =>
      exact Or.inr ⟨partition, offset, message, kafkaMsg, now, event, isAt, read, inserted, queued, tells⟩

theorem initial_accountable (parse : List UInt8 → Option Json) (logs : List (List KafkaMessage)) :
    Accountable parse (initial logs) :=
  ⟨ConsumerGroup.initial_sound logs, IngestPipeline.initial_sound, List.forall_mem_nil _, List.forall_mem_nil _⟩

theorem run_accountable {logs : List (List KafkaMessage)} {actions : List Action}
    (ran : run (step runtime parse topic) (initial logs) actions = some state) : Accountable parse state :=
  run_invariant (Accountable parse) (fun accountable stepped => step_accountable accountable stepped)
    (initial_accountable parse logs) ran

/-! ## The readings are the ledger of the accounts -/

/-- What a message with this account submitted. -/
def Entry.submits (parse : List UInt8 → Option Json) (state : State) (entry : Entry) : List Reading :=
  match entry.account with
  | .recorded =>
    (((state.group.log entry.partition)[entry.offset]?).bind (readMessage parse)).elim []
      (submitted state.pipeline.db.sites)
  | .unreadable | .unknownSite => []

/-- The stored readings are what the recorded messages submitted, in the order of
their accounts, each key by the first that submitted it. -/
def Ledger (parse : List UInt8 → Option Json) (state : State) : Prop :=
  readings state.pipeline.db = insertAll Reading.key [] (state.accounts.map (Entry.submits parse state))

theorem Entry.submits_recorded {partition offset : Nat} (isAt : At state.group partition offset message)
    (read : readMessage parse message = some kafkaMsg) :
    Entry.submits parse state ⟨partition, offset, .recorded⟩ = submitted state.pipeline.db.sites kafkaMsg := by
  have found : (state.group.log partition)[offset]? = some message := isAt
  simp only [Entry.submits, found, Option.bind_some, read, Option.elim_some]

/-- What a message submitted does not change as logs and sites grow. -/
theorem Right.submits_eq {entry : Entry} (grows : Grows state next) (right : Right parse state entry) :
    entry.submits parse next = entry.submits parse state := by
  cases right with
  | unreadable message isAt read => rfl
  | unknownSite message isAt kafkaMsg read => rfl
  | recorded message isAt kafkaMsg read known held =>
    rw [Entry.submits_recorded isAt read, Entry.submits_recorded (grows.logs _ _ _ isAt) read,
      submitted_of_known grows.sites known]

theorem submits_eq (accountable : Accountable parse state) (grows : Grows state next) :
    state.accounts.map (Entry.submits parse next) = state.accounts.map (Entry.submits parse state) :=
  List.map_congr_left fun entry member => (accountable.right entry member).submits_eq grows

theorem Ledger.quiet (ledger : Ledger parse state) (accountable : Accountable parse state) (grows : Grows state next)
    (accounts : next.accounts = state.accounts) (same : readings next.pipeline.db = readings state.pipeline.db) :
    Ledger parse next := by
  rw [Ledger, same, accounts, submits_eq accountable grows]
  exact ledger

/-- A message is entered into the ledger with its account. -/
theorem consume_ledger {index : Nat} {resolves : Bool} (accountable : Accountable parse state)
    (ledger : Ledger parse state)
    (stepped : step runtime parse topic state (.consume index call resolves) = some next) : Ledger parse next := by
  obtain ⟨partition, offset, message, outcome, isAt, consumed, grows, sites, sound, group, accounts⟩ :=
    consume_spec accountable stepped
  have entered : ∀ account, next.accounts = state.accounts ++ [⟨partition, offset, account⟩] →
      readings next.pipeline.db = insertIgnoring Reading.key (readings state.pipeline.db)
        (Entry.submits parse next ⟨partition, offset, account⟩) → Ledger parse next := by
    intro account added inserted
    rw [Ledger, inserted, added, List.map_append, List.map_singleton, insertAll_concat,
      submits_eq accountable grows, ← ledger]
  have nothing : ∀ account, next.accounts = state.accounts ++ [⟨partition, offset, account⟩] →
      Entry.submits parse next ⟨partition, offset, account⟩ = [] →
        readings next.pipeline.db = readings state.pipeline.db → Ledger parse next := by
    intro account added none same
    refine entered account added ?_
    rw [same, none]
    exact (List.append_nil _).symm
  cases consumed with
  | threw failure same =>
    obtain ⟨-, kept⟩ := accounts.resolve_right fun returned => by cases returned.1
    exact ledger.quiet accountable grows kept same
  | unreadable read same =>
    obtain ⟨-, added⟩ := accounts.resolve_left (by rintro ⟨⟨_, failed⟩, _⟩; cases failed)
    rw [accountOf, read] at added
    exact nothing _ added rfl same
  | unknownSite kafkaMsg read absent same =>
    obtain ⟨-, added⟩ := accounts.resolve_left (by rintro ⟨⟨_, failed⟩, _⟩; cases failed)
    have none : ¬∃ site ∈ state.pipeline.db.sites.rows, site.slug = kafkaMsg.siteSlug := by
      rintro ⟨site, member, slug⟩
      exact absent site member slug
    simp only [accountOf, read, if_neg none] at added
    exact nothing _ added rfl same
  | recorded kafkaMsg read known inserted =>
    obtain ⟨-, added⟩ := accounts.resolve_left (by rintro ⟨⟨_, failed⟩, _⟩; cases failed)
    simp only [accountOf, read, if_pos known] at added
    refine entered _ added ?_
    rw [inserted, Entry.submits_recorded (grows.logs _ _ _ isAt) read, sites]

/-- The step lemma. -/
theorem step_ledger (accountable : Accountable parse state) (ledger : Ledger parse state)
    (stepped : step runtime parse topic state action = some next) : Ledger parse next := by
  have grouped : ∀ {grouped : ConsumerGroup.Action KafkaMessage}, state.grouped grouped = some next →
      Ledger parse next := by
    intro grouped stepped
    obtain ⟨alone, pipeline, accounts, -⟩ := grouped_spec accountable stepped
    exact ledger.quiet accountable (grows_of_group alone pipeline) accounts (by rw [pipeline])
  cases action with
  | createSite slug name timezone emissionLimit =>
    cases stepped
    exact ledger.quiet accountable ⟨createSite_grow _ _ _ _ _, List.Subset.refl _, fun _ _ _ isAt => isAt⟩ rfl rfl
  | produce partition message => exact grouped stepped
  | start =>
    cases stepped
    exact ledger.quiet accountable ⟨⟨[], (List.append_nil _).symm⟩, List.Subset.refl _, fun _ _ _ isAt => isAt⟩ rfl rfl
  | crash consumer => exact grouped stepped
  | position consumer partition => exact grouped stepped
  | revoke consumer partition => exact grouped stepped
  | consume index call resolves => exact consume_ledger accountable ledger stepped

/-! ## No position moves past a message without an account -/

/-- Each message appended since the group first positioned itself and lying
behind the position of a running consumer has an account. -/
def Complete (state : State) : Prop :=
  ∀ ends ∈ state.group.joinedAt, ∀ session ∈ state.group.sessions, ∀ offset < session.position,
    ends.getD session.partition 0 ≤ offset →
      ∃ entry ∈ state.accounts, entry.partition = session.partition ∧ entry.offset = offset

theorem Complete.of_subset (complete : Complete state) (joinedAt : next.group.joinedAt = state.group.joinedAt)
    (sessions : next.group.sessions ⊆ state.group.sessions) (accounts : state.accounts ⊆ next.accounts) :
    Complete next := by
  intro ends joined session member offset behind appended
  obtain ⟨entry, isEntry, same⟩ := complete ends (joinedAt ▸ joined) session (sessions member) offset behind appended
  exact ⟨entry, accounts isEntry, same⟩

/-- A position moves over a message when its call has returned. -/
theorem consume_complete {index : Nat} {resolves : Bool} (complete : Complete state)
    (stepped : step runtime parse topic state (.consume index call resolves) = some next) : Complete next := by
  obtain ⟨session, message, process, after, process', outcome, ending, held, isAt, alive, processed, grouped,
    pipeline, accounts⟩ := step_consume stepped
  obtain ⟨session', held', _, isNext⟩ := ConsumerGroup.step_consume.mp grouped
  cases held.symm.trans held'
  have grows : state.accounts ⊆ next.accounts := by
    rcases accounts with ⟨_, _, same⟩ | ⟨_, added⟩
    · exact same ▸ List.Subset.refl _
    · exact added ▸ List.subset_append_left _ _
  cases ending with
  | threw => exact complete.of_subset (by rw [isNext]; rfl) (by rw [isNext]; exact List.Subset.refl _) grows
  | returned =>
    obtain ⟨-, added⟩ := accounts.resolve_left fun threw => by cases threw.2.1
    intro ends joined other member offset behind appended
    rw [isNext] at joined member
    rcases List.mem_or_eq_of_mem_set member with old | rfl
    · obtain ⟨entry, isEntry, same⟩ := complete ends joined other old offset behind appended
      exact ⟨entry, grows isEntry, same⟩
    · rcases Nat.lt_succ_iff_lt_or_eq.mp behind with before | rfl
      · obtain ⟨entry, isEntry, same⟩ :=
          complete ends joined session (List.mem_of_getElem? held) offset before appended
        exact ⟨entry, grows isEntry, same⟩
      · exact ⟨_, added ▸ List.mem_append_right _ List.mem_cons_self, rfl, rfl⟩

/-- Taking a partition over passes over nothing exactly when what was appended
to it is accounted for. -/
theorem position_complete_iff {consumer partition : Nat} (accountable : Accountable parse state)
    (complete : Complete state)
    (stepped : step runtime parse topic state (.position consumer partition) = some next) :
    Complete next ↔ TakesOverAccounted state (.position consumer partition) := by
  obtain ⟨grouped, _, accounts, _⟩ := grouped_spec accountable stepped
  obtain ⟨-, isNext⟩ := ConsumerGroup.step_position.mp grouped
  rw [ConsumerGroup.startPosition_eq accountable.group] at isNext
  unfold Complete TakesOverAccounted
  rw [accounts, isNext]
  cases joinedAt : state.group.joinedAt with
  | none =>
    refine iff_of_true ?_ (by simp)
    intro ends joined session member offset behind appended
    cases joined
    rw [accountable.group.unjoined joinedAt, List.nil_append, List.mem_singleton] at member
    subst member
    rw [ConsumerGroup.getD_ends] at appended
    exact absurd behind (Nat.not_lt.mpr appended)
  | some first =>
    simp only [Option.some_or]
    constructor
    · intro holds ends joined offset behind appended
      exact holds ends joined _ (List.mem_append_right _ (List.mem_singleton_self _)) offset behind appended
    · intro nothing ends joined session member offset behind appended
      rcases List.mem_append.mp member with old | new
      · exact complete ends (joinedAt ▸ joined) session old offset behind appended
      · cases List.mem_singleton.mp new
        exact nothing ends joined offset behind appended

theorem step_complete (accountable : Accountable parse state) (complete : Complete state)
    (allowed : TakesOverAccounted state action) (stepped : step runtime parse topic state action = some next) :
    Complete next := by
  have grouped : ∀ {grouped : ConsumerGroup.Action KafkaMessage}, state.grouped grouped = some next →
      next.group.joinedAt = state.group.joinedAt → next.group.sessions ⊆ state.group.sessions → Complete next := by
    intro grouped stepped joinedAt sessions
    have accounts := (grouped_spec accountable stepped).2.2.1
    exact complete.of_subset joinedAt sessions (accounts ▸ List.Subset.refl _)
  cases action with
  | createSite slug name timezone emissionLimit =>
    cases stepped
    exact complete.of_subset rfl (List.Subset.refl _) (List.Subset.refl _)
  | produce partition message =>
    have alone := (grouped_spec accountable stepped).1
    obtain ⟨log, -, isNext⟩ := ConsumerGroup.step_produce.mp alone
    exact grouped stepped (by rw [isNext]) (by rw [isNext]; exact List.Subset.refl _)
  | start =>
    cases stepped
    exact complete.of_subset rfl (List.Subset.refl _) (List.Subset.refl _)
  | crash consumer =>
    cases stepped
    exact complete.of_subset rfl (List.filter_subset_self _) (List.Subset.refl _)
  | position consumer partition => exact (position_complete_iff accountable complete stepped).mpr allowed
  | revoke consumer partition =>
    cases stepped
    exact complete.of_subset rfl (List.filter_subset_self _) (List.Subset.refl _)
  | consume index call resolves => exact consume_complete complete stepped

theorem initial_complete (logs : List (List KafkaMessage)) : Complete (initial logs) := by
  intro ends joined
  cases joined

/-- **Nothing is lost, made up or stored twice between the topic and the
database.** In every run of the group and its database, whatever throws,
crashes or is taken over: positions move past messages without an account only
by taking over a partition where such a message waits; every account is right,
so what is accounted as recorded is stored; every stored reading was submitted
by a message of the topic; and no key is stored twice. -/
theorem messages_are_accounted_for {logs : List (List KafkaMessage)} {actions : List Action}
    (ran : run (step runtime parse topic) (initial logs) actions = some state) :
    ((∀ before later middle, actions = before ++ later →
        run (step runtime parse topic) (initial logs) before = some middle → Complete middle) ↔
      StepsMeet (step runtime parse topic) TakesOverAccounted (initial logs) actions) ∧
    (∀ entry ∈ state.accounts, Right parse state entry) ∧
    (∀ reading ∈ readings state.pipeline.db, Sourced parse state reading) ∧
    ((readings state.pipeline.db).map Reading.key).Nodup := by
  have accountable := run_accountable ran
  refine ⟨⟨?_, ?_⟩, accountable.right, accountable.sourced, readings_keys_nodup accountable.pipeline.wellformed⟩
  · intro holds
    apply stepsMeet_of_run ran
    intro before action later middle next split reached stepped _
    cases action with
    | position consumer partition =>
      have beforehand := holds before (.position consumer partition :: later) middle split reached
      have afterwards := holds (before ++ [.position consumer partition]) later next
        (by rw [split, List.append_assoc]; rfl) (run_concat.mpr ⟨middle, reached, stepped⟩)
      exact (position_complete_iff (run_accountable reached) beforehand stepped).mp afterwards
    | createSite | produce | start | crash | revoke | consume => trivial
  · intro allowed before later middle split reached
    subst split
    exact (run_invariant_of_steps (fun state => Accountable parse state ∧ Complete state)
      (fun holds allowed stepped =>
        ⟨step_accountable holds.1 stepped, step_complete holds.1 holds.2 allowed stepped⟩)
      ⟨initial_accountable parse logs, initial_complete logs⟩ allowed.of_append reached).2

/-- **The stored readings are the ledger of the accounts.** In every run, whatever
the topic holds and whoever reads a message again, the stored readings are what
the recorded messages submitted, in the order of their accounts, each key by the
first that submitted it. -/
theorem readings_are_the_ledger {logs : List (List KafkaMessage)} {actions : List Action}
    (ran : run (step runtime parse topic) (initial logs) actions = some state) : Ledger parse state := by
  have kept : Accountable parse state ∧ Ledger parse state :=
    run_invariant (fun state => Accountable parse state ∧ Ledger parse state)
      (fun holds stepped => ⟨step_accountable holds.1 stepped, step_ledger holds.1 holds.2 stepped⟩)
      ⟨initial_accountable parse logs, rfl⟩ ran
  exact kept.2

/-- A batch of one reading, as it is parsed. -/
private def batchOf (batchId : String) : Json :=
  .object [("batch_id", .string batchId), ("site_slug", .string "north-plant"),
    ("measurements", .array [.object [("emission_point", .string "stack-1"),
      ("recorded_at_ms", .number (.integer 1704067200000)), ("value_kg_co2e", .string "1.500000")]]),
    ("received_at_ms", .number (.integer 1704067201000))]

/-- Two values that are JSON, and any other that is not. -/
private def parseByte : List UInt8 → Option Json
  | [1] => some (batchOf "3f2a6c1e-8d4b-4c7a-9e51-0b6d2f7a8c90")
  | [2] => some (batchOf "9d1b7c40-52e6-4f0a-8a3d-6c5e4b3a2910")
  | _ => none

/-- The first consumer dies before it resolves what it has stored; the second
reads the same batch again, and a value that is no JSON. -/
private def takenOver : List Action :=
  [.createSite "north-plant" "North plant" "Africa/Abidjan" Numeric.zero, .start, .position 0 0,
    .produce 0 ⟨some [1], "0"⟩,
    .consume 0 (.healthy 1704067203000 1704067203000) false, .crash 0, .start, .position 1 0,
    .produce 0 ⟨some [1], "1"⟩, .produce 0 ⟨some [7], "2"⟩, .consume 0 (.healthy 1704067204000 1704067204000) true,
    .consume 0 (.healthy 1704067205000 1704067205000) true]

theorem taken_over_batch_is_stored_once :
    ∃ state ∈ run (step .exactUtc parseByte "emissions.ingest.v1") (initial [[]]) takenOver,
      state.accounts = [⟨0, 0, .recorded⟩, ⟨0, 1, .recorded⟩, ⟨0, 2, .unreadable⟩] ∧
        (readings state.pipeline.db).length = 1 ∧ (∀ entry ∈ state.accounts, Right parseByte state entry) := by
  obtain ⟨state, ran, accounts, once⟩ :
      ∃ state ∈ run (step .exactUtc parseByte "emissions.ingest.v1") (initial [[]]) takenOver,
        state.accounts = [⟨0, 0, .recorded⟩, ⟨0, 1, .recorded⟩, ⟨0, 2, .unreadable⟩] ∧
          (readings state.pipeline.db).length = 1 := by decide +kernel
  exact ⟨state, ran, accounts, once, (messages_are_accounted_for ran).2.1⟩

theorem taken_over_readings_are_the_ledger :
    ∃ state ∈ run (step .exactUtc parseByte "emissions.ingest.v1") (initial [[]]) takenOver,
      state.accounts.length = 3 ∧ Ledger parseByte state := by
  obtain ⟨state, ran, accounts⟩ :
      ∃ state ∈ run (step .exactUtc parseByte "emissions.ingest.v1") (initial [[]]) takenOver,
        state.accounts.length = 3 := by decide +kernel
  exact ⟨state, ran, accounts, readings_are_the_ledger ran⟩

end EmissionsPlatform.MessageAccounts
