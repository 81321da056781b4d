import EmissionsPlatform.EndToEnd

/-! From the rows a batch is stored as to the alert that announces it. The
transaction that stores new readings appends one event to the outbox; a message
that is read again stores nothing new, and its event has no readings and is
suppressed. The outbox relay posts the event until it is answered, and the
receiver drops what it has delivered before.

`Noted` is the step from the readings to the event, kept at every step of the
platform, and `Posting` the step from the event to the receiver. Together they
are `batches_are_announced_once`. -/
namespace EmissionsPlatform.Announcements
open Alerting Contracts EndToEnd IngestHandler KafkaConsumer LeaseQueue Redelivery RelayWrites Transition UniqueIndex
open FormDelivery (Accepted)
open IngestEdge (Quiet)
open IngestForm (Form)
open MessageAccounts (At Tells readMessage step_recorded)
open OutboxRelay (envelope)
set_option autoImplicit false

/-- The events of a batch that has readings, with the ids of their rows. -/
def eventsUnder (db : Database) (batchId : String) : List (Nat × OutboxEvent) :=
  (db.outbox.rows.map Row.content).filter fun content =>
    content.2.payload.batchId = batchId ∧ content.2.payload.measurementsInserted ≠ 0

/-- The alerts of a batch that the receiver delivered. -/
def deliveredUnder (alerting : AlertsService) (batchId : String) : List AlertEnvelopeBusiness :=
  (AlertsService.delivered alerting.log).filter fun alert => alert.payload.batchId = batchId

/-- Nothing is stored of the batch, or one event tells what is. -/
def Noted (runtime : Runtime) (payload : IngestBatchInput) (stored : List Reading) (events : List (Nat × OutboxEvent)) :
    Prop :=
  stored = [] ∧ events = [] ∨ stored ≠ [] ∧ ∃ content, events = [content] ∧ Tells runtime payload stored content.2

/-- The batch is stored whole, one event tells what is stored of it, and what the
receiver delivers of it is that event. -/
structure Announces (world : World) (system : System) (payload : IngestBatchInput) (content : Nat × OutboxEvent) :
    Prop where
  whole : StoredWhole system.back.pipeline.db payload
  event : eventsUnder system.back.pipeline.db payload.batchId = [content]
  tells : Tells world.runtime payload (storedUnder system.back.pipeline.db payload.batchId) content.2
  alerts : ∀ alert ∈ deliveredUnder system.alerting payload.batchId, alert = envelope content
  /-- Delivered again only after so many others that the receiver has forgotten it. -/
  apart : ∀ first between rest, system.alerting.log =
    first ++ (.delivered, envelope content) :: (between ++ (.delivered, envelope content) :: rest) →
      9000 < (AlertsService.delivered between).length
  /-- The relay gives the row up as delivered only when the receiver has. -/
  announced : ∀ row ∈ system.back.pipeline.db.outbox.rows, row.content = content → row.delivery.deliveredAt ≠ none →
    envelope content ∈ deliveredUnder system.alerting payload.batchId

variable {world : World} {system next : System} {action : Action} {actions : List Action}
variable {runtime : Runtime} {db after : Database} {payload : IngestBatchInput} {kafkaMsg : KafkaIngestMessage}
variable {form : Form} {index : Nat} {batchId : String} {event : OutboxEvent} {content : Nat × OutboxEvent}

/-! ## What recording a message adds under an id -/

theorem mem_eventsUnder : content ∈ eventsUnder db batchId ↔ content ∈ db.outbox.rows.map Row.content ∧
    content.2.payload.batchId = batchId ∧ content.2.payload.measurementsInserted ≠ 0 := by
  rw [eventsUnder, List.mem_filter, decide_eq_true_eq]

/-- Events are only told apart by what their rows are about. -/
theorem eventsUnder_congr (same : after.outbox.rows.map Row.content = db.outbox.rows.map Row.content)
    (batchId : String) : eventsUnder after batchId = eventsUnder db batchId := by
  rw [eventsUnder, same, eventsUnder]

theorem storedUnder_congr (same : readings after = readings db) (batchId : String) :
    storedUnder after batchId = storedUnder db batchId := by
  rw [storedUnder, same, storedUnder]

theorem eventsUnder_enqueue {now : Int} (queued : after.outbox = enqueue now [event] db.outbox) (batchId : String) :
    eventsUnder after batchId = eventsUnder db batchId ++
      if event.payload.batchId = batchId ∧ event.payload.measurementsInserted ≠ 0 then [(db.outbox.nextId, event)]
      else [] := by
  rw [eventsUnder, queued, enqueue, List.map_append, List.filter_append]
  congr 1
  split
  · rename_i counted
    simp [stamp, Row.content, counted]
  · rename_i uncounted
    simp [stamp, Row.content, uncounted]

theorem storedUnder_append {new : List Reading} (inserted : readings after = readings db ++ new) (batchId : String) :
    storedUnder after batchId = storedUnder db batchId ++
      new.filter fun reading => Uuid.ofText batchId = some reading.batchId := by
  rw [storedUnder, inserted, List.filter_append, storedUnder]

/-- New readings of a message are of its batch. -/
theorem batch_of_new {reading : Reading} (member : reading ∈ newReadings db kafkaMsg) :
    Uuid.ofText kafkaMsg.batchId = some reading.batchId := (mem_submitted (admitted_subset member)).2.1

/-- Recording a message of another id. -/
theorem Noted.of_other {now : Int}
    (noted : Noted runtime payload (storedUnder db payload.batchId) (eventsUnder db payload.batchId))
    (other : Uuid.ofText kafkaMsg.batchId ≠ Uuid.ofText payload.batchId)
    (inserted : readings after = readings db ++ newReadings db kafkaMsg)
    (queued : after.outbox = enqueue now [event] db.outbox)
    (tells : Tells runtime kafkaMsg.toIngestBatchInput (newReadings db kafkaMsg) event) :
    Noted runtime payload (storedUnder after payload.batchId) (eventsUnder after payload.batchId) := by
  have none :
    (newReadings db kafkaMsg).filter (fun reading => Uuid.ofText payload.batchId = some reading.batchId) = [] := by
    rw [List.filter_eq_nil_iff]
    intro reading member ofPayload
    exact other ((batch_of_new member).trans (of_decide_eq_true ofPayload).symm)
  have apart : event.payload.batchId ≠ payload.batchId := by
    rw [tells.batchId]
    exact fun same => other (congrArg Uuid.ofText same)
  rw [storedUnder_append inserted, none, List.append_nil, eventsUnder_enqueue queued, if_neg fun both => apart both.1,
    List.append_nil]
  exact noted

/-- Recording a message of the batch: it stores nothing new, or it is the first. -/
theorem Noted.of_own {now : Int}
    (noted : Noted runtime payload (storedUnder db payload.batchId) (eventsUnder db payload.batchId))
    (own : kafkaMsg.toIngestBatchInput = payload)
    (first : newReadings db kafkaMsg ≠ [] → storedUnder db payload.batchId = [])
    (inserted : readings after = readings db ++ newReadings db kafkaMsg)
    (queued : after.outbox = enqueue now [event] db.outbox)
    (tells : Tells runtime kafkaMsg.toIngestBatchInput (newReadings db kafkaMsg) event) :
    Noted runtime payload (storedUnder after payload.batchId) (eventsUnder after payload.batchId) := by
  subst own
  have all : (newReadings db kafkaMsg).filter (fun reading => Uuid.ofText kafkaMsg.batchId = some reading.batchId) =
      newReadings db kafkaMsg :=
    List.filter_eq_self.mpr fun reading member => decide_eq_true (batch_of_new member)
  rw [storedUnder_append inserted, all, eventsUnder_enqueue queued]
  by_cases nothing : newReadings db kafkaMsg = []
  · have empty : event.payload.measurementsInserted = 0 := by
      rw [tells.inserted, nothing]
      rfl
    rw [nothing, List.append_nil, if_neg fun both => both.2 empty, List.append_nil]
    exact noted
  · have some : event.payload.measurementsInserted ≠ 0 := by
      rw [tells.inserted]
      exact_mod_cast fun zero => nothing (List.length_eq_zero_iff.mp zero)
    have unstored := first nothing
    have unannounced : eventsUnder db kafkaMsg.batchId = [] :=
      noted.elim (fun none => none.2) fun one => absurd unstored one.1
    rw [unstored, unannounced, if_pos ⟨tells.batchId, some⟩]
    exact Or.inr ⟨nothing, _, rfl, tells⟩

/-- A message of a batch that has an account stores nothing new. -/
theorem newReadings_of_accounted (linked : Linked world system) (accounted : Accounted world system payload)
    (own : kafkaMsg.toIngestBatchInput = payload) : newReadings system.back.pipeline.db kafkaMsg = [] := by
  subst own
  obtain ⟨entry, member, message, receivedAtMs, isAt, read⟩ := accounted
  have right := linked.founded.accountable.right entry member
  have recorded := linked.recorded entry member
  cases right with
  | unreadable => cases recorded
  | unknownSite => cases recorded
  | recorded other otherAt otherMsg otherRead known held =>
    cases Option.some.inj (isAt.symm.trans otherAt)
    cases Option.some.inj (read.symm.trans otherRead)
    exact admitted_eq_nil held

/-! ## What a step does -/

theorem step_noted (linked : Linked world system) (only : OnlyPayload system payload)
    (noted : Noted world.runtime payload (storedUnder system.back.pipeline.db payload.batchId)
      (eventsUnder system.back.pipeline.db payload.batchId))
    (stepped : step world system action = some next) :
    Noted world.runtime payload (storedUnder next.back.pipeline.db payload.batchId)
      (eventsUnder next.back.pipeline.db payload.batchId) := by
  rcases back_cases stepped with ⟨same | ⟨own, moved, -⟩, -⟩ | ⟨turn, rfl⟩
  · rw [same]
    exact noted
  · rcases step_recorded linked.founded.accountable moved with ⟨same, quiet⟩ |
      ⟨partition, offset, message, kafkaMsg, now, event, isAt, read, inserted, queued, tells⟩
    · rw [storedUnder_congr same, eventsUnder_congr (congrArg (fun queue => queue.rows.map Row.content) quiet)]
      exact noted
    · obtain ⟨sent, member, readSent⟩ := linked.sent_of_at isAt
      obtain rfl : kafkaMsg = sent.2 := Option.some.inj (read.symm.trans readSent)
      by_cases under : Uuid.ofText sent.2.batchId = Uuid.ofText payload.batchId
      · have isOwn := only sent member under
        refine noted.of_own isOwn (fun new => ?_) inserted queued tells
        refine (stored_cases linked only).2 fun accounted => ?_
        exact new (newReadings_of_accounted linked accounted isOwn)
      · exact noted.of_other under inserted queued tells
  · obtain ⟨relays, moved, rfl⟩ := step_relay stepped
    obtain ⟨-, relayed⟩ := step_draining linked.founded.relays moved
    have stored : storedUnder relays.pipeline.db payload.batchId = _ := storedUnder_congr relayed.readings _
    have events : eventsUnder relays.pipeline.db payload.batchId = _ := eventsUnder_congr relayed.outbox _
    simp only [System.withRelays, stored, events]
    exact noted

/-! ## Whole runs -/

theorem run_noted {partitions : Nat} (keeps : StepsMeet (step world) (KeepsWhole world) (initial partitions) actions)
    (ran : run (step world) (initial partitions) actions = some system) (carried : Carried world system)
    (only : OnlyPayload system payload) :
    Linked world system ∧ Noted world.runtime payload (storedUnder system.back.pipeline.db payload.batchId)
      (eventsUnder system.back.pipeline.db payload.batchId) :=
  run_invariant_of_finish
    (fun system =>
      Linked world system ∧ Noted world.runtime payload (storedUnder system.back.pipeline.db payload.batchId)
      (eventsUnder system.back.pipeline.db payload.batchId))
    (fun system => Carried world system ∧ OnlyPayload system payload)
    (fun stepped holds =>
      ⟨carried_reflects stepped holds.1, fun sent member => holds.2 sent (topic_grows stepped member)⟩)
    (fun holds keeps stepped finish => ⟨step_linked holds.1 keeps stepped finish.1,
      step_noted holds.1 (fun sent member => finish.2 sent (topic_grows stepped member)) holds.2 stepped⟩)
    ⟨initial_linked world partitions, Or.inl ⟨rfl, rfl⟩⟩ keeps ran ⟨carried, only⟩

theorem measurements_ne_nil (accepts : Accepted payload) : payload.measurements ≠ [] := by
  have valid : ValidMessage { payload with receivedAtMs := 1 } :=
    kafkaMessage_valid (Notifications.kafkaValue_accepted accepts Int.one_pos)
  exact valid.nonempty

/-- A batch that is stored whole has a reading. -/
theorem storedUnder_ne_nil (accepts : Accepted payload) (whole : StoredWhole db payload) :
    storedUnder db payload.batchId ≠ [] := by
  obtain ⟨proposed, ⟨batch, -, site, -, -, read⟩, stored⟩ := whole
  obtain ⟨m, rest, some⟩ := List.exists_cons_of_ne_nil (measurements_ne_nil accepts)
  rw [some] at read
  obtain ⟨reading, others, -, -, rfl⟩ := List.forall₂_cons_left_iff.mp read
  rw [stored, admitted, if_neg List.not_mem_nil]
  exact List.cons_ne_nil _ _

/-- Whatever the receiver delivered of a batch was posted for an event of it. -/
theorem posted_of_delivered (linked : Linked world system) {alert : AlertEnvelopeBusiness}
    (delivered : alert ∈ deliveredUnder system.alerting batchId) :
    ∃ content ∈ eventsUnder system.back.pipeline.db batchId, alert = envelope content := by
  obtain ⟨logged, ofBatch⟩ := List.mem_filter.mp delivered
  obtain ⟨-, some, content, member, rfl⟩ := linked.founded.relays.posting.posted alert logged
  exact ⟨content, mem_eventsUnder.mpr ⟨member, of_decide_eq_true ofBatch, some⟩, rfl⟩

/-- What the one event of a batch stands for. -/
theorem announces_of_event (linked : Linked world system) (whole : StoredWhole system.back.pipeline.db payload)
    (event : eventsUnder system.back.pipeline.db payload.batchId = [content])
    (tells : Tells world.runtime payload (storedUnder system.back.pipeline.db payload.batchId) content.2) :
    Announces world system payload content := by
  have alerts : ∀ alert ∈ deliveredUnder system.alerting payload.batchId, alert = envelope content := by
    intro alert delivered
    obtain ⟨other, member, rfl⟩ := posted_of_delivered linked delivered
    rw [event] at member
    rw [List.mem_singleton.mp member]
  refine ⟨whole, event, tells, alerts, fun first between rest logged => ?_, fun row stored isContent delivered => ?_⟩
  · exact linked.founded.relays.posting.window.apart (by decide) logged rfl
  · obtain ⟨-, ofBatch, some⟩ := mem_eventsUnder.mp (event ▸ List.mem_singleton_self content)
    have settled := linked.founded.relays.posting.settled.rows row stored delivered
    rw [isContent] at settled
    obtain ⟨alert, logged, sameKey⟩ := List.mem_map.mp (settled some)
    -- Whatever was delivered under the row's key is an alert of its batch.
    have sameBatch : alert.payload.batchId = content.2.payload.batchId :=
      batchId_of_dedupKey ((linked.founded.relays.posting.posted alert logged).1.trans tells.eventType.symm) sameKey
    have under : alert ∈ deliveredUnder system.alerting payload.batchId :=
      List.mem_filter.mpr ⟨logged, decide_eq_true (sameBatch.trans ofBatch)⟩
    rwa [alerts alert under] at under

/-- A batch with an account is announced by one event, and one without by none. -/
theorem announced_cases (linked : Linked world system) (only : OnlyPayload system payload) (accepts : Accepted payload)
    (noted : Noted world.runtime payload (storedUnder system.back.pipeline.db payload.batchId)
      (eventsUnder system.back.pipeline.db payload.batchId)) :
    (Accounted world system payload → ∃ content, Announces world system payload content) ∧
      (¬Accounted world system payload → eventsUnder system.back.pipeline.db payload.batchId = [] ∧
        deliveredUnder system.alerting payload.batchId = []) := by
  obtain ⟨whole, nothing⟩ := stored_cases linked only
  constructor
  · intro accounted
    obtain ⟨-, content, event, tells⟩ :=
      noted.resolve_left fun none => storedUnder_ne_nil accepts (whole accounted) none.1
    exact ⟨content, announces_of_event linked (whole accounted) event tells⟩
  · intro unaccounted
    have none := (noted.resolve_right fun one => one.1 (nothing unaccounted)).2
    refine ⟨none, List.eq_nil_iff_forall_not_mem.mpr fun alert delivered => ?_⟩
    obtain ⟨content, member, -⟩ := posted_of_delivered linked delivered
    rw [none] at member
    cases member

/-- **Whatever a page sends is announced once, with what is stored of it.** In
every run of the whole platform, whoever retries, crashes, reads a message again
or posts an alert again: a batch of which some message has an account is stored
whole, and one event tells what is stored; the receiver delivers that event and
nothing else of the batch, again only when it has forgotten it, and at least once
before its row counts as delivered. Of any other batch there is no event and no
alert. -/
theorem batches_are_announced_once {partitions : Nat}
    (fresh : Function.Injective fun place : Nat × Nat => caseless ((world.browser place.1).randomUUID place.2))
    (apart : ∀ action ∈ actions, Apart world action)
    (keeps : StepsMeet (step world) (KeepsWhole world) (initial partitions) actions)
    (ran : run (step world) (initial partitions) actions = some system) (carried : Carried world system)
    (held : system.front.pages[index]? = some form) (isSent : payload ∈ form.sent) :
    (Accounted world system payload → ∃ content, Announces world system payload content) ∧
      (¬Accounted world system payload → eventsUnder system.back.pipeline.db payload.batchId = [] ∧
        deliveredUnder system.alerting payload.batchId = []) := by
  obtain ⟨sound, one, foreign⟩ := run_pages fresh apart keeps ran
  have only := only_payload fresh sound one foreign held isSent
  obtain ⟨linked, noted⟩ := run_noted keeps ran carried only
  exact announced_cases linked only ((sound.pages index form held).accepted payload isSent) noted

/-- **A success that is shown is announced.** Where a page shows a batch as queued
and no request is under way, a message of it is in some partition, and once a
consumer has moved past that message, the batch is stored whole and announced by
one event. -/
theorem shown_success_is_announced {partitions : Nat}
    (fresh : Function.Injective fun place : Nat × Nat => caseless ((world.browser place.1).randomUUID place.2))
    (apart : ∀ action ∈ actions, Apart world action)
    (keeps : StepsMeet (step world) (KeepsWhole world) (initial partitions) actions)
    (through : StepsMeet (step world) BringsThrough (initial partitions) actions)
    (ran : run (step world) (initial partitions) actions = some system) (carried : Carried world system)
    (quiet : Quiet system.front.edge) (held : system.front.pages[index]? = some form) {count : Int}
    (shown : form.status = .success batchId count) :
    ∃ payload ∈ form.sent, payload.batchId = batchId ∧ payload.measurements.length = count ∧
      ∃ partition offset message receivedAtMs, At system.back.group partition offset message ∧
        readMessage world.parse message = some { payload with receivedAtMs } ∧
          (Passed system.back.group partition offset → ∃ content, Announces world system payload content) := by
  obtain ⟨sound, one, foreign⟩ := run_pages fresh apart keeps ran
  obtain ⟨payload, isSent, sameId, sameCount, partition, offset, message, receivedAtMs, isAt, read, accounted⟩ :=
    shown_success_is_accounted fresh apart keeps through ran carried quiet held shown
  have only := only_payload fresh sound one foreign held isSent
  obtain ⟨linked, noted⟩ := run_noted keeps ran carried only
  have accepts := (sound.pages index form held).accepted payload isSent
  exact ⟨payload, isSent, sameId, sameCount, partition, offset, message, receivedAtMs, isAt, read,
    fun passed => (announced_cases linked only accepts noted).1 (accounted passed)⟩

/-- The relay's first POST is answered and the answer lost; two seconds later it
posts the alert again. -/
private def postedTwice : List Action :=
  retriedAndTakenOver ++ [.relay (.outbox (.poll 7 1704067204000000)),
    .relay (.outbox (.deliver 7 (.replyLost "timeout") 0)), .relay (.outbox (.commit 7 1704067204000001)),
    .relay (.outbox (.poll 7 1704067210000000)), .relay (.outbox (.deliver 7 (.replied "") 0)),
    .relay (.outbox (.commit 7 1704067210000001))]

private theorem postedTwice_ran :
    ∃ system ∈ run (step oneMessage) (initial 1) postedTwice, ∃ form ∈ system.front.pages[0]?,
      (form.sent = [typedIn, typedIn] ∧ form.status = .success typedIn.batchId 1) ∧
        system.front.edge.shared.topic = [("north-plant", { typedIn with receivedAtMs := 1704067201000 })] ∧
          (∀ request ∈ system.front.edge.requests, request.IsAcknowledged) ∧
            system.back.group.topic = [[⟨some messageBytes, "0"⟩]] ∧ system.back.accounts = [⟨0, 0, .recorded⟩] ∧
              Passed system.back.group 0 0 ∧
                system.alerting.log.map Prod.fst = [.delivered, .duplicateSuppressed] := by decide +kernel

private theorem postedTwice_apart : ∀ action ∈ postedTwice, Apart oneMessage action := by
  simp [postedTwice, retriedAndTakenOver, EndToEnd.prepared, Apart]

private theorem postedTwice_keeps : StepsMeet (step oneMessage) (KeepsWhole oneMessage) (initial 1) postedTwice := by
  decide +kernel

theorem retried_batch_is_announced_once :
    ∃ system form content, run (step oneMessage) (initial 1) postedTwice = some system ∧
      system.front.pages[0]? = some form ∧ form.sent = [typedIn, typedIn] ∧
        system.alerting.log.map Prod.fst = [.delivered, .duplicateSuppressed] ∧
          Announces oneMessage system typedIn content := by
  obtain ⟨system, ran, form, held, ⟨sent, -⟩, topic, -, logs, accounts, -, posted⟩ := postedTwice_ran
  have isSent : typedIn ∈ form.sent := sent ▸ List.mem_cons_self
  obtain ⟨content, announces⟩ := (batches_are_announced_once oneMessage_fresh postedTwice_apart postedTwice_keeps ran
    (oneMessage_carried topic) held isSent).1 (oneMessage_accounted topic logs accounts)
  exact ⟨system, form, content, ran, held, sent, posted, announces⟩

theorem retried_success_is_announced :
    ∃ system form, run (step oneMessage) (initial 1) postedTwice = some system ∧
      system.front.pages[0]? = some form ∧ form.status = .success typedIn.batchId 1 ∧
        ∃ payload ∈ form.sent, ∃ content, Announces oneMessage system payload content := by
  obtain ⟨system, ran, form, held, ⟨-, shown⟩, topic, acknowledged, logs, -, passed, -⟩ := postedTwice_ran
  have quiet : Quiet system.front.edge := fun request member => ⟨_, acknowledged request member⟩
  obtain ⟨payload, isSent, -, -, partition, offset, message, -, isAt, -, announced⟩ :=
    shown_success_is_announced oneMessage_fresh postedTwice_apart postedTwice_keeps (by decide +kernel) ran
      (oneMessage_carried topic) quiet held shown
  obtain ⟨rfl, rfl⟩ := oneMessage_at logs isAt
  exact ⟨system, form, ran, held, shown, payload, isSent, announced passed⟩

end EmissionsPlatform.Announcements
