import EmissionsPlatform.DedupWindow
import EmissionsPlatform.MessageAccounts
import EmissionsPlatform.Notifications

/-! The relays beside whatever fills their tables. A relay writes delivery
columns, alerts, Redis and the log of its receiver, and nothing of what a row is
about (`Relayed`). Whoever fills the tables adds rows to them.

Neither disturbs `Draining`, which is what the relays hold of their tables. For
the outbox it says that every alert the receiver delivered is the envelope of a
row with readings, and that a delivered row has its dedupe key among theirs. No
bound on the receiver's store is needed for it: a key the store holds is one of
the last that were delivered. -/
namespace EmissionsPlatform.RelayWrites
open Contracts LeaseQueue IngestHandler IngestPipeline Conservation Redelivery Alerting
open MessageAccounts (Accountable Fills Ledger)
open OutboxRelay (envelope)
set_option autoImplicit false

/-- A step of one of the relays. -/
inductive Turn
  | outbox (action : OutboxRelay.Action)
  | metrics (action : MetricsRelay.Action)
  | systemAlerts (action : SystemAlertsRelay.Action)

def Turn.action : Turn → Notifications.Action
  | .outbox action => .outboxRelay action
  | .metrics action => .metricsRelay action
  | .systemAlerts action => .systemAlertsRelay action

/-- The tables keep their rows, and a queue what its rows are about. -/
structure Relayed (before after : Pipeline) : Prop where
  tables : ∃ outbox metricsOutbox systemAlerts,
    after = { before with db := { before.db with outbox, metricsOutbox, systemAlerts } }
  outbox : after.db.outbox.rows.map Row.content = before.db.outbox.rows.map Row.content
  metricsOutbox : after.db.metricsOutbox.rows.map Row.content = before.db.metricsOutbox.rows.map Row.content

/-- What the receiver delivered, and what of the outbox is delivered. -/
structure Posting (alerting : AlertsService) (outbox : Queue OutboxEvent SystemAlert) : Prop where
  queue : LeaseQueue.Sound outbox
  window : alerting.Remembers 10000
  posted : ∀ alert ∈ AlertsService.delivered alerting.log, alert.eventType = "ingest.batch.persisted" ∧
    alert.payload.measurementsInserted ≠ 0 ∧ ∃ content ∈ outbox.rows.map Row.content, alert = envelope content
  settled : Settled (fun content => content.2.payload.measurementsInserted ≠ 0 →
    dedupKey (envelope content) ∈ (AlertsService.delivered alerting.log).map dedupKey) outbox

/-- What the relays hold of their tables. -/
structure Draining (platform : Notifications.Platform) : Prop where
  posting : Posting platform.alerting platform.pipeline.db.outbox
  applied : MetricsRelay.Exact
    ⟨platform.pipeline.db.metricsOutbox, platform.pipeline.db.systemAlerts, platform.redis, platform.ran⟩

variable {runtime : Runtime} {parse : List UInt8 → Option Json} {config : Notifications.Config}
variable {platform next : Notifications.Platform} {before after : Pipeline} {turn : Turn}
variable {service alerting : AlertsService} {alert : AlertEnvelopeBusiness} {content : Nat × OutboxEvent}
variable {outbox : Queue OutboxEvent SystemAlert} {answer : Except (List String) Response}
variable {state later : MessageAccounts.State}

/-! ## What a relay leaves alone -/

theorem Relayed.sites (relayed : Relayed before after) : after.db.sites = before.db.sites := by
  obtain ⟨_, _, _, rfl⟩ := relayed.tables
  rfl

theorem Relayed.readings (relayed : Relayed before after) : readings after.db = readings before.db := by
  obtain ⟨_, _, _, rfl⟩ := relayed.tables
  rfl

/-- Rows about the same carry the same data. -/
theorem map_data_of_content {α : Type} {rows old : List (Row α)}
    (contents : rows.map Row.content = old.map Row.content) :
    rows.map Row.data = old.map Row.data := by
  have seconds := congrArg (List.map Prod.snd) contents
  rwa [List.map_map, List.map_map] at seconds

/-- The write side asks of its queues that increments are of known sites. -/
theorem Relayed.sound (relayed : Relayed before after) (sound : IngestPipeline.Sound before) :
    IngestPipeline.Sound after := by
  have data := map_data_of_content relayed.metricsOutbox
  obtain ⟨⟨siteIds, siteFresh, sequenced, measured, attributed, incremented⟩, remembers⟩ := sound
  have still : ∀ row ∈ after.db.metricsOutbox.rows, ∃ site ∈ before.db.sites.rows, site.id = row.data.siteId := by
    intro row stored
    obtain ⟨old, known, same⟩ := List.mem_map.mp (data ▸ List.mem_map_of_mem stored)
    exact same ▸ incremented old known
  obtain ⟨_, _, _, rfl⟩ := relayed.tables
  exact ⟨⟨siteIds, siteFresh, sequenced, measured, attributed, still⟩,
    fun process member => ⟨(remembers process member).sites, (remembers process member).points⟩⟩

/-- What the queues announce goes on agreeing with the readings. -/
theorem Relayed.conserved (relayed : Relayed before after) (conserved : Conserved runtime before.db) :
    Conserved runtime after.db := by
  have increments := map_data_of_content relayed.metricsOutbox
  have events := map_data_of_content relayed.outbox
  have payloads : after.db.outbox.rows.map (fun row => row.data.payload) =
      before.db.outbox.rows.map fun row => row.data.payload := by
    have announced := congrArg (List.map OutboxEvent.payload) events
    rwa [List.map_map, List.map_map] at announced
  obtain ⟨months, counts, sums⟩ := conserved
  unfold Conservation.increments at months
  unfold batchPayloads at counts sums
  rw [← increments] at months
  rw [← payloads] at counts sums
  obtain ⟨_, _, _, rfl⟩ := relayed.tables
  exact ⟨months, counts, sums⟩

/-- The consumers' accounts stand. -/
theorem Relayed.grows (relayed : Relayed state.pipeline later.pipeline) (group : later.group = state.group) :
    MessageAccounts.Grows state later := by
  refine ⟨⟨[], by rw [relayed.sites, List.append_nil]⟩, ?_, fun _ _ _ isAt => group ▸ isAt⟩
  rw [relayed.readings]
  exact List.Subset.refl _

theorem Relayed.accountable (relayed : Relayed state.pipeline later.pipeline) (group : later.group = state.group)
    (accounts : later.accounts = state.accounts) (accountable : Accountable parse state) : Accountable parse later :=
  accountable.quiet (relayed.grows group) (group ▸ accountable.group) (relayed.sound accountable.pipeline) accounts
    relayed.readings

theorem Relayed.ledger (relayed : Relayed state.pipeline later.pipeline) (group : later.group = state.group)
    (accounts : later.accounts = state.accounts) (accountable : Accountable parse state) (ledger : Ledger parse state) :
    Ledger parse later :=
  ledger.quiet accountable (relayed.grows group) accounts relayed.readings

/-! ## The outbox and its receiver -/

/-- An alert with readings has its key in the store afterwards. -/
theorem handleBusiness_holds (some : alert.payload.measurementsInserted ≠ 0) :
    dedupKey alert ∈ (handleBusiness service alert).1.dedupStore.keys := by
  unfold handleBusiness
  rw [if_neg some]
  by_cases held : dedupKey alert ∈ service.dedupStore.keys
  · rw [DedupStore.add_of_mem held]
    exact held
  · have new := (DedupStore.add_returns _ _).mpr held
    simp only [new, if_true, AlertsService.record]
    rw [DedupStore.add, if_neg held]
    exact List.mem_append_right _ (List.mem_singleton_self _)

/-- An alert is delivered only with readings. -/
theorem handleBusiness_delivered (service : AlertsService) (alert : AlertEnvelopeBusiness) :
    AlertsService.delivered (handleBusiness service alert).1.log = AlertsService.delivered service.log ∨
      alert.payload.measurementsInserted ≠ 0 ∧ AlertsService.delivered (handleBusiness service alert).1.log =
        AlertsService.delivered service.log ++ [alert] := by
  by_cases nothing : alert.payload.measurementsInserted = 0
  · rw [handleBusiness, if_pos nothing]
    exact Or.inl (by simp [AlertsService.record, AlertsService.delivered])
  · rcases AlertsService.handleBusiness_adds service alert with ⟨event, suppressed, handled⟩ | ⟨-, handled⟩
    · rw [handled]
      exact Or.inl (by simp [AlertsService.record, suppressed, AlertsService.delivered])
    · rw [handled]
      exact Or.inr ⟨nothing, by simp [AlertsService.delivered]⟩

/-- A key the store holds was delivered. -/
theorem delivered_of_held (window : alerting.Remembers 10000) {key : String} (held : key ∈ alerting.dedupStore.keys) :
    key ∈ (AlertsService.delivered alerting.log).map dedupKey :=
  window.2.suffix.subset held

/-- Other delivery columns of the same rows. -/
theorem Posting.write (posting : Posting alerting outbox) {later : Queue OutboxEvent SystemAlert}
    (sound : LeaseQueue.Sound later) (contents : later.rows.map Row.content = outbox.rows.map Row.content)
    (settled : Settled (fun content => content.2.payload.measurementsInserted ≠ 0 →
      dedupKey (envelope content) ∈ (AlertsService.delivered alerting.log).map dedupKey) later) :
    Posting alerting later :=
  ⟨sound, posting.window, contents ▸ posting.posted, settled⟩

/-- Rows that start undelivered. -/
theorem Posting.enqueue (posting : Posting alerting outbox) (now : Int) (events : List OutboxEvent) :
    Posting alerting (enqueue now events outbox) := by
  refine ⟨enqueue_sound now events posting.queue, posting.window, fun alert delivered => ?_,
    enqueue_settled now events posting.settled⟩
  obtain ⟨event, some, content, member, same⟩ := posting.posted alert delivered
  refine ⟨event, some, content, ?_, same⟩
  rw [LeaseQueue.enqueue, List.map_append]
  exact List.mem_append_left _ member

/-- Posting a row: with an answer, its key is one that was delivered. -/
theorem Posting.post (posting : Posting alerting outbox) (member : content ∈ outbox.rows.map Row.content)
    {later : AlertsService} (handled : postBusiness alerting (envelopeJson (envelope content)) = (later, answer)) :
    Posting later outbox ∧ ((∃ response, answer = .ok response) → content.2.payload.measurementsInserted ≠ 0 →
      dedupKey (envelope content) ∈ (AlertsService.delivered later.log).map dedupKey) := by
  unfold postBusiness at handled
  split at handled
  · cases handled
    exact ⟨posting, fun ⟨_, isOk⟩ => nomatch isOk⟩
  · rename_i alert accepted
    obtain ⟨rfl, event⟩ := envelope_read accepted
    obtain rfl : (handleBusiness alerting (envelope content)).1 = later := congrArg Prod.fst handled
    have window := posting.window.handleBusiness (by decide) (envelope content)
    refine ⟨?_, fun _ some => delivered_of_held window (handleBusiness_holds some)⟩
    rcases handleBusiness_delivered alerting (envelope content) with same | ⟨some, added⟩
    · refine ⟨posting.queue, window, ?_, ?_⟩
      · rw [same]
        exact posting.posted
      · rw [same]
        exact posting.settled
    · refine ⟨posting.queue, window, ?_, posting.settled.mono fun other done some => ?_⟩
      · rw [added]
        exact List.forall_mem_append.mpr ⟨posting.posted,
          List.forall_mem_singleton.mpr ⟨event, some, content, member, rfl⟩⟩
      · rw [added, List.map_append]
        exact List.mem_append_left _ (done some)

/-- A step of the outbox relay. -/
theorem Posting.relay {relay : Relay.Config} {start later : OutboxRelay.Platform} {chosen : OutboxRelay.Action}
    (posting : Posting start.alerting start.outbox) (ofRelay : ∀ action, chosen ≠ .ingest action)
    (stepped : OutboxRelay.step runtime relay start chosen = some later) :
    Posting later.alerting later.outbox ∧ later.outbox.rows.map Row.content = start.outbox.rows.map Row.content ∧
      ∃ alerting outbox systemAlerts, later = start.write alerting outbox systemAlerts := by
  cases chosen with
  | ingest action => exact absurd rfl (ofRelay action)
  | poll worker now =>
    obtain ⟨outbox, polled, rfl⟩ := Option.map_eq_some_iff.mp stepped
    have contents : outbox.rows.map Row.content = start.outbox.rows.map Row.content := by
      rw [(poll_eq_some polled).2]
    exact ⟨posting.write (poll_sound posting.queue polled) contents (poll_settled posting.settled polled), contents,
      _, _, _, rfl⟩
  | deliver worker post random =>
    obtain ⟨startedAt, row, alerting, delivery, alerts, outbox, next, handled, settled, rfl⟩ :=
      OutboxRelay.step_deliver stepped
    obtain ⟨pending, written, produced, held⟩ := next?_eq_some next
    obtain ⟨stored, undelivered⟩ := (posting.queue.held worker _ held).pending row List.mem_cons_self
    have contents : outbox.rows.map Row.content = start.outbox.rows.map Row.content := by
      obtain ⟨_, _, _, _, _, _, rfl⟩ := settle_eq_some settled
      rfl
    have sound := settle_sound posting.queue settled
    refine ⟨?_, contents, _, _, _, rfl⟩
    rcases OutboxRelay.deliverRow_cases undelivered handled with ⟨rfl, kept⟩ | ⟨answer, posted, answered⟩
    · exact posting.write sound contents
        (settle_settled posting.settled (fun delivered => absurd kept delivered) settled)
    · obtain ⟨after, done⟩ := posting.post (List.mem_map_of_mem stored) posted
      refine after.write sound contents (settle_settled after.settled (fun delivered _ other found => ?_) settled)
      cases next.symm.trans found
      exact done (answered delivered)
  | commit worker now =>
    obtain ⟨⟨outbox, systemAlerts⟩, committed, rfl⟩ := Option.map_eq_some_iff.mp stepped
    obtain ⟨alerts, committed, -⟩ := Relay.commitTick_eq_some.mp committed
    have contents := commit_contents posting.queue committed
    exact ⟨posting.write (commit_sound posting.queue committed) contents (commit_settled posting.settled committed),
      contents, _, _, _, rfl⟩
  | rollback worker =>
    cases stepped
    exact ⟨posting.write (rollback_sound worker posting.queue) rfl (rollback_settled worker posting.settled), rfl,
      _, _, _, rfl⟩

/-! ## All relays -/

/-- Alerts are nothing to Redis. -/
theorem Draining.with_alerts (draining : Draining platform) (systemAlerts : Queue SystemAlert Empty) :
    MetricsRelay.Exact ⟨platform.pipeline.db.metricsOutbox, systemAlerts, platform.redis, platform.ran⟩ :=
  draining.applied.of_queue draining.applied.sound draining.applied.settled rfl fun _ stored _ => stored

theorem step_draining (draining : Draining platform)
    (stepped : Notifications.step runtime parse config platform turn.action = some next) :
    Draining next ∧ Relayed platform.pipeline next.pipeline := by
  cases turn with
  | outbox chosen =>
    have ofRelay : ∀ action, chosen ≠ .ingest action := by
      rintro action rfl
      cases stepped
    simp only [Turn.action, Notifications.step, Option.map_eq_some_iff] at stepped
    obtain ⟨later, relayed, rfl⟩ := stepped
    obtain ⟨posting, contents, alerting, outbox, systemAlerts, rfl⟩ := draining.posting.relay ofRelay relayed
    exact ⟨⟨posting, draining.with_alerts systemAlerts⟩, ⟨_, _, _, rfl⟩, contents, rfl⟩
  | metrics chosen =>
    have ofRelay : ∀ now increments, chosen ≠ .enqueue now increments := by
      rintro now increments rfl
      cases stepped
    simp only [Turn.action, Notifications.step, Option.map_eq_some_iff] at stepped
    obtain ⟨later, relayed, rfl⟩ := stepped
    have contents := MetricsRelay.step_contents draining.applied ofRelay relayed
    exact ⟨⟨draining.posting, MetricsRelay.step_exact draining.applied relayed⟩, ⟨_, _, _, rfl⟩, rfl, contents⟩
  | systemAlerts chosen =>
    simp only [Turn.action, Notifications.step, Option.map_eq_some_iff] at stepped
    obtain ⟨⟨systemLog, systemAlerts⟩, relayed, rfl⟩ := stepped
    exact ⟨⟨draining.posting, draining.with_alerts systemAlerts⟩, ⟨_, _, _, rfl⟩, rfl, rfl⟩

/-- Rows that are added to the tables. -/
theorem Draining.fill (draining : Draining platform) {pipeline : Pipeline}
    (fills : Fills platform.pipeline.db pipeline.db) : Draining { platform with pipeline } := by
  obtain ⟨⟨now, events, outbox⟩, later, increments, metricsOutbox⟩ := fills
  refine ⟨?_, ?_⟩
  · simp only [outbox]
    exact draining.posting.enqueue now events
  · simp only [metricsOutbox]
    have grown := draining.applied.enqueue later increments
    exact grown.of_queue grown.sound grown.settled rfl fun _ stored _ => stored

theorem initial_draining : Draining Notifications.initial :=
  ⟨⟨empty_sound, DedupStore.remembers_nil, List.forall_mem_nil _, empty_settled⟩, MetricsRelay.initial_exact⟩

end EmissionsPlatform.RelayWrites
