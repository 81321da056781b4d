import EmissionsPlatform.Foundation.Drain
import EmissionsPlatform.MetricsRelay
import EmissionsPlatform.SystemAlertsRelay

/-! Whole runs of the three relays. Each drains its table in the same way and
differs in what a failure writes, so their runs are runs of one machine under
three handlers, with every attempt kept in a history.

A relay gives a row up by moving `available_at` into the future and nothing
else, and the poll does not look at `attempts`. So a row is given up for a day,
or a year, and not for good: `exhaustion_is_final_iff` says that this is the
one way to exceed the attempts. `outbox_rows_survive` is what the row locks
achieve for the outbox over every interleaving of replicas. -/
namespace EmissionsPlatform.RelayRuns
open LeaseQueue Relay Drain Transition
set_option autoImplicit false

/-- What a relay that reports exhausted rows writes after an attempt. -/
def settlement {α : Type} (exhausted : Row α → Nat → String → SystemAlert) (config : Config) :
    Handler α SystemAlert
  | startedAt, row, .delivered => markDelivered startedAt row
  | startedAt, row, .failed errMsg random => handleFailure exhausted config startedAt row errMsg random

/-- `deliverRow` of the outbox relay: a POST answered 2xx delivers, and any
other answer or error fails. -/
def outboxHandler : Config → Handler OutboxEvent SystemAlert := settlement OutboxRelay.exhausted

/-- `applyRow` of the metrics relay. -/
def metricsHandler : Config → Handler MetricsIncrement SystemAlert := settlement MetricsRelay.exhausted

/-- `now() + interval '1 year'`, in a session in UTC. -/
def oneYearAfter (instant : Int) : Int :=
  Calendar.yearLater (instant / microsPerDay) * microsPerDay + instant % microsPerDay

/-- The system-alerts relay with its sessions in UTC. -/
def inUtc (config : Config) : SystemAlertsRelay.Config := { config with oneYearAfter := oneYearAfter }

/-- `deliverRow` of the system-alerts relay, which reports no row: that would be
one more row to deliver. -/
def systemAlertsHandler (config : Config) : Handler SystemAlert Empty
  | startedAt, row, .delivered => ({ row.delivery with deliveredAt := some startedAt }, [])
  | startedAt, row, .failed errMsg random =>
    (SystemAlertsRelay.handleFailure (inUtc config) startedAt row errMsg random, [])

/-- The alert reports that a row of the outbox is exhausted. -/
def aboutOutboxRow (id : Nat) (alert : SystemAlert) : Bool :=
  alert.alertType = "outbox_delivery_exhausted" ∧ ("outbox_id", .text (toString id)) ∈ alert.payload

/-- The alert reports that a row of `metrics_outbox` is exhausted. -/
def aboutMetricsRow (id : Nat) (alert : SystemAlert) : Bool :=
  alert.alertType = "metrics_outbox_exhausted" ∧ ("metrics_outbox_id", .text (toString id)) ∈ alert.payload

variable {config : Config}

/-! ## The handlers -/

section
variable {α : Type} {exhausted : Row α → Nat → String → SystemAlert} {about : Nat → SystemAlert → Bool}

theorem settlement_marks (exhausted : Row α → Nat → String → SystemAlert) (config : Config) :
    Marks (settlement exhausted config) :=
  ⟨fun _ _ => Option.some_ne_none _, fun _ _ _ _ => handleFailure_deliveredAt⟩

/-- A relay spends one attempt on a failure, and reports a row whose attempts
are used up. -/
theorem settlement_budgeted (config : Config)
    (names : ∀ row attempts errMsg id, about id (exhausted row attempts errMsg) = true → row.id = id) :
    Budgeted (settlement exhausted config) about config.maxAttempts := by
  refine { settlement_marks exhausted config with
    unchanged := fun _ _ => rfl, counted := fun startedAt row errMsg random => ?_, reported := ?_ }
  · simp only [settlement, handleFailure]
    split <;> rfl
  · intro startedAt row outcome id
    cases outcome with
    | delivered => exact Nat.zero_le _
    | failed errMsg random =>
      simp only [settlement, handleFailure]
      split
      · rename_i spent
        by_cases named : about id (exhausted row (row.delivery.attempts + 1) errMsg) = true
        · rw [if_pos ⟨names _ _ _ _ named, spent⟩]
          exact List.countP_le_length
        · simp [named]
      · exact Nat.zero_le _

end

theorem outboxHandler_budgeted (config : Config) :
    Budgeted (outboxHandler config) aboutOutboxRow config.maxAttempts := by
  apply settlement_budgeted config
  intro row attempts errMsg id named
  have same : toString id = toString row.id := by
    simpa [aboutOutboxRow, OutboxRelay.exhausted] using named
  exact (DecimalText.eq_of_toString_nat same).symm

theorem metricsHandler_budgeted (config : Config) :
    Budgeted (metricsHandler config) aboutMetricsRow config.maxAttempts := by
  apply settlement_budgeted config
  intro row attempts errMsg id named
  have same : toString id = toString row.id := by
    simpa [aboutMetricsRow, MetricsRelay.exhausted] using named
  exact (DecimalText.eq_of_toString_nat same).symm

/-- What the system-alerts relay writes after a failure. -/
theorem systemAlertsHandler_failed (config : Config) (startedAt : Int) (row : Row SystemAlert) (errMsg : String)
    (random : Nat) :
    systemAlertsHandler config startedAt row (.failed errMsg random) =
      (let failed := { row.delivery with attempts := row.delivery.attempts + 1, lastError := some errMsg }
      if config.maxAttempts ≤ row.delivery.attempts + 1 then { failed with availableAt := oneYearAfter startedAt }
      else { failed with availableAt := startedAt + backoff config (row.delivery.attempts + 1) random }, []) :=
  rfl

/-- The system-alerts relay has nothing to report about. -/
def aboutNothing (_ : Nat) (alert : Empty) : Bool := nomatch alert

theorem systemAlertsHandler_budgeted (config : Config) :
    Budgeted (systemAlertsHandler config) aboutNothing config.maxAttempts := by
  refine ⟨⟨fun _ _ => Option.some_ne_none _, fun _ _ _ _ => ?_⟩, fun _ _ => rfl, fun _ _ _ _ => ?_, ?_⟩
  · simp only [systemAlertsHandler_failed]
    split <;> rfl
  · simp only [systemAlertsHandler_failed]
    split <;> rfl
  · intro startedAt row outcome id
    cases outcome <;> exact Nat.zero_le _

/-! ## Exhaustion -/

/-- **Exhaustion is final in all three relays** in a run of committed ticks
exactly when each row a tick took up had attempts left. -/
theorem exhaustion_is_final_iff (config : Config) :
    (∀ actions state, (∀ action ∈ actions, action.Kept) →
      run (step (outboxHandler config) config.batchSize) (started [] 1) actions = some state →
        (Final aboutOutboxRow config.maxAttempts state ↔
          StepsMeet (step (outboxHandler config) config.batchSize) (AttemptsLeft config.maxAttempts)
            (started [] 1) actions)) ∧
    (∀ actions state, (∀ action ∈ actions, action.Kept) →
      run (step (metricsHandler config) config.batchSize) (started [] 1) actions = some state →
        (Final aboutMetricsRow config.maxAttempts state ↔
          StepsMeet (step (metricsHandler config) config.batchSize) (AttemptsLeft config.maxAttempts)
            (started [] 1) actions)) ∧
    ∀ actions state, (∀ action ∈ actions, action.Kept) →
      run (step (systemAlertsHandler config) config.batchSize) (started [] 1) actions = some state →
        (Final aboutNothing config.maxAttempts state ↔
          StepsMeet (step (systemAlertsHandler config) config.batchSize) (AttemptsLeft config.maxAttempts)
            (started [] 1) actions) :=
  ⟨fun _ _ kept ran => run_final_iff (outboxHandler_budgeted config) kept ran,
    fun _ _ kept ran => run_final_iff (metricsHandler_budgeted config) kept ran,
    fun _ _ kept ran => run_final_iff (systemAlertsHandler_budgeted config) kept ran⟩

private def oneAttempt : Config := ⟨10, 1, 1000000, 300000000⟩

/-- A tick whose one delivery fails. -/
private def failingTick {α : Type} (now : Int) : List (Action α) :=
  [.poll 0 now, .deliver 0 (.failed "HTTP 503: " 0), .commit 0]

private def persisted : OutboxEvent where
  eventType := "ingest.batch.persisted"
  aggregateId := "1"
  payload := ⟨"north-plant", "3f2a6c1e-8d4b-4c7a-9e51-0b6d2f7a8c90", 1, 1, "1.500000", 1704067201000, 1704067202000⟩

/-- A tick that begins before the freeze ends leaves the row alone. -/
theorem frozen_row_is_left_alone :
    ∃ state, run (step (outboxHandler oneAttempt) oneAttempt.batchSize) (started [] 1)
        (.enqueue 0 [persisted] :: failingTick 0 ++ [.poll 0 (oneDay - 1), .commit 0]) = some state ∧
      Final aboutOutboxRow oneAttempt.maxAttempts state ∧ attempts state.history 1 = 1 := by
  obtain ⟨state, ran, tried⟩ : ∃ state ∈ run (step (outboxHandler oneAttempt) oneAttempt.batchSize) (started [] 1)
      (.enqueue 0 [persisted] :: failingTick 0 ++ [.poll 0 (oneDay - 1), .commit 0]),
      attempts state.history 1 = 1 := by decide +kernel
  refine ⟨state, ran, ?_, tried⟩
  exact ((exhaustion_is_final_iff oneAttempt).1 _ state (by decide) ran).mpr (by decide +kernel)

/-- Exhaustion is final in every run of committed ticks at times in order. -/
def AlwaysFinal {α β : Type} (handler : Config → Handler α β) (about : Nat → β → Bool) : Prop :=
  ∀ config, 1 ≤ config.maxAttempts → ∀ actions state, (∀ action ∈ actions, action.Kept) →
    (actions.filterMap Action.time?).Pairwise (· ≤ ·) →
      run (step (handler config) config.batchSize) (started [] 1) actions = some state →
        Final about config.maxAttempts state

/-- A row is attempted and given up, and due again when its freeze ends. -/
private def thawed {α : Type} (data : α) (freeze : Int) : List (Action α) :=
  .enqueue 0 [data] :: failingTick 0 ++ failingTick freeze

private theorem not_always_final {α β : Type} {handler : Config → Handler α β} {about : Nat → β → Bool}
    (data : α) (freeze : Int) (later : 0 ≤ freeze)
    (twice : ∃ state ∈ run (step (handler oneAttempt) oneAttempt.batchSize) (started [] 1) (thawed data freeze),
      attempts state.history 1 = 2) : ¬ AlwaysFinal handler about := by
  intro always
  obtain ⟨state, ran, tried⟩ := twice
  have kept : ∀ action ∈ thawed data freeze, action.Kept := by simp [thawed, failingTick, Action.Kept]
  have ordered : ((thawed data freeze).filterMap Action.time?).Pairwise (· ≤ ·) := by
    have times : (thawed data freeze).filterMap Action.time? = [0, 0, freeze] := rfl
    simp [times, later]
  have final := (always oneAttempt (by decide) _ state kept ordered ran 1).1
  rw [tried] at final
  exact absurd final (by decide)

private def increment : MetricsIncrement := ⟨1, MetricsRelay.january, ⟨7250000, by decide⟩⟩

/-- A row with one attempt is attempted again when its freeze ends: the next
day, or for an alert the next year. -/
theorem exhausted_rows_are_retried :
    ¬ AlwaysFinal outboxHandler aboutOutboxRow ∧ ¬ AlwaysFinal metricsHandler aboutMetricsRow ∧
      ¬ AlwaysFinal systemAlertsHandler aboutNothing := by
  refine ⟨not_always_final persisted oneDay (by decide) ?_, not_always_final increment oneDay (by decide) ?_,
    not_always_final (OutboxRelay.exhausted ⟨1, persisted, .fresh 0⟩ 1 "HTTP 503: ") (oneYearAfter 0) (by decide) ?_⟩
  · decide +kernel
  · decide +kernel
  · decide +kernel

/-! ## The outbox under concurrent replicas -/

section
variable {rows : List (Row OutboxEvent)} {nextId : Nat} {actions : List (Action OutboxEvent)}
variable {state : Drain.State OutboxEvent SystemAlert}

/-- **Outbox rows survive their relays.** Over any interleaving of replicas: a
row is found delivered only if it was delivered before or some POST of it was
answered 2xx; every row keeps its id and data from any moment on; an undelivered
row meets the poll's condition from its `available_at` on, and is selected
unless it is locked or the batch is full; and while nothing is rolled back, no
POST of a row follows one that was answered 2xx. -/
theorem outbox_rows_survive (config : Config) (ids : (rows.map Row.id).Nodup) (fresh : ∀ row ∈ rows, row.id < nextId)
    (ran : run (step (outboxHandler config) config.batchSize) (started rows nextId) actions = some state) :
    (∀ row ∈ state.queue.rows, row.delivery.deliveredAt ≠ none → Accounted rows state.history row.content) ∧
      (∀ earlier later middle, actions = earlier ++ later →
        run (step (outboxHandler config) config.batchSize) (started rows nextId) earlier = some middle →
          middle.queue.rows.map Row.content <+: state.queue.rows.map Row.content) ∧
      (∀ row ∈ state.queue.rows, row.delivery.deliveredAt = none → ∀ now, row.delivery.availableAt ≤ now →
        due now row = true ∧ (state.queue.locked row.id = false → ∀ limit, state.queue.rows.length ≤ limit →
          row ∈ select now limit state.queue)) ∧
      ((∀ action ∈ actions, action.Kept) →
        (∀ before attempt after, state.history = before ++ attempt :: after → attempt.outcome = .delivered →
          ∀ other ∈ after, other.id ≠ attempt.id) ∧
        ∀ id, deliveries state.history id ≤ 1) := by
  have sound : Sound (started rows nextId : Drain.State OutboxEvent SystemAlert).queue := started_sound ids fresh
  have marks : Marks (outboxHandler config) := settlement_marks _ config
  refine ⟨fun row member delivered => run_accounted marks sound ran member delivered, ?_, ?_, ?_⟩
  · rintro earlier later middle rfl reached
    obtain ⟨middle', reached', rest⟩ := run_append.mp ran
    cases reached.symm.trans reached'
    exact (run_contents (run_contents sound reached).1 rest).2
  · intro row member undelivered now passed
    have isDue : due now row = true := by simp [due, undelivered, passed]
    exact ⟨isDue, fun unlocked limit room => mem_select_of_due member isDue unlocked room⟩
  · intro kept
    have orderly := run_orderly marks sound rfl kept ran
    refine ⟨?_, orderly.deliveries_le_one⟩
    intro before attempt after split delivered other member
    exact orderly.not_after split delivered member

private def twoRows : List (Row OutboxEvent) := [⟨1, persisted, .fresh 0⟩, ⟨2, persisted, .fresh 0⟩]

/-- Two replicas tick at once, each with room for one row. -/
private def twoTicks : List (Action OutboxEvent) :=
  [.poll 0 0, .poll 1 0, .deliver 1 .delivered, .deliver 0 (.failed "HTTP 503: " 0), .commit 1, .commit 0]

theorem replicas_share_the_rows :
    ∃ state, run (step (outboxHandler ⟨1, 10, 1000000, 300000000⟩) 1) (started twoRows 3) twoTicks = some state ∧
      (deliveries state.history 1 = 0 ∧ deliveries state.history 2 = 1) ∧
      ∀ row ∈ state.queue.rows, row.delivery.deliveredAt ≠ none → Accounted twoRows state.history row.content := by
  obtain ⟨state, ran, delivered⟩ :
      ∃ state ∈ run (step (outboxHandler ⟨1, 10, 1000000, 300000000⟩) 1) (started twoRows 3) twoTicks,
        deliveries state.history 1 = 0 ∧ deliveries state.history 2 = 1 := by decide +kernel
  exact ⟨state, ran, delivered, (outbox_rows_survive ⟨1, 10, 1000000, 300000000⟩ (by decide) (by decide) ran).1⟩

end

/-! ## The relays as they are deployed

The outbox relay between the consumers and the receiver, the metrics relay
between the consumers and Redis, and the system-alerts relay take steps of these
runs. -/

section
variable {runtime : Runtime}

theorem deliverRow_settles (config : Config) (alerting : Alerting.AlertsService) (startedAt : Int)
    (row : Row OutboxEvent) (random : Nat) (post : OutboxRelay.Post) :
    ∃ outcome, (OutboxRelay.deliverRow config alerting startedAt row random post).2 =
      outboxHandler config startedAt row outcome := by
  cases post with
  | unreachable error => exact ⟨.failed error random, rfl⟩
  | replyLost error => exact ⟨.failed error random, rfl⟩
  | replied errText =>
    simp only [OutboxRelay.deliverRow]
    split
    · exact ⟨.delivered, rfl⟩
    · exact ⟨.failed ("HTTP 400: " ++ errText) random, rfl⟩

theorem alert_settles (config : Config) (log : List Contracts.AlertEnvelopeSystem) (startedAt : Int)
    (row : Row SystemAlert) (random : Nat) (post : OutboxRelay.Post) :
    ∃ outcome, systemAlertsHandler config startedAt row outcome =
      ((SystemAlertsRelay.deliverRow (inUtc config) log startedAt row random post).2, []) := by
  cases post with
  | unreachable error => exact ⟨.failed error random, rfl⟩
  | replyLost error => exact ⟨.failed error random, rfl⟩
  | replied errText =>
    simp only [SystemAlertsRelay.deliverRow]
    split
    · exact ⟨.delivered, rfl⟩
    · exact ⟨.failed ("HTTP 400: " ++ errText) random, rfl⟩

theorem applyRow_settles {state : MetricsRelay.State} {startedAt : Int} {row : Row MetricsIncrement}
    {random : Nat} {call : MetricsRelay.RedisCall} {redis : Keyspace} {ran : List Nat} {settlement : Settlement}
    (applied : MetricsRelay.applyRow config state startedAt row random call = some (redis, ran, settlement)) :
    ∃ outcome, settlement = metricsHandler config startedAt row outcome := by
  cases call with
  | replied =>
    obtain ⟨_, _, same⟩ := Option.map_eq_some_iff.mp applied
    cases same
    exact ⟨.delivered, rfl⟩
  | replyLost error =>
    obtain ⟨_, _, same⟩ := Option.map_eq_some_iff.mp applied
    cases same
    exact ⟨.failed error random, rfl⟩
  | failed error =>
    cases applied
    exact ⟨.failed error random, rfl⟩

/-- A step that is nothing to the table is an insertion of no row. -/
private theorem idle_step {α : Type} (handler : Handler α SystemAlert) (limit : Nat) (queue : Queue α SystemAlert)
    (history : List (Attempt SystemAlert)) :
    Drain.step handler limit ⟨queue, history⟩ (.enqueue 0 []) = some ⟨queue, history⟩ := by
  simp [Drain.step, enqueue, stamp]

theorem outbox_relay_drains {platform after : OutboxRelay.Platform} {action : OutboxRelay.Action}
    (sound : IngestPipeline.Sound platform.pipeline)
    (stepped : OutboxRelay.step runtime config platform action = some after) (history : List (Attempt SystemAlert)) :
    ∃ action history', Drain.step (outboxHandler config) config.batchSize ⟨platform.outbox, history⟩ action =
      some ⟨after.outbox, history'⟩ := by
  cases action with
  | ingest action =>
    obtain ⟨pipeline, ingested, rfl⟩ := Option.map_eq_some_iff.mp stepped
    rcases OutboxRelay.ingest_outbox sound ingested with same | ⟨_, call, _, event, _, appended, _⟩
    · refine ⟨.enqueue 0 [], history, ?_⟩
      rw [idle_step, OutboxRelay.Platform.outbox, OutboxRelay.Platform.outbox, same]
    · refine ⟨.enqueue (instantOfMs call.now) [event], history, ?_⟩
      rw [OutboxRelay.Platform.outbox, OutboxRelay.Platform.outbox, appended]
      rfl
  | poll worker now =>
    obtain ⟨queue, polled, rfl⟩ := Option.map_eq_some_iff.mp stepped
    exact ⟨.poll worker now, history, Option.map_eq_some_iff.mpr ⟨queue, polled, rfl⟩⟩
  | deliver worker post random =>
    obtain ⟨⟨startedAt, row⟩, next, rest⟩ := Option.bind_eq_some_iff.mp stepped
    obtain ⟨queue, settled, rfl⟩ := Option.map_eq_some_iff.mp rest
    obtain ⟨outcome, same⟩ := deliverRow_settles config platform.alerting startedAt row random post
    have wrote : settle worker (outboxHandler config startedAt row outcome).1
        (outboxHandler config startedAt row outcome).2 platform.outbox = some queue := by
      rw [← same]
      exact settled
    exact ⟨.deliver worker outcome, _, Drain.deliver_of_settled next wrote⟩
  | commit worker now =>
    obtain ⟨⟨queue, alerts⟩, committed, rfl⟩ := Option.map_eq_some_iff.mp stepped
    obtain ⟨written, committed, _⟩ := commitTick_eq_some.mp committed
    exact ⟨.commit worker, history, Option.map_eq_some_iff.mpr ⟨(queue, written), committed, rfl⟩⟩
  | rollback worker =>
    cases stepped
    exact ⟨.rollback worker, history, rfl⟩

theorem metrics_relay_drains {state after : MetricsRelay.State} {action : MetricsRelay.Action}
    (stepped : MetricsRelay.step config state action = some after) (history : List (Attempt SystemAlert)) :
    ∃ action history', Drain.step (metricsHandler config) config.batchSize ⟨state.queue, history⟩ action =
      some ⟨after.queue, history'⟩ := by
  cases action with
  | enqueue now increments =>
    cases stepped
    exact ⟨.enqueue now increments, history, rfl⟩
  | poll worker now =>
    obtain ⟨queue, polled, rfl⟩ := Option.map_eq_some_iff.mp stepped
    exact ⟨.poll worker now, history, Option.map_eq_some_iff.mpr ⟨queue, polled, rfl⟩⟩
  | apply worker call random =>
    obtain ⟨⟨startedAt, row⟩, next, rest⟩ := Option.bind_eq_some_iff.mp stepped
    obtain ⟨⟨redis, ran, settlement⟩, applied, rest⟩ := Option.bind_eq_some_iff.mp rest
    obtain ⟨queue, settled, rfl⟩ := Option.map_eq_some_iff.mp rest
    obtain ⟨outcome, rfl⟩ := applyRow_settles applied
    exact ⟨.deliver worker outcome, _, Drain.deliver_of_settled next settled⟩
  | commit worker now =>
    obtain ⟨⟨queue, alerts⟩, committed, rfl⟩ := Option.map_eq_some_iff.mp stepped
    obtain ⟨written, committed, _⟩ := commitTick_eq_some.mp committed
    exact ⟨.commit worker, history, Option.map_eq_some_iff.mpr ⟨(queue, written), committed, rfl⟩⟩
  | rollback worker =>
    cases stepped
    exact ⟨.rollback worker, history, rfl⟩
  | expireGuard id =>
    simp only [MetricsRelay.step] at stepped
    split at stepped
    · cases stepped
      exact ⟨.enqueue 0 [], history, idle_step _ _ _ history⟩
    · cases stepped

theorem system_alerts_relay_drains {log later : List Contracts.AlertEnvelopeSystem}
    {queue after : Queue SystemAlert Empty} {action : SystemAlertsRelay.Action}
    (stepped : SystemAlertsRelay.step (inUtc config) log queue action = some (later, after))
    (history : List (Attempt Empty)) :
    ∃ action history', Drain.step (systemAlertsHandler config) config.batchSize ⟨queue, history⟩ action =
      some ⟨after, history'⟩ := by
  cases action with
  | poll worker now =>
    obtain ⟨polled, isPolled, same⟩ := Option.map_eq_some_iff.mp stepped
    cases same
    exact ⟨.poll worker now, history, Option.map_eq_some_iff.mpr ⟨after, isPolled, rfl⟩⟩
  | deliver worker post random =>
    obtain ⟨⟨startedAt, row⟩, next, rest⟩ := Option.bind_eq_some_iff.mp stepped
    obtain ⟨settled, isSettled, same⟩ := Option.map_eq_some_iff.mp rest
    cases same
    obtain ⟨outcome, handled⟩ := alert_settles config log startedAt row random post
    have wrote : settle worker (systemAlertsHandler config startedAt row outcome).1
        (systemAlertsHandler config startedAt row outcome).2 queue = some after := by
      rw [handled]
      exact isSettled
    exact ⟨.deliver worker outcome, _, Drain.deliver_of_settled next wrote⟩
  | commit worker =>
    obtain ⟨⟨committed, produced⟩, isCommitted, same⟩ := Option.map_eq_some_iff.mp stepped
    cases same
    exact ⟨.commit worker, history, Option.map_eq_some_iff.mpr ⟨(after, produced), isCommitted, rfl⟩⟩
  | rollback worker =>
    cases stepped
    exact ⟨.rollback worker, history, rfl⟩

end

end EmissionsPlatform.RelayRuns
