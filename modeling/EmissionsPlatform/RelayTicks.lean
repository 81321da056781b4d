import EmissionsPlatform.Foundation.TickTransaction
import EmissionsPlatform.RelayRuns

/-! One tick of each relay, with its statements. The three relays handle the
rows of a tick one by one, each in a `try` of its own, but in one transaction: a
row whose own `UPDATE` or `INSERT` Postgres refuses takes the whole tick with
it. The rows posted before it stay undelivered and are posted again, and the
rows after it are not reached. `rows_are_served_iff` says that this is the one
thing that can go wrong. -/
namespace EmissionsPlatform.RelayTicks
open LeaseQueue Relay Drain RelayRuns TickTransaction
set_option autoImplicit false

/-- How the `fetch` of a row ends. -/
inductive Answer
  | answered (status : Nat) (text : String)
  | threw (error : String)
  deriving DecidableEq

/-- `res.ok`, or else `handleFailure` with the status and the body. -/
def Answer.reply : Answer → Reply
  | .answered status text =>
    if 200 ≤ status ∧ status ≤ 299 then .succeeded else .refused ("HTTP " ++ toString status ++ ": " ++ text)
  | .threw error => .threw error

/-- How `metricsApplyIncrement` ends for a row. -/
inductive ScriptCall
  | returned (applied : Nat)
  | threw (error : String)
  deriving DecidableEq

def ScriptCall.reply : ScriptCall → Reply
  | .returned _ => .succeeded
  | .threw error => .threw error

/-- What the rows of a tick meet, and the two draws of `Math.random()` for each. -/
def meets {α Result : Type} (reply : Result → Reply) (results : Row α → Result) (draws : Row α → Nat × Nat)
    (row : Row α) : Meets :=
  ⟨reply (results row), (draws row).1, (draws row).2⟩

/-- `OutboxRelayService.tick`: lock, `deliverRow` for each row, commit. -/
def outboxTick (config : Config) (rejects : Statement OutboxEvent SystemAlert → Option String) (startedAt : Int)
    (posts : Row OutboxEvent → Answer) (draws : Row OutboxEvent → Nat × Nat) :
    Queue OutboxEvent SystemAlert → Queue OutboxEvent SystemAlert × List SystemAlert :=
  tick (outboxHandler config) rejects config.batchSize startedAt (meets Answer.reply posts draws)

/-- `MetricsRelayService.tick`: lock, `applyRow` for each row, commit. -/
def metricsTick (config : Config) (rejects : Statement MetricsIncrement SystemAlert → Option String) (startedAt : Int)
    (calls : Row MetricsIncrement → ScriptCall) (draws : Row MetricsIncrement → Nat × Nat) :
    Queue MetricsIncrement SystemAlert → Queue MetricsIncrement SystemAlert × List SystemAlert :=
  tick (metricsHandler config) rejects config.batchSize startedAt (meets ScriptCall.reply calls draws)

/-- `SystemAlertsRelayService.tick`: lock, `deliverRow` for each row, commit. -/
def systemAlertsTick (config : Config) (rejects : Statement SystemAlert Empty → Option String) (startedAt : Int)
    (posts : Row SystemAlert → Answer) (draws : Row SystemAlert → Nat × Nat) :
    Queue SystemAlert Empty → Queue SystemAlert Empty × List Empty :=
  tick (systemAlertsHandler config) rejects config.batchSize startedAt (meets Answer.reply posts draws)

variable {config : Config}

theorem outboxHandler_counts (config : Config) : Counts (outboxHandler config) :=
  { outboxHandler_budgeted config with }

theorem metricsHandler_counts (config : Config) : Counts (metricsHandler config) :=
  { metricsHandler_budgeted config with }

theorem systemAlertsHandler_counts (config : Config) : Counts (systemAlertsHandler config) :=
  { systemAlertsHandler_budgeted config with }

/-- The ticks of the outbox relay are runs of its queue, beside those of other
replicas. -/
theorem outboxTick_drains {rejects : Statement OutboxEvent SystemAlert → Option String} {startedAt : Int}
    {posts : Row OutboxEvent → Answer} {draws : Row OutboxEvent → Nat × Nat} {queue : Queue OutboxEvent SystemAlert}
    (worker : Nat) (free : queue.leases.has worker = false) :
    ∃ actions state, Transition.run (Drain.step (outboxHandler config) config.batchSize) ⟨queue, []⟩
        (.poll worker startedAt :: actions) = some state ∧
      state.queue.rows = (outboxTick config rejects startedAt posts draws queue).1.rows :=
  tick_drains worker free

/-- **A tick of a relay serves all its rows if and only if Postgres refuses none
of its statements**, or no row of it has anything coming. -/
theorem rows_are_served_iff (config : Config) :
    (∀ rejects startedAt posts draws queue, (queue.rows.map Row.id).Nodup →
      (ServesEveryRow (outboxHandler config) rejects config.batchSize startedAt (meets Answer.reply posts draws)
          queue (outboxTick config rejects startedAt posts draws queue).1 ↔
        NothingRefused (outboxHandler config) rejects config.batchSize startedAt
          (meets Answer.reply posts draws) queue ∨
          NothingDue (outboxHandler config) rejects config.batchSize startedAt
            (meets Answer.reply posts draws) queue)) ∧
    (∀ rejects startedAt calls draws queue, (queue.rows.map Row.id).Nodup →
      (ServesEveryRow (metricsHandler config) rejects config.batchSize startedAt (meets ScriptCall.reply calls draws)
          queue (metricsTick config rejects startedAt calls draws queue).1 ↔
        NothingRefused (metricsHandler config) rejects config.batchSize startedAt (meets ScriptCall.reply calls draws)
            queue ∨
          NothingDue (metricsHandler config) rejects config.batchSize startedAt (meets ScriptCall.reply calls draws)
            queue)) ∧
    ∀ rejects startedAt posts draws queue, (queue.rows.map Row.id).Nodup →
      (ServesEveryRow (systemAlertsHandler config) rejects config.batchSize startedAt (meets Answer.reply posts draws)
          queue (systemAlertsTick config rejects startedAt posts draws queue).1 ↔
        NothingRefused (systemAlertsHandler config) rejects config.batchSize startedAt (meets Answer.reply posts draws)
            queue ∨
          NothingDue (systemAlertsHandler config) rejects config.batchSize startedAt (meets Answer.reply posts draws)
            queue) :=
  ⟨fun _ _ _ _ _ ids => serves_iff (outboxHandler_counts config) ids,
    fun _ _ _ _ _ ids => serves_iff (metricsHandler_counts config) ids,
    fun _ _ _ _ _ ids => serves_iff (systemAlertsHandler_counts config) ids⟩

/-! ## Postgres and U+0000 -/

/-- What Postgres makes of U+0000: neither a text parameter nor a `jsonb` may hold it. -/
def refusesNul {α β : Type} (texts : β → List String) : Statement α β → Option String
  | .update row =>
    if '\x00' ∈ (row.delivery.lastError.getD "").toList
    then some "invalid byte sequence for encoding \"UTF8\": 0x00" else none
  | .insert row =>
    if ∃ text ∈ texts row, '\x00' ∈ text.toList then some "unsupported Unicode escape sequence" else none

/-- The texts of an alert's payload. -/
def alertTexts (alert : SystemAlert) : List String :=
  alert.payload.flatMap fun field =>
    match field.2 with
    | .text value => [value]
    | .texts values => values
    | .number _ => []

private def tenAttempts : Config := ⟨10, 10, 1000000, 300000000⟩

private def twoDue {α β : Type} (data : α) : Queue α β :=
  ⟨[⟨1, data, .fresh 0⟩, ⟨2, data, .fresh 0⟩], InsertionMap.empty, 3⟩

private def announcement : OutboxEvent where
  eventType := "ingest.batch.persisted"
  aggregateId := "north-plant"
  payload := ⟨"north-plant", "3f2a6c1e-8d4b-4c7a-9e51-0b6d2f7a8c90", 1, 1, "1.500000", 1704067201000, 1704067202000⟩

/-- The receiver refuses the first row with a body, and takes the second. -/
private def refusesFirst {α : Type} (body : String) (row : Row α) : Answer :=
  if row.id = 1 then .answered 500 body else .answered 200 ""

private def noJitter {α : Type} (_ : Row α) : Nat × Nat := (0, 0)

/-- A failure that can be recorded leaves the other row alone. -/
theorem recordable_failure_is_harmless :
    ServesEveryRow (outboxHandler tenAttempts) (refusesNul alertTexts) tenAttempts.batchSize 0
      (meets Answer.reply (refusesFirst "unavailable") noJitter) (twoDue announcement)
      (outboxTick tenAttempts (refusesNul alertTexts) 0 (refusesFirst "unavailable") noJitter
        (twoDue announcement)).1 :=
  ((rows_are_served_iff tenAttempts).1 (refusesNul alertTexts) 0 (refusesFirst "unavailable") noJitter
    (twoDue announcement) (by decide)).mpr (Or.inl (by decide +kernel))

/-- A relay's ticks serve all their rows. -/
def AlwaysServes {α β Result : Type} (handler : Config → Handler α β) (reply : Result → Reply) : Prop :=
  ∀ config rejects startedAt results draws queue, (queue.rows.map Row.id).Nodup →
    ServesEveryRow (handler config) rejects config.batchSize startedAt (meets reply results draws) queue
      (tick (handler config) rejects config.batchSize startedAt (meets reply results draws) queue).1

private theorem not_always_serves {α β Result : Type} {handler : Config → Handler α β} {reply : Result → Reply}
    (texts : β → List String) (data : α) (results : Row α → Result)
    (locked : (⟨2, data, .fresh 0⟩ : Row α) ∈ select 0 tenAttempts.batchSize (twoDue data : Queue α β))
    (delivers : Delivers (handler tenAttempts) (refusesNul texts) 0 ⟨2, data, .fresh 0⟩
      (meets reply results noJitter ⟨2, data, .fresh 0⟩))
    (unmarked : ∀ new ∈ (tick (handler tenAttempts) (refusesNul texts) tenAttempts.batchSize 0
      (meets reply results noJitter) (twoDue data)).1.rows, new.id = 2 → new.delivery.deliveredAt = none) :
    ¬ AlwaysServes handler reply := by
  intro always
  obtain ⟨new, stored, same, served⟩ := always tenAttempts (refusesNul texts) 0 results noJitter (twoDue data)
    (by simp [twoDue]) _ locked
  exact served.delivered delivers (unmarked new stored same)

/-- One error text with U+0000 undoes the tick: the row posted after it is not
delivered. -/
theorem unrecordable_failure_undoes_tick :
    ¬ AlwaysServes outboxHandler Answer.reply ∧ ¬ AlwaysServes metricsHandler ScriptCall.reply ∧
      ¬ AlwaysServes systemAlertsHandler Answer.reply := by
  refine ⟨not_always_serves alertTexts announcement (refusesFirst "\x00") ?_ ?_ ?_,
    not_always_serves alertTexts ⟨1, MetricsRelay.january, ⟨7250000, by decide⟩⟩
      (fun row => if row.id = 1 then .threw "\x00" else .returned 1) ?_ ?_ ?_,
    not_always_serves (fun _ => []) ⟨"unknown_site_in_consumer", "warn", []⟩ (refusesFirst "\x00") ?_ ?_ ?_⟩
  all_goals decide +kernel

end EmissionsPlatform.RelayTicks
