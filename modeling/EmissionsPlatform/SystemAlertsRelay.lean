import EmissionsPlatform.OutboxRelay

/-! The relay of `apps/system-alerts`, which posts the rows of `system_alerts`
to the alerting receiver. It is the outbox relay over again, except that a row
it gives up is not reported by another alert, and is frozen for a year. -/
namespace EmissionsPlatform.SystemAlertsRelay
open Contracts LeaseQueue Alerting
open OutboxRelay (Post)
set_option autoImplicit false

structure Config extends Relay.Config where
  /-- `now() + interval '1 year'`, which goes by the calendar. -/
  oneYearAfter : Int → Int

def fieldJson : AlertField → Json
  | .text value => .string value
  | .number value => .number (.integer value)
  | .texts values => .array (values.map .string)

def payloadJson (payload : List (String × AlertField)) : List (String × Json) :=
  payload.map fun (name, field) => (name, fieldJson field)

/-- What the relay posts for a row, by its id and data. -/
def body (content : Nat × SystemAlert) : Json :=
  .object [("system_alert_id", .string (toString content.1)), ("alert_type", .string content.2.alertType),
    ("severity", .string content.2.severity), ("payload", .object (payloadJson content.2.payload))]

/-- `handleFailure` of the system-alerts relay. -/
def handleFailure (config : Config) (startedAt : Int) (row : Row SystemAlert) (errMsg : String)
    (random : Nat) : Delivery :=
  let newAttempts := row.delivery.attempts + 1
  let failed := { row.delivery with attempts := newAttempts, lastError := some errMsg }
  if config.maxAttempts ≤ newAttempts then { failed with availableAt := config.oneYearAfter startedAt }
  else { failed with availableAt := startedAt + Relay.backoff config.toConfig newAttempts random }

/-- `deliverRow`: what the receiver has logged, and what is written. -/
def deliverRow (config : Config) (log : List AlertEnvelopeSystem) (startedAt : Int) (row : Row SystemAlert)
    (random : Nat) : Post → List AlertEnvelopeSystem × Delivery
  | .unreachable error => (log, handleFailure config startedAt row error random)
  | .replyLost error =>
    ((postSystem log (body row.content)).1, handleFailure config startedAt row error random)
  | .replied errText =>
    match postSystem log (body row.content) with
    | (log, .ok _) => (log, { row.delivery with deliveredAt := some startedAt })
    | (log, .error _) => (log, handleFailure config startedAt row ("HTTP 400: " ++ errText) random)

inductive Action
  /-- A replica's tick begins. -/
  | poll (worker : Nat) (now : Int)
  | deliver (worker : Nat) (post : Post) (random : Nat)
  | commit (worker : Nat)
  /-- A replica's tick is rolled back, or the replica dies. -/
  | rollback (worker : Nat)

def step (config : Config) (log : List AlertEnvelopeSystem) (queue : Queue SystemAlert Empty) :
    Action → Option (List AlertEnvelopeSystem × Queue SystemAlert Empty)
  | .poll worker now => (poll now config.batchSize worker queue).map fun queue => (log, queue)
  | .deliver worker post random =>
    (queue.next? worker).bind fun (startedAt, row) =>
      let (log, delivery) := deliverRow config log startedAt row random post
      (settle worker delivery [] queue).map fun queue => (log, queue)
  | .commit worker => (commit worker queue).map fun (queue, _) => (log, queue)
  | .rollback worker => some (log, rollback worker queue)

variable {config : Config} {log later : List AlertEnvelopeSystem} {queue after : Queue SystemAlert Empty}
variable {action : Action} {content : Nat × SystemAlert}

/-- The alert is read as it was written, and the receiver answers that it is ok. -/
structure Accepted (content : Nat × SystemAlert) : Prop where
  read : ∃ severity : SystemAlertSeverity, severity.text = content.2.severity ∧
    alertEnvelopeSystemSchema (some (body content)) =
      .ok ⟨toString content.1, content.2.alertType, severity, payloadJson content.2.payload⟩
  answered : ∀ log, ∃ response, (postSystem log (body content)).2 = .ok response

/-- The severities the receiver knows. -/
def KnownSeverity (alert : SystemAlert) : Prop :=
  alert.severity ∈ systemAlertSeverities.map SystemAlertSeverity.text

/-- The schema leaves an alert nothing but its severity to get wrong. -/
theorem accepted_of_severity (known : KnownSeverity content.2) : Accepted content := by
  obtain ⟨severity, listed, text⟩ := Validation.enumeration_of_text known
  have read : alertEnvelopeSystemSchema (some (body content)) =
      .ok ⟨toString content.1, content.2.alertType, severity, payloadJson content.2.payload⟩ := by
    refine Validation.map_eq_ok.mpr
      ⟨(toString content.1, content.2.alertType, severity, payloadJson content.2.payload), ?_, rfl⟩
    simp only [Validation.both_eq_ok, Validation.string_eq_ok]
    exact ⟨⟨rfl, nofun⟩, ⟨rfl, nofun⟩, listed, rfl⟩
  refine ⟨⟨severity, text, read⟩, fun log => ?_⟩
  simp only [postSystem, read]
  exact ⟨_, rfl⟩

/-- The relay changes nothing an alert is about. -/
theorem step_carries {Fits : SystemAlert → Prop} {FitsProduct : Empty → Prop}
    (carries : Carries Fits FitsProduct queue) (stepped : step config log queue action = some (later, after)) :
    Carries Fits FitsProduct after := by
  cases action with
  | poll worker now =>
    obtain ⟨polled, isPolled, same⟩ := Option.map_eq_some_iff.mp stepped
    cases same
    exact carries.poll isPolled
  | deliver worker post random =>
    obtain ⟨⟨startedAt, row⟩, next, delivered⟩ := Option.bind_eq_some_iff.mp stepped
    obtain ⟨settled, isSettled, same⟩ := Option.map_eq_some_iff.mp delivered
    cases same
    exact carries.settle nofun isSettled
  | commit worker =>
    obtain ⟨⟨committed, produced⟩, isCommitted, same⟩ := Option.map_eq_some_iff.mp stepped
    cases same
    exact (carries.commit isCommitted).1
  | rollback worker =>
    cases stepped
    exact carries.rollback worker

end EmissionsPlatform.SystemAlertsRelay
