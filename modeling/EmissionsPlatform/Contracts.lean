import EmissionsPlatform.Foundation.Fallible
import EmissionsPlatform.Foundation.Validation
import EmissionsPlatform.Foundation.DecimalText

/-! The contracts shared by the services: the schemas of `packages/contracts`
and of the consumer's Kafka messages, with their regular expressions, bounds
and messages, and the typed values they produce. -/
namespace EmissionsPlatform.Contracts
open Validation
set_option autoImplicit false

/-- JavaScript's `length` of a text, in UTF-16 code units. -/
def utf16Length (text : String) : Nat :=
  (text.toList.map fun character => if character.toNat < 65536 then 1 else 2).sum

def minLength (bound : Nat) : Check String :=
  ⟨fun text => bound ≤ utf16Length text,
    "String must contain at least " ++ toString bound ++ " character(s)"⟩

def maxLength (bound : Nat) : Check String :=
  ⟨fun text => utf16Length text ≤ bound,
    "String must contain at most " ++ toString bound ++ " character(s)"⟩

def positive : Check JsNumber := ⟨JsNumber.isPositive, "Number must be greater than 0"⟩

def nonnegative : Check JsNumber :=
  ⟨JsNumber.isNonnegative, "Number must be greater than or equal to 0"⟩

def isLowerAlphanumeric (character : Char) : Bool := character.isLower || character.isDigit

/-- `/^[a-z0-9][a-z0-9-]{1,62}[a-z0-9]$/`. -/
def slugRegex (text : String) : Bool :=
  match text.toList with
  | [] => false
  | first :: rest =>
    isLowerAlphanumeric first && decide (2 ≤ rest.length) && decide (rest.length ≤ 63) &&
      rest.all (fun character => isLowerAlphanumeric character || character == '-') &&
      (rest.getLast?.map isLowerAlphanumeric).getD false

def slugSchema : Schema String :=
  string [minLength 3, maxLength 64,
    ⟨slugRegex, "slug must be lowercase, alphanumeric, may contain '-', 3..64 chars"⟩]

/-- `/^[A-Za-z0-9][A-Za-z0-9_-]{0,99}$/`. -/
def emissionPointCodeRegex (text : String) : Bool :=
  match text.toList with
  | [] => false
  | first :: rest =>
    first.isAlphanum && decide (rest.length ≤ 99) &&
      rest.all fun character => character.isAlphanum || character == '_' || character == '-'

def emissionPointCodeSchema : Schema String :=
  string [minLength 1, maxLength 100, ⟨emissionPointCodeRegex, "Invalid"⟩]

/-- `/^\d{1,12}(\.\d{1,6})?$/`. -/
def numericKgRegex (text : String) : Bool :=
  match DecimalText.read text.toList with
  | some (whole, fraction) => decide (whole.length ≤ 12) && decide (fraction.length ≤ 6)
  | none => false

def numericKgSchema : Schema String :=
  string [⟨numericKgRegex, "must be a non-negative decimal with up to 6 fractional digits"⟩]

def epochMillisecondsSchema : Schema Int :=
  integer [positive,
    ⟨JsNumber.isBelow 8640000000000000, "exceeds the maximum value JS Date can represent"⟩]

def isHexDigit (character : Char) : Bool :=
  character.isDigit || ('a' ≤ character && character ≤ 'f') || ('A' ≤ character && character ≤ 'F')

/-- Hexadecimal digits in groups of 8, 4, 4, 4 and 12, joined by hyphens. -/
def uuidRegex (text : String) : Bool :=
  text.toList.length == 36 &&
    text.toList.zipIdx.all fun place =>
      if place.2 = 8 ∨ place.2 = 13 ∨ place.2 = 18 ∨ place.2 = 23 then place.1 == '-'
      else isHexDigit place.1

def uuidSchema : Schema String := string [⟨uuidRegex, "Invalid uuid"⟩]

def measurementsPerBatchMax : Nat := 100

/-- One submitted reading. -/
structure MeasurementInput where
  emissionPoint : String
  recordedAtMs : Int
  valueKgCo2e : String
  deriving DecidableEq

/-- The body of `POST /ingest`. -/
structure IngestBatchInput where
  batchId : String
  siteSlug : String
  measurements : List MeasurementInput
  deriving DecidableEq

/-- The value the API produces to Kafka: the batch and the moment it came in. -/
structure KafkaIngestMessage extends IngestBatchInput where
  receivedAtMs : Int
  deriving DecidableEq

def measurementInputSchema : Schema MeasurementInput :=
  object fun field =>
    (both (emissionPointCodeSchema (field "emission_point"))
      (both (epochMillisecondsSchema (field "recorded_at_ms"))
        (numericKgSchema (field "value_kg_co2e")))).map
      fun (emissionPoint, recordedAtMs, valueKgCo2e) => ⟨emissionPoint, recordedAtMs, valueKgCo2e⟩

/-- At least one and at most `MEASUREMENTS_PER_BATCH_MAX` readings. -/
def measurementsSchema : Schema (List MeasurementInput) :=
  array [⟨fun size => 1 ≤ size, "Array must contain at least 1 element(s)"⟩,
    ⟨fun size => size ≤ measurementsPerBatchMax,
      "Array must contain at most " ++ toString measurementsPerBatchMax ++ " element(s)"⟩]
    measurementInputSchema

/-- The fields of `IngestBatchSchema`, which the consumer's schema extends. -/
def ingestBatchShape (field : String → Option Json) : Except (List String) IngestBatchInput :=
  (both (uuidSchema (field "batch_id"))
    (both (slugSchema (field "site_slug")) (measurementsSchema (field "measurements")))).map
    fun (batchId, siteSlug, measurements) => ⟨batchId, siteSlug, measurements⟩

def ingestBatchSchema : Schema IngestBatchInput := object ingestBatchShape

/-- `IngestBatchSchema.extend({ received_at_ms })`. -/
def kafkaMessageSchema : Schema KafkaIngestMessage :=
  object fun field =>
    (both (ingestBatchShape field) (integer [positive] (field "received_at_ms"))).map
      fun (batch, receivedAtMs) => { batch with receivedAtMs }

/-- What the consumer's schema guarantees of a message, as far as its columns ask. -/
structure ValidMessage (message : KafkaIngestMessage) : Prop where
  batchId : uuidRegex message.batchId = true
  nonempty : message.measurements ≠ []
  values : ∀ m ∈ message.measurements, numericKgRegex m.valueKgCo2e = true

theorem measurementInput_value {item : Json} {m : MeasurementInput}
    (accepted : measurementInputSchema (some item) = .ok m) : numericKgRegex m.valueKgCo2e = true := by
  unfold measurementInputSchema object at accepted
  split at accepted
  · obtain ⟨fields, checked, rfl⟩ := map_eq_ok.mp accepted
    simp only [both_eq_ok, numericKgSchema, string_eq_ok] at checked
    exact checked.2.2.2 _ List.mem_cons_self
  · cases accepted

theorem kafkaMessage_valid {document : Json} {message : KafkaIngestMessage}
    (accepted : kafkaMessageSchema (some document) = .ok message) : ValidMessage message := by
  unfold kafkaMessageSchema object at accepted
  split at accepted
  · obtain ⟨⟨batch, receivedAtMs⟩, both, rfl⟩ := map_eq_ok.mp accepted
    obtain ⟨fields, checked, rfl⟩ := map_eq_ok.mp (both_eq_ok.mp both).1
    simp only [both_eq_ok, uuidSchema, string_eq_ok, measurementsSchema, array_eq_ok] at checked
    obtain ⟨⟨-, batchId⟩, -, values, -, sizes, related⟩ := checked
    refine ⟨batchId _ List.mem_cons_self, ?_, fun m member => ?_⟩
    · intro empty
      have none : fields.2.2 = [] := empty
      have least := sizes _ List.mem_cons_self
      rw [related.length_eq, none] at least
      cases least
    · obtain ⟨item, -, read⟩ := Fallible.exists_left related member
      exact measurementInput_value read
  · cases accepted

theorem kafkaMessage_length {document : Json} {message : KafkaIngestMessage}
    (accepted : kafkaMessageSchema (some document) = .ok message) :
    message.measurements.length ≤ measurementsPerBatchMax := by
  unfold kafkaMessageSchema object at accepted
  split at accepted
  · obtain ⟨⟨batch, receivedAtMs⟩, both, rfl⟩ := map_eq_ok.mp accepted
    obtain ⟨fields, checked, rfl⟩ := map_eq_ok.mp (both_eq_ok.mp both).1
    simp only [both_eq_ok, measurementsSchema, array_eq_ok] at checked
    obtain ⟨-, -, values, -, sizes, related⟩ := checked
    have most := of_decide_eq_true (sizes _ (List.mem_cons_of_mem _ List.mem_cons_self))
    exact related.length_eq ▸ most
  · cases accepted

/-- The payload of an outbox row and of the alert made from it. -/
structure AlertEnvelopeBusinessPayload where
  siteSlug : String
  batchId : String
  measurementsInserted : Int
  measurementsSubmitted : Int
  sumKgCo2e : String
  receivedAtMs : Int
  persistedAtMs : Int
  deriving DecidableEq

structure AlertEnvelopeBusiness where
  outboxId : String
  eventType : String
  aggregateId : String
  payload : AlertEnvelopeBusinessPayload
  deriving DecidableEq

def alertEnvelopeBusinessPayloadSchema : Schema AlertEnvelopeBusinessPayload :=
  object fun field =>
    (both (string [] (field "site_slug"))
      (both (uuidSchema (field "batch_id"))
        (both (integer [nonnegative] (field "measurements_inserted"))
          (both (integer [positive] (field "measurements_submitted"))
            (both (string [] (field "sum_kg_co2e"))
              (both (integer [positive] (field "received_at_ms"))
                (integer [positive] (field "persisted_at_ms")))))))).map
      fun (siteSlug, batchId, inserted, submitted, sumKg, receivedAtMs, persistedAtMs) =>
        ⟨siteSlug, batchId, inserted, submitted, sumKg, receivedAtMs, persistedAtMs⟩

def alertEnvelopeBusinessSchema : Schema AlertEnvelopeBusiness :=
  object fun field =>
    (both (string [] (field "outbox_id"))
      (both (literal "ingest.batch.persisted" (field "event_type"))
        (both (string [] (field "aggregate_id"))
          (alertEnvelopeBusinessPayloadSchema (field "payload"))))).map
      fun (outboxId, eventType, aggregateId, payload) => ⟨outboxId, eventType, aggregateId, payload⟩

inductive SystemAlertSeverity
  | info
  | warn
  | critical
  deriving DecidableEq

def SystemAlertSeverity.text : SystemAlertSeverity → String
  | info => "info"
  | warn => "warn"
  | critical => "critical"

def systemAlertSeverities : List SystemAlertSeverity := [.info, .warn, .critical]

def systemAlertSeveritySchema : Schema SystemAlertSeverity :=
  enumeration systemAlertSeverities SystemAlertSeverity.text

structure AlertEnvelopeSystem where
  systemAlertId : String
  alertType : String
  severity : SystemAlertSeverity
  payload : List (String × Json)

def alertEnvelopeSystemSchema : Schema AlertEnvelopeSystem :=
  object fun field =>
    (both (string [] (field "system_alert_id"))
      (both (string [] (field "alert_type"))
        (both (systemAlertSeveritySchema (field "severity")) (record (field "payload"))))).map
      fun (systemAlertId, alertType, severity, payload) => ⟨systemAlertId, alertType, severity, payload⟩

end EmissionsPlatform.Contracts
