import EmissionsPlatform.Contracts
import Mathlib.Data.List.Dedup
import Mathlib.Data.List.Perm.Subperm

/-! The alerting receiver (`apps/alerting`): a controller that validates what is
posted to it, and a service that logs an alert once for each dedupe key. The
key is made of the event type and the batch id; the outbox id that every alert
carries takes no part in it.

`handleBusiness_logged` says what that amounts to while nothing is evicted: an
alert with readings is logged as delivered, or one with the same key was. -/
namespace EmissionsPlatform.Alerting
open Contracts Validation
set_option autoImplicit false

/-! ## Envelopes as JSON -/

def payloadJson (payload : AlertEnvelopeBusinessPayload) : Json :=
  .object [("site_slug", .string payload.siteSlug), ("batch_id", .string payload.batchId),
    ("measurements_inserted", .number (.integer payload.measurementsInserted)),
    ("measurements_submitted", .number (.integer payload.measurementsSubmitted)),
    ("sum_kg_co2e", .string payload.sumKgCo2e),
    ("received_at_ms", .number (.integer payload.receivedAtMs)),
    ("persisted_at_ms", .number (.integer payload.persistedAtMs))]

def envelopeJson (alert : AlertEnvelopeBusiness) : Json :=
  .object [("outbox_id", .string alert.outboxId), ("event_type", .string alert.eventType),
    ("aggregate_id", .string alert.aggregateId), ("payload", payloadJson alert.payload)]

/-! ## The dedupe store -/

/-- `DedupStore`: the keys it has seen, oldest first. -/
structure DedupStore where
  keys : List String
  maxSize : Nat
  deriving DecidableEq

namespace DedupStore

/-- `Math.ceil(maxSize * 0.1)`; the loop deletes one key at least. -/
def evictCount (maxSize : Nat) : Nat := max 1 ((maxSize + 9) / 10)

/-- Whether the key is new. A full store drops its oldest keys first. -/
def add (store : DedupStore) (key : String) : DedupStore × Bool :=
  if key ∈ store.keys then (store, false)
  else
    let kept := if store.maxSize ≤ store.keys.length then store.keys.drop (evictCount store.maxSize)
      else store.keys
    ({ store with keys := kept ++ [key] }, true)

theorem add_of_room {store : DedupStore} {key : String} (room : store.keys.length < store.maxSize) :
    store.add key =
      if key ∈ store.keys then (store, false) else ({ store with keys := store.keys ++ [key] }, true) := by
  simp only [add, if_neg (Nat.not_le.mpr room)]

end DedupStore

/-! ## The service -/

/-- The log events of a business alert. -/
inductive AlertEvent
  | noopSuppressed
  | duplicateSuppressed
  | delivered
  deriving DecidableEq

structure Response where
  status : String
  duplicate : Option Bool
  deriving DecidableEq

/-- A receiver process: its dedupe store and what it has logged. -/
structure AlertsService where
  dedupStore : DedupStore
  log : List (AlertEvent × AlertEnvelopeBusiness)
  deriving DecidableEq

/-- A process that has just started. -/
def AlertsService.started : AlertsService := ⟨⟨[], 10000⟩, []⟩

def dedupKey (alert : AlertEnvelopeBusiness) : String := alert.eventType ++ ":" ++ alert.payload.batchId

def AlertsService.record (service : AlertsService) (event : AlertEvent) (alert : AlertEnvelopeBusiness) :
    AlertsService :=
  { service with log := service.log ++ [(event, alert)] }

def handleBusiness (service : AlertsService) (alert : AlertEnvelopeBusiness) : AlertsService × Response :=
  if alert.payload.measurementsInserted = 0 then (service.record .noopSuppressed alert, ⟨"ok", some true⟩)
  else
    let (dedupStore, isNew) := service.dedupStore.add (dedupKey alert)
    let service := { service with dedupStore }
    if isNew then (service.record .delivered alert, ⟨"ok", none⟩)
    else (service.record .duplicateSuppressed alert, ⟨"ok", some true⟩)

/-- `POST /alerts/business`: an answer, or the issues of a 400. -/
def postBusiness (service : AlertsService) (body : Json) : AlertsService × Except (List String) Response :=
  match alertEnvelopeBusinessSchema (some body) with
  | .error issues => (service, .error issues)
  | .ok alert =>
    let (service, response) := handleBusiness service alert
    (service, .ok response)

/-- `handleSystem`: every system alert is logged, none is suppressed. -/
def handleSystem (log : List AlertEnvelopeSystem) (alert : AlertEnvelopeSystem) :
    List AlertEnvelopeSystem × Response :=
  (log ++ [alert], ⟨"ok", none⟩)

/-- `POST /alerts/system`. -/
def postSystem (log : List AlertEnvelopeSystem) (body : Json) :
    List AlertEnvelopeSystem × Except (List String) Response :=
  match alertEnvelopeSystemSchema (some body) with
  | .error issues => (log, .error issues)
  | .ok alert =>
    let (log, response) := handleSystem log alert
    (log, .ok response)

/-- The dedupe keys a process has looked up in its store, each once. -/
def AlertsService.seen (service : AlertsService) : List String :=
  ((service.log.filter fun entry => entry.1 ≠ .noopSuppressed).map fun entry => dedupKey entry.2).dedup

variable {service after : AlertsService} {alert parsed : AlertEnvelopeBusiness} {key : String}

/-! ## What an envelope is read as -/

theorem payload_read {payload read : AlertEnvelopeBusinessPayload}
    (accepted : alertEnvelopeBusinessPayloadSchema (some (payloadJson payload)) = .ok read) :
    read = payload := by
  obtain ⟨⟨siteSlug, batchId, inserted, submitted, sumKg, receivedAtMs, persistedAtMs⟩, checked, rfl⟩ :=
    map_eq_ok.mp accepted
  simp only [both_eq_ok, uuidSchema, string_eq_ok, integer_eq_ok] at checked
  obtain ⟨⟨slug, -⟩, ⟨batch, -⟩, ⟨inserted, -⟩, ⟨submitted, -⟩, ⟨sum, -⟩, ⟨received, -⟩, ⟨persisted, -⟩⟩ := checked
  simp [List.lookup_cons] at slug batch inserted submitted sum received persisted
  subst_vars
  rfl

/-- An envelope the controller accepts is read as what was sent, and its event
type is the one the schema names. -/
theorem envelope_read (accepted : alertEnvelopeBusinessSchema (some (envelopeJson alert)) = .ok parsed) :
    parsed = alert ∧ alert.eventType = "ingest.batch.persisted" := by
  obtain ⟨⟨outboxId, eventType, aggregateId, payload⟩, checked, rfl⟩ := map_eq_ok.mp accepted
  simp only [both_eq_ok, string_eq_ok, literal_eq_ok] at checked
  obtain ⟨⟨outbox, -⟩, ⟨event, rfl⟩, ⟨aggregate, -⟩, read⟩ := checked
  have sent := payload_read read
  simp [List.lookup_cons] at outbox event aggregate
  subst_vars
  exact ⟨by rw [← event], event⟩

/-! ## What the log says -/

/-- What holds of a process that has evicted nothing: a key it remembers was
delivered. -/
structure Sound (service : AlertsService) : Prop where
  capacity : service.dedupStore.maxSize = 10000
  nodup : service.dedupStore.keys.Nodup
  remembered : ∀ key ∈ service.dedupStore.keys, ∃ alert, (.delivered, alert) ∈ service.log ∧ dedupKey alert = key
  nonempty : ∀ alert, (.delivered, alert) ∈ service.log → alert.payload.measurementsInserted ≠ 0

theorem started_sound : Sound .started := ⟨rfl, List.nodup_nil, nofun, nofun⟩

theorem mem_seen : key ∈ service.seen ↔
    ∃ entry ∈ service.log, entry.1 ≠ .noopSuppressed ∧ dedupKey entry.2 = key := by
  simp [AlertsService.seen, and_assoc]

theorem Sound.room (sound : Sound service) (few : service.seen.length < 10000) :
    service.dedupStore.keys.length < service.dedupStore.maxSize := by
  have subset : service.dedupStore.keys ⊆ service.seen := by
    intro key member
    obtain ⟨alert, logged, rfl⟩ := sound.remembered key member
    exact mem_seen.mpr ⟨_, logged, nofun, rfl⟩
  rw [sound.capacity]
  exact Nat.lt_of_le_of_lt (sound.nodup.subperm subset).length_le few

theorem seen_mono (grows : service.log ⊆ after.log) : service.seen.length ≤ after.seen.length := by
  refine ((List.nodup_dedup _).subperm ?_).length_le
  intro key member
  obtain ⟨entry, logged, same⟩ := mem_seen.mp member
  exact mem_seen.mpr ⟨entry, grows logged, same⟩

theorem handleBusiness_log (service : AlertsService) (alert : AlertEnvelopeBusiness) :
    ∃ event, (handleBusiness service alert).1.log = service.log ++ [(event, alert)] := by
  unfold handleBusiness
  split
  · exact ⟨_, rfl⟩
  · cases service.dedupStore.add (dedupKey alert) with
    | mk dedupStore isNew => cases isNew <;> exact ⟨_, rfl⟩

/-- The three ways an alert is handled while there is room. -/
theorem handleBusiness_cases (alert : AlertEnvelopeBusiness)
    (room : service.dedupStore.keys.length < service.dedupStore.maxSize) :
    alert.payload.measurementsInserted = 0 ∧
        (handleBusiness service alert).1 = service.record .noopSuppressed alert ∨
      dedupKey alert ∈ service.dedupStore.keys ∧
        (handleBusiness service alert).1 = service.record .duplicateSuppressed alert ∨
      alert.payload.measurementsInserted ≠ 0 ∧ dedupKey alert ∉ service.dedupStore.keys ∧
        (handleBusiness service alert).1 =
          ⟨⟨service.dedupStore.keys ++ [dedupKey alert], service.dedupStore.maxSize⟩,
            service.log ++ [(.delivered, alert)]⟩ := by
  unfold handleBusiness
  split
  · rename_i nothing
    exact Or.inl ⟨nothing, rfl⟩
  · rename_i some
    rw [DedupStore.add_of_room room]
    by_cases held : dedupKey alert ∈ service.dedupStore.keys
    · simp only [if_pos held]
      exact Or.inr (Or.inl ⟨held, rfl⟩)
    · simp only [if_neg held]
      exact Or.inr (Or.inr ⟨some, held, rfl⟩)

/-- Logging a suppressed alert says nothing about any key. -/
theorem Sound.record (sound : Sound service) {event : AlertEvent} (suppressed : event ≠ .delivered) :
    Sound (service.record event alert) := by
  refine ⟨sound.capacity, sound.nodup, fun key member => ?_, fun known logged => ?_⟩
  · obtain ⟨known, logged, same⟩ := sound.remembered key member
    exact ⟨known, List.mem_append_left _ logged, same⟩
  · rcases List.mem_append.mp logged with old | new
    · exact sound.nonempty known old
    · exact absurd (congrArg Prod.fst (List.mem_singleton.mp new)).symm suppressed

/-- While there is room, an alert with readings is logged as delivered unless
one with its key was. -/
theorem handleBusiness_logged (sound : Sound service)
    (room : service.dedupStore.keys.length < service.dedupStore.maxSize) :
    Sound (handleBusiness service alert).1 ∧ (alert.payload.measurementsInserted ≠ 0 →
      ∃ logged, (.delivered, logged) ∈ (handleBusiness service alert).1.log ∧ dedupKey logged = dedupKey alert) := by
  rcases handleBusiness_cases alert room with ⟨nothing, handled⟩ | ⟨held, handled⟩ | ⟨some, fresh, handled⟩
  · rw [handled]
    exact ⟨sound.record nofun, fun some => absurd nothing some⟩
  · rw [handled]
    refine ⟨sound.record nofun, fun _ => ?_⟩
    obtain ⟨known, logged, same⟩ := sound.remembered _ held
    exact ⟨known, List.mem_append_left _ logged, same⟩
  · rw [handled]
    have now : (AlertEvent.delivered, alert) ∈ service.log ++ [(.delivered, alert)] :=
      List.mem_append_right _ (List.mem_singleton_self _)
    refine ⟨⟨sound.capacity, ?_, fun key member => ?_, fun known logged => ?_⟩, fun _ => ⟨alert, now, rfl⟩⟩
    · refine List.nodup_append.mpr ⟨sound.nodup, List.nodup_singleton _, ?_⟩
      rintro old member new last rfl
      exact fresh (List.mem_singleton.mp last ▸ member)
    · rcases List.mem_append.mp member with old | new
      · obtain ⟨known, logged, same⟩ := sound.remembered key old
        exact ⟨known, List.mem_append_left _ logged, same⟩
      · exact ⟨alert, now, (List.mem_singleton.mp new).symm⟩
    · rcases List.mem_append.mp logged with old | new
      · exact sound.nonempty known old
      · cases List.mem_singleton.mp new
        exact some

/-- Two alerts the controller accepted with the same key have the same batch. -/
theorem batchId_of_dedupKey {alert other : AlertEnvelopeBusiness}
    (event : alert.eventType = other.eventType) (same : dedupKey alert = dedupKey other) :
    alert.payload.batchId = other.payload.batchId := by
  rw [dedupKey, dedupKey, event] at same
  exact (String.append_right_inj _).mp same

end EmissionsPlatform.Alerting
