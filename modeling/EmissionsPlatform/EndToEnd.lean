import EmissionsPlatform.FormDelivery
import EmissionsPlatform.RelayWrites
import EmissionsPlatform.SiteCache

/-! The whole platform: pages and other clients, the requests at the edge, the
creations and boots that fill `sites:valid`, the partitions of the topic, the
consumer group, the database, and the relays with Redis and their receivers. A
step is a step of one of these parts, and what it does to the others: a send
that succeeds appends to a partition, and a creation that commits adds a site.

`batches_are_stored_whole_and_once` says what becomes of whatever a page sends,
and `shown_success_reaches_the_database` what a banner of success stands for. -/
namespace EmissionsPlatform.EndToEnd
open Alerting Contracts ErrorEnvelopes FormDelivery IngestHandler KafkaConsumer MessageAccounts Redelivery RelayWrites
  Transition UniqueIndex
open IngestEdge (Covered Edge KeepsPromise PromiseKept Quiet Request)
open IngestForm (Browser Form OnePayload Unedited)
open Notifications (kafkaValue)
set_option autoImplicit false

/-- What the parts take from outside. -/
structure World where
  browser : Nat → Browser
  runtime : Runtime
  /-- The name of the ingest topic. -/
  topic : String
  /-- The partition the producer picks for a key. -/
  partitionOf : String → Nat
  /-- The bytes of `JSON.stringify(value)`. -/
  encode : Json → List UInt8
  /-- `JSON.parse` of bytes. -/
  parse : List UInt8 → Option Json
  relays : Notifications.Config

/-- What the consumer reads of a site besides its slug. -/
structure SiteDetails where
  name : String
  timezone : String
  emissionLimit : Numeric

structure System where
  front : FormDelivery.Platform
  creations : List SiteCache.Creation
  /-- What each creation inserts besides the slug. -/
  details : List SiteDetails
  boots : List SiteCache.Boot
  warmed : Bool
  back : MessageAccounts.State
  alerting : AlertsService
  systemLog : List AlertEnvelopeSystem
  redis : Keyspace
  /-- The rows of `metrics_outbox` whose script has run. -/
  ran : List Nat

inductive Action
  /-- Anything at a page or at the edge. -/
  | front (action : FormDelivery.Action)
  /-- Another client posts a batch. -/
  | post (body : Option Json)
  | createSite (slug : String) (details : SiteDetails)
  /-- The next call of a creation or a boot, or a loss. -/
  | cache (action : SiteCache.Action)
  /-- Anything in the consumer group. -/
  | back (action : MessageAccounts.Action)
  /-- Anything in a relay. -/
  | relay (turn : Turn)

/-- The creations and boots, with what they share with the edge. -/
def System.cache (system : System) : SiteCache.Platform :=
  ⟨system.front.edge.shared, system.creations, system.boots, system.warmed⟩

def System.withCache (system : System) (cache : SiteCache.Platform) : System :=
  { system with
    front := { system.front with edge := { system.front.edge with shared := cache.shared } }
    creations := cache.creations
    boots := cache.boots
    warmed := cache.warmed }

/-- What the relays work on. -/
def System.relays (system : System) : Notifications.Platform :=
  ⟨system.back.pipeline, system.alerting, system.systemLog, system.redis, system.ran⟩

def System.withRelays (system : System) (relays : Notifications.Platform) : System :=
  { system with
    back := { system.back with pipeline := relays.pipeline }
    alerting := relays.alerting
    systemLog := relays.systemLog
    redis := relays.redis
    ran := relays.ran }

/-- What `producer.send` appends. The broker gives the message its offset. -/
def kafkaMessage (world : World) (batch : IngestBatchInput) (receivedAtMs : Int) (offset : Nat) : KafkaMessage :=
  ⟨some (world.encode (kafkaValue batch receivedAtMs)), toString offset⟩

/-- The topic after a step at the edge: a send that succeeds appends to the
partition of its key. -/
def System.send (world : World) (system : System) : FormDelivery.Action → Option MessageAccounts.State
  | .edge (.advance index (.send true receivedAtMs)) =>
    (system.front.edge.requests[index]?).bind fun request =>
      let partition := world.partitionOf request.batch.siteSlug
      system.back.grouped (.produce partition
        (kafkaMessage world request.batch receivedAtMs (system.back.group.log partition).length))
  | _ => some system.back

/-- The database after a call of a creation or a boot: a commit adds its row. -/
def System.commit (world : World) (system : System) (cache : SiteCache.Platform) :
    SiteCache.Action → Option MessageAccounts.State
  | .advance index _ =>
    if cache.shared.sites = system.front.edge.shared.sites then some system.back
    else
      (system.creations[index]?).bind fun creation => (system.details[index]?).bind fun details =>
        MessageAccounts.step world.runtime world.parse world.topic system.back
          (.createSite creation.slug details.name details.timezone details.emissionLimit)
  | _ => some system.back

def step (world : World) (system : System) : Action → Option System
  | .front (.stranger _) => none
  | .front action =>
    (FormDelivery.step world.browser system.front action).bind fun front =>
      (system.send world action).map fun back => { system with front, back }
  | .post body =>
    match transform ingestBatchSchema body with
    | .ok batch =>
      (FormDelivery.step world.browser system.front (.stranger batch)).map fun front => { system with front }
    | .error _ => some system
  | .createSite slug details =>
    (SiteCache.step system.cache (.create slug)).map fun cache =>
      { system.withCache cache with details := system.details ++ [details] }
  | .cache (.create _) => none
  | .cache action =>
    (SiteCache.step system.cache action).bind fun cache =>
      (system.commit world cache action).map fun back => { system.withCache cache with back }
  | .back (.createSite _ _ _ _) | .back (.produce _ _) => none
  | .back action =>
    (MessageAccounts.step world.runtime world.parse world.topic system.back action).map fun back =>
      { system with back }
  | .relay turn =>
    (Notifications.step world.runtime world.parse world.relays system.relays turn.action).map system.withRelays

/-- The migrated platform, with a topic of so many partitions. -/
def initial (partitions : Nat) : System :=
  ⟨FormDelivery.initial [] [], [], [], [], false, MessageAccounts.initial (List.replicate partitions []), .started, [],
    InsertionMap.empty, []⟩

/-- A request is checked against a set that holds no slug of a site that is not
committed. -/
def ChecksCommitted (edge : Edge) : IngestEdge.Action → Prop
  | .advance index (.siteCheck .replied _) => ∀ request ∈ edge.requests[index]?,
    request.batch.siteSlug ∈ edge.shared.sitesValid → request.batch.siteSlug ∈ edge.shared.sites
  | _ => True

/-- The steps that keep a batch whole: a page submits no other payload while one
is pending, and no request passes the check for a site that is not there yet. -/
def KeepsWhole (world : World) (system : System) : Action → Prop
  | .front (.page index action) => ∀ form ∈ system.front.pages[index]?, Unedited (world.browser index) form action
  | .front (.edge action) => ChecksCommitted system.front.edge action
  | _ => True

/-- The steps that bring a batch through: the edge keeps its promise, and a
partition is taken over only when what waits in it is accounted for. -/
def BringsThrough (system : System) : Action → Prop
  | .front (.edge action) => KeepsPromise system.front.edge action
  | .back action => TakesOverAccounted system.back action
  | _ => True

instance (edge : Edge) : ∀ action, Decidable (ChecksCommitted edge action)
  | .advance _ (.siteCheck .replied _) => inferInstanceAs (Decidable (∀ request ∈ _, _ → _))
  | .advance _ (.siteCheck (.threw _) _) | .advance _ (.batchDedupe _) | .advance _ (.send _ _) | .advance _ (.hdel _)
  | .receive _ | .expire _ _ => inferInstanceAs (Decidable True)

instance (world : World) (system : System) : ∀ action, Decidable (KeepsWhole world system action)
  | .front (.page index action) =>
    inferInstanceAs (Decidable (∀ form ∈ system.front.pages[index]?, Unedited (world.browser index) form action))
  | .front (.edge action) => inferInstanceAs (Decidable (ChecksCommitted system.front.edge action))
  | .front .mount | .front (.arrive _ _ _) | .front (.stranger _) | .front (.answer _ _ _) | .front (.fail _ _ _)
  | .post _ | .createSite _ _ | .cache _ | .back _ | .relay _ => inferInstanceAs (Decidable True)

instance (system : System) : ∀ action, Decidable (BringsThrough system action)
  | .front (.edge action) => inferInstanceAs (Decidable (KeepsPromise system.front.edge action))
  | .back action => inferInstanceAs (Decidable (TakesOverAccounted system.back action))
  | .front .mount | .front (.page _ _) | .front (.arrive _ _ _) | .front (.stranger _) | .front (.answer _ _ _)
  | .front (.fail _ _ _) | .post _ | .createSite _ _ | .cache _ | .relay _ => inferInstanceAs (Decidable True)

/-- A running consumer has moved past the offset, which was appended since the
group first positioned itself. -/
def Passed (group : ConsumerGroup.Group KafkaMessage) (partition offset : Nat) : Prop :=
  ∃ ends ∈ group.joinedAt, ends.getD partition 0 ≤ offset ∧
    ∃ session ∈ group.sessions, session.partition = partition ∧ offset < session.position

instance (group : ConsumerGroup.Group KafkaMessage) (partition offset : Nat) :
    Decidable (Passed group partition offset) :=
  inferInstanceAs (Decidable (∃ ends ∈ _, _ ∧ ∃ session ∈ _, _ ∧ _))

/-- The column's reading of an id, as a text. -/
def caseless (text : String) : String := String.ofList (text.toList.map Char.toLower)

/-- No page ever draws an id that another client uses, in whatever case. -/
def Apart (world : World) : Action → Prop
  | .post body => ∀ batch, transform ingestBatchSchema body = .ok batch →
    ∀ page drawn, caseless batch.batchId ≠ caseless ((world.browser page).randomUUID drawn)
  | _ => True

/-- The bytes of a message are read as the value that was written, and the clock
it was written by is past 1970. -/
def Carries (world : World) (message : KafkaIngestMessage) : Prop :=
  0 < message.receivedAtMs ∧ world.parse (world.encode (kafkaValue message.toIngestBatchInput message.receivedAtMs)) =
    some (kafkaValue message.toIngestBatchInput message.receivedAtMs)

/-- Every message of the topic is carried. -/
def Carried (world : World) (system : System) : Prop := ∀ sent ∈ system.front.edge.shared.topic, Carries world sent.2

variable {world : World} {system next : System} {action : Action} {actions : List Action}
variable {edge edge' : Edge} {shared : IngestEdge.Shared} {form : Form} {batch payload : IngestBatchInput}
variable {batchId : String} {index : Nat}

/-! ## What a step does -/

theorem step_front {own : FormDelivery.Action} (stepped : step world system (.front own) = some next) :
    (∀ batch, own ≠ .stranger batch) ∧ ∃ front back, FormDelivery.step world.browser system.front own = some front ∧
      system.send world own = some back ∧ next = { system with front, back } := by
  cases own with
  | stranger batch => cases stepped
  | mount | page _ _ | arrive _ _ _ | edge _ | answer _ _ _ | fail _ _ _ =>
    simp only [step, Option.bind_eq_some_iff, Option.map_eq_some_iff] at stepped
    obtain ⟨front, moved, back, sent, rfl⟩ := stepped
    exact ⟨(fun _ same => by cases same), front, back, moved, sent, rfl⟩

theorem step_post {body : Option Json} (stepped : step world system (.post body) = some next) :
    next = system ∨ ∃ batch front, transform ingestBatchSchema body = .ok batch ∧
      FormDelivery.step world.browser system.front (.stranger batch) = some front ∧ next = { system with front } := by
  simp only [step] at stepped
  split at stepped
  · rename_i batch passes
    obtain ⟨front, moved, rfl⟩ := Option.map_eq_some_iff.mp stepped
    exact Or.inr ⟨batch, front, passes, moved, rfl⟩
  · cases stepped
    exact Or.inl rfl

theorem step_cache {own : SiteCache.Action} (stepped : step world system (.cache own) = some next) :
    ∃ cache back, SiteCache.step system.cache own = some cache ∧ system.commit world cache own = some back ∧
      next = { system.withCache cache with back } := by
  cases own with
  | create slug => cases stepped
  | advance _ _ | creationDies _ | boot | warm _ _ | bootDies _ | lose _ =>
    simp only [step, Option.bind_eq_some_iff, Option.map_eq_some_iff] at stepped
    obtain ⟨cache, moved, back, committed, rfl⟩ := stepped
    exact ⟨cache, back, moved, committed, rfl⟩

theorem step_back {own : MessageAccounts.Action} (stepped : step world system (.back own) = some next) :
    (∀ slug name timezone emissionLimit, own ≠ .createSite slug name timezone emissionLimit) ∧
      (∀ partition message, own ≠ .produce partition message) ∧ ∃ back,
        MessageAccounts.step world.runtime world.parse world.topic system.back own = some back ∧
          next = { system with back } := by
  cases own with
  | createSite _ _ _ _ => cases stepped
  | produce _ _ => cases stepped
  | start | crash _ | position _ _ | revoke _ _ | consume _ _ _ =>
    simp only [step, Option.map_eq_some_iff] at stepped
    obtain ⟨back, moved, rfl⟩ := stepped
    exact ⟨(fun _ _ _ _ same => by cases same), (fun _ _ same => by cases same), back, moved, rfl⟩

theorem step_relay {turn : Turn} (stepped : step world system (.relay turn) = some next) :
    ∃ relays, Notifications.step world.runtime world.parse world.relays system.relays turn.action = some relays ∧
      next = system.withRelays relays := by
  obtain ⟨relays, moved, rfl⟩ := Option.map_eq_some_iff.mp stepped
  exact ⟨relays, moved, rfl⟩

/-- Creations and boots leave the topic alone, and add a site only by a commit. -/
theorem cache_shared {platform after : SiteCache.Platform} {own : SiteCache.Action}
    (stepped : SiteCache.step platform own = some after) :
    after.shared.topic = platform.shared.topic ∧ (after.shared.sites = platform.shared.sites ∨
      ∃ index call creation, own = .advance index call ∧ platform.creations[index]? = some creation ∧
        after.shared.sites = platform.shared.sites ++ [creation.slug]) := by
  have sadd_topic : ∀ call slugs, (SiteCache.sadd platform.shared call slugs).topic = platform.shared.topic := by
    intro call slugs
    unfold SiteCache.sadd
    split <;> rfl
  cases own with
  | create slug =>
    cases stepped
    exact ⟨rfl, Or.inl rfl⟩
  | advance index call =>
    obtain ⟨creation, shared, stage, held, proceeded, rfl⟩ := SiteCache.step_advance stepped
    rcases SiteCache.proceed_cases proceeded with ⟨-, rfl, -⟩ | ⟨-, rfl, -⟩ | ⟨-, rfl, -⟩
    · exact ⟨sadd_topic _ _, Or.inl SiteCache.sadd_sites⟩
    · simp only [SiteCache.commit]
      split
      · exact ⟨rfl, Or.inl rfl⟩
      · exact ⟨rfl, Or.inr ⟨index, call, creation, rfl, held, rfl⟩⟩
    · exact ⟨rfl, Or.inl rfl⟩
  | creationDies index =>
    obtain ⟨creation, held, rfl⟩ := Option.map_eq_some_iff.mp stepped
    exact ⟨rfl, Or.inl rfl⟩
  | boot =>
    cases stepped
    exact ⟨rfl, Or.inl rfl⟩
  | warm index call =>
    obtain ⟨boot, shared, after, held, warmed, rfl⟩ := SiteCache.step_warm stepped
    cases boot with
    | select =>
      cases warmed
      exact ⟨rfl, Or.inl rfl⟩
    | sadd slugs =>
      cases warmed
      exact ⟨sadd_topic _ _, Or.inl SiteCache.sadd_sites⟩
    | completed => cases warmed
    | died => cases warmed
  | bootDies index =>
    obtain ⟨boot, held, rfl⟩ := Option.map_eq_some_iff.mp stepped
    exact ⟨rfl, Or.inl rfl⟩
  | lose kept =>
    cases stepped
    exact ⟨rfl, Or.inl rfl⟩

/-- The pages and the edge make a step of their own, or the edge shares other
sites. -/
theorem front_cases (stepped : step world system action = some next) :
    (∃ own, FormDelivery.step world.browser system.front own = some next.front ∧
      (action = .front own ∧ (∀ batch, own ≠ .stranger batch) ∨
        ∃ body batch, action = .post body ∧ own = .stranger batch ∧ transform ingestBatchSchema body = .ok batch)) ∨
      ∃ shared, next.front = { system.front with edge := { system.front.edge with shared } } ∧
        shared.topic = system.front.edge.shared.topic := by
  cases action with
  | front own =>
    obtain ⟨known, front, back, moved, -, rfl⟩ := step_front stepped
    exact Or.inl ⟨own, moved, Or.inl ⟨rfl, known⟩⟩
  | post body =>
    rcases step_post stepped with rfl | ⟨batch, front, passes, moved, rfl⟩
    · exact Or.inr ⟨_, rfl, rfl⟩
    · exact Or.inl ⟨_, moved, Or.inr ⟨body, batch, rfl, rfl, passes⟩⟩
  | createSite slug details =>
    cases stepped
    exact Or.inr ⟨_, rfl, rfl⟩
  | cache own =>
    obtain ⟨cache, back, moved, -, rfl⟩ := step_cache stepped
    exact Or.inr ⟨_, rfl, (cache_shared moved).1⟩
  | back own =>
    obtain ⟨-, -, back, -, rfl⟩ := step_back stepped
    exact Or.inr ⟨_, rfl, rfl⟩
  | relay turn =>
    obtain ⟨relays, -, rfl⟩ := step_relay stepped
    exact Or.inr ⟨_, rfl, rfl⟩

/-- The consumer group and its database make a step of their own, or stay as
they are, or a relay writes to the database. -/
theorem back_cases (stepped : step world system action = some next) :
    (next.back = system.back ∨ ∃ own,
        MessageAccounts.step world.runtime world.parse world.topic system.back own = some next.back ∧
          (action = .back own ∨ ∀ consumer partition, own ≠ .position consumer partition)) ∧
        next.relays = { system.relays with pipeline := next.back.pipeline } ∨
      ∃ turn, action = .relay turn := by
  cases action with
  | front own =>
    obtain ⟨-, front, back, -, sent, rfl⟩ := step_front stepped
    refine Or.inl ⟨?_, rfl⟩
    unfold System.send at sent
    split at sent
    · obtain ⟨request, -, produced⟩ := Option.bind_eq_some_iff.mp sent
      exact Or.inr ⟨.produce _ _, produced, Or.inr fun _ _ same => by cases same⟩
    · cases sent
      exact Or.inl rfl
  | post body =>
    rcases step_post stepped with rfl | ⟨batch, front, -, -, rfl⟩
    · exact Or.inl ⟨Or.inl rfl, rfl⟩
    · exact Or.inl ⟨Or.inl rfl, rfl⟩
  | createSite slug details =>
    cases stepped
    exact Or.inl ⟨Or.inl rfl, rfl⟩
  | cache own =>
    obtain ⟨cache, back, -, committed, rfl⟩ := step_cache stepped
    refine Or.inl ⟨?_, rfl⟩
    unfold System.commit at committed
    split at committed
    · split at committed
      · cases committed
        exact Or.inl rfl
      · obtain ⟨creation, -, rest⟩ := Option.bind_eq_some_iff.mp committed
        obtain ⟨details, -, created⟩ := Option.bind_eq_some_iff.mp rest
        exact Or.inr ⟨.createSite _ _ _ _, created, Or.inr fun _ _ same => by cases same⟩
    · cases committed
      exact Or.inl rfl
  | back own =>
    obtain ⟨-, -, back, moved, rfl⟩ := step_back stepped
    exact Or.inl ⟨Or.inr ⟨own, moved, Or.inl rfl⟩, rfl⟩
  | relay turn => exact Or.inr ⟨turn, rfl⟩

/-! ## The accounts, the database and the relays -/

/-- What holds behind the topic, whatever is sent. -/
structure Founded (world : World) (system : System) : Prop where
  accountable : Accountable world.parse system.back
  ledger : Ledger world.parse system.back
  relays : Draining system.relays

theorem step_founded (founded : Founded world system) (stepped : step world system action = some next) :
    Founded world next := by
  obtain ⟨accountable, ledger, draining⟩ := founded
  rcases back_cases stepped with ⟨same | ⟨own, moved, -⟩, relays⟩ | ⟨turn, rfl⟩
  · have unchanged : next.relays = system.relays := by
      rw [relays, same]
      rfl
    exact ⟨same ▸ accountable, same ▸ ledger, unchanged ▸ draining⟩
  · refine ⟨MessageAccounts.step_accountable accountable moved, step_ledger accountable ledger moved, ?_⟩
    rw [relays]
    exact draining.fill (step_fills accountable moved)
  · obtain ⟨relays, moved, rfl⟩ := step_relay stepped
    obtain ⟨after, relayed⟩ := step_draining draining moved
    let later := (system.withRelays relays).back
    exact ⟨@Relayed.accountable _ system.back later relayed rfl rfl accountable,
      @Relayed.ledger _ system.back later relayed rfl rfl accountable ledger, after⟩

/-! ## Pages and clients -/

theorem Sound.with_shared {browser : Nat → Browser} {platform : Platform} (sound : Sound browser platform)
    (topic : shared.topic = platform.edge.shared.topic) :
    Sound browser { platform with edge := { platform.edge with shared } } := by
  have grows : FormDelivery.Grows platform.edge { platform.edge with shared } :=
    ⟨List.prefix_refl _, fun _ _ acknowledged => acknowledged⟩
  refine ⟨⟨fun message member => ?_, sound.edge.queued⟩, sound.senders,
    fun index form held => (sound.pages index form held).mono grows, sound.carried⟩
  rw [topic] at member
  exact sound.edge.produced message member

theorem step_sound (fresh : ∀ page, Function.Injective (world.browser page).randomUUID)
    (sound : Sound world.browser system.front) (stepped : step world system action = some next) :
    Sound world.browser next.front := by
  rcases front_cases stepped with ⟨own, moved, -⟩ | ⟨shared, same, topic⟩
  · exact FormDelivery.step_sound fresh sound moved
  · rw [same]
    exact Sound.with_shared sound topic

theorem step_one (sound : Sound world.browser system.front) (one : OnePayloads system.front)
    (keeps : KeepsWhole world system action) (stepped : step world system action = some next) :
    OnePayloads next.front := by
  rcases front_cases stepped with ⟨own, moved, source⟩ | ⟨shared, same, -⟩
  · refine step_onePayloads sound one (fun index turn isTurn => ?_) moved
    rcases source with ⟨rfl, -⟩ | ⟨body, batch, -, rfl, -⟩
    · subst isTurn
      exact keeps
    · cases isTurn
  · rw [same]
    exact one

theorem step_others (sound : Sound world.browser system.front) (foreign : Foreign caseless world.browser system.front)
    (apart : Apart world action) (stepped : step world system action = some next) :
    Foreign caseless world.browser next.front := by
  rcases front_cases stepped with ⟨own, moved, source⟩ | ⟨shared, same, -⟩
  · refine step_foreign sound foreign (fun batch isStranger => ?_) moved
    rcases source with ⟨rfl, known⟩ | ⟨body, posted, rfl, rfl, passes⟩
    · exact absurd isStranger (known batch)
    · cases isStranger
      exact apart batch passes
  · rw [same]
    exact foreign

/-! ## The edge lets accepted batches of committed sites through -/

structure EdgeLinked (edge : Edge) : Prop where
  accepted : ∀ request ∈ edge.requests, Accepted request.batch
  /-- Whoever is past the check has a committed site. -/
  checked : ∀ request ∈ edge.requests, request.stage = .dedupe ∨ request.stage = .produce →
    request.batch.siteSlug ∈ edge.shared.sites

theorem proceed_checked {request : Request} {event : IngestEdge.Event} {stage : IngestEdge.Stage}
    (proceeded : IngestEdge.proceed edge.shared request event = some (shared, stage))
    (before : request.stage = .dedupe → request.batch.siteSlug ∈ edge.shared.sites)
    (checks : ∀ lookup, event = .siteCheck .replied lookup → request.batch.siteSlug ∈ edge.shared.sitesValid →
      request.batch.siteSlug ∈ edge.shared.sites) :
    shared.sites = edge.shared.sites ∧
      (stage = .dedupe ∨ stage = .produce → request.batch.siteSlug ∈ edge.shared.sites) := by
  cases event with
  | siteCheck sismember lookup =>
    obtain ⟨-, went⟩ := Option.ite_none_right_eq_some.mp proceeded
    cases went
    refine ⟨rfl, fun past => ?_⟩
    unfold IngestEdge.assertSiteValid at past
    cases sismember with
    | replied =>
      by_contra missing
      have absent : request.batch.siteSlug ∉ edge.shared.sitesValid := fun held => missing (checks lookup rfl held)
      simp [absent] at past
    | threw ran =>
      by_contra missing
      cases lookup with
      | replied => simp [missing] at past
      | threw ran => simp at past
  | batchDedupe call =>
    obtain ⟨deduping, went⟩ := Option.ite_none_right_eq_some.mp proceeded
    cases call with
    | replied =>
      cases went
      exact ⟨rfl, fun _ => before deduping⟩
    | threw ran =>
      cases went
      exact ⟨by split <;> rfl, fun _ => before deduping⟩
  | send succeeds receivedAtMs =>
    obtain ⟨-, went⟩ := Option.ite_none_right_eq_some.mp proceeded
    cases succeeds with
    | true =>
      cases went
      exact ⟨rfl, by simp⟩
    | false =>
      cases went
      exact ⟨rfl, by simp⟩
  | hdel call =>
    obtain ⟨-, went⟩ := Option.ite_none_right_eq_some.mp proceeded
    cases went
    exact ⟨by split <;> rfl, by simp⟩

theorem step_edgeLinked {own : IngestEdge.Action} (linked : EdgeLinked edge)
    (stepped : IngestEdge.step edge own = some edge') (accepts : ∀ batch, own = .receive batch → Accepted batch)
    (checks : ChecksCommitted edge own) : edge'.shared.sites = edge.shared.sites ∧ EdgeLinked edge' := by
  cases own with
  | receive batch =>
    cases stepped
    refine ⟨rfl, List.forall_mem_append.mpr ⟨linked.accepted, List.forall_mem_singleton.mpr (accepts batch rfl)⟩,
      List.forall_mem_append.mpr ⟨linked.checked, List.forall_mem_singleton.mpr ?_⟩⟩
    simp
  | expire slug batchId =>
    cases stepped
    exact ⟨rfl, linked.accepted, linked.checked⟩
  | advance index event =>
    obtain ⟨request, held, shared, stage, proceeded, rfl⟩ := IngestEdge.step_advance.mp stepped
    have member := List.mem_of_getElem? held
    obtain ⟨sites, passed⟩ :=
      proceed_checked proceeded (fun deduping => linked.checked request member (Or.inl deduping))
      (fun lookup isCheck => by subst isCheck; exact checks request held)
    refine ⟨sites, fun other inside => ?_, fun other inside past => ?_⟩
    · rcases List.mem_or_eq_of_mem_set inside with old | rfl
      · exact linked.accepted other old
      · exact linked.accepted request member
    · simp only [sites]
      rcases List.mem_or_eq_of_mem_set inside with old | rfl
      · exact linked.checked other old past
      · exact passed past

/-- The topic grows by the sends that succeed. -/
theorem edge_topic {own : IngestEdge.Action} (stepped : IngestEdge.step edge own = some edge') :
    (∃ index receivedAtMs request, own = .advance index (.send true receivedAtMs) ∧
      edge.requests[index]? = some request ∧ request.stage = .produce ∧ edge'.shared.topic = edge.shared.topic ++
        [(request.batch.siteSlug, { request.batch with receivedAtMs })]) ∨
      (∀ index receivedAtMs, own ≠ .advance index (.send true receivedAtMs)) ∧
        edge'.shared.topic = edge.shared.topic := by
  cases own with
  | receive batch =>
    cases stepped
    exact Or.inr ⟨(fun _ _ same => by cases same), rfl⟩
  | expire slug batchId =>
    cases stepped
    exact Or.inr ⟨(fun _ _ same => by cases same), rfl⟩
  | advance index event =>
    obtain ⟨request, held, shared, stage, proceeded, rfl⟩ := IngestEdge.step_advance.mp stepped
    rcases (proceed_proceeds proceeded).topic with ⟨receivedAtMs, rfl, producing, grown⟩ | ⟨noSend, same⟩
    · exact Or.inl ⟨index, receivedAtMs, request, rfl, held, producing, grown⟩
    · refine Or.inr ⟨fun other receivedAtMs isSend => ?_, same⟩
      cases isSend
      exact noSend receivedAtMs rfl

/-! ## The partitions hold the topic -/

/-- The database the consumers write to has a site of this slug. -/
def KnownSlug (db : Database) (slug : String) : Prop := ∃ site ∈ db.sites.rows, site.slug = slug

theorem knownSlug_createSite (slug name timezone : String) (emissionLimit : Numeric) (db : Database) :
    KnownSlug (IngestPipeline.createSite slug name timezone emissionLimit db) slug := by
  have covered : slug ∈ (IngestPipeline.createSite slug name timezone emissionLimit db).sites.rows.map Site.slug := by
    simp only [IngestPipeline.createSite, Table.insertIgnoring_rows, List.map_append, List.mem_append]
    exact @key_covered Site String _ Site.slug _ _ _
      (List.mem_singleton_self ⟨db.nextSiteId, slug, name, timezone, emissionLimit⟩)
  exact List.mem_map.mp covered

/-- What the topic holds is read by the consumers as it was sent. -/
theorem read_kafkaMessage {receivedAtMs : Int} (accepts : Accepted batch)
    (carries : Carries world { batch with receivedAtMs }) (offset : Nat) :
    readMessage world.parse (kafkaMessage world batch receivedAtMs offset) = some { batch with receivedAtMs } := by
  have parsed : world.parse (world.encode (kafkaValue batch receivedAtMs)) = some (kafkaValue batch receivedAtMs) :=
    carries.2
  have read := Notifications.kafkaValue_accepted accepts carries.1
  simp only [readMessage, kafkaMessage, Option.bind_some, parsed, read, Except.toOption]

theorem produce_log {group after : ConsumerGroup.Group KafkaMessage} {partition : Nat} {message : KafkaMessage}
    (stepped : ConsumerGroup.step group (.produce partition message) = some after) (other : Nat) :
    after.log other = group.log other ++ if partition = other then [message] else [] := by
  obtain ⟨log, held, rfl⟩ := ConsumerGroup.step_produce.mp stepped
  simp only [ConsumerGroup.Group.log, List.getD_eq_getElem?_getD]
  split
  · rename_i own
    subst own
    rw [List.getElem?_set_self (List.getElem?_eq_some_iff.mp held).1, held]
    rfl
  · rename_i different
    rw [List.getElem?_set_ne different, List.append_nil]

/-- Only producing changes the topic. -/
theorem group_topic {group after : ConsumerGroup.Group KafkaMessage} {own : ConsumerGroup.Action KafkaMessage}
    (stepped : ConsumerGroup.step group own = some after)
    (consumes : ∀ partition message, own ≠ .produce partition message) :
    after.topic = group.topic := by
  cases own with
  | produce partition message => exact absurd rfl (consumes partition message)
  | start => cases stepped; rfl
  | crash consumer => cases stepped; rfl
  | position consumer partition =>
    obtain ⟨-, rfl⟩ := ConsumerGroup.step_position.mp stepped
    rfl
  | revoke consumer partition => cases stepped; rfl
  | consume index outcome =>
    obtain ⟨session, -, -, rfl⟩ := ConsumerGroup.step_consume.mp stepped
    cases outcome <;> rfl

/-- What the parts of the system hold of one another. -/
structure Linked (world : World) (system : System) : Prop where
  edge : EdgeLinked system.front.edge
  sites : ∀ slug ∈ system.front.edge.shared.sites, KnownSlug system.back.pipeline.db slug
  sent : ∀ sent ∈ system.front.edge.shared.topic, Accepted sent.2.toIngestBatchInput ∧
    KnownSlug system.back.pipeline.db sent.2.siteSlug
  /-- A partition holds the messages of its keys, in the order they were sent. -/
  logs : ∀ partition, (system.back.group.log partition).map (readMessage world.parse) =
    (system.front.edge.shared.topic.filter fun sent => world.partitionOf sent.1 = partition).map fun sent => some sent.2
  /-- Nothing the edge let through is turned away. -/
  recorded : ∀ entry ∈ system.back.accounts, entry.account = .recorded
  founded : Founded world system

/-- A message of a partition was sent. -/
theorem Linked.sent_of_at (linked : Linked world system) {partition offset : Nat} {message : KafkaMessage}
    (isAt : At system.back.group partition offset message) :
    ∃ sent ∈ system.front.edge.shared.topic, readMessage world.parse message = some sent.2 := by
  have read : ((system.back.group.log partition).map (readMessage world.parse))[offset]? =
      some (readMessage world.parse message) := by
    have found : (system.back.group.log partition)[offset]? = some message := isAt
    rw [List.getElem?_map, found, Option.map_some]
  rw [linked.logs, List.getElem?_map] at read
  obtain ⟨sent, found, same⟩ := Option.map_eq_some_iff.mp read
  exact ⟨sent, (List.mem_filter.mp (List.mem_of_getElem? found)).1, same.symm⟩

/-- What was sent is in the partition of its key. -/
theorem Linked.at_of_sent (linked : Linked world system) {sent : String × KafkaIngestMessage}
    (member : sent ∈ system.front.edge.shared.topic) :
    ∃ offset message, At system.back.group (world.partitionOf sent.1) offset message ∧
      readMessage world.parse message = some sent.2 := by
  have read : some sent.2 ∈ (system.back.group.log (world.partitionOf sent.1)).map (readMessage world.parse) := by
    rw [linked.logs]
    exact List.mem_map.mpr ⟨sent, List.mem_filter.mpr ⟨member, decide_eq_true rfl⟩, rfl⟩
  obtain ⟨message, stored, same⟩ := List.mem_map.mp read
  obtain ⟨offset, found⟩ := List.mem_iff_getElem?.mp stored
  exact ⟨offset, message, found, same⟩

/-- The edge moves, and neither its sites nor its topic change. -/
theorem Linked.with_edge (linked : Linked world system) (edge : EdgeLinked next.front.edge)
    (sites : next.front.edge.shared.sites = system.front.edge.shared.sites)
    (topic : next.front.edge.shared.topic = system.front.edge.shared.topic) (back : next.back = system.back)
    (founded : Founded world next) : Linked world next := by
  obtain ⟨-, known, sent, logs, recorded, -⟩ := linked
  rw [← back] at known sent logs recorded
  rw [← sites] at known
  rw [← topic] at sent logs
  exact ⟨edge, known, sent, logs, recorded, founded⟩

theorem send_quiet {own : FormDelivery.Action}
    (quiet : ∀ index receivedAtMs, own ≠ .edge (.advance index (.send true receivedAtMs))) :
    system.send world own = some system.back := by
  unfold System.send
  split
  · exact absurd rfl (quiet _ _)
  · rfl

/-- A send that succeeds puts the batch into the partition of its site. -/
theorem linked_of_send {receivedAtMs : Int} (linked : Linked world system) (founded : Founded world next)
    (stepped : step world system (.front (.edge (.advance index (.send true receivedAtMs)))) = some next)
    (carried : Carried world next) : Linked world next := by
  obtain ⟨-, front, back, moved, sent, rfl⟩ := step_front stepped
  simp only [FormDelivery.step, Option.map_eq_some_iff] at moved
  obtain ⟨edge', advanced, rfl⟩ := moved
  obtain ⟨sites, edgeLinked⟩ := step_edgeLinked linked.edge advanced (fun _ same => by cases same) trivial
  obtain ⟨index, receivedAtMs, request, isSend, held, producing, topic⟩ :=
    (edge_topic advanced).resolve_right fun quiet => quiet.1 _ _ rfl
  cases isSend
  simp only [System.send, held, Option.bind_some] at sent
  obtain ⟨grouped, pipeline, accounts, -⟩ := grouped_spec linked.founded.accountable sent
  have member := List.mem_of_getElem? held
  have accepts := linked.edge.accepted request member
  have carries : Carries world { request.batch with receivedAtMs } := by
    refine carried (request.batch.siteSlug, { request.batch with receivedAtMs }) ?_
    simp only [topic]
    exact List.mem_append_right _ (List.mem_singleton_self _)
  have known := linked.sites _ (linked.edge.checked request member (Or.inr producing))
  refine ⟨edgeLinked, ?_, ?_, fun partition => ?_, ?_, founded⟩
  · simp only [sites, pipeline]
    exact linked.sites
  · simp only [topic, pipeline]
    exact List.forall_mem_append.mpr ⟨linked.sent, List.forall_mem_singleton.mpr ⟨accepts, known⟩⟩
  · simp only [topic]
    rw [produce_log grouped, List.map_append, linked.logs, List.filter_append, List.map_append]
    congr 1
    by_cases own : world.partitionOf request.batch.siteSlug = partition
    · simp [own, read_kafkaMessage accepts carries]
    · simp [own]
  · rw [accounts]
    exact linked.recorded

theorem linked_of_front {own : FormDelivery.Action} (linked : Linked world system) (founded : Founded world next)
    (keeps : KeepsWhole world system (.front own)) (stepped : step world system (.front own) = some next)
    (carried : Carried world next) : Linked world next := by
  by_cases sends : ∃ index receivedAtMs, own = .edge (.advance index (.send true receivedAtMs))
  · obtain ⟨index, receivedAtMs, rfl⟩ := sends
    exact linked_of_send linked founded stepped carried
  · obtain ⟨known, front, back, moved, sent, rfl⟩ := step_front stepped
    have quiet : ∀ index receivedAtMs, own ≠ .edge (.advance index (.send true receivedAtMs)) :=
      fun index receivedAtMs same => sends ⟨index, receivedAtMs, same⟩
    rw [send_quiet quiet] at sent
    cases sent
    rcases edge_cases moved with same | ⟨batch, received, source⟩ | ⟨edgeOwn, rfl, -, advanced⟩
    · exact linked.with_edge (same ▸ linked.edge) (by rw [same]) (by rw [same]) rfl founded
    · have accepts : Accepted batch := source.resolve_left (known batch)
      obtain ⟨sites, edgeLinked⟩ :=
        step_edgeLinked linked.edge received (fun _ same => by cases same; exact accepts) trivial
      have topic :=
        ((edge_topic received).resolve_left fun sends => by obtain ⟨_, _, _, same, _⟩ := sends; cases same).2
      exact linked.with_edge edgeLinked sites topic rfl founded
    · obtain ⟨sites, edgeLinked⟩ := step_edgeLinked linked.edge advanced
        (fun batch same => by subst same; cases moved) keeps
      refine linked.with_edge edgeLinked sites ((edge_topic advanced).resolve_left fun sends => ?_).2 rfl founded
      obtain ⟨index, receivedAtMs, _, same, _⟩ := sends
      exact quiet index receivedAtMs (by rw [same])

theorem linked_of_post {body : Option Json} (linked : Linked world system) (founded : Founded world next)
    (stepped : step world system (.post body) = some next) : Linked world next := by
  rcases step_post stepped with rfl | ⟨batch, front, passes, moved, rfl⟩
  · exact linked
  · cases moved
    have received : IngestEdge.step system.front.edge (.receive batch) = some _ := rfl
    obtain ⟨sites, edgeLinked⟩ := step_edgeLinked linked.edge received
      (fun _ same => by cases same; exact accepted_of_transform passes) trivial
    exact linked.with_edge edgeLinked sites rfl rfl founded

theorem EdgeLinked.with_shared (linked : EdgeLinked edge) (sites : edge.shared.sites ⊆ shared.sites) :
    EdgeLinked { edge with shared } :=
  ⟨linked.accepted, fun request member past => sites (linked.checked request member past)⟩

theorem commit_same {cache : SiteCache.Platform} {own : SiteCache.Action}
    (same : cache.shared.sites = system.front.edge.shared.sites) :
    system.commit world cache own = some system.back := by
  unfold System.commit
  split
  · exact if_pos same
  · rfl

/-- A creation that commits puts its site into the database. -/
theorem linked_of_cache {own : SiteCache.Action} (linked : Linked world system) (founded : Founded world next)
    (stepped : step world system (.cache own) = some next) : Linked world next := by
  obtain ⟨cache, back, moved, committed, rfl⟩ := step_cache stepped
  obtain ⟨topic, same | ⟨index, call, creation, rfl, held, added⟩⟩ := cache_shared moved
  · rw [commit_same same] at committed
    cases committed
    have edge : EdgeLinked { system.front.edge with shared := cache.shared } :=
      linked.edge.with_shared (by rw [same]; exact List.Subset.refl _)
    exact linked.with_edge edge same topic rfl founded
  · have isNew : cache.shared.sites ≠ system.front.edge.shared.sites := by
      rw [added]
      exact fun same => by simpa [System.cache] using congrArg List.length same
    have creates : system.creations[index]? = some creation := held
    simp only [System.commit, if_neg isNew, creates, Option.bind_some, Option.bind_eq_some_iff] at committed
    obtain ⟨details, -, created⟩ := committed
    cases created
    have keeps : ∀ slug, KnownSlug system.back.pipeline.db slug → KnownSlug (IngestPipeline.createSite creation.slug
        details.name details.timezone details.emissionLimit system.back.pipeline.db) slug := by
      rintro slug ⟨site, member, same⟩
      exact ⟨site, IngestPipeline.createSite_grows _ _ _ _ _ member, same⟩
    refine ⟨linked.edge.with_shared ?_, ?_, ?_, ?_, linked.recorded, founded⟩
    · rw [added]
      exact List.subset_append_left _ _
    · simp only [System.withCache, added]
      refine List.forall_mem_append.mpr ⟨fun slug member => keeps slug (linked.sites slug member), ?_⟩
      exact List.forall_mem_singleton.mpr (knownSlug_createSite _ _ _ _ _)
    · simp only [System.withCache]
      rw [show cache.shared.topic = system.front.edge.shared.topic from topic]
      exact fun sent member => ⟨(linked.sent sent member).1, keeps _ (linked.sent sent member).2⟩
    · simp only [System.withCache]
      rw [show cache.shared.topic = system.front.edge.shared.topic from topic]
      exact linked.logs

/-- The consumers record every message. -/
theorem linked_of_back {own : MessageAccounts.Action} (linked : Linked world system) (founded : Founded world next)
    (stepped : step world system (.back own) = some next) : Linked world next := by
  obtain ⟨noSite, consumes, back, moved, rfl⟩ := step_back stepped
  have joined : back.group.topic = system.back.group.topic → back.pipeline.db.sites = system.back.pipeline.db.sites →
      (∀ entry ∈ back.accounts, entry.account = .recorded) → Linked world { system with back } := by
    intro topic sites recorded
    refine ⟨linked.edge, ?_, ?_, ?_, recorded, founded⟩
    · simp only [KnownSlug, sites]
      exact linked.sites
    · simp only [KnownSlug, sites]
      exact linked.sent
    · simp only [ConsumerGroup.Group.log, topic]
      exact linked.logs
  have grouped :
      ∀ {alone : ConsumerGroup.Action KafkaMessage}, (∀ partition message, alone ≠ .produce partition message) →
      system.back.grouped alone = some back → Linked world { system with back } := by
    intro alone quiet stepped
    obtain ⟨group, pipeline, accounts, -⟩ := grouped_spec linked.founded.accountable stepped
    exact joined (group_topic group quiet) (by rw [pipeline]) (by rw [accounts]; exact linked.recorded)
  cases own with
  | createSite slug name timezone emissionLimit => exact absurd rfl (noSite slug name timezone emissionLimit)
  | produce partition message => exact absurd rfl (consumes partition message)
  | start =>
    cases moved
    exact joined rfl rfl linked.recorded
  | crash consumer => exact grouped (fun _ _ same => by cases same) moved
  | position consumer partition => exact grouped (fun _ _ same => by cases same) moved
  | revoke consumer partition => exact grouped (fun _ _ same => by cases same) moved
  | consume index call resolves =>
    obtain ⟨_, _, _, _, _, ending, _, _, _, _, _, group, _, _⟩ := MessageAccounts.step_consume moved
    obtain ⟨partition, offset, message, outcome, isAt, -, -, sites, -, -, accounts⟩ :=
      consume_spec linked.founded.accountable moved
    refine joined (group_topic group fun _ _ same => by cases same) sites ?_
    rcases accounts with ⟨-, kept⟩ | ⟨-, added⟩
    · rw [kept]
      exact linked.recorded
    · obtain ⟨sent, member, read⟩ := linked.sent_of_at isAt
      have known : ∃ site ∈ system.back.pipeline.db.sites.rows, site.slug = sent.2.siteSlug :=
        (linked.sent sent member).2
      rw [added]
      refine List.forall_mem_append.mpr ⟨linked.recorded, List.forall_mem_singleton.mpr ?_⟩
      simp only [accountOf, read, if_pos known]

/-- The relays leave the sites alone. -/
theorem linked_of_relay {turn : Turn} (linked : Linked world system) (founded : Founded world next)
    (stepped : step world system (.relay turn) = some next) : Linked world next := by
  obtain ⟨relays, moved, rfl⟩ := step_relay stepped
  have sites : relays.pipeline.db.sites = system.back.pipeline.db.sites :=
    (step_draining linked.founded.relays moved).2.sites
  refine ⟨linked.edge, ?_, ?_, linked.logs, linked.recorded, founded⟩
  · simp only [System.withRelays, KnownSlug, sites]
    exact linked.sites
  · simp only [System.withRelays, KnownSlug, sites]
    exact linked.sent

theorem step_linked (linked : Linked world system) (keeps : KeepsWhole world system action)
    (stepped : step world system action = some next) (carried : Carried world next) : Linked world next := by
  have founded := step_founded linked.founded stepped
  cases action with
  | front own => exact linked_of_front linked founded keeps stepped carried
  | post body => exact linked_of_post linked founded stepped
  | createSite slug details =>
    cases stepped
    exact linked.with_edge linked.edge rfl rfl rfl founded
  | cache own => exact linked_of_cache linked founded stepped
  | back own => exact linked_of_back linked founded stepped
  | relay turn => exact linked_of_relay linked founded stepped

/-! ## What is stored under the id of a batch -/

/-- The readings stored under a batch id, in whatever case. -/
def storedUnder (db : Database) (batchId : String) : List Reading :=
  (readings db).filter fun reading => Uuid.ofText batchId = some reading.batchId

/-- The readings of a batch: one for each measurement, with its point, instant and
value, at the batch's site. -/
def ReadingsOf (db : Database) (payload : IngestBatchInput) (proposed : List Reading) : Prop :=
  ∃ batch, Uuid.ofText payload.batchId = some batch ∧ ∃ site ∈ db.sites.rows, site.slug = payload.siteSlug ∧
    List.Forall₂ (fun m reading => readingOf site.id batch m = some reading) payload.measurements proposed

/-- The batch is stored whole: all its readings, the first of each point and
instant, and nothing else under its id. -/
def StoredWhole (db : Database) (payload : IngestBatchInput) : Prop :=
  ∃ proposed, ReadingsOf db payload proposed ∧ storedUnder db payload.batchId = admitted Reading.key [] proposed

/-- The message of an account is the batch's. -/
def IsAccountOf (world : World) (system : System) (payload : IngestBatchInput) (entry : MessageAccounts.Entry) :
    Prop :=
  ∃ message receivedAtMs, At system.back.group entry.partition entry.offset message ∧
    readMessage world.parse message = some { payload with receivedAtMs }

/-- A call of `processMessage` on a message of the batch has returned. -/
def Accounted (world : World) (system : System) (payload : IngestBatchInput) : Prop :=
  ∃ entry ∈ system.back.accounts, IsAccountOf world system payload entry

/-- Whatever was sent under the batch's id, in whatever case, is the batch. -/
def OnlyPayload (system : System) (payload : IngestBatchInput) : Prop :=
  ∀ sent ∈ system.front.edge.shared.topic,
    Uuid.ofText sent.2.batchId = Uuid.ofText payload.batchId → sent.2.toIngestBatchInput = payload

/-- Of an accepted batch of a known site, every measurement is submitted. -/
theorem readingsOf_submitted {db : Database} {receivedAtMs : Int} (accepts : Accepted payload)
    (known : KnownSlug db payload.siteSlug) :
    ReadingsOf db payload (submitted db.sites { payload with receivedAtMs }) := by
  obtain ⟨site, member, slug⟩ := known
  have valid : ValidMessage { payload with receivedAtMs := 1 } :=
    kafkaMessage_valid (Notifications.kafkaValue_accepted accepts Int.one_pos)
  obtain ⟨batch, isBatch⟩ : ∃ batch, Uuid.ofText payload.batchId = some batch := ⟨_, if_pos accepts.uuid⟩
  have each : ∀ m ∈ payload.measurements, ∃ reading, readingOf site.id batch m = some reading := by
    intro m inside
    obtain ⟨value, reads⟩ := Numeric.ofText_of_regex (valid.values m inside)
    exact ⟨_, by rw [readingOf, reads, Option.map_some]⟩
  obtain ⟨proposed, read⟩ := Fallible.exists_rights each
  have submits :
      submitted db.sites { payload with receivedAtMs } = payload.measurements.filterMap (readingOf site.id batch) :=
    submitted_of_site member slug isBatch
  rw [submits, Fallible.filterMap_of_forall₂ read]
  exact ⟨batch, isBatch, site, member, slug, read⟩

/-- What an account adds under an id: its batch, or nothing. -/
theorem filter_submits (linked : Linked world system) (only : OnlyPayload system payload)
    {entry : MessageAccounts.Entry} (member : entry ∈ system.back.accounts) :
    IsAccountOf world system payload entry ∧ KnownSlug system.back.pipeline.db payload.siteSlug ∧
      Accepted payload ∧ (entry.submits world.parse system.back).filter
        (fun reading => Uuid.ofText payload.batchId = some reading.batchId) =
          submitted system.back.pipeline.db.sites { payload with receivedAtMs := 0 } ∨
      ¬IsAccountOf world system payload entry ∧ (entry.submits world.parse system.back).filter
        (fun reading => Uuid.ofText payload.batchId = some reading.batchId) = [] := by
  have right := linked.founded.accountable.right entry member
  have recorded := linked.recorded entry member
  cases right with
  | unreadable => cases recorded
  | unknownSite => cases recorded
  | recorded message isAt kafkaMsg read known held =>
    obtain ⟨sent, inTopic, readSent⟩ := linked.sent_of_at isAt
    obtain rfl : kafkaMsg = sent.2 := Option.some.inj (read.symm.trans readSent)
    obtain ⟨accepts, knownSlug⟩ := linked.sent sent inTopic
    rw [Entry.submits_recorded isAt read]
    by_cases same : Uuid.ofText sent.2.batchId = Uuid.ofText payload.batchId
    · obtain rfl := only sent inTopic same
      refine Or.inl ⟨⟨message, sent.2.receivedAtMs, isAt, readSent⟩, knownSlug, accepts, ?_⟩
      exact List.filter_eq_self.mpr fun reading inside => decide_eq_true (mem_submitted inside).2.1
    · refine Or.inr ⟨?_, List.filter_eq_nil_iff.mpr fun reading inside => ?_⟩
      · rintro ⟨other, receivedAtMs, otherAt, otherRead⟩
        cases Option.some.inj (isAt.symm.trans otherAt)
        have whole := Option.some.inj (readSent.symm.trans otherRead)
        exact same (by rw [whole])
      · have ofSent := (mem_submitted inside).2.1
        simp only [decide_eq_true_eq]
        exact fun ofPayload => same (ofSent.trans ofPayload.symm)

/-- The ledger under one id. -/
theorem storedUnder_eq (linked : Linked world system) (batchId : String) :
    storedUnder system.back.pipeline.db batchId = insertAll Reading.key [] (system.back.accounts.map fun entry =>
      (entry.submits world.parse system.back).filter fun reading => Uuid.ofText batchId = some reading.batchId) := by
  rw [storedUnder, show readings system.back.pipeline.db = _ from linked.founded.ledger]
  have selected := @filter_insertAll _ _ _ Reading.key []
    (system.back.accounts.map (MessageAccounts.Entry.submits world.parse system.back))
    fun key => decide (Uuid.ofText batchId = some key.1)
  rw [List.map_map] at selected
  exact selected

/-- A batch with an account is stored whole, and of one without nothing is. -/
theorem stored_cases (linked : Linked world system) (only : OnlyPayload system payload) :
    (Accounted world system payload → StoredWhole system.back.pipeline.db payload) ∧
      (¬Accounted world system payload → storedUnder system.back.pipeline.db payload.batchId = []) := by
  have ledger := storedUnder_eq linked payload.batchId
  constructor
  · rintro ⟨entry, member, isAccount⟩
    obtain ⟨-, known, accepts, -⟩ := (filter_submits linked only member).resolve_right fun other => other.1 isAccount
    have whole : ReadingsOf system.back.pipeline.db payload
        (submitted system.back.pipeline.db.sites { payload with receivedAtMs := 0 }) :=
      readingsOf_submitted accepts known
    refine ⟨_, whole, ledger.trans (insertAll_replayed (fun batch inside => ?_) ?_)⟩
    · obtain ⟨other, otherMember, rfl⟩ := List.mem_map.mp inside
      rcases filter_submits linked only otherMember with ⟨-, -, -, whole⟩ | ⟨-, nothing⟩
      · exact Or.inr whole
      · exact Or.inl nothing
    · rcases filter_submits linked only member with ⟨-, -, -, whole⟩ | ⟨none, -⟩
      · exact List.mem_map.mpr ⟨entry, member, whole⟩
      · exact absurd isAccount none
  · intro unaccounted
    rw [ledger]
    refine insertAll_covered fun batch inside reading held => ?_
    obtain ⟨entry, member, rfl⟩ := List.mem_map.mp inside
    rcases filter_submits linked only member with ⟨isAccount, -⟩ | ⟨-, nothing⟩
    · exact absurd ⟨entry, member, isAccount⟩ unaccounted
    · rw [nothing] at held
      cases held

/-! ## What brings a batch through -/

theorem step_promised (promise : PromiseKept system.front.edge) (through : BringsThrough system action)
    (stepped : step world system action = some next) : PromiseKept next.front.edge := by
  rcases front_cases stepped with ⟨own, moved, source⟩ | ⟨shared, same, topic⟩
  · refine step_promise promise (fun edgeOwn isOwn => ?_) moved
    rcases source with ⟨rfl, -⟩ | ⟨body, batch, -, rfl, -⟩
    · subst isOwn
      exact through
    · cases isOwn
  · rw [same]
    intro siteSlug batchId acknowledged
    refine (promise siteSlug batchId acknowledged).imp (fun stored => ?_) id
    simpa only [IngestEdge.InTopic, topic] using stored

theorem step_passes (linked : Linked world system) (complete : Complete system.back)
    (through : BringsThrough system action) (stepped : step world system action = some next) : Complete next.back := by
  rcases back_cases stepped with ⟨same | ⟨own, moved, source⟩, -⟩ | ⟨turn, rfl⟩
  · rw [same]
    exact complete
  · have allowed : TakesOverAccounted system.back own := by
      rcases source with rfl | other
      · exact through
      · cases own with
        | position consumer partition => exact absurd rfl (other consumer partition)
        | createSite | produce | start | crash | revoke | consume => trivial
    exact step_complete linked.founded.accountable complete allowed moved
  · obtain ⟨relays, -, rfl⟩ := step_relay stepped
    exact complete

/-! ## Whole runs -/

theorem initial_founded (world : World) (partitions : Nat) : Founded world (initial partitions) :=
  ⟨initial_accountable _ _, rfl, initial_draining⟩

theorem initial_linked (world : World) (partitions : Nat) : Linked world (initial partitions) := by
  refine ⟨⟨List.forall_mem_nil _, List.forall_mem_nil _⟩, List.forall_mem_nil _, List.forall_mem_nil _,
    fun partition => ?_,
    List.forall_mem_nil _, initial_founded world partitions⟩
  have empty : (initial partitions).back.group.log partition = [] := by
    simp only [initial, MessageAccounts.initial, ConsumerGroup.initial, ConsumerGroup.Group.log,
      List.getD_eq_getElem?_getD, List.getElem?_replicate]
    split <;> rfl
  rw [empty]
  rfl

/-- A message that is in the topic stays there. -/
theorem topic_grows (stepped : step world system action = some next) :
    system.front.edge.shared.topic ⊆ next.front.edge.shared.topic := by
  rcases front_cases stepped with ⟨own, moved, -⟩ | ⟨shared, same, topic⟩
  · have alone : ∀ {edgeOwn : IngestEdge.Action}, IngestEdge.step system.front.edge edgeOwn = some next.front.edge →
        system.front.edge.shared.topic ⊆ next.front.edge.shared.topic := by
      intro edgeOwn advanced
      rcases edge_topic advanced with ⟨_, _, _, _, _, _, appended⟩ | ⟨-, kept⟩
      · rw [appended]
        exact List.subset_append_left _ _
      · rw [kept]
        exact List.Subset.refl _
    rcases edge_cases moved with kept | ⟨_, received, -⟩ | ⟨_, -, -, advanced⟩
    · rw [kept]
      exact List.Subset.refl _
    · exact alone received
    · exact alone advanced
  · rw [same, topic]
    exact List.Subset.refl _

theorem carried_reflects (stepped : step world system action = some next) (carried : Carried world next) :
    Carried world system := fun sent member => carried sent (topic_grows stepped member)

theorem run_linked {partitions : Nat} (keeps : StepsMeet (step world) (KeepsWhole world) (initial partitions) actions)
    (ran : run (step world) (initial partitions) actions = some system) (carried : Carried world system) :
    Linked world system :=
  run_invariant_of_finish (Linked world) (Carried world) carried_reflects
    (fun linked keeps stepped carried => step_linked linked keeps stepped carried)
    (initial_linked world partitions) keeps
    ran carried

/-- What all pages and clients keep of the ids they use. -/
theorem run_pages {partitions : Nat}
    (fresh : Function.Injective fun place : Nat × Nat => caseless ((world.browser place.1).randomUUID place.2))
    (apart : ∀ action ∈ actions, Apart world action)
    (keeps : StepsMeet (step world) (KeepsWhole world) (initial partitions) actions)
    (ran : run (step world) (initial partitions) actions = some system) :
    Sound world.browser system.front ∧ OnePayloads system.front ∧ Foreign caseless world.browser system.front := by
  have pages : ∀ page, Function.Injective (world.browser page).randomUUID := by
    intro page first second same
    have equal : (page, first) = (page, second) := fresh (congrArg caseless same)
    exact (Prod.mk.inj equal).2
  have start := FormDelivery.initial_sound world.browser [] []
  have one : Sound world.browser system.front ∧ OnePayloads system.front :=
    run_invariant_of_steps (fun system : System => Sound world.browser system.front ∧ OnePayloads system.front)
      (fun holds keeps stepped => ⟨step_sound pages holds.1 stepped, step_one holds.1 holds.2 keeps stepped⟩)
      ⟨start, fun _ _ held => by simp [initial, FormDelivery.initial] at held⟩ keeps ran
  have foreign : Sound world.browser system.front ∧ Foreign caseless world.browser system.front :=
    run_invariant_of_kind (Apart world)
      (fun system : System => Sound world.browser system.front ∧ Foreign caseless world.browser system.front)
      (fun holds apart stepped => ⟨step_sound pages holds.1 stepped, step_others holds.1 holds.2 apart stepped⟩) apart
      ⟨start, initial_foreign caseless world.browser [] []⟩ ran
  exact ⟨one.1, one.2, foreign.2⟩

theorem caseless_of_uuid {first second : String} (readable : ∃ uuid, Uuid.ofText second = some uuid)
    (same : Uuid.ofText first = Uuid.ofText second) : caseless first = caseless second := by
  obtain ⟨uuid, read⟩ := readable
  rw [read] at same
  have text : ∀ {text : String}, Uuid.ofText text = some uuid → caseless text = uuid.text := by
    intro text read
    obtain ⟨-, same⟩ := Option.ite_none_right_eq_some.mp read
    cases same
    rfl
  rw [text same, text read]

/-- Whatever the database would file under a page's id is what the page sent. -/
theorem only_payload
    (fresh : Function.Injective fun place : Nat × Nat => caseless ((world.browser place.1).randomUUID place.2))
    (sound : Sound world.browser system.front) (one : OnePayloads system.front)
    (foreign : Foreign caseless world.browser system.front) (held : system.front.pages[index]? = some form)
    (isSent : payload ∈ form.sent) : OnlyPayload system payload := by
  intro sent member same
  have uuid := ((sound.pages index form held).accepted payload isSent).uuid
  exact message_of_payload fresh sound one foreign held isSent member (caseless_of_uuid ⟨_, if_pos uuid⟩ same)

/-- What a banner of success stands for: a message of the batch, which has an
account once a consumer has moved past it. -/
theorem shown_success_is_accounted {partitions : Nat}
    (fresh : Function.Injective fun place : Nat × Nat => caseless ((world.browser place.1).randomUUID place.2))
    (apart : ∀ action ∈ actions, Apart world action)
    (keeps : StepsMeet (step world) (KeepsWhole world) (initial partitions) actions)
    (through : StepsMeet (step world) BringsThrough (initial partitions) actions)
    (ran : run (step world) (initial partitions) actions = some system) (carried : Carried world system)
    (quiet : Quiet system.front.edge) (held : system.front.pages[index]? = some form) {count : Int}
    (shown : form.status = .success batchId count) :
    ∃ payload ∈ form.sent, payload.batchId = batchId ∧ payload.measurements.length = count ∧
      ∃ partition offset message receivedAtMs, At system.back.group partition offset message ∧
        readMessage world.parse message = some { payload with receivedAtMs } ∧
          (Passed system.back.group partition offset → Accounted world system payload) := by
  obtain ⟨sound, one, foreign⟩ := run_pages fresh apart keeps ran
  have brought : Linked world system ∧ PromiseKept system.front.edge ∧ Complete system.back :=
    run_invariant_of_finish
      (fun system : System => Linked world system ∧ PromiseKept system.front.edge ∧ Complete system.back)
      (Carried world)
      carried_reflects
      (fun holds allowed stepped carried => ⟨step_linked holds.1 allowed.1 stepped carried,
        step_promised holds.2.1 allowed.2 stepped, step_passes holds.1 holds.2.2 allowed.2 stepped⟩)
      ⟨initial_linked world partitions, (initial_kept [] []).edge, initial_complete _⟩ (keeps.and through) ran carried
  obtain ⟨linked, promised, complete⟩ := brought
  obtain ⟨payload, isSent, sameId, sameCount, told⟩ := (sound.pages index form held).shown batchId count shown
  obtain ⟨sent, member, -, ofBatch⟩ := IngestEdge.nothing_lost_of_kept promised quiet _ _ told
  obtain rfl := only_payload fresh sound one foreign held isSent sent member (by rw [ofBatch, sameId])
  obtain ⟨offset, message, isAt, read⟩ := linked.at_of_sent member
  refine ⟨_, isSent, sameId, sameCount, _, offset, message, sent.2.receivedAtMs, isAt, read, ?_⟩
  rintro ⟨ends, joined, appended, session, running, ofPartition, behind⟩
  rw [← ofPartition] at appended isAt
  obtain ⟨entry, isEntry, samePartition, sameOffset⟩ := complete ends joined session running offset behind appended
  refine ⟨entry, isEntry, message, sent.2.receivedAtMs, ?_, read⟩
  rw [samePartition, sameOffset]
  exact isAt

/-- **Whatever a page sends is stored whole, once, or not at all.** In every run
of the whole platform, whoever retries, crashes or reads a message again: a
batch of which some message has an account is stored with all its readings and
nothing else under its id, and of any other nothing is stored; and no account
says that a message was turned away. -/
theorem batches_are_stored_whole_and_once {partitions : Nat}
    (fresh : Function.Injective fun place : Nat × Nat => caseless ((world.browser place.1).randomUUID place.2))
    (apart : ∀ action ∈ actions, Apart world action)
    (keeps : StepsMeet (step world) (KeepsWhole world) (initial partitions) actions)
    (ran : run (step world) (initial partitions) actions = some system) (carried : Carried world system)
    (held : system.front.pages[index]? = some form) (isSent : payload ∈ form.sent) :
    (Accounted world system payload → StoredWhole system.back.pipeline.db payload) ∧
      (¬Accounted world system payload → storedUnder system.back.pipeline.db payload.batchId = []) ∧
        ∀ entry ∈ system.back.accounts, entry.account = .recorded := by
  have linked := run_linked keeps ran carried
  obtain ⟨sound, one, foreign⟩ := run_pages fresh apart keeps ran
  obtain ⟨whole, nothing⟩ := stored_cases linked (only_payload fresh sound one foreign held isSent)
  exact ⟨whole, nothing, linked.recorded⟩

/-- **A success that is shown reaches the database.** Where a page shows a batch
as queued and no request is under way, the batch is what the page sent, with that
many readings; a message of it is in some partition; and once a consumer has
moved past that message, the batch is stored whole. -/
theorem shown_success_reaches_the_database {partitions : Nat}
    (fresh : Function.Injective fun place : Nat × Nat => caseless ((world.browser place.1).randomUUID place.2))
    (apart : ∀ action ∈ actions, Apart world action)
    (keeps : StepsMeet (step world) (KeepsWhole world) (initial partitions) actions)
    (through : StepsMeet (step world) BringsThrough (initial partitions) actions)
    (ran : run (step world) (initial partitions) actions = some system) (carried : Carried world system)
    (quiet : Quiet system.front.edge) (held : system.front.pages[index]? = some form) {count : Int}
    (shown : form.status = .success batchId count) :
    ∃ payload ∈ form.sent, payload.batchId = batchId ∧ payload.measurements.length = count ∧
      ∃ partition offset message receivedAtMs, At system.back.group partition offset message ∧
        readMessage world.parse message = some { payload with receivedAtMs } ∧
          (Passed system.back.group partition offset → StoredWhole system.back.pipeline.db payload) := by
  have linked := run_linked keeps ran carried
  obtain ⟨sound, one, foreign⟩ := run_pages fresh apart keeps ran
  obtain ⟨payload, isSent, sameId, sameCount, partition, offset, message, receivedAtMs, isAt, read, accounted⟩ :=
    shown_success_is_accounted fresh apart keeps through ran carried quiet held shown
  have whole := (stored_cases linked (only_payload fresh sound one foreign held isSent)).1
  exact ⟨payload, isSent, sameId, sameCount, partition, offset, message, receivedAtMs, isAt, read,
    fun passed => whole (accounted passed)⟩

private theorem toLower_of_digit {digit : Char} (isDigit : digit.isDigit = true) : digit.toLower = digit := by
  simp only [Char.isDigit, Bool.and_eq_true, decide_eq_true_eq] at isDigit
  unfold Char.toLower
  split
  · rename_i upper
    exact absurd (UInt32.le_trans upper.1 isDigit.2) (by decide)
  · rfl

private theorem caseless_tab (page drawn : Nat) :
    caseless ((tab page).randomUUID drawn) = (tab page).randomUUID drawn := by
  have digits : ∀ value : Nat, (toString value).toList.map Char.toLower = (toString value).toList := by
    intro value
    rw [List.map_congr_left fun digit member => toLower_of_digit (DecimalText.toList_repr_digits member), List.map_id']
  have opening : "3f2a6c1e-8d4b-4c7a-9e5".toList.map Char.toLower = "3f2a6c1e-8d4b-4c7a-9e5".toList := by decide
  have closing : "-0b6d2f7a8c9".toList.map Char.toLower = "-0b6d2f7a8c9".toList := by decide
  apply String.toList_injective
  rw [show (tab page).randomUUID drawn =
    "3f2a6c1e-8d4b-4c7a-9e5" ++ (toString page ++ ("-0b6d2f7a8c9" ++ toString drawn)) from rfl, caseless,
    String.toList_ofList, String.toList_append, String.toList_append, String.toList_append, List.map_append,
    List.map_append, List.map_append, opening, digits, closing, digits]

def typedIn : IngestBatchInput :=
  ⟨"3f2a6c1e-8d4b-4c7a-9e50-0b6d2f7a8c90", "north-plant", [⟨"stack-1", 1704067200000, "1.5"⟩]⟩

private def messageText : String :=
  "\x7b\"batch_id\":\"3f2a6c1e-8d4b-4c7a-9e50-0b6d2f7a8c90\",\"site_slug\":\"north-plant\"," ++
    "\"measurements\":[\x7b\"emission_point\":\"stack-1\",\"recorded_at_ms\":1704067200000," ++
      "\"value_kg_co2e\":\"1.5\"\x7d],\"received_at_ms\":1704067201000\x7d"

def messageBytes : List UInt8 := messageText.toList.map fun character => UInt8.ofNat character.toNat

private def batchesOfFifty : Relay.Config := ⟨50, 10, 2000000, 300000000⟩

/-- One message is written and read. -/
def oneMessage : World where
  browser := tab
  runtime := .exactUtc
  topic := "emissions.ingest.v1"
  partitionOf _ := 0
  relays := ⟨batchesOfFifty, batchesOfFifty, ⟨batchesOfFifty, fun startedAt => startedAt + 31536000000000⟩⟩
  encode _ := messageBytes
  parse bytes := if bytes = messageBytes then some (kafkaValue typedIn 1704067201000) else none

private def typedRow : String := (tab 0).randomUUID 1

def prepared : List Action :=
  [.createSite "north-plant" ⟨"North plant", "Africa/Abidjan", Numeric.zero⟩, .cache (.advance 0 .replied),
    .cache (.advance 0 .replied), .cache (.advance 0 .replied), .back .start, .back (.position 0 0), .front .mount,
    .front (.page 0 (.sitesLoaded (some ["north-plant"]))),
    .front (.page 0 (.updateRow typedRow .emissionPoint "stack-1")),
    .front (.page 0 (.updateRow typedRow .recordedAtLocal "2024-01-01T00:00")),
    .front (.page 0 (.updateRow typedRow .valueKgCo2e "1.5"))]

/-- The first reply is lost, the retry is a duplicate, and the first consumer dies
before it resolves what it has stored. -/
def retriedAndTakenOver : List Action :=
  prepared ++ [.front (.page 0 .submitBatch), .front (.arrive 0 0 (some "req-1")),
    .front (.edge (.advance 0 (.siteCheck .replied .replied))), .front (.edge (.advance 0 (.batchDedupe .replied))),
    .front (.edge (.advance 0 (.send true 1704067201000))), .front (.fail 0 0 (.unreachable "Failed to fetch")),
    .front (.page 0 .retry), .front (.arrive 0 1 (some "req-2")),
    .front (.edge (.advance 1 (.siteCheck .replied .replied))), .front (.edge (.advance 1 (.batchDedupe .replied))),
    .front (.answer 1 (some "req-2") none), .back (.consume 0 (.healthy 1704067203000 1704067203000) false),
    .back (.crash 0), .back .start, .back (.position 1 0)]

private theorem retriedAndTakenOver_ran :
    ∃ system ∈ run (step oneMessage) (initial 1) retriedAndTakenOver, ∃ form ∈ system.front.pages[0]?,
      (form.sent = [typedIn, typedIn] ∧ form.status = .success typedIn.batchId 1) ∧
        system.front.edge.shared.topic = [("north-plant", { typedIn with receivedAtMs := 1704067201000 })] ∧
          (∀ request ∈ system.front.edge.requests, request.IsAcknowledged) ∧
            system.back.group.topic = [[⟨some messageBytes, "0"⟩]] ∧ system.back.accounts = [⟨0, 0, .recorded⟩] ∧
              Passed system.back.group 0 0 := by decide +kernel

theorem oneMessage_fresh :
    Function.Injective fun place : Nat × Nat => caseless ((oneMessage.browser place.1).randomUUID place.2) := by
  intro first second same
  simp only [oneMessage, caseless_tab] at same
  exact tab_fresh same

private theorem retriedAndTakenOver_apart : ∀ action ∈ retriedAndTakenOver, Apart oneMessage action := by
  simp [retriedAndTakenOver, prepared, Apart]

private theorem retriedAndTakenOver_keeps :
    StepsMeet (step oneMessage) (KeepsWhole oneMessage) (initial 1) retriedAndTakenOver := by decide +kernel

theorem oneMessage_encode (value : Json) : oneMessage.encode value = messageBytes := by
  rw [oneMessage]

theorem oneMessage_carried (topic : system.front.edge.shared.topic =
    [("north-plant", { typedIn with receivedAtMs := 1704067201000 })]) : Carried oneMessage system := by
  have parsed : oneMessage.parse messageBytes = some (kafkaValue typedIn 1704067201000) := by
    simp only [oneMessage, ↓reduceIte]
  rw [Carried, topic]
  refine List.forall_mem_singleton.mpr ⟨by decide, ?_⟩
  rw [oneMessage_encode]
  exact parsed

/-- The one message of the topic, once it has an account. -/
theorem oneMessage_accounted (topic : system.front.edge.shared.topic =
    [("north-plant", { typedIn with receivedAtMs := 1704067201000 })])
    (logs : system.back.group.topic = [[⟨some messageBytes, "0"⟩]])
    (accounts : system.back.accounts = [⟨0, 0, .recorded⟩]) :
    Accounted oneMessage system typedIn := by
  have carries : Carries oneMessage { typedIn with receivedAtMs := 1704067201000 } :=
    oneMessage_carried topic _ (topic ▸ List.mem_singleton_self _)
  have appended : kafkaMessage oneMessage typedIn 1704067201000 0 = ⟨some messageBytes, "0"⟩ := by
    rw [kafkaMessage, oneMessage_encode]
    rfl
  have read := read_kafkaMessage (by rfl) carries 0
  rw [appended] at read
  refine ⟨⟨0, 0, .recorded⟩, accounts ▸ List.mem_singleton_self _, _, _, ?_, read⟩
  rw [At, ConsumerGroup.Group.log, logs]
  rfl

theorem oneMessage_at {partition offset : Nat} {message : KafkaMessage}
    (logs : system.back.group.topic = [[⟨some messageBytes, "0"⟩]])
    (isAt : At system.back.group partition offset message) : partition = 0 ∧ offset = 0 := by
  rw [At, ConsumerGroup.Group.log, logs] at isAt
  cases partition with
  | succ partition => cases isAt
  | zero =>
    cases offset with
    | succ offset => cases isAt
    | zero => exact ⟨rfl, rfl⟩

theorem retried_batch_is_stored_once :
    ∃ system form, run (step oneMessage) (initial 1) retriedAndTakenOver = some system ∧
      system.front.pages[0]? = some form ∧ form.sent = [typedIn, typedIn] ∧
        StoredWhole system.back.pipeline.db typedIn := by
  obtain ⟨system, ran, form, held, ⟨sent, -⟩, topic, -, logs, accounts, -⟩ := retriedAndTakenOver_ran
  have isSent : typedIn ∈ form.sent := sent ▸ List.mem_cons_self
  obtain ⟨whole, -, -⟩ := batches_are_stored_whole_and_once oneMessage_fresh retriedAndTakenOver_apart
    retriedAndTakenOver_keeps ran (oneMessage_carried topic) held isSent
  exact ⟨system, form, ran, held, sent, whole (oneMessage_accounted topic logs accounts)⟩

theorem retried_success_is_stored :
    ∃ system form, run (step oneMessage) (initial 1) retriedAndTakenOver = some system ∧
      system.front.pages[0]? = some form ∧ form.status = .success typedIn.batchId 1 ∧
        ∃ payload ∈ form.sent, StoredWhole system.back.pipeline.db payload := by
  obtain ⟨system, ran, form, held, ⟨-, shown⟩, topic, acknowledged, logs, -, passed⟩ := retriedAndTakenOver_ran
  have quiet : Quiet system.front.edge := fun request member => ⟨_, acknowledged request member⟩
  obtain ⟨payload, isSent, -, -, partition, offset, message, -, isAt, -, whole⟩ :=
    shown_success_reaches_the_database oneMessage_fresh retriedAndTakenOver_apart retriedAndTakenOver_keeps
      (by decide +kernel) ran (oneMessage_carried topic) quiet held shown
  obtain ⟨rfl, rfl⟩ := oneMessage_at logs isAt
  exact ⟨system, form, ran, held, shown, payload, isSent, whole passed⟩

end EmissionsPlatform.EndToEnd
