import EmissionsPlatform.Contracts
import EmissionsPlatform.Foundation.Transition

/-! `POST /ingest`: site check, edge dedupe, produce, and the revert of the
dedupe entry when the produce fails (`IngestService`). Any number of requests
are in flight at once, and each of them moves by one call at a time, so a run
is an arbitrary interleaving of their Redis, database and Kafka calls.

`Acknowledged` and `Covered` are the two sides of the edge's promise: a batch
somebody was told is queued, and a batch whose message is in the topic or on
its way there. The dedupe entry is set before the produce and removed after it
fails, so another request can be acknowledged on the strength of an entry whose
message never comes. -/
namespace EmissionsPlatform.IngestEdge
open Contracts Transition
set_option autoImplicit false

/-- What the edge shares with the rest of the platform. -/
structure Shared where
  /-- The members of the Redis set `sites:valid`. -/
  sitesValid : List String
  /-- The fields of the dedupe hashes: hash key and field. -/
  dedupe : List (String × String)
  /-- The slugs in the `sites` table. -/
  sites : List String
  /-- The ingest topic: partition key and value of every message. -/
  topic : List (String × KafkaIngestMessage)
  deriving DecidableEq

/-- A call to another process: its reply arrives, or the call throws, the
command having run or not. -/
inductive Call
  | replied
  | threw (ran : Bool)
  deriving DecidableEq

/-- What the client is told. -/
inductive Answer
  /-- 202 with `status: "queued"`. -/
  | queued (batchId : String) (measurementsReceived : Nat)
  /-- 404: no site has this slug. -/
  | notFound (siteSlug : String)
  /-- 500: a call threw. -/
  | internal
  deriving DecidableEq

/-- Where a request is: before one of its calls, or answered. -/
inductive Stage
  | siteCheck
  | dedupe
  | produce
  | revert
  | answered (answer : Answer)
  deriving DecidableEq

structure Request where
  batch : IngestBatchInput
  stage : Stage
  deriving DecidableEq

/-- The next call of a request, with the outcomes left open by the code. -/
inductive Event
  /-- `SISMEMBER`, and the database lookup made when it throws. -/
  | siteCheck (sismember lookup : Call)
  | batchDedupe (call : Call)
  /-- `producer.send` at a clock time. A send that throws appends nothing. -/
  | send (succeeds : Bool) (receivedAtMs : Int)
  | hdel (call : Call)
  deriving DecidableEq

def dedupeKey (siteSlug : String) : String := "ingest:dedupe:" ++ siteSlug

/-- The Lua script: `HSETNX`, and whether it wrote. The `HEXPIRE` after it only
lets the field expire later. -/
def batchDedupeScript (dedupe : List (String × String)) (key field : String) :
    List (String × String) × Bool :=
  if (key, field) ∈ dedupe then (dedupe, false) else ((key, field) :: dedupe, true)

def accepted (batch : IngestBatchInput) : Answer := .queued batch.batchId batch.measurements.length

/-- `assertSiteValid`, with its circuit breaker. -/
def assertSiteValid (shared : Shared) (sismember lookup : Call) (siteSlug : String) : Stage :=
  match sismember with
  | .replied => if siteSlug ∈ shared.sitesValid then .dedupe else .answered (.notFound siteSlug)
  | .threw _ =>
    match lookup with
    | .replied => if siteSlug ∈ shared.sites then .dedupe else .answered (.notFound siteSlug)
    | .threw _ => .answered .internal

/-- One call of `ingest` and the code up to the next one. -/
def proceed (shared : Shared) (request : Request) : Event → Option (Shared × Stage)
  | .siteCheck sismember lookup =>
    if request.stage = .siteCheck then
      some (shared, assertSiteValid shared sismember lookup request.batch.siteSlug)
    else none
  | .batchDedupe call =>
    if request.stage = .dedupe then
      let script := batchDedupeScript shared.dedupe (dedupeKey request.batch.siteSlug)
        request.batch.batchId
      match call with
      | .replied => some ({ shared with dedupe := script.1 },
          if script.2 then .produce else .answered (accepted request.batch))
      -- Redis failed: treated as first sight, so that nothing is silently dropped.
      | .threw ran => some (if ran then { shared with dedupe := script.1 } else shared, .produce)
    else none
  | .send succeeds receivedAtMs =>
    if request.stage = .produce then
      if succeeds then
        some ({ shared with topic := shared.topic ++
            [(request.batch.siteSlug, { request.batch with receivedAtMs })] },
          .answered (accepted request.batch))
      else some (shared, .revert)
    else none
  | .hdel call =>
    if request.stage = .revert then
      let reverted := { shared with
        dedupe := shared.dedupe.filter
          (· ≠ (dedupeKey request.batch.siteSlug, request.batch.batchId)) }
      some (if call = .threw false then shared else reverted, .answered .internal)
    else none

/-- The edge: what its processes share and every request so far. -/
structure Edge where
  shared : Shared
  requests : List Request
  deriving DecidableEq

inductive Action
  | receive (batch : IngestBatchInput)
  | advance (index : Nat) (event : Event)
  /-- A dedupe field reaches its time to live. -/
  | expire (siteSlug batchId : String)
  deriving DecidableEq

def step (edge : Edge) : Action → Option Edge
  | .receive batch => some { edge with requests := edge.requests ++ [⟨batch, .siteCheck⟩] }
  | .advance index event =>
    match edge.requests[index]? with
    | none => none
    | some request =>
      match proceed edge.shared request event with
      | none => none
      | some (shared, stage) => some ⟨shared, edge.requests.set index { request with stage }⟩
  | .expire siteSlug batchId =>
    some { edge with shared := { edge.shared with
      dedupe := edge.shared.dedupe.filter (· ≠ (dedupeKey siteSlug, batchId)) } }

/-- No request yet, an empty topic and no dedupe entry. -/
def initial (sitesValid sites : List String) : Edge := ⟨⟨sitesValid, [], sites, []⟩, []⟩

/-- The request was answered 202. -/
def Request.IsAcknowledged (request : Request) : Prop :=
  request.stage = .answered (accepted request.batch)

instance (request : Request) : Decidable request.IsAcknowledged :=
  inferInstanceAs (Decidable (_ = _))

/-- The request is for this batch of this site. -/
def Request.IsFor (request : Request) (siteSlug batchId : String) : Prop :=
  request.batch.siteSlug = siteSlug ∧ request.batch.batchId = batchId

instance (request : Request) (siteSlug batchId : String) : Decidable (request.IsFor siteSlug batchId) :=
  inferInstanceAs (Decidable (_ ∧ _))

/-- Somebody was told that the batch is queued. -/
def Acknowledged (edge : Edge) (siteSlug batchId : String) : Prop :=
  ∃ request ∈ edge.requests, request.IsFor siteSlug batchId ∧ request.IsAcknowledged

instance (edge : Edge) (siteSlug batchId : String) : Decidable (Acknowledged edge siteSlug batchId) :=
  List.decidableBEx _ _

/-- The topic holds a message of the batch. -/
def InTopic (shared : Shared) (siteSlug batchId : String) : Prop :=
  ∃ message ∈ shared.topic, message.2.siteSlug = siteSlug ∧ message.2.batchId = batchId

instance (shared : Shared) (siteSlug batchId : String) : Decidable (InTopic shared siteSlug batchId) :=
  List.decidableBEx _ _

/-- Some request is about to produce the batch. -/
def Producing (requests : List Request) (siteSlug batchId : String) : Prop :=
  ∃ request ∈ requests, request.IsFor siteSlug batchId ∧ request.stage = .produce

instance (requests : List Request) (siteSlug batchId : String) :
    Decidable (Producing requests siteSlug batchId) :=
  List.decidableBEx _ _

/-- The batch's message is in the topic or on its way. -/
def Covered (edge : Edge) (siteSlug batchId : String) : Prop :=
  InTopic edge.shared siteSlug batchId ∨ Producing edge.requests siteSlug batchId

instance (edge : Edge) (siteSlug batchId : String) : Decidable (Covered edge siteSlug batchId) :=
  inferInstanceAs (Decidable (_ ∨ _))

/-- Every request has been answered. -/
def Quiet (edge : Edge) : Prop := ∀ request ∈ edge.requests, ∃ answer, request.stage = .answered answer

/-- No acknowledged batch is lost: once every request is answered, each
acknowledged batch has a message in the topic. -/
def NothingLost (edge : Edge) : Prop :=
  Quiet edge → ∀ siteSlug batchId, Acknowledged edge siteSlug batchId →
    InTopic edge.shared siteSlug batchId

/-- The steps that keep the promise. A request is answered as a duplicate only
while the batch's message is in the topic or a produce of it is in flight; and
a produce throws only when nobody has been told that the batch is queued, or
its message is in the topic, or another produce of it is in flight. -/
def KeepsPromise (edge : Edge) : Action → Prop
  | .advance index (.batchDedupe .replied) =>
    ∀ request ∈ edge.requests[index]?,
      (dedupeKey request.batch.siteSlug, request.batch.batchId) ∈ edge.shared.dedupe →
        Covered edge request.batch.siteSlug request.batch.batchId
  | .advance index (.send false _) =>
    ∀ request ∈ edge.requests[index]?,
      ¬ Acknowledged edge request.batch.siteSlug request.batch.batchId ∨
        InTopic edge.shared request.batch.siteSlug request.batch.batchId ∨
        Producing (edge.requests.eraseIdx index) request.batch.siteSlug request.batch.batchId
  | _ => True

instance (edge : Edge) : ∀ action, Decidable (KeepsPromise edge action)
  | .advance _ (.batchDedupe .replied) => inferInstanceAs (Decidable (∀ request ∈ _, _ → _))
  | .advance _ (.send false _) => inferInstanceAs (Decidable (∀ request ∈ _, _ ∨ _))
  | .advance _ (.send true _) | .advance _ (.batchDedupe (.threw _)) | .advance _ (.siteCheck _ _)
  | .advance _ (.hdel _) | .receive _ | .expire _ _ => inferInstanceAs (Decidable True)

/-- Whoever was acknowledged is covered. -/
def PromiseKept (edge : Edge) : Prop :=
  ∀ siteSlug batchId, Acknowledged edge siteSlug batchId → Covered edge siteSlug batchId

/-! ## The promise over a run -/

variable {edge after : Edge} {shared shared' : Shared} {requests : List Request}
variable {request next : Request} {index : Nat} {event : Event} {stage : Stage}
variable {siteSlug batchId : String}

theorem step_advance :
    step edge (.advance index event) = some after ↔
      ∃ request, edge.requests[index]? = some request ∧
        ∃ shared stage, proceed edge.shared request event = some (shared, stage) ∧
          after = ⟨shared, edge.requests.set index { request with stage }⟩ := by
  simp only [step]
  split
  · rename_i missing
    simp [missing]
  · rename_i request found
    split
    · rename_i stuck
      simp [found, stuck]
    · rename_i shared stage proceeded
      simp [found, proceeded, eq_comm]

/-- A request that moves on acknowledges nobody but itself. -/
private theorem acknowledged_of_set (edge : Edge)
    (acknowledged : Acknowledged ⟨shared, edge.requests.set index next⟩ siteSlug batchId) :
    Acknowledged edge siteSlug batchId ∨ next.IsFor siteSlug batchId ∧ next.IsAcknowledged := by
  obtain ⟨other, member, isFor, told⟩ := acknowledged
  rcases List.mem_or_eq_of_mem_set member with old | rfl
  · exact Or.inl ⟨other, old, isFor, told⟩
  · exact Or.inr ⟨isFor, told⟩

/-- A request that moves on leaves a batch covered unless it was itself about
to produce it. -/
private theorem covered_of_set (next : Request) (held : edge.requests[index]? = some request)
    (grows : InTopic edge.shared siteSlug batchId → InTopic shared siteSlug batchId)
    (covered : Covered edge siteSlug batchId) :
    Covered ⟨shared, edge.requests.set index next⟩ siteSlug batchId ∨
      request.IsFor siteSlug batchId ∧ request.stage = .produce := by
  rcases covered with stored | ⟨other, member, isFor, producing⟩
  · exact Or.inl (Or.inl (grows stored))
  · rcases mem_set_of_mem next held member with rfl | kept
    · exact Or.inr ⟨isFor, producing⟩
    · exact Or.inl (Or.inr ⟨other, kept, isFor, producing⟩)

/-- A request that was not about to produce, and acknowledges nobody who is not
covered, keeps the promise. -/
private theorem kept_of_move (kept : PromiseKept edge) (held : edge.requests[index]? = some request)
    (topic : shared.topic = edge.shared.topic) (notProducing : request.stage ≠ .produce)
    (covers : stage = .answered (accepted request.batch) →
      Covered edge request.batch.siteSlug request.batch.batchId) :
    PromiseKept ⟨shared, edge.requests.set index { request with stage }⟩ := by
  intro siteSlug batchId acknowledged
  have covered : Covered edge siteSlug batchId := by
    rcases acknowledged_of_set edge acknowledged with old | ⟨⟨rfl, rfl⟩, told⟩
    · exact kept siteSlug batchId old
    · exact covers told
  rcases covered_of_set { request with stage } held (fun stored => by rwa [InTopic, topic]) covered with
    still | ⟨_, producing⟩
  · exact still
  · exact absurd producing notProducing

private theorem assertSiteValid_not_accepted (sismember lookup : Call) (batch : IngestBatchInput) :
    assertSiteValid shared sismember lookup siteSlug ≠ .answered (accepted batch) := by
  cases sismember with
  | replied =>
    simp only [assertSiteValid]
    split <;> simp [accepted]
  | threw ran =>
    cases lookup with
    | replied =>
      simp only [assertSiteValid]
      split <;> simp [accepted]
    | threw ran => simp [assertSiteValid, accepted]

/-- A produce puts the batch into the topic. -/
private theorem kept_of_produce (kept : PromiseKept edge) (held : edge.requests[index]? = some request)
    (receivedAtMs : Int) :
    PromiseKept ⟨{ edge.shared with topic := edge.shared.topic ++
        [(request.batch.siteSlug, { request.batch with receivedAtMs })] },
      edge.requests.set index { request with stage }⟩ := by
  intro siteSlug batchId acknowledged
  by_cases own : request.IsFor siteSlug batchId
  · exact Or.inl ⟨_, List.mem_append_right _ (List.mem_singleton_self _), own⟩
  · rcases acknowledged_of_set edge acknowledged with old | ⟨isFor, _⟩
    · refine (covered_of_set _ held ?_ (kept siteSlug batchId old)).resolve_right fun it => own it.1
      exact fun ⟨message, member, same⟩ => ⟨message, List.mem_append_left _ member, same⟩
    · exact absurd isFor own

/-- A failed produce is made good by the topic or by another produce. -/
private theorem kept_of_failure (kept : PromiseKept edge) (held : edge.requests[index]? = some request)
    {receivedAtMs : Int} (keeps : KeepsPromise edge (.advance index (.send false receivedAtMs))) :
    PromiseKept ⟨edge.shared, edge.requests.set index { request with stage := .revert }⟩ := by
  intro siteSlug batchId acknowledged
  have old : Acknowledged edge siteSlug batchId :=
    (acknowledged_of_set edge acknowledged).resolve_right fun it => nomatch it.2
  rcases covered_of_set { request with stage := .revert } held id (kept siteSlug batchId old) with
    still | ⟨⟨rfl, rfl⟩, _⟩
  · exact still
  · rcases keeps request held with nobody | stored | ⟨other, member, isFor, alsoProducing⟩
    · exact absurd old nobody
    · exact Or.inl stored
    · obtain ⟨position, different, found⟩ := List.mem_eraseIdx_iff_getElem?.mp member
      refine Or.inr ⟨other, List.mem_iff_getElem?.mpr ⟨position, ?_⟩, isFor, alsoProducing⟩
      rwa [List.getElem?_set_ne (Ne.symm different)]

/-- What a request's call does to the promise. -/
private theorem advance_kept (kept : PromiseKept edge) (held : edge.requests[index]? = some request)
    (keeps : KeepsPromise edge (.advance index event))
    (proceeded : proceed edge.shared request event = some (shared, stage)) :
    PromiseKept ⟨shared, edge.requests.set index { request with stage }⟩ := by
  cases event with
  | siteCheck sismember lookup =>
    simp only [proceed] at proceeded
    split at proceeded
    · rename_i checking
      cases proceeded
      exact kept_of_move kept held rfl (by simp [checking])
        (fun told => absurd told (assertSiteValid_not_accepted sismember lookup request.batch))
    · cases proceeded
  | batchDedupe call =>
    simp only [proceed] at proceeded
    split at proceeded
    · rename_i deduping
      have notProducing : request.stage ≠ .produce := by simp [deduping]
      cases call with
      | replied =>
        simp only [Option.some.injEq, Prod.mk.injEq] at proceeded
        obtain ⟨rfl, rfl⟩ := proceeded
        apply kept_of_move kept held rfl notProducing
        intro told
        -- Acknowledged here: the script found the entry set.
        have present : (dedupeKey request.batch.siteSlug, request.batch.batchId) ∈ edge.shared.dedupe := by
          by_contra absent
          simp [batchDedupeScript, absent] at told
        exact keeps request held present
      | threw ran =>
        simp only [Option.some.injEq, Prod.mk.injEq] at proceeded
        obtain ⟨rfl, rfl⟩ := proceeded
        exact kept_of_move kept held (by split <;> rfl) notProducing nofun
    · cases proceeded
  | send succeeds receivedAtMs =>
    simp only [proceed] at proceeded
    split at proceeded
    · cases succeeds with
      | true =>
        simp only [↓reduceIte, Option.some.injEq, Prod.mk.injEq] at proceeded
        obtain ⟨rfl, rfl⟩ := proceeded
        exact kept_of_produce kept held receivedAtMs
      | false =>
        simp only [Bool.false_eq_true, ↓reduceIte, Option.some.injEq, Prod.mk.injEq] at proceeded
        obtain ⟨rfl, rfl⟩ := proceeded
        exact kept_of_failure kept held keeps
    · cases proceeded
  | hdel call =>
    simp only [proceed] at proceeded
    split at proceeded
    · rename_i reverting
      cases proceeded
      exact kept_of_move kept held (by split <;> rfl) (by simp [reverting]) nofun
    · cases proceeded

/-- The step lemma: a step that keeps the promise leaves whoever was
acknowledged covered. -/
theorem step_kept (kept : PromiseKept edge) {action : Action} (keeps : KeepsPromise edge action)
    (stepped : step edge action = some after) : PromiseKept after := by
  cases action with
  | receive batch =>
    cases stepped
    rintro siteSlug batchId ⟨request, member, isFor, told⟩
    rcases List.mem_append.mp member with old | new
    · refine (kept siteSlug batchId ⟨request, old, isFor, told⟩).imp id ?_
      exact fun ⟨other, otherMember, rest⟩ => ⟨other, List.mem_append_left _ otherMember, rest⟩
    · rw [List.mem_singleton.mp new] at told
      exact nomatch told
  | advance index event =>
    obtain ⟨request, held, shared, stage, proceeded, rfl⟩ := step_advance.mp stepped
    exact advance_kept kept held keeps proceeded
  | expire slug batch =>
    cases stepped
    exact kept

/-- In a quiet state nothing is on its way any more. -/
theorem nothing_lost_of_kept (kept : PromiseKept edge) : NothingLost edge := by
  intro quiet siteSlug batchId acknowledged
  apply (kept siteSlug batchId acknowledged).resolve_right
  rintro ⟨request, member, _, producing⟩
  obtain ⟨answer, answered⟩ := quiet request member
  exact nomatch producing.symm.trans answered

/-- **No acknowledged batch is lost** in a run whose steps all keep the
promise. -/
theorem acknowledged_batches_reach_topic (sitesValid sites : List String) {actions : List Action}
    (keeps : StepsMeet step KeepsPromise (initial sitesValid sites) actions)
    (ran : run step (initial sitesValid sites) actions = some edge) : NothingLost edge := by
  have start : PromiseKept (initial sitesValid sites) :=
    fun _ _ ⟨_, member, _⟩ => absurd member List.not_mem_nil
  exact nothing_lost_of_kept
    (run_invariant_of_steps PromiseKept (fun kept keeps stepped => step_kept kept keeps stepped) start keeps ran)

private def reading : MeasurementInput := ⟨"stack-1", 1700000000000, "12.500000"⟩

private def batch : IngestBatchInput :=
  ⟨"3f2a6c1e-8d4b-4c7a-9e51-0b6d2f7a8c90", "north-plant", [reading]⟩

/-- A batch is produced, and a retry of it is answered as a duplicate. -/
private def retried : List Action :=
  [.receive batch, .advance 0 (.siteCheck .replied .replied), .advance 0 (.batchDedupe .replied),
    .advance 0 (.send true 1700000001000), .receive batch,
    .advance 1 (.siteCheck (.threw false) .replied), .advance 1 (.batchDedupe .replied)]

private def retriedEdge : Edge :=
  ⟨⟨["north-plant"], [(dedupeKey "north-plant", batch.batchId)], ["north-plant"],
    [("north-plant", { batch with receivedAtMs := 1700000001000 })]⟩,
    [⟨batch, .answered (accepted batch)⟩, ⟨batch, .answered (accepted batch)⟩]⟩

theorem retried_batch_reaches_topic :
    run step (initial ["north-plant"] ["north-plant"]) retried = some retriedEdge ∧
      Acknowledged retriedEdge "north-plant" batch.batchId ∧ NothingLost retriedEdge :=
  have ran : run step (initial ["north-plant"] ["north-plant"]) retried = some retriedEdge := by decide
  have keeps : StepsMeet step KeepsPromise (initial ["north-plant"] ["north-plant"]) retried := by decide
  ⟨ran, by decide, acknowledged_batches_reach_topic ["north-plant"] ["north-plant"] keeps ran⟩

/-- The first request's produce is under way when a retry is answered 202 on
the strength of its dedupe entry; then the produce throws. -/
theorem acknowledged_batch_can_be_lost :
    ¬ ∀ (sitesValid sites : List String) (actions : List Action) (edge : Edge),
      run step (initial sitesValid sites) actions = some edge → NothingLost edge := by
  intro always
  have lost := always ["north-plant"] ["north-plant"]
    [.receive batch, .receive batch, .advance 0 (.siteCheck .replied .replied),
      .advance 1 (.siteCheck .replied .replied), .advance 0 (.batchDedupe .replied),
      .advance 1 (.batchDedupe .replied), .advance 0 (.send false 1700000001000),
      .advance 0 (.hdel .replied)]
    ⟨⟨["north-plant"], [], ["north-plant"], []⟩,
      [⟨batch, .answered .internal⟩, ⟨batch, .answered (accepted batch)⟩]⟩ (by decide)
  obtain ⟨message, member, _⟩ := lost (by simp [Quiet]) "north-plant" batch.batchId
    ⟨⟨batch, .answered (accepted batch)⟩, by simp, ⟨rfl, rfl⟩, rfl⟩
  exact absurd member List.not_mem_nil

end EmissionsPlatform.IngestEdge
