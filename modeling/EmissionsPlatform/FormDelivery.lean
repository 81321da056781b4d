import EmissionsPlatform.ErrorEnvelopes
import EmissionsPlatform.IngestEdge
import EmissionsPlatform.IngestForm
import EmissionsPlatform.Notifications

/-! The ingest form and the API together. Any number of pages are open, each
with a form; their requests reach the API once, several times or not at all, at
any time and in any order, between those of other clients; a reply is the one
the API sends through its envelopes, and where none arrives the request fails in
some way that is no success. `shown_success_is_delivered` follows a banner of
success back to the message in the topic. -/
namespace EmissionsPlatform.FormDelivery
open Contracts ErrorEnvelopes Transition Validation
open IngestEdge (Acknowledged Answer Covered Edge InTopic KeepsPromise PromiseKept Quiet Request accepted proceed)
open IngestForm (Browser Effect Form IngestAccepted OnePayload Paired Unedited ingestAcceptedSchema ingestBatch mounted)
open SiteContracts (Reply apiFetch_eq_ok enveloped_read)
set_option autoImplicit false

/-! ## One request -/

/-- `JSON.stringify(body)` of a batch. -/
def batchJson (batch : IngestBatchInput) : Json :=
  .object [("batch_id", .string batch.batchId), ("site_slug", .string batch.siteSlug),
    ("measurements", .array (batch.measurements.map Notifications.measurementJson))]

/-- The data of a 202 response. -/
def acceptedJson (batchId : String) (measurementsReceived : Nat) : Json :=
  .object [("batch_id", .string batchId), ("status", .string "queued"),
    ("measurements_received", .number (.integer measurementsReceived))]

/-- What the handler returns or throws for an answer. What a call threw may have
a `code`. -/
def outcome (code : Option String) : Answer → Except Exception Json
  | .queued batchId measurementsReceived => .ok (acceptedJson batchId measurementsReceived)
  | .notFound siteSlug =>
    let message := "site with slug '" ++ siteSlug ++ "' not found"
    .error (.httpException 404 message
      (.object [("message", .string message), ("details", .object [("site_slug", .string siteSlug)])]))
  | .internal => .error (.other code)

/-- A response as it reaches the client. -/
def readReply (response : Response) : Reply := .response response.status response.body

/-! ## Pages and the edge -/

structure Platform where
  pages : List Form
  edge : Edge
  /-- For every request of the edge its page and its place among what the page
  sent, unless it is another client's. -/
  senders : List (Option (Nat × Nat))
  deriving DecidableEq

inductive Action
  | mount
  /-- Anything a user or the page itself does. -/
  | page (index : Nat) (action : IngestForm.Action)
  /-- A request of a page reaches the API. -/
  | arrive (page place : Nat) (requestId : Option String)
  | stranger (batch : IngestBatchInput)
  | edge (action : IngestEdge.Action)
  /-- The reply to a request of the edge reaches its page. -/
  | answer (request : Nat) (requestId code : Option String)
  /-- A page gets no reply, or one from something in between. -/
  | fail (page place : Nat) (reply : Reply)

/-- A step of one page. -/
def turn (browser : Nat → Browser) (platform : Platform) (index : Nat) (action : IngestForm.Action) : Option Platform :=
  (platform.pages[index]?).bind fun form =>
    (IngestForm.step (browser index) form action).map fun next =>
      { platform with pages := platform.pages.set index next }

/-- A request comes in at the edge. -/
def receive (platform : Platform) (sender : Option (Nat × Nat)) (batch : IngestBatchInput) : Option Platform :=
  (IngestEdge.step platform.edge (.receive batch)).map fun edge =>
    { platform with edge, senders := platform.senders ++ [sender] }

def step (browser : Nat → Browser) (platform : Platform) : Action → Option Platform
  | .mount => some { platform with pages := platform.pages ++ [mounted (browser platform.pages.length)] }
  | .page _ (.reply _ _) => none
  | .page index action => turn browser platform index action
  | .arrive page place requestId =>
    ((platform.pages[page]?).bind fun form => form.sent[place]?).bind fun payload =>
      match transform ingestBatchSchema (some (batchJson payload)) with
      | .ok batch => receive platform (some (page, place)) batch
      | .error exception =>
        turn browser platform page (.reply place (readReply (respond 202 requestId (.error exception))))
  | .stranger batch => receive platform none batch
  | .edge (.receive _) => none
  | .edge action => (IngestEdge.step platform.edge action).map fun edge => { platform with edge }
  | .answer request requestId code =>
    match platform.edge.requests[request]?, platform.senders[request]? with
    | some ⟨_, .answered answer⟩, some (some (page, place)) =>
      turn browser platform page (.reply place (readReply (respond 202 requestId (outcome code answer))))
    | _, _ => none
  | .fail page place reply =>
    match ingestBatch reply with
    | .ok _ => none
    | .error _ => turn browser platform page (.reply place reply)

def initial (sitesValid sites : List String) : Platform := ⟨[], IngestEdge.initial sitesValid sites, []⟩

/-- The edge keeps its promise, and a page submits no other payload while one is
pending. -/
def Keeps (browser : Nat → Browser) (platform : Platform) : Action → Prop
  | .edge action => KeepsPromise platform.edge action
  | .page index action => ∀ form ∈ platform.pages[index]?, Unedited (browser index) form action
  | _ => True

instance (browser : Nat → Browser) (platform : Platform) : ∀ action, Decidable (Keeps browser platform action)
  | .edge action => inferInstanceAs (Decidable (KeepsPromise platform.edge action))
  | .page index action =>
    inferInstanceAs (Decidable (∀ form ∈ platform.pages[index]?, Unedited (browser index) form action))
  | .mount | .arrive _ _ _ | .stranger _ | .answer _ _ _ | .fail _ _ _ => inferInstanceAs (Decidable True)

/-- No page ever draws an id that another client uses. -/
def Apart (browser : Nat → Browser) : Action → Prop
  | .stranger batch => ∀ page index, batch.batchId ≠ (browser page).randomUUID index
  | _ => True

variable {browser : Nat → Browser} {platform after : Platform} {action : Action} {actions : List Action}
variable {form next : Form} {edge edge' : Edge} {request : Request} {batch payload : IngestBatchInput}
variable {batchId siteSlug : String} {index : Nat}

/-! ## What is sent is accepted -/

/-- A batch the schema accepted it accepts again, as it was. -/
theorem batch_reread {document : Json} (accepts : ingestBatchSchema (some document) = .ok batch) :
    ingestBatchSchema (some (batchJson batch)) = .ok batch := by
  unfold ingestBatchSchema object at accepts
  split at accepts
  · obtain ⟨⟨batchId, siteSlug, measurements⟩, checked, rfl⟩ := map_eq_ok.mp accepts
    simp only [both_eq_ok, uuidSchema, slugSchema, string_eq_ok, measurementsSchema, array_eq_ok] at checked
    obtain ⟨⟨-, uuid⟩, ⟨-, slug⟩, values, -, sizes, related⟩ := checked
    refine map_eq_ok.mpr ⟨(batchId, siteSlug, measurements), ?_, rfl⟩
    simp only [both_eq_ok, uuidSchema, slugSchema, string_eq_ok]
    refine ⟨⟨rfl, uuid⟩, ⟨rfl, slug⟩, JsonWriting.array_readsBack ?_ ?_⟩
    · rwa [← related.length_eq]
    · intro m member
      obtain ⟨item, -, read⟩ := Fallible.exists_left related member
      exact Notifications.measurement_reread read
  · cases accepts

/-- The API lets a batch through as it was sent. -/
def Accepted (batch : IngestBatchInput) : Prop := ingestBatchSchema (some (batchJson batch)) = .ok batch

theorem accepted_of_safeParse {browser : Browser} (parsed : IngestForm.safeParse browser form = some payload) :
    Accepted payload := by
  unfold IngestForm.safeParse at parsed
  cases checked : ingestBatchSchema (some (IngestForm.raw browser form)) with
  | error messages => simp [checked, Except.toOption] at parsed
  | ok value =>
    obtain rfl : value = payload := by simpa [checked, Except.toOption] using parsed
    exact batch_reread checked

theorem accepted_of_transform {body : Option Json} (passes : transform ingestBatchSchema body = .ok batch) :
    Accepted batch := by
  unfold transform at passes
  split at passes
  · rename_i value accepts
    cases passes
    cases body with
    | none => cases accepts
    | some document => exact batch_reread accepts
  · cases passes

theorem Accepted.uuid (accepts : Accepted batch) : uuidRegex batch.batchId = true := by
  obtain ⟨fields, checked, same⟩ := map_eq_ok.mp accepts
  have batchId := (string_eq_ok.mp (both_eq_ok.mp checked).1).2 _ List.mem_cons_self
  rwa [← same]

theorem transform_accepted (accepts : Accepted batch) :
    transform ingestBatchSchema (some (batchJson batch)) = .ok batch := by
  rw [transform, accepts]

/-! ## What a reply says -/

/-- The form takes no exception for a success. -/
theorem exception_not_ok {successStatus : Nat} {requestId : Option String} {exception : Exception}
    {result : IngestAccepted} :
    ingestBatch (readReply (respond successStatus requestId (.error exception))) ≠ .ok result := by
  intro ok
  obtain ⟨-, read⟩ := apiFetch_eq_ok.mp ok
  exact errorEnvelope_is_no_success _ _ result read

/-- A success that the form reads is an answer of the API that the batch is
queued. -/
theorem readReply_ok {requestId code : Option String} {answer : Answer} {result : IngestAccepted}
    (ok : ingestBatch (readReply (respond 202 requestId (outcome code answer))) = .ok result) :
    ∃ count : Nat, answer = .queued result.batchId count ∧ result.measurementsReceived = count := by
  cases answer with
  | queued batchId count =>
    obtain ⟨-, read⟩ := apiFetch_eq_ok.mp ok
    simp only [respond, outcome, enveloped_read] at read
    obtain ⟨⟨readId, status, readCount⟩, fields, rfl⟩ := map_eq_ok.mp read
    simp only [both_eq_ok, uuidSchema, string_eq_ok, integer_eq_ok] at fields
    obtain ⟨⟨sameId, -⟩, -, sameCount, -⟩ := fields
    refine ⟨count, ?_, ?_⟩
    · cases sameId
      rfl
    · cases sameCount
      rfl
  | notFound slug => exact absurd ok exception_not_ok
  | internal => exact absurd ok exception_not_ok

/-! ## A step of a page -/

/-- A page sends at most one request at a time, and only what the schema
accepted or what is pending. -/
theorem sent_cases {browser : Browser} {action : IngestForm.Action}
    (stepped : IngestForm.step browser form action = some next) :
    next.sent = form.sent ∨ ∃ payload, next.sent = form.sent ++ [payload] ∧
      (IngestForm.safeParse browser form = some payload ∨ form.pendingPayload = some payload) := by
  cases action with
  | sitesLoaded _ | selectSite _ | updateRow _ _ _ | addRow | removeRow _ =>
    obtain ⟨_, same⟩ := Option.ite_none_right_eq_some.mp stepped
    cases same
    exact Or.inl rfl
  | submitBatch =>
    obtain ⟨_, submitted⟩ := Option.ite_none_right_eq_some.mp stepped
    split at submitted
    · cases submitted
      exact Or.inl rfl
    · rename_i payload parsed
      cases submitted
      exact Or.inr ⟨payload, rfl, Or.inl parsed⟩
  | retry =>
    obtain ⟨_, retried⟩ := Option.ite_none_right_eq_some.mp stepped
    split at retried
    · cases retried
      exact Or.inl rfl
    · rename_i payload pending
      cases retried
      exact Or.inr ⟨payload, rfl, Or.inr pending⟩
  | startOver =>
    cases stepped
    exact Or.inl rfl
  | reply request reply =>
    obtain ⟨_, same⟩ := Option.ite_none_right_eq_some.mp stepped
    cases same
    refine Or.inl ?_
    unfold IngestForm.settle
    split
    · rfl
    · split <;> rfl

/-- A banner of success is there already, or a reply brings it. -/
theorem success_cases {browser : Browser} {action : IngestForm.Action} {count : Int}
    (stepped : IngestForm.step browser form action = some next) (shown : next.status = .success batchId count) :
    form.status = .success batchId count ∨
      ∃ place reply, action = .reply place reply ∧ ingestBatch reply = .ok ⟨batchId, count⟩ := by
  cases action with
  | sitesLoaded _ | selectSite _ | updateRow _ _ _ | addRow | removeRow _ =>
    obtain ⟨_, same⟩ := Option.ite_none_right_eq_some.mp stepped
    cases same
    exact Or.inl shown
  | submitBatch =>
    obtain ⟨_, submitted⟩ := Option.ite_none_right_eq_some.mp stepped
    split at submitted <;> cases submitted <;> cases shown
  | retry =>
    obtain ⟨_, retried⟩ := Option.ite_none_right_eq_some.mp stepped
    split at retried
    · cases retried
      exact Or.inl shown
    · cases retried
      cases shown
  | startOver =>
    cases stepped
    cases shown
  | reply request reply =>
    obtain ⟨_, same⟩ := Option.ite_none_right_eq_some.mp stepped
    cases same
    refine Or.inr ⟨request, reply, rfl, ?_⟩
    unfold IngestForm.settle at shown
    split at shown
    · rename_i result ok
      cases shown
      exact ok
    · split at shown <;> cases shown

/-! ## A step of the edge -/

/-- What a call of a request does to the topic and what it can answer. -/
structure Proceeds (shared shared' : IngestEdge.Shared) (request : Request) (event : IngestEdge.Event)
    (stage : IngestEdge.Stage) : Prop where
  running : ∀ answer, request.stage ≠ .answered answer
  topic : (∃ receivedAtMs, event = .send true receivedAtMs ∧ request.stage = .produce ∧
      shared'.topic = shared.topic ++ [(request.batch.siteSlug, { request.batch with receivedAtMs })]) ∨
    (∀ receivedAtMs, event ≠ .send true receivedAtMs) ∧ shared'.topic = shared.topic
  queued : ∀ batchId count, stage = .answered (.queued batchId count) → stage = .answered (accepted request.batch)

theorem proceed_proceeds {shared shared' : IngestEdge.Shared} {event : IngestEdge.Event} {stage : IngestEdge.Stage}
    (proceeded : proceed shared request event = some (shared', stage)) :
    Proceeds shared shared' request event stage := by
  cases event with
  | siteCheck sismember lookup =>
    obtain ⟨checking, same⟩ := Option.ite_none_right_eq_some.mp proceeded
    cases same
    refine ⟨by simp [checking], Or.inr ⟨(fun _ same => by cases same), rfl⟩, fun batchId count queued => ?_⟩
    unfold IngestEdge.assertSiteValid at queued
    split at queued
    · split at queued <;> cases queued
    · split at queued
      · split at queued <;> cases queued
      · cases queued
  | batchDedupe call =>
    obtain ⟨deduping, went⟩ := Option.ite_none_right_eq_some.mp proceeded
    cases call with
    | replied =>
      cases went
      refine ⟨by simp [deduping], Or.inr ⟨(fun _ same => by cases same), rfl⟩, fun batchId count queued => ?_⟩
      split at queued
      · cases queued
      · rename_i duplicate
        exact if_neg duplicate
    | threw ran =>
      cases went
      exact ⟨by simp [deduping], Or.inr ⟨(fun _ same => by cases same), by split <;> rfl⟩, nofun⟩
  | send succeeds receivedAtMs =>
    obtain ⟨producing, went⟩ := Option.ite_none_right_eq_some.mp proceeded
    cases succeeds with
    | true =>
      cases went
      exact ⟨by simp [producing], Or.inl ⟨receivedAtMs, rfl, producing, rfl⟩, fun _ _ _ => rfl⟩
    | false =>
      cases went
      exact ⟨by simp [producing], Or.inr ⟨(fun _ same => by cases same), rfl⟩, nofun⟩
  | hdel call =>
    obtain ⟨reverting, went⟩ := Option.ite_none_right_eq_some.mp proceeded
    cases went
    exact ⟨by simp [reverting], Or.inr ⟨(fun _ same => by cases same), by split <;> rfl⟩, nofun⟩

/-- Every message is some request's batch, and every request that is told of a
queued batch is told of its own. -/
structure EdgeSound (edge : Edge) : Prop where
  produced : ∀ message ∈ edge.shared.topic, message.2.toIngestBatchInput ∈ edge.requests.map Request.batch
  queued : ∀ request ∈ edge.requests, ∀ batchId count,
    request.stage = .answered (.queued batchId count) → request.IsAcknowledged

/-- What a step of the edge leaves as it is. -/
structure Grows (edge after : Edge) : Prop where
  batches : edge.requests.map Request.batch <+: after.requests.map Request.batch
  acknowledged : ∀ siteSlug batchId, Acknowledged edge siteSlug batchId → Acknowledged after siteSlug batchId

theorem map_set_batch {requests : List Request} (held : requests[index]? = some request) (stage : IngestEdge.Stage) :
    (requests.set index { request with stage }).map Request.batch = requests.map Request.batch := by
  obtain ⟨there, rfl⟩ := List.getElem?_eq_some_iff.mp held
  have mapped : index < (requests.map Request.batch).length := by rwa [List.length_map]
  have same : requests[index].batch = (requests.map Request.batch)[index] := (List.getElem_map _).symm
  rw [List.map_set, same, List.set_getElem_self]

theorem receive_grows (sound : EdgeSound edge) (batch : IngestBatchInput) :
    EdgeSound { edge with requests := edge.requests ++ [⟨batch, .siteCheck⟩] } ∧
      Grows edge { edge with requests := edge.requests ++ [⟨batch, .siteCheck⟩] } := by
  refine ⟨⟨fun message member => ?_, fun request member => ?_⟩, ?_, fun siteSlug batchId acknowledged => ?_⟩
  · rw [List.map_append]
    exact List.mem_append_left _ (sound.produced message member)
  · rcases List.mem_append.mp member with old | new
    · exact sound.queued request old
    · rw [List.mem_singleton.mp new]
      nofun
  · rw [List.map_append]
    exact List.prefix_append _ _
  · obtain ⟨request, member, told⟩ := acknowledged
    exact ⟨request, List.mem_append_left _ member, told⟩

theorem edge_step (sound : EdgeSound edge) {action : IngestEdge.Action}
    (stepped : IngestEdge.step edge action = some edge') : EdgeSound edge' ∧ Grows edge edge' := by
  cases action with
  | receive batch =>
    cases stepped
    exact receive_grows sound batch
  | expire slug batchId =>
    cases stepped
    exact ⟨⟨sound.produced, sound.queued⟩, List.prefix_refl _, fun _ _ acknowledged => acknowledged⟩
  | advance index event =>
    obtain ⟨request, held, shared, stage, proceeded, rfl⟩ := IngestEdge.step_advance.mp stepped
    obtain ⟨running, topic, queued⟩ := proceed_proceeds proceeded
    have batches := map_set_batch held stage
    refine ⟨⟨fun message member => ?_, fun other member batchId count => ?_⟩, ?_, fun siteSlug batchId told => ?_⟩
    · rw [batches]
      rcases topic with ⟨receivedAtMs, -, -, grown⟩ | ⟨-, same⟩
      · rw [grown] at member
        rcases List.mem_append.mp member with old | new
        · exact sound.produced message old
        · rw [List.mem_singleton.mp new]
          exact List.mem_map_of_mem (List.mem_of_getElem? held)
      · exact sound.produced message (same ▸ member)
    · rcases List.mem_or_eq_of_mem_set member with old | rfl
      · exact sound.queued other old batchId count
      · exact queued batchId count
    · rw [batches]
    · obtain ⟨other, member, isFor, acknowledged⟩ := told
      rcases mem_set_of_mem { request with stage } held member with rfl | kept
      · exact absurd acknowledged (running _)
      · exact ⟨other, kept, isFor, acknowledged⟩

/-! ## The whole -/

/-- The batch of a request of the edge. -/
def batchAt (edge : Edge) (index : Nat) : Option IngestBatchInput := (edge.requests.map Request.batch)[index]?

theorem Grows.batchAt_eq (grows : Grows edge edge') (length : edge'.requests.length = edge.requests.length) :
    batchAt edge' = batchAt edge := by
  have same := grows.batches.eq_of_length (by rw [List.length_map, List.length_map, length])
  funext index
  rw [batchAt, batchAt, same]

/-- A page that shows a success sent the batch, and the API said it is queued. -/
def Told (edge : Edge) (form : Form) (batchId : String) (count : Int) : Prop :=
  ∃ payload ∈ form.sent, payload.batchId = batchId ∧ payload.measurements.length = count ∧
    Acknowledged edge payload.siteSlug batchId

structure PageSound (browser : Browser) (edge : Edge) (form : Form) : Prop where
  paired : Paired browser form
  accepted : ∀ payload ∈ form.sent, Accepted payload
  shown : ∀ batchId count, form.status = .success batchId count → Told edge form batchId count

structure Sound (browser : Nat → Browser) (platform : Platform) : Prop where
  edge : EdgeSound platform.edge
  senders : platform.senders.length = platform.edge.requests.length
  pages : ∀ index form, platform.pages[index]? = some form → PageSound (browser index) platform.edge form
  /-- A request with a sender is what its page sent there. -/
  carried : ∀ index page place batch, platform.senders[index]? = some (some (page, place)) →
    batchAt platform.edge index = some batch →
      ∃ form, platform.pages[page]? = some form ∧ form.sent[place]? = some batch

theorem PageSound.mono {browser : Browser} (sound : PageSound browser edge form) (grows : Grows edge edge') :
    PageSound browser edge' form := by
  refine ⟨sound.paired, sound.accepted, fun batchId count shown => ?_⟩
  obtain ⟨payload, sent, sameId, sameCount, told⟩ := sound.shown batchId count shown
  exact ⟨payload, sent, sameId, sameCount, grows.acknowledged _ _ told⟩

/-- A page keeps what it sent, in its place. -/
theorem sent_grows {browser : Browser} {action : IngestForm.Action}
    (stepped : IngestForm.step browser form action = some next) : form.sent <+: next.sent := by
  rcases sent_cases stepped with same | ⟨payload, grown, -⟩
  · rw [same]
  · rw [grown]
    exact List.prefix_append _ _

/-- A step of a page, if a reply that it reads as a success is told by the edge. -/
theorem page_step {browser : Browser} {action : IngestForm.Action} (fresh : Function.Injective browser.randomUUID)
    (sound : PageSound browser edge form) (stepped : IngestForm.step browser form action = some next)
    (told : ∀ place reply batchId count, action = .reply place reply →
      ingestBatch reply = .ok ⟨batchId, count⟩ → Told edge form batchId count) :
    PageSound browser edge next := by
  have kept := (sent_grows stepped).subset
  refine ⟨IngestForm.step_paired fresh sound.paired stepped, ?_, fun batchId count shown => ?_⟩
  · rcases sent_cases stepped with same | ⟨payload, grown, source⟩
    · rw [same]
      exact sound.accepted
    · rw [grown]
      refine List.forall_mem_append.mpr ⟨sound.accepted, List.forall_mem_singleton.mpr ?_⟩
      rcases source with parsed | pending
      · exact accepted_of_safeParse parsed
      · exact sound.accepted payload (sound.paired.pending payload pending).1
  · have known : Told edge form batchId count := by
      rcases success_cases stepped shown with before | ⟨place, reply, replied, ok⟩
      · exact sound.shown batchId count before
      · exact told place reply batchId count replied ok
    obtain ⟨payload, sent, rest⟩ := known
    exact ⟨payload, kept sent, rest⟩

theorem turn_eq_some {action : IngestForm.Action} :
    turn browser platform index action = some after ↔
      ∃ form, platform.pages[index]? = some form ∧ ∃ next, IngestForm.step (browser index) form action = some next ∧
        { platform with pages := platform.pages.set index next } = after := by
  simp only [turn, Option.bind_eq_some_iff, Option.map_eq_some_iff]

/-- The pages after one of them has moved. -/
theorem page_of_set {pages : List Form} {other : Nat} {found : Form} (held : pages[index]? = some form)
    (isFound : (pages.set index next)[other]? = some found) :
    other = index ∧ found = next ∨ other ≠ index ∧ pages[other]? = some found := by
  by_cases own : other = index
  · subst own
    rw [List.getElem?_set_self (List.getElem?_eq_some_iff.mp held).1] at isFound
    exact Or.inl ⟨rfl, (Option.some.inj isFound).symm⟩
  · rw [List.getElem?_set_ne (Ne.symm own)] at isFound
    exact Or.inr ⟨own, isFound⟩

/-- What a page sent is still there after some page has moved. -/
theorem sent_after {pages : List Form} {action : IngestForm.Action} {page place : Nat}
    (held : pages[index]? = some form)
    (stepped : IngestForm.step (browser index) form action = some next)
    (carried : ∃ form, pages[page]? = some form ∧ form.sent[place]? = some batch) :
    ∃ form, (pages.set index next)[page]? = some form ∧ form.sent[place]? = some batch := by
  obtain ⟨sender, isSender, sent⟩ := carried
  by_cases own : page = index
  · subst own
    cases held.symm.trans isSender
    refine ⟨next, List.getElem?_set_self (List.getElem?_eq_some_iff.mp held).1, ?_⟩
    obtain ⟨more, whole⟩ := sent_grows stepped
    rw [← whole, List.getElem?_append_left (List.getElem?_eq_some_iff.mp sent).1]
    exact sent
  · exact ⟨sender, by rwa [List.getElem?_set_ne (Ne.symm own)], sent⟩

theorem turn_sound {action : IngestForm.Action} (fresh : ∀ page, Function.Injective (browser page).randomUUID)
    (sound : Sound browser platform) (stepped : turn browser platform index action = some after)
    (told : ∀ form place reply batchId count, platform.pages[index]? = some form → action = .reply place reply →
      ingestBatch reply = .ok ⟨batchId, count⟩ → Told platform.edge form batchId count) :
    Sound browser after := by
  obtain ⟨form, held, next, moved, rfl⟩ := turn_eq_some.mp stepped
  refine ⟨sound.edge, sound.senders, fun other found isFound => ?_, fun position page place batch sender received => ?_⟩
  · rcases page_of_set held isFound with ⟨rfl, rfl⟩ | ⟨-, isFound⟩
    · exact page_step (fresh other) (sound.pages other form held) moved fun place reply batchId count =>
        told form place reply batchId count held
    · exact sound.pages other found isFound
  · exact sent_after held moved (sound.carried position page place batch sender received)

/-- The edge moves under the pages. -/
theorem Sound.with_edge (sound : Sound browser platform) {action : IngestEdge.Action}
    (stepped : IngestEdge.step platform.edge action = some edge')
    (length : edge'.requests.length = platform.edge.requests.length) :
    Sound browser { platform with edge := edge' } := by
  obtain ⟨edgeSound, grows⟩ := edge_step sound.edge stepped
  refine ⟨edgeSound, sound.senders.trans length.symm,
    fun index form held => (sound.pages index form held).mono grows, ?_⟩
  rw [grows.batchAt_eq length]
  exact sound.carried

/-- Of the requests and their senders, a request that comes in is the last. -/
theorem receive_cases {sender found : Option (Nat × Nat)} {other : IngestBatchInput}
    (senders : platform.senders.length = platform.edge.requests.length)
    (received : receive platform sender batch = some after) (isSender : after.senders[index]? = some found)
    (isBatch : batchAt after.edge index = some other) :
    platform.senders[index]? = some found ∧ batchAt platform.edge index = some other ∨
      found = sender ∧ other = batch := by
  cases received
  simp only [batchAt, List.map_append, List.map_cons, List.map_nil] at isBatch
  rcases Nat.lt_or_ge index platform.senders.length with old | new
  · rw [List.getElem?_append_left old] at isSender
    rw [List.getElem?_append_left (by rwa [List.length_map, ← senders])] at isBatch
    exact Or.inl ⟨isSender, isBatch⟩
  · rw [List.getElem?_append_right new, List.getElem?_singleton] at isSender
    rw [List.getElem?_append_right (by rwa [List.length_map, ← senders]), List.length_map, ← senders,
      List.getElem?_singleton] at isBatch
    by_cases last : index - platform.senders.length = 0
    · rw [if_pos last] at isSender isBatch
      exact Or.inr ⟨(Option.some.inj isSender).symm, (Option.some.inj isBatch).symm⟩
    · rw [if_neg last] at isSender
      cases isSender

theorem receive_sound {sender : Option (Nat × Nat)} (sound : Sound browser platform)
    (sent : ∀ page place, sender = some (page, place) →
      ∃ form, platform.pages[page]? = some form ∧ form.sent[place]? = some batch)
    (received : receive platform sender batch = some after) : Sound browser after := by
  have arrived := received
  cases received
  obtain ⟨edgeSound, grows⟩ := receive_grows sound.edge batch
  refine ⟨edgeSound, ?_, fun index form held => (sound.pages index form held).mono grows, ?_⟩
  · rw [List.length_append, List.length_append, sound.senders]
    rfl
  · intro index page place other isSender isBatch
    rcases receive_cases sound.senders arrived isSender isBatch with ⟨isSender, isBatch⟩ | ⟨same, rfl⟩
    · exact sound.carried index page place other isSender isBatch
    · exact sent page place same.symm

theorem advance_length {event : IngestEdge.Event}
    (stepped : IngestEdge.step edge (.advance index event) = some edge') :
    edge'.requests.length = edge.requests.length := by
  obtain ⟨request, held, shared, stage, proceeded, rfl⟩ := IngestEdge.step_advance.mp stepped
  exact List.length_set

/-- A queued batch is told to the page that sent it. -/
theorem told_of_answer {answer : Answer} {page place : Nat} {requestId code : Option String} {count : Int}
    (sound : Sound browser platform) (answered : platform.edge.requests[index]? = some ⟨batch, .answered answer⟩)
    (sender : platform.senders[index]? = some (some (page, place))) (held : platform.pages[page]? = some form)
    (ok : ingestBatch (readReply (respond 202 requestId (outcome code answer))) = .ok ⟨batchId, count⟩) :
    Told platform.edge form batchId count := by
  obtain ⟨received, rfl, same⟩ := readReply_ok ok
  have member := List.mem_of_getElem? answered
  have told := sound.edge.queued _ member batchId received rfl
  obtain ⟨sameId, sameCount⟩ : batchId = batch.batchId ∧ received = batch.measurements.length := by
    have equal : Answer.queued batchId received = accepted batch := by
      injection told
    cases equal
    exact ⟨rfl, rfl⟩
  have isBatch : batchAt platform.edge index = some batch := by
    rw [batchAt, List.getElem?_map, answered]
    rfl
  obtain ⟨owner, isOwner, sent⟩ := sound.carried index page place batch sender isBatch
  cases held.symm.trans isOwner
  refine ⟨batch, List.mem_of_getElem? sent, sameId.symm, ?_, _, member, ⟨rfl, sameId.symm⟩, told⟩
  rw [← sameCount]
  exact same.symm

theorem step_sound (fresh : ∀ page, Function.Injective (browser page).randomUUID) (sound : Sound browser platform)
    (stepped : step browser platform action = some after) : Sound browser after := by
  cases action with
  | mount =>
    cases stepped
    refine ⟨sound.edge, sound.senders, fun index form held => ?_, fun index page place batch sender received => ?_⟩
    · rcases Nat.lt_or_ge index platform.pages.length with old | new
      · rw [List.getElem?_append_left old] at held
        exact sound.pages index form held
      · rw [List.getElem?_append_right new, List.getElem?_singleton] at held
        split at held
        · rename_i last
          cases held
          obtain rfl : index = platform.pages.length := by omega
          exact ⟨IngestForm.mounted_paired _, List.forall_mem_nil _, nofun⟩
        · cases held
    · obtain ⟨form, held, sent⟩ := sound.carried index page place batch sender received
      exact ⟨form, by rwa [List.getElem?_append_left (List.getElem?_eq_some_iff.mp held).1], sent⟩
  | page index action =>
    cases action with
    | reply place reply => cases stepped
    | sitesLoaded _ | selectSite _ | updateRow _ _ _ | addRow | removeRow _ | submitBatch | retry | startOver =>
      exact turn_sound fresh sound stepped fun _ _ _ _ _ _ replied => by cases replied
  | arrive page place requestId =>
    obtain ⟨payload, found, arrived⟩ := Option.bind_eq_some_iff.mp stepped
    obtain ⟨form, held, sent⟩ := Option.bind_eq_some_iff.mp found
    have accepts := (sound.pages page form held).accepted payload (List.mem_of_getElem? sent)
    rw [transform_accepted accepts] at arrived
    refine receive_sound sound (fun otherPage otherPlace same => ?_) arrived
    cases same
    exact ⟨form, held, sent⟩
  | stranger batch => exact receive_sound sound (fun _ _ same => by cases same) stepped
  | edge action =>
    cases action with
    | receive batch => cases stepped
    | advance index event =>
      obtain ⟨edge', moved, rfl⟩ := Option.map_eq_some_iff.mp stepped
      exact sound.with_edge moved (advance_length moved)
    | expire slug batchId =>
      have moved : IngestEdge.step platform.edge (.expire slug batchId) = some _ := rfl
      cases stepped
      exact sound.with_edge moved rfl
  | answer index requestId code =>
    simp only [step] at stepped
    split at stepped
    · rename_i batch answer page place answered sender
      refine turn_sound fresh sound stepped fun form _ _ batchId count held replied ok => ?_
      cases replied
      exact told_of_answer sound answered sender held ok
    · cases stepped
  | fail page place reply =>
    simp only [step] at stepped
    split at stepped
    · cases stepped
    · rename_i failure failed
      refine turn_sound fresh sound stepped fun form _ _ batchId count held replied ok => ?_
      cases replied
      rw [failed] at ok
      cases ok

/-! ## Runs that keep the promise -/

/-- What a step does at the edge: nothing, a request comes in, or what the edge
itself does. -/
theorem edge_cases (stepped : step browser platform action = some after) :
    after.edge = platform.edge ∨
      (∃ batch, IngestEdge.step platform.edge (.receive batch) = some after.edge ∧
        (action = .stranger batch ∨ Accepted batch)) ∨
      ∃ own, action = .edge own ∧ (∀ batch, own ≠ .receive batch) ∧
        IngestEdge.step platform.edge own = some after.edge := by
  have turned : ∀ {index : Nat} {action : IngestForm.Action}, turn browser platform index action = some after →
      after.edge = platform.edge := by
    intro index action turned
    obtain ⟨form, held, next, moved, rfl⟩ := turn_eq_some.mp turned
    rfl
  cases action with
  | mount =>
    cases stepped
    exact Or.inl rfl
  | page index action =>
    cases action with
    | reply place reply => cases stepped
    | sitesLoaded _ | selectSite _ | updateRow _ _ _ | addRow | removeRow _ | submitBatch | retry | startOver =>
      exact Or.inl (turned stepped)
  | arrive page place requestId =>
    obtain ⟨payload, found, arrived⟩ := Option.bind_eq_some_iff.mp stepped
    split at arrived
    · rename_i batch passes
      obtain ⟨edge', moved, rfl⟩ := Option.map_eq_some_iff.mp arrived
      exact Or.inr (Or.inl ⟨batch, moved, Or.inr (accepted_of_transform passes)⟩)
    · exact Or.inl (turned arrived)
  | stranger batch =>
    cases stepped
    exact Or.inr (Or.inl ⟨batch, rfl, Or.inl rfl⟩)
  | edge action =>
    cases action with
    | receive batch => cases stepped
    | advance index event =>
      obtain ⟨edge', moved, rfl⟩ := Option.map_eq_some_iff.mp stepped
      exact Or.inr (Or.inr ⟨_, rfl, (fun _ same => by cases same), moved⟩)
    | expire slug batchId =>
      cases stepped
      exact Or.inr (Or.inr ⟨_, rfl, (fun _ same => by cases same), rfl⟩)
  | answer index requestId code =>
    simp only [step] at stepped
    split at stepped
    · exact Or.inl (turned stepped)
    · cases stepped
  | fail page place reply =>
    simp only [step] at stepped
    split at stepped
    · cases stepped
    · exact Or.inl (turned stepped)

theorem step_promise (kept : PromiseKept platform.edge)
    (keeps : ∀ own, action = .edge own → KeepsPromise platform.edge own)
    (stepped : step browser platform action = some after) : PromiseKept after.edge := by
  rcases edge_cases stepped with same | ⟨batch, moved, -⟩ | ⟨own, isOwn, -, moved⟩
  · rwa [same]
  · have promised : KeepsPromise platform.edge (.receive batch) := trivial
    exact IngestEdge.step_kept kept promised moved
  · exact IngestEdge.step_kept kept (keeps own isOwn) moved

/-- No page sends two payloads under one id. -/
def OnePayloads (platform : Platform) : Prop :=
  ∀ (index : Nat) (form : Form), platform.pages[index]? = some form → OnePayload form.sent

theorem turn_onePayloads {action : IngestForm.Action} (sound : Sound browser platform) (one : OnePayloads platform)
    (stepped : turn browser platform index action = some after)
    (allowed : ∀ form ∈ platform.pages[index]?, Unedited (browser index) form action) : OnePayloads after := by
  obtain ⟨form, held, next, moved, rfl⟩ := turn_eq_some.mp stepped
  intro other found isFound
  rcases page_of_set held isFound with ⟨rfl, rfl⟩ | ⟨-, isFound⟩
  · exact (IngestForm.step_onePayload_iff (sound.pages other form held).paired moved).mpr
      ⟨one other form held, allowed form held⟩
  · exact one other found isFound

theorem step_onePayloads (sound : Sound browser platform) (one : OnePayloads platform)
    (unedited : ∀ index own, action = .page index own →
      ∀ form ∈ platform.pages[index]?, Unedited (browser index) form own)
    (stepped : step browser platform action = some after) : OnePayloads after := by
  cases action with
  | mount =>
    cases stepped
    intro index form held
    rcases List.mem_append.mp (List.mem_of_getElem? held) with old | new
    · obtain ⟨position, found⟩ := List.mem_iff_getElem?.mp old
      exact one position form found
    · rw [List.mem_singleton.mp new]
      nofun
  | page index action =>
    cases action with
    | reply place reply => cases stepped
    | sitesLoaded _ | selectSite _ | updateRow _ _ _ | addRow | removeRow _ | submitBatch | retry | startOver =>
      exact turn_onePayloads sound one stepped (unedited index _ rfl)
  | arrive page place requestId =>
    obtain ⟨payload, found, arrived⟩ := Option.bind_eq_some_iff.mp stepped
    split at arrived
    · cases arrived
      exact one
    · exact turn_onePayloads sound one arrived fun _ _ => trivial
  | stranger batch =>
    cases stepped
    exact one
  | edge action =>
    cases action with
    | receive batch => cases stepped
    | advance index event =>
      obtain ⟨edge', moved, rfl⟩ := Option.map_eq_some_iff.mp stepped
      exact one
    | expire slug batchId =>
      cases stepped
      exact one
  | answer index requestId code =>
    simp only [step] at stepped
    split at stepped
    · exact turn_onePayloads sound one stepped fun _ _ => trivial
    · cases stepped
  | fail page place reply =>
    simp only [step] at stepped
    split at stepped
    · cases stepped
    · exact turn_onePayloads sound one stepped fun _ _ => trivial

structure Kept (platform : Platform) : Prop where
  edge : PromiseKept platform.edge
  pages : OnePayloads platform

theorem step_kept (sound : Sound browser platform) (kept : Kept platform) (keeps : Keeps browser platform action)
    (stepped : step browser platform action = some after) : Kept after where
  edge := step_promise kept.edge (fun own isOwn => by subst isOwn; exact keeps) stepped
  pages := step_onePayloads sound kept.pages (fun index own isOwn => by subst isOwn; exact keeps) stepped

/-! ## Runs in which other clients use other ids -/

/-- A request without a sender carries an id that no page draws. Ids are told
apart by their names. -/
def Foreign {γ : Type} (name : String → γ) (browser : Nat → Browser) (platform : Platform) : Prop :=
  ∀ index batch, platform.senders[index]? = some none → batchAt platform.edge index = some batch →
    ∀ page drawn, name batch.batchId ≠ name ((browser page).randomUUID drawn)

theorem turn_foreign {γ : Type} {name : String → γ} {action : IngestForm.Action}
    (foreign : Foreign name browser platform)
    (stepped : turn browser platform index action = some after) : Foreign name browser after := by
  obtain ⟨form, held, next, moved, rfl⟩ := turn_eq_some.mp stepped
  exact foreign

theorem receive_foreign {γ : Type} {name : String → γ} {sender : Option (Nat × Nat)} (sound : Sound browser platform)
    (foreign : Foreign name browser platform) (received : receive platform sender batch = some after)
    (apart : sender = none → ∀ page drawn, name batch.batchId ≠ name ((browser page).randomUUID drawn)) :
    Foreign name browser after := by
  intro index other isSender isBatch
  rcases receive_cases sound.senders received isSender isBatch with ⟨isSender, isBatch⟩ | ⟨same, rfl⟩
  · exact foreign index other isSender isBatch
  · exact apart same.symm

theorem step_foreign {γ : Type} {name : String → γ} (sound : Sound browser platform)
    (foreign : Foreign name browser platform)
    (apart : ∀ batch, action = .stranger batch →
      ∀ page drawn, name batch.batchId ≠ name ((browser page).randomUUID drawn))
    (stepped : step browser platform action = some after) : Foreign name browser after := by
  cases action with
  | mount =>
    cases stepped
    exact foreign
  | page index action =>
    cases action with
    | reply place reply => cases stepped
    | sitesLoaded _ | selectSite _ | updateRow _ _ _ | addRow | removeRow _ | submitBatch | retry | startOver =>
      exact turn_foreign foreign stepped
  | arrive page place requestId =>
    obtain ⟨payload, found, arrived⟩ := Option.bind_eq_some_iff.mp stepped
    split at arrived
    · exact receive_foreign sound foreign arrived (fun same => by cases same)
    · exact turn_foreign foreign arrived
  | stranger batch => exact receive_foreign sound foreign stepped fun _ => apart batch rfl
  | edge action =>
    cases action with
    | receive batch => cases stepped
    | advance index event =>
      obtain ⟨edge', moved, rfl⟩ := Option.map_eq_some_iff.mp stepped
      rw [Foreign, (edge_step sound.edge moved).2.batchAt_eq (advance_length moved)]
      exact foreign
    | expire slug batchId =>
      cases stepped
      exact foreign
  | answer index requestId code =>
    simp only [step] at stepped
    split at stepped
    · exact turn_foreign foreign stepped
    · cases stepped
  | fail page place reply =>
    simp only [step] at stepped
    split at stepped
    · cases stepped
    · exact turn_foreign foreign stepped

/-! ## Whole runs -/

theorem initial_sound (browser : Nat → Browser) (sitesValid sites : List String) :
    Sound browser (initial sitesValid sites) :=
  ⟨⟨List.forall_mem_nil _, List.forall_mem_nil _⟩, rfl, fun _ _ held => by simp [initial] at held,
    fun _ _ _ _ sender => by simp [initial] at sender⟩

theorem initial_kept (sitesValid sites : List String) : Kept (initial sitesValid sites) := by
  refine ⟨fun siteSlug batchId acknowledged => ?_, fun index form held => by simp [initial] at held⟩
  obtain ⟨request, member, -⟩ := acknowledged
  exact absurd member List.not_mem_nil

theorem initial_foreign {γ : Type} (name : String → γ) (browser : Nat → Browser) (sitesValid sites : List String) :
    Foreign name browser (initial sitesValid sites) := by
  intro index batch sender
  simp [initial] at sender

/-- What a page drew, no other page draws. -/
theorem only_sender {γ : Type} {name : String → γ}
    (fresh : Function.Injective fun place : Nat × Nat => name ((browser place.1).randomUUID place.2))
    (sound : Sound browser platform) (foreign : Foreign name browser platform)
    (held : platform.pages[index]? = some form) (sent : payload ∈ form.sent)
    (received : batch ∈ platform.edge.requests.map Request.batch) (same : name batch.batchId = name payload.batchId) :
    batch ∈ form.sent := by
  obtain ⟨position, isBatch⟩ := List.mem_iff_getElem?.mp received
  have drawnBy := (sound.pages index form held).paired.drawn payload sent
  obtain ⟨drawn, -, isDrawn⟩ := drawnBy
  have within : position < platform.senders.length := by
    rw [sound.senders, ← List.length_map Request.batch]
    exact (List.getElem?_eq_some_iff.mp isBatch).1
  obtain ⟨sender, isSender⟩ : ∃ sender, platform.senders[position]? = some sender :=
    ⟨_, List.getElem?_eq_getElem within⟩
  rw [isDrawn] at same
  cases sender with
  | none => exact absurd same (foreign position batch isSender isBatch index drawn)
  | some place =>
    obtain ⟨owner, isOwner, isSent⟩ := sound.carried position place.1 place.2 batch isSender isBatch
    obtain ⟨other, -, otherDrawn⟩ :=
      (sound.pages place.1 owner isOwner).paired.drawn batch (List.mem_of_getElem? isSent)
    rw [otherDrawn] at same
    have equal : (place.1, other) = (index, drawn) := fresh same
    obtain ⟨samePage, -⟩ := Prod.mk.inj equal
    rw [samePage] at isOwner
    cases held.symm.trans isOwner
    exact List.mem_of_getElem? isSent

/-- Whatever is in the topic under an id that a page drew is what the page sent. -/
theorem message_of_payload {γ : Type} {name : String → γ}
    (fresh : Function.Injective fun place : Nat × Nat => name ((browser place.1).randomUUID place.2))
    (sound : Sound browser platform) (one : OnePayloads platform) (foreign : Foreign name browser platform)
    (held : platform.pages[index]? = some form) (sent : payload ∈ form.sent) {message : String × KafkaIngestMessage}
    (member : message ∈ platform.edge.shared.topic) (same : name message.2.batchId = name payload.batchId) :
    message.2.toIngestBatchInput = payload := by
  have alsoSent := only_sender fresh sound foreign held sent (sound.edge.produced message member) same
  obtain ⟨drawn, -, isDrawn⟩ := (sound.pages index form held).paired.drawn payload sent
  obtain ⟨other, -, otherDrawn⟩ := (sound.pages index form held).paired.drawn _ alsoSent
  have sameDraw : (index, other) = (index, drawn) := fresh (by
    simp only
    rw [← otherDrawn, ← isDrawn]
    exact same)
  obtain ⟨-, rfl⟩ := Prod.mk.inj sameDraw
  exact IngestForm.onePayload_iff.mp (one index form held) _ alsoSent payload sent (otherDrawn.trans isDrawn.symm)

/-- **A success that is shown is delivered.** A page that shows a batch as
queued sent it with that many readings, and its message is in the topic or, while
requests are under way, about to be; and every message of that batch carries
what the page sent, however often it was sent, retried or received. -/
theorem shown_success_is_delivered (sitesValid sites : List String)
    (fresh : Function.Injective fun place : Nat × Nat => (browser place.1).randomUUID place.2)
    (apart : ∀ action ∈ actions, Apart browser action)
    (keeps : StepsMeet (step browser) (Keeps browser) (initial sitesValid sites) actions)
    (ran : run (step browser) (initial sitesValid sites) actions = some platform)
    (held : platform.pages[index]? = some form) {count : Int} (shown : form.status = .success batchId count) :
    ∃ payload ∈ form.sent, payload.batchId = batchId ∧ payload.measurements.length = count ∧
      Covered platform.edge payload.siteSlug batchId ∧
      (Quiet platform.edge → InTopic platform.edge.shared payload.siteSlug batchId) ∧
      ∀ message ∈ platform.edge.shared.topic, message.2.batchId = batchId → message.2.toIngestBatchInput = payload := by
  have pages : ∀ page, Function.Injective (browser page).randomUUID := by
    intro page first second same
    have equal : (page, first) = (page, second) := fresh same
    exact (Prod.mk.inj equal).2
  have start := initial_sound browser sitesValid sites
  have sound : Sound browser platform := run_invariant _ (fun sound stepped => step_sound pages sound stepped) start ran
  have kept : Sound browser platform ∧ Kept platform :=
    run_invariant_of_steps (fun platform => Sound browser platform ∧ Kept platform) (fun holds keeps stepped =>
      ⟨step_sound pages holds.1 stepped, step_kept holds.1 holds.2 keeps stepped⟩)
      ⟨start, initial_kept sitesValid sites⟩ keeps ran
  have foreign : Sound browser platform ∧ Foreign id browser platform :=
    run_invariant_of_kind (Apart browser) (fun platform => Sound browser platform ∧ Foreign id browser platform)
      (fun holds apart stepped =>
      ⟨step_sound pages holds.1 stepped,
        step_foreign holds.1 holds.2 (fun batch isStranger => by subst isStranger; exact apart) stepped⟩) apart
      ⟨start, initial_foreign id browser sitesValid sites⟩ ran
  obtain ⟨payload, sent, sameId, sameCount, told⟩ := (sound.pages index form held).shown batchId count shown
  refine ⟨payload, sent, sameId, sameCount, kept.2.edge _ _ told,
    fun quiet => IngestEdge.nothing_lost_of_kept kept.2.edge quiet _ _ told, fun message member ofBatch => ?_⟩
  exact message_of_payload fresh sound kept.2.pages foreign.2 held sent member (ofBatch.trans sameId.symm)

/-- The ids of the first pages are UUIDs. -/
def tab (page : Nat) : Browser :=
  ⟨fun index => "3f2a6c1e-8d4b-4c7a-9e5" ++ (toString page ++ ("-0b6d2f7a8c9" ++ toString index)),
    fun _ => some 1704067200000⟩

theorem tab_fresh : Function.Injective fun place : Nat × Nat => (tab place.1).randomUUID place.2 := by
  rintro ⟨page, index⟩ ⟨page', index'⟩ same
  have texts := congrArg String.toList ((String.append_right_inj _).mp same)
  simp only [String.toList_append] at texts
  have digital : ∀ value : Nat, '-' ∉ (toString value).toList := by
    intro value member
    exact absurd (DecimalText.toList_repr_digits member) (by decide)
  obtain ⟨pages, indices⟩ := DecimalText.split_at_first (digital page) (digital page') texts
  rw [DecimalText.eq_of_toString_nat (String.toList_injective pages)]
  have suffixes := List.append_cancel_left indices
  rw [DecimalText.eq_of_toString_nat (String.toList_injective suffixes)]

private def firstRow : String := (tab 0).randomUUID 1

/-- The reply to a batch is lost, and the retry is answered as a duplicate. -/
private def lostReply : List Action :=
  [.mount, .page 0 (.sitesLoaded (some ["north-plant"])), .page 0 (.updateRow firstRow .emissionPoint "stack-1"),
    .page 0 (.updateRow firstRow .recordedAtLocal "2024-01-01T00:00"),
    .page 0 (.updateRow firstRow .valueKgCo2e "1.5"), .page 0 .submitBatch, .arrive 0 0 (some "req-1"),
    .edge (.advance 0 (.siteCheck .replied .replied)), .edge (.advance 0 (.batchDedupe .replied)),
    .edge (.advance 0 (.send true 1704067201000)), .fail 0 0 (.unreachable "Failed to fetch"), .page 0 .retry,
    .arrive 0 1 (some "req-2"), .edge (.advance 1 (.siteCheck .replied .replied)),
    .edge (.advance 1 (.batchDedupe .replied)), .answer 1 (some "req-2") none]

theorem retried_success_is_delivered :
    ∃ platform form payload, run (step tab) (initial ["north-plant"] ["north-plant"]) lostReply = some platform ∧
      platform.pages[0]? = some form ∧ payload ∈ form.sent ∧ form.sent.length = 2 ∧
      InTopic platform.edge.shared payload.siteSlug payload.batchId := by
  obtain ⟨platform, ran, form, held, count, shown, acknowledged⟩ :
      ∃ platform ∈ run (step tab) (initial ["north-plant"] ["north-plant"]) lostReply,
        ∃ form ∈ platform.pages[0]?, form.sent.length = 2 ∧
          form.status = .success ((tab 0).randomUUID 0) 1 ∧
            ∀ request ∈ platform.edge.requests, request.IsAcknowledged := by decide +kernel
  have quiet : Quiet platform.edge := fun request member => ⟨_, acknowledged request member⟩
  obtain ⟨payload, sent, sameId, -, -, stored, -⟩ := shown_success_is_delivered ["north-plant"] ["north-plant"]
    tab_fresh (by simp [lostReply, Apart]) (by decide +kernel) ran held shown
  exact ⟨platform, form, payload, ran, held, sent, count, sameId ▸ stored quiet⟩

end EmissionsPlatform.FormDelivery
