import EmissionsPlatform.Foundation.Transition
import EmissionsPlatform.SiteContracts

/-! The ingest form of the web client (`IngestForm`) and the calls it makes
(`ingestBatch`). A run is any order of user events and replies; an event is
handled in the state the page shows, and only where the page offers it.

The backend treats a batch id as the name of one payload. The form draws a new
id whenever it has given the previous payload up, and keeps it for a retry, but
leaves the rows editable and Submit Batch enabled after an attempt that failed.
`one_payload_iff` says that this is the only way to send two payloads under one
id. -/
namespace EmissionsPlatform.IngestForm
open Contracts SiteContracts Transition Validation
set_option autoImplicit false

/-- What the form takes from the browser. -/
structure Browser where
  /-- `crypto.randomUUID()`: the values it returns, in order. -/
  randomUUID : Nat → String
  /-- `new Date(text).getTime()`; `none` is NaN. -/
  getTime : String → Option Int

structure MeasurementRow where
  id : String
  emissionPoint : String
  recordedAtLocal : String
  valueKgCo2e : String
  deriving DecidableEq

/-- What the page shows of the last attempt, without the errors of the fields. -/
inductive SubmitStatus
  | idle
  | submitting
  | retryableError (message : String)
  | fieldError
  | success (batchId : String) (count : Int)
  deriving DecidableEq

structure Form where
  batchId : String
  /-- The slugs of the sites. -/
  sites : List String
  sitesLoading : Bool
  selectedSlug : String
  rows : List MeasurementRow
  status : SubmitStatus
  /-- The payload of the most recent attempt. -/
  pendingPayload : Option IngestBatchInput
  /-- How many ids have been drawn. -/
  drawn : Nat
  /-- The bodies of all `POST /ingest` requests so far. -/
  sent : List IngestBatchInput
  /-- The requests without a reply, by their place in `sent`. -/
  waiting : List Nat
  deriving DecidableEq

/-- The data of a 202 response. -/
structure IngestAccepted where
  batchId : String
  measurementsReceived : Int
  deriving DecidableEq

def ingestAcceptedSchema : Schema IngestAccepted :=
  object fun field =>
    (both (uuidSchema (field "batch_id"))
      (both (literal "queued" (field "status")) (integer [nonnegative] (field "measurements_received")))).map
      fun (batchId, _, measurementsReceived) => ⟨batchId, measurementsReceived⟩

/-- `ingestBatch`, from the end of its request. -/
def ingestBatch (reply : Reply) : Except Failure IngestAccepted := apiFetch ingestAcceptedSchema reply

/-- The message of a failure after which the form offers a retry. -/
def retryMessage : Failure → Option String
  | .apiClientError error status =>
    if isRetryable status then some (error.message ++ " (HTTP " ++ toString status ++ ")") else none
  -- Its status is one of success.
  | .schemaMismatch _ _ => none
  | .error message => some message

inductive Field
  | emissionPoint
  | recordedAtLocal
  | valueKgCo2e
  deriving DecidableEq

inductive Action
  /-- The list of sites arrives, or cannot be loaded. -/
  | sitesLoaded (slugs : Option (List String))
  | selectSite (slug : String)
  | updateRow (id : String) (field : Field) (value : String)
  | addRow
  | removeRow (id : String)
  | submitBatch
  | retry
  | startOver
  | reply (request : Nat) (reply : Reply)

def newRow (id : String) : MeasurementRow := ⟨id, "", "", ""⟩

def MeasurementRow.update (row : MeasurementRow) (value : String) : Field → MeasurementRow
  | .emissionPoint => { row with emissionPoint := value }
  | .recordedAtLocal => { row with recordedAtLocal := value }
  | .valueKgCo2e => { row with valueKgCo2e := value }

/-- `recorded_at_ms` of a row. The schema refuses NaN like a value that is no
number. -/
def recordedAtMs (browser : Browser) (row : MeasurementRow) : Json :=
  if row.recordedAtLocal = "" then .number (.integer 0)
  else ((browser.getTime row.recordedAtLocal).map fun ms => .number (.integer ms)).getD .null

/-- The payload the form shows. -/
def raw (browser : Browser) (form : Form) : Json :=
  .object [("batch_id", .string form.batchId), ("site_slug", .string form.selectedSlug),
    ("measurements", .array (form.rows.map fun row => .object
      [("emission_point", .string row.emissionPoint), ("recorded_at_ms", recordedAtMs browser row),
        ("value_kg_co2e", .string row.valueKgCo2e)]))]

/-- `IngestBatchSchema.safeParse(raw)`. -/
def safeParse (browser : Browser) (form : Form) : Option IngestBatchInput :=
  (ingestBatchSchema (some (raw browser form))).toOption

/-- `submit`, up to its request. -/
def submit (form : Form) (payload : IngestBatchInput) : Form :=
  { form with
    status := .submitting, sent := form.sent ++ [payload], waiting := form.waiting ++ [form.sent.length] }

/-- `submit`, from the end of its request. -/
def settle (browser : Browser) (form : Form) (reply : Reply) : Form :=
  match ingestBatch reply with
  | .ok result =>
    { form with
      pendingPayload := none, status := .success result.batchId result.measurementsReceived
      rows := [newRow (browser.randomUUID form.drawn)], batchId := browser.randomUUID (form.drawn + 1)
      drawn := form.drawn + 2 }
  | .error failure =>
    match retryMessage failure with
    | some message => { form with status := .retryableError message }
    | none =>
      { form with
        status := .fieldError, pendingPayload := none, batchId := browser.randomUUID form.drawn
        drawn := form.drawn + 1 }

/-- The page shows the form, and not the banner of a queued batch. -/
def Form.shown (form : Form) : Bool :=
  match form.status with
  | .success _ _ => false
  | _ => true

def Form.retryable (form : Form) : Bool :=
  match form.status with
  | .retryableError _ => true
  | _ => false

/-- The Submit Batch button is there and not disabled. -/
def Form.submittable (form : Form) : Bool :=
  form.shown && !(form.status == .submitting || form.sitesLoading || form.sites.isEmpty)

def step (browser : Browser) (form : Form) : Action → Option Form
  | .sitesLoaded slugs =>
    if form.sitesLoading then
      let sites := slugs.getD form.sites
      let selectedSlug := ((slugs.getD []).head?).getD form.selectedSlug
      some { form with sites, selectedSlug, sitesLoading := false }
    else none
  | .selectSite slug =>
    if form.shown ∧ slug ∈ form.sites then some { form with selectedSlug := slug } else none
  | .updateRow id field value =>
    if form.shown then
      some { form with rows := form.rows.map fun row => if row.id = id then row.update value field else row }
    else none
  | .addRow =>
    if form.shown ∧ form.rows.length < 100 then
      some { form with
        rows := form.rows ++ [newRow (browser.randomUUID form.drawn)], drawn := form.drawn + 1 }
    else none
  | .removeRow id =>
    if form.shown then
      some { form with rows := if 1 < form.rows.length then form.rows.filter (·.id ≠ id) else form.rows }
    else none
  | .submitBatch =>
    if form.submittable then
      match safeParse browser form with
      | none => some { form with status := .fieldError }
      | some payload => some (submit { form with pendingPayload := some payload } payload)
    else none
  | .retry =>
    if form.retryable then
      match form.pendingPayload with
      | none => some form
      | some payload => some (submit form payload)
    else none
  | .startOver =>
    some { form with
      pendingPayload := none, rows := [newRow (browser.randomUUID form.drawn)]
      selectedSlug := form.sites.head?.getD "", status := .idle
      batchId := browser.randomUUID (form.drawn + 1), drawn := form.drawn + 2 }
  | .reply request reply =>
    if request ∈ form.waiting then
      some { settle browser form reply with waiting := form.waiting.erase request }
    else none

/-- The form as it is mounted. -/
def mounted (browser : Browser) : Form :=
  ⟨browser.randomUUID 0, [], true, "", [newRow (browser.randomUUID 1)], .idle, none, 2, [], []⟩

/-- No two requests with one batch id differ. -/
def OnePayload (sent : List IngestBatchInput) : Prop :=
  ∀ first ∈ sent, ∀ second ∈ sent, first.batchId = second.batchId →
    first.siteSlug = second.siteSlug ∧ first.measurements = second.measurements

/-- A payload that is submitted is the pending one, if there is one. -/
def Unedited (browser : Browser) (form : Form) : Action → Prop
  | .submitBatch => ∀ payload ∈ safeParse browser form, ∀ pending ∈ form.pendingPayload, pending = payload
  | _ => True

instance (browser : Browser) (form : Form) : ∀ action, Decidable (Unedited browser form action)
  | .submitBatch => inferInstanceAs (Decidable (∀ payload ∈ _, ∀ pending ∈ _, _))
  | .sitesLoaded _ | .selectSite _ | .updateRow _ _ _ | .addRow | .removeRow _ | .retry | .startOver
  | .reply _ _ => inferInstanceAs (Decidable True)

/-! ## One step -/

variable {browser : Browser} {form after : Form} {action : Action} {actions : List Action}
variable {payload : IngestBatchInput}

/-- The effect of a step on the pairing of batch ids and payloads. -/
inductive Effect (browser : Browser) (form after : Form) (action : Action) : Prop
  /-- Nothing is sent and the pending payload stays. -/
  | kept (batchId : after.batchId = form.batchId) (pending : after.pendingPayload = form.pendingPayload)
      (sent : after.sent = form.sent) (drawn : form.drawn ≤ after.drawn) (allowed : Unedited browser form action)
  /-- The pending payload is given up and a new id drawn. -/
  | renewed (index : Nat) (first : form.drawn ≤ index) (last : index < after.drawn)
      (batchId : after.batchId = browser.randomUUID index) (pending : after.pendingPayload = none)
      (sent : after.sent = form.sent) (allowed : Unedited browser form action)
  /-- A payload is sent under the present id, and is the pending one. -/
  | posted (payload : IngestBatchInput) (same : payload.batchId = form.batchId)
      (batchId : after.batchId = form.batchId) (pending : after.pendingPayload = some payload)
      (sent : after.sent = form.sent ++ [payload]) (drawn : after.drawn = form.drawn)
      (allowed : Unedited browser form action ↔ ∀ old ∈ form.pendingPayload, old = payload)

/-- The pending payload carries the present id and was sent; where there is
none, the present id was never sent. -/
structure Paired (browser : Browser) (form : Form) : Prop where
  current : ∃ index < form.drawn, form.batchId = browser.randomUUID index
  drawn : ∀ payload ∈ form.sent, ∃ index < form.drawn, payload.batchId = browser.randomUUID index
  pending : ∀ payload ∈ form.pendingPayload, payload ∈ form.sent ∧ payload.batchId = form.batchId
  unsent : form.pendingPayload = none → ∀ payload ∈ form.sent, payload.batchId ≠ form.batchId

/-- The schema passes the batch id on. -/
theorem safeParse_batchId (parsed : safeParse browser form = some payload) : payload.batchId = form.batchId := by
  have accepted : ingestBatchSchema (some (raw browser form)) = .ok payload := by
    unfold safeParse at parsed
    cases checked : ingestBatchSchema (some (raw browser form)) with
    | error messages => simp [checked, Except.toOption] at parsed
    | ok value => simpa [checked, Except.toOption] using parsed
  unfold ingestBatchSchema object raw ingestBatchShape at accepted
  obtain ⟨fields, checked, rfl⟩ := map_eq_ok.mp accepted
  have batchId := string_eq_ok.mp (both_eq_ok.mp checked).1
  simpa using batchId.1.symm

/-- An answer that does not match its schema is no reason to offer a retry. -/
theorem mismatch_not_retryable {reply : Reply} {issues : List String} {status : Nat}
    (failed : ingestBatch reply = .error (.schemaMismatch issues status)) : isRetryable status = false := by
  cases reply with
  | unreachable message => cases failed
  | unreadable message => cases failed
  | response received raw =>
    simp only [ingestBatch, apiFetch] at failed
    split at failed
    · rename_i success
      split at failed
      · cases failed
      · cases failed
        simp only [isRetryable, Bool.or_eq_false_iff, decide_eq_false_iff_not, beq_eq_false_iff_ne]
        omega
    · split at failed <;> cases failed

theorem settle_effect (reply : Reply) (waiting : List Nat) (quiet : Unedited browser form action) :
    Effect browser form { settle browser form reply with waiting } action := by
  unfold settle
  split
  · exact .renewed (form.drawn + 1) (by omega) (by simp) rfl rfl rfl quiet
  · split
    · exact .kept rfl rfl rfl (Nat.le_refl _) quiet
    · exact .renewed form.drawn (Nat.le_refl _) (by simp) rfl rfl rfl quiet

theorem step_effect (paired : Paired browser form) (stepped : step browser form action = some after) :
    Effect browser form after action := by
  cases action with
  | sitesLoaded slugs =>
    obtain ⟨_, same⟩ := Option.ite_none_right_eq_some.mp stepped
    cases same
    exact .kept rfl rfl rfl (Nat.le_refl _) trivial
  | selectSite slug =>
    obtain ⟨_, same⟩ := Option.ite_none_right_eq_some.mp stepped
    cases same
    exact .kept rfl rfl rfl (Nat.le_refl _) trivial
  | updateRow id field value =>
    obtain ⟨_, same⟩ := Option.ite_none_right_eq_some.mp stepped
    cases same
    exact .kept rfl rfl rfl (Nat.le_refl _) trivial
  | addRow =>
    obtain ⟨_, same⟩ := Option.ite_none_right_eq_some.mp stepped
    cases same
    exact .kept rfl rfl rfl (Nat.le_succ _) trivial
  | removeRow id =>
    obtain ⟨_, same⟩ := Option.ite_none_right_eq_some.mp stepped
    cases same
    exact .kept rfl rfl rfl (Nat.le_refl _) trivial
  | submitBatch =>
    obtain ⟨_, submitted⟩ := Option.ite_none_right_eq_some.mp stepped
    split at submitted
    · rename_i refused
      cases submitted
      exact .kept rfl rfl rfl (Nat.le_refl _) (by simp [Unedited, refused])
    · rename_i payload parsed
      cases submitted
      exact .posted payload (safeParse_batchId parsed) rfl rfl rfl rfl (by simp [Unedited, parsed])
  | retry =>
    obtain ⟨_, retried⟩ := Option.ite_none_right_eq_some.mp stepped
    split at retried
    · cases retried
      exact .kept rfl rfl rfl (Nat.le_refl _) trivial
    · rename_i payload pending
      cases retried
      exact .posted payload (paired.pending payload pending).2 rfl pending rfl rfl (by simp [Unedited, pending])
  | startOver =>
    cases stepped
    exact .renewed (form.drawn + 1) (by omega) (by simp) rfl rfl rfl trivial
  | reply request reply =>
    obtain ⟨_, same⟩ := Option.ite_none_right_eq_some.mp stepped
    cases same
    exact settle_effect reply _ trivial

/-! ## A whole run -/

theorem mounted_paired (browser : Browser) : Paired browser (mounted browser) :=
  ⟨⟨0, Nat.zero_lt_two, rfl⟩, nofun, nofun, fun _ => nofun⟩

theorem step_paired (fresh : Function.Injective browser.randomUUID) (paired : Paired browser form)
    (stepped : step browser form action = some after) : Paired browser after := by
  have effect := step_effect paired stepped
  obtain ⟨⟨index, before, current⟩, sentDrawn, pendingSent, unsent⟩ := paired
  cases effect with
  | kept batchId pending sent drawn _ =>
    refine ⟨⟨index, Nat.lt_of_lt_of_le before drawn, batchId.trans current⟩, ?_, ?_, ?_⟩
    · rw [sent]
      intro payload member
      obtain ⟨other, otherBefore, same⟩ := sentDrawn payload member
      exact ⟨other, Nat.lt_of_lt_of_le otherBefore drawn, same⟩
    · rw [pending, sent, batchId]
      exact pendingSent
    · rw [pending, sent, batchId]
      exact unsent
  | renewed next first last batchId pending sent _ =>
    refine ⟨⟨next, last, batchId⟩, ?_, ?_, ?_⟩
    · rw [sent]
      intro payload member
      obtain ⟨other, otherBefore, same⟩ := sentDrawn payload member
      exact ⟨other, by omega, same⟩
    · rw [pending]
      nofun
    · rw [sent, batchId]
      intro _ payload member same
      obtain ⟨other, otherBefore, drawnAt⟩ := sentDrawn payload member
      have := fresh (drawnAt.symm.trans same)
      omega
  | posted payload same batchId pending sent drawn _ =>
    refine ⟨⟨index, drawn ▸ before, batchId.trans current⟩, ?_, ?_, ?_⟩
    · rw [sent, drawn]
      intro other member
      rcases List.mem_append.mp member with old | new
      · exact sentDrawn other old
      · rw [List.mem_singleton.mp new]
        exact ⟨index, before, same.trans current⟩
    · rw [pending, sent, batchId]
      rintro other isPending
      cases isPending
      exact ⟨List.mem_append_right _ (List.mem_singleton_self _), same⟩
    · rw [pending]
      nofun

/-- A batch id and the rest of a payload are all of it. -/
theorem onePayload_iff {sent : List IngestBatchInput} :
    OnePayload sent ↔ ∀ first ∈ sent, ∀ second ∈ sent, first.batchId = second.batchId → first = second := by
  constructor
  · rintro one ⟨batchId, siteSlug, measurements⟩ member ⟨batchId', siteSlug', measurements'⟩ member' rfl
    obtain ⟨rfl, rfl⟩ := one _ member _ member' rfl
    rfl
  · intro one first member second member' same
    rw [one first member second member' same]
    exact ⟨rfl, rfl⟩

/-- The step lemma: a step keeps one payload for each id exactly when it submits
none or the pending one. -/
theorem step_onePayload_iff (paired : Paired browser form) (stepped : step browser form action = some after) :
    OnePayload after.sent ↔ OnePayload form.sent ∧ Unedited browser form action := by
  cases step_effect paired stepped with
  | kept _ _ sent _ allowed =>
    rw [sent]
    exact (and_iff_left allowed).symm
  | renewed _ _ _ _ _ sent allowed =>
    rw [sent]
    exact (and_iff_left allowed).symm
  | posted payload same _ _ sent _ allowed =>
    rw [sent, allowed, onePayload_iff, onePayload_iff]
    constructor
    · intro one
      refine ⟨fun first member second member' => ?_, fun old pending => ?_⟩
      · exact one first (List.mem_append_left _ member) second (List.mem_append_left _ member')
      · obtain ⟨wasSent, batchId⟩ := paired.pending old pending
        exact one old (List.mem_append_left _ wasSent) payload
          (List.mem_append_right _ (List.mem_singleton_self _)) (batchId.trans same.symm)
    · rintro ⟨one, unedited⟩
      -- A payload sent under the present id is the pending one.
      have named : ∀ other ∈ form.sent, other.batchId = payload.batchId → other = payload := by
        intro other member sameId
        cases pending : form.pendingPayload with
        | none => exact absurd (sameId.trans same) (paired.unsent pending other member)
        | some old =>
          obtain ⟨wasSent, batchId⟩ := paired.pending old pending
          rw [← unedited old pending]
          exact one other member old wasSent ((sameId.trans same).trans batchId.symm)
      intro first member second member' sameId
      rcases List.mem_append.mp member with old | new
      · rcases List.mem_append.mp member' with old' | new'
        · exact one first old second old' sameId
        · rw [List.mem_singleton.mp new'] at sameId ⊢
          exact named first old sameId
      · rw [List.mem_singleton.mp new] at sameId ⊢
        rcases List.mem_append.mp member' with old' | new'
        · exact (named second old' sameId.symm).symm
        · exact (List.mem_singleton.mp new').symm

/-- **One batch id carries one payload** in a run of the form exactly when every
payload that was submitted anew was the pending one. -/
theorem one_payload_iff (fresh : Function.Injective browser.randomUUID)
    (ran : run (step browser) (mounted browser) actions = some form) :
    OnePayload form.sent ↔ StepsMeet (step browser) (Unedited browser) (mounted browser) actions := by
  have start : OnePayload (mounted browser).sent := nofun
  rw [run_holds_iff (Paired browser) (fun form => OnePayload form.sent)
    (fun paired stepped => step_paired fresh paired stepped)
    (fun paired stepped => step_onePayload_iff paired stepped) (mounted_paired browser) ran]
  exact and_iff_right start

/-- The ids drawn first are UUIDs. -/
private def chrome : Browser :=
  ⟨fun index => "3f2a6c1e-8d4b-4c7a-9e51-0b6d2f7a8c9" ++ toString index, fun _ => some 1704067200000⟩

private theorem chrome_fresh : Function.Injective chrome.randomUUID := by
  intro first second same
  exact DecimalText.eq_of_toString_nat ((String.append_right_inj _).mp same)

private def rowId : String := "3f2a6c1e-8d4b-4c7a-9e51-0b6d2f7a8c91"

/-- The form is filled in and submitted, and the request gets no answer. -/
private def failedSubmit : List Action :=
  [.sitesLoaded (some ["north-plant"]), .updateRow rowId .emissionPoint "stack-1",
    .updateRow rowId .recordedAtLocal "2024-01-01T00:00", .updateRow rowId .valueKgCo2e "1.5", .submitBatch,
    .reply 0 (.unreachable "Failed to fetch")]

private def payloadOf (value : String) : IngestBatchInput :=
  ⟨"3f2a6c1e-8d4b-4c7a-9e51-0b6d2f7a8c90", "north-plant", [⟨"stack-1", 1704067200000, value⟩]⟩

/-- A retry sends the payload of the first attempt, whatever the rows have
become. -/
theorem retried_payload_is_the_same :
    ∃ form, run (step chrome) (mounted chrome)
        (failedSubmit ++ [.updateRow rowId .valueKgCo2e "2.5", .retry]) = some form ∧
      form.sent = [payloadOf "1.5", payloadOf "1.5"] ∧ OnePayload form.sent := by
  obtain ⟨form, ran, sent⟩ : ∃ form ∈ run (step chrome) (mounted chrome)
      (failedSubmit ++ [.updateRow rowId .valueKgCo2e "2.5", .retry]),
      form.sent = [payloadOf "1.5", payloadOf "1.5"] := by decide +kernel
  exact ⟨form, ran, sent, (one_payload_iff chrome_fresh ran).mpr (by decide +kernel)⟩

/-- Editing a row after the failure and submitting again sends another payload
under the id of the first. -/
theorem edited_payload_reuses_its_id :
    ¬ ∀ browser : Browser, Function.Injective browser.randomUUID → ∀ actions form,
      run (step browser) (mounted browser) actions = some form → OnePayload form.sent := by
  intro always
  obtain ⟨form, ran, sent⟩ : ∃ form ∈ run (step chrome) (mounted chrome)
      (failedSubmit ++ [.updateRow rowId .valueKgCo2e "2.5", .submitBatch]),
      form.sent = [payloadOf "1.5", payloadOf "2.5"] := by decide +kernel
  have one := always chrome chrome_fresh _ form ran
  rw [sent] at one
  have same := (one (payloadOf "1.5") (by simp) (payloadOf "2.5") (by simp) rfl).2
  exact absurd same (by decide)

end EmissionsPlatform.IngestForm
