import EmissionsPlatform.IngestEdge

/-! How often one batch is produced. The edge may put a batch into the topic
more than once: a request whose dedupe call threw produces anyway, and a failed
produce removes the dedupe entry whoever has set it. `liability` counts the
messages of a batch, the requests that may still append one or remove its
entry, and one for the next request when there is no entry. Only a dedupe call
that throws and an entry that expires raise it. -/
namespace EmissionsPlatform.ProduceBound
open Contracts Transition IngestEdge
set_option autoImplicit false

/-- The messages of a batch in the topic. -/
def appended (siteSlug batchId : String) (topic : List (String × KafkaIngestMessage)) : Nat :=
  topic.countP fun message => message.2.siteSlug = siteSlug ∧ message.2.batchId = batchId

/-- A `batchDedupe` call that throws, having run the script or not. -/
def dedupeThrew : Event → Bool
  | .batchDedupe (.threw _) => true
  | _ => false

/-- The step is a `batchDedupe` call of the batch that throws. -/
def DedupeThrows (siteSlug batchId : String) (edge : Edge) : Action → Prop
  | .advance index event => dedupeThrew event ∧ ∃ request ∈ edge.requests[index]?, request.IsFor siteSlug batchId
  | _ => False

/-- The step is the expiry of the batch's dedupe field. -/
def FieldExpires (siteSlug batchId : String) (edge : Edge) (action : Action) : Prop :=
  action = .expire siteSlug batchId ∧ (dedupeKey siteSlug, batchId) ∈ edge.shared.dedupe

instance (siteSlug batchId : String) (edge : Edge) : ∀ action, Decidable (DedupeThrows siteSlug batchId edge action)
  | .advance _ _ => inferInstanceAs (Decidable (_ ∧ ∃ request ∈ _, _))
  | .receive _ | .expire _ _ => inferInstanceAs (Decidable False)

instance (siteSlug batchId : String) (edge : Edge) (action : Action) :
    Decidable (FieldExpires siteSlug batchId edge action) :=
  inferInstanceAs (Decidable (_ ∧ _))

/-- The number of `batchDedupe` calls of the batch that threw. -/
def dedupeThrows (siteSlug batchId : String) : Edge → List Action → Nat :=
  runCost step fun edge action => if DedupeThrows siteSlug batchId edge action then 1 else 0

/-- The number of expiries of the batch's dedupe field. -/
def fieldExpiries (siteSlug batchId : String) : Edge → List Action → Nat :=
  runCost step fun edge action => if FieldExpires siteSlug batchId edge action then 1 else 0

/-- The request may still append a message of the batch, or remove its entry. -/
def atRisk (siteSlug batchId : String) (request : Request) : Bool :=
  request.IsFor siteSlug batchId ∧ (request.stage = .produce ∨ request.stage = .revert)

/-- One for the next request, which produces when it finds no entry. -/
def openings (siteSlug batchId : String) (dedupe : List (String × String)) : Nat :=
  if dedupe.contains (dedupeKey siteSlug, batchId) then 0 else 1

def liability (siteSlug batchId : String) (edge : Edge) : Nat :=
  appended siteSlug batchId edge.shared.topic + openings siteSlug batchId edge.shared.dedupe +
    edge.requests.countP (atRisk siteSlug batchId)

/-! ## One call -/

variable {edge after : Edge} {shared shared' : Shared} {request : Request} {index : Nat} {event : Event}
variable {action : Action} {actions : List Action} {stage : Stage} {siteSlug batchId : String}
variable {dedupe : List (String × String)}

/-- A hash key names its site: all of them have one prefix. -/
theorem dedupeKey_inj {first second : String} (same : dedupeKey first = dedupeKey second) :
    first = second := by
  simpa [dedupeKey] using same

/-- An entry is one batch's. -/
theorem entry_eq_iff :
    (dedupeKey request.batch.siteSlug, request.batch.batchId) = (dedupeKey siteSlug, batchId) ↔
      request.IsFor siteSlug batchId := by
  simp only [Prod.mk.injEq, Request.IsFor]
  exact ⟨fun same => ⟨dedupeKey_inj same.1, same.2⟩, fun same => ⟨congrArg dedupeKey same.1, same.2⟩⟩

theorem openings_le_one (siteSlug batchId : String) (dedupe : List (String × String)) :
    openings siteSlug batchId dedupe ≤ 1 := by
  unfold openings
  split <;> decide

/-- The script closes the batch's opening and no other. -/
theorem openings_script (siteSlug batchId : String) (dedupe : List (String × String)) (request : Request) :
    openings siteSlug batchId
        (batchDedupeScript dedupe (dedupeKey request.batch.siteSlug) request.batch.batchId).1 =
      if request.IsFor siteSlug batchId then 0 else openings siteSlug batchId dedupe := by
  unfold batchDedupeScript
  by_cases own : request.IsFor siteSlug batchId
  · obtain ⟨rfl, rfl⟩ := own
    split <;> simp_all [openings, Request.IsFor]
  · have other : (dedupeKey siteSlug, batchId) ≠ (dedupeKey request.batch.siteSlug, request.batch.batchId) :=
      fun same => own (entry_eq_iff.mp same.symm)
    split <;> simp [openings, other]

/-- The script reports first sight exactly when the entry was missing. -/
theorem script_first (dedupe : List (String × String)) (key field : String) :
    (batchDedupeScript dedupe key field).2 = decide ((key, field) ∉ dedupe) := by
  unfold batchDedupeScript
  split <;> simp [*]

/-- Removing an entry opens nothing to another batch, and one to its own. -/
theorem openings_filter (siteSlug batchId : String) (dedupe : List (String × String)) (entry : String × String) :
    openings siteSlug batchId (dedupe.filter (· ≠ entry)) =
      if entry = (dedupeKey siteSlug, batchId) then 1 else openings siteSlug batchId dedupe := by
  by_cases own : entry = (dedupeKey siteSlug, batchId)
  · simp [openings, own]
  · simp [openings, own, Ne.symm own]

/-- What a batch has cost and may cost through one request. -/
def exposure (siteSlug batchId : String) (shared : Shared) (request : Request) : Nat :=
  appended siteSlug batchId shared.topic + openings siteSlug batchId shared.dedupe +
    (atRisk siteSlug batchId request).toNat

/-- An answered request is no risk any more. -/
private theorem atRisk_answered (siteSlug batchId : String) (request : Request) (answer : Answer) :
    atRisk siteSlug batchId { request with stage := .answered answer } = false := by
  simp [atRisk]

/-- A request that is not for the batch is no risk to it. -/
private theorem atRisk_of_other (other : ¬ request.IsFor siteSlug batchId) (stage : Stage) :
    atRisk siteSlug batchId { request with stage } = false := by
  have stillOther : ¬ ({ request with stage } : Request).IsFor siteSlug batchId := other
  simp [atRisk, stillOther]

private theorem assertSiteValid_harmless (shared : Shared) (siteSlug : String) (sismember lookup : Call) :
    assertSiteValid shared sismember lookup siteSlug ≠ .produce ∧
      assertSiteValid shared sismember lookup siteSlug ≠ .revert := by
  cases sismember with
  | replied =>
    simp only [assertSiteValid]
    split <;> simp
  | threw ran =>
    cases lookup with
    | replied =>
      simp only [assertSiteValid]
      split <;> simp
    | threw ran => simp [assertSiteValid]

/-- A request that finds no entry produces, and has set it. -/
private theorem exposure_of_reply (siteSlug batchId : String) (shared : Shared) (request : Request) :
    let script := batchDedupeScript shared.dedupe (dedupeKey request.batch.siteSlug) request.batch.batchId
    exposure siteSlug batchId { shared with dedupe := script.1 }
        { request with stage := if script.2 then .produce else .answered (accepted request.batch) } ≤
      exposure siteSlug batchId shared request := by
  simp only [exposure, openings_script, script_first]
  by_cases own : request.IsFor siteSlug batchId
  · rw [if_pos own]
    by_cases present : (dedupeKey request.batch.siteSlug, request.batch.batchId) ∈ shared.dedupe
    · simp only [present, not_true_eq_false, decide_false, Bool.false_eq_true, if_false, atRisk_answered,
        Bool.toNat_false]
      omega
    · have opening : openings siteSlug batchId shared.dedupe = 1 := by
        rw [entry_eq_iff.mpr own] at present
        simp [openings, present]
      have := Bool.toNat_le (atRisk siteSlug batchId { request with stage := .produce })
      simp only [present, not_false_eq_true, decide_true, if_true]
      omega
  · rw [if_neg own, atRisk_of_other own, Bool.toNat_false]
    omega

/-- A request whose dedupe call threw produces whatever the entry says. -/
private theorem exposure_of_throw (siteSlug batchId : String) (shared : Shared) (request : Request) (ran : Bool) :
    let script := batchDedupeScript shared.dedupe (dedupeKey request.batch.siteSlug) request.batch.batchId
    exposure siteSlug batchId (if ran then { shared with dedupe := script.1 } else shared)
        { request with stage := .produce } ≤
      exposure siteSlug batchId shared request + if request.IsFor siteSlug batchId then 1 else 0 := by
  have closed : (if request.IsFor siteSlug batchId then 0 else openings siteSlug batchId shared.dedupe) ≤
      openings siteSlug batchId shared.dedupe := by
    split <;> omega
  have risked : (atRisk siteSlug batchId { request with stage := .produce }).toNat ≤
      if request.IsFor siteSlug batchId then 1 else 0 := by
    by_cases own : request.IsFor siteSlug batchId
    · rw [if_pos own]
      exact Bool.toNat_le _
    · simp [atRisk_of_other own]
  cases ran with
  | true =>
    simp only [exposure, if_true, openings_script]
    omega
  | false =>
    simp only [exposure, Bool.false_eq_true, if_false]
    omega

/-- A message is appended by a request that was about to produce it. -/
private theorem exposure_of_produce (siteSlug batchId : String) (shared : Shared) (receivedAtMs : Int)
    (producing : request.stage = .produce) (answer : Answer) :
    exposure siteSlug batchId { shared with topic := shared.topic ++
        [(request.batch.siteSlug, { request.batch with receivedAtMs })] }
        { request with stage := .answered answer } = exposure siteSlug batchId shared request := by
  by_cases own : request.IsFor siteSlug batchId
  · have risky : atRisk siteSlug batchId request = true := by simp [atRisk, own, producing]
    have counted : request.batch.siteSlug = siteSlug ∧ request.batch.batchId = batchId := own
    simp [exposure, appended, List.countP_append, atRisk_answered, risky, counted]
    omega
  · have safe : atRisk siteSlug batchId request = false := atRisk_of_other own request.stage
    have uncounted : ¬ (request.batch.siteSlug = siteSlug ∧ request.batch.batchId = batchId) := own
    simp [exposure, appended, List.countP_append, atRisk_answered, safe, uncounted]

/-- An entry is removed by a request whose produce failed. -/
private theorem exposure_of_revert (siteSlug batchId : String) (shared : Shared)
    (reverting : request.stage = .revert) (answer : Answer) (call : Call) :
    exposure siteSlug batchId (if call = .threw false then shared else { shared with
        dedupe := shared.dedupe.filter (· ≠ (dedupeKey request.batch.siteSlug, request.batch.batchId)) })
        { request with stage := .answered answer } ≤ exposure siteSlug batchId shared request := by
  have below := openings_le_one siteSlug batchId shared.dedupe
  by_cases lost : call = .threw false
  · simp only [exposure, if_pos lost, atRisk_answered, Bool.toNat_false]
    omega
  · simp only [exposure, if_neg lost, openings_filter, atRisk_answered, Bool.toNat_false, entry_eq_iff]
    by_cases own : request.IsFor siteSlug batchId
    · have risky : atRisk siteSlug batchId request = true := by simp [atRisk, own, reverting]
      simp only [if_pos own, risky, Bool.toNat_true]
      omega
    · simp only [if_neg own]
      omega

/-- The call lemma: only a dedupe call that throws adds to what a request may
cost. -/
theorem proceed_exposure (siteSlug batchId : String)
    (proceeded : proceed shared request event = some (shared', stage)) :
    exposure siteSlug batchId shared' { request with stage } ≤ exposure siteSlug batchId shared request +
      if dedupeThrew event ∧ request.IsFor siteSlug batchId then 1 else 0 := by
  cases event with
  | siteCheck sismember lookup =>
    simp only [proceed] at proceeded
    split at proceeded
    · rename_i checking
      cases proceeded
      obtain ⟨notProduce, notRevert⟩ := assertSiteValid_harmless shared request.batch.siteSlug sismember lookup
      simp [exposure, atRisk, notProduce, notRevert, checking]
    · cases proceeded
  | batchDedupe call =>
    simp only [proceed] at proceeded
    split at proceeded
    · cases call with
      | replied =>
        cases proceeded
        exact Nat.le_add_right_of_le (exposure_of_reply siteSlug batchId shared request)
      | threw ran =>
        cases proceeded
        simpa [dedupeThrew] using exposure_of_throw siteSlug batchId shared request ran
    · cases proceeded
  | send succeeds receivedAtMs =>
    simp only [proceed] at proceeded
    split at proceeded
    · rename_i producing
      cases succeeds with
      | true =>
        cases proceeded
        exact Nat.le_add_right_of_le (exposure_of_produce siteSlug batchId shared receivedAtMs producing _).le
      | false =>
        cases proceeded
        simp [exposure, atRisk, producing, Request.IsFor]
    · cases proceeded
  | hdel call =>
    simp only [proceed] at proceeded
    split at proceeded
    · rename_i reverting
      cases proceeded
      exact Nat.le_add_right_of_le (exposure_of_revert siteSlug batchId shared reverting _ call)
    · cases proceeded

/-! ## A whole run -/

/-- The step lemma: what a step adds to the liability is a dedupe call of the
batch that throws, or the expiry of its field. -/
theorem step_liability (siteSlug batchId : String) (stepped : step edge action = some after) :
    liability siteSlug batchId after ≤ liability siteSlug batchId edge +
      ((if DedupeThrows siteSlug batchId edge action then 1 else 0) +
        if FieldExpires siteSlug batchId edge action then 1 else 0) := by
  cases action with
  | receive batch =>
    cases stepped
    simp [liability, List.countP_append, atRisk]
  | advance index event =>
    obtain ⟨request, held, shared, stage, proceeded, rfl⟩ := step_advance.mp stepped
    have moved := countP_set_add (atRisk siteSlug batchId) { request with stage } held
    have paid := proceed_exposure siteSlug batchId proceeded
    have thrown : DedupeThrows siteSlug batchId edge (.advance index event) ↔
        dedupeThrew event ∧ request.IsFor siteSlug batchId := by
      simp [DedupeThrows, held]
    simp only [exposure] at paid
    simp only [liability, thrown]
    omega
  | expire slug batch =>
    cases stepped
    simp only [liability, openings_filter]
    by_cases own : (dedupeKey slug, batch) = (dedupeKey siteSlug, batchId)
    · obtain ⟨sameKey, rfl⟩ := Prod.mk.inj own
      cases dedupeKey_inj sameKey
      by_cases present : (dedupeKey siteSlug, batch) ∈ edge.shared.dedupe
      · have expires : FieldExpires siteSlug batch edge (.expire siteSlug batch) := ⟨rfl, present⟩
        simp only [if_true, if_pos expires]
        omega
      · have opening : openings siteSlug batch edge.shared.dedupe = 1 := by simp [openings, present]
        simp only [if_true, opening]
        omega
    · simp only [if_neg own]
      omega

/-- **The edge admits a bounded number of produces**: one, one more for each
dedupe call of the batch that threw, and one more for each expiry of its dedupe
field. With neither it admits one, whichever requests race or fail. -/
theorem produces_are_bounded (sitesValid sites : List String) (siteSlug batchId : String)
    (ran : run step (initial sitesValid sites) actions = some edge) :
    appended siteSlug batchId edge.shared.topic ≤
        1 + dedupeThrows siteSlug batchId (initial sitesValid sites) actions +
          fieldExpiries siteSlug batchId (initial sitesValid sites) actions ∧
      (dedupeThrows siteSlug batchId (initial sitesValid sites) actions = 0 →
        fieldExpiries siteSlug batchId (initial sitesValid sites) actions = 0 →
          appended siteSlug batchId edge.shared.topic ≤ 1) := by
  have bounded : liability siteSlug batchId edge ≤ liability siteSlug batchId (initial sitesValid sites) +
      (dedupeThrows siteSlug batchId (initial sitesValid sites) actions +
        fieldExpiries siteSlug batchId (initial sitesValid sites) actions) := by
    rw [dedupeThrows, fieldExpiries, ← runCost_add]
    exact run_measure_le (liability siteSlug batchId) _ (fun _ _ _ => step_liability siteSlug batchId) ran
  have start : liability siteSlug batchId (initial sitesValid sites) = 1 := by
    simp [liability, initial, appended, openings]
  have counted : appended siteSlug batchId edge.shared.topic ≤ liability siteSlug batchId edge := by
    unfold liability
    omega
  have bound : appended siteSlug batchId edge.shared.topic ≤
      1 + dedupeThrows siteSlug batchId (initial sitesValid sites) actions +
        fieldExpiries siteSlug batchId (initial sitesValid sites) actions := by
    omega
  refine ⟨bound, ?_⟩
  intro noThrow noExpiry
  omega

private def plantBatch : IngestBatchInput :=
  ⟨"3f2a6c1e-8d4b-4c7a-9e51-0b6d2f7a8c90", "north-plant", [⟨"stack-1", 1700000000000, "12.500000"⟩]⟩

/-- Two requests race. Redis throws for one of them, and both produce. -/
private def racing : List Action :=
  [.receive plantBatch, .receive plantBatch, .advance 0 (.siteCheck .replied .replied),
    .advance 1 (.siteCheck .replied .replied), .advance 0 (.batchDedupe (.threw false)),
    .advance 1 (.batchDedupe .replied), .advance 0 (.send true 1700000001000),
    .advance 1 (.send true 1700000002000)]

private def raced : Edge :=
  ⟨⟨["north-plant"], [(dedupeKey "north-plant", plantBatch.batchId)], ["north-plant"],
    [("north-plant", { plantBatch with receivedAtMs := 1700000001000 }),
      ("north-plant", { plantBatch with receivedAtMs := 1700000002000 })]⟩,
    [⟨plantBatch, .answered (accepted plantBatch)⟩, ⟨plantBatch, .answered (accepted plantBatch)⟩]⟩

/-- The bound is attained. -/
theorem second_produce_is_paid_for :
    appended "north-plant" plantBatch.batchId raced.shared.topic = 2 ∧
      appended "north-plant" plantBatch.batchId raced.shared.topic ≤
        1 + dedupeThrows "north-plant" plantBatch.batchId (initial ["north-plant"] ["north-plant"]) racing +
          fieldExpiries "north-plant" plantBatch.batchId (initial ["north-plant"] ["north-plant"]) racing :=
  have ran : run step (initial ["north-plant"] ["north-plant"]) racing = some raced := by decide
  ⟨by decide, (produces_are_bounded ["north-plant"] ["north-plant"] "north-plant" plantBatch.batchId ran).1⟩

end EmissionsPlatform.ProduceBound
