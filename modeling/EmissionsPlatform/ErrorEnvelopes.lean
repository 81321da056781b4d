import EmissionsPlatform.Foundation.JsonWriting
import EmissionsPlatform.SiteContracts

/-! How the outcome of a request gets from the API to its client. A pipe, a
handler or a service returns or throws; `ResponseInterceptor` wraps what was
returned, `AllExceptionsFilter` turns what was thrown into an error envelope
with a status, and `apiFetch` reads either back. The client decides by the
status whether a request may be repeated, the server by the exception which code
it names: `outcomes_reach_the_client` says that the two agree and that nothing
of an error is lost on the way. -/
namespace EmissionsPlatform.ErrorEnvelopes
open JsonWriting SiteContracts Validation
set_option autoImplicit false

/-- What can be thrown while a request is handled. -/
inductive Exception
  | zodError (issues : List Json)
  /-- Its status, its message, and the text or object it was made from. -/
  | httpException (status : Nat) (message : String) (response : Json)
  /-- Anything else, with its property `code` if that is a text. -/
  | other (code : Option String)

/-- A response with a JSON body. -/
structure Response where
  status : Nat
  body : Json

/-! ## The server -/

/-- The header `x-request-id`, as the request has it. -/
inductive RequestIdHeader
  | absent
  | single (value : String)
  | repeated (values : List String)

/-- `RequestIdMiddleware.use`: `req.id`, and the header of the response. -/
def requestIdOf (randomUUID : String) : RequestIdHeader → String
  | .absent => randomUUID
  | .single inbound => inbound
  | .repeated inbound => inbound.head?.getD randomUUID

/-- `ZodValidationPipe.transform`. Of an issue the schemas report the message. -/
def transform {α : Type} (schema : Schema α) (value : Option Json) : Except Exception α :=
  match schema value with
  | .ok data => .ok data
  | .error messages => .error (.zodError (messages.map fun message => .object [("message", .string message)]))

def httpStatusToErrorCode (status : Nat) : String :=
  if status = 404 then "NOT_FOUND"
  else if status = 409 then "CONFLICT"
  else if status = 429 then "RATE_LIMITED"
  else if status = 422 then "VALIDATION_FAILED"
  else if 500 ≤ status then "INTERNAL"
  else "VALIDATION_FAILED"

/-- The message of the object an exception was made from, if it has one. -/
def responseMessage (message : String) : Json → String
  | .object fields =>
    match fields.lookup "message" with
    | some (.string text) => text
    | _ => message
  | _ => message

def responseDetails : Json → Option Json
  | .object fields => fields.lookup "details"
  | _ => none

/-- `AllExceptionsFilter.catch`: the error and the status it is sent with. A
request that failed before the middleware ran has no id. -/
def catchException (requestId : Option String) : Exception → ApiError × Nat
  | .zodError issues => (⟨"VALIDATION_FAILED", "Request validation failed", some (.array issues), requestId⟩, 400)
  | .httpException status message response =>
    (⟨httpStatusToErrorCode status, responseMessage message response, responseDetails response, requestId⟩, status)
  | .other code =>
    if code = some "23505" then
      (⟨"CONFLICT", "A resource with that identifier already exists", none, requestId⟩, 409)
    else (⟨"INTERNAL", "An unexpected error occurred", none, requestId⟩, 500)

/-- The fields of an `ApiError`, of which two are optional. -/
def errorFields (error : ApiError) : List (String × Option Json) :=
  [("code", some (.string error.code)), ("message", some (.string error.message)), ("details", error.details),
    ("request_id", error.requestId.map .string)]

def errorEnvelope (error : ApiError) : Json :=
  stringify [("ok", some (.bool false)), ("error", some (stringify (errorFields error)))]

/-- What is sent for the outcome of a handler with a status for its success. -/
def respond (successStatus : Nat) (requestId : Option String) : Except Exception Json → Response
  | .ok data => ⟨successStatus, enveloped data⟩
  | .error exception => ⟨(catchException requestId exception).2, errorEnvelope (catchException requestId exception).1⟩

/-! ## The client -/

/-- `response.ok`. -/
def isOk (status : Nat) : Prop := 200 ≤ status ∧ status ≤ 299

instance (status : Nat) : Decidable (isOk status) := inferInstanceAs (Decidable (_ ∧ _))

/-- `apiFetch`, when the response arrives. -/
def received {α : Type} (schema : Schema α) (response : Response) : Except Failure α :=
  apiFetch schema (.response response.status response.body)

variable {α : Type} {schema : Schema α} {error : ApiError} {requestId : Option String} {exception : Exception}
variable {status : Nat}

def errorCodes : List String := ["VALIDATION_FAILED", "NOT_FOUND", "CONFLICT", "RATE_LIMITED", "INTERNAL"]

theorem httpStatusToErrorCode_listed (status : Nat) : httpStatusToErrorCode status ∈ errorCodes := by
  unfold httpStatusToErrorCode
  split_ifs <;> decide

/-- Of what is no `HttpException`, only the violation of a unique index has a code
of its own. -/
theorem catchException_other (requestId code : Option String) :
    catchException requestId (.other code) =
        (⟨"CONFLICT", "A resource with that identifier already exists", none, requestId⟩, 409) ∨
      catchException requestId (.other code) =
        (⟨"INTERNAL", "An unexpected error occurred", none, requestId⟩, 500) := by
  by_cases unique : code = some "23505"
  · exact Or.inl (if_pos unique)
  · exact Or.inr (if_neg unique)

theorem catchException_code (requestId : Option String) (exception : Exception) :
    (catchException requestId exception).1.code ∈ errorCodes := by
  cases exception with
  | zodError issues => exact List.mem_cons_self
  | httpException status message response => exact httpStatusToErrorCode_listed status
  | other code => rcases catchException_other requestId code with same | same <;> simp [same, errorCodes]

theorem httpStatusToErrorCode_internal_iff (status : Nat) :
    httpStatusToErrorCode status = "INTERNAL" ↔ 500 ≤ status := by
  unfold httpStatusToErrorCode
  split_ifs with notFound conflict rateLimited unprocessable internal
  · simp [notFound]
  · simp [conflict]
  · simp [rateLimited]
  · simp [unprocessable]
  · simp [internal]
  · simp [internal]

/-- What the server blames on itself it sends with a status from 500 on. -/
theorem catchException_internal_iff (requestId : Option String) (exception : Exception) :
    (catchException requestId exception).1.code = "INTERNAL" ↔ 500 ≤ (catchException requestId exception).2 := by
  cases exception with
  | zodError issues => simp [catchException]
  | httpException status message response => exact httpStatusToErrorCode_internal_iff status
  | other code => rcases catchException_other requestId code with same | same <;> simp [same]

theorem catchException_requestId (requestId : Option String) (exception : Exception) :
    (catchException requestId exception).1.requestId = requestId := by
  cases exception with
  | zodError issues => rfl
  | httpException status message response => rfl
  | other code => rcases catchException_other requestId code with same | same <;> rw [same]

/-! ## There and back -/

theorem errorFields_distinct (error : ApiError) : ((errorFields error).map Prod.fst).Nodup := by
  have names : (errorFields error).map Prod.fst = ["code", "message", "details", "request_id"] := rfl
  rw [names]
  decide

/-- An error envelope is read as the error it was made of. -/
theorem errorEnvelope_read (listed : error.code ∈ errorCodes) :
    errorEnvelopeSchema (some (errorEnvelope error)) = .ok error := by
  have read : apiErrorSchema (some (stringify (errorFields error))) = .ok error := by
    rw [apiErrorSchema, object_stringify (errorFields_distinct error)]
    refine map_eq_ok.mpr ⟨(error.code, error.message, error.details, error.requestId), ?_, rfl⟩
    simp only [both_eq_ok]
    refine ⟨readsBack_nativeEnum listed, readsBack_string (List.forall_mem_nil _), ?_, ?_⟩
    · change unknown (some error.details).join = _
      rw [Option.join_some]
      rfl
    · change optional (string []) (some (error.requestId.map Json.string)).join = _
      rw [Option.join_some]
      exact optional_readsBack fun text _ => readsBack_string (List.forall_mem_nil _)
  rw [errorEnvelopeSchema, errorEnvelope, object_stringify (by simp)]
  exact map_eq_ok.mpr ⟨(false, error), both_eq_ok.mpr ⟨rfl, read⟩, rfl⟩

/-- No schema takes an error envelope for a success. -/
theorem errorEnvelope_is_no_success (schema : Schema α) (error : ApiError) (value : α) :
    successEnvelope schema (some (errorEnvelope error)) ≠ .ok value := by
  rw [successEnvelope, errorEnvelope, object_stringify (by simp)]
  intro accepted
  obtain ⟨pair, read, -⟩ := map_eq_ok.mp accepted
  cases (both_eq_ok.mp read).1

theorem apiFetch_ok (ok : isOk status) (raw : Json) :
    apiFetch schema (.response status raw) =
      (match successEnvelope schema (some raw) with
      | .ok data => .ok data
      | .error issues => .error (.schemaMismatch issues status)) :=
  if_pos ok

theorem apiFetch_failed (failed : ¬ isOk status) (raw : Json) :
    apiFetch schema (.response status raw) =
      (match errorEnvelopeSchema (some raw) with
      | .ok error => .error (.apiClientError error status)
      | .error _ => .error (clientError ("HTTP " ++ toString status ++ ": unexpected error shape") status)) :=
  if_neg failed

/-- An exception is thrown by the client as the server described it, unless its
status is one of success. -/
theorem received_of_exception (failed : ¬ isOk (catchException requestId exception).2) (successStatus : Nat) :
    received schema (respond successStatus requestId (.error exception)) =
      .error (.apiClientError (catchException requestId exception).1 (catchException requestId exception).2) := by
  rw [received, respond, apiFetch_failed failed, errorEnvelope_read (catchException_code requestId exception)]

theorem received_of_odd_exception (ok : isOk (catchException requestId exception).2) (successStatus : Nat) :
    ∃ issues, received schema (respond successStatus requestId (.error exception)) =
      .error (.schemaMismatch issues (catchException requestId exception).2) := by
  rw [received, respond, apiFetch_ok ok]
  cases read : successEnvelope schema (some (errorEnvelope (catchException requestId exception).1)) with
  | ok value => exact absurd read (errorEnvelope_is_no_success schema _ value)
  | error issues => exact ⟨issues, rfl⟩

/-- What a handler returned reaches the client exactly if it matches the schema. -/
theorem received_of_data {successStatus : Nat} (success : isOk successStatus) (requestId : Option String)
    (data : Json) :
    received schema (respond successStatus requestId (.ok data)) =
      (match schema (some data) with
      | .ok value => .ok value
      | .error issues => .error (.schemaMismatch issues successStatus)) := by
  rw [received, respond, apiFetch_ok success, enveloped_read]

/-- What the client learns of an exception. -/
theorem received_exception_iff {successStatus : Nat} :
    received schema (respond successStatus requestId (.error exception)) = .error (.apiClientError error status) ↔
      ¬ isOk status ∧ catchException requestId exception = (error, status) := by
  by_cases ok : isOk (catchException requestId exception).2
  · obtain ⟨issues, mismatch⟩ := @received_of_odd_exception _ schema requestId exception ok successStatus
    rw [mismatch]
    constructor
    · nofun
    · rintro ⟨failed, caught⟩
      rw [caught] at ok
      exact absurd ok failed
  · rw [received_of_exception ok, Except.error.injEq, Failure.apiClientError.injEq, Prod.ext_iff]
    constructor
    · rintro ⟨sameError, sameStatus⟩
      exact ⟨sameStatus ▸ ok, sameError, sameStatus⟩
    · exact And.right

/-- **Outcomes reach the client.** A request succeeds at the client exactly when
the handler returned data that match the schema, and fails with an error of the
API exactly when something was thrown, with the code, message, details, request
id and status it was given there; and the client may repeat a request exactly
when the server took the blame. -/
theorem outcomes_reach_the_client (schema : Schema α) {successStatus : Nat} (success : isOk successStatus)
    (requestId : Option String) (outcome : Except Exception Json) :
    (∀ value, received schema (respond successStatus requestId outcome) = .ok value ↔
        ∃ data, outcome = .ok data ∧ schema (some data) = .ok value) ∧
      ∀ error status,
        received schema (respond successStatus requestId outcome) = .error (.apiClientError error status) ↔
        ¬ isOk status ∧ ∃ exception, outcome = .error exception ∧ catchException requestId exception = (error, status) ∧
          error.requestId = requestId ∧ (isRetryable status = true ↔ error.code = "INTERNAL" ∨ status = 0) := by
  cases outcome with
  | ok data =>
    rw [received_of_data success]
    cases read : schema (some data) with
    | ok value => simp [read]
    | error issues => simp [read]
  | error exception =>
    refine ⟨fun value => ?_, fun error status => ?_⟩
    · refine ⟨fun accepted => ?_, nofun⟩
      by_cases ok : isOk (catchException requestId exception).2
      · obtain ⟨issues, mismatch⟩ := @received_of_odd_exception _ schema requestId exception ok successStatus
        rw [mismatch] at accepted
        cases accepted
      · rw [received_of_exception ok] at accepted
        cases accepted
    · rw [received_exception_iff]
      refine and_congr_right fun _ => ⟨fun caught => ⟨exception, rfl, caught, ?_, ?_⟩, ?_⟩
      · rw [← catchException_requestId requestId exception, caught]
      · have internal := catchException_internal_iff requestId exception
        rw [caught] at internal
        rw [isRetryable, Bool.or_eq_true, decide_eq_true_iff, beq_iff_eq, internal]
      · rintro ⟨_, same, caught, -⟩
        cases same
        exact caught

/-- A site that does not exist, asked for with an id of the client's own. -/
theorem missing_site_is_told :
    received siteMetricsSchema
      (respond 200 (some (requestIdOf "req-8" (.single "req-7"))) (.error (.httpException 404 "site not found"
        (.object [("message", .string "site not found"), ("details", .object [("slug", .string "north-plant")])])))) =
      .error (.apiClientError ⟨"NOT_FOUND", "site not found", some (.object [("slug", .string "north-plant")]),
        some "req-7"⟩ 404) :=
  ((outcomes_reach_the_client siteMetricsSchema (by decide : isOk 200) (some "req-7") (.error _)).2 _ 404).mpr
    ⟨by decide, _, rfl, rfl, rfl, by decide⟩

end EmissionsPlatform.ErrorEnvelopes
