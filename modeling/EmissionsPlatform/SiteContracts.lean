import EmissionsPlatform.Contracts
import EmissionsPlatform.Foundation.IsoDatetime

/-! The contracts of the site endpoints: `CreateSiteSchema`, `SiteMetricsSchema`,
the envelopes around every answer, and `apiFetch`, with which the web client
holds each answer against its schema. -/
namespace EmissionsPlatform.SiteContracts
open Contracts Validation
set_option autoImplicit false

/-- `/^[A-Z]{2}$/`. -/
def countryCodeSchema : Schema String :=
  string [⟨fun text => text.toList.length == 2 && text.toList.all Char.isUpper,
    "country must be an ISO 3166-1 alpha-2 code, e.g. 'US'"⟩]

/-- `TimezoneSchema`. A runtime that lists no timezones accepts any name. -/
def timezoneSchema (supportedTimezones : List String) : Schema String :=
  string [minLength 1,
    ⟨fun timezone => supportedTimezones.isEmpty || timezone ∈ supportedTimezones,
      "must be a valid IANA timezone name"⟩]

def gte (bound : Int) : Check JsNumber :=
  ⟨JsNumber.isAtLeast bound, "Number must be greater than or equal to " ++ toString bound⟩

def lte (bound : Int) : Check JsNumber :=
  ⟨JsNumber.isAtMost bound, "Number must be less than or equal to " ++ toString bound⟩

/-- The body of `POST /sites`. -/
structure CreateSiteInput where
  slug : String
  name : String
  country : String
  state : Option String
  city : Option String
  postalCode : Option String
  latitude : JsNumber
  longitude : JsNumber
  timezone : String
  emissionLimit : String
  deriving DecidableEq

def createSiteSchema (supportedTimezones : List String) : Schema CreateSiteInput :=
  object fun field =>
    (both (slugSchema (field "slug"))
      (both (string [minLength 1, maxLength 200] (field "name"))
        (both (countryCodeSchema (field "country"))
          (both (optional (string [minLength 1, maxLength 100]) (field "state"))
            (both (optional (string [minLength 1, maxLength 100]) (field "city"))
              (both (optional (string [minLength 1, maxLength 20]) (field "postal_code"))
                (both (number [gte (-90), lte 90] (field "latitude"))
                  (both (number [gte (-180), lte 180] (field "longitude"))
                    (both (timezoneSchema supportedTimezones (field "timezone"))
                      (numericKgSchema (field "emission_limit"))))))))))).map
      fun (slug, name, country, state, city, postalCode, latitude, longitude, timezone, emissionLimit) =>
        ⟨slug, name, country, state, city, postalCode, latitude, longitude, timezone, emissionLimit⟩

/-- `z.string().datetime({ offset: true })`. -/
def datetimeSchema : Schema String := string [⟨IsoDatetime.datetime, "Invalid datetime"⟩]

def complianceStatusSchema : Schema String := nativeEnum ["compliant", "exceeding"]

/-- The answer of `GET /sites/:slug/metrics` as the client reads it. -/
structure SiteMetrics where
  slug : String
  name : String
  emissionLimitKgCo2e : String
  totalKgCo2e : String
  priorMonthsTotalKgCo2e : String
  currentMonthToDateKgCo2e : String
  complianceStatus : String
  asOf : String
  deriving DecidableEq

def siteMetricsSchema : Schema SiteMetrics :=
  object fun field =>
    (both (slugSchema (field "slug"))
      (both (string [] (field "name"))
        (both (numericKgSchema (field "emission_limit_kg_co2e"))
          (both (numericKgSchema (field "total_kg_co2e"))
            (both (numericKgSchema (field "prior_months_total_kg_co2e"))
              (both (numericKgSchema (field "current_month_to_date_kg_co2e"))
                (both (complianceStatusSchema (field "compliance_status"))
                  (datetimeSchema (field "as_of"))))))))).map
      fun (slug, name, limit, total, prior, current, compliance, asOf) =>
        ⟨slug, name, limit, total, prior, current, compliance, asOf⟩

/-! ## Envelopes -/

structure ApiError where
  code : String
  message : String
  details : Option Json
  requestId : Option String

def errorCodeSchema : Schema String :=
  nativeEnum ["VALIDATION_FAILED", "NOT_FOUND", "CONFLICT", "RATE_LIMITED", "INTERNAL"]

def apiErrorSchema : Schema ApiError :=
  object fun field =>
    (both (errorCodeSchema (field "code"))
      (both (string [] (field "message"))
        (both (unknown (field "details")) (optional (string []) (field "request_id"))))).map
      fun (code, message, details, requestId) => ⟨code, message, details, requestId⟩

def errorEnvelopeSchema : Schema ApiError :=
  object fun field => (both (literalBool false (field "ok")) (apiErrorSchema (field "error"))).map Prod.snd

variable {α : Type}

def successEnvelope (data : Schema α) : Schema α :=
  object fun field => (both (literalBool true (field "ok")) (data (field "data"))).map Prod.snd

/-- `ResponseInterceptor`: what is sent for a handler's result. -/
def enveloped (data : Json) : Json := .object [("ok", .bool true), ("data", data)]

/-- What `fetch` brings back. -/
inductive Reply
  | unreachable (message : String)
  /-- The body is no JSON. -/
  | unreadable (message : String)
  | response (status : Nat) (body : Json)

/-- What `apiFetch` throws. -/
inductive Failure
  | apiClientError (error : ApiError) (status : Nat)
  /-- An `ApiClientError` whose message lists the issues of the schema. -/
  | schemaMismatch (issues : List String) (status : Nat)
  | error (message : String)

/-- `ApiClientError.isRetryable`. -/
def isRetryable (status : Nat) : Bool := 500 ≤ status || status == 0

/-- An `ApiClientError` the client makes itself. -/
def clientError (message : String) (status : Nat) : Failure :=
  .apiClientError ⟨"INTERNAL", message, none, none⟩ status

/-- `apiFetch` with the schema of the data it expects. -/
def apiFetch (schema : Schema α) : Reply → Except Failure α
  | .unreachable message => .error (clientError message 0)
  | .unreadable message => .error (.error message)
  | .response status raw =>
    if 200 ≤ status ∧ status ≤ 299 then
      match successEnvelope schema (some raw) with
      | .ok data => .ok data
      | .error issues => .error (.schemaMismatch issues status)
    else
      match errorEnvelopeSchema (some raw) with
      | .ok error => .error (.apiClientError error status)
      | .error _ => .error (clientError ("HTTP " ++ toString status ++ ": unexpected error shape") status)

/-! ## What the schemas accept -/

variable {supportedTimezones : List String} {document : Json} {params : CreateSiteInput}

theorem createSite_slug (accepted : createSiteSchema supportedTimezones (some document) = .ok params) :
    ∀ check ∈ [minLength 3, maxLength 64,
      ⟨slugRegex, "slug must be lowercase, alphanumeric, may contain '-', 3..64 chars"⟩],
      check.accepts params.slug = true := by
  unfold createSiteSchema object at accepted
  split at accepted
  · obtain ⟨fields, checked, rfl⟩ := map_eq_ok.mp accepted
    exact (string_eq_ok.mp (both_eq_ok.mp checked).1).2
  · cases accepted

/-- What is wrapped is read as it was. -/
theorem enveloped_read (schema : Schema α) (data : Json) :
    successEnvelope schema (some (enveloped data)) = schema (some data) := by
  have ok : List.lookup "ok" [("ok", Json.bool true), ("data", data)] = some (.bool true) := rfl
  have found : List.lookup "data" [("ok", Json.bool true), ("data", data)] = some data := rfl
  simp only [successEnvelope, enveloped, object, ok, found, literalBool]
  cases schema (some data) <;> rfl

/-- A call succeeds when the status is one of success and the body matches. -/
theorem apiFetch_eq_ok {schema : Schema α} {status : Nat} {raw : Json} {value : α} :
    apiFetch schema (.response status raw) = .ok value ↔
      (200 ≤ status ∧ status ≤ 299) ∧ successEnvelope schema (some raw) = .ok value := by
  rw [apiFetch]
  by_cases success : 200 ≤ status ∧ status ≤ 299
  · rw [if_pos success, and_iff_right success]
    cases successEnvelope schema (some raw) <;> simp
  · rw [if_neg success]
    cases errorEnvelopeSchema (some raw) <;> simp [success]

/-- A successful answer is rejected exactly when its data does not match. -/
theorem apiFetch_enveloped {schema : Schema α} {data : Json} {value : α} :
    apiFetch schema (.response 200 (enveloped data)) = .ok value ↔ schema (some data) = .ok value := by
  rw [apiFetch_eq_ok, enveloped_read, and_iff_right (by decide)]

end EmissionsPlatform.SiteContracts
