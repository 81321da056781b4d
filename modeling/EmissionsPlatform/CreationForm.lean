import EmissionsPlatform.SiteListing

/-! The form that creates a site (`CreateSiteForm`) and the API behind it. The
form checks what was entered against `CreateSiteSchema`, sends what the schema
made of it and shows what comes back; the API checks the body again. Any number
of pages are open, beside other clients; a request reaches the API once or not
at all, also after its page has given it up, and a call of its handler can throw
before the commit or at it.

The form has no key under which a creation could be sent again: a retry of what
was stored after all is a conflict. `form_tells_what_is_stored` says what its
banner and its messages mean. -/
namespace EmissionsPlatform.CreationForm
open Contracts ErrorEnvelopes JsonWriting SiteListing SitesList Transition Validation
open SiteContracts (CreateSiteInput Failure countryCodeSchema createSiteSchema gte isRetryable lte timezoneSchema)
set_option autoImplicit false

/-! ## What is entered -/

structure Entered where
  slug : String
  name : String
  country : String
  state : String
  city : String
  postalCode : String
  latitude : String
  longitude : String
  timezone : String
  emissionLimit : String
  deriving DecidableEq

/-- The options of the select. -/
def timezones : List String :=
  ["America/Denver", "America/Los_Angeles", "America/New_York", "America/Chicago", "America/Edmonton",
    "Europe/London", "UTC"]

/-- A number input with its bounds. -/
def inRange (bound : Int) (text : String) : Bool :=
  match NumberLiteral.toNumber text with
  | some number => text ≠ "" && number.isAtLeast (-bound) && number.isAtMost bound
  | none => false

/-- `pattern="[A-Za-z]{2}"`. -/
def countryPattern (text : String) : Bool := text.toList.length == 2 && text.toList.all Char.isAlpha

/-- The constraints of the inputs, without which the browser does not submit. -/
def Entered.valid (entered : Entered) : Bool :=
  entered.slug ≠ "" && entered.name ≠ "" && countryPattern entered.country && utf16Length entered.state ≤ 100 &&
    utf16Length entered.city ≤ 100 && utf16Length entered.postalCode ≤ 20 && inRange 90 entered.latitude &&
    inRange 180 entered.longitude && entered.timezone ∈ timezones && numericKgRegex entered.emissionLimit

/-- `fd.get(name) || undefined`. -/
def orUndefined (text : String) : Option Json := if text = "" then none else some (.string text)

/-- `Number(fd.get(name))`; the constraints leave no NaN. -/
def numberOf (text : String) : Json := ((NumberLiteral.toNumber text).map .number).getD .null

/-- The object that is validated. -/
def Entered.raw (entered : Entered) : Json :=
  stringify [("slug", some (.string entered.slug)), ("name", some (.string entered.name)),
    ("country", some (.string entered.country.toUpper)), ("state", orUndefined entered.state),
    ("city", orUndefined entered.city), ("postal_code", orUndefined entered.postalCode),
    ("latitude", some (numberOf entered.latitude)), ("longitude", some (numberOf entered.longitude)),
    ("timezone", some (.string entered.timezone)), ("emission_limit", some (.string entered.emissionLimit))]

/-- `JSON.stringify(parsed.data)`. -/
def createSiteFields (params : CreateSiteInput) : List (String × Option Json) :=
  [("slug", some (.string params.slug)), ("name", some (.string params.name)),
    ("country", some (.string params.country)),
    ("state", params.state.map .string), ("city", params.city.map .string),
    ("postal_code", params.postalCode.map .string),
    ("latitude", some (.number params.latitude)), ("longitude", some (.number params.longitude)),
    ("timezone", some (.string params.timezone)), ("emission_limit", some (.string params.emissionLimit))]

def createSiteJson (params : CreateSiteInput) : Json := stringify (createSiteFields params)

/-! ## Issues -/

/-- The issues of one field, each with its path. -/
def issuesAt {α : Type} (schema : Schema α) (name : String) (field : String → Option Json) :
    List (String × String) :=
  match schema (field name) with
  | .ok _ => []
  | .error messages => messages.map fun message => (name, message)

/-- The issues of a body, in the order of `CreateSiteSchema`. -/
def issues (supportedTimezones : List String) (field : String → Option Json) : List (String × String) :=
  issuesAt slugSchema "slug" field ++ issuesAt (string [minLength 1, maxLength 200]) "name" field ++
    issuesAt countryCodeSchema "country" field ++
    issuesAt (Validation.optional (string [minLength 1, maxLength 100])) "state" field ++
    issuesAt (Validation.optional (string [minLength 1, maxLength 100])) "city" field ++
    issuesAt (Validation.optional (string [minLength 1, maxLength 20])) "postal_code" field ++
    issuesAt (number [gte (-90), lte 90]) "latitude" field ++
      issuesAt (number [gte (-180), lte 180]) "longitude" field ++
    issuesAt (timezoneSchema supportedTimezones) "timezone" field ++ issuesAt numericKgSchema "emission_limit" field

def fieldOf : Json → String → Option Json
  | .object fields => fun name => fields.lookup name
  | _ => fun _ => none

/-- `extractFieldErrors`: of each field its first issue. -/
def extractFieldErrors (issues : List (String × String)) : List (String × String) :=
  issues.foldl (fun errors issue => if (errors.lookup issue.1).isSome then errors else errors ++ [issue]) []

def issueJson (issue : String × String) : Json :=
  .object [("message", .string issue.2), ("path", .array [.string issue.1])]

/-- The path and the message of an issue in the details of an error. -/
def issueOf : Json → Option (String × String)
  | .object fields =>
    match fields.lookup "path", fields.lookup "message" with
    | some (.array (.string field :: _)), some (.string message) => some (field, message)
    | _, _ => none
  | _ => none

def issuesOf : Option Json → List (String × String)
  | some (.array items) => items.filterMap issueOf
  | _ => []

/-! ## A page -/

structure Page where
  submitting : Bool
  globalError : Option String
  fieldErrors : List (String × String)
  success : Bool
  deriving DecidableEq

def mounted : Page := ⟨false, none, [], false⟩

/-- `handleSubmit`, up to its request: the page, and what is sent. -/
def handleSubmit (supportedTimezones : List String) (page : Page) (entered : Entered) :
    Page × Option CreateSiteInput :=
  match createSiteSchema supportedTimezones (some entered.raw) with
  | .error _ =>
    ({ page with
        globalError := none
        fieldErrors := extractFieldErrors (issues supportedTimezones (fieldOf entered.raw)) }, none)
  | .ok params => ({ page with submitting := true, globalError := none, fieldErrors := [] }, some params)

/-- The message above the form. -/
def serverError (message : String) : String := "Server error: " ++ message ++ ". Please try again."

/-- `handleSubmit`, from the end of its request. -/
def settle {α : Type} (page : Page) : Except Failure α → Page
  | .ok _ => { page with submitting := false, success := true }
  | .error (.apiClientError error status) =>
    if isRetryable status then { page with submitting := false, globalError := some (serverError error.message) }
    else
      match extractFieldErrors (issuesOf error.details) with
      | [] => { page with submitting := false, globalError := some (error.code ++ ": " ++ error.message) }
      | fieldErrors => { page with submitting := false, fieldErrors }
  -- The message goes on with the issues.
  | .error (.schemaMismatch _ _) =>
    { page with submitting := false, globalError := some "INTERNAL: Response did not match expected schema: " }
  | .error (.error _) => { page with submitting := false, globalError := some "Unexpected error. Please try again." }

/-! ## The platform -/

/-- The timezones that the browsers and the API list. -/
structure Runtimes where
  browser : List String
  server : List String

structure Request where
  page : Nat
  entered : Entered
  params : CreateSiteInput
  /-- What the handler returned or threw, once it has. -/
  result : Option (Except Exception SiteRow)
  /-- The page waits for the reply. -/
  awaited : Bool

structure Platform where
  sites : SitesTable
  pages : List Page
  requests : List Request
  /-- For every row the request that inserted it, unless it is another client's. -/
  creators : List (Option Nat)

inductive Action
  | mount
  | submit (page : Nat) (entered : Entered)
  /-- A request reaches the API. -/
  | arrive (request : Nat) (handling : Handling)
  /-- Another client creates a site. -/
  | stranger (posting : Posting)
  | reply (request : Nat) (requestId : Option String)
  /-- A page gets no reply of the API. -/
  | fail (request : Nat) (failure : Failure)

/-- The exception of `ZodValidationPipe` with the paths of its issues. -/
def withPaths (supportedTimezones : List String) (body : Json) :
    Except Exception SiteRow → Except Exception SiteRow
  | .error (.zodError _) => .error (.zodError ((issues supportedTimezones (fieldOf body)).map issueJson))
  | result => result

/-- `POST /sites` with a body of the form. -/
def handle (supportedTimezones : List String) (table : SitesTable) (body : Json) (handling : Handling) :
    Option (SitesTable × Except Exception SiteRow) :=
  (create supportedTimezones table (some body) handling).map fun (after, result) =>
    (after, withPaths supportedTimezones body result)

/-- The table with the creator of what it gained. -/
def Platform.withSites (platform : Platform) (sites : SitesTable) (creator : Option Nat) : Platform :=
  { platform with
    sites, creators := platform.creators ++ List.replicate (sites.rows.length - platform.sites.rows.length) creator }

/-- A request ends for its page. -/
def close {α : Type} (platform : Platform) (index : Nat) (request : Request) (result : Except Failure α) : Platform :=
  { platform with
    pages := platform.pages.modify request.page fun page => settle page result
    requests := platform.requests.set index { request with awaited := false } }

def step (runtimes : Runtimes) (platform : Platform) : Action → Option Platform
  | .mount => some { platform with pages := platform.pages ++ [mounted] }
  | .submit index entered =>
    (platform.pages[index]?).bind fun page =>
      if page.success = false ∧ page.submitting = false ∧ entered.valid then
        let (next, sent) := handleSubmit runtimes.browser page entered
        some { platform with
          pages := platform.pages.set index next
          requests := platform.requests ++ sent.toList.map fun params => ⟨index, entered, params, none, true⟩ }
      else none
  | .arrive index handling =>
    match platform.requests[index]? with
    | some ⟨page, entered, params, none, awaited⟩ =>
      (handle runtimes.server platform.sites (createSiteJson params) handling).map fun (sites, result) =>
        { platform.withSites sites (some index) with
          requests := platform.requests.set index ⟨page, entered, params, some result, awaited⟩ }
    | _ => none
  | .stranger posting =>
    (SiteListing.step runtimes.server platform.sites posting).map fun sites => platform.withSites sites none
  | .reply index requestId =>
    match platform.requests[index]? with
    | some ⟨page, entered, params, some result, true⟩ =>
      some (close platform index ⟨page, entered, params, some result, true⟩
        (received (siteResponseSchema runtimes.browser) (createReply requestId result)))
    | _ => none
  | .fail index failure =>
    match platform.requests[index]? with
    | some ⟨page, entered, params, result, true⟩ =>
      some (close platform index ⟨page, entered, params, result, true⟩ (.error failure : Except Failure Unit))
    | _ => none

def initial : Platform := ⟨noSites, [], [], []⟩

variable {runtimes : Runtimes} {platform next : Platform} {page : Page} {entered : Entered} {request other : Request}
variable {params : CreateSiteInput} {row : SiteRow} {table after : SitesTable} {document : Json} {index place : Nat}
variable {supportedTimezones : List String} {handling : Handling} {result : Except Exception SiteRow}

/-! ## The body is read again -/

/-- What the schema asks of a site, but for its timezone. -/
structure Checked (params : CreateSiteInput) : Prop where
  slug : ReadsBack slugSchema .string params.slug
  name : ReadsBack (string [minLength 1, maxLength 200]) .string params.name
  country : ReadsBack countryCodeSchema .string params.country
  state : Validation.optional (string [minLength 1, maxLength 100]) (params.state.map .string) = .ok params.state
  city : Validation.optional (string [minLength 1, maxLength 100]) (params.city.map .string) = .ok params.city
  postalCode :
    Validation.optional (string [minLength 1, maxLength 20]) (params.postalCode.map .string) = .ok params.postalCode
  latitude : ReadsBack (number [gte (-90), lte 90]) .number params.latitude
  longitude : ReadsBack (number [gte (-180), lte 180]) .number params.longitude
  emissionLimit : ReadsBack numericKgSchema .string params.emissionLimit

theorem string_reread {checks : List (Check String)} {given : Option Json} {text : String}
    (read : string checks given = .ok text) : ReadsBack (string checks) .string text :=
  readsBack_string (string_eq_ok.mp read).2

theorem optional_reread {checks : List (Check String)} {given : Option Json} {text : Option String}
    (read : Validation.optional (string checks) given = .ok text) :
    Validation.optional (string checks) (text.map .string) = .ok text := by
  refine optional_readsBack fun present same => ?_
  cases given with
  | none =>
    cases read
    cases same
  | some value =>
    obtain ⟨inner, readInner, rfl⟩ := map_eq_ok.mp read
    cases same
    exact string_reread readInner

theorem number_reread {checks : List (Check JsNumber)} {given : Option Json} {value : JsNumber}
    (read : number checks given = .ok value) : ReadsBack (number checks) .number value :=
  refine_eq_ok.mpr ⟨rfl, number_eq_ok read⟩

theorem checked_of_accepted (accepted : createSiteSchema supportedTimezones (some document) = .ok params) :
    Checked params ∧ ReadsBack (timezoneSchema supportedTimezones) .string params.timezone := by
  unfold createSiteSchema object at accepted
  split at accepted
  · obtain ⟨fields, checked, rfl⟩ := map_eq_ok.mp accepted
    simp only [both_eq_ok] at checked
    obtain ⟨slug, name, country, state, city, postalCode, latitude, longitude, timezone, limit⟩ := checked
    exact ⟨⟨string_reread slug, string_reread name, string_reread country, optional_reread state, optional_reread city,
      optional_reread postalCode, number_reread latitude, number_reread longitude, string_reread limit⟩,
      string_reread timezone⟩
  · cases accepted

theorem createSiteFields_distinct (params : CreateSiteInput) : ((createSiteFields params).map Prod.fst).Nodup := by
  have names : (createSiteFields params).map Prod.fst = ["slug", "name", "country", "state", "city", "postal_code",
      "latitude", "longitude", "timezone", "emission_limit"] := rfl
  rw [names]
  decide

/-- The API reads what the form read, and only its timezone can be foreign to it. -/
theorem createSite_reread_iff (checked : Checked params) (read : CreateSiteInput) :
    createSiteSchema supportedTimezones (some (createSiteJson params)) = .ok read ↔
      read = params ∧ ReadsBack (timezoneSchema supportedTimezones) .string params.timezone := by
  rw [createSiteSchema, createSiteJson, object_stringify (createSiteFields_distinct params), map_eq_ok]
  simp only [both_eq_ok]
  constructor
  · rintro ⟨⟨_, _, _, _, _, _, _, _, ofTimezone, _⟩, ⟨slug, name, country, state, city, postalCode, latitude,
      longitude, timezone, limit⟩, rfl⟩
    have same : some (Json.string params.timezone) = some (.string ofTimezone) := (string_eq_ok.mp timezone).1
    cases same
    cases checked.slug.symm.trans slug
    cases checked.name.symm.trans name
    cases checked.country.symm.trans country
    cases checked.state.symm.trans state
    cases checked.city.symm.trans city
    cases checked.postalCode.symm.trans postalCode
    cases checked.latitude.symm.trans latitude
    cases checked.longitude.symm.trans longitude
    cases checked.emissionLimit.symm.trans limit
    exact ⟨rfl, timezone⟩
  · rintro ⟨rfl, timezone⟩
    exact ⟨(read.slug, read.name, read.country, read.state, read.city, read.postalCode, read.latitude, read.longitude,
      read.timezone, read.emissionLimit), ⟨checked.slug, checked.name, checked.country, checked.state, checked.city,
      checked.postalCode, checked.latitude, checked.longitude, timezone, checked.emissionLimit⟩, rfl⟩

theorem issuesAt_nil {α : Type} {schema : Schema α} {name : String} {field : String → Option Json}
    {given : Option Json} {value : α} (found : field name = given) (accepted : schema given = .ok value) :
    issuesAt schema name field = [] := by
  rw [issuesAt, found, accepted]

theorem mem_issuesAt {α : Type} {schema : Schema α} {name : String} {field : String → Option Json}
    {issue : String × String} (member : issue ∈ issuesAt schema name field) : issue.1 = name := by
  unfold issuesAt at member
  split at member
  · cases member
  · obtain ⟨message, -, rfl⟩ := List.mem_map.mp member
    rfl

/-- So its issues are about the timezone. -/
theorem issues_reread (checked : Checked params) :
    ∀ issue ∈ issues supportedTimezones (fieldOf (createSiteJson params)), issue.1 = "timezone" := by
  have found : ∀ name, fieldOf (createSiteJson params) name = ((createSiteFields params).lookup name).join :=
    fun name => lookup_definedFields (createSiteFields_distinct params)
  generalize fieldOf (createSiteJson params) = field at found
  have slug : issuesAt slugSchema "slug" field = [] := issuesAt_nil (found _) checked.slug
  have name : issuesAt (string [minLength 1, maxLength 200]) "name" field = [] := issuesAt_nil (found _) checked.name
  have country : issuesAt countryCodeSchema "country" field = [] := issuesAt_nil (found _) checked.country
  have state : issuesAt (Validation.optional (string [minLength 1, maxLength 100])) "state" field = [] :=
    issuesAt_nil (found _) checked.state
  have city : issuesAt (Validation.optional (string [minLength 1, maxLength 100])) "city" field = [] :=
    issuesAt_nil (found _) checked.city
  have postalCode : issuesAt (Validation.optional (string [minLength 1, maxLength 20])) "postal_code" field = [] :=
    issuesAt_nil (found _) checked.postalCode
  have latitude : issuesAt (number [gte (-90), lte 90]) "latitude" field = [] := issuesAt_nil (found _) checked.latitude
  have longitude : issuesAt (number [gte (-180), lte 180]) "longitude" field = [] :=
    issuesAt_nil (found _) checked.longitude
  have emissionLimit : issuesAt numericKgSchema "emission_limit" field = [] :=
    issuesAt_nil (found _) checked.emissionLimit
  rw [issues, slug, name, country, state, city, postalCode, latitude, longitude, emissionLimit]
  intro issue member
  simp only [List.nil_append, List.append_nil] at member
  exact mem_issuesAt member

/-! ## What a handler does -/

/-- The table gains the site, and the page that sent it can read it. -/
structure GainsReadable (runtimes : Runtimes) (table after : SitesTable) (params : CreateSiteInput)
    (row : SiteRow) : Prop extends Gains runtimes.server table after params row where
  read : ValidRow runtimes.browser row

inductive Handled (runtimes : Runtimes) (table after : SitesTable) (params : CreateSiteInput) :
    Except Exception SiteRow → Prop
  | stored (row : SiteRow) (gains : GainsReadable runtimes table after params row) :
      Handled runtimes table after params (.ok row)
  | storedThrows (row : SiteRow) (gains : GainsReadable runtimes table after params row) (code : Option String)
      (other : code ≠ some "23505") : Handled runtimes table after params (.error (.other code))
  | conflict (used : params.slug ∈ table.rows.map SiteRow.slug) (same : after = table) :
      Handled runtimes table after params (.error (slugConflict params.slug))
  | invalid (issues : List (String × String))
      (foreign : ¬ReadsBack (timezoneSchema runtimes.server) .string params.timezone)
      (about : ∀ issue ∈ issues, issue.1 = "timezone") (same : after = table) :
      Handled runtimes table after params (.error (.zodError (issues.map issueJson)))
  | thrown (code : Option String) (other : code ≠ some "23505") (same : after = table) :
      Handled runtimes table after params (.error (.other code))

theorem gains_readable {read : CreateSiteInput} (checked : Checked params)
    (known : ReadsBack (timezoneSchema runtimes.browser) .string params.timezone)
    (accepted : createSiteSchema runtimes.server (some (createSiteJson params)) = .ok read)
    (gains : Gains runtimes.server table after read row) : GainsReadable runtimes table after params row := by
  obtain ⟨rfl, -⟩ := (createSite_reread_iff checked read).mp accepted
  have timezone : row.timezone = read.timezone := gains.stores.texts.2.2.2
  have valid := gains.valid
  exact ⟨gains, ⟨valid.slug, valid.country, timezone ▸ known, valid.latitude, valid.longitude,
    valid.createdAt, valid.updatedAt⟩⟩

theorem handle_handled (checked : Checked params)
    (known : ReadsBack (timezoneSchema runtimes.browser) .string params.timezone) (clocked : handling.Clocked)
    (handled : handle runtimes.server table (createSiteJson params) handling = some (after, result)) :
    Handled runtimes table after params result := by
  obtain ⟨⟨grown, outcome⟩, made, same⟩ := Option.map_eq_some_iff.mp handled
  cases same
  cases create_created clocked made with
  | stored insertion read row accepted gains => exact .stored row (gains_readable checked known accepted gains)
  | storedThrows insertion code read row accepted gains other =>
    exact .storedThrows row (gains_readable checked known accepted gains) code other
  | rejected handling issues refused same =>
    refine .invalid _ (fun timezone => ?_) (issues_reread checked) same
    exact refused params ((createSite_reread_iff checked params).mpr ⟨rfl, timezone⟩)
  | conflict insertion read accepted used same =>
    obtain ⟨rfl, -⟩ := (createSite_reread_iff checked read).mp accepted
    exact .conflict used same
  | unstorable insertion read accepted refused same => exact .thrown _ (by decide) same
  | threw code read accepted other same => exact .thrown code other same

/-! ## What the platform keeps -/

/-- The request inserted the row. -/
def Platform.InsertedBy (platform : Platform) (index : Nat) (row : SiteRow) : Prop :=
  ∃ place : Nat, platform.sites.rows[place]? = some row ∧ platform.creators[place]? = some (some index)

inductive Outcome (runtimes : Runtimes) (platform : Platform) (index : Nat) (params : CreateSiteInput) :
    Option (Except Exception SiteRow) → Prop
  | waiting (fresh : some index ∉ platform.creators) : Outcome runtimes platform index params none
  | stored (row : SiteRow) (inserted : platform.InsertedBy index row) (stores : Stores params row)
      (read : ValidRow runtimes.browser row) : Outcome runtimes platform index params (some (.ok row))
  | conflict (used : params.slug ∈ platform.sites.rows.map SiteRow.slug) (fresh : some index ∉ platform.creators) :
      Outcome runtimes platform index params (some (.error (slugConflict params.slug)))
  | invalid (issues : List (String × String))
      (foreign : ¬ReadsBack (timezoneSchema runtimes.server) .string params.timezone)
      (about : ∀ issue ∈ issues, issue.1 = "timezone") (fresh : some index ∉ platform.creators) :
      Outcome runtimes platform index params (some (.error (.zodError (issues.map issueJson))))
  | thrown (code : Option String) (other : code ≠ some "23505") :
      Outcome runtimes platform index params (some (.error (.other code)))

structure RequestSound (runtimes : Runtimes) (platform : Platform) (index : Nat) (request : Request) : Prop where
  parsed : createSiteSchema runtimes.browser (some request.entered.raw) = .ok request.params
  outcome : Outcome runtimes platform index request.params request.result
  known : request.page < platform.pages.length

/-- A request of the page was answered with this. -/
def Platform.Got (platform : Platform) (page : Nat) (result : Except Exception SiteRow) : Prop :=
  ∃ (index : Nat) (request : Request), platform.requests[index]? = some request ∧ request.page = page ∧
    request.result = some result

/-- The page waits for a reply. -/
def Platform.Waits (platform : Platform) (page : Nat) : Prop :=
  ∃ (index : Nat) (request : Request), platform.requests[index]? = some request ∧ request.page = page ∧
    request.awaited = true

/-- How the form words a conflict. -/
def conflictText : String := "CONFLICT: site with this slug already exists"

structure PageSound (platform : Platform) (index : Nat) (page : Page) : Prop where
  waiting : page.submitting = true ↔ platform.Waits index
  success : page.success = true → ∃ row, platform.Got index (.ok row)
  conflict : page.globalError = some conflictText → ∃ slug, platform.Got index (.error (slugConflict slug))

structure Sound (runtimes : Runtimes) (platform : Platform) : Prop where
  listed : Listed runtimes.server platform.sites
  aligned : platform.creators.length = platform.sites.rows.length
  creators : ∀ index, some index ∈ platform.creators → index < platform.requests.length
  requests : ∀ (index : Nat) request, platform.requests[index]? = some request →
    RequestSound runtimes platform index request
  one : ∀ (first second : Nat) (request other : Request), platform.requests[first]? = some request →
    platform.requests[second]? = some other → request.page = other.page → request.awaited = true →
      other.awaited = true → first = second
  pages : ∀ (index : Nat) page, platform.pages[index]? = some page → PageSound platform index page

/-- Only rows are added, none of them by the request. -/
structure Spares (platform next : Platform) (index : Nat) : Prop where
  rows : ∃ more, next.sites.rows = platform.sites.rows ++ more
  creators : ∃ more, next.creators = platform.creators ++ more ∧ some index ∉ more

theorem Platform.InsertedBy.mono (inserted : platform.InsertedBy index row)
    (rows : ∃ more, next.sites.rows = platform.sites.rows ++ more)
    (creators : ∃ more, next.creators = platform.creators ++ more) :
    next.InsertedBy index row := by
  obtain ⟨place, stored, created⟩ := inserted
  obtain ⟨more, rows⟩ := rows
  obtain ⟨extra, creators⟩ := creators
  refine ⟨place, ?_, ?_⟩
  · rw [rows, List.getElem?_append_left (List.getElem?_eq_some_iff.mp stored).1, stored]
  · rw [creators, List.getElem?_append_left (List.getElem?_eq_some_iff.mp created).1, created]

theorem Outcome.mono {answer : Option (Except Exception SiteRow)}
    (outcome : Outcome runtimes platform index params answer)
    (spares : Spares platform next index) : Outcome runtimes next index params answer := by
  obtain ⟨⟨rows, isRows⟩, creators, isCreators, apart⟩ := spares
  have fresh : some index ∉ platform.creators → some index ∉ next.creators := by
    intro fresh member
    rw [isCreators] at member
    exact (List.mem_append.mp member).elim fresh apart
  cases outcome with
  | waiting before => exact .waiting (fresh before)
  | stored row inserted stores read =>
    exact .stored row (inserted.mono ⟨rows, isRows⟩ ⟨creators, isCreators⟩) stores read
  | conflict used before =>
    refine .conflict ?_ (fresh before)
    rw [isRows, List.map_append]
    exact List.mem_append_left _ used
  | invalid issues foreign about before => exact .invalid issues foreign about (fresh before)
  | thrown code other => exact .thrown code other

/-! ## What a page makes of a reply -/

variable {α : Type} {answer : Except Failure α}

theorem settle_submitting (page : Page) (answer : Except Failure α) : (settle page answer).submitting = false := by
  unfold settle
  split
  · rfl
  · split
    · rfl
    · split <;> rfl
  · rfl
  · rfl

theorem settle_success (shown : (settle page answer).success = true) :
    page.success = true ∨ ∃ value, answer = .ok value := by
  unfold settle at shown
  split at shown
  · exact Or.inr ⟨_, rfl⟩
  · split at shown
    · exact Or.inl shown
    · split at shown <;> exact Or.inl shown
  · exact Or.inl shown
  · exact Or.inl shown

theorem settle_globalError {message : String} (shown : (settle page answer).globalError = some message) :
    page.globalError = some message ∨ (settle mounted answer).globalError = some message := by
  cases answer with
  | ok value => exact Or.inl shown
  | error failure =>
    cases failure with
    | apiClientError error status =>
      by_cases retryable : isRetryable status = true
      · simp only [settle, if_pos retryable] at shown ⊢
        exact Or.inr shown
      · cases errors : extractFieldErrors (issuesOf error.details) with
        | nil =>
          simp only [settle, if_neg retryable, errors] at shown ⊢
          exact Or.inr shown
        | cons first rest =>
          simp only [settle, if_neg retryable, errors] at shown
          exact Or.inl shown
    | schemaMismatch issues status => exact Or.inr shown
    | error message => exact Or.inr shown

theorem settle_retryable {error : SiteContracts.ApiError} {status : Nat} (retryable : isRetryable status = true) :
    settle page (.error (.apiClientError error status) : Except Failure α) =
      { page with submitting := false, globalError := some (serverError error.message) } :=
  if_pos retryable

/-- A failure that is final shows its issues, or else its message. -/
theorem settle_final {error : SiteContracts.ApiError} {status : Nat} (final : isRetryable status = false)
    {message : String}
    (shown : (settle mounted (.error (.apiClientError error status) : Except Failure α)).globalError =
      some message) : message = error.code ++ ": " ++ error.message := by
  have stays : ¬isRetryable status = true := by simp [final]
  simp only [settle, if_neg stays] at shown
  split at shown
  · exact (Option.some.inj shown).symm
  · cases shown

/-- The messages of the API that are not about a conflict. -/
theorem other_messages : "VALIDATION_FAILED" ++ ": " ++ "Request validation failed" ≠ conflictText ∧
    serverError "An unexpected error occurred" ≠ conflictText := by decide +kernel

/-- A reply is taken for a success or for a conflict only where it is one. -/
theorem reply_settles (outcome : Outcome runtimes platform index params (some result)) (requestId : Option String) :
    (∀ value, received (siteResponseSchema runtimes.browser) (createReply requestId result) = .ok value →
        ∃ row, result = .ok row) ∧
      ((settle mounted (received (siteResponseSchema runtimes.browser) (createReply requestId result))).globalError =
          some conflictText → ∃ slug, result = .error (slugConflict slug)) := by
  cases outcome with
  | stored row inserted stores read =>
    have reads := site_readsBack read
    rw [ReadsBack, ← siteResponse_shown read] at reads
    refine ⟨fun _ _ => ⟨row, rfl⟩, ?_⟩
    rw [createReply, Except.map, received_of_data (by decide), reads]
    intro shown
    cases shown
  | conflict used fresh =>
    have failed : ¬isOk (catchException requestId (slugConflict params.slug)).2 := (by decide : ¬isOk 409)
    refine ⟨?_, fun _ => ⟨params.slug, rfl⟩⟩
    rw [createReply, Except.map, received_of_exception failed]
    intro value accepted
    cases accepted
  | invalid issues foreign about fresh =>
    have failed : ¬isOk (catchException requestId (.zodError (issues.map issueJson))).2 := (by decide : ¬isOk 400)
    rw [createReply, Except.map, received_of_exception failed]
    refine ⟨fun value accepted => (by cases accepted), fun shown => ?_⟩
    exact absurd (settle_final (by decide : isRetryable 400 = false) shown).symm other_messages.1
  | thrown code other =>
    have internal : catchException requestId (.other code) =
        (⟨"INTERNAL", "An unexpected error occurred", none, requestId⟩, 500) := if_neg other
    have failed : ¬isOk (catchException requestId (.other code)).2 := by
      rw [internal]
      exact (by decide : ¬isOk 500)
    rw [createReply, Except.map, received_of_exception failed, internal,
      settle_retryable (by decide : isRetryable 500 = true)]
    refine ⟨fun value accepted => (by cases accepted), fun shown => ?_⟩
    exact absurd (Option.some.inj shown) other_messages.2

/-! ## What a step keeps -/

/-- Requests keep their pages and their results. -/
def Extends (before after : List Request) : Prop :=
  ∀ (index : Nat) request, before[index]? = some request → ∃ later, after[index]? = some later ∧
    later.page = request.page ∧ ∀ result, request.result = some result → later.result = some result

theorem extends_refl (requests : List Request) : Extends requests requests :=
  fun _ request held => ⟨request, held, rfl, fun _ same => same⟩

theorem extends_append (before more : List Request) : Extends before (before ++ more) := by
  intro index request held
  refine ⟨request, ?_, rfl, fun _ same => same⟩
  rw [List.getElem?_append_left (List.getElem?_eq_some_iff.mp held).1, held]

theorem extends_set {before : List Request} (held : before[index]? = some request) (page : other.page = request.page)
    (kept : ∀ result, request.result = some result → other.result = some result) :
    Extends before (before.set index other) := by
  intro place found isFound
  by_cases same : index = place
  · subst same
    cases held.symm.trans isFound
    exact ⟨other, List.getElem?_set_self (List.getElem?_eq_some_iff.mp held).1, page, kept⟩
  · exact ⟨found, by rw [List.getElem?_set_ne same, isFound], rfl, fun _ kept => kept⟩

theorem Platform.Got.mono {index : Nat} (got : platform.Got index result)
    (kept : Extends platform.requests next.requests) :
    next.Got index result := by
  obtain ⟨place, request, held, ofPage, answered⟩ := got
  obtain ⟨later, isLater, page, results⟩ := kept place request held
  exact ⟨place, later, isLater, page.trans ofPage, results _ answered⟩

theorem PageSound.mono {index : Nat} (sound : PageSound platform index page)
    (waits : next.Waits index ↔ platform.Waits index)
    (kept : Extends platform.requests next.requests) : PageSound next index page := by
  refine ⟨sound.waiting.trans waits.symm, fun shown => ?_, fun shown => ?_⟩
  · obtain ⟨row, got⟩ := sound.success shown
    exact ⟨row, got.mono kept⟩
  · obtain ⟨slug, got⟩ := sound.conflict shown
    exact ⟨slug, got.mono kept⟩

/-- Replacing a request by one of the same page that is awaited as before. -/
theorem waits_set (other : Request) (held : platform.requests[index]? = some request)
    (requests : next.requests = platform.requests.set index other) (page : other.page = request.page)
    (awaited : other.awaited = request.awaited) (place : Nat) :
    next.Waits place ↔ platform.Waits place := by
  have isSet : (platform.requests.set index other)[index]? = some other :=
    List.getElem?_set_self (List.getElem?_eq_some_iff.mp held).1
  constructor
  · rintro ⟨own, found, isFound, ofPage, waiting⟩
    rw [requests] at isFound
    by_cases same : index = own
    · subst same
      cases isSet.symm.trans isFound
      exact ⟨index, request, held, page ▸ ofPage, awaited ▸ waiting⟩
    · rw [List.getElem?_set_ne same] at isFound
      exact ⟨own, found, isFound, ofPage, waiting⟩
  · rintro ⟨own, found, isFound, ofPage, waiting⟩
    by_cases same : index = own
    · subst same
      cases held.symm.trans isFound
      exact ⟨index, other, requests ▸ isSet, page.trans ofPage, awaited.trans waiting⟩
    · exact ⟨own, found, by rw [requests, List.getElem?_set_ne same, isFound], ofPage, waiting⟩

theorem Outcome.same {answer : Option (Except Exception SiteRow)}
    (outcome : Outcome runtimes platform index params answer)
    (sites : next.sites = platform.sites) (creators : next.creators = platform.creators) :
    Outcome runtimes next index params answer :=
  outcome.mono ⟨⟨[], by rw [sites, List.append_nil]⟩, [], by rw [creators, List.append_nil], List.not_mem_nil⟩

theorem sound_mount (sound : Sound runtimes platform) :
    Sound runtimes { platform with pages := platform.pages ++ [mounted] } := by
  refine ⟨sound.listed, sound.aligned, sound.creators, fun index request held => ?_, sound.one,
    fun index page held => ?_⟩
  · have before := sound.requests index request held
    refine ⟨before.parsed, before.outcome.same rfl rfl, ?_⟩
    rw [List.length_append]
    exact Nat.lt_add_right _ before.known
  · rcases Nat.lt_or_ge index platform.pages.length with old | new
    · rw [List.getElem?_append_left old] at held
      exact (sound.pages index page held).mono Iff.rfl (extends_refl platform.requests)
    · rw [List.getElem?_append_right new] at held
      have isMounted : page = mounted := List.mem_singleton.mp (List.mem_of_getElem? held)
      subst isMounted
      refine ⟨⟨nofun, ?_⟩, nofun, nofun⟩
      rintro ⟨place, request, found, rfl, -⟩
      exact absurd (sound.requests place request found).known (Nat.not_lt.mpr new)

/-! ## Sending -/

/-- A page that only shows its own errors. -/
theorem sound_rejected (sound : Sound runtimes platform) (held : platform.pages[index]? = some page)
    (errors : List (String × String)) :
    Sound runtimes { platform with
      pages := platform.pages.set index { page with globalError := none, fieldErrors := errors } } := by
  refine ⟨sound.listed, sound.aligned, sound.creators, fun place request found => ?_, sound.one,
    fun place shown found => ?_⟩
  · have before := sound.requests place request found
    refine ⟨before.parsed, before.outcome.same rfl rfl, ?_⟩
    rw [List.length_set]
    exact before.known
  · by_cases same : index = place
    · subst same
      rw [List.getElem?_set_self (List.getElem?_eq_some_iff.mp held).1] at found
      cases found
      have before := sound.pages index page held
      exact ⟨before.waiting, before.success, nofun⟩
    · rw [List.getElem?_set_ne same] at found
      exact (sound.pages place shown found).mono Iff.rfl (extends_refl platform.requests)

theorem sound_sent (sound : Sound runtimes platform) (held : platform.pages[index]? = some page)
    (idle : page.submitting = false) (unsuccessful : page.success = false)
    (parsed : createSiteSchema runtimes.browser (some entered.raw) = .ok params) :
    Sound runtimes { platform with
      pages := platform.pages.set index { page with submitting := true, globalError := none, fieldErrors := [] }
      requests := platform.requests ++ [⟨index, entered, params, none, true⟩] } := by
  have idles : ¬platform.Waits index := fun waits => by
    have submitting := (sound.pages index page held).waiting.mpr waits
    rw [idle] at submitting
    cases submitting
  -- A request is an earlier one, or the one that is sent.
  have cases_of : ∀ (place : Nat) request,
      (platform.requests ++ [⟨index, entered, params, none, true⟩])[place]? = some request →
        platform.requests[place]? = some request ∨
          place = platform.requests.length ∧ request = ⟨index, entered, params, none, true⟩ := by
    intro place request found
    rcases Nat.lt_or_ge place platform.requests.length with old | new
    · rw [List.getElem?_append_left old] at found
      exact Or.inl found
    · have bounded := (List.getElem?_eq_some_iff.mp found).1
      rw [List.length_append, List.length_singleton] at bounded
      have last : place = platform.requests.length := by omega
      rw [List.getElem?_append_right new] at found
      exact Or.inr ⟨last, List.mem_singleton.mp (List.mem_of_getElem? found)⟩
  refine ⟨sound.listed, sound.aligned, fun place member => ?_, fun place request found => ?_, ?_,
    fun place shown found => ?_⟩
  · rw [List.length_append]
    exact Nat.lt_add_right _ (sound.creators place member)
  · rcases cases_of place request found with old | ⟨rfl, rfl⟩
    · have before := sound.requests place request old
      refine ⟨before.parsed, before.outcome.same rfl rfl, ?_⟩
      rw [List.length_set]
      exact before.known
    · refine ⟨parsed, .waiting fun member => absurd (sound.creators _ member) (Nat.lt_irrefl _), ?_⟩
      rw [List.length_set]
      exact (List.getElem?_eq_some_iff.mp held).1
  · intro first second request other isFirst isSecond samePage awaited alsoAwaited
    rcases cases_of first request isFirst with old | ⟨rfl, rfl⟩
    · rcases cases_of second other isSecond with alsoOld | ⟨rfl, rfl⟩
      · exact sound.one first second request other old alsoOld samePage awaited alsoAwaited
      · exact absurd ⟨first, request, old, samePage, awaited⟩ idles
    · rcases cases_of second other isSecond with old | ⟨rfl, -⟩
      · exact absurd ⟨second, other, old, samePage.symm, alsoAwaited⟩ idles
      · rfl
  · have kept := extends_append platform.requests [⟨index, entered, params, none, true⟩]
    by_cases same : index = place
    · subst same
      rw [List.getElem?_set_self (List.getElem?_eq_some_iff.mp held).1] at found
      cases found
      refine ⟨⟨fun _ => ?_, fun _ => rfl⟩, fun success => ?_, nofun⟩
      · exact ⟨platform.requests.length, _, List.getElem?_concat_length, rfl, rfl⟩
      · rw [unsuccessful] at success
        cases success
    · rw [List.getElem?_set_ne same] at found
      refine (sound.pages place shown found).mono ⟨?_, ?_⟩ kept
      · rintro ⟨own, request, isOwn, ofPage, awaited⟩
        rcases cases_of own request isOwn with old | ⟨rfl, rfl⟩
        · exact ⟨own, request, old, ofPage, awaited⟩
        · exact absurd ofPage same
      · rintro ⟨own, request, isOwn, ofPage, awaited⟩
        refine ⟨own, request, ?_, ofPage, awaited⟩
        rw [List.getElem?_append_left (List.getElem?_eq_some_iff.mp isOwn).1, isOwn]

/-! ## Handling -/

theorem handled_listed (listed : Listed runtimes.server table) (handled : Handled runtimes table after params result) :
    Listed runtimes.server after ∧ ∃ more, after.rows = table.rows ++ more := by
  cases handled with
  | stored row gains | storedThrows row gains code other => exact ⟨gains_listed listed gains.toGains, [row], gains.rows⟩
  | conflict used same | invalid issues foreign about same | thrown code other same =>
    exact ⟨same ▸ listed, [], by rw [same, List.append_nil]⟩

/-- What a handler did is what the platform holds of the request. -/
theorem handled_outcome (aligned : platform.creators.length = platform.sites.rows.length)
    (fresh : some index ∉ platform.creators) (handled : Handled runtimes platform.sites after params result) :
    Outcome runtimes (platform.withSites after (some index)) index params (some result) := by
  have unchanged : after = platform.sites → some index ∉ (platform.withSites after (some index)).creators := by
    rintro rfl
    rw [Platform.withSites, Nat.sub_self, List.replicate_zero, List.append_nil]
    exact fresh
  cases handled with
  | stored row gains =>
    refine .stored row ⟨platform.sites.rows.length, ?_, ?_⟩ gains.stores gains.read
    · change after.rows[_]? = _
      rw [gains.rows]
      exact List.getElem?_concat_length
    · rw [Platform.withSites, gains.rows, List.length_append, Nat.add_sub_cancel_left, ← aligned]
      exact List.getElem?_concat_length
  | storedThrows row gains code other => exact .thrown code other
  | conflict used same =>
    refine .conflict ?_ (unchanged same)
    change _ ∈ after.rows.map SiteRow.slug
    rw [same]
    exact used
  | invalid issues foreign about same => exact .invalid issues foreign about (unchanged same)
  | thrown code other same => exact .thrown code other

theorem withSites_aligned (aligned : platform.creators.length = platform.sites.rows.length)
    (rows : ∃ more, after.rows = platform.sites.rows ++ more) (creator : Option Nat) :
    (platform.withSites after creator).creators.length = after.rows.length := by
  obtain ⟨more, rows⟩ := rows
  rw [Platform.withSites, List.length_append, List.length_replicate, aligned, rows, List.length_append]
  omega

theorem withSites_spares (rows : ∃ more, after.rows = platform.sites.rows ++ more)
    {creator : Option Nat} {index : Nat} (apart : creator ≠ some index) (requests : List Request) :
    Spares platform { platform.withSites after creator with requests } index :=
  ⟨rows, _, rfl, fun member => apart (List.eq_of_mem_replicate member).symm⟩

theorem sound_stranger (sound : Sound runtimes platform) (listed : Listed runtimes.server after)
    (rows : ∃ more, after.rows = platform.sites.rows ++ more) : Sound runtimes (platform.withSites after none) := by
  refine ⟨listed, withSites_aligned sound.aligned rows none, fun index member => ?_,
    fun index request held => ?_, sound.one, fun index page held => ?_⟩
  · refine sound.creators index ((List.mem_append.mp member).resolve_right fun added => ?_)
    cases List.eq_of_mem_replicate added
  · have before := sound.requests index request held
    have apart : none ≠ some index := nofun
    exact ⟨before.parsed, before.outcome.mono (withSites_spares rows apart platform.requests), before.known⟩
  · exact (sound.pages index page held).mono Iff.rfl (extends_refl platform.requests)

theorem sound_arrived (sound : Sound runtimes platform) (held : platform.requests[index]? = some request)
    (waiting : request.result = none) (handled : Handled runtimes platform.sites after request.params result) :
    Sound runtimes { platform.withSites after (some index) with
      requests := platform.requests.set index { request with result := some result } } := by
  obtain ⟨listed, rows⟩ := handled_listed sound.listed handled
  have own := sound.requests index request held
  have bounded := (List.getElem?_eq_some_iff.mp held).1
  have isSet : (platform.requests.set index { request with result := some result })[index]? =
      some { request with result := some result } := List.getElem?_set_self bounded
  have fresh : some index ∉ platform.creators := by
    have outcome := own.outcome
    rw [waiting] at outcome
    cases outcome with
    | waiting fresh => exact fresh
  refine ⟨listed, withSites_aligned sound.aligned rows (some index), fun place member => ?_,
    fun place found isFound => ?_, ?_, fun place page found => ?_⟩
  · change place < (platform.requests.set index _).length
    rw [List.length_set]
    rcases List.mem_append.mp member with old | added
    · exact sound.creators place old
    · cases List.eq_of_mem_replicate added
      exact bounded
  · by_cases same : index = place
    · subst same
      cases isSet.symm.trans isFound
      exact ⟨own.parsed, (handled_outcome sound.aligned fresh handled).same rfl rfl, own.known⟩
    · change (platform.requests.set index _)[place]? = some found at isFound
      rw [List.getElem?_set_ne same] at isFound
      have before := sound.requests place found isFound
      exact ⟨before.parsed, before.outcome.mono (withSites_spares rows (fun equal => same (Option.some.inj equal)) _),
        before.known⟩
  · -- Only results differ.
    have earlier : ∀ (place : Nat) found,
        (platform.requests.set index { request with result := some result })[place]? = some found → ∃ before,
          platform.requests[place]? = some before ∧ before.page = found.page ∧ before.awaited = found.awaited := by
      intro place found isFound
      by_cases same : index = place
      · subst same
        cases isSet.symm.trans isFound
        exact ⟨request, held, rfl, rfl⟩
      · rw [List.getElem?_set_ne same] at isFound
        exact ⟨found, isFound, rfl, rfl⟩
    intro first second one other isFirst isSecond samePage awaited alsoAwaited
    obtain ⟨before, held, page, waits⟩ := earlier first one isFirst
    obtain ⟨otherBefore, otherHeld, otherPage, otherWaits⟩ := earlier second other isSecond
    exact sound.one first second before otherBefore held otherHeld (page.trans (samePage.trans otherPage.symm))
      (waits.trans awaited) (otherWaits.trans alsoAwaited)
  · refine (sound.pages place page found).mono (waits_set { request with result := some result } held rfl rfl rfl place)
      (extends_set held rfl fun _ known => ?_)
    rw [waiting] at known
    cases known

/-! ## The end of a request -/

section close

variable (result : Except Failure α)

theorem closed_at (held : platform.requests[index]? = some request) :
    (close platform index request result).requests[index]? = some { request with awaited := false } :=
  List.getElem?_set_self (List.getElem?_eq_some_iff.mp held).1

theorem closed_elsewhere (apart : index ≠ place) :
    (close platform index request result).requests[place]? = platform.requests[place]? :=
  List.getElem?_set_ne apart

/-- A request that is still awaited is another one, and was awaited before. -/
theorem awaited_of_closed (held : platform.requests[index]? = some request)
    (isOther : (close platform index request result).requests[place]? = some other) (waits : other.awaited = true) :
    platform.requests[place]? = some other ∧ index ≠ place := by
  by_cases same : index = place
  · subst same
    cases (closed_at result held).symm.trans isOther
    cases waits
  · exact ⟨(closed_elsewhere result same).symm.trans isOther, same⟩

theorem waits_closed (held : platform.requests[index]? = some request) (others : request.page ≠ place) :
    (close platform index request result).Waits place ↔ platform.Waits place := by
  constructor
  · rintro ⟨other, found, isFound, ofPage, waits⟩
    exact ⟨other, found, (awaited_of_closed result held isFound waits).1, ofPage, waits⟩
  · rintro ⟨other, found, isFound, ofPage, waits⟩
    have apart : index ≠ other := by
      rintro rfl
      cases held.symm.trans isFound
      exact others ofPage
    exact ⟨other, found, (closed_elsewhere result apart).trans isFound, ofPage, waits⟩

/-- The end of a request changes only whether it is awaited. -/
theorem requestSound_closed (sound : Sound runtimes platform) (held : platform.requests[index]? = some request)
    (isOther : (close platform index request result).requests[place]? = some other) :
    RequestSound runtimes (close platform index request result) place other := by
  have before : ∃ old, platform.requests[place]? = some old ∧ other.page = old.page ∧
      other.entered = old.entered ∧ other.params = old.params ∧ other.result = old.result := by
    by_cases same : index = place
    · subst same
      cases (closed_at result held).symm.trans isOther
      exact ⟨request, held, rfl, rfl, rfl, rfl⟩
    · exact ⟨other, (closed_elsewhere result same).symm.trans isOther, rfl, rfl, rfl, rfl⟩
  obtain ⟨old, isOld, samePage, sameEntered, sameParams, sameResult⟩ := before
  have oldSound := sound.requests place old isOld
  refine ⟨?_, ?_, ?_⟩
  · rw [sameEntered, sameParams]
    exact oldSound.parsed
  · rw [sameParams, sameResult]
    exact oldSound.outcome.same rfl rfl
  · rw [samePage]
    change old.page < (platform.pages.modify _ _).length
    rw [List.length_modify]
    exact oldSound.known

variable {result}

/-- The page that hears of the end of its request. -/
theorem pageSound_settled (sound : Sound runtimes platform) (held : platform.requests[index]? = some request)
    (awaited : request.awaited = true) (isPage : platform.pages[request.page]? = some page)
    (succeeds : ∀ value, result = .ok value → ∃ row, request.result = some (.ok row))
    (conflicts : (settle mounted result).globalError = some conflictText →
      ∃ slug, request.result = some (.error (slugConflict slug))) :
    PageSound (close platform index request result) request.page (settle page result) := by
  have before := sound.pages request.page page isPage
  have kept : Extends platform.requests (close platform index request result).requests :=
    extends_set held rfl fun _ same => same
  have got : ∀ outcome, request.result = some outcome →
      (close platform index request result).Got request.page outcome :=
    fun outcome answered => ⟨index, _, closed_at result held, rfl, answered⟩
  refine ⟨?_, fun shown => ?_, fun shown => ?_⟩
  · rw [settle_submitting]
    refine ⟨fun waiting => absurd waiting Bool.false_ne_true, ?_⟩
    rintro ⟨place, found, isFound, ofPage, waits⟩
    obtain ⟨isOld, apart⟩ := awaited_of_closed result held isFound waits
    exact absurd (sound.one index place request found held isOld ofPage.symm awaited waits) apart
  · rcases settle_success shown with earlier | ⟨value, ok⟩
    · obtain ⟨row, gotten⟩ := before.success earlier
      exact ⟨row, gotten.mono kept⟩
    · obtain ⟨row, answered⟩ := succeeds value ok
      exact ⟨row, got _ answered⟩
  · rcases settle_globalError shown with earlier | fromAnswer
    · obtain ⟨slug, gotten⟩ := before.conflict earlier
      exact ⟨slug, gotten.mono kept⟩
    · obtain ⟨slug, answered⟩ := conflicts fromAnswer
      exact ⟨slug, got _ answered⟩

theorem sound_closed (sound : Sound runtimes platform)
    (held : platform.requests[index]? = some request) (awaited : request.awaited = true)
    (succeeds : ∀ value, result = .ok value → ∃ row, request.result = some (.ok row))
    (conflicts : (settle mounted result).globalError = some conflictText →
      ∃ slug, request.result = some (.error (slugConflict slug))) :
    Sound runtimes (close platform index request result) := by
  refine ⟨sound.listed, sound.aligned, fun place member => ?_,
    fun place found isFound => requestSound_closed result sound held isFound, ?_, fun place page isPage => ?_⟩
  · change place < (platform.requests.set index _).length
    rw [List.length_set]
    exact sound.creators place member
  · intro first second one other isFirst isSecond samePage waits alsoWaits
    obtain ⟨before, -⟩ := awaited_of_closed result held isFirst waits
    obtain ⟨otherBefore, -⟩ := awaited_of_closed result held isSecond alsoWaits
    exact sound.one first second one other before otherBefore samePage waits alsoWaits
  · change (platform.pages.modify request.page _)[place]? = some page at isPage
    rw [List.getElem?_modify] at isPage
    obtain ⟨before, isBefore, rfl⟩ := Option.map_eq_some_iff.mp isPage
    by_cases own : request.page = place
    · subst own
      rw [if_pos rfl]
      exact pageSound_settled sound held awaited isBefore succeeds conflicts
    · rw [if_neg own]
      exact (sound.pages place before isBefore).mono (waits_closed result held own)
        (extends_set held rfl fun _ same => same)

end close

/-! ## Whole runs -/

variable {action : Action} {actions : List Action}

/-- The clock of the table shows a year of four digits, and what comes between a
page and the API does not word its failures as the API words a conflict. -/
def Ordinary : Action → Prop
  | .arrive _ handling => handling.Clocked
  | .stranger posting => posting.Clocked
  | .fail _ failure => (settle mounted (.error failure : Except Failure Unit)).globalError ≠ some conflictText
  | .mount | .submit _ _ | .reply _ _ => True

theorem step_sound (sound : Sound runtimes platform) (ordinary : Ordinary action)
    (stepped : step runtimes platform action = some next) : Sound runtimes next := by
  cases action with
  | mount =>
    cases stepped
    exact sound_mount sound
  | submit index entered =>
    obtain ⟨page, held, guarded⟩ := Option.bind_eq_some_iff.mp stepped
    obtain ⟨⟨unsuccessful, idle, -⟩, same⟩ := Option.ite_none_right_eq_some.mp guarded
    cases parsed : createSiteSchema runtimes.browser (some entered.raw) with
    | error messages =>
      simp only [handleSubmit, parsed, Option.toList_none, List.map_nil, List.append_nil] at same
      cases same
      exact sound_rejected sound held _
    | ok params =>
      simp only [handleSubmit, parsed] at same
      cases same
      exact sound_sent sound held idle unsuccessful parsed
  | arrive index handling =>
    simp only [step] at stepped
    split at stepped
    · rename_i page entered params awaited held
      obtain ⟨⟨sites, result⟩, handled, rfl⟩ := Option.map_eq_some_iff.mp stepped
      have own := sound.requests index _ held
      obtain ⟨checked, known⟩ := checked_of_accepted own.parsed
      exact sound_arrived sound held rfl (handle_handled checked known ordinary handled)
    · cases stepped
  | stranger posting =>
    obtain ⟨sites, created, rfl⟩ := Option.map_eq_some_iff.mp stepped
    obtain ⟨⟨after, result⟩, made, rfl⟩ := Option.map_eq_some_iff.mp created
    have created := create_created ordinary made
    refine sound_stranger sound (created_listed sound.listed created) ?_
    rcases created.rows with same | ⟨params, row, gains⟩
    · exact ⟨[], by rw [same, List.append_nil]⟩
    · exact ⟨[row], gains.rows⟩
  | reply index requestId =>
    simp only [step] at stepped
    split at stepped
    · rename_i page entered params result held
      cases stepped
      obtain ⟨succeeds, conflicts⟩ := reply_settles (sound.requests index _ held).outcome requestId
      refine sound_closed sound held rfl (fun value ok => ?_) (fun shown => ?_)
      · obtain ⟨row, rfl⟩ := succeeds value ok
        exact ⟨row, rfl⟩
      · obtain ⟨slug, rfl⟩ := conflicts shown
        exact ⟨slug, rfl⟩
    · cases stepped
  | fail index failure =>
    simp only [step] at stepped
    split at stepped
    · rename_i page entered params result held
      cases stepped
      exact sound_closed sound held rfl nofun fun shown => absurd shown ordinary
    · cases stepped

theorem initial_sound (runtimes : Runtimes) : Sound runtimes initial := by
  refine ⟨⟨List.forall_mem_nil _, List.nodup_nil⟩, rfl, nofun, ?_, ?_, ?_⟩
  · intro index request held
    cases held
  · intro first second request other held
    cases held
  · intro index page held
    cases held

/-! ## What the form tells -/

/-- An empty text is left out. -/
def given (text : String) : Option String := if text = "" then none else some text

/-- What is sent is what was entered, the country in capitals. -/
structure AsEntered (entered : Entered) (params : CreateSiteInput) : Prop where
  texts : params.slug = entered.slug ∧ params.name = entered.name ∧ params.country = entered.country.toUpper ∧
    params.timezone = entered.timezone ∧ params.emissionLimit = entered.emissionLimit
  address : params.state = given entered.state ∧ params.city = given entered.city ∧
    params.postalCode = given entered.postalCode
  latitude : NumberLiteral.toNumber entered.latitude = some params.latitude
  longitude : NumberLiteral.toNumber entered.longitude = some params.longitude

theorem text_of_read {checks : List (Check String)} {entered text : String}
    (read : string checks (some (.string entered)) = .ok text) : text = entered := by
  have same := (string_eq_ok.mp read).1
  cases same
  rfl

theorem given_of_read {checks : List (Check String)} {entered : String} {text : Option String}
    (read : Validation.optional (string checks) (orUndefined entered) = .ok text) : text = given entered := by
  unfold orUndefined at read
  unfold given
  split at read
  · rename_i empty
    cases read
    rw [if_pos empty]
  · rename_i filled
    obtain ⟨inner, readInner, rfl⟩ := map_eq_ok.mp read
    rw [if_neg filled, text_of_read readInner]

theorem number_of_read {checks : List (Check JsNumber)} {entered : String} {value : JsNumber}
    (read : number checks (some (numberOf entered)) = .ok value) : NumberLiteral.toNumber entered = some value := by
  unfold numberOf at read
  cases known : NumberLiteral.toNumber entered with
  | none =>
    rw [known] at read
    cases read
  | some other =>
    rw [known] at read
    obtain ⟨rfl, -⟩ := refine_eq_ok.mp read
    rfl

theorem asEntered_of_parsed (parsed : createSiteSchema supportedTimezones (some entered.raw) = .ok params) :
    AsEntered entered params := by
  rw [createSiteSchema, Entered.raw, object_stringify (by simp)] at parsed
  obtain ⟨fields, checked, rfl⟩ := map_eq_ok.mp parsed
  simp only [both_eq_ok] at checked
  obtain ⟨slug, name, country, state, city, postalCode, latitude, longitude, timezone, limit⟩ := checked
  exact ⟨⟨text_of_read slug, text_of_read name, text_of_read country, text_of_read timezone, text_of_read limit⟩,
    ⟨given_of_read state, given_of_read city, given_of_read postalCode⟩,
    number_of_read latitude, number_of_read longitude⟩

theorem issuesOf_written (issues : List (String × String)) :
    issuesOf (some (.array (issues.map issueJson))) = issues := by
  have read : ∀ issue : String × String, issueOf (issueJson issue) = some issue := fun _ => rfl
  rw [issuesOf, List.filterMap_map]
  exact (List.filterMap_congr fun issue _ => read issue).trans List.filterMap_some

/-- What a page shows, and what is so. -/
structure Tells (platform : Platform) (index : Nat) (page : Page) : Prop where
  /-- Its own request inserted what was entered. -/
  success : page.success = true → ∃ place request row, platform.requests[place]? = some request ∧ request.page = index ∧
    AsEntered request.entered request.params ∧ platform.InsertedBy place row ∧ Stores request.params row
  /-- Its slug is in use, and another request or client put it there. -/
  conflict : page.globalError = some conflictText → ∃ place request, platform.requests[place]? = some request ∧
    request.page = index ∧ request.entered.slug ∈ platform.sites.rows.map SiteRow.slug ∧ some place ∉ platform.creators
  submitting : page.submitting = true ↔ platform.Waits index

theorem tells_of_sound (sound : Sound runtimes platform) {index : Nat} (held : platform.pages[index]? = some page) :
    Tells platform index page := by
  have pageSound := sound.pages index page held
  refine ⟨fun shown => ?_, fun shown => ?_, pageSound.waiting⟩
  · obtain ⟨row, place, request, isRequest, ofPage, answered⟩ := pageSound.success shown
    have own := sound.requests place request isRequest
    have outcome := own.outcome
    rw [answered] at outcome
    cases outcome with
    | stored row inserted stores read =>
      exact ⟨place, request, row, isRequest, ofPage, asEntered_of_parsed own.parsed, inserted, stores⟩
  · obtain ⟨slug, place, request, isRequest, ofPage, answered⟩ := pageSound.conflict shown
    have own := sound.requests place request isRequest
    have outcome := own.outcome
    have asEntered := asEntered_of_parsed own.parsed
    generalize isResult : request.result = answer at outcome
    rw [answered] at isResult
    cases outcome with
    | conflict used fresh => exact ⟨place, request, isRequest, ofPage, asEntered.texts.1 ▸ used, fresh⟩
    | waiting fresh => cases isResult
    | stored row inserted stores read => cases isResult
    | invalid issues foreign about fresh => cases isResult
    | thrown code other => cases isResult

/-- A site has one creator. -/
theorem inserted_once (sound : Sound runtimes platform) {first second : Nat} {row other : SiteRow}
    (inserted : platform.InsertedBy first row) (also : platform.InsertedBy second other)
    (same : row.slug = other.slug) :
    first = second := by
  obtain ⟨place, stored, creator⟩ := inserted
  obtain ⟨otherPlace, otherStored, otherCreator⟩ := also
  have slugAt : ∀ {place : Nat} {row : SiteRow}, platform.sites.rows[place]? = some row →
      (platform.sites.rows.map SiteRow.slug)[place]? = some row.slug := by
    intro place row stored
    rw [List.getElem?_map, stored, Option.map_some]
  have bounded : place < (platform.sites.rows.map SiteRow.slug).length := by
    rw [List.length_map]
    exact (List.getElem?_eq_some_iff.mp stored).1
  have sameSlug : (platform.sites.rows.map SiteRow.slug)[place]? =
      (platform.sites.rows.map SiteRow.slug)[otherPlace]? := by
    rw [slugAt stored, slugAt otherStored, same]
  obtain rfl := (List.getElem?_inj bounded sound.listed.slugs).mp sameSlug
  cases creator.symm.trans otherCreator
  rfl

/-- **The form tells what is stored.** After any run of any pages, beside other
clients, whatever throws, is lost or comes too late: a page that shows success
has inserted the site as it was entered; one that shows a conflict has found its
slug in use, put there by another request or client; one that is submitting waits
for a reply. No slug was inserted by two requests, so no two pages share one success.
And the API refuses what the form let through only for a timezone that it does
not know. -/
theorem form_tells_what_is_stored (ordinary : ∀ action ∈ actions, Ordinary action)
    (ran : run (step runtimes) initial actions = some platform) :
    (∀ (index : Nat) page, platform.pages[index]? = some page → Tells platform index page) ∧
      (∀ first second row other, platform.InsertedBy first row → platform.InsertedBy second other →
        row.slug = other.slug → first = second) ∧
      ∀ (index : Nat) request issues, platform.requests[index]? = some request →
        request.result = some (.error (.zodError issues)) →
          ¬ReadsBack (timezoneSchema runtimes.server) .string request.entered.timezone ∧
            ∀ issue ∈ issuesOf (some (.array issues)), issue.1 = "timezone" := by
  have sound : Sound runtimes platform :=
    run_invariant_of_kind Ordinary (Sound runtimes) (fun holds kind stepped => step_sound holds kind stepped) ordinary
      (initial_sound runtimes) ran
  refine ⟨fun index page held => tells_of_sound sound held,
    fun _ _ _ _ inserted also same => inserted_once sound inserted also same,
    fun index request issues held answered => ?_⟩
  have own := sound.requests index request held
  have outcome := own.outcome
  rw [answered] at outcome
  cases outcome with
  | invalid issues foreign about fresh =>
    refine ⟨(asEntered_of_parsed own.parsed).texts.2.2.2.1 ▸ foreign, ?_⟩
    rw [issuesOf_written]
    exact about

private def wharf : Entered := ⟨"wharf", "Wharf", "gb", "", "London", "", "51.5", "-0.25", "Europe/London", "250"⟩

private theorem wharf_dated : (IsoDatetime.toISOString (1704067200000000 / 1000)).isSome := by decide +kernel

private def wharfRow (id : Int) : Insertion :=
  ⟨id, ⟨false, 515, -1⟩, ⟨true, 25, -2⟩, ⟨1704067200000000, wharf_dated⟩⟩

/-- A page creates a site, but hears nothing of it, and tries again; another page
creates a second one. -/
private def repeated : List Action :=
  [.mount, .mount, .submit 0 wharf, .arrive 0 (.completes (wharfRow 1)),
    .fail 0 (SiteContracts.clientError "Failed to fetch" 0), .submit 0 wharf, .arrive 1 (.completes (wharfRow 2)),
    .reply 1 none, .submit 1 { wharf with slug := "wharf-2" }, .arrive 2 (.completes (wharfRow 2)), .reply 2 none]

private def london : Runtimes := ⟨["Europe/London"], ["Europe/London"]⟩

private theorem repeated_ran :
    ∃ platform ∈ run (step london) initial repeated, platform.pages =
      [⟨false, some conflictText, [], false⟩, ⟨false, none, [], true⟩] ∧
        platform.sites.rows.map SiteRow.slug = ["wharf", "wharf-2"] ∧ platform.creators = [some 0, some 2] := by
  decide +kernel

private theorem repeated_ordinary : ∀ action ∈ repeated, Ordinary action := by
  have clocked : FourDigitYear ⟨1704067200000000, wharf_dated⟩ := by decide +kernel
  have unlike : (settle mounted
      (.error (SiteContracts.clientError "Failed to fetch" 0) : Except Failure Unit)).globalError ≠
      some conflictText := by decide +kernel
  simp only [repeated, List.forall_mem_cons, List.not_mem_nil, IsEmpty.forall_iff, implies_true, and_true, Ordinary,
    true_and]
  exact ⟨clocked, unlike, clocked, clocked⟩

theorem repeated_creation_is_a_conflict :
    ∃ platform page other, run (step london) initial repeated = some platform ∧
      platform.pages = [page, other] ∧ page.globalError = some conflictText ∧ other.success = true ∧
        Tells platform 0 page ∧ Tells platform 1 other := by
  obtain ⟨platform, ran, pages, -, -⟩ := repeated_ran
  have tells := (form_tells_what_is_stored repeated_ordinary ran).1
  refine ⟨platform, _, _, ran, pages, rfl, rfl, tells 0 _ ?_, tells 1 _ ?_⟩
  · rw [pages]
    rfl
  · rw [pages]
    rfl

end EmissionsPlatform.CreationForm
