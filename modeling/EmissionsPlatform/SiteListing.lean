import EmissionsPlatform.ErrorEnvelopes
import EmissionsPlatform.Foundation.NumberLiteral
import EmissionsPlatform.SitesList

/-! Sites from the form that creates them to the list that shows them:
`POST /sites` (`SitesService.create`), the row it stores, and the answers of
`POST /sites` and `GET /sites` as the client reads them. The table gives a site
its id and its timestamps and rounds its coordinates; everything else is stored
as it was sent, unless a call of the transaction fails.
`sites_are_read_as_stored` says that the client accepts every answer, and that
what it reads is what is stored. -/
namespace EmissionsPlatform.SiteListing
open Contracts ErrorEnvelopes JsonWriting SitesList Transition Validation
open NumberLiteral (Decimal negate ofDecimal toNumber)
open SiteContracts (ApiError CreateSiteInput countryCodeSchema createSiteSchema datetimeSchema gte lte timezoneSchema)
set_option autoImplicit false

/-! ## Coordinates -/

/-- The double nearest to a number of millionths. -/
def ofMillionths (value : Int) : JsNumber :=
  if value < 0 then negate (ofDecimal value.natAbs (-6)) else ofDecimal value.natAbs (-6)

/-- The text of a `numeric(9, 6)`. -/
def coordinateText (value : Int) : String :=
  if value < 0 then "-" ++ DecimalText.numericText value.natAbs else DecimalText.numericText value.natAbs

/-! ## Creating a site -/

/-- What is added to a row: the next id of its serial, the texts of its
coordinates as they are sent, and the clock. -/
structure Insertion where
  id : Int
  latitude : Decimal
  longitude : Decimal
  now : Timestamp

/-- The row that `INSERT … RETURNING` brings. -/
def insertedRow (params : CreateSiteInput) (emissionLimit : Numeric) (insertion : Insertion) : SiteRow :=
  ⟨insertion.id, params.slug, params.name, params.country, params.state, params.city, params.postalCode,
    coordinateText (insertion.latitude.round 6), coordinateText (insertion.longitude.round 6), params.timezone,
    emissionLimit, insertion.now, insertion.now⟩

/-- The serial has not given the id out, and the notations are read back as the
numbers they are of, as those of `String` are. -/
def Insertion.Fits (insertion : Insertion) (params : CreateSiteInput) (table : SitesTable) : Prop :=
  insertion.id ∉ table.rows.map SiteRow.id ∧ (0 < insertion.id ∧ insertion.id ≤ bigintMax) ∧
    insertion.latitude.number = params.latitude ∧ insertion.longitude.number = params.longitude

instance (insertion : Insertion) (params : CreateSiteInput) (table : SitesTable) :
    Decidable (insertion.Fits params table) :=
  inferInstanceAs (Decidable (_ ∧ _))

/-- A row comes in under an id of its own. -/
def insert (table : SitesTable) (row : SiteRow) (fresh : row.id ∉ table.rows.map SiteRow.id)
    (serial : 0 < row.id ∧ row.id ≤ bigintMax) : SitesTable where
  rows := table.rows ++ [row]
  ids := by
    rw [List.map_append, List.map_singleton]
    exact List.Nodup.append table.ids (List.nodup_singleton _) (List.disjoint_singleton.mpr fresh)
  serial := List.forall_mem_append.mpr ⟨table.serial, List.forall_mem_singleton.mpr serial⟩

/-- `ConflictException`, thrown for a violation of `sites_slug_unique`. -/
def slugConflict (slug : String) : Exception :=
  .httpException 409 "site with this slug already exists"
    (.object [("message", .string "site with this slug already exists"), ("details", .object [("slug", .string slug)])])

/-- A text that Postgres refuses. -/
def hasNul (text : String) : Bool := text.toList.contains (Char.ofNat 0)

/-- Some text of the row is refused. -/
def Unstorable (params : CreateSiteInput) : Prop :=
  ∃ text ∈ [params.slug, params.name, params.country, params.timezone] ++ params.state.toList ++ params.city.toList ++
    params.postalCode.toList, hasNul text = true

instance (params : CreateSiteInput) : Decidable (Unstorable params) :=
  inferInstanceAs (Decidable (∃ text ∈ _, _))

/-- The transaction, where each of its calls is answered. `none` where the table
would not make this insertion. -/
def insertSite (table : SitesTable) (params : CreateSiteInput) (insertion : Insertion) :
    Option (SitesTable × Except Exception SiteRow) :=
  match Numeric.ofText params.emissionLimit with
  -- `numeric field overflow`
  | none => some (table, .error (.other (some "22003")))
  | some emissionLimit =>
    -- `invalid byte sequence for encoding "UTF8": 0x00`
    if Unstorable params then some (table, .error (.other (some "22021")))
    else if params.slug ∈ table.rows.map SiteRow.slug then some (table, .error (slugConflict params.slug))
    else if fits : insertion.Fits params table then
      let row := insertedRow params emissionLimit insertion
      some (insert table row fits.1 fits.2.1, .ok row)
    else none

/-- How the calls of a transaction go: `BEGIN`, the insert, `SADD` and `COMMIT`. -/
inductive Handling
  | completes (insertion : Insertion)
  /-- One throws, and the transaction is rolled back. -/
  | throws (code : Option String)
  /-- `COMMIT` takes effect, and throws. -/
  | commitThrows (insertion : Insertion) (code : Option String)

/-- `POST /sites`: the table afterwards, and what the handler returns or throws. -/
def create (supportedTimezones : List String) (table : SitesTable) (body : Option Json) (handling : Handling) :
    Option (SitesTable × Except Exception SiteRow) :=
  match transform (createSiteSchema supportedTimezones) body with
  | .error exception => some (table, .error exception)
  | .ok params =>
    match handling with
    | .completes insertion => insertSite table params insertion
    -- A unique violation would be the conflict of a slug.
    | .throws code => if code = some "23505" then none else some (table, .error (.other code))
    | .commitThrows insertion code =>
      match insertSite table params insertion with
      | some (after, .ok _) => if code = some "23505" then none else some (after, .error (.other code))
      | _ => none

/-! ## Answers -/

/-- A site with other numbers. -/
def mapNumbers {α β : Type} (convert : α → β) (site : SiteResponse α) : SiteResponse β :=
  { site with latitude := convert site.latitude, longitude := convert site.longitude }

/-- NaN is written as null. -/
def siteFields (site : SiteResponse (Option JsNumber)) : List (String × Option Json) :=
  [("slug", some (.string site.slug)), ("name", some (.string site.name)), ("country", some (.string site.country)),
    ("state", some (orNull .string site.state)), ("city", some (orNull .string site.city)),
    ("postal_code", some (orNull .string site.postalCode)), ("latitude", some (orNull .number site.latitude)),
    ("longitude", some (orNull .number site.longitude)), ("timezone", some (.string site.timezone)),
    ("emission_limit", some (.string site.emissionLimit)), ("created_at", some (.string site.createdAt)),
    ("updated_at", some (.string site.updatedAt))]

def siteJson (site : SiteResponse (Option JsNumber)) : Json := stringify (siteFields site)

def pageJson (page : SitesListResponse (Option JsNumber)) : Json :=
  stringify [("data", some (.array (page.data.map siteJson))), ("next_cursor", some (orNull .string page.nextCursor))]

def siteResponseSchema (supportedTimezones : List String) : Schema (SiteResponse JsNumber) :=
  object fun field =>
    (both (slugSchema (field "slug"))
      (both (string [] (field "name"))
        (both (countryCodeSchema (field "country"))
          (both (nullable (string []) (field "state"))
            (both (nullable (string []) (field "city"))
              (both (nullable (string []) (field "postal_code"))
                (both (number [] (field "latitude"))
                  (both (number [] (field "longitude"))
                    (both (timezoneSchema supportedTimezones (field "timezone"))
                      (both (numericKgSchema (field "emission_limit"))
                        (both (datetimeSchema (field "created_at")) (datetimeSchema (field "updated_at"))))))))))))).map
      fun (slug, name, country, state, city, postalCode, latitude, longitude, timezone, emissionLimit, createdAt,
          updatedAt) =>
        ⟨slug, name, country, state, city, postalCode, latitude, longitude, timezone, emissionLimit, createdAt,
          updatedAt⟩

def sitesListResponseSchema (supportedTimezones : List String) : Schema (SitesListResponse JsNumber) :=
  object fun field =>
    (both (array [] (siteResponseSchema supportedTimezones) (field "data"))
      (nullable (string []) (field "next_cursor"))).map fun (data, nextCursor) => ⟨data, nextCursor⟩

/-- The reply to `POST /sites`. -/
def createReply (requestId : Option String) (result : Except Exception SiteRow) : Response :=
  respond 201 requestId (result.map fun row => siteJson (siteResponse toNumber row))

/-- The reply to `GET /sites`; a query that fails has the code of its error. -/
def listReply (requestId : Option String) (limit : Nat) (cursor : Option String) (table : SitesTable) : Response :=
  respond 200 requestId
    (match listSites toNumber limit cursor table with
    | .ok page => .ok (pageJson page)
    | .error (.bigintOutOfRange _) => .error (.other (some "22003")))

/-! ## Numbers of rows -/

variable {value : Int} {supportedTimezones : List String} {table after : SitesTable} {row : SiteRow}
variable {params : CreateSiteInput} {insertion : Insertion} {body : Option Json} {handling : Handling}

/-- A coordinate is read as the double nearest to what was stored. -/
theorem toNumber_coordinateText (value : Int) : toNumber (coordinateText value) = some (ofMillionths value) := by
  obtain ⟨plain, signed⟩ := NumberLiteral.toNumber_numericText value.natAbs
  unfold coordinateText ofMillionths
  split
  · exact signed
  · exact plain

/-- A rounded coordinate stays within the bounds of its schema, so its column
does not overflow. -/
theorem round_within {decimal : Decimal} (bound : Nat) (small : bound < 2 ^ 32)
    (least : decimal.number.isAtLeast (-bound) = true) (most : decimal.number.isAtMost bound = true) :
    -bound * 1000000 ≤ decimal.round 6 ∧ decimal.round 6 ≤ bound * 1000000 := by
  obtain ⟨above, below⟩ := @Decimal.round_within _ decimal 6 (by decide) small least most
  omega

/-! ## Reading a site back -/

/-- The year of a timestamp has four digits. -/
def FourDigitYear (timestamp : Timestamp) : Prop :=
  0 ≤ (Calendar.civil (timestamp.microseconds / 1000 / 86400000)).year ∧
    (Calendar.civil (timestamp.microseconds / 1000 / 86400000)).year ≤ 9999

instance (timestamp : Timestamp) : Decidable (FourDigitYear timestamp) := inferInstanceAs (Decidable (_ ∧ _))

/-- A row that the schemas let through: what was sent as it was sent, and what
the table added. -/
structure ValidRow (supportedTimezones : List String) (row : SiteRow) : Prop where
  slug : ReadsBack slugSchema .string row.slug
  country : ReadsBack countryCodeSchema .string row.country
  timezone : ReadsBack (timezoneSchema supportedTimezones) .string row.timezone
  latitude : ∃ value, row.latitude = coordinateText value ∧ -90 * 1000000 ≤ value ∧ value ≤ 90 * 1000000
  longitude : ∃ value, row.longitude = coordinateText value ∧ -180 * 1000000 ≤ value ∧ value ≤ 180 * 1000000
  createdAt : FourDigitYear row.createdAt
  updatedAt : FourDigitYear row.updatedAt

/-- The site as the client has it. -/
def shown (row : SiteRow) : SiteResponse JsNumber :=
  siteResponse (fun text => (toNumber text).getD (.integer 0)) row

theorem siteResponse_shown (valid : ValidRow supportedTimezones row) :
    siteResponse toNumber row = mapNumbers some (shown row) := by
  obtain ⟨latitude, isLatitude, -⟩ := valid.latitude
  obtain ⟨longitude, isLongitude, -⟩ := valid.longitude
  simp only [siteResponse, shown, mapNumbers, isLatitude, isLongitude, toNumber_coordinateText, Option.getD_some]

theorem datetime_iso {timestamp : Timestamp} (four : FourDigitYear timestamp) :
    ReadsBack datetimeSchema .string timestamp.iso := by
  obtain ⟨text, written, accepted⟩ := (IsoDatetime.datetime_toISOString_iff (timestamp.microseconds / 1000)).mpr four
  have iso : timestamp.iso = text := by
    rw [Timestamp.iso]
    simp only [written, Option.get_some]
  rw [iso]
  exact readsBack_string (List.forall_mem_singleton.mpr accepted)

theorem numericKg_text (column : Numeric) : ReadsBack numericKgSchema .string column.text := by
  refine readsBack_string (List.forall_mem_singleton.mpr ?_)
  have whole : (Nat.toDigits 10 (column.millionths / 1000000)).length ≤ 12 := by
    rw [Nat.length_toDigits_le_iff (by decide) (by decide)]
    have fits := column.fits
    omega
  have fraction : (DecimalText.padStart 6 '0' (Nat.toDigits 10 (column.millionths % 1000000))).length = 6 :=
    DecimalText.length_padStart (DecimalText.length_toDigits_le (Nat.mod_lt _ (by decide)))
  change numericKgRegex column.text = true
  rw [numericKgRegex, Numeric.text, DecimalText.read_numericText]
  simp [whole, fraction]

theorem siteFields_distinct (site : SiteResponse (Option JsNumber)) : ((siteFields site).map Prod.fst).Nodup := by
  have names : (siteFields site).map Prod.fst = ["slug", "name", "country", "state", "city", "postal_code", "latitude",
      "longitude", "timezone", "emission_limit", "created_at", "updated_at"] := rfl
  rw [names]
  decide

theorem nullable_text (text : Option String) : ReadsBack (nullable (string [])) (orNull .string) text :=
  nullable_readsBack (fun _ _ => readsBack_string (List.forall_mem_nil _)) (fun _ _ => nofun)

theorem number_read (value : JsNumber) : ReadsBack (number []) .number value :=
  refine_eq_ok.mpr ⟨rfl, List.forall_mem_nil _⟩

/-- The client reads a site as the server wrote it. -/
theorem site_readsBack (valid : ValidRow supportedTimezones row) :
    ReadsBack (siteResponseSchema supportedTimezones) (fun site => siteJson (mapNumbers some site)) (shown row) := by
  have name : ReadsBack (string []) .string row.name := readsBack_string (List.forall_mem_nil _)
  rw [ReadsBack, siteJson, siteResponseSchema, object_stringify (siteFields_distinct _)]
  refine map_eq_ok.mpr ⟨(row.slug, row.name, row.country, row.state, row.city, row.postalCode, (shown row).latitude,
    (shown row).longitude, row.timezone, row.emissionLimit.text, row.createdAt.iso, row.updatedAt.iso), ?_, rfl⟩
  simp only [both_eq_ok]
  exact ⟨valid.slug, name, valid.country, nullable_text row.state, nullable_text row.city, nullable_text row.postalCode,
    number_read _, number_read _, valid.timezone, numericKg_text row.emissionLimit, datetime_iso valid.createdAt,
    datetime_iso valid.updatedAt⟩

theorem page_readsBack {rows : List SiteRow} (valid : ∀ row ∈ rows, ValidRow supportedTimezones row)
    (nextCursor : Option String) :
    sitesListResponseSchema supportedTimezones (some (pageJson ⟨rows.map (siteResponse toNumber), nextCursor⟩)) =
      .ok ⟨rows.map shown, nextCursor⟩ := by
  have written : (rows.map (siteResponse toNumber)).map siteJson =
      (rows.map shown).map fun site => siteJson (mapNumbers some site) := by
    rw [List.map_map, List.map_map]
    refine List.map_congr_left fun row member => ?_
    rw [Function.comp_apply, siteResponse_shown (valid row member)]
    rfl
  have data : ReadsBack (array [] (siteResponseSchema supportedTimezones))
      (fun sites => .array (sites.map fun site => siteJson (mapNumbers some site))) (rows.map shown) :=
    array_readsBack (List.forall_mem_nil _)
      (List.forall_mem_map.mpr fun row member => site_readsBack (valid row member))
  rw [sitesListResponseSchema, pageJson, object_stringify (by simp)]
  refine map_eq_ok.mpr ⟨(rows.map shown, nextCursor), both_eq_ok.mpr ⟨?_, nullable_text nextCursor⟩, rfl⟩
  change array [] (siteResponseSchema supportedTimezones)
    (some (.array ((rows.map (siteResponse toNumber)).map siteJson))) = _
  rw [written]
  exact data

/-! ## Pages of a table -/

/-- Every row passes the schemas, and no slug is used twice. -/
structure Listed (supportedTimezones : List String) (table : SitesTable) : Prop where
  rows : ∀ row ∈ table.rows, ValidRow supportedTimezones row
  slugs : (table.rows.map SiteRow.slug).Nodup

/-- What the schema asks of a body. -/
structure Posted (supportedTimezones : List String) (params : CreateSiteInput) : Prop where
  slug : ReadsBack slugSchema .string params.slug
  country : ReadsBack countryCodeSchema .string params.country
  timezone : ReadsBack (timezoneSchema supportedTimezones) .string params.timezone
  latitude : params.latitude.isAtLeast (-90) = true ∧ params.latitude.isAtMost 90 = true
  longitude : params.longitude.isAtLeast (-180) = true ∧ params.longitude.isAtMost 180 = true
  emissionLimit : numericKgRegex params.emissionLimit = true

theorem number_eq_ok {checks : List (Check JsNumber)} {given : Option Json} {result : JsNumber}
    (read : number checks given = .ok result) : ∀ check ∈ checks, check.accepts result = true := by
  unfold number at read
  split at read
  · obtain ⟨rfl, accepted⟩ := refine_eq_ok.mp read
    exact accepted
  · cases read

theorem posted_of_accepted (accepted : createSiteSchema supportedTimezones body = .ok params) :
    Posted supportedTimezones params := by
  unfold createSiteSchema object at accepted
  split at accepted
  · obtain ⟨fields, checked, rfl⟩ := map_eq_ok.mp accepted
    simp only [both_eq_ok] at checked
    obtain ⟨slug, -, country, -, -, -, latitude, longitude, timezone, limit⟩ := checked
    have bounded := number_eq_ok latitude
    have bounded' := number_eq_ok longitude
    exact ⟨readsBack_string (string_eq_ok.mp slug).2, readsBack_string (string_eq_ok.mp country).2,
      readsBack_string (string_eq_ok.mp timezone).2,
      ⟨bounded _ List.mem_cons_self, bounded _ (List.mem_cons_of_mem _ List.mem_cons_self)⟩,
      ⟨bounded' _ List.mem_cons_self, bounded' _ (List.mem_cons_of_mem _ List.mem_cons_self)⟩,
      (string_eq_ok.mp limit).2 _ List.mem_cons_self⟩
  · cases accepted

/-- What is stored of a body. -/
structure Stores (params : CreateSiteInput) (row : SiteRow) : Prop where
  texts : row.slug = params.slug ∧ row.name = params.name ∧ row.country = params.country ∧
    row.timezone = params.timezone
  address : row.state = params.state ∧ row.city = params.city ∧ row.postalCode = params.postalCode
  /-- The millionth nearest to a notation of the number that was sent. -/
  latitude : ∃ decimal : Decimal, decimal.number = params.latitude ∧ row.latitude = coordinateText (decimal.round 6)
  longitude : ∃ decimal : Decimal, decimal.number = params.longitude ∧
    row.longitude = coordinateText (decimal.round 6)
  emissionLimit : Numeric.ofText params.emissionLimit = some row.emissionLimit

theorem insertedRow_valid {emissionLimit : Numeric} (posted : Posted supportedTimezones params)
    (fits : insertion.Fits params table) (clock : FourDigitYear insertion.now) :
    ValidRow supportedTimezones (insertedRow params emissionLimit insertion) := by
  obtain ⟨-, -, latitude, longitude⟩ := fits
  obtain ⟨north, east⟩ := And.intro posted.latitude posted.longitude
  rw [← latitude] at north
  rw [← longitude] at east
  exact ⟨posted.slug, posted.country, posted.timezone,
    ⟨_, rfl, round_within 90 (by decide) north.1 north.2⟩,
    ⟨_, rfl, round_within 180 (by decide) east.1 east.2⟩, clock, clock⟩

/-- The clock of the table shows a year of four digits. -/
def Handling.Clocked : Handling → Prop
  | .completes insertion | .commitThrows insertion _ => FourDigitYear insertion.now
  | .throws _ => True

/-- The table gains the row that was asked for. -/
structure Gains (supportedTimezones : List String) (table after : SitesTable) (params : CreateSiteInput)
    (row : SiteRow) : Prop where
  rows : after.rows = table.rows ++ [row]
  unused : row.slug ∉ table.rows.map SiteRow.slug
  stores : Stores params row
  valid : ValidRow supportedTimezones row

/-- How a creation ends: with the row that was asked for, also where `COMMIT`
throws, or with the table as it was, because of the body, of its slug, of a text
that cannot be stored or of a call that threw. -/
inductive Created (supportedTimezones : List String) (table after : SitesTable) (body : Option Json) :
    Handling → Except Exception SiteRow → Prop
  | stored (insertion : Insertion) (params : CreateSiteInput) (row : SiteRow)
      (accepted : createSiteSchema supportedTimezones body = .ok params)
      (gains : Gains supportedTimezones table after params row) :
      Created supportedTimezones table after body (.completes insertion) (.ok row)
  | storedThrows (insertion : Insertion) (code : Option String) (params : CreateSiteInput) (row : SiteRow)
      (accepted : createSiteSchema supportedTimezones body = .ok params)
      (gains : Gains supportedTimezones table after params row) (other : code ≠ some "23505") :
      Created supportedTimezones table after body (.commitThrows insertion code) (.error (.other code))
  | rejected (handling : Handling) (issues : List Json)
      (refused : ∀ params, createSiteSchema supportedTimezones body ≠ .ok params) (same : after = table) :
      Created supportedTimezones table after body handling (.error (.zodError issues))
  | conflict (insertion : Insertion) (params : CreateSiteInput)
      (accepted : createSiteSchema supportedTimezones body = .ok params)
      (used : params.slug ∈ table.rows.map SiteRow.slug) (same : after = table) :
      Created supportedTimezones table after body (.completes insertion) (.error (slugConflict params.slug))
  | unstorable (insertion : Insertion) (params : CreateSiteInput)
      (accepted : createSiteSchema supportedTimezones body = .ok params) (refused : Unstorable params)
      (same : after = table) :
      Created supportedTimezones table after body (.completes insertion) (.error (.other (some "22021")))
  | threw (code : Option String) (params : CreateSiteInput)
      (accepted : createSiteSchema supportedTimezones body = .ok params) (other : code ≠ some "23505")
      (same : after = table) :
      Created supportedTimezones table after body (.throws code) (.error (.other code))

/-- The transaction of a body that the schema accepts. -/
theorem insertSite_cases {result : Except Exception SiteRow} (posted : Posted supportedTimezones params)
    (clock : FourDigitYear insertion.now) (inserted : insertSite table params insertion = some (after, result)) :
    (∃ row, result = .ok row ∧ Gains supportedTimezones table after params row) ∨
      after = table ∧ (result = .error (slugConflict params.slug) ∧ params.slug ∈ table.rows.map SiteRow.slug ∨
        result = .error (.other (some "22021")) ∧ Unstorable params) := by
  obtain ⟨emissionLimit, isLimit⟩ := Numeric.ofText_of_regex posted.emissionLimit
  simp only [insertSite, isLimit] at inserted
  split at inserted
  · rename_i refused
    cases inserted
    exact Or.inr ⟨rfl, Or.inr ⟨rfl, refused⟩⟩
  · split at inserted
    · rename_i used
      cases inserted
      exact Or.inr ⟨rfl, Or.inl ⟨rfl, used⟩⟩
    · rename_i unused
      split at inserted
      · rename_i fits
        cases inserted
        exact Or.inl ⟨_, rfl, rfl, unused, ⟨⟨rfl, rfl, rfl, rfl⟩, ⟨rfl, rfl, rfl⟩, ⟨_, fits.2.2.1, rfl⟩,
          ⟨_, fits.2.2.2, rfl⟩, isLimit⟩, insertedRow_valid posted fits clock⟩
      · cases inserted

theorem create_created {result : Except Exception SiteRow} (clock : handling.Clocked)
    (created : create supportedTimezones table body handling = some (after, result)) :
    Created supportedTimezones table after body handling result := by
  unfold create transform at created
  cases read : createSiteSchema supportedTimezones body with
  | error messages =>
    rw [read] at created
    cases created
    exact .rejected handling _ (fun params same => by rw [read] at same; cases same) rfl
  | ok params =>
    have posted := posted_of_accepted read
    simp only [read] at created
    cases handling with
    | completes insertion =>
      rcases insertSite_cases posted clock created with ⟨row, rfl, gains⟩ | ⟨same, ⟨rfl, used⟩ | ⟨rfl, refused⟩⟩
      · exact .stored insertion params row read gains
      · exact .conflict insertion params read used same
      · exact .unstorable insertion params read refused same
    | throws code =>
      obtain ⟨other, same⟩ := Option.ite_none_left_eq_some.mp created
      cases same
      exact .threw code params read other rfl
    | commitThrows insertion code =>
      simp only at created
      split at created
      · rename_i grown row inserted
        obtain ⟨other, same⟩ := Option.ite_none_left_eq_some.mp created
        cases same
        rcases insertSite_cases posted clock inserted with ⟨_, same, gains⟩ | ⟨-, ⟨same, -⟩ | ⟨same, -⟩⟩
        · exact .storedThrows insertion code params _ read gains other
        · cases same
        · cases same
      · cases created

/-- One `POST /sites`. -/
structure Posting where
  body : Option Json
  handling : Handling

def Posting.Clocked (posting : Posting) : Prop := posting.handling.Clocked

def step (supportedTimezones : List String) (table : SitesTable) (posting : Posting) : Option SitesTable :=
  (create supportedTimezones table posting.body posting.handling).map Prod.fst

def noSites : SitesTable := ⟨[], List.nodup_nil, List.forall_mem_nil _⟩

theorem gains_listed {row : SiteRow} (listed : Listed supportedTimezones table)
    (gains : Gains supportedTimezones table after params row) : Listed supportedTimezones after := by
  refine ⟨?_, ?_⟩
  · rw [gains.rows]
    exact List.forall_mem_append.mpr ⟨listed.rows, List.forall_mem_singleton.mpr gains.valid⟩
  · rw [gains.rows, List.map_append, List.map_singleton]
    exact List.Nodup.append listed.slugs (List.nodup_singleton _) (List.disjoint_singleton.mpr gains.unused)

/-- Whatever becomes of a creation, the table gains its row or is left alone. -/
theorem Created.rows {result : Except Exception SiteRow}
    (created : Created supportedTimezones table after body handling result) :
    after = table ∨ ∃ params row, Gains supportedTimezones table after params row := by
  cases created with
  | stored insertion params row accepted gains => exact Or.inr ⟨params, row, gains⟩
  | storedThrows insertion code params row accepted gains other => exact Or.inr ⟨params, row, gains⟩
  | rejected handling issues refused same => exact Or.inl same
  | conflict insertion params accepted used same => exact Or.inl same
  | unstorable insertion params accepted refused same => exact Or.inl same
  | threw code params accepted other same => exact Or.inl same

theorem created_listed {result : Except Exception SiteRow} (listed : Listed supportedTimezones table)
    (created : Created supportedTimezones table after body handling result) : Listed supportedTimezones after := by
  rcases created.rows with same | ⟨params, row, gains⟩
  · exact same ▸ listed
  · exact gains_listed listed gains

theorem step_listed {posting : Posting} (listed : Listed supportedTimezones table)
    (clock : posting.Clocked) (stepped : step supportedTimezones table posting = some after) :
    Listed supportedTimezones after := by
  obtain ⟨⟨next, result⟩, created, rfl⟩ := Option.map_eq_some_iff.mp stepped
  exact created_listed listed (create_created clock created)

theorem run_listed {postings : List Posting} (clocked : ∀ posting ∈ postings, posting.Clocked)
    (ran : run (step supportedTimezones) noSites postings = some table) : Listed supportedTimezones table := by
  have start : Listed supportedTimezones noSites := ⟨List.forall_mem_nil _, List.nodup_nil⟩
  exact run_invariant_of_kind Posting.Clocked (Listed supportedTimezones)
    (fun listed clock stepped => step_listed listed clock stepped) clocked start ran

end EmissionsPlatform.SiteListing
