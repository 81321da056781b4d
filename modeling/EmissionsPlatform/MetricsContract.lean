import EmissionsPlatform.SiteContracts
import EmissionsPlatform.SnapshotRead

/-! The answer of `GET /sites/:slug/metrics` against the schema its client reads
it with. Every quantity of the wire format has at most twelve digits before its
point. The limit and each reading come in through that format; the total of a
site has no bound. `response_meets_contract_iff` says when an answer still
matches. -/
namespace EmissionsPlatform.MetricsContract
open Contracts Validation IngestHandler IngestPipeline Conservation MetricsService ReportedTotal Transition
open SiteContracts (createSiteSchema siteMetricsSchema apiFetch enveloped)
open SnapshotRead (closedReadings currentReadings)
set_option autoImplicit false

/-- Sites come in through `CreateSiteSchema`, batches through `IngestBatchSchema`. -/
def Contracted (supportedTimezones : List String) : Action → Prop
  | .createSite slug name timezone emissionLimit =>
    ∃ document params, createSiteSchema supportedTimezones (some document) = .ok params ∧
      params.slug = slug ∧ params.name = name ∧ params.timezone = timezone ∧
        Numeric.ofText params.emissionLimit = some emissionLimit
  | .start => True
  | .handle _ _ message => ∃ document, ingestBatchSchema (some document) = .ok message.toIngestBatchInput

def complianceText : ComplianceStatus → String
  | .compliant => "compliant"
  | .exceeding => "exceeding"

def fields (metrics : SiteMetrics) (asOf : String) : List (String × Json) :=
  [("slug", .string metrics.slug), ("name", .string metrics.name),
    ("emission_limit_kg_co2e", .string metrics.emissionLimitKgCo2e),
    ("total_kg_co2e", .string metrics.totalKgCo2e),
    ("prior_months_total_kg_co2e", .string metrics.priorMonthsTotalKgCo2e),
    ("current_month_to_date_kg_co2e", .string metrics.currentMonthToDateKgCo2e),
    ("compliance_status", .string (complianceText metrics.complianceStatus)), ("as_of", .string asOf)]

/-- The object `getSiteMetrics` returns; `none` where `toISOString` throws. -/
def response (metrics : SiteMetrics) : Option Json :=
  (IsoDatetime.toISOString (metrics.asOf / 1000)).map fun asOf => .object (fields metrics asOf)

/-- The read of the site answers with an object that satisfies
`SiteMetricsSchema`, and `apiFetch` returns it. -/
def MeetsContract (runtime : Runtime) (db : Database) (site : Site) (now : Int) : Prop :=
  ∃ metrics data value, getSiteMetrics runtime db site.slug now = some metrics ∧ response metrics = some data ∧
    siteMetricsSchema (some data) = .ok value ∧
      apiFetch siteMetricsSchema (.response 200 (enveloped data)) = .ok value

/-- What the read counts, in millionths: the readings of the closed months that
have a row in the monthly table, and those from the beginning of the current
month on. -/
def countedKg (runtime : Runtime) (db : Database) (site : Site) (now : Int) : Nat :=
  totalKg (closedReadings runtime site now db) + totalKg (currentReadings runtime site now db)

/-- The clock shows a year of four digits. -/
def FourDigitYear (now : Int) : Prop :=
  0 ≤ (Timezone.utc.yearMonthAt now).year ∧ (Timezone.utc.yearMonthAt now).year ≤ 9999

instance (now : Int) : Decidable (FourDigitYear now) := inferInstanceAs (Decidable (_ ∧ _))

/-- The slug passes `SlugSchema`. -/
def ValidSlug (slug : String) : Prop := ∃ result, slugSchema (some (.string slug)) = .ok result

variable {runtime : Runtime} {db : Database} {pipeline next : Pipeline} {action : Action} {actions : List Action}
variable {supportedTimezones : List String} {site : Site} {metrics : SiteMetrics} {now : Int} {value : Nat}

/-! ## The wire format of quantities -/

/-- A quantity fits the wire format exactly below 10^12. -/
theorem numericKgRegex_formatNumeric :
    numericKgRegex (formatNumeric (DecimalText.numericText value)) = true ↔ value < 10 ^ 18 := by
  have length : (DecimalText.padStart 6 '0' (Nat.toDigits 10 (value % 1000000))).length = 6 :=
    DecimalText.length_padStart (DecimalText.length_toDigits_le (Nat.mod_lt _ (by decide)))
  have short := length_trimZeros (@DecimalText.length_padEnd 6 _ '0' length.le)
  have whole : (Nat.toDigits 10 (value / 1000000)).length ≤ 12 ↔ value / 1000000 < 10 ^ 12 :=
    Nat.length_toDigits_le_iff (by decide) (by decide)
  rw [numericKgRegex, read_formatNumeric (DecimalText.read_numericText value) length.le]
  simp only [short, decide_true, Bool.and_true, decide_eq_true_eq, whole]
  omega

theorem numericKgRegex_text (number : SqlNumeric) :
    numericKgRegex (formatNumeric number.text) = true ↔ number.millionths < 10 ^ 18 := by
  rw [formatNumeric_text, numericKgRegex_formatNumeric]

/-- A column's value fits. -/
theorem numericKgRegex_column (column : Numeric) : numericKgRegex (formatNumeric column.text) = true :=
  numericKgRegex_formatNumeric.mpr column.fits

theorem addDecimalStrings_text (prior current : SqlNumeric) :
    addDecimalStrings prior.text current.text = DecimalText.numericText (prior.millionths + current.millionths) := by
  rw [addDecimalStrings, parseToScaledBigInt_eq (millionths_text prior),
    parseToScaledBigInt_eq (millionths_text current), formatScaledBigInt]

/-! ## Matching the schema -/

theorem numericKg_accepts {text : String} :
    (∃ result, numericKgSchema (some (.string text)) = .ok result) ↔ numericKgRegex text = true := by
  rw [numericKgSchema, string_accepts, List.forall_mem_singleton]

/-- What the schema asks of a response. -/
theorem siteMetrics_accepts {asOf : String} :
    (∃ result, siteMetricsSchema (some (.object (fields metrics asOf))) = .ok result) ↔
      ValidSlug metrics.slug ∧ numericKgRegex metrics.emissionLimitKgCo2e = true ∧
        numericKgRegex metrics.totalKgCo2e = true ∧ numericKgRegex metrics.priorMonthsTotalKgCo2e = true ∧
          numericKgRegex metrics.currentMonthToDateKgCo2e = true ∧ IsoDatetime.datetime asOf = true := by
  have named (text : String) : ∃ result, string [] (some (.string text)) = .ok result :=
    string_accepts.mpr nofun
  have compliance (status : ComplianceStatus) :
      ∃ result, SiteContracts.complianceStatusSchema (some (.string (complianceText status))) = .ok result :=
    nativeEnum_accepts.mpr (by cases status <;> decide)
  have dated : (∃ result, SiteContracts.datetimeSchema (some (.string asOf)) = .ok result) ↔
      IsoDatetime.datetime asOf = true := by
    rw [SiteContracts.datetimeSchema, string_accepts, List.forall_mem_singleton]
  -- The lookups of the eight fields are computed.
  change (∃ result, Except.map _ (both (slugSchema (some (.string metrics.slug)))
    (both (string [] (some (.string metrics.name)))
      (both (numericKgSchema (some (.string metrics.emissionLimitKgCo2e)))
        (both (numericKgSchema (some (.string metrics.totalKgCo2e)))
          (both (numericKgSchema (some (.string metrics.priorMonthsTotalKgCo2e)))
            (both (numericKgSchema (some (.string metrics.currentMonthToDateKgCo2e)))
              (both (SiteContracts.complianceStatusSchema
                  (some (.string (complianceText metrics.complianceStatus))))
                (SiteContracts.datetimeSchema (some (.string asOf)))))))))) = .ok result) ↔ _
  rw [map_accepts]
  simp only [both_accepts, numericKg_accepts, named, compliance, dated, true_and, ValidSlug]

/-! ## Sites of the run -/

theorem validSlug_of_created {document : Json} {params : SiteContracts.CreateSiteInput}
    (accepted : createSiteSchema supportedTimezones (some document) = .ok params) : ValidSlug params.slug :=
  string_accepts.mpr (SiteContracts.createSite_slug accepted)

theorem step_slugs (contracted : Contracted supportedTimezones action) (sound : IngestPipeline.Sound pipeline)
    (slugs : ∀ site ∈ pipeline.db.sites.rows, ValidSlug site.slug)
    (stepped : step runtime pipeline action = some next) : ∀ site ∈ next.db.sites.rows, ValidSlug site.slug := by
  cases action with
  | createSite slug name timezone emissionLimit =>
    cases stepped
    obtain ⟨document, params, accepted, rfl, -⟩ := contracted
    intro site member
    rcases createSite_sites params.slug name timezone emissionLimit pipeline.db with same | added
    · exact slugs site (same ▸ member)
    · rcases List.mem_append.mp (added ▸ member) with old | new
      · exact slugs site old
      · rw [List.mem_singleton.mp new]
        exact validSlug_of_created accepted
  | start =>
    cases stepped
    exact slugs
  | handle index call message =>
    obtain ⟨process, held, rfl⟩ := step_handle.mp stepped
    have unchanged := (effect_grows (handle_effect runtime call message sound held).1).1
    intro site member
    exact slugs site (unchanged ▸ member)

theorem run_slugs (contracted : ∀ action ∈ actions, Contracted supportedTimezones action)
    (ran : run (step runtime) initial actions = some pipeline) :
    ∀ site ∈ pipeline.db.sites.rows, ValidSlug site.slug := by
  refine (run_invariant_of_kind (Contracted supportedTimezones)
    (fun pipeline => IngestPipeline.Sound pipeline ∧ ∀ site ∈ pipeline.db.sites.rows, ValidSlug site.slug) ?_ contracted
    ⟨initial_sound, nofun⟩ ran).2
  rintro before after action ⟨sound, slugs⟩ kind stepped
  exact ⟨(step_effect sound stepped).2, step_slugs kind sound slugs stepped⟩

/-! ## The answer -/

/-- The clock of the answer, read from its text. -/
theorem asOf_year (now : Int) :
    (Calendar.civil (toDate now / 1000 / 86400000)).year = (Timezone.utc.yearMonthAt now).year := by
  have day : toDate now / 1000 / 86400000 = (now + Timezone.utc.offsetAt now) / microsPerDay := by
    simp only [toDate, Timezone.utc, microsPerDay]
    omega
  rw [day, Timezone.yearMonthAt]

/-- The read counts nothing else. -/
theorem counted_eq (ran : run (step runtime) initial actions = some pipeline) (site : Site) (now : Int) :
    (priorTotal runtime pipeline.db site (runtime.siteLocalYearMonth now site.timezone)).millionths +
        (currentMonthTotal pipeline.db site.id (currentMonthStart runtime site.timezone now)).millionths =
      countedKg runtime pipeline.db site now := by
  have wellformed := (run_sound ran).wellformed
  rw [priorTotal_eq wellformed (run_allStale ran), currentMonthTotal_eq wellformed]
  rfl

/-- An answer matches exactly when its total and its clock fit. -/
theorem respond_accepts_iff (slug : ValidSlug site.slug) (prior current : SqlNumeric) (now : Int) :
    (∃ data value, response (respond site prior.text current.text now) = some data ∧
        siteMetricsSchema (some data) = .ok value) ↔
      prior.millionths + current.millionths < 10 ^ 18 ∧ FourDigitYear now := by
  have total : numericKgRegex (respond site prior.text current.text now).totalKgCo2e = true ↔
      prior.millionths + current.millionths < 10 ^ 18 := by
    rw [respond, addDecimalStrings_text, numericKgRegex_formatNumeric]
  rw [FourDigitYear, ← asOf_year, ← IsoDatetime.datetime_toISOString_iff]
  constructor
  · rintro ⟨data, value, answered, accepted⟩
    obtain ⟨asOf, written, rfl⟩ := Option.map_eq_some_iff.mp answered
    obtain ⟨-, -, fits, -, -, dated⟩ := siteMetrics_accepts.mp ⟨value, accepted⟩
    exact ⟨total.mp fits, asOf, written, dated⟩
  · rintro ⟨small, asOf, written, dated⟩
    have priorFits := (numericKgRegex_text prior).mpr (by omega)
    have currentFits := (numericKgRegex_text current).mpr (by omega)
    obtain ⟨value, accepted⟩ := (@siteMetrics_accepts (respond site prior.text current.text now) asOf).mpr
      ⟨slug, numericKgRegex_column site.emissionLimit, total.mpr small, priorFits, currentFits, dated⟩
    exact ⟨_, value, Option.map_eq_some_iff.mpr ⟨asOf, written, rfl⟩, accepted⟩

/-- **The answer of the read satisfies the shared contract exactly when what it
counts is below 10^12 kg and the clock shows a year of four digits.** -/
theorem response_meets_contract_iff (contracted : ∀ action ∈ actions, Contracted supportedTimezones action)
    (ran : run (step runtime) initial actions = some pipeline) (member : site ∈ pipeline.db.sites.rows) (now : Int) :
    MeetsContract runtime pipeline.db site now ↔
      countedKg runtime pipeline.db site now < 10 ^ 18 ∧ FourDigitYear now := by
  have matches_iff := respond_accepts_iff (run_slugs contracted ran site member)
    (priorTotal runtime pipeline.db site (runtime.siteLocalYearMonth now site.timezone))
    (currentMonthTotal pipeline.db site.id (currentMonthStart runtime site.timezone now)) now
  rw [counted_eq ran] at matches_iff
  rw [← matches_iff, MeetsContract, getSiteMetrics, selectSite_eq member]
  constructor
  · rintro ⟨metrics, data, value, answered, sent, accepted, -⟩
    cases answered
    exact ⟨data, value, sent, accepted⟩
  · rintro ⟨data, value, sent, accepted⟩
    exact ⟨_, data, value, rfl, sent, accepted, SiteContracts.apiFetch_enveloped.mpr accepted⟩

private def siteDocument : Json :=
  .object [("slug", .string "north-plant"), ("name", .string "North plant"), ("country", .string "CI"),
    ("latitude", .number (.integer 5)), ("longitude", .number (.integer (-4))), ("timezone", .string "Africa/Abidjan"),
    ("emission_limit", .string "1000")]

private def northLimit : Numeric := ⟨1000000000, by decide⟩

private def batchDocument (batchId valueKgCo2e : String) : Json :=
  .object [("batch_id", .string batchId), ("site_slug", .string "north-plant"),
    ("measurements", .array [.object [("emission_point", .string "stack-1"),
      ("recorded_at_ms", .number (.integer 1704067200000)), ("value_kg_co2e", .string valueKgCo2e)]])]

private def batchMessage (batchId valueKgCo2e : String) : KafkaIngestMessage :=
  ⟨⟨batchId, "north-plant", [⟨"stack-1", 1704067200000, valueKgCo2e⟩]⟩, 1704067201000⟩

/-- A site, and two batches with one reading of the same value. -/
private def twoBatches (valueKgCo2e : String) : List Action :=
  [.createSite "north-plant" "North plant" "Africa/Abidjan" northLimit, .start,
    .handle 0 (.healthy 1704067202000 1704067202000)
      (batchMessage "3f2a6c1e-8d4b-4c7a-9e51-0b6d2f7a8c90" valueKgCo2e),
    .handle 0 (.healthy 1704067203000 1704067203000)
      (batchMessage "7b1d0e42-5c3f-4a86-8f27-9d4c6e1a2b35" valueKgCo2e)]

private theorem twoBatches_contracted {valueKgCo2e : String}
    (first : ingestBatchSchema (some (batchDocument "3f2a6c1e-8d4b-4c7a-9e51-0b6d2f7a8c90" valueKgCo2e)) =
      .ok (batchMessage "3f2a6c1e-8d4b-4c7a-9e51-0b6d2f7a8c90" valueKgCo2e).toIngestBatchInput)
    (second : ingestBatchSchema (some (batchDocument "7b1d0e42-5c3f-4a86-8f27-9d4c6e1a2b35" valueKgCo2e)) =
      .ok (batchMessage "7b1d0e42-5c3f-4a86-8f27-9d4c6e1a2b35" valueKgCo2e).toIngestBatchInput) :
    ∀ action ∈ twoBatches valueKgCo2e, Contracted ["Africa/Abidjan"] action := by
  have created :
      ∃ params, createSiteSchema ["Africa/Abidjan"] (some siteDocument) = .ok params ∧ params.slug = "north-plant" ∧
        params.name = "North plant" ∧ params.timezone = "Africa/Abidjan" ∧
          Numeric.ofText params.emissionLimit = some northLimit :=
    ⟨⟨"north-plant", "North plant", "CI", none, none, none, .integer 5, .integer (-4), "Africa/Abidjan", "1000"⟩,
      by decide +kernel⟩
  simp only [twoBatches, List.forall_mem_cons]
  exact ⟨⟨siteDocument, created⟩, trivial, ⟨_, first⟩, ⟨_, second⟩, nofun⟩

private def northSite : Site := ⟨1, "north-plant", "North plant", "Africa/Abidjan", northLimit⟩

private theorem smallBatches_ran : (run (step .exactUtc) initial (twoBatches "1.5")).isSome := by decide +kernel

/-- Two readings of 1.5 kg are reported within the contract. -/
theorem small_total_meets_contract :
    MeetsContract .exactUtc ((run (step .exactUtc) initial (twoBatches "1.5")).get smallBatches_ran).db northSite
      1704067205000000 := by
  refine (response_meets_contract_iff (twoBatches_contracted (by decide +kernel) (by decide +kernel))
    (Option.some_get smallBatches_ran).symm (by decide +kernel) 1704067205000000).mpr ⟨?_, by decide⟩
  decide +kernel

private theorem largeBatches_ran : (run (step .exactUtc) initial (twoBatches "600000000000")).isSome := by
  decide +kernel

/-- Two readings of 600000000000 kg, each within the contract, are not. -/
theorem large_total_breaks_contract :
    ¬ ∀ (supportedTimezones : List String) (runtime : Runtime) (actions : List Action) (pipeline : Pipeline)
      (site : Site) (now : Int), (∀ action ∈ actions, Contracted supportedTimezones action) →
        run (step runtime) initial actions = some pipeline → site ∈ pipeline.db.sites.rows →
          MeetsContract runtime pipeline.db site now := by
  intro always
  obtain ⟨metrics, data, value, answered, sent, accepted, -⟩ :=
    always ["Africa/Abidjan"] .exactUtc (twoBatches "600000000000") _
    northSite 1704067205000000 (twoBatches_contracted (by decide +kernel) (by decide +kernel))
    (Option.some_get largeBatches_ran).symm (by decide +kernel)
  obtain ⟨asOf, written, rfl⟩ := Option.map_eq_some_iff.mp sent
  obtain ⟨-, -, total, -⟩ := siteMetrics_accepts.mp ⟨value, accepted⟩
  have tooLong : (getSiteMetrics .exactUtc
      ((run (step .exactUtc) initial (twoBatches "600000000000")).get largeBatches_ran).db "north-plant"
        1704067205000000).all (fun metrics => numericKgRegex metrics.totalKgCo2e) = false := by decide +kernel
  rw [show getSiteMetrics _ _ "north-plant" _ = some metrics from answered, Option.all_some, total] at tooLong
  cases tooLong

end EmissionsPlatform.MetricsContract
