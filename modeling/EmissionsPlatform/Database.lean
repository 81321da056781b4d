import EmissionsPlatform.Contracts
import EmissionsPlatform.Foundation.Calendar
import EmissionsPlatform.Foundation.LeaseQueue
import EmissionsPlatform.Foundation.NumberArithmetic
import EmissionsPlatform.Foundation.UniqueIndex

/-! The tables of `packages/db`, with the columns the services read or write.
Primary keys and unique indexes are part of the tables' types, so a database
that violates one cannot be written down. A generated id is the next value of
its sequence; the gaps a rollback leaves in a sequence are not modelled, since
nothing observes an id beyond its identity. -/
namespace EmissionsPlatform
open Contracts LeaseQueue UniqueIndex
set_option autoImplicit false

/-- A value of a `numeric(18, 6)` column, in millionths. -/
structure Numeric where
  millionths : Nat
  fits : millionths < 10 ^ 18
  deriving DecidableEq

namespace Numeric

/-- The column's reading of a decimal text; `none` is a numeric overflow. -/
def ofText (text : String) : Option Numeric :=
  (DecimalText.millionths text).bind fun millionths =>
    if fits : millionths < 10 ^ 18 then some ⟨millionths, fits⟩ else none

/-- The text the driver returns. -/
def text (numeric : Numeric) : String := DecimalText.numericText numeric.millionths

def zero : Numeric := ⟨0, by decide⟩

theorem ofText_eq_some_iff {text : String} {numeric : Numeric} :
    ofText text = some numeric ↔ DecimalText.millionths text = some numeric.millionths := by
  unfold ofText
  cases DecimalText.millionths text with
  | none => simp
  | some value =>
    obtain ⟨millionths, fits⟩ := numeric
    simp only [Option.bind_some, Option.some.injEq]
    constructor
    · intro accepted
      split at accepted
      · cases accepted
        rfl
      · cases accepted
    · rintro rfl
      rw [dif_pos fits]

/-- A text is refused when it is no decimal or too large. -/
theorem ofText_isSome_iff {text : String} :
    (∃ numeric, ofText text = some numeric) ↔ ∃ value < 10 ^ 18, DecimalText.millionths text = some value := by
  simp only [ofText_eq_some_iff]
  constructor
  · rintro ⟨⟨value, fits⟩, reads⟩
    exact ⟨value, fits, reads⟩
  · rintro ⟨value, fits, reads⟩
    exact ⟨⟨value, fits⟩, reads⟩

/-- What the contract accepts as a quantity, the column takes. -/
theorem ofText_of_regex {text : String} (accepted : numericKgRegex text = true) :
    ∃ numeric, ofText text = some numeric := by
  rw [ofText_isSome_iff]
  unfold numericKgRegex at accepted
  split at accepted
  · rename_i whole fraction reads
    obtain ⟨_, wholeDigits, fractionDigits, _⟩ := DecimalText.read_eq_some_iff.mp reads
    simp only [Bool.and_eq_true, decide_eq_true_eq] at accepted
    have small := DecimalText.partsValue_lt wholeDigits fractionDigits accepted.1 accepted.2
    refine ⟨DecimalText.partsValue whole fraction, by omega, ?_⟩
    simp only [DecimalText.millionths, reads, accepted.2, ↓reduceIte]
  · cases accepted

@[ext] theorem ext {a b : Numeric} (same : a.millionths = b.millionths) : a = b := by
  cases a
  cases b
  cases same
  rfl

end Numeric

/-- A value of a `uuid` column, by its lower-case text. -/
structure Uuid where
  text : String
  deriving DecidableEq

/-- The column's reading of a uuid text: the case of the digits is lost. -/
def Uuid.ofText (text : String) : Option Uuid :=
  if uuidRegex text then some ⟨String.ofList (text.toList.map Char.toLower)⟩ else none

structure Site where
  id : Nat
  slug : String
  name : String
  timezone : String
  emissionLimit : Numeric
  deriving DecidableEq

structure EmissionPoint where
  id : Nat
  siteId : Nat
  code : String
  deriving DecidableEq

/-- `site_emission_points_site_code_unique`. -/
def EmissionPoint.key (point : EmissionPoint) : Nat × String := (point.siteId, point.code)

structure Measurement where
  siteId : Nat
  emissionPointId : Nat
  batchId : Uuid
  /-- In microseconds. -/
  recordedAt : Int
  value : Numeric
  deriving DecidableEq

/-- `measurements_batch_point_time_unique`. -/
def Measurement.key (measurement : Measurement) : Uuid × Nat × Int :=
  (measurement.batchId, measurement.emissionPointId, measurement.recordedAt)

/-- A row of `site_monthly_emissions`, below its primary key. -/
structure MonthlyEmissions where
  totalKg : Numeric
  stale : Bool
  deriving DecidableEq

/-- A row of `metrics_outbox`, below its delivery columns. -/
structure MetricsIncrement where
  siteId : Nat
  month : YearMonth
  deltaKg : Numeric
  deriving DecidableEq

/-- A row of `outbox`, below its delivery columns. -/
structure OutboxEvent where
  eventType : String
  aggregateId : String
  payload : AlertEnvelopeBusinessPayload
  deriving DecidableEq

/-- A field of a system alert's payload. -/
inductive AlertField
  | text (value : String)
  | number (value : Int)
  | texts (values : List String)
  deriving DecidableEq

/-- A row of `system_alerts`, below its delivery columns. -/
structure SystemAlert where
  alertType : String
  severity : String
  payload : List (String × AlertField)
  deriving DecidableEq

structure Database where
  sites : Table Site.slug
  nextSiteId : Nat
  siteEmissionPoints : Table EmissionPoint.key
  nextEmissionPointId : Nat
  measurements : Table Measurement.key
  /-- By its primary key, `(site_id, year, month)`. -/
  siteMonthlyEmissions : InsertionMap (Nat × YearMonth) MonthlyEmissions
  metricsOutbox : Queue MetricsIncrement SystemAlert
  outbox : Queue OutboxEvent SystemAlert
  systemAlerts : Queue SystemAlert Empty
  deriving DecidableEq

/-- The database the migrations leave. -/
def Database.migrated : Database :=
  ⟨.empty, 1, .empty, 1, .empty, .empty, LeaseQueue.empty, LeaseQueue.empty, LeaseQueue.empty⟩

/-- What the services take from their surroundings: their arithmetic, the
timezone database, and which instants (in milliseconds) the driver and the
database pass on as a `timestamptz`. -/
structure Runtime where
  arithmetic : NumberArithmetic
  timezones : String → Timezone
  acceptsTimestamp : Int → Bool

/-- Exact arithmetic, every site on UTC, every timestamp accepted. -/
def Runtime.exactUtc : Runtime := ⟨.exact, fun _ => .utc, fun _ => true⟩

/-- The instant of a count of milliseconds. -/
def instantOfMs (milliseconds : Int) : Int := milliseconds * 1000

/-- `siteLocalYearMonth`. -/
def Runtime.siteLocalYearMonth (runtime : Runtime) (instant : Int) (timezone : String) : YearMonth :=
  (runtime.timezones timezone).yearMonthAt instant

end EmissionsPlatform
