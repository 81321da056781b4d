import EmissionsPlatform.Database
import EmissionsPlatform.Foundation.Fallible
import Mathlib.Data.List.DropRight

/-! `GET /sites/:slug/metrics` (`MetricsService.getSiteMetrics`): the site, the
boundary of its current month, the total of the closed months and the sum of
the current one, and the decimal strings made of them. Each statement is a
function of the database it sees, so that they can be read from one state or
from several. -/
namespace EmissionsPlatform.MetricsService
open UniqueIndex
set_option autoImplicit false

/-! ## Decimal strings -/

/-- The first part of `val.split(".")`. -/
def intPart (val : String) : List Char := val.toList.takeWhile (· ≠ '.')

/-- The second part of `val.split(".")`, or nothing. -/
def fracPart (val : String) : List Char :=
  ((val.toList.dropWhile (· ≠ '.')).drop 1).takeWhile (· ≠ '.')

/-- `fracPart.padEnd(6, "0").slice(0, 6)`. -/
def fracPadded (val : String) : List Char := (DecimalText.padEnd 6 '0' (fracPart val)).take 6

def parseToScaledBigInt (val : String) : Nat :=
  DecimalText.digitsValue (intPart val) * 1000000 + DecimalText.digitsValue (fracPadded val)

def formatScaledBigInt (scaled : Nat) : String := DecimalText.numericText scaled

def addDecimalStrings (a b : String) : String :=
  formatScaledBigInt (parseToScaledBigInt a + parseToScaledBigInt b)

def compareNumericStrings (a b : String) : Int :=
  if parseToScaledBigInt a < parseToScaledBigInt b then -1
  else if parseToScaledBigInt a > parseToScaledBigInt b then 1
  else 0

/-- `fracNorm.replace(/0+$/, "") || "0"`. -/
def trimZeros (fraction : List Char) : List Char :=
  match fraction.rdropWhile (· == '0') with
  | [] => ['0']
  | trimmed => trimmed

def formatNumeric (val : String) : String :=
  String.ofList (intPart val ++ '.' :: trimZeros (fracPadded val))

/-! ## Numbers in queries -/

/-- A `numeric` of a query: its value in millionths, and whether its text shows
six fractional digits or none. -/
structure SqlNumeric where
  millionths : Nat
  fractional : Bool
  whole : fractional = false → millionths % 1000000 = 0
  deriving DecidableEq

namespace SqlNumeric

/-- The literal `0`. -/
def zero : SqlNumeric := ⟨0, false, fun _ => rfl⟩

def ofColumn (value : Numeric) : SqlNumeric := ⟨value.millionths, true, nofun⟩

/-- A sum has the scale of the finer summand. -/
def add (a b : SqlNumeric) : SqlNumeric :=
  ⟨a.millionths + b.millionths, a.fractional || b.fractional, fun none => by
    have := a.whole (Bool.or_eq_false_iff.mp none).1
    have := b.whole (Bool.or_eq_false_iff.mp none).2
    omega⟩

/-- `SUM`, which is null over no rows. -/
def sum : List SqlNumeric → Option SqlNumeric
  | [] => none
  | first :: rest => some (rest.foldl add first)

/-- `COALESCE(SUM(…), 0)`. -/
def total (values : List SqlNumeric) : SqlNumeric := (sum values).getD zero

/-- `::text`. -/
def text (value : SqlNumeric) : String :=
  if value.fractional then DecimalText.numericText value.millionths else toString (value.millionths / 1000000)

end SqlNumeric

/-! ## The statements -/

/-- `FROM measurements m JOIN site_emission_points sep ON sep.id =
m.emission_point_id WHERE sep.site_id = …`. -/
def joinedMeasurements (db : Database) (siteId : Nat) : List Measurement :=
  db.measurements.rows.flatMap fun m =>
    (db.siteEmissionPoints.rows.filter fun sep => sep.id = m.emissionPointId ∧ sep.siteId = siteId).map
      fun _ => m

def selectSite (db : Database) (slug : String) : Option Site :=
  db.sites.rows.find? fun site => site.slug = slug

/-- An instant as a `Date`, in whole milliseconds. -/
def toDate (instant : Int) : Int := instant / 1000 * 1000

/-- `date_trunc('month', now() AT TIME ZONE tz) AT TIME ZONE tz`. -/
def currentMonthStart (runtime : Runtime) (timezone : String) (now : Int) : Int :=
  toDate ((runtime.timezones timezone).monthBegins (runtime.siteLocalYearMonth now timezone))

/-- `meas_sum` of the stale rows' recomputation, for one month. -/
def measSum (runtime : Runtime) (db : Database) (site : Site) (month : YearMonth) : Option SqlNumeric :=
  SqlNumeric.sum (((joinedMeasurements db site.id).filter fun m =>
    runtime.siteLocalYearMonth m.recordedAt site.timezone = month).map fun m => .ofColumn m.value)

/-- The rows of `site_monthly_emissions` for the months before the current one. -/
def monthlyRows (db : Database) (siteId : Nat) (current : YearMonth) :
    List ((Nat × YearMonth) × MonthlyEmissions) :=
  db.siteMonthlyEmissions.entries.filter fun entry => entry.1.1 = siteId ∧ entry.1.2 < current

/-- `CASE WHEN stale THEN COALESCE(meas_sum, 0) ELSE cached_total END`. -/
def effectiveTotal (runtime : Runtime) (db : Database) (site : Site)
    (entry : (Nat × YearMonth) × MonthlyEmissions) : SqlNumeric :=
  if entry.2.stale then (measSum runtime db site entry.1.2).getD .zero else .ofColumn entry.2.totalKg

/-- The total of the closed months. -/
def priorTotal (runtime : Runtime) (db : Database) (site : Site) (current : YearMonth) : SqlNumeric :=
  .total ((monthlyRows db site.id current).map (effectiveTotal runtime db site))

/-- The readings from the beginning of the current month on. -/
def currentMonthTotal (db : Database) (siteId : Nat) (start : Int) : SqlNumeric :=
  .total (((joinedMeasurements db siteId).filter fun m => start ≤ m.recordedAt).map fun m => .ofColumn m.value)

/-! ## The response -/

inductive ComplianceStatus
  | compliant
  | exceeding
  deriving DecidableEq

structure SiteMetrics where
  slug : String
  name : String
  emissionLimitKgCo2e : String
  totalKgCo2e : String
  priorMonthsTotalKgCo2e : String
  currentMonthToDateKgCo2e : String
  complianceStatus : ComplianceStatus
  asOf : Int
  deriving DecidableEq

/-- What is made of the statements' results. -/
def respond (site : Site) (priorTotal currentMonthTotal : String) (asOf : Int) : SiteMetrics :=
  let totalKg := addDecimalStrings priorTotal currentMonthTotal
  { slug := site.slug
    name := site.name
    emissionLimitKgCo2e := formatNumeric site.emissionLimit.text
    totalKgCo2e := formatNumeric totalKg
    priorMonthsTotalKgCo2e := formatNumeric priorTotal
    currentMonthToDateKgCo2e := formatNumeric currentMonthTotal
    complianceStatus :=
      if compareNumericStrings totalKg site.emissionLimit.text ≤ 0 then .compliant else .exceeding
    asOf := toDate asOf }

/-- The whole call, on one state of the database; `none` is 404. -/
def getSiteMetrics (runtime : Runtime) (db : Database) (slug : String) (now : Int) : Option SiteMetrics :=
  (selectSite db slug).map fun site =>
    respond site (priorTotal runtime db site (runtime.siteLocalYearMonth now site.timezone)).text
      (currentMonthTotal db site.id (currentMonthStart runtime site.timezone now)).text now

/-! ## What the strings denote -/

variable {text : String} {value : Nat}

private theorem digits_not_point {digits : List Char} (digital : ∀ digit ∈ digits, digit.isDigit = true) :
    ∀ digit ∈ digits, (digit ≠ '.' : Bool) = true := by
  intro digit member
  rw [decide_eq_true_eq]
  rintro rfl
  exact DecimalText.point_not_digit digital member

/-- The parts of a decimal text. -/
theorem parts_of_read {whole fraction : List Char} (accepted : DecimalText.read text.toList = some (whole, fraction)) :
    intPart text = whole ∧ fracPart text = fraction := by
  obtain ⟨_, wholeDigits, fractionDigits, shape⟩ := DecimalText.read_eq_some_iff.mp accepted
  have front := digits_not_point wholeDigits
  have back := digits_not_point fractionDigits
  rw [intPart, fracPart, shape]
  split
  · rename_i empty
    rw [List.append_nil, List.takeWhile_eq_self_iff.mpr front, List.dropWhile_eq_nil_iff.mpr front, empty]
    exact ⟨rfl, rfl⟩
  · rw [List.takeWhile_append_of_pos front, List.dropWhile_append_of_pos front]
    simpa using fun digit member => of_decide_eq_true (back digit member)

/-- Reading a decimal text gives its value. -/
theorem parseToScaledBigInt_eq (reads : DecimalText.millionths text = some value) :
    parseToScaledBigInt text = value := by
  unfold DecimalText.millionths at reads
  split at reads
  · rename_i whole fraction accepted
    obtain ⟨isWhole, isFraction⟩ := parts_of_read accepted
    split at reads
    · rename_i short
      rw [parseToScaledBigInt, fracPadded, isWhole, isFraction, List.take_of_length_le
        (DecimalText.length_padEnd short).le]
      exact Option.some.inj reads
    · cases reads
  · cases reads

/-- Dropping trailing zeros and filling them up again. -/
theorem padEnd_trimZeros {fraction : List Char} (length : fraction.length = 6) :
    DecimalText.padEnd 6 '0' (trimZeros fraction) = fraction := by
  have zeros : ∀ digit ∈ fraction.rtakeWhile (· == '0'), digit = '0' :=
    fun digit member => by simpa using List.mem_rtakeWhile_imp member
  have parts := @List.rdropWhile_append_rtakeWhile _ (· == '0') fraction
  have filled := List.eq_replicate_iff.mpr ⟨rfl, zeros⟩
  have lengths := congrArg List.length parts
  rw [List.length_append, length] at lengths
  unfold trimZeros
  split
  · rename_i nothing
    rw [nothing, List.nil_append] at parts
    rw [nothing, List.length_nil, Nat.zero_add] at lengths
    rw [← parts, filled, lengths]
    rfl
  · rw [DecimalText.padEnd]
    conv_rhs => rw [← parts, filled]
    congr 2
    omega

theorem trimZeros_ne_nil (fraction : List Char) : trimZeros fraction ≠ [] := by
  unfold trimZeros
  split
  · exact List.cons_ne_nil _ _
  · assumption

theorem mem_trimZeros {fraction : List Char} {digit : Char} (member : digit ∈ trimZeros fraction) :
    digit ∈ fraction ∨ digit = '0' := by
  unfold trimZeros at member
  split at member
  · exact Or.inr (List.mem_singleton.mp member)
  · exact Or.inl ((List.rdropWhile_prefix _ fraction).subset member)

theorem length_trimZeros {fraction : List Char} (length : fraction.length = 6) :
    (trimZeros fraction).length ≤ 6 := by
  unfold trimZeros
  split
  · decide
  · exact length ▸ (List.rdropWhile_prefix _ fraction).length_le

theorem formatNumeric_of_read {whole fraction : List Char}
    (accepted : DecimalText.read text.toList = some (whole, fraction)) (short : fraction.length ≤ 6) :
    formatNumeric text = String.ofList (whole ++ '.' :: trimZeros (DecimalText.padEnd 6 '0' fraction)) := by
  obtain ⟨isWhole, isFraction⟩ := parts_of_read accepted
  rw [formatNumeric, fracPadded, isWhole, isFraction,
    List.take_of_length_le (DecimalText.length_padEnd short).le]

/-- The parts of a normalized text. -/
theorem read_formatNumeric {whole fraction : List Char}
    (accepted : DecimalText.read text.toList = some (whole, fraction)) (short : fraction.length ≤ 6) :
    DecimalText.read (formatNumeric text).toList =
      some (whole, trimZeros (DecimalText.padEnd 6 '0' fraction)) := by
  obtain ⟨nonempty, wholeDigits, fractionDigits, _⟩ := DecimalText.read_eq_some_iff.mp accepted
  have digital := @DecimalText.padEnd_digits 6 fraction fractionDigits
  rw [DecimalText.read_eq_some_iff, formatNumeric_of_read accepted short, String.toList_ofList,
    if_neg (trimZeros_ne_nil _)]
  refine ⟨nonempty, wholeDigits, fun digit member => ?_, rfl⟩
  rcases mem_trimZeros member with old | rfl
  · exact digital digit old
  · decide

/-- **Normalizing a decimal text keeps its value.** -/
theorem millionths_formatNumeric (reads : DecimalText.millionths text = some value) :
    DecimalText.millionths (formatNumeric text) = some value := by
  unfold DecimalText.millionths at reads
  split at reads
  · rename_i whole fraction accepted
    split at reads
    · rename_i short
      have length := @DecimalText.length_padEnd 6 fraction '0' short
      rw [DecimalText.millionths, read_formatNumeric accepted short]
      simp only [length_trimZeros length, ↓reduceIte, DecimalText.partsValue, padEnd_trimZeros length]
      exact reads
    · cases reads
  · cases reads

/-- The text of a query's number reads as the number. -/
theorem millionths_text (number : SqlNumeric) : DecimalText.millionths number.text = some number.millionths := by
  unfold SqlNumeric.text
  split
  · exact DecimalText.millionths_numericText _
  · rename_i integral
    have whole := number.whole (by simpa using integral)
    rw [DecimalText.millionths_toString, Nat.div_mul_cancel (Nat.dvd_of_mod_eq_zero whole)]

/-- Normalized, a query's number shows no scale. -/
theorem formatNumeric_text (number : SqlNumeric) :
    formatNumeric number.text = formatNumeric (DecimalText.numericText number.millionths) := by
  unfold SqlNumeric.text
  split
  · rfl
  · rename_i integral
    have whole := number.whole (by simpa using integral)
    rw [formatNumeric_of_read (DecimalText.read_toString _) (by decide),
      formatNumeric_of_read (DecimalText.read_numericText _)
        (DecimalText.length_padStart (DecimalText.length_toDigits_le (Nat.mod_lt _ (by decide)))).le, whole]
    rfl

/-- Two numbers print the same exactly when they are equal. -/
theorem formatNumeric_text_eq_iff (a b : SqlNumeric) :
    formatNumeric a.text = formatNumeric b.text ↔ a.millionths = b.millionths := by
  constructor
  · intro same
    have reads := millionths_formatNumeric (millionths_text a)
    rw [same, millionths_formatNumeric (millionths_text b)] at reads
    exact (Option.some.inj reads).symm
  · intro same
    rw [formatNumeric_text, formatNumeric_text, same]

/-- The printed total is the sum of the two parts. -/
theorem millionths_total (site : Site) (prior current : SqlNumeric) (asOf : Int) :
    DecimalText.millionths (respond site prior.text current.text asOf).totalKgCo2e =
      some (prior.millionths + current.millionths) := by
  apply millionths_formatNumeric
  rw [addDecimalStrings, parseToScaledBigInt_eq (millionths_text prior),
    parseToScaledBigInt_eq (millionths_text current)]
  exact DecimalText.millionths_numericText _

/-! ## What the sums are -/

theorem SqlNumeric.millionths_total (values : List SqlNumeric) :
    (SqlNumeric.total values).millionths = (values.map SqlNumeric.millionths).sum := by
  have folded : ∀ (rest : List SqlNumeric) (first : SqlNumeric), (rest.foldl SqlNumeric.add first).millionths =
      first.millionths + (rest.map SqlNumeric.millionths).sum := by
    intro rest
    induction rest with
    | nil => simp
    | cons next rest ih =>
      intro first
      rw [List.foldl_cons, ih, List.map_cons, List.sum_cons, SqlNumeric.add, Nat.add_assoc]
  cases values with
  | nil => rfl
  | cons first rest => exact folded rest first

end EmissionsPlatform.MetricsService
