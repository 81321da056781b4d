import EmissionsPlatform.EmissionPoints
import EmissionsPlatform.Foundation.Fallible

/-! The consumer's handling of one ingest message (`IngestHandlerService`): find
the site, resolve the emission points, and write the readings, the stale flags,
the metrics increments and the outbox row in one transaction.

Any statement may throw, and so may any value its columns refuse. What was
written before the transaction stays, and a transaction that throws leaves the
database it found: its body is a computation whose result is lost when it
throws. -/
namespace EmissionsPlatform.IngestHandler
open Contracts UniqueIndex LeaseQueue EmissionPoints
set_option autoImplicit false

/-- What a consumer process remembers. -/
structure Process where
  /-- Site slug to id and timezone. -/
  siteIdCache : InsertionMap String (Nat × String)
  emissionPointCache : InsertionMap String Nat
  deriving DecidableEq

/-- A process that has just started. -/
def Process.started : Process := ⟨.empty, .empty⟩

/-- The statements of one call. -/
inductive Statement
  | selectSite
  | insertAlert
  | selectEmissionPoints
  | insertEmissionPoints
  | beginTransaction
  | insertMeasurements
  | upsertMonth (month : YearMonth)
  | insertMetricsOutbox
  | insertOutbox
  | commit
  deriving DecidableEq

/-- Why a call throws. -/
inductive Failure
  | interrupted (statement : Statement)
  /-- The driver or a column refuses a value of the statement. -/
  | rejected (statement : Statement)
  /-- `emission point not resolved for code: …`. -/
  | notResolved (code : String)
  deriving DecidableEq

/-- One call's clock readings (in milliseconds), and the statements that throw
in it. -/
structure Call where
  now : Int
  persistedAtMs : Int
  fails : Statement → Bool

/-- A call in which no statement throws. -/
def Call.healthy (now persistedAtMs : Int) : Call := ⟨now, persistedAtMs, fun _ => false⟩

structure IngestResult where
  shouldCommit : Bool
  inserted : Nat
  duplicates : Nat
  sumKg : String
  siteId : Option Nat
  deriving DecidableEq

def Call.attempt (call : Call) (statement : Statement) : Except Failure Unit :=
  if call.fails statement then .error (.interrupted statement) else .ok ()

/-- `insertAlert`: best effort, a failure is logged and forgotten. -/
def insertAlert (call : Call) (alertType : String) (payload : List (String × AlertField))
    (db : Database) : Database :=
  if call.fails .insertAlert then db
  else
    let alert : SystemAlert := ⟨alertType, "warn", payload⟩
    { db with systemAlerts := enqueue (instantOfMs call.now) [alert] db.systemAlerts }

/-! ## Emission points -/

def Process.cacheRows (process : Process) (siteId : Nat) (rows : List EmissionPoint) : Process :=
  { process with emissionPointCache := EmissionPoints.cacheRows siteId process.emissionPointCache rows }

def resolveEmissionPoints (call : Call) (siteId : Nat) (measurements : List MeasurementInput)
    (db : Database) (process : Process) : Database × Process × Except Failure (InsertionMap String Nat) :=
  let looked := lookupCodes process.emissionPointCache siteId (uniqueCodes measurements)
  if looked.missing = [] then (db, process, .ok looked.result)
  else if call.fails .selectEmissionPoints then (db, process, .error (.interrupted .selectEmissionPoints))
  else
    let existing := selectMissing db.siteEmissionPoints siteId looked.missing
    let process := process.cacheRows siteId existing
    let selected := looked.learn existing
    if selected.missing = [] then (db, process, .ok selected.result)
    else if call.fails .insertEmissionPoints then (db, process, .error (.interrupted .insertEmissionPoints))
    else
      let proposed := toCreate siteId db.nextEmissionPointId selected.missing
      let inserted := db.siteEmissionPoints.created proposed
      ({ db with
          siteEmissionPoints := db.siteEmissionPoints.insertIgnoring proposed
          nextEmissionPointId := db.nextEmissionPointId + selected.missing.length },
        process.cacheRows siteId inserted, .ok (selected.learn inserted).result)

/-! ## The transaction -/

/-- A row as it is handed to the driver. -/
structure NewMeasurement where
  siteId : Nat
  emissionPointId : Nat
  batchId : String
  recordedAtMs : Int
  value : String
  deriving DecidableEq

def measurementRow (siteId : Nat) (emissionPointMap : InsertionMap String Nat) (batchId : String)
    (m : MeasurementInput) : Except Failure NewMeasurement :=
  match emissionPointMap.get? m.emissionPoint with
  | none => .error (.notResolved m.emissionPoint)
  | some emissionPointId => .ok ⟨siteId, emissionPointId, batchId, m.recordedAtMs, m.valueKgCo2e⟩

/-- The row as its columns take it. -/
def storedRow (runtime : Runtime) (row : NewMeasurement) : Except Failure Measurement :=
  match Uuid.ofText row.batchId, Numeric.ofText row.value with
  | some batchId, some value =>
    if runtime.acceptsTimestamp row.recordedAtMs then
      .ok ⟨row.siteId, row.emissionPointId, batchId, instantOfMs row.recordedAtMs, value⟩
    else .error (.rejected .insertMeasurements)
  | _, _ => .error (.rejected .insertMeasurements)

/-- `INSERT INTO measurements … ON CONFLICT DO NOTHING`; the statement builder
refuses an empty list. -/
def insertMeasurements (runtime : Runtime) (call : Call) (rows : List NewMeasurement) :
    Except Failure (List Measurement) := do
  call.attempt .insertMeasurements
  match rows with
  | [] => .error (.rejected .insertMeasurements)
  | rows => rows.mapM (storedRow runtime)

/-- `${year}-${month}`. -/
def monthKey (month : YearMonth) : String := toString month.year ++ "-" ++ toString month.month

/-- The site-local month of a reading. -/
def monthOf (runtime : Runtime) (timezone : String) (row : Measurement) : YearMonth :=
  runtime.siteLocalYearMonth row.recordedAt timezone

/-- `Number.parseFloat(row.value)`. -/
def valueOf (arithmetic : NumberArithmetic) (row : Measurement) : arithmetic.Number :=
  arithmetic.parseFloat row.value.text

/-- `insertedRows.reduce(…, 0).toFixed(6)`. -/
def sumKg (arithmetic : NumberArithmetic) (rows : List Measurement) : String :=
  arithmetic.toFixed
    (rows.foldl (fun acc row => arithmetic.add acc (valueOf arithmetic row)) arithmetic.zero)

/-- The distinct past months of the rows, in order. -/
def staleMonths (runtime : Runtime) (timezone : String) (nowYearMonth : YearMonth)
    (rows : List Measurement) : List YearMonth :=
  let past := (rows.map (monthOf runtime timezone)).filter fun month => decide (month < nowYearMonth)
  (InsertionMap.groupBy monthKey id (fun held _ => held) past).values.insertionSort (· ≤ ·)

/-- `INSERT … ON CONFLICT DO UPDATE SET stale = true`. -/
def flagStale (siteId : Nat) (months : InsertionMap (Nat × YearMonth) MonthlyEmissions)
    (month : YearMonth) : InsertionMap (Nat × YearMonth) MonthlyEmissions :=
  match months.get? (siteId, month) with
  | some row => months.set (siteId, month) { row with stale := true }
  | none => months.set (siteId, month) ⟨Numeric.zero, true⟩

def markMonthsStale (call : Call) (siteId : Nat) (ordered : List YearMonth)
    (months : InsertionMap (Nat × YearMonth) MonthlyEmissions) :
    Except Failure (InsertionMap (Nat × YearMonth) MonthlyEmissions) :=
  ordered.foldlM (fun months month => call.attempt (.upsertMonth month) >>= fun _ =>
    pure (flagStale siteId months month)) months

/-- The rows' months in order, each with the sum of its values. -/
def monthlySums (runtime : Runtime) (timezone : String) (rows : List Measurement) :
    List (YearMonth × runtime.arithmetic.Number) :=
  let month := monthOf runtime timezone
  let value := valueOf runtime.arithmetic
  (InsertionMap.groupBy (fun row => monthKey (month row)) (fun row => (month row, value row))
    (fun existing row => (existing.1, runtime.arithmetic.add existing.2 (value row)))
    rows).values.insertionSort fun a b => a.1 ≤ b.1

/-- A row of `metrics_outbox` as its columns take it. -/
def incrementRow (runtime : Runtime) (siteId : Nat) (sum : YearMonth × runtime.arithmetic.Number) :
    Except Failure MetricsIncrement :=
  match Numeric.ofText (runtime.arithmetic.toFixed sum.2) with
  | some deltaKg => .ok ⟨siteId, sum.1, deltaKg⟩
  | none => .error (.rejected .insertMetricsOutbox)

def writeMetricsOutbox (runtime : Runtime) (call : Call) (siteId : Nat) (timezone : String)
    (rows : List Measurement) : Except Failure (List MetricsIncrement) := do
  call.attempt .insertMetricsOutbox
  (monthlySums runtime timezone rows).mapM (incrementRow runtime siteId)

def outboxEvent (runtime : Runtime) (call : Call) (message : KafkaIngestMessage)
    (insertedRows : List Measurement) : OutboxEvent :=
  ⟨"ingest.batch.persisted", message.siteSlug,
    { siteSlug := message.siteSlug
      batchId := message.batchId
      measurementsInserted := insertedRows.length
      measurementsSubmitted := message.measurements.length
      sumKgCo2e := sumKg runtime.arithmetic insertedRows
      receivedAtMs := message.receivedAtMs
      persistedAtMs := call.persistedAtMs }⟩

/-- The stale flags and the increments of the inserted rows, when there are any. -/
def recordMonths (runtime : Runtime) (call : Call) (siteId : Nat) (timezone : String)
    (nowYearMonth : YearMonth) (insertedRows : List Measurement)
    (months : InsertionMap (Nat × YearMonth) MonthlyEmissions) :
    Except Failure (InsertionMap (Nat × YearMonth) MonthlyEmissions × List MetricsIncrement) :=
  if insertedRows = [] then .ok (months, [])
  else do
    let months ← markMonthsStale call siteId (staleMonths runtime timezone nowYearMonth insertedRows) months
    let increments ← writeMetricsOutbox runtime call siteId timezone insertedRows
    return (months, increments)

/-- The transaction. -/
def persist (runtime : Runtime) (call : Call) (message : KafkaIngestMessage) (siteId : Nat)
    (timezone : String) (nowYearMonth : YearMonth) (emissionPointMap : InsertionMap String Nat)
    (db : Database) : Except Failure (Database × IngestResult) := do
  call.attempt .beginTransaction
  let measurementRows ← message.measurements.mapM (measurementRow siteId emissionPointMap message.batchId)
  let rows ← insertMeasurements runtime call measurementRows
  let insertedRows := db.measurements.created rows
  let (months, increments) ←
    recordMonths runtime call siteId timezone nowYearMonth insertedRows db.siteMonthlyEmissions
  call.attempt .insertOutbox
  call.attempt .commit
  let now := instantOfMs call.now
  return ({ db with
      measurements := db.measurements.insertIgnoring rows
      siteMonthlyEmissions := months
      metricsOutbox := enqueue now increments db.metricsOutbox
      outbox := enqueue now [outboxEvent runtime call message insertedRows] db.outbox },
    ⟨true, insertedRows.length, message.measurements.length - insertedRows.length,
      sumKg runtime.arithmetic insertedRows, some siteId⟩)

/-! ## The call -/

/-- The call from the point where the site is known. -/
def handleFor (runtime : Runtime) (call : Call) (message : KafkaIngestMessage) (siteId : Nat)
    (timezone : String) (db : Database) (process : Process) :
    Database × Process × Except Failure IngestResult :=
  let nowYearMonth := runtime.siteLocalYearMonth (instantOfMs call.now) timezone
  match resolveEmissionPoints call siteId message.measurements db process with
  | (db, process, .error failure) => (db, process, .error failure)
  | (db, process, .ok emissionPointMap) =>
    match persist runtime call message siteId timezone nowYearMonth emissionPointMap db with
    | .error failure => (db, process, .error failure)
    | .ok (after, result) => (after, process, .ok result)

def findSite (db : Database) (slug : String) : Option Site :=
  db.sites.rows.find? fun site => decide (site.slug = slug)

/-- The result for a site nobody knows: acknowledged, with a system alert. -/
def unknownSite : IngestResult := ⟨true, 0, 0, "0.000000", none⟩

def handle (runtime : Runtime) (call : Call) (message : KafkaIngestMessage) (db : Database)
    (process : Process) : Database × Process × Except Failure IngestResult :=
  match process.siteIdCache.get? message.siteSlug with
  | some (siteId, timezone) => handleFor runtime call message siteId timezone db process
  | none =>
    if call.fails .selectSite then (db, process, .error (.interrupted .selectSite))
    else
      match findSite db message.siteSlug with
      | none =>
        (insertAlert call "unknown_site_in_consumer"
          [("site_slug", .text message.siteSlug), ("batch_id", .text message.batchId)] db,
          process, .ok unknownSite)
      | some site =>
        handleFor runtime call message site.id site.timezone db
          { process with siteIdCache := process.siteIdCache.set message.siteSlug (site.id, site.timezone) }

end EmissionsPlatform.IngestHandler
