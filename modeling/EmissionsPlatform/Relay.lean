import EmissionsPlatform.Database

/-! What the relays share. A tick locks the due rows of its queue table, handles
them one by one, and commits; a row that could not be handled is tried again
later, or, once its attempts are used up, frozen for a day and reported. -/
namespace EmissionsPlatform.Relay
open LeaseQueue
set_option autoImplicit false

/-- The tuning of a relay. The durations are in microseconds, like instants. -/
structure Config where
  batchSize : Nat
  maxAttempts : Nat
  backoffBase : Nat
  backoffCap : Nat

def oneDay : Nat := 86400000000

/-- The wait before the next attempt, with up to 20 % of jitter. `random` is
`Math.random()` in millionths. -/
def backoff (config : Config) (attempts random : Nat) : Nat :=
  let wait := min (2 ^ attempts * config.backoffBase) config.backoffCap
  wait + wait * random / 5000000

/-- What a row's handling writes: its delivery columns, and system alerts. -/
abbrev Settlement := Delivery × List SystemAlert

variable {α : Type}

/-- `UPDATE … SET delivered_at = now()`. -/
def markDelivered (startedAt : Int) (row : Row α) : Settlement :=
  ({ row.delivery with deliveredAt := some startedAt }, [])

/-- The failure path of a relay, which reports a row it gives up as `exhausted`. -/
def handleFailure (exhausted : Row α → Nat → String → SystemAlert) (config : Config) (startedAt : Int)
    (row : Row α) (errMsg : String) (random : Nat) : Settlement :=
  let newAttempts := row.delivery.attempts + 1
  let failed := { row.delivery with attempts := newAttempts, lastError := some errMsg }
  if config.maxAttempts ≤ newAttempts then
    ({ failed with availableAt := startedAt + oneDay }, [exhausted row newAttempts errMsg])
  else ({ failed with availableAt := startedAt + backoff config newAttempts random }, [])

/-- The commit of a tick; the alerts it inserted become visible with it. -/
def commitTick (now : Int) (worker : Nat) (queue : Queue α SystemAlert)
    (systemAlerts : Queue SystemAlert Empty) : Option (Queue α SystemAlert × Queue SystemAlert Empty) :=
  (commit worker queue).map fun (queue, alerts) => (queue, enqueue now alerts systemAlerts)

variable {queue after : Queue α SystemAlert} {systemAlerts afterAlerts : Queue SystemAlert Empty}
variable {exhausted : Row α → Nat → String → SystemAlert} {config : Config} {startedAt now : Int}
variable {row : Row α} {errMsg : String} {random worker : Nat}

theorem commitTick_eq_some :
    commitTick now worker queue systemAlerts = some (after, afterAlerts) ↔
      ∃ alerts, commit worker queue = some (after, alerts) ∧ afterAlerts = enqueue now alerts systemAlerts := by
  simp only [commitTick, Option.map_eq_some_iff, Prod.exists, Prod.mk.injEq]
  constructor
  · rintro ⟨_, alerts, committed, rfl, rfl⟩
    exact ⟨alerts, committed, rfl⟩
  · rintro ⟨alerts, committed, rfl⟩
    exact ⟨after, alerts, committed, rfl, rfl⟩

/-- A failure never delivers. -/
@[simp] theorem handleFailure_deliveredAt :
    (handleFailure exhausted config startedAt row errMsg random).1.deliveredAt = row.delivery.deliveredAt := by
  simp only [handleFailure]
  split <;> rfl

/-- The alerts of a failure report its row. -/
theorem mem_handleFailure {alert : SystemAlert}
    (reported : alert ∈ (handleFailure exhausted config startedAt row errMsg random).2) :
    ∃ attempts, alert = exhausted row attempts errMsg := by
  simp only [handleFailure] at reported
  split at reported
  · exact ⟨_, List.mem_singleton.mp reported⟩
  · cases reported

end EmissionsPlatform.Relay
