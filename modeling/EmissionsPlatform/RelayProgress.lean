import EmissionsPlatform.Foundation.AttemptSpacing
import EmissionsPlatform.RelayRuns

/-! What the relays owe to a row that waits, and to a receiver that fails. A
tick takes the rows that have been due for longest, and a failed row goes behind
those that are due, so no row is starved by the failures of others. And a
failed row stays away for its backoff, over all replicas. Both need a backoff
that is not zero, which the schemas of the environment demand. -/
namespace EmissionsPlatform.RelayProgress
open LeaseQueue Relay Drain RelayRuns Transition BoundedWaiting AttemptSpacing
set_option autoImplicit false

/-- The least wait after a failure that leaves a row with so many attempts. -/
def retryDelay (config : Config) (attempts : Nat) : Nat :=
  if config.maxAttempts ≤ attempts then oneDay else min (2 ^ attempts * config.backoffBase) config.backoffCap

/-- `z.coerce.number().positive()`, of the base and the cap of the backoff. -/
def PositiveBackoff (config : Config) : Prop := 0 < config.backoffBase ∧ 0 < config.backoffCap

variable {config : Config}

theorem backoff_pos (positive : PositiveBackoff config) (attempts random : Nat) :
    0 < backoff config attempts random := by
  have scaled : 0 < 2 ^ attempts * config.backoffBase := Nat.mul_pos (Nat.two_pow_pos attempts) positive.1
  have wait : 0 < min (2 ^ attempts * config.backoffBase) config.backoffCap := lt_min scaled positive.2
  exact Nat.add_pos_left wait _

theorem le_backoff (config : Config) (attempts random : Nat) :
    min (2 ^ attempts * config.backoffBase) config.backoffCap ≤ backoff config attempts random :=
  Nat.le_add_right _ _

section
variable {α : Type} {exhausted : Row α → Nat → String → SystemAlert}

theorem handleFailure_retryDelay (exhausted : Row α → Nat → String → SystemAlert) (config : Config) (startedAt : Int)
    (row : Row α) (errMsg : String) (random : Nat) :
    startedAt + retryDelay config (row.delivery.attempts + 1) ≤
      (handleFailure exhausted config startedAt row errMsg random).1.availableAt := by
  have wait := le_backoff config (row.delivery.attempts + 1) random
  simp only [handleFailure, retryDelay]
  split
  · exact le_rfl
  · simp only
    omega

theorem settlement_putsOff (exhausted : Row α → Nat → String → SystemAlert) (positive : PositiveBackoff config) :
    PutsOff (settlement exhausted config) := by
  refine { settlement_marks exhausted config with later := fun startedAt row errMsg random => ?_ }
  have wait := backoff_pos positive (row.delivery.attempts + 1) random
  simp only [settlement, handleFailure, oneDay]
  split <;> simp only <;> omega

end

theorem lt_oneYearAfter (instant : Int) : instant < oneYearAfter instant := by
  have later := Calendar.lt_yearLater (instant / microsPerDay)
  simp only [oneYearAfter, microsPerDay] at later ⊢
  omega

theorem systemAlertsHandler_putsOff (positive : PositiveBackoff config) : PutsOff (systemAlertsHandler config) := by
  refine { (systemAlertsHandler_budgeted config).toMarks with later := fun startedAt row errMsg random => ?_ }
  have wait := backoff_pos positive (row.delivery.attempts + 1) random
  simp only [systemAlertsHandler_failed]
  split
  · exact lt_oneYearAfter startedAt
  · simp only
    omega

/-! ## No row is starved -/

/-- In any state a run of replicas reaches, a waiting row is taken up as soon as
its turns, batch by batch, outnumber the rows ahead of it and what the run puts
there. -/
def NeverStarves {α β : Type} (handler : Handler α β) (limit : Nat) : Prop :=
  ∀ rows nextId earlier later middle state row, (rows.map Row.id).Nodup → (∀ row ∈ rows, row.id < nextId) →
    run (step handler limit) (started rows nextId) earlier = some middle →
      run (step handler limit) middle later = some state → Waits row middle.queue →
        ahead row middle.queue + (later.map (setback row limit)).sum < limit * later.countP (isTurn row) →
          TakenUp handler limit row middle later

theorem neverStarves_of_putsOff {α β : Type} {handler : Handler α β} (putsOff : PutsOff handler) (limit : Nat) :
    NeverStarves handler limit := by
  intro rows nextId earlier later middle state row ids fresh reached ran waits enough
  have regular := run_regular putsOff (started_regular ids fresh) reached
  exact run_bounded putsOff regular waits ran enough

/-- **No row is starved in any relay**, over every interleaving of replicas, new
rows, failed deliveries and ticks that are rolled back. -/
theorem relays_never_starve (config : Config) (positive : PositiveBackoff config) :
    NeverStarves (outboxHandler config) config.batchSize ∧ NeverStarves (metricsHandler config) config.batchSize ∧
      NeverStarves (systemAlertsHandler config) config.batchSize :=
  ⟨neverStarves_of_putsOff (settlement_putsOff _ positive) _, neverStarves_of_putsOff (settlement_putsOff _ positive) _,
    neverStarves_of_putsOff (systemAlertsHandler_putsOff positive) _⟩

private def lateEvent : OutboxEvent where
  eventType := "ingest.batch.persisted"
  aggregateId := "7"
  payload := ⟨"coastal-hub", "5b9e0d42-7c1a-4f83-b2d6-91e4c0a8f573", 2, 2, "4.250000", 1706745601000, 1706745602000⟩

private def oneByOne : Config := ⟨1, 10, 2000000, 300000000⟩

/-- Two rows are due at once, and a batch holds one: the second is taken up
behind the first, though the first fails. -/
theorem second_row_is_taken_up :
    ∃ state, run (step (outboxHandler oneByOne) 1) (started [⟨1, lateEvent, .fresh 0⟩, ⟨2, lateEvent, .fresh 0⟩] 3)
        [.poll 0 0, .deliver 0 (.failed "HTTP 503: " 0), .commit 0, .poll 0 9000000] = some state ∧
      TakenUp (outboxHandler oneByOne) 1 ⟨2, lateEvent, .fresh 0⟩
        (started [⟨1, lateEvent, .fresh 0⟩, ⟨2, lateEvent, .fresh 0⟩] 3)
        [.poll 0 0, .deliver 0 (.failed "HTTP 503: " 0), .commit 0, .poll 0 9000000] := by
  obtain ⟨state, ran, _⟩ : ∃ state ∈ run (step (outboxHandler oneByOne) 1)
      (started [⟨1, lateEvent, .fresh 0⟩, ⟨2, lateEvent, .fresh 0⟩] 3)
      [.poll 0 0, .deliver 0 (.failed "HTTP 503: " 0), .commit 0, .poll 0 9000000],
      state.history.length = 1 := by decide +kernel
  refine ⟨state, ran, ?_⟩
  exact (relays_never_starve oneByOne (by constructor <;> decide)).1 _ 3 [] _ _ state _ (by decide) (by decide) rfl ran
    ⟨by decide, rfl, by decide⟩ (by decide +kernel)

/-! ## A failed row is left alone -/

/-- In every run of replicas, the next attempt at a row after one that failed,
and whose tick committed, falls into a tick that began late enough. -/
def Spaces {α β : Type} (handler : Handler α β) (limit : Nat) (retryAt : Int → Nat → Int) : Prop :=
  ∀ rows nextId earlier first second during since worker other startedAt startedAt' row row' errMsg random,
    (rows.map Row.id).Nodup → (∀ row ∈ rows, row.id < nextId) →
      run (step handler limit) (started rows nextId) earlier = some first →
        first.queue.next? worker = some (startedAt, row) → (∀ action ∈ during, ¬ Ends worker action) →
          run (step handler limit) first
              (.deliver worker (.failed errMsg random) :: during ++ .commit worker :: since) = some second →
            second.queue.next? other = some (startedAt', row') → row'.id = row.id →
              retryAt startedAt (row.delivery.attempts + 1) ≤ startedAt'

theorem spaces_of_putsOff {α β : Type} {handler : Handler α β} {retryAt : Int → Nat → Int}
    (putsOff : PutsOff handler) (limit : Nat)
    (waits : ∀ startedAt row errMsg random, retryAt startedAt (row.delivery.attempts + 1) ≤
      (handler startedAt row (.failed errMsg random)).1.availableAt) : Spaces handler limit retryAt := by
  intro rows nextId earlier first second during since worker other startedAt startedAt' row row' errMsg random
    ids fresh reached isNext unended ran again same
  have sound := run_invariant (fun state : Drain.State α β => Sound state.queue)
    (fun sound stepped => step_sound sound stepped) (started_sound ids fresh) reached
  exact (waits startedAt row errMsg random).trans (attempts_spaced putsOff sound isNext unended ran again same)

/-- When the system-alerts relay tries a row again. -/
def alertRetryAt (config : Config) (startedAt : Int) (attempts : Nat) : Int :=
  if config.maxAttempts ≤ attempts then oneYearAfter startedAt
  else startedAt + min (2 ^ attempts * config.backoffBase) config.backoffCap

/-- **The relays spare a receiver that fails**: whichever replica makes it, the
next attempt at a failed row comes `min(2^attempts * base, cap)` later or more,
and a day or a year later when its attempts are used up. -/
theorem relays_space_attempts (config : Config) (positive : PositiveBackoff config) :
    Spaces (outboxHandler config) config.batchSize (fun startedAt attempts => startedAt + retryDelay config attempts) ∧
      Spaces (metricsHandler config) config.batchSize
        (fun startedAt attempts => startedAt + retryDelay config attempts) ∧
        Spaces (systemAlertsHandler config) config.batchSize (alertRetryAt config) := by
  refine ⟨spaces_of_putsOff (settlement_putsOff _ positive) _ (handleFailure_retryDelay _ config),
    spaces_of_putsOff (settlement_putsOff _ positive) _ (handleFailure_retryDelay _ config),
    spaces_of_putsOff (systemAlertsHandler_putsOff positive) _ ?_⟩
  intro startedAt row errMsg random
  have wait := le_backoff config (row.delivery.attempts + 1) random
  simp only [systemAlertsHandler_failed, alertRetryAt]
  split
  · exact le_rfl
  · simp only
    omega

/-- A row that fails at the beginning is tried again by another replica, four
seconds later at the earliest. -/
theorem retried_after_backoff :
    ∃ first ∈ run (step (outboxHandler oneByOne) 1) (started [⟨1, lateEvent, .fresh 0⟩] 2) [.poll 0 0],
      ∃ second ∈ run (step (outboxHandler oneByOne) 1) first
          [.deliver 0 (.failed "HTTP 503: " 0), .poll 1 3999999, .commit 0, .commit 1, .poll 1 4000000],
        ∃ next ∈ second.queue.next? 1, next.2.id = 1 ∧ 4000000 ≤ next.1 := by
  obtain ⟨first, reached, isNext, second, ran, next, again, same⟩ :
      ∃ first ∈ run (step (outboxHandler oneByOne) 1) (started [⟨1, lateEvent, .fresh 0⟩] 2) [.poll 0 0],
        first.queue.next? 0 = some (0, ⟨1, lateEvent, .fresh 0⟩) ∧
          ∃ second ∈ run (step (outboxHandler oneByOne) 1) first
              [.deliver 0 (.failed "HTTP 503: " 0), .poll 1 3999999, .commit 0, .commit 1, .poll 1 4000000],
            ∃ next ∈ second.queue.next? 1, next.2.id = 1 := by decide +kernel
  refine ⟨first, reached, second, ran, next, again, same, ?_⟩
  exact (relays_space_attempts oneByOne (by constructor <;> decide)).1 _ 2 _ first second [.poll 1 3999999]
    [.commit 1, .poll 1 4000000] 0 1 0 next.1 _ next.2 "HTTP 503: " 0 (by decide) (by decide) reached isNext
    (by decide) ran again same

end EmissionsPlatform.RelayProgress
