import EmissionsPlatform.Foundation.Keyspace
import EmissionsPlatform.Foundation.Transition
import EmissionsPlatform.Relay

/-! The metrics relay: any number of replicas drain `metrics_outbox` into the
per-site hashes of Redis. The increment of a row is not idempotent and is not
undone when the tick's transaction rolls back, so it is guarded by a key of
the row's own.

`increments_applied_exactly_once` is what the guard achieves over any
interleaving of ticks, lost replies and crashes. The invariant behind it,
`Exact`, ties the guards, the row locks, `delivered_at` and the hash fields
together. -/
namespace EmissionsPlatform.MetricsRelay
open LeaseQueue Relay Transition
set_option autoImplicit false

/-- The script of `redis.module.ts`. Lifetimes are not modelled: that a guard
outlives the retries of its row is a condition on the expiry step below. -/
def applyIncrementScript (redis : Keyspace) (appliedKey hashKey field delta : String) :
    Option (Keyspace × Nat) :=
  let (redis, applied) := redis.setnx appliedKey "1"
  if applied = 1 then (redis.hincrbyfloat hashKey field delta).map fun redis => (redis, 1)
  else some (redis, 0)

def appliedKey (id : Nat) : String := "applied:metrics_outbox:" ++ toString id

def hashKey (siteId : Nat) : String := "metrics:" ++ toString siteId

/-- The hash field of a month: the year, and the month in two digits. -/
def yyyymm (month : YearMonth) : String :=
  toString month.year ++ String.ofList (DecimalText.padStart 2 '0' (toString month.month).toList)

/-- The alert of a row the relay gives up. -/
def exhausted (row : Row MetricsIncrement) (attempts : Nat) (errMsg : String) : SystemAlert where
  alertType := "metrics_outbox_exhausted"
  severity := "critical"
  payload :=
    [("metrics_outbox_id", .text (toString row.id)), ("site_id", .text (toString row.data.siteId)),
      ("year", .number row.data.month.year), ("month", .number row.data.month.month),
      ("attempts", .number attempts), ("last_error", .text errMsg)]

/-- `handleFailure` of the metrics relay. -/
def handleFailure : Config → Int → Row MetricsIncrement → String → Nat → Settlement :=
  Relay.handleFailure exhausted

/-- How the call of the script ends: its reply arrives, it ran and the reply is
lost, or it did not run. -/
inductive RedisCall
  | replied
  | replyLost (error : String)
  | failed (error : String)
  deriving DecidableEq

structure State where
  queue : Queue MetricsIncrement SystemAlert
  systemAlerts : Queue SystemAlert Empty
  redis : Keyspace
  /-- The rows whose script has run, one entry for each time. -/
  ran : List Nat
  deriving DecidableEq

inductive Action
  /-- The consumer commits new rows. -/
  | enqueue (now : Int) (increments : List MetricsIncrement)
  /-- A replica's tick begins. -/
  | poll (worker : Nat) (now : Int)
  | apply (worker : Nat) (call : RedisCall) (random : Nat)
  | commit (worker : Nat) (now : Int)
  /-- A replica's tick is rolled back, or the replica dies. -/
  | rollback (worker : Nat)
  /-- The guard of a row reaches the end of its lifetime. -/
  | expireGuard (id : Nat)
  deriving DecidableEq

/-- The script, run for a row. -/
def runScript (redis : Keyspace) (row : Row MetricsIncrement) : Option (Keyspace × Nat) :=
  applyIncrementScript redis (appliedKey row.id) (hashKey row.data.siteId) (yyyymm row.data.month)
    row.data.deltaKg.text

/-- `applyRow`: the keyspace and the runs it leaves, and what it writes. -/
def applyRow (config : Config) (state : State) (startedAt : Int) (row : Row MetricsIncrement)
    (random : Nat) : RedisCall → Option (Keyspace × List Nat × Settlement)
  | .replied => (runScript state.redis row).map fun (redis, _) =>
      (redis, state.ran ++ [row.id], markDelivered startedAt row)
  | .replyLost error => (runScript state.redis row).map fun (redis, _) =>
      (redis, state.ran ++ [row.id], handleFailure config startedAt row error random)
  | .failed error => some (state.redis, state.ran, handleFailure config startedAt row error random)

/-- The row is committed as delivered. -/
def Delivered (queue : Queue MetricsIncrement SystemAlert) (id : Nat) : Prop :=
  ∃ row ∈ queue.rows, row.id = id ∧ row.delivery.deliveredAt ≠ none

instance (queue : Queue MetricsIncrement SystemAlert) (id : Nat) : Decidable (Delivered queue id) :=
  inferInstanceAs (Decidable (∃ row ∈ _, _))

def step (config : Config) (state : State) : Action → Option State
  | .enqueue now increments => some { state with queue := enqueue now increments state.queue }
  | .poll worker now =>
    (poll now config.batchSize worker state.queue).map fun queue => { state with queue }
  | .apply worker call random =>
    (state.queue.next? worker).bind fun (startedAt, row) =>
      (applyRow config state startedAt row random call).bind fun (redis, ran, delivery, alerts) =>
        (settle worker delivery alerts state.queue).map fun queue => { state with queue, redis, ran }
  | .commit worker now =>
    (commitTick now worker state.queue state.systemAlerts).map fun (queue, systemAlerts) =>
      { state with queue, systemAlerts }
  | .rollback worker => some { state with queue := rollback worker state.queue }
  | .expireGuard id =>
    if Delivered state.queue id then some { state with redis := state.redis.erase (appliedKey id) }
    else none

/-- Nothing to relay, and an empty Redis. -/
def initial : State := ⟨LeaseQueue.empty, LeaseQueue.empty, InsertionMap.empty, []⟩

/-- What the rows of a site and a month whose script has run amount to, in
millionths, each row counted once. -/
def appliedKg (contents : List (Nat × MetricsIncrement)) (ran : List Nat) (siteId : Nat)
    (month : YearMonth) : Nat :=
  (contents.map fun (id, increment) =>
    if id ∈ ran ∧ increment.siteId = siteId ∧ increment.month = month
    then increment.deltaKg.millionths else 0).sum

/-! ## Keys -/

theorem appliedKey_injective {id id' : Nat} (same : appliedKey id = appliedKey id') : id = id' :=
  DecimalText.eq_of_toString_nat ((String.append_right_inj "applied:metrics_outbox:").mp same)

theorem hashKey_injective {siteId siteId' : Nat} (same : hashKey siteId = hashKey siteId') :
    siteId = siteId' :=
  DecimalText.eq_of_toString_nat ((String.append_right_inj "metrics:").mp same)

/-- Guards and hashes never share a key. -/
theorem hashKey_ne_appliedKey (siteId id : Nat) : hashKey siteId ≠ appliedKey id := by
  intro same
  unfold hashKey appliedKey at same
  have first := congrArg (fun key => key.toList.head?) same
  simp at first

theorem length_month (month : YearMonth) :
    (DecimalText.padStart 2 '0' (toString month.month).toList).length = 2 := by
  apply DecimalText.length_padStart
  rw [Nat.toString_eq_repr, Nat.toList_repr]
  have high := month.range.2
  exact (Nat.length_toDigits_le_iff (by decide) (by decide)).mpr (by omega)

/-- Different months have different fields. -/
theorem yyyymm_injective {a b : YearMonth} (same : yyyymm a = yyyymm b) : a = b := by
  have lists := congrArg String.toList same
  simp only [yyyymm, String.toList_append, String.toList_ofList] at lists
  obtain ⟨years, months⟩ := List.append_inj' lists ((length_month a).trans (length_month b).symm)
  have year := DecimalText.eq_of_toString_int (String.toList_inj.mp years)
  have month : a.month = b.month := by
    have values := congrArg DecimalText.digitsValue months
    simpa only [DecimalText.digitsValue_padStart, Nat.toString_eq_repr, Nat.toList_repr,
      DecimalText.digitsValue_toDigits] using values
  exact YearMonth.key_injective (congrArg toLex (Prod.ext year month))

/-! ## The script -/

variable {config : Config} {state after : State} {action : Action} {actions : List Action}
variable {redis later : Keyspace} {row : Row MetricsIncrement} {applied id : Nat}
variable {contents : List (Nat × MetricsIncrement)} {ran : List Nat} {siteId : Nat} {month : YearMonth}

/-- The number a field of a site's hash holds. -/
def total (redis : Keyspace) (siteId : Nat) (month : YearMonth) : Nat :=
  (redis.field? (hashKey siteId) (yyyymm month)).getD 0

/-- The script sets the guard and adds the row to its field, or finds the guard
set and changes nothing. -/
theorem runScript_eq_some (run : runScript redis row = some (later, applied)) :
    redis.has (appliedKey row.id) = true ∧ later = redis ∨
      redis.has (appliedKey row.id) = false ∧
        (∀ key, later.has key = true ↔ key = appliedKey row.id ∨ key = hashKey row.data.siteId ∨
          redis.has key = true) ∧
        ∀ siteId month, total later siteId month = total redis siteId month +
          if row.data.siteId = siteId ∧ row.data.month = month then row.data.deltaKg.millionths else 0 := by
  unfold runScript applyIncrementScript at run
  cases guard : redis.setnx (appliedKey row.id) "1" with
  | mk guarded applied =>
    rw [guard] at run
    rcases Keyspace.setnx_eq guard with ⟨held, rfl, rfl⟩ | ⟨absent, rfl, rfl⟩
    · cases run
      exact Or.inl ⟨held, rfl⟩
    · simp only [↓reduceIte, Option.map_eq_some_iff, Prod.mk.injEq] at run
      obtain ⟨_, incremented, rfl, -⟩ := run
      refine Or.inr ⟨absent, ?_, ?_⟩
      · intro key
        obtain ⟨_, fields, -, rfl, -⟩ := Keyspace.hincrbyfloat_eq_some incremented
        simp only [InsertionMap.has_iff, InsertionMap.mem_keys_set]
        exact or_left_comm
      · intro siteId month
        have grown := Keyspace.field?_hincrbyfloat (hashKey siteId) (yyyymm month)
          (DecimalText.millionths_numericText _) incremented
        rw [Keyspace.field?_set_ne (hashKey_ne_appliedKey siteId row.id)] at grown
        rw [total, grown]
        refine congrArg (_ + ·) (if_congr ⟨?_, ?_⟩ rfl rfl)
        · rintro ⟨sameKey, sameField⟩
          exact ⟨(hashKey_injective sameKey).symm, (yyyymm_injective sameField).symm⟩
        · rintro ⟨rfl, rfl⟩
          exact ⟨rfl, rfl⟩

/-! ## What has been applied -/

theorem appliedKg_append (others : List (Nat × MetricsIncrement)) :
    appliedKg (contents ++ others) ran siteId month =
      appliedKg contents ran siteId month + appliedKg others ran siteId month := by
  simp [appliedKg]

/-- Rows whose script has not run amount to nothing. -/
theorem appliedKg_of_fresh (fresh : ∀ content ∈ contents, content.1 ∉ ran) :
    appliedKg contents ran siteId month = 0 := by
  apply List.sum_eq_zero
  intro value member
  obtain ⟨content, known, rfl⟩ := List.mem_map.mp member
  exact if_neg fun applies => fresh content known applies.1

/-- A further run counts for a row only if it is the row's first. -/
theorem appliedKg_again (counted : id ∈ ran) :
    appliedKg contents (ran ++ [id]) siteId month = appliedKg contents ran siteId month := by
  refine congrArg List.sum (List.map_congr_left fun content _ => ?_)
  have same : content.1 ∈ ran ++ [id] ↔ content.1 ∈ ran := by
    simp only [List.mem_append, List.mem_singleton, or_iff_left_iff_imp]
    rintro rfl
    exact counted
  simp only [same]

theorem appliedKg_first {increment : MetricsIncrement} (nodup : (contents.map Prod.fst).Nodup)
    (member : (id, increment) ∈ contents) (uncounted : id ∉ ran) :
    appliedKg contents (ran ++ [id]) siteId month = appliedKg contents ran siteId month +
      if increment.siteId = siteId ∧ increment.month = month then increment.deltaKg.millionths else 0 := by
  obtain ⟨before, later, rfl⟩ := List.append_of_mem member
  rw [List.map_append, List.map_cons, List.nodup_append, List.nodup_cons] at nodup
  obtain ⟨-, ⟨absentLater, -⟩, apart⟩ := nodup
  -- The other rows have other ids, so one more run of this one is nothing to them.
  have others : ∀ rows : List (Nat × MetricsIncrement), id ∉ rows.map Prod.fst →
      appliedKg rows (ran ++ [id]) siteId month = appliedKg rows ran siteId month := by
    intro rows absent
    refine congrArg List.sum (List.map_congr_left fun content known => ?_)
    have different : content.1 ≠ id := fun same => absent (same ▸ List.mem_map_of_mem known)
    simp only [List.mem_append, List.mem_singleton, different, or_false]
  have absentBefore : id ∉ before.map Prod.fst := fun known => apart id known id List.mem_cons_self rfl
  have this : appliedKg [(id, increment)] (ran ++ [id]) siteId month =
      if increment.siteId = siteId ∧ increment.month = month then increment.deltaKg.millionths else 0 := by
    simp [appliedKg]
  have nothing : appliedKg [(id, increment)] ran siteId month = 0 :=
    appliedKg_of_fresh fun content known => by rwa [List.mem_singleton.mp known]
  rw [List.append_cons, appliedKg_append, appliedKg_append, appliedKg_append, appliedKg_append,
    others before absentBefore, others later absentLater, this, nothing]
  omega

/-! ## The invariant -/

/-- What ties Redis to the table. -/
structure Exact (state : State) : Prop where
  sound : Sound state.queue
  /-- A row is marked delivered after its script has run. -/
  settled : Settled (fun content => content.1 ∈ state.ran) state.queue
  known : ∀ id ∈ state.ran, id ∈ state.queue.rows.map Row.id
  guarded : ∀ id, state.redis.has (appliedKey id) = true → id ∈ state.ran
  /-- Only the guard of a delivered row may be gone. -/
  unguarded : ∀ id ∈ state.ran, state.redis.has (appliedKey id) = true ∨ Delivered state.queue id
  totals : ∀ siteId month, total state.redis siteId month =
    appliedKg (state.queue.rows.map Row.content) state.ran siteId month

theorem initial_exact : Exact initial :=
  ⟨empty_sound, empty_settled, nofun, nofun, nofun, fun _ _ => rfl⟩

/-- A change of the table that keeps its rows' contents and the delivered rows. -/
theorem Exact.of_queue (exact : Exact state) {queue : Queue MetricsIncrement SystemAlert}
    (sound : Sound queue) (settled : Settled (fun content => content.1 ∈ state.ran) queue)
    (contents : queue.rows.map Row.content = state.queue.rows.map Row.content)
    (delivered : ∀ row ∈ state.queue.rows, row.delivery.deliveredAt ≠ none → row ∈ queue.rows)
    {systemAlerts : Queue SystemAlert Empty} : Exact { state with queue, systemAlerts } := by
  have ids : queue.rows.map Row.id = state.queue.rows.map Row.id := by
    have firsts := congrArg (List.map Prod.fst) contents
    rwa [List.map_map, List.map_map] at firsts
  refine ⟨sound, settled, ?_, exact.guarded, ?_, ?_⟩
  · exact fun id member => ids.symm ▸ exact.known id member
  · intro id member
    apply (exact.unguarded id member).imp_right
    rintro ⟨row, stored, rfl, isDelivered⟩
    exact ⟨row, delivered row stored isDelivered, rfl, isDelivered⟩
  · intro siteId month
    rw [contents]
    exact exact.totals siteId month

/-- The row a replica is to settle stands undelivered in the table. -/
theorem next_stored {queue : Queue MetricsIncrement SystemAlert} {worker : Nat} {startedAt : Int}
    (sound : Sound queue) (next : queue.next? worker = some (startedAt, row)) :
    row ∈ queue.rows ∧ row.delivery.deliveredAt = none := by
  obtain ⟨pending, written, produced, held⟩ := next?_eq_some next
  exact (sound.held worker _ held).pending row List.mem_cons_self

/-- An undelivered row whose guard is missing has never been applied: only a
delivered row loses its guard. -/
theorem Exact.uncounted (exact : Exact state) (stored : row ∈ state.queue.rows)
    (undelivered : row.delivery.deliveredAt = none) (absent : state.redis.has (appliedKey row.id) = false) :
    row.id ∉ state.ran := by
  intro counted
  rcases exact.unguarded row.id counted with guard | ⟨other, member, sameId, isDelivered⟩
  · exact absurd guard (by simp [absent])
  · rw [List.inj_on_of_nodup_map exact.sound.ids member stored sameId] at isDelivered
    exact isDelivered undelivered

/-- Running the script for a row that is not delivered yet. -/
theorem Exact.runScript (exact : Exact state) (stored : row ∈ state.queue.rows)
    (undelivered : row.delivery.deliveredAt = none)
    (run : runScript state.redis row = some (later, applied)) :
    Exact { state with redis := later, ran := state.ran ++ [row.id] } := by
  have settled : Settled (fun content => content.1 ∈ state.ran ++ [row.id]) state.queue :=
    exact.settled.mono fun _ member => List.mem_append_left _ member
  have known : ∀ id ∈ state.ran ++ [row.id], id ∈ state.queue.rows.map Row.id := by
    intro id member
    rcases List.mem_append.mp member with old | new
    · exact exact.known id old
    · rw [List.mem_singleton.mp new]
      exact List.mem_map_of_mem stored
  rcases runScript_eq_some run with ⟨held, rfl⟩ | ⟨absent, keys, grown⟩
  · have counted := exact.guarded row.id held
    refine ⟨exact.sound, settled, known, ?_, ?_, ?_⟩
    · exact fun id guard => List.mem_append_left _ (exact.guarded id guard)
    · intro id member
      rcases List.mem_append.mp member with old | new
      · exact exact.unguarded id old
      · rw [List.mem_singleton.mp new]
        exact Or.inl held
    · intro siteId month
      rw [appliedKg_again counted]
      exact exact.totals siteId month
  · have uncounted := exact.uncounted stored undelivered absent
    refine ⟨exact.sound, settled, known, ?_, ?_, ?_⟩
    · intro id guard
      rcases (keys _).mp guard with same | same | old
      · rw [appliedKey_injective same]
        exact List.mem_append_right _ (List.mem_singleton_self _)
      · exact absurd same.symm (hashKey_ne_appliedKey _ _)
      · exact List.mem_append_left _ (exact.guarded id old)
    · intro id member
      refine (List.mem_append.mp member).elim (fun old => ?_) (fun new => ?_)
      · exact (exact.unguarded id old).imp_left fun guard => (keys _).mpr (Or.inr (Or.inr guard))
      · rw [List.mem_singleton.mp new]
        exact Or.inl ((keys _).mpr (Or.inl rfl))
    · intro siteId month
      have nodup : ((state.queue.rows.map Row.content).map Prod.fst).Nodup := by
        rw [List.map_map]
        exact exact.sound.ids
      rw [grown, exact.totals, appliedKg_first nodup (List.mem_map_of_mem stored) uncounted]

/-- Settling a row writes what the replica's transaction will commit. -/
theorem Exact.settle (exact : Exact state) {worker : Nat} {startedAt : Int} {delivery : Delivery}
    {alerts : List SystemAlert} {queue : Queue MetricsIncrement SystemAlert}
    (next : state.queue.next? worker = some (startedAt, row))
    (done : delivery.deliveredAt ≠ none → row.id ∈ state.ran)
    (settled : settle worker delivery alerts state.queue = some queue) :
    Exact { state with queue } := by
  obtain ⟨_, _, _, _, _, _, rfl⟩ := settle_eq_some settled
  refine exact.of_queue (settle_sound exact.sound settled) (settle_settled exact.settled ?_ settled) rfl
    fun _ stored _ => stored
  intro delivered _ other found
  cases next.symm.trans found
  exact done delivered

theorem Exact.enqueue (exact : Exact state) (now : Int) (increments : List MetricsIncrement) :
    Exact { state with queue := enqueue now increments state.queue } := by
  have fresh : ∀ id ∈ state.ran, id < state.queue.nextId := by
    intro id member
    obtain ⟨row, stored, rfl⟩ := List.mem_map.mp (exact.known id member)
    exact exact.sound.fresh row stored
  refine ⟨enqueue_sound now increments exact.sound, enqueue_settled now increments exact.settled, ?_,
    exact.guarded, ?_, ?_⟩
  · intro id member
    simp only [LeaseQueue.enqueue, List.map_append]
    exact List.mem_append_left _ (exact.known id member)
  · intro id member
    apply (exact.unguarded id member).imp_right
    rintro ⟨row, stored, rest⟩
    exact ⟨row, List.mem_append_left _ stored, rest⟩
  · intro siteId month
    simp only [LeaseQueue.enqueue, List.map_append, appliedKg_append]
    have nothing : ∀ content ∈ (stamp now state.queue.nextId increments).map Row.content,
        content.1 ∉ state.ran := by
      intro content member counted
      obtain ⟨row, stamped, rfl⟩ := List.mem_map.mp member
      exact absurd (fresh _ counted) (Nat.not_lt.mpr (mem_stamp stamped).1)
    rw [appliedKg_of_fresh nothing, Nat.add_zero]
    exact exact.totals siteId month

theorem Exact.expireGuard (exact : Exact state) (delivered : Delivered state.queue id) :
    Exact { state with redis := state.redis.erase (appliedKey id) } := by
  refine ⟨exact.sound, exact.settled, exact.known, ?_, ?_, ?_⟩
  · intro other guard
    apply exact.guarded other
    rw [InsertionMap.has, InsertionMap.get?_erase] at guard
    split at guard
    · cases guard
    · exact guard
  · intro other member
    by_cases same : other = id
    · rw [same]
      exact Or.inr delivered
    · apply (exact.unguarded other member).imp_left
      intro guard
      rwa [InsertionMap.has, InsertionMap.get?_erase, if_neg fun key => same (appliedKey_injective key)]
  · intro siteId month
    rw [← exact.totals siteId month]
    refine congrArg (Option.getD · 0) (Keyspace.field?_congr ?_)
    rw [InsertionMap.get?_erase, if_neg (hashKey_ne_appliedKey siteId id)]

theorem step_apply {worker random : Nat} {call : RedisCall}
    (stepped : step config state (.apply worker call random) = some after) :
    ∃ startedAt row redis ran delivery alerts queue,
      state.queue.next? worker = some (startedAt, row) ∧
        applyRow config state startedAt row random call = some (redis, ran, delivery, alerts) ∧
          LeaseQueue.settle worker delivery alerts state.queue = some queue ∧
            after = { state with queue, redis, ran } := by
  simp only [step, Option.bind_eq_some_iff, Option.map_eq_some_iff] at stepped
  obtain ⟨⟨startedAt, row⟩, next, ⟨redis, ran, delivery, alerts⟩, applied, queue, settled, rfl⟩ := stepped
  exact ⟨startedAt, row, redis, ran, delivery, alerts, queue, next, applied, settled, rfl⟩

/-- The row and its call: either the script did not run and the row is not
delivered, or it ran. -/
theorem applyRow_eq_some {startedAt : Int} {random : Nat} {call : RedisCall} {delivery : Delivery}
    {alerts : List SystemAlert}
    (handled : applyRow config state startedAt row random call = some (later, ran, delivery, alerts)) :
    later = state.redis ∧ ran = state.ran ∧ delivery.deliveredAt = row.delivery.deliveredAt ∨
      ∃ applied, runScript state.redis row = some (later, applied) ∧ ran = state.ran ++ [row.id] := by
  cases call with
  | replied =>
    simp only [applyRow, Option.map_eq_some_iff, Prod.mk.injEq] at handled
    obtain ⟨⟨_, applied⟩, run, rfl, rfl, -⟩ := handled
    exact Or.inr ⟨applied, run, rfl⟩
  | replyLost error =>
    simp only [applyRow, Option.map_eq_some_iff, Prod.mk.injEq] at handled
    obtain ⟨⟨_, applied⟩, run, rfl, rfl, -⟩ := handled
    exact Or.inr ⟨applied, run, rfl⟩
  | failed error =>
    simp only [applyRow, Option.some.injEq, Prod.mk.injEq] at handled
    obtain ⟨rfl, rfl, written⟩ := handled
    refine Or.inl ⟨rfl, rfl, ?_⟩
    calc delivery.deliveredAt
        = (handleFailure config startedAt row error random).1.deliveredAt := by rw [written]
      _ = row.delivery.deliveredAt := handleFailure_deliveredAt

theorem step_exact (exact : Exact state) (stepped : step config state action = some after) :
    Exact after := by
  cases action with
  | enqueue now increments =>
    cases stepped
    exact exact.enqueue now increments
  | poll worker now =>
    obtain ⟨queue, polled, rfl⟩ := Option.map_eq_some_iff.mp stepped
    have same := (poll_eq_some polled).2
    exact exact.of_queue (poll_sound exact.sound polled) (poll_settled exact.settled polled)
      (by rw [same]) fun row stored _ => by rwa [same]
  | apply worker call random =>
    obtain ⟨startedAt, row, redis, ran, delivery, alerts, queue, next, handled, settled, rfl⟩ :=
      step_apply stepped
    obtain ⟨stored, undelivered⟩ := next_stored exact.sound next
    rcases applyRow_eq_some handled with ⟨rfl, rfl, unchanged⟩ | ⟨applied, run, rfl⟩
    · exact exact.settle next (fun delivered => absurd (unchanged.trans undelivered) delivered) settled
    · exact (exact.runScript stored undelivered run).settle next
        (fun _ => List.mem_append_right _ (List.mem_singleton_self _)) settled
  | commit worker now =>
    obtain ⟨⟨queue, systemAlerts⟩, committed, rfl⟩ := Option.map_eq_some_iff.mp stepped
    obtain ⟨alerts, committed, -⟩ := commitTick_eq_some.mp committed
    exact exact.of_queue (commit_sound exact.sound committed) (commit_settled exact.settled committed)
      (commit_contents exact.sound committed)
      fun row stored delivered => commit_keeps_delivered exact.sound committed stored delivered
  | rollback worker =>
    cases stepped
    exact exact.of_queue (rollback_sound worker exact.sound) (rollback_settled worker exact.settled) rfl
      fun _ stored _ => stored
  | expireGuard id =>
    simp only [step, Option.ite_none_right_eq_some, Option.some.injEq] at stepped
    obtain ⟨delivered, rfl⟩ := stepped
    exact exact.expireGuard delivered

/-- A relay that writes nothing new keeps the rows as they are, below their
delivery columns. -/
theorem step_contents (exact : Exact state) (old : ∀ now increments, action ≠ .enqueue now increments)
    (stepped : step config state action = some after) :
    after.queue.rows.map Row.content = state.queue.rows.map Row.content := by
  cases action with
  | enqueue now increments => exact absurd rfl (old now increments)
  | poll worker now =>
    obtain ⟨queue, polled, rfl⟩ := Option.map_eq_some_iff.mp stepped
    rw [(poll_eq_some polled).2]
  | apply worker call random =>
    obtain ⟨startedAt, row, redis, ran, delivery, alerts, queue, next, handled, settled, rfl⟩ :=
      step_apply stepped
    obtain ⟨_, _, _, _, _, _, rfl⟩ := settle_eq_some settled
    rfl
  | commit worker now =>
    obtain ⟨⟨queue, systemAlerts⟩, committed, rfl⟩ := Option.map_eq_some_iff.mp stepped
    obtain ⟨alerts, committed, -⟩ := commitTick_eq_some.mp committed
    exact commit_contents exact.sound committed
  | rollback worker =>
    cases stepped
    rfl
  | expireGuard id =>
    obtain ⟨_, same⟩ := Option.ite_none_right_eq_some.mp stepped
    cases same
    rfl

/-- **Exactly-once application.** In every state that any interleaving of
replicas reaches, a field of a site's hash amounts to exactly the rows of its
site and month whose script has run, each counted once; a row marked delivered
is among them; and different sites or months never share a field. -/
theorem increments_applied_exactly_once (config : Config) (actions : List Action) (state : State)
    (ran : run (step config) initial actions = some state) :
    (state.queue.rows.map Row.id).Nodup ∧
      (∀ siteId month, (state.redis.field? (hashKey siteId) (yyyymm month)).getD 0 =
        appliedKg (state.queue.rows.map Row.content) state.ran siteId month) ∧
      (∀ row ∈ state.queue.rows, row.delivery.deliveredAt ≠ none → row.id ∈ state.ran) ∧
      ∀ siteId month siteId' month', hashKey siteId = hashKey siteId' → yyyymm month = yyyymm month' →
        siteId = siteId' ∧ month = month' := by
  have exact : Exact state := run_invariant Exact step_exact initial_exact ran
  refine ⟨exact.sound.ids, exact.totals, exact.settled.rows, ?_⟩
  intro siteId month siteId' month' sameKey sameField
  exact ⟨hashKey_injective sameKey, yyyymm_injective sameField⟩

def january : YearMonth := ⟨2024, 1, by decide⟩

/-- The reply to the first call is lost, the tick is rolled back, and another
replica takes the row up again. -/
def lostReply : List Action :=
  [.enqueue 0 [⟨7, january, ⟨1500000, by decide⟩⟩], .poll 0 0, .apply 0 (.replyLost "timeout") 0,
    .rollback 0, .poll 1 0, .apply 1 .replied 0, .commit 1 0, .expireGuard 1]

private def relayConfig : Config := ⟨50, 10, 2000000, 300000000⟩

private theorem lostReply_ran : (run (step relayConfig) initial lostReply).isSome := by decide

theorem lost_reply_counts_once :
    ∃ state, run (step relayConfig) initial lostReply = some state ∧ state.ran = [1, 1] ∧
      (state.redis.field? (hashKey 7) (yyyymm january)).getD 0 = 1500000 := by
  have ran := (Option.some_get lostReply_ran).symm
  refine ⟨_, ran, by decide, ?_⟩
  rw [(increments_applied_exactly_once relayConfig lostReply _ ran).2.1]
  decide

end EmissionsPlatform.MetricsRelay
