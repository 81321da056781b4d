import EmissionsPlatform.Foundation.BoundedWaiting
import EmissionsPlatform.RelayRuns

/-! The loop of a relay process. `onModuleInit` sets an interval timer, and each
time it goes off a tick begins unless the one before is still in flight: a
`running` flag says so, which the `finally` of the tick takes back. Each tick has
a transaction of its own, so nothing but the flag keeps a process from draining
the table twice at once.

The machine here has any number of such processes beside each other. Its
database is that of a run of replicas, with a transaction for each tick, so what
holds of those runs holds of the processes. -/
namespace EmissionsPlatform.RelayLoop
open LeaseQueue Relay Drain RelayRuns Transition BoundedWaiting
set_option autoImplicit false

/-- The fields of a relay service. -/
structure Service where
  /-- `this.timer` is an interval timer. -/
  timer : Bool
  running : Bool
  deriving DecidableEq

/-- A call of `tick` whose promise is not settled. -/
structure Tick where
  service : Nat
  transaction : Nat
  deriving DecidableEq

structure State (α β : Type) where
  services : List Service
  ticks : List Tick
  nextTransaction : Nat
  database : Drain.State α β
  deriving DecidableEq

inductive Action (α : Type)
  /-- Some other transaction commits new rows. -/
  | insert (now : Int) (data : List α)
  | onModuleInit (service : Nat)
  /-- The poll interval has passed. -/
  | interval (service : Nat)
  /-- `SELECT … FOR UPDATE SKIP LOCKED`. -/
  | selectRows (tick : Tick) (now : Int)
  | deliverRow (tick : Tick) (outcome : Outcome)
  /-- The transaction of a tick commits, and its promise is fulfilled. -/
  | fulfil (tick : Tick)
  /-- A statement of a tick fails, or the connection: its promise is rejected. -/
  | reject (tick : Tick)
  | onModuleDestroy (service : Nat)
  /-- The process dies and is started anew. -/
  | restart (service : Nat)
  deriving DecidableEq

variable {α β : Type}

/-- What `finally` leaves. -/
def State.settled (state : State α β) (tick : Tick) : State α β :=
  { state with
    services := state.services.modify tick.service fun service => { service with running := false }
    ticks := state.ticks.filter fun other => decide (other ≠ tick) }

/-- What the database does for a tick in flight. -/
def State.transact (handler : Handler α β) (limit : Nat) (state : State α β) (tick : Tick) (action : Drain.Action α) :
    Option (State α β) :=
  if tick ∈ state.ticks then
    (Drain.step handler limit state.database action).map fun database => { state with database }
  else none

def step (handler : Handler α β) (limit : Nat) (state : State α β) : Action α → Option (State α β)
  | .insert now data =>
    (Drain.step handler limit state.database (.enqueue now data)).map fun database => { state with database }
  | .onModuleInit index =>
    match state.services[index]? with
    | some ⟨false, running⟩ => some { state with services := state.services.set index ⟨true, running⟩ }
    | _ => none
  | .interval index =>
    match state.services[index]? with
    | some ⟨true, true⟩ => some state
    | some ⟨true, false⟩ =>
      some { state with
        services := state.services.set index ⟨true, true⟩
        ticks := state.ticks ++ [⟨index, state.nextTransaction⟩]
        nextTransaction := state.nextTransaction + 1 }
    | _ => none
  | .selectRows tick now => state.transact handler limit tick (.poll tick.transaction now)
  | .deliverRow tick outcome => state.transact handler limit tick (.deliver tick.transaction outcome)
  | .fulfil tick =>
    (state.transact handler limit tick (.commit tick.transaction)).map fun state => state.settled tick
  | .reject tick =>
    (state.transact handler limit tick (.rollback tick.transaction)).map fun state => state.settled tick
  | .onModuleDestroy index =>
    match state.services[index]? with
    | some ⟨_, running⟩ => some { state with services := state.services.set index ⟨false, running⟩ }
    | none => none
  | .restart index =>
    let lost := state.ticks.filter fun tick => decide (tick.service = index)
    (run (Drain.step handler limit) state.database
      (lost.map fun tick => .rollback tick.transaction)).map fun database =>
      { state with
        services := state.services.set index ⟨false, false⟩
        ticks := state.ticks.filter fun tick => decide (tick.service ≠ index)
        database }

/-- Processes that have not been started. -/
def booted (count : Nat) (rows : List (Row α)) (nextId : Nat) : State α β :=
  ⟨List.replicate count ⟨false, false⟩, [], 0, started rows nextId⟩

variable {handler : Handler α β} {limit : Nat} {state after : State α β}

/-! ## The database of the processes -/

theorem transact_eq_some {tick : Tick} {action : Drain.Action α}
    (transacted : state.transact handler limit tick action = some after) :
    tick ∈ state.ticks ∧ ∃ database, Drain.step handler limit state.database action = some database ∧
      after = { state with database } := by
  unfold State.transact at transacted
  split at transacted
  · rename_i inFlight
    obtain ⟨database, stepped, rfl⟩ := Option.map_eq_some_iff.mp transacted
    exact ⟨inFlight, database, stepped, rfl⟩
  · cases transacted

/-- Each step of the processes is a run of the replicas' database. -/
theorem step_database {action : Action α} (stepped : step handler limit state action = some after) :
    ∃ actions, run (Drain.step handler limit) state.database actions = some after.database := by
  have single : ∀ {database : Drain.State α β} {action : Drain.Action α},
      Drain.step handler limit state.database action = some database →
        ∃ actions, run (Drain.step handler limit) state.database actions = some database :=
    fun {database action} stepped => ⟨[action], run_cons.mpr ⟨database, stepped, rfl⟩⟩
  cases action with
  | insert now data =>
    cases stepped
    exact ⟨[.enqueue now data], rfl⟩
  | onModuleInit index =>
    simp only [step] at stepped
    split at stepped
    · cases stepped; exact ⟨[], rfl⟩
    · cases stepped
  | interval index =>
    simp only [step] at stepped
    split at stepped
    · cases stepped; exact ⟨[], rfl⟩
    · cases stepped; exact ⟨[], rfl⟩
    · cases stepped
  | selectRows tick now =>
    obtain ⟨_, database, polled, rfl⟩ := transact_eq_some stepped
    exact single polled
  | deliverRow tick outcome =>
    obtain ⟨_, database, delivered, rfl⟩ := transact_eq_some stepped
    exact single delivered
  | fulfil tick =>
    obtain ⟨middle, transacted, rfl⟩ := Option.map_eq_some_iff.mp stepped
    obtain ⟨_, database, committed, rfl⟩ := transact_eq_some transacted
    exact single committed
  | reject tick =>
    obtain ⟨middle, transacted, rfl⟩ := Option.map_eq_some_iff.mp stepped
    obtain ⟨_, database, rolledBack, rfl⟩ := transact_eq_some transacted
    exact single rolledBack
  | onModuleDestroy index =>
    simp only [step] at stepped
    split at stepped
    · cases stepped; exact ⟨[], rfl⟩
    · cases stepped
  | restart index =>
    obtain ⟨database, ran, rfl⟩ := Option.map_eq_some_iff.mp stepped
    exact ⟨_, ran⟩

theorem run_database {start : State α β} {actions : List (Action α)}
    (ran : run (step handler limit) start actions = some state) :
    ∃ actions, run (Drain.step handler limit) start.database actions = some state.database := by
  refine run_invariant (fun state => ∃ actions, run (Drain.step handler limit) start.database actions =
    some state.database) ?_ ⟨[], rfl⟩ ran
  rintro before after action ⟨earlier, reached⟩ stepped
  obtain ⟨later, ran⟩ := step_database stepped
  exact ⟨earlier ++ later, run_append.mpr ⟨_, reached, ran⟩⟩

/-! ## The flag -/

/-- The flag of a service tells whether a tick of it is in flight, of which
there is at most one; and every open transaction is that of a tick. -/
structure Guarded (limit : Nat) (state : State α β) : Prop where
  flag : ∀ (index : Nat) service, state.services[index]? = some service →
    (service.running = true ↔ index ∈ state.ticks.map Tick.service)
  there : ∀ tick ∈ state.ticks, tick.service < state.services.length
  once : (state.ticks.map Tick.service).Nodup
  used : ∀ tick ∈ state.ticks, tick.transaction < state.nextTransaction
  distinct : (state.ticks.map Tick.transaction).Nodup
  owned : ∀ transaction lease, state.database.queue.leases.get? transaction = some lease →
    transaction ∈ state.ticks.map Tick.transaction
  batched : Batched limit state.database.queue

theorem booted_guarded (count : Nat) (rows : List (Row α)) (nextId : Nat) :
    Guarded limit (booted count rows nextId : State α β) := by
  refine ⟨?_, List.forall_mem_nil _, List.nodup_nil, List.forall_mem_nil _, List.nodup_nil,
    (fun _ _ held => nomatch held), (fun _ _ held => nomatch held)⟩
  intro index service found
  simp only [booted, List.getElem?_replicate] at found
  split at found
  · cases found
    simp [booted]
  · cases found

/-- A step of the database for a tick in flight that ends no transaction. -/
theorem Guarded.transact (guarded : Guarded limit state) {tick : Tick} {action : Drain.Action α}
    (own : ∀ worker now, action = .poll worker now → worker = tick.transaction)
    (transacted : state.transact handler limit tick action = some after) : Guarded limit after := by
  obtain ⟨inFlight, database, stepped, rfl⟩ := transact_eq_some transacted
  refine { guarded with owned := ?_, batched := step_batched guarded.batched stepped }
  intro transaction lease held
  rcases step_lease stepped held with old | ⟨now, polled, _⟩ | ⟨_, _, _, _, _, _, mine, _⟩
  · exact guarded.owned transaction lease old
  · exact own transaction now polled ▸ List.mem_map_of_mem inFlight
  · exact guarded.owned transaction _ mine

/-- The end of a tick, whose transaction is over. -/
theorem Guarded.settled (guarded : Guarded limit state) {tick : Tick} (inFlight : tick ∈ state.ticks)
    (over' : state.database.queue.leases.get? tick.transaction = none) : Guarded limit (state.settled tick) := by
  have others : ∀ other, other ∈ (state.settled tick).ticks ↔ other ∈ state.ticks ∧ other ≠ tick := by
    intro other
    simp [State.settled]
  have less : (state.settled tick).ticks.Sublist state.ticks := List.filter_sublist
  refine ⟨?_, ?_, guarded.once.sublist (less.map _), ?_, guarded.distinct.sublist (less.map _), ?_, guarded.batched⟩
  · intro index service found
    simp only [State.settled, List.getElem?_modify, Option.map_eq_map, Option.map_eq_some_iff] at found
    obtain ⟨old, foundOld, rfl⟩ := found
    have flag := guarded.flag index old foundOld
    by_cases own : tick.service = index
    · subst own
      simp only [if_true, Bool.false_eq_true, false_iff]
      intro again
      obtain ⟨other, still, same⟩ := List.mem_map.mp again
      obtain ⟨member, different⟩ := (others other).mp still
      exact different (List.inj_on_of_nodup_map guarded.once member inFlight same)
    · rw [if_neg own]
      refine flag.trans ⟨fun member => ?_, fun member => ?_⟩
      · obtain ⟨other, inside, rfl⟩ := List.mem_map.mp member
        exact List.mem_map_of_mem ((others other).mpr ⟨inside, fun same => own (same ▸ rfl)⟩)
      · obtain ⟨other, inside, rfl⟩ := List.mem_map.mp member
        exact List.mem_map_of_mem ((others other).mp inside).1
  · intro other member
    simpa [State.settled] using guarded.there other ((others other).mp member).1
  · exact fun other member => guarded.used other ((others other).mp member).1
  · intro transaction lease held
    obtain ⟨other, member, rfl⟩ := List.mem_map.mp (guarded.owned transaction lease held)
    refine List.mem_map_of_mem ((others other).mpr ⟨member, ?_⟩)
    rintro rfl
    exact nomatch over'.symm.trans held

/-- Setting the timer of a service touches no tick. -/
theorem Guarded.timed (guarded : Guarded limit state) {index : Nat} {service : Service} (timer : Bool)
    (found : state.services[index]? = some service) :
    Guarded limit { state with services := state.services.set index ⟨timer, service.running⟩ } := by
  refine { guarded with flag := ?_, there := ?_ }
  · intro position other isOther
    by_cases own : index = position
    · subst own
      rw [List.getElem?_set_self (List.getElem?_eq_some_iff.mp found).1] at isOther
      cases isOther
      exact guarded.flag index service found
    · rw [List.getElem?_set_ne own] at isOther
      exact guarded.flag position other isOther
  · intro tick inFlight
    rw [List.length_set]
    exact guarded.there tick inFlight

/-- A tick begins where none is in flight. -/
theorem Guarded.begun (guarded : Guarded limit state) {index : Nat}
    (found : state.services[index]? = some ⟨true, false⟩) :
    Guarded limit { state with
      services := state.services.set index ⟨true, true⟩
      ticks := state.ticks ++ [⟨index, state.nextTransaction⟩]
      nextTransaction := state.nextTransaction + 1 } := by
  have there : index < state.services.length := (List.getElem?_eq_some_iff.mp found).1
  have idle : index ∉ state.ticks.map Tick.service := fun member => by
    have running := (guarded.flag index _ found).mpr member
    cases running
  have unused : state.nextTransaction ∉ state.ticks.map Tick.transaction := fun member => by
    obtain ⟨tick, inFlight, same⟩ := List.mem_map.mp member
    exact absurd (guarded.used tick inFlight) (by omega)
  refine ⟨?_, ?_, ?_, ?_, ?_, ?_, guarded.batched⟩
  · intro position other isOther
    rw [List.map_append, List.mem_append]
    by_cases own : index = position
    · subst own
      rw [List.getElem?_set_self there] at isOther
      cases isOther
      simp
    · rw [List.getElem?_set_ne own] at isOther
      rw [guarded.flag position other isOther]
      simp [Ne.symm own]
  · intro tick inFlight
    rw [List.length_set]
    rcases List.mem_append.mp inFlight with old | new
    · exact guarded.there tick old
    · rw [List.mem_singleton.mp new]
      exact there
  · rw [List.map_append]
    exact List.nodup_append'.mpr ⟨guarded.once, List.nodup_singleton _, by simpa using idle⟩
  · intro tick inFlight
    rcases List.mem_append.mp inFlight with old | new
    · exact Nat.lt_succ_of_lt (guarded.used tick old)
    · rw [List.mem_singleton.mp new]
      exact Nat.lt_succ_self _
  · rw [List.map_append]
    exact List.nodup_append'.mpr ⟨guarded.distinct, List.nodup_singleton _, by simpa using unused⟩
  · intro transaction lease held
    rw [List.map_append]
    exact List.mem_append_left _ (guarded.owned transaction lease held)

/-- What rolled-back transactions leave open. -/
theorem rollbacks_open {transactions : List Nat} {start finish : Drain.State α β}
    (ran : run (Drain.step handler limit) start (transactions.map Drain.Action.rollback) = some finish)
    {transaction : Nat} {lease : Lease α β} (held : finish.queue.leases.get? transaction = some lease) :
    start.queue.leases.get? transaction = some lease ∧ transaction ∉ transactions := by
  induction transactions generalizing start with
  | nil =>
    cases ran
    exact ⟨held, List.not_mem_nil⟩
  | cons first rest ih =>
    obtain ⟨next, stepped, ran⟩ := run_cons.mp ran
    cases stepped
    obtain ⟨still, notRest⟩ := ih ran
    obtain ⟨different, held⟩ := InsertionMap.get?_erase_eq_some still
    exact ⟨held, List.not_mem_cons_of_ne_of_not_mem different notRest⟩

/-- A process that dies takes its ticks and their transactions with it. -/
theorem Guarded.restarted (guarded : Guarded limit state) {index : Nat} {database : Drain.State α β}
    (ran : run (Drain.step handler limit) state.database
      ((state.ticks.filter fun tick => decide (tick.service = index)).map fun tick => .rollback tick.transaction) =
        some database) :
    Guarded limit { state with
      services := state.services.set index ⟨false, false⟩
      ticks := state.ticks.filter fun tick => decide (tick.service ≠ index)
      database } := by
  have less : (state.ticks.filter fun tick => decide (tick.service ≠ index)).Sublist state.ticks := List.filter_sublist
  refine ⟨?_, ?_, guarded.once.sublist (less.map _), fun tick member => guarded.used tick (less.subset member),
    guarded.distinct.sublist (less.map _), ?_, ?_⟩
  · intro position service found
    by_cases own : index = position
    · subst own
      rw [List.getElem?_set_self'] at found
      obtain ⟨_, _, rfl⟩ := Option.map_eq_some_iff.mp found
      simp
    · rw [List.getElem?_set_ne own] at found
      rw [guarded.flag position service found]
      constructor
      · intro member
        obtain ⟨tick, inFlight, rfl⟩ := List.mem_map.mp member
        exact List.mem_map_of_mem (List.mem_filter.mpr ⟨inFlight, decide_eq_true (Ne.symm own)⟩)
      · exact fun member => (less.map _).subset member
  · intro tick member
    rw [List.length_set]
    exact guarded.there tick (less.subset member)
  · intro transaction lease held
    have asMap : (state.ticks.filter fun tick => decide (tick.service = index)).map
        (fun tick => (.rollback tick.transaction : Drain.Action α)) =
          ((state.ticks.filter fun tick => decide (tick.service = index)).map Tick.transaction).map .rollback := by
      rw [List.map_map]
      rfl
    rw [asMap] at ran
    obtain ⟨before, notLost⟩ := rollbacks_open ran held
    obtain ⟨tick, inFlight, rfl⟩ := List.mem_map.mp (guarded.owned transaction lease before)
    refine List.mem_map_of_mem (List.mem_filter.mpr ⟨inFlight, decide_eq_true fun own => notLost ?_⟩)
    exact List.mem_map_of_mem (List.mem_filter.mpr ⟨inFlight, decide_eq_true own⟩)
  · exact run_invariant (fun state => Batched limit state.queue)
      (fun batched stepped => step_batched batched stepped) guarded.batched ran

theorem step_guarded {action : Action α} (guarded : Guarded limit state)
    (stepped : step handler limit state action = some after) : Guarded limit after := by
  cases action with
  | insert now data =>
    cases stepped
    exact { guarded with }
  | onModuleInit index =>
    simp only [step] at stepped
    split at stepped
    · rename_i running found
      cases stepped
      exact guarded.timed true found
    · cases stepped
  | interval index =>
    simp only [step] at stepped
    split at stepped
    · cases stepped; exact guarded
    · rename_i found
      cases stepped
      exact guarded.begun found
    · cases stepped
  | selectRows tick now =>
    refine guarded.transact ?_ stepped
    rintro worker now polled
    cases polled
    rfl
  | deliverRow tick outcome => exact guarded.transact (fun _ _ polled => by cases polled) stepped
  | fulfil tick =>
    obtain ⟨middle, transacted, rfl⟩ := Option.map_eq_some_iff.mp stepped
    have still := guarded.transact (fun _ _ polled => by cases polled) transacted
    obtain ⟨inFlight, database, committed, rfl⟩ := transact_eq_some transacted
    refine still.settled inFlight ?_
    obtain ⟨⟨queue, produced⟩, done, rfl⟩ := Option.map_eq_some_iff.mp committed
    obtain ⟨_, _, _, rfl⟩ := commit_eq_some done
    rw [InsertionMap.get?_erase, if_pos rfl]
  | reject tick =>
    obtain ⟨middle, transacted, rfl⟩ := Option.map_eq_some_iff.mp stepped
    have still := guarded.transact (fun _ _ polled => by cases polled) transacted
    obtain ⟨inFlight, database, rolledBack, rfl⟩ := transact_eq_some transacted
    refine still.settled inFlight ?_
    cases rolledBack
    rw [rollback, InsertionMap.get?_erase, if_pos rfl]
  | onModuleDestroy index =>
    simp only [step] at stepped
    split at stepped
    · rename_i timer running found
      cases stepped
      exact guarded.timed false found
    · cases stepped
  | restart index =>
    obtain ⟨database, ran, rfl⟩ := Option.map_eq_some_iff.mp stepped
    exact guarded.restarted ran

theorem run_guarded {count nextId : Nat} {rows : List (Row α)} {actions : List (Action α)}
    (ran : run (step handler limit) (booted count rows nextId) actions = some state) : Guarded limit state :=
  run_invariant (Guarded limit) (fun guarded stepped => step_guarded guarded stepped)
    (booted_guarded count rows nextId) ran

/-! ## What the processes do at once -/

/-- No more ticks are in flight than there are services. -/
theorem Guarded.ticks_le (guarded : Guarded limit state) : state.ticks.length ≤ state.services.length := by
  rw [← List.length_map Tick.service, ← List.length_range (n := state.services.length)]
  apply List.Subperm.length_le
  apply List.subperm_of_subset guarded.once
  intro index member
  obtain ⟨tick, inFlight, rfl⟩ := List.mem_map.mp member
  exact List.mem_range.mpr (guarded.there tick inFlight)

/-- Each tick holds one batch at most. -/
theorem Guarded.locked_le (guarded : Guarded limit state) (ids : (state.database.queue.rows.map Row.id).Nodup) :
    state.database.queue.rows.countP (fun row => state.database.queue.locked row.id) ≤
      limit * state.services.length := by
  have asIds : state.database.queue.rows.countP (fun row => state.database.queue.locked row.id) ≤
      state.database.queue.rows.countP fun row =>
        decide (row.id ∈ state.database.queue.leases.values.flatMap Lease.ids) := by
    refine List.countP_mono_left fun row _ locked => decide_eq_true ?_
    obtain ⟨transaction, lease, held, inside⟩ := locked_iff.mp locked
    exact List.mem_flatMap.mpr ⟨lease, InsertionMap.mem_values_iff.mpr ⟨transaction, held⟩, inside⟩
  have batches : (state.database.queue.leases.values.flatMap Lease.ids).length ≤
      state.database.queue.leases.values.length * limit := by
    rw [List.length_flatMap]
    refine (List.sum_le_card_nsmul _ limit ?_).trans (by simp)
    intro size member
    obtain ⟨lease, isValue, rfl⟩ := List.mem_map.mp member
    obtain ⟨transaction, held⟩ := InsertionMap.mem_values_iff.mp isValue
    exact guarded.batched transaction lease held
  have transactions : state.database.queue.leases.values.length ≤ state.ticks.length := by
    have sameLength : state.database.queue.leases.values.length = state.database.queue.leases.keys.length := by
      rw [InsertionMap.values, InsertionMap.keys, List.length_map, List.length_map]
    rw [sameLength, ← List.length_map Tick.transaction]
    apply List.Subperm.length_le
    apply List.subperm_of_subset state.database.queue.leases.nodup
    intro transaction member
    obtain ⟨lease, held⟩ := InsertionMap.mem_keys_iff.mp member
    exact guarded.owned transaction lease held
  calc _ ≤ _ := asIds
    _ ≤ (state.database.queue.leases.values.flatMap Lease.ids).length := countP_ids_le ids _
    _ ≤ state.database.queue.leases.values.length * limit := batches
    _ ≤ state.services.length * limit := Nat.mul_le_mul_right limit (transactions.trans guarded.ticks_le)
    _ = limit * state.services.length := Nat.mul_comm _ _

theorem step_services_length {action : Action α} (stepped : step handler limit state action = some after) :
    after.services.length = state.services.length := by
  cases action with
  | insert now data => cases stepped; rfl
  | onModuleInit index | onModuleDestroy index =>
    simp only [step] at stepped
    split at stepped
    · cases stepped; exact List.length_set
    · cases stepped
  | interval index =>
    simp only [step] at stepped
    split at stepped
    · cases stepped; rfl
    · cases stepped; exact List.length_set
    · cases stepped
  | selectRows tick now | deliverRow tick outcome =>
    obtain ⟨_, _, _, rfl⟩ := transact_eq_some stepped
    rfl
  | fulfil tick | reject tick =>
    obtain ⟨middle, transacted, rfl⟩ := Option.map_eq_some_iff.mp stepped
    obtain ⟨_, _, _, rfl⟩ := transact_eq_some transacted
    exact List.length_modify ..
  | restart index =>
    obtain ⟨_, _, rfl⟩ := Option.map_eq_some_iff.mp stepped
    exact List.length_set

/-- The timer of the service is cleared, or was never set. -/
def Stopped (index : Nat) (state : State α β) : Prop :=
  ∀ service, state.services[index]? = some service → service.timer = false

/-- A service without a timer begins no tick. -/
theorem step_stopped {action : Action α} {index : Nat} (stopped : Stopped index state)
    (left : action ≠ .onModuleInit index) (stepped : step handler limit state action = some after) :
    Stopped index after ∧ ∀ tick ∈ after.ticks, tick.service = index → tick ∈ state.ticks := by
  have other_set : ∀ {position : Nat} {service : Service}, position ≠ index →
      ∀ found, (state.services.set position service)[index]? = some found → found.timer = false := by
    intro position service different found isFound
    rw [List.getElem?_set_ne different] at isFound
    exact stopped found isFound
  have own_set : ∀ {position : Nat} {running : Bool} (found : Service),
      (state.services.set position ⟨false, running⟩)[index]? = some found → found.timer = false := by
    intro position running found isFound
    by_cases own : position = index
    · subst own
      rw [List.getElem?_set_self'] at isFound
      obtain ⟨_, _, rfl⟩ := Option.map_eq_some_iff.mp isFound
      rfl
    · exact other_set own found isFound
  have settled_stopped : ∀ {tick : Tick} {database : Drain.State α β} (found : Service),
      (({ state with database } : State α β).settled tick).services[index]? = some found → found.timer = false := by
    intro tick database found isFound
    simp only [State.settled, List.getElem?_modify, Option.map_eq_map, Option.map_eq_some_iff] at isFound
    obtain ⟨old, foundOld, rfl⟩ := isFound
    split
    · exact stopped old foundOld
    · exact stopped old foundOld
  cases action with
  | insert now data => cases stepped; exact ⟨stopped, fun _ inFlight _ => inFlight⟩
  | onModuleInit position =>
    simp only [step] at stepped
    split at stepped
    · cases stepped
      exact ⟨other_set fun own => left (own ▸ rfl), fun _ inFlight _ => inFlight⟩
    · cases stepped
  | interval position =>
    simp only [step] at stepped
    split at stepped
    · cases stepped; exact ⟨stopped, fun _ inFlight _ => inFlight⟩
    · rename_i found
      have different : position ≠ index := by
        rintro rfl
        exact nomatch stopped _ found
      cases stepped
      refine ⟨other_set different, fun tick inFlight own => ?_⟩
      refine (List.mem_append.mp inFlight).resolve_right fun new => different ?_
      rw [← own, List.mem_singleton.mp new]
    · cases stepped
  | selectRows tick now | deliverRow tick outcome =>
    obtain ⟨_, _, _, rfl⟩ := transact_eq_some stepped
    exact ⟨stopped, fun _ inFlight _ => inFlight⟩
  | fulfil tick | reject tick =>
    obtain ⟨middle, transacted, rfl⟩ := Option.map_eq_some_iff.mp stepped
    obtain ⟨_, _, _, rfl⟩ := transact_eq_some transacted
    exact ⟨settled_stopped, fun other inFlight _ => (List.mem_filter.mp inFlight).1⟩
  | onModuleDestroy position =>
    simp only [step] at stepped
    split at stepped
    · cases stepped
      exact ⟨own_set, fun _ inFlight _ => inFlight⟩
    · cases stepped
  | restart position =>
    obtain ⟨_, _, rfl⟩ := Option.map_eq_some_iff.mp stepped
    exact ⟨own_set, fun other inFlight _ => (List.mem_filter.mp inFlight).1⟩

theorem run_stopped {start : State α β} {actions : List (Action α)} {index : Nat} (stopped : Stopped index start)
    (left : ∀ action ∈ actions, action ≠ .onModuleInit index)
    (ran : run (step handler limit) start actions = some state) :
    ∀ tick ∈ state.ticks, tick.service = index → tick ∈ start.ticks := by
  refine (run_invariant_of_kind (fun action => action ≠ .onModuleInit index) (fun state => Stopped index state ∧
    ∀ tick ∈ state.ticks, tick.service = index → tick ∈ start.ticks) ?_ left
    ⟨stopped, fun _ inFlight _ => inFlight⟩ ran).2
  rintro before after action ⟨stopped, known⟩ left stepped
  obtain ⟨still, less⟩ := step_stopped stopped left stepped
  exact ⟨still, fun tick inFlight own => known tick (less tick inFlight own) own⟩

/-- **Relay processes take turns with themselves.** Whatever the order in which
timers go off, ticks advance, fail or commit and processes stop, die and start
anew: the flag of a service is up exactly while a tick of it is in flight, and
it has no second one; the processes lock one batch each at most; a service
whose timer is cleared begins no tick; and the database is one that replicas
without timers could have left. -/
theorem processes_take_turns {count nextId : Nat} {rows : List (Row α)} {actions : List (Action α)}
    (ids : (rows.map Row.id).Nodup) (fresh : ∀ row ∈ rows, row.id < nextId)
    (ran : run (step handler limit) (booted count rows nextId) actions = some state) :
    (∀ (index : Nat) service, state.services[index]? = some service →
        (service.running = true ↔ ∃ tick ∈ state.ticks, tick.service = index)) ∧
      (∀ one ∈ state.ticks, ∀ two ∈ state.ticks, one.service = two.service → one = two) ∧
      state.database.queue.rows.countP (fun row => state.database.queue.locked row.id) ≤ limit * count ∧
      (∀ index earlier later middle, actions = earlier ++ later →
        run (step handler limit) (booted count rows nextId) earlier = some middle → Stopped index middle →
          (∀ action ∈ later, action ≠ .onModuleInit index) →
            ∀ tick ∈ state.ticks, tick.service = index → tick ∈ middle.ticks) ∧
      ∃ drained, run (Drain.step handler limit) (started rows nextId) drained = some state.database := by
  have guarded := run_guarded ran
  obtain ⟨drained, ranDrained⟩ := run_database ran
  have services : state.services.length = count := by
    refine run_invariant (fun state => state.services.length = count) ?_ (by simp [booted]) ran
    exact fun same stepped => (step_services_length stepped).trans same
  have sound := run_invariant (fun state : Drain.State α β => Sound state.queue)
    (fun sound stepped => step_sound sound stepped) (started_sound ids fresh) ranDrained
  refine ⟨?_, ?_, services ▸ guarded.locked_le sound.ids, ?_, drained, ranDrained⟩
  · intro index service found
    rw [guarded.flag index service found, List.mem_map]
  · exact fun one inFlight two inFlight' same => List.inj_on_of_nodup_map guarded.once inFlight inFlight' same
  · rintro index earlier later middle rfl reached stopped left
    obtain ⟨middle', reached', rest⟩ := run_append.mp ran
    cases reached.symm.trans reached'
    exact run_stopped stopped left rest

private def tuned : Config := ⟨1, 10, 2000000, 300000000⟩

private def waitingEvent : OutboxEvent where
  eventType := "ingest.batch.persisted"
  aggregateId := "4"
  payload := ⟨"desert-basin", "c41d7f20-63be-4a95-8e17-2d0b9a5f6c38", 3, 3, "9.750000", 1709251201000, 1709251202000⟩

/-- Two processes tick beside each other; the timer of the first goes off again
while its tick is in flight. -/
private def twoProcesses : List (Action OutboxEvent) :=
  [.onModuleInit 0, .onModuleInit 1, .interval 0, .selectRows ⟨0, 0⟩ 0, .interval 0, .interval 1, .selectRows ⟨1, 1⟩ 0]

theorem two_processes_share_the_rows :
    ∃ state ∈ run (step (outboxHandler tuned) 1)
        (booted 2 [⟨1, waitingEvent, .fresh 0⟩, ⟨2, waitingEvent, .fresh 0⟩, ⟨3, waitingEvent, .fresh 0⟩] 4)
          twoProcesses,
      state.ticks = [⟨0, 0⟩, ⟨1, 1⟩] ∧
        state.database.queue.rows.countP (fun row => state.database.queue.locked row.id) ≤ 1 * 2 := by
  obtain ⟨state, ran, inFlight⟩ : ∃ state ∈ run (step (outboxHandler tuned) 1)
      (booted 2 [⟨1, waitingEvent, .fresh 0⟩, ⟨2, waitingEvent, .fresh 0⟩, ⟨3, waitingEvent, .fresh 0⟩] 4) twoProcesses,
      state.ticks = [⟨0, 0⟩, ⟨1, 1⟩] := by decide +kernel
  exact ⟨state, ran, inFlight, (processes_take_turns (by decide) (by decide) ran).2.2.1⟩

end EmissionsPlatform.RelayLoop
