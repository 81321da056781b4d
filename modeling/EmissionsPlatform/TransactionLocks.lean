import EmissionsPlatform.Foundation.LockOrder
import EmissionsPlatform.HandlerEffects

/-! Two transactions of `handle` at once, by the locks they take: a unique key
of `measurements` for every reading they insert, in the order of the message,
and then a row of `site_monthly_emissions` for every past month, in order. What
a transaction locks is its own until it ends.

The months are sorted and the keys are not. While both transactions last, each
follows a fixed sequence of requests, so `LockOrder` applies:
`deadlock_free_iff` says that two messages cannot deadlock exactly when they
meet at the same new reading first. -/
namespace EmissionsPlatform.TransactionLocks
open Contracts UniqueIndex EmissionPoints IngestHandler LockOrder Transition
set_option autoImplicit false

/-- What a transaction is given: its message, the site, the resolved emission
points, and the call that runs it. -/
structure Transaction where
  call : Call
  message : KafkaIngestMessage
  siteId : Nat
  timezone : String
  emissionPointMap : InsertionMap String Nat

inductive Lock
  /-- A key of `measurements_batch_point_time_unique`. -/
  | reading (key : Uuid × Nat × Int)
  /-- A row of `site_monthly_emissions`, by its primary key. -/
  | month (siteId : Nat) (month : YearMonth)
  deriving DecidableEq

/-- How far a transaction has come. -/
inductive Progress
  /-- The `INSERT` into `measurements`: the rows inserted, and those to come. -/
  | inserting (inserted rest : List Measurement)
  /-- The upserts of `markMonthsStale`: the months flagged, and those to come. -/
  | flagging (inserted : List Measurement) (flagged rest : List YearMonth)
  | ended
  deriving DecidableEq

structure State where
  /-- What is committed. -/
  db : Database
  progress : Sided Progress
  deriving DecidableEq

inductive Action
  /-- The next row of a transaction's current statement, or its next statement. -/
  | advance (side : Side)
  | commit (side : Side)
  /-- A statement fails, or the connection is lost. -/
  | rollback (side : Side)

/-- The rows the transaction proposes. -/
def proposed (runtime : Runtime) (transaction : Transaction) : Except Failure (List Measurement) := do
  transaction.call.attempt .beginTransaction
  let measurementRows ← transaction.message.measurements.mapM
    (measurementRow transaction.siteId transaction.emissionPointMap transaction.message.batchId)
  insertMeasurements runtime transaction.call measurementRows

/-- `nowYearMonth` of the call. -/
def nowYearMonth (runtime : Runtime) (transaction : Transaction) : YearMonth :=
  runtime.siteLocalYearMonth (instantOfMs transaction.call.now) transaction.timezone

/-- The months `markMonthsStale` upserts for the rows. -/
def monthsOf (runtime : Runtime) (transaction : Transaction) (inserted : List Measurement) : List YearMonth :=
  staleMonths runtime transaction.timezone (nowYearMonth runtime transaction) inserted

/-- A transaction as it begins; one whose values are refused takes no lock. -/
def Transaction.begin (runtime : Runtime) (transaction : Transaction) : Progress :=
  match proposed runtime transaction with
  | .ok rows => .inserting [] rows
  | .error _ => .ended

/-- The keys that are taken already: those committed, and the transaction's own. -/
def knownKeys (db : Database) (inserted : List Measurement) : List (Uuid × Nat × Int) :=
  (db.measurements.rows ++ inserted).map Measurement.key

/-- What the transaction holds. -/
def held (transaction : Transaction) : Progress → List Lock
  | .inserting inserted _ => inserted.map fun row => .reading row.key
  | .flagging inserted flagged _ =>
    (inserted.map fun row => .reading row.key) ++ flagged.map fun month => .month transaction.siteId month
  | .ended => []

/-- The lock that the next row needs, if it needs one: a reading that is stored
already is skipped. -/
def request (transaction : Transaction) (db : Database) : Progress → Option Lock
  | .inserting inserted (row :: _) =>
    if row.key ∈ knownKeys db inserted then none else some (.reading row.key)
  | .flagging _ _ (month :: _) => some (.month transaction.siteId month)
  | _ => none

/-- The transaction past its next row. -/
def advanced (runtime : Runtime) (transaction : Transaction) (db : Database) : Progress → Option Progress
  | .inserting inserted (row :: rest) =>
    some (.inserting (if row.key ∈ knownKeys db inserted then inserted else inserted ++ [row]) rest)
  | .inserting inserted [] => some (.flagging inserted [] (monthsOf runtime transaction inserted))
  | .flagging inserted flagged (month :: rest) => some (.flagging inserted (flagged ++ [month]) rest)
  | .flagging _ _ [] | .ended => none

/-- The next row needs a lock that the other transaction holds. -/
def Waits (transactions : Sided Transaction) (state : State) (side : Side) : Prop :=
  ∃ lock ∈ request (transactions.get side) state.db (state.progress.get side),
    lock ∈ held (transactions.get side.other) (state.progress.get side.other)

instance (transactions : Sided Transaction) (state : State) (side : Side) :
    Decidable (Waits transactions state side) :=
  inferInstanceAs (Decidable (∃ lock ∈ _, lock ∈ _))

/-- The transaction run on its own. -/
def Transaction.persist (runtime : Runtime) (transaction : Transaction) (db : Database) :
    Except Failure (Database × IngestResult) :=
  IngestHandler.persist runtime transaction.call transaction.message transaction.siteId transaction.timezone
    (nowYearMonth runtime transaction) transaction.emissionPointMap db

/-- The transaction as it is committed; one that cannot be is rolled back. -/
def commit (runtime : Runtime) (transaction : Transaction) (db : Database) : Database :=
  match transaction.persist runtime db with
  | .ok (after, _) => after
  | .error _ => db

def step (runtime : Runtime) (transactions : Sided Transaction) (state : State) : Action → Option State
  | .advance side =>
    if Waits transactions state side then none
    else
      (advanced runtime (transactions.get side) state.db (state.progress.get side)).map fun progress =>
        { state with progress := state.progress.set side progress }
  | .commit side =>
    match state.progress.get side with
    | .flagging _ _ [] =>
      some ⟨commit runtime (transactions.get side) state.db, state.progress.set side .ended⟩
    | _ => none
  | .rollback side => some { state with progress := state.progress.set side .ended }

/-- Both transactions begin on one database. -/
def begun (runtime : Runtime) (transactions : Sided Transaction) (db : Database) : State :=
  ⟨db, transactions.map (Transaction.begin runtime)⟩

/-- Each transaction waits for the other. -/
def Deadlocked (transactions : Sided Transaction) (state : State) : Prop := ∀ side, Waits transactions state side

instance (transactions : Sided Transaction) (state : State) : Decidable (Deadlocked transactions state) :=
  inferInstanceAs (Decidable (∀ side, Waits transactions state side))

def DeadlockFree (runtime : Runtime) (transactions : Sided Transaction) (db : Database) : Prop :=
  ∀ actions state, run (step runtime transactions) (begun runtime transactions db) actions = some state →
    ¬Deadlocked transactions state

/-- The keys of the message's readings, in its order, that are not stored. -/
def newKeys (runtime : Runtime) (db : Database) (transaction : Transaction) : List (Uuid × Nat × Int) :=
  match proposed runtime transaction with
  | .ok rows => (rows.map Measurement.key).filter fun key => key ∉ db.measurements.rows.map Measurement.key
  | .error _ => []

/-- The two messages share no new key, or the first they share is the same from
both sides. -/
def SameFirstKey (runtime : Runtime) (transactions : Sided Transaction) (db : Database) : Prop :=
  SameFirst (transactions.map (newKeys runtime db))

instance (runtime : Runtime) (transactions : Sided Transaction) (db : Database) :
    Decidable (SameFirstKey runtime transactions db) :=
  inferInstanceAs (Decidable (SameFirst _))

variable {runtime : Runtime} {transaction : Transaction} {transactions : Sided Transaction} {db : Database}
variable {state next : State} {progress progress' : Progress} {side : Side} {action : Action} {lock : Lock}

/-! ## The sequence of requests

While both transactions last nothing is committed, so what a transaction is
still to lock is known from where it stands. -/

/-- The locks a transaction is still to ask for. -/
def wanted (runtime : Runtime) (transaction : Transaction) (db : Database) : Progress → List Lock
  | .inserting inserted rest =>
    let created := admitted Measurement.key (knownKeys db inserted) rest
    (created.map fun row => .reading row.key) ++
      (monthsOf runtime transaction (inserted ++ created)).map fun month => .month transaction.siteId month
  | .flagging _ _ rest => rest.map fun month => .month transaction.siteId month
  | .ended => []

def party (runtime : Runtime) (transaction : Transaction) (db : Database) (progress : Progress) : Party Lock :=
  ⟨held transaction progress, wanted runtime transaction db progress⟩

def parties (runtime : Runtime) (transactions : Sided Transaction) (state : State) : Sided (Party Lock) :=
  ⟨party runtime transactions.left state.db state.progress.left,
    party runtime transactions.right state.db state.progress.right⟩

@[simp] theorem parties_get :
    (parties runtime transactions state).get side =
      party runtime (transactions.get side) state.db (state.progress.get side) := by
  cases side <;> rfl

theorem parties_set :
    parties runtime transactions { state with progress := state.progress.set side progress } =
      (parties runtime transactions state).set side (party runtime (transactions.get side) state.db progress) := by
  cases side <;> rfl

/-- An inserted row is known from then on. -/
theorem admitted_known {inserted rest : List Measurement} {row : Measurement} :
    admitted Measurement.key (row.key :: knownKeys db inserted) rest =
      admitted Measurement.key (knownKeys db (inserted ++ [row])) rest := by
  apply admitted_congr _
  intro other _
  simp only [knownKeys, List.map_append, List.map_cons, List.map_nil, List.mem_cons, List.mem_append,
    List.not_mem_nil, or_false]
  exact or_comm.trans or_assoc

/-- A row that needs no lock changes neither what is held nor what is wanted. -/
theorem party_of_no_request (none : request transaction db progress = none)
    (advance : advanced runtime transaction db progress = some progress') :
    party runtime transaction db progress' = party runtime transaction db progress := by
  unfold advanced at advance
  split at advance
  · rename_i inserted row rest
    cases advance
    have known : row.key ∈ knownKeys db inserted := by
      by_contra unknown
      simp [request, unknown] at none
    simp [party, held, wanted, known, admitted]
  · cases advance
    simp [party, held, wanted, admitted]
  · cases none
  · cases advance
  · cases advance

/-- A row that needs a lock has the next one wanted, and holds it afterwards. -/
theorem party_of_request (asked : request transaction db progress = some lock) :
    ∃ progress', advanced runtime transaction db progress = some progress' ∧
      held transaction progress' = held transaction progress ++ [lock] ∧
        wanted runtime transaction db progress = lock :: wanted runtime transaction db progress' := by
  unfold request at asked
  split at asked
  · rename_i inserted row rest
    split at asked
    · cases asked
    · rename_i unknown
      cases asked
      refine ⟨_, rfl, ?_, ?_⟩
      · simp [unknown, held]
      · simp only [wanted, unknown, ↓reduceIte, admitted, admitted_known, List.map_cons, List.cons_append,
          List.append_assoc, List.nil_append]
  · rename_i inserted flagged month rest
    cases asked
    exact ⟨_, rfl, by simp [held], rfl⟩
  · cases asked

theorem held_begin (runtime : Runtime) (transaction : Transaction) :
    held transaction (transaction.begin runtime) = [] := by
  unfold Transaction.begin
  split <;> rfl

/-- All the locks of a transaction, in the order it asks for them. -/
def requests (runtime : Runtime) (transactions : Sided Transaction) (db : Database) : Sided (List Lock) :=
  transactions.map fun transaction => wanted runtime transaction db (transaction.begin runtime)

theorem parties_begun : parties runtime transactions (begun runtime transactions db) =
    started (requests runtime transactions db) := by
  simp [parties, party, begun, started, requests, Sided.map, held_begin]

/-! ## Transactions follow their sequences -/

theorem step_advance :
    step runtime transactions state (.advance side) = some next ↔
      ¬Waits transactions state side ∧ ∃ progress,
        advanced runtime (transactions.get side) state.db (state.progress.get side) = some progress ∧
          next = { state with progress := state.progress.set side progress } := by
  simp only [step]
  rw [Option.ite_none_left_eq_some, Option.map_eq_some_iff]
  simp [eq_comm]

/-- While both last, a step takes the next request or changes no lock. -/
theorem step_follows (stepped : step runtime transactions state action = some next) :
    (∃ side, next.progress.get side = .ended) ∨ next.db = state.db ∧
      (parties runtime transactions next = parties runtime transactions state ∨
        ∃ side, acquire (parties runtime transactions state) side = some (parties runtime transactions next)) := by
  cases action with
  | rollback side =>
    cases stepped
    exact Or.inl ⟨side, Sided.get_set_same⟩
  | commit side =>
    simp only [step] at stepped
    split at stepped
    · cases stepped
      exact Or.inl ⟨side, Sided.get_set_same⟩
    · cases stepped
  | advance side =>
    obtain ⟨free, progress, advance, rfl⟩ := step_advance.mp stepped
    refine Or.inr ⟨rfl, ?_⟩
    rw [parties_set]
    cases asked : request (transactions.get side) state.db (state.progress.get side) with
    | none =>
      apply Or.inl
      rw [party_of_no_request asked advance, ← parties_get, Sided.set_get]
    | some lock =>
      obtain ⟨progress', advance', holds, wants⟩ := party_of_request asked
      cases advance.symm.trans advance'
      refine Or.inr ⟨side, acquire_eq_some.mpr
        ⟨lock, wanted runtime (transactions.get side) state.db progress, ?_, ?_, ?_⟩⟩
      · simpa [party] using wants
      · intro taken
        exact free ⟨lock, asked, by simpa [party] using taken⟩
      · rw [parties_get, party, holds]
        rfl

theorem step_ended (stepped : step runtime transactions state action = some next)
    (ended : ∃ side, state.progress.get side = .ended) : ∃ side, next.progress.get side = .ended := by
  obtain ⟨side, ended⟩ := ended
  have kept : ∀ {side'} {progress : Progress}, (side' = side → progress = .ended) →
      (state.progress.set side' progress).get side = .ended := by
    intro side' progress same
    rcases side'.eq_or_eq_other side with rfl | rfl
    · rw [Sided.get_set_same, same rfl]
    · rw [Sided.get_other_set, ended]
  cases action with
  | rollback side' =>
    cases stepped
    exact ⟨side, kept fun _ => rfl⟩
  | commit side' =>
    simp only [step] at stepped
    split at stepped
    · cases stepped
      exact ⟨side, kept fun _ => rfl⟩
    · cases stepped
  | advance side' =>
    obtain ⟨_, progress, advance, rfl⟩ := step_advance.mp stepped
    refine ⟨side, kept fun same => ?_⟩
    rw [same, ended] at advance
    cases advance

/-- The simulation: in every state either one transaction has ended, or both
stand where their sequences of requests have brought them. -/
theorem run_follows {actions : List Action}
    (ran : run (step runtime transactions) (begun runtime transactions db) actions = some state) :
    (∃ side, state.progress.get side = .ended) ∨ state.db = db ∧ ∃ sides,
      run acquire (started (requests runtime transactions db)) sides = some (parties runtime transactions state) := by
  refine run_invariant (fun state => (∃ side, state.progress.get side = .ended) ∨ state.db = db ∧ ∃ sides,
    run acquire (started (requests runtime transactions db)) sides = some (parties runtime transactions state))
    ?_ (Or.inr ⟨rfl, [], congrArg some parties_begun.symm⟩) ran
  intro before after action follows stepped
  rcases follows with ended | ⟨same, sides, reached⟩
  · exact Or.inl (step_ended stepped ended)
  · rcases step_follows stepped with ended | ⟨unchanged, sameLocks | ⟨side, acquired⟩⟩
    · exact Or.inl ended
    · exact Or.inr ⟨unchanged.trans same, sides, sameLocks ▸ reached⟩
    · exact Or.inr ⟨unchanged.trans same, sides ++ [side], run_concat.mpr ⟨_, reached, acquired⟩⟩

theorem not_waits_ended (ended : state.progress.get side = .ended) : ¬Waits transactions state side := by
  rintro ⟨lock, asked, -⟩
  rw [ended] at asked
  cases asked

theorem waits_parties (waits : Waits transactions state side) :
    LockOrder.Waits (parties runtime transactions state) side := by
  obtain ⟨lock, asked, taken⟩ := waits
  obtain ⟨progress, -, -, wants⟩ := @party_of_request runtime _ _ _ _ asked
  exact ⟨lock, by simp [party, wants], by simpa [party] using taken⟩

/-! ## Any order of the requests can come about -/

/-- One transaction can go on to the row that needs the lock, with no other lock
taken on the way. -/
def ReachesRequest (runtime : Runtime) (transactions : Sided Transaction) (state : State) (side : Side)
    (lock : Lock) : Prop :=
  ∃ actions progress,
    run (step runtime transactions) state actions = some { state with progress := state.progress.set side progress } ∧
      request (transactions.get side) state.db progress = some lock ∧
        party runtime (transactions.get side) state.db progress =
          party runtime (transactions.get side) state.db (state.progress.get side)

theorem reachesRequest_here (asked : request (transactions.get side) state.db (state.progress.get side) = some lock) :
    ReachesRequest runtime transactions state side lock :=
  ⟨[], state.progress.get side, by simp [run], asked, rfl⟩

theorem reachesRequest_later (none : request (transactions.get side) state.db (state.progress.get side) = none)
    (advance : advanced runtime (transactions.get side) state.db (state.progress.get side) = some progress)
    (later : ReachesRequest runtime transactions
      { state with progress := state.progress.set side progress } side lock) :
    ReachesRequest runtime transactions state side lock := by
  obtain ⟨actions, progress', ran, asked, same⟩ := later
  have free : ¬Waits transactions state side := by
    rintro ⟨blocked, asked, -⟩
    rw [none] at asked
    cases asked
  refine ⟨.advance side :: actions, progress', ?_, asked, ?_⟩
  · refine run_cons.mpr ⟨_, step_advance.mpr ⟨free, progress, advance, rfl⟩, ?_⟩
    rw [ran, Sided.set_set]
  · rw [same, Sided.get_set_same]
    exact party_of_no_request none advance

theorem reachesRequest_of_inserting {inserted rows : List Measurement} {rest : List Lock}
    (stands : state.progress.get side = .inserting inserted rows)
    (wants : wanted runtime (transactions.get side) state.db (state.progress.get side) = lock :: rest) :
    ReachesRequest runtime transactions state side lock := by
  induction rows generalizing state with
  | nil =>
    refine reachesRequest_later (by rw [stands]; rfl) (by rw [stands]; rfl) (reachesRequest_here ?_)
    rw [stands] at wants
    simp only [wanted, admitted, List.map_nil, List.append_nil, List.nil_append] at wants
    obtain ⟨month, months, split, rfl, -⟩ := List.map_eq_cons_iff.mp wants
    simp [split, request]
  | cons row rows ih =>
    by_cases known : row.key ∈ knownKeys state.db inserted
    · have none : request (transactions.get side) state.db (state.progress.get side) = none := by
        simp [stands, request, known]
      have advance : advanced runtime (transactions.get side) state.db (state.progress.get side) =
          some (.inserting inserted rows) := by simp [stands, advanced, known]
      refine reachesRequest_later none advance (ih Sided.get_set_same ?_)
      have same := congrArg Party.wanted (party_of_no_request none advance)
      rw [Sided.get_set_same]
      exact same.trans wants
    · have asked : request (transactions.get side) state.db (state.progress.get side) = some (.reading row.key) := by
        simp [stands, request, known]
      obtain ⟨_, _, _, wants'⟩ := @party_of_request runtime _ _ _ _ asked
      cases wants.symm.trans wants'
      exact reachesRequest_here asked

/-- A transaction that is to take a lock gets to the row that needs it. -/
theorem reachesRequest_of_wanted {rest : List Lock}
    (wants : wanted runtime (transactions.get side) state.db (state.progress.get side) = lock :: rest) :
    ReachesRequest runtime transactions state side lock := by
  cases stands : state.progress.get side with
  | inserting inserted rows => exact reachesRequest_of_inserting stands wants
  | flagging inserted flagged months =>
    cases months with
    | nil => simp [stands, wanted] at wants
    | cons month months =>
      simp only [stands, wanted, List.map_cons, List.cons.injEq] at wants
      exact reachesRequest_here (by simp [stands, request, wants.1])
  | ended => simp [stands, wanted] at wants

theorem reaches_acquired {locks : Sided (Party Lock)}
    (acquired : acquire (parties runtime transactions state) side = some locks) :
    ∃ actions next, run (step runtime transactions) state actions = some next ∧
      parties runtime transactions next = locks := by
  obtain ⟨lock, rest, wants, free, rfl⟩ := acquire_eq_some.mp acquired
  rw [parties_get] at wants
  obtain ⟨actions, progress, ran, asked, same⟩ := reachesRequest_of_wanted wants
  obtain ⟨progress', advance, holds, wants'⟩ := @party_of_request runtime _ _ _ _ asked
  refine ⟨actions ++ [.advance side], { state with progress := state.progress.set side progress' },
    run_concat.mpr ⟨_, ran, step_advance.mpr ⟨?_, progress', ?_, ?_⟩⟩, ?_⟩
  · rintro ⟨blocked, asked', taken⟩
    simp only [Sided.get_set_same, Sided.get_set_other] at asked' taken
    cases asked.symm.trans asked'
    exact free (by simpa [party] using taken)
  · rw [Sided.get_set_same]
    exact advance
  · rw [Sided.set_set]
  · have heldSame : held (transactions.get side) progress = held (transactions.get side) (state.progress.get side) :=
      congrArg Party.held same
    have wantedSame : lock :: rest = lock :: wanted runtime (transactions.get side) state.db progress' :=
      wants.symm.trans ((congrArg Party.wanted same).symm.trans wants')
    rw [parties_set, parties_get, party, holds, heldSame, ← (List.cons.inj wantedSame).2]
    rfl

theorem reaches_all {sides : List Side} {locks : Sided (Party Lock)}
    (ran : run acquire (parties runtime transactions state) sides = some locks) :
    ∃ actions next, run (step runtime transactions) state actions = some next ∧
      parties runtime transactions next = locks := by
  induction sides generalizing state with
  | nil =>
    cases ran
    exact ⟨[], state, rfl, rfl⟩
  | cons side sides ih =>
    obtain ⟨middle, acquired, ran⟩ := run_cons.mp ran
    obtain ⟨actions, next, reached, rfl⟩ := reaches_acquired acquired
    obtain ⟨later, final, finished, same⟩ := ih ran
    exact ⟨actions ++ later, final, run_append.mpr ⟨next, reached, finished⟩, same⟩

/-- Where the sequences deadlock, so do the transactions. -/
theorem reaches_deadlock (deadlocked : LockOrder.Deadlocked (parties runtime transactions state)) :
    ∃ actions next, run (step runtime transactions) state actions = some next ∧ Deadlocked transactions next := by
  have request_of_waits : ∀ {state : State} {side : Side}, LockOrder.Waits (parties runtime transactions state) side →
      ∃ lock, ReachesRequest runtime transactions state side lock ∧
        lock ∈ held (transactions.get side.other) (state.progress.get side.other) := by
    intro state side waits
    obtain ⟨lock, asked, taken⟩ := waits
    rw [parties_get] at asked taken
    obtain ⟨rest, wants⟩ := List.head?_eq_some_iff.mp asked
    exact ⟨lock, reachesRequest_of_wanted wants, taken⟩
  obtain ⟨lock, ⟨actions, progress, ran, asked, same⟩, taken⟩ := request_of_waits (deadlocked .left)
  have sameLocks : parties runtime transactions { state with progress := state.progress.set .left progress } =
      parties runtime transactions state := by
    rw [parties_set, same, ← parties_get, Sided.set_get]
  obtain ⟨lock', ⟨actions', progress', ran', asked', same'⟩, taken'⟩ :=
    request_of_waits (sameLocks ▸ deadlocked .right)
  refine ⟨actions ++ actions', _, run_append.mpr ⟨_, ran, ran'⟩, fun side => ?_⟩
  cases side with
  | left =>
    have kept : held (transactions.get .right) progress' = held (transactions.get .right) (state.progress.get .right) :=
      congrArg Party.held same'
    refine ⟨lock, asked, ?_⟩
    change lock ∈ held (transactions.get .right) progress'
    rw [kept]
    exact taken
  | right => exact ⟨lock', asked', taken'⟩

/-! ## Which messages can deadlock -/

theorem deadlockFree_iff_sameFirst :
    DeadlockFree runtime transactions db ↔ SameFirst (requests runtime transactions db) := by
  rw [← not_iff_not, ← deadlock_iff]
  constructor
  · intro stuck
    by_contra none
    refine stuck fun actions state ran deadlocked => none ?_
    rcases run_follows ran with ⟨side, ended⟩ | ⟨_, sides, reached⟩
    · exact absurd (deadlocked side) (not_waits_ended ended)
    · exact ⟨sides, _, reached, fun side => waits_parties (deadlocked side)⟩
  · rintro ⟨sides, locks, ran, deadlocked⟩ free
    rw [← parties_begun] at ran
    obtain ⟨actions, state, reached, rfl⟩ := reaches_all ran
    obtain ⟨later, final, finished, stuck⟩ := reaches_deadlock deadlocked
    exact free _ _ (run_append.mpr ⟨state, reached, finished⟩) stuck

/-- The new keys of a message, each once. -/
def createdKeys (runtime : Runtime) (db : Database) (transaction : Transaction) : List (Uuid × Nat × Int) :=
  match proposed runtime transaction with
  | .ok rows => (db.measurements.created rows).map Measurement.key
  | .error _ => []

theorem mem_createdKeys {key : Uuid × Nat × Int} :
    key ∈ createdKeys runtime db transaction ↔ key ∈ newKeys runtime db transaction := by
  unfold createdKeys newKeys
  split
  · rw [Table.created, mem_admitted_keys, List.mem_filter, decide_eq_true_eq]
  · rfl

theorem firstShared_createdKeys {other : Transaction} :
    firstShared (createdKeys runtime db transaction) (createdKeys runtime db other) =
      firstShared (newKeys runtime db transaction) (newKeys runtime db other) := by
  rw [firstShared_congr fun _ _ => mem_createdKeys]
  generalize newKeys runtime db other = otherKeys
  unfold createdKeys newKeys
  split
  · rw [firstShared, firstShared, List.find?_filter]
    refine (find?_admitted _).trans (List.find?_congr fun key _ => ?_)
    simp only [Bool.decide_and, Bool.decide_eq_true]
    congr
  · rfl

theorem monthsOf_sorted (runtime : Runtime) (transaction : Transaction) (inserted : List Measurement) :
    (monthsOf runtime transaction inserted).Pairwise (· ≤ ·) :=
  List.pairwise_insertionSort _ _

/-- A transaction asks for its new keys, and then for rows of its own site in
chronological order. -/
theorem requests_get : ∃ months : List YearMonth, months.Pairwise (· ≤ ·) ∧
    (requests runtime transactions db).get side =
      (createdKeys runtime db (transactions.get side)).map Lock.reading ++
        months.map (Lock.month (transactions.get side).siteId) := by
  simp only [requests, Sided.get_map]
  generalize transactions.get side = transaction
  unfold createdKeys Transaction.begin
  cases proposed runtime transaction with
  | error failure => exact ⟨[], .nil, rfl⟩
  | ok rows =>
    refine ⟨_, monthsOf_sorted runtime transaction (db.measurements.created rows), ?_⟩
    simp [wanted, knownKeys, Table.created, Function.comp_def]

theorem firstShared_months {siteId siteId' : Nat} {months months' : List YearMonth}
    (sorted : months.Pairwise (· ≤ ·)) (sorted' : months'.Pairwise (· ≤ ·)) :
    firstShared (months.map (Lock.month siteId)) (months'.map (Lock.month siteId')) =
      firstShared (months'.map (Lock.month siteId')) (months.map (Lock.month siteId)) := by
  by_cases same : siteId = siteId'
  · subst same
    have injective : Function.Injective (Lock.month siteId) := fun month month' same => (Lock.month.inj same).2
    rw [firstShared_map injective, firstShared_map injective, firstShared_comm_of_sorted sorted sorted']
  · have none : firstShared (months.map (Lock.month siteId)) (months'.map (Lock.month siteId')) = none := by
      apply firstShared_eq_none.mpr
      intro lock ours theirs
      obtain ⟨month, _, rfl⟩ := List.mem_map.mp ours
      obtain ⟨month', _, site⟩ := List.mem_map.mp theirs
      exact same (Lock.month.inj site).1.symm
    rw [none, firstShared_eq_none_comm.mp none]

/-- **Which transactions cannot deadlock.** The month rows never matter; two
messages that share new readings must meet at the same one first. -/
theorem deadlock_free_iff (runtime : Runtime) (transactions : Sided Transaction) (db : Database) :
    DeadlockFree runtime transactions db ↔ SameFirstKey runtime transactions db := by
  obtain ⟨months, sorted, left⟩ := @requests_get runtime transactions db .left
  obtain ⟨months', sorted', right⟩ := @requests_get runtime transactions db .right
  have apart : ∀ (keys : List (Uuid × Nat × Int)) (siteId : Nat) (months : List YearMonth),
      ∀ lock ∈ keys.map Lock.reading, lock ∉ months.map (Lock.month siteId) := by
    intro keys siteId months lock reading month
    obtain ⟨key, _, rfl⟩ := List.mem_map.mp reading
    simp at month
  have readings : Function.Injective Lock.reading := fun key key' same => Lock.reading.inj same
  rw [deadlockFree_iff_sameFirst, SameFirst]
  simp only [Sided.get] at left right
  rw [left, right, firstShared_append_comm_iff (apart _ _ _) (apart _ _ _) (firstShared_months sorted sorted'),
    firstShared_map readings, firstShared_map readings, (Option.map_injective readings).eq_iff,
    firstShared_createdKeys, firstShared_createdKeys]
  rfl

/-! ## Messages that share no reading -/

theorem proposed_eq_ok {rows : List Measurement} (proposes : proposed runtime transaction = .ok rows) :
    List.Forall₂ (StoredAs runtime transaction.siteId transaction.emissionPointMap transaction.message.batchId)
      transaction.message.measurements rows := by
  obtain ⟨_, _, proposes⟩ := Fallible.bind_eq_ok.mp proposes
  obtain ⟨built, each, proposes⟩ := Fallible.bind_eq_ok.mp proposes
  obtain ⟨_, _, proposes⟩ := Fallible.bind_eq_ok.mp proposes
  refine storedRows_iff.mpr ⟨built, each, ?_⟩
  split at proposes
  · cases proposes
  · exact proposes

/-- A new key carries the message's batch and one of its emission points. -/
theorem newKeys_of {key : Uuid × Nat × Int} (member : key ∈ newKeys runtime db transaction) :
    Uuid.ofText transaction.message.batchId = some key.1 ∧
      ∃ code, transaction.emissionPointMap.get? code = some key.2.1 := by
  unfold newKeys at member
  split at member
  · rename_i rows proposes
    obtain ⟨row, known, rfl⟩ := List.mem_map.mp (List.mem_filter.mp member).1
    obtain ⟨m, _, storedAs⟩ := Fallible.exists_left (proposed_eq_ok proposes) known
    exact ⟨storedAs.batch, m.emissionPoint, storedAs.point⟩
  · cases member

theorem deadlockFree_of_apart
    (apart : ∀ key ∈ newKeys runtime db transactions.left, key ∉ newKeys runtime db transactions.right) :
    DeadlockFree runtime transactions db := by
  have none := firstShared_eq_none.mpr apart
  exact (deadlock_free_iff runtime transactions db).mpr (none.trans (firstShared_eq_none_comm.mp none).symm)

/-- Messages of two batches do not deadlock. -/
theorem deadlockFree_of_batches
    (different : Uuid.ofText transactions.left.message.batchId ≠ Uuid.ofText transactions.right.message.batchId) :
    DeadlockFree runtime transactions db :=
  deadlockFree_of_apart fun _ left right => different ((newKeys_of left).1.trans (newKeys_of right).1.symm)

/-- Nor do messages to two sites, whose emission points differ. -/
theorem deadlockFree_of_sites (sequenced : Sequenced db.siteEmissionPoints db.nextEmissionPointId)
    (sound : ResultSound db.siteEmissionPoints transactions.left.siteId transactions.left.emissionPointMap)
    (sound' : ResultSound db.siteEmissionPoints transactions.right.siteId transactions.right.emissionPointMap)
    (different : transactions.left.siteId ≠ transactions.right.siteId) : DeadlockFree runtime transactions db := by
  refine deadlockFree_of_apart fun key left right => different ?_
  obtain ⟨_, code, found⟩ := newKeys_of left
  obtain ⟨_, code', found'⟩ := newKeys_of right
  have same := List.inj_on_of_nodup_map sequenced.ids (sound _ _ found) (sound' _ _ found') rfl
  exact (EmissionPoint.mk.inj same).2.1

/-! ## What a transaction commits -/

/-- What a transaction has inserted and what is still new to it make up what one
insert of all its rows would create. -/
def Standing (runtime : Runtime) (transaction : Transaction) (db : Database) : Progress → Prop
  | .inserting inserted rest => ∃ rows, proposed runtime transaction = .ok rows ∧
    inserted ++ admitted Measurement.key (knownKeys db inserted) rest = db.measurements.created rows
  | .flagging inserted flagged rest => ∃ rows, proposed runtime transaction = .ok rows ∧
    inserted = db.measurements.created rows ∧ flagged ++ rest = monthsOf runtime transaction inserted
  | .ended => True

/-- Each transaction stands among its rows, and no lock is held by both. -/
structure Serial (runtime : Runtime) (transactions : Sided Transaction) (state : State) : Prop where
  standing : ∀ side, Standing runtime (transactions.get side) state.db (state.progress.get side)
  exclusive : ∀ side, ∀ lock ∈ held (transactions.get side) (state.progress.get side),
    lock ∉ held (transactions.get side.other) (state.progress.get side.other)

theorem standing_begin (runtime : Runtime) (transaction : Transaction) (db : Database) :
    Standing runtime transaction db (transaction.begin runtime) := by
  unfold Transaction.begin
  split
  · rename_i rows proposes
    exact ⟨rows, proposes, by simp [knownKeys, Table.created]⟩
  · trivial

theorem standing_advanced (stands : Standing runtime transaction db progress)
    (advance : advanced runtime transaction db progress = some progress') :
    Standing runtime transaction db progress' := by
  unfold advanced at advance
  split at advance
  · rename_i inserted row rest
    cases advance
    obtain ⟨rows, proposes, created⟩ := stands
    refine ⟨rows, proposes, ?_⟩
    by_cases known : row.key ∈ knownKeys db inserted
    · simpa [known, admitted] using created
    · rw [← created, if_neg known, admitted, if_neg known, admitted_known]
      simp
  · rename_i inserted
    cases advance
    obtain ⟨rows, proposes, created⟩ := stands
    exact ⟨rows, proposes, by simpa [admitted] using created, rfl⟩
  · cases advance
    obtain ⟨rows, proposes, created, months⟩ := stands
    exact ⟨rows, proposes, created, by simpa using months⟩
  · cases advance
  · cases advance

/-- A transaction stands where it stood when others commit rows whose keys it
does not hold. -/
theorem Standing.committed {after : Database} {more : List Measurement}
    (stands : Standing runtime transaction db progress)
    (added : after.measurements.rows = db.measurements.rows ++ more)
    (apart : ∀ lock ∈ held transaction progress, lock ∉ more.map fun row => Lock.reading row.key) :
    Standing runtime transaction after progress := by
  obtain ⟨fresh, less, isFresh⟩ : ∃ fresh : Measurement → Bool,
      (∀ known rows, admitted Measurement.key (known ++ more.map Measurement.key) rows =
        (admitted Measurement.key known rows).filter fresh) ∧
          ∀ row, fresh row = true ↔ row.key ∉ more.map Measurement.key :=
    ⟨_, fun _ _ => admitted_append_held _, fun _ => by simp⟩
  have created : ∀ rows, after.measurements.created rows = (db.measurements.created rows).filter fresh := by
    intro rows
    rw [Table.created, added, List.map_append, less]
    rfl
  have own : ∀ {inserted : List Measurement},
      (inserted.map fun row => Lock.reading row.key) ⊆ held transaction progress →
        inserted.filter fresh = inserted := by
    intro inserted holds
    refine List.filter_eq_self.mpr fun row member => (isFresh row).mpr fun taken => ?_
    obtain ⟨other, known, same⟩ := List.mem_map.mp taken
    exact apart _ (holds (List.mem_map_of_mem member)) (List.mem_map.mpr ⟨other, known, congrArg _ same⟩)
  cases progress with
  | inserting inserted rest =>
    obtain ⟨rows, proposes, whole⟩ := stands
    have knows : admitted Measurement.key (knownKeys after inserted) rest =
        admitted Measurement.key (knownKeys db inserted ++ more.map Measurement.key) rest := by
      apply admitted_congr _
      intro row _
      simp only [knownKeys, added, List.map_append, List.mem_append]
      exact or_right_comm
    refine ⟨rows, proposes, ?_⟩
    rw [created, ← whole, List.filter_append, own (List.Subset.refl _), knows, less]
  | flagging inserted flagged rest =>
    obtain ⟨rows, proposes, whole, months⟩ := stands
    refine ⟨rows, proposes, ?_, months⟩
    rw [created, ← whole, own (List.subset_append_left _ _)]
  | ended => trivial

theorem storedRows_unique {rows rows' : List Measurement} {ms : List MeasurementInput} {siteId : Nat}
    {emissionPointMap : InsertionMap String Nat} {batchId : String}
    (stored : List.Forall₂ (StoredAs runtime siteId emissionPointMap batchId) ms rows)
    (stored' : List.Forall₂ (StoredAs runtime siteId emissionPointMap batchId) ms rows') : rows = rows' := by
  obtain ⟨built, each, taken⟩ := storedRows_iff.mp stored
  obtain ⟨built', each', taken'⟩ := storedRows_iff.mp stored'
  cases each.symm.trans each'
  exact Except.ok.inj (taken.symm.trans taken')

theorem proposed_of_persist {after : Database} {result : IngestResult}
    (done : transaction.persist runtime db = .ok (after, result)) :
    ∃ rows, proposed runtime transaction = .ok rows := by
  obtain ⟨_, attempted, done⟩ := Fallible.bind_eq_ok.mp done
  obtain ⟨built, each, done⟩ := Fallible.bind_eq_ok.mp done
  obtain ⟨rows, inserted, _⟩ := Fallible.bind_eq_ok.mp done
  exact ⟨rows, Fallible.bind_eq_ok.mpr ⟨(), attempted, Fallible.bind_eq_ok.mpr ⟨built, each, inserted⟩⟩⟩

/-- The rows a transaction has inserted and the months it has flagged are the
ones its commit stores. -/
theorem Standing.persists {inserted : List Measurement} {flagged : List YearMonth} {after : Database}
    {result : IngestResult} (stands : Standing runtime transaction db (.flagging inserted flagged []))
    (done : transaction.persist runtime db = .ok (after, result)) :
    after.measurements.rows = db.measurements.rows ++ inserted ∧
      after.siteMonthlyEmissions = flagged.foldl (flagStale transaction.siteId) db.siteMonthlyEmissions := by
  obtain ⟨rows, proposes, whole, months⟩ := stands
  obtain ⟨rows', increments, commits, rfl, rfl⟩ := persist_eq_ok done
  cases storedRows_unique (proposed_eq_ok proposes) commits.stored
  rw [List.append_nil] at months
  rw [months, whole]
  exact ⟨rfl, rfl⟩

theorem Serial.set (serial : Serial runtime transactions state)
    (standing : Standing runtime (transactions.get side) state.db progress)
    (apart : ∀ lock ∈ held (transactions.get side) progress,
      lock ∉ held (transactions.get side.other) (state.progress.get side.other)) :
    Serial runtime transactions { state with progress := state.progress.set side progress } := by
  refine ⟨fun side' => ?_, fun side' => ?_⟩
  · rcases side'.eq_or_eq_other side with rfl | rfl
    · simpa using standing
    · simpa using serial.standing side.other
  · rcases side'.eq_or_eq_other side with rfl | rfl
    · simpa using apart
    · simp only [Sided.get_set_other, Side.other_other, Sided.get_set_same]
      exact fun lock taken own => apart lock own taken

/-- The step lemma. -/
theorem step_serial (serial : Serial runtime transactions state)
    (stepped : step runtime transactions state action = some next) : Serial runtime transactions next := by
  cases action with
  | rollback side =>
    cases stepped
    exact serial.set trivial fun _ taken => nomatch taken
  | advance side =>
    obtain ⟨free, progress, advance, rfl⟩ := step_advance.mp stepped
    apply serial.set (standing_advanced (serial.standing side) advance)
    intro lock taken taken'
    cases asked : request (transactions.get side) state.db (state.progress.get side) with
    | none =>
      have same : held (transactions.get side) progress = held (transactions.get side) (state.progress.get side) :=
        congrArg Party.held (party_of_no_request asked advance)
      exact serial.exclusive side lock (same ▸ taken) taken'
    | some asked' =>
      obtain ⟨progress', advance', holds, -⟩ := party_of_request asked
      cases advance.symm.trans advance'
      rw [holds, List.mem_append, List.mem_singleton] at taken
      rcases taken with old | rfl
      · exact serial.exclusive side lock old taken'
      · exact free ⟨lock, asked, taken'⟩
  | commit side =>
    simp only [step] at stepped
    split at stepped
    · rename_i inserted flagged ready
      cases stepped
      have stands := serial.standing side
      have apart := serial.exclusive side.other
      rw [Side.other_other, ready] at apart
      rw [ready] at stands
      have kept : Standing runtime (transactions.get side.other) (commit runtime (transactions.get side) state.db)
          (state.progress.get side.other) := by
        unfold commit
        split
        · rename_i done
          exact (serial.standing side.other).committed (stands.persists done).1
            fun lock own taken => apart lock own (List.mem_append_left _ taken)
        · exact serial.standing side.other
      refine ⟨fun side' => ?_, fun side' lock taken taken' => ?_⟩
      · rcases side'.eq_or_eq_other side with rfl | rfl
        · simp [Standing]
        · simpa using kept
      · rcases side'.eq_or_eq_other side with rfl | rfl
        · simp [held] at taken
        · simp [held] at taken'
    · cases stepped

/-- **What a transaction commits is what it has locked**, whatever the other one
does meanwhile. -/
theorem commit_stores_held {actions : List Action} {inserted : List Measurement} {flagged : List YearMonth}
    {after : Database} {result : IngestResult}
    (ran : run (step runtime transactions) (begun runtime transactions db) actions = some state)
    (ready : state.progress.get side = .flagging inserted flagged [])
    (done : (transactions.get side).persist runtime state.db = .ok (after, result)) :
    after.measurements.rows = state.db.measurements.rows ++ inserted ∧ after.siteMonthlyEmissions =
      flagged.foldl (flagStale (transactions.get side).siteId) state.db.siteMonthlyEmissions := by
  have begins : Serial runtime transactions (begun runtime transactions db) := by
    refine ⟨fun side => ?_, fun side lock taken => ?_⟩
    · simpa [begun] using standing_begin runtime (transactions.get side) db
    · simp [begun, held_begin] at taken
  have serial :=
    run_invariant (Serial runtime transactions) (fun serial stepped => step_serial serial stepped) begins ran
  have stands := serial.standing side
  rw [ready] at stands
  exact stands.persists done

/-- The transaction is the one `handle` runs. -/
theorem handleFor_commits {call : Call} {message : KafkaIngestMessage} {siteId : Nat} {timezone : String}
    {process process' : Process} {middle : Database} {emissionPointMap : InsertionMap String Nat}
    (resolved :
      resolveEmissionPoints call siteId message.measurements db process = (middle, process', .ok emissionPointMap)) :
    (handleFor runtime call message siteId timezone db process).1 =
      commit runtime ⟨call, message, siteId, timezone, emissionPointMap⟩ middle := by
  simp only [handleFor, resolved, commit, Transaction.persist, nowYearMonth]
  split <;> simp_all

private def reading (recordedAtMs : Int) : MeasurementInput := ⟨"stack-1", recordedAtMs, "1.500000"⟩

/-- The readings in the order given, as the message and as the document read. -/
private def ordered (recordedAtMs : List Int) : Transaction where
  call := .healthy 1704067202000 1704067202000
  message := ⟨⟨"3f2a6c1e-8d4b-4c7a-9e51-0b6d2f7a8c90", "north-plant", recordedAtMs.map reading⟩, 1704067201000⟩
  siteId := 1
  timezone := "Africa/Abidjan"
  emissionPointMap := InsertionMap.empty.set "stack-1" 1

private def orderedDocument (recordedAtMs : List Int) : Json :=
  .object [("batch_id", .string "3f2a6c1e-8d4b-4c7a-9e51-0b6d2f7a8c90"), ("site_slug", .string "north-plant"),
    ("measurements", .array (recordedAtMs.map fun instant => .object [("emission_point", .string "stack-1"),
      ("recorded_at_ms", .number (.integer instant)), ("value_kg_co2e", .string "1.500000")])),
    ("received_at_ms", .number (.integer 1704067201000))]

private def onePoint : Database :=
  { Database.migrated with
    sites := Table.empty.insertIgnoring [⟨1, "north-plant", "North Plant", "Africa/Abidjan", Numeric.zero⟩]
    nextSiteId := 2
    siteEmissionPoints := Table.empty.insertIgnoring [⟨1, 1, "stack-1"⟩]
    nextEmissionPointId := 2 }

private theorem ordered_sound (recordedAtMs : List Int) :
    ResultSound onePoint.siteEmissionPoints 1 (ordered recordedAtMs).emissionPointMap := by
  intro code id found
  rcases InsertionMap.get?_set_eq_some found with ⟨rfl, rfl⟩ | ⟨_, old⟩
  · decide
  · cases old

/-- Two accepted messages of one batch with their readings in opposite orders
each insert one reading and wait for the other's. -/
theorem reordered_readings_deadlock :
    ¬∀ (runtime : Runtime) (transactions : Sided Transaction) (db : Database),
      (∀ side, ∃ document, kafkaMessageSchema (some document) = .ok (transactions.get side).message) →
        (∀ side, ResultSound db.siteEmissionPoints (transactions.get side).siteId
          (transactions.get side).emissionPointMap) → DeadlockFree runtime transactions db := by
  intro always
  let there : List Int := [1704067200000, 1704067260000]
  let back : List Int := [1704067260000, 1704067200000]
  have accepted : ∀ side, ∃ document, kafkaMessageSchema (some document) =
      .ok ((⟨ordered there, ordered back⟩ : Sided Transaction).get side).message := by
    intro side
    cases side with
    | left => exact ⟨orderedDocument there, by decide +kernel⟩
    | right => exact ⟨orderedDocument back, by decide +kernel⟩
  have free := always .exactUtc ⟨ordered there, ordered back⟩ onePoint accepted <| by
    intro side
    cases side with
    | left => exact ordered_sound there
    | right => exact ordered_sound back
  obtain ⟨state, ran, stuck⟩ : ∃ state ∈ run (step .exactUtc ⟨ordered there, ordered back⟩)
      (begun .exactUtc ⟨ordered there, ordered back⟩ onePoint) [.advance .left, .advance .right],
      Deadlocked ⟨ordered there, ordered back⟩ state := by decide +kernel
  exact free _ state ran stuck

end EmissionsPlatform.TransactionLocks
