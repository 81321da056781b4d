import EmissionsPlatform.Foundation.Drain

/-! One tick of a worker that drains a queue table, statement by statement. All
rows of the tick are attempted in one transaction, each in a `try` whose `catch`
records the failure. A statement that is refused aborts the transaction: every
later one fails, the one that would record the refusal included, so the error
leaves the loop and the transaction is rolled back (`tick_eq`).

A row is served when it gets what its own statements amount to. A tick serves
its rows exactly when none of its statements is refused, or none of its rows has
anything coming (`serves_iff`). -/
namespace EmissionsPlatform.TickTransaction
open LeaseQueue Drain Transition
set_option autoImplicit false

/-- A statement of a tick: the delivery columns of a row, or a row elsewhere. -/
inductive Statement (α β : Type)
  | update (row : Row α)
  | insert (row : β)

/-- An open transaction: what it has written, and whether a statement of it has
failed. -/
structure Transaction (α β : Type) where
  written : List (Row α)
  produced : List β
  aborted : Bool

variable {α β : Type}

def begun : Transaction α β := ⟨[], [], false⟩

def Transaction.perform (tx : Transaction α β) : Statement α β → Transaction α β
  | .update row => { tx with written := tx.written ++ [row] }
  | .insert row => { tx with produced := tx.produced ++ [row] }

/-- A computation that may throw; what it did to the transaction stays. -/
abbrev Attempted (α β : Type) := ExceptT String (StateM (Transaction α β))

/-- What every statement after a failed one answers. -/
def abortedMessage : String :=
  "current transaction is aborted, commands ignored until end of transaction block"

/-- `rejects` is the message a statement is refused with, if it is. -/
def execute (rejects : Statement α β → Option String) (statement : Statement α β) : Attempted α β Unit :=
  fun tx =>
    if tx.aborted then (.error abortedMessage, tx)
    else match rejects statement with
      | some error => (.error error, { tx with aborted := true })
      | none => (.ok (), tx.perform statement)

/-- What an attempt issues: the rows elsewhere first, then the row's columns. -/
def statements (row : Row α) (settlement : Delivery × List β) : List (Statement α β) :=
  settlement.2.map .insert ++ [.update { row with delivery := settlement.1 }]

def write (rejects : Statement α β → Option String) (row : Row α) (settlement : Delivery × List β) :
    Attempted α β Unit :=
  (statements row settlement).forM (execute rejects)

/-- How the call to the outside ends: well, with an answer that is a failure,
or with an error. -/
inductive Reply
  | succeeded
  | refused (error : String)
  | threw (error : String)
  deriving DecidableEq

/-- What a row meets in a tick. `random` is what the wait draws that is computed
inside the `try`, `again` what the one in its `catch` draws. -/
structure Meets where
  reply : Reply
  random : Nat
  again : Nat

/-- One row: `try { … } catch (err) { handleFailure(err.message) }`. -/
def attemptRow (handler : Handler α β) (rejects : Statement α β → Option String) (startedAt : Int) (row : Row α)
    (meets : Meets) : Attempted α β Unit :=
  tryCatch
    (match meets.reply with
      | .succeeded => write rejects row (handler startedAt row .delivered)
      | .refused error => write rejects row (handler startedAt row (.failed error meets.random))
      | .threw error => throw error)
    fun error => write rejects row (handler startedAt row (.failed error meets.again))

/-- A whole tick: lock the due rows, attempt them one by one, then commit, or
roll back on an error. -/
def tick (handler : Handler α β) (rejects : Statement α β → Option String) (limit : Nat) (startedAt : Int)
    (meets : Row α → Meets) (queue : Queue α β) : Queue α β × List β :=
  match ((select startedAt limit queue).forM fun row =>
      attemptRow handler rejects startedAt row (meets row)).run.run begun with
  | (.ok (), tx) =>
    if tx.aborted then (queue, []) else ({ queue with rows := queue.rows.map (overlay tx.written) }, tx.produced)
  | (.error _, _) => (queue, [])

/-! ## What a row has coming -/

section
variable (handler : Handler α β) (rejects : Statement α β → Option String) (startedAt : Int) (row : Row α)
variable (meets : Meets)

/-- The first refusal of a statement that writes the settlement. -/
def refusal (settlement : Delivery × List β) : Option String := (statements row settlement).findSome? rejects

/-- Every statement that writes the settlement is accepted. -/
def Accepted (settlement : Delivery × List β) : Prop := refusal rejects row settlement = none

instance (settlement : Delivery × List β) : Decidable (Accepted rejects row settlement) :=
  inferInstanceAs (Decidable (_ = none))

/-- The call succeeded and the row's own `UPDATE` is accepted. -/
def Delivers : Prop := meets.reply = .succeeded ∧ Accepted rejects row (handler startedAt row .delivered)

instance : Decidable (Delivers handler rejects startedAt row meets) := inferInstanceAs (Decidable (_ ∧ _))

/-- How the attempt failed at a row that is not delivered: with the failure it
met, or the refusal of its own `UPDATE`. -/
def failureOf : Outcome :=
  match meets.reply with
  | .succeeded => .failed ((refusal rejects row (handler startedAt row .delivered)).getD "") meets.again
  | .refused error => .failed error meets.random
  | .threw error => .failed error meets.again

/-- What is to be recorded of it. -/
def bookkeeping : Delivery × List β := handler startedAt row (failureOf handler rejects startedAt row meets)

/-- The row is not delivered, and its own bookkeeping statements are accepted. -/
def Records : Prop :=
  ¬ Delivers handler rejects startedAt row meets ∧
    Accepted rejects row (bookkeeping handler rejects startedAt row meets)

instance : Decidable (Records handler rejects startedAt row meets) := inferInstanceAs (Decidable (_ ∧ _))

/-- None of the row's statements is refused. -/
def Clean : Prop :=
  Delivers handler rejects startedAt row meets ∨
    meets.reply ≠ .succeeded ∧ Accepted rejects row (bookkeeping handler rejects startedAt row meets)

instance : Decidable (Clean handler rejects startedAt row meets) := inferInstanceAs (Decidable (_ ∨ _))

/-- How the attempt at a clean row ends. -/
def outcomeOf : Outcome :=
  if Delivers handler rejects startedAt row meets then .delivered else failureOf handler rejects startedAt row meets

/-- What it is settled with. -/
def settlementOf : Delivery × List β := handler startedAt row (outcomeOf handler rejects startedAt row meets)

end

variable {handler : Handler α β} {rejects : Statement α β → Option String} {startedAt : Int} {row : Row α}
variable {meets : Row α → Meets} {met : Meets} {settlement : Delivery × List β} {tx : Transaction α β}
variable {queue : Queue α β} {limit : Nat} {rows : List (Row α)}

/-! ## Computations that throw -/

section
variable {first second : Attempted α β Unit} {rescue : String → Attempted α β Unit} {tx' : Transaction α β}
variable {error : String}

theorem run_andThen_ok (done : first.run.run tx = (.ok (), tx')) :
    (first >>= fun _ => second).run.run tx = second.run.run tx' := by
  rw [ExceptT.run_bind, StateT.run_bind, done]
  rfl

theorem run_andThen_error (failed : first.run.run tx = (.error error, tx')) :
    (first >>= fun _ => second).run.run tx = (.error error, tx') := by
  rw [ExceptT.run_bind, StateT.run_bind, failed]
  rfl

theorem run_tryCatch_ok (done : first.run.run tx = (.ok (), tx')) :
    (tryCatch first rescue).run.run tx = (.ok (), tx') := by
  rw [ExceptT.run_tryCatch, StateT.run_bind, done]
  rfl

theorem run_tryCatch_error (failed : first.run.run tx = (.error error, tx')) :
    (tryCatch first rescue).run.run tx = (rescue error).run.run tx' := by
  rw [ExceptT.run_tryCatch, StateT.run_bind, failed]
  rfl

end

/-! ## The statements of one row -/

theorem execute_accepted {statement : Statement α β} (healthy : tx.aborted = false)
    (accepted : rejects statement = none) :
    (execute rejects statement).run.run tx = (.ok (), tx.perform statement) := by
  simp [execute, ExceptT.run, StateT.run, healthy, accepted]

theorem execute_refused {statement : Statement α β} {error : String} (healthy : tx.aborted = false)
    (refused : rejects statement = some error) :
    (execute rejects statement).run.run tx = (.error error, { tx with aborted := true }) := by
  simp [execute, ExceptT.run, StateT.run, healthy, refused]

theorem execute_aborted {statement : Statement α β} (aborted : tx.aborted = true) :
    (execute rejects statement).run.run tx = (.error abortedMessage, tx) := by
  simp [execute, ExceptT.run, StateT.run, aborted]

variable {issued : List (Statement α β)}

theorem run_accepted (healthy : tx.aborted = false) (accepted : issued.findSome? rejects = none) :
    (issued.forM (execute rejects)).run.run tx = (.ok (), issued.foldl Transaction.perform tx) := by
  induction issued generalizing tx with
  | nil => rfl
  | cons statement rest ih =>
    rw [List.findSome?_cons] at accepted
    cases refused : rejects statement with
    | some error => simp [refused] at accepted
    | none =>
      rw [refused] at accepted
      have still : (tx.perform statement).aborted = false := by cases statement <;> exact healthy
      rw [List.forM, run_andThen_ok (execute_accepted healthy refused), ih still accepted, List.foldl_cons]

/-- The first refusal is thrown, and the transaction is aborted. -/
theorem run_refused {error : String} (healthy : tx.aborted = false) (refused : issued.findSome? rejects = some error) :
    ∃ tx', tx'.aborted = true ∧ (issued.forM (execute rejects)).run.run tx = (.error error, tx') := by
  induction issued generalizing tx with
  | nil => cases refused
  | cons statement rest ih =>
    rw [List.findSome?_cons] at refused
    cases here : rejects statement with
    | some message =>
      rw [here] at refused
      cases refused
      exact ⟨_, rfl, run_andThen_error (execute_refused healthy here)⟩
    | none =>
      rw [here] at refused
      have still : (tx.perform statement).aborted = false := by cases statement <;> exact healthy
      obtain ⟨tx', aborted, failed⟩ := ih still refused
      refine ⟨tx', aborted, ?_⟩
      rw [List.forM, run_andThen_ok (execute_accepted healthy here), failed]

/-- The transaction as a settled row leaves it. -/
def Transaction.settled (tx : Transaction α β) (row : Row α) (settlement : Delivery × List β) : Transaction α β :=
  { tx with written := tx.written ++ [{ row with delivery := settlement.1 }], produced := tx.produced ++ settlement.2 }

theorem perform_statements (tx : Transaction α β) (row : Row α) (settlement : Delivery × List β) :
    (statements row settlement).foldl Transaction.perform tx = tx.settled row settlement := by
  have inserted (extras : List β) (tx : Transaction α β) :
      (extras.map Statement.insert).foldl Transaction.perform tx = { tx with produced := tx.produced ++ extras } := by
    induction extras generalizing tx with
    | nil => simp
    | cons extra rest ih => simp [ih, Transaction.perform]
  rw [statements, List.foldl_append, inserted]
  rfl

theorem write_accepted (healthy : tx.aborted = false) (accepted : Accepted rejects row settlement) :
    (write rejects row settlement).run.run tx = (.ok (), tx.settled row settlement) := by
  rw [write, run_accepted healthy accepted, perform_statements]

/-- Nothing can be written in an aborted transaction. -/
theorem write_aborted (aborted : tx.aborted = true) :
    (write rejects row settlement).run.run tx = (.error abortedMessage, tx) := by
  obtain ⟨first, rest, shape⟩ := List.exists_cons_of_ne_nil
    (show statements row settlement ≠ [] from List.append_ne_nil_of_right_ne_nil _ (List.cons_ne_nil _ _))
  rw [write, shape, List.forM, run_andThen_error (execute_aborted aborted)]

/-! ## One row -/

theorem attemptRow_clean (healthy : tx.aborted = false) (clean : Clean handler rejects startedAt row met) :
    (attemptRow handler rejects startedAt row met).run.run tx =
      (.ok (), tx.settled row (settlementOf handler rejects startedAt row met)) := by
  rcases clean with delivers | ⟨failed, accepted⟩
  · rw [settlementOf, outcomeOf, if_pos delivers, attemptRow, delivers.1]
    exact run_tryCatch_ok (write_accepted healthy delivers.2)
  · rw [settlementOf, outcomeOf, if_neg fun delivers => failed delivers.1, attemptRow]
    rw [bookkeeping, failureOf] at accepted
    rw [failureOf]
    cases reply : met.reply with
    | succeeded => exact absurd reply failed
    | refused error =>
      rw [reply] at accepted
      exact run_tryCatch_ok (write_accepted healthy accepted)
    | threw error =>
      rw [reply] at accepted
      exact (run_tryCatch_error rfl).trans (write_accepted healthy accepted)

theorem write_refused (healthy : tx.aborted = false) (refused : ¬ Accepted rejects row settlement) :
    ∃ error tx', tx'.aborted = true ∧ (write rejects row settlement).run.run tx = (.error error, tx') := by
  obtain ⟨error, refused⟩ := Option.ne_none_iff_exists'.mp refused
  exact ⟨error, run_refused healthy refused⟩

/-- A refused statement leaves the row with an error, whatever its `catch` tries. -/
theorem attemptRow_refused (healthy : tx.aborted = false) (refused : ¬ Clean handler rejects startedAt row met) :
    ∃ error tx', (attemptRow handler rejects startedAt row met).run.run tx = (.error error, tx') := by
  obtain ⟨undelivered, unrecorded⟩ := not_or.mp refused
  rw [bookkeeping, failureOf] at unrecorded
  rw [attemptRow]
  cases reply : met.reply with
  | succeeded =>
    obtain ⟨error, tx', aborted, failed⟩ := write_refused healthy fun accepted => undelivered ⟨reply, accepted⟩
    exact ⟨abortedMessage, tx', (run_tryCatch_error failed).trans (write_aborted aborted)⟩
  | refused error =>
    rw [reply] at unrecorded
    obtain ⟨error, tx', aborted, failed⟩ := write_refused healthy fun accepted => unrecorded ⟨nofun, accepted⟩
    exact ⟨abortedMessage, tx', (run_tryCatch_error failed).trans (write_aborted aborted)⟩
  | threw error =>
    rw [reply] at unrecorded
    obtain ⟨message, tx', -, failed⟩ := write_refused healthy fun accepted => unrecorded ⟨nofun, accepted⟩
    exact ⟨message, tx', (run_tryCatch_error rfl).trans failed⟩

/-! ## The loop -/

/-- The transaction as a list of settled rows leaves it. -/
def Transaction.settledAll (tx : Transaction α β) (settlement : Row α → Delivery × List β) (rows : List (Row α)) :
    Transaction α β :=
  rows.foldl (fun tx row => tx.settled row (settlement row)) tx

theorem loop_clean (healthy : tx.aborted = false)
    (clean : ∀ row ∈ rows, Clean handler rejects startedAt row (meets row)) :
    (rows.forM fun row => attemptRow handler rejects startedAt row (meets row)).run.run tx =
      (.ok (), tx.settledAll (fun row => settlementOf handler rejects startedAt row (meets row)) rows) := by
  induction rows generalizing tx with
  | nil => rfl
  | cons row rest ih =>
    obtain ⟨here, later⟩ := List.forall_mem_cons.mp clean
    rw [List.forM, run_andThen_ok (attemptRow_clean healthy here)]
    exact ih healthy later

theorem loop_refused (healthy : tx.aborted = false)
    (refused : ¬ ∀ row ∈ rows, Clean handler rejects startedAt row (meets row)) :
    ∃ error tx', (rows.forM fun row => attemptRow handler rejects startedAt row (meets row)).run.run tx =
      (.error error, tx') := by
  induction rows generalizing tx with
  | nil => exact absurd nofun refused
  | cons row rest ih =>
    by_cases here : Clean handler rejects startedAt row (meets row)
    · rw [List.forM, run_andThen_ok (attemptRow_clean healthy here)]
      exact ih healthy fun later => refused (List.forall_mem_cons.mpr ⟨here, later⟩)
    · obtain ⟨error, tx', failed⟩ := attemptRow_refused healthy here
      exact ⟨error, tx', by rw [List.forM, run_andThen_error failed]⟩

theorem settledAll_eq (tx : Transaction α β) (settlement : Row α → Delivery × List β) (rows : List (Row α)) :
    tx.settledAll settlement rows =
      ⟨tx.written ++ rows.map fun row => { row with delivery := (settlement row).1 },
        tx.produced ++ rows.flatMap fun row => (settlement row).2, tx.aborted⟩ := by
  induction rows generalizing tx with
  | nil => simp [Transaction.settledAll]
  | cons row rest ih => exact (ih (tx.settled row (settlement row))).trans (by simp [Transaction.settled])

/-- No statement of the tick is refused. -/
def NothingRefused (handler : Handler α β) (rejects : Statement α β → Option String) (limit : Nat) (startedAt : Int)
    (meets : Row α → Meets) (queue : Queue α β) : Prop :=
  ∀ row ∈ select startedAt limit queue, Clean handler rejects startedAt row (meets row)

instance : Decidable (NothingRefused handler rejects limit startedAt meets queue) :=
  inferInstanceAs (Decidable (∀ row ∈ _, _))

/-- **A tick writes all its rows or none**: all, when none of its statements is
refused. -/
theorem tick_eq : tick handler rejects limit startedAt meets queue =
    if NothingRefused handler rejects limit startedAt meets queue then
      let settlement (row : Row α) := settlementOf handler rejects startedAt row (meets row)
      ({ queue with rows := queue.rows.map (overlay ((select startedAt limit queue).map fun row =>
          { row with delivery := (settlement row).1 })) },
        (select startedAt limit queue).flatMap fun row => (settlement row).2)
    else (queue, []) := by
  unfold tick
  by_cases clean : NothingRefused handler rejects limit startedAt meets queue
  · rw [loop_clean rfl clean, if_pos clean, settledAll_eq]
    rfl
  · obtain ⟨error, tx', failed⟩ := @loop_refused _ _ _ _ _ _ begun _ rfl clean
    rw [failed, if_neg clean]

/-! ## Rows that are served -/

/-- What a row's columns are to show after the tick. -/
structure Served (handler : Handler α β) (rejects : Statement α β → Option String) (startedAt : Int) (row : Row α)
    (meets : Meets) (after : Row α) : Prop where
  delivered : Delivers handler rejects startedAt row meets → after.delivery.deliveredAt ≠ none
  recorded : Records handler rejects startedAt row meets → after.delivery.attempts = row.delivery.attempts + 1

/-- Every row the tick locked got what its own statements amount to. -/
def ServesEveryRow (handler : Handler α β) (rejects : Statement α β → Option String) (limit : Nat) (startedAt : Int)
    (meets : Row α → Meets) (before after : Queue α β) : Prop :=
  ∀ row ∈ select startedAt limit before, ∃ new ∈ after.rows,
    new.id = row.id ∧ Served handler rejects startedAt row (meets row) new

/-- The row has something coming. -/
def Entitled (handler : Handler α β) (rejects : Statement α β → Option String) (startedAt : Int) (row : Row α)
    (meets : Meets) : Prop :=
  Delivers handler rejects startedAt row meets ∨ Records handler rejects startedAt row meets

instance : Decidable (Entitled handler rejects startedAt row met) := inferInstanceAs (Decidable (_ ∨ _))

/-- No row of the tick has anything coming. -/
def NothingDue (handler : Handler α β) (rejects : Statement α β → Option String) (limit : Nat) (startedAt : Int)
    (meets : Row α → Meets) (queue : Queue α β) : Prop :=
  ∀ row ∈ select startedAt limit queue, ¬ Entitled handler rejects startedAt row (meets row)

instance : Decidable (NothingDue handler rejects limit startedAt meets queue) :=
  inferInstanceAs (Decidable (∀ row ∈ _, _))

/-- A handler that counts a failure and marks a delivery. -/
structure Counts (handler : Handler α β) : Prop extends Marks handler where
  counted : ∀ startedAt row error random,
    (handler startedAt row (.failed error random)).1.attempts = row.delivery.attempts + 1

theorem failureOf_failed : ∃ error random, failureOf handler rejects startedAt row met = .failed error random := by
  unfold failureOf
  split <;> exact ⟨_, _, rfl⟩

theorem settlementOf_served (counts : Counts handler) :
    Served handler rejects startedAt row met
      { row with delivery := (settlementOf handler rejects startedAt row met).1 } := by
  constructor
  · intro delivers
    rw [settlementOf, outcomeOf, if_pos delivers]
    exact counts.delivered startedAt row
  · intro records
    obtain ⟨error, random, failed⟩ := @failureOf_failed _ _ handler rejects startedAt row met
    rw [settlementOf, outcomeOf, if_neg records.1, failed]
    exact counts.counted startedAt row error random

/-- A settled row is overlaid with what was written of it. -/
theorem overlay_settled (ids : (rows.map Row.id).Nodup) (delivery : Row α → Delivery) (member : row ∈ rows) :
    overlay (rows.map fun row => { row with delivery := delivery row }) row =
      { row with delivery := delivery row } := by
  rcases overlay_cases (rows.map fun row => { row with delivery := delivery row }) row with
    ⟨-, absent⟩ | ⟨written, same⟩
  · exact absurd (List.mem_map.mpr ⟨_, List.mem_map_of_mem member, rfl⟩) absent
  · obtain ⟨other, otherMember, wrote⟩ := List.mem_map.mp written
    rw [← wrote] at same ⊢
    rw [List.inj_on_of_nodup_map ids otherMember member same]

/-- A row left as it was has not been served, if it has anything coming. -/
theorem not_served_unchanged (undelivered : row.delivery.deliveredAt = none)
    (entitled : Entitled handler rejects startedAt row met) : ¬ Served handler rejects startedAt row met row := by
  intro served
  rcases entitled with delivers | records
  · exact served.delivered delivers undelivered
  · have := served.recorded records
    omega

/-- **A tick serves its rows if and only if none of its statements is refused,
or none of its rows has anything coming.** -/
theorem serves_iff (counts : Counts handler) (ids : (queue.rows.map Row.id).Nodup) :
    ServesEveryRow handler rejects limit startedAt meets queue
        (tick handler rejects limit startedAt meets queue).1 ↔
      NothingRefused handler rejects limit startedAt meets queue ∨
        NothingDue handler rejects limit startedAt meets queue := by
  by_cases clean : NothingRefused handler rejects limit startedAt meets queue
  · refine iff_of_true (fun row locked => ?_) (Or.inl clean)
    rw [tick_eq, if_pos clean]
    have wrote := overlay_settled (select_ids_nodup ids)
      (fun row => (settlementOf handler rejects startedAt row (meets row)).1) locked
    refine ⟨_, List.mem_map_of_mem (mem_select locked).1, overlay_id _ row, ?_⟩
    rw [wrote]
    exact settlementOf_served counts
  · rw [ServesEveryRow, tick_eq, if_neg clean, or_iff_right clean]
    constructor
    · intro serves row locked entitled
      obtain ⟨after, stored, same, served⟩ := serves row locked
      obtain ⟨stored', isDue, -⟩ := mem_select locked
      cases List.inj_on_of_nodup_map ids stored stored' same
      exact not_served_unchanged (due_undelivered isDue) entitled served
    · intro none row locked
      refine ⟨row, (mem_select locked).1, rfl, fun delivers => ?_, fun records => ?_⟩
      · exact absurd (Or.inl delivers) (none row locked)
      · exact absurd (Or.inr records) (none row locked)

/-! ## Ticks among other workers -/

private theorem deliver_all {worker : Nat} {pending written : List (Row α)} {produced : List β} {queue : Queue α β}
    (history : List (Attempt β)) (outcome : Row α → Outcome)
    (held : queue.leases.get? worker = some ⟨startedAt, pending, written, produced⟩) :
    ∃ state produced', run (step handler limit) ⟨queue, history⟩
        (pending.map fun row => .deliver worker (outcome row)) = some state ∧ state.queue.rows = queue.rows ∧
      state.queue.leases.get? worker = some ⟨startedAt, [],
        written ++ pending.map fun row =>
          { row with delivery := (handler startedAt row (outcome row)).1 }, produced'⟩ := by
  induction pending generalizing queue history written produced with
  | nil => exact ⟨_, produced, rfl, rfl, by simpa using held⟩
  | cons row rest ih =>
    have next : queue.next? worker = some (startedAt, row) := by simp [Queue.next?, held]
    let after : Queue α β := { queue with leases := queue.leases.set worker ⟨startedAt, rest,
      written ++ [{ row with delivery := (handler startedAt row (outcome row)).1 }],
      produced ++ (handler startedAt row (outcome row)).2⟩ }
    have settled : settle worker (handler startedAt row (outcome row)).1 (handler startedAt row (outcome row)).2 queue =
        some after := by
      simp [settle, held, after]
    have holds : after.leases.get? worker = some ⟨startedAt, rest, _, _⟩ := InsertionMap.get?_set_self
    obtain ⟨state, produced', ran, rows, finished⟩ :=
      ih (history ++ [⟨row.id, outcome row, (handler startedAt row (outcome row)).2⟩]) holds
    refine ⟨state, produced', run_cons.mpr ⟨_, deliver_of_settled next settled, ran⟩, rows, ?_⟩
    rw [finished]
    simp

/-- **A tick is a run of the queue**: it polls, settles every row it locked and
commits, or it polls and is rolled back. -/
theorem tick_drains (worker : Nat) (free : queue.leases.has worker = false) :
    ∃ actions state, run (step handler limit) ⟨queue, []⟩ (.poll worker startedAt :: actions) = some state ∧
      state.queue.rows = (tick handler rejects limit startedAt meets queue).1.rows := by
  let polled : Queue α β :=
    { queue with leases := queue.leases.set worker ⟨startedAt, select startedAt limit queue, [], []⟩ }
  have begins : step handler limit ⟨queue, []⟩ (.poll worker startedAt) = some ⟨polled, []⟩ := by
    simp [step, poll, free, polled]
  rw [tick_eq]
  by_cases clean : NothingRefused handler rejects limit startedAt meets queue
  · obtain ⟨state, produced, ran, rows, held⟩ := @deliver_all _ _ handler startedAt limit worker _ _ _ polled []
      (fun row => outcomeOf handler rejects startedAt row (meets row)) InsertionMap.get?_set_self
    have commits : step handler limit state (.commit worker) =
        some { state with queue := ⟨state.queue.rows.map (overlay ((select startedAt limit queue).map fun row =>
          { row with delivery := (settlementOf handler rejects startedAt row (meets row)).1 })),
          state.queue.leases.erase worker, state.queue.nextId⟩ } := by
      simp [step, commit, held, settlementOf]
    refine ⟨_, _, run_cons.mpr ⟨_, begins, run_concat.mpr ⟨state, ran, commits⟩⟩, ?_⟩
    rw [if_pos clean, rows]
  · refine ⟨[.rollback worker], _, run_cons.mpr ⟨_, begins, rfl⟩, ?_⟩
    rw [if_neg clean]
    rfl

end EmissionsPlatform.TickTransaction
