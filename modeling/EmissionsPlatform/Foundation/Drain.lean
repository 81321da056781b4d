import EmissionsPlatform.Foundation.LeaseQueue
import EmissionsPlatform.Foundation.Transition

/-! Workers that drain a queue table. Each of them locks some due rows, attempts
them one by one and writes back what a handler makes of the attempt; then its
transaction commits or is rolled back. An attempt reaches the outside world, so
the history keeps every one of them, whatever becomes of the transaction.

A row's `Current` version is the one its last attempt wrote, committed or not.
While nothing is rolled back, its columns tell how often the row has been
attempted, and whether it has been delivered. -/
namespace EmissionsPlatform.Drain
open LeaseQueue Transition
set_option autoImplicit false

/-- How an attempt ends. `random` is what the next wait draws. -/
inductive Outcome
  | delivered
  | failed (error : String) (random : Nat)
  deriving DecidableEq

/-- What an attempt writes: the delivery columns, and rows elsewhere. -/
abbrev Handler (α β : Type) := Int → Row α → Outcome → Delivery × List β

/-- One attempt at a row, with the rows it inserted elsewhere. -/
structure Attempt (β : Type) where
  id : Nat
  outcome : Outcome
  inserted : List β
  deriving DecidableEq

structure State (α β : Type) where
  queue : Queue α β
  history : List (Attempt β)
  deriving DecidableEq

inductive Action (α : Type)
  /-- Some other transaction commits new rows. -/
  | enqueue (now : Int) (data : List α)
  /-- A worker's tick begins. -/
  | poll (worker : Nat) (now : Int)
  | deliver (worker : Nat) (outcome : Outcome)
  | commit (worker : Nat)
  /-- A worker's tick is rolled back, or the worker dies. -/
  | rollback (worker : Nat)
  deriving DecidableEq

variable {α β : Type}

def step (handler : Handler α β) (limit : Nat) (state : State α β) : Action α → Option (State α β)
  | .enqueue now data => some { state with queue := enqueue now data state.queue }
  | .poll worker now => (poll now limit worker state.queue).map fun queue => { state with queue }
  | .deliver worker outcome =>
    (state.queue.next? worker).bind fun (startedAt, row) =>
      let (delivery, extra) := handler startedAt row outcome
      (settle worker delivery extra state.queue).map fun queue =>
        ⟨queue, state.history ++ [⟨row.id, outcome, extra⟩]⟩
  | .commit worker => (commit worker state.queue).map fun (queue, _) => { state with queue }
  | .rollback worker => some { state with queue := rollback worker state.queue }

/-- Nothing is locked and nothing has been attempted yet. -/
def started (rows : List (Row α)) (nextId : Nat) : State α β :=
  ⟨⟨rows, InsertionMap.empty, nextId⟩, []⟩

/-- When the step is taken, where it looks at the clock. -/
def Action.time? : Action α → Option Int
  | .enqueue now _ => some now
  | .poll _ now => some now
  | .deliver _ _ | .commit _ | .rollback _ => none

/-- The step rolls nothing back. -/
def Action.Kept (action : Action α) : Prop := ∀ worker, action ≠ .rollback worker

instance : ∀ action : Action α, Decidable action.Kept
  | .rollback worker => .isFalse fun kept => kept worker rfl
  | .enqueue _ _ | .poll _ _ | .deliver _ _ | .commit _ => .isTrue nofun

variable {handler : Handler α β} {limit worker : Nat} {state after : State α β} {actions : List (Action α)}
variable {queue queue' : Queue α β} {row : Row α} {outcome : Outcome} {now : Int}

/-- What an attempt does. -/
theorem step_deliver (stepped : step handler limit state (.deliver worker outcome) = some after) :
    ∃ startedAt row, state.queue.next? worker = some (startedAt, row) ∧
      ∃ queue, settle worker (handler startedAt row outcome).1 (handler startedAt row outcome).2 state.queue =
          some queue ∧
        after = ⟨queue, state.history ++ [⟨row.id, outcome, (handler startedAt row outcome).2⟩]⟩ := by
  obtain ⟨⟨startedAt, row⟩, next, rest⟩ := Option.bind_eq_some_iff.mp stepped
  obtain ⟨queue, settled, rfl⟩ := Option.map_eq_some_iff.mp rest
  exact ⟨startedAt, row, next, queue, settled, rfl⟩

/-- An attempt whose outcome is written back is a step. -/
theorem deliver_of_settled {startedAt : Int} (next : state.queue.next? worker = some (startedAt, row))
    (settled : settle worker (handler startedAt row outcome).1 (handler startedAt row outcome).2 state.queue =
      some queue) :
    step handler limit state (.deliver worker outcome) =
      some ⟨queue, state.history ++ [⟨row.id, outcome, (handler startedAt row outcome).2⟩]⟩ := by
  simp only [step, next, Option.bind_some]
  rw [settled]
  rfl

/-! ## Current versions -/

/-- No open transaction has written the row. -/
def Unwritten (queue : Queue α β) (id : Nat) : Prop :=
  ∀ worker lease, queue.leases.get? worker = some lease → id ∉ lease.written.map Row.id

/-- The version of a row its last attempt wrote. -/
inductive Current (queue : Queue α β) (row : Row α) : Prop
  | committed (stored : row ∈ queue.rows) (unwritten : Unwritten queue row.id)
  | written (worker : Nat) (lease : Lease α β) (held : queue.leases.get? worker = some lease)
      (member : row ∈ lease.written)

private theorem written_locked {lease : Lease α β} {id : Nat} (settled : id ∈ lease.written.map Row.id) :
    id ∈ lease.ids := by
  rw [Lease.ids, List.map_append]
  exact List.mem_append_left _ settled

private theorem pending_locked {lease : Lease α β} (pending : row ∈ lease.pending) : row.id ∈ lease.ids := by
  rw [Lease.ids, List.map_append]
  exact List.mem_append_right _ (List.mem_map_of_mem pending)

/-- A row is locked by one transaction, which writes it once. -/
theorem pending_unwritten (sound : Sound queue) {lease : Lease α β}
    (held : queue.leases.get? worker = some lease) (pending : row ∈ lease.pending) : Unwritten queue row.id := by
  intro other lease' held' settled
  cases sound.apart worker lease other lease' held held' row.id (pending_locked pending) (written_locked settled)
  cases Option.some.inj (held.symm.trans held')
  have once := (sound.held worker lease held).once
  rw [Lease.ids, List.map_append] at once
  exact List.disjoint_of_nodup_append once settled (List.mem_map_of_mem pending)

/-- What a tick is about to attempt, it has read in its current version. -/
theorem next_current {startedAt : Int} (sound : Sound queue) (next : queue.next? worker = some (startedAt, row)) :
    Current queue row ∧ row.delivery.deliveredAt = none := by
  obtain ⟨pending, written, produced, held⟩ := next?_eq_some next
  obtain ⟨stored, undelivered⟩ := (sound.held worker _ held).pending row List.mem_cons_self
  exact ⟨.committed stored (pending_unwritten sound held List.mem_cons_self), undelivered⟩

theorem Current.of_poll (polled : poll now limit worker queue = some queue') (current : Current queue' row) :
    Current queue row := by
  obtain ⟨free, rfl⟩ := poll_eq_some polled
  cases current with
  | committed stored unwritten =>
    refine .committed stored fun other lease held => unwritten other lease ?_
    rwa [InsertionMap.get?_set_ne]
    rintro rfl
    exact nomatch free.symm.trans held
  | written other lease held member =>
    rcases InsertionMap.get?_set_eq_some held with ⟨rfl, rfl⟩ | ⟨_, old⟩
    · cases member
    · exact .written other lease old member

/-- An attempt replaces the version of its row and no other. -/
theorem Current.of_settle {startedAt : Int} {next : Row α} {delivery : Delivery} {extra : List β}
    (sound : Sound queue) (isNext : queue.next? worker = some (startedAt, next))
    (settled : settle worker delivery extra queue = some queue') (current : Current queue' row) :
    Current queue row ∧ row.id ≠ next.id ∨ row = { next with delivery } := by
  obtain ⟨startedAt', next', pending, written, produced, mine, rfl⟩ := settle_eq_some settled
  have same : next' = next := by
    simp only [Queue.next?, mine, Option.bind_some, List.head?_cons, Option.map_some, Option.some.injEq,
      Prod.mk.injEq] at isNext
    exact isNext.2
  subst same
  have unwritten := pending_unwritten sound mine List.mem_cons_self
  cases current with
  | committed stored unwritten' =>
    have untouched := unwritten' worker _ InsertionMap.get?_set_self
    simp only [List.map_append, List.map_cons, List.map_nil, List.mem_append, List.mem_singleton, not_or] at untouched
    refine Or.inl ⟨.committed stored fun other lease held => ?_, untouched.2⟩
    by_cases moved : other = worker
    · subst moved
      cases Option.some.inj (mine.symm.trans held)
      exact untouched.1
    · exact unwritten' other lease (by rwa [InsertionMap.get?_set_ne moved])
  | written other lease held member =>
    rcases InsertionMap.get?_set_eq_some held with ⟨rfl, rfl⟩ | ⟨_, old⟩
    · rcases List.mem_append.mp member with earlier | last
      · refine Or.inl ⟨.written other _ mine earlier, fun sameId => unwritten other _ mine ?_⟩
        exact sameId ▸ List.mem_map_of_mem earlier
      · exact Or.inr (List.mem_singleton.mp last)
    · refine Or.inl ⟨.written other lease old member, fun sameId => unwritten other lease old ?_⟩
      exact sameId ▸ List.mem_map_of_mem member

theorem Current.of_commit {produced : List β} (committed : commit worker queue = some (queue', produced))
    (current : Current queue' row) : Current queue row := by
  obtain ⟨startedAt, written, mine, rfl⟩ := commit_eq_some committed
  cases current with
  | committed stored unwritten =>
    obtain ⟨old, oldStored, rfl⟩ := List.mem_map.mp stored
    rcases overlay_cases written old with ⟨kept, untouched⟩ | ⟨settled, _⟩
    · rw [kept] at unwritten ⊢
      apply Current.committed oldStored
      intro other lease held
      by_cases mineToo : other = worker
      · subst mineToo
        cases Option.some.inj (mine.symm.trans held)
        exact untouched
      · exact unwritten other lease (by rwa [InsertionMap.get?_erase, if_neg mineToo])
    · exact .written worker _ mine settled
  | written other lease held member =>
    exact .written other lease (InsertionMap.get?_erase_eq_some held).2 member

theorem Current.of_enqueue {data : List α} (current : Current (enqueue now data queue) row) :
    Current queue row ∨ queue.nextId ≤ row.id ∧ row.delivery = .fresh now := by
  cases current with
  | committed stored unwritten =>
    rcases List.mem_append.mp stored with old | new
    · exact Or.inl (.committed old unwritten)
    · obtain ⟨above, -, -, fresh⟩ := mem_stamp new
      exact Or.inr ⟨above, fresh⟩
  | written other lease held member => exact Or.inl (.written other lease held member)

/-! ## What a step does -/

theorem step_sound {action : Action α} (sound : Sound state.queue)
    (stepped : step handler limit state action = some after) : Sound after.queue := by
  cases action with
  | enqueue now data => cases stepped; exact enqueue_sound now data sound
  | poll worker now =>
    obtain ⟨queue, polled, rfl⟩ := Option.map_eq_some_iff.mp stepped
    exact poll_sound sound polled
  | deliver worker outcome =>
    obtain ⟨startedAt, row, _, queue, settled, rfl⟩ := step_deliver stepped
    exact settle_sound sound settled
  | commit worker =>
    obtain ⟨⟨queue, produced⟩, committed, rfl⟩ := Option.map_eq_some_iff.mp stepped
    exact commit_sound sound committed
  | rollback worker => cases stepped; exact rollback_sound worker sound

/-- The effect of a step that rolls nothing back: it attempts nothing and at
most adds fresh rows, or it attempts one undelivered row. -/
inductive Effect (handler : Handler α β) (state after : State α β) : Action α → Prop
  | quiet {action : Action α} (idle : ∀ worker outcome, action ≠ .deliver worker outcome)
      (history : after.history = state.history) (grows : state.queue.nextId ≤ after.queue.nextId)
      (current : ∀ row, Current after.queue row →
        Current state.queue row ∨ state.queue.nextId ≤ row.id ∧ ∃ now, row.delivery = .fresh now) :
      Effect handler state after action
  | attempt {worker : Nat} {outcome : Outcome} (startedAt : Int) (row : Row α)
      (next : state.queue.next? worker = some (startedAt, row))
      (history : after.history = state.history ++ [⟨row.id, outcome, (handler startedAt row outcome).2⟩])
      (nextId : after.queue.nextId = state.queue.nextId)
      (current : ∀ other, Current after.queue other → Current state.queue other ∧ other.id ≠ row.id ∨
        other = { row with delivery := (handler startedAt row outcome).1 }) :
      Effect handler state after (.deliver worker outcome)

theorem step_effect {action : Action α} (sound : Sound state.queue) (kept : action.Kept)
    (stepped : step handler limit state action = some after) : Effect handler state after action := by
  cases action with
  | enqueue now data =>
    cases stepped
    refine .quiet nofun rfl (Nat.le_add_right _ _) fun row current => ?_
    exact current.of_enqueue.imp id fun ⟨above, fresh⟩ => ⟨above, now, fresh⟩
  | poll worker now =>
    obtain ⟨queue, polled, rfl⟩ := Option.map_eq_some_iff.mp stepped
    refine .quiet nofun rfl ?_ fun row current => Or.inl (current.of_poll polled)
    rw [(poll_eq_some polled).2]
  | deliver worker outcome =>
    obtain ⟨startedAt, row, next, queue, settled, rfl⟩ := step_deliver stepped
    refine .attempt startedAt row next rfl ?_ fun other current => current.of_settle sound next settled
    obtain ⟨_, _, _, _, _, _, rfl⟩ := settle_eq_some settled
    rfl
  | commit worker =>
    obtain ⟨⟨queue, produced⟩, committed, rfl⟩ := Option.map_eq_some_iff.mp stepped
    refine .quiet nofun rfl ?_ fun row current => Or.inl (current.of_commit committed)
    obtain ⟨_, _, _, rfl⟩ := commit_eq_some committed
    exact Nat.le_refl _
  | rollback worker => exact absurd rfl (kept worker)

theorem started_sound {rows : List (Row α)} {nextId : Nat} (ids : (rows.map Row.id).Nodup)
    (fresh : ∀ row ∈ rows, row.id < nextId) : Sound (started rows nextId : State α β).queue :=
  ⟨ids, fresh, (fun _ _ held => nomatch held), (fun _ _ _ _ held => nomatch held)⟩

/-! ## Nothing is lost, and nothing delivered unattempted -/

/-- A delivered attempt, and no other, marks its row. -/
structure Marks (handler : Handler α β) : Prop where
  delivered : ∀ startedAt row, (handler startedAt row .delivered).1.deliveredAt ≠ none
  failed : ∀ startedAt row error random,
    (handler startedAt row (.failed error random)).1.deliveredAt = row.delivery.deliveredAt

/-- No row is removed, and none changes its data. -/
theorem step_contents {action : Action α} (sound : Sound state.queue)
    (stepped : step handler limit state action = some after) :
    state.queue.rows.map Row.content <+: after.queue.rows.map Row.content := by
  cases action with
  | enqueue now data =>
    cases stepped
    simp [enqueue]
  | poll worker now =>
    obtain ⟨queue, polled, rfl⟩ := Option.map_eq_some_iff.mp stepped
    obtain ⟨_, rfl⟩ := poll_eq_some polled
    exact List.prefix_rfl
  | deliver worker outcome =>
    obtain ⟨startedAt, row, _, queue, settled, rfl⟩ := step_deliver stepped
    obtain ⟨_, _, _, _, _, _, rfl⟩ := settle_eq_some settled
    exact List.prefix_rfl
  | commit worker =>
    obtain ⟨⟨queue, produced⟩, committed, rfl⟩ := Option.map_eq_some_iff.mp stepped
    exact (List.prefix_rfl).trans (commit_contents sound committed ▸ List.prefix_rfl)
  | rollback worker =>
    cases stepped
    exact List.prefix_rfl

theorem run_contents {start : State α β} (sound : Sound start.queue)
    (ran : run (step handler limit) start actions = some state) :
    Sound state.queue ∧ start.queue.rows.map Row.content <+: state.queue.rows.map Row.content := by
  refine run_invariant (fun state => Sound state.queue ∧
    start.queue.rows.map Row.content <+: state.queue.rows.map Row.content) ?_ ⟨sound, List.prefix_rfl⟩ ran
  intro before after action ⟨sound, kept⟩ stepped
  exact ⟨step_sound sound stepped, kept.trans (step_contents sound stepped)⟩

/-- The row was delivered before the run, or some attempt of the run delivered it. -/
def Accounted (rows : List (Row α)) (history : List (Attempt β)) (content : Nat × α) : Prop :=
  (∃ row ∈ rows, row.content = content ∧ row.delivery.deliveredAt ≠ none) ∨
    ∃ attempt ∈ history, attempt.id = content.1 ∧ attempt.outcome = .delivered

theorem step_accounted (marks : Marks handler) {rows : List (Row α)} {action : Action α}
    (sound : Sound state.queue) (settled : Settled (Accounted rows state.history) state.queue)
    (stepped : step handler limit state action = some after) :
    Settled (Accounted rows after.history) after.queue := by
  cases action with
  | enqueue now data => cases stepped; exact enqueue_settled now data settled
  | poll worker now =>
    obtain ⟨queue, polled, rfl⟩ := Option.map_eq_some_iff.mp stepped
    exact poll_settled settled polled
  | deliver worker outcome =>
    obtain ⟨startedAt, row, next, queue, wrote, rfl⟩ := step_deliver stepped
    refine settle_settled (settled.mono fun content => ?_) ?_ wrote
    · exact Or.imp_right fun ⟨attempt, member, same⟩ => ⟨attempt, List.mem_append_left _ member, same⟩
    intro marked startedAt' row' next'
    cases next.symm.trans next'
    cases outcome with
    | delivered => exact Or.inr ⟨_, List.mem_append_right _ (List.mem_singleton_self _), rfl, rfl⟩
    | failed error random =>
      rw [marks.failed] at marked
      exact absurd (next_current sound next).2 marked
  | commit worker =>
    obtain ⟨⟨queue, produced⟩, committed, rfl⟩ := Option.map_eq_some_iff.mp stepped
    exact commit_settled settled committed
  | rollback worker => cases stepped; exact rollback_settled worker settled

/-- Whatever rolls back, a row is found delivered only after an attempt
delivered it. -/
theorem run_accounted (marks : Marks handler) {rows : List (Row α)} {nextId : Nat}
    (sound : Sound (started rows nextId : State α β).queue)
    (ran : run (step handler limit) (started rows nextId) actions = some state) (member : row ∈ state.queue.rows)
    (delivered : row.delivery.deliveredAt ≠ none) : Accounted rows state.history row.content := by
  have start : Settled (Accounted rows ([] : List (Attempt β))) (started rows nextId : State α β).queue :=
    ⟨fun row member delivered => Or.inl ⟨row, member, rfl, delivered⟩, fun _ _ held => nomatch held⟩
  have holds := run_invariant (fun state : State α β => Sound state.queue ∧
    Settled (Accounted rows state.history) state.queue)
    (fun ⟨sound, settled⟩ stepped => ⟨step_sound sound stepped, step_accounted marks sound settled stepped⟩)
    ⟨sound, start⟩ ran
  exact holds.2.rows row member delivered

/-! ## Nothing is delivered twice -/

theorem Current.id_lt (sound : Sound queue) (current : Current queue row) : row.id < queue.nextId := by
  cases current with
  | committed stored _ => exact sound.fresh row stored
  | written worker lease held member =>
    obtain ⟨old, stored, content, _⟩ := (sound.held worker lease held).written row member
    rw [show row.id = old.id from (congrArg Prod.fst content).symm]
    exact sound.fresh old stored

/-- While nothing is rolled back, the current version of a delivered row says
so, and nobody attempts it again. -/
structure Orderly (state : State α β) : Prop where
  sound : Sound state.queue
  known : ∀ attempt ∈ state.history, attempt.id < state.queue.nextId
  marked : ∀ row, Current state.queue row → ∀ attempt ∈ state.history, attempt.id = row.id →
    attempt.outcome = .delivered → row.delivery.deliveredAt ≠ none
  last : state.history.Pairwise fun earlier later => earlier.outcome = .delivered → later.id ≠ earlier.id

theorem step_orderly (marks : Marks handler) {action : Action α} (orderly : Orderly state)
    (kept : action.Kept) (stepped : step handler limit state action = some after) :
    Orderly after := by
  have sound := step_sound orderly.sound stepped
  cases step_effect orderly.sound kept stepped with
  | quiet _ history grows current =>
    refine ⟨sound, ?_, ?_, history ▸ orderly.last⟩
    · rw [history]
      exact fun attempt member => Nat.lt_of_lt_of_le (orderly.known attempt member) grows
    · rw [history]
      intro row isCurrent attempt member same delivered
      rcases current row isCurrent with old | ⟨above, _⟩
      · exact orderly.marked row old attempt member same delivered
      -- A row that was not there has not been attempted.
      · exact absurd (orderly.known attempt member) (by omega)
  | attempt startedAt row next history nextId current =>
    obtain ⟨isCurrent, undelivered⟩ := next_current orderly.sound next
    have never : ∀ attempt ∈ state.history, attempt.id = row.id → attempt.outcome ≠ .delivered :=
      fun attempt member same delivered => orderly.marked row isCurrent attempt member same delivered undelivered
    refine ⟨sound, ?_, ?_, ?_⟩
    · rw [history, nextId]
      intro attempt member
      rcases List.mem_append.mp member with old | new
      · exact orderly.known attempt old
      · rw [List.mem_singleton.mp new]
        exact isCurrent.id_lt orderly.sound
    · rw [history]
      intro other otherCurrent attempt member same delivered
      rcases current other otherCurrent with ⟨old, different⟩ | rfl
      · rcases List.mem_append.mp member with earlier | new
        · exact orderly.marked other old attempt earlier same delivered
        · rw [List.mem_singleton.mp new] at same
          exact absurd same.symm different
      · rcases List.mem_append.mp member with earlier | new
        · exact absurd delivered (never attempt earlier same)
        · rw [List.mem_singleton.mp new] at delivered
          simp only at delivered
          subst delivered
          exact marks.delivered startedAt row
    · rw [history, List.pairwise_append]
      refine ⟨orderly.last, List.pairwise_singleton _ _, ?_⟩
      intro earlier member later new delivered same
      rw [List.mem_singleton.mp new] at same
      exact never earlier member same.symm delivered

/-- In a run that rolls nothing back, no attempt follows a delivered one. -/
theorem run_orderly (marks : Marks handler) {start : State α β} (sound : Sound start.queue)
    (untried : start.history = []) (kept : ∀ action ∈ actions, action.Kept)
    (ran : run (step handler limit) start actions = some state) : Orderly state := by
  have orderly : Orderly start := ⟨sound, by simp [untried], by simp [untried], by simp [untried]⟩
  exact run_invariant_of_kind Action.Kept Orderly
    (fun orderly kept stepped => step_orderly marks orderly kept stepped) kept orderly ran

/-- How often a row has been delivered. -/
def deliveries (history : List (Attempt β)) (id : Nat) : Nat :=
  history.countP fun attempt => attempt.id = id ∧ attempt.outcome = .delivered

theorem Orderly.not_after (orderly : Orderly state) {before later : List (Attempt β)} {attempt other : Attempt β}
    (split : state.history = before ++ attempt :: later) (delivered : attempt.outcome = .delivered)
    (member : other ∈ later) : other.id ≠ attempt.id := by
  have last := orderly.last
  rw [split] at last
  exact (List.pairwise_cons.mp (List.pairwise_append.mp last).2.1).1 other member delivered

theorem Orderly.deliveries_le_one (orderly : Orderly state) (id : Nat) : deliveries state.history id ≤ 1 := by
  have last := orderly.last
  unfold deliveries
  generalize state.history = history at last ⊢
  induction history with
  | nil => exact Nat.zero_le 1
  | cons attempt rest ih =>
    obtain ⟨first, last⟩ := List.pairwise_cons.mp last
    rw [List.countP_cons]
    by_cases counted : attempt.id = id ∧ attempt.outcome = .delivered
    · have none : rest.countP (fun other => decide (other.id = id ∧ other.outcome = .delivered)) = 0 := by
        rw [List.countP_eq_zero]
        intro other member again
        have same := (of_decide_eq_true again).1
        exact first other member counted.2 (same.trans counted.1.symm)
      rw [none, if_pos (decide_eq_true counted)]
    · rw [if_neg (by simpa using counted)]
      exact ih last

/-! ## Attempts and their budget -/

/-- How often a row has been attempted. -/
def attempts (history : List (Attempt β)) (id : Nat) : Nat := history.countP fun attempt => attempt.id = id

/-- How many rows have been inserted elsewhere about a row. -/
def reports (about : Nat → β → Bool) (history : List (Attempt β)) (id : Nat) : Nat :=
  (history.flatMap Attempt.inserted).countP (about id)

/-- A failed attempt counts, and the one that uses up the budget, or a later
one, may be reported. -/
structure Budgeted (handler : Handler α β) (about : Nat → β → Bool) (maxAttempts : Nat) : Prop
    extends Marks handler where
  unchanged : ∀ startedAt row, (handler startedAt row .delivered).1.attempts = row.delivery.attempts
  counted : ∀ startedAt row error random,
    (handler startedAt row (.failed error random)).1.attempts = row.delivery.attempts + 1
  reported : ∀ startedAt row outcome id, (handler startedAt row outcome).2.countP (about id) ≤
    if row.id = id ∧ maxAttempts ≤ row.delivery.attempts + 1 then 1 else 0

/-- Exhaustion is final: no row is attempted beyond its budget, or reported
twice. -/
def Final (about : Nat → β → Bool) (maxAttempts : Nat) (state : State α β) : Prop :=
  ∀ id, attempts state.history id ≤ maxAttempts ∧ reports about state.history id ≤ 1

/-- A row that is taken up has attempts left. -/
def AttemptsLeft (maxAttempts : Nat) (state : State α β) : Action α → Prop
  | .deliver worker _ => ∀ next ∈ state.queue.next? worker, next.2.delivery.attempts < maxAttempts
  | _ => True

instance (maxAttempts : Nat) (state : State α β) : ∀ action, Decidable (AttemptsLeft maxAttempts state action)
  | .deliver _ _ => inferInstanceAs (Decidable (∀ next ∈ _, _))
  | .enqueue _ _ | .poll _ _ | .commit _ | .rollback _ => inferInstanceAs (Decidable True)

/-- While nothing is rolled back, the columns of a row tell its attempts, and
the attempts bound its reports. -/
structure Tallied (about : Nat → β → Bool) (maxAttempts : Nat) (state : State α β) : Prop where
  orderly : Orderly state
  tally : ∀ row, Current state.queue row → attempts state.history row.id =
    row.delivery.attempts + if row.delivery.deliveredAt = none then 0 else 1
  reported : ∀ id, reports about state.history id ≤ attempts state.history id + 1 - maxAttempts

theorem attempts_append (history : List (Attempt β)) (attempt : Attempt β) (id : Nat) :
    attempts (history ++ [attempt]) id = attempts history id + if attempt.id = id then 1 else 0 := by
  simp [attempts, List.countP_append, List.countP_cons]

theorem reports_append (about : Nat → β → Bool) (history : List (Attempt β)) (attempt : Attempt β) (id : Nat) :
    reports about (history ++ [attempt]) id = reports about history id + attempt.inserted.countP (about id) := by
  simp [reports, List.countP_append]

/-- Nobody has attempted a row that was not there. -/
theorem attempts_eq_zero {history : List (Attempt β)} {id bound : Nat}
    (known : ∀ attempt ∈ history, attempt.id < bound) (above : bound ≤ id) : attempts history id = 0 := by
  rw [attempts, List.countP_eq_zero]
  intro attempt member
  have := known attempt member
  simp only [decide_eq_true_eq]
  omega

variable {about : Nat → β → Bool} {maxAttempts : Nat}

theorem step_tallied (budgeted : Budgeted handler about maxAttempts) {action : Action α}
    (tallied : Tallied about maxAttempts state) (kept : action.Kept)
    (stepped : step handler limit state action = some after) : Tallied about maxAttempts after := by
  have orderly := step_orderly budgeted.toMarks tallied.orderly kept stepped
  cases step_effect tallied.orderly.sound kept stepped with
  | quiet _ history grows current =>
    refine ⟨orderly, ?_, history ▸ tallied.reported⟩
    rw [history]
    intro row isCurrent
    rcases current row isCurrent with old | ⟨above, now, fresh⟩
    · exact tallied.tally row old
    · rw [attempts_eq_zero tallied.orderly.known above, fresh]
      rfl
  | @attempt _ outcome startedAt row next history nextId current =>
    obtain ⟨isCurrent, undelivered⟩ := next_current tallied.orderly.sound next
    have before := tallied.tally row isCurrent
    rw [if_pos undelivered] at before
    refine ⟨orderly, ?_, ?_⟩
    · rw [history]
      intro other otherCurrent
      rw [attempts_append]
      rcases current other otherCurrent with ⟨old, different⟩ | rfl
      · rw [tallied.tally other old, if_neg (Ne.symm different)]
        rfl
      · rw [before, if_pos rfl]
        cases outcome with
        | delivered => simp [budgeted.unchanged, budgeted.delivered]
        | failed error random => simp [budgeted.counted, budgeted.failed, undelivered]
    · rw [history]
      intro id
      have added := budgeted.reported startedAt row outcome id
      have reported := tallied.reported id
      rw [attempts_append, reports_append]
      by_cases own : row.id = id
      · subst own
        simp only [true_and] at added
        split at added <;> simp only [if_true] <;> omega
      · rw [if_neg (fun both => own both.1)] at added
        simp only [if_neg own]
        omega

/-- A budget that is not exceeded is reported once. -/
theorem Tallied.final_iff (tallied : Tallied about maxAttempts state) :
    Final about maxAttempts state ↔ ∀ id, attempts state.history id ≤ maxAttempts := by
  refine ⟨fun final id => (final id).1, fun within id => ⟨within id, ?_⟩⟩
  have reported := tallied.reported id
  have := within id
  omega

/-- The step lemma: exhaustion stays final exactly when the row taken up has
attempts left. -/
theorem step_final_iff (budgeted : Budgeted handler about maxAttempts) {action : Action α}
    (tallied : Tallied about maxAttempts state) (kept : action.Kept)
    (stepped : step handler limit state action = some after) :
    Final about maxAttempts after ↔ Final about maxAttempts state ∧ AttemptsLeft maxAttempts state action := by
  rw [(step_tallied budgeted tallied kept stepped).final_iff, tallied.final_iff]
  cases step_effect tallied.orderly.sound kept stepped with
  | quiet idle history _ _ =>
    have allowed : AttemptsLeft maxAttempts state action := by
      cases action with
      | deliver worker outcome => exact absurd rfl (idle worker outcome)
      | enqueue _ _ | poll _ _ | commit _ | rollback _ => trivial
    rw [history]
    exact (and_iff_left allowed).symm
  | @attempt worker outcome startedAt row next history _ _ =>
    obtain ⟨isCurrent, undelivered⟩ := next_current tallied.orderly.sound next
    have before := tallied.tally row isCurrent
    rw [if_pos undelivered, Nat.add_zero] at before
    have left :
        AttemptsLeft maxAttempts state (.deliver worker outcome) ↔ attempts state.history row.id < maxAttempts := by
      simp [AttemptsLeft, next, before]
    simp only [left, history, attempts_append]
    constructor
    · intro within
      refine ⟨fun id => Nat.le_of_add_right_le (within id), ?_⟩
      have own := within row.id
      rw [if_pos rfl] at own
      exact own
    · rintro ⟨within, room⟩ id
      by_cases own : row.id = id
      · subst own
        rw [if_pos rfl]
        exact room
      · rw [if_neg own]
        exact within id

theorem empty_tallied (about : Nat → β → Bool) (maxAttempts : Nat) :
    Tallied about maxAttempts (started [] 1 : State α β) := by
  have sound : Sound (started [] 1 : State α β).queue := started_sound List.nodup_nil nofun
  refine ⟨⟨sound, nofun, (fun _ _ _ member => nomatch member), List.Pairwise.nil⟩, ?_, fun _ => Nat.zero_le _⟩
  intro row current
  cases current with
  | committed stored _ => cases stored
  | written worker lease held _ => cases held

/-- **Exhaustion is final** after a run of committed ticks exactly when each row
a tick took up had attempts left. -/
theorem run_final_iff (budgeted : Budgeted handler about maxAttempts) (kept : ∀ action ∈ actions, action.Kept)
    (ran : run (step handler limit) (started [] 1) actions = some state) :
    Final about maxAttempts state ↔
      StepsMeet (step handler limit) (AttemptsLeft maxAttempts) (started [] 1) actions := by
  have start : Final about maxAttempts (started [] 1 : State α β) := fun _ => ⟨Nat.zero_le _, Nat.zero_le _⟩
  rw [run_holds_iff_of_kind Action.Kept (Tallied about maxAttempts) (Final about maxAttempts)
    (fun tallied kept stepped => step_tallied budgeted tallied kept stepped)
    (fun tallied kept stepped => step_final_iff budgeted tallied kept stepped) kept
    (empty_tallied about maxAttempts) ran]
  exact and_iff_right start

/-- A tick begins while each row that used up its attempts still waits. -/
def Asleep (maxAttempts : Nat) (state : State α β) : Action α → Prop
  | .poll _ now => ∀ row ∈ state.queue.rows, maxAttempts ≤ row.delivery.attempts → due now row = false
  | _ => True

/-- What a tick has locked and not attempted yet has attempts left. -/
def Fit (maxAttempts : Nat) (queue : Queue α β) : Prop :=
  ∀ worker lease, queue.leases.get? worker = some lease →
    ∀ row ∈ lease.pending, row.delivery.attempts < maxAttempts

theorem step_fit {action : Action α} (fit : Fit maxAttempts state.queue) (asleep : Asleep maxAttempts state action)
    (stepped : step handler limit state action = some after) : Fit maxAttempts after.queue := by
  cases action with
  | enqueue now data => cases stepped; exact fit
  | poll worker now =>
    obtain ⟨queue, polled, rfl⟩ := Option.map_eq_some_iff.mp stepped
    obtain ⟨_, rfl⟩ := poll_eq_some polled
    intro other lease held row pending
    rcases InsertionMap.get?_set_eq_some held with ⟨rfl, rfl⟩ | ⟨_, old⟩
    · obtain ⟨stored, isDue, _⟩ := mem_select pending
      by_contra spent
      rw [asleep row stored (Nat.le_of_not_lt spent)] at isDue
      exact nomatch isDue
    · exact fit other lease old row pending
  | deliver worker outcome =>
    obtain ⟨startedAt, next, _, queue, settled, rfl⟩ := step_deliver stepped
    obtain ⟨_, _, _, _, _, mine, rfl⟩ := settle_eq_some settled
    intro other lease held row pending
    rcases InsertionMap.get?_set_eq_some held with ⟨rfl, rfl⟩ | ⟨_, old⟩
    · exact fit other _ mine row (List.mem_cons_of_mem _ pending)
    · exact fit other lease old row pending
  | commit worker =>
    obtain ⟨⟨queue, produced⟩, committed, rfl⟩ := Option.map_eq_some_iff.mp stepped
    obtain ⟨_, _, _, rfl⟩ := commit_eq_some committed
    exact fun other lease held => fit other lease (InsertionMap.get?_erase_eq_some held).2
  | rollback worker =>
    cases stepped
    exact fun other lease held => fit other lease (InsertionMap.get?_erase_eq_some held).2

/-- No row is taken up beyond its budget while no freeze ends. -/
theorem attemptsLeft_of_asleep {rows : List (Row α)} {nextId : Nat}
    (asleep : StepsMeet (step handler limit) (Asleep maxAttempts) (started rows nextId) actions) :
    StepsMeet (step handler limit) (AttemptsLeft maxAttempts) (started rows nextId) actions := by
  rw [stepsMeet_iff]
  intro before action after' middle split ran
  have start : Fit maxAttempts (started rows nextId : State α β).queue := fun _ _ held => nomatch held
  have fit : Fit maxAttempts middle.queue :=
    run_invariant_of_steps (fun state => Fit maxAttempts state.queue)
      (fun fit asleep stepped => step_fit fit asleep stepped) start (StepsMeet.of_append (split ▸ asleep)) ran
  cases action with
  | deliver worker outcome =>
    rintro ⟨startedAt, row⟩ next
    obtain ⟨_, _, _, held⟩ := next?_eq_some next
    exact fit worker _ held row List.mem_cons_self
  | enqueue _ _ | poll _ _ | commit _ | rollback _ => trivial

/-- Exhaustion is final for as long as no freeze ends. -/
theorem run_final_of_asleep (budgeted : Budgeted handler about maxAttempts) (kept : ∀ action ∈ actions, action.Kept)
    (asleep : StepsMeet (step handler limit) (Asleep maxAttempts) (started [] 1) actions)
    (ran : run (step handler limit) (started [] 1) actions = some state) : Final about maxAttempts state :=
  (run_final_iff budgeted kept ran).mpr (attemptsLeft_of_asleep asleep)

end EmissionsPlatform.Drain
