import EmissionsPlatform.Foundation.InsertionMap
import Mathlib.Data.List.Sort
import Mathlib.Data.List.Nodup

/-! Queue tables drained under row locks. A worker's transaction locks some due
rows that no other open transaction has locked, settles them one by one, and
commits what it wrote or rolls back. Settling writes the delivery columns of a
row only, so a row keeps its id and its data for ever.

`Sound` is the invariant of such tables: whatever a transaction has locked is
locked by it alone, and stands in the table as it was when it was locked. -/
namespace EmissionsPlatform.LeaseQueue
set_option autoImplicit false

/-- The columns a delivery attempt writes. Instants are in microseconds. -/
structure Delivery where
  availableAt : Int
  attempts : Nat
  lastError : Option String
  deliveredAt : Option Int
  deriving DecidableEq

/-- The columns of a row nobody has attempted to deliver. -/
def Delivery.fresh (now : Int) : Delivery := ⟨now, 0, none, none⟩

/-- A row of a queue table. -/
structure Row (α : Type) where
  id : Nat
  data : α
  delivery : Delivery
  deriving DecidableEq

/-- The columns no attempt changes. -/
def Row.content {α : Type} (row : Row α) : Nat × α := (row.id, row.data)

/-- An open transaction: the rows it has locked and not settled yet, the
settled ones as it wrote them, and what it inserts elsewhere. -/
structure Lease (α β : Type) where
  startedAt : Int
  pending : List (Row α)
  written : List (Row α)
  produced : List β
  deriving DecidableEq

/-- The ids of the rows a transaction has locked. -/
def Lease.ids {α β : Type} (lease : Lease α β) : List Nat := (lease.written ++ lease.pending).map Row.id

/-- A queue table: its committed rows, the open transaction of each worker, and
the sequence its ids come from. -/
structure Queue (α β : Type) where
  rows : List (Row α)
  leases : InsertionMap Nat (Lease α β)
  nextId : Nat
  deriving DecidableEq

variable {α β : Type}

def empty : Queue α β := ⟨[], InsertionMap.empty, 1⟩

def Queue.locked (queue : Queue α β) (id : Nat) : Bool :=
  queue.leases.values.any fun lease => decide (id ∈ lease.ids)

/-- `delivered_at IS NULL AND available_at <= now()`. -/
def due (now : Int) (row : Row α) : Bool :=
  row.delivery.deliveredAt.isNone && decide (row.delivery.availableAt ≤ now)

/-- `… ORDER BY available_at LIMIT … FOR UPDATE SKIP LOCKED`. -/
def select (now : Int) (limit : Nat) (queue : Queue α β) : List (Row α) :=
  ((queue.rows.filter fun row => due now row && !queue.locked row.id).insertionSort
    fun a b => a.delivery.availableAt ≤ b.delivery.availableAt).take limit

/-- A worker without an open transaction begins one and locks the rows it
selects. -/
def poll (now : Int) (limit worker : Nat) (queue : Queue α β) : Option (Queue α β) :=
  if queue.leases.has worker then none
  else some { queue with leases := queue.leases.set worker ⟨now, select now limit queue, [], []⟩ }

/-- The row a worker is to settle next, and when its transaction began. -/
def Queue.next? (queue : Queue α β) (worker : Nat) : Option (Int × Row α) :=
  (queue.leases.get? worker).bind fun lease => lease.pending.head?.map fun row => (lease.startedAt, row)

/-- Settle the next row: write its delivery columns, and insert elsewhere. -/
def settle (worker : Nat) (delivery : Delivery) (extra : List β) (queue : Queue α β) :
    Option (Queue α β) :=
  match queue.leases.get? worker with
  | some ⟨startedAt, row :: pending, written, produced⟩ =>
    let lease := ⟨startedAt, pending, written ++ [{ row with delivery }], produced ++ extra⟩
    some { queue with leases := queue.leases.set worker lease }
  | _ => none

/-- A row as a transaction leaves it. -/
def overlay (written : List (Row α)) (row : Row α) : Row α :=
  (written.find? fun new => decide (new.id = row.id)).getD row

/-- Commit a transaction that has settled every row it locked. -/
def commit (worker : Nat) (queue : Queue α β) : Option (Queue α β × List β) :=
  match queue.leases.get? worker with
  | some ⟨_, [], written, produced⟩ =>
    some (⟨queue.rows.map (overlay written), queue.leases.erase worker, queue.nextId⟩, produced)
  | _ => none

/-- The transaction is rolled back, or its process dies. -/
def rollback (worker : Nat) (queue : Queue α β) : Queue α β :=
  { queue with leases := queue.leases.erase worker }

/-- New rows, with consecutive ids. -/
def stamp (now : Int) : Nat → List α → List (Row α)
  | _, [] => []
  | id, data :: rest => ⟨id, data, .fresh now⟩ :: stamp now (id + 1) rest

/-- A transaction that does not drain the table inserts rows into it. -/
def enqueue (now : Int) (data : List α) (queue : Queue α β) : Queue α β :=
  { queue with
    rows := queue.rows ++ stamp now queue.nextId data
    nextId := queue.nextId + data.length }

/-! ## What a transaction has locked -/

/-- A transaction's rows stand undelivered in the table: those to be settled as
they were locked, the settled ones with the same content. -/
structure Lease.Holds (lease : Lease α β) (rows : List (Row α)) : Prop where
  once : lease.ids.Nodup
  pending : ∀ row ∈ lease.pending, row ∈ rows ∧ row.delivery.deliveredAt = none
  written : ∀ row ∈ lease.written,
    ∃ old ∈ rows, old.content = row.content ∧ old.delivery.deliveredAt = none

structure Sound (queue : Queue α β) : Prop where
  ids : (queue.rows.map Row.id).Nodup
  fresh : ∀ row ∈ queue.rows, row.id < queue.nextId
  held : ∀ worker lease, queue.leases.get? worker = some lease → lease.Holds queue.rows
  /-- Two transactions lock different rows. -/
  apart : ∀ worker lease worker' lease', queue.leases.get? worker = some lease →
    queue.leases.get? worker' = some lease' → ∀ id ∈ lease.ids, id ∈ lease'.ids → worker = worker'

variable {queue after : Queue α β} {lease lease' : Lease α β} {worker limit : Nat} {now : Int}
variable {row : Row α} {rows : List (Row α)} {delivery : Delivery} {extra produced : List β}

theorem locked_iff {id : Nat} :
    queue.locked id = true ↔ ∃ worker lease, queue.leases.get? worker = some lease ∧ id ∈ lease.ids := by
  simp only [Queue.locked, List.any_eq_true, decide_eq_true_eq, InsertionMap.mem_values_iff]
  constructor
  · rintro ⟨lease, ⟨worker, held⟩, member⟩
    exact ⟨worker, lease, held, member⟩
  · rintro ⟨worker, lease, held, member⟩
    exact ⟨lease, ⟨worker, held⟩, member⟩

theorem mem_select (member : row ∈ select now limit queue) :
    row ∈ queue.rows ∧ due now row = true ∧ queue.locked row.id = false := by
  have sorted := List.mem_of_mem_take member
  rw [List.mem_insertionSort, List.mem_filter] at sorted
  simpa using sorted

/-- A due row nobody has locked is selected when the limit leaves room for it. -/
theorem mem_select_of_due (member : row ∈ queue.rows) (isDue : due now row = true)
    (unlocked : queue.locked row.id = false) (room : queue.rows.length ≤ limit) :
    row ∈ select now limit queue := by
  have few : ((queue.rows.filter fun row => due now row && !queue.locked row.id).insertionSort
      fun a b : Row α => a.delivery.availableAt ≤ b.delivery.availableAt).length ≤ limit := by
    rw [List.length_insertionSort]
    exact (List.length_filter_le _ _).trans room
  rw [select, List.take_of_length_le few, List.mem_insertionSort, List.mem_filter]
  exact ⟨member, by simp [isDue, unlocked]⟩

theorem due_undelivered (isDue : due now row = true) : row.delivery.deliveredAt = none := by
  simp only [due, Bool.and_eq_true, Option.isNone_iff_eq_none] at isDue
  exact isDue.1

theorem select_ids_nodup (nodup : (queue.rows.map Row.id).Nodup) :
    ((select now limit queue).map Row.id).Nodup := by
  have filtered : ((queue.rows.filter fun row => due now row && !queue.locked row.id).map Row.id).Nodup :=
    nodup.sublist (List.filter_sublist.map _)
  have sorted := ((List.perm_insertionSort (fun a b : Row α => a.delivery.availableAt ≤ b.delivery.availableAt)
    (queue.rows.filter fun row => due now row && !queue.locked row.id)).map Row.id).nodup_iff.mpr filtered
  exact sorted.sublist ((List.take_sublist _ _).map _)

theorem overlay_id (written : List (Row α)) (row : Row α) : (overlay written row).id = row.id := by
  unfold overlay
  cases found : written.find? fun new => decide (new.id = row.id) with
  | none => rfl
  | some new => simpa using List.find?_some found

/-- A row the transaction did not settle stays as it is. -/
theorem overlay_of_not_mem {written : List (Row α)} (absent : row.id ∉ written.map Row.id) :
    overlay written row = row := by
  have missing : (written.find? fun new => decide (new.id = row.id)) = none := by
    rw [List.find?_eq_none]
    intro new member same
    exact absent (List.mem_map.mpr ⟨new, member, by simpa using same⟩)
  simp [overlay, missing]

/-- A row is left as it was, or as the transaction wrote it. -/
theorem overlay_cases (written : List (Row α)) (row : Row α) :
    overlay written row = row ∧ row.id ∉ written.map Row.id ∨
      overlay written row ∈ written ∧ (overlay written row).id = row.id := by
  by_cases settled : row.id ∈ written.map Row.id
  · obtain ⟨new, member, same⟩ := List.mem_map.mp settled
    refine Or.inr ⟨?_, overlay_id written row⟩
    cases found : written.find? fun new => decide (new.id = row.id) with
    | none =>
      rw [List.find?_eq_none] at found
      exact absurd same (by simpa using found new member)
    | some new =>
      rw [overlay, found]
      exact List.mem_of_find?_eq_some found
  · exact Or.inl ⟨overlay_of_not_mem settled, settled⟩

private theorem eq_of_id (nodup : (rows.map Row.id).Nodup) {other : Row α} (member : row ∈ rows)
    (otherMember : other ∈ rows) (same : row.id = other.id) : row = other :=
  List.inj_on_of_nodup_map nodup member otherMember same

/-! ## The invariant -/

theorem poll_eq_some (polled : poll now limit worker queue = some after) :
    queue.leases.get? worker = none ∧
      after = { queue with leases := queue.leases.set worker ⟨now, select now limit queue, [], []⟩ } := by
  unfold poll at polled
  split at polled
  · cases polled
  · rename_i free
    cases polled
    exact ⟨by simpa [InsertionMap.has] using free, rfl⟩

theorem settle_eq_some (settled : settle worker delivery extra queue = some after) :
    ∃ startedAt row pending written produced,
      queue.leases.get? worker = some ⟨startedAt, row :: pending, written, produced⟩ ∧
        after = ⟨queue.rows, queue.leases.set worker
          ⟨startedAt, pending, written ++ [{ row with delivery }], produced ++ extra⟩, queue.nextId⟩ := by
  unfold settle at settled
  split at settled
  · rename_i startedAt row pending written produced held
    cases settled
    exact ⟨startedAt, row, pending, written, produced, held, rfl⟩
  · cases settled

theorem commit_eq_some (committed : commit worker queue = some (after, produced)) :
    ∃ startedAt written, queue.leases.get? worker = some ⟨startedAt, [], written, produced⟩ ∧
      after = ⟨queue.rows.map (overlay written), queue.leases.erase worker, queue.nextId⟩ := by
  unfold commit at committed
  split at committed
  · rename_i startedAt written produced held
    cases committed
    exact ⟨startedAt, written, held, rfl⟩
  · cases committed

theorem next?_eq_some {startedAt : Int} (next : queue.next? worker = some (startedAt, row)) :
    ∃ pending written produced,
      queue.leases.get? worker = some ⟨startedAt, row :: pending, written, produced⟩ := by
  unfold Queue.next? at next
  obtain ⟨lease, held, first⟩ := Option.bind_eq_some_iff.mp next
  obtain ⟨head, isHead, same⟩ := Option.map_eq_some_iff.mp first
  cases same
  obtain ⟨startedAt, pending, written, produced⟩ := lease
  obtain ⟨tail, rfl⟩ := List.head?_eq_some_iff.mp isHead
  exact ⟨tail, written, produced, held⟩

/-- A write to one worker's transaction that locks nothing new keeps
transactions apart. -/
private theorem apart_of_set (sound : Sound queue)
    (fresh : ∀ id ∈ lease.ids, ∀ other lease', queue.leases.get? other = some lease' →
      id ∈ lease'.ids → worker = other) :
    ∀ first one second two, (queue.leases.set worker lease).get? first = some one →
      (queue.leases.set worker lease).get? second = some two →
        ∀ id ∈ one.ids, id ∈ two.ids → first = second := by
  intro first one second two heldOne heldTwo id member member'
  rcases InsertionMap.get?_set_eq_some heldOne with ⟨rfl, rfl⟩ | ⟨_, oldOne⟩
  · rcases InsertionMap.get?_set_eq_some heldTwo with ⟨rfl, _⟩ | ⟨_, oldTwo⟩
    · rfl
    · exact fresh id member second two oldTwo member'
  · rcases InsertionMap.get?_set_eq_some heldTwo with ⟨rfl, rfl⟩ | ⟨_, oldTwo⟩
    · exact (fresh id member' first one oldOne member).symm
    · exact sound.apart first one second two oldOne oldTwo id member member'

theorem poll_sound (sound : Sound queue) (polled : poll now limit worker queue = some after) :
    Sound after := by
  obtain ⟨free, rfl⟩ := poll_eq_some polled
  refine ⟨sound.ids, sound.fresh, ?_, apart_of_set sound ?_⟩
  · intro other lease found
    rcases InsertionMap.get?_set_eq_some found with ⟨rfl, rfl⟩ | ⟨_, old⟩
    · refine ⟨by simpa [Lease.ids] using select_ids_nodup sound.ids, ?_, nofun⟩
      intro row member
      obtain ⟨stored, isDue, _⟩ := mem_select member
      exact ⟨stored, due_undelivered isDue⟩
    · exact sound.held other lease old
  · intro id member other lease' held member'
    obtain ⟨row, selected, rfl⟩ := List.mem_map.mp member
    obtain ⟨_, _, unlocked⟩ := mem_select (by simpa using selected)
    exact absurd (locked_iff.mpr ⟨other, lease', held, member'⟩) (by simp [unlocked])

theorem settle_sound (sound : Sound queue) (settled : settle worker delivery extra queue = some after) :
    Sound after := by
  obtain ⟨startedAt, row, pending, written, produced, mine, rfl⟩ := settle_eq_some settled
  have holds := sound.held worker _ mine
  have sameIds : (⟨startedAt, pending, written ++ [{ row with delivery }], produced ++ extra⟩ : Lease α β).ids =
      (⟨startedAt, row :: pending, written, produced⟩ : Lease α β).ids := by
    simp [Lease.ids]
  refine ⟨sound.ids, sound.fresh, ?_, apart_of_set sound ?_⟩
  · intro other lease found
    rcases InsertionMap.get?_set_eq_some found with ⟨rfl, rfl⟩ | ⟨_, old⟩
    · refine ⟨sameIds ▸ holds.once, ?_, ?_⟩
      · exact fun other member => holds.pending other (List.mem_cons_of_mem _ member)
      · intro new member
        rcases List.mem_append.mp member with old | last
        · exact holds.written new old
        · rw [List.mem_singleton.mp last]
          obtain ⟨stored, undelivered⟩ := holds.pending row List.mem_cons_self
          exact ⟨row, stored, rfl, undelivered⟩
    · exact sound.held other lease old
  · intro id member other lease' held member'
    rw [sameIds] at member
    exact sound.apart worker _ other lease' mine held id member member'

theorem rollback_sound (worker : Nat) (sound : Sound queue) : Sound (rollback worker queue) := by
  refine ⟨sound.ids, sound.fresh, ?_, ?_⟩
  · intro other lease found
    exact sound.held other lease (InsertionMap.get?_erase_eq_some found).2
  · intro first one second two heldOne heldTwo
    exact sound.apart first one second two (InsertionMap.get?_erase_eq_some heldOne).2
      (InsertionMap.get?_erase_eq_some heldTwo).2

theorem commit_sound (sound : Sound queue) (committed : commit worker queue = some (after, produced)) :
    Sound after := by
  obtain ⟨startedAt, written, mine, rfl⟩ := commit_eq_some committed
  refine ⟨?_, ?_, ?_, (rollback_sound worker sound).apart⟩
  · have sameIds : (queue.rows.map (overlay written)).map Row.id = queue.rows.map Row.id := by
      rw [List.map_map]
      exact List.map_congr_left fun row _ => overlay_id written row
    simpa only [sameIds] using sound.ids
  · intro row member
    obtain ⟨old, stored, rfl⟩ := List.mem_map.mp member
    exact (overlay_id written old).symm ▸ sound.fresh old stored
  · intro other lease found
    obtain ⟨different, held⟩ := InsertionMap.get?_erase_eq_some found
    have holds := sound.held other lease held
    -- What another transaction has locked, this one has not written.
    have untouched : ∀ id ∈ lease.ids, id ∉ written.map Row.id := by
      intro id member settled
      refine different (sound.apart other lease worker _ held mine id member ?_)
      simpa [Lease.ids] using settled
    refine ⟨holds.once, ?_, ?_⟩
    · intro row member
      obtain ⟨stored, undelivered⟩ := holds.pending row member
      have kept : overlay written row = row := overlay_of_not_mem (untouched row.id
        (List.mem_map_of_mem (List.mem_append_right _ member)))
      exact ⟨List.mem_map.mpr ⟨row, stored, kept⟩, undelivered⟩
    · intro new member
      obtain ⟨old, stored, same, undelivered⟩ := holds.written new member
      have kept : overlay written old = old := by
        refine overlay_of_not_mem (untouched old.id ?_)
        rw [show old.id = new.id from congrArg Prod.fst same]
        exact List.mem_map_of_mem (List.mem_append_left _ member)
      exact ⟨old, List.mem_map.mpr ⟨old, stored, kept⟩, same, undelivered⟩

theorem mem_stamp {id : Nat} {data : List α} (member : row ∈ stamp now id data) :
    id ≤ row.id ∧ row.id < id + data.length ∧ row.data ∈ data ∧ row.delivery = .fresh now := by
  induction data generalizing id with
  | nil => cases member
  | cons first rest ih =>
    rcases List.mem_cons.mp member with rfl | later
    · simp
    · obtain ⟨above, below, known, fresh⟩ := ih later
      exact ⟨by omega, by simp only [List.length_cons]; omega, List.mem_cons_of_mem _ known, fresh⟩

theorem stamp_ids_nodup {id : Nat} {data : List α} : ((stamp now id data).map Row.id).Nodup := by
  induction data generalizing id with
  | nil => exact List.nodup_nil
  | cons first rest ih =>
    refine List.nodup_cons.mpr ⟨fun again => ?_, ih⟩
    obtain ⟨row, member, same⟩ := List.mem_map.mp again
    have := (mem_stamp member).1
    simp only at same
    omega

theorem map_data_stamp {id : Nat} (data : List α) : (stamp now id data).map Row.data = data := by
  induction data generalizing id with
  | nil => rfl
  | cons first rest ih => simp [stamp, ih]

theorem enqueue_nil (now : Int) (queue : Queue α β) : enqueue now [] queue = queue := by
  rw [enqueue, stamp, List.append_nil]
  rfl

theorem enqueue_sound (now : Int) (data : List α) (sound : Sound queue) :
    Sound (enqueue now data queue) := by
  refine ⟨?_, ?_, ?_, sound.apart⟩
  · rw [enqueue, List.map_append]
    refine List.nodup_append.mpr ⟨sound.ids, stamp_ids_nodup, ?_⟩
    rintro old oldMember new newMember rfl
    obtain ⟨row, stored, rfl⟩ := List.mem_map.mp oldMember
    obtain ⟨other, stamped, same⟩ := List.mem_map.mp newMember
    have below := sound.fresh row stored
    have above := (mem_stamp stamped).1
    omega
  · intro row member
    rcases List.mem_append.mp member with old | new
    · exact Nat.lt_add_right _ (sound.fresh row old)
    · exact (mem_stamp new).2.1
  · intro worker lease found
    have holds := sound.held worker lease found
    refine ⟨holds.once, fun row member => ?_, fun row member => ?_⟩
    · exact ⟨List.mem_append_left _ (holds.pending row member).1, (holds.pending row member).2⟩
    · obtain ⟨old, stored, rest⟩ := holds.written row member
      exact ⟨old, List.mem_append_left _ stored, rest⟩

theorem empty_sound : Sound (empty : Queue α β) :=
  ⟨List.nodup_nil, nofun, (fun _ _ found => nomatch found), (fun _ _ _ _ found => nomatch found)⟩

/-- No transaction changes what a row is about. -/
theorem commit_contents (sound : Sound queue) (committed : commit worker queue = some (after, produced)) :
    after.rows.map Row.content = queue.rows.map Row.content := by
  obtain ⟨startedAt, written, mine, rfl⟩ := commit_eq_some committed
  simp only [List.map_map]
  apply List.map_congr_left
  intro row member
  rcases overlay_cases written row with ⟨kept, _⟩ | ⟨settled, same⟩
  · simp [kept]
  · obtain ⟨old, stored, content, _⟩ := (sound.held worker _ mine).written _ settled
    rw [Function.comp_apply, ← content,
      eq_of_id sound.ids stored member ((congrArg Prod.fst content).trans same)]

/-- A commit never touches a row delivered earlier. -/
theorem commit_keeps_delivered (sound : Sound queue)
    (committed : commit worker queue = some (after, produced)) (member : row ∈ queue.rows)
    (delivered : row.delivery.deliveredAt ≠ none) : row ∈ after.rows := by
  obtain ⟨startedAt, written, mine, rfl⟩ := commit_eq_some committed
  refine List.mem_map.mpr ⟨row, member, overlay_of_not_mem fun settled => ?_⟩
  obtain ⟨new, isNew, sameId⟩ := List.mem_map.mp settled
  obtain ⟨old, stored, content, undelivered⟩ := (sound.held worker _ mine).written new isNew
  rw [eq_of_id sound.ids member stored (sameId.symm.trans (congrArg Prod.fst content).symm)] at delivered
  exact delivered undelivered

/-! ## Delivered rows

What a worker establishes before it writes `delivered_at` holds of every row
that is found delivered. -/

structure Settled (Done : Nat × α → Prop) (queue : Queue α β) : Prop where
  rows : ∀ row ∈ queue.rows, row.delivery.deliveredAt ≠ none → Done row.content
  written : ∀ worker lease, queue.leases.get? worker = some lease → ∀ row ∈ lease.written,
    row.delivery.deliveredAt ≠ none → Done row.content

variable {Done : Nat × α → Prop}

theorem Settled.mono {Later : Nat × α → Prop} (settled : Settled Done queue)
    (later : ∀ content, Done content → Later content) : Settled Later queue :=
  ⟨fun row member delivered => later _ (settled.rows row member delivered),
    fun worker lease held row member delivered =>
      later _ (settled.written worker lease held row member delivered)⟩

theorem empty_settled : Settled Done (empty : Queue α β) := ⟨nofun, fun _ _ found => nomatch found⟩

theorem poll_settled (settled : Settled Done queue)
    (polled : poll now limit worker queue = some after) : Settled Done after := by
  obtain ⟨-, rfl⟩ := poll_eq_some polled
  refine ⟨settled.rows, ?_⟩
  intro other lease found row member
  rcases InsertionMap.get?_set_eq_some found with ⟨rfl, rfl⟩ | ⟨_, old⟩
  · cases member
  · exact settled.written other lease old row member

theorem settle_settled (settled : Settled Done queue)
    (done : delivery.deliveredAt ≠ none → ∀ startedAt row,
      queue.next? worker = some (startedAt, row) → Done row.content)
    (stepped : settle worker delivery extra queue = some after) : Settled Done after := by
  obtain ⟨startedAt, next, pending, written, produced, mine, rfl⟩ := settle_eq_some stepped
  refine ⟨settled.rows, ?_⟩
  intro other lease found row member delivered
  rcases InsertionMap.get?_set_eq_some found with ⟨rfl, rfl⟩ | ⟨_, old⟩
  · rcases List.mem_append.mp member with earlier | last
    · exact settled.written other _ mine row earlier delivered
    · rw [List.mem_singleton.mp last] at delivered ⊢
      exact done delivered startedAt next (by simp [Queue.next?, mine])
  · exact settled.written other lease old row member delivered

theorem rollback_settled (worker : Nat) (settled : Settled Done queue) :
    Settled Done (rollback worker queue) :=
  ⟨settled.rows, fun other lease found =>
    settled.written other lease (InsertionMap.get?_erase_eq_some found).2⟩

theorem commit_settled (settled : Settled Done queue)
    (committed : commit worker queue = some (after, produced)) : Settled Done after := by
  obtain ⟨startedAt, written, mine, rfl⟩ := commit_eq_some committed
  refine ⟨?_, (rollback_settled worker settled).written⟩
  intro row member delivered
  obtain ⟨old, stored, rfl⟩ := List.mem_map.mp member
  rcases overlay_cases written old with ⟨kept, _⟩ | ⟨new, _⟩
  · rw [kept] at delivered ⊢
    exact settled.rows old stored delivered
  · exact settled.written worker _ mine _ new delivered

theorem enqueue_settled (now : Int) (data : List α) (settled : Settled Done queue) :
    Settled Done (enqueue now data queue) := by
  refine ⟨?_, settled.written⟩
  intro row member delivered
  rcases List.mem_append.mp member with old | new
  · exact settled.rows row old delivered
  · rw [(mem_stamp new).2.2.2] at delivered
    exact absurd rfl delivered

/-! ## What the rows are about

Data are written once, by whoever inserts the row, so what holds of all data
inserted holds of every row a transaction locks, and commits keep it. -/

structure Carries (Fits : α → Prop) (FitsProduct : β → Prop) (queue : Queue α β) : Prop where
  rows : ∀ row ∈ queue.rows, Fits row.data
  locked : ∀ worker lease, queue.leases.get? worker = some lease →
    ∀ row ∈ lease.written ++ lease.pending, Fits row.data
  produced : ∀ worker lease, queue.leases.get? worker = some lease → ∀ extra ∈ lease.produced, FitsProduct extra

variable {Fits : α → Prop} {FitsProduct : β → Prop}

theorem empty_carries : Carries Fits FitsProduct (empty : Queue α β) :=
  ⟨nofun, (fun _ _ found => nomatch found), (fun _ _ found => nomatch found)⟩

theorem Carries.next (carries : Carries Fits FitsProduct queue) {startedAt : Int}
    (next : queue.next? worker = some (startedAt, row)) : Fits row.data := by
  obtain ⟨pending, written, produced, mine⟩ := next?_eq_some next
  exact carries.locked worker _ mine row (List.mem_append_right _ List.mem_cons_self)

theorem Carries.enqueue (carries : Carries Fits FitsProduct queue) (now : Int) {data : List α}
    (fits : ∀ datum ∈ data, Fits datum) : Carries Fits FitsProduct (enqueue now data queue) := by
  refine ⟨fun row member => ?_, carries.locked, carries.produced⟩
  rcases List.mem_append.mp member with old | new
  · exact carries.rows row old
  · exact fits _ (mem_stamp new).2.2.1

/-- A write to one worker's transaction. -/
private theorem Carries.set (carries : Carries Fits FitsProduct queue) {lease : Lease α β}
    (locked : ∀ row ∈ lease.written ++ lease.pending, Fits row.data)
    (produced : ∀ extra ∈ lease.produced, FitsProduct extra) :
    Carries Fits FitsProduct { queue with leases := queue.leases.set worker lease } := by
  refine ⟨carries.rows, fun other held found => ?_, fun other held found => ?_⟩
  · rcases InsertionMap.get?_set_eq_some found with ⟨rfl, rfl⟩ | ⟨_, old⟩
    · exact locked
    · exact carries.locked other held old
  · rcases InsertionMap.get?_set_eq_some found with ⟨rfl, rfl⟩ | ⟨_, old⟩
    · exact produced
    · exact carries.produced other held old

theorem Carries.poll (carries : Carries Fits FitsProduct queue)
    (polled : poll now limit worker queue = some after) : Carries Fits FitsProduct after := by
  obtain ⟨-, rfl⟩ := poll_eq_some polled
  apply carries.set
  · intro row member
    exact carries.rows row (mem_select member).1
  · exact nofun

theorem Carries.settle (carries : Carries Fits FitsProduct queue) (fits : ∀ product ∈ extra, FitsProduct product)
    (settled : settle worker delivery extra queue = some after) : Carries Fits FitsProduct after := by
  obtain ⟨startedAt, next, pending, written, produced, mine, rfl⟩ := settle_eq_some settled
  have locked := carries.locked worker _ mine
  apply carries.set
  · intro row member
    rw [List.append_assoc, List.mem_append, List.mem_append, List.mem_singleton] at member
    rcases member with earlier | rfl | later
    · exact locked row (List.mem_append_left _ earlier)
    · exact locked next (List.mem_append_right _ List.mem_cons_self)
    · exact locked row (List.mem_append_right _ (List.mem_cons_of_mem _ later))
  · intro product member
    exact (List.mem_append.mp member).elim (carries.produced worker _ mine product) (fits product)

theorem Carries.rollback (carries : Carries Fits FitsProduct queue) (worker : Nat) :
    Carries Fits FitsProduct (rollback worker queue) :=
  ⟨carries.rows, fun other lease found => carries.locked other lease (InsertionMap.get?_erase_eq_some found).2,
    fun other lease found => carries.produced other lease (InsertionMap.get?_erase_eq_some found).2⟩

theorem Carries.commit (carries : Carries Fits FitsProduct queue)
    (committed : commit worker queue = some (after, produced)) :
    Carries Fits FitsProduct after ∧ ∀ product ∈ produced, FitsProduct product := by
  obtain ⟨startedAt, written, mine, rfl⟩ := commit_eq_some committed
  have kept := carries.rollback worker
  refine ⟨⟨fun row member => ?_, kept.locked, kept.produced⟩, carries.produced worker _ mine⟩
  obtain ⟨old, stored, rfl⟩ := List.mem_map.mp member
  rcases overlay_cases written old with ⟨same, _⟩ | ⟨new, _⟩
  · rw [same]
    exact carries.rows old stored
  · exact carries.locked worker _ mine _ (List.mem_append_left _ new)

end EmissionsPlatform.LeaseQueue
