import EmissionsPlatform.Foundation.Drain
import Mathlib.Algebra.Ring.Nat
import Mathlib.Data.List.Perm.Subperm

/-! How long a row of a drained table can wait. A tick takes the rows that have
been due for longest, so a tick that passes over a due row fills its batch with
rows ahead of it. A row that fails is put off until after its tick began, and
does not come ahead of one that was due before. So what is ahead of a waiting
row only shrinks, but for ticks that are rolled back and rows that are inserted
with an earlier instant: `run_bounded` counts them. -/
namespace EmissionsPlatform.BoundedWaiting
open LeaseQueue Drain Transition
set_option autoImplicit false

variable {α β : Type}

/-- A failed attempt puts its row off until after the tick began. -/
structure PutsOff (handler : Handler α β) : Prop extends Marks handler where
  later : ∀ startedAt row error random,
    startedAt < (handler startedAt row (.failed error random)).1.availableAt

/-- A tick that began before the instant has locked the row. -/
def lockedBefore (instant : Int) (queue : Queue α β) (id : Nat) : Bool :=
  queue.leases.values.any fun lease => decide (lease.startedAt < instant ∧ id ∈ lease.ids)

/-- The other row comes first: it is undelivered, and a tick that began before
the row was due has locked it, or nobody has and it was due no later. -/
def comesFirst (row : Row α) (queue : Queue α β) (other : Row α) : Bool :=
  decide (other.id ≠ row.id) && other.delivery.deliveredAt.isNone &&
    (lockedBefore row.delivery.availableAt queue other.id ||
      !queue.locked other.id && decide (other.delivery.availableAt ≤ row.delivery.availableAt))

/-- How many rows are ahead of a row. -/
def ahead (row : Row α) (queue : Queue α β) : Nat := queue.rows.countP (comesFirst row queue)

/-- Nobody has delivered the row, or locked it. -/
structure Waits (row : Row α) (queue : Queue α β) : Prop where
  stored : row ∈ queue.rows
  undelivered : row.delivery.deliveredAt = none
  unlocked : queue.locked row.id = false

/-- The step is a tick that begins when the row is due. -/
def isTurn (row : Row α) : Action α → Bool
  | .poll _ now => decide (row.delivery.availableAt ≤ now)
  | _ => false

/-- What a step may put ahead of a row: a batch that is rolled back, or rows
inserted with an instant at which the row is not due yet. -/
def setback (row : Row α) (limit : Nat) : Action α → Nat
  | .enqueue now data => if now ≤ row.delivery.availableAt then data.length else 0
  | .rollback _ => limit
  | .poll _ _ | .deliver _ _ | .commit _ => 0

/-- The step is not a tick that takes the row. -/
def PassesOver (row : Row α) (limit : Nat) (state : State α β) : Action α → Prop
  | .poll _ now => row ∉ select now limit state.queue
  | _ => True

variable {handler : Handler α β} {limit worker : Nat} {state after : State α β} {actions : List (Action α)}
variable {queue queue' : Queue α β} {row other : Row α} {now instant : Int}

theorem lockedBefore_iff {id : Nat} :
    lockedBefore instant queue id = true ↔
      ∃ worker lease, queue.leases.get? worker = some lease ∧ lease.startedAt < instant ∧ id ∈ lease.ids := by
  simp only [lockedBefore, List.any_eq_true, decide_eq_true_eq, InsertionMap.mem_values_iff]
  constructor
  · rintro ⟨lease, ⟨worker, held⟩, early, member⟩
    exact ⟨worker, lease, held, early, member⟩
  · rintro ⟨worker, lease, held, early, member⟩
    exact ⟨lease, ⟨worker, held⟩, early, member⟩

theorem comesFirst_iff :
    comesFirst row queue other = true ↔ other.id ≠ row.id ∧ other.delivery.deliveredAt = none ∧
      (lockedBefore row.delivery.availableAt queue other.id = true ∨
        queue.locked other.id = false ∧ other.delivery.availableAt ≤ row.delivery.availableAt) := by
  simp [comesFirst, and_assoc]

/-! ## What the ticks keep -/

/-- What a tick has written is delivered, or put off until after it began. -/
def Deferred (queue : Queue α β) : Prop :=
  ∀ worker lease, queue.leases.get? worker = some lease → ∀ row ∈ lease.written,
    row.delivery.deliveredAt ≠ none ∨ lease.startedAt < row.delivery.availableAt

/-- No tick has locked more rows than its batch holds. -/
def Batched (limit : Nat) (queue : Queue α β) : Prop :=
  ∀ worker lease, queue.leases.get? worker = some lease → lease.ids.length ≤ limit

structure Regular (limit : Nat) (queue : Queue α β) : Prop where
  sound : Sound queue
  deferred : Deferred queue
  batched : Batched limit queue

/-- The transactions open after a step: one that was open before, one that has
just begun, or one that has settled its next row. -/
theorem step_lease {action : Action α} {lease : Lease α β} (stepped : step handler limit state action = some after)
    (held : after.queue.leases.get? worker = some lease) :
    state.queue.leases.get? worker = some lease ∨
      (∃ now, action = .poll worker now ∧ lease = ⟨now, select now limit state.queue, [], []⟩) ∨
        ∃ startedAt row pending written produced outcome,
          state.queue.leases.get? worker = some ⟨startedAt, row :: pending, written, produced⟩ ∧
            lease = ⟨startedAt, pending, written ++ [{ row with delivery := (handler startedAt row outcome).1 }],
              produced ++ (handler startedAt row outcome).2⟩ := by
  cases action with
  | enqueue now data => cases stepped; exact Or.inl held
  | poll polling now =>
    obtain ⟨queue, polled, rfl⟩ := Option.map_eq_some_iff.mp stepped
    obtain ⟨_, rfl⟩ := poll_eq_some polled
    rcases InsertionMap.get?_set_eq_some held with ⟨rfl, rfl⟩ | ⟨_, old⟩
    · exact Or.inr (Or.inl ⟨now, rfl, rfl⟩)
    · exact Or.inl old
  | deliver settling outcome =>
    obtain ⟨startedAt, next, isNext, queue, settled, rfl⟩ := step_deliver stepped
    obtain ⟨startedAt', next', pending, written, produced, mine, rfl⟩ := settle_eq_some settled
    rcases InsertionMap.get?_set_eq_some held with ⟨rfl, rfl⟩ | ⟨_, old⟩
    · simp only [Queue.next?, mine, Option.bind_some, List.head?_cons, Option.map_some, Option.some.injEq,
        Prod.mk.injEq] at isNext
      obtain ⟨rfl, rfl⟩ := isNext
      exact Or.inr (Or.inr ⟨_, _, _, _, _, outcome, mine, rfl⟩)
    · exact Or.inl old
  | commit committing =>
    obtain ⟨⟨queue, produced⟩, committed, rfl⟩ := Option.map_eq_some_iff.mp stepped
    obtain ⟨_, _, _, rfl⟩ := commit_eq_some committed
    exact Or.inl (InsertionMap.get?_erase_eq_some held).2
  | rollback worker =>
    cases stepped
    exact Or.inl (InsertionMap.get?_erase_eq_some held).2

theorem step_batched {action : Action α} (batched : Batched limit state.queue)
    (stepped : step handler limit state action = some after) : Batched limit after.queue := by
  intro worker lease held
  rcases step_lease stepped held with
    old | ⟨now, rfl, rfl⟩ | ⟨startedAt, next, pending, earlier, produced, outcome, mine, rfl⟩
  · exact batched worker lease old
  · simp only [Lease.ids, List.nil_append, List.length_map, select]
    exact List.length_take_le _ _
  · simpa [Lease.ids] using batched worker _ mine

theorem step_regular (putsOff : PutsOff handler) {action : Action α} (regular : Regular limit state.queue)
    (stepped : step handler limit state action = some after) : Regular limit after.queue := by
  refine ⟨step_sound regular.sound stepped, ?_, step_batched regular.batched stepped⟩
  intro worker lease held row written
  rcases step_lease stepped held with
    old | ⟨now, rfl, rfl⟩ | ⟨startedAt, next, pending, earlier, produced, outcome, mine, rfl⟩
  · exact regular.deferred worker lease old row written
  · cases written
  · rcases List.mem_append.mp written with already | last
    · exact regular.deferred worker _ mine row already
    · rw [List.mem_singleton.mp last]
      cases outcome with
      | delivered => exact Or.inl (putsOff.delivered startedAt next)
      | failed error random => exact Or.inr (putsOff.later startedAt next error random)

theorem started_regular {rows : List (Row α)} {nextId : Nat} (ids : (rows.map Row.id).Nodup)
    (fresh : ∀ row ∈ rows, row.id < nextId) : Regular limit (started rows nextId : State α β).queue :=
  ⟨started_sound ids fresh, (fun _ _ held => nomatch held), (fun _ _ held => nomatch held)⟩

theorem run_regular (putsOff : PutsOff handler) {start : State α β} (regular : Regular limit start.queue)
    (ran : run (step handler limit) start actions = some state) : Regular limit state.queue :=
  run_invariant (fun state => Regular limit state.queue)
    (fun regular stepped => step_regular putsOff regular stepped) regular ran

/-! ## A batch that passes over a row -/

/-- A batch that has no room for a due row is full, of rows due no later. -/
theorem full_batch (stored : row ∈ queue.rows) (isDue : due now row = true) (unlocked : queue.locked row.id = false)
    (missed : row ∉ select now limit queue) :
    (select now limit queue).length = limit ∧
      ∀ other ∈ select now limit queue, other.delivery.availableAt ≤ row.delivery.availableAt := by
  have sorted := List.pairwise_insertionSort (fun a b : Row α => a.delivery.availableAt ≤ b.delivery.availableAt)
    (queue.rows.filter fun row => due now row && !queue.locked row.id)
  have waiting : row ∈ (queue.rows.filter fun row => due now row && !queue.locked row.id).insertionSort
      fun a b => a.delivery.availableAt ≤ b.delivery.availableAt := by
    rw [List.mem_insertionSort, List.mem_filter]
    exact ⟨stored, by simp [isDue, unlocked]⟩
  unfold select at missed ⊢
  generalize (queue.rows.filter fun row => due now row && !queue.locked row.id).insertionSort
    (fun a b => a.delivery.availableAt ≤ b.delivery.availableAt) = line at sorted waiting missed ⊢
  -- The row stands behind the cut.
  have behind : row ∈ line.drop limit := by
    rw [← List.take_append_drop limit line] at waiting
    exact (List.mem_append.mp waiting).resolve_left missed
  constructor
  · have beyond := List.length_pos_of_mem behind
    rw [List.length_drop] at beyond
    rw [List.length_take]
    omega
  · intro other chosen
    rw [← List.take_append_drop limit line] at sorted
    exact (List.pairwise_append.mp sorted).2.2 other chosen row behind

/-! ## Counting rows -/

theorem countP_add_le {γ : Type} {all some also : γ → Bool} {rows : List γ}
    (apart : ∀ row ∈ rows, some row = true → all row = true ∧ also row = false)
    (within : ∀ row ∈ rows, also row = true → all row = true) :
    rows.countP some + rows.countP also ≤ rows.countP all := by
  induction rows with
  | nil => exact Nat.le_refl 0
  | cons row rest ih =>
    have smaller := ih (fun other member => apart other (List.mem_cons_of_mem _ member))
      (fun other member => within other (List.mem_cons_of_mem _ member))
    have first := apart row List.mem_cons_self
    have second := within row List.mem_cons_self
    simp only [List.countP_cons]
    cases isSome : some row
    · cases isAlso : also row
      · simp only [Bool.false_eq_true, if_false]
        omega
      · simp only [second isAlso, Bool.false_eq_true, if_false, if_true]
        omega
    · simp only [first isSome, Bool.false_eq_true, if_false, if_true]
      omega

theorem countP_or_le {γ : Type} (one two : γ → Bool) (rows : List γ) :
    rows.countP (fun row => one row || two row) ≤ rows.countP one + rows.countP two := by
  induction rows with
  | nil => exact Nat.le_refl 0
  | cons row rest ih =>
    simp only [List.countP_cons]
    cases one row <;> cases two row <;> simp only [Bool.or_self, Bool.or_true, Bool.true_or, Bool.false_eq_true,
      if_true, if_false] <;> omega

/-- Each id names at most one row. -/
theorem countP_ids_le {rows : List (Row α)} (nodup : (rows.map Row.id).Nodup) (ids : List Nat) :
    rows.countP (fun row => decide (row.id ∈ ids)) ≤ ids.length := by
  rw [List.countP_eq_length_filter, ← List.length_map Row.id]
  apply List.Subperm.length_le
  apply List.subperm_of_subset (nodup.sublist (List.filter_sublist.map _))
  intro id member
  obtain ⟨row, kept, rfl⟩ := List.mem_map.mp member
  exact of_decide_eq_true (List.mem_filter.mp kept).2

/-- Rows of the table are there to be counted. -/
theorem length_le_countP_ids {rows chosen : List (Row α)} (nodup : (chosen.map Row.id).Nodup)
    (stored : ∀ row ∈ chosen, row ∈ rows) :
    chosen.length ≤ rows.countP fun row => decide (row.id ∈ chosen.map Row.id) := by
  rw [List.countP_eq_length_filter]
  apply List.Subperm.length_le
  apply List.subperm_of_subset nodup.of_map
  intro row member
  exact List.mem_filter.mpr ⟨stored row member, decide_eq_true (List.mem_map_of_mem member)⟩

/-! ## What a step does to the rows ahead -/

section
variable {Meets : Lease α β → Prop} {leases : InsertionMap Nat (Lease α β)} {lease : Lease α β}

/-- A new transaction is one more. -/
private theorem exists_lease_of_free (free : leases.get? worker = none) :
    (∃ other found, (leases.set worker lease).get? other = some found ∧ Meets found) ↔
      (∃ other found, leases.get? other = some found ∧ Meets found) ∨ Meets lease := by
  constructor
  · rintro ⟨other, found, held, meets⟩
    rcases InsertionMap.get?_set_eq_some held with ⟨rfl, rfl⟩ | ⟨_, old⟩
    · exact Or.inr meets
    · exact Or.inl ⟨other, found, old, meets⟩
  · rintro (⟨other, found, held, meets⟩ | meets)
    · refine ⟨other, found, ?_, meets⟩
      rwa [InsertionMap.get?_set_ne]
      rintro rfl
      exact nomatch free.symm.trans held
    · exact ⟨worker, lease, InsertionMap.get?_set_self, meets⟩

/-- A transaction that goes on is the same one. -/
private theorem exists_lease_of_held {old : Lease α β} (mine : leases.get? worker = some old)
    (same : Meets lease ↔ Meets old) :
    (∃ other found, (leases.set worker lease).get? other = some found ∧ Meets found) ↔
      ∃ other found, leases.get? other = some found ∧ Meets found := by
  constructor
  · rintro ⟨other, found, held, meets⟩
    rcases InsertionMap.get?_set_eq_some held with ⟨rfl, rfl⟩ | ⟨_, held⟩
    · exact ⟨other, old, mine, same.mp meets⟩
    · exact ⟨other, found, held, meets⟩
  · rintro ⟨other, found, held, meets⟩
    by_cases moved : other = worker
    · subst moved
      cases Option.some.inj (mine.symm.trans held)
      exact ⟨other, lease, InsertionMap.get?_set_self, same.mpr meets⟩
    · exact ⟨other, found, by rwa [InsertionMap.get?_set_ne moved], meets⟩

end

theorem locked_poll (polled : poll now limit worker queue = some queue') (id : Nat) :
    queue'.locked id = true ↔ queue.locked id = true ∨ id ∈ (select now limit queue).map Row.id := by
  obtain ⟨free, rfl⟩ := poll_eq_some polled
  rw [locked_iff, locked_iff, exists_lease_of_free free]
  simp [Lease.ids]

theorem lockedBefore_poll (polled : poll now limit worker queue = some queue') (id : Nat) :
    lockedBefore instant queue' id = true ↔
      lockedBefore instant queue id = true ∨ now < instant ∧ id ∈ (select now limit queue).map Row.id := by
  obtain ⟨free, rfl⟩ := poll_eq_some polled
  rw [lockedBefore_iff, lockedBefore_iff, exists_lease_of_free free]
  simp [Lease.ids]

/-- A tick that passes over a row moves only the rows it takes. -/
private theorem comesFirst_of_poll (polled : poll now limit worker queue = some queue')
    (first : comesFirst row queue' other = true) :
    comesFirst row queue other = true ∧ other.id ∉ (select now limit queue).map Row.id ∨
      now < row.delivery.availableAt ∧ other.id ∈ (select now limit queue).map Row.id := by
  obtain ⟨different, undelivered, place⟩ := comesFirst_iff.mp first
  by_cases chosen : other.id ∈ (select now limit queue).map Row.id
  · refine Or.inr ⟨?_, chosen⟩
    obtain ⟨picked, isPicked, same⟩ := List.mem_map.mp chosen
    have free := (mem_select isPicked).2.2
    rw [same] at free
    rcases place with early | ⟨unlocked, _⟩
    · rcases (lockedBefore_poll polled other.id).mp early with old | ⟨before, _⟩
      · obtain ⟨holder, lease, held, _, inside⟩ := lockedBefore_iff.mp old
        exact absurd (locked_iff.mpr ⟨holder, lease, held, inside⟩) (by simp [free])
      · exact before
    · exact absurd ((locked_poll polled other.id).mpr (Or.inr chosen)) (by simp [unlocked])
  · refine Or.inl ⟨comesFirst_iff.mpr ⟨different, undelivered, ?_⟩, chosen⟩
    rcases place with early | ⟨unlocked, sooner⟩
    · exact Or.inl (((lockedBefore_poll polled other.id).mp early).resolve_right fun new => chosen new.2)
    · refine Or.inr ⟨?_, sooner⟩
      by_contra locked
      exact absurd ((locked_poll polled other.id).mpr (Or.inl (by simpa using locked))) (by simp [unlocked])

/-- What a tick takes from before a row came first. -/
private theorem comesFirst_of_chosen (sound : Sound queue) (waits : Waits row queue)
    (missed : row ∉ select now limit queue) (stored : other ∈ queue.rows)
    (chosen : other.id ∈ (select now limit queue).map Row.id)
    (earlier : ∀ other ∈ select now limit queue, other.delivery.availableAt ≤ row.delivery.availableAt) :
    comesFirst row queue other = true := by
  obtain ⟨picked, isPicked, same⟩ := List.mem_map.mp chosen
  obtain rfl := List.inj_on_of_nodup_map sound.ids (mem_select isPicked).1 stored same
  obtain ⟨_, isDue, unlocked⟩ := mem_select isPicked
  refine comesFirst_iff.mpr ⟨fun sameId => missed ?_, due_undelivered isDue, Or.inr ⟨unlocked, earlier picked isPicked⟩⟩
  rwa [← List.inj_on_of_nodup_map sound.ids stored waits.stored sameId]

/-- A tick that passes over a row takes a whole batch of those ahead of it,
when the row is due. -/
theorem ahead_poll_le (sound : Sound queue) (waits : Waits row queue)
    (polled : poll now limit worker queue = some queue') (missed : row ∉ select now limit queue) :
    ahead row queue' + (if row.delivery.availableAt ≤ now then limit else 0) ≤ ahead row queue := by
  have rows : queue'.rows = queue.rows := by rw [(poll_eq_some polled).2]
  unfold ahead
  rw [rows]
  by_cases passed : row.delivery.availableAt ≤ now
  · have isDue : due now row = true := by simp [due, waits.undelivered, passed]
    obtain ⟨full, earlier⟩ := full_batch waits.stored isDue waits.unlocked missed
    have batch : (select now limit queue).length ≤
        queue.rows.countP fun other => decide (other.id ∈ (select now limit queue).map Row.id) :=
      length_le_countP_ids (select_ids_nodup sound.ids) fun other chosen => (mem_select chosen).1
    rw [full] at batch
    rw [if_pos passed]
    refine (Nat.add_le_add_left batch _).trans (countP_add_le ?_ ?_)
    · intro other _ first
      rcases comesFirst_of_poll polled first with ⟨old, notChosen⟩ | ⟨before, _⟩
      · exact ⟨old, decide_eq_false notChosen⟩
      · omega
    · intro other stored chosen
      exact comesFirst_of_chosen sound waits missed stored (of_decide_eq_true chosen) earlier
  · rw [if_neg passed]
    refine List.countP_mono_left fun other stored first => ?_
    rcases comesFirst_of_poll polled first with ⟨old, _⟩ | ⟨before, chosen⟩
    · exact old
    · refine comesFirst_of_chosen sound waits missed stored chosen fun picked isPicked => ?_
      have isDue := (mem_select isPicked).2.1
      simp only [due, Bool.and_eq_true, decide_eq_true_eq] at isDue
      omega

private theorem lease_id_lt (sound : Sound queue) {lease : Lease α β} {id : Nat}
    (held : queue.leases.get? worker = some lease) (inside : id ∈ lease.ids) : id < queue.nextId := by
  have holds := sound.held worker lease held
  obtain ⟨locked, member, rfl⟩ := List.mem_map.mp inside
  rcases List.mem_append.mp member with written | pending
  · obtain ⟨old, stored, same, _⟩ := holds.written locked written
    rw [← show old.id = locked.id from congrArg Prod.fst same]
    exact sound.fresh old stored
  · exact sound.fresh locked (holds.pending locked pending).1

/-- Rows inserted with a later instant are behind. -/
theorem ahead_enqueue_le (sound : Sound queue) (row : Row α) (data : List α) :
    ahead row (enqueue now data queue) ≤
      ahead row queue + if now ≤ row.delivery.availableAt then data.length else 0 := by
  have rows : (enqueue now data queue).rows = queue.rows ++ stamp now queue.nextId data := rfl
  have old : queue.rows.countP (comesFirst row (enqueue now data queue)) = ahead row queue := rfl
  rw [ahead, rows, List.countP_append, old]
  apply Nat.add_le_add_left
  split
  · refine List.countP_le_length.trans (Nat.le_of_eq ?_)
    rw [← List.length_map Row.data, map_data_stamp]
  · rename_i late
    rw [Nat.le_zero, List.countP_eq_zero]
    intro new stamped first
    obtain ⟨above, -, -, fresh⟩ := mem_stamp stamped
    obtain ⟨-, -, place⟩ := comesFirst_iff.mp first
    rcases place with early | ⟨-, sooner⟩
    · obtain ⟨worker, lease, held, -, inside⟩ := lockedBefore_iff.mp early
      have below := lease_id_lt sound held inside
      omega
    · rw [fresh] at sooner
      exact late sooner

/-- An attempt is seen by nobody before its tick commits. -/
theorem ahead_settle {delivery : Delivery} {extra : List β} (row : Row α)
    (settled : settle worker delivery extra queue = some queue') : ahead row queue' = ahead row queue := by
  obtain ⟨startedAt, next, pending, written, produced, mine, rfl⟩ := settle_eq_some settled
  apply List.countP_congr
  intro other _
  have locked : ∀ id, (⟨queue.rows, queue.leases.set worker ⟨startedAt, pending, written ++ [{ next with delivery }],
      produced ++ extra⟩, queue.nextId⟩ : Queue α β).locked id = queue.locked id := by
    intro id
    rw [Bool.eq_iff_iff, locked_iff, locked_iff]
    exact exists_lease_of_held mine (by simp [Lease.ids])
  have early : ∀ id, lockedBefore row.delivery.availableAt (⟨queue.rows, queue.leases.set worker
      ⟨startedAt, pending, written ++ [{ next with delivery }], produced ++ extra⟩, queue.nextId⟩ : Queue α β) id =
        lockedBefore row.delivery.availableAt queue id := by
    intro id
    rw [Bool.eq_iff_iff, lockedBefore_iff, lockedBefore_iff]
    exact exists_lease_of_held mine (by simp [Lease.ids])
  rw [comesFirst_iff, comesFirst_iff, locked, early]

/-- A tick that ends gives back its rows and those of no other. -/
private theorem locked_erase {rows : List (Row α)} {id : Nat}
    (other : ∀ lease, queue.leases.get? worker = some lease → id ∉ lease.ids) :
    (⟨rows, queue.leases.erase worker, queue.nextId⟩ : Queue α β).locked id = queue.locked id ∧
      lockedBefore instant (⟨rows, queue.leases.erase worker, queue.nextId⟩ : Queue α β) id =
        lockedBefore instant queue id := by
  have kept : ∀ holder lease, id ∈ lease.ids →
      ((queue.leases.erase worker).get? holder = some lease ↔ queue.leases.get? holder = some lease) := by
    intro holder lease inside
    rw [InsertionMap.get?_erase]
    split
    · rename_i same
      subst same
      constructor
      · exact fun erased => absurd erased (Option.some_ne_none lease).symm
      · exact fun held => absurd inside (other lease held)
    · exact Iff.rfl
  constructor
  · rw [Bool.eq_iff_iff, locked_iff, locked_iff]
    exact exists_congr fun holder => exists_congr fun lease => and_congr_left fun inside => kept holder lease inside
  · rw [Bool.eq_iff_iff, lockedBefore_iff, lockedBefore_iff]
    exact exists_congr fun holder => exists_congr fun lease =>
      and_congr_left fun inside => kept holder lease inside.2

/-- What a committed tick has written is delivered or comes later. -/
theorem ahead_commit_le {produced : List β} (regular : Regular limit queue) (row : Row α)
    (committed : commit worker queue = some (queue', produced)) : ahead row queue' ≤ ahead row queue := by
  obtain ⟨startedAt, written, mine, rfl⟩ := commit_eq_some committed
  unfold ahead
  rw [List.countP_map]
  refine List.countP_mono_left fun other stored first => ?_
  obtain ⟨different, undelivered, place⟩ := comesFirst_iff.mp first
  rw [overlay_id] at different place
  rcases overlay_cases written other with ⟨same, untouched⟩ | ⟨settled, _⟩
  · rw [same] at undelivered place
    obtain ⟨locked, early⟩ := @locked_erase α β worker queue row.delivery.availableAt
      (queue.rows.map (overlay written)) other.id fun lease held => by
        cases Option.some.inj (mine.symm.trans held)
        simpa [Lease.ids] using untouched
    rw [locked, early] at place
    exact comesFirst_iff.mpr ⟨different, undelivered, place⟩
  · have inside : other.id ∈ (⟨startedAt, [], written, produced⟩ : Lease α β).ids := by
      rw [← overlay_id written other, Lease.ids, List.append_nil]
      exact List.mem_map_of_mem settled
    obtain ⟨old, oldStored, content, oldUndelivered⟩ := (regular.sound.held worker _ mine).written _ settled
    have same : old = other := List.inj_on_of_nodup_map regular.sound.ids oldStored stored
      ((congrArg Prod.fst content).trans (overlay_id written other))
    subst same
    refine comesFirst_iff.mpr ⟨different, oldUndelivered, Or.inl ?_⟩
    refine lockedBefore_iff.mpr ⟨worker, _, mine, ?_, inside⟩
    rcases place with early | ⟨_, sooner⟩
    · -- Nobody else holds the row.
      obtain ⟨holder, lease, held, _, member⟩ := lockedBefore_iff.mp early
      obtain ⟨moved, held⟩ := InsertionMap.get?_erase_eq_some held
      exact absurd (regular.sound.apart holder lease worker _ held mine old.id member inside) moved
    · have later := (regular.deferred worker _ mine _ settled).resolve_left (fun delivered => delivered undelivered)
      exact lt_of_lt_of_le later sooner

/-- A tick that is rolled back may put one batch ahead. -/
theorem ahead_rollback_le (regular : Regular limit queue) (row : Row α) :
    ahead row (rollback worker queue) ≤ ahead row queue + limit := by
  have rows : (rollback worker queue).rows = queue.rows := rfl
  unfold ahead
  rw [rows]
  cases mine : queue.leases.get? worker with
  | none =>
    refine (List.countP_mono_left fun other stored first => ?_).trans (Nat.le_add_right _ _)
    obtain ⟨locked, early⟩ := @locked_erase α β worker queue row.delivery.availableAt queue.rows other.id
      fun lease held => absurd (mine.symm.trans held) (Option.some_ne_none lease).symm
    rw [comesFirst_iff] at first ⊢
    rwa [rollback, locked, early] at first
  | some lease =>
    have few := (countP_ids_le regular.sound.ids lease.ids).trans (regular.batched worker lease mine)
    have split : queue.rows.countP (comesFirst row (rollback worker queue)) ≤
        queue.rows.countP fun other => comesFirst row queue other || decide (other.id ∈ lease.ids) := by
      refine List.countP_mono_left fun other stored first => ?_
      rw [Bool.or_eq_true]
      by_cases inside : other.id ∈ lease.ids
      · exact Or.inr (decide_eq_true inside)
      · obtain ⟨locked, early⟩ := @locked_erase α β worker queue row.delivery.availableAt queue.rows other.id
          fun found held => Option.some.inj (mine.symm.trans held) ▸ inside
        refine Or.inl ?_
        rw [comesFirst_iff] at first ⊢
        rwa [rollback, locked, early] at first
    have either := countP_or_le (comesFirst row queue) (fun other => decide (other.id ∈ lease.ids)) queue.rows
    omega

/-! ## Runs -/

theorem step_waits {action : Action α} (sound : Sound state.queue) (waits : Waits row state.queue)
    (passed : PassesOver row limit state action) (stepped : step handler limit state action = some after) :
    Waits row after.queue := by
  cases action with
  | enqueue now data =>
    cases stepped
    exact ⟨List.mem_append_left _ waits.stored, waits.undelivered, waits.unlocked⟩
  | poll worker now =>
    obtain ⟨queue, polled, rfl⟩ := Option.map_eq_some_iff.mp stepped
    refine ⟨by rw [(poll_eq_some polled).2]; exact waits.stored, waits.undelivered, ?_⟩
    by_contra locked
    rcases (locked_poll polled row.id).mp (by simpa using locked) with old | chosen
    · simp [waits.unlocked] at old
    · obtain ⟨picked, isPicked, same⟩ := List.mem_map.mp chosen
      obtain rfl := List.inj_on_of_nodup_map sound.ids (mem_select isPicked).1 waits.stored same
      exact passed isPicked
  | deliver worker outcome =>
    obtain ⟨startedAt, next, isNext, queue, settled, rfl⟩ := step_deliver stepped
    obtain ⟨_, _, _, _, _, mine, rfl⟩ := settle_eq_some settled
    refine ⟨waits.stored, waits.undelivered, ?_⟩
    rw [← waits.unlocked, Bool.eq_iff_iff, locked_iff, locked_iff]
    exact exists_lease_of_held mine (by simp [Lease.ids])
  | commit worker =>
    obtain ⟨⟨queue, produced⟩, committed, rfl⟩ := Option.map_eq_some_iff.mp stepped
    obtain ⟨startedAt, written, mine, rfl⟩ := commit_eq_some committed
    have free : ∀ lease, state.queue.leases.get? worker = some lease → row.id ∉ lease.ids := fun lease held inside =>
      absurd (locked_iff.mpr ⟨worker, lease, held, inside⟩) (by simp [waits.unlocked])
    refine ⟨List.mem_map.mpr ⟨row, waits.stored, overlay_of_not_mem ?_⟩, waits.undelivered, ?_⟩
    · simpa [Lease.ids] using free _ mine
    · rw [(@locked_erase α β worker state.queue 0 _ row.id free).1]
      exact waits.unlocked
  | rollback worker =>
    cases stepped
    refine ⟨waits.stored, waits.undelivered, ?_⟩
    rw [rollback, (@locked_erase α β worker state.queue 0 _ row.id fun lease held inside =>
      absurd (locked_iff.mpr ⟨worker, lease, held, inside⟩) (by simp [waits.unlocked])).1]
    exact waits.unlocked

/-- The step lemma: a turn that passes over a row uses up a batch of the rows
ahead of it. -/
theorem step_ahead_le {action : Action α} (regular : Regular limit state.queue) (waits : Waits row state.queue)
    (passed : PassesOver row limit state action) (stepped : step handler limit state action = some after) :
    ahead row after.queue + (if isTurn row action then limit else 0) ≤
      ahead row state.queue + setback row limit action := by
  cases action with
  | enqueue now data =>
    cases stepped
    simpa [isTurn, setback] using ahead_enqueue_le regular.sound row data
  | poll worker now =>
    obtain ⟨queue, polled, rfl⟩ := Option.map_eq_some_iff.mp stepped
    simpa [isTurn, setback] using ahead_poll_le regular.sound waits polled passed
  | deliver worker outcome =>
    obtain ⟨startedAt, next, isNext, queue, settled, rfl⟩ := step_deliver stepped
    simp [isTurn, setback, ahead_settle row settled]
  | commit worker =>
    obtain ⟨⟨queue, produced⟩, committed, rfl⟩ := Option.map_eq_some_iff.mp stepped
    simpa [isTurn, setback] using ahead_commit_le regular row committed
  | rollback worker =>
    cases stepped
    simpa [isTurn, setback] using ahead_rollback_le regular row

/-- As long as a row waits, its turns use up what was ahead of it, and what the
run has put there since. -/
theorem run_ahead_le (putsOff : PutsOff handler) {start : State α β} (regular : Regular limit start.queue)
    (waits : Waits row start.queue) (passed : StepsMeet (step handler limit) (PassesOver row limit) start actions)
    (ran : run (step handler limit) start actions = some state) :
    ahead row state.queue + limit * actions.countP (isTurn row) ≤
      ahead row start.queue + (actions.map (setback row limit)).sum := by
  induction actions generalizing start with
  | nil =>
    cases ran
    exact Nat.le_refl _
  | cons action rest ih =>
    obtain ⟨next, stepped, ran⟩ := run_cons.mp ran
    have first := step_ahead_le regular waits passed.1 stepped
    have later := ih (step_regular putsOff regular stepped) (step_waits regular.sound waits passed.1 stepped)
      (passed.2 next stepped) ran
    rw [List.countP_cons, List.map_cons, List.sum_cons, Nat.mul_add]
    have turn :
        limit * (if isTurn row action = true then 1 else 0) = if isTurn row action = true then limit else 0 := by
      split
      · exact Nat.mul_one limit
      · exact Nat.mul_zero limit
    omega

/-- Some tick of the run takes the row. -/
def TakenUp (handler : Handler α β) (limit : Nat) (row : Row α) (start : State α β) (actions : List (Action α)) :
    Prop :=
  ∃ before worker now after middle, actions = before ++ .poll worker now :: after ∧
    run (step handler limit) start before = some middle ∧ row ∈ select now limit middle.queue

/-- **A due row waits for the rows ahead of it and no longer**: once its turns
outnumber them, batch by batch, some tick has taken it. -/
theorem run_bounded (putsOff : PutsOff handler) {start : State α β} (regular : Regular limit start.queue)
    (waits : Waits row start.queue) (ran : run (step handler limit) start actions = some state)
    (enough : ahead row start.queue + (actions.map (setback row limit)).sum < limit * actions.countP (isTurn row)) :
    TakenUp handler limit row start actions := by
  by_contra never
  have passed : StepsMeet (step handler limit) (PassesOver row limit) start actions := by
    rw [stepsMeet_iff]
    intro before action after middle split reached
    cases action with
    | poll worker now => exact fun chosen => never ⟨before, worker, now, after, middle, split, reached, chosen⟩
    | enqueue _ _ | deliver _ _ | commit _ | rollback _ => trivial
  have bound := run_ahead_le putsOff regular waits passed ran
  omega

end EmissionsPlatform.BoundedWaiting
