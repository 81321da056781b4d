import EmissionsPlatform.Foundation.BoundedWaiting

/-! How soon a failed row is tried again. The tick that failed writes the instant
of the next attempt with its commit; from then on no tick that begins earlier
can take the row, whatever the other workers do and however often their ticks
are rolled back. -/
namespace EmissionsPlatform.AttemptSpacing
open LeaseQueue Drain Transition BoundedWaiting
set_option autoImplicit false

variable {α β : Type}

/-- The row is delivered, or not due before the instant. -/
def NotBefore (instant : Int) (row : Row α) : Prop :=
  row.delivery.deliveredAt = none → instant ≤ row.delivery.availableAt

/-- Nobody can attempt the row in a tick that begins before the instant. -/
structure PutOff (instant : Int) (id : Nat) (queue : Queue α β) : Prop where
  known : id < queue.nextId
  rows : ∀ row ∈ queue.rows, row.id = id → NotBefore instant row
  pending : ∀ worker lease, queue.leases.get? worker = some lease →
    ∀ row ∈ lease.pending, row.id = id → instant ≤ lease.startedAt
  written : ∀ worker lease, queue.leases.get? worker = some lease →
    ∀ row ∈ lease.written, row.id = id → NotBefore instant row

/-- A worker's open tick has attempted the row and put it off. -/
def Attempted (worker : Nat) (instant : Int) (id : Nat) (queue : Queue α β) : Prop :=
  ∃ lease, queue.leases.get? worker = some lease ∧ ∃ row ∈ lease.written, row.id = id ∧ NotBefore instant row

variable {handler : Handler α β} {limit worker id : Nat} {state after : State α β}
variable {queue queue' : Queue α β} {row : Row α} {instant now : Int}

theorem mem_select_available (chosen : row ∈ select now limit queue) : row.delivery.availableAt ≤ now := by
  have isDue := (mem_select chosen).2.1
  simp only [due, Bool.and_eq_true, decide_eq_true_eq] at isDue
  exact isDue.2

/-- An attempt in a tick that began late enough puts the row off again. -/
theorem notBefore_of_attempt (putsOff : PutsOff handler) {startedAt : Int} {outcome : Outcome}
    (late : instant ≤ startedAt) :
    NotBefore instant { row with delivery := (handler startedAt row outcome).1 } := by
  cases outcome with
  | delivered => exact fun undelivered => absurd undelivered (putsOff.delivered startedAt row)
  | failed error random => exact fun _ => late.trans (putsOff.later startedAt row error random).le

theorem step_putOff (putsOff : PutsOff handler) {action : Action α} (off : PutOff instant id state.queue)
    (stepped : step handler limit state action = some after) : PutOff instant id after.queue := by
  have pending : ∀ worker lease, after.queue.leases.get? worker = some lease →
      ∀ row ∈ lease.pending, row.id = id → instant ≤ lease.startedAt := by
    intro worker lease held row member same
    rcases step_lease stepped held with
      old | ⟨now, rfl, rfl⟩ | ⟨startedAt, next, rest, earlier, produced, outcome, mine, rfl⟩
    · exact off.pending worker lease old row member same
    · obtain ⟨stored, isDue, _⟩ := mem_select member
      exact (off.rows row stored same (due_undelivered isDue)).trans (mem_select_available member)
    · have late := off.pending worker _ mine row (List.mem_cons_of_mem _ member) same
      exact late
  have written : ∀ worker lease, after.queue.leases.get? worker = some lease →
      ∀ row ∈ lease.written, row.id = id → NotBefore instant row := by
    intro worker lease held row member same
    rcases step_lease stepped held with
      old | ⟨now, rfl, rfl⟩ | ⟨startedAt, next, rest, earlier, produced, outcome, mine, rfl⟩
    · exact off.written worker lease old row member same
    · cases member
    · rcases List.mem_append.mp member with already | last
      · exact off.written worker _ mine row already same
      · rw [List.mem_singleton.mp last] at same ⊢
        exact notBefore_of_attempt putsOff (off.pending worker _ mine next List.mem_cons_self same)
  cases action with
  | enqueue now data =>
    cases stepped
    refine ⟨Nat.lt_add_right _ off.known, ?_, pending, written⟩
    intro row member same
    rcases List.mem_append.mp member with old | new
    · exact off.rows row old same
    · have above := (mem_stamp new).1
      have known := off.known
      omega
  | poll worker now =>
    obtain ⟨queue, polled, rfl⟩ := Option.map_eq_some_iff.mp stepped
    obtain ⟨_, rfl⟩ := poll_eq_some polled
    exact ⟨off.known, off.rows, pending, written⟩
  | deliver worker outcome =>
    obtain ⟨_, _, _, queue, settled, rfl⟩ := step_deliver stepped
    obtain ⟨_, _, _, _, _, _, rfl⟩ := settle_eq_some settled
    exact ⟨off.known, off.rows, pending, written⟩
  | commit worker =>
    obtain ⟨⟨queue, produced⟩, committed, rfl⟩ := Option.map_eq_some_iff.mp stepped
    obtain ⟨startedAt, settled, mine, rfl⟩ := commit_eq_some committed
    refine ⟨off.known, ?_, pending, written⟩
    intro row member same
    obtain ⟨old, stored, rfl⟩ := List.mem_map.mp member
    rcases overlay_cases settled old with ⟨kept, _⟩ | ⟨isSettled, _⟩
    · rw [kept] at same ⊢
      exact off.rows old stored same
    · exact off.written worker _ mine _ isSettled same
  | rollback worker =>
    cases stepped
    exact ⟨off.known, off.rows, pending, written⟩

theorem run_putOff (putsOff : PutsOff handler) {start : State α β} {actions : List (Action α)}
    (off : PutOff instant id start.queue) (ran : run (step handler limit) start actions = some state) :
    PutOff instant id state.queue :=
  run_invariant (fun state => PutOff instant id state.queue)
    (fun off stepped => step_putOff putsOff off stepped) off ran

/-- The tick that attempted a row holds it until it ends. -/
theorem step_attempted {action : Action α} (attempted : Attempted worker instant id state.queue)
    (open' : action ≠ .commit worker ∧ action ≠ .rollback worker)
    (stepped : step handler limit state action = some after) : Attempted worker instant id after.queue := by
  obtain ⟨lease, held, row, member, same, late⟩ := attempted
  cases action with
  | enqueue now data => cases stepped; exact ⟨lease, held, row, member, same, late⟩
  | poll other now =>
    obtain ⟨queue, polled, rfl⟩ := Option.map_eq_some_iff.mp stepped
    obtain ⟨free, rfl⟩ := poll_eq_some polled
    refine ⟨lease, ?_, row, member, same, late⟩
    rw [InsertionMap.get?_set_ne]
    · exact held
    · rintro rfl
      exact nomatch free.symm.trans held
  | deliver other outcome =>
    obtain ⟨_, _, _, queue, settled, rfl⟩ := step_deliver stepped
    obtain ⟨startedAt, next, pending, written, produced, mine, rfl⟩ := settle_eq_some settled
    by_cases own : worker = other
    · subst own
      cases Option.some.inj (mine.symm.trans held)
      exact ⟨_, InsertionMap.get?_set_self, row, List.mem_append_left _ member, same, late⟩
    · exact ⟨lease, by rwa [InsertionMap.get?_set_ne own], row, member, same, late⟩
  | commit other =>
    obtain ⟨⟨queue, produced⟩, committed, rfl⟩ := Option.map_eq_some_iff.mp stepped
    obtain ⟨_, _, _, rfl⟩ := commit_eq_some committed
    refine ⟨lease, ?_, row, member, same, late⟩
    have different : worker ≠ other := fun own => open'.1 (congrArg _ own.symm)
    rwa [InsertionMap.get?_erase, if_neg different]
  | rollback other =>
    cases stepped
    refine ⟨lease, ?_, row, member, same, late⟩
    have different : worker ≠ other := fun own => open'.2 (congrArg _ own.symm)
    rwa [rollback, InsertionMap.get?_erase, if_neg different]

/-- With the commit of the tick that attempted it, the row is put off for all. -/
theorem putOff_of_commit {produced : List β} (sound : Sound queue) (attempted : Attempted worker instant id queue)
    (committed : commit worker queue = some (queue', produced)) : PutOff instant id queue' := by
  obtain ⟨lease, held, row, member, rfl, late⟩ := attempted
  obtain ⟨startedAt, written, mine, rfl⟩ := commit_eq_some committed
  cases Option.some.inj (mine.symm.trans held)
  have inside : row.id ∈ (⟨startedAt, [], written, produced⟩ : Lease α β).ids := by
    rw [Lease.ids, List.append_nil]
    exact List.mem_map_of_mem member
  -- No other transaction has locked the row.
  have alone : ∀ other lease, (queue.leases.erase worker).get? other = some lease → row.id ∉ lease.ids := by
    intro other lease held inside'
    obtain ⟨moved, held⟩ := InsertionMap.get?_erase_eq_some held
    exact moved (sound.apart other lease worker _ held mine row.id inside' inside)
  obtain ⟨old, stored, content, _⟩ := (sound.held worker _ mine).written row member
  have once := (sound.held worker _ mine).once
  rw [Lease.ids, List.append_nil] at once
  refine ⟨?_, ?_, ?_, ?_⟩
  · rw [← show old.id = row.id from congrArg Prod.fst content]
    exact sound.fresh old stored
  · intro new newMember same
    obtain ⟨before, _, rfl⟩ := List.mem_map.mp newMember
    rcases overlay_cases written before with ⟨kept, untouched⟩ | ⟨settled, _⟩
    · rw [kept] at same
      exact absurd (same ▸ List.mem_map_of_mem member) untouched
    · rwa [List.inj_on_of_nodup_map once settled member same]
  · intro other lease held waiting pending same
    have locked : waiting.id ∈ lease.ids := List.mem_map_of_mem (List.mem_append_right _ pending)
    exact absurd (same ▸ locked) (alone other lease held)
  · intro other lease held settled member' same
    have locked : settled.id ∈ lease.ids := List.mem_map_of_mem (List.mem_append_left _ member')
    exact absurd (same ▸ locked) (alone other lease held)

/-- The steps by which a worker's tick ends. -/
def Ends (worker : Nat) (action : Action α) : Prop := action = .commit worker ∨ action = .rollback worker

instance (worker : Nat) : ∀ action : Action α, Decidable (Ends worker action)
  | .commit other => decidable_of_iff (other = worker) (by simp [Ends])
  | .rollback other => decidable_of_iff (other = worker) (by simp [Ends])
  | .enqueue _ _ | .poll _ _ | .deliver _ _ => .isFalse (by simp [Ends])

/-- **A failed row is left alone until the instant its tick has written**, in
every run that commits the tick, whatever becomes of the others. -/
theorem attempts_spaced (putsOff : PutsOff handler) {first second : State α β} {startedAt startedAt' : Int}
    {error : String} {random other : Nat} {row' : Row α} {during since : List (Action α)} (sound : Sound first.queue)
    (isNext : first.queue.next? worker = some (startedAt, row)) (unended : ∀ action ∈ during, ¬ Ends worker action)
    (ran : run (step handler limit) first
      (.deliver worker (.failed error random) :: during ++ .commit worker :: since) = some second)
    (again : second.queue.next? other = some (startedAt', row')) (same : row'.id = row.id) :
    (handler startedAt row (.failed error random)).1.availableAt ≤ startedAt' := by
  obtain ⟨failed, stepped, ran⟩ := run_cons.mp ran
  obtain ⟨last, ranDuring, ran⟩ := run_append.mp ran
  obtain ⟨committed, ended, ran⟩ := run_cons.mp ran
  have attempted :
      Attempted worker (handler startedAt row (.failed error random)).1.availableAt row.id failed.queue := by
    obtain ⟨startedAt', row', isNext', queue, settled, rfl⟩ := step_deliver stepped
    cases isNext.symm.trans isNext'
    obtain ⟨_, next, _, _, _, mine, rfl⟩ := settle_eq_some settled
    simp only [Queue.next?, mine, Option.bind_some, List.head?_cons, Option.map_some, Option.some.injEq,
      Prod.mk.injEq] at isNext
    obtain ⟨rfl, rfl⟩ := isNext
    exact ⟨_, InsertionMap.get?_set_self, _, List.mem_append_right _ List.mem_cons_self, rfl, fun _ => le_rfl⟩
  have still : Sound last.queue ∧
      Attempted worker (handler startedAt row (.failed error random)).1.availableAt row.id last.queue := by
    refine run_invariant_of_kind (fun action => ¬ Ends worker action) (fun state => Sound state.queue ∧
      Attempted worker (handler startedAt row (.failed error random)).1.availableAt row.id state.queue)
      ?_ unended ⟨step_sound sound stepped, attempted⟩ ranDuring
    intro before after action holds unended stepped
    exact ⟨step_sound holds.1 stepped, step_attempted holds.2 (not_or.mp unended) stepped⟩
  obtain ⟨⟨queue, produced⟩, done, rfl⟩ := Option.map_eq_some_iff.mp ended
  have off := run_putOff putsOff (putOff_of_commit still.1 still.2 done) ran
  obtain ⟨_, _, _, held⟩ := next?_eq_some again
  exact off.pending other _ held row' List.mem_cons_self same

end EmissionsPlatform.AttemptSpacing
