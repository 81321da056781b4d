import EmissionsPlatform.Foundation.Transition
import Mathlib.Data.List.Sort
import Mathlib.Data.List.Nodup

/-! Paging by key. A page is what comes next behind the last key of the page
before it, in the order of the keys; one row more than the page holds is fetched
to see whether there is another page.

A walk reads page after page of a table that may grow in between. `run_covers`
says that it visits every row that was there from the beginning, and no row
twice; `ends_iff` how many pages it takes when nothing is added. -/
namespace EmissionsPlatform.KeysetPaging
open Transition
set_option autoImplicit false

variable {α κ : Type} [LinearOrder κ] (key : α → κ)

/-- The rows behind a key, in order. -/
def behind (after : Option κ) (table : List α) : List α :=
  (table.filter fun row => decide (∀ bound ∈ after, bound < key row)).insertionSort fun a b => key a ≤ key b

/-- A page, and the key the next one begins behind. -/
def page (limit : Nat) (after : Option κ) (table : List α) : List α × Option κ :=
  let fetched := (behind key after table).take (limit + 1)
  if limit < fetched.length then (fetched.take limit, (fetched.take limit).getLast?.map key)
  else (fetched, none)

structure Walk (α κ : Type) where
  after : Option κ
  pages : List (List α)
  ended : Bool

/-- The next request, answered from the table as it is now. -/
def step (limit : Nat) (walk : Walk α κ) (table : List α) : Option (Walk α κ) :=
  if walk.ended then none
  else
    let next := page key limit walk.after table
    some ⟨next.2, walk.pages ++ [next.1], next.2.isNone⟩

def start : Walk α κ := ⟨none, [], false⟩

/-- The rows a walk has visited, in order. -/
def Walk.rows (walk : Walk α κ) : List α := walk.pages.flatten

variable {key : α → κ} {limit : Nat} {after : Option κ} {table : List α} {row : α}

/-! ## One page -/

theorem mem_behind : row ∈ behind key after table ↔ row ∈ table ∧ ∀ bound ∈ after, bound < key row := by
  rw [behind, List.mem_insertionSort, List.mem_filter, decide_eq_true_eq]

theorem behind_sorted (distinct : (table.map key).Nodup) :
    (behind key after table).Pairwise fun a b => key a < key b := by
  have sorted := List.pairwise_insertionSort (fun a b : α => key a ≤ key b)
    (table.filter fun row => decide (∀ bound ∈ after, bound < key row))
  have apart : ((behind key after table).map key).Nodup :=
    ((List.perm_insertionSort _ _).map key).nodup_iff.mpr (distinct.sublist (List.filter_sublist.map key))
  exact (sorted.and (List.pairwise_map.mp apart)).imp fun both => lt_of_le_of_ne both.1 both.2

/-- Rows in strict order are determined by which they are. -/
theorem eq_of_members {rows other : List α} (sorted : rows.Pairwise fun a b => key a < key b)
    (otherSorted : other.Pairwise fun a b => key a < key b) (same : ∀ row, row ∈ rows ↔ row ∈ other) :
    rows = other := by
  have irreflexive : Std.Irrefl fun a b : α => key a < key b := ⟨fun _ => lt_irrefl _⟩
  have antisymmetric : Std.Antisymm fun a b : α => key a < key b :=
    ⟨fun _ _ before behind => absurd before behind.asymm⟩
  exact List.Subset.antisymm_of_pairwise sorted otherSorted (fun row => (same row).mp) fun row => (same row).mpr

/-- Behind one of the rows behind a key lie those that come after it. -/
theorem behind_row {front back : List α} {last : α} (distinct : (table.map key).Nodup)
    (split : behind key after table = front ++ last :: back) : behind key (some (key last)) table = back := by
  have sorted := @behind_sorted _ _ _ _ after _ distinct
  rw [split] at sorted
  obtain ⟨-, rest, before⟩ := List.pairwise_append.mp sorted
  obtain ⟨above, backSorted⟩ := List.pairwise_cons.mp rest
  have beyond : ∀ bound ∈ after, bound < key last :=
    (mem_behind.mp (split ▸ List.mem_append_right _ List.mem_cons_self : last ∈ behind key after table)).2
  apply eq_of_members (behind_sorted distinct) backSorted
  intro row
  simp only [mem_behind, Option.mem_some_iff, forall_eq']
  constructor
  · rintro ⟨stored, later⟩
    have listed : row ∈ behind key after table := mem_behind.mpr ⟨stored, fun bound is => (beyond bound is).trans later⟩
    rw [split, List.mem_append, List.mem_cons] at listed
    rcases listed with earlier | rfl | member
    · exact absurd later (before row earlier last List.mem_cons_self).asymm
    · exact absurd later (lt_irrefl _)
    · exact member
  · intro member
    have listed : row ∈ behind key after table := split ▸ List.mem_append_right _ (List.mem_cons_of_mem _ member)
    exact ⟨(mem_behind.mp listed).1, above row member⟩

theorem page_subset (key : α → κ) (limit : Nat) (after : Option κ) (table : List α) :
    (page key limit after table).1 ⊆ table := by
  have fetched : (behind key after table).take (limit + 1) ⊆ table :=
    fun row member => (mem_behind.mp (List.mem_of_mem_take member)).1
  unfold page
  dsimp only
  split
  · exact fun row member => fetched (List.mem_of_mem_take member)
  · exact fetched

/-- A page holds all that is left, or as much as fits; then the next one begins
behind its last row, and something is left for it. -/
theorem page_cases (positive : 0 < limit) :
    (behind key after table).length ≤ limit ∧ page key limit after table = (behind key after table, none) ∨
      ∃ front last back, behind key after table = front ++ last :: back ∧ back ≠ [] ∧ front.length + 1 = limit ∧
        page key limit after table = (front ++ [last], some (key last)) := by
  rcases Nat.lt_or_ge limit (behind key after table).length with more | few
  · obtain ⟨size, rfl⟩ : ∃ size, limit = size + 1 := ⟨limit - 1, by omega⟩
    have within : size < (behind key after table).length := by omega
    have taken : (behind key after table).take (size + 1) =
        (behind key after table).take size ++ [(behind key after table)[size]] :=
      List.take_succ_eq_append_getElem within
    refine Or.inr ⟨(behind key after table).take size, (behind key after table)[size],
      (behind key after table).drop (size + 1), ?_, ?_, ?_, ?_⟩
    · rw [List.getElem_cons_drop, List.take_append_drop]
    · exact List.ne_nil_of_length_pos (by rw [List.length_drop]; omega)
    · rw [List.length_take]
      omega
    · have fetched : size + 1 < ((behind key after table).take (size + 1 + 1)).length := by
        rw [List.length_take]
        omega
      have shorter : ((behind key after table).take (size + 1 + 1)).take (size + 1) =
          (behind key after table).take (size + 1) := by
        rw [List.take_take, Nat.min_eq_left (Nat.le_succ _)]
      rw [page, if_pos fetched, shorter, taken, List.getLast?_concat]
      rfl
  · refine Or.inl ⟨few, ?_⟩
    rw [page, List.take_of_length_le (few.trans (Nat.le_succ _)), if_neg (Nat.not_lt.mpr few)]

/-! ## A walk over a table that may grow -/

variable {first : List α} {tables : List (List α)} {walk next : Walk α κ}

/-- A request brings the last page, or one to go on from. -/
theorem step_cases (positive : 0 < limit) (stepped : step key limit walk table = some next) :
    walk.ended = false ∧
      ((behind key walk.after table).length ≤ limit ∧
          next = ⟨none, walk.pages ++ [behind key walk.after table], true⟩ ∨
        ∃ front last back, behind key walk.after table = front ++ last :: back ∧ back ≠ [] ∧
          front.length + 1 = limit ∧ next = ⟨some (key last), walk.pages ++ [front ++ [last]], false⟩) := by
  unfold step at stepped
  split at stepped
  · cases stepped
  · rename_i going
    refine ⟨by simpa using going, ?_⟩
    rcases @page_cases _ _ _ key limit walk.after table positive with
      ⟨few, last⟩ | ⟨front, last, back, split, more, full, paged⟩
    · rw [last] at stepped
      exact Or.inl ⟨few, (Option.some.inj stepped).symm⟩
    · rw [paged] at stepped
      exact Or.inr ⟨front, last, back, split, more, full, (Option.some.inj stepped).symm⟩

omit [LinearOrder κ] in
theorem rows_concat (walk : Walk α κ) (rows : List α) (ended : Bool) :
    (⟨after, walk.pages ++ [rows], ended⟩ : Walk α κ).rows = walk.rows ++ rows := by
  simp [Walk.rows]

/-- What a walk has visited: each row at most once, and of the first table all
that lies before the next page. -/
structure Covers (key : α → κ) (first : List α) (walk : Walk α κ) : Prop where
  sorted : walk.rows.Pairwise fun a b => key a < key b
  bounded : walk.ended = false → ∀ row ∈ walk.rows, ∃ bound ∈ walk.after, key row ≤ bound
  visited : ∀ row ∈ first, walk.ended = true ∨ (∃ bound ∈ walk.after, key row ≤ bound) → row ∈ walk.rows

theorem start_covers : Covers key first start :=
  ⟨List.Pairwise.nil, nofun, fun _ _ passed => by rcases passed with ended | ⟨_, known, _⟩ <;> contradiction⟩

theorem sorted_append {rows more : List α} (sorted : rows.Pairwise fun a b => key a < key b)
    (bounded : ∀ row ∈ rows, ∃ bound ∈ after, key row ≤ bound)
    (moreSorted : more.Pairwise fun a b => key a < key b) (beyond : ∀ row ∈ more, ∀ bound ∈ after, bound < key row) :
    (rows ++ more).Pairwise fun a b => key a < key b := by
  refine List.pairwise_append.mpr ⟨sorted, moreSorted, fun row member other otherMember => ?_⟩
  obtain ⟨bound, known, below⟩ := bounded row member
  exact below.trans_lt (beyond other otherMember bound known)

/-- A row of the first table has been visited, or comes now or later. -/
theorem Covers.reached_or_ahead (covers : Covers key first walk) (grown : first ⊆ table) :
    ∀ row ∈ first, row ∈ walk.rows ∨ row ∈ behind key walk.after table := by
  intro row member
  by_cases passed : ∃ bound ∈ walk.after, key row ≤ bound
  · exact Or.inl (covers.visited row member (Or.inr passed))
  · refine Or.inr (mem_behind.mpr ⟨grown member, fun bound is => ?_⟩)
    exact lt_of_not_ge fun below => passed ⟨bound, is, below⟩

/-- The last row of a page is its greatest. -/
theorem le_last {front : List α} {last : α} (sorted : (front ++ [last]).Pairwise fun a b => key a < key b) :
    ∀ row ∈ front ++ [last], key row ≤ key last := by
  intro row member
  rcases List.mem_append.mp member with earlier | final
  · exact ((List.pairwise_append.mp sorted).2.2 row earlier last (List.mem_singleton_self _)).le
  · rw [List.mem_singleton.mp final]

/-- The step lemma: a page that is read from a table with all rows of the first. -/
theorem step_covers (covers : Covers key first walk) (positive : 0 < limit) (distinct : (table.map key).Nodup)
    (grown : first ⊆ table) (stepped : step key limit walk table = some next) : Covers key first next := by
  obtain ⟨going, pages⟩ := step_cases positive stepped
  have sorted := @behind_sorted _ _ _ _ walk.after _ distinct
  have beyond : ∀ row ∈ behind key walk.after table, ∀ bound ∈ walk.after, bound < key row :=
    fun row member => (mem_behind.mp member).2
  have known := covers.reached_or_ahead grown
  rcases pages with ⟨-, rfl⟩ | ⟨front, last, back, split, -, -, rfl⟩
  · refine ⟨?_, nofun, fun row member _ => ?_⟩
    · rw [rows_concat]
      exact sorted_append covers.sorted (covers.bounded going) sorted beyond
    · rw [rows_concat]
      exact List.mem_append.mpr (known row member)
  · have whole : behind key walk.after table = (front ++ [last]) ++ back := by simp [split]
    rw [whole] at sorted beyond known
    obtain ⟨pageSorted, -, before⟩ := List.pairwise_append.mp sorted
    refine ⟨?_, fun _ row member => ⟨key last, rfl, ?_⟩, fun row member passed => ?_⟩
    · rw [rows_concat]
      apply sorted_append covers.sorted (covers.bounded going) pageSorted
      intro row member
      exact beyond row (List.mem_append_left _ member)
    · rw [rows_concat] at member
      rcases List.mem_append.mp member with earlier | now
      · obtain ⟨bound, is, below⟩ := covers.bounded going row earlier
        exact below.trans (beyond last (by simp) bound is).le
      · exact le_last pageSorted row now
    · obtain ⟨_, is, below⟩ := passed.resolve_left nofun
      cases Option.some.inj is
      rw [rows_concat]
      rcases known row member with earlier | listed
      · exact List.mem_append_left _ earlier
      · rcases List.mem_append.mp listed with now | later
        · exact List.mem_append_right _ now
        · exact absurd below (not_le_of_gt (before last (by simp) row later))

/-- **A walk over a growing table** visits no row twice, and once it has ended
every row that was there at first. -/
theorem run_covers (positive : 0 < limit) (distinct : ∀ table ∈ tables, (table.map key).Nodup)
    (grown : ∀ table ∈ tables, first ⊆ table) (ran : run (step key limit) start tables = some walk) :
    Covers key first walk := by
  refine run_invariant_of_kind (fun table => (table.map key).Nodup ∧ first ⊆ table) (Covers key first) ?_ ?_
    start_covers ran
  · exact fun covers kind stepped => step_covers covers positive kind.1 kind.2 stepped
  · exact fun table member => ⟨distinct table member, grown table member⟩

/-- A page brings rows of the table it is read from. -/
theorem step_subset {last : List α} (within : walk.rows ⊆ last) (grown : table ⊆ last)
    (stepped : step key limit walk table = some next) : next.rows ⊆ last := by
  unfold step at stepped
  split at stepped
  · cases stepped
  · cases stepped
    rw [rows_concat]
    exact List.append_subset.mpr ⟨within, List.Subset.trans (page_subset _ _ _ _) grown⟩

/-- What a walk has visited is in the table as it is last. -/
theorem run_subset {last : List α} (grown : ∀ table ∈ tables, table ⊆ last)
    (ran : run (step key limit) start tables = some walk) : walk.rows ⊆ last :=
  run_invariant_of_kind (fun table => table ⊆ last) (fun walk => walk.rows ⊆ last)
    (fun within grown stepped => step_subset within grown stepped) grown (List.nil_subset _) ran

/-! ## A walk over a table that stays as it is -/

/-- Where a walk over one table is after some requests. -/
structure Position (key : α → κ) (limit : Nat) (table : List α) (count : Nat) (walk : Walk α κ) : Prop where
  left : walk.ended = false → behind key walk.after table = (behind key none table).drop (count * limit)
  going : walk.ended = false → count = 0 ∨ count * limit < table.length
  finished : walk.ended = true → 0 < count ∧ (count - 1 = 0 ∨ (count - 1) * limit < table.length) ∧
    table.length ≤ count * limit

theorem length_behind_none : (behind key none table).length = table.length := by
  rw [behind, List.length_insertionSort, List.filter_eq_self.mpr (by simp)]

theorem step_position {count : Nat} (positive : 0 < limit) (distinct : (table.map key).Nodup)
    (position : Position key limit table count walk) (stepped : step key limit walk table = some next) :
    Position key limit table (count + 1) next := by
  obtain ⟨isOpen, pages⟩ := step_cases positive stepped
  have left := position.left isOpen
  have remaining := congrArg List.length left
  rw [List.length_drop, length_behind_none] at remaining
  have product : (count + 1) * limit = count * limit + limit := Nat.succ_mul _ _
  have going := position.going isOpen
  rcases pages with ⟨few, rfl⟩ | ⟨front, last, back, split, more, full, rfl⟩
  · exact ⟨nofun, nofun, fun _ => ⟨Nat.succ_pos _, going, by omega⟩⟩
  · have most := List.length_pos_of_ne_nil more
    have lengths := congrArg List.length split
    rw [List.length_append, List.length_cons] at lengths
    refine ⟨fun _ => ?_, fun _ => Or.inr (by omega), nofun⟩
    rw [behind_row distinct split, product, ← List.drop_drop, ← left, split, ← full, ← List.drop_drop,
      List.drop_left, List.drop_one, List.tail_cons]

theorem run_position {count : Nat} (positive : 0 < limit) (distinct : (table.map key).Nodup)
    (ran : run (step key limit) start (List.replicate count table) = some walk) :
    Position key limit table count walk := by
  induction count generalizing walk with
  | zero =>
    cases ran
    exact ⟨fun _ => by simp [start], fun _ => Or.inl rfl, nofun⟩
  | succ count ih =>
    rw [List.replicate_succ', run_concat] at ran
    obtain ⟨before, ran, stepped⟩ := ran
    exact step_position positive distinct (ih ran) stepped

/-- A walk goes on until it has ended. -/
theorem run_replicate (limit : Nat) (table : List α) (count : Nat) :
    (∃ walk, run (step key limit) start (List.replicate count table) = some walk) ∨
      ∃ earlier < count, ∃ walk, run (step key limit) start (List.replicate earlier table) = some walk ∧
        walk.ended = true := by
  induction count with
  | zero => exact Or.inl ⟨start, rfl⟩
  | succ count ih =>
    rcases ih with ⟨walk, ran⟩ | ⟨earlier, below, stopped⟩
    · by_cases ended : walk.ended = true
      · exact Or.inr ⟨count, Nat.lt_succ_self _, walk, ran, ended⟩
      · refine Or.inl ⟨⟨(page key limit walk.after table).2, walk.pages ++ [(page key limit walk.after table).1],
          (page key limit walk.after table).2.isNone⟩, ?_⟩
        rw [List.replicate_succ', run_concat]
        exact ⟨walk, ran, by rw [step, if_neg ended]⟩
    · exact Or.inr ⟨earlier, below.trans (Nat.lt_succ_self _), stopped⟩

theorem ceil_le {size count : Nat} (positive : 0 < limit) :
    (size + limit - 1) / limit ≤ count ↔ size ≤ count * limit := by
  rw [Nat.div_le_iff_le_mul_add_pred positive, Nat.mul_comm]
  omega

theorem ceil_eq_iff {size count : Nat} (positive : 0 < limit) :
    count = max 1 ((size + limit - 1) / limit) ↔
      0 < count ∧ (count - 1 = 0 ∨ (count - 1) * limit < size) ∧ size ≤ count * limit := by
  have enough := @ceil_le limit size count positive
  have tooFew := @ceil_le limit size (count - 1) positive
  omega

/-- **A walk over a table that stays as it is** takes a request for each full
page of rows and one for the rest, and one at least. -/
theorem ends_iff {count : Nat} (positive : 0 < limit) (distinct : (table.map key).Nodup) :
    (∃ walk, run (step key limit) start (List.replicate count table) = some walk ∧ walk.ended = true) ↔
      count = max 1 ((table.length + limit - 1) / limit) := by
  rw [ceil_eq_iff positive]
  constructor
  · rintro ⟨walk, ran, ended⟩
    exact (run_position positive distinct ran).finished ended
  · rintro ⟨some, more, enough⟩
    rcases @run_replicate _ _ _ key limit table count with ⟨walk, ran⟩ | ⟨earlier, below, walk, ran, ended⟩
    · by_cases ended : walk.ended = true
      · exact ⟨walk, ran, ended⟩
      · have going := (run_position positive distinct ran).going (by simpa using ended)
        omega
    · obtain ⟨someEarlier, -, enoughEarlier⟩ := (run_position positive distinct ran).finished ended
      have scaled : earlier * limit ≤ (count - 1) * limit := Nat.mul_le_mul_right limit (by omega)
      omega

end EmissionsPlatform.KeysetPaging
