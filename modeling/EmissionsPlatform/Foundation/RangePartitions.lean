import EmissionsPlatform.Foundation.UniqueIndex
import Mathlib.Data.List.Perm.Basic

/-! Tables partitioned by range. Each partition holds the rows whose instant lies
in its half-open range, and a default partition those of no range; a unique
index is one index on each partition. So an insert that skips conflicts looks
for a conflict in one partition only.

Where equal keys have equal instants, that one partition is enough: a
partitioned table holds what one table under one index holds (`insert_refines`),
whatever partitions are created, and filled from the default one, meanwhile
(`createPartition_spec`, `reclaim_spec`). -/
namespace EmissionsPlatform.RangePartitions
open UniqueIndex
set_option autoImplicit false

variable {α κ : Type} [DecidableEq κ]

/-- A partition `FOR VALUES FROM (lo) TO (hi)`. -/
structure Partition (α : Type) where
  lo : Int
  hi : Int
  rows : List α
  deriving DecidableEq

def Partition.covers (part : Partition α) (instant : Int) : Bool := decide (part.lo ≤ instant ∧ instant < part.hi)

/-- The ranges do not overlap. -/
def Partition.apart (part other : Partition α) : Prop := part.hi ≤ other.lo ∨ other.hi ≤ part.lo

instance (part other : Partition α) : Decidable (part.apart other) := inferInstanceAs (Decidable (_ ∨ _))

structure Partitioned (α : Type) where
  parts : List (Partition α)
  /-- The `DEFAULT` partition. -/
  catchAll : List α
  deriving DecidableEq

/-- All the rows of a table. -/
def Partitioned.contents (table : Partitioned α) : List α := table.parts.flatMap Partition.rows ++ table.catchAll

section
variable (instantOf : α → Int) (keyOf : α → κ)

/-- An insert into one partition, under its own index. -/
def add (rows : List α) (row : α) : List α := if keyOf row ∈ rows.map keyOf then rows else rows ++ [row]

/-- An insert into the partition whose range covers the row, if there is one. -/
def place (row : α) : List (Partition α) → Option (List (Partition α))
  | [] => none
  | part :: rest =>
    if part.covers (instantOf row) then some ({ part with rows := add keyOf part.rows row } :: rest)
    else (place row rest).map (part :: ·)

def insertRow (table : Partitioned α) (row : α) : Partitioned α :=
  match place instantOf keyOf row table.parts with
  | some parts => { table with parts }
  | none => { table with catchAll := add keyOf table.catchAll row }

/-- `INSERT … ON CONFLICT DO NOTHING`, row by row. -/
def insert (table : Partitioned α) (rows : List α) : Partitioned α := rows.foldl (insertRow instantOf keyOf) table

/-- `ATTACH PARTITION … FOR VALUES FROM … TO …`, which fails on a range that is
empty or taken and on a row outside it. -/
def attach (part : Partition α) (parts : List (Partition α)) : Option (List (Partition α)) :=
  if part.lo < part.hi ∧ (∀ other ∈ parts, part.apart other) ∧ ∀ row ∈ part.rows, part.covers (instantOf row) = true
  then some (parts ++ [part]) else none

/-- `ATTACH PARTITION … DEFAULT`, which fails on a row that belongs elsewhere. -/
def attachDefault (rows : List α) (parts : List (Partition α)) : Option (Partitioned α) :=
  if ∀ row ∈ rows, ∀ part ∈ parts, part.covers (instantOf row) = false then some ⟨parts, rows⟩ else none

/-- `CREATE TABLE … PARTITION OF …`, which fails as attaching would. -/
def createPartition (lo hi : Int) (table : Partitioned α) : Option (Partitioned α) :=
  (attach instantOf ⟨lo, hi, []⟩ table.parts).bind (attachDefault instantOf table.catchAll)

/-- The default partition is detached, its rows of the range are copied into a
new table and deleted from it, and both are attached. -/
def reclaim (lo hi : Int) (table : Partitioned α) : Option (Partitioned α) :=
  let inRange := fun row => decide (lo ≤ instantOf row ∧ instantOf row < hi)
  (attach instantOf ⟨lo, hi, table.catchAll.filter inRange⟩ table.parts).bind
    (attachDefault instantOf (table.catchAll.filter fun row => !inRange row))

end

inductive Action (α : Type)
  | insert (rows : List α)
  | createPartition (lo hi : Int)
  | reclaim (lo hi : Int)

def step (instantOf : α → Int) (keyOf : α → κ) (table : Partitioned α) : Action α → Option (Partitioned α)
  | .insert rows => some (insert instantOf keyOf table rows)
  | .createPartition lo hi => createPartition instantOf lo hi table
  | .reclaim lo hi => reclaim instantOf lo hi table

/-- Each row lies where its instant belongs. -/
structure Placed (instantOf : α → Int) (table : Partitioned α) : Prop where
  apart : table.parts.Pairwise Partition.apart
  rows : ∀ part ∈ table.parts, ∀ row ∈ part.rows, part.covers (instantOf row) = true
  catchAll : ∀ row ∈ table.catchAll, ∀ part ∈ table.parts, part.covers (instantOf row) = false

variable {instantOf : α → Int} {keyOf : α → κ} {table after : Partitioned α} {parts parts' : List (Partition α)}
variable {part : Partition α} {row other : α} {rows flat : List α} {lo hi : Int}

/-! ## One row -/

theorem place_eq_some (placed : place instantOf keyOf row parts = some parts') :
    ∃ before part later, parts = before ++ part :: later ∧ part.covers (instantOf row) = true ∧
      parts' = before ++ { part with rows := add keyOf part.rows row } :: later := by
  induction parts generalizing parts' with
  | nil => cases placed
  | cons part rest ih =>
    simp only [place] at placed
    split at placed
    · rename_i covers
      cases placed
      exact ⟨[], part, rest, rfl, covers, rfl⟩
    · obtain ⟨rest', inRest, rfl⟩ := Option.map_eq_some_iff.mp placed
      obtain ⟨before, home, later, rfl, covers, rfl⟩ := ih inRest
      exact ⟨part :: before, home, later, rfl, covers, rfl⟩

theorem place_eq_none (nowhere : place instantOf keyOf row parts = none) :
    ∀ part ∈ parts, part.covers (instantOf row) = false := by
  induction parts with
  | nil => exact List.forall_mem_nil _
  | cons part rest ih =>
    simp only [place] at nowhere
    split at nowhere
    · cases nowhere
    · rename_i elsewhere
      intro other member
      rcases List.mem_cons.mp member with rfl | later
      · simpa using elsewhere
      · exact ih (Option.map_eq_none_iff.mp nowhere) other later

/-- No instant lies in two ranges that are apart. -/
theorem not_covers_of_apart {other : Partition α} {instant : Int} (apart : part.apart other)
    (covers : part.covers instant = true) : other.covers instant = false := by
  simp only [Partition.covers, decide_eq_true_eq, decide_eq_false_iff_not, Partition.apart] at *
  omega

theorem mem_add : other ∈ add keyOf rows row → other ∈ rows ∨ other = row := by
  unfold add
  split
  · exact Or.inl
  · intro member
    exact (List.mem_append.mp member).imp id List.mem_singleton.mp

/-- A row finds its partition, and no other holds a row of its instant. -/
theorem insertRow_split (placed : Placed instantOf table) (row : α) :
    ∃ home rest, table.contents.Perm (home ++ rest) ∧
      (insertRow instantOf keyOf table row).contents.Perm (add keyOf home row ++ rest) ∧
        ∀ other ∈ rest, instantOf other ≠ instantOf row := by
  unfold insertRow
  split
  · rename_i parts found
    obtain ⟨before, part, later, shape, covers, rfl⟩ := place_eq_some found
    refine ⟨part.rows, before.flatMap Partition.rows ++ later.flatMap Partition.rows ++ table.catchAll, ?_, ?_, ?_⟩
    · rw [Partitioned.contents, shape, List.flatMap_append, List.flatMap_cons]
      rw [← List.append_assoc part.rows]
      exact (List.perm_append_comm_assoc _ _ _).append_right _
    · rw [Partitioned.contents, List.flatMap_append, List.flatMap_cons]
      rw [← List.append_assoc (add keyOf part.rows row)]
      exact (List.perm_append_comm_assoc _ _ _).append_right _
    · intro other member same
      have apart := placed.apart
      rw [shape, List.pairwise_append, List.pairwise_cons] at apart
      have elsewhere : ∀ part' ∈ table.parts, part'.covers (instantOf row) = false → other ∉ part'.rows := by
        intro part' isPart notCovers inside
        rw [← same, placed.rows part' isPart other inside] at notCovers
        cases notCovers
      rcases List.mem_append.mp member with inParts | inDefault
      · rcases List.mem_append.mp inParts with inBefore | inLater
        · obtain ⟨part', isPart, inside⟩ := List.mem_flatMap.mp inBefore
          have notCovers := not_covers_of_apart (apart.2.2 part' isPart part List.mem_cons_self).symm covers
          exact elsewhere part' (shape ▸ List.mem_append_left _ isPart) notCovers inside
        · obtain ⟨part', isPart, inside⟩ := List.mem_flatMap.mp inLater
          have notCovers := not_covers_of_apart (apart.2.1.1 part' isPart) covers
          exact elsewhere part' (shape ▸ List.mem_append_right _ (List.mem_cons_of_mem _ isPart)) notCovers inside
      · have notCovers := placed.catchAll other inDefault part (shape ▸ List.mem_append_right _ List.mem_cons_self)
        rw [same, covers] at notCovers
        cases notCovers
  · rename_i nowhere
    refine ⟨table.catchAll, table.parts.flatMap Partition.rows, List.perm_append_comm, List.perm_append_comm, ?_⟩
    intro other member same
    obtain ⟨part, isPart, inside⟩ := List.mem_flatMap.mp member
    have notCovers := place_eq_none nowhere part isPart
    rw [← same, placed.rows part isPart other inside] at notCovers
    cases notCovers

theorem insertRow_placed (placed : Placed instantOf table) (row : α) :
    Placed instantOf (insertRow instantOf keyOf table row) := by
  unfold insertRow
  split
  · rename_i parts found
    obtain ⟨before, part, later, shape, covers, rfl⟩ := place_eq_some found
    have apart := placed.apart
    rw [shape, List.pairwise_append, List.pairwise_cons] at apart
    have isPart : part ∈ table.parts := shape ▸ List.mem_append_right _ List.mem_cons_self
    have others : ∀ part' ∈ before ++ { part with rows := add keyOf part.rows row } :: later,
        part' = { part with rows := add keyOf part.rows row } ∨ part' ∈ table.parts := by
      intro part' member
      rcases List.mem_append.mp member with inBefore | inRest
      · exact Or.inr (shape ▸ List.mem_append_left _ inBefore)
      · rcases List.mem_cons.mp inRest with isHome | inLater
        · exact Or.inl isHome
        · exact Or.inr (shape ▸ List.mem_append_right _ (List.mem_cons_of_mem _ inLater))
    refine ⟨?_, ?_, ?_⟩
    · rw [List.pairwise_append, List.pairwise_cons]
      refine ⟨apart.1, ⟨fun part' member => apart.2.1.1 part' member, apart.2.1.2⟩, ?_⟩
      intro first inBefore second inRest
      rcases List.mem_cons.mp inRest with rfl | inLater
      · exact apart.2.2 first inBefore part List.mem_cons_self
      · exact apart.2.2 first inBefore second (List.mem_cons_of_mem _ inLater)
    · intro part' member other inside
      rcases others part' member with rfl | old
      · rcases mem_add inside with known | rfl
        · exact placed.rows part isPart other known
        · exact covers
      · exact placed.rows part' old other inside
    · intro other inside part' member
      rcases others part' member with rfl | old
      · exact placed.catchAll other inside part isPart
      · exact placed.catchAll other inside part' old
  · rename_i nowhere
    refine ⟨placed.apart, placed.rows, fun other inside part isPart => ?_⟩
    rcases mem_add inside with known | rfl
    · exact placed.catchAll other known part isPart
    · exact place_eq_none nowhere part isPart

/-! ## Inserts refine those of one table -/

/-- Equal keys have equal instants: the index includes the partition key. -/
def Includes (instantOf : α → Int) (keyOf : α → κ) : Prop :=
  ∀ row other, keyOf row = keyOf other → instantOf row = instantOf other

theorem insertIgnoring_singleton : insertIgnoring keyOf flat [row] = add keyOf flat row := by
  simp only [insertIgnoring, admitted, add]
  split
  · exact List.append_nil flat
  · rfl

theorem insertIgnoring_cons :
    insertIgnoring keyOf flat (row :: rows) = insertIgnoring keyOf (insertIgnoring keyOf flat [row]) rows := by
  rw [insertIgnoring_singleton, add]
  split
  · rename_i old
    rw [insertIgnoring, admitted, if_pos old, insertIgnoring]
  · rename_i fresh
    rw [insertIgnoring, admitted, if_neg fresh, insertIgnoring, List.append_assoc]
    congr 1
    rw [List.singleton_append, admitted_congr ((flat ++ [row]).map keyOf)]
    intro other _
    simp [or_comm]

theorem insertRow_refines (includes : Includes instantOf keyOf) (placed : Placed instantOf table)
    (same : table.contents.Perm flat) (row : α) :
    (insertRow instantOf keyOf table row).contents.Perm (insertIgnoring keyOf flat [row]) := by
  obtain ⟨home, rest, split, inserted, elsewhere⟩ := @insertRow_split α κ _ instantOf keyOf table placed row
  -- A conflict can only stand in the row's own partition.
  have conflict : keyOf row ∈ flat.map keyOf ↔ keyOf row ∈ home.map keyOf := by
    rw [((same.symm.trans split).map keyOf).mem_iff, List.map_append, List.mem_append]
    refine or_iff_left fun inRest => ?_
    obtain ⟨other, member, sameKey⟩ := List.mem_map.mp inRest
    exact elsewhere other member (includes other row sameKey)
  rw [insertIgnoring_singleton, add]
  rw [add] at inserted
  by_cases held : keyOf row ∈ home.map keyOf
  · rw [if_pos held] at inserted
    rw [if_pos (conflict.mpr held)]
    exact inserted.trans (split.symm.trans same)
  · rw [if_neg held] at inserted
    rw [if_neg fun old => held (conflict.mp old)]
    have moved : (home ++ [row] ++ rest).Perm (home ++ rest ++ [row]) := by
      rw [List.append_assoc, List.append_assoc]
      exact List.perm_append_comm.append_left home
    exact (inserted.trans moved).trans ((split.symm.trans same).append_right [row])

theorem insert_refines (includes : Includes instantOf keyOf) (placed : Placed instantOf table)
    (same : table.contents.Perm flat) (rows : List α) :
    (insert instantOf keyOf table rows).contents.Perm (insertIgnoring keyOf flat rows) ∧
      Placed instantOf (insert instantOf keyOf table rows) := by
  induction rows generalizing table flat with
  | nil =>
    rw [insertIgnoring, admitted, List.append_nil]
    exact ⟨same, placed⟩
  | cons row rest ih =>
    rw [insertIgnoring_cons]
    exact ih (insertRow_placed placed row) (insertRow_refines includes placed same row)

/-! ## Maintenance keeps every row -/

theorem attach_eq_some :
    attach instantOf part parts = some parts' ↔
      (part.lo < part.hi ∧ (∀ other ∈ parts, part.apart other) ∧
        ∀ row ∈ part.rows, part.covers (instantOf row) = true) ∧ parts' = parts ++ [part] := by
  simp only [attach, Option.ite_none_right_eq_some, Option.some.injEq]
  exact and_congr_right fun _ => eq_comm

theorem attachDefault_eq_some :
    attachDefault instantOf rows parts = some after ↔
      (∀ row ∈ rows, ∀ part ∈ parts, part.covers (instantOf row) = false) ∧ after = ⟨parts, rows⟩ := by
  simp only [attachDefault, Option.ite_none_right_eq_some, Option.some.injEq]
  exact and_congr_right fun _ => eq_comm

/-- What is attached beside the partitions there are is placed like them. -/
theorem attached_placed (placed : Placed instantOf table) {moved kept : List α}
    (attached : (attach instantOf ⟨lo, hi, moved⟩ table.parts).bind (attachDefault instantOf kept) = some after) :
    Placed instantOf after ∧ after.contents = table.parts.flatMap Partition.rows ++ moved ++ kept := by
  obtain ⟨parts, added, rest⟩ := Option.bind_eq_some_iff.mp attached
  obtain ⟨⟨_, apart, inside⟩, rfl⟩ := attach_eq_some.mp added
  obtain ⟨elsewhere, rfl⟩ := attachDefault_eq_some.mp rest
  refine ⟨⟨?_, ?_, elsewhere⟩, by simp [Partitioned.contents]⟩
  · rw [List.pairwise_append]
    refine ⟨placed.apart, List.pairwise_singleton _ _, fun other member part isNew => ?_⟩
    rw [List.mem_singleton.mp isNew]
    exact (apart other member).symm
  · intro part member
    rcases List.mem_append.mp member with old | new
    · exact placed.rows part old
    · rw [List.mem_singleton.mp new]
      exact inside

theorem createPartition_spec (placed : Placed instantOf table)
    (created : createPartition instantOf lo hi table = some after) :
    Placed instantOf after ∧ after.contents = table.contents := by
  obtain ⟨still, contents⟩ := attached_placed placed created
  exact ⟨still, by rw [contents, List.append_nil, Partitioned.contents]⟩

theorem reclaim_spec (placed : Placed instantOf table) (reclaimed : reclaim instantOf lo hi table = some after) :
    Placed instantOf after ∧ after.contents.Perm table.contents := by
  obtain ⟨still, contents⟩ := attached_placed placed reclaimed
  refine ⟨still, ?_⟩
  rw [contents, Partitioned.contents, List.append_assoc]
  exact (List.filter_append_perm _ _).append_left _

end EmissionsPlatform.RangePartitions
