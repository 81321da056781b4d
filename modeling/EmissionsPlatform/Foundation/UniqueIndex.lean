import Mathlib.Data.List.Basic
import Mathlib.Data.List.Find
import Mathlib.Data.List.Nodup
import Mathlib.Data.List.Perm.Basic
import Mathlib.Logic.Function.Basic

/-! Tables under a unique index, filled by inserts that skip conflicts.

Rows are proposed in order; a row is admitted when its key is held neither by
the table nor by a row admitted before it in the same insert. `insertAll`
performs a sequence of such inserts. When two batches of a sequence share a
key only if they are the same batch, the table they leave depends on neither
their order nor their multiplicity: `insertAll_perm`. -/
namespace EmissionsPlatform.UniqueIndex
set_option autoImplicit false

variable {α β κ γ : Type*} [DecidableEq κ] [DecidableEq γ]

/-- The proposed rows an insert that skips conflicts creates, in order. -/
def admitted (keyOf : α → κ) : List κ → List α → List α
  | _, [] => []
  | held, row :: rest =>
    if keyOf row ∈ held then admitted keyOf held rest
    else row :: admitted keyOf (keyOf row :: held) rest

variable {keyOf : α → κ} {held : List κ} {rows : List α} {row : α}

theorem admitted_sublist : (admitted keyOf held rows).Sublist rows := by
  induction rows generalizing held with
  | nil => exact List.Sublist.slnil
  | cons head rest ih =>
    simp only [admitted]
    split
    · exact ih.cons head
    · exact ih.cons_cons head

theorem admitted_subset (member : row ∈ admitted keyOf held rows) : row ∈ rows :=
  admitted_sublist.subset member

/-- No admitted row has a key that was already held. -/
theorem admitted_fresh (member : row ∈ admitted keyOf held rows) : keyOf row ∉ held := by
  induction rows generalizing held with
  | nil => cases member
  | cons head rest ih =>
    simp only [admitted] at member
    split at member
    · exact ih member
    · rename_i fresh
      rcases List.mem_cons.mp member with rfl | later
      · exact fresh
      · exact fun old => ih later (List.mem_cons_of_mem _ old)

theorem admitted_keys_nodup : ((admitted keyOf held rows).map keyOf).Nodup := by
  induction rows generalizing held with
  | nil => exact List.nodup_nil
  | cons head rest ih =>
    simp only [admitted]
    split
    · exact ih
    · refine List.nodup_cons.mpr ⟨?_, ih⟩
      intro again
      obtain ⟨other, member, same⟩ := List.mem_map.mp again
      exact admitted_fresh member (same ▸ List.mem_cons_self)

/-- Every proposed key is held afterwards. -/
theorem key_covered (member : row ∈ rows) :
    keyOf row ∈ held ∨ keyOf row ∈ (admitted keyOf held rows).map keyOf := by
  induction rows generalizing held with
  | nil => cases member
  | cons head rest ih =>
    simp only [admitted]
    split
    · rename_i old
      rcases List.mem_cons.mp member with rfl | later
      · exact Or.inl old
      · exact ih later
    · rcases List.mem_cons.mp member with rfl | later
      · exact Or.inr (by simp)
      · rcases @ih (keyOf head :: held) later with old | new
        · rcases List.mem_cons.mp old with same | old
          · exact Or.inr (by simp [same])
          · exact Or.inl old
        · exact Or.inr (List.mem_cons_of_mem _ new)

theorem mem_admitted_keys {key : κ} :
    key ∈ (admitted keyOf held rows).map keyOf ↔ key ∈ rows.map keyOf ∧ key ∉ held := by
  constructor
  · intro member
    obtain ⟨row, created, rfl⟩ := List.mem_map.mp member
    exact ⟨List.mem_map_of_mem (admitted_subset created), admitted_fresh created⟩
  · rintro ⟨member, fresh⟩
    obtain ⟨row, proposed, rfl⟩ := List.mem_map.mp member
    exact (key_covered proposed).resolve_left fresh

/-- The first admitted key with a property is the first new one. -/
theorem find?_admitted (property : κ → Bool) :
    ((admitted keyOf held rows).map keyOf).find? property =
      (rows.map keyOf).find? fun key => decide (key ∉ held) && property key := by
  induction rows generalizing held with
  | nil => rfl
  | cons head rest ih =>
    by_cases old : keyOf head ∈ held
    · simp only [admitted, old, ↓reduceIte, List.map_cons, List.find?_cons, not_true_eq_false, decide_false,
        Bool.false_and, ih]
    · cases found : property (keyOf head) with
      | true => simp only [admitted, old, ↓reduceIte, List.map_cons, List.find?_cons, not_false_eq_true,
          decide_true, found, Bool.and_self]
      | false =>
        simp only [admitted, old, ↓reduceIte, List.map_cons, List.find?_cons, found, Bool.and_false, ih]
        -- The head has been passed over, so holding its key makes no difference.
        refine List.find?_congr fun key _ => ?_
        by_cases same : key = keyOf head <;> simp [same, found]

/-- Only the held keys the proposals ask about matter. -/
theorem admitted_congr (other : List κ)
    (agree : ∀ row ∈ rows, keyOf row ∈ held ↔ keyOf row ∈ other) :
    admitted keyOf held rows = admitted keyOf other rows := by
  induction rows generalizing held other with
  | nil => rfl
  | cons head rest ih =>
    have tail : ∀ row ∈ rest, keyOf row ∈ held ↔ keyOf row ∈ other :=
      fun row member => agree row (List.mem_cons_of_mem _ member)
    simp only [admitted, agree head List.mem_cons_self, ih other tail]
    split
    · rfl
    · rw [ih (keyOf head :: other) (fun row member => by simp [tail row member])]

theorem admitted_eq_nil (covered : ∀ row ∈ rows, keyOf row ∈ held) :
    admitted keyOf held rows = [] := by
  induction rows with
  | nil => rfl
  | cons head rest ih =>
    rw [admitted, if_pos (covered head List.mem_cons_self)]
    exact ih fun row member => covered row (List.mem_cons_of_mem _ member)

/-- All rows are admitted when their keys are new and distinct. -/
theorem admitted_eq_self_iff :
    admitted keyOf held rows = rows ↔ (rows.map keyOf).Nodup ∧ ∀ row ∈ rows, keyOf row ∉ held := by
  constructor
  · intro all
    have keys := @admitted_keys_nodup _ _ _ keyOf held rows
    have fresh := fun row => @admitted_fresh _ _ _ keyOf held rows row
    rw [all] at keys fresh
    exact ⟨keys, fun row member => fresh row member⟩
  · rintro ⟨nodup, fresh⟩
    induction rows generalizing held with
    | nil => rfl
    | cons head rest ih =>
      obtain ⟨headNew, restNodup⟩ := List.nodup_cons.mp nodup
      rw [admitted, if_neg (fresh head List.mem_cons_self)]
      refine congrArg _ (ih restNodup fun row member held' => ?_)
      rcases List.mem_cons.mp held' with same | old
      · exact headNew (same ▸ List.mem_map_of_mem member)
      · exact fresh row (List.mem_cons_of_mem _ member) old

/-- Holding more keys takes the rows of those keys away. -/
theorem admitted_append_held (more : List κ) :
    admitted keyOf (held ++ more) rows = (admitted keyOf held rows).filter fun row => keyOf row ∉ more := by
  induction rows generalizing held with
  | nil => rfl
  | cons head rest ih =>
    by_cases old : keyOf head ∈ held
    · simp only [admitted, old, List.mem_append, true_or, ↓reduceIte, ih]
    · by_cases taken : keyOf head ∈ more
      · have passed : admitted keyOf (held ++ more) rest = admitted keyOf (keyOf head :: held ++ more) rest := by
          apply admitted_congr _
          intro row _
          rw [List.cons_append, List.mem_cons]
          exact ⟨Or.inr, fun known => known.elim (fun same => same ▸ List.mem_append_right _ taken) id⟩
        simp only [admitted, old, taken, List.mem_append, or_true, ↓reduceIte, passed, ih]
        rw [List.filter_cons_of_neg (by simpa using taken)]
      · simp only [admitted, old, taken, List.mem_append, or_self, ↓reduceIte]
        rw [List.filter_cons_of_pos (by simpa using taken), ← ih]
        rfl

/-- Renaming rows and keys along maps that do not identify two of the keys in
play renames what is admitted. -/
theorem admitted_map {keyOf' : β → γ} (rename : α → β) (renameKey : κ → γ)
    (renamed : ∀ row ∈ rows, keyOf' (rename row) = renameKey (keyOf row))
    (faithful : ∀ row ∈ rows, ∀ key, key ∈ held ∨ key ∈ rows.map keyOf →
      renameKey (keyOf row) = renameKey key → keyOf row = key) :
    admitted keyOf' (held.map renameKey) (rows.map rename) =
      (admitted keyOf held rows).map rename := by
  induction rows generalizing held with
  | nil => rfl
  | cons head rest ih =>
    have same : keyOf' (rename head) ∈ held.map renameKey ↔ keyOf head ∈ held := by
      rw [renamed head List.mem_cons_self]
      constructor
      · intro renamedHeld
        obtain ⟨key, member, equal⟩ := List.mem_map.mp renamedHeld
        rw [faithful head List.mem_cons_self key (Or.inl member) equal.symm]
        exact member
      · exact List.mem_map_of_mem
    simp only [List.map_cons, admitted, same]
    split
    · exact ih (fun row member => renamed row (List.mem_cons_of_mem _ member))
        (fun row member key known => faithful row (List.mem_cons_of_mem _ member) key
          (known.imp_right (List.mem_cons_of_mem _)))
    · rw [List.map_cons, ← @ih (keyOf head :: held)
        (fun row member => renamed row (List.mem_cons_of_mem _ member))
        (fun row member key known => faithful row (List.mem_cons_of_mem _ member) key (by
          rcases known with old | later
          · rcases List.mem_cons.mp old with rfl | old
            · exact Or.inr List.mem_cons_self
            · exact Or.inl old
          · exact Or.inr (List.mem_cons_of_mem _ later))),
        List.map_cons, renamed head List.mem_cons_self]

/-- A selection of keys may be made before the insert or after it. -/
theorem filter_admitted (chosen : κ → Bool) :
    (admitted keyOf held rows).filter (fun row => chosen (keyOf row)) =
      admitted keyOf (held.filter chosen) (rows.filter fun row => chosen (keyOf row)) := by
  induction rows generalizing held with
  | nil => rfl
  | cons head rest ih =>
    cases choice : chosen (keyOf head) with
    | true =>
      have same : keyOf head ∈ held.filter chosen ↔ keyOf head ∈ held := by simp [choice]
      simp only [admitted, List.filter_cons, choice, ↓reduceIte, same]
      split
      · exact ih
      · simp only [List.filter_cons, choice, ↓reduceIte, ih]
    | false =>
      simp only [admitted, List.filter_cons, choice, Bool.false_eq_true, ↓reduceIte]
      split
      · exact ih
      · simp only [List.filter_cons, choice, Bool.false_eq_true, ↓reduceIte, ih]

/-! ## Whole tables -/

/-- One insert that skips conflicts. -/
def insertIgnoring (keyOf : α → κ) (table rows : List α) : List α :=
  table ++ admitted keyOf (table.map keyOf) rows

/-- A sequence of such inserts. -/
def insertAll (keyOf : α → κ) (table : List α) (batches : List (List α)) : List α :=
  batches.foldl (insertIgnoring keyOf) table

variable {table : List α} {batches : List (List α)}

/-- The unique index survives an insert. -/
theorem insertIgnoring_nodup (nodup : (table.map keyOf).Nodup) :
    ((insertIgnoring keyOf table rows).map keyOf).Nodup := by
  rw [insertIgnoring, List.map_append]
  refine List.nodup_append.mpr ⟨nodup, admitted_keys_nodup, ?_⟩
  rintro old oldMember new newMember rfl
  obtain ⟨row, member, same⟩ := List.mem_map.mp newMember
  exact admitted_fresh member (same ▸ oldMember)

theorem insertAll_nodup (nodup : (table.map keyOf).Nodup) :
    ((insertAll keyOf table batches).map keyOf).Nodup := by
  induction batches generalizing table with
  | nil => exact nodup
  | cons batch rest ih => exact ih (insertIgnoring_nodup nodup)

/-- A batch the table knows nothing of, or one it has already taken in. -/
def Settled (keyOf : α → κ) (table : List α) (batch : List α) : Prop :=
  (∀ row ∈ batch, keyOf row ∉ table.map keyOf) ∨
    (∀ row ∈ batch, keyOf row ∈ table.map keyOf) ∧ ∀ row ∈ admitted keyOf [] batch, row ∈ table

/-- Batches that share a key are the same batch. -/
def Compatible (keyOf : α → κ) (batches : List (List α)) : Prop :=
  ∀ batch ∈ batches, ∀ other ∈ batches, ∀ row ∈ batch, ∀ row' ∈ other,
    keyOf row = keyOf row' → batch = other

theorem mem_insertIgnoring_of_settled {batch : List α} (settled : Settled keyOf table batch) :
    row ∈ insertIgnoring keyOf table batch ↔ row ∈ table ∨ row ∈ admitted keyOf [] batch := by
  rcases settled with unknown | ⟨covered, taken⟩
  · rw [insertIgnoring, List.mem_append, admitted_congr []]
    exact fun row member => by simpa using unknown row member
  · rw [insertIgnoring, admitted_eq_nil covered, List.append_nil]
    exact ⟨Or.inl, fun either => either.elim id (taken row)⟩

private theorem keys_insertIgnoring {batch : List α} {key : κ} :
    key ∈ (insertIgnoring keyOf table batch).map keyOf ↔
      key ∈ table.map keyOf ∨ key ∈ batch.map keyOf := by
  rw [insertIgnoring, List.map_append, List.mem_append]
  constructor
  · rintro (old | new)
    · exact Or.inl old
    · exact Or.inr (admitted_sublist.map keyOf |>.subset new)
  · rintro (old | new)
    · exact Or.inl old
    · obtain ⟨row, member, rfl⟩ := List.mem_map.mp new
      exact key_covered member

/-- Taking in one batch leaves every other compatible batch settled. -/
theorem settled_insertIgnoring {batch other : List α} (settled : Settled keyOf table batch)
    (otherSettled : Settled keyOf table other)
    (compatible : ∀ row ∈ batch, ∀ row' ∈ other, keyOf row = keyOf row' → batch = other) :
    Settled keyOf (insertIgnoring keyOf table batch) other := by
  rcases otherSettled with unknown | ⟨covered, taken⟩
  · by_cases same : batch = other
    · subst same
      refine Or.inr ⟨fun row member => ?_, fun row member => ?_⟩
      · exact keys_insertIgnoring.mpr (Or.inr (List.mem_map_of_mem member))
      · exact (mem_insertIgnoring_of_settled settled).mpr (Or.inr member)
    · apply Or.inl
      intro row member held
      rcases keys_insertIgnoring.mp held with old | new
      · exact unknown row member old
      · obtain ⟨row', member', equal⟩ := List.mem_map.mp new
        exact same (compatible row' member' row member equal)
  · refine Or.inr ⟨fun row member => ?_, fun row member => ?_⟩
    · exact keys_insertIgnoring.mpr (Or.inl (covered row member))
    · exact List.mem_append_left _ (taken row member)

/-- What a sequence of compatible inserts leaves: the rows of the start and
the rows each batch would leave in an empty table. -/
theorem mem_insertAll (compatible : Compatible keyOf batches)
    (settled : ∀ batch ∈ batches, Settled keyOf table batch) :
    row ∈ insertAll keyOf table batches ↔
      row ∈ table ∨ ∃ batch ∈ batches, row ∈ admitted keyOf [] batch := by
  induction batches generalizing table with
  | nil => simp [insertAll]
  | cons batch rest ih =>
    have headSettled := settled batch List.mem_cons_self
    have later : ∀ other ∈ rest, Settled keyOf (insertIgnoring keyOf table batch) other :=
      fun other member => settled_insertIgnoring headSettled
        (settled other (List.mem_cons_of_mem _ member))
        (compatible batch List.mem_cons_self other (List.mem_cons_of_mem _ member))
    have tailCompatible : Compatible keyOf rest := fun first firstMember second secondMember =>
      compatible first (List.mem_cons_of_mem _ firstMember) second
        (List.mem_cons_of_mem _ secondMember)
    rw [insertAll, List.foldl_cons]
    apply (ih tailCompatible later).trans
    rw [mem_insertIgnoring_of_settled headSettled]
    simp [or_assoc]

/-- **Order and multiplicity of compatible batches do not matter.** -/
theorem insertAll_perm {batches' : List (List α)} (nodup : (table.map keyOf).Nodup)
    (compatible : Compatible keyOf batches) (sameBatches : ∀ batch, batch ∈ batches ↔ batch ∈ batches')
    (unknown : ∀ batch ∈ batches, ∀ row ∈ batch, keyOf row ∉ table.map keyOf) :
    (insertAll keyOf table batches).Perm (insertAll keyOf table batches') := by
  have settled : ∀ batch ∈ batches, Settled keyOf table batch :=
    fun batch member => Or.inl (unknown batch member)
  have settled' : ∀ batch ∈ batches', Settled keyOf table batch :=
    fun batch member => settled batch ((sameBatches batch).mpr member)
  have compatible' : Compatible keyOf batches' := fun first firstMember second secondMember =>
    compatible first ((sameBatches first).mpr firstMember) second ((sameBatches second).mpr secondMember)
  apply (List.perm_ext_iff_of_nodup (insertAll_nodup nodup).of_map (insertAll_nodup nodup).of_map).mpr
  intro row
  rw [mem_insertAll compatible settled, mem_insertAll compatible' settled']
  simp only [sameBatches]

theorem filter_insertIgnoring (chosen : κ → Bool) :
    (insertIgnoring keyOf table rows).filter (fun row => chosen (keyOf row)) =
      insertIgnoring keyOf (table.filter fun row => chosen (keyOf row))
        (rows.filter fun row => chosen (keyOf row)) := by
  rw [insertIgnoring, List.filter_append, filter_admitted, List.filter_map]
  rfl

theorem filter_insertAll (chosen : κ → Bool) :
    (insertAll keyOf table batches).filter (fun row => chosen (keyOf row)) =
      insertAll keyOf (table.filter fun row => chosen (keyOf row))
        (batches.map fun batch => batch.filter fun row => chosen (keyOf row)) := by
  induction batches generalizing table with
  | nil => rfl
  | cons batch rest ih =>
    rw [insertAll, List.foldl_cons, List.map_cons, insertAll, List.foldl_cons, ← filter_insertIgnoring]
    exact ih

theorem insertAll_concat (batch : List α) :
    insertAll keyOf table (batches ++ [batch]) = insertIgnoring keyOf (insertAll keyOf table batches) batch := by
  rw [insertAll, List.foldl_append]
  rfl

/-- Taking in nothing, or what is held, changes nothing. -/
theorem insertAll_covered (covered : ∀ batch ∈ batches, ∀ row ∈ batch, keyOf row ∈ table.map keyOf) :
    insertAll keyOf table batches = table := by
  induction batches with
  | nil => rfl
  | cons batch rest ih =>
    have first : insertIgnoring keyOf table batch = table := by
      rw [insertIgnoring, admitted_eq_nil (covered batch List.mem_cons_self), List.append_nil]
    rw [insertAll, List.foldl_cons, first]
    exact ih fun other member => covered other (List.mem_cons_of_mem _ member)

/-- A batch that comes several times, and nothing else, is taken in once. -/
theorem insertAll_replayed {batch : List α} (replayed : ∀ other ∈ batches, other = [] ∨ other = batch)
    (comes : batch ∈ batches) : insertAll keyOf [] batches = admitted keyOf [] batch := by
  induction batches with
  | nil => cases comes
  | cons first rest ih =>
    rw [insertAll, List.foldl_cons]
    rcases replayed first List.mem_cons_self with rfl | rfl
    · rcases List.mem_cons.mp comes with rfl | later
      · exact insertAll_covered fun other member row inside => by
          rcases replayed other (List.mem_cons_of_mem _ member) with rfl | rfl <;> cases inside
      · exact ih (fun other member => replayed other (List.mem_cons_of_mem _ member)) later
    · refine insertAll_covered fun other member row inside => ?_
      rcases replayed other (List.mem_cons_of_mem _ member) with rfl | rfl
      · cases inside
      · rw [insertIgnoring, List.nil_append]
        exact (key_covered inside).resolve_left List.not_mem_nil

/-- A table that keeps its unique index. -/
structure Table {α κ : Type} (keyOf : α → κ) where
  rows : List α
  /-- No two rows have the same key. -/
  nodup : (rows.map keyOf).Nodup
  deriving DecidableEq

namespace Table

variable {α κ : Type} [DecidableEq κ] {keyOf : α → κ}

def empty : Table keyOf := ⟨[], List.nodup_nil⟩

/-- `INSERT … ON CONFLICT DO NOTHING`. -/
def insertIgnoring (table : Table keyOf) (rows : List α) : Table keyOf :=
  ⟨UniqueIndex.insertIgnoring keyOf table.rows rows, insertIgnoring_nodup table.nodup⟩

/-- The rows such an insert creates: what its `RETURNING` yields. -/
def created (table : Table keyOf) (rows : List α) : List α :=
  admitted keyOf (table.rows.map keyOf) rows

@[simp] theorem insertIgnoring_rows (table : Table keyOf) (rows : List α) :
    (table.insertIgnoring rows).rows = table.rows ++ table.created rows := rfl

omit [DecidableEq κ] in
/-- A key has at most one row. -/
theorem eq_of_key (table : Table keyOf) {a b : α} (member : a ∈ table.rows) (member' : b ∈ table.rows)
    (same : keyOf a = keyOf b) : a = b :=
  List.inj_on_of_nodup_map table.nodup member member' same

end Table

end EmissionsPlatform.UniqueIndex
