import Mathlib.Data.List.Basic
import Mathlib.Data.List.Nodup

/-! Finite maps that remember the order in which their keys were inserted: a
new key goes to the end, and writing to a held key keeps its place. No key is
held twice, and the structure carries that fact.

`groupBy` is the accumulating loop such maps are used for: one pass over rows
that starts an entry at the first row of a key and folds the later ones into
it. `get?_groupBy` says what the entry of a key is in terms of the rows of
that key alone. -/
namespace EmissionsPlatform
set_option autoImplicit false

/-- An insertion-ordered map. -/
structure InsertionMap (κ ν : Type*) where
  /-- The entries, oldest key first. -/
  entries : List (κ × ν)
  /-- Every key is held once. -/
  nodup : (entries.map Prod.fst).Nodup
  deriving DecidableEq

namespace InsertionMap

variable {κ ν α : Type*} [DecidableEq κ]

/-- Write a value: in place when the key is held, at the end otherwise. -/
def setEntries (key : κ) (value : ν) : List (κ × ν) → List (κ × ν)
  | [] => [(key, value)]
  | entry :: rest =>
    if entry.1 = key then (key, value) :: rest else entry :: setEntries key value rest

omit [DecidableEq κ] in
theorem fst_mem_of_mem {entries : List (κ × ν)} {key : κ} {value : ν}
    (member : (key, value) ∈ entries) : key ∈ entries.map Prod.fst :=
  List.mem_map_of_mem (f := Prod.fst) member

theorem keys_setEntries (key : κ) (value : ν) (entries : List (κ × ν)) :
    (setEntries key value entries).map Prod.fst =
      if key ∈ entries.map Prod.fst then entries.map Prod.fst
      else entries.map Prod.fst ++ [key] := by
  induction entries with
  | nil => simp [setEntries]
  | cons entry rest ih =>
    by_cases same : entry.1 = key
    · simp [setEntries, same]
    · simp only [setEntries, if_neg same, List.map_cons, ih, List.mem_cons, Ne.symm same, false_or]
      split <;> rfl

theorem nodup_setEntries (key : κ) (value : ν) {entries : List (κ × ν)}
    (nodup : (entries.map Prod.fst).Nodup) :
    ((setEntries key value entries).map Prod.fst).Nodup := by
  rw [keys_setEntries]
  split
  · exact nodup
  · rename_i absent
    refine List.nodup_append.mpr ⟨nodup, List.nodup_singleton key, ?_⟩
    intro held member other single same
    rw [List.mem_singleton] at single
    exact absent (single ▸ same ▸ member)

/-- `new Map()`. -/
def empty : InsertionMap κ ν := ⟨[], List.nodup_nil⟩

/-- `map.get(key)`. -/
def get? (map : InsertionMap κ ν) (key : κ) : Option ν := map.entries.lookup key

/-- `map.set(key, value)`. -/
def set (map : InsertionMap κ ν) (key : κ) (value : ν) : InsertionMap κ ν :=
  ⟨setEntries key value map.entries, nodup_setEntries key value map.nodup⟩

/-- `map.delete(key)`. -/
def erase (map : InsertionMap κ ν) (key : κ) : InsertionMap κ ν :=
  ⟨map.entries.filter fun entry => entry.1 ≠ key,
    map.nodup.sublist (List.Sublist.map Prod.fst List.filter_sublist)⟩

/-- `map.has(key)`. -/
def has (map : InsertionMap κ ν) (key : κ) : Bool := (map.get? key).isSome

/-- `[...map.keys()]`. -/
def keys (map : InsertionMap κ ν) : List κ := map.entries.map Prod.fst

/-- `[...map.values()]`. -/
def values (map : InsertionMap κ ν) : List ν := map.entries.map Prod.snd

/-- `map.size`. -/
def size (map : InsertionMap κ ν) : Nat := map.entries.length

variable {map : InsertionMap κ ν} {key other : κ} {value : ν}

@[simp] theorem get?_empty : (empty : InsertionMap κ ν).get? key = none := rfl

private theorem lookup_cons_ite {held : κ} {content : ν} {rest : List (κ × ν)} :
    ((held, content) :: rest).lookup key = if key = held then some content else rest.lookup key := by
  by_cases same : key = held
  · simp [same]
  · rw [List.lookup_cons, beq_eq_false_iff_ne.mpr same, if_neg same]

private theorem lookup_setEntries (entries : List (κ × ν)) :
    (setEntries key value entries).lookup other =
      if other = key then some value else entries.lookup other := by
  induction entries with
  | nil => simp [setEntries, lookup_cons_ite]
  | cons entry rest ih =>
    obtain ⟨held, content⟩ := entry
    by_cases same : held = key
    · subst same
      by_cases asked : other = held <;> simp [setEntries, lookup_cons_ite, asked]
    · simp only [setEntries, if_neg same, lookup_cons_ite, ih]
      by_cases asked : other = held
      · subst asked
        simp [same]
      · simp [asked]

theorem get?_set : (map.set key value).get? other = if other = key then some value else map.get? other :=
  lookup_setEntries map.entries

@[simp] theorem get?_set_self : (map.set key value).get? key = some value := by
  simp [get?_set]

theorem get?_set_ne (different : other ≠ key) : (map.set key value).get? other = map.get? other := by
  simp [get?_set, different]

private theorem lookup_eq_some_iff_mem {entries : List (κ × ν)}
    (nodup : (entries.map Prod.fst).Nodup) :
    entries.lookup key = some value ↔ (key, value) ∈ entries := by
  induction entries with
  | nil => simp
  | cons entry rest ih =>
    obtain ⟨held, content⟩ := entry
    rw [List.map_cons, List.nodup_cons] at nodup
    by_cases same : key = held
    · subst same
      have absent : (key, value) ∉ rest := fun member => nodup.1 (fst_mem_of_mem member)
      simp [absent, eq_comm]
    · simp [lookup_cons_ite, same, ih nodup.2]

/-- A lookup finds exactly the entries. -/
theorem get?_eq_some_iff : map.get? key = some value ↔ (key, value) ∈ map.entries :=
  lookup_eq_some_iff_mem map.nodup

theorem get?_eq_none_iff : map.get? key = none ↔ key ∉ map.keys := by
  simp only [get?, List.lookup_eq_none_iff, keys, List.mem_map, not_exists, not_and]
  constructor
  · rintro absent entry member rfl
    simpa using absent entry member
  · intro absent entry member
    exact bne_iff_ne.mpr (Ne.symm (absent entry member))

theorem has_iff : map.has key = true ↔ key ∈ map.keys := by
  rw [has, Option.isSome_iff_ne_none, Ne, get?_eq_none_iff, Decidable.not_not]

theorem mem_keys_iff : key ∈ map.keys ↔ ∃ value, map.get? key = some value := by
  rw [← has_iff, has, Option.isSome_iff_exists]

theorem keys_set : (map.set key value).keys = if key ∈ map.keys then map.keys else map.keys ++ [key] :=
  keys_setEntries key value map.entries

theorem mem_keys_set : other ∈ (map.set key value).keys ↔ other = key ∨ other ∈ map.keys := by
  rw [keys_set]
  split
  · rename_i held
    exact ⟨Or.inr, fun either => either.elim (fun same => same ▸ held) id⟩
  · simp [or_comm]

theorem get?_erase : (map.erase key).get? other = if other = key then none else map.get? other := by
  split
  · rename_i same
    rw [get?_eq_none_iff]
    simp [keys, erase, same]
  · rename_i different
    apply Option.ext
    intro content
    simp [get?_eq_some_iff, erase, different]

theorem mem_values_iff : value ∈ map.values ↔ ∃ key, map.get? key = some value := by
  simp only [values, List.mem_map, get?_eq_some_iff]
  constructor
  · rintro ⟨⟨key, content⟩, member, rfl⟩
    exact ⟨key, member⟩
  · rintro ⟨key, member⟩
    exact ⟨(key, value), member, rfl⟩

/-- What an entry is after a write: the value written, or an old entry of
another key. -/
theorem get?_set_eq_some {held : ν} (found : (map.set key value).get? other = some held) :
    other = key ∧ held = value ∨ other ≠ key ∧ map.get? other = some held := by
  rw [get?_set] at found
  split at found
  · rename_i same
    exact Or.inl ⟨same, (Option.some.inj found).symm⟩
  · rename_i different
    exact Or.inr ⟨different, found⟩

theorem get?_erase_eq_some {held : ν} (found : (map.erase key).get? other = some held) :
    other ≠ key ∧ map.get? other = some held := by
  rw [get?_erase] at found
  split at found
  · cases found
  · rename_i different
    exact ⟨different, found⟩

/-- The map with every value replaced by a part of it. -/
def mapValues {μ : Type*} (part : ν → μ) (map : InsertionMap κ ν) : InsertionMap κ μ :=
  ⟨map.entries.map fun entry => (entry.1, part entry.2), by simpa [Function.comp_def] using map.nodup⟩

private theorem setEntries_map {μ : Type*} (part : ν → μ) (entries : List (κ × ν)) :
    (setEntries key value entries).map (fun entry => (entry.1, part entry.2)) =
      setEntries key (part value) (entries.map fun entry => (entry.1, part entry.2)) := by
  induction entries with
  | nil => rfl
  | cons entry rest ih =>
    by_cases same : entry.1 = key
    · simp [setEntries, same]
    · simp [setEntries, same, ih]

theorem mapValues_set {μ : Type*} (part : ν → μ) :
    (map.set key value).mapValues part = (map.mapValues part).set key (part value) := by
  simp only [mapValues, set, setEntries_map]

theorem get?_mapValues {μ : Type*} (part : ν → μ) : (map.mapValues part).get? key = (map.get? key).map part := by
  obtain ⟨entries, nodup⟩ := map
  simp only [mapValues, get?]
  clear nodup
  induction entries with
  | nil => rfl
  | cons entry rest ih =>
    obtain ⟨held, content⟩ := entry
    rw [List.map_cons, lookup_cons_ite, lookup_cons_ite, ih]
    by_cases asked : key = held
    · rw [if_pos asked, if_pos asked, Option.map_some]
    · rw [if_neg asked, if_neg asked]

/-- When content shows its key, no value is held twice. -/
theorem values_nodup (label : ν → κ) (labelled : ∀ key value, map.get? key = some value → label value = key) :
    map.values.Nodup := by
  have labels : map.values.map label = map.keys := by
    rw [values, keys, List.map_map]
    exact List.map_congr_left fun entry member => labelled entry.1 entry.2 (get?_eq_some_iff.mpr member)
  exact List.Nodup.of_map label (labels ▸ map.nodup)

/-! ## Recording rows -/

/-- Write the value of every row under its key. -/
def setAll (keyOf : α → κ) (valueOf : α → ν) (map : InsertionMap κ ν) (rows : List α) :
    InsertionMap κ ν :=
  rows.foldl (fun map row => map.set (keyOf row) (valueOf row)) map

variable {keyOf : α → κ} {valueOf : α → ν}

theorem get?_setAll_eq_none {rows : List α} :
    (setAll keyOf valueOf map rows).get? key = none ↔ key ∉ rows.map keyOf ∧ map.get? key = none := by
  induction rows generalizing map with
  | nil => simp [setAll]
  | cons row rest ih =>
    rw [setAll, List.foldl_cons]
    apply ih.trans
    rw [get?_set, List.map_cons, List.mem_cons]
    split
    · rename_i same
      simp [same]
    · rename_i different
      simp [different]

/-- What is found afterwards was recorded, or was there before. -/
theorem get?_setAll_eq_some {rows : List α}
    (found : (setAll keyOf valueOf map rows).get? key = some value) :
    (∃ row ∈ rows, keyOf row = key ∧ valueOf row = value) ∨ map.get? key = some value := by
  induction rows generalizing map with
  | nil => exact Or.inr found
  | cons row rest ih =>
    rw [setAll, List.foldl_cons] at found
    rcases ih found with ⟨later, member, same⟩ | old
    · exact Or.inl ⟨later, List.mem_cons_of_mem _ member, same⟩
    · rcases get?_set_eq_some old with ⟨sameKey, sameValue⟩ | ⟨_, old⟩
      · exact Or.inl ⟨row, List.mem_cons_self, sameKey.symm, sameValue.symm⟩
      · exact Or.inr old

/-! ## Grouping rows by a key -/

/-- One row of the grouping loop: start the key's entry, or fold the row into
the entry it has. -/
def accumulate (keyOf : α → κ) (initial : α → ν) (add : ν → α → ν) (groups : InsertionMap κ ν)
    (row : α) : InsertionMap κ ν :=
  match groups.get? (keyOf row) with
  | some content => groups.set (keyOf row) (add content row)
  | none => groups.set (keyOf row) (initial row)

/-- One pass of the grouping loop over all rows. -/
def groupBy (keyOf : α → κ) (initial : α → ν) (add : ν → α → ν) (rows : List α) :
    InsertionMap κ ν :=
  rows.foldl (accumulate keyOf initial add) empty

/-- What the rows of one key add up to, after what the key already holds. -/
def gather (initial : α → ν) (add : ν → α → ν) (content : Option ν) (rows : List α) : Option ν :=
  rows.foldl (fun content row => some (content.elim (initial row) fun held => add held row)) content

variable {initial : α → ν} {add : ν → α → ν}

theorem get?_foldl_accumulate (rows : List α) (groups : InsertionMap κ ν) :
    (rows.foldl (accumulate keyOf initial add) groups).get? key =
      gather initial add (groups.get? key) (rows.filter fun row => keyOf row = key) := by
  induction rows generalizing groups with
  | nil => rfl
  | cons row rest ih =>
    rw [List.foldl_cons, ih]
    by_cases same : keyOf row = key
    · subst same
      rw [List.filter_cons_of_pos (by simp)]
      cases held : groups.get? (keyOf row) <;> simp [accumulate, held, gather]
    · have untouched : (accumulate keyOf initial add groups row).get? key = groups.get? key := by
        unfold accumulate
        split <;> exact get?_set_ne (Ne.symm same)
      rw [untouched, List.filter_cons_of_neg (by simpa using same)]

/-- The entry of a key is made from the rows of that key alone. -/
theorem get?_groupBy (rows : List α) :
    (groupBy keyOf initial add rows).get? key =
      gather initial add none (rows.filter fun row => keyOf row = key) :=
  get?_foldl_accumulate rows empty

theorem gather_some (content : ν) (rows : List α) :
    gather initial add (some content) rows = some (rows.foldl add content) := by
  induction rows generalizing content with
  | nil => rfl
  | cons row rest ih => exact ih (add content row)

@[simp] theorem gather_nil (content : Option ν) : gather initial add content ([] : List α) = content := rfl

theorem gather_none_cons (row : α) (rest : List α) :
    gather initial add none (row :: rest) = some (rest.foldl add (initial row)) :=
  gather_some (initial row) rest

/-- A key has an entry exactly when some row has that key. -/
theorem mem_keys_groupBy (rows : List α) :
    key ∈ (groupBy keyOf initial add rows).keys ↔ ∃ row ∈ rows, keyOf row = key := by
  rw [← has_iff, has, get?_groupBy]
  cases matching : rows.filter fun row => keyOf row = key with
  | nil =>
    simp only [gather_nil, Option.isSome_none, Bool.false_eq_true, false_iff]
    rintro ⟨row, member, same⟩
    have : row ∈ rows.filter fun row => keyOf row = key := by simp [member, same]
    simp [matching] at this
  | cons row rest =>
    have member : row ∈ rows.filter fun row => keyOf row = key := by simp [matching]
    simp only [gather_none_cons, Option.isSome_some, true_iff]
    exact ⟨row, by simpa using member⟩

/-- Content that shows its key shows it from the first row on. -/
theorem groupBy_labelled (label : ν → κ) (starts : ∀ row, label (initial row) = keyOf row)
    (keeps : ∀ content row, label (add content row) = label content) {rows : List α}
    (found : (groupBy keyOf initial add rows).get? key = some value) : label value = key := by
  rw [get?_groupBy] at found
  cases matching : rows.filter fun row => keyOf row = key with
  | nil =>
    rw [matching] at found
    cases found
  | cons row rest =>
    rw [matching, gather_none_cons] at found
    cases found
    have member : row ∈ rows.filter fun row => keyOf row = key := by simp [matching]
    have kept : ∀ content, label (rest.foldl add content) = label content := by
      intro content
      clear matching member
      induction rest generalizing content with
      | nil => rfl
      | cons next rest ih => rw [List.foldl_cons, ih, keeps]
    rw [kept, starts]
    exact (by simpa using member : row ∈ rows ∧ keyOf row = key).2

/-- When content shows its key, asking the values for a key is a lookup. -/
theorem values_filter (label : ν → κ) (labelled : ∀ key value, map.get? key = some value → label value = key)
    (key : κ) : (map.values.filter fun value => label value = key) = (map.get? key).toList := by
  obtain ⟨entries, nodup⟩ := map
  have shown : ∀ entry ∈ entries, label entry.2 = entry.1 :=
    fun entry member => labelled entry.1 entry.2 (get?_eq_some_iff.mpr member)
  clear labelled
  simp only [values, get?]
  induction entries with
  | nil => rfl
  | cons entry rest ih =>
    obtain ⟨held, content⟩ := entry
    rw [List.map_cons, List.nodup_cons] at nodup
    have later := ih nodup.2 fun entry member => shown entry (List.mem_cons_of_mem _ member)
    have here : label content = held := shown (held, content) List.mem_cons_self
    by_cases same : key = held
    · subst same
      have absent : rest.lookup key = none := by
        rw [List.lookup_eq_none_iff]
        intro entry member
        have : key ≠ entry.1 := by
          rintro rfl
          exact nodup.1 (List.mem_map.mpr ⟨entry, member, rfl⟩)
        simpa using this
      rw [absent] at later
      simp [here, later]
    · rw [lookup_cons_ite, if_neg same, List.map_cons, List.filter_cons_of_neg, later]
      simpa [here] using Ne.symm same

end InsertionMap

end EmissionsPlatform
