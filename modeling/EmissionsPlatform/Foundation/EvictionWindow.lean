import Mathlib.Data.List.ReduceOption
import Mathlib.Data.List.Nodup

/-! Sets of bounded size that make room in batches: a new key goes to the end,
and a full set first drops a batch of its oldest keys. `Window` says what is
known of the keys held from the keys ever inserted. The held ones are the last
inserted (`suffix`), a key among the last `capacity + 1 - batch` insertions is
one of them (`recent`), so one that was inserted twice was so far apart
(`spaced`).

`deleteOldest` is the loop that drops a batch from a map it is iterating over. -/
namespace EmissionsPlatform.EvictionWindow
set_option autoImplicit false

variable {α : Type*} [DecidableEq α]

/-! ## Inserting -/

/-- Whether the key is new, and the set with it. A held key keeps its place. -/
def insert (capacity batch : Nat) (held : List α) (key : α) : List α × Bool :=
  if key ∈ held then (held, false)
  else (held.drop (if capacity ≤ held.length then batch else 0) ++ [key], true)

/-- What is known of a set from the keys inserted into it, oldest first. -/
structure Window (capacity batch : Nat) (inserted held : List α) : Prop where
  suffix : held <:+ inserted
  nodup : held.Nodup
  bounded : held.length ≤ capacity
  recent : min inserted.length (capacity + 1 - batch) ≤ held.length
  spaced : ∀ earlier key between later,
    inserted = earlier ++ key :: (between ++ key :: later) → capacity - batch < between.length

variable {capacity batch : Nat} {inserted held earlier later : List α} {key : α}

theorem insert_of_mem (member : key ∈ held) : insert capacity batch held key = (held, false) := if_pos member

theorem insert_of_not_mem (fresh : key ∉ held) :
    insert capacity batch held key =
      (held.drop (if capacity ≤ held.length then batch else 0) ++ [key], true) := if_neg fresh

omit [DecidableEq α] in
theorem window_nil : Window capacity batch ([] : List α) [] := by
  refine ⟨List.suffix_rfl, List.nodup_nil, Nat.zero_le _, ?_, ?_⟩
  · simp
  · intro earlier key between later shape
    simp at shape

omit [DecidableEq α] in
/-- A key is held until more than `capacity - batch` others came after it. -/
theorem Window.mem_of_few (window : Window capacity batch (earlier ++ key :: later) held)
    (positive : batch ≤ capacity) (few : later.length ≤ capacity - batch) : key ∈ held := by
  have recent := window.recent
  rw [List.length_append, List.length_cons] at recent
  have shorter : (key :: later).length ≤ held.length := by
    rw [List.length_cons]
    omega
  have covered : key :: later <:+ held :=
    List.suffix_of_suffix_length_le (List.suffix_append _ _) window.suffix shorter
  exact covered.subset List.mem_cons_self

omit [DecidableEq α] in
/-- The keys a full set drops are the earliest inserted of those it holds. -/
theorem Window.oldest (window : Window capacity batch inserted held) (count : Nat) :
    ∃ gone, inserted = gone ++ held.take count ++ held.drop count := by
  obtain ⟨gone, shape⟩ := window.suffix
  exact ⟨gone, by rw [List.append_assoc, List.take_append_drop, shape]⟩

omit [DecidableEq α] in
/-- A new key that was inserted before was so far back that it is not held. -/
theorem Window.spaced_concat (window : Window capacity batch inserted held) (positive : batch ≤ capacity)
    (fresh : key ∉ held) {again : α} {between : List α}
    (shape : inserted ++ [key] = earlier ++ again :: (between ++ again :: later)) :
    capacity - batch < between.length := by
  rcases List.eq_nil_or_concat later with rfl | ⟨before, last, rfl⟩
  · -- The second insertion is this one.
    have parts : inserted ++ [key] = (earlier ++ again :: between) ++ [again] := by simp [shape]
    obtain ⟨same, new⟩ := List.append_inj' parts rfl
    cases new
    rw [same] at window
    apply Nat.lt_of_not_le
    intro few
    exact fresh (window.mem_of_few positive few)
  · have parts : inserted ++ [key] = (earlier ++ again :: (between ++ again :: before)) ++ [last] := by
      simp [shape]
    exact window.spaced _ _ _ _ (List.append_inj' parts rfl).1

/-- Inserting a new key keeps the window. -/
theorem Window.insert (window : Window capacity batch inserted held) (positive : 1 ≤ batch ∧ batch ≤ capacity)
    (fresh : key ∉ held) :
    Window capacity batch (inserted ++ [key]) (insert capacity batch held key).1 := by
  have bounded := window.bounded
  have recent := window.recent
  rw [insert_of_not_mem fresh]
  refine ⟨?_, ?_, ?_, ?_, fun _ _ _ _ => window.spaced_concat positive.2 fresh⟩
  · exact List.suffix_append_self_iff.mpr ((List.drop_suffix _ _).trans window.suffix)
  · apply List.nodup_append.mpr
    refine ⟨window.nodup.sublist (List.drop_sublist _ _), List.nodup_singleton _, ?_⟩
    rintro old member new last rfl
    exact fresh (List.mem_singleton.mp last ▸ List.mem_of_mem_drop member)
  · rw [List.length_append, List.length_drop, List.length_singleton]
    split <;> omega
  · rw [List.length_append, List.length_append, List.length_drop, List.length_singleton]
    split <;> omega

/-! ## Deleting while iterating -/

/-- `map.delete(key)`: the entry stays behind as a hole. -/
def delete (entries : List (Option α)) (key : α) : List (Option α) :=
  entries.map fun entry => if entry = some key then none else entry

theorem length_delete (entries : List (Option α)) (key : α) : (delete entries key).length = entries.length :=
  List.length_map _

/-- Go over the entries from a position, deleting each key met until so many
are deleted. The iterator passes over holes, and over no entry twice. -/
def deleteOldest (limit : Nat) (entries : List (Option α)) (position deleted : Nat) : List (Option α) :=
  if inside : position < entries.length then
    match entries[position] with
    | none => deleteOldest limit entries (position + 1) deleted
    | some key =>
      if limit ≤ deleted + 1 then delete entries key
      else deleteOldest limit (delete entries key) (position + 1) (deleted + 1)
  else entries
termination_by entries.length - position
decreasing_by
  · omega
  · rw [length_delete]
    omega

variable {limit position deleted : Nat} {entries before after : List (Option α)}

theorem delete_eq_self (absent : key ∉ entries.reduceOption) : delete entries key = entries := by
  refine (List.map_congr_left ?_).trans (List.map_id entries)
  intro entry member
  apply if_neg
  rintro rfl
  exact absent (List.reduceOption_mem_iff.mpr member)

/-- Deleting the first key that is left leaves a hole in its place. -/
theorem delete_met (passed : before.reduceOption = [])
    (nodup : (before ++ some key :: after).reduceOption.Nodup) :
    delete (before ++ some key :: after) key = before ++ none :: after := by
  rw [List.reduceOption_append, passed, List.nil_append, List.reduceOption_cons_of_some, List.nodup_cons] at nodup
  have ahead : delete after key = after := delete_eq_self nodup.1
  have behind : delete before key = before := delete_eq_self (by rw [passed]; exact List.not_mem_nil)
  rw [delete, List.map_append, List.map_cons, if_pos rfl]
  exact congrArg₂ (fun first last => first ++ none :: last) behind ahead

/-- The key at a position with holes only before it is the oldest one left. -/
theorem delete_oldest (passed : (entries.take position).reduceOption = []) (nodup : entries.reduceOption.Nodup)
    (inside : position < entries.length) (met : entries[position] = some key) :
    entries.reduceOption = key :: (delete entries key).reduceOption ∧
      ((delete entries key).take (position + 1)).reduceOption = [] := by
  have split : entries = entries.take position ++ some key :: entries.drop (position + 1) := by
    rw [← met, List.getElem_cons_drop, List.take_append_drop]
  have length : (entries.take position).length = position := List.length_take_of_le (Nat.le_of_lt inside)
  generalize entries.take position = before at passed split length
  generalize entries.drop (position + 1) = after at split
  subst split
  rw [delete_met passed nodup]
  constructor
  · simp [List.reduceOption_append, passed]
  · rw [List.take_append, List.take_of_length_le (by omega), List.reduceOption_append, passed, ← length,
      Nat.add_sub_cancel_left]
    rfl

/-- **The loop deletes the oldest keys**, as many as it is told to and at least
one: what is left is what dropping them from the front leaves. -/
theorem deleteOldest_keys (passed : (entries.take position).reduceOption = []) (nodup : entries.reduceOption.Nodup) :
    (deleteOldest limit entries position deleted).reduceOption =
      entries.reduceOption.drop (max 1 (limit - deleted)) := by
  fun_induction deleteOldest limit entries position deleted with
  | case1 entries position deleted inside hole ih =>
    apply ih
    · rw [List.take_succ_eq_append_getElem inside, hole, List.reduceOption_append, passed]
      rfl
    · exact nodup
  | case2 entries position deleted inside key met last =>
    obtain ⟨oldest, -⟩ := delete_oldest passed nodup inside met
    have one : max 1 (limit - deleted) = 1 := by omega
    rw [oldest, one, List.drop_succ_cons, List.drop_zero]
  | case3 entries position deleted inside key met more ih =>
    obtain ⟨oldest, behind⟩ := delete_oldest passed nodup inside met
    have one : max 1 (limit - deleted) = max 1 (limit - (deleted + 1)) + 1 := by omega
    rw [oldest, List.nodup_cons] at nodup
    rw [oldest, one, List.drop_succ_cons]
    exact ih behind nodup.2
  | case4 entries position deleted outside =>
    rw [List.take_of_length_le (Nat.le_of_not_lt outside)] at passed
    rw [passed, List.drop_nil]

end EmissionsPlatform.EvictionWindow
