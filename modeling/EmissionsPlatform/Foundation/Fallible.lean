import Mathlib.Data.List.Forall2

/-! Computations that may throw: what a successful one tells about its parts. -/
namespace EmissionsPlatform.Fallible
set_option autoImplicit false

variable {ε α β : Type}

theorem bind_eq_ok {first : Except ε α} {next : α → Except ε β} {result : β} :
    (first >>= next) = .ok result ↔ ∃ value, first = .ok value ∧ next value = .ok result := by
  cases first with
  | error failure => exact ⟨nofun, nofun⟩
  | ok value =>
    constructor
    · exact fun same => ⟨value, rfl, same⟩
    · rintro ⟨_, same, done⟩
      cases same
      exact done

/-- In two lists related item by item, every right item has its left one. -/
theorem exists_left {R : α → β → Prop} {lefts : List α} {rights : List β}
    (related : List.Forall₂ R lefts rights) {right : β} (member : right ∈ rights) :
    ∃ left ∈ lefts, R left right := by
  induction related with
  | nil => cases member
  | cons first rest ih =>
    rcases List.mem_cons.mp member with rfl | later
    · exact ⟨_, List.mem_cons_self, first⟩
    · obtain ⟨left, leftMember, holds⟩ := ih later
      exact ⟨left, List.mem_cons_of_mem _ leftMember, holds⟩

/-- And every left item its right one. -/
theorem exists_right {R : α → β → Prop} {lefts : List α} {rights : List β}
    (related : List.Forall₂ R lefts rights) {left : α} (member : left ∈ lefts) :
    ∃ right ∈ rights, R left right :=
  exists_left related.flip member

/-- Related lists pair every element up. -/
theorem exists_zip_left {R : α → β → Prop} {lefts : List α} {rights : List β}
    (related : List.Forall₂ R lefts rights) {right : β} (member : right ∈ rights) :
    ∃ left, (left, right) ∈ lefts.zip rights := by
  induction related with
  | nil => cases member
  | cons first rest ih =>
    rcases List.mem_cons.mp member with rfl | later
    · exact ⟨_, List.mem_cons_self⟩
    · obtain ⟨left, paired⟩ := ih later
      exact ⟨left, List.mem_cons_of_mem _ paired⟩

/-- Labels that agree on related elements are distinct on both sides or on neither. -/
theorem nodup_map_iff {γ δ : Type} {R : α → β → Prop} {lefts : List α} {rights : List β} {left : α → γ} {right : β → δ}
    (related : List.Forall₂ R lefts rights)
    (agree : ∀ a a' b b', R a b → R a' b' → (left a = left a' ↔ right b = right b')) :
    (lefts.map left).Nodup ↔ (rights.map right).Nodup := by
  induction related with
  | nil => simp
  | cons first rest ih =>
    rename_i a b as bs
    rw [List.map_cons, List.map_cons, List.nodup_cons, List.nodup_cons, ih]
    refine and_congr_left fun _ => not_congr ?_
    rw [List.mem_map, List.mem_map]
    constructor
    · rintro ⟨a', member, same⟩
      obtain ⟨b', other, holds⟩ := exists_right rest member
      exact ⟨b', other, (agree _ _ _ _ holds first).mp same⟩
    · rintro ⟨b', member, same⟩
      obtain ⟨a', other, holds⟩ := exists_left rest member
      exact ⟨a', other, (agree _ _ _ _ holds first).mpr same⟩

/-- Item by item, each left item can be given a right one. -/
theorem exists_rights {R : α → β → Prop} {lefts : List α}
    (each : ∀ left ∈ lefts, ∃ right, R left right) : ∃ rights, List.Forall₂ R lefts rights := by
  induction lefts with
  | nil => exact ⟨[], List.Forall₂.nil⟩
  | cons left rest ih =>
    obtain ⟨right, holds⟩ := each left List.mem_cons_self
    obtain ⟨rights, others⟩ := ih fun other member => each other (List.mem_cons_of_mem _ member)
    exact ⟨right :: rights, List.Forall₂.cons holds others⟩

/-- Where every item can be read, none is left out. -/
theorem filterMap_of_forall₂ {read : α → Option β} {lefts : List α} {rights : List β}
    (each : List.Forall₂ (fun left right => read left = some right) lefts rights) : lefts.filterMap read = rights := by
  induction each with
  | nil => rfl
  | cons first rest ih => rw [List.filterMap_cons_some first, ih]

/-- Every item succeeded, in order. -/
theorem mapM_eq_ok {act : α → Except ε β} {items : List α} {results : List β} :
    items.mapM act = .ok results ↔
      List.Forall₂ (fun item result => act item = .ok result) items results := by
  induction items generalizing results with
  | nil =>
    constructor
    · intro same
      cases same
      exact List.Forall₂.nil
    · intro none
      cases none
      rfl
  | cons item rest ih =>
    rw [List.mapM_cons]
    constructor
    · intro done
      obtain ⟨result, first, done⟩ := bind_eq_ok.mp done
      obtain ⟨later, others, done⟩ := bind_eq_ok.mp done
      cases done
      exact List.Forall₂.cons first (ih.mp others)
    · intro each
      cases each with
      | cons first others => simp [first, ih.mpr others, bind, Except.bind, pure, Except.pure]

/-- A loop whose body throws or performs one update: when it ends, it has
performed them all. -/
theorem foldlM_eq_ok {State : Type} {check : α → Except ε Unit} {update : State → α → State}
    {items : List α} {start finish : State} :
    items.foldlM (fun state item => check item >>= fun _ => pure (update state item)) start = .ok finish ↔
      (∀ item ∈ items, check item = .ok ()) ∧ finish = items.foldl update start := by
  induction items generalizing start with
  | nil =>
    constructor
    · intro same
      cases same
      exact ⟨nofun, rfl⟩
    · rintro ⟨_, rfl⟩
      rfl
  | cons item rest ih =>
    rw [List.foldlM_cons, bind_eq_ok, List.foldl_cons, List.forall_mem_cons]
    constructor
    · rintro ⟨middle, first, later⟩
      obtain ⟨_, checked, updated⟩ := bind_eq_ok.mp first
      cases updated
      obtain ⟨others, same⟩ := ih.mp later
      exact ⟨⟨checked, others⟩, same⟩
    · rintro ⟨⟨checked, others⟩, same⟩
      exact ⟨update start item, bind_eq_ok.mpr ⟨(), checked, rfl⟩, ih.mpr ⟨others, same⟩⟩

end EmissionsPlatform.Fallible
