import EmissionsPlatform.Foundation.Validation

/-! Writing the values that schemas read. `JSON.stringify` leaves out the fields
of an object that are undefined, which is how an optional field is written, and
keeps those that are null, which is how a nullable one is. Reading an object
back finds at each name what was written there, so a round trip of an object is
one of each of its fields. -/
namespace EmissionsPlatform.JsonWriting
open Validation
set_option autoImplicit false

/-- The fields that are not undefined. -/
def definedFields (fields : List (String × Option Json)) : List (String × Json) :=
  fields.filterMap fun field => field.2.map fun value => (field.1, value)

/-- `JSON.stringify` of an object. -/
def stringify (fields : List (String × Option Json)) : Json := .object (definedFields fields)

variable {α β : Type}

/-- A value that may be null. -/
def orNull (write : α → Json) (value : Option α) : Json := (value.map write).getD .null

/-- `.nullable()`: null is read as no value, anything else as before. -/
def nullable (schema : Schema α) : Schema (Option α)
  | some .null => .ok none
  | value => (schema value).map some

/-- The schema reads the value back from what is written of it. -/
def ReadsBack (schema : Schema α) (write : α → Json) (value : α) : Prop := schema (some (write value)) = .ok value

/-! ## Objects -/

variable {fields : List (String × Option Json)} {name : String}

theorem lookup_definedFields (distinct : (fields.map Prod.fst).Nodup) :
    (definedFields fields).lookup name = (fields.lookup name).join := by
  induction fields with
  | nil => rfl
  | cons field rest ih =>
    obtain ⟨own, value⟩ := field
    obtain ⟨fresh, others⟩ := List.nodup_cons.mp distinct
    by_cases same : name = own
    · subst same
      rw [List.lookup_cons_self, Option.join_some]
      cases value with
      | none =>
        have missing : rest.lookup name = none := by
          refine List.lookup_eq_none_iff.mpr fun other member => bne_iff_ne.mpr ?_
          rintro rfl
          exact fresh (List.mem_map.mpr ⟨other, member, rfl⟩)
        change (definedFields rest).lookup name = none
        rw [ih others, missing]
        rfl
      | some value => exact List.lookup_cons_self
    · have passed : (name == own) = false := beq_eq_false_iff_ne.mpr same
      rw [List.lookup_cons, passed]
      cases value with
      | none => exact ih others
      | some value =>
        change ((own, value) :: definedFields rest).lookup name = _
        rw [List.lookup_cons, passed]
        exact ih others

/-- An object is read by its fields, where those that were undefined are missing. -/
theorem object_stringify (distinct : (fields.map Prod.fst).Nodup)
    (shape : (String → Option Json) → Except (List String) α) :
    object shape (some (stringify fields)) = shape fun name => (fields.lookup name).join := by
  rw [stringify, object]
  congr
  funext name
  exact lookup_definedFields distinct

/-! ## Fields -/

variable {schema : Schema α} {write : α → Json} {value : α}

theorem readsBack_string {checks : List (Check String)} {text : String}
    (accepted : ∀ check ∈ checks, check.accepts text = true) : ReadsBack (string checks) .string text :=
  string_eq_ok.mpr ⟨rfl, accepted⟩

theorem readsBack_nativeEnum {values : List String} {text : String} (listed : text ∈ values) :
    ReadsBack (nativeEnum values) .string text :=
  nativeEnum_eq_ok.mpr ⟨rfl, listed⟩

/-- An optional field is read back, also where it was left out. -/
theorem optional_readsBack {value : Option α} (reads : ∀ present ∈ value, ReadsBack schema write present) :
    optional schema (value.map write) = .ok value := by
  cases value with
  | none => rfl
  | some value => exact map_eq_ok.mpr ⟨value, reads value rfl, rfl⟩

/-- A nullable field is read back where nothing but null is written as null. -/
theorem nullable_readsBack {value : Option α} (reads : ∀ present ∈ value, ReadsBack schema write present)
    (written : ∀ present ∈ value, write present ≠ .null) : ReadsBack (nullable schema) (orNull write) value := by
  cases value with
  | none => rfl
  | some value =>
    have other : nullable schema (some (write value)) = (schema (some (write value))).map some := by
      unfold nullable
      split
      · rename_i null
        exact absurd (Option.some.inj null) (written value rfl)
      · rfl
    exact other.trans (map_eq_ok.mpr ⟨value, reads value rfl, rfl⟩)

theorem array_readsBack {sizes : List (Check Nat)} {values : List α}
    (sized : ∀ check ∈ sizes, check.accepts values.length = true)
    (reads : ∀ value ∈ values, ReadsBack schema write value) :
    ReadsBack (array sizes schema) (fun values => .array (values.map write)) values := by
  refine array_eq_ok.mpr ⟨_, rfl, ?_, ?_⟩
  · rwa [List.length_map]
  · rw [List.forall₂_map_left_iff, List.forall₂_same]
    exact reads

end EmissionsPlatform.JsonWriting
