import Mathlib.Algebra.Order.Field.Rat
import Mathlib.Data.List.Basic
import Mathlib.Data.List.Forall2

/-! JSON values and the schemas that validate them. A schema reads a value, or
its absence, and returns either a typed result or the messages of every check
that failed: the checks of one text or number, the fields of one object and
the items of one array are all reported, not only the first. Keys a schema
does not name are dropped. -/
namespace EmissionsPlatform
set_option autoImplicit false

/-- A number of a JSON document: a double, by its exact value. -/
inductive JsNumber
  | integer (value : Int)
  | fraction (value : ℚ) (proper : value.den ≠ 1)
  /-- A literal beyond the range of doubles. -/
  | infinite (negative : Bool)
  deriving DecidableEq

namespace JsNumber

def isInteger : JsNumber → Bool
  | integer _ => true
  | _ => false

def isPositive : JsNumber → Bool
  | integer value => 0 < value
  | fraction value _ => 0 < value
  | infinite negative => !negative

def isNonnegative : JsNumber → Bool
  | integer value => 0 ≤ value
  | fraction value _ => 0 ≤ value
  | infinite negative => !negative

def isBelow (bound : Int) : JsNumber → Bool
  | integer value => value < bound
  | fraction value _ => value < bound
  | infinite negative => negative

def isAtLeast (bound : Int) : JsNumber → Bool
  | integer value => bound ≤ value
  | fraction value _ => bound ≤ value
  | infinite negative => !negative

def isAtMost (bound : Int) : JsNumber → Bool
  | integer value => value ≤ bound
  | fraction value _ => value ≤ bound
  | infinite negative => negative

end JsNumber

/-- A parsed JSON document. -/
inductive Json
  | null
  | bool (value : Bool)
  | number (value : JsNumber)
  | string (value : String)
  | array (items : List Json)
  | object (fields : List (String × Json))

namespace Validation

/-- How messages name the type of a value. -/
def typeName : Json → String
  | .null => "null"
  | .bool _ => "boolean"
  | .number _ => "number"
  | .string _ => "string"
  | .array _ => "array"
  | .object _ => "object"

/-- A schema, applied to a value or to the `none` of a missing field. -/
abbrev Schema (α : Type) := Option Json → Except (List String) α

/-- The message for a value of another type than the schema's. -/
def invalidType (expected : String) : Option Json → List String
  | none => ["Required"]
  | some value => ["Expected " ++ expected ++ ", received " ++ typeName value]

/-- One check of a text or a number, with the message of its failure. -/
structure Check (α : Type) where
  accepts : α → Bool
  message : String

/-- Every check must accept; all failures are reported. -/
def refine {α : Type} (checks : List (Check α)) (value : α) : Except (List String) α :=
  match (checks.filter fun check => !check.accepts value).map Check.message with
  | [] => .ok value
  | messages => .error messages

/-- `z.string()` with its checks. -/
def string (checks : List (Check String)) : Schema String
  | some (.string text) => refine checks text
  | other => .error (invalidType "string" other)

/-- `z.number().int()` with the checks that follow. -/
def integer (checks : List (Check JsNumber)) : Schema Int
  | some (.number number) =>
    match refine (⟨JsNumber.isInteger, "Expected integer, received float"⟩ :: checks) number with
    | .ok (.integer value) => .ok value
    | .ok _ => .error []
    | .error messages => .error messages
  | other => .error (invalidType "number" other)

/-- `z.number()` with its checks. -/
def number (checks : List (Check JsNumber)) : Schema JsNumber
  | some (.number value) => refine checks value
  | other => .error (invalidType "number" other)

/-- `.optional()`: the value may be missing, but not null. -/
def optional {α : Type} (schema : Schema α) : Schema (Option α)
  | none => .ok none
  | some value => (schema (some value)).map some

/-- `z.unknown().optional()`. -/
def unknown : Schema (Option Json) := .ok

/-- `z.literal(true)` or `z.literal(false)`. -/
def literalBool (expected : Bool) : Schema Bool
  | some (.bool value) =>
    if value = expected then .ok value
    else .error ["Invalid literal value, expected " ++ toString expected]
  | _ => .error ["Invalid literal value, expected " ++ toString expected]

/-- The values of an enumeration, as messages list them. -/
def joinValues (values : List String) : String :=
  String.intercalate " | " (values.map fun value => "'" ++ value ++ "'")

/-- `z.nativeEnum` of texts. -/
def nativeEnum (values : List String) : Schema String
  | some (.string text) =>
    if text ∈ values then .ok text
    else .error ["Invalid enum value. Expected " ++ joinValues values ++ ", received '" ++ text ++ "'"]
  -- The message ends with the notation of the number.
  | some (.number _) => .error ["Invalid enum value. Expected " ++ joinValues values]
  | other => .error (invalidType (joinValues values) other)

/-- `z.enum`, of values with a text each. -/
def enumeration {α : Type} (values : List α) (text : α → String) : Schema α
  | some (.string given) =>
    match values.find? fun value => decide (text value = given) with
    | some value => .ok value
    | none => .error ["Invalid enum value. Expected " ++ joinValues (values.map text) ++ ", received '" ++ given ++ "'"]
  | other => .error (invalidType (joinValues (values.map text)) other)

/-- `z.literal(expected)`. -/
def literal (expected : String) : Schema String
  | some (.string text) =>
    if text = expected then .ok text
    else .error ["Invalid literal value, expected \"" ++ expected ++ "\""]
  | _ => .error ["Invalid literal value, expected \"" ++ expected ++ "\""]

/-- Two fields of an object: both are checked, and the failures of both reported. -/
def both {α β : Type} (first : Except (List String) α) (second : Except (List String) β) :
    Except (List String) (α × β) :=
  match first, second with
  | .ok a, .ok b => .ok (a, b)
  | .ok _, .error messages => .error messages
  | .error messages, .ok _ => .error messages
  | .error messages, .error more => .error (messages ++ more)

/-- `z.object`: the fields are looked up by name. -/
def object {α : Type} (shape : (String → Option Json) → Except (List String) α) : Schema α
  | some (.object fields) => shape fun name => fields.lookup name
  | other => .error (invalidType "object" other)

/-- `z.record(z.unknown())`: any object, with all its fields. -/
def record : Schema (List (String × Json))
  | some (.object fields) => .ok fields
  | other => .error (invalidType "object" other)

/-- All items are checked, in order. -/
def items {α : Type} (item : Schema α) : List Json → Except (List String) (List α)
  | [] => .ok []
  | head :: rest => (both (item (some head)) (items item rest)).map fun pair => pair.1 :: pair.2

/-- `z.array(item)` with its size checks. -/
def array {α : Type} (sizes : List (Check Nat)) (item : Schema α) : Schema (List α)
  | some (.array values) => (both (refine sizes values.length) (items item values)).map Prod.snd
  | other => .error (invalidType "array" other)

variable {α β : Type}

theorem refine_eq_ok {checks : List (Check α)} {value result : α} :
    refine checks value = .ok result ↔
      result = value ∧ ∀ check ∈ checks, check.accepts value = true := by
  unfold refine
  split
  · rename_i passed
    rw [List.map_eq_nil_iff, List.filter_eq_nil_iff] at passed
    simp only [Except.ok.injEq, eq_comm (a := value)]
    exact ⟨fun same => ⟨same, fun check member => by simpa using passed check member⟩, And.left⟩
  · rename_i failed
    refine ⟨nofun, fun accepted => absurd ?_ failed⟩
    rw [List.map_eq_nil_iff, List.filter_eq_nil_iff]
    exact fun check member => by simp [accepted.2 check member]

theorem string_eq_ok {checks : List (Check String)} {value : Option Json} {text : String} :
    string checks value = .ok text ↔
      value = some (.string text) ∧ ∀ check ∈ checks, check.accepts text = true := by
  unfold string
  split
  · rename_i given
    rw [refine_eq_ok, Option.some.injEq, Json.string.injEq]
    exact ⟨fun ⟨same, accepted⟩ => ⟨same.symm, same ▸ accepted⟩,
      fun ⟨same, accepted⟩ => ⟨same.symm, same ▸ accepted⟩⟩
  · rename_i other
    exact ⟨nofun, fun ⟨given, _⟩ => absurd given (other text)⟩

theorem integer_eq_ok {checks : List (Check JsNumber)} {value : Option Json} {result : Int} :
    integer checks value = .ok result ↔
      value = some (.number (.integer result)) ∧
        ∀ check ∈ checks, check.accepts (.integer result) = true := by
  unfold integer
  split
  · rename_i number
    split
    · rename_i whole passed
      obtain ⟨rfl, accepted⟩ := refine_eq_ok.mp passed
      have later : ∀ check ∈ checks, check.accepts (.integer whole) = true :=
        fun check member => accepted check (List.mem_cons_of_mem _ member)
      simp only [Except.ok.injEq, Option.some.injEq, Json.number.injEq, JsNumber.integer.injEq]
      exact ⟨fun same => ⟨same, same ▸ later⟩, And.left⟩
    · rename_i other notWhole passed
      obtain ⟨rfl, accepted⟩ := refine_eq_ok.mp passed
      have whole := accepted _ List.mem_cons_self
      cases other with
      | integer value => exact absurd rfl (notWhole value)
      | fraction floor => cases whole
      | infinite negative => cases whole
    · rename_i messages failed
      refine ⟨nofun, fun ⟨given, accepted⟩ => ?_⟩
      cases given
      have passed : refine (⟨JsNumber.isInteger, "Expected integer, received float"⟩ :: checks)
          (.integer result) = .ok (.integer result) :=
        refine_eq_ok.mpr ⟨rfl, List.forall_mem_cons.mpr ⟨rfl, accepted⟩⟩
      rw [failed] at passed
      cases passed
  · rename_i other
    exact ⟨nofun, fun ⟨given, _⟩ => absurd given (other _)⟩

theorem literal_eq_ok {expected text : String} {value : Option Json} :
    literal expected value = .ok text ↔ value = some (.string expected) ∧ text = expected := by
  unfold literal
  split
  · rename_i given
    split
    · rename_i same
      simp [same, eq_comm]
    · rename_i different
      simp [different]
  · rename_i other
    exact ⟨nofun, fun ⟨given, _⟩ => absurd given (other _)⟩

theorem nativeEnum_eq_ok {values : List String} {value : Option Json} {text : String} :
    nativeEnum values value = .ok text ↔ value = some (.string text) ∧ text ∈ values := by
  unfold nativeEnum
  split
  · rename_i given
    split
    · rename_i member
      simp only [Except.ok.injEq, Option.some.injEq, Json.string.injEq]
      exact ⟨fun same => ⟨same, same ▸ member⟩, And.left⟩
    · rename_i absent
      refine ⟨nofun, fun ⟨same, member⟩ => absurd ?_ absent⟩
      cases same
      exact member
  · exact ⟨nofun, fun ⟨given, _⟩ => by cases given⟩
  · rename_i other _
    exact ⟨nofun, fun ⟨given, _⟩ => absurd given (other text)⟩

theorem map_eq_ok {checked : Except (List String) α} {build : α → β} {result : β} :
    checked.map build = .ok result ↔ ∃ value, checked = .ok value ∧ build value = result := by
  cases checked <;> simp [Except.map]

theorem both_eq_ok {first : Except (List String) α} {second : Except (List String) β} {pair : α × β} :
    both first second = .ok pair ↔ first = .ok pair.1 ∧ second = .ok pair.2 := by
  obtain ⟨a, b⟩ := pair
  cases first <;> cases second <;> simp [both]

/-- The value an enumeration reads has the text it was given. -/
theorem enumeration_of_text {values : List α} {text : α → String} {given : String}
    (listed : given ∈ values.map text) :
    ∃ value, enumeration values text (some (.string given)) = .ok value ∧ text value = given := by
  obtain ⟨value, member, same⟩ := List.mem_map.mp listed
  cases found : values.find? fun value => decide (text value = given) with
  | none =>
    rw [List.find?_eq_none] at found
    exact absurd same (by simpa using found value member)
  | some first =>
    refine ⟨first, by simp only [enumeration, found], ?_⟩
    simpa using List.find?_some found

/-! ### Whether a value is accepted -/

theorem map_accepts {checked : Except (List String) α} {build : α → β} :
    (∃ result, checked.map build = .ok result) ↔ ∃ value, checked = .ok value := by
  cases checked <;> simp [Except.map]

theorem both_accepts {first : Except (List String) α} {second : Except (List String) β} :
    (∃ pair, both first second = .ok pair) ↔ (∃ a, first = .ok a) ∧ ∃ b, second = .ok b := by
  simp only [both_eq_ok, Prod.exists, exists_and_left, exists_and_right]

theorem string_accepts {checks : List (Check String)} {text : String} :
    (∃ result, string checks (some (.string text)) = .ok result) ↔
      ∀ check ∈ checks, check.accepts text = true := by
  simp only [string_eq_ok, Option.some.injEq, Json.string.injEq, exists_eq_left']

theorem nativeEnum_accepts {values : List String} {text : String} :
    (∃ result, nativeEnum values (some (.string text)) = .ok result) ↔ text ∈ values := by
  simp only [nativeEnum_eq_ok, Option.some.injEq, Json.string.injEq, exists_eq_left']

theorem items_eq_ok {item : Schema α} {values : List Json} {results : List α} :
    items item values = .ok results ↔
      List.Forall₂ (fun value result => item (some value) = .ok result) values results := by
  induction values generalizing results with
  | nil => cases results <;> simp [items]
  | cons head rest ih =>
    rw [items]
    cases checked : both (item (some head)) (items item rest) with
    | error messages =>
      refine ⟨nofun, fun related => ?_⟩
      cases related with
      | cons first later =>
        have passed : both (item (some head)) (items item rest) = .ok (_, _) :=
          both_eq_ok.mpr ⟨first, ih.mpr later⟩
        rw [checked] at passed
        cases passed
    | ok pair =>
      obtain ⟨first, later⟩ := both_eq_ok.mp checked
      simp only [Except.map, Except.ok.injEq]
      constructor
      · rintro rfl
        exact .cons first (ih.mp later)
      · intro related
        cases related with
        | cons first' later' =>
          rw [first] at first'
          cases first'
          rw [ih.mpr later'] at later
          cases later
          rfl

theorem array_eq_ok {sizes : List (Check Nat)} {item : Schema α} {value : Option Json}
    {results : List α} :
    array sizes item value = .ok results ↔
      ∃ values, value = some (.array values) ∧
        (∀ check ∈ sizes, check.accepts values.length = true) ∧
        List.Forall₂ (fun value result => item (some value) = .ok result) values results := by
  unfold array
  split
  · rename_i values
    cases checked : both (refine sizes values.length) (items item values) with
    | error messages =>
      refine ⟨nofun, ?_⟩
      rintro ⟨_, given, sized, related⟩
      cases given
      have passed : both (refine sizes values.length) (items item values) = .ok (_, _) :=
        both_eq_ok.mpr ⟨refine_eq_ok.mpr ⟨rfl, sized⟩, items_eq_ok.mpr related⟩
      rw [checked] at passed
      cases passed
    | ok pair =>
      obtain ⟨sized, related⟩ := both_eq_ok.mp checked
      simp only [Except.map, Except.ok.injEq]
      constructor
      · rintro rfl
        exact ⟨values, rfl, (refine_eq_ok.mp sized).2, items_eq_ok.mp related⟩
      · rintro ⟨_, given, _, related'⟩
        cases given
        rw [items_eq_ok.mpr related'] at related
        cases related
        rfl
  · rename_i other
    refine ⟨nofun, ?_⟩
    rintro ⟨values, given, _⟩
    exact absurd given (other values)

end Validation

end EmissionsPlatform
