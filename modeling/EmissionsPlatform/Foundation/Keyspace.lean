import EmissionsPlatform.Foundation.InsertionMap
import EmissionsPlatform.Foundation.DecimalText

/-! A key-value server in the manner of Redis: one keyspace of strings and
hashes, and the commands of the scripts run against it. The numbers of a hash
are exact and counted in millionths. -/
namespace EmissionsPlatform
set_option autoImplicit false

/-- What a key holds. -/
inductive Entry
  | string (text : String)
  | hash (fields : InsertionMap String Nat)
  deriving DecidableEq

abbrev Keyspace := InsertionMap String Entry

namespace Keyspace

/-- `SETNX`: the reply is 1 if the key was set and 0 if it was there. -/
def setnx (keyspace : Keyspace) (key value : String) : Keyspace × Nat :=
  if keyspace.has key then (keyspace, 0) else (keyspace.set key (.string value), 1)

/-- `HINCRBYFLOAT`: an error when the increment is no number or the key holds
no hash. -/
def hincrbyfloat (keyspace : Keyspace) (key field increment : String) : Option Keyspace :=
  (DecimalText.millionths increment).bind fun delta =>
    match keyspace.get? key with
    | none => some (keyspace.set key (.hash (InsertionMap.empty.set field delta)))
    | some (.hash fields) =>
      some (keyspace.set key (.hash (fields.set field ((fields.get? field).getD 0 + delta))))
    | some (.string _) => none

/-- The number in a field of a hash. -/
def field? (keyspace : Keyspace) (key field : String) : Option Nat :=
  match keyspace.get? key with
  | some (.hash fields) => fields.get? field
  | _ => none

variable {keyspace after : Keyspace} {key other field asked value increment : String} {reply : Nat}

/-- A key's field, by what the key holds. -/
theorem field?_congr (same : after.get? key = keyspace.get? key) :
    after.field? key field = keyspace.field? key field := by
  simp only [field?, same]

theorem field?_set_ne {entry : Entry} (different : other ≠ key) :
    field? (keyspace.set key entry) other asked = keyspace.field? other asked :=
  field?_congr (InsertionMap.get?_set_ne different)

theorem setnx_eq (stepped : keyspace.setnx key value = (after, reply)) :
    keyspace.has key = true ∧ after = keyspace ∧ reply = 0 ∨
      keyspace.has key = false ∧ after = keyspace.set key (.string value) ∧ reply = 1 := by
  unfold setnx at stepped
  split at stepped
  · rename_i held
    cases stepped
    exact Or.inl ⟨held, rfl, rfl⟩
  · rename_i absent
    cases stepped
    exact Or.inr ⟨by simpa using absent, rfl, rfl⟩

/-- An increment writes one field of one hash. -/
theorem hincrbyfloat_eq_some (stepped : keyspace.hincrbyfloat key field increment = some after) :
    ∃ delta fields, DecimalText.millionths increment = some delta ∧
      after = keyspace.set key (.hash fields) ∧
        (∀ asked, fields.get? asked =
          if asked = field then some ((keyspace.field? key field).getD 0 + delta)
          else keyspace.field? key asked) := by
  unfold hincrbyfloat at stepped
  obtain ⟨delta, reads, stepped⟩ := Option.bind_eq_some_iff.mp stepped
  refine ⟨delta, ?_⟩
  split at stepped
  · rename_i absent
    cases stepped
    refine ⟨_, reads, rfl, fun asked => ?_⟩
    simp [field?, absent, InsertionMap.get?_set]
  · rename_i fields held
    cases stepped
    refine ⟨_, reads, rfl, fun asked => ?_⟩
    simp [field?, held, InsertionMap.get?_set]
  · cases stepped

/-- The field that was incremented grows by the increment, and no other changes. -/
theorem field?_hincrbyfloat (other asked : String) {delta : Nat}
    (reads : DecimalText.millionths increment = some delta)
    (stepped : keyspace.hincrbyfloat key field increment = some after) :
    (after.field? other asked).getD 0 =
      (keyspace.field? other asked).getD 0 + if other = key ∧ asked = field then delta else 0 := by
  obtain ⟨delta', fields, reads', rfl, fieldOf⟩ := hincrbyfloat_eq_some stepped
  cases reads.symm.trans reads'
  by_cases sameKey : other = key
  · subst sameKey
    have held : field? (keyspace.set other (.hash fields)) other asked = fields.get? asked := by
      simp [field?]
    rw [held, fieldOf]
    by_cases sameField : asked = field <;> simp [sameField]
  · simp [field?_set_ne sameKey, sameKey]

end Keyspace

end EmissionsPlatform
