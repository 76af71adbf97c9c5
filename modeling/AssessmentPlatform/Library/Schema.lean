import Mathlib.Logic.Function.Basic
import Mathlib.Tactic.Common

/-!
# Tables under a changing schema

The steps of a schema migration as functions that may be refused. A table carries the proof that
its rows satisfy the check constraints in force, so a constraint can only be added where the rows
that are already stored satisfy it.
-/

namespace AssessmentPlatform.Library

/-- Why a step of a migration is refused. -/
inductive SchemaError where
  | undefinedObject | duplicateObject | checkViolation
  deriving DecidableEq

/-! ## Check constraints -/

/-- A table with named check constraints, which all of its rows satisfy. -/
@[ext]
structure CheckedTable (κ ρ : Type) where
  rows : List ρ
  checks : κ → Option (ρ → Bool)
  checked : ∀ name check, checks name = some check → ∀ row ∈ rows, check row = true

namespace CheckedTable

variable {κ ρ : Type} [DecidableEq κ] {t t' : CheckedTable κ ρ} {name : κ} {check : ρ → Bool}

/-- Drop a check constraint. -/
def dropCheck (name : κ) (t : CheckedTable κ ρ) : Except SchemaError (CheckedTable κ ρ) :=
  if (t.checks name).isSome then
    .ok
      { rows := t.rows
        checks := Function.update t.checks name none
        checked := by
          intro other check hcheck
          by_cases hother : other = name
          · simp [hother] at hcheck
          · rw [Function.update_of_ne hother] at hcheck
            exact t.checked other check hcheck }
  else .error .undefinedObject

/-- Add a check constraint; the rows that are stored are validated. -/
def addCheck (name : κ) (check : ρ → Bool) (t : CheckedTable κ ρ) :
    Except SchemaError (CheckedTable κ ρ) :=
  if (t.checks name).isSome then .error .duplicateObject
  else if hrows : ∀ row ∈ t.rows, check row = true then
    .ok
      { rows := t.rows
        checks := Function.update t.checks name (some check)
        checked := by
          intro other found hfound
          by_cases hother : other = name
          · rw [hother, Function.update_self] at hfound
            rwa [← Option.some.inj hfound]
          · rw [Function.update_of_ne hother] at hfound
            exact t.checked other found hfound }
  else .error .checkViolation

/-- Drop a check constraint and create another one of the same name. -/
def replaceCheck (name : κ) (check : ρ → Bool) (t : CheckedTable κ ρ) :
    Except SchemaError (CheckedTable κ ρ) := do
  let t ← t.dropCheck name
  t.addCheck name check

/-- A constraint can be replaced by one that the stored rows satisfy. -/
theorem replaceCheck_eq_ok (hname : (t.checks name).isSome)
    (hsatisfied : ∀ row ∈ t.rows, check row = true) (hrows : t'.rows = t.rows)
    (hchecks : t'.checks = Function.update t.checks name (some check)) :
    t.replaceCheck name check = .ok t' := by
  unfold replaceCheck dropCheck
  rw [if_pos hname]
  change addCheck name check _ = _
  unfold addCheck
  rw [if_neg (by simp), dif_pos hsatisfied]
  have hidem : Function.update (Function.update t.checks name none) name (some check) =
      t'.checks := by rw [Function.update_idem, hchecks]
  exact congrArg Except.ok (CheckedTable.ext hrows.symm hidem)

/-- One row that does not satisfy the new constraint is enough for a refusal. -/
theorem replaceCheck_eq_error (hname : (t.checks name).isSome)
    (hviolated : ¬∀ row ∈ t.rows, check row = true) :
    t.replaceCheck name check = .error .checkViolation := by
  unfold replaceCheck dropCheck
  rw [if_pos hname]
  change addCheck name check _ = _
  unfold addCheck
  rw [if_neg (by simp), dif_neg hviolated]

end CheckedTable

/-! ## Tables with indexes -/

/-- A table with named indexes. -/
structure IndexedTable (ι ρ : Type) where
  rows : List ρ
  indexes : List ι

section Indexed

variable {ι ρ : Type} [DecidableEq ι]

/-- Create a table where there is none. -/
def createTable : Option (IndexedTable ι ρ) → Except SchemaError (Option (IndexedTable ι ρ))
  | none => .ok (some ⟨[], []⟩)
  | some _ => .error .duplicateObject

/-- Drop a table with its rows. -/
def dropTable : Option (IndexedTable ι ρ) → Except SchemaError (Option (IndexedTable ι ρ))
  | none => .error .undefinedObject
  | some _ => .ok none

/-- Create an index. -/
def createIndex (index : ι) :
    Option (IndexedTable ι ρ) → Except SchemaError (Option (IndexedTable ι ρ))
  | none => .error .undefinedObject
  | some t =>
    if index ∈ t.indexes then .error .duplicateObject
    else .ok (some { t with indexes := t.indexes ++ [index] })

/-- Drop an index. -/
def dropIndex (index : ι) :
    Option (IndexedTable ι ρ) → Except SchemaError (Option (IndexedTable ι ρ))
  | none => .error .undefinedObject
  | some t =>
    if index ∈ t.indexes then .ok (some { t with indexes := t.indexes.erase index })
    else .error .undefinedObject

/-- A table is created with one index. -/
theorem createTable_createIndex (index : ι) :
    (createTable none >>= createIndex (ρ := ρ) index) = .ok (some ⟨[], [index]⟩) := by
  simp [createTable, createIndex, bind, Except.bind]

/-- A table is dropped after its only index. -/
theorem dropIndex_dropTable (index : ι) (rows : List ρ) :
    (dropIndex index (some ⟨rows, [index]⟩) >>= dropTable) = .ok none := by
  simp [dropTable, dropIndex, bind, Except.bind]

end Indexed

end AssessmentPlatform.Library
