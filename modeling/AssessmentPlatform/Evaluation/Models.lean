import AssessmentPlatform.Core.Exceptions
import Mathlib.Algebra.Order.Field.Basic
import Mathlib.Algebra.Order.Ring.Rat

/-!
# Values of metrics

A metric is a number between zero and one, which the models of the evaluation validate. Divisions
are exact; a division by zero raises.
-/

namespace AssessmentPlatform

/-- A number that the validation of a metric admits. -/
abbrev Rate := {x : ℚ // 0 ≤ x ∧ x ≤ 1}

/-- The validating constructor. -/
def Rate.create (x : ℚ) : Except Failure Rate :=
  if h : 0 ≤ x ∧ x ≤ 1 then .ok ⟨x, h⟩ else .error .value

/-- A metric that may be absent. -/
def Rate.createOptional : Option ℚ → Except Failure (Option Rate)
  | none => .ok none
  | some x => (Rate.create x).map some

/-- Python's division of two counts. -/
def divide (a b : ℕ) : Except Failure ℚ :=
  if b = 0 then .error .other else .ok (a / b)

/-- The number of a flag. -/
def flagValue (flag : Bool) : ℚ := if flag then 1 else 0

/-- A division by a positive number returns. -/
theorem divide_ok {b : ℕ} (a : ℕ) (hb : 0 < b) : divide a b = .ok ((a : ℚ) / b) :=
  if_neg (Nat.pos_iff_ne_zero.mp hb)

/-- A rate is created of a number between zero and one. -/
theorem Rate.create_ok {x : ℚ} (h : 0 ≤ x ∧ x ≤ 1) : Rate.create x = .ok ⟨x, h⟩ := dif_pos h

/-- An optional rate is created of a number between zero and one. -/
theorem Rate.createOptional_ok {x : ℚ} (h : 0 ≤ x ∧ x ≤ 1) :
    Rate.createOptional (some x) = .ok (some ⟨x, h⟩) := by
  rw [Rate.createOptional, Rate.create_ok h]
  rfl

/-- An optional value in the range is validated. -/
theorem Rate.exists_createOptional {value : Option ℚ} (h : ∀ x ∈ value, 0 ≤ x ∧ x ≤ 1) :
    ∃ rate, Rate.createOptional value = .ok rate ∧ rate.map Subtype.val = value := by
  cases value with
  | none => exact ⟨none, rfl, rfl⟩
  | some x => exact ⟨some ⟨x, h x rfl⟩, Rate.createOptional_ok (h x rfl), rfl⟩

/-- What was created is what was given. -/
theorem Rate.createOptional_eq_ok {value : Option ℚ} {rate : Option Rate}
    (h : Rate.createOptional value = .ok rate) : rate.map Subtype.val = value := by
  cases value with
  | none =>
    cases h
    rfl
  | some x =>
    by_cases hx : 0 ≤ x ∧ x ≤ 1
    · rw [Rate.createOptional_ok hx] at h
      cases h
      rfl
    · rw [Rate.createOptional, Rate.create, dif_neg hx] at h
      cases h

/-- A part of a whole. -/
theorem fraction_mem {a b : ℕ} (h : a ≤ b) : 0 ≤ (a : ℚ) / b ∧ (a : ℚ) / b ≤ 1 :=
  ⟨div_nonneg (Nat.cast_nonneg a) (Nat.cast_nonneg b),
    div_le_one_of_le₀ (Nat.cast_le.mpr h) (Nat.cast_nonneg b)⟩

/-- A flag counts as zero or one. -/
theorem flagValue_mem (flag : Bool) : 0 ≤ flagValue flag ∧ flagValue flag ≤ 1 := by
  cases flag <;> decide +kernel

end AssessmentPlatform
