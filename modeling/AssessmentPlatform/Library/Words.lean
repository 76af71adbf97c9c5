import Mathlib.Algebra.BigOperators.Group.List.Basic
import Mathlib.Algebra.GroupWithZero.Nat
import Mathlib.Data.List.Flatten
import Mathlib.Tactic.Common

/-!
# Words

The words of a sequence are its longest parts without white space. Joining words by a single
separator and taking the words again gives the same words, so normalizing the white space of a
sequence is idempotent. What a joined sequence weighs is the weight of its words and of the
separators between them.
-/

namespace AssessmentPlatform.Library

variable {α : Type}

/-- The words of a sequence. -/
def words (space : α → Bool) (l : List α) : List (List α) :=
  (l.splitOnP space).filter fun word => !word.isEmpty

/-- Proper words: not empty, and without white space. -/
def ProperWords (space : α → Bool) (ws : List (List α)) : Prop :=
  ∀ w ∈ ws, w ≠ [] ∧ ∀ c ∈ w, space c = false

section Words

variable {space : α → Bool}

/-- Splitting loses exactly the white space. -/
theorem flatten_splitOnP (l : List α) :
    (l.splitOnP space).flatten = l.filter fun c => !space c := by
  induction l with
  | nil => simp
  | cons c l ih =>
    obtain ⟨first, rest, hsplit⟩ := List.exists_cons_of_ne_nil (List.splitOnP_ne_nil space l)
    rw [hsplit, List.flatten_cons] at ih
    rw [List.splitOnP_cons_eq_if_modifyHead, hsplit]
    by_cases hc : space c = true
    · rw [if_pos hc, List.filter_cons_of_neg (by simp [hc]), ← ih]
      simp
    · rw [if_neg hc, List.filter_cons_of_pos (by simp [hc]), ← ih]
      simp

/-- The words hold what is not a space. -/
theorem flatten_words (l : List α) :
    (words space l).flatten = l.filter fun c => !space c := by
  rw [words, List.flatten_filter_not_isEmpty, flatten_splitOnP]

/-- The words are proper. -/
theorem properWords_words (l : List α) : ProperWords space (words space l) := by
  intro w hw
  refine ⟨by simpa using (List.mem_filter.mp hw).2, fun c hc => ?_⟩
  have hmem : c ∈ l.filter fun c => !space c := by
    rw [← flatten_words]
    exact List.mem_flatten_of_mem hw hc
  simpa using (List.mem_filter.mp hmem).2

/-- The words of joined words. -/
theorem words_intercalate {sep : α} (hsep : space sep = true) {ws : List (List α)}
    (hws : ProperWords space ws) : words space ([sep].intercalate ws) = ws := by
  induction ws with
  | nil => simp [words]
  | cons w rest ih =>
    obtain ⟨hw, hrest⟩ := List.forall_mem_cons.mp hws
    have hnonempty : (!w.isEmpty) = true := by simpa using hw.1
    cases rest with
    | nil =>
      rw [List.intercalate_singleton, words, List.splitOnP_eq_singleton hw.2,
        List.filter_cons, if_pos hnonempty, List.filter_nil]
    | cons w' rest =>
      rw [List.intercalate_cons_cons, List.append_assoc, List.singleton_append, words,
        List.splitOnP_append_cons_of_forall_mem hw.2 sep hsep, List.filter_cons,
        if_pos hnonempty]
      exact congrArg (w :: ·) (ih hrest)

/-- The weight of joined words. -/
theorem sum_map_intercalate (weight : α → ℕ) (sep : α) (ws : List (List α)) :
    (([sep].intercalate ws).map weight).sum =
      (ws.flatten.map weight).sum + (ws.length - 1) * weight sep := by
  induction ws with
  | nil => simp
  | cons w rest ih =>
    cases rest with
    | nil => simp
    | cons w' rest =>
      have hflatten : ((w :: w' :: rest).flatten.map weight).sum =
          (w.map weight).sum + ((w' :: rest).flatten.map weight).sum := by
        rw [List.flatten_cons, List.map_append, List.sum_append]
      have hlength : (w :: w' :: rest).length - 1 = (w' :: rest).length - 1 + 1 := rfl
      have hsep : ([sep].map weight).sum = weight sep := by simp
      rw [List.intercalate_cons_cons, List.map_append, List.map_append, List.sum_append,
        List.sum_append, ih, hflatten, hlength, Nat.succ_mul, hsep]
      omega

end Words

end AssessmentPlatform.Library
