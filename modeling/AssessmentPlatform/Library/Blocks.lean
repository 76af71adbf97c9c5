import Mathlib.Algebra.BigOperators.Group.Finset.Basic
import Mathlib.Algebra.Order.BigOperators.Group.Finset
import Mathlib.Data.List.Sort

/-!
# Answers to a list that is sent in blocks

A list is cut into blocks, each block is answered by a list of labelled items, and the answers
are sorted by their labels and put together. The item at a position of the result answers the
item at this position of the list exactly if each answer labels its items with the positions
within its block.
-/

namespace AssessmentPlatform.Library

/-! ## Blocks -/

/-- The number of blocks of at most `size` items that a list of `n` items is cut into. -/
def blockCount (size n : ℕ) : ℕ := (n + size - 1) / size

/-- The length of the `k`-th of these blocks. -/
def blockLength (size n k : ℕ) : ℕ := min size (n - k * size)

/-- The `k`-th block of a list. -/
def block {α : Type} (size : ℕ) (l : List α) (k : ℕ) : List α := (l.drop (k * size)).take size

section Blocks

variable {size n : ℕ}

/-- A block is counted if it begins within the list. -/
theorem lt_blockCount_iff (hsize : 0 < size) {k : ℕ} : k < blockCount size n ↔ k * size < n := by
  unfold blockCount
  rw [← Nat.succ_le_iff, Nat.le_div_iff_mul_le hsize, Nat.succ_mul]
  omega

/-- A position lies in a counted block. -/
theorem div_lt_blockCount (hsize : 0 < size) {i : ℕ} (hi : i < n) :
    i / size < blockCount size n :=
  (lt_blockCount_iff hsize).mpr ((Nat.div_mul_le_self i size).trans_lt hi)

/-- A position lies within its block. -/
theorem mod_lt_blockLength (hsize : 0 < size) {i : ℕ} (hi : i < n) :
    i % size < blockLength size n (i / size) := by
  have hmod := Nat.mod_lt i hsize
  have hsplit := Nat.div_add_mod' i size
  unfold blockLength
  omega

/-- The blocks before the `k`-th one are full. -/
theorem sum_blockLength {k : ℕ} (hk : k ≤ blockCount size n) (hsize : 0 < size) :
    ∑ j ∈ Finset.range k, blockLength size n j = min (k * size) n := by
  induction k with
  | zero => simp
  | succ k ih =>
    have hlt := (lt_blockCount_iff hsize).mp hk
    rw [Finset.sum_range_succ, ih (Nat.le_of_lt hk), blockLength, Nat.succ_mul]
    omega

/-- The blocks cover the list. -/
theorem sum_blockLength_blockCount (hsize : 0 < size) :
    ∑ j ∈ Finset.range (blockCount size n), blockLength size n j = n := by
  rw [sum_blockLength le_rfl hsize, min_eq_right]
  exact not_lt.mp fun h => lt_irrefl _ ((lt_blockCount_iff hsize).mpr h)

variable {α : Type} {answers : ℕ → List α}

/-- The answers to the first blocks are as many as these together. -/
theorem length_flatten_range (k : ℕ) :
    ((List.range k).map answers).flatten.length = ∑ j ∈ Finset.range k, (answers j).length := by
  induction k with
  | zero => rfl
  | succ k ih =>
    rw [List.range_succ, List.map_append, List.flatten_append, List.length_append, ih,
      Finset.sum_range_succ]
    simp

/-- The item at a position of the answers, if each has the length of its block. -/
theorem getElem?_flatten_range (hsize : 0 < size) {k : ℕ} (hk : k ≤ blockCount size n)
    (hlength : ∀ j < k, (answers j).length = blockLength size n j) {i : ℕ}
    (hik : i < k * size) :
    ((List.range k).map answers).flatten[i]? = (answers (i / size))[i % size]? := by
  induction k with
  | zero => simp at hik
  | succ k ih =>
    have hbefore : ((List.range k).map answers).flatten.length = k * size := by
      rw [length_flatten_range, Finset.sum_congr rfl fun j hj =>
        hlength j (Nat.lt_succ_of_lt (Finset.mem_range.mp hj)), sum_blockLength (Nat.le_of_lt hk)
        hsize, min_eq_left ((lt_blockCount_iff hsize).mp hk).le]
    rw [List.range_succ, List.map_append, List.flatten_append]
    by_cases hlt : i < k * size
    · rw [List.getElem?_append_left (by omega)]
      exact ih (Nat.le_of_lt hk) (fun j hj => hlength j (Nat.lt_succ_of_lt hj)) hlt
    · have hdiv : i / size = k := by
        rw [Nat.div_eq_iff hsize]
        rw [Nat.succ_mul] at hik
        omega
      have hmod := Nat.div_add_mod' i size
      rw [hdiv] at hmod
      rw [List.getElem?_append_right (by omega), hbefore, hdiv]
      have hoffset : i - k * size = i % size := by omega
      simp [hoffset]

end Blocks

/-! ## Labels -/

section Labels

variable {α : Type} {label : α → ℤ} {l : List α} {n : ℕ}

/-- The items sorted by their labels; items with the same label keep their order. -/
def byLabel (label : α → ℤ) (l : List α) : List α :=
  l.insertionSort fun a b => label a ≤ label b

/-- The labels are the positions below `n`, each of them once. -/
def LabelledUpTo (label : α → ℤ) (l : List α) (n : ℕ) : Prop :=
  (l.map label).Perm ((List.range n).map Nat.cast)

instance : Decidable (LabelledUpTo label l n) := inferInstanceAs (Decidable (List.Perm _ _))

/-- Sorting by the labels rearranges. -/
theorem byLabel_perm (label : α → ℤ) (l : List α) : (byLabel label l).Perm l :=
  List.perm_insertionSort _ l

/-- As many items are labelled as there are labels. -/
theorem LabelledUpTo.length_eq (h : LabelledUpTo label l n) : l.length = n := by
  have hlength := List.Perm.length_eq h
  rwa [List.length_map, List.length_map, List.length_range] at hlength

/-- Sorting puts every item at the position that it is labelled with. -/
theorem LabelledUpTo.map_byLabel (h : LabelledUpTo label l n) :
    (byLabel label l).map label = (List.range n).map Nat.cast := by
  have hsorted : ((byLabel label l).map label).Pairwise (· ≤ ·) := by
    have : Std.Total fun a b : α => label a ≤ label b := ⟨fun a b => le_total _ _⟩
    have : IsTrans α fun a b : α => label a ≤ label b := ⟨fun _ _ _ => le_trans⟩
    exact List.pairwise_map.mpr (List.pairwise_insertionSort (fun a b => label a ≤ label b) l)
  have hrange : ((List.range n).map (Nat.cast : ℕ → ℤ)).Pairwise (· ≤ ·) :=
    List.pairwise_map.mpr (List.pairwise_le_range.imp Int.ofNat_le.mpr)
  exact (((byLabel_perm label l).map label).trans h).eq_of_pairwise' hsorted hrange

/-- The item at a position is the only one that is labelled with it. -/
theorem LabelledUpTo.filter_eq (h : LabelledUpTo label l n) {j : ℕ} (hj : j < n) :
    ∃ a, (l.filter fun a => label a = j) = [a] ∧ (byLabel label l)[j]? = some a := by
  have hlength : (l.filter fun a => label a = j).length = 1 := by
    have hcount : (l.map label).count (j : ℤ) = 1 := by
      rw [List.Perm.count_eq h]
      refine List.count_eq_one_of_mem ?_ (List.mem_map.mpr ⟨j, List.mem_range.mpr hj, rfl⟩)
      exact List.nodup_range.map fun _ _ => Int.ofNat_inj.mp
    rw [List.count, List.countP_map, List.countP_eq_length_filter] at hcount
    simpa [Function.comp_def, beq_eq_decide] using hcount
  obtain ⟨a, ha⟩ := List.length_eq_one_iff.mp hlength
  have hbound : j < (byLabel label l).length := by
    rwa [(byLabel_perm label l).length_eq, h.length_eq]
  have hlabel : label ((byLabel label l)[j]) = j := by
    have hmap := congrArg (·[j]?) h.map_byLabel
    simpa [hbound, hj] using hmap
  have hmem : (byLabel label l)[j] ∈ l.filter fun a => label a = j :=
    List.mem_filter.mpr ⟨(byLabel_perm label l).mem_iff.mp (List.getElem_mem hbound),
      decide_eq_true hlabel⟩
  rw [ha, List.mem_singleton] at hmem
  exact ⟨a, ha, by rw [List.getElem?_eq_getElem hbound, hmem]⟩

/-- Items that hold all positions below `n` among their labels. -/
theorem subperm_of_labels (h : ∀ j < n, ∃ a ∈ l, label a = j) :
    ((List.range n).map Nat.cast).Subperm (l.map label) := by
  refine List.Nodup.subperm (List.nodup_range.map fun _ _ => Int.ofNat_inj.mp) fun x hx => ?_
  obtain ⟨j, hj, rfl⟩ := List.mem_map.mp hx
  obtain ⟨a, ha, hlabel⟩ := h j (List.mem_range.mp hj)
  exact List.mem_map.mpr ⟨a, ha, hlabel⟩

end Labels

/-! ## Answers -/

section Answers

variable {α : Type} (label : α → ℤ) (size n : ℕ) (answers : ℕ → List α)

/-- The answers to all blocks of a list of `n` items, each sorted by its labels. -/
def gathered : List α :=
  ((List.range (blockCount size n)).map fun k => byLabel label (answers k)).flatten

variable {label size n answers}

/-- The gathered answers are as many as those to all blocks together. -/
theorem length_gathered : (gathered label size n answers).length =
    ∑ k ∈ Finset.range (blockCount size n), (answers k).length := by
  rw [gathered, length_flatten_range]
  exact Finset.sum_congr rfl fun k _ => (byLabel_perm label _).length_eq

/-- If the result has the right length and each position is the label of one item in the answer to
its block, then every answer labels its items with the positions within its block. -/
theorem labelledUpTo_of_filter_eq (hsize : 0 < size)
    (hlength : (gathered label size n answers).length = n)
    (hlabels : ∀ i < n, ∃ a,
      ((answers (i / size)).filter fun a => label a = (i % size : ℕ)) = [a]) :
    ∀ k < blockCount size n, LabelledUpTo label (answers k) (blockLength size n k) := by
  have hsubperm : ∀ k < blockCount size n, ((List.range (blockLength size n k)).map
      Nat.cast).Subperm ((answers k).map label) := by
    refine fun k hk => subperm_of_labels fun j hj => ?_
    have hj' : j < size ∧ k * size + j < n := by
      unfold blockLength at hj
      omega
    obtain ⟨a, ha⟩ := hlabels (k * size + j) hj'.2
    have hmem : a ∈ (answers ((k * size + j) / size)).filter fun a =>
        label a = ((k * size + j) % size : ℕ) := by
      rw [ha]
      exact List.mem_singleton_self a
    rw [Nat.mul_comm, Nat.mul_add_div hsize, Nat.div_eq_of_lt hj'.1, Nat.add_zero,
      Nat.mul_add_mod, Nat.mod_eq_of_lt hj'.1, List.mem_filter, decide_eq_true_eq] at hmem
    exact ⟨a, hmem⟩
  have hle : ∀ k ∈ Finset.range (blockCount size n),
      blockLength size n k ≤ (answers k).length := by
    intro k hk
    have h := (hsubperm k (Finset.mem_range.mp hk)).length_le
    rwa [List.length_map, List.length_map, List.length_range] at h
  -- No answer is longer than its block, since all of them together are as long as the list.
  have hsum : ∑ k ∈ Finset.range (blockCount size n), blockLength size n k =
      ∑ k ∈ Finset.range (blockCount size n), (answers k).length :=
    (sum_blockLength_blockCount hsize).trans (hlength.symm.trans length_gathered)
  have heq := (Finset.sum_eq_sum_iff_of_le hle).mp hsum
  intro k hk
  refine ((hsubperm k hk).perm_of_length_le ?_).symm
  rw [List.length_map, List.length_map, List.length_range, heq k (Finset.mem_range.mpr hk)]

/-- If every answer labels its items with the positions within its block, then the item at each
position of the result is the only one that is labelled with it in the answer to its block. -/
theorem gathered_getElem? (hsize : 0 < size)
    (hlabelled : ∀ k < blockCount size n, LabelledUpTo label (answers k) (blockLength size n k))
    {i : ℕ} (hi : i < n) :
    ∃ a, ((answers (i / size)).filter fun a => label a = (i % size : ℕ)) = [a] ∧
      (gathered label size n answers)[i]? = some a := by
  obtain ⟨a, hfilter, ha⟩ := (hlabelled _ (div_lt_blockCount hsize hi)).filter_eq
    (mod_lt_blockLength hsize hi)
  refine ⟨a, hfilter, ?_⟩
  have hblocks : i < blockCount size n * size := by
    by_contra hge
    exact lt_irrefl _ ((lt_blockCount_iff hsize).mpr ((not_lt.mp hge).trans_lt hi))
  rw [gathered, getElem?_flatten_range hsize le_rfl (fun k hk => ?_) hblocks, ha]
  rw [(byLabel_perm label _).length_eq, (hlabelled k hk).length_eq]

end Answers

end AssessmentPlatform.Library
