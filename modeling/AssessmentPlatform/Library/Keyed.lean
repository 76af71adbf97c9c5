import Mathlib.Data.List.Dedup
import Mathlib.Data.List.Induction
import Mathlib.Data.List.Nodup
import Mathlib.Tactic.Common

/-!
# Dictionaries in insertion order

The values of a dictionary whose keys are determined by the values. An assignment to a key
that is present keeps its place; a new key comes last.
-/

namespace AssessmentPlatform.Library

variable {α β κ : Type} [DecidableEq κ]

/-- Assign a value under its own key. -/
def putBy (key : α → κ) (x : α) : List α → List α
  | [] => [x]
  | y :: ys => if key y = key x then x :: ys else y :: putBy key x ys

/-- Assign a value under its own key unless the key is present. -/
def setDefaultBy (key : α → κ) (x : α) (l : List α) : List α :=
  if key x ∈ l.map key then l else l ++ [x]

/-- The value under a key. -/
def getBy (key : α → κ) (k : κ) (l : List α) : Option α := l.find? fun x => key x = k

section Lookup

variable {key : α → κ} {l : List α} {x : α} {k : κ}

/-- What is found is in the list, under the key. -/
theorem getBy_mem (h : getBy key k l = some x) : x ∈ l ∧ key x = k :=
  ⟨List.mem_of_find?_eq_some h, by simpa using List.find?_some h⟩

/-- Nothing is found exactly if no item has the key. -/
theorem getBy_eq_none_iff : getBy key k l = none ↔ k ∉ l.map key := by
  simp [getBy, List.find?_eq_none]

/-- What an association list has under a key is one of its pairs. -/
theorem mem_of_lookup {ξ ν : Type} [BEq ξ] [LawfulBEq ξ] {items : List (ξ × ν)} {k : ξ} {v : ν}
    (h : items.lookup k = some v) : (k, v) ∈ items := by
  obtain ⟨before, after, rfl, -⟩ := List.lookup_eq_some_iff.mp h
  simp

end Lookup

section Assignment

variable {key : α → κ} {l : List α} {x z : α} {k : κ}

/-- After a put the keys are those before and the new one. -/
theorem mem_map_putBy : k ∈ (putBy key x l).map key ↔ k = key x ∨ k ∈ l.map key := by
  induction l with
  | nil => simp [putBy]
  | cons y ys ih =>
    unfold putBy
    split
    · rename_i hkey
      simp [hkey]
    · rw [List.map_cons, List.mem_cons, ih, List.map_cons, List.mem_cons]
      tauto

/-- A put keeps the keys distinct. -/
theorem nodup_map_putBy (h : (l.map key).Nodup) : ((putBy key x l).map key).Nodup := by
  induction l with
  | nil => simp [putBy]
  | cons y ys ih =>
    rw [List.map_cons, List.nodup_cons] at h
    unfold putBy
    split
    · rename_i hkey
      rw [List.map_cons, List.nodup_cons, ← hkey]
      exact h
    · rename_i hkey
      rw [List.map_cons, List.nodup_cons, mem_map_putBy, not_or]
      exact ⟨⟨hkey, h.1⟩, ih h.2⟩

/-- What is left of the former values. -/
theorem mem_putBy (hnodup : (l.map key).Nodup) (h : z ∈ putBy key x l) :
    z = x ∨ z ∈ l ∧ key z ≠ key x := by
  induction l with
  | nil => exact .inl (List.mem_singleton.mp h)
  | cons y ys ih =>
    rw [List.map_cons, List.nodup_cons] at hnodup
    unfold putBy at h
    split at h
    · rename_i hkey
      rcases List.mem_cons.mp h with rfl | hz
      · exact .inl rfl
      · refine .inr ⟨List.mem_cons_of_mem _ hz, fun hzx => hnodup.1 ?_⟩
        rw [hkey, ← hzx]
        exact List.mem_map_of_mem hz
    · rename_i hkey
      rcases List.mem_cons.mp h with rfl | hz
      · exact .inr ⟨List.mem_cons_self, hkey⟩
      · rcases ih hnodup.2 hz with rfl | ⟨hmem, hne⟩
        · exact .inl rfl
        · exact .inr ⟨List.mem_cons_of_mem _ hmem, hne⟩

/-- A new key comes last. -/
theorem putBy_new (h : key x ∉ l.map key) : putBy key x l = l ++ [x] := by
  induction l with
  | nil => rfl
  | cons y ys ih =>
    rw [List.map_cons, List.mem_cons, not_or] at h
    unfold putBy
    rw [if_neg (Ne.symm h.1), ih h.2]
    rfl

/-- A key that is present keeps its place. -/
theorem putBy_known (hnodup : (l.map key).Nodup) (h : key x ∈ l.map key) :
    putBy key x l = l.map fun y => if key y = key x then x else y := by
  induction l with
  | nil => simp at h
  | cons y ys ih =>
    rw [List.map_cons, List.nodup_cons] at hnodup
    unfold putBy
    split
    · rename_i hkey
      rw [List.map_cons, if_pos hkey, List.map_congr_left (g := id), List.map_id]
      intro z hz
      have hne : key z ≠ key x := fun heq => hnodup.1 (by
        rw [hkey, ← heq]
        exact List.mem_map_of_mem hz)
      rw [if_neg hne, id]
    · rename_i hkey
      rw [List.map_cons, List.mem_cons] at h
      rw [List.map_cons, if_neg hkey, ih hnodup.2 (h.resolve_left (Ne.symm hkey))]

/-- A put changes what is found under its key alone. -/
theorem getBy_putBy :
    getBy key k (putBy key x l) = if key x = k then some x else getBy key k l := by
  unfold getBy
  induction l with
  | nil => by_cases hx : key x = k <;> simp [putBy, hx]
  | cons y ys ih =>
    unfold putBy
    split
    · rename_i hkey
      by_cases hx : key x = k
      · simp [hx]
      · simp [hx, hkey]
    · rename_i hkey
      rw [List.find?_cons, List.find?_cons]
      by_cases hy : key y = k
      · have hx : key x ≠ k := fun hx => hkey (hy.trans hx.symm)
        simp [hy, hx]
      · simp only [hy, decide_false, ih]

end Assignment

section Distinct

/-- The first occurrences of a list are distinct. -/
theorem nodup_eraseDups {ι : Type} [BEq ι] [LawfulBEq ι] (l : List ι) : l.eraseDups.Nodup := by
  induction hn : l.length using Nat.strongRecOn generalizing l with
  | _ n ih =>
    cases l with
    | nil => exact List.nodup_nil
    | cons a as =>
      rw [List.eraseDups_cons, List.nodup_cons]
      refine ⟨by simp, ih _ ?_ _ rfl⟩
      have hle := List.length_filter_le (fun b => !b == a) as
      rw [List.length_cons] at hn
      omega

/-- Distinct items are their own distinct ones. -/
theorem eraseDups_of_nodup {ι : Type} [BEq ι] [LawfulBEq ι] {l : List ι} (h : l.Nodup) :
    l.eraseDups = l := by
  induction l with
  | nil => rfl
  | cons a as ih =>
    obtain ⟨hnew, hnodup⟩ := List.nodup_cons.mp h
    rw [List.eraseDups_cons, List.filter_eq_self.mpr, ih hnodup]
    intro b hb
    have hne : b ≠ a := fun heq => hnew (heq ▸ hb)
    simpa using hne

/-- Only a list without repetitions keeps its length. -/
theorem length_eraseDups_eq_iff {ι : Type} [BEq ι] [LawfulBEq ι] {l : List ι} :
    l.eraseDups.length = l.length ↔ l.Nodup := by
  classical
  refine ⟨fun h => ?_, fun h => by rw [eraseDups_of_nodup h]⟩
  have hperm : l.eraseDups.Perm l.dedup :=
    (List.perm_ext_iff_of_nodup (nodup_eraseDups l) l.nodup_dedup).mpr fun a => by
      rw [List.mem_eraseDups, List.mem_dedup]
  rw [hperm.length_eq] at h
  exact List.dedup_eq_self.mp (l.dedup_sublist.eq_of_length h)

/-- A key of the list is found. -/
theorem getBy_isSome {key : α → κ} {k : κ} {l : List α} (h : k ∈ l.map key) :
    ∃ x, getBy key k l = some x := by
  cases hfound : getBy key k l with
  | none => exact absurd h (getBy_eq_none_iff.mp hfound)
  | some x => exact ⟨x, rfl⟩

/-- The order of values under distinct keys does not matter. -/
theorem getBy_perm {key : α → κ} {k : κ} {l l' : List α} (hnodup : (l.map key).Nodup)
    (hperm : l.Perm l') : getBy key k l = getBy key k l' := by
  cases hfound : getBy key k l' with
  | none =>
    rw [getBy_eq_none_iff, ← (hperm.map key).mem_iff] at hfound
    exact getBy_eq_none_iff.mpr hfound
  | some x =>
    obtain ⟨hx, hkey⟩ := getBy_mem hfound
    obtain ⟨y, hy⟩ := getBy_isSome (List.mem_map_of_mem (f := key) (hperm.mem_iff.mpr hx))
    obtain ⟨hmem, hsame⟩ := getBy_mem hy
    rw [← hkey, hy, List.inj_on_of_nodup_map hnodup hmem (hperm.mem_iff.mpr hx) hsame]

/-- Looking up some keys finds the ones that are present. -/
theorem map_filterMap_getBy {key : α → κ} {l : List α} (ks : List κ) :
    (ks.filterMap fun k => getBy key k l).map key = ks.filter fun k => k ∈ l.map key := by
  induction ks with
  | nil => rfl
  | cons k ks ih =>
    cases hfound : getBy key k l with
    | none =>
      rw [List.filterMap_cons_none (f := fun k => getBy key k l) hfound, ih,
        List.filter_cons_of_neg]
      simpa using getBy_eq_none_iff.mp hfound
    | some x =>
      obtain ⟨hmem, rfl⟩ := getBy_mem hfound
      rw [List.filterMap_cons_some (f := fun k => getBy key k l) hfound, List.map_cons, ih,
        List.filter_cons_of_pos]
      simpa using ⟨x, hmem, rfl⟩

end Distinct

/-- Values with distinct keys are all kept. -/
theorem foldl_setDefaultBy {key : α → κ} {f : β → α} {l : List α} {items : List β}
    (h : ((l ++ items.map f).map key).Nodup) :
    items.foldl (fun m item => setDefaultBy key (f item) m) l = l ++ items.map f := by
  induction items generalizing l with
  | nil => simp
  | cons item items ih =>
    have hnew : key (f item) ∉ l.map key := by
      intro hmem
      rw [List.map_append, List.nodup_append] at h
      exact h.2.2 _ hmem _ (by simp) rfl
    have hset : setDefaultBy key (f item) l = l ++ [f item] := if_neg hnew
    rw [List.foldl_cons, hset, ih (by simpa using h)]
    simp

section Once

/-- The value under a key is found, or it is added as the last one. -/
inductive AddedOnce (key : α → κ) (k : κ) (l : List α) : α → List α → Prop
  | found {x : α} (hfound : getBy key k l = some x) : AddedOnce key k l x l
  | added {x : α} (hnew : getBy key k l = none) (hkey : key x = k) :
    AddedOnce key k l x (l ++ [x])

variable {key : α → κ} {l l' : List α} {x y : α} {k : κ}

/-- A value that is found stays when others are added behind. -/
theorem getBy_of_extends (h : l <+: l') (hfound : getBy key k l = some x) :
    getBy key k l' = some x := by
  obtain ⟨rest, rfl⟩ := h
  unfold getBy at hfound ⊢
  rw [List.find?_append, hfound]
  rfl

/-- A new item is found under its key. -/
theorem getBy_concat (hnew : getBy key k l = none) (hkey : key x = k) :
    getBy key k (l ++ [x]) = some x := by
  unfold getBy at hnew ⊢
  rw [List.find?_append, hnew]
  simp [hkey]

/-- A change of the values that keeps their keys. -/
theorem getBy_map {f : α → α} (hf : ∀ y, key (f y) = key y) :
    getBy key k (l.map f) = (getBy key k l).map f := by
  unfold getBy
  rw [List.find?_map]
  congr 2
  funext y
  simp [hf]

/-- What is added once is found. -/
theorem AddedOnce.getBy_eq (h : AddedOnce key k l x l') : getBy key k l' = some x := by
  cases h with
  | found hfound => exact hfound
  | added hnew hkey => exact getBy_concat hnew hkey

/-- The key is there once it has been looked for. -/
theorem AddedOnce.key_mem (h : AddedOnce key k l x l') : k ∈ l'.map key := by
  obtain ⟨hmem, hkey⟩ := getBy_mem h.getBy_eq
  exact List.mem_map.mpr ⟨x, hmem, hkey⟩

/-- What is added once comes last, if it is new. -/
theorem AddedOnce.isPrefix (h : AddedOnce key k l x l') : l <+: l' := by
  cases h with
  | found => exact List.prefix_rfl
  | added => exact List.prefix_append l _

/-- What is found is not added again. -/
theorem AddedOnce.again (h : AddedOnce key k l x l') (hfound : getBy key k l = some y) :
    x = y ∧ l' = l := by
  cases h with
  | found hfound' =>
    rw [hfound'] at hfound
    exact ⟨Option.some.inj hfound, rfl⟩
  | added hnew =>
    rw [hnew] at hfound
    cases hfound

/-- An item under a new key keeps the keys distinct. -/
theorem nodup_map_concat (h : (l.map key).Nodup) (hnew : getBy key k l = none) (hkey : key x = k) :
    ((l ++ [x]).map key).Nodup := by
  rw [getBy_eq_none_iff] at hnew
  rw [List.map_append, List.map_cons, List.map_nil, hkey]
  simpa [List.nodup_append, h] using hnew

/-- What is added once keeps the keys distinct. -/
theorem AddedOnce.nodup (h : AddedOnce key k l x l') (hnodup : (l.map key).Nodup) :
    (l'.map key).Nodup := by
  cases h with
  | found => exact hnodup
  | added hnew hkey => exact nodup_map_concat hnodup hnew hkey

end Once

section First

variable {key : α → κ} {l : List α} {x y : α}

/-- The first value under each key. -/
def distinctBy (key : α → κ) (l : List α) : List α :=
  l.foldl (fun m x => setDefaultBy key x m) []

/-- One more item is kept if its key is new. -/
theorem distinctBy_concat (l : List α) (x : α) :
    distinctBy key (l ++ [x]) = setDefaultBy key x (distinctBy key l) := by
  simp [distinctBy, List.foldl_append]

/-- The keys with one more default. -/
theorem mem_map_setDefaultBy {k : κ} :
    k ∈ (setDefaultBy key x l).map key ↔ k ∈ l.map key ∨ k = key x := by
  unfold setDefaultBy
  split
  · rename_i hmem
    exact ⟨.inl, fun h => h.elim id fun heq => heq ▸ hmem⟩
  · simp only [List.map_append, List.map_cons, List.map_nil, List.mem_append, List.mem_singleton]

/-- A default keeps the keys distinct. -/
theorem nodup_map_setDefaultBy (h : (l.map key).Nodup) :
    ((setDefaultBy key x l).map key).Nodup := by
  unfold setDefaultBy
  split
  · exact h
  · rename_i hnew
    exact nodup_map_concat h (getBy_eq_none_iff.mpr hnew) rfl

/-- More items are kept if their keys are new. -/
theorem distinctBy_append (l items : List α) :
    distinctBy key (l ++ items) =
      items.foldl (fun m x => setDefaultBy key x m) (distinctBy key l) :=
  List.foldl_append

/-- Items under distinct keys are added at once: the new ones behind, in their order. -/
theorem append_filter_new {items : List α} (h : (items.map key).Nodup) (l : List α) :
    l ++ items.filter (fun x => key x ∉ l.map key) =
      items.foldl (fun m x => setDefaultBy key x m) l := by
  induction items generalizing l with
  | nil => simp
  | cons x items ih =>
    obtain ⟨hnew, hnodup⟩ := List.nodup_cons.mp h
    rw [List.foldl_cons, ← ih hnodup, setDefaultBy]
    by_cases hknown : key x ∈ l.map key
    · rw [if_pos hknown, List.filter_cons_of_neg (by simpa using hknown)]
    · rw [if_neg hknown, List.filter_cons_of_pos (by simpa using hknown)]
      -- no other item has the key of the one that is added first
      have hrest : items.filter (fun y => key y ∉ (l ++ [x]).map key) =
          items.filter fun y => key y ∉ l.map key := by
        refine List.filter_congr fun y hy => ?_
        have hne : key y ≠ key x := fun heq => hnew (heq ▸ List.mem_map_of_mem hy)
        simp [hne]
      rw [hrest, List.append_assoc]
      rfl

/-- The distinct items have the keys of all items. -/
theorem mem_map_distinctBy {k : κ} : k ∈ (distinctBy key l).map key ↔ k ∈ l.map key := by
  induction l using List.reverseRecOn with
  | nil => rfl
  | append_singleton l x ih =>
    rw [distinctBy_concat, mem_map_setDefaultBy, ih]
    simp only [List.map_append, List.map_cons, List.map_nil, List.mem_append, List.mem_singleton]

/-- The distinct items have distinct keys. -/
theorem nodup_map_distinctBy (l : List α) : ((distinctBy key l).map key).Nodup := by
  induction l using List.reverseRecOn with
  | nil => exact List.nodup_nil
  | append_singleton l x ih =>
    rw [distinctBy_concat]
    exact nodup_map_setDefaultBy ih

/-- What is kept is what is found under its own key. -/
theorem mem_distinctBy : y ∈ distinctBy key l ↔ getBy key (key y) l = some y := by
  induction l using List.reverseRecOn with
  | nil => simp [distinctBy, getBy]
  | append_singleton l x ih =>
    rw [distinctBy_concat]
    unfold setDefaultBy
    split
    · rename_i hmem
      rw [mem_map_distinctBy] at hmem
      rw [ih]
      refine ⟨getBy_of_extends (List.prefix_append l [x]), fun h => ?_⟩
      cases hfound : getBy key (key y) l with
      | some z => rwa [getBy_of_extends (List.prefix_append l [x]) hfound] at h
      | none =>
        have hne : key x ≠ key y := fun heq => getBy_eq_none_iff.mp hfound (heq ▸ hmem)
        unfold getBy at h hfound
        rw [List.find?_append, hfound] at h
        simp [hne] at h
    · rename_i hnew
      rw [mem_map_distinctBy] at hnew
      rw [List.mem_append, List.mem_singleton, ih]
      constructor
      · rintro (h | rfl)
        · exact getBy_of_extends (List.prefix_append l [x]) h
        · exact getBy_concat (getBy_eq_none_iff.mpr hnew) rfl
      · intro h
        cases hfound : getBy key (key y) l with
        | some z =>
          rw [getBy_of_extends (List.prefix_append l [x]) hfound] at h
          exact .inl h
        | none =>
          unfold getBy at h hfound
          rw [List.find?_append, hfound] at h
          by_cases hkey : key x = key y
          · simp only [Option.none_or, List.find?_cons, hkey, decide_true] at h
            exact .inr (Option.some.inj h).symm
          · simp [hkey] at h

/-- There are at most as many distinct items as items. -/
theorem length_distinctBy_le (l : List α) : (distinctBy key l).length ≤ l.length := by
  induction l using List.reverseRecOn with
  | nil => exact Nat.le_refl 0
  | append_singleton l x ih =>
    rw [distinctBy_concat, List.length_append, List.length_singleton]
    unfold setDefaultBy
    split
    · omega
    · rw [List.length_append, List.length_singleton]
      omega

end First

section Loop

variable {key : α → κ} {keyOf : β → κ} {f : List α → β → α}

/-- A loop that assigns one value for each item, under the key of the item. -/
def putAll (key : α → κ) (f : List α → β → α) (l : List α) (items : List β) : List α :=
  items.foldl (fun m item => putBy key (f m item) m) l

/-- The last item is put last. -/
theorem putAll_concat (l : List α) (items : List β) (item : β) :
    putAll key f l (items ++ [item]) =
      putBy key (f (putAll key f l items) item) (putAll key f l items) := by
  simp [putAll, List.foldl_append]

/-- After all puts the keys are those before and those of the items. -/
theorem mem_map_putAll (hf : ∀ m item, key (f m item) = keyOf item) {l : List α} {items : List β}
    {k : κ} : k ∈ (putAll key f l items).map key ↔ k ∈ l.map key ∨ k ∈ items.map keyOf := by
  induction items using List.reverseRecOn with
  | nil => simp [putAll]
  | append_singleton items item ih =>
    rw [putAll_concat, mem_map_putBy, ih, hf]
    simp only [List.map_append, List.map_cons, List.map_nil, List.mem_append, List.mem_singleton]
    tauto

/-- All puts keep the keys distinct. -/
theorem nodup_map_putAll {l : List α} (h : (l.map key).Nodup) (items : List β) :
    ((putAll key f l items).map key).Nodup := by
  induction items using List.reverseRecOn with
  | nil => exact h
  | append_singleton items item ih =>
    rw [putAll_concat]
    exact nodup_map_putBy ih

/-- Values under distinct keys stand in the order of their items. -/
theorem putAll_distinct {g : β → α} (hf : ∀ m item, f m item = g item)
    {items : List β} (h : (items.map fun item => key (g item)).Nodup) :
    putAll key f [] items = items.map g := by
  induction items using List.reverseRecOn with
  | nil => rfl
  | append_singleton items item ih =>
    rw [List.map_append, List.nodup_append] at h
    rw [putAll_concat, ih h.1, hf, putBy_new, List.map_append]
    · rfl
    · intro hmem
      rw [List.map_map] at hmem
      exact h.2.2 _ hmem _ (by simp) rfl

/-- The values of a dictionary that is built from some items. -/
def dictBy (key : α → κ) (items : List α) : List α := putAll key (fun _ item => item) [] items

/-- The last item under a key is its value. -/
theorem getBy_dictBy {items : List α} {k : κ} :
    getBy key k (dictBy key items) = (items.filter fun x => key x = k).getLast? := by
  induction items using List.reverseRecOn with
  | nil => rfl
  | append_singleton items item ih =>
    unfold dictBy at ih ⊢
    rw [putAll_concat, getBy_putBy, ih, List.filter_append]
    by_cases hitem : key item = k
    · simp [hitem]
    · simp [hitem]

/-- Items under distinct keys are the values. -/
theorem dictBy_eq {items : List α} (h : (items.map key).Nodup) : dictBy key items = items := by
  have hvalues : dictBy key items = items.map id := putAll_distinct (g := id) (fun _ _ => rfl) h
  rw [hvalues, List.map_id]

end Loop

end AssessmentPlatform.Library
