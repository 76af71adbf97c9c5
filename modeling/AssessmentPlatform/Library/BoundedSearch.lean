import AssessmentPlatform.Library.Keyed
import Mathlib.Data.Finset.Card

/-!
# Bounded breadth-first search

A search in an undirected multigraph. Each level is offered edges at the frontier, perhaps not
all of them. It takes an edge between visited nodes, and an edge to a new node while the budget
of nodes is not exhausted. The new nodes are the next frontier.

Every visited node has a rank, the level that has found it, and is reached from the seeds by a
walk of that many taken edges. If the levels are offered all edges at their frontiers, then
the ranks are the distances within the taken edges.
-/

namespace AssessmentPlatform.Library

/-- Edges with their end points and keys. -/
structure Multigraph (ν ε κ : Type) where
  source : ε → ν
  target : ε → ν
  key : ε → κ

namespace Multigraph

variable {ν ε κ : Type}

section Walks

variable (G : Multigraph ν ε κ)

/-- The node is an end point of the edge. -/
def Touches (e : ε) (x : ν) : Prop := G.source e = x ∨ G.target e = x

/-- The edge joins the nodes in either direction. -/
def Joins (e : ε) (x y : ν) : Prop :=
  G.source e = x ∧ G.target e = y ∨ G.source e = y ∧ G.target e = x

/-- The node is reached from a seed by a walk of some length along the edges. -/
inductive Walk (edges : List ε) (seeds : Finset ν) : ℕ → ν → Prop
  | seed {x : ν} (h : x ∈ seeds) : Walk edges seeds 0 x
  | step {n : ℕ} {e : ε} {x y : ν} (hwalk : Walk edges seeds n x) (he : e ∈ edges)
      (hjoins : G.Joins e x y) : Walk edges seeds (n + 1) y

/-- The node is at most so many edges away from the seeds. -/
def Within (edges : List ε) (seeds : Finset ν) (n : ℕ) (x : ν) : Prop :=
  ∃ m ≤ n, G.Walk edges seeds m x

/-- The length of a shortest walk. -/
def Distance (edges : List ε) (seeds : Finset ν) (x : ν) (d : ℕ) : Prop :=
  G.Walk edges seeds d x ∧ ∀ m, G.Walk edges seeds m x → d ≤ m

/-- The largest distance of some nodes, or zero if there are none. -/
def Farthest (edges : List ε) (seeds : Finset ν) (nodes : List ν) (d : ℕ) : Prop :=
  (∀ x ∈ nodes, ∃ m ≤ d, G.Distance edges seeds x m) ∧
    (d = 0 ∨ ∃ x ∈ nodes, G.Distance edges seeds x d)

variable {G} {edges edges' : List ε} {seeds : Finset ν} {n : ℕ} {e : ε} {x y : ν}

/-- An edge joins its ends in both orders. -/
theorem Joins.symm (h : G.Joins e x y) : G.Joins e y x := Or.symm h

/-- An edge touches the ends that it joins. -/
theorem Joins.touches (h : G.Joins e x y) : G.Touches e x := h.imp And.left And.right

/-- An edge that touches a vertex joins it to a vertex. -/
theorem Touches.joins (h : G.Touches e x) : ∃ y, G.Joins e x y := by
  rcases h with h | h
  · exact ⟨G.target e, .inl ⟨h, rfl⟩⟩
  · exact ⟨G.source e, .inr ⟨rfl, h⟩⟩

/-- The other end of an edge is determined by the ends that are known. -/
theorem Joins.cases (h : G.Joins e x y) {a b : ν} (h' : G.Joins e a b) :
    a = x ∧ b = y ∨ a = y ∧ b = x := by
  rcases h with ⟨rfl, rfl⟩ | ⟨rfl, rfl⟩
  · exact h'.imp (fun h => ⟨h.1.symm, h.2.symm⟩) fun h => ⟨h.2.symm, h.1.symm⟩
  · exact (h'.imp (fun h => ⟨h.1.symm, h.2.symm⟩) fun h => ⟨h.2.symm, h.1.symm⟩).symm

/-- A walk is one with more edges as well. -/
theorem Walk.mono (hsub : ∀ e ∈ edges, e ∈ edges') (h : G.Walk edges seeds n x) :
    G.Walk edges' seeds n x := by
  induction h with
  | seed h => exact .seed h
  | step _ he hjoins ih => exact .step ih (hsub _ he) hjoins

/-- A walk that goes beyond the seeds ends with an edge. -/
theorem Walk.last (h : G.Walk edges seeds n x) (hn : n ≠ 0) : ∃ e ∈ edges, G.Touches e x := by
  cases h with
  | seed => exact absurd rfl hn
  | step _ he hjoins => exact ⟨_, he, hjoins.symm.touches⟩

/-- A walk to a node of a set that holds the ends of the edges begins in that set. -/
theorem Walk.restrict (inside : ν → Prop) {seeds' : Finset ν}
    (hends : ∀ e ∈ edges, inside (G.source e) ∧ inside (G.target e))
    (hseeds : ∀ x ∈ seeds, inside x → x ∈ seeds') (h : G.Walk edges seeds n x) (hx : inside x) :
    G.Walk edges seeds' n x := by
  induction h with
  | seed h => exact .seed (hseeds _ h hx)
  | @step n e x y hwalk he hjoins ih =>
    refine .step (ih ?_) he hjoins
    obtain ⟨hsource, htarget⟩ := hends e he
    rcases hjoins with ⟨rfl, -⟩ | ⟨-, rfl⟩
    · exact hsource
    · exact htarget

end Walks

/-! ## The search -/

/-- What a level has done with the edges so far. -/
structure Level (ν ε : Type) where
  visited : Finset ν
  next : Finset ν
  kept : List ε

/-- The search between two levels. -/
structure State (ν ε : Type) where
  visited : Finset ν
  frontier : Finset ν
  kept : List ε
  depthUsed : ℕ

section Search

variable [DecidableEq ν] [DecidableEq κ] (G : Multigraph ν ε κ)

/-- The end points of an edge that have not been visited. -/
def newEnds (visited : Finset ν) (e : ε) : List ν :=
  [G.source e, G.target e].filter fun x => x ∉ visited

/-- One edge that is offered to a level. -/
def take (budget : ℕ) (l : Level ν ε) (e : ε) : Level ν ε :=
  let ends := G.newEnds l.visited e
  if ends ≠ [] ∧ budget < l.visited.card + ends.length then l
  else
    { visited := l.visited ∪ ends.toFinset
      next := l.next ∪ ends.toFinset
      kept := setDefaultBy G.key e l.kept }

/-- One level, unless there is nothing to search. -/
def next (pick : Finset ν → List ε) (budget : ℕ) (s : State ν ε) : Option (State ν ε) :=
  if s.frontier = ∅ then none
  else if (pick s.frontier).isEmpty then none
  else
    let l := (pick s.frontier).foldl (G.take budget)
      { visited := s.visited, next := ∅, kept := s.kept }
    some
      { visited := l.visited, frontier := l.next, kept := l.kept, depthUsed := s.depthUsed + 1 }

/-- At most so many levels. -/
def search (pick : Finset ν → List ε) (budget : ℕ) : ℕ → State ν ε → State ν ε
  | 0, s => s
  | n + 1, s =>
    match G.next pick budget s with
    | none => s
    | some s' => search pick budget n s'

/-- A search that begins at its seeds. -/
def start (seeds : Finset ν) : State ν ε where
  visited := seeds
  frontier := seeds
  kept := []
  depthUsed := 0

end Search

/-! ## One level -/

section Levels

variable [DecidableEq ν] [DecidableEq κ] {G : Multigraph ν ε κ} {budget : ℕ}
  {edges offered : List ε} {visited frontier : Finset ν} {kept : List ε} {l : Level ν ε} {e : ε}

/-- What is kept was kept before, or is new. -/
theorem mem_setDefaultBy {key : ε → κ} {e e' : ε} {kept : List ε}
    (h : e' ∈ setDefaultBy key e kept) : e' ∈ kept ∨ e' = e := by
  unfold setDefaultBy at h
  split at h
  · exact .inl h
  · exact (List.mem_append.mp h).imp_right List.mem_singleton.mp

/-- What was kept is still kept. -/
theorem mem_setDefaultBy_of_mem {key : ε → κ} {e e' : ε} {kept : List ε} (h : e' ∈ kept) :
    e' ∈ setDefaultBy key e kept := by
  unfold setDefaultBy
  split
  · exact h
  · exact List.mem_append_left _ h

/-- An edge is kept if its key stands for no other edge. -/
theorem mem_setDefaultBy_self {key : ε → κ} {e : ε} {kept : List ε}
    (hkey : ∀ e' ∈ kept, key e' = key e → e' = e) : e ∈ setDefaultBy key e kept := by
  unfold setDefaultBy
  split
  · rename_i hmem
    obtain ⟨e', he', heq⟩ := List.mem_map.mp hmem
    rwa [← hkey e' he' heq]
  · exact List.mem_append_right _ List.mem_cons_self

omit [DecidableEq κ] in
/-- An edge at the frontier joins visited nodes, or it joins the frontier with one new node. -/
theorem newEnds_cases (hsub : ∀ x ∈ frontier, x ∈ visited) (he : ∃ x ∈ frontier, G.Touches e x) :
    G.newEnds visited e = [] ∧ G.source e ∈ visited ∧ G.target e ∈ visited ∨
      ∃ x ∈ frontier, ∃ y, y ∉ visited ∧ G.Joins e x y ∧ G.newEnds visited e = [y] := by
  obtain ⟨x, hx, htouches⟩ := he
  have hxv := hsub x hx
  unfold newEnds
  rcases htouches with rfl | rfl
  · by_cases ht : G.target e ∈ visited
    · exact .inl ⟨by simp [hxv, ht], hxv, ht⟩
    · exact .inr ⟨_, hx, _, ht, .inl ⟨rfl, rfl⟩, by simp [hxv, ht]⟩
  · by_cases hs : G.source e ∈ visited
    · exact .inl ⟨by simp [hxv, hs], hs, hxv⟩
    · exact .inr ⟨_, hx, _, hs, .inr ⟨rfl, rfl⟩, by simp [hxv, hs]⟩

/-- What a level has achieved after it was offered some edges. -/
structure LevelInvariant (G : Multigraph ν ε κ) (budget : ℕ) (edges : List ε)
    (visited frontier : Finset ν) (kept offered : List ε) (l : Level ν ε) : Prop where
  visited_eq : l.visited = visited ∪ l.next
  fresh : ∀ x ∈ l.next, x ∉ visited
  card_le : l.visited.card ≤ budget
  closed : ∀ e ∈ l.kept, e ∈ edges ∧ G.source e ∈ l.visited ∧ G.target e ∈ l.visited
  origin : ∀ e ∈ l.kept, e ∈ kept ∨ e ∈ offered
  kept_sub : ∀ e ∈ kept, e ∈ l.kept
  reached : ∀ y ∈ l.next, ∃ e ∈ l.kept, ∃ x ∈ frontier, G.Joins e x y
  complete : ∀ e ∈ offered, e ∈ l.kept ∨
    budget ≤ l.visited.card ∧ ∃ y, G.Touches e y ∧ y ∉ l.visited

section Take

variable (h : LevelInvariant G budget edges visited frontier kept offered l)

include h

omit [DecidableEq κ] in
/-- The frontier of a level lies within what is visited after it. -/
theorem LevelInvariant.frontier_sub (hsub : ∀ x ∈ frontier, x ∈ visited) :
    ∀ x ∈ frontier, x ∈ l.visited := fun x hx => by
  rw [h.visited_eq]
  exact Finset.mem_union_left _ (hsub x hx)

/-- What a level with one more edge has kept comes from before or was offered. -/
theorem LevelInvariant.origin_concat {e e' : ε} (he' : e' ∈ setDefaultBy G.key e l.kept) :
    e' ∈ kept ∨ e' ∈ offered ++ [e] := by
  rcases mem_setDefaultBy he' with he' | rfl
  · exact (h.origin e' he').imp_right fun h => List.mem_append_left _ h
  · exact .inr (List.mem_append_right _ List.mem_cons_self)

/-- An edge whose ends have been visited is kept. -/
theorem LevelInvariant.inside {e : ε} (hmem : e ∈ edges) (hsource : G.source e ∈ l.visited)
    (htarget : G.target e ∈ l.visited) (hself : e ∈ setDefaultBy G.key e l.kept) :
    LevelInvariant G budget edges visited frontier kept (offered ++ [e])
      { l with kept := setDefaultBy G.key e l.kept } := by
  refine { h with closed := ?_, origin := fun e' he' => h.origin_concat he', kept_sub := ?_,
                  reached := ?_, complete := ?_ }
  · intro e' he'
    rcases mem_setDefaultBy he' with he' | rfl
    · exact h.closed e' he'
    · exact ⟨hmem, hsource, htarget⟩
  · exact fun e' he' => mem_setDefaultBy_of_mem (h.kept_sub e' he')
  · intro y hy
    obtain ⟨e', he', hreached⟩ := h.reached y hy
    exact ⟨e', mem_setDefaultBy_of_mem he', hreached⟩
  · intro e' he'
    rcases List.mem_append.mp he' with he' | he'
    · exact (h.complete e' he').imp_left mem_setDefaultBy_of_mem
    · rw [List.mem_singleton.mp he']
      exact .inl hself

omit [DecidableEq κ] in
/-- An edge with a new end is left out if there is no room for this end. -/
theorem LevelInvariant.full {e : ε} {y : ν} (hfull : budget < l.visited.card + 1)
    (htouches : G.Touches e y) (hy : y ∉ l.visited) :
    LevelInvariant G budget edges visited frontier kept (offered ++ [e]) l := by
  refine { h with origin := ?_, complete := ?_ }
  · exact fun e' he' => (h.origin e' he').imp_right fun h => List.mem_append_left _ h
  · intro e' he'
    rcases List.mem_append.mp he' with he' | he'
    · exact h.complete e' he'
    · rw [List.mem_singleton.mp he']
      exact .inr ⟨by omega, y, htouches, hy⟩

/-- Otherwise the end is visited and the edge is kept. -/
theorem LevelInvariant.extend {e : ε} {x y : ν} (hsub : ∀ x ∈ frontier, x ∈ visited)
    (hmem : e ∈ edges) (hx : x ∈ frontier) (hy : y ∉ l.visited) (hjoins : G.Joins e x y)
    (hroom : l.visited.card + 1 ≤ budget) (hself : e ∈ setDefaultBy G.key e l.kept) :
    LevelInvariant G budget edges visited frontier kept (offered ++ [e])
      { visited := insert y l.visited, next := insert y l.next,
        kept := setDefaultBy G.key e l.kept } := by
  have hyv : y ∉ visited := fun hmem => hy (by
    rw [h.visited_eq]
    exact Finset.mem_union_left _ hmem)
  refine ⟨?_, ?_, ?_, ?_, fun e' he' => h.origin_concat he', ?_, ?_, ?_⟩
  · dsimp only
    rw [h.visited_eq, Finset.union_insert]
  · intro z hz
    rcases Finset.mem_insert.mp hz with rfl | hz
    · exact hyv
    · exact h.fresh z hz
  · dsimp only
    rw [Finset.card_insert_of_notMem hy]
    omega
  · intro e' he'
    rcases mem_setDefaultBy he' with he' | rfl
    · obtain ⟨hedge, hsource, htarget⟩ := h.closed e' he'
      exact ⟨hedge, Finset.mem_insert_of_mem hsource, Finset.mem_insert_of_mem htarget⟩
    · have hxl := h.frontier_sub hsub x hx
      refine ⟨hmem, ?_⟩
      rcases hjoins with ⟨rfl, rfl⟩ | ⟨rfl, rfl⟩
      · exact ⟨Finset.mem_insert_of_mem hxl, Finset.mem_insert_self _ _⟩
      · exact ⟨Finset.mem_insert_self _ _, Finset.mem_insert_of_mem hxl⟩
  · exact fun e' he' => mem_setDefaultBy_of_mem (h.kept_sub e' he')
  · intro z hz
    rcases Finset.mem_insert.mp hz with rfl | hz
    · exact ⟨e, hself, x, hx, hjoins⟩
    · obtain ⟨e', he', hreached⟩ := h.reached z hz
      exact ⟨e', mem_setDefaultBy_of_mem he', hreached⟩
  · intro e' he'
    rcases List.mem_append.mp he' with he' | he'
    · rcases h.complete e' he' with hkept | ⟨hbudget, -⟩
      · exact .inl (mem_setDefaultBy_of_mem hkept)
      · omega
    · rw [List.mem_singleton.mp he']
      exact .inl hself

/-- One more edge. -/
theorem LevelInvariant.take (hkeys : (edges.map G.key).Nodup) (hsub : ∀ x ∈ frontier, x ∈ visited)
    (hmem : e ∈ edges) (he : ∃ x ∈ frontier, G.Touches e x) :
    LevelInvariant G budget edges visited frontier kept (offered ++ [e]) (G.take budget l e) := by
  have hself : e ∈ setDefaultBy G.key e l.kept := by
    refine mem_setDefaultBy_self fun e' he' hkey => ?_
    exact List.inj_on_of_nodup_map hkeys (h.closed e' he').1 hmem hkey
  rcases newEnds_cases (h.frontier_sub hsub) he with
    ⟨hends, hsource, htarget⟩ | ⟨x, hx, y, hy, hjoins, hends⟩
  · have htake : G.take budget l e = { l with kept := setDefaultBy G.key e l.kept } := by
      simp [Multigraph.take, hends]
    rw [htake]
    exact h.inside hmem hsource htarget hself
  · by_cases hfull : budget < l.visited.card + 1
    · have htake : G.take budget l e = l := by
        simp [Multigraph.take, hends, hfull]
      rw [htake]
      exact h.full hfull hjoins.symm.touches hy
    · have htake : G.take budget l e =
          { visited := insert y l.visited, next := insert y l.next,
            kept := setDefaultBy G.key e l.kept } := by
        simp [Multigraph.take, hends, hfull]
      rw [htake]
      exact h.extend hsub hmem hx hy hjoins (Nat.le_of_not_lt hfull) hself

end Take

/-- A whole level. -/
theorem levelInvariant_foldl (hkeys : (edges.map G.key).Nodup)
    (hsub : ∀ x ∈ frontier, x ∈ visited) (hcard : visited.card ≤ budget)
    (hkept : ∀ e ∈ kept, e ∈ edges ∧ G.source e ∈ visited ∧ G.target e ∈ visited)
    (picked : List ε) (hpicked : ∀ e ∈ picked, e ∈ edges ∧ ∃ x ∈ frontier, G.Touches e x) :
    LevelInvariant G budget edges visited frontier kept picked
      (picked.foldl (G.take budget) { visited, next := ∅, kept }) := by
  induction picked using List.reverseRecOn with
  | nil =>
    refine ⟨by simp, by simp, hcard, hkept, fun _ he => .inl he, fun _ he => he, by simp, ?_⟩
    exact fun _ he => nomatch he
  | append_singleton picked e ih =>
    rw [List.foldl_append]
    have hpicked' : ∀ e ∈ picked, e ∈ edges ∧ ∃ x ∈ frontier, G.Touches e x :=
      fun e' he' => hpicked e' (List.mem_append_left _ he')
    obtain ⟨hmem, he⟩ := hpicked e (List.mem_append_right _ List.mem_cons_self)
    exact (ih hpicked').take hkeys hsub hmem he

end Levels

/-! ## The ranks of the nodes -/

section Ranks

variable {G : Multigraph ν ε κ} {budget : ℕ} {edges : List ε} {seeds : Finset ν}
  {pick : Finset ν → List ε} {uncut : Prop} {rank : ν → ℕ} {s s' : State ν ε}

/-- The frontier is offered edges that it touches. -/
def PicksAt (G : Multigraph ν ε κ) (edges : List ε) (pick : Finset ν → List ε) : Prop :=
  ∀ frontier, ∀ e ∈ pick frontier, e ∈ edges ∧ ∃ x ∈ frontier, G.Touches e x

/-- The frontier is offered all edges that it touches. -/
def PicksAll (G : Multigraph ν ε κ) (edges : List ε) (pick : Finset ν → List ε)
    (frontier : Finset ν) : Prop :=
  ∀ e ∈ edges, (∃ x ∈ frontier, G.Touches e x) → e ∈ pick frontier

/-- The ranks of the nodes between two levels. Two of the facts hold if the levels before were
offered all edges at their frontiers. -/
structure Ranked (G : Multigraph ν ε κ) (budget : ℕ) (edges : List ε) (seeds : Finset ν)
    (uncut : Prop) (rank : ν → ℕ) (s : State ν ε) : Prop where
  seeds_sub : seeds ⊆ s.visited
  rank_seed : ∀ x ∈ seeds, rank x = 0
  rank_le : ∀ x ∈ s.visited, rank x ≤ s.depthUsed
  walk : ∀ x ∈ s.visited, G.Walk s.kept seeds (rank x) x
  mem_frontier : ∀ x, x ∈ s.frontier ↔ x ∈ s.visited ∧ rank x = s.depthUsed
  closed : ∀ e ∈ s.kept, e ∈ edges ∧ G.source e ∈ s.visited ∧ G.target e ∈ s.visited
  touched : ∀ e ∈ s.kept, ∃ x, G.Touches e x ∧ rank x < s.depthUsed
  card_le : s.visited.card ≤ budget
  deep : s.depthUsed ≠ 0 → ∃ x ∈ s.visited, rank x + 1 = s.depthUsed
  slope : uncut → ∀ e ∈ s.kept, ∀ x y, G.Joins e x y → rank y ≤ rank x + 1
  complete : uncut → ∀ e ∈ edges, ∀ x ∈ s.visited, G.Touches e x → rank x < s.depthUsed →
    e ∈ s.kept ∨ budget ≤ s.visited.card ∧ ∃ y, G.Touches e y ∧ y ∉ s.visited

/-- The ranks at the start: the seeds, at the distance zero. -/
theorem ranked_start (hcard : seeds.card ≤ budget) :
    Ranked G budget edges seeds uncut (fun _ => 0) (start seeds) where
  seeds_sub := Finset.Subset.refl seeds
  rank_seed _ _ := rfl
  rank_le _ _ := Nat.le_refl 0
  walk _ hx := .seed hx
  mem_frontier x := by simp [start]
  closed := nofun
  touched := nofun
  card_le := hcard
  deep h := absurd rfl h
  slope := nofun
  complete _ _ _ _ _ _ h := absurd h (Nat.not_lt_zero _)

/-- A kept edge joins visited vertices. -/
theorem Ranked.joins_mem (h : Ranked G budget edges seeds uncut rank s) {e : ε} {x y : ν}
    (he : e ∈ s.kept) (hjoins : G.Joins e x y) : x ∈ s.visited ∧ y ∈ s.visited := by
  obtain ⟨-, hsource, htarget⟩ := h.closed e he
  rcases hjoins with ⟨rfl, rfl⟩ | ⟨rfl, rfl⟩
  · exact ⟨hsource, htarget⟩
  · exact ⟨htarget, hsource⟩

variable [DecidableEq ν]

/-- The new nodes of a level get the next rank. -/
def nextRank (rank : ν → ℕ) (next : Finset ν) (depth : ℕ) (x : ν) : ℕ :=
  if x ∈ next then depth + 1 else rank x

/-- A vertex of the next frontier is one level further. -/
theorem nextRank_new {next : Finset ν} {depth : ℕ} {x : ν} (hx : x ∈ next) :
    nextRank rank next depth x = depth + 1 := if_pos hx

/-- The rank of any other vertex stays. -/
theorem nextRank_old {next : Finset ν} {depth : ℕ} {x : ν} (hx : x ∉ next) :
    nextRank rank next depth x = rank x := if_neg hx

section Level

variable {picked : List ε} {l : Level ν ε} (h : Ranked G budget edges seeds uncut rank s)
  (hlevel : LevelInvariant G budget edges s.visited s.frontier s.kept picked l)

include h

omit [DecidableEq ν] in
/-- The vertices of the frontier have the rank of the level. -/
theorem Ranked.frontier_rank {x : ν} (hx : x ∈ s.frontier) :
    x ∈ s.visited ∧ rank x = s.depthUsed := (h.mem_frontier x).mp hx

include hlevel

omit h in
/-- After a level the visited vertices are the earlier ones and the next frontier. -/
theorem LevelInvariant.mem_visited {x : ν} : x ∈ l.visited ↔ x ∈ s.visited ∨ x ∈ l.next := by
  rw [hlevel.visited_eq, Finset.mem_union]

omit h in
/-- A visited vertex keeps its rank. -/
theorem LevelInvariant.rank_visited {x : ν} (hx : x ∈ s.visited) :
    nextRank rank l.next s.depthUsed x = rank x :=
  nextRank_old fun hnext => hlevel.fresh x hnext hx

/-- A new edge at the frontier leads to a node of the same rank or of the next one: an edge to a
node with a smaller rank was taken before. -/
theorem Ranked.new_edge_rank (huncut : uncut) {e : ε} (he : e ∈ l.kept) (hnot : e ∉ s.kept)
    {x y : ν} (hx : x ∈ s.frontier) (hjoins : G.Joins e x y) :
    nextRank rank l.next s.depthUsed y = s.depthUsed ∨
      nextRank rank l.next s.depthUsed y = s.depthUsed + 1 := by
  by_cases hy : y ∈ l.next
  · exact .inr (nextRank_new hy)
  · have hys : y ∈ s.visited := by
      obtain ⟨-, hsource, htarget⟩ := hlevel.closed e he
      have hyl : y ∈ l.visited := by
        rcases hjoins with ⟨-, rfl⟩ | ⟨rfl, -⟩
        · exact htarget
        · exact hsource
      exact (hlevel.mem_visited.mp hyl).resolve_right hy
    left
    rw [nextRank_old hy]
    refine (Nat.lt_or_eq_of_le (h.rank_le y hys)).resolve_left fun hlt => ?_
    rcases h.complete huncut e (hlevel.closed e he).1 y hys hjoins.symm.touches hlt with
      hkept | ⟨-, z, hz, hnew⟩
    · exact hnot hkept
    · rcases hz.joins with ⟨w, hw⟩
      rcases hjoins.cases hw with ⟨rfl, -⟩ | ⟨rfl, -⟩
      · exact hnew (h.frontier_rank hx).1
      · exact hnew hys

/-- Along every kept edge the rank grows by at most one. -/
theorem Ranked.level_slope (hpicked : ∀ e ∈ picked, ∃ x ∈ s.frontier, G.Touches e x)
    (huncut : uncut) {e : ε} (he : e ∈ l.kept) {x y : ν} (hjoins : G.Joins e x y) :
    nextRank rank l.next s.depthUsed y ≤ nextRank rank l.next s.depthUsed x + 1 := by
  by_cases hkept : e ∈ s.kept
  · obtain ⟨hx, hy⟩ := h.joins_mem hkept hjoins
    rw [hlevel.rank_visited hx, hlevel.rank_visited hy]
    exact h.slope huncut e hkept x y hjoins
  · obtain ⟨f, hf, htouches⟩ := hpicked e ((hlevel.origin e he).resolve_left hkept)
    obtain ⟨z, hz⟩ := htouches.joins
    have hfrank : nextRank rank l.next s.depthUsed f = s.depthUsed := by
      rw [hlevel.rank_visited (h.frontier_rank hf).1, (h.frontier_rank hf).2]
    have hzrank := h.new_edge_rank hlevel huncut he hkept hf hz
    rcases hz.cases hjoins with ⟨rfl, rfl⟩ | ⟨rfl, rfl⟩
    · omega
    · omega

/-- An edge at a node of a smaller rank is kept, or its other end did not fit. -/
theorem Ranked.level_complete
    (hpicked : ∀ e ∈ edges, (∃ x ∈ s.frontier, G.Touches e x) → e ∈ picked) (huncut : uncut)
    {e : ε} (he : e ∈ edges) {x : ν} (hx : x ∈ l.visited) (htouches : G.Touches e x)
    (hlt : nextRank rank l.next s.depthUsed x < s.depthUsed + 1) :
    e ∈ l.kept ∨ budget ≤ l.visited.card ∧ ∃ y, G.Touches e y ∧ y ∉ l.visited := by
  rcases hlevel.mem_visited.mp hx with hx | hx
  · rw [hlevel.rank_visited hx] at hlt
    rcases Nat.lt_or_eq_of_le (Nat.le_of_lt_succ hlt) with hlt | heq
    · rcases h.complete huncut e he x hx htouches hlt with hkept | ⟨hfull, y, hy, hnew⟩
      · exact .inl (hlevel.kept_sub e hkept)
      · -- nothing was added to the visited nodes
        have hsub : s.visited ⊆ l.visited := fun z hz => hlevel.mem_visited.mpr (.inl hz)
        have hsame : s.visited = l.visited :=
          Finset.eq_of_subset_of_card_le hsub (hlevel.card_le.trans hfull)
        rw [← hsame]
        exact .inr ⟨hfull, y, hy, hnew⟩
    · exact hlevel.complete e
        (hpicked e he ⟨x, (h.mem_frontier x).mpr ⟨hx, heq⟩, htouches⟩)
  · rw [nextRank_new hx] at hlt
    exact absurd hlt (Nat.lt_irrefl _)

/-- A level ranks its new nodes. -/
theorem Ranked.level (hpicked : ∀ e ∈ picked, ∃ x ∈ s.frontier, G.Touches e x)
    (huncut : uncut → ∀ e ∈ edges, (∃ x ∈ s.frontier, G.Touches e x) → e ∈ picked)
    (hfrontier : s.frontier ≠ ∅) :
    Ranked G budget edges seeds uncut (nextRank rank l.next s.depthUsed)
      { visited := l.visited, frontier := l.next, kept := l.kept,
        depthUsed := s.depthUsed + 1 } := by
  have hsub : s.visited ⊆ l.visited := fun x hx => hlevel.mem_visited.mpr (.inl hx)
  refine ⟨?_, ?_, ?_, ?_, ?_, hlevel.closed, ?_, hlevel.card_le, ?_,
    fun hall e he x y hjoins => h.level_slope hlevel hpicked hall he hjoins,
    fun hall e he x hx => h.level_complete hlevel (huncut hall) hall he hx⟩
  · exact h.seeds_sub.trans hsub
  · intro x hx
    rw [hlevel.rank_visited (h.seeds_sub hx), h.rank_seed x hx]
  · intro x hx
    rcases hlevel.mem_visited.mp hx with hx | hx
    · rw [hlevel.rank_visited hx]
      exact (h.rank_le x hx).trans (Nat.le_succ _)
    · rw [nextRank_new hx]
  · intro x hx
    rcases hlevel.mem_visited.mp hx with hx | hx
    · rw [hlevel.rank_visited hx]
      exact (h.walk x hx).mono hlevel.kept_sub
    · rw [nextRank_new hx]
      obtain ⟨e, he, y, hy, hjoins⟩ := hlevel.reached x hx
      have hwalk := (h.walk y (h.frontier_rank hy).1).mono hlevel.kept_sub
      rw [(h.frontier_rank hy).2] at hwalk
      exact .step hwalk he hjoins
  · intro x
    refine ⟨fun hx => ⟨hlevel.mem_visited.mpr (.inr hx), nextRank_new hx⟩,
      fun ⟨hx, hdepth⟩ => ?_⟩
    rcases hlevel.mem_visited.mp hx with hx | hx
    · rw [hlevel.rank_visited hx] at hdepth
      have hle := h.rank_le x hx
      dsimp only at hdepth
      omega
    · exact hx
  · intro e he
    rcases hlevel.origin e he with he | he
    · obtain ⟨x, htouches, hlt⟩ := h.touched e he
      obtain ⟨y, hjoins⟩ := htouches.joins
      refine ⟨x, htouches, ?_⟩
      rw [hlevel.rank_visited (h.joins_mem he hjoins).1]
      exact hlt.trans (Nat.lt_succ_self _)
    · obtain ⟨x, hx, htouches⟩ := hpicked e he
      refine ⟨x, htouches, ?_⟩
      rw [hlevel.rank_visited (h.frontier_rank hx).1, (h.frontier_rank hx).2]
      exact Nat.lt_succ_self _
  · intro _
    obtain ⟨x, hx⟩ := Finset.nonempty_iff_ne_empty.mpr hfrontier
    refine ⟨x, hsub (h.frontier_rank hx).1, ?_⟩
    rw [hlevel.rank_visited (h.frontier_rank hx).1, (h.frontier_rank hx).2]

end Level

variable [DecidableEq κ]

/-- A level keeps the ranks. -/
theorem Ranked.next (h : Ranked G budget edges seeds uncut rank s)
    (hkeys : (edges.map G.key).Nodup) (hpick : PicksAt G edges pick)
    (huncut : uncut → PicksAll G edges pick s.frontier)
    (hnext : G.next pick budget s = some s') :
    ∃ rank', Ranked G budget edges seeds uncut rank' s' := by
  unfold Multigraph.next at hnext
  split at hnext
  · cases hnext
  · rename_i hfrontier
    split at hnext
    · cases hnext
    · have hsub : ∀ x ∈ s.frontier, x ∈ s.visited := fun x hx => ((h.mem_frontier x).mp hx).1
      have hlevel := levelInvariant_foldl hkeys hsub h.card_le h.closed (pick s.frontier)
        (hpick s.frontier)
      cases hnext
      exact ⟨_, h.level hlevel (fun e he => (hpick s.frontier e he).2) huncut hfrontier⟩

end Ranks

/-! ## Runs of the search -/

section Runs

variable [DecidableEq ν] [DecidableEq κ] {G : Multigraph ν ε κ} {budget : ℕ} {edges : List ε}
  {seeds : Finset ν} {pick : Finset ν → List ε} {uncut : Prop} {s s' : State ν ε}

/-- The traversal stops where the frontier or the picked edges are empty. -/
theorem next_eq_none : G.next pick budget s = none ↔ s.frontier = ∅ ∨ pick s.frontier = [] := by
  unfold next
  split
  · simp_all
  · split
    · simp_all
    · simp_all

/-- A level uses one more step of depth. -/
theorem next_depthUsed (h : G.next pick budget s = some s') : s'.depthUsed = s.depthUsed + 1 := by
  unfold next at h
  split at h
  · cases h
  · split at h
    · cases h
    · cases h
      rfl

/-- One more level is the next level of the search so far. -/
theorem search_succ (n : ℕ) (s : State ν ε) :
    G.search pick budget (n + 1) s =
      (G.next pick budget (G.search pick budget n s)).getD (G.search pick budget n s) := by
  induction n generalizing s with
  | zero =>
    unfold search
    cases hnext : G.next pick budget s with
    | none => simp
    | some s' => simp [search]
  | succ n ih =>
    rw [search]
    cases hnext : G.next pick budget s with
    | none => simp [search, hnext]
    | some s' =>
      dsimp only
      rw [ih s', search, hnext]

/-- A search uses all its levels, or it has stopped before. -/
theorem search_depthUsed (n : ℕ) :
    (G.search pick budget n (start seeds)).depthUsed ≤ n ∧
      ((G.search pick budget n (start seeds)).depthUsed = n ∨
        G.next pick budget (G.search pick budget n (start seeds)) = none) := by
  induction n with
  | zero => exact ⟨Nat.le_refl 0, .inl rfl⟩
  | succ n ih =>
    obtain ⟨hle, hstop⟩ := ih
    rw [search_succ]
    cases hnext : G.next pick budget (G.search pick budget n (start seeds)) with
    | none => exact ⟨hle.trans (Nat.le_succ n), .inr hnext⟩
    | some s' =>
      rw [hnext] at hstop
      have hdepth := next_depthUsed hnext
      have hn := hstop.resolve_right (by simp)
      rw [Option.getD_some]
      exact ⟨by omega, .inl (by omega)⟩

/-- A search that has stopped has the result of the levels that it has used. -/
theorem search_eq_search_depthUsed (n : ℕ) :
    G.search pick budget n (start seeds) =
      G.search pick budget (G.search pick budget n (start seeds)).depthUsed (start seeds) := by
  induction n with
  | zero => rfl
  | succ n ih =>
    cases hnext : G.next pick budget (G.search pick budget n (start seeds)) with
    | none =>
      have hsame : G.search pick budget (n + 1) (start seeds) =
          G.search pick budget n (start seeds) := by
        rw [search_succ, hnext, Option.getD_none]
      rw [hsame]
      exact ih
    | some s' =>
      have hsome : G.search pick budget (n + 1) (start seeds) = s' := by
        rw [search_succ, hnext, Option.getD_some]
      have hdepth := next_depthUsed hnext
      have hstop : (G.search pick budget n (start seeds)).depthUsed ≤ n ∧ _ := search_depthUsed n
      rw [hnext] at hstop
      have hn := hstop.2.resolve_right (by simp)
      have hused : (G.search pick budget (n + 1) (start seeds)).depthUsed = n + 1 := by
        rw [hsome]
        omega
      rw [hused]

/-- A search that has used a level was offered edges at its seeds. -/
theorem pick_seeds_ne_nil {n : ℕ}
    (h : (G.search pick budget n (start seeds)).depthUsed ≠ 0) : pick seeds ≠ [] := by
  intro hnone
  refine h ?_
  cases n with
  | zero => rfl
  | succ n =>
    have hnext : G.next pick budget (start seeds) = none := next_eq_none.mpr (.inr hnone)
    rw [search, hnext]
    rfl

/-- The nodes are ranked after every level. -/
theorem ranked_search (hkeys : (edges.map G.key).Nodup) (hpick : PicksAt G edges pick)
    (hcard : seeds.card ≤ budget) (n : ℕ)
    (huncut : uncut → ∀ m < n,
      PicksAll G edges pick (G.search pick budget m (start seeds)).frontier) :
    ∃ rank, Ranked G budget edges seeds uncut rank (G.search pick budget n (start seeds)) := by
  induction n with
  | zero => exact ⟨_, ranked_start hcard⟩
  | succ n ih =>
    obtain ⟨rank, hrank⟩ := ih fun h m hm => huncut h m (Nat.lt_succ_of_lt hm)
    rw [search_succ]
    cases hnext : G.next pick budget (G.search pick budget n (start seeds)) with
    | none => exact ⟨rank, hrank⟩
    | some s' => exact hrank.next hkeys hpick (fun h => huncut h n (Nat.lt_succ_self n)) hnext

end Runs

/-! ## What the ranks say -/

section Consequences

variable {G : Multigraph ν ε κ} {budget : ℕ} {edges : List ε} {seeds : Finset ν}
  {pick : Finset ν → List ε} {uncut : Prop} {rank : ν → ℕ} {s : State ν ε}

/-- A visited vertex is within the used depth. -/
theorem Ranked.within (h : Ranked G budget edges seeds uncut rank s) {x : ν}
    (hx : x ∈ s.visited) : G.Within s.kept seeds s.depthUsed x :=
  ⟨rank x, h.rank_le x hx, h.walk x hx⟩

/-- No walk along the taken edges is shorter than the rank. -/
theorem Ranked.rank_le_of_walk (h : Ranked G budget edges seeds uncut rank s) (huncut : uncut)
    {n : ℕ} {x : ν} (hwalk : G.Walk s.kept seeds n x) : rank x ≤ n := by
  induction hwalk with
  | seed hx => rw [h.rank_seed _ hx]
  | @step n e x y hwalk he hjoins ih =>
    have hslope := h.slope huncut e he x y hjoins
    omega

/-- The frontier is empty or without edges, unless all levels were used. -/
def Exhausted (pick : Finset ν → List ε) (n : ℕ) (s : State ν ε) : Prop :=
  s.depthUsed = n ∨ s.frontier = ∅ ∨ pick s.frontier = []

/-- A search that stops before its last level has no edges left at its frontier. -/
theorem Ranked.no_edge (h : Ranked G budget edges seeds uncut rank s) {n : ℕ}
    (hexhausted : Exhausted pick n s) (hlast : s.depthUsed < n → PicksAll G edges pick s.frontier)
    (hlt : s.depthUsed < n) {x : ν} (hx : x ∈ s.visited) (hrank : rank x = s.depthUsed) {e : ε}
    (he : e ∈ edges) : ¬ G.Touches e x := by
  intro htouches
  have hx' : x ∈ s.frontier := (h.mem_frontier x).mpr ⟨hx, hrank⟩
  rcases hexhausted with hdepth | hempty | hnone
  · omega
  · rw [hempty] at hx'
    exact absurd hx' (Finset.notMem_empty x)
  · have hpicked := hlast hlt e he ⟨x, hx', htouches⟩
    rw [hnone] at hpicked
    cases hpicked

/-- While there is room for all nodes within some distance, an edge at a nearer node was
taken. -/
theorem Ranked.taken (h : Ranked G budget edges seeds uncut rank s) (huncut : uncut) {n : ℕ}
    (hexhausted : Exhausted pick n s)
    (hlast : s.depthUsed < n → PicksAll G edges pick s.frontier)
    (hroom : ∀ y, G.Within edges seeds n y → y ∉ s.visited → s.visited.card < budget)
    {e : ε} (he : e ∈ edges) {x : ν} (hx : x ∈ s.visited) (htouches : G.Touches e x) {m : ℕ}
    (hm : m < n) (hrank : rank x ≤ m) (hwalk : G.Walk edges seeds m x) : e ∈ s.kept := by
  rcases Nat.lt_or_eq_of_le (h.rank_le x hx) with hlt | heq
  · rcases h.complete huncut e he x hx htouches hlt with hkept | ⟨hfull, y, hy, hnew⟩
    · exact hkept
    · obtain ⟨z, hz⟩ := htouches.joins
      obtain ⟨w, hw⟩ := hy.joins
      have hyz : y = z := by
        rcases hz.cases hw with ⟨rfl, -⟩ | ⟨rfl, -⟩
        · exact absurd hx hnew
        · rfl
      subst hyz
      have := hroom y ⟨m + 1, hm, .step hwalk he hz⟩ hnew
      omega
  · exact absurd htouches (h.no_edge hexhausted hlast (by omega) hx heq he)

/-- While there is room, the search visits every node within its distance. -/
theorem Ranked.visits (h : Ranked G budget edges seeds uncut rank s) (huncut : uncut) {n : ℕ}
    (hexhausted : Exhausted pick n s)
    (hlast : s.depthUsed < n → PicksAll G edges pick s.frontier)
    (hroom : ∀ y, G.Within edges seeds n y → y ∉ s.visited → s.visited.card < budget)
    {m : ℕ} (hm : m ≤ n) {x : ν} (hwalk : G.Walk edges seeds m x) :
    x ∈ s.visited ∧ rank x ≤ m := by
  induction hwalk with
  | seed hx => exact ⟨h.seeds_sub hx, (h.rank_seed _ hx).le⟩
  | @step m e x y hwalk he hjoins ih =>
    obtain ⟨hx, hrank⟩ := ih (Nat.le_of_succ_le hm)
    have hkept := h.taken huncut hexhausted hlast hroom he hx hjoins.touches
      (Nat.lt_of_succ_le hm) hrank hwalk
    have hslope := h.slope huncut e hkept x y hjoins
    exact ⟨(h.joins_mem hkept hjoins).2, by omega⟩

/-- The rank is the distance within the taken edges. -/
theorem Ranked.distance (h : Ranked G budget edges seeds uncut rank s) (huncut : uncut) {x : ν}
    (hx : x ∈ s.visited) : G.Distance s.kept seeds x (rank x) :=
  ⟨h.walk x hx, fun _ hwalk => h.rank_le_of_walk huncut hwalk⟩

/-- The largest rank of some nodes, or zero if there are none. -/
theorem exists_largest (rank : ν → ℕ) (nodes : List ν) :
    ∃ far, (∀ x ∈ nodes, rank x ≤ far) ∧ (far = 0 ∨ ∃ x ∈ nodes, rank x = far) := by
  induction nodes with
  | nil => exact ⟨0, nofun, .inl rfl⟩
  | cons y nodes ih =>
    obtain ⟨far, hle, hattained⟩ := ih
    by_cases hy : rank y ≤ far
    · refine ⟨far, fun x hx => ?_, hattained.imp_right fun ⟨x, hx, heq⟩ =>
        ⟨x, List.mem_cons_of_mem _ hx, heq⟩⟩
      rcases List.mem_cons.mp hx with rfl | hx
      · exact hy
      · exact hle x hx
    · refine ⟨rank y, fun x hx => ?_, .inr ⟨y, List.mem_cons_self, rfl⟩⟩
      rcases List.mem_cons.mp hx with rfl | hx
      · exact Nat.le_refl _
      · have := hle x hx
        omega

/-- A search from seeds with edges goes one level beyond the nodes that it has found last, or
it uses all its levels. -/
theorem Ranked.depthUsed_eq (h : Ranked G budget edges seeds uncut rank s) {n : ℕ}
    (hle : s.depthUsed ≤ n) (hexhausted : Exhausted pick n s)
    (hlast : s.depthUsed < n → PicksAll G edges pick s.frontier)
    (hseed : ∃ e ∈ edges, ∃ x ∈ seeds, G.Touches e x) {far : ℕ}
    (hfar : ∀ x ∈ s.visited, rank x ≤ far)
    (hattained : far = 0 ∨ ∃ x ∈ s.visited, rank x = far) : s.depthUsed = min (far + 1) n := by
  have hupper : s.depthUsed ≤ far + 1 := by
    by_cases hzero : s.depthUsed = 0
    · omega
    · obtain ⟨x, hx, hdepth⟩ := h.deep hzero
      have := hfar x hx
      omega
  have hlower : s.depthUsed < n → far < s.depthUsed := by
    intro hlt
    rcases Nat.eq_zero_or_pos far with hfar | hfar
    · obtain ⟨e, he, x, hx, htouches⟩ := hseed
      have hrank := h.rank_seed x hx
      by_contra hdepth
      exact h.no_edge hexhausted hlast hlt (h.seeds_sub hx) (by omega) he htouches
    · obtain ⟨x, hx, hrank⟩ := hattained.resolve_left (by omega)
      have hrank_le := h.rank_le x hx
      obtain ⟨e, he, htouches⟩ := (h.walk x hx).last (by omega)
      by_contra hdepth
      exact h.no_edge hexhausted hlast hlt hx (by omega) (h.closed e he).1 htouches
  omega

end Consequences

end Multigraph

end AssessmentPlatform.Library
