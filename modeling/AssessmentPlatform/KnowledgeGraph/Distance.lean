import AssessmentPlatform.KnowledgeGraph.Hybrid
import AssessmentPlatform.KnowledgeGraph.StoreRetrieval

/-!
# Distances in a neighborhood

If no level of the traversal loses an edge to its limit, a neighborhood with room for all entities
within the requested distance is the ball of that radius, and the levels that the traversal has
used are determined by the farthest entity that it has found.
-/

namespace AssessmentPlatform

open Library

namespace GraphStore

/-- The seeds of a traversal. -/
def seedSet (seedEntityIds : List UUID) (maxEntities : ℕ) : Finset UUID :=
  (orderedSeeds seedEntityIds maxEntities).toFinset

/-- No level matches more edges than it may select. -/
def Uncut (store : GraphStore) (seedEntityIds : List UUID) (maxDepth maxEntities : ℕ)
    (minConfidence : ℚ) : Prop :=
  ∀ m < maxDepth, (store.matchingEdges minConfidence
    (store.traverse seedEntityIds m maxEntities minConfidence).frontier).length ≤ maxEntities * 8

section Levels

variable {store : GraphStore} {seedEntityIds : List UUID} {maxDepth maxEntities : ℕ}
  {minConfidence : ℚ}

/-- A level that is not cut selects all its edges. -/
theorem picksAll_selectEdges {frontier : Finset UUID}
    (h : (store.matchingEdges minConfidence frontier).length ≤ maxEntities * 8) :
    Multigraph.PicksAll relationshipGraph (store.qualifyingRelationships minConfidence)
      (store.selectEdges minConfidence maxEntities) frontier := by
  intro r hr htouches
  unfold selectEdges
  rw [List.take_of_length_le (by rwa [List.length_insertionSort]), List.mem_insertionSort]
  exact mem_matchingEdges.mpr ⟨hr, htouches⟩

/-- A traversal uses all its levels, or it has stopped. -/
theorem exhausted_traverse :
    Multigraph.Exhausted (store.selectEdges minConfidence maxEntities) maxDepth
      (store.traverse seedEntityIds maxDepth maxEntities minConfidence) :=
  (Multigraph.search_depthUsed maxDepth).2.imp_right Multigraph.next_eq_none.mp

/-- The level at which a traversal has stopped was not cut either. -/
theorem picksAll_last (huncut : store.Uncut seedEntityIds maxDepth maxEntities minConfidence)
    (hlt : (store.traverse seedEntityIds maxDepth maxEntities minConfidence).depthUsed <
      maxDepth) :
    Multigraph.PicksAll relationshipGraph (store.qualifyingRelationships minConfidence)
      (store.selectEdges minConfidence maxEntities)
      (store.traverse seedEntityIds maxDepth maxEntities minConfidence).frontier := by
  have hlevel := picksAll_selectEdges (huncut _ hlt)
  unfold traverse at hlevel ⊢
  rwa [← Multigraph.search_eq_search_depthUsed] at hlevel

/-- Without a cut the traversal ranks the entities by their distance. -/
theorem ranked_of_uncut (huncut : store.Uncut seedEntityIds maxDepth maxEntities minConfidence) :
    ∃ rank, Multigraph.Ranked relationshipGraph maxEntities
      (store.qualifyingRelationships minConfidence) (seedSet seedEntityIds maxEntities) True rank
      (store.traverse seedEntityIds maxDepth maxEntities minConfidence) :=
  store.ranked_traverse seedEntityIds maxDepth maxEntities minConfidence True fun _ m hm =>
    picksAll_selectEdges (huncut m hm)

/-- What a walk along qualifying relationships reaches is stored, unless it is a seed. -/
theorem walk_stored {edges : List KnowledgeRelationshipModel} {seeds : Finset UUID} {n : ℕ}
    {id : UUID} (hedges : ∀ r ∈ edges, r ∈ store.graph.relationships)
    (h : relationshipGraph.Walk edges seeds n id) (hn : n ≠ 0) :
    id ∈ store.graph.entities.map KnowledgeEntityModel.id := by
  obtain ⟨r, hr, rfl | rfl⟩ := h.last hn
  · exact store.relationship_source r (hedges r hr)
  · exact store.relationship_target r (hedges r hr)

end Levels

/-! ## Balls -/

section Balls

variable (store : GraphStore) (seedEntityIds : List UUID) (maxDepth maxEntities : ℕ)
  (minConfidence : ℚ)

/-- A neighborhood with room for the ball around its seeds holds exactly this ball, and exactly the
qualifying relationships with an end inside the next smaller one. -/
theorem neighborhood_eq_ball {ball : Finset UUID} (hnodup : seedEntityIds.Nodup)
    (hstored : ∀ id ∈ seedEntityIds, id ∈ store.graph.entities.map KnowledgeEntityModel.id)
    (hball : ∀ id, id ∈ ball ↔ relationshipGraph.Within
      (store.qualifyingRelationships minConfidence) seedEntityIds.toFinset maxDepth id)
    (hcard : ball.card ≤ maxEntities)
    (huncut : store.Uncut seedEntityIds maxDepth maxEntities minConfidence) :
    (∀ id, id ∈ (store.getNeighborhood seedEntityIds maxDepth maxEntities
        minConfidence).entities.map KnowledgeEntityModel.id ↔ id ∈ ball) ∧
      (store.getNeighborhood seedEntityIds maxDepth maxEntities
        minConfidence).matchedEntities.map KnowledgeEntityModel.id = seedEntityIds ∧
      ∀ r, r ∈ (store.getNeighborhood seedEntityIds maxDepth maxEntities
          minConfidence).relationships ↔
        r ∈ store.qualifyingRelationships minConfidence ∧
          ∃ id, relationshipGraph.Touches r id ∧ ∃ m < maxDepth, relationshipGraph.Walk
            (store.qualifyingRelationships minConfidence) seedEntityIds.toFinset m id := by
  have hsub : seedEntityIds.toFinset ⊆ ball := fun id hid =>
    (hball id).mpr ⟨0, Nat.zero_le _, .seed hid⟩
  have hseeds : orderedSeeds seedEntityIds maxEntities = seedEntityIds := by
    unfold orderedSeeds
    rw [eraseDups_of_nodup hnodup, List.take_of_length_le]
    rw [← List.toFinset_card_of_nodup hnodup]
    exact (Finset.card_le_card hsub).trans hcard
  obtain ⟨rank, hranked⟩ := ranked_of_uncut huncut
  unfold seedSet at hranked
  rw [hseeds] at hranked
  have hqualify : ∀ r ∈ (store.traverse seedEntityIds maxDepth maxEntities minConfidence).kept,
      r ∈ store.qualifyingRelationships minConfidence := fun r hr => (hranked.closed r hr).1
  have hused := store.traverse_depthUsed_le seedEntityIds maxDepth maxEntities minConfidence
  have hvisited_ball : (store.traverse seedEntityIds maxDepth maxEntities minConfidence).visited ⊆
      ball := fun id hid =>
    (hball id).mpr ⟨rank id, (hranked.rank_le id hid).trans hused,
      (hranked.walk id hid).mono hqualify⟩
  have hroom : ∀ id, relationshipGraph.Within (store.qualifyingRelationships minConfidence)
      seedEntityIds.toFinset maxDepth id →
      id ∉ (store.traverse seedEntityIds maxDepth maxEntities minConfidence).visited →
      (store.traverse seedEntityIds maxDepth maxEntities minConfidence).visited.card <
        maxEntities := by
    intro id hwithin hnew
    refine (Finset.card_lt_card ?_).trans_le hcard
    exact (Finset.ssubset_iff_of_subset hvisited_ball).mpr ⟨id, (hball id).mpr hwithin, hnew⟩
  have hvisits : ∀ {m : ℕ} {id : UUID}, m ≤ maxDepth → relationshipGraph.Walk
      (store.qualifyingRelationships minConfidence) seedEntityIds.toFinset m id →
      id ∈ (store.traverse seedEntityIds maxDepth maxEntities minConfidence).visited ∧
        rank id ≤ m := fun hm hwalk =>
    hranked.visits trivial exhausted_traverse (picksAll_last huncut) hroom hm hwalk
  refine ⟨fun id => ?_, ?_, fun r => ?_⟩
  · rw [mem_entities_ids]
    refine ⟨fun h => hvisited_ball h.2, fun h => ?_⟩
    obtain ⟨m, hm, hwalk⟩ := (hball id).mp h
    refine ⟨?_, (hvisits hm hwalk).1⟩
    by_cases hzero : m = 0
    · subst hzero
      cases hwalk with
      | seed hid => exact hstored id (List.mem_toFinset.mp hid)
    · exact walk_stored (fun r hr => (mem_qualifyingRelationships.mp hr).1) hwalk hzero
  · rw [matchedEntities_ids, hseeds, List.filter_eq_self]
    intro id hid
    rw [decide_eq_true_eq, mem_visitedEntities_ids]
    exact ⟨hstored id hid, hranked.seeds_sub (List.mem_toFinset.mpr hid)⟩
  · rw [mem_relationships]
    constructor
    · intro hr
      obtain ⟨id, htouches, hlt⟩ := hranked.touched r hr
      obtain ⟨other, hjoins⟩ := htouches.joins
      have hwalk := (hranked.walk id (hranked.joins_mem hr hjoins).1).mono hqualify
      exact ⟨hqualify r hr, id, htouches, rank id, by omega, hwalk⟩
    · rintro ⟨hr, id, htouches, m, hm, hwalk⟩
      obtain ⟨hid, hrank⟩ := hvisits hm.le hwalk
      exact hranked.taken trivial exhausted_traverse (picksAll_last huncut) hroom hr hid htouches
        hm hrank hwalk

/-- A walk from the first entity of the sample ends at one of the two. -/
theorem mutual_walk_ends {n : ℕ} {id : UUID} (h : relationshipGraph.Walk
    (mutualStore.qualifyingRelationships 0) [0].toFinset n id) :
    id ∈ ({0, 1} : Finset UUID) := by
  have hends : ∀ r ∈ mutualStore.qualifyingRelationships 0,
      r.sourceEntityId ∈ ({0, 1} : Finset UUID) ∧ r.targetEntityId ∈ ({0, 1} : Finset UUID) := by
    decide +kernel
  cases h with
  | seed hid => simpa using Or.inl hid
  | step _ hr hjoins =>
    rcases hjoins with ⟨-, rfl⟩ | ⟨rfl, -⟩
    · exact (hends _ hr).2
    · exact (hends _ hr).1

/-- The statement applies to the ball of radius one around one of the two. -/
theorem mutual_neighborhood_eq_ball :
    (∀ id, id ∈ (mutualStore.getNeighborhood [0] 1 2 0).entities.map KnowledgeEntityModel.id ↔
        id ∈ ({0, 1} : Finset UUID)) ∧
      (mutualStore.getNeighborhood [0] 1 2 0).matchedEntities.map KnowledgeEntityModel.id = [0] ∧
      ∀ r, r ∈ (mutualStore.getNeighborhood [0] 1 2 0).relationships ↔
        r ∈ mutualStore.qualifyingRelationships 0 ∧
          ∃ id, relationshipGraph.Touches r id ∧ ∃ m < 1, relationshipGraph.Walk
            (mutualStore.qualifyingRelationships 0) [0].toFinset m id := by
  refine neighborhood_eq_ball mutualStore [0] 1 2 0 (by decide) (by decide) (fun id => ?_)
    (by decide) (by unfold Uncut; decide +kernel)
  constructor
  · intro hid
    have hseed : relationshipGraph.Walk (mutualStore.qualifyingRelationships 0) [0].toFinset 0 0 :=
      .seed (by decide)
    rcases Finset.mem_insert.mp hid with rfl | hid
    · exact ⟨0, Nat.zero_le 1, hseed⟩
    · rw [Finset.mem_singleton.mp hid]
      have hmem : ∃ r ∈ mutualStore.qualifyingRelationships 0,
          r.sourceEntityId = 0 ∧ r.targetEntityId = 1 := by decide +kernel
      obtain ⟨r, hr, hends⟩ := hmem
      exact ⟨1, Nat.le_refl 1, .step hseed hr (.inl hends)⟩
  · rintro ⟨m, -, hwalk⟩
    exact mutual_walk_ends hwalk

end Balls

/-! ## Levels -/

section Depth

variable {store : GraphStore} {seedEntityIds : List UUID} {maxDepth maxEntities : ℕ}
  {minConfidence : ℚ}

/-- A level has been used only if some seed has a qualifying relationship. -/
theorem seed_relationship
    (h : (store.traverse seedEntityIds maxDepth maxEntities minConfidence).depthUsed ≠ 0) :
    ∃ r ∈ store.qualifyingRelationships minConfidence,
      ∃ id ∈ seedSet seedEntityIds maxEntities, relationshipGraph.Touches r id := by
  have hpick : store.selectEdges minConfidence maxEntities (seedSet seedEntityIds maxEntities) ≠
      [] := Multigraph.pick_seeds_ne_nil h
  obtain ⟨r, hr⟩ := List.exists_mem_of_ne_nil _ hpick
  obtain ⟨hmem, id, hid, htouches⟩ := picksAt_selectEdges _ r hr
  exact ⟨r, hmem, id, hid, htouches⟩

/-- A bound on the ranks of the returned entities holds for all that was visited. -/
theorem rank_le_of_entities {rank : UUID → ℕ} {uncut : Prop} {hops : ℕ}
    (hranked : Multigraph.Ranked relationshipGraph maxEntities
      (store.qualifyingRelationships minConfidence) (seedSet seedEntityIds maxEntities) uncut rank
      (store.traverse seedEntityIds maxDepth maxEntities minConfidence))
    (hhops : ∀ id ∈ (store.getNeighborhood seedEntityIds maxDepth maxEntities
      minConfidence).entities.map KnowledgeEntityModel.id, rank id ≤ hops) {id : UUID}
    (hid : id ∈ (store.traverse seedEntityIds maxDepth maxEntities minConfidence).visited) :
    rank id ≤ hops := by
  by_cases hzero : rank id = 0
  · omega
  · have hstored := walk_stored (fun r hr =>
      (mem_qualifyingRelationships.mp (hranked.closed r hr).1).1) (hranked.walk id hid) hzero
    exact hhops id (mem_entities_ids.mpr ⟨hstored, hid⟩)

/-- The result of a search reports the levels of its neighborhood, and so does the retrieval
record. -/
theorem result_depthUsed {traversal : GraphTraversalData} {query : Str} {result : GraphNeighborhood}
    (htraversal : store.traversalData seedEntityIds maxDepth maxEntities minConfidence =
      .ok traversal) (hresult : traversal.toNeighborhood query = .ok result) :
    result.depthUsed =
      (store.getNeighborhood seedEntityIds maxDepth maxEntities minConfidence).depthUsed := by
  unfold GraphTraversalData.toNeighborhood GraphNeighborhood.create at hresult
  split at hresult
  · cases hresult
    unfold traversalData at htraversal
    dsimp only at htraversal
    split at htraversal
    · cases htraversal
      rfl
    · cases htraversal
  · cases hresult

end Depth

section Hops

variable (store : GraphStore) (seedEntityIds : List UUID) (maxDepth maxEntities : ℕ)
  (minConfidence : ℚ)

/-- The number of levels bounds the distances of the returned entities. Unless a level was cut, it
is one more than the largest of these distances, but at most the requested depth, and zero if no
seed has a qualifying relationship. -/
theorem getNeighborhood_levels :
    (∀ e ∈ (store.getNeighborhood seedEntityIds maxDepth maxEntities minConfidence).entities,
        relationshipGraph.Within
          (store.getNeighborhood seedEntityIds maxDepth maxEntities minConfidence).relationships
          (seedSet seedEntityIds maxEntities)
          (store.getNeighborhood seedEntityIds maxDepth maxEntities minConfidence).depthUsed
          e.id) ∧
      (store.Uncut seedEntityIds maxDepth maxEntities minConfidence →
        ∃ hops, relationshipGraph.Farthest
            (store.getNeighborhood seedEntityIds maxDepth maxEntities minConfidence).relationships
            (seedSet seedEntityIds maxEntities)
            ((store.getNeighborhood seedEntityIds maxDepth maxEntities
              minConfidence).entities.map KnowledgeEntityModel.id) hops ∧
          ((∃ r ∈ store.qualifyingRelationships minConfidence,
              ∃ id ∈ seedSet seedEntityIds maxEntities, relationshipGraph.Touches r id) →
            (store.getNeighborhood seedEntityIds maxDepth maxEntities minConfidence).depthUsed =
              min (hops + 1) maxDepth) ∧
          ((¬ ∃ r ∈ store.qualifyingRelationships minConfidence,
              ∃ id ∈ seedSet seedEntityIds maxEntities, relationshipGraph.Touches r id) →
            (store.getNeighborhood seedEntityIds maxDepth maxEntities
              minConfidence).depthUsed = 0)) := by
  have hsame : ∀ r, r ∈ (store.traverse seedEntityIds maxDepth maxEntities minConfidence).kept ↔
      r ∈ (store.getNeighborhood seedEntityIds maxDepth maxEntities minConfidence).relationships :=
    fun r => mem_relationships.symm
  refine ⟨fun e he => ?_, fun huncut => ?_⟩
  · obtain ⟨rank, hranked⟩ := store.ranked_traverse seedEntityIds maxDepth maxEntities minConfidence
      False False.elim
    have hvisited := (mem_entities_ids.mp (List.mem_map_of_mem he)).2
    exact ⟨rank e.id, hranked.rank_le e.id hvisited,
      (hranked.walk e.id hvisited).mono fun r hr => (hsame r).mp hr⟩
  · obtain ⟨rank, hranked⟩ := ranked_of_uncut huncut
    have hdistance : ∀ id ∈ (store.getNeighborhood seedEntityIds maxDepth maxEntities
        minConfidence).entities.map KnowledgeEntityModel.id, relationshipGraph.Distance
        (store.getNeighborhood seedEntityIds maxDepth maxEntities minConfidence).relationships
        (seedSet seedEntityIds maxEntities) id (rank id) := by
      intro id hid
      have hvisited := (mem_entities_ids.mp hid).2
      obtain ⟨hwalk, hleast⟩ := hranked.distance trivial hvisited
      exact ⟨hwalk.mono fun r hr => (hsame r).mp hr,
        fun m hm => hleast m (hm.mono fun r hr => (hsame r).mpr hr)⟩
    obtain ⟨hops, hle, hattained⟩ := Multigraph.exists_largest rank
      ((store.getNeighborhood seedEntityIds maxDepth maxEntities minConfidence).entities.map
        KnowledgeEntityModel.id)
    refine ⟨hops, ⟨fun id hid => ⟨rank id, hle id hid, hdistance id hid⟩, ?_⟩, fun hseed => ?_,
      fun hnone => ?_⟩
    · rcases hattained with hzero | ⟨id, hid, rfl⟩
      · exact .inl hzero
      · exact .inr ⟨id, hid, hdistance id hid⟩
    · refine hranked.depthUsed_eq (store.traverse_depthUsed_le _ _ _ _) exhausted_traverse
        (picksAll_last huncut) hseed (fun id hid => rank_le_of_entities hranked hle hid) ?_
      exact hattained.imp_right fun ⟨id, hid, heq⟩ => ⟨id, (mem_entities_ids.mp hid).2, heq⟩
    · by_contra hused
      exact hnone (seed_relationship hused)

/-- The second level finds nothing but the edges of the first one, and it counts. -/
theorem mutual_depthUsed_exceeds_hops :
    ¬ ∀ (store : GraphStore) (seedEntityIds : List UUID) (maxDepth maxEntities : ℕ)
      (minConfidence : ℚ) (hops : ℕ), relationshipGraph.Farthest
        (store.getNeighborhood seedEntityIds maxDepth maxEntities minConfidence).relationships
        (seedSet seedEntityIds maxEntities)
        ((store.getNeighborhood seedEntityIds maxDepth maxEntities
          minConfidence).entities.map KnowledgeEntityModel.id) hops →
      (store.getNeighborhood seedEntityIds maxDepth maxEntities minConfidence).depthUsed =
        hops := by
  intro h
  have hentities : (mutualStore.getNeighborhood [0] 2 2 0).entities.map KnowledgeEntityModel.id =
      [0, 1] := by decide +kernel
  have hused : (mutualStore.getNeighborhood [0] 2 2 0).depthUsed = 2 := by decide +kernel
  have hmem : ∃ r ∈ (mutualStore.getNeighborhood [0] 2 2 0).relationships,
      r.sourceEntityId = 0 ∧ r.targetEntityId = 1 := by decide +kernel
  obtain ⟨r, hr, hends⟩ := hmem
  have hseed : relationshipGraph.Distance (mutualStore.getNeighborhood [0] 2 2 0).relationships
      (seedSet [0] 2) 0 0 := ⟨.seed (by decide +kernel), fun m _ => Nat.zero_le m⟩
  have hother : relationshipGraph.Distance (mutualStore.getNeighborhood [0] 2 2 0).relationships
      (seedSet [0] 2) 1 1 := by
    refine ⟨.step hseed.1 hr (.inl hends), fun m hwalk => ?_⟩
    by_contra hzero
    obtain rfl : m = 0 := by omega
    cases hwalk with
    | seed hid => exact absurd hid (by decide +kernel)
  have hfarthest := h mutualStore [0] 2 2 0 1
  rw [hentities, hused] at hfarthest
  refine absurd (hfarthest ⟨fun id hid => ?_, .inr ⟨1, by decide, hother⟩⟩) (by decide)
  rcases List.mem_cons.mp hid with rfl | hid
  · exact ⟨0, by decide, hseed⟩
  · rw [List.mem_singleton.mp hid]
    exact ⟨1, Nat.le_refl 1, hother⟩

end Hops

end GraphStore

end AssessmentPlatform
