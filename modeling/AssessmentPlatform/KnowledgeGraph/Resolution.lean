import AssessmentPlatform.KnowledgeGraph.Neighborhood
import AssessmentPlatform.KnowledgeGraph.Upserts
import AssessmentPlatform.Library.Text

/-!
# Entity resolution

`find_matching_query`: the stored entities whose names occur in a query as whole terms. The
database offers a bounded number of candidates, in the order of its collation; the match and the
ranking of the matches are done in the application. The character class of words is a parameter.
-/

namespace AssessmentPlatform

open Library

/-- The entity is of one of the requested types; no types request all. -/
def KnowledgeEntityModel.Requested (entityTypes : Option (List KnowledgeEntityType))
    (e : KnowledgeEntityModel) : Prop :=
  ∀ types ∈ entityTypes, types = [] ∨ e.entityType ∈ types

instance (entityTypes : Option (List KnowledgeEntityType)) :
    DecidablePred (KnowledgeEntityModel.Requested entityTypes) :=
  fun e => match entityTypes with
    | none => isTrue nofun
    | some types => decidable_of_iff (types = [] ∨ e.entityType ∈ types) (by
        simp [KnowledgeEntityModel.Requested])

/-- The ranking of matches: longer names first, then by identifier. -/
def longerFirst : KnowledgeEntityModel → KnowledgeEntityModel → Prop :=
  byThen (fun e => -(e.normalizedName.length : ℤ)) KnowledgeEntityModel.id

instance : DecidableRel longerFirst := inferInstanceAs (DecidableRel (byThen _ _))

instance : Std.Total longerFirst := inferInstanceAs (Std.Total (byThen _ _))

instance : IsTrans KnowledgeEntityModel longerFirst := inferInstanceAs (IsTrans _ (byThen _ _))

namespace GraphStore

variable (store : GraphStore)

/-- The order of entities by name and identifier. -/
def byName : KnowledgeEntityModel → KnowledgeEntityModel → Prop :=
  byThen (fun e => store.sortKey e.normalizedName) KnowledgeEntityModel.id

instance : DecidableRel store.byName := inferInstanceAs (DecidableRel (byThen _ _))

instance : Std.Total store.byName := inferInstanceAs (Std.Total (byThen _ _))

instance : IsTrans KnowledgeEntityModel store.byName := inferInstanceAs (IsTrans _ (byThen _ _))

/-- The size of the candidate scan. -/
def scanLimit (limit : ℕ) : ℕ := max 100 (limit * 50)

/-- The bounded candidate scan. -/
def candidates (limit : ℕ) (entityTypes : Option (List KnowledgeEntityType)) :
    List KnowledgeEntityModel :=
  ((store.graph.entities.filter (KnowledgeEntityModel.Requested entityTypes)).insertionSort
    store.byName).take (scanLimit limit)

section Queries

variable (unicode : Unicode) (word : CodePoint → Bool) (query : Str) (limit : ℕ)
  (entityTypes : Option (List KnowledgeEntityType))

/-- `find_matching_query`. -/
def findMatchingQuery : List KnowledgeEntityModel :=
  let normalizedQuery := unicode.normalizeEntityName query
  if normalizedQuery = [] then []
  else
    (((store.candidates limit entityTypes).filter fun model =>
      searchWhole word model.normalizedName none normalizedQuery).insertionSort longerFirst).take
        limit

/-- The query names the entity: the name occurs in the normalized query as a whole term. -/
def Names (e : KnowledgeEntityModel) : Prop :=
  unicode.normalizeEntityName query ≠ [] ∧
    OccursWhole word e.normalizedName (unicode.normalizeEntityName query)

/-! ## What a query finds -/

/-- The stored entities are distinct. -/
theorem nodup_entities : store.graph.entities.Nodup := store.entity_ids.of_map _

/-- The candidates come first by name among the entities of the requested types. -/
theorem firstBy_candidates :
    FirstBy store.byName (scanLimit limit)
      {e | e ∈ store.graph.entities ∧ e.Requested entityTypes}
      (store.candidates limit entityTypes) := by
  refine (firstBy_sort (store.nodup_entities.filter _)).congr fun e => ?_
  simp

/-- The matches come first by length among the candidates that the query names. -/
theorem firstBy_findMatchingQuery :
    FirstBy longerFirst limit
      {e | e ∈ store.candidates limit entityTypes ∧ Names unicode word query e}
      (store.findMatchingQuery unicode word query limit entityTypes) := by
  unfold findMatchingQuery
  dsimp only
  split
  · rename_i hempty
    refine ⟨List.Pairwise.nil, List.nodup_nil, List.forall_mem_nil _, Nat.zero_le _,
      fun e he => ?_⟩
    exact absurd hempty he.2.1
  · rename_i hquery
    have hnodup := (store.firstBy_candidates limit entityTypes).nodup
    refine (firstBy_sort (hnodup.filter _)).congr fun e => ?_
    rw [Set.mem_ofPred_eq, List.mem_filter, searchWhole_none_iff]
    simp [Names, hquery]

/-- If the candidate scan reaches all entities of the requested types, then the matches come first
among all of them. -/
theorem firstBy_findMatchingQuery_all
    (hscan : (store.graph.entities.filter (KnowledgeEntityModel.Requested entityTypes)).length ≤
      scanLimit limit) :
    FirstBy longerFirst limit
      {e | e ∈ store.graph.entities ∧ e.Requested entityTypes ∧ Names unicode word query e}
      (store.findMatchingQuery unicode word query limit entityTypes) := by
  refine (store.firstBy_findMatchingQuery unicode word query limit entityTypes).congr fun e => ?_
  have hmem := (store.firstBy_candidates limit entityTypes).mem_iff (x := e)
    (fun e he => List.mem_filter.mpr ⟨he.1, decide_eq_true he.2⟩) hscan
  rw [Set.mem_ofPred_eq, Set.mem_ofPred_eq, hmem, Set.mem_ofPred_eq, and_assoc]

/-- A query finds the first matches by length among the candidates, which are the first entities
of the requested types by name. If the scan reaches all of these, the matches come first among all
entities. -/
theorem matches_first_among_candidates :
    FirstBy store.byName (max 100 (limit * 50))
        {e | e ∈ store.graph.entities ∧ e.Requested entityTypes}
        (store.candidates limit entityTypes) ∧
      FirstBy longerFirst limit
        {e | e ∈ store.candidates limit entityTypes ∧ Names unicode word query e}
        (store.findMatchingQuery unicode word query limit entityTypes) ∧
      ((store.graph.entities.filter (KnowledgeEntityModel.Requested entityTypes)).length ≤
          max 100 (limit * 50) →
        FirstBy longerFirst limit
          {e | e ∈ store.graph.entities ∧ e.Requested entityTypes ∧ Names unicode word query e}
          (store.findMatchingQuery unicode word query limit entityTypes)) :=
  ⟨store.firstBy_candidates limit entityTypes,
    store.firstBy_findMatchingQuery unicode word query limit entityTypes,
    store.firstBy_findMatchingQuery_all unicode word query limit entityTypes⟩

end Queries

/-! ## A match behind the candidates -/

/-- An entity with nothing but a name. -/
def namedEntity (id : UUID) (name : Str) : KnowledgeEntityModel where
  id := id
  entityType := .system
  canonicalName := name
  normalizedName := name
  description := none
  createdAt := 0
  updatedAt := 0

/-- A hundred entities, and another one that comes behind them by name. -/
def crowdedStore : GraphStore where
  knowledge := {}
  graph :=
    { entities := namedEntity 100 "sap" ::
        (List.range 100).map fun n => namedEntity n ("erp " ++ Str.decimal n) }
  document_ids := List.nodup_nil
  chunk_ids := List.nodup_nil
  entity_ids := by decide +kernel
  mention_ids := List.nodup_nil
  relationship_ids := List.nodup_nil
  chunk_document := nofun
  mention_entity := nofun
  mention_chunk := nofun
  relationship_source := nofun
  relationship_target := nofun
  relationship_chunk := nofun
  relationship_confidence := nofun

/-- Unicode functions that keep texts of lower-case letters. -/
def lowerCaseUnicode : Unicode where
  nfkc := id
  casefold := id

/-- The word characters of such texts. -/
def lowerCaseWord (c : CodePoint) : Bool :=
  (48 ≤ c.val && c.val ≤ 57) || (97 ≤ c.val && c.val ≤ 122)

/-- With a larger limit the scan reaches all entities. -/
theorem crowded_match_first :
    FirstBy longerFirst 3
        {e | e ∈ crowdedStore.graph.entities ∧ e.Requested none ∧
          Names lowerCaseUnicode lowerCaseWord "sap" e}
        (crowdedStore.findMatchingQuery lowerCaseUnicode lowerCaseWord "sap" 3 none) ∧
      (crowdedStore.findMatchingQuery lowerCaseUnicode lowerCaseWord "sap" 3 none).map
        KnowledgeEntityModel.id = [100] :=
  ⟨(matches_first_among_candidates crowdedStore lowerCaseUnicode lowerCaseWord "sap" 3 none).2.2
    (by decide +kernel), by decide +kernel⟩

/-- A match behind the scan of a crowded store is missed. -/
theorem crowded_match_missed :
    ¬ ∀ (store : GraphStore) (unicode : Unicode) (word : CodePoint → Bool) (query : Str)
      (limit : ℕ) (entityTypes : Option (List KnowledgeEntityType)), 1 ≤ limit →
      FirstBy longerFirst limit
        {e | e ∈ store.graph.entities ∧ e.Requested entityTypes ∧ Names unicode word query e}
        (store.findMatchingQuery unicode word query limit entityTypes) := by
  intro h
  have hfirst := h crowdedStore lowerCaseUnicode lowerCaseWord "sap" 1 none (Nat.le_refl 1)
  have hnone : crowdedStore.findMatchingQuery lowerCaseUnicode lowerCaseWord "sap" 1 none = [] := by
    decide +kernel
  have hnames : Names lowerCaseUnicode lowerCaseWord "sap" (namedEntity 100 "sap") := by
    refine ⟨by decide +kernel, searchWhole_none_iff.mp (by decide +kernel)⟩
  rw [hnone] at hfirst
  have hlength := (hfirst.rest (namedEntity 100 "sap")
    ⟨List.mem_cons_self, nofun, hnames⟩ List.not_mem_nil).1
  exact absurd hlength (by decide)

end GraphStore

end AssessmentPlatform
