import AssessmentPlatform.KnowledgeGraph.Invariants

/-!
# The references of the knowledge graph

A mention refers to an entity and to a chunk of its document, and a relationship refers to two
entities and to a chunk. Enrichment checks them before it adds a row and never takes a row away, so
they stay in every graph that it commits, also when documents have been added in between.
-/

namespace AssessmentPlatform

open Library

/-- What the rows of the graph refer to is there. -/
structure KnowledgeGraph.Grounded (graph : KnowledgeGraph) (store : KnowledgeStore) : Prop where
  mentions : ∀ mention ∈ graph.mentions,
    mention.entityId ∈ graph.entities.map KnowledgeEntityModel.id ∧
      ∃ chunk ∈ store.chunks, chunk.chunkId = mention.chunkId ∧
        chunk.documentId = mention.documentId
  relationships : ∀ relationship ∈ graph.relationships,
    relationship.sourceEntityId ∈ graph.entities.map KnowledgeEntityModel.id ∧
      relationship.targetEntityId ∈ graph.entities.map KnowledgeEntityModel.id ∧
      relationship.sourceChunkId ∈ store.chunks.map KnowledgeChunkRecord.chunkId

/-- The empty graph is grounded. -/
theorem KnowledgeGraph.grounded_empty (store : KnowledgeStore) :
    KnowledgeGraph.Grounded {} store :=
  ⟨List.forall_mem_nil _, List.forall_mem_nil _⟩

section Rows

variable {graph graph' : KnowledgeGraph} {store store' : KnowledgeStore}

/-- References stay when entities and chunks are added. -/
theorem KnowledgeGraph.Grounded.grows (h : graph.Grounded store)
    (hentities : graph.entities.map KnowledgeEntityModel.id ⊆
      graph'.entities.map KnowledgeEntityModel.id)
    (hmentions : graph'.mentions = graph.mentions)
    (hrelationships : graph'.relationships = graph.relationships)
    (hchunks : store.chunks ⊆ store'.chunks) : graph'.Grounded store' where
  mentions mention hmention := by
    rw [hmentions] at hmention
    obtain ⟨hentity, chunk, hchunk, hids⟩ := h.mentions mention hmention
    exact ⟨hentities hentity, chunk, hchunks hchunk, hids⟩
  relationships relationship hrelationship := by
    rw [hrelationships] at hrelationship
    obtain ⟨hsource, htarget, hchunk⟩ := h.relationships relationship hrelationship
    exact ⟨hentities hsource, hentities htarget, List.map_subset _ hchunks hchunk⟩

/-- A grounded graph stays grounded when chunks are added. -/
theorem KnowledgeGraph.Grounded.more_chunks (h : graph.Grounded store)
    (hchunks : store.chunks ⊆ store'.chunks) : graph.Grounded store' :=
  h.grows (List.Subset.refl _) rfl rfl hchunks

/-- A description does not change the identifiers. -/
theorem describe_ids (graph : KnowledgeGraph) (id : UUID) (description : Option Str)
    (updatedAt : Time) :
    (graph.describe id description updatedAt).entities.map KnowledgeEntityModel.id =
      graph.entities.map KnowledgeEntityModel.id := by
  rw [KnowledgeGraph.describe, List.map_map]
  refine List.map_congr_left fun m _ => ?_
  dsimp only [Function.comp]
  split <;> rfl

/-- No entity goes away. -/
theorem UpsertEffect.ids_subset {key : KnowledgeEntityType × Str} {description : Option Str}
    {model : KnowledgeEntityModel} (h : UpsertEffect key description graph model graph') :
    graph.entities.map KnowledgeEntityModel.id ⊆
        graph'.entities.map KnowledgeEntityModel.id ∧
      graph'.mentions = graph.mentions ∧ graph'.relationships = graph.relationships := by
  cases h with
  | found => exact ⟨List.Subset.refl _, rfl, rfl⟩
  | @described model updatedAt =>
    refine ⟨?_, rfl, rfl⟩
    rw [describe_ids]
    exact List.Subset.refl _
  | added hnew hkey =>
    refine ⟨?_, rfl, rfl⟩
    rw [KnowledgeGraph.addEntity, List.map_append]
    exact List.subset_append_left _ _

end Rows

/-! ## Sessions -/

/-- A program that keeps the references of the working copy. -/
def Grounds {α : Type} (store : KnowledgeStore) (x : GraphSession α) : Prop :=
  Prog.Keeps (fun s : GraphDb => s.working.Grounded store) x

section Sessions

variable {unicode : Unicode} {store : KnowledgeStore} {env : GraphEnv}

/-- A statement keeps the graph grounded. -/
theorem grounds_step (step : GraphStep) : Grounds store (graphStep env step) := by
  refine keeps_of_acts (KnowledgeGraph.Grounded · store) (fun g => reads_step_only step) ?_
  rintro g _ _ ⟨rfl, -⟩ h
  exact h

/-- `upsert_entity` keeps the graph grounded. -/
theorem grounds_upsertEntity (entityType : KnowledgeEntityType) (canonicalName : Str)
    (description : Option Str) :
    Grounds store (upsertEntity unicode env entityType canonicalName description) := by
  refine keeps_of_acts (KnowledgeGraph.Grounded · store)
    (fun _ => acts_upsertEntity entityType canonicalName description) ?_
  rintro g model g' ⟨-, heffect⟩ h
  obtain ⟨hentities, hmentions, hrelationships⟩ := heffect.ids_subset
  exact h.grows hentities hmentions hrelationships (List.Subset.refl _)

/-- A mention is added for an entity and a chunk of the document that are there. -/
theorem acts_addMention_grounded {graph : KnowledgeGraph} (entityId documentId chunkId : UUID)
    (mentionText : Str) (confidence : ℚ) (source : KnowledgeChunkRecord) :
    Acts env graph
      (addMention unicode store env entityId documentId chunkId mentionText confidence source)
      (fun _ graph' => graph.Grounded store → graph'.Grounded store) (fun _ => True) := by
  refine Reads.bind (reads_require fun _ => trivial) fun _ _ => (reads_step _).bind fun _ _ =>
    reads_get.bind fun db hdb => ?_
  rw [hdb]
  refine Reads.bind (reads_require fun _ => trivial) fun _ hentity => (reads_step _).bind
    fun _ _ => ?_
  refine Reads.bind (reads_require fun _ => trivial) fun _ hchunk => (reads_step _).bind
    fun _ _ => reads_get.bind fun db' hdb' => ?_
  rw [hdb']
  split
  · refine reads_uuid4.bind fun id _ => reads_now.bind fun createdAt _ => ?_
    refine (reads_step _).bind fun _ _ => acts_modify fun h => ⟨?_, h.relationships⟩
    intro mention hmention
    rcases List.mem_append.mp hmention with hmention | hmention
    · exact h.mentions mention hmention
    · rw [List.mem_singleton.mp hmention]
      obtain ⟨chunk, hfound, howner⟩ := Option.map_eq_some_iff.mp hchunk
      obtain ⟨hmem, hkey⟩ := getBy_mem hfound
      exact ⟨hentity, chunk, hmem, hkey, howner⟩
  · exact acts_pure id

/-- `add_mention` keeps the graph grounded. -/
theorem grounds_addMention (entityId documentId chunkId : UUID) (mentionText : Str)
    (confidence : ℚ) (source : KnowledgeChunkRecord) :
    Grounds store
      (addMention unicode store env entityId documentId chunkId mentionText confidence source) :=
  keeps_of_acts (KnowledgeGraph.Grounded · store)
    (fun _ => acts_addMention_grounded entityId documentId chunkId mentionText confidence source)
    fun _ _ _ h => h

/-- `add_relationship` keeps the graph grounded. -/
theorem grounds_addRelationship (sourceEntityId targetEntityId : UUID)
    (relationshipType : KnowledgeRelationshipType) (description : Option Str) (confidence : ℚ)
    (sourceChunkId : UUID) :
    Grounds store (addRelationship store env sourceEntityId targetEntityId relationshipType
      description confidence sourceChunkId) := by
  refine keeps_of_acts (KnowledgeGraph.Grounded · store)
    (fun _ => acts_addRelationship sourceEntityId targetEntityId relationshipType description
      confidence sourceChunkId) ?_
  rintro g model _ ⟨hallowed, relationships, rfl, hadded⟩ h
  refine ⟨h.mentions, ?_⟩
  cases hadded with
  | found => exact h.relationships
  | added hnew hkey =>
    intro relationship hrelationship
    rcases List.mem_append.mp hrelationship with hrelationship | hrelationship
    · exact h.relationships relationship hrelationship
    · rw [List.mem_singleton.mp hrelationship]
      simp only [KnowledgeRelationshipModel.key, Prod.mk.injEq] at hkey
      obtain ⟨hsource, htarget, -, hchunk⟩ := hkey
      rw [hsource, htarget, hchunk]
      exact ⟨hallowed.source_mem, hallowed.target_mem, hallowed.chunk_mem⟩

/-- The repository keeps the references. -/
theorem repositoryKeeps_grounded :
    RepositoryKeeps unicode store env (fun s => s.working.Grounded store) where
  step := grounds_step
  upsertEntity := grounds_upsertEntity
  addMention := grounds_addMention
  addRelationship := grounds_addRelationship

end Sessions

/-- The committed graph refers to what is there after every enrichment. -/
theorem KnowledgeGraphEnrichmentService.enrichGraph_grounded
    {service : KnowledgeGraphEnrichmentService} {store : KnowledgeStore} {env : GraphEnv}
    {documentId : UUID} {graph : KnowledgeGraph} (h : graph.Grounded store) :
    (service.enrichGraph env store documentId graph).2.Grounded store :=
  repositoryKeeps_grounded.enrichGraph (KnowledgeGraph.Grounded · store) h (fun _ hs => hs) h

end AssessmentPlatform
