import AssessmentPlatform.KnowledgeGraph.Invariants

/-!
# What an enrichment counts

An enrichment returns the numbers of the entities and of the relationships that it has collected.
Each of them is the row of an extraction from a chunk of the document, an entity that the chunk
mentions or a relationship with this source, and no extraction is without a row. Rows stay, so the
numbers stay right when the tables grow.
-/

namespace AssessmentPlatform

open Library

/-- What has been collected of some items: a row of each, and nothing else. -/
structure Collects {α : Type} (row : α → UUID → Prop) (items : α → Prop) (ids : Finset UUID) :
    Prop where
  total : ∀ item, items item → ∃ id ∈ ids, row item id
  sound : ∀ id ∈ ids, ∃ item, items item ∧ row item id

section Collects

variable {α : Type} {row row' : α → UUID → Prop} {items items' : α → Prop} {ids : Finset UUID}

/-- Of no items nothing is collected. -/
theorem collects_empty (hitems : ∀ item, ¬ items item) : Collects row items ∅ :=
  ⟨fun item h => absurd h (hitems item), fun _ h => absurd h (Finset.notMem_empty _)⟩

/-- Rows that stay have been collected for good. -/
theorem Collects.mono (h : Collects row items ids) (hrow : ∀ item id, row item id → row' item id) :
    Collects row' items ids where
  total item hitem := by
    obtain ⟨id, hid, hrow'⟩ := h.total item hitem
    exact ⟨id, hid, hrow item id hrow'⟩
  sound id hid := by
    obtain ⟨item, hitem, hrow'⟩ := h.sound id hid
    exact ⟨item, hitem, hrow item id hrow'⟩

/-- The items may be described in another way. -/
theorem Collects.congr (h : Collects row items ids) (hitems : ∀ item, items item ↔ items' item) :
    Collects row items' ids := by
  rwa [show items' = items from funext fun item => propext (hitems item).symm]

/-- The row of another item is collected. -/
theorem Collects.insert {item : α} {id : UUID} (h : Collects row items ids) (hrow : row item id) :
    Collects row (fun other => items other ∨ other = item) (insert id ids) where
  total other hother := by
    rcases hother with hother | rfl
    · obtain ⟨id', hid', hrow'⟩ := h.total other hother
      exact ⟨id', Finset.mem_insert_of_mem hid', hrow'⟩
    · exact ⟨id, Finset.mem_insert_self id ids, hrow⟩
  sound id' hid' := by
    rcases Finset.mem_insert.mp hid' with rfl | hid'
    · exact ⟨item, .inr rfl, hrow⟩
    · obtain ⟨other, hother, hrow'⟩ := h.sound id' hid'
      exact ⟨other, .inl hother, hrow'⟩

end Collects

/-- The identifier under which an extracted entity is stored. -/
def Unicode.Names (unicode : Unicode) (graph : KnowledgeGraph) (entity : ExtractedEntity)
    (id : UUID) : Prop :=
  (getBy KnowledgeEntityModel.key (unicode.entityKey entity.entityType entity.canonicalName)
    graph.entities).map KnowledgeEntityModel.id = some id

/-- A name stays when the tables grow. -/
theorem Unicode.Names.grows {unicode : Unicode} {graph graph' : KnowledgeGraph}
    {entity : ExtractedEntity} {id : UUID} (h : unicode.Names graph entity id)
    (hgrows : graph.Grows graph') : unicode.Names graph' entity id := by
  obtain ⟨model, hmodel, hid⟩ := Option.map_eq_some_iff.mp h
  obtain ⟨model', hmodel', hid', -⟩ := hgrows.entity _ model hmodel
  exact Option.map_eq_some_iff.mpr ⟨model', hmodel', hid'.trans hid⟩

/-- The entity of a key has a name after it has been looked for. -/
theorem UpsertEffect.names {unicode : Unicode} {graph graph' : KnowledgeGraph}
    {entity : ExtractedEntity} {model : KnowledgeEntityModel}
    (h : UpsertEffect (unicode.entityKey entity.entityType entity.canonicalName)
      entity.description graph model graph') : unicode.Names graph' entity model.id := by
  obtain ⟨model', hmodel', hid, -⟩ := h.resolved
  exact Option.map_eq_some_iff.mpr ⟨model', hmodel', hid⟩

namespace KnowledgeGraphEnrichmentService

variable {service : KnowledgeGraphEnrichmentService} {store : KnowledgeStore} {env : GraphEnv}
  {documentId : UUID} {graph graph' : KnowledgeGraph}

/-! ## Extractions and their rows -/

/-- An entity is extracted from one of some chunks. -/
def Extracts (service : KnowledgeGraphEnrichmentService) (chunks : List KnowledgeChunkRecord)
    (item : KnowledgeChunkRecord × ExtractedEntity) : Prop :=
  item.1 ∈ chunks ∧ ∃ extracted,
    service.extractEntities item.1.chunkId item.1.content = .ok extracted ∧
      item.2 ∈ extracted.entities

/-- A relationship is extracted from one of some chunks, after its entities. -/
def Relates (service : KnowledgeGraphEnrichmentService) (chunks : List KnowledgeChunkRecord)
    (item : KnowledgeChunkRecord × ExtractedRelationship) : Prop :=
  item.1 ∈ chunks ∧ ∃ extracted relationships,
    service.extractEntities item.1.chunkId item.1.content = .ok extracted ∧
      service.extractRelationships item.1.chunkId item.1.content extracted.entities =
        .ok relationships ∧
      item.2 ∈ relationships.relationships

/-- The row of an extracted entity, which is mentioned in the chunk. -/
structure EntityRow (service : KnowledgeGraphEnrichmentService) (graph : KnowledgeGraph)
    (item : KnowledgeChunkRecord × ExtractedEntity) (id : UUID) : Prop where
  names : service.unicode.Names graph item.2 id
  mentioned : (id, item.1.chunkId) ∈ graph.mentions.map KnowledgeEntityMentionModel.key

/-- The row of an extracted relationship. It joins the entities that have been extracted under the
two local keys and has the chunk as its source. -/
def RelationshipRow (service : KnowledgeGraphEnrichmentService) (graph : KnowledgeGraph)
    (item : KnowledgeChunkRecord × ExtractedRelationship) (id : UUID) : Prop :=
  ∃ source target sourceId targetId model,
    service.Extracts [item.1] (item.1, source) ∧ service.Extracts [item.1] (item.1, target) ∧
      source.localKey = item.2.sourceEntityKey ∧ target.localKey = item.2.targetEntityKey ∧
      service.unicode.Names graph source sourceId ∧ service.unicode.Names graph target targetId ∧
      getBy KnowledgeRelationshipModel.key
        (sourceId, targetId, item.2.relationshipType, item.1.chunkId) graph.relationships =
          some model ∧
      model.id = id

/-- The row of an entity stays in a graph that grows. -/
theorem EntityRow.grows {item : KnowledgeChunkRecord × ExtractedEntity} {id : UUID}
    (h : service.EntityRow graph item id) (hgrows : graph.Grows graph') :
    service.EntityRow graph' item id :=
  ⟨h.names.grows hgrows, List.map_subset _ hgrows.mentions.subset h.mentioned⟩

/-- The row of a relationship stays in a graph that grows. -/
theorem RelationshipRow.grows {item : KnowledgeChunkRecord × ExtractedRelationship} {id : UUID}
    (h : service.RelationshipRow graph item id) (hgrows : graph.Grows graph') :
    service.RelationshipRow graph' item id := by
  obtain ⟨source, target, sourceId, targetId, model, hsource, htarget, hsourceKey, htargetKey,
    hsourceId, htargetId, hmodel, hid⟩ := h
  exact ⟨source, target, sourceId, targetId, model, hsource, htarget, hsourceKey, htargetKey,
    hsourceId.grows hgrows, htargetId.grows hgrows,
    getBy_of_extends hgrows.relationships hmodel, hid⟩

/-- What is extracted from one more chunk. -/
theorem extracts_concat {chunks : List KnowledgeChunkRecord} {chunk : KnowledgeChunkRecord}
    {extracted : EntityExtractionResult}
    (h : service.extractEntities chunk.chunkId chunk.content = .ok extracted)
    (item : KnowledgeChunkRecord × ExtractedEntity) :
    service.Extracts (chunks ++ [chunk]) item ↔
      service.Extracts chunks item ∨ item.1 = chunk ∧ item.2 ∈ extracted.entities := by
  obtain ⟨other, entity⟩ := item
  simp only [Extracts, List.mem_append, List.mem_singleton, or_and_right]
  refine or_congr_right (and_congr_right ?_)
  rintro rfl
  simp [h]

/-- The relationships of one more chunk are those that are extracted from it. -/
theorem relates_concat {chunks : List KnowledgeChunkRecord} {chunk : KnowledgeChunkRecord}
    {extracted : EntityExtractionResult} {relationships : RelationshipExtractionResult}
    (h : service.extractEntities chunk.chunkId chunk.content = .ok extracted)
    (hrelationships : service.extractRelationships chunk.chunkId chunk.content extracted.entities =
      .ok relationships) (item : KnowledgeChunkRecord × ExtractedRelationship) :
    service.Relates (chunks ++ [chunk]) item ↔
      service.Relates chunks item ∨ item.1 = chunk ∧ item.2 ∈ relationships.relationships := by
  obtain ⟨other, relationship⟩ := item
  simp only [Relates, List.mem_append, List.mem_singleton, or_and_right]
  refine or_congr_right (and_congr_right ?_)
  rintro rfl
  simp [h, hrelationships]

/-! ## The loops -/

/-- The rows of some chunks have been collected. -/
structure Tally (service : KnowledgeGraphEnrichmentService) (chunks : List KnowledgeChunkRecord)
    (state : EnrichmentState) (graph : KnowledgeGraph) : Prop where
  entityIds : Collects (service.EntityRow graph) (service.Extracts chunks) state.entityIds
  relationshipIds : Collects (service.RelationshipRow graph) (service.Relates chunks)
    state.relationshipIds

/-- The rows of some chunks have been collected, and those of some extractions from the next one,
whose entities are resolved under their local keys. -/
structure ChunkTally (service : KnowledgeGraphEnrichmentService)
    (chunks : List KnowledgeChunkRecord) (chunk : KnowledgeChunkRecord)
    (entities : List ExtractedEntity) (relationships : List ExtractedRelationship)
    (resolved : List (Str × KnowledgeEntityModel)) (state : EnrichmentState)
    (graph : KnowledgeGraph) : Prop where
  entityIds : Collects (service.EntityRow graph)
    (fun item => service.Extracts chunks item ∨ item.1 = chunk ∧ item.2 ∈ entities)
    state.entityIds
  relationshipIds : Collects (service.RelationshipRow graph)
    (fun item => service.Relates chunks item ∨ item.1 = chunk ∧ item.2 ∈ relationships)
    state.relationshipIds
  resolved : ∀ entry ∈ resolved, ∃ entity ∈ entities,
    entity.localKey = entry.1 ∧ service.unicode.Names graph entity entry.2.id

section Loops

variable {chunks : List KnowledgeChunkRecord} {chunk : KnowledgeChunkRecord}
  {entities : List ExtractedEntity} {relationships : List ExtractedRelationship}
  {resolved : List (Str × KnowledgeEntityModel)} {state : EnrichmentState}

/-- Before the first chunk, nothing is counted. -/
theorem tally_nil (service : KnowledgeGraphEnrichmentService) (graph : KnowledgeGraph) :
    service.Tally [] {} graph :=
  ⟨collects_empty fun _ h => absurd h.1 List.not_mem_nil,
    collects_empty fun _ h => absurd h.1 List.not_mem_nil⟩

/-- The counts of a chunk stay those of a graph that grows. -/
theorem ChunkTally.grows
    (h : service.ChunkTally chunks chunk entities relationships resolved state graph)
    (hgrows : graph.Grows graph') :
    service.ChunkTally chunks chunk entities relationships resolved state graph' where
  entityIds := h.entityIds.mono fun _ _ hrow => hrow.grows hgrows
  relationshipIds := h.relationshipIds.mono fun _ _ hrow => hrow.grows hgrows
  resolved entry hentry := by
    obtain ⟨entity, hentity, hkey, hnames⟩ := h.resolved entry hentry
    exact ⟨entity, hentity, hkey, hnames.grows hgrows⟩

/-- A chunk from which nothing has been extracted yet. -/
theorem Tally.next (h : service.Tally chunks state graph) (chunk : KnowledgeChunkRecord) :
    service.ChunkTally chunks chunk [] [] [] state graph where
  entityIds := h.entityIds.congr fun _ => by simp
  relationshipIds := h.relationshipIds.congr fun _ => by simp
  resolved := List.forall_mem_nil _

/-- The row of another entity. -/
theorem ChunkTally.addEntity {entity : ExtractedEntity} {model : KnowledgeEntityModel}
    (h : service.ChunkTally chunks chunk entities relationships resolved state graph)
    (hrow : service.EntityRow graph (chunk, entity) model.id) :
    service.ChunkTally chunks chunk (entities ++ [entity]) relationships
      ((entity.localKey, model) :: resolved)
      { state with entityIds := insert model.id state.entityIds } graph where
  entityIds := by
    refine (h.entityIds.insert hrow).congr fun item => ?_
    obtain ⟨other, entity'⟩ := item
    simp only [List.mem_append, List.mem_singleton, Prod.mk.injEq]
    tauto
  relationshipIds := h.relationshipIds
  resolved := by
    rw [List.forall_mem_cons]
    refine ⟨⟨entity, List.mem_append_right _ List.mem_cons_self, rfl, hrow.names⟩, ?_⟩
    intro entry hentry
    obtain ⟨entity', hentity', hnames⟩ := h.resolved entry hentry
    exact ⟨entity', List.mem_append_left _ hentity', hnames⟩

/-- The row of another relationship. -/
theorem ChunkTally.addRelationship {relationship : ExtractedRelationship} {id : UUID}
    (h : service.ChunkTally chunks chunk entities relationships resolved state graph)
    (hrow : service.RelationshipRow graph (chunk, relationship) id) :
    service.ChunkTally chunks chunk entities (relationships ++ [relationship]) resolved
      { state with relationshipIds := insert id state.relationshipIds } graph where
  entityIds := h.entityIds
  relationshipIds := by
    refine (h.relationshipIds.insert hrow).congr fun item => ?_
    obtain ⟨other, relationship'⟩ := item
    simp only [List.mem_append, List.mem_singleton, Prod.mk.injEq]
    tauto
  resolved := h.resolved

/-- A chunk from which everything has been extracted. -/
theorem ChunkTally.done {extracted : EntityExtractionResult}
    {found : RelationshipExtractionResult}
    (h : service.ChunkTally chunks chunk extracted.entities found.relationships resolved state
      graph)
    (hentities : service.extractEntities chunk.chunkId chunk.content = .ok extracted)
    (hrelationships : service.extractRelationships chunk.chunkId chunk.content extracted.entities =
      .ok found) : service.Tally (chunks ++ [chunk]) state graph where
  entityIds := h.entityIds.congr fun item => (extracts_concat hentities item).symm
  relationshipIds := h.relationshipIds.congr fun item =>
    (relates_concat hentities hrelationships item).symm

/-- The effect of an operation of the repository, wherever it is called. -/
theorem triple_of_acts {α : Type} {x : GraphSession α} {P : KnowledgeGraph → Prop}
    {Q : α → KnowledgeGraph → Prop} {effect : KnowledgeGraph → α → KnowledgeGraph → Prop}
    {rejects : KnowledgeGraph → Failure → Prop} (hx : ∀ g, Acts env g x (effect g) (rejects g))
    (hQ : ∀ g a g', effect g a g' → P g → Q a g') :
    Prog.Triple (fun s : GraphDb => P s.working) x (fun a s => Q a s.working)
      (fun _ _ => True) := by
  intro s hs
  exact (hx s.working s rfl).conseq (fun _ ht => ht) (fun a t ht => hQ _ a _ ht.2 hs)
    (fun _ _ _ => trivial) s rfl

/-- What holds between the entities of a chunk. -/
structure EntityLoop (service : KnowledgeGraphEnrichmentService)
    (chunks : List KnowledgeChunkRecord) (chunk : KnowledgeChunkRecord)
    (relationshipIds : Finset UUID) (entities : List ExtractedEntity) (state : ChunkEntities)
    (graph : KnowledgeGraph) : Prop where
  tally : service.ChunkTally chunks chunk entities [] state.resolvedByKey
    { entityIds := state.entityIds, relationshipIds } graph
  accepted : state.acceptedEntities = entities

/-- The row of an entity is collected. -/
theorem tallies_enrichEntity (relationshipIds : Finset UUID) (state : ChunkEntities)
    (entity : ExtractedEntity) :
    Prog.Triple
      (fun s : GraphDb => service.EntityLoop chunks chunk relationshipIds entities state s.working)
      (service.enrichEntity env store documentId chunk state entity)
      (fun state' s => service.EntityLoop chunks chunk relationshipIds (entities ++ [entity]) state'
        s.working)
      (fun _ _ => True) := by
  refine Prog.Triple.bind (triple_of_acts
    (Q := fun model g => service.EntityLoop chunks chunk relationshipIds entities state g ∧
      service.unicode.Names g entity model.id)
    (fun _ => acts_upsertEntity entity.entityType entity.canonicalName entity.description)
    ?_) fun model => ?_
  · rintro g model g' ⟨-, heffect⟩ ⟨htally, haccepted⟩
    exact ⟨⟨htally.grows heffect.grows, haccepted⟩, heffect.names⟩
  refine Prog.Triple.bind (triple_of_acts
    (P := fun g => service.EntityLoop chunks chunk relationshipIds entities state g ∧
      service.unicode.Names g entity model.id)
    (Q := fun _ g => service.EntityLoop chunks chunk relationshipIds entities state g ∧
      service.EntityRow g (chunk, entity) model.id)
    (fun _ => acts_addMention model.id documentId chunk.chunkId entity.canonicalName
      entity.confidence chunk) ?_) fun _ => ?_
  · rintro g mention _ ⟨-, mentions, rfl, hadded⟩ ⟨⟨htally, haccepted⟩, hnames⟩
    have hgrows := KnowledgeGraph.grows_mentions hadded.isPrefix
    exact ⟨⟨htally.grows hgrows, haccepted⟩, hnames.grows hgrows, hadded.key_mem⟩
  · exact Prog.triple_pure fun s ⟨⟨htally, haccepted⟩, hrow⟩ =>
      ⟨htally.addEntity hrow, by rw [haccepted]⟩

/-- The row of a relationship is collected. -/
theorem tallies_enrichRelationship (relationship : ExtractedRelationship)
    {extracted : EntityExtractionResult}
    (hextracted : service.extractEntities chunk.chunkId chunk.content = .ok extracted) :
    Prog.Triple
      (fun s : GraphDb => service.ChunkTally chunks chunk extracted.entities relationships resolved
        state s.working)
      (enrichRelationship env store chunk resolved state.relationshipIds relationship)
      (fun ids s => service.ChunkTally chunks chunk extracted.entities
        (relationships ++ [relationship]) resolved { state with relationshipIds := ids } s.working)
      (fun _ _ => True) := by
  unfold enrichRelationship
  split
  · rename_i source target hsource htarget
    refine Prog.Triple.bind (triple_of_acts (Q := fun model g =>
      service.ChunkTally chunks chunk extracted.entities relationships resolved state g ∧
        service.RelationshipRow g (chunk, relationship) model.id)
      (fun _ => acts_addRelationship source.id target.id relationship.relationshipType
        relationship.description relationship.confidence chunk.chunkId) ?_) fun model => ?_
    · rintro g model _ ⟨-, rows, rfl, hadded⟩ htally
      have hgrows := KnowledgeGraph.grows_relationships hadded.isPrefix
      refine ⟨htally.grows hgrows, ?_⟩
      obtain ⟨sourceEntity, hsourceEntity, hsourceKey, hsourceId⟩ :=
        htally.resolved _ (mem_of_lookup hsource)
      obtain ⟨targetEntity, htargetEntity, htargetKey, htargetId⟩ :=
        htally.resolved _ (mem_of_lookup htarget)
      exact ⟨sourceEntity, targetEntity, source.id, target.id, model,
        ⟨List.mem_cons_self, extracted, hextracted, hsourceEntity⟩,
        ⟨List.mem_cons_self, extracted, hextracted, htargetEntity⟩, hsourceKey, htargetKey,
        hsourceId.grows hgrows, htargetId.grows hgrows, hadded.getBy_eq, rfl⟩
    · exact Prog.triple_pure fun s ⟨htally, hrow⟩ => htally.addRelationship hrow
  · exact Prog.triple_throw fun _ _ => trivial

/-- What has been extracted is known to the rest. -/
theorem triple_extract {α β : Type} {P : GraphDb → Prop} {Q : β → GraphDb → Prop}
    {r : Except Failure α} {f : α → GraphSession β}
    (hf : ∀ a, r = .ok a → Prog.Triple P (f a) Q (fun _ _ => True)) :
    Prog.Triple P (GraphSession.ofExcept r >>= f) Q (fun _ _ => True) := by
  cases r with
  | ok a =>
    refine Prog.Triple.bind (Q := fun a' s => a' = a ∧ P s)
      (Prog.triple_pure fun _ hs => ⟨rfl, hs⟩) fun a' => ?_
    rintro s ⟨rfl, hs⟩
    exact hf a' rfl s hs
  | error e =>
    exact Prog.Triple.bind (Q := fun _ _ => False) (Prog.triple_throw fun _ _ => trivial)
      fun _ _ hs => hs.elim

/-- A chunk is collected together with the ones before it. -/
theorem tallies_enrichChunk (state : EnrichmentState) :
    Prog.Triple (fun s : GraphDb => service.Tally chunks state s.working)
      (service.enrichChunk env store documentId state chunk)
      (fun state' s => service.Tally (chunks ++ [chunk]) state' s.working) (fun _ _ => True) := by
  refine triple_extract fun extracted hextracted => ?_
  refine Prog.Triple.bind (Q := fun resolved s => service.EntityLoop chunks chunk
    state.relationshipIds extracted.entities resolved s.working) ?_ fun resolved => ?_
  · intro s hs
    exact Prog.Triple.foldlM
      (I := fun done resolved (s : GraphDb) => service.EntityLoop chunks chunk
        state.relationshipIds done resolved s.working)
      (fun done entity resolved _ => tallies_enrichEntity state.relationshipIds resolved entity) []
      { entityIds := state.entityIds } s ⟨hs.next chunk, rfl⟩
  -- the relationships are extracted for the entities that have been accepted, which are all
  rintro s ⟨htally, haccepted⟩
  rw [haccepted]
  refine triple_extract (P := fun s => service.ChunkTally chunks chunk extracted.entities []
    resolved.resolvedByKey
    { entityIds := resolved.entityIds, relationshipIds := state.relationshipIds } s.working)
    (fun found hfound => ?_) s htally
  refine Prog.Triple.bind (Q := fun ids s => service.ChunkTally chunks chunk extracted.entities
    found.relationships resolved.resolvedByKey
    { entityIds := resolved.entityIds, relationshipIds := ids } s.working) ?_ fun ids => ?_
  · exact Prog.Triple.foldlM
      (I := fun done ids (s : GraphDb) => service.ChunkTally chunks chunk extracted.entities done
        resolved.resolvedByKey { entityIds := resolved.entityIds, relationshipIds := ids }
        s.working)
      (fun done relationship ids _ => tallies_enrichRelationship relationship hextracted) []
      state.relationshipIds
  · exact Prog.triple_pure fun s hs => hs.done hextracted hfound

end Loops

/-- All chunks of a document that is stored have been collected. -/
theorem tallies_enrichDocument :
    Prog.Triple (fun _ : GraphDb => True) (service.enrichDocument env store documentId)
      (fun state s => (∃ document ∈ store.documents, document.documentId = documentId) ∧
        service.Tally (store.listByDocument documentId) state s.working)
      (fun _ _ => True) := by
  refine Prog.Triple.bind (Q := fun _ _ => True) (triple_of_acts (P := fun _ => True)
    (fun _ => reads_step_only .getDocument) fun _ _ _ _ _ => trivial) fun _ => ?_
  split
  · exact Prog.triple_throw fun _ _ => trivial
  rename_i hdocument
  refine Prog.Triple.bind (Q := fun _ _ => True) (triple_of_acts (P := fun _ => True)
    (fun _ => reads_step_only .listChunks) fun _ _ _ _ _ => trivial) fun _ => ?_
  have hstored : ∃ document ∈ store.documents, document.documentId = documentId := by
    simpa using hdocument
  intro s _
  refine Prog.Triple.conseq (Prog.Triple.foldlM
    (I := fun done state (s : GraphDb) => service.Tally done state s.working)
    (fun done chunk state _ => tallies_enrichChunk state) [] {}) (fun _ hs => hs)
    (fun _ _ hs => ⟨hstored, hs⟩) (fun _ _ hs => hs) s (service.tally_nil s.working)

/-! ## Enrichments that have returned -/

/-- What an enrichment of a document has returned: the numbers of the rows of what is extracted from
its chunks. -/
structure Counts (service : KnowledgeGraphEnrichmentService) (store : KnowledgeStore)
    (graph : KnowledgeGraph) (documentId : UUID) (result : KnowledgeGraphEnrichmentResult) :
    Prop where
  documentId_eq : result.documentId = documentId
  document_mem : ∃ document ∈ store.documents, document.documentId = documentId
  entityCount_eq : ∃ ids : Finset UUID, result.entityCount = ids.card ∧
    Collects (service.EntityRow graph) (service.Extracts (store.listByDocument documentId)) ids
  relationshipCount_eq : ∃ ids : Finset UUID, result.relationshipCount = ids.card ∧
    Collects (service.RelationshipRow graph) (service.Relates (store.listByDocument documentId)) ids

/-- The numbers that an enrichment returns are those of the rows in the graph that it commits. -/
theorem enrichGraph_counts {result : KnowledgeGraphEnrichmentResult}
    (h : (service.enrichGraph env store documentId graph).1 = .ok result) :
    service.Counts store (service.enrichGraph env store documentId graph).2 documentId result := by
  have hresult : Prog.exec (service.enrich env store documentId) (GraphDb.open graph) =
      (.ok result, (Prog.exec (service.enrich env store documentId) (GraphDb.open graph)).2) :=
    Prod.ext h rfl
  obtain ⟨state, s₁, hdocument, hcommitted, rfl⟩ := enrich_eq_ok hresult
  obtain ⟨hstored, htally⟩ := tallies_enrichDocument.of_ok trivial hdocument
  rw [← hcommitted] at htally
  exact ⟨rfl, hstored, ⟨state.entityIds, rfl, htally.entityIds⟩,
    ⟨state.relationshipIds, rfl, htally.relationshipIds⟩⟩

/-- The numbers stay those of the rows when the tables grow and the document keeps its chunks. -/
theorem Counts.grows {store' : KnowledgeStore} {result : KnowledgeGraphEnrichmentResult}
    (h : service.Counts store graph documentId result) (hgrows : graph.Grows graph')
    (hdocuments : store.documents ⊆ store'.documents)
    (hchunks : store'.listByDocument documentId = store.listByDocument documentId) :
    service.Counts store' graph' documentId result where
  documentId_eq := h.documentId_eq
  document_mem := by
    obtain ⟨document, hdocument, hid⟩ := h.document_mem
    exact ⟨document, hdocuments hdocument, hid⟩
  entityCount_eq := by
    obtain ⟨ids, hcount, hids⟩ := h.entityCount_eq
    rw [hchunks]
    exact ⟨ids, hcount, hids.mono fun _ _ hrow => hrow.grows hgrows⟩
  relationshipCount_eq := by
    obtain ⟨ids, hcount, hids⟩ := h.relationshipCount_eq
    rw [hchunks]
    exact ⟨ids, hcount, hids.mono fun _ _ hrow => hrow.grows hgrows⟩

/-! ## Growth -/

/-- The repository never takes a row away. -/
theorem repositoryKeeps_grows (store : KnowledgeStore) (env : GraphEnv) (unicode : Unicode)
    (graph : KnowledgeGraph) :
    RepositoryKeeps unicode store env (fun s => graph.Grows s.working) where
  step step := by
    refine keeps_of_acts graph.Grows (fun _ => reads_step_only step) ?_
    rintro g _ _ ⟨rfl, -⟩ h
    exact h
  upsertEntity entityType canonicalName description :=
    keeps_of_acts graph.Grows (fun _ => acts_upsertEntity entityType canonicalName description)
      fun _ _ _ heffect h => h.trans heffect.2.grows
  addMention entityId documentId chunkId mentionText confidence source := by
    refine keeps_of_acts graph.Grows (fun _ => acts_addMention entityId documentId chunkId
      mentionText confidence source) ?_
    rintro g _ _ ⟨-, mentions, rfl, hadded⟩ h
    exact h.trans (KnowledgeGraph.grows_mentions hadded.isPrefix)
  addRelationship sourceEntityId targetEntityId relationshipType description confidence
      sourceChunkId := by
    refine keeps_of_acts graph.Grows (fun _ => acts_addRelationship sourceEntityId targetEntityId
      relationshipType description confidence sourceChunkId) ?_
    rintro g _ _ ⟨-, relationships, rfl, hadded⟩ h
    exact h.trans (KnowledgeGraph.grows_relationships hadded.isPrefix)

/-- The committed graph grows. -/
theorem enrichGraph_grows (service : KnowledgeGraphEnrichmentService) (store : KnowledgeStore)
    (env : GraphEnv) (documentId : UUID) (graph : KnowledgeGraph) :
    graph.Grows (service.enrichGraph env store documentId graph).2 :=
  (repositoryKeeps_grows store env service.unicode graph).enrichGraph graph.Grows (.refl graph)
    (fun _ hs => hs) (.refl graph)

end KnowledgeGraphEnrichmentService

end AssessmentPlatform
