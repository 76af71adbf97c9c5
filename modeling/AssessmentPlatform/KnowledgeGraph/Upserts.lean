import AssessmentPlatform.KnowledgeGraph.Tables

/-!
# Entities, mentions and relationships are added once

`upsert_entity`, `add_mention` and `add_relationship`. Each of them looks a key up and adds a row
only if there is none; an entity without a description may get one. Unicode normalization and
case folding are parameters. The records that the repository returns are copies of the rows.
-/

namespace AssessmentPlatform

open Library

/-- The Unicode functions of the standard library: `unicodedata.normalize("NFKC", s)` and
`s.casefold()`. -/
structure Unicode where
  nfkc : Str → Str
  casefold : Str → Str

/-- `s.split()`. -/
def Str.words (s : Str) : List Str := (s.splitOnP CodePoint.isSpace).filter fun word => word ≠ []

/-- `canonicalize_entity_name`. -/
def Unicode.canonicalizeEntityName (unicode : Unicode) (value : Str) : Str :=
  Str.join [CodePoint.blank] (Str.words (unicode.nfkc value))

/-- `normalize_entity_name`. -/
def Unicode.normalizeEntityName (unicode : Unicode) (value : Str) : Str :=
  unicode.casefold (Str.join [CodePoint.blank] (Str.words (unicode.nfkc value)))

/-- The key under which `upsert_entity` looks for a name. -/
def Unicode.entityKey (unicode : Unicode) (entityType : KnowledgeEntityType) (canonicalName : Str) :
    KnowledgeEntityType × Str :=
  (entityType, unicode.normalizeEntityName (unicode.canonicalizeEntityName canonicalName))

/-- Whether a description is given and is not empty. -/
def describes (description : Option Str) : Bool := description.any fun text => text ≠ []

/-- An entity with a description that it got later. -/
def KnowledgeEntityModel.describe (model : KnowledgeEntityModel) (description : Option Str)
    (updatedAt : Time) : KnowledgeEntityModel :=
  { model with description, updatedAt }

/-- The tables after the update of an entity. -/
def KnowledgeGraph.describe (graph : KnowledgeGraph) (id : UUID) (description : Option Str)
    (updatedAt : Time) : KnowledgeGraph :=
  { graph with
    entities := graph.entities.map fun model =>
      if model.id = id then model.describe description updatedAt else model }

/-- The tables with another entity. -/
def KnowledgeGraph.addEntity (graph : KnowledgeGraph) (model : KnowledgeEntityModel) :
    KnowledgeGraph :=
  { graph with entities := graph.entities ++ [model] }

/-- The tables with another mention. -/
def KnowledgeGraph.addMention (graph : KnowledgeGraph) (model : KnowledgeEntityMentionModel) :
    KnowledgeGraph :=
  { graph with mentions := graph.mentions ++ [model] }

/-- The tables with another relationship. -/
def KnowledgeGraph.addRelationship (graph : KnowledgeGraph) (model : KnowledgeRelationshipModel) :
    KnowledgeGraph :=
  { graph with relationships := graph.relationships ++ [model] }

/-! ## The source -/

section Repository

variable (unicode : Unicode) (store : KnowledgeStore) (env : GraphEnv)

/-- `upsert_entity`. -/
def upsertEntity (entityType : KnowledgeEntityType) (canonicalName : Str)
    (description : Option Str) : GraphSession KnowledgeEntityModel := do
  let canonical := unicode.canonicalizeEntityName canonicalName
  let normalized := unicode.normalizeEntityName canonical
  requireValue (normalized ≠ [])
  graphStep env .selectEntity
  let db ← get
  match getBy KnowledgeEntityModel.key (entityType, normalized) db.working.entities with
  | none =>
    let id ← graphUuid4 env
    let createdAt ← graphNow env
    let updatedAt ← graphNow env
    graphStep env .insertEntity
    let model : KnowledgeEntityModel :=
      { id, entityType, canonicalName := canonical, normalizedName := normalized, description,
        createdAt, updatedAt }
    do
      modifyGraph fun graph => graph.addEntity model
      pure model
  | some model =>
    if model.description = none ∧ describes description = true then do
      let updatedAt ← graphNow env
      graphStep env .updateEntity
      do
        modifyGraph fun graph => graph.describe model.id description updatedAt
        pure (model.describe description updatedAt)
    else pure model

/-- `add_mention`. -/
def addMention (entityId documentId chunkId : UUID) (mentionText : Str) (confidence : ℚ)
    (source : KnowledgeChunkRecord) : GraphSession KnowledgeEntityMentionModel := do
  requireValue (0 ≤ confidence ∧ confidence ≤ 1)
  graphStep env .getEntity
  let db ← get
  requireValue (entityId ∈ db.working.entities.map KnowledgeEntityModel.id)
  graphStep env .getChunk
  requireValue ((getBy KnowledgeChunkRecord.chunkId chunkId store.chunks).map
    KnowledgeChunkRecord.documentId = some documentId)
  graphStep env .selectMention
  let db ← get
  match getBy KnowledgeEntityMentionModel.key (entityId, chunkId) db.working.mentions with
  | none =>
    let id ← graphUuid4 env
    let createdAt ← graphNow env
    graphStep env .insertMention
    let model : KnowledgeEntityMentionModel :=
      { id, entityId, documentId, chunkId,
        mentionText := unicode.canonicalizeEntityName mentionText, confidence,
        sourceContentHash := source.contentHash, sourceProvenance := source.provenance, createdAt }
    do
      modifyGraph fun graph => graph.addMention model
      pure model
  | some model => pure model

/-- `add_relationship`. -/
def addRelationship (sourceEntityId targetEntityId : UUID)
    (relationshipType : KnowledgeRelationshipType) (description : Option Str) (confidence : ℚ)
    (sourceChunkId : UUID) : GraphSession KnowledgeRelationshipModel := do
  requireValue (0 ≤ confidence ∧ confidence ≤ 1)
  requireValue (sourceEntityId ≠ targetEntityId)
  graphStep env .getEntity
  let db ← get
  requireValue (sourceEntityId ∈ db.working.entities.map KnowledgeEntityModel.id)
  graphStep env .getEntity
  requireValue (targetEntityId ∈ db.working.entities.map KnowledgeEntityModel.id)
  graphStep env .getChunk
  requireValue (sourceChunkId ∈ store.chunks.map KnowledgeChunkRecord.chunkId)
  graphStep env .selectRelationship
  let db ← get
  match getBy KnowledgeRelationshipModel.key
      (sourceEntityId, targetEntityId, relationshipType, sourceChunkId)
      db.working.relationships with
  | none =>
    let id ← graphUuid4 env
    let createdAt ← graphNow env
    graphStep env .insertRelationship
    let model : KnowledgeRelationshipModel :=
      { id, sourceEntityId, targetEntityId, relationshipType, description, confidence,
        sourceChunkId, createdAt }
    do
      modifyGraph fun graph => graph.addRelationship model
      pure model
  | some model => pure model

end Repository

/-! ## What they do -/

/-- The entity of a key is returned, after it got a description or was added if need be. -/
inductive UpsertEffect (key : KnowledgeEntityType × Str) (description : Option Str)
    (graph : KnowledgeGraph) : KnowledgeEntityModel → KnowledgeGraph → Prop
  | found {model : KnowledgeEntityModel}
      (hfound : getBy KnowledgeEntityModel.key key graph.entities = some model)
      (hdescription : model.description = none → describes description = false) :
      UpsertEffect key description graph model graph
  | described {model : KnowledgeEntityModel} (updatedAt : Time)
      (hfound : getBy KnowledgeEntityModel.key key graph.entities = some model)
      (hnone : model.description = none) (hdescribes : describes description = true) :
      UpsertEffect key description graph (model.describe description updatedAt)
        (graph.describe model.id description updatedAt)
  | added {model : KnowledgeEntityModel}
      (hnew : getBy KnowledgeEntityModel.key key graph.entities = none) (hkey : model.key = key)
      (hdescription : model.description = description) :
      UpsertEffect key description graph model (graph.addEntity model)

/-- The requirements of a mention. -/
structure MentionAllowed (store : KnowledgeStore) (graph : KnowledgeGraph)
    (entityId documentId chunkId : UUID) (confidence : ℚ) : Prop where
  confidence_bounds : 0 ≤ confidence ∧ confidence ≤ 1
  entity_mem : entityId ∈ graph.entities.map KnowledgeEntityModel.id
  chunk_owned : (getBy KnowledgeChunkRecord.chunkId chunkId store.chunks).map
    KnowledgeChunkRecord.documentId = some documentId

/-- The requirements of a relationship. -/
structure RelationshipAllowed (store : KnowledgeStore) (graph : KnowledgeGraph)
    (sourceEntityId targetEntityId : UUID) (confidence : ℚ) (sourceChunkId : UUID) : Prop where
  confidence_bounds : 0 ≤ confidence ∧ confidence ≤ 1
  no_self_edge : sourceEntityId ≠ targetEntityId
  source_mem : sourceEntityId ∈ graph.entities.map KnowledgeEntityModel.id
  target_mem : targetEntityId ∈ graph.entities.map KnowledgeEntityModel.id
  chunk_mem : sourceChunkId ∈ store.chunks.map KnowledgeChunkRecord.chunkId

section Specs

variable {unicode : Unicode} {store : KnowledgeStore} {env : GraphEnv} {graph : KnowledgeGraph}

/-- `upsert_entity` stores the entity under its key, or rejects an empty name. -/
theorem acts_upsertEntity (entityType : KnowledgeEntityType) (canonicalName : Str)
    (description : Option Str) :
    Acts env graph (upsertEntity unicode env entityType canonicalName description)
      (fun model graph' => (unicode.entityKey entityType canonicalName).2 ≠ [] ∧
        UpsertEffect (unicode.entityKey entityType canonicalName) description graph model graph')
      (fun e => e = .value ∧ (unicode.entityKey entityType canonicalName).2 = []) := by
  refine Reads.bind (reads_require fun h => ⟨rfl, not_not.mp h⟩) fun _ hname => ?_
  refine (reads_step _).bind fun _ _ => reads_get.bind fun db hdb => ?_
  rw [hdb]
  cases hfound : getBy KnowledgeEntityModel.key
      (unicode.entityKey entityType canonicalName) graph.entities with
  | none =>
    unfold Unicode.entityKey at hfound
    rw [hfound]
    refine reads_uuid4.bind fun id _ => reads_now.bind fun createdAt _ => ?_
    refine reads_now.bind fun updatedAt _ => (reads_step _).bind fun _ _ => ?_
    exact acts_modify ⟨hname, .added hfound rfl rfl⟩
  | some model =>
    unfold Unicode.entityKey at hfound
    rw [hfound]
    by_cases hfill : model.description = none ∧ describes description = true
    · dsimp only
      rw [if_pos hfill]
      refine reads_now.bind fun updatedAt _ => (reads_step _).bind fun _ _ => ?_
      exact acts_modify ⟨hname, .described updatedAt hfound hfill.1 hfill.2⟩
    · dsimp only
      rw [if_neg hfill]
      refine acts_pure ⟨hname, .found hfound fun hnone => ?_⟩
      simpa [hnone] using hfill

/-- `add_mention` adds the mention once if it is allowed, and rejects it otherwise. -/
theorem acts_addMention (entityId documentId chunkId : UUID) (mentionText : Str) (confidence : ℚ)
    (source : KnowledgeChunkRecord) :
    Acts env graph
      (addMention unicode store env entityId documentId chunkId mentionText confidence source)
      (fun model graph' => MentionAllowed store graph entityId documentId chunkId confidence ∧
        ∃ mentions, graph' = { graph with mentions } ∧
          AddedOnce KnowledgeEntityMentionModel.key (entityId, chunkId) graph.mentions model
            mentions)
      (fun e => e = .value ∧
        ¬ MentionAllowed store graph entityId documentId chunkId confidence) := by
  refine Reads.bind (reads_require fun h => ⟨rfl, fun allowed => h allowed.1⟩)
    fun _ hconfidence => (reads_step _).bind fun _ _ => reads_get.bind fun db hdb => ?_
  rw [hdb]
  refine Reads.bind (reads_require fun h => ⟨rfl, fun allowed => h allowed.2⟩)
    fun _ hentity => (reads_step _).bind fun _ _ => ?_
  refine Reads.bind (reads_require fun h => ⟨rfl, fun allowed => h allowed.3⟩)
    fun _ hchunk => (reads_step _).bind fun _ _ => reads_get.bind fun db' hdb' => ?_
  rw [hdb']
  cases hfound : getBy KnowledgeEntityMentionModel.key (entityId, chunkId) graph.mentions with
  | none =>
    refine reads_uuid4.bind fun id _ => reads_now.bind fun createdAt _ => ?_
    refine (reads_step _).bind fun _ _ => acts_modify ?_
    exact ⟨⟨hconfidence, hentity, hchunk⟩, _, rfl, .added hfound rfl⟩
  | some model =>
    exact acts_pure ⟨⟨hconfidence, hentity, hchunk⟩, _, rfl, .found hfound⟩

/-- `add_relationship` adds the relationship once if it is allowed, and rejects it otherwise. -/
theorem acts_addRelationship (sourceEntityId targetEntityId : UUID)
    (relationshipType : KnowledgeRelationshipType) (description : Option Str) (confidence : ℚ)
    (sourceChunkId : UUID) :
    Acts env graph
      (addRelationship store env sourceEntityId targetEntityId relationshipType description
        confidence sourceChunkId)
      (fun model graph' =>
        RelationshipAllowed store graph sourceEntityId targetEntityId confidence sourceChunkId ∧
        ∃ relationships, graph' = { graph with relationships } ∧
          AddedOnce KnowledgeRelationshipModel.key
            (sourceEntityId, targetEntityId, relationshipType, sourceChunkId)
            graph.relationships model relationships)
      (fun e => e = .value ∧ ¬ RelationshipAllowed store graph sourceEntityId targetEntityId
        confidence sourceChunkId) := by
  refine Reads.bind (reads_require fun h => ⟨rfl, fun allowed => h allowed.1⟩)
    fun _ hconfidence => ?_
  refine Reads.bind (reads_require fun h => ⟨rfl, fun allowed => h allowed.2⟩)
    fun _ hself => (reads_step _).bind fun _ _ => reads_get.bind fun db hdb => ?_
  rw [hdb]
  refine Reads.bind (reads_require fun h => ⟨rfl, fun allowed => h allowed.3⟩)
    fun _ hsource => (reads_step _).bind fun _ _ => ?_
  refine Reads.bind (reads_require fun h => ⟨rfl, fun allowed => h allowed.4⟩)
    fun _ htarget => (reads_step _).bind fun _ _ => ?_
  refine Reads.bind (reads_require fun h => ⟨rfl, fun allowed => h allowed.5⟩)
    fun _ hchunk => (reads_step _).bind fun _ _ => reads_get.bind fun db' hdb' => ?_
  rw [hdb']
  cases hfound : getBy KnowledgeRelationshipModel.key
      (sourceEntityId, targetEntityId, relationshipType, sourceChunkId) graph.relationships with
  | none =>
    refine reads_uuid4.bind fun id _ => reads_now.bind fun createdAt _ => ?_
    refine (reads_step _).bind fun _ _ => acts_modify ?_
    exact ⟨⟨hconfidence, hself, hsource, htarget, hchunk⟩, _, rfl, .added hfound rfl⟩
  | some model =>
    exact acts_pure ⟨⟨hconfidence, hself, hsource, htarget, hchunk⟩, _, rfl, .found hfound⟩

end Specs

end AssessmentPlatform
