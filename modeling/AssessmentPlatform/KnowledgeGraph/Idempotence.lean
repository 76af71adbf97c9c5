import AssessmentPlatform.KnowledgeGraph.Enrichment

/-!
# Enriching a document again

The tables only grow while a document is enriched: an entity keeps its identifier under its key
and does not lose its description, and mentions and relationships stay. What a step has looked
up or added is therefore found again, and the second run of the same extractions changes
nothing.
-/

namespace AssessmentPlatform

open Library

/-! ## Growing tables -/

/-- Later tables of a run. -/
structure KnowledgeGraph.Grows (graph graph' : KnowledgeGraph) : Prop where
  entity : ∀ key model, getBy KnowledgeEntityModel.key key graph.entities = some model →
    ∃ model', getBy KnowledgeEntityModel.key key graph'.entities = some model' ∧
      model'.id = model.id ∧ (model'.description = none → model.description = none)
  id_mem : ∀ id ∈ graph.entities.map KnowledgeEntityModel.id,
    id ∈ graph'.entities.map KnowledgeEntityModel.id
  mentions : graph.mentions <+: graph'.mentions
  relationships : graph.relationships <+: graph'.relationships

/-- A graph grows to itself. -/
theorem KnowledgeGraph.Grows.refl (graph : KnowledgeGraph) : graph.Grows graph where
  entity _ model h := ⟨model, h, rfl, id⟩
  id_mem _ h := h
  mentions := List.prefix_rfl
  relationships := List.prefix_rfl

/-- A graph that grows twice grows. -/
theorem KnowledgeGraph.Grows.trans {g g' g'' : KnowledgeGraph} (h : g.Grows g')
    (h' : g'.Grows g'') : g.Grows g'' where
  entity key model hmodel := by
    obtain ⟨model', hmodel', hid, hdescription⟩ := h.entity key model hmodel
    obtain ⟨model'', hmodel'', hid', hdescription'⟩ := h'.entity key model' hmodel'
    exact ⟨model'', hmodel'', hid'.trans hid, hdescription ∘ hdescription'⟩
  id_mem id hid := h'.id_mem id (h.id_mem id hid)
  mentions := h.mentions.trans h'.mentions
  relationships := h.relationships.trans h'.relationships

/-- A session whose working copy has grown. -/
def graphGrowth : Growth GraphDb where
  le s t := s.working.Grows t.working
  same := GraphDb.Same
  le_refl s := .refl s.working
  le_trans := .trans
  same_refl := .refl
  same_trans := .trans
  le_same h hsame := by rwa [hsame.2]

section Steps

variable {unicode : Unicode} {store : KnowledgeStore} {env env' : GraphEnv}
  {graph graph' : KnowledgeGraph}

/-- An upsert lets the graph grow. -/
theorem UpsertEffect.grows {key : KnowledgeEntityType × Str} {description : Option Str}
    {model : KnowledgeEntityModel} (h : UpsertEffect key description graph model graph') :
    graph.Grows graph' := by
  cases h with
  | found => exact .refl graph
  | @described model updatedAt hfound hnone hdescribes =>
    refine ⟨fun k m hm => ?_, fun id hid => ?_, List.prefix_rfl, List.prefix_rfl⟩
    · refine ⟨if m.id = model.id then m.describe description updatedAt else m, ?_, ?_, ?_⟩
      · unfold KnowledgeGraph.describe
        rw [getBy_map, hm]
        · rfl
        · intro y
          split <;> rfl
      · split <;> rfl
      · split
        · intro hlost
          rw [KnowledgeEntityModel.describe] at hlost
          rw [show description = none from hlost] at hdescribes
          cases hdescribes
        · exact id
    · obtain ⟨m, hm, rfl⟩ := List.mem_map.mp hid
      refine List.mem_map.mpr ⟨_, List.mem_map_of_mem hm, ?_⟩
      split <;> rfl
  | added hnew hkey =>
    refine ⟨fun k m hm => ⟨m, getBy_of_extends (List.prefix_append _ _) hm, rfl, id⟩,
      fun id hid => ?_,
      List.prefix_rfl, List.prefix_rfl⟩
    simp only [KnowledgeGraph.addEntity, List.map_append, List.mem_append]
    exact .inl hid

/-- The entity of a key has an identifier, and nothing is missing from it that a description
could supply. -/
def Resolved (key : KnowledgeEntityType × Str) (description : Option Str) (id : UUID)
    (graph : KnowledgeGraph) : Prop :=
  ∃ model, getBy KnowledgeEntityModel.key key graph.entities = some model ∧ model.id = id ∧
    (model.description = none → describes description = false)

/-- A resolved entity stays resolved in a graph that grows. -/
theorem Resolved.grows {key : KnowledgeEntityType × Str} {description : Option Str} {id : UUID}
    (h : Resolved key description id graph) (hgrows : graph.Grows graph') :
    Resolved key description id graph' := by
  obtain ⟨model, hmodel, hid, hdescription⟩ := h
  obtain ⟨model', hmodel', hid', hkept⟩ := hgrows.entity key model hmodel
  exact ⟨model', hmodel', hid'.trans hid, hdescription ∘ hkept⟩

/-- An upsert resolves its key. -/
theorem UpsertEffect.resolved {key : KnowledgeEntityType × Str} {description : Option Str}
    {model : KnowledgeEntityModel} (h : UpsertEffect key description graph model graph') :
    Resolved key description model.id graph' := by
  cases h with
  | found hfound hdescription => exact ⟨model, hfound, rfl, hdescription⟩
  | @described model updatedAt hfound hnone hdescribes =>
    refine ⟨model.describe description updatedAt, ?_, rfl, fun hlost => ?_⟩
    · unfold KnowledgeGraph.describe
      rw [getBy_map, hfound]
      · simp
      · intro y
        split <;> rfl
    · rw [show description = none from hlost]
      rfl
  | added hnew hkey hdescription =>
    refine ⟨model, getBy_concat hnew hkey, rfl, fun hnone => ?_⟩
    rw [← hdescription, hnone]
    rfl

/-- An entity that is resolved is found again. -/
theorem UpsertEffect.again {key : KnowledgeEntityType × Str} {description : Option Str} {id : UUID}
    {model : KnowledgeEntityModel} (h : UpsertEffect key description graph model graph')
    (hresolved : Resolved key description id graph) : model.id = id ∧ graph' = graph := by
  obtain ⟨model', hmodel', rfl, hdescription'⟩ := hresolved
  cases h with
  | found hfound =>
    rw [hfound] at hmodel'
    cases hmodel'
    exact ⟨rfl, rfl⟩
  | described updatedAt hfound hnone hdescribes =>
    rw [hfound] at hmodel'
    cases hmodel'
    rw [hdescription' hnone] at hdescribes
    cases hdescribes
  | added hnew =>
    rw [hnew] at hmodel'
    cases hmodel'

/-- A program whose effect is established for good is run again without one. -/
theorem replays_of_acts {α : Type} {x y : GraphSession α} {R : α → α → Prop}
    {effect : KnowledgeGraph → α → KnowledgeGraph → Prop} (established : α → KnowledgeGraph → Prop)
    {rejects : KnowledgeGraph → Failure → Prop}
    (hx : ∀ graph, Acts env graph x (effect graph) (rejects graph))
    (hgrows : ∀ graph a graph', effect graph a graph' →
      graph.Grows graph' ∧ established a graph')
    (hestablished : ∀ a graph graph', graph.Grows graph' → established a graph →
      established a graph')
    (hy : ∀ a graph, established a graph →
      Acts env' graph y (fun b graph' => R a b ∧ graph' = graph) (fun _ => False)) :
    Prog.Replays graphGrowth env'.Faults R x y := by
  refine .of_established (fun a s => established a s.working) (fun s => ?_)
    (fun a s t hle h => hestablished a _ _ hle h) fun a t h => ?_
  · exact (hx s.working s rfl).conseq (fun _ ht => ht) (fun a t ht => hgrows _ a _ ht.2)
      (fun _ _ _ => trivial)
  · refine (hy a t.working h t rfl).conseq (fun _ hu => hu) (fun b u hu => ?_) fun e u he => ?_
    · exact ⟨hu.2.1, hu.1, hu.2.2⟩
    · exact ⟨he.2.resolve_left id, he.1⟩

/-- A repeated `upsert_entity` gives the entity that there is. -/
theorem replays_upsertEntity (entityType : KnowledgeEntityType) (canonicalName : Str)
    (description : Option Str) :
    Prog.Replays graphGrowth env'.Faults (fun model model' => model'.id = model.id)
      (upsertEntity unicode env entityType canonicalName description)
      (upsertEntity unicode env' entityType canonicalName description) := by
  refine replays_of_acts
    (fun model graph => (unicode.entityKey entityType canonicalName).2 ≠ [] ∧
      Resolved (unicode.entityKey entityType canonicalName) description model.id graph)
    (fun graph => acts_upsertEntity entityType canonicalName description) ?_ ?_ ?_
  · exact fun graph model graph' h => ⟨h.2.grows, h.1, h.2.resolved⟩
  · exact fun model graph graph' hgrows h => ⟨h.1, h.2.grows hgrows⟩
  · intro model graph h
    exact (acts_upsertEntity entityType canonicalName description).conseq
      (fun model' graph' h' => h'.2.again h.2) fun e he => h.1 he.2

/-- A mention that is allowed stays allowed in a graph that grows. -/
theorem MentionAllowed.grows {entityId documentId chunkId : UUID} {confidence : ℚ}
    (h : MentionAllowed store graph entityId documentId chunkId confidence)
    (hgrows : graph.Grows graph') :
    MentionAllowed store graph' entityId documentId chunkId confidence :=
  ⟨h.1, hgrows.id_mem entityId h.2, h.3⟩

/-- A relationship that is allowed stays allowed in a graph that grows. -/
theorem RelationshipAllowed.grows {sourceEntityId targetEntityId sourceChunkId : UUID}
    {confidence : ℚ}
    (h : RelationshipAllowed store graph sourceEntityId targetEntityId confidence sourceChunkId)
    (hgrows : graph.Grows graph') :
    RelationshipAllowed store graph' sourceEntityId targetEntityId confidence sourceChunkId :=
  ⟨h.1, h.2, hgrows.id_mem sourceEntityId h.3, hgrows.id_mem targetEntityId h.4, h.5⟩

/-- A graph with more mentions behind its own has grown. -/
theorem KnowledgeGraph.grows_mentions {mentions : List KnowledgeEntityMentionModel}
    (h : graph.mentions <+: mentions) : graph.Grows { graph with mentions } :=
  ⟨(KnowledgeGraph.Grows.refl graph).entity, fun _ hid => hid, h, List.prefix_rfl⟩

/-- A graph with more relationships behind its own has grown. -/
theorem KnowledgeGraph.grows_relationships {relationships : List KnowledgeRelationshipModel}
    (h : graph.relationships <+: relationships) : graph.Grows { graph with relationships } :=
  ⟨(KnowledgeGraph.Grows.refl graph).entity, fun _ hid => hid, List.prefix_rfl, h⟩

/-- A repeated `add_mention` finds the mention that there is. -/
theorem replays_addMention (entityId documentId chunkId : UUID) (mentionText : Str)
    (confidence : ℚ) (source : KnowledgeChunkRecord) :
    Prog.Replays graphGrowth env'.Faults (fun _ _ => True)
      (addMention unicode store env entityId documentId chunkId mentionText confidence source)
      (addMention unicode store env' entityId documentId chunkId mentionText confidence
        source) := by
  refine replays_of_acts
    (fun model graph =>
      MentionAllowed store graph entityId documentId chunkId confidence ∧
        getBy KnowledgeEntityMentionModel.key (entityId, chunkId) graph.mentions = some model)
    (fun graph => acts_addMention entityId documentId chunkId mentionText confidence source)
    ?_ ?_ ?_
  · rintro graph model _ ⟨hallowed, mentions, rfl, hadded⟩
    have hgrows := KnowledgeGraph.grows_mentions hadded.isPrefix
    exact ⟨hgrows, hallowed.grows hgrows, hadded.getBy_eq⟩
  · exact fun model graph graph' hgrows h =>
      ⟨h.1.grows hgrows, getBy_of_extends hgrows.mentions h.2⟩
  · intro model graph h
    refine (acts_addMention entityId documentId chunkId mentionText confidence source).conseq ?_
      fun e he => he.2 h.1
    rintro model' _ ⟨-, mentions, rfl, hadded⟩
    rw [(hadded.again h.2).2]
    exact ⟨trivial, rfl⟩

/-- A repeated `add_relationship` finds the relationship that there is. -/
theorem replays_addRelationship (sourceEntityId targetEntityId : UUID)
    (relationshipType : KnowledgeRelationshipType) (description : Option Str) (confidence : ℚ)
    (sourceChunkId : UUID) :
    Prog.Replays graphGrowth env'.Faults (fun model model' => model' = model)
      (addRelationship store env sourceEntityId targetEntityId relationshipType description
        confidence sourceChunkId)
      (addRelationship store env' sourceEntityId targetEntityId relationshipType description
        confidence sourceChunkId) := by
  refine replays_of_acts
    (fun model graph =>
      RelationshipAllowed store graph sourceEntityId targetEntityId confidence sourceChunkId ∧
        getBy KnowledgeRelationshipModel.key
          (sourceEntityId, targetEntityId, relationshipType, sourceChunkId)
          graph.relationships = some model)
    (fun graph => acts_addRelationship sourceEntityId targetEntityId relationshipType description
      confidence sourceChunkId) ?_ ?_ ?_
  · rintro graph model _ ⟨hallowed, relationships, rfl, hadded⟩
    have hgrows := KnowledgeGraph.grows_relationships hadded.isPrefix
    exact ⟨hgrows, hallowed.grows hgrows, hadded.getBy_eq⟩
  · exact fun model graph graph' hgrows h =>
      ⟨h.1.grows hgrows, getBy_of_extends hgrows.relationships h.2⟩
  · intro model graph h
    refine (acts_addRelationship sourceEntityId targetEntityId relationshipType description
      confidence sourceChunkId).conseq ?_ fun e he => he.2 h.1
    rintro model' _ ⟨-, relationships, rfl, hadded⟩
    obtain ⟨hsame, hunchanged⟩ := hadded.again h.2
    rw [hunchanged]
    exact ⟨hsame, rfl⟩

end Steps

/-! ## The loops -/

namespace KnowledgeGraphEnrichmentService

variable {service : KnowledgeGraphEnrichmentService} {store : KnowledgeStore} {env env' : GraphEnv}

/-- A repeated statement changes nothing. -/
theorem replays_step (step : GraphStep) :
    Prog.Replays graphGrowth env'.Faults (fun _ _ => True) (graphStep env step)
      (graphStep env' step) := by
  refine replays_of_acts (fun _ _ => True)
    (fun graph => reads_step_only step) ?_ ?_ ?_
  · rintro graph a _ ⟨rfl, -⟩
    exact ⟨.refl _, trivial⟩
  · exact fun _ _ _ _ _ => trivial
  · exact fun _ graph _ => (reads_step step).conseq (fun _ _ h => ⟨trivial, h.1⟩) fun _ he => he

/-- A repeated outcome is the same. -/
theorem replays_ofExcept {α : Type} (r : Except Failure α) :
    Prog.Replays graphGrowth env'.Faults (fun a a' => a' = a) (GraphSession.ofExcept r)
      (GraphSession.ofExcept r) := by
  cases r with
  | ok a => exact .pure rfl
  | error e => exact .throw e

/-- The same entities under the same local keys. -/
def SameResolved (resolved resolved' : List (Str × KnowledgeEntityModel)) : Prop :=
  List.Forall₂ (fun entry entry' => entry'.1 = entry.1 ∧ entry'.2.id = entry.2.id)
    resolved resolved'

/-- A dictionary resolves the same entities as itself. -/
theorem SameResolved.refl (resolved : List (Str × KnowledgeEntityModel)) :
    SameResolved resolved resolved :=
  List.forall₂_same.mpr fun _ _ => ⟨rfl, rfl⟩

/-- Dictionaries with the same entities give the same identifiers. -/
theorem SameResolved.lookup {resolved resolved' : List (Str × KnowledgeEntityModel)}
    (h : SameResolved resolved resolved') (key : Str) :
    (resolved'.lookup key).map KnowledgeEntityModel.id =
      (resolved.lookup key).map KnowledgeEntityModel.id := by
  induction h with
  | nil => rfl
  | @cons entry entry' rest rest' hentry _ ih =>
    obtain ⟨localKey, model⟩ := entry
    obtain ⟨localKey', model'⟩ := entry'
    obtain ⟨hkey, hid⟩ := hentry
    dsimp only at hkey hid
    subst hkey
    rw [List.lookup_cons, List.lookup_cons]
    cases key == localKey' with
    | true => simp [hid]
    | false => exact ih

/-- States of a chunk that differ in the copies of the rows only. -/
structure SameEntities (state state' : ChunkEntities) : Prop where
  entityIds : state'.entityIds = state.entityIds
  acceptedEntities : state'.acceptedEntities = state.acceptedEntities
  resolvedByKey : SameResolved state.resolvedByKey state'.resolvedByKey

/-- A state has the same entities as itself. -/
theorem SameEntities.refl (state : ChunkEntities) : SameEntities state state :=
  ⟨rfl, rfl, .refl state.resolvedByKey⟩

/-- A repeated enrichment with an entity gives the same entities. -/
theorem replays_enrichEntity (documentId : UUID) (chunk : KnowledgeChunkRecord)
    {state state' : ChunkEntities} (entity : ExtractedEntity) (hstate : SameEntities state state') :
    Prog.Replays graphGrowth env'.Faults SameEntities
      (service.enrichEntity env store documentId chunk state entity)
      (service.enrichEntity env' store documentId chunk state' entity) := by
  refine (replays_upsertEntity entity.entityType entity.canonicalName entity.description).bind
    (fun _ => rfl) fun model model' hid => ?_
  rw [hid]
  refine (replays_addMention model.id documentId chunk.chunkId entity.canonicalName
    entity.confidence chunk).bind (fun _ => trivial) fun _ _ _ => .pure ?_
  refine ⟨?_, ?_, .cons ⟨rfl, hid⟩ hstate.resolvedByKey⟩
  · rw [hstate.entityIds]
  · rw [hstate.acceptedEntities]

/-- A repeated enrichment with a relationship gives the same identifiers. -/
theorem replays_enrichRelationship (chunk : KnowledgeChunkRecord)
    {resolved resolved' : List (Str × KnowledgeEntityModel)} {ids ids' : Finset UUID}
    (relationship : ExtractedRelationship) (hresolved : SameResolved resolved resolved')
    (hids : ids' = ids) :
    Prog.Replays graphGrowth env'.Faults (fun ids ids' => ids' = ids)
      (enrichRelationship env store chunk resolved ids relationship)
      (enrichRelationship env' store chunk resolved' ids' relationship) := by
  have hsource := hresolved.lookup relationship.sourceEntityKey
  have htarget := hresolved.lookup relationship.targetEntityKey
  unfold enrichRelationship
  cases hs : resolved.lookup relationship.sourceEntityKey with
  | none => exact .throw _
  | some source =>
    cases ht : resolved.lookup relationship.targetEntityKey with
    | none => exact .throw _
    | some target =>
      rw [hs, Option.map_some, Option.map_eq_some_iff] at hsource
      rw [ht, Option.map_some, Option.map_eq_some_iff] at htarget
      obtain ⟨source', hs', hsource⟩ := hsource
      obtain ⟨target', ht', htarget⟩ := htarget
      rw [hs', ht']
      dsimp only
      rw [hsource, htarget]
      refine (replays_addRelationship source.id target.id relationship.relationshipType
        relationship.description relationship.confidence chunk.chunkId).bind (fun _ => rfl)
        fun model model' hmodel => .pure ?_
      rw [hmodel, hids]

/-- A repeated enrichment with a chunk gives the same state. -/
theorem replays_enrichChunk (documentId : UUID) {state state' : EnrichmentState}
    (chunk : KnowledgeChunkRecord) (hstate : state' = state) :
    Prog.Replays graphGrowth env'.Faults (fun state state' => state' = state)
      (service.enrichChunk env store documentId state chunk)
      (service.enrichChunk env' store documentId state' chunk) := by
  subst hstate
  refine (replays_ofExcept _).bind (fun _ => rfl) fun extracted extracted' hextracted => ?_
  rw [hextracted]
  refine Prog.Replays.bind (.foldlM _ (fun _ _ entity _ h =>
    replays_enrichEntity documentId chunk entity h) (.refl _) SameEntities.refl) SameEntities.refl
    fun resolved resolved' hsame => ?_
  rw [hsame.acceptedEntities]
  refine (replays_ofExcept _).bind (fun _ => rfl) fun found found' hfound => ?_
  rw [hfound, hsame.entityIds]
  refine Prog.Replays.bind (.foldlM _ (fun _ _ relationship _ h =>
    replays_enrichRelationship chunk relationship hsame.resolvedByKey h) rfl (fun _ => rfl))
    (fun _ => rfl) fun ids ids' hids => .pure ?_
  rw [hids]

/-- The statements of a run are run again without an effect. -/
theorem replays_enrichDocument (documentId : UUID) :
    Prog.Replays graphGrowth env'.Faults (fun state state' => state' = state)
      (service.enrichDocument env store documentId)
      (service.enrichDocument env' store documentId) := by
  refine (replays_step _).bind (fun _ => trivial) fun _ _ _ => ?_
  split
  · exact .throw _
  · refine (replays_step _).bind (fun _ => trivial) fun _ _ _ => ?_
    exact .foldlM _ (fun _ _ chunk _ h => replays_enrichChunk documentId chunk h) rfl
      fun _ => rfl

end KnowledgeGraphEnrichmentService

end AssessmentPlatform
