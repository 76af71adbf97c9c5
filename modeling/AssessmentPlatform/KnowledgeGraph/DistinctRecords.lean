import AssessmentPlatform.KnowledgeGraph.ColumnWidths
import AssessmentPlatform.KnowledgeGraph.Extraction

/-!
# Extracted entities get distinct records

While a chunk is enriched, the record under a local key is a row with the identity of the entity
under this key. The extractor returns entities of distinct identities, so two keys lead to two rows,
and the rows of the table have distinct identifiers as long as `uuid4` gives fresh ones. A
relationship between extracted entities is therefore never unresolved and never joins an entity with
itself.
-/

namespace AssessmentPlatform

open Library

/-! ## Identifiers of the entity table -/

/-- The identifiers of the entities are distinct, and no identifier that is still to come is one of
them. -/
structure GraphDb.FreshIds (env : GraphEnv) (db : GraphDb) : Prop where
  ids_nodup : (db.working.entities.map KnowledgeEntityModel.id).Nodup
  fresh : ∀ n, db.ids ≤ n → env.newId n ∉ db.working.entities.map KnowledgeEntityModel.id

/-- An identifier that was taken from the environment and is not used yet. -/
structure GraphDb.Reserves (env : GraphEnv) (id : UUID) (db : GraphDb) : Prop
    extends db.FreshIds env where
  unused : id ∉ db.working.entities.map KnowledgeEntityModel.id
  taken : ∀ n, db.ids ≤ n → env.newId n ≠ id

/-- The entities are the same, and identifiers may have been taken. -/
structure GraphDb.Frame (s t : GraphDb) : Prop where
  entities_eq : t.working.entities = s.working.entities
  ids_le : s.ids ≤ t.ids

/-- A database is within its own frame. -/
theorem GraphDb.Frame.refl (s : GraphDb) : s.Frame s := ⟨rfl, le_rfl⟩

/-- What is within a frame of a frame is within the frame. -/
theorem GraphDb.Frame.trans {s t u : GraphDb} (h : s.Frame t) (h' : t.Frame u) : s.Frame u :=
  ⟨h'.entities_eq.trans h.entities_eq, h.ids_le.trans h'.ids_le⟩

/-- Fresh identifiers stay fresh within a frame. -/
theorem GraphDb.FreshIds.frame {env : GraphEnv} {s t : GraphDb} (h : s.FreshIds env)
    (hframe : s.Frame t) : t.FreshIds env where
  ids_nodup := hframe.entities_eq ▸ h.ids_nodup
  fresh n hn := hframe.entities_eq ▸ h.fresh n (hframe.ids_le.trans hn)

/-- A reserved identifier stays reserved within a frame. -/
theorem GraphDb.Reserves.frame {env : GraphEnv} {id : UUID} {s t : GraphDb}
    (h : s.Reserves env id) (hframe : s.Frame t) : t.Reserves env id where
  toFreshIds := h.toFreshIds.frame hframe
  unused := hframe.entities_eq ▸ h.unused
  taken n hn := h.taken n (hframe.ids_le.trans hn)

/-- A program that leaves the entities alone. -/
def Frames {α : Type} (x : GraphSession α) : Prop :=
  ∀ s : GraphDb, Prog.Triple (· = s) x (fun _ t => s.Frame t) (fun _ t => s.Frame t)

section Frames

variable {α β : Type} {env : GraphEnv} {store : KnowledgeStore} {unicode : Unicode}

/-- A value stays within the frame. -/
theorem frames_pure (a : α) : Frames (pure a) :=
  fun s => Prog.triple_pure fun _ ht => ht ▸ .refl s

/-- A failure stays within the frame. -/
theorem frames_throw (e : Failure) : Frames (throw e : GraphSession α) :=
  fun s => Prog.triple_throw fun _ ht => ht ▸ .refl s

/-- A look at the database stays within the frame. -/
theorem frames_get : Frames (get : GraphSession GraphDb) :=
  fun s => Prog.triple_get fun _ ht => ht ▸ .refl s

/-- A change within the frame stays within it. -/
theorem frames_modify {f : GraphDb → GraphDb} (hf : ∀ s : GraphDb, s.Frame (f s)) :
    Frames (modify f : GraphSession PUnit) :=
  fun s => Prog.triple_modify fun _ ht => ht ▸ hf s

/-- A sequence of steps within the frame stays within it. -/
theorem Frames.bind {x : GraphSession α} {f : α → GraphSession β} (hx : Frames x)
    (hf : ∀ a, Frames (f a)) : Frames (x >>= f) := by
  intro s
  refine (hx s).bind fun a t ht => ?_
  exact (hf a t).conseq (fun _ hu => hu) (fun _ _ hu => ht.trans hu) (fun _ _ hu => ht.trans hu) t
    rfl

/-- What holds of the entities and of all later identifiers is kept. -/
theorem Frames.keeps {x : GraphSession α} (hx : Frames x) {P : GraphDb → Prop}
    (hP : ∀ s t : GraphDb, s.Frame t → P s → P t) :
    Prog.Triple P x (fun _ => P) (fun _ => P) :=
  fun s hs => (hx s).conseq (fun _ ht => ht) (fun _ t ht => hP s t ht hs)
    (fun _ t ht => hP s t ht hs) s rfl

/-- A check stays within the frame. -/
theorem frames_requireValue (condition : Prop) [Decidable condition] :
    Frames (requireValue condition) := by
  unfold requireValue
  split
  · exact frames_pure ()
  · exact frames_throw .value

/-- A statement stays within the frame. -/
theorem frames_graphStep (step : GraphStep) : Frames (graphStep env step) := by
  refine frames_get.bind fun db => (frames_modify fun s => ?_).bind fun _ => ?_
  · exact ⟨rfl, le_rfl⟩
  · split
    · exact frames_throw _
    · exact frames_pure ()

/-- A look at the clock stays within the frame. -/
theorem frames_graphNow : Frames (graphNow env) := by
  refine frames_get.bind fun db => (frames_modify fun s => ?_).bind fun _ => frames_pure _
  exact ⟨rfl, le_rfl⟩

/-- A new identifier stays within the frame. -/
theorem frames_graphUuid4 : Frames (graphUuid4 env) := by
  refine frames_get.bind fun db => (frames_modify fun s => ?_).bind fun _ => frames_pure _
  exact ⟨rfl, Nat.le_succ _⟩

/-- A given outcome stays within the frame. -/
theorem frames_ofExcept (r : Except Failure α) : Frames (GraphSession.ofExcept r) := by
  cases r with
  | ok a => exact frames_pure a
  | error e => exact frames_throw e

/-- A loop of steps within the frame stays within it. -/
theorem Frames.foldlM {f : α → β → GraphSession α} (hf : ∀ a b, Frames (f a b)) (items : List β)
    (a : α) : Frames (items.foldlM f a) := by
  induction items generalizing a with
  | nil => exact frames_pure a
  | cons item items ih => exact (hf a item).bind ih

/-- A mention stays within the frame. -/
theorem frames_addMention (entityId documentId chunkId : UUID) (mentionText : Str) (confidence : ℚ)
    (source : KnowledgeChunkRecord) :
    Frames (addMention unicode store env entityId documentId chunkId mentionText confidence
      source) := by
  refine (frames_requireValue _).bind fun _ => (frames_graphStep _).bind fun _ =>
    frames_get.bind fun db => (frames_requireValue _).bind fun _ => ?_
  refine (frames_graphStep _).bind fun _ => (frames_requireValue _).bind fun _ =>
    (frames_graphStep _).bind fun _ => frames_get.bind fun db' => ?_
  split
  · refine frames_graphUuid4.bind fun id => frames_graphNow.bind fun createdAt =>
      (frames_graphStep _).bind fun _ => (frames_modify fun s => ?_).bind fun _ => frames_pure _
    exact ⟨rfl, le_rfl⟩
  · exact frames_pure _

/-- A relationship stays within the frame. -/
theorem frames_addRelationship (sourceEntityId targetEntityId : UUID)
    (relationshipType : KnowledgeRelationshipType) (description : Option Str) (confidence : ℚ)
    (sourceChunkId : UUID) :
    Frames (addRelationship store env sourceEntityId targetEntityId relationshipType description
      confidence sourceChunkId) := by
  refine (frames_requireValue _).bind fun _ => (frames_requireValue _).bind fun _ =>
    (frames_graphStep _).bind fun _ => frames_get.bind fun db =>
    (frames_requireValue _).bind fun _ => ?_
  refine (frames_graphStep _).bind fun _ => (frames_requireValue _).bind fun _ =>
    (frames_graphStep _).bind fun _ => (frames_requireValue _).bind fun _ =>
    (frames_graphStep _).bind fun _ => frames_get.bind fun db' => ?_
  split
  · refine frames_graphUuid4.bind fun id => frames_graphNow.bind fun createdAt =>
      (frames_graphStep _).bind fun _ => (frames_modify fun s => ?_).bind fun _ => frames_pure _
    exact ⟨rfl, le_rfl⟩
  · exact frames_pure _

/-- The enrichment with a relationship stays within the frame. -/
theorem frames_enrichRelationship (chunk : KnowledgeChunkRecord)
    (resolved : List (Str × KnowledgeEntityModel)) (ids : Finset UUID)
    (relationship : ExtractedRelationship) :
    Frames (KnowledgeGraphEnrichmentService.enrichRelationship env store chunk resolved ids
      relationship) := by
  unfold KnowledgeGraphEnrichmentService.enrichRelationship
  split
  · exact (frames_addRelationship _ _ _ _ _ _).bind fun _ => frames_pure _
  · exact frames_throw _

end Frames

/-! ## Upserts -/

section Upserts

variable {env : GraphEnv} {unicode : Unicode} {graph graph' : KnowledgeGraph}

/-- A record is the copy of a row. -/
def KnowledgeGraph.Records (graph : KnowledgeGraph) (record : KnowledgeEntityModel) : Prop :=
  ∃ model ∈ graph.entities, model.id = record.id ∧ model.key = record.key

/-- An upsert gives the record under its key. -/
theorem UpsertEffect.record {key : KnowledgeEntityType × Str} {description : Option Str}
    {record : KnowledgeEntityModel} (h : UpsertEffect key description graph record graph') :
    record.key = key ∧ graph'.Records record := by
  cases h with
  | found hfound =>
    obtain ⟨hmem, hkey⟩ := getBy_mem hfound
    exact ⟨hkey, record, hmem, rfl, rfl⟩
  | @described model updatedAt hfound =>
    obtain ⟨hmem, hkey⟩ := getBy_mem hfound
    refine ⟨hkey, _, List.mem_map_of_mem hmem, ?_⟩
    rw [if_pos rfl]
    exact ⟨rfl, rfl⟩
  | added hnew hkey => exact ⟨hkey, record, List.mem_append_right _ List.mem_cons_self, rfl, rfl⟩

/-- Rows keep their identifiers and their keys. -/
theorem UpsertEffect.records {key : KnowledgeEntityType × Str} {description : Option Str}
    {record record' : KnowledgeEntityModel} (h : UpsertEffect key description graph record graph')
    (hrecord : graph.Records record') : graph'.Records record' := by
  obtain ⟨model, hmem, hid, hkey⟩ := hrecord
  cases h with
  | found => exact ⟨model, hmem, hid, hkey⟩
  | described updatedAt =>
    refine ⟨_, List.mem_map_of_mem hmem, ?_⟩
    split
    · exact ⟨hid, hkey⟩
    · exact ⟨hid, hkey⟩
  | added => exact ⟨model, List.mem_append_left _ hmem, hid, hkey⟩

/-- A new row has an identifier of its own, and a changed row keeps the one it has. -/
theorem fresh_upsertEntity (hinjective : Function.Injective env.newId)
    (entityType : KnowledgeEntityType) (canonicalName : Str) (description : Option Str) :
    Prog.Triple (GraphDb.FreshIds env)
      (upsertEntity unicode env entityType canonicalName description)
      (fun _ => GraphDb.FreshIds env) (fun _ => GraphDb.FreshIds env) := by
  have hkeep {α : Type} {x : GraphSession α} (hx : Frames x) :
      Prog.Triple (GraphDb.FreshIds env) x (fun _ => GraphDb.FreshIds env)
        (fun _ => GraphDb.FreshIds env) :=
    hx.keeps fun _ _ hframe hs => hs.frame hframe
  have hreserve {α : Type} {x : GraphSession α} (id : UUID) (hx : Frames x) :
      Prog.Triple (GraphDb.Reserves env id) x (fun _ => GraphDb.Reserves env id)
        (fun _ => GraphDb.FreshIds env) :=
    (hx.keeps fun _ _ hframe hs => hs.frame hframe).conseq (fun _ hs => hs) (fun _ _ hs => hs)
      fun _ _ hs => hs.toFreshIds
  refine (hkeep (frames_requireValue _)).bind fun _ => (hkeep (frames_graphStep _)).bind fun _ =>
    (hkeep frames_get).bind fun db => ?_
  split
  · refine Prog.Triple.bind (Q := GraphDb.Reserves env) ?_ fun id => ?_
    · refine Prog.Triple.bind (Q := fun db s => s = db ∧ s.FreshIds env)
        (Prog.triple_get fun s hs => ⟨rfl, hs⟩) fun db => ?_
      refine Prog.Triple.bind (Q := fun _ => GraphDb.Reserves env (env.newId db.ids))
        (Prog.triple_modify ?_) fun _ => Prog.triple_pure fun s hs => hs
      rintro s ⟨rfl, hs⟩
      refine ⟨⟨hs.ids_nodup, fun n hn => hs.fresh n (Nat.le_of_succ_le hn)⟩,
        hs.fresh _ le_rfl, fun n hn heq => ?_⟩
      exact absurd (hinjective heq) (by change s.ids + 1 ≤ n at hn; omega)
    · refine (hreserve id frames_graphNow).bind fun createdAt =>
        (hreserve id frames_graphNow).bind fun updatedAt =>
        (hreserve id (frames_graphStep _)).bind fun _ => ?_
      refine Prog.Triple.bind (Q := fun _ => GraphDb.FreshIds env) (Prog.triple_modify ?_)
        fun _ => Prog.triple_pure fun s hs => hs
      intro s hs
      have hids : ∀ model : KnowledgeEntityModel,
          (s.working.addEntity model).entities.map KnowledgeEntityModel.id =
            s.working.entities.map KnowledgeEntityModel.id ++ [model.id] :=
        fun model => List.map_append
      refine ⟨?_, fun n hn => ?_⟩
      · rw [hids]
        exact hs.ids_nodup.append (List.nodup_singleton _)
          (List.disjoint_singleton.mpr hs.unused)
      · rw [hids, List.mem_append]
        rintro (hmem | hmem)
        · exact hs.fresh n hn hmem
        · exact hs.taken n hn (List.mem_singleton.mp hmem)
  · split
    · refine (hkeep frames_graphNow).bind fun updatedAt => (hkeep (frames_graphStep _)).bind
        fun _ => ?_
      refine Prog.Triple.bind (Q := fun _ => GraphDb.FreshIds env) (Prog.triple_modify ?_)
        fun _ => Prog.triple_pure fun s hs => hs
      intro s hs
      have hids : ∀ id : UUID, (s.working.describe id description updatedAt).entities.map
          KnowledgeEntityModel.id = s.working.entities.map KnowledgeEntityModel.id := by
        intro id
        rw [KnowledgeGraph.describe, List.map_map]
        refine List.map_congr_left fun m _ => ?_
        dsimp only [Function.comp]
        split <;> rfl
      refine ⟨?_, fun n hn => ?_⟩
      · rw [hids]
        exact hs.ids_nodup
      · rw [hids]
        exact hs.fresh n hn
    · exact Prog.triple_pure fun s hs => hs

end Upserts

/-! ## Chunks -/

/-- The entities of a chunk that have been resolved, in their order: each key leads to the record of
an entity with this key, under the identity of the entity, and no key is missing. -/
structure ChunkEntities.Resolves (unicode : Unicode) (entities : List ExtractedEntity)
    (state : ChunkEntities) (graph : KnowledgeGraph) : Prop where
  accepted_eq : state.acceptedEntities = entities
  resolved : ∀ p ∈ state.resolvedByKey, ∃ e ∈ entities, p.1 = e.localKey ∧
    p.2.key = unicode.entityKey e.entityType e.canonicalName ∧ graph.Records p.2
  complete : ∀ e ∈ entities, e.localKey ∈ state.resolvedByKey.map Prod.fst

/-- A key of a list is found, with a pair of the list. -/
theorem mem_lookup {κ ν : Type} [BEq κ] [LawfulBEq κ] {k : κ} {items : List (κ × ν)}
    (h : k ∈ items.map Prod.fst) : ∃ v, items.lookup k = some v ∧ (k, v) ∈ items := by
  cases hlookup : items.lookup k with
  | none =>
    obtain ⟨p, hp, rfl⟩ := List.mem_map.mp h
    exact absurd (List.lookup_eq_none_iff.mp hlookup p hp) (by simp)
  | some v => exact ⟨v, rfl, mem_of_lookup hlookup⟩

namespace KnowledgeGraphEnrichmentService

section Chunks

variable {service : KnowledgeGraphEnrichmentService} {env : GraphEnv} {store : KnowledgeStore}
  {documentId : UUID} (hinjective : Function.Injective env.newId)

include hinjective

/-- One more entity. -/
theorem resolves_enrichEntity {chunk : KnowledgeChunkRecord} {entities : List ExtractedEntity}
    (state : ChunkEntities) (entity : ExtractedEntity) :
    Prog.Triple
      (fun db => db.FreshIds env ∧ state.Resolves service.unicode entities db.working)
      (service.enrichEntity env store documentId chunk state entity)
      (fun state' db => db.FreshIds env ∧
        state'.Resolves service.unicode (entities ++ [entity]) db.working)
      (fun _ => GraphDb.FreshIds env) := by
  rintro s ⟨hfresh, hstate⟩
  have hupsert : Prog.Triple (· = s)
      (upsertEntity service.unicode env entity.entityType entity.canonicalName entity.description)
      (fun record db => db.FreshIds env ∧
        (record.key = service.unicode.entityKey entity.entityType entity.canonicalName ∧
          db.working.Records record) ∧ state.Resolves service.unicode entities db.working)
      (fun _ => GraphDb.FreshIds env) := by
    refine ((fresh_upsertEntity hinjective _ _ _).and (acts_upsertEntity entity.entityType
      entity.canonicalName entity.description s rfl)).conseq
      (fun t ht => by rw [ht]; exact ⟨hfresh, rfl⟩) (fun record t ht => ?_) fun _ _ ht => ht.1
    obtain ⟨hfresh', -, -, heffect⟩ := ht
    refine ⟨hfresh', heffect.record, hstate.accepted_eq, fun p hp => ?_, hstate.complete⟩
    obtain ⟨e, he, hlocal, hkey, hrecords⟩ := hstate.resolved p hp
    exact ⟨e, he, hlocal, hkey, heffect.records hrecords⟩
  refine (hupsert.bind fun record => ?_) s rfl
  refine Prog.Triple.bind (((frames_addMention _ _ _ _ _ _).keeps ?_).conseq (fun _ ht => ht)
    (fun _ _ ht => ht) fun _ _ ht => ht.1) fun mention => Prog.triple_pure fun t ht => ?_
  · rintro t u hframe ⟨ht, ⟨hkey, hrecord⟩, hresolves⟩
    refine ⟨ht.frame hframe, ⟨hkey, ?_⟩, hresolves.accepted_eq, fun p hp => ?_,
      hresolves.complete⟩
    · rwa [KnowledgeGraph.Records, hframe.entities_eq]
    · obtain ⟨e, he, hlocal, hsame, hrecords⟩ := hresolves.resolved p hp
      refine ⟨e, he, hlocal, hsame, ?_⟩
      rwa [KnowledgeGraph.Records, hframe.entities_eq]
  · obtain ⟨ht, ⟨hkey, hrecord⟩, hresolves⟩ := ht
    refine ⟨ht, ?_, fun p hp => ?_, fun e he => ?_⟩
    · exact congrArg (· ++ [entity]) hresolves.accepted_eq
    · rcases List.mem_cons.mp hp with rfl | hp
      · exact ⟨entity, by simp, rfl, hkey, hrecord⟩
      · obtain ⟨e, he, hrest⟩ := hresolves.resolved p hp
        exact ⟨e, List.mem_append_left _ he, hrest⟩
    · rcases List.mem_append.mp he with he | he
      · exact List.mem_cons_of_mem _ (hresolves.complete e he)
      · rw [List.mem_singleton.mp he]
        exact List.mem_cons_self

/-- All entities of a chunk. The induction is on the entities that are left. -/
theorem resolves_foldlM {chunk : KnowledgeChunkRecord} {done : List ExtractedEntity}
    (entities : List ExtractedEntity) (state : ChunkEntities) :
    Prog.Triple
      (fun db => db.FreshIds env ∧ state.Resolves service.unicode done db.working)
      (entities.foldlM (service.enrichEntity env store documentId chunk) state)
      (fun state' db => db.FreshIds env ∧
        state'.Resolves service.unicode (done ++ entities) db.working)
      (fun _ => GraphDb.FreshIds env) := by
  induction entities generalizing done state with
  | nil =>
    rw [List.append_nil]
    exact Prog.triple_pure fun _ h => h
  | cons entity entities ih =>
    rw [List.foldlM_cons, ← List.singleton_append, ← List.append_assoc]
    exact (resolves_enrichEntity hinjective state entity).bind fun state' => ih state'

/-- The entities of a chunk are resolved to distinct records. -/
theorem resolves_entities (chunk : KnowledgeChunkRecord) (entities : List ExtractedEntity)
    (ids : Finset UUID) :
    Prog.Triple (GraphDb.FreshIds env)
      (entities.foldlM (service.enrichEntity env store documentId chunk) { entityIds := ids })
      (fun state db => db.FreshIds env ∧ state.Resolves service.unicode entities db.working)
      (fun _ => GraphDb.FreshIds env) :=
  (resolves_foldlM hinjective entities _).conseq
    (fun _ hs => ⟨hs, rfl, List.forall_mem_nil _, List.forall_mem_nil _⟩)
    (fun _ _ hs => hs) fun _ _ hs => hs

/-- The enrichment with a chunk leaves fresh identifiers. -/
theorem fresh_enrichChunk (state : EnrichmentState) (chunk : KnowledgeChunkRecord) :
    Prog.Triple (GraphDb.FreshIds env) (service.enrichChunk env store documentId state chunk)
      (fun _ => GraphDb.FreshIds env) (fun _ => GraphDb.FreshIds env) := by
  have hkeep {α : Type} {x : GraphSession α} (hx : Frames x) :
      Prog.Triple (GraphDb.FreshIds env) x (fun _ => GraphDb.FreshIds env)
        (fun _ => GraphDb.FreshIds env) :=
    hx.keeps fun _ _ hframe hs => hs.frame hframe
  refine (hkeep (frames_ofExcept _)).bind fun extracted => ?_
  refine Prog.Triple.bind ((resolves_entities hinjective chunk extracted.entities _).conseq
    (fun _ hs => hs) (fun _ _ hs => hs.1) fun _ _ hs => hs) fun resolved => ?_
  refine (hkeep (frames_ofExcept _)).bind fun relationships => ?_
  exact (hkeep (Frames.foldlM (frames_enrichRelationship chunk _) _ _)).bind fun ids =>
    hkeep (frames_pure _)

/-- The enrichment with all chunks leaves fresh identifiers. -/
theorem fresh_enrichChunks (chunks : List KnowledgeChunkRecord) (state : EnrichmentState) :
    Prog.Triple (GraphDb.FreshIds env)
      (chunks.foldlM (service.enrichChunk env store documentId) state)
      (fun _ => GraphDb.FreshIds env) (fun _ => GraphDb.FreshIds env) := by
  induction chunks generalizing state with
  | nil => exact Prog.triple_pure fun _ hs => hs
  | cons chunk chunks ih =>
    rw [List.foldlM_cons]
    exact (fresh_enrichChunk hinjective state chunk).bind fun state' => ih state'

end Chunks

end KnowledgeGraphEnrichmentService

/-! ## The extractors and the rows -/

/-- What the entity extractor makes of an output: entities of distinct identities under distinct
local keys, in the order in which their identities were first accepted, each of them from the first
of the most confident candidates of its identity. -/
structure OpenAIEntityExtractor.Keeps (extractor : OpenAIEntityExtractor) (output : EntityOutput)
    (result : EntityExtractionResult) : Prop where
  length_le : result.entities.length ≤ extractor.maxEntities
  identities_nodup : (result.entities.map extractor.identity).Nodup
  local_keys_nodup : (result.entities.map ExtractedEntity.localKey).Nodup
  identities_eq : result.entities.map extractor.identity =
    ((distinctBy extractor.identity (output.entities.filterMap extractor.confident)).map
      extractor.identity).take extractor.maxEntities
  first_best : ∀ e ∈ result.entities, ∃ before c after, output.entities = before ++ c :: after ∧
    e = extractor.normalizedEntity c ∧ extractor.minConfidence ≤ c.confidence ∧
    (∀ b ∈ before, extractor.minConfidence ≤ b.confidence →
      extractor.identity (extractor.normalizedEntity b) = extractor.identity e →
        b.confidence < c.confidence) ∧
    ∀ b ∈ after, extractor.minConfidence ≤ b.confidence →
      extractor.identity (extractor.normalizedEntity b) = extractor.identity e →
        b.confidence ≤ c.confidence

namespace OpenAIEntityExtractor

variable {extractor : OpenAIEntityExtractor} {chunkId : UUID} {content : Str}
  {output : EntityOutput} {result : EntityExtractionResult}

/-- What is extracted keeps the entities of the output. -/
theorem keeps_of_extract (hgenerate : extractor.generate chunkId content = .ok output)
    (h : extractor.extract chunkId content = .ok result) : extractor.Keeps output result := by
  obtain ⟨output', s, hgenerate', hselects, hentities⟩ := extract_eq_ok h
  cases hgenerate.symm.trans hgenerate'
  have hidentities : result.entities.map extractor.identity =
      ((distinctBy extractor.identity (output.entities.filterMap extractor.confident)).map
        extractor.identity).take extractor.maxEntities := by
    rw [hentities, List.map_take, hselects.keys_eq, hselects.order_eq]
  refine ⟨?_, ?_, result.local_keys_nodup, hidentities, fun e he => ?_⟩
  · rw [hentities]
    exact List.length_take_le _ _
  · rw [hidentities]
    exact (nodup_map_distinctBy _).sublist (List.take_sublist _ _)
  · rw [hentities] at he
    obtain ⟨before, c, after, hsplit, hc, hbefore, hafter⟩ :=
      (hselects.firstBest e (List.mem_of_mem_take he)).of_filterMap
    obtain ⟨hconfidence, rfl⟩ := confident_eq_some.mp hc
    exact ⟨before, c, after, hsplit, rfl, hconfidence,
      fun b hb hmin hsame => hbefore b hb (extractor.normalizedEntity b)
        (confident_eq_some.mpr ⟨hmin, rfl⟩) hsame,
      fun b hb hmin hsame => hafter b hb (extractor.normalizedEntity b)
        (confident_eq_some.mpr ⟨hmin, rfl⟩) hsame⟩

/-- The row of an extracted entity has its identity. -/
theorem Keeps.entityKey_eq (h : extractor.Keeps output result)
    (laws : extractor.unicode.NormalizationLaws) {e : ExtractedEntity} (he : e ∈ result.entities) :
    extractor.unicode.entityKey e.entityType e.canonicalName = extractor.identity e := by
  obtain ⟨-, c, -, -, rfl, -⟩ := h.first_best e he
  exact Prod.ext rfl
    (congrArg extractor.unicode.normalizeEntityName
      (laws.canonicalize_canonicalize c.canonicalName))

/-- Different keys lead to the rows of different entities. -/
theorem Keeps.resolved_apart (h : extractor.Keeps output result)
    (laws : extractor.unicode.NormalizationLaws) {env : GraphEnv} {db : GraphDb}
    (hfresh : db.FreshIds env) {resolved : ChunkEntities}
    (hresolves : resolved.Resolves extractor.unicode result.entities db.working) {k k' : Str}
    (hk : k ∈ result.entities.map ExtractedEntity.localKey)
    (hk' : k' ∈ result.entities.map ExtractedEntity.localKey) (hne : k ≠ k') :
    ∃ a ∈ result.entities, ∃ b ∈ result.entities, a.localKey = k ∧ b.localKey = k' ∧
      ∃ source target, resolved.resolvedByKey.lookup k = some source ∧
        resolved.resolvedByKey.lookup k' = some target ∧ source.key = extractor.identity a ∧
        target.key = extractor.identity b ∧ source.id ≠ target.id := by
  have hfind : ∀ k ∈ result.entities.map ExtractedEntity.localKey, ∃ e ∈ result.entities,
      e.localKey = k ∧ ∃ record, resolved.resolvedByKey.lookup k = some record ∧
        record.key = extractor.identity e ∧ db.working.Records record := by
    intro k hk
    obtain ⟨e₀, he₀, rfl⟩ := List.mem_map.mp hk
    obtain ⟨record, hlookup, hmem⟩ := mem_lookup (hresolves.complete e₀ he₀)
    obtain ⟨e, he, hlocal, hkey, hrecords⟩ := hresolves.resolved _ hmem
    exact ⟨e, he, hlocal.symm, record, hlookup, hkey.trans (h.entityKey_eq laws he), hrecords⟩
  obtain ⟨a, ha, rfl, source, hsource, hsourceKey, model, hmodel, hid, hkey⟩ := hfind k hk
  obtain ⟨b, hb, rfl, target, htarget, htargetKey, model', hmodel', hid', hkey'⟩ := hfind k' hk'
  refine ⟨a, ha, b, hb, rfl, rfl, source, target, hsource, htarget, hsourceKey, htargetKey,
    fun heq => hne ?_⟩
  -- one identifier, one row, one identity, and so one entity
  have hrow : model = model' := List.inj_on_of_nodup_map hfresh.ids_nodup hmodel hmodel'
    (hid.trans (heq.trans hid'.symm))
  have hidentity : extractor.identity a = extractor.identity b := by
    rw [← hsourceKey, ← htargetKey, ← hkey, ← hkey', hrow]
  rw [List.inj_on_of_nodup_map h.identities_nodup ha hb hidentity]

end OpenAIEntityExtractor

/-- The entity extractor returns exactly if all candidates are grounded, and keeps the first of the
most confident candidates of each identity. While a document is enriched, every relationship that
the other extractor returns for a chunk joins two entities of this chunk, and its two keys lead to
the records of these entities, which are the records of two different rows. -/
theorem enrichment_keeps_entities_apart (entityExtractor : OpenAIEntityExtractor)
    (relationshipExtractor : OpenAIRelationshipExtractor)
    (laws : entityExtractor.unicode.NormalizationLaws) :
    (∀ chunkId content output, entityExtractor.generate chunkId content = .ok output →
      ((∃ result, entityExtractor.extract chunkId content = .ok result) ↔
        ∀ c ∈ output.entities, entityExtractor.Grounded chunkId c) ∧
      ∀ result, entityExtractor.extract chunkId content = .ok result →
        entityExtractor.Keeps output result) ∧
    ∀ env : GraphEnv, Function.Injective env.newId → ∀ (store : KnowledgeStore) (documentId : UUID)
      (db₀ : GraphDb), db₀.FreshIds env → ∀ (before : List KnowledgeChunkRecord)
      (chunk : KnowledgeChunkRecord) (state : EnrichmentState) (db : GraphDb),
      Prog.exec (before.foldlM ((KnowledgeGraphEnrichmentService.openAI entityExtractor
        relationshipExtractor).enrichChunk env store documentId) {}) db₀ = (.ok state, db) →
      ∀ extracted, entityExtractor.extract chunk.chunkId chunk.content = .ok extracted →
      ∀ resolved db', Prog.exec (extracted.entities.foldlM
        ((KnowledgeGraphEnrichmentService.openAI entityExtractor relationshipExtractor).enrichEntity
          env store documentId chunk) { entityIds := state.entityIds }) db = (.ok resolved, db') →
      ∀ result, relationshipExtractor.extract chunk.chunkId chunk.content
        resolved.acceptedEntities = .ok result →
      ∀ r ∈ result.relationships, ∃ a ∈ extracted.entities, ∃ b ∈ extracted.entities,
        a.localKey = r.sourceEntityKey ∧ b.localKey = r.targetEntityKey ∧
        ∃ source target, resolved.resolvedByKey.lookup r.sourceEntityKey = some source ∧
          resolved.resolvedByKey.lookup r.targetEntityKey = some target ∧
          source.key = entityExtractor.identity a ∧ target.key = entityExtractor.identity b ∧
          source.id ≠ target.id := by
  refine ⟨fun chunkId content output hgenerate => ⟨?_, fun result => ?_⟩, ?_⟩
  · rw [OpenAIEntityExtractor.extract_returns_iff, hgenerate]
    constructor
    · rintro ⟨output', houtput, hgrounded⟩
      cases houtput
      exact hgrounded
    · exact fun hgrounded => ⟨output, rfl, hgrounded⟩
  · exact OpenAIEntityExtractor.keeps_of_extract hgenerate
  intro env hinjective store documentId db₀ hfresh before chunk state db hbefore extracted
    hextracted resolved db' hresolved result hresult r hr
  have hdb : db.FreshIds env := (KnowledgeGraphEnrichmentService.fresh_enrichChunks hinjective
    before {}).of_ok hfresh hbefore
  obtain ⟨hfresh', hresolves⟩ := (KnowledgeGraphEnrichmentService.resolves_entities hinjective chunk
    extracted.entities state.entityIds).of_ok hdb hresolved
  obtain ⟨output, hgenerate, -⟩ := OpenAIEntityExtractor.extract_returns_iff.mp ⟨_, hextracted⟩
  rw [hresolves.accepted_eq] at hresult
  obtain ⟨hsource, htarget⟩ := OpenAIRelationshipExtractor.extract_keys hresult r hr
  exact (OpenAIEntityExtractor.keeps_of_extract hgenerate hextracted).resolved_apart laws hfresh'
    hresolves hsource htarget r.reject_self_edge

/-- A candidate of one type. -/
def EntityCandidate.system (chunkId : UUID) (localKey name : Str) (confidence : ℚ) :
    EntityCandidate where
  localKey := localKey
  canonicalName := name
  entityType := .system
  confidence := confidence
  sourceChunkId := chunkId

/-- An extractor whose model names one system twice and then another one. -/
def OpenAIEntityExtractor.crm : OpenAIEntityExtractor where
  unicode := .sharp
  generate chunkId _ :=
    .ok ⟨[.system chunkId "a" "CRM" (1 / 2), .system chunkId "b" " crm" 1,
      .system chunkId "c" "ERP" 1], by simp, by
        simp only [List.map_cons, List.map_nil, EntityCandidate.system]
        decide⟩
  maxEntities := 2
  minConfidence := 1 / 2

/-- An extractor whose model joins the two systems. -/
def OpenAIRelationshipExtractor.crm : OpenAIRelationshipExtractor where
  generate chunkId _ _ :=
    .ok ⟨[{ sourceEntityKey := "b", targetEntityKey := "c", relationshipType := .dependsOn,
            confidence := 1, reject_self_edge := by decide, sourceChunkId := chunkId }], by simp⟩
  minConfidence := 1 / 2

/-- The chunk of the document. -/
def KnowledgeChunkRecord.street : KnowledgeChunkRecord where
  chunkId := 10
  documentId := 1
  chunkIndex := 0
  content := "Street"
  embedding := [1]
  contentHash := "s"
  provenance := {}

/-- The environment of the run. -/
def GraphEnv.counting : GraphEnv where
  clock n := n
  newId := id

/-- The entities that the extractor returns. -/
def crmEntities : List ExtractedEntity :=
  [{ localKey := "b", canonicalName := "crm", entityType := .system, confidence := 1 },
   { localKey := "c", canonicalName := "ERP", entityType := .system, confidence := 1 }]

/-- The second name of the first system is the more confident one, and the relationship joins the
records of the two systems. -/
theorem crm_keeps_entities_apart :
    ∃ extracted resolved db result,
      OpenAIEntityExtractor.crm.extract 10 "Street" = .ok extracted ∧
      extracted.entities = crmEntities ∧
      Prog.exec (extracted.entities.foldlM
        ((KnowledgeGraphEnrichmentService.openAI .crm .crm).enrichEntity .counting .street 1
          .street) { entityIds := ∅ }) (GraphDb.open {}) = (.ok resolved, db) ∧
      OpenAIRelationshipExtractor.crm.extract 10 "Street" resolved.acceptedEntities = .ok result ∧
      result.relationships.length = 1 ∧
      ∀ r ∈ result.relationships, ∃ source target,
        resolved.resolvedByKey.lookup r.sourceEntityKey = some source ∧
        resolved.resolvedByKey.lookup r.targetEntityKey = some target ∧ source.id ≠ target.id := by
  obtain ⟨extracted, hextracted⟩ := except_exists_of_toBool
    (x := OpenAIEntityExtractor.crm.extract 10 "Street") (by decide +kernel)
  have hentities : (OpenAIEntityExtractor.crm.extract 10 "Street").map
      EntityExtractionResult.entities = .ok crmEntities := by decide +kernel
  obtain ⟨resolved, hresolved⟩ := except_exists_of_toBool
    (x := (Prog.exec (crmEntities.foldlM ((KnowledgeGraphEnrichmentService.openAI .crm
      .crm).enrichEntity .counting .street 1 .street) { entityIds := ∅ }) (GraphDb.open {})).1)
    (by decide +kernel)
  have haccepted : (Prog.exec (crmEntities.foldlM ((KnowledgeGraphEnrichmentService.openAI .crm
      .crm).enrichEntity .counting .street 1 .street) { entityIds := ∅ }) (GraphDb.open {})).1.map
        ChunkEntities.acceptedEntities = .ok crmEntities := by decide +kernel
  obtain ⟨result, hresult⟩ := except_exists_of_toBool
    (x := OpenAIRelationshipExtractor.crm.extract 10 "Street" crmEntities) (by decide +kernel)
  have hlength : (OpenAIRelationshipExtractor.crm.extract 10 "Street" crmEntities).map
      (fun result => result.relationships.length) = .ok 1 := by decide +kernel
  rw [hextracted, except_map_ok, Except.ok.injEq] at hentities
  rw [hresolved, except_map_ok, Except.ok.injEq] at haccepted
  rw [hresult, except_map_ok, Except.ok.injEq] at hlength
  have hfresh : (GraphDb.open {}).FreshIds .counting := ⟨List.nodup_nil, by simp [GraphDb.open]⟩
  have hapart := (enrichment_keeps_entities_apart .crm .crm Unicode.sharp_normalizationLaws).2
    .counting Function.injective_id .street 1 (GraphDb.open {}) hfresh [] .street {}
    (GraphDb.open {}) rfl extracted hextracted resolved _
    (by rw [hentities]; exact Prod.ext hresolved rfl) result (by rw [haccepted]; exact hresult)
  refine ⟨extracted, resolved, _, result, hextracted, hentities,
    by rw [hentities]; exact Prod.ext hresolved rfl, by rw [haccepted]; exact hresult, hlength,
    fun r hr => ?_⟩
  obtain ⟨-, -, -, -, -, -, source, target, hsource, htarget, -, -, hne⟩ := hapart r hr
  exact ⟨source, target, hsource, htarget, hne⟩

end AssessmentPlatform
