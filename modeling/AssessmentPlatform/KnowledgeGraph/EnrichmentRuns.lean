import AssessmentPlatform.KnowledgeGraph.Idempotence

/-!
# Runs of graph enrichment

What holds of the committed graph: its keys are unique and no relationship joins an entity with
itself in every graph that enrichments of any documents by any extractors produce, a failed
enrichment leaves it, and so does a repeated one.
-/

namespace AssessmentPlatform

open Library

/-- Unique keys, and no self-edges. -/
structure KnowledgeGraph.WellKeyed (graph : KnowledgeGraph) : Prop where
  entity_keys : (graph.entities.map KnowledgeEntityModel.key).Nodup
  mention_keys : (graph.mentions.map KnowledgeEntityMentionModel.key).Nodup
  relationship_keys : (graph.relationships.map KnowledgeRelationshipModel.key).Nodup
  no_self_edge : ∀ r ∈ graph.relationships, r.sourceEntityId ≠ r.targetEntityId

/-- The empty graph is keyed. -/
theorem KnowledgeGraph.wellKeyed_empty : KnowledgeGraph.WellKeyed {} :=
  ⟨List.nodup_nil, List.nodup_nil, List.nodup_nil, fun _ hr => nomatch hr⟩

section Steps

variable {store : KnowledgeStore} {graph graph' : KnowledgeGraph}

/-- An upsert keeps the graph keyed. -/
theorem UpsertEffect.wellKeyed {key : KnowledgeEntityType × Str} {description : Option Str}
    {model : KnowledgeEntityModel} (h : UpsertEffect key description graph model graph')
    (hgraph : graph.WellKeyed) : graph'.WellKeyed := by
  cases h with
  | found => exact hgraph
  | @described model updatedAt =>
    refine { hgraph with entity_keys := ?_ }
    have hkeys : (graph.describe model.id description updatedAt).entities.map
        KnowledgeEntityModel.key = graph.entities.map KnowledgeEntityModel.key := by
      rw [KnowledgeGraph.describe, List.map_map]
      refine List.map_congr_left fun m _ => ?_
      dsimp only [Function.comp]
      split <;> rfl
    rw [hkeys]
    exact hgraph.entity_keys
  | added hnew hkey =>
    exact { hgraph with entity_keys := nodup_map_concat hgraph.entity_keys hnew hkey }

/-- A mention that is added once keeps the graph keyed. -/
theorem wellKeyed_mentions {mentions : List KnowledgeEntityMentionModel}
    {model : KnowledgeEntityMentionModel} {key : UUID × UUID}
    (h : AddedOnce KnowledgeEntityMentionModel.key key graph.mentions model mentions)
    (hgraph : graph.WellKeyed) : KnowledgeGraph.WellKeyed { graph with mentions } :=
  { hgraph with mention_keys := h.nodup hgraph.mention_keys }

/-- A relationship that is added once, between two entities, keeps the graph keyed. -/
theorem wellKeyed_relationships {relationships : List KnowledgeRelationshipModel}
    {model : KnowledgeRelationshipModel} {source target chunk : UUID}
    {relationshipType : KnowledgeRelationshipType} (hself : source ≠ target)
    (h : AddedOnce KnowledgeRelationshipModel.key (source, target, relationshipType, chunk)
      graph.relationships model relationships)
    (hgraph : graph.WellKeyed) : KnowledgeGraph.WellKeyed { graph with relationships } := by
  refine { hgraph with relationship_keys := h.nodup hgraph.relationship_keys, no_self_edge := ?_ }
  cases h with
  | found => exact hgraph.no_self_edge
  | added hnew hkey =>
    intro r hr
    rcases List.mem_append.mp hr with hr | hr
    · exact hgraph.no_self_edge r hr
    · rw [List.mem_singleton.mp hr]
      simp only [KnowledgeRelationshipModel.key, Prod.mk.injEq] at hkey
      rwa [hkey.1, hkey.2.1]

end Steps

/-! ## One run -/

/-- The committed graph is the one of the beginning, and the working copy is well keyed if it
was in the beginning. -/
def Uncommitted (graph : KnowledgeGraph) (s : GraphDb) : Prop :=
  s.committed = graph ∧ (graph.WellKeyed → s.working.WellKeyed)

/-- A program that commits nothing and keeps the keys. -/
def Prepares {α : Type} (graph : KnowledgeGraph) (x : GraphSession α) : Prop :=
  Prog.Triple (Uncommitted graph) x (fun _ => Uncommitted graph) (fun _ => Uncommitted graph)

section Preparation

variable {α β : Type} {unicode : Unicode} {store : KnowledgeStore} {env : GraphEnv}
  {graph : KnowledgeGraph}

/-- A value commits nothing. -/
theorem prepares_pure (a : α) : Prepares graph (pure a) :=
  Prog.triple_pure fun _ hs => hs

/-- A failure commits nothing. -/
theorem prepares_throw (e : Failure) : Prepares graph (throw e : GraphSession α) :=
  Prog.triple_throw fun _ hs => hs

/-- A sequence of steps that commit nothing commits nothing. -/
theorem Prepares.bind {x : GraphSession α} {f : α → GraphSession β} (hx : Prepares graph x)
    (hf : ∀ a, Prepares graph (f a)) : Prepares graph (x >>= f) :=
  Prog.Triple.bind hx hf

/-- A loop of steps that commit nothing commits nothing. -/
theorem Prepares.foldlM {f : α → β → GraphSession α} (hf : ∀ a b, Prepares graph (f a b))
    (items : List β) (a : α) : Prepares graph (items.foldlM f a) := by
  induction items generalizing a with
  | nil => exact prepares_pure a
  | cons item items ih => exact (hf a item).bind ih

/-- The effects on the working copy keep the keys. -/
theorem prepares_of_acts {x : GraphSession α}
    {effect : KnowledgeGraph → α → KnowledgeGraph → Prop}
    {rejects : KnowledgeGraph → Failure → Prop}
    (hx : ∀ g, Acts env g x (effect g) (rejects g))
    (hkeys : ∀ g a g', effect g a g' → g.WellKeyed → g'.WellKeyed) : Prepares graph x := by
  intro s ⟨hcommitted, hworking⟩
  refine (hx s.working s rfl).conseq (fun _ ht => ht) (fun a t ht => ?_) (fun e t ht => ?_) s rfl
  · exact ⟨ht.1.trans hcommitted, fun h => hkeys _ a _ ht.2 (hworking h)⟩
  · refine ⟨ht.1.1.trans hcommitted, fun h => ?_⟩
    rw [ht.1.2]
    exact hworking h

/-- A statement commits nothing. -/
theorem prepares_step (step : GraphStep) : Prepares graph (graphStep env step) := by
  refine prepares_of_acts (fun g => reads_step_only step) ?_
  rintro g _ _ ⟨rfl, -⟩ h
  exact h

/-- A given outcome commits nothing. -/
theorem prepares_ofExcept (r : Except Failure α) : Prepares graph (GraphSession.ofExcept r) := by
  cases r with
  | ok a => exact prepares_pure a
  | error e => exact prepares_throw e

/-- `upsert_entity` commits nothing. -/
theorem prepares_upsertEntity (entityType : KnowledgeEntityType) (canonicalName : Str)
    (description : Option Str) :
    Prepares graph (upsertEntity unicode env entityType canonicalName description) :=
  prepares_of_acts (fun _ => acts_upsertEntity entityType canonicalName description)
    fun _ _ _ h hg => h.2.wellKeyed hg

/-- `add_mention` commits nothing. -/
theorem prepares_addMention (entityId documentId chunkId : UUID) (mentionText : Str)
    (confidence : ℚ) (source : KnowledgeChunkRecord) :
    Prepares graph
      (addMention unicode store env entityId documentId chunkId mentionText confidence source) := by
  refine prepares_of_acts (fun _ => acts_addMention entityId documentId chunkId mentionText
    confidence source) ?_
  rintro g model _ ⟨-, mentions, rfl, hadded⟩ hg
  exact wellKeyed_mentions hadded hg

/-- `add_relationship` commits nothing. -/
theorem prepares_addRelationship (sourceEntityId targetEntityId : UUID)
    (relationshipType : KnowledgeRelationshipType) (description : Option Str) (confidence : ℚ)
    (sourceChunkId : UUID) :
    Prepares graph (addRelationship store env sourceEntityId targetEntityId relationshipType
      description confidence sourceChunkId) := by
  refine prepares_of_acts (fun _ => acts_addRelationship sourceEntityId targetEntityId
    relationshipType description confidence sourceChunkId) ?_
  rintro g model _ ⟨hallowed, relationships, rfl, hadded⟩ hg
  exact wellKeyed_relationships hallowed.no_self_edge hadded hg

end Preparation

namespace KnowledgeGraphEnrichmentService

variable {service : KnowledgeGraphEnrichmentService} {store : KnowledgeStore} {env env' : GraphEnv}
  {documentId : UUID} {graph : KnowledgeGraph}

/-- The enrichment with an entity commits nothing. -/
theorem prepares_enrichEntity (chunk : KnowledgeChunkRecord) (state : ChunkEntities)
    (entity : ExtractedEntity) :
    Prepares graph (service.enrichEntity env store documentId chunk state entity) :=
  (prepares_upsertEntity _ _ _).bind fun _ =>
    (prepares_addMention _ _ _ _ _ _).bind fun _ => prepares_pure _

/-- The enrichment with a relationship commits nothing. -/
theorem prepares_enrichRelationship (chunk : KnowledgeChunkRecord)
    (resolved : List (Str × KnowledgeEntityModel)) (ids : Finset UUID)
    (relationship : ExtractedRelationship) :
    Prepares graph (enrichRelationship env store chunk resolved ids relationship) := by
  unfold enrichRelationship
  split
  · exact (prepares_addRelationship _ _ _ _ _ _).bind fun _ => prepares_pure _
  · exact prepares_throw _

/-- The enrichment with a chunk commits nothing. -/
theorem prepares_enrichChunk (state : EnrichmentState) (chunk : KnowledgeChunkRecord) :
    Prepares graph (service.enrichChunk env store documentId state chunk) := by
  refine (prepares_ofExcept _).bind fun extracted => ?_
  refine (Prepares.foldlM (prepares_enrichEntity chunk) _ _).bind fun resolved => ?_
  refine (prepares_ofExcept _).bind fun relationships => ?_
  refine (Prepares.foldlM (prepares_enrichRelationship chunk _) _ _).bind fun ids => ?_
  exact prepares_pure _

/-- Nothing is committed before the end, and the keys stay unique. -/
theorem prepares_enrichDocument :
    Prepares graph (service.enrichDocument env store documentId) := by
  refine (prepares_step _).bind fun _ => ?_
  split
  · exact prepares_throw _
  · exact (prepares_step _).bind fun _ => Prepares.foldlM prepares_enrichChunk _ _

/-- The handlers raise, and they commit nothing. -/
theorem triple_recoverEnrichment {α : Type} {e : Failure} :
    Prog.Triple (fun s : GraphDb => s.committed = graph)
      (recoverEnrichment env e : GraphSession α) (fun _ _ => False)
      (fun _ s => s.committed = graph) := by
  have hrollback : ∀ e' : Failure, Prog.Triple (fun s : GraphDb => s.committed = graph)
      (do graphRollback env; throw e' : GraphSession α) (fun _ _ => False)
      (fun _ s => s.committed = graph) := by
    intro e'
    refine Prog.Triple.bind (Q := fun _ s => s.committed = graph) ?_
      fun _ => Prog.triple_throw fun _ hs => hs
    refine Prog.Triple.bind (Q := fun _ s => s.committed = graph) ?_
      fun _ => Prog.triple_modify fun _ hs => hs
    intro s hs
    exact (reads_step_only GraphStep.rollback s rfl).conseq
      (fun _ ht => ht) (fun _ t ht => ht.1.trans hs) (fun _ t ht => ht.1.1.trans hs) s rfl
  cases e with
  | application error => exact hrollback _
  | database error => exact hrollback _
  | value => exact hrollback _
  | other => exact Prog.triple_throw fun _ hs => hs

/-- The recovery from a failure raises. -/
theorem recoverEnrichment_ne_ok {α : Type} {e : Failure} {s s' : GraphDb} {a : α} :
    Prog.exec (recoverEnrichment env e : GraphSession α) s ≠ (.ok a, s') :=
  fun h => triple_recoverEnrichment.of_ok rfl h

/-- A commit publishes the working copy, or it fails and publishes nothing. -/
theorem triple_graphCommit (s : GraphDb) :
    Prog.Triple (· = s) (graphCommit env) (fun _ t => t.committed = s.working)
      (fun e t => t.committed = s.committed ∧ env.Faults e) := by
  refine Prog.Triple.bind (Q := fun _ t => s.Same t) ?_
    fun _ => Prog.triple_modify fun t ht => ht.2
  exact (reads_step_only GraphStep.commit s rfl).conseq
    (fun _ ht => ht) (fun _ t ht => ⟨ht.1, ht.2.1⟩) (fun e t ht => ⟨ht.1.1, ht.2.resolve_left id⟩)

/-- What `enrich` guards. -/
theorem triple_enrichment :
    Prog.Triple (Uncommitted graph)
      (do
        let state ← service.enrichDocument env store documentId
        graphCommit env
        pure state)
      (fun _ s => graph.WellKeyed → s.committed.WellKeyed) (fun _ s => s.committed = graph) := by
  refine Prog.Triple.bind (Q := fun _ => Uncommitted graph) ?_ fun state => ?_
  · exact Prog.Triple.conseq prepares_enrichDocument (fun _ hs => hs) (fun _ _ hs => hs)
      fun _ _ hs => hs.1
  · refine Prog.Triple.bind (Q := fun _ s => graph.WellKeyed → s.committed.WellKeyed) ?_
      fun _ => Prog.triple_pure fun _ hs => hs
    intro s ⟨hcommitted, hworking⟩
    refine (triple_graphCommit s).conseq (fun _ ht => ht) (fun _ t ht h => ?_)
      (fun _ t ht => ht.1.trans hcommitted) s rfl
    rw [ht]
    exact hworking h

/-- A failed enrichment leaves the graph, and a successful one keeps the keys. -/
theorem triple_enrich :
    Prog.Triple (· = GraphDb.open graph) (service.enrich env store documentId)
      (fun _ s => graph.WellKeyed → s.committed.WellKeyed) (fun _ s => s.committed = graph) := by
  refine Prog.Triple.bind (Q := fun _ s => graph.WellKeyed → s.committed.WellKeyed) ?_
    fun _ => Prog.triple_pure fun _ hs => hs
  refine Prog.Triple.tryCatch (E := fun _ s => s.committed = graph) ?_ fun e => ?_
  · refine triple_enrichment.conseq (fun s hs => ?_) (fun _ _ hs => hs) fun _ _ hs => hs
    subst hs
    exact ⟨rfl, id⟩
  · exact triple_recoverEnrichment.conseq (fun _ hs => hs) (fun _ _ hs => hs.elim)
      fun _ _ hs => hs

/-- A guarded program that returns has not been interrupted. -/
theorem guarded_eq_ok {α : Type} {x : GraphSession α} {s s' : GraphDb} {a : α}
    (h : Prog.exec (tryCatch x (recoverEnrichment env)) s = (.ok a, s')) :
    Prog.exec x s = (.ok a, s') := by
  rw [Prog.exec_tryCatch] at h
  cases hx : Prog.exec x s with
  | mk outcome s₁ =>
    rw [hx] at h
    cases outcome with
    | ok a => exact h
    | error e => exact absurd h recoverEnrichment_ne_ok

/-- An enrichment that returns has run its statements and committed them. -/
theorem enrich_eq_ok {s s' : GraphDb} {result : KnowledgeGraphEnrichmentResult}
    (h : Prog.exec (service.enrich env store documentId) s = (.ok result, s')) :
    ∃ state s₁, Prog.exec (service.enrichDocument env store documentId) s = (.ok state, s₁) ∧
      s'.committed = s₁.working ∧
      result = { documentId
                 entityCount := state.entityIds.card
                 relationshipCount := state.relationshipIds.card } := by
  unfold enrich at h
  obtain ⟨state, s₂, hguarded, hresult⟩ := Prog.exec_bind_eq_ok h
  cases hresult
  obtain ⟨state', s₁, hdocument, hrest⟩ := Prog.exec_bind_eq_ok (guarded_eq_ok hguarded)
  obtain ⟨u, s₃, hcommit, hpure⟩ := Prog.exec_bind_eq_ok hrest
  cases hpure
  exact ⟨state, s₁, hdocument, (triple_graphCommit s₁).of_ok rfl hcommit, rfl⟩

/-- An enrichment that has returned is repeated without an effect. -/
theorem triple_enrich_again {s' : GraphDb} {result : KnowledgeGraphEnrichmentResult}
    (h : Prog.exec (service.enrich env store documentId) (GraphDb.open graph) = (.ok result, s')) :
    Prog.Triple (· = GraphDb.open s'.committed) (service.enrich env' store documentId)
      (fun result' t => result' = result ∧ t.committed = s'.committed)
      (fun _ t => t.committed = s'.committed ∧ ∃ e, env'.Faults e) := by
  obtain ⟨state, s₁, hdocument, hcommitted, rfl⟩ := enrich_eq_ok h
  have hreplays : Prog.Replays graphGrowth env'.Faults (fun state state' => state' = state)
      (service.enrichDocument env store documentId)
      (service.enrichDocument env' store documentId) := replays_enrichDocument documentId
  obtain ⟨-, hagain⟩ := hreplays _ _ _ hdocument
  have hrun := hagain (GraphDb.open s'.committed) (by
    change s₁.working.Grows s'.committed
    rw [hcommitted]
    exact .refl s₁.working)
  refine Prog.Triple.bind (Q := fun state' t => state' = state ∧ t.committed = s'.committed) ?_
    fun state' => Prog.triple_pure fun t ht => ⟨by rw [ht.1], ht.2⟩
  refine Prog.Triple.tryCatch
    (E := fun _ t => t.committed = s'.committed ∧ ∃ e, env'.Faults e) ?_ fun e => ?_
  · refine Prog.Triple.bind (Q := fun state' t => state' = state ∧ t.committed = s'.committed ∧
      t.working = s'.committed) ?_ fun state' => ?_
    · exact hrun.conseq (fun _ ht => ht) (fun _ t ht => ⟨ht.1, ht.2.1, ht.2.2⟩)
        fun e t ht => ⟨ht.2.1, e, ht.1⟩
    · rintro t ⟨rfl, ht, hworking⟩
      refine Prog.Triple.bind (P := (· = t)) (Q := fun _ u => u.committed = s'.committed) ?_
        (fun _ => Prog.triple_pure fun u hu => ⟨rfl, hu⟩) t rfl
      exact (triple_graphCommit t).conseq (fun _ hu => hu) (fun _ u hu => hu.trans hworking)
        fun e u hu => ⟨hu.1.trans ht, e, hu.2⟩
  · rintro t ⟨ht, hfaults⟩
    exact triple_recoverEnrichment.conseq (fun u hu => by rw [← hu, ht])
      (fun _ _ hu => hu.elim) (fun _ _ hu => ⟨hu, hfaults⟩) t rfl

/-! ## Committed graphs -/

/-- The graphs that enrichments produce, of any documents by any extractors. -/
inductive Reachable : KnowledgeGraph → Prop
  | empty : Reachable {}
  | enrich {graph : KnowledgeGraph} (service : KnowledgeGraphEnrichmentService) (env : GraphEnv)
      (store : KnowledgeStore) (documentId : UUID) (h : Reachable graph) :
      Reachable (service.enrichGraph env store documentId graph).2

/-- An enrichment that fails leaves the graph as it was. -/
theorem enrichGraph_error {e : Failure}
    (h : (service.enrichGraph env store documentId graph).1 = .error e) :
    (service.enrichGraph env store documentId graph).2 = graph :=
  triple_enrich.of_error rfl (Prod.ext h rfl)

/-- An enrichment keeps the graph keyed. -/
theorem enrichGraph_wellKeyed (h : graph.WellKeyed) :
    (service.enrichGraph env store documentId graph).2.WellKeyed := by
  cases houtcome : (service.enrichGraph env store documentId graph).1 with
  | ok result =>
    have hresult : Prog.exec (service.enrich env store documentId) (GraphDb.open graph) =
        (.ok result, (Prog.exec (service.enrich env store documentId) (GraphDb.open graph)).2) :=
      Prod.ext houtcome rfl
    exact triple_enrich.of_ok rfl hresult h
  | error e =>
    rw [enrichGraph_error houtcome]
    exact h

/-- Every reachable graph is keyed. -/
theorem Reachable.wellKeyed (h : Reachable graph) : graph.WellKeyed := by
  induction h with
  | empty => exact KnowledgeGraph.wellKeyed_empty
  | enrich service env store documentId _ ih => exact enrichGraph_wellKeyed ih

/-- For every store, every document and deterministic extractors: a repeated enrichment leaves
the committed graph and returns what the first one has returned unless the database fails, the
keys of every reachable graph are unique and it has no self-edges, and a failed enrichment
leaves the committed graph. -/
theorem enrichment_idempotent_and_atomic (service : KnowledgeGraphEnrichmentService)
    (store : KnowledgeStore) (documentId : UUID) :
    (∀ graph env env' result, (service.enrichGraph env store documentId graph).1 = .ok result →
      let graph' := (service.enrichGraph env store documentId graph).2
      let again := service.enrichGraph env' store documentId graph'
      again.2 = graph' ∧ (∀ result', again.1 = .ok result' → result' = result) ∧
        ((∀ e, ¬ env'.Faults e) → again.1 = .ok result)) ∧
    (∀ graph, Reachable graph → graph.WellKeyed) ∧
    (∀ graph env e, (service.enrichGraph env store documentId graph).1 = .error e →
      (service.enrichGraph env store documentId graph).2 = graph) := by
  refine ⟨fun graph env env' result hresult => ?_, fun graph h => h.wellKeyed,
    fun graph env e => enrichGraph_error⟩
  have hfirst : Prog.exec (service.enrich env store documentId) (GraphDb.open graph) =
      (.ok result, (Prog.exec (service.enrich env store documentId) (GraphDb.open graph)).2) :=
    Prod.ext hresult rfl
  have hagain : Prog.Triple _ (service.enrich env' store documentId) _ _ :=
    triple_enrich_again hfirst
  dsimp only
  cases houtcome : (service.enrichGraph env' store documentId
      (service.enrichGraph env store documentId graph).2).1 with
  | ok result' =>
    obtain ⟨rfl, hcommitted⟩ := hagain.of_ok rfl (Prod.ext houtcome rfl)
    exact ⟨hcommitted, fun _ heq => (Except.ok.inj heq).symm, fun _ => rfl⟩
  | error e =>
    obtain ⟨hcommitted, e', he'⟩ := hagain.of_error rfl (Prod.ext houtcome rfl)
    refine ⟨hcommitted, fun result' heq => ?_, fun hnone => absurd he' (hnone e')⟩
    cases heq

/-- A document of one chunk. -/
def portalStore : KnowledgeStore where
  documents :=
    [{ documentId := 1, title := "Synthetic review policy", sourceType := .synthetic,
       content := "Loan Portal is governed by Review Policy.", contentHash := "e",
       createdAt := 0 }]
  chunks :=
    [{ chunkId := 10, documentId := 1, chunkIndex := 0,
       content := "Loan Portal is governed by Review Policy.", embedding := [1, 0, 0],
       contentHash := "e", provenance := {} }]

/-- Two entities and a relationship in every chunk; names of lower-case letters stay. -/
def portalService : KnowledgeGraphEnrichmentService where
  unicode := { nfkc := id, casefold := id }
  extractEntities _ _ := .ok
    { entities :=
        [{ localKey := "portal", canonicalName := "loan portal", entityType := .system,
           confidence := 19 / 20 },
         { localKey := "policy", canonicalName := " review  policy", entityType := .policy,
           description := some "Governs reviews.", confidence := 9 / 10 }]
      entities_length := by decide
      local_keys_nodup := by decide +kernel }
  extractRelationships _ _ _ := .ok
    { relationships :=
        [{ sourceEntityKey := "portal", targetEntityKey := "policy",
           relationshipType := .governedBy, confidence := 9 / 10,
           reject_self_edge := by decide +kernel }]
      relationships_length := by decide }

/-- An environment without failures. -/
def portalEnv (first : ℕ) : GraphEnv where
  clock n := first + n
  newId n := first + n

/-- The document is enriched twice, by two entities and one relationship. -/
theorem portal_enrichment_idempotent :
    (portalService.enrichGraph (portalEnv 100) portalStore 1 {}).1 =
        .ok { documentId := 1, entityCount := 2, relationshipCount := 1 } ∧
      (portalService.enrichGraph (portalEnv 200) portalStore 1
        (portalService.enrichGraph (portalEnv 100) portalStore 1 {}).2).2 =
      (portalService.enrichGraph (portalEnv 100) portalStore 1 {}).2 := by
  have hfirst : (portalService.enrichGraph (portalEnv 100) portalStore 1 {}).1 =
      .ok { documentId := 1, entityCount := 2, relationshipCount := 1 } := by decide +kernel
  exact ⟨hfirst, ((enrichment_idempotent_and_atomic portalService portalStore 1).1 {}
    (portalEnv 100) (portalEnv 200) _ hfirst).1⟩

end KnowledgeGraphEnrichmentService

end AssessmentPlatform
