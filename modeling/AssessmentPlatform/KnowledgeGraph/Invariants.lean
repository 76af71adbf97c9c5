import AssessmentPlatform.KnowledgeGraph.EnrichmentRuns

/-!
# Invariants of enrichment

Enrichment changes the tables only through the repository. What the three operations of the
repository and the statements between them keep is so kept by every enrichment, and it holds of the
graph that is committed in the end.
-/

namespace AssessmentPlatform

open Library

/-- A given outcome keeps everything. -/
theorem keeps_ofExcept {α : Type} {I : GraphDb → Prop} (r : Except Failure α) :
    Prog.Keeps I (GraphSession.ofExcept r) := by
  cases r with
  | ok a => exact Prog.keeps_pure a
  | error e => exact Prog.keeps_throw e

/-- An invariant of the working copy is kept by a program whose effects keep it. -/
theorem keeps_of_acts {α : Type} {env : GraphEnv} (C : KnowledgeGraph → Prop) {x : GraphSession α}
    {effect : KnowledgeGraph → α → KnowledgeGraph → Prop}
    {rejects : KnowledgeGraph → Failure → Prop} (hx : ∀ g, Acts env g x (effect g) (rejects g))
    (hkeeps : ∀ g a g', effect g a g' → C g → C g') :
    Prog.Keeps (fun s : GraphDb => C s.working) x := by
  intro s hs
  refine (hx s.working s rfl).conseq (fun _ ht => ht) (fun a t ht => ?_) (fun e t ht => ?_) s rfl
  · exact hkeeps _ a _ ht.2 hs
  · rw [ht.1.2]
    exact hs

/-- The statements and the operations of the repository keep an invariant. -/
structure RepositoryKeeps (unicode : Unicode) (store : KnowledgeStore) (env : GraphEnv)
    (I : GraphDb → Prop) : Prop where
  step : ∀ step, Prog.Keeps I (graphStep env step)
  upsertEntity : ∀ entityType canonicalName description,
    Prog.Keeps I (upsertEntity unicode env entityType canonicalName description)
  addMention : ∀ entityId documentId chunkId mentionText confidence source, Prog.Keeps I
    (addMention unicode store env entityId documentId chunkId mentionText confidence source)
  addRelationship : ∀ sourceEntityId targetEntityId relationshipType description confidence
    sourceChunkId, Prog.Keeps I (addRelationship store env sourceEntityId targetEntityId
      relationshipType description confidence sourceChunkId)

namespace RepositoryKeeps

variable {service : KnowledgeGraphEnrichmentService} {store : KnowledgeStore} {env : GraphEnv}
  {documentId : UUID} {graph : KnowledgeGraph} {I : GraphDb → Prop}

/-- The enrichment with an entity keeps what the repository keeps. -/
theorem enrichEntity (h : RepositoryKeeps service.unicode store env I)
    (chunk : KnowledgeChunkRecord) (state : ChunkEntities) (entity : ExtractedEntity) :
    Prog.Keeps I (service.enrichEntity env store documentId chunk state entity) :=
  (h.upsertEntity _ _ _).bind fun _ =>
    (h.addMention _ _ _ _ _ _).bind fun _ => Prog.keeps_pure _

/-- The enrichment with a relationship keeps what the repository keeps. -/
theorem enrichRelationship (h : RepositoryKeeps service.unicode store env I)
    (chunk : KnowledgeChunkRecord) (resolved : List (Str × KnowledgeEntityModel))
    (ids : Finset UUID) (relationship : ExtractedRelationship) :
    Prog.Keeps I (KnowledgeGraphEnrichmentService.enrichRelationship env store chunk resolved ids
      relationship) := by
  unfold KnowledgeGraphEnrichmentService.enrichRelationship
  split
  · exact (h.addRelationship _ _ _ _ _ _).bind fun _ => Prog.keeps_pure _
  · exact Prog.keeps_throw _

/-- The enrichment with a chunk keeps what the repository keeps. -/
theorem enrichChunk (h : RepositoryKeeps service.unicode store env I) (state : EnrichmentState)
    (chunk : KnowledgeChunkRecord) :
    Prog.Keeps I (service.enrichChunk env store documentId state chunk) := by
  refine (keeps_ofExcept _).bind fun extracted => ?_
  refine (Prog.Keeps.foldlM (h.enrichEntity chunk) _ _).bind fun resolved => ?_
  refine (keeps_ofExcept _).bind fun relationships => ?_
  refine (Prog.Keeps.foldlM (h.enrichRelationship chunk _) _ _).bind fun ids => ?_
  exact Prog.keeps_pure _

/-- The enrichment with a document keeps what the repository keeps. -/
theorem enrichDocument (h : RepositoryKeeps service.unicode store env I) :
    Prog.Keeps I (service.enrichDocument env store documentId) := by
  refine (h.step _).bind fun _ => ?_
  split
  · exact Prog.keeps_throw _
  · exact (h.step _).bind fun _ => Prog.Keeps.foldlM h.enrichChunk _ _

/-- What the working copy satisfies under the invariant holds of the committed graph. -/
theorem enrichGraph (h : RepositoryKeeps service.unicode store env I)
    (C : KnowledgeGraph → Prop) (hopen : I (GraphDb.open graph)) (hworking : ∀ s, I s → C s.working)
    (hgraph : C graph) : C (service.enrichGraph env store documentId graph).2 := by
  cases houtcome : (service.enrichGraph env store documentId graph).1 with
  | error e =>
    rw [KnowledgeGraphEnrichmentService.enrichGraph_error houtcome]
    exact hgraph
  | ok result =>
    have hresult : Prog.exec (service.enrich env store documentId) (GraphDb.open graph) =
        (.ok result, (Prog.exec (service.enrich env store documentId) (GraphDb.open graph)).2) :=
      Prod.ext houtcome rfl
    obtain ⟨state, s₁, hdocument, hcommitted, -⟩ :=
      KnowledgeGraphEnrichmentService.enrich_eq_ok hresult
    have hkept : I s₁ := Prog.Triple.of_ok h.enrichDocument hopen hdocument
    change C (Prog.exec (service.enrich env store documentId) (GraphDb.open graph)).2.committed
    rw [hcommitted]
    exact hworking s₁ hkept

end RepositoryKeeps

end AssessmentPlatform
