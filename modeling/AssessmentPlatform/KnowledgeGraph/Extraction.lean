import AssessmentPlatform.KnowledgeGraph.Enrichment
import AssessmentPlatform.KnowledgeGraph.Names
import AssessmentPlatform.Library.Selection

/-!
# Extraction of entities and relationships

The two extractors of `app/knowledge_graph/extraction.py`, over a parameter for the structured
output of the model. Both keep, for each identity, the first of the candidates of the highest
confidence. What the entity extractor returns has one entity for each identity, under distinct local
keys, and the enrichment of a chunk turns different identities into different rows.

The bounds of the single fields of a candidate are left out, since nothing here depends on them.
-/

namespace AssessmentPlatform

open Library

/-! ## The source -/

/-- An entity candidate with the chunk that it names as its source. -/
structure EntityCandidate extends ExtractedEntity where
  sourceChunkId : UUID

/-- The entity output of the model, as `EntityExtractionResult` accepts it. -/
structure EntityOutput where
  entities : List EntityCandidate
  entities_length : entities.length ≤ 100
  local_keys_nodup : (entities.map fun c => c.localKey).Nodup

/-- A relationship candidate with the chunk that it names as its source. -/
structure RelationshipCandidate extends ExtractedRelationship where
  sourceChunkId : UUID

/-- The relationship output of the model, as `RelationshipExtractionResult` accepts it. -/
structure RelationshipOutput where
  relationships : List RelationshipCandidate
  relationships_length : relationships.length ≤ 200

/-- The validation of `EntityExtractionResult`. -/
def EntityExtractionResult.create (entities : List ExtractedEntity) :
    Except Failure EntityExtractionResult :=
  if h : entities.length ≤ 100 ∧ (entities.map ExtractedEntity.localKey).Nodup then
    .ok ⟨entities, h.1, h.2⟩
  else .error .value

/-- The validation of `RelationshipExtractionResult`. -/
def RelationshipExtractionResult.create (relationships : List ExtractedRelationship) :
    Except Failure RelationshipExtractionResult :=
  if h : relationships.length ≤ 200 then .ok ⟨relationships, h⟩ else .error .value

/-- Extract, normalize, filter, and deduplicate typed entity candidates. -/
structure OpenAIEntityExtractor where
  unicode : Unicode
  generate : UUID → Str → Except Failure EntityOutput
  maxEntities : ℕ
  minConfidence : ℚ

namespace OpenAIEntityExtractor

variable (extractor : OpenAIEntityExtractor)

/-- The type and the normalized name of an entity with a canonical name. -/
def identity (entity : ExtractedEntity) : KnowledgeEntityType × Str :=
  (entity.entityType, extractor.unicode.normalizeEntityName entity.canonicalName)

/-- A candidate under its canonical name. -/
def normalizedEntity (candidate : EntityCandidate) : ExtractedEntity :=
  { candidate.toExtractedEntity with
    canonicalName := extractor.unicode.canonicalizeEntityName candidate.canonicalName }

/-- One iteration of the loop over the candidates. -/
def consider (chunkId : UUID) (s : Selection ExtractedEntity (KnowledgeEntityType × Str))
    (candidate : EntityCandidate) :
    Except Failure (Selection ExtractedEntity (KnowledgeEntityType × Str)) :=
  if candidate.sourceChunkId ≠ chunkId then .error (.application .invalidLLMResponse)
  else if extractor.unicode.normalizeEntityName
      (extractor.unicode.canonicalizeEntityName candidate.canonicalName) = [] then
    .error (.application .invalidLLMResponse)
  else if candidate.confidence < extractor.minConfidence then .ok s
  else .ok (s.offer extractor.identity ExtractedEntity.confidence
    (extractor.normalizedEntity candidate))

/-- `OpenAIEntityExtractor.extract`. -/
def extract (chunkId : UUID) (content : Str) : Except Failure EntityExtractionResult := do
  let result ← extractor.generate chunkId content
  let s ← result.entities.foldlM (extractor.consider chunkId) {}
  EntityExtractionResult.create (s.under extractor.identity (s.order.take extractor.maxEntities))

end OpenAIEntityExtractor

/-- Reject ungrounded entity references and deduplicate controlled edges. -/
structure OpenAIRelationshipExtractor where
  generate : UUID → Str → List ExtractedEntity → Except Failure RelationshipOutput
  minConfidence : ℚ

/-- The end points and the type of a relationship. -/
def ExtractedRelationship.identity (relationship : ExtractedRelationship) :
    Str × Str × KnowledgeRelationshipType :=
  (relationship.sourceEntityKey, relationship.targetEntityKey, relationship.relationshipType)

namespace OpenAIRelationshipExtractor

variable (extractor : OpenAIRelationshipExtractor)

/-- One iteration of the loop over the candidates. -/
def consider (chunkId : UUID) (allowedKeys : List Str)
    (s : Selection ExtractedRelationship (Str × Str × KnowledgeRelationshipType))
    (candidate : RelationshipCandidate) :
    Except Failure (Selection ExtractedRelationship (Str × Str × KnowledgeRelationshipType)) :=
  if candidate.sourceChunkId ≠ chunkId then .error (.application .invalidLLMResponse)
  else if candidate.sourceEntityKey ∉ allowedKeys ∨ candidate.targetEntityKey ∉ allowedKeys then
    .error (.application .invalidLLMResponse)
  else if candidate.confidence < extractor.minConfidence then .ok s
  else .ok (s.offer ExtractedRelationship.identity ExtractedRelationship.confidence
    candidate.toExtractedRelationship)

/-- `OpenAIRelationshipExtractor.extract`. -/
def extract (chunkId : UUID) (content : Str) (entities : List ExtractedEntity) :
    Except Failure RelationshipExtractionResult :=
  if entities = [] then .ok ⟨[], by decide⟩
  else do
    let result ← extractor.generate chunkId content entities
    let s ← result.relationships.foldlM
      (extractor.consider chunkId (entities.map ExtractedEntity.localKey)) {}
    RelationshipExtractionResult.create (s.under ExtractedRelationship.identity s.order)

end OpenAIRelationshipExtractor

/-- The enrichment service with both extractors. -/
def KnowledgeGraphEnrichmentService.openAI (entityExtractor : OpenAIEntityExtractor)
    (relationshipExtractor : OpenAIRelationshipExtractor) : KnowledgeGraphEnrichmentService where
  unicode := entityExtractor.unicode
  extractEntities := entityExtractor.extract
  extractRelationships := relationshipExtractor.extract

/-! ## What the loops select -/

namespace OpenAIEntityExtractor

variable {extractor : OpenAIEntityExtractor} {chunkId : UUID} {content : Str}

variable (extractor) in
/-- A candidate that the loop does not reject: it names the chunk as its source, and its name is not
blank. -/
def Grounded (chunkId : UUID) (candidate : EntityCandidate) : Prop :=
  candidate.sourceChunkId = chunkId ∧
    extractor.unicode.normalizeEntityName
      (extractor.unicode.canonicalizeEntityName candidate.canonicalName) ≠ []

variable (extractor) in
/-- A candidate that is confident enough, under its canonical name. -/
def confident (candidate : EntityCandidate) : Option ExtractedEntity :=
  if candidate.confidence < extractor.minConfidence then none
  else some (extractor.normalizedEntity candidate)

/-- A candidate is kept if its confidence suffices, and normalized. -/
theorem confident_eq_some {candidate : EntityCandidate} {entity : ExtractedEntity} :
    extractor.confident candidate = some entity ↔
      extractor.minConfidence ≤ candidate.confidence ∧
        entity = extractor.normalizedEntity candidate := by
  unfold confident
  by_cases h : candidate.confidence < extractor.minConfidence
  · simp [h, not_le.mpr h]
  · simp [h, not_lt.mp h, eq_comm]

/-- A candidate that is considered is grounded, and offered if its confidence suffices. -/
theorem consider_eq_ok (s : Selection ExtractedEntity (KnowledgeEntityType × Str))
    (candidate : EntityCandidate) (s' : Selection ExtractedEntity (KnowledgeEntityType × Str))
    (h : extractor.consider chunkId s candidate = .ok s') :
    extractor.Grounded chunkId candidate ∧
      s' = (extractor.confident candidate).elim s
        (s.offer extractor.identity ExtractedEntity.confidence) := by
  unfold consider at h
  unfold confident
  split_ifs at h with hchunk hname hconfidence <;> cases h
  · rw [if_pos hconfidence]
    exact ⟨⟨not_not.mp hchunk, hname⟩, rfl⟩
  · rw [if_neg hconfidence]
    exact ⟨⟨not_not.mp hchunk, hname⟩, rfl⟩

/-- A grounded candidate is considered. -/
theorem consider_returns {candidate : EntityCandidate}
    (h : extractor.Grounded chunkId candidate)
    (s : Selection ExtractedEntity (KnowledgeEntityType × Str)) :
    ∃ s', extractor.consider chunkId s candidate = .ok s' := by
  unfold consider
  rw [if_neg (not_not.mpr h.1), if_neg h.2]
  split_ifs
  · exact ⟨_, rfl⟩
  · exact ⟨_, rfl⟩

/-- The loop selects from the confident candidates. -/
theorem loop_eq_ok {candidates : List EntityCandidate}
    {s : Selection ExtractedEntity (KnowledgeEntityType × Str)}
    (h : candidates.foldlM (extractor.consider chunkId) {} = .ok s) :
    (∀ c ∈ candidates, extractor.Grounded chunkId c) ∧
      s.Selects extractor.identity ExtractedEntity.confidence
        (candidates.filterMap extractor.confident) := by
  obtain ⟨hgrounded, rfl⟩ := foldlM_eq_ok consider_eq_ok h
  exact ⟨hgrounded, selects_foldl extractor.identity ExtractedEntity.confidence _⟩

/-- The entities of a result are the given ones. -/
theorem create_eq_ok {entities : List ExtractedEntity} {result : EntityExtractionResult}
    (h : EntityExtractionResult.create entities = .ok result) : result.entities = entities := by
  unfold EntityExtractionResult.create at h
  split_ifs at h
  cases h
  rfl

/-- What the extractor returns are the first values of the selection from the confident
candidates. -/
theorem extract_eq_ok {result : EntityExtractionResult}
    (h : extractor.extract chunkId content = .ok result) :
    ∃ output, ∃ s : Selection ExtractedEntity (KnowledgeEntityType × Str),
      extractor.generate chunkId content = .ok output ∧
      s.Selects extractor.identity ExtractedEntity.confidence
        (output.entities.filterMap extractor.confident) ∧
      result.entities = s.kept.take extractor.maxEntities := by
  obtain ⟨output, hgenerate, h⟩ := except_bind_eq_ok.mp h
  obtain ⟨s, hloop, h⟩ := except_bind_eq_ok.mp h
  have hselects := (loop_eq_ok hloop).2
  exact ⟨output, s, hgenerate, hselects, (create_eq_ok h).trans (hselects.under_take _)⟩

/-- Entities with one local key come from one candidate. -/
theorem Selects.local_keys_nodup (output : EntityOutput)
    {s : Selection ExtractedEntity (KnowledgeEntityType × Str)}
    (h : s.Selects extractor.identity ExtractedEntity.confidence
      (output.entities.filterMap extractor.confident)) :
    (s.kept.map ExtractedEntity.localKey).Nodup := by
  refine (List.Nodup.of_map _ h.nodup).map_on fun e he e' he' hkeys => ?_
  obtain ⟨c, hc, hentity⟩ := List.mem_filterMap.mp (h.firstBest e he).mem
  obtain ⟨c', hc', hentity'⟩ := List.mem_filterMap.mp (h.firstBest e' he').mem
  obtain ⟨-, rfl⟩ := confident_eq_some.mp hentity
  obtain ⟨-, rfl⟩ := confident_eq_some.mp hentity'
  rw [List.inj_on_of_nodup_map output.local_keys_nodup hc hc' hkeys]

/-- A selection passes the validation of the result. -/
theorem create_selection (output : EntityOutput)
    {s : Selection ExtractedEntity (KnowledgeEntityType × Str)}
    (h : s.Selects extractor.identity ExtractedEntity.confidence
      (output.entities.filterMap extractor.confident)) :
    ∃ result, EntityExtractionResult.create
      (s.under extractor.identity (s.order.take extractor.maxEntities)) = .ok result := by
  have hlength : (s.kept.take extractor.maxEntities).length ≤ 100 := by
    have hkept : s.kept.length = (distinctBy extractor.identity
        (output.entities.filterMap extractor.confident)).length := by
      rw [← List.length_map (f := extractor.identity), h.keys_eq, h.order_eq, List.length_map]
    have hdistinct : (distinctBy extractor.identity
        (output.entities.filterMap extractor.confident)).length ≤
          (output.entities.filterMap extractor.confident).length :=
      length_distinctBy_le _
    have hconfident := List.length_filterMap_le extractor.confident output.entities
    have hbound := output.entities_length
    rw [List.length_take]
    omega
  have hnodup : ((s.kept.take extractor.maxEntities).map ExtractedEntity.localKey).Nodup := by
    rw [List.map_take]
    exact (Selects.local_keys_nodup output h).sublist (List.take_sublist _ _)
  rw [h.under_take]
  exact ⟨⟨_, hlength, hnodup⟩, dif_pos ⟨hlength, hnodup⟩⟩

/-- The extractor returns exactly if the model does and all candidates are grounded: the validation
of its own result never fails. -/
theorem extract_returns_iff :
    (∃ result, extractor.extract chunkId content = .ok result) ↔
      ∃ output, extractor.generate chunkId content = .ok output ∧
        ∀ c ∈ output.entities, extractor.Grounded chunkId c := by
  constructor
  · rintro ⟨result, h⟩
    obtain ⟨output, hgenerate, h⟩ := except_bind_eq_ok.mp h
    obtain ⟨s, hloop, -⟩ := except_bind_eq_ok.mp h
    exact ⟨output, hgenerate, (loop_eq_ok hloop).1⟩
  · rintro ⟨output, hgenerate, hgrounded⟩
    obtain ⟨s, hloop⟩ := foldlM_returns (fun c hc => consider_returns (hgrounded c hc)) {}
    obtain ⟨result, hresult⟩ := create_selection output (loop_eq_ok hloop).2
    refine ⟨result, ?_⟩
    rw [extract, hgenerate, except_ok_bind, hloop, except_ok_bind, hresult]

end OpenAIEntityExtractor

namespace OpenAIRelationshipExtractor

variable {extractor : OpenAIRelationshipExtractor} {chunkId : UUID} {allowedKeys : List Str}

variable (extractor) in
/-- A candidate that is confident enough. -/
def confident (candidate : RelationshipCandidate) : Option ExtractedRelationship :=
  if candidate.confidence < extractor.minConfidence then none
  else some candidate.toExtractedRelationship

/-- A relationship that is considered names known entities, and is offered if its confidence
suffices. -/
theorem consider_eq_ok
    (s : Selection ExtractedRelationship (Str × Str × KnowledgeRelationshipType))
    (candidate : RelationshipCandidate)
    (s' : Selection ExtractedRelationship (Str × Str × KnowledgeRelationshipType))
    (h : extractor.consider chunkId allowedKeys s candidate = .ok s') :
    (candidate.sourceEntityKey ∈ allowedKeys ∧ candidate.targetEntityKey ∈ allowedKeys) ∧
      s' = (extractor.confident candidate).elim s
        (s.offer ExtractedRelationship.identity ExtractedRelationship.confidence) := by
  unfold consider at h
  unfold confident
  split_ifs at h with hchunk hkeys hconfidence <;> cases h
  · rw [if_pos hconfidence]
    exact ⟨by simpa only [not_or, not_not] using hkeys, rfl⟩
  · rw [if_neg hconfidence]
    exact ⟨by simpa only [not_or, not_not] using hkeys, rfl⟩

/-- The relationships that the extractor returns join entities that it was given. -/
theorem extract_keys {content : Str} {entities : List ExtractedEntity}
    {result : RelationshipExtractionResult}
    (h : extractor.extract chunkId content entities = .ok result) :
    ∀ r ∈ result.relationships, r.sourceEntityKey ∈ entities.map ExtractedEntity.localKey ∧
      r.targetEntityKey ∈ entities.map ExtractedEntity.localKey := by
  unfold extract at h
  split at h
  · cases h
    exact List.forall_mem_nil _
  obtain ⟨output, -, h⟩ := except_bind_eq_ok.mp h
  obtain ⟨s, hloop, h⟩ := except_bind_eq_ok.mp h
  obtain ⟨hallowed, rfl⟩ := foldlM_eq_ok consider_eq_ok hloop
  unfold RelationshipExtractionResult.create at h
  split_ifs at h
  cases h
  intro r hr
  obtain ⟨identity, -, hfound⟩ := List.mem_filterMap.mp hr
  have hbest := (selects_foldl ExtractedRelationship.identity ExtractedRelationship.confidence
    (output.relationships.filterMap extractor.confident)).firstBest r (getBy_mem hfound).1
  obtain ⟨candidate, hcandidate, hconfident⟩ := List.mem_filterMap.mp hbest.mem
  unfold confident at hconfident
  split_ifs at hconfident
  cases hconfident
  exact hallowed candidate hcandidate

end OpenAIRelationshipExtractor

end AssessmentPlatform
