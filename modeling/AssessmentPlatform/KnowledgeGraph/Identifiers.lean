import AssessmentPlatform.KnowledgeGraph.Grounding

/-!
# The identifiers of the knowledge graph

A row draws a fresh identifier before it is added and keeps it, whatever happens to the row. So the
identifiers of a table stay unique in every graph that an enrichment commits, and an enrichment uses
no identifier that it has not drawn. The confidence of a mention or of a relationship is checked
before it is added.
-/

namespace AssessmentPlatform

open Library

/-- Identifiers that have been issued, each of which is used once. -/
def UsedOnce (issued : UUID → Prop) (ids : List UUID) : Prop :=
  ids.Nodup ∧ ∀ id ∈ ids, issued id

section UsedOnce

variable {issued issued' : UUID → Prop} {ids : List UUID}

/-- Identifiers that are used once stay so when more are issued. -/
theorem UsedOnce.mono (h : UsedOnce issued ids) (hissued : ∀ id, issued id → issued' id) :
    UsedOnce issued' ids :=
  ⟨h.1, fun id hid => hissued id (h.2 id hid)⟩

/-- A new identifier is used for another row. -/
theorem UsedOnce.concat {id : UUID} (h : UsedOnce issued ids) (hnew : ¬ issued id)
    (hissued : ∀ id, issued id → issued' id) (hid : issued' id) :
    UsedOnce issued' (ids ++ [id]) := by
  constructor
  · rw [List.nodup_append]
    refine ⟨h.1, List.nodup_singleton id, ?_⟩
    intro a ha b hb hab
    rw [hab, List.mem_singleton.mp hb] at ha
    exact hnew (h.2 id ha)
  · intro a ha
    rcases List.mem_append.mp ha with ha | ha
    · exact hissued a (h.2 a ha)
    · rw [List.mem_singleton.mp ha]
      exact hid

end UsedOnce

/-- The rows of every table have identifiers of their own, and every mention and every relationship
has a confidence that its table admits. -/
structure KnowledgeGraph.Identified (graph : KnowledgeGraph) (issued : UUID → Prop) : Prop where
  entities : UsedOnce issued (graph.entities.map KnowledgeEntityModel.id)
  mentions : UsedOnce issued (graph.mentions.map KnowledgeEntityMentionModel.id)
  relationships : UsedOnce issued (graph.relationships.map KnowledgeRelationshipModel.id)
  mention_confidence : ∀ m ∈ graph.mentions, 0 ≤ m.confidence ∧ m.confidence ≤ 1
  confidence : ∀ r ∈ graph.relationships, 0 ≤ r.confidence ∧ r.confidence ≤ 1

/-- The empty graph is identified. -/
theorem KnowledgeGraph.identified_empty (issued : UUID → Prop) :
    KnowledgeGraph.Identified {} issued :=
  ⟨⟨List.nodup_nil, List.forall_mem_nil _⟩, ⟨List.nodup_nil, List.forall_mem_nil _⟩,
    ⟨List.nodup_nil, List.forall_mem_nil _⟩, List.forall_mem_nil _, List.forall_mem_nil _⟩

/-- The identifiers of all rows. -/
def KnowledgeGraph.ids (graph : KnowledgeGraph) : List UUID :=
  graph.entities.map KnowledgeEntityModel.id ++
    graph.mentions.map KnowledgeEntityMentionModel.id ++
    graph.relationships.map KnowledgeRelationshipModel.id

section Rows

variable {graph : KnowledgeGraph} {issued issued' : UUID → Prop}

/-- What is in an identified graph has been issued. -/
theorem KnowledgeGraph.Identified.issued_of_mem (h : graph.Identified issued) {id : UUID}
    (hid : id ∈ graph.ids) : issued id := by
  rcases List.mem_append.mp hid with hid | hid
  · rcases List.mem_append.mp hid with hid | hid
    · exact h.entities.2 id hid
    · exact h.mentions.2 id hid
  · exact h.relationships.2 id hid

/-- The identifiers that a graph uses have been issued in any case. -/
theorem KnowledgeGraph.Identified.used (h : graph.Identified issued) :
    graph.Identified (· ∈ graph.ids) where
  entities := ⟨h.entities.1, fun _ hid => List.mem_append_left _ (List.mem_append_left _ hid)⟩
  mentions := ⟨h.mentions.1, fun _ hid => List.mem_append_left _ (List.mem_append_right _ hid)⟩
  relationships := ⟨h.relationships.1, fun _ hid => List.mem_append_right _ hid⟩
  mention_confidence := h.mention_confidence
  confidence := h.confidence

/-- An identified graph stays so when more is issued. -/
theorem KnowledgeGraph.Identified.mono (h : graph.Identified issued)
    (hissued : ∀ id, issued id → issued' id) : graph.Identified issued' :=
  ⟨h.entities.mono hissued, h.mentions.mono hissued, h.relationships.mono hissued,
    h.mention_confidence, h.confidence⟩

/-- A new entity. -/
theorem KnowledgeGraph.Identified.addEntity {model : KnowledgeEntityModel}
    (h : graph.Identified issued) (hnew : ¬ issued model.id)
    (hissued : ∀ id, issued id → issued' id) (hid : issued' model.id) :
    (graph.addEntity model).Identified issued' where
  entities := by
    rw [KnowledgeGraph.addEntity, List.map_append]
    exact h.entities.concat hnew hissued hid
  mentions := h.mentions.mono hissued
  relationships := h.relationships.mono hissued
  mention_confidence := h.mention_confidence
  confidence := h.confidence

/-- An entity that gets a description stays the same one. -/
theorem KnowledgeGraph.Identified.describe (h : graph.Identified issued) (id : UUID)
    (description : Option Str) (updatedAt : Time) :
    (graph.describe id description updatedAt).Identified issued where
  entities := by
    rw [describe_ids]
    exact h.entities
  mentions := h.mentions
  relationships := h.relationships
  mention_confidence := h.mention_confidence
  confidence := h.confidence

/-- A mention under a new identifier keeps the graph identified. -/
theorem KnowledgeGraph.Identified.addMention {model : KnowledgeEntityMentionModel}
    (h : graph.Identified issued) (hnew : ¬ issued model.id)
    (hissued : ∀ id, issued id → issued' id) (hid : issued' model.id)
    (hconfidence : 0 ≤ model.confidence ∧ model.confidence ≤ 1) :
    (graph.addMention model).Identified issued' where
  entities := h.entities.mono hissued
  mentions := by
    rw [KnowledgeGraph.addMention, List.map_append]
    exact h.mentions.concat hnew hissued hid
  relationships := h.relationships.mono hissued
  mention_confidence m hm := by
    rcases List.mem_append.mp hm with hm | hm
    · exact h.mention_confidence m hm
    · rw [List.mem_singleton.mp hm]
      exact hconfidence
  confidence := h.confidence

/-- A relationship under a new identifier keeps the graph identified. -/
theorem KnowledgeGraph.Identified.addRelationship {model : KnowledgeRelationshipModel}
    (h : graph.Identified issued) (hnew : ¬ issued model.id)
    (hissued : ∀ id, issued id → issued' id) (hid : issued' model.id)
    (hconfidence : 0 ≤ model.confidence ∧ model.confidence ≤ 1) :
    (graph.addRelationship model).Identified issued' where
  entities := h.entities.mono hissued
  mentions := h.mentions.mono hissued
  relationships := by
    rw [KnowledgeGraph.addRelationship, List.map_append]
    exact h.relationships.concat hnew hissued hid
  mention_confidence := h.mention_confidence
  confidence r hr := by
    rcases List.mem_append.mp hr with hr | hr
    · exact h.confidence r hr
    · rw [List.mem_singleton.mp hr]
      exact hconfidence

end Rows

/-! ## Sessions -/

/-- The identifiers that have been issued when a session has drawn some. -/
def GraphEnv.Issued (env : GraphEnv) (old : UUID → Prop) (n : ℕ) (id : UUID) : Prop :=
  old id ∨ ∃ k < n, id = env.newId k

/-- A session draws identifiers that are new. -/
structure GraphEnv.Fresh (env : GraphEnv) (old : UUID → Prop) : Prop where
  injective : Function.Injective env.newId
  new : ∀ k, ¬ old (env.newId k)

/-- The working copy uses what has been drawn. -/
def GraphDb.Identified (env : GraphEnv) (old : UUID → Prop) (s : GraphDb) : Prop :=
  s.working.Identified (env.Issued old s.ids)

/-- An identifier has been drawn last and is not in use yet. -/
def GraphDb.Draws (env : GraphEnv) (old : UUID → Prop) (id : UUID) (s : GraphDb) : Prop :=
  ∃ k, id = env.newId k ∧ s.ids = k + 1 ∧ s.working.Identified (env.Issued old k)

section Sessions

variable {α : Type} {unicode : Unicode} {store : KnowledgeStore} {env : GraphEnv}
  {old : UUID → Prop} {id : UUID}

/-- What has been issued stays issued. -/
theorem GraphEnv.Issued.succ {n : ℕ} (h : env.Issued old n id) : env.Issued old (n + 1) id := by
  rcases h with h | ⟨k, hk, rfl⟩
  · exact .inl h
  · exact .inr ⟨k, by omega, rfl⟩

/-- The identifier that is drawn last has been issued. -/
theorem GraphEnv.issued_last (env : GraphEnv) (old : UUID → Prop) (n : ℕ) :
    env.Issued old (n + 1) (env.newId n) :=
  .inr ⟨n, by omega, rfl⟩

/-- The next identifier has not been issued. -/
theorem GraphEnv.Fresh.not_issued (h : env.Fresh old) (n : ℕ) :
    ¬ env.Issued old n (env.newId n) := by
  rintro (hold | ⟨k, hk, heq⟩)
  · exact h.new n hold
  · have := h.injective heq
    omega

/-- A database that draws an identifier is identified. -/
theorem GraphDb.Draws.identified {s : GraphDb} (h : s.Draws env old id) :
    s.Identified env old := by
  obtain ⟨k, -, hids, hgraph⟩ := h
  unfold GraphDb.Identified
  rw [hids]
  exact hgraph.mono fun _ => GraphEnv.Issued.succ

/-- What depends on the working copy and on the drawn identifiers alone. -/
def Uncounted (I : GraphDb → Prop) : Prop :=
  ∀ s t : GraphDb, t.working = s.working → t.ids = s.ids → I s → I t

/-- That a database is identified does not depend on its counters. -/
theorem uncounted_identified : Uncounted (GraphDb.Identified env old) := by
  intro s t hworking hids h
  unfold GraphDb.Identified
  rw [hworking, hids]
  exact h

/-- That an identifier is drawn does not depend on the other counters. -/
theorem uncounted_draws : Uncounted (GraphDb.Draws env old id) := by
  rintro s t hworking hids ⟨k, hid, hcount, hgraph⟩
  exact ⟨k, hid, hids.trans hcount, hworking ▸ hgraph⟩

/-- A statement keeps what does not depend on the counters. -/
theorem Uncounted.keeps_step {I : GraphDb → Prop} (hI : Uncounted I) (step : GraphStep) :
    Prog.Keeps I (graphStep env step) := by
  refine Prog.keeps_get.bind fun db => Prog.Keeps.bind (Prog.keeps_modify ?_) fun _ => ?_
  · exact fun s => hI s _ rfl rfl
  · cases env.fault step db.steps with
    | none => exact Prog.keeps_pure _
    | some error => exact Prog.keeps_throw _

/-- A look at the clock keeps what does not depend on the counters. -/
theorem Uncounted.keeps_now {I : GraphDb → Prop} (hI : Uncounted I) :
    Prog.Keeps I (graphNow env) := by
  refine Prog.keeps_get.bind fun db => Prog.Keeps.bind (Prog.keeps_modify ?_) fun _ => ?_
  · exact fun s => hI s _ rfl rfl
  · exact Prog.keeps_pure _

/-- Behind a check its condition may be used. -/
theorem keeps_require {I : GraphDb → Prop} {condition : Prop} [Decidable condition]
    {f : Unit → GraphSession α} (hf : condition → Prog.Keeps I (f ())) :
    Prog.Keeps I (requireValue condition >>= f) := by
  unfold requireValue
  by_cases hcondition : condition
  · rw [if_pos hcondition]
    exact (Prog.keeps_pure ()).bind fun _ => hf hcondition
  · rw [if_neg hcondition]
    intro s hs
    exact hs

/-- What is drawn is not in use. -/
theorem draws_uuid4 : Prog.Triple (GraphDb.Identified env old) (graphUuid4 env)
    (fun id => GraphDb.Draws env old id) (fun _ => GraphDb.Identified env old) := by
  intro s hs
  exact ⟨s.ids, rfl, rfl, hs⟩

/-- The rest of an operation once it has drawn an identifier. -/
theorem Draws.bind {β : Type} {x : GraphSession β} {f : β → GraphSession α}
    (hx : Prog.Keeps (GraphDb.Draws env old id) x)
    (hf : ∀ a, Prog.Triple (GraphDb.Draws env old id) (f a)
      (fun _ => GraphDb.Identified env old) (fun _ => GraphDb.Identified env old)) :
    Prog.Triple (GraphDb.Draws env old id) (x >>= f) (fun _ => GraphDb.Identified env old)
      (fun _ => GraphDb.Identified env old) := by
  have hx' : Prog.Triple (GraphDb.Draws env old id) x (fun _ => GraphDb.Draws env old id)
      (fun _ => GraphDb.Identified env old) :=
    Prog.Triple.conseq hx (fun _ hs => hs) (fun _ _ hs => hs) fun _ _ hs => hs.identified
  exact hx'.bind hf

/-- A row is added under the identifier that has been drawn. -/
theorem draws_modify (hfresh : env.Fresh old) {f : KnowledgeGraph → KnowledgeGraph} {a : α}
    (hf : ∀ (graph : KnowledgeGraph) (issued issued' : UUID → Prop), graph.Identified issued →
      ¬ issued id → (∀ id, issued id → issued' id) → issued' id → (f graph).Identified issued') :
    Prog.Triple (GraphDb.Draws env old id) (do modifyGraph f; pure a)
      (fun _ => GraphDb.Identified env old) (fun _ => GraphDb.Identified env old) := by
  rintro s ⟨k, rfl, hids, hgraph⟩
  change (f s.working).Identified (env.Issued old s.ids)
  rw [hids]
  exact hf s.working _ _ hgraph (hfresh.not_issued k) (fun _ => GraphEnv.Issued.succ)
    (env.issued_last old k)

/-- `upsert_entity` keeps the database identified. -/
theorem keeps_upsertEntity (hfresh : env.Fresh old) (entityType : KnowledgeEntityType)
    (canonicalName : Str) (description : Option Str) :
    Prog.Keeps (GraphDb.Identified env old)
      (upsertEntity unicode env entityType canonicalName description) := by
  refine keeps_require fun _ => ?_
  refine (uncounted_identified.keeps_step _).bind fun _ => Prog.keeps_get.bind fun db => ?_
  split
  · refine draws_uuid4.bind fun id => ?_
    refine Draws.bind uncounted_draws.keeps_now fun createdAt => ?_
    refine Draws.bind uncounted_draws.keeps_now fun updatedAt => ?_
    refine Draws.bind (uncounted_draws.keeps_step _) fun _ => ?_
    refine draws_modify hfresh fun graph issued issued' h hnew hissued hid => ?_
    exact h.addEntity hnew hissued hid
  · split
    · refine uncounted_identified.keeps_now.bind fun updatedAt => ?_
      refine (uncounted_identified.keeps_step _).bind fun _ => ?_
      refine Prog.Keeps.bind (Prog.keeps_modify fun s hs => ?_) fun _ => Prog.keeps_pure _
      exact KnowledgeGraph.Identified.describe hs _ _ _
    · exact Prog.keeps_pure _

/-- `add_mention` keeps the database identified. -/
theorem keeps_addMention (hfresh : env.Fresh old) (entityId documentId chunkId : UUID)
    (mentionText : Str) (confidence : ℚ) (source : KnowledgeChunkRecord) :
    Prog.Keeps (GraphDb.Identified env old)
      (addMention unicode store env entityId documentId chunkId mentionText confidence source) := by
  refine keeps_require fun hconfidence => (uncounted_identified.keeps_step _).bind fun _ => ?_
  refine Prog.keeps_get.bind fun db => keeps_require fun _ => ?_
  refine (uncounted_identified.keeps_step _).bind fun _ => keeps_require fun _ => ?_
  refine (uncounted_identified.keeps_step _).bind fun _ => Prog.keeps_get.bind fun db' => ?_
  split
  · refine draws_uuid4.bind fun id => ?_
    refine Draws.bind uncounted_draws.keeps_now fun createdAt => ?_
    refine Draws.bind (uncounted_draws.keeps_step _) fun _ => ?_
    refine draws_modify hfresh fun graph issued issued' h hnew hissued hid => ?_
    exact h.addMention hnew hissued hid hconfidence
  · exact Prog.keeps_pure _

/-- `add_relationship` keeps the database identified. -/
theorem keeps_addRelationship (hfresh : env.Fresh old) (sourceEntityId targetEntityId : UUID)
    (relationshipType : KnowledgeRelationshipType) (description : Option Str) (confidence : ℚ)
    (sourceChunkId : UUID) :
    Prog.Keeps (GraphDb.Identified env old) (addRelationship store env sourceEntityId targetEntityId
      relationshipType description confidence sourceChunkId) := by
  refine keeps_require fun hconfidence => keeps_require fun _ => ?_
  refine (uncounted_identified.keeps_step _).bind fun _ => Prog.keeps_get.bind fun db => ?_
  refine keeps_require fun _ => (uncounted_identified.keeps_step _).bind fun _ => ?_
  refine keeps_require fun _ => (uncounted_identified.keeps_step _).bind fun _ => ?_
  refine keeps_require fun _ => (uncounted_identified.keeps_step _).bind fun _ => ?_
  refine Prog.keeps_get.bind fun db' => ?_
  split
  · refine draws_uuid4.bind fun id => ?_
    refine Draws.bind uncounted_draws.keeps_now fun createdAt => ?_
    refine Draws.bind (uncounted_draws.keeps_step _) fun _ => ?_
    refine draws_modify hfresh fun graph issued issued' h hnew hissued hid => ?_
    exact h.addRelationship hnew hissued hid hconfidence
  · exact Prog.keeps_pure _

/-- The repository uses no identifier twice. -/
theorem repositoryKeeps_identified (hfresh : env.Fresh old) :
    RepositoryKeeps unicode store env (GraphDb.Identified env old) where
  step := uncounted_identified.keeps_step
  upsertEntity := keeps_upsertEntity hfresh
  addMention := keeps_addMention hfresh
  addRelationship := keeps_addRelationship hfresh

end Sessions

/-- Identifiers are unique in every graph that an enrichment commits, and those that have not been
there before have been drawn. -/
theorem KnowledgeGraphEnrichmentService.enrichGraph_identified
    (service : KnowledgeGraphEnrichmentService) (store : KnowledgeStore) {env : GraphEnv}
    (documentId : UUID) {graph : KnowledgeGraph} {old : UUID → Prop} (hfresh : env.Fresh old)
    (h : graph.Identified old) :
    (service.enrichGraph env store documentId graph).2.Identified
      fun id => old id ∨ ∃ k, id = env.newId k := by
  refine (repositoryKeeps_identified hfresh).enrichGraph
    (KnowledgeGraph.Identified · fun id => old id ∨ ∃ k, id = env.newId k) ?_ (fun s hs => ?_) ?_
  · exact h.mono fun _ hid => .inl hid
  · refine KnowledgeGraph.Identified.mono hs fun id hid => hid.imp_right ?_
    rintro ⟨k, -, heq⟩
    exact ⟨k, heq⟩
  · exact h.mono fun _ hid => .inl hid

end AssessmentPlatform
