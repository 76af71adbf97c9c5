import AssessmentPlatform.KnowledgeGraph.Enrichment
import AssessmentPlatform.KnowledgeGraph.Names

/-!
# The columns of entity names

The schema bounds the extracted name of an entity by the width of its columns, but what is stored
are Unicode forms of the name, and both of them may be longer than the name. The forms fit their
columns exactly if the case folding of the visible part of the NFKC form leaves room for the gaps
between the words.
-/

namespace AssessmentPlatform

open Library

/-! ## Lengths of names -/

/-- The length of a text that is folded after its white space is collapsed, from its code points:
the foldings of the visible ones, and a blank between any two words. -/
def Unicode.foldedLength (unicode : Unicode) (s : Str) : ℕ :=
  ((s.filter fun c => !c.isSpace).map fun c => (unicode.casefold [c]).length).sum +
    ((Str.words s).length - 1)

namespace Unicode

variable {unicode : Unicode} (folding : unicode.FoldingLaws)

include folding

/-- A text is folded letter by letter. -/
theorem FoldingLaws.casefold_length (s : Str) :
    (unicode.casefold s).length = (s.map fun c => (unicode.casefold [c]).length).sum := by
  rw [folding.casefold_eq s, List.length_flatMap]

/-- Folding shortens no text. -/
theorem FoldingLaws.length_le_casefold (s : Str) : s.length ≤ (unicode.casefold s).length := by
  rw [folding.casefold_length]
  induction s with
  | nil => rfl
  | cons c s ih =>
    have hone := List.length_pos_iff.mpr (folding.casefold_ne_nil c)
    rw [List.map_cons, List.sum_cons, List.length_cons]
    omega

/-- The folded length of a collapsed text. -/
theorem FoldingLaws.casefold_collapse_length (s : Str) :
    (unicode.casefold s.collapse).length = unicode.foldedLength s := by
  have hblank : (unicode.casefold [CodePoint.blank]).length = 1 := by
    rw [folding.casefold_blank]
    rfl
  rw [folding.casefold_length, Str.collapse, Str.join, sum_map_intercalate, hblank, Nat.mul_one,
    Unicode.foldedLength, Str.words_eq, flatten_words]

end Unicode

/-- The texts that are stored for an extracted name, each with the width of its column: the
canonical and the normalized name of the entity, and the text of the mention. -/
def Unicode.entityColumns (unicode : Unicode) (name : Str) : List (ℕ × Str) :=
  [(300, unicode.canonicalizeEntityName name),
    (300, unicode.normalizeEntityName (unicode.canonicalizeEntityName name)),
    (500, unicode.canonicalizeEntityName name)]

/-- The columns of an entity fit exactly if its folded name does. -/
theorem Unicode.entityColumns_fit_iff {unicode : Unicode}
    (normalization : unicode.NormalizationLaws) (folding : unicode.FoldingLaws) (name : Str) :
    (∀ column ∈ unicode.entityColumns name, column.2.length ≤ column.1) ↔
      unicode.foldedLength (unicode.nfkc name) ≤ 300 := by
  have hnormalized :
      (unicode.normalizeEntityName (unicode.canonicalizeEntityName name)).length =
        unicode.foldedLength (unicode.nfkc name) := by
    rw [normalization.normalize_canonicalize]
    exact folding.casefold_collapse_length (unicode.nfkc name)
  have hcanonical : (unicode.canonicalizeEntityName name).length ≤
      unicode.foldedLength (unicode.nfkc name) := by
    rw [← hnormalized, normalization.normalize_canonicalize]
    exact folding.length_le_casefold (unicode.canonicalizeEntityName name)
  simp only [entityColumns, List.forall_mem_cons, hnormalized]
  constructor
  · exact fun h => h.2.1
  · intro h
    exact ⟨by omega, h, by omega, by simp⟩

/-! ## The rows that are written -/

/-- The tables after the texts of a name may have been stored: every other row was there. -/
structure KnowledgeGraph.Gains (unicode : Unicode) (name : Str) (graph graph' : KnowledgeGraph) :
    Prop where
  entities : ∀ model ∈ graph'.entities,
    (∃ model₀ ∈ graph.entities, model₀.canonicalName = model.canonicalName ∧
      model₀.normalizedName = model.normalizedName) ∨
    (model.canonicalName = unicode.canonicalizeEntityName name ∧
      model.normalizedName = unicode.normalizeEntityName (unicode.canonicalizeEntityName name))
  mentions : ∀ model ∈ graph'.mentions, model ∈ graph.mentions ∨
    model.mentionText = unicode.canonicalizeEntityName name

section Rows

variable {unicode : Unicode} {name : Str} {graph graph' graph'' : KnowledgeGraph} {env : GraphEnv}
  {store : KnowledgeStore}

/-- A graph gains nothing from itself. -/
theorem KnowledgeGraph.Gains.refl (graph : KnowledgeGraph) : graph.Gains unicode name graph where
  entities model h := .inl ⟨model, h, rfl, rfl⟩
  mentions _ h := .inl h

/-- What is gained in two parts is gained. -/
theorem KnowledgeGraph.Gains.trans (h : graph.Gains unicode name graph')
    (h' : graph'.Gains unicode name graph'') : graph.Gains unicode name graph'' where
  entities model hmodel := by
    rcases h'.entities model hmodel with ⟨model₁, hmodel₁, hcanonical, hnormalized⟩ | hnew
    · rcases h.entities model₁ hmodel₁ with ⟨model₀, hmodel₀, hcanonical₀, hnormalized₀⟩ | hnew
      · exact .inl ⟨model₀, hmodel₀, hcanonical₀.trans hcanonical, hnormalized₀.trans hnormalized⟩
      · exact .inr ⟨hcanonical ▸ hnew.1, hnormalized ▸ hnew.2⟩
    · exact .inr hnew
  mentions model hmodel := by
    rcases h'.mentions model hmodel with hmodel | hnew
    · exact h.mentions model hmodel
    · exact .inr hnew

/-- An entity that is resolved is gained under its name. -/
theorem acts_upsertEntity_gains (entityType : KnowledgeEntityType) (description : Option Str) :
    Acts env graph (upsertEntity unicode env entityType name description)
      (fun _ graph' => graph.Gains unicode name graph') (fun _ => True) := by
  refine Reads.bind (reads_require fun _ => trivial) fun _ _ => ?_
  refine (reads_step _).bind fun _ _ => reads_get.bind fun db _ => ?_
  split
  · refine reads_uuid4.bind fun id _ => reads_now.bind fun createdAt _ => ?_
    refine reads_now.bind fun updatedAt _ => (reads_step _).bind fun _ _ => acts_modify ?_
    refine ⟨fun model hmodel => ?_, fun _ h => .inl h⟩
    rcases List.mem_append.mp hmodel with hmodel | hmodel
    · exact .inl ⟨model, hmodel, rfl, rfl⟩
    · rw [List.mem_singleton.mp hmodel]
      exact .inr ⟨rfl, rfl⟩
  · split
    · refine reads_now.bind fun updatedAt _ => (reads_step _).bind fun _ _ => acts_modify ?_
      refine ⟨fun model hmodel => ?_, fun _ h => .inl h⟩
      obtain ⟨model₀, hmodel₀, rfl⟩ := List.mem_map.mp hmodel
      refine .inl ⟨model₀, hmodel₀, ?_⟩
      split <;> exact ⟨rfl, rfl⟩
    · exact acts_pure (.refl graph)

/-- A mention that is added is gained under its name. -/
theorem acts_addMention_gains (entityId documentId chunkId : UUID) (confidence : ℚ)
    (source : KnowledgeChunkRecord) :
    Acts env graph (addMention unicode store env entityId documentId chunkId name confidence source)
      (fun _ graph' => graph.Gains unicode name graph') (fun _ => True) := by
  refine Reads.bind (reads_require fun _ => trivial) fun _ _ => (reads_step _).bind fun _ _ =>
    reads_get.bind fun db _ => ?_
  refine Reads.bind (reads_require fun _ => trivial) fun _ _ => (reads_step _).bind fun _ _ => ?_
  refine Reads.bind (reads_require fun _ => trivial) fun _ _ => (reads_step _).bind fun _ _ =>
    reads_get.bind fun db' _ => ?_
  split
  · refine reads_uuid4.bind fun id _ => reads_now.bind fun createdAt _ => ?_
    refine (reads_step _).bind fun _ _ => acts_modify ?_
    refine ⟨fun model h => .inl ⟨model, h, rfl, rfl⟩, fun model hmodel => ?_⟩
    rcases List.mem_append.mp hmodel with hmodel | hmodel
    · exact .inl hmodel
    · rw [List.mem_singleton.mp hmodel]
      exact .inr rfl
  · exact acts_pure (.refl graph)

/-- Whatever becomes of it, the enrichment by one entity stores no other texts. -/
theorem enrichEntity_gains (service : KnowledgeGraphEnrichmentService) (env : GraphEnv)
    (store : KnowledgeStore) (documentId : UUID) (chunk : KnowledgeChunkRecord)
    (state : ChunkEntities) (entity : ExtractedEntity) (db : GraphDb) :
    db.working.Gains service.unicode entity.canonicalName
      (Prog.exec (service.enrichEntity env store documentId chunk state entity) db).2.working := by
  have hgains {α : Type} {x : GraphSession α}
      (hx : ∀ graph, Acts env graph x
        (fun _ graph' => graph.Gains service.unicode entity.canonicalName graph') fun _ => True) :
      Prog.Triple (fun s : GraphDb =>
          db.working.Gains service.unicode entity.canonicalName s.working) x
        (fun _ s => db.working.Gains service.unicode entity.canonicalName s.working)
        (fun _ s => db.working.Gains service.unicode entity.canonicalName s.working) := by
    intro s hs
    refine (hx s.working s rfl).conseq (fun _ ht => ht) (fun _ t ht => hs.trans ht.2)
      (fun _ t ht => ?_) s rfl
    rw [ht.1.2]
    exact hs
  have htriple : Prog.Triple (fun s : GraphDb =>
        db.working.Gains service.unicode entity.canonicalName s.working)
      (service.enrichEntity env store documentId chunk state entity)
      (fun _ s => db.working.Gains service.unicode entity.canonicalName s.working)
      (fun _ s => db.working.Gains service.unicode entity.canonicalName s.working) := by
    refine (hgains fun _ => acts_upsertEntity_gains _ _).bind fun record => ?_
    refine (hgains fun _ => acts_addMention_gains _ _ _ _ _).bind fun _ => ?_
    exact Prog.triple_pure fun _ hs => hs
  exact htriple.state (.refl db.working)

end Rows

/-- The texts that enrichment stores for an extracted entity fit their columns exactly if the folded
length of the NFKC form of its name is at most three hundred, and it stores no other texts for the
entity, whatever the tables hold and whether it returns or raises. -/
theorem extracted_entity_fits_iff (service : KnowledgeGraphEnrichmentService)
    (normalization : service.unicode.NormalizationLaws) (folding : service.unicode.FoldingLaws)
    (entity : ExtractedEntity) :
    ((∀ column ∈ service.unicode.entityColumns entity.canonicalName,
        column.2.length ≤ column.1) ↔
      service.unicode.foldedLength (service.unicode.nfkc entity.canonicalName) ≤ 300) ∧
    ∀ env store documentId chunk state (db : GraphDb),
      db.working.Gains service.unicode entity.canonicalName
        (Prog.exec (service.enrichEntity env store documentId chunk state entity) db).2.working :=
  ⟨Unicode.entityColumns_fit_iff normalization folding entity.canonicalName,
    fun env store documentId chunk state db =>
      enrichEntity_gains service env store documentId chunk state entity db⟩

/-- The Unicode functions on texts in NFKC form whose only letters that fold to others are the
capital letters of ASCII and the sharp s. -/
def Unicode.sharp : Unicode where
  nfkc := id
  casefold s := s.flatMap fun c =>
    if c = 0xDF then [115, 115] else if 65 ≤ c.val ∧ c.val ≤ 90 then [c + 32] else [c]

/-- The normalization of the sample obeys the laws. -/
theorem Unicode.sharp_normalizationLaws : Unicode.sharp.NormalizationLaws where
  nfkc_nfkc _ := rfl
  nfkc_collapse _ _ := rfl

/-- The folding of the sample obeys the laws. -/
theorem Unicode.sharp_foldingLaws : Unicode.sharp.FoldingLaws where
  casefold_eq s := by simp [Unicode.sharp]
  casefold_ne_nil c := by
    simp only [Unicode.sharp, List.flatMap_singleton]
    split_ifs <;> simp
  casefold_blank := by decide

/-- An entity whose name repeats the sharp s. -/
def ExtractedEntity.sharp (n : ℕ) : ExtractedEntity where
  localKey := "street"
  canonicalName := List.replicate n 0xDF
  entityType := .system
  confidence := 1

/-- A list without relationships is short enough. -/
theorem ExtractedRelationship.none_length_le :
    ([] : List ExtractedRelationship).length ≤ 200 := by
  decide

/-- A service that extracts such an entity from every chunk. -/
def KnowledgeGraphEnrichmentService.sharp (n : ℕ) : KnowledgeGraphEnrichmentService where
  unicode := .sharp
  extractEntities _ _ := .ok ⟨[.sharp n], by simp, by simp⟩
  extractRelationships _ _ _ := .ok ⟨[], ExtractedRelationship.none_length_le⟩

/-- A store of one document with one chunk. -/
def KnowledgeStore.street : KnowledgeStore where
  documents :=
    [{ documentId := 1, title := "Street", sourceType := .synthetic, content := "Street",
       contentHash := "s", createdAt := 0 }]
  chunks :=
    [{ chunkId := 10, documentId := 1, chunkIndex := 0, content := "Street", embedding := [1],
       contentHash := "s", provenance := {} }]

/-- A hundred and fifty times the sharp s fills the column of the normalized name. -/
theorem extracted_entity_fits_sharp :
    Str.ValidWithin 300 (ExtractedEntity.sharp 150).canonicalName ∧
      ∀ column ∈ Unicode.sharp.entityColumns (ExtractedEntity.sharp 150).canonicalName,
        column.2.length ≤ column.1 := by
  refine ⟨by decide +kernel, ?_⟩
  exact (extracted_entity_fits_iff (.sharp 150) Unicode.sharp_normalizationLaws
    Unicode.sharp_foldingLaws (.sharp 150)).1.mpr (by decide +kernel)

/-- Once more, and the name is still accepted, at half of the width, but the normalized form that
the enrichment of a document stores is too long for its column. -/
theorem extracted_entity_too_wide :
    Str.ValidWithin 300 (ExtractedEntity.sharp 151).canonicalName ∧
      (¬∀ column ∈ Unicode.sharp.entityColumns (ExtractedEntity.sharp 151).canonicalName,
        column.2.length ≤ column.1) ∧
      ((KnowledgeGraphEnrichmentService.sharp 151).enrichGraph { clock := fun n => n, newId := id }
        .street 1 {}).2.entities.map (fun model => model.normalizedName.length) = [302] := by
  decide +kernel

end AssessmentPlatform
