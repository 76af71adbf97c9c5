import AssessmentPlatform.Library.Keyed
import AssessmentPlatform.Library.Program
import AssessmentPlatform.Models.KnowledgeGraph
import AssessmentPlatform.Rag.Ingestion

/-!
# The tables of the knowledge graph

Entities, their mentions and their relationships, and the session through which a request
changes them: it sees a working copy, a commit publishes the working copy, and a rollback
discards it. The database may refuse any statement, because of a constraint or any other error,
and then the statement has no effect.
-/

namespace AssessmentPlatform

open Library

/-- A row of the entity table. -/
structure KnowledgeEntityModel where
  id : UUID
  entityType : KnowledgeEntityType
  canonicalName : Str
  normalizedName : Str
  description : Option Str
  createdAt : Time
  updatedAt : Time
  deriving DecidableEq

/-- A row of the mention table, with the metadata of the source chunk. -/
structure KnowledgeEntityMentionModel where
  id : UUID
  entityId : UUID
  documentId : UUID
  chunkId : UUID
  mentionText : Str
  confidence : ℚ
  sourceContentHash : Str
  sourceProvenance : ChunkProvenance
  createdAt : Time

/-- A row of the relationship table. -/
structure KnowledgeRelationshipModel where
  id : UUID
  sourceEntityId : UUID
  targetEntityId : UUID
  relationshipType : KnowledgeRelationshipType
  description : Option Str
  confidence : ℚ
  sourceChunkId : UUID
  createdAt : Time
  deriving DecidableEq

/-- The identity of an entity apart from its identifier. -/
def KnowledgeEntityModel.key (model : KnowledgeEntityModel) : KnowledgeEntityType × Str :=
  (model.entityType, model.normalizedName)

/-- The entity and the chunk of a mention. -/
def KnowledgeEntityMentionModel.key (model : KnowledgeEntityMentionModel) : UUID × UUID :=
  (model.entityId, model.chunkId)

/-- The end points, the type and the source of a relationship. -/
def KnowledgeRelationshipModel.key (model : KnowledgeRelationshipModel) :
    UUID × UUID × KnowledgeRelationshipType × UUID :=
  (model.sourceEntityId, model.targetEntityId, model.relationshipType, model.sourceChunkId)

/-- The three tables. -/
structure KnowledgeGraph where
  entities : List KnowledgeEntityModel := []
  mentions : List KnowledgeEntityMentionModel := []
  relationships : List KnowledgeRelationshipModel := []

/-! ## Sessions -/

/-- The statements of the modelled services. -/
inductive GraphStep where
  | getDocument | listChunks | selectEntity | insertEntity | updateEntity | getEntity | getChunk
  | selectMention | insertMention | selectRelationship | insertRelationship | commit | rollback
  deriving DecidableEq

/-- The environment of one request: the successive readings of the clock, the successive fresh
identifiers, and the statements that the database refuses. -/
structure GraphEnv where
  clock : ℕ → Time
  newId : ℕ → UUID
  fault : GraphStep → ℕ → Option SQLAlchemyError := fun _ _ => none

/-- The tables as one session sees them; the counters say how often the environment was
read. -/
structure GraphDb where
  committed : KnowledgeGraph
  working : KnowledgeGraph
  readings : ℕ := 0
  ids : ℕ := 0
  steps : ℕ := 0

/-- A session that has just been opened. -/
def GraphDb.open (graph : KnowledgeGraph) : GraphDb where
  committed := graph
  working := graph

/-- Code that runs inside a session. -/
abbrev GraphSession := Prog GraphDb Failure

/-- Raise what a computation without a session raises. -/
def GraphSession.ofExcept {α : Type} : Except Failure α → GraphSession α
  | .ok a => pure a
  | .error e => throw e

/-- Raise a `ValueError` unless a condition holds. -/
def requireValue (condition : Prop) [Decidable condition] : GraphSession Unit :=
  if condition then pure () else throw .value

/-- Change the working copy. -/
def modifyGraph (f : KnowledgeGraph → KnowledgeGraph) : GraphSession Unit :=
  modify fun db => { db with working := f db.working }

section Steps

variable (env : GraphEnv)

/-- A statement is refused or lets the code go on. -/
def graphStep (step : GraphStep) : GraphSession Unit := do
  let db ← get
  modify fun db => { db with steps := db.steps + 1 }
  match env.fault step db.steps with
  | some error => throw (.database error)
  | none => pure ()

/-- `utc_now()`. -/
def graphNow : GraphSession Time := do
  let db ← get
  modify fun db => { db with readings := db.readings + 1 }
  pure (env.clock db.readings)

/-- `uuid4()`. -/
def graphUuid4 : GraphSession UUID := do
  let db ← get
  modify fun db => { db with ids := db.ids + 1 }
  pure (env.newId db.ids)

/-- `commit`. -/
def graphCommit : GraphSession Unit := do
  graphStep env .commit
  modify fun db => { db with committed := db.working }

/-- `rollback`. -/
def graphRollback : GraphSession Unit := do
  graphStep env .rollback
  modify fun db => { db with working := db.committed }

end Steps

/-! ## What a session program does to the tables -/

/-- The database errors that the environment can raise. -/
def GraphEnv.Faults (env : GraphEnv) (failure : Failure) : Prop :=
  ∃ step n error, env.fault step n = some error ∧ failure = .database error

/-- The tables are the same. -/
def GraphDb.Same (s t : GraphDb) : Prop := t.committed = s.committed ∧ t.working = s.working

/-- A database is the same as itself. -/
theorem GraphDb.Same.refl (s : GraphDb) : s.Same s := ⟨rfl, rfl⟩

/-- What is the same as the same database is the same. -/
theorem GraphDb.Same.trans {s t u : GraphDb} (h : s.Same t) (h' : t.Same u) : s.Same u :=
  ⟨h'.1.trans h.1, h'.2.trans h.2⟩

/-- From a working copy, a program that leaves the committed tables returns with an effect on
the working copy, or it raises without one, because of the database or for another reason. -/
def Acts {α : Type} (env : GraphEnv) (graph : KnowledgeGraph) (x : GraphSession α)
    (effect : α → KnowledgeGraph → Prop) (rejects : Failure → Prop) : Prop :=
  ∀ s : GraphDb, s.working = graph → Prog.Triple (· = s) x
    (fun a s' => s'.committed = s.committed ∧ effect a s'.working)
    (fun e s' => s.Same s' ∧ (rejects e ∨ env.Faults e))

/-- A program that only reads. -/
def Reads {α : Type} (env : GraphEnv) (graph : KnowledgeGraph) (x : GraphSession α)
    (returns : α → Prop) (rejects : Failure → Prop) : Prop :=
  Acts env graph x (fun a graph' => graph' = graph ∧ returns a) rejects

section Rules

variable {α β : Type} {env : GraphEnv} {graph : KnowledgeGraph} {x : GraphSession α}
  {effect : α → KnowledgeGraph → Prop} {returns : α → Prop} {rejects : Failure → Prop}

/-- A value acts if its effect is there already. -/
theorem acts_pure {a : α} (h : effect a graph) : Acts env graph (pure a) effect rejects := by
  intro s hs
  refine Prog.triple_pure fun t ht => ?_
  subst ht
  rw [hs]
  exact ⟨rfl, h⟩

/-- A failure acts if it is one of the rejections. -/
theorem acts_throw {e : Failure} (h : rejects e) : Acts env graph (throw e) effect rejects := by
  intro s _
  refine Prog.triple_throw fun t ht => ?_
  subst ht
  exact ⟨.refl t, .inl h⟩

/-- The effect and the reasons to raise may be weakened. -/
theorem Acts.conseq {effect' : α → KnowledgeGraph → Prop} {rejects' : Failure → Prop}
    (h : Acts env graph x effect rejects) (heffect : ∀ a graph', effect a graph' → effect' a graph')
    (hrejects : ∀ e, rejects e → rejects' e) : Acts env graph x effect' rejects' :=
  fun s hs => (h s hs).conseq (fun _ ht => ht) (fun a t ht => ⟨ht.1, heffect a t.working ht.2⟩)
    (fun e _ he => ⟨he.1, he.2.imp_left (hrejects e)⟩)

/-- What a program has read is known to the rest. -/
theorem Reads.bind {f : α → GraphSession β} {effect : β → KnowledgeGraph → Prop}
    (hx : Reads env graph x returns rejects)
    (hf : ∀ a, returns a → Acts env graph (f a) effect rejects) :
    Acts env graph (x >>= f) effect rejects := by
  intro s hs
  have hx' : Prog.Triple (· = s) x (fun a s' => s.Same s' ∧ returns a)
      (fun e s' => s.Same s' ∧ (rejects e ∨ env.Faults e)) :=
    (hx s hs).conseq (fun _ ht => ht) (fun a t ht => ⟨⟨ht.1, ht.2.1.trans hs.symm⟩, ht.2.2⟩)
      (fun _ _ he => he)
  refine hx'.bind fun a t ⟨hsame, ha⟩ => ?_
  refine (hf a ha t (hsame.2.trans hs)).conseq (fun _ hu => hu) (fun b u hb => ?_)
    (fun e u he => ⟨hsame.trans he.1, he.2⟩) t rfl
  exact ⟨hb.1.trans hsame.1, hb.2⟩

/-- A look at the database reads the tables of the session. -/
theorem reads_get : Reads env graph get (fun db => db.working = graph) rejects := by
  intro s hs
  refine Prog.triple_get fun t ht => ?_
  subst ht
  exact ⟨rfl, hs, hs⟩

/-- Counting does not concern the tables. -/
theorem reads_count {f : GraphDb → GraphDb} (hf : ∀ db : GraphDb, db.Same (f db)) :
    Reads env graph (modify f) (fun _ => True) rejects := by
  intro s hs
  refine Prog.triple_modify fun t ht => ?_
  subst ht
  exact ⟨(hf t).1, (hf t).2.trans hs, trivial⟩

/-- A statement reads, or fails with the error of the database. -/
theorem reads_step (step : GraphStep) :
    Reads env graph (graphStep env step) (fun _ => True) rejects := by
  refine reads_get.bind fun db _ => ?_
  refine Reads.bind (reads_count ?_) fun _ _ => ?_
  · exact fun db => ⟨rfl, rfl⟩
  cases hfault : env.fault step db.steps with
  | none => exact acts_pure ⟨rfl, trivial⟩
  | some error =>
    intro s _
    refine Prog.triple_throw fun t ht => ?_
    subst ht
    exact ⟨.refl t, .inr ⟨step, db.steps, error, hfault, rfl⟩⟩

/-- Only the database makes a statement fail. -/
theorem reads_step_only (step : GraphStep) :
    Reads env graph (graphStep env step) (fun _ => True) (fun _ => False) :=
  reads_step step

/-- A look at the clock reads nothing. -/
theorem reads_now : Reads env graph (graphNow env) (fun _ => True) rejects := by
  refine reads_get.bind fun db _ => ?_
  refine Reads.bind (reads_count ?_) fun _ _ => acts_pure ⟨rfl, trivial⟩
  exact fun db => ⟨rfl, rfl⟩

/-- A new identifier reads nothing. -/
theorem reads_uuid4 : Reads env graph (graphUuid4 env) (fun _ => True) rejects := by
  refine reads_get.bind fun db _ => ?_
  refine Reads.bind (reads_count ?_) fun _ _ => acts_pure ⟨rfl, trivial⟩
  exact fun db => ⟨rfl, rfl⟩

/-- Behind a check its condition holds. -/
theorem reads_require {condition : Prop} [Decidable condition]
    (h : ¬ condition → rejects .value) :
    Reads env graph (requireValue condition) (fun _ => condition) rejects := by
  unfold requireValue
  by_cases hcondition : condition
  · rw [if_pos hcondition]
    exact acts_pure ⟨rfl, hcondition⟩
  · rw [if_neg hcondition]
    exact acts_throw (h hcondition)

/-- A change of the working copy, and what is returned then. -/
theorem acts_modify {f : KnowledgeGraph → KnowledgeGraph} {a : α} (h : effect a (f graph)) :
    Acts env graph (do modifyGraph f; pure a) effect rejects := by
  intro s hs
  refine Prog.Triple.bind (Q := fun _ t => t = { s with working := f graph })
    (Prog.triple_modify fun t ht => ?_) fun _ => Prog.triple_pure fun t ht => ?_
  · subst ht
    rw [hs]
  · subst ht
    exact ⟨rfl, h⟩

end Rules

end AssessmentPlatform
