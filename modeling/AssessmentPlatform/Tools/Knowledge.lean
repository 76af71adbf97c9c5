import AssessmentPlatform.KnowledgeGraph.Retrieval
import AssessmentPlatform.Tools.Registry

/-!
# The knowledge tools

The read-only adapters that the registry exposes: semantic search, document lookup, and,
when a graph service is configured, graph search. What the schema library accepts as the
arguments of a tool is a parameter; accepted arguments carry their bounds. The services
may answer each invocation differently. Document metadata is left out.
-/

namespace AssessmentPlatform

open Library

/-- Validated arguments of the semantic search. -/
structure SearchKnowledgeArguments where
  query : Str
  topK : ℕ
  query_accepted : Str.ValidWithin 4000 query
  topK_bounds : 1 ≤ topK ∧ topK ≤ 20

/-- Validated arguments of the document lookup. -/
structure GetKnowledgeDocumentArguments where
  documentId : UUID

/-- Validated arguments of the graph search. -/
structure SearchKnowledgeGraphArguments where
  query : Str
  maxDepth : ℕ
  entityTypes : Option (List KnowledgeEntityType)
  query_accepted : Str.ValidWithin 4000 query
  maxDepth_bounds : 1 ≤ maxDepth ∧ maxDepth ≤ 5
  entityTypes_le : ∀ types ∈ entityTypes, types.length ≤ 11

/-- Validated arguments of any of the tools. -/
inductive KnowledgeArguments where
  | searchKnowledge (arguments : SearchKnowledgeArguments)
  | getKnowledgeDocument (arguments : GetKnowledgeDocumentArguments)
  | searchKnowledgeGraph (arguments : SearchKnowledgeGraphArguments)

/-- `model_dump(mode="json")` of the arguments. -/
def KnowledgeArguments.dump : KnowledgeArguments → ArgumentObject
  | .searchKnowledge a => [(("query" : String), .str a.query), (("top_k" : String), .int a.topK)]
  | .getKnowledgeDocument a => [(("document_id" : String), .str (UUID.text a.documentId))]
  | .searchKnowledgeGraph a =>
    [(("query" : String), .str a.query), (("max_depth" : String), .int a.maxDepth),
      (("entity_types" : String), match a.entityTypes with
        | none => .null
        | some types => .array (types.map fun type => .str type.value))]

/-- What the tools are built from: the schemas, the services as they answer the `n`-th
invocation, and whether an invocation exceeds the time limit. -/
structure KnowledgeTools where
  validateSearch : ArgumentObject → Option SearchKnowledgeArguments
  validateDocument : ArgumentObject → Option GetKnowledgeDocumentArguments
  validateGraph : ArgumentObject → Option SearchKnowledgeGraphArguments
  retrieval : ℕ → RetrievalService
  getById : ℕ → UUID → Except Failure (Option KnowledgeDocumentRecord)
  graph : Option (ℕ → GraphRetrievalService) := none
  exceedsLimit : ℕ → Bool := fun _ => false

/-- Knowledge tools over an empty store, which accept no arguments. -/
def KnowledgeTools.empty : KnowledgeTools where
  validateSearch _ := none
  validateDocument _ := none
  validateGraph _ := none
  retrieval _ :=
    { embedTexts := fun _ => .ok [[1]]
      searchSimilar := fun _ _ _ => .ok []
      topK := 5
      similarityThreshold := 0 }
  getById _ _ := .ok none

/-- `DOCUMENT_EXCERPT_MAX_CHARS`. -/
def documentExcerptMaxChars : ℕ := 12000

section Handlers

variable (tools : KnowledgeTools)

/-- The handler `search_knowledge`. -/
def KnowledgeTools.searchKnowledge (arguments : SearchKnowledgeArguments) (n : ℕ) :
    Except Failure ToolExecutionResult := do
  let evidence ← (tools.retrieval n).search arguments.query (some arguments.topK)
  pure
    { toolName := ("search_knowledge" : String)
      success := true
      summary := Str.ofString "Knowledge search returned " ++ Str.decimal evidence.length ++
        Str.ofString " relevant chunk(s)."
      evidence }

/-- The result of a document lookup. -/
def documentResult : Option KnowledgeDocumentRecord → ToolExecutionResult
  | none =>
    { toolName := ("get_knowledge_document" : String)
      success := true
      summary := ("Knowledge document was not found." : String) }
  | some record =>
    { toolName := ("get_knowledge_document" : String)
      success := true
      summary := ("Knowledge document was retrieved through the read-only repository." : String)
      document := some
        { documentId := record.documentId
          title := record.title
          sourceType := record.sourceType
          contentExcerpt := record.content.take documentExcerptMaxChars
          truncated := documentExcerptMaxChars < record.content.length } }

/-- The handler `get_knowledge_document`. -/
def KnowledgeTools.getKnowledgeDocument (arguments : GetKnowledgeDocumentArguments) (n : ℕ) :
    Except Failure ToolExecutionResult :=
  (tools.getById n arguments.documentId).map documentResult

/-- The handler `search_knowledge_graph`; an application error becomes a result. -/
def searchKnowledgeGraph (graph : GraphRetrievalService)
    (arguments : SearchKnowledgeGraphArguments) : Except Failure ToolExecutionResult :=
  match graph.search arguments.query (some arguments.maxDepth) arguments.entityTypes with
  | .error (.application e) => .ok
    { toolName := ("search_knowledge_graph" : String)
      success := false
      summary := e.publicMessage
      graphRetrieval := some
        { degradedGraphMode := true
          graphErrorCode := some e.errorCode
          graphErrorCode_le := by
            rintro code ⟨⟩
            exact e.errorCode_length_le }
      errorCode := some e.errorCode }
  | .error e => .error e
  | .ok neighborhood => .ok
    { toolName := ("search_knowledge_graph" : String)
      success := true
      summary := Str.ofString "Knowledge graph search returned " ++
        Str.decimal neighborhood.matchedEntities.length ++
        Str.ofString " matched entity/entities and " ++
        Str.decimal neighborhood.relationships.length ++ Str.ofString " relationship(s)."
      evidence := neighborhood.evidence
      graphNeighborhood := some neighborhood
      graphRetrieval := some
        { graphRetrievalUsed := true
          matchedEntityCount := neighborhood.matchedEntities.length
          relationshipCount := neighborhood.relationships.length
          graphDepthUsed := neighborhood.depthUsed
          graphEvidenceCount := neighborhood.evidence.length
          hybridEvidenceCount := neighborhood.evidence.length
          graphDepthUsed_le := neighborhood.depthUsed_le } }

/-- The outcome of an invocation. -/
def KnowledgeTools.outcome (n : ℕ) (result : Except Failure ToolExecutionResult) :
    HandlerOutcome :=
  if tools.exceedsLimit n then .timedOut
  else
    match result with
    | .ok r => .returned r
    | .error e => .raised e

/-- The definition of `search_knowledge`. -/
def KnowledgeTools.searchDefinition : ToolDefinition KnowledgeArguments where
  name := ("search_knowledge" : String)
  validate raw := (tools.validateSearch raw).map .searchKnowledge
  dump := KnowledgeArguments.dump
  handler arguments n := tools.outcome n (match arguments with
    | .searchKnowledge a => tools.searchKnowledge a n
    | _ => .error .other)

/-- The definition of `get_knowledge_document`. -/
def KnowledgeTools.documentDefinition : ToolDefinition KnowledgeArguments where
  name := ("get_knowledge_document" : String)
  validate raw := (tools.validateDocument raw).map .getKnowledgeDocument
  dump := KnowledgeArguments.dump
  handler arguments n := tools.outcome n (match arguments with
    | .getKnowledgeDocument a => tools.getKnowledgeDocument a n
    | _ => .error .other)

/-- The definition of `search_knowledge_graph`. -/
def KnowledgeTools.graphDefinition (graph : ℕ → GraphRetrievalService) :
    ToolDefinition KnowledgeArguments where
  name := ("search_knowledge_graph" : String)
  validate raw := (tools.validateGraph raw).map .searchKnowledgeGraph
  dump := KnowledgeArguments.dump
  handler arguments n := tools.outcome n (match arguments with
    | .searchKnowledgeGraph a => searchKnowledgeGraph (graph n) a
    | _ => .error .other)

/-- The definitions of the configured tools. -/
def KnowledgeTools.definitions : List (ToolDefinition KnowledgeArguments) :=
  [tools.searchDefinition, tools.documentDefinition] ++
    (tools.graph.map tools.graphDefinition).toList

/-- `build_knowledge_tool_registry`. -/
def KnowledgeTools.registry (sha256 : Str → Str) : ToolRegistry KnowledgeArguments where
  definitions := tools.definitions
  sha256
  names_nodup := by
    have hnames : [Str.ofString "search_knowledge", Str.ofString "get_knowledge_document",
        Str.ofString "search_knowledge_graph"].Nodup := by
      decide +kernel
    unfold KnowledgeTools.definitions
    cases tools.graph with
    | none => exact hnames.sublist (by simp [KnowledgeTools.searchDefinition,
        KnowledgeTools.documentDefinition])
    | some graph => exact hnames

end Handlers

/-! ## Results fit a trace event -/

/-- A result whose summary and error code a trace event accepts. -/
def ToolExecutionResult.Traceable (result : ToolExecutionResult) : Prop :=
  MultiAgentTraceEvent.Accepts result.summary none result.errorCode

/-- A result that the events of both workflows accept: the single-agent graph does not strip
the summary. -/
def ToolExecutionResult.Recordable (result : ToolExecutionResult) : Prop :=
  result.Traceable ∧ result.summary.length ≤ 300

/-- A registry whose handlers only give results that a trace event accepts. -/
def ToolRegistry.Traceable {Args : Type} (registry : ToolRegistry Args) : Prop :=
  ∀ definition ∈ registry.definitions, ∀ arguments n name,
    ((definition.handler arguments n).toResult name).Traceable

/-- A registry whose handlers only give results that both workflows record. -/
def ToolRegistry.Recordable {Args : Type} (registry : ToolRegistry Args) : Prop :=
  ∀ definition ∈ registry.definitions, ∀ arguments n name,
    ((definition.handler arguments n).toResult name).Recordable

/-- The length of a decimal. -/
theorem Str.decimal_length_le {n k : ℕ} (hk : 0 < k) (h : n < 10 ^ k) :
    (Str.decimal n).length ≤ k := by
  rw [Str.decimal, List.length_map]
  exact (Nat.length_toDigits_le_iff (by decide) hk).mpr h

/-- A decimal can be encoded. -/
theorem Str.decimal_encodable (n : ℕ) : (Str.decimal n).encodable = true :=
  Str.encodable_map_ofChar _

/-- The message and the code of an error fit a trace event. -/
theorem ApplicationError.traceable (e : ApplicationError) :
    MultiAgentTraceEvent.Accepts e.publicMessage none (some e.errorCode) := by
  refine ⟨Str.validWithin_trim e.publicMessage_encodable e.strip_publicMessage_ne_nil
    e.publicMessage_length_le, nofun, ?_⟩
  rintro code ⟨⟩
  exact Str.validUpTo_trim e.errorCode_encodable e.errorCode_length_le

/-- Every failure becomes an acceptable result. -/
theorem HandlerOutcome.toResult_recordable {name : Str} {outcome : HandlerOutcome}
    (h : ∀ result, outcome = .returned result → result.Recordable) :
    (outcome.toResult name).Recordable := by
  have hother : MultiAgentTraceEvent.Accepts
      (Str.ofString "The approved tool could not complete the request.") none
      (some (Str.ofString "tool_execution_error")) := by
    decide +kernel
  cases outcome with
  | returned result => exact h result rfl
  | timedOut =>
    refine ⟨?_, Str.length_le_ofList _ (by decide)⟩
    change MultiAgentTraceEvent.Accepts
      (Str.ofString "The approved tool exceeded its configured time limit.") none
      (some (Str.ofString "tool_timeout"))
    decide +kernel
  | raised e =>
    cases e with
    | application e => exact ⟨e.traceable, e.publicMessage_length_le⟩
    | _ => exact ⟨hother, Str.length_le_ofList _ (by decide)⟩

section Results

variable {tools : KnowledgeTools}

/-- What the search tool returns can be recorded. -/
theorem KnowledgeTools.searchKnowledge_recordable {arguments : SearchKnowledgeArguments} {n : ℕ}
    {result : ToolExecutionResult} (h : tools.searchKnowledge arguments n = .ok result) :
    result.Recordable := by
  unfold KnowledgeTools.searchKnowledge at h
  obtain ⟨evidence, hevidence, h⟩ := except_bind_eq_ok.mp h
  cases h
  have hcount : evidence.length ≤ 20 := by
    have hle := (RetrievalService.search_eq_ok hevidence).2
    have hbounds := arguments.topK_bounds
    cases htop : arguments.topK with
    | zero => omega
    | succ k =>
      rw [htop] at hle hbounds
      exact hle.trans hbounds.2
  have hdigits := Str.decimal_length_le (n := evidence.length) (k := 2) (by decide) (by omega)
  have hmem : 75 ∈ Str.ofString "Knowledge search returned " := by
    decide +kernel
  have hlengths : (Str.ofString "Knowledge search returned ").length = 26 ∧
      (Str.ofString " relevant chunk(s).").length = 19 := by
    decide +kernel
  have hencodable : (Str.ofString "Knowledge search returned ").encodable = true ∧
      (Str.ofString " relevant chunk(s).").encodable = true := by
    decide +kernel
  have hlength : (Str.ofString "Knowledge search returned " ++ Str.decimal evidence.length ++
      Str.ofString " relevant chunk(s).").length ≤ 300 := by
    simp only [List.length_append, hlengths.1, hlengths.2]
    omega
  refine ⟨⟨Str.validWithin_trim ?_ ?_ hlength, nofun, nofun⟩, hlength⟩
  · simp only [Str.encodable_append, hencodable.1, hencodable.2, Str.decimal_encodable,
      Bool.and_self]
  · exact Str.strip_ne_nil (c := 75) (by simp [hmem]) (by decide)

/-- What the document tool returns can be recorded. -/
theorem documentResult_recordable (found : Option KnowledgeDocumentRecord) :
    (documentResult found).Recordable := by
  cases found with
  | none =>
    refine ⟨?_, Str.length_le_ofList _ (by decide)⟩
    change MultiAgentTraceEvent.Accepts (Str.ofString "Knowledge document was not found.") none none
    decide +kernel
  | some record =>
    refine ⟨?_, Str.length_le_ofList _ (by decide)⟩
    change MultiAgentTraceEvent.Accepts (Str.ofString
      "Knowledge document was retrieved through the read-only repository.") none none
    decide +kernel

/-- What the graph tool returns can be recorded. -/
theorem searchKnowledgeGraph_recordable {graph : GraphRetrievalService}
    {arguments : SearchKnowledgeGraphArguments} {result : ToolExecutionResult}
    (h : searchKnowledgeGraph graph arguments = .ok result) : result.Recordable := by
  unfold searchKnowledgeGraph at h
  split at h
  · cases h
    exact ⟨ApplicationError.traceable _, ApplicationError.publicMessage_length_le _⟩
  · cases h
  · rename_i neighborhood hsearch
    cases h
    obtain ⟨hmatched, hrelationships⟩ := GraphRetrievalService.search_sizes_lt hsearch
    have hfirst := Str.decimal_length_le (k := 19) (by decide)
      (hmatched.trans (by decide : 2 ^ 63 < 10 ^ 19))
    have hsecond := Str.decimal_length_le (k := 19) (by decide)
      (hrelationships.trans (by decide : 2 ^ 63 < 10 ^ 19))
    have hmem : 75 ∈ Str.ofString "Knowledge graph search returned " := by
      decide +kernel
    have hlengths : (Str.ofString "Knowledge graph search returned ").length = 32 ∧
        (Str.ofString " matched entity/entities and ").length = 29 ∧
        (Str.ofString " relationship(s).").length = 17 := by
      decide +kernel
    have hencodable : (Str.ofString "Knowledge graph search returned ").encodable = true ∧
        (Str.ofString " matched entity/entities and ").encodable = true ∧
        (Str.ofString " relationship(s).").encodable = true := by
      decide +kernel
    have hlength : (Str.ofString "Knowledge graph search returned " ++
        Str.decimal neighborhood.matchedEntities.length ++
        Str.ofString " matched entity/entities and " ++
        Str.decimal neighborhood.relationships.length ++
        Str.ofString " relationship(s).").length ≤ 300 := by
      simp only [List.length_append, hlengths.1, hlengths.2.1, hlengths.2.2]
      omega
    refine ⟨⟨Str.validWithin_trim ?_ ?_ hlength, nofun, nofun⟩, hlength⟩
    · simp only [Str.encodable_append, hencodable.1, hencodable.2.1, hencodable.2.2,
        Str.decimal_encodable, Bool.and_self]
    · exact Str.strip_ne_nil (c := 75) (by simp [hmem]) (by decide)

/-- An invocation of a handler gives an acceptable result. -/
theorem KnowledgeTools.outcome_recordable {n : ℕ} {name : Str}
    {r : Except Failure ToolExecutionResult} (h : ∀ result, r = .ok result → result.Recordable) :
    ((tools.outcome n r).toResult name).Recordable := by
  refine HandlerOutcome.toResult_recordable fun result hresult => ?_
  unfold KnowledgeTools.outcome at hresult
  split at hresult
  · cases hresult
  · split at hresult
    · cases hresult
      exact h _ rfl
    · cases hresult

/-- The definitions of the registry. -/
theorem KnowledgeTools.definition_cases {definition : ToolDefinition KnowledgeArguments}
    (hmem : definition ∈ tools.definitions) :
    definition = tools.searchDefinition ∨ definition = tools.documentDefinition ∨
      ∃ graph, definition = tools.graphDefinition graph := by
  simp only [KnowledgeTools.definitions, List.mem_append, List.mem_cons, List.not_mem_nil,
    or_false, Option.mem_toList, Option.map_eq_some_iff] at hmem
  rcases hmem with (h | h) | ⟨graph, -, h⟩
  · exact .inl h
  · exact .inr (.inl h)
  · exact .inr (.inr ⟨graph, h.symm⟩)

/-- The registry knows no other names than those of the three tools. -/
theorem KnowledgeTools.find_eq_none (tools : KnowledgeTools) (sha256 : Str → Str) {name : Str}
    (h : name ∉ evidenceToolNames) : (tools.registry sha256).find name = none := by
  refine List.find?_eq_none.mpr fun definition hmem hname => h ?_
  rw [← of_decide_eq_true hname]
  rcases KnowledgeTools.definition_cases hmem with rfl | rfl | ⟨graph, rfl⟩
  · exact List.mem_cons_self
  · exact List.mem_cons_of_mem _ List.mem_cons_self
  · exact List.mem_cons_of_mem _ (List.mem_cons_of_mem _ List.mem_cons_self)

/-- Whatever the knowledge tools do, both workflows record their results. -/
theorem KnowledgeTools.registry_recordable (tools : KnowledgeTools) (sha256 : Str → Str) :
    (tools.registry sha256).Recordable := by
  intro definition hdefinition arguments n name
  rcases KnowledgeTools.definition_cases hdefinition with rfl | rfl | ⟨graph, rfl⟩
  · refine KnowledgeTools.outcome_recordable fun result hresult => ?_
    cases arguments with
    | searchKnowledge a => exact KnowledgeTools.searchKnowledge_recordable hresult
    | getKnowledgeDocument a => cases hresult
    | searchKnowledgeGraph a => cases hresult
  · refine KnowledgeTools.outcome_recordable fun result hresult => ?_
    cases arguments with
    | searchKnowledge a => cases hresult
    | getKnowledgeDocument a =>
      dsimp only [KnowledgeTools.getKnowledgeDocument] at hresult
      cases hfound : tools.getById n a.documentId with
      | error e =>
        rw [hfound] at hresult
        cases hresult
      | ok found =>
        rw [hfound] at hresult
        cases hresult
        exact documentResult_recordable found
    | searchKnowledgeGraph a => cases hresult
  · refine KnowledgeTools.outcome_recordable fun result hresult => ?_
    cases arguments with
    | searchKnowledge a => cases hresult
    | getKnowledgeDocument a => cases hresult
    | searchKnowledgeGraph a => exact searchKnowledgeGraph_recordable hresult

/-- The tools of the registry can be traced. -/
theorem KnowledgeTools.registry_traceable (tools : KnowledgeTools) (sha256 : Str → Str) :
    (tools.registry sha256).Traceable :=
  fun definition hdefinition arguments n name =>
    (tools.registry_recordable sha256 definition hdefinition arguments n name).1

end Results

end AssessmentPlatform
