import AssessmentPlatform.Library.Json
import AssessmentPlatform.Library.Program
import AssessmentPlatform.Agents.Models
import AssessmentPlatform.Models.KnowledgeGraph

/-!
# The tool registry

The execution boundary of the approved tools: an unknown tool and arguments outside of
the tool's schema are refused, an identical call is answered from the cache of the
execution, and every other call runs the handler of the tool. The schemas, the handlers
and the hash function are parameters. A log records the calls that were answered and the
handlers that ran.
-/

namespace AssessmentPlatform

open Library

/-- Bounded document observation supplied back to an agent. -/
structure ObservedKnowledgeDocument where
  documentId : UUID
  title : Str
  sourceType : KnowledgeSourceType
  contentExcerpt : Str
  truncated : Bool
  deriving DecidableEq

/-- Normalized result from any approved tool. -/
structure ToolExecutionResult where
  toolName : Str
  success : Bool
  summary : Str
  evidence : List RetrievedEvidence := []
  document : Option ObservedKnowledgeDocument := none
  graphNeighborhood : Option GraphNeighborhood := none
  graphRetrieval : Option GraphRetrievalExecutionMetadata := none
  errorCode : Option Str := none
  cached : Bool := false
  deriving DecidableEq

/-- Safe per-call state retained inside one execution. -/
structure ToolHistoryEntry where
  step : ℕ
  toolName : Str
  success : Bool
  summary : Str
  argumentKeys : List Str
  callFingerprint : Str
  cached : Bool
  errorCode : Option Str := none
  graphRetrieval : Option GraphRetrievalExecutionMetadata := none
  deriving DecidableEq

/-- An argument object: its fields in the order in which they were given. -/
abbrev ArgumentObject := List (Str × Json)

/-- What a handler does: it returns, exceeds its time limit, or raises. -/
inductive HandlerOutcome where
  | returned (result : ToolExecutionResult)
  | timedOut
  | raised (failure : Failure)

/-- One statically registered tool: its schema, given by what it validates and how
validated arguments are dumped, and its handler, whose outcome may differ from one
invocation to the next. -/
structure ToolDefinition (Args : Type) where
  name : Str
  validate : ArgumentObject → Option Args
  dump : Args → ArgumentObject
  handler : Args → ℕ → HandlerOutcome

/-- The registered tools, whose names are unique. -/
structure ToolRegistry (Args : Type) where
  definitions : List (ToolDefinition Args)
  sha256 : Str → Str
  names_nodup : (definitions.map ToolDefinition.name).Nodup

/-- The cache of one execution, by fingerprint. -/
abbrev ToolCache := List (Str × ToolExecutionResult)

/-- A call that was answered. -/
structure ToolCall where
  name : Str
  rawArguments : ArgumentObject
  result : ToolExecutionResult

/-- The handlers that ran and the calls that were answered, in order. -/
structure ToolLog (Args : Type) where
  invocations : List (Str × Args) := []
  calls : List ToolCall := []

/-- What a call returns, with the cache that it leaves. -/
structure ToolAnswer where
  result : ToolExecutionResult
  fingerprint : Str
  argumentKeys : List Str
  cache : ToolCache

/-- A failed result of the registry itself. -/
def ToolExecutionResult.failure (name summary errorCode : Str) : ToolExecutionResult where
  toolName := name
  success := false
  summary
  errorCode := some errorCode

/-- The result of a handler; every failure becomes a result. -/
def HandlerOutcome.toResult (name : Str) : HandlerOutcome → ToolExecutionResult
  | .returned result => result
  | .timedOut => .failure name ("The approved tool exceeded its configured time limit." : String)
      ("tool_timeout" : String)
  | .raised (.application e) => .failure name e.publicMessage e.errorCode
  | .raised _ => .failure name ("The approved tool could not complete the request." : String)
      ("tool_execution_error" : String)

/-- The sorted keys of an argument object. -/
def argumentKeys (raw : ArgumentObject) : List Str := (raw.map Prod.fst).insertionSort (· ≤ ·)

/-- The serialized call. -/
def callText (name : Str) (arguments : ArgumentObject) : Str :=
  Json.dumps (.object [(("name" : String), .str name), (("arguments" : String), .object arguments)])

section Execution

variable {Args : Type} (registry : ToolRegistry Args)

/-- The definition of a name. -/
def ToolRegistry.find (name : Str) : Option (ToolDefinition Args) :=
  registry.definitions.find? fun definition => definition.name = name

/-- The hash of a serialized text; encoding a surrogate raises a `ValueError`. -/
def ToolRegistry.hash (text : Str) : Except Failure Str :=
  if text.encodable then .ok (registry.sha256 text) else .error .value

/-- `_fingerprint`. -/
def ToolRegistry.fingerprint (name : Str) (arguments : ArgumentObject) : Except Failure Str :=
  registry.hash (callText name arguments)

/-- Answer a call and record it. -/
def answer (name : Str) (raw : ArgumentObject) (result : ToolExecutionResult) (fingerprint : Str)
    (cache : ToolCache) : Prog (ToolLog Args) Failure ToolAnswer := do
  modify fun log => { log with calls := log.calls ++ [⟨name, raw, result⟩] }
  pure { result, fingerprint, argumentKeys := argumentKeys raw, cache }

/-- Refuse a call; the cache is neither read nor written. -/
def refuse (name : Str) (raw : ArgumentObject) (fingerprint : Except Failure Str)
    (summary errorCode : Str) (cache : ToolCache) : Prog (ToolLog Args) Failure ToolAnswer :=
  match fingerprint with
  | .error e => throw e
  | .ok fingerprint => answer name raw (.failure name summary errorCode) fingerprint cache

/-- Run a handler and record the invocation. -/
def invoke (definition : ToolDefinition Args) (name : Str) (arguments : Args) :
    Prog (ToolLog Args) Failure ToolExecutionResult := do
  let log ← get
  modify fun log => { log with invocations := log.invocations ++ [(name, arguments)] }
  pure ((definition.handler arguments log.invocations.length).toResult name)

/-- `ToolRegistry.execute`; both workflows supply a cache. -/
def ToolRegistry.execute (name : Str) (raw : ArgumentObject) (cache : ToolCache) :
    Prog (ToolLog Args) Failure ToolAnswer :=
  match registry.find name with
  | none => refuse name raw (registry.fingerprint name raw)
      ("Requested tool is not in the approved tool registry." : String)
      ("unknown_tool" : String) cache
  | some definition =>
    match definition.validate raw with
    | none => refuse name raw (registry.fingerprint name raw)
        ("Tool arguments did not match the approved schema." : String)
        ("invalid_tool_arguments" : String) cache
    | some arguments =>
      match registry.fingerprint name (definition.dump arguments) with
      | .error e => throw e
      | .ok fingerprint =>
        match cache.lookup fingerprint with
        | some result => answer name raw { result with cached := true } fingerprint cache
        | none => do
          let result ← invoke definition name arguments
          answer name raw result fingerprint ((fingerprint, result) :: cache)

/-- `EVIDENCE_TOOL_NAMES`. -/
def evidenceToolNames : List Str :=
  [("search_knowledge" : String), ("get_knowledge_document" : String),
    ("search_knowledge_graph" : String)]

/-- The tools that a specialist may use. -/
def permissions : MultiAgentName → List Str
  | .evidence => evidenceToolNames
  | .architecture | .riskGovernance | .synthesis => []

/-- `AgentToolPermissions.execute`. -/
def executePermitted (agent : MultiAgentName) (name : Str) (raw : ArgumentObject)
    (cache : ToolCache) : Prog (ToolLog Args) Failure ToolAnswer :=
  if name ∈ permissions agent then registry.execute name raw cache
  else
    refuse name raw
      (registry.hash (Json.dumps (.object [(("agent" : String), .str agent.value),
        (("name" : String), .str name), (("arguments" : String), .object raw)])))
      ("The specialist is not authorized to use the requested tool." : String)
      ("unauthorized_tool" : String) cache

end Execution

end AssessmentPlatform
