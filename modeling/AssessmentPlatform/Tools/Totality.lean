import AssessmentPlatform.Tools.Calls
import AssessmentPlatform.Tools.Knowledge

/-!
# Which tool calls raise

Every path through the registry hashes the serialized call, the refusals included, and no
`try` block surrounds the encoding. What the handler does never matters: a time limit and a
failure become results. A call therefore raises exactly if one of the texts that are
serialized for it cannot be encoded.
-/

namespace AssessmentPlatform

open Library

variable {Args : Type} {registry : ToolRegistry Args} {name : Str} {raw : ArgumentObject}
  {cache : ToolCache}

/-- A call is answered by a result and does not raise. -/
def Returns (call : Prog (ToolLog Args) Failure ToolAnswer) (log : ToolLog Args) : Prop :=
  ∃ answer log', Prog.exec call log = (.ok answer, log')

/-! ## The serialized call -/

/-- The arguments that are serialized for a call: the normalized ones if the tool is known and
accepts them, and the requested ones otherwise. -/
def ToolRegistry.serializedArguments (registry : ToolRegistry Args) (name : Str)
    (raw : ArgumentObject) : ArgumentObject :=
  match registry.find name with
  | none => raw
  | some definition =>
    match definition.validate raw with
    | none => raw
    | some arguments => definition.dump arguments

/-- The text that the registry hashes for a call: the normalized call if it is accepted, and
the call as it was requested if it is not. -/
def ToolRegistry.hashedText (registry : ToolRegistry Args) (name : Str) (raw : ArgumentObject) :
    Str :=
  match registry.find name with
  | none => callText name raw
  | some definition =>
    match definition.validate raw with
    | none => callText name raw
    | some arguments => callText name (definition.dump arguments)

/-- What is hashed is the text of the call with its serialized arguments. -/
theorem ToolRegistry.hashedText_eq :
    registry.hashedText name raw = callText name (registry.serializedArguments name raw) := by
  unfold hashedText serializedArguments
  cases registry.find name with
  | none => rfl
  | some definition =>
    cases hvalidate : definition.validate raw with
    | none => simp only [hvalidate]
    | some arguments => simp only [hvalidate]

/-- The text of a call can be encoded if the name and the arguments can. -/
theorem encodable_callText (name : Str) (arguments : ArgumentObject) :
    (callText name arguments).encodable =
      (name.encodable && (Json.object arguments).encodable) := by
  have hname : Str.encodable ("name" : String) = true := Str.encodable_ofString _
  have harguments : Str.encodable ("arguments" : String) = true := Str.encodable_ofString _
  rw [callText, Json.encodable_dumps]
  simp only [Json.encodable, Json.encodableFields, hname, harguments, Bool.true_and, Bool.and_true]

/-- The name of an agent can be encoded. -/
theorem MultiAgentName.encodable_value (agent : MultiAgentName) : agent.value.encodable = true := by
  cases agent <;> exact Str.encodable_ofString _

/-- The name of the specialist adds nothing that could not be encoded. -/
theorem encodable_unauthorizedText (agent : MultiAgentName) (name : Str) (raw : ArgumentObject) :
    (Json.dumps (.object [(("agent" : String), .str agent.value), (("name" : String), .str name),
      (("arguments" : String), .object raw)])).encodable =
      (name.encodable && (Json.object raw).encodable) := by
  have hagent : Str.encodable ("agent" : String) = true := Str.encodable_ofString _
  have hname : Str.encodable ("name" : String) = true := Str.encodable_ofString _
  have harguments : Str.encodable ("arguments" : String) = true := Str.encodable_ofString _
  rw [Json.encodable_dumps]
  simp only [Json.encodable, Json.encodableFields, agent.encodable_value, hagent, hname, harguments,
    Bool.true_and, Bool.and_true]

/-! ## Calls -/

/-- A refusal raises exactly if its text cannot be hashed. -/
theorem returns_refuse_hash (text summary errorCode : Str) (log : ToolLog Args) :
    Returns (refuse name raw (registry.hash text) summary errorCode cache) log ↔
      text.encodable = true := by
  unfold ToolRegistry.hash
  cases htext : text.encodable with
  | true => exact ⟨fun _ => rfl, fun _ => ⟨_, _, rfl⟩⟩
  | false =>
    refine ⟨fun ⟨answer, log', hexec⟩ => ?_, fun h => absurd h Bool.false_ne_true⟩
    cases (congrArg Prod.fst hexec)

/-- A call whose text cannot be encoded raises. -/
theorem exec_execute_raises (log : ToolLog Args)
    (h : (registry.hashedText name raw).encodable = false) :
    Prog.exec (registry.execute name raw cache) log = (.error .value, log) := by
  unfold ToolRegistry.hashedText at h
  unfold ToolRegistry.execute ToolRegistry.fingerprint ToolRegistry.hash
  cases hfind : registry.find name with
  | none =>
    rw [hfind] at h
    simp only [h]
    rfl
  | some definition =>
    rw [hfind] at h
    cases hvalidate : definition.validate raw with
    | none =>
      simp only [hvalidate] at h
      simp only [hvalidate, h]
      rfl
    | some arguments =>
      simp only [hvalidate] at h
      simp only [hvalidate, h]
      rfl

/-- The result of a refusal can be recorded. -/
theorem recordable_refusal (summary errorCode : List Char)
    (hsummary : Str.strip (summary.map CodePoint.ofChar) ≠ [] ∧ summary.length ≤ 300)
    (herrorCode : errorCode.length ≤ 100) :
    (ToolExecutionResult.failure name (summary.map CodePoint.ofChar)
      (errorCode.map CodePoint.ofChar)).Recordable := by
  have hlength : (summary.map CodePoint.ofChar).length ≤ 300 := by
    rw [List.length_map]
    exact hsummary.2
  refine ⟨⟨Str.validWithin_trim (Str.encodable_map_ofChar _) hsummary.1 hlength, nofun, ?_⟩,
    hlength⟩
  rintro code ⟨⟩
  refine Str.validUpTo_trim (Str.encodable_map_ofChar _) ?_
  rwa [List.length_map]

variable (cache) in
/-- Every other call is answered, whatever the handler does: it is refused, answered from the
cache, or answered by the handler. -/
theorem exec_execute_answers (log : ToolLog Args)
    (h : (registry.hashedText name raw).encodable = true) :
    ∃ answer log', Prog.exec (registry.execute name raw cache) log = (.ok answer, log') ∧
      (answer.result.Recordable ∧ answer.cache = cache ∨
        (∃ fingerprint result, cache.lookup fingerprint = some result ∧
          answer.result = { result with cached := true } ∧ answer.cache = cache) ∨
        ∃ definition ∈ registry.definitions, ∃ arguments n fingerprint,
          answer.result = (definition.handler arguments n).toResult name ∧
            answer.cache = (fingerprint, answer.result) :: cache) := by
  unfold ToolRegistry.hashedText at h
  unfold ToolRegistry.execute ToolRegistry.fingerprint ToolRegistry.hash
  cases hfind : registry.find name with
  | none =>
    rw [hfind] at h
    simp only [h]
    exact ⟨_, _, rfl, .inl ⟨recordable_refusal _ _ (by decide +kernel) (by decide +kernel), rfl⟩⟩
  | some definition =>
    rw [hfind] at h
    cases hvalidate : definition.validate raw with
    | none =>
      simp only [hvalidate] at h
      simp only [hvalidate, h]
      exact ⟨_, _, rfl, .inl ⟨recordable_refusal _ _ (by decide +kernel) (by decide +kernel), rfl⟩⟩
    | some arguments =>
      simp only [hvalidate] at h
      simp only [hvalidate, h, if_true]
      cases hlookup :
          cache.lookup (registry.sha256 (callText name (definition.dump arguments))) with
      | some result => exact ⟨_, _, rfl, .inr (.inl ⟨_, result, hlookup, rfl, rfl⟩)⟩
      | none =>
        exact ⟨_, _, rfl, .inr (.inr ⟨definition, List.mem_of_find?_eq_some hfind, arguments,
          log.invocations.length, _, rfl, rfl⟩)⟩

/-- A call returns exactly if its name and its serialized arguments can be encoded. -/
theorem returns_execute_iff (log : ToolLog Args) :
    Returns (registry.execute name raw cache) log ↔
      name.encodable = true ∧
        (Json.object (registry.serializedArguments name raw)).encodable = true := by
  rw [← Bool.and_eq_true, ← encodable_callText, ← ToolRegistry.hashedText_eq]
  constructor
  · rintro ⟨answer, log', hexec⟩
    cases hencodable : (registry.hashedText name raw).encodable with
    | true => rfl
    | false => cases hexec.symm.trans (exec_execute_raises log hencodable)
  · intro hencodable
    obtain ⟨answer, log', hexec, -⟩ := exec_execute_answers cache log hencodable
    exact ⟨answer, log', hexec⟩

/-- The arguments that are serialized for the call of a specialist. -/
def permittedArguments (registry : ToolRegistry Args) (agent : MultiAgentName) (name : Str)
    (raw : ArgumentObject) : ArgumentObject :=
  if name ∈ permissions agent then registry.serializedArguments name raw else raw

/-- A call raises exactly if the tool's name or the serialized arguments hold an unpaired
surrogate; the cache, the time limit and the handler make no difference. -/
theorem tool_call_returns_iff (registry : ToolRegistry Args) (name : Str) (raw : ArgumentObject)
    (cache : ToolCache) (log : ToolLog Args) :
    (Returns (registry.execute name raw cache) log ↔
      name.encodable = true ∧
        (Json.object (registry.serializedArguments name raw)).encodable = true) ∧
    ∀ agent, Returns (executePermitted registry agent name raw cache) log ↔
      name.encodable = true ∧
        (Json.object (permittedArguments registry agent name raw)).encodable = true := by
  refine ⟨returns_execute_iff log, fun agent => ?_⟩
  unfold executePermitted permittedArguments
  by_cases hallowed : name ∈ permissions agent
  · rw [if_pos hallowed, if_pos hallowed]
    exact returns_execute_iff log
  · rw [if_neg hallowed, if_neg hallowed, returns_refuse_hash, encodable_unauthorizedText,
      Bool.and_eq_true]

/-- An argument object that is decoded from the text `{"query":"\ud800"}`. -/
def surrogateArguments : ArgumentObject := [(("query" : String), .str [0xD800])]

/-- The refusal of an unknown tool raises. -/
theorem surrogate_call_raises :
    ¬ ∀ (tools : KnowledgeTools) (sha256 : Str → Str) (name : Str) (raw : ArgumentObject)
      (cache : ToolCache) (log : ToolLog KnowledgeArguments),
      Returns ((tools.registry sha256).execute name raw cache) log ∧
      ∀ agent, Returns (executePermitted (tools.registry sha256) agent name raw cache) log := by
  intro hclaim
  obtain ⟨answer, log', hexec⟩ :=
    (hclaim .empty id ("drop_tables" : String) surrogateArguments [] {}).1
  have hencodable : ((KnowledgeTools.empty.registry id).hashedText ("drop_tables" : String)
      surrogateArguments).encodable = false := by
    decide +kernel
  cases hexec.symm.trans (exec_execute_raises {} hencodable)

end AssessmentPlatform
