import AssessmentPlatform.Tools.Registry
import Mathlib.Logic.Relation

/-!
# What a tool call does

One relation says all that an answered call can do: it is refused, answered from the cache,
or answered by a handler. Both entry points of the registry are described by it, and a
run of a tool loop is a sequence of such calls that hands the cache and the log on.
-/

namespace AssessmentPlatform

open Library

variable {Args : Type}

/-- The log after a call was answered. -/
def ToolLog.answered (log : ToolLog Args) (name : Str) (raw : ArgumentObject)
    (result : ToolExecutionResult) : ToolLog Args :=
  { log with calls := log.calls ++ [⟨name, raw, result⟩] }

/-- The log after a handler ran. -/
def ToolLog.invoked (log : ToolLog Args) (name : Str) (arguments : Args) : ToolLog Args :=
  { log with invocations := log.invocations ++ [(name, arguments)] }

/-- The call of an allowed and registered tool with valid arguments. -/
structure ToolRegistry.Accepts (registry : ToolRegistry Args) (allowed : Str → Prop) (name : Str)
    (raw : ArgumentObject) (definition : ToolDefinition Args) (arguments : Args) : Prop where
  allowed_name : allowed name
  find_eq : registry.find name = some definition
  validate_eq : definition.validate raw = some arguments

/-- What an answered call does. -/
inductive Answered (registry : ToolRegistry Args) (allowed : Str → Prop) (name : Str)
    (raw : ArgumentObject) (cache : ToolCache) (log : ToolLog Args) :
    ToolAnswer → ToolLog Args → Prop
  /-- A call that is not accepted neither reads nor writes the cache. -/
  | refused {fingerprint summary errorCode : Str}
    (hrefused : ∀ definition arguments, ¬ registry.Accepts allowed name raw definition arguments)
    (haccepts : MultiAgentTraceEvent.Accepts summary none (some errorCode)) :
    Answered registry allowed name raw cache log
      ⟨.failure name summary errorCode, fingerprint, argumentKeys raw, cache⟩
      (log.answered name raw (.failure name summary errorCode))
  /-- A call that is known is answered from the cache. -/
  | cached {definition : ToolDefinition Args} {arguments : Args} {fingerprint : Str}
    {result : ToolExecutionResult}
    (haccepted : registry.Accepts allowed name raw definition arguments)
    (hfingerprint : registry.fingerprint name (definition.dump arguments) = .ok fingerprint)
    (hlookup : cache.lookup fingerprint = some result) :
    Answered registry allowed name raw cache log
      ⟨{ result with cached := true }, fingerprint, argumentKeys raw, cache⟩
      (log.answered name raw { result with cached := true })
  /-- A new call runs the handler, and its result is stored. -/
  | invoked {definition : ToolDefinition Args} {arguments : Args} {fingerprint : Str}
    {result : ToolExecutionResult}
    (haccepted : registry.Accepts allowed name raw definition arguments)
    (hfingerprint : registry.fingerprint name (definition.dump arguments) = .ok fingerprint)
    (hlookup : cache.lookup fingerprint = none)
    (hresult : result = (definition.handler arguments log.invocations.length).toResult name) :
    Answered registry allowed name raw cache log
      ⟨result, fingerprint, argumentKeys raw, (fingerprint, result) :: cache⟩
      ((log.invoked name arguments).answered name raw result)

/-! ## The entry points -/

section Entry

variable {registry : ToolRegistry Args} {allowed : Str → Prop} {name : Str} {raw : ArgumentObject}
  {cache : ToolCache} {log : ToolLog Args}

/-- The outcome of a call: it raises and leaves the log as it is, or it is answered. -/
def CallOutcome (registry : ToolRegistry Args) (allowed : Str → Prop) (name : Str)
    (raw : ArgumentObject) (cache : ToolCache) (log : ToolLog Args)
    (outcome : Except Failure ToolAnswer × ToolLog Args) : Prop :=
  (∃ e, outcome = (.error e, log)) ∨
    ∃ answer log', outcome = (.ok answer, log') ∧
      Answered registry allowed name raw cache log answer log'

/-- A refusal is an outcome of a call that is not accepted. -/
theorem exec_refuse (fingerprint : Except Failure Str) {summary errorCode : Str}
    (hrefused : ∀ definition arguments, ¬ registry.Accepts allowed name raw definition arguments)
    (haccepts : MultiAgentTraceEvent.Accepts summary none (some errorCode)) :
    CallOutcome registry allowed name raw cache log
      (Prog.exec (refuse name raw fingerprint summary errorCode cache) log) := by
  cases fingerprint with
  | error e => exact .inl ⟨e, rfl⟩
  | ok fingerprint => exact .inr ⟨_, _, rfl, .refused hrefused haccepts⟩

variable (registry raw cache log) in
/-- `ToolRegistry.execute` on an allowed name. -/
theorem exec_execute (hallowed : allowed name) :
    CallOutcome registry allowed name raw cache log
      (Prog.exec (registry.execute name raw cache) log) := by
  unfold ToolRegistry.execute
  cases hfind : registry.find name with
  | none =>
    refine exec_refuse _ (fun definition arguments haccepted => ?_) (by decide +kernel)
    cases hfind.symm.trans haccepted.find_eq
  | some definition =>
  dsimp only
  cases hvalidate : definition.validate raw with
  | none =>
    refine exec_refuse _ (fun definition' arguments haccepted => ?_) (by decide +kernel)
    cases hfind.symm.trans haccepted.find_eq
    cases hvalidate.symm.trans haccepted.validate_eq
  | some arguments =>
  dsimp only
  have haccepted : registry.Accepts allowed name raw definition arguments :=
    ⟨hallowed, hfind, hvalidate⟩
  cases hfingerprint : registry.fingerprint name (definition.dump arguments) with
  | error e => exact .inl ⟨e, rfl⟩
  | ok fingerprint =>
  dsimp only
  cases hlookup : cache.lookup fingerprint with
  | some result => exact .inr ⟨_, _, rfl, .cached haccepted hfingerprint hlookup⟩
  | none => exact .inr ⟨_, _, rfl, .invoked haccepted hfingerprint hlookup rfl⟩

variable (registry name raw cache log) in
/-- `AgentToolPermissions.execute`. -/
theorem exec_executePermitted (agent : MultiAgentName) :
    CallOutcome registry (· ∈ permissions agent) name raw cache log
      (Prog.exec (executePermitted registry agent name raw cache) log) := by
  unfold executePermitted
  by_cases hallowed : name ∈ permissions agent
  · rw [if_pos hallowed]
    exact exec_execute registry raw cache log hallowed
  · rw [if_neg hallowed]
    exact exec_refuse _ (fun _ _ haccepted => hallowed haccepted.allowed_name) (by decide +kernel)

end Entry

/-! ## Sequences of calls -/

/-- The cache and the log after one more call. -/
def CallStep (registry : ToolRegistry Args) (allowed : Str → Prop)
    (before after : ToolCache × ToolLog Args) : Prop :=
  ∃ name raw answer, Answered registry allowed name raw before.1 before.2 answer after.2 ∧
    after.1 = answer.cache

/-- The cache and the log after a sequence of calls. -/
def CallRun (registry : ToolRegistry Args) (allowed : Str → Prop) :
    ToolCache × ToolLog Args → ToolCache × ToolLog Args → Prop :=
  Relation.ReflTransGen (CallStep registry allowed)

/-- One call, followed by a sequence of calls. -/
theorem Answered.run {registry : ToolRegistry Args} {allowed : Str → Prop} {name : Str}
    {raw : ArgumentObject} {cache : ToolCache} {log log' : ToolLog Args} {answer : ToolAnswer}
    {final : ToolCache × ToolLog Args}
    (h : Answered registry allowed name raw cache log answer log')
    (hrest : CallRun registry allowed (answer.cache, log') final) :
    CallRun registry allowed (cache, log) final :=
  .head ⟨name, raw, answer, h, rfl⟩ hrest

end AssessmentPlatform
