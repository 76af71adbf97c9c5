import AssessmentPlatform.Persistence.Session
import AssessmentPlatform.Runtime.Resilience
import AssessmentPlatform.Tools.Registry
import Mathlib.Algebra.BigOperators.Group.List.Basic

/-!
# The counters of the metrics recorder

One recorder is shared by the provider operations and the tool executions of a request. The retry
loop calls it back only before it retries, whereas the tool registry counts every timeout. A
timeout with which a provider operation ends is therefore not counted, and the counter of the
timeouts falls behind by one for each operation that ends so.

The recorded durations and the token usage have no part in the two counters.
-/

namespace AssessmentPlatform

open Library

/-- `record_retry`. -/
def RuntimeMetrics.recordRetry (metrics : RuntimeMetrics) (category : FailureCategory) :
    RuntimeMetrics :=
  { metrics with
    retryCount := metrics.retryCount + 1
    timeoutCount := if category = .timeout then metrics.timeoutCount + 1 else metrics.timeoutCount }

/-- The handler execution that a call of the registry comes to, as `execute` decides it. A call that
is refused or answered from the cache runs no handler. -/
def ToolRegistry.invoked {Args : Type} (registry : ToolRegistry Args) (name : Str)
    (raw : ArgumentObject) (cache : ToolCache) (invocations : ℕ) : Option HandlerOutcome := do
  let definition ← registry.find name
  let arguments ← definition.validate raw
  match registry.fingerprint name (definition.dump arguments) with
  | .error _ => none
  | .ok fingerprint =>
    match cache.lookup fingerprint with
    | some _ => none
    | none => some (definition.handler arguments invocations)

/-- What `execute` records of a handler execution. -/
def RuntimeMetrics.recordHandler (metrics : RuntimeMetrics) : HandlerOutcome → RuntimeMetrics
  | .timedOut => { metrics with timeoutCount := metrics.timeoutCount + 1 }
  | .returned _ | .raised _ => metrics

/-- The operations that share a recorder: one of a provider, given by its policy, the outcome of
each attempt and the jitter, or one call of the tool registry. -/
inductive RecordedOperation (Args : Type) where
  | provider (policy : Option RetryPolicy) (attempt : ℕ → Except PyException Unit)
    (randomValue : ℕ → ℚ)
  | tool (registry : ToolRegistry Args) (name : Str) (raw : ArgumentObject) (cache : ToolCache)
    (invocations : ℕ)

/-- The category that a callback is given. -/
def RetryEvent.category? : RetryEvent → Option FailureCategory
  | .retried _ category => some category
  | _ => none

/-- The events of a provider operation; without a policy it is attempted once. -/
def providerEvents (policy : Option RetryPolicy) (attempt : ℕ → Except PyException Unit)
    (randomValue : ℕ → ℚ) : List RetryEvent :=
  match policy with
  | some policy => (Prog.exec (runWithRetry policy attempt randomValue true) []).2
  | none => [.attempted]

/-- An attempt that timed out. -/
def timedOut : Except PyException Unit → Bool
  | .ok _ => false
  | .error e => decide (classifyFailure e = .timeout)

section Operations

variable {Args : Type}

/-- The recorder after an operation. -/
def RuntimeMetrics.recordOperation (metrics : RuntimeMetrics) :
    RecordedOperation Args → RuntimeMetrics
  | .provider policy attempt randomValue =>
    ((providerEvents policy attempt randomValue).filterMap RetryEvent.category?).foldl
      recordRetry metrics
  | .tool registry name raw cache invocations =>
    match registry.invoked name raw cache invocations with
    | some outcome => metrics.recordHandler outcome
    | none => metrics

namespace RecordedOperation

/-- The number of attempts that an operation makes. -/
def attempts : RecordedOperation Args → ℕ
  | .provider policy attempt randomValue =>
    (providerEvents policy attempt randomValue).count .attempted
  | .tool registry name raw cache invocations =>
    (registry.invoked name raw cache invocations).toList.length

/-- The number of its attempts that time out. -/
def timeouts : RecordedOperation Args → ℕ
  | .provider policy attempt randomValue =>
    (List.range ((providerEvents policy attempt randomValue).count .attempted)).countP fun i =>
      timedOut (attempt i)
  | .tool registry name raw cache invocations =>
    match registry.invoked name raw cache invocations with
    | some .timedOut => 1
    | _ => 0

/-- A provider operation that ends with a timeout: every attempt that the policy allows fails with a
failure that is retried, and the last of them times out. -/
def EndsWithTimeout : RecordedOperation Args → Prop
  | .provider (some policy) attempt _ =>
    (∀ i ≤ policy.maxRetries, (retriedCategory (attempt i)).isSome) ∧
      timedOut (attempt policy.maxRetries) = true
  | .provider none attempt _ => timedOut (attempt 0) = true
  | .tool .. => False

instance (op : RecordedOperation Args) : Decidable op.EndsWithTimeout :=
  match op with
  | .provider (some policy) attempt _ =>
    inferInstanceAs
      (Decidable ((∀ i ≤ policy.maxRetries, (retriedCategory (attempt i)).isSome) ∧ _))
  | .provider none attempt _ => inferInstanceAs (Decidable (timedOut (attempt 0) = true))
  | .tool .. => inferInstanceAs (Decidable False)

end RecordedOperation

/-- The handler executions that the registry logs are the ones that are recorded. -/
theorem ToolRegistry.execute_invocations (registry : ToolRegistry Args) (name : Str)
    (raw : ArgumentObject) (cache : ToolCache) (log : ToolLog Args) :
    (Prog.exec (registry.execute name raw cache) log).2.invocations.length =
      log.invocations.length +
        (registry.invoked name raw cache log.invocations.length).toList.length := by
  unfold ToolRegistry.execute ToolRegistry.invoked
  cases hfind : registry.find name with
  | none => cases hhash : registry.fingerprint name raw <;> rfl
  | some definition =>
  dsimp only [Option.bind_eq_bind, Option.bind_some]
  cases hvalidate : definition.validate raw with
  | none => cases hhash : registry.fingerprint name raw <;> rfl
  | some arguments =>
  dsimp only [Option.bind_eq_bind, Option.bind_some]
  cases hhash : registry.fingerprint name (definition.dump arguments) with
  | error e => rfl
  | ok fingerprint =>
  dsimp only
  cases hlookup : cache.lookup fingerprint with
  | some result => rfl
  | none =>
    change (log.invocations ++ [(name, arguments)]).length = _
    rw [List.length_append]
    rfl

/-! ## One provider operation -/

section Provider

variable {policy : RetryPolicy} {attempt : ℕ → Except PyException Unit} {randomValue : ℕ → ℚ}
  {attempts : ℕ} {outcome : Except RetryFailure Unit} {events : List RetryEvent}

/-- A retry for a timeout follows an attempt that timed out. -/
theorem retriedCategory_eq_timeout {result : Except PyException Unit} :
    retriedCategory result = some .timeout ↔ timedOut result = true := by
  cases result with
  | ok value => simp [retriedCategory, timedOut]
  | error e => by_cases h : classifyFailure e = .timeout <;> simp [retriedCategory, timedOut, h]

/-- The categories of the callbacks are those of the attempts before the last one. -/
theorem RetryRun.categories_eq
    (h : RetryRun policy attempt randomValue true attempts outcome events) :
    events.filterMap RetryEvent.category? =
      (List.range (attempts - 1)).flatMap fun i => (retriedCategory (attempt i)).toList := by
  rw [h.events_eq]
  refine filterMap_rounds rfl fun i _ => ?_
  unfold retriedRound
  cases retriedCategory (attempt i) <;> rfl

/-- Every attempt before the last one is called back once. -/
theorem RetryRun.length_categories
    (h : RetryRun policy attempt randomValue true attempts outcome events) :
    (events.filterMap RetryEvent.category?).length = attempts - 1 := by
  have hone : ∀ i ∈ List.range (attempts - 1), (retriedCategory (attempt i)).toList.length = 1 := by
    intro i hi
    obtain ⟨category, hcategory⟩ :=
      Option.isSome_iff_exists.mp (h.retried_before (List.mem_range.mp hi))
    rw [hcategory]
    rfl
  rw [h.categories_eq, List.length_flatMap, List.map_congr_left hone]
  simp

/-- Among these attempts the callbacks see all timeouts. -/
theorem RetryRun.count_timeout
    (h : RetryRun policy attempt randomValue true attempts outcome events) :
    (events.filterMap RetryEvent.category?).count .timeout =
      (List.range (attempts - 1)).countP fun i => timedOut (attempt i) := by
  have hcount : ∀ i, (retriedCategory (attempt i)).toList.count .timeout =
      if timedOut (attempt i) = true then 1 else 0 := by
    intro i
    by_cases htimeout : timedOut (attempt i) = true
    · rw [if_pos htimeout, retriedCategory_eq_timeout.mpr htimeout]
      rfl
    · rw [if_neg htimeout, List.count_eq_zero]
      exact fun hmem => htimeout (retriedCategory_eq_timeout.mp (Option.mem_toList.mp hmem))
  rw [h.categories_eq, List.count_flatMap]
  simp only [Function.comp_def, hcount]
  induction List.range (attempts - 1) with
  | nil => rfl
  | cons i rest ih => rw [List.map_cons, List.sum_cons, ih, List.countP_cons, Nat.add_comm]

/-- The last attempt times out exactly if all attempts of the policy are used up and the last of
them times out: a timeout that leaves attempts over is retried. -/
theorem RetryRun.timedOut_last_iff
    (h : RetryRun policy attempt randomValue true attempts outcome events) :
    timedOut (attempt (attempts - 1)) = true ↔
      (∀ i ≤ policy.maxRetries, (retriedCategory (attempt i)).isSome) ∧
        timedOut (attempt policy.maxRetries) = true := by
  have hpos := h.attempts_pos
  have hle := h.attempts_le
  have hlast : (retriedCategory (attempt (attempts - 1))).isSome →
      attempts - 1 = policy.maxRetries := by
    intro hretried
    by_contra hleft
    have hmore := (h.retried_iff (attempts - 1)).mpr ⟨by omega, by omega, hretried⟩
    omega
  constructor
  · intro htimeout
    have hretried : (retriedCategory (attempt (attempts - 1))).isSome := by
      rw [retriedCategory_eq_timeout.mpr htimeout]
      rfl
    refine ⟨fun i hi => ?_, hlast hretried ▸ htimeout⟩
    rcases (hi.trans_eq (hlast hretried).symm).eq_or_lt with rfl | hi
    · exact hretried
    · exact h.retried_before hi
  · rintro ⟨hretried, htimeout⟩
    rwa [hlast (hretried _ (by omega))]

end Provider

/-! ## What the recorder counts -/

/-- Callbacks add their number to the retries, and the number of the timeouts among them to the
timeouts. -/
theorem RuntimeMetrics.foldl_recordRetry (categories : List FailureCategory)
    (metrics : RuntimeMetrics) :
    (categories.foldl recordRetry metrics).retryCount = metrics.retryCount + categories.length ∧
      (categories.foldl recordRetry metrics).timeoutCount =
        metrics.timeoutCount + categories.count .timeout := by
  induction categories generalizing metrics with
  | nil => exact ⟨rfl, rfl⟩
  | cons category rest ih =>
    obtain ⟨hretries, htimeouts⟩ := ih (metrics.recordRetry category)
    rw [List.foldl_cons, hretries, htimeouts, List.length_cons, List.count_cons]
    constructor
    · change metrics.retryCount + 1 + rest.length = _
      omega
    · by_cases hcategory : category = .timeout <;> simp [recordRetry, hcategory]
      omega

/-- An operation adds its retries. Of its timeouts it adds all but the one with which a provider
operation ends. -/
theorem RuntimeMetrics.recordOperation_counts (metrics : RuntimeMetrics)
    (op : RecordedOperation Args) :
    (metrics.recordOperation op).retryCount = metrics.retryCount + (op.attempts - 1) ∧
      (metrics.recordOperation op).timeoutCount + (if op.EndsWithTimeout then 1 else 0) =
        metrics.timeoutCount + op.timeouts := by
  cases op with
  | provider policy attempt randomValue =>
    cases policy with
    | none =>
      refine ⟨rfl, ?_⟩
      change metrics.timeoutCount + (if timedOut (attempt 0) = true then 1 else 0) =
        metrics.timeoutCount + (List.range 1).countP fun i => timedOut (attempt i)
      rw [List.range_one, List.countP_singleton]
    | some policy =>
      obtain ⟨attempts, outcome, events, hexec, hrun⟩ :=
        retryRun_runWithRetry policy attempt randomValue true
      have hevents : providerEvents (some policy) attempt randomValue = events :=
        congrArg Prod.snd hexec
      obtain ⟨hretries, htimeouts⟩ :=
        foldl_recordRetry (events.filterMap RetryEvent.category?) metrics
      have hpos := hrun.attempts_pos
      have hsplit : (List.range attempts).countP (fun i => timedOut (attempt i)) =
          (List.range (attempts - 1)).countP (fun i => timedOut (attempt i)) +
            if timedOut (attempt (attempts - 1)) = true then 1 else 0 := by
        rw [← Nat.sub_add_cancel hpos, List.range_succ, List.countP_append,
          List.countP_singleton, Nat.add_sub_cancel]
      simp only [recordOperation, RecordedOperation.attempts, RecordedOperation.timeouts, hevents,
        hrun.count_attempted, hretries, htimeouts, hrun.length_categories, hrun.count_timeout,
        hsplit, true_and]
      rw [Nat.add_assoc]
      congr 2
      exact if_congr hrun.timedOut_last_iff.symm rfl rfl
  | tool registry name raw cache invocations =>
    have hnone : ¬(RecordedOperation.tool registry name raw cache invocations).EndsWithTimeout :=
      id
    rw [if_neg hnone, Nat.add_zero]
    simp only [recordOperation, RecordedOperation.attempts, RecordedOperation.timeouts]
    cases registry.invoked name raw cache invocations with
    | none => exact ⟨rfl, rfl⟩
    | some handled => cases handled <;> exact ⟨rfl, rfl⟩

/-- The counters after any number of operations. The induction is on the operations: each of them
that ends with a timeout leaves the counter one further behind. -/
theorem RuntimeMetrics.foldl_recordOperation (ops : List (RecordedOperation Args))
    (metrics : RuntimeMetrics) :
    (ops.foldl recordOperation metrics).retryCount =
        metrics.retryCount + (ops.map fun op => op.attempts - 1).sum ∧
      (ops.foldl recordOperation metrics).timeoutCount +
          ops.countP (fun op => decide op.EndsWithTimeout) =
        metrics.timeoutCount + (ops.map RecordedOperation.timeouts).sum := by
  induction ops generalizing metrics with
  | nil => exact ⟨rfl, rfl⟩
  | cons op rest ih =>
    obtain ⟨hretries, htimeouts⟩ := ih (metrics.recordOperation op)
    obtain ⟨hfirst, hlast⟩ := metrics.recordOperation_counts op
    rw [List.foldl_cons, List.map_cons, List.map_cons, List.sum_cons, List.sum_cons,
      List.countP_cons]
    simp only [decide_eq_true_eq]
    omega

/-- A recorder that is shared by any operations counts exactly their retries and their timed-out
attempts if no provider operation ends with a timeout. The attempts of a tool call are the handler
executions that the registry logs for it. -/
theorem recorder_counts_iff (ops : List (RecordedOperation Args)) :
    (((ops.foldl RuntimeMetrics.recordOperation {}).timeoutCount =
          (ops.map RecordedOperation.timeouts).sum ∧
        (ops.foldl RuntimeMetrics.recordOperation {}).retryCount =
          (ops.map fun op => op.attempts - 1).sum) ↔
      ∀ op ∈ ops, ¬op.EndsWithTimeout) ∧
    ∀ (registry : ToolRegistry Args) (name : Str) (raw : ArgumentObject) (cache : ToolCache)
      (log : ToolLog Args),
      (Prog.exec (registry.execute name raw cache) log).2.invocations.length =
        log.invocations.length +
          (RecordedOperation.tool registry name raw cache log.invocations.length).attempts := by
  refine ⟨?_, ToolRegistry.execute_invocations⟩
  obtain ⟨hretries, htimeouts⟩ := RuntimeMetrics.foldl_recordOperation ops {}
  change _ = 0 + _ at hretries htimeouts
  have hnone : ops.countP (fun op => decide op.EndsWithTimeout) = 0 ↔
      ∀ op ∈ ops, ¬op.EndsWithTimeout := by
    rw [List.countP_eq_zero]
    simp only [decide_eq_true_eq]
  rw [← hnone]
  omega

/-- A provider operation whose attempts all time out. -/
def RecordedOperation.timingOut (Args : Type) : RecordedOperation Args :=
  .provider (some .default)
    (fun _ => .error ⟨Str.ofString "ProviderTimeoutError", [.providerTimeoutError]⟩) fun _ => 0

end Operations

/-- With the default policy an operation may time out three times, and two timeouts are counted. -/
theorem recorder_misses_timeout :
    (RecordedOperation.timingOut Unit).timeouts = 3 ∧
      (RuntimeMetrics.recordOperation {} (RecordedOperation.timingOut Unit)).timeoutCount = 2 ∧
      (RuntimeMetrics.recordOperation {} (RecordedOperation.timingOut Unit)).retryCount = 2 := by
  decide +kernel

end AssessmentPlatform
