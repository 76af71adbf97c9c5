import AssessmentPlatform.Library.Program
import AssessmentPlatform.Python
import Mathlib.Algebra.Order.Field.Rat
import Mathlib.Tactic.Linarith
import Mathlib.Tactic.Positivity

/-!
# Bounded retries

The classification of failures and the retry loop around a provider operation. The
operation, the source of jitter and the callback are parameters: the operation by its
outcome in each attempt, the source by the value it gives to each back-off. What the loop
does is recorded in the order in which it happens. Delays are exact rationals.
-/

namespace AssessmentPlatform

open Library

/-- Stable failure classification. -/
inductive FailureCategory where
  | transient | permanent | validation | policy | timeout | provider | retrieval | tool
  | persistence | humanRejection
  deriving DecidableEq

/-- The classes that the classification asks about. -/
inductive ExceptionClass where
  | providerTimeoutError | operationTimeoutError | providerTransientError | valueError | typeError
  deriving DecidableEq

/-- An exception as the classification sees it: the name of its type and the classes of which
it is an instance. -/
structure PyException where
  typeName : Str
  classes : List ExceptionClass := []
  deriving DecidableEq

/-- Small bounded exponential-backoff policy. -/
structure RetryPolicy where
  maxRetries : ℕ := 2
  baseDelayMs : ℕ := 250
  maxDelayMs : ℕ := 4000
  jitterRatio : ℚ := 1 / 10
  maxRetries_le : maxRetries ≤ 10
  baseDelayMs_le : baseDelayMs ≤ 60000
  maxDelayMs_le : maxDelayMs ≤ 60000
  jitterRatio_bounds : 0 ≤ jitterRatio ∧ jitterRatio ≤ 1
  baseDelayMs_le_maxDelayMs : baseDelayMs ≤ maxDelayMs

/-- `classify_failure`. -/
def classifyFailure (e : PyException) : FailureCategory :=
  if .providerTimeoutError ∈ e.classes ∨ .operationTimeoutError ∈ e.classes ∨
      e.typeName = Str.ofString "APITimeoutError" then .timeout
  else if .providerTransientError ∈ e.classes ∨
      e.typeName ∈ [Str.ofString "APIConnectionError", Str.ofString "InternalServerError",
        Str.ofString "RateLimitError"] then .transient
  else if .valueError ∈ e.classes ∨ .typeError ∈ e.classes then .validation
  else .permanent

/-- What the loop does: it calls the operation, calls back, or sleeps. -/
inductive RetryEvent where
  | attempted
  | retried (attempt : ℕ) (category : FailureCategory)
  | slept (seconds : ℚ)
  deriving DecidableEq

/-- How the loop raises: it raises the exception of an attempt again, or it runs out of
attempts and raises the `RuntimeError` behind it. -/
inductive RetryFailure where
  | raised (e : PyException)
  | loopEnded
  deriving DecidableEq

/-- The back-off after an attempt without its jitter, in milliseconds. -/
def RetryPolicy.backoffMs (policy : RetryPolicy) (attempt : ℕ) : ℕ :=
  min policy.maxDelayMs (policy.baseDelayMs * 2 ^ attempt)

/-- The time that the loop sleeps after an attempt, in seconds. -/
def RetryPolicy.delay (policy : RetryPolicy) (randomValue : ℕ → ℚ) (attempt : ℕ) : ℚ :=
  (policy.backoffMs attempt + policy.backoffMs attempt * policy.jitterRatio * randomValue attempt) /
    1000

/-- The record of one more event. -/
def recordRetryEvent (event : RetryEvent) : Prog (List RetryEvent) RetryFailure Unit :=
  modify fun events => events ++ [event]

section Loop

variable {α : Type} (policy : RetryPolicy) (operation : ℕ → Except PyException α)
  (randomValue : ℕ → ℚ) (onRetry : Bool)

/-- The loop with `n` iterations left, the next of which makes the given attempt. -/
def retryLoop : ℕ → ℕ → Prog (List RetryEvent) RetryFailure α
  | 0, _ => throw .loopEnded
  | n + 1, attempt => do
    recordRetryEvent .attempted
    match operation attempt with
    | .ok result => pure result
    | .error e =>
      if classifyFailure e ∉ [.transient, .timeout] then throw (.raised e)
      else if policy.maxRetries ≤ attempt then throw (.raised e)
      else do
        if onRetry then recordRetryEvent (.retried (attempt + 1) (classifyFailure e))
        recordRetryEvent (.slept (policy.delay randomValue attempt))
        retryLoop n (attempt + 1)

/-- `run_with_retry`. -/
def runWithRetry : Prog (List RetryEvent) RetryFailure α :=
  retryLoop policy operation randomValue onRetry (policy.maxRetries + 1) 0

end Loop

/-! ## What a run of the loop does -/

section Runs

variable {α : Type} {policy : RetryPolicy} {operation : ℕ → Except PyException α}
  {randomValue : ℕ → ℚ} {onRetry : Bool}

/-- The category of a failure that is retried if attempts are left over. -/
def retriedCategory : Except PyException α → Option FailureCategory
  | .ok _ => none
  | .error e =>
    if classifyFailure e ∈ [.transient, .timeout] then some (classifyFailure e) else none

/-- The argument of a callback. -/
def RetryEvent.attempt? : RetryEvent → Option ℕ
  | .retried attempt _ => some attempt
  | _ => none

/-- The duration of a sleep. -/
def RetryEvent.seconds? : RetryEvent → Option ℚ
  | .slept seconds => some seconds
  | _ => none

variable (policy operation randomValue onRetry) in
/-- The events of an attempt that is followed by another one. -/
def retriedRound (attempt : ℕ) : List RetryEvent :=
  [.attempted] ++
    (if onRetry then (retriedCategory (operation attempt)).toList.map (.retried (attempt + 1))
      else []) ++
    [.slept (policy.delay randomValue attempt)]

variable (policy operation randomValue onRetry) in
/-- A run of the loop: the number of its attempts, its outcome, and its events in order. -/
structure RetryRun (attempts : ℕ) (outcome : Except RetryFailure α) (events : List RetryEvent) :
    Prop where
  attempts_pos : 0 < attempts
  attempts_le : attempts ≤ policy.maxRetries + 1
  retried_iff : ∀ i, i + 1 < attempts ↔
    i < attempts ∧ i < policy.maxRetries ∧ (retriedCategory (operation i)).isSome
  outcome_eq : outcome = (operation (attempts - 1)).mapError .raised
  events_eq : events = (List.range (attempts - 1)).flatMap
    (retriedRound policy operation randomValue onRetry) ++ [.attempted]

/-- One iteration ends the loop with its outcome, or records a round and goes on. -/
theorem exec_retryLoop_succ (n attempt : ℕ) (events : List RetryEvent) :
    Prog.exec (retryLoop policy operation randomValue onRetry (n + 1) attempt) events =
      if attempt < policy.maxRetries ∧ (retriedCategory (operation attempt)).isSome then
        Prog.exec (retryLoop policy operation randomValue onRetry n (attempt + 1))
          (events ++ retriedRound policy operation randomValue onRetry attempt)
      else ((operation attempt).mapError .raised, events ++ [.attempted]) := by
  rw [retryLoop, Prog.exec_bind]
  cases houtcome : operation attempt with
  | ok result => simp [retriedCategory, recordRetryEvent, Except.mapError]
  | error e =>
    by_cases hretried : classifyFailure e ∈ [.transient, .timeout]
    · by_cases hlast : policy.maxRetries ≤ attempt
      · simp [recordRetryEvent, hretried, hlast, Except.mapError, Nat.not_lt.mpr hlast]
      · cases onRetry <;>
          simp [recordRetryEvent, hretried, hlast, retriedCategory, retriedRound, houtcome,
            Prog.exec_bind, Nat.lt_of_not_le hlast]
    · simp [recordRetryEvent, hretried, retriedCategory, Except.mapError]

variable (policy operation randomValue onRetry) in
/-- The loop from any of its attempts on: it retries up to one last attempt, with whose outcome
it ends. The induction is on the iterations that are left, of which there is always one. -/
theorem exec_retryLoop (n attempt : ℕ) (hn : attempt + n = policy.maxRetries)
    (events : List RetryEvent) :
    ∃ last, attempt ≤ last ∧ last ≤ policy.maxRetries ∧
      (∀ i, attempt ≤ i → i < last → (retriedCategory (operation i)).isSome) ∧
      (last < policy.maxRetries → (retriedCategory (operation last)).isSome = false) ∧
      Prog.exec (retryLoop policy operation randomValue onRetry (n + 1) attempt) events =
        ((operation last).mapError .raised,
          events ++ ((List.range' attempt (last - attempt)).flatMap
            (retriedRound policy operation randomValue onRetry) ++ [.attempted])) := by
  induction n generalizing attempt events with
  | zero =>
    refine ⟨attempt, le_rfl, by omega, fun i hlow hhigh => by omega, fun h => by omega, ?_⟩
    rw [exec_retryLoop_succ, if_neg (fun h => by omega), Nat.sub_self]
    rfl
  | succ n ih =>
    rw [exec_retryLoop_succ]
    by_cases hretried : (retriedCategory (operation attempt)).isSome = true
    · rw [if_pos ⟨by omega, hretried⟩]
      obtain ⟨last, hle, hbound, hbefore, hlast, hexec⟩ := ih (attempt + 1) (by omega)
        (events ++ retriedRound policy operation randomValue onRetry attempt)
      refine ⟨last, by omega, hbound, ?_, hlast, ?_⟩
      · intro i hlow hhigh
        rcases hlow.eq_or_lt with rfl | hlow
        · exact hretried
        · exact hbefore i hlow hhigh
      · have hrange : List.range' attempt (last - attempt) =
            attempt :: List.range' (attempt + 1) (last - (attempt + 1)) := by
          rw [← List.range'_succ]
          congr 1
          omega
        rw [hexec, hrange, List.flatMap_cons]
        simp only [List.append_assoc]
    · refine ⟨attempt, le_rfl, by omega, fun i hlow hhigh => by omega,
        fun _ => Bool.eq_false_iff.mpr hretried, ?_⟩
      rw [if_neg (fun h => hretried h.2), Nat.sub_self]
      rfl

variable (policy operation randomValue onRetry) in
/-- `run_with_retry` is a run of the loop. -/
theorem retryRun_runWithRetry :
    ∃ attempts outcome events,
      Prog.exec (runWithRetry policy operation randomValue onRetry) [] = (outcome, events) ∧
        RetryRun policy operation randomValue onRetry attempts outcome events := by
  obtain ⟨last, -, hbound, hbefore, hlast, hexec⟩ :=
    exec_retryLoop policy operation randomValue onRetry policy.maxRetries 0 (by omega) []
  refine ⟨last + 1, _, _, hexec, by omega, by omega, fun i => ?_, rfl, ?_⟩
  · constructor
    · intro hi
      exact ⟨by omega, by omega, hbefore i (by omega) (by omega)⟩
    · rintro ⟨hi, hleft, hretried⟩
      by_contra hend
      obtain rfl : i = last := by omega
      rw [hlast hleft] at hretried
      cases hretried
  · rw [List.range_eq_range']
    rfl

/-! ### Callbacks and sleeps -/

/-- What a selection of the events gives in a run. -/
theorem filterMap_rounds {β : Type} {select : RetryEvent → Option β} {f : ℕ → List β} {n : ℕ}
    (hattempted : select RetryEvent.attempted = none)
    (hround : ∀ i < n,
      (retriedRound policy operation randomValue onRetry i).filterMap select = f i) :
    ((List.range n).flatMap (retriedRound policy operation randomValue onRetry) ++
      [RetryEvent.attempted]).filterMap select = (List.range n).flatMap f := by
  rw [List.filterMap_append, List.filterMap_flatMap, List.filterMap_cons_none hattempted,
    List.filterMap_nil, List.append_nil]
  exact List.flatMap_congr fun i hi => hround i (List.mem_range.mp hi)

namespace RetryRun

variable {attempts : ℕ} {outcome : Except RetryFailure α} {events : List RetryEvent}

/-- Every attempt but the last one is retried. -/
theorem retried_before (h : RetryRun policy operation randomValue onRetry attempts outcome events)
    {i : ℕ} (hi : i < attempts - 1) : (retriedCategory (operation i)).isSome :=
  ((h.retried_iff i).mp (by omega)).2.2

/-- Every attempt before the last one has failed. -/
theorem failed_before (h : RetryRun policy operation randomValue onRetry attempts outcome events)
    {i : ℕ} (hi : i < attempts - 1) : ∃ e, operation i = .error e := by
  have hretried := h.retried_before hi
  cases houtcome : operation i with
  | ok result =>
    rw [houtcome] at hretried
    cases hretried
  | error e => exact ⟨e, rfl⟩

/-- The run makes as many attempts as it tells. -/
theorem count_attempted
    (h : RetryRun policy operation randomValue onRetry attempts outcome events) :
    events.count .attempted = attempts := by
  have hround : ∀ i,
      (retriedRound policy operation randomValue onRetry i).count .attempted = 1 := by
    intro i
    unfold retriedRound
    cases onRetry <;> cases retriedCategory (operation i) <;> rfl
  have hpos := h.attempts_pos
  rw [h.events_eq, List.count_append, List.count_flatMap]
  simp only [Function.comp_def, hround, List.map_const', List.length_range,
    List.sum_replicate_nat, mul_one, List.count_singleton_self]
  omega

/-- The callback counts the retries from one. -/
theorem callbacks_eq (h : RetryRun policy operation randomValue onRetry attempts outcome events) :
    events.filterMap RetryEvent.attempt? =
      if onRetry then List.range' 1 (attempts - 1) else [] := by
  have hround : ∀ i < attempts - 1,
      (retriedRound policy operation randomValue onRetry i).filterMap RetryEvent.attempt? =
        if onRetry then [i + 1] else [] := by
    intro i hi
    obtain ⟨category, hcategory⟩ := Option.isSome_iff_exists.mp (h.retried_before hi)
    unfold retriedRound
    rw [hcategory]
    cases onRetry <;> rfl
  rw [h.events_eq, filterMap_rounds rfl hround]
  cases onRetry with
  | false => simp
  | true => simp [List.range'_eq_map_range, Nat.add_comm, ← List.map_eq_flatMap]

/-- Between two attempts the loop sleeps once. -/
theorem sleeps_eq (h : RetryRun policy operation randomValue onRetry attempts outcome events) :
    events.filterMap RetryEvent.seconds? =
      (List.range (attempts - 1)).map (policy.delay randomValue) := by
  have hround : ∀ i < attempts - 1,
      (retriedRound policy operation randomValue onRetry i).filterMap RetryEvent.seconds? =
        [policy.delay randomValue i] := by
    intro i hi
    unfold retriedRound
    cases onRetry <;> cases retriedCategory (operation i) <;> rfl
  rw [h.events_eq, filterMap_rounds rfl hround, List.map_eq_flatMap]

end RetryRun

end Runs

/-- A jitter within its range lengthens the back-off by at most its ratio. -/
theorem RetryPolicy.delay_bounds (policy : RetryPolicy) {randomValue : ℕ → ℚ} {attempt : ℕ}
    (hrandom : 0 ≤ randomValue attempt ∧ randomValue attempt < 1) :
    (policy.backoffMs attempt : ℚ) / 1000 ≤ policy.delay randomValue attempt ∧
      policy.delay randomValue attempt ≤
        policy.backoffMs attempt * (1 + policy.jitterRatio) / 1000 := by
  have hscale : 0 ≤ (policy.backoffMs attempt : ℚ) * policy.jitterRatio :=
    mul_nonneg (Nat.cast_nonneg _) policy.jitterRatio_bounds.1
  have hlow := mul_nonneg hscale hrandom.1
  have hhigh := mul_le_of_le_one_right hscale hrandom.2.le
  unfold RetryPolicy.delay
  constructor
  · gcongr
    linarith
  · gcongr
    linarith

/-- Whatever the attempts do, the loop makes at most one attempt more than it may retry. It goes
on exactly after a transient failure or a timeout that leaves attempts over, and ends with the
first success or with the failure of the last attempt, never behind the loop. It calls back with
the numbers of its retries, and each of its sleeps is the capped back-off, lengthened by at most
the jitter ratio. -/
theorem run_with_retry_bounded {α : Type} (policy : RetryPolicy)
    (operation : ℕ → Except PyException α) (randomValue : ℕ → ℚ) (onRetry : Bool)
    (hrandom : ∀ i, 0 ≤ randomValue i ∧ randomValue i < 1) :
    ∃ attempts outcome events,
      Prog.exec (runWithRetry policy operation randomValue onRetry) [] = (outcome, events) ∧
      events.count .attempted = attempts ∧ 1 ≤ attempts ∧ attempts ≤ policy.maxRetries + 1 ∧
      (∀ i, i + 1 < attempts ↔ i < attempts ∧ i < policy.maxRetries ∧ ∃ e,
        operation i = .error e ∧
          (classifyFailure e = .transient ∨ classifyFailure e = .timeout)) ∧
      (∀ i < attempts - 1, ∃ e, operation i = .error e) ∧
      (∀ result, outcome = .ok result ↔ operation (attempts - 1) = .ok result) ∧
      (∀ e, outcome = .error (.raised e) ↔ operation (attempts - 1) = .error e) ∧
      outcome ≠ .error .loopEnded ∧
      events.filterMap RetryEvent.attempt? =
        (if onRetry then List.range' 1 (attempts - 1) else []) ∧
      (events.filterMap RetryEvent.seconds?).length = attempts - 1 ∧
      ∀ (i : ℕ) (seconds : ℚ), (events.filterMap RetryEvent.seconds?)[i]? = some seconds →
        (min policy.maxDelayMs (policy.baseDelayMs * 2 ^ i) : ℕ) / 1000 ≤ seconds ∧
          seconds ≤ (min policy.maxDelayMs (policy.baseDelayMs * 2 ^ i) : ℕ) *
            (1 + policy.jitterRatio) / 1000 := by
  obtain ⟨attempts, outcome, events, hexec, hrun⟩ :=
    retryRun_runWithRetry policy operation randomValue onRetry
  have hcategory : ∀ i, (retriedCategory (operation i)).isSome ↔ ∃ e, operation i = .error e ∧
      (classifyFailure e = .transient ∨ classifyFailure e = .timeout) := by
    intro i
    cases operation i with
    | ok result => simp [retriedCategory]
    | error e => simp [retriedCategory]
  refine ⟨attempts, outcome, events, hexec, hrun.count_attempted, hrun.attempts_pos,
    hrun.attempts_le, fun i => ?_, fun i hi => hrun.failed_before hi, fun result => ?_,
    fun e => ?_, ?_, hrun.callbacks_eq, ?_, fun i seconds hseconds => ?_⟩
  · rw [hrun.retried_iff, hcategory]
  · rw [hrun.outcome_eq]
    cases operation (attempts - 1) <;> simp [Except.mapError]
  · rw [hrun.outcome_eq]
    cases operation (attempts - 1) <;> simp [Except.mapError]
  · rw [hrun.outcome_eq]
    cases operation (attempts - 1) <;> simp [Except.mapError]
  · rw [hrun.sleeps_eq, List.length_map, List.length_range]
  · rw [hrun.sleeps_eq, List.getElem?_map, Option.map_eq_some_iff] at hseconds
    obtain ⟨j, hj, rfl⟩ := hseconds
    obtain rfl : i = j := by simpa using (List.getElem?_eq_some_iff.mp hj).2
    exact policy.delay_bounds (hrandom i)

/-- Two retries are within the bound. -/
theorem RetryPolicy.twoRetries_le : 2 ≤ 10 := by decide

/-- The default policy. -/
def RetryPolicy.default : RetryPolicy where
  maxRetries_le := RetryPolicy.twoRetries_le
  baseDelayMs_le := by decide
  maxDelayMs_le := by decide
  jitterRatio_bounds := by norm_num
  baseDelayMs_le_maxDelayMs := by decide

/-- Two lost connections are retried before the operation succeeds. -/
theorem third_attempt_succeeds :
    ∃ events, Prog.exec (runWithRetry .default
        (fun i => if i < 2 then .error ⟨Str.ofString "APIConnectionError", []⟩ else .ok ())
        (fun _ => 1 / 2) true) [] = (.ok (), events) ∧ events.count .attempted = 3 := by
  obtain ⟨attempts, outcome, events, hexec, hcount, hpos, hle, hretried, -, hok, -⟩ :=
    run_with_retry_bounded RetryPolicy.default
      (fun i => if i < 2 then .error ⟨Str.ofString "APIConnectionError", []⟩ else .ok ())
      (fun _ => 1 / 2) true (fun _ => by norm_num)
  have hcategory : classifyFailure ⟨Str.ofString "APIConnectionError", []⟩ = .transient := by
    decide +kernel
  have hfirst : 0 + 1 < attempts :=
    (hretried 0).mpr ⟨hpos, by decide, _, rfl, .inl hcategory⟩
  have hsecond : 1 + 1 < attempts :=
    (hretried 1).mpr ⟨hfirst, by decide, _, rfl, .inl hcategory⟩
  have hthree : attempts = 3 := by
    change attempts ≤ 3 at hle
    omega
  refine ⟨events, hexec.trans ?_, hcount.trans hthree⟩
  rw [(hok ()).mpr (by rw [hthree]; rfl)]

end AssessmentPlatform
