import AssessmentPlatform.Tools.Calls

/-!
# Handlers run at most once

What holds of the log of every sequence of calls that starts with an empty cache: only
accepted calls ran a handler, no two invocations have the same tool and the same normalized
arguments, and a repeated call was given the result of the first one. Two calls with
different normalized arguments are told apart as long as the hash has no collision on
the calls that were made.
-/

namespace AssessmentPlatform

open Library

variable {Args : Type}

/-- The normalized arguments, whose keys are sorted. -/
def ToolDefinition.normalized (definition : ToolDefinition Args) (arguments : Args) : Json :=
  Json.sorted (.object (definition.dump arguments))

/-- What an invocation is identified by. -/
def ToolRegistry.identity (registry : ToolRegistry Args) (invocation : Str × Args) :
    Str × Option Json :=
  (invocation.1, (registry.find invocation.1).map (·.normalized invocation.2))

/-- Two accepted calls of one tool with the same normalized arguments. -/
def ToolRegistry.Identical (registry : ToolRegistry Args) (allowed : Str → Prop)
    (first later : ToolCall) : Prop :=
  first.name = later.name ∧ ∃ definition x y,
    registry.Accepts allowed first.name first.rawArguments definition x ∧
      registry.Accepts allowed later.name later.rawArguments definition y ∧
      definition.normalized x = definition.normalized y

/-- The hash tells the serialized calls of a log apart. -/
def ToolLog.CollisionFree (registry : ToolRegistry Args) (allowed : Str → Prop)
    (log : ToolLog Args) : Prop :=
  ∀ first ∈ log.calls, ∀ later ∈ log.calls, ∀ d x d' x',
    registry.Accepts allowed first.name first.rawArguments d x →
    registry.Accepts allowed later.name later.rawArguments d' x' →
    registry.sha256 (callText first.name (d.dump x)) =
      registry.sha256 (callText later.name (d'.dump x')) →
    callText first.name (d.dump x) = callText later.name (d'.dump x')

/-- The log of a sequence of calls whose handlers ran at most once. -/
structure ToolLog.AtMostOnce (registry : ToolRegistry Args) (allowed : Str → Prop)
    (log : ToolLog Args) : Prop where
  /-- A handler ran for an allowed name, a registered tool and valid arguments only. -/
  accepted : ∀ invocation ∈ log.invocations, ∃ call ∈ log.calls, ∃ definition,
    call.name = invocation.1 ∧
      registry.Accepts allowed call.name call.rawArguments definition invocation.2
  /-- No tool ran twice with the same normalized arguments. -/
  once : (log.invocations.map registry.identity).Nodup
  /-- The first of several identical calls was answered by the handler. -/
  first : ∀ before call, before ++ [call] <+: log.calls →
    (∀ earlier ∈ before, ¬ registry.Identical allowed earlier call) → ∀ definition x,
    registry.Accepts allowed call.name call.rawArguments definition x →
    ∃ n, log.invocations[n]? = some (call.name, x) ∧
      call.result = (definition.handler x n).toResult call.name
  /-- Every later one was given that result, marked as cached. -/
  repeated : log.calls.Pairwise fun first later =>
    registry.Identical allowed first later → later.result = { first.result with cached := true }

/-! ## Fingerprints -/

section Fingerprints

variable {registry : ToolRegistry Args} {allowed : Str → Prop}

/-- Two serialized calls are equal if the names and the normalized arguments are. -/
theorem callText_inj {name name' : Str} {arguments arguments' : ArgumentObject} :
    callText name arguments = callText name' arguments' ↔
      name = name' ∧ Json.sorted (.object arguments) = Json.sorted (.object arguments') := by
  have horder : ¬ Str.ofString "name" ≤ Str.ofString "arguments" := by
    decide +kernel
  rw [callText, callText, Json.dumps_inj]
  simp [Json.sorted, Json.sortedFields, horder, and_comm]

/-- A fingerprint is the hash of the text of its call. -/
theorem fingerprint_ok {name : Str} {arguments : ArgumentObject} {f : Str}
    (h : registry.fingerprint name arguments = .ok f) :
    f = registry.sha256 (callText name arguments) := by
  unfold ToolRegistry.fingerprint ToolRegistry.hash at h
  split at h
  · cases h
    rfl
  · cases h

/-- A call is accepted in one way at most. -/
theorem ToolRegistry.Accepts.unique {name : Str} {raw : ArgumentObject}
    {d d' : ToolDefinition Args} {x x' : Args} (h : registry.Accepts allowed name raw d x)
    (h' : registry.Accepts allowed name raw d' x') : d = d' ∧ x = x' := by
  obtain rfl : d = d' := Option.some.inj (h.find_eq.symm.trans h'.find_eq)
  exact ⟨rfl, Option.some.inj (h.validate_eq.symm.trans h'.validate_eq)⟩

end Fingerprints

/-! ## Sequences of calls -/

/-- What the cache knows of the calls that were made. -/
structure CacheAgrees (registry : ToolRegistry Args) (allowed : Str → Prop) (cache : ToolCache)
    (log : ToolLog Args) : Prop where
  /-- Every accepted call is cached with its result. -/
  stored : ∀ call ∈ log.calls, ∀ d x,
    registry.Accepts allowed call.name call.rawArguments d x →
    ∃ result, cache.lookup (registry.sha256 (callText call.name (d.dump x))) = some result ∧
      { call.result with cached := true } = { result with cached := true }
  /-- Every entry of the cache belongs to an accepted call. -/
  origin : ∀ f result, cache.lookup f = some result → ∃ call ∈ log.calls, ∃ d x,
    registry.Accepts allowed call.name call.rawArguments d x ∧
      f = registry.sha256 (callText call.name (d.dump x))

section Sequences

variable {registry : ToolRegistry Args} {allowed : Str → Prop}

/-- A shorter log is as free of collisions. -/
theorem ToolLog.CollisionFree.of_subset {log log' : ToolLog Args} (hsub : log.calls ⊆ log'.calls)
    (h : log'.CollisionFree registry allowed) : log.CollisionFree registry allowed :=
  fun first hfirst later hlater => h first (hsub hfirst) later (hsub hlater)

/-- Identical calls are hashed alike. -/
theorem ToolRegistry.Identical.callText_eq {first later : ToolCall} {d : ToolDefinition Args}
    {x : Args} (h : registry.Identical allowed first later)
    (hlater : registry.Accepts allowed later.name later.rawArguments d x) :
    ∃ d' x', registry.Accepts allowed first.name first.rawArguments d' x' ∧
      callText first.name (d'.dump x') = callText later.name (d.dump x) := by
  obtain ⟨hname, definition, y, z, hfirst, hlater', hnormalized⟩ := h
  obtain ⟨rfl, rfl⟩ := hlater'.unique hlater
  exact ⟨definition, y, hfirst, callText_inj.mpr ⟨hname, hnormalized⟩⟩

/-- Accepted calls that are serialized alike are identical. -/
theorem ToolRegistry.Identical.of_callText {first later : ToolCall} {d d' : ToolDefinition Args}
    {x x' : Args} (hfirst : registry.Accepts allowed first.name first.rawArguments d x)
    (hlater : registry.Accepts allowed later.name later.rawArguments d' x')
    (h : callText first.name (d.dump x) = callText later.name (d'.dump x')) :
    registry.Identical allowed first later := by
  obtain ⟨hname, hnormalized⟩ := callText_inj.mp h
  have hfind := hfirst.find_eq
  rw [hname] at hfind
  obtain rfl : d = d' := Option.some.inj (hfind.symm.trans hlater.find_eq)
  exact ⟨hname, d, x, x', hfirst, hlater, hnormalized⟩

/-- Accepted calls whose invocations have the same identity are identical. -/
theorem ToolRegistry.Identical.of_identity {first later : ToolCall} {d d' : ToolDefinition Args}
    {x x' : Args} (hfirst : registry.Accepts allowed first.name first.rawArguments d x)
    (hlater : registry.Accepts allowed later.name later.rawArguments d' x')
    (h : registry.identity (first.name, x) = registry.identity (later.name, x')) :
    registry.Identical allowed first later := by
  obtain ⟨hname, hnormalized⟩ := Prod.mk.inj h
  dsimp only at hname hnormalized
  rw [hfirst.find_eq, hlater.find_eq] at hnormalized
  refine .of_callText hfirst hlater (callText_inj.mpr ⟨hname, Option.some.inj hnormalized⟩)

/-- One more call, with the invocations that it caused. -/
theorem ToolLog.AtMostOnce.extend {log log' : ToolLog Args} (h : log.AtMostOnce registry allowed)
    (call : ToolCall) (invoked : List (Str × Args))
    (hcalls : log'.calls = log.calls ++ [call])
    (hinvocations : log'.invocations = log.invocations ++ invoked)
    (haccepted : ∀ invocation ∈ invoked, ∃ definition, call.name = invocation.1 ∧
      registry.Accepts allowed call.name call.rawArguments definition invocation.2)
    (honce : (log'.invocations.map registry.identity).Nodup)
    (hfirst : (∀ earlier ∈ log.calls, ¬ registry.Identical allowed earlier call) →
      ∀ definition x, registry.Accepts allowed call.name call.rawArguments definition x →
      ∃ n, log'.invocations[n]? = some (call.name, x) ∧
        call.result = (definition.handler x n).toResult call.name)
    (hrepeated : ∀ earlier ∈ log.calls, registry.Identical allowed earlier call →
      call.result = { earlier.result with cached := true }) :
    log'.AtMostOnce registry allowed := by
  refine ⟨fun invocation hmem => ?_, honce, fun before c hprefix hnew definition x hc => ?_, ?_⟩
  · rw [hinvocations, List.mem_append] at hmem
    rw [hcalls]
    rcases hmem with hmem | hmem
    · obtain ⟨c, hc, hrest⟩ := h.accepted invocation hmem
      exact ⟨c, List.mem_append_left _ hc, hrest⟩
    · exact ⟨call, by simp, haccepted invocation hmem⟩
  · rw [hcalls, List.prefix_concat_iff] at hprefix
    rcases hprefix with heq | hprefix
    · obtain ⟨rfl, hcall⟩ := List.append_inj' heq rfl
      obtain rfl := List.singleton_inj.mp hcall
      exact hfirst hnew definition x hc
    · obtain ⟨n, hn, hresult⟩ := h.first before c hprefix hnew definition x hc
      refine ⟨n, ?_, hresult⟩
      rw [hinvocations, List.getElem?_append_left (List.getElem?_eq_some_iff.mp hn).1, hn]
  · rw [hcalls, List.pairwise_append]
    refine ⟨h.repeated, List.pairwise_singleton _ _, fun earlier hearlier later hlater => ?_⟩
    obtain rfl := List.mem_singleton.mp hlater
    exact hrepeated earlier hearlier

/-- One more call and the entry that it may add to the cache. -/
theorem CacheAgrees.extend {cache cache' : ToolCache} {log log' : ToolLog Args}
    (h : CacheAgrees registry allowed cache log) (call : ToolCall)
    (hcalls : log'.calls = log.calls ++ [call])
    (hkept : ∀ f result, cache.lookup f = some result → cache'.lookup f = some result)
    (hstored : ∀ d x, registry.Accepts allowed call.name call.rawArguments d x →
      ∃ result, cache'.lookup (registry.sha256 (callText call.name (d.dump x))) = some result ∧
        { call.result with cached := true } = { result with cached := true })
    (horigin : ∀ f result, cache'.lookup f = some result → cache.lookup f = some result ∨
      ∃ d x, registry.Accepts allowed call.name call.rawArguments d x ∧
        f = registry.sha256 (callText call.name (d.dump x))) :
    CacheAgrees registry allowed cache' log' := by
  refine ⟨fun c hc d x haccepted => ?_, fun f result hlookup => ?_⟩
  · rw [hcalls, List.mem_append, List.mem_singleton] at hc
    rcases hc with hc | rfl
    · obtain ⟨result, hlookup, heq⟩ := h.stored c hc d x haccepted
      exact ⟨result, hkept _ _ hlookup, heq⟩
    · exact hstored d x haccepted
  · rw [hcalls]
    rcases horigin f result hlookup with hlookup | hnew
    · obtain ⟨c, hc, hrest⟩ := h.origin f result hlookup
      exact ⟨c, List.mem_append_left _ hc, hrest⟩
    · exact ⟨call, by simp, hnew⟩

section Answers

variable {name : Str} {raw : ArgumentObject} {cache : ToolCache} {log : ToolLog Args}

/-- A refused call is identical to no earlier one. -/
theorem ToolLog.AtMostOnce.refused (h : log.AtMostOnce registry allowed)
    (result : ToolExecutionResult)
    (hrefused : ∀ definition x, ¬ registry.Accepts allowed name raw definition x) :
    (log.answered name raw result).AtMostOnce registry allowed := by
  refine h.extend ⟨name, raw, result⟩ [] rfl (List.append_nil _).symm (by simp) h.once
    (fun _ definition x hc => absurd hc (hrefused definition x)) ?_
  rintro earlier - ⟨-, definition, x, y, -, hc, -⟩
  exact absurd hc (hrefused definition y)

/-- A call that is answered from the cache is identical to an earlier one. -/
theorem ToolLog.AtMostOnce.cached (h : log.AtMostOnce registry allowed)
    (hcache : CacheAgrees registry allowed cache log) {definition : ToolDefinition Args}
    {arguments : Args} {result : ToolExecutionResult}
    (haccepted : registry.Accepts allowed name raw definition arguments)
    (hlookup : cache.lookup (registry.sha256 (callText name (definition.dump arguments))) =
      some result)
    (hcollision : (log.answered name raw { result with cached := true }).CollisionFree registry
      allowed) :
    (log.answered name raw { result with cached := true }).AtMostOnce registry allowed := by
  refine h.extend ⟨name, raw, { result with cached := true }⟩ [] rfl (List.append_nil _).symm
    (by simp) h.once (fun hnew => ?_) fun earlier hearlier hidentical => ?_
  · obtain ⟨first, hfirst, d, x, hx, hhash⟩ := hcache.origin _ _ hlookup
    have htext := hcollision first (List.mem_append_left _ hfirst)
      ⟨name, raw, { result with cached := true }⟩
      (List.mem_append_right _ (List.mem_singleton_self _)) d x definition arguments hx
      haccepted hhash.symm
    exact absurd (.of_callText hx haccepted htext) (hnew first hfirst)
  · obtain ⟨d, x, hx, htext⟩ := hidentical.callText_eq haccepted
    obtain ⟨stored, hstored, heq⟩ := hcache.stored earlier hearlier d x hx
    rw [htext, hlookup] at hstored
    cases hstored
    exact heq.symm

/-- A call that the cache does not know is identical to no earlier one. -/
theorem CacheAgrees.not_identical (hcache : CacheAgrees registry allowed cache log)
    {definition : ToolDefinition Args} {arguments : Args}
    (haccepted : registry.Accepts allowed name raw definition arguments)
    (hlookup : cache.lookup (registry.sha256 (callText name (definition.dump arguments))) = none)
    (result : ToolExecutionResult) :
    ∀ earlier ∈ log.calls, ¬ registry.Identical allowed earlier ⟨name, raw, result⟩ := by
  intro earlier hearlier hidentical
  obtain ⟨d, x, hx, htext⟩ := hidentical.callText_eq haccepted
  obtain ⟨stored, hstored, -⟩ := hcache.stored earlier hearlier d x hx
  rw [htext, hlookup] at hstored
  cases hstored

/-- A new call runs the handler for the first time. -/
theorem ToolLog.AtMostOnce.invoked (h : log.AtMostOnce registry allowed)
    {definition : ToolDefinition Args} {arguments : Args} {result : ToolExecutionResult}
    (haccepted : registry.Accepts allowed name raw definition arguments)
    (hnew : ∀ earlier ∈ log.calls, ¬ registry.Identical allowed earlier ⟨name, raw, result⟩)
    (hresult : result = (definition.handler arguments log.invocations.length).toResult name) :
    ((log.invoked name arguments).answered name raw result).AtMostOnce registry allowed := by
  refine h.extend ⟨name, raw, result⟩ [(name, arguments)] rfl rfl ?_ ?_ (fun _ d x hx => ?_)
    fun earlier hearlier hidentical => absurd hidentical (hnew earlier hearlier)
  · rintro invocation hmem
    obtain rfl := List.mem_singleton.mp hmem
    exact ⟨definition, rfl, haccepted⟩
  · change ((log.invocations ++ [(name, arguments)]).map registry.identity).Nodup
    rw [List.map_append, List.nodup_append]
    refine ⟨h.once, List.nodup_singleton _, fun identity hmem other hother => ?_⟩
    obtain rfl := List.mem_singleton.mp hother
    obtain ⟨invocation, hinvocation, rfl⟩ := List.mem_map.mp hmem
    intro heq
    obtain ⟨earlier, hearlier, d, hname, hx⟩ := h.accepted invocation hinvocation
    rw [show invocation = (earlier.name, invocation.2) by rw [hname]] at heq
    exact hnew earlier hearlier (.of_identity hx haccepted heq)
  · obtain ⟨rfl, rfl⟩ := haccepted.unique hx
    refine ⟨log.invocations.length, ?_, hresult⟩
    simp [ToolLog.answered, ToolLog.invoked]

/-- The result of a new call is stored under its own fingerprint. -/
theorem CacheAgrees.invoked (hcache : CacheAgrees registry allowed cache log)
    {definition : ToolDefinition Args} {arguments : Args} {result : ToolExecutionResult}
    (haccepted : registry.Accepts allowed name raw definition arguments)
    (hlookup : cache.lookup (registry.sha256 (callText name (definition.dump arguments))) = none) :
    CacheAgrees registry allowed
      ((registry.sha256 (callText name (definition.dump arguments)), result) :: cache)
      ((log.invoked name arguments).answered name raw result) := by
  refine hcache.extend ⟨name, raw, result⟩ rfl (fun f stored hstored => ?_) (fun d x hx => ?_)
    fun f stored hstored => ?_
  · rw [List.lookup_cons]
    split
    · rename_i heq
      rw [eq_of_beq heq, hlookup] at hstored
      cases hstored
    · exact hstored
  · obtain ⟨rfl, rfl⟩ := haccepted.unique hx
    exact ⟨result, by simp, rfl⟩
  · rw [List.lookup_cons] at hstored
    split at hstored
    · rename_i heq
      exact .inr ⟨definition, arguments, haccepted, eq_of_beq heq⟩
    · exact .inl hstored

/-- What holds of the log and the cache after some calls holds after one more. -/
theorem Answered.atMostOnce {log' : ToolLog Args} {answer : ToolAnswer}
    (hanswer : Answered registry allowed name raw cache log answer log')
    (hcollision : log'.CollisionFree registry allowed) (h : log.AtMostOnce registry allowed)
    (hcache : CacheAgrees registry allowed cache log) :
    log'.AtMostOnce registry allowed ∧ CacheAgrees registry allowed answer.cache log' := by
  cases hanswer with
  | @refused fingerprint summary errorCode hrefused _ =>
    refine ⟨h.refused _ hrefused, hcache.extend ⟨name, raw, .failure name summary errorCode⟩ rfl
      (fun _ _ hlookup => hlookup) (fun definition x hc => absurd hc (hrefused definition x))
      fun _ _ => .inl⟩
  | @cached definition arguments fingerprint result haccepted hfingerprint hlookup =>
    rw [fingerprint_ok hfingerprint] at hlookup
    refine ⟨h.cached hcache haccepted hlookup hcollision,
      hcache.extend ⟨name, raw, { result with cached := true }⟩ rfl
        (fun _ _ hlookup => hlookup) (fun d x hx => ?_) fun _ _ => .inl⟩
    obtain ⟨rfl, rfl⟩ := haccepted.unique hx
    exact ⟨result, hlookup, rfl⟩
  | @invoked definition arguments fingerprint result haccepted hfingerprint hlookup hresult =>
    rw [fingerprint_ok hfingerprint] at hlookup ⊢
    exact ⟨h.invoked haccepted (hcache.not_identical haccepted hlookup result) hresult,
      hcache.invoked haccepted hlookup⟩

end Answers

/-- A call only adds to the log. -/
theorem Answered.calls_subset {name : Str} {raw : ArgumentObject} {cache : ToolCache}
    {log log' : ToolLog Args} {answer : ToolAnswer}
    (hanswer : Answered registry allowed name raw cache log answer log') :
    log.calls ⊆ log'.calls := by
  cases hanswer <;> exact List.subset_append_left _ _

/-- A call is logged with its result. -/
theorem Answered.calls_eq {name : Str} {raw : ArgumentObject} {cache : ToolCache}
    {log log' : ToolLog Args} {answer : ToolAnswer}
    (hanswer : Answered registry allowed name raw cache log answer log') :
    log'.calls = log.calls ++ [⟨name, raw, answer.result⟩] := by
  cases hanswer <;> rfl

/-- What every sequence of calls from an empty cache leaves. -/
theorem CallRun.atMostOnce {final : ToolCache × ToolLog Args}
    (hrun : CallRun registry allowed ([], {}) final)
    (hcollision : final.2.CollisionFree registry allowed) :
    final.2.AtMostOnce registry allowed := by
  suffices h : final.2.AtMostOnce registry allowed ∧ CacheAgrees registry allowed final.1 final.2
    from h.1
  induction hrun with
  | refl =>
    refine ⟨⟨by simp, by simp, fun before call hprefix => ?_, by simp⟩, by simp, by simp⟩
    simp at hprefix
  | tail _ hstep ih =>
    obtain ⟨name, raw, answer, hanswer, hfinal⟩ := hstep
    obtain ⟨honce, hagrees⟩ := ih (hcollision.of_subset hanswer.calls_subset)
    rw [hfinal]
    exact hanswer.atMostOnce hcollision honce hagrees

end Sequences

end AssessmentPlatform
