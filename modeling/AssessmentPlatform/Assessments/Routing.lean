import AssessmentPlatform.Assessments.Service
import AssessmentPlatform.KnowledgeGraph.ColumnWidths

/-!
# Routing by workload

`ExecutionRouter.route` counts the concerns that the texts of a request name and looks for a signal
of coordination. It matches its keywords, some of them of several words, on one text that joins all
fields, so a keyword may be found across the boundary of two fields. Apart from such matches the
decision does not depend on the order of the pain points and constraints, and one more of them never
leads to a cheaper mode.
-/

namespace AssessmentPlatform

open Library

/-! ## The source -/

/-- `_CONCERN_KEYWORDS`. -/
def concernKeywords : List (Str × List Str) :=
  [("data", ["data", "record", "records", "document", "documents", "information quality"]),
   ("integration", ["integration", "integrations", "integrate", "api", "apis", "system", "systems",
     "handoff", "handoffs"]),
   ("security_privacy", ["security", "privacy", "confidential", "sensitive", "access control",
     "permission"]),
   ("governance_risk", ["risk", "compliance", "audit", "policy", "regulatory", "approval",
     "oversight"]),
   ("operations", ["operations", "reliability", "monitoring", "latency", "scalability",
     "deployment"]),
   ("people_change", ["team", "department", "stakeholder", "training", "change management",
     "customer", "employee"])]

/-- `_COORDINATION_KEYWORDS`. -/
def coordinationKeywords : List Str :=
  ["cross-functional", "cross functional", "multiple teams", "multiple departments", "across teams",
   "across departments", "across systems", "end-to-end", "end to end", "multiple stakeholders",
   "parallel workstreams"]

/-- Choose an execution path from bounded workload-complexity signals. The Unicode functions and the
class of word characters are those of the standard library. -/
structure ExecutionRouter where
  unicode : Unicode
  word : CodePoint → Bool
  forcedMode : Option ExecutionMode := none

/-- What `route` reads off a request. -/
structure WorkloadSignals where
  concernCount : ℕ
  hasCoordinationSignal : Bool
  painPoints : ℕ
  constraints : ℕ
  richProcessContext : Bool

/-- The values that `_workload_text` joins. -/
def AssessmentRequest.workloadValues (request : AssessmentRequest) : List Str :=
  [request.businessProblem, request.desiredOutcome, request.currentProcess.getD []] ++
    request.painPoints ++ request.constraints ++ [request.additionalContext.getD []]

namespace ExecutionRouter

variable (router : ExecutionRouter)

/-- `_workload_text`. -/
def workloadText (request : AssessmentRequest) : Str :=
  router.unicode.casefold (Str.join [CodePoint.blank] request.workloadValues)

/-- `_contains_term`. -/
def containsTerm (text term : Str) : Bool := searchWhole router.word term none text

/-- The signals of `route`. -/
def signals (request : AssessmentRequest) : WorkloadSignals :=
  let text := router.workloadText request
  { concernCount :=
      (concernKeywords.filter fun concern => concern.2.any (router.containsTerm text)).length
    hasCoordinationSignal := coordinationKeywords.any (router.containsTerm text)
    painPoints := request.painPoints.length
    constraints := request.constraints.length
    richProcessContext :=
      request.currentProcess.getD [] ≠ [] ∧ request.additionalContext.getD [] ≠ [] }

end ExecutionRouter

namespace WorkloadSignals

variable (signals : WorkloadSignals)

/-- The reasons that `route` collects before it selects a mode. -/
def reasons : List RoutingReasonCode :=
  (if 2 ≤ signals.painPoints then [.multiplePainPoints] else []) ++
  (if 2 ≤ signals.constraints then [.multipleConstraints] else []) ++
  (if 2 ≤ signals.concernCount then [.multipleWorkloadConcerns] else []) ++
  (if signals.richProcessContext = true then [.richProcessContext] else [])

/-- `specialist_separation_is_useful`. -/
def SpecialistSeparationIsUseful : Prop :=
  3 ≤ signals.concernCount ∧
    (signals.hasCoordinationSignal = true ∨ 3 ≤ signals.painPoints ∨ 3 ≤ signals.constraints)

instance : Decidable signals.SpecialistSeparationIsUseful := inferInstanceAs (Decidable (_ ∧ _))

/-- There are at most four reasons. -/
theorem reasons_length_le : signals.reasons.length ≤ 4 := by
  unfold reasons
  rw [List.length_append, List.length_append, List.length_append]
  split_ifs <;> simp

/-- The selection of `route` without a forced mode. -/
def select : ExecutionRoutingDecision :=
  if signals.SpecialistSeparationIsUseful then
    { preferredExecutionMode := .multiAgent
      reasonCodes := signals.reasons ++
        (if signals.hasCoordinationSignal = true then [.crossFunctionalCoordination] else []) ++
        [.specialistSeparationBeneficial]
      reasonCodes_bounds := by
        have hle := signals.reasons_length_le
        rw [List.length_append, List.length_append]
        split <;> simp only [List.length_cons, List.length_nil] <;> omega }
  else if signals.reasons ≠ [] then
    { preferredExecutionMode := .singleAgent
      reasonCodes := signals.reasons ++ [.singleReasoningContextSufficient]
      reasonCodes_bounds := by
        have hle := signals.reasons_length_le
        rw [List.length_append, List.length_singleton]
        omega }
  else
    { preferredExecutionMode := .deterministic
      reasonCodes := [.boundedScope, .lowCoordinationComplexity]
      reasonCodes_bounds := by decide }

end WorkloadSignals

/-- `ExecutionRouter.route`. -/
def ExecutionRouter.route (router : ExecutionRouter) (request : AssessmentRequest) :
    ExecutionRoutingDecision :=
  match router.forcedMode with
  | some mode => ⟨mode, [.environmentOverride], by decide⟩
  | none => (router.signals request).select

/-! ## Cheaper modes -/

/-- The cost of a mode. -/
def ExecutionMode.cost : ExecutionMode → ℕ
  | .deterministic => 0
  | .singleAgent => 1
  | .multiAgent => 2

/-- More signals. -/
structure WorkloadSignals.Le (s t : WorkloadSignals) : Prop where
  concernCount : s.concernCount ≤ t.concernCount
  coordination : s.hasCoordinationSignal = true → t.hasCoordinationSignal = true
  painPoints : s.painPoints ≤ t.painPoints
  constraints : s.constraints ≤ t.constraints
  richProcessContext : s.richProcessContext = t.richProcessContext

section Order

variable {s t : WorkloadSignals} (h : s.Le t)

include h

/-- Where the separation is useful for the smaller signals, it is for the larger ones. -/
theorem WorkloadSignals.Le.useful (hs : s.SpecialistSeparationIsUseful) :
    t.SpecialistSeparationIsUseful := by
  obtain ⟨hcount, hother⟩ := hs
  refine ⟨hcount.trans h.concernCount, ?_⟩
  rcases hother with hcoordination | hpain | hconstraints
  · exact .inl (h.coordination hcoordination)
  · exact .inr (.inl (hpain.trans h.painPoints))
  · exact .inr (.inr (hconstraints.trans h.constraints))

/-- Where the smaller signals give a reason, the larger ones do. -/
theorem WorkloadSignals.Le.reasons_ne_nil (hs : s.reasons ≠ []) : t.reasons ≠ [] := by
  have hreasons : ∀ u : WorkloadSignals, u.reasons ≠ [] ↔
      2 ≤ u.painPoints ∨ 2 ≤ u.constraints ∨ 2 ≤ u.concernCount ∨ u.richProcessContext = true := by
    intro u
    unfold WorkloadSignals.reasons
    split_ifs <;> simp_all
  rw [hreasons] at hs ⊢
  rcases hs with hpain | hconstraints | hconcern | hrich
  · exact .inl (hpain.trans h.painPoints)
  · exact .inr (.inl (hconstraints.trans h.constraints))
  · exact .inr (.inr (.inl (hconcern.trans h.concernCount)))
  · exact .inr (.inr (.inr (h.richProcessContext ▸ hrich)))

/-- More signals never lead to a cheaper mode. -/
theorem WorkloadSignals.Le.cost_le :
    s.select.preferredExecutionMode.cost ≤ t.select.preferredExecutionMode.cost := by
  unfold WorkloadSignals.select
  by_cases huseful : s.SpecialistSeparationIsUseful
  · rw [if_pos huseful, if_pos (h.useful huseful)]
  · rw [if_neg huseful]
    by_cases hreasons : s.reasons ≠ []
    · rw [if_pos hreasons, if_pos (h.reasons_ne_nil hreasons)]
      split_ifs <;> simp [ExecutionMode.cost]
    · rw [if_neg hreasons]
      exact Nat.zero_le _

/-- The order of the signals is antisymmetric. -/
theorem WorkloadSignals.Le.antisymm (h' : t.Le s) : s = t := by
  obtain ⟨count, coordination, pain, constraints, rich⟩ := s
  obtain ⟨count', coordination', pain', constraints', rich'⟩ := t
  obtain rfl : count = count' := le_antisymm h.concernCount h'.concernCount
  obtain rfl : coordination = coordination' :=
    Bool.eq_iff_iff.mpr ⟨h.coordination, h'.coordination⟩
  obtain rfl : pain = pain' := le_antisymm h.painPoints h'.painPoints
  obtain rfl : constraints = constraints' := le_antisymm h.constraints h'.constraints
  obtain rfl : rich = rich' := h.richProcessContext
  rfl

end Order

/-! ## Keywords -/

/-- All keywords. -/
def routingKeywords : List Str := concernKeywords.flatMap Prod.snd ++ coordinationKeywords

/-- The keywords are those of the concerns and of the coordination. -/
theorem mem_routingKeywords {keyword : Str} :
    keyword ∈ routingKeywords ↔
      (∃ concern ∈ concernKeywords, keyword ∈ concern.2) ∨ keyword ∈ coordinationKeywords := by
  rw [routingKeywords, List.mem_append, List.mem_flatMap]

namespace ExecutionRouter

variable {router : ExecutionRouter}

/-- The signals of two texts of which the second has the keywords of the first. -/
theorem signals_le {request request' : AssessmentRequest}
    (hkeywords : ∀ keyword ∈ routingKeywords,
      router.containsTerm (router.workloadText request) keyword = true →
        router.containsTerm (router.workloadText request') keyword = true)
    (hpain : request.painPoints.length ≤ request'.painPoints.length)
    (hconstraints : request.constraints.length ≤ request'.constraints.length)
    (hprocess : request.currentProcess = request'.currentProcess)
    (hcontext : request.additionalContext = request'.additionalContext) :
    (router.signals request).Le (router.signals request') where
  concernCount := by
    unfold signals
    dsimp only
    rw [← List.countP_eq_length_filter, ← List.countP_eq_length_filter]
    refine List.countP_mono_left fun concern hconcern h => ?_
    obtain ⟨keyword, hmem, hcontains⟩ := List.any_eq_true.mp h
    exact List.any_eq_true.mpr ⟨keyword, hmem, hkeywords keyword
      (mem_routingKeywords.mpr (.inl ⟨concern, hconcern, hmem⟩)) hcontains⟩
  coordination := by
    intro h
    obtain ⟨keyword, hmem, hcontains⟩ := List.any_eq_true.mp h
    exact List.any_eq_true.mpr ⟨keyword, hmem,
      hkeywords keyword (mem_routingKeywords.mpr (.inr hmem)) hcontains⟩
  painPoints := hpain
  constraints := hconstraints
  richProcessContext := by
    simp only [signals, hprocess, hcontext]

end ExecutionRouter

/-! ## Joined values -/

section Values

variable {router : ExecutionRouter} (folding : router.unicode.FoldingLaws)

include folding

/-- Case folding works letter by letter. -/
theorem casefold_append (a b : Str) :
    router.unicode.casefold (a ++ b) = router.unicode.casefold a ++ router.unicode.casefold b := by
  rw [folding.casefold_eq, List.flatMap_append, ← folding.casefold_eq, ← folding.casefold_eq]

/-- Case folding goes through joined values. -/
theorem casefold_join (values : List Str) :
    router.unicode.casefold (Str.join [CodePoint.blank] values) =
      Str.join [CodePoint.blank] (values.map router.unicode.casefold) := by
  unfold Str.join
  induction values with
  | nil => exact folding.casefold_eq []
  | cons value rest ih =>
    by_cases hrest : rest = []
    · subst hrest
      rw [List.map_singleton, List.intercalate_singleton, List.intercalate_singleton]
    · rw [List.intercalate_cons_of_ne_nil hrest, casefold_append folding, casefold_append folding,
        ih, folding.casefold_blank, List.map_cons,
        List.intercalate_cons_of_ne_nil (mt List.map_eq_nil_iff.mp hrest)]

variable (hword : router.word CodePoint.blank = false)

include hword

/-- A keyword of one of the values is one of the joined text. -/
theorem containsTerm_join {values : List Str} {value keyword : Str} (hmem : value ∈ values)
    (h : router.containsTerm (router.unicode.casefold value) keyword = true) :
    router.containsTerm (router.unicode.casefold (Str.join [CodePoint.blank] values)) keyword =
      true := by
  rw [casefold_join folding]
  exact searchWhole_none_iff.mpr ((searchWhole_none_iff.mp h).intercalate hword
    (List.mem_map_of_mem hmem))

end Values

/-! ## Rearranged and extended requests -/

/-- The parts into which the pain points and the constraints divide the workload text: the values in
front of them, each of them, and the value behind them. -/
def AssessmentRequest.workloadParts (request : AssessmentRequest) : List Str :=
  [Str.join [CodePoint.blank]
    [request.businessProblem, request.desiredOutcome, request.currentProcess.getD []]] ++
    request.painPoints ++ request.constraints ++ [request.additionalContext.getD []]

/-- The text of the parts is the workload text. -/
theorem AssessmentRequest.join_workloadValues (request : AssessmentRequest) :
    Str.join [CodePoint.blank] request.workloadValues =
      Str.join [CodePoint.blank] request.workloadParts := by
  have hne : request.painPoints ++ (request.constraints ++ [request.additionalContext.getD []]) ≠
      [] := by simp
  unfold AssessmentRequest.workloadValues AssessmentRequest.workloadParts Str.join
  rw [List.append_assoc, List.append_assoc, List.append_assoc, List.append_assoc,
    intercalate_append _ (List.cons_ne_nil _ _) hne,
    intercalate_append _ (List.cons_ne_nil _ _) hne, List.intercalate_singleton]

/-- Requests whose workload differs only in the order of the pain points and of the constraints. -/
structure AssessmentRequest.Rearranged (request request' : AssessmentRequest) : Prop where
  businessProblem : request.businessProblem = request'.businessProblem
  desiredOutcome : request.desiredOutcome = request'.desiredOutcome
  currentProcess : request.currentProcess = request'.currentProcess
  additionalContext : request.additionalContext = request'.additionalContext
  painPoints : request.painPoints.Perm request'.painPoints
  constraints : request.constraints.Perm request'.constraints

/-- A rearrangement is undone by a rearrangement. -/
theorem AssessmentRequest.Rearranged.symm {request request' : AssessmentRequest}
    (h : request.Rearranged request') : request'.Rearranged request where
  businessProblem := h.businessProblem.symm
  desiredOutcome := h.desiredOutcome.symm
  currentProcess := h.currentProcess.symm
  additionalContext := h.additionalContext.symm
  painPoints := h.painPoints.symm
  constraints := h.constraints.symm

/-- The second request has one pain point more, or one constraint more, behind the others; with the
values in front of it and behind it. -/
inductive AssessmentRequest.Appends (request request' : AssessmentRequest) :
    List Str → List Str → Prop
  | painPoint (painPoint : Str)
      (businessProblem : request.businessProblem = request'.businessProblem)
      (desiredOutcome : request.desiredOutcome = request'.desiredOutcome)
      (currentProcess : request.currentProcess = request'.currentProcess)
      (additionalContext : request.additionalContext = request'.additionalContext)
      (painPoints : request'.painPoints = request.painPoints ++ [painPoint])
      (constraints : request.constraints = request'.constraints) :
      Appends request request'
        ([request.businessProblem, request.desiredOutcome, request.currentProcess.getD []] ++
          request.painPoints)
        (request.constraints ++ [request.additionalContext.getD []])
  | constraint (constraint : Str)
      (businessProblem : request.businessProblem = request'.businessProblem)
      (desiredOutcome : request.desiredOutcome = request'.desiredOutcome)
      (currentProcess : request.currentProcess = request'.currentProcess)
      (additionalContext : request.additionalContext = request'.additionalContext)
      (painPoints : request.painPoints = request'.painPoints)
      (constraints : request'.constraints = request.constraints ++ [constraint]) :
      Appends request request'
        ([request.businessProblem, request.desiredOutcome, request.currentProcess.getD []] ++
          request.painPoints ++ request.constraints)
        [request.additionalContext.getD []]

namespace ExecutionRouter

variable (router : ExecutionRouter)

/-- Every keyword of the joined text is one of one of the parts. -/
def Unbroken (request : AssessmentRequest) : Prop :=
  ∀ keyword ∈ routingKeywords, router.containsTerm (router.workloadText request) keyword = true →
    ∃ part ∈ request.workloadParts,
      router.containsTerm (router.unicode.casefold part) keyword = true

/-- Every keyword of the joined text is one of the text in front of a place, or of that behind
it. -/
def UnbrokenAt (request : AssessmentRequest) (before after : List Str) : Prop :=
  ∀ keyword ∈ routingKeywords, router.containsTerm (router.workloadText request) keyword = true →
    router.containsTerm (router.unicode.casefold (Str.join [CodePoint.blank] before)) keyword =
        true ∨
      router.containsTerm (router.unicode.casefold (Str.join [CodePoint.blank] after)) keyword =
        true

/-- A rearranged request has the keywords of its parts. -/
theorem containsTerm_rearranged (folding : router.unicode.FoldingLaws)
    (hword : router.word CodePoint.blank = false) {request request' : AssessmentRequest}
    (hrequests : request.Rearranged request') (hunbroken : router.Unbroken request) :
    ∀ keyword ∈ routingKeywords,
      router.containsTerm (router.workloadText request) keyword = true →
        router.containsTerm (router.workloadText request') keyword = true := by
  intro keyword hkeyword hcontains
  obtain ⟨part, hpart, hfound⟩ := hunbroken keyword hkeyword hcontains
  have hparts : part ∈ request'.workloadParts := by
    unfold AssessmentRequest.workloadParts at hpart ⊢
    rw [← hrequests.businessProblem, ← hrequests.desiredOutcome, ← hrequests.currentProcess,
      ← hrequests.additionalContext]
    refine List.Perm.subset ?_ hpart
    exact ((hrequests.painPoints.append_left _).append hrequests.constraints).append_right _
  rw [workloadText, AssessmentRequest.join_workloadValues]
  exact containsTerm_join folding hword hparts hfound

/-- A request with one more value at some place has the keywords on both sides of it. -/
theorem containsTerm_inserted (folding : router.unicode.FoldingLaws)
    (hword : router.word CodePoint.blank = false) {request request' : AssessmentRequest}
    {before after : List Str} {value : Str} (hbefore : before ≠ []) (hafter : after ≠ [])
    (hvalues : request'.workloadValues = before ++ value :: after)
    (hunbroken : router.UnbrokenAt request before after) :
    ∀ keyword ∈ routingKeywords,
      router.containsTerm (router.workloadText request) keyword = true →
        router.containsTerm (router.workloadText request') keyword = true := by
  intro keyword hkeyword hcontains
  have htext : Str.join [CodePoint.blank] request'.workloadValues =
      Str.join [CodePoint.blank] [Str.join [CodePoint.blank] before, value,
        Str.join [CodePoint.blank] after] := by
    rw [hvalues]
    unfold Str.join
    rw [intercalate_append _ hbefore (List.cons_ne_nil _ _),
      List.intercalate_cons_of_ne_nil hafter, List.intercalate_cons_cons,
      List.intercalate_cons_cons, List.intercalate_singleton]
  rw [workloadText, htext]
  rcases hunbroken keyword hkeyword hcontains with hfound | hfound
  · exact containsTerm_join folding hword (by simp) hfound
  · exact containsTerm_join folding hword (by simp) hfound

/-- Requests that differ in the order of their pain points and constraints lead to the same
decision, and a request with one more pain point or constraint does not lead to a cheaper mode,
unless a keyword is broken by the order or by the place of the new value. -/
theorem routing_stable (router : ExecutionRouter) (folding : router.unicode.FoldingLaws)
    (hword : router.word CodePoint.blank = false) :
    (∀ request request' : AssessmentRequest, request.Rearranged request' →
      router.Unbroken request → router.Unbroken request' →
        router.route request = router.route request') ∧
    ∀ (request request' : AssessmentRequest) (before after : List Str),
      request.Appends request' before after → router.UnbrokenAt request before after →
        (router.route request).preferredExecutionMode.cost ≤
          (router.route request').preferredExecutionMode.cost := by
  constructor
  · intro request request' hrequests hunbroken hunbroken'
    unfold route
    cases router.forcedMode with
    | some mode => rfl
    | none =>
      have hle := signals_le (containsTerm_rearranged router folding hword hrequests hunbroken)
        hrequests.painPoints.length_eq.le hrequests.constraints.length_eq.le
        hrequests.currentProcess hrequests.additionalContext
      have hge := signals_le
        (containsTerm_rearranged router folding hword hrequests.symm hunbroken')
        hrequests.painPoints.length_eq.ge hrequests.constraints.length_eq.ge
        hrequests.currentProcess.symm hrequests.additionalContext.symm
      exact congrArg WorkloadSignals.select (hle.antisymm hge)
  · intro request request' before after happends hunbroken
    unfold route
    cases router.forcedMode with
    | some mode => exact le_rfl
    | none =>
      refine WorkloadSignals.Le.cost_le ?_
      cases happends with
      | painPoint value hproblem houtcome hprocess hcontext hpain hconstraints =>
        have hvalues : request'.workloadValues =
            [request.businessProblem, request.desiredOutcome, request.currentProcess.getD []] ++
              request.painPoints ++
              value :: (request.constraints ++ [request.additionalContext.getD []]) := by
          unfold AssessmentRequest.workloadValues
          rw [hpain, ← hproblem, ← houtcome, ← hprocess, ← hcontext, ← hconstraints]
          simp
        exact signals_le
          (containsTerm_inserted router folding hword (by simp) (by simp) hvalues hunbroken)
          (by simp [hpain]) (by rw [hconstraints]) hprocess hcontext
      | constraint value hproblem houtcome hprocess hcontext hpain hconstraints =>
        have hvalues : request'.workloadValues =
            [request.businessProblem, request.desiredOutcome, request.currentProcess.getD []] ++
              request.painPoints ++ request.constraints ++
              value :: [request.additionalContext.getD []] := by
          unfold AssessmentRequest.workloadValues
          rw [hconstraints, ← hproblem, ← houtcome, ← hprocess, ← hcontext, ← hpain]
          simp
        exact signals_le
          (containsTerm_inserted router folding hword (by simp) (by simp) hvalues hunbroken)
          (by rw [hpain]) (by simp [hconstraints]) hprocess hcontext

end ExecutionRouter

/-! ## Requests of three concerns -/

/-- The word characters of ASCII. -/
def asciiWord (c : CodePoint) : Bool :=
  (48 ≤ c.val && c.val ≤ 57) || (65 ≤ c.val && c.val ≤ 90) || c.val == 95 ||
    (97 ≤ c.val && c.val ≤ 122)

/-- A router for texts of ASCII. -/
def ExecutionRouter.ascii : ExecutionRouter where
  unicode := .sharp
  word := asciiWord

/-- A request of three concerns. -/
def AssessmentRequest.concerned (painPoints constraints : List Str)
    (hpainPoints : painPoints.length ≤ 20 ∧ ∀ s ∈ painPoints, Str.ValidWithin 500 s)
    (hconstraints : constraints.length ≤ 20 ∧ ∀ s ∈ constraints, Str.ValidWithin 500 s) :
    AssessmentRequest :=
  { AssessmentRequest.minimal with
    businessProblem := "Data security and risk"
    painPoints
    constraints
    businessProblem_accepted := by decide +kernel
    painPoints_accepted := hpainPoints
    constraints_accepted := hconstraints }

section Concerned

variable {painPoints painPoints' constraints : List Str}
  {hpainPoints : painPoints.length ≤ 20 ∧ ∀ s ∈ painPoints, Str.ValidWithin 500 s}
  {hpainPoints' : painPoints'.length ≤ 20 ∧ ∀ s ∈ painPoints', Str.ValidWithin 500 s}
  {hconstraints : constraints.length ≤ 20 ∧ ∀ s ∈ constraints, Str.ValidWithin 500 s}

/-- Pain points in another order rearrange the request. -/
theorem AssessmentRequest.concerned_rearranged (h : painPoints.Perm painPoints') :
    (concerned painPoints constraints hpainPoints hconstraints).Rearranged
      (concerned painPoints' constraints hpainPoints' hconstraints) :=
  ⟨rfl, rfl, rfl, rfl, h, .refl _⟩

/-- One more pain point appends to the request. -/
theorem AssessmentRequest.concerned_appends {painPoint : Str}
    (h : painPoints' = painPoints ++ [painPoint]) :
    (concerned painPoints constraints hpainPoints hconstraints).Appends
      (concerned painPoints' constraints hpainPoints' hconstraints)
      ([Str.ofString "Data security and risk", AssessmentRequest.minimal.desiredOutcome,
        AssessmentRequest.minimal.currentProcess.getD []] ++ painPoints)
      (constraints ++ [AssessmentRequest.minimal.additionalContext.getD []]) :=
  .painPoint painPoint rfl rfl rfl rfl h rfl

end Concerned

/-- A signal of coordination within one pain point is found in every order, and with another pain
point behind it. -/
theorem routing_stable_ascii :
    let signal := Str.ofString "Multiple stakeholders disagree"
    let other := Str.ofString "Slow replies"
    ExecutionRouter.ascii.route (.concerned [signal, other] [] (by decide +kernel) (by decide)) =
        ExecutionRouter.ascii.route
          (.concerned [other, signal] [] (by decide +kernel) (by decide)) ∧
      (ExecutionRouter.ascii.route (.concerned [signal] [] (by decide +kernel)
        (by decide))).preferredExecutionMode.cost ≤
          (ExecutionRouter.ascii.route (.concerned [signal, other] [] (by decide +kernel)
            (by decide))).preferredExecutionMode.cost := by
  have hstable := ExecutionRouter.routing_stable .ascii Unicode.sharp_foldingLaws
    (by decide : asciiWord CodePoint.blank = false)
  refine ⟨hstable.1 _ _ (AssessmentRequest.concerned_rearranged (.swap _ _ _)) ?_ ?_,
    hstable.2 _ _ _ _ (AssessmentRequest.concerned_appends rfl) ?_⟩
  · unfold ExecutionRouter.Unbroken
    decide +kernel
  · unfold ExecutionRouter.Unbroken
    decide +kernel
  · unfold ExecutionRouter.UnbrokenAt
    decide +kernel

/-- A signal of coordination is found across the boundary of two pain points in one of their two
orders, and across that of a pain point and a constraint until another pain point comes between
them. -/
theorem routing_unstable_ascii :
    (∃ request request' : AssessmentRequest, request.Rearranged request' ∧
      ExecutionRouter.ascii.route request ≠ ExecutionRouter.ascii.route request') ∧
    ∃ (request request' : AssessmentRequest) (before after : List Str),
      request.Appends request' before after ∧
        (ExecutionRouter.ascii.route request').preferredExecutionMode = .singleAgent ∧
        (ExecutionRouter.ascii.route request).preferredExecutionMode = .multiAgent := by
  constructor
  · refine ⟨.concerned ["Decisions need multiple", "Stakeholders disagree"] [] (by decide +kernel)
      (by decide), .concerned ["Stakeholders disagree", "Decisions need multiple"] []
      (by decide +kernel) (by decide), AssessmentRequest.concerned_rearranged (.swap _ _ _),
      fun heq => ?_⟩
    have hmode := congrArg ExecutionRoutingDecision.preferredExecutionMode heq
    revert hmode
    decide +kernel
  · exact ⟨.concerned ["Decisions need multiple"] ["Stakeholders disagree"] (by decide +kernel)
      (by decide +kernel), .concerned ["Decisions need multiple", "Slow replies"]
      ["Stakeholders disagree"] (by decide +kernel) (by decide +kernel), _, _,
      AssessmentRequest.concerned_appends rfl, by decide +kernel, by decide +kernel⟩

end AssessmentPlatform
