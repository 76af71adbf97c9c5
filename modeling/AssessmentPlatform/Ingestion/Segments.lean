import AssessmentPlatform.Ingestion.Markdown
import AssessmentPlatform.KnowledgeGraph.Upserts
import AssessmentPlatform.Rag.NormalForm

/-!
# Segments of parsed documents

The parsers of PDF, DOCX and Markdown files join the texts of their segments with blank lines. What
is joined can be shown between its margins, and only white space has been added to the segments.
-/

namespace AssessmentPlatform

open Library

/-! ## Visible characters -/

/-- The characters that `str.split` leaves, in order: `"".join(text.split())`. -/
def Str.meaningful (s : Str) : Str := (Str.words s).flatten

/-- The split at white space keeps what is not white space. -/
theorem flatten_splitOnP (s : Str) :
    (s.splitOnP CodePoint.isSpace).flatten = s.filter fun c => !c.isSpace := by
  induction s with
  | nil => simp
  | cons c s ih =>
    rw [List.splitOnP_cons_eq_if_modifyHead]
    by_cases hc : c.isSpace = true
    · simp [hc, ih]
    · have hne : s.splitOnP CodePoint.isSpace ≠ [] := List.splitOnP_ne_nil _ s
      obtain ⟨first, rest, hsplit⟩ := List.exists_cons_of_ne_nil hne
      rw [if_neg hc, List.filter_cons_of_pos (by simpa using hc), ← ih, hsplit]
      rfl

/-- The meaningful characters are the visible ones. -/
theorem Str.meaningful_eq (s : Str) : s.meaningful = s.visibles := by
  rw [meaningful, words, List.flatten_filter_ne_nil, flatten_splitOnP, visibles]

/-- Texts are blank if nothing meaningful is in them. -/
theorem Str.meaningful_eq_nil_iff {s : Str} : s.meaningful = [] ↔ Str.strip s = [] := by
  rw [Str.strip_eq_trim, trim_eq_nil_iff, Str.meaningful_eq, visibles, List.filter_eq_nil_iff]
  simp [Blank]

/-- Trimming keeps what is meaningful. -/
theorem Str.meaningful_trim (s : Str) : s.trim.meaningful = s.meaningful := by
  rw [Str.meaningful_eq, Str.meaningful_eq, Str.trim_eq_trim]
  refine filter_trim (fun c hc => ?_) s
  exact (Bool.and_eq_true_iff.mp hc).1

/-- A blank separator adds no meaningful character. -/
theorem Str.meaningful_join (sep : Str) (hsep : Blank CodePoint.isSpace sep) (texts : List Str) :
    (Str.join sep texts).meaningful = texts.flatMap Str.meaningful := by
  rw [Str.meaningful_eq, visibles, Str.join, filter_intercalate hsep, List.flatMap_def]
  induction texts with
  | nil => rfl
  | cons text texts ih =>
    rw [List.flatten_cons, List.filter_append, ih, List.map_cons, List.flatten_cons,
      Str.meaningful_eq, visibles]

/-! ## Joined segments -/

/-- The text of some segments, with blank lines between them. -/
def segmentsText (segments : List ParsedDocumentSegment) : Str :=
  Str.join [CodePoint.lf, CodePoint.lf] (segments.map ParsedDocumentSegment.text)

/-- The separator of the segments is blank. -/
theorem blank_separator : Blank CodePoint.isSpace [CodePoint.lf, CodePoint.lf] := by
  intro c hc
  have hlf : c = CodePoint.lf := by simpa using hc
  rw [hlf]
  decide

/-- The text of segments holds the meaningful characters of each. -/
theorem meaningful_segmentsText (segments : List ParsedDocumentSegment) :
    (segmentsText segments).meaningful =
      segments.flatMap fun segment => segment.text.meaningful := by
  rw [segmentsText, Str.meaningful_join _ blank_separator, List.flatMap_map]

/-- The text of a segment is trimmed and not empty. -/
theorem ParsedDocumentSegment.trimmed (segment : ParsedDocumentSegment) :
    Trimmed CodePoint.isWhiteSpace segment.text := by
  obtain ⟨⟨-, htrim⟩, hpos⟩ := segment.text_valid
  rw [Str.trim_eq_trim] at htrim
  rcases @trim_cases _ CodePoint.isWhiteSpace segment.text with h | h
  · have hnil : segment.text = [] := htrim.symm.trans h
    rw [hnil] at hpos
    exact absurd hpos (by decide)
  · rwa [htrim] at h

/-- The text of some segments is accepted if there are any. -/
theorem segmentsText_valid {segments : List ParsedDocumentSegment} (hne : segments ≠ []) :
    (segmentsText segments).Valid ∧ 0 < (segmentsText segments).length := by
  have htrimmed : Trimmed CodePoint.isWhiteSpace (segmentsText segments) := by
    refine Trimmed.intercalate _ (by simpa using hne) fun text htext => ?_
    obtain ⟨segment, -, rfl⟩ := List.mem_map.mp htext
    exact segment.trimmed
  refine ⟨⟨?_, htrimmed.trim_self⟩, List.length_pos_iff.mpr htrimmed.ne_nil⟩
  unfold Str.encodable
  rw [List.all_eq_true]
  intro c hc
  rcases mem_intercalate hc with hc | ⟨text, htext, hc⟩
  · have hlf : c = CodePoint.lf := by simpa using hc
    rw [hlf]
    decide
  · obtain ⟨segment, -, rfl⟩ := List.mem_map.mp htext
    exact List.all_eq_true.mp segment.text_valid.1.1 c hc

/-! ## Collected segments -/

section Collect

variable {α β ε : Type}

/-- A loop that adds what some of its items yield to a list. -/
def collect (f : α → Except ε (Option β)) (items : List α) : Except ε (List β) :=
  items.foldlM (fun found item => do return found ++ (← f item).toList) []

/-- The loop from a list of found items adds what each item gives. -/
theorem foldlM_collect {f : α → Except ε (Option β)} {items : List α} {found found' : List β} :
    items.foldlM (fun found item => do return found ++ (← f item).toList) found = .ok found' ↔
      ∃ results, List.Forall₂ (fun item result => f item = .ok result) items results ∧
        found' = found ++ results.flatMap Option.toList := by
  induction items generalizing found with
  | nil =>
    constructor
    · intro h
      cases h
      exact ⟨[], .nil, by simp⟩
    · rintro ⟨results, hresults, rfl⟩
      cases hresults
      simp [pure, Except.pure]
  | cons item items ih =>
    rw [List.foldlM_cons]
    constructor
    · intro h
      obtain ⟨next, hnext, hrest⟩ := except_bind_eq_ok.mp h
      obtain ⟨result, hresult, heq⟩ := except_bind_eq_ok.mp hnext
      cases heq
      obtain ⟨results, hresults, rfl⟩ := ih.mp hrest
      refine ⟨result :: results, .cons hresult hresults, ?_⟩
      rw [List.flatMap_cons, List.append_assoc]
    · rintro ⟨_, hresults, rfl⟩
      cases hresults with
      | @cons _ result _ results hresult hresults =>
        rw [hresult, except_ok_bind]
        change (items.foldlM _ (found ++ result.toList)) = _
        rw [ih]
        refine ⟨results, hresults, ?_⟩
        rw [List.flatMap_cons, List.append_assoc]

/-- The loop returns what each item gives, in their order. -/
theorem collect_eq_ok {f : α → Except ε (Option β)} {items : List α} {found : List β} :
    collect f items = .ok found ↔
      ∃ results, List.Forall₂ (fun item result => f item = .ok result) items results ∧
        found = results.flatMap Option.toList := by
  unfold collect
  rw [foldlM_collect]
  simp only [List.nil_append]

/-- The loop fails with the error of the first item that fails. -/
theorem foldlM_collect_error {f : α → Except ε (Option β)} {items : List α} {found : List β}
    {e : ε} :
    items.foldlM (fun found item => do return found ++ (← f item).toList) found = .error e ↔
      ∃ before item after, items = before ++ item :: after ∧
        (∀ earlier ∈ before, ∃ result, f earlier = .ok result) ∧ f item = .error e := by
  induction items generalizing found with
  | nil =>
    constructor
    · intro h
      cases h
    · rintro ⟨before, item, after, hitems, -⟩
      simp at hitems
  | cons first items ih =>
    rw [List.foldlM_cons]
    cases hfirst : f first with
    | error e' =>
      rw [except_error_bind, except_error_bind]
      constructor
      · intro h
        cases h
        exact ⟨[], first, items, rfl, List.forall_mem_nil _, hfirst⟩
      · rintro ⟨before, item, after, hitems, hbefore, hitem⟩
        cases before with
        | nil =>
          cases hitems
          cases hfirst.symm.trans hitem
          rfl
        | cons first' before =>
          cases hitems
          obtain ⟨result, hresult⟩ := hbefore _ List.mem_cons_self
          cases hfirst.symm.trans hresult
    | ok result =>
      rw [except_ok_bind]
      rw [show (pure (found ++ result.toList) : Except ε (List β)) =
        .ok (found ++ result.toList) from rfl, except_ok_bind, ih]
      constructor
      · rintro ⟨before, item, after, rfl, hbefore, hitem⟩
        exact ⟨first :: before, item, after, rfl,
          List.forall_mem_cons.mpr ⟨⟨result, hfirst⟩, hbefore⟩, hitem⟩
      · rintro ⟨before, item, after, hitems, hbefore, hitem⟩
        cases before with
        | nil =>
          cases hitems
          cases hfirst.symm.trans hitem
        | cons first' before =>
          cases hitems
          exact ⟨before, item, after, rfl, (List.forall_mem_cons.mp hbefore).2, hitem⟩

/-- The loop raises what the first item raises for which it raises. -/
theorem collect_eq_error {f : α → Except ε (Option β)} {items : List α} {e : ε} :
    collect f items = .error e ↔
      ∃ before item after, items = before ++ item :: after ∧
        (∀ earlier ∈ before, ∃ result, f earlier = .ok result) ∧ f item = .error e :=
  foldlM_collect_error

end Collect

end AssessmentPlatform
