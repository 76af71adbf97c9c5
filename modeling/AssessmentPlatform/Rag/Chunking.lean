import AssessmentPlatform.Core.Exceptions
import AssessmentPlatform.Core.Settings
import AssessmentPlatform.Library.Text
import Mathlib.Data.List.Pairwise
import Mathlib.Tactic.Linarith

/-!
# Normalization and chunking

`normalize_text` and `chunk_text`. The loop of `chunk_text` visits windows of the normalized
text: a window begins where the overlap with the preceding one begins, and it ends at a
natural boundary in its second half or at the chunk size. A chunk is a window without the
white space at its ends, and a window of white space gives no chunk.
-/

namespace AssessmentPlatform

open Library

/-! ## Normalization -/

/-- The replacements of `str.replace` for a nonempty pattern; `skip` characters belong to an
occurrence that has been replaced already. -/
def Str.replaceFrom (old new : Str) : ℕ → Str → Str
  | _, [] => []
  | skip + 1, _ :: rest => Str.replaceFrom old new skip rest
  | 0, c :: rest =>
    if old.isPrefixOf (c :: rest) then new ++ Str.replaceFrom old new (old.length - 1) rest
    else c :: Str.replaceFrom old new 0 rest

/-- `s.replace(old, new)` for a nonempty pattern. -/
def Str.replace (old new s : Str) : Str := Str.replaceFrom old new 0 s

/-- The lines of a text, for each of the three line endings. -/
def textLines (rawText : Str) : List Str :=
  (Str.replace [CodePoint.cr] [CodePoint.lf]
    (Str.replace [CodePoint.cr, CodePoint.lf] [CodePoint.lf] rawText)).splitOn CodePoint.lf

/-- The state of the loop of `normalize_text`. -/
structure NormalizeState where
  normalizedLines : List Str := []
  previousBlank : Bool := false

/-- One line in the loop of `normalize_text`. -/
def NormalizeState.add (state : NormalizeState) (line : Str) : NormalizeState :=
  let cleaned := Str.rstrip line
  if Str.strip cleaned = [] then
    { normalizedLines :=
        if state.normalizedLines ≠ [] ∧ state.previousBlank = false then
          state.normalizedLines ++ [[]]
        else state.normalizedLines
      previousBlank := true }
  else { normalizedLines := state.normalizedLines ++ [cleaned], previousBlank := false }

/-- `normalize_text`. -/
def normalizeText (rawText : Str) : Str :=
  Str.strip (Str.join [CodePoint.lf]
    ((textLines rawText).foldl NormalizeState.add {}).normalizedLines)

/-! ## Chunking -/

/-- One normalized chunk with a stable document-relative index. -/
structure TextChunk where
  index : ℕ
  content : Str
  startOffset : ℕ
  endOffset : ℕ
  deriving DecidableEq

/-- The last natural boundary between two positions: a blank line, else a line end, else a
blank. -/
def naturalBoundary (normalized : Str) (searchStart stop : ℕ) : Option ℕ :=
  match rfind [CodePoint.lf, CodePoint.lf] normalized searchStart stop with
  | some boundary => some boundary
  | none =>
    match rfind [CodePoint.lf] normalized searchStart stop with
    | some boundary => some boundary
    | none => rfind [CodePoint.blank] normalized searchStart stop

/-- The position `end` at which the window that begins at `start` is cut. -/
def windowEnd (normalized : Str) (chunkSize start : ℕ) : ℕ :=
  let stop := min (start + chunkSize) normalized.length
  if stop < normalized.length then
    (naturalBoundary normalized (min (start + chunkSize / 2) stop) stop).getD stop
  else stop

/-- The bounds of a window without the white space at its ends. -/
def contentBounds (normalized : Str) (start stop : ℕ) : ℕ × ℕ :=
  let candidate := slice normalized start stop
  let leadingCharacters := candidate.length - (Str.lstrip candidate).length
  let trailingCharacters := candidate.length - (Str.rstrip candidate).length
  (start + leadingCharacters, stop - trailingCharacters)

/-- The chunks after a window has been read. -/
def appendChunk (normalized : Str) (start stop : ℕ) (chunks : List TextChunk) :
    List TextChunk :=
  let bounds := contentBounds normalized start stop
  let content := slice normalized bounds.1 bounds.2
  if content = [] then chunks
  else chunks ++ [⟨chunks.length, content, bounds.1, bounds.2⟩]

/-- The loop of `chunk_text`. -/
def chunkLoop (normalized : Str) (chunkSize overlap start : ℕ) (chunks : List TextChunk) :
    List TextChunk :=
  if start < normalized.length then
    let stop := windowEnd normalized chunkSize start
    if normalized.length ≤ stop then appendChunk normalized start stop chunks
    else
      chunkLoop normalized chunkSize overlap (max (stop - overlap) (start + 1))
        (appendChunk normalized start stop chunks)
  else chunks
termination_by normalized.length - start

/-- `chunk_text`. -/
def chunkText (text : Str) (chunkSize overlap : ℤ) : Except Failure (List TextChunk) :=
  if chunkSize ≤ 0 then .error .value
  else if overlap < 0 ∨ chunkSize ≤ overlap then .error .value
  else if normalizeText text = [] then .ok []
  else .ok (chunkLoop (normalizeText text) chunkSize.toNat overlap.toNat 0 [])

/-! ## The windows -/

/-- The windows that the loop visits from a position on. -/
def windows (normalized : Str) (chunkSize overlap start : ℕ) : List (ℕ × ℕ) :=
  if start < normalized.length then
    let stop := windowEnd normalized chunkSize start
    if normalized.length ≤ stop then [(start, stop)]
    else (start, stop) :: windows normalized chunkSize overlap (max (stop - overlap) (start + 1))
  else []
termination_by normalized.length - start

section Equations

variable {normalized : Str} {chunkSize overlap start : ℕ}

/-- A window that reaches the end is the last one. -/
theorem windows_last (hstart : start < normalized.length)
    (hstop : normalized.length ≤ windowEnd normalized chunkSize start) :
    windows normalized chunkSize overlap start =
      [(start, windowEnd normalized chunkSize start)] := by
  rw [windows, if_pos hstart]
  dsimp only
  rw [if_pos hstop]

/-- A window that does not reach the end has a next one. -/
theorem windows_next (hstart : start < normalized.length)
    (hstop : ¬ normalized.length ≤ windowEnd normalized chunkSize start) :
    windows normalized chunkSize overlap start =
      (start, windowEnd normalized chunkSize start) :: windows normalized chunkSize overlap
        (max (windowEnd normalized chunkSize start - overlap) (start + 1)) := by
  rw [windows, if_pos hstart]
  dsimp only
  rw [if_neg hstop]

/-- Behind the end there is no window. -/
theorem windows_done (hstart : ¬ start < normalized.length) :
    windows normalized chunkSize overlap start = [] := by
  rw [windows, if_neg hstart]

end Equations

/-- The loop reads one window after the other. -/
theorem chunkLoop_eq (normalized : Str) (chunkSize overlap start : ℕ) (chunks : List TextChunk) :
    chunkLoop normalized chunkSize overlap start chunks =
      (windows normalized chunkSize overlap start).foldl
        (fun chunks window => appendChunk normalized window.1 window.2 chunks) chunks := by
  induction start, chunks using chunkLoop.induct normalized chunkSize overlap with
  | case1 start chunks hstart stop hstop =>
    rw [chunkLoop, if_pos hstart, windows_last hstart hstop]
    dsimp only
    rw [if_pos hstop]
    rfl
  | case2 start chunks hstart stop hstop ih =>
    rw [chunkLoop, if_pos hstart, windows_next hstart hstop]
    dsimp only
    rw [if_neg hstop, ih]
    rfl
  | case3 start chunks hstart =>
    rw [chunkLoop, if_neg hstart, windows_done hstart]
    rfl

/-! ## Where a window is cut -/

section Cuts

variable (normalized : Str) (chunkSize : ℕ)

/-- The ways in which a window is cut: at the end of the text, at the last natural boundary
in its second half, where a blank line is preferred to a line end and a line end to a blank,
or at the chunk size. -/
inductive CutAt (start : ℕ) : ℕ → Prop
  | textEnd (hlength : normalized.length ≤ start + chunkSize) : CutAt start normalized.length
  | blankLine {b : ℕ} (hlength : start + chunkSize < normalized.length)
      (hb : LastAt [CodePoint.lf, CodePoint.lf] normalized (start + chunkSize / 2)
        (start + chunkSize) b) : CutAt start b
  | lineEnd {b : ℕ} (hlength : start + chunkSize < normalized.length)
      (hblankLine : ∀ i, ¬ OccursAt [CodePoint.lf, CodePoint.lf] normalized
        (start + chunkSize / 2) (start + chunkSize) i)
      (hb : LastAt [CodePoint.lf] normalized (start + chunkSize / 2) (start + chunkSize) b) :
      CutAt start b
  | blank {b : ℕ} (hlength : start + chunkSize < normalized.length)
      (hlineEnd : ∀ i, ¬ OccursAt [CodePoint.lf] normalized (start + chunkSize / 2)
        (start + chunkSize) i)
      (hb : LastAt [CodePoint.blank] normalized (start + chunkSize / 2) (start + chunkSize) b) :
      CutAt start b
  | chunkSize (hlength : start + chunkSize < normalized.length)
      (hlineEnd : ∀ i, ¬ OccursAt [CodePoint.lf] normalized (start + chunkSize / 2)
        (start + chunkSize) i)
      (hblank : ∀ i, ¬ OccursAt [CodePoint.blank] normalized (start + chunkSize / 2)
        (start + chunkSize) i) : CutAt start (start + chunkSize)

/-- The window that begins at a position is cut in one of these ways. -/
theorem windowEnd_cutAt (start : ℕ) :
    CutAt normalized chunkSize start (windowEnd normalized chunkSize start) := by
  unfold windowEnd
  dsimp only
  by_cases hlength : start + chunkSize < normalized.length
  · rw [Nat.min_eq_left hlength.le, if_pos hlength, Nat.min_eq_left (by omega), naturalBoundary]
    cases hblankLine : rfind [CodePoint.lf, CodePoint.lf] normalized (start + chunkSize / 2)
        (start + chunkSize) with
    | some b => exact .blankLine hlength ((rfind_eq_some (by simp)).mp hblankLine)
    | none =>
      rw [rfind_eq_none (by simp)] at hblankLine
      cases hlineEnd : rfind [CodePoint.lf] normalized (start + chunkSize / 2)
          (start + chunkSize) with
      | some b => exact .lineEnd hlength hblankLine ((rfind_eq_some (by simp)).mp hlineEnd)
      | none =>
        rw [rfind_eq_none (by simp)] at hlineEnd
        cases hblank : rfind [CodePoint.blank] normalized (start + chunkSize / 2)
            (start + chunkSize) with
        | some b => exact .blank hlength hlineEnd ((rfind_eq_some (by simp)).mp hblank)
        | none =>
          rw [rfind_eq_none (by simp)] at hblank
          exact .chunkSize hlength hlineEnd hblank
  · rw [Nat.min_eq_right (by omega), if_neg (Nat.lt_irrefl _)]
    exact .textEnd (by omega)

variable {normalized chunkSize}

/-- A window is not longer than the chunk size and does not leave the text. -/
theorem CutAt.le {start stop : ℕ} (h : CutAt normalized chunkSize start stop) :
    stop ≤ start + chunkSize ∧ stop ≤ normalized.length := by
  cases h with
  | textEnd hlength => exact ⟨hlength, Nat.le_refl _⟩
  | blankLine hlength hb | lineEnd hlength _ hb | blank hlength _ hb =>
    have := hb.1.lt (by simp)
    exact ⟨by omega, by omega⟩
  | chunkSize hlength => exact ⟨Nat.le_refl _, hlength.le⟩

/-- A window that does not end with the text is cut in its second half. -/
theorem CutAt.ge {start stop : ℕ} (h : CutAt normalized chunkSize start stop)
    (hstop : stop < normalized.length) : start + chunkSize / 2 ≤ stop := by
  cases h with
  | textEnd => omega
  | blankLine _ hb | lineEnd _ _ hb | blank _ _ hb => exact hb.1.1
  | chunkSize => omega

/-- A line end stands where a blank line begins. -/
theorem occursAt_lineEnd {low high low' high' i : ℕ}
    (h : OccursAt [CodePoint.lf, CodePoint.lf] normalized low high i) (hlow : low' ≤ i)
    (hhigh : i < high') : OccursAt [CodePoint.lf] normalized low' high' i := by
  obtain ⟨tail, htail⟩ := h.2.2
  exact ⟨hlow, hhigh, CodePoint.lf :: tail, htail⟩

/-- A later window is not cut before an earlier one. -/
theorem CutAt.mono {start start' stop stop' : ℕ} (hle : start ≤ start')
    (h : CutAt normalized chunkSize start stop) (h' : CutAt normalized chunkSize start' stop') :
    stop ≤ stop' := by
  have hstop := h.le
  by_contra hlt
  -- the later cut lies before the earlier one, so both windows see what stands at either cut
  cases h' with
  | textEnd => omega
  | chunkSize => omega
  | blankLine hlength' hb' =>
    have hge := hb'.1.1
    cases h with
    | textEnd => omega
    | blankLine _ hb =>
      have hhigh := hb.1.2.1
      have := hb'.2 stop (hb.1.within (by omega) (by omega))
      omega
    | lineEnd hlength hno hb =>
      have := hb.1.lt (by simp)
      exact hno stop' (hb'.1.within (by omega) (by simp; omega))
    | blank hlength hno _ | chunkSize hlength hno _ =>
      exact hno stop' (occursAt_lineEnd hb'.1 (by omega) (by omega))
  | lineEnd hlength' hno' hb' =>
    have hge := hb'.1.1
    cases h with
    | textEnd => omega
    | blankLine _ hb =>
      have hhigh := hb.1.2.1
      exact hno' stop (hb.1.within (by omega) (by omega))
    | lineEnd _ _ hb =>
      have hhigh := hb.1.2.1
      have := hb'.2 stop (hb.1.within (by omega) (by omega))
      omega
    | blank hlength hno _ | chunkSize hlength hno _ =>
      exact hno stop' (hb'.1.within (by omega) (by simp; omega))
  | blank hlength' hno' hb' =>
    have hge := hb'.1.1
    cases h with
    | textEnd => omega
    | blankLine _ hb =>
      have hhigh := hb.1.lt (by simp)
      exact hno' stop (occursAt_lineEnd hb.1 (by omega) (by omega))
    | lineEnd _ _ hb =>
      have hhigh := hb.1.2.1
      exact hno' stop (hb.1.within (by omega) (by omega))
    | blank _ _ hb =>
      have hhigh := hb.1.2.1
      have := hb'.2 stop (hb.1.within (by omega) (by omega))
      omega
    | chunkSize hlength _ hno =>
      exact hno stop' (hb'.1.within (by omega) (by simp; omega))

/-- A line feed is white space. -/
theorem CodePoint.isSpace_lf : CodePoint.isSpace CodePoint.lf = true := by decide +kernel

/-- A blank is white space. -/
theorem CodePoint.isSpace_blank : CodePoint.isSpace CodePoint.blank = true := by decide +kernel

/-- White space stands at a natural boundary. -/
theorem OccursAt.visible_eq_false {pattern : Str} {low high i : ℕ}
    (h : OccursAt pattern normalized low high i) (hne : pattern ≠ [])
    (hpattern : Blank CodePoint.isSpace pattern) :
    visible CodePoint.isSpace normalized i = false := by
  obtain ⟨tail, htail⟩ := h.2.2
  obtain ⟨c, rest, rfl⟩ := List.exists_cons_of_ne_nil hne
  have hget : normalized[i]? = some c := by
    rw [← Nat.add_zero i, ← List.getElem?_drop, ← htail]
    rfl
  simp [visible, hget, hpattern c (by simp)]

/-- A window that is cut where it begins begins with white space. -/
theorem CutAt.visible_eq_false {start stop : ℕ} (hsize : 0 < chunkSize)
    (h : CutAt normalized chunkSize start stop) (hstop : stop < normalized.length)
    (hle : stop ≤ start) : visible CodePoint.isSpace normalized stop = false := by
  cases h with
  | textEnd => omega
  | blankLine _ hb | lineEnd _ _ hb =>
    exact OccursAt.visible_eq_false hb.1 (by simp) (by simp [Blank, CodePoint.isSpace_lf])
  | blank _ _ hb =>
    exact OccursAt.visible_eq_false hb.1 (by simp) (by simp [Blank, CodePoint.isSpace_blank])
  | chunkSize => omega

end Cuts

section Windows

variable {normalized : Str} {chunkSize overlap : ℕ}

/-- A window of the text. -/
structure IsWindow (normalized : Str) (chunkSize : ℕ) (window : ℕ × ℕ) : Prop where
  lt_length : window.1 < normalized.length
  le : window.1 ≤ window.2
  cut : CutAt normalized chunkSize window.1 window.2

/-- A window that starts within the text is one. -/
theorem IsWindow.of_lt {start : ℕ} (hstart : start < normalized.length) :
    IsWindow normalized chunkSize (start, windowEnd normalized chunkSize start) := by
  have hcut := windowEnd_cutAt normalized chunkSize start
  refine ⟨hstart, ?_, hcut⟩
  by_cases hstop : windowEnd normalized chunkSize start < normalized.length
  · have := hcut.ge hstop
    dsimp only
    omega
  · dsimp only
    omega

/-- One window comes after another in the loop. -/
structure Follows (normalized : Str) (overlap : ℕ) (u v : ℕ × ℕ) : Prop where
  start_lt : u.1 < v.1
  cut_le : u.2 ≤ v.2
  cut_le_start : u.2 ≤ v.1 + overlap
  cut_lt : u.2 < normalized.length

/-- The loop visits windows that begin at its position or later. -/
theorem windows_isWindow (start : ℕ) :
    ∀ window ∈ windows normalized chunkSize overlap start,
      start ≤ window.1 ∧ IsWindow normalized chunkSize window := by
  induction start using windows.induct normalized chunkSize overlap with
  | case1 start hstart stop hstop =>
    rw [windows_last hstart hstop]
    intro window hwindow
    rw [List.mem_singleton.mp hwindow]
    exact ⟨Nat.le_refl _, .of_lt hstart⟩
  | case2 start hstart stop hstop ih =>
    rw [windows_next hstart hstop]
    intro window hwindow
    rcases List.mem_cons.mp hwindow with rfl | hrest
    · exact ⟨Nat.le_refl _, .of_lt hstart⟩
    · obtain ⟨hge, hwindow⟩ := ih window hrest
      exact ⟨by omega, hwindow⟩
  | case3 start hstart =>
    rw [windows_done hstart]
    exact fun window hwindow => nomatch hwindow

/-- Windows begin and are cut one after the other, and a window reads at most `overlap`
characters before an earlier cut. -/
theorem windows_pairwise (start : ℕ) :
    (windows normalized chunkSize overlap start).Pairwise (Follows normalized overlap) := by
  induction start using windows.induct normalized chunkSize overlap with
  | case1 start hstart stop hstop =>
    rw [windows_last hstart hstop]
    exact List.pairwise_singleton _ _
  | case2 start hstart stop hstop ih =>
    rw [windows_next hstart hstop]
    refine List.pairwise_cons.mpr ⟨fun window hwindow => ?_, ih⟩
    obtain ⟨hge, hwindow⟩ := windows_isWindow _ window hwindow
    have hcut := (windowEnd_cutAt normalized chunkSize start).mono (by omega) hwindow.cut
    exact ⟨by dsimp only; omega, hcut, by dsimp only; omega, by dsimp only; omega⟩
  | case3 start hstart =>
    rw [windows_done hstart]
    exact List.Pairwise.nil

/-- Every visible position from the first window on lies in a window. -/
theorem windows_cover (hsize : 0 < chunkSize) (start : ℕ) {i : ℕ} (hi : start ≤ i)
    (hvisible : visible CodePoint.isSpace normalized i = true) :
    ∃ window ∈ windows normalized chunkSize overlap start, window.1 ≤ i ∧ i < window.2 := by
  have hlength := visible_lt hvisible
  induction start using windows.induct normalized chunkSize overlap with
  | case1 start hstart stop hstop =>
    rw [windows_last hstart hstop]
    exact ⟨_, List.mem_singleton_self _, hi, by dsimp only; omega⟩
  | case2 start hstart stop hstop ih =>
    rw [windows_next hstart hstop]
    by_cases hin : i < windowEnd normalized chunkSize start
    · exact ⟨_, List.mem_cons_self, hi, hin⟩
    -- the position is visible, so it is not the start of a window that is cut there
    have hne : i ≠ start := by
      rintro rfl
      have hwindow : IsWindow normalized chunkSize (i, windowEnd normalized chunkSize i) :=
        .of_lt hstart
      have hle := hwindow.le
      have hspace := hwindow.cut.visible_eq_false hsize (by omega) (by omega)
      rw [show windowEnd normalized chunkSize i = i by dsimp only at hle; omega] at hspace
      rw [hvisible] at hspace
      cases hspace
    obtain ⟨window, hwindow, hbounds⟩ := ih (by omega)
    exact ⟨window, List.mem_cons_of_mem _ hwindow, hbounds⟩
  | case3 start hstart => omega

end Windows

/-! ## The chunks -/

/-- Whether a window has something to see. -/
def keepsWindow (normalized : Str) (window : ℕ × ℕ) : Bool :=
  decide (slice normalized (contentBounds normalized window.1 window.2).1
    (contentBounds normalized window.1 window.2).2 ≠ [])

/-- The chunk of a window. -/
def windowChunk (normalized : Str) (index : ℕ) (window : ℕ × ℕ) : TextChunk :=
  let bounds := contentBounds normalized window.1 window.2
  ⟨index, slice normalized bounds.1 bounds.2, bounds.1, bounds.2⟩

/-- The chunks are those of the windows that have something to see, in order. -/
theorem foldl_appendChunk (normalized : Str) (ws : List (ℕ × ℕ)) (chunks : List TextChunk) :
    ws.foldl (fun chunks window => appendChunk normalized window.1 window.2 chunks) chunks =
      chunks ++ (ws.filter (keepsWindow normalized)).mapIdx fun k window =>
        windowChunk normalized (chunks.length + k) window := by
  induction ws generalizing chunks with
  | nil => simp
  | cons window ws ih =>
    rw [List.foldl_cons, ih]
    by_cases hempty : slice normalized (contentBounds normalized window.1 window.2).1
        (contentBounds normalized window.1 window.2).2 = []
    · rw [List.filter_cons_of_neg (by simp [keepsWindow, hempty])]
      simp only [appendChunk, hempty, if_true]
    · rw [List.filter_cons_of_pos (by simp [keepsWindow, hempty]), List.mapIdx_cons]
      simp only [appendChunk, hempty, if_false, List.append_assoc, List.length_append,
        List.length_singleton, List.singleton_append]
      congr 2
      refine List.mapIdx_eq_mapIdx_iff.mpr fun k hk => ?_
      rw [Nat.add_assoc, Nat.add_comm 1]

section Content

variable {normalized : Str} {chunkSize : ℕ}

/-- A chunk is a window without the white space at its ends. -/
structure TrimmedFrom (normalized : Str) (window : ℕ × ℕ) (chunk : TextChunk) : Prop where
  start_le : window.1 ≤ chunk.startOffset
  end_le : chunk.endOffset ≤ window.2
  content : chunk.content = slice normalized chunk.startOffset chunk.endOffset
  trimmed : Trimmed CodePoint.isSpace chunk.content
  before : ∀ i, window.1 ≤ i → i < chunk.startOffset →
    visible CodePoint.isSpace normalized i = false
  after : ∀ i, chunk.endOffset ≤ i → i < window.2 →
    visible CodePoint.isSpace normalized i = false

/-- A window has nothing to see, or its chunk is what remains without its margins. -/
theorem IsWindow.content_cases {window : ℕ × ℕ} (h : IsWindow normalized chunkSize window) :
    (keepsWindow normalized window = false ∧
        ∀ i, window.1 ≤ i → i < window.2 → visible CodePoint.isSpace normalized i = false) ∨
      keepsWindow normalized window = true ∧
        ∀ k, TrimmedFrom normalized window (windowChunk normalized k window) := by
  have hstop := h.cut.le.2
  have hle := h.le
  have hlength := slice_length normalized window.1 hstop
  have hbounds : contentBounds normalized window.1 window.2 =
      (window.1 + (window.2 - window.1 -
          ((slice normalized window.1 window.2).dropWhile CodePoint.isSpace).length),
        window.2 - (window.2 - window.1 -
          ((slice normalized window.1 window.2).rdropWhile CodePoint.isSpace).length)) := by
    rw [← hlength]
    rfl
  rcases slice_trim_cases CodePoint.isSpace normalized hle hstop with
    ⟨hleft, hright, hnone⟩ | ⟨p, q, hp, hpq, hq, hleft, hright, htrimmed, hbefore, hafter⟩
  · refine .inl ⟨?_, hnone⟩
    rw [hleft, hright] at hbounds
    simp only [keepsWindow, hbounds, slice, ne_eq, decide_not, Bool.not_eq_false',
      decide_eq_true_eq, List.drop_eq_nil_iff, List.length_take]
    omega
  · have heq : contentBounds normalized window.1 window.2 = (p, q) := by
      rw [hbounds, hleft, hright, Prod.mk.injEq]
      omega
    refine .inr ⟨?_, fun k => ?_⟩
    · simp only [keepsWindow, heq]
      exact decide_eq_true htrimmed.ne_nil
    · unfold windowChunk
      rw [heq]
      exact ⟨hp, hq, rfl, htrimmed, hbefore, hafter⟩

/-- A window that is kept is trimmed to its chunk. -/
theorem IsWindow.trimmedFrom {window : ℕ × ℕ} (h : IsWindow normalized chunkSize window)
    (hkeeps : keepsWindow normalized window = true) (k : ℕ) :
    TrimmedFrom normalized window (windowChunk normalized k window) := by
  rcases h.content_cases with ⟨hnot, -⟩ | ⟨-, htrimmed⟩
  · cases hnot.symm.trans hkeeps
  · exact htrimmed k

variable {window : ℕ × ℕ} {chunk : TextChunk}

/-- A trimmed chunk is not empty. -/
theorem TrimmedFrom.lt (h : TrimmedFrom normalized window chunk) :
    chunk.startOffset < chunk.endOffset := by
  have hpos := List.length_pos_of_ne_nil h.trimmed.ne_nil
  rw [h.content, slice, List.length_drop, List.length_take] at hpos
  omega

/-- A trimmed chunk starts with a visible character. -/
theorem TrimmedFrom.visible_start (h : TrimmedFrom normalized window chunk) :
    visible CodePoint.isSpace normalized chunk.startOffset = true := by
  have hfirst := h.trimmed.visible_first
  rwa [h.content, visible_slice normalized h.lt] at hfirst

/-- A trimmed chunk ends with a visible character. -/
theorem TrimmedFrom.visible_end (h : TrimmedFrom normalized window chunk)
    (hwindow : IsWindow normalized chunkSize window) :
    visible CodePoint.isSpace normalized (chunk.endOffset - 1) = true := by
  have hlt := h.lt
  have hend := h.end_le.trans hwindow.cut.le.2
  have hlast := h.trimmed.visible_last
  rw [h.content, slice_length normalized _ hend,
    visible_slice normalized (show chunk.startOffset + (chunk.endOffset - chunk.startOffset - 1) <
      chunk.endOffset by omega)] at hlast
  rwa [show chunk.startOffset + (chunk.endOffset - chunk.startOffset - 1) = chunk.endOffset - 1
    by omega] at hlast

/-- A chunk holds every visible position of its window. -/
theorem TrimmedFrom.covers (h : TrimmedFrom normalized window chunk) {i : ℕ}
    (hi : window.1 ≤ i) (hi' : i < window.2)
    (hvisible : visible CodePoint.isSpace normalized i = true) :
    chunk.startOffset ≤ i ∧ i < chunk.endOffset := by
  constructor
  · by_contra hlt
    cases (h.before i hi (by omega)).symm.trans hvisible
  · by_contra hlt
    cases (h.after i (by omega) hi').symm.trans hvisible

end Content

/-- The windows that have something to see, and their chunks. -/
structure Windowed (normalized : Str) (chunkSize overlap : ℕ) (ws : List (ℕ × ℕ))
    (chunks : List TextChunk) : Prop where
  chunks_eq : chunks = ws.mapIdx (windowChunk normalized)
  isWindow : ∀ window ∈ ws, IsWindow normalized chunkSize window
  keeps : ∀ window ∈ ws, keepsWindow normalized window = true
  follows : ws.Pairwise (Follows normalized overlap)
  covers : ∀ i, visible CodePoint.isSpace normalized i = true →
    ∃ window ∈ ws, window.1 ≤ i ∧ i < window.2

/-- The loop returns the chunks of the windows that have something to see. -/
theorem chunkLoop_windowed (normalized : Str) {chunkSize : ℕ} (overlap : ℕ)
    (hsize : 0 < chunkSize) :
    Windowed normalized chunkSize overlap
      ((windows normalized chunkSize overlap 0).filter (keepsWindow normalized))
      (chunkLoop normalized chunkSize overlap 0 []) where
  chunks_eq := by
    rw [chunkLoop_eq, foldl_appendChunk]
    simp only [List.nil_append, List.length_nil, Nat.zero_add]
  isWindow window hwindow := (windows_isWindow 0 window (List.mem_filter.mp hwindow).1).2
  keeps window hwindow := (List.mem_filter.mp hwindow).2
  follows := (windows_pairwise 0).filter _
  covers i hvisible := by
    obtain ⟨window, hwindow, hle, hlt⟩ := windows_cover hsize 0 (Nat.zero_le i) hvisible
    refine ⟨window, List.mem_filter.mpr ⟨hwindow, ?_⟩, hle, hlt⟩
    rcases (windows_isWindow 0 window hwindow).2.content_cases with ⟨-, hnone⟩ | ⟨hkeeps, -⟩
    · cases (hnone i hle hlt).symm.trans hvisible
    · exact hkeeps

section Chunks

variable {normalized : Str} {chunkSize overlap : ℕ} {ws : List (ℕ × ℕ)} {chunks : List TextChunk}

/-- Every chunk comes from a window. -/
theorem Windowed.window_of_mem (h : Windowed normalized chunkSize overlap ws chunks)
    {chunk : TextChunk} (hchunk : chunk ∈ chunks) :
    ∃ window ∈ ws, IsWindow normalized chunkSize window ∧
      TrimmedFrom normalized window chunk := by
  rw [h.chunks_eq, List.mem_mapIdx] at hchunk
  obtain ⟨k, hk, rfl⟩ := hchunk
  have hmem := List.getElem_mem hk
  have hwindow := h.isWindow _ hmem
  exact ⟨_, hmem, hwindow, hwindow.trimmedFrom (h.keeps _ hmem) k⟩

/-- Two chunks come from two windows in the same order. -/
theorem Windowed.pairwise (h : Windowed normalized chunkSize overlap ws chunks)
    {R : TextChunk → TextChunk → Prop}
    (hR : ∀ u v c d, IsWindow normalized chunkSize u → IsWindow normalized chunkSize v →
      Follows normalized overlap u v → TrimmedFrom normalized u c → TrimmedFrom normalized v d →
      R c d) : chunks.Pairwise R := by
  rw [h.chunks_eq, List.pairwise_iff_getElem]
  intro i j hi hj hij
  rw [List.length_mapIdx] at hi hj
  have hu := h.isWindow _ (List.getElem_mem hi)
  have hv := h.isWindow _ (List.getElem_mem hj)
  rw [List.getElem_mapIdx, List.getElem_mapIdx]
  exact hR _ _ _ _ hu hv (List.pairwise_iff_getElem.mp h.follows i j hi hj hij)
    (hu.trimmedFrom (h.keeps _ (List.getElem_mem hi)) i)
    (hv.trimmedFrom (h.keeps _ (List.getElem_mem hj)) j)

/-- The chunks are numbered by their positions. -/
theorem Windowed.index (h : Windowed normalized chunkSize overlap ws chunks) {k : ℕ}
    {chunk : TextChunk} (hk : chunks[k]? = some chunk) : chunk.index = k := by
  rw [h.chunks_eq, List.getElem?_mapIdx, Option.map_eq_some_iff] at hk
  obtain ⟨window, -, rfl⟩ := hk
  rfl

end Chunks

end AssessmentPlatform
