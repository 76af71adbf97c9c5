import AssessmentPlatform.Rag.Chunking

/-!
# What normalization does to a text

Normalization first reads the lines of a text and then lays them out again. A blank line puts
the second step back into the state in which it began, so the parts of a text on the two
sides of a blank line are normalized independently, and white space at the ends of a text
does not matter.
-/

namespace AssessmentPlatform

open Library

/-- A carriage return is white space. -/
theorem CodePoint.isSpace_cr : CodePoint.isSpace CodePoint.cr = true := by decide +kernel

/-! ## Laying out lines -/

/-- A line that is dropped or written as an empty line. -/
def BlankLine (line : Str) : Prop := Str.strip (Str.rstrip line) = []

instance (line : Str) : Decidable (BlankLine line) := inferInstanceAs (Decidable (_ = _))

/-- The lines that the loop of `normalize_text` adds; blank lines are suppressed at the
beginning and after a blank line. -/
def collapse : Bool → List Str → List Str
  | _, [] => []
  | suppress, line :: rest =>
    if BlankLine line then (if suppress then [] else [[]]) ++ collapse true rest
    else Str.rstrip line :: collapse false rest

/-- Without lines nothing is collapsed. -/
@[simp]
theorem collapse_nil (suppress : Bool) : collapse suppress [] = [] := rfl

/-- A blank line is kept once, unless it is suppressed. -/
theorem collapse_blank {line : Str} (hline : BlankLine line) (suppress : Bool) (rest : List Str) :
    collapse suppress (line :: rest) = (if suppress then [] else [[]]) ++ collapse true rest := by
  rw [collapse, if_pos hline]

/-- A line that is not blank is stripped and kept. -/
theorem collapse_line {line : Str} (hline : ¬ BlankLine line) (suppress : Bool)
    (rest : List Str) :
    collapse suppress (line :: rest) = Str.rstrip line :: collapse false rest := by
  rw [collapse, if_neg hline]

/-- The loop adds the collapsed lines. -/
theorem foldl_add (ls : List Str) (state : NormalizeState) :
    (ls.foldl NormalizeState.add state).normalizedLines =
      state.normalizedLines ++
        collapse (decide (state.normalizedLines = []) || state.previousBlank) ls := by
  induction ls generalizing state with
  | nil => simp
  | cons line rest ih =>
    rw [List.foldl_cons, ih]
    by_cases hblank : BlankLine line
    · rw [collapse_blank hblank, show state.add line = _ from if_pos hblank, Bool.or_true]
      cases hlines : state.normalizedLines with
      | nil => simp
      | cons first lines =>
        cases hprevious : state.previousBlank with
        | true => simp
        | false => simp
    · rw [collapse_line hblank, show state.add line = _ from if_neg hblank]
      simp

/-- The text of a list of lines. -/
def layoutText (ls : List Str) : Str :=
  Str.strip (Str.join [CodePoint.lf] (collapse true ls))

/-- Normalization lays out the lines of the text. -/
theorem normalizeText_eq (rawText : Str) :
    normalizeText rawText = layoutText (textLines rawText) := by
  rw [normalizeText, foldl_add]
  rfl

/-- After a blank line the loop is in its first state again. -/
theorem collapse_append_blank {line : Str} (hline : BlankLine line) (suppress : Bool)
    (a b : List Str) :
    collapse suppress (a ++ line :: b) = collapse suppress (a ++ [line]) ++ collapse true b := by
  induction a generalizing suppress with
  | nil => simp [collapse_blank hline]
  | cons first a ih =>
    rw [List.cons_append, List.cons_append]
    by_cases hfirst : BlankLine first
    · rw [collapse_blank hfirst, collapse_blank hfirst, ih, List.append_assoc]
    · rw [collapse_line hfirst, collapse_line hfirst, ih, List.cons_append]

/-- A last blank line adds at most an empty line. -/
theorem collapse_concat_blank {line : Str} (hline : BlankLine line) (suppress : Bool)
    (a : List Str) :
    ∃ tail, (tail = [] ∨ tail = [[]]) ∧
      collapse suppress (a ++ [line]) = collapse suppress a ++ tail := by
  induction a generalizing suppress with
  | nil =>
    refine ⟨if suppress then [] else [[]], ?_, by simp [collapse_blank hline]⟩
    cases suppress with
    | true => exact .inl rfl
    | false => exact .inr rfl
  | cons first a ih =>
    rw [List.cons_append]
    by_cases hfirst : BlankLine first
    · obtain ⟨tail, htail, heq⟩ := ih true
      exact ⟨tail, htail, by simp [collapse_blank hfirst, heq]⟩
    · obtain ⟨tail, htail, heq⟩ := ih false
      exact ⟨tail, htail, by simp [collapse_line hfirst, heq]⟩

/-- Lines that have been laid out are laid out in the same way again. -/
theorem collapse_collapse (suppress : Bool) (ls : List Str) :
    collapse suppress (collapse suppress ls) = collapse suppress ls := by
  have hempty : BlankLine [] := rfl
  induction ls generalizing suppress with
  | nil => rfl
  | cons line rest ih =>
    by_cases hline : BlankLine line
    · cases suppress with
      | true => simp [collapse_blank hline, ih]
      | false => simp [collapse_blank hline, collapse_blank hempty, ih]
    · have hrstrip : Str.rstrip (Str.rstrip line) = Str.rstrip line :=
        List.rdropWhile_idempotent _ _
      have hline' : ¬ BlankLine (Str.rstrip line) := by
        rwa [BlankLine, hrstrip]
      rw [collapse_line hline, collapse_line hline', hrstrip, ih]

/-- A line feed is blank. -/
theorem blank_lf : Blank CodePoint.isSpace [CodePoint.lf] := by
  simp [Blank, CodePoint.isSpace_lf]

/-- White space joins the texts of two lists of lines. -/
theorem join_append (a b : List Str) :
    ∃ w, Blank CodePoint.isSpace w ∧
      Str.join [CodePoint.lf] (a ++ b) =
        Str.join [CodePoint.lf] a ++ w ++ Str.join [CodePoint.lf] b := by
  unfold Str.join
  induction a with
  | nil => exact ⟨[], .nil, rfl⟩
  | cons line a ih =>
    obtain ⟨w, hw, heq⟩ := ih
    by_cases hboth : a ++ b = []
    · obtain ⟨rfl, rfl⟩ := List.append_eq_nil_iff.mp hboth
      exact ⟨[], .nil, by simp⟩
    rw [List.cons_append, List.intercalate_cons_of_ne_nil hboth, heq]
    by_cases ha : a = []
    · subst ha
      exact ⟨[CodePoint.lf] ++ w, blank_lf.append hw, by simp⟩
    · exact ⟨w, hw, by rw [List.intercalate_cons_of_ne_nil ha]; simp⟩

/-- The text on the two sides of a blank line. -/
theorem layoutText_append_blank {line : Str} (hline : BlankLine line) (a b : List Str) :
    ∃ g, Blank CodePoint.isSpace g ∧
      layoutText (a ++ line :: b) = layoutText (a ++ [line]) ++ g ++ layoutText b := by
  unfold layoutText
  rw [collapse_append_blank hline]
  obtain ⟨w, hw, heq⟩ := join_append (collapse true (a ++ [line])) (collapse true b)
  rw [heq]
  obtain ⟨g, hg, htrim⟩ := trim_append CodePoint.isSpace
    (Str.join [CodePoint.lf] (collapse true (a ++ [line])) ++ w)
    (Str.join [CodePoint.lf] (collapse true b))
  rw [hw.trim_append_right] at htrim
  exact ⟨g, hg, htrim⟩

/-- A last blank line does not show. -/
theorem layoutText_concat_blank {line : Str} (hline : BlankLine line) (a : List Str) :
    layoutText (a ++ [line]) = layoutText a := by
  unfold layoutText
  obtain ⟨tail, htail, hcollapse⟩ := collapse_concat_blank hline true a
  obtain ⟨w, hw, heq⟩ := join_append (collapse true a) tail
  have hnil : Str.join [CodePoint.lf] tail = [] := by
    rcases htail with rfl | rfl
    · rfl
    · rfl
  rw [hcollapse, heq, hnil, List.append_nil]
  exact hw.trim_append_right _

/-! ## Line endings -/

/-- A line feed is not a carriage return. -/
theorem lf_ne_cr : CodePoint.lf ≠ CodePoint.cr := by decide

/-- The two replacements of line endings in one pass: a carriage return ends a line, and a
line feed behind it belongs to the same ending. -/
def unifyEndings : Bool → Str → Str
  | _, [] => []
  | afterReturn, c :: rest =>
    if c = CodePoint.cr then CodePoint.lf :: unifyEndings true rest
    else if c = CodePoint.lf ∧ afterReturn = true then unifyEndings false rest
    else c :: unifyEndings false rest

/-- The replacement of carriage returns works letter by letter. -/
theorem replace_cr (s : Str) :
    Str.replace [CodePoint.cr] [CodePoint.lf] s =
      s.map fun c => if c = CodePoint.cr then CodePoint.lf else c := by
  unfold Str.replace
  induction s with
  | nil => rfl
  | cons c rest ih =>
    by_cases hc : c = CodePoint.cr
    · simp [Str.replaceFrom, hc, ih]
    · simp [Str.replaceFrom, hc, Ne.symm hc, ih]

/-- The state behind a carriage return matters for a line feed alone. -/
theorem unifyEndings_true {s : Str} (h : ∀ rest, s ≠ CodePoint.lf :: rest) :
    unifyEndings true s = unifyEndings false s := by
  cases s with
  | nil => rfl
  | cons c rest =>
    have hc : c ≠ CodePoint.lf := fun hc => h rest (by rw [hc])
    simp [unifyEndings, hc]

/-- Both replacements together unify the line ends. -/
theorem replace_crlf (s : Str) :
    (Str.replaceFrom [CodePoint.cr, CodePoint.lf] [CodePoint.lf] 0 s).map
      (fun c => if c = CodePoint.cr then CodePoint.lf else c) = unifyEndings false s := by
  match s with
  | [] => rfl
  | [c] =>
    by_cases hc : c = CodePoint.cr
    · simp [Str.replaceFrom, unifyEndings, hc]
    · simp [Str.replaceFrom, unifyEndings, hc]
  | c :: d :: rest =>
    have hrest := replace_crlf rest
    have htail := replace_crlf (d :: rest)
    by_cases hc : c = CodePoint.cr
    · by_cases hd : d = CodePoint.lf
      · rw [hc, hd]
        simpa [Str.replaceFrom, unifyEndings, lf_ne_cr] using hrest
      · have hnext : ∀ tail, d :: rest ≠ CodePoint.lf :: tail := fun tail heq =>
          hd (List.cons.inj heq).1
        rw [hc, unifyEndings, if_pos rfl, unifyEndings_true hnext, ← htail, Str.replaceFrom,
          if_neg (by simp [Ne.symm hd]), List.map_cons, if_pos rfl]
    · rw [unifyEndings, if_neg hc, if_neg (by simp), ← htail, Str.replaceFrom,
        if_neg (by simp [Ne.symm hc]), List.map_cons, if_neg hc]

/-- The lines of a text are read from its unified endings. -/
theorem textLines_eq (rawText : Str) :
    textLines rawText = (unifyEndings false rawText).splitOn CodePoint.lf := by
  rw [textLines, replace_cr, Str.replace, replace_crlf]

/-- The endings of a text after which more text follows. -/
theorem unifyEndings_append (afterReturn : Bool) (x y : Str) :
    ∃ afterReturn', unifyEndings afterReturn (x ++ y) =
        unifyEndings afterReturn x ++ unifyEndings afterReturn' y ∧
      (afterReturn' = true → (x = [] ∧ afterReturn = true) ∨
        ∃ v, unifyEndings afterReturn x = v ++ [CodePoint.lf]) := by
  induction x generalizing afterReturn with
  | nil => exact ⟨afterReturn, rfl, fun h => .inl ⟨rfl, h⟩⟩
  | cons c x ih =>
    rw [List.cons_append, unifyEndings, unifyEndings]
    by_cases hc : c = CodePoint.cr
    · rw [if_pos hc, if_pos hc]
      obtain ⟨afterReturn', heq, hlast⟩ := ih true
      refine ⟨afterReturn', by rw [heq]; rfl, fun h => .inr ?_⟩
      rcases hlast h with ⟨rfl, -⟩ | ⟨v, hv⟩
      · exact ⟨[], rfl⟩
      · exact ⟨CodePoint.lf :: v, by rw [hv]; rfl⟩
    rw [if_neg hc, if_neg hc]
    obtain ⟨afterReturn', heq, hlast⟩ := ih false
    have hlast' : afterReturn' = true → ∃ v, unifyEndings false x = v ++ [CodePoint.lf] := by
      intro h
      rcases hlast h with ⟨-, hfalse⟩ | hv
      · cases hfalse
      · exact hv
    by_cases hskip : c = CodePoint.lf ∧ afterReturn = true
    · rw [if_pos hskip, if_pos hskip]
      exact ⟨afterReturn', heq, fun h => .inr (hlast' h)⟩
    · rw [if_neg hskip, if_neg hskip]
      refine ⟨afterReturn', by rw [heq]; rfl, fun h => .inr ?_⟩
      obtain ⟨v, hv⟩ := hlast' h
      exact ⟨c :: v, by rw [hv]; rfl⟩

/-- The lines of two texts with a blank line between them. A carriage return at the end of
the first text and the first line feed of the separator are one line ending. -/
theorem textLines_append (x y : Str) :
    ∃ a, textLines (x ++ CodePoint.lf :: CodePoint.lf :: y) = a ++ [] :: textLines y ∧
      (textLines x = a ∨ textLines x = a ++ [[]]) := by
  simp only [textLines_eq]
  obtain ⟨afterReturn, heq, hlast⟩ :=
    unifyEndings_append false x (CodePoint.lf :: CodePoint.lf :: y)
  rw [heq]
  cases afterReturn with
  | false =>
    refine ⟨(unifyEndings false x).splitOn CodePoint.lf, ?_, .inl rfl⟩
    have hy : unifyEndings false (CodePoint.lf :: CodePoint.lf :: y) =
        CodePoint.lf :: CodePoint.lf :: unifyEndings false y := by
      simp [unifyEndings, lf_ne_cr]
    rw [hy, List.splitOn_append_cons_self]
    simp [List.splitOn_cons_eq_if_modifyHead]
  | true =>
    rcases hlast rfl with ⟨-, hfalse⟩ | ⟨v, hv⟩
    · cases hfalse
    have hy : unifyEndings true (CodePoint.lf :: CodePoint.lf :: y) =
        CodePoint.lf :: unifyEndings false y := by
      simp [unifyEndings, lf_ne_cr]
    refine ⟨v.splitOn CodePoint.lf, ?_, .inr ?_⟩
    · rw [hy, List.splitOn_append_cons_self, hv, List.splitOn_append_cons_self]
      simp
    · rw [hv, List.splitOn_append_cons_self]
      simp

/-- Two texts with a blank line between them are normalized independently. -/
theorem normalizeText_append (x y : Str) :
    ∃ g, Blank CodePoint.isSpace g ∧
      normalizeText (x ++ CodePoint.lf :: CodePoint.lf :: y) =
        normalizeText x ++ g ++ normalizeText y := by
  have hempty : BlankLine [] := rfl
  simp only [normalizeText_eq]
  obtain ⟨a, hlines, hx⟩ := textLines_append x y
  obtain ⟨g, hg, htext⟩ := layoutText_append_blank hempty a (textLines y)
  refine ⟨g, hg, ?_⟩
  rw [hlines, htext, layoutText_concat_blank hempty]
  rcases hx with hx | hx
  · rw [hx]
  · rw [hx, layoutText_concat_blank hempty]

/-! ## White space at the ends -/

/-- White space at the end of a line is stripped. -/
theorem rstrip_concat {c : CodePoint} (hc : c.isSpace = true) (line : Str) :
    Str.rstrip (line ++ [c]) = Str.rstrip line :=
  List.rdropWhile_concat_pos _ _ _ hc

/-- Stripping a line and stripping what stands behind its first character. -/
theorem rstrip_cons (c : CodePoint) (line : Str) :
    Str.rstrip (c :: line) =
      if Str.rstrip line = [] then Str.rstrip [c] else c :: Str.rstrip line := by
  rcases blank_or_middle CodePoint.isSpace line with hline | ⟨a, m, b, rfl, -, hm, hb⟩
  · have hnil : Str.rstrip line = [] := List.rdropWhile_eq_nil_iff.mpr hline
    rw [if_pos hnil]
    exact hline.rdropWhile_append [c]
  · have hstrip : Str.rstrip (a ++ m ++ b) = a ++ m := by
      unfold Str.rstrip
      rw [hb.rdropWhile_append, hm.rdropWhile_append]
    rw [hstrip, if_neg (by simp [hm.ne_nil])]
    have hcons : c :: (a ++ m ++ b) = (c :: a) ++ m ++ b := rfl
    unfold Str.rstrip
    rw [hcons, hb.rdropWhile_append, hm.rdropWhile_append]
    rfl

/-- Only the stripped lines matter. -/
theorem collapse_congr {ls ls' : List Str} (h : ls.map Str.rstrip = ls'.map Str.rstrip)
    (suppress : Bool) : collapse suppress ls = collapse suppress ls' := by
  induction ls generalizing ls' suppress with
  | nil =>
    cases ls' with
    | nil => rfl
    | cons line' rest' => cases h
  | cons line rest ih =>
    cases ls' with
    | nil => cases h
    | cons line' rest' =>
      obtain ⟨hline, hrest⟩ := List.cons.inj h
      have hiff : BlankLine line ↔ BlankLine line' := by rw [BlankLine, hline, BlankLine]
      by_cases hblank : BlankLine line
      · rw [collapse_blank hblank, collapse_blank (hiff.mp hblank), ih hrest]
      · rw [collapse_line hblank, collapse_line (mt hiff.mpr hblank), ih hrest, hline]

/-- White space behind a text changes its last line only. -/
theorem map_rstrip_splitOn_concat {c : CodePoint} (hc : c.isSpace = true)
    (hlf : c ≠ CodePoint.lf) (s : Str) :
    ((s ++ [c]).splitOn CodePoint.lf).map Str.rstrip =
      (s.splitOn CodePoint.lf).map Str.rstrip := by
  induction s with
  | nil =>
    rw [List.nil_append, List.splitOn_eq_singleton (by simp [Ne.symm hlf]), List.splitOn_nil]
    exact congrArg (fun line => [line]) (rstrip_concat hc [])
  | cons d s ih =>
    rw [List.cons_append, List.splitOn_cons_eq_if_modifyHead, List.splitOn_cons_eq_if_modifyHead]
    split
    · rw [List.map_cons, List.map_cons, ih]
    · obtain ⟨line, rest, hs⟩ := List.exists_cons_of_ne_nil (List.splitOn_ne_nil CodePoint.lf s)
      obtain ⟨line', rest', hs'⟩ :=
        List.exists_cons_of_ne_nil (List.splitOn_ne_nil CodePoint.lf (s ++ [c]))
      rw [hs, hs', List.map_cons, List.map_cons] at ih
      obtain ⟨hline, hrest⟩ := List.cons.inj ih
      rw [hs, hs', List.modifyHead_cons, List.modifyHead_cons, List.map_cons, List.map_cons,
        rstrip_cons d line', rstrip_cons d line, hline, hrest]

/-- A last white-space character does not show. -/
theorem normalizeText_concat {c : CodePoint} (hc : c.isSpace = true) (s : Str) :
    normalizeText (s ++ [c]) = normalizeText s := by
  have hempty : BlankLine [] := rfl
  rw [normalizeText_eq, normalizeText_eq, textLines_eq, textLines_eq]
  obtain ⟨afterReturn, heq, -⟩ := unifyEndings_append false s [c]
  rw [heq]
  have hlf : ∀ t : Str, layoutText ((t ++ [CodePoint.lf]).splitOn CodePoint.lf) =
      layoutText (t.splitOn CodePoint.lf) := by
    intro t
    rw [List.splitOn_append_cons_self, List.splitOn_nil, layoutText_concat_blank hempty]
  by_cases hcr : c = CodePoint.cr
  · rw [show unifyEndings afterReturn [c] = [CodePoint.lf] by simp [unifyEndings, hcr], hlf]
  by_cases hskip : c = CodePoint.lf ∧ afterReturn = true
  · rw [show unifyEndings afterReturn [c] = [] by simp [unifyEndings, hskip, lf_ne_cr],
      List.append_nil]
  rw [show unifyEndings afterReturn [c] = [c] by simp [unifyEndings, hcr, hskip]]
  by_cases hline : c = CodePoint.lf
  · rw [hline, hlf]
  · unfold layoutText
    rw [collapse_congr (map_rstrip_splitOn_concat hc hline _)]

/-- A line is blank if it is white space. -/
theorem blankLine_iff (line : Str) : BlankLine line ↔ Blank CodePoint.isSpace line := by
  constructor
  · intro hline
    rcases blank_or_middle CodePoint.isSpace line with hblank | ⟨a, m, b, rfl, ha, hm, hb⟩
    · exact hblank
    · have hstrip : Str.rstrip (a ++ m ++ b) = a ++ m ++ [] := by
        unfold Str.rstrip
        rw [hb.rdropWhile_append, hm.rdropWhile_append, List.append_nil]
      rw [BlankLine, hstrip] at hline
      exact absurd ((hm.trim_eq ha .nil).symm.trans hline) hm.ne_nil
  · intro hblank
    rw [BlankLine, Str.rstrip, List.rdropWhile_eq_nil_iff.mpr hblank]
    rfl

/-- White space in front of the first line does not show. -/
theorem layoutText_indent {c : CodePoint} (hc : c.isSpace = true) (line : Str)
    (rest : List Str) : layoutText ((c :: line) :: rest) = layoutText (line :: rest) := by
  have hsingle : Blank CodePoint.isSpace [c] := by simp [Blank, hc]
  unfold layoutText
  by_cases hline : BlankLine line
  · have hline' : BlankLine (c :: line) :=
      (blankLine_iff _).mpr (hsingle.append ((blankLine_iff _).mp hline))
    rw [collapse_blank hline, collapse_blank hline']
  · have hline' : ¬ BlankLine (c :: line) := fun h =>
      hline ((blankLine_iff _).mpr fun x hx => (blankLine_iff _).mp h x (by simp [hx]))
    have hne : Str.rstrip line ≠ [] := fun h => hline (by rw [BlankLine, h]; rfl)
    rw [collapse_line hline, collapse_line hline', rstrip_cons, if_neg hne, Str.join,
      List.intercalate_cons_cons_left]
    exact hsingle.trim_append_left _

/-- A first white-space character does not show. -/
theorem normalizeText_cons {c : CodePoint} (hc : c.isSpace = true) (s : Str) :
    normalizeText (c :: s) = normalizeText s := by
  have hlf : ∀ t : Str, layoutText ((CodePoint.lf :: t).splitOn CodePoint.lf) =
      layoutText (t.splitOn CodePoint.lf) := by
    intro t
    rw [List.splitOn_cons_eq_if_modifyHead, if_pos (beq_self_eq_true _)]
    unfold layoutText
    rw [collapse_blank (show BlankLine [] from rfl)]
    rfl
  rw [normalizeText_eq, normalizeText_eq, textLines_eq, textLines_eq, unifyEndings]
  by_cases hcr : c = CodePoint.cr
  · rw [if_pos hcr]
    by_cases hnext : ∃ rest, s = CodePoint.lf :: rest
    · obtain ⟨rest, rfl⟩ := hnext
      simp [unifyEndings, lf_ne_cr]
    · rw [unifyEndings_true fun rest h => hnext ⟨rest, h⟩, hlf]
  rw [if_neg hcr, if_neg (by simp)]
  by_cases hline : c = CodePoint.lf
  · rw [hline, hlf]
  · obtain ⟨line, rest, hs⟩ := List.exists_cons_of_ne_nil
      (List.splitOn_ne_nil CodePoint.lf (unifyEndings false s))
    rw [List.splitOn_cons_eq_if_modifyHead, if_neg (by simp [hline]), hs, List.modifyHead_cons,
      layoutText_indent hc]

/-- White space at the ends of a text does not show. -/
theorem normalizeText_margins {a b : Str} (ha : Blank CodePoint.isSpace a)
    (hb : Blank CodePoint.isSpace b) (s : Str) :
    normalizeText (a ++ s ++ b) = normalizeText s := by
  have hright : normalizeText (s ++ b) = normalizeText s := by
    induction b using List.reverseRecOn with
    | nil => rw [List.append_nil]
    | append_singleton b c ih =>
      rw [← List.append_assoc, normalizeText_concat (hb c (by simp)),
        ih fun x hx => hb x (by simp [hx])]
  rw [List.append_assoc]
  induction a with
  | nil => exact hright
  | cons c a ih =>
    rw [List.cons_append, normalizeText_cons (ha c (by simp)), ih fun x hx => ha x (by simp [hx])]

/-! ## Normalized text -/

/-- Unified text holds no carriage return. -/
theorem unifyEndings_ne_cr (afterReturn : Bool) (s : Str) :
    ∀ c ∈ unifyEndings afterReturn s, c ≠ CodePoint.cr := by
  induction s generalizing afterReturn with
  | nil => exact fun c hc => nomatch hc
  | cons d s ih =>
    unfold unifyEndings
    split
    · exact List.forall_mem_cons.mpr ⟨lf_ne_cr, ih true⟩
    · rename_i hd
      split
      · exact ih false
      · exact List.forall_mem_cons.mpr ⟨hd, ih false⟩

/-- A text without carriage returns has unified endings. -/
theorem unifyEndings_eq_self {s : Str} (h : ∀ c ∈ s, c ≠ CodePoint.cr) :
    unifyEndings false s = s := by
  induction s with
  | nil => rfl
  | cons c s ih =>
    rw [unifyEndings, if_neg (h c (by simp)), if_neg (by simp), ih fun d hd => h d (by simp [hd])]

/-- The pieces of a text that is split at a character have the other characters of it. -/
theorem mem_splitOn {s line : Str} {x c : CodePoint} (hline : line ∈ s.splitOn x)
    (hc : c ∈ line) : c ∈ s ∧ c ≠ x := by
  induction s generalizing line with
  | nil =>
    rw [List.splitOn_nil, List.mem_singleton] at hline
    rw [hline] at hc
    cases hc
  | cons d s ih =>
    rw [List.splitOn_cons_eq_if_modifyHead] at hline
    obtain ⟨first, rest, hs⟩ := List.exists_cons_of_ne_nil (List.splitOn_ne_nil x s)
    rw [hs] at hline ih
    split at hline
    · rcases List.mem_cons.mp hline with rfl | hline
      · cases hc
      · obtain ⟨hmem, hne⟩ := ih hline hc
        exact ⟨by simp [hmem], hne⟩
    · rename_i hd
      rw [List.modifyHead_cons] at hline
      rcases List.mem_cons.mp hline with rfl | hline
      · rcases List.mem_cons.mp hc with rfl | hc
        · exact ⟨by simp, fun h => hd (by simp [h])⟩
        · obtain ⟨hmem, hne⟩ := ih List.mem_cons_self hc
          exact ⟨by simp [hmem], hne⟩
      · obtain ⟨hmem, hne⟩ := ih (List.mem_cons_of_mem _ hline) hc
        exact ⟨by simp [hmem], hne⟩

/-- The lines of a text. -/
def Str.lines (s : Str) : List Str := s.splitOn CodePoint.lf

/-- A line holds no line feed. -/
theorem Str.lf_not_mem_of_mem_lines {s line : Str} (h : line ∈ Str.lines s) :
    CodePoint.lf ∉ line :=
  fun hmem => (mem_splitOn h hmem).2 rfl

/-- A line that is laid out is empty or a stripped line. -/
theorem mem_collapse {suppress : Bool} {ls : List Str} {line : Str}
    (h : line ∈ collapse suppress ls) : line = [] ∨ ∃ line' ∈ ls, line = Str.rstrip line' := by
  induction ls generalizing suppress with
  | nil => cases h
  | cons first rest ih =>
    have hrest : (line = [] ∨ ∃ line' ∈ rest, line = Str.rstrip line') →
        line = [] ∨ ∃ line' ∈ first :: rest, line = Str.rstrip line' := by
      rintro (hnil | ⟨line', hmem, heq⟩)
      · exact .inl hnil
      · exact .inr ⟨line', List.mem_cons_of_mem _ hmem, heq⟩
    by_cases hfirst : BlankLine first
    · rw [collapse_blank hfirst] at h
      rcases List.mem_append.mp h with h | h
      · cases suppress with
        | true => cases h
        | false => exact .inl (List.mem_singleton.mp h)
      · exact hrest (ih h)
    · rw [collapse_line hfirst] at h
      rcases List.mem_cons.mp h with rfl | h
      · exact .inr ⟨first, List.mem_cons_self, rfl⟩
      · exact hrest (ih h)

/-- What a joined text holds is the separator or in a line. -/
theorem mem_join {c d : CodePoint} {ls : List Str} (h : c ∈ Str.join [d] ls) :
    c = d ∨ ∃ line ∈ ls, c ∈ line :=
  (mem_intercalate h).imp_left List.mem_singleton.mp

/-- The lines of a text that has been laid out have no line endings in them. -/
theorem mem_collapse_textLines {rawText line : Str} {c : CodePoint}
    (hline : line ∈ collapse true (textLines rawText)) (hc : c ∈ line) :
    c ≠ CodePoint.cr ∧ c ≠ CodePoint.lf := by
  rcases mem_collapse hline with rfl | ⟨line', hline', rfl⟩
  · cases hc
  · rw [textLines_eq] at hline'
    obtain ⟨hmem, hne⟩ := mem_splitOn hline' ((List.rdropWhile_prefix _ _).mem hc)
    exact ⟨unifyEndings_ne_cr false rawText c hmem, hne⟩

/-- Normalized text is normalized. -/
theorem normalizeText_normalizeText (rawText : Str) :
    normalizeText (normalizeText rawText) = normalizeText rawText := by
  have hfirst := normalizeText_eq rawText
  rw [layoutText] at hfirst
  obtain ⟨a, b, ha, hb, hjoin⟩ := exists_margins CodePoint.isSpace
    (Str.join [CodePoint.lf] (collapse true (textLines rawText)))
  have hstrip : normalizeText (normalizeText rawText) =
      normalizeText (Str.join [CodePoint.lf] (collapse true (textLines rawText))) := by
    have hmargins := normalizeText_margins ha hb
      (trim CodePoint.isSpace (Str.join [CodePoint.lf] (collapse true (textLines rawText))))
    rw [← hjoin] at hmargins
    rw [hfirst]
    exact hmargins.symm
  by_cases hnil : collapse true (textLines rawText) = []
  · rw [hstrip, hfirst, hnil]
    rfl
  have hlines : textLines (Str.join [CodePoint.lf] (collapse true (textLines rawText))) =
      collapse true (textLines rawText) := by
    rw [textLines_eq, unifyEndings_eq_self, Str.join, List.splitOn_intercalate _ _ hnil]
    · exact fun line hline hc => (mem_collapse_textLines hline hc).2 rfl
    · intro c hc
      rcases mem_join hc with rfl | ⟨line, hline, hc⟩
      · exact lf_ne_cr
      · exact (mem_collapse_textLines hline hc).1
  rw [hstrip, normalizeText_eq, hlines, layoutText, collapse_collapse, hfirst]

/-- The characters of a text that are not line endings are kept by the replacements. -/
theorem mem_unifyEndings {c : CodePoint} (hcr : c ≠ CodePoint.cr) (hlf : c ≠ CodePoint.lf)
    (afterReturn : Bool) {s : Str} (h : c ∈ s) : c ∈ unifyEndings afterReturn s := by
  induction s generalizing afterReturn with
  | nil => cases h
  | cons d s ih =>
    unfold unifyEndings
    rcases List.mem_cons.mp h with rfl | h
    · rw [if_neg hcr, if_neg fun hskip => hlf hskip.1]
      exact List.mem_cons_self
    · split
      · exact List.mem_cons_of_mem _ (ih true h)
      · split
        · exact ih false h
        · exact List.mem_cons_of_mem _ (ih false h)

/-- A line that is not blank is laid out. -/
theorem rstrip_mem_collapse {ls : List Str} {line : Str} (hmem : line ∈ ls)
    (hline : ¬ BlankLine line) (suppress : Bool) :
    Str.rstrip line ∈ collapse suppress ls := by
  induction ls generalizing suppress with
  | nil => cases hmem
  | cons first rest ih =>
    by_cases hfirst : BlankLine first
    · rw [collapse_blank hfirst]
      rcases List.mem_cons.mp hmem with rfl | hmem
      · exact absurd hfirst hline
      · exact List.mem_append_right _ (ih hmem true)
    · rw [collapse_line hfirst]
      rcases List.mem_cons.mp hmem with rfl | hmem
      · exact List.mem_cons_self
      · exact List.mem_cons_of_mem _ (ih hmem false)

/-- What a line holds is in the joined text. -/
theorem mem_join_of_mem {c : CodePoint} {line : Str} {ls : List Str} (sep : Str)
    (hline : line ∈ ls) (hc : c ∈ line) : c ∈ Str.join sep ls := by
  unfold Str.join
  induction ls with
  | nil => cases hline
  | cons first rest ih =>
    by_cases hrest : rest = []
    · subst hrest
      rwa [List.intercalate_singleton, ← List.mem_singleton.mp hline]
    rw [List.intercalate_cons_of_ne_nil hrest, List.mem_append, List.mem_append]
    rcases List.mem_cons.mp hline with rfl | hline
    · exact .inl (.inl hc)
    · exact .inr (ih hline)

/-- A line that is not blank shows in the text. -/
theorem layoutText_ne_nil {ls : List Str} {line : Str} (hmem : line ∈ ls)
    (hline : ¬ BlankLine line) : layoutText ls ≠ [] := by
  intro hnil
  have hblank : Blank CodePoint.isSpace (Str.join [CodePoint.lf] (collapse true ls)) :=
    trim_eq_nil_iff.mp hnil
  exact hline (Blank.trim_eq fun c hc =>
    hblank c (mem_join_of_mem _ (rstrip_mem_collapse hmem hline true) hc))

/-- Only white space is normalized to nothing. -/
theorem normalizeText_eq_nil_iff (s : Str) : normalizeText s = [] ↔ Blank CodePoint.isSpace s := by
  constructor
  · intro hnil c hc
    by_contra hspace
    have hcr : c ≠ CodePoint.cr := by
      rintro rfl
      exact hspace CodePoint.isSpace_cr
    have hlf : c ≠ CodePoint.lf := by
      rintro rfl
      exact hspace CodePoint.isSpace_lf
    have hmem := mem_unifyEndings hcr hlf false hc
    have hjoin : unifyEndings false s =
        Str.join [CodePoint.lf] ((unifyEndings false s).splitOn CodePoint.lf) :=
      (List.intercalate_splitOn CodePoint.lf).symm
    rw [hjoin] at hmem
    rcases mem_join hmem with hc | ⟨line, hline, hc⟩
    · exact hlf hc
    rw [normalizeText_eq, textLines_eq] at hnil
    exact layoutText_ne_nil hline (fun h => hspace ((blankLine_iff line).mp h c hc)) hnil
  · intro hblank
    have hmargins := normalizeText_margins hblank Blank.nil []
    rw [List.append_nil, List.append_nil] at hmargins
    rw [hmargins]
    rfl

end AssessmentPlatform
