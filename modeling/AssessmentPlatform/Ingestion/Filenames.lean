import AssessmentPlatform.Ingestion.ParsedDocument
import AssessmentPlatform.Library.Keyed
import AssessmentPlatform.Rag.Normalization

/-!
# The names of uploaded files

`sanitize_filename` bounds the name of an upload, and the router selects the parser by what stands
behind the last dot of the bounded name. A long name keeps its extension and loses the end of its
stem. A name that ends with a dot has no extension: it is cut where it is, and an extension may
stand there.
-/

namespace AssessmentPlatform

open Library

/-! ## The source -/

/-- The characters that `CONTROL_CHARACTERS` matches. -/
def CodePoint.isControl (c : CodePoint) : Bool := c.val ≤ 31 || c.val == 127

/-- `sanitize_filename`. -/
def sanitizeFilename (value : Option Str) : Except Failure Str :=
  let path := (value.getD []).map fun c => if c = 92 then 47 else c
  let candidate := (Str.strip ((path.splitOn 47).getLast?.getD [])).filter fun c => !c.isControl
  if candidate = [] ∨ candidate = "." ∨ candidate = ".." then
    .error (.application .unsupportedFileType)
  else
    let suffix := (PurePath.suffix candidate).drop ((PurePath.suffix candidate).length - 20)
    .ok (if 255 < candidate.length then
      (PurePath.stem candidate).take (255 - suffix.length) ++ suffix else candidate)

/-- What `str.casefold` makes of one character: at least one character, and of an ASCII letter its
lower-case letter. -/
structure CaseFolding where
  fold : CodePoint → Str
  fold_ne_nil : ∀ c, fold c ≠ []
  fold_ascii : ∀ c : CodePoint, c.val < 128 →
    fold c = [if 65 ≤ c.val ∧ c.val ≤ 90 then c + 32 else c]

/-- `str.casefold`. -/
def CaseFolding.casefold (folding : CaseFolding) (s : Str) : Str := s.flatMap folding.fold

/-- `FORMAT_BY_EXTENSION`. -/
def formatByExtension (extension : Str) : Option FileFormat :=
  if extension = ".pdf" then some .pdf
  else if extension = ".docx" then some .docx
  else if extension = ".txt" then some .txt
  else if extension = ".md" then some .markdown
  else if extension = ".markdown" then some .markdown
  else none

/-- `MIME_TYPES`. -/
def mimeTypes (extension : Str) : List Str :=
  if extension = ".pdf" then ["application/pdf", "application/x-pdf"]
  else if extension = ".docx" then
    ["application/vnd.openxmlformats-officedocument.wordprocessingml.document"]
  else if extension = ".txt" then ["text/plain"]
  else if extension = ".md" then ["text/markdown", "text/x-markdown", "text/plain"]
  else if extension = ".markdown" then ["text/markdown", "text/x-markdown", "text/plain"]
  else []

/-- The extension that `select` reads from a file name. -/
def foldedExtension (folding : CaseFolding) (filename : Str) : Str :=
  folding.casefold (PurePath.suffix filename)

/-- The format that `select` looks up for a file name. -/
def selectedFormat (folding : CaseFolding) (filename : Str) : Option FileFormat :=
  formatByExtension (foldedExtension folding filename)

/-- `_is_docx_package`; `namelist` has the names of a ZIP archive, or nothing for data that the
archive refuses with `BadZipFile` or `OSError`. -/
def isDocxPackage (namelist : List UInt8 → Except Failure (Option (List Str)))
    (data : List UInt8) : Except Failure Bool :=
  if [0x50, 0x4B].isPrefixOf data then
    match namelist data with
    | .ok (some names) => .ok (("[Content_Types].xml" : Str) ∈ names ∧
        ("word/document.xml" : Str) ∈ names : Bool)
    | .ok none => .ok false
    | .error failure => .error failure
  else .ok false

/-- The parsers of a router with their formats. -/
structure DocumentParserRouter (π : Type) where
  fileFormat : π → FileFormat
  parsers : List π

/-- `DocumentParserRouter.select`. -/
def DocumentParserRouter.select {π : Type} (router : DocumentParserRouter π)
    (folding : CaseFolding) (namelist : List UInt8 → Except Failure (Option (List Str)))
    (filename : Str) (mimeType : Option Str) (data : List UInt8) : Except Failure π := do
  if data = [] then throw (.application .emptyFile)
  let extension := foldedExtension folding filename
  let normalizedMime := folding.casefold (Str.strip ((mimeType.getD []).takeWhile (· ≠ 59)))
  match formatByExtension extension with
  | none => throw (.application .unsupportedFileType)
  | some fileFormat =>
    if normalizedMime ∉ mimeTypes extension then throw (.application .unsupportedFileType)
    if fileFormat = .pdf ∧ [0x25, 0x50, 0x44, 0x46, 0x2D].isPrefixOf data = false then
      throw (.application .unsupportedFileType)
    if fileFormat = .docx then
      if !(← isDocxPackage namelist data) then throw (.application .unsupportedFileType)
    if (fileFormat = .txt ∨ fileFormat = .markdown) ∧ 0 ∈ data then
      throw (.application .unsupportedFileType)
    match getBy router.fileFormat fileFormat (dictBy router.fileFormat router.parsers) with
    | none => throw (.application .unsupportedFileType)
    | some parser => return parser

/-- The base name of an upload without its control characters. -/
def uploadBasename (value : Option Str) : Str :=
  let path := (value.getD []).map fun c => if c = 92 then 47 else c
  (Str.strip ((path.splitOn 47).getLast?.getD [])).filter fun c => !c.isControl

/-- What a base name is shortened to. -/
def shortenFilename (candidate : Str) : Str :=
  let suffix := (PurePath.suffix candidate).drop ((PurePath.suffix candidate).length - 20)
  if 255 < candidate.length then (PurePath.stem candidate).take (255 - suffix.length) ++ suffix
  else candidate

/-- When a name is refused, and what is returned for it otherwise. -/
theorem sanitizeFilename_eq (value : Option Str) :
    sanitizeFilename value =
      if uploadBasename value = [] ∨ uploadBasename value = "." ∨ uploadBasename value = ".." then
        .error (.application .unsupportedFileType)
      else .ok (shortenFilename (uploadBasename value)) := rfl

/-! ## Formats -/

/-- The extensions of a format. -/
def FileFormat.extensions : FileFormat → List Str
  | .pdf => [".pdf"]
  | .docx => [".docx"]
  | .txt => [".txt"]
  | .markdown => [".md", ".markdown"]

/-- An extension belongs to the format that is found for it. -/
theorem mem_extensions {extension : Str} {fileFormat : FileFormat}
    (h : formatByExtension extension = some fileFormat) :
    extension ∈ fileFormat.extensions := by
  unfold formatByExtension at h
  split_ifs at h with hpdf hdocx htxt hmd hmarkdown <;> cases h <;>
    simp [FileFormat.extensions, *]

/-- The extensions of a format have the same MIME types. -/
theorem mimeTypes_eq {extension extension' : Str} {fileFormat : FileFormat}
    (h : formatByExtension extension = some fileFormat)
    (h' : formatByExtension extension' = some fileFormat) :
    mimeTypes extension = mimeTypes extension' := by
  have hall : ∀ e ∈ fileFormat.extensions, ∀ e' ∈ fileFormat.extensions,
      mimeTypes e = mimeTypes e' := by
    cases fileFormat <;> decide +kernel
  exact hall _ (mem_extensions h) _ (mem_extensions h')

/-- The extensions are short. -/
theorem length_le_of_formatByExtension {extension : Str} {fileFormat : FileFormat}
    (h : formatByExtension extension = some fileFormat) : extension.length ≤ 9 := by
  have hall : ∀ e ∈ fileFormat.extensions, e.length ≤ 9 := by
    cases fileFormat <;> decide +kernel
  exact hall _ (mem_extensions h)

/-- The router sees nothing of a file name but its format. -/
theorem DocumentParserRouter.select_congr {π : Type} (router : DocumentParserRouter π)
    {folding : CaseFolding} (namelist : List UInt8 → Except Failure (Option (List Str)))
    {filename filename' : Str}
    (h : selectedFormat folding filename = selectedFormat folding filename')
    (mimeType : Option Str) (data : List UInt8) :
    router.select folding namelist filename mimeType data =
      router.select folding namelist filename' mimeType data := by
  unfold selectedFormat at h
  unfold DocumentParserRouter.select
  dsimp only
  cases hformat : formatByExtension (foldedExtension folding filename') with
  | none => rw [h, hformat]
  | some fileFormat => rw [h, hformat, mimeTypes_eq (h.trans hformat) hformat]

/-- Folding the case shortens no text. -/
theorem CaseFolding.length_le_casefold (folding : CaseFolding) (s : Str) :
    s.length ≤ (folding.casefold s).length := by
  unfold casefold
  induction s with
  | nil => exact Nat.zero_le _
  | cons c s ih =>
    have hpos := List.length_pos_of_ne_nil (folding.fold_ne_nil c)
    rw [List.flatMap_cons, List.length_cons, List.length_append]
    omega

/-- A long extension is none of those that have a format. -/
theorem selectedFormat_of_long {folding : CaseFolding} {filename : Str}
    (h : 9 < (PurePath.suffix filename).length) : selectedFormat folding filename = none := by
  cases hformat : selectedFormat folding filename with
  | none => rfl
  | some fileFormat =>
    have hshort := length_le_of_formatByExtension hformat
    have hfold := folding.length_le_casefold (PurePath.suffix filename)
    unfold foldedExtension at hshort
    omega

/-- Without a suffix there is no format. -/
theorem selectedFormat_of_suffix_nil {folding : CaseFolding} {filename : Str}
    (h : PurePath.suffix filename = []) : selectedFormat folding filename = none := by
  rw [selectedFormat, foldedExtension, h]
  rfl

/-! ## The last dot -/

namespace PurePath

/-- A plain name is its own last part. -/
theorem name_of_plain {s : Str} (hslash : 47 ∉ s) (hne : s ≠ []) (hdot : s ≠ [46]) :
    name s = s := by
  rw [name, List.splitOn_eq_singleton hslash]
  simp [hne, hdot]

/-- A name is split before its last dot, unless one side is empty. -/
theorem splitName_append (front : Str) {back : Str} (hback : 46 ∉ back) :
    splitName (front ++ 46 :: back) =
      if 0 < back.length ∧ 0 < front.length then (front, 46 :: back)
      else (front ++ 46 :: back, []) := by
  have htake : (front ++ 46 :: back).reverse.takeWhile (· ≠ 46) = back.reverse := by
    rw [List.reverse_append, List.reverse_cons, List.append_assoc,
      List.takeWhile_append_of_pos fun c hc => ?_]
    · simp
    · have hne : c ≠ 46 := by
        rintro rfl
        exact hback (List.mem_reverse.mp hc)
      simpa using hne
  have hlength : (front ++ 46 :: back).length - back.length - 1 = front.length := by
    rw [List.length_append, List.length_cons]
    omega
  rw [splitName, htake, List.length_reverse, hlength, List.take_left, List.reverse_reverse]

/-- A name without a dot is not split. -/
theorem splitName_of_not_mem {s : Str} (h : 46 ∉ s) : splitName s = (s, []) := by
  have htake : s.reverse.takeWhile (· ≠ 46) = s.reverse := by
    refine List.takeWhile_eq_self_iff.mpr fun c hc => ?_
    have hne : c ≠ 46 := by
      rintro rfl
      exact h (List.mem_reverse.mp hc)
    simpa using hne
  rw [splitName, htake, if_neg]
  simp

/-- A name with a dot has a last one. -/
theorem exists_last_dot {s : Str} (h : 46 ∈ s) :
    ∃ front back, s = front ++ 46 :: back ∧ 46 ∉ back := by
  obtain ⟨back, front, hs, hback⟩ := List.eq_append_cons_of_mem (List.mem_reverse.mpr h)
  refine ⟨front.reverse, back.reverse, ?_, by simpa using hback⟩
  rw [← List.reverse_reverse s, hs]
  simp

/-- The name has something on both sides of its last dot, which is here. -/
def DotBetween (s front back : Str) : Prop :=
  s = front ++ 46 :: back ∧ 46 ∉ back ∧ front ≠ [] ∧ back ≠ []

/-- A name has an extension if there is something on both sides of its last dot. -/
theorem splitName_cases (s : Str) :
    (splitName s = (s, []) ∧ ∀ front back, ¬DotBetween s front back) ∨
      ∃ front back, DotBetween s front back ∧ splitName s = (front, 46 :: back) := by
  by_cases hdot : ∃ front back, DotBetween s front back
  · obtain ⟨front, back, rfl, hback, hfront, hne⟩ := hdot
    refine .inr ⟨front, back, ⟨rfl, hback, hfront, hne⟩, ?_⟩
    rw [splitName_append front hback,
      if_pos ⟨List.length_pos_iff.mpr hne, List.length_pos_iff.mpr hfront⟩]
  · refine .inl ⟨?_, fun front back h => hdot ⟨front, back, h⟩⟩
    by_cases hmem : 46 ∈ s
    · obtain ⟨front, back, rfl, hback⟩ := exists_last_dot hmem
      rw [splitName_append front hback, if_neg]
      rintro ⟨hne, hfront⟩
      exact hdot ⟨front, back, rfl, hback, List.length_pos_iff.mp hfront,
        List.length_pos_iff.mp hne⟩
    · exact splitName_of_not_mem hmem

/-- A name without a dot between two parts has no suffix. -/
theorem suffix_eq_nil {s : Str} (hname : name s = s) (h : ∀ front back, ¬DotBetween s front back) :
    suffix s = [] := by
  rw [suffix, hname]
  rcases splitName_cases s with ⟨hsplit, -⟩ | ⟨front, back, hdot, -⟩
  · rw [hsplit]
  · exact absurd hdot (h front back)

/-- The suffix of a name begins with its last dot. -/
theorem DotBetween.suffix_eq {s front back : Str} (h : DotBetween s front back)
    (hname : name s = s) : suffix s = 46 :: back := by
  obtain ⟨rfl, hback, hfront, hne⟩ := h
  rw [suffix, hname, splitName_append front hback,
    if_pos ⟨List.length_pos_iff.mpr hne, List.length_pos_iff.mpr hfront⟩]

/-- Behind the last dot of a name stands everything that follows its last part without dots. -/
theorem DotBetween.length_le {front back a b : Str} (h : DotBetween (a ++ b) front back)
    (hb : 46 ∉ b) : b.length ≤ back.length := by
  rcases List.append_eq_append_iff.mp h.1 with ⟨c, -, hb'⟩ | ⟨c, -, hback⟩
  · refine absurd ?_ hb
    rw [hb']
    simp
  · cases c with
    | nil =>
      refine absurd ?_ hb
      rw [← List.nil_append b, ← hback]
      simp
    | cons d c =>
      have hlengths := congrArg List.length hback
      simp only [List.length_cons, List.cons_append, List.length_append] at hlengths
      omega

/-- A name with an extension does not end with a dot. -/
theorem DotBetween.getLast?_ne {s front back : Str} (h : DotBetween s front back) :
    s.getLast? ≠ some 46 := by
  obtain ⟨rfl, hback, -, hne⟩ := h
  obtain ⟨back', c, rfl⟩ := List.eq_nil_or_concat' back |>.resolve_left hne
  rw [List.getLast?_append_cons, ← List.cons_append, List.getLast?_concat]
  rintro ⟨⟩
  exact hback (by simp)

end PurePath

/-! ## Sanitizing -/

/-- A name that can be displayed as the name of one file. -/
structure PlainName (s : Str) : Prop where
  ne_nil : s ≠ []
  ne_dot : s ≠ "."
  ne_dots : s ≠ ".."
  no_slash : 47 ∉ s
  no_backslash : 92 ∉ s
  no_control : ∀ c ∈ s, c.isControl = false

/-- What `sanitize_filename` promises of its result. -/
structure SafeFilename (filename : Str) : Prop extends PlainName filename where
  length_le : filename.length ≤ 255

section Shortening

variable {candidate : Str}

/-- A plain candidate is its own last part. -/
theorem PlainName.name_eq (h : PlainName candidate) : PurePath.name candidate = candidate :=
  PurePath.name_of_plain h.no_slash h.ne_nil h.ne_dot

/-- A long name of the characters of a plain one is plain. -/
theorem PlainName.of_subset (h : PlainName candidate) {s : Str} (hsubset : s ⊆ candidate)
    (hlength : 2 < s.length) : PlainName s where
  ne_nil := by
    rintro rfl
    cases hlength
  ne_dot := by
    rintro rfl
    exact absurd hlength (by decide +kernel)
  ne_dots := by
    rintro rfl
    exact absurd hlength (by decide +kernel)
  no_slash hc := h.no_slash (hsubset hc)
  no_backslash hc := h.no_backslash (hsubset hc)
  no_control c hc := h.no_control c (hsubset hc)

/-- A short candidate is left as it is. -/
theorem shortenFilename_of_le (h : candidate.length ≤ 255) :
    shortenFilename candidate = candidate := by
  rw [shortenFilename, if_neg (Nat.not_lt.mpr h)]

/-- What a long name is shortened to: without an extension it is cut; with a short extension its
stem is cut; of a longer one the end is kept, without the dot. -/
inductive Shortened (candidate : Str) : Str → Prop
  | cut (hnone : ∀ front back, ¬PurePath.DotBetween candidate front back) :
      Shortened candidate (candidate.take 255)
  | kept {front back : Str} (hdot : PurePath.DotBetween candidate front back)
      (hshort : back.length < 20) :
      Shortened candidate (front.take (254 - back.length) ++ 46 :: back)
  | undotted {front back : Str} (hdot : PurePath.DotBetween candidate front back)
      (hlong : 20 ≤ back.length) :
      Shortened candidate (front.take 235 ++ back.drop (back.length - 20))

/-- A long candidate is shortened. -/
theorem PlainName.shortened (h : PlainName candidate) (hlong : 255 < candidate.length) :
    Shortened candidate (shortenFilename candidate) := by
  rw [shortenFilename, if_pos hlong, PurePath.suffix, PurePath.stem, h.name_eq]
  rcases PurePath.splitName_cases candidate with ⟨hsplit, hnone⟩ | ⟨front, back, hdot, hsplit⟩
  · rw [hsplit]
    simpa using Shortened.cut hnone
  rw [hsplit]
  dsimp only
  rw [List.length_drop, List.length_cons]
  rcases Nat.lt_or_ge back.length 20 with hshort | hback
  · rw [show back.length + 1 - 20 = 0 by omega, List.drop_zero,
      show 255 - (back.length + 1 - 0) = 254 - back.length by omega]
    exact .kept hdot hshort
  · rw [show back.length + 1 - 20 = back.length - 20 + 1 by omega, List.drop_succ_cons,
      show 255 - (back.length + 1 - (back.length - 20 + 1)) = 235 by omega]
    exact .undotted hdot hback

/-- A shortened candidate has the characters of the candidate. -/
theorem Shortened.subset {s : Str} (h : Shortened candidate s) : s ⊆ candidate := by
  intro c hc
  cases h with
  | cut => exact List.mem_of_mem_take hc
  | kept hdot hshort =>
    rw [hdot.1]
    rcases List.mem_append.mp hc with hc | hc
    · exact List.mem_append_left _ (List.mem_of_mem_take hc)
    · exact List.mem_append_right _ hc
  | undotted hdot hlong =>
    rw [hdot.1]
    rcases List.mem_append.mp hc with hc | hc
    · exact List.mem_append_left _ (List.mem_of_mem_take hc)
    · exact List.mem_append_right _ (List.mem_cons_of_mem _ (List.mem_of_mem_drop hc))

/-- The length of a shortened candidate. -/
theorem Shortened.length_between {s : Str} (h : Shortened candidate s)
    (hlong : 255 < candidate.length) : 2 < s.length ∧ s.length ≤ 255 := by
  cases h with
  | cut =>
    rw [List.length_take]
    omega
  | kept hdot hshort =>
    rw [hdot.1, List.length_append, List.length_cons] at hlong
    rw [List.length_append, List.length_take, List.length_cons]
    omega
  | undotted hdot hback =>
    rw [List.length_append, List.length_take, List.length_drop]
    omega

/-- Every plain name is shortened to a safe one. -/
theorem PlainName.safe (h : PlainName candidate) : SafeFilename (shortenFilename candidate) := by
  rcases Nat.lt_or_ge 255 candidate.length with hlong | hle
  · have hshortened := h.shortened hlong
    obtain ⟨hlt, hle⟩ := hshortened.length_between hlong
    exact ⟨h.of_subset hshortened.subset hlt, hle⟩
  · rw [shortenFilename_of_le hle]
    exact ⟨h, hle⟩

end Shortening

/-! ## Formats of shortened names -/

/-- The name ends with a dot, and its first 255 characters end with an extension that has a
format. -/
def CutBehindExtension (folding : CaseFolding) (candidate : Str) : Prop :=
  ∃ front extension rest, candidate = front ++ 46 :: extension ++ (rest ++ [46]) ∧
    front ≠ [] ∧ 46 ∉ extension ∧ (front ++ 46 :: extension).length = 255 ∧
    formatByExtension (folding.casefold (46 :: extension)) ≠ none

section Formats

variable {folding : CaseFolding} {candidate : Str}

/-- A candidate that is cut behind an extension has no dot between two parts. -/
theorem CutBehindExtension.not_dotBetween (h : CutBehindExtension folding candidate)
    (front back : Str) : ¬PurePath.DotBetween candidate front back := by
  obtain ⟨front', extension, rest, rfl, -⟩ := h
  intro hdot
  refine hdot.getLast?_ne ?_
  rw [← List.append_assoc, List.getLast?_concat]

/-- A name with two dots but without an extension ends with a dot. -/
theorem getLast?_of_no_extension {front rest : Str}
    (hnone : ∀ front' back, ¬PurePath.DotBetween (front ++ 46 :: rest) front' back)
    (hfront : front ≠ []) : (front ++ 46 :: rest).getLast? = some 46 := by
  obtain ⟨front', back, heq, hback⟩ := PurePath.exists_last_dot
    (show 46 ∈ front ++ 46 :: rest by simp)
  by_contra hlast
  refine hnone front' back ⟨heq, hback, ?_, ?_⟩
  · rintro rfl
    obtain ⟨c, front, rfl⟩ := List.exists_cons_of_ne_nil hfront
    refine hback ?_
    rw [← (List.cons.inj heq).2]
    simp
  · rintro rfl
    rw [heq] at hlast
    exact hlast List.getLast?_concat

/-- A name without an extension gets one exactly if it is cut behind one. -/
theorem selectedFormat_take_ne_none_iff (hplain : PlainName candidate)
    (hlong : 255 < candidate.length)
    (hnone : ∀ front back, ¬PurePath.DotBetween candidate front back) :
    selectedFormat folding (candidate.take 255) ≠ none ↔ CutBehindExtension folding candidate := by
  have hname : PurePath.name (candidate.take 255) = candidate.take 255 :=
    (hplain.of_subset (List.take_subset _ _) (by rw [List.length_take]; omega)).name_eq
  constructor
  · intro hformat
    rcases PurePath.splitName_cases (candidate.take 255) with ⟨-, hnot⟩ | ⟨front, back, hdot, -⟩
    · exact absurd (selectedFormat_of_suffix_nil (PurePath.suffix_eq_nil hname hnot)) hformat
    rw [selectedFormat, foldedExtension, hdot.suffix_eq hname] at hformat
    have hsplit : candidate = front ++ 46 :: back ++ candidate.drop 255 := by
      rw [← hdot.1, List.take_append_drop]
    have hdrop : candidate.drop 255 ≠ [] := by
      rw [← List.length_pos_iff, List.length_drop]
      omega
    obtain ⟨rest, c, hrest⟩ := (List.eq_nil_or_concat' _).resolve_left hdrop
    rw [hrest] at hsplit
    have hlast : candidate.getLast? = some 46 := by
      rw [hsplit, List.append_assoc, List.cons_append] at hnone ⊢
      exact getLast?_of_no_extension hnone hdot.2.2.1
    obtain rfl : c = 46 := by
      rw [hsplit, ← List.append_assoc, List.getLast?_concat] at hlast
      exact Option.some.inj hlast
    refine ⟨front, back, rest, hsplit, hdot.2.2.1, hdot.2.1, ?_, hformat⟩
    rw [← hdot.1, List.length_take]
    omega
  · rintro ⟨front, extension, rest, heq, hfront, hdots, hlength, hformat⟩
    have htake : candidate.take 255 = front ++ 46 :: extension := by
      rw [heq, ← hlength, List.take_left]
    have hextension : extension ≠ [] := by
      rintro rfl
      refine hformat ?_
      rw [CaseFolding.casefold, List.flatMap_singleton, folding.fold_ascii 46 (by decide)]
      rfl
    have hdot : PurePath.DotBetween (candidate.take 255) front extension :=
      ⟨htake, hdots, hfront, hextension⟩
    rw [selectedFormat, foldedExtension, hdot.suffix_eq hname]
    exact hformat

/-- Shortening keeps the format of a long name unless it cuts the name behind an extension. -/
theorem Shortened.selectedFormat_eq_iff {s : Str} (h : Shortened candidate s)
    (hplain : PlainName candidate) (hlong : 255 < candidate.length) :
    selectedFormat folding s = selectedFormat folding candidate ↔
      ¬CutBehindExtension folding candidate := by
  have hlength := h.length_between hlong
  have hname := (hplain.of_subset h.subset hlength.1).name_eq
  cases h with
  | cut hnone =>
    rw [selectedFormat_of_suffix_nil (PurePath.suffix_eq_nil hplain.name_eq hnone)]
    rw [← selectedFormat_take_ne_none_iff hplain hlong hnone, not_not]
  | @kept front back hdot hshort =>
    have hdot' : PurePath.DotBetween (front.take (254 - back.length) ++ 46 :: back)
        (front.take (254 - back.length)) back := by
      refine ⟨rfl, hdot.2.1, ?_, hdot.2.2.2⟩
      rw [← List.length_pos_iff, List.length_take]
      have hpos := List.length_pos_iff.mpr hdot.2.2.1
      omega
    refine iff_of_true ?_ fun hcut => hcut.not_dotBetween front back hdot
    unfold selectedFormat foldedExtension
    rw [hdot.suffix_eq hplain.name_eq, hdot'.suffix_eq hname]
  | @undotted front back hdot hback =>
    refine iff_of_true ?_ fun hcut => hcut.not_dotBetween front back hdot
    have hlast : 46 ∉ back.drop (back.length - 20) := fun hc =>
      hdot.2.1 (List.mem_of_mem_drop hc)
    have hnone : selectedFormat folding candidate = none := by
      refine selectedFormat_of_long ?_
      rw [hdot.suffix_eq hplain.name_eq, List.length_cons]
      omega
    rw [hnone]
    rcases PurePath.splitName_cases (front.take 235 ++ back.drop (back.length - 20)) with
      ⟨-, hnot⟩ | ⟨front', back', hdot', -⟩
    · exact selectedFormat_of_suffix_nil (PurePath.suffix_eq_nil hname hnot)
    · refine selectedFormat_of_long ?_
      have hle := hdot'.length_le hlast
      rw [List.length_drop] at hle
      rw [hdot'.suffix_eq hname, List.length_cons]
      omega

/-- A candidate that is cut behind an extension is long. -/
theorem CutBehindExtension.lt_length (h : CutBehindExtension folding candidate) :
    255 < candidate.length := by
  obtain ⟨front, extension, rest, rfl, -, -, hlength, -⟩ := h
  rw [List.length_append, hlength, List.length_append, List.length_singleton]
  omega

/-- Shortening keeps the format of a name unless it cuts the name behind an extension. -/
theorem PlainName.selectedFormat_eq_iff (h : PlainName candidate) :
    selectedFormat folding (shortenFilename candidate) = selectedFormat folding candidate ↔
      ¬CutBehindExtension folding candidate := by
  rcases Nat.lt_or_ge 255 candidate.length with hlong | hle
  · exact (h.shortened hlong).selectedFormat_eq_iff h hlong
  · rw [shortenFilename_of_le hle]
    exact iff_of_true rfl fun hcut => Nat.not_lt.mpr hle hcut.lt_length

end Formats

/-! ## The upload -/

section Upload

variable {folding : CaseFolding} {value : Option Str}

/-- The base name holds neither separators nor control characters. -/
theorem mem_uploadBasename {c : CodePoint} (h : c ∈ uploadBasename value) :
    c ≠ 47 ∧ c ≠ 92 ∧ c.isControl = false := by
  obtain ⟨hstrip, hcontrol⟩ := List.mem_filter.mp h
  have hpart := Str.mem_of_mem_strip hstrip
  cases hlast : (((value.getD []).map fun c => if c = 92 then 47 else c).splitOn 47).getLast? with
  | none =>
    rw [hlast] at hpart
    cases hpart
  | some part =>
    rw [hlast] at hpart
    obtain ⟨hpath, hslash⟩ := mem_splitOn (List.mem_of_getLast? hlast) hpart
    refine ⟨hslash, ?_, by simpa using hcontrol⟩
    obtain ⟨d, -, rfl⟩ := List.mem_map.mp hpath
    by_cases hd : d = 92
    · rw [if_pos hd]
      decide
    · rwa [if_neg hd]

/-- A base name that is not refused is plain. -/
theorem plainName_uploadBasename (hne : uploadBasename value ≠ [])
    (hdot : uploadBasename value ≠ ".") (hdots : uploadBasename value ≠ "..") :
    PlainName (uploadBasename value) where
  ne_nil := hne
  ne_dot := hdot
  ne_dots := hdots
  no_slash hc := (mem_uploadBasename hc).1 rfl
  no_backslash hc := (mem_uploadBasename hc).2.1 rfl
  no_control _ hc := (mem_uploadBasename hc).2.2

/-- A name is refused, or its base name is plain and is shortened. -/
theorem sanitizeFilename_cases (value : Option Str) :
    (sanitizeFilename value = .error (.application .unsupportedFileType) ∧
        (uploadBasename value).length ≤ 2) ∨
      PlainName (uploadBasename value) ∧
        sanitizeFilename value = .ok (shortenFilename (uploadBasename value)) := by
  rw [sanitizeFilename_eq]
  split
  · rename_i hrefused
    refine .inl ⟨rfl, ?_⟩
    rcases hrefused with h | h | h
    · rw [h]
      decide
    · rw [h]
      decide
    · rw [h]
      decide
  · rename_i haccepted
    obtain ⟨hne, hdot, hdots⟩ : _ ∧ _ ∧ _ := by simpa only [not_or] using haccepted
    exact .inr ⟨plainName_uploadBasename hne hdot hdots, rfl⟩

/-- A sanitized name is safe. -/
theorem sanitizeFilename_safe {filename : Str} (h : sanitizeFilename value = .ok filename) :
    SafeFilename filename := by
  rcases sanitizeFilename_cases value with ⟨hrefused, -⟩ | ⟨hplain, haccepted⟩
  · cases hrefused.symm.trans h
  · cases haccepted.symm.trans h
    exact hplain.safe

/-- The router selects for a sanitized name as for the base name, unless it has been cut behind an
extension. -/
theorem DocumentParserRouter.select_sanitized {π : Type} (router : DocumentParserRouter π)
    (namelist : List UInt8 → Except Failure (Option (List Str))) {filename : Str}
    (h : sanitizeFilename value = .ok filename)
    (hcut : ¬CutBehindExtension folding (uploadBasename value)) (mimeType : Option Str)
    (data : List UInt8) :
    router.select folding namelist filename mimeType data =
      router.select folding namelist (uploadBasename value) mimeType data := by
  rcases sanitizeFilename_cases value with ⟨hrefused, -⟩ | ⟨hplain, haccepted⟩
  · cases hrefused.symm.trans h
  · cases haccepted.symm.trans h
    exact router.select_congr namelist (hplain.selectedFormat_eq_iff.mpr hcut) mimeType data

end Upload

/-- What `sanitize_filename` promises: it refuses the name, or it returns a safe one with the format
of the base name. -/
def KeepsFormat (folding : CaseFolding) (value : Option Str) : Prop :=
  match sanitizeFilename value with
  | .ok filename => SafeFilename filename ∧
      selectedFormat folding filename = selectedFormat folding (uploadBasename value)
  | .error failure => failure = .application .unsupportedFileType

/-- What the promise says of a name that is returned. -/
theorem keepsFormat_iff {folding : CaseFolding} {value : Option Str} {filename : Str}
    (h : sanitizeFilename value = .ok filename) :
    KeepsFormat folding value ↔ SafeFilename filename ∧
      selectedFormat folding filename = selectedFormat folding (uploadBasename value) := by
  rw [KeepsFormat, h]

/-- The promise is kept exactly for the names that are not cut behind an extension. For these every
router selects as for the base name. -/
theorem sanitize_filename_keeps_format_iff (folding : CaseFolding) (value : Option Str) :
    (KeepsFormat folding value ↔ ¬CutBehindExtension folding (uploadBasename value)) ∧
    (¬CutBehindExtension folding (uploadBasename value) →
      ∀ (π : Type) (router : DocumentParserRouter π)
        (namelist : List UInt8 → Except Failure (Option (List Str))) (filename : Str)
        (mimeType : Option Str) (data : List UInt8), sanitizeFilename value = .ok filename →
        router.select folding namelist filename mimeType data =
          router.select folding namelist (uploadBasename value) mimeType data) := by
  refine ⟨?_, fun hcut π router namelist filename mimeType data h =>
    router.select_sanitized namelist h hcut mimeType data⟩
  rcases sanitizeFilename_cases value with ⟨hrefused, hshort⟩ | ⟨hplain, haccepted⟩
  · rw [KeepsFormat, hrefused]
    refine iff_of_true rfl fun hcut => ?_
    have hlong := hcut.lt_length
    omega
  · rw [keepsFormat_iff haccepted]
    exact (and_iff_right hplain.safe).trans hplain.selectedFormat_eq_iff

/-- The folding of ASCII letters alone. -/
def CaseFolding.ascii : CaseFolding where
  fold c := [if 65 ≤ c.val ∧ c.val ≤ 90 then c + 32 else c]
  fold_ne_nil _ := List.cons_ne_nil _ _
  fold_ascii _ _ := rfl

/-- A name of 255 characters with an extension. -/
def pdfName : Str := List.replicate 251 97 ++ Str.ofString ".pdf"

/-- With a dot behind it the name has no extension, but it is shortened to the name of a PDF
file. -/
theorem dotted_name_becomes_pdf :
    sanitizeFilename (some (pdfName ++ [46])) = .ok pdfName ∧
      selectedFormat .ascii (uploadBasename (some (pdfName ++ [46]))) = none ∧
      selectedFormat .ascii pdfName = some .pdf ∧
      ¬KeepsFormat .ascii (some (pdfName ++ [46])) := by
  have hname : sanitizeFilename (some (pdfName ++ [46])) = .ok pdfName := by decide +kernel
  have hbefore : selectedFormat .ascii (uploadBasename (some (pdfName ++ [46]))) = none := by
    decide +kernel
  have hafter : selectedFormat .ascii pdfName = some .pdf := by decide +kernel
  refine ⟨hname, hbefore, hafter, (keepsFormat_iff hname).not.mpr ?_⟩
  rw [hafter, hbefore]
  rintro ⟨-, hsame⟩
  cases hsame

end AssessmentPlatform
