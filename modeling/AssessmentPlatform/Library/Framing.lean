import Mathlib.Data.List.Basic
import Mathlib.Tactic.Common

/-!
# Frames between marked lines

A text is a list of lines over an arbitrary type. Some lines are marks. A framed text has a
preamble and numbered frames, and each frame has an opening mark, a body and a closing mark.
The marks of such a text are those of its frames exactly if nothing else in it is a mark, and
then its preamble and its bodies can be read back. A body may have a header in it, which can
be read back if nothing else in the body looks like a header.
-/

namespace AssessmentPlatform.Library

variable {L : Type}

/-- The items before the first one that passes a test, this one, and the items after it. -/
theorem split_at_first {p : L → Bool} {a a' r r' : List L} {x x' : L}
    (ha : ∀ y ∈ a, p y = false) (ha' : ∀ y ∈ a', p y = false) (hx : p x = true)
    (hx' : p x' = true) (h : a ++ x :: r = a' ++ x' :: r') : a = a' ∧ x = x' ∧ r = r' := by
  induction a generalizing a' with
  | nil =>
    cases a' with
    | nil =>
      obtain ⟨rfl, rfl⟩ := List.cons.inj h
      exact ⟨rfl, rfl, rfl⟩
    | cons y a' =>
      obtain ⟨rfl, -⟩ := List.cons.inj h
      cases (ha' x (by simp)).symm.trans hx
  | cons y a ih =>
    cases a' with
    | nil =>
      obtain ⟨rfl, -⟩ := List.cons.inj h
      cases (ha y (by simp)).symm.trans hx'
    | cons y' a' =>
      obtain ⟨rfl, htail⟩ := List.cons.inj h
      obtain ⟨rfl, rfl, rfl⟩ := ih (fun z hz => ha z (by simp [hz]))
        (fun z hz => ha' z (by simp [hz])) htail
      exact ⟨rfl, rfl, rfl⟩

/-! ## Frames -/

/-- The marks of a framed text. -/
structure FrameMarks (L : Type) where
  isMark : L → Bool
  opening : ℕ → L
  closing : ℕ → L
  blank : L
  isMark_opening : ∀ k, isMark (opening k) = true
  isMark_closing : ∀ k, isMark (closing k) = true
  isMark_blank : isMark blank = false
  closing_injective : Function.Injective closing

namespace FrameMarks

variable (m : FrameMarks L)

/-- The frames from a number on, with a blank line in front of each of them. -/
def frames : ℕ → List (List L) → List L
  | _, [] => []
  | k, body :: rest => m.blank :: m.opening k :: (body ++ m.closing k :: frames (k + 1) rest)

/-- The marks of a number of frames. -/
def marks : ℕ → ℕ → List L
  | _, 0 => []
  | k, n + 1 => m.opening k :: m.closing k :: marks (k + 1) n

/-- Lines without marks. -/
def Unmarked (lines : List L) : Prop := ∀ line ∈ lines, m.isMark line = false

variable {m}

/-- An empty list of lines is unmarked. -/
theorem Unmarked.nil : m.Unmarked [] := fun _ h => nomatch h

/-- Unmarked lines have no marks. -/
theorem Unmarked.filter_eq {lines : List L} (h : m.Unmarked lines) :
    lines.filter m.isMark = [] :=
  List.filter_eq_nil_iff.mpr fun line hline => by simp [h line hline]

/-- Lines are unmarked if both parts are. -/
theorem unmarked_append {a b : List L} :
    m.Unmarked (a ++ b) ↔ m.Unmarked a ∧ m.Unmarked b := by
  simp only [Unmarked, List.mem_append, or_imp, forall_and]

/-- Lines are unmarked if the first one and the others are. -/
theorem unmarked_cons {line : L} {lines : List L} :
    m.Unmarked (line :: lines) ↔ m.isMark line = false ∧ m.Unmarked lines := by
  simp only [Unmarked, List.forall_mem_cons]

/-- Every frame has two marks. -/
theorem marks_length (k n : ℕ) : (m.marks k n).length = 2 * n := by
  induction n generalizing k with
  | zero => rfl
  | succ n ih =>
    simp only [marks, List.length_cons, ih]
    omega

/-- The frames have two marks each, and those of their bodies. -/
theorem filter_frames_length (k : ℕ) (bodies : List (List L)) :
    ((m.frames k bodies).filter m.isMark).length =
      2 * bodies.length + (bodies.flatten.filter m.isMark).length := by
  induction bodies generalizing k with
  | nil => rfl
  | cons body rest ih =>
    simp only [frames, m.isMark_blank, m.isMark_opening, m.isMark_closing, Bool.false_eq_true,
      not_false_eq_true, List.filter_cons_of_neg, List.filter_cons_of_pos, List.filter_append,
      List.length_cons, List.length_append, List.flatten_cons, ih]
    omega

/-- The marks of frames around unmarked bodies are those of the frames. -/
theorem filter_frames (k : ℕ) {bodies : List (List L)} (h : ∀ body ∈ bodies, m.Unmarked body) :
    (m.frames k bodies).filter m.isMark = m.marks k bodies.length := by
  induction bodies generalizing k with
  | nil => rfl
  | cons body rest ih =>
    have hbody := (h body (by simp)).filter_eq
    have hrest := ih (k + 1) fun b hb => h b (by simp [hb])
    simp only [frames, m.isMark_blank, m.isMark_opening, m.isMark_closing, Bool.false_eq_true,
      not_false_eq_true, List.filter_cons_of_neg, List.filter_cons_of_pos, List.filter_append,
      hbody, hrest, List.nil_append, List.length_cons, marks]

/-- The marks of a framed text are those of its frames exactly if there are no other ones. -/
theorem filter_eq_marks_iff (preamble : List L) (k : ℕ) (bodies : List (List L)) :
    (preamble ++ m.frames k bodies).filter m.isMark = m.marks k bodies.length ↔
      m.Unmarked preamble ∧ ∀ body ∈ bodies, m.Unmarked body := by
  constructor
  · intro h
    have hlength := congrArg List.length h
    rw [List.filter_append, List.length_append, filter_frames_length, marks_length] at hlength
    have hpreamble : preamble.filter m.isMark = [] := List.length_eq_zero_iff.mp (by omega)
    have hbodies : bodies.flatten.filter m.isMark = [] := List.length_eq_zero_iff.mp (by omega)
    rw [List.filter_eq_nil_iff] at hpreamble hbodies
    exact ⟨fun line hline => by simpa using hpreamble line hline, fun body hbody line hline => by
      simpa using hbodies line (List.mem_flatten.mpr ⟨body, hbody, hline⟩)⟩
  · rintro ⟨hpreamble, hbodies⟩
    rw [List.filter_append, hpreamble.filter_eq, filter_frames k hbodies, List.nil_append]

/-! ## Reading frames back -/

/-- The lines before the first mark, the mark, and the lines after it. -/
theorem split_at_mark {a a' r r' : List L} {x x' : L} (ha : m.Unmarked a) (ha' : m.Unmarked a')
    (hx : m.isMark x = true) (hx' : m.isMark x' = true) (h : a ++ x :: r = a' ++ x' :: r') :
    a = a' ∧ x = x' ∧ r = r' :=
  split_at_first ha ha' hx hx' h

private theorem ne_of_unmarked {a b r : List L} {x : L} (ha : m.Unmarked a)
    (hx : m.isMark x = true) : a ≠ b ++ x :: r := by
  rintro rfl
  cases (ha x (by simp)).symm.trans hx

/-- Without other marks the preamble and the bodies can be read back. -/
theorem frames_injective {preamble preamble' : List L} {k : ℕ} {bodies bodies' : List (List L)}
    (hpreamble : m.Unmarked preamble) (hpreamble' : m.Unmarked preamble')
    (hbodies : ∀ body ∈ bodies, m.Unmarked body) (hbodies' : ∀ body ∈ bodies', m.Unmarked body)
    (h : preamble ++ m.frames k bodies = preamble' ++ m.frames k bodies') :
    preamble = preamble' ∧ bodies = bodies' := by
  have hblank : m.Unmarked [m.blank] := by simp [Unmarked, m.isMark_blank]
  induction bodies generalizing preamble preamble' k bodies' with
  | nil =>
    cases bodies' with
    | nil => exact ⟨by simpa [frames] using h, rfl⟩
    | cons body' rest' =>
      rw [frames, frames, List.append_nil, List.append_cons] at h
      exact absurd h (ne_of_unmarked hpreamble (m.isMark_opening k))
  | cons body rest ih =>
    cases bodies' with
    | nil =>
      rw [frames, frames, List.append_nil, List.append_cons] at h
      exact absurd h.symm (ne_of_unmarked hpreamble' (m.isMark_opening k))
    | cons body' rest' =>
      rw [frames, frames, List.append_cons preamble, List.append_cons preamble'] at h
      obtain ⟨hpre, -, hrest⟩ := split_at_mark (unmarked_append.mpr ⟨hpreamble, hblank⟩)
        (unmarked_append.mpr ⟨hpreamble', hblank⟩) (m.isMark_opening k) (m.isMark_opening k) h
      obtain ⟨hbody, -, hrest⟩ := split_at_mark (hbodies body (by simp))
        (hbodies' body' (by simp)) (m.isMark_closing k) (m.isMark_closing k) hrest
      have hrest' : [] ++ m.frames (k + 1) rest = [] ++ m.frames (k + 1) rest' := hrest
      obtain ⟨-, hrest⟩ := ih Unmarked.nil Unmarked.nil (fun b hb => hbodies b (by simp [hb]))
        (fun b hb => hbodies' b (by simp [hb])) hrest'
      exact ⟨List.append_cancel_right hpre, by rw [hbody, hrest]⟩

/-- Frames end with the closing mark of the last of them. -/
theorem frames_concat (k : ℕ) (body : List L) (rest : List (List L)) :
    ∃ front, m.frames k (body :: rest) = front ++ [m.closing (k + rest.length)] := by
  induction rest generalizing k body with
  | nil => exact ⟨m.blank :: m.opening k :: body, by simp [frames]⟩
  | cons body' rest ih =>
    obtain ⟨front, hfront⟩ := ih (k + 1) body'
    refine ⟨m.blank :: m.opening k :: (body ++ m.closing k :: front), ?_⟩
    rw [frames, hfront, List.length_cons, Nat.add_right_comm, Nat.add_assoc]
    simp

/-- Equal framed texts whose preambles do not end with a mark have equally many frames. -/
theorem frames_length_eq {preamble preamble' : List L} {last last' : L} {k : ℕ}
    {bodies bodies' : List (List L)} (hlast : m.isMark last = false)
    (hlast' : m.isMark last' = false)
    (h : preamble ++ [last] ++ m.frames k bodies = preamble' ++ [last'] ++ m.frames k bodies') :
    bodies.length = bodies'.length := by
  cases bodies with
  | nil =>
    cases bodies' with
    | nil => rfl
    | cons body' rest' =>
      obtain ⟨front, hfront⟩ := m.frames_concat k body' rest'
      rw [hfront, frames, List.append_nil, ← List.append_assoc] at h
      obtain ⟨-, heq⟩ := List.append_inj' h rfl
      rw [(List.cons.inj heq).1, m.isMark_closing] at hlast
      cases hlast
  | cons body rest =>
    obtain ⟨front, hfront⟩ := m.frames_concat k body rest
    cases bodies' with
    | nil =>
      rw [hfront, frames, List.append_nil, ← List.append_assoc] at h
      obtain ⟨-, heq⟩ := List.append_inj' h rfl
      rw [← (List.cons.inj heq).1, m.isMark_closing] at hlast'
      cases hlast'
    | cons body' rest' =>
      obtain ⟨front', hfront'⟩ := m.frames_concat k body' rest'
      rw [hfront, hfront', ← List.append_assoc, ← List.append_assoc] at h
      obtain ⟨-, heq⟩ := List.append_inj' h rfl
      have hclosing := m.closing_injective (List.cons.inj heq).1
      simp only [List.length_cons]
      omega

/-- A framed text without other marks can be read back: no other framed text is equal to
it. -/
theorem frames_unique {preamble preamble' : List L} {last last' : L} {k : ℕ}
    {bodies bodies' : List (List L)} (hlast' : m.isMark last' = false)
    (hpreamble : m.Unmarked (preamble ++ [last])) (hbodies : ∀ body ∈ bodies, m.Unmarked body)
    (h : preamble ++ [last] ++ m.frames k bodies = preamble' ++ [last'] ++ m.frames k bodies') :
    bodies = bodies' := by
  have hlast := hpreamble last (by simp)
  have hlength := frames_length_eq hlast hlast' h
  have hmarks := (m.filter_eq_marks_iff _ k _).mpr ⟨hpreamble, hbodies⟩
  rw [h, hlength, m.filter_eq_marks_iff] at hmarks
  exact (frames_injective hpreamble hmarks.1 hbodies hmarks.2 h).2

end FrameMarks

/-! ## Headers in a body -/

/-- A header begins with a line that no other line of it looks like. -/
structure HeaderForm (isFirst : L → Bool) (header : List L) : Prop where
  first : ∃ line rest, header = line :: rest ∧ isFirst line = true ∧
    ∀ other ∈ rest, isFirst other = false

private theorem HeaderForm.not_inside {isFirst : L → Bool} {header header' a b c c' : List L}
    (h : HeaderForm isFirst header) (h' : HeaderForm isFirst header') (ha : a ≠ []) (hb : b ≠ [])
    (hheader : header = a ++ b) : b ++ c ≠ header' ++ c' := by
  intro heq
  obtain ⟨line, rest, rfl, -, hrest⟩ := h.first
  obtain ⟨line', rest', rfl, hline', -⟩ := h'.first
  obtain ⟨x, a, rfl⟩ := List.exists_cons_of_ne_nil ha
  obtain ⟨y, b, rfl⟩ := List.exists_cons_of_ne_nil hb
  obtain ⟨rfl, -⟩ := List.cons.inj heq
  obtain ⟨-, rfl⟩ := List.cons.inj hheader
  cases (hrest y (by simp)).symm.trans hline'

/-- A header with lines before it and behind it can be read back if no header of the same
length stands in the lines before it, or in the lines behind it with more lines to follow. -/
theorem header_unique {isFirst : L → Bool} {before before' header header' behind behind' : List L}
    (hform : HeaderForm isFirst header) (hform' : HeaderForm isFirst header')
    (hlength : header.length = header'.length) (hbehind' : behind' ≠ [])
    (hbefore : ∀ x y, before ≠ x ++ header' ++ y)
    (hbehind : ∀ x y, y ≠ [] → behind ≠ x ++ header' ++ y)
    (h : before ++ header ++ behind = before' ++ header' ++ behind') :
    header = header' ∧ behind = behind' := by
  rw [List.append_assoc, List.append_assoc, List.append_eq_append_iff] at h
  rcases h with ⟨a, rfl, h⟩ | ⟨a, rfl, h⟩
  · by_cases ha : a = []
    · subst ha
      exact List.append_inj h hlength
    rw [List.append_eq_append_iff] at h
    rcases h with ⟨b, rfl, h⟩ | ⟨b, hb, h⟩
    · exact absurd (h.trans (List.append_assoc _ _ _).symm) (hbehind b behind' hbehind')
    · by_cases hnil : b = []
      · subst hnil
        rw [List.nil_append] at h
        exact absurd h.symm (by simpa using hbehind [] behind' hbehind')
      · exact absurd h.symm (hform.not_inside hform' ha hnil hb)
  · by_cases ha : a = []
    · subst ha
      rw [List.nil_append] at h
      obtain ⟨hheader, hrest⟩ := List.append_inj h hlength.symm
      exact ⟨hheader.symm, hrest.symm⟩
    rw [List.append_eq_append_iff] at h
    rcases h with ⟨b, rfl, h⟩ | ⟨b, hb, h⟩
    · exact absurd (List.append_assoc _ _ _).symm (hbefore before' b)
    · by_cases hnil : b = []
      · subst hnil
        rw [List.append_nil] at hb
        exact absurd (by rw [hb, List.append_nil]) (hbefore before' [])
      · exact absurd h.symm (hform'.not_inside hform ha hnil hb)

end AssessmentPlatform.Library
