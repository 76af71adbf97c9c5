import AssessmentPlatform.Library.Text
import Mathlib.Algebra.GroupWithZero.Nat
import Mathlib.Data.Int.Log
import Mathlib.Data.List.Lex
import Mathlib.Data.Rat.Floor
import Mathlib.Order.Fin.Basic

/-!
# Values of the implementation language

Strings are sequences of Unicode code points, unpaired surrogates included, and
`strip` removes the characters that `str.isspace` accepts. The models of the validation
library trim their texts with a smaller notion of white space. Time stamps count
microseconds, the resolution of `datetime`, and durations in seconds are rounded to
binary64. Identifiers are compared through their fixed-width hexadecimal text, which
orders them as numbers.
-/

namespace AssessmentPlatform

open Library

/-- A Unicode code point; surrogates are code points too. -/
abbrev CodePoint := Fin 0x110000

instance CodePoint.neZero : NeZero 0x110000 := ⟨by decide⟩

/-- A string of the implementation language. -/
abbrev Str := List CodePoint

instance Str.lawfulBEq : LawfulBEq Str := inferInstance

/-- Every scalar value is a code point. -/
def CodePoint.ofChar (c : Char) : CodePoint :=
  ⟨c.val.toNat, by
    rcases c.valid with h | h
    · exact Nat.lt_trans h (by decide)
    · exact h.2⟩

/-- The string denoted by a literal. -/
def Str.ofString (s : String) : Str := s.toList.map CodePoint.ofChar

instance : Coe String Str := ⟨Str.ofString⟩

/-- The line feed. -/
def CodePoint.lf : CodePoint := 10

/-- The carriage return. -/
def CodePoint.cr : CodePoint := 13

/-- The blank. -/
def CodePoint.blank : CodePoint := 32

/-- The characters that `str.isspace` accepts and `str.strip` removes. -/
def CodePoint.isSpace (c : CodePoint) : Bool :=
  (9 ≤ c.val && c.val ≤ 13) || (28 ≤ c.val && c.val ≤ 32) || c.val == 0x85 || c.val == 0xA0 ||
    c.val == 0x1680 || (0x2000 ≤ c.val && c.val ≤ 0x200A) || c.val == 0x2028 ||
    c.val == 0x2029 || c.val == 0x202F || c.val == 0x205F || c.val == 0x3000

/-- The code points that have no UTF-8 encoding. -/
def CodePoint.isSurrogate (c : CodePoint) : Bool := 0xD800 ≤ c.val && c.val ≤ 0xDFFF

/-- Whether `str.encode("utf-8")` succeeds. A constrained string field of a validated
model rejects every other string. -/
def Str.encodable (s : Str) : Bool := s.all fun c => !c.isSurrogate

/-- A part of a text that can be encoded can be encoded. -/
theorem Str.encodable_of_subset {s t : Str} (hs : s ⊆ t) (ht : t.encodable = true) :
    s.encodable = true := by
  unfold Str.encodable at ht ⊢
  rw [List.all_eq_true] at ht ⊢
  exact fun c hc => ht c (hs hc)

/-- No character of a literal is a surrogate. -/
theorem CodePoint.ofChar_isSurrogate (c : Char) : (CodePoint.ofChar c).isSurrogate = false := by
  rw [CodePoint.isSurrogate, Bool.and_eq_false_imp]
  intro hlow
  rw [decide_eq_true_eq] at hlow
  rw [decide_eq_false_iff_not]
  change 0xD800 ≤ c.val.toNat at hlow
  change ¬ c.val.toNat ≤ 0xDFFF
  rcases c.valid with h | h
  · omega
  · omega

/-- A text of characters can be encoded. -/
theorem Str.encodable_map_ofChar (l : List Char) :
    Str.encodable (l.map CodePoint.ofChar) = true := by
  simp [Str.encodable, CodePoint.ofChar_isSurrogate]

/-- Every literal can be encoded. -/
theorem Str.encodable_ofString (s : String) : (Str.ofString s).encodable = true :=
  Str.encodable_map_ofChar s.toList

/-- `str.lstrip()`. -/
def Str.lstrip (s : Str) : Str := s.dropWhile CodePoint.isSpace

/-- `str.rstrip()`. -/
def Str.rstrip (s : Str) : Str := s.rdropWhile CodePoint.isSpace

/-- `str.strip()`. -/
def Str.strip (s : Str) : Str := Str.rstrip (Str.lstrip s)

/-- `str.strip` trims the white space of the language. -/
theorem Str.strip_eq_trim (s : Str) : Str.strip s = Library.trim CodePoint.isSpace s := rfl

/-- Stripping adds no character. -/
theorem Str.mem_of_mem_strip {s : Str} {c : CodePoint} (h : c ∈ Str.strip s) : c ∈ s :=
  (List.dropWhile_suffix _).subset ((List.rdropWhile_prefix _ _).subset h)

/-- Stripping twice strips once. -/
theorem Str.strip_strip (s : Str) : Str.strip (Str.strip s) = Str.strip s :=
  Library.trim_trim CodePoint.isSpace s

/-- `sep.join(parts)`. -/
def Str.join (sep : Str) (parts : List Str) : Str := List.intercalate sep parts

/-- `str(n)` of a natural number. -/
def Str.decimal (n : ℕ) : Str := (Nat.toDigits 10 n).map CodePoint.ofChar

/-- The last `width` digits of a number in the given base, with leading zeros. -/
def Str.padded (base : ℕ) : ℕ → ℕ → Str
  | 0, _ => []
  | width + 1, n =>
    Str.padded base width (n / base) ++ [CodePoint.ofChar (Nat.digitChar (n % base))]

/-- The string of a literal, from the characters that the literal lists. -/
theorem Str.ofString_ofList (l : List Char) :
    Str.ofString (String.ofList l) = l.map CodePoint.ofChar := by
  simp [Str.ofString]

/-- The length of a literal is that of its characters. -/
theorem Str.length_le_ofList {bound : ℕ} (l : List Char) (h : l.length ≤ bound) :
    (Str.ofString (String.ofList l)).length ≤ bound := by
  rwa [Str.ofString_ofList, List.length_map]

/-! ## Texts of validated models -/

/-- The white space that the validation library trims, which leaves the four separators of ASCII. -/
def CodePoint.isWhiteSpace (c : CodePoint) : Bool := c.isSpace && !(28 ≤ c.val && c.val ≤ 31)

/-- A text as a model with `str_strip_whitespace` keeps it. -/
def Str.trim (s : Str) : Str :=
  (s.dropWhile CodePoint.isWhiteSpace).rdropWhile CodePoint.isWhiteSpace

/-- The validation library trims its own white space. -/
theorem Str.trim_eq_trim (s : Str) : s.trim = Library.trim CodePoint.isWhiteSpace s := rfl

/-- Trimming never lengthens a text. -/
theorem Str.trim_length_le (s : Str) : s.trim.length ≤ s.length :=
  (List.IsPrefix.length_le (List.rdropWhile_prefix _ _)).trans
    (List.IsSuffix.length_le (List.dropWhile_suffix _))

/-- Trimming only takes characters away. -/
theorem Str.mem_of_mem_trim {s : Str} {c : CodePoint} (h : c ∈ s.trim) : c ∈ s :=
  (List.dropWhile_suffix _).subset ((List.rdropWhile_prefix _ _).subset h)

/-- Trimming twice trims once. -/
@[simp] theorem Str.trim_trim (s : Str) : s.trim.trim = s.trim :=
  Library.trim_trim CodePoint.isWhiteSpace s

/-- White space of the validation library is white space for `str.strip`. -/
theorem CodePoint.isWhiteSpace_eq_false {c : CodePoint} (h : c.isSpace = false) :
    c.isWhiteSpace = false := by
  rw [CodePoint.isWhiteSpace, h, Bool.false_and]

/-- A text that is trimmed for `str.strip` is trimmed for the validation library. -/
theorem Str.trim_of_trimmed {s : Str} (h : Trimmed CodePoint.isSpace s) : s.trim = s :=
  (h.mono fun _ => CodePoint.isWhiteSpace_eq_false).trim_self

/-- What `str.strip` leaves is not trimmed further. -/
@[simp] theorem Str.trim_strip (s : Str) : (Str.strip s).trim = Str.strip s := by
  rw [Str.strip_eq_trim]
  rcases @trim_cases _ CodePoint.isSpace s with h | h
  · rw [h]
    rfl
  · exact Str.trim_of_trimmed h

/-- Stripping keeps the visible characters. -/
theorem Str.strip_ne_nil {s : Str} {c : CodePoint} (hmem : c ∈ s) (hc : c.isSpace = false) :
    Str.strip s ≠ [] := by
  intro hstrip
  rw [Str.strip_eq_trim, trim_eq_nil_iff] at hstrip
  rw [hstrip c hmem] at hc
  cases hc

/-- A text that is not blank for `str.strip` is not blank for the validation library. -/
theorem Str.trim_ne_nil {s : Str} (h : Str.strip s ≠ []) : s.trim ≠ [] := by
  intro htrim
  refine h (trim_eq_nil_iff.mpr fun c hc => ?_)
  exact (Bool.and_eq_true_iff.mp (trim_eq_nil_iff.mp htrim c hc)).1

/-- A text without white space is trimmed. -/
theorem Str.trim_eq_self {s : Str} (h : ∀ c ∈ s, c.isSpace = false) : s.trim = s := by
  cases s with
  | nil => rfl
  | cons c rest =>
    obtain ⟨front, d, hlast⟩ := List.eq_nil_or_concat' (c :: rest) |>.resolve_left (by simp)
    have hd : d ∈ c :: rest := by simp [hlast]
    exact Str.trim_of_trimmed ⟨⟨c, rest, rfl, h c List.mem_cons_self⟩, front, d, hlast, h d hd⟩

/-- A text that a model with `str_strip_whitespace` holds. -/
def Str.Valid (s : Str) : Prop := s.encodable = true ∧ s.trim = s

instance Str.decidableValid (s : Str) : Decidable s.Valid := inferInstanceAs (Decidable (_ ∧ _))

/-- The text of a constrained field `Field(min_length=1, max_length=bound)`. -/
def Str.ValidWithin (bound : ℕ) (s : Str) : Prop := s.Valid ∧ 0 < s.length ∧ s.length ≤ bound

instance Str.decidableValidWithin (bound : ℕ) (s : Str) : Decidable (s.ValidWithin bound) :=
  inferInstanceAs (Decidable (_ ∧ _))

/-- A field without a value meets its constraint. -/
theorem Str.validWithin_none {bound : ℕ} : ∀ s ∈ (none : Option Str), s.ValidWithin bound := nofun

/-- The text of a constrained field `Field(max_length=bound)`. -/
def Str.ValidUpTo (bound : ℕ) (s : Str) : Prop := s.Valid ∧ s.length ≤ bound

instance Str.decidableValidUpTo (bound : ℕ) (s : Str) : Decidable (s.ValidUpTo bound) :=
  inferInstanceAs (Decidable (_ ∧ _))

/-- No surrogate is white space. -/
theorem CodePoint.isSurrogate_of_isWhiteSpace {c : CodePoint} (h : c.isWhiteSpace = true) :
    c.isSurrogate = false := by
  simp only [CodePoint.isWhiteSpace, CodePoint.isSpace, Bool.and_eq_true, Bool.or_eq_true,
    decide_eq_true_eq, beq_iff_eq] at h
  simp only [CodePoint.isSurrogate, Bool.and_eq_false_iff, decide_eq_false_iff_not]
  omega

/-- The margins that trimming takes away can be encoded. -/
theorem Str.encodable_of_trim {s : Str} (h : s.trim.encodable = true) : s.encodable = true := by
  obtain ⟨front, back, hfront, hback, hs⟩ := exists_margins CodePoint.isWhiteSpace s
  unfold Str.encodable at h ⊢
  rw [List.all_eq_true] at h ⊢
  intro c hc
  rw [hs, List.mem_append, List.mem_append] at hc
  rcases hc with (hc | hc) | hc
  · rw [CodePoint.isSurrogate_of_isWhiteSpace (hfront c hc)]
    rfl
  · exact h c hc
  · rw [CodePoint.isSurrogate_of_isWhiteSpace (hback c hc)]
    rfl

/-- The trimmed form of a text that can be encoded. -/
theorem Str.valid_trim {s : Str} (h : s.encodable = true) : s.trim.Valid :=
  ⟨Str.encodable_of_subset (fun _ => Str.mem_of_mem_trim) h, Str.trim_trim s⟩

/-- A short text fits an optional field once it is trimmed. -/
theorem Str.validUpTo_trim {bound : ℕ} {s : Str} (hencodable : s.encodable = true)
    (hlength : s.length ≤ bound) : s.trim.ValidUpTo bound :=
  ⟨Str.valid_trim hencodable, (Str.trim_length_le s).trans hlength⟩

/-- A short text that has something visible fits a required field once it is trimmed. -/
theorem Str.validWithin_trim {bound : ℕ} {s : Str} (hencodable : s.encodable = true)
    (hvisible : Str.strip s ≠ []) (hlength : s.length ≤ bound) : s.trim.ValidWithin bound :=
  ⟨Str.valid_trim hencodable, List.length_pos_iff.mpr (Str.trim_ne_nil hvisible),
    (Str.trim_length_le s).trans hlength⟩

/-- A literal that starts with a visible character is not blank. -/
theorem Str.strip_ne_nil_ofList (c : Char) (l : List Char)
    (h : (CodePoint.ofChar c).isSpace = false) :
    Str.strip (Str.ofString (String.ofList (c :: l))) ≠ [] := by
  rw [Str.ofString_ofList]
  exact Str.strip_ne_nil List.mem_cons_self h

/-- A literal that trimming leaves as it is. -/
theorem Str.valid_ofList (l : List Char)
    (h : Str.trim (l.map CodePoint.ofChar) = l.map CodePoint.ofChar) :
    (Str.ofString (String.ofList l)).Valid := by
  rw [Str.ofString_ofList]
  exact ⟨Str.encodable_map_ofChar l, h⟩

/-! ## Times and identifiers -/

/-- A point in time, in microseconds. -/
abbrev Time := ℤ

/-- An identifier; its textual order is its numerical order. -/
abbrev UUID := ℕ

/-- `str(uuid)`: the hexadecimal digits in five groups. -/
def UUID.text (id : UUID) : Str :=
  Str.join [45] [Str.padded 16 8 (id / 16 ^ 24), Str.padded 16 4 (id / 16 ^ 20),
    Str.padded 16 4 (id / 16 ^ 16), Str.padded 16 4 (id / 16 ^ 12), Str.padded 16 12 id]

/-- `round` to the nearest integer, and to the even one of two equally near ones. -/
def roundHalfEven (q : ℚ) : ℤ :=
  let n := q.floor
  if q - n < 1 / 2 then n else if 1 / 2 < q - n then n + 1 else if n % 2 = 0 then n else n + 1

/-- The result of an operation on floats, rounded to the nearest number with a significand
of 53 bits. Durations stay far from the least and the largest exponent. -/
def binary64 (q : ℚ) : ℚ :=
  let ulp : ℚ := 2 ^ (Int.log 2 |q| - 52)
  roundHalfEven (q / ulp) * ulp

/-- `timedelta.total_seconds()`: a division of integers, rounded once. -/
def totalSeconds (micros : ℤ) : ℚ := binary64 (micros / 10 ^ 6)

/-- `round(duration.total_seconds() * 1_000)`. -/
def roundMilliseconds (micros : ℤ) : ℤ := roundHalfEven (binary64 (totalSeconds micros * 1000))

-- The product is rounded before `round` sees it: half a millisecond may go the other way.
example : roundMilliseconds 501500 = 501 ∧ roundHalfEven (501500 / 1000) = 502 := by decide +kernel

end AssessmentPlatform
