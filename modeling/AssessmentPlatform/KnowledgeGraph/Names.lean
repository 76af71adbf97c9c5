import AssessmentPlatform.KnowledgeGraph.Upserts
import AssessmentPlatform.Library.Words

/-!
# Entity names

What the two Unicode functions are known to satisfy, and what the two forms of an entity name are
then: the canonical form is a fixed point of canonicalization, and the normalized form is the case
folding of the canonical one, however often a name is canonicalized before.
-/

namespace AssessmentPlatform

open Library

/-- The text with its white space normalized: `" ".join(s.split())`. -/
def Str.collapse (s : Str) : Str := Str.join [CodePoint.blank] (Str.words s)

/-- NFKC normalization is idempotent, and a normalized text stays so if its white space is
collapsed. -/
structure Unicode.NormalizationLaws (unicode : Unicode) : Prop where
  nfkc_nfkc : ∀ s, unicode.nfkc (unicode.nfkc s) = unicode.nfkc s
  nfkc_collapse : ∀ s, unicode.nfkc s = s → unicode.nfkc (Str.collapse s) = Str.collapse s

/-- Case folding maps each code point to one or more code points, and a blank to itself. -/
structure Unicode.FoldingLaws (unicode : Unicode) : Prop where
  casefold_eq : ∀ s, unicode.casefold s = s.flatMap fun c => unicode.casefold [c]
  casefold_ne_nil : ∀ c, unicode.casefold [c] ≠ []
  casefold_blank : unicode.casefold [CodePoint.blank] = [CodePoint.blank]

/-- The words of a text are those that are cut at white space. -/
theorem Str.words_eq (s : Str) : Str.words s = Library.words CodePoint.isSpace s := by
  unfold Str.words Library.words
  refine List.filter_congr fun word _ => ?_
  cases word <;> rfl

/-- Collapsing again changes nothing. -/
@[simp] theorem Str.collapse_collapse (s : Str) : s.collapse.collapse = s.collapse := by
  unfold Str.collapse Str.join
  rw [Str.words_eq, Str.words_eq]
  exact congrArg _ (words_intercalate (by decide) (properWords_words s))

namespace Unicode

variable {unicode : Unicode} (laws : unicode.NormalizationLaws)

/-- A canonical name is normalized and collapsed. -/
theorem canonicalizeEntityName_eq (unicode : Unicode) (name : Str) :
    unicode.canonicalizeEntityName name = (unicode.nfkc name).collapse := rfl

/-- A normalized name is canonical and case-folded. -/
theorem normalizeEntityName_eq (unicode : Unicode) (name : Str) :
    unicode.normalizeEntityName name = unicode.casefold (unicode.canonicalizeEntityName name) := rfl

include laws

/-- A canonical name is its own canonical form. -/
theorem NormalizationLaws.canonicalize_canonicalize (name : Str) :
    unicode.canonicalizeEntityName (unicode.canonicalizeEntityName name) =
      unicode.canonicalizeEntityName name := by
  rw [canonicalizeEntityName_eq, canonicalizeEntityName_eq,
    laws.nfkc_collapse _ (laws.nfkc_nfkc name), Str.collapse_collapse]

/-- The normalized form of a canonical name is its case folding. -/
theorem NormalizationLaws.normalize_canonicalize (name : Str) :
    unicode.normalizeEntityName (unicode.canonicalizeEntityName name) =
      unicode.casefold (unicode.canonicalizeEntityName name) := by
  rw [normalizeEntityName_eq, laws.canonicalize_canonicalize]

end Unicode

end AssessmentPlatform
