import AssessmentPlatform.Python

/-!
# Splitting of URLs

`urlsplit` of the standard library, which the checks of the settings apply to every configured
address. A scheme is cut off only if it consists of the characters of schemes, and a network
location only if two slashes follow.
-/

namespace AssessmentPlatform

/-- The five parts of an address. -/
structure SplitResult where
  scheme : Str := []
  netloc : Str := []
  path : Str := []
  query : Str := []
  fragment : Str := []
  deriving DecidableEq

/-- An ASCII letter. -/
def CodePoint.isAsciiLetter (c : CodePoint) : Bool :=
  (65 ≤ c.val && c.val ≤ 90) || (97 ≤ c.val && c.val ≤ 122)

/-- `scheme_chars`. -/
def CodePoint.isSchemeChar (c : CodePoint) : Bool :=
  c.isAsciiLetter || (48 ≤ c.val && c.val ≤ 57) || c.val == 43 || c.val == 45 || c.val == 46

/-- `str.lower` of an ASCII character. -/
def CodePoint.asciiLower (c : CodePoint) : CodePoint :=
  if 65 ≤ c.val ∧ c.val ≤ 90 then c + 32 else c

/-- The text before and after the first `c`, as `str.split(c, 1)` cuts it; without `c` the second
part is empty. -/
def Str.cut (c : CodePoint) (s : Str) : Str × Str :=
  (s.takeWhile (· ≠ c), (s.dropWhile (· ≠ c)).drop 1)

/-- The characters that end a network location. -/
def CodePoint.endsNetloc (c : CodePoint) : Bool := c.val == 47 || c.val == 63 || c.val == 35

/-- The scheme of an address with the rest of it. -/
def splitScheme (url : Str) : Str × Str :=
  let head := url.takeWhile (· ≠ 58)
  -- the colon must exist, and it must not be the first character
  if head.length < url.length ∧ head.head?.any CodePoint.isAsciiLetter = true ∧
      head.all CodePoint.isSchemeChar = true then
    (head.map CodePoint.asciiLower, url.drop (head.length + 1))
  else ([], url)

/-- The network location of an address without its scheme, with the rest. -/
def splitNetloc (url : Str) : Str × Str :=
  if url.take 2 = [47, 47] then
    ((url.drop 2).takeWhile fun c => !c.endsNetloc, (url.drop 2).dropWhile fun c => !c.endsNetloc)
  else ([], url)

/-- `urlsplit`. What is wrong with a network location, the brackets of an address or characters
that a normalization makes delimiters, is told by `netlocFault`; the answer is the message of the
`ValueError`. -/
def urlsplit (netlocFault : Str → Option Str) (url : Str) : Except Str SplitResult :=
  let url := (url.dropWhile fun c => c.val ≤ 32).filter fun c =>
    !(c.val == 9 || c.val == 10 || c.val == 13)
  let (scheme, url) := splitScheme url
  let (netloc, url) := splitNetloc url
  match netlocFault netloc with
  | some message => .error message
  | none =>
    let (url, fragment) := Str.cut 35 url
    let (path, query) := Str.cut 63 url
    .ok { scheme, netloc, path, query, fragment }

end AssessmentPlatform
