import AssessmentPlatform.Core.Validation
import AssessmentPlatform.Library.Json

/-!
# Verified tokens

A verifier decodes a bearer token with the JWT library and maps the claims to a principal. The
library is a parameter; what it answers within one request is a function of its arguments. Every
error of the library that the source names, and every error of the mapping, is answered with the
same refusal.
-/

namespace AssessmentPlatform

open Library

/-! ## The source -/

/-- The principal with the name that it is displayed under, and the texts that the model accepts. -/
structure NamedPrincipal extends AuthenticatedPrincipal where
  displayName : Option Str := none
  displayName_le : ∀ s ∈ displayName, s.length ≤ 255
  encodable : subject.encodable = true ∧ issuer.encodable = true ∧
    (∀ s ∈ email, s.encodable = true) ∧ ∀ s ∈ displayName, s.encodable = true

/-- `can_review`. -/
def AuthenticatedPrincipal.canReview (p : AuthenticatedPrincipal) : Bool :=
  p.roles.any fun role => decide (role = .reviewer ∨ role = .admin)

/-- The claims of a token: the fields of a JSON object. -/
abbrev Claims := List (Str × Json)

/-- `claims.get(name)`. -/
def Claims.get (claims : Claims) (name : Str) : Option Json :=
  (getBy Prod.fst name claims).map Prod.snd

/-- `Role(value)`, which raises a `ValueError` for a text that names no role. -/
def Role.ofValue (value : Str) : Except Failure Role :=
  if value = ("analyst" : Str) then .ok .analyst
  else if value = ("reviewer" : Str) then .ok .reviewer
  else if value = ("admin" : Str) then .ok .admin
  else .error .value

/-- `Role(str(value).casefold())`. The text of a value that is no string starts with a digit, a
sign or a bracket, or it is the name of a constant, so it names no role. -/
def roleOfClaim (folding : CaseFolding) : Json → Except Failure Role
  | .str value => Role.ofValue (folding.casefold value)
  | _ => .error .value

/-- An optional text of the claims: neither a missing value nor `None` is set, and what is no
string is refused. -/
def textClaim : Option Json → Except Failure (Option Str)
  | none | some .null => .ok none
  | some (.str s) => .ok (some s)
  | some _ => .error (.application .authenticationRequired)

/-- The validation of `AuthenticatedPrincipal`; its errors are values errors. -/
def NamedPrincipal.create (subject : Str) (email displayName : Option Str) (roles : List Role)
    (issuer : Str) : Except Failure NamedPrincipal :=
  if h : ((0 < subject.length ∧ subject.length ≤ 255) ∧ (∀ s ∈ email, s.length ≤ 320) ∧
      roles ≠ [] ∧ (0 < issuer.length ∧ issuer.length ≤ 255)) ∧
      (∀ s ∈ displayName, s.length ≤ 255) ∧ subject.encodable = true ∧ issuer.encodable = true ∧
      (∀ s ∈ email, s.encodable = true) ∧ ∀ s ∈ displayName, s.encodable = true then
    .ok ⟨⟨subject, email, roles, issuer, h.1.1, h.1.2.1, h.1.2.2.1, h.1.2.2.2⟩, displayName, h.2.1,
      h.2.2⟩
  else .error .value

/-- The roles that the claims list: one text stands for a list of one. -/
def rawRoles (claims : Claims) : Json :=
  match (claims.get ("roles" : Str)).getD ((claims.get ("role" : Str)).getD (.array [])) with
  | .str role => .array [.str role]
  | roles => roles

/-- A claim that must be a text with something besides whitespace. -/
def requiredClaim (claims : Claims) (name : Str) : Except Failure Str :=
  match claims.get name with
  | some (.str s) =>
    if Str.strip s = [] then .error (.application .authenticationRequired) else .ok s
  | _ => .error (.application .authenticationRequired)

/-- `principal_from_claims`. The roles form a set, so that only membership matters. -/
def principalFromClaims (folding : CaseFolding) (claims : Claims) :
    Except Failure NamedPrincipal := do
  let subject ← requiredClaim claims ("sub" : Str)
  let issuer ← requiredClaim claims ("iss" : Str)
  match rawRoles claims with
  | .array (first :: rest) =>
    match (first :: rest).mapM (roleOfClaim folding) with
    | .error _ => throw (.application .authenticationRequired)
    | .ok roles =>
      let email ← textClaim (claims.get ("email" : Str))
      let displayName ← textClaim <|
        (claims.get ("name" : Str)).orElse fun _ => claims.get ("display_name" : Str)
      NamedPrincipal.create subject email displayName roles issuer
  | _ => throw (.application .authenticationRequired)

/-- The exceptions that the JWT library raises, by the classes that the verifiers name. -/
inductive TokenFault where
  | invalidToken | jwksClient | typeError | valueError | keyError | other
  deriving DecidableEq

/-- What a verifier asks `jwt.decode` to check. -/
structure DecodeChecks where
  algorithm : JWTAlgorithm
  issuer : Str
  audience : Str
  leewaySeconds : ℕ
  deriving DecidableEq

/-- The key that `jwt.decode` takes: a configured text or a key of the identity provider. -/
inductive VerificationKey (κ : Type) where
  | text (key : Str)
  | published (key : κ)

/-- What the JWT library answers within one request. -/
structure JWTLibrary (κ : Type) where
  decode : Str → VerificationKey κ → DecodeChecks → Except TokenFault Claims
  signingKey : Str → Str → Except TokenFault κ

/-- The verifiers. -/
inductive TokenVerifier where
  | localJWT (verificationKey : Str) (checks : DecodeChecks)
  | oidcJWKS (jwksUrl issuer audience : Str) (leewaySeconds : ℕ)
  deriving DecidableEq

namespace TokenVerifier

/-- What a verifier asks the library to check: the external one admits RS256 only. -/
def checks : TokenVerifier → DecodeChecks
  | .localJWT _ checks => checks
  | .oidcJWKS _ issuer audience leewaySeconds => ⟨.rs256, issuer, audience, leewaySeconds⟩

variable {κ : Type} (library : JWTLibrary κ) (folding : CaseFolding)

/-- The errors of the library that a verifier answers with the refusal. -/
def handles : TokenVerifier → TokenFault → Bool
  | _, .other => false
  | .localJWT _ _, .jwksClient => false
  | _, _ => true

/-- The claims that the library decodes for a verifier. -/
def decoded (verifier : TokenVerifier) (token : Str) : Except TokenFault Claims :=
  match verifier with
  | .localJWT verificationKey checks => library.decode token (.text verificationKey) checks
  | .oidcJWKS jwksUrl issuer audience leewaySeconds => do
    let key ← library.signingKey jwksUrl token
    library.decode token (.published key) ⟨.rs256, issuer, audience, leewaySeconds⟩

/-- `verify`. -/
def verify (verifier : TokenVerifier) (token : Str) : Except Failure NamedPrincipal :=
  match verifier.decoded library token with
  | .error fault =>
    .error (if verifier.handles fault then .application .authenticationRequired else .other)
  | .ok claims =>
    match principalFromClaims folding claims with
    | .error .value => .error (.application .authenticationRequired)
    | outcome => outcome

end TokenVerifier

/-! ## What a verified token says -/

section Spec

variable {folding : CaseFolding} {claims : Claims} {p : NamedPrincipal}

/-- A required claim is a text that is not blank. -/
theorem requiredClaim_eq_ok {name text : Str} :
    requiredClaim claims name = .ok text ↔
      claims.get name = some (.str text) ∧ Str.strip text ≠ [] := by
  unfold requiredClaim
  split
  · next s hs =>
    rw [hs]
    split
    · next hblank =>
      constructor
      · exact nofun
      · rintro ⟨⟨⟩, hne⟩
        exact absurd hblank hne
    · next hblank =>
      constructor
      · rintro ⟨⟩
        exact ⟨rfl, hblank⟩
      · rintro ⟨⟨⟩, -⟩
        rfl
  · next hother =>
    constructor
    · exact nofun
    · rintro ⟨htext, -⟩
      exact absurd htext (hother text)

/-- An optional claim is a text where it is there. -/
theorem textClaim_eq_ok {claim : Option Json} {text : Option Str} (h : textClaim claim = .ok text) :
    ∀ s, text = some s → claim = some (.str s) := by
  unfold textClaim at h
  split at h <;> cases h
  · exact nofun
  · exact nofun
  · rintro s ⟨⟩
    rfl

/-- A principal has the values that it was created of. -/
theorem NamedPrincipal.create_eq_ok {subject issuer : Str} {email displayName : Option Str}
    {roles : List Role} (h : NamedPrincipal.create subject email displayName roles issuer = .ok p) :
    p.subject = subject ∧ p.email = email ∧ p.displayName = displayName ∧ p.roles = roles ∧
      p.issuer = issuer := by
  unfold NamedPrincipal.create at h
  split at h <;> cases h
  exact ⟨rfl, rfl, rfl, rfl, rfl⟩

/-- The principal is the one that the claims describe. -/
structure Describes (folding : CaseFolding) (claims : Claims) (p : NamedPrincipal) : Prop where
  subject : claims.get ("sub" : Str) = some (.str p.subject) ∧ Str.strip p.subject ≠ []
  issuer : claims.get ("iss" : Str) = some (.str p.issuer) ∧ Str.strip p.issuer ≠ []
  roles : ∃ values, rawRoles claims = .array values ∧
    List.Forall₂ (fun value role => roleOfClaim folding value = .ok role) values p.roles
  email : ∀ s, p.email = some s → claims.get ("email" : Str) = some (.str s)

/-- The principal is the one that the claims describe. -/
theorem principalFromClaims_eq_ok (h : principalFromClaims folding claims = .ok p) :
    Describes folding claims p := by
  unfold principalFromClaims at h
  obtain ⟨subject, hsubject, h⟩ := except_bind_eq_ok.mp h
  obtain ⟨issuer, hissuer, h⟩ := except_bind_eq_ok.mp h
  split at h
  · next first rest hraw =>
    split at h
    · cases h
    · next roles hroles =>
      obtain ⟨email, hemail, h⟩ := except_bind_eq_ok.mp h
      obtain ⟨displayName, -, h⟩ := except_bind_eq_ok.mp h
      obtain ⟨rfl, rfl, -, rfl, rfl⟩ := NamedPrincipal.create_eq_ok h
      exact
        { subject := requiredClaim_eq_ok.mp hsubject
          issuer := requiredClaim_eq_ok.mp hissuer
          roles := ⟨first :: rest, hraw, except_mapM_eq_ok.mp hroles⟩
          email := textClaim_eq_ok hemail }
  · cases h

/-- What the mapping of the claims may raise: the refusal, or a validation error. -/
def Refuses {α : Type} (x : Except Failure α) : Prop :=
  ∀ failure, x = .error failure → failure = .application .authenticationRequired ∨ failure = .value

/-- A sequence of computations that refuse refuses. -/
theorem Refuses.bind {α β : Type} {x : Except Failure α} {f : α → Except Failure β}
    (hx : Refuses x) (hf : ∀ a, Refuses (f a)) : Refuses (x >>= f) := by
  intro failure h
  cases x with
  | error e =>
    rw [except_error_bind] at h
    exact hx failure (congrArg Except.error (Except.error.inj h))
  | ok a => exact hf a failure h

/-- Claims that describe no principal are refused. -/
theorem principalFromClaims_refuses : Refuses (principalFromClaims folding claims) := by
  have hrefusal : ∀ {α : Type}, Refuses
      (.error (.application .authenticationRequired) : Except Failure α) := by
    rintro α failure ⟨⟩
    exact .inl rfl
  have hrequired : ∀ name, Refuses (requiredClaim claims name) := by
    intro name
    unfold requiredClaim
    split
    · split
      · exact hrefusal
      · exact nofun
    · exact hrefusal
  have htext : ∀ claim, Refuses (textClaim claim) := by
    intro claim
    unfold textClaim
    split
    · exact nofun
    · exact nofun
    · exact nofun
    · exact hrefusal
  unfold principalFromClaims
  refine (hrequired _).bind fun subject => (hrequired _).bind fun issuer => ?_
  split
  · split
    · exact hrefusal
    · refine (htext _).bind fun email => (htext _).bind fun displayName => ?_
      unfold NamedPrincipal.create
      split
      · exact nofun
      · rintro failure ⟨⟩
        exact .inr rfl
  · exact hrefusal

end Spec

section Verify

variable {κ : Type} {library : JWTLibrary κ} {folding : CaseFolding} {verifier : TokenVerifier}
  {token : Str} {p : NamedPrincipal}

/-- A verifier returns the principal of the claims that the library has decoded for it. -/
theorem TokenVerifier.verify_eq_ok :
    verifier.verify library folding token = .ok p ↔ ∃ claims,
      verifier.decoded library token = .ok claims ∧ principalFromClaims folding claims = .ok p := by
  unfold TokenVerifier.verify
  cases verifier.decoded library token with
  | error fault => simp
  | ok claims =>
    dsimp only
    split
    · next hvalue => simp [hvalue]
    · simp

/-- A verifier raises the refusal, unless the library fails in a way that it does not name. -/
theorem TokenVerifier.verify_error {failure : Failure}
    (h : verifier.verify library folding token = .error failure) :
    failure = .application .authenticationRequired ∨
      ∃ fault, verifier.decoded library token = .error fault ∧ verifier.handles fault = false := by
  unfold TokenVerifier.verify at h
  cases hdecoded : verifier.decoded library token with
  | error fault =>
    simp only [hdecoded] at h
    cases hhandles : verifier.handles fault with
    | true =>
      rw [hhandles] at h
      exact .inl (Except.error.inj h).symm
    | false => exact .inr ⟨fault, rfl, hhandles⟩
  | ok claims =>
    rw [hdecoded] at h
    dsimp only at h
    split at h
    · exact .inl (Except.error.inj h).symm
    · next hnot =>
      rcases principalFromClaims_refuses failure h with hrefusal | rfl
      · exact .inl hrefusal
      · exact absurd h hnot

end Verify

end AssessmentPlatform
