import AssessmentPlatform.Library.Program

/-!
# Running a program again

A program that only adds to a state finds everything that it needs when it is run again on the
state that it has left, or on a larger one, and then it changes nothing. What a program
establishes must stay true in larger states. The second run may be interrupted, but not by what
the program itself raises.
-/

namespace AssessmentPlatform.Library

/-- Which states are larger than others, and which the programs do not tell apart. -/
structure Growth (σ : Type) where
  le : σ → σ → Prop
  same : σ → σ → Prop
  le_refl : ∀ s, le s s
  le_trans : ∀ {s t u}, le s t → le t u → le s u
  same_refl : ∀ s, same s s
  same_trans : ∀ {s t u}, same s t → same t u → same s u
  le_same : ∀ {s t u}, le s t → same t u → le s u

namespace Prog

variable {σ ε α β ι : Type} (G : Growth σ) (interrupted : ε → Prop)

/-- If the first program returns, it has enlarged the state, and in every state that is at least
as large the second program returns a related value or is interrupted, and changes nothing. -/
def Replays (R : α → α → Prop) (x y : Prog σ ε α) : Prop :=
  ∀ s a s', exec x s = (.ok a, s') → G.le s s' ∧
    ∀ t, G.le s' t → Triple (· = t) y (fun b t' => R a b ∧ G.same t t')
      (fun e t' => interrupted e ∧ G.same t t')

variable {G interrupted} {R : α → α → Prop} {S : β → β → Prop} {x y : Prog σ ε α}

/-- A replay is one for weaker relations as well. -/
theorem Replays.mono {interrupted' : ε → Prop} {R' : α → α → Prop}
    (h : Replays G interrupted R x y) (hR : ∀ a b, R a b → R' a b)
    (hinterrupted : ∀ e, interrupted e → interrupted' e) : Replays G interrupted' R' x y := by
  intro s a s' hexec
  obtain ⟨hle, hy⟩ := h s a s' hexec
  exact ⟨hle, fun t ht => (hy t ht).conseq (fun _ hu => hu) (fun b _ hb => ⟨hR a b hb.1, hb.2⟩)
    (fun e _ he => ⟨hinterrupted e he.1, he.2⟩)⟩

/-- A value is replayed by a related value. -/
theorem Replays.pure {a a' : α} (h : R a a') :
    Replays G interrupted R (pure a : Prog σ ε α) (pure a') := by
  intro s b s' hx
  cases hx
  refine ⟨G.le_refl s, fun t _ => triple_pure fun u hu => ?_⟩
  subst hu
  exact ⟨h, G.same_refl u⟩

/-- A program that raises establishes nothing. -/
theorem Replays.throw (e : ε) : Replays G interrupted R (throw e : Prog σ ε α) y :=
  fun _ _ _ hx => nomatch hx

/-- What the first program establishes is found by the second one. -/
theorem Replays.of_established (established : α → σ → Prop)
    (hx : ∀ s, Triple (· = s) x (fun a s' => G.le s s' ∧ established a s') (fun _ _ => True))
    (hgrows : ∀ a s t, G.le s t → established a s → established a t)
    (hy : ∀ a t, established a t → Triple (· = t) y (fun b t' => R a b ∧ G.same t t')
      (fun e t' => interrupted e ∧ G.same t t')) : Replays G interrupted R x y := by
  intro s a s' hexec
  obtain ⟨hle, hestablished⟩ := (hx s).of_ok rfl hexec
  exact ⟨hle, fun t ht => hy a t (hgrows a s' t ht hestablished)⟩

/-- Sequences are run again part by part. -/
theorem Replays.bind {f g : α → Prog σ ε β} (h : Replays G interrupted R x y)
    (hrefl : ∀ a, R a a)
    (hf : ∀ a a', R a a' → Replays G interrupted S (f a) (g a')) :
    Replays G interrupted S (x >>= f) (y >>= g) := by
  intro s b s' hexec
  obtain ⟨a, s₁, hx, hrest⟩ := exec_bind_eq_ok hexec
  obtain ⟨hle, hy⟩ := h s a s₁ hx
  obtain ⟨hle', -⟩ := hf a a (hrefl a) s₁ b s' hrest
  refine ⟨G.le_trans hle hle', fun t ht => (hy t (G.le_trans hle' ht)).bind fun a' => ?_⟩
  -- the second program starts the rest from a state that it does not tell apart
  intro t₁ ⟨hrelated, hsame⟩
  obtain ⟨-, hg⟩ := hf a a' hrelated s₁ b s' hrest
  exact (hg t₁ (G.le_same ht hsame)).conseq (fun _ hu => hu)
    (fun _ _ hb => ⟨hb.1, G.same_trans hsame hb.2⟩)
    (fun _ _ he => ⟨he.1, G.same_trans hsame he.2⟩) t₁ rfl

/-- Loops over one list are run again step by step. -/
theorem Replays.foldlM {f g : α → ι → Prog σ ε α} (items : List ι)
    (hstep : ∀ a a' item, item ∈ items → R a a' →
      Replays G interrupted R (f a item) (g a' item)) {a a' : α} (ha : R a a')
    (hrefl : ∀ a, R a a) :
    Replays G interrupted R (items.foldlM f a) (items.foldlM g a') := by
  induction items generalizing a a' with
  | nil => exact .pure ha
  | cons item items ih =>
    rw [List.foldlM_cons, List.foldlM_cons]
    refine (hstep a a' item List.mem_cons_self ha).bind hrefl fun b b' hb => ih ?_ hb
    exact fun c c' other hother => hstep c c' other (List.mem_cons_of_mem _ hother)

end Prog

end AssessmentPlatform.Library
