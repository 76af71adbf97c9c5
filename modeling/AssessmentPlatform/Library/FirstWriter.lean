import Mathlib.Data.List.Induction
import Mathlib.Logic.Function.Basic
import Mathlib.Tactic.Common

/-!
# Requests that look before they write

Any number of requests share a growing store of entries with keys. A request looks whether
the store has entries with its key. If so, it has lost to the one that is picked of them;
otherwise it prepares an entry and publishes it later, or gives up. Nothing in the store
refuses a second entry with the same key.

In a run, at most one request publishes an entry with a given key, and those that have lost
have lost to the entry that the store would still pick, exactly if every request publishes
while a second look would still find nothing. It suffices that no request looks while another
one with the same key is between its look and its publication.
-/

namespace AssessmentPlatform.Library

/-- The keys of requests and entries, and the entry that a look picks. -/
structure FirstWriter (ι κ ε : Type) where
  key : ι → κ
  keyOf : ε → κ
  pick : List ε → Option ε
  pick_nil : pick [] = none
  pick_cons : ∀ e l, ∃ e' ∈ e :: l, pick (e :: l) = some e'

namespace FirstWriter

/-- How far a request has come. -/
inductive Phase (ε : Type) where
  | idle
  | pending
  | lost (winner : ε)
  | won (entry : ε)
  | failed

/-- The store and the phase of every request. -/
structure System (ι ε : Type) where
  store : List ε
  phase : ι → Phase ε

section Runs

variable {ι κ ε : Type} [DecidableEq ι] [DecidableEq κ]

/-- The entries with a key. -/
def withKey (P : FirstWriter ι κ ε) (k : κ) (store : List ε) : List ε :=
  store.filter fun e => P.keyOf e = k

/-- The entry that a look for a key picks. -/
def lookup (P : FirstWriter ι κ ε) (k : κ) (store : List ε) : Option ε :=
  P.pick (P.withKey k store)

/-- The steps of a request. -/
inductive Step (P : FirstWriter ι κ ε) (s : System ι ε) (i : ι) : System ι ε → Prop
  | lose {winner : ε} (hidle : s.phase i = .idle)
      (hfound : P.lookup (P.key i) s.store = some winner) :
      Step P s i { s with phase := Function.update s.phase i (.lost winner) }
  | claim (hidle : s.phase i = .idle) (hfree : P.lookup (P.key i) s.store = none) :
      Step P s i { s with phase := Function.update s.phase i .pending }
  | publish {entry : ε} (hpending : s.phase i = .pending) (hkey : P.keyOf entry = P.key i) :
      Step P s i
        { store := s.store ++ [entry], phase := Function.update s.phase i (.won entry) }
  | giveUp (hphase : ∀ entry, s.phase i ≠ .won entry) :
      Step P s i { s with phase := Function.update s.phase i .failed }
  | wait : Step P s i s

/-- The request publishes only if a second look would find nothing. -/
def Timely (P : FirstWriter ι κ ε) (s : System ι ε) (i : ι) (s' : System ι ε) : Prop :=
  s'.store ≠ s.store → P.lookup (P.key i) s.store = none

/-- No other request with the same key is between its look and its publication while this one
looks. -/
def Unrivalled (P : FirstWriter ι κ ε) (s : System ι ε) (i : ι) : Prop :=
  s.phase i = .idle → ∀ j, s.phase j = .pending → P.key j ≠ P.key i

/-- No two requests have published entries with the same key, nor has one if the run began
with such an entry, and those that have lost have lost to what the store would still pick. -/
structure Undisputed (P : FirstWriter ι κ ε) (initial : List ε) (s : System ι ε) : Prop where
  won : ∀ i entry, s.phase i = .won entry → P.withKey (P.key i) initial = [] ∧
    P.withKey (P.key i) s.store = [entry] ∧
    ∀ j other, s.phase j = .won other → P.key j = P.key i → j = i
  lost : ∀ i winner, s.phase i = .lost winner → P.lookup (P.key i) s.store = some winner
  unchanged : ∀ k, (∀ i entry, s.phase i = .won entry → P.key i ≠ k) →
    P.withKey k s.store = P.withKey k initial

/-- Where the entries of a run come from. -/
structure Traced (P : FirstWriter ι κ ε) (initial : List ε) (s : System ι ε) : Prop where
  grown : initial <+: s.store
  stored : ∀ entry ∈ s.store, entry ∈ initial ∨ ∃ i, s.phase i = .won entry
  pending : ∀ i, s.phase i = .pending → P.withKey (P.key i) initial = []
  won : ∀ i entry, s.phase i = .won entry → P.keyOf entry = P.key i

/-- At most one request with a key is between its look and its publication, and then the store
has no entry with this key. -/
def Separate (P : FirstWriter ι κ ε) (s : System ι ε) : Prop :=
  ∀ i, s.phase i = .pending → P.withKey (P.key i) s.store = [] ∧
    ∀ j, s.phase j = .pending → P.key j = P.key i → j = i

variable {P : FirstWriter ι κ ε} {initial : List ε} {s s' : System ι ε} {i : ι}

/-! ## Looking -/

omit [DecidableEq ι] in
/-- Nothing is found under a key if no entry has it. -/
theorem lookup_eq_none_iff {k : κ} {store : List ε} :
    P.lookup k store = none ↔ P.withKey k store = [] := by
  unfold lookup
  constructor
  · intro h
    cases hentries : P.withKey k store with
    | nil => rfl
    | cons e l =>
      obtain ⟨e', -, hpick⟩ := P.pick_cons e l
      rw [hentries, hpick] at h
      cases h
  · intro h
    rw [h, P.pick_nil]

omit [DecidableEq ι] in
/-- An entry under the key comes last among those. -/
theorem withKey_concat_of_eq {k : κ} {store : List ε} {entry : ε} (h : P.keyOf entry = k) :
    P.withKey k (store ++ [entry]) = P.withKey k store ++ [entry] := by
  simp [withKey, h]

omit [DecidableEq ι] in
/-- An entry under another key is not among those. -/
theorem withKey_concat_of_ne {k : κ} {store : List ε} {entry : ε} (h : P.keyOf entry ≠ k) :
    P.withKey k (store ++ [entry]) = P.withKey k store := by
  simp [withKey, h]

omit [DecidableEq ι] in
/-- The entries under a key are extended with the store. -/
theorem withKey_prefix {k : κ} {store store' : List ε} (h : store <+: store') :
    P.withKey k store <+: P.withKey k store' := by
  obtain ⟨rest, rfl⟩ := h
  exact ⟨P.withKey k rest, by simp [withKey]⟩

/-! ## One step -/

omit [DecidableEq ι] in
/-- At the start no key is disputed. -/
theorem undisputed_start (store : List ε) :
    Undisputed P store { store, phase := fun _ => .idle } where
  won := nofun
  lost := nofun
  unchanged _ _ := rfl

/-- A request that has not won moves to a phase in which it has not won. -/
theorem Undisputed.setPhase {phase : Phase ε} (h : Undisputed P initial s)
    (hbefore : ∀ entry, s.phase i ≠ .won entry) (hwon : ∀ entry, phase ≠ .won entry)
    (hlost : ∀ winner, phase = .lost winner → P.lookup (P.key i) s.store = some winner) :
    Undisputed P initial { s with phase := Function.update s.phase i phase } where
  won j entry hj := by
    have hji : j ≠ i := by
      rintro rfl
      exact hwon entry (by simpa using hj)
    obtain ⟨hinitial, hstore, hunique⟩ := h.won j entry (by simpa [hji] using hj)
    refine ⟨hinitial, hstore, fun k other hk hkey => ?_⟩
    have hki : k ≠ i := by
      rintro rfl
      exact hwon other (by simpa using hk)
    exact hunique k other (by simpa [hki] using hk) hkey
  lost j winner hj := by
    by_cases hji : j = i
    · subst hji
      exact hlost winner (by simpa using hj)
    · exact h.lost j winner (by simpa [hji] using hj)
  unchanged k hk := by
    refine h.unchanged k fun j entry hj => ?_
    have hji : j ≠ i := by
      rintro rfl
      exact hbefore entry hj
    exact hk j entry (by simpa [hji] using hj)

/-- A pending request publishes its entry while the store has none with the same key. -/
theorem Undisputed.publish {entry : ε} (h : Undisputed P initial s)
    (hpending : s.phase i = .pending) (hkey : P.keyOf entry = P.key i)
    (hfree : P.withKey (P.key i) s.store = []) :
    Undisputed P initial
      { store := s.store ++ [entry], phase := Function.update s.phase i (.won entry) } := by
  -- nobody has won with this key, since the store has no entry with it
  have hnobody : ∀ j other, s.phase j = .won other → P.key j ≠ P.key i := by
    intro j other hj hji
    have hstore := (h.won j other hj).2.1
    rw [hji, hfree] at hstore
    cases hstore
  refine ⟨fun j other hj => ?_, fun j winner hj => ?_, fun k hk => ?_⟩
  · by_cases hji : j = i
    · subst hji
      have heq : entry = other := by simpa using hj
      subst heq
      refine ⟨(h.unchanged _ hnobody).symm.trans hfree, ?_, fun k other hk hkj => ?_⟩
      · rw [withKey_concat_of_eq hkey, hfree]
        rfl
      · by_contra hki
        exact hnobody k other (by simpa [hki] using hk) hkj
    · have hj' : s.phase j = .won other := by simpa [hji] using hj
      have hne : P.keyOf entry ≠ P.key j := fun heq => hnobody j other hj' (heq.symm.trans hkey)
      obtain ⟨hinitial, hstore, hunique⟩ := h.won j other hj'
      refine ⟨hinitial, by rw [withKey_concat_of_ne hne, hstore], fun k another hk hkj => ?_⟩
      by_cases hki : k = i
      · subst hki
        exact absurd hkj.symm (hnobody j other hj')
      · exact hunique k another (by simpa [hki] using hk) hkj
  · have hji : j ≠ i := by
      rintro rfl
      simp at hj
    have hlost := h.lost j winner (by simpa [hji] using hj)
    have hne : P.keyOf entry ≠ P.key j := by
      intro heq
      rw [← heq, hkey, lookup_eq_none_iff.mpr hfree] at hlost
      cases hlost
    rw [lookup, withKey_concat_of_ne hne]
    exact hlost
  · have hne : P.keyOf entry ≠ k := by
      rw [hkey]
      exact hk i entry (by simp)
    rw [withKey_concat_of_ne hne]
    refine h.unchanged k fun j other hj => ?_
    by_cases hji : j = i
    · subst hji
      rw [hpending] at hj
      cases hj
    · exact hk j other (by simpa [hji] using hj)

/-- A timely step preserves what holds. -/
theorem Undisputed.step (h : Undisputed P initial s) (hstep : P.Step s i s')
    (htimely : P.Timely s i s') : Undisputed P initial s' := by
  cases hstep with
  | lose hidle hfound =>
    exact h.setPhase (by simp [hidle]) nofun fun winner heq => by cases heq; exact hfound
  | claim hidle => exact h.setPhase (by simp [hidle]) nofun nofun
  | publish hpending hkey =>
    exact h.publish hpending hkey (lookup_eq_none_iff.mp (htimely (by simp)))
  | giveUp hphase => exact h.setPhase hphase nofun nofun
  | wait => exact h

omit [DecidableEq ι] in
/-- At the start every entry is there already. -/
theorem traced_start (store : List ε) : Traced P store { store, phase := fun _ => .idle } where
  grown := List.prefix_rfl
  stored _ hentry := .inl hentry
  pending := nofun
  won := nofun

/-- A change of phase keeps the trace if it tells of no publication. -/
theorem Traced.setPhase {phase : Phase ε} (h : Traced P initial s)
    (hbefore : ∀ entry, s.phase i ≠ .won entry) (hwon : ∀ entry, phase ≠ .won entry)
    (hpending : phase = .pending → P.withKey (P.key i) initial = []) :
    Traced P initial { s with phase := Function.update s.phase i phase } where
  grown := h.grown
  stored entry hentry := by
    refine (h.stored entry hentry).imp_right fun ⟨j, hj⟩ => ⟨j, ?_⟩
    have hji : j ≠ i := by
      rintro rfl
      exact hbefore entry hj
    simpa [hji] using hj
  pending j hj := by
    by_cases hji : j = i
    · subst hji
      exact hpending (by simpa using hj)
    · exact h.pending j (by simpa [hji] using hj)
  won j entry hj := by
    have hji : j ≠ i := by
      rintro rfl
      exact hwon entry (by simpa using hj)
    exact h.won j entry (by simpa [hji] using hj)

/-- A publication is traced. -/
theorem Traced.publish {entry : ε} (h : Traced P initial s) (hpending : s.phase i = .pending)
    (hkey : P.keyOf entry = P.key i) :
    Traced P initial
      { store := s.store ++ [entry], phase := Function.update s.phase i (.won entry) } where
  grown := h.grown.trans (List.prefix_append _ _)
  stored e he := by
    rcases List.mem_append.mp he with he | he
    · refine (h.stored e he).imp_right fun ⟨j, hj⟩ => ⟨j, ?_⟩
      have hji : j ≠ i := by
        rintro rfl
        rw [hpending] at hj
        cases hj
      simpa [hji] using hj
    · rw [List.mem_singleton.mp he]
      exact .inr ⟨i, by simp⟩
  pending j hj := by
    have hji : j ≠ i := by
      rintro rfl
      simp at hj
    exact h.pending j (by simpa [hji] using hj)
  won j e hj := by
    by_cases hji : j = i
    · subst hji
      have heq : entry = e := by simpa using hj
      rw [← heq, hkey]
    · exact h.won j e (by simpa [hji] using hj)

/-- A step keeps the trace. -/
theorem Traced.step (h : Traced P initial s) (hstep : P.Step s i s') : Traced P initial s' := by
  cases hstep with
  | lose hidle => exact h.setPhase (by simp [hidle]) nofun nofun
  | claim hidle hfree =>
    refine h.setPhase (by simp [hidle]) nofun fun _ => ?_
    have hprefix := withKey_prefix (P := P) (k := P.key i) h.grown
    rw [lookup_eq_none_iff.mp hfree] at hprefix
    exact List.prefix_nil.mp hprefix
  | publish hpending hkey => exact h.publish hpending hkey
  | giveUp hphase => exact h.setPhase hphase nofun nofun
  | wait => exact h

/-- A step that does not lead to two entries with the same key is timely: an entry that a
second look finds belongs to another request with this key. -/
theorem Traced.timely (h : Traced P initial s) (hstep : P.Step s i s')
    (hunique : ∀ j k entry other, s'.phase j = .won entry → s'.phase k = .won other →
      P.key k = P.key j → k = j) : P.Timely s i s' := by
  intro hstore
  cases hstep with
  | lose | claim | giveUp | wait => exact absurd rfl hstore
  | @publish entry hpending hkey =>
    rw [lookup_eq_none_iff, List.eq_nil_iff_forall_not_mem]
    intro other hother
    have hmem := List.mem_filter.mp hother
    rcases h.stored other hmem.1 with hinitial | ⟨j, hj⟩
    · have hkeyed : other ∈ P.withKey (P.key i) initial := List.mem_filter.mpr ⟨hinitial, hmem.2⟩
      rw [h.pending i hpending] at hkeyed
      cases hkeyed
    · have hji : j ≠ i := by
        rintro rfl
        rw [hpending] at hj
        cases hj
      have hsame : P.key j = P.key i := by
        rw [← h.won j other hj]
        simpa using hmem.2
      exact hji (hunique i j entry other (by simp) (by simpa [hji] using hj) hsame)

omit [DecidableEq ι] in
/-- At the start the pending keys are separate. -/
theorem separate_start (store : List ε) : Separate P { store, phase := fun _ => .idle } := nofun

/-- A phase that is not pending keeps the keys separate. -/
theorem Separate.setPhase {phase : Phase ε} (h : Separate P s) (hpending : phase ≠ .pending) :
    Separate P { s with phase := Function.update s.phase i phase } := by
  intro j hj
  have hji : j ≠ i := by
    rintro rfl
    exact hpending (by simpa using hj)
  obtain ⟨hfree, hunique⟩ := h j (by simpa [hji] using hj)
  refine ⟨hfree, fun k hk hkey => ?_⟩
  have hki : k ≠ i := by
    rintro rfl
    exact hpending (by simpa using hk)
  exact hunique k (by simpa [hki] using hk) hkey

/-- A request without rivals begins to prepare an entry. -/
theorem Separate.claim (h : Separate P s) (hidle : s.phase i = .idle)
    (hfree : P.lookup (P.key i) s.store = none) (hrivals : P.Unrivalled s i) :
    Separate P { s with phase := Function.update s.phase i .pending } := by
  intro j hj
  by_cases hji : j = i
  · subst hji
    refine ⟨lookup_eq_none_iff.mp hfree, fun k hk hkey => ?_⟩
    by_contra hki
    exact hrivals hidle k (by simpa [hki] using hk) hkey
  · have hj' : s.phase j = .pending := by simpa [hji] using hj
    obtain ⟨hfree', hunique⟩ := h j hj'
    refine ⟨hfree', fun k hk hkey => ?_⟩
    by_cases hki : k = i
    · subst hki
      exact absurd hkey.symm (hrivals hidle j hj')
    · exact hunique k (by simpa [hki] using hk) hkey

/-- A step without rivals keeps the keys separate. -/
theorem Separate.step (h : Separate P s) (hrivals : P.Unrivalled s i) (hstep : P.Step s i s') :
    Separate P s' := by
  cases hstep with
  | lose => exact h.setPhase nofun
  | claim hidle hfree => exact h.claim hidle hfree hrivals
  | giveUp => exact h.setPhase nofun
  | wait => exact h
  | @publish entry hpending hkey =>
    intro j hj
    have hji : j ≠ i := by
      rintro rfl
      simp at hj
    have hj' : s.phase j = .pending := by simpa [hji] using hj
    have hne : P.keyOf entry ≠ P.key j := fun heq =>
      hji ((h i hpending).2 j hj' (heq.symm.trans hkey))
    refine ⟨by rw [withKey_concat_of_ne hne, (h j hj').1], fun k hk hkj => ?_⟩
    have hki : k ≠ i := by
      rintro rfl
      simp at hk
    exact (h j hj').2 k (by simpa [hki] using hk) hkj

/-- With separate keys every step is timely. -/
theorem Separate.timely (h : Separate P s) (hstep : P.Step s i s') : P.Timely s i s' := by
  intro hstore
  cases hstep with
  | lose | claim | giveUp | wait => exact absurd rfl hstore
  | publish hpending => exact lookup_eq_none_iff.mpr (h i hpending).1

/-! ## Runs -/

section History

variable (history : List ι → System ι ε) {schedule : List ι}

omit [DecidableEq ι] in
/-- A property of the first state that the steps of a run preserve holds in every state of
the run. -/
theorem history_induction {motive : System ι ε → Prop} (hstart : motive (history []))
    (hstep : ∀ done i, done ++ [i] <+: schedule → motive (history done) →
      motive (history (done ++ [i]))) :
    ∀ done, done <+: schedule → motive (history done) := by
  intro done
  induction done using List.reverseRecOn with
  | nil => exact fun _ => hstart
  | append_singleton done i ih =>
    exact fun hdone => hstep done i hdone (ih ((List.prefix_append done [i]).trans hdone))

/-- A run whose steps are timely stays undisputed. -/
theorem undisputed_of_timely
    (hstart : history [] = { store := initial, phase := fun _ => .idle })
    (hstep : ∀ done i, done ++ [i] <+: schedule →
      P.Step (history done) i (history (done ++ [i])))
    (htimely : ∀ done i, done ++ [i] <+: schedule →
      P.Timely (history done) i (history (done ++ [i]))) :
    ∀ done, done <+: schedule → Undisputed P initial (history done) :=
  history_induction history (hstart ▸ undisputed_start initial)
    fun done i hdone h => h.step (hstep done i hdone) (htimely done i hdone)

/-- The steps of a run in which no two requests publish entries with the same key are
timely. -/
theorem timely_of_unique
    (hstart : history [] = { store := initial, phase := fun _ => .idle })
    (hstep : ∀ done i, done ++ [i] <+: schedule →
      P.Step (history done) i (history (done ++ [i])))
    (hunique : ∀ done, done <+: schedule → ∀ i j entry other,
      (history done).phase i = .won entry → (history done).phase j = .won other →
      P.key j = P.key i → j = i) :
    ∀ done i, done ++ [i] <+: schedule → P.Timely (history done) i (history (done ++ [i])) := by
  have htraced : ∀ done, done <+: schedule → Traced P initial (history done) :=
    history_induction history (hstart ▸ traced_start initial)
      fun done i hdone h => h.step (hstep done i hdone)
  intro done i hdone
  exact (htraced done ((List.prefix_append done [i]).trans hdone)).timely (hstep done i hdone)
    (hunique _ hdone)

/-- The steps of a run without rivals are timely. -/
theorem timely_of_unrivalled
    (hstart : history [] = { store := initial, phase := fun _ => .idle })
    (hstep : ∀ done i, done ++ [i] <+: schedule →
      P.Step (history done) i (history (done ++ [i])))
    (hrivals : ∀ done i, done ++ [i] <+: schedule → P.Unrivalled (history done) i) :
    ∀ done i, done ++ [i] <+: schedule → P.Timely (history done) i (history (done ++ [i])) := by
  have hseparate : ∀ done, done <+: schedule → Separate P (history done) :=
    history_induction history (hstart ▸ separate_start initial)
      fun done i hdone h => h.step (hrivals done i hdone) (hstep done i hdone)
  intro done i hdone
  exact (hseparate done ((List.prefix_append done [i]).trans hdone)).timely (hstep done i hdone)

end History

end Runs

end FirstWriter

end AssessmentPlatform.Library
