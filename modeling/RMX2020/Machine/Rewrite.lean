import Mathlib.Data.List.Basic

/-!
# Rewriting a list with a state

A pass over a list that rewrites its elements one after the other, carries a state from each element
to the next and stops at the first error. What every turn does to its element is lifted to the whole
pass: a projection no turn changes (`rewrite_map_eq`), a property every turn keeps
(`rewrite_forall`), turns that change nothing the second time (`rewrite_rewrite`) or nothing that
another pass looks at (`rewrite_rewritten`), turns that also succeed on another element
(`rewrite_map`). Where the state is a function of the elements before (`Tracks`), a pass is
described element by element (`rewrite_get`) and so is the kind of its errors
(`rewrite_errors_iff`).
-/

namespace Machine

variable {σ α β ε : Type*}

/-- Rewrite the elements of a list in turn, up to the first error. -/
def rewrite (f : σ → α → Except ε (σ × α)) (s : σ) : List α → Except ε (List α)
  | [] => .ok []
  | a :: as =>
    match f s a with
    | .error e => .error e
    | .ok (s, a) => (rewrite f s as).map (a :: ·)

/-- Each turn leaves the state that the elements up to its own determine. -/
def Tracks (f : σ → α → Except ε (σ × α)) (state : List α → σ) : Prop :=
  ∀ ⦃above : List α⦄ ⦃a b : α⦄ ⦃s : σ⦄, f (state above) a = .ok (s, b) → s = state (above ++ [a])

section Rewrite

variable {f : σ → α → Except ε (σ × α)} {s : σ} {a : α} {as bs : List α}

theorem rewrite_cons_error {e : ε} (h : f s a = .error e) : rewrite f s (a :: as) = .error e := by
  rw [rewrite, h]

theorem rewrite_cons {s' : σ} {b : α} (h : f s a = .ok (s', b)) :
    rewrite f s (a :: as) = (rewrite f s' as).map (b :: ·) := by
  rw [rewrite, h]

theorem rewrite_cons_ok (h : rewrite f s (a :: as) = .ok bs) :
    ∃ s' b bs', f s a = .ok (s', b) ∧ rewrite f s' as = .ok bs' ∧ bs = b :: bs' := by
  cases hturn : f s a with
  | error e =>
    rw [rewrite_cons_error hturn] at h
    cases h
  | ok r =>
    obtain ⟨s', b⟩ := r
    rw [rewrite_cons hturn] at h
    cases hrest : rewrite f s' as with
    | error e =>
      rw [hrest] at h
      cases h
    | ok bs' =>
      rw [hrest] at h
      cases h
      exact ⟨s', b, bs', rfl, hrest, rfl⟩

/-- What no turn changes of its element, the pass changes of none. -/
theorem rewrite_map_eq {k : α → β} (h : ∀ {s a s' b}, f s a = .ok (s', b) → k b = k a)
    (hpass : rewrite f s as = .ok bs) : bs.map k = as.map k := by
  induction as generalizing s bs with
  | nil =>
    cases hpass
    rfl
  | cons a as ih =>
    obtain ⟨s', b, bs', hturn, hrest, rfl⟩ := rewrite_cons_ok hpass
    rw [List.map_cons, List.map_cons, h hturn, ih hrest]

theorem rewrite_length (hpass : rewrite f s as = .ok bs) : bs.length = as.length := by
  have hmap := congrArg List.length (rewrite_map_eq (k := fun _ => ()) (fun _ => rfl) hpass)
  rwa [List.length_map, List.length_map] at hmap

/-- What every turn keeps true of its element is kept true of all. -/
theorem rewrite_forall {P : α → Prop} (h : ∀ {s a s' b}, f s a = .ok (s', b) → P a → P b)
    (hpass : rewrite f s as = .ok bs) (has : ∀ a ∈ as, P a) : ∀ b ∈ bs, P b := by
  induction as generalizing s bs with
  | nil =>
    cases hpass
    exact has
  | cons a as ih =>
    obtain ⟨s', b, bs', hturn, hrest, rfl⟩ := rewrite_cons_ok hpass
    rw [List.forall_mem_cons] at has ⊢
    exact ⟨h hturn has.1, ih hrest has.2⟩

/-- If every turn would change nothing the second time, neither would the pass. -/
theorem rewrite_rewrite (h : ∀ {s a s' b}, f s a = .ok (s', b) → f s b = .ok (s', b))
    (hpass : rewrite f s as = .ok bs) : rewrite f s bs = .ok bs := by
  induction as generalizing s bs with
  | nil =>
    cases hpass
    rfl
  | cons a as ih =>
    obtain ⟨s', b, bs', hturn, hrest, rfl⟩ := rewrite_cons_ok hpass
    rw [rewrite_cons (h hturn), ih hrest]
    rfl

/-- Where a second pass would take what a first one makes of an element as it takes the element,
with the state that the first one leaves, it takes the whole list as it was before the first. -/
theorem rewrite_rewritten {g : σ → α → Except ε (σ × α)}
    (h : ∀ {s a s' b}, f s a = .ok (s', b) →
      g s b = g s a ∧ ∀ t c, g s a = .ok (t, c) → t = s')
    (hpass : rewrite f s as = .ok bs) : rewrite g s bs = rewrite g s as := by
  induction as generalizing s bs with
  | nil =>
    cases hpass
    rfl
  | cons a as ih =>
    obtain ⟨s', b, bs', hturn, hrest, rfl⟩ := rewrite_cons_ok hpass
    obtain ⟨hsame, hstate⟩ := h hturn
    cases hnext : g s a with
    | error e => rw [rewrite_cons_error hnext, rewrite_cons_error (hsame.trans hnext)]
    | ok r =>
      obtain ⟨t, c⟩ := r
      obtain rfl := hstate t c hnext
      rw [rewrite_cons hnext, rewrite_cons (hsame.trans hnext), ih hrest]

/-- If every turn that succeeds also succeeds on the image of its element, with the same state left,
then so does the pass. -/
theorem rewrite_map {k : α → α}
    (h : ∀ {s a s' b}, f s a = .ok (s', b) → ∃ c, f s (k a) = .ok (s', c))
    (hpass : rewrite f s as = .ok bs) : ∃ cs, rewrite f s (as.map k) = .ok cs := by
  induction as generalizing s bs with
  | nil => exact ⟨[], rfl⟩
  | cons a as ih =>
    obtain ⟨s', b, bs', hturn, hrest, rfl⟩ := rewrite_cons_ok hpass
    obtain ⟨c, hc⟩ := h hturn
    obtain ⟨cs, hcs⟩ := ih hrest
    refine ⟨c :: cs, ?_⟩
    rw [List.map_cons, rewrite_cons hc, hcs]
    rfl

end Rewrite

/-! ## Element by element -/

section Tracks

variable {f : σ → α → Except ε (σ × α)} {state : List α → σ} {above as bs : List α}

theorem rewrite_get (ht : Tracks f state) (hpass : rewrite f (state above) as = .ok bs) {i : Nat}
    {a : α} (ha : as[i]? = some a) :
    ∃ b, bs[i]? = some b ∧
      f (state (above ++ as.take i)) a = .ok (state (above ++ as.take i ++ [a]), b) := by
  induction as generalizing above bs i with
  | nil => cases ha
  | cons a' as ih =>
    obtain ⟨s', b, bs', hturn, hrest, rfl⟩ := rewrite_cons_ok hpass
    obtain rfl := ht hturn
    cases i with
    | zero =>
      cases ha
      exact ⟨b, rfl, by simpa using hturn⟩
    | succ i =>
      obtain ⟨b', hb', hturn'⟩ := ih hrest ha
      exact ⟨b', hb', by simpa using hturn'⟩

/-- Every error of a pass is of a kind if and only if every turn that would fail in another way
comes after one that fails in this way. -/
theorem rewrite_errors_iff (ht : Tracks f state) {P : ε → Prop} :
    (∀ e, rewrite f (state above) as = .error e → P e) ↔
      ∀ i a e, as[i]? = some a → f (state (above ++ as.take i)) a = .error e → ¬ P e →
        ∃ j < i, ∃ b e', as[j]? = some b ∧
          f (state (above ++ as.take j)) b = .error e' ∧ P e' := by
  induction as generalizing above with
  | nil => simp [rewrite]
  | cons a as ih =>
    cases hturn : f (state above) a with
    | error e =>
      rw [rewrite_cons_error hturn]
      constructor
      · intro hP i b e' hb hturn' hne
        cases i with
        | zero =>
          cases hb
          rw [List.take_zero, List.append_nil, hturn] at hturn'
          cases hturn'
          exact absurd (hP e rfl) hne
        | succ i => exact ⟨0, i.succ_pos, a, e, rfl, by simpa using hturn, hP e rfl⟩
      · rintro hfirst _ ⟨⟩
        by_contra hne
        obtain ⟨j, hj, -⟩ := hfirst 0 a e rfl (by simpa using hturn) hne
        exact absurd hj j.not_lt_zero
    | ok r =>
      obtain ⟨s', b⟩ := r
      obtain rfl := ht hturn
      have herror (e : ε) : rewrite f (state above) (a :: as) = .error e ↔
          rewrite f (state (above ++ [a])) as = .error e := by
        rw [rewrite_cons hturn]
        cases rewrite f (state (above ++ [a])) as <;> simp [Except.map]
      simp only [herror, ih]
      constructor
      · intro hfirst i a' e ha' hturn' hne
        cases i with
        | zero =>
          cases ha'
          rw [List.take_zero, List.append_nil, hturn] at hturn'
          cases hturn'
        | succ i =>
          obtain ⟨j, hj, b', e', hb', hturn'', hP⟩ :=
            hfirst i a' e ha' (by simpa using hturn') hne
          exact ⟨j + 1, Nat.succ_lt_succ hj, b', e', hb', by simpa using hturn'', hP⟩
      · intro hfirst i a' e ha' hturn' hne
        obtain ⟨j, hj, b', e', hb', hturn'', hP⟩ :=
          hfirst (i + 1) a' e ha' (by simpa using hturn') hne
        cases j with
        | zero =>
          cases hb'
          rw [List.take_zero, List.append_nil, hturn] at hturn''
          cases hturn''
        | succ j =>
          exact ⟨j, Nat.lt_of_succ_lt_succ hj, b', e', hb', by simpa using hturn'', hP⟩

end Tracks

end Machine
