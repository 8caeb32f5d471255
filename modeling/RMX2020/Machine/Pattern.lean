import Mathlib.Data.List.Induction
import Mathlib.Data.List.Pairwise

/-!
# Replacing the matches of patterns

Patterns of a fixed length, whose places each take one symbol or any symbol but one. `found` are the
places where a search from left to right finds a pattern, each time going on behind the match, and
`sub` puts a replacement there. `Apart` says that two patterns clash however they overlap: a match
of one then shares no place with a match of the other (`Apart.disjoint`).

A list of rules that are apart, from each other and from what they put in (`Separate`), replaces
exactly the matches that the text has before (`replaced_rewriteAll`). Such a list can be applied in
any order (`rewriteAll_perm`), and a second time it changes nothing (`rewriteAll_rewriteAll`).
-/

namespace Machine

/-- One place of a pattern. -/
inductive Item (α : Type*) where
  | lit (c : α)
  | anyBut (c : α)
  deriving DecidableEq

variable {α : Type*} [DecidableEq α]

namespace Item

def accepts : Item α → α → Bool
  | lit c, b => b = c
  | anyBut c, b => b ≠ c

/-- No symbol fits both places. -/
def clashes : Item α → Item α → Bool
  | lit c, lit c' => c ≠ c'
  | lit c, anyBut c' => c = c'
  | anyBut c, lit c' => c = c'
  | anyBut _, anyBut _ => false

theorem not_accepts_of_clashes {x y : Item α} {c : α} (h : x.clashes y) (hx : x.accepts c)
    (hy : y.accepts c) : False := by
  cases x <;> cases y <;> simp_all [clashes, accepts]

end Item

/-- The pattern of a text that is meant literally. -/
def literally (text : List α) : List (Item α) := text.map .lit

/-! ## Matches -/

def startsWith : List (Item α) → List α → Bool
  | [], _ => true
  | _ :: _, [] => false
  | x :: p, c :: s => x.accepts c && startsWith p s

/-- The pattern matches at this place of the text. -/
def MatchAt (p : List (Item α)) (s : List α) (j : Nat) : Prop := startsWith p (s.drop j)

instance (p : List (Item α)) (s : List α) (j : Nat) : Decidable (MatchAt p s j) :=
  inferInstanceAs (Decidable (_ = true))

/-- Place `i` is one of those of a match at `j`. -/
def Covers (p : List (Item α)) (j i : Nat) : Prop := j ≤ i ∧ i < j + p.length

instance (p : List (Item α)) (j i : Nat) : Decidable (Covers p j i) :=
  inferInstanceAs (Decidable (_ ∧ _))

section Match

variable {p q : List (Item α)} {s t : List α} {i j : Nat}

theorem startsWith_iff : startsWith p s ↔
    ∀ (k : Nat) (x : Item α), p[k]? = some x → ∃ c, s[k]? = some c ∧ x.accepts c := by
  induction p generalizing s with
  | nil => simp [startsWith]
  | cons x p ih =>
    cases s with
    | nil =>
      constructor
      · intro h
        cases h
      · intro h
        obtain ⟨c, hc, -⟩ := h 0 x rfl
        cases hc
    | cons c s =>
      rw [startsWith, Bool.and_eq_true, ih]
      constructor
      · rintro ⟨hc, hrest⟩ k y hy
        cases k with
        | zero =>
          cases hy
          exact ⟨c, rfl, hc⟩
        | succ k => exact hrest k y hy
      · intro h
        refine ⟨?_, fun k y hy => h (k + 1) y hy⟩
        obtain ⟨c', hc', haccepts⟩ := h 0 x rfl
        cases hc'
        exact haccepts

theorem matchAt_iff : MatchAt p s j ↔
    ∀ (k : Nat) (x : Item α), p[k]? = some x → ∃ c, s[j + k]? = some c ∧ x.accepts c := by
  simp only [MatchAt, startsWith_iff, List.getElem?_drop]

/-- A match depends on its own places only. -/
theorem matchAt_congr (h : ∀ i, Covers p j i → s[i]? = t[i]?) : MatchAt p s j ↔ MatchAt p t j := by
  simp only [matchAt_iff]
  refine forall_congr' fun k => forall_congr' fun x => forall_congr' fun hx => ?_
  have hk : k < p.length := (List.getElem?_eq_some_iff.1 hx).1
  rw [h (j + k) ⟨Nat.le_add_right j k, Nat.add_lt_add_left hk j⟩]

theorem matchAt_literally {text : List α} :
    MatchAt (literally text) s j ↔
      ∀ (k : Nat) (c : α), text[k]? = some c → s[j + k]? = some c := by
  simp only [matchAt_iff, literally, List.getElem?_map, Option.map_eq_some_iff]
  constructor
  · intro h k c hc
    obtain ⟨c', hc', haccepts⟩ := h k (.lit c) ⟨c, hc, rfl⟩
    rw [hc', of_decide_eq_true haccepts]
  · rintro h k _ ⟨c, hc, rfl⟩
    exact ⟨c, h k c hc, decide_eq_true rfl⟩

/-- The text stands at this place. -/
theorem matchAt_literally_iff_drop {text : List α} :
    MatchAt (literally text) s j ↔ text <+: s.drop j := by
  rw [MatchAt]
  induction text generalizing s j with
  | nil => simp [literally, startsWith]
  | cons c text ih =>
    cases hs : s.drop j with
    | nil => simp [literally, startsWith]
    | cons c' s' =>
      have hrest := ih (s := s') (j := 0)
      rw [List.drop_zero] at hrest
      rw [literally, List.map_cons, startsWith, Bool.and_eq_true, Item.accepts, decide_eq_true_iff,
        List.cons_prefix_cons, eq_comm]
      exact and_congr_right fun _ => hrest

/-! ## Patterns that cannot overlap -/

/-- The second pattern clashes with the first one if it starts at place `d` of it. -/
def ClashesAt (p q : List (Item α)) (d : Nat) : Prop :=
  ((p.drop d).zip q).any fun x => x.1.clashes x.2

instance (p q : List (Item α)) (d : Nat) : Decidable (ClashesAt p q d) :=
  inferInstanceAs (Decidable (_ = true))

/-- The patterns clash in every overlap. -/
def Apart (p q : List (Item α)) : Prop :=
  (∀ d < p.length, ClashesAt p q d) ∧ ∀ d < q.length, ClashesAt q p d

instance (p q : List (Item α)) : Decidable (Apart p q) := inferInstanceAs (Decidable (_ ∧ _))

/-- The pattern clashes with itself in every overlap but the whole. -/
def SelfApart (p : List (Item α)) : Prop := ∀ d < p.length, d ≠ 0 → ClashesAt p p d

instance (p : List (Item α)) : Decidable (SelfApart p) :=
  inferInstanceAs (Decidable (∀ d < p.length, _))

theorem Apart.symm (h : Apart p q) : Apart q p := ⟨h.2, h.1⟩

theorem ClashesAt.not_matchAt {d : Nat} (h : ClashesAt p q d) (hp : MatchAt p s j) :
    ¬ MatchAt q s (j + d) := by
  intro hq
  obtain ⟨⟨x, y⟩, hxy, hclash⟩ := List.any_eq_true.1 h
  obtain ⟨k, hk⟩ := List.mem_iff_getElem?.1 hxy
  rw [List.getElem?_zip_eq_some, List.getElem?_drop] at hk
  obtain ⟨c, hc, hx⟩ := matchAt_iff.1 hp (d + k) x hk.1
  obtain ⟨c', hc', hy⟩ := matchAt_iff.1 hq k y hk.2
  rw [Nat.add_assoc, hc] at hc'
  cases hc'
  exact Item.not_accepts_of_clashes hclash hx hy

/-- Matches of patterns that are apart share no place. -/
theorem Apart.disjoint (h : Apart p q) {j' : Nat} (hp : MatchAt p s j) (hq : MatchAt q s j')
    (hi : Covers p j i) : ¬ Covers q j' i := by
  intro hi'
  obtain ⟨hle, hlt⟩ := hi
  obtain ⟨hle', hlt'⟩ := hi'
  rcases Nat.le_total j j' with hjj | hjj
  · have hclash := h.1 (j' - j) (by omega)
    apply hclash.not_matchAt hp
    rwa [Nat.add_sub_cancel' hjj]
  · have hclash := h.2 (j - j') (by omega)
    apply hclash.not_matchAt hq
    rwa [Nat.add_sub_cancel' hjj]

/-- A match of a pattern that is apart from itself shares no place with another one. -/
theorem SelfApart.eq_of_covers (h : SelfApart p) {j' : Nat} (hp : MatchAt p s j)
    (hp' : MatchAt p s j') (hi : Covers p j i) (hi' : Covers p j' i) : j = j' := by
  obtain ⟨hle, hlt⟩ := hi
  obtain ⟨hle', hlt'⟩ := hi'
  by_contra hne
  rcases Nat.lt_or_gt_of_ne hne with hjj | hjj
  · have hclash := h (j' - j) (by omega) (by omega)
    apply hclash.not_matchAt hp
    rwa [Nat.add_sub_cancel' (Nat.le_of_lt hjj)]
  · have hclash := h (j - j') (by omega) (by omega)
    apply hclash.not_matchAt hp'
    rwa [Nat.add_sub_cancel' (Nat.le_of_lt hjj)]

end Match

/-! ## The search from left to right -/

/-- Where the pattern is found, behind `skip` symbols that belong to the match before. -/
def foundFrom (p : List (Item α)) : Nat → List α → List Nat
  | _, [] => []
  | skip + 1, _ :: s => (foundFrom p skip s).map (· + 1)
  | 0, c :: s =>
    if startsWith p (c :: s) then 0 :: (foundFrom p (p.length - 1) s).map (· + 1)
    else (foundFrom p 0 s).map (· + 1)

def found (p : List (Item α)) (s : List α) : List Nat := foundFrom p 0 s

def subFrom (p : List (Item α)) (replacement : List α) : Nat → List α → List α
  | _, [] => []
  | skip + 1, _ :: s => subFrom p replacement skip s
  | 0, c :: s =>
    if startsWith p (c :: s) then replacement ++ subFrom p replacement (p.length - 1) s
    else c :: subFrom p replacement 0 s

/-- Put the replacement wherever the pattern is found. -/
def sub (p : List (Item α)) (replacement s : List α) : List α := subFrom p replacement 0 s

section Search

variable {p : List (Item α)} {replacement s : List α} {c : α} {i j : Nat}

theorem foundFrom_skip (p : List (Item α)) (skip : Nat) (s : List α) :
    foundFrom p skip s = (found p (s.drop skip)).map (· + skip) := by
  induction s generalizing skip with
  | nil => simp [found, foundFrom]
  | cons c s ih =>
    cases skip with
    | zero => simp [found]
    | succ skip =>
      rw [foundFrom, ih, List.drop_succ_cons, List.map_map]
      apply List.map_congr_left
      intro j _
      exact Nat.add_assoc j skip 1

theorem subFrom_skip (p : List (Item α)) (replacement : List α) (skip : Nat) (s : List α) :
    subFrom p replacement skip s = sub p replacement (s.drop skip) := by
  induction s generalizing skip with
  | nil => simp [sub, subFrom]
  | cons c s ih =>
    cases skip with
    | zero => rfl
    | succ skip => exact ih skip

theorem exists_cons_of_startsWith (hne : p ≠ []) (h : startsWith p s) :
    ∃ c s', s = c :: s' ∧ s.drop p.length = s'.drop (p.length - 1) := by
  obtain ⟨x, p, rfl⟩ := List.exists_cons_of_ne_nil hne
  cases s with
  | nil => cases h
  | cons c s => exact ⟨c, s, rfl, rfl⟩

/-- The search goes on behind a match. -/
theorem found_match (hne : p ≠ []) (h : startsWith p s) :
    found p s = 0 :: (found p (s.drop p.length)).map (· + p.length) := by
  have hpos : 0 < p.length := List.length_pos_iff.2 hne
  obtain ⟨c, s', rfl, hdrop⟩ := exists_cons_of_startsWith hne h
  rw [hdrop, found, foundFrom, if_pos h, foundFrom_skip, List.map_map]
  congr 1
  apply List.map_congr_left
  intro j _
  simp only [Function.comp_apply]
  omega

theorem found_other (h : ¬ startsWith p (c :: s)) :
    found p (c :: s) = (found p s).map (· + 1) := by
  rw [found, foundFrom, if_neg h]
  rfl

theorem sub_match (hne : p ≠ []) (h : startsWith p s) :
    sub p replacement s = replacement ++ sub p replacement (s.drop p.length) := by
  obtain ⟨c, s', rfl, hdrop⟩ := exists_cons_of_startsWith hne h
  rw [hdrop, sub, subFrom, if_pos h, subFrom_skip]

theorem sub_other (h : ¬ startsWith p (c :: s)) :
    sub p replacement (c :: s) = c :: sub p replacement s := by
  rw [sub, subFrom, if_neg h]
  rfl

/-- Induction along the search. -/
theorem search_induction {P : List α → Prop} (hne : p ≠ []) (nil : P [])
    (other : ∀ c s, ¬ startsWith p (c :: s) → P s → P (c :: s))
    (matched : ∀ s, startsWith p s → P (s.drop p.length) → P s) (s : List α) : P s := by
  induction hn : s.length using Nat.strongRecOn generalizing s with
  | ind n ih =>
    by_cases h : startsWith p s
    · have hpos : 0 < p.length := List.length_pos_iff.2 hne
      obtain ⟨c, s', rfl, -⟩ := exists_cons_of_startsWith hne h
      apply matched _ h
      apply ih _ _ _ rfl
      rw [List.length_drop, ← hn, List.length_cons]
      omega
    · cases s with
      | nil => exact nil
      | cons c s =>
        apply other c s h
        apply ih s.length _ s rfl
        rw [← hn, List.length_cons]
        exact Nat.lt_succ_self _

theorem matchAt_of_mem_found (hne : p ≠ []) (h : j ∈ found p s) : MatchAt p s j := by
  induction s using search_induction hne generalizing j with
  | nil => cases h
  | other c s hs ih =>
    rw [found_other hs] at h
    obtain ⟨j, hj, rfl⟩ := List.mem_map.1 h
    exact ih hj
  | matched s hs ih =>
    rw [found_match hne hs] at h
    rcases List.mem_cons.1 h with rfl | h
    · exact hs
    · obtain ⟨j, hj, rfl⟩ := List.mem_map.1 h
      have hmatch := ih hj
      rwa [MatchAt, List.drop_drop, Nat.add_comm] at hmatch

/-- The search misses a match only where it overlaps with one it has found. -/
theorem exists_mem_found (hne : p ≠ []) (h : MatchAt p s j) : ∃ j' ∈ found p s, Covers p j' j := by
  have hpos : 0 < p.length := List.length_pos_iff.2 hne
  induction s using search_induction hne generalizing j with
  | nil =>
    rw [MatchAt, List.drop_nil] at h
    obtain ⟨c, s', hs, -⟩ := exists_cons_of_startsWith hne h
    cases hs
  | other c s hs ih =>
    rw [found_other hs]
    cases j with
    | zero => exact absurd h hs
    | succ j =>
      obtain ⟨j', hj', hle, hlt⟩ := ih h
      exact ⟨j' + 1, List.mem_map_of_mem hj', by omega, by omega⟩
  | matched s hs ih =>
    rw [found_match hne hs]
    by_cases hj : j < p.length
    · exact ⟨0, List.mem_cons_self, Nat.zero_le j, by omega⟩
    · have hshift : p.length + (j - p.length) = j := by omega
      have hmatch : MatchAt p (s.drop p.length) (j - p.length) := by
        rwa [MatchAt, List.drop_drop, hshift]
      obtain ⟨j', hj', hle, hlt⟩ := ih hmatch
      refine ⟨j' + p.length, List.mem_cons_of_mem _ (List.mem_map_of_mem hj'), ?_, ?_⟩ <;> omega

theorem mem_found_iff (hne : p ≠ []) (hself : SelfApart p) : j ∈ found p s ↔ MatchAt p s j := by
  refine ⟨matchAt_of_mem_found hne, fun h => ?_⟩
  obtain ⟨j', hj', hcovers⟩ := exists_mem_found hne h
  have hpos : 0 < p.length := List.length_pos_iff.2 hne
  have hself' : Covers p j j := ⟨Nat.le_refl j, Nat.lt_add_of_pos_right hpos⟩
  rwa [hself.eq_of_covers h (matchAt_of_mem_found hne hj') hself' hcovers]

/-! ## The text after the search -/

theorem length_le_of_startsWith (h : startsWith p s) : p.length ≤ s.length := by
  induction p generalizing s with
  | nil => exact Nat.zero_le _
  | cons x p ih =>
    cases s with
    | nil => cases h
    | cons c s =>
      rw [startsWith, Bool.and_eq_true] at h
      exact Nat.succ_le_succ (ih h.2)

theorem length_sub (hne : p ≠ []) (hlength : replacement.length = p.length) :
    (sub p replacement s).length = s.length := by
  induction s using search_induction hne with
  | nil => rfl
  | other c s hs ih => rw [sub_other hs, List.length_cons, ih, List.length_cons]
  | matched s hs ih =>
    have hle := length_le_of_startsWith hs
    rw [sub_match hne hs, List.length_append, ih, List.length_drop, hlength]
    omega

/-- The replacement stands where the pattern was found. -/
theorem sub_get_found (hne : p ≠ []) (hlength : replacement.length = p.length)
    (hj : j ∈ found p s) {k : Nat} (hk : k < p.length) :
    (sub p replacement s)[j + k]? = replacement[k]? := by
  induction s using search_induction hne generalizing j with
  | nil => cases hj
  | other c s hs ih =>
    rw [found_other hs] at hj
    obtain ⟨j, hfound, rfl⟩ := List.mem_map.1 hj
    rw [sub_other hs, Nat.add_right_comm, List.getElem?_cons_succ]
    exact ih hfound
  | matched s hs ih =>
    rw [found_match hne hs] at hj
    rw [sub_match hne hs]
    rcases List.mem_cons.1 hj with rfl | hj
    · rw [Nat.zero_add]
      exact List.getElem?_append_left (by omega)
    · obtain ⟨j, hfound, rfl⟩ := List.mem_map.1 hj
      have hshift : j + p.length + k - replacement.length = j + k := by omega
      rw [List.getElem?_append_right (by omega), hshift]
      exact ih hfound

/-- Every other place is as it was. -/
theorem sub_get_other (hne : p ≠ []) (hlength : replacement.length = p.length)
    (hi : ∀ j ∈ found p s, ¬ Covers p j i) : (sub p replacement s)[i]? = s[i]? := by
  induction s using search_induction hne generalizing i with
  | nil => rfl
  | other c s hs ih =>
    rw [found_other hs] at hi
    rw [sub_other hs]
    cases i with
    | zero => rfl
    | succ i =>
      rw [List.getElem?_cons_succ, List.getElem?_cons_succ]
      apply ih
      rintro j hj ⟨hle, hlt⟩
      exact hi (j + 1) (List.mem_map_of_mem hj) ⟨by omega, by omega⟩
  | matched s hs ih =>
    rw [found_match hne hs] at hi
    have hle : p.length ≤ i := by
      by_contra hlt
      exact hi 0 List.mem_cons_self ⟨Nat.zero_le i, by omega⟩
    have hrest : (sub p replacement (s.drop p.length))[i - p.length]? =
        (s.drop p.length)[i - p.length]? := by
      apply ih
      rintro j hj ⟨hle', hlt'⟩
      exact hi (j + p.length) (List.mem_cons_of_mem _ (List.mem_map_of_mem hj)) ⟨by omega, by omega⟩
    rw [sub_match hne hs, List.getElem?_append_right (by omega), hlength, hrest,
      List.getElem?_drop, Nat.add_sub_cancel' hle]

theorem sub_of_no_match (hne : p ≠ []) (hlength : replacement.length = p.length)
    (h : ∀ j, ¬ MatchAt p s j) : sub p replacement s = s := by
  apply List.ext_getElem?
  intro i
  apply sub_get_other hne hlength
  intro j hj
  exact absurd (matchAt_of_mem_found hne hj) (h j)

end Search

/-! ## Rules that do not get in each other's way -/

/-- A pattern and what is put in its place, of the same length. -/
structure Rule (α : Type*) where
  pattern : List (Item α)
  replacement : List α
  ne_nil : pattern ≠ []
  length_eq : replacement.length = pattern.length

def Rule.apply (rule : Rule α) (s : List α) : List α := sub rule.pattern rule.replacement s

/-- Apply the rules one after the other. -/
def rewriteAll (rules : List (Rule α)) (s : List α) : List α :=
  rules.foldl (fun s rule => rule.apply s) s

/-- No match of a rule can overlap with another match, nor with what a rule has put in. -/
structure Separate (rules : List (Rule α)) : Prop where
  self : ∀ a ∈ rules, SelfApart a.pattern
  pairwise : rules.Pairwise fun a b => Apart a.pattern b.pattern
  replacements : ∀ a ∈ rules, ∀ b ∈ rules, Apart a.pattern (literally b.replacement)

instance (rules : List (Rule α)) : Decidable (Separate rules) :=
  decidable_of_iff ((∀ a ∈ rules, SelfApart a.pattern) ∧
    rules.Pairwise (fun a b => Apart a.pattern b.pattern) ∧
    ∀ a ∈ rules, ∀ b ∈ rules, Apart a.pattern (literally b.replacement))
    ⟨fun h => ⟨h.1, h.2.1, h.2.2⟩, fun h => ⟨h.self, h.pairwise, h.replacements⟩⟩

/-- The text with every match of the rules replaced, and nothing else. -/
structure Replaced (rules : List (Rule α)) (s t : List α) : Prop where
  length : t.length = s.length
  matched : ∀ rule ∈ rules, ∀ j, MatchAt rule.pattern s j →
    MatchAt (literally rule.replacement) t j
  other : ∀ i, (∀ rule ∈ rules, ∀ j, MatchAt rule.pattern s j → ¬ Covers rule.pattern j i) →
    t[i]? = s[i]?

section Rules

variable {rules rules' : List (Rule α)} {rule : Rule α} {s t t' : List α} {i j : Nat}

omit [DecidableEq α] in
theorem Rule.covers_self (rule : Rule α) (j : Nat) : Covers rule.pattern j j :=
  ⟨Nat.le_refl j, Nat.lt_add_of_pos_right (List.length_pos_iff.2 rule.ne_nil)⟩

omit [DecidableEq α] in
theorem Rule.covers_literally :
    Covers (literally rule.replacement) j i ↔ Covers rule.pattern j i := by
  simp only [Covers, literally, List.length_map, rule.length_eq]

/-- What stands in a place of a match after it was replaced. -/
theorem get_of_matchAt_literally (h : MatchAt (literally rule.replacement) t j)
    (hi : Covers rule.pattern j i) : t[i]? = rule.replacement[i - j]? := by
  obtain ⟨hle, hlt⟩ := hi
  have hk : i - j < rule.replacement.length := by
    rw [rule.length_eq]
    omega
  have hget := matchAt_literally.1 h (i - j) _ (List.getElem?_eq_getElem hk)
  rwa [Nat.add_sub_cancel' hle, ← List.getElem?_eq_getElem hk] at hget

namespace Replaced

/-- The rules and the text determine the result. -/
theorem unique (h : Replaced rules s t) (h' : Replaced rules s t') : t = t' := by
  apply List.ext_getElem?
  intro i
  by_cases hi : ∃ rule ∈ rules, ∃ j, MatchAt rule.pattern s j ∧ Covers rule.pattern j i
  · obtain ⟨rule, hrule, j, hj, hcovers⟩ := hi
    rw [get_of_matchAt_literally (h.matched rule hrule j hj) hcovers,
      get_of_matchAt_literally (h'.matched rule hrule j hj) hcovers]
  · have hnone : ∀ rule ∈ rules, ∀ j, MatchAt rule.pattern s j → ¬ Covers rule.pattern j i :=
      fun rule hrule j hj hcovers => hi ⟨rule, hrule, j, hj, hcovers⟩
    rw [h.other i hnone, h'.other i hnone]

theorem of_mem_iff (h : Replaced rules s t) (hmem : ∀ rule, rule ∈ rules ↔ rule ∈ rules') :
    Replaced rules' s t :=
  ⟨h.length, fun rule hrule => h.matched rule ((hmem rule).2 hrule),
    fun i hi => h.other i fun rule hrule => hi rule ((hmem rule).1 hrule)⟩

theorem nil : Replaced [] s s := by
  refine ⟨rfl, fun rule hrule => ?_, fun _ _ => rfl⟩
  cases hrule

/-- A pattern that is apart from the rules and from what they put in has the same matches after
them. -/
theorem matchAt_iff (h : Replaced rules s t) {p : List (Item α)}
    (hpatterns : ∀ rule ∈ rules, Apart p rule.pattern)
    (hreplacements : ∀ rule ∈ rules, Apart p (literally rule.replacement)) :
    MatchAt p t j ↔ MatchAt p s j := by
  constructor
  · intro hmatch
    refine (matchAt_congr fun i hi => ?_).1 hmatch
    refine h.other i fun rule hrule j' hj' hcovers => ?_
    exact (hreplacements rule hrule).disjoint hmatch (h.matched rule hrule j' hj') hi
      (Rule.covers_literally.2 hcovers)
  · intro hmatch
    refine (matchAt_congr fun i hi => ?_).2 hmatch
    exact h.other i fun rule hrule j' hj' =>
      (hpatterns rule hrule).disjoint hmatch hj' hi

/-- One more rule. -/
theorem snoc (h : Replaced rules s t) (hself : SelfApart rule.pattern)
    (hpatterns : ∀ a ∈ rules, Apart rule.pattern a.pattern)
    (hreplacements : ∀ a ∈ rules, Apart rule.pattern (literally a.replacement)) :
    Replaced (rules ++ [rule]) s (rule.apply t) := by
  have hsame (j : Nat) : MatchAt rule.pattern t j ↔ MatchAt rule.pattern s j :=
    h.matchAt_iff hpatterns hreplacements
  have hfound {j : Nat} : j ∈ found rule.pattern t ↔ MatchAt rule.pattern s j :=
    (mem_found_iff rule.ne_nil hself).trans (hsame j)
  refine ⟨(length_sub rule.ne_nil rule.length_eq).trans h.length, fun a ha j hj => ?_,
    fun i hi => ?_⟩
  · rcases List.mem_append.1 ha with ha | ha
    · -- a match of a rule before, which this one leaves alone
      refine (matchAt_congr fun i hi => ?_).2 (h.matched a ha j hj)
      refine sub_get_other rule.ne_nil rule.length_eq fun j' hj' hcovers => ?_
      exact (hpatterns a ha).disjoint (hfound.1 hj') hj hcovers (Rule.covers_literally.1 hi)
    · obtain rfl := List.mem_singleton.1 ha
      rw [matchAt_literally]
      intro k c hc
      have hk : k < a.pattern.length := by
        rw [← a.length_eq]
        exact (List.getElem?_eq_some_iff.1 hc).1
      rw [Rule.apply, sub_get_found a.ne_nil a.length_eq (hfound.2 hj) hk, hc]
  · have hrule : (rule.apply t)[i]? = t[i]? := by
      refine sub_get_other rule.ne_nil rule.length_eq fun j hj => ?_
      exact hi rule (List.mem_append_right _ List.mem_cons_self) j (hfound.1 hj)
    rw [hrule]
    exact h.other i fun a ha => hi a (List.mem_append_left _ ha)

/-- Nothing is left to replace. -/
theorem no_match (h : Replaced rules s t) (hseparate : Separate rules) (hrule : rule ∈ rules) :
    ¬ MatchAt rule.pattern t j := by
  intro hmatch
  have huncovered {i : Nat} (hi : Covers rule.pattern j i) :
      ∀ a ∈ rules, ∀ j', MatchAt a.pattern s j' → ¬ Covers a.pattern j' i := by
    intro a ha j' hj' hcovers
    exact (hseparate.replacements rule hrule a ha).disjoint hmatch (h.matched a ha j' hj') hi
      (Rule.covers_literally.2 hcovers)
  have hbefore : MatchAt rule.pattern s j :=
    (matchAt_congr fun i hi => h.other i (huncovered hi)).1 hmatch
  exact huncovered (rule.covers_self j) rule hrule j hbefore (rule.covers_self j)

end Replaced

/-- Only one rule matches around a place, and only in one way. -/
theorem Separate.eq_of_covers (h : Separate rules) {a c : Rule α} {j' : Nat} (ha : a ∈ rules)
    (hc : c ∈ rules) (hj : MatchAt a.pattern s j) (hj' : MatchAt c.pattern s j')
    (hi : Covers a.pattern j i) (hi' : Covers c.pattern j' i) : a = c ∧ j = j' := by
  have hsymm : Std.Symm fun a c : Rule α => Apart a.pattern c.pattern := ⟨fun _ _ => Apart.symm⟩
  have heq : a = c := by
    by_contra hne
    exact (h.pairwise.forall ha hc hne).disjoint hj hj' hi hi'
  subst heq
  exact ⟨rfl, (h.self a ha).eq_of_covers hj hj' hi hi'⟩

theorem Separate.of_append (h : Separate (rules ++ rules')) : Separate rules :=
  ⟨fun a ha => h.self a (List.mem_append_left _ ha), (List.pairwise_append.1 h.pairwise).1,
    fun a ha b hb => h.replacements a (List.mem_append_left _ ha) b (List.mem_append_left _ hb)⟩

/-- Rules that are separate replace exactly the matches of the text they begin with. -/
theorem replaced_rewriteAll (h : Separate rules) (s : List α) :
    Replaced rules s (rewriteAll rules s) := by
  induction rules using List.reverseRecOn with
  | nil => exact Replaced.nil
  | append_singleton rules rule ih =>
    have hmem : rule ∈ rules ++ [rule] := List.mem_append_right _ List.mem_cons_self
    have hlast : rewriteAll (rules ++ [rule]) s = rule.apply (rewriteAll rules s) := by
      rw [rewriteAll, List.foldl_append]
      rfl
    rw [hlast]
    apply (ih h.of_append).snoc (h.self rule hmem)
    · intro a ha
      exact ((List.pairwise_append.1 h.pairwise).2.2 a ha rule List.mem_cons_self).symm
    · intro a ha
      exact h.replacements rule hmem a (List.mem_append_left _ ha)

theorem rewriteAll_of_no_match (h : ∀ rule ∈ rules, ∀ j, ¬ MatchAt rule.pattern s j) :
    rewriteAll rules s = s := by
  induction rules with
  | nil => rfl
  | cons rule rules ih =>
    have hrule : rule.apply s = s :=
      sub_of_no_match rule.ne_nil rule.length_eq (h rule List.mem_cons_self)
    have hcons : rewriteAll (rule :: rules) s = rewriteAll rules (rule.apply s) := rfl
    rw [hcons, hrule]
    exact ih fun a ha => h a (List.mem_cons_of_mem rule ha)

/-- A second time, nothing changes. -/
theorem rewriteAll_rewriteAll (h : Separate rules) (s : List α) :
    rewriteAll rules (rewriteAll rules s) = rewriteAll rules s := by
  apply rewriteAll_of_no_match
  intro rule hrule j
  exact (replaced_rewriteAll h s).no_match h hrule

/-- The order of the rules does not matter. -/
theorem rewriteAll_perm (h : Separate rules) (hperm : rules.Perm rules') (s : List α) :
    rewriteAll rules s = rewriteAll rules' s := by
  have h' : Separate rules' := by
    refine ⟨fun a ha => h.self a (hperm.mem_iff.2 ha), ?_,
      fun a ha b hb => h.replacements a (hperm.mem_iff.2 ha) b (hperm.mem_iff.2 hb)⟩
    exact (hperm.pairwise_iff fun hab => hab.symm).1 h.pairwise
  have hother := (replaced_rewriteAll h' s).of_mem_iff fun rule => hperm.mem_iff.symm
  exact (replaced_rewriteAll h s).unique hother

end Rules

end Machine
