import RMX2020.Machine.Pattern

/-!
# Regular expressions over bytes

`re.finditer` and `re.sub` for patterns of fixed bytes and dots, where a dot takes every byte but
the newline, and for replacements without a backslash. Any other pattern or replacement is `none`.
A substitution whose replacement is as long as its pattern is a rule (`sub_of_rule`).
-/

namespace Python

open Machine

abbrev Bytes := List UInt8

/-- The literal `b'...'`: each character is the byte of its number. -/
def b (literal : String) : Bytes := literal.toList.map fun c => UInt8.ofNat c.toNat

namespace Re

def dot : UInt8 := 0x2E

def newline : UInt8 := 0x0A

def backslash : UInt8 := 0x5C

/-- The bytes with a meaning of their own, but for the dot. -/
def special : Bytes := backslash :: b "^$*+?\x7b\x7d[]|()"

def item (c : UInt8) : Option (Item UInt8) :=
  if c = dot then some (.anyBut newline)
  else if c ∈ special then none
  else some (.lit c)

def compile : Bytes → Option (List (Item UInt8))
  | [] => some []
  | c :: pattern =>
    match item c, compile pattern with
    | some x, some p => some (x :: p)
    | _, _ => none

/-- The starts of the matches. -/
def finditer (pattern string : Bytes) : Option (List Nat) :=
  match compile pattern with
  | none | some [] => none
  | some p => some (found p string)

def sub (pattern repl string : Bytes) : Option Bytes :=
  match compile pattern with
  | none | some [] => none
  | some p => if backslash ∈ repl then none else some (Machine.sub p repl string)

/-! ## Patterns and the texts they are spelled by -/

section Compile

variable {pattern string : Bytes} {p : List (Item UInt8)} {j : Nat}

/-- A byte of the pattern takes itself, and a dot any byte but the newline. -/
theorem item_accepts_iff {c c' : UInt8} {x : Item UInt8} (h : item c = some x) :
    x.accepts c' ↔ c' = c ∨ c = dot ∧ c' ≠ newline := by
  unfold item at h
  split at h
  · next hdot =>
    cases h
    subst hdot
    rw [Item.accepts, decide_eq_true_iff]
    constructor
    · exact fun hne => Or.inr ⟨rfl, hne⟩
    · rintro (rfl | ⟨-, hne⟩)
      · decide
      · exact hne
  · next hdot =>
    split at h
    · cases h
    · cases h
      rw [Item.accepts, decide_eq_true_iff]
      exact ⟨Or.inl, fun h => h.resolve_right fun hc => hdot hc.1⟩

theorem item_injective {c c' : UInt8} {x : Item UInt8} (h : item c = some x)
    (h' : item c' = some x) : c = c' := by
  unfold item at h h'
  split at h <;> split at h'
  · next hdot hdot' => rw [hdot, hdot']
  all_goals grind

theorem compile_cons {c : UInt8} (h : compile (c :: pattern) = some p) :
    ∃ x q, item c = some x ∧ compile pattern = some q ∧ p = x :: q := by
  rw [compile] at h
  split at h
  · next x q hx hq =>
    cases h
    exact ⟨x, q, hx, hq, rfl⟩
  · cases h

theorem length_compile (h : compile pattern = some p) : p.length = pattern.length := by
  induction pattern generalizing p with
  | nil =>
    cases h
    rfl
  | cons c pattern ih =>
    obtain ⟨x, q, -, hq, rfl⟩ := compile_cons h
    rw [List.length_cons, List.length_cons, ih hq]

theorem compile_injective {pattern' : Bytes} (h : compile pattern = some p)
    (h' : compile pattern' = some p) : pattern = pattern' := by
  induction pattern generalizing pattern' p with
  | nil =>
    cases h
    have hlength := length_compile h'
    exact (List.length_eq_zero_iff.1 hlength.symm).symm
  | cons c pattern ih =>
    obtain ⟨x, q, hx, hq, rfl⟩ := compile_cons h
    cases pattern' with
    | nil => cases h'
    | cons c' pattern' =>
      obtain ⟨x', q', hx', hq', heq⟩ := compile_cons h'
      cases heq
      rw [item_injective hx hx', ih hq hq']

theorem get_compile (h : compile pattern = some p) (k : Nat) : p[k]? = pattern[k]?.bind item := by
  induction pattern generalizing p k with
  | nil =>
    cases h
    rfl
  | cons c pattern ih =>
    obtain ⟨x, q, hx, hq, rfl⟩ := compile_cons h
    cases k with
    | zero => exact hx.symm
    | succ k => exact ih hq k

/-- Where a pattern matches, byte for byte. -/
theorem matchAt_compile_iff (h : compile pattern = some p) :
    MatchAt p string j ↔ ∀ (k : Nat) (c : UInt8), pattern[k]? = some c →
      ∃ c', string[j + k]? = some c' ∧ (c' = c ∨ c = dot ∧ c' ≠ newline) := by
  rw [matchAt_iff]
  constructor
  · intro hmatch k c hc
    have hk : k < p.length := by
      rw [length_compile h]
      exact (List.getElem?_eq_some_iff.1 hc).1
    have hx := List.getElem?_eq_getElem hk
    obtain ⟨c', hc', haccepts⟩ := hmatch k _ hx
    rw [get_compile h, hc] at hx
    exact ⟨c', hc', (item_accepts_iff hx).1 haccepts⟩
  · intro hmatch k x hx
    rw [get_compile h, Option.bind_eq_some_iff] at hx
    obtain ⟨c, hc, hx⟩ := hx
    obtain ⟨c', hc', hfits⟩ := hmatch k c hc
    exact ⟨c', hc', (item_accepts_iff hx).2 hfits⟩

end Compile

/-! ## Substitutions as rules -/

/-- The rule of a substitution that keeps lengths. -/
def rule (pattern repl : Bytes) : Option (Rule UInt8) :=
  match compile pattern with
  | none => none
  | some p =>
    if h : p ≠ [] ∧ repl.length = p.length ∧ backslash ∉ repl then
      some ⟨p, repl, h.1, h.2.1⟩
    else none

theorem rule_eq_some {pattern repl : Bytes} {r : Rule UInt8} (h : rule pattern repl = some r) :
    compile pattern = some r.pattern ∧ r.replacement = repl ∧ backslash ∉ repl := by
  unfold rule at h
  split at h
  · cases h
  · next p hp =>
    split at h
    · next hfits =>
      cases h
      exact ⟨hp, rfl, hfits.2.2⟩
    · cases h

theorem sub_of_rule {pattern repl : Bytes} {r : Rule UInt8} (h : rule pattern repl = some r)
    (string : Bytes) : sub pattern repl string = some (r.apply string) := by
  obtain ⟨hcompile, rfl, hbackslash⟩ := rule_eq_some h
  rw [sub, hcompile]
  cases hp : r.pattern with
  | nil => exact absurd hp r.ne_nil
  | cons x p =>
    simp only [if_neg hbackslash, Rule.apply, hp]

theorem finditer_of_rule {pattern repl : Bytes} {r : Rule UInt8} (h : rule pattern repl = some r)
    (string : Bytes) : finditer pattern string = some (found r.pattern string) := by
  obtain ⟨hcompile, -, -⟩ := rule_eq_some h
  rw [finditer, hcompile]
  cases hp : r.pattern with
  | nil => exact absurd hp r.ne_nil
  | cons x p => rfl

end Re

end Python
