import Mathlib.Data.List.Basic

/-!
# Text and its lines

Python's text as lists of characters: reading a file with universal newlines, `str.splitlines`,
`str.split` at one character, and writing lines back with `'\n'.join`. Lines without line breaks are
read back as they were written (`splitlines_write`), except that no line at all is read back as an
empty one (`write_reread`).
-/

namespace Python

/-- A Python string. -/
abbrev Str := List Char

/-- The characters `str.splitlines` splits at. -/
def lineBreaks : List Char :=
  ['\n', '\r', '\x0b', '\x0c', '\x1c', '\x1d', '\x1e', '\x85', '\u2028', '\u2029']

/-- Reading a file in text mode: every kind of newline is read as `'\n'`. -/
def universalNewlines : Str → Str
  | [] => []
  | '\r' :: '\n' :: cs => '\n' :: universalNewlines cs
  | '\r' :: cs => '\n' :: universalNewlines cs
  | c :: cs => c :: universalNewlines cs

/-- Put a character at the front of the first line. -/
def consLine (c : Char) : List Str → List Str
  | [] => [[c]]
  | line :: lines => (c :: line) :: lines

def splitlines : Str → List Str
  | [] => []
  | '\r' :: '\n' :: cs => [] :: splitlines cs
  | c :: cs => if c ∈ lineBreaks then [] :: splitlines cs else consLine c (splitlines cs)

/-- The lines of a file that is opened as text. -/
def read (text : Str) : List Str := splitlines (universalNewlines text)

/-- `'\n'.join(lines) + '\n'`. -/
def write (lines : List Str) : Str := ['\n'].intercalate lines ++ ['\n']

/-- `s.split(sep)[0]`. -/
def first (sep : Char) (s : Str) : Str := (s.splitOn sep).headD []

/-- `s.split(sep)[-1]`. -/
def last (sep : Char) (s : Str) : Str := (s.splitOn sep).getLastD []

/-! ## Lines -/

/-- A line without a line break in it. -/
def Unbroken (line : Str) : Prop := ∀ c ∈ line, c ∉ lineBreaks

instance (line : Str) : Decidable (Unbroken line) :=
  List.decidableBAll (fun c => c ∉ lineBreaks) line

theorem unbroken_nil : Unbroken [] := fun _ hc => nomatch hc

theorem Unbroken.cons {c : Char} {line : Str} (hc : c ∉ lineBreaks) (h : Unbroken line) :
    Unbroken (c :: line) := List.forall_mem_cons.2 ⟨hc, h⟩

theorem Unbroken.append {line rest : Str} (h : Unbroken line) (hrest : Unbroken rest) :
    Unbroken (line ++ rest) := List.forall_mem_append.2 ⟨h, hrest⟩

theorem unbroken_consLine {c : Char} {lines : List Str} (hc : c ∉ lineBreaks)
    (h : ∀ line ∈ lines, Unbroken line) : ∀ line ∈ consLine c lines, Unbroken line := by
  cases lines with
  | nil => simp [consLine, Unbroken, hc]
  | cons line lines =>
    intro line' hline'
    rcases List.mem_cons.1 hline' with rfl | hline'
    · exact (h line List.mem_cons_self).cons hc
    · exact h line' (List.mem_cons_of_mem _ hline')

/-- No line that is read has a line break in it. -/
theorem splitlines_unbroken (s : Str) : ∀ line ∈ splitlines s, Unbroken line := by
  fun_induction splitlines s with
  | case1 => simp
  | case2 cs ih => exact List.forall_mem_cons.2 ⟨unbroken_nil, ih⟩
  | case3 c cs _ hc ih => exact List.forall_mem_cons.2 ⟨unbroken_nil, ih⟩
  | case4 c cs _ hc ih => exact unbroken_consLine hc ih

theorem splitlines_cons {c : Char} {cs : Str} (hc : c ∉ lineBreaks) :
    splitlines (c :: cs) = consLine c (splitlines cs) := by
  have hne : c ≠ '\r' := by
    rintro rfl
    exact hc (by decide)
  rw [splitlines, if_neg hc]
  rintro cs' rfl
  exact absurd rfl hne

theorem splitlines_append {line rest : Str} (h : Unbroken line) :
    splitlines (line ++ '\n' :: rest) = line :: splitlines rest := by
  induction line with
  | nil => simp [splitlines, lineBreaks]
  | cons c line ih =>
    have hc : c ∉ lineBreaks := h c List.mem_cons_self
    have hline : Unbroken line := fun c' hc' => h c' (List.mem_cons_of_mem _ hc')
    rw [List.cons_append, splitlines_cons hc, ih hline]
    rfl

/-! ## What is written is read back -/

theorem universalNewlines_of_not_mem {s : Str} (h : '\r' ∉ s) : universalNewlines s = s := by
  fun_induction universalNewlines s with
  | case1 => rfl
  | case2 => exact absurd List.mem_cons_self h
  | case3 => exact absurd List.mem_cons_self h
  | case4 c cs _ _ ih => rw [ih fun hmem => h (List.mem_cons_of_mem _ hmem)]

theorem write_cons (line : Str) {lines : List Str} (hne : lines ≠ []) :
    write (line :: lines) = line ++ '\n' :: write lines := by
  unfold write
  rw [List.intercalate_cons_of_ne_nil hne]
  simp

theorem write_singleton (line : Str) : write [line] = line ++ '\n' :: [] := by
  simp [write]

theorem splitlines_write {lines : List Str} (hne : lines ≠ [])
    (h : ∀ line ∈ lines, Unbroken line) : splitlines (write lines) = lines := by
  induction lines with
  | nil => exact absurd rfl hne
  | cons line lines ih =>
    have hline := h line List.mem_cons_self
    by_cases hnil : lines = []
    · subst hnil
      rw [write_singleton, splitlines_append hline, splitlines]
    · rw [write_cons line hnil, splitlines_append hline,
        ih hnil fun line' hline' => h line' (List.mem_cons_of_mem _ hline')]

theorem not_mem_write {lines : List Str} (h : ∀ line ∈ lines, Unbroken line) :
    '\r' ∉ write lines := by
  have hbreak {line : Str} (hline : Unbroken line) : '\r' ∉ line := fun hmem =>
    hline _ hmem (by decide)
  induction lines with
  | nil => decide
  | cons line lines ih =>
    have hline := hbreak (h line List.mem_cons_self)
    by_cases hnil : lines = []
    · subst hnil
      rw [write_singleton]
      simpa using hline
    · have hrest := ih fun line' hline' => h line' (List.mem_cons_of_mem _ hline')
      rw [write_cons line hnil]
      simp [hline, hrest]

/-- The lines that are read from a file to which lines were written. -/
def reread (lines : List Str) : List Str := if lines = [] then [[]] else lines

theorem read_write {lines : List Str} (h : ∀ line ∈ lines, Unbroken line) :
    read (write lines) = reread lines := by
  unfold read reread
  rw [universalNewlines_of_not_mem (not_mem_write h)]
  split
  · next hnil =>
    subst hnil
    decide
  · next hne => exact splitlines_write hne h

theorem read_write_of_ne {lines : List Str} (h : ∀ line ∈ lines, Unbroken line)
    (hne : lines ≠ []) : read (write lines) = lines := by
  rw [read_write h, reread, if_neg hne]

/-- Reading back does not change what is written. -/
theorem write_reread (lines : List Str) : write (reread lines) = write lines := by
  unfold reread
  split
  · next hnil =>
    subst hnil
    rfl
  · rfl

theorem write_injective {lines lines' : List Str} (h : ∀ line ∈ lines, Unbroken line)
    (h' : ∀ line ∈ lines', Unbroken line) (hlength : lines.length = lines'.length)
    (hwrite : write lines = write lines') : lines = lines' := by
  have hreread : reread lines = reread lines' := by
    rw [← read_write h, ← read_write h', hwrite]
  unfold reread at hreread
  split at hreread
  · next hnil =>
    subst hnil
    exact (List.length_eq_zero_iff.1 hlength.symm).symm
  · next hne =>
    have hne' : lines' ≠ [] := fun hnil => hne (List.length_eq_zero_iff.1 (by simp [hlength, hnil]))
    rwa [if_neg hne'] at hreread

/-! ## The first part of a split -/

variable {sep c : Char} {s : Str}

theorem first_cons_self : first sep (sep :: s) = [] := by
  simp [first, List.splitOn_cons_eq_if_modifyHead]

theorem first_cons_ne (h : c ≠ sep) : first sep (c :: s) = c :: first sep s := by
  unfold first
  rw [List.splitOn_cons_eq_if_modifyHead]
  obtain ⟨part, parts, hparts⟩ := List.exists_cons_of_ne_nil (List.splitOn_ne_nil sep s)
  simp [h, hparts]

theorem first_of_not_mem (h : sep ∉ s) : first sep s = s := by
  unfold first
  rw [List.splitOn_eq_singleton h]
  rfl

theorem mem_of_mem_first (h : c ∈ first sep s) : c ∈ s ∧ c ≠ sep := by
  induction s with
  | nil => cases h
  | cons c' s ih =>
    by_cases hsep : c' = sep
    · subst hsep
      rw [first_cons_self] at h
      cases h
    · rw [first_cons_ne hsep] at h
      rcases List.mem_cons.1 h with rfl | h
      · exact ⟨List.mem_cons_self, hsep⟩
      · exact ⟨List.mem_cons_of_mem _ (ih h).1, (ih h).2⟩

theorem not_mem_first : sep ∉ first sep s := fun h => (mem_of_mem_first h).2 rfl

theorem first_eq_self_iff : first sep s = s ↔ sep ∉ s :=
  ⟨fun h => h ▸ not_mem_first, first_of_not_mem⟩

theorem first_append (h : sep ∉ s) (rest : Str) : first sep (s ++ sep :: rest) = s := by
  unfold first
  rw [List.splitOn_append_cons_self_of_not_mem h]
  rfl

theorem Unbroken.first (h : Unbroken s) : Unbroken (first sep s) :=
  fun c hc => h c (mem_of_mem_first hc).1

/-- Parts that are put behind a text, each after the separator, are split off again. -/
theorem first_append_flatMap {α : Type*} (text : α → Str) (h : sep ∉ s) (parts : List α) :
    first sep (s ++ parts.flatMap fun part => sep :: text part) = s := by
  cases parts with
  | nil => rw [List.flatMap_nil, List.append_nil, first_of_not_mem h]
  | cons part parts => rw [List.flatMap_cons, List.cons_append, first_append h]

/-! ## The last part of a split -/

theorem last_of_not_mem (h : sep ∉ s) : last sep s = s := by
  unfold last
  rw [List.splitOn_eq_singleton h]
  rfl

theorem last_append {rest : Str} (h : sep ∉ s) (hrest : sep ∉ rest) :
    last sep (s ++ sep :: rest) = rest := by
  unfold last
  rw [List.splitOn_append_cons_self_of_not_mem h, List.splitOn_eq_singleton hrest]
  rfl

end Python
