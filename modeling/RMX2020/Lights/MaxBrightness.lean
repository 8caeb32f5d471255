import Mathlib.Data.List.DropRight
import RMX2020.Lights.Brightness

/-!
# The file of the maximum

`readMaxBrightness` takes the maximum from a text the kernel prints. `max_brightness_read_back`
says which texts have which value: a decimal numeral of 32 bits, leading zeros and a plus sign
allowed, between whitespace; any other text counts as 0. Every maximum printed in decimal is read
back.
-/

namespace RMX2020.Lights

/-- A decimal numeral for `n`, as `parse::<u32>` reads it. -/
def Numeral (n : Nat) (cs : List Char) : Prop :=
  ∃ digits, (cs = digits ∨ cs = '+' :: digits) ∧ digits ≠ [] ∧ (∀ c ∈ digits, c.isDigit) ∧
    Nat.ofDigitChars 10 digits 0 = n

/-- A numeral for `n` between whitespace. -/
def Shows (n : Nat) (text : List Char) : Prop :=
  ∃ l cs r, text = l ++ cs ++ r ∧ (∀ c ∈ l, isWhitespace c) ∧ (∀ c ∈ r, isWhitespace c) ∧
    Numeral n cs

/-! ## The numeral -/

theorem parse_digits {digits : List Char} {v : UInt32} :
    (if digits = [] ∨ ¬ digits.all Char.isDigit then none
      else
        let n := digits.foldl (fun n c => 10 * n + (c.toNat - '0'.toNat)) 0
        if n < UInt32.size then some (UInt32.ofNat n) else none) = some v ↔
      digits ≠ [] ∧ (∀ c ∈ digits, c.isDigit) ∧ Nat.ofDigitChars 10 digits 0 = v.toNat := by
  rw [Nat.ofDigitChars_eq_foldl]
  by_cases hbad : digits = [] ∨ ¬ digits.all Char.isDigit
  · rw [if_pos hbad]
    constructor
    · intro h
      cases h
    · rintro ⟨hne, hall, -⟩
      rcases hbad with hnil | hnot
      · exact absurd hnil hne
      · exact absurd (List.all_eq_true.2 hall) hnot
  · rw [if_neg hbad]
    push Not at hbad
    obtain ⟨hne, hall⟩ := hbad
    constructor
    · intro h
      simp only at h
      split at h
      · next hlt =>
        rw [← Option.some.inj h, UInt32.toNat_ofNat_of_lt' hlt]
        exact ⟨hne, List.all_eq_true.1 hall, rfl⟩
      · cases h
    · rintro ⟨-, -, h⟩
      rw [h, if_pos v.toNat_lt, UInt32.ofNat_toNat]

theorem parseU32_eq_some {cs : List Char} {v : UInt32} :
    parseU32 cs = some v ↔ Numeral v.toNat cs := by
  unfold parseU32 Numeral
  split
  · next rest =>
    rw [parse_digits]
    constructor
    · exact fun h => ⟨rest, .inr rfl, h⟩
    · rintro ⟨digits, rfl | hplus, hne, hall, hval⟩
      · have hdigit := hall '+' List.mem_cons_self
        cases hdigit
      · cases hplus
        exact ⟨hne, hall, hval⟩
  · next hplus =>
    rw [parse_digits]
    constructor
    · exact fun h => ⟨cs, .inl rfl, h⟩
    · rintro ⟨digits, rfl | rfl, h⟩
      · exact h
      · exact absurd rfl (hplus digits)

/-! ## The whitespace around it -/

theorem isWhitespace_of_isDigit {c : Char} (h : c.isDigit = true) : isWhitespace c = false := by
  have hrange : 48 ≤ c.toNat ∧ c.toNat ≤ 57 := by
    simpa [Char.isDigit, UInt32.le_iff_toNat_le] using h
  unfold isWhitespace
  simp only [Bool.or_eq_false_iff, Bool.and_eq_false_iff, decide_eq_false_iff_not]
  omega

theorem Numeral.no_whitespace {n : Nat} {cs : List Char} (h : Numeral n cs) {c : Char}
    (hc : c ∈ cs) : isWhitespace c = false := by
  obtain ⟨digits, rfl | rfl, -, hall, -⟩ := h
  · exact isWhitespace_of_isDigit (hall c hc)
  · rcases List.mem_cons.1 hc with rfl | hc
    · rfl
    · exact isWhitespace_of_isDigit (hall c hc)

/-- Trimming takes whitespace off both ends. -/
theorem exists_trim (s : List Char) : ∃ l r, s = l ++ trim s ++ r ∧
    (∀ c ∈ l, isWhitespace c) ∧ ∀ c ∈ r, isWhitespace c := by
  refine ⟨s.takeWhile isWhitespace, (s.dropWhile isWhitespace).rtakeWhile isWhitespace, ?_,
    fun c hc => List.mem_takeWhile_imp hc, fun c hc => List.mem_rtakeWhile_imp hc⟩
  have hright : trim s ++ (s.dropWhile isWhitespace).rtakeWhile isWhitespace =
    s.dropWhile isWhitespace := List.rdropWhile_append_rtakeWhile
  rw [List.append_assoc, hright, List.takeWhile_append_dropWhile]

/-- A text without whitespace is what trimming leaves of it. -/
theorem trim_padded {l t r : List Char} (hl : ∀ c ∈ l, isWhitespace c)
    (hr : ∀ c ∈ r, isWhitespace c) (ht : ∀ c ∈ t, isWhitespace c = false) :
    trim (l ++ t ++ r) = t := by
  have hkeep {s : List Char} (hs : ∀ c ∈ s, isWhitespace c = false) (rest : List Char)
      (hne : s ≠ []) : (s ++ rest).dropWhile isWhitespace = s ++ rest := by
    cases s with
    | nil => exact absurd rfl hne
    | cons c s => simp [hs c List.mem_cons_self]
  unfold trim
  rw [List.append_assoc, List.dropWhile_append_of_pos hl]
  by_cases hnil : t = []
  · subst hnil
    rw [List.nil_append, List.dropWhile_eq_nil_iff.2 hr]
    rfl
  · have hnil' : t.reverse ≠ [] := by simpa using hnil
    rw [hkeep ht r hnil, List.reverse_append,
      List.dropWhile_append_of_pos fun c hc => hr c (List.mem_reverse.1 hc)]
    have hback := hkeep (s := t.reverse) (fun c hc => ht c (List.mem_reverse.1 hc)) [] hnil'
    rw [List.append_nil] at hback
    rw [hback, List.reverse_reverse]

theorem parse_trim_eq_some {text : List Char} {v : UInt32} :
    parseU32 (trim text) = some v ↔ Shows v.toNat text := by
  rw [parseU32_eq_some]
  constructor
  · intro h
    obtain ⟨l, r, heq, hl, hr⟩ := exists_trim text
    exact ⟨l, trim text, r, heq, hl, hr, h⟩
  · rintro ⟨l, cs, r, rfl, hl, hr, hcs⟩
    rwa [trim_padded hl hr fun c hc => hcs.no_whitespace hc]

/-! ## Reading back -/

theorem numeral_toString (n : Nat) : Numeral n (toString n).toList := by
  have hdigits : (toString n).toList = Nat.toDigits 10 n := by
    rw [Nat.toString_eq_ofList_toDigits, String.toList_ofList]
  rw [hdigits]
  exact ⟨_, .inl rfl, Nat.toDigits_ne_nil,
    fun c hc => Nat.isDigit_of_mem_toDigits (by omega) (by omega) hc,
    Nat.ofDigitChars_ten_toDigits⟩

/-- **The maximum is read back**: a text has the value of the 32-bit numeral it shows between
whitespace, and 0 if it shows none; and the decimal of any 32-bit number, with whatever whitespace
the kernel prints around it, is read as that number. -/
theorem max_brightness_read_back :
    (∀ (text : String) (v : UInt32), readMaxBrightness (some text) = v ↔
      Shows v.toNat text.toList ∨
        v = 0 ∧ ∀ n : UInt32, ¬ Shows n.toNat text.toList) ∧
    ∀ (v : UInt32) (l r : List Char), (∀ c ∈ l, isWhitespace c) → (∀ c ∈ r, isWhitespace c) →
      readMaxBrightness (some (String.ofList (l ++ (toString v).toList ++ r))) = v := by
  have hvalue (text : String) (v : UInt32) (h : Shows v.toNat text.toList) :
      readMaxBrightness (some text) = v := by
    unfold readMaxBrightness
    simp only [parse_trim_eq_some.2 h, Option.getD_some]
  refine ⟨fun text v => ⟨fun h => ?_, ?_⟩, fun v l r hl hr => ?_⟩
  · unfold readMaxBrightness at h
    simp only at h
    cases hp : parseU32 (trim text.toList) with
    | some v' =>
      rw [hp] at h
      cases h
      exact .inl (parse_trim_eq_some.1 hp)
    | none =>
      rw [hp] at h
      refine .inr ⟨h.symm, fun n hn => ?_⟩
      rw [parse_trim_eq_some.2 hn] at hp
      cases hp
  · rintro (h | ⟨rfl, hnone⟩)
    · exact hvalue text v h
    · have hp : parseU32 (trim text.toList) = none :=
        Option.eq_none_iff_forall_ne_some.2 fun n hn => hnone n (parse_trim_eq_some.1 hn)
      unfold readMaxBrightness
      simp only [hp, Option.getD_none]
  · refine hvalue _ v ⟨l, (toString v).toList, r, String.toList_ofList, hl, hr, ?_⟩
    exact numeral_toString v.toNat

theorem max_brightness_read_back_newline :
    readMaxBrightness (some (String.ofList ([] ++ (toString (2047 : UInt32)).toList ++ ['\n']))) =
      2047 :=
  max_brightness_read_back.2 2047 [] ['\n'] (by simp) (by simp [isWhitespace])

end RMX2020.Lights
