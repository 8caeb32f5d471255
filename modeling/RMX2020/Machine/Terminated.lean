import Mathlib.Data.List.TakeWhile

/-!
# Terminated strings

What is read from a place of a list up to the next terminator, or up to the end. Two lists that
agree up to there hold the same string at the place (`terminated_congr`); one that agrees only up to
another place goes on with the string there (`terminated_before`).
-/

namespace Machine

variable {α : Type*}

theorem takeWhile_congr {p : α → Bool} {s t : List α}
    (h : ∀ k ≤ (s.takeWhile p).length, t[k]? = s[k]?) : t.takeWhile p = s.takeWhile p := by
  induction s generalizing t with
  | nil =>
    have hnone : t[0]? = none := h 0 (Nat.zero_le _)
    rw [List.getElem?_eq_none_iff, Nat.le_zero, List.length_eq_zero_iff] at hnone
    rw [hnone]
  | cons a s ih =>
    have hhead : t[0]? = some a := h 0 (Nat.zero_le _)
    cases t with
    | nil => cases hhead
    | cons a' t =>
      cases hhead
      rw [List.takeWhile_cons, List.takeWhile_cons]
      by_cases ha : p a
      · rw [if_pos ha, if_pos ha, ih]
        intro k hk
        have hsucc := h (k + 1)
        rw [List.takeWhile_cons_of_pos ha, List.length_cons] at hsucc
        exact hsucc (Nat.succ_le_succ hk)
      · rw [if_neg ha, if_neg ha]

variable [DecidableEq α]

/-- What is read from place `i` before the next `z`. -/
def terminated (z : α) (s : List α) (i : Nat) : List α := (s.drop i).takeWhile (· ≠ z)

section Terminated

variable {z : α} {s t text : List α} {i j d : Nat}

/-- Only what is read counts, and where it ends. -/
theorem terminated_congr (h : ∀ k ≤ (terminated z s i).length, t[i + k]? = s[i + k]?) :
    terminated z t i = terminated z s i := by
  apply takeWhile_congr
  intro k hk
  rw [List.getElem?_drop, List.getElem?_drop]
  exact h k hk

/-- From within a text that holds a terminator further on, the text is read. -/
theorem terminated_within (h : text <+: s.drop j) (hz : z ∈ text.drop d) :
    terminated z s (j + d) = terminated z text d := by
  obtain ⟨rest, hrest⟩ := h
  have hd : d ≤ text.length := by
    by_contra hlong
    rw [List.drop_eq_nil_of_le (Nat.le_of_lt (Nat.lt_of_not_le hlong))] at hz
    cases hz
  have hdrop : s.drop (j + d) = text.drop d ++ rest := by
    rw [← List.drop_drop, ← hrest, List.drop_append_of_le_length hd]
  have hstops : (text.drop d).takeWhile (· ≠ z) ≠ text.drop d := by
    intro hall
    rw [List.takeWhile_eq_self_iff] at hall
    simpa using hall z hz
  unfold terminated
  rw [hdrop, List.takeWhile_append]
  split
  · next hlength =>
    exact absurd ((List.takeWhile_prefix _).eq_of_length hlength) hstops
  · rfl

/-- What is read from before a place, without a terminator in between. -/
theorem terminated_before (hsame : ∀ k, i ≤ k → k < j → t[k]? = s[k]?)
    (hz : ∀ k, i ≤ k → k < j → s[k]? ≠ some z) (hij : i ≤ j) :
    terminated z t i = (s.drop i).take (j - i) ++ terminated z t j := by
  have htake : (t.drop i).take (j - i) = (s.drop i).take (j - i) := by
    apply List.ext_getElem?
    intro k
    rw [List.getElem?_take, List.getElem?_take]
    split
    · next hk =>
      rw [List.getElem?_drop, List.getElem?_drop]
      exact hsame (i + k) (Nat.le_add_right i k) (by omega)
    · rfl
  have hdrop : t.drop i = (s.drop i).take (j - i) ++ t.drop j := by
    rw [← htake]
    have hrest : t.drop j = (t.drop i).drop (j - i) := by
      rw [List.drop_drop, Nat.add_sub_cancel' hij]
    rw [hrest, List.take_append_drop]
  unfold terminated
  rw [hdrop, List.takeWhile_append_of_pos]
  intro a ha
  obtain ⟨k, hk⟩ := List.mem_iff_getElem?.1 ha
  rw [List.getElem?_take] at hk
  split at hk
  · next hlt =>
    rw [List.getElem?_drop] at hk
    have hne := hz (i + k) (Nat.le_add_right i k) (by omega)
    rw [hk] at hne
    simpa using hne
  · cases hk

end Terminated

end Machine
