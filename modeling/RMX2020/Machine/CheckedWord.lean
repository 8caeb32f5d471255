import Mathlib.Algebra.Group.Nat.Defs

/-!
# Checked arithmetic on words of 32 bits

`u32` arithmetic that stops where the exact result is out of range. Each operation succeeds with
exactly that result (`add_eq_ok`, `sub_eq_ok`), and does so within range (`exists_add`,
`exists_mul`), so a computation is followed on natural numbers.
-/

namespace Machine

/-- The exact result of an operation does not fit into the word. -/
inductive Overflow where
  | overflow
  deriving DecidableEq, Repr

namespace U32

/-- The word of the given value. -/
def ofExact (n : Nat) : Except Overflow UInt32 :=
  if n < UInt32.size then .ok (UInt32.ofNat n) else .error .overflow

def add (a b : UInt32) : Except Overflow UInt32 := ofExact (a.toNat + b.toNat)

def sub (a b : UInt32) : Except Overflow UInt32 :=
  if b.toNat ≤ a.toNat then ofExact (a.toNat - b.toNat) else .error .overflow

def mul (a b : UInt32) : Except Overflow UInt32 := ofExact (a.toNat * b.toNat)

def saturatingSub (a b : UInt32) : UInt32 := UInt32.ofNat (a.toNat - b.toNat)

variable {a b c : UInt32} {n : Nat}

theorem ofExact_eq_ok : ofExact n = .ok c ↔ c.toNat = n := by
  unfold ofExact
  constructor
  · intro h
    split at h
    · next hlt =>
      cases h
      exact UInt32.toNat_ofNat_of_lt' hlt
    · cases h
  · intro h
    subst h
    rw [if_pos (UInt32.toNat_lt c), UInt32.ofNat_toNat]

theorem add_eq_ok : add a b = .ok c ↔ c.toNat = a.toNat + b.toNat := ofExact_eq_ok

theorem sub_eq_ok : sub a b = .ok c ↔ b.toNat ≤ a.toNat ∧ c.toNat = a.toNat - b.toNat := by
  unfold sub
  by_cases h : b.toNat ≤ a.toNat
  · rw [if_pos h, ofExact_eq_ok]
    exact ⟨fun hc => ⟨h, hc⟩, fun hc => hc.2⟩
  · rw [if_neg h]
    simp [h]

/-- Within range there is a word of the exact value. -/
theorem exists_ofExact (h : n < UInt32.size) : ∃ c : UInt32, ofExact n = .ok c ∧ c.toNat = n :=
  ⟨UInt32.ofNat n, if_pos h, UInt32.toNat_ofNat_of_lt' h⟩

theorem exists_add (h : a.toNat + b.toNat < UInt32.size) :
    ∃ c, add a b = .ok c ∧ c.toNat = a.toNat + b.toNat := exists_ofExact h

theorem exists_mul (h : a.toNat * b.toNat < UInt32.size) :
    ∃ c, mul a b = .ok c ∧ c.toNat = a.toNat * b.toNat := exists_ofExact h

theorem toNat_saturatingSub : (saturatingSub a b).toNat = a.toNat - b.toNat :=
  UInt32.toNat_ofNat_of_lt' (Nat.lt_of_le_of_lt (Nat.sub_le _ _) (UInt32.toNat_lt a))

end U32

/-- The lowest byte of a word that has been shifted to the right, keeping its sign. -/
theorem toNat_sshiftRight_and_byte (x : BitVec 32) {n : Nat} (hn : n ≤ 24) :
    (x.sshiftRight n &&& 0xFF#32).toNat = x.toNat / 2 ^ n % 2 ^ 8 := by
  apply Nat.eq_of_testBit_eq
  intro i
  have hmask : Nat.testBit 0xFF i = decide (i < 8) := Nat.testBit_two_pow_sub_one 8 i
  rw [BitVec.toNat_and, Nat.testBit_and, Nat.testBit_mod_two_pow, Nat.testBit_div_two_pow,
    BitVec.toNat_ofNat, Nat.mod_eq_of_lt (by decide), hmask, BitVec.testBit_toNat,
    BitVec.getLsbD_sshiftRight, BitVec.testBit_toNat]
  by_cases hi : i < 8
  · have hword : ¬ 32 ≤ i := by omega
    have hsign : n + i < 32 := by omega
    simp [hi, hword, hsign, Nat.add_comm]
  · simp [hi]

end Machine
