import Mathlib.Data.List.Basic

/-!
# SHA-1

`hashlib.sha1` and its `hexdigest`: the message is padded to blocks of 64 bytes, each block is
expanded to 80 words, and 80 rounds mix them into five words of state.
-/

namespace Python

namespace Sha1

def rotl (x n : UInt32) : UInt32 := x <<< n ||| x >>> (32 - n)

/-- The word of four bytes, the first one highest. -/
def word (a b c d : UInt8) : UInt32 :=
  a.toUInt32 <<< 24 ||| b.toUInt32 <<< 16 ||| c.toUInt32 <<< 8 ||| d.toUInt32

def words : List UInt8 → List UInt32
  | a :: b :: c :: d :: rest => word a b c d :: words rest
  | _ => []

/-- The eight bytes of a length. -/
def lengthBytes (n : UInt64) : List UInt8 :=
  ([56, 48, 40, 32, 24, 16, 8, 0] : List UInt64).map fun shift => (n >>> shift).toUInt8

/-- The message, a one bit, zeros, and the length in bits as the last eight bytes. -/
def pad (data : List UInt8) : List UInt8 :=
  data ++ [0x80] ++ List.replicate ((119 - data.length % 64) % 64) 0 ++
    lengthBytes (UInt64.ofNat (8 * data.length))

/-- Expand the words of a block, the latest first, by `n` more. -/
def expand : Nat → List UInt32 → List UInt32
  | 0, w => w
  | n + 1, w =>
    expand n (rotl (w.getD 2 0 ^^^ w.getD 7 0 ^^^ w.getD 13 0 ^^^ w.getD 15 0) 1 :: w)

structure State where
  a : UInt32
  b : UInt32
  c : UInt32
  d : UInt32
  e : UInt32

def State.init : State := ⟨0x67452301, 0xEFCDAB89, 0x98BADCFE, 0x10325476, 0xC3D2E1F0⟩

/-- Round `t`, on the word `w`. -/
def round (s : State) (t : Nat) (w : UInt32) : State :=
  let (f, k) : UInt32 × UInt32 :=
    if t < 20 then ((s.b &&& s.c) ||| (~~~s.b &&& s.d), 0x5A827999)
    else if t < 40 then (s.b ^^^ s.c ^^^ s.d, 0x6ED9EBA1)
    else if t < 60 then ((s.b &&& s.c) ||| (s.b &&& s.d) ||| (s.c &&& s.d), 0x8F1BBCDC)
    else (s.b ^^^ s.c ^^^ s.d, 0xCA62C1D6)
  { a := rotl s.a 5 + f + s.e + k + w, b := s.a, c := rotl s.b 30, d := s.c, e := s.d }

def rounds (s : State) (t : Nat) : List UInt32 → State
  | [] => s
  | w :: ws => rounds (round s t w) (t + 1) ws

def block (s : State) (ws : List UInt32) : State :=
  let r := rounds s 0 (expand 64 ws.reverse).reverse
  ⟨s.a + r.a, s.b + r.b, s.c + r.c, s.d + r.d, s.e + r.e⟩

/-- Mix in `n` blocks of sixteen words. -/
def blocks (s : State) : Nat → List UInt32 → State
  | 0, _ => s
  | n + 1, ws => blocks (block s (ws.take 16)) n (ws.drop 16)

end Sha1

def sha1 (data : List UInt8) : Sha1.State :=
  let ws := Sha1.words (Sha1.pad data)
  Sha1.blocks .init (ws.length / 16) ws

def hexDigits : List Char :=
  ['0', '1', '2', '3', '4', '5', '6', '7', '8', '9', 'a', 'b', 'c', 'd', 'e', 'f']

def hexWord (x : UInt32) : List Char :=
  ([28, 24, 20, 16, 12, 8, 4, 0] : List UInt32).map fun shift =>
    hexDigits.getD ((x >>> shift) &&& 0xF).toNat '0'

def hexdigest (h : Sha1.State) : List Char :=
  [h.a, h.b, h.c, h.d, h.e].flatMap hexWord

/-- A digest is written in hexadecimal digits. -/
theorem mem_hexdigest {h : Sha1.State} {c : Char} (hc : c ∈ hexdigest h) : c ∈ hexDigits := by
  obtain ⟨x, -, hx⟩ := List.mem_flatMap.1 hc
  obtain ⟨shift, -, rfl⟩ := List.mem_map.1 hx
  generalize ((x >>> shift) &&& 0xF).toNat = n
  rw [List.getD_eq_getElem?_getD]
  cases hn : hexDigits[n]? with
  | none => decide
  | some d => exact List.mem_of_getElem? hn

/-- The digest of "abc". -/
example : hexdigest (sha1 [97, 98, 99]) =
    ['a', '9', '9', '9', '3', 'e', '3', '6', '4', '7', '0', '6', '8', '1', '6', 'a', 'b', 'a',
     '3', 'e', '2', '5', '7', '1', '7', '8', '5', '0', 'c', '2', '6', 'c', '9', 'c', 'd', '0',
     'd', '8', '9', 'd'] := by
  decide +kernel

end Python
