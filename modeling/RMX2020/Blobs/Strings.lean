import Mathlib.Data.Nat.Find
import RMX2020.Blobs.ExtractFiles
import RMX2020.Machine.Terminated

/-!
# The strings of a fixed up library

The code of a library reads names up to the null byte behind them, from wherever it has a pointer
to. The two chains that rewrite names pad the new ones with null bytes, so that they end in any
case. `strings_renamed` says of every place of every file what is read there after the chain: the
string it held, if no match was in it; what led up to the first match in it and then the new name;
or, from within a match, the rest of the new name.
-/

namespace RMX2020.Blobs

open Machine Python

/-- The string a program reads at a place. -/
abbrev cstring (data : Bytes) (i : Nat) : Bytes := terminated 0 data i

/-- The pattern of a replacement of the chain matches at `j`. -/
def Hit (fixup : List BinaryRegexReplace) (data : Bytes) (f : BinaryRegexReplace) (j : Nat) :
    Prop := f ∈ fixup ∧ ∃ starts, Re.finditer f.pattern data = some starts ∧ j ∈ starts

/-- What is read at place `i` after a chain. -/
inductive Reads (fixup : List BinaryRegexReplace) (data data' : Bytes) (i : Nat) : Prop
  | kept (hnone : ∀ k ≤ (cstring data i).length, ¬ Matched fixup data (i + k))
      (h : cstring data' i = cstring data i)
  | renamed {f : BinaryRegexReplace} {j : Nat} (hit : Hit fixup data f j) (hij : i ≤ j)
      (hbefore : ∀ k, i ≤ k → k < j → data[k]? ≠ some 0 ∧ ¬ Matched fixup data k)
      (h : cstring data' i = (data.drop i).take (j - i) ++ cstring f.repl 0)
  | within {f : BinaryRegexReplace} {j d : Nat} (hit : Hit fixup data f j)
      (hd : d < f.pattern.length) (hi : i = j + d) (h : cstring data' i = cstring f.repl d)

/-- Every replacement ends with a null byte. -/
def Padded (fixup : List BinaryRegexReplace) : Prop := ∀ f ∈ fixup, f.repl.getLast? = some 0

instance (fixup : List BinaryRegexReplace) : Decidable (Padded fixup) :=
  inferInstanceAs (Decidable (∀ f ∈ fixup, _))

/-! ## Matches -/

section Matches

variable {fixup : List BinaryRegexReplace} {data : Bytes} {f : BinaryRegexReplace} {i j : Nat}

theorem matched_iff : Matched fixup data i ↔
    ∃ f j, Hit fixup data f j ∧ j ≤ i ∧ i < j + f.pattern.length := by
  constructor
  · rintro ⟨f, hf, starts, hstarts, j, hj, hcovers⟩
    exact ⟨f, j, ⟨hf, starts, hstarts, hj⟩, hcovers⟩
  · rintro ⟨f, j, ⟨hf, starts, hstarts, hj⟩, hcovers⟩
    exact ⟨f, hf, starts, hstarts, j, hj, hcovers⟩

/-- The first matched place behind one that is not matched is where a match starts. -/
theorem hit_of_first (hmatched : Matched fixup data j) (hij : i ≤ j)
    (hbefore : ∀ k, i ≤ k → k < j → ¬ Matched fixup data k) (hi : ¬ Matched fixup data i) :
    ∃ f, Hit fixup data f j := by
  obtain ⟨f, j', hit, hle, hlt⟩ := matched_iff.1 hmatched
  have hstart : i ≤ j' := by
    by_contra hless
    exact hi (matched_iff.2 ⟨f, j', hit, by omega, by omega⟩)
  have hself : Matched fixup data j' := matched_iff.2 ⟨f, j', hit, Nat.le_refl j', by omega⟩
  have hj' : j' = j := by
    by_contra hne
    exact hbefore j' hstart (by omega) hself
  exact ⟨f, hj' ▸ hit⟩

/-- No null byte is in the string that is read. -/
theorem get_ne_zero {k : Nat} (hk : k < (cstring data i).length) : data[i + k]? ≠ some 0 := by
  intro hzero
  have hprefix : cstring data i <+: data.drop i := List.takeWhile_prefix _
  have hget : (cstring data i)[k]? = some 0 := by
    rw [List.prefix_iff_eq_take.1 hprefix, List.getElem?_take, if_pos hk, List.getElem?_drop, hzero]
  have hread := List.all_eq_true.1 List.all_takeWhile 0 (List.mem_of_getElem? hget)
  simp at hread

end Matches

/-! ## What is read -/

section Strings

variable {fixup : List BinaryRegexReplace} {rs : List (Rule UInt8)} {data data' : Bytes}

theorem unmatched_get (hrs : rules fixup = some rs) (hseparate : Separate rs)
    (h : Replaced rs data data') {i : Nat} (hi : ¬ Matched fixup data i) :
    data'[i]? = data[i]? := by
  apply h.other
  intro r hr j hj hcovers
  exact hi (matched_of_covers hrs hseparate hr hj hcovers)

/-- A padded text holds a null byte behind each of its places. -/
theorem zero_mem_drop {text : Bytes} {d : Nat} (h : text.getLast? = some 0)
    (hd : d < text.length) : 0 ∈ text.drop d := by
  have hlast : (text.drop d).getLast? = some 0 := by
    rw [List.getLast?_drop, if_neg (Nat.not_le_of_lt hd), h]
  exact List.mem_of_getLast? hlast

/-- The replacement stands where its pattern was found. -/
theorem repl_prefix_drop (hrs : rules fixup = some rs) (hseparate : Separate rs)
    (h : Replaced rs data data') {f : BinaryRegexReplace} {j : Nat} (hit : Hit fixup data f j) :
    f.repl <+: data'.drop j ∧ f.repl.length = f.pattern.length := by
  obtain ⟨hf, starts, hstarts, hj⟩ := hit
  obtain ⟨r, hr, hrule⟩ := exists_rule hrs f hf
  obtain ⟨hcompile, hrepl, -⟩ := Re.rule_eq_some hrule
  rw [Re.finditer_of_rule hrule] at hstarts
  obtain rfl := Option.some.inj hstarts
  have hmatched := h.matched r hr j ((mem_found_iff r.ne_nil (hseparate.self r hr)).1 hj)
  rw [hrepl] at hmatched
  refine ⟨matchAt_literally_iff_drop.1 hmatched, ?_⟩
  rw [← hrepl, r.length_eq, Re.length_compile hcompile]

/-- From within a match, the rest of the replacement is read. -/
theorem cstring_within (hrs : rules fixup = some rs) (hseparate : Separate rs)
    (hpadded : Padded fixup) (h : Replaced rs data data') {f : BinaryRegexReplace} {j d : Nat}
    (hit : Hit fixup data f j) (hd : d < f.pattern.length) :
    cstring data' (j + d) = cstring f.repl d := by
  obtain ⟨hstands, hlength⟩ := repl_prefix_drop hrs hseparate h hit
  exact terminated_within hstands (zero_mem_drop (hpadded f hit.1) (by omega))

theorem reads_of_replaced (hrs : rules fixup = some rs) (hseparate : Separate rs)
    (hpadded : Padded fixup) (h : Replaced rs data data') (i : Nat) : Reads fixup data data' i := by
  classical
  by_cases hi : Matched fixup data i
  · obtain ⟨f, j, hit, hle, hlt⟩ := matched_iff.1 hi
    obtain ⟨d, rfl⟩ := Nat.exists_eq_add_of_le hle
    have hd : d < f.pattern.length := by omega
    exact .within hit hd rfl (cstring_within hrs hseparate hpadded h hit hd)
  by_cases hnone : ∀ k ≤ (cstring data i).length, ¬ Matched fixup data (i + k)
  · refine .kept hnone (terminated_congr fun k hk => ?_)
    exact unmatched_get hrs hseparate h (hnone k hk)
  · simp only [not_forall, not_not] at hnone
    have hexists : ∃ k, k ≤ (cstring data i).length ∧ Matched fixup data (i + k) := by
      obtain ⟨k, hk, hmatched⟩ := hnone
      exact ⟨k, hk, hmatched⟩
    -- the first matched place of the string
    obtain ⟨hk, hmatched⟩ := Nat.find_spec hexists
    have hfirst (k : Nat) (hlt : k < Nat.find hexists) : ¬ Matched fixup data (i + k) :=
      fun hmatched => Nat.find_min hexists hlt ⟨by omega, hmatched⟩
    generalize Nat.find hexists = n at hk hmatched hfirst
    have hbefore (k : Nat) (hik : i ≤ k) (hkn : k < i + n) :
        data[k]? ≠ some 0 ∧ ¬ Matched fixup data k := by
      obtain ⟨d, rfl⟩ := Nat.exists_eq_add_of_le hik
      exact ⟨get_ne_zero (by omega), hfirst d (by omega)⟩
    have hin : i ≤ i + n := Nat.le_add_right i n
    obtain ⟨f, hit⟩ := hit_of_first hmatched hin (fun k hik hkn => (hbefore k hik hkn).2) hi
    have hpositive : 0 < f.pattern.length := by
      obtain ⟨r, hr, hrule⟩ := exists_rule hrs f hit.1
      rw [← Re.length_compile (Re.rule_eq_some hrule).1]
      exact List.length_pos_iff.2 r.ne_nil
    refine .renamed hit hin hbefore ?_
    have hread := terminated_before (t := data')
      (fun k hik hkn => unmatched_get hrs hseparate h (hbefore k hik hkn).2)
      (fun k hik hkn => (hbefore k hik hkn).1) hin
    have hrepl := cstring_within hrs hseparate hpadded h hit hpositive
    rw [Nat.add_zero] at hrepl
    rw [cstring, hread, ← hrepl]

end Strings

/-- What a program reads at any place of a file after one of the chains that rewrite names. -/
theorem strings_renamed : ∀ fixup ∈ [libMtkOmxCore, libMtkOmxVdecEx], ∀ data, ∃ data',
    runFixup fixup data = some data' ∧ ∀ i, Reads fixup data data' i := by
  intro fixup hfixup data
  have hseparated : Separated fixup := by
    rcases List.mem_cons.1 hfixup with rfl | hfixup
    · exact separated_libMtkOmxCore
    · obtain rfl := List.mem_singleton.1 hfixup
      exact separated_libMtkOmxVdecEx
  have hpadded : ∀ fixup ∈ [libMtkOmxCore, libMtkOmxVdecEx], Padded fixup := by decide
  obtain ⟨rs, hrs, hseparate⟩ := hseparated.exists_rules
  have hreplaced := replaced_rewriteAll hseparate data
  refine ⟨rewriteAll rs data, runFixup_eq hrs data, fun i => ?_⟩
  exact reads_of_replaced hrs hseparate (hpadded fixup hfixup) hreplaced i

theorem strings_renamed_libMtkOmxCore : ∃ data',
    runFixup libMtkOmxCore (b "mtk.vendor.omx.core.log.tag\x00") = some data' ∧
      ∀ i, Reads libMtkOmxCore (b "mtk.vendor.omx.core.log.tag\x00") data' i :=
  strings_renamed libMtkOmxCore List.mem_cons_self (b "mtk.vendor.omx.core.log.tag\x00")

/-- What followed the old name is no longer read. -/
example : (runFixup libMtkOmxCore (b "mtk.vendor.omx.core.log.tag\x00")).map (cstring · 0) =
    some (b "ro.vendor.mtk.omx.log") := by
  decide +kernel

end RMX2020.Blobs
