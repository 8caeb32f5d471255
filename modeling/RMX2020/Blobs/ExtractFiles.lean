import RMX2020.Python.Regex

/-!
# The fixups of binary blobs

The `binaryRegexReplace` chains of `blobFixups` in `extract-files.py`, on the bytes of a file.
No match of their patterns can overlap with another match or with what a replacement has put in
(`separated_of_mem`), so every chain keeps the layout of the file, changes nothing when it is run
again, and does not depend on the order of its replacements (`fixups_keep_layout`). The names in
the patterns have dots, which take any byte but the newline: `renames_only_iff` says for which files
no other name is rewritten.
-/

namespace RMX2020.Blobs

open Machine Python

/-- The arguments of a `binaryRegexReplace`. -/
structure BinaryRegexReplace where
  pattern : Bytes
  repl : Bytes

/-! ## The chains -/

/-- `evaluateCaptureConfiguration()`. -/
def libmtkcamFeaturepolicy : List BinaryRegexReplace := [
  ⟨b "\x34\xE8\x87\x40\xB9", b "\x34\x28\x02\x80\x52"⟩]

def libMtkOmxCore : List BinaryRegexReplace := [
  ⟨b "mtk.vendor.omx.core.log", b "ro.vendor.mtk.omx.log\x00\x00"⟩]

def libMtkOmxVdecEx : List BinaryRegexReplace := [
  ⟨b "ro.mtk_crossmount_support", b "ro.vendor.mtk_crossmount\x00"⟩,
  ⟨b "ro.mtk_deinterlace_support", b "ro.vendor.mtk_deinterlace\x00"⟩]

/-- The entries of `blobFixups` that rewrite bytes. -/
def blobFixups : List (List String × List BinaryRegexReplace) := [
  (["vendor/lib64/libmtkcam_featurepolicy.so"], libmtkcamFeaturepolicy),
  (["vendor/lib/libMtkOmxCore.so", "vendor/lib64/libMtkOmxCore.so"], libMtkOmxCore),
  (["vendor/lib/libMtkOmxVdecEx.so"], libMtkOmxVdecEx)]

/-- `binaryRegexReplace` is `re.sub` on the whole file. -/
def binaryRegexReplace (data : Bytes) (f : BinaryRegexReplace) : Option Bytes :=
  Re.sub f.pattern f.repl data

/-- Run a chain on the bytes of a file. -/
def runFixup (fixup : List BinaryRegexReplace) (data : Bytes) : Option Bytes :=
  fixup.foldlM binaryRegexReplace data

/-! ## Chains as rules -/

def rules : List BinaryRegexReplace → Option (List (Rule UInt8))
  | [] => some []
  | f :: fixup =>
    match Re.rule f.pattern f.repl, rules fixup with
    | some r, some rs => some (r :: rs)
    | _, _ => none

/-- The chain is a list of rules that are separate. -/
def Separated (fixup : List BinaryRegexReplace) : Prop :=
  match rules fixup with
  | some rs => Separate rs
  | none => False

instance (fixup : List BinaryRegexReplace) : Decidable (Separated fixup) :=
  match h : rules fixup with
  | some rs => decidable_of_iff (Separate rs) (by rw [Separated, h])
  | none => isFalse (by rw [Separated, h]; exact id)

theorem separated_of_mem : ∀ fixup ∈ blobFixups, Separated fixup.2 := by
  decide +kernel

theorem separated_libMtkOmxCore : Separated libMtkOmxCore :=
  separated_of_mem
    (["vendor/lib/libMtkOmxCore.so", "vendor/lib64/libMtkOmxCore.so"], libMtkOmxCore)
    (by simp [blobFixups])

theorem separated_libMtkOmxVdecEx : Separated libMtkOmxVdecEx :=
  separated_of_mem (["vendor/lib/libMtkOmxVdecEx.so"], libMtkOmxVdecEx) (by simp [blobFixups])

section Rules

variable {fixup fixup' : List BinaryRegexReplace} {rs : List (Rule UInt8)} {data : Bytes}

theorem Separated.exists_rules (h : Separated fixup) :
    ∃ rs, rules fixup = some rs ∧ Separate rs := by
  unfold Separated at h
  split at h
  · next rs hrs => exact ⟨rs, hrs, h⟩
  · exact absurd h id

theorem rules_cons {f : BinaryRegexReplace} (h : rules (f :: fixup) = some rs) :
    ∃ r rs', Re.rule f.pattern f.repl = some r ∧ rules fixup = some rs' ∧ rs = r :: rs' := by
  rw [rules] at h
  split at h
  · next r rs' hr hrs' =>
    cases h
    exact ⟨r, rs', hr, hrs', rfl⟩
  · cases h

theorem runFixup_eq (h : rules fixup = some rs) (data : Bytes) :
    runFixup fixup data = some (rewriteAll rs data) := by
  induction fixup generalizing rs data with
  | nil =>
    cases h
    rfl
  | cons f fixup ih =>
    obtain ⟨r, rs', hr, hrs', rfl⟩ := rules_cons h
    rw [runFixup, List.foldlM_cons, binaryRegexReplace, Re.sub_of_rule hr]
    exact ih hrs' (r.apply data)

theorem exists_rule (h : rules fixup = some rs) :
    ∀ f ∈ fixup, ∃ r ∈ rs, Re.rule f.pattern f.repl = some r := by
  induction fixup generalizing rs with
  | nil => simp
  | cons f fixup ih =>
    obtain ⟨r, rs', hr, hrs', rfl⟩ := rules_cons h
    intro f' hf'
    rcases List.mem_cons.1 hf' with rfl | hf'
    · exact ⟨r, List.mem_cons_self, hr⟩
    · obtain ⟨r', hr', hrule⟩ := ih hrs' f' hf'
      exact ⟨r', List.mem_cons_of_mem r hr', hrule⟩

theorem exists_replace (h : rules fixup = some rs) :
    ∀ r ∈ rs, ∃ f ∈ fixup, Re.rule f.pattern f.repl = some r := by
  induction fixup generalizing rs with
  | nil =>
    cases h
    simp
  | cons f fixup ih =>
    obtain ⟨r, rs', hr, hrs', rfl⟩ := rules_cons h
    intro r' hr'
    rcases List.mem_cons.1 hr' with rfl | hr'
    · exact ⟨f, List.mem_cons_self, hr⟩
    · obtain ⟨f', hf', hrule⟩ := ih hrs' r' hr'
      exact ⟨f', List.mem_cons_of_mem f hf', hrule⟩

theorem rules_perm (hperm : fixup.Perm fixup') (h : rules fixup = some rs) :
    ∃ rs', rules fixup' = some rs' ∧ rs.Perm rs' := by
  induction hperm generalizing rs with
  | nil => exact ⟨rs, h, List.Perm.refl rs⟩
  | cons f _ ih =>
    obtain ⟨r, rs', hr, hrs', rfl⟩ := rules_cons h
    obtain ⟨rs'', hrs'', hperm⟩ := ih hrs'
    exact ⟨r :: rs'', by rw [rules, hr, hrs''], hperm.cons r⟩
  | swap f f' fixup =>
    obtain ⟨r, rs', hr, hrs', rfl⟩ := rules_cons h
    obtain ⟨r', rs'', hr', hrs'', rfl⟩ := rules_cons hrs'
    exact ⟨r' :: r :: rs'', by simp only [rules, hr, hr', hrs''], List.Perm.swap r' r rs''⟩
  | trans _ _ ih ih' =>
    obtain ⟨rs', hrs', hperm⟩ := ih h
    obtain ⟨rs'', hrs'', hperm'⟩ := ih' hrs'
    exact ⟨rs'', hrs'', hperm.trans hperm'⟩

theorem Separated.run_perm (h : Separated fixup) (hperm : fixup.Perm fixup') (data : Bytes) :
    runFixup fixup' data = runFixup fixup data := by
  obtain ⟨rs, hrs, hseparate⟩ := h.exists_rules
  obtain ⟨rs', hrs', hperm'⟩ := rules_perm hperm hrs
  rw [runFixup_eq hrs, runFixup_eq hrs', rewriteAll_perm hseparate hperm']

end Rules

/-! ## The layout of the file -/

/-- Place `i` is one of those of a match of the chain's patterns. -/
def Matched (fixup : List BinaryRegexReplace) (data : Bytes) (i : Nat) : Prop :=
  ∃ f ∈ fixup, ∃ starts, Re.finditer f.pattern data = some starts ∧
    ∃ j ∈ starts, j ≤ i ∧ i < j + f.pattern.length

theorem matched_of_covers {fixup : List BinaryRegexReplace} {rs : List (Rule UInt8)} {data : Bytes}
    {r : Rule UInt8} {i j : Nat} (hrs : rules fixup = some rs) (hseparate : Separate rs)
    (hr : r ∈ rs) (hj : MatchAt r.pattern data j) (hi : Covers r.pattern j i) :
    Matched fixup data i := by
  obtain ⟨f, hf, hrule⟩ := exists_replace hrs r hr
  refine ⟨f, hf, found r.pattern data, Re.finditer_of_rule hrule data, j, ?_, hi.1, ?_⟩
  · exact (mem_found_iff r.ne_nil (hseparate.self r hr)).2 hj
  · rw [← Re.length_compile (Re.rule_eq_some hrule).1]
    exact hi.2

/-- What a chain does to every file, and what it does when it is run again. -/
structure KeepsLayout (fixup : List BinaryRegexReplace) (data data' : Bytes) : Prop where
  length : data'.length = data.length
  unmatched : ∀ i, ¬ Matched fixup data i → data'[i]? = data[i]?
  again : runFixup fixup data' = some data'

theorem Separated.keepsLayout {fixup : List BinaryRegexReplace} (h : Separated fixup)
    (data : Bytes) : ∃ data', runFixup fixup data = some data' ∧ KeepsLayout fixup data data' := by
  obtain ⟨rs, hrs, hseparate⟩ := h.exists_rules
  have hreplaced := replaced_rewriteAll hseparate data
  refine ⟨rewriteAll rs data, runFixup_eq hrs data, hreplaced.length, fun i hi => ?_, ?_⟩
  · apply hreplaced.other
    intro r hr j hj hcovers
    exact hi (matched_of_covers hrs hseparate hr hj hcovers)
  · rw [runFixup_eq hrs, rewriteAll_rewriteAll hseparate]

/-- Every chain keeps the length of the file and the bytes outside the matches, and leaves its own
result alone. The two replacements of `libMtkOmxVdecEx` can be swapped. -/
theorem fixups_keep_layout :
    (∀ fixup ∈ blobFixups, ∀ data, ∃ data',
      runFixup fixup.2 data = some data' ∧ KeepsLayout fixup.2 data data') ∧
    ∀ data, runFixup libMtkOmxVdecEx.reverse data = runFixup libMtkOmxVdecEx data := by
  refine ⟨fun fixup hfixup data => (separated_of_mem fixup hfixup).keepsLayout data, fun data => ?_⟩
  exact separated_libMtkOmxVdecEx.run_perm (List.reverse_perm libMtkOmxVdecEx).symm data

theorem fixups_keep_layout_libMtkOmxCore : ∃ data',
    runFixup libMtkOmxCore (b "mtk.vendor.omx.core.log!") = some data' ∧
      KeepsLayout libMtkOmxCore (b "mtk.vendor.omx.core.log!") data' :=
  fixups_keep_layout.1
    (["vendor/lib/libMtkOmxCore.so", "vendor/lib64/libMtkOmxCore.so"], libMtkOmxCore)
    (by simp [blobFixups]) (b "mtk.vendor.omx.core.log!")

/-! ## The names in the patterns -/

/-- The name stands at `j` of the file. -/
def Occurs (name data : Bytes) (j : Nat) : Prop := name <+: data.drop j

instance (name data : Bytes) (j : Nat) : Decidable (Occurs name data j) :=
  inferInstanceAs (Decidable (_ <+: _))

/-- At `j` the file has a text that differs from the name in nothing but its dots, and has no
newline there. -/
def Similar (name data : Bytes) (j : Nat) : Prop :=
  ∀ (k : Nat) (c : UInt8), name[k]? = some c →
    ∃ c', data[j + k]? = some c' ∧ (c' = c ∨ c = Re.dot ∧ c' ≠ Re.newline)

/-- The chain rewrites the names it has for patterns, and nothing else. -/
structure RenamesOnly (fixup : List BinaryRegexReplace) (data data' : Bytes) : Prop where
  changed : ∀ i, data'[i]? ≠ data[i]? →
    ∃ f ∈ fixup, ∃ j, Occurs f.pattern data j ∧ j ≤ i ∧ i < j + f.pattern.length
  renamed : ∀ f ∈ fixup, ∀ j, Occurs f.pattern data j → Occurs f.repl data' j
  unnamed : (∀ f ∈ fixup, ∀ j, ¬ Occurs f.pattern data j) → data' = data

/-- Wherever the file has a text like one of the names, it is the name. -/
def Spelled (fixup : List BinaryRegexReplace) (data : Bytes) : Prop :=
  ∀ f ∈ fixup, ∀ j, Similar f.pattern data j → Occurs f.pattern data j

section Names

variable {fixup : List BinaryRegexReplace} {rs : List (Rule UInt8)} {data data' : Bytes}

/-- A rule matches where the text is like the name. -/
theorem similar_iff {f : BinaryRegexReplace} {r : Rule UInt8} {j : Nat}
    (h : Re.rule f.pattern f.repl = some r) :
    Similar f.pattern data j ↔ MatchAt r.pattern data j :=
  (Re.matchAt_compile_iff (Re.rule_eq_some h).1).symm

theorem Occurs.similar {name : Bytes} {j : Nat} (h : Occurs name data j) : Similar name data j := by
  intro k c hc
  exact ⟨c, matchAt_literally.1 (matchAt_literally_iff_drop.2 h) k c hc, Or.inl rfl⟩

theorem RenamesOnly.of_spelled (hrs : rules fixup = some rs) (h : Replaced rs data data')
    (hspelled : Spelled fixup data) : RenamesOnly fixup data data' := by
  have hchanged (i : Nat) (hi : data'[i]? ≠ data[i]?) :
      ∃ f ∈ fixup, ∃ j, Occurs f.pattern data j ∧ j ≤ i ∧ i < j + f.pattern.length := by
    by_contra hnone
    refine hi (h.other i fun r hr j hj hcovers => hnone ?_)
    obtain ⟨f, hf, hrule⟩ := exists_replace hrs r hr
    rw [Covers, Re.length_compile (Re.rule_eq_some hrule).1] at hcovers
    exact ⟨f, hf, j, hspelled f hf j ((similar_iff hrule).2 hj), hcovers⟩
  refine ⟨hchanged, fun f hf j hj => ?_, fun hnone => ?_⟩
  · obtain ⟨r, hr, hrule⟩ := exists_rule hrs f hf
    have hmatched := h.matched r hr j ((similar_iff hrule).1 hj.similar)
    rw [(Re.rule_eq_some hrule).2.1] at hmatched
    exact matchAt_literally_iff_drop.1 hmatched
  · apply List.ext_getElem?
    intro i
    by_contra hi
    obtain ⟨f, hf, j, hj, -⟩ := hchanged i hi
    exact hnone f hf j hj

/-- A replacement changes its match somewhere. -/
theorem exists_changed {r : Rule UInt8} {j : Nat} (hseparate : Separate rs) (hr : r ∈ rs)
    (h : Replaced rs data data') (hj : MatchAt r.pattern data j) :
    ∃ i, Covers r.pattern j i ∧ data'[i]? ≠ data[i]? := by
  by_contra hnone
  have hsame : ∀ i, Covers r.pattern j i → data'[i]? = data[i]? :=
    fun i hi => by_contra fun hne => hnone ⟨i, hi, hne⟩
  have hafter : MatchAt r.pattern data' j := (matchAt_congr hsame).2 hj
  exact h.no_match hseparate hr hafter

theorem Spelled.of_renamesOnly (hrs : rules fixup = some rs) (hseparate : Separate rs)
    (h : Replaced rs data data') (honly : RenamesOnly fixup data data') : Spelled fixup data := by
  intro f hf j hj
  obtain ⟨r, hr, hrule⟩ := exists_rule hrs f hf
  have hmatch := (similar_iff hrule).1 hj
  obtain ⟨i, hcovers, hne⟩ := exists_changed hseparate hr h hmatch
  -- the name that covers the changed byte is itself a match, so it is this one
  obtain ⟨f', hf', j', hoccurs, hcovers'⟩ := honly.changed i hne
  obtain ⟨r', hr', hrule'⟩ := exists_rule hrs f' hf'
  have hmatch' := (similar_iff hrule').1 hoccurs.similar
  rw [← Re.length_compile (Re.rule_eq_some hrule').1] at hcovers'
  obtain ⟨rfl, rfl⟩ := hseparate.eq_of_covers hr hr' hmatch hmatch' hcovers hcovers'
  rwa [Re.compile_injective (Re.rule_eq_some hrule).1 (Re.rule_eq_some hrule').1]

theorem Separated.renamesOnly_iff (h : Separated fixup) (data : Bytes) : ∃ data',
    runFixup fixup data = some data' ∧ (RenamesOnly fixup data data' ↔ Spelled fixup data) := by
  obtain ⟨rs, hrs, hseparate⟩ := h.exists_rules
  have hreplaced := replaced_rewriteAll hseparate data
  exact ⟨rewriteAll rs data, runFixup_eq hrs data,
    Spelled.of_renamesOnly hrs hseparate hreplaced, RenamesOnly.of_spelled hrs hreplaced⟩

end Names

/-- A chain rewrites only the names it means exactly in the files that have no text like one of them
with another byte in a dot's place. -/
theorem renames_only_iff : ∀ fixup ∈ [libMtkOmxCore, libMtkOmxVdecEx], ∀ data, ∃ data',
    runFixup fixup data = some data' ∧ (RenamesOnly fixup data data' ↔ Spelled fixup data) := by
  intro fixup hfixup data
  rcases List.mem_cons.1 hfixup with rfl | hfixup
  · exact separated_libMtkOmxCore.renamesOnly_iff data
  · obtain rfl := List.mem_singleton.1 hfixup
    exact separated_libMtkOmxVdecEx.renamesOnly_iff data

theorem renames_only_iff_libMtkOmxCore : ∃ data',
    runFixup libMtkOmxCore (b "\x00mtk.vendor.omx.core.log\x00") = some data' ∧
      (RenamesOnly libMtkOmxCore (b "\x00mtk.vendor.omx.core.log\x00") data' ↔
        Spelled libMtkOmxCore (b "\x00mtk.vendor.omx.core.log\x00")) :=
  renames_only_iff libMtkOmxCore List.mem_cons_self (b "\x00mtk.vendor.omx.core.log\x00")

/-- An underscore passes for the dot. -/
theorem ro_mtk_crossmount_support_renamed :
    runFixup libMtkOmxVdecEx (b "ro_mtk_crossmount_support") =
        some (b "ro.vendor.mtk_crossmount\x00") ∧
      ¬ RenamesOnly libMtkOmxVdecEx (b "ro_mtk_crossmount_support")
        (b "ro.vendor.mtk_crossmount\x00") := by
  refine ⟨by decide +kernel, fun h => ?_⟩
  obtain ⟨f, hf, j, hoccurs, hle, -⟩ := h.changed 2 (by decide +kernel)
  have hnone : ∀ f ∈ libMtkOmxVdecEx, ∀ j < 3,
      ¬ Occurs f.pattern (b "ro_mtk_crossmount_support") j := by
    decide +kernel
  exact hnone f hf j (Nat.lt_succ_of_le hle) hoccurs

end RMX2020.Blobs
