import RMX2020.Blobs.UpdateSha1sums

/-!
# How `update` fails

Three kinds of entries stop `update` otherwise than by a file it cannot read: one before the first
comment, where the flag is read unassigned although the module assigns it a default, and in a
section that is pinned one whose path is empty or holds a null character (`Offending`). They are
harmless only behind an entry whose file is missing, where `update` stops first
(`update_errors_iff`). However the script stops, it has written nothing.
-/

namespace RMX2020.Blobs

open Machine Python

/-- The error of a blob that cannot be read. -/
def Unreadable (blobs : VendorTree) (e : PyError) : Prop :=
  ∃ path, e = .osError path ∧ blobs path = none

/-- An entry that names a path which can be asked for. -/
def WellFormed (line : Str) : Prop :=
  destination (first '|' line) ≠ [] ∧ '\x00' ∉ destination (first '|' line)

/-- Below these lines, an entry that `update` cannot take whatever the vendor tree holds. -/
def Offending (above : List Str) (line : Str) : Prop :=
  Entry line ∧ (nearestComment above = none ∨ FromSection above ∧ ¬ WellFormed line)

/-- Below these lines, an entry whose hash is to be renewed from a file that cannot be read. -/
def Missing (blobs : VendorTree) (above : List Str) (line : Str) : Prop :=
  Entry line ∧ FromSection above ∧ WellFormed line ∧
    ∃ path, filePath (first '|' line) = .ok path ∧ blobs (join vendorPath path) = none

/-! ## One entry -/

section Entry

variable {blobs : VendorTree} {above : List Str} {line : Str}

theorem null_mem_join (path : Str) : '\x00' ∈ join vendorPath path ↔ '\x00' ∈ path := by
  have hvendor : '\x00' ∉ vendorPath := by decide
  unfold join
  split
  · rfl
  · split <;> simp [hvendor]

theorem filePath_eq_ok (h : destination line ≠ []) :
    ∃ path, filePath line = .ok path ∧ ('\x00' ∈ path ↔ '\x00' ∈ destination line) := by
  unfold filePath
  split
  · next hnil => exact absurd hnil h
  · next path hpath =>
    refine ⟨path, rfl, ?_⟩
    rw [hpath]
    simp
  · exact ⟨_, rfl, Iff.rfl⟩

/-- How renewing the hash of an entry ends. -/
inductive Renewal (blobs : VendorTree) (line : Str) : Except PyError Str → Prop
  | empty (h : ¬ WellFormed line) : Renewal blobs line (.error .indexError)
  | null (h : ¬ WellFormed line) : Renewal blobs line (.error .valueError)
  | missing {path : Str} (h : WellFormed line) (hpath : filePath (first '|' line) = .ok path)
      (hblob : blobs (join vendorPath path) = none) :
      Renewal blobs line (.error (.osError (join vendorPath path)))
  | renewed {path line' : Str} (h : WellFormed line) (hpath : filePath (first '|' line) = .ok path)
      (hblob : blobs (join vendorPath path) ≠ none) : Renewal blobs line (.ok line')

theorem updateEntry_renewal (blobs : VendorTree) (line : Str) :
    Renewal blobs line (updateEntry blobs line) := by
  simp only [updateEntry, bind, Except.bind]
  by_cases hnil : destination (first '|' line) = []
  · have hpath : filePath (first '|' line) = .error .indexError := by rw [filePath, hnil]
    rw [hpath]
    exact .empty fun h => h.1 hnil
  · obtain ⟨path, hpath, hnull⟩ := filePath_eq_ok hnil
    rw [hpath]
    simp only [readBlob, null_mem_join, hnull]
    by_cases hmem : '\x00' ∈ destination (first '|' line)
    · rw [if_pos hmem]
      exact .null fun h => h.2 hmem
    · rw [if_neg hmem]
      cases hblob : blobs (join vendorPath path) with
      | none => exact .missing ⟨hnil, hmem⟩ hpath hblob
      | some data => exact .renewed ⟨hnil, hmem⟩ hpath (by simp [hblob])

/-- A turn fails at an entry only: without a comment above it, or in renewing its hash. -/
theorem updateLine_error_iff {e : PyError} :
    updateLine blobs (flag above) line = .error e ↔
      Entry line ∧ (nearestComment above = none ∧ e = .unboundLocalError ∨
        FromSection above ∧ updateEntry blobs line = .error e) := by
  cases kind line with
  | blank => simp [updateLine, not_entry_nil]
  | comment cs => simp [updateLine, not_entry_comment]
  | entry hentry =>
    rw [updateLine_entry hentry, ← flag_eq_true_iff, ← flag_eq_none_iff]
    cases flag above with
    | none => simp [hentry, eq_comm]
    | some needed =>
      cases needed with
      | false => simp
      | true => cases updateEntry blobs line <;> simp [hentry, Except.map]

theorem not_unreadable_of_ne {e : PyError} (h : ∀ path, e ≠ .osError path) :
    ¬ Unreadable blobs e := fun ⟨path, he, _⟩ => h path he

theorem offending_iff : Offending above line ↔
    ∃ e, updateLine blobs (flag above) line = .error e ∧ ¬ Unreadable blobs e := by
  simp only [updateLine_error_iff]
  constructor
  · rintro ⟨hentry, hnone | ⟨hsection, hform⟩⟩
    · exact ⟨.unboundLocalError, ⟨hentry, .inl ⟨hnone, rfl⟩⟩, not_unreadable_of_ne (by simp)⟩
    · have hrenewal := updateEntry_renewal blobs line
      generalize hend : updateEntry blobs line = r at hrenewal
      cases hrenewal with
      | empty => exact ⟨_, ⟨hentry, .inr ⟨hsection, rfl⟩⟩, not_unreadable_of_ne (by simp)⟩
      | null => exact ⟨_, ⟨hentry, .inr ⟨hsection, rfl⟩⟩, not_unreadable_of_ne (by simp)⟩
      | missing h => exact absurd h hform
      | renewed h => exact absurd h hform
  · rintro ⟨e, ⟨hentry, ⟨hnone, -⟩ | ⟨hsection, hupdate⟩⟩, hunreadable⟩
    · exact ⟨hentry, .inl hnone⟩
    · have hrenewal := updateEntry_renewal blobs line
      rw [hupdate] at hrenewal
      cases hrenewal with
      | empty h => exact ⟨hentry, .inr ⟨hsection, h⟩⟩
      | null h => exact ⟨hentry, .inr ⟨hsection, h⟩⟩
      | missing _ _ hblob => exact absurd ⟨_, rfl, hblob⟩ hunreadable

theorem missing_iff : Missing blobs above line ↔
    ∃ e, updateLine blobs (flag above) line = .error e ∧ Unreadable blobs e := by
  simp only [updateLine_error_iff]
  have hrenewal := updateEntry_renewal blobs line
  constructor
  · rintro ⟨hentry, hsection, hform, path, hpath, hblob⟩
    generalize hend : updateEntry blobs line = r at hrenewal
    cases hrenewal with
    | empty h => exact absurd hform h
    | null h => exact absurd hform h
    | missing _ _ hblob' => exact ⟨_, ⟨hentry, .inr ⟨hsection, rfl⟩⟩, _, rfl, hblob'⟩
    | renewed _ hpath' hblob' =>
      obtain rfl := Except.ok.inj (hpath.symm.trans hpath')
      exact absurd hblob hblob'
  · rintro ⟨e, ⟨hentry, ⟨-, rfl⟩ | ⟨hsection, hupdate⟩⟩, hunreadable⟩
    · exact absurd hunreadable (not_unreadable_of_ne (by simp))
    · rw [hupdate] at hrenewal
      cases hrenewal with
      | empty => exact absurd hunreadable (not_unreadable_of_ne (by simp))
      | null => exact absurd hunreadable (not_unreadable_of_ne (by simp))
      | missing h hpath hblob => exact ⟨hentry, hsection, h, _, hpath, hblob⟩

end Entry

/-! ## The list, and the file -/

theorem main_error {argv : List Str} {disk : Disk} {e : PyError}
    (h : (main argv disk).1 = .error e) : (main argv disk).2 = disk := by
  unfold main at h ⊢
  split at h
  · rfl
  · cases h

/-- `update` stops with nothing but the error of a blob that cannot be read if and only if every
entry it could not take comes after one whose blob is missing; and whenever the script stops, the
files are as they were. -/
theorem update_errors_iff (disk : Disk) :
    let lines := read disk.proprietaryFiles
    ((∀ e, update disk.blobs lines = .error e → Unreadable disk.blobs e) ↔
      ∀ i line, lines[i]? = some line → Offending (lines.take i) line →
        ∃ j < i, ∃ line', lines[j]? = some line' ∧
          Missing disk.blobs (lines.take j) line') ∧
    ∀ argv e, (main argv disk).1 = .error e → (main argv disk).2 = disk := by
  intro lines
  refine ⟨?_, fun argv e h => main_error h⟩
  simp only [update_eq]
  rw [rewrite_errors_iff updateLine_flag]
  simp only [List.nil_append]
  constructor
  · intro hfirst i line hi hoffending
    obtain ⟨e, herror, hother⟩ := offending_iff.1 hoffending
    obtain ⟨j, hj, line', e', hj', herror', hunreadable⟩ := hfirst i line e hi herror hother
    exact ⟨j, hj, line', hj', missing_iff.2 ⟨e', herror', hunreadable⟩⟩
  · intro hfirst i line e hi herror hother
    obtain ⟨j, hj, line', hj', hmissing⟩ :=
      hfirst i line hi (offending_iff.2 ⟨e, herror, hother⟩)
    obtain ⟨e', herror', hunreadable⟩ := missing_iff.1 hmissing
    exact ⟨j, hj, line', e', hj', herror', hunreadable⟩

/-- An entry before the first comment is not left unchanged. -/
theorem flag_unassigned :
    update (fun _ => some []) (read "a\n".toList) = .error .unboundLocalError ∧
    ¬ Unreadable (fun _ => some []) .unboundLocalError :=
  ⟨by decide +kernel, fun ⟨_, he, _⟩ => nomatch he⟩

/-- In a section that is pinned, an empty destination stops `update` too. -/
example : update (fun _ => some []) (read "# a - from b\nc.so:\n".toList) = .error .indexError := by
  decide +kernel

end RMX2020.Blobs
