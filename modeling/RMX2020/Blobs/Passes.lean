import RMX2020.Blobs.UpdateSha1sums

/-!
# The two passes together

Both passes rewrite lines where they stand. On one line they commute with each other as far as the
part before the first `|` goes: cleaning cuts the line there, and renewing a hash depends on nothing
behind it (`updateEntry_congr`). Lifted to whole lists and to the file the script writes, a pass
that is run again changes nothing, and cleaning forgets that the hashes were renewed
(`passes_canonical`). Cleaning also drops the hashes of the sections that `update` leaves alone, and
no later run brings them back (`clean_then_update`).
-/

namespace RMX2020.Blobs

open Machine Python

/-! ## Entries -/

section Entry

variable {blobs : VendorTree} {line line' : Str}

/-- `base|sha1`, with the hash of the file that `base` names. -/
def Pinned (blobs : VendorTree) (base line : Str) : Prop :=
  ∃ path data, filePath base = .ok path ∧ blobs (join vendorPath path) = some data ∧
    line = base ++ '|' :: hexdigest (sha1 data)

theorem Entry.append (h : Entry line) (rest : Str) : Entry (line ++ rest) := by
  obtain ⟨c, cs, rfl⟩ := List.exists_cons_of_ne_nil h.1
  exact ⟨by simp, by simpa using h.2⟩

theorem Entry.first (h : Entry line) (hne : first '|' line ≠ []) : Entry (first '|' line) := by
  obtain ⟨c, cs, rfl⟩ := List.exists_cons_of_ne_nil h.1
  by_cases hc : c = '|'
  · subst hc
    exact absurd first_cons_self hne
  · rw [first_cons_ne hc]
    exact ⟨by simp, by simpa using h.2⟩

theorem head?_first (h : Entry line) : (first '|' line).head? ≠ some '#' := by
  by_cases hne : first '|' line = []
  · simp [hne]
  · exact (h.first hne).2

/-- Only the part before the first hash matters for the new one. -/
theorem updateEntry_congr (h : first '|' line' = first '|' line) :
    updateEntry blobs line' = updateEntry blobs line := by
  unfold updateEntry
  rw [h]

theorem updateEntry_ok (h : updateEntry blobs line = .ok line') :
    ∃ path data, filePath (first '|' line) = .ok path ∧
      readBlob blobs (join vendorPath path) = .ok data ∧
      line' = first '|' line ++ '|' :: hexdigest (sha1 data) := by
  simp only [updateEntry, bind, Except.bind] at h
  split at h
  · cases h
  · next path hpath =>
    split at h
    · cases h
    · next data hdata =>
      cases h
      exact ⟨path, data, hpath, hdata, rfl⟩

theorem readBlob_ok {path : Str} {data : List UInt8} (h : readBlob blobs path = .ok data) :
    blobs path = some data := by
  unfold readBlob at h
  split at h
  · cases h
  · split at h
    · cases h
    · next hdata =>
      cases h
      exact hdata

theorem pinned_of_updateEntry (h : updateEntry blobs line = .ok line') :
    Pinned blobs (first '|' line) line' := by
  obtain ⟨path, data, hpath, hdata, rfl⟩ := updateEntry_ok h
  exact ⟨path, data, hpath, readBlob_ok hdata, rfl⟩

theorem first_updateEntry (h : updateEntry blobs line = .ok line') :
    first '|' line' = first '|' line := by
  obtain ⟨path, data, -, -, rfl⟩ := updateEntry_ok h
  exact first_append not_mem_first _

theorem first_ne_nil (h : updateEntry blobs line = .ok line') : first '|' line ≠ [] := by
  obtain ⟨path, -, hpath, -⟩ := updateEntry_ok h
  intro hnil
  rw [hnil] at hpath
  cases hpath

theorem entry_updateEntry (hentry : Entry line) (h : updateEntry blobs line = .ok line') :
    Entry line' := by
  have hfirst := hentry.first (first_ne_nil h)
  obtain ⟨path, data, -, -, rfl⟩ := updateEntry_ok h
  exact hfirst.append _

/-- Nothing in a digest is a separator or breaks a line. -/
theorem not_mem_hexdigest {c : Char} {data : List UInt8} (hc : c ∉ hexDigits) :
    c ∉ hexdigest (sha1 data) := fun hmem => hc (mem_hexdigest hmem)

/-- A pinned line carries one hash. -/
theorem Pinned.count {base : Str} (hbase : '|' ∉ base) (h : Pinned blobs base line) :
    line.count '|' = 1 := by
  obtain ⟨path, data, -, -, rfl⟩ := h
  have hhash : '|' ∉ hexdigest (sha1 data) := not_mem_hexdigest (by decide)
  rw [List.count_append, List.count_cons_self, List.count_eq_zero.2 hbase,
    List.count_eq_zero.2 hhash]

theorem unbroken_hexdigest {data : List UInt8} : Unbroken (hexdigest (sha1 data)) := by
  intro c hc
  have hdigits : hexDigits.all (· ∉ lineBreaks) := by decide
  simpa using List.all_eq_true.1 hdigits c (mem_hexdigest hc)

theorem unbroken_updateEntry (hline : Unbroken line) (h : updateEntry blobs line = .ok line') :
    Unbroken line' := by
  obtain ⟨path, data, -, -, rfl⟩ := updateEntry_ok h
  exact hline.first.append (unbroken_hexdigest.cons (by decide))

end Entry

/-! ## Lines -/

section Line

variable {blobs : VendorTree} {need need' : Option Bool} {line line' : Str}

theorem cleanup_cleanupLine (line : Str) :
    cleanupLine (cleanupLine line) = cleanupLine line := by
  by_cases hentry : Entry line
  · rw [cleanupLine_entry hentry]
    by_cases hne : first '|' line = []
    · rw [hne]
      rfl
    · rw [cleanupLine_entry (hentry.first hne), first_of_not_mem not_mem_first]
  · rw [cleanupLine_other hentry, cleanupLine_other hentry]

theorem unbroken_cleanupLine (h : Unbroken line) : Unbroken (cleanupLine line) := by
  by_cases hentry : Entry line
  · rw [cleanupLine_entry hentry]
    exact h.first
  · rw [cleanupLine_other hentry]
    exact h

/-- A line that was renewed is not renewed to anything else. -/
theorem updateLine_twice (h : updateLine blobs need line = .ok (need', line')) :
    updateLine blobs need line' = .ok (need', line') := by
  obtain ⟨-, rfl⟩ | ⟨hentry, rfl, hturn⟩ := updateLine_ok h
  · exact h
  · cases hturn with
    | keep => exact h
    | renew hupdate =>
      rw [updateLine_entry (entry_updateEntry hentry hupdate)]
      dsimp only
      rw [updateEntry_congr (first_updateEntry hupdate), hupdate]
      rfl

/-- Renewing a hash does not change what is left without it. -/
theorem cleanupLine_updateLine (h : updateLine blobs need line = .ok (need', line')) :
    cleanupLine line' = cleanupLine line := by
  obtain ⟨-, rfl⟩ | ⟨hentry, rfl, hturn⟩ := updateLine_ok h
  · rfl
  · cases hturn with
    | keep => rfl
    | renew hupdate =>
      rw [cleanupLine_entry (entry_updateEntry hentry hupdate), cleanupLine_entry hentry,
        first_updateEntry hupdate]

/-- A hash is renewed from a cleaned line as well; in a section that is left alone, the line stays
clean. -/
theorem updateLine_cleanupLine (h : updateLine blobs need line = .ok (need', line')) :
    updateLine blobs need (cleanupLine line) =
      .ok (need', if need = some false then cleanupLine line else line') := by
  obtain ⟨hother, rfl⟩ | ⟨hentry, rfl, hturn⟩ := updateLine_ok h
  · rw [cleanupLine_other hother, ite_self, h]
  · rw [cleanupLine_entry hentry]
    cases hturn with
    | keep =>
      rw [if_pos rfl]
      by_cases hne : first '|' line = []
      · rw [hne]
        rfl
      · rw [updateLine_entry (hentry.first hne)]
    | renew hupdate =>
      rw [updateLine_entry (hentry.first (first_ne_nil hupdate))]
      dsimp only
      rw [updateEntry_congr (first_of_not_mem not_mem_first), hupdate]
      rfl

theorem unbroken_updateLine (h : updateLine blobs need line = .ok (need', line'))
    (hline : Unbroken line) : Unbroken line' := by
  obtain ⟨-, rfl⟩ | ⟨-, rfl, hturn⟩ := updateLine_ok h
  · exact hline
  · cases hturn with
    | keep => exact hline
    | renew hupdate => exact unbroken_updateEntry hline hupdate

/-- What `update` makes of a line, by the section it is in. -/
theorem updateLine_section {above : List Str}
    (h : updateLine blobs (flag above) line = .ok (need', line')) :
    if Entry line ∧ FromSection above then Pinned blobs (first '|' line) line'
    else line' = line := by
  generalize hneed : flag above = need at h
  obtain ⟨hother, rfl⟩ | ⟨hentry, rfl, hturn⟩ := updateLine_ok h
  · rw [if_neg fun h => hother h.1]
  · cases hturn with
    | keep =>
      have hsection : ¬ FromSection above := by
        rw [← flag_eq_true_iff, hneed]
        decide
      rw [if_neg fun h => hsection h.2]
    | renew hupdate =>
      rw [if_pos ⟨hentry, flag_eq_true_iff.1 hneed⟩]
      exact pinned_of_updateEntry hupdate

/-- What `update` makes of a cleaned line, by the section it is in. -/
theorem updateLine_cleanup_section {above : List Str}
    (h : updateLine blobs (flag above) line = .ok (need', line')) :
    (if flag above = some false then cleanupLine line else line') =
      if Entry line ∧ ¬ FromSection above then first '|' line else line' := by
  generalize hneed : flag above = need at h
  obtain ⟨hother, rfl⟩ | ⟨hentry, rfl, hturn⟩ := updateLine_ok h
  · rw [cleanupLine_other hother, ite_self, if_neg fun h => hother h.1]
  · rw [cleanupLine_entry hentry]
    cases hturn with
    | keep =>
      have hsection : ¬ FromSection above := by
        rw [← flag_eq_true_iff, hneed]
        decide
      rw [if_pos rfl, if_pos ⟨hentry, hsection⟩]
    | renew =>
      rw [if_neg (by decide), if_neg fun h => h.2 (flag_eq_true_iff.1 hneed)]

end Line

/-! ## Lists of lines -/

section List

variable {blobs : VendorTree} {lines lines' : List Str}

theorem cleanup_cleanup (lines : List Str) : cleanup (cleanup lines) = cleanup lines := by
  unfold cleanup
  rw [List.map_map]
  exact List.map_congr_left fun line _ => cleanup_cleanupLine line

theorem cleanup_update (h : update blobs lines = .ok lines') : cleanup lines' = cleanup lines :=
  rewrite_map_eq cleanupLine_updateLine h

theorem update_update (h : update blobs lines = .ok lines') : update blobs lines' = .ok lines' :=
  rewrite_rewrite updateLine_twice h

theorem update_cleanup (h : update blobs lines = .ok lines') :
    ∃ lines'', update blobs (cleanup lines) = .ok lines'' :=
  rewrite_map (fun hturn => ⟨_, updateLine_cleanupLine hturn⟩) h

theorem update_length (h : update blobs lines = .ok lines') : lines'.length = lines.length :=
  rewrite_length h

theorem cleanup_length (lines : List Str) : (cleanup lines).length = lines.length :=
  List.length_map cleanupLine

theorem cleanup_get {i : Nat} {line : Str} (hi : lines[i]? = some line) :
    (cleanup lines)[i]? = some (if Entry line then first '|' line else line) := by
  rw [cleanup, List.getElem?_map, hi, Option.map_some]
  split
  · next hentry => rw [cleanupLine_entry hentry]
  · next hother => rw [cleanupLine_other hother]

theorem unbroken_cleanup (h : ∀ line ∈ lines, Unbroken line) :
    ∀ line ∈ cleanup lines, Unbroken line := by
  intro line hline
  obtain ⟨line', hline', rfl⟩ := List.mem_map.1 hline
  exact unbroken_cleanupLine (h line' hline')

theorem unbroken_update (h : update blobs lines = .ok lines')
    (hlines : ∀ line ∈ lines, Unbroken line) : ∀ line ∈ lines', Unbroken line :=
  rewrite_forall unbroken_updateLine h hlines

theorem update_get (h : update blobs lines = .ok lines') {i : Nat} {line : Str}
    (hi : lines[i]? = some line) : ∃ line' need, lines'[i]? = some line' ∧
      updateLine blobs (flag (lines.take i)) line = .ok (need, line') := by
  rw [update_eq] at h
  obtain ⟨line', hi', hturn⟩ := rewrite_get updateLine_flag h hi
  exact ⟨line', _, hi', hturn⟩

/-- Cleaning changes no comment. -/
theorem flag_cleanup (above : List Str) : flag (cleanup above) = flag above := by
  induction above using List.reverseRecOn with
  | nil => rfl
  | append_singleton above line ih =>
    have hmap : cleanup (above ++ [line]) = cleanup above ++ [cleanupLine line] := by
      simp [cleanup]
    rw [hmap]
    cases kind line with
    | blank => rw [flag_append (by simp [cleanupLine]), flag_append (by simp), ih]
    | comment cs => exact (flag_comment cs).trans (flag_comment cs).symm
    | entry h =>
      rw [cleanupLine_entry h, flag_append (head?_first h), flag_append h.2, ih]

/-- Where `update` succeeds, what it makes of a cleaned list differs in the sections it leaves alone
only. -/
theorem update_cleanup_get {lines'' : List Str} (h : update blobs lines = .ok lines')
    (h' : update blobs (cleanup lines) = .ok lines'') {i : Nat} {line line' : Str}
    (hi : lines[i]? = some line) (hi' : lines'[i]? = some line') :
    lines''[i]? = some
      (if Entry line ∧ ¬ FromSection (lines.take i) then first '|' line else line') := by
  obtain ⟨once, need, honce, hturn⟩ := update_get h hi
  obtain rfl : once = line' := Option.some.inj (honce.symm.trans hi')
  have hclean : (cleanup lines)[i]? = some (cleanupLine line) := by
    simp [cleanup, hi]
  obtain ⟨twice, need', htwice, hturn'⟩ := update_get h' hclean
  have hflag : flag ((cleanup lines).take i) = flag (lines.take i) := by
    rw [← flag_cleanup (lines.take i)]
    simp [cleanup]
  rw [hflag, updateLine_cleanupLine hturn, updateLine_cleanup_section hturn] at hturn'
  cases hturn'
  exact htwice

/-- The two lists are the same exactly when no section that is left alone holds a hash. -/
theorem update_cleanup_eq_iff {lines'' : List Str} (h : update blobs lines = .ok lines')
    (h' : update blobs (cleanup lines) = .ok lines'') :
    lines'' = lines' ↔
      ∀ i line, lines[i]? = some line → Entry line → ¬ FromSection (lines.take i) →
        '|' ∉ line := by
  constructor
  · rintro rfl i line hi hentry hsection
    obtain ⟨line', need, hi', hturn⟩ := update_get h hi
    have hkept := updateLine_section hturn
    rw [if_neg fun h => hsection h.2] at hkept
    subst hkept
    have hcut := update_cleanup_get h h' hi hi'
    rw [if_pos ⟨hentry, hsection⟩, hi'] at hcut
    exact first_eq_self_iff.1 (Option.some.inj hcut).symm
  · intro hclean
    have hlength : lines''.length = lines'.length := by
      rw [update_length h', cleanup_length, update_length h]
    refine List.ext_getElem? fun i => ?_
    cases hi : lines[i]? with
    | none =>
      have hle : lines.length ≤ i := List.getElem?_eq_none_iff.1 hi
      rw [List.getElem?_eq_none (by rw [update_length h', cleanup_length]; exact hle),
        List.getElem?_eq_none (by rw [update_length h]; exact hle)]
    | some line =>
      obtain ⟨line', need, hi', hturn⟩ := update_get h hi
      rw [update_cleanup_get h h' hi hi', hi']
      by_cases hcut : Entry line ∧ ¬ FromSection (lines.take i)
      · have hkept := updateLine_section hturn
        rw [if_neg fun h => hcut.2 h.2] at hkept
        rw [if_pos hcut, hkept, first_of_not_mem (hclean i line hi hcut.1 hcut.2)]
      · rw [if_neg hcut]

end List

/-! ## The file -/

section File

variable {blobs : VendorTree} {lines lines' : List Str} {disk : Disk}

theorem main_update (script : Str) (disk : Disk)
    (h : update disk.blobs (read disk.proprietaryFiles) = .ok lines') :
    main [script] disk = (.ok (), ⟨write lines', disk.blobs⟩) := by
  have hpass : pass [script] disk.blobs (read disk.proprietaryFiles) = .ok lines' := h
  rw [main, hpass]

theorem main_update_ok {script : Str} (h : (main [script] disk).1 = .ok ()) :
    ∃ lines', update disk.blobs (read disk.proprietaryFiles) = .ok lines' := by
  have hpass : pass [script] disk.blobs (read disk.proprietaryFiles) =
    update disk.blobs (read disk.proprietaryFiles) := rfl
  rw [main, hpass] at h
  cases hupdate : update disk.blobs (read disk.proprietaryFiles) with
  | error e =>
    rw [hupdate] at h
    cases h
  | ok lines' => exact ⟨lines', rfl⟩

theorem main_cleanup (script : Str) (disk : Disk) :
    main [script, "-c".toList] disk =
      (.ok (), ⟨write (cleanup (read disk.proprietaryFiles)), disk.blobs⟩) := by
  have hpass : pass [script, "-c".toList] disk.blobs (read disk.proprietaryFiles) =
    .ok (cleanup (read disk.proprietaryFiles)) := rfl
  rw [main, hpass]

theorem cleanup_reread (lines : List Str) : cleanup (reread lines) = reread (cleanup lines) := by
  cases lines <;> rfl

theorem update_reread (h : update blobs lines = .ok lines') :
    update blobs (reread lines) = .ok (reread lines') := by
  cases lines with
  | nil =>
    cases h
    rfl
  | cons line lines =>
    have hne : lines' ≠ [] := by
      rintro rfl
      exact absurd (update_length h) (by simp)
    rw [reread, if_neg (List.cons_ne_nil line lines), h, reread, if_neg hne]

/-- Cleaning a file the script wrote. -/
theorem main_cleanup_write (script : Str) (h : ∀ line ∈ lines, Unbroken line) :
    main [script, "-c".toList] ⟨write lines, blobs⟩ =
      (.ok (), ⟨write (cleanup lines), blobs⟩) := by
  rw [main_cleanup, read_write h, cleanup_reread, write_reread]

/-- Updating a file the script wrote. -/
theorem main_update_write (script : Str) (hlines : ∀ line ∈ lines, Unbroken line)
    (h : update blobs lines = .ok lines') :
    main [script] ⟨write lines, blobs⟩ = (.ok (), ⟨write lines', blobs⟩) := by
  have hreread : update blobs (read (write lines)) = .ok (reread lines') := by
    rw [read_write hlines, update_reread h]
  have hmain := main_update script ⟨write lines, blobs⟩ hreread
  rw [hmain, write_reread]

theorem unbroken_read (text : Str) : ∀ line ∈ read text, Unbroken line :=
  splitlines_unbroken (universalNewlines text)

/-- A pass that keeps the number of lines keeps it in the file. -/
theorem length_read_write {lines' : List Str} (h : ∀ line ∈ lines', Unbroken line)
    (hlength : lines'.length = lines.length) (hne : lines ≠ []) :
    (read (write lines')).length = lines.length := by
  have hne' : lines' ≠ [] := by
    rintro rfl
    exact hne (List.length_eq_zero_iff.1 hlength.symm)
  rw [read_write_of_ne h hne', hlength]

/-- The lines of a file that was written keep their places. -/
theorem read_write_get (h : ∀ line ∈ lines, Unbroken line) {i : Nat} {line : Str}
    (hi : lines[i]? = some line) : (read (write lines))[i]? = some line := by
  have hne : lines ≠ [] := by
    rintro rfl
    cases hi
  rw [read_write_of_ne h hne, hi]

end File

/-! ## Cleaning before updating -/

/-- The entries below a comment with `' - from'` get their hashes back after a run with `-c`; every
other entry loses its own for good. -/
theorem clean_then_update (script : Str) (disk : Disk) (h : (main [script] disk).1 = .ok ()) :
    let lines := read disk.proprietaryFiles
    let once := main [script] disk
    let twice := main [script] (main [script, "-c".toList] disk).2
    twice.1 = .ok () ∧
    (lines ≠ [] → (read once.2.proprietaryFiles).length = lines.length ∧
      (read twice.2.proprietaryFiles).length = lines.length) ∧
    (∀ i line, lines[i]? = some line →
      ∃ line', (read once.2.proprietaryFiles)[i]? = some line' ∧
        (read twice.2.proprietaryFiles)[i]? = some
          (if Entry line ∧ ¬ FromSection (lines.take i) then first '|' line else line') ∧
        (Entry line → FromSection (lines.take i) →
          Pinned disk.blobs (first '|' line) line')) ∧
    (twice.2.proprietaryFiles = once.2.proprietaryFiles ↔
      ∀ i line, lines[i]? = some line → Entry line → ¬ FromSection (lines.take i) →
        '|' ∉ line) := by
  intro lines once twice
  obtain ⟨lines', hupdate⟩ := main_update_ok h
  obtain ⟨lines'', hupdate'⟩ := update_cleanup hupdate
  have hlines : ∀ line ∈ lines, Unbroken line := unbroken_read _
  have hlines' := unbroken_update hupdate hlines
  have hlines'' := unbroken_update hupdate' (unbroken_cleanup hlines)
  have hlength' := update_length hupdate
  have hlength'' := (update_length hupdate').trans (cleanup_length lines)
  have honce : once = (.ok (), ⟨write lines', disk.blobs⟩) := main_update script disk hupdate
  have htwice : twice = (.ok (), ⟨write lines'', disk.blobs⟩) := by
    show main [script] (main [script, "-c".toList] disk).2 = _
    rw [main_cleanup]
    exact main_update_write script (unbroken_cleanup hlines) hupdate'
  rw [honce, htwice]
  refine ⟨rfl, fun hne => ⟨?_, ?_⟩, fun i line hi => ?_, ?_⟩
  · rw [length_read_write hlines' hlength' hne]
  · rw [length_read_write hlines'' hlength'' hne]
  · obtain ⟨line', need, hi', hturn⟩ := update_get hupdate hi
    refine ⟨line', read_write_get hlines' hi',
      read_write_get hlines'' (update_cleanup_get hupdate hupdate' hi hi'), ?_⟩
    intro hentry hsection
    have hpinned := updateLine_section hturn
    rwa [if_pos ⟨hentry, hsection⟩] at hpinned
  · rw [← update_cleanup_eq_iff hupdate hupdate']
    exact ⟨write_injective hlines'' hlines' (hlength''.trans hlength'.symm), congrArg write⟩

/-- A list whose only hash is in a section without `' - from'`. -/
def fingerprint : Disk := ⟨write ["# Fingerprint".toList, "a|1f".toList], fun _ => none⟩

/-- The hash is lost. -/
theorem pin_lost :
    (main [[]] fingerprint).1 = .ok () ∧
    (main [[]] (main [[], "-c".toList] fingerprint).2).2.proprietaryFiles ≠
      (main [[]] fingerprint).2.proprietaryFiles := by
  decide +kernel

theorem clean_then_update_fingerprint :
    (main [[]] (main [[], "-c".toList] fingerprint).2).1 = .ok () :=
  (clean_then_update [] fingerprint (by decide +kernel)).1

/-! ## Running a pass again -/

/-- **The passes are canonical**: neither changes anything when it is run again, cleaning forgets
that the hashes were renewed, and line by line cleaning cuts the entries and updating pins those of
the sections with `' - from'`. -/
theorem passes_canonical (script : Str) (disk : Disk) (h : (main [script] disk).1 = .ok ())
    (hcomment : ∃ line, (read disk.proprietaryFiles).find? (· ≠ []) = some line ∧
      line.head? = some '#') :
    let lines := read disk.proprietaryFiles
    let updated := (main [script] disk).2
    let cleaned := (main [script, "-c".toList] disk).2
    main [script] updated = (.ok (), updated) ∧
    main [script, "-c".toList] cleaned = (.ok (), cleaned) ∧
    main [script, "-c".toList] updated = (.ok (), cleaned) ∧
    (read updated.proprietaryFiles).length = lines.length ∧
    (read cleaned.proprietaryFiles).length = lines.length ∧
    ∀ i line, lines[i]? = some line →
      (read cleaned.proprietaryFiles)[i]? =
        some (if Entry line then first '|' line else line) ∧
      ∃ line', (read updated.proprietaryFiles)[i]? = some line' ∧
        if Entry line ∧ FromSection (lines.take i) then
          Pinned disk.blobs (first '|' line) line' ∧ line'.count '|' = 1
        else line' = line := by
  intro lines updated cleaned
  obtain ⟨lines', hupdate⟩ := main_update_ok h
  have hlines : ∀ line ∈ lines, Unbroken line := unbroken_read _
  have hlines' := unbroken_update hupdate hlines
  have hcleaned := unbroken_cleanup hlines
  have hne : lines ≠ [] := by
    obtain ⟨line, hfind, -⟩ := hcomment
    exact List.ne_nil_of_mem (List.mem_of_find?_eq_some hfind)
  have hupdated_eq : updated = ⟨write lines', disk.blobs⟩ :=
    congrArg Prod.snd (main_update script disk hupdate)
  have hcleaned_eq : cleaned = ⟨write (cleanup lines), disk.blobs⟩ :=
    congrArg Prod.snd (main_cleanup script disk)
  have hread {out : List Str} (hout : ∀ line ∈ out, Unbroken line)
      (hlength : out.length = lines.length) : read (write out) = out := by
    have hout_ne : out ≠ [] := by
      rintro rfl
      exact hne (List.length_eq_zero_iff.1 hlength.symm)
    exact read_write_of_ne hout hout_ne
  rw [hupdated_eq, hcleaned_eq]
  dsimp only
  rw [hread hlines' (update_length hupdate), hread hcleaned (cleanup_length lines)]
  refine ⟨main_update_write script hlines' (update_update hupdate), ?_, ?_,
    update_length hupdate, cleanup_length lines, ?_⟩
  · rw [main_cleanup_write script hcleaned, cleanup_cleanup]
  · rw [main_cleanup_write script hlines', cleanup_update hupdate]
  · intro i line hi
    refine ⟨cleanup_get hi, ?_⟩
    obtain ⟨line', need, hi', hturn⟩ := update_get hupdate hi
    refine ⟨line', hi', ?_⟩
    have hsection := updateLine_section hturn
    split
    · next hcut =>
      rw [if_pos hcut] at hsection
      exact ⟨hsection, hsection.count not_mem_first⟩
    · next hcut => rwa [if_neg hcut] at hsection

/-- An entry that a section of the list pins from the vendor tree, with one that is not pinned. -/
def widevine : Disk :=
  ⟨write ["# DRM - from a".toList, "b;c|0|1".toList, "# AEE".toList, "d".toList],
    fun _ => some []⟩

theorem passes_canonical_widevine :
    main [[]] (main [[]] widevine).2 = (.ok (), (main [[]] widevine).2) :=
  (passes_canonical [] widevine (by decide +kernel) ⟨"# DRM - from a".toList, by decide +kernel⟩).1

/-- An entry that is pinned by hand, by the hash of the file it names. -/
def byHand : Disk :=
  ⟨write ["# x".toList, 'a' :: '|' :: hexdigest (sha1 [])], fun _ => some []⟩

/-- It is left alone, though it is `base|sha1` without a `' - from'` above it. -/
theorem pinned_by_hand :
    (main [[]] byHand).1 = .ok () ∧
    (read byHand.proprietaryFiles)[0]? = some "# x".toList ∧
    ∃ line, Entry line ∧ (read byHand.proprietaryFiles)[1]? = some line ∧
      (read (main [[]] byHand).2.proprietaryFiles)[1]? = some line ∧
      Pinned byHand.blobs (first '|' line) line ∧
      ¬ FromSection ((read byHand.proprietaryFiles).take 1) := by
  refine ⟨by decide +kernel, by decide +kernel, 'a' :: '|' :: hexdigest (sha1 []),
    by decide +kernel, by decide +kernel, by decide +kernel, ?_, by decide +kernel⟩
  exact ⟨"a".toList, [], by decide +kernel, rfl, by decide +kernel⟩

end RMX2020.Blobs
