import RMX2020.Blobs.Errors
import RMX2020.Blobs.Passes

/-!
# The script over the life of a list

The list is kept for years: the script is run on it now with `-c` and now without, on a vendor tree
that changes from run to run, and some runs fail. None of this adds up. Whatever was done before, a
run ends as it would on the first list, or on the first list without its hashes if `-c` was used,
and so leaves the same file (`main_after`). Without `-c` the script can therefore be used to compare
a vendor tree with the one the list was made from: the lines that change are those of the blobs that
did (`update_again`).
-/

namespace RMX2020.Blobs

open Machine Python

/-! ## Passes on a list that was updated -/

section Update

variable {blobs blobs' : VendorTree} {need need' : Option Bool} {lines lines' : List Str}

/-- The flag that a turn leaves does not depend on the vendor tree. -/
theorem updateLine_flag_eq {line line' line'' : Str} {need'' : Option Bool}
    (h : updateLine blobs need line = .ok (need', line'))
    (h' : updateLine blobs' need line = .ok (need'', line'')) : need'' = need' := by
  cases kind line with
  | blank =>
    cases h
    cases h'
    rfl
  | comment cs =>
    cases h
    cases h'
    rfl
  | entry hentry =>
    rw [(updateLine_entry_ok hentry h).1, (updateLine_entry_ok hentry h').1]

/-- A line is renewed on another tree as if it had not been on the first. -/
theorem updateLine_updated {line line' : Str}
    (h : updateLine blobs need line = .ok (need', line')) :
    updateLine blobs' need line' = updateLine blobs' need line := by
  obtain ⟨-, rfl⟩ | ⟨hentry, rfl, hturn⟩ := updateLine_ok h
  · rfl
  · cases hturn with
    | keep => rfl
    | renew hupdate =>
      rw [updateLine_entry (entry_updateEntry hentry hupdate), updateLine_entry hentry,
        updateEntry_congr (first_updateEntry hupdate)]

theorem update_updated (h : update blobs lines = .ok lines') (blobs' : VendorTree) :
    update blobs' lines' = update blobs' lines :=
  rewrite_rewritten (fun hturn => ⟨updateLine_updated hturn,
    fun _ _ hnext => updateLine_flag_eq hturn hnext⟩) h

/-- Either pass takes a list that was updated as it takes the list before. -/
theorem pass_updated (h : update blobs lines = .ok lines') (argv : List Str)
    (blobs' : VendorTree) : pass argv blobs' lines' = pass argv blobs' lines := by
  unfold pass
  rw [cleanup_update h, update_updated h]

/-- What is written does not depend on how an empty list is read back. -/
theorem pass_reread (argv : List Str) (lines : List Str) :
    (pass argv blobs (reread lines)).map write = (pass argv blobs lines).map write := by
  unfold reread
  split
  · next hnil =>
    subst hnil
    unfold pass
    split <;> rfl
  · rfl

theorem unbroken_pass {argv : List Str} (h : pass argv blobs lines = .ok lines')
    (hlines : ∀ line ∈ lines, Unbroken line) : ∀ line ∈ lines', Unbroken line := by
  unfold pass at h
  split at h
  · cases h
    exact unbroken_cleanup hlines
  · exact unbroken_update h hlines

end Update

/-! ## Runs of the script -/

/-- How a run ends whose pass comes to this text. -/
def finish (disk : Disk) : Except PyError Str → Except PyError Unit × Disk
  | .error e => (.error e, disk)
  | .ok text => (.ok (), { disk with proprietaryFiles := text })

theorem main_eq_finish (argv : List Str) (disk : Disk) :
    main argv disk =
      finish disk ((pass argv disk.blobs (read disk.proprietaryFiles)).map write) := by
  unfold main
  cases pass argv disk.blobs (read disk.proprietaryFiles) <;> rfl

/-- A run of the script: its arguments, and the vendor tree there is. -/
structure Invocation where
  argv : List Str
  blobs : VendorTree

/-- Whether the script is called with `-c`. -/
def Invocation.cleans (v : Invocation) : Bool :=
  decide (v.argv.length = 2 ∧ v.argv[1]? = some "-c".toList)

/-- What a list of runs makes of the file. A run that fails leaves it. -/
def file (text : Str) (past : List Invocation) : Str :=
  past.foldl (fun text v => (main v.argv ⟨text, v.blobs⟩).2.proprietaryFiles) text

/-- The list as it was read first, without its hashes if a run has removed them. -/
def origin (text : Str) (past : List Invocation) : List Str :=
  if past.any (·.cleans) then cleanup (read text) else read text

section Runs

variable {text : Str} {past : List Invocation} {v : Invocation}

theorem pass_cleans (h : v.cleans) (lines : List Str) :
    pass v.argv v.blobs lines = .ok (cleanup lines) := if_pos (of_decide_eq_true h)

theorem pass_updates (h : ¬ v.cleans) (lines : List Str) :
    pass v.argv v.blobs lines = update v.blobs lines := if_neg fun hc => h (decide_eq_true hc)

theorem unbroken_origin (text : Str) (past : List Invocation) :
    ∀ line ∈ origin text past, Unbroken line := by
  unfold origin
  split
  · exact unbroken_cleanup (unbroken_read text)
  · exact unbroken_read text

theorem origin_cleans (h : v.cleans) : origin text (past ++ [v]) = cleanup (origin text past) := by
  unfold origin
  rw [List.any_append, List.any_cons, h, Bool.true_or, Bool.or_true, if_pos rfl]
  split
  · exact (cleanup_cleanup _).symm
  · rfl

theorem origin_updates (h : ¬ v.cleans) : origin text (past ++ [v]) = origin text past := by
  unfold origin
  rw [List.any_append, List.any_cons, List.any_nil, Bool.or_false, Bool.eq_false_iff.2 h,
    Bool.or_false]

/-- Whatever a run makes of the list, the next one takes it as it takes the list it was made of. -/
theorem pass_origin {lines' : List Str} (h : pass v.argv v.blobs (origin text past) = .ok lines')
    (argv : List Str) (blobs : VendorTree) :
    pass argv blobs lines' = pass argv blobs (origin text (past ++ [v])) := by
  by_cases hcleans : v.cleans
  · rw [pass_cleans hcleans] at h
    cases h
    rw [origin_cleans hcleans]
  · rw [pass_updates hcleans] at h
    rw [origin_updates hcleans, pass_updated h]

theorem file_append (text : Str) (past : List Invocation) (v : Invocation) :
    file text (past ++ [v]) =
      (main v.argv ⟨file text past, v.blobs⟩).2.proprietaryFiles := by
  unfold file
  rw [List.foldl_append]
  rfl

/-- What the next run writes, from the file as it is and from the first list. -/
theorem pass_file (text : Str) (past : List Invocation) (argv : List Str) (blobs : VendorTree) :
    (pass argv blobs (read (file text past))).map write =
      (pass argv blobs (origin text past)).map write := by
  induction past using List.reverseRecOn generalizing argv blobs with
  | nil => rfl
  | append_singleton past v ih =>
    rw [file_append, main_eq_finish, ih v.argv v.blobs]
    cases hpass : pass v.argv v.blobs (origin text past) with
    | error e =>
      have hupdates : ¬ v.cleans := by
        intro hcleans
        rw [pass_cleans hcleans] at hpass
        cases hpass
      rw [origin_updates hupdates]
      exact ih argv blobs
    | ok lines' =>
      have hread : read (write lines') = reread lines' :=
        read_write (unbroken_pass hpass (unbroken_origin text past))
      rw [← pass_origin hpass argv blobs]
      show (pass argv blobs (read (write lines'))).map write = _
      rw [hread, pass_reread]

/-- Whatever has been run before, a run does what it would do on the list as it was first, without
its hashes if one of the runs has removed them. -/
theorem main_after (text : Str) (past : List Invocation) (v : Invocation) :
    main v.argv ⟨file text past, v.blobs⟩ =
      finish ⟨file text past, v.blobs⟩ ((pass v.argv v.blobs (origin text past)).map write) := by
  rw [main_eq_finish, pass_file]

end Runs

/-! ## Comparing vendor trees -/

/-- `update` pins the line at `i` by the file at `path`. -/
def Pins (lines : List Str) (i : Nat) (path : Str) : Prop :=
  ∃ line, lines[i]? = some line ∧ Entry line ∧ FromSection (lines.take i) ∧
    ∃ rest, filePath (first '|' line) = .ok rest ∧ join vendorPath rest = path

/-- The hash of the file at a path. -/
def hashAt (blobs : VendorTree) (path : Str) : Option Str :=
  (blobs path).map fun data => hexdigest (sha1 data)

section Compare

variable {blobs blobs' : VendorTree} {lines lines' lines'' : List Str}

theorem Pinned.eq_iff {base line line' rest : Str} (hrest : filePath base = .ok rest)
    (h : Pinned blobs base line) (h' : Pinned blobs' base line') :
    line' = line ↔ hashAt blobs' (join vendorPath rest) = hashAt blobs (join vendorPath rest) := by
  obtain ⟨path, data, hpath, hdata, rfl⟩ := h
  obtain ⟨path', data', hpath', hdata', rfl⟩ := h'
  obtain rfl : path = rest := Except.ok.inj (hpath.symm.trans hrest)
  obtain rfl : path' = path := Except.ok.inj (hpath'.symm.trans hpath)
  simp [hashAt, hdata, hdata']

/-- A turn that one tree lets succeed fails on another only if that has no file to pin the line
by. -/
theorem missing_of_error {above : List Str} {line line' : Str} {need : Option Bool} {e : PyError}
    (h : updateLine blobs (flag above) line = .ok (need, line'))
    (h' : updateLine blobs' (flag above) line = .error e) : Missing blobs' above line := by
  obtain ⟨hentry, hunassigned | ⟨hsection, hupdate⟩⟩ := updateLine_error_iff.1 h'
  · have herror : updateLine blobs (flag above) line = .error .unboundLocalError :=
      updateLine_error_iff.2 ⟨hentry, .inl ⟨hunassigned.1, rfl⟩⟩
    rw [h] at herror
    cases herror
  · have hform : WellFormed line := by
      by_contra hform
      obtain ⟨e', he', -⟩ := offending_iff.1 ⟨hentry, .inr ⟨hsection, hform⟩⟩
      rw [h] at he'
      cases he'
    by_contra hmissing
    have hoffending : Offending above line :=
      offending_iff.2 ⟨e, h', fun hunreadable => hmissing (missing_iff.2 ⟨e, h', hunreadable⟩)⟩
    obtain ⟨-, hnone | ⟨-, hbad⟩⟩ := hoffending
    · exact absurd hsection (by rw [FromSection, hnone]; simp)
    · exact hbad hform

/-- A list that one tree can pin is one that another can if it has the files. -/
theorem update_ok_iff (h : update blobs lines = .ok lines') :
    (∃ lines'', update blobs' lines = .ok lines'') ↔
      ∀ i path, Pins lines i path → (blobs' path).isSome := by
  constructor
  · rintro ⟨lines'', h''⟩ i path ⟨line, hi, hentry, hsection, rest, hrest, rfl⟩
    obtain ⟨line'', need, hi'', hturn⟩ := update_get h'' hi
    have hpinned := updateLine_section hturn
    rw [if_pos ⟨hentry, hsection⟩] at hpinned
    obtain ⟨path, data, hpath, hdata, -⟩ := hpinned
    obtain rfl : path = rest := Except.ok.inj (hpath.symm.trans hrest)
    exact Option.isSome_iff_exists.2 ⟨data, hdata⟩
  · intro hreadable
    cases hupdate : update blobs' lines with
    | ok lines'' => exact ⟨lines'', rfl⟩
    | error e =>
      have hno : ∀ e, update blobs' lines = .error e → False := by
        rw [update_eq, rewrite_errors_iff updateLine_flag]
        intro i line e hi hturn' _
        rw [List.nil_append] at hturn'
        obtain ⟨line', need, hi', hturn⟩ := update_get h hi
        obtain ⟨hentry, hsection, -, rest, hrest, hnone⟩ := missing_of_error hturn hturn'
        have hthere := hreadable i _ ⟨line, hi, hentry, hsection, rest, hrest, rfl⟩
        rw [hnone] at hthere
        cases hthere
      exact (hno e hupdate).elim

/-- The lines that two trees pin differently. -/
theorem update_get_ne_iff (h : update blobs lines = .ok lines')
    (h' : update blobs' lines = .ok lines'') (i : Nat) :
    lines''[i]? ≠ lines'[i]? ↔
      ∃ path, Pins lines i path ∧ hashAt blobs' path ≠ hashAt blobs path := by
  cases hi : lines[i]? with
  | none =>
    have hle : lines.length ≤ i := List.getElem?_eq_none_iff.1 hi
    rw [List.getElem?_eq_none (by rw [update_length h']; exact hle),
      List.getElem?_eq_none (by rw [update_length h]; exact hle)]
    refine iff_of_false (fun hne => hne rfl) ?_
    rintro ⟨path, ⟨line, hi', -⟩, -⟩
    rw [hi] at hi'
    cases hi'
  | some line =>
    obtain ⟨line', need, hi', hturn⟩ := update_get h hi
    obtain ⟨line'', need', hi'', hturn'⟩ := update_get h' hi
    have hpinned := updateLine_section hturn
    have hpinned' := updateLine_section hturn'
    rw [hi', hi'', Ne, Option.some_inj]
    by_cases hpins : Entry line ∧ FromSection (lines.take i)
    · rw [if_pos hpins] at hpinned hpinned'
      obtain ⟨rest, -, hrest, -⟩ := id hpinned
      rw [Pinned.eq_iff hrest hpinned hpinned']
      constructor
      · intro hne
        exact ⟨_, ⟨line, hi, hpins.1, hpins.2, rest, hrest, rfl⟩, hne⟩
      · rintro ⟨path, ⟨same, hsame, -, -, rest', hrest', rfl⟩, hne⟩
        obtain rfl := Option.some.inj (hi.symm.trans hsame)
        obtain rfl := Except.ok.inj (hrest.symm.trans hrest')
        exact hne
    · rw [if_neg hpins] at hpinned hpinned'
      refine iff_of_false (fun hne => hne (hpinned'.trans hpinned.symm)) ?_
      rintro ⟨path, ⟨same, hsame, hentry, hsection, -⟩, -⟩
      obtain rfl := Option.some.inj (hi.symm.trans hsame)
      exact hpins ⟨hentry, hsection⟩

/-- Lists of one length are read back alike where they are alike. -/
theorem read_write_get_eq_iff (hlines : ∀ line ∈ lines, Unbroken line)
    (hlines' : ∀ line ∈ lines', Unbroken line) (hlength : lines'.length = lines.length) (i : Nat) :
    (read (write lines'))[i]? = (read (write lines))[i]? ↔ lines'[i]? = lines[i]? := by
  rw [read_write hlines, read_write hlines']
  unfold reread
  by_cases hnil : lines = []
  · have hnil' : lines' = [] := List.length_eq_zero_iff.1 (by rw [hlength, hnil]; rfl)
    rw [hnil, hnil']
    exact iff_of_true rfl rfl
  · have hnil' : lines' ≠ [] := by
      rintro rfl
      exact hnil (List.length_eq_zero_iff.1 hlength.symm)
    rw [if_neg hnil, if_neg hnil']

end Compare

/-- On another vendor tree, a list that was pinned is taken if the tree has the files it is pinned
by, and the lines that change are those whose files have another hash. -/
theorem update_again (script : Str) (disk : Disk) (blobs : VendorTree)
    (h : (main [script] disk).1 = .ok ()) :
    let lines := read disk.proprietaryFiles
    let pinned := (main [script] disk).2.proprietaryFiles
    let again := main [script] ⟨pinned, blobs⟩
    (again.1 = .ok () ↔ ∀ i path, Pins lines i path → (blobs path).isSome) ∧
    (again.1 = .ok () → ∀ i,
      (read again.2.proprietaryFiles)[i]? ≠ (read pinned)[i]? ↔
        ∃ path, Pins lines i path ∧ hashAt blobs path ≠ hashAt disk.blobs path) := by
  intro lines pinned again
  obtain ⟨lines', hupdate⟩ := main_update_ok h
  have hagain : again = finish ⟨pinned, blobs⟩ ((update blobs lines).map write) :=
    main_after disk.proprietaryFiles [⟨[script], disk.blobs⟩] ⟨[script], blobs⟩
  have hpinned : pinned = write lines' :=
    congrArg (fun r => r.2.proprietaryFiles) (main_update script disk hupdate)
  have hlines : ∀ line ∈ lines, Unbroken line := unbroken_read _
  have hok : again.1 = .ok () ↔ ∃ lines'', update blobs lines = .ok lines'' := by
    rw [hagain]
    cases update blobs lines <;> simp [finish, Except.map]
  refine ⟨hok.trans (update_ok_iff hupdate), fun hsuccess i => ?_⟩
  obtain ⟨lines'', hupdate'⟩ := hok.1 hsuccess
  have hwritten : again.2.proprietaryFiles = write lines'' := by
    rw [hagain, hupdate']
    rfl
  have hlength : lines''.length = lines'.length := by
    rw [update_length hupdate', update_length hupdate]
  rw [← update_get_ne_iff hupdate hupdate' i, hwritten, hpinned, Ne,
    read_write_get_eq_iff (unbroken_update hupdate hlines) (unbroken_update hupdate' hlines)
      hlength]

/-- A tree in which every file was replaced. -/
def replaced : VendorTree := fun _ => some [0]

theorem update_again_replaced :
    (read (main [[]] ⟨(main [[]] widevine).2.proprietaryFiles, replaced⟩).2.proprietaryFiles)[1]?
      ≠ (read (main [[]] widevine).2.proprietaryFiles)[1]? := by
  have hagain := (update_again [] widevine replaced (by decide +kernel)).2 (by decide +kernel) 1
  refine hagain.2 ⟨_, ⟨"b;c|0|1".toList, ?_, ?_, ?_, "b".toList, ?_, rfl⟩, ?_⟩ <;> decide +kernel

end RMX2020.Blobs
