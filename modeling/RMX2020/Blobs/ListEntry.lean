import RMX2020.Blobs.Passes

/-!
# The syntax of an entry

An entry of `proprietary-files.txt` is printed as an optional `-`, a source, an optional destination
after `:`, arguments after `;` each, and hashes after `|` each. `ListEntry` holds the parts, with
what keeps them apart. `update` finds the path by three splits and a test of the first character:
`entry_read_back` says that it is the entry's own path for every combination of parts, and that the
new line is the print of the entry with the one new hash.
-/

namespace RMX2020.Blobs

open Machine Python

/-! ## Entries and how they are printed -/

structure BlobPath where
  text : Str
  ne_nil : text ≠ []
  plain : ':' ∉ text ∧ ';' ∉ text ∧ '|' ∉ text
  unbroken : Unbroken text
  head : text.head? ≠ some '-' ∧ text.head? ≠ some '#'

structure Argument where
  text : Str
  plain : ';' ∉ text ∧ '|' ∉ text
  unbroken : Unbroken text

structure BlobHash where
  text : Str
  plain : '|' ∉ text
  unbroken : Unbroken text

structure ListEntry where
  dash : Bool
  source : BlobPath
  destination : Option BlobPath
  arguments : List Argument
  hashes : List BlobHash

/-- The new hash. -/
def BlobHash.ofData (data : List UInt8) : BlobHash where
  text := hexdigest (sha1 data)
  plain := not_mem_hexdigest (by decide)
  unbroken := unbroken_hexdigest

namespace ListEntry

/-- The source, with the dash before it. -/
def origin (e : ListEntry) : Str := if e.dash then '-' :: e.source.text else e.source.text

/-- The source and the destination. -/
def paths (e : ListEntry) : Str :=
  match e.destination with
  | none => e.origin
  | some path => e.origin ++ ':' :: path.text

/-- All but the hashes. -/
def base (e : ListEntry) : Str := e.paths ++ e.arguments.flatMap fun a => ';' :: a.text

def print (e : ListEntry) : Str := e.base ++ e.hashes.flatMap fun h => '|' :: h.text

/-- The file an entry names in the vendor tree: its destination, or else its source. -/
def file (e : ListEntry) : Str := (e.destination.getD e.source).text

/-- The entry with the hash of the given content as its only one. -/
def pinned (e : ListEntry) (data : List UInt8) : ListEntry := { e with hashes := [.ofData data] }

/-! ## What is printed -/

variable (e : ListEntry)

theorem origin_plain : ':' ∉ e.origin ∧ ';' ∉ e.origin ∧ '|' ∉ e.origin := by
  unfold origin
  split
  · simpa using e.source.plain
  · exact e.source.plain

theorem paths_plain : ';' ∉ e.paths ∧ '|' ∉ e.paths := by
  have horigin := e.origin_plain
  unfold paths
  cases e.destination with
  | none => exact horigin.2
  | some path => simp [horigin, path.plain]

theorem base_plain : '|' ∉ e.base := by
  have harguments (a : Argument) : '|' ∉ a.text := a.plain.2
  simp [base, e.paths_plain, harguments]

theorem unbroken_origin : Unbroken e.origin := by
  unfold origin
  split
  · exact e.source.unbroken.cons (by decide)
  · exact e.source.unbroken

theorem unbroken_paths : Unbroken e.paths := by
  unfold paths
  cases e.destination with
  | none => exact e.unbroken_origin
  | some path => exact e.unbroken_origin.append (path.unbroken.cons (by decide))

theorem unbroken_print : Unbroken e.print := by
  have hbase : Unbroken e.base := by
    apply e.unbroken_paths.append
    intro c hc
    obtain ⟨a, -, hc⟩ := List.mem_flatMap.1 hc
    exact (a.unbroken.cons (by decide)) c hc
  apply hbase.append
  intro c hc
  obtain ⟨h, -, hc⟩ := List.mem_flatMap.1 hc
  exact (h.unbroken.cons (by decide)) c hc

/-- What is printed starts with the dash or with the source. -/
theorem entry_print : Entry e.print := by
  have horigin : Entry e.origin := by
    unfold origin
    split
    · exact ⟨List.cons_ne_nil _ _, by simp⟩
    · exact ⟨e.source.ne_nil, e.source.head.2⟩
  have hpaths : Entry e.paths := by
    unfold paths
    cases e.destination with
    | none => exact horigin
    | some path => exact horigin.append _
  exact (hpaths.append _).append _

/-! ## How it is read back -/

theorem first_print : first '|' e.print = e.base :=
  first_append_flatMap BlobHash.text e.base_plain e.hashes

/-- Arguments may contain colons, as they are cut off first. -/
theorem destination_base : Blobs.destination e.base =
    match e.destination with
    | none => e.origin
    | some path => path.text := by
  have hfirst : first ';' e.base = e.paths :=
    first_append_flatMap Argument.text e.paths_plain.1 e.arguments
  unfold Blobs.destination
  rw [hfirst]
  unfold paths
  cases e.destination with
  | none => exact last_of_not_mem e.origin_plain.1
  | some path => exact last_append e.origin_plain.1 path.plain.1

theorem filePath_of_head {path : Str} {line : Str} (h : Blobs.destination line = path)
    (hne : path ≠ []) (hhead : path.head? ≠ some '-') : filePath line = .ok path := by
  subst h
  unfold filePath
  split
  · next hnil => exact absurd hnil hne
  · next hdash => simp [hdash] at hhead
  · rfl

theorem filePath_base : filePath e.base = .ok e.file := by
  have hpath := e.destination_base
  unfold file
  cases hdestination : e.destination with
  | some path =>
    rw [hdestination] at hpath
    exact filePath_of_head hpath path.ne_nil path.head.1
  | none =>
    rw [hdestination] at hpath
    cases hdash : e.dash with
    | false =>
      have horigin : e.origin = e.source.text := by simp [origin, hdash]
      rw [horigin] at hpath
      exact filePath_of_head hpath e.source.ne_nil e.source.head.1
    | true =>
      have horigin : e.origin = '-' :: e.source.text := by simp [origin, hdash]
      unfold filePath
      rw [hpath, horigin]
      rfl

/-- Renewing the hash of a printed entry. -/
theorem updateEntry_print (blobs : VendorTree) :
    updateEntry blobs e.print =
      (readBlob blobs (join vendorPath e.file)).map fun data => (e.pinned data).print := by
  have hprint (data : List UInt8) :
      (e.pinned data).print = e.base ++ '|' :: hexdigest (sha1 data) :=
    congrArg (e.base ++ ·) (List.append_nil _)
  simp only [updateEntry, e.first_print, e.filePath_base, bind, Except.bind, hprint]
  cases readBlob blobs (join vendorPath e.file) <;> rfl

/-- A printed entry is one line of the file it is written to. -/
theorem read_write_print {above below : List Str} (habove : ∀ line ∈ above, Unbroken line)
    (hbelow : ∀ line ∈ below, Unbroken line) :
    (read (write (above ++ e.print :: below)))[above.length]? = some e.print := by
  have hlines : ∀ line ∈ above ++ e.print :: below, Unbroken line := by
    intro line hline
    rcases List.mem_append.1 hline with hline | hline
    · exact habove line hline
    · rcases List.mem_cons.1 hline with rfl | hline
      · exact e.unbroken_print
      · exact hbelow line hline
  apply read_write_get hlines
  rw [List.getElem?_append_right (Nat.le_refl _), Nat.sub_self, List.getElem?_cons_zero]

end ListEntry

/-- **The entry syntax is read back exactly**: a printed entry is one line of the file it is written
to, and wherever it is a line of a `' - from'` section, its turn of `update` hashes the file that
the entry names and leaves the print of the same entry with this hash alone, which is then the line
of the file that the script writes. -/
theorem entry_read_back (e : ListEntry) :
    (∀ above below, (∀ line ∈ above, Unbroken line) → (∀ line ∈ below, Unbroken line) →
      (read (write (above ++ e.print :: below)))[above.length]? = some e.print) ∧
    ∀ (script : Str) (disk : Disk) (i : Nat),
      let lines := read disk.proprietaryFiles
      lines[i]? = some e.print → FromSection (lines.take i) →
        updateLine disk.blobs (flag (lines.take i)) e.print =
            (readBlob disk.blobs (join vendorPath e.file)).map
              (fun data => (flag (lines.take i), (e.pinned data).print)) ∧
        ((main [script] disk).1 = .ok () → ∃ data,
          disk.blobs (join vendorPath e.file) = some data ∧
            (read (main [script] disk).2.proprietaryFiles)[i]? = some (e.pinned data).print) := by
  refine ⟨fun above below => e.read_write_print, ?_⟩
  intro script disk i lines hi hsection
  have hturn : updateLine disk.blobs (flag (lines.take i)) e.print =
      (readBlob disk.blobs (join vendorPath e.file)).map
        (fun data => (flag (lines.take i), (e.pinned data).print)) := by
    rw [flag_eq_true_iff.2 hsection, updateLine_entry e.entry_print, e.updateEntry_print]
    cases readBlob disk.blobs (join vendorPath e.file) <;> rfl
  refine ⟨hturn, fun h => ?_⟩
  obtain ⟨lines', hupdate⟩ := main_update_ok h
  have hlines' := unbroken_update hupdate (unbroken_read _)
  obtain ⟨line', need, hi', hturn'⟩ := update_get hupdate hi
  rw [hturn] at hturn'
  cases hblob : readBlob disk.blobs (join vendorPath e.file) with
  | error error =>
    rw [hblob] at hturn'
    cases hturn'
  | ok data =>
    rw [hblob] at hturn'
    cases hturn'
    refine ⟨data, readBlob_ok hblob, ?_⟩
    rw [main_update script disk hupdate]
    exact read_write_get hlines' hi'

/-- `-a:b;c=d:e|0|1`. -/
def libsink : ListEntry where
  dash := true
  source := ⟨"a".toList, by simp, by simp, by decide +kernel, by simp⟩
  destination := some ⟨"b".toList, by simp, by simp, by decide +kernel, by simp⟩
  arguments := [⟨"c=d:e".toList, by simp, by decide +kernel⟩]
  hashes := [⟨"0".toList, by simp, by decide +kernel⟩, ⟨"1".toList, by simp, by decide +kernel⟩]

/-- The file whose only section holds this entry, after its first run of the script. -/
theorem entry_read_back_libsink :
    let disk : Disk := ⟨write ["# IMS - from c".toList, libsink.print], fun _ => some []⟩
    ∃ data, disk.blobs (join vendorPath "b".toList) = some data ∧
      (read (main [[]] disk).2.proprietaryFiles)[1]? = some (libsink.pinned data).print :=
  ((entry_read_back libsink).2 [] ⟨write ["# IMS - from c".toList, libsink.print], fun _ => some []⟩
    1 (by decide +kernel) (by decide +kernel)).2 (by decide +kernel)

end RMX2020.Blobs
