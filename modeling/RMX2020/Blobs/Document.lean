import RMX2020.Blobs.History
import RMX2020.Blobs.ListEntry

/-!
# The list as a document

What the script is for, on the list as its maintainers see it: sections, each below the comment that
says where its blobs are from, of entries and blank lines. Cleaning takes the hashes from all
entries; updating gives every entry of a section with `' - from'` the one hash of its file, and
refuses entries above the first comment. On a document that is printed, the script does this and
prints the result (`main_document`): it loops over lines with a flag and knows no sections.
-/

namespace RMX2020.Blobs

open Machine Python

/-! ## Documents -/

/-- A line that is not a comment: an entry, or blank. -/
abbrev Item := Option ListEntry

def Item.print : Item → Str
  | none => []
  | some e => e.print

structure Section where
  /-- The comment, after its `#`. -/
  comment : Str
  unbroken : Unbroken comment
  items : List Item

structure Document where
  /-- What stands above the first comment. -/
  preamble : List Item
  sections : List Section

def Section.title (s : Section) : Str := '#' :: s.comment

def Section.lines (s : Section) : List Str := s.title :: s.items.map Item.print

def Document.lines (d : Document) : List Str :=
  d.preamble.map Item.print ++ d.sections.flatMap Section.lines

def Document.print (d : Document) : Str := write d.lines

/-! ## What the passes are for -/

def ListEntry.unpinned (e : ListEntry) : ListEntry := { e with hashes := [] }

def Section.cleanup (s : Section) : Section :=
  { s with items := s.items.map (Option.map ListEntry.unpinned) }

def Document.cleanup (d : Document) : Document :=
  ⟨d.preamble.map (Option.map ListEntry.unpinned), d.sections.map Section.cleanup⟩

/-- An entry with the hash of its file. -/
def ListEntry.pin (blobs : VendorTree) (e : ListEntry) : Except PyError ListEntry :=
  (readBlob blobs (join vendorPath e.file)).map e.pinned

def Item.pin (blobs : VendorTree) : Item → Except PyError Item
  | none => .ok none
  | some e => (e.pin blobs).map some

def Section.update (blobs : VendorTree) (s : Section) : Except PyError Section :=
  if hasFrom s.title then (s.items.mapM (Item.pin blobs)).map fun items => { s with items := items }
  else .ok s

def Document.update (blobs : VendorTree) (d : Document) : Except PyError Document :=
  if d.preamble.any Option.isSome then .error .unboundLocalError
  else (d.sections.mapM (Section.update blobs)).map fun sections => { d with sections := sections }

def Document.pass (argv : List Str) (blobs : VendorTree) (d : Document) :
    Except PyError Document :=
  if argv.length = 2 ∧ argv[1]? = some "-c".toList then .ok d.cleanup else d.update blobs

/-! ## Lines of a document -/

theorem Item.unbroken_print (item : Item) : Unbroken item.print := by
  cases item with
  | none => exact unbroken_nil
  | some e => exact e.unbroken_print

theorem Section.unbroken_title (s : Section) : Unbroken s.title := s.unbroken.cons (by decide)

theorem unbroken_items {items : List Item} : ∀ line ∈ items.map Item.print, Unbroken line := by
  intro line hline
  obtain ⟨item, -, rfl⟩ := List.mem_map.1 hline
  exact item.unbroken_print

theorem Document.unbroken_lines (d : Document) : ∀ line ∈ d.lines, Unbroken line := by
  intro line hline
  rcases List.mem_append.1 hline with hline | hline
  · exact unbroken_items line hline
  · obtain ⟨s, -, hline⟩ := List.mem_flatMap.1 hline
    rcases List.mem_cons.1 hline with rfl | hline
    · exact s.unbroken_title
    · exact unbroken_items line hline

/-! ## Cleaning -/

theorem ListEntry.print_unpinned (e : ListEntry) : e.unpinned.print = e.base :=
  List.append_nil e.base

theorem cleanupLine_print (item : Item) :
    cleanupLine item.print = Item.print (item.map ListEntry.unpinned) := by
  cases item with
  | none => rfl
  | some e =>
    have hclean : cleanupLine e.print = e.base := by
      rw [cleanupLine_entry e.entry_print, e.first_print]
    exact hclean.trans e.print_unpinned.symm

theorem cleanup_items (items : List Item) :
    cleanup (items.map Item.print) =
      (items.map (Option.map ListEntry.unpinned)).map Item.print := by
  rw [cleanup, List.map_map, List.map_map]
  exact List.map_congr_left fun item _ => cleanupLine_print item

theorem cleanup_append (lines lines' : List Str) :
    cleanup (lines ++ lines') = cleanup lines ++ cleanup lines' := List.map_append

theorem cleanup_section (s : Section) : cleanup s.lines = s.cleanup.lines :=
  congrArg (s.title :: ·) (cleanup_items s.items)

theorem cleanup_lines (d : Document) : cleanup d.lines = d.cleanup.lines := by
  have hsections : cleanup (d.sections.flatMap Section.lines) =
      (d.sections.map Section.cleanup).flatMap Section.lines := by
    rw [cleanup, List.map_flatMap, List.flatMap_map]
    exact List.flatMap_congr fun s _ => cleanup_section s
  unfold Document.lines
  rw [cleanup_append, cleanup_items, hsections]
  rfl

/-! ## Updating -/

section Update

variable {blobs : VendorTree}

/-- What becomes of an item below a comment. -/
def Item.update (blobs : VendorTree) (pinned : Bool) (item : Item) : Except PyError Item :=
  if pinned then item.pin blobs else .ok item

theorem updateLine_item (pinned : Bool) (item : Item) :
    updateLine blobs (some pinned) item.print =
      (item.update blobs pinned).map fun item => (some pinned, item.print) := by
  cases item with
  | none => cases pinned <;> rfl
  | some e =>
    have hprint : Item.print (some e) = e.print := rfl
    rw [hprint, updateLine_entry e.entry_print]
    cases pinned with
    | false => rfl
    | true =>
      have hupdate : Item.update blobs true (some e) = (e.pin blobs).map some := rfl
      dsimp only
      rw [e.updateEntry_print, hupdate, ListEntry.pin]
      cases readBlob blobs (join vendorPath e.file) <;> rfl

/-- The lines below a comment, up to where more follow. -/
theorem rewrite_items (pinned : Bool) (items : List Item) (rest : List Str) :
    rewrite (updateLine blobs) (some pinned) (items.map Item.print ++ rest) =
      (items.mapM (Item.update blobs pinned)).bind fun items' =>
        (rewrite (updateLine blobs) (some pinned) rest).map (items'.map Item.print ++ ·) := by
  induction items with
  | nil =>
    show rewrite (updateLine blobs) (some pinned) rest = Except.map id _
    cases rewrite (updateLine blobs) (some pinned) rest <;> rfl
  | cons item items ih =>
    have hturn : updateLine blobs (some pinned) item.print = _ := updateLine_item pinned item
    rw [List.map_cons, List.cons_append, List.mapM_cons]
    cases hitem : item.update blobs pinned with
    | error e =>
      rw [hitem] at hturn
      rw [rewrite_cons_error hturn]
      rfl
    | ok item' =>
      rw [hitem] at hturn
      rw [rewrite_cons hturn, ih]
      cases items.mapM (Item.update blobs pinned) with
      | error e => rfl
      | ok items' => cases rewrite (updateLine blobs) (some pinned) rest <;> rfl

/-- Without a `' - from'` in the comment, the items stay. -/
theorem mapM_update_false (items : List Item) :
    items.mapM (Item.update blobs false) = .ok items := by
  induction items with
  | nil => rfl
  | cons item items ih =>
    rw [List.mapM_cons, ih]
    rfl

theorem Section.update_eq (s : Section) : s.update blobs =
    (s.items.mapM (Item.update blobs (hasFrom s.title))).map fun items =>
      { s with items := items } := by
  unfold Section.update
  split
  · next hfrom =>
    rw [hfrom]
    rfl
  · next hfrom =>
    rw [Bool.eq_false_iff.2 hfrom, mapM_update_false]
    rfl

/-- The comment of a section is all that its lines are taken by. -/
theorem rewrite_sections (need : Option Bool) (sections : List Section) :
    rewrite (updateLine blobs) need (sections.flatMap Section.lines) =
      (sections.mapM (Section.update blobs)).map fun sections =>
        sections.flatMap Section.lines := by
  induction sections generalizing need with
  | nil => rfl
  | cons s sections ih =>
    have hturn : updateLine blobs need s.title = .ok (some (hasFrom s.title), s.title) := rfl
    have hlines : (s :: sections).flatMap Section.lines =
      s.title :: (s.items.map Item.print ++ sections.flatMap Section.lines) := rfl
    rw [hlines, rewrite_cons hturn, rewrite_items, ih, List.mapM_cons, s.update_eq]
    cases s.items.mapM (Item.update blobs (hasFrom s.title)) with
    | error e => rfl
    | ok items => cases sections.mapM (Section.update blobs) <;> rfl

/-- Above the first comment there may be blank lines only. -/
theorem rewrite_preamble (preamble : List Item) (rest : List Str) :
    rewrite (updateLine blobs) none (preamble.map Item.print ++ rest) =
      if preamble.any Option.isSome then .error .unboundLocalError
      else (rewrite (updateLine blobs) none rest).map (preamble.map Item.print ++ ·) := by
  induction preamble with
  | nil =>
    show rewrite (updateLine blobs) none rest = Except.map id _
    cases rewrite (updateLine blobs) none rest <;> rfl
  | cons item preamble ih =>
    rw [List.map_cons, List.cons_append]
    cases item with
    | none =>
      have hturn : updateLine blobs none (Item.print none) = .ok (none, []) := rfl
      have hany : (none :: preamble).any Option.isSome = preamble.any Option.isSome := rfl
      rw [rewrite_cons hturn, ih, hany]
      split
      · rfl
      · cases rewrite (updateLine blobs) none rest <;> rfl
    | some e =>
      have hturn : updateLine blobs none e.print = .error .unboundLocalError :=
        updateLine_entry e.entry_print
      exact rewrite_cons_error hturn

theorem update_lines (d : Document) :
    Blobs.update blobs d.lines = (d.update blobs).map Document.lines := by
  unfold Blobs.update Document.lines Document.update
  rw [rewrite_preamble, rewrite_sections]
  split
  · rfl
  · cases d.sections.mapM (Section.update blobs) <;> rfl

theorem pass_lines (argv : List Str) (d : Document) :
    pass argv blobs d.lines = (d.pass argv blobs).map Document.lines := by
  unfold pass Document.pass
  split
  · exact congrArg Except.ok (cleanup_lines d)
  · exact update_lines d

end Update

/-- The script on a printed document, whichever pass its arguments select: it does to the document
what the pass is for, and prints that. -/
theorem main_document (argv : List Str) (d : Document) (blobs : VendorTree) :
    main argv ⟨d.print, blobs⟩ =
      finish ⟨d.print, blobs⟩ ((d.pass argv blobs).map Document.print) := by
  have hread : read d.print = reread d.lines := read_write d.unbroken_lines
  rw [main_eq_finish, hread, pass_reread, pass_lines]
  cases d.pass argv blobs <;> rfl

end RMX2020.Blobs
