import Mathlib.Data.List.Infix
import RMX2020.Machine.Rewrite
import RMX2020.Python.Text
import RMX2020.Python.Sha1

/-!
# The script that pins blobs by their SHA1

`update-sha1sums.py` reads `proprietary-files.txt`, removes the hashes of its entries (`cleanup`,
with `-c`) or renews those of the sections whose comment contains `' - from'` (`update`), and writes
the file back. `update` carries the local flag `needSHA1` from comment to comment; before the first
comment the flag is unassigned.
-/

namespace RMX2020.Blobs

open Machine Python

/-- What stops the script. -/
inductive PyError where
  /-- `needSHA1` is read before it is assigned. -/
  | unboundLocalError
  /-- `filePath[0]` of an empty path. -/
  | indexError
  /-- A path with a null character is opened. -/
  | valueError
  /-- A file that cannot be opened or read. -/
  | osError (filename : Str)
  deriving DecidableEq

/-- The vendor tree: what is read from the file at a path, if it can be read. -/
abbrev VendorTree := Str → Option (List UInt8)

def device : Str := "RMX2020".toList

def vendor : Str := "realme".toList

def vendorPath : Str :=
  "../../../vendor/".toList ++ vendor ++ '/' :: device ++ "/proprietary".toList

/-- `os.path.join`. -/
def join (a : Str) : Str → Str
  | '/' :: b => '/' :: b
  | b => if a = [] ∨ a.getLast? = some '/' then a ++ b else a ++ '/' :: b

/-! ## The two passes -/

def cleanupLine (line : Str) : Str :=
  match line with
  | [] => line
  | '#' :: _ => line
  | _ => if '|' ∉ line then line else first '|' line

def cleanup (lines : List Str) : List Str := lines.map cleanupLine

/-- `' - from' in line`. -/
def hasFrom (line : Str) : Bool := decide (" - from".toList <:+: line)

/-- The path an entry without hash names: its destination, without its arguments. -/
def destination (line : Str) : Str := last ':' (first ';' line)

def filePath (line : Str) : Except PyError Str :=
  match destination line with
  | [] => .error .indexError
  | '-' :: path => .ok path
  | path => .ok path

/-- `open(path, 'rb')` and `f.read()`. -/
def readBlob (blobs : VendorTree) (path : Str) : Except PyError (List UInt8) :=
  if '\x00' ∈ path then .error .valueError
  else
    match blobs path with
    | none => .error (.osError path)
    | some data => .ok data

/-- Renew the hash of an entry. -/
def updateEntry (blobs : VendorTree) (line : Str) : Except PyError Str := do
  let line := first '|' line
  let path ← filePath line
  let data ← readBlob blobs (join vendorPath path)
  return line ++ '|' :: hexdigest (sha1 data)

/-- One turn of the loop of `update`: the flag after it, and the line in the list. -/
def updateLine (blobs : VendorTree) (needSHA1 : Option Bool) (line : Str) :
    Except PyError (Option Bool × Str) :=
  match line with
  | [] => .ok (needSHA1, line)
  | '#' :: _ => .ok (some (hasFrom line), line)
  | _ =>
    match needSHA1 with
    | none => .error .unboundLocalError
    | some false => .ok (needSHA1, line)
    | some true => do
      let line ← updateEntry blobs line
      return (needSHA1, line)

/-- The loop of `update`; the flag is not assigned before it. -/
def update (blobs : VendorTree) (lines : List Str) : Except PyError (List Str) :=
  rewrite (updateLine blobs) none lines

/-! ## The script -/

/-- The files the script reads and writes. -/
structure Disk where
  proprietaryFiles : Str
  blobs : VendorTree

/-- The pass the arguments select. -/
def pass (argv : List Str) (blobs : VendorTree) (lines : List Str) : Except PyError (List Str) :=
  if argv.length = 2 ∧ argv[1]? = some "-c".toList then .ok (cleanup lines)
  else update blobs lines

/-- A run of the script: how it ends, and what it leaves on disk. -/
def main (argv : List Str) (disk : Disk) : Except PyError Unit × Disk :=
  match pass argv disk.blobs (read disk.proprietaryFiles) with
  | .error e => (.error e, disk)
  | .ok lines => (.ok (), { disk with proprietaryFiles := write lines })

/-! ## Lines -/

/-- A line that neither is empty nor starts with `#`. -/
def Entry (line : Str) : Prop := line ≠ [] ∧ line.head? ≠ some '#'

instance (line : Str) : Decidable (Entry line) := inferInstanceAs (Decidable (_ ∧ _))

/-- The comment closest to the end of some lines. -/
def nearestComment (above : List Str) : Option Str :=
  above.reverse.find? fun line => line.head? = some '#'

/-- Below these lines, the nearest comment above contains `' - from'`. -/
def FromSection (above : List Str) : Prop := ∃ comment ∈ nearestComment above, hasFrom comment

/-- The flag below some lines. -/
def flag (above : List Str) : Option Bool := (nearestComment above).map hasFrom

/-- How a line is taken by either pass. -/
inductive Kind : Str → Prop
  | blank : Kind []
  | comment (line : Str) : Kind ('#' :: line)
  | entry {line : Str} (h : Entry line) : Kind line

theorem kind (line : Str) : Kind line := by
  match line with
  | [] => exact .blank
  | c :: cs =>
    by_cases hc : c = '#'
    · subst hc
      exact .comment cs
    · exact .entry ⟨List.cons_ne_nil c cs, by simpa using hc⟩

theorem not_entry_nil : ¬ Entry [] := fun h => h.1 rfl

theorem not_entry_comment (line : Str) : ¬ Entry ('#' :: line) := fun h => h.2 rfl

theorem cleanupLine_other {line : Str} (h : ¬ Entry line) : cleanupLine line = line := by
  cases kind line with
  | blank => rfl
  | comment cs => rfl
  | entry hentry => exact absurd hentry h

/-! ## The flag -/

section Flag

variable {above : List Str} {line : Str}

theorem flag_comment (line : Str) :
    flag (above ++ ['#' :: line]) = some (hasFrom ('#' :: line)) := by
  simp [flag, nearestComment]

theorem flag_append (h : line.head? ≠ some '#') : flag (above ++ [line]) = flag above := by
  simp [flag, nearestComment, h]

theorem flag_eq_true_iff : flag above = some true ↔ FromSection above := by
  unfold flag FromSection
  cases nearestComment above <;> simp

theorem flag_eq_none_iff : flag above = none ↔ nearestComment above = none := by
  simp [flag]

instance (above : List Str) : Decidable (FromSection above) :=
  decidable_of_iff (flag above = some true) flag_eq_true_iff

theorem update_eq (blobs : VendorTree) (lines : List Str) :
    update blobs lines = rewrite (updateLine blobs) (flag []) lines := rfl

end Flag

/-! ## One line of each pass -/

section Line

variable {blobs : VendorTree} {need : Option Bool} {line : Str}

theorem cleanupLine_entry (h : Entry line) : cleanupLine line = first '|' line := by
  unfold cleanupLine
  split
  · exact absurd h not_entry_nil
  · next cs => exact absurd h (not_entry_comment cs)
  · split
    · next hbar => exact (first_of_not_mem hbar).symm
    · rfl

theorem updateLine_entry (h : Entry line) :
    updateLine blobs need line =
      match need with
      | none => .error .unboundLocalError
      | some false => .ok (need, line)
      | some true => (updateEntry blobs line).map fun line => (need, line) := by
  unfold updateLine
  split
  · exact absurd h not_entry_nil
  · next cs => exact absurd h (not_entry_comment cs)
  · cases need with
    | none => rfl
    | some needed =>
      cases needed with
      | false => rfl
      | true => cases updateEntry blobs line <;> rfl

/-- What a turn of `update` that succeeds does to an entry. -/
inductive Turn (blobs : VendorTree) (line : Str) : Option Bool → Str → Prop
  | keep : Turn blobs line (some false) line
  | renew {line' : Str} (h : updateEntry blobs line = .ok line') :
      Turn blobs line (some true) line'

theorem updateLine_entry_ok {need' : Option Bool} {line' : Str} (h : Entry line)
    (hturn : updateLine blobs need line = .ok (need', line')) :
    need' = need ∧ Turn blobs line need line' := by
  rw [updateLine_entry h] at hturn
  split at hturn
  · cases hturn
  · cases hturn
    exact ⟨rfl, .keep⟩
  · cases hupdate : updateEntry blobs line with
    | error e =>
      rw [hupdate] at hturn
      cases hturn
    | ok line'' =>
      rw [hupdate] at hturn
      cases hturn
      exact ⟨rfl, .renew hupdate⟩

/-- A turn that succeeds leaves the line, or the line is an entry and the flag decides. -/
theorem updateLine_ok {need' : Option Bool} {line' : Str}
    (h : updateLine blobs need line = .ok (need', line')) :
    (¬ Entry line ∧ line' = line) ∨ (Entry line ∧ need' = need ∧ Turn blobs line need line') := by
  cases kind line with
  | blank =>
    cases h
    exact .inl ⟨not_entry_nil, rfl⟩
  | comment cs =>
    cases h
    exact .inl ⟨not_entry_comment cs, rfl⟩
  | entry hentry => exact .inr ⟨hentry, updateLine_entry_ok hentry h⟩

/-- The flag after a turn is the one the comments up to its line give. -/
theorem updateLine_flag : Tracks (updateLine blobs) flag := by
  intro above line line' need' h
  cases kind line with
  | blank =>
    cases h
    exact (flag_append (by simp)).symm
  | comment cs =>
    cases h
    exact (flag_comment cs).symm
  | entry hentry =>
    rw [flag_append hentry.2]
    exact (updateLine_entry_ok hentry h).1

end Line

end RMX2020.Blobs
