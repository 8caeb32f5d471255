import Mathlib.Data.List.AList
import RMX2020.Machine.Run

/-!
# Writes

A store is seen through the values that its keys have. `Writing` says of an operation that it gives
one key a value and leaves the others alone. After a list of such writes every key has the value
that was written last, or the one it had (`get_writeAll`), so to make the same writes again changes
no value (`get_writeAll_again`). A machine whose actions make known writes is such a store over
whole runs (`run_lastWrite`).

Three ways to write follow: `modify` changes the value of one key of a table where it stands, so the
keys and their order stay; the tasks of a queue each set one value, which the last of them decides
(`drained_push`); and `std::ofstream` writes what is buffered when it is destroyed, so `fail` says
nothing of that write (`fail_put`).
-/

namespace Machine

variable {σ κ ν ρ τ : Type*}

/-- Make the writes one after the other. -/
def writeAll (write : κ → ν → σ → σ) (writes : List (κ × ν)) (s : σ) : σ :=
  writes.foldl (fun s w => write w.1 w.2 s) s

section WriteAll

variable {write : κ → ν → σ → σ} {writes writes' : List (κ × ν)}

theorem writeAll_cons (key : κ) (v : ν) (writes : List (κ × ν)) (s : σ) :
    writeAll write ((key, v) :: writes) s = writeAll write writes (write key v s) := rfl

theorem writeAll_append (s : σ) :
    writeAll write (writes ++ writes') s = writeAll write writes' (writeAll write writes s) :=
  List.foldl_append

theorem writeAll_flatMap {ι : Type*} (f : ι → List (κ × ν)) (l : List ι) (s : σ) :
    writeAll write (l.flatMap f) s = l.foldl (fun s i => writeAll write (f i) s) s := by
  rw [writeAll, List.foldl_flatMap]
  rfl

end WriteAll

/-! ## The value of a key -/

variable [DecidableEq κ]

/-- The operation gives one key a value. -/
def Writing (get : σ → κ → Option ν) (write : κ → ν → σ → σ) : Prop :=
  ∀ key v s key', get (write key v s) key' = if key' = key then some v else get s key'

/-- The value that is written to a key last. -/
def lastWrite : List (κ × ν) → κ → Option ν
  | [], _ => none
  | (key', v) :: writes, key => (lastWrite writes key).or (if key = key' then some v else none)

section LastWrite

variable {writes writes' : List (κ × ν)} {key key' : κ} {v : ν}

@[simp]
theorem lastWrite_nil : lastWrite ([] : List (κ × ν)) key = none := rfl

@[simp]
theorem lastWrite_cons : lastWrite ((key', v) :: writes) key =
    (lastWrite writes key).or (if key = key' then some v else none) := rfl

@[simp]
theorem lastWrite_append :
    lastWrite (writes ++ writes') key = (lastWrite writes' key).or (lastWrite writes key) := by
  induction writes with
  | nil => simp
  | cons w writes ih =>
    obtain ⟨key', v⟩ := w
    rw [List.cons_append, lastWrite_cons, lastWrite_cons, ih, Option.or_assoc]

theorem lastWrite_of_notMem (h : key ∉ writes.map Prod.fst) : lastWrite writes key = none := by
  induction writes with
  | nil => rfl
  | cons w writes ih =>
    obtain ⟨key', v⟩ := w
    rw [List.map_cons, List.mem_cons, not_or] at h
    rw [lastWrite_cons, ih h.2, if_neg h.1, Option.none_or]

/-- Where no key is written twice, every write is the last. -/
theorem lastWrite_of_mem (hnodup : (writes.map Prod.fst).Nodup) (h : (key, v) ∈ writes) :
    lastWrite writes key = some v := by
  induction writes with
  | nil => cases h
  | cons w writes ih =>
    obtain ⟨key', v'⟩ := w
    rw [List.map_cons, List.nodup_cons] at hnodup
    rcases List.mem_cons.1 h with heq | h
    · cases heq
      rw [lastWrite_cons, lastWrite_of_notMem hnodup.1, if_pos rfl, Option.none_or]
    · rw [lastWrite_cons, ih hnodup.2 h, Option.some_or]

end LastWrite

namespace Writing

variable {get : σ → κ → Option ν} {write : κ → ν → σ → σ}

theorem get_writeAll (h : Writing get write) (writes : List (κ × ν)) (s : σ) (key : κ) :
    get (writeAll write writes s) key = (lastWrite writes key).or (get s key) := by
  induction writes generalizing s with
  | nil => rfl
  | cons w writes ih =>
    obtain ⟨key', v⟩ := w
    rw [writeAll_cons, ih, h key' v s key, lastWrite_cons, Option.or_assoc]
    by_cases hkey : key = key'
    · rw [if_pos hkey, if_pos hkey, Option.some_or]
    · rw [if_neg hkey, if_neg hkey, Option.none_or]

/-- The same writes a second time. -/
theorem get_writeAll_again (h : Writing get write) (writes : List (κ × ν)) (s : σ) (key : κ) :
    get (writeAll write writes (writeAll write writes s)) key =
      get (writeAll write writes s) key := by
  rw [h.get_writeAll, h.get_writeAll, ← Option.or_assoc, Option.or_self]

end Writing

/-! ## Machines that write -/

/-- Where every step gives the keys the values that its action writes, every run gives them the
values written last. `I` is any invariant that helps with it. -/
theorem run_lastWrite {α φ : Type*} {step : σ → α → Except (Stop φ) σ} (get : σ → κ → Option ν)
    (writes : α → List (κ × ν)) {I : σ → Prop} (hI : ∀ s a s', I s → step s a = .ok s' → I s')
    (hstep : ∀ s a s', I s → step s a = .ok s' →
      ∀ key, get s' key = (lastWrite (writes a) key).or (get s key))
    {s t : σ} {acts : List α} (hrun : run step s acts = .ok t) (hs : I s) (key : κ) :
    get t key = (lastWrite (acts.flatMap writes) key).or (get s key) := by
  induction acts generalizing s with
  | nil =>
    cases hrun
    rfl
  | cons a acts ih =>
    obtain ⟨s₁, h₁, h₂⟩ := run_cons_eq_ok.1 hrun
    rw [ih h₂ (hI s a s₁ hs h₁), hstep s a s₁ hs h₁ key, List.flatMap_cons, lastWrite_append,
      Option.or_assoc]

/-! ## Tables updated in place

Association lists without duplicate keys (`AList`) as hash tables that are iterated over in an order
of their own. -/

/-- Change the value of a key in place, if it is there. -/
def modify (key : κ) (f : ν → ν) (table : AList fun _ : κ => ν) : AList fun _ : κ => ν where
  entries := table.entries.map fun e => ⟨e.1, if e.1 = key then f e.2 else e.2⟩
  nodupKeys := by
    have hkeys := table.nodupKeys
    simpa [List.NodupKeys, List.keys, Function.comp_def] using hkeys

section Modify

variable {key key' : κ} {f : ν → ν} {table : AList fun _ : κ => ν}

theorem lookup_modify (key' : κ) : (modify key f table).lookup key' =
    (table.lookup key').map fun v => if key' = key then f v else v :=
  List.dlookup_map₂ (f := fun k v => if k = key then f v else v) key'

/-- What the change leaves alone of a value, it leaves alone of the table. -/
theorem map_entries_modify {g : ν → ρ} (h : ∀ v, g (f v) = g v) :
    ((modify key f table).entries.map fun e => g e.2) = table.entries.map fun e => g e.2 := by
  unfold modify
  rw [List.map_map]
  refine List.map_congr_left fun e _ => ?_
  by_cases hkey : e.1 = key
  · simp only [Function.comp_apply, if_pos hkey, h]
  · simp only [Function.comp_apply, if_neg hkey]

/-- A relation between keys and values that the change keeps. -/
theorem forall_modify {R : κ → ν → Prop} (hf : ∀ v, R key v → R key (f v))
    (h : ∀ e ∈ table.entries, R e.1 e.2) : ∀ e ∈ (modify key f table).entries, R e.1 e.2 := by
  intro e he
  obtain ⟨e', he', rfl⟩ := List.mem_map.1 he
  by_cases hkey : e'.1 = key
  · simp only [if_pos hkey]
    exact hkey ▸ hf e'.2 (hkey ▸ h e' he')
  · simp only [if_neg hkey]
    exact h e' he'

/-- A relation between keys and values that a new entry satisfies. -/
theorem forall_insert {R : κ → ν → Prop} {v : ν} (hv : R key v)
    (h : ∀ e ∈ table.entries, R e.1 e.2) : ∀ e ∈ (table.insert key v).entries, R e.1 e.2 := by
  intro e he
  rw [AList.entries_insert] at he
  rcases List.mem_cons.1 he with rfl | hold
  · exact hv
  · exact h e ((List.kerase_sublist key table.entries).subset hold)

end Modify

/-! ## Queues of tasks that set a value, oldest first -/

/-- The value once all tasks have run, where `set t` is what task `t` leaves there. -/
def drained (set : τ → σ) : σ → List τ → σ
  | value, [] => value
  | _, t :: tasks => drained set (set t) tasks

section Drained

variable {set : τ → σ} {value : σ} {t : τ} {tasks : List τ}

@[simp] theorem drained_nil : drained set value [] = value := rfl

theorem drained_cons : drained set value (t :: tasks) = drained set (set t) tasks := rfl

@[simp] theorem drained_push : drained set value (tasks ++ [t]) = set t := by
  induction tasks generalizing value with
  | nil => rfl
  | cons t' tasks ih => exact ih

end Drained

/-! ## Buffered output streams

`std::ofstream` on a file whose open and whose write may each fail. -/

structure Ofstream where
  isOpen : Bool
  failbit : Bool
  buffer : String := ""

namespace Ofstream

/-- The constructor, which opens the file. -/
def construct (opens : Bool) : Ofstream := { isOpen := opens, failbit := !opens }

/-- `<<`: a stream that has failed takes nothing. -/
def put (s : Ofstream) (text : String) : Ofstream :=
  if s.failbit then s else { s with buffer := s.buffer ++ text }

def fail (s : Ofstream) : Bool := s.failbit

/-- The destructor writes what is buffered, and replaces the content if the file takes the write. -/
def destroy (s : Ofstream) (writes : Bool) (content : String) : String :=
  if s.isOpen && s.buffer != "" && writes then s.buffer else content

variable {opens writes : Bool} {text content : String}

/-- The stream reports the open and nothing else. -/
@[simp] theorem fail_put : ((Ofstream.construct opens).put text).fail = !opens := by
  cases opens <;> rfl

theorem destroy_put (htext : text ≠ "") :
    ((Ofstream.construct opens).put text).destroy writes content =
      if opens && writes then text else content := by
  cases opens with
  | false => rfl
  | true => simp [Ofstream.construct, put, destroy, htext]

end Ofstream

end Machine
