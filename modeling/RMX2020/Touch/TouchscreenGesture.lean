import Mathlib.Data.List.Nodup
import Mathlib.Logic.Function.Basic
import RMX2020.Machine.Writes

/-!
# The touchscreen gestures

`setGestureEnabled` writes "1" or "0" to the node of a gesture through a stream, and asks the stream
whether it has failed before anything has left its buffer. `acknowledged_reached_iff`: in every run
a refused call changes no node and no call changes another gesture's node, and the nodes hold what
was last acknowledged throughout exactly if no write is rejected where it matters.
-/

namespace RMX2020.Touch

open Machine

structure GestureInfo where
  keycode : Int32
  name : String
  path : String
  deriving DecidableEq

structure Gesture where
  id : Int32
  name : String := ""
  keycode : Int32 := 0
  deriving DecidableEq

/-- Id and info of each gesture. -/
def kGestureInfoMap : List (Int32 × GestureInfo) := [
  (0, ⟨251, "Two fingers down swipe", "/proc/touchpanel/double_swipe_enable"⟩),
  (1, ⟨255, "Up arrow", "/proc/touchpanel/down_arrow_enable"⟩),
  (2, ⟨252, "Down arrow", "/proc/touchpanel/up_arrow_enable"⟩),
  (3, ⟨254, "Left arrow", "/proc/touchpanel/right_arrow_enable"⟩),
  (4, ⟨253, "Right arrow", "/proc/touchpanel/left_arrow_enable"⟩),
  (5, ⟨64, "One finger up swipe", "/proc/touchpanel/down_swipe_enable"⟩),
  (6, ⟨66, "One finger down swipe", "/proc/touchpanel/up_swipe_enable"⟩),
  (7, ⟨65, "One finger left swipe", "/proc/touchpanel/right_swipe_enable"⟩),
  (8, ⟨63, "One finger right swipe", "/proc/touchpanel/left_swipe_enable"⟩),
  (9, ⟨247, "Letter M", "/proc/touchpanel/letter_m_enable"⟩),
  (10, ⟨250, "Letter O", "/proc/touchpanel/letter_o_enable"⟩),
  (11, ⟨246, "Letter W", "/proc/touchpanel/letter_w_enable"⟩)]

def find (id : Int32) : Option GestureInfo :=
  (kGestureInfoMap.find? fun entry => entry.1 = id).map Prod.snd

def getSupportedGestures : List Gesture :=
  kGestureInfoMap.map fun entry => ⟨entry.1, entry.2.name, entry.2.keycode⟩

/-- What a call returns. -/
inductive ScopedAStatus where
  | ok
  | EX_UNSUPPORTED_OPERATION
  | EX_ILLEGAL_STATE
  deriving DecidableEq

/-- What the nodes hold, by path. -/
abbrev Nodes := String → String

/-- What is written for a gesture that is enabled or not. -/
def text (enabled : Bool) : String := if enabled then "1" else "0"

/-- The stream is destroyed when the call returns, after the test of `fail`. -/
def setGestureEnabled (gesture : Gesture) (enabled opens writes : Bool) (nodes : Nodes) :
    ScopedAStatus × Nodes :=
  match find gesture.id with
  | none => (.EX_UNSUPPORTED_OPERATION, nodes)
  | some info =>
    let file := (Ofstream.construct opens).put (text enabled)
    let nodes := Function.update nodes info.path (file.destroy writes (nodes info.path))
    if file.fail then (.EX_ILLEGAL_STATE, nodes) else (.ok, nodes)

/-! ## The table of gestures -/

theorem find_eq_some {id : Int32} {info : GestureInfo} (h : find id = some info) :
    (id, info) ∈ kGestureInfoMap := by
  obtain ⟨entry, hentry, rfl⟩ := Option.map_eq_some_iff.1 h
  have hid : entry.1 = id := by simpa using List.find?_some hentry
  subst hid
  exact List.mem_of_find?_eq_some hentry

/-- The supported gestures are those that are found. -/
theorem find_isSome_iff (id : Int32) :
    (find id).isSome ↔ ∃ gesture ∈ getSupportedGestures, gesture.id = id := by
  simp [find, getSupportedGestures]

/-- No two gestures share a node. -/
theorem find_path_ne {id id' : Int32} {info info' : GestureInfo} (h : find id = some info)
    (h' : find id' = some info') (hne : id ≠ id') : info.path ≠ info'.path := by
  intro hpath
  have hnodup : (kGestureInfoMap.map fun entry => entry.2.path).Nodup := by decide
  have hentry := List.inj_on_of_nodup_map hnodup (find_eq_some h) (find_eq_some h') hpath
  exact hne (congrArg Prod.fst hentry)

/-! ## What a call does -/

/-- How a call ends. -/
inductive HowWritten (gesture : Gesture) (enabled opens writes : Bool) (nodes : Nodes) :
    ScopedAStatus × Nodes → Prop where
  | unknown : find gesture.id = none →
      HowWritten gesture enabled opens writes nodes (.EX_UNSUPPORTED_OPERATION, nodes)
  | unopened {info : GestureInfo} : find gesture.id = some info → opens = false →
      HowWritten gesture enabled opens writes nodes (.EX_ILLEGAL_STATE, nodes)
  /-- The write is rejected once the call has decided what to return. -/
  | rejected {info : GestureInfo} : find gesture.id = some info → opens = true → writes = false →
      HowWritten gesture enabled opens writes nodes (.ok, nodes)
  | written {info : GestureInfo} : find gesture.id = some info → opens = true → writes = true →
      HowWritten gesture enabled opens writes nodes
        (.ok, Function.update nodes info.path (text enabled))

theorem setGestureEnabled_howWritten (gesture : Gesture) (enabled opens writes : Bool)
    (nodes : Nodes) : HowWritten gesture enabled opens writes nodes
      (setGestureEnabled gesture enabled opens writes nodes) := by
  have htext : text enabled ≠ "" := by cases enabled <;> decide
  unfold setGestureEnabled
  cases hfind : find gesture.id with
  | none => exact .unknown hfind
  | some info =>
    simp only [Ofstream.fail_put, Ofstream.destroy_put htext]
    cases hopens : opens with
    | false =>
      have hsame : Function.update nodes info.path (nodes info.path) = nodes :=
        Function.update_eq_self info.path nodes
      simp only [Bool.not_false, Bool.false_and, Bool.false_eq_true, ↓reduceIte, hsame]
      exact .unopened hfind rfl
    | true =>
      cases hwrites : writes with
      | false =>
        have hsame : Function.update nodes info.path (nodes info.path) = nodes :=
          Function.update_eq_self info.path nodes
        simp only [Bool.not_true, Bool.and_false, Bool.false_eq_true, ↓reduceIte, hsame]
        exact .rejected hfind rfl rfl
      | true =>
        simp only [Bool.not_true, Bool.and_true, Bool.false_eq_true, ↓reduceIte]
        exact .written hfind rfl rfl

/-! ## Runs -/

structure State where
  nodes : Nodes
  /-- What the latest call that returned ok has asked for, by the id of the gesture. -/
  acknowledged : Int32 → Option Bool := fun _ => none

/-- A call, and whether the open and the write succeed. -/
structure Call where
  gesture : Gesture
  enabled : Bool
  opens : Bool
  writes : Bool

def Call.run (c : Call) (s : State) : ScopedAStatus × Nodes :=
  setGestureEnabled c.gesture c.enabled c.opens c.writes s.nodes

def State.call (s : State) (c : Call) : State :=
  { nodes := (c.run s).2
    acknowledged :=
      if (c.run s).1 = .ok then Function.update s.acknowledged c.gesture.id (some c.enabled)
      else s.acknowledged }

/-- Every call runs. -/
def step (s : State) (c : Call) : Except (Stop Empty) State := .ok (s.call c)

/-- A refused call changes no node, and no call changes the node of another gesture. -/
structure Harmless (s : State) (c : Call) : Prop where
  refused : (c.run s).1 ≠ .ok → (c.run s).2 = s.nodes
  others : ∀ id info, find id = some info → id ≠ c.gesture.id →
    (c.run s).2 info.path = s.nodes info.path

/-- Each gesture's node holds what was last acknowledged. -/
def Reached (s : State) : Prop :=
  ∀ id info, find id = some info → ∀ enabled, s.acknowledged id = some enabled →
    s.nodes info.path = text enabled

/-- Where the node could be opened, the write is taken, or asks for what the node holds. -/
def Delivered (s : State) (c : Call) : Prop :=
  ∀ info, find c.gesture.id = some info → c.opens = true →
    c.writes = true ∨ s.nodes info.path = text c.enabled

theorem harmless (s : State) (c : Call) : Harmless s c := by
  have h := setGestureEnabled_howWritten c.gesture c.enabled c.opens c.writes s.nodes
  constructor
  · intro hrefused
    unfold Call.run at hrefused ⊢
    generalize setGestureEnabled c.gesture c.enabled c.opens c.writes s.nodes = result
      at h hrefused ⊢
    cases h with
    | written _ _ _ => exact absurd rfl hrefused
    | _ => rfl
  · intro id info hfind hne
    unfold Call.run
    generalize setGestureEnabled c.gesture c.enabled c.opens c.writes s.nodes = result at h ⊢
    cases h with
    | written hfind' _ _ => exact Function.update_of_ne (find_path_ne hfind hfind' hne) _ _
    | _ => rfl

theorem reached_init (nodes : Nodes) : Reached { nodes := nodes } := by
  intro id info hfind enabled hlatest
  cases hlatest

/-- A call keeps the nodes as acknowledged exactly if its write is delivered. -/
theorem reached_call_iff {s : State} {c : Call} (hs : Reached s) :
    Reached (s.call c) ↔ Delivered s c := by
  have h := setGestureEnabled_howWritten c.gesture c.enabled c.opens c.writes s.nodes
  unfold State.call Call.run Delivered
  generalize setGestureEnabled c.gesture c.enabled c.opens c.writes s.nodes = result at h ⊢
  cases h with
  | unknown hfind =>
    refine iff_of_true hs fun info hinfo => ?_
    rw [hfind] at hinfo
    cases hinfo
  | unopened _ hopens =>
    refine iff_of_true hs fun _ _ hopened => ?_
    rw [hopens] at hopened
    cases hopened
  | @rejected info hfind hopens hwrites =>
    constructor
    · intro hreached info' hfind' _
      exact .inr (hreached _ info' hfind' c.enabled (by simp))
    · intro hdelivered id info' hfind' enabled hlatest
      by_cases hid : id = c.gesture.id
      · subst hid
        obtain rfl : c.enabled = enabled := by simpa using hlatest
        rcases hdelivered info' hfind' hopens with hwritten | hnode
        · rw [hwrites] at hwritten
          cases hwritten
        · exact hnode
      · exact hs id info' hfind' enabled (by simpa [hid] using hlatest)
  | @written info hfind hopens hwrites =>
    refine iff_of_true (fun id info' hfind' enabled hlatest => ?_) fun _ _ _ => .inl hwrites
    by_cases hid : id = c.gesture.id
    · subst hid
      obtain rfl : info = info' := Option.some.inj (hfind.symm.trans hfind')
      obtain rfl : c.enabled = enabled := by simpa using hlatest
      exact Function.update_self _ _ _
    · have hpath := find_path_ne hfind' hfind hid
      have hlatest' : s.acknowledged id = some enabled := by simpa [hid] using hlatest
      simp only [Function.update_of_ne hpath]
      exact hs id info' hfind' enabled hlatest'

theorem run_ok (s : State) (calls : List Call) : ∃ t, run step s calls = .ok t := by
  induction calls generalizing s with
  | nil => exact ⟨s, rfl⟩
  | cons c calls ih => exact ih (s.call c)

/-- **An acknowledged toggle has reached the kernel**, throughout a run, exactly if every call's
write is taken or asks for what the node holds. In every run a refused call changes no node, and no
call changes the node of another gesture. -/
theorem acknowledged_reached_iff (nodes : Nodes) (calls : List Call) :
    Guarded step Harmless { nodes := nodes } calls ∧
      (Throughout step Reached { nodes := nodes } calls ↔
        Guarded step Delivered { nodes := nodes } calls) := by
  obtain ⟨t, hrun⟩ := run_ok { nodes := nodes } calls
  constructor
  · exact guarded_of_forall fun s c _ => harmless s c
  · refine throughout_iff_guarded (I := fun _ => True) (fun _ _ _ _ _ => trivial)
      (fun s c s' _ hs h => ?_) hrun trivial (reached_init nodes)
    cases h
    exact reached_call_iff hs

/-- The node of gesture 0 can be opened and does not take the write: the call returns ok. -/
theorem acknowledged_unwritten_toggle :
    let call : Call := ⟨{ id := 0 }, true, true, false⟩
    (call.run { nodes := fun _ => "0" }).1 = .ok ∧
      ¬ Throughout step Reached { nodes := fun _ => "0" } [call] := by
  refine ⟨by decide, fun h => ?_⟩
  have hnode : "0" = text true := h.2 0 _ rfl true rfl
  exact absurd hnode (by decide)

/-! ## What the nodes hold -/

/-- What the node of a gesture holds. -/
def State.node (s : State) (id : Int32) : Option String :=
  (find id).map fun info => s.nodes info.path

/-- The write of a call that reaches its node. -/
def Call.delivered (c : Call) : List (Int32 × String) :=
  if (find c.gesture.id).isSome ∧ c.opens = true ∧ c.writes = true then
    [(c.gesture.id, text c.enabled)]
  else []

theorem node_call (s : State) (c : Call) (id : Int32) :
    (s.call c).node id = (lastWrite c.delivered id).or (s.node id) := by
  have h := setGestureEnabled_howWritten c.gesture c.enabled c.opens c.writes s.nodes
  unfold State.node State.call Call.run Call.delivered
  generalize setGestureEnabled c.gesture c.enabled c.opens c.writes s.nodes = result at h ⊢
  cases h with
  | unknown hfind => simp [hfind]
  | unopened _ hopens => simp [hopens]
  | rejected _ _ hwrites => simp [hwrites]
  | @written info hfind hopens hwrites =>
    by_cases hid : id = c.gesture.id
    · subst hid
      simp [hfind, hopens, hwrites]
    · cases hfind' : find id with
      | none => simp [hid, hopens, hwrites, hfind]
      | some info' =>
        have hpath := find_path_ne hfind' hfind hid
        simp [hid, hopens, hwrites, hfind, Function.update_of_ne hpath]

/-- A call writes no file but the node of its gesture. -/
theorem nodes_call_of_ne (s : State) (c : Call) {path : String}
    (hpath : ∀ id info, find id = some info → path ≠ info.path) :
    (s.call c).nodes path = s.nodes path := by
  have h := setGestureEnabled_howWritten c.gesture c.enabled c.opens c.writes s.nodes
  unfold State.call Call.run
  generalize setGestureEnabled c.gesture c.enabled c.opens c.writes s.nodes = result at h ⊢
  cases h with
  | written hfind _ _ => exact Function.update_of_ne (hpath _ _ hfind) _ _
  | _ => rfl

/-- **Every node holds what was last delivered to it**, after any calls, whatever they returned; no
other file is touched; and the gestures that have a node are the supported ones. -/
theorem nodes_hold_last_delivered (nodes : Nodes) (calls : List Call) :
    let s := final step { nodes := nodes } calls
    (∀ id, s.node id = (lastWrite (calls.flatMap Call.delivered) id).or
        ((find id).map fun info => nodes info.path)) ∧
      (∀ path, (∀ id info, find id = some info → path ≠ info.path) → s.nodes path = nodes path) ∧
        ∀ id, (s.node id).isSome ↔ ∃ gesture ∈ getSupportedGestures, gesture.id = id := by
  intro s
  obtain ⟨t, ht⟩ := run_ok { nodes := nodes } calls
  have hrun : run step { nodes := nodes } calls = .ok s := run_eq_ok_final (by rw [ht]; rfl)
  refine ⟨?_, ?_, fun id => ?_⟩
  · intro id
    refine run_lastWrite State.node _ (I := fun _ => True) (fun _ _ _ _ _ => trivial) ?_ hrun
      trivial id
    intro s c s' _ hs key
    cases hs
    exact node_call s c key
  · intro path hpath
    refine run_keeps (P := fun s => s.nodes path = nodes path) ?_ hrun rfl
    intro s c s' hsame hs
    cases hs
    exact (nodes_call_of_ne s c hpath).trans hsame
  · rw [State.node, Option.isSome_map, find_isSome_iff]

end RMX2020.Touch
