import Mathlib.Logic.Function.Basic
import RMX2020.Machine.Run

/-!
# Actions triggered by properties

The language of init scripts, as far as it reacts to properties. Every property that is set is an
event in a queue. `turn` takes the next event and lines up the actions it triggers, all of whose
other triggers hold at that time; or, while actions are lined up, runs the commands of the next one.
A command sets a property or does something to the device. Only actions change the device, so a
property that others set while an action runs might as well have been set before it.

`sets` keeps what the actions have set, with the device at that time. An action only adds settings
of its own (`run_sets`), one at the end if its last command alone sets a property
(`run_device_setprop`), and leaves lined up what is (`run_actions`).
-/

namespace Machine.Trigger

variable {ν κ δ : Type*}

/-- A text in a command: itself, or the value a property has when the command runs. -/
inductive Text (ν : Type*) where
  | text (value : String)
  | prop (name : ν)
  deriving DecidableEq

def Text.expand (props : ν → String) : Text ν → String
  | .text value => value
  | .prop name => props name

/-- A command, where `κ` are those that act on the device. -/
inductive Command (ν κ : Type*) where
  | setprop (name : ν) (value : Text ν)
  | device (command : κ)
  deriving DecidableEq

structure Action (ν κ : Type*) where
  /-- Properties and their values. -/
  triggers : List (ν × String)
  commands : List (Command ν κ)
  deriving DecidableEq

/-- A property that was set, or `none` for the one time all properties are looked at. -/
abbrev Event (ν : Type*) := Option (ν × String)

/-- Whether an event triggers an action. -/
def Action.triggered [DecidableEq ν] (props : ν → String) (e : Event ν) (a : Action ν κ) : Bool :=
  match e with
  | none => a.triggers.all fun t => t.2 = props t.1
  | some (name, value) =>
    a.triggers.any (fun t => t.1 = name) &&
      a.triggers.all fun t => t.2 = if t.1 = name then value else props t.1

/-- A property that an action set, and the device at that time. -/
structure Setting (ν κ δ : Type*) where
  action : Action ν κ
  name : ν
  value : String
  device : δ

structure State (ν κ δ : Type*) where
  props : ν → String
  events : List (Event ν)
  /-- The actions that are lined up. -/
  actions : List (Action ν κ)
  device : δ
  sets : List (Setting ν κ δ)

section Exec

variable [DecidableEq ν] (exec : (ν → String) → κ → δ → δ)

def State.set (s : State ν κ δ) (name : ν) (value : String) : State ν κ δ :=
  { s with
    props := Function.update s.props name value
    events := s.events ++ [some (name, value)] }

def command (a : Action ν κ) (s : State ν κ δ) : Command ν κ → State ν κ δ
  | .setprop name value =>
    { s.set name (value.expand s.props) with
      sets := s.sets ++ [⟨a, name, value.expand s.props, s.device⟩] }
  | .device c => { s with device := exec s.props c s.device }

/-- Run the commands of an action. -/
def Action.run (a : Action ν κ) (s : State ν κ δ) : State ν κ δ :=
  a.commands.foldl (command exec a) s

def turn (table : List (Action ν κ)) (s : State ν κ δ) : Except (Stop Empty) (State ν κ δ) :=
  match s.actions with
  | a :: actions => .ok (a.run exec { s with actions := actions })
  | [] =>
    match s.events with
    | e :: events =>
      .ok { s with events := events, actions := table.filter (·.triggered s.props e) }
    | [] => .error .disabled

end Exec

/-! ## Setting a property -/

section Set

variable [DecidableEq ν] {s : State ν κ δ} {name name' : ν} {value : String}

theorem set_props_self : (s.set name value).props name = value := by
  simp only [State.set, Function.update_self]

theorem set_props_of_ne (h : name' ≠ name) : (s.set name value).props name' = s.props name' := by
  simp only [State.set, Function.update_of_ne h]

theorem mem_set_events {e : Event ν} (h : e ∈ (s.set name value).events) :
    e ∈ s.events ∨ e = some (name, value) :=
  (List.mem_append.1 h).imp_right List.mem_singleton.1

end Set

/-! ## What triggers an action -/

section Triggered

variable [DecidableEq ν] {props : ν → String} {a : Action ν κ}

theorem triggered_none (h : a.triggered props none) : ∀ t ∈ a.triggers, t.2 = props t.1 := by
  simpa [Action.triggered] using h

theorem triggered_some_iff {name : ν} {value : String} :
    a.triggered props (some (name, value)) ↔ (∃ t ∈ a.triggers, t.1 = name) ∧
      ∀ t ∈ a.triggers, t.2 = if t.1 = name then value else props t.1 := by
  simp [Action.triggered]

theorem triggered_some {name : ν} {value : String} (h : a.triggered props (some (name, value))) :
    (∃ t ∈ a.triggers, t.1 = name) ∧
      ∀ t ∈ a.triggers, t.2 = if t.1 = name then value else props t.1 := triggered_some_iff.1 h

end Triggered

/-! ## What an action does -/

section Run

variable [DecidableEq ν] {exec : (ν → String) → κ → δ → δ} {a : Action ν κ} {s : State ν κ δ}

theorem foldl_command_sets (cs : List (Command ν κ)) (s : State ν κ δ) :
    ∃ new, (cs.foldl (command exec a) s).sets = s.sets ++ new ∧
      ∀ e ∈ new, e.action = a ∧ ∃ value, .setprop e.name value ∈ cs := by
  induction cs generalizing s with
  | nil => exact ⟨[], by simp, by simp⟩
  | cons c cs ih =>
    obtain ⟨new, hnew, hall⟩ := ih (command exec a s c)
    have htail {e : Setting ν κ δ} (he : e ∈ new) :
        e.action = a ∧ ∃ value, .setprop e.name value ∈ c :: cs := by
      obtain ⟨haction, value, hvalue⟩ := hall e he
      exact ⟨haction, value, List.mem_cons_of_mem c hvalue⟩
    cases c with
    | setprop name value =>
      refine ⟨⟨a, name, value.expand s.props, s.device⟩ :: new, ?_, ?_⟩
      · rw [List.foldl_cons, hnew]
        simp [command]
      · intro e he
        rcases List.mem_cons.1 he with rfl | he
        · exact ⟨rfl, value, List.mem_cons_self⟩
        · exact htail he
    | device c =>
      refine ⟨new, ?_, fun e he => htail he⟩
      rw [List.foldl_cons, hnew]
      rfl

/-- An action adds settings of its own to those that were made, each by one of its commands. -/
theorem run_sets (exec : (ν → String) → κ → δ → δ) (a : Action ν κ) (s : State ν κ δ) :
    ∃ new, (a.run exec s).sets = s.sets ++ new ∧
      ∀ e ∈ new, e.action = a ∧ ∃ value, .setprop e.name value ∈ a.commands :=
  foldl_command_sets a.commands s

theorem command_setprop_props (name : ν) (value : Text ν) :
    (command exec a s (.setprop name value)).props =
      Function.update s.props name (value.expand s.props) := rfl

/-- Commands on the device change nothing else. -/
theorem foldl_device (cs : List κ) (s : State ν κ δ) :
    (cs.map .device).foldl (command exec a) s =
      { s with device := cs.foldl (fun d c => exec s.props c d) s.device } := by
  induction cs generalizing s with
  | nil => rfl
  | cons c cs ih =>
    rw [List.map_cons, List.foldl_cons, ih]
    rfl

/-- An action on the device whose last command sets a property. -/
theorem run_device_setprop {cs : List κ} {name : ν} {value : Text ν}
    (h : a.commands = cs.map .device ++ [.setprop name value]) (s : State ν κ δ) :
    a.run exec s =
      { s with
        props := Function.update s.props name (value.expand s.props)
        events := s.events ++ [some (name, value.expand s.props)]
        device := cs.foldl (fun d c => exec s.props c d) s.device
        sets := s.sets ++ [⟨a, name, value.expand s.props,
          cs.foldl (fun d c => exec s.props c d) s.device⟩] } := by
  rw [Action.run, h, List.foldl_append, foldl_device]
  rfl

/-- What every command of an action keeps, the action keeps. -/
theorem Action.run_keeps {P : State ν κ δ → Prop}
    (hkeeps : ∀ c ∈ a.commands, ∀ s, P s → P (command exec a s c)) (h : P s) : P (a.run exec s) :=
  List.foldlRecOn a.commands (command exec a) h fun s hs c hc => hkeeps c hc s hs

/-- What one command of an action brings about and all of them keep holds after the action. -/
theorem Action.run_of_mem {P : State ν κ δ → Prop} {c : Command ν κ} (hc : c ∈ a.commands)
    (hdoes : ∀ s, P (command exec a s c))
    (hkeeps : ∀ c ∈ a.commands, ∀ s, P s → P (command exec a s c)) (s : State ν κ δ) :
    P (a.run exec s) := by
  obtain ⟨before, after, hcommands⟩ := List.append_of_mem hc
  rw [Action.run, hcommands, List.foldl_append, List.foldl_cons]
  refine List.foldlRecOn after (command exec a) (hdoes _) fun s hs c' hc' => hkeeps c' ?_ s hs
  rw [hcommands]
  exact List.mem_append_right before (List.mem_cons_of_mem c hc')

/-- Running an action does not change what is lined up after it. -/
theorem run_actions (exec : (ν → String) → κ → δ → δ) (a : Action ν κ) (s : State ν κ δ) :
    (a.run exec s).actions = s.actions :=
  Action.run_keeps (P := fun s' => s'.actions = s.actions)
    (fun c _ s' h => by cases c <;> exact h) rfl

/-- What holds of all actions that are lined up holds of the next one, and of the others after
it. -/
theorem forall_actions_run (exec : (ν → String) → κ → δ → δ) {actions : List (Action ν κ)}
    {P : Action ν κ → Prop} (h : ∀ b ∈ s.actions, P b) (hactions : s.actions = a :: actions) :
    P a ∧ ∀ b ∈ (a.run exec { s with actions := actions }).actions, P b := by
  rwa [run_actions, ← List.forall_mem_cons, ← hactions]

/-- All but the next action stay lined up. -/
theorem mem_actions_run {actions : List (Action ν κ)} {b : Action ν κ} (hb : b ∈ s.actions)
    (hactions : s.actions = a :: actions) (hne : a ≠ b) :
    b ∈ (a.run exec { s with actions := actions }).actions := by
  rw [hactions] at hb
  rw [run_actions]
  exact (List.mem_cons.1 hb).resolve_left hne.symm

theorem turn_run {table actions : List (Action ν κ)} (h : s.actions = a :: actions) :
    turn exec table s = .ok (a.run exec { s with actions := actions }) := by
  simp only [turn, h]

theorem turn_take {table : List (Action ν κ)} {e : Event ν} {events : List (Event ν)}
    (h : s.actions = []) (he : s.events = e :: events) :
    turn exec table s = .ok { s with
      events := events, actions := table.filter (·.triggered s.props e) } := by
  simp only [turn, h, he]

theorem turn_idle {table : List (Action ν κ)} (h : s.actions = []) (he : s.events = []) :
    turn exec table s = .error .disabled := by
  simp only [turn, h, he]

/-- A turn runs the next action, or takes the next event. -/
theorem turn_cases {table : List (Action ν κ)} {s' : State ν κ δ} {P : State ν κ δ → Prop}
    (h : turn exec table s = .ok s')
    (hrun : ∀ a actions, s.actions = a :: actions → P (a.run exec { s with actions := actions }))
    (htake : ∀ e events, s.actions = [] → s.events = e :: events →
      P { s with events := events, actions := table.filter (·.triggered s.props e) }) : P s' := by
  cases hactions : s.actions with
  | cons a actions =>
    rw [turn_run hactions] at h
    cases h
    exact hrun a actions hactions
  | nil =>
    cases hevents : s.events with
    | nil =>
      rw [turn_idle hactions hevents] at h
      cases h
    | cons e events =>
      rw [turn_take hactions hevents] at h
      cases h
      exact htake e events hactions hevents

end Run

/-! ## The log -/

/-- The state with settings made before its own. -/
def State.logged (s : State ν κ δ) (old : List (Setting ν κ δ)) : State ν κ δ :=
  { s with sets := old ++ s.sets }

section Log

variable [DecidableEq ν] {exec : (ν → String) → κ → δ → δ} {a : Action ν κ}

theorem foldl_command_logged (cs : List (Command ν κ)) (s : State ν κ δ)
    (old : List (Setting ν κ δ)) : cs.foldl (command exec a) (s.logged old) =
      (cs.foldl (command exec a) s).logged old := by
  induction cs generalizing s with
  | nil => rfl
  | cons c cs ih =>
    have hcommand : command exec a (s.logged old) c = (command exec a s c).logged old := by
      cases c with
      | setprop name value => simp [command, State.logged, State.set]
      | device c => rfl
    rw [List.foldl_cons, List.foldl_cons, hcommand, ih]

/-- Nothing reads the log. -/
theorem turn_logged (table : List (Action ν κ)) (s : State ν κ δ) (old : List (Setting ν κ δ)) :
    turn exec table (s.logged old) = (turn exec table s).map (·.logged old) := by
  cases hactions : s.actions with
  | cons a actions =>
    have hsame : (s.logged old).actions = a :: actions := hactions
    rw [turn_run hactions, turn_run hsame]
    exact congrArg Except.ok (foldl_command_logged a.commands { s with actions := actions } old)
  | nil =>
    have hsame : (s.logged old).actions = [] := hactions
    cases hevents : s.events with
    | nil =>
      have hnone : (s.logged old).events = [] := hevents
      rw [turn_idle hactions hevents, turn_idle hsame hnone]
      rfl
    | cons e events =>
      have hnext : (s.logged old).events = e :: events := hevents
      rw [turn_take hactions hevents, turn_take hsame hnext]
      rfl

end Log

end Machine.Trigger
