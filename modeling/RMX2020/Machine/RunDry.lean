import Mathlib.Algebra.Group.Action.Defs
import Mathlib.Algebra.Order.BigOperators.Group.List
import Mathlib.Algebra.Order.Ring.Nat
import RMX2020.Machine.Trigger

/-!
# Running dry

Init that is left alone may go on for ever: an action can set what triggers it. It comes to rest if
properties can be ranked such that every action sets properties of a lower rank only than those
that trigger it (`idle_runDry`). The bound on the turns it takes is what its queues can still cause:
an event at most all actions of the table, and these only events of a lower rank (`State.work`).
-/

namespace Machine.Trigger

variable {ν κ δ : Type*} [DecidableEq ν]

/-- So many turns, or fewer if there is nothing left to do. -/
def runDry (exec : (ν → String) → κ → δ → δ) (table : List (Action ν κ)) :
    Nat → State ν κ δ → State ν κ δ
  | 0, s => s
  | n + 1, s =>
    match turn exec table s with
    | .ok s' => runDry exec table n s'
    | .error _ => s

/-! ## What is left to do -/

/-- The property a command sets. -/
def Command.setprop? : Command ν κ → Option ν
  | .setprop name _ => some name
  | .device _ => none

def Action.setprops (a : Action ν κ) : List ν := a.commands.filterMap Command.setprop?

/-- Every action sets properties of a lower rank only than those that trigger it. -/
def Ranked (rank : ν → Nat) (top : Nat) (table : List (Action ν κ)) : Prop :=
  ∀ a ∈ table, ∀ n ∈ a.setprops, rank n < top ∧ ∀ t ∈ a.triggers, rank n < rank t.1

instance (rank : ν → Nat) (top : Nat) (table : List (Action ν κ)) :
    Decidable (Ranked rank top table) :=
  inferInstanceAs (Decidable (∀ a ∈ table, ∀ n ∈ a.setprops, _ ∧ ∀ t ∈ a.triggers, _))

/-- The turns that an event of a rank below `k` can cause. -/
def cost (table : List (Action ν κ)) : Nat → Nat
  | 0 => 0
  | k + 1 => 1 + (table.map fun a => 1 + a.setprops.length * cost table k).sum

/-- All properties are looked at on top of everything. -/
def eventRank (rank : ν → Nat) (top : Nat) : Event ν → Nat
  | some (name, _) => rank name
  | none => top

def Action.work (rank : ν → Nat) (table : List (Action ν κ)) (a : Action ν κ) : Nat :=
  1 + (a.setprops.map fun n => cost table (rank n + 1)).sum

/-- The turns that init can still take. -/
def State.work (rank : ν → Nat) (top : Nat) (table : List (Action ν κ)) (s : State ν κ δ) : Nat :=
  (s.events.map fun e => cost table (eventRank rank top e + 1)).sum +
    (s.actions.map (·.work rank table)).sum

section Work

variable {exec : (ν → String) → κ → δ → δ} {rank : ν → Nat} {top : Nat}
  {table : List (Action ν κ)} {s s' : State ν κ δ} {a : Action ν κ}

omit [DecidableEq ν] in
theorem cost_mono (table : List (Action ν κ)) : Monotone (cost table) := by
  refine monotone_nat_of_le_succ fun k => ?_
  induction k with
  | zero => exact Nat.zero_le _
  | succ k ih =>
    refine Nat.add_le_add_left (List.sum_le_sum fun a _ => ?_) 1
    exact Nat.add_le_add_left (Nat.mul_le_mul_left _ ih) 1

theorem foldl_command_events (a : Action ν κ) (cs : List (Command ν κ)) (s : State ν κ δ) :
    ∃ new : List (ν × String), (cs.foldl (command exec a) s).events = s.events ++ new.map some ∧
      new.map Prod.fst = cs.filterMap Command.setprop? := by
  induction cs generalizing s with
  | nil => exact ⟨[], (List.append_nil _).symm, rfl⟩
  | cons c cs ih =>
    obtain ⟨new, hevents, hnames⟩ := ih (command exec a s c)
    cases c with
    | setprop name text =>
      refine ⟨(name, text.expand s.props) :: new, ?_, ?_⟩
      · rw [List.foldl_cons, hevents]
        simp [command, State.set]
      · rw [List.map_cons, hnames]
        rfl
    | device c => exact ⟨new, hevents, hnames⟩

/-- Running an action queues an event for each property it sets. -/
theorem run_events (exec : (ν → String) → κ → δ → δ) (a : Action ν κ) (s : State ν κ δ) :
    ∃ new : List (ν × String), (a.run exec s).events = s.events ++ new.map some ∧
      new.map Prod.fst = a.setprops :=
  foldl_command_events a a.commands s

omit [DecidableEq ν] in
theorem mem_setprops {name : ν} (h : name ∈ a.setprops) :
    ∃ text, .setprop name text ∈ a.commands := by
  obtain ⟨c, hc, hname⟩ := List.mem_filterMap.1 h
  cases c with
  | setprop n text =>
    cases hname
    exact ⟨text, hc⟩
  | device c => cases hname

/-- An action that an event triggers sets nothing of the rank of the event. -/
theorem Ranked.work_le (h : Ranked rank top table) (ha : a ∈ table) {props : ν → String}
    {e : Event ν} (htriggered : a.triggered props e) :
    a.work rank table ≤ 1 + a.setprops.length * cost table (eventRank rank top e) := by
  have hlower : ∀ n ∈ a.setprops, rank n < eventRank rank top e := by
    intro n hn
    cases e with
    | none => exact (h a ha n hn).1
    | some e =>
      obtain ⟨⟨t, ht, hname⟩, -⟩ := triggered_some htriggered
      have hless := (h a ha n hn).2 t ht
      rwa [hname] at hless
  have hcost : ∀ x ∈ a.setprops.map fun n => cost table (rank n + 1),
      x ≤ cost table (eventRank rank top e) := by
    intro x hx
    obtain ⟨n, hn, rfl⟩ := List.mem_map.1 hx
    exact cost_mono table (hlower n hn)
  have hsum := List.sum_le_card_nsmul _ _ hcost
  rw [List.length_map, smul_eq_mul] at hsum
  exact Nat.add_le_add_left hsum 1

/-- Every turn is one of those that were left. -/
theorem Ranked.work_turn (h : Ranked rank top table) (hturn : turn exec table s = .ok s') :
    s'.work rank top table < s.work rank top table := by
  cases hactions : s.actions with
  | cons a actions =>
    rw [turn_run hactions] at hturn
    cases hturn
    obtain ⟨new, hevents, hnames⟩ := run_events exec a { s with actions := actions }
    have hkept := run_actions exec a { s with actions := actions }
    have hnew : ((new.map some).map fun e => cost table (eventRank rank top e + 1)).sum =
        (a.setprops.map fun n => cost table (rank n + 1)).sum := by
      rw [← hnames, List.map_map, List.map_map]
      rfl
    unfold State.work
    rw [hkept, hevents, hactions, List.map_append, List.sum_append, hnew, List.map_cons,
      List.sum_cons, Action.work]
    dsimp only
    omega
  | nil =>
    cases hevents : s.events with
    | nil =>
      rw [turn_idle hactions hevents] at hturn
      cases hturn
    | cons e events =>
      rw [turn_take hactions hevents] at hturn
      cases hturn
      have hlined : ((table.filter (·.triggered s.props e)).map (·.work rank table)).sum ≤
          (table.map fun a => 1 + a.setprops.length * cost table (eventRank rank top e)).sum :=
        calc ((table.filter (·.triggered s.props e)).map (·.work rank table)).sum
            ≤ ((table.filter (·.triggered s.props e)).map fun a =>
                1 + a.setprops.length * cost table (eventRank rank top e)).sum :=
              List.sum_le_sum fun a ha =>
                h.work_le (List.mem_filter.1 ha).1 (List.mem_filter.1 ha).2
          _ ≤ (table.map fun a =>
                1 + a.setprops.length * cost table (eventRank rank top e)).sum :=
              (List.filter_sublist.map _).sum_le_sum fun _ _ => Nat.zero_le _
      unfold State.work
      rw [hactions, hevents, List.map_cons, List.sum_cons, List.map_nil, List.sum_nil, cost]
      dsimp only
      omega

theorem idle_of_turn_error {e : Stop Empty} (h : turn exec table s = .error e) :
    s.actions = [] ∧ s.events = [] := by
  cases hactions : s.actions with
  | cons a actions =>
    rw [turn_run hactions] at h
    cases h
  | nil =>
    cases hevents : s.events with
    | nil => exact ⟨rfl, rfl⟩
    | cons e events =>
      rw [turn_take hactions hevents] at h
      cases h

/-- What every turn keeps. -/
theorem runDry_keeps {I : State ν κ δ → Prop}
    (hturn : ∀ s s', I s → turn exec table s = .ok s' → I s') (hs : I s) (n : Nat) :
    I (runDry exec table n s) := by
  induction n generalizing s with
  | zero => exact hs
  | succ n ih =>
    rw [runDry]
    cases hnext : turn exec table s with
    | error e => exact hs
    | ok s' => exact ih (hturn s s' hs hnext)

/-- **A ranked table comes to rest**, whatever is pending. -/
theorem Ranked.idle_runDry (h : Ranked rank top table) {n : Nat}
    (hn : s.work rank top table ≤ n) :
    (runDry exec table n s).actions = [] ∧ (runDry exec table n s).events = [] := by
  induction n generalizing s with
  | zero =>
    cases hturn : turn exec table s with
    | error e => exact idle_of_turn_error hturn
    | ok s' =>
      have hless := h.work_turn hturn
      omega
  | succ n ih =>
    rw [runDry]
    cases hturn : turn exec table s with
    | error e => exact idle_of_turn_error hturn
    | ok s' =>
      have hless := h.work_turn hturn
      exact ih (by omega)

end Work

end Machine.Trigger
