import RMX2020.Fingerprint.History

/-!
# What each HAL call brings the clients

Every receipt carries the number of the HAL call it belongs to. `State.owed` is what a client has
received for a call together with what is still in flight for it. A delivery only reorders it, so
once a call has returned it stays as it was (`Ledger.owed_completed`): what the vendor sent while it
served the call, then what the adapter said itself when the vendor returned (`Ledger.owed_reply`).
`run_completed` turns this into an induction rule for properties of completed calls.
-/

namespace RMX2020.Fingerprint

open Machine

/-- The events of the calls made on one client. -/
def heardBy (client : Client) (calls : List ClientCall) : List ClientEvent :=
  calls.filterMap fun call => if call.client = client then some call.event else none

/-- The events a client received for one HAL call. -/
def answers (n : Nat) (client : Client) (receipts : List Receipt) : List ClientEvent :=
  receipts.filterMap fun r =>
    if r.during = some n ∧ r.call.client = client then some r.call.event else none

section Answers

variable {n : Nat} {client : Client}

theorem heardBy_map (events : List ClientEvent) :
    heardBy client (events.map (ClientCall.mk client)) = events := by
  unfold heardBy
  rw [List.filterMap_map]
  exact (List.filterMap_congr fun e _ => by simp).trans List.filterMap_some

@[simp] theorem answers_append (rs rs' : List Receipt) :
    answers n client (rs ++ rs') = answers n client rs ++ answers n client rs' :=
  List.filterMap_append

theorem answers_perm {rs rs' : List Receipt} (h : rs.Perm rs') :
    (answers n client rs).Perm (answers n client rs') :=
  h.filterMap _

theorem answers_eq_nil {rs : List Receipt} (h : ∀ r ∈ rs, r.during ≠ some n) :
    answers n client rs = [] := by
  apply List.filterMap_eq_nil_iff.2
  intro r hr
  simp [h r hr]

theorem answers_tagged (calls : List ClientCall) :
    answers n client (calls.map fun call => ⟨call, some n⟩) = heardBy client calls := by
  unfold answers heardBy
  rw [List.filterMap_map]
  apply List.filterMap_congr
  intro call _
  simp

end Answers

/-- What delivering a transaction brings. -/
def Transaction.receipts (t : Transaction) : List Receipt :=
  (t.target.told t.callback).map fun call => ⟨call, t.during⟩

namespace State

/-- Everything the clients have received and are going to receive from what is in flight. -/
def accounts (s : State) : List Receipt := accounted Transaction.receipts s.inFlight s.received

/-- What a client has received for a HAL call. -/
def heard (s : State) (n : Nat) (client : Client) : List ClientEvent :=
  answers n client s.received

/-- What a client has received and is going to receive for a HAL call. -/
def owed (s : State) (n : Nat) (client : Client) : List ClientEvent :=
  answers n client s.accounts

/-- Nothing sent for this call is still in flight. -/
def Settled (s : State) (n : Nat) : Prop := ∀ t ∈ s.inFlight, t.during ≠ some n

instance (s : State) (n : Nat) : Decidable (s.Settled n) :=
  inferInstanceAs (Decidable (∀ t ∈ s.inFlight, _))

theorem owed_eq_heard {s : State} {n : Nat} (h : s.Settled n) (client : Client) :
    s.owed n client = s.heard n client := by
  unfold owed heard accounts accounted
  have hother : ∀ r ∈ s.inFlight.flatMap Transaction.receipts, r.during ≠ some n := by
    intro r hr
    obtain ⟨t, ht, hr⟩ := List.mem_flatMap.1 hr
    obtain ⟨call, -, rfl⟩ := List.mem_map.1 hr
    exact h t ht
  rw [answers_append, answers_eq_nil hother, List.append_nil]

theorem accounts_send (s : State) (target : OplusClientCallback) (m : VendorCallback) :
    (s.send target m).accounts =
      s.accounts ++ Transaction.receipts ⟨target, m, s.current⟩ :=
  accounted_send _

theorem accounts_deliver {s : State} {t : Transaction} (ht : t ∈ s.inFlight) :
    (s.deliver t).accounts.Perm s.accounts := by
  unfold accounts
  rw [deliver_received, deliver_inFlight]
  exact accounted_deliver ht

theorem accounts_finish (s : State) (n : Nat) (c : HalCall) (told : List ClientCall)
    (ret : HalReply) : (s.finish n c told ret).accounts.Perm
      (s.accounts ++ told.map fun call => ⟨call, some n⟩) :=
  accounted_log _

end State

/-- What the vendor has sent a client while serving the pending call. -/
def History.servedTo (h : History) (client : Client) : List ClientEvent :=
  h.served.flatMap fun p => heardBy client (p.1.told p.2)

/-- The numbers of the HAL calls are used once, and the ledger of the pending call is what the
vendor has sent for it. -/
structure Ledger (s : State) (h : History) : Prop where
  tracks : Tracks s h
  tagged : ∀ r ∈ s.accounts, ∀ n, r.during = some n → n < s.begun
  pending : ∀ n c, s.pending = some (n, c) → n < s.begun
  completed : ∀ x ∈ s.completed, x.number < s.begun ∧ ∀ n c, s.pending = some (n, c) → n ≠ x.number
  served : ∀ n c, s.pending = some (n, c) → ∀ client, (s.owed n client).Perm (h.servedTo client)

namespace Ledger

variable {s s' : State} {h : History}

theorem init : Ledger State.init History.init := by
  refine ⟨Tracks.init, ?_, ?_, ?_, ?_⟩
  · intro r hr
    cases hr
  · intro n c hp
    cases hp
  · intro x hx
    cases hx
  · intro n c hp
    cases hp

theorem call (hl : Ledger s h) (c : HalCall) :
    Ledger (s.begin c) (h.record (.call c)) := by
  refine ⟨hl.tracks.call c, ?_, ?_, ?_, ?_⟩
  · intro r hr n hn
    exact Nat.lt_succ_of_lt (hl.tagged r hr n hn)
  · intro n c' hp
    cases hp
    exact Nat.lt_succ_self _
  · intro x hx
    have hlt := (hl.completed x hx).1
    refine ⟨Nat.lt_succ_of_lt hlt, ?_⟩
    intro n c' hp
    cases hp
    exact Nat.ne_of_gt hlt
  · intro n c' hp client
    cases hp
    -- no receipt carries the new number yet
    have hfresh : ∀ r ∈ s.accounts, r.during ≠ some s.begun := by
      intro r hr hn
      exact Nat.lt_irrefl _ (hl.tagged r hr _ hn)
    have hnil : (s.begin c).owed s.begun client = [] := answers_eq_nil hfresh
    rw [hnil]
    exact List.Perm.nil

theorem current_lt (hl : Ledger s h) {n : Nat} (hn : s.current = some n) : n < s.begun := by
  obtain ⟨⟨n', c⟩, hp, rfl⟩ := Option.map_eq_some_iff.1 hn
  exact hl.pending n' c hp

theorem send (hl : Ledger s h) (target : OplusClientCallback) (m : VendorCallback) :
    Ledger (s.send target m) (h.record (.send target m)) := by
  have ht := hl.tracks
  refine ⟨⟨ht.pending, ht.client, ht.canceled, ht.enumerated, ht.deviceId, ht.fingers⟩, ?_,
    hl.pending, hl.completed, ?_⟩
  · intro r hr n hn
    rw [State.accounts_send] at hr
    rcases List.mem_append.1 hr with hr | hr
    · exact hl.tagged r hr n hn
    · obtain ⟨call, -, rfl⟩ := List.mem_map.1 hr
      exact hl.current_lt hn
  · intro n c hp client
    have hcurrent : s.current = some n := by
      unfold State.current
      rw [show s.pending = some (n, c) from hp]
      rfl
    have hpend : h.pending.isSome := by
      rw [← ht.pending, show s.pending = some (n, c) from hp]
      rfl
    have hserved : (h.record (.send target m)).servedTo client =
        h.servedTo client ++ heardBy client (target.told m) := by
      simp [History.servedTo, History.record, hpend]
    have howed : (s.send target m).owed n client =
        s.owed n client ++ heardBy client (target.told m) := by
      unfold State.owed
      rw [State.accounts_send, answers_append, hcurrent]
      congr 1
      exact answers_tagged _
    rw [hserved, howed]
    exact (hl.served n c hp client).append_right _

theorem deliver (hl : Ledger s h) {t : Transaction} (hmem : t ∈ s.inFlight) :
    Ledger (s.deliver t) (h.record (.deliver t)) := by
  have hperm := State.accounts_deliver hmem
  refine ⟨hl.tracks.deliver t, ?_, hl.pending, hl.completed, ?_⟩
  · intro r hr n hn
    exact hl.tagged r (hperm.mem_iff.1 hr) n hn
  · intro n c hp client
    exact (answers_perm hperm).trans (hl.served n c hp client)

/-- **When a call returns**, its client is owed what the vendor sent while serving it and what the
adapter says itself. -/
theorem owed_reply (hl : Ledger s h) {n : Nat} {c : HalCall} (hp : s.pending = some (n, c))
    (told : List ClientCall) (ret : HalReply) (client : Client) :
    ((s.finish n c told ret).owed n client).Perm
      (h.servedTo client ++ heardBy client told) := by
  have hperm := @answers_perm n client _ _ (s.accounts_finish n c told ret)
  rw [answers_append, answers_tagged] at hperm
  exact hperm.trans ((hl.served n c hp client).append_right _)

theorem reply (hl : Ledger s h) {n : Nat} {c : HalCall} (hp : s.pending = some (n, c))
    (told : List ClientCall) (ret : HalReply) (v : VendorReply) :
    Ledger (s.finish n c told ret) (h.record (.reply v)) := by
  have ht := hl.tracks
  refine ⟨⟨rfl, ht.client, ht.canceled, ht.enumerated, ht.deviceId, ht.fingers⟩, ?_, ?_, ?_, ?_⟩
  · intro r hr n' hn'
    rcases List.mem_append.1 ((s.accounts_finish n c told ret).mem_iff.1 hr) with hr | hr
    · exact hl.tagged r hr n' hn'
    · obtain ⟨call, -, rfl⟩ := List.mem_map.1 hr
      cases hn'
      exact hl.pending n c hp
  · intro n' c' hp'
    cases hp'
  · intro x hx
    refine ⟨?_, fun n' c' hp' => by cases hp'⟩
    rcases List.mem_append.1 hx with hx | hx
    · exact (hl.completed x hx).1
    · rw [List.mem_singleton.1 hx]
      exact hl.pending n c hp
  · intro n' c' hp'
    cases hp'

theorem step {a : Action} (hl : Ledger s h) (hs : step s a = .ok s') : Ledger s' (h.record a) := by
  cases a with
  | call c =>
    obtain ⟨-, rfl⟩ := step_call_eq_ok.1 hs
    exact hl.call c
  | send target m =>
    obtain ⟨-, rfl⟩ := step_send_eq_ok.1 hs
    exact hl.send target m
  | deliver t =>
    obtain ⟨hmem, rfl⟩ := step_deliver_eq_ok.1 hs
    exact hl.deliver hmem
  | reply v =>
    obtain ⟨n, c, told, ret, hp, -, rfl⟩ := step_reply_eq_ok.1 hs
    exact hl.reply hp told ret v

/-- **A completed call's account is closed**: later steps only reorder it. -/
theorem owed_completed {a : Action} (hl : Ledger s h) (hs : Fingerprint.step s a = .ok s')
    {x : Completed} (hx : x ∈ s.completed) (client : Client) :
    (s'.owed x.number client).Perm (s.owed x.number client) := by
  have hpending := (hl.completed x hx).2
  cases a with
  | call c =>
    obtain ⟨-, rfl⟩ := step_call_eq_ok.1 hs
    exact List.Perm.refl _
  | send target m =>
    obtain ⟨-, rfl⟩ := step_send_eq_ok.1 hs
    have hother : ∀ r ∈ Transaction.receipts ⟨target, m, s.current⟩,
        r.during ≠ some x.number := by
      intro r hr hn
      obtain ⟨call, -, rfl⟩ := List.mem_map.1 hr
      obtain ⟨⟨n, c⟩, hp, hnx⟩ := Option.map_eq_some_iff.1 hn
      exact hpending n c hp hnx
    have howed : (s.send target m).owed x.number client = s.owed x.number client := by
      unfold State.owed
      rw [State.accounts_send, answers_append, answers_eq_nil hother, List.append_nil]
    rw [howed]
  | deliver t =>
    obtain ⟨hmem, rfl⟩ := step_deliver_eq_ok.1 hs
    exact answers_perm (State.accounts_deliver hmem)
  | reply v =>
    obtain ⟨n, c, told, ret, hp, -, rfl⟩ := step_reply_eq_ok.1 hs
    have hother : ∀ r ∈ told.map fun call => (⟨call, some n⟩ : Receipt),
        r.during ≠ some x.number := by
      intro r hr hn
      obtain ⟨call, -, rfl⟩ := List.mem_map.1 hr
      exact hpending n c hp (Option.some.inj hn)
    have hperm := @answers_perm x.number client _ _
      (s.accounts_finish n c told ret)
    rw [answers_append, answers_eq_nil hother, List.append_nil] at hperm
    exact hperm

end Ledger

/-- `Good` holds of each completed call and of what the client registered then is owed for it. -/
def CompletedGood (Good : Completed → List ClientEvent → Prop) (s : State) : Prop :=
  ∀ x ∈ s.completed, ∀ client, x.client = some client → Good x (s.owed x.number client)

/-- **Induction over completed calls.** If `Good` does not depend on the order of events, and holds
of every call at the moment it returns, it holds of every completed call after every run. `C` is
what is assumed of the actions, and `I` any invariant that helps with it. -/
theorem run_completed {Good : Completed → List ClientEvent → Prop} {C : History → Action → Prop}
    {I : State → History → Prop} (hinit : I State.init History.init)
    (hI : ∀ s h a s', I s h → C h a → step s a = .ok s' → I s' (h.record a))
    (hperm : ∀ x es es', es.Perm es' → Good x es → Good x es')
    (hreply : ∀ s h v n c told ret client, Ledger s h → I s h → C h (.reply v) →
      s.pending = some (n, c) → c.leave v s.adapter = .ok (told, ret) →
      s.adapter.client? = some client →
      Good ⟨n, c, some client, ret⟩ (h.servedTo client ++ heardBy client told))
    {s : State} {acts : List Action} (hrun : run step State.init acts = .ok s)
    (hC : Along History.record C History.init acts) : CompletedGood Good s := by
  have hall : (Ledger s (acts.foldl History.record History.init) ∧
      I s (acts.foldl History.record History.init)) ∧ CompletedGood Good s := by
    refine run_along (R := fun s h => (Ledger s h ∧ I s h) ∧ CompletedGood Good s) ?_ hrun hC
      ⟨⟨Ledger.init, hinit⟩, fun x hx => by cases hx⟩
    rintro s h a s' ⟨⟨hl, hi⟩, hgood⟩ hc hs
    refine ⟨⟨hl.step hs, hI s h a s' hi hc hs⟩, fun x hx client hclient => ?_⟩
    have hold : x ∈ s.completed → Good x (s'.owed x.number client) := fun hx =>
      hperm x _ _ (hl.owed_completed hs hx client).symm (hgood x hx client hclient)
    cases a with
    | call c =>
      obtain ⟨-, rfl⟩ := step_call_eq_ok.1 hs
      exact hold hx
    | send target m =>
      obtain ⟨-, rfl⟩ := step_send_eq_ok.1 hs
      exact hold hx
    | deliver t =>
      obtain ⟨-, rfl⟩ := step_deliver_eq_ok.1 hs
      exact hold hx
    | reply v =>
      obtain ⟨n, c, told, ret, hp, hleave, rfl⟩ := step_reply_eq_ok.1 hs
      rcases List.mem_append.1 hx with hx | hx
      · exact hold hx
      · rw [List.mem_singleton.1 hx] at hclient ⊢
        have hclient' : s.adapter.client? = some client := hclient
        rw [hclient']
        exact hperm _ _ _ (hl.owed_reply hp told ret client).symm
          (hreply s h v n c told ret client hl hi hc hp hleave hclient')
  exact hall.2

end RMX2020.Fingerprint
