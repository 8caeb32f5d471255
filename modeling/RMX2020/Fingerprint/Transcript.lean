import RMX2020.Machine.Log
import RMX2020.Fingerprint.Ledger

/-!
# The adapter as its two sides see it

What the adapter is for, stated without its variables: `History.tells` is what an action has it say
to the clients and `History.returns` what it returns to the framework, both read off the actions so
far. `run_transcript`: after every run the clients have heard and the framework has been returned
exactly this. `clients_hear` is the account of one client: every callback sent on one of its objects
reaches it once, or is on its way, and nothing else does but the adapter's own replies.
-/

namespace RMX2020.Fingerprint

open Machine

/-- What the framework is returned for what the vendor returned. -/
def VendorReply.translate : VendorReply → HalReply
  | number value => .number value
  | status req => .status (OplusToAOSPRequestStatus req)

namespace History

/-- What the adapter says on its own account at an action. -/
def own (h : History) : Action → List ClientCall
  | .reply v =>
    match h.pending, h.client with
    | some .cancel, some client =>
      if h.cancelArrived then [] else [⟨client, .onError h.deviceId .ERROR_CANCELED 0⟩]
    | some .enumerate, some client =>
      if v.translate = .status .SYS_OK ∧ h.enumerateArrived = false then
        (fallback h.deviceId h.synced).map (ClientCall.mk client)
      else []
    | _, _ => []
  | _ => []

/-- What the clients hear at an action. -/
def tells (h : History) : Action → List ClientCall
  | .deliver t => t.target.told t.callback
  | a => h.own a

/-- What the clients hear at an action or are going to hear because of it. -/
def causes (h : History) : Action → List ClientCall
  | .send target m => target.told m
  | a => h.own a

/-- What the framework is returned at an action: for which call, and who was registered. -/
def returns (h : History) : Action → List (HalCall × Option Client × HalReply)
  | .reply v => h.pending.toList.map fun c => (c, h.client, v.translate)
  | _ => []

end History

/-! ## The code after the vendor's call -/

theorem HalCall.leave_reply {c : HalCall} {v : VendorReply} {a : BiometricsFingerprint}
    {told : List ClientCall} {ret : HalReply}
    (hlen : a.statics.knownFingers.length < UInt32.size) (h : c.leave v a = .ok (told, ret)) :
    ret = v.translate := by
  cases c with
  | cancel =>
    cases v with
    | number n => cases h
    | status raw =>
      obtain ⟨r, hr, rfl⟩ := finish_eq_ok.1 h
      simp only [BiometricsFingerprint.cancel] at hr
      split at hr
      · split at hr <;> cases hr
        rfl
      · cases hr
        rfl
  | enumerate =>
    cases v with
    | number n => cases h
    | status raw => exact (leave_told_enumerate hlen h).2
  | _ =>
    cases v <;> cases h
    all_goals rfl

/-- Only the registered client is told anything by the code after the vendor's call. -/
theorem HalCall.told_registered {a : BiometricsFingerprint} {c : HalCall} {ret : HalReply}
    {told : List ClientCall} (htold : Told a c ret told) {call : ClientCall} (hcall : call ∈ told) :
    a.client? = some call.client := by
  cases htold with
  | cancelOwn _ hc =>
    rw [List.mem_singleton.1 hcall]
    exact hc
  | enumerateOwn _ hc =>
    obtain ⟨event, -, rfl⟩ := List.mem_map.1 hcall
    exact hc
  | _ => cases hcall

variable {s s' : State} {h : History}

/-- The adapter's variables have it say what the history tells. -/
theorem Tracks.own_eq {n : Nat} {c : HalCall} {v : VendorReply} {told : List ClientCall}
    {ret : HalReply} (ht : Tracks s h) (hp : s.pending = some (n, c))
    (hleave : c.leave v s.adapter = .ok (told, ret)) : told = h.own (.reply v) := by
  have hret := HalCall.leave_reply ht.knownFingers_length hleave
  have hpend : h.pending = some c := by
    rw [← ht.pending, hp]
    rfl
  have hclient := ht.client
  simp only [History.own]
  rw [hpend, ← ht.canceled, ← ht.enumerated, ← ht.deviceId, ← ht.fingers]
  cases HalCall.leave_told ht.knownFingers_length hleave with
  | forwarded hcancel henumerate => cases c <;> first | rfl | contradiction
  | cancelReceived hflag => cases h.client <;> simp [hflag]
  | cancelOwn hflag hc =>
    rw [← hclient, hc]
    simp [hflag]
  | enumerateFailed hne =>
    rw [← hret]
    cases h.client <;> simp [hne]
  | enumerateReceived hflag => cases h.client <;> simp [hflag]
  | enumerateOwn hflag hc =>
    rw [← hclient, hc, ← hret]
    simp [hflag]

/-! ## The transcript -/

theorem Tracks.tells {a : Action} (ht : Tracks s h) (hs : Fingerprint.step s a = .ok s') :
    s'.received.map Receipt.call = s.received.map Receipt.call ++ h.tells a := by
  cases a with
  | call c =>
    obtain ⟨-, rfl⟩ := step_call_eq_ok.1 hs
    exact (List.append_nil _).symm
  | send target m =>
    obtain ⟨-, rfl⟩ := step_send_eq_ok.1 hs
    exact (List.append_nil _).symm
  | deliver t =>
    obtain ⟨-, rfl⟩ := step_deliver_eq_ok.1 hs
    simp [History.tells, Function.comp_def]
  | reply v =>
    obtain ⟨n, c, told, ret, hp, hleave, rfl⟩ := step_reply_eq_ok.1 hs
    simp [History.tells, State.finish, Function.comp_def, ht.own_eq hp hleave]

/-- A HAL call that has returned, without its number. -/
def Completed.returned (x : Completed) : HalCall × Option Client × HalReply :=
  (x.call, x.client, x.reply)

theorem Tracks.returns {a : Action} (ht : Tracks s h) (hs : Fingerprint.step s a = .ok s') :
    s'.completed.map Completed.returned = s.completed.map Completed.returned ++ h.returns a := by
  cases a with
  | call c =>
    obtain ⟨-, rfl⟩ := step_call_eq_ok.1 hs
    exact (List.append_nil _).symm
  | send target m =>
    obtain ⟨-, rfl⟩ := step_send_eq_ok.1 hs
    exact (List.append_nil _).symm
  | deliver t =>
    obtain ⟨-, rfl⟩ := step_deliver_eq_ok.1 hs
    exact (List.append_nil _).symm
  | reply v =>
    obtain ⟨n, c, told, ret, hp, hleave, rfl⟩ := step_reply_eq_ok.1 hs
    have hpend : h.pending = some c := by
      rw [← ht.pending, hp]
      rfl
    have hret := HalCall.leave_reply ht.knownFingers_length hleave
    simp [History.returns, State.finish, Completed.returned, hpend, hret, ht.client]

/-- **The adapter refines its transcript.** In every interleaving of HAL calls, vendor callbacks,
deliveries and returns, the clients have heard, in order, what was relayed to them and the adapter's
own replies as the history determines them; and every call of the framework was returned the
translation of what the vendor returned for it. -/
theorem run_transcript {acts : List Action} (hrun : run step State.init acts = .ok s) :
    s.received.map Receipt.call = emitted History.record History.tells History.init acts ∧
      s.completed.map Completed.returned =
        emitted History.record History.returns History.init acts :=
  ⟨run_emitted (fun s => s.received.map Receipt.call) (fun _ _ _ _ ht hs => ht.step hs)
      (fun _ _ _ _ ht hs => ht.tells hs) hrun Tracks.init,
    run_emitted (fun s => s.completed.map Completed.returned)
      (fun _ _ _ _ ht hs => ht.step hs) (fun _ _ _ _ ht hs => ht.returns hs) hrun Tracks.init⟩

/-- A client is replaced, and the vendor answers the `cancel()` of the new one on the object of the
old one, after it has returned. -/
def replacedClient : List Action :=
  let canceled : VendorCallback := .onError 7 Oplus.FingerprintError.ERROR_CANCELED 0
  [.call (.setNotify (some 0)), .reply (.number 7), .call (.setNotify (some 1)),
    .reply (.number 7), .call .cancel, .send ⟨some 0⟩ canceled,
    .reply (.status Oplus.RequestStatus.SYS_OK), .deliver ⟨⟨some 0⟩, canceled, some 2⟩]

theorem run_transcript_replaced :
    let s := final step State.init replacedClient
    s.received.map Receipt.call =
        emitted History.record History.tells History.init replacedClient ∧
      s.completed.map Completed.returned =
        emitted History.record History.returns History.init replacedClient :=
  run_transcript (run_eq_ok_final (by decide))

/-! ## One client's account -/

/-- The event that a callback sent by the vendor holds for a client. -/
def Action.addressed (client : Client) : Action → Option ClientEvent
  | .send target m => if target.mClientCallback = some client then m.image else none
  | _ => none

/-- The adapter's own replies to a client. -/
def ownReplies (client : Client) (acts : List Action) : List ClientEvent :=
  heardBy client (emitted History.record History.own History.init acts)

/-- What a client is going to hear of what is in flight. -/
def State.underway (s : State) (client : Client) : List ClientEvent :=
  heardBy client (s.inFlight.flatMap fun t => t.target.told t.callback)

theorem heardBy_told (client : Client) (target : OplusClientCallback) (m : VendorCallback) :
    heardBy client (target.told m) =
      (if target.mClientCallback = some client then m.image else none).toList := by
  obtain ⟨c⟩ := target
  cases c with
  | none => simp [OplusClientCallback.told, OplusClientCallback.relay, heardBy]
  | some c =>
    rw [OplusClientCallback.told_some]
    by_cases hc : c = client
    · subst hc
      simp [heardBy_map]
    · simp [heardBy, List.filterMap_map, hc]

/-- What an action causes for a client is a callback of the vendor or a reply of the adapter. -/
theorem heardBy_causes (client : Client) (h : History) (a : Action) :
    heardBy client (h.causes a) = (a.addressed client).toList ++ heardBy client (h.own a) := by
  cases a with
  | send target m =>
    rw [History.causes, heardBy_told]
    exact (List.append_nil _).symm
  | _ => rfl

theorem heardBy_accounts (s : State) (client : Client) :
    heardBy client (s.accounts.map Receipt.call) =
      heardBy client (s.received.map Receipt.call) ++ s.underway client := by
  have hflight : (s.inFlight.flatMap Transaction.receipts).map Receipt.call =
      s.inFlight.flatMap fun t => t.target.told t.callback := by
    rw [List.map_flatMap]
    simp [Transaction.receipts, Function.comp_def]
  unfold State.accounts accounted State.underway
  rw [List.map_append, hflight]
  exact List.filterMap_append

/-- What a run causes for a client, the vendor's callbacks apart from the adapter's replies. -/
theorem heardBy_emitted_causes (client : Client) (acts : List Action) :
    (heardBy client (emitted History.record History.causes History.init acts)).Perm
      (acts.filterMap (Action.addressed client) ++ ownReplies client acts) := by
  unfold ownReplies heardBy
  rw [emitted_filterMap, emitted_filterMap, ← emitted_toList History.record]
  refine List.Perm.trans (List.Perm.of_eq ?_) emitted_append_perm
  congr 1
  funext h a
  exact heardBy_causes client h a

theorem Tracks.causes {a : Action} (ht : Tracks s h) (hs : Fingerprint.step s a = .ok s') :
    (s'.accounts.map Receipt.call).Perm (s.accounts.map Receipt.call ++ h.causes a) := by
  cases a with
  | call c =>
    obtain ⟨-, rfl⟩ := step_call_eq_ok.1 hs
    simp [History.causes, History.own, State.accounts, State.begin]
  | send target m =>
    obtain ⟨-, rfl⟩ := step_send_eq_ok.1 hs
    rw [State.accounts_send, List.map_append]
    simp [Transaction.receipts, History.causes, Function.comp_def]
  | deliver t =>
    obtain ⟨hmem, rfl⟩ := step_deliver_eq_ok.1 hs
    simpa [History.causes, History.own] using (State.accounts_deliver hmem).map Receipt.call
  | reply v =>
    obtain ⟨n, c, told, ret, hp, hleave, rfl⟩ := step_reply_eq_ok.1 hs
    have hperm := (s.accounts_finish n c told ret).map Receipt.call
    rw [List.map_append, List.map_map] at hperm
    simpa [History.causes, Function.comp_def, ht.own_eq hp hleave] using hperm

/-- Whoever is registered, can be called back or is called was named by a `setNotify` before. -/
structure Introduced (s : State) (past : List Action) : Prop where
  registered : ∀ client, s.adapter.client? = some client →
    .call (.setNotify (some client)) ∈ past
  handed : ∀ cb ∈ s.handed, ∀ client, cb.mClientCallback = some client →
    .call (.setNotify (some client)) ∈ past
  accounts : ∀ r ∈ s.accounts, .call (.setNotify (some r.call.client)) ∈ past

namespace Introduced

variable {past : List Action}

theorem init : Introduced State.init [] := by
  refine ⟨?_, ?_, ?_⟩ <;> simp [State.init, State.accounts, accounted,
    BiometricsFingerprint.client?]

theorem mono {past' : List Action} (hi : Introduced s past) (hsub : past ⊆ past') :
    Introduced s past' :=
  ⟨fun client hc => hsub (hi.registered client hc),
    fun cb hcb client hc => hsub (hi.handed cb hcb client hc),
    fun r hr => hsub (hi.accounts r hr)⟩

/-- A `setNotify` makes and hands out one object, around the client it names. -/
theorem call (hi : Introduced s past) (c : HalCall) :
    Introduced (s.begin c) (past ++ [.call c]) := by
  have hold := hi.mono (List.subset_append_left past [.call c])
  cases c with
  | setNotify new =>
    refine ⟨?_, ?_, hold.accounts⟩
    · intro client hc
      have hnew : new = some client := hc
      rw [hnew]
      exact List.mem_append_right _ (List.mem_singleton_self _)
    · intro cb hcb client hc
      rcases List.mem_append.1 hcb with hcb | hcb
      · exact hold.handed cb hcb client hc
      · rw [List.mem_singleton.1 hcb] at hc
        have hnew : new = some client := hc
        rw [hnew]
        exact List.mem_append_right _ (List.mem_singleton_self _)
  | _ => exact ⟨hold.registered, hold.handed, hold.accounts⟩

theorem send (hi : Introduced s past) {target : OplusClientCallback} (m : VendorCallback)
    (htarget : target ∈ s.handed) : Introduced (s.send target m) past := by
  refine ⟨hi.registered, hi.handed, fun r hr => ?_⟩
  rw [State.accounts_send] at hr
  rcases List.mem_append.1 hr with hr | hr
  · exact hi.accounts r hr
  · obtain ⟨call, hcall, rfl⟩ := List.mem_map.1 hr
    obtain ⟨c⟩ := target
    cases c with
    | none => simp [OplusClientCallback.told, OplusClientCallback.relay] at hcall
    | some client =>
      rw [OplusClientCallback.told_some] at hcall
      obtain ⟨event, -, rfl⟩ := List.mem_map.1 hcall
      exact hi.handed _ htarget client rfl

theorem step {a : Action} (hi : Introduced s past) (ht : Tracks s h)
    (hs : Fingerprint.step s a = .ok s') : Introduced s' (past ++ [a]) := by
  cases a with
  | call c =>
    obtain ⟨-, rfl⟩ := step_call_eq_ok.1 hs
    exact hi.call c
  | send target m =>
    obtain ⟨htarget, rfl⟩ := step_send_eq_ok.1 hs
    exact (hi.send m htarget).mono (List.subset_append_left _ _)
  | deliver t =>
    obtain ⟨hmem, rfl⟩ := step_deliver_eq_ok.1 hs
    refine mono ⟨hi.registered, hi.handed, fun r hr => ?_⟩ (List.subset_append_left _ _)
    exact hi.accounts r ((State.accounts_deliver hmem).mem_iff.1 hr)
  | reply v =>
    obtain ⟨n, c, told, ret, hp, hleave, rfl⟩ := step_reply_eq_ok.1 hs
    refine mono ⟨hi.registered, hi.handed, fun r hr => ?_⟩ (List.subset_append_left _ _)
    rcases List.mem_append.1 ((s.accounts_finish n c told ret).mem_iff.1 hr) with hr | hr
    · exact hi.accounts r hr
    · obtain ⟨call, hcall, rfl⟩ := List.mem_map.1 hr
      exact hi.registered _
        (HalCall.told_registered (HalCall.leave_told ht.knownFingers_length hleave) hcall)

end Introduced

/-- **Every callback reaches its client once, and no one else.** What a client has heard and is
still going to hear is, up to order, what the vendor sent on the objects that stand for this client,
with the adapter's own replies to it; and a client is called only after a `setNotify` named it. -/
theorem clients_hear {acts : List Action} (hrun : run step State.init acts = .ok s) :
    (∀ client, (heardBy client (s.received.map Receipt.call) ++ s.underway client).Perm
      (acts.filterMap (Action.addressed client) ++ ownReplies client acts)) ∧
    ∀ r ∈ s.received, .call (.setNotify (some r.call.client)) ∈ acts := by
  constructor
  · intro client
    have hall : (s.accounts.map Receipt.call).Perm
        (emitted History.record History.causes History.init acts) :=
      run_emitted_perm (fun s => s.accounts.map Receipt.call)
        (fun _ _ _ _ ht hs => ht.step hs) (fun _ _ _ _ ht hs => ht.causes hs) hrun Tracks.init
    rw [← heardBy_accounts]
    exact (hall.filterMap _).trans (heardBy_emitted_causes client acts)
  · have hboth := run_past (R := fun s past => Introduced s past ∧ ∃ h, Tracks s h)
      (fun s past a s' ⟨hi, h, ht⟩ hs => ⟨hi.step ht hs, _, ht.step hs⟩) hrun
      ⟨Introduced.init, _, Tracks.init⟩
    intro r hr
    exact hboth.1.accounts r (List.mem_append_left _ hr)

theorem clients_hear_replaced :
    let s := final step State.init replacedClient
    (∀ client, (heardBy client (s.received.map Receipt.call) ++ s.underway client).Perm
      (replacedClient.filterMap (Action.addressed client) ++ ownReplies client replacedClient)) ∧
    ∀ r ∈ s.received, .call (.setNotify (some r.call.client)) ∈ replacedClient :=
  clients_hear (run_eq_ok_final (by decide))

end RMX2020.Fingerprint
