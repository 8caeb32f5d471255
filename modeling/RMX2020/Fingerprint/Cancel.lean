import RMX2020.Fingerprint.Transcript

/-!
# One answer per cancel

`cancel` answers the client itself if `receivedCancel` is still clear when the vendor's call
returns. The flag is one variable for all callback objects, and the vendor's own
`onError(ERROR_CANCELED)` is a one-way call that may arrive later. `cancel_once`: the client gets
exactly one answer per call in every run where, at that moment, the flag says whether the vendor has
answered this client, and the vendor sends it nothing unasked. Each way it can go wrong is reached:
two answers if the vendor's is late or nobody called `cancel`, none if it went to an earlier client
(`cancel_answered_twice_or_never`).
-/

namespace RMX2020.Fingerprint

open Machine

/-- An `onError(ERROR_CANCELED)`. -/
def ClientEvent.isCanceled : ClientEvent → Bool
  | .onError _ error _ => error = .ERROR_CANCELED
  | _ => false

/-- How many of the events are an `onError(ERROR_CANCELED)`. -/
def cancels (events : List ClientEvent) : Nat := events.countP ClientEvent.isCanceled

theorem cancels_perm {es es' : List ClientEvent} (h : es.Perm es') : cancels es = cancels es' :=
  h.countP_eq _

theorem cancels_append (es es' : List ClientEvent) :
    cancels (es ++ es') = cancels es + cancels es' := List.countP_append

theorem cancels_heardBy_append (client : Client) (calls calls' : List ClientCall) :
    cancels (heardBy client (calls ++ calls')) =
      cancels (heardBy client calls) + cancels (heardBy client calls') := by
  unfold heardBy
  rw [List.filterMap_append, cancels_append]

theorem cancels_heardBy_perm (client : Client) {calls calls' : List ClientCall}
    (h : calls.Perm calls') : cancels (heardBy client calls) = cancels (heardBy client calls') :=
  cancels_perm (h.filterMap _)

theorem cancels_own (client : Client) (deviceId : UInt64) :
    cancels (heardBy client [⟨client, .onError deviceId .ERROR_CANCELED 0⟩]) = 1 := by
  simp [heardBy, cancels, ClientEvent.isCanceled]

/-- An answer of the vendor, on a callback object of this client. -/
def isCancelOf (client : Client) (p : OplusClientCallback × VendorCallback) : Bool :=
  p.2.isCanceled && p.1.mClientCallback = some client

/-- A callback cancels towards a client if it is an `ERROR_CANCELED` on an object of that client:
no other code is translated into it. -/
theorem cancels_told (client : Client) (p : OplusClientCallback × VendorCallback) :
    cancels (heardBy client (p.1.told p.2)) = if isCancelOf client p then 1 else 0 := by
  obtain ⟨⟨c⟩, m⟩ := p
  cases c with
  | none => simp [OplusClientCallback.told, OplusClientCallback.relay, heardBy, cancels, isCancelOf]
  | some c =>
    rw [OplusClientCallback.told_some]
    by_cases hc : c = client
    · subst hc
      rw [heardBy_map]
      cases m <;> simp [VendorCallback.image, cancels, ClientEvent.isCanceled, isCancelOf,
        VendorCallback.isCanceled, List.countP_cons, OplusToAOSPFingerprintError_canceled_iff]
    · simp [heardBy, List.filterMap_map, hc, cancels, isCancelOf]

theorem History.cancels_servedTo (h : History) (client : Client) :
    cancels (h.servedTo client) = h.served.countP (isCancelOf client) := by
  unfold History.servedTo
  induction h.served with
  | nil => rfl
  | cons p rest ih =>
    rw [List.flatMap_cons, cancels_append, cancels_told, ih, List.countP_cons, Nat.add_comm]

/-- The vendor emits at most one `ERROR_CANCELED` for each `cancel()` it serves. -/
def VendorCancels (h : History) : Action → Prop
  | .send _ m => m.isCanceled → h.pending = some .cancel → ∀ p ∈ h.served, p.2.isCanceled = false
  | _ => True

instance (h : History) : ∀ a, Decidable (VendorCancels h a)
  | .send _ m => inferInstanceAs (Decidable (m.isCanceled → _ → ∀ p ∈ h.served, _))
  | .call _ | .deliver _ | .reply _ => inferInstanceAs (Decidable True)

/-- The registered client is sent an `ERROR_CANCELED` only while a `cancel()` is served, no client
is registered that was sent one without being it, and when the vendor's `cancel()` returns, one has
been delivered since it was called if and only if the vendor has answered the registered client. -/
def CancelTimely (h : History) : Action → Prop
  | .send target m => m.isCanceled → ∀ client ∈ h.client, target.mClientCallback = some client →
      h.pending = some .cancel
  | .call (.setNotify new) => ∀ client ∈ new, client ∉ h.misaddressed
  | .reply (.status _) => h.pending = some .cancel → ∀ client ∈ h.client,
      (h.cancelArrived ↔ ∃ p ∈ h.served, isCancelOf client p)
  | _ => True

instance (h : History) : ∀ a, Decidable (CancelTimely h a)
  | .send target m => inferInstanceAs (Decidable (m.isCanceled → ∀ client ∈ h.client,
      target.mClientCallback = some client → _))
  | .call (.setNotify new) => inferInstanceAs (Decidable (∀ client ∈ new, _))
  | .reply (.status _) => inferInstanceAs (Decidable (h.pending = some .cancel →
      ∀ client ∈ h.client, (_ ↔ ∃ p ∈ h.served, isCancelOf client p)))
  | .call .preEnroll | .call (.enroll ..) | .call .postEnroll | .call .getAuthenticatorId
  | .call .cancel | .call .enumerate | .call (.remove ..) | .call (.setActiveGroup ..)
  | .call (.authenticate ..) | .reply (.number _) | .deliver _ => inferInstanceAs (Decidable True)

/-- How many `cancel()` calls have returned to a client that was registered then. -/
def cancelCalls (client : Client) (completed : List Completed) : Nat :=
  completed.countP fun x => x.call = .cancel ∧ x.client = some client

/-- After the run, every `cancel()` whose messages have all been delivered has brought the client
exactly one `onError(ERROR_CANCELED)`; and between calls, the client of the latest `setNotify()` has
received and is still going to receive one for each `cancel()` it was registered for, counting all
that reach it in the run. -/
def CancelOnce (acts : List Action) : Prop :=
  ∀ s, run step State.init acts = .ok s →
    (∀ x ∈ s.completed, x.call = .cancel → ∀ client, x.client = some client →
      s.Settled x.number → cancels (s.heard x.number client) = 1) ∧
    ∀ client, s.adapter.client? = some client → s.pending = none →
      cancels (heardBy client (s.received.map Receipt.call)) + cancels (s.underway client) =
        cancelCalls client s.completed

/-- The vendor has answered a pending `cancel()` at most once. -/
def AnsweredOnce (h : History) : Prop :=
  h.pending = some .cancel → h.served.countP (fun p => p.2.isCanceled) ≤ 1

theorem AnsweredOnce.record {h : History} {a : Action} (hi : AnsweredOnce h)
    (hC : VendorCancels h a) : AnsweredOnce (h.record a) := by
  intro hpend
  cases a with
  | send target m =>
    have hpend : h.pending = some .cancel := hpend
    simp only [History.record, hpend, Option.isSome_some, if_true, List.countP_append,
      List.countP_singleton]
    by_cases hm : m.isCanceled
    · have hnone : h.served.countP (fun p => p.2.isCanceled) = 0 := by
        apply List.countP_eq_zero.2
        intro p hmem
        simp [hC hm hpend p hmem]
      rw [hnone]
      split <;> omega
    · simpa [hm] using hi hpend
  | call c => exact Nat.zero_le _
  | deliver t => exact hi hpend
  | reply v => cases hpend

/-- A client has one answer of the vendor or none. -/
theorem AnsweredOnce.cancels_servedTo {h : History} (hi : AnsweredOnce h)
    (hpend : h.pending = some .cancel) (client : Client) :
    cancels (h.servedTo client) = if ∃ p ∈ h.served, isCancelOf client p then 1 else 0 := by
  have hle : h.served.countP (isCancelOf client) ≤ 1 := by
    refine Nat.le_trans (List.countP_mono_left fun p _ hp => ?_) (hi hpend)
    simp only [isCancelOf, Bool.and_eq_true] at hp
    exact hp.1
  rw [h.cancels_servedTo]
  by_cases hex : ∃ p ∈ h.served, isCancelOf client p
  · have hpos := List.countP_pos_iff.2 hex
    rw [if_pos hex]
    omega
  · rw [if_neg hex, List.countP_eq_zero]
    intro p hp hc
    exact hex ⟨p, hp, hc⟩

/-- When a `cancel()` returns, one answer in all is owed exactly if the flag is right. -/
theorem cancel_owed_once_iff {s : State} {h : History} {ret : HalReply} {told : List ClientCall}
    {client : Client} (ht : Tracks s h) (hi : AnsweredOnce h)
    (hpend : h.pending = some .cancel) (htold : Told s.adapter .cancel ret told)
    (hclient : s.adapter.client? = some client) :
    cancels (h.servedTo client ++ heardBy client told) = 1 ↔
      (h.cancelArrived ↔ ∃ p ∈ h.served, isCancelOf client p) := by
  rw [cancels_append, hi.cancels_servedTo hpend, ← ht.canceled]
  cases htold with
  | forwarded hne => exact absurd rfl hne
  | cancelReceived hflag =>
    have hnil : cancels (heardBy client []) = 0 := rfl
    simp [hflag, hnil]
  | cancelOwn hflag hc =>
    rw [hclient] at hc
    cases hc
    rw [cancels_own]
    simp [hflag]

/-! ## All that reaches the registered client -/

/-- No other code tells a client of an `ERROR_CANCELED`. -/
theorem Told.cancels_eq_zero {a : BiometricsFingerprint} {c : HalCall} {ret : HalReply}
    {told : List ClientCall} {client : Client} (htold : Told a c ret told)
    (hother : ¬ (c = .cancel ∧ a.client? = some client)) : cancels (heardBy client told) = 0 := by
  cases htold with
  | @cancelOwn _ other _ hc =>
    have hne : other ≠ client := by
      rintro rfl
      exact hother ⟨rfl, hc⟩
    simp [heardBy, cancels, hne]
  | enumerateOwn _ hc =>
    apply List.countP_eq_zero.2
    intro event hevent
    obtain ⟨call, hcall, hheard⟩ := List.mem_filterMap.1 hevent
    obtain ⟨listed, hlisted, rfl⟩ := List.mem_map.1 hcall
    split at hheard
    · cases hheard
      obtain ⟨finger, left, rfl⟩ := mem_fallback hlisted
      exact Bool.false_ne_true
    · cases hheard
  | _ => rfl

/-- What the vendor has sent a registered client while serving a pending `cancel()`. -/
def History.cancelServed (h : History) (client : Client) : Nat :=
  if h.pending = some .cancel ∧ h.client = some client then h.served.countP (isCancelOf client)
  else 0

/-- The registered client has been sent no `ERROR_CANCELED` in anyone else's place, and a client of
which this is true is accounted one for each of its calls, besides the vendor's answer to the
pending one. -/
structure Tallied (s : State) (h : History) : Prop where
  registered : ∀ client ∈ h.client, client ∉ h.misaddressed
  tally : ∀ client, client ∉ h.misaddressed →
    cancels (heardBy client (s.accounts.map Receipt.call)) =
      cancelCalls client s.completed + h.cancelServed client

namespace Tallied

variable {s s' : State} {h : History}

theorem init : Tallied State.init History.init := by
  refine ⟨fun client hc => ?_, fun client _ => rfl⟩
  cases hc

theorem call (hi : Tallied s h) (hp : h.pending = none) {c : HalCall}
    (hC : CancelTimely h (.call c)) : Tallied (s.begin c) (h.record (.call c)) := by
  refine ⟨fun client hc => ?_, fun client hclient => ?_⟩
  · cases c with
    | setNotify new => exact hC client hc
    | _ => exact hi.registered client hc
  · have hbefore : h.cancelServed client = 0 := by simp [History.cancelServed, hp]
    have hafter : (h.record (.call c)).cancelServed client = 0 := by
      simp [History.cancelServed, History.record]
    rw [hafter, ← hbefore]
    exact hi.tally client hclient

/-- A callback counts for the pending `cancel()`, or it goes to a client that is not registered. -/
theorem send (hi : Tallied s h) {target : OplusClientCallback} {m : VendorCallback}
    (hC : CancelTimely h (.send target m)) :
    Tallied (s.send target m) (h.record (.send target m)) := by
  have hkept : ∀ client, client ∉ (h.record (.send target m)).misaddressed →
      client ∉ h.misaddressed := by
    intro client hnot hmem
    apply hnot
    simp only [History.record]
    split
    · exact List.mem_append_right _ hmem
    · exact hmem
  refine ⟨fun client hc => ?_, fun client hclient => ?_⟩
  · have hc : h.client = some client := hc
    simp only [History.record]
    split
    · next hmis =>
      rw [hc] at hmis
      simp [hmis.2, hi.registered client hc]
    · exact hi.registered client hc
  · have hcount : (h.record (.send target m)).cancelServed client =
        h.cancelServed client + if isCancelOf client (target, m) then 1 else 0 := by
      by_cases hserving : h.pending = some .cancel ∧ h.client = some client
      · obtain ⟨hp, hc⟩ := hserving
        simp [History.cancelServed, History.record, hp, hc, List.countP_append,
          List.countP_singleton]
      · have hnone : isCancelOf client (target, m) = false := by
          by_contra hcancel
          simp only [isCancelOf, Bool.not_eq_false, Bool.and_eq_true, decide_eq_true_eq] at hcancel
          obtain ⟨hm, htarget⟩ := hcancel
          by_cases hc : h.client = some client
          · exact hserving ⟨hC hm client hc htarget, hc⟩
          · have hmis : ¬ some client = h.client := Ne.symm hc
            exact hclient (by simp [History.record, hm, hmis, htarget])
        simp [History.cancelServed, History.record, hserving, hnone]
    have hacc : cancels (heardBy client ((s.send target m).accounts.map Receipt.call)) =
        cancels (heardBy client (s.accounts.map Receipt.call)) +
          if isCancelOf client (target, m) then 1 else 0 := by
      rw [State.accounts_send, List.map_append, cancels_heardBy_append, ← cancels_told]
      simp [Transaction.receipts, Function.comp_def]
    rw [hacc, hi.tally client (hkept client hclient), hcount]
    exact Nat.add_assoc _ _ _

/-- When a call returns, the vendor's answer and the adapter's own become one completed answer. -/
theorem reply (hi : Tallied s h) (ht : Tracks s h) (honce : AnsweredOnce h) {v : VendorReply}
    (hC : CancelTimely h (.reply v)) {n : Nat} {c : HalCall} {told : List ClientCall}
    {ret : HalReply} (hp : s.pending = some (n, c))
    (hleave : c.leave v s.adapter = .ok (told, ret)) :
    Tallied (s.finish n c told ret) (h.record (.reply v)) := by
  have hpend : h.pending = some c := by
    rw [← ht.pending, hp]
    rfl
  refine ⟨hi.registered, fun client hclient => ?_⟩
  have hafter : (h.record (.reply v)).cancelServed client = 0 := by
    simp [History.cancelServed, History.record]
  have hacc : cancels (heardBy client ((s.finish n c told ret).accounts.map Receipt.call)) =
      cancels (heardBy client (s.accounts.map Receipt.call)) + cancels (heardBy client told) := by
    have hperm := (s.accounts_finish n c told ret).map Receipt.call
    rw [cancels_heardBy_perm client hperm, List.map_append, cancels_heardBy_append]
    simp [Function.comp_def]
  have hcalls : cancelCalls client (s.finish n c told ret).completed =
      cancelCalls client s.completed +
        if c = .cancel ∧ s.adapter.client? = some client then 1 else 0 := by
    simp [cancelCalls, State.finish, List.countP_append, List.countP_singleton]
  rw [hacc, hi.tally client hclient, hcalls, hafter]
  by_cases hanswered : c = .cancel ∧ s.adapter.client? = some client
  · obtain ⟨rfl, hc⟩ := hanswered
    have hmem : client ∈ h.client := by
      rw [← ht.client]
      exact hc
    cases v with
    | number value => cases hleave
    | status raw =>
      have hone := (cancel_owed_once_iff ht honce hpend (HalCall.leave_told_cancel hleave) hc).2
        (hC hpend client hmem)
      rw [cancels_append, h.cancels_servedTo] at hone
      have hserved : h.cancelServed client = h.served.countP (isCancelOf client) :=
        if_pos ⟨hpend, hmem⟩
      rw [if_pos ⟨rfl, hc⟩, hserved]
      omega
  · have hnone := (HalCall.leave_told ht.knownFingers_length hleave).cancels_eq_zero hanswered
    have hserved : h.cancelServed client = 0 := by
      refine if_neg fun hboth => hanswered ⟨?_, ht.client.trans hboth.2⟩
      exact Option.some.inj (hpend.symm.trans hboth.1)
    rw [if_neg hanswered, hnone, hserved]

theorem step {a : Action} (hi : Tallied s h) (ht : Tracks s h) (honce : AnsweredOnce h)
    (hC : CancelTimely h a) (hs : Fingerprint.step s a = .ok s') : Tallied s' (h.record a) := by
  cases a with
  | call c =>
    obtain ⟨hp, rfl⟩ := step_call_eq_ok.1 hs
    have hpend : h.pending = none := by
      rw [← ht.pending, hp]
      rfl
    exact hi.call hpend hC
  | send target m =>
    obtain ⟨-, rfl⟩ := step_send_eq_ok.1 hs
    exact hi.send hC
  | deliver t =>
    obtain ⟨hmem, rfl⟩ := step_deliver_eq_ok.1 hs
    refine ⟨hi.registered, fun client hclient => ?_⟩
    rw [cancels_heardBy_perm client ((State.accounts_deliver hmem).map Receipt.call)]
    exact hi.tally client hclient
  | reply v =>
    obtain ⟨n, c, told, ret, hp, hleave, rfl⟩ := step_reply_eq_ok.1 hs
    exact hi.reply ht honce hC hp hleave

end Tallied

theorem run_tallied {s : State} {acts : List Action} (hrun : run step State.init acts = .ok s)
    (hC : Along History.record (fun h a => VendorCancels h a ∧ CancelTimely h a)
      History.init acts) :
    Tracks s (acts.foldl History.record History.init) ∧
      Tallied s (acts.foldl History.record History.init) := by
  have hall : (Tracks s (acts.foldl History.record History.init) ∧
      AnsweredOnce (acts.foldl History.record History.init)) ∧
      Tallied s (acts.foldl History.record History.init) := by
    refine run_along (R := fun s h => (Tracks s h ∧ AnsweredOnce h) ∧ Tallied s h) ?_ hrun hC
      ⟨⟨Tracks.init, fun _ => Nat.zero_le _⟩, Tallied.init⟩
    rintro s h a s' ⟨⟨ht, honce⟩, hi⟩ hc hs
    exact ⟨⟨ht.step hs, honce.record hc.1⟩, hi.step ht honce hc.2 hs⟩
  exact ⟨hall.1.1, hall.2⟩

/-! ## Both counts -/

/-- Every `cancel()` has brought its client one answer, once all its messages are delivered. -/
theorem run_completed_once {s : State} {acts : List Action}
    (hrun : run step State.init acts = .ok s)
    (hC : Along History.record (fun h a => VendorCancels h a ∧ CancelTimely h a)
      History.init acts) :
    CompletedGood (fun x events => x.call = .cancel → cancels events = 1) s := by
  refine run_completed (I := fun _ h => AnsweredOnce h) (fun _ => Nat.zero_le _) ?_ ?_ ?_ hrun hC
  · intro s h a s' hi hC hs
    exact hi.record hC.1
  · intro x es es' hperm hone hc
    rw [← cancels_perm hperm]
    exact hone hc
  · intro s h v n c told ret client hl hi hC hp hleave hclient hc
    cases (show c = .cancel from hc)
    have hpend : h.pending = some .cancel := by
      rw [← hl.tracks.pending, hp]
      rfl
    have hmem : client ∈ h.client := by
      rw [← hl.tracks.client]
      exact hclient
    cases v with
    | number value => cases hleave
    | status raw =>
      have htold := HalCall.leave_told_cancel hleave
      exact (cancel_owed_once_iff hl.tracks hi hpend htold hclient).2 (hC.2 hpend client hmem)

/-- **Each `cancel()` is answered exactly once**, in every run where the flag is right whenever the
vendor's `cancel()` returns and the vendor sends no `ERROR_CANCELED` unasked. -/
theorem cancel_once (acts : List Action)
    (hvendor : Along History.record VendorCancels History.init acts)
    (htimely : Along History.record CancelTimely History.init acts) : CancelOnce acts := by
  intro s hrun
  have hC := hvendor.and htimely
  constructor
  · intro x hx hcall client hclient hsettled
    rw [← State.owed_eq_heard hsettled]
    exact run_completed_once hrun hC x hx client hclient hcall
  · intro client hclient hpending
    obtain ⟨ht, hi⟩ := run_tallied hrun hC
    have hregistered := hi.registered client (ht.client.symm.trans hclient)
    have hidle : (acts.foldl History.record History.init).cancelServed client = 0 := by
      simp [History.cancelServed, ← ht.pending, hpending]
    rw [← cancels_append, ← heardBy_accounts, hi.tally client hregistered, hidle, Nat.add_zero]

/-- A client registered, then a `cancel()` that the vendor serves with `during` and that is followed
by `after`. -/
def cancelRun (during after : List Action) : List Action :=
  [.call (.setNotify (some 0)), .reply (.number 7), .call .cancel] ++ during ++
    [.reply (.status Oplus.RequestStatus.SYS_OK)] ++ after

/-- The vendor's answer to a `cancel()`, on the callback object of a client. -/
def vendorCanceled : VendorCallback := .onError 7 Oplus.FingerprintError.ERROR_CANCELED 0

theorem cancel_once_relayed :
    CancelOnce (cancelRun [.send ⟨some 0⟩ vendorCanceled,
      .deliver ⟨⟨some 0⟩, vendorCanceled, some 1⟩] []) :=
  cancel_once _ (by decide) (by decide)

/-- The vendor's answer is delivered after the test and the client gets two; or it goes to the
client registered before and the new one gets none; or the vendor sends another one that no
`cancel()` asked for. -/
theorem cancel_answered_twice_or_never :
    let late := cancelRun [.send ⟨some 0⟩ vendorCanceled]
      [.deliver ⟨⟨some 0⟩, vendorCanceled, some 1⟩]
    let stale := [.call (.setNotify (some 1)), .reply (.number 7)] ++
      cancelRun [.send ⟨some 1⟩ vendorCanceled, .deliver ⟨⟨some 1⟩, vendorCanceled, some 2⟩] []
    let unasked := cancelRun [] [.send ⟨some 0⟩ vendorCanceled,
      .deliver ⟨⟨some 0⟩, vendorCanceled, none⟩]
    (Along History.record VendorCancels History.init late ∧ ¬ CancelOnce late) ∧
      (Along History.record VendorCancels History.init stale ∧ ¬ CancelOnce stale) ∧
      Along History.record VendorCancels History.init unasked ∧ ¬ CancelOnce unasked := by
  intro late stale unasked
  refine ⟨⟨by decide, fun h => ?_⟩, ⟨by decide, fun h => ?_⟩, by decide, fun h => ?_⟩
  · have htwo := (h (final step State.init late) (by decide)).1
      ⟨1, .cancel, some 0, .status .SYS_OK⟩ (by decide) rfl 0 rfl (by decide)
    exact absurd htwo (by decide)
  · have hzero := (h (final step State.init stale) (by decide)).1
      ⟨2, .cancel, some 0, .status .SYS_OK⟩ (by decide) rfl 0 rfl (by decide)
    exact absurd hzero (by decide)
  · have htwo := (h (final step State.init unasked) (by decide)).2 0 (by decide) (by decide)
    exact absurd htwo (by decide)

end RMX2020.Fingerprint
