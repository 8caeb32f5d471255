import RMX2020.Fingerprint.History

/-!
# What the adapter says on its own account

`cancel` and `enumerate` answer the client from the statics `myDeviceId` and `knownFingers`, which
one vendor callback writes: `onSyncTemplates`. So the fallback enumeration is the list of the last
sync, whatever was enrolled or removed since (`fallback_is_last_sync`), and the replies carry the
device id of that sync and the constant group 0 (`own_replies_identity`).
-/

namespace RMX2020.Fingerprint

open Machine

/-- What the clients are told by the step from `s` to `s'`, in order. -/
def State.newEvents (s s' : State) : List ClientEvent :=
  (s'.received.drop s.received.length).map fun r => r.call.event

theorem newEvents_finish (s : State) (n : Nat) (c : HalCall) (told : List ClientCall)
    (ret : HalReply) : s.newEvents (s.finish n c told ret) = told.map ClientCall.event := by
  simp only [State.newEvents, State.finish, List.drop_left, List.map_map]
  rfl

/-- The finger ids an enumeration reports, in order. -/
def fingers (events : List ClientEvent) : List UInt32 :=
  events.filterMap fun
    | .onEnumerate _ f _ _ => some f
    | _ => none

theorem fingers_countdown (deviceId : UInt64) (ids : List UInt32) :
    fingers (countdown deviceId ids) = ids := by
  induction ids with
  | nil => rfl
  | cons f rest ih =>
    have hcons : fingers (countdown deviceId (f :: rest)) =
      f :: fingers (countdown deviceId rest) := rfl
    rw [hcons, ih]

theorem fingers_fallback (deviceId : UInt64) (ids : List UInt32) :
    fingers (fallback deviceId ids) = if ids = [] then [0] else ids := by
  cases ids with
  | nil => rfl
  | cons f rest => simpa [fallback] using fingers_countdown deviceId (f :: rest)

/-! ## The fallback list -/

/-- Until an enrolment or a removal arrives, the announced templates are those of the last sync. -/
def History.Unchanged (h : History) : Prop := h.changed = false → h.announced = h.synced.toFinset

theorem History.Unchanged.record {h : History} (hu : h.Unchanged) (a : Action) :
    (h.record a).Unchanged := by
  cases a with
  | deliver t =>
    intro hc
    obtain ⟨target, m, during⟩ := t
    cases m with
    | onSyncTemplates d ids r => rfl
    | onRemoved d f g r => cases hc
    | onEnrollResult d f g r =>
      simp only [History.record, VendorCallback.changed, Bool.or_eq_false_iff,
        decide_eq_false_iff_not] at hc
      simpa [History.record, VendorCallback.announced, VendorCallback.sync, History.synced, hc.2]
        using hu hc.1
    | _ => exact hu hc
  | _ => exact hu

theorem run_unchanged {s : State} {acts : List Action} (hrun : run step State.init acts = .ok s) :
    (acts.foldl History.record History.init).Unchanged :=
  run_history (R := fun _ (h : History) => h.Unchanged) (fun _ _ a _ hu _ => hu.record a) hrun
    fun _ => rfl

/-- The step in which `enumerate` falls back on its own list. -/
structure FallsBack (pre : List Action) (s s' : State) (raw : Oplus.RequestStatus) : Prop where
  run : run step State.init pre = .ok s
  step : step s (.reply (.status raw)) = .ok s'
  pending : (pre.foldl History.record History.init).pending = some .enumerate
  ok : OplusToAOSPRequestStatus raw = .SYS_OK
  silent : (pre.foldl History.record History.init).enumerateArrived = false

theorem FallsBack.newEvents {pre : List Action} {s s' : State} {raw : Oplus.RequestStatus}
    (hf : FallsBack pre s s' raw) :
    s.newEvents s' = fallback (pre.foldl History.record History.init).deviceId
      (pre.foldl History.record History.init).synced := by
  have ht := run_tracks hf.run
  obtain ⟨n, c, told, ret, hp, hl, rfl⟩ := step_reply_eq_ok.1 hf.step
  have hc : c = .enumerate := by
    have hpend := ht.pending
    rw [hp, hf.pending] at hpend
    exact Option.some.inj hpend
  subst hc
  rw [newEvents_finish, ← ht.deviceId, ← ht.fingers]
  obtain ⟨htold, rfl⟩ := HalCall.leave_told_enumerate ht.knownFingers_length hl
  rw [hf.ok] at htold
  cases htold with
  | forwarded _ hne => exact absurd rfl hne
  | enumerateFailed hne => exact absurd rfl hne
  | enumerateReceived hset =>
    rw [ht.enumerated, hf.silent] at hset
    cases hset
  | enumerateOwn _ _ => simp [Function.comp_def]

/-- **The fallback enumeration is the last sync.** The adapter reports the ids of the last
`onSyncTemplates`, in order, and the single id 0 if that list is empty or none has arrived. As long
as no enrolment and no removal has been delivered since, they are the templates announced. -/
theorem fallback_is_last_sync {pre : List Action} {s s' : State} {raw : Oplus.RequestStatus}
    (hf : FallsBack pre s s' raw) :
    let h := pre.foldl History.record History.init
    fingers (s.newEvents s') = (if h.synced = [] then [0] else h.synced) ∧
      (h.changed = false → h.synced ≠ [] → (fingers (s.newEvents s')).toFinset = h.announced) := by
  intro h
  have hids : fingers (s.newEvents s') = if h.synced = [] then [0] else h.synced := by
    rw [hf.newEvents, fingers_fallback]
  refine ⟨hids, fun hc hne => ?_⟩
  rw [hids, if_neg hne, run_unchanged hf.run hc]

/-- A client registered, templates 1 and 2 synced, then `more`, then an enumeration begins. -/
def enumerateAfter (more : List Action) : List Action :=
  let cb : OplusClientCallback := ⟨some 0⟩
  let sync : VendorCallback := .onSyncTemplates 7 ⟨[1, 2], by decide⟩ 0
  [.call (.setNotify (some 0)), .reply (.number 7), .send cb sync, .deliver ⟨cb, sync, none⟩] ++
    more ++ [.call .enumerate]

theorem fallback_is_last_sync_two :
    let pre := enumerateAfter []
    let s := final step State.init pre
    let s' := final step State.init (pre ++ [.reply (.status 0)])
    let h := pre.foldl History.record History.init
    fingers (s.newEvents s') = (if h.synced = [] then [0] else h.synced) ∧
      (h.changed = false → h.synced ≠ [] → (fingers (s.newEvents s')).toFinset = h.announced) :=
  @fallback_is_last_sync _ _ _ 0 ⟨by decide, by decide, by decide, by decide, by decide⟩

/-- Template 2 is removed before the enumeration, and reported all the same. -/
theorem removed_template_reported :
    ¬ ∀ (pre : List Action) (s s' : State) (raw : Oplus.RequestStatus), FallsBack pre s s' raw →
      (fingers (s.newEvents s')).toFinset =
        (pre.foldl History.record History.init).announced := by
  intro h
  let cb : OplusClientCallback := ⟨some 0⟩
  let removed : VendorCallback := .onRemoved 7 2 0 0
  let pre := enumerateAfter [.send cb removed, .deliver ⟨cb, removed, none⟩]
  have hf : FallsBack pre (final step State.init pre)
      (final step State.init (pre ++ [.reply (.status 0)])) 0 :=
    ⟨by decide, by decide, by decide, by decide, by decide⟩
  exact absurd (h _ _ _ _ hf) (by decide)

/-! ## The identity of the replies -/

/-- The device id a callback of the vendor carries. -/
def VendorCallback.deviceId? : VendorCallback → Option UInt64
  | onEnrollResult d .. | onAcquired d .. | onAuthenticated d .. | onError d .. | onRemoved d ..
  | onEnumerate d .. | onTouchUp d | onTouchDown d | onSyncTemplates d .. => some d
  | _ => none

/-- The vendor uses one device id: `setNotify` returns it, and every callback carries it. -/
def OneDevice (d : UInt64) (h : History) : Action → Prop
  | .reply (.number value) => ∀ c, h.pending = some (.setNotify c) → value = d
  | .send _ m => ∀ d' ∈ m.deviceId?, d' = d
  | _ => True

/-- An event carries the device of the session and the group of the latest `setActiveGroup` that
returned `SYS_OK`, if there was one. -/
def SessionIdentity (d : UInt64) (h : History) : ClientEvent → Prop
  | .onError d' _ _ => d' = d
  | .onEnumerate d' _ g _ => d' = d ∧ ∀ g' ∈ h.group, g = g'
  | _ => True

/-- An event carries the device of the session once a sync has named it, and group 0. -/
def SyncedIdentity (d : UInt64) (h : History) : ClientEvent → Prop
  | .onError d' _ _ => h.lastSync.isSome → d' = d
  | .onEnumerate d' _ g _ => (h.lastSync.isSome → d' = d) ∧ g = 0
  | _ => True

/-- Every reply the adapter itself makes after the run `pre` satisfies `P`. -/
def OwnReplies (P : History → ClientEvent → Prop) (pre : List Action) : Prop :=
  ∀ s s' v, run step State.init pre = .ok s → step s (.reply v) = .ok s' →
    ∀ e ∈ s.newEvents s', P (pre.foldl History.record History.init) e

/-- With a vendor that uses one device id, the last sync carries it. -/
theorem run_oneDevice {d : UInt64} {s : State} {acts : List Action}
    (hrun : run step State.init acts = .ok s)
    (hC : Along History.record (OneDevice d) History.init acts) :
    ∀ p ∈ (acts.foldl History.record History.init).lastSync, p.1 = d := by
  have hsent : Sent (fun m => ∀ d' ∈ m.deviceId?, d' = d) s
      (acts.foldl History.record History.init) := by
    refine run_along (fun s h a s' hi hC hs => hi.step (fun target m ha => ?_) hs) hrun hC Sent.init
    subst ha
    exact hC
  intro p hp
  obtain ⟨m, hm, hsync⟩ := hsent.lastSync p hp
  cases m with
  | onSyncTemplates d' ids r =>
    cases hsync
    exact hm d' rfl
  | _ => cases hsync

/-- **The adapter's own replies carry what the last sync told it.** The device id is the vendor's
once a sync has been delivered; the group is 0 whatever `setActiveGroup` was given. -/
theorem own_replies_identity (d : UInt64) (pre : List Action)
    (hC : Along History.record (OneDevice d) History.init pre) :
    OwnReplies (SyncedIdentity d) pre := by
  intro s s' v hrun hs e he
  have ht := run_tracks hrun
  have hdev := run_oneDevice hrun hC
  set h := pre.foldl History.record History.init
  have hid : h.lastSync.isSome → s.adapter.statics.myDeviceId = d := by
    intro hsome
    obtain ⟨p, hp⟩ := Option.isSome_iff_exists.1 hsome
    rw [ht.deviceId, History.deviceId, hp]
    exact hdev p hp
  obtain ⟨n, c, told, ret, -, hl, rfl⟩ := step_reply_eq_ok.1 hs
  rw [newEvents_finish] at he
  cases HalCall.leave_told ht.knownFingers_length hl with
  | cancelOwn _ _ =>
    rw [List.mem_singleton.1 he]
    exact hid
  | enumerateOwn _ _ =>
    simp only [List.map_map, Function.comp_def, List.map_id'] at he
    obtain ⟨f, r, rfl⟩ := mem_fallback he
    exact ⟨hid, rfl⟩
  | _ => cases he

theorem own_replies_identity_synced :
    OwnReplies (SyncedIdentity 7) (enumerateAfter []) :=
  own_replies_identity 7 _ (by simp [enumerateAfter, Along, OneDevice, History.record,
    VendorCallback.deviceId?])

/-- A `cancel` before the first sync is answered with device id 0, and after `setActiveGroup(10)` an
enumeration is answered with group 0. -/
theorem own_replies_unidentified :
    let beforeSync : List Action :=
      [.call (.setNotify (some 0)), .reply (.number 7), .call .cancel]
    let otherGroup : List Action :=
      enumerateAfter [.call (.setActiveGroup 10 "/data"), .reply (.status 0)]
    (Along History.record (OneDevice 7) History.init beforeSync ∧
        ¬ OwnReplies (SessionIdentity 7) beforeSync) ∧
      Along History.record (OneDevice 7) History.init otherGroup ∧
        ¬ OwnReplies (SessionIdentity 7) otherGroup := by
  intro beforeSync otherGroup
  refine ⟨⟨?_, fun h => ?_⟩, ?_, fun h => ?_⟩
  · simp [beforeSync, Along, OneDevice, History.record]
  · have hown : (0 : UInt64) = 7 := h (final step State.init beforeSync)
      (final step State.init (beforeSync ++ [.reply (.status 0)])) (.status 0) (by decide)
      (by decide) (.onError 0 .ERROR_CANCELED 0) (by decide)
    exact absurd hown (by decide)
  · simp [otherGroup, enumerateAfter, Along, OneDevice, History.record,
      VendorCallback.deviceId?]
  · have hown := h (final step State.init otherGroup)
      (final step State.init (otherGroup ++ [.reply (.status 0)])) (.status 0) (by decide)
      (by decide) (.onEnumerate 7 1 0 1) (by decide)
    exact absurd (hown.2 10 (by decide)) (by decide)

end RMX2020.Fingerprint
