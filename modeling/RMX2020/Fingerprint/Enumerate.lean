import RMX2020.Fingerprint.Ledger

/-!
# One enumeration per enumerate

`enumerate` sends its own list if `receivedEnumerate` is still clear when the vendor's call returns
`SYS_OK`. The vendor's run of `onEnumerate` is one-way and may arrive later, may be left over from
an earlier call, or may go to another client. `enumerate_once`: the client gets exactly one
enumeration per call in every run where, at that moment, the flag says whether the vendor has sent
this client a run. `enumerated_twice_or_never` reaches the ways it goes wrong.
-/

namespace RMX2020.Fingerprint

open Machine

/-! ## Enumerations -/

/-- The finger id and the count of remaining ones of an `onEnumerate`. -/
def ClientEvent.entry : ClientEvent → Option (UInt32 × UInt32)
  | .onEnumerate _ f _ r => some (f, r)
  | _ => none

def VendorCallback.entry : VendorCallback → Option (UInt32 × UInt32)
  | .onEnumerate _ f _ r => some (f, r)
  | _ => none

/-- What the events enumerate. -/
def enumeration (events : List ClientEvent) : List (UInt32 × UInt32) :=
  events.filterMap ClientEvent.entry

/-- One complete run: it counts down to 0 and lists no finger twice. -/
structure CompleteRun (run : List (UInt32 × UInt32)) : Prop where
  down : (run.map Prod.snd).Pairwise (· > ·)
  last : (run.map Prod.snd).getLast? = some 0
  distinct : (run.map Prod.fst).Nodup

instance (run : List (UInt32 × UInt32)) : Decidable (CompleteRun run) :=
  decidable_of_iff ((run.map Prod.snd).Pairwise (· > ·) ∧ (run.map Prod.snd).getLast? = some 0 ∧
      (run.map Prod.fst).Nodup)
    ⟨fun h => ⟨h.1, h.2.1, h.2.2⟩, fun h => ⟨h.down, h.last, h.distinct⟩⟩

/-- Exactly one entry with nothing remaining, and no finger twice, in whatever order. -/
structure OneEnumeration (run : List (UInt32 × UInt32)) : Prop where
  once : (run.map Prod.snd).count 0 = 1
  distinct : (run.map Prod.fst).Nodup

theorem OneEnumeration.perm {run run' : List (UInt32 × UInt32)} (h : run.Perm run')
    (ho : OneEnumeration run) : OneEnumeration run' := by
  constructor
  · rw [← (h.map Prod.snd).count_eq]
    exact ho.once
  · exact (h.map Prod.fst).nodup_iff.1 ho.distinct

theorem count_zero_of_countdown {l : List UInt32} (hdown : l.Pairwise (· > ·))
    (hlast : l.getLast? = some 0) : l.count 0 = 1 := by
  obtain ⟨front, rfl⟩ := List.getLast?_eq_some_iff.1 hlast
  have hfront : front.count 0 = 0 := by
    apply List.count_eq_zero.2
    intro hmem
    have hgt := (List.pairwise_append.1 hdown).2.2 0 hmem 0 (List.mem_singleton.2 rfl)
    exact absurd hgt (by decide)
  rw [List.count_append, hfront]
  rfl

theorem CompleteRun.one {run : List (UInt32 × UInt32)} (h : CompleteRun run) :
    OneEnumeration run := ⟨count_zero_of_countdown h.down h.last, h.distinct⟩

theorem not_one_nil : ¬ OneEnumeration [] := fun h => absurd h.once (by decide)

/-- Two complete runs are not one enumeration. -/
theorem CompleteRun.not_one_append {run run' : List (UInt32 × UInt32)} (h : CompleteRun run)
    (h' : CompleteRun run') : ¬ OneEnumeration (run ++ run') := by
  intro hone
  have htwo := hone.once
  rw [List.map_append, List.count_append, h.one.once, h'.one.once] at htwo
  omega

theorem enumeration_append (es es' : List ClientEvent) :
    enumeration (es ++ es') = enumeration es ++ enumeration es' := List.filterMap_append

/-! ### The fallback list is a complete run -/

theorem enumeration_countdown_cons (deviceId : UInt64) (f : UInt32) (rest : List UInt32) :
    enumeration (countdown deviceId (f :: rest)) =
      (f, UInt32.ofNat rest.length) :: enumeration (countdown deviceId rest) := rfl

theorem countdown_fingers (deviceId : UInt64) (ids : List UInt32) :
    (enumeration (countdown deviceId ids)).map Prod.fst = ids := by
  induction ids with
  | nil => rfl
  | cons f rest ih => rw [enumeration_countdown_cons, List.map_cons, ih]

theorem countdown_lt {deviceId : UInt64} {ids : List UInt32} (hlen : ids.length < UInt32.size) :
    ∀ r ∈ (enumeration (countdown deviceId ids)).map Prod.snd, r.toNat < ids.length := by
  induction ids with
  | nil => simp [countdown, enumeration]
  | cons f rest ih =>
    have hrest : rest.length < UInt32.size := Nat.lt_of_succ_lt hlen
    rw [enumeration_countdown_cons, List.map_cons, List.length_cons]
    intro r hr
    rcases List.mem_cons.1 hr with rfl | hr
    · rw [UInt32.toNat_ofNat_of_lt' hrest]
      exact Nat.lt_succ_self _
    · exact Nat.lt_succ_of_lt (ih hrest r hr)

theorem countdown_down {deviceId : UInt64} {ids : List UInt32} (hlen : ids.length < UInt32.size) :
    ((enumeration (countdown deviceId ids)).map Prod.snd).Pairwise (· > ·) := by
  induction ids with
  | nil => exact List.Pairwise.nil
  | cons f rest ih =>
    have hrest : rest.length < UInt32.size := Nat.lt_of_succ_lt hlen
    rw [enumeration_countdown_cons, List.map_cons]
    refine List.Pairwise.cons (fun r hr => ?_) (ih hrest)
    have hlt := countdown_lt hrest r hr
    rw [gt_iff_lt, UInt32.lt_iff_toNat_lt, UInt32.toNat_ofNat_of_lt' hrest]
    exact hlt

theorem countdown_last (deviceId : UInt64) {ids : List UInt32} (hne : ids ≠ []) :
    ((enumeration (countdown deviceId ids)).map Prod.snd).getLast? = some 0 := by
  induction ids with
  | nil => exact absurd rfl hne
  | cons f rest ih =>
    rw [enumeration_countdown_cons, List.map_cons]
    cases rest with
    | nil => rfl
    | cons f' rest =>
      rw [enumeration_countdown_cons, List.map_cons] at ih ⊢
      rw [List.getLast?_cons_cons]
      exact ih (List.cons_ne_nil _ _)

theorem fallback_complete (deviceId : UInt64) {ids : List UInt32} (hnodup : ids.Nodup)
    (hlen : ids.length < UInt32.size) : CompleteRun (enumeration (fallback deviceId ids)) := by
  cases ids with
  | nil => exact ⟨List.pairwise_singleton _ _, rfl, List.nodup_singleton _⟩
  | cons f rest =>
    refine ⟨countdown_down hlen, countdown_last deviceId (List.cons_ne_nil _ _), ?_⟩
    rw [fallback, countdown_fingers]
    · exact hnodup
    · exact List.cons_ne_nil _ _

/-! ## The vendor's run -/

/-- The entries of the `onEnumerate` calls the vendor has sent while serving the pending call, each
with the callback object it is addressed to. -/
def History.vendorRun (h : History) : List (OplusClientCallback × UInt32 × UInt32) :=
  h.served.filterMap fun p => p.2.entry.map (Prod.mk p.1)

/-- The vendor has sent a run to a callback object of this client. -/
def History.Listed (h : History) (client : Client) : Prop :=
  ∃ p ∈ h.vendorRun, p.1.mClientCallback = some client

instance (h : History) (client : Client) : Decidable (h.Listed client) :=
  inferInstanceAs (Decidable (∃ p ∈ h.vendorRun, _))

/-- The vendor has sent no `onEnumerate`, or one complete run to one callback object. -/
def History.SilentOrComplete (h : History) : Prop :=
  h.vendorRun = [] ∨ (∀ p ∈ h.vendorRun, ∀ q ∈ h.vendorRun, p.1 = q.1) ∧
    CompleteRun (h.vendorRun.map Prod.snd)

instance (h : History) : Decidable h.SilentOrComplete := inferInstanceAs (Decidable (_ ∨ _))

theorem enumeration_told (client : Client) (p : OplusClientCallback × VendorCallback) :
    enumeration (heardBy client (p.1.told p.2)) =
      if p.1.mClientCallback = some client then p.2.entry.toList else [] := by
  obtain ⟨⟨c⟩, m⟩ := p
  cases c with
  | none => simp [OplusClientCallback.told, OplusClientCallback.relay, heardBy, enumeration]
  | some c =>
    rw [OplusClientCallback.told_some]
    by_cases hc : c = client
    · subst hc
      rw [heardBy_map]
      cases m <;> simp [VendorCallback.image, enumeration, ClientEvent.entry, VendorCallback.entry]
    · simp [heardBy, List.filterMap_map, hc, enumeration]

/-- What the vendor enumerates to a client is the part of its run on that client's object. -/
theorem History.enumeration_servedTo (h : History) (client : Client) :
    enumeration (h.servedTo client) =
      (h.vendorRun.filter fun p => p.1.mClientCallback = some client).map Prod.snd := by
  unfold History.servedTo History.vendorRun
  induction h.served with
  | nil => rfl
  | cons p rest ih =>
    rw [List.flatMap_cons, enumeration_append, enumeration_told, ih]
    cases he : p.2.entry with
    | none => simp [he]
    | some e => by_cases hc : p.1.mClientCallback = some client <;> simp [he, hc]

/-- A client is sent a complete run or nothing. -/
theorem History.SilentOrComplete.cases {h : History} (hv : h.SilentOrComplete) (client : Client) :
    (h.Listed client ∧ CompleteRun (enumeration (h.servedTo client))) ∨
      (¬ h.Listed client ∧ enumeration (h.servedTo client) = []) := by
  rw [h.enumeration_servedTo]
  by_cases hlisted : h.Listed client
  · refine .inl ⟨hlisted, ?_⟩
    obtain ⟨p, hp, hclient⟩ := hlisted
    rcases hv with hnil | ⟨hone, hrun⟩
    · rw [hnil] at hp
      cases hp
    · have hall :
          (h.vendorRun.filter fun q => q.1.mClientCallback = some client) = h.vendorRun := by
        apply List.filter_eq_self.2
        intro q hq
        rw [hone q hq p hp]
        exact decide_eq_true hclient
      rw [hall]
      exact hrun
  · refine .inr ⟨hlisted, ?_⟩
    rw [List.map_eq_nil_iff, List.filter_eq_nil_iff]
    intro p hp hclient
    exact hlisted ⟨p, hp, of_decide_eq_true hclient⟩

/-! ## Exactly one -/

/-- The vendor sends `onEnumerate` only while it serves an `enumerate()`, then either none or one
complete run, and lists no finger twice in an `onSyncTemplates`. -/
def VendorEnumerates (h : History) : Action → Prop
  | .send _ m => (m.isEnumerate → h.pending = some .enumerate) ∧
      ∀ p ∈ m.sync, p.2.toList.Nodup
  | .reply _ => h.pending = some .enumerate → h.SilentOrComplete
  | _ => True

instance (h : History) : ∀ a, Decidable (VendorEnumerates h a)
  | .send _ m => inferInstanceAs (Decidable ((m.isEnumerate → _) ∧ ∀ p ∈ m.sync, p.2.toList.Nodup))
  | .reply _ => inferInstanceAs (Decidable (h.pending = some .enumerate → h.SilentOrComplete))
  | .call _ | .deliver _ => inferInstanceAs (Decidable True)

/-- When the vendor's `enumerate()` returns `SYS_OK`, an `onEnumerate` has been delivered since it
was called if and only if the vendor has sent the registered client a run. -/
def EnumerateTimely (h : History) : Action → Prop
  | .reply (.status raw) => h.pending = some .enumerate → OplusToAOSPRequestStatus raw = .SYS_OK →
      ∀ client ∈ h.client, (h.enumerateArrived ↔ h.Listed client)
  | _ => True

instance (h : History) : ∀ a, Decidable (EnumerateTimely h a)
  | .reply (.status raw) => inferInstanceAs (Decidable (h.pending = some .enumerate →
      OplusToAOSPRequestStatus raw = .SYS_OK → ∀ client ∈ h.client, (_ ↔ h.Listed client)))
  | .reply (.number _) | .call _ | .send .. | .deliver _ => inferInstanceAs (Decidable True)

/-- After the run, every `enumerate()` that returned `SYS_OK` and whose messages have all been
delivered has brought the client exactly one enumeration. -/
def EnumerateOnce (acts : List Action) : Prop :=
  ∀ s, run step State.init acts = .ok s → ∀ x ∈ s.completed, x.call = .enumerate →
    x.reply = .status .SYS_OK → ∀ client, x.client = some client → s.Settled x.number →
      OneEnumeration (enumeration (s.heard x.number client))

/-- Every sync lists its fingers once. -/
def DistinctSyncs : State → History → Prop := Sent fun m => ∀ p ∈ m.sync, p.2.toList.Nodup

theorem DistinctSyncs.synced {s : State} {h : History} (hi : DistinctSyncs s h) :
    h.synced.Nodup := by
  unfold History.synced
  cases hsync : h.lastSync with
  | none => exact List.nodup_nil
  | some p =>
    obtain ⟨m, hm, hp⟩ := hi.lastSync p hsync
    exact hm p hp

/-- When an `enumerate()` returns `SYS_OK`, one enumeration in all is owed exactly if the flag is
right. -/
theorem enumerate_owed_once_iff {s : State} {h : History} {told : List ClientCall}
    {client : Client} (ht : Tracks s h) (hi : DistinctSyncs s h) (hv : h.SilentOrComplete)
    (htold : Told s.adapter .enumerate (.status .SYS_OK) told)
    (hclient : s.adapter.client? = some client) :
    OneEnumeration (enumeration (h.servedTo client ++ heardBy client told)) ↔
      (h.enumerateArrived ↔ h.Listed client) := by
  rw [enumeration_append, ← ht.enumerated]
  cases htold with
  | forwarded _ hne => exact absurd rfl hne
  | enumerateFailed hne => exact absurd rfl hne
  | enumerateReceived hflag =>
    rw [show enumeration (heardBy client []) = [] from rfl, List.append_nil]
    rcases hv.cases client with ⟨hlisted, hrun⟩ | ⟨hlisted, hnil⟩
    · simp [hflag, hlisted, hrun.one]
    · simp [hflag, hlisted, hnil, not_one_nil]
  | enumerateOwn hflag hc =>
    rw [hclient] at hc
    cases hc
    have hown : CompleteRun
        (enumeration (fallback s.adapter.statics.myDeviceId s.adapter.statics.knownFingers)) := by
      apply fallback_complete
      · rw [ht.fingers]
        exact hi.synced
      · exact ht.knownFingers_length
    rw [heardBy_map]
    rcases hv.cases client with ⟨hlisted, hrun⟩ | ⟨hlisted, hnil⟩
    · simp [hflag, hlisted, hrun.not_one_append hown]
    · simp [hflag, hlisted, hnil, hown.one]

/-- **Each `enumerate()` that returns `SYS_OK` is answered by exactly one enumeration**, in every
run where the flag is right whenever the vendor's `enumerate()` returns. -/
theorem enumerate_once (acts : List Action)
    (hvendor : Along History.record VendorEnumerates History.init acts)
    (htimely : Along History.record EnumerateTimely History.init acts) : EnumerateOnce acts := by
  intro s hrun x hx hcall hok client hclient hsettled
  have hgood : CompletedGood (fun x events => x.call = .enumerate → x.reply = .status .SYS_OK →
      OneEnumeration (enumeration events)) s := by
    refine run_completed (I := DistinctSyncs) Sent.init ?_ ?_ ?_ hrun (hvendor.and htimely)
    · intro s h a s' hi hC hs
      refine hi.step (fun target m ha => ?_) hs
      subst ha
      exact hC.1.2
    · intro x es es' hperm hone hc hr
      exact (hone hc hr).perm (hperm.filterMap _)
    · intro s h v n c told ret client hl hi hC hp hleave hclient hc hr
      cases (show c = .enumerate from hc)
      have hpend : h.pending = some .enumerate := by
        rw [← hl.tracks.pending, hp]
        rfl
      have hmem : client ∈ h.client := by
        rw [← hl.tracks.client]
        exact hclient
      cases v with
      | number value => cases hleave
      | status raw =>
        obtain ⟨htold, hret⟩ :=
          HalCall.leave_told_enumerate hl.tracks.knownFingers_length hleave
        have hreply : ret = .status .SYS_OK := hr
        have hraw : OplusToAOSPRequestStatus raw = .SYS_OK := by
          rw [hret] at hreply
          exact HalReply.status.inj hreply
        rw [hreply] at htold
        exact (enumerate_owed_once_iff hl.tracks hi (hC.1 hpend) htold hclient).2
          (hC.2 hpend hraw client hmem)
  rw [← State.owed_eq_heard hsettled]
  exact hgood x hx client hclient hcall hok

/-- A client registered, then an `enumerate()` that the vendor serves with `during` and that is
followed by `after`. -/
def enumerateRun (during after : List Action) : List Action :=
  [.call (.setNotify (some 0)), .reply (.number 7), .call .enumerate] ++ during ++
    [.reply (.status Oplus.RequestStatus.SYS_OK)] ++ after

/-- The vendor enumerates its one template. -/
def vendorEnumerates : VendorCallback := .onEnumerate 7 1 0 0

theorem enumerate_once_relayed :
    EnumerateOnce (enumerateRun [.send ⟨some 0⟩ vendorEnumerates,
      .deliver ⟨⟨some 0⟩, vendorEnumerates, some 1⟩] []) :=
  enumerate_once _ (by decide) (by decide)

/-- The vendor's run is delivered after the test and the client gets two enumerations; or it is left
over from an earlier call and the client gets none for the next one. -/
theorem enumerated_twice_or_never :
    let late := enumerateRun [.send ⟨some 0⟩ vendorEnumerates]
      [.deliver ⟨⟨some 0⟩, vendorEnumerates, some 1⟩]
    let leftOver := enumerateRun [.send ⟨some 0⟩ vendorEnumerates]
      [.call .enumerate, .deliver ⟨⟨some 0⟩, vendorEnumerates, some 1⟩,
        .reply (.status Oplus.RequestStatus.SYS_OK)]
    (Along History.record VendorEnumerates History.init late ∧ ¬ EnumerateOnce late) ∧
      Along History.record VendorEnumerates History.init leftOver ∧
        ∃ s, run step State.init leftOver = .ok s ∧
          ⟨2, .enumerate, some 0, .status .SYS_OK⟩ ∈ s.completed ∧ s.Settled 2 ∧
          enumeration (s.heard 2 0) = [] := by
  intro late leftOver
  refine ⟨⟨by decide, fun h => ?_⟩, by decide, final step State.init leftOver, by decide⟩
  have htwo := h (final step State.init late) (by decide)
    ⟨1, .enumerate, some 0, .status .SYS_OK⟩ (by decide) rfl rfl 0 rfl (by decide)
  exact absurd htwo.once (by decide)

end RMX2020.Fingerprint
