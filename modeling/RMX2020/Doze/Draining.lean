import RMX2020.Doze.Listener

/-!
# Running the queues dry

The conditions of `pickup_not_dead` and `sensor_not_leaked` leave out no run that would do no harm:
after a step that breaks them, the queues need only run dry (`drains`) for the gesture to be dead
(`dead_of_missed`) or the sensor leaked (`leaked_of_stranded`).
-/

namespace RMX2020.Doze

open Machine Utils

/-- The tasks the executors of some instances have yet to run. -/
def tasks : List DozeService → Nat
  | [] => 0
  | d :: ds => d.pickupSensor.executorService.length + tasks ds

@[simp] theorem tasks_nil : tasks [] = 0 := rfl

theorem tasks_cons (d : DozeService) (ds : List DozeService) :
    tasks (d :: ds) = d.pickupSensor.executorService.length + tasks ds := rfl

theorem tasks_runTask {d : DozeService} (h : d.pickupSensor.executorService ≠ []) (t : Int) :
    (d.runTask t).pickupSensor.executorService.length + 1 =
      d.pickupSensor.executorService.length := by
  have htail : (d.runTask t).pickupSensor.executorService = d.pickupSensor.executorService.tail :=
    PickupSensor.executorService_runTask _ _
  have hpos := List.length_pos_of_ne_nil h
  rw [htail, List.length_tail]
  omega

/-- While some executor has a task, running it leaves one less. -/
theorem exists_tasks_modify {ds : List DozeService} (h : 0 < tasks ds) :
    ∃ i, tasks (ds.modify i (DozeService.runTask 0)) + 1 = tasks ds := by
  induction ds with
  | nil => exact absurd h (Nat.lt_irrefl 0)
  | cons d ds ih =>
    by_cases hd : d.pickupSensor.executorService = []
    · rw [tasks_cons, hd, List.length_nil, Nat.zero_add] at h
      obtain ⟨i, hi⟩ := ih h
      refine ⟨i + 1, ?_⟩
      rw [List.modify_succ_cons, tasks_cons, tasks_cons]
      omega
    · refine ⟨0, ?_⟩
      have hone := tasks_runTask hd 0
      rw [List.modify_zero_cons, tasks_cons, tasks_cons]
      omega

theorem executorService_of_tasks_zero {ds : List DozeService} (h : tasks ds = 0) :
    ∀ d ∈ ds, d.pickupSensor.executorService = [] := by
  induction ds with
  | nil =>
    intro d hd
    cases hd
  | cons d ds ih =>
    rw [tasks_cons] at h
    intro d' hd'
    rcases List.mem_cons.1 hd' with rfl | hd'
    · exact List.eq_nil_of_length_eq_zero (by omega)
    · exact ih (by omega) d' hd'

/-- What the queues have yet to run, beside the broadcasts and the calls of the system. -/
def State.backlog (s : State) : Nat := s.posted + tasks s.live.toList + tasks s.destroyed

/-- Running the queues keeps the instance `d` of `s`, as `d'` in `s'`, and what it depends on. -/
structure Keeps (s : State) (d : DozeService) (s' : State) (d' : DozeService) : Prop where
  sound : Sound s'
  stays : Stays s' d'
  listening : d'.listening = d.listening
  sensor : d'.pickupSensor.sensor = d.pickupSensor.sensor
  displayOn : s'.displayOn = s.displayOn
  pickUpType : s'.pickUpType = s.pickUpType

section Drains

variable {device : Device} {s s' : State} {d d' : DozeService}

theorem Keeps.trans {s'' : State} {d'' : DozeService} (h : Keeps s d s' d')
    (h' : Keeps s' d' s'' d'') : Keeps s d s'' d'' :=
  ⟨h'.sound, h'.stays, h'.listening.trans h.listening, h'.sensor.trans h.sensor,
    h'.displayOn.trans h.displayOn, h'.pickUpType.trans h.pickUpType⟩

/-- A posted check finds the service started and wanted, and does nothing. -/
theorem keeps_runPosted (hs : Sound s) (hstays : Stays s d) (hposted : 0 < s.posted) :
    Keeps s d s.runPosted d := by
  have hwanted : wanted s.user s.android.settings = true := by
    rcases hstays.kept with hwanted | hnone
    · exact hwanted
    · omega
  have hstarted := hs.started_of_live hstays.live hstays.pending
  have hservice : s.runPosted.service = s.service := by
    refine (service_of_check rfl : s.runPosted.service = _).trans ?_
    rw [hwanted, if_pos rfl]
    unfold ServiceRecord.start
    rw [if_pos hstarted]
  have hsettings : s.runPosted.android.settings = s.android.settings := check_settings s
  refine ⟨hs.check rfl rfl rfl rfl, ⟨hstays.live, hstays.broadcasts, ?_, .inl ?_⟩, rfl, rfl, rfl,
    pickUpType_of_settings hsettings⟩
  · rw [hservice]
    exact hstays.pending
  · rw [user_of_settings hsettings, hsettings]
    exact hwanted

/-- While something is left to run, something can run that keeps the instance. -/
theorem exists_keeps (device : Device) (hs : Sound s) (hstays : Stays s d) (h : 0 < s.backlog) :
    ∃ a s' d', step device s a = .ok s' ∧ s'.backlog + 1 = s.backlog ∧ Keeps s d s' d' := by
  have hlive := hstays.live
  by_cases hposted : 0 < s.posted
  · refine ⟨.runPosted, s.runPosted, d, if_pos hposted, ?_, keeps_runPosted hs hstays hposted⟩
    have hless : s.runPosted.posted + 1 = s.posted := Nat.sub_add_cancel hposted
    have hrest : s.runPosted.backlog = s.runPosted.posted + tasks s.live.toList +
      tasks s.destroyed := rfl
    rw [hrest]
    unfold State.backlog
    omega
  · by_cases hidle : d.pickupSensor.executorService = []
    · have htasks : 0 < tasks s.destroyed := by
        unfold State.backlog at h
        rw [hlive] at h
        have hnone : tasks (some d).toList = 0 := by simp [tasks_cons, hidle]
        omega
      obtain ⟨i, hi⟩ := exists_tasks_modify htasks
      have hstep : step device s (.runDestroyedTask i 0) =
        .ok { s with destroyed := s.destroyed.modify i (DozeService.runTask 0) } := rfl
      refine ⟨_, _, d, hstep, ?_, hs.step hstep, ?_, rfl, rfl, rfl, rfl⟩
      · simp only [State.backlog]
        omega
      · exact ⟨hlive, hstays.broadcasts, hstays.pending, hstays.kept⟩
    · have hstep : step device s (.runTask 0) = .ok { s with live := some (d.runTask 0) } := by
        simp only [step, hlive]
      have hone := tasks_runTask hidle 0
      refine ⟨_, _, d.runTask 0, hstep, ?_, hs.step hstep, ?_, ?_, ?_, rfl, rfl⟩
      · simp only [State.backlog, hlive, Option.toList_some, tasks_cons]
        omega
      · exact ⟨rfl, hstays.broadcasts, hstays.pending, hstays.kept⟩
      · exact DozeService.listening_runTask _ _
      · exact PickupSensor.sensor_runTask _ _

theorem drained_of_backlog (hstays : Stays s d) (h : s.backlog = 0) : s.Drained := by
  unfold State.backlog at h
  rw [hstays.live] at h
  refine ⟨by omega, hstays.pending, fun d' hd' => ?_, ?_⟩
  · rw [hstays.live] at hd'
    cases hd'
    have hzero : tasks (some d).toList = 0 := by omega
    exact ⟨hstays.broadcasts, executorService_of_tasks_zero hzero d (by simp)⟩
  · exact executorService_of_tasks_zero (by omega)

/-- **An instance with nothing under way outlives the queues**: they can run dry, and it is there as
before. -/
theorem drains (device : Device) (hs : Sound s) (hstays : Stays s d) :
    ∃ acts t d', run (step device) s acts = .ok t ∧ t.Drained ∧ Keeps s d t d' := by
  have hself : ∃ d', Keeps s d s d' := ⟨d, hs, hstays, rfl, rfl, rfl, rfl⟩
  have hstep : ∀ t, (∃ d', Keeps s d t d') → 0 < t.backlog →
      ∃ a t', step device t a = .ok t' ∧ t'.backlog < t.backlog ∧ ∃ d', Keeps s d t' d' := by
    rintro t ⟨d', hkeeps⟩ hpos
    obtain ⟨a, t', d'', h, hless, hkeeps'⟩ := exists_keeps device hkeeps.sound hkeeps.stays hpos
    exact ⟨a, t', h, by omega, d'', hkeeps.trans hkeeps'⟩
  obtain ⟨acts, t, hrun, hzero, d', hkeeps⟩ := exists_run_measure_zero hstep hself
  exact ⟨acts, t, d', hrun, drained_of_backlog hkeeps.stays hzero, hkeeps⟩

/-! ## The conditions leave out only what does harm -/

/-- A change of a preference that has the settings ask for the service keeps the instance. -/
theorem stays_of_wantedBy {a : Action} (h : step device s a = .ok s') (hby : s.WantedBy a)
    (hd : s.live = some d) (hbroadcasts : d.broadcasts = []) (hpending : s.service.pending = []) :
    Stays s' d ∧ s'.displayOn = s.displayOn ∧ s'.pickUpType ≠ "0" := by
  cases stepped_of_step h with
  | changeAlwaysOn newValue _ _ =>
    obtain ⟨hdoze, hoff, htype⟩ := hby
    refine ⟨⟨hd, hbroadcasts, hpending, .inl ((wanted_iff _).2 ⟨?_, ?_, htype⟩)⟩, rfl, htype⟩
    · exact (isDozeEnabled_enableAlwaysOn _ _ newValue).trans hdoze
    · exact (isAlwaysOnEnabled_enableAlwaysOn _ newValue).trans hoff
  | @changePickUp f newValue _ =>
    obtain ⟨hdoze, hoff, hchosen⟩ := hby
    have htype : (s.change (.gesturePickUpType newValue) f).pickUpType ≠ "0" := by
      rw [change_pickUpType]
      exact hchosen
    exact ⟨⟨hd, hbroadcasts, hpending, .inl ((wanted_iff _).2 ⟨hdoze, hoff, htype⟩)⟩, rfl, htype⟩
  | _ => cases hby

/-- **After a missed step the gesture can be dead.** -/
theorem dead_of_missed {a : Action} (hs : Sound s) (h : step device s a = .ok s')
    (hmissed : ¬ NoneMissed device s a) :
    ∃ more t, run (step device) s' more = .ok t ∧ ¬ NotDead t := by
  have hdeaf : ∃ d, Stays s' d ∧ s'.displayOn = false ∧ s'.pickUpType ≠ "0" ∧
      d.pickupSensor.sensor.isSome ∧ d.listening = false := by
    by_cases hcreated : CreatedInLight device s a
    · have hkept : ¬ KeptListening s a := fun hkept => hmissed ⟨hcreated, hkept⟩
      simp only [KeptListening, Classical.not_imp, not_forall, Bool.not_eq_true] at hkept
      obtain ⟨hby, d, hd, hbroadcasts, hpending, hoff, hsensor, hlisten⟩ := hkept
      obtain ⟨hstays, hdisplay, htype⟩ := stays_of_wantedBy h hby hd hbroadcasts hpending
      exact ⟨d, hstays, hdisplay.trans hoff, htype, hsensor, hlisten⟩
    · simp only [CreatedInLight, Classical.not_imp] at hcreated
      obtain ⟨rfl, hpending, hkept, hoff, htype, hsensor⟩ := hcreated
      have hs' : s' = s.runServiceCall device .onCreate [] := by
        simp only [step, hpending] at h
        cases h
        rfl
      have hsettings := runServiceCall_settings device s .onCreate []
      rw [← hs'] at hsettings
      refine ⟨.onCreate device, ⟨?_, rfl, ?_, ?_⟩, ?_, ?_, Option.isSome_iff_ne_none.2 hsensor, rfl⟩
      · rw [hs']
        rfl
      · rw [hs', runServiceCall_service]
      · rw [user_of_settings hsettings, hsettings, hs', runServiceCall_posted]
        exact hkept
      · rw [hs']
        exact hoff
      · rw [pickUpType_of_settings hsettings]
        exact htype
  obtain ⟨d, hstays, hoff, htype, hsensor, hlisten⟩ := hdeaf
  obtain ⟨more, t, d', hrun, hdrained, hkeeps⟩ := drains device (hs.step h) hstays
  refine ⟨more, t, hrun, fun hnot => ?_⟩
  have hregistered := hnot hdrained d' hkeeps.stays.live (hkeeps.displayOn.trans hoff)
    (hkeeps.pickUpType ▸ htype) (hkeeps.sensor ▸ hsensor)
  rw [hdrained.registered hkeeps.stays.live, hkeeps.listening, hlisten] at hregistered
  cases hregistered

/-- **After a stranding step the sensor can be leaked.** -/
theorem leaked_of_stranded {a : Action} (hs : Sound s) (h : step device s a = .ok s')
    (hstranded : ¬ KeptSilent s a) :
    ∃ more t, run (step device) s' more = .ok t ∧ ¬ NotLeaked t := by
  simp only [KeptSilent, Classical.not_imp, not_forall, Bool.not_eq_false] at hstranded
  obtain ⟨hby, d, hd, hbroadcasts, hpending, hon, hlisten⟩ := hstranded
  obtain ⟨hstays, hdisplay, -⟩ := stays_of_wantedBy h hby hd hbroadcasts hpending
  obtain ⟨more, t, d', hrun, hdrained, hkeeps⟩ := drains device (hs.step h) hstays
  refine ⟨more, t, hrun, fun hnot => ?_⟩
  have hregistered : d'.pickupSensor.registered = true := by
    rw [hdrained.registered hkeeps.stays.live, hkeeps.listening, hlisten]
  have hoff := ((hnot hdrained).2 d' hkeeps.stays.live hregistered).1
  rw [hkeeps.displayOn, hdisplay, hon] at hoff
  cases hoff

end Drains

end RMX2020.Doze
