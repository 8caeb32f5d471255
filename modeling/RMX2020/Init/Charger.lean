import RMX2020.Init.AtBoot

/-!
# Charger boot

What init comes to when it is left alone after a boot into the charger, whatever `sys.usb.config`
and the port index are then, and whatever the platform's rules are (`Configfs`). A rule of its own
sets `sys.usb.config` to `midi` under the rules that the value found lines up (`Overtaken`), and
those for `midi` follow (`ToMidi`).

`midi` is always published in the end, and what was published before was right exactly if it was for
`midi` as well or nothing (`charger_midi`). The gadget is that of `midi`, since the charger makes no
other function that a rule could link (`OnlyMidi`), unless the value was `rndis`, whose rule makes
its own and takes the name that `midi` links.
-/

namespace RMX2020.Init

open Machine Trigger

/-! ## What the rules find to link -/

/-- There is no function but that of `midi`, and nothing but what `midi` links is linked. -/
structure OnlyMidi (g : Gadget) : Prop where
  functions : ∀ f ∈ g.functions, f = .midiGs5
  made : midi.Made g
  own : ∀ f l, g.links l = some f → (f, l) ∈ midi.links

section OnlyMidi

variable {i : InitState} {a : Action Property GadgetCommand} {value : String}

theorem OnlyMidi.fits {g : Gadget} (h : OnlyMidi g) : midi.Fits g :=
  ⟨fun hwrites => absurd hwrites (by decide), h.own, fun f l hmem _ => h.made f l hmem⟩

theorem midi_mem : midi ∈ rules := by decide

theorem midi_links : ∀ r ∈ rules, ∀ l, (.midiGs5, l) ∈ r.links → (.midiGs5, l) ∈ midi.links := by
  decide

theorem mkdirs_nil : ∀ r ∈ rules, r.ready = false → r.config ≠ "rndis" → r.mkdirs = [] := by
  decide

theorem OnlyMidi.run (h : OnlyMidi i.device) (ha : Prompt value a) (hvalue : value ≠ "rndis") :
    OnlyMidi (a.run exec i).device := by
  rcases ha.cases with ⟨r, hr, rfl, hready, rfl⟩ | haux
  · rw [Rule.run]
    obtain ⟨-, hfunctions, hlinks⟩ := execAll_commands i.props i.device (proper_of_mem r hr)
    simp only [mkdirs_nil r hr hready hvalue, List.not_mem_nil, or_false] at hfunctions hlinks
    refine ⟨fun f hf => h.functions f ((hfunctions f).1 hf),
      h.made.execAll _ _ (proper_of_mem r hr), fun f l hl => ?_⟩
    rcases (hlinks f l).1 hl with hold | ⟨-, hmem, hf⟩
    · exact h.own f l hold
    · obtain rfl := h.functions f hf
      exact midi_links r hr l hmem
  · have hadjusted := haux.adjusted i
    refine ⟨fun f hf => h.functions f (hadjusted.functions f hf), hadjusted.made midi_mem h.made,
      fun f l hl => ?_⟩
    rcases hadjusted.links l with hsame | ⟨-, hremoved⟩ | ⟨-, -, f', hf', hlinked, hlinkable⟩
    · exact h.own f l (hsame ▸ hl)
    · rw [hremoved] at hl
      cases hl
    · obtain rfl : f' = f := Option.some.inj (hlinked.symm.trans hl)
      obtain rfl := h.functions f' hf'
      rcases hlinkable with ⟨r, hr, -, hmem⟩ | ⟨-, hwaits | hunlinked⟩
      · exact midi_links r hr l hmem
      · rw [ha.2] at hwaits
        cases hwaits
      · exact absurd List.mem_cons_self (hunlinked midi midi_mem .f1)

/-- But on `none`, a name that is taken stays so. -/
theorem Lined.link_kept (ha : Lined value a) (hvalue : value ≠ "none") {f : UsbFunction} {l : Link}
    (h : i.device.links l = some f) : (a.run exec i).device.links l = some f := by
  rcases ha with ⟨r, hr, -, rfl⟩ | haux
  · rw [Rule.run]
    exact ((execAll_commands i.props i.device (proper_of_mem r hr)).2.2 f l).2 (.inl h)
  · rcases (haux.adjusted i).links l with hsame | ⟨hnone, -⟩ | ⟨-, hfree, -⟩
    · rw [hsame, h]
    · exact absurd hnone hvalue
    · rw [hfree] at h
      cases h

/-- The rule for `rndis` takes the name. -/
theorem rndis_links (hown : ∀ f l, i.device.links l = some f → (f, l) ∈ rndis.links) :
    (rndis.action.run exec i).device.links .f1 = some .rndisGs4 := by
  have hrndis : rndis.Proper := proper_of_mem rndis (by decide)
  rw [Rule.run]
  refine ((execAll_commands i.props i.device hrndis).2.2 _ _).2 ?_
  cases hl : i.device.links .f1 with
  | none => exact .inr ⟨rfl, List.mem_cons_self, .inr List.mem_cons_self⟩
  | some f =>
    cases List.mem_singleton.1 (hown f .f1 hl)
    exact .inl rfl

end OnlyMidi

/-! ## The rules for the value found -/

/-- The rules for the value found run with `midi` in `sys.usb.config`. -/
structure Overtaken (config : String) (i : InitState) : Prop extends Booting "midi" i where
  event : some (.sysUsbConfig, "midi") ∈ i.events
  actions : ∀ a ∈ i.actions, Prompt config a
  only : config ≠ "rndis" → OnlyMidi i.device
  taken : config = "rndis" →
    rndis.action ∈ i.actions ∧ (∀ f l, i.device.links l = some f → (f, l) ∈ rndis.links) ∨
      i.device.links .f1 = some .rndisGs4
  right : (∃ r ∈ rules, r.config = config ∧ r.action ∈ i.actions) ∧ PublishedRight ⟨i, false⟩ ∨
    (PublishedRight ⟨i, false⟩ ↔ (config ∈ atOnce → config = "midi"))

/-- Then those for `midi` run, after any for an empty port index. -/
structure ToMidi (config : String) (i : InitState) : Prop extends Booting "midi" i where
  actions : ∀ a ∈ i.actions, ∃ v, (v = "adb" ∨ v = "midi") ∧ Prompt v a
  only : config ≠ "rndis" → OnlyMidi i.device
  taken : config = "rndis" → i.device.links .f1 = some .rndisGs4
  right : PublishedRight ⟨i, false⟩ ↔ (config ∈ atOnce → config = "midi")
  coming : some (.sysUsbConfig, "midi") ∈ i.events ∨ midi.action ∈ i.actions ∨
    i.props .sysUsbState = "midi" ∧ (config ≠ "rndis" → midi.Gives i.device)

section Charger

variable {platform : List (Action Property GadgetCommand)} {config portIndex : String}
  {i i' : InitState} {a : Action Property GadgetCommand}
  {actions : List (Action Property GadgetCommand)}

theorem Overtaken.run (h : Overtaken config i) (hactions : i.actions = a :: actions) :
    Overtaken config (a.run exec { i with actions := actions }) := by
  obtain ⟨ha, hrest⟩ := forall_actions_run exec h.actions hactions
  have hevent := (ha.1.beside { i with actions := actions }).events_subset h.event
  have honly (hne : config ≠ "rndis") := OnlyMidi.run (i := { i with actions := actions })
    (h.only hne) ha hne
  rcases ha.cases with ⟨r, hr, rfl, hready, rfl⟩ | haux
  · refine ⟨h.toBooting.run ha.1, hevent, hrest, honly, fun hrndis => .inr ?_, .inr ?_⟩
    · rcases h.taken hrndis with ⟨-, hown⟩ | htaken
      · have hmem : rndis ∈ rules := by decide
        obtain rfl := eq_of_config rndis hmem r hr hrndis
        exact rndis_links hown
      · exact ha.1.link_kept (config_ne_none r hr) htaken
    · have hatOnce : r.config ∈ atOnce := mem_atOnce.2 ⟨r, hr, rfl, hready⟩
      rw [publishedRight_run_rule hr]
      constructor
      · rintro ⟨-, hsame, -⟩ _
        exact hsame.symm.trans h.value
      · intro hmidi
        have hsame := hmidi hatOnce
        obtain rfl := eq_of_config midi midi_mem r hr hsame
        refine ⟨?_, h.value, (h.only (by decide)).fits⟩
        rcases h.right with ⟨-, hright⟩ | hright
        · exact hright
        · exact hright.2 fun _ => rfl
  · refine ⟨h.toBooting.run ha.1, hevent, hrest, honly, fun hrndis => ?_, ?_⟩
    · subst hrndis
      have hrndis : rndis ∈ rules := by decide
      rcases h.taken rfl with ⟨haction, hown⟩ | htaken
      · exact .inl ⟨mem_actions_run haction hactions (haux.ne_action hrndis),
          (haux.adjusted _).own hrndis (.inl rfl) hown⟩
      · exact .inr (ha.1.link_kept (by decide) htaken)
    · rw [publishedRight_run_other fun _ hr => haux.ne_action hr]
      refine h.right.imp_left (And.imp_left fun ⟨r, hr, hsame, haction⟩ => ?_)
      exact ⟨r, hr, hsame, mem_actions_run haction hactions (haux.ne_action hr)⟩

theorem ToMidi.run (h : ToMidi config i) (hactions : i.actions = a :: actions) :
    ToMidi config (a.run exec { i with actions := actions }) := by
  obtain ⟨⟨v, hv, ha⟩, hrest⟩ := forall_actions_run exec h.actions hactions
  have hbeside := ha.1.beside { i with actions := actions }
  have hvalue : v ≠ "rndis" ∧ v ≠ "none" := by
    rcases hv with rfl | rfl <;> decide
  have honly (hne : config ≠ "rndis") := OnlyMidi.run (i := { i with actions := actions })
    (h.only hne) ha hvalue.1
  have htaken (hrndis : config = "rndis") :
      (a.run exec { i with actions := actions }).device.links .f1 = some .rndisGs4 :=
    ha.1.link_kept hvalue.2 (h.taken hrndis)
  rcases ha.cases with ⟨r, hr, rfl, hready, rfl⟩ | haux
  · have hsame : r.config = "midi" := by
      refine hv.resolve_left fun hadb => adb_not_atOnce ?_
      exact mem_atOnce.2 ⟨r, hr, hadb, hready⟩
    obtain rfl := eq_of_config midi midi_mem r hr hsame
    refine ⟨h.toBooting.run ha.1, hrest, honly, htaken, ?_, .inr (.inr ⟨?_, fun hne => ?_⟩)⟩
    · rw [publishedRight_run_rule midi_mem]
      refine Iff.trans ⟨fun hright => hright.1, fun hright => ⟨hright, h.value, ?_⟩⟩ h.right
      -- after `rndis` something wrong has been published already
      have hne : config ≠ "rndis" := by
        rintro rfl
        exact absurd (h.right.1 hright (by decide)) (by decide)
      exact (h.only hne).fits
    · exact (Rule.run_state midi _).trans h.value
    · rw [Rule.run]
      exact (gives_iff_fits _ _ (proper_of_mem midi midi_mem)).2 (h.only hne).fits
  · refine ⟨h.toBooting.run ha.1, hrest, honly, htaken, ?_, ?_⟩
    · rw [publishedRight_run_other fun _ hr => haux.ne_action hr]
      exact h.right
    · rcases h.coming with hevent | hmem | ⟨hstate, hgives⟩
      · exact .inl (hbeside.events_subset hevent)
      · exact .inr (.inl (mem_actions_run hmem hactions (haux.ne_action midi_mem)))
      · refine .inr (.inr ⟨?_, fun hne => ?_⟩)
        · rcases hbeside.state with hsame | hpublished
          · exact hsame.trans hstate
          · exact hpublished.trans h.value
        · have hadjusted := haux.adjusted { i with actions := actions }
          rcases hv with rfl | rfl
          · have hadb : adb ∈ rules := by decide
            exact Adjusted.gives hadjusted hadb ((hgives hne).adb_taken midi_mem) (hgives hne)
          · exact Adjusted.gives hadjusted midi_mem (hgives hne).taken (hgives hne)

theorem ToMidi.turn (hplatform : Configfs platform) (h : ToMidi config i)
    (hturn : turn exec (table platform) i = .ok i') : ToMidi config i' := by
  refine turn_cases hturn (fun a actions hactions => h.run hactions)
    fun e events hactions hevents => ⟨h.toBooting.take hevents, fun a ha => ?_, h.only, h.taken,
      h.right, ?_⟩
  · have he : e ∈ i.events := hevents ▸ List.mem_cons_self
    exact h.prompt hplatform he ha
  · rcases h.coming with hevent | hmem | hpublished
    · rw [hevents] at hevent
      rcases List.mem_cons.1 hevent with rfl | hevent
      · have hmem : midi.action ∈ table platform :=
          List.mem_cons_of_mem _ (List.mem_append_left _ (action_mem midi midi_mem))
        have htriggered := Rule.triggered_event midi_mem h.configfs h.value
        exact .inr (.inl (List.mem_filter.2 ⟨hmem, htriggered⟩))
      · exact .inl hevent
    · rw [hactions] at hmem
      cases hmem
    · exact .inr (.inr hpublished)

theorem bootmodeCharger_ne : ∀ r ∈ rules, bootmodeCharger ≠ r.action := by decide

/-- The first turns of a charger. -/
theorem charger_entered (hplatform : Configfs platform) (config portIndex : String) :
    ∃ i, Turns platform (start .charger config portIndex).init i ∧
      Entered .charger config "midi" i ∧ some (.sysUsbConfig, "midi") ∈ i.events := by
  have hentered := entered_entry hplatform .charger config portIndex
  have htake : turn exec (table platform) (start .charger config portIndex).init = _ :=
    turn_take rfl rfl
  have hboot : bootmodeCharger.triggered (start .charger config portIndex).init.props none := rfl
  rw [table_eq] at htake
  by_cases hport : portIndex = ""
  · subst hport
    have hempty : portIndexEmpty.triggered (start .charger config "").init.props none := rfl
    rw [List.filter_cons_of_pos hempty, List.filter_cons_of_pos hboot] at htake
    have hrun : turn exec (table platform) { entry platform .charger config "" with
        actions := portIndexEmpty :: bootmodeCharger ::
          (entry platform .charger config "").actions } = _ := turn_run rfl
    have hadb : Entered .charger config "adb"
        (portIndexEmpty.run exec (entry platform .charger config "")) :=
      hentered.overwrite portIndexEmpty_ne rfl fun e he => absurd he List.not_mem_nil
    have hrun' : turn exec (table platform) (portIndexEmpty.run exec
        { entry platform .charger config "" with actions := bootmodeCharger ::
          (entry platform .charger config "").actions }) = _ := turn_run rfl
    exact ⟨_, .head htake (.head hrun (.head hrun' (.refl _))),
      hadb.overwrite bootmodeCharger_ne rfl fun e he => List.mem_singleton.1 he,
      List.mem_append_right _ List.mem_cons_self⟩
  · have hfilled : ¬portIndexEmpty.triggered
        (start .charger config portIndex).init.props none := by
      intro h
      exact hport (triggered_none h _ List.mem_cons_self).symm
    rw [List.filter_cons_of_neg hfilled, List.filter_cons_of_pos hboot] at htake
    have hrun : turn exec (table platform) { entry platform .charger config portIndex with
        actions := bootmodeCharger :: (entry platform .charger config portIndex).actions } = _ :=
      turn_run rfl
    exact ⟨_, .head htake (.head hrun (.refl _)),
      hentered.overwrite bootmodeCharger_ne rfl fun e he => absurd he List.not_mem_nil,
      List.mem_cons_self⟩

theorem Entered.overtaken (h : Entered .charger config "midi" i)
    (hevent : some (.sysUsbConfig, "midi") ∈ i.events) : Overtaken config i := by
  have hlinks (f : UsbFunction) (l : Link) : Boot.charger.gadget.links l ≠ some f :=
    (Option.some_ne_none f).symm
  refine ⟨h.toBooting, hevent, h.actions, fun _ => ?_,
    fun hrndis => .inl ⟨?_, fun f l hl => ?_⟩, ?_⟩
  · rw [h.device]
    refine ⟨by decide, fun f l hmem => .inl ?_, fun f l hl => absurd hl (hlinks f l)⟩
    cases List.mem_singleton.1 hmem
    decide
  · exact h.publishes rndis (by decide) hrndis.symm rfl
  · rw [h.device] at hl
    exact absurd hl (hlinks f l)
  · by_cases hconfig : config ∈ atOnce
    · obtain ⟨r, hr, hsame, hready⟩ := mem_atOnce.1 hconfig
      exact .inl ⟨⟨r, hr, hsame, h.publishes r hr hsame hready⟩, h.silent.publishedRight⟩
    · exact .inr (iff_of_true h.silent.publishedRight fun hmem => absurd hmem hconfig)

/-- The rules for the value found are done. -/
theorem Overtaken.toMidi (h : Overtaken config i) (hactions : i.actions = []) :
    ToMidi config i := by
  have hnot (a : Action Property GadgetCommand) : a ∉ i.actions := by
    rw [hactions]
    exact List.not_mem_nil
  refine ⟨h.toBooting, fun a ha => absurd ha (hnot a), h.only, fun hrndis => ?_, ?_, .inl h.event⟩
  · exact (h.taken hrndis).resolve_left fun hmem => hnot _ hmem.1
  · exact h.right.resolve_left fun ⟨⟨r, _, _, hmem⟩, _⟩ => hnot _ hmem

end Charger

/-! ## Charger boot -/

/-- What a charger boot ends with. -/
structure Charged (config : String) (i : InitState) : Prop where
  idle : Idle i
  value : i.props .sysUsbConfig = "midi"
  state : i.props .sysUsbState = "midi"
  gives : midi.Gives i.device ↔ config ≠ "rndis"
  right : PublishedRight ⟨i, false⟩ ↔ (config ∈ atOnce → config = "midi")

theorem ToMidi.charged {config : String} {i : InitState} (h : ToMidi config i) (hidle : Idle i) :
    Charged config i := by
  have hpublished :
      i.props .sysUsbState = "midi" ∧ (config ≠ "rndis" → midi.Gives i.device) := by
    rcases h.coming with hevent | hmem | hpublished
    · rw [hidle.2] at hevent
      cases hevent
    · rw [hidle.1] at hmem
      cases hmem
    · exact hpublished
  refine ⟨hidle, h.value, hpublished.1, ⟨?_, hpublished.2⟩, h.right⟩
  rintro hgives rfl
  have hmem := (hgives.links .rndisGs4 .f1).1 (h.taken rfl)
  exact absurd hmem (by decide)

/-- Whatever the value and the port index at boot, a charger that is left alone comes to rest with
`midi` published. -/
theorem charger_midi {platform : List (Action Property GadgetCommand)}
    (hplatform : Configfs platform) (config portIndex : String) : ∃ n s',
    run (step platform) (start .charger config portIndex) (List.replicate n .turn) = .ok s' ∧
      Charged config s'.init := by
  obtain ⟨i, hturns, hentered, hevent⟩ := charger_entered hplatform config portIndex
  obtain ⟨i₁, hturns₁, hdone, hovertaken⟩ := Turns.lot
    (fun _ _ _ hi hactions => hi.run hactions) (hentered.overtaken hevent)
  obtain ⟨i₂, hturns₂, hidle, h⟩ := Turns.exists_idle hplatform
    (fun _ _ hi hturn => hi.turn hplatform hturn) (hovertaken.toMidi hdone)
  obtain ⟨n, hn⟩ := (hturns.trans hturns₁).trans hturns₂
  exact ⟨n, ⟨i₂, false⟩, hn false, h.charged hidle⟩

/-- With `rndis` and an empty port index. -/
theorem charger_midi_rndis : ∃ n s',
    run (step [platformNone]) (start .charger "rndis" "") (List.replicate n .turn) = .ok s' ∧
      Charged "rndis" s'.init :=
  charger_midi configfs_platformNone "rndis" ""

end RMX2020.Init
