import RMX2020.Init.Platform

/-!
# Changes that go through `none`

After a normal boot, whatever the platform's rules are (`Configfs`), what is published is right as
long as init is left to finish each change of the properties before the next (but for `adbd`, which
may stop being ready at any time), and `sys.usb.config` is only set to another value while it is
`none` (`orderly_published_right`). Either the gadget suits
the current value and every event and action that is pending belongs to it (`Settled`), or `none` is
being handled and nothing else is pending (`Clearing`).
-/

namespace RMX2020.Init

open Machine Trigger

/-! ## Gadgets that suit a value -/

/-- No function is linked, and the vendor is the default. -/
structure Clean (g : Gadget) : Prop where
  idVendor : g.attributes .idVendor = defaultVendor
  links : ∀ l, g.links l = none

/-- Every rule for this value may start; with `none`, every rule. -/
def Suits (config : String) (g : Gadget) : Prop :=
  if config = "none" then Clean g else ∀ r ∈ rules, r.config = config → r.Fits g

/-- The values that the rule for an empty port index may find. -/
def Direct (config : String) : Prop := config = "none" ∨ config = "adb"

/-- The functions that any rule links are there, or that rule makes them. -/
def Equipped (g : Gadget) : Prop := ∀ r ∈ rules, r.Made g

section Gadget

variable {g g' : Gadget} {w : Bool} {config config' : String} {r : Rule}

theorem Clean.fits (h : Clean g) (hmade : r.Made g) : r.Fits g := by
  refine ⟨fun _ => h.idVendor, fun f l hl => ?_, fun f l hmem _ => hmade f l hmem⟩
  rw [h.links l] at hl
  cases hl

theorem suits_none : Suits "none" g ↔ Clean g := by
  rw [Suits, if_pos rfl]

theorem suits_of_ne (h : config ≠ "none") :
    Suits config g ↔ ∀ r ∈ rules, r.config = config → r.Fits g := by
  rw [Suits, if_neg h]

/-- A clean gadget suits any value. -/
theorem Clean.suits (h : Clean g) (hequipped : Equipped g) (config : String) :
    Suits config g := by
  by_cases hnone : config = "none"
  · subst hnone
    exact suits_none.2 h
  · exact (suits_of_ne hnone).2 fun r hr _ => h.fits (hequipped r hr)

theorem Suits.fits (h : Suits config g) (hr : r ∈ rules) (hconfig : r.config = config) :
    r.Fits g := by
  subst hconfig
  exact (suits_of_ne (config_ne_none r hr)).1 h r hr rfl

theorem Adjusted.equipped (h : Adjusted w config g g') (hequipped : Equipped g) : Equipped g' :=
  fun r hr => h.made hr (hequipped r hr)

/-- The rules for a value, and those for `none`, leave a gadget that suits the value. -/
theorem Adjusted.suits (h : Adjusted w config' g g') (hconfig : config' = config ∨ config' = "none")
    (hequipped : Equipped g) (hsuits : Suits config g) : Suits config g' := by
  by_cases hnone : config = "none"
  · subst hnone
    obtain rfl : config' = "none" := hconfig.elim id id
    have hclean := suits_none.1 hsuits
    exact suits_none.2 ⟨h.vendor_none hclean.idVendor, fun l => h.link_none (hclean.links l)⟩
  · rw [suits_of_ne hnone] at hsuits ⊢
    rintro r hr rfl
    exact h.fits hr hconfig (hequipped r hr) (hsuits r hr rfl)

theorem Equipped.rule (h : Equipped g) (hr : r ∈ rules) (props : Property → String) :
    Equipped (execAll props r.commands g) :=
  fun r' hr' => (h r' hr').execAll props g (proper_of_mem r hr)

/-- The rule for a value leaves a gadget that suits it. -/
theorem Suits.rule (h : Suits r.config g) (hr : r ∈ rules) (hequipped : Equipped g)
    (props : Property → String) : Suits r.config (execAll props r.commands g) := by
  have hgives := (gives_iff_fits props g (proper_of_mem r hr)).2 (h.fits hr rfl)
  rw [suits_of_ne (config_ne_none r hr)]
  intro r' hr' hconfig
  obtain rfl := eq_of_config r hr r' hr' hconfig
  exact hgives.fits (hequipped.rule hr props r' hr)

variable {a : Action Property GadgetCommand} {i : InitState}

theorem Lined.equipped (h : Lined config a) (hequipped : Equipped i.device) :
    Equipped (a.run exec i).device := by
  rcases h with ⟨r, hr, -, rfl⟩ | haux
  · rw [Rule.run]
    exact hequipped.rule hr i.props
  · exact (haux.adjusted i).equipped hequipped

theorem Lined.suits (h : Lined config' a) (hconfig : config' = config ∨ config' = "none")
    (hequipped : Equipped i.device) (hsuits : Suits config i.device) :
    Suits config (a.run exec i).device := by
  rcases h with ⟨r, hr, rfl, rfl⟩ | haux
  · obtain rfl := hconfig.resolve_right (config_ne_none r hr)
    rw [Rule.run]
    exact hsuits.rule hr hequipped i.props
  · exact (haux.adjusted i).suits hconfig hequipped hsuits

end Gadget

/-! ## What is pending -/

/-- An action that may be lined up while `sys.usb.config` has a value: it belongs to this value or
to `none`. -/
def Expected (config : String) (a : Action Property GadgetCommand) : Prop :=
  a = portIndexEmpty ∧ Direct config ∨
    ∃ config', (config' = config ∨ config' = "none") ∧ Lined config' a

/-- The properties that stay as they are after boot. -/
def Fixed (name : Property) : Prop := name = .sysUsbConfigfs ∨ name = .roBootmode

instance : DecidablePred Fixed := fun _ => inferInstanceAs (Decidable (_ ∨ _))

structure Booted (i : InitState) : Prop where
  configfs : i.props .sysUsbConfigfs = "1"
  bootmode : i.props .roBootmode = "normal"
  events : ∀ v, some (.roBootmode, v) ∉ i.events
  equipped : Equipped i.device

/-- The gadget suits the value of `sys.usb.config`, and all that is pending belongs to it. -/
structure Settled (i : InitState) : Prop extends Booted i where
  suits : Suits (i.props .sysUsbConfig) i.device
  event_config : ∀ v, some (.sysUsbConfig, v) ∈ i.events →
    v = i.props .sysUsbConfig ∧ v ≠ "none"
  event_port : some (.persistVendorRadioPortIndex, "") ∈ i.events →
    Direct (i.props .sysUsbConfig)
  event_all : none ∈ i.events → i.props .persistVendorRadioPortIndex = "" →
    Direct (i.props .sysUsbConfig)
  actions : ∀ a ∈ i.actions, Expected (i.props .sysUsbConfig) a

/-- The command on the gadget is going to be run on `none`. -/
def Due (c : GadgetCommand) (i : InitState) : Prop :=
  some (.sysUsbConfig, "none") ∈ i.events ∨ ∃ a ∈ i.actions, .device c ∈ a.commands

/-- `none` is being handled: what is not clean yet is going to be. -/
structure Clearing (i : InitState) : Prop extends Booted i where
  config : i.props .sysUsbConfig = "none"
  pending : ∀ e ∈ i.events, e = some (.sysUsbConfig, "none") ∨ Quiet e
  actions : ∀ a ∈ i.actions, Auxiliary "none" a
  vendor : i.device.attributes .idVendor = defaultVendor ∨
    Due (.write .idVendor (.text defaultVendor)) i
  links : ∀ l, i.device.links l = none ∨ Due (.rm l) i

/-! ## While the gadget is settled -/

section Settled

variable {platform : List (Action Property GadgetCommand)} {i i' : InitState}
  {a : Action Property GadgetCommand} {name : Property} {value : String}

theorem Booted.set (h : Booted i) (hname : ¬Fixed name) : Booted (i.set name value) where
  configfs := (set_props_of_ne fun heq => hname (.inl heq.symm)).trans h.configfs
  bootmode := (set_props_of_ne fun heq => hname (.inr heq.symm)).trans h.bootmode
  events v hv := by
    rcases mem_set_events hv with hold | hnew
    · exact h.events v hold
    · cases hnew
      exact hname (.inr rfl)
  equipped := h.equipped

theorem Booted.set_config (h : Booted i) : Booted (i.set .sysUsbConfig value) :=
  h.set (by decide)

theorem Booted.beside (h : Booted i) (hbeside : Beside i i') (hequipped : Equipped i'.device) :
    Booted i' where
  configfs := (hbeside.props _ (by decide)).trans h.configfs
  bootmode := (hbeside.props _ (by decide)).trans h.bootmode
  events v hv := h.events v (hbeside.mem_events_some (by decide) hv)
  equipped := hequipped

theorem Booted.run_lined {config : String} {actions : List (Action Property GadgetCommand)}
    (h : Booted i) (ha : Lined config a) : Booted (a.run exec { i with actions := actions }) := by
  have htail : Booted { i with actions := actions } :=
    ⟨h.configfs, h.bootmode, h.events, h.equipped⟩
  exact htail.beside (ha.beside _) (ha.equipped h.equipped)

theorem Settled.beside (h : Settled i) (hbeside : Beside i i') (hequipped : Equipped i'.device)
    (hsuits : Suits (i.props .sysUsbConfig) i'.device) : Settled i' := by
  have hport := hbeside.props .persistVendorRadioPortIndex (by decide)
  refine ⟨h.toBooted.beside hbeside hequipped, ?_, fun v hv => ?_, fun hv => ?_, fun hv => ?_, ?_⟩
  · rwa [hbeside.config]
  · rw [hbeside.config]
    exact h.event_config v (hbeside.mem_events_some (by decide) hv)
  · rw [hbeside.config]
    exact h.event_port (hbeside.mem_events_some (by decide) hv)
  · rw [hbeside.config, hport]
    exact h.event_all (hbeside.mem_events_none hv)
  · rw [hbeside.config, hbeside.actions]
    exact h.actions

/-- The rule for an empty port index sets `sys.usb.config`. -/
theorem Settled.set_adb (h : Settled i) (hdirect : Direct (i.props .sysUsbConfig)) :
    Settled (i.set .sysUsbConfig "adb") := by
  have hprops : (i.set .sysUsbConfig "adb").props .sysUsbConfig = "adb" :=
    set_props_self
  have hadb : Direct "adb" := .inr rfl
  refine ⟨h.toBooted.set_config, ?_, fun v hv => ?_, fun _ => ?_, fun _ _ => ?_, fun a ha => ?_⟩
  · rw [hprops]
    have hsuits := h.suits
    rcases hdirect with hnone | hsame
    · rw [hnone, suits_none] at hsuits
      exact hsuits.suits h.equipped "adb"
    · rwa [hsame] at hsuits
  · rw [hprops]
    rcases mem_set_events hv with hold | hnew
    · obtain ⟨hv, hne⟩ := h.event_config v hold
      rcases hdirect with hnone | hsame
      · exact absurd (hv.trans hnone) hne
      · exact ⟨hv.trans hsame, hne⟩
    · cases hnew
      exact ⟨rfl, by decide⟩
  · rwa [hprops]
  · rwa [hprops]
  · rw [hprops]
    rcases h.actions a ha with ⟨rfl, -⟩ | ⟨config', hconfig | hconfig, hlined⟩
    · exact .inl ⟨rfl, hadb⟩
    · rcases hdirect with hnone | hsame
      · exact .inr ⟨config', .inr (hconfig.trans hnone), hlined⟩
      · exact .inr ⟨config', .inl (hconfig.trans hsame), hlined⟩
    · exact .inr ⟨config', .inr hconfig, hlined⟩

/-- The next action is run. -/
theorem Settled.run {actions : List (Action Property GadgetCommand)} (h : Settled i)
    (hactions : i.actions = a :: actions) : Settled (a.run exec { i with actions := actions }) := by
  have htail : Settled { i with actions := actions } :=
    ⟨⟨h.configfs, h.bootmode, h.events, h.equipped⟩, h.suits, h.event_config, h.event_port,
      h.event_all, fun a' ha' => h.actions a' (hactions ▸ List.mem_cons_of_mem a ha')⟩
  rcases h.actions a (hactions ▸ List.mem_cons_self) with ⟨rfl, hdirect⟩ | ⟨config, hconfig, hlined⟩
  · -- all but the log is as if somebody else had set the property
    have hbeside : Beside (State.set { i with actions := actions } .sysUsbConfig "adb")
        (portIndexEmpty.run exec { i with actions := actions }) :=
      ⟨fun _ _ => rfl, .inl rfl, .inl rfl, ⟨[], (List.append_nil _).symm, by simp⟩, rfl⟩
    have hset := htail.set_adb hdirect
    exact hset.beside hbeside hset.equipped hset.suits
  · exact htail.beside (hlined.beside _) (hlined.equipped h.equipped)
      (hlined.suits hconfig h.equipped h.suits)

/-- The actions an event triggers are the expected ones. -/
theorem Settled.expected (hplatform : Configfs platform) (h : Settled i) {e : Event Property}
    (he : e ∈ i.events) (ha : a ∈ table platform) (htriggered : a.triggered i.props e) :
    Expected (i.props .sysUsbConfig) a := by
  rcases table_lined hplatform ha with rfl | rfl | ⟨config, hlined⟩
  · refine .inl ⟨rfl, ?_⟩
    cases e with
    | none => exact h.event_all he (triggered_none htriggered _ List.mem_cons_self).symm
    | some set =>
      obtain ⟨name, value⟩ := set
      obtain ⟨⟨t, ht, hname⟩, hall⟩ := triggered_some htriggered
      have hvalue := hall t ht
      rw [if_pos hname] at hvalue
      obtain rfl := List.mem_singleton.1 ht
      subst hname hvalue
      exact h.event_port he
  · cases e with
    | none =>
      have hmode : "charger" = i.props .roBootmode :=
        triggered_none htriggered _ List.mem_cons_self
      rw [h.bootmode] at hmode
      exact absurd hmode (by decide)
    | some set =>
      obtain ⟨name, value⟩ := set
      obtain ⟨⟨t, ht, hname⟩, -⟩ := triggered_some htriggered
      obtain rfl := List.mem_singleton.1 ht
      subst hname
      exact absurd he (h.events value)
  · refine .inr ⟨config, .inl ?_, hlined⟩
    cases e with
    | none => exact triggered_none htriggered _ hlined.about.looks
    | some set =>
      obtain ⟨name, value⟩ := set
      rw [hlined.about.config_eq htriggered]
      split
      · next hname =>
        subst hname
        exact (h.event_config value he).1
      · rfl

/-- The next event is taken. -/
theorem Settled.take (hplatform : Configfs platform) (h : Settled i) {e : Event Property}
    {events : List (Event Property)} (hevents : i.events = e :: events) :
    Settled { i with
      events := events, actions := (table platform).filter (·.triggered i.props e) } := by
  have hrest {e' : Event Property} (he' : e' ∈ events) : e' ∈ i.events :=
    hevents ▸ List.mem_cons_of_mem e he'
  refine ⟨⟨h.configfs, h.bootmode, fun v hv => h.events v (hrest hv), h.equipped⟩, h.suits,
    fun v hv => h.event_config v (hrest hv), fun hv => h.event_port (hrest hv),
    fun hv => h.event_all (hrest hv), fun a ha => ?_⟩
  obtain ⟨hmem, htriggered⟩ := List.mem_filter.1 ha
  have he : e ∈ i.events := hevents ▸ List.mem_cons_self
  have hexpected : Expected (i.props .sysUsbConfig) a := h.expected hplatform he hmem htriggered
  exact hexpected

end Settled

/-! ## While `none` is being handled -/

section Clearing

variable {platform : List (Action Property GadgetCommand)} {i i' : InitState}
  {a : Action Property GadgetCommand} {c : GadgetCommand}

/-- What is due is done by the next action or remains due. -/
theorem Due.run {actions : List (Action Property GadgetCommand)} (h : Due c i)
    (hactions : i.actions = a :: actions) (ha : Auxiliary "none" a) :
    .device c ∈ a.commands ∨ Due c (a.run exec { i with actions := actions }) := by
  rcases h with hevent | ⟨a', ha', hc⟩
  · exact .inr (.inl ((ha.lined.beside { i with actions := actions }).events_subset hevent))
  · by_cases hsame : a = a'
    · subst hsame
      exact .inl hc
    · exact .inr (.inr ⟨a', mem_actions_run ha' hactions hsame, hc⟩)

theorem Due.beside (h : Due c i) (hbeside : Beside i i') : Due c i' := by
  rcases h with hevent | haction
  · exact .inl (hbeside.events_subset hevent)
  · refine .inr ?_
    rwa [hbeside.actions]

theorem Clearing.beside (h : Clearing i) (hbeside : Beside i i') (hdevice : i'.device = i.device) :
    Clearing i' := by
  refine ⟨h.toBooted.beside hbeside (hdevice ▸ h.equipped), hbeside.config.trans h.config,
    fun e he => (hbeside.mem_events he).elim (h.pending e) .inr, ?_, ?_, fun l => ?_⟩
  · rw [hbeside.actions]
    exact h.actions
  · rw [hdevice]
    exact h.vendor.imp_right (·.beside hbeside)
  · rw [hdevice]
    exact (h.links l).imp_right (·.beside hbeside)

theorem Clearing.run {actions : List (Action Property GadgetCommand)} (h : Clearing i)
    (hactions : i.actions = a :: actions) :
    Clearing (a.run exec { i with actions := actions }) := by
  obtain ⟨ha, hrest⟩ := forall_actions_run exec h.actions hactions
  have hbeside := ha.lined.beside { i with actions := actions }
  have hadjusted := ha.adjusted { i with actions := actions }
  refine ⟨h.toBooted.run_lined ha.lined, hbeside.config.trans h.config,
    fun e he => (hbeside.mem_events he).elim (h.pending e) .inr, hrest, ?_, fun l => ?_⟩
  · rcases h.vendor with hvendor | hdue
    · exact .inl (hadjusted.vendor_none hvendor)
    · have hdoes (j : InitState) : (Trigger.command exec a j (.device
          (.write .idVendor (.text defaultVendor)))).device.attributes .idVendor = defaultVendor :=
        exec_write_self
      exact (hdue.run hactions ha).imp_left fun hc =>
        Action.run_of_mem (P := fun j => j.device.attributes .idVendor = defaultVendor) hc hdoes
          (fun c hc j hj => (Adjusted.command (ha.commands c hc) a j).vendor_none hj) _
  · rcases h.links l with hl | hdue
    · exact .inl (hadjusted.link_none hl)
    · have hdoes (j : InitState) :
          (Trigger.command exec a j (.device (.rm l))).device.links l = none :=
        Function.update_self ..
      exact (hdue.run hactions ha).imp_left fun hc =>
        Action.run_of_mem (P := fun j => j.device.links l = none) hc hdoes
          (fun c hc j hj => (Adjusted.command (ha.commands c hc) a j).link_none hj) _

/-- The rules for `none` are lined up when its event is taken. -/
theorem mem_filter_none (hplatform : Configfs platform) (hconfigfs : i.props .sysUsbConfigfs = "1")
    (ha : a ∈ table platform) (hmem : (.sysUsbConfig, "none") ∈ a.triggers) :
    a ∈ (table platform).filter (·.triggered i.props (some (.sysUsbConfig, "none"))) := by
  have habout := (lined_of_mem hplatform ha hmem).about
  exact List.mem_filter.2 ⟨ha, habout.triggered habout.waits_none hconfigfs⟩

theorem Clearing.take (hplatform : Configfs platform) (h : Clearing i) {e : Event Property}
    {events : List (Event Property)} (hactions : i.actions = [])
    (hevents : i.events = e :: events) :
    Clearing { i with
      events := events, actions := (table platform).filter (·.triggered i.props e) } := by
  have hrest {e' : Event Property} (he' : e' ∈ events) : e' ∈ i.events :=
    hevents ▸ List.mem_cons_of_mem e he'
  have hbooted : Booted { i with
      events := events, actions := (table platform).filter (·.triggered i.props e) } :=
    ⟨h.configfs, h.bootmode, fun v hv => h.events v (hrest hv), h.equipped⟩
  rcases h.pending e (hevents ▸ List.mem_cons_self) with rfl | hquiet
  · have hdue {a : Action Property GadgetCommand} {c : GadgetCommand} (ha : a ∈ table platform)
        (hmem : (.sysUsbConfig, "none") ∈ a.triggers) (hc : .device c ∈ a.commands) :
        Due c { i with
          events := events
          actions := (table platform).filter
            (·.triggered i.props (some (.sysUsbConfig, "none"))) } :=
      .inr ⟨a, mem_filter_none hplatform h.configfs ha hmem, hc⟩
    refine ⟨hbooted, h.config, fun e' he' => h.pending e' (hrest he'), fun a ha => ?_, .inr ?_,
      fun l => .inr ?_⟩
    · obtain ⟨hmem, htriggered⟩ := List.mem_filter.1 ha
      have hlined := lined_of_triggered hplatform hmem (by decide) htriggered
      rw [if_pos rfl] at hlined
      exact hlined.auxiliary
    · exact hdue noneRule_mem (by decide) (by decide)
    · obtain ⟨a, ha, hmem, hc⟩ := exists_removes hplatform l
      exact hdue ha hmem hc
  · have hfilter := filter_quiet hplatform hquiet i.props
    have hkept {c : GadgetCommand} (hdue : Due c i) : Due c { i with
        events := events, actions := (table platform).filter (·.triggered i.props e) } := by
      rcases hdue with hevent | ⟨a, ha, -⟩
      · rw [hevents] at hevent
        rcases List.mem_cons.1 hevent with rfl | hevent
        · rcases hquiet.reporting with heq | heq <;> cases heq
        · exact .inl hevent
      · rw [hactions] at ha
        cases ha
    refine ⟨hbooted, h.config, fun e' he' => h.pending e' (hrest he'), fun a ha => ?_,
      h.vendor.imp_right hkept, fun l => (h.links l).imp_right hkept⟩
    rw [hfilter] at ha
    cases ha

theorem Clearing.turn (hplatform : Configfs platform) (h : Clearing i)
    (hturn : turn exec (table platform) i = .ok i') : Clearing i' :=
  turn_cases hturn (fun _ _ hactions => h.run hactions)
    fun _ _ hactions hevents => h.take hplatform hactions hevents

end Clearing

/-! ## Orderly runs -/

/-- Nothing is pending. -/
def Idle (i : InitState) : Prop := i.actions = [] ∧ i.events = []

/-- Properties are set when init is idle, and `sys.usb.config` to another value only while it is
`none`; but `adbd` may stop being ready at any time. -/
def Orderly (s : SystemState) : Step → Prop
  | .frameworkNone => Idle s.init
  | .ffsReady ready => ready = true → Idle s.init
  | .framework _ => Idle s.init ∧ s.init.props .sysUsbConfig = "none"
  | .portIndex value => Idle s.init ∧ (value = "" → Direct (s.init.props .sysUsbConfig))
  | .turn => True

instance (s : SystemState) : ∀ a, Decidable (Orderly s a)
  | .frameworkNone => inferInstanceAs (Decidable (_ ∧ _))
  | .ffsReady _ => inferInstanceAs (Decidable (_ → _ ∧ _))
  | .framework _ => inferInstanceAs (Decidable ((_ ∧ _) ∧ _))
  | .portIndex _ => inferInstanceAs (Decidable ((_ ∧ _) ∧ (_ → _ ∨ _)))
  | .turn => inferInstanceAs (Decidable True)

/-- What orderly steps keep. -/
inductive Ordered (i : InitState) : Prop
  | settled (h : Settled i)
  | clearing (h : Clearing i)

section Ordered

variable {platform : List (Action Property GadgetCommand)} {i : InitState} {name : Property}
  {value : String}

/-- Nothing is pending on a gadget that suits the value. -/
theorem Idle.settle (hidle : Idle i) (hbooted : Booted i)
    (hsuits : Suits (i.props .sysUsbConfig) i.device) : Settled i := by
  obtain ⟨hactions, hevents⟩ := hidle
  refine ⟨hbooted, hsuits, fun v hv => ?_, fun hv => ?_, fun hv => ?_, fun a ha => ?_⟩
  · rw [hevents] at hv
    cases hv
  · rw [hevents] at hv
    cases hv
  · rw [hevents] at hv
    cases hv
  · rw [hactions] at ha
    cases ha

theorem Idle.not_due (hidle : Idle i) (c : GadgetCommand) : ¬Due c i := by
  obtain ⟨hactions, hevents⟩ := hidle
  rintro (hevent | ⟨a, ha, -⟩)
  · rw [hevents] at hevent
    cases hevent
  · rw [hactions] at ha
    cases ha

/-- The rules for `none` leave a clean gadget. -/
theorem Clearing.clean (h : Clearing i) (hidle : Idle i) : Clean i.device where
  idVendor := h.vendor.resolve_right (hidle.not_due _)
  links l := (h.links l).resolve_right (hidle.not_due _)

theorem Ordered.settled_of_idle (h : Ordered i) (hidle : Idle i) : Settled i := by
  cases h with
  | settled h => exact h
  | clearing h =>
    refine hidle.settle h.toBooted ?_
    rw [h.config, suits_none]
    exact h.clean hidle

/-- One property is set when init is idle. -/
theorem Idle.settled (hidle : Idle i) (hbooted : Booted i) (hname : ¬Fixed name)
    (hsuits : Suits ((i.set name value).props .sysUsbConfig) i.device)
    (hconfig : name = .sysUsbConfig → value ≠ "none")
    (hport : name = .persistVendorRadioPortIndex → value = "" →
      Direct (i.props .sysUsbConfig)) : Settled (i.set name value) := by
  have hevents {e : Event Property} (he : e ∈ (i.set name value).events) :
      e = some (name, value) := by
    rcases mem_set_events he with hold | hnew
    · rw [hidle.2] at hold
      cases hold
    · exact hnew
  refine ⟨hbooted.set hname, hsuits, fun v hv => ?_, fun hv => ?_, fun hv => ?_,
    fun a ha => ?_⟩
  · cases hevents hv
    exact ⟨set_props_self.symm, hconfig rfl⟩
  · cases hevents hv
    rw [set_props_of_ne (by decide)]
    exact hport rfl rfl
  · cases hevents hv
  · have hnil : (i.set name value).actions = [] := hidle.1
    rw [hnil] at ha
    cases ha

/-- `none` is set when init is idle. -/
theorem Idle.set_none (hidle : Idle i) (hbooted : Booted i) :
    Clearing (i.set .sysUsbConfig "none") := by
  obtain ⟨hactions, hevents⟩ := hidle
  have hevent : some (.sysUsbConfig, "none") ∈ (i.set .sysUsbConfig "none").events :=
    List.mem_append_right _ List.mem_cons_self
  refine ⟨hbooted.set_config, set_props_self, fun e he => ?_, fun a ha => ?_, .inr (.inl hevent),
    fun l => .inr (.inl hevent)⟩
  · rcases mem_set_events he with hold | hnew
    · rw [hevents] at hold
      cases hold
    · exact .inl hnew
  · have hnil : (i.set .sysUsbConfig "none").actions = [] := hactions
    rw [hnil] at ha
    cases ha

/-- What an orderly step keeps. -/
theorem Ordered.step (hplatform : Configfs platform) {s s' : SystemState} {a : Step}
    (h : Ordered s.init) (ha : Orderly s a) (hstep : step platform s a = .ok s') :
    Ordered s'.init := by
  cases a with
  | frameworkNone =>
    cases hstep
    exact .clearing (ha.set_none (h.settled_of_idle ha).toBooted)
  | framework config =>
    obtain ⟨-, rfl⟩ := ite_ok_eq_ok.1 hstep
    obtain ⟨hidle, hnone⟩ := ha
    have hsettled := h.settled_of_idle hidle
    have hclean := hsettled.suits
    rw [hnone, suits_none] at hclean
    by_cases hconfig : config = "none"
    · subst hconfig
      exact .clearing (hidle.set_none hsettled.toBooted)
    · exact .settled (hidle.settled hsettled.toBooted (by decide)
        (hclean.suits hsettled.equipped _) (fun _ => hconfig) fun heq => by cases heq)
  | ffsReady ready =>
    cases hstep
    cases ready with
    | true =>
      have hidle : Idle s.init := ha rfl
      have hsettled := h.settled_of_idle hidle
      refine .settled (hidle.settled hsettled.toBooted (by decide) ?_
        (fun heq => by cases heq) fun heq => by cases heq)
      rw [set_props_of_ne (by decide)]
      exact hsettled.suits
    | false =>
      cases h with
      | settled h => exact .settled (h.beside (.not_ready _) h.equipped h.suits)
      | clearing h => exact .clearing (h.beside (.not_ready _) rfl)
  | portIndex value =>
    cases hstep
    obtain ⟨hidle, hdirect⟩ := ha
    have hsettled := h.settled_of_idle hidle
    refine .settled (hidle.settled hsettled.toBooted (by decide) ?_
      (fun heq => by cases heq) fun _ => hdirect)
    rw [set_props_of_ne (by decide)]
    exact hsettled.suits
  | turn =>
    obtain ⟨i', hturn, rfl⟩ := step_turn hstep
    cases h with
    | settled h =>
      exact .settled (turn_cases hturn (fun _ _ hactions => h.run hactions)
        fun _ _ _ hevents => h.take hplatform hevents)
    | clearing h => exact .clearing (h.turn hplatform hturn)

/-- A rule that publishes starts on a gadget that fits it. -/
theorem Ordered.startsFitting {s : SystemState} (h : Ordered s.init) (a : Step) :
    StartsFitting s a := by
  cases a with
  | turn =>
    intro r hr hhead
    have hmem := List.mem_of_mem_head? hhead
    have hlooks := (about_action hr).looks
    cases h with
    | settled h =>
      rcases h.actions r.action hmem with ⟨heq, -⟩ | ⟨config, hconfig, hlined⟩
      · rw [heq] at hlooks
        cases List.mem_singleton.1 hlooks
      · obtain rfl := hlined.about.eq_of_mem hlooks
        have hsame := hconfig.resolve_right (config_ne_none r hr)
        exact ⟨hsame.symm, h.suits.fits hr hsame⟩
    | clearing h =>
      have hnone := (h.actions r.action hmem).eq_of_mem hlooks
      exact absurd hnone (config_ne_none r hr)
  | frameworkNone | framework _ | ffsReady _ | portIndex _ => trivial

end Ordered

theorem equipped_normal : Equipped Boot.normal.gadget :=
  fun _ _ f _ _ => .inl (by cases f <;> decide)

theorem booted_start (config portIndex : String) :
    Booted (start .normal config portIndex).init where
  configfs := rfl
  bootmode := rfl
  events v hv := by cases List.mem_singleton.1 hv
  equipped := equipped_normal

theorem clean_normal : Clean Boot.normal.gadget := ⟨rfl, fun _ => rfl⟩

theorem ordered_start (config portIndex : String) (h : portIndex = "" → Direct config) :
    Ordered (start .normal config portIndex).init := by
  have hbooted := booted_start config portIndex
  refine .settled ⟨hbooted, clean_normal.suits hbooted.equipped config, fun v hv => ?_,
    fun hv => ?_, fun _ => h, fun a ha => nomatch ha⟩
  · cases List.mem_singleton.1 hv
  · cases List.mem_singleton.1 hv

/-- After a normal boot, orderly runs publish nothing but what is right. -/
theorem orderly_published_right {platform : List (Action Property GadgetCommand)}
    (hplatform : Configfs platform) {config portIndex : String} {acts : List Step}
    {s' : SystemState} (hport : portIndex = "" → Direct config)
    (hrun : run (step platform) (start .normal config portIndex) acts = .ok s')
    (horderly : Guarded (step platform) Orderly (start .normal config portIndex) acts) :
    Throughout (step platform) PublishedRight (start .normal config portIndex) acts := by
  refine (throughout_publishedRight_iff hrun fun _ he => nomatch he).2 ?_
  exact horderly.imp (I := fun s => Ordered s.init)
    (fun s a s' h ha hstep => h.step hplatform ha hstep) (fun s a h _ => h.startsFitting a)
    (ordered_start config portIndex hport)

/-- From `none` to `mtp`, with init left to finish each change. -/
def orderlyToMtp : List Step :=
  [.turn, .turn, .turn, .turn, .frameworkNone, .turn, .turn, .turn, .turn, .framework "mtp",
    .turn, .turn, .turn, .ffsReady true, .turn]

theorem orderly_published_right_mtp :
    Throughout (step [platformNone]) PublishedRight (start .normal "none" "0") orderlyToMtp :=
  orderly_published_right configfs_platformNone (fun h => absurd h (by decide))
    (run_eq_ok_final (by decide +kernel)) (by decide +kernel)

end RMX2020.Init
