import RMX2020.Init.Switch

/-!
# From boot

What init comes to when it is left alone after a normal boot, whatever `sys.usb.config` and the port
index are then, and whatever the platform's rules are (`Configfs`). The rules that the state at boot
lines up are those for the value found there that do not wait for `adbd` (`Prompt`), after the one
for an empty port index, which sets `sys.usb.config` to `adb` under them.

If one of them publishes, the gadget is made for the value found, and what is published is the value
by then, which is wrong exactly if the port index was empty (`Published`); what comes after that
leaves the gadget alone. If none does, nothing is published, and no rule's product is in the gadget
(`Withheld`). `normal_boot` says so of every boot.
-/

namespace RMX2020.Init

open Machine Trigger

/-- The configurations whose rules do not wait for `adbd`. -/
def atOnce : List String := (rules.filter fun r => r.ready = false).map Rule.config

/-! ## Rules that do not wait -/

/-- A rule for a configuration that does not wait for `adbd`. -/
def Prompt (config : String) (a : Action Property GadgetCommand) : Prop :=
  Lined config a ∧ waits a = false

section Prompt

variable {config : String} {a : Action Property GadgetCommand}

theorem Prompt.cases (h : Prompt config a) :
    (∃ r ∈ rules, r.config = config ∧ r.ready = false ∧ a = r.action) ∨ Auxiliary config a := by
  obtain ⟨⟨r, hr, hconfig, rfl⟩ | haux, hwaits⟩ := h
  · exact .inl ⟨r, hr, hconfig, (waits_action r hr).symm.trans hwaits, rfl⟩
  · exact .inr haux

theorem mem_atOnce : config ∈ atOnce ↔ ∃ r ∈ rules, r.config = config ∧ r.ready = false := by
  simp only [atOnce, List.mem_map, List.mem_filter, decide_eq_true_eq, and_assoc]
  exact exists_congr fun r => and_congr_right fun _ => and_comm

/-- Where no rule publishes at once, those that do not wait do not publish. -/
theorem Prompt.auxiliary (h : Prompt config a) (hconfig : config ∉ atOnce) :
    Auxiliary config a := by
  rcases h.cases with ⟨r, hr, hsame, hready, -⟩ | haux
  · exact absurd (mem_atOnce.2 ⟨r, hr, hsame, hready⟩) hconfig
  · exact haux

theorem adb_not_atOnce : "adb" ∉ atOnce := by decide

end Prompt

/-! ## The state of init -/

/-- `adbd` is not ready, `sys.usb.config` has the value `cur`, and what is pending was lined up by
it or by the rule for an empty port index. -/
structure Booting (cur : String) (i : InitState) : Prop where
  configfs : i.props .sysUsbConfigfs = "1"
  value : i.props .sysUsbConfig = cur
  ready : i.props .sysUsbFfsReady ≠ "1"
  pending : ∀ e ∈ i.events,
    (∃ v, (v = "adb" ∨ v = cur) ∧ e = some (.sysUsbConfig, v)) ∨ Quiet e

/-- No rule of this file has published. -/
def Silent (i : InitState) : Prop := ∀ e ∈ i.sets, e.action ∈ usbRc → e.name ≠ .sysUsbState

section Booting

variable {platform : List (Action Property GadgetCommand)} {config cur : String} {i i' : InitState}
  {a : Action Property GadgetCommand} {actions : List (Action Property GadgetCommand)}
  {e : Event Property} {events : List (Event Property)}

theorem Booting.beside (h : Booting cur i) (hbeside : Beside i i') : Booting cur i' where
  configfs := (hbeside.props _ (by decide)).trans h.configfs
  value := hbeside.config.trans h.value
  ready := by
    rcases hbeside.ready with hsame | hzero
    · rw [hsame]
      exact h.ready
    · rw [hzero]
      decide
  pending e he := (hbeside.mem_events he).elim (h.pending e) .inr

theorem Booting.run (h : Booting cur i) (ha : Lined config a) :
    Booting cur (a.run exec { i with actions := actions }) := by
  have htail : Booting cur { i with actions := actions } :=
    ⟨h.configfs, h.value, h.ready, h.pending⟩
  exact htail.beside (ha.beside _)

theorem Booting.take (h : Booting cur i) (hevents : i.events = e :: events) :
    Booting cur { i with events := events, actions := actions } :=
  ⟨h.configfs, h.value, h.ready, fun e' he' => h.pending e' (hevents ▸ List.mem_cons_of_mem e he')⟩

/-- What is pending lines up only rules that do not wait. -/
theorem Booting.prompt (hplatform : Configfs platform) (h : Booting cur i) (he : e ∈ i.events)
    (ha : a ∈ (table platform).filter (·.triggered i.props e)) :
    ∃ v, (v = "adb" ∨ v = cur) ∧ Prompt v a := by
  rcases h.pending e he with ⟨v, hv, rfl⟩ | hquiet
  · obtain ⟨hmem, htriggered⟩ := List.mem_filter.1 ha
    have hlined := lined_of_triggered hplatform hmem (by decide) htriggered
    rw [if_pos rfl] at hlined
    refine ⟨v, hv, hlined, decide_eq_false fun hwaits => ?_⟩
    have hready := (triggered_some htriggered).2 _ hwaits
    rw [if_neg (by decide)] at hready
    exact h.ready hready.symm
  · rw [filter_quiet hplatform hquiet] at ha
    cases ha

theorem Silent.publishedRight (h : Silent i) : PublishedRight ⟨i, false⟩ :=
  fun e he hfile hname => absurd hname (h e he hfile)

theorem Silent.run (h : Silent i) (ha : ∀ r ∈ rules, a ≠ r.action) : Silent (a.run exec i) := by
  obtain ⟨new, hsets, hnew⟩ := run_sets_other ha i
  unfold Silent
  rw [hsets, List.forall_mem_append]
  exact ⟨h, hnew⟩

theorem Turns.trans {i₁ : InitState} (h : Turns platform i i₁) (h' : Turns platform i₁ i') :
    Turns platform i i' := by
  obtain ⟨n, hn⟩ := h
  obtain ⟨m, hm⟩ := h'
  refine ⟨n + m, fun noneSet => ?_⟩
  rw [List.replicate_add, run_append_ok (hn noneSet), hm noneSet]

/-- Init runs the actions that are lined up, and what each of them keeps holds then. -/
theorem Turns.lot {I : InitState → Prop}
    (hrun : ∀ i a actions, I i → i.actions = a :: actions →
      I (a.run exec { i with actions := actions })) (hi : I i) :
    ∃ i', Turns platform i i' ∧ i'.actions = [] ∧ I i' := by
  induction hactions : i.actions generalizing i with
  | nil => exact ⟨i, .refl i, hactions, hi⟩
  | cons a actions ih =>
    have hrest : (a.run exec { i with actions := actions }).actions = actions :=
      run_actions exec a _
    obtain ⟨i', hturns, hdone, hi'⟩ := ih (hrun i a actions hi hactions) hrest
    exact ⟨i', .head (turn_run hactions) hturns, hdone, hi'⟩

end Booting

/-! ## The first turns -/

/-- The rules for the value found at boot are lined up, on the gadget that boot has made. -/
structure Entered (boot : Boot) (config cur : String) (i : InitState) : Prop
    extends Booting cur i where
  actions : ∀ a ∈ i.actions, Prompt config a
  publishes : ∀ r ∈ rules, r.config = config → r.ready = false → r.action ∈ i.actions
  device : i.device = boot.gadget
  state : i.props .sysUsbState = ""
  silent : Silent i

/-- The state at boot once it has been looked at, but for the rules that overwrite
`sys.usb.config`. -/
def entry (platform : List (Action Property GadgetCommand)) (boot : Boot)
    (config portIndex : String) : InitState :=
  { (start boot config portIndex).init with
    events := []
    actions := (configRules platform).filter
      (·.triggered (start boot config portIndex).init.props none) }

section Entered

variable {platform : List (Action Property GadgetCommand)} {boot : Boot}
  {config cur portIndex value : String} {i : InitState} {a : Action Property GadgetCommand}

theorem entered_entry (hplatform : Configfs platform) (boot : Boot) (config portIndex : String) :
    Entered boot config config (entry platform boot config portIndex) := by
  have hready : "" ≠ "1" := by decide
  refine ⟨⟨rfl, rfl, hready, fun e he => ?_⟩, fun a ha => ?_, fun r hr hconfig hready => ?_, rfl,
    rfl, fun e he => ?_⟩
  · exact absurd he List.not_mem_nil
  · obtain ⟨hmem, htriggered⟩ := List.mem_filter.1 ha
    have hall := triggered_none htriggered
    obtain ⟨config', hlined⟩ := configRules_lined hplatform hmem
    obtain rfl : config' = config := hall _ hlined.about.looks
    refine ⟨hlined, decide_eq_false fun hwaits => ?_⟩
    exact absurd (hall _ hwaits) (by decide : "1" ≠ "")
  · have hmem : ∀ r ∈ rules, r.action ∈ usbRc.tail := by decide
    refine List.mem_filter.2 ⟨List.mem_append_left _ (hmem r hr), ?_⟩
    subst hconfig
    simp [Action.triggered, Rule.action, Rule.triggers, hready, start]
  · exact absurd he List.not_mem_nil

/-- A rule overwrites `sys.usb.config` before those that are lined up. -/
theorem Entered.overwrite (h : Entered boot config cur i) (ha : ∀ r ∈ rules, a ≠ r.action)
    (hcommands : a.commands = [.setprop .sysUsbConfig (.text value)])
    (hpending : ∀ e ∈ i.events, e = some (.sysUsbConfig, "adb")) :
    Entered boot config value (a.run exec i) := by
  have hrun : a.run exec i = Trigger.command exec a i (.setprop .sysUsbConfig (.text value)) := by
    rw [Action.run, hcommands]
    rfl
  have hset : Booting value (i.set .sysUsbConfig value) := by
    refine ⟨?_, set_props_self, ?_, fun e he => ?_⟩
    · rw [set_props_of_ne (by decide)]
      exact h.configfs
    · rw [set_props_of_ne (by decide)]
      exact h.ready
    · rcases mem_set_events he with hold | hnew
      · exact .inl ⟨"adb", .inl rfl, hpending e hold⟩
      · exact .inl ⟨value, .inr rfl, hnew⟩
  have hstate : (i.set .sysUsbConfig value).props .sysUsbState = "" :=
    (set_props_of_ne (by decide)).trans h.state
  have hsilent := h.silent.run ha
  rw [hrun] at hsilent ⊢
  exact ⟨⟨hset.configfs, hset.value, hset.ready, hset.pending⟩, h.actions, h.publishes, h.device,
    hstate, hsilent⟩

theorem portIndexEmpty_ne : ∀ r ∈ rules, portIndexEmpty ≠ r.action := by decide

/-- The first turns of a normal boot. -/
theorem normal_entered (hplatform : Configfs platform) (config portIndex : String) :
    ∃ i, Turns platform (start .normal config portIndex).init i ∧
      Entered .normal config (if portIndex = "" then "adb" else config) i := by
  have hentered := entered_entry hplatform .normal config portIndex
  have htake : turn exec (table platform) (start .normal config portIndex).init = _ :=
    turn_take rfl rfl
  have hboot : ¬bootmodeCharger.triggered (start .normal config portIndex).init.props none := by
    intro h
    exact absurd (triggered_none h _ List.mem_cons_self) (by decide : "charger" ≠ "normal")
  rw [table_eq] at htake
  by_cases hport : portIndex = ""
  · subst hport
    have hempty : portIndexEmpty.triggered (start .normal config "").init.props none := rfl
    rw [List.filter_cons_of_pos hempty, List.filter_cons_of_neg hboot] at htake
    have hrun : turn exec (table platform) { entry platform .normal config "" with
        actions := portIndexEmpty :: (entry platform .normal config "").actions } = _ :=
      turn_run rfl
    exact ⟨_, .head htake (.head hrun (.refl _)),
      hentered.overwrite portIndexEmpty_ne rfl fun e he => absurd he List.not_mem_nil⟩
  · have hfilled : ¬portIndexEmpty.triggered (start .normal config portIndex).init.props none := by
      intro h
      exact hport (triggered_none h _ List.mem_cons_self).symm
    rw [List.filter_cons_of_neg hfilled, List.filter_cons_of_neg hboot] at htake
    rw [if_neg hport]
    exact ⟨_, .head htake (.refl _), hentered⟩

end Entered

/-! ## A rule that publishes at once -/

/-- The rule has made its gadget, and published the value of `sys.usb.config`. -/
structure Done (r : Rule) (cur : String) (i : InitState) : Prop where
  gives : r.Gives i.device
  state : i.props .sysUsbState = cur
  right : PublishedRight ⟨i, false⟩ ↔ cur = r.config

/-- The rule is among those that are lined up first, or has been. -/
structure Publishing (r : Rule) (cur : String) (i : InitState) : Prop extends Booting cur i where
  actions : ∀ a ∈ i.actions, Prompt r.config a
  made : r.Made i.device
  fits : r.Fits i.device
  done : r.action ∈ i.actions ∧ Silent i ∨ Done r cur i

/-- The rule has published, and nothing that is pending changes that. -/
structure Published (r : Rule) (cur : String) (i : InitState) : Prop extends Booting cur i where
  actions : ∀ a ∈ i.actions, ∃ v, (v = "adb" ∨ v = cur) ∧ Prompt v a
  made : r.Made i.device
  done : Done r cur i

section Published

variable {platform : List (Action Property GadgetCommand)} {r : Rule} {cur value : String}
  {i i' : InitState} {a : Action Property GadgetCommand}
  {actions : List (Action Property GadgetCommand)}

theorem done_run (hr : r ∈ rules) (hvalue : i.props .sysUsbConfig = cur) (hfits : r.Fits i.device)
    (hright : cur = r.config → PublishedRight ⟨i, false⟩) : Done r cur (r.action.run exec i) where
  gives := by
    rw [Rule.run]
    exact (gives_iff_fits i.props i.device (proper_of_mem r hr)).2 hfits
  state := (Rule.run_state r i).trans hvalue
  right := by
    rw [publishedRight_run_rule hr, hvalue]
    exact ⟨fun h => h.2.1, fun h => ⟨hright h, h, hfits⟩⟩

/-- Every rule takes the name that `adb` links. -/
theorem Rule.Gives.adb_taken {g : Gadget} (hr : r ∈ rules) (h : r.Gives g) (f : UsbFunction)
    (l : Link) (hmem : (f, l) ∈ adb.links) : g.links l ≠ none := by
  have hlinks : ∀ r ∈ rules, ∃ f, (f, .f1) ∈ r.links := by decide
  obtain ⟨f', hf'⟩ := hlinks r hr
  cases List.mem_singleton.1 hmem
  exact h.taken f' .f1 hf'

/-- The rules that do not publish leave it at that. -/
theorem Done.auxiliary (hr : r ∈ rules) (h : Done r cur i) (hvalue : i.props .sysUsbConfig = cur)
    (hv : value = "adb" ∨ value = r.config) (ha : Auxiliary value a) :
    Done r cur (a.run exec i) where
  gives := by
    have hadjusted := ha.adjusted i
    rcases hv with rfl | rfl
    · have hadb : adb ∈ rules := by decide
      exact Adjusted.gives hadjusted hadb (h.gives.adb_taken hr) h.gives
    · exact hadjusted.gives hr h.gives.taken h.gives
  state := by
    rcases (ha.lined.beside i).state with hsame | hpublished
    · rw [hsame, h.state]
    · rw [hpublished, hvalue]
  right := (publishedRight_run_other (fun _ hr' => ha.ne_action hr') i false).trans h.right

theorem Publishing.run (hr : r ∈ rules) (h : Publishing r cur i)
    (hactions : i.actions = a :: actions) :
    Publishing r cur (a.run exec { i with actions := actions }) := by
  obtain ⟨ha, hrest⟩ := forall_actions_run exec h.actions hactions
  rcases ha.cases with ⟨r', hr', hsame, -, rfl⟩ | haux
  · obtain rfl := eq_of_config r hr r' hr' hsame
    have hright : cur = r'.config → PublishedRight ⟨{ i with actions := actions }, false⟩ := by
      rcases h.done with ⟨-, hsilent⟩ | hdone
      · exact fun _ => hsilent.publishedRight
      · exact hdone.right.2
    have hdone : Done r' cur (r'.action.run exec { i with actions := actions }) :=
      done_run hr h.value h.fits hright
    have hmade : r'.Made (r'.action.run exec { i with actions := actions }).device := by
      rw [Rule.run]
      exact h.made.execAll _ _ (proper_of_mem r' hr)
    exact ⟨h.toBooting.run ha.1, hrest, hmade, hdone.gives.fits hmade, .inr hdone⟩
  · have hadjusted := haux.adjusted { i with actions := actions }
    refine ⟨h.toBooting.run ha.1, hrest, hadjusted.made hr h.made,
      hadjusted.fits hr (.inl rfl) h.made h.fits, ?_⟩
    rcases h.done with ⟨hmem, hsilent⟩ | hdone
    · have hsilent' : Silent { i with actions := actions } := hsilent
      exact .inl ⟨mem_actions_run hmem hactions (haux.ne_action hr),
        hsilent'.run fun _ hr' => haux.ne_action hr'⟩
    · have hdone' : Done r cur { i with actions := actions } :=
        ⟨hdone.gives, hdone.state, hdone.right⟩
      exact .inr (hdone'.auxiliary hr h.value (.inr rfl) haux)

theorem Published.run (hr : r ∈ rules) (hcur : cur = "adb" ∨ cur = r.config)
    (h : Published r cur i) (hactions : i.actions = a :: actions) :
    Published r cur (a.run exec { i with actions := actions }) := by
  obtain ⟨⟨v, hv, ha⟩, hrest⟩ := forall_actions_run exec h.actions hactions
  have hdone : Done r cur { i with actions := actions } :=
    ⟨h.done.gives, h.done.state, h.done.right⟩
  have hv' : v = "adb" ∨ v = r.config := by
    rcases hv with rfl | rfl
    · exact .inl rfl
    · exact hcur
  rcases ha.cases with ⟨r', hr', rfl, hready, rfl⟩ | haux
  · -- of the two values only that of the rule has one that does not wait
    have hsame : r'.config = r.config := by
      refine hv'.resolve_left fun hadb => adb_not_atOnce ?_
      exact mem_atOnce.2 ⟨r', hr', hadb, hready⟩
    obtain rfl := eq_of_config r hr r' hr' hsame
    have hmade : r'.Made (r'.action.run exec { i with actions := actions }).device := by
      rw [Rule.run]
      exact h.made.execAll _ _ (proper_of_mem r' hr)
    exact ⟨h.toBooting.run ha.1, hrest, hmade,
      done_run hr h.value (hdone.gives.fits h.made) hdone.right.2⟩
  · exact ⟨h.toBooting.run ha.1, hrest, (haux.adjusted _).made hr h.made,
      hdone.auxiliary hr h.value hv' haux⟩

theorem Published.turn (hplatform : Configfs platform) (hr : r ∈ rules)
    (hcur : cur = "adb" ∨ cur = r.config) (h : Published r cur i)
    (hturn : turn exec (table platform) i = .ok i') : Published r cur i' := by
  refine turn_cases hturn (fun a actions hactions => h.run hr hcur hactions)
    fun e events _ hevents => ⟨h.toBooting.take hevents, fun a ha => ?_, h.made,
      ⟨h.done.gives, h.done.state, h.done.right⟩⟩
  have he : e ∈ i.events := hevents ▸ List.mem_cons_self
  exact h.prompt hplatform he ha

/-- Init publishes, and comes to rest. -/
theorem exists_published (hplatform : Configfs platform) (hr : r ∈ rules) (hready : r.ready = false)
    (hcur : cur = "adb" ∨ cur = r.config) (h : Entered .normal r.config cur i) :
    ∃ i', Turns platform i i' ∧ Idle i' ∧ Published r cur i' := by
  have hmade : r.Made i.device := by
    rw [h.device]
    exact equipped_normal r hr
  have hfits : r.Fits i.device := by
    rw [h.device]
    exact clean_normal.fits (equipped_normal r hr)
  have hpublishing : Publishing r cur i := ⟨h.toBooting, h.actions, hmade, hfits,
    .inl ⟨h.publishes r hr rfl hready, h.silent⟩⟩
  obtain ⟨i₁, hturns₁, hdone, hpublishing₁⟩ :=
    Turns.lot (fun _ _ _ hi hactions => hi.run hr hactions) hpublishing
  have hpublished : Published r cur i₁ := by
    refine ⟨hpublishing₁.toBooting, fun a ha => ?_, hpublishing₁.made, ?_⟩
    · rw [hdone] at ha
      cases ha
    · refine hpublishing₁.done.resolve_left fun hmem => ?_
      rw [hdone] at hmem
      exact List.not_mem_nil hmem.1
  obtain ⟨i', hturns, hidle, h'⟩ := Turns.exists_idle hplatform
    (fun _ _ hi hturn => hi.turn hplatform hr hcur hturn) hpublished
  exact ⟨i', hturns₁.trans hturns, hidle, h'⟩

end Published

/-! ## No rule that publishes at once -/

/-- Nothing has been published or is going to be, and the gadget has no rule's product. -/
structure Withheld (cur : String) (i : InitState) : Prop extends Booting cur i where
  actions : ∀ a ∈ i.actions, ∃ v, Auxiliary v a
  state : i.props .sysUsbState = "" ∨ i.props .sysUsbState = cur
  silent : Silent i
  product : ∀ r ∈ rules, r.writes.lookup .idProduct ≠ some (i.device.attributes .idProduct)

section Withheld

variable {platform : List (Action Property GadgetCommand)} {cur : String} {i i' : InitState}

theorem Withheld.turn (hplatform : Configfs platform) (hcur : cur ∉ atOnce) (h : Withheld cur i)
    (hturn : turn exec (table platform) i = .ok i') : Withheld cur i' := by
  refine turn_cases hturn (fun a actions hactions => ?_) fun e events _ hevents =>
    ⟨h.toBooting.take hevents, fun a ha => ?_, h.state, h.silent, h.product⟩
  · obtain ⟨⟨v, haux⟩, hrest⟩ := forall_actions_run exec h.actions hactions
    have hsilent : Silent { i with actions := actions } := h.silent
    refine ⟨h.toBooting.run haux.lined, hrest, ?_,
      hsilent.run fun _ hr => haux.ne_action hr, ?_⟩
    · rcases (haux.lined.beside { i with actions := actions }).state with hsame | hpublished
      · rw [hsame]
        exact h.state
      · exact .inr (hpublished.trans h.value)
    · rcases (haux.adjusted { i with actions := actions }).idProduct with hsame | ⟨-, -, hproduct⟩
      · rw [hsame]
        exact h.product
      · exact hproduct
  · have he : e ∈ i.events := hevents ▸ List.mem_cons_self
    obtain ⟨v, hv, hprompt⟩ := h.prompt hplatform he ha
    refine ⟨v, hprompt.auxiliary ?_⟩
    rcases hv with rfl | rfl
    · exact adb_not_atOnce
    · exact hcur

theorem exists_withheld (hplatform : Configfs platform) {config : String}
    (hconfig : config ∉ atOnce) (hcur : cur ∉ atOnce) (h : Entered .normal config cur i) :
    ∃ i', Turns platform i i' ∧ Idle i' ∧ Withheld cur i' := by
  have hproduct : ∀ r ∈ rules,
      r.writes.lookup .idProduct ≠ some (Boot.normal.gadget.attributes .idProduct) := by decide
  have hwithheld : Withheld cur i := by
    refine ⟨h.toBooting, fun a ha => ⟨config, (h.actions a ha).auxiliary hconfig⟩, .inl h.state,
      h.silent, ?_⟩
    rw [h.device]
    exact hproduct
  exact Turns.exists_idle hplatform (fun _ _ hi hturn => hi.turn hplatform hcur hturn) hwithheld

end Withheld

/-! ## Normal boot -/

/-- What a normal boot ends with. -/
structure Started (config portIndex : String) (i : InitState) : Prop where
  idle : Idle i
  value : i.props .sysUsbConfig = if portIndex = "" then "adb" else config
  state : config ∈ atOnce → i.props .sysUsbState = i.props .sysUsbConfig
  withheld : config ∉ atOnce →
    Silent i ∧ (i.props .sysUsbState = "" ∨ i.props .sysUsbState = i.props .sysUsbConfig)
  gives : ∀ r ∈ rules, r.Gives i.device ↔ r.config = config ∧ r.ready = false
  right : PublishedRight ⟨i, false⟩ ↔ (portIndex = "" → config ∉ atOnce)

section Started

variable {config portIndex : String} {i : InitState}

theorem Published.started {r : Rule} (hr : r ∈ rules) (hready : r.ready = false)
    (h : Published r (if portIndex = "" then "adb" else r.config) i) (hidle : Idle i) :
    Started r.config portIndex i where
  idle := hidle
  value := h.value
  state _ := h.done.state.trans h.value.symm
  withheld hnot := absurd (mem_atOnce.2 ⟨r, hr, rfl, hready⟩) hnot
  gives r' hr' := by
    constructor
    · intro hgives
      have hproduct := hgives.idProduct.trans h.done.gives.idProduct.symm
      obtain rfl := eq_of_product r' hr' r hr hproduct
      exact ⟨rfl, hready⟩
    · rintro ⟨hsame, -⟩
      obtain rfl := eq_of_config r hr r' hr' hsame
      exact h.done.gives
  right := by
    have hmem : r.config ∈ atOnce := mem_atOnce.2 ⟨r, hr, rfl, hready⟩
    rw [h.done.right]
    by_cases hport : portIndex = ""
    · rw [if_pos hport]
      exact iff_of_false (fun hadb => adb_not_atOnce (hadb ▸ hmem)) fun hnot => hnot hport hmem
    · rw [if_neg hport]
      exact iff_of_true rfl fun hempty => absurd hempty hport

theorem Withheld.started (hconfig : config ∉ atOnce)
    (h : Withheld (if portIndex = "" then "adb" else config) i) (hidle : Idle i) :
    Started config portIndex i where
  idle := hidle
  value := h.value
  state hmem := absurd hmem hconfig
  withheld _ := by
    refine ⟨h.silent, ?_⟩
    rw [h.value]
    exact h.state
  gives r hr := by
    refine iff_of_false (fun hgives => h.product r hr hgives.idProduct) ?_
    rintro ⟨hsame, hready⟩
    exact hconfig (mem_atOnce.2 ⟨r, hr, hsame, hready⟩)
  right := iff_of_true h.silent.publishedRight fun _ => hconfig

end Started

/-- Whatever the value and the port index, a normal boot that is left alone comes to rest with the
gadget of that value, if its rule does not wait, and `sys.usb.config` published. -/
theorem normal_boot {platform : List (Action Property GadgetCommand)}
    (hplatform : Configfs platform) (config portIndex : String) : ∃ n s',
    run (step platform) (start .normal config portIndex) (List.replicate n .turn) = .ok s' ∧
      Started config portIndex s'.init := by
  obtain ⟨i, hturns, hentered⟩ := normal_entered hplatform config portIndex
  have hcur (config : String) : (if portIndex = "" then "adb" else config) = "adb" ∨
      (if portIndex = "" then "adb" else config) = config := by
    split
    · exact .inl rfl
    · exact .inr rfl
  have hstarted : ∃ i', Turns platform i i' ∧ Started config portIndex i' := by
    by_cases hconfig : config ∈ atOnce
    · obtain ⟨r, hr, rfl, hready⟩ := mem_atOnce.1 hconfig
      obtain ⟨i', hturns', hidle, h⟩ :=
        exists_published hplatform hr hready (hcur r.config) hentered
      exact ⟨i', hturns', h.started hr hready hidle⟩
    · have hnot : (if portIndex = "" then "adb" else config) ∉ atOnce := by
        rcases hcur config with heq | heq
        · rw [heq]
          exact adb_not_atOnce
        · rw [heq]
          exact hconfig
      obtain ⟨i', hturns', hidle, h⟩ := exists_withheld hplatform hconfig hnot hentered
      exact ⟨i', hturns', h.started hconfig hidle⟩
  obtain ⟨i', hturns', hstarted⟩ := hstarted
  obtain ⟨n, hn⟩ := hturns.trans hturns'
  exact ⟨n, ⟨i', false⟩, hn false, hstarted⟩

/-- With `mtp` and an empty port index. -/
theorem normal_boot_mtp : ∃ n s',
    run (step [platformNone]) (start .normal "mtp" "") (List.replicate n .turn) = .ok s' ∧
      Started "mtp" "" s'.init :=
  normal_boot configfs_platformNone "mtp" ""

end RMX2020.Init
