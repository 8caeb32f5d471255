import RMX2020.Init.Usb

/-!
# The platform's rules

`init.usb.configfs.rc` is not part of this tree. What the results from here on assume of its rules
is `Configfs`:
* each of them acts in one configuration, waiting for `adbd` or not, and makes no function;
* on `none` they do not wait, remove the links `f1` to `f3`, make none, take away no function that a
  rule here links without making it, write no id but the default vendor, and set no property but
  `sys.usb.ffs.ready`, to 0, and `sys.usb.state`, to the value of `sys.usb.config`;
* in another configuration they take nothing away, and set no property but `sys.usb.state` likewise.
  Where a rule here publishes the configuration, they write no id and link only what it links;
  elsewhere they write no product that a rule here writes, and do not link what a rule here links
  before `adbd` is ready.
What they do to services and to other files makes no difference here, and what a rule does when
`adbd` stops is left to those who set `sys.usb.ffs.ready`.

The rules here that do not publish keep to the same (`usbRc_auxiliary`). What such a rule can do is
said once: to the gadget in `Auxiliary.adjusted`, and else, as for any rule, in `Lined.beside`.
-/

namespace RMX2020.Init

open Machine Trigger

/-! ## What the rules may do -/

/-- No rule publishes the configuration. -/
def Unpublished (config : String) : Prop := ∀ r ∈ rules, r.config ≠ config

/-- Every rule that links the function makes it before. -/
def Remade (f : UsbFunction) : Prop := ∀ r ∈ rules, ∀ l, (f, l) ∈ r.links → f ∈ r.mkdirs

/-- The name is one that the rule for the configuration gives the function, or there is no such rule
and it is none of these functions, or `adbd` is waited for. -/
def Linkable (waits : Bool) (config : String) (f : UsbFunction) (l : Link) : Prop :=
  (∃ r ∈ rules, r.config = config ∧ (f, l) ∈ r.links) ∨
    Unpublished config ∧ (waits = true ∨ ∀ r ∈ rules, ∀ l', (f, l') ∉ r.links)

/-- The commands of a rule that is not one of `rules`. -/
def Permitted (waits : Bool) (config : String) : Command Property GadgetCommand → Prop
  | .setprop name value => name = .sysUsbState ∧ value = .prop .sysUsbConfig ∨
      config = "none" ∧ name = .sysUsbFfsReady ∧ value = .text "0"
  | .device (.write .idVendor value) => config = "none" ∧ value = .text defaultVendor ∨
      config ≠ "none" ∧ Unpublished config
  | .device (.write .idProduct (.text product)) => config ≠ "none" ∧ Unpublished config ∧
      ∀ r ∈ rules, r.writes.lookup .idProduct ≠ some product
  | .device (.write .idProduct (.prop _)) => False
  | .device (.write ..) => True
  | .device (.mkdir _) => False
  | .device (.rmdir f) => config = "none" ∧ Remade f
  | .device (.symlink f l) => config ≠ "none" ∧ Linkable waits config f l
  | .device (.rm _) => config = "none"
  | .device (.start _) => True

/-- The action looks for one value of `sys.usb.config`, and else only at whether the gadget can be
configured and `adbd` is ready. -/
structure About (config : String) (a : Action Property GadgetCommand) : Prop where
  looks : (.sysUsbConfig, config) ∈ a.triggers
  triggers : ∀ t ∈ a.triggers, t = (.sysUsbConfig, config) ∨ t = (.sysUsbConfigfs, "1") ∨
    config ≠ "none" ∧ t = (.sysUsbFfsReady, "1")

/-- Whether an action waits for `adbd`. -/
def waits (a : Action Property GadgetCommand) : Bool :=
  decide ((.sysUsbFfsReady, "1") ∈ a.triggers)

/-- A rule for a configuration that is not one of `rules`. -/
structure Auxiliary (config : String) (a : Action Property GadgetCommand) : Prop
    extends About config a where
  commands : ∀ c ∈ a.commands, Permitted (waits a) config c

/-- What is assumed of the platform's rules. -/
structure Configfs (platform : List (Action Property GadgetCommand)) : Prop where
  auxiliary : ∀ a ∈ platform, ∃ config, Auxiliary config a
  removes : ∀ l ∈ [Link.f1, .f2, .f3], ∃ a ∈ platform,
    (.sysUsbConfig, "none") ∈ a.triggers ∧ .device (.rm l) ∈ a.commands

instance (config : String) : Decidable (Unpublished config) :=
  inferInstanceAs (Decidable (∀ r ∈ rules, _))

instance (f : UsbFunction) : Decidable (Remade f) :=
  inferInstanceAs (Decidable (∀ r ∈ rules, ∀ _, _ → _))

instance (waits : Bool) (config : String) (f : UsbFunction) (l : Link) :
    Decidable (Linkable waits config f l) :=
  inferInstanceAs (Decidable ((∃ r ∈ rules, _ ∧ _) ∨ _ ∧ (_ ∨ ∀ r ∈ rules, ∀ _, _)))

instance (waits : Bool) (config : String) : DecidablePred (Permitted waits config)
  | .setprop .. => inferInstanceAs (Decidable (_ ∧ _ ∨ _ ∧ _ ∧ _))
  | .device (.write .idVendor _) => inferInstanceAs (Decidable (_ ∧ _ ∨ _ ∧ _))
  | .device (.write .idProduct (.text _)) =>
    inferInstanceAs (Decidable (_ ∧ _ ∧ ∀ r ∈ rules, _))
  | .device (.write .idProduct (.prop _)) | .device (.mkdir _) =>
    inferInstanceAs (Decidable False)
  | .device (.write .configuration _) | .device (.write .osDescUse _)
  | .device (.write .protocol _) | .device (.write .subclass _) | .device (.write .saving _)
  | .device (.write .UDC _) | .device (.start _) => inferInstanceAs (Decidable True)
  | .device (.rmdir _) | .device (.symlink ..) => inferInstanceAs (Decidable (_ ∧ _))
  | .device (.rm _) => inferInstanceAs (Decidable (_ = _))

instance (config : String) (a : Action Property GadgetCommand) : Decidable (Auxiliary config a) :=
  decidable_of_iff ((.sysUsbConfig, config) ∈ a.triggers ∧
    (∀ t ∈ a.triggers, t = (.sysUsbConfig, config) ∨ t = (.sysUsbConfigfs, "1") ∨
      config ≠ "none" ∧ t = (.sysUsbFfsReady, "1")) ∧
    ∀ c ∈ a.commands, Permitted (waits a) config c)
    ⟨fun h => ⟨⟨h.1, h.2.1⟩, h.2.2⟩, fun h => ⟨h.looks, h.triggers, h.commands⟩⟩

theorem configfs_platformNone : Configfs [platformNone] where
  auxiliary a ha := by
    obtain rfl := List.mem_singleton.1 ha
    exact ⟨"none", by decide⟩
  removes := by decide

/-- A rule next to `mtp`. -/
example : Auxiliary "mtp" ⟨[(.sysUsbConfig, "mtp"), (.sysUsbConfigfs, "1")],
    [.device (.write .configuration (.text "mtp")), .device (.symlink .mtpGs0 .f1),
      .device (.write .UDC (.prop .vendorUsbController)),
      .setprop .sysUsbState (.prop .sysUsbConfig)]⟩ := by decide

/-- A rule for a configuration that no rule here publishes. -/
example : Auxiliary "midi,adb"
    ⟨[(.sysUsbFfsReady, "1"), (.sysUsbConfig, "midi,adb"), (.sysUsbConfigfs, "1")],
      [.device (.symlink .midiGs5 .f1), .device (.symlink .ffsAdb .f2),
        .device (.write .UDC (.prop .vendorUsbController)),
        .setprop .sysUsbState (.prop .sysUsbConfig)]⟩ := by decide

/-! ## The table -/

section Table

variable {platform : List (Action Property GadgetCommand)} {a : Action Property GadgetCommand}
  {config : String}

theorem config_ne_none : ∀ r ∈ rules, r.config ≠ "none" := by
  decide

theorem eq_of_config : ∀ r ∈ rules, ∀ r' ∈ rules, r'.config = r.config → r' = r := by
  decide

theorem about_action {r : Rule} (hr : r ∈ rules) : About r.config r.action where
  looks := List.mem_append_right _ List.mem_cons_self
  triggers t ht := by
    rcases List.mem_append.1 ht with ht | ht
    · split at ht
      · exact .inr (.inr ⟨config_ne_none r hr, List.mem_singleton.1 ht⟩)
      · cases ht
    · rw [List.mem_cons, List.mem_singleton] at ht
      exact ht.imp_right .inl

theorem waits_action : ∀ r ∈ rules, waits r.action = r.ready := by
  decide

/-- The rules but for the two that set `sys.usb.config` without looking at it. -/
def configRules (platform : List (Action Property GadgetCommand)) :
    List (Action Property GadgetCommand) := usbRc.tail ++ platform

theorem table_eq (platform : List (Action Property GadgetCommand)) :
    table platform = portIndexEmpty :: bootmodeCharger :: configRules platform := rfl

theorem usbRc_auxiliary : ∀ a ∈ usbRc.tail, (∃ r ∈ rules, a = r.action) ∨
    ∃ t ∈ a.triggers, t.1 = .sysUsbConfig ∧ Auxiliary t.2 a := by
  decide +kernel

/-- The rules for a configuration. -/
def Lined (config : String) (a : Action Property GadgetCommand) : Prop :=
  (∃ r ∈ rules, r.config = config ∧ a = r.action) ∨ Auxiliary config a

theorem configRules_lined (h : Configfs platform) (ha : a ∈ configRules platform) :
    ∃ config, Lined config a := by
  rcases List.mem_append.1 ha with ha | ha
  · rcases usbRc_auxiliary a ha with ⟨r, hr, rfl⟩ | ⟨t, -, -, haux⟩
    · exact ⟨r.config, .inl ⟨r, hr, rfl, rfl⟩⟩
    · exact ⟨t.2, .inr haux⟩
  · obtain ⟨config, haux⟩ := h.auxiliary a ha
    exact ⟨config, .inr haux⟩

/-- A rule sets `sys.usb.config` without looking at it, or is for a configuration. -/
theorem table_lined (h : Configfs platform) (ha : a ∈ table platform) :
    a = portIndexEmpty ∨ a = bootmodeCharger ∨ ∃ config, Lined config a := by
  rw [table_eq, List.mem_cons, List.mem_cons] at ha
  exact ha.imp_right (.imp_right (configRules_lined h))

theorem noneRule_mem : noneRule ∈ table platform :=
  List.mem_cons_of_mem _ (List.mem_append_left _ (by decide))

/-- A rule acts in one configuration. -/
theorem About.eq_of_mem (h : About config a) {value : String}
    (hmem : (.sysUsbConfig, value) ∈ a.triggers) : value = config := by
  rcases h.triggers _ hmem with heq | heq | ⟨-, heq⟩
  · exact congrArg Prod.snd heq
  · cases heq
  · cases heq

theorem Lined.about (h : Lined config a) : About config a := by
  rcases h with ⟨r, hr, rfl, rfl⟩ | haux
  · exact about_action hr
  · exact haux.toAbout

theorem Auxiliary.lined (h : Auxiliary config a) : Lined config a := .inr h

theorem Lined.auxiliary (h : Lined "none" a) : Auxiliary "none" a := by
  rcases h with ⟨r, hr, hconfig, -⟩ | haux
  · exact absurd hconfig (config_ne_none r hr)
  · exact haux

/-- A rule that publishes writes a product, where the others do not. -/
theorem Auxiliary.ne_action (h : Auxiliary config a) {r : Rule} (hr : r ∈ rules) :
    a ≠ r.action := by
  rintro rfl
  obtain ⟨product, hproduct⟩ := Option.isSome_iff_exists.1 (proper_of_mem r hr).product
  obtain ⟨before, after, hwrites, -⟩ := List.lookup_eq_some_iff.1 hproduct
  have hmem : .write .idProduct (.text product) ∈ r.commands := by
    simp [Rule.commands, hwrites]
  have hc : .device (.write .idProduct (.text product)) ∈ r.action.commands :=
    List.mem_append_left _ (List.mem_map_of_mem hmem)
  have hfree : Unpublished config := (h.commands _ hc).2.1
  exact hfree r hr (h.eq_of_mem (about_action hr).looks)

/-- The rules that look for a value of `sys.usb.config` are those for the configuration. -/
theorem lined_of_mem (h : Configfs platform) (ha : a ∈ table platform)
    (hmem : (.sysUsbConfig, config) ∈ a.triggers) : Lined config a := by
  rcases table_lined h ha with rfl | rfl | ⟨config', hlined⟩
  · cases List.mem_singleton.1 hmem
  · cases List.mem_singleton.1 hmem
  · rwa [hlined.about.eq_of_mem hmem]

/-- On `none` every link is removed by some rule. -/
theorem exists_removes (h : Configfs platform) (l : Link) : ∃ a ∈ table platform,
    (.sysUsbConfig, "none") ∈ a.triggers ∧ .device (.rm l) ∈ a.commands := by
  have hplatform {l : Link} (hl : l ∈ [Link.f1, .f2, .f3]) : ∃ a ∈ table platform,
      (.sysUsbConfig, "none") ∈ a.triggers ∧ .device (.rm l) ∈ a.commands := by
    obtain ⟨a, ha, hremoves⟩ := h.removes l hl
    exact ⟨a, List.mem_cons_of_mem _ (List.mem_append_right _ ha), hremoves⟩
  cases l with
  | f1 | f2 | f3 => exact hplatform (by decide)
  | f4 | f5 => exact ⟨noneRule, noneRule_mem, by decide, by decide⟩

end Table

/-! ## What triggers the rules -/

/-- The properties by which a rule sets `sys.usb.config` without looking at it. -/
def Overriding (name : Property) : Prop :=
  name = .persistVendorRadioPortIndex ∨ name = .roBootmode

instance : DecidablePred Overriding := fun _ => inferInstanceAs (Decidable (_ ∨ _))

/-- The properties that a rule for a configuration may set. -/
def Reporting (name : Property) : Prop := name = .sysUsbState ∨ name = .sysUsbFfsReady

instance : DecidablePred Reporting := fun _ => inferInstanceAs (Decidable (_ ∨ _))

/-- An event that triggers nothing. -/
def Quiet (e : Event Property) : Prop :=
  (∃ value, e = some (.sysUsbState, value)) ∨ e = some (.sysUsbFfsReady, "0")

theorem Quiet.reporting {name : Property} {value : String} (h : Quiet (some (name, value))) :
    Reporting name := by
  rcases h with ⟨value', heq⟩ | heq
  · cases heq
    exact .inl rfl
  · cases heq
    exact .inr rfl

section Triggered

variable {platform : List (Action Property GadgetCommand)} {a : Action Property GadgetCommand}
  {props : Property → String} {config value : String} {name : Property}

/-- The configuration of a rule that an event triggers. -/
theorem About.config_eq (h : About config a) (htriggered : a.triggered props (some (name, value))) :
    config = if name = .sysUsbConfig then value else props .sysUsbConfig := by
  have hvalue := (triggered_some htriggered).2 _ h.looks
  simpa only [eq_comm] using hvalue

/-- An event triggers a rule that does not wait, if it sets the configuration. -/
theorem About.triggered (h : About config a) (hwaits : waits a = false)
    (hconfigfs : props .sysUsbConfigfs = "1") :
    a.triggered props (some (.sysUsbConfig, config)) := by
  refine triggered_some_iff.2 ⟨⟨_, h.looks, rfl⟩, fun t ht => ?_⟩
  rcases h.triggers t ht with rfl | rfl | ⟨-, rfl⟩
  · rfl
  · exact hconfigfs.symm
  · exact absurd ht (of_decide_eq_false hwaits)

/-- That `adbd` is ready triggers a rule that waits for it, if the configuration is set. -/
theorem About.triggered_ready (h : About config a) (hwaits : waits a = true)
    (hconfigfs : props .sysUsbConfigfs = "1") (hconfig : props .sysUsbConfig = config) :
    a.triggered props (some (.sysUsbFfsReady, "1")) := by
  refine triggered_some_iff.2 ⟨⟨_, of_decide_eq_true hwaits, rfl⟩, fun t ht => ?_⟩
  rcases h.triggers t ht with rfl | rfl | ⟨-, rfl⟩
  · exact hconfig.symm
  · exact hconfigfs.symm
  · rfl

theorem About.waits_none (h : About "none" a) : waits a = false := by
  refine decide_eq_false fun hmem => ?_
  rcases h.triggers _ hmem with heq | heq | ⟨hne, -⟩
  · cases heq
  · cases heq
  · exact hne rfl

/-- A rule is triggered by three properties only. -/
theorem About.name_cases (h : About config a)
    (htriggered : a.triggered props (some (name, value))) :
    name = .sysUsbConfig ∨ name = .sysUsbConfigfs ∨ name = .sysUsbFfsReady ∧ value = "1" := by
  obtain ⟨⟨t, ht, rfl⟩, hall⟩ := triggered_some htriggered
  have hvalue := hall t ht
  rw [if_pos rfl] at hvalue
  rcases h.triggers t ht with rfl | rfl | ⟨-, rfl⟩
  · exact .inl rfl
  · exact .inr (.inl rfl)
  · exact .inr (.inr ⟨rfl, hvalue.symm⟩)

/-- An event about the gadget lines up rules for the configuration only. -/
theorem lined_of_triggered (h : Configfs platform) (ha : a ∈ table platform)
    (hname : ¬Overriding name) (htriggered : a.triggered props (some (name, value))) :
    Lined (if name = .sysUsbConfig then value else props .sysUsbConfig) a := by
  rcases table_lined h ha with rfl | rfl | ⟨config, hlined⟩
  · obtain ⟨⟨t, ht, rfl⟩, -⟩ := triggered_some htriggered
    exact absurd (.inl (congrArg Prod.fst (List.mem_singleton.1 ht))) hname
  · obtain ⟨⟨t, ht, rfl⟩, -⟩ := triggered_some htriggered
    exact absurd (.inr (congrArg Prod.fst (List.mem_singleton.1 ht))) hname
  · rwa [← hlined.about.config_eq htriggered]

theorem filter_quiet (h : Configfs platform) {e : Event Property} (he : Quiet e)
    (props : Property → String) : (table platform).filter (·.triggered props e) = [] := by
  refine List.filter_eq_nil_iff.2 fun a ha htriggered => ?_
  rcases he with ⟨value, rfl⟩ | rfl
  · have hlined := lined_of_triggered h ha (by decide) htriggered
    rcases hlined.about.name_cases htriggered with heq | heq | ⟨heq, -⟩ <;> cases heq
  · have hlined := lined_of_triggered h ha (by decide) htriggered
    rcases hlined.about.name_cases htriggered with heq | heq | ⟨-, heq⟩
    · cases heq
    · cases heq
    · exact absurd heq (by decide)

end Triggered

/-! ## What an auxiliary rule does -/

/-- What an auxiliary rule can make of a gadget. -/
structure Adjusted (waits : Bool) (config : String) (g g' : Gadget) : Prop where
  idVendor : g'.attributes .idVendor = g.attributes .idVendor ∨
    config = "none" ∧ g'.attributes .idVendor = defaultVendor ∨
    config ≠ "none" ∧ Unpublished config
  idProduct : g'.attributes .idProduct = g.attributes .idProduct ∨
    config ≠ "none" ∧ Unpublished config ∧
      ∀ r ∈ rules, r.writes.lookup .idProduct ≠ some (g'.attributes .idProduct)
  functions : ∀ f ∈ g'.functions, f ∈ g.functions
  kept : ∀ f ∈ g.functions, f ∈ g'.functions ∨ Remade f
  links : ∀ l, g'.links l = g.links l ∨ config = "none" ∧ g'.links l = none ∨
    config ≠ "none" ∧ g.links l = none ∧
      ∃ f ∈ g.functions, g'.links l = some f ∧ Linkable waits config f l

namespace Adjusted

variable {w : Bool} {config : String} {g g₁ g' : Gadget}

theorem refl (w : Bool) (config : String) (g : Gadget) : Adjusted w config g g :=
  ⟨.inl rfl, .inl rfl, fun _ hf => hf, fun _ hf => .inl hf, fun _ => .inl rfl⟩

theorem trans (h : Adjusted w config g g₁) (h' : Adjusted w config g₁ g') :
    Adjusted w config g g' where
  idVendor := by
    rcases h'.idVendor with hsame | hdefault | hfree
    · rw [hsame]
      exact h.idVendor
    · exact .inr (.inl hdefault)
    · exact .inr (.inr hfree)
  idProduct := by
    rcases h'.idProduct with hsame | hother
    · rw [hsame]
      exact h.idProduct
    · exact .inr hother
  functions f hf := h.functions f (h'.functions f hf)
  kept f hf := by
    rcases h.kept f hf with hf | hremade
    · exact h'.kept f hf
    · exact .inr hremade
  links l := by
    rcases h'.links l with hsame | hremoved | ⟨hne, hfree, f, hf, hlinked⟩
    · rw [hsame]
      exact h.links l
    · exact .inr (.inl hremoved)
    · rcases h.links l with hsame | ⟨hnone, -⟩ | ⟨-, -, f', -, hlinked', -⟩
      · exact .inr (.inr ⟨hne, hsame ▸ hfree, f, h.functions f hf, hlinked⟩)
      · exact absurd hnone hne
      · rw [hfree] at hlinked'
        cases hlinked'

/-- A command on the gadget. -/
theorem exec {c : GadgetCommand} (hc : Permitted w config (.device c))
    (props : Property → String) (g : Gadget) : Adjusted w config g (Init.exec props c g) := by
  cases c with
  | write a value =>
    refine ⟨?_, ?_, fun _ hf => hf, fun _ hf => .inl hf, fun _ => .inl rfl⟩
    · by_cases ha : a = .idVendor
      · subst ha
        rcases hc with ⟨hnone, rfl⟩ | hfree
        · exact .inr (.inl ⟨hnone, exec_write_self⟩)
        · exact .inr (.inr hfree)
      · exact .inl (exec_write_of_ne (Ne.symm ha))
    · by_cases ha : a = .idProduct
      · subst ha
        cases value with
        | prop name => cases hc
        | text product =>
          obtain ⟨hne, hfree, hproduct⟩ := hc
          refine .inr ⟨hne, hfree, ?_⟩
          rw [exec_write_self]
          exact hproduct
      · exact .inl (exec_write_of_ne (Ne.symm ha))
  | mkdir f => cases hc
  | rmdir f =>
    simp only [Init.exec]
    split
    · exact refl w config g
    · refine ⟨.inl rfl, .inl rfl, fun f' hf' => (List.mem_filter.1 hf').1, fun f' hf' => ?_,
        fun _ => .inl rfl⟩
      by_cases heq : f' = f
      · exact .inr (heq ▸ hc.2)
      · exact .inl (List.mem_filter.2 ⟨hf', decide_eq_true heq⟩)
  | symlink f l =>
    simp only [Init.exec]
    split
    · next hfree =>
      refine ⟨.inl rfl, .inl rfl, fun _ hf => hf, fun _ hf => .inl hf, fun l' => ?_⟩
      by_cases hl : l' = l
      · subst hl
        exact .inr (.inr ⟨hc.1, hfree.2, f, hfree.1, Function.update_self .., hc.2⟩)
      · exact .inl (Function.update_of_ne hl ..)
    · exact refl w config g
  | rm l =>
    refine ⟨.inl rfl, .inl rfl, fun _ hf => hf, fun _ hf => .inl hf, fun l' => ?_⟩
    by_cases hl : l' = l
    · subst hl
      exact .inr (.inl ⟨hc, exec_rm_self⟩)
    · exact .inl (exec_rm_of_ne hl)
  | start service => exact refl w config g

theorem command {c : Command Property GadgetCommand} (hc : Permitted w config c)
    (a : Action Property GadgetCommand) (i : InitState) :
    Adjusted w config i.device (Trigger.command Init.exec a i c).device := by
  cases c with
  | setprop name value => exact refl w config i.device
  | device c => exact exec hc i.props i.device

theorem vendor_none (h : Adjusted w "none" g g')
    (hvendor : g.attributes .idVendor = defaultVendor) :
    g'.attributes .idVendor = defaultVendor := by
  rcases h.idVendor with hsame | ⟨-, hdefault⟩ | ⟨hne, -⟩
  · rw [hsame, hvendor]
  · exact hdefault
  · exact absurd rfl hne

theorem link_none (h : Adjusted w "none" g g') {l : Link} (hl : g.links l = none) :
    g'.links l = none := by
  rcases h.links l with hsame | ⟨-, hremoved⟩ | ⟨hne, -⟩
  · rw [hsame, hl]
  · exact hremoved
  · exact absurd rfl hne

variable {r : Rule}

theorem made (h : Adjusted w config g g') (hr : r ∈ rules) (hmade : r.Made g) : r.Made g' := by
  intro f l hmem
  rcases hmade f l hmem with hf | hf
  · rcases h.kept f hf with hf | hremade
    · exact .inl hf
    · exact .inr (hremade r hr l hmem)
  · exact .inr hf

/-- The names that are linked stay those of the rule. -/
theorem own (h : Adjusted w config g g') (hr : r ∈ rules)
    (hconfig : config = r.config ∨ config = "none")
    (hown : ∀ f l, g.links l = some f → (f, l) ∈ r.links) :
    ∀ f l, g'.links l = some f → (f, l) ∈ r.links := by
  intro f l hl
  rcases h.links l with hsame | ⟨-, hremoved⟩ | ⟨hne, -, f', -, hlinked, hlinkable⟩
  · exact hown f l (hsame ▸ hl)
  · rw [hremoved] at hl
    cases hl
  · obtain rfl := hconfig.resolve_right hne
    obtain rfl : f' = f := Option.some.inj (hlinked.symm.trans hl)
    rcases hlinkable with ⟨r', hr', hsame, hmem⟩ | ⟨hfree, -⟩
    · rwa [eq_of_config r hr r' hr' hsame] at hmem
    · exact absurd rfl (hfree r hr)

/-- A rule that fits goes on to fit, in its own configuration and on `none`. -/
theorem fits (h : Adjusted w config g g') (hr : r ∈ rules)
    (hconfig : config = r.config ∨ config = "none") (hmade : r.Made g) (hfits : r.Fits g) :
    r.Fits g' := by
  refine ⟨fun hwrites => ?_, h.own hr hconfig hfits.own,
    fun f l hmem _ => h.made hr hmade f l hmem⟩
  rcases h.idVendor with hsame | ⟨-, hdefault⟩ | ⟨hne, hfree⟩
  · rw [hsame]
    exact hfits.idVendor hwrites
  · exact hdefault
  · obtain rfl := hconfig.resolve_right hne
    exact absurd rfl (hfree r hr)

/-- What a rule gives stays where the configuration has a rule and its names are taken. -/
theorem gives {r' : Rule} (h : Adjusted w r'.config g g') (hr' : r' ∈ rules)
    (htaken : ∀ f l, (f, l) ∈ r'.links → g.links l ≠ none) (hgives : r.Gives g) : r.Gives g' := by
  have hne := config_ne_none r' hr'
  have hpublished : ¬Unpublished r'.config := fun hfree => hfree r' hr' rfl
  have hlinks (l : Link) : g'.links l = g.links l := by
    rcases h.links l with hsame | ⟨hnone, -⟩ | ⟨-, hfree, f, -, -, hlinkable⟩
    · exact hsame
    · exact absurd hnone hne
    · rcases hlinkable with ⟨r₁, hr₁, hsame, hmem⟩ | ⟨hfree, -⟩
      · rw [eq_of_config r' hr' r₁ hr₁ hsame] at hmem
        exact absurd hfree (htaken f l hmem)
      · exact absurd hfree hpublished
  have hvendor : g'.attributes .idVendor = g.attributes .idVendor := by
    rcases h.idVendor with hsame | ⟨hnone, -⟩ | ⟨-, hfree⟩
    · exact hsame
    · exact absurd hnone hne
    · exact absurd hfree hpublished
  have hproduct : g'.attributes .idProduct = g.attributes .idProduct :=
    h.idProduct.resolve_right fun hfree => hpublished hfree.2.1
  exact ⟨hvendor ▸ hgives.idVendor, hproduct ▸ hgives.idProduct,
    fun f l => hlinks l ▸ hgives.links f l⟩

end Adjusted

/-! ## What any rule for a configuration does -/

/-- What running a rule for a configuration can do to all but the device. -/
structure Beside (i i' : InitState) : Prop where
  props : ∀ n, ¬Reporting n → i'.props n = i.props n
  state : i'.props .sysUsbState = i.props .sysUsbState ∨
    i'.props .sysUsbState = i.props .sysUsbConfig
  ready : i'.props .sysUsbFfsReady = i.props .sysUsbFfsReady ∨ i'.props .sysUsbFfsReady = "0"
  events : ∃ new, i'.events = i.events ++ new ∧ ∀ e ∈ new, Quiet e
  actions : i'.actions = i.actions

namespace Beside

variable {i i₁ i' : InitState}

theorem refl (i : InitState) : Beside i i :=
  ⟨fun _ _ => rfl, .inl rfl, .inl rfl, ⟨[], (List.append_nil _).symm, by simp⟩, rfl⟩

theorem trans (h : Beside i i₁) (h' : Beside i₁ i') : Beside i i' where
  props n hn := (h'.props n hn).trans (h.props n hn)
  state := by
    rcases h'.state with hsame | hpublished
    · rw [hsame]
      exact h.state
    · exact .inr (hpublished.trans (h.props _ (by decide)))
  ready := by
    rcases h'.ready with hsame | hzero
    · rw [hsame]
      exact h.ready
    · exact .inr hzero
  events := by
    obtain ⟨new, hevents, hnew⟩ := h.events
    obtain ⟨new', hevents', hnew'⟩ := h'.events
    refine ⟨new ++ new', by rw [hevents', hevents, List.append_assoc], fun e he => ?_⟩
    rcases List.mem_append.1 he with he | he
    · exact hnew e he
    · exact hnew' e he
  actions := h'.actions.trans h.actions

theorem config (h : Beside i i') : i'.props .sysUsbConfig = i.props .sysUsbConfig :=
  h.props _ (by decide)

theorem mem_events (h : Beside i i') {e : Event Property} (he : e ∈ i'.events) :
    e ∈ i.events ∨ Quiet e := by
  obtain ⟨new, hevents, hnew⟩ := h.events
  rw [hevents] at he
  exact (List.mem_append.1 he).imp_right (hnew e)

theorem mem_events_some (h : Beside i i') {name : Property} {value : String}
    (hname : ¬Reporting name) (he : some (name, value) ∈ i'.events) :
    some (name, value) ∈ i.events :=
  (h.mem_events he).resolve_right fun hquiet => hname hquiet.reporting

theorem mem_events_none (h : Beside i i') (he : none ∈ i'.events) : none ∈ i.events := by
  rcases h.mem_events he with hold | ⟨value, heq⟩ | heq
  · exact hold
  · cases heq
  · cases heq

theorem events_subset (h : Beside i i') : i.events ⊆ i'.events := by
  obtain ⟨new, hevents, -⟩ := h.events
  rw [hevents]
  exact List.subset_append_left ..

theorem command {w : Bool} {config : String} {c : Command Property GadgetCommand}
    (hc : Permitted w config c) (a : Action Property GadgetCommand) (i : InitState) :
    Beside i (Trigger.command exec a i c) := by
  cases c with
  | device c =>
    exact ⟨fun _ _ => rfl, .inl rfl, .inl rfl, ⟨[], (List.append_nil _).symm, by simp⟩, rfl⟩
  | setprop name value =>
    have hprops : (Trigger.command exec a i (.setprop name value)).props = _ :=
      command_setprop_props name value
    rcases hc with ⟨rfl, rfl⟩ | ⟨-, rfl, rfl⟩
    · refine ⟨fun n hn => ?_, .inr ?_, .inl ?_, ⟨[_], rfl, fun e he => ?_⟩, rfl⟩
      · rw [hprops, Function.update_of_ne fun heq => hn (.inl heq)]
      · rw [hprops, Function.update_self]
        rfl
      · rw [hprops, Function.update_of_ne (by decide)]
      · exact .inl ⟨_, List.mem_singleton.1 he⟩
    · refine ⟨fun n hn => ?_, .inl ?_, .inr ?_, ⟨[_], rfl, fun e he => ?_⟩, rfl⟩
      · rw [hprops, Function.update_of_ne fun heq => hn (.inr heq)]
      · rw [hprops, Function.update_of_ne (by decide)]
      · rw [hprops, Function.update_self]
        rfl
      · exact .inr (List.mem_singleton.1 he)

theorem not_ready (i : InitState) : Beside i (i.set .sysUsbFfsReady "0") :=
  ⟨fun _ hn => set_props_of_ne fun heq => hn (.inr heq), .inl (set_props_of_ne (by decide)),
    .inr set_props_self, ⟨[_], rfl, fun _ he => .inr (List.mem_singleton.1 he)⟩, rfl⟩

theorem rule (r : Rule) (i : InitState) : Beside i (r.action.run exec i) := by
  rw [Rule.run]
  refine ⟨fun n hn => ?_, .inr ?_, .inl ?_, ⟨[_], rfl, fun e he => ?_⟩, rfl⟩
  · dsimp only
    rw [Function.update_of_ne fun heq => hn (.inl heq)]
  · rw [← Rule.run r i, Rule.run_state]
  · dsimp only
    rw [Function.update_of_ne (by decide)]
  · exact .inl ⟨_, List.mem_singleton.1 he⟩

end Beside

section Run

variable {config : String} {a : Action Property GadgetCommand}

theorem Lined.beside (h : Lined config a) (i : InitState) : Beside i (a.run exec i) := by
  rcases h with ⟨r, hr, -, rfl⟩ | haux
  · exact .rule r i
  · exact Action.run_keeps (P := Beside i)
      (fun c hc _ hi => hi.trans (.command (haux.commands c hc) a _)) (.refl i)

theorem Auxiliary.adjusted (h : Auxiliary config a) (i : InitState) :
    Adjusted (waits a) config i.device (a.run exec i).device :=
  Action.run_keeps (P := fun i' => Adjusted (waits a) config i.device i'.device)
    (fun c hc i' hi => hi.trans (.command (h.commands c hc) a i')) (.refl ..)

end Run

end RMX2020.Init
