import RMX2020.Init.UsbRules

/-!
# Publishing the USB state

Runs of init with what sets the properties: the framework, which sets `sys.usb.config` to `none`
before it sets another value, the clients of `ffs.adb`, and whoever sets the port index. In all of
them, whatever the platform's rules do, what is published is right throughout exactly if every rule
that publishes starts on a gadget that fits it, with its own value still in `sys.usb.config`
(`published_right_iff`). The rule that sets `sys.usb.config` to `adb` directly does not see to that
(`adbOverMtp`).
-/

namespace RMX2020.Init

open Machine Trigger

/-! ## The system -/

inductive Boot where
  | normal
  | charger
  deriving DecidableEq

abbrev InitState := Trigger.State Property GadgetCommand Gadget

structure SystemState where
  init : InitState
  /-- The framework has set `none` and nothing after it. -/
  noneSet : Bool

inductive Step where
  | frameworkNone
  | framework (config : String)
  | ffsReady (ready : Bool)
  | portIndex (value : String)
  | turn
  deriving DecidableEq

/-- The rules init reads, those of the platform last. -/
def table (platform : List (Action Property GadgetCommand)) :
    List (Action Property GadgetCommand) :=
  portIndexEmpty :: usbRc ++ platform

def step (platform : List (Action Property GadgetCommand)) (s : SystemState) :
    Step → Except (Stop Empty) SystemState
  | .frameworkNone => .ok ⟨s.init.set .sysUsbConfig "none", true⟩
  | .framework config =>
    if s.noneSet then .ok ⟨s.init.set .sysUsbConfig config, false⟩ else .error .disabled
  | .ffsReady ready =>
    .ok { s with init := s.init.set .sysUsbFfsReady (if ready then "1" else "0") }
  | .portIndex value =>
    .ok { s with init := s.init.set .persistVendorRadioPortIndex value }
  | .turn => (Trigger.turn exec (table platform) s.init).map fun init => { s with init := init }

def Boot.gadget (boot : Boot) : Gadget :=
  execAll (fun _ => "") (match boot with | .normal => postFs | .charger => onCharger)
    ⟨fun _ => "", [], fun _ => none⟩

/-- After boot, with the value that `sys.usb.config` and the port index have then; all properties
are going to be looked at once. -/
def start (boot : Boot) (config portIndex : String) : SystemState where
  init := {
    props := fun
      | .sysUsbConfig => config
      | .sysUsbConfigfs => "1"
      | .sysUsbFfsReady => ""
      | .sysUsbState => ""
      | .vendorUsbController => "musb-hdrc"
      | .persistVendorRadioPortIndex => portIndex
      | .roBootmode => match boot with | .normal => "normal" | .charger => "charger"
    events := [none]
    actions := []
    device := boot.gadget
    sets := [] }
  noneSet := false

/-! ## What is published -/

/-- The gadget has what a rule gives for this configuration. -/
def Right (config : String) (g : Gadget) : Prop := ∃ r ∈ rules, r.config = config ∧ r.Gives g

/-- Whatever a rule of `init.mt6768.usb.rc` has published was right when it was. -/
def PublishedRight (s : SystemState) : Prop :=
  ∀ e ∈ s.init.sets, e.action ∈ usbRc → e.name = .sysUsbState → Right e.value e.device

/-- If init is about to run a rule that publishes, `sys.usb.config` has the rule's value, and the
gadget fits the rule. -/
def StartsFitting (s : SystemState) : Step → Prop
  | .turn => ∀ r ∈ rules, s.init.actions.head? = some r.action →
      s.init.props .sysUsbConfig = r.config ∧ r.Fits s.init.device
  | _ => True

instance : DecidablePred PublishedRight := fun s =>
  inferInstanceAs (Decidable (∀ e ∈ s.init.sets, e.action ∈ usbRc → e.name = .sysUsbState →
    ∃ r ∈ rules, r.config = e.value ∧ r.Gives e.device))

instance (s : SystemState) : ∀ a, Decidable (StartsFitting s a)
  | .turn => inferInstanceAs (Decidable (∀ r ∈ rules, s.init.actions.head? = some r.action →
      s.init.props .sysUsbConfig = r.config ∧ r.Fits s.init.device))
  | .frameworkNone | .framework _ | .ffsReady _ | .portIndex _ => inferInstanceAs (Decidable True)

section Step

variable {platform : List (Action Property GadgetCommand)} {s s' : SystemState}

theorem step_turn (h : step platform s .turn = .ok s') :
    ∃ i, turn exec (table platform) s.init = .ok i ∧ s' = { s with init := i } := by
  cases hturn : turn exec (table platform) s.init with
  | error e =>
    simp only [step, hturn] at h
    cases h
  | ok i =>
    simp only [step, hturn] at h
    cases h
    exact ⟨i, rfl, rfl⟩

/-- What a rule publishes is right exactly if it starts fitting. -/
theorem right_iff_fits {r : Rule} (hr : r ∈ rules) (props : Property → String) (config : String)
    (g : Gadget) :
    Right config (execAll props r.commands g) ↔ config = r.config ∧ r.Fits g := by
  rw [← gives_iff_fits props g (proper_of_mem r hr)]
  constructor
  · rintro ⟨r', hr', rfl, hgives⟩
    have hproduct := (execAll_commands props g (proper_of_mem r hr)).1 .idProduct (by decide)
    obtain ⟨product, hwritten⟩ := Option.isSome_iff_exists.1 (proper_of_mem r hr).product
    rw [hwritten, Option.getD_some] at hproduct
    obtain rfl := eq_of_product r hr r' hr' (by rw [hgives.idProduct, hwritten, hproduct])
    exact ⟨rfl, hgives⟩
  · rintro ⟨rfl, hgives⟩
    exact ⟨r, hr, rfl, hgives⟩

/-- An action that is not one of the rules publishes nothing for this file. -/
theorem run_sets_other {a : Action Property GadgetCommand} (ha : ∀ r ∈ rules, a ≠ r.action)
    (i : InitState) : ∃ new, (a.run exec i).sets = i.sets ++ new ∧
      ∀ e ∈ new, e.action ∈ usbRc → e.name ≠ .sysUsbState := by
  obtain ⟨new, hsets, hnew⟩ := run_sets exec a i
  refine ⟨new, hsets, fun e he hfile hname => ?_⟩
  obtain ⟨rfl, value, hvalue⟩ := hnew e he
  rcases usbRc_cases e.action hfile with ⟨r, hr, haction⟩ | hsilent
  · exact ha r hr haction
  · have hpublishes := hsilent _ hvalue
    rw [hname] at hpublishes
    cases hpublishes

theorem publishedRight_run_other {a : Action Property GadgetCommand}
    (ha : ∀ r ∈ rules, a ≠ r.action) (i : InitState) (noneSet : Bool) :
    PublishedRight ⟨a.run exec i, noneSet⟩ ↔ PublishedRight ⟨i, noneSet⟩ := by
  obtain ⟨new, hsets, hnew⟩ := run_sets_other ha i
  unfold PublishedRight
  rw [hsets, List.forall_mem_append]
  exact and_iff_left fun e he hfile hname => absurd hname (hnew e he hfile)

/-- A rule publishes the value that `sys.usb.config` has. -/
theorem publishedRight_run_rule {r : Rule} (hr : r ∈ rules) (i : InitState) (noneSet : Bool) :
    PublishedRight ⟨r.action.run exec i, noneSet⟩ ↔ PublishedRight ⟨i, noneSet⟩ ∧
      i.props .sysUsbConfig = r.config ∧ r.Fits i.device := by
  rw [← right_iff_fits hr i.props (i.props .sysUsbConfig) i.device, Rule.run]
  unfold PublishedRight
  rw [List.forall_mem_append, List.forall_mem_singleton]
  exact and_congr_right fun _ => ⟨fun h => h (action_mem r hr) rfl, fun h _ _ => h⟩

/-- A turn publishes something wrong exactly if it runs a rule that does not start fitting. -/
theorem publishedRight_turn (hP : PublishedRight s) (hstep : step platform s .turn = .ok s') :
    PublishedRight s' ↔ StartsFitting s .turn := by
  obtain ⟨⟨props, events, actions, device, sets⟩, noneSet⟩ := s
  cases actions with
  | nil =>
    have hvacuous : StartsFitting ⟨⟨props, events, [], device, sets⟩, noneSet⟩ .turn :=
      fun r _ hhead => nomatch hhead
    cases events with
    | nil => cases hstep
    | cons e events =>
      cases hstep
      exact iff_of_true hP hvacuous
  | cons a actions =>
    cases hstep
    by_cases ha : ∃ r ∈ rules, a = r.action
    · obtain ⟨r, hr, rfl⟩ := ha
      have hrun := publishedRight_run_rule hr ⟨props, events, actions, device, sets⟩ noneSet
      refine hrun.trans ⟨?_, ?_⟩
      · rintro ⟨-, hfits⟩ r' hr' hhead
        obtain rfl := eq_of_action r hr r' hr' (Option.some.inj hhead)
        exact hfits
      · intro hstarts
        exact ⟨hP, hstarts r hr rfl⟩
    · have hother : ∀ r ∈ rules, a ≠ r.action := fun r hr heq => ha ⟨r, hr, heq⟩
      refine iff_of_true ((publishedRight_run_other hother _ noneSet).2 hP) ?_
      intro r hr hhead
      exact absurd (Option.some.inj hhead) (hother r hr)

theorem publishedRight_step {a : Step} (hP : PublishedRight s)
    (hstep : step platform s a = .ok s') : PublishedRight s' ↔ StartsFitting s a := by
  cases a with
  | frameworkNone =>
    cases hstep
    exact iff_of_true hP trivial
  | framework config =>
    obtain ⟨-, rfl⟩ := ite_ok_eq_ok.1 hstep
    exact iff_of_true hP trivial
  | ffsReady ready =>
    cases hstep
    exact iff_of_true hP trivial
  | portIndex value =>
    cases hstep
    exact iff_of_true hP trivial
  | turn => exact publishedRight_turn hP hstep

end Step

/-! ## Runs -/

/-- From any state up to which everything published was right. -/
theorem throughout_publishedRight_iff {platform : List (Action Property GadgetCommand)}
    {s s' : SystemState} {acts : List Step} (hrun : run (step platform) s acts = .ok s')
    (hP : PublishedRight s) :
    Throughout (step platform) PublishedRight s acts ↔
      Guarded (step platform) StartsFitting s acts :=
  throughout_iff_guarded (I := fun _ => True) (fun _ _ _ _ _ => trivial)
    (fun _ _ _ _ hP hstep => publishedRight_step hP hstep) hrun trivial hP

/-- Everything published in a run was right when it was, exactly if every rule that published
started fitting. -/
theorem published_right_iff (platform : List (Action Property GadgetCommand)) (boot : Boot)
    (config portIndex : String) (acts : List Step) {s' : SystemState}
    (hrun : run (step platform) (start boot config portIndex) acts = .ok s') :
    Throughout (step platform) PublishedRight (start boot config portIndex) acts ↔
      Guarded (step platform) StartsFitting (start boot config portIndex) acts :=
  throughout_publishedRight_iff hrun fun _ he => nomatch he

/-- A platform with one rule, which takes back on `none` what the rules here leave. -/
def platformNone : Action Property GadgetCommand :=
  ⟨[(.sysUsbConfig, "none"), (.sysUsbConfigfs, "1")],
    [.device (.write .UDC (.text "none")), .setprop .sysUsbFfsReady (.text "0"),
      .device (.rm .f1), .device (.rm .f2), .device (.rm .f3)]⟩

/-- The framework takes the gadget to `mtp`. -/
def toMtp : List Step := [
  .turn, .frameworkNone, .turn, .turn, .turn, .framework "mtp", .turn, .turn, .turn]

/-- Then, with `adbd` ready, the port index becomes empty. -/
def adbOverMtp : List Step :=
  toMtp ++ [.ffsReady true, .portIndex "", .turn, .turn, .turn, .turn, .turn, .turn]

theorem published_right_mtp :
    Throughout (step [platformNone]) PublishedRight (start .normal "" "0") toMtp ∧
    ∃ e ∈ (final (step [platformNone]) (start .normal "" "0") toMtp).init.sets,
      e.action = mtp.action ∧ e.name = .sysUsbState ∧ e.value = "mtp" ∧ mtp.Gives e.device :=
  ⟨(published_right_iff [platformNone] .normal "" "0" toMtp (run_eq_ok_final (by decide))).2
    (by decide +kernel), by decide +kernel⟩

/-- `adb` is published with `f1` still linked to `mtp.gs0`. -/
theorem adb_published_over_mtp :
    (run (step [platformNone]) (start .normal "" "0") adbOverMtp).isOk ∧
    ¬ Throughout (step [platformNone]) PublishedRight (start .normal "" "0") adbOverMtp ∧
    ∃ e ∈ (final (step [platformNone]) (start .normal "" "0") adbOverMtp).init.sets,
      e.action = adb.action ∧ e.value = "adb" ∧ e.device.links .f1 = some .mtpGs0 := by
  decide +kernel

end RMX2020.Init
