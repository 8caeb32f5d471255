import Mathlib.Data.Fintype.Basic
import Mathlib.Data.List.Nodup
import RMX2020.Machine.Trigger

/-!
# The USB gadget

What init's commands do to `/config/usb_gadget/g1`: its attributes, the functions that were made,
and the names under `configs/b.1` that link to them. A link is made if its function is there and its
name is free, and a function is removed if no name links to it. Services and other files are not
part of the gadget.

`Rule` is the shape of the rules that publish `sys.usb.state`; such a rule leaves the gadget it
gives exactly if it starts on one that fits it (`gives_iff_fits`).
-/

namespace RMX2020.Init

open Machine Trigger

/-! ## The gadget and the commands -/

inductive Property where
  | sysUsbConfig
  | sysUsbConfigfs
  | sysUsbFfsReady
  | sysUsbState
  | vendorUsbController
  | persistVendorRadioPortIndex
  | roBootmode
  deriving DecidableEq

/-- A file that rules write: `configuration` is that of `configs/b.1/strings/0x409`, `protocol` and
`subclass` are those of `hid.gs0`, and `saving` is that of `/sys/devices/platform/mt_usb`. -/
inductive Attribute where
  | idVendor
  | idProduct
  | configuration
  | osDescUse
  | protocol
  | subclass
  | saving
  | UDC
  deriving DecidableEq

/-- A directory under `functions`. -/
inductive UsbFunction where
  | accessoryGs2
  | audioSourceGs3
  | ffsAdb
  | mtpGs0
  | ptpGs1
  | rndisGs4
  | midiGs5
  | massStorageUsb0
  | hidGs0
  deriving DecidableEq

instance : Fintype UsbFunction where
  elems := {.accessoryGs2, .audioSourceGs3, .ffsAdb, .mtpGs0, .ptpGs1, .rndisGs4, .midiGs5,
    .massStorageUsb0, .hidGs0}
  complete f := by cases f <;> decide

/-- A name under `configs/b.1`. -/
inductive Link where
  | f1
  | f2
  | f3
  | f4
  | f5
  deriving DecidableEq

instance : Fintype Link where
  elems := {.f1, .f2, .f3, .f4, .f5}
  complete l := by cases l <;> decide

structure Gadget where
  attributes : Attribute → String
  functions : List UsbFunction
  links : Link → Option UsbFunction

inductive GadgetCommand where
  | write (a : Attribute) (value : Text Property)
  | mkdir (f : UsbFunction)
  | rmdir (f : UsbFunction)
  | symlink (f : UsbFunction) (l : Link)
  | rm (l : Link)
  | start (service : String)
  deriving DecidableEq

def exec (props : Property → String) : GadgetCommand → Gadget → Gadget
  | .write a value, g =>
    { g with attributes := Function.update g.attributes a (value.expand props) }
  | .mkdir f, g => if f ∈ g.functions then g else { g with functions := f :: g.functions }
  | .rmdir f, g =>
    if ∃ l, g.links l = some f then g
    else { g with functions := g.functions.filter (· ≠ f) }
  | .symlink f l, g =>
    if f ∈ g.functions ∧ g.links l = none then
      { g with links := Function.update g.links l (some f) }
    else g
  | .rm l, g => { g with links := Function.update g.links l none }
  | .start _, g => g

section Exec

variable {props : Property → String} {g : Gadget} {a a' : Attribute} {value : Text Property}

@[simp]
theorem exec_write_self :
    (exec props (.write a value) g).attributes a = value.expand props := Function.update_self ..

theorem exec_write_of_ne (h : a' ≠ a) :
    (exec props (.write a value) g).attributes a' = g.attributes a' := Function.update_of_ne h ..

@[simp]
theorem exec_rm_self {l : Link} : (exec props (.rm l) g).links l = none := Function.update_self ..

theorem exec_rm_of_ne {l l' : Link} (h : l' ≠ l) :
    (exec props (.rm l) g).links l' = g.links l' := Function.update_of_ne h ..

end Exec

/-! ## Rules that publish -/

/-- A rule that sets up a configuration and publishes it: it makes functions, writes attributes,
links functions, binds the gadget and sets `sys.usb.state`. -/
structure Rule where
  /-- Whether the rule waits for `sys.usb.ffs.ready`. -/
  ready : Bool
  config : String
  mkdirs : List UsbFunction := []
  writes : List (Attribute × String)
  links : List (UsbFunction × Link)
  deriving DecidableEq

def Rule.triggers (r : Rule) : List (Property × String) :=
  (if r.ready then [(.sysUsbFfsReady, "1")] else []) ++
    [(.sysUsbConfig, r.config), (.sysUsbConfigfs, "1")]

def Rule.commands (r : Rule) : List GadgetCommand :=
  r.mkdirs.map .mkdir ++ r.writes.map (fun w => .write w.1 (.text w.2)) ++
    r.links.map (fun l => .symlink l.1 l.2) ++ [.write .UDC (.prop .vendorUsbController)]

def Rule.action (r : Rule) : Action Property GadgetCommand :=
  ⟨r.triggers, r.commands.map .device ++ [.setprop .sysUsbState (.prop .sysUsbConfig)]⟩

/-- The `idVendor` that is restored on `none`. -/
def defaultVendor : String := "0x22d9"

/-- No name is linked and no attribute written twice. -/
structure Rule.Proper (r : Rule) : Prop where
  writes : (r.writes.map Prod.fst).Nodup
  links : (r.links.map Prod.snd).Nodup
  product : (r.writes.lookup .idProduct).isSome

instance (r : Rule) : Decidable r.Proper :=
  decidable_of_iff ((r.writes.map Prod.fst).Nodup ∧ (r.links.map Prod.snd).Nodup ∧
    (r.writes.lookup .idProduct).isSome)
    ⟨fun h => ⟨h.1, h.2.1, h.2.2⟩, fun h => ⟨h.writes, h.links, h.product⟩⟩

/-- The gadget has the ids and the links of the rule, as far as the rule writes them. -/
structure Rule.Gives (r : Rule) (g : Gadget) : Prop where
  idVendor : g.attributes .idVendor = (r.writes.lookup .idVendor).getD defaultVendor
  idProduct : r.writes.lookup .idProduct = some (g.attributes .idProduct)
  links : ∀ f l, g.links l = some f ↔ (f, l) ∈ r.links

/-- The functions that the rule links are there, or it makes them. -/
def Rule.Made (r : Rule) (g : Gadget) : Prop :=
  ∀ f l, (f, l) ∈ r.links → f ∈ g.functions ∨ f ∈ r.mkdirs

/-- The gadget holds nothing that the rule leaves and does not give. -/
structure Rule.Fits (r : Rule) (g : Gadget) : Prop where
  idVendor : r.writes.lookup .idVendor = none → g.attributes .idVendor = defaultVendor
  own : ∀ f l, g.links l = some f → (f, l) ∈ r.links
  functions : ∀ f l, (f, l) ∈ r.links → g.links l = none → f ∈ g.functions ∨ f ∈ r.mkdirs

instance (r : Rule) (g : Gadget) : Decidable (r.Gives g) :=
  decidable_of_iff (g.attributes .idVendor = (r.writes.lookup .idVendor).getD defaultVendor ∧
    r.writes.lookup .idProduct = some (g.attributes .idProduct) ∧
    ∀ f l, g.links l = some f ↔ (f, l) ∈ r.links)
    ⟨fun h => ⟨h.1, h.2.1, h.2.2⟩, fun h => ⟨h.idVendor, h.idProduct, h.links⟩⟩

instance (r : Rule) (g : Gadget) : Decidable (r.Fits g) :=
  decidable_of_iff
    ((r.writes.lookup .idVendor = none → g.attributes .idVendor = defaultVendor) ∧
      (∀ f l, g.links l = some f → (f, l) ∈ r.links) ∧
      ∀ f l, (f, l) ∈ r.links → g.links l = none → f ∈ g.functions ∨ f ∈ r.mkdirs)
    ⟨fun h => ⟨h.1, h.2.1, h.2.2⟩, fun h => ⟨h.idVendor, h.own, h.functions⟩⟩

/-! ## What a rule does to the gadget -/

section Rule

variable (props : Property → String) (g : Gadget)

def execAll (cs : List GadgetCommand) (g : Gadget) : Gadget :=
  cs.foldl (fun g c => exec props c g) g

theorem execAll_mkdir (fs : List UsbFunction) :
    (execAll props (fs.map .mkdir) g).attributes = g.attributes ∧
    (execAll props (fs.map .mkdir) g).links = g.links ∧
    ∀ f, f ∈ (execAll props (fs.map .mkdir) g).functions ↔ f ∈ g.functions ∨ f ∈ fs := by
  induction fs generalizing g with
  | nil => simp [execAll]
  | cons f' fs ih =>
    obtain ⟨hattributes, hlinks, hfunctions⟩ := ih (exec props (.mkdir f') g)
    have hcons : execAll props ((f' :: fs).map .mkdir) g =
      execAll props (fs.map .mkdir) (exec props (.mkdir f') g) := rfl
    rw [hcons]
    by_cases hmem : f' ∈ g.functions
    · have hexec : exec props (.mkdir f') g = g := if_pos hmem
      rw [hexec] at hattributes hlinks hfunctions ⊢
      refine ⟨hattributes, hlinks, fun f => ?_⟩
      rw [hfunctions, List.mem_cons]
      constructor
      · rintro (h | h)
        · exact .inl h
        · exact .inr (.inr h)
      · rintro (h | rfl | h)
        · exact .inl h
        · exact .inl hmem
        · exact .inr h
    · have hexec : exec props (.mkdir f') g = { g with functions := f' :: g.functions } :=
        if_neg hmem
      rw [hexec] at hattributes hlinks hfunctions ⊢
      refine ⟨hattributes, hlinks, fun f => ?_⟩
      rw [hfunctions, List.mem_cons, List.mem_cons, or_assoc, or_left_comm]

theorem lookup_eq_none {ws : List (Attribute × String)} {a : Attribute}
    (h : a ∉ ws.map Prod.fst) : ws.lookup a = none := by
  rw [List.lookup_eq_none_iff]
  intro w hw
  have hne : a ≠ w.1 := fun heq => h (heq ▸ List.mem_map_of_mem hw)
  simpa using hne

theorem execAll_write {ws : List (Attribute × String)} (h : (ws.map Prod.fst).Nodup) :
    (execAll props (ws.map fun w => .write w.1 (.text w.2)) g).functions = g.functions ∧
    (execAll props (ws.map fun w => .write w.1 (.text w.2)) g).links = g.links ∧
    ∀ a, (execAll props (ws.map fun w => .write w.1 (.text w.2)) g).attributes a =
      (ws.lookup a).getD (g.attributes a) := by
  induction ws generalizing g with
  | nil => simp [execAll]
  | cons w ws ih =>
    obtain ⟨w₁, w₂⟩ := w
    rw [List.map_cons, List.nodup_cons] at h
    obtain ⟨hfunctions, hlinks, hattributes⟩ := ih (exec props (.write w₁ (.text w₂)) g) h.2
    refine ⟨hfunctions, hlinks, fun a => (hattributes a).trans ?_⟩
    have hwrite : (exec props (.write w₁ (.text w₂)) g).attributes a =
      Function.update g.attributes w₁ w₂ a := rfl
    rw [hwrite, List.lookup_cons]
    by_cases ha : a = w₁
    · subst ha
      simp [lookup_eq_none h.1]
    · have hbeq : (a == w₁) = false := by simpa using ha
      rw [hbeq, Function.update_of_ne ha]

theorem execAll_symlink {ls : List (UsbFunction × Link)} (h : (ls.map Prod.snd).Nodup) :
    (execAll props (ls.map fun l => .symlink l.1 l.2) g).attributes = g.attributes ∧
    (execAll props (ls.map fun l => .symlink l.1 l.2) g).functions = g.functions ∧
    ∀ f l, (execAll props (ls.map fun l => .symlink l.1 l.2) g).links l = some f ↔
      g.links l = some f ∨ g.links l = none ∧ (f, l) ∈ ls ∧ f ∈ g.functions := by
  induction ls generalizing g with
  | nil => simp [execAll]
  | cons fl ls ih =>
    obtain ⟨f₀, l₀⟩ := fl
    rw [List.map_cons, List.nodup_cons] at h
    have hfresh (f : UsbFunction) : (f, l₀) ∉ ls := fun hmem =>
      h.1 (List.mem_map.2 ⟨(f, l₀), hmem, rfl⟩)
    obtain ⟨hattributes, hfunctions, hlinks⟩ := ih (exec props (.symlink f₀ l₀) g) h.2
    have hcons : execAll props (((f₀, l₀) :: ls).map fun l => .symlink l.1 l.2) g =
      execAll props (ls.map fun l => .symlink l.1 l.2) (exec props (.symlink f₀ l₀) g) := rfl
    rw [hcons]
    by_cases hfree : f₀ ∈ g.functions ∧ g.links l₀ = none
    · have hexec : exec props (.symlink f₀ l₀) g =
        { g with links := Function.update g.links l₀ (some f₀) } := if_pos hfree
      rw [hexec] at hattributes hfunctions hlinks ⊢
      refine ⟨hattributes, hfunctions, fun f l => (hlinks f l).trans ?_⟩
      by_cases hl : l = l₀
      · subst hl
        simp only [Function.update_self, hfree, hfresh, List.mem_cons, Prod.mk.injEq]
        constructor
        · rintro (heq | ⟨heq, -⟩)
          · obtain rfl := Option.some.inj heq
            exact .inr ⟨trivial, .inl ⟨rfl, trivial⟩, hfree.1⟩
          · cases heq
        · rintro (heq | ⟨-, ⟨rfl, -⟩ | hmem, -⟩)
          · cases heq
          · exact .inl rfl
          · exact absurd hmem id
      · simp [hl]
    · have hexec : exec props (.symlink f₀ l₀) g = g := if_neg hfree
      rw [hexec] at hattributes hfunctions hlinks ⊢
      refine ⟨hattributes, hfunctions, fun f l => (hlinks f l).trans ?_⟩
      by_cases hl : l = l₀
      · subst hl
        have hnot : ¬ (g.links l = none ∧ (f, l) ∈ (f₀, l) :: ls ∧ f ∈ g.functions) := by
          rintro ⟨hnone, hmem, hf⟩
          obtain rfl : f = f₀ := by simpa [hfresh] using hmem
          exact hfree ⟨hf, hnone⟩
        simp only [hnot, hfresh, false_and, and_false, or_false]
      · simp [hl]

/-- The gadget after the commands of a rule, in terms of the gadget before. -/
theorem execAll_commands {r : Rule} (hr : r.Proper) :
    (∀ a ≠ .UDC, (execAll props r.commands g).attributes a =
      (r.writes.lookup a).getD (g.attributes a)) ∧
    (∀ f, f ∈ (execAll props r.commands g).functions ↔ f ∈ g.functions ∨ f ∈ r.mkdirs) ∧
    ∀ f l, (execAll props r.commands g).links l = some f ↔
      g.links l = some f ∨
        g.links l = none ∧ (f, l) ∈ r.links ∧ (f ∈ g.functions ∨ f ∈ r.mkdirs) := by
  have hcommands : execAll props r.commands g =
      exec props (.write .UDC (.prop .vendorUsbController))
        (execAll props (r.links.map fun l => .symlink l.1 l.2)
          (execAll props (r.writes.map fun w => .write w.1 (.text w.2))
            (execAll props (r.mkdirs.map .mkdir) g))) := by
    simp only [execAll, Rule.commands, List.foldl_append, List.foldl_cons, List.foldl_nil]
  obtain ⟨hattributes₁, hlinks₁, hfunctions₁⟩ := execAll_mkdir props g r.mkdirs
  generalize execAll props (r.mkdirs.map .mkdir) g = g₁ at *
  obtain ⟨hfunctions₂, hlinks₂, hattributes₂⟩ := execAll_write props g₁ hr.writes
  generalize execAll props (r.writes.map fun w => .write w.1 (.text w.2)) g₁ = g₂ at *
  obtain ⟨hattributes₃, hfunctions₃, hlinks₃⟩ := execAll_symlink props g₂ hr.links
  generalize execAll props (r.links.map fun l => .symlink l.1 l.2) g₂ = g₃ at *
  rw [hcommands]
  refine ⟨fun a ha => ?_, fun f => ?_, fun f l => ?_⟩
  · rw [exec_write_of_ne ha, hattributes₃, hattributes₂, hattributes₁]
  · have hkept : (exec props (.write .UDC (.prop .vendorUsbController)) g₃).functions =
      g₃.functions := rfl
    rw [hkept, hfunctions₃, hfunctions₂, hfunctions₁]
  · refine (hlinks₃ f l).trans ?_
    rw [hlinks₂, hlinks₁, hfunctions₂, hfunctions₁]

/-- A rule runs its commands, and then publishes the value of `sys.usb.config`. -/
theorem Rule.run (r : Rule) (i : Trigger.State Property GadgetCommand Gadget) :
    r.action.run exec i =
      { i with
        props := Function.update i.props .sysUsbState (i.props .sysUsbConfig)
        events := i.events ++ [some (.sysUsbState, i.props .sysUsbConfig)]
        device := execAll i.props r.commands i.device
        sets := i.sets ++ [⟨r.action, .sysUsbState, i.props .sysUsbConfig,
          execAll i.props r.commands i.device⟩] } := by
  have hcommands : r.action.commands =
    r.commands.map .device ++ [.setprop .sysUsbState (.prop .sysUsbConfig)] := rfl
  rw [run_device_setprop hcommands]
  rfl

theorem Rule.run_state (r : Rule) (i : Trigger.State Property GadgetCommand Gadget) :
    (r.action.run exec i).props .sysUsbState = i.props .sysUsbConfig := by
  rw [Rule.run]
  dsimp only
  rw [Function.update_self]

/-- A rule leaves the gadget it gives exactly if it starts on one that fits it. -/
theorem gives_iff_fits {r : Rule} (hr : r.Proper) :
    r.Gives (execAll props r.commands g) ↔ r.Fits g := by
  obtain ⟨hattributes, -, hlinks⟩ := execAll_commands props g hr
  constructor
  · intro hgives
    refine ⟨fun hvendor => ?_, fun f l hl => ?_, fun f l hmem hnone => ?_⟩
    · have hid := hgives.idVendor
      rwa [hattributes .idVendor (by decide), hvendor] at hid
    · exact (hgives.links f l).1 ((hlinks f l).2 (.inl hl))
    · rcases (hlinks f l).1 ((hgives.links f l).2 hmem) with hl | ⟨-, -, hmade⟩
      · rw [hnone] at hl
        cases hl
      · exact hmade
  · intro hfits
    refine ⟨?_, ?_, fun f l => ?_⟩
    · rw [hattributes .idVendor (by decide)]
      cases hvendor : r.writes.lookup .idVendor with
      | none => exact hfits.idVendor hvendor
      | some value => rfl
    · rw [hattributes .idProduct (by decide)]
      obtain ⟨value, hvalue⟩ := Option.isSome_iff_exists.1 hr.product
      rw [hvalue, Option.getD_some]
    · rw [hlinks]
      constructor
      · rintro (hl | ⟨-, hmem, -⟩)
        · exact hfits.own f l hl
        · exact hmem
      · intro hmem
        cases hl : g.links l with
        | none => exact .inr ⟨rfl, hmem, hfits.functions f l hmem hl⟩
        | some f' =>
          have hown := hfits.own f' l hl
          have hsame := List.inj_on_of_nodup_map hr.links hown hmem rfl
          exact .inl (congrArg some (Prod.mk.inj hsame).1)

/-- A rule that is run takes no function away. -/
theorem Rule.Made.execAll {r r' : Rule} (h : r'.Made g) (hr : r.Proper) :
    r'.Made (execAll props r.commands g) := by
  intro f l hmem
  rw [(execAll_commands props g hr).2.1]
  exact (h f l hmem).imp_left .inl

end Rule

/-- A rule that has given its gadget fits it. -/
theorem Rule.Gives.fits {r : Rule} {g : Gadget} (h : r.Gives g) (hmade : r.Made g) : r.Fits g := by
  refine ⟨fun hwrites => ?_, fun f l hl => (h.links f l).1 hl, fun f l hmem _ => hmade f l hmem⟩
  rw [h.idVendor, hwrites, Option.getD_none]

end RMX2020.Init
