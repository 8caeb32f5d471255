import RMX2020.Init.Gadget

/-!
# The rules about the USB gadget

`init.mt6768.usb.rc`, its rules in the order of the file, and the one rule of `init.mt6768.rc` that
sets `sys.usb.config`. Of the commands at boot only those are here that make functions or write an
attribute that some rule writes.
-/

namespace RMX2020.Init

open Machine Trigger

/-! ## Boot -/

/-- `on post-fs`. -/
def postFs : List GadgetCommand := [
  .write .idVendor (.text "0x22d9"),
  .write .osDescUse (.text "1"),
  .mkdir .accessoryGs2,
  .mkdir .audioSourceGs3,
  .mkdir .ffsAdb,
  .mkdir .mtpGs0,
  .mkdir .ptpGs1,
  .mkdir .rndisGs4,
  .mkdir .midiGs5,
  .mkdir .massStorageUsb0,
  .mkdir .hidGs0]

/-- `on charger`. -/
def onCharger : List GadgetCommand := [
  .write .idVendor (.text "0x0E8D"),
  .write .osDescUse (.text "1"),
  .mkdir .midiGs5]

/-! ## Rules that publish -/

def hid : Rule where
  ready := false
  config := "hid"
  writes := [(.configuration, "HID"), (.idProduct, "0x20FF"), (.protocol, "0"), (.subclass, "0")]
  links := [(.hidGs0, .f1)]

def adb : Rule where
  ready := true
  config := "adb"
  writes := [(.configuration, "adb"), (.idProduct, "0x2769")]
  links := [(.ffsAdb, .f1)]

def mtp : Rule where
  ready := false
  config := "mtp"
  writes := [(.configuration, "mtp"), (.idProduct, "0x2764"), (.osDescUse, "1")]
  links := [(.mtpGs0, .f1)]

def mtpAdb : Rule where
  ready := true
  config := "mtp,adb"
  writes := [(.configuration, "mtp_adb"), (.idProduct, "0x2765"), (.osDescUse, "1")]
  links := [(.mtpGs0, .f1), (.ffsAdb, .f2)]

def ptp : Rule where
  ready := false
  config := "ptp"
  writes := [(.configuration, "ptp"), (.idProduct, "0x200B")]
  links := [(.ptpGs1, .f1)]

def ptpAdb : Rule where
  ready := true
  config := "ptp,adb"
  writes := [(.configuration, "ptp_adb"), (.idProduct, "0x2772")]
  links := [(.ptpGs1, .f1), (.ffsAdb, .f2)]

def rndis : Rule where
  ready := false
  config := "rndis"
  mkdirs := [.rndisGs4]
  writes := [(.configuration, "rndis"), (.idProduct, "0x276A")]
  links := [(.rndisGs4, .f1)]

def rndisAdb : Rule where
  ready := true
  config := "rndis,adb"
  mkdirs := [.rndisGs4]
  writes := [(.configuration, "rndis_adb"), (.idProduct, "0x2766")]
  links := [(.rndisGs4, .f1), (.ffsAdb, .f2)]

def midi : Rule where
  ready := false
  config := "midi"
  writes := [(.idVendor, "0x0E8D"), (.idProduct, "0x2046"), (.configuration, "midi")]
  links := [(.midiGs5, .f1)]

def massStorage : Rule where
  ready := false
  config := "mass_storage"
  writes := [(.configuration, "ums"), (.idProduct, "0x2768")]
  links := [(.massStorageUsb0, .f1)]

def massStorageAdb : Rule where
  ready := true
  config := "mass_storage,adb"
  writes := [(.configuration, "ums_adb"), (.idProduct, "0x2767")]
  links := [(.massStorageUsb0, .f1), (.ffsAdb, .f2)]

def rules : List Rule := [hid, adb, mtp, mtpAdb, ptp, ptpAdb, rndis, rndisAdb, midi,
  massStorage, massStorageAdb]

/-! ## Rules that do not publish -/

/-- A rule that runs in a configuration and only acts on the gadget. -/
def gadgetRule (config : String) (commands : List GadgetCommand) :
    Action Property GadgetCommand :=
  ⟨[(.sysUsbConfig, config), (.sysUsbConfigfs, "1")], commands.map .device⟩

def bootmodeCharger : Action Property GadgetCommand :=
  ⟨[(.roBootmode, "charger")], [.setprop .sysUsbConfig (.text "midi")]⟩

def noneRule : Action Property GadgetCommand := gadgetRule "none"
  [.write .idVendor (.text "0x22d9"), .rm .f4, .rm .f5, .write .saving (.text "0")]

def midiAdb : Action Property GadgetCommand := gadgetRule "midi,adb"
  [.write .idProduct (.text "0x2048")]

def accessory : Action Property GadgetCommand := gadgetRule "accessory"
  [.write .idVendor (.text "0x18d1"), .write .idProduct (.text "0x2d00")]

def accessoryAdb : Action Property GadgetCommand := gadgetRule "accessory,adb"
  [.write .idVendor (.text "0x18d1"), .write .idProduct (.text "0x2d01")]

def audioSource : Action Property GadgetCommand := gadgetRule "audio_source"
  [.write .idVendor (.text "0x18d1"), .write .idProduct (.text "0x2d02")]

def audioSourceAdb : Action Property GadgetCommand := gadgetRule "audio_source,adb"
  [.write .idVendor (.text "0x18d1"), .write .idProduct (.text "0x2d03")]

def accessoryAudioSource : Action Property GadgetCommand :=
  gadgetRule "accessory,audio_source"
    [.write .idVendor (.text "0x18d1"), .write .idProduct (.text "0x2d04")]

def accessoryAudioSourceAdb : Action Property GadgetCommand :=
  gadgetRule "accessory,audio_source,adb"
    [.write .idVendor (.text "0x18d1"), .write .idProduct (.text "0x2d05")]

def massStorageAdbStart : Action Property GadgetCommand := gadgetRule "mass_storage,adb"
  [.start "adbd"]

/-! ## The files -/

/-- `init.mt6768.usb.rc`. -/
def usbRc : List (Action Property GadgetCommand) := [
  bootmodeCharger, noneRule, hid.action, adb.action, mtp.action, mtpAdb.action, ptp.action,
  ptpAdb.action, rndis.action, rndisAdb.action, midi.action, midiAdb, accessory, accessoryAdb,
  audioSource, audioSourceAdb, accessoryAudioSource, accessoryAudioSourceAdb,
  massStorage.action, massStorageAdbStart, massStorageAdb.action]

/-- `on property:persist.vendor.radio.port_index=""`, in `init.mt6768.rc`. -/
def portIndexEmpty : Action Property GadgetCommand :=
  ⟨[(.persistVendorRadioPortIndex, "")], [.setprop .sysUsbConfig (.text "adb")]⟩

/-! ## Facts about the table -/

theorem proper_of_mem : ∀ r ∈ rules, r.Proper := by
  decide

theorem action_mem : ∀ r ∈ rules, r.action ∈ usbRc := by
  decide

/-- Rules are told apart by the product they write, and by their configuration. -/
theorem eq_of_product : ∀ r ∈ rules, ∀ r' ∈ rules,
    r.writes.lookup .idProduct = r'.writes.lookup .idProduct → r = r' := by
  decide

theorem eq_of_action : ∀ r ∈ rules, ∀ r' ∈ rules, r.action = r'.action → r = r' := by
  decide

/-- Whether a command sets `sys.usb.state`. -/
def publishes : Command Property GadgetCommand → Bool
  | .setprop name _ => name = .sysUsbState
  | .device _ => false

theorem usbRc_cases : ∀ a ∈ usbRc,
    (∃ r ∈ rules, a = r.action) ∨ ∀ c ∈ a.commands, publishes c = false := by
  decide

end RMX2020.Init
