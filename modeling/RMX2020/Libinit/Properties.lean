import RMX2020.Machine.Writes

/-!
# Vendor properties

`init_RMX2020.cpp`: init calls `vendorLoadProperties`, which tells the variants of the device
apart by `/proc/oppoVersion/operatorName` and overrides properties. The property area belongs to
bionic; what is needed of its calls, as long as none fails, is `Succeeds`.

A run makes the writes `overrides`, so what becomes of a property is what is written to it last
(`value_initOperatorNameProperties`). `variant_detected` says it name by name.
-/

namespace RMX2020.Libinit

open Machine

/-- The contents of a file. -/
abbrev Content := List UInt8

/-- The characters of a literal. -/
def chars (literal : String) : Content := literal.toList.map fun c => UInt8.ofNat c.toNat

/-- The `__system_property` calls. The state of the area is of type `σ`, a `prop_info *` into it of
type `π`. -/
structure SystemProperties (σ π : Type*) where
  find : σ → String → Option π
  read : σ → π → String
  update : σ → π → String → σ
  add : σ → String → String → σ

variable {σ π : Type*}

/-- What a property is, `none` if there is none. -/
def SystemProperties.value (area : SystemProperties σ π) (store : σ) (prop : String) :
    Option String :=
  (area.find store prop).map (area.read store)

/-- The calls that change a property, when they do not fail. -/
structure SystemProperties.Succeeds (area : SystemProperties σ π) : Prop where
  update : ∀ store prop pi value, area.find store prop = some pi → ∀ name,
    area.value (area.update store pi value) name =
      if name = prop then some value else area.value store name
  add : ∀ store prop value, area.find store prop = none → ∀ name,
    area.value (area.add store prop value) name =
      if name = prop then some value else area.value store name

def roPropsDefaultSourceOrder : List String :=
  ["", "odm.", "system.", "product.", "system_ext.", "vendor.", "vendor_dlkm."]

def operatorNameFile : String := "/proc/oppoVersion/operatorName"

section Code

variable (area : SystemProperties σ π)

def propertyOverride (prop value : String) (store : σ) : σ :=
  match area.find store prop with
  | some pi => area.update store pi value
  | none => area.add store prop value

def setRoProductProp (source prop value : String) (store : σ) : σ :=
  propertyOverride area ("ro.product." ++ source ++ prop) value store

def setDeviceProps (device model name marketname : String) (store : σ) : σ :=
  roPropsDefaultSourceOrder.foldl (fun store source =>
    let store := setRoProductProp area source "device" device store
    let store := setRoProductProp area source "model" model store
    let store := setRoProductProp area source "name" name store
    setRoProductProp area source "marketname" marketname store) store

/-- `ReadFileToString` is `none` where it returns false. -/
def initOperatorNameProperties (ReadFileToString : String → Option Content) (store : σ) : σ :=
  match ReadFileToString operatorNameFile with
  | some operatorName =>
    let store :=
      if operatorName = chars "113" ∨ operatorName = chars "122" then
        propertyOverride area "ro.boot.product.hardware.sku" "nfc" store
      else store
    if operatorName = chars "114" then
      let store := propertyOverride area "persist.vendor.fingerprint.available" "false" store
      setDeviceProps area "RMX2027" "RMX2027" "RMX2027" "RMX2027" store
    else propertyOverride area "persist.vendor.fingerprint.available" "true" store
  | none => store

/-- The default also stands in for an empty value. -/
def GetProperty (key default : String) (store : σ) : String :=
  match area.value store key with
  | some value => if value = "" then default else value
  | none => default

/-- In a recovery image (`__ANDROID_RECOVERY__`), builds other than `user` are made debuggable. -/
def vendorLoadProperties (recovery : Bool) (ReadFileToString : String → Option Content)
    (store : σ) : σ :=
  let store := initOperatorNameProperties area ReadFileToString store
  if recovery then
    if GetProperty area "ro.build.type" "userdebug" store ≠ "user" then
      propertyOverride area "ro.adb.secure.recovery" "0"
        (propertyOverride area "ro.debuggable" "1" store)
    else store
  else store

end Code

/-! ## The overrides as writes -/

section Overrides

variable {area : SystemProperties σ π}

theorem SystemProperties.Succeeds.writing (h : area.Succeeds) :
    Writing area.value (propertyOverride area) := by
  intro prop value store name
  unfold propertyOverride
  split
  · next pi hfind => exact h.update store prop pi value hfind name
  · next hfind => exact h.add store prop value hfind name

/-- The writes of `setDeviceProps`. -/
def deviceOverrides (device model name marketname : String) : List (String × String) :=
  roPropsDefaultSourceOrder.flatMap fun source => [
    ("ro.product." ++ source ++ "device", device),
    ("ro.product." ++ source ++ "model", model),
    ("ro.product." ++ source ++ "name", name),
    ("ro.product." ++ source ++ "marketname", marketname)]

/-- The writes of `initOperatorNameProperties`. -/
def overrides : Option Content → List (String × String)
  | some operatorName =>
    (if operatorName = chars "113" ∨ operatorName = chars "122" then
      [("ro.boot.product.hardware.sku", "nfc")] else []) ++
    if operatorName = chars "114" then
      ("persist.vendor.fingerprint.available", "false") ::
        deviceOverrides "RMX2027" "RMX2027" "RMX2027" "RMX2027"
    else [("persist.vendor.fingerprint.available", "true")]
  | none => []

/-- The four properties of the product that each of the seven sources has. -/
def roProductNames : List String := [
  "ro.product.device", "ro.product.model", "ro.product.name", "ro.product.marketname",
  "ro.product.odm.device", "ro.product.odm.model",
  "ro.product.odm.name", "ro.product.odm.marketname",
  "ro.product.system.device", "ro.product.system.model",
  "ro.product.system.name", "ro.product.system.marketname",
  "ro.product.product.device", "ro.product.product.model",
  "ro.product.product.name", "ro.product.product.marketname",
  "ro.product.system_ext.device", "ro.product.system_ext.model",
  "ro.product.system_ext.name", "ro.product.system_ext.marketname",
  "ro.product.vendor.device", "ro.product.vendor.model",
  "ro.product.vendor.name", "ro.product.vendor.marketname",
  "ro.product.vendor_dlkm.device", "ro.product.vendor_dlkm.model",
  "ro.product.vendor_dlkm.name", "ro.product.vendor_dlkm.marketname"]

/-- The loop of `setDeviceProps` makes up these names. -/
theorem roProductNames_eq : roProductNames =
    roPropsDefaultSourceOrder.flatMap fun source =>
      ["device", "model", "name", "marketname"].map fun field =>
        "ro.product." ++ source ++ field := by
  decide +kernel

/-- No two of the names are the same, and the two others are not among them. -/
theorem nodup_names : ("ro.boot.product.hardware.sku" ::
    "persist.vendor.fingerprint.available" :: roProductNames).Nodup := by
  decide +kernel

theorem map_fst_deviceOverrides (device model name marketname : String) :
    (deviceOverrides device model name marketname).map Prod.fst = roProductNames := by
  rw [roProductNames_eq]
  rfl

theorem setDeviceProps_eq (device model name marketname : String) (store : σ) :
    setDeviceProps area device model name marketname store =
      writeAll (propertyOverride area) (deviceOverrides device model name marketname) store := by
  rw [deviceOverrides, writeAll_flatMap]
  rfl

theorem initOperatorNameProperties_eq (ReadFileToString : String → Option Content)
    (store : σ) : initOperatorNameProperties area ReadFileToString store =
      writeAll (propertyOverride area) (overrides (ReadFileToString operatorNameFile))
        store := by
  unfold initOperatorNameProperties overrides
  cases ReadFileToString operatorNameFile with
  | none => rfl
  | some operatorName =>
    simp only [setDeviceProps_eq]
    rw [writeAll_append]
    by_cases hnfc : operatorName = chars "113" ∨ operatorName = chars "122"
    · rw [if_pos hnfc, if_pos hnfc]
      split <;> rfl
    · rw [if_neg hnfc, if_neg hnfc]
      split <;> rfl

/-- A property has the value that is written to it last, or the one it had. -/
theorem value_initOperatorNameProperties (h : area.Succeeds)
    (ReadFileToString : String → Option Content) (store : σ) (prop : String) :
    area.value (initOperatorNameProperties area ReadFileToString store) prop =
      (lastWrite (overrides (ReadFileToString operatorNameFile)) prop).or
        (area.value store prop) := by
  rw [initOperatorNameProperties_eq]
  exact h.writing.get_writeAll _ store prop

end Overrides

/-! ## What is overridden -/

section Names

variable {area : SystemProperties σ π} {device model name marketname prop value : String}
  {operatorName : Content}

theorem nodup_roProductNames : roProductNames.Nodup :=
  (List.nodup_cons.1 (List.nodup_cons.1 nodup_names).2).2

theorem available_notMem : "persist.vendor.fingerprint.available" ∉ roProductNames :=
  (List.nodup_cons.1 (List.nodup_cons.1 nodup_names).2).1

theorem sku_notMem :
    "ro.boot.product.hardware.sku" ∉ "persist.vendor.fingerprint.available" :: roProductNames :=
  (List.nodup_cons.1 nodup_names).1

theorem lastWrite_deviceOverrides
    (h : (prop, value) ∈ deviceOverrides device model name marketname) :
    lastWrite (deviceOverrides device model name marketname) prop = some value := by
  apply lastWrite_of_mem _ h
  rw [map_fst_deviceOverrides]
  exact nodup_roProductNames

theorem lastWrite_deviceOverrides_of_notMem (h : prop ∉ roProductNames) :
    lastWrite (deviceOverrides device model name marketname) prop = none := by
  apply lastWrite_of_notMem
  rwa [map_fst_deviceOverrides]

theorem mem_deviceOverrides (h : prop ∈ roProductNames) :
    (prop, value) ∈ deviceOverrides value value value value := by
  simp only [roProductNames_eq, deviceOverrides, List.mem_flatMap, List.mem_map] at h ⊢
  obtain ⟨source, hsource, field, hfield, rfl⟩ := h
  refine ⟨source, hsource, ?_⟩
  simp only [List.mem_cons, List.not_mem_nil, or_false] at hfield
  rcases hfield with rfl | rfl | rfl | rfl <;> simp

theorem lastWrite_overrides_sku : lastWrite (overrides (some operatorName))
    "ro.boot.product.hardware.sku" =
      if operatorName = chars "113" ∨ operatorName = chars "122" then some "nfc" else none := by
  have hsku := sku_notMem
  rw [List.mem_cons, not_or] at hsku
  rw [overrides, lastWrite_append]
  split <;> split <;> simp [lastWrite_deviceOverrides_of_notMem hsku.2]

theorem lastWrite_overrides_available : lastWrite (overrides (some operatorName))
    "persist.vendor.fingerprint.available" =
      some (if operatorName = chars "114" then "false" else "true") := by
  rw [overrides, lastWrite_append]
  split <;> simp [lastWrite_deviceOverrides_of_notMem available_notMem]

theorem lastWrite_overrides_ro_product (h : prop ∈ roProductNames) :
    lastWrite (overrides (some operatorName)) prop =
      if operatorName = chars "114" then some "RMX2027" else none := by
  have hsku : prop ≠ "ro.boot.product.hardware.sku" := by
    rintro rfl
    exact sku_notMem (List.mem_cons_of_mem _ h)
  have havailable : prop ≠ "persist.vendor.fingerprint.available" := by
    rintro rfl
    exact available_notMem h
  rw [overrides, lastWrite_append]
  split <;> split <;>
    simp [hsku, havailable, lastWrite_deviceOverrides (mem_deviceOverrides h)]

theorem lastWrite_overrides_other (hsku : prop ≠ "ro.boot.product.hardware.sku")
    (havailable : prop ≠ "persist.vendor.fingerprint.available") (h : prop ∉ roProductNames) :
    lastWrite (overrides (some operatorName)) prop = none := by
  rw [overrides, lastWrite_append]
  split <;> split <;> simp [hsku, havailable, lastWrite_deviceOverrides_of_notMem h]

end Names

/-! ## The variant -/

/-- What the contents of the file make of the properties. -/
structure Detects (operatorName : Option Content) (before after : String → Option String) :
    Prop where
  other : ∀ prop, prop ≠ "ro.boot.product.hardware.sku" →
    prop ≠ "persist.vendor.fingerprint.available" → prop ∉ roProductNames →
      after prop = before prop
  ro_product : ∀ prop ∈ roProductNames, after prop =
    if operatorName = some (chars "114") then some "RMX2027" else before prop
  available : after "persist.vendor.fingerprint.available" =
    match operatorName with
    | some content => some (if content = chars "114" then "false" else "true")
    | none => before "persist.vendor.fingerprint.available"
  sku : after "ro.boot.product.hardware.sku" =
    if operatorName = some (chars "113") ∨ operatorName = some (chars "122") then some "nfc"
    else before "ro.boot.product.hardware.sku"

theorem detects {area : SystemProperties σ π} (h : area.Succeeds)
    (ReadFileToString : String → Option Content) (store : σ) :
    Detects (ReadFileToString operatorNameFile) (area.value store)
      (area.value (initOperatorNameProperties area ReadFileToString store)) := by
  have hvalue := value_initOperatorNameProperties h ReadFileToString store
  cases hread : ReadFileToString operatorNameFile with
  | none =>
    rw [hread] at hvalue
    have hsame (prop : String) : area.value
        (initOperatorNameProperties area ReadFileToString store) prop = area.value store prop :=
      hvalue prop
    constructor <;> simp [hsame]
  | some operatorName =>
    rw [hread] at hvalue
    refine ⟨fun prop hsku havailable hprop => ?_, fun prop hprop => ?_, ?_, ?_⟩
    · rw [hvalue, lastWrite_overrides_other hsku havailable hprop, Option.none_or]
    · rw [hvalue, lastWrite_overrides_ro_product hprop]
      simp only [Option.some.injEq]
      split
      · exact Option.some_or
      · exact Option.none_or
    · rw [hvalue, lastWrite_overrides_available, Option.some_or]
    · rw [hvalue, lastWrite_overrides_sku]
      simp only [Option.some.injEq]
      split
      · exact Option.some_or
      · exact Option.none_or

/-- In recovery two more properties can change. -/
theorem value_vendorLoadProperties {area : SystemProperties σ π} (h : area.Succeeds)
    (recovery : Bool) (ReadFileToString : String → Option Content) (store : σ) {prop : String}
    (hdebuggable : prop ≠ "ro.debuggable") (hadb : prop ≠ "ro.adb.secure.recovery") :
    area.value (vendorLoadProperties area recovery ReadFileToString store) prop =
      area.value (initOperatorNameProperties area ReadFileToString store) prop := by
  simp only [vendorLoadProperties]
  split
  · split
    · rw [h.writing _ _ _ prop, if_neg hadb, h.writing _ _ _ prop, if_neg hdebuggable]
    · rfl
  · rfl

/-- Outside recovery, the properties tell the variant, no other property changes, and a second run
changes nothing. -/
theorem variant_detected {area : SystemProperties σ π} (h : area.Succeeds)
    (ReadFileToString : String → Option Content) (store : σ) :
    Detects (ReadFileToString operatorNameFile) (area.value store)
      (area.value (vendorLoadProperties area false ReadFileToString store)) ∧
    ∀ prop, area.value (vendorLoadProperties area false ReadFileToString
        (vendorLoadProperties area false ReadFileToString store)) prop =
      area.value (vendorLoadProperties area false ReadFileToString store) prop := by
  have hinit (store : σ) : vendorLoadProperties area false ReadFileToString store =
      initOperatorNameProperties area ReadFileToString store := rfl
  rw [hinit, hinit]
  refine ⟨detects h ReadFileToString store, fun prop => ?_⟩
  rw [initOperatorNameProperties_eq, initOperatorNameProperties_eq]
  exact h.writing.get_writeAll_again _ store prop

/-- A table of properties, with names for pointers. -/
def properties : SystemProperties (AList fun _ : String => String) String where
  find table prop := if prop ∈ table then some prop else none
  read table pi := (table.lookup pi).getD ""
  update table pi value := modify pi (fun _ => value) table
  add table prop value := table.insert prop value

theorem value_properties (table : AList fun _ : String => String) (prop : String) :
    properties.value table prop = table.lookup prop := by
  unfold SystemProperties.value properties
  by_cases hprop : prop ∈ table
  · obtain ⟨v, hv⟩ := Option.isSome_iff_exists.1 (AList.lookup_isSome.2 hprop)
    simp [hprop, hv]
  · simp [hprop, AList.lookup_eq_none.2 hprop]

theorem succeeds_properties : properties.Succeeds := by
  constructor
  · intro table prop pi value hfind name
    obtain ⟨hprop, rfl⟩ : prop ∈ table ∧ prop = pi := by simpa [properties] using hfind
    rw [value_properties, value_properties, properties, lookup_modify]
    by_cases hname : name = prop
    · subst hname
      obtain ⟨v, hv⟩ := Option.isSome_iff_exists.1 (AList.lookup_isSome.2 hprop)
      simp [hv]
    · simp [hname]
  · intro table prop value _ name
    rw [value_properties, value_properties]
    by_cases hname : name = prop
    · subst hname
      rw [if_pos rfl]
      exact AList.lookup_insert table
    · rw [if_neg hname]
      exact AList.lookup_insert_ne hname

/-- The store of a device that is not told apart yet. -/
def rmx2020 : AList fun _ : String => String :=
  (∅ : AList fun _ : String => String).insert "ro.product.model" "RMX2020"

theorem variant_detected_RMX2027 :
    Detects (some (chars "114")) (properties.value rmx2020)
      (properties.value (vendorLoadProperties properties false
        (fun _ => some (chars "114")) rmx2020)) ∧
    ∀ prop, properties.value (vendorLoadProperties properties false (fun _ => some (chars "114"))
        (vendorLoadProperties properties false (fun _ => some (chars "114")) rmx2020)) prop =
      properties.value (vendorLoadProperties properties false
        (fun _ => some (chars "114")) rmx2020) prop :=
  variant_detected succeeds_properties (fun _ => some (chars "114")) rmx2020

end RMX2020.Libinit
