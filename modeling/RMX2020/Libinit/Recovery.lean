import RMX2020.Libinit.Properties

/-!
# The properties in recovery

A recovery image overrides two more properties unless the build type is `user`. The build type is
read after the variant has been told apart, which does not change it, so a run makes the same writes
whenever it is made, and recovery is debuggable exactly if its own build is
(`recovery_detected`).
-/

namespace RMX2020.Libinit

open Machine

variable {σ π : Type*} {area : SystemProperties σ π}

/-- What recovery makes of the properties, the variant apart. -/
def recovered (before : String → Option String) (prop : String) : Option String :=
  if before "ro.build.type" = some "user" then before prop
  else if prop = "ro.debuggable" then some "1"
  else if prop = "ro.adb.secure.recovery" then some "0"
  else before prop

/-- The writes of a recovery image, by whether its build type is `user`. -/
def recoveryOverrides (user : Prop) [Decidable user] : List (String × String) :=
  if user then [] else [("ro.debuggable", "1"), ("ro.adb.secure.recovery", "0")]

/-- An unset or empty build type is taken for `userdebug`. -/
theorem GetProperty_eq_user_iff (store : σ) :
    GetProperty area "ro.build.type" "userdebug" store = "user" ↔
      area.value store "ro.build.type" = some "user" := by
  unfold GetProperty
  cases area.value store "ro.build.type" with
  | none => simp
  | some value =>
    by_cases hempty : value = ""
    · subst hempty
      simp
    · simp [hempty]

/-- None of the names is one that tells the variant. -/
theorem recovery_names : ∀ prop ∈ ["ro.build.type", "ro.debuggable", "ro.adb.secure.recovery"],
    prop ≠ "ro.boot.product.hardware.sku" ∧ prop ≠ "persist.vendor.fingerprint.available" ∧
      prop ∉ roProductNames := by
  decide +kernel

theorem value_recovery_names (h : area.Succeeds) (ReadFileToString : String → Option Content)
    (store : σ) {prop : String}
    (hprop : prop ∈ ["ro.build.type", "ro.debuggable", "ro.adb.secure.recovery"]) :
    area.value (initOperatorNameProperties area ReadFileToString store) prop =
      area.value store prop := by
  obtain ⟨hsku, havailable, hproduct⟩ := recovery_names prop hprop
  exact (detects h ReadFileToString store).other prop hsku havailable hproduct

/-- The writes of a run, which the build type before it decides. -/
theorem vendorLoadProperties_eq (h : area.Succeeds)
    (ReadFileToString : String → Option Content) (store : σ) :
    vendorLoadProperties area true ReadFileToString store =
      writeAll (propertyOverride area) (overrides (ReadFileToString operatorNameFile) ++
        recoveryOverrides (area.value store "ro.build.type" = some "user")) store := by
  have hinit : initOperatorNameProperties area ReadFileToString store = _ :=
    initOperatorNameProperties_eq ReadFileToString store
  have huser : GetProperty area "ro.build.type" "userdebug"
      (initOperatorNameProperties area ReadFileToString store) = "user" ↔ _ :=
    GetProperty_eq_user_iff _
  rw [value_recovery_names h ReadFileToString store List.mem_cons_self] at huser
  rw [writeAll_append, ← hinit]
  simp only [vendorLoadProperties, if_pos, ne_eq, huser, recoveryOverrides]
  by_cases hbuild : area.value store "ro.build.type" = some "user"
  · rw [if_neg (not_not_intro hbuild), if_pos hbuild]
    rfl
  · rw [if_pos hbuild, if_neg hbuild]
    rfl

section Recovered

variable {user : Prop} [Decidable user] {before : String → Option String} {prop : String}

theorem lastWrite_recoveryOverrides (hdebuggable : prop ≠ "ro.debuggable")
    (hadb : prop ≠ "ro.adb.secure.recovery") : lastWrite (recoveryOverrides user) prop = none := by
  unfold recoveryOverrides
  split <;> simp [hdebuggable, hadb]

theorem recovered_eq : recovered before prop =
    (lastWrite (recoveryOverrides (before "ro.build.type" = some "user")) prop).or
      (before prop) := by
  unfold recovered recoveryOverrides
  split
  · rfl
  · by_cases hdebuggable : prop = "ro.debuggable"
    · subst hdebuggable
      simp
    · by_cases hadb : prop = "ro.adb.secure.recovery" <;> simp [hdebuggable, hadb]

theorem recovered_of_ne (hdebuggable : prop ≠ "ro.debuggable")
    (hadb : prop ≠ "ro.adb.secure.recovery") : recovered before prop = before prop := by
  rw [recovered_eq, lastWrite_recoveryOverrides hdebuggable hadb, Option.none_or]

/-- The names that tell the variant are none of the two. -/
theorem ne_of_variant (h : prop = "ro.boot.product.hardware.sku" ∨
    prop = "persist.vendor.fingerprint.available" ∨ prop ∈ roProductNames) :
    prop ≠ "ro.debuggable" ∧ prop ≠ "ro.adb.secure.recovery" := by
  have hnot {name : String} (hname : name = "ro.debuggable" ∨ name = "ro.adb.secure.recovery") :
      prop ≠ name := by
    rintro rfl
    obtain ⟨hsku, havailable, hproduct⟩ := recovery_names prop (by simp [hname])
    rcases h with h | h | h
    · exact hsku h
    · exact havailable h
    · exact hproduct h
  exact ⟨hnot (.inl rfl), hnot (.inr rfl)⟩

end Recovered

/-- A property after a run in recovery. -/
theorem value_recovery (h : area.Succeeds) (ReadFileToString : String → Option Content)
    (store : σ) (prop : String) :
    area.value (vendorLoadProperties area true ReadFileToString store) prop =
      (lastWrite (recoveryOverrides (area.value store "ro.build.type" = some "user")) prop).or
        (area.value (initOperatorNameProperties area ReadFileToString store) prop) := by
  rw [vendorLoadProperties_eq h, writeAll_append, h.writing.get_writeAll,
    ← initOperatorNameProperties_eq]

/-- In recovery, the properties tell the variant and whether the build is debuggable, no other
property changes, and a second run changes nothing. -/
theorem recovery_detected (h : area.Succeeds) (ReadFileToString : String → Option Content)
    (store : σ) :
    Detects (ReadFileToString operatorNameFile) (recovered (area.value store))
      (area.value (vendorLoadProperties area true ReadFileToString store)) ∧
    ∀ prop, area.value (vendorLoadProperties area true ReadFileToString
        (vendorLoadProperties area true ReadFileToString store)) prop =
      area.value (vendorLoadProperties area true ReadFileToString store) prop := by
  have hinit := detects h ReadFileToString store
  -- the names that tell the variant are not written again
  have hvariant {prop : String} (hprop : prop = "ro.boot.product.hardware.sku" ∨
      prop = "persist.vendor.fingerprint.available" ∨ prop ∈ roProductNames) :
      area.value (vendorLoadProperties area true ReadFileToString store) prop =
          area.value (initOperatorNameProperties area ReadFileToString store) prop ∧
        recovered (area.value store) prop = area.value store prop := by
    obtain ⟨hdebuggable, hadb⟩ := ne_of_variant hprop
    exact ⟨value_vendorLoadProperties h true ReadFileToString store hdebuggable hadb,
      recovered_of_ne hdebuggable hadb⟩
  refine ⟨⟨fun prop hsku havailable hproduct => ?_, fun prop hprop => ?_, ?_, ?_⟩, fun prop => ?_⟩
  · rw [value_recovery h, recovered_eq, hinit.other prop hsku havailable hproduct]
  · obtain ⟨hafter, hbefore⟩ := hvariant (.inr (.inr hprop))
    rw [hafter, hbefore, hinit.ro_product prop hprop]
  · obtain ⟨hafter, hbefore⟩ := hvariant (.inr (.inl rfl))
    rw [hafter, hbefore]
    generalize ReadFileToString operatorNameFile = content at hinit ⊢
    cases content <;> exact hinit.available
  · obtain ⟨hafter, hbefore⟩ := hvariant (.inl rfl)
    rw [hafter, hbefore, hinit.sku]
  · have htype : area.value (vendorLoadProperties area true ReadFileToString store)
        "ro.build.type" = area.value store "ro.build.type" := by
      rw [value_vendorLoadProperties h true ReadFileToString store (by simp) (by simp),
        value_recovery_names h ReadFileToString store List.mem_cons_self]
    rw [vendorLoadProperties_eq h, htype, vendorLoadProperties_eq h]
    exact h.writing.get_writeAll_again _ store prop

/-- The recovery of a `userdebug` build, on the variant without fingerprint sensor. -/
theorem recovery_detected_userdebug :
    Detects (some (chars "114")) (recovered (properties.value rmx2020))
      (properties.value (vendorLoadProperties properties true
        (fun _ => some (chars "114")) rmx2020)) :=
  (recovery_detected succeeds_properties (fun _ => some (chars "114")) rmx2020).1

end RMX2020.Libinit
