import RMX2020.Lights.LightsService
import RMX2020.Machine.Writes

/-!
# The panel as a register

The service over whole runs, without its code: `Fits` says which requests it survives, and
`brightnessWrites` and `stateWrites` what a request leaves in the file of the brightness and in the
table of lights. `run_register`: a run goes through exactly if every request fits, and then the file
and every light hold what was written last.
-/

namespace RMX2020.Lights

open Machine

instance (s : LightsService) (id : Int32) : Decidable (s.Supports id) :=
  decidable_of_iff ((s.lights.lookup id).any fun light => light.hwLight.type = .BACKLIGHT) <| by
    simp [LightsService.Supports, Option.any_eq_true]

/-- The product of a backlight's request fits into 32 bits. -/
def Fits (service : LightsService) : Action → Prop
  | .setLightState fs id state => service.Supports id →
      (brightness state.color - 1) * ((readMaxBrightness fs.maxBrightness).toNat - 19) <
        UInt32.size
  | .getLights => True

/-- What a request writes to the file of the brightness. -/
def brightnessWrites (service : LightsService) : Action → List (Unit × String)
  | .setLightState fs id state =>
    if service.Supports id ∧ fs.opens = true ∧ fs.writes = true then
      [((), toString (scaled (readMaxBrightness fs.maxBrightness).toNat
        (brightness state.color)))]
    else []
  | .getLights => []

/-- What a request writes to the table of lights. -/
def stateWrites (service : LightsService) : Action → List (Int32 × HwLightState)
  | .setLightState _ id state => if service.Supports id then [(id, state)] else []
  | .getLights => []

/-- The state recorded for a light. -/
def LightsService.recorded (s : LightsService) (id : Int32) : Option HwLightState :=
  (s.lights.lookup id).map Light.state

/-! ## One request -/

/-- A value is computed exactly if the product fits. -/
theorem getScaledBrightness_eq_ok_iff {state : HwLightState} {maxBrightness v : UInt32} :
    getScaledBrightness state maxBrightness = .ok v ↔
      (brightness state.color - 1) * (maxBrightness.toNat - 19) < UInt32.size ∧
        v.toNat = scaled maxBrightness.toNat (brightness state.color) := by
  obtain ⟨br, hbr, hval⟩ := getBrightnessFromState_ok state
  rw [getScaledBrightness_eq hbr, ← hval]
  by_cases hzero : br = 0
  · subst hzero
    have hfits : ((0 : UInt32).toNat - 1) * (maxBrightness.toNat - 19) < UInt32.size := by
      rw [UInt32.toNat_zero, Nat.zero_sub, Nat.zero_mul]
      decide
    have hdark : scaled maxBrightness.toNat (0 : UInt32).toNat = 0 := rfl
    rw [scaleBrightness_zero, Except.ok.injEq, hdark, eq_comm, ← UInt32.toNat_inj,
      UInt32.toNat_zero]
    exact ⟨fun h => ⟨hfits, h⟩, fun h => h.2⟩
  · exact scaleBrightness_eq_ok hzero

theorem exists_scaled_iff {state : HwLightState} {maxBrightness : UInt32} :
    (∃ v, getScaledBrightness state maxBrightness = .ok v) ↔
      (brightness state.color - 1) * (maxBrightness.toNat - 19) < UInt32.size := by
  simp only [getScaledBrightness_eq_ok_iff, exists_and_left, and_iff_left_iff_imp]
  intro hfits
  have hbound : scaled maxBrightness.toNat (brightness state.color) < UInt32.size := by
    have hsize : UInt32.size = 4294967296 := rfl
    have hdiv := Nat.div_le_self
      ((brightness state.color - 1) * (maxBrightness.toNat - 19)) 254
    unfold scaled
    split <;> omega
  exact ⟨UInt32.ofNat _, UInt32.toNat_ofNat_of_lt' hbound⟩

/-- The panel is written exactly if the value is computed. -/
theorem exists_handleBacklight_iff {fs : Sysfs} (node : String) {state : HwLightState} :
    (∃ node', handleBacklight fs node state = .ok node') ↔
      (brightness state.color - 1) * ((readMaxBrightness fs.maxBrightness).toNat - 19) <
        UInt32.size := by
  rw [← exists_scaled_iff]
  cases hv : getScaledBrightness state (readMaxBrightness fs.maxBrightness) with
  | error e => simp [handleBacklight, hv, bind, Except.bind]
  | ok v => simp [handleBacklight, hv, bind, Except.bind, pure, Except.pure]

/-- A request leaves the types of the lights alone. -/
theorem supports_record {s : LightsService} {id id' : Int32} {state : HwLightState} :
    (s.record id state).Supports id' ↔ s.Supports id' := by
  unfold LightsService.Supports
  rw [LightsService.lookup_record]
  by_cases hid : id' = id
  · simp [hid]
  · simp [hid]

theorem recorded_record {s : LightsService} {id id' : Int32} {state : HwLightState}
    (h : s.Supports id) : (s.record id state).recorded id' =
      if id' = id then some state else s.recorded id' := by
  obtain ⟨light, hlight, -⟩ := h
  unfold LightsService.recorded
  rw [LightsService.lookup_record]
  by_cases hid : id' = id
  · subst hid
    simp [hlight]
  · simp [hid]

/-- A request goes through exactly if it fits. -/
theorem exists_step_iff (s : State) (a : Action) :
    (∃ s', step s a = .ok s') ↔ Fits s.service a := by
  cases a with
  | getLights => exact iff_of_true ⟨s, rfl⟩ trivial
  | setLightState fs id state =>
    have hset : (∃ s', step s (.setLightState fs id state) = .ok s') ↔
        ∃ r, s.service.setLightState fs s.brightness id state = .ok r := by
      cases hr : s.service.setLightState fs s.brightness id state <;> simp [step, hr]
    rw [hset]
    unfold Fits LightsService.setLightState
    cases hl : s.service.lights.lookup id with
    | none => simp [LightsService.Supports, hl, pure, Except.pure]
    | some light =>
      by_cases htype : light.hwLight.type = .BACKLIGHT
      · simp only [LightsService.Supports, hl, htype, Option.some.injEq, exists_eq_left',
          ↓reduceIte, forall_const]
        rw [← exists_handleBacklight_iff s.brightness]
        cases handleBacklight fs s.brightness state <;> simp [bind, Except.bind, pure, Except.pure]
      · simp [LightsService.Supports, hl, htype, pure, Except.pure]

/-- What a request that goes through leaves. -/
structure Made (s s' : State) (a : Action) : Prop where
  supports : ∀ id, s'.service.Supports id ↔ s.service.Supports id
  brightness : some s'.brightness =
    (lastWrite (brightnessWrites s.service a) ()).or (some s.brightness)
  recorded : ∀ id, s'.service.recorded id =
    (lastWrite (stateWrites s.service a) id).or (s.service.recorded id)

theorem made_of_step {s s' : State} {a : Action} (h : step s a = .ok s') : Made s s' a := by
  cases a with
  | getLights =>
    cases h
    exact ⟨fun _ => Iff.rfl, rfl, fun _ => rfl⟩
  | setLightState fs id state =>
    cases hset : s.service.setLightState fs s.brightness id state with
    | error e =>
      simp only [step, hset] at h
      cases h
    | ok result =>
      obtain ⟨reply, service, node⟩ := result
      simp only [step, hset] at h
      cases h
      cases setLightState_howSet hset with
      | refused hsupports =>
        refine ⟨fun _ => Iff.rfl, ?_, fun _ => ?_⟩
        · simp [brightnessWrites, hsupports]
        · simp [stateWrites, hsupports]
      | acknowledged hsupports hfollows =>
        refine ⟨fun _ => supports_record, ?_, fun id' => ?_⟩
        · by_cases htaken : fs.opens = true ∧ fs.writes = true
          · obtain ⟨v, hv, hnode⟩ := hfollows.written htaken.1 htaken.2
            have hvalue : toString v = toString v.toNat := rfl
            rw [hnode, hvalue, (getScaledBrightness_eq_ok_iff.1 hv).2]
            simp [brightnessWrites, hsupports, htaken]
          · rw [hfollows.failed htaken]
            have hnone : ¬ (s.service.Supports id ∧ fs.opens = true ∧ fs.writes = true) :=
              fun h => htaken h.2
            simp only [brightnessWrites, if_neg hnone, lastWrite_nil, Option.none_or]
        · rw [recorded_record hsupports]
          by_cases hid : id' = id <;> simp [stateWrites, hsupports, hid]

/-! ## Runs -/

/-- The requests read a service that differs from `service` in no light's type. -/
theorem writes_congr {service service' : LightsService}
    (h : ∀ id, service'.Supports id ↔ service.Supports id) (a : Action) :
    (Fits service' a ↔ Fits service a) ∧
      brightnessWrites service' a = brightnessWrites service a ∧
        stateWrites service' a = stateWrites service a := by
  cases a with
  | getLights => exact ⟨Iff.rfl, rfl, rfl⟩
  | setLightState fs id state => simp only [Fits, brightnessWrites, stateWrites, h, and_self]

/-- **The panel is a register**: a run goes through exactly if every request for a backlight fits,
and then the file holds the scaled brightness of the last request whose write was taken, and every
light is recorded with the state last asked of it. -/
theorem run_register (s₀ : State) (acts : List Action) :
    ((∃ s, run step s₀ acts = .ok s) ↔ ∀ a ∈ acts, Fits s₀.service a) ∧
    ∀ s, run step s₀ acts = .ok s →
      some s.brightness =
        (lastWrite (acts.flatMap (brightnessWrites s₀.service)) ()).or (some s₀.brightness) ∧
      ∀ id, s.service.recorded id =
        (lastWrite (acts.flatMap (stateWrites s₀.service)) id).or (s₀.service.recorded id) := by
  let I (s : State) : Prop := ∀ id, s.service.Supports id ↔ s₀.service.Supports id
  have hI (s : State) (a : Action) (s' : State) (hs : I s) (h : step s a = .ok s') : I s' :=
    fun id => ((made_of_step h).supports id).trans (hs id)
  have hfirst : I s₀ := fun _ => Iff.rfl
  refine ⟨exists_run_iff hI (fun s a hs => ?_) hfirst acts, fun s hrun => ⟨?_, fun id => ?_⟩⟩
  · rw [exists_step_iff, (writes_congr hs a).1]
  · refine run_lastWrite (fun s _ => some s.brightness) _ hI ?_ hrun hfirst ()
    intro s a s' hs h key
    rw [← (writes_congr hs a).2.1]
    exact (made_of_step h).brightness
  · refine run_lastWrite (fun s id => s.service.recorded id) _ hI ?_ hrun hfirst id
    intro s a s' hs h id
    rw [← (writes_congr hs a).2.2]
    exact (made_of_step h).recorded id

/-- White is written; then black is asked for, and the file does not take it. -/
theorem run_register_untaken :
    let fs : Sysfs := { maxBrightness := some "2047\n", opens := true, writes := true }
    let s₀ : State := ⟨.default, "0"⟩
    let acts : List Action := [.setLightState fs 1 { color := -1 },
      .setLightState { fs with writes := false } 1 {}]
    let s := final step s₀ acts
    some s.brightness =
        (lastWrite (acts.flatMap (brightnessWrites s₀.service)) ()).or (some s₀.brightness) ∧
      ∀ id, s.service.recorded id =
        (lastWrite (acts.flatMap (stateWrites s₀.service)) id).or (s₀.service.recorded id) :=
  (run_register _ _).2 _ (run_eq_ok_final (by decide +kernel))

end RMX2020.Lights
