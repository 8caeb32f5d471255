import RMX2020.Lights.Brightness
import RMX2020.Machine.Run
import RMX2020.Machine.Writes

/-!
# The lights service

`setLightState` records the state of a backlight and writes its brightness to the panel; whether the
file took it is logged and not reported. `light_requests`: in every run the reported lights stay the
same, a request is acknowledged exactly if the light is a backlight, and then it is recorded, while
the panel follows if the file could be written; a refused request changes nothing.
-/

namespace RMX2020.Lights

open Machine

structure LightType where
  value : Int8
  deriving DecidableEq

def LightType.BACKLIGHT : LightType := ⟨0⟩

structure HwLight where
  id : Int32
  ordinal : Int32
  type : LightType
  deriving DecidableEq

structure Light where
  hwLight : HwLight
  state : HwLightState
  deriving DecidableEq

inductive ExceptionCode where
  | UNSUPPORTED_OPERATION
  deriving DecidableEq

/-- The panel's files as a call finds them: what the file of the maximum holds, if it can be read,
and whether the file of the brightness can be opened and then written. -/
structure Sysfs where
  maxBrightness : Option String
  opens : Bool
  writes : Bool

/-- Whether the value was written, and what the file then holds. -/
def writeToSysfs (fs : Sysfs) (node value : String) : Bool × String :=
  if fs.opens then
    if fs.writes then (true, value) else (false, node)
  else
    (false, node)

def handleBacklight (fs : Sysfs) (node : String) (state : HwLightState) :
    Except Overflow String := do
  let maxBrightness := readMaxBrightness fs.maxBrightness
  let scaled ← getScaledBrightness state maxBrightness
  -- Both outcomes are only logged.
  let (_, node) := writeToSysfs fs node (toString scaled)
  return node

structure LightsService where
  lights : AList fun _ : Int32 => Light

namespace LightsService

def new (hwLights : List HwLight) : LightsService where
  lights := hwLights.foldl (fun lightsMap hwLight =>
    lightsMap.insert hwLight.id { hwLight := hwLight, state := {} }) ∅

def NUM_DEFAULT_LIGHTS : Nat := 1

/-- The service that `main` registers. -/
def default : LightsService :=
  let idMapping (lightId : Nat) : HwLight :=
    { id := .ofNat lightId, ordinal := .ofNat lightId, type := .BACKLIGHT }
  new ((List.range' 1 NUM_DEFAULT_LIGHTS).map idMapping)

def getLights (s : LightsService) : List HwLight := s.lights.entries.map fun l => l.2.hwLight

/-- `light.state = *state`, for the light that `get_mut` has found. -/
def record (s : LightsService) (id : Int32) (state : HwLightState) : LightsService where
  lights := modify id (fun light => { light with state := state }) s.lights

/-- The reply to the caller, the service, and what the file of the brightness holds. -/
def setLightState (s : LightsService) (fs : Sysfs) (node : String) (id : Int32)
    (state : HwLightState) : Except Overflow (Except ExceptionCode Unit × LightsService × String) :=
  match s.lights.lookup id with
  | some light =>
    -- We only need to support BACKLIGHT
    if light.hwLight.type = .BACKLIGHT then do
      let node ← handleBacklight fs node state
      return (.ok (), s.record id state, node)
    else
      return (.error .UNSUPPORTED_OPERATION, s, node)
  | none => return (.error .UNSUPPORTED_OPERATION, s, node)

end LightsService

/-! ## What a call does -/

/-- The light can be set: it is there, and a backlight. -/
def LightsService.Supports (s : LightsService) (id : Int32) : Prop :=
  ∃ light, s.lights.lookup id = some light ∧ light.hwLight.type = .BACKLIGHT

/-- The file holds the scaled brightness of the state, if it could be written, and else what it held
before. -/
structure Follows (fs : Sysfs) (state : HwLightState) (node node' : String) : Prop where
  written : fs.opens = true → fs.writes = true → ∃ v, getScaledBrightness state
    (readMaxBrightness fs.maxBrightness) = .ok v ∧ node' = toString v
  failed : ¬ (fs.opens = true ∧ fs.writes = true) → node' = node

theorem handleBacklight_follows {fs : Sysfs} {node node' : String} {state : HwLightState}
    (h : handleBacklight fs node state = .ok node') : Follows fs state node node' := by
  cases hv : getScaledBrightness state (readMaxBrightness fs.maxBrightness) with
  | error e =>
    simp only [handleBacklight, hv, bind, Except.bind] at h
    cases h
  | ok v =>
    simp only [handleBacklight, hv, bind, Except.bind] at h
    have hnode : (writeToSysfs fs node (toString v)).2 = node' := Except.ok.inj h
    subst hnode
    unfold writeToSysfs
    refine ⟨fun hopens hwrites => ⟨v, hv, ?_⟩, fun hfailed => ?_⟩
    · rw [if_pos hopens, if_pos hwrites]
    · by_cases hopens : fs.opens = true
      · rw [if_pos hopens, if_neg fun hwrites => hfailed ⟨hopens, hwrites⟩]
      · rw [if_neg hopens]

/-- How a call ends: the light is set and acknowledged, or refused and nothing changes. -/
inductive HowSet (s : LightsService) (fs : Sysfs) (node : String) (id : Int32)
    (state : HwLightState) : Except ExceptionCode Unit → LightsService → String → Prop where
  | acknowledged {node' : String} : s.Supports id → Follows fs state node node' →
      HowSet s fs node id state (.ok ()) (s.record id state) node'
  | refused : ¬ s.Supports id → HowSet s fs node id state (.error .UNSUPPORTED_OPERATION) s node

theorem setLightState_howSet {s s' : LightsService} {fs : Sysfs} {node node' : String} {id : Int32}
    {state : HwLightState} {reply : Except ExceptionCode Unit}
    (h : s.setLightState fs node id state = .ok (reply, s', node')) :
    HowSet s fs node id state reply s' node' := by
  unfold LightsService.setLightState at h
  cases hl : s.lights.lookup id with
  | none =>
    simp only [hl] at h
    cases h
    refine .refused fun hs => ?_
    obtain ⟨light, hlight, -⟩ := hs
    rw [hl] at hlight
    cases hlight
  | some light =>
    simp only [hl] at h
    split at h
    · next htype =>
      cases hnode : handleBacklight fs node state with
      | error e =>
        rw [hnode] at h
        cases h
      | ok node'' =>
        rw [hnode] at h
        cases h
        exact .acknowledged ⟨light, hl, htype⟩ (handleBacklight_follows hnode)
    · next htype =>
      cases h
      refine .refused fun hs => ?_
      obtain ⟨light', hlight', htype'⟩ := hs
      rw [hl] at hlight'
      cases hlight'
      exact htype htype'

/-! ## Runs -/

structure State where
  service : LightsService
  /-- What the file of the brightness holds. -/
  brightness : String

inductive Action where
  | setLightState (fs : Sysfs) (id : Int32) (state : HwLightState)
  | getLights

/-- An overflow ends the run: the service stops with a panic. -/
def step (s : State) : Action → Except (Stop Overflow) State
  | .setLightState fs id state =>
    match s.service.setLightState fs s.brightness id state with
    | .ok (_, service, brightness) => .ok { service := service, brightness := brightness }
    | .error e => .error (.fault e)
  | .getLights => .ok s

/-- Every light is filed under its id. -/
def Keyed (s : LightsService) : Prop := ∀ l ∈ s.lights.entries, l.2.hwLight.id = l.1

namespace LightsService

variable {s : LightsService} {id : Int32} {state : HwLightState}

theorem getLights_record : (s.record id state).getLights = s.getLights := by
  exact map_entries_modify (g := Light.hwLight) fun _ => rfl

theorem lookup_record (id' : Int32) : (s.record id state).lights.lookup id' =
    (s.lights.lookup id').map fun light =>
      if id' = id then { light with state := state } else light := lookup_modify id'

theorem keyed_new (hwLights : List HwLight) : Keyed (new hwLights) := by
  have hfold (table : AList fun _ : Int32 => Light)
      (h : ∀ l ∈ table.entries, l.2.hwLight.id = l.1) :
      ∀ l ∈ (hwLights.foldl (fun lightsMap hwLight => lightsMap.insert hwLight.id
        { hwLight := hwLight, state := {} }) table).entries, l.2.hwLight.id = l.1 := by
    induction hwLights generalizing table with
    | nil => exact h
    | cons hwLight rest ih =>
      exact ih _ (forall_insert (R := fun key (light : Light) => light.hwLight.id = key) rfl h)
  exact hfold ∅ fun l hl => by cases hl

theorem keyed_record (h : Keyed s) : Keyed (s.record id state) :=
  forall_modify (R := fun key (light : Light) => light.hwLight.id = key) (fun _ hv => hv) h

/-- With every light under its id, no id is reported twice. -/
theorem nodup_getLights (h : Keyed s) : (s.getLights.map HwLight.id).Nodup := by
  have hids : s.getLights.map HwLight.id = s.lights.keys := by
    unfold getLights
    rw [List.map_map]
    exact List.map_congr_left h
  rw [hids]
  exact s.lights.keys_nodup

end LightsService

/-- What a run keeps: the lights that are reported, each under its id. -/
structure Reports (lights : List HwLight) (s : State) : Prop where
  getLights : s.service.getLights = lights
  keyed : Keyed s.service

theorem Reports.step {lights : List HwLight} {s s' : State} {a : Action} (hi : Reports lights s)
    (h : Lights.step s a = .ok s') : Reports lights s' := by
  cases a with
  | getLights =>
    cases h
    exact hi
  | setLightState fs id state =>
    cases hset : s.service.setLightState fs s.brightness id state with
    | error e =>
      simp only [Lights.step, hset] at h
      cases h
    | ok result =>
      obtain ⟨reply, service, node⟩ := result
      simp only [Lights.step, hset] at h
      cases h
      cases setLightState_howSet hset with
      | refused _ => exact ⟨hi.getLights, hi.keyed⟩
      | acknowledged _ _ =>
        exact ⟨LightsService.getLights_record.trans hi.getLights,
          LightsService.keyed_record hi.keyed⟩

/-- **What a light request does**, in every run: the reported lights are those the service began
with, each id once and under its own key; a request is acknowledged exactly if the light is a
backlight, and then it is recorded, no other light is, and the file holds the scaled brightness if
it could be written; a refused request changes nothing. -/
theorem light_requests {hwLights : List HwLight} {brightness : String} {acts : List Action}
    {s : State} (hrun : run step ⟨.new hwLights, brightness⟩ acts = .ok s) :
    (s.service.getLights = (LightsService.new hwLights).getLights ∧
      (s.service.getLights.map HwLight.id).Nodup ∧ Keyed s.service) ∧
    ∀ fs id state reply service node,
      s.service.setLightState fs s.brightness id state = .ok (reply, service, node) →
        (reply = .ok () ↔ s.service.Supports id) ∧
        (reply = .ok () → Follows fs state s.brightness node ∧
          (∃ light, service.lights.lookup id = some light ∧ light.state = state) ∧
          ∀ id', id' ≠ id → service.lights.lookup id' = s.service.lights.lookup id') ∧
        (reply ≠ .ok () → reply = .error .UNSUPPORTED_OPERATION ∧ service = s.service ∧
          node = s.brightness) := by
  have hreports : Reports (LightsService.new hwLights).getLights s :=
    run_keeps (fun _ _ _ hi h => hi.step h) hrun ⟨rfl, LightsService.keyed_new hwLights⟩
  refine ⟨⟨hreports.getLights, LightsService.nodup_getLights hreports.keyed, hreports.keyed⟩, ?_⟩
  intro fs id state reply service node hset
  cases setLightState_howSet hset with
  | refused hsupports =>
    refine ⟨⟨fun h => ?_, fun h => absurd h hsupports⟩, fun h => ?_, fun _ => ⟨rfl, rfl, rfl⟩⟩
    · cases h
    · cases h
  | acknowledged hsupports hfollows =>
    refine ⟨⟨fun _ => hsupports, fun _ => rfl⟩, fun _ => ⟨hfollows, ?_, fun id' hne => ?_⟩,
      fun h => absurd rfl h⟩
    · obtain ⟨light, hlight, -⟩ := hsupports
      refine ⟨{ light with state := state }, ?_, rfl⟩
      rw [LightsService.lookup_record, hlight, Option.map_some, if_pos rfl]
    · rw [LightsService.lookup_record]
      simp only [if_neg hne, Option.map_id']

/-- The service begins with a backlight that is off, and has been set once. -/
theorem light_requests_written :
    let lights : List HwLight := [{ id := 1, ordinal := 1, type := .BACKLIGHT }]
    let fs : Sysfs := { maxBrightness := some "2047\n", opens := true, writes := true }
    let white : HwLightState := { color := -1 }
    let s := final step ⟨.new lights, "0"⟩ [.setLightState fs 1 {}, .getLights]
    (s.service.getLights = (LightsService.new lights).getLights ∧
      (s.service.getLights.map HwLight.id).Nodup ∧ Keyed s.service) ∧
    s.service.setLightState fs s.brightness 1 white =
      .ok (.ok (), s.service.record 1 white, "2047") ∧
    s.service.Supports 1 ∧ Follows fs white s.brightness "2047" ∧
    ∃ light, (s.service.record 1 white).lights.lookup 1 = some light ∧ light.state = white := by
  intro lights fs white s
  obtain ⟨hreports, hrequest⟩ := light_requests
    (run_eq_ok_final (by decide +kernel) : run step ⟨.new lights, "0"⟩ _ = .ok s)
  have hnode : handleBacklight fs s.brightness white = .ok "2047" := by decide +kernel
  have hset : s.service.setLightState fs s.brightness 1 white =
      .ok (.ok (), s.service.record 1 white, "2047") := by
    have hlight : s.service.lights.lookup 1 = some ⟨⟨1, 1, .BACKLIGHT⟩, {}⟩ := by decide +kernel
    simp only [LightsService.setLightState, hlight, hnode, if_pos]
    rfl
  obtain ⟨hsupports, hacknowledged, -⟩ := hrequest fs 1 white _ _ _ hset
  obtain ⟨hfollows, hrecorded, -⟩ := hacknowledged rfl
  exact ⟨hreports, hset, hsupports.1 rfl, hfollows, hrecorded⟩

/-- A request whose write the file rejects is acknowledged, and the panel does not follow. -/
theorem acknowledged_unwritten :
    let white : HwLightState := { color := -1 }
    let fs : Sysfs := { maxBrightness := some "2047\n", opens := true, writes := false }
    (LightsService.default.setLightState fs "0" 1 white).map (fun r => (r.1, r.2.2)) =
        .ok (.ok (), "0") ∧
      ∀ v, getScaledBrightness white (readMaxBrightness fs.maxBrightness) = .ok v →
        toString v ≠ "0" := by
  intro white fs
  have hscaled :
      getScaledBrightness white (readMaxBrightness fs.maxBrightness) = .ok 2047 := by
    decide +kernel
  refine ⟨by decide +kernel, fun v hv => ?_⟩
  rw [hscaled] at hv
  cases hv
  decide

end RMX2020.Lights
