import Mathlib.Data.List.Basic
import RMX2020.Machine.CheckedWord

/-!
# The brightness of the backlight

From a colour to the value written to the panel: `getBrightnessFromState` weighs the channels of
the colour, and `scaleBrightness` maps 1..255 linearly to 19..max. `scaled_in_range_iff` says for
which colours and panels no step overflows and the result stays within `max`;
`brightness_follows_colour` that, on the panels where it does so for every colour, the result is
monotone in the colour and keeps all grey levels apart.
-/

namespace RMX2020.Lights

open Machine

structure HwLightState where
  color : Int32 := 0
  flashMode : Int8 := 0
  flashOnMs : Int32 := 0
  flashOffMs : Int32 := 0
  brightnessMode : Int8 := 0
  deriving DecidableEq

def getBrightnessFromState (state : HwLightState) : Except Overflow UInt32 := do
  -- Extract brightness from AARRGGBB
  let alpha := ((state.color >>> 24) &&& 0xFF).toUInt32
  let red := ((state.color >>> 16) &&& 0xFF).toUInt32
  let green := ((state.color >>> 8) &&& 0xFF).toUInt32
  let blue := (state.color &&& 0xFF).toUInt32
  -- Scale RGB brightness using Alpha brightness.
  let red := (← U32.mul red alpha) / 0xFF
  let green := (← U32.mul green alpha) / 0xFF
  let blue := (← U32.mul blue alpha) / 0xFF
  let sum ← U32.add (← U32.add (← U32.mul 77 red) (← U32.mul 150 green)) (← U32.mul 29 blue)
  return sum >>> 8

def scaleBrightness (br maxBrightness : UInt32) : Except Overflow UInt32 := do
  if br == 0 then
    return 0
  -- (brightness - 1) * (maxBrightness - 19) / (0xFF - 1) + 19
  let scaled ← U32.mul (← U32.sub br 1) (U32.saturatingSub maxBrightness 19)
  U32.add (scaled / (0xFF - 1)) 19

def getScaledBrightness (state : HwLightState) (maxBrightness : UInt32) :
    Except Overflow UInt32 := do
  let br ← getBrightnessFromState state
  scaleBrightness br maxBrightness

/-! ## The maximum of the panel -/

/-- `char::is_whitespace`. -/
def isWhitespace (c : Char) : Bool :=
  let n := c.toNat
  (9 ≤ n && n ≤ 13) || n = 32 || n = 0x85 || n = 0xA0 || n = 0x1680 || (0x2000 ≤ n && n ≤ 0x200A) ||
    n = 0x2028 || n = 0x2029 || n = 0x202F || n = 0x205F || n = 0x3000

/-- `str::trim`. -/
def trim (s : List Char) : List Char :=
  ((s.dropWhile isWhitespace).reverse.dropWhile isWhitespace).reverse

/-- `str::parse::<u32>`: decimal digits, after a plus sign if there is one. -/
def parseU32 (s : List Char) : Option UInt32 :=
  let digits := match s with
    | '+' :: rest => rest
    | _ => s
  if digits = [] ∨ ¬ digits.all Char.isDigit then
    none
  else
    let n := digits.foldl (fun n c => 10 * n + (c.toNat - '0'.toNat)) 0
    if n < UInt32.size then some (UInt32.ofNat n) else none

/-- The file's content is `none` if it cannot be read. -/
def readMaxBrightness (content : Option String) : UInt32 :=
  match content with
  | some s => (parseU32 (trim s.toList)).getD 0
  | none => 0

/-! ## The channels of a colour -/

/-- Byte `k` of a colour: 3 is alpha, 2 red, 1 green and 0 blue. -/
def byte (color : Int32) (k : Nat) : Nat := color.toUInt32.toNat / 2 ^ (8 * k) % 2 ^ 8

theorem byte_le (color : Int32) (k : Nat) : byte color k ≤ 255 := by
  have hlt : byte color k < 2 ^ 8 := Nat.mod_lt _ (by decide)
  omega

theorem toNat_alpha (color : Int32) : ((color >>> 24) &&& 0xFF).toUInt32.toNat = byte color 3 :=
  toNat_sshiftRight_and_byte color.toBitVec (by decide)

theorem toNat_red (color : Int32) : ((color >>> 16) &&& 0xFF).toUInt32.toNat = byte color 2 :=
  toNat_sshiftRight_and_byte color.toBitVec (by decide)

theorem toNat_green (color : Int32) : ((color >>> 8) &&& 0xFF).toUInt32.toNat = byte color 1 :=
  toNat_sshiftRight_and_byte color.toBitVec (by decide)

theorem toNat_blue (color : Int32) : (color &&& 0xFF).toUInt32.toNat = byte color 0 := by
  have hbyte := toNat_sshiftRight_and_byte color.toBitVec (n := 0) (by decide)
  rwa [BitVec.sshiftRight_zero] at hbyte

/-- A channel scaled by alpha. -/
theorem exists_mul_channel {c alpha : UInt32} (hc : c.toNat ≤ 255) (ha : alpha.toNat ≤ 255) :
    ∃ p, U32.mul c alpha = .ok p ∧ (p / 0xFF).toNat = c.toNat * alpha.toNat / 255 ∧
      (p / 0xFF).toNat ≤ 255 := by
  have hle : c.toNat * alpha.toNat ≤ 255 * 255 := Nat.mul_le_mul hc ha
  obtain ⟨p, hp, hval⟩ := U32.exists_mul (Nat.lt_of_le_of_lt hle (by decide))
  have hdiv : (p / 0xFF).toNat = c.toNat * alpha.toNat / 255 := by
    rw [UInt32.toNat_div, hval]
    rfl
  refine ⟨p, hp, hdiv, ?_⟩
  rw [hdiv]
  exact Nat.div_le_of_le_mul hle

theorem exists_mul_weight {w c : UInt32} (hw : w.toNat ≤ 150) (hc : c.toNat ≤ 255) :
    ∃ p, U32.mul w c = .ok p ∧ p.toNat = w.toNat * c.toNat ∧ p.toNat ≤ 38250 := by
  have hle : w.toNat * c.toNat ≤ 150 * 255 := Nat.mul_le_mul hw hc
  obtain ⟨p, hp, hval⟩ := U32.exists_mul (Nat.lt_of_le_of_lt hle (by decide))
  exact ⟨p, hp, hval, hval ▸ hle⟩

/-- The weighted sum of the scaled channels. -/
theorem exists_weigh {red green blue : UInt32} (hr : red.toNat ≤ 255) (hg : green.toNat ≤ 255)
    (hb : blue.toNat ≤ 255) :
    ∃ r g b rg sum, U32.mul 77 red = .ok r ∧ U32.mul 150 green = .ok g ∧ U32.mul 29 blue = .ok b ∧
      U32.add r g = .ok rg ∧ U32.add rg b = .ok sum ∧
        sum.toNat = 77 * red.toNat + 150 * green.toNat + 29 * blue.toNat := by
  have hsize : UInt32.size = 4294967296 := rfl
  obtain ⟨r, hr', hrval, hrle⟩ := exists_mul_weight (w := 77) (by decide) hr
  obtain ⟨g, hg', hgval, hgle⟩ := exists_mul_weight (w := 150) (by decide) hg
  obtain ⟨b, hb', hbval, hble⟩ := exists_mul_weight (w := 29) (by decide) hb
  obtain ⟨rg, hrg, hrgval⟩ := U32.exists_add (a := r) (b := g) (by omega)
  obtain ⟨sum, hsum, hsumval⟩ := U32.exists_add (a := rg) (b := b) (by omega)
  refine ⟨r, g, b, rg, sum, hr', hg', hb', hrg, hsum, ?_⟩
  rw [hsumval, hrgval, hrval, hgval, hbval]
  rfl

/-- A channel of a colour, scaled by alpha. -/
def dimmed (color : Int32) (k : Nat) : Nat := byte color k * byte color 3 / 255

/-- The brightness of a colour, on natural numbers. -/
def brightness (color : Int32) : Nat :=
  (77 * dimmed color 2 + 150 * dimmed color 1 + 29 * dimmed color 0) / 256

/-- The brightness is computed without overflow. -/
theorem getBrightnessFromState_ok (state : HwLightState) :
    ∃ br, getBrightnessFromState state = .ok br ∧ br.toNat = brightness state.color := by
  have hle := byte_le state.color
  have ha := toNat_alpha state.color
  have hr := toNat_red state.color
  have hg := toNat_green state.color
  have hb := toNat_blue state.color
  have hale := ha ▸ hle 3
  obtain ⟨r, hr', hrv, hrle⟩ := exists_mul_channel (hr ▸ hle 2) hale
  obtain ⟨g, hg', hgv, hgle⟩ := exists_mul_channel (hg ▸ hle 1) hale
  obtain ⟨b, hb', hbv, hble⟩ := exists_mul_channel (hb ▸ hle 0) hale
  obtain ⟨r', g', b', rg, sum, hmr, hmg, hmb, hrg, hsum, hsumv⟩ := exists_weigh hrle hgle hble
  refine ⟨sum >>> 8, ?_, ?_⟩
  · simp only [getBrightnessFromState, hr', hg', hb', hmr, hmg, hmb, hrg, hsum, bind,
      Except.bind, pure, Except.pure]
  · have hshift : (sum >>> 8).toNat = sum.toNat / 256 := by
      rw [UInt32.toNat_shiftRight, Nat.shiftRight_eq_div_pow]
      rfl
    rw [hshift, hsumv, hrv, hgv, hbv, ha, hr, hg, hb]
    rfl

/-! ## The written value -/

/-- The scaled brightness, on natural numbers. -/
def scaled (max br : Nat) : Nat := if br = 0 then 0 else (br - 1) * (max - 19) / 254 + 19

section Scale

variable {br maxBrightness v : UInt32}

theorem getScaledBrightness_eq {state : HwLightState}
    (hbr : getBrightnessFromState state = .ok br) :
    getScaledBrightness state maxBrightness = scaleBrightness br maxBrightness := by
  simp only [getScaledBrightness, hbr, bind, Except.bind]

theorem scaleBrightness_zero : scaleBrightness 0 maxBrightness = .ok 0 := rfl

/-- The scaling succeeds exactly if the product does not overflow. -/
theorem scaleBrightness_eq_ok (hbr : br ≠ 0) : scaleBrightness br maxBrightness = .ok v ↔
    (br.toNat - 1) * (maxBrightness.toNat - 19) < UInt32.size ∧
      v.toNat = scaled maxBrightness.toNat br.toNat := by
  have hpos : br.toNat ≠ 0 := fun h => hbr (UInt32.toNat_inj.1 h)
  have hone : (1 : UInt32).toNat ≤ br.toNat := Nat.pos_of_ne_zero hpos
  obtain ⟨d, hd, hdval⟩ : ∃ d, U32.sub br 1 = .ok d ∧ d.toNat = br.toNat - 1 := by
    have hlt : br.toNat - 1 < UInt32.size :=
      Nat.lt_of_le_of_lt (Nat.sub_le _ _) (UInt32.toNat_lt br)
    have hval := UInt32.toNat_ofNat_of_lt' hlt
    exact ⟨UInt32.ofNat (br.toNat - 1), U32.sub_eq_ok.2 ⟨hone, hval⟩, hval⟩
  have hmax : (U32.saturatingSub maxBrightness 19).toNat = maxBrightness.toNat - 19 :=
    U32.toNat_saturatingSub
  have hif : (br == 0) = false := by simpa using hbr
  unfold scaled
  simp only [scaleBrightness, hif, hd, bind, Except.bind, Bool.false_eq_true, ↓reduceIte,
    if_neg hpos]
  by_cases hlt : (br.toNat - 1) * (maxBrightness.toNat - 19) < UInt32.size
  · obtain ⟨p, hp, hpval⟩ := U32.exists_mul (a := d)
      (b := U32.saturatingSub maxBrightness 19) (by rw [hdval, hmax]; exact hlt)
    rw [hdval, hmax] at hpval
    have hdiv : (p / (0xFF - 1)).toNat = p.toNat / 254 := UInt32.toNat_div ..
    have h19 : (19 : UInt32).toNat = 19 := rfl
    simp only [hp, U32.add_eq_ok, hdiv, h19, hpval, hlt, true_and]
  · have hover : U32.mul d (U32.saturatingSub maxBrightness 19) = .error .overflow := by
      unfold U32.mul U32.ofExact
      rw [hdval, hmax, if_neg hlt]
    simp only [hover, hlt, false_and, reduceCtorEq]

end Scale

theorem dimmed_le (color : Int32) (k : Nat) : dimmed color k ≤ 255 :=
  Nat.div_le_of_le_mul (Nat.mul_le_mul (byte_le color k) (byte_le color 3))

theorem brightness_le (color : Int32) : brightness color ≤ 255 := by
  have h0 := dimmed_le color 0
  have h1 := dimmed_le color 1
  have h2 := dimmed_le color 2
  unfold brightness
  omega

/-- On a panel of at least 19, the scaled value of a brightness stays within the panel's. -/
theorem scaled_le {max br : Nat} (hmax : 19 ≤ max) (hbr : br ≤ 255) : scaled max br ≤ max := by
  unfold scaled
  split
  · omega
  · have hdiv : (br - 1) * (max - 19) / 254 ≤ max - 19 :=
      Nat.div_le_of_le_mul (Nat.mul_le_mul_right _ (by omega))
    omega

theorem le_scaled {max br : Nat} (hbr : br ≠ 0) : 19 ≤ scaled max br := by
  unfold scaled
  rw [if_neg hbr]
  omega

/-- **The written value stays in range**, for exactly the colours of brightness 0 and the panels of
at least 19 whose product with the brightness fits into 32 bits. -/
theorem scaled_in_range_iff (state : HwLightState) (maxBrightness : UInt32) :
    (∃ v, getScaledBrightness state maxBrightness = .ok v ∧ v ≤ maxBrightness) ↔
      brightness state.color = 0 ∨ 19 ≤ maxBrightness.toNat ∧
        (brightness state.color - 1) * (maxBrightness.toNat - 19) < 2 ^ 32 := by
  obtain ⟨br, hbr, hval⟩ := getBrightnessFromState_ok state
  have hle := brightness_le state.color
  rw [getScaledBrightness_eq hbr, ← hval] at *
  by_cases hzero : br = 0
  · subst hzero
    simp [scaleBrightness_zero]
  · have hne : br.toNat ≠ 0 := fun h => hzero (UInt32.toNat_inj.1 h)
    simp only [scaleBrightness_eq_ok hzero, hne, false_or]
    constructor
    · rintro ⟨v, ⟨hproduct, hv⟩, hvle⟩
      rw [UInt32.le_iff_toNat_le, hv] at hvle
      exact ⟨Nat.le_trans (le_scaled hne) hvle, hproduct⟩
    · rintro ⟨hmax, hproduct⟩
      have hwithin := scaled_le hmax hle
      have hsize := Nat.lt_of_le_of_lt hwithin (UInt32.toNat_lt maxBrightness)
      have hv := UInt32.toNat_ofNat_of_lt' hsize
      refine ⟨_, ⟨hproduct, hv⟩, ?_⟩
      rw [UInt32.le_iff_toNat_le, hv]
      exact hwithin

/-- White on a panel whose maximum cannot be read is written as 19, and overflows on a panel of 32
bits. -/
theorem brightness_out_of_range :
    let white : HwLightState := { color := -1 }
    (getScaledBrightness white (readMaxBrightness none) = .ok 19 ∧
        ¬ 19 ≤ readMaxBrightness none) ∧
      getScaledBrightness white (readMaxBrightness (some "4294967295\n")) = .error .overflow := by
  refine ⟨⟨by decide +kernel, by decide⟩, by decide +kernel⟩

/-! ## Following the colour -/

theorem brightness_mono {color color' : Int32} (h : ∀ k < 4, byte color k ≤ byte color' k) :
    brightness color ≤ brightness color' := by
  have hdimmed {k : Nat} (hk : k < 4) : dimmed color k ≤ dimmed color' k :=
    Nat.div_le_div_right (Nat.mul_le_mul (h k hk) (h 3 (by decide)))
  have h0 := hdimmed (k := 0) (by decide)
  have h1 := hdimmed (k := 1) (by decide)
  have h2 := hdimmed (k := 2) (by decide)
  unfold brightness
  omega

/-- An opaque grey of level `v`. -/
def OpaqueGrey (v : Nat) (color : Int32) : Prop := byte color 3 = 255 ∧ ∀ k < 3, byte color k = v

theorem OpaqueGrey.brightness {v : Nat} {color : Int32} (h : OpaqueGrey v color) :
    brightness color = v := by
  have hdimmed {k : Nat} (hk : k < 3) : dimmed color k = v := by
    unfold dimmed
    rw [h.1, h.2 k hk, Nat.mul_div_cancel v (by decide)]
  unfold Lights.brightness
  rw [hdimmed (k := 0) (by decide), hdimmed (k := 1) (by decide), hdimmed (k := 2) (by decide)]
  omega

theorem scaled_mono {max br br' : Nat} (h : br ≤ br') : scaled max br ≤ scaled max br' := by
  by_cases hzero : br = 0
  · rw [hzero]
    exact Nat.zero_le _
  · have hzero' : br' ≠ 0 := by omega
    have hdiv : (br - 1) * (max - 19) / 254 ≤ (br' - 1) * (max - 19) / 254 :=
      Nat.div_le_div_right (Nat.mul_le_mul_right _ (by omega))
    unfold scaled
    rw [if_neg hzero, if_neg hzero']
    exact Nat.add_le_add_right hdiv 19

/-- On a panel with a value to spare for each level, different levels stay apart. -/
theorem scaled_strictMono {max br br' : Nat} (hmax : 254 ≤ max - 19) (h : br < br') :
    scaled max br < scaled max br' := by
  have hzero' : br' ≠ 0 := by omega
  by_cases hzero : br = 0
  · have hdark : scaled max 0 = 0 := rfl
    rw [hzero, hdark]
    exact Nat.lt_of_lt_of_le (by decide) (le_scaled hzero')
  · have hstep : (br - 1) * (max - 19) + 254 ≤ (br' - 1) * (max - 19) :=
      calc (br - 1) * (max - 19) + 254 ≤ (br - 1) * (max - 19) + (max - 19) :=
            Nat.add_le_add_left hmax _
        _ = (br - 1 + 1) * (max - 19) := (Nat.succ_mul _ _).symm
        _ ≤ (br' - 1) * (max - 19) := Nat.mul_le_mul_right _ (by omega)
    unfold scaled
    rw [if_neg hzero, if_neg hzero']
    omega

theorem scaled_eq_zero {max br : Nat} : scaled max br = 0 ↔ br = 0 := by
  unfold scaled
  split <;> omega

theorem scaled_white {max : Nat} (hmax : 19 ≤ max) : scaled max 255 = max := by
  unfold scaled
  rw [if_neg (by decide), Nat.mul_div_cancel_left _ (by decide)]
  exact Nat.sub_add_cancel hmax

/-- On a panel whose products all fit, the scaling succeeds. -/
theorem getScaledBrightness_ok {maxBrightness : UInt32}
    (hproduct : 254 * (maxBrightness.toNat - 19) < UInt32.size) (state : HwLightState) :
    ∃ v, getScaledBrightness state maxBrightness = .ok v ∧
      v.toNat = scaled maxBrightness.toNat (brightness state.color) := by
  obtain ⟨br, hbr, hval⟩ := getBrightnessFromState_ok state
  have hle := brightness_le state.color
  have hfits : (br.toNat - 1) * (maxBrightness.toNat - 19) < UInt32.size :=
    Nat.lt_of_le_of_lt (Nat.mul_le_mul_right _ (by omega)) hproduct
  rw [getScaledBrightness_eq hbr, ← hval]
  by_cases hzero : br = 0
  · subst hzero
    exact ⟨0, scaleBrightness_zero, rfl⟩
  · have hexact : scaled maxBrightness.toNat br.toNat < UInt32.size := by
      have hdiv := Nat.div_le_self ((br.toNat - 1) * (maxBrightness.toNat - 19)) 254
      have hsize : UInt32.size = 4294967296 := rfl
      unfold scaled
      split <;> omega
    have hv := UInt32.toNat_ofNat_of_lt' hexact
    exact ⟨_, (scaleBrightness_eq_ok hzero).2 ⟨hfits, hv⟩, hv⟩

/-- **The written value follows the colour**, on every panel of at least 19 whose products fit: it
is monotone in each byte, 0 exactly for brightness 0 and within 19..max otherwise; white gives the
maximum, a grey its level; and with a value to spare for each level no two greys give the same. -/
theorem brightness_follows_colour {maxBrightness : UInt32} (hmin : 19 ≤ maxBrightness)
    (hproduct : 254 * (maxBrightness.toNat - 19) < UInt32.size) :
    (∀ s s' : HwLightState, (∀ k < 4, byte s.color k ≤ byte s'.color k) →
      ∃ v v', getScaledBrightness s maxBrightness = .ok v ∧
        getScaledBrightness s' maxBrightness = .ok v' ∧ v ≤ v') ∧
    (∀ s : HwLightState, ∃ br v, getBrightnessFromState s = .ok br ∧
      getScaledBrightness s maxBrightness = .ok v ∧ (v = 0 ↔ br = 0) ∧
        (v ≠ 0 → 19 ≤ v ∧ v ≤ maxBrightness)) ∧
    (∀ s : HwLightState, OpaqueGrey 255 s.color →
      getScaledBrightness s maxBrightness = .ok maxBrightness) ∧
    (∀ (s : HwLightState) (level : Nat), OpaqueGrey level s.color →
      ∃ br, getBrightnessFromState s = .ok br ∧ br.toNat = level) ∧
    (254 ≤ maxBrightness.toNat - 19 → ∀ (s s' : HwLightState) (level level' : Nat),
      OpaqueGrey level s.color → OpaqueGrey level' s'.color → level ≠ level' →
        ∃ v v', getScaledBrightness s maxBrightness = .ok v ∧
          getScaledBrightness s' maxBrightness = .ok v' ∧ v ≠ v') := by
  have hmin' : 19 ≤ maxBrightness.toNat := UInt32.le_iff_toNat_le.1 hmin
  refine ⟨fun s s' hle => ?_, fun s => ?_, fun s hwhite => ?_, fun s level hgrey => ?_,
    fun hspare s s' level level' hgrey hgrey' hne => ?_⟩
  · obtain ⟨v, hv, hval⟩ := getScaledBrightness_ok hproduct s
    obtain ⟨v', hv', hval'⟩ := getScaledBrightness_ok hproduct s'
    refine ⟨v, v', hv, hv', ?_⟩
    rw [UInt32.le_iff_toNat_le, hval, hval']
    exact scaled_mono (brightness_mono hle)
  · obtain ⟨br, hbr, hbrval⟩ := getBrightnessFromState_ok s
    obtain ⟨v, hv, hval⟩ := getScaledBrightness_ok hproduct s
    rw [← hbrval] at hval
    refine ⟨br, v, hbr, hv, ?_, fun hne => ⟨?_, ?_⟩⟩
    · rw [← UInt32.toNat_inj, ← UInt32.toNat_inj, hval]
      exact scaled_eq_zero
    · have hne' : br.toNat ≠ 0 := fun h =>
        hne (UInt32.toNat_inj.1 (hval.trans (scaled_eq_zero.2 h)))
      rw [UInt32.le_iff_toNat_le, hval]
      exact le_scaled hne'
    · rw [UInt32.le_iff_toNat_le, hval]
      exact scaled_le hmin' (hbrval ▸ brightness_le s.color)
  · obtain ⟨v, hv, hval⟩ := getScaledBrightness_ok hproduct s
    rw [hwhite.brightness, scaled_white hmin'] at hval
    rw [hv, UInt32.toNat_inj.1 hval]
  · obtain ⟨br, hbr, hval⟩ := getBrightnessFromState_ok s
    exact ⟨br, hbr, hval.trans hgrey.brightness⟩
  · obtain ⟨v, hv, hval⟩ := getScaledBrightness_ok hproduct s
    obtain ⟨v', hv', hval'⟩ := getScaledBrightness_ok hproduct s'
    rw [hgrey.brightness] at hval
    rw [hgrey'.brightness] at hval'
    refine ⟨v, v', hv, hv', fun heq => ?_⟩
    rw [heq, hval'] at hval
    rcases Nat.lt_or_gt_of_ne hne with hlt | hlt
    · exact absurd hval (Nat.ne_of_gt (scaled_strictMono hspare hlt))
    · exact absurd hval (Nat.ne_of_lt (scaled_strictMono hspare hlt))

theorem brightness_follows_colour_2047 :
    let grey (level : Int32) : HwLightState := { color := -0x1000000 + 0x10101 * level }
    ∃ v v', getScaledBrightness (grey 100) 2047 = .ok v ∧
      getScaledBrightness (grey 101) 2047 = .ok v' ∧ v ≠ v' :=
  (@brightness_follows_colour 2047 (by decide) (by decide)).2.2.2.2 (by decide) _ _ 100 101
    ⟨by decide, by decide⟩ ⟨by decide, by decide⟩ (by decide)

end RMX2020.Lights
