/-
# Dstx.Driver.Magnitude — `x * x + y * y` in the stick functions of `axes.c`, down to the 32-bit integer.

`apply_sensitivity_core` and `apply_deadzone` both begin with the squared length of the pair, in `int32_t`.
Here the two functions are written out operation by operation: integers checked, floats rounded.  The sum
overflows for ONE pair of 16-bit values, both at -32768, and the question is who can produce it.

* A DS4 or DualSense report with both bytes of a stick 0 does, and a Switch controller over USB with both
  raw values at the lower end; over Bluetooth the X correction moves away from that end.
* The curve does not: `curveStick_corner` bounds the length of what it returns through all its roundings, so
  that the second function never overflows where the first one did not.
-/
import Dstx.Driver.Nsw
import Dstx.Lib.CArith

namespace Dstx

open Dstx.Lib

/-! ## The functions -/

section

variable (F : SinglePrecision) (powf : ℚ → ℚ → ℚ)

/-- The exponents of `g_presets`. -/
def presetExponent (preset : UInt8) : ℚ :=
  [1, 65 / 100, 180 / 100, 75 / 100, 250 / 100, 50 / 100, 1, 150 / 100].getD preset.toNat 1

/-- An entry of `g_preset_luts`, as `init_axis_system` fills it. -/
def lutEntry (preset : UInt8) (i : Nat) : ℚ :=
  let raw := powf (F.rnd (i / 256)) (F.rnd (presetExponent preset))
  let output := if raw > 1 then 1 else raw
  let normalized := F.rnd (output * 65535)
  if normalized < 0 then 0 else if normalized > 65535 then 65535 else normalized

/-- `*x = clamp((int32_t)((float)*x * scale))`. -/
def scaleAxis (scale : ℚ) (v : Int) : Int := clampAxis (truncate (F.rnd (F.rnd v * scale)))

/-- The length on the curve, `curved_norm_mag`: between two entries of the table. -/
def curvedNormMag (preset : UInt8) (mag : ℚ) : ℚ :=
  let t := F.rnd (F.rnd (mag / 32768) * 256)
  let idx := truncate t
  let frac := F.rnd (t - F.rnd idx)
  if idx ≥ 256 then 1
  else
    let low := lutEntry F powf preset idx.toNat
    let high := lutEntry F powf preset (idx.toNat + 1)
    F.rnd (F.rnd (low + F.rnd (frac * F.rnd (high - low))) / 65535)

/-- `apply_sensitivity_core` from `sqrtf` on. -/
def curveStick (preset : UInt8) (x y magSq : Int) : Int × Int :=
  let mag := F.sqrtf (F.rnd magSq)
  if mag ≥ 32768 then (x, y)
  else
    let scale := F.rnd (F.rnd (curvedNormMag F powf preset mag * 32768) / mag)
    (scaleAxis F scale x, scaleAxis F scale y)

/-- **`apply_sensitivity_core`** — `none` where the 32-bit sum overflows. -/
def applySensitivityCore (preset : UInt8) (xy : Int × Int) : Option (Int × Int) :=
  (sumSquares32 xy.1 xy.2).map fun magSq =>
    if magSq = 0 then xy
    else
      curveStick F powf (if preset.toNat ≥ sensPresetCount then sensPresetDefault else preset) xy.1 xy.2
        magSq

/-- `apply_deadzone` from `sqrtf` on. -/
def rescaleStick (deadzone : UInt8) (x y magSq : Int) : Int × Int :=
  let mag := F.sqrtf (F.rnd magSq)
  let threshold := F.rnd (F.rnd (deadzone.toNat / 100) * 32768)
  if mag ≤ threshold then (0, 0)
  else
    let length := if mag > 32768 then 32768 else mag
    let span := F.rnd (32768 - threshold)
    let newMag := F.rnd (threshold + F.rnd (F.rnd (F.rnd (length - threshold) * span) / span))
    let scale := F.rnd (newMag / length)
    (scaleAxis F scale x, scaleAxis F scale y)

/-- **`apply_deadzone`** — `none` where the 32-bit sum overflows. -/
def applyDeadzoneCore (deadzone : UInt8) (xy : Int × Int) : Option (Int × Int) :=
  if deadzone = 0 then some xy
  else if deadzone ≥ 100 then some (0, 0)
  else (sumSquares32 xy.1 xy.2).map fun magSq => rescaleStick F deadzone xy.1 xy.2 magSq

/-- The settings of one stick. -/
structure StickSettings where
  preset : UInt8
  inverted : Bool
  deadzone : UInt8

/-- The inversion between the two functions. -/
def orient (inverted : Bool) (xy : Int × Int) : Int × Int :=
  if inverted then (xy.1, invertAxis xy.2) else xy

/-- **What the drivers do with a stick**, `none` when a 32-bit sum overflows. -/
def stickStages (s : StickSettings) (xy : Int × Int) : Option (Int × Int) :=
  (applySensitivityCore F powf s.preset xy).bind fun curved =>
    applyDeadzoneCore F (if s.deadzone > 100 then 0 else s.deadzone) (orient s.inverted curved)

end

/-! ## Where the pairs come from -/

/-- The two sticks. -/
inductive StickSide where
  | left
  | right

/-- `NSW_BT_OFFSET_*`: added to X, subtracted from Y. -/
def StickSide.bluetoothOffset : StickSide → Int × Int
  | .left => (2545, 2978)
  | .right => (2438, 2873)

/-- A stick reading: the two bytes of a DS4 or DualSense report, or the two raw values of a Switch
controller. -/
inductive StickReading where
  | report (x y : UInt8)
  | switchPro (side : StickSide) (isBluetooth : Bool) (x y : Int16)

/-- **The pair a driver hands to `apply_sensitivity_*`**. -/
def StickReading.pair : StickReading → Int × Int
  | .report x y => (safeNormalize x, safeNormalize y)
  | .switchPro side isBluetooth x y =>
      if isBluetooth then
        (clampAxis (x.toInt + side.bluetoothOffset.1), clampAxis (y.toInt - side.bluetoothOffset.2))
      else (x.toInt, y.toInt)

/-- **The readings at the corner**: both stick bytes 0, or both raw values of a Switch controller on USB at
-32768. -/
def StickReading.AtCorner : StickReading → Prop
  | .report x y => x = 0 ∧ y = 0
  | .switchPro _ isBluetooth x y => isBluetooth = false ∧ x = -32768 ∧ y = -32768

theorem clampAxis_int16 (v : Int) : Int16Range (clampAxis v) := by
  unfold clampAxis Int16Range
  omega

theorem safeNormalize_int16 (v : UInt8) : Int16Range (safeNormalize v) := by
  have hlt : v.toNat < 256 := v.toNat_lt
  have hne : ∀ {b : UInt8}, v ≠ b → v.toNat ≠ b.toNat := fun h h' => h (UInt8.toNat_inj.mp h')
  unfold safeNormalize Int16Range
  split_ifs with h128 h0 h255 hlow
  · omega
  · omega
  · omega
  · rw [UInt8.lt_iff_toNat_lt] at hlow
    have h128' : (128 : UInt8).toNat = 128 := rfl
    omega
  · have h255' : v.toNat ≠ 255 := hne h255
    rw [UInt8.lt_iff_toNat_lt] at hlow
    have h128' : (128 : UInt8).toNat = 128 := rfl
    omega

theorem safeNormalize_eq_low_iff {v : UInt8} : safeNormalize v = -32768 ↔ v = 0 := by
  constructor
  · intro h
    unfold safeNormalize at h
    -- the lower half reaches the end at 0, the upper half would have to be below 128
    split_ifs at h with h128 h0 h255 hlow
    · exact h0
    · have hv : v.toNat = 0 := by omega
      exact UInt8.toNat_inj.mp hv
    · rw [UInt8.lt_iff_toNat_lt] at hlow
      have h128' : (128 : UInt8).toNat = 128 := rfl
      omega
  · rintro rfl
    rfl

/-- Every pair is one of 16-bit values. -/
theorem StickReading.pair_int16 (r : StickReading) : Int16Range r.pair.1 ∧ Int16Range r.pair.2 := by
  cases r with
  | report x y => exact ⟨safeNormalize_int16 x, safeNormalize_int16 y⟩
  | switchPro side isBluetooth x y =>
      have hx := x.toInt_lt
      have hx' := x.le_toInt
      have hy := y.toInt_lt
      have hy' := y.le_toInt
      cases isBluetooth with
      | false =>
          show Int16Range x.toInt ∧ Int16Range y.toInt
          unfold Int16Range
          omega
      | true => exact ⟨clampAxis_int16 _, clampAxis_int16 _⟩

/-- **Who is at the corner**: the pair is the two lowest values exactly for the readings named. -/
theorem StickReading.pair_eq_corner_iff (r : StickReading) :
    (r.pair.1 = -32768 ∧ r.pair.2 = -32768) ↔ r.AtCorner := by
  cases r with
  | report x y =>
      show safeNormalize x = -32768 ∧ safeNormalize y = -32768 ↔ x = 0 ∧ y = 0
      rw [safeNormalize_eq_low_iff, safeNormalize_eq_low_iff]
  | switchPro side isBluetooth x y =>
      have hlow : ∀ v : Int16, v.toInt = -32768 ↔ v = -32768 := by
        intro v
        exact Int16.toInt_inj (y := -32768)
      cases isBluetooth with
      | false =>
          show x.toInt = -32768 ∧ y.toInt = -32768 ↔ false = false ∧ x = -32768 ∧ y = -32768
          rw [hlow, hlow]
          simp
      | true =>
          -- the X correction adds, so that X stays off the lower end
          have hx := x.le_toInt
          have hoffset : 0 < side.bluetoothOffset.1 := by
            cases side <;> decide
          show clampAxis (x.toInt + side.bluetoothOffset.1) = -32768 ∧ _ ↔ true = false ∧ _
          unfold clampAxis
          constructor
          · rintro ⟨h, -⟩
            omega
          · rintro ⟨h, -⟩
            cases h

/-! ## The curve keeps off the corner -/

section Curve

variable (F : SinglePrecision) (powf : ℚ → ℚ → ℚ)

/-- The entries of the table are clamped. -/
theorem lutEntry_mem (preset : UInt8) (i : Nat) :
    0 ≤ lutEntry F powf preset i ∧ lutEntry F powf preset i ≤ 65535 := by
  unfold lutEntry
  dsimp only
  split_ifs <;> constructor <;> linarith

/-- **Between two entries**: an interpolation with rounded operations stays close to the range of the
table. -/
theorem interpolation_abs_le {low high frac : ℚ} (hlow : 0 ≤ low ∧ low ≤ 65535)
    (hhigh : 0 ≤ high ∧ high ≤ 65535) (hfrac : 0 ≤ frac ∧ frac ≤ 1 + 2 / 1000000) :
    |low + F.rnd (frac * F.rnd (high - low))| ≤ 65537 := by
  have hdiff : |high - low| ≤ 65535 := abs_le.mpr ⟨by linarith, by linarith⟩
  have hslope := F.abs_rnd_le hdiff
  have hslopeError := abs_le.mp (F.rnd_error (high - low))
  have hprod : |frac * F.rnd (high - low)| ≤ 65537 := by
    rw [abs_mul, abs_of_nonneg hfrac.1]
    nlinarith [abs_nonneg (F.rnd (high - low))]
  have hstepError := abs_le.mp (F.rnd_error (frac * F.rnd (high - low)))
  -- the exact interpolation lies between the entries, but for the excess of `frac` over 1
  have hupper : low + frac * (high - low) ≤ 65536 := by nlinarith
  have hlower : -1 / 2 ≤ low + frac * (high - low) := by nlinarith
  have herr : |frac * (F.rnd (high - low) - (high - low))| ≤ 1 / 4 := by
    rw [abs_mul, abs_of_nonneg hfrac.1]
    have h := F.rnd_error (high - low)
    nlinarith [abs_nonneg (F.rnd (high - low) - (high - low))]
  have herr' := abs_le.mp herr
  have hsplit : frac * F.rnd (high - low) =
      frac * (high - low) + frac * (F.rnd (high - low) - (high - low)) := by ring
  rw [abs_le]
  constructor <;> linarith

theorem curvedNormMag_abs_le (preset : UInt8) {mag : ℚ} (hmag : 0 ≤ mag) :
    |curvedNormMag F powf preset mag| ≤ 1 + 1 / 1000 := by
  unfold curvedNormMag
  dsimp only
  set t := F.rnd (F.rnd (mag / 32768) * 256) with ht
  have ht0 : 0 ≤ t := by
    refine F.rnd_nonneg _ (mul_nonneg (F.rnd_nonneg _ ?_) (by norm_num))
    positivity
  have htrunc : truncate t = ⌊t⌋ := if_pos ht0
  rw [htrunc]
  split_ifs with hidx
  · rw [abs_one]
    norm_num
  · have hfloor0 : 0 ≤ ⌊t⌋ := Int.floor_nonneg.mpr ht0
    have hexact : F.rnd (⌊t⌋ : ℚ) = ⌊t⌋ := by
      refine F.rnd_int _ ?_
      rw [abs_of_nonneg hfloor0]
      omega
    have hpart : 0 ≤ t - ⌊t⌋ ∧ t - ⌊t⌋ < 1 :=
      ⟨sub_nonneg.mpr (Int.floor_le t), by linarith [Int.lt_floor_add_one t]⟩
    rw [hexact]
    have hfrac : 0 ≤ F.rnd (t - ⌊t⌋) ∧ F.rnd (t - ⌊t⌋) ≤ 1 + 2 / 1000000 := by
      refine ⟨F.rnd_nonneg _ hpart.1, ?_⟩
      have h := F.abs_rnd_le (M := 1) (abs_le.mpr ⟨by linarith, hpart.2.le⟩)
      have h' := (abs_le.mp h).2
      linarith
    have hinterp := interpolation_abs_le F (lutEntry_mem F powf preset ⌊t⌋.toNat)
      (lutEntry_mem F powf preset (⌊t⌋.toNat + 1)) hfrac
    have hrounded := F.abs_rnd_le hinterp
    have hquot : |F.rnd (lutEntry F powf preset ⌊t⌋.toNat + F.rnd (F.rnd (t - ⌊t⌋) *
        F.rnd (lutEntry F powf preset (⌊t⌋.toNat + 1) - lutEntry F powf preset ⌊t⌋.toNat))) / 65535| ≤
        1 + 1 / 10000 := by
      rw [abs_div, abs_of_pos (by norm_num : (0 : ℚ) < 65535), div_le_iff₀ (by norm_num)]
      linarith
    have h := F.abs_rnd_le hquot
    linarith

/-- The scale takes a stick at `mag` to a length that is at most a little above 32768. -/
theorem scale_mul_mag_le (preset : UInt8) {mag : ℚ} (hpos : 0 < mag) (hlt : mag < 32768) :
    |F.rnd (F.rnd (curvedNormMag F powf preset mag * 32768) / mag)| * mag ≤ 33000 := by
  have hcurved := curvedNormMag_abs_le F powf preset hpos.le
  have hnew : |F.rnd (curvedNormMag F powf preset mag * 32768)| ≤ 32810 := by
    have hprod : |curvedNormMag F powf preset mag * 32768| ≤ 32801 := by
      rw [abs_mul, abs_of_pos (by norm_num : (0 : ℚ) < 32768)]
      linarith
    have h := F.abs_rnd_le hprod
    linarith
  have hquot : |F.rnd (curvedNormMag F powf preset mag * 32768) / mag| ≤ 32810 / mag := by
    rw [abs_div, abs_of_pos hpos]
    exact div_le_div_of_nonneg_right hnew hpos.le
  have hscale := F.abs_rnd_le hquot
  have hcancel : (32810 / mag + 32810 / mag / 1000000 + 1 / 1000000) * mag =
      32810 + 32810 / 1000000 + mag / 1000000 := by
    field_simp
  have hmul := mul_le_mul_of_nonneg_right hscale hpos.le
  rw [hcancel] at hmul
  linarith

/-- An axis at the lower end was scaled to at least 32767. -/
theorem abs_ge_of_scaleAxis {scale : ℚ} {v : Int} (hv : Int16Range v) (h : scaleAxis F scale v = -32768) :
    32767 ≤ |(v : ℚ) * scale| := by
  have hexact : F.rnd (v : ℚ) = v := by
    refine F.rnd_int v ?_
    obtain ⟨hlo, hhi⟩ := hv
    rw [abs_le]
    omega
  unfold scaleAxis clampAxis at h
  rw [hexact] at h
  have htrunc : truncate (F.rnd (v * scale)) ≤ -32768 := by omega
  have hlow := le_of_truncate_le (by omega) htrunc
  push_cast at hlow
  by_contra hlt
  have hbound := (abs_le.mp (F.abs_rnd_le (not_le.mp hlt).le)).1
  linarith

/-- **The curve never reaches the corner**: only a pair that was there comes out there. -/
theorem curveStick_corner {preset : UInt8} {x y : Int} (hx : Int16Range x) (hy : Int16Range y)
    (hne : x * x + y * y ≠ 0)
    (h : curveStick F powf preset x y (x * x + y * y) = (-32768, -32768)) : x = -32768 ∧ y = -32768 := by
  unfold curveStick at h
  dsimp only at h
  set magSq : Int := x * x + y * y with hmagSq
  set mag := F.sqrtf (F.rnd magSq) with hmag
  have hone : (1 : ℚ) ≤ magSq := by
    have : 1 ≤ magSq := by
      have hxx := mul_self_nonneg x
      have hyy := mul_self_nonneg y
      omega
    exact_mod_cast this
  have hrounded : (magSq : ℚ) - 2 * magSq / 1000000 ≤ F.rnd magSq := by
    have herror := (abs_le.mp (F.rnd_error magSq)).1
    rw [abs_of_pos (by linarith)] at herror
    linarith
  have hrounded0 : 0 ≤ F.rnd (magSq : ℚ) := F.rnd_nonneg _ (by linarith)
  have hsq : (magSq : ℚ) * (999 / 1000) ≤ mag ^ 2 := by
    have h := F.sqrtf_sq_ge hrounded0
    linarith
  have hpos : 0 < mag := by
    have h0 : 0 ≤ mag := F.sqrtf_nonneg _ hrounded0
    rcases h0.lt_or_eq with hlt | heq
    · exact hlt
    · rw [← heq] at hsq
      norm_num at hsq
      linarith
  split_ifs at h with hlimit
  · -- at the limit the pair is left alone
    exact ⟨(Prod.mk.inj h).1, (Prod.mk.inj h).2⟩
  · exfalso
    have hlength := scale_mul_mag_le F powf preset hpos (not_le.mp hlimit)
    set scale := F.rnd (F.rnd (curvedNormMag F powf preset mag * 32768) / mag)
    obtain ⟨hxlow, hylow⟩ := Prod.mk.inj h
    have hxs : (32767 : ℚ) ^ 2 ≤ ((x : ℚ) * scale) ^ 2 := by
      rw [← sq_abs ((x : ℚ) * scale)]
      exact pow_le_pow_left₀ (by norm_num) (abs_ge_of_scaleAxis F hx hxlow) 2
    have hys : (32767 : ℚ) ^ 2 ≤ ((y : ℚ) * scale) ^ 2 := by
      rw [← sq_abs ((y : ℚ) * scale)]
      exact pow_le_pow_left₀ (by norm_num) (abs_ge_of_scaleAxis F hy hylow) 2
    -- both axes at the end would make a length of more than 46000
    have hsum : ((x : ℚ) * scale) ^ 2 + ((y : ℚ) * scale) ^ 2 = magSq * scale ^ 2 := by
      rw [hmagSq]
      push_cast
      ring
    have hlength' : (|scale| * mag) ^ 2 ≤ 33000 ^ 2 :=
      pow_le_pow_left₀ (mul_nonneg (abs_nonneg _) hpos.le) hlength 2
    have hexpand : (|scale| * mag) ^ 2 = scale ^ 2 * mag ^ 2 := by
      rw [mul_pow, sq_abs]
    have hcompare : scale ^ 2 * ((magSq : ℚ) * (999 / 1000)) ≤ scale ^ 2 * mag ^ 2 :=
      mul_le_mul_of_nonneg_left hsq (sq_nonneg scale)
    nlinarith

end Curve

/-! ## The two sums -/

section

variable (F : SinglePrecision) (powf : ℚ → ℚ → ℚ)

/-- **Both sums are exact** on the pair a driver starts from: that of `apply_sensitivity_core`, and that of
`apply_deadzone` on the pair the stages before leave. -/
def MagnitudesExact (s : StickSettings) (xy : Int × Int) : Prop :=
  sumSquares32 xy.1 xy.2 = some (xy.1 * xy.1 + xy.2 * xy.2) ∧
    ∀ curved, applySensitivityCore F powf s.preset xy = some curved →
      sumSquares32 (orient s.inverted curved).1 (orient s.inverted curved).2 =
        some ((orient s.inverted curved).1 * (orient s.inverted curved).1 +
          (orient s.inverted curved).2 * (orient s.inverted curved).2)

theorem curveStick_int16 {preset : UInt8} {x y m : Int} (hx : Int16Range x) (hy : Int16Range y) :
    Int16Range (curveStick F powf preset x y m).1 ∧ Int16Range (curveStick F powf preset x y m).2 := by
  unfold curveStick
  dsimp only
  split_ifs
  · exact ⟨hx, hy⟩
  · exact ⟨clampAxis_int16 _, clampAxis_int16 _⟩

theorem invertAxis_int16 {v : Int} (h : Int16Range v) :
    Int16Range (invertAxis v) ∧ invertAxis v ≠ -32768 := by
  unfold invertAxis
  unfold Int16Range at h ⊢
  split_ifs <;> omega

/-- Inversion keeps a pair within its type, and off the corner. -/
theorem orient_spec (inverted : Bool) {xy : Int × Int} (h : Int16Range xy.1 ∧ Int16Range xy.2) :
    (Int16Range (orient inverted xy).1 ∧ Int16Range (orient inverted xy).2) ∧
      ((orient inverted xy).1 = -32768 ∧ (orient inverted xy).2 = -32768 →
        xy.1 = -32768 ∧ xy.2 = -32768) := by
  cases inverted with
  | false => exact ⟨h, fun hcorner => hcorner⟩
  | true =>
      obtain ⟨hrange, hne⟩ := invertAxis_int16 h.2
      exact ⟨⟨h.1, hrange⟩, fun hcorner => absurd hcorner.2 hne⟩

/-- The first function's result is within the type, and off the corner when its argument is. -/
theorem applySensitivityCore_spec {preset : UInt8} {xy curved : Int × Int}
    (h : Int16Range xy.1 ∧ Int16Range xy.2)
    (hcurved : applySensitivityCore F powf preset xy = some curved) :
    (Int16Range curved.1 ∧ Int16Range curved.2) ∧
      (curved.1 = -32768 ∧ curved.2 = -32768 → xy.1 = -32768 ∧ xy.2 = -32768) := by
  obtain ⟨m, hm, hresult⟩ := Option.map_eq_some_iff.mp hcurved
  have hexact := sumSquares32_some hm
  subst hexact
  by_cases hzero : xy.1 * xy.1 + xy.2 * xy.2 = 0
  · rw [if_pos hzero] at hresult
    subst hresult
    exact ⟨h, fun hcorner => hcorner⟩
  · rw [if_neg hzero] at hresult
    refine ⟨hresult ▸ curveStick_int16 F powf h.1 h.2, fun hcorner => ?_⟩
    exact curveStick_corner F powf h.1 h.2 hzero (hresult.trans (Prod.ext hcorner.1 hcorner.2))

/-- **When the squared magnitudes are exact.**  For every reading of a DS4, a DualSense or a Switch
controller, every setting of the stick and every way the floats are rounded: neither 32-bit sum overflows,
and both are exact, if and only if the reading is not at the corner. -/
theorem magnitudes_exact_iff (s : StickSettings) (r : StickReading) :
    MagnitudesExact F powf s r.pair ↔ ¬r.AtCorner := by
  have hrange := r.pair_int16
  rw [← r.pair_eq_corner_iff]
  constructor
  · rintro ⟨hfirst, -⟩
    exact (sumSquares32_eq_some_iff hrange.1 hrange.2).mp hfirst
  · intro hoff
    refine ⟨(sumSquares32_eq_some_iff hrange.1 hrange.2).mpr hoff, fun curved hcurved => ?_⟩
    obtain ⟨hcurvedRange, hcurvedOff⟩ := applySensitivityCore_spec F powf hrange hcurved
    obtain ⟨horientRange, horientOff⟩ := orient_spec s.inverted hcurvedRange
    refine (sumSquares32_eq_some_iff horientRange.1 horientRange.2).mpr fun hcorner => ?_
    exact hoff (hcurvedOff (horientOff hcorner))

/-- THE STICK PUSHED INTO THE CORNER, both bytes 0: the sum is 2^31, one more than an `int32_t` holds. -/
theorem corner_overflows :
    ¬MagnitudesExact exactPrecision (fun base _ => base) ⟨0, false, 10⟩ (StickReading.report 0 0).pair ∧
      (StickReading.report 0 0).pair = (-32768, -32768) ∧
      sumSquares32 (-32768) (-32768) = none ∧
      (-32768) * (-32768) + (-32768) * (-32768) = (2147483648 : Int) := by
  refine ⟨fun h => ?_, rfl, by decide, by decide⟩
  exact absurd h.1 (by decide +kernel)

/-! ## The drivers' sticks -/

/-- The float parts as the parameters of the drivers' models. -/
def floatAxisMath : AxisMath where
  curve preset x y := curveStick F powf preset x y (x * x + y * y)
  rescale deadzone x y := rescaleStick F deadzone x y (x * x + y * y)

/-- **Off the corner the stages are the drivers' `shapeStick`**, with these float parts. -/
theorem stickStages_eq_shapeStick {s : StickSettings} {r : StickReading} (hoff : ¬r.AtCorner) :
    stickStages F powf s r.pair =
      some (shapeStick (floatAxisMath F powf) s.preset s.inverted s.deadzone r.pair) := by
  obtain ⟨hfirst, hsecond⟩ := (magnitudes_exact_iff F powf s r).mpr hoff
  have hzero : r.pair.1 * r.pair.1 + r.pair.2 * r.pair.2 = 0 ↔ r.pair = (0, 0) := by
    constructor
    · intro h
      have hx := mul_self_nonneg r.pair.1
      have hy := mul_self_nonneg r.pair.2
      exact Prod.ext (mul_self_eq_zero.mp (by omega)) (mul_self_eq_zero.mp (by omega))
    · intro h
      rw [h]
      rfl
  have hcurve : applySensitivityCore F powf s.preset r.pair =
      some (applySensitivity (floatAxisMath F powf) s.preset r.pair) := by
    unfold applySensitivityCore applySensitivity
    rw [hfirst, Option.map_some]
    by_cases h : r.pair = (0, 0)
    · rw [if_pos (hzero.mpr h), if_pos h]
    · rw [if_neg (fun h' => h (hzero.mp h')), if_neg h]
      rfl
  have hdeadzone := hsecond _ hcurve
  unfold stickStages shapeStick
  rw [hcurve, Option.bind_some]
  unfold applyDeadzoneCore applyDeadzone
  dsimp only [orient] at hdeadzone ⊢
  rw [hdeadzone]
  split_ifs <;> rfl

end

end Dstx
