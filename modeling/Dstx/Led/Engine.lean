/-
# Dstx.Led.Engine — the LED effect engine (`led.c`): requests, frames, rate limiting.

The engine keeps one private `LedSlotState` per slot.  `ledfx_process_requests` turns a pending
request of the shared memory into engine state; `ledfx_update_slot` computes the frame of the running
effect and, when it differs from the last frame IT wrote, stores it into `led_r/g/b`.

The floating-point part of `led.c` (phase, easing, sine, scaling) is the parameter `LedMath`: one
function for each float expression, over any type of times and phases.  Everything the C code decides
with integers or Booleans (guards, thresholds, which channels light up) is written out.
-/
import Dstx.Keys
import Dstx.Profile.Manager
import Mathlib.Tactic.SplitIfs

namespace Dstx

/-! ## Effects -/

/-- `led_effect_t`. -/
inductive LedEffect where
  | static
  | breath
  | rainbow
  | pulse
  | strobe
  | wave
  | battery
  | trigger
  | buttonPress
  deriving DecidableEq

/-- The entry of `g_effects` at an index below `LEDFX_COUNT`. -/
def LedEffect.ofInt (effect : Int) : Option LedEffect :=
  if effect < 0 then none
  else [static, breath, rainbow, pulse, strobe, wave, battery, trigger, buttonPress][effect.toNat]?

/-- A colour. -/
structure Rgb where
  r : UInt8
  g : UInt8
  b : UInt8
  deriving DecidableEq

/-- `state->last_r = state->last_g = state->last_b = 0`. -/
def Rgb.black : Rgb := ⟨0, 0, 0⟩

/-- `led_slot_state_t`; `τ` is the type of the monotonic clock readings. -/
structure LedSlotState (τ : Type) where
  currentEffect : LedEffect
  startTime : τ
  speed : UInt8
  brightness : UInt8
  active : Bool
  lastWrite : Timeval
  last : Rgb

/-- **The float expressions of `led.c`.**  `φ` is the type of phases. -/
structure LedMath (τ φ : Type) where
  /-- `fmod((current_time - start_time) * final_speed * 360.0, 360.0)`, with the effect's multiplier. -/
  phase : LedEffect → UInt8 → τ → τ → φ
  /-- `(uint8_t)(c * (brightness / 100.0f))`. -/
  scale : UInt8 → UInt8 → UInt8
  /-- `(uint8_t)(c * (brightness * factor / 100.0f))` with the breathing factor of the phase. -/
  breath : φ → UInt8 → UInt8 → UInt8
  /-- The same with the pulse factor. -/
  pulse : φ → UInt8 → UInt8 → UInt8
  /-- The hue of the phase at a brightness. -/
  rainbow : φ → UInt8 → Rgb
  /-- `fmod(phase, 360.0f) < 180.0f`. -/
  strobeOn : φ → Bool
  /-- The three sines of the phase at a brightness. -/
  wave : φ → UInt8 → Rgb
  /-- `(uint8_t)(255 * brightness * factor)` with the blinking factor of the phase. -/
  blink : φ → UInt8 → UInt8
  /-- `(uint8_t)(c * ((max_trigger / 255.0f) * brightness))`. -/
  depth : Int → UInt8 → UInt8 → UInt8

/-- The base colour of a slot, each channel sent through `f`. -/
def baseColour (c : Controller) (f : UInt8 → UInt8) : Rgb :=
  ⟨f c.ledBaseR, f c.ledBaseG, f c.ledBaseB⟩

/-- `any_button_pressed` of `effect_button`: every button but the D-pad. -/
def anyButtonPressed (pad : Pad) : Bool :=
  [Button.cross, .circle, .square, .triangle, .l1, .r1, .l2, .r2, .share, .options, .ps, .l3, .r3,
    .touch].any pad.buttons

variable {τ φ : Type} (M : LedMath τ φ)

/-- `effect_battery`. -/
def effectBattery (brightness : UInt8) (battery : Int) (phase : φ) : Rgb :=
  if battery ≥ 80 then ⟨0, M.scale 255 brightness, 0⟩
  else if battery ≥ 50 then ⟨M.scale 255 brightness, M.scale 255 brightness, 0⟩
  else if battery ≥ 20 then ⟨M.scale 255 brightness, M.scale 165 brightness, 0⟩
  else ⟨M.blink phase brightness, 0, 0⟩

/-- `effect_trigger`: black, or the base colour at the depth of the deeper trigger. -/
def effectTrigger (brightness : UInt8) (c : Controller) (pad : Pad) : Rgb :=
  let lt := if pad.lt > 0 then pad.lt else 0
  let rt := if pad.rt > 0 then pad.rt else 0
  let maxTrigger := if lt > rt then lt else rt
  if maxTrigger > 0 then baseColour c (M.depth maxTrigger brightness) else Rgb.black

/-- **`effect->update`** — the frame of an effect. -/
def effectUpdate (effect : LedEffect) (brightness : UInt8) (c : Controller) (pad : Pad) (phase : φ) :
    Rgb :=
  match effect with
  | .static => baseColour c fun v => M.scale v brightness
  | .breath => baseColour c (M.breath phase brightness)
  | .rainbow => M.rainbow phase brightness
  | .pulse => baseColour c (M.pulse phase brightness)
  | .strobe => if M.strobeOn phase then baseColour c fun v => M.scale v brightness else Rgb.black
  | .wave => M.wave phase brightness
  | .battery => effectBattery M brightness pad.battery phase
  | .trigger => effectTrigger M brightness c pad
  | .buttonPress =>
      if anyButtonPressed pad then baseColour c fun v => M.scale v brightness else Rgb.black

/-! ## Requests -/

/-- `if (speed < MIN_SPEED || speed > MAX_SPEED) speed = 5`. -/
def sanitizeSpeed (speed : UInt8) : UInt8 := if speed < 1 ∨ speed > 10 then 5 else speed

/-- `if (brightness < MIN_BRIGHTNESS || brightness > MAX_BRIGHTNESS) brightness = 80`. -/
def sanitizeBrightness (brightness : UInt8) : UInt8 :=
  if brightness < 1 ∨ brightness > 100 then 80 else brightness

/-- What is out of range is replaced by something in range. -/
theorem sanitized_mem {lo hi dflt : UInt8} (hdflt : lo ≤ dflt ∧ dflt ≤ hi) (v : UInt8) :
    lo ≤ (if v < lo ∨ v > hi then dflt else v) ∧ (if v < lo ∨ v > hi then dflt else v) ≤ hi := by
  split_ifs with h
  · exact hdflt
  · simp only [not_or, UInt8.not_lt] at h
    exact h

theorem sanitizeSpeed_mem (speed : UInt8) : 1 ≤ sanitizeSpeed speed ∧ sanitizeSpeed speed ≤ 10 :=
  sanitized_mem (by decide) speed

theorem sanitizeBrightness_mem (brightness : UInt8) :
    1 ≤ sanitizeBrightness brightness ∧ sanitizeBrightness brightness ≤ 100 :=
  sanitized_mem (by decide) brightness

/-- Store a colour in `led_r/g/b`. -/
def Controller.show (c : Controller) (rgb : Rgb) : Controller :=
  { c with ledR := rgb.r, ledG := rgb.g, ledB := rgb.b }

/-- **`ledfx_process_requests`** for one slot. -/
def ledfxProcessRequest (connected : Bool) (now : τ) (tv : Timeval) (c : Controller)
    (st : LedSlotState τ) : Controller × LedSlotState τ :=
  if !connected || !c.ledRequestPending then (c, st)
  else if c.ledRequestEffect = 0 then
    ({ c.show (baseColour c id) with
        ledRequestPending := false
        ledStatic := true
        ledDirty := true },
      { st with active := false })
  else
    match LedEffect.ofInt c.ledRequestEffect with
    | some effect =>
        let c' := if effect = .trigger ∨ effect = .buttonPress then c.show Rgb.black else c
        ({ c' with
            ledRequestPending := false
            ledStatic := false
            ledDirty := true },
          { st with
            active := true
            currentEffect := effect
            speed := sanitizeSpeed c.ledRequestSpeed
            brightness := sanitizeBrightness c.ledRequestBrightness
            startTime := now
            lastWrite := tv
            last := Rgb.black })
    | none => ({ c with ledRequestPending := false }, st)

/-! ## Frames -/

/-- `TIMEVAL_DIFF_US`. -/
def timevalDiffUs (a b : Timeval) : Int := (a.sec - b.sec) * 1000000 + (a.usec - b.usec)

/-- The rate limit of `ledfx_update_slot`: neither the first frame nor a reset cache, and less than
`RATE_LIMIT_US` since the last write. -/
def rateLimited (st : LedSlotState τ) (now : Timeval) : Bool :=
  let isFirstFrame := st.lastWrite.sec == 0 && st.lastWrite.usec == 0
  let cacheReset := st.last == Rgb.black
  !isFirstFrame && !cacheReset && decide (timevalDiffUs now st.lastWrite < 8000)

/-- The frame the running effect of a slot shows at a time. -/
def ledFrame (c : Controller) (pad : Pad) (st : LedSlotState τ) (currentTime : τ) : Rgb :=
  effectUpdate M st.currentEffect st.brightness c pad
    (M.phase st.currentEffect st.speed st.startTime currentTime)

/-- `ledfx_update_slot` gets as far as computing a frame: connected, not static, effect running, not
rate limited. -/
def ledfxRuns (connected : Bool) (c : Controller) (st : LedSlotState τ) (now : Timeval) : Bool :=
  connected && !c.ledStatic && st.active && !rateLimited st now

/-- **`ledfx_update_slot`** for one slot: a frame that differs from the last one written is stored in
shared memory. -/
def ledfxUpdate (connected : Bool) (pad : Pad) (now : Timeval) (currentTime : τ) (c : Controller)
    (st : LedSlotState τ) : Bool × Controller × LedSlotState τ :=
  if ledfxRuns connected c st now then
    let frame := ledFrame M c pad st currentTime
    if frame ≠ st.last then
      (true, { c.show frame with ledDirty := true }, { st with last := frame, lastWrite := now })
    else (false, c, st)
  else (false, c, st)

end Dstx
