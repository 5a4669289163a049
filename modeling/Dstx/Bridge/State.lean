/-
# Dstx.Bridge.State — what the D-Bus bridge copies, compares and reports (`dbus-utils.c`,
`handle_get_controller_info`).

The bridge keeps a copy of every `controller_t` and of the copy before it.  Three functions read them,
each with a list of fields of its own: `config_changed` and `telemetry_changed` decide which signals a
change gives rise to, and `handle_get_controller_info` reports a slot as fifty-two positional values.

The lists of `config_changed` and of the reply do NOT coincide: the base colour, the static flag, the
requested effect and its speed are reported but never compared (`configChanged_complete_iff`).
-/
import Dstx.Device
import Dstx.Keys
import Dstx.Profile.Manager

namespace Dstx

open Dstx.Lib

/-! ## The copy -/

/-- The sticks and triggers. -/
def Pad.axes (pad : Pad) : List Int := [pad.lx, pad.ly, pad.rx, pad.ry, pad.lt, pad.rt]

/-- **A `controller_t` as the bridge holds it**: the slot and its input state, with the values of the
`int16_t` and `int` fields in the range of their types. -/
structure ControllerState where
  slot : Slot
  pad : Pad
  axesRange : ∀ v ∈ pad.axes, -(2 ^ 15) ≤ v ∧ v < 2 ^ 15
  intRange : ∀ v ∈ [pad.hatX, pad.hatY, pad.battery, slot.ledRequestEffect], -(2 ^ 31) ≤ v ∧ v < 2 ^ 31

/-- **`copy_controller_state`** — everything but the one-shot request flags. -/
def copyControllerState (dst src : ControllerState) : ControllerState where
  slot :=
    { src.slot with
      requestSwitchLayout := dst.slot.requestSwitchLayout
      requestXboxLayout := dst.slot.requestXboxLayout
      requestResetAllKeybinds := dst.slot.requestResetAllKeybinds }
  pad := src.pad
  axesRange := src.axesRange
  intRange := src.intRange

@[simp] theorem copyControllerState_connected (dst src : ControllerState) :
    (copyControllerState dst src).slot.connected = src.slot.connected := rfl

/-! ## Buttons -/

/-- The buttons of the 16-bit word, from bit 0 on; the d-pad is not among them. -/
def packedButtons : List Button :=
  [.cross, .circle, .square, .triangle, .l1, .r1, .l2, .r2, .share, .options, .l3, .r3, .ps, .touch]

/-- One `if (c->…) buttons |= (1 << i);`. -/
def packButton (buttons : Button → Bool) (word : Nat) (bit : Button × Nat) : Nat :=
  if buttons bit.1 then word ||| 1 <<< bit.2 else word

/-- **`pack_buttons`**. -/
def packButtons (buttons : Button → Bool) : Nat := packedButtons.zipIdx.foldl (packButton buttons) 0

theorem testBit_packButton (buttons : Button → Bool) (word : Nat) (bit : Button × Nat) (i : Nat) :
    (packButton buttons word bit).testBit i =
      (word.testBit i || (buttons bit.1 && decide (bit.2 = i))) := by
  unfold packButton
  split
  · rename_i hb
    rw [Nat.testBit_or, hb, Bool.true_and, Nat.one_shiftLeft, Nat.testBit_two_pow]
  · rename_i hb
    simp [hb]

/-- A bit of the word is set by the buttons that are packed into it. -/
theorem testBit_foldl_packButton (buttons : Button → Bool) (i : Nat) (bits : List (Button × Nat))
    (word : Nat) :
    (bits.foldl (packButton buttons) word).testBit i =
      (word.testBit i || bits.any fun bit => buttons bit.1 && decide (bit.2 = i)) := by
  induction bits generalizing word with
  | nil => simp
  | cons bit bits ih => rw [List.foldl_cons, ih, testBit_packButton, List.any_cons, Bool.or_assoc]

/-- **Every bit of the word is its button.** -/
theorem testBit_packButtons (buttons : Button → Bool) {b : Button} {i : Nat}
    (h : (b, i) ∈ packedButtons.zipIdx) : (packButtons buttons).testBit i = buttons b := by
  unfold packButtons
  rw [testBit_foldl_packButton, Nat.zero_testBit, Bool.false_or]
  have hbit : packedButtons[i]? = some b := List.mem_zipIdx_iff_getElem?.mp h
  cases hb : buttons b with
  | true =>
      rw [List.any_eq_true]
      exact ⟨(b, i), h, by simp [hb]⟩
  | false =>
      rw [List.any_eq_false]
      rintro ⟨b', j⟩ hmem hand
      obtain ⟨hb', hj⟩ := Bool.and_eq_true_iff.mp hand
      obtain rfl : j = i := of_decide_eq_true hj
      have hbit' : packedButtons[j]? = some b' := List.mem_zipIdx_iff_getElem?.mp hmem
      obtain rfl : b = b' := Option.some.inj (hbit.symm.trans hbit')
      exact Bool.false_ne_true (hb.symm.trans hb')

/-! ## Comparisons -/

/-- **`telemetry_changed`**. -/
def telemetryChanged (a b : Pad) : Bool :=
  a.lx != b.lx || a.ly != b.ly || a.rx != b.rx || a.ry != b.ry || a.lt != b.lt || a.rt != b.rt ||
    a.hatX != b.hatX || a.hatY != b.hatY || Button.all.any fun k => a.buttons k != b.buttons k

/-- **`config_changed`** — the fields in the source's order, then the keymap. -/
def configChanged (a b : Slot) : Bool :=
  a.ledR != b.ledR || a.ledG != b.ledG || a.ledB != b.ledB ||
  a.rumbleGain != b.rumbleGain || a.deadzone != b.deadzone ||
  a.globalLedBrightness != b.globalLedBrightness ||
  a.playerLeds != b.playerLeds ||
  a.debounceEnabled != b.debounceEnabled ||
  a.emulateActive != b.emulateActive ||
  a.isUhid != b.isUhid ||
  a.ledReapply != b.ledReapply ||
  a.rumbleActive != b.rumbleActive ||
  a.invertLy != b.invertLy ||
  a.invertRy != b.invertRy ||
  a.isTriggerDigital != b.isTriggerDigital ||
  a.sensitivityLeftPreset != b.sensitivityLeftPreset ||
  a.sensitivityRightPreset != b.sensitivityRightPreset ||
  decide (a.keymap ≠ b.keymap)

/-! ## The report -/

/-- A value of a D-Bus message; `other` is one of a type the bridge never asks for. -/
inductive DBusValue where
  | byte (v : UInt8)
  | boolean (v : Bool)
  | int16 (v : Int)
  | uint16 (v : Nat)
  | int32 (v : Int)
  | uint32 (v : UInt32)
  | string (v : CStr)
  | bytes (v : List UInt8)
  | other
  deriving DecidableEq

/-- `controller_type_t` as a number. -/
def ControllerType.code : ControllerType → UInt32
  | .ds4 => 0
  | .dualsense => 1
  | .nswPro => 2

/-- `b ? 1 : 0`, and a 0/1 button field stored into a `uint32_t`. -/
def flag32 (b : Bool) : UInt32 := if b then 1 else 0

/-- `current_effect`: the requested effect as an unsigned number, and 0 for one above 8. -/
def Slot.reportedEffect (slot : Slot) : UInt32 :=
  if toU32 slot.ledRequestEffect > 8 then 0 else toU32 slot.ledRequestEffect

/-- `effect_speed`: 5 for a speed of 0. -/
def Slot.reportedSpeed (slot : Slot) : UInt32 :=
  if slot.ledRequestSpeed.toUInt32 < 1 then 5 else slot.ledRequestSpeed.toUInt32

/-- **The arguments of the `GetControllerInfo` reply**, in the order they are appended. -/
def controllerInfo (c : ControllerState) : List DBusValue :=
  [.uint32 c.slot.type.code,
    .uint32 (flag32 c.slot.isBluetooth),
    .uint32 c.slot.ledR.toUInt32,
    .uint32 c.slot.ledG.toUInt32,
    .uint32 c.slot.ledB.toUInt32,
    .uint32 c.slot.ledBaseR.toUInt32,
    .uint32 c.slot.ledBaseG.toUInt32,
    .uint32 c.slot.ledBaseB.toUInt32,
    .uint32 (toU32 c.pad.battery),
    .uint32 c.slot.rumbleGain.toUInt32,
    .uint32 c.slot.deadzone.toUInt32,
    .uint32 c.slot.globalLedBrightness.toUInt32,
    .uint32 c.slot.playerLeds.toUInt32,
    .uint32 (flag32 c.slot.emulateActive),
    .uint32 (flag32 c.slot.isUhid),
    .uint32 (flag32 c.slot.isTriggerDigital),
    .uint32 (flag32 c.slot.debounceEnabled),
    .uint32 (flag32 c.slot.ledReapply),
    .uint32 (flag32 c.slot.rumbleActive),
    .uint32 (flag32 c.slot.invertLy),
    .uint32 (flag32 c.slot.invertRy),
    .uint32 c.slot.sensitivityLeftPreset.toUInt32,
    .uint32 c.slot.sensitivityRightPreset.toUInt32,
    .uint32 (flag32 c.slot.ledStatic),
    .uint32 c.slot.reportedEffect,
    .uint32 c.slot.reportedSpeed,
    .int32 c.pad.lx,
    .int32 c.pad.ly,
    .int32 c.pad.rx,
    .int32 c.pad.ry,
    .int32 c.pad.lt,
    .int32 c.pad.rt,
    .int32 c.pad.hatX,
    .int32 c.pad.hatY,
    .uint32 (flag32 (c.pad.buttons .square)),
    .uint32 (flag32 (c.pad.buttons .cross)),
    .uint32 (flag32 (c.pad.buttons .circle)),
    .uint32 (flag32 (c.pad.buttons .triangle)),
    .uint32 (flag32 (c.pad.buttons .l1)),
    .uint32 (flag32 (c.pad.buttons .r1)),
    .uint32 (flag32 (c.pad.buttons .l2)),
    .uint32 (flag32 (c.pad.buttons .r2)),
    .uint32 (flag32 (c.pad.buttons .share)),
    .uint32 (flag32 (c.pad.buttons .options)),
    .uint32 (flag32 (c.pad.buttons .ps)),
    .uint32 (flag32 (c.pad.buttons .l3)),
    .uint32 (flag32 (c.pad.buttons .r3)),
    .uint32 (flag32 (c.pad.buttons .touch)),
    .uint32 (flag32 (c.pad.buttons .dpadUp)),
    .uint32 (flag32 (c.pad.buttons .dpadDown)),
    .uint32 (flag32 (c.pad.buttons .dpadLeft)),
    .uint32 (flag32 (c.pad.buttons .dpadRight))]

/-- A C conversion to `int16_t`. -/
def toI16 (v : Int) : Int := (v + 2 ^ 15) % 2 ^ 16 - 2 ^ 15

/-- **The arguments of the `TelemetryUpdate` signal** (`emit_telemetry_signal`): the hat is an `int` and
goes out as an `int16_t`. -/
def telemetryArgs (slot : UInt8) (c : ControllerState) : List DBusValue :=
  [.byte slot,
    .int16 c.pad.lx,
    .int16 c.pad.ly,
    .int16 c.pad.rx,
    .int16 c.pad.ry,
    .int16 c.pad.lt,
    .int16 c.pad.rt,
    .int16 (toI16 c.pad.hatX),
    .int16 (toI16 c.pad.hatY),
    .uint16 (packButtons c.pad.buttons)]

/-! ## Is every reported setting compared? -/

/-- The positions of the configuration in the reply: all before the sticks but type, transport and
battery. -/
def configPositions : List Nat :=
  [2, 3, 4, 5, 6, 7, 9, 10, 11, 12, 13, 14, 15, 16, 17, 18, 19, 20, 21, 22, 23, 24, 25]

/-- **Two states with the same reported configuration** and the same keymap. -/
def ConfigAgrees (a b : ControllerState) : Prop :=
  (∀ i ∈ configPositions, (controllerInfo a)[i]? = (controllerInfo b)[i]?) ∧
    a.slot.keymap = b.slot.keymap

/-- Two slots agree in the fields that `config_changed` compares. -/
structure ComparedAgree (a b : Slot) : Prop where
  ledR : a.ledR = b.ledR
  ledG : a.ledG = b.ledG
  ledB : a.ledB = b.ledB
  rumbleGain : a.rumbleGain = b.rumbleGain
  deadzone : a.deadzone = b.deadzone
  globalLedBrightness : a.globalLedBrightness = b.globalLedBrightness
  playerLeds : a.playerLeds = b.playerLeds
  debounceEnabled : a.debounceEnabled = b.debounceEnabled
  emulateActive : a.emulateActive = b.emulateActive
  isUhid : a.isUhid = b.isUhid
  ledReapply : a.ledReapply = b.ledReapply
  rumbleActive : a.rumbleActive = b.rumbleActive
  invertLy : a.invertLy = b.invertLy
  invertRy : a.invertRy = b.invertRy
  isTriggerDigital : a.isTriggerDigital = b.isTriggerDigital
  sensitivityLeftPreset : a.sensitivityLeftPreset = b.sensitivityLeftPreset
  sensitivityRightPreset : a.sensitivityRightPreset = b.sensitivityRightPreset
  keymap : a.keymap = b.keymap

/-- Two slots agree in the settings that are reported and not compared. -/
structure UncomparedAgree (a b : Slot) : Prop where
  ledBaseR : a.ledBaseR = b.ledBaseR
  ledBaseG : a.ledBaseG = b.ledBaseG
  ledBaseB : a.ledBaseB = b.ledBaseB
  ledStatic : a.ledStatic = b.ledStatic
  reportedEffect : a.reportedEffect = b.reportedEffect
  reportedSpeed : a.reportedSpeed = b.reportedSpeed

theorem configChanged_eq_false_iff {a b : Slot} : configChanged a b = false ↔ ComparedAgree a b := by
  constructor
  · intro h
    simp only [configChanged, Bool.or_eq_false_iff, bne_eq_false_iff_eq, decide_eq_false_iff_not,
      not_not, and_assoc] at h
    obtain ⟨h₁, h₂, h₃, h₄, h₅, h₆, h₇, h₈, h₉, h₁₀, h₁₁, h₁₂, h₁₃, h₁₄, h₁₅, h₁₆, h₁₇, h₁₈⟩ := h
    exact ⟨h₁, h₂, h₃, h₄, h₅, h₆, h₇, h₈, h₉, h₁₀, h₁₁, h₁₂, h₁₃, h₁₄, h₁₅, h₁₆, h₁₇, h₁₈⟩
  · rintro ⟨h₁, h₂, h₃, h₄, h₅, h₆, h₇, h₈, h₉, h₁₀, h₁₁, h₁₂, h₁₃, h₁₄, h₁₅, h₁₆, h₁₇, h₁₈⟩
    simp [configChanged, h₁, h₂, h₃, h₄, h₅, h₆, h₇, h₈, h₉, h₁₀, h₁₁, h₁₂, h₁₃, h₁₄, h₁₅, h₁₆, h₁₇,
      h₁₈]

theorem toUInt32_inj {a b : UInt8} : a.toUInt32 = b.toUInt32 ↔ a = b := by
  constructor
  · intro h
    have hback := congrArg UInt32.toUInt8 h
    simpa using hback
  · rintro rfl
    rfl

theorem flag32_inj {a b : Bool} : flag32 a = flag32 b ↔ a = b := by
  cases a <;> cases b <;> decide

/-- **The reported configuration is the compared fields and the uncompared ones.** -/
theorem configAgrees_iff (a b : ControllerState) :
    ConfigAgrees a b ↔ ComparedAgree a.slot b.slot ∧ UncomparedAgree a.slot b.slot := by
  constructor
  · rintro ⟨hinfo, hkeymap⟩
    simp only [configPositions, List.forall_mem_cons, controllerInfo, List.getElem?_cons_succ,
      List.getElem?_cons_zero, Option.some.injEq, DBusValue.uint32.injEq, toUInt32_inj, flag32_inj] at hinfo
    obtain ⟨r, g, b', br, bg, bb, gain, dead, bright, pled, emu, uhid, trig, deb, reapply, rumble, ily, iry,
      sl, sr, static, effect, speed, -⟩ := hinfo
    exact ⟨⟨r, g, b', gain, dead, bright, pled, deb, emu, uhid, reapply, rumble, ily, iry, trig, sl, sr,
      hkeymap⟩, ⟨br, bg, bb, static, effect, speed⟩⟩
  · rintro ⟨⟨r, g, b', gain, dead, bright, pled, deb, emu, uhid, reapply, rumble, ily, iry, trig, sl, sr,
      hkeymap⟩, ⟨br, bg, bb, static, effect, speed⟩⟩
    refine ⟨?_, hkeymap⟩
    simp [configPositions, controllerInfo, r, g, b', br, bg, bb, gain, dead, bright, pled, emu, uhid, trig,
      deb, reapply, rumble, ily, iry, sl, sr, static, effect, speed]

/-- **When `config_changed` is complete.**  For two states it announces every difference in the reported
configuration and the keymap exactly when a compared field differs, or the base colour, the static flag and
the reported effect and speed agree. -/
theorem configChanged_complete_iff (a b : ControllerState) :
    (configChanged a.slot b.slot = false → ConfigAgrees a b) ↔
      (¬ComparedAgree a.slot b.slot ∨ UncomparedAgree a.slot b.slot) := by
  rw [configChanged_eq_false_iff, configAgrees_iff]
  constructor
  · intro h
    by_cases hc : ComparedAgree a.slot b.slot
    · exact Or.inr (h hc).2
    · exact Or.inl hc
  · rintro (hc | hu) hcompared
    · exact absurd hcompared hc
    · exact ⟨hcompared, hu⟩

/-- Sticks centred, nothing pressed. -/
def centredPad : Pad where
  lx := 0
  ly := 0
  rx := 0
  ry := 0
  lt := 0
  rt := 0
  buttons := fun _ => false
  hatX := 0
  hatY := 0
  battery := 100

/-- A DualSense right after it was plugged in. -/
def pluggedSlot : Slot :=
  { initialController, initialCells with
    type := .dualsense
    connected := true }

theorem centredPad_axesRange : ∀ v ∈ centredPad.axes, -(2 ^ 15) ≤ v ∧ v < 2 ^ 15 := by
  intro v hv
  have hzero : v = 0 := by simpa [centredPad, Pad.axes] using hv
  omega

theorem centredPad_intRange (effect : Int) (h : 0 ≤ effect ∧ effect < 2 ^ 31) :
    ∀ v ∈ [centredPad.hatX, centredPad.hatY, centredPad.battery, effect], -(2 ^ 31) ≤ v ∧ v < 2 ^ 31 := by
  intro v hv
  have hcases : v = 0 ∨ v = 100 ∨ v = effect := by simpa [centredPad] using hv
  omega

theorem zero_int_range : (0 : Int) ≤ 0 ∧ (0 : Int) < 2 ^ 31 := by omega

/-- That controller at rest. -/
def restingState : ControllerState where
  slot := pluggedSlot
  pad := centredPad
  axesRange := centredPad_axesRange
  intRange := centredPad_intRange 0 zero_int_range

/-- The same controller after a request that changes only the speed of the effect. -/
def fasterState : ControllerState :=
  { restingState with slot := { restingState.slot with ledRequestSpeed := 9 } }

/-- **A new effect speed is reported and not announced.** -/
theorem configChanged_misses_speed : ¬(configChanged restingState.slot fasterState.slot = false →
    ConfigAgrees restingState fasterState) := by
  intro h
  have hspeed := (h (by decide)).1 25 (by decide)
  revert hspeed
  decide

end Dstx
