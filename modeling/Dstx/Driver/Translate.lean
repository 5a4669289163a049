/-
# Dstx.Driver.Translate — from a DS4 or DualSense report to the pad state and the uinput events
(`drivers.c`, with the stick functions of `axes.c`).

A report is a buffer of bytes.  `translate_ds4` and `translate_dualsense` are two copies of the same code
with other byte positions and another battery rule.  Each copy is written out in its own definition, in the
stages of the source: sticks, physical buttons, debounce, keybinds (`Pad.applyMap`), the list of events for
the virtual device, battery.  `translate` is what they have in common, with the positions in a
`ReportFormat`; `translateDs4_eq` and `translateDualsense_eq` prove that each copy is that.

Parameters: `AxisMath` stands for the floating-point curves of `axes.c`; everything exact around them is
modelled.  `SYN_REPORT`, which only closes a batch of events, is left out of the event lists.
-/
import Dstx.Keys
import Dstx.Lib.Replay

namespace Dstx

open Dstx.Lib

/-! ## Sticks -/

/-- The floating-point parts of `apply_sensitivity_core` and `apply_deadzone`. -/
structure AxisMath where
  curve : UInt8 → Int → Int → Int × Int
  rescale : UInt8 → Int → Int → Int × Int

/-- `safe_normalize`. -/
def safeNormalize (v : UInt8) : Int :=
  if v = 128 then 0
  else if v = 0 then -32768
  else if v = 255 then 32767
  else if v < 128 then ((v.toNat : Int) - 128) * 256
  else ((v.toNat : Int) - 128) * 257 + 128

/-- Inversion of an axis, with the overflow of -32768 handled. -/
def invertAxis (v : Int) : Int := if v = -32768 then 32767 else -v

/-- `apply_sensitivity_core`: a centred stick stays centred. -/
def applySensitivity (A : AxisMath) (preset : UInt8) (xy : Int × Int) : Int × Int :=
  if xy = (0, 0) then xy
  else A.curve (if preset.toNat ≥ sensPresetCount then sensPresetDefault else preset) xy.1 xy.2

/-- `apply_deadzone`. -/
def applyDeadzone (A : AxisMath) (deadzone : UInt8) (xy : Int × Int) : Int × Int :=
  if deadzone = 0 then xy
  else if deadzone ≥ 100 then (0, 0)
  else A.rescale deadzone xy.1 xy.2

/-- What every driver does with a stick: sensitivity, inversion, deadzone (0 when out of range). -/
def shapeStick (A : AxisMath) (preset : UInt8) (inverted : Bool) (deadzone : UInt8) (xy : Int × Int) :
    Int × Int :=
  let curved := applySensitivity A preset xy
  let oriented := if inverted then (curved.1, invertAxis curved.2) else curved
  applyDeadzone A (if deadzone > 100 then 0 else deadzone) oriented

/-! ## Debounce -/

/-- `DEBOUNCE_DELAY_US`. -/
def debounceDelayUs : UInt64 := 15000

/-- `phy_debounce_t`. -/
structure Debounce where
  lastChangeUs : UInt64
  pending : Bool
  stable : Bool

/-- **`debounce_physical`** — the debounce state it leaves; its result is `stable`. -/
def debouncePhysical (now : UInt64) (raw : Bool) (db : Debounce) : Debounce :=
  if raw = db.stable then { db with pending := raw }
  else if raw = db.pending then
    if now - db.lastChangeUs ≥ debounceDelayUs then { db with stable := raw, pending := raw } else db
  else { db with pending := raw, lastChangeUs := now }

/-! ## Triggers -/

/-- The two triggers. -/
inductive Trigger where
  | left
  | right
  deriving DecidableEq

/-- The button of a trigger. -/
def Trigger.button : Trigger → Button
  | .left => .l2
  | .right => .r2

/-- The analog value of a trigger: `LT` or `RT`. -/
def Trigger.value (t : Trigger) (pad : Pad) : Int :=
  match t with
  | .left => pad.lt
  | .right => pad.rt

/-- The physical trigger produces its own logical button. -/
def Trigger.bound (t : Trigger) (keymap : Keymap) : Bool := keymap t.button.phy == t.button.logical

/-- **`get_trigger_axis_value`** — decided by the ANALOG value. -/
def getTriggerAxisValue (keymap : Keymap) (pad : Pad) (t : Trigger) : Int :=
  if t.value pad > 0 then if t.bound keymap then t.value pad else 0
  else if pad.buttons t.button then 255
  else 0

/-- The axis value of the uinput branches — decided by the debounced BUTTON. -/
def uinputTrigger (keymap : Keymap) (pad : Pad) (stable : Button → Bool) (t : Trigger) : Int :=
  if stable t.button then if t.bound keymap then t.value pad else 0
  else if pad.buttons t.button then 255
  else 0

/-! ## The virtual device -/

/-- The controls of the uinput device, by event code. -/
inductive Control where
  | absX
  | absY
  | absRx
  | absRy
  | absZ
  | absRz
  | hat0x
  | hat0y
  | btnWest
  | btnNorth
  | btnSouth
  | btnEast
  | btnTl
  | btnTr
  | btnSelect
  | btnStart
  | btnThumbl
  | btnThumbr
  | btnMode
  | btnTl2
  | btnTr2
  deriving DecidableEq

/-- An event: a control and its new value. -/
abbrev UinputEvent := Control × Int

/-- A button as an event value. -/
def keyValue (b : Bool) : Int := if b then 1 else 0

/-- What each control is to show for a pad state, with the two trigger axes given. -/
def Pad.control (pad : Pad) (axis : Trigger → Int) : Control → Int
  | .absX => pad.lx
  | .absY => pad.ly
  | .absRx => pad.rx
  | .absRy => pad.ry
  | .absZ => axis .left
  | .absRz => axis .right
  | .hat0x => pad.hatX
  | .hat0y => pad.hatY
  | .btnWest => keyValue (pad.buttons .triangle)
  | .btnNorth => keyValue (pad.buttons .square)
  | .btnSouth => keyValue (pad.buttons .cross)
  | .btnEast => keyValue (pad.buttons .circle)
  | .btnTl => keyValue (pad.buttons .l1)
  | .btnTr => keyValue (pad.buttons .r1)
  | .btnSelect => keyValue (pad.buttons .share)
  | .btnStart => keyValue (pad.buttons .options)
  | .btnThumbl => keyValue (pad.buttons .l3)
  | .btnThumbr => keyValue (pad.buttons .r3)
  | .btnMode => keyValue (pad.buttons .ps)
  | .btnTl2 => keyValue (pad.buttons .l2)
  | .btnTr2 => keyValue (pad.buttons .r2)

/-- The controls `translate_*` emits, in order: the trigger AXES in analog mode, the trigger BUTTONS in
digital mode, everything else always. -/
def emittedControls (digital : Bool) : List Control :=
  ([.absX, .absY, .absRx, .absRy] : List Control) ++
    (if digital then ([] : List Control) else [.absZ, .absRz]) ++
    ([.btnWest, .btnNorth, .btnSouth, .btnEast, .hat0x, .hat0y, .btnTl, .btnTr, .btnSelect, .btnStart,
      .btnThumbl, .btnThumbr, .btnMode] : List Control) ++
    if digital then ([.btnTl2, .btnTr2] : List Control) else []

/-! ## Reports -/

/-- Where a report keeps what. -/
structure ReportFormat where
  /-- The report number of the Bluetooth report, and where its data starts. -/
  bluetoothId : UInt8
  bluetoothOffset : Nat
  /-- Offsets of the triggers, of the first button byte and of the battery byte. -/
  triggers : Nat
  buttons : Nat
  battery : Nat
  batteryLevel : UInt8 → Int

/-- `int offset = …`. -/
def ReportFormat.offset (fmt : ReportFormat) (buf : Nat → UInt8) : Nat :=
  if buf 0 = fmt.bluetoothId then fmt.bluetoothOffset else 1

/-- `!!(byte & mask)`. -/
def testBits (byte mask : UInt8) : Bool := byte &&& mask != 0

/-- `phy_raw`. -/
def phyRaw (fmt : ReportFormat) (buf : Nat → UInt8) : Button → Bool :=
  let first := buf (fmt.offset buf + fmt.buttons)
  let second := buf (fmt.offset buf + fmt.buttons + 1)
  let third := buf (fmt.offset buf + fmt.buttons + 2)
  let dpad := first &&& 0x0F
  fun
  | .square => testBits first 0x10
  | .cross => testBits first 0x20
  | .circle => testBits first 0x40
  | .triangle => testBits first 0x80
  | .dpadUp => dpad == 0 || dpad == 1 || dpad == 7
  | .dpadDown => dpad == 3 || dpad == 4 || dpad == 5
  | .dpadLeft => dpad == 5 || dpad == 6 || dpad == 7
  | .dpadRight => dpad == 1 || dpad == 2 || dpad == 3
  | .l1 => testBits second 0x01
  | .r1 => testBits second 0x02
  | .l2 => testBits second 0x04
  | .r2 => testBits second 0x08
  | .share => testBits second 0x10
  | .options => testBits second 0x20
  | .l3 => testBits second 0x40
  | .r3 => testBits second 0x80
  | .ps => testBits third 0x01
  | .touch => testBits third 0x02

/-- A report as the worker hands it over: the bytes, and the clock at each debounce call. -/
structure Report where
  buf : Nat → UInt8
  now : Button → UInt64

/-- The driver's state for a slot: the pad and `g_phy_debounce`. -/
structure DriverState where
  pad : Pad
  debounce : Button → Debounce

/-- The debounce state after a report. -/
def debounceAll (fmt : ReportFormat) (report : Report) (enabled : Bool)
    (debounce : Button → Debounce) : Button → Debounce :=
  if enabled then fun b => debouncePhysical (report.now b) (phyRaw fmt report.buf b) (debounce b)
  else debounce

/-- `phy_stable`: the debounced buttons, or the raw ones. -/
def phyStable (fmt : ReportFormat) (report : Report) (enabled : Bool) (debounce : Button → Debounce) :
    Button → Bool :=
  if enabled then fun b => (debounceAll fmt report enabled debounce b).stable
  else phyRaw fmt report.buf

/-- The analog value of a trigger in a report. -/
def rawTrigger (fmt : ReportFormat) (buf : Nat → UInt8) : Trigger → Int
  | .left => (buf (fmt.offset buf + fmt.triggers)).toNat
  | .right => (buf (fmt.offset buf + fmt.triggers + 1)).toNat

/-- The axes a report produces. -/
def translateSticks (A : AxisMath) (fmt : ReportFormat) (c : Controller) (buf : Nat → UInt8) (pad : Pad) :
    Pad :=
  let offset := fmt.offset buf
  let left := shapeStick A c.sensitivityLeftPreset c.invertLy c.deadzone
    (safeNormalize (buf offset), safeNormalize (buf (offset + 1)))
  let right := shapeStick A c.sensitivityRightPreset c.invertRy c.deadzone
    (safeNormalize (buf (offset + 2)), safeNormalize (buf (offset + 3)))
  { pad with
    lx := left.1
    ly := left.2
    rx := right.1
    ry := right.2
    lt := rawTrigger fmt buf .left
    rt := rawTrigger fmt buf .right }

/-- **The slot state a report produces.** -/
def translatePad (A : AxisMath) (fmt : ReportFormat) (c : Controller) (report : Report)
    (st : DriverState) : Pad :=
  let buf := report.buf
  let axes : Pad :=
    { translateSticks A fmt c buf st.pad with battery := fmt.batteryLevel (buf (fmt.offset buf + fmt.battery)) }
  axes.applyMap c.keymap (phyStable fmt report c.debounceEnabled st.debounce)

/-- The uinput events of a report. -/
def translateEvents (c : Controller) (pad : Pad) (stable : Button → Bool) : List UinputEvent :=
  sendAll (pad.control (uinputTrigger c.keymap pad stable)) (emittedControls c.isTriggerDigital)

/-- **The translation of a report**: the driver's state it leaves and the events for an open device. -/
def translate (A : AxisMath) (fmt : ReportFormat) (c : Controller) (report : Report)
    (st : DriverState) : DriverState × List UinputEvent :=
  let pad := translatePad A fmt c report st
  (⟨pad, debounceAll fmt report c.debounceEnabled st.debounce⟩,
    translateEvents c pad (phyStable fmt report c.debounceEnabled st.debounce))

/-! ## The two controllers -/

/-- `(level * 10 + 5) > 100 ? 100 : (level * 10 + 5)`. -/
def batteryPercent (level : UInt8) : Int := min ((level.toNat : Int) * 10 + 5) 100

/-- The battery byte of a DS4. -/
def ds4Battery (byte : UInt8) : Int :=
  let level := byte &&& 0x0F
  if testBits byte 0x10 then
    if level ≤ 10 then batteryPercent level else if level = 11 then 100 else 0
  else if level ≤ 10 then batteryPercent level
  else 0

/-- The battery byte of a DualSense. -/
def dualsenseBattery (byte : UInt8) : Int :=
  let level := byte &&& 0x0F
  let status := (byte >>> 4) &&& 0x0F
  if status = 0 ∨ status = 1 then batteryPercent level
  else if status = 2 then 100
  else 0

def ds4Format : ReportFormat where
  bluetoothId := 0x11
  bluetoothOffset := 3
  triggers := 7
  buttons := 4
  battery := 29
  batteryLevel := ds4Battery

def dualsenseFormat : ReportFormat where
  bluetoothId := 0x31
  bluetoothOffset := 2
  triggers := 4
  buttons := 7
  battery := 52
  batteryLevel := dualsenseBattery

/-! ## The two copies, written out -/

/-- `translate_ds4`, "Analog sticks" to the deadzone, statement by statement. -/
def ds4Sticks (A : AxisMath) (c : Controller) (buf : Nat → UInt8) (offset : Nat) (slot : Pad) : Pad :=
  let slot : Pad :=
    { slot with
      lx := safeNormalize (buf (offset + 0))
      ly := safeNormalize (buf (offset + 1))
      rx := safeNormalize (buf (offset + 2))
      ry := safeNormalize (buf (offset + 3)) }
  -- `apply_sensitivity_left`, `apply_sensitivity_right`
  let left := applySensitivity A c.sensitivityLeftPreset (slot.lx, slot.ly)
  let slot : Pad := { slot with lx := left.1, ly := left.2 }
  let right := applySensitivity A c.sensitivityRightPreset (slot.rx, slot.ry)
  let slot : Pad := { slot with rx := right.1, ry := right.2 }
  let slot : Pad :=
    if c.invertLy then { slot with ly := if slot.ly = -32768 then 32767 else -slot.ly } else slot
  let slot : Pad :=
    if c.invertRy then { slot with ry := if slot.ry = -32768 then 32767 else -slot.ry } else slot
  let slot : Pad := { slot with lt := (buf (offset + 7)).toNat, rt := (buf (offset + 8)).toNat }
  let dz := if c.deadzone > 100 then 0 else c.deadzone
  let left := applyDeadzone A dz (slot.lx, slot.ly)
  let slot : Pad := { slot with lx := left.1, ly := left.2 }
  let right := applyDeadzone A dz (slot.rx, slot.ry)
  { slot with rx := right.1, ry := right.2 }

/-- `translate_ds4`, "Raw button reading". -/
def ds4PhyRaw (buf : Nat → UInt8) (offset : Nat) : Button → Bool :=
  let buttons := buf (offset + 4)
  let buttons2 := buf (offset + 5)
  let buttons3 := buf (offset + 6)
  let dpad := buttons &&& 0x0F
  fun
  | .square => testBits buttons 0x10
  | .cross => testBits buttons 0x20
  | .circle => testBits buttons 0x40
  | .triangle => testBits buttons 0x80
  | .dpadUp => dpad == 0 || dpad == 1 || dpad == 7
  | .dpadDown => dpad == 3 || dpad == 4 || dpad == 5
  | .dpadLeft => dpad == 5 || dpad == 6 || dpad == 7
  | .dpadRight => dpad == 1 || dpad == 2 || dpad == 3
  | .l1 => testBits buttons2 0x01
  | .r1 => testBits buttons2 0x02
  | .l2 => testBits buttons2 0x04
  | .r2 => testBits buttons2 0x08
  | .share => testBits buttons2 0x10
  | .options => testBits buttons2 0x20
  | .l3 => testBits buttons2 0x40
  | .r3 => testBits buttons2 0x80
  | .ps => testBits buttons3 0x01
  | .touch => testBits buttons3 0x02

/-- `translate_ds4`, "Send events to virtual device", one `emit` after the other. -/
def ds4Emits (c : Controller) (slot : Pad) (stable : Button → Bool) : List UinputEvent :=
  let trigDigital := c.isTriggerDigital
  let leftVal : Int :=
    if stable .l2 then if c.keymap Button.l2.phy == Button.l2.logical then slot.lt else 0
    else if slot.buttons .l2 then 255
    else 0
  let rightVal : Int :=
    if stable .r2 then if c.keymap Button.r2.phy == Button.r2.logical then slot.rt else 0
    else if slot.buttons .r2 then 255
    else 0
  let axes : List UinputEvent :=
    [(.absX, slot.lx), (.absY, slot.ly), (.absRx, slot.rx), (.absRy, slot.ry)]
  let triggerAxes : List UinputEvent :=
    if !trigDigital then [(.absZ, leftVal), (.absRz, rightVal)] else []
  let buttons : List UinputEvent :=
    [(.btnWest, keyValue (slot.buttons .triangle)), (.btnNorth, keyValue (slot.buttons .square)),
      (.btnSouth, keyValue (slot.buttons .cross)), (.btnEast, keyValue (slot.buttons .circle)),
      (.hat0x, slot.hatX), (.hat0y, slot.hatY),
      (.btnTl, keyValue (slot.buttons .l1)), (.btnTr, keyValue (slot.buttons .r1)),
      (.btnSelect, keyValue (slot.buttons .share)), (.btnStart, keyValue (slot.buttons .options)),
      (.btnThumbl, keyValue (slot.buttons .l3)), (.btnThumbr, keyValue (slot.buttons .r3)),
      (.btnMode, keyValue (slot.buttons .ps))]
  let triggerButtons : List UinputEvent :=
    if trigDigital then [(.btnTl2, keyValue (slot.buttons .l2)), (.btnTr2, keyValue (slot.buttons .r2))]
    else []
  axes ++ triggerAxes ++ buttons ++ triggerButtons

/-- **`translate_ds4`**: the driver's state it leaves and the events for an open device. -/
def translateDs4 (A : AxisMath) (c : Controller) (report : Report) (st : DriverState) :
    DriverState × List UinputEvent :=
  let buf := report.buf
  let offset := if buf 0 = 0x11 then 3 else 1
  let slot := ds4Sticks A c buf offset st.pad
  let raw := ds4PhyRaw buf offset
  let debounce : Button → Debounce :=
    if c.debounceEnabled then fun b => debouncePhysical (report.now b) (raw b) (st.debounce b)
    else st.debounce
  let stable : Button → Bool := if c.debounceEnabled then fun b => (debounce b).stable else raw
  let slot := slot.applyMap c.keymap stable
  let events := ds4Emits c slot stable
  (⟨{ slot with battery := ds4Battery (buf (offset + 29)) }, debounce⟩, events)

/-- `translate_dualsense`, "Analog sticks" to the deadzone, statement by statement. -/
def dualsenseSticks (A : AxisMath) (c : Controller) (buf : Nat → UInt8) (offset : Nat) (slot : Pad) : Pad :=
  let slot : Pad :=
    { slot with
      lx := safeNormalize (buf (offset + 0))
      ly := safeNormalize (buf (offset + 1))
      rx := safeNormalize (buf (offset + 2))
      ry := safeNormalize (buf (offset + 3)) }
  -- `apply_sensitivity_left`, `apply_sensitivity_right`
  let left := applySensitivity A c.sensitivityLeftPreset (slot.lx, slot.ly)
  let slot : Pad := { slot with lx := left.1, ly := left.2 }
  let right := applySensitivity A c.sensitivityRightPreset (slot.rx, slot.ry)
  let slot : Pad := { slot with rx := right.1, ry := right.2 }
  let slot : Pad :=
    if c.invertLy then { slot with ly := if slot.ly = -32768 then 32767 else -slot.ly } else slot
  let slot : Pad :=
    if c.invertRy then { slot with ry := if slot.ry = -32768 then 32767 else -slot.ry } else slot
  let slot : Pad := { slot with lt := (buf (offset + 4)).toNat, rt := (buf (offset + 5)).toNat }
  let dz := if c.deadzone > 100 then 0 else c.deadzone
  let left := applyDeadzone A dz (slot.lx, slot.ly)
  let slot : Pad := { slot with lx := left.1, ly := left.2 }
  let right := applyDeadzone A dz (slot.rx, slot.ry)
  { slot with rx := right.1, ry := right.2 }

/-- `translate_dualsense`, "Raw button reading". -/
def dualsensePhyRaw (buf : Nat → UInt8) (offset : Nat) : Button → Bool :=
  let buttonsMain := buf (offset + 7)
  let buttonsSys1 := buf (offset + 8)
  let buttonsSys2 := buf (offset + 9)
  let dpad := buttonsMain &&& 0x0F
  fun
  | .square => testBits buttonsMain 0x10
  | .cross => testBits buttonsMain 0x20
  | .circle => testBits buttonsMain 0x40
  | .triangle => testBits buttonsMain 0x80
  | .dpadUp => dpad == 0 || dpad == 1 || dpad == 7
  | .dpadDown => dpad == 3 || dpad == 4 || dpad == 5
  | .dpadLeft => dpad == 5 || dpad == 6 || dpad == 7
  | .dpadRight => dpad == 1 || dpad == 2 || dpad == 3
  | .l1 => testBits buttonsSys1 0x01
  | .r1 => testBits buttonsSys1 0x02
  | .l2 => testBits buttonsSys1 0x04
  | .r2 => testBits buttonsSys1 0x08
  | .share => testBits buttonsSys1 0x10
  | .options => testBits buttonsSys1 0x20
  | .l3 => testBits buttonsSys1 0x40
  | .r3 => testBits buttonsSys1 0x80
  | .ps => testBits buttonsSys2 0x01
  | .touch => testBits buttonsSys2 0x02

/-- `translate_dualsense`, "Send events to virtual device", one `emit` after the other. -/
def dualsenseEmits (c : Controller) (slot : Pad) (stable : Button → Bool) : List UinputEvent :=
  let trigDigital := c.isTriggerDigital
  let leftVal : Int :=
    if stable .l2 then if c.keymap Button.l2.phy == Button.l2.logical then slot.lt else 0
    else if slot.buttons .l2 then 255
    else 0
  let rightVal : Int :=
    if stable .r2 then if c.keymap Button.r2.phy == Button.r2.logical then slot.rt else 0
    else if slot.buttons .r2 then 255
    else 0
  let axes : List UinputEvent :=
    [(.absX, slot.lx), (.absY, slot.ly), (.absRx, slot.rx), (.absRy, slot.ry)]
  let triggerAxes : List UinputEvent :=
    if !trigDigital then [(.absZ, leftVal), (.absRz, rightVal)] else []
  let buttons : List UinputEvent :=
    [(.btnWest, keyValue (slot.buttons .triangle)), (.btnNorth, keyValue (slot.buttons .square)),
      (.btnSouth, keyValue (slot.buttons .cross)), (.btnEast, keyValue (slot.buttons .circle)),
      (.hat0x, slot.hatX), (.hat0y, slot.hatY),
      (.btnTl, keyValue (slot.buttons .l1)), (.btnTr, keyValue (slot.buttons .r1)),
      (.btnSelect, keyValue (slot.buttons .share)), (.btnStart, keyValue (slot.buttons .options)),
      (.btnThumbl, keyValue (slot.buttons .l3)), (.btnThumbr, keyValue (slot.buttons .r3)),
      (.btnMode, keyValue (slot.buttons .ps))]
  let triggerButtons : List UinputEvent :=
    if trigDigital then [(.btnTl2, keyValue (slot.buttons .l2)), (.btnTr2, keyValue (slot.buttons .r2))]
    else []
  axes ++ triggerAxes ++ buttons ++ triggerButtons

/-- **`translate_dualsense`**: the driver's state it leaves and the events for an open device. -/
def translateDualsense (A : AxisMath) (c : Controller) (report : Report) (st : DriverState) :
    DriverState × List UinputEvent :=
  let buf := report.buf
  let offset := if buf 0 = 0x31 then 2 else 1
  let slot := dualsenseSticks A c buf offset st.pad
  let raw := dualsensePhyRaw buf offset
  let debounce : Button → Debounce :=
    if c.debounceEnabled then fun b => debouncePhysical (report.now b) (raw b) (st.debounce b)
    else st.debounce
  let stable : Button → Bool := if c.debounceEnabled then fun b => (debounce b).stable else raw
  let slot := slot.applyMap c.keymap stable
  let events := dualsenseEmits c slot stable
  (⟨{ slot with battery := dualsenseBattery (buf (offset + 52)) }, debounce⟩, events)

/-! ## Each copy is the common form -/

section

variable (A : AxisMath) (c : Controller)

theorem ds4Sticks_eq (buf : Nat → UInt8) (slot : Pad) :
    ds4Sticks A c buf (ds4Format.offset buf) slot = translateSticks A ds4Format c buf slot := by
  unfold ds4Sticks translateSticks shapeStick
  cases c.invertLy <;> cases c.invertRy <;> rfl

theorem dualsenseSticks_eq (buf : Nat → UInt8) (slot : Pad) :
    dualsenseSticks A c buf (dualsenseFormat.offset buf) slot =
      translateSticks A dualsenseFormat c buf slot := by
  unfold dualsenseSticks translateSticks shapeStick
  cases c.invertLy <;> cases c.invertRy <;> rfl

theorem ds4PhyRaw_eq (buf : Nat → UInt8) : ds4PhyRaw buf (ds4Format.offset buf) = phyRaw ds4Format buf := by
  funext b
  cases b <;> rfl

theorem dualsensePhyRaw_eq (buf : Nat → UInt8) :
    dualsensePhyRaw buf (dualsenseFormat.offset buf) = phyRaw dualsenseFormat buf := by
  funext b
  cases b <;> rfl

theorem ds4Emits_eq (slot : Pad) (stable : Button → Bool) :
    ds4Emits c slot stable = translateEvents c slot stable := by
  unfold ds4Emits translateEvents emittedControls
  cases c.isTriggerDigital <;> rfl

theorem dualsenseEmits_eq (slot : Pad) (stable : Button → Bool) :
    dualsenseEmits c slot stable = translateEvents c slot stable := by
  unfold dualsenseEmits translateEvents emittedControls
  cases c.isTriggerDigital <;> rfl

/-- **`translate_ds4` is the common form**, at its own positions. -/
theorem translateDs4_eq (report : Report) (st : DriverState) :
    translateDs4 A c report st = translate A ds4Format c report st := by
  have hoffset : (if report.buf 0 = 0x11 then 3 else 1) = ds4Format.offset report.buf := rfl
  unfold translateDs4
  dsimp only
  rw [hoffset, ds4PhyRaw_eq, ds4Emits_eq, ds4Sticks_eq]
  rfl

/-- **`translate_dualsense` is the common form**, at its own positions. -/
theorem translateDualsense_eq (report : Report) (st : DriverState) :
    translateDualsense A c report st = translate A dualsenseFormat c report st := by
  have hoffset : (if report.buf 0 = 0x31 then 2 else 1) = dualsenseFormat.offset report.buf := rfl
  unfold translateDualsense
  dsimp only
  rw [hoffset, dualsensePhyRaw_eq, dualsenseEmits_eq, dualsenseSticks_eq]
  rfl

end

/-! ## What a report leaves -/

section

variable (A : AxisMath) (fmt : ReportFormat) (c : Controller) (report : Report) (st : DriverState)

theorem translatePad_value (t : Trigger) :
    t.value (translatePad A fmt c report st) = rawTrigger fmt report.buf t := by
  cases t <;> rfl

theorem translatePad_buttons :
    (translatePad A fmt c report st).buttons =
      keysApplyMap c.keymap (phyStable fmt report c.debounceEnabled st.debounce) := rfl

theorem rawTrigger_mem (buf : Nat → UInt8) (t : Trigger) :
    0 ≤ rawTrigger fmt buf t ∧ rawTrigger fmt buf t < 256 := by
  cases t with
  | left =>
      have h := (buf (fmt.offset buf + fmt.triggers)).toNat_lt
      show 0 ≤ ((buf (fmt.offset buf + fmt.triggers)).toNat : Int) ∧
        ((buf (fmt.offset buf + fmt.triggers)).toNat : Int) < 256
      omega
  | right =>
      have h := (buf (fmt.offset buf + fmt.triggers + 1)).toNat_lt
      show 0 ≤ ((buf (fmt.offset buf + fmt.triggers + 1)).toNat : Int) ∧
        ((buf (fmt.offset buf + fmt.triggers + 1)).toNat : Int) < 256
      omega

end

end Dstx
