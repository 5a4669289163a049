/-
# Dstx.Driver.InputLayouts — the two translators are ONE mapping, read through four layouts.

`docs/reverse-engineering.txt` gives the layouts of the input reports: DS4 and DualSense, each over USB and
over Bluetooth.  `InputFields` is what a report carries in any of them, and `translateFields` is the mapping
from the fields to the slot and the events, with no byte position in it.  `translate_eq_translateFields`
factors the common form of the translators through it; `translators_agree` compares the two copies, each by
the equation that makes it the common form: reports that carry the same fields leave the same slot, but for
the battery, and send the same events.
-/
import Dstx.Driver.Triggers
import Mathlib.Data.Nat.Bitwise

namespace Dstx

open Dstx.Lib

/-! ## What a report carries -/

/-- The fields of an input report. -/
structure InputFields where
  leftStickX : UInt8
  leftStickY : UInt8
  rightStickX : UInt8
  rightStickY : UInt8
  triggerLeft : UInt8
  triggerRight : UInt8
  /-- 0 is up, then clockwise to 7; 8 and more is released. -/
  dpad : Nat
  square : Bool
  cross : Bool
  circle : Bool
  triangle : Bool
  l1 : Bool
  r1 : Bool
  l2 : Bool
  r2 : Bool
  share : Bool
  options : Bool
  l3 : Bool
  r3 : Bool
  ps : Bool
  touchpad : Bool
  deriving DecidableEq

/-- A layout of the documentation: the report id, and the positions in the whole report of the first stick
byte, the first of the three button bytes and the first trigger byte. -/
structure InputLayout where
  reportId : UInt8
  sticks : Nat
  buttons : Nat
  triggers : Nat

def ds4Usb : InputLayout := ⟨0x01, 0x01, 0x05, 0x08⟩

def ds4Bluetooth : InputLayout := ⟨0x11, 0x03, 0x07, 0x0A⟩

/-- The offsets of the documentation count from the byte after the report id. -/
def dualsenseUsb : InputLayout := ⟨0x01, 1 + 0, 1 + 7, 1 + 4⟩

def dualsenseBluetooth : InputLayout := ⟨0x31, 2, 9, 6⟩

/-- **The fields of a report**, read by a layout. -/
def InputLayout.fields (l : InputLayout) (buf : Nat → UInt8) : InputFields :=
  let bit (byte k : Nat) : Bool := (buf (l.buttons + byte)).toNat.testBit k
  { leftStickX := buf l.sticks
    leftStickY := buf (l.sticks + 1)
    rightStickX := buf (l.sticks + 2)
    rightStickY := buf (l.sticks + 3)
    triggerLeft := buf l.triggers
    triggerRight := buf (l.triggers + 1)
    dpad := (buf l.buttons).toNat % 16
    square := bit 0 4
    cross := bit 0 5
    circle := bit 0 6
    triangle := bit 0 7
    l1 := bit 1 0
    r1 := bit 1 1
    l2 := bit 1 2
    r2 := bit 1 3
    share := bit 1 4
    options := bit 1 5
    l3 := bit 1 6
    r3 := bit 1 7
    ps := bit 2 0
    touchpad := bit 2 1 }

/-! ## The mapping -/

/-- The physical buttons. -/
def InputFields.raw (f : InputFields) : Button → Bool
  | .square => f.square
  | .cross => f.cross
  | .circle => f.circle
  | .triangle => f.triangle
  | .dpadUp => f.dpad == 0 || f.dpad == 1 || f.dpad == 7
  | .dpadDown => f.dpad == 3 || f.dpad == 4 || f.dpad == 5
  | .dpadLeft => f.dpad == 5 || f.dpad == 6 || f.dpad == 7
  | .dpadRight => f.dpad == 1 || f.dpad == 2 || f.dpad == 3
  | .l1 => f.l1
  | .r1 => f.r1
  | .l2 => f.l2
  | .r2 => f.r2
  | .share => f.share
  | .options => f.options
  | .l3 => f.l3
  | .r3 => f.r3
  | .ps => f.ps
  | .touch => f.touchpad

/-- **The mapping**: from the fields, the battery level and the clock to the driver's state and the
events. -/
def translateFields (A : AxisMath) (c : Controller) (f : InputFields) (battery : Int)
    (now : Button → UInt64) (debounce : Button → Debounce) : DriverState × List UinputEvent :=
  let debounce' : Button → Debounce :=
    if c.debounceEnabled then fun b => debouncePhysical (now b) (f.raw b) (debounce b) else debounce
  let stable : Button → Bool := if c.debounceEnabled then fun b => (debounce' b).stable else f.raw
  let left := shapeStick A c.sensitivityLeftPreset c.invertLy c.deadzone
    (safeNormalize f.leftStickX, safeNormalize f.leftStickY)
  let right := shapeStick A c.sensitivityRightPreset c.invertRy c.deadzone
    (safeNormalize f.rightStickX, safeNormalize f.rightStickY)
  let buttons := keysApplyMap c.keymap stable
  let pad : Pad :=
    { lx := left.1
      ly := left.2
      rx := right.1
      ry := right.2
      lt := f.triggerLeft.toNat
      rt := f.triggerRight.toNat
      buttons := buttons
      hatX := hatXOf buttons
      hatY := hatYOf buttons
      battery := battery }
  (⟨pad, debounce'⟩, translateEvents c pad stable)

/-- The battery is stored; nothing else depends on it. -/
theorem translateFields_battery (A : AxisMath) (c : Controller) (f : InputFields) (b b' : Int)
    (now : Button → UInt64) (debounce : Button → Debounce) :
    (translateFields A c f b now debounce).1 =
        { (translateFields A c f b' now debounce).1 with
          pad := { (translateFields A c f b' now debounce).1.pad with battery := b } } ∧
      (translateFields A c f b now debounce).2 = (translateFields A c f b' now debounce).2 :=
  ⟨rfl, rfl⟩

/-! ## The translators read the fields -/

/-- The layout a translator reads a report by. -/
def ReportFormat.layout (fmt : ReportFormat) (buf : Nat → UInt8) : InputLayout where
  reportId := buf 0
  sticks := fmt.offset buf
  buttons := fmt.offset buf + fmt.buttons
  triggers := fmt.offset buf + fmt.triggers

/-- A mask of one bit tests that bit. -/
theorem testBits_eq_testBit {mask : UInt8} {k : Nat} (hmask : mask.toNat = 2 ^ k) (byte : UInt8) :
    testBits byte mask = byte.toNat.testBit k := by
  have hand : (byte &&& mask).toNat = (byte.toNat.testBit k).toNat * 2 ^ k := by
    rw [UInt8.toNat_and, hmask, Nat.and_two_pow]
  unfold testBits
  cases hbit : byte.toNat.testBit k with
  | false =>
      have hzero : byte &&& mask = 0 := UInt8.toNat_inj.mp (by rw [hand, hbit]; simp)
      simp [hzero]
  | true =>
      have hne : byte &&& mask ≠ 0 := by
        intro h
        rw [h, hbit] at hand
        have hpos := Nat.two_pow_pos k
        simp at hand
        omega
      simp [hne]

/-- The low four bits, as a number. -/
theorem lowNibble_beq (byte d : UInt8) : ((byte &&& 0x0F) == d) = (byte.toNat % 16 == d.toNat) := by
  have hand : (byte &&& 0x0F).toNat = byte.toNat % 16 := by
    rw [UInt8.toNat_and]
    exact Nat.and_two_pow_sub_one_eq_mod byte.toNat 4
  rw [Bool.eq_iff_iff, beq_iff_eq, beq_iff_eq, ← hand, UInt8.toNat_inj]

/-- **The raw buttons of a translator are those of the fields.** -/
theorem phyRaw_eq (fmt : ReportFormat) (buf : Nat → UInt8) :
    phyRaw fmt buf = ((fmt.layout buf).fields buf).raw := by
  funext b
  cases b <;>
    simp only [phyRaw, InputFields.raw, InputLayout.fields, ReportFormat.layout, Nat.add_zero,
      lowNibble_beq]
  case cross => exact testBits_eq_testBit rfl _
  case circle => exact testBits_eq_testBit rfl _
  case square => exact testBits_eq_testBit rfl _
  case triangle => exact testBits_eq_testBit rfl _
  case l1 => exact testBits_eq_testBit rfl _
  case r1 => exact testBits_eq_testBit rfl _
  case l2 => exact testBits_eq_testBit rfl _
  case r2 => exact testBits_eq_testBit rfl _
  case share => exact testBits_eq_testBit rfl _
  case options => exact testBits_eq_testBit rfl _
  case l3 => exact testBits_eq_testBit rfl _
  case r3 => exact testBits_eq_testBit rfl _
  case ps => exact testBits_eq_testBit rfl _
  case touch => exact testBits_eq_testBit rfl _
  all_goals rfl

/-- The battery level a translator reads. -/
def ReportFormat.batteryOf (fmt : ReportFormat) (buf : Nat → UInt8) : Int :=
  fmt.batteryLevel (buf (fmt.offset buf + fmt.battery))

/-- **Both translators factor through the fields**, and forget what the pad was. -/
theorem translate_eq_translateFields (A : AxisMath) (fmt : ReportFormat) (c : Controller) (report : Report)
    (st : DriverState) :
    translate A fmt c report st =
      translateFields A c ((fmt.layout report.buf).fields report.buf) (fmt.batteryOf report.buf) report.now
        st.debounce := by
  unfold translate translatePad phyStable debounceAll translateFields
  rw [phyRaw_eq]
  rfl

/-! ## The comparison -/

/-- The layouts of the documentation are those `translate_ds4` reads by. -/
theorem ds4_layout {l : InputLayout} (hl : l = ds4Usb ∨ l = ds4Bluetooth) {buf : Nat → UInt8}
    (hid : buf 0 = l.reportId) : ds4Format.layout buf = l := by
  rcases hl with rfl | rfl <;>
    simp [ReportFormat.layout, ReportFormat.offset, hid, ds4Format, ds4Usb, ds4Bluetooth]

/-- The same for `translate_dualsense`. -/
theorem dualsense_layout {l : InputLayout} (hl : l = dualsenseUsb ∨ l = dualsenseBluetooth)
    {buf : Nat → UInt8} (hid : buf 0 = l.reportId) : dualsenseFormat.layout buf = l := by
  rcases hl with rfl | rfl <;>
    simp [ReportFormat.layout, ReportFormat.offset, hid, dualsenseFormat, dualsenseUsb, dualsenseBluetooth]

/-- **The two translators are the same mapping.**  A DS4 report and a DualSense report, each over USB or
Bluetooth, that carry the same fields in their layouts, translated with the same settings, the same curves,
the same debounce state and the same clock (whatever the pads were): the same debounce state, the same pad
but for the battery, and the same events in the same order. -/
theorem translators_agree (A : AxisMath) (c : Controller) {l₁ l₂ : InputLayout}
    (h₁ : l₁ = ds4Usb ∨ l₁ = ds4Bluetooth) (h₂ : l₂ = dualsenseUsb ∨ l₂ = dualsenseBluetooth)
    {buf₁ buf₂ : Nat → UInt8} (hid₁ : buf₁ 0 = l₁.reportId) (hid₂ : buf₂ 0 = l₂.reportId)
    (hfields : l₁.fields buf₁ = l₂.fields buf₂) (now : Button → UInt64) (pad₁ pad₂ : Pad)
    (debounce : Button → Debounce) :
    ∃ battery, (translateDs4 A c ⟨buf₁, now⟩ ⟨pad₁, debounce⟩).1 =
        { (translateDualsense A c ⟨buf₂, now⟩ ⟨pad₂, debounce⟩).1 with
          pad := { (translateDualsense A c ⟨buf₂, now⟩ ⟨pad₂, debounce⟩).1.pad with battery := battery } } ∧
      (translateDs4 A c ⟨buf₁, now⟩ ⟨pad₁, debounce⟩).2 =
        (translateDualsense A c ⟨buf₂, now⟩ ⟨pad₂, debounce⟩).2 := by
  have hds4 : translateDs4 A c ⟨buf₁, now⟩ ⟨pad₁, debounce⟩ =
      translateFields A c (l₁.fields buf₁) (ds4Format.batteryOf buf₁) now debounce := by
    rw [← ds4_layout h₁ hid₁, translateDs4_eq]
    exact translate_eq_translateFields A ds4Format c ⟨buf₁, now⟩ ⟨pad₁, debounce⟩
  have hdualsense : translateDualsense A c ⟨buf₂, now⟩ ⟨pad₂, debounce⟩ =
      translateFields A c (l₂.fields buf₂) (dualsenseFormat.batteryOf buf₂) now debounce := by
    rw [← dualsense_layout h₂ hid₂, translateDualsense_eq]
    exact translate_eq_translateFields A dualsenseFormat c ⟨buf₂, now⟩ ⟨pad₂, debounce⟩
  rw [hds4, hdualsense, hfields]
  exact ⟨_, translateFields_battery A c (l₂.fields buf₂) _ _ now debounce⟩

/-- A DS4 report over Bluetooth: cross, and the left trigger at 20. -/
def ds4Press : Nat → UInt8 := fun i =>
  if i = 0 then 0x11
  else if 3 ≤ i ∧ i ≤ 6 then 128
  else if i = 7 then 0x28
  else if i = 10 then 20
  else 0

/-- The same press in a DualSense report over USB. -/
def dualsensePress : Nat → UInt8 := fun i =>
  if i = 0 then 0x01
  else if 1 ≤ i ∧ i ≤ 4 then 128
  else if i = 5 then 20
  else if i = 8 then 0x28
  else 0

theorem translators_agree_press : ds4Bluetooth.fields ds4Press = dualsenseUsb.fields dualsensePress ∧
    ∃ battery, (translateDs4 exampleAxisMath initialController ⟨ds4Press, fun _ => 0⟩ restDriver).1 =
        { (translateDualsense exampleAxisMath initialController ⟨dualsensePress, fun _ => 0⟩
            restDriver).1 with
          pad :=
            { (translateDualsense exampleAxisMath initialController ⟨dualsensePress, fun _ => 0⟩
                restDriver).1.pad with
              battery := battery } } ∧
      (translateDs4 exampleAxisMath initialController ⟨ds4Press, fun _ => 0⟩ restDriver).2 =
        (translateDualsense exampleAxisMath initialController ⟨dualsensePress, fun _ => 0⟩ restDriver).2 :=
  ⟨by decide +kernel,
    translators_agree exampleAxisMath initialController (Or.inr rfl) (Or.inl rfl) rfl rfl
      (by decide +kernel) (fun _ => 0) restPad restPad restDriver.debounce⟩

end Dstx
