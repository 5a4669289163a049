/-
# Dstx.Rumble.Layouts — does a report say the same over USB and over Bluetooth?

The payload of an output report is the same on both transports; only the header in front of it is longer
over Bluetooth, by one byte on a DualSense and by two on a DS4.  The four builders of `output.c` are
written out by hand, byte by byte, so nothing but the byte numbers makes this true.

On a DualSense it is: EVERY payload byte corresponds (`dualsense_payload_shift`).  On a DS4 every byte
from the colour on does (`ds4_payload_shift`), and the two motors do not — the USB builder stores the
strong motor before the weak one, the Bluetooth builder the weak one first, as both tables of
`reverse-engineering.txt` have it.  So a DS4 report is independent of the transport exactly where the two
scaled motor values are equal.
-/
import Dstx.Rumble.Switch

namespace Dstx

/-! ## Payload fields -/

/-- The parts of the payload that a report of both transports carries. -/
inductive PayloadField where
  | weakMotor
  | strongMotor
  | ledRed
  | ledGreen
  | ledBlue
  /-- The two flag bytes of a DualSense. -/
  | flags0
  | flags1
  | playerLeds
  deriving DecidableEq

/-- Where the USB builder of a controller type stores a field. -/
def usbIndex : ControllerType → PayloadField → Option Nat
  | .ds4, .weakMotor => some 5
  | .ds4, .strongMotor => some 4
  | .ds4, .ledRed => some 6
  | .ds4, .ledGreen => some 7
  | .ds4, .ledBlue => some 8
  | .dualsense, .flags0 => some 1
  | .dualsense, .flags1 => some 2
  | .dualsense, .weakMotor => some 3
  | .dualsense, .strongMotor => some 4
  | .dualsense, .playerLeds => some 44
  | .dualsense, .ledRed => some 45
  | .dualsense, .ledGreen => some 46
  | .dualsense, .ledBlue => some 47
  | _, _ => none

/-- By how much the Bluetooth header is longer. -/
def bluetoothShift : ControllerType → Nat
  | .ds4 => 2
  | .dualsense => 1
  | .nswPro => 0

/-- The same slot on a given transport. -/
def Slot.onTransport (slot : Slot) (isBluetooth : Bool) : Slot := { slot with isBluetooth := isBluetooth }

/-- **Transport independence**: of the two reports built for a slot, each field of the payload is the same
at corresponding bytes. -/
def TransportIndependent (crc32 : UInt32 → List UInt8 → UInt32) (slot : Slot) : Prop :=
  ∀ usb bt, sendOutputReport crc32 true (slot.onTransport false) = some usb →
    sendOutputReport crc32 true (slot.onTransport true) = some bt →
    ∀ field i, usbIndex slot.type field = some i →
      bt.bytes.getD (i + bluetoothShift slot.type) 0 = usb.bytes.getD i 0

/-- The two motor cells scale to the same value: `rumble_gain`, at most 100, as a percentage of each. -/
def MotorsScaleAlike (slot : Slot) : Prop :=
  slot.rumbleStrong.toNat * min slot.rumbleGain.toNat 100 / 100 =
    slot.rumbleWeak.toNat * min slot.rumbleGain.toNat 100 / 100

instance (slot : Slot) : Decidable (MotorsScaleAlike slot) := inferInstanceAs (Decidable (_ = _))

/-! ## The builders, byte by byte -/

section Builders

variable (crc32 : UInt32 → List UInt8 → UInt32) (tmp : OutputData)

/-- Two lists with a common segment agree byte by byte on it. -/
theorem getD_of_segment_eq {xs ys : List UInt8} {m n k len : Nat}
    (h : (xs.take (m + len)).drop m = (ys.take (n + len)).drop n) (hk : k < len) :
    xs.getD (m + k) 0 = ys.getD (n + k) 0 := by
  have hget : ((xs.take (m + len)).drop m)[k]? = ((ys.take (n + len)).drop n)[k]? := by rw [h]
  rw [List.getElem?_drop, List.getElem?_drop, List.getElem?_take_of_lt (by omega),
    List.getElem?_take_of_lt (by omega)] at hget
  rw [List.getD_eq_getElem?_getD, List.getD_eq_getElem?_getD, hget]

/-- **Every payload byte of a DualSense report corresponds.** -/
theorem dualsense_payload_shift {i : Nat} (h1 : 1 ≤ i) (h2 : i < 48) :
    (buildDualsenseBtReport crc32 tmp).getD (i + 1) 0 = (buildDualsenseUsbReport tmp).getD i 0 := by
  have hsegment : ((buildDualsenseBtReport crc32 tmp).take (2 + 47)).drop 2 =
      ((buildDualsenseUsbReport tmp).take (1 + 47)).drop 1 := rfl
  obtain ⟨k, rfl⟩ := Nat.exists_eq_add_of_le h1
  have hbyte := getD_of_segment_eq hsegment (show k < 47 by omega)
  rwa [show 2 + k = 1 + k + 1 by omega] at hbyte

/-- **Every byte of a DS4 report behind the motors corresponds**: the colour first of all. -/
theorem ds4_payload_shift {i : Nat} (h1 : 6 ≤ i) (h2 : i < 32) :
    (buildDs4BtReport crc32 tmp).getD (i + 2) 0 = (buildDs4UsbReport tmp).getD i 0 := by
  have hsegment : ((buildDs4BtReport crc32 tmp).take (8 + 26)).drop 8 =
      ((buildDs4UsbReport tmp).take (6 + 26)).drop 6 := rfl
  obtain ⟨k, rfl⟩ := Nat.exists_eq_add_of_le h1
  have hbyte := getD_of_segment_eq hsegment (show k < 26 by omega)
  rwa [show 8 + k = 6 + k + 2 by omega] at hbyte

/-- The motors of a DS4 report, on either transport, at the byte of the STRONG motor over USB and at the
next one. -/
theorem ds4_motor_bytes :
    (buildDs4UsbReport tmp).getD 4 0 = tmp.motors.strong ∧
      (buildDs4UsbReport tmp).getD 5 0 = tmp.motors.weak ∧
      (buildDs4BtReport crc32 tmp).getD 6 0 = tmp.motors.weak ∧
      (buildDs4BtReport crc32 tmp).getD 7 0 = tmp.motors.strong := ⟨rfl, rfl, rfl, rfl⟩

end Builders

/-! ## The reports of a slot -/

section Reports

variable {crc32 : UInt32 → List UInt8 → UInt32} {slot : Slot}

/-- What the builders read of a slot: the same on either transport. -/
def Slot.outputData (slot : Slot) : OutputData where
  motors := slot.gainedMotors
  ledR := slot.ledR
  ledG := slot.ledG
  ledB := slot.ledB
  globalLedBrightness := clampU8 slot.globalLedBrightness.toNat 0 100 80
  playerLeds := clampU8 slot.playerLeds.toNat 0 5 0

/-- The report of a connected slot. -/
theorem Slot.sendOutputReport_eq (slot : Slot) (hconn : slot.connected = true) :
    sendOutputReport crc32 true slot =
      (Layout.of slot.type slot.isBluetooth).map fun layout =>
        ⟨layout, layout.build crc32 slot.outputData⟩ := by
  simp [sendOutputReport, hconn, Slot.outputData]

theorem Slot.sendOutputReport_disconnected (slot : Slot) {fd : Bool} (hconn : slot.connected = false) :
    sendOutputReport crc32 fd slot = none := by
  simp [sendOutputReport, hconn]

/-- Equal scaled motors, in the arithmetic of the sender. -/
theorem gainedMotors_eq_iff :
    slot.gainedMotors.strong = slot.gainedMotors.weak ↔ MotorsScaleAlike slot := by
  have hs := slot.rumbleStrong.toNat_lt
  have hw := slot.rumbleWeak.toNat_lt
  have hbound : ∀ v : Nat, v < 256 → v * min slot.rumbleGain.toNat 100 / 100 < 256 := by
    intro v hv
    have hle : v * min slot.rumbleGain.toNat 100 ≤ v * 100 :=
      Nat.mul_le_mul_left v (Nat.min_le_right _ _)
    omega
  have hstrong : slot.gainedMotors.strong.toNat =
      slot.rumbleStrong.toNat * min slot.rumbleGain.toNat 100 / 100 := by
    show (scalePercent slot.rumbleStrong (clampU8 slot.rumbleGain.toNat 0 100 100)).toNat = _
    rw [scalePercent_toNat_mod, clampU8_gain_toNat, Nat.mod_eq_of_lt (hbound _ hs)]
  have hweak : slot.gainedMotors.weak.toNat =
      slot.rumbleWeak.toNat * min slot.rumbleGain.toNat 100 / 100 := by
    show (scalePercent slot.rumbleWeak (clampU8 slot.rumbleGain.toNat 0 100 100)).toNat = _
    rw [scalePercent_toNat_mod, clampU8_gain_toNat, Nat.mod_eq_of_lt (hbound _ hw)]
  rw [← UInt8.toNat_inj, hstrong, hweak]
  exact Iff.rfl

/-- A DualSense is independent of the transport. -/
theorem transportIndependent_dualsense (htype : slot.type = .dualsense) :
    TransportIndependent crc32 slot := by
  intro usb bt husb hbt field i hi
  cases hconn : slot.connected with
  | false =>
      rw [(slot.onTransport false).sendOutputReport_disconnected hconn] at husb
      cases husb
  | true =>
      rw [(slot.onTransport false).sendOutputReport_eq hconn] at husb
      rw [(slot.onTransport true).sendOutputReport_eq hconn] at hbt
      have hu : slot.type = (slot.onTransport false).type := rfl
      have hb : slot.type = (slot.onTransport true).type := rfl
      rw [← hu, htype] at husb
      rw [← hb, htype] at hbt
      obtain rfl := Option.some.inj husb
      obtain rfl := Option.some.inj hbt
      rw [htype] at hi ⊢
      have hrange : 1 ≤ i ∧ i < 48 := by
        cases field <;> cases hi <;> omega
      exact dualsense_payload_shift crc32 slot.outputData hrange.1 hrange.2

/-- A connected DS4 is, exactly where the motors scale alike. -/
theorem transportIndependent_ds4_iff (htype : slot.type = .ds4) (hconn : slot.connected = true) :
    TransportIndependent crc32 slot ↔ MotorsScaleAlike slot := by
  have husb : sendOutputReport crc32 true (slot.onTransport false) =
      some ⟨.ds4Usb, buildDs4UsbReport slot.outputData⟩ := by
    rw [(slot.onTransport false).sendOutputReport_eq hconn]
    show (Layout.of slot.type false).map _ = _
    rw [htype]
    rfl
  have hbt : sendOutputReport crc32 true (slot.onTransport true) =
      some ⟨.ds4Bt, buildDs4BtReport crc32 slot.outputData⟩ := by
    rw [(slot.onTransport true).sendOutputReport_eq hconn]
    show (Layout.of slot.type true).map _ = _
    rw [htype]
    rfl
  obtain ⟨hu4, hu5, hb6, hb7⟩ := ds4_motor_bytes crc32 slot.outputData
  rw [← gainedMotors_eq_iff]
  constructor
  · intro hindep
    have hi : usbIndex slot.type .strongMotor = some 4 := by rw [htype]; rfl
    have hbytes := hindep _ _ husb hbt .strongMotor 4 hi
    rw [htype] at hbytes
    -- byte 6 over Bluetooth is the WEAK motor
    exact (hu4.symm.trans hbytes.symm).trans hb6
  · intro hequal usb bt husb' hbt' field i hi
    rw [husb] at husb'
    rw [hbt] at hbt'
    obtain rfl := Option.some.inj husb'
    obtain rfl := Option.some.inj hbt'
    rw [htype] at hi ⊢
    cases field with
    | weakMotor =>
        obtain rfl := Option.some.inj hi
        exact hb7.trans (hequal.trans hu5.symm)
    | strongMotor =>
        obtain rfl := Option.some.inj hi
        exact hb6.trans (hequal.symm.trans hu4.symm)
    | ledRed =>
        obtain rfl := Option.some.inj hi
        exact ds4_payload_shift crc32 _ (by decide) (by decide)
    | ledGreen =>
        obtain rfl := Option.some.inj hi
        exact ds4_payload_shift crc32 _ (by decide) (by decide)
    | ledBlue =>
        obtain rfl := Option.some.inj hi
        exact ds4_payload_shift crc32 _ (by decide) (by decide)
    | flags0 => cases hi
    | flags1 => cases hi
    | playerLeds => cases hi

/-- **Output is transport independent exactly** for a slot that is not a connected DS4, and for a
connected DS4 whose motor cells scale alike. -/
theorem transport_independent_iff (crc32 : UInt32 → List UInt8 → UInt32) (slot : Slot) :
    TransportIndependent crc32 slot ↔
      (slot.type = .ds4 → slot.connected = true → MotorsScaleAlike slot) := by
  cases hconn : slot.connected with
  | false =>
      refine iff_of_true ?_ ?_
      · intro usb bt husb
        rw [(slot.onTransport false).sendOutputReport_disconnected hconn] at husb
        cases husb
      · intro _ h
        cases h
  | true =>
      cases htype : slot.type with
      | ds4 =>
          rw [transportIndependent_ds4_iff htype hconn]
          exact ⟨fun h _ _ => h, fun h => h rfl rfl⟩
      | dualsense =>
          refine iff_of_true (transportIndependent_dualsense htype) ?_
          intro h
          cases h
      | nswPro =>
          refine iff_of_true ?_ ?_
          · intro usb bt _ _ field i hi
            rw [htype] at hi
            cases hi
          · intro h
            cases h

end Reports

/-- A connected DS4 with the strong motor at 200, the weak one off, and the gain at 100. -/
def exampleDs4 : Slot :=
  { exampleFfSlot.toSlot with
    type := .ds4
    connected := true
    rumbleStrong := 200
    rumbleWeak := 0
    rumbleGain := 100 }

/-- **The motors of a DS4 change places with the transport**: over USB byte 4 is 200, over Bluetooth the
corresponding byte 6 is 0. -/
theorem ds4_motors_swapped : ¬TransportIndependent exampleCrc exampleDs4 := by
  rw [transportIndependent_ds4_iff rfl rfl]
  decide

end Dstx
