/-
# Dstx.Rumble.Output — what goes to the physical controller, and who decides when.

Motor values enter the cells of a slot from the uinput device (`Dstx.Rumble.Effects`) and from the UHID
device (`uhid_handle_output`, `uhid_handle_set_report`).  They leave it in two ways:

* `send_output_report` builds one of FOUR layouts — DS4 or DualSense, USB or Bluetooth — and scales
  the motors by `rumble_gain`; both the rumble and the LED pipeline call it;
* `nsw_send_rumble` uploads an effect to a Switch Pro controller and plays it.

`OutputWorld` is a worker thread with everything it has sent, in order.  `crc32` is zlib's.
-/
import Dstx.Rumble.Effects

namespace Dstx

/-! ## Helpers -/

/-- `player_leds_to_byte`. -/
def playerLedsToByte (mode : UInt8) : UInt8 :=
  if mode > 5 then 0x00 else [0x00, 0x04, 0x06, 0x15, 0x1B, 0x1F].getD mode.toNat 0x00

/-- `(uint16_t)value * percent / 100`, stored in a `uint8_t`. -/
def scalePercent (value percent : UInt8) : UInt8 := toU8 ((value.toNat * percent.toNat / 100 : Nat) : Int)

/-- `scale_led`. -/
def scaleLed (value brightness : UInt8) : UInt8 := scalePercent value brightness

/-- `clamp_u8`. -/
def clampU8 (val : Int) (min max default : UInt8) : UInt8 :=
  if val < min.toNat ∨ val > max.toNat then default else toU8 val

/-- Both motors scaled. -/
def Motors.scale (m : Motors) (percent : UInt8) : Motors :=
  ⟨scalePercent m.strong percent, scalePercent m.weak percent⟩

/-! ## Report builders -/

/-- The copy of a slot that a builder reads (`tmp`). -/
structure OutputData where
  motors : Motors
  ledR : UInt8
  ledG : UInt8
  ledB : UInt8
  globalLedBrightness : UInt8
  playerLeds : UInt8

/-- `memset` to zero, and the stores of a builder in order. -/
def fillReport (size : Nat) (stores : List (Nat × UInt8)) : List UInt8 :=
  stores.foldl (fun report store => report.set store.1 store.2) (List.replicate size 0)

/-- The stores of the LED colour, from byte `i` on. -/
def OutputData.ledStores (tmp : OutputData) (i : Nat) : List (Nat × UInt8) :=
  [(i, scaleLed tmp.ledR tmp.globalLedBrightness), (i + 1, scaleLed tmp.ledG tmp.globalLedBrightness),
    (i + 2, scaleLed tmp.ledB tmp.globalLedBrightness)]

/-- The four bytes of a `uint32_t` in memory. -/
def bytesOfU32 (v : UInt32) : List UInt8 :=
  [v.toUInt8, (v >>> 8).toUInt8, (v >>> 16).toUInt8, (v >>> 24).toUInt8]

/-- The checksum of a Bluetooth report, over the header byte `0xA2` and the first 74 bytes, into the
last four. -/
def putCrc (crc32 : UInt32 → List UInt8 → UInt32) (report : List UInt8) : List UInt8 :=
  report.take 74 ++ bytesOfU32 (crc32 (crc32 (crc32 0 []) [0xA2]) (report.take 74))

/-- `build_ds4_usb_report`. -/
def buildDs4UsbReport (tmp : OutputData) : List UInt8 :=
  fillReport 32
    ([(0, 0x05), (1, 0x01 ||| 0x02 ||| 0x04), (2, 0x00), (4, tmp.motors.strong), (5, tmp.motors.weak)] ++
      tmp.ledStores 6 ++ [(9, 0x00), (10, 0x00)])

/-- `build_ds4_bt_report`. -/
def buildDs4BtReport (crc32 : UInt32 → List UInt8 → UInt32) (tmp : OutputData) : List UInt8 :=
  putCrc crc32
    (fillReport 78
      ([(0, 0x11), (1, 0x80), (3, 0x03), (6, tmp.motors.weak), (7, tmp.motors.strong)] ++
        tmp.ledStores 8))

/-- `build_dualsense_usb_report`. -/
def buildDualsenseUsbReport (tmp : OutputData) : List UInt8 :=
  fillReport 48
    ([(0, 0x02), (1, 0x01 ||| 0x02 ||| 0x10), (2, 0x01 ||| 0x02 ||| 0x04 ||| 0x10),
        (3, tmp.motors.weak), (4, tmp.motors.strong), (40, 0x02), (42, 0x00),
        (44, playerLedsToByte tmp.playerLeds)] ++
      tmp.ledStores 45)

/-- `build_dualsense_bt_report`. -/
def buildDualsenseBtReport (crc32 : UInt32 → List UInt8 → UInt32) (tmp : OutputData) : List UInt8 :=
  putCrc crc32
    (fillReport 78
      ([(0, 0x31), (1, 0x02), (2, 0x01 ||| 0x02 ||| 0x10), (3, 0x01 ||| 0x02 ||| 0x04 ||| 0x10),
          (4, tmp.motors.weak), (5, tmp.motors.strong), (41, 0x02), (44, 0x00),
          (45, playerLedsToByte tmp.playerLeds)] ++
        tmp.ledStores 46))

/-- The four layouts. -/
inductive Layout where
  | ds4Usb
  | ds4Bt
  | dualsenseUsb
  | dualsenseBt
  deriving DecidableEq

/-- The layout of a controller; none for a Switch Pro. -/
def Layout.of (type : ControllerType) (isBluetooth : Bool) : Option Layout :=
  match type with
  | .ds4 => some (if isBluetooth then .ds4Bt else .ds4Usb)
  | .dualsense => some (if isBluetooth then .dualsenseBt else .dualsenseUsb)
  | .nswPro => none

/-- The builder of a layout. -/
def Layout.build (crc32 : UInt32 → List UInt8 → UInt32) : Layout → OutputData → List UInt8
  | .ds4Usb => buildDs4UsbReport
  | .ds4Bt => buildDs4BtReport crc32
  | .dualsenseUsb => buildDualsenseUsbReport
  | .dualsenseBt => buildDualsenseBtReport crc32

/-- The bytes of a layout in which the controller looks for the strong and the weak motor. -/
def Layout.motorOffsets : Layout → Nat × Nat
  | .ds4Usb => (4, 5)
  | .ds4Bt => (7, 6)
  | .dualsenseUsb => (4, 3)
  | .dualsenseBt => (5, 4)

/-- A report as it is written to the device. -/
structure OutputReport where
  layout : Layout
  bytes : List UInt8
  deriving DecidableEq

/-- The motor values of a report. -/
def OutputReport.motors (report : OutputReport) : Motors :=
  ⟨report.bytes.getD report.layout.motorOffsets.1 0, report.bytes.getD report.layout.motorOffsets.2 0⟩

/-- The motor cells, scaled as they are sent: the gain is validated first. -/
def Slot.gainedMotors (slot : Slot) : Motors :=
  slot.motors.scale (clampU8 slot.rumbleGain.toNat 0 100 100)

/-- **`send_output_report`**; `fd` is whether the descriptor is open. -/
def sendOutputReport (crc32 : UInt32 → List UInt8 → UInt32) (fd : Bool) (slot : Slot) :
    Option OutputReport :=
  if !fd || !slot.connected then none
  else
    (Layout.of slot.type slot.isBluetooth).map fun layout =>
      { layout := layout
        bytes :=
          layout.build crc32
            { motors := slot.gainedMotors
              ledR := slot.ledR
              ledG := slot.ledG
              ledB := slot.ledB
              globalLedBrightness := clampU8 slot.globalLedBrightness.toNat 0 100 80
              playerLeds := clampU8 slot.playerLeds.toNat 0 5 0 } }

/-! ## UHID -/

/-- An event read from the UHID device; the data are the first `size` bytes. -/
inductive UhidEvent where
  | output (data : List UInt8)
  | setReport (rtype : UInt8) (data : List UInt8)
  | other

/-- The stores of both handlers: bytes 1 and 2 of a report of at least three, scaled by the gain. -/
def storeUhidMotors (data : List UInt8) (slot : Slot) : Slot :=
  match data with
  | _ :: strong :: weak :: _ =>
      { slot with
        rumbleStrong := scalePercent strong slot.rumbleGain
        rumbleWeak := scalePercent weak slot.rumbleGain
        rumbleDirty := true }
  | _ => slot

/-- **`uhid_handle_output`**. -/
def uhidHandleOutput (data : List UInt8) (slot : Slot) : Slot := storeUhidMotors data slot

/-- **`uhid_handle_set_report`**; the reply it writes does not depend on the slot. -/
def uhidHandleSetReport (rtype : UInt8) (data : List UInt8) (slot : Slot) : Slot :=
  if rtype = 2 then storeUhidMotors data slot else slot

/-- The loop body of `uhid_handle_events`. -/
def handleUhid (slot : Slot) : UhidEvent → Slot
  | .output data => uhidHandleOutput data slot
  | .setReport rtype data => uhidHandleSetReport rtype data slot
  | .other => slot

/-! ## The Switch Pro controller -/

/-- **What is sent to a physical controller.** -/
inductive Sent where
  | report (report : OutputReport)
  /-- `EVIOCSFF`: a rumble effect with its magnitudes. -/
  | effect (strongMagnitude weakMagnitude : UInt16)
  /-- `EV_FF` with value 1: the effect is played. -/
  | play (id : Nat)
  /-- `EV_FF` with value 0: the effect is stopped. -/
  | stop (id : Nat)

/-- The part of `nsw_context_t` that the output path uses; `effect_id` is -1 or an effect's id. -/
structure NswRumble where
  /-- Initialised, active and with an open event device. -/
  ready : Bool
  connected : Bool
  effectId : Option Nat
  lastStrong : UInt8
  lastWeak : UInt8
  lastRumbleTime : Timeval

/-- What the kernel answers during one call of `nsw_send_rumble`. -/
structure NswReplies where
  /-- `poll` failed, or reported `POLLHUP` or `POLLERR`. -/
  hangup : Bool
  now : Timeval
  stopWritten : Bool
  /-- The id that `EVIOCSFF` gave, if it succeeded. -/
  uploaded : Option Int
  playWritten : Bool

/-- `NSW_RUMBLE_RATE_LIMIT_US`. -/
def nswRumbleRateLimitUs : Int := 50000

/-- The stop of the effect of a context, where there is one. -/
def NswRumble.stopSent (ctx : NswRumble) : List Sent := ctx.effectId.toList.map .stop

/-- A new effect is uploaded and played, after the last one was stopped. -/
def nswNewEffect (target : Motors) (r : NswReplies) (ctx : NswRumble) : NswRumble × List Sent :=
  let cleared := { ctx with effectId := none }
  match r.uploaded with
  | none => (cleared, ctx.stopSent)
  | some id =>
      let sent := ctx.stopSent ++ [.effect (target.strong.toUInt16 * 257) (target.weak.toUInt16 * 257)]
      if 0 ≤ id then
        if r.playWritten then
          ({ cleared with
              effectId := some id.toNat
              lastStrong := target.strong
              lastWeak := target.weak
              lastRumbleTime := r.now }, sent ++ [.play id.toNat])
        else ({ cleared with effectId := some id.toNat }, sent)
      else (cleared, sent)

/-- **`nsw_send_rumble`**. -/
def nswSendRumble (r : NswReplies) (slot : Slot) (ctx : NswRumble) : NswRumble × List Sent :=
  if !ctx.ready || !ctx.connected then (ctx, [])
  else if !slot.rumbleActive then
    match ctx.effectId with
    | none => (ctx, [])
    | some _ => ({ ctx with effectId := none, lastStrong := 0, lastWeak := 0 }, ctx.stopSent)
  else if r.hangup then ({ ctx with connected := false }, [])
  else
    let target := slot.gainedMotors
    if target.strong = ctx.lastStrong ∧ target.weak = ctx.lastWeak then
      ({ ctx with lastRumbleTime := r.now }, [])
    else if target.strong = 0 ∧ target.weak = 0 then
      match ctx.effectId with
      | none => ({ ctx with lastStrong := 0, lastWeak := 0, lastRumbleTime := r.now }, [])
      | some _ =>
          if r.stopWritten then
            ({ ctx with effectId := none, lastStrong := 0, lastWeak := 0, lastRumbleTime := r.now },
              ctx.stopSent)
          else (ctx, [])
    else if timevalDiffUs r.now ctx.lastRumbleTime < nswRumbleRateLimitUs then
      -- the values are cached as sent, and nothing is sent
      ({ ctx with lastStrong := target.strong, lastWeak := target.weak }, [])
    else nswNewEffect target r ctx

/-! ## The pipelines -/

/-- `RUMBLE_TIMEOUT_US`. -/
def rumbleTimeoutUs : Int := 5000

/-- `RUMBLE_KEEPALIVE_US`. -/
def rumbleKeepaliveUs : Int := 20000

/-- `LED_TIMEOUT_US`. -/
def ledTimeoutUs : Int := 20000

/-- `LED_FAST_TIMEOUT_US`. -/
def ledFastTimeoutUs : Int := 5000

/-- The time between two tries to restore the LED against another program. -/
def ledRetryUs : Int := 100000

/-- **A worker thread**: its slot, its clocks, the Switch Pro context, and everything sent so far. -/
structure OutputWorld where
  slot : FfSlot
  lastRumbleTime : Timeval
  lastLedTime : Timeval
  lastExternalRetry : Timeval
  nsw : NswRumble
  sent : List Sent

/-- What the environment supplies to one call of a pipeline. -/
structure PipelineEnv where
  now : Timeval
  /-- The descriptor of the physical controller is open. -/
  fd : Bool
  nsw : NswReplies

/-- The periodic effect that is playing is sampled again (only on a Switch Pro). -/
def updatePeriodic (W : WaveMath) (now : Timeval) (s : FfSlot) : FfSlot :=
  if s.type = .nswPro ∧ s.activeEffectType = .periodic then
    match s.activeEffectId with
    | none => s
    | some i =>
        let newVal := computePeriodicWave W (s.periodicEffects i) now
        if newVal ≠ (s.periodicEffects i).lastValue then
          { applyWaveToRumble s newVal with
            rumbleDirty := true
            periodicEffects :=
              Function.update s.periodicEffects i { s.periodicEffects i with lastValue := newVal } }
        else s
  else s

/-- `should_send`, and the controller is connected. -/
def rumbleDue (now last : Timeval) (slot : Slot) : Bool :=
  let elapsed := timevalDiffUs now last
  ((slot.rumbleDirty && decide (elapsed ≥ rumbleTimeoutUs)) ||
      ((decide (slot.rumbleStrong > 0) || decide (slot.rumbleWeak > 0)) &&
        decide (elapsed ≥ rumbleKeepaliveUs))) &&
    slot.connected

/-- **`rumble_process_pipeline`**, and whether it came to a write. -/
def rumbleProcessPipeline (crc32 : UInt32 → List UInt8 → UInt32) (W : WaveMath) (env : PipelineEnv)
    (w : OutputWorld) : OutputWorld × Bool :=
  let s := updatePeriodic W env.now w.slot
  if rumbleDue env.now w.lastRumbleTime s.toSlot then
    let w := { w with slot := { s with rumbleDirty := false }, lastRumbleTime := env.now }
    if s.type = .nswPro then
      let out := nswSendRumble env.nsw s.toSlot w.nsw
      ({ w with nsw := out.1, sent := w.sent ++ out.2 }, true)
    else
      ({ w with sent := w.sent ++ ((sendOutputReport crc32 env.fd s.toSlot).map Sent.report).toList },
        true)
  else ({ w with slot := s }, false)

/-- **`led_process_pipeline`**, and whether it came to a write. -/
def ledProcessPipeline (crc32 : UInt32 → List UInt8 → UInt32) (env : PipelineEnv) (w : OutputWorld) :
    OutputWorld × Bool :=
  let s := w.slot
  let retry := decide (s.externalRetryCount > 0)
  if !s.ledDirty && s.externalRetryCount == 0 then (w, false)
  else
    let timeoutUs :=
      if retry then ledRetryUs else if s.ledStatic then ledTimeoutUs else ledFastTimeoutUs
    let last := if retry then w.lastExternalRetry else w.lastLedTime
    if timevalDiffUs env.now last ≥ timeoutUs then
      let w :=
        { w with
          sent := w.sent ++ ((sendOutputReport crc32 env.fd s.toSlot).map Sent.report).toList }
      if retry then
        ({ w with
            slot := { s with externalRetryCount := s.externalRetryCount - 1 }
            lastExternalRetry := env.now }, true)
      else ({ w with slot := { s with ledDirty := false }, lastLedTime := env.now }, true)
    else (w, false)

/-! ## Lemmas about reports -/

/-- **Every layout carries the two motor values where its controller looks for them.** -/
theorem motors_build (crc32 : UInt32 → List UInt8 → UInt32) (layout : Layout) (tmp : OutputData) :
    OutputReport.motors ⟨layout, layout.build crc32 tmp⟩ = tmp.motors := by
  cases layout <;> rfl

/-- **What a sent report carries**: the scaled motor cells. -/
theorem motors_sendOutputReport {crc32 : UInt32 → List UInt8 → UInt32} {fd : Bool} {slot : Slot}
    {report : OutputReport} (h : sendOutputReport crc32 fd slot = some report) :
    slot.type ≠ .nswPro ∧ report.motors = slot.gainedMotors := by
  unfold sendOutputReport at h
  split_ifs at h
  obtain ⟨layout, hlayout, rfl⟩ := Option.map_eq_some_iff.mp h
  refine ⟨fun htype => ?_, motors_build crc32 layout _⟩
  rw [htype] at hlayout
  cases hlayout

end Dstx
