/-
# Dstx.Rumble.Pending — does a clear flag mean that the last report is up to date?

`rumble_dirty` and `led_dirty` say that cells hold values which no report has carried yet.  Writers store
the values and then the flag: the command line, the text interface, the D-Bus bridge and the settings thread
under the mutex, so in ONE step; the effect engine and the UHID handlers without it, so store by store
(`CellStore`).  The two pipelines read the flag, send, and clear the flag, in THREE steps: the mutex is
released in between.

A write that falls between the second and the third step is lost: its flag is cleared with it.
`ClearsWhatIsSent` excludes it, together with a report that was not written, and an unlocked store of a new
value under a clear flag.  In every run that meets the condition, a clear flag means what it says.

Only DS4 and DualSense slots are sent reports; for a Switch Pro see `Dstx.Rumble.NswCache`.
-/
import Dstx.Rumble.Layouts
import Dstx.Led.Engine

namespace Dstx

open Dstx.Lib

/-! ## What a report carries -/

/-- The cells that the LED bytes of a report are built from. -/
structure LedValues where
  colour : Rgb
  brightness : UInt8
  player : UInt8
  deriving DecidableEq

/-- The LED cells of a slot. -/
def Slot.ledValues (slot : Slot) : LedValues :=
  ⟨⟨slot.ledR, slot.ledG, slot.ledB⟩, slot.globalLedBrightness, slot.playerLeds⟩

/-- The bytes of a layout in which the controller looks for its LEDs: the colour, and before it the player
LEDs of a DualSense. -/
def Layout.ledOffsets : Layout → List Nat
  | .ds4Usb => [6, 7, 8]
  | .ds4Bt => [8, 9, 10]
  | .dualsenseUsb => [44, 45, 46, 47]
  | .dualsenseBt => [45, 46, 47, 48]

/-- What stands there for given cells, after validation. -/
def Layout.ledBytes (layout : Layout) (led : LedValues) : List UInt8 :=
  let level := clampU8 led.brightness.toNat 0 100 80
  let colour := [scaleLed led.colour.r level, scaleLed led.colour.g level, scaleLed led.colour.b level]
  match layout with
  | .ds4Usb | .ds4Bt => colour
  | .dualsenseUsb | .dualsenseBt => playerLedsToByte (clampU8 led.player.toNat 0 5 0) :: colour

/-- The LED bytes of a report. -/
def OutputReport.leds (report : OutputReport) : List UInt8 :=
  report.layout.ledOffsets.map fun i => report.bytes.getD i 0

/-- A report that was written, and the gain its motors were scaled by. -/
structure WrittenReport where
  report : OutputReport
  gain : UInt8

/-- **Every layout carries the LED cells where its controller looks for them.** -/
theorem leds_build (crc32 : UInt32 → List UInt8 → UInt32) (layout : Layout) (slot : Slot) :
    OutputReport.leds ⟨layout, layout.build crc32 slot.outputData⟩ = layout.ledBytes slot.ledValues := by
  cases layout <;> rfl

/-! ## Stores without the mutex -/

/-- One store into a cell that reports are built from, or into a flag. -/
inductive CellStore where
  | rumbleStrong (v : UInt8)
  | rumbleWeak (v : UInt8)
  | rumbleDirty
  | ledR (v : UInt8)
  | ledG (v : UInt8)
  | ledB (v : UInt8)
  | globalLedBrightness (v : UInt8)
  | playerLeds (v : UInt8)
  | ledDirty

/-- The slot after a store. -/
def CellStore.apply (slot : Slot) : CellStore → Slot
  | .rumbleStrong v => { slot with rumbleStrong := v }
  | .rumbleWeak v => { slot with rumbleWeak := v }
  | .rumbleDirty => { slot with rumbleDirty := true }
  | .ledR v => { slot with ledR := v }
  | .ledG v => { slot with ledG := v }
  | .ledB v => { slot with ledB := v }
  | .globalLedBrightness v => { slot with globalLedBrightness := v }
  | .playerLeds v => { slot with playerLeds := v }
  | .ledDirty => { slot with ledDirty := true }

/-- The stores of a colour, and of its flag. -/
def Rgb.stores (rgb : Rgb) : List CellStore := [.ledR rgb.r, .ledG rgb.g, .ledB rgb.b, .ledDirty]

/-- **`ledfx_update_slot`** — the stores of a frame, one by one. -/
theorem ledfxUpdate_stores {τ φ : Type} (M : LedMath τ φ) (slot : Slot) (pad : Pad) (now : Timeval)
    (currentTime : τ) (st : LedSlotState τ) :
    (ledfxUpdate M slot.connected pad now currentTime slot.toController st).2.1 = slot.toController ∨
      ∃ frame : Rgb,
        { slot with toController :=
            (ledfxUpdate M slot.connected pad now currentTime slot.toController st).2.1 } =
          frame.stores.foldl CellStore.apply slot := by
  unfold ledfxUpdate
  split_ifs
  · dsimp only
    split_ifs
    · exact Or.inr ⟨_, rfl⟩
    · exact Or.inl rfl
  · exact Or.inl rfl

/-- **The UHID handlers**, store by store: value, value, flag. -/
theorem storeUhidMotors_stores (data : List UInt8) (slot : Slot) :
    storeUhidMotors data slot = slot ∨
      ∃ strong weak, storeUhidMotors data slot =
        [CellStore.rumbleStrong strong, .rumbleWeak weak, .rumbleDirty].foldl CellStore.apply slot := by
  unfold storeUhidMotors
  split
  · rename_i strong weak _
    exact Or.inr ⟨scalePercent strong slot.rumbleGain, scalePercent weak slot.rumbleGain, rfl⟩
  · exact Or.inl rfl

/-- The stores of a command that reports are built from, in the order of the source. -/
def SlotChange.stores (slot : Slot) : SlotChange → List CellStore
  | .colour r g b | .colourNoEffect r g b => Rgb.stores ⟨toU8 r, toU8 g, toU8 b⟩
  | .static => Rgb.stores ⟨slot.ledBaseR, slot.ledBaseG, slot.ledBaseB⟩
  | .rumble on => if on then [] else [.rumbleStrong 0, .rumbleWeak 0, .rumbleDirty]
  | .brightness v => [.globalLedBrightness v, .ledDirty]
  | .playerLeds mode | .playerLedsStatic mode => [.playerLeds mode, .ledDirty]
  | .keybind _ _ | .defaultKeymap => [.ledDirty]
  | _ => []

/-- The cells of a slot that the pipelines read. -/
def Slot.outputCells (slot : Slot) : Motors × Bool × LedValues × Bool :=
  (slot.motors, slot.rumbleDirty, slot.ledValues, slot.ledDirty)

/-- **A command is its stores**, as far as the pipelines see; the mutex makes them one step. -/
theorem SlotChange.outputCells_apply (change : SlotChange) (slot : Slot) :
    (change.apply slot).outputCells = ((change.stores slot).foldl CellStore.apply slot).outputCells := by
  cases change with
  | rumble on => cases on <;> rfl
  | _ => rfl

/-! ## The system -/

/-- Where the worker of a slot is in its two pipelines. -/
inductive Pass where
  | idle
  /-- `rumble_process_pipeline` has decided to send; the clock reading. -/
  | rumbleDue (now : Timeval)
  /-- It has sent, and is about to clear the flag. -/
  | rumbleSent (now : Timeval)
  /-- `led_process_pipeline` has decided to send; the clock reading, and whether it is a retry. -/
  | ledDue (now : Timeval) (retry : Bool)
  | ledSent (now : Timeval) (retry : Bool)

/-- **A slot with its worker**, between two steps of a pipeline. -/
structure PendingWorld where
  slot : FfSlot
  pass : Pass
  lastRumbleTime : Timeval
  lastLedTime : Timeval
  lastExternalRetry : Timeval
  nsw : NswRumble
  last : Option WrittenReport

/-- Who moves. -/
inductive PendingMove where
  /-- A command of the command line, the text interface or the bridge, under the mutex. -/
  | command (change : SlotChange)
  /-- `profile_apply_to_shm` of the settings thread, under the mutex. -/
  | profile (cfg : SlotConfig)
  /-- A store of an effect engine or of a UHID handler. -/
  | store (cell : CellStore)
  | disconnect
  /-- The worker handles an event of the uinput device, under the mutex. -/
  | feedback (ev : FfEvent)
  /-- It finds that another program wrote to the device. -/
  | external (now : Timeval)
  | rumbleRead (now : Timeval)
  | rumbleSend (written : Bool) (replies : NswReplies)
  | rumbleClear
  | ledRead (now : Timeval)
  | ledSend (written : Bool)
  | ledClear

/-- A write to the slot. -/
def PendingWorld.write (w : PendingWorld) (slot : Slot) : PendingWorld :=
  { w with slot := { w.slot with toSlot := slot } }

/-- `send_output_report`: the snapshot under the mutex, and the write. -/
def PendingWorld.sendReport (crc32 : UInt32 → List UInt8 → UInt32) (written : Bool) (w : PendingWorld) :
    Option WrittenReport :=
  if written then
    ((sendOutputReport crc32 true w.slot.toSlot).map fun report =>
      ⟨report, clampU8 w.slot.rumbleGain.toNat 0 100 100⟩).or w.last
  else w.last

/-- The decision of `led_process_pipeline`: due or not, and whether as a retry. -/
def ledDue (now lastLed lastRetry : Timeval) (s : Slot) : Option Bool :=
  let retry := decide (s.externalRetryCount > 0)
  if !s.ledDirty && s.externalRetryCount == 0 then none
  else
    let timeoutUs :=
      if retry then ledRetryUs else if s.ledStatic then ledTimeoutUs else ledFastTimeoutUs
    if timevalDiffUs now (if retry then lastRetry else lastLed) ≥ timeoutUs then some retry else none

/-- **One step**; the worker handles events and starts a pipeline between two passes only. -/
def pendingStep (crc32 : UInt32 → List UInt8 → UInt32) (W : WaveMath) (move : PendingMove)
    (w : PendingWorld) : Option PendingWorld :=
  match move with
  | .command change => some (w.write (change.apply w.slot.toSlot))
  | .profile cfg => some (w.write (w.slot.toSlot.applyProfile cfg))
  | .store cell => some (w.write (cell.apply w.slot.toSlot))
  | .disconnect => some (w.write { w.slot.toSlot with connected := false })
  | .feedback ev =>
      match w.pass with
      | .idle => some { w with slot := handleFf W w.slot ev }
      | _ => none
  | .external now =>
      match w.pass with
      | .idle =>
          if w.slot.type ≠ .nswPro ∧ w.slot.ledReapply = true ∧ w.slot.ledStatic = true then
            some { w.write { w.slot.toSlot with externalRetryCount := 10, ledDirty := true } with
              lastExternalRetry := now }
          else some w
      | _ => none
  | .rumbleRead now =>
      match w.pass with
      | .idle =>
          let s := updatePeriodic W now w.slot
          if rumbleDue now w.lastRumbleTime s.toSlot then
            some { w with slot := s, pass := .rumbleDue now }
          else some { w with slot := s }
      | _ => none
  | .rumbleSend written replies =>
      match w.pass with
      | .rumbleDue now =>
          if w.slot.type = .nswPro then
            some { w with
              nsw := (nswSendRumble replies w.slot.toSlot w.nsw).1
              pass := .rumbleSent now }
          else some { w with last := w.sendReport crc32 written, pass := .rumbleSent now }
      | _ => none
  | .rumbleClear =>
      match w.pass with
      | .rumbleSent now =>
          some { w.write { w.slot.toSlot with rumbleDirty := false } with
            lastRumbleTime := now
            pass := .idle }
      | _ => none
  | .ledRead now =>
      match w.pass with
      | .idle =>
          if w.slot.type = .nswPro then none
          else
            match ledDue now w.lastLedTime w.lastExternalRetry w.slot.toSlot with
            | none => some w
            | some retry => some { w with pass := .ledDue now retry }
      | _ => none
  | .ledSend written =>
      match w.pass with
      | .ledDue now retry =>
          some { w with last := w.sendReport crc32 written, pass := .ledSent now retry }
      | _ => none
  | .ledClear =>
      match w.pass with
      | .ledSent now true =>
          let left := w.slot.externalRetryCount
          some { w.write { w.slot.toSlot with
              externalRetryCount := if left > 0 then left - 1 else left } with
            lastExternalRetry := now
            pass := .idle }
      | .ledSent now false =>
          some { w.write { w.slot.toSlot with ledDirty := false } with
            lastLedTime := now
            pass := .idle }
      | _ => none

/-- The worker of a slot right after its initial output. -/
def PendingWorld.start (crc32 : UInt32 → List UInt8 → UInt32) (slot : FfSlot) (now : Timeval)
    (nsw : NswRumble) (written : Bool) : PendingWorld :=
  let w : PendingWorld := ⟨slot, .idle, now, now, ⟨0, 0⟩, nsw, none⟩
  { w with last := w.sendReport crc32 written }

/-! ## A pass that nobody disturbs -/

/-- The same slot, clocks and context. -/
structure PendingWorld.Agrees (w : PendingWorld) (o : OutputWorld) : Prop where
  slot : w.slot = o.slot
  lastRumbleTime : w.lastRumbleTime = o.lastRumbleTime
  lastLedTime : w.lastLedTime = o.lastLedTime
  lastExternalRetry : w.lastExternalRetry = o.lastExternalRetry
  nsw : w.nsw = o.nsw

section Passes

variable {crc32 : UInt32 → List UInt8 → UInt32} {W : WaveMath} {env : PipelineEnv} {w : PendingWorld}
  {o : OutputWorld}

/-- **The three steps, one after the other, are `rumble_process_pipeline`.** -/
theorem exec_rumblePass (h : w.Agrees o) (hidle : w.pass = .idle)
    (hsends : (rumbleProcessPipeline crc32 W env o).2 = true) :
    ∃ w', exec (pendingStep crc32 W)
        [.rumbleRead env.now, .rumbleSend true env.nsw, .rumbleClear] w = some w' ∧
      w'.pass = .idle ∧ w'.Agrees (rumbleProcessPipeline crc32 W env o).1 := by
  unfold rumbleProcessPipeline at hsends ⊢
  dsimp only at hsends ⊢
  rw [← h.slot, ← h.lastRumbleTime] at hsends ⊢
  have hdue : rumbleDue env.now w.lastRumbleTime (updatePeriodic W env.now w.slot).toSlot = true := by
    cases hdue : rumbleDue env.now w.lastRumbleTime (updatePeriodic W env.now w.slot).toSlot with
    | true => rfl
    | false =>
        rw [hdue] at hsends
        cases hsends
  simp only [exec, pendingStep, hidle, if_pos hdue, Option.bind_some]
  split_ifs
  · exact ⟨_, rfl, rfl, ⟨rfl, rfl, h.lastLedTime, h.lastExternalRetry,
      congrArg (fun ctx => (nswSendRumble env.nsw _ ctx).1) h.nsw⟩⟩
  · exact ⟨_, rfl, rfl, ⟨rfl, rfl, h.lastLedTime, h.lastExternalRetry, h.nsw⟩⟩

/-- **And the steps of an LED pass are `led_process_pipeline`.** -/
theorem exec_ledPass (h : w.Agrees o) (hidle : w.pass = .idle) (htype : w.slot.type ≠ .nswPro)
    (hsends : (ledProcessPipeline crc32 env o).2 = true) :
    ∃ w', exec (pendingStep crc32 W) [.ledRead env.now, .ledSend true, .ledClear] w = some w' ∧
      w'.pass = .idle ∧ w'.Agrees (ledProcessPipeline crc32 env o).1 := by
  unfold ledProcessPipeline at hsends ⊢
  dsimp only at hsends ⊢
  rw [← h.slot, ← h.lastLedTime, ← h.lastExternalRetry] at hsends ⊢
  by_cases hnothing : (!w.slot.ledDirty && w.slot.externalRetryCount == 0) = true
  · rw [if_pos hnothing] at hsends
    cases hsends
  rw [if_neg hnothing] at hsends ⊢
  cases hretry : decide (w.slot.externalRetryCount > 0) with
  | true =>
      simp only [hretry, if_true] at hsends ⊢
      have htime : timevalDiffUs env.now w.lastExternalRetry ≥ ledRetryUs := by
        by_contra hearly
        rw [if_neg hearly] at hsends
        cases hsends
      have hdue : ledDue env.now w.lastLedTime w.lastExternalRetry w.slot.toSlot = some true := by
        simp only [ledDue, if_neg hnothing, hretry, if_true, if_pos htime]
      simp only [exec, pendingStep, hidle, if_neg htype, hdue, Option.bind_some, if_pos htime]
      refine ⟨_, rfl, rfl, ⟨?_, h.lastRumbleTime, rfl, rfl, h.nsw⟩⟩
      simp only [PendingWorld.write, if_pos (of_decide_eq_true hretry)]
  | false =>
      simp only [hretry, Bool.false_eq_true, if_false] at hsends ⊢
      have htime : timevalDiffUs env.now w.lastLedTime ≥
          if w.slot.ledStatic = true then ledTimeoutUs else ledFastTimeoutUs := by
        by_contra hearly
        rw [if_neg hearly] at hsends
        cases hsends
      have hdue : ledDue env.now w.lastLedTime w.lastExternalRetry w.slot.toSlot = some false := by
        simp only [ledDue, if_neg hnothing, hretry, Bool.false_eq_true, if_false, if_pos htime]
      simp only [exec, pendingStep, hidle, if_neg htype, hdue, Option.bind_some, if_pos htime]
      exact ⟨_, rfl, rfl, ⟨rfl, h.lastRumbleTime, rfl, rfl, h.nsw⟩⟩

end Passes

/-! ## The law and its condition -/

/-- The last report carries the motor cells, at the gain it was built with. -/
def PendingWorld.MotorsSent (w : PendingWorld) : Prop :=
  ∀ d, w.last = some d → d.report.motors = w.slot.toSlot.motors.scale d.gain

/-- The last report carries the LED cells. -/
def PendingWorld.LedsSent (w : PendingWorld) : Prop :=
  ∀ d, w.last = some d → d.report.leds = d.report.layout.ledBytes w.slot.toSlot.ledValues

/-- **No lost output update.** -/
def NoLostUpdate (w : PendingWorld) : Prop :=
  (w.slot.rumbleDirty = false → w.MotorsSent) ∧ (w.slot.ledDirty = false → w.LedsSent)

/-- What changes from `s` to `s'` is ANNOUNCED: where a flag is clear afterwards, it was clear before and
its values are the same. -/
structure Announces (s s' : Slot) : Prop where
  motors : s'.rumbleDirty = false → s.rumbleDirty = false ∧ s'.motors = s.motors
  leds : s'.ledDirty = false → s.ledDirty = false ∧ s'.ledValues = s.ledValues

/-- A write of the slot does not fall, with a new value, between the report of a pipeline and the store
that clears its flag. -/
structure OutsidePass (w : PendingWorld) (slot : Slot) : Prop where
  motors : ∀ now, w.pass = .rumbleSent now → slot.motors = w.slot.toSlot.motors
  leds : ∀ now, w.pass = .ledSent now false → slot.ledValues = w.slot.toSlot.ledValues

/-- A report is written to a connected slot. -/
def PendingWorld.Writes (w : PendingWorld) (written : Bool) : Prop :=
  written = true ∧ w.slot.connected = true

/-- **The condition on a step**: no new value comes between a report and the clearing of its flag; a value
stored without the mutex finds its flag set; and the report that a set flag asks for is written. -/
def ClearsWhatIsSent (move : PendingMove) (w : PendingWorld) : Prop :=
  match move with
  | .command change => OutsidePass w (change.apply w.slot.toSlot)
  | .profile cfg => OutsidePass w (w.slot.toSlot.applyProfile cfg)
  | .store cell =>
      OutsidePass w (cell.apply w.slot.toSlot) ∧ Announces w.slot.toSlot (cell.apply w.slot.toSlot)
  | .rumbleSend written _ =>
      w.slot.type ≠ .nswPro → w.slot.rumbleDirty = true → w.Writes written
  | .ledSend written =>
      (∃ now, w.pass = .ledDue now false) → w.slot.ledDirty = true → w.Writes written
  | _ => True

/-! ## Every locked write announces itself -/

theorem Announces.refl (s : Slot) : Announces s s := ⟨fun h => ⟨h, rfl⟩, fun h => ⟨h, rfl⟩⟩

/-- **Every command sets the flag of what it changes.** -/
theorem SlotChange.announces (change : SlotChange) (slot : Slot) :
    Announces slot (change.apply slot) := by
  cases change with
  | rumble on =>
      cases on with
      | true => exact ⟨fun h => ⟨h, rfl⟩, fun h => ⟨h, rfl⟩⟩
      | false => exact ⟨fun h => absurd h Bool.noConfusion, fun h => ⟨h, rfl⟩⟩
  -- these set `led_dirty`, so nothing is claimed of the LED cells
  | colour | colourNoEffect | static | brightness | playerLeds | playerLedsStatic | keybind
  | defaultKeymap => exact ⟨fun h => ⟨h, rfl⟩, fun h => absurd h Bool.noConfusion⟩
  | _ => exact ⟨fun h => ⟨h, rfl⟩, fun h => ⟨h, rfl⟩⟩

/-- No command changes the type of a controller. -/
theorem SlotChange.type_apply (change : SlotChange) (slot : Slot) :
    (change.apply slot).type = slot.type := by
  cases change with
  | rumble on => cases on <;> rfl
  | _ => rfl

theorem Slot.announces_applyProfile (cfg : SlotConfig) (slot : Slot) :
    Announces slot (slot.applyProfile cfg) :=
  ⟨fun h => ⟨h, rfl⟩, fun h => absurd h Bool.noConfusion⟩

theorem CellStore.type_apply (cell : CellStore) (slot : Slot) : (cell.apply slot).type = slot.type := by
  cases cell <;> rfl

/-- **Every force-feedback event** sets `rumble_dirty` with the values. -/
theorem handleFf_announces (W : WaveMath) (ev : FfEvent) (s : FfSlot) :
    Announces s.toSlot (handleFf W s ev).toSlot := by
  obtain ⟨hsettings, -⟩ := handleFf_frame (W := W) (s := s) ev
  have hleds : (handleFf W s ev).ledDirty = false →
      s.ledDirty = false ∧ (handleFf W s ev).toSlot.ledValues = s.toSlot.ledValues := by
    intro hclear
    refine ⟨(congrArg Controller.ledDirty hsettings).symm.trans hclear, ?_⟩
    show (⟨⟨_, _, _⟩, _, _⟩ : LedValues) = _
    rw [hsettings]
    rfl
  refine ⟨?_, hleds⟩
  -- only a start or a stop moves the motors, and both set the flag
  cases ev with
  | upload begun =>
      intro hclear
      have hframe := (rumbleHandleFfUpload_frame begun s).1
      change (rumbleHandleFfUpload begun s).1.rumbleDirty = false at hclear
      show _ ∧ (rumbleHandleFfUpload begun s).1.toSlot.motors = s.toSlot.motors
      rw [hframe] at hclear ⊢
      exact ⟨hclear, rfl⟩
  | other => exact (Announces.refl _).motors
  | play code value now =>
      show (rumbleHandleFfEvent W code value now s).rumbleDirty = false → _ ∧
        (rumbleHandleFfEvent W code value now s).toSlot.motors = _
      rcases rumbleHandleFfEvent_cases W code value now s with h | ⟨i, _, h⟩ | ⟨i, _, h⟩ | h
      · rw [h]
        exact (Announces.refl _).motors
      all_goals
        rw [h]
        intro hclear
        cases hclear

/-- The sampling of a periodic effect sets it too. -/
theorem updatePeriodic_announces (W : WaveMath) (now : Timeval) (s : FfSlot) :
    Announces s.toSlot (updatePeriodic W now s).toSlot := by
  unfold updatePeriodic
  split
  · split
    · exact .refl _
    · dsimp only
      split
      · exact ⟨fun h => absurd h Bool.noConfusion, fun h => ⟨h, rfl⟩⟩
      · exact .refl _
  · exact .refl _

/-! ## The invariant -/

/-- **Up to date**: the law, and the same for a pipeline that is about to clear its flag. -/
structure UpToDate (w : PendingWorld) : Prop where
  noReport : w.slot.type = .nswPro → w.last = none
  motors : w.slot.rumbleDirty = false → w.MotorsSent
  leds : w.slot.ledDirty = false → w.LedsSent
  motorsSent : ∀ now, w.pass = .rumbleSent now → w.MotorsSent
  ledsSent : ∀ now, w.pass = .ledSent now false → w.LedsSent

section Steps

variable {crc32 : UInt32 → List UInt8 → UInt32} {W : WaveMath} {w : PendingWorld}

theorem PendingWorld.MotorsSent.congr (h : w.MotorsSent) {w' : PendingWorld} (hlast : w'.last = w.last)
    (hmotors : w'.slot.toSlot.motors = w.slot.toSlot.motors) : w'.MotorsSent := by
  intro d hd
  rw [hmotors]
  exact h d (hlast.symm.trans hd)

theorem PendingWorld.LedsSent.congr (h : w.LedsSent) {w' : PendingWorld} (hlast : w'.last = w.last)
    (hleds : w'.slot.toSlot.ledValues = w.slot.toSlot.ledValues) : w'.LedsSent := by
  intro d hd
  rw [hleds]
  exact h d (hlast.symm.trans hd)

/-- **What a step that sends nothing and clears nothing must not do**: change values without announcing
them, or under a pipeline that has sent. -/
theorem UpToDate.announced (h : UpToDate w) {w' : PendingWorld} (hlast : w'.last = w.last)
    (htype : w'.slot.type = w.slot.type) (hann : Announces w.slot.toSlot w'.slot.toSlot)
    (hmotors : ∀ now, w'.pass = .rumbleSent now →
      w.pass = .rumbleSent now ∧ w'.slot.toSlot.motors = w.slot.toSlot.motors)
    (hleds : ∀ now, w'.pass = .ledSent now false →
      w.pass = .ledSent now false ∧ w'.slot.toSlot.ledValues = w.slot.toSlot.ledValues) :
    UpToDate w' where
  noReport := fun hnsw => hlast.trans (h.noReport (htype.symm.trans hnsw))
  motors := fun hclear => by
    obtain ⟨hwas, hsame⟩ := hann.motors hclear
    exact (h.motors hwas).congr hlast hsame
  leds := fun hclear => by
    obtain ⟨hwas, hsame⟩ := hann.leds hclear
    exact (h.leds hwas).congr hlast hsame
  motorsSent := fun now hpass => by
    obtain ⟨hwas, hsame⟩ := hmotors now hpass
    exact (h.motorsSent now hwas).congr hlast hsame
  ledsSent := fun now hpass => by
    obtain ⟨hwas, hsame⟩ := hleds now hpass
    exact (h.ledsSent now hwas).congr hlast hsame

/-- A write of the slot from outside. -/
theorem UpToDate.write (h : UpToDate w) {slot : Slot} (htype : slot.type = w.slot.type)
    (hann : Announces w.slot.toSlot slot) (hoff : OutsidePass w slot) : UpToDate (w.write slot) :=
  h.announced rfl htype hann (fun now hpass => ⟨hpass, hoff.motors now hpass⟩)
    (fun now hpass => ⟨hpass, hoff.leds now hpass⟩)

/-- The worker between two passes. -/
theorem UpToDate.work (h : UpToDate w) {w' : PendingWorld} (hlast : w'.last = w.last)
    (htype : w'.slot.type = w.slot.type) (hann : Announces w.slot.toSlot w'.slot.toSlot)
    (hmotors : ∀ now, w'.pass ≠ .rumbleSent now) (hleds : ∀ now, w'.pass ≠ .ledSent now false) :
    UpToDate w' :=
  h.announced hlast htype hann (fun now hpass => absurd hpass (hmotors now))
    (fun now hpass => absurd hpass (hleds now))

/-- A report that is written to a connected DS4 or DualSense carries the cells. -/
theorem sendReport_writes (crc32 : UInt32 → List UInt8 → UInt32) {written : Bool}
    (hwrites : w.Writes written) (htype : w.slot.type ≠ .nswPro) :
    ∃ d, w.sendReport crc32 written = some d ∧
      d.report.motors = w.slot.toSlot.motors.scale d.gain ∧
      d.report.leds = d.report.layout.ledBytes w.slot.toSlot.ledValues := by
  obtain ⟨rfl, hconn⟩ := hwrites
  have hlayout : ∃ layout, Layout.of w.slot.type w.slot.isBluetooth = some layout := by
    cases htype' : w.slot.type with
    | nswPro => exact absurd htype' htype
    | ds4 | dualsense => exact ⟨_, rfl⟩
  obtain ⟨layout, hlayout⟩ := hlayout
  refine ⟨⟨⟨layout, layout.build crc32 w.slot.toSlot.outputData⟩,
    clampU8 w.slot.rumbleGain.toNat 0 100 100⟩, ?_, ?_, ?_⟩
  · rw [PendingWorld.sendReport, if_pos rfl, w.slot.toSlot.sendOutputReport_eq hconn, hlayout]
    rfl
  · exact motors_build crc32 layout _
  · exact leds_build crc32 layout _

/-- A report that is not written leaves the last one. -/
theorem sendReport_not_writes (crc32 : UInt32 → List UInt8 → UInt32) {written : Bool}
    (hnot : ¬w.Writes written) :
    w.sendReport crc32 written = w.last := by
  unfold PendingWorld.sendReport
  split_ifs with hwritten
  · -- written, so it is the connection that is missing
    have hconn : w.slot.toSlot.connected = false := by
      cases hc : w.slot.toSlot.connected with
      | false => rfl
      | true => exact absurd ⟨hwritten, hc⟩ hnot
    rw [w.slot.toSlot.sendOutputReport_disconnected hconn]
    rfl
  · rfl

/-- No report is built for a Switch Pro. -/
theorem sendReport_nswPro {written : Bool} (hnsw : w.slot.type = .nswPro) :
    w.sendReport crc32 written = w.last := by
  by_cases hwrites : w.Writes written
  · have hconn : w.slot.toSlot.connected = true := hwrites.2
    rw [PendingWorld.sendReport, if_pos hwrites.1, w.slot.toSlot.sendOutputReport_eq hconn]
    show ((Layout.of w.slot.type _).map _ |>.map _).or w.last = w.last
    rw [hnsw]
    rfl
  · exact sendReport_not_writes crc32 hwrites

/-- Where no report was ever sent, nothing is out of date. -/
theorem UpToDate.nswPro (h : UpToDate w) (hnsw : w.slot.type = .nswPro) {w' : PendingWorld}
    (hlast : w'.last = w.last) : UpToDate w' := by
  have hnone : w'.last = none := hlast.trans (h.noReport hnsw)
  have hany : ∀ d, w'.last = some d → False := by
    intro d hd
    rw [hnone] at hd
    cases hd
  exact ⟨fun _ => hnone, fun _ d hd => (hany d hd).elim, fun _ d hd => (hany d hd).elim,
    fun _ _ d hd => (hany d hd).elim, fun _ _ d hd => (hany d hd).elim⟩

/-- **A report**, on its way to pass `p`: where it may be missing, the flag is clear. -/
theorem UpToDate.send (h : UpToDate w) (htype : w.slot.type ≠ .nswPro) {written : Bool} {p : Pass}
    (hmotors : ∀ now, p = .rumbleSent now → w.slot.rumbleDirty = true → w.Writes written)
    (hleds : ∀ now, p = .ledSent now false → w.slot.ledDirty = true → w.Writes written) :
    UpToDate { w with last := w.sendReport crc32 written, pass := p } := by
  by_cases hwrites : w.Writes written
  · obtain ⟨d, hd, hm, hl⟩ := sendReport_writes crc32 hwrites htype
    have hmsent : PendingWorld.MotorsSent { w with last := w.sendReport crc32 written, pass := p } := by
      intro d' hd'
      obtain rfl := Option.some.inj (hd.symm.trans hd')
      exact hm
    have hlsent : PendingWorld.LedsSent { w with last := w.sendReport crc32 written, pass := p } := by
      intro d' hd'
      obtain rfl := Option.some.inj (hd.symm.trans hd')
      exact hl
    exact ⟨fun hnsw => absurd hnsw htype, fun _ => hmsent, fun _ => hlsent, fun _ _ => hmsent,
      fun _ _ => hlsent⟩
  · -- the last report stays, and is up to date where the flag is clear
    have hlast := sendReport_not_writes crc32 hwrites
    refine ⟨fun hnsw => absurd hnsw htype, fun hclear => (h.motors hclear).congr hlast rfl,
      fun hclear => (h.leds hclear).congr hlast rfl, fun now hp => ?_, fun now hp => ?_⟩
    · cases hflag : w.slot.rumbleDirty with
      | true => exact absurd (hmotors now hp hflag) hwrites
      | false => exact (h.motors hflag).congr hlast rfl
    · cases hflag : w.slot.ledDirty with
      | true => exact absurd (hleds now hp hflag) hwrites
      | false => exact (h.leds hflag).congr hlast rfl

/-- A pipeline whose report is up to date clears its flag. -/
theorem UpToDate.clear (h : UpToDate w) {w' : PendingWorld} (hlast : w'.last = w.last)
    (htype : w'.slot.type = w.slot.type) (hidle : w'.pass = .idle)
    (hsame : w'.slot.toSlot.motors = w.slot.toSlot.motors)
    (hsame' : w'.slot.toSlot.ledValues = w.slot.toSlot.ledValues)
    (hmotors : w'.slot.rumbleDirty = false → w.MotorsSent)
    (hleds : w'.slot.ledDirty = false → w.LedsSent) : UpToDate w' where
  noReport := fun hnsw => hlast.trans (h.noReport (htype.symm.trans hnsw))
  motors := fun hclear => (hmotors hclear).congr hlast hsame
  leds := fun hclear => (hleds hclear).congr hlast hsame'
  motorsSent := fun _ hpass => absurd (hidle.symm.trans hpass) Pass.noConfusion
  ledsSent := fun _ hpass => absurd (hidle.symm.trans hpass) Pass.noConfusion

/-- **One step** under the condition. -/
theorem UpToDate.step (h : UpToDate w) {move : PendingMove} {w' : PendingWorld}
    (hok : ClearsWhatIsSent move w) (hstep : pendingStep crc32 W move w = some w') : UpToDate w' := by
  cases move with
  | command change =>
      obtain rfl := Option.some.inj hstep
      exact h.write (change.type_apply _) (change.announces _) hok
  | profile cfg =>
      obtain rfl := Option.some.inj hstep
      exact h.write rfl (Slot.announces_applyProfile cfg _) hok
  | store cell =>
      -- a single store announces itself by the condition only
      obtain rfl := Option.some.inj hstep
      exact h.write (cell.type_apply _) hok.2 hok.1
  | disconnect =>
      obtain rfl := Option.some.inj hstep
      exact h.write rfl ⟨fun hc => ⟨hc, rfl⟩, fun hc => ⟨hc, rfl⟩⟩ ⟨fun _ _ => rfl, fun _ _ => rfl⟩
  | feedback ev =>
      simp only [pendingStep] at hstep
      split at hstep
      · rename_i hpass
        obtain rfl := Option.some.inj hstep
        exact h.work rfl (handleFf_frame (W := W) ev).2 (handleFf_announces W ev _)
          (fun _ => by rw [hpass]; exact Pass.noConfusion)
          (fun _ => by rw [hpass]; exact Pass.noConfusion)
      · cases hstep
  | external now =>
      simp only [pendingStep] at hstep
      split at hstep
      · rename_i hpass
        split at hstep
        · obtain rfl := Option.some.inj hstep
          exact h.work rfl rfl ⟨fun hc => ⟨hc, rfl⟩, fun hc => absurd hc Bool.noConfusion⟩
            (fun _ => by show w.pass ≠ _; rw [hpass]; exact Pass.noConfusion)
            (fun _ => by show w.pass ≠ _; rw [hpass]; exact Pass.noConfusion)
        · obtain rfl := Option.some.inj hstep
          exact h
      · cases hstep
  | rumbleRead now =>
      simp only [pendingStep] at hstep
      split at hstep
      · rename_i hpass
        have htype := (updatePeriodic_frame (W := W) now w.slot).2.1
        have hann := updatePeriodic_announces W now w.slot
        split at hstep
        · obtain rfl := Option.some.inj hstep
          exact h.work rfl htype hann (fun _ => Pass.noConfusion) (fun _ => Pass.noConfusion)
        · obtain rfl := Option.some.inj hstep
          exact h.work rfl htype hann
            (fun _ => by rw [hpass]; exact Pass.noConfusion)
            (fun _ => by rw [hpass]; exact Pass.noConfusion)
      · cases hstep
  | rumbleSend written replies =>
      simp only [pendingStep] at hstep
      split at hstep
      · split at hstep
        · -- a Switch Pro is sent no report
          rename_i hnsw
          obtain rfl := Option.some.inj hstep
          exact h.nswPro hnsw rfl
        · rename_i hds
          obtain rfl := Option.some.inj hstep
          exact h.send hds (fun _ _ hflag => hok hds hflag) (fun _ hp => absurd hp Pass.noConfusion)
      · cases hstep
  | rumbleClear =>
      simp only [pendingStep] at hstep
      split at hstep
      · rename_i now hpass
        obtain rfl := Option.some.inj hstep
        -- whatever the flag said, this pass has sent the values
        exact h.clear rfl rfl rfl rfl rfl (fun _ => h.motorsSent now hpass) h.leds
      · cases hstep
  | ledRead now =>
      simp only [pendingStep] at hstep
      split at hstep
      · split at hstep
        · cases hstep
        · split at hstep
          · obtain rfl := Option.some.inj hstep
            exact h
          · obtain rfl := Option.some.inj hstep
            exact h.work rfl rfl (.refl _) (fun _ => Pass.noConfusion) (fun _ => Pass.noConfusion)
      · cases hstep
  | ledSend written =>
      simp only [pendingStep] at hstep
      split at hstep
      · rename_i now retry hpass
        obtain rfl := Option.some.inj hstep
        by_cases hnsw : w.slot.type = .nswPro
        · exact h.nswPro hnsw (sendReport_nswPro hnsw)
        · refine h.send hnsw (fun _ hp => absurd hp Pass.noConfusion) (fun now' hp hflag => ?_)
          obtain ⟨-, rfl⟩ := Pass.ledSent.inj hp
          exact hok ⟨now, hpass⟩ hflag
      · cases hstep
  | ledClear =>
      simp only [pendingStep] at hstep
      split at hstep
      · -- the retry leaves the flag alone
        obtain rfl := Option.some.inj hstep
        exact h.clear rfl rfl rfl rfl rfl h.motors h.leds
      · rename_i now hpass
        obtain rfl := Option.some.inj hstep
        exact h.clear rfl rfl rfl rfl rfl h.motors (fun _ => h.ledsSent now hpass)
      · cases hstep

/-- After the initial output the worker is up to date. -/
theorem upToDate_start (slot : FfSlot) (now : Timeval) (nsw : NswRumble) (written : Bool) :
    UpToDate (PendingWorld.start crc32 slot now nsw written) := by
  have hblank : UpToDate ⟨slot, .idle, now, now, ⟨0, 0⟩, nsw, none⟩ :=
    ⟨fun _ => rfl, fun _ d hd => absurd hd (Option.some_ne_none d).symm,
      fun _ d hd => absurd hd (Option.some_ne_none d).symm,
      fun _ _ d hd => absurd hd (Option.some_ne_none d).symm,
      fun _ _ d hd => absurd hd (Option.some_ne_none d).symm⟩
  by_cases hnsw : slot.type = .nswPro
  · exact hblank.nswPro hnsw (sendReport_nswPro hnsw)
  · exact hblank.send hnsw (fun _ hp => absurd hp Pass.noConfusion)
      (fun _ hp => absurd hp Pass.noConfusion)

end Steps

/-! ## Whole runs -/

/-- **No lost output update**, in every interleaving of writers with the two pipelines whose steps meet
the condition. -/
theorem no_lost_update {crc32 : UInt32 → List UInt8 → UInt32} {W : WaveMath} {slot : FfSlot}
    {now : Timeval} {nsw : NswRumble} {written : Bool} {w : PendingWorld}
    (hrun : Run (pendingStep crc32 W) ClearsWhatIsSent
      (PendingWorld.start crc32 slot now nsw written) w) : NoLostUpdate w := by
  have hend : UpToDate w :=
    hrun.invariant (fun move a b ha hok hstep => ha.step hok hstep) (upToDate_start slot now nsw written)
  exact ⟨hend.motors, hend.leds⟩

/-- A DualSense that has just been sent its initial report. -/
def examplePending : PendingWorld :=
  PendingWorld.start exampleCrc
    { exampleFfSlot with rumbleActive := true, rumbleGain := 100 }
    ⟨0, 0⟩ exampleOff.nsw true

/-- A command-line colour, and an LED pass after it. -/
theorem no_lost_update_colour :
    ∃ w, Run (pendingStep exampleCrc exampleWave) ClearsWhatIsSent examplePending w ∧
      w.slot.ledDirty = false ∧ w.slot.ledG = 128 ∧ w.last.isSome = true ∧ NoLostUpdate w := by
  have hrun : Run (pendingStep exampleCrc exampleWave) ClearsWhatIsSent examplePending
      (reached (pendingStep exampleCrc exampleWave)
        [.command (.colour 255 128 0), .ledRead ⟨1, 0⟩, .ledSend true, .ledClear] examplePending) := by
    refine .tail (.tail (.tail (.tail (.refl _) (a := .command (.colour 255 128 0)) ?_ rfl)
      (a := .ledRead ⟨1, 0⟩) trivial rfl) (a := .ledSend true) ?_ rfl) (a := .ledClear) trivial rfl
    · exact ⟨fun _ hpass => absurd hpass Pass.noConfusion, fun _ hpass => absurd hpass Pass.noConfusion⟩
    · exact fun _ _ => ⟨rfl, rfl⟩
  exact ⟨_, hrun, rfl, rfl, rfl, no_lost_update hrun⟩

/-- **A write between the report and the clearing of the flag is lost**: an effect at full strength is
started and its report written; `rumble off` clears the cells and sets the flag; then the pipeline clears
the flag.  The last report still has both motors at 255. -/
theorem rumble_off_lost :
    ∃ w d, Run (pendingStep exampleCrc exampleWave) free examplePending w ∧
      w.slot.rumbleDirty = false ∧ w.slot.toSlot.motors = ⟨0, 0⟩ ∧ w.last = some d ∧
      d.report.motors = ⟨255, 255⟩ ∧ ¬NoLostUpdate w := by
  obtain ⟨w, hrun, hw⟩ : ∃ w, Run (pendingStep exampleCrc exampleWave) free examplePending w ∧
      (!w.slot.rumbleDirty && decide (w.slot.toSlot.motors = ⟨0, 0⟩) &&
        decide (w.last.map (fun d => (d.report.motors, d.gain)) = some (⟨255, 255⟩, 100))) = true :=
    exists_run_of_exec
      (p := fun w : PendingWorld =>
        !w.slot.rumbleDirty && decide (w.slot.toSlot.motors = ⟨0, 0⟩) &&
          decide (w.last.map (fun d => (d.report.motors, d.gain)) = some (⟨255, 255⟩, 100)))
      [.feedback (.upload (some ⟨0, .rumble 0xFFFF 0xFFFF⟩)), .feedback (.play 0 1 ⟨1, 0⟩),
        .rumbleRead ⟨1, 0⟩, .rumbleSend true exampleEnv.nsw, .command (.rumble false), .rumbleClear]
      (by decide +kernel)
  simp only [Bool.and_eq_true, Bool.not_eq_true', decide_eq_true_eq] at hw
  obtain ⟨⟨hclear, hcells⟩, hlast⟩ := hw
  obtain ⟨d, hd, hcarried⟩ := Option.map_eq_some_iff.mp hlast
  obtain ⟨hmotors, hgain⟩ := Prod.mk.inj hcarried
  refine ⟨w, d, hrun, hclear, hcells, hd, hmotors, fun hlaw => ?_⟩
  have hsent := hlaw.1 hclear d hd
  rw [hmotors, hcells, hgain] at hsent
  revert hsent
  decide

end Dstx
