/-
# Dstx.Daemon.UhidRecords — what the worker writes to the UHID device.

The UHID device takes `struct uhid_event` records.  The worker writes them in five places: creation,
destruction, the replies to two requests, and `uhid_send_input`.  But it ALSO hands the UHID descriptor
to `translate_ds4` or `translate_dualsense` — `target_fd = use_uhid ? uhid_fd : ufd` — whose `emit`
writes a uinput `struct input_event` for every control to whatever descriptor it is given.

So in UHID mode every input report puts some twenty foreign records in front of its one proper one
(`uhid_records_iff`): the device sees only `uhid_event` records exactly as long as no report comes in.
-/
import Dstx.Daemon.VirtualDevice
import Dstx.Driver.Triggers

namespace Dstx

open Dstx.Lib

/-! ## Records -/

/-- The two controllers whose reports the worker translates. -/
inductive SonyPad where
  | ds4
  | dualsense

/-- `slot->type`. -/
def SonyPad.type : SonyPad → ControllerType
  | .ds4 => .ds4
  | .dualsense => .dualsense

/-- The format its translator reads. -/
def SonyPad.format : SonyPad → ReportFormat
  | .ds4 => ds4Format
  | .dualsense => dualsenseFormat

/-- The device behind a descriptor of the worker. -/
inductive VirtualKind where
  | uinput
  | uhid
  deriving DecidableEq

/-- A `struct uhid_event` that the worker writes, by its type. -/
inductive UhidOut where
  | create2
  | destroy
  | getReportReply
  | setReportReply
  | input2 (size : Nat) (data : Nat → UInt8)

/-- One `write` to a virtual device. -/
inductive DeviceRecord where
  /-- `struct input_event`: a control and its value. -/
  | inputEvent (ev : UinputEvent)
  /-- `struct input_event`: `EV_SYN`, `SYN_REPORT`. -/
  | synReport
  /-- A complete `struct uhid_event`. -/
  | uhidEvent (ev : UhidOut)

/-- **The worker of a DS4 or DualSense slot**, with everything written to its virtual devices so far.
What `setup_uinput_indexed` writes to the descriptor it is about to return is left out. -/
structure RecordWorker where
  devices : VirtualDevices
  /-- The worker's copy of `is_uhid`. -/
  useUhid : Bool
  settings : Controller
  driver : DriverState
  written : List (VirtualKind × DeviceRecord)

/-- `uhid_write_event`, to the UHID descriptor. -/
def toUhid (ev : UhidOut) : VirtualKind × DeviceRecord := (.uhid, .uhidEvent ev)

/-! ## Writes -/

/-- `UHID_REPORT_SIZE`. -/
def uhidReportSize : Nat := 64

/-- `uhid_send_input`; `fd` is whether the descriptor is open. -/
def uhidSendInput (fd : Bool) (data : Nat → UInt8) (size : Nat) : List (VirtualKind × DeviceRecord) :=
  if !fd || size == 0 || decide (size > uhidReportSize) then [] else [toUhid (.input2 size data)]

/-- `emit` for the events of a report and the `SYN_REPORT` behind them; nothing without a descriptor. -/
def emitAll (target : Option VirtualKind) (events : List UinputEvent) :
    List (VirtualKind × DeviceRecord) :=
  match target with
  | none => []
  | some kind => events.map (fun ev => (kind, .inputEvent ev)) ++ [(kind, .synReport)]

/-- `int target_fd = use_uhid ? uhid_fd : ufd`, as the device it belongs to. -/
def RecordWorker.target (w : RecordWorker) : Option VirtualKind :=
  if w.useUhid then w.devices.uhidFd.map fun _ => .uhid else w.devices.ufd.map fun _ => .uinput

/-- A request read from the UHID device. -/
inductive UhidQuery where
  | getReport
  | setReport
  /-- `UHID_OUTPUT` and the events that are only logged: no reply. -/
  | other

/-- The reply of `uhid_handle_events`. -/
def UhidQuery.reply : UhidQuery → List (VirtualKind × DeviceRecord)
  | .getReport => [toUhid .getReportReply]
  | .setReport => [toUhid .setReportReply]
  | .other => []

/-- The records of a pass of the device management: a UHID device that goes is told so, one that comes is
created.  (What a FAILED creation wrote went to a descriptor that is closed again.) -/
def passRecords (before after : VirtualDevices) : List (VirtualKind × DeviceRecord) :=
  (if before.uhidFd.isSome && after.uhidFd.isNone then [toUhid .destroy] else []) ++
    if before.uhidFd.isNone && after.uhidFd.isSome then [toUhid .create2] else []

/-! ## The worker -/

/-- Who moves. -/
inductive RecordMove where
  /-- Any settings are changed. -/
  | settings (c : Controller)
  /-- The virtual device management of an iteration. -/
  | pass (p : DevicePass)
  /-- A report was read from the controller; `buf` is what the report buffer held. -/
  | input (r : Report) (buf : Nat → UInt8)
  /-- `uhid_handle_events`. -/
  | queries (qs : List UhidQuery)
  /-- The loop ends and the devices go. -/
  | finish

section

variable (A : AxisMath) (pad : SonyPad)

/-- **Read and translate**: the translator with the target descriptor and, in UHID mode, the report. -/
def readAndTranslate (r : Report) (buf : Nat → UInt8) (w : RecordWorker) : RecordWorker :=
  let out := translate A pad.format w.settings r w.driver
  let report := uhidBuildInputReport w.settings out.1.pad buf 64
  { w with
    driver := out.1
    written :=
      w.written ++ emitAll w.target out.2 ++
        if w.useUhid && w.devices.uhidFd.isSome then
          if report.1 > 0 then uhidSendInput w.devices.uhidFd.isSome report.2 report.1 else []
        else [] }

/-- **One step.** -/
def recordStep (move : RecordMove) (w : RecordWorker) : Option RecordWorker :=
  match move with
  | .settings c => some { w with settings := c }
  | .pass p =>
      let devices := manageDevices pad.type p w.devices
      some
        { w with
          useUhid := p.useUhid
          devices := devices
          written := w.written ++ passRecords w.devices devices }
  | .input r buf => some (readAndTranslate A pad r buf w)
  | .queries qs =>
      if w.devices.uhidFd.isSome then
        some { w with written := w.written ++ qs.flatMap UhidQuery.reply }
      else none
  | .finish =>
      some
        { w with
          devices := noDevices
          written := w.written ++ passRecords w.devices noDevices }

end

/-- A worker at the start of its loop. -/
def startRecordWorker (c : Controller) (driver : DriverState) : RecordWorker :=
  ⟨noDevices, false, c, driver, []⟩

/-! ## The property and its condition -/

/-- A record that the UHID device may get: a complete `uhid_event`, unless it went to uinput. -/
def FitForUhid (r : VirtualKind × DeviceRecord) : Prop := r.1 = .uhid → ∃ ev, r.2 = .uhidEvent ev

/-- **Every record written to the UHID descriptor is a complete `uhid_event`.** -/
def OnlyUhidEvents (w : RecordWorker) : Prop := ∀ r ∈ w.written, FitForUhid r

/-- **The condition on a step**: no report is read while the worker is in UHID mode with its UHID device
open. -/
def NoInputInUhidMode (move : RecordMove) (w : RecordWorker) : Prop :=
  match move with
  | .input _ _ => ¬(w.useUhid = true ∧ w.devices.uhidFd.isSome = true)
  | _ => True

/-! ## One step -/

theorem fitForUhid_toUhid (ev : UhidOut) : FitForUhid (toUhid ev) := fun _ => ⟨ev, rfl⟩

theorem onlyUhidEvents_append {w : RecordWorker} {new : List (VirtualKind × DeviceRecord)}
    (h : OnlyUhidEvents w) (hnew : ∀ r ∈ new, FitForUhid r) : ∀ r ∈ w.written ++ new, FitForUhid r := by
  intro r hr
  rcases List.mem_append.mp hr with hold | hin
  · exact h r hold
  · exact hnew r hin

theorem fitForUhid_passRecords {before after : VirtualDevices} {r : VirtualKind × DeviceRecord}
    (hr : r ∈ passRecords before after) : FitForUhid r := by
  unfold passRecords at hr
  rcases List.mem_append.mp hr with h | h
  · split_ifs at h
    · rw [List.mem_singleton.mp h]
      exact fitForUhid_toUhid _
    · cases h
  · split_ifs at h
    · rw [List.mem_singleton.mp h]
      exact fitForUhid_toUhid _
    · cases h

theorem fitForUhid_reply {qs : List UhidQuery} {r : VirtualKind × DeviceRecord}
    (hr : r ∈ qs.flatMap UhidQuery.reply) : FitForUhid r := by
  obtain ⟨q, -, hq⟩ := List.mem_flatMap.mp hr
  cases q with
  | getReport =>
      rw [List.mem_singleton.mp hq]
      exact fitForUhid_toUhid _
  | setReport =>
      rw [List.mem_singleton.mp hq]
      exact fitForUhid_toUhid _
  | other => cases hq

theorem fitForUhid_uhidSendInput {fd : Bool} {data : Nat → UInt8} {size : Nat}
    {r : VirtualKind × DeviceRecord} (hr : r ∈ uhidSendInput fd data size) : FitForUhid r := by
  unfold uhidSendInput at hr
  split_ifs at hr
  · cases hr
  · rw [List.mem_singleton.mp hr]
    exact fitForUhid_toUhid _

/-- What `emit` writes to a uinput device, or to none, never reaches the UHID device. -/
theorem fitForUhid_emitAll {target : Option VirtualKind} (htarget : target ≠ some .uhid)
    {events : List UinputEvent} {r : VirtualKind × DeviceRecord} (hr : r ∈ emitAll target events) :
    FitForUhid r := by
  intro huhid
  exfalso
  unfold emitAll at hr
  -- every record carries the kind of the target
  cases target with
  | none => cases hr
  | some kind =>
      refine htarget ?_
      rw [← huhid]
      rcases List.mem_append.mp hr with h | h
      · obtain ⟨ev, -, rfl⟩ := List.mem_map.mp h
        rfl
      · rw [List.mem_singleton.mp h]

/-- The target is the UHID device exactly in UHID mode with the device open. -/
theorem target_eq_uhid_iff {w : RecordWorker} :
    w.target = some .uhid ↔ w.useUhid = true ∧ w.devices.uhidFd.isSome = true := by
  unfold RecordWorker.target
  cases w.useUhid with
  | true => cases w.devices.uhidFd <;> simp
  | false => cases w.devices.ufd <;> simp

section

variable {A : AxisMath} {pad : SonyPad} {w w' : RecordWorker}

/-- **A report** keeps the records clean exactly when its target is not the UHID device: `SYN_REPORT`, at
the least, goes to the target. -/
theorem onlyUhidEvents_readAndTranslate (h : OnlyUhidEvents w) (r : Report) (buf : Nat → UInt8) :
    OnlyUhidEvents (readAndTranslate A pad r buf w) ↔
      ¬(w.useUhid = true ∧ w.devices.uhidFd.isSome = true) := by
  rw [← target_eq_uhid_iff]
  constructor
  · intro hclean htarget
    -- `SYN_REPORT` is no `uhid_event`
    have hmem :
        (VirtualKind.uhid, DeviceRecord.synReport) ∈ (readAndTranslate A pad r buf w).written := by
      unfold readAndTranslate
      dsimp only
      rw [htarget]
      simp [emitAll]
    obtain ⟨ev, hev⟩ := hclean _ hmem rfl
    cases hev
  · intro htarget record hrecord
    unfold readAndTranslate at hrecord
    dsimp only at hrecord
    rw [List.append_assoc] at hrecord
    refine onlyUhidEvents_append h ?_ record hrecord
    intro x hx
    -- what `emit` wrote, and what `uhid_send_input` did
    rcases List.mem_append.mp hx with hemit | hinput
    · exact fitForUhid_emitAll htarget hemit
    · split_ifs at hinput
      · exact fitForUhid_uhidSendInput hinput
      · cases hinput
      · cases hinput

/-- **One step** keeps the records clean exactly under the condition. -/
theorem onlyUhidEvents_recordStep_iff {move : RecordMove} (h : OnlyUhidEvents w)
    (hstep : recordStep A pad move w = some w') : OnlyUhidEvents w' ↔ NoInputInUhidMode move w := by
  cases move with
  | settings c =>
      obtain rfl := Option.some.inj hstep
      exact iff_of_true h trivial
  | pass p =>
      obtain rfl := Option.some.inj hstep
      exact iff_of_true (onlyUhidEvents_append h fun r hr => fitForUhid_passRecords hr) trivial
  | input r buf =>
      obtain rfl := Option.some.inj hstep
      exact onlyUhidEvents_readAndTranslate h r buf
  | queries qs =>
      unfold recordStep at hstep
      dsimp only at hstep
      split_ifs at hstep
      obtain rfl := Option.some.inj hstep
      exact iff_of_true (onlyUhidEvents_append h fun r hr => fitForUhid_reply hr) trivial
  | finish =>
      obtain rfl := Option.some.inj hstep
      exact iff_of_true (onlyUhidEvents_append h fun r hr => fitForUhid_passRecords hr) trivial

end

/-! ## Whole runs -/

/-- **Records of the UHID device, over every run of the worker**: all of them are complete `uhid_event`
records if and only if no report is read in UHID mode with the device open. -/
theorem uhid_records_iff (A : AxisMath) (pad : SonyPad) (c : Controller) (driver : DriverState)
    (moves : List RecordMove) :
    Throughout (recordStep A pad) OnlyUhidEvents moves (startRecordWorker c driver) ↔
      Meets (recordStep A pad) NoInputInUhidMode moves (startRecordWorker c driver) := by
  have hstart : OnlyUhidEvents (startRecordWorker c driver) := by
    intro r hr
    cases hr
  refine throughout_iff_meets (J := fun _ => True) (fun _ _ _ _ _ => trivial) ?_ moves trivial hstart
  intro move w w' _ hw hstep
  exact onlyUhidEvents_recordStep_iff hw hstep

/-- **A DS4 in UHID mode**: the UHID device is created as descriptor 5 and one report comes in.  The next
record the device gets is the `input_event` of the left stick. -/
theorem input_event_written_to_uhid :
    ¬Throughout (recordStep exampleAxisMath .ds4) OnlyUhidEvents
      [.pass ⟨true, true, some 5, none⟩, .input lightPress fun _ => 0]
      (startRecordWorker initialController restDriver) := by
  intro h
  have hlast := (h.2 _ rfl).2 _ rfl
  have hstick : (VirtualKind.uhid, DeviceRecord.inputEvent (.absX, 0)) ∈
      (readAndTranslate exampleAxisMath .ds4 lightPress (fun _ => 0)
        ⟨uhidOpen 5 none, true, initialController, restDriver, [toUhid .create2]⟩).written := by
    refine List.mem_append_left _ (List.mem_append_right _ ?_)
    exact List.mem_cons_self
  obtain ⟨ev, hev⟩ := hlast _ hstick rfl
  cases hev

end Dstx
