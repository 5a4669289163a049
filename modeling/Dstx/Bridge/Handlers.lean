/-
# Dstx.Bridge.Handlers — the methods of the bridge interface and their replies (`dbus-handlers.c`,
`dbus-systemd.c`).

`message_handler` looks a member up in a table of forty-five handlers.  A handler gets the arguments of the
call as D-Bus delivers them, any number and any types, and answers with a list of replies: what it handed to
libdbus, in order.  Everything the handler does not decide is an input: whether each libdbus call finds its
memory, what the settings thread makes of a posted request, what systemd answers.

libdbus checks the texts it is given: one that is not UTF-8 makes no error message, and in a reply it ends the
process or fails the call (`checksFatal`).

How many replies a call gets is the subject of `Dstx.Bridge.Replies`.
-/
import Dstx.Bridge.Monitor
import Dstx.Commands.Dbus
import Dstx.Lib.Utf8
import Dstx.Profile.Request

namespace Dstx

open Dstx.Lib

/-! ## Messages -/

/-- `DBUS_ERROR_FAILED` and `DBUS_ERROR_INVALID_ARGS`. -/
inductive BusError where
  | failed
  | invalidArgs
  deriving DecidableEq

/-- A value of a reply: a basic one, or the array of `(ss)` of `GetDetailedInfo`. -/
inductive ReplyValue where
  | basic (v : DBusValue)
  | pairs (l : List (CStr × CStr))
  deriving DecidableEq

/-- The strings of a value are UTF-8. -/
def ReplyValue.isUtf8 : ReplyValue → Bool
  | .basic (.string text) => validUtf8 text
  | .basic _ => true
  | .pairs l => l.all fun pair => validUtf8 pair.1 && validUtf8 pair.2

/-- A reply to a method call. -/
inductive BridgeReply where
  | methodReturn (args : List ReplyValue)
  | error (name : BusError) (text : CStr)
  deriving DecidableEq

/-- `BRIDGE_INTERFACE`. -/
def bridgeInterface : CStr := "org.dstx.Bridge".toList

/-- `DSTX_CORE_VERSION`. -/
def dstxCoreVersion : CStr := "0.8.0".toList

/-- `MAX_INPUT_NODES`. -/
def maxInputNodes : Nat := 8

/-! ## The state -/

/-- The strings and input nodes of a `controller_t`. -/
structure DeviceDetails where
  productName : CStr
  uniq : CStr
  driver : CStr
  inputNodes : List (CStr × CStr)

/-- **The shared-memory segment**: whether it is long enough, can be mapped and has the right magic, and what
is in it. -/
structure Segment where
  fits : Bool
  maps : Bool
  magicOk : Bool
  shm : SharedData
  cells : Fin maxSlots → Cells

/-- The slot `i` of the segment. -/
def Segment.slot (seg : Segment) (i : Fin maxSlots) : Slot :=
  { toController := seg.shm.slots i
    toCells := seg.cells i }

/-- Store a slot. -/
def Segment.setSlot (seg : Segment) (i : Fin maxSlots) (slot : Slot) : Segment :=
  { seg with
    shm := { seg.shm with slots := Function.update seg.shm.slots i slot.toController }
    cells := Function.update seg.cells i slot.toCells }

/-- **What a handler reads and writes**: `g_state`, and the segment if there is one. -/
structure BridgeWorld where
  bridge : BridgeState
  details : Fin maxSlots → DeviceDetails
  segment : Option Segment

/-- Which libdbus calls find their memory: making a reply or an error, appending to it, sending it. -/
structure Libdbus where
  makesReturn : Bool
  makesError : Bool
  appends : Bool
  sendsReturn : Bool
  sendsError : Bool
  /-- `DBUS_FATAL_WARNINGS`: an argument that fails its check ends the process; without it the call fails. -/
  checksFatal : Bool

/-- What systemd answers: to a job method, whether the reply has a job path; to `GetUnit`, whether it has a
unit path; to the two property calls, the string in the reply.  `none` is no reply. -/
structure SystemdAnswers where
  job : String → Option Bool
  unit : Option Bool
  activeState : Option (Option CStr)
  unitFileState : Option (Option CStr)

/-- **What a handler finds outside**: libdbus, the shared memory when the wait for the settings thread is
over, systemd, and the status of a command it runs. -/
structure CallEnv extends Libdbus where
  settings : SharedData → SharedData
  systemd : SystemdAnswers
  commandStatus : String → Int

/-- Every allocation and every send of libdbus succeeds. -/
structure CallEnv.Succeeds (env : CallEnv) : Prop where
  makesReturn : env.makesReturn = true
  makesError : env.makesError = true
  appends : env.appends = true
  sendsReturn : env.sendsReturn = true
  sendsError : env.sendsError = true

/-- The replies of a handler, and the state it leaves. -/
structure BridgeAnswer where
  replies : List BridgeReply
  world : BridgeWorld

/-- A method handler: the arguments are those behind the header of the message. -/
abbrev MethodHandler := CallEnv → BridgeWorld → List DBusValue → BridgeAnswer

/-! ## Sending -/

namespace CallEnv

variable (env : CallEnv)

/-- `send_error`, with any text: one that is not UTF-8 makes no message. -/
def sendErrorText (name : BusError) (text : CStr) : List BridgeReply :=
  if env.makesError && validUtf8 text && env.sendsError then [.error name text] else []

/-- `send_error`. -/
def sendError (name : BusError) (text : String) : List BridgeReply := env.sendErrorText name text.toList

/-- The check of a text to be appended fails, and ends the process. -/
def dies (args : List ReplyValue) : Bool := env.checksFatal && !args.all ReplyValue.isUtf8

/-- The reply with `args`, whose appending is not checked. -/
def sendReply (args : List ReplyValue) : List BridgeReply :=
  if env.makesReturn then
    if env.dies args then []
    else if env.sendsReturn then
      [.methodReturn (if env.appends then args.filter ReplyValue.isUtf8 else [])]
    else []
  else env.sendError .failed "Failed to create reply"

/-- The reply with `args`, or an error when they cannot be appended. -/
def sendChecked (failure : String) (args : List ReplyValue) : List BridgeReply :=
  if env.makesReturn && !env.dies args && !(env.appends && args.all ReplyValue.isUtf8) then
    env.sendError .failed failure
  else env.sendReply args

/-- **`send_basic_reply`**. -/
def sendBasicReply : List BridgeReply :=
  if env.makesReturn && !env.sendsReturn then env.sendError .failed "Failed to send reply"
  else env.sendReply []

end CallEnv

/-! ## The segment -/

/-- `open_shm_handle_any`: the segment, if the monitor finds the daemon alive and it can be mapped. -/
def openShmHandleAny (w : BridgeWorld) : Option Segment :=
  if w.bridge.daemonAlive then
    match w.segment with
    | some seg => if seg.fits && seg.maps && seg.magicOk then some seg else none
    | none => none
  else none

/-- **`open_shm_handle`**: the same, for a slot that is connected. -/
def openShmHandle (w : BridgeWorld) (slot : Fin maxSlots) : Option Segment :=
  match openShmHandleAny w with
  | some seg => if (seg.slot slot).connected then some seg else none
  | none => none

/-- **`shm_request_sync`**: post, wait, and read the response with its text cut to the buffer. -/
def shmRequestSync (settings : SharedData → SharedData) (call : Call) (size : Nat) (shm : SharedData) :
    Bool × CStr × SharedData :=
  let after := settings (postRequest call shm)
  if after.profileResponse ≠ 0 then
    (after.profileResponse == 1, after.profileResponseMsg.take (size - 1), { after with profileResponse := 0 })
  else (false, "Timeout waiting for daemon response".toList, after)

/-! ## Read handlers -/

/-- `handle_get_core_version`. -/
def handleGetCoreVersion : MethodHandler := fun env w _ =>
  ⟨env.sendChecked "Failed to append version" [.basic (.string dstxCoreVersion)], w⟩

/-- The connected slots, as `GetControllers` lists them. -/
def connectedSlots (bridge : BridgeState) : List UInt8 :=
  if bridge.daemonAlive then
    ((List.finRange maxSlots).filter fun i => (bridge.slots i).slot.connected).map fun i => UInt8.ofNat i
  else []

/-- `handle_get_controllers`. -/
def handleGetControllers : MethodHandler := fun env w _ =>
  ⟨env.sendChecked "Failed to open array container" [.basic (.bytes (connectedSlots w.bridge))], w⟩

/-- A handler with a slot number: what it does for a slot in range. -/
def slotHandler (body : CallEnv → BridgeWorld → Fin maxSlots → BridgeAnswer) : MethodHandler :=
  fun env w values =>
    match values with
    | .byte slot :: _ =>
        if h : slot.toNat < maxSlots then body env w ⟨slot.toNat, h⟩
        else ⟨env.sendError .invalidArgs "Slot out of range", w⟩
    | _ => ⟨env.sendError .invalidArgs "Expected slot number", w⟩

/-- **The getters that read the bridge's copy** of a slot. -/
def slotGetter (args : ControllerState → DeviceDetails → List ReplyValue) : MethodHandler :=
  slotHandler fun env w i =>
    if w.bridge.daemonAlive then
      if (w.bridge.slots i).slot.connected then ⟨env.sendReply (args (w.bridge.slots i) (w.details i)), w⟩
      else ⟨env.sendError .failed "Controller not connected", w⟩
    else ⟨env.sendError .failed "Daemon not connected", w⟩

/-- `handle_get_controller_info`. -/
def handleGetControllerInfo : MethodHandler := slotGetter fun c _ => (controllerInfo c).map .basic

/-- The d-pad as a number. -/
def dpadByte (c : ControllerState) : UInt8 :=
  if c.pad.buttons .dpadUp then 1
  else if c.pad.buttons .dpadDown then 2
  else if c.pad.buttons .dpadLeft then 3
  else if c.pad.buttons .dpadRight then 4
  else 0

/-- The arguments of the `GetTelemetry` reply. -/
def telemetryReply (c : ControllerState) : List DBusValue :=
  [.int16 c.pad.lx, .int16 c.pad.ly, .int16 c.pad.rx, .int16 c.pad.ry, .int16 c.pad.lt, .int16 c.pad.rt,
    .int16 (toI16 c.pad.hatX), .int16 (toI16 c.pad.hatY), .uint16 (packButtons c.pad.buttons),
    .byte (dpadByte c)]

/-- `handle_get_telemetry`. -/
def handleGetTelemetry : MethodHandler := slotGetter fun c _ => (telemetryReply c).map .basic

/-- The arguments of the `GetDetailedInfo` reply. -/
def detailsReply (d : DeviceDetails) : List ReplyValue :=
  [.basic (.string d.productName), .basic (.string d.uniq), .basic (.string d.driver),
    .pairs (d.inputNodes.take maxInputNodes)]

/-- `handle_get_detailed_info`. -/
def handleGetDetailedInfo : MethodHandler := slotGetter fun _ d => detailsReply d

/-- `handle_get_invert_status`. -/
def handleGetInvertStatus : MethodHandler := slotGetter fun c _ =>
  [.basic (.boolean c.slot.invertLy), .basic (.boolean c.slot.invertRy)]

/-- `handle_get_sensitivity_preset`. -/
def handleGetSensitivityPreset : MethodHandler := slotGetter fun c _ =>
  [.basic (.byte c.slot.sensitivityLeftPreset), .basic (.byte c.slot.sensitivityRightPreset)]

/-- **The getters that read the segment.** -/
def segmentGetter (send : CallEnv → Slot → List BridgeReply) : MethodHandler :=
  slotHandler fun env w i =>
    match openShmHandle w i with
    | some seg => ⟨send env (seg.slot i), w⟩
    | none => ⟨env.sendError .failed "Controller not connected", w⟩

/-- `handle_get_keymap`. -/
def handleGetKeymap : MethodHandler := segmentGetter fun env slot =>
  env.sendReply [.basic (.bytes (List.ofFn slot.keymap))]

/-- `handle_get_triggers_digital`. -/
def handleGetTriggersDigital : MethodHandler := segmentGetter fun env slot =>
  env.sendChecked "Failed to append arguments" [.basic (.boolean slot.isTriggerDigital)]

/-! ## Configuration handlers -/

/-- What a setter reads from its arguments, and what it says when it cannot. -/
structure SetterSpec where
  expected : String
  decode : List DBusValue → Option (UInt8 × DbusSetter)

/-- The check of a setter's arguments behind the slot. -/
def setterRefusal : DbusSetter → Option String
  | .setSensitivityPresetLeft preset | .setSensitivityPresetRight preset =>
      if preset.toNat ≥ sensPresetCount then some "Preset out of range" else none
  | .setKeybind physical logical =>
      if physical.toNat ≥ phyBtnCount then some "Physical button out of range"
      else if logical.toNat ≥ logicalBtnCount then some "Logical button out of range"
      else none
  | _ => none

/-- The stores of a setter. -/
def BridgeWorld.store (w : BridgeWorld) (seg : Segment) (i : Fin maxSlots) (call : DbusSetter) : BridgeWorld :=
  { w with segment := some (seg.setSlot i ((dbusSet (seg.slot i) call).getD (seg.slot i))) }

/-- **The setters.**  Every error is answered but one: `if (!h.shm) return;`. -/
def slotSetter (spec : SetterSpec) : MethodHandler := fun env w values =>
  match spec.decode values with
  | none => ⟨env.sendError .invalidArgs spec.expected, w⟩
  | some (slot, call) =>
      if h : slot.toNat < maxSlots then
        match setterRefusal call with
        | some text => ⟨env.sendError .invalidArgs text, w⟩
        | none =>
            match openShmHandle w ⟨slot.toNat, h⟩ with
            | none => ⟨[], w⟩
            | some seg => ⟨env.sendBasicReply, w.store seg ⟨slot.toNat, h⟩ call⟩
      else ⟨env.sendError .invalidArgs "Slot out of range", w⟩

/-- `DBUS_TYPE_BYTE, &slot`; what follows is not looked at. -/
def slotOnly (call : DbusSetter) : List DBusValue → Option (UInt8 × DbusSetter)
  | .byte slot :: _ => some (slot, call)
  | _ => none

/-- A slot and a byte. -/
def slotByte (call : UInt8 → DbusSetter) : List DBusValue → Option (UInt8 × DbusSetter)
  | .byte slot :: .byte v :: _ => some (slot, call v)
  | _ => none

/-- A slot and a Boolean. -/
def slotFlag (call : Bool → DbusSetter) : List DBusValue → Option (UInt8 × DbusSetter)
  | .byte slot :: .boolean v :: _ => some (slot, call v)
  | _ => none

/-- A slot and two bytes. -/
def slotBytes2 (call : UInt8 → UInt8 → DbusSetter) : List DBusValue → Option (UInt8 × DbusSetter)
  | .byte slot :: .byte u :: .byte v :: _ => some (slot, call u v)
  | _ => none

/-- A slot and three bytes. -/
def slotBytes3 (call : UInt8 → UInt8 → UInt8 → DbusSetter) : List DBusValue → Option (UInt8 × DbusSetter)
  | .byte slot :: .byte t :: .byte u :: .byte v :: _ => some (slot, call t u v)
  | _ => none

/-- `handle_set_led`. -/
def handleSetLed : SetterSpec := ⟨"Expected slot,r,g,b", slotBytes3 .setLed⟩

/-- `handle_set_effect`. -/
def handleSetEffect : SetterSpec := ⟨"Expected slot,effect,speed,brightness", slotBytes3 .setEffect⟩

/-- `handle_set_gain`. -/
def handleSetGain : SetterSpec := ⟨"Expected slot,gain", slotByte .setGain⟩

/-- `handle_set_deadzone`. -/
def handleSetDeadzone : SetterSpec := ⟨"Expected slot,deadzone", slotByte .setDeadzone⟩

/-- `handle_set_global_brightness`. -/
def handleSetGlobalBrightness : SetterSpec := ⟨"Expected slot,brightness", slotByte .setGlobalBrightness⟩

/-- `handle_set_player_leds`. -/
def handleSetPlayerLeds : SetterSpec := ⟨"Expected slot,mode", slotByte .setPlayerLeds⟩

/-- `handle_set_emulate`. -/
def handleSetEmulate : SetterSpec := ⟨"Expected slot,enable", slotFlag .setEmulate⟩

/-- `handle_set_uhid`. -/
def handleSetUhid : SetterSpec := ⟨"Expected slot,enable", slotFlag .setUhid⟩

/-- `handle_set_debounce`. -/
def handleSetDebounce : SetterSpec := ⟨"Expected slot,enable", slotFlag .setDebounce⟩

/-- `handle_set_led_reapply`. -/
def handleSetLedReapply : SetterSpec := ⟨"Expected slot,enable", slotFlag .setLedReapply⟩

/-- `handle_set_rumble_active`. -/
def handleSetRumbleActive : SetterSpec := ⟨"Expected slot,enable", slotFlag .setRumbleActive⟩

/-- `handle_set_invert_ly`. -/
def handleSetInvertLy : SetterSpec := ⟨"Expected slot,enable", slotFlag .setInvertLy⟩

/-- `handle_set_invert_ry`. -/
def handleSetInvertRy : SetterSpec := ⟨"Expected slot,enable", slotFlag .setInvertRy⟩

/-- `handle_set_sensitivity_preset_left`. -/
def handleSetSensitivityPresetLeft : SetterSpec :=
  ⟨"Expected slot,preset", slotByte .setSensitivityPresetLeft⟩

/-- `handle_set_sensitivity_preset_right`. -/
def handleSetSensitivityPresetRight : SetterSpec :=
  ⟨"Expected slot,preset", slotByte .setSensitivityPresetRight⟩

/-- `handle_set_keybind`. -/
def handleSetKeybind : SetterSpec := ⟨"Expected slot, physical, logical", slotBytes2 .setKeybind⟩

/-- `handle_reset_keybinds`. -/
def handleResetKeybinds : SetterSpec := ⟨"Expected slot number", slotOnly .resetKeybinds⟩

/-- `handle_reset_all_keybinds`. -/
def handleResetAllKeybinds : SetterSpec := ⟨"Expected slot number", slotOnly .resetAllKeybinds⟩

/-- `handle_set_triggers_digital`. -/
def handleSetTriggersDigital : SetterSpec := ⟨"Expected slot, enable", slotFlag .setTriggersDigital⟩

/-- `handle_apply_switch_layout`. -/
def handleApplySwitchLayout : SetterSpec := ⟨"Expected slot number", slotOnly .applySwitchLayout⟩

/-- `handle_apply_xbox_layout`. -/
def handleApplyXboxLayout : SetterSpec := ⟨"Expected slot number", slotOnly .applyXboxLayout⟩

/-- `handle_set_switch_layout_legacy`. -/
def handleSetSwitchLayoutLegacy : SetterSpec := ⟨"Expected slot, enable", slotFlag .setSwitchLayoutLegacy⟩

/-! ## Core service control -/

/-- `send_simple_unit_method`. -/
def sendSimpleUnitMethod (systemd : SystemdAnswers) (method : String) : Int :=
  match systemd.job method with
  | some true => 0
  | _ => -1

/-- `systemd_unit_is_active`. -/
def systemdUnitIsActive (systemd : SystemdAnswers) : Bool :=
  match systemd.unit, systemd.activeState with
  | some true, some (some state) => state == "active".toList
  | _, _ => false

/-- `systemd_unit_is_enabled`. -/
def systemdUnitIsEnabled (systemd : SystemdAnswers) : Bool :=
  match systemd.unitFileState with
  | some (some state) => state == "enabled".toList || state == "enabled-runtime".toList
  | _ => false

/-- The handlers that queue a job. -/
def unitJob (method : String) : MethodHandler := fun env w _ =>
  ⟨env.sendReply [.basic (.int32 (if sendSimpleUnitMethod env.systemd method = 0 then 0 else -1))], w⟩

/-- `handle_start_core_service`. -/
def handleStartCoreService : MethodHandler := unitJob "StartUnit"

/-- `handle_stop_core_service`. -/
def handleStopCoreService : MethodHandler := unitJob "StopUnit"

/-- `handle_restart_core_service`. -/
def handleRestartCoreService : MethodHandler := unitJob "RestartUnit"

/-- `handle_is_core_service_active`. -/
def handleIsCoreServiceActive : MethodHandler := fun env w _ =>
  ⟨env.sendReply [.basic (.boolean (systemdUnitIsActive env.systemd))], w⟩

/-- `handle_is_core_service_enabled`. -/
def handleIsCoreServiceEnabled : MethodHandler := fun env w _ =>
  ⟨env.sendReply [.basic (.boolean (systemdUnitIsEnabled env.systemd))], w⟩

/-- `WIFEXITED(status) ? WEXITSTATUS(status) : -1`. -/
def exitStatus (status : Int) : Int := if status % 128 = 0 then status / 256 % 256 else -1

/-- The handlers that run a command. -/
def serviceCommand (command : String) : MethodHandler := fun env w _ =>
  ⟨env.sendReply [.basic (.int32 (exitStatus (env.commandStatus command)))], w⟩

/-- `handle_enable_core_service`. -/
def handleEnableCoreService : MethodHandler := serviceCommand "systemctl enable dstx-daemon.service"

/-- `handle_disable_core_service`. -/
def handleDisableCoreService : MethodHandler := serviceCommand "systemctl disable dstx-daemon.service"

/-! ## Profile handlers -/

/-- A handler that maps the segment, whatever the slots. -/
def segmentHandler (body : CallEnv → BridgeWorld → Segment → BridgeAnswer) (env : CallEnv)
    (w : BridgeWorld) : BridgeAnswer :=
  match openShmHandleAny w with
  | some seg => body env w seg
  | none => ⟨env.sendError .failed "Daemon not connected", w⟩

/-- `handle_get_auto_save_status`. -/
def handleGetAutoSaveStatus : MethodHandler := fun env w _ =>
  segmentHandler (fun env w seg =>
    ⟨env.sendReply [.basic (.boolean (seg.shm.autoSaveEnabled != 0)), .basic (.int32 seg.shm.autoSaveDelayMs)],
      w⟩) env w

/-- The arguments of the `GetCurrentProfile` reply. -/
def currentProfileReply (shm : SharedData) : List ReplyValue :=
  [.basic (.string (if shm.currentProfileName = [] then "default".toList else shm.currentProfileName))]

/-- `handle_get_current_profile`. -/
def handleGetCurrentProfile : MethodHandler := fun env w _ =>
  segmentHandler (fun env w seg => ⟨env.sendReply (currentProfileReply seg.shm), w⟩) env w

/-- **A request to the settings thread**, answered with what it says or with `send` of its text. -/
def requestHandler (call : Call) (size : Nat) (send : CallEnv → CStr → List BridgeReply) :
    CallEnv → BridgeWorld → BridgeAnswer :=
  segmentHandler fun env w seg =>
    let done := shmRequestSync env.settings call size seg.shm
    let left := { w with segment := some { seg with shm := done.2.2 } }
    if done.1 then ⟨send env done.2.1, left⟩
    else ⟨env.sendErrorText .failed done.2.1, left⟩

/-- `handle_list_profiles`. -/
def handleListProfiles : MethodHandler := fun env w _ =>
  requestHandler ⟨.list, none, -1, -1⟩ 4096
    (fun env text => env.sendChecked "Failed to append list" [.basic (.string text)]) env w

/-- The handlers with a profile name. -/
def namedProfile (request : ProfileRequest) : MethodHandler := fun env w values =>
  match values with
  | .string name :: _ =>
      requestHandler ⟨request, some name, -1, -1⟩ 512 (fun env _ => env.sendBasicReply) env w
  | _ => ⟨env.sendError .invalidArgs "Expected profile name", w⟩

/-- `handle_load_profile`. -/
def handleLoadProfile : MethodHandler := namedProfile .load

/-- `handle_save_profile`. -/
def handleSaveProfile : MethodHandler := namedProfile .save

/-- `handle_delete_profile`. -/
def handleDeleteProfile : MethodHandler := namedProfile .delete

/-- The auto-save delay that is posted. -/
def clampDelay (delayMs : Int) : Int := min (max delayMs 100) 10000

/-- `handle_set_auto_save`. -/
def handleSetAutoSave : MethodHandler := fun env w values =>
  match values with
  | .boolean enable :: .int32 delayMs :: _ =>
      requestHandler ⟨.setAutoSave, none, if enable then 1 else 0, clampDelay delayMs⟩ 512
        (fun env text => env.sendReply [.basic (.string text)]) env w
  | _ => ⟨env.sendError .invalidArgs "Expected enable (bool) and delay_ms (int32)", w⟩

/-! ## The dispatch -/

/-- A row of the table that is a setter. -/
def setterRow (name : String) (spec : SetterSpec) : String × (MethodHandler ⊕ SetterSpec) := (name, .inr spec)

/-- A row of the table that is none. -/
def methodRow (name : String) (handler : MethodHandler) : String × (MethodHandler ⊕ SetterSpec) :=
  (name, .inl handler)

/-- **The method mapping of `message_handler`**, in its order. -/
def bridgeMethods : List (String × (MethodHandler ⊕ SetterSpec)) :=
  [methodRow "GetCoreVersion" handleGetCoreVersion,
    methodRow "GetControllers" handleGetControllers,
    methodRow "GetControllerInfo" handleGetControllerInfo,
    methodRow "GetTelemetry" handleGetTelemetry,
    methodRow "GetDetailedInfo" handleGetDetailedInfo,
    methodRow "GetInvertStatus" handleGetInvertStatus,
    methodRow "GetSensitivityPreset" handleGetSensitivityPreset,
    methodRow "GetKeymap" handleGetKeymap,
    setterRow "SetLED" handleSetLed,
    setterRow "SetEffect" handleSetEffect,
    setterRow "SetGain" handleSetGain,
    setterRow "SetDeadzone" handleSetDeadzone,
    setterRow "SetGlobalBrightness" handleSetGlobalBrightness,
    setterRow "SetPlayerLEDs" handleSetPlayerLeds,
    setterRow "SetEmulate" handleSetEmulate,
    setterRow "SetUHID" handleSetUhid,
    setterRow "SetDebounce" handleSetDebounce,
    setterRow "SetLEDReapply" handleSetLedReapply,
    setterRow "SetRumbleActive" handleSetRumbleActive,
    setterRow "SetInvertLY" handleSetInvertLy,
    setterRow "SetInvertRY" handleSetInvertRy,
    setterRow "SetSensitivityPresetLeft" handleSetSensitivityPresetLeft,
    setterRow "SetSensitivityPresetRight" handleSetSensitivityPresetRight,
    setterRow "SetKeybind" handleSetKeybind,
    setterRow "ResetKeybinds" handleResetKeybinds,
    setterRow "ResetAllKeybinds" handleResetAllKeybinds,
    setterRow "SetTriggersDigital" handleSetTriggersDigital,
    methodRow "GetTriggersDigital" handleGetTriggersDigital,
    setterRow "ApplySwitchLayout" handleApplySwitchLayout,
    setterRow "ApplyXboxLayout" handleApplyXboxLayout,
    setterRow "SetSwitchLayout" handleSetSwitchLayoutLegacy,
    methodRow "StartCoreService" handleStartCoreService,
    methodRow "StopCoreService" handleStopCoreService,
    methodRow "RestartCoreService" handleRestartCoreService,
    methodRow "IsCoreServiceActive" handleIsCoreServiceActive,
    methodRow "IsCoreServiceEnabled" handleIsCoreServiceEnabled,
    methodRow "EnableCoreService" handleEnableCoreService,
    methodRow "DisableCoreService" handleDisableCoreService,
    methodRow "GetAutoSaveStatus" handleGetAutoSaveStatus,
    methodRow "GetCurrentProfile" handleGetCurrentProfile,
    methodRow "ListProfiles" handleListProfiles,
    methodRow "LoadProfile" handleLoadProfile,
    methodRow "SaveProfile" handleSaveProfile,
    methodRow "DeleteProfile" handleDeleteProfile,
    methodRow "SetAutoSave" handleSetAutoSave]

/-- The handler of a row. -/
def rowHandler : MethodHandler ⊕ SetterSpec → MethodHandler
  | .inl handler => handler
  | .inr spec => slotSetter spec

/-- A message to the bridge; an interface or a member may be missing. -/
structure BusMessage where
  interface : Option CStr
  member : Option CStr
  args : List DBusValue

/-- **`message_handler`**; `none` is `DBUS_HANDLER_RESULT_NOT_YET_HANDLED`. -/
def messageHandler (env : CallEnv) (w : BridgeWorld) (msg : BusMessage) : Option BridgeAnswer :=
  match msg.interface, msg.member with
  | some interface, some member =>
      if interface = bridgeInterface then
        (bridgeMethods.find? fun row => row.1.toList == member).map fun row =>
          rowHandler row.2 env w msg.args
      else none
  | _, _ => none

end Dstx
