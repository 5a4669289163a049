/-
# Dstx.Commands.Cli — the slot commands of the command line interface (`commands.c`).

A handler gets the slot and the argument strings.  `some slot'` is `return 0` with the slot it left;
`none` is the error return, which every handler takes BEFORE its first store, so the slot is then
unchanged.  `execute_slot_command` looks a name up in the dispatch table; `processSlotArguments` is
the slot part of `process_cli_command` with its batch mode (`--command args …`) and its simple mode (a
single word: a colour, or a command without arguments).
-/
import Dstx.Lib.CText
import Dstx.Led.Engine

namespace Dstx

open Dstx.Lib

/-- `str_to_bool`: what is not `on` or `1` is false. -/
def strToBool (s : CStr) : Bool := s == "on".toList || s == "1".toList

/-- A handler of the dispatch table. -/
abbrev SlotCommand := Slot → List CStr → Option Slot

/-! ## Shared pieces -/

/-- The stores of a colour command: base colour, shown colour, static mode. -/
def Slot.setColour (slot : Slot) (r g b : Int) : Slot :=
  { slot with
    ledBaseR := toU8 r
    ledBaseG := toU8 g
    ledBaseB := toU8 b
    ledR := toU8 r
    ledG := toU8 g
    ledB := toU8 b
    ledStatic := true
    ledRequestPending := false
    ledDirty := true }

/-- The stores of `ledfx 0`: static mode, showing the base colour. -/
def Slot.setStatic (slot : Slot) : Slot :=
  { slot with
    ledStatic := true
    ledRequestPending := false
    ledR := slot.ledBaseR
    ledG := slot.ledBaseG
    ledB := slot.ledBaseB
    ledDirty := true }

/-- The stores of an effect request. -/
def Slot.requestEffect (slot : Slot) (effect : Int) (speed brightness : UInt8) : Slot :=
  { slot with
    ledStatic := false
    ledRequestEffect := effect
    ledRequestSpeed := speed
    ledRequestBrightness := brightness
    ledRequestPending := true }

/-- `rumble_active` off also stops the motors. -/
def Slot.setRumble (slot : Slot) (val : Bool) : Slot :=
  if val then { slot with rumbleActive := true }
  else
    { slot with
      rumbleActive := false
      rumbleStrong := 0
      rumbleWeak := 0
      rumbleDirty := true }

/-- Choosing the virtual device kind switches emulation off and on again. -/
def Slot.setUhid (slot : Slot) (val : Bool) : Slot :=
  { slot with isUhid := val, emulateActive := true }

/-- `slot->keymap[phy] = log`, for checked indices. -/
def Slot.setKeybind (slot : Slot) (phy : Fin phyBtnCount) (log : UInt8) : Slot :=
  { slot with keymap := Function.update slot.keymap phy log, ledDirty := true }

/-- `phy >= 0 && phy < PHY_BTN_COUNT`, as an index. -/
def phyIndex (phy : Int) : Option (Fin phyBtnCount) :=
  if h : 0 ≤ phy ∧ phy < phyBtnCount then some ⟨phy.toNat, by omega⟩ else none

/-- A keybind with both numbers checked. -/
def Slot.keybind (slot : Slot) (phy log : Int) : Option Slot :=
  match phyIndex phy with
  | none => none
  | some p =>
      if 0 ≤ log ∧ log < logicalBtnCount then some (slot.setKeybind p (toU8 log)) else none

/-- `apply_sensitivity_preset_left` (the store is skipped when it would change nothing). -/
def Slot.applySensitivityPresetLeft (slot : Slot) (preset : Int) : Slot :=
  if preset < 0 ∨ preset ≥ sensPresetCount then slot
  else if (slot.sensitivityLeftPreset.toNat : Int) ≠ preset then
    { slot with sensitivityLeftPreset := toU8 preset }
  else slot

/-- `apply_sensitivity_preset_right`. -/
def Slot.applySensitivityPresetRight (slot : Slot) (preset : Int) : Slot :=
  if preset < 0 ∨ preset ≥ sensPresetCount then slot
  else if (slot.sensitivityRightPreset.toNat : Int) ≠ preset then
    { slot with sensitivityRightPreset := toU8 preset }
  else slot

/-- A number that must lie in `0..hi`. -/
def inBounds (hi v : Int) : Option Int := if v < 0 ∨ v > hi then none else some v

/-! ## The handlers -/

/-- `cmd_color`. -/
def cmdColor : SlotCommand
  | _, [] => none
  | slot, arg :: _ => (scanColour arg).map fun c => slot.setColour c.1 c.2.1 c.2.2

/-- `cmd_emulation`. -/
def cmdEmulation : SlotCommand
  | _, [] => none
  | slot, arg :: _ => some { slot with emulateActive := strToBool arg }

/-- `cmd_uhid`. -/
def cmdUhid : SlotCommand
  | _, [] => none
  | slot, arg :: _ => some (slot.setUhid (strToBool arg))

/-- `cmd_keybind`. -/
def cmdKeybind : SlotCommand
  | slot, phy :: log :: _ => slot.keybind (atoi phy) (atoi log)
  | _, _ => none

/-- `cmd_keymap` prints. -/
def cmdKeymap : SlotCommand := fun slot _ => some slot

/-- `cmd_reset_all_keybinds`. -/
def cmdResetAllKeybinds : SlotCommand := fun slot _ =>
  some { slot with requestResetAllKeybinds := true }

/-- `cmd_invert`: `status` prints, but only after the check that there are TWO arguments. -/
def cmdInvert : SlotCommand
  | slot, which :: val :: _ =>
      if which = "status".toList then some slot
      else if which = "ly".toList then some { slot with invertLy := strToBool val }
      else if which = "ry".toList then some { slot with invertRy := strToBool val }
      else none
  | _, _ => none

/-- `cmd_sensitivity`. -/
def cmdSensitivity : SlotCommand
  | _, [] => none
  | slot, which :: rest =>
      if which = "status".toList then some slot
      else
        match rest with
        | [] => none
        | arg :: _ =>
            let preset := atoi arg
            if preset < 0 ∨ preset ≥ sensPresetCount then none
            else if which = "left".toList then some (slot.applySensitivityPresetLeft preset)
            else if which = "right".toList then some (slot.applySensitivityPresetRight preset)
            else none

/-- `cmd_triggers_digital`. -/
def cmdTriggersDigital : SlotCommand
  | _, [] => none
  | slot, sub :: _ =>
      if sub = "status".toList then some slot
      else some { slot with isTriggerDigital := strToBool sub }

/-- `cmd_ledfx`: speed and brightness are truncated to a byte, then replaced by their defaults when
they are out of range. -/
def cmdLedfx : SlotCommand
  | _, [] => none
  | slot, arg :: rest =>
      let effect := atoi arg
      if effect < 0 ∨ effect ≥ ledfxCount then none
      else
        let speed : UInt8 := (rest.head?.map fun s => toU8 (atoi s)).getD 5
        let brightness : UInt8 := (rest.tail.head?.map fun s => toU8 (atoi s)).getD 80
        if effect = 0 then some slot.setStatic
        else some (slot.requestEffect effect (sanitizeSpeed speed) (sanitizeBrightness brightness))

/-- `cmd_brightness`. -/
def cmdBrightness : SlotCommand
  | _, [] => none
  | slot, arg :: _ => (inBounds 100 (atoi arg)).map fun b =>
      { slot with globalLedBrightness := toU8 b, ledDirty := true }

/-- `cmd_deadzone`. -/
def cmdDeadzone : SlotCommand
  | _, [] => none
  | slot, arg :: _ => (inBounds 100 (atoi arg)).map fun dz => { slot with deadzone := toU8 dz }

/-- `cmd_gain`. -/
def cmdGain : SlotCommand
  | _, [] => none
  | slot, arg :: _ => (inBounds 100 (atoi arg)).map fun g => { slot with rumbleGain := toU8 g }

/-- `cmd_rumble`. -/
def cmdRumble : SlotCommand
  | _, [] => none
  | slot, sub :: _ =>
      if sub = "status".toList then some slot else some (slot.setRumble (strToBool sub))

/-- `cmd_debounce`. -/
def cmdDebounce : SlotCommand
  | _, [] => none
  | slot, arg :: _ => some { slot with debounceEnabled := strToBool arg }

/-- `cmd_reapply`. -/
def cmdReapply : SlotCommand
  | _, [] => none
  | slot, sub :: _ =>
      if sub = "status".toList then some slot
      else some { slot with ledReapply := strToBool sub }

/-- `cmd_pled`. -/
def cmdPled : SlotCommand
  | _, [] => none
  | slot, arg :: _ =>
      match inBounds 5 (atoi arg) with
      | none => none
      | some p =>
          if slot.type ≠ .dualsense then none
          else some { slot with playerLeds := toU8 p, ledDirty := true }

/-- `cmd_layout`. -/
def cmdLayout : SlotCommand
  | _, [] => none
  | slot, sub :: _ =>
      if sub = "switch".toList then
        if slot.type ≠ .nswPro then none else some { slot with requestSwitchLayout := true }
      else if sub = "xbox".toList then
        if slot.type ≠ .nswPro then none else some { slot with requestXboxLayout := true }
      else none

/-! ## Dispatch -/

/-- **`slot_commands[]`**. -/
def slotCommands : List (CStr × SlotCommand) :=
  [("color".toList, cmdColor),
    ("emulation".toList, cmdEmulation),
    ("uhid".toList, cmdUhid),
    ("keybind".toList, cmdKeybind),
    ("keymap".toList, cmdKeymap),
    ("reset-keybinds".toList, cmdResetAllKeybinds),
    ("invert".toList, cmdInvert),
    ("sensitivity".toList, cmdSensitivity),
    ("triggers-digital".toList, cmdTriggersDigital),
    ("ledfx".toList, cmdLedfx),
    ("brightness".toList, cmdBrightness),
    ("deadzone".toList, cmdDeadzone),
    ("gain".toList, cmdGain),
    ("rumble".toList, cmdRumble),
    ("debounce".toList, cmdDebounce),
    ("reapply".toList, cmdReapply),
    ("pled".toList, cmdPled),
    ("layout".toList, cmdLayout)]

/-- **`execute_slot_command`**. -/
def executeSlotCommand (slot : Slot) (cmdName : CStr) (argv : List CStr) : Option Slot :=
  match slotCommands.find? fun sc => sc.1 == cmdName with
  | some sc => sc.2 slot argv
  | none => none

/-- The test for a colour in simple mode: six hexadecimal digits. -/
def isColourWord (arg : CStr) : Bool := arg.length == 6 && arg.all fun c => (hexVal c).isSome

/-- A word that starts with `--`. -/
def isOption (s : CStr) : Bool := s.take 2 == "--".toList

/-- Batch mode, cut into commands: the words before the first option, and each option (without its
dashes) with the words up to the next one. -/
def batchCommands (argv : List CStr) : List CStr × List (CStr × List CStr) :=
  argv.foldr (fun word acc =>
    if isOption word then ([], (word.drop 2, acc.1) :: acc.2) else (word :: acc.1, acc.2)) ([], [])

/-- One command of a batch; a failed one leaves the slot and the batch goes on. -/
def runBatchCommand (slot : Slot) (cmd : CStr × List CStr) : Slot :=
  (executeSlotCommand slot cmd.1 cmd.2).getD slot

/-- **The slot part of `process_cli_command`**, on the words after the slot number: the slot the
commands leave. -/
def processSlotArguments (slot : Slot) (argv : List CStr) : Slot :=
  match argv with
  | [] => slot
  | [arg] =>
      if isOption arg then runBatchCommand slot (arg.drop 2, [])
      else if isColourWord arg then (cmdColor slot [arg]).getD slot
      else runBatchCommand slot (arg, [])
  | argv =>
      match batchCommands argv with
      | ([], cmds) => cmds.foldl runBatchCommand slot
      | (_ :: _, _) => slot

end Dstx
