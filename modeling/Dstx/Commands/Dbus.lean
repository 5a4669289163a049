/-
# Dstx.Commands.Dbus — the slot setters of the D-Bus service (`dbus-handlers.c`).

`DbusSetter` is a setter call with its arguments as D-Bus delivers them: bytes and Booleans, any
values.  `dbusSet` is what the handler does once the slot is found connected; `none` is an error
reply.  Most setters clamp or refuse a value out of range; `SetEffect` stores its three bytes as they
come.
-/
import Dstx.Commands.Cli

namespace Dstx

/-- The setter methods, with their arguments behind the slot number. -/
inductive DbusSetter where
  | setLed (r g b : UInt8)
  | setEffect (effect speed brightness : UInt8)
  | setGain (gain : UInt8)
  | setDeadzone (deadzone : UInt8)
  | setGlobalBrightness (brightness : UInt8)
  | setPlayerLeds (mode : UInt8)
  | setEmulate (enable : Bool)
  | setUhid (enable : Bool)
  | setDebounce (enable : Bool)
  | setInvertLy (enable : Bool)
  | setInvertRy (enable : Bool)
  | setLedReapply (enable : Bool)
  | setRumbleActive (enable : Bool)
  | setSensitivityPresetLeft (preset : UInt8)
  | setSensitivityPresetRight (preset : UInt8)
  | setKeybind (physical logical : UInt8)
  | resetKeybinds
  | resetAllKeybinds
  | setTriggersDigital (enable : Bool)
  | applySwitchLayout
  | applyXboxLayout
  | setSwitchLayoutLegacy (enable : Bool)

/-- `if (v > max) v = max`. -/
def clampAbove (max v : UInt8) : UInt8 := if v > max then max else v

/-- **The `handle_set_*` functions** on a connected slot. -/
def dbusSet (slot : Slot) (call : DbusSetter) : Option Slot :=
  match call with
  | .setLed r g b => some (slot.setColour r.toNat g.toNat b.toNat)
  | .setEffect effect speed brightness => some (slot.requestEffect effect.toNat speed brightness)
  | .setGain gain => some { slot with rumbleGain := clampAbove 100 gain }
  | .setDeadzone deadzone => some { slot with deadzone := clampAbove 100 deadzone }
  | .setGlobalBrightness brightness =>
      some { slot with globalLedBrightness := clampAbove 100 brightness, ledDirty := true }
  | .setPlayerLeds mode => some { slot with playerLeds := clampAbove 5 mode, ledDirty := true }
  | .setEmulate enable => some { slot with emulateActive := enable }
  | .setUhid enable => some (if slot.isUhid ≠ enable then slot.setUhid enable else slot)
  | .setDebounce enable => some { slot with debounceEnabled := enable }
  | .setInvertLy enable => some { slot with invertLy := enable }
  | .setInvertRy enable => some { slot with invertRy := enable }
  | .setLedReapply enable => some { slot with ledReapply := enable }
  | .setRumbleActive enable => some (if slot.rumbleActive ≠ enable then slot.setRumble enable else slot)
  | .setSensitivityPresetLeft preset =>
      if preset.toNat ≥ sensPresetCount then none else some { slot with sensitivityLeftPreset := preset }
  | .setSensitivityPresetRight preset =>
      if preset.toNat ≥ sensPresetCount then none else some { slot with sensitivityRightPreset := preset }
  | .setKeybind physical logical =>
      match phyIndex physical.toNat with
      | none => none
      | some p => if logical.toNat ≥ logicalBtnCount then none else some (slot.setKeybind p logical)
  | .resetKeybinds => some { slot with keymap := keysGetDefaultMap, ledDirty := true }
  | .resetAllKeybinds => some { slot with requestResetAllKeybinds := true }
  | .setTriggersDigital enable => some { slot with isTriggerDigital := enable }
  | .applySwitchLayout => some { slot with requestSwitchLayout := true }
  | .applyXboxLayout => some { slot with requestXboxLayout := true }
  | .setSwitchLayoutLegacy enable =>
      if enable then some { slot with requestSwitchLayout := true }
      else some { slot with requestXboxLayout := true }

end Dstx
