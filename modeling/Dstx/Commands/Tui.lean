/-
# Dstx.Commands.Tui — the slot commands of the text user interface (`run_ui_loop` in `ui.c`).

The interface compares the typed LINE with fixed texts and prefixes, in one long `else if` chain.  The
chain is `uiSlotBranches`: each branch is a test on the line and what the branch does with the slot
and with the part of the line behind the prefix.  `some slot'` is a branch that does its work; `none`
is a refusal (usage or range notification) or a line no branch takes, and stores nothing.
-/
import Dstx.Commands.Cli

namespace Dstx

open Dstx.Lib

/-- The condition of a branch. -/
inductive LineTest where
  /-- `strcmp(cmd_line, text) == 0`. -/
  | exactly (text : CStr)
  /-- `strncmp(cmd_line, text, strlen(text)) == 0`. -/
  | startsWith (text : CStr)
  /-- Six hexadecimal digits. -/
  | colourWord

/-- The part of the line a branch works on, when the branch takes the line. -/
def LineTest.rest (test : LineTest) (line : CStr) : Option CStr :=
  match test with
  | .exactly text => if line = text then some [] else none
  | .startsWith text => if text.isPrefixOf line then some (line.drop text.length) else none
  | .colourWord => if isColourWord line then some line else none

/-- The body of a branch. -/
abbrev UiAction := Slot → CStr → Option Slot

/-! ## Bodies -/

/-- The colour branches: as the colour command, and the requested effect is reset. -/
def uiColour : UiAction := fun slot rest =>
  (scanColour rest).map fun c =>
    { slot.setColour c.1 c.2.1 c.2.2 with ledRequestEffect := 0 }

/-- `sensitivity left `. -/
def uiSensitivityLeft : UiAction := fun slot rest =>
  let preset := atoi rest
  if 0 ≤ preset ∧ preset < sensPresetCount then some (slot.applySensitivityPresetLeft preset)
  else none

/-- `sensitivity right `. -/
def uiSensitivityRight : UiAction := fun slot rest =>
  let preset := atoi rest
  if 0 ≤ preset ∧ preset < sensPresetCount then some (slot.applySensitivityPresetRight preset)
  else none

/-- `layout switch`. -/
def uiLayoutSwitch : UiAction := fun slot _ =>
  if slot.type = .nswPro then some { slot with requestSwitchLayout := true } else none

/-- `layout xbox`. -/
def uiLayoutXbox : UiAction := fun slot _ =>
  if slot.type = .nswPro then some { slot with requestXboxLayout := true } else none

/-- `sscanf(…, "%d %d", &physical, &logical) == 2`. -/
def scanTwoInts (s : CStr) : Option (Int × Int) :=
  match scanInt s with
  | none => none
  | some (a, s₁) =>
      match scanInt s₁ with
      | none => none
      | some (b, _) => some (a, b)

/-- `keybind `. -/
def uiKeybind : UiAction := fun slot rest =>
  match scanTwoInts rest with
  | none => none
  | some (physical, logical) => slot.keybind physical logical

/-- `gain `. -/
def uiGain : UiAction := fun slot rest =>
  (inBounds 100 (atoi rest)).map fun g => { slot with rumbleGain := toU8 g }

/-- `deadzone `. -/
def uiDeadzone : UiAction := fun slot rest =>
  (inBounds 100 (atoi rest)).map fun dz => { slot with deadzone := toU8 dz }

/-- `brightness `. -/
def uiBrightness : UiAction := fun slot rest =>
  (inBounds 100 (atoi rest)).map fun b =>
    { slot with globalLedBrightness := toU8 b, ledDirty := true }

/-- `pled `: the player LEDs, and static mode. -/
def uiPled : UiAction := fun slot rest =>
  if slot.type ≠ .dualsense then none
  else (inBounds 5 (atoi rest)).map fun mode =>
    { slot with playerLeds := toU8 mode, ledStatic := true, ledDirty := true }

/-- `sscanf(…, "%d %d %d", &effect_num, &speed, &brightness)`, over the defaults 5 and 80. -/
def scanLedfx (s : CStr) : Option (Int × Int × Int) :=
  match scanInt s with
  | none => none
  | some (effect, s₁) =>
      match scanInt s₁ with
      | none => some (effect, 5, 80)
      | some (speed, s₂) =>
          match scanInt s₂ with
          | none => some (effect, speed, 80)
          | some (brightness, _) => some (effect, speed, brightness)

/-- `ledfx`: speed and brightness are truncated to a byte and stored as they are. -/
def uiLedfx : UiAction := fun slot rest =>
  match scanLedfx rest with
  | none => none
  | some (effect, speed, brightness) =>
      if 0 ≤ effect ∧ effect < ledfxCount then
        if effect = 0 then some slot.setStatic
        else some (slot.requestEffect effect (toU8 speed) (toU8 brightness))
      else none

/-! ## The chain -/

/-- A branch that only stores, or only shows something. -/
def stores (f : Slot → Slot) : UiAction := fun slot _ => some (f slot)

/-- **The `else if` chain for slot commands**, in the order of the source. -/
def uiSlotBranches : List (LineTest × UiAction) :=
  [(.exactly "uhid on".toList, stores fun s => s.setUhid true),
    (.exactly "uhid off".toList, stores fun s => s.setUhid false),
    (.exactly "invert ly on".toList, stores fun s => { s with invertLy := true }),
    (.exactly "invert ly off".toList, stores fun s => { s with invertLy := false }),
    (.exactly "invert ry on".toList, stores fun s => { s with invertRy := true }),
    (.exactly "invert ry off".toList, stores fun s => { s with invertRy := false }),
    (.exactly "invert status".toList, stores id),
    (.exactly "triggers-digital on".toList, stores fun s => { s with isTriggerDigital := true }),
    (.exactly "triggers-digital off".toList, stores fun s => { s with isTriggerDigital := false }),
    (.exactly "triggers-digital status".toList, stores id),
    (.startsWith "sensitivity left ".toList, uiSensitivityLeft),
    (.startsWith "sensitivity right ".toList, uiSensitivityRight),
    (.exactly "sensitivity status".toList, stores id),
    (.exactly "sensitivity".toList, stores id),
    (.exactly "layout switch".toList, uiLayoutSwitch),
    (.exactly "layout xbox".toList, uiLayoutXbox),
    (.exactly "reset-keybinds".toList, stores fun s => { s with requestResetAllKeybinds := true }),
    (.exactly "keymap".toList, stores id),
    (.startsWith "keybind ".toList, uiKeybind),
    (.exactly "emulation on".toList, stores fun s => { s with emulateActive := true }),
    (.exactly "emulation off".toList, stores fun s => { s with emulateActive := false }),
    (.exactly "debounce on".toList, stores fun s => { s with debounceEnabled := true }),
    (.exactly "debounce off".toList, stores fun s => { s with debounceEnabled := false }),
    (.exactly "rumble on".toList, stores fun s => s.setRumble true),
    (.exactly "rumble off".toList, stores fun s => s.setRumble false),
    (.exactly "rumble status".toList, stores id),
    (.startsWith "gain ".toList, uiGain),
    (.startsWith "deadzone ".toList, uiDeadzone),
    (.exactly "reapply on".toList, stores fun s => { s with ledReapply := true }),
    (.exactly "reapply off".toList, stores fun s => { s with ledReapply := false }),
    (.exactly "reapply status".toList, stores id),
    (.startsWith "pled ".toList, uiPled),
    (.startsWith "color ".toList, uiColour),
    (.colourWord, uiColour),
    (.startsWith "ledfx".toList, uiLedfx),
    (.startsWith "brightness ".toList, uiBrightness)]

/-- A branch applied to a line it takes. -/
def tryBranch (slot : Slot) (line : CStr) (branch : LineTest × UiAction) : Option (Option Slot) :=
  (branch.1.rest line).map (branch.2 slot)

/-- The lines that are taken before the slot commands: interface, profile and auto-save commands. -/
def isGlobalLine (line : CStr) : Bool :=
  ["exit".toList, "q".toList, "info".toList, "profiles".toList, "start".toList, "stop".toList,
      "setup".toList, "help".toList].contains line ||
    "profile ".toList.isPrefixOf line || "auto-save".toList.isPrefixOf line

/-- **A typed line, as a slot command**: the first branch that takes it. -/
def runUiSlotCommand (slot : Slot) (line : CStr) : Option Slot :=
  if isGlobalLine line then none
  else (uiSlotBranches.findSome? (tryBranch slot line)).join

end Dstx
