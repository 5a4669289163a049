/-
# Dstx.Commands.Changes — what an accepted command stores, said ONCE.

Some seventy entry points write a slot: the handlers of the command line, the branches of the text
interface, the D-Bus setters.  What they store is one of the twenty-five forms of `SlotChange`.  The
three inversion lemmas — `executeSlotCommand_change`, `runUiSlotCommand_change`, `dbusSet_change` — say
which form an accepted command stores and, for the forms that touch the LED mode or the motors, which
command it was.  The later modules prove their invariants per form and never open a handler again.
-/
import Dstx.Commands.Tui
import Dstx.Commands.Dbus
import Dstx.Profile.RoundTrip

namespace Dstx

open Dstx.Lib

/-! ## The forms -/

/-- **What a command stores.** -/
inductive SlotChange where
  | nothing
  | colour (r g b : Int)
  /-- The colour of the interface, which resets the requested effect. -/
  | colourNoEffect (r g b : Int)
  | static
  | effect (effect : Int) (speed brightness : UInt8)
  | rumble (on : Bool)
  | uhid (on : Bool)
  | keybind (phy : Fin phyBtnCount) (log : UInt8)
  | sensitivityLeft (preset : UInt8)
  | sensitivityRight (preset : UInt8)
  | gain (gain : UInt8)
  | deadzone (deadzone : UInt8)
  | brightness (brightness : UInt8)
  | playerLeds (mode : UInt8)
  /-- The player LEDs of the interface, with static mode. -/
  | playerLedsStatic (mode : UInt8)
  | emulate (on : Bool)
  | debounce (on : Bool)
  | invertLy (on : Bool)
  | invertRy (on : Bool)
  | ledReapply (on : Bool)
  | triggersDigital (on : Bool)
  | defaultKeymap
  | requestReset
  | requestSwitch
  | requestXbox

/-- The slot after the stores. -/
def SlotChange.apply (change : SlotChange) (slot : Slot) : Slot :=
  match change with
  | .nothing => slot
  | .colour r g b => slot.setColour r g b
  | .colourNoEffect r g b => { slot.setColour r g b with ledRequestEffect := 0 }
  | .static => slot.setStatic
  | .effect e speed level => slot.requestEffect e speed level
  | .rumble on => slot.setRumble on
  | .uhid on => slot.setUhid on
  | .keybind phy log => slot.setKeybind phy log
  | .sensitivityLeft preset => { slot with sensitivityLeftPreset := preset }
  | .sensitivityRight preset => { slot with sensitivityRightPreset := preset }
  | .gain v => { slot with rumbleGain := v }
  | .deadzone v => { slot with deadzone := v }
  | .brightness v => { slot with globalLedBrightness := v, ledDirty := true }
  | .playerLeds mode => { slot with playerLeds := mode, ledDirty := true }
  | .playerLedsStatic mode => { slot with playerLeds := mode, ledStatic := true, ledDirty := true }
  | .emulate on => { slot with emulateActive := on }
  | .debounce on => { slot with debounceEnabled := on }
  | .invertLy on => { slot with invertLy := on }
  | .invertRy on => { slot with invertRy := on }
  | .ledReapply on => { slot with ledReapply := on }
  | .triggersDigital on => { slot with isTriggerDigital := on }
  | .defaultKeymap => { slot with keymap := keysGetDefaultMap, ledDirty := true }
  | .requestReset => { slot with requestResetAllKeybinds := true }
  | .requestSwitch => { slot with requestSwitchLayout := true }
  | .requestXbox => { slot with requestXboxLayout := true }

/-- A change that touches neither the LED mode nor the motors, with its value in range. -/
def SlotChange.Plain : SlotChange → Prop
  | .colour _ _ _ | .colourNoEffect _ _ _ | .static | .effect _ _ _ | .rumble _
  | .playerLedsStatic _ => False
  | .keybind _ log => log.toNat < logicalBtnCount
  | .sensitivityLeft preset | .sensitivityRight preset => preset.toNat < sensPresetCount
  | .gain v | .deadzone v | .brightness v => v ≤ 100
  | .playerLeds mode => mode ≤ 5
  | .nothing | .uhid _ | .emulate _ | .debounce _ | .invertLy _ | .invertRy _ | .ledReapply _
  | .triggersDigital _ | .defaultKeymap | .requestReset | .requestSwitch | .requestXbox => True

/-- **What a command-line handler stores**, by the command's name and arguments. -/
inductive CliChange (name : CStr) (args : List CStr) : SlotChange → Prop
  | colour {arg : CStr} {rest : List CStr} {r g b : Int} (hname : name = "color".toList)
      (hargs : args = arg :: rest) (hscan : scanColour arg = some (r, g, b)) :
      CliChange name args (.colour r g b)
  | static {arg : CStr} {rest : List CStr} (hname : name = "ledfx".toList)
      (hargs : args = arg :: rest) (h0 : atoi arg = 0) : CliChange name args .static
  | effect {effect : Int} {speed brightness : UInt8} (he : 0 < effect ∧ effect < ledfxCount)
      (hs : 1 ≤ speed ∧ speed ≤ 10) (hb : brightness ≤ 100) :
      CliChange name args (.effect effect speed brightness)
  | rumble {on : Bool} {arg : CStr} {rest : List CStr} (hname : name = "rumble".toList)
      (hargs : args = arg :: rest) (hon : on = strToBool arg) : CliChange name args (.rumble on)
  | plain {change : SlotChange} (h : change.Plain) : CliChange name args change

/-- **What a typed line stores.** -/
inductive TuiChange (slot : Slot) (line : CStr) : SlotChange → Prop
  | colour (r g b : Int) : TuiChange slot line (.colourNoEffect r g b)
  | static {speed brightness : Int} (hpre : "ledfx".toList.isPrefixOf line = true)
      (hscan : scanLedfx (line.drop 5) = some (0, speed, brightness)) : TuiChange slot line .static
  | effect {effect speed brightness : Int} (hpre : "ledfx".toList.isPrefixOf line = true)
      (hscan : scanLedfx (line.drop 5) = some (effect, speed, brightness))
      (he : 0 < effect ∧ effect < ledfxCount) :
      TuiChange slot line (.effect effect (toU8 speed) (toU8 brightness))
  | playerLeds {mode : UInt8} (hpre : "pled ".toList.isPrefixOf line = true)
      (htype : slot.type = .dualsense)
      (hrange : 0 ≤ atoi (line.drop 5) ∧ atoi (line.drop 5) ≤ 5) (hm : mode ≤ 5) :
      TuiChange slot line (.playerLedsStatic mode)
  | rumbleOn (hline : line = "rumble on".toList) : TuiChange slot line (.rumble true)
  | rumbleOff (hline : line = "rumble off".toList) : TuiChange slot line (.rumble false)
  | plain {change : SlotChange} (h : change.Plain) : TuiChange slot line change

/-- **What a setter call stores.** -/
inductive DbusChange (call : DbusSetter) : SlotChange → Prop
  | colour {r g b : UInt8} (hcall : call = .setLed r g b) :
      DbusChange call (.colour r.toNat g.toNat b.toNat)
  | effect {effect speed brightness : UInt8} (hcall : call = .setEffect effect speed brightness) :
      DbusChange call (.effect effect.toNat speed brightness)
  | rumble {on : Bool} (hcall : call = .setRumbleActive on) : DbusChange call (.rumble on)
  | plain {change : SlotChange} (h : change.Plain) : DbusChange call change

/-! ## Checked numbers -/

theorem inBounds_eq_some {hi v w : Int} (h : inBounds hi v = some w) : w = v ∧ 0 ≤ w ∧ w ≤ hi := by
  unfold inBounds at h
  split_ifs at h with hv
  obtain rfl := Option.some.inj h
  omega

theorem toU8_toNat_of_lt {v : Int} {n : Nat} (h₀ : 0 ≤ v) (h₁ : v < n) (hn : n ≤ 256) :
    (toU8 v).toNat < n := by
  have hnat := toNat_toU8 (v := v) (by omega)
  omega

theorem clampAbove_le (max v : UInt8) : clampAbove max v ≤ max := by
  unfold clampAbove
  split_ifs with h
  · exact UInt8.le_refl max
  · exact UInt8.not_lt.mp h

/-! ## Stores shared by the front ends -/

theorem keybind_eq_some {slot slot' : Slot} {phy log : Int} (h : slot.keybind phy log = some slot') :
    ∃ change : SlotChange, slot' = change.apply slot ∧ change.Plain := by
  unfold Slot.keybind at h
  split at h
  · cases h
  · rename_i p _
    split_ifs at h with hl
    obtain rfl := Option.some.inj h
    exact ⟨.keybind p (toU8 log), rfl, toU8_toNat_of_lt hl.1 hl.2 (by decide)⟩

theorem applySensitivityPresetLeft_eq (slot : Slot) (preset : Int) :
    ∃ change : SlotChange, slot.applySensitivityPresetLeft preset = change.apply slot ∧
      change.Plain := by
  unfold Slot.applySensitivityPresetLeft
  split_ifs with hp
  · exact ⟨.nothing, rfl, trivial⟩
  · exact ⟨.sensitivityLeft (toU8 preset), rfl, toU8_toNat_of_lt (by omega) (by omega) (by decide)⟩
  · exact ⟨.nothing, rfl, trivial⟩

theorem applySensitivityPresetRight_eq (slot : Slot) (preset : Int) :
    ∃ change : SlotChange, slot.applySensitivityPresetRight preset = change.apply slot ∧
      change.Plain := by
  unfold Slot.applySensitivityPresetRight
  split_ifs with hp
  · exact ⟨.nothing, rfl, trivial⟩
  · exact ⟨.sensitivityRight (toU8 preset), rfl, toU8_toNat_of_lt (by omega) (by omega) (by decide)⟩
  · exact ⟨.nothing, rfl, trivial⟩

/-! ## The command line -/

/-- The handler `cmd`, under the name `name`, stores what `CliChange` says. -/
def CliStores (name : CStr) (cmd : SlotCommand) : Prop :=
  ∀ slot args slot', cmd slot args = some slot' →
    ∃ change : SlotChange, slot' = change.apply slot ∧ CliChange name args change

/-- The same for a handler whose stores are all plain. -/
def StoresPlain (cmd : SlotCommand) : Prop :=
  ∀ slot args slot', cmd slot args = some slot' →
    ∃ change : SlotChange, slot' = change.apply slot ∧ change.Plain

theorem StoresPlain.cli {cmd : SlotCommand} (h : StoresPlain cmd) (name : CStr) :
    CliStores name cmd := by
  intro slot args slot' heq
  obtain ⟨change, rfl, hplain⟩ := h slot args slot' heq
  exact ⟨change, rfl, .plain hplain⟩

theorem cliStores_cmdColor : CliStores "color".toList cmdColor := by
  intro slot args slot' h
  cases args with
  | nil => cases h
  | cons arg rest =>
      obtain ⟨c, hc, rfl⟩ := Option.map_eq_some_iff.mp h
      exact ⟨.colour c.1 c.2.1 c.2.2, rfl, .colour rfl rfl hc⟩

/-- A command with one on/off word. -/
theorem storesPlain_switch {cmd : SlotCommand} (change : Bool → SlotChange)
    (hplain : ∀ on, (change on).Plain)
    (hnil : ∀ slot, cmd slot [] = none)
    (hcmd : ∀ slot word rest, cmd slot (word :: rest) = some ((change (strToBool word)).apply slot)) :
    StoresPlain cmd := by
  intro slot args slot' h
  cases args with
  | nil =>
      rw [hnil] at h
      cases h
  | cons word rest =>
      rw [hcmd] at h
      exact ⟨change (strToBool word), (Option.some.inj h).symm, hplain _⟩

/-- The same, with `status` beside on and off. -/
theorem storesPlain_statusOrSwitch {cmd : SlotCommand} (change : Bool → SlotChange)
    (hplain : ∀ on, (change on).Plain) (hnil : ∀ slot, cmd slot [] = none)
    (hcmd : ∀ slot word rest, cmd slot (word :: rest) =
      if word = "status".toList then some slot else some ((change (strToBool word)).apply slot)) :
    StoresPlain cmd := by
  intro slot args slot' h
  cases args with
  | nil =>
      rw [hnil] at h
      cases h
  | cons word rest =>
      rw [hcmd] at h
      split_ifs at h
      · exact ⟨.nothing, (Option.some.inj h).symm, trivial⟩
      · exact ⟨change (strToBool word), (Option.some.inj h).symm, hplain _⟩

theorem storesPlain_cmdEmulation : StoresPlain cmdEmulation :=
  storesPlain_switch .emulate (fun _ => trivial) (fun _ => rfl) fun _ _ _ => rfl

theorem storesPlain_cmdUhid : StoresPlain cmdUhid :=
  storesPlain_switch .uhid (fun _ => trivial) (fun _ => rfl) fun _ _ _ => rfl

theorem storesPlain_cmdKeybind : StoresPlain cmdKeybind := by
  intro slot args slot' h
  match args with
  | [] => cases h
  | [_] => cases h
  | _ :: _ :: _ => exact keybind_eq_some h

theorem storesPlain_cmdKeymap : StoresPlain cmdKeymap := by
  intro slot args slot' h
  exact ⟨.nothing, (Option.some.inj h).symm, trivial⟩

theorem storesPlain_cmdResetAllKeybinds : StoresPlain cmdResetAllKeybinds := by
  intro slot args slot' h
  exact ⟨.requestReset, (Option.some.inj h).symm, trivial⟩

theorem storesPlain_cmdInvert : StoresPlain cmdInvert := by
  intro slot args slot' h
  match args with
  | [] => cases h
  | [_] => cases h
  | which :: val :: _ =>
      simp only [cmdInvert] at h
      split_ifs at h
      · exact ⟨.nothing, (Option.some.inj h).symm, trivial⟩
      · exact ⟨.invertLy (strToBool val), (Option.some.inj h).symm, trivial⟩
      · exact ⟨.invertRy (strToBool val), (Option.some.inj h).symm, trivial⟩

theorem storesPlain_cmdSensitivity : StoresPlain cmdSensitivity := by
  intro slot args slot' h
  match args with
  | [] => cases h
  | [which] =>
      simp only [cmdSensitivity] at h
      split_ifs at h
      exact ⟨.nothing, (Option.some.inj h).symm, trivial⟩
  | which :: arg :: _ =>
      simp only [cmdSensitivity] at h
      split_ifs at h
      · exact ⟨.nothing, (Option.some.inj h).symm, trivial⟩
      · obtain rfl := Option.some.inj h
        exact applySensitivityPresetLeft_eq slot _
      · obtain rfl := Option.some.inj h
        exact applySensitivityPresetRight_eq slot _

theorem storesPlain_cmdTriggersDigital : StoresPlain cmdTriggersDigital :=
  storesPlain_statusOrSwitch .triggersDigital (fun _ => trivial) (fun _ => rfl) fun _ _ _ => rfl

theorem cliStores_cmdLedfx : CliStores "ledfx".toList cmdLedfx := by
  intro slot args slot' h
  cases args with
  | nil => cases h
  | cons arg rest =>
      simp only [cmdLedfx] at h
      split_ifs at h with he h0
      · exact ⟨.static, (Option.some.inj h).symm, .static rfl rfl h0⟩
      · exact ⟨.effect _ _ _, (Option.some.inj h).symm,
          .effect (by omega) (sanitizeSpeed_mem _) (sanitizeBrightness_mem _).2⟩

/-- A percentage in range is stored plainly. -/
theorem percent_eq_some {change : UInt8 → SlotChange} (hplain : ∀ n, n ≤ 100 → (change n).Plain)
    {slot slot' : Slot} {v : Int}
    (h : ((inBounds 100 v).map fun n => (change (toU8 n)).apply slot) = some slot') :
    ∃ change : SlotChange, slot' = change.apply slot ∧ change.Plain := by
  obtain ⟨n, hn, rfl⟩ := Option.map_eq_some_iff.mp h
  obtain ⟨-, h₀, h₁⟩ := inBounds_eq_some hn
  exact ⟨change (toU8 n), rfl, hplain _ (toU8_le h₀ h₁)⟩

/-- A command with one percentage. -/
theorem storesPlain_percent {cmd : SlotCommand} (change : UInt8 → SlotChange)
    (hplain : ∀ n, n ≤ 100 → (change n).Plain) (hnil : ∀ slot, cmd slot [] = none)
    (hcmd : ∀ slot arg rest, cmd slot (arg :: rest) =
      (inBounds 100 (atoi arg)).map fun n => (change (toU8 n)).apply slot) : StoresPlain cmd := by
  intro slot args slot' h
  cases args with
  | nil =>
      rw [hnil] at h
      cases h
  | cons arg rest =>
      rw [hcmd] at h
      exact percent_eq_some hplain h

theorem storesPlain_cmdBrightness : StoresPlain cmdBrightness :=
  storesPlain_percent .brightness (fun _ h => h) (fun _ => rfl) fun _ _ _ => rfl

theorem storesPlain_cmdDeadzone : StoresPlain cmdDeadzone :=
  storesPlain_percent .deadzone (fun _ h => h) (fun _ => rfl) fun _ _ _ => rfl

theorem storesPlain_cmdGain : StoresPlain cmdGain :=
  storesPlain_percent .gain (fun _ h => h) (fun _ => rfl) fun _ _ _ => rfl

theorem cliStores_cmdRumble : CliStores "rumble".toList cmdRumble := by
  intro slot args slot' h
  cases args with
  | nil => cases h
  | cons sub rest =>
      simp only [cmdRumble] at h
      split_ifs at h
      · exact ⟨.nothing, (Option.some.inj h).symm, .plain trivial⟩
      · exact ⟨.rumble (strToBool sub), (Option.some.inj h).symm, .rumble rfl rfl rfl⟩

theorem storesPlain_cmdDebounce : StoresPlain cmdDebounce :=
  storesPlain_switch .debounce (fun _ => trivial) (fun _ => rfl) fun _ _ _ => rfl

theorem storesPlain_cmdReapply : StoresPlain cmdReapply :=
  storesPlain_statusOrSwitch .ledReapply (fun _ => trivial) (fun _ => rfl) fun _ _ _ => rfl

theorem storesPlain_cmdPled : StoresPlain cmdPled := by
  intro slot args slot' h
  cases args with
  | nil => cases h
  | cons arg rest =>
      simp only [cmdPled] at h
      split at h
      · cases h
      · rename_i p hp
        split_ifs at h
        obtain ⟨-, h₀, h₁⟩ := inBounds_eq_some hp
        exact ⟨.playerLeds (toU8 p), (Option.some.inj h).symm, toU8_le h₀ h₁⟩

theorem storesPlain_cmdLayout : StoresPlain cmdLayout := by
  intro slot args slot' h
  cases args with
  | nil => cases h
  | cons sub rest =>
      simp only [cmdLayout] at h
      split_ifs at h
      · exact ⟨.requestSwitch, (Option.some.inj h).symm, trivial⟩
      · exact ⟨.requestXbox, (Option.some.inj h).symm, trivial⟩

/-- Every entry of the dispatch table stores what `CliChange` says under its name. -/
theorem cliStores_slotCommands : ∀ sc ∈ slotCommands, CliStores sc.1 sc.2 := by
  simp only [slotCommands, List.forall_mem_cons, List.not_mem_nil, false_imp_iff, implies_true,
    and_true]
  exact ⟨cliStores_cmdColor, storesPlain_cmdEmulation.cli _, storesPlain_cmdUhid.cli _,
    storesPlain_cmdKeybind.cli _, storesPlain_cmdKeymap.cli _, storesPlain_cmdResetAllKeybinds.cli _,
    storesPlain_cmdInvert.cli _, storesPlain_cmdSensitivity.cli _,
    storesPlain_cmdTriggersDigital.cli _, cliStores_cmdLedfx, storesPlain_cmdBrightness.cli _,
    storesPlain_cmdDeadzone.cli _, storesPlain_cmdGain.cli _, cliStores_cmdRumble,
    storesPlain_cmdDebounce.cli _, storesPlain_cmdReapply.cli _, storesPlain_cmdPled.cli _,
    storesPlain_cmdLayout.cli _⟩

/-- **Inversion of `execute_slot_command`.** -/
theorem executeSlotCommand_change {slot slot' : Slot} {name : CStr} {args : List CStr}
    (h : executeSlotCommand slot name args = some slot') :
    ∃ change : SlotChange, slot' = change.apply slot ∧ CliChange name args change := by
  unfold executeSlotCommand at h
  split at h
  · rename_i sc hfind
    have hname : sc.1 = name := by
      have hp := List.find?_some hfind
      exact beq_iff_eq.mp hp
    have hstores := cliStores_slotCommands sc (List.mem_of_find?_eq_some hfind)
    rw [hname] at hstores
    exact hstores slot args slot' h
  · cases h

/-! ## The text interface -/

/-- A branch stores what `TuiChange` says, on the lines it takes. -/
def TuiStores (branch : LineTest × UiAction) : Prop :=
  ∀ slot line rest slot', branch.1.rest line = some rest → branch.2 slot rest = some slot' →
    ∃ change : SlotChange, slot' = change.apply slot ∧ TuiChange slot line change

theorem rest_startsWith {text line rest : CStr}
    (h : (LineTest.startsWith text).rest line = some rest) :
    text.isPrefixOf line = true ∧ rest = line.drop text.length := by
  simp only [LineTest.rest] at h
  split_ifs at h with hp
  exact ⟨hp, (Option.some.inj h).symm⟩

theorem rest_exactly {text line rest : CStr} (h : (LineTest.exactly text).rest line = some rest) :
    line = text ∧ rest = [] := by
  simp only [LineTest.rest] at h
  split_ifs at h with hp
  exact ⟨hp, (Option.some.inj h).symm⟩

/-- A branch that only stores stores a plain change. -/
theorem tuiStores_stores (test : LineTest) {change : SlotChange} (h : change.Plain) :
    TuiStores (test, stores change.apply) := by
  intro slot line rest slot' _ heq
  exact ⟨change, (Option.some.inj heq).symm, .plain h⟩

theorem tuiStores_uiColour (test : LineTest) : TuiStores (test, uiColour) := by
  intro slot line rest slot' _ h
  obtain ⟨c, -, rfl⟩ := Option.map_eq_some_iff.mp h
  exact ⟨.colourNoEffect c.1 c.2.1 c.2.2, rfl, .colour _ _ _⟩

/-- A branch with a preset. -/
theorem tuiStores_sensitivity {action : UiAction} {apply : Slot → Int → Slot}
    (happly : ∀ slot preset, ∃ change : SlotChange, apply slot preset = change.apply slot ∧ change.Plain)
    (haction : ∀ slot rest, action slot rest =
      if 0 ≤ atoi rest ∧ atoi rest < sensPresetCount then some (apply slot (atoi rest)) else none)
    (test : LineTest) : TuiStores (test, action) := by
  intro slot line rest slot' _ h
  have h' : action slot rest = some slot' := h
  rw [haction] at h'
  split_ifs at h'
  obtain rfl := Option.some.inj h'
  obtain ⟨change, heq, hplain⟩ := happly slot (atoi rest)
  exact ⟨change, heq, .plain hplain⟩

theorem tuiStores_uiSensitivityLeft (test : LineTest) : TuiStores (test, uiSensitivityLeft) :=
  tuiStores_sensitivity applySensitivityPresetLeft_eq (fun _ _ => rfl) test

theorem tuiStores_uiSensitivityRight (test : LineTest) : TuiStores (test, uiSensitivityRight) :=
  tuiStores_sensitivity applySensitivityPresetRight_eq (fun _ _ => rfl) test

theorem tuiStores_uiLayoutSwitch (test : LineTest) : TuiStores (test, uiLayoutSwitch) := by
  intro slot line rest slot' _ h
  simp only [uiLayoutSwitch] at h
  split_ifs at h
  exact ⟨.requestSwitch, (Option.some.inj h).symm, .plain trivial⟩

theorem tuiStores_uiLayoutXbox (test : LineTest) : TuiStores (test, uiLayoutXbox) := by
  intro slot line rest slot' _ h
  simp only [uiLayoutXbox] at h
  split_ifs at h
  exact ⟨.requestXbox, (Option.some.inj h).symm, .plain trivial⟩

theorem tuiStores_uiKeybind (test : LineTest) : TuiStores (test, uiKeybind) := by
  intro slot line rest slot' _ h
  simp only [uiKeybind] at h
  split at h
  · cases h
  · obtain ⟨change, heq, hplain⟩ := keybind_eq_some h
    exact ⟨change, heq, .plain hplain⟩

/-- A branch with a percentage. -/
theorem tuiStores_percent {action : UiAction} (change : UInt8 → SlotChange)
    (hplain : ∀ n, n ≤ 100 → (change n).Plain)
    (haction : ∀ slot rest, action slot rest =
      (inBounds 100 (atoi rest)).map fun n => (change (toU8 n)).apply slot) (test : LineTest) :
    TuiStores (test, action) := by
  intro slot line rest slot' _ h
  obtain ⟨stored, heq, hstored⟩ := percent_eq_some hplain ((haction slot rest).symm.trans h)
  exact ⟨stored, heq, .plain hstored⟩

theorem tuiStores_uiGain (test : LineTest) : TuiStores (test, uiGain) :=
  tuiStores_percent .gain (fun _ h => h) (fun _ _ => rfl) test

theorem tuiStores_uiDeadzone (test : LineTest) : TuiStores (test, uiDeadzone) :=
  tuiStores_percent .deadzone (fun _ h => h) (fun _ _ => rfl) test

theorem tuiStores_uiBrightness (test : LineTest) : TuiStores (test, uiBrightness) :=
  tuiStores_percent .brightness (fun _ h => h) (fun _ _ => rfl) test

theorem tuiStores_uiPled : TuiStores (.startsWith "pled ".toList, uiPled) := by
  intro slot line rest slot' hrest h
  obtain ⟨hpre, rfl⟩ := rest_startsWith hrest
  simp only [uiPled] at h
  split_ifs at h with htype
  obtain ⟨mode, hm, rfl⟩ := Option.map_eq_some_iff.mp h
  obtain ⟨rfl, h₀, h₁⟩ := inBounds_eq_some hm
  exact ⟨.playerLedsStatic _, rfl,
    .playerLeds hpre (not_not.mp htype) ⟨h₀, h₁⟩ (toU8_le h₀ h₁)⟩

theorem tuiStores_uiLedfx : TuiStores (.startsWith "ledfx".toList, uiLedfx) := by
  intro slot line rest slot' hrest h
  obtain ⟨hpre, rfl⟩ := rest_startsWith hrest
  simp only [uiLedfx] at h
  split at h
  · cases h
  · rename_i effect speed brightness hscan
    split_ifs at h with hrange h0
    · subst h0
      exact ⟨.static, (Option.some.inj h).symm, .static hpre hscan⟩
    · exact ⟨.effect effect (toU8 speed) (toU8 brightness), (Option.some.inj h).symm,
        .effect hpre hscan (by omega)⟩

theorem tuiStores_rumbleOn :
    TuiStores (.exactly "rumble on".toList, stores fun s => s.setRumble true) := by
  intro slot line rest slot' hrest h
  exact ⟨.rumble true, (Option.some.inj h).symm, .rumbleOn (rest_exactly hrest).1⟩

theorem tuiStores_rumbleOff :
    TuiStores (.exactly "rumble off".toList, stores fun s => s.setRumble false) := by
  intro slot line rest slot' hrest h
  exact ⟨.rumble false, (Option.some.inj h).symm, .rumbleOff (rest_exactly hrest).1⟩

/-- Every branch of the chain stores what `TuiChange` says. -/
theorem tuiStores_uiSlotBranches : ∀ branch ∈ uiSlotBranches, TuiStores branch := by
  have hplain : ∀ (test : LineTest) (change : SlotChange), change.Plain →
      TuiStores (test, stores change.apply) := fun test change h => tuiStores_stores test h
  simp only [uiSlotBranches, List.forall_mem_cons, List.not_mem_nil, false_imp_iff, implies_true,
    and_true]
  exact ⟨hplain _ (.uhid true) trivial, hplain _ (.uhid false) trivial,
    hplain _ (.invertLy true) trivial, hplain _ (.invertLy false) trivial,
    hplain _ (.invertRy true) trivial, hplain _ (.invertRy false) trivial,
    hplain _ .nothing trivial,
    hplain _ (.triggersDigital true) trivial, hplain _ (.triggersDigital false) trivial,
    hplain _ .nothing trivial,
    tuiStores_uiSensitivityLeft _, tuiStores_uiSensitivityRight _,
    hplain _ .nothing trivial, hplain _ .nothing trivial,
    tuiStores_uiLayoutSwitch _, tuiStores_uiLayoutXbox _,
    hplain _ .requestReset trivial, hplain _ .nothing trivial,
    tuiStores_uiKeybind _,
    hplain _ (.emulate true) trivial, hplain _ (.emulate false) trivial,
    hplain _ (.debounce true) trivial, hplain _ (.debounce false) trivial,
    tuiStores_rumbleOn, tuiStores_rumbleOff,
    hplain _ .nothing trivial,
    tuiStores_uiGain _, tuiStores_uiDeadzone _,
    hplain _ (.ledReapply true) trivial, hplain _ (.ledReapply false) trivial,
    hplain _ .nothing trivial,
    tuiStores_uiPled, tuiStores_uiColour _, tuiStores_uiColour _, tuiStores_uiLedfx,
    tuiStores_uiBrightness _⟩

/-- A line that is accepted was taken by a branch of the chain. -/
theorem runUiSlotCommand_eq_some {slot slot' : Slot} {line : CStr}
    (h : runUiSlotCommand slot line = some slot') :
    ∃ branch ∈ uiSlotBranches, ∃ rest, branch.1.rest line = some rest ∧
      branch.2 slot rest = some slot' := by
  unfold runUiSlotCommand at h
  split_ifs at h
  have hfound := Option.join_eq_some_iff.mp h
  obtain ⟨branch, hmem, hbranch⟩ := List.exists_of_findSome?_eq_some hfound
  unfold tryBranch at hbranch
  obtain ⟨rest, hrest, hdo⟩ := Option.map_eq_some_iff.mp hbranch
  exact ⟨branch, hmem, rest, hrest, hdo⟩

/-- **Inversion of a typed line.** -/
theorem runUiSlotCommand_change {slot slot' : Slot} {line : CStr}
    (h : runUiSlotCommand slot line = some slot') :
    ∃ change : SlotChange, slot' = change.apply slot ∧ TuiChange slot line change := by
  obtain ⟨branch, hmem, rest, hrest, hdo⟩ := runUiSlotCommand_eq_some h
  exact tuiStores_uiSlotBranches branch hmem slot line rest slot' hrest hdo

/-! ## The D-Bus service -/

/-- **Inversion of a setter call.** -/
theorem dbusSet_change {slot slot' : Slot} {call : DbusSetter} (h : dbusSet slot call = some slot') :
    ∃ change : SlotChange, slot' = change.apply slot ∧ DbusChange call change := by
  cases call with
  | setLed r g b => exact ⟨.colour _ _ _, (Option.some.inj h).symm, .colour rfl⟩
  | setEffect effect speed brightness =>
      exact ⟨.effect _ _ _, (Option.some.inj h).symm, .effect rfl⟩
  | setGain gain =>
      exact ⟨.gain (clampAbove 100 gain), (Option.some.inj h).symm, .plain (clampAbove_le _ _)⟩
  | setDeadzone deadzone =>
      exact ⟨.deadzone (clampAbove 100 deadzone), (Option.some.inj h).symm,
        .plain (clampAbove_le _ _)⟩
  | setGlobalBrightness brightness =>
      exact ⟨.brightness (clampAbove 100 brightness), (Option.some.inj h).symm,
        .plain (clampAbove_le _ _)⟩
  | setPlayerLeds mode =>
      exact ⟨.playerLeds (clampAbove 5 mode), (Option.some.inj h).symm, .plain (clampAbove_le _ _)⟩
  | setEmulate enable => exact ⟨.emulate enable, (Option.some.inj h).symm, .plain trivial⟩
  | setUhid enable =>
      obtain rfl := Option.some.inj h
      split_ifs
      · exact ⟨.uhid enable, rfl, .plain trivial⟩
      · exact ⟨.nothing, rfl, .plain trivial⟩
  | setDebounce enable => exact ⟨.debounce enable, (Option.some.inj h).symm, .plain trivial⟩
  | setInvertLy enable => exact ⟨.invertLy enable, (Option.some.inj h).symm, .plain trivial⟩
  | setInvertRy enable => exact ⟨.invertRy enable, (Option.some.inj h).symm, .plain trivial⟩
  | setLedReapply enable => exact ⟨.ledReapply enable, (Option.some.inj h).symm, .plain trivial⟩
  | setRumbleActive enable =>
      obtain rfl := Option.some.inj h
      split_ifs
      · exact ⟨.rumble enable, rfl, .rumble rfl⟩
      · exact ⟨.nothing, rfl, .plain trivial⟩
  | setSensitivityPresetLeft preset =>
      change (if preset.toNat ≥ sensPresetCount then none
        else some { slot with sensitivityLeftPreset := preset }) = some slot' at h
      split_ifs at h with hp
      exact ⟨.sensitivityLeft preset, (Option.some.inj h).symm, .plain (not_le.mp hp)⟩
  | setSensitivityPresetRight preset =>
      change (if preset.toNat ≥ sensPresetCount then none
        else some { slot with sensitivityRightPreset := preset }) = some slot' at h
      split_ifs at h with hp
      exact ⟨.sensitivityRight preset, (Option.some.inj h).symm, .plain (not_le.mp hp)⟩
  | setKeybind physical logical =>
      unfold dbusSet at h
      dsimp only at h
      split at h
      · cases h
      · rename_i p _
        split_ifs at h with hl
        exact ⟨.keybind p logical, (Option.some.inj h).symm, .plain (not_le.mp hl)⟩
  | resetKeybinds => exact ⟨.defaultKeymap, (Option.some.inj h).symm, .plain trivial⟩
  | resetAllKeybinds => exact ⟨.requestReset, (Option.some.inj h).symm, .plain trivial⟩
  | setTriggersDigital enable =>
      exact ⟨.triggersDigital enable, (Option.some.inj h).symm, .plain trivial⟩
  | applySwitchLayout => exact ⟨.requestSwitch, (Option.some.inj h).symm, .plain trivial⟩
  | applyXboxLayout => exact ⟨.requestXbox, (Option.some.inj h).symm, .plain trivial⟩
  | setSwitchLayoutLegacy enable =>
      change (if enable then some { slot with requestSwitchLayout := true }
        else some { slot with requestXboxLayout := true }) = some slot' at h
      split_ifs at h
      · exact ⟨.requestSwitch, (Option.some.inj h).symm, .plain trivial⟩
      · exact ⟨.requestXbox, (Option.some.inj h).symm, .plain trivial⟩

end Dstx
