/-
# Dstx.Gui.SettingsController — the settings page, and the slot in the daemon that it speaks about.

Every method of `SettingsController` changes its own picture of the controller at once, sends a call, and is
suspended until the reply; meanwhile other methods run.  Some go on after the reply with a second and a third
call, and read the picture again for them: `set_led_static(true)` turns the effect off, THEN shows the base
colour, THEN sets the brightness.  A method whose value is already shown does nothing at all, so that a picture
that is wrong stays wrong until the next refresh.

`settings_in_step` says what keeps it right: whatever the user does, in whatever order the calls are handled and
the methods resumed, the picture agrees with the slot as soon as nothing is under way — provided that calls do
not fail, that no refresh comes in between, that effects are chosen in dynamic mode, and that four pairs of
methods do not overlap (`PageMove.Orderly`).  `switched_twice_out_of_step` is such a pair: static and back before
the first reply.  What happens after a failed call is `colour_operations`: no colour is ever set again.
-/
import Dstx.Gui.ControllerManager
import Dstx.Commands.Dbus
import Dstx.Lib.Run

namespace Dstx

open Dstx.Lib

/-! ## The object -/

/-- **What a suspended method goes on with**, once its call was answered. -/
inductive Resume where
  /-- Nothing. -/
  | finished
  /-- `set_led_static(true)`: `set_led`, -/
  | staticColour
  /-- and then `set_global_brightness`. -/
  | staticBrightness
  /-- `set_led_color` in dynamic mode: `set_effect`, with the effect it looked up before, -/
  | colourEffect (rgb : Rgb) (effect : UInt8)
  /-- and then the store of the colour. -/
  | colourStore (rgb : Rgb)
  /-- `set_brightness`: `set_effect`, in dynamic mode. -/
  | brightnessEffect (brightness : UInt8)
  | storeTriggers (enable : Bool)

/-- **`SettingsController`** with its `_current_controller`, and the slot of that controller.  `calls` were sent
and not yet handled, `replies` are on their way back with the methods that wait for them; both in order. -/
structure SettingsController where
  current : GuiController
  slot : Slot
  calls : List (DbusSetter × Resume)
  replies : List (Bool × Resume)
  /-- The colours of the `set_led_color` calls that sleep. -/
  asleep : List Rgb
  /-- `_led_color_operation_pending`. -/
  colourPending : Bool

/-- `yield dbus_client…`. -/
def SettingsController.send (s : SettingsController) (call : DbusSetter) (resume : Resume) : SettingsController :=
  { s with calls := s.calls ++ [(call, resume)] }

/-- `(current_effect == 0) ? 1 : current_effect`. -/
def GuiController.effectToSend (c : GuiController) : UInt8 := if c.currentEffect = 0 then 1 else c.currentEffect

/-! ## The plain setters -/

/-- **A plain setter**: the property it compares and sets, and the call it makes. -/
structure PlainSetter (β : Type) where
  get : GuiController → β
  put : GuiController → β → GuiController
  call : β → DbusSetter

def setLedReapply : PlainSetter Bool :=
  ⟨fun c => c.ledReapply, fun c v => { c with ledReapply := v }, .setLedReapply⟩

def setRumbleActive : PlainSetter Bool :=
  ⟨fun c => c.rumbleActive, fun c v => { c with rumbleActive := v }, .setRumbleActive⟩

def setInvertLy : PlainSetter Bool :=
  ⟨fun c => c.invertLy, fun c v => { c with invertLy := v }, .setInvertLy⟩

def setInvertRy : PlainSetter Bool :=
  ⟨fun c => c.invertRy, fun c v => { c with invertRy := v }, .setInvertRy⟩

def setEmulateActive : PlainSetter Bool :=
  ⟨fun c => c.emulateActive, fun c v => { c with emulateActive := v }, .setEmulate⟩

def setEmulationMode : PlainSetter Bool :=
  ⟨fun c => c.isUhid, fun c v => { c with isUhid := v }, .setUhid⟩

def setDebounce : PlainSetter Bool :=
  ⟨fun c => c.debounceEnabled, fun c v => { c with debounceEnabled := v }, .setDebounce⟩

def setPlayerLeds : PlainSetter UInt8 :=
  ⟨fun c => c.playerLeds, fun c v => { c with playerLeds := v }, .setPlayerLeds⟩

def setRumbleGain : PlainSetter UInt8 :=
  ⟨fun c => c.rumbleGain, fun c v => { c with rumbleGain := v }, .setGain⟩

def setDeadzone : PlainSetter UInt8 :=
  ⟨fun c => c.deadzone, fun c v => { c with deadzone := v }, .setDeadzone⟩

/-- The property drops a value above 7, the call is made all the same. -/
def setSensitivityLeft : PlainSetter UInt8 :=
  ⟨fun c => c.sensitivityLeftPreset,
    fun c v => { c with sensitivityLeftPreset := setPreset c.sensitivityLeftPreset v }, .setSensitivityPresetLeft⟩

def setSensitivityRight : PlainSetter UInt8 :=
  ⟨fun c => c.sensitivityRightPreset,
    fun c v => { c with sensitivityRightPreset := setPreset c.sensitivityRightPreset v }, .setSensitivityPresetRight⟩

def flagSetters : List (PlainSetter Bool) :=
  [setLedReapply, setRumbleActive, setInvertLy, setInvertRy, setEmulateActive, setEmulationMode, setDebounce]

def byteSetters : List (PlainSetter UInt8) :=
  [setPlayerLeds, setRumbleGain, setDeadzone, setSensitivityLeft, setSensitivityRight]

/-- **What a plain setter does.** -/
def SettingsController.plain {β : Type} [DecidableEq β] (s : SettingsController) (f : PlainSetter β) (v : β) :
    SettingsController :=
  if f.get s.current = v then s
  else { s with current := f.put s.current v }.send (f.call v) .finished

/-! ## The other setters -/

namespace SettingsController

variable (s : SettingsController)

/-- `set_led_static`. -/
def setLedStatic (isStatic : Bool) : SettingsController :=
  if s.current.ledStatic = isStatic then s
  else
    let c := { s.current with ledStatic := isStatic }
    if isStatic then { s with current := c }.send (.setEffect 0 0 c.globalBrightness) .staticColour
    else { s with current := c }.send (.setEffect c.effectToSend c.effectSpeed c.globalBrightness) .finished

/-- `set_effect`. -/
def setEffect (effect speed brightness : UInt8) : SettingsController :=
  if s.current.currentEffect = effect ∧ s.current.effectSpeed = speed ∧
      s.current.globalBrightness = brightness then s
  else
    { s with
      current :=
        { s.current with currentEffect := effect, effectSpeed := speed, globalBrightness := brightness } }.send
      (.setEffect effect speed brightness) .finished

/-- `set_led_color`. -/
def setLedColor (rgb : Rgb) : SettingsController :=
  if s.current.ledBaseR = rgb.r ∧ s.current.ledBaseG = rgb.g ∧ s.current.ledBaseB = rgb.b then s
  else if s.colourPending then { s with asleep := s.asleep ++ [rgb] }
  else
    { s with colourPending := true }.send (.setLed rgb.r rgb.g rgb.b)
      (if s.current.ledStatic then .colourStore rgb else .colourEffect rgb s.current.effectToSend)

/-- `set_brightness`. -/
def setBrightness (brightness : UInt8) : SettingsController :=
  if s.current.globalBrightness = brightness then s
  else
    { s with current := { s.current with globalBrightness := brightness } }.send
      (.setGlobalBrightness brightness) (.brightnessEffect brightness)

/-- `set_triggers_digital`: the call first. -/
def setTriggersDigital (enable : Bool) : SettingsController :=
  s.send (.setTriggersDigital enable) (.storeTriggers enable)

/-- `apply_switch_layout` and `apply_xbox_layout`. -/
def applyLayout (toSwitch : Bool) : SettingsController :=
  s.send (if toSwitch then .applySwitchLayout else .applyXboxLayout) .finished

/-- **A method goes on.** -/
def resume : Resume → SettingsController
  | .finished => s
  | .staticColour =>
      s.send (.setLed s.current.ledBaseR s.current.ledBaseG s.current.ledBaseB) .staticBrightness
  | .staticBrightness => s.send (.setGlobalBrightness s.current.globalBrightness) .finished
  | .colourEffect rgb effect =>
      s.send (.setEffect effect s.current.effectSpeed s.current.globalBrightness) (.colourStore rgb)
  | .colourStore rgb =>
      { s with
        current := { s.current with ledBaseR := rgb.r, ledBaseG := rgb.g, ledBaseB := rgb.b }
        colourPending := false }
  | .brightnessEffect brightness =>
      if s.current.ledStatic then s
      else s.send (.setEffect s.current.effectToSend s.current.effectSpeed brightness) .finished
  | .storeTriggers enable => { s with current := { s.current with triggersDigital := enable } }

end SettingsController

/-! ## Everything that can happen -/

/-- A call of the bridge on the slot; a refused one changes nothing. -/
def bridgeSet (slot : Slot) (call : DbusSetter) : Slot := (dbusSet slot call).getD slot

/-- The user's methods, and the rest of the system. -/
inductive PageMove where
  | flag (i : Fin flagSetters.length) (v : Bool)
  | byte (i : Fin byteSetters.length) (v : UInt8)
  | ledStatic (isStatic : Bool)
  | effect (effect speed brightness : UInt8)
  | ledColor (rgb : Rgb)
  | brightness (brightness : UInt8)
  | triggersDigital (enable : Bool)
  | layout (toSwitch : Bool)
  /-- A sleeping `set_led_color` begins anew. -/
  | wake (n : Nat)
  /-- The bridge handles the oldest call, if it finds the slot. -/
  | handle (available : Bool)
  /-- The oldest reply arrives; an error ends the method. -/
  | reply
  /-- `ControllerManager` merges what the bridge reported of the slot. -/
  | refresh (st : ControllerState)

/-- **One step.** -/
def pageStep (move : PageMove) (s : SettingsController) : Option SettingsController :=
  match move with
  | .flag i v => some (s.plain (flagSetters.get i) v)
  | .byte i v => some (s.plain (byteSetters.get i) v)
  | .ledStatic isStatic => some (s.setLedStatic isStatic)
  | .effect effect speed brightness => some (s.setEffect effect speed brightness)
  | .ledColor rgb => some (s.setLedColor rgb)
  | .brightness brightness => some (s.setBrightness brightness)
  | .triggersDigital enable => some (s.setTriggersDigital enable)
  | .layout toSwitch => some (s.applyLayout toSwitch)
  | .wake n =>
      match s.asleep[n]? with
      | some rgb => some ({ s with asleep := s.asleep.eraseIdx n }.setLedColor rgb)
      | none => none
  | .handle available =>
      match s.calls with
      | [] => none
      | (call, resume) :: rest =>
          some { s with
            slot := if available then bridgeSet s.slot call else s.slot
            calls := rest
            replies := s.replies ++ [(available && (dbusSet s.slot call).isSome, resume)] }
  | .reply =>
      match s.replies with
      | [] => none
      | (ok, resume) :: rest =>
          if ok then some ({ s with replies := rest }.resume resume) else some { s with replies := rest }
  | .refresh st =>
      some { s with
        current := s.current.mergeConfig (getControllerInfo s.current.slot (controllerInfo st)) }

/-! ## What is under way -/

namespace SettingsController

variable (s : SettingsController)

/-- What the suspended methods wait to do, in the order of their replies. -/
def resumes : List Resume := s.replies.map (·.2) ++ s.calls.map (·.2)

/-- **The slot after the calls that were sent.** -/
def future : Slot := s.calls.foldl (fun slot call => bridgeSet slot call.1) s.slot

/-- Nothing is under way. -/
def AtRest : Prop := s.calls = [] ∧ s.replies = []

end SettingsController

/-- The colour that a suspended `set_led_color` is about. -/
def Resume.colour? : Resume → Option Rgb
  | .colourEffect rgb _ => some rgb
  | .colourStore rgb => some rgb
  | _ => none

/-- The colour operations under way. -/
def SettingsController.colours (s : SettingsController) : List Rgb := s.resumes.filterMap Resume.colour?

/-- A slot that the GUI can show as it is. -/
structure Showable (slot : Slot) : Prop where
  playerLeds : slot.playerLeds ≤ 5
  rumbleGain : slot.rumbleGain ≤ 100
  deadzone : slot.deadzone ≤ 100
  brightness : slot.globalLedBrightness ≤ 100
  presets : slot.sensitivityLeftPreset ≤ 7 ∧ slot.sensitivityRightPreset ≤ 7
  dynamic : slot.ledStatic = false →
    1 ≤ slot.ledRequestEffect ∧ slot.ledRequestEffect ≤ 8 ∧ slot.ledRequestSpeed ≠ 0

/-- **The order that keeps the picture right.**  Calls find the slot; the mode is not changed while a change
back, or a colour in the other mode, is under way; an effect is set in dynamic mode, with the brightness shown
and not against the effect that a colour operation will set; a refresh shows the slot as it is, and comes when
nothing is under way. -/
def PageMove.Orderly (move : PageMove) (s : SettingsController) : Prop :=
  match move with
  | .ledStatic true => s.colours = []
  | .ledStatic false => .staticColour ∉ s.resumes
  | .ledColor _ | .wake _ => .staticColour ∉ s.resumes
  | .effect chosen _ shown =>
      s.current.ledStatic = false ∧ chosen ≠ 0 ∧ shown = s.current.globalBrightness ∧
        ∀ rgb waiting, .colourEffect rgb waiting ∈ s.resumes → waiting = chosen
  | .handle available => available = true
  | .refresh st => s.AtRest ∧ st.slot = s.slot ∧ Showable s.slot
  | _ => True

/-! ## What a picture shows of a slot -/

/-- The plain settings. -/
structure PlainView where
  ledReapply : Bool
  rumbleActive : Bool
  invertLy : Bool
  invertRy : Bool
  isUhid : Bool
  debounce : Bool
  playerLeds : UInt8
  rumbleGain : UInt8
  deadzone : UInt8
  sensitivityLeft : UInt8
  sensitivityRight : UInt8

/-- What the picture says they are, with the limits of the bridge. -/
def GuiController.plainView (c : GuiController) : PlainView where
  ledReapply := c.ledReapply
  rumbleActive := c.rumbleActive
  invertLy := c.invertLy
  invertRy := c.invertRy
  isUhid := c.isUhid
  debounce := c.debounceEnabled
  playerLeds := clampAbove 5 c.playerLeds
  rumbleGain := clampAbove 100 c.rumbleGain
  deadzone := clampAbove 100 c.deadzone
  sensitivityLeft := c.sensitivityLeftPreset
  sensitivityRight := c.sensitivityRightPreset

/-- What they are. -/
def Slot.plainView (slot : Slot) : PlainView where
  ledReapply := slot.ledReapply
  rumbleActive := slot.rumbleActive
  invertLy := slot.invertLy
  invertRy := slot.invertRy
  isUhid := slot.isUhid
  debounce := slot.debounceEnabled
  playerLeds := slot.playerLeds
  rumbleGain := slot.rumbleGain
  deadzone := slot.deadzone
  sensitivityLeft := slot.sensitivityLeftPreset
  sensitivityRight := slot.sensitivityRightPreset

/-- The LED settings; `effect` and `speed` count in dynamic mode. -/
structure LedView where
  isStatic : Bool
  base : Rgb
  effect : Int
  speed : UInt8
  brightness : UInt8

/-- What the picture says of them. -/
def GuiController.ledView (c : GuiController) : LedView where
  isStatic := c.ledStatic
  base := ⟨c.ledBaseR, c.ledBaseG, c.ledBaseB⟩
  effect := c.effectToSend.toNat
  speed := c.effectSpeed
  brightness := clampAbove 100 c.globalBrightness

/-- What they are. -/
def Slot.ledView (slot : Slot) : LedView where
  isStatic := slot.ledStatic
  base := ⟨slot.ledBaseR, slot.ledBaseG, slot.ledBaseB⟩
  effect := slot.ledRequestEffect
  speed := slot.ledRequestSpeed
  brightness := slot.globalLedBrightness

/-- The two agree on the LEDs. -/
structure LedAgrees (shown held : LedView) : Prop where
  isStatic : held.isStatic = shown.isStatic
  base : held.base = shown.base
  dynamic : shown.isStatic = false → held.effect = shown.effect ∧ held.speed = shown.speed
  brightness : held.brightness = shown.brightness

/-- **The picture agrees with the slot** in every setting of the page, but for emulation: what is shown off may be
on, since `set_uhid` turns it on. -/
structure PictureAgrees (c : GuiController) (slot : Slot) : Prop where
  plain : c.plainView = slot.plainView
  emulation : c.emulateActive = true → slot.emulateActive = true
  triggers : c.triggersDigital = slot.isTriggerDigital
  led : LedAgrees c.ledView slot.ledView

/-! ## The calls on a slot -/

section Calls

variable (slot : Slot)

theorem ledView_setLed (rgb : Rgb) :
    (bridgeSet slot (.setLed rgb.r rgb.g rgb.b)).ledView =
      { slot.ledView with isStatic := true, base := rgb } := by
  show ({ slot.ledView with
    isStatic := true
    base := ⟨toU8 rgb.r.toNat, toU8 rgb.g.toNat, toU8 rgb.b.toNat⟩ } : LedView) = _
  rw [toU8_toNat, toU8_toNat, toU8_toNat]

theorem ledView_setEffect (effect speed brightness : UInt8) :
    (bridgeSet slot (.setEffect effect speed brightness)).ledView =
      { slot.ledView with isStatic := false, effect := effect.toNat, speed := speed } := rfl

theorem ledView_setGlobalBrightness (brightness : UInt8) :
    (bridgeSet slot (.setGlobalBrightness brightness)).ledView =
      { slot.ledView with brightness := clampAbove 100 brightness } := rfl

/-- The calls about the LEDs. -/
def DbusSetter.forLed : DbusSetter → Bool
  | .setLed _ _ _ | .setEffect _ _ _ | .setGlobalBrightness _ => true
  | _ => false

/-- **They leave the other settings alone**, and are never refused. -/
theorem bridgeSet_forLed {call : DbusSetter} (h : call.forLed = true) :
    (bridgeSet slot call).plainView = slot.plainView ∧
      (bridgeSet slot call).emulateActive = slot.emulateActive ∧
      (bridgeSet slot call).isTriggerDigital = slot.isTriggerDigital ∧ (dbusSet slot call).isSome = true := by
  cases call with
  | setLed r g b => exact ⟨rfl, rfl, rfl, rfl⟩
  | setEffect effect speed brightness => exact ⟨rfl, rfl, rfl, rfl⟩
  | setGlobalBrightness brightness => exact ⟨rfl, rfl, rfl, rfl⟩
  | _ => cases h

end Calls

/-! ## The family -/

/-- **A plain setter does to the picture what its call does to the slot**, and both keep to their setting. -/
structure PlainSetter.Lawful {β : Type} (f : PlainSetter β) : Prop where
  same : ∃ update : β → PlainView → PlainView, (∀ c v, (f.put c v).plainView = update v c.plainView) ∧
    ∀ slot v, (bridgeSet slot (f.call v)).plainView = update v slot.plainView
  led : (∀ c v, (f.put c v).ledView = c.ledView) ∧
    ∀ slot v, (bridgeSet slot (f.call v)).ledView = slot.ledView
  triggers : (∀ c v, (f.put c v).triggersDigital = c.triggersDigital) ∧
    ∀ slot v, (bridgeSet slot (f.call v)).isTriggerDigital = slot.isTriggerDigital
  emulation : ∀ c slot v, (c.emulateActive = true → slot.emulateActive = true) →
    (f.put c v).emulateActive = true → (bridgeSet slot (f.call v)).emulateActive = true

theorem bridgeSet_setRumbleActive (slot : Slot) (v : Bool) :
    (bridgeSet slot (.setRumbleActive v)).plainView = { slot.plainView with rumbleActive := v } ∧
      (bridgeSet slot (.setRumbleActive v)).ledView = slot.ledView ∧
      (bridgeSet slot (.setRumbleActive v)).isTriggerDigital = slot.isTriggerDigital ∧
      (bridgeSet slot (.setRumbleActive v)).emulateActive = slot.emulateActive := by
  show (if slot.rumbleActive ≠ v then slot.setRumble v else slot).plainView = _ ∧
    (if slot.rumbleActive ≠ v then slot.setRumble v else slot).ledView = _ ∧
    (if slot.rumbleActive ≠ v then slot.setRumble v else slot).isTriggerDigital = _ ∧
    (if slot.rumbleActive ≠ v then slot.setRumble v else slot).emulateActive = _
  split
  · cases v <;> exact ⟨rfl, rfl, rfl, rfl⟩
  · rename_i hsame
    rw [← not_not.mp hsame]
    exact ⟨rfl, rfl, rfl, rfl⟩

theorem bridgeSet_setUhid (slot : Slot) (v : Bool) :
    (bridgeSet slot (.setUhid v)).plainView = { slot.plainView with isUhid := v } ∧
      (bridgeSet slot (.setUhid v)).ledView = slot.ledView ∧
      (bridgeSet slot (.setUhid v)).isTriggerDigital = slot.isTriggerDigital ∧
      (slot.emulateActive = true → (bridgeSet slot (.setUhid v)).emulateActive = true) := by
  show (if slot.isUhid ≠ v then slot.setUhid v else slot).plainView = _ ∧
    (if slot.isUhid ≠ v then slot.setUhid v else slot).ledView = _ ∧
    (if slot.isUhid ≠ v then slot.setUhid v else slot).isTriggerDigital = _ ∧
    (_ → (if slot.isUhid ≠ v then slot.setUhid v else slot).emulateActive = true)
  split
  · exact ⟨rfl, rfl, rfl, fun _ => rfl⟩
  · rename_i hsame
    rw [← not_not.mp hsame]
    exact ⟨rfl, rfl, rfl, id⟩

/-- A preset that the property drops is refused by the bridge. -/
theorem bridgeSet_presets (slot : Slot) (v : UInt8) :
    bridgeSet slot (.setSensitivityPresetLeft v) =
        { slot with sensitivityLeftPreset := setPreset slot.sensitivityLeftPreset v } ∧
      bridgeSet slot (.setSensitivityPresetRight v) =
        { slot with sensitivityRightPreset := setPreset slot.sensitivityRightPreset v } := by
  have hpreset : v ≤ 7 ↔ ¬v.toNat ≥ sensPresetCount := by
    rw [UInt8.le_iff_toNat_le]
    show v.toNat ≤ 7 ↔ ¬8 ≤ v.toNat
    omega
  unfold bridgeSet dbusSet setPreset
  dsimp only
  by_cases hv : v ≤ 7
  · rw [if_neg (hpreset.mp hv), if_neg (hpreset.mp hv), if_pos hv, if_pos hv]
    exact ⟨rfl, rfl⟩
  · have hge : v.toNat ≥ sensPresetCount := not_not.mp (mt hpreset.mpr hv)
    rw [if_pos hge, if_pos hge, if_neg hv, if_neg hv]
    exact ⟨rfl, rfl⟩

theorem flagSetters_lawful : ∀ f ∈ flagSetters, f.Lawful := by
  simp only [flagSetters, List.forall_mem_cons]
  refine ⟨?_, ?_, ?_, ?_, ?_, ?_, ?_, nofun⟩
  · exact ⟨⟨fun v view => { view with ledReapply := v }, fun _ _ => rfl, fun _ _ => rfl⟩,
      ⟨fun _ _ => rfl, fun _ _ => rfl⟩, ⟨fun _ _ => rfl, fun _ _ => rfl⟩, fun _ _ _ h => h⟩
  · exact ⟨⟨fun v view => { view with rumbleActive := v }, fun _ _ => rfl,
        fun slot v => (bridgeSet_setRumbleActive slot v).1⟩,
      ⟨fun _ _ => rfl, fun slot v => (bridgeSet_setRumbleActive slot v).2.1⟩,
      ⟨fun _ _ => rfl, fun slot v => (bridgeSet_setRumbleActive slot v).2.2.1⟩,
      fun _ slot v h hshown => (bridgeSet_setRumbleActive slot v).2.2.2.trans (h hshown)⟩
  · exact ⟨⟨fun v view => { view with invertLy := v }, fun _ _ => rfl, fun _ _ => rfl⟩,
      ⟨fun _ _ => rfl, fun _ _ => rfl⟩, ⟨fun _ _ => rfl, fun _ _ => rfl⟩, fun _ _ _ h => h⟩
  · exact ⟨⟨fun v view => { view with invertRy := v }, fun _ _ => rfl, fun _ _ => rfl⟩,
      ⟨fun _ _ => rfl, fun _ _ => rfl⟩, ⟨fun _ _ => rfl, fun _ _ => rfl⟩, fun _ _ _ h => h⟩
  · exact ⟨⟨fun _ view => view, fun _ _ => rfl, fun _ _ => rfl⟩,
      ⟨fun _ _ => rfl, fun _ _ => rfl⟩, ⟨fun _ _ => rfl, fun _ _ => rfl⟩, fun _ _ _ _ hshown => hshown⟩
  · exact ⟨⟨fun v view => { view with isUhid := v }, fun _ _ => rfl, fun slot v => (bridgeSet_setUhid slot v).1⟩,
      ⟨fun _ _ => rfl, fun slot v => (bridgeSet_setUhid slot v).2.1⟩,
      ⟨fun _ _ => rfl, fun slot v => (bridgeSet_setUhid slot v).2.2.1⟩,
      fun _ slot v h hshown => (bridgeSet_setUhid slot v).2.2.2 (h hshown)⟩
  · exact ⟨⟨fun v view => { view with debounce := v }, fun _ _ => rfl, fun _ _ => rfl⟩,
      ⟨fun _ _ => rfl, fun _ _ => rfl⟩, ⟨fun _ _ => rfl, fun _ _ => rfl⟩, fun _ _ _ h => h⟩

theorem byteSetters_lawful : ∀ f ∈ byteSetters, f.Lawful := by
  simp only [byteSetters, List.forall_mem_cons]
  refine ⟨?_, ?_, ?_, ?_, ?_, nofun⟩
  · exact ⟨⟨fun v view => { view with playerLeds := clampAbove 5 v }, fun _ _ => rfl, fun _ _ => rfl⟩,
      ⟨fun _ _ => rfl, fun _ _ => rfl⟩, ⟨fun _ _ => rfl, fun _ _ => rfl⟩, fun _ _ _ h => h⟩
  · exact ⟨⟨fun v view => { view with rumbleGain := clampAbove 100 v }, fun _ _ => rfl, fun _ _ => rfl⟩,
      ⟨fun _ _ => rfl, fun _ _ => rfl⟩, ⟨fun _ _ => rfl, fun _ _ => rfl⟩, fun _ _ _ h => h⟩
  · exact ⟨⟨fun v view => { view with deadzone := clampAbove 100 v }, fun _ _ => rfl, fun _ _ => rfl⟩,
      ⟨fun _ _ => rfl, fun _ _ => rfl⟩, ⟨fun _ _ => rfl, fun _ _ => rfl⟩, fun _ _ _ h => h⟩
  · refine ⟨⟨fun v view => { view with sensitivityLeft := setPreset view.sensitivityLeft v }, fun _ _ => rfl,
      fun slot v => ?_⟩, ⟨fun _ _ => rfl, fun slot v => ?_⟩, ⟨fun _ _ => rfl, fun slot v => ?_⟩,
      fun _ slot v h hshown => ?_⟩
    all_goals
      simp only [setSensitivityLeft, (bridgeSet_presets slot v).1]
    · rfl
    · rfl
    · exact h hshown
  · refine ⟨⟨fun v view => { view with sensitivityRight := setPreset view.sensitivityRight v }, fun _ _ => rfl,
      fun slot v => ?_⟩, ⟨fun _ _ => rfl, fun slot v => ?_⟩, ⟨fun _ _ => rfl, fun slot v => ?_⟩,
      fun _ slot v h hshown => ?_⟩
    all_goals
      simp only [setSensitivityRight, (bridgeSet_presets slot v).2]
    · rfl
    · rfl
    · exact h hshown

/-! ## The LEDs while methods are suspended -/

/-- The colour operations among the suspended methods. -/
def coloursOf (rs : List Resume) : List Rgb := rs.filterMap Resume.colour?

/-- A method that has no more to do with the LEDs' mode and colour. -/
def Resume.Quiet (r : Resume) : Prop := r.colour? = none ∧ r ≠ .staticColour

/-- **The invariant of the LEDs**: `shown` is the picture, `held` the slot after the calls that were sent, `rs`
the suspended methods.  A method that shows the base colour next will make the slot static; one that sets the
effect next will make it dynamic; the colour of an operation is in the slot before it is in the picture. -/
structure LedInStep (shown held : LedView) (rs : List Resume) (pending : Bool) : Prop where
  colour : (coloursOf rs = [] ∧ pending = false ∧ held.base = shown.base) ∨
    ∃ rgb, coloursOf rs = [rgb] ∧ pending = true ∧ held.base = rgb
  settling : .staticColour ∈ rs → shown.isStatic = true ∧ coloursOf rs = []
  recolouring : ∀ rgb effect, .colourEffect rgb effect ∈ rs →
    shown.isStatic = false ∧ shown.effect = effect.toNat
  isStatic : shown.isStatic = true → .staticColour ∈ rs ∨ held.isStatic = true
  isDynamic : shown.isStatic = false → (∃ rgb effect, .colourEffect rgb effect ∈ rs) ∨ held.isStatic = false
  dynamic : shown.isStatic = false → held.effect = shown.effect ∧ held.speed = shown.speed
  brightness : held.brightness = shown.brightness

theorem mem_coloursOf {rs : List Resume} {rgb : Rgb} {effect : UInt8} (h : .colourEffect rgb effect ∈ rs) :
    rgb ∈ coloursOf rs := List.mem_filterMap.mpr ⟨_, h, rfl⟩

theorem coloursOf_append (rs : List Resume) (r : Resume) :
    coloursOf (rs ++ [r]) = coloursOf rs ++ r.colour?.toList := by
  unfold coloursOf
  rw [List.filterMap_append]
  cases hr : r.colour? with
  | none => simp [hr]
  | some rgb => simp [hr]

theorem coloursOf_cons (rs : List Resume) (r : Resume) :
    coloursOf (r :: rs) = r.colour?.toList ++ coloursOf rs := by
  unfold coloursOf
  rw [List.filterMap_cons]
  cases r.colour? <;> rfl

section Led

variable {shown held : LedView} {rs : List Resume} {pending : Bool}

/-- Without colour operations the picture has the colour. -/
theorem LedInStep.base_of_no_colour (h : LedInStep shown held rs pending) (hnone : coloursOf rs = []) :
    pending = false ∧ held.base = shown.base := by
  rcases h.colour with ⟨-, hpending, hbase⟩ | ⟨rgb, hone, -⟩
  · exact ⟨hpending, hbase⟩
  · rw [hnone] at hone
    cases hone

/-- **A quiet method is suspended.** -/
theorem LedInStep.append (h : LedInStep shown held rs pending) {r : Resume} (hr : r.Quiet) :
    LedInStep shown held (rs ++ [r]) pending := by
  have hcolours : coloursOf (rs ++ [r]) = coloursOf rs := by
    rw [coloursOf_append, hr.1]
    exact List.append_nil _
  have hmem : ∀ x : Resume, x ∈ rs ++ [r] → ¬x.Quiet → x ∈ rs := by
    intro x hx hloud
    rcases List.mem_append.mp hx with hold | hnew
    · exact hold
    · rw [List.mem_singleton.mp hnew] at hloud
      exact absurd hr hloud
  have hstatic : .staticColour ∈ rs ++ [r] → .staticColour ∈ rs := fun hx => hmem _ hx fun hq => hq.2 rfl
  refine ⟨?_, fun hx => ?_, fun rgb effect hx => ?_, fun hs => ?_, fun hs => ?_, h.dynamic, h.brightness⟩
  · rw [hcolours]
    exact h.colour
  · rw [hcolours]
    exact h.settling (hstatic hx)
  · exact h.recolouring rgb effect (hmem _ hx fun hq => nomatch hq.1)
  · exact (h.isStatic hs).imp_left (List.mem_append_left _)
  · exact (h.isDynamic hs).imp_left fun ⟨rgb, effect, hx⟩ => ⟨rgb, effect, List.mem_append_left _ hx⟩

/-- **A quiet method is resumed.** -/
theorem LedInStep.tail {r : Resume} (h : LedInStep shown held (r :: rs) pending) (hr : r.Quiet) :
    LedInStep shown held rs pending := by
  have hcolours : coloursOf (r :: rs) = coloursOf rs := by
    rw [coloursOf_cons, hr.1]
    rfl
  have hmem : ∀ x : Resume, x ∈ r :: rs → ¬x.Quiet → x ∈ rs := by
    intro x hx hloud
    rcases List.mem_cons.mp hx with rfl | hrest
    · exact absurd hr hloud
    · exact hrest
  refine ⟨?_, fun hx => ?_, fun rgb effect hx => ?_, fun hs => ?_, fun hs => ?_, h.dynamic, h.brightness⟩
  · rw [← hcolours]
    exact h.colour
  · rw [← hcolours]
    exact h.settling (List.mem_cons_of_mem _ hx)
  · exact h.recolouring rgb effect (List.mem_cons_of_mem _ hx)
  · exact (h.isStatic hs).imp_left fun hx => hmem _ hx fun hq => hq.2 rfl
  · exact (h.isDynamic hs).imp_left fun ⟨rgb, effect, hx⟩ => ⟨rgb, effect, hmem _ hx fun hq => nomatch hq.1⟩

/-- **To static mode**, with no colour operation under way. -/
theorem LedInStep.toStatic (h : LedInStep shown held rs pending) (hnone : coloursOf rs = []) (effect : Int)
    (speed : UInt8) :
    LedInStep { shown with isStatic := true } { held with isStatic := false, effect := effect, speed := speed }
      (rs ++ [.staticColour]) pending := by
  have hcolours : coloursOf (rs ++ [.staticColour]) = [] := by
    rw [coloursOf_append, hnone]
    rfl
  refine ⟨.inl ⟨hcolours, h.base_of_no_colour hnone⟩, fun _ => ⟨rfl, hcolours⟩, fun rgb e hx => ?_,
    fun _ => .inl (by simp), nofun, nofun, h.brightness⟩
  have hmem := mem_coloursOf hx
  rw [hcolours] at hmem
  cases hmem

/-- **An effect is set**: in dynamic mode, or back to it. -/
theorem LedInStep.setEffect (h : LedInStep shown held rs pending) (hsettled : .staticColour ∉ rs) (effect : Int)
    (speed : UInt8) (hsame : ∀ rgb waiting, .colourEffect rgb waiting ∈ rs → effect = waiting.toNat) :
    LedInStep { shown with isStatic := false, effect := effect, speed := speed }
      { held with isStatic := false, effect := effect, speed := speed } rs pending where
  colour := h.colour
  settling := fun hx => absurd hx hsettled
  recolouring := fun rgb waiting hx => ⟨rfl, hsame rgb waiting hx⟩
  isStatic := nofun
  isDynamic := fun _ => .inr rfl
  dynamic := fun _ => ⟨rfl, rfl⟩
  brightness := h.brightness

/-- **A colour operation begins.** -/
theorem LedInStep.setColour (h : LedInStep shown held rs pending) (hfree : pending = false)
    (hsettled : .staticColour ∉ rs) (rgb : Rgb) (effect : UInt8) (heffect : shown.effect = effect.toNat) :
    LedInStep shown { held with isStatic := true, base := rgb }
      (rs ++ [if shown.isStatic then .colourStore rgb else .colourEffect rgb effect]) true := by
  have hnone : coloursOf rs = [] := by
    rcases h.colour with ⟨hnone, -⟩ | ⟨_, -, hpending, -⟩
    · exact hnone
    · rw [hfree] at hpending
      cases hpending
  have hnew : ∀ r : Resume, r.colour? = some rgb → coloursOf (rs ++ [r]) = [rgb] := by
    intro r hr
    rw [coloursOf_append, hnone, hr]
    rfl
  cases hmode : shown.isStatic with
  | true =>
      rw [if_pos rfl]
      refine ⟨.inr ⟨rgb, hnew _ rfl, rfl, rfl⟩, fun hx => ?_, fun other e hx => ?_, fun _ => .inr rfl,
        fun hs => ?_, fun hs => ?_, h.brightness⟩
      · rcases List.mem_append.mp hx with hold | hnow
        · exact absurd hold hsettled
        · cases List.mem_singleton.mp hnow
      · rcases List.mem_append.mp hx with hold | hnow
        · exact h.recolouring other e hold
        · cases List.mem_singleton.mp hnow
      · rw [hmode] at hs
        cases hs
      · rw [hmode] at hs
        cases hs
  | false =>
      rw [if_neg Bool.false_ne_true]
      refine ⟨.inr ⟨rgb, hnew _ rfl, rfl, rfl⟩, fun hx => ?_, fun other e hx => ?_, fun hs => ?_,
        fun _ => .inl ⟨rgb, effect, by simp⟩, fun hs => h.dynamic hs, h.brightness⟩
      · rcases List.mem_append.mp hx with hold | hnow
        · exact absurd hold hsettled
        · cases List.mem_singleton.mp hnow
      · rcases List.mem_append.mp hx with hold | hnow
        · exact h.recolouring other e hold
        · obtain ⟨rfl, rfl⟩ := Resume.colourEffect.inj (List.mem_singleton.mp hnow)
          exact ⟨hmode, heffect⟩
      · rw [hmode] at hs
        cases hs

/-- **The brightness**, on both sides. -/
theorem LedInStep.setBrightness (h : LedInStep shown held rs pending) (brightness : UInt8) :
    LedInStep { shown with brightness := brightness } { held with brightness := brightness } rs pending where
  colour := h.colour
  settling := h.settling
  recolouring := h.recolouring
  isStatic := h.isStatic
  isDynamic := h.isDynamic
  dynamic := h.dynamic
  brightness := rfl

/-- **`set_led_static(true)` shows the base colour.** -/
theorem LedInStep.staticColour (h : LedInStep shown held (.staticColour :: rs) pending) :
    LedInStep shown { held with isStatic := true, base := shown.base } (rs ++ [.staticBrightness]) pending := by
  obtain ⟨hmode, hnone⟩ := h.settling List.mem_cons_self
  have hnone' : coloursOf rs = [] := hnone
  have hshown : LedInStep shown { held with isStatic := true, base := shown.base } rs pending := by
    refine ⟨.inl ⟨hnone', (h.base_of_no_colour hnone).1, rfl⟩, fun _ => ⟨hmode, hnone'⟩,
      fun rgb effect hx => ?_, fun _ => .inr rfl, fun hs => ?_, fun hs => ?_, h.brightness⟩
    · have hmem := mem_coloursOf hx
      rw [hnone'] at hmem
      cases hmem
    · rw [hmode] at hs
      cases hs
    · rw [hmode] at hs
      cases hs
  exact hshown.append ⟨rfl, nofun⟩

/-- **`set_led_color` sets the effect again**, the one that is shown. -/
theorem LedInStep.colourEffect {rgb : Rgb} {effect : UInt8}
    (h : LedInStep shown held (.colourEffect rgb effect :: rs) pending) :
    LedInStep shown { held with isStatic := false, effect := effect.toNat, speed := shown.speed }
      (rs ++ [.colourStore rgb]) pending := by
  obtain ⟨hmode, heffect⟩ := h.recolouring rgb effect List.mem_cons_self
  have hcons : coloursOf (.colourEffect rgb effect :: rs) = rgb :: coloursOf rs := rfl
  rcases h.colour with ⟨hnone, -⟩ | ⟨other, hone, hpending, hbase⟩
  · rw [hcons] at hnone
    cases hnone
  · rw [hcons] at hone
    obtain ⟨rfl, hrest⟩ := List.cons.inj hone
    have hnew : coloursOf (rs ++ [.colourStore rgb]) = [rgb] := by
      rw [coloursOf_append, hrest]
      rfl
    refine ⟨.inr ⟨rgb, hnew, hpending, hbase⟩, fun hx => ?_, fun other e hx => ?_, fun hs => ?_, fun _ => .inr rfl,
      fun _ => ⟨heffect.symm, rfl⟩, h.brightness⟩
    · rcases List.mem_append.mp hx with hold | hnow
      · have hcontra := (h.settling (List.mem_cons_of_mem _ hold)).2
        rw [hcons] at hcontra
        cases hcontra
      · cases List.mem_singleton.mp hnow
    · rcases List.mem_append.mp hx with hold | hnow
      · have hmem := mem_coloursOf hold
        rw [hrest] at hmem
        cases hmem
      · cases List.mem_singleton.mp hnow
    · rw [hmode] at hs
      cases hs

/-- **And stores the colour.** -/
theorem LedInStep.colourStore {rgb : Rgb} (h : LedInStep shown held (.colourStore rgb :: rs) pending) :
    LedInStep { shown with base := rgb } held rs false := by
  have hcons : coloursOf (.colourStore rgb :: rs) = rgb :: coloursOf rs := rfl
  rcases h.colour with ⟨hnone, -⟩ | ⟨other, hone, hpending, hbase⟩
  · rw [hcons] at hnone
    cases hnone
  · rw [hcons] at hone
    obtain ⟨rfl, hrest⟩ := List.cons.inj hone
    have hloud : ∀ x : Resume, x ≠ .colourStore rgb → x ∈ Resume.colourStore rgb :: rs → x ∈ rs :=
      fun x hne hx => (List.mem_cons.mp hx).resolve_left hne
    exact ⟨.inl ⟨hrest, rfl, hbase⟩, fun hx => ⟨(h.settling (List.mem_cons_of_mem _ hx)).1, hrest⟩,
      fun other e hx => h.recolouring other e (List.mem_cons_of_mem _ hx),
      fun hs => (h.isStatic hs).imp_left (hloud _ nofun),
      fun hs => (h.isDynamic hs).imp_left fun ⟨other, e, hx⟩ => ⟨other, e, hloud _ nofun hx⟩,
      h.dynamic, h.brightness⟩

end Led

/-! ## The invariant of the page -/

/-- The trigger mode that will be shown once the suspended methods have stored theirs. -/
def laterTriggers (rs : List Resume) (shown : Bool) : Bool :=
  rs.foldl (fun shown r =>
    match r with
    | .storeTriggers enable => enable
    | _ => shown) shown

/-- What does not concern the LEDs: the picture shows the slot after the calls that were sent, and no method
that has something left to do waits for a refusal. -/
structure OthersInStep (s : SettingsController) : Prop where
  plain : s.current.plainView = s.future.plainView
  emulation : s.current.emulateActive = true → s.future.emulateActive = true
  triggers : laterTriggers s.resumes s.current.triggersDigital = s.future.isTriggerDigital
  replied : ∀ reply ∈ s.replies, reply.1 = false → reply.2 = .finished
  accepted : ∀ call ∈ s.calls, call.2 ≠ .finished → ∀ slot, (dbusSet slot call.1).isSome = true

/-- **The invariant.** -/
structure SettingsInStep (s : SettingsController) : Prop where
  others : OthersInStep s
  led : LedInStep s.current.ledView s.future.ledView s.resumes s.colourPending

section Send

variable {s : SettingsController}

theorem future_send (call : DbusSetter) (r : Resume) : (s.send call r).future = bridgeSet s.future call := by
  unfold SettingsController.future SettingsController.send
  rw [List.foldl_append]
  rfl

theorem resumes_send (call : DbusSetter) (r : Resume) : (s.send call r).resumes = s.resumes ++ [r] := by
  unfold SettingsController.resumes SettingsController.send
  rw [List.map_append, List.append_assoc]
  rfl

theorem laterTriggers_append (rs : List Resume) (r : Resume) (shown : Bool) :
    laterTriggers (rs ++ [r]) shown = laterTriggers [r] (laterTriggers rs shown) := List.foldl_append

/-- A resumption that stores no trigger mode. -/
theorem laterTriggers_single {r : Resume} (hr : ∀ enable, r ≠ .storeTriggers enable) (shown : Bool) :
    laterTriggers [r] shown = shown := by
  cases r with
  | storeTriggers enable => exact absurd rfl (hr enable)
  | _ => rfl

/-- **A call is sent**, by a method that has changed the picture to `c`. -/
theorem OthersInStep.send (h : OthersInStep s) {c : GuiController} {pending : Bool} {call : DbusSetter} {r : Resume}
    (hplain : c.plainView = (bridgeSet s.future call).plainView)
    (hemulation : c.emulateActive = true → (bridgeSet s.future call).emulateActive = true)
    (htriggers : laterTriggers [r] (laterTriggers s.resumes c.triggersDigital) =
      (bridgeSet s.future call).isTriggerDigital)
    (hnew : r ≠ .finished → ∀ slot, (dbusSet slot call).isSome = true) :
    OthersInStep ({ s with current := c, colourPending := pending }.send call r) := by
  refine ⟨?_, ?_, ?_, h.replied, fun sent hsent => ?_⟩
  · rw [future_send]
    exact hplain
  · rw [future_send]
    exact hemulation
  · rw [future_send, resumes_send, laterTriggers_append]
    exact htriggers
  · rcases List.mem_append.mp hsent with hold | hnow
    · exact h.accepted sent hold
    · rw [List.mem_singleton.mp hnow]
      exact hnew

/-- **A call about the LEDs**, by a method that has changed them in the picture. -/
theorem OthersInStep.sendLed (h : OthersInStep s) {c : GuiController} {pending : Bool} {call : DbusSetter}
    {r : Resume} (hc : c.plainView = s.current.plainView ∧ c.emulateActive = s.current.emulateActive ∧
      c.triggersDigital = s.current.triggersDigital) (hcall : call.forLed = true)
    (hr : ∀ enable, r ≠ .storeTriggers enable) :
    OthersInStep ({ s with current := c, colourPending := pending }.send call r) := by
  obtain ⟨hplain, hemulation, htriggers, -⟩ := bridgeSet_forLed s.future hcall
  refine h.send ?_ ?_ ?_ fun _ slot => (bridgeSet_forLed slot hcall).2.2.2
  · rw [hc.1, hplain]
    exact h.plain
  · rw [hc.2.1, hemulation]
    exact h.emulation
  · rw [hc.2.2, htriggers, laterTriggers_single hr]
    exact h.triggers

/-- The LEDs after it. -/
theorem led_send {c : GuiController} {pending : Bool} {call : DbusSetter} {r : Resume}
    (h : LedInStep c.ledView (bridgeSet s.future call).ledView (s.resumes ++ [r]) pending) :
    LedInStep ({ s with current := c, colourPending := pending }.send call r).current.ledView
      ({ s with current := c, colourPending := pending }.send call r).future.ledView
      ({ s with current := c, colourPending := pending }.send call r).resumes pending := by
  rw [future_send, resumes_send]
  exact h

end Send

/-! ## The methods -/

section Methods

variable {s : SettingsController}

/-- **A plain setter.** -/
theorem SettingsInStep.plain {β : Type} [DecidableEq β] (h : SettingsInStep s) {f : PlainSetter β} (hf : f.Lawful)
    (v : β) : SettingsInStep (s.plain f v) := by
  unfold SettingsController.plain
  split
  · exact h
  · obtain ⟨update, hput, hcall⟩ := hf.same
    refine ⟨h.others.send ?_ (hf.emulation _ _ v h.others.emulation) ?_ (absurd rfl), led_send ?_⟩
    · rw [hput, hcall, h.others.plain]
    · rw [hf.triggers.1, hf.triggers.2]
      exact h.others.triggers
    · rw [hf.led.1, hf.led.2]
      exact h.led.append ⟨rfl, nofun⟩

/-- **`set_led_static`.** -/
theorem SettingsInStep.setLedStatic (h : SettingsInStep s) (isStatic : Bool)
    (horder : (PageMove.ledStatic isStatic).Orderly s) : SettingsInStep (s.setLedStatic isStatic) := by
  unfold SettingsController.setLedStatic
  split
  · exact h
  · dsimp only
    cases isStatic with
    | true =>
        rw [if_pos rfl]
        refine ⟨h.others.sendLed ⟨rfl, rfl, rfl⟩ rfl nofun, led_send ?_⟩
        rw [ledView_setEffect]
        exact h.led.toStatic horder _ _
    | false =>
        rw [if_neg Bool.false_ne_true]
        refine ⟨h.others.sendLed ⟨rfl, rfl, rfl⟩ rfl nofun, led_send ?_⟩
        rw [ledView_setEffect]
        exact (h.led.setEffect horder _ _ fun rgb waiting hx => (h.led.recolouring rgb waiting hx).2).append
          ⟨rfl, nofun⟩

/-- **`set_effect`.** -/
theorem SettingsInStep.setEffect (h : SettingsInStep s) (effect speed brightness : UInt8)
    (horder : (PageMove.effect effect speed brightness).Orderly s) :
    SettingsInStep (s.setEffect effect speed brightness) := by
  obtain ⟨hmode, hne, rfl, hsame⟩ := horder
  have hsettled : .staticColour ∉ s.resumes := by
    intro hx
    have hstatic : s.current.ledStatic = true := (h.led.settling hx).1
    rw [hmode] at hstatic
    cases hstatic
  unfold SettingsController.setEffect
  split
  · exact h
  · refine ⟨h.others.sendLed ⟨rfl, rfl, rfl⟩ rfl nofun, led_send ?_⟩
    have hshown : ({ s.current with
        currentEffect := effect, effectSpeed := speed,
        globalBrightness := s.current.globalBrightness } : GuiController).ledView =
        { s.current.ledView with isStatic := false, effect := effect.toNat, speed := speed } := by
      have heffect : ({ s.current with
          currentEffect := effect, effectSpeed := speed,
          globalBrightness := s.current.globalBrightness } : GuiController).effectToSend = effect := if_neg hne
      unfold GuiController.ledView
      rw [heffect, hmode]
    rw [hshown, ledView_setEffect]
    refine (h.led.setEffect hsettled _ _ fun rgb waiting hx => ?_).append ⟨rfl, nofun⟩
    rw [hsame rgb waiting hx]

/-- **`set_led_color`.** -/
theorem SettingsInStep.setLedColor (h : SettingsInStep s) (rgb : Rgb) (hsettled : .staticColour ∉ s.resumes) :
    SettingsInStep (s.setLedColor rgb) := by
  unfold SettingsController.setLedColor
  by_cases hsame : s.current.ledBaseR = rgb.r ∧ s.current.ledBaseG = rgb.g ∧ s.current.ledBaseB = rgb.b
  · rw [if_pos hsame]
    exact h
  · rw [if_neg hsame]
    by_cases hpending : s.colourPending = true
    · rw [if_pos hpending]
      exact ⟨⟨h.others.plain, h.others.emulation, h.others.triggers, h.others.replied, h.others.accepted⟩, h.led⟩
    · rw [if_neg hpending]
      refine ⟨h.others.sendLed ⟨rfl, rfl, rfl⟩ rfl (fun enable => ?_), led_send ?_⟩
      · split <;> exact nofun
      · rw [ledView_setLed]
        exact h.led.setColour (Bool.not_eq_true _ ▸ hpending) hsettled rgb s.current.effectToSend rfl

/-- **`set_brightness`.** -/
theorem SettingsInStep.setBrightness (h : SettingsInStep s) (brightness : UInt8) :
    SettingsInStep (s.setBrightness brightness) := by
  unfold SettingsController.setBrightness
  split
  · exact h
  · refine ⟨h.others.sendLed ⟨rfl, rfl, rfl⟩ rfl nofun, led_send ?_⟩
    rw [ledView_setGlobalBrightness]
    exact (h.led.setBrightness _).append ⟨rfl, nofun⟩

/-- **`set_triggers_digital`.** -/
theorem SettingsInStep.setTriggersDigital (h : SettingsInStep s) (enable : Bool) :
    SettingsInStep (s.setTriggersDigital enable) :=
  ⟨h.others.send h.others.plain h.others.emulation rfl fun _ _ => rfl,
    led_send (h.led.append ⟨rfl, nofun⟩)⟩

/-- **The layouts**: requests to the worker. -/
theorem SettingsInStep.applyLayout (h : SettingsInStep s) (toSwitch : Bool) :
    SettingsInStep (s.applyLayout toSwitch) := by
  unfold SettingsController.applyLayout
  cases toSwitch with
  | true =>
      exact ⟨h.others.send h.others.plain h.others.emulation h.others.triggers (absurd rfl),
        led_send (h.led.append ⟨rfl, nofun⟩)⟩
  | false =>
      exact ⟨h.others.send h.others.plain h.others.emulation h.others.triggers (absurd rfl),
        led_send (h.led.append ⟨rfl, nofun⟩)⟩

end Methods

/-! ## The replies -/

section Replies

variable {s : SettingsController} {ok : Bool} {r : Resume} {rest : List (Bool × Resume)}

theorem resumes_of_replies (hreplies : s.replies = (ok, r) :: rest) :
    s.resumes = r :: { s with replies := rest }.resumes := by
  unfold SettingsController.resumes
  rw [hreplies]
  rfl

/-- **The bridge handles a call**: nothing is under way that was not. -/
theorem SettingsInStep.handle (h : SettingsInStep s) {call : DbusSetter} {r : Resume}
    {rest : List (DbusSetter × Resume)} (hcalls : s.calls = (call, r) :: rest) :
    SettingsInStep { s with
      slot := bridgeSet s.slot call
      calls := rest
      replies := s.replies ++ [((dbusSet s.slot call).isSome, r)] } := by
  have hfuture : ({ s with
      slot := bridgeSet s.slot call
      calls := rest
      replies := s.replies ++ [((dbusSet s.slot call).isSome, r)] } : SettingsController).future = s.future := by
    unfold SettingsController.future
    rw [hcalls]
    rfl
  have hresumes : ({ s with
      slot := bridgeSet s.slot call
      calls := rest
      replies := s.replies ++ [((dbusSet s.slot call).isSome, r)] } : SettingsController).resumes =
      s.resumes := by
    unfold SettingsController.resumes
    dsimp only
    rw [hcalls, List.map_append, List.append_assoc]
    rfl
  refine ⟨⟨?_, ?_, ?_, fun reply hreply hrefused => ?_, fun sent hsent => ?_⟩, ?_⟩
  · rw [hfuture]
    exact h.others.plain
  · rw [hfuture]
    exact h.others.emulation
  · rw [hfuture, hresumes]
    exact h.others.triggers
  · rcases List.mem_append.mp hreply with hold | hnow
    · exact h.others.replied reply hold hrefused
    · -- a method with more to do made a call that is never refused
      rw [List.mem_singleton.mp hnow] at hrefused ⊢
      by_contra hmore
      have haccepted := h.others.accepted (call, r) (hcalls ▸ List.mem_cons_self) hmore s.slot
      exact Bool.false_ne_true (hrefused.symm.trans haccepted)
  · exact h.others.accepted sent (hcalls ▸ List.mem_cons_of_mem _ hsent)
  · rw [hfuture, hresumes]
    exact h.led

/-- A reply is taken. -/
theorem OthersInStep.pop (h : OthersInStep s) (hreplies : s.replies = (ok, r) :: rest)
    (hr : ∀ enable, r ≠ .storeTriggers enable) : OthersInStep { s with replies := rest } where
  plain := h.plain
  emulation := h.emulation
  triggers := by
    have htriggers := h.triggers
    rw [resumes_of_replies hreplies] at htriggers
    show laterTriggers _ s.current.triggersDigital = s.future.isTriggerDigital
    rw [← htriggers]
    show _ = laterTriggers _ (laterTriggers [r] s.current.triggersDigital)
    rw [laterTriggers_single hr]
  replied := fun reply hreply => h.replied reply (hreplies ▸ List.mem_cons_of_mem _ hreply)
  accepted := h.accepted

/-- **A method goes on.** -/
theorem SettingsInStep.resume (h : SettingsInStep s) (hreplies : s.replies = (ok, r) :: rest) :
    SettingsInStep ({ s with replies := rest }.resume r) := by
  have hled := h.led
  rw [resumes_of_replies hreplies] at hled
  cases r with
  | finished => exact ⟨h.others.pop hreplies nofun, hled.tail ⟨rfl, nofun⟩⟩
  | staticColour =>
      refine ⟨(h.others.pop hreplies nofun).sendLed ⟨rfl, rfl, rfl⟩ rfl nofun, led_send (s := { s with replies := rest }) ?_⟩
      rw [ledView_setLed _ ⟨s.current.ledBaseR, s.current.ledBaseG, s.current.ledBaseB⟩]
      exact hled.staticColour
  | staticBrightness =>
      refine ⟨(h.others.pop hreplies nofun).sendLed ⟨rfl, rfl, rfl⟩ rfl nofun, led_send (s := { s with replies := rest }) ?_⟩
      rw [ledView_setGlobalBrightness]
      exact ((hled.tail ⟨rfl, nofun⟩).setBrightness _).append ⟨rfl, nofun⟩
  | colourEffect rgb effect =>
      refine ⟨(h.others.pop hreplies nofun).sendLed ⟨rfl, rfl, rfl⟩ rfl nofun, led_send (s := { s with replies := rest }) ?_⟩
      rw [ledView_setEffect]
      exact hled.colourEffect
  | colourStore rgb =>
      have hpopped : OthersInStep { s with replies := rest } := h.others.pop hreplies nofun
      exact ⟨⟨hpopped.plain, hpopped.emulation, hpopped.triggers, hpopped.replied, hpopped.accepted⟩,
        hled.colourStore⟩
  | brightnessEffect brightness =>
      have hquiet := hled.tail ⟨rfl, nofun⟩
      unfold SettingsController.resume
      dsimp only
      cases hmode : s.current.ledStatic with
      | true => exact ⟨h.others.pop hreplies nofun, hquiet⟩
      | false =>
          refine ⟨(h.others.pop hreplies nofun).sendLed ⟨rfl, rfl, rfl⟩ rfl nofun, led_send (s := { s with replies := rest }) ?_⟩
          have hsettled : .staticColour ∉ ({ s with replies := rest } : SettingsController).resumes := by
            intro hx
            have hstatic : s.current.ledStatic = true := (hquiet.settling hx).1
            rw [hmode] at hstatic
            cases hstatic
          have hshown : s.current.ledView = { s.current.ledView with isStatic := false } := by
            unfold GuiController.ledView
            rw [hmode]
          rw [ledView_setEffect, hshown]
          exact (hquiet.setEffect hsettled _ _ fun rgb waiting hx => (hquiet.recolouring rgb waiting hx).2).append
            ⟨rfl, nofun⟩
  | storeTriggers enable =>
      have htriggers := h.others.triggers
      rw [resumes_of_replies hreplies] at htriggers
      exact ⟨⟨h.others.plain, h.others.emulation, htriggers,
        fun reply hreply => h.others.replied reply (hreplies ▸ List.mem_cons_of_mem _ hreply), h.others.accepted⟩,
        hled.tail ⟨rfl, nofun⟩⟩

end Replies

/-! ## A refresh -/

theorem clampAbove_of_le {max v : UInt8} (h : v ≤ max) : clampAbove max v = v := by
  unfold clampAbove
  exact if_neg (UInt8.not_lt.mpr h)

section Refresh

variable {s : SettingsController}

/-- What a suspended method cannot be waiting for, when there is none. -/
theorem future_of_rest (hrest : s.AtRest) : s.future = s.slot ∧ s.resumes = [] := by
  unfold SettingsController.future SettingsController.resumes
  rw [hrest.1, hrest.2]
  exact ⟨rfl, rfl⟩

/-- **The effect and the speed of a dynamic slot** are shown as they are. -/
theorem shownEffect_of_dynamic {slot : Slot} (h : Showable slot) (hmode : slot.ledStatic = false) :
    ((if shownEffect slot.ledRequestEffect = 0 then 1 else shownEffect slot.ledRequestEffect : UInt8).toNat : Int) =
        slot.ledRequestEffect ∧ shownSpeed slot.ledRequestSpeed = slot.ledRequestSpeed := by
  obtain ⟨hone, height, hspeed⟩ := h.dynamic hmode
  have hshown : ((shownEffect slot.ledRequestEffect).toNat : Int) = slot.ledRequestEffect := by
    unfold shownEffect
    rw [if_pos ⟨by omega, height⟩]
    exact toNat_toU8 (by omega)
  have hne : shownEffect slot.ledRequestEffect ≠ 0 := by
    intro hzero
    rw [hzero] at hshown
    have hnat : (0 : UInt8).toNat = 0 := rfl
    omega
  rw [if_neg hne]
  exact ⟨hshown, if_neg hspeed⟩

/-- **A refresh at rest shows the slot.** -/
theorem SettingsInStep.refresh (h : SettingsInStep s) {st : ControllerState}
    (horder : (PageMove.refresh st).Orderly s) :
    SettingsInStep { s with
      current := s.current.mergeConfig (getControllerInfo s.current.slot (controllerInfo st)) } := by
  obtain ⟨hrest, hslot, hshow⟩ := horder
  obtain ⟨hfuture, hresumes⟩ := future_of_rest hrest
  have hinfo := (getControllerInfo_eq_showing_iff s.current.slot st).mpr (hslot.symm ▸ hshow.presets)
  have hpreset : ∀ old v : UInt8, v ≤ 7 → setPreset old v = v := fun old v hv => if_pos hv
  have hled := h.led
  rw [hresumes] at hled
  obtain ⟨hpending, -⟩ := hled.base_of_no_colour rfl
  rw [hinfo]
  have hplain : (s.current.mergeConfig ((GuiController.new s.current.slot).showing st)).plainView =
      s.slot.plainView := by
    rw [← hslot] at hshow ⊢
    simp only [GuiController.plainView, GuiController.mergeConfig, GuiController.showing, Slot.plainView,
      hpreset _ _ hshow.presets.1, hpreset _ _ hshow.presets.2, clampAbove_of_le hshow.playerLeds,
      clampAbove_of_le hshow.rumbleGain, clampAbove_of_le hshow.deadzone]
  have hview : LedAgrees (s.current.mergeConfig ((GuiController.new s.current.slot).showing st)).ledView
      s.slot.ledView := by
    rw [← hslot] at hshow ⊢
    refine ⟨rfl, rfl, fun hmode => ?_, (clampAbove_of_le hshow.brightness).symm⟩
    obtain ⟨heffect, hspeed⟩ := shownEffect_of_dynamic hshow hmode
    exact ⟨heffect.symm, hspeed.symm⟩
  refine ⟨⟨?_, ?_, ?_, h.others.replied, h.others.accepted⟩, ?_⟩
  · show _ = s.future.plainView
    rw [hfuture]
    exact hplain
  · show st.slot.emulateActive = true → s.future.emulateActive = true
    rw [hfuture, hslot]
    exact id
  · show laterTriggers s.resumes st.slot.isTriggerDigital = s.future.isTriggerDigital
    rw [hfuture, hresumes, hslot]
    rfl
  · show LedInStep _ s.future.ledView s.resumes s.colourPending
    rw [hfuture, hresumes, hpending]
    exact ⟨.inl ⟨rfl, rfl, hview.base⟩, nofun, nofun, fun hs => .inr (hview.isStatic.trans hs),
      fun hs => .inr (hview.isStatic.trans hs), hview.dynamic, hview.brightness⟩

end Refresh

/-! ## Whole runs -/

/-- **What one step keeps.** -/
theorem SettingsInStep.step {s s' : SettingsController} (h : SettingsInStep s) {move : PageMove}
    (horder : move.Orderly s) (hstep : pageStep move s = some s') : SettingsInStep s' := by
  cases move with
  | flag i v =>
      cases hstep
      exact h.plain (flagSetters_lawful _ (List.get_mem _ i)) v
  | byte i v =>
      cases hstep
      exact h.plain (byteSetters_lawful _ (List.get_mem _ i)) v
  | ledStatic isStatic =>
      cases hstep
      exact h.setLedStatic isStatic horder
  | effect effect speed brightness =>
      cases hstep
      exact h.setEffect effect speed brightness horder
  | ledColor rgb =>
      cases hstep
      exact h.setLedColor rgb horder
  | brightness brightness =>
      cases hstep
      exact h.setBrightness brightness
  | triggersDigital enable =>
      cases hstep
      exact h.setTriggersDigital enable
  | layout toSwitch =>
      cases hstep
      exact h.applyLayout toSwitch
  | wake n =>
      simp only [pageStep] at hstep
      split at hstep
      · rename_i rgb _
        cases hstep
        have hawake : SettingsInStep { s with asleep := s.asleep.eraseIdx n } :=
          ⟨⟨h.others.plain, h.others.emulation, h.others.triggers, h.others.replied, h.others.accepted⟩, h.led⟩
        exact hawake.setLedColor rgb horder
      · cases hstep
  | handle available =>
      obtain rfl : available = true := horder
      simp only [pageStep] at hstep
      split at hstep
      · cases hstep
      · rename_i call r rest hcalls
        cases hstep
        exact h.handle hcalls
  | reply =>
      simp only [pageStep] at hstep
      split at hstep
      · cases hstep
      · rename_i ok r rest hreplies
        cases ok with
        | true =>
            cases hstep
            exact h.resume hreplies
        | false =>
            cases hstep
            obtain rfl : r = .finished := h.others.replied (false, r) (hreplies ▸ List.mem_cons_self) rfl
            exact h.resume hreplies
  | refresh st =>
      cases hstep
      exact h.refresh horder

theorem settingsInStep_of_agrees {s : SettingsController} (hrest : s.AtRest) (hfree : s.colourPending = false)
    (h : PictureAgrees s.current s.slot) : SettingsInStep s := by
  obtain ⟨hfuture, hresumes⟩ := future_of_rest hrest
  refine ⟨⟨?_, ?_, ?_, ?_, ?_⟩, ?_⟩
  · rw [hfuture]
    exact h.plain
  · rw [hfuture]
    exact h.emulation
  · rw [hfuture, hresumes]
    exact h.triggers
  · rw [hrest.2]
    exact nofun
  · rw [hrest.1]
    exact nofun
  · rw [hfuture, hresumes, hfree]
    exact ⟨.inl ⟨rfl, rfl, h.led.base⟩, nofun, nofun, fun hs => .inr (h.led.isStatic.trans hs),
      fun hs => .inr (h.led.isStatic.trans hs), h.led.dynamic, h.led.brightness⟩

theorem SettingsInStep.agrees {s : SettingsController} (h : SettingsInStep s) (hrest : s.AtRest) :
    PictureAgrees s.current s.slot := by
  obtain ⟨hfuture, hresumes⟩ := future_of_rest hrest
  have hplain := h.others.plain
  have hemulation := h.others.emulation
  have htriggers := h.others.triggers
  have hled := h.led
  rw [hfuture] at hplain hemulation htriggers hled
  rw [hresumes] at htriggers hled
  refine ⟨hplain, hemulation, htriggers, ⟨?_, (hled.base_of_no_colour rfl).2, hled.dynamic, hled.brightness⟩⟩
  cases hmode : s.current.ledView.isStatic with
  | true => exact (hled.isStatic hmode).resolve_left nofun
  | false => exact (hled.isDynamic hmode).resolve_left fun ⟨_, _, hx⟩ => nomatch hx

/-- **The picture stays right.**  From a picture that agrees with the slot, over every interleaving of the
user's methods, the bridge's handling of the calls and the replies, as long as the steps are in order: whenever
nothing is under way, the picture agrees with the slot again. -/
theorem settings_in_step {s₀ s : SettingsController} (hrest₀ : s₀.AtRest) (hfree : s₀.colourPending = false)
    (hagrees : PictureAgrees s₀.current s₀.slot) (hrun : Run pageStep PageMove.Orderly s₀ s)
    (hrest : s.AtRest) : PictureAgrees s.current s.slot := by
  have hinvariant : SettingsInStep s :=
    hrun.invariant (fun _ _ _ h horder hstep => h.step horder hstep)
      (settingsInStep_of_agrees hrest₀ hfree hagrees)
  exact hinvariant.agrees hrest

/-- The page of a DualSense that breathes in blue. -/
def breathingPage : SettingsController where
  current :=
    { GuiController.new 0 with
      ledBaseB := 255
      rumbleGain := 100
      globalBrightness := 100
      ledReapply := true
      rumbleActive := true
      currentEffect := 1
      effectSpeed := 5 }
  slot := { pluggedSlot with ledStatic := false, ledRequestEffect := 1 }
  calls := []
  replies := []
  asleep := []
  colourPending := false

theorem breathingPage_agrees : PictureAgrees breathingPage.current breathingPage.slot :=
  ⟨rfl, nofun, rfl, rfl, rfl, fun _ => ⟨rfl, rfl⟩, rfl⟩

/-- A test for the moves of the run below. -/
def orderlyTest (move : PageMove) (s : SettingsController) : Bool :=
  match move with
  | .ledStatic true => decide (s.colours = [])
  | .byte _ _ | .reply => true
  | .handle available => available
  | _ => false

theorem orderly_of_test (move : PageMove) (s : SettingsController) (h : orderlyTest move s = true) :
    move.Orderly s := by
  cases move with
  | ledStatic isStatic =>
      cases isStatic with
      | true => exact (of_decide_eq_true h : s.colours = [])
      | false => cases h
  | handle available => exact h
  | byte | reply => trivial
  | _ => cases h

/-- Static mode, and a deadzone above the limit before the first reply. -/
theorem settings_in_step_breathing : breathingPage.AtRest ∧ breathingPage.colourPending = false ∧
    ∃ s, Run pageStep PageMove.Orderly breathingPage s ∧ s.AtRest ∧ s.slot.ledStatic = true ∧
      s.slot.deadzone = 100 ∧ PictureAgrees s.current s.slot := by
  obtain ⟨s, hrun, hs⟩ : ∃ s, Run pageStep PageMove.Orderly breathingPage s ∧
      (s.calls.isEmpty && s.replies.isEmpty && s.slot.ledStatic && s.slot.deadzone == 100) = true :=
    exists_run_of_exec_checked orderly_of_test
      (p := fun s : SettingsController =>
        s.calls.isEmpty && s.replies.isEmpty && s.slot.ledStatic && s.slot.deadzone == 100)
      [.ledStatic true, .byte ⟨2, by decide⟩ 120, .handle true, .reply, .handle true, .handle true, .reply, .reply,
        .handle true, .reply]
      (by decide +kernel)
  simp only [Bool.and_eq_true, List.isEmpty_iff, beq_iff_eq] at hs
  obtain ⟨⟨⟨hcalls, hreplies⟩, hstatic⟩, hdeadzone⟩ := hs
  exact ⟨⟨rfl, rfl⟩, rfl, s, hrun, ⟨hcalls, hreplies⟩, hstatic, hdeadzone,
    settings_in_step ⟨rfl, rfl⟩ rfl breathingPage_agrees hrun ⟨hcalls, hreplies⟩⟩

/-- The calls do not fail. -/
def handledTest (move : PageMove) (_ : SettingsController) : Bool :=
  match move with
  | .handle available => available
  | _ => true

theorem handled_of_test (move : PageMove) (s : SettingsController) (h : handledTest move s = true) :
    move ≠ .handle false := by
  rintro rfl
  cases h

/-- **To static mode and back before the first reply**: the slot ends up static, the picture dynamic, though no
call failed. -/
theorem switched_twice_out_of_step : ∃ s,
    Run pageStep (fun move _ => move ≠ .handle false) breathingPage s ∧ s.AtRest ∧
      s.current.ledStatic = false ∧ s.slot.ledStatic = true := by
  obtain ⟨s, hrun, hs⟩ : ∃ s, Run pageStep (fun move _ => move ≠ .handle false) breathingPage s ∧
      (s.calls.isEmpty && s.replies.isEmpty && !s.current.ledStatic && s.slot.ledStatic) = true :=
    exists_run_of_exec_checked handled_of_test
      (p := fun s : SettingsController =>
        s.calls.isEmpty && s.replies.isEmpty && !s.current.ledStatic && s.slot.ledStatic)
      [.ledStatic true, .ledStatic false, .handle true, .handle true, .reply, .reply, .handle true, .reply,
        .handle true, .reply]
      (by decide +kernel)
  simp only [Bool.and_eq_true, List.isEmpty_iff, Bool.not_eq_true'] at hs
  obtain ⟨⟨⟨hcalls, hreplies⟩, hshown⟩, hheld⟩ := hs
  exact ⟨s, hrun, ⟨hcalls, hreplies⟩, hshown, hheld⟩

/-! ## Colours -/

/-- Colour operations exclude each other. -/
def ColoursExclusive (s : SettingsController) : Prop :=
  s.colours.length ≤ 1 ∧ (s.colourPending = false → s.colours = [])

/-- A colour operation failed: the flag is up, and no method will take it down. -/
def ColoursJammed (s : SettingsController) : Prop := s.colours = [] ∧ s.colourPending = true

section Colours

variable {s s' : SettingsController}

/-- A step leaves the colour operations as they are. -/
def SameColours (s s' : SettingsController) : Prop :=
  s'.colours = s.colours ∧ s'.colourPending = s.colourPending

theorem sameColours_send {c : GuiController} (call : DbusSetter) {r : Resume} (hr : r.colour? = none) :
    SameColours s ({ s with current := c }.send call r) := by
  refine ⟨?_, rfl⟩
  show coloursOf (SettingsController.resumes _) = coloursOf s.resumes
  rw [resumes_send, coloursOf_append, hr]
  exact List.append_nil _

theorem sameColours_refl : SameColours s s := ⟨rfl, rfl⟩

/-- A method of the user other than `set_led_color`, or a refresh. -/
def PageMove.otherMethod : PageMove → Bool
  | .ledColor _ | .wake _ | .handle _ | .reply => false
  | _ => true

/-- **It begins no colour operation.** -/
theorem sameColours_method {move : PageMove} (hstep : pageStep move s = some s')
    (hmove : move.otherMethod = true) : SameColours s s' := by
  cases move with
  | flag i v =>
      cases hstep
      unfold SettingsController.plain
      split
      · exact sameColours_refl
      · exact sameColours_send _ rfl
  | byte i v =>
      cases hstep
      unfold SettingsController.plain
      split
      · exact sameColours_refl
      · exact sameColours_send _ rfl
  | ledStatic isStatic =>
      cases hstep
      unfold SettingsController.setLedStatic
      split
      · exact sameColours_refl
      · dsimp only
        split
        · exact sameColours_send _ rfl
        · exact sameColours_send _ rfl
  | effect effect speed brightness =>
      cases hstep
      unfold SettingsController.setEffect
      split
      · exact sameColours_refl
      · exact sameColours_send _ rfl
  | brightness brightness =>
      cases hstep
      unfold SettingsController.setBrightness
      split
      · exact sameColours_refl
      · exact sameColours_send _ rfl
  | triggersDigital enable =>
      cases hstep
      exact sameColours_send _ rfl
  | layout toSwitch =>
      cases hstep
      exact sameColours_send _ rfl
  | refresh st =>
      cases hstep
      exact sameColours_refl
  | ledColor | wake | handle | reply => cases hmove

/-- **A call is handled**, or not. -/
theorem sameColours_handle {available : Bool} (hstep : pageStep (.handle available) s = some s') :
    SameColours s s' := by
  simp only [pageStep] at hstep
  split at hstep
  · cases hstep
  · rename_i call r rest hcalls
    cases hstep
    refine ⟨?_, rfl⟩
    show coloursOf (SettingsController.resumes _) = coloursOf s.resumes
    unfold SettingsController.resumes
    dsimp only
    rw [hcalls, List.map_append, List.append_assoc]
    rfl

/-- `set_led_color` begins an operation only when the flag is down. -/
theorem setLedColor_colours (rgb : Rgb) :
    SameColours s (s.setLedColor rgb) ∨
      s.colourPending = false ∧ (s.setLedColor rgb).colours = s.colours ++ [rgb] ∧
        (s.setLedColor rgb).colourPending = true := by
  unfold SettingsController.setLedColor
  by_cases hsame : s.current.ledBaseR = rgb.r ∧ s.current.ledBaseG = rgb.g ∧ s.current.ledBaseB = rgb.b
  · rw [if_pos hsame]
    exact .inl sameColours_refl
  · rw [if_neg hsame]
    by_cases hpending : s.colourPending = true
    · rw [if_pos hpending]
      exact .inl ⟨rfl, rfl⟩
    · rw [if_neg hpending]
      refine .inr ⟨Bool.not_eq_true _ ▸ hpending, ?_, rfl⟩
      show coloursOf (SettingsController.resumes _) = coloursOf s.resumes ++ [rgb]
      rw [resumes_send, coloursOf_append]
      split <;> rfl

/-- **A reply**: the operation at the head goes on, or ends, in success or failure. -/
theorem reply_colours (hstep : pageStep .reply s = some s') :
    SameColours s s' ∨ ∃ rgb others, s.colours = rgb :: others ∧
      (s'.colours = others ++ [rgb] ∧ s'.colourPending = s.colourPending ∨
        s'.colours = others ∧ (s'.colourPending = s.colourPending ∨ s'.colourPending = false)) := by
  simp only [pageStep] at hstep
  split at hstep
  · cases hstep
  · rename_i ok r rest hreplies
    have hcolours : s.colours = r.colour?.toList ++ ({ s with replies := rest } : SettingsController).colours := by
      unfold SettingsController.colours
      rw [resumes_of_replies hreplies]
      exact coloursOf_cons _ r
    cases ok with
    | false =>
        cases hstep
        cases hr : r.colour? with
        | none =>
            rw [hr] at hcolours
            exact .inl ⟨hcolours.symm, rfl⟩
        | some rgb =>
            rw [hr] at hcolours
            exact .inr ⟨rgb, _, hcolours, .inr ⟨rfl, .inl rfl⟩⟩
    | true =>
        cases hstep
        cases r with
        | finished => exact .inl ⟨hcolours.symm, rfl⟩
        | staticColour =>
            obtain ⟨hsame, hpending⟩ := sameColours_send (s := { s with replies := rest }) (c := s.current)
              (.setLed s.current.ledBaseR s.current.ledBaseG s.current.ledBaseB)
              (r := .staticBrightness) rfl
            exact .inl ⟨hsame.trans hcolours.symm, hpending⟩
        | staticBrightness =>
            obtain ⟨hsame, hpending⟩ := sameColours_send (s := { s with replies := rest }) (c := s.current)
              (.setGlobalBrightness s.current.globalBrightness) (r := .finished) rfl
            exact .inl ⟨hsame.trans hcolours.symm, hpending⟩
        | colourEffect rgb effect =>
            refine .inr ⟨rgb, _, hcolours, .inl ⟨?_, rfl⟩⟩
            show coloursOf (SettingsController.resumes _) = _
            unfold SettingsController.resume
            dsimp only
            rw [resumes_send, coloursOf_append]
            rfl
        | colourStore rgb => exact .inr ⟨rgb, _, hcolours, .inr ⟨rfl, .inr rfl⟩⟩
        | brightnessEffect brightness =>
            unfold SettingsController.resume
            dsimp only
            split
            · exact .inl ⟨hcolours.symm, rfl⟩
            · obtain ⟨hsame, hpending⟩ := sameColours_send (s := { s with replies := rest }) (c := s.current)
                (.setEffect s.current.effectToSend s.current.effectSpeed brightness) (r := .finished) rfl
              exact .inl ⟨hsame.trans hcolours.symm, hpending⟩
        | storeTriggers enable => exact .inl ⟨hcolours.symm, rfl⟩

/-- **What a step can do to the colour operations**: nothing, begin one when the flag is down, or take the reply
of one. -/
theorem settingsStep_colours {move : PageMove} (hstep : pageStep move s = some s') :
    SameColours s s' ∨
      (∃ rgb, s.colourPending = false ∧ s'.colours = s.colours ++ [rgb] ∧ s'.colourPending = true) ∨
      ∃ rgb others, s.colours = rgb :: others ∧
        (s'.colours = others ++ [rgb] ∧ s'.colourPending = s.colourPending ∨
          s'.colours = others ∧ (s'.colourPending = s.colourPending ∨ s'.colourPending = false)) := by
  cases move with
  | ledColor rgb =>
      cases hstep
      rcases setLedColor_colours (s := s) rgb with hsame | hbegun
      · exact .inl hsame
      · exact .inr (.inl ⟨rgb, hbegun⟩)
  | wake n =>
      simp only [pageStep] at hstep
      split at hstep
      · rename_i rgb _
        cases hstep
        rcases setLedColor_colours (s := { s with asleep := s.asleep.eraseIdx n }) rgb with hsame | hbegun
        · exact .inl hsame
        · exact .inr (.inl ⟨rgb, hbegun⟩)
      · cases hstep
  | handle available => exact .inl (sameColours_handle hstep)
  | reply => exact (reply_colours hstep).imp_right .inr
  | flag | byte | ledStatic | effect | brightness | triggersDigital | layout | refresh =>
      exact .inl (sameColours_method hstep rfl)

theorem ColoursExclusive.step (h : ColoursExclusive s) {move : PageMove}
    (hstep : pageStep move s = some s') : ColoursExclusive s' := by
  obtain ⟨hone, hfree⟩ := h
  rcases settingsStep_colours hstep with ⟨hsame, hpending⟩ | ⟨rgb, hdown, hbegun, hup⟩ | ⟨rgb, others, hcolours, hnext⟩
  · refine ⟨hsame ▸ hone, fun hp => ?_⟩
    rw [hsame]
    exact hfree (hpending ▸ hp)
  · refine ⟨?_, fun hp => ?_⟩
    · rw [hbegun, hfree hdown]
      exact Nat.le_refl 1
    · rw [hup] at hp
      cases hp
  · have hothers : others = [] := by
      rw [hcolours, List.length_cons] at hone
      exact List.length_eq_zero_iff.mp (Nat.le_zero.mp (Nat.le_of_succ_le_succ hone))
    rcases hnext with ⟨hgoes, hpending⟩ | ⟨hends, -⟩
    · refine ⟨by rw [hgoes, hothers]; exact Nat.le_refl 1, fun hp => ?_⟩
      have hnone := hfree (hpending ▸ hp)
      rw [hcolours] at hnone
      cases hnone
    · rw [ColoursExclusive, hends, hothers]
      exact ⟨Nat.zero_le 1, fun _ => rfl⟩

theorem ColoursJammed.step (h : ColoursJammed s) {move : PageMove} (hstep : pageStep move s = some s') :
    ColoursJammed s' := by
  obtain ⟨hnone, hup⟩ := h
  rcases settingsStep_colours hstep with ⟨hsame, hpending⟩ | ⟨rgb, hdown, -, -⟩ | ⟨rgb, others, hcolours, -⟩
  · exact ⟨hsame.trans hnone, hpending.trans hup⟩
  · rw [hup] at hdown
    cases hdown
  · rw [hnone] at hcolours
    cases hcolours

/-- **At most one colour operation is under way, and none after a failure.**  In every run, whatever fails: two
`set_led_color` never overlap; and when a call of one of them fails, then no colour operation begins in all that
follows — the flag that the failed one put up stays up, and every later one for a colour not yet shown sleeps. -/
theorem colour_operations {s₀ : SettingsController} (hrest : s₀.AtRest)
    (hrun : Run pageStep free s₀ s) :
    s.colours.length ≤ 1 ∧
      ∀ r rest, r.colour?.isSome → s.replies = (false, r) :: rest →
        ∀ s₁ s₂, pageStep .reply s = some s₁ → Run pageStep free s₁ s₂ →
          s₂.colours = [] ∧ s₂.colourPending = true := by
  have hresumes : s₀.resumes = [] := (future_of_rest hrest).2
  have hexclusive : ColoursExclusive s := by
    refine hrun.invariant (fun _ _ _ h _ hstep => h.step hstep) ?_
    unfold ColoursExclusive SettingsController.colours
    rw [hresumes]
    exact ⟨Nat.zero_le 1, fun _ => rfl⟩
  refine ⟨hexclusive.1, fun r rest hr hreplies s₁ s₂ hstep hlater => ?_⟩
  obtain ⟨rgb, hrgb⟩ := Option.isSome_iff_exists.mp hr
  have hcolours : s.colours = rgb :: ({ s with replies := rest } : SettingsController).colours := by
    unfold SettingsController.colours
    rw [resumes_of_replies hreplies]
    exact (coloursOf_cons _ r).trans (by rw [hrgb]; rfl)
  have hjammed : ColoursJammed s₁ := by
    have hfailed : s₁ = { s with replies := rest } := by
      simp only [pageStep, hreplies] at hstep
      exact (Option.some.inj hstep).symm
    rw [hfailed]
    refine ⟨?_, ?_⟩
    · have hone := hexclusive.1
      rw [hcolours, List.length_cons] at hone
      exact List.length_eq_zero_iff.mp (Nat.le_zero.mp (Nat.le_of_succ_le_succ hone))
    · show s.colourPending = true
      by_contra hdown
      have hnone := hexclusive.2 (Bool.not_eq_true _ ▸ hdown)
      rw [hcolours] at hnone
      cases hnone
  exact hlater.invariant (I := ColoursJammed) (fun _ _ _ h _ hstep => h.step hstep) hjammed

/-- The slot is not found when the first colour is set; the next colour is never sent. -/
theorem colour_operations_failed : breathingPage.AtRest ∧
    ∃ s, Run pageStep free breathingPage s ∧
      s.replies = [(false, .colourEffect ⟨255, 0, 0⟩ 1)] ∧
      ∀ s₁ s₂, pageStep .reply s = some s₁ → Run pageStep free s₁ s₂ →
        s₂.colours = [] ∧ s₂.colourPending = true := by
  have hrun : Run pageStep free breathingPage
      (reached pageStep [.ledColor ⟨255, 0, 0⟩, .handle false] breathingPage) :=
    .tail (.tail (.refl _) (a := .ledColor ⟨255, 0, 0⟩) trivial rfl) (a := .handle false) trivial rfl
  exact ⟨⟨rfl, rfl⟩, _, hrun, rfl, (colour_operations ⟨rfl, rfl⟩ hrun).2 _ _ rfl rfl⟩

end Colours

end Dstx
