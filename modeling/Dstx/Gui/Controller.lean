/-
# Dstx.Gui.Controller — the GUI's controller object and its two decoders (`controller.vala`,
`dbus-client.vala`).

The GUI learns the state of a slot over two channels.  `GetControllerInfo` sends fifty-two positional
values of mixed signedness, which `get_controller_info` collects into ONE unsigned array and
`update_from_dbus_arguments` reads by index; `TelemetryUpdate` sends the axes, the hat and a 16-bit word,
from which `update_from_telemetry` also derives the d-pad.

* `getControllerInfo_recovers`: the array read by index gives back every encoded field.  The setters of the
  GUI object drop a sensitivity preset above 7 (`getControllerInfo_eq_showing_iff`), but no slot of a state
  the daemon reaches has one.
* `telemetry_eq_info_iff`: the two channels show the same controller exactly when no two opposite
  directions of the d-pad are down at once; a hat has one value for each axis.
-/
import Dstx.Lib.CText
import Dstx.Bridge.State
import Dstx.Commands.Presets
import Mathlib.Data.Nat.Bitwise

namespace Dstx

open Dstx.Lib

/-! ## The object -/

/-- **`Controller`**, the part the decoders write; `type` is `none` for a number outside the
enumeration. -/
structure GuiController where
  slot : Int
  connected : Bool
  controllerType : Option ControllerType
  isBluetooth : Bool
  ledR : UInt8
  ledG : UInt8
  ledB : UInt8
  ledBaseR : UInt8
  ledBaseG : UInt8
  ledBaseB : UInt8
  battery : Int
  rumbleGain : UInt8
  deadzone : UInt8
  globalBrightness : UInt8
  playerLeds : UInt8
  emulateActive : Bool
  isUhid : Bool
  triggersDigital : Bool
  debounceEnabled : Bool
  ledReapply : Bool
  rumbleActive : Bool
  invertLy : Bool
  invertRy : Bool
  sensitivityLeftPreset : UInt8
  sensitivityRightPreset : UInt8
  ledStatic : Bool
  currentEffect : UInt8
  effectSpeed : UInt8
  lx : Int
  ly : Int
  rx : Int
  ry : Int
  lt : Int
  rt : Int
  hatx : Int
  haty : Int
  buttons : Button → Bool

/-- `new Controller(slot)`. -/
def GuiController.new (slot : Int) : GuiController where
  slot := slot
  connected := false
  controllerType := some .ds4
  isBluetooth := false
  ledR := 0
  ledG := 0
  ledB := 0
  ledBaseR := 0
  ledBaseG := 0
  ledBaseB := 0
  battery := 0
  rumbleGain := 0
  deadzone := 0
  globalBrightness := 0
  playerLeds := 0
  emulateActive := false
  isUhid := false
  triggersDigital := false
  debounceEnabled := false
  ledReapply := false
  rumbleActive := false
  invertLy := false
  invertRy := false
  sensitivityLeftPreset := 0
  sensitivityRightPreset := 0
  ledStatic := false
  currentEffect := 0
  effectSpeed := 0
  lx := 0
  ly := 0
  rx := 0
  ry := 0
  lt := 0
  rt := 0
  hatx := 0
  haty := 0
  buttons := fun _ => false

/-! ## Conversions -/

/-- `(int16)value`. -/
def int16Of (v : UInt32) : Int := ((v.toNat : Int) + 2 ^ 15) % 2 ^ 16 - 2 ^ 15

/-- `(int)value`. -/
def intOf (v : UInt32) : Int := wrap32 v.toNat

/-- `(ControllerType)value`. -/
def ControllerType.ofCode (v : UInt32) : Option ControllerType :=
  if v = 0 then some .ds4 else if v = 1 then some .dualsense else if v = 2 then some .nswPro else none

/-- The setter of a sensitivity preset: a value above 7 is dropped. -/
def setPreset (old v : UInt8) : UInt8 := if v ≤ 7 then v else old

theorem toNat_toU32 (v : Int) : ((toU32 v).toNat : Int) = v % 2 ^ 32 := by
  rw [toU32, UInt32.toNat_ofNat']
  omega

/-- A signed value that went through the unsigned array. -/
theorem int16Of_toU32 {v : Int} (h : -(2 ^ 15) ≤ v ∧ v < 2 ^ 15) : int16Of (toU32 v) = v := by
  rw [int16Of, toNat_toU32]
  omega

theorem intOf_toU32 {v : Int} (h : -(2 ^ 31) ≤ v ∧ v < 2 ^ 31) : intOf (toU32 v) = v := by
  rw [intOf, wrap32, toNat_toU32]
  omega

@[simp] theorem ofCode_code (t : ControllerType) : ControllerType.ofCode t.code = some t := by
  cases t <;> decide

@[simp] theorem flag32_ne_zero (b : Bool) : (flag32 b != 0) = b := by
  cases b <;> decide

/-! ## The positional reply -/

/-- The array that `get_controller_info` builds from the children of the reply: the 32-bit values, the
signed ones converted. -/
def collectValues : List DBusValue → List UInt32
  | [] => []
  | .uint32 v :: rest => v :: collectValues rest
  | .int32 v :: rest => toU32 v :: collectValues rest
  | _ :: rest => collectValues rest

/-- **`update_from_dbus_arguments`**. -/
def GuiController.updateFromDbusArguments (c : GuiController) (values : List UInt32) : GuiController :=
  if values.length < 52 then c
  else
    let at' := fun i => values.getD i 0
    { c with
      controllerType := ControllerType.ofCode (at' 0)
      isBluetooth := at' 1 != 0
      ledR := (at' 2).toUInt8
      ledG := (at' 3).toUInt8
      ledB := (at' 4).toUInt8
      ledBaseR := (at' 5).toUInt8
      ledBaseG := (at' 6).toUInt8
      ledBaseB := (at' 7).toUInt8
      battery := intOf (at' 8)
      rumbleGain := (at' 9).toUInt8
      deadzone := (at' 10).toUInt8
      globalBrightness := (at' 11).toUInt8
      playerLeds := (at' 12).toUInt8
      emulateActive := at' 13 != 0
      isUhid := at' 14 != 0
      triggersDigital := at' 15 != 0
      debounceEnabled := at' 16 != 0
      ledReapply := at' 17 != 0
      rumbleActive := at' 18 != 0
      invertLy := at' 19 != 0
      invertRy := at' 20 != 0
      sensitivityLeftPreset := setPreset c.sensitivityLeftPreset (at' 21).toUInt8
      sensitivityRightPreset := setPreset c.sensitivityRightPreset (at' 22).toUInt8
      ledStatic := at' 23 != 0
      currentEffect := (at' 24).toUInt8
      effectSpeed := (at' 25).toUInt8
      lx := int16Of (at' 26)
      ly := int16Of (at' 27)
      rx := int16Of (at' 28)
      ry := int16Of (at' 29)
      lt := int16Of (at' 30)
      rt := int16Of (at' 31)
      hatx := intOf (at' 32)
      haty := intOf (at' 33)
      buttons := fun b =>
        match b with
        | .square => at' 34 != 0
        | .cross => at' 35 != 0
        | .circle => at' 36 != 0
        | .triangle => at' 37 != 0
        | .l1 => at' 38 != 0
        | .r1 => at' 39 != 0
        | .l2 => at' 40 != 0
        | .r2 => at' 41 != 0
        | .share => at' 42 != 0
        | .options => at' 43 != 0
        | .ps => at' 44 != 0
        | .l3 => at' 45 != 0
        | .r3 => at' 46 != 0
        | .touch => at' 47 != 0
        | .dpadUp => at' 48 != 0
        | .dpadDown => at' 49 != 0
        | .dpadLeft => at' 50 != 0
        | .dpadRight => at' 51 != 0
      connected := true }

/-- **`get_controller_info`**, on the reply to the call. -/
def getControllerInfo (slot : Int) (reply : List DBusValue) : GuiController :=
  (GuiController.new slot).updateFromDbusArguments (collectValues reply)

/-- The effect a controller shows: 0 for one outside `0..8`. -/
def shownEffect (effect : Int) : UInt8 := if 0 ≤ effect ∧ effect ≤ 8 then toU8 effect else 0

/-- The speed a controller shows: 5 for 0. -/
def shownSpeed (speed : UInt8) : UInt8 := if speed = 0 then 5 else speed

/-- **What decoding must recover**: the object that shows every encoded field of the state. -/
def GuiController.showing (c : GuiController) (st : ControllerState) : GuiController :=
  { slot := c.slot
    connected := true
    controllerType := some st.slot.type
    isBluetooth := st.slot.isBluetooth
    ledR := st.slot.ledR
    ledG := st.slot.ledG
    ledB := st.slot.ledB
    ledBaseR := st.slot.ledBaseR
    ledBaseG := st.slot.ledBaseG
    ledBaseB := st.slot.ledBaseB
    battery := st.pad.battery
    rumbleGain := st.slot.rumbleGain
    deadzone := st.slot.deadzone
    globalBrightness := st.slot.globalLedBrightness
    playerLeds := st.slot.playerLeds
    emulateActive := st.slot.emulateActive
    isUhid := st.slot.isUhid
    triggersDigital := st.slot.isTriggerDigital
    debounceEnabled := st.slot.debounceEnabled
    ledReapply := st.slot.ledReapply
    rumbleActive := st.slot.rumbleActive
    invertLy := st.slot.invertLy
    invertRy := st.slot.invertRy
    sensitivityLeftPreset := st.slot.sensitivityLeftPreset
    sensitivityRightPreset := st.slot.sensitivityRightPreset
    ledStatic := st.slot.ledStatic
    currentEffect := shownEffect st.slot.ledRequestEffect
    effectSpeed := shownSpeed st.slot.ledRequestSpeed
    lx := st.pad.lx
    ly := st.pad.ly
    rx := st.pad.rx
    ry := st.pad.ry
    lt := st.pad.lt
    rt := st.pad.rt
    hatx := st.pad.hatX
    haty := st.pad.hatY
    buttons := st.pad.buttons }

theorem reportedEffect_toUInt8 {slot : Slot}
    (h : -(2 ^ 31) ≤ slot.ledRequestEffect ∧ slot.ledRequestEffect < 2 ^ 31) :
    slot.reportedEffect.toUInt8 = shownEffect slot.ledRequestEffect := by
  have hnat := toNat_toU32 slot.ledRequestEffect
  unfold Slot.reportedEffect shownEffect
  by_cases hshown : 0 ≤ slot.ledRequestEffect ∧ slot.ledRequestEffect ≤ 8
  · have hle : ¬toU32 slot.ledRequestEffect > 8 := by
      rw [gt_iff_lt, UInt32.lt_iff_toNat_lt]
      show ¬8 < (toU32 slot.ledRequestEffect).toNat
      omega
    rw [if_neg hle, if_pos hshown]
    apply UInt8.toNat_inj.mp
    rw [UInt32.toNat_toUInt8]
    have hbyte := toNat_toU8 (v := slot.ledRequestEffect) (by omega)
    omega
  · have hgt : toU32 slot.ledRequestEffect > 8 := by
      rw [gt_iff_lt, UInt32.lt_iff_toNat_lt]
      show 8 < (toU32 slot.ledRequestEffect).toNat
      omega
    rw [if_pos hgt, if_neg hshown]
    rfl

theorem reportedSpeed_toUInt8 (slot : Slot) :
    slot.reportedSpeed.toUInt8 = shownSpeed slot.ledRequestSpeed := by
  unfold Slot.reportedSpeed shownSpeed
  by_cases hzero : slot.ledRequestSpeed = 0
  · rw [hzero]
    rfl
  · have hpos : ¬slot.ledRequestSpeed.toUInt32 < 1 := by
      rw [UInt32.lt_iff_toNat_lt, UInt8.toNat_toUInt32]
      show ¬slot.ledRequestSpeed.toNat < 1
      intro hlt
      have hnat : slot.ledRequestSpeed.toNat = 0 := by omega
      exact hzero (UInt8.toNat_inj.mp hnat)
    rw [if_neg hpos, if_neg hzero]
    simp

/-- **What decoding gives for every state**: all that was encoded, but a preset above 7 is dropped. -/
theorem updateFromDbusArguments_info (c : GuiController) (st : ControllerState) :
    c.updateFromDbusArguments (collectValues (controllerInfo st)) =
      { c.showing st with
        sensitivityLeftPreset := setPreset c.sensitivityLeftPreset st.slot.sensitivityLeftPreset
        sensitivityRightPreset := setPreset c.sensitivityRightPreset st.slot.sensitivityRightPreset } := by
  have hlength : ¬(collectValues (controllerInfo st)).length < 52 := by
    show ¬52 < 52
    exact Nat.lt_irrefl 52
  have haxes := st.axesRange
  have hints := st.intRange
  simp only [Pad.axes, List.forall_mem_cons] at haxes hints
  obtain ⟨hlx, hly, hrx, hry, hlt, hrt, -⟩ := haxes
  obtain ⟨hhatx, hhaty, hbattery, heffect, -⟩ := hints
  unfold GuiController.updateFromDbusArguments GuiController.showing
  rw [if_neg hlength]
  simp only [controllerInfo, collectValues, List.getD_cons_zero, List.getD_cons_succ, ofCode_code,
    flag32_ne_zero, UInt8.toUInt8_toUInt32, int16Of_toU32 hlx, int16Of_toU32 hly, int16Of_toU32 hrx,
    int16Of_toU32 hry, int16Of_toU32 hlt, int16Of_toU32 hrt, intOf_toU32 hhatx, intOf_toU32 hhaty,
    intOf_toU32 hbattery, reportedEffect_toUInt8 heffect, reportedSpeed_toUInt8]
  congr 1
  funext b
  cases b <;> rfl

/-- **When the GUI recovers a state**: exactly when its presets are presets. -/
theorem getControllerInfo_eq_showing_iff (slot : Int) (st : ControllerState) :
    getControllerInfo slot (controllerInfo st) = (GuiController.new slot).showing st ↔
      st.slot.sensitivityLeftPreset ≤ 7 ∧ st.slot.sensitivityRightPreset ≤ 7 := by
  have hpreset : ∀ v : UInt8, setPreset 0 v = v ↔ v ≤ 7 := by
    intro v
    unfold setPreset
    split
    · rename_i hle
      exact iff_of_true rfl hle
    · rename_i hgt
      refine iff_of_false (fun hzero => hgt ?_) hgt
      rw [← hzero]
      decide
  unfold getControllerInfo
  rw [updateFromDbusArguments_info, ← hpreset st.slot.sensitivityLeftPreset,
    ← hpreset st.slot.sensitivityRightPreset]
  constructor
  · intro h
    exact ⟨congrArg GuiController.sensitivityLeftPreset h, congrArg GuiController.sensitivityRightPreset h⟩
  · rintro ⟨hl, hr⟩
    show ({ GuiController.showing _ st with
      sensitivityLeftPreset := setPreset 0 _, sensitivityRightPreset := setPreset 0 _ } : GuiController) = _
    rw [hl, hr]
    rfl

/-- **The GUI recovers every slot whose presets the daemon reaches**, whatever the bridge's copy held before. -/
theorem getControllerInfo_recovers {Text : Type} (J : CJson.Lib Text) (fs : Fs Text) (shm : SharedData)
    (fd : Int) (env : Env Text) (cells : Fin maxSlots → Cells) {s : CommandSystem Text}
    (hrun : Run (commandStep J) free ⟨boot J fs shm fd env, cells⟩ s) (i : Fin maxSlots)
    (dst src : ControllerState)
    (hleft : src.slot.sensitivityLeftPreset = (s.slot i).sensitivityLeftPreset)
    (hright : src.slot.sensitivityRightPreset = (s.slot i).sensitivityRightPreset) :
    getControllerInfo i (controllerInfo (copyControllerState dst src)) =
      (GuiController.new i).showing src := by
  have hvalid := presetsValid_reachable J fs shm fd env cells hrun i
  refine (getControllerInfo_eq_showing_iff i (copyControllerState dst src)).mpr ⟨?_, ?_⟩
  · show src.slot.sensitivityLeftPreset ≤ 7
    rw [hleft]
    exact (le_ofNat_iff (n := 7) (by decide)).mpr hvalid.1
  · show src.slot.sensitivityRightPreset ≤ 7
    rw [hright]
    exact (le_ofNat_iff (n := 7) (by decide)).mpr hvalid.2

/-- The left stick is held to the upper left, and the d-pad up. -/
def upperLeftPad : Pad :=
  { centredPad with
    lx := -32768
    ly := -129
    hatY := -1 }

theorem upperLeftPad_axesRange : ∀ v ∈ upperLeftPad.axes, -(2 ^ 15) ≤ v ∧ v < 2 ^ 15 := by
  decide

/-- A DualSense is plugged into slot 0 of a daemon that was just started. -/
def pluggedMoves : List (CommandMove (Option CJson)) := [.register firstSlot .dualsense false]

/-- The system after that. -/
def pluggedSystem : CommandSystem (Option CJson) :=
  reached (commandStep CJson.treeLib) pluggedMoves firstSystem

theorem upperLeftPad_intRange : ∀ v ∈ [upperLeftPad.hatX, upperLeftPad.hatY, upperLeftPad.battery,
    (pluggedSystem.slot firstSlot).ledRequestEffect], -(2 ^ 31) ≤ v ∧ v < 2 ^ 31 := by
  decide +kernel

/-- Its slot, with that input, after the LED pipeline has cleared the flag. -/
def upperLeftState : ControllerState where
  slot := { pluggedSystem.slot firstSlot with ledDirty := false }
  pad := upperLeftPad
  axesRange := upperLeftPad_axesRange
  intRange := upperLeftPad_intRange

theorem getControllerInfo_recovers_upperLeft :
    upperLeftState.slot.connected = true ∧
      getControllerInfo (firstSlot : Fin maxSlots)
          (controllerInfo (copyControllerState restingState upperLeftState)) =
        (GuiController.new (firstSlot : Fin maxSlots)).showing upperLeftState := by
  have hexec : exec (commandStep CJson.treeLib) pluggedMoves firstSystem = some pluggedSystem :=
    eq_some_getD (s := firstSystem) (by decide +kernel)
  exact ⟨by decide +kernel, getControllerInfo_recovers CJson.treeLib _ _ _ _ _ (Run.of_exec hexec) firstSlot
    restingState upperLeftState rfl rfl⟩

/-! ## The telemetry channel -/

/-- `(buttons & (1 << i)) != 0`. -/
def bitSet (buttons i : Nat) : Bool := buttons &&& (1 <<< i) != 0

/-- **`update_from_telemetry`** — the d-pad comes from the hat. -/
def GuiController.updateFromTelemetry (c : GuiController) (lx ly rx ry lt rt hatx haty : Int)
    (buttons : Nat) : GuiController :=
  { c with
    lx := lx
    ly := ly
    rx := rx
    ry := ry
    lt := lt
    rt := rt
    hatx := hatx
    haty := haty
    buttons := fun b =>
      match b with
      | .cross => bitSet buttons 0
      | .circle => bitSet buttons 1
      | .square => bitSet buttons 2
      | .triangle => bitSet buttons 3
      | .l1 => bitSet buttons 4
      | .r1 => bitSet buttons 5
      | .l2 => bitSet buttons 6
      | .r2 => bitSet buttons 7
      | .share => bitSet buttons 8
      | .options => bitSet buttons 9
      | .l3 => bitSet buttons 10
      | .r3 => bitSet buttons 11
      | .ps => bitSet buttons 12
      | .touch => bitSet buttons 13
      | .dpadUp => haty == -1
      | .dpadDown => haty == 1
      | .dpadLeft => hatx == -1
      | .dpadRight => hatx == 1 }

/-- `on_dbus_signal` for `TelemetryUpdate`, on the controller of the slot. -/
def GuiController.onTelemetry (c : GuiController) : List DBusValue → GuiController
  | .byte _ :: .int16 lx :: .int16 ly :: .int16 rx :: .int16 ry :: .int16 lt :: .int16 rt :: .int16 hatx ::
      .int16 haty :: .uint16 buttons :: _ => c.updateFromTelemetry lx ly rx ry lt rt hatx haty buttons
  | _ => c

/-- Two controllers show the same input: axes, hat, buttons and d-pad. -/
structure SameInput (a b : GuiController) : Prop where
  lx : a.lx = b.lx
  ly : a.ly = b.ly
  rx : a.rx = b.rx
  ry : a.ry = b.ry
  lt : a.lt = b.lt
  rt : a.rt = b.rt
  hatx : a.hatx = b.hatx
  haty : a.haty = b.haty
  buttons : ∀ k, a.buttons k = b.buttons k

theorem hatOf_range (buttons : Button → Bool) :
    (-1 ≤ hatXOf buttons ∧ hatXOf buttons ≤ 1) ∧ (-1 ≤ hatYOf buttons ∧ hatYOf buttons ≤ 1) := by
  unfold hatXOf hatYOf
  refine ⟨?_, ?_⟩ <;> split_ifs <;> decide

theorem applyMap_intRange (st : ControllerState) (raw : Button → Bool) :
    ∀ v ∈ [(st.pad.applyMap st.slot.keymap raw).hatX, (st.pad.applyMap st.slot.keymap raw).hatY,
      st.pad.battery, st.slot.ledRequestEffect], -(2 ^ 31) ≤ v ∧ v < 2 ^ 31 := by
  have hhat := hatOf_range (keysApplyMap st.slot.keymap raw)
  have hints := st.intRange
  simp only [List.forall_mem_cons] at hints ⊢
  refine ⟨?_, ?_, hints.2.2⟩
  · show -(2 ^ 31) ≤ hatXOf _ ∧ hatXOf _ < 2 ^ 31
    omega
  · show -(2 ^ 31) ≤ hatYOf _ ∧ hatYOf _ < 2 ^ 31
    omega

/-- `keys_apply_map` on a controller: its keymap and the pressed physical buttons. -/
def ControllerState.applyMap (st : ControllerState) (raw : Button → Bool) : ControllerState where
  slot := st.slot
  pad := st.pad.applyMap st.slot.keymap raw
  axesRange := st.axesRange
  intRange := applyMap_intRange st raw

/-- Some pressed button is bound to `b`. -/
def Bound (keymap : Keymap) (raw : Button → Bool) (b : Button) : Prop :=
  ∃ p, raw p = true ∧ keymap p.phy = b.logical

theorem bitSet_eq_testBit (word i : Nat) : bitSet word i = word.testBit i := by
  unfold bitSet
  rw [Nat.one_shiftLeft, Nat.and_two_pow]
  cases word.testBit i <;> simp

theorem bitSet_packButtons (buttons : Button → Bool) {b : Button} {i : Nat}
    (h : (b, i) ∈ packedButtons.zipIdx) : bitSet (packButtons buttons) i = buttons b := by
  rw [bitSet_eq_testBit]
  exact testBit_packButtons buttons h

/-- **The hat shows the four directions** exactly when no two opposite ones are down: of those it shows one. -/
theorem hat_shows_iff (buttons : Button → Bool) :
    ((hatYOf buttons == -1) = buttons .dpadUp ∧ (hatYOf buttons == 1) = buttons .dpadDown ∧
      (hatXOf buttons == -1) = buttons .dpadLeft ∧ (hatXOf buttons == 1) = buttons .dpadRight) ↔
      ¬(buttons .dpadUp = true ∧ buttons .dpadDown = true) ∧
        ¬(buttons .dpadLeft = true ∧ buttons .dpadRight = true) := by
  unfold hatXOf hatYOf
  cases buttons .dpadUp <;> cases buttons .dpadDown <;> cases buttons .dpadLeft <;>
    cases buttons .dpadRight <;> decide

theorem toI16_of_hat {v : Int} (h : -1 ≤ v ∧ v ≤ 1) : toI16 v = v := by
  unfold toI16
  omega

/-- **When the two channels agree.**  For every state that `keys_apply_map` produces, telemetry and the
positional reply show the same input exactly when no two opposite directions are bound to pressed
buttons. -/
theorem telemetry_eq_info_iff (c c' : GuiController) (slot : UInt8) (st : ControllerState)
    (raw : Button → Bool) :
    SameInput (c.onTelemetry (telemetryArgs slot (st.applyMap raw)))
        (c'.updateFromDbusArguments (collectValues (controllerInfo (st.applyMap raw)))) ↔
      ¬(Bound st.slot.keymap raw .dpadUp ∧ Bound st.slot.keymap raw .dpadDown) ∧
        ¬(Bound st.slot.keymap raw .dpadLeft ∧ Bound st.slot.keymap raw .dpadRight) := by
  have hbound : ∀ b, Bound st.slot.keymap raw b ↔ keysApplyMap st.slot.keymap raw b = true :=
    fun b => (keysApplyMap_eq_true_iff st.slot.keymap raw b).symm
  rw [hbound, hbound, hbound, hbound, ← hat_shows_iff, updateFromDbusArguments_info]
  obtain ⟨hx, hy⟩ := hatOf_range (keysApplyMap st.slot.keymap raw)
  have hhatx : toI16 (st.applyMap raw).pad.hatX = hatXOf (keysApplyMap st.slot.keymap raw) :=
    toI16_of_hat hx
  have hhaty : toI16 (st.applyMap raw).pad.hatY = hatYOf (keysApplyMap st.slot.keymap raw) :=
    toI16_of_hat hy
  constructor
  · intro h
    have hup : (toI16 (st.applyMap raw).pad.hatY == -1) = _ := h.buttons .dpadUp
    have hdown : (toI16 (st.applyMap raw).pad.hatY == 1) = _ := h.buttons .dpadDown
    have hleft : (toI16 (st.applyMap raw).pad.hatX == -1) = _ := h.buttons .dpadLeft
    have hright : (toI16 (st.applyMap raw).pad.hatX == 1) = _ := h.buttons .dpadRight
    rw [hhaty] at hup hdown
    rw [hhatx] at hleft hright
    exact ⟨hup, hdown, hleft, hright⟩
  · rintro ⟨hup, hdown, hleft, hright⟩
    refine ⟨rfl, rfl, rfl, rfl, rfl, rfl, hhatx, hhaty, fun k => ?_⟩
    have hbit : ∀ {b : Button} {i : Nat}, (b, i) ∈ packedButtons.zipIdx →
        bitSet (packButtons (st.applyMap raw).pad.buttons) i = (st.applyMap raw).pad.buttons b :=
      fun hmem => bitSet_packButtons _ hmem
    cases k with
    | dpadUp =>
        show (toI16 (st.applyMap raw).pad.hatY == -1) = _
        rw [hhaty]
        exact hup
    | dpadDown =>
        show (toI16 (st.applyMap raw).pad.hatY == 1) = _
        rw [hhaty]
        exact hdown
    | dpadLeft =>
        show (toI16 (st.applyMap raw).pad.hatX == -1) = _
        rw [hhatx]
        exact hleft
    | dpadRight =>
        show (toI16 (st.applyMap raw).pad.hatX == 1) = _
        rw [hhatx]
        exact hright
    | cross | circle | square | triangle | l1 | r1 | l2 | r2 | share | options | l3 | r3 | ps | touch =>
        exact hbit (by decide)

/-- The default keymap with L1 bound to the direction down. -/
def l1DownMap : Keymap := Function.update keysGetDefaultMap Button.l1.phy Button.dpadDown.logical

/-- A controller with that keymap. -/
def l1DownState : ControllerState :=
  { restingState with slot := { restingState.slot with keymap := l1DownMap } }

/-- The d-pad is pressed up and L1 is held. -/
def upAndL1 (b : Button) : Bool := b == .dpadUp || b == .l1

/-- **Up and down at once**: the reply shows both directions, telemetry only the upper one. -/
theorem telemetry_ne_info_upAndL1 :
    ¬SameInput ((GuiController.new 0).onTelemetry (telemetryArgs 0 (l1DownState.applyMap upAndL1)))
      ((GuiController.new 0).updateFromDbusArguments
        (collectValues (controllerInfo (l1DownState.applyMap upAndL1)))) := by
  intro h
  have hdown := h.buttons .dpadDown
  revert hdown
  decide

end Dstx
