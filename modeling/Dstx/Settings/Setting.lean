/-
# Dstx.Settings.Setting — one setting of a slot at a time.

Clients store and the settings thread copies the settings of a slot ONE BY ONE (`atomic_store`,
`atomic_load`, the bytes of a `memcpy`), so the interleavings of the two are interleavings of single
settings.  `Setting` names them, `SlotConfig.setting` reads one as a byte (a switch is 0 or 1),
`SlotConfig.set` and `Controller.store` write one.

The two loops of `settings.c` over a slot are `readOrder` (`controller_to_slot_config`) and `storeOrder`
(`slot_config_to_controller`): running through them copies the whole slot
(`foldl_readSetting`, `foldl_applySetting`).
-/
import Dstx.Slot
import Mathlib.Data.List.FinRange

namespace Dstx

/-- **The persistent settings of a slot.** -/
inductive Setting where
  | ledR
  | ledG
  | ledB
  | ledBaseR
  | ledBaseG
  | ledBaseB
  | rumbleGain
  | deadzone
  | globalLedBrightness
  | playerLeds
  | debounceEnabled
  | keymap (k : Fin phyBtnCount)
  | emulateActive
  | isUhid
  | ledReapply
  | rumbleActive
  | invertLy
  | invertRy
  | sensitivityLeftPreset
  | sensitivityRightPreset
  | ledEffect
  | ledEffectSpeed
  | ledEffectBrightness
  | treatTriggersAsDigital
  deriving DecidableEq

/-- The settings that are switches (`bool`). -/
def Setting.isSwitch : Setting → Bool
  | .debounceEnabled | .emulateActive | .isUhid | .ledReapply | .rumbleActive | .invertLy
  | .invertRy | .treatTriggersAsDigital => true
  | _ => false

/-- What a setting holds after an `int` was stored into it and read back as a profile value. -/
def Setting.convert (s : Setting) (v : Int) : UInt8 :=
  if s.isSwitch then (v != 0).toUInt8 else toU8 v

/-- One setting of a configuration, as a byte. -/
def SlotConfig.setting (cfg : SlotConfig) : Setting → UInt8
  | .ledR => cfg.ledR
  | .ledG => cfg.ledG
  | .ledB => cfg.ledB
  | .ledBaseR => cfg.ledBaseR
  | .ledBaseG => cfg.ledBaseG
  | .ledBaseB => cfg.ledBaseB
  | .rumbleGain => cfg.rumbleGain
  | .deadzone => cfg.deadzone
  | .globalLedBrightness => cfg.globalLedBrightness
  | .playerLeds => cfg.playerLeds
  | .debounceEnabled => cfg.debounceEnabled.toUInt8
  | .keymap k => cfg.keymap k
  | .emulateActive => cfg.emulateActive.toUInt8
  | .isUhid => cfg.isUhid.toUInt8
  | .ledReapply => cfg.ledReapply.toUInt8
  | .rumbleActive => cfg.rumbleActive.toUInt8
  | .invertLy => cfg.invertLy.toUInt8
  | .invertRy => cfg.invertRy.toUInt8
  | .sensitivityLeftPreset => cfg.sensitivityLeftPreset
  | .sensitivityRightPreset => cfg.sensitivityRightPreset
  | .ledEffect => cfg.ledEffect
  | .ledEffectSpeed => cfg.ledEffectSpeed
  | .ledEffectBrightness => cfg.ledEffectBrightness
  | .treatTriggersAsDigital => cfg.treatTriggersAsDigital.toUInt8

/-- One setting of a controller, as `controller_to_slot_config` reads it. -/
def Controller.setting (ctrl : Controller) (s : Setting) : UInt8 :=
  (controllerToSlotConfig ctrl).setting s

/-- An assignment to one member of a `slot_config_t`. -/
def SlotConfig.set (cfg : SlotConfig) (s : Setting) (v : Int) : SlotConfig :=
  match s with
  | .ledR => { cfg with ledR := toU8 v }
  | .ledG => { cfg with ledG := toU8 v }
  | .ledB => { cfg with ledB := toU8 v }
  | .ledBaseR => { cfg with ledBaseR := toU8 v }
  | .ledBaseG => { cfg with ledBaseG := toU8 v }
  | .ledBaseB => { cfg with ledBaseB := toU8 v }
  | .rumbleGain => { cfg with rumbleGain := toU8 v }
  | .deadzone => { cfg with deadzone := toU8 v }
  | .globalLedBrightness => { cfg with globalLedBrightness := toU8 v }
  | .playerLeds => { cfg with playerLeds := toU8 v }
  | .debounceEnabled => { cfg with debounceEnabled := v != 0 }
  | .keymap k => { cfg with keymap := Function.update cfg.keymap k (toU8 v) }
  | .emulateActive => { cfg with emulateActive := v != 0 }
  | .isUhid => { cfg with isUhid := v != 0 }
  | .ledReapply => { cfg with ledReapply := v != 0 }
  | .rumbleActive => { cfg with rumbleActive := v != 0 }
  | .invertLy => { cfg with invertLy := v != 0 }
  | .invertRy => { cfg with invertRy := v != 0 }
  | .sensitivityLeftPreset => { cfg with sensitivityLeftPreset := toU8 v }
  | .sensitivityRightPreset => { cfg with sensitivityRightPreset := toU8 v }
  | .ledEffect => { cfg with ledEffect := toU8 v }
  | .ledEffectSpeed => { cfg with ledEffectSpeed := toU8 v }
  | .ledEffectBrightness => { cfg with ledEffectBrightness := toU8 v }
  | .treatTriggersAsDigital => { cfg with treatTriggersAsDigital := v != 0 }

/-- An `atomic_store` to one member of a `controller_t`; only `led_request_effect` is an `int`. -/
def Controller.store (ctrl : Controller) (s : Setting) (v : Int) : Controller :=
  match s with
  | .ledR => { ctrl with ledR := toU8 v }
  | .ledG => { ctrl with ledG := toU8 v }
  | .ledB => { ctrl with ledB := toU8 v }
  | .ledBaseR => { ctrl with ledBaseR := toU8 v }
  | .ledBaseG => { ctrl with ledBaseG := toU8 v }
  | .ledBaseB => { ctrl with ledBaseB := toU8 v }
  | .rumbleGain => { ctrl with rumbleGain := toU8 v }
  | .deadzone => { ctrl with deadzone := toU8 v }
  | .globalLedBrightness => { ctrl with globalLedBrightness := toU8 v }
  | .playerLeds => { ctrl with playerLeds := toU8 v }
  | .debounceEnabled => { ctrl with debounceEnabled := v != 0 }
  | .keymap k => { ctrl with keymap := Function.update ctrl.keymap k (toU8 v) }
  | .emulateActive => { ctrl with emulateActive := v != 0 }
  | .isUhid => { ctrl with isUhid := v != 0 }
  | .ledReapply => { ctrl with ledReapply := v != 0 }
  | .rumbleActive => { ctrl with rumbleActive := v != 0 }
  | .invertLy => { ctrl with invertLy := v != 0 }
  | .invertRy => { ctrl with invertRy := v != 0 }
  | .sensitivityLeftPreset => { ctrl with sensitivityLeftPreset := toU8 v }
  | .sensitivityRightPreset => { ctrl with sensitivityRightPreset := toU8 v }
  | .ledEffect => { ctrl with ledRequestEffect := v }
  | .ledEffectSpeed => { ctrl with ledRequestSpeed := toU8 v }
  | .ledEffectBrightness => { ctrl with ledRequestBrightness := toU8 v }
  | .treatTriggersAsDigital => { ctrl with isTriggerDigital := v != 0 }

/-! ## Reading and writing single settings -/

theorem toUInt8_injective {a b : Bool} (h : a.toUInt8 = b.toUInt8) : a = b := by
  revert h
  cases a <;> cases b <;> decide

/-- A configuration is its settings. -/
theorem SlotConfig.ext_setting {a b : SlotConfig} (h : ∀ s, a.setting s = b.setting s) : a = b := by
  apply SlotConfig.ext
  case ledR => exact h .ledR
  case ledG => exact h .ledG
  case ledB => exact h .ledB
  case ledBaseR => exact h .ledBaseR
  case ledBaseG => exact h .ledBaseG
  case ledBaseB => exact h .ledBaseB
  case rumbleGain => exact h .rumbleGain
  case deadzone => exact h .deadzone
  case globalLedBrightness => exact h .globalLedBrightness
  case playerLeds => exact h .playerLeds
  case debounceEnabled => exact toUInt8_injective (h .debounceEnabled)
  case emulateActive => exact toUInt8_injective (h .emulateActive)
  case isUhid => exact toUInt8_injective (h .isUhid)
  case ledReapply => exact toUInt8_injective (h .ledReapply)
  case rumbleActive => exact toUInt8_injective (h .rumbleActive)
  case invertLy => exact toUInt8_injective (h .invertLy)
  case invertRy => exact toUInt8_injective (h .invertRy)
  case sensitivityLeftPreset => exact h .sensitivityLeftPreset
  case sensitivityRightPreset => exact h .sensitivityRightPreset
  case ledEffect => exact h .ledEffect
  case ledEffectSpeed => exact h .ledEffectSpeed
  case ledEffectBrightness => exact h .ledEffectBrightness
  case keymap => exact funext fun k => h (.keymap k)
  case treatTriggersAsDigital => exact toUInt8_injective (h .treatTriggersAsDigital)

/-- **Assigning a setting** changes that setting and no other. -/
theorem SlotConfig.setting_set (cfg : SlotConfig) (s t : Setting) (v : Int) :
    (cfg.set s v).setting t = if t = s then s.convert v else cfg.setting t := by
  by_cases hts : t = s
  · subst hts
    rw [if_pos rfl]
    cases t <;> simp [SlotConfig.set, SlotConfig.setting, Setting.convert, Setting.isSwitch]
  · rw [if_neg hts]
    -- two different constructors touch different members; two keymap entries are left
    cases s <;> cases t <;> first
      | rfl
      | exact absurd rfl hts
      | exact Function.update_of_ne (fun h => hts (congrArg Setting.keymap h)) _ _

/-- Storing into a controller is assigning in the configuration it is read as. -/
theorem controllerToSlotConfig_store (ctrl : Controller) (s : Setting) (v : Int) :
    controllerToSlotConfig (ctrl.store s v) = (controllerToSlotConfig ctrl).set s v := by
  cases s <;> rfl

theorem Controller.setting_store (ctrl : Controller) (s t : Setting) (v : Int) :
    (ctrl.store s v).setting t = if t = s then s.convert v else ctrl.setting t := by
  unfold Controller.setting
  rw [controllerToSlotConfig_store, SlotConfig.setting_set]

theorem switch_toNat (b : Bool) : ((b.toUInt8.toNat : Int) != 0).toUInt8 = b.toUInt8 := by
  cases b <;> decide

/-- A setting that was read is stored back as it was. -/
@[simp] theorem Setting.convert_setting (s : Setting) (cfg : SlotConfig) :
    s.convert (cfg.setting s).toNat = cfg.setting s := by
  cases s <;> first
    | exact toU8_toNat _
    | exact switch_toNat _

/-! ## The loops over a slot -/

/-- The entries of a keymap, in `memcpy`'s order. -/
def keymapOrder : List Setting := (List.finRange phyBtnCount).map .keymap

/-- The order in which `controller_to_slot_config` reads (it reads `led_base_b` twice). -/
def readOrder : List Setting :=
  [.ledR, .ledG, .ledB, .ledBaseR, .ledBaseG, .ledBaseB, .ledBaseB, .rumbleGain, .deadzone,
    .globalLedBrightness, .playerLeds, .debounceEnabled] ++ keymapOrder ++
  [.emulateActive, .isUhid, .ledReapply, .rumbleActive, .invertLy, .invertRy,
    .sensitivityLeftPreset, .sensitivityRightPreset, .ledEffect, .ledEffectSpeed,
    .ledEffectBrightness, .treatTriggersAsDigital]

/-- The order in which `slot_config_to_controller` stores. -/
def storeOrder : List Setting :=
  [.ledR, .ledG, .ledB, .ledBaseR, .ledBaseG, .ledBaseB, .rumbleGain, .deadzone,
    .globalLedBrightness, .debounceEnabled] ++ keymapOrder ++
  [.emulateActive, .isUhid, .ledReapply, .rumbleActive, .invertLy, .invertRy,
    .sensitivityLeftPreset, .sensitivityRightPreset, .ledEffect, .ledEffectSpeed,
    .ledEffectBrightness, .playerLeds, .treatTriggersAsDigital]

/-- `cfg->s = atomic_load(&ctrl->s)`. -/
def readSetting (ctrl : Controller) (cfg : SlotConfig) (s : Setting) : SlotConfig :=
  cfg.set s (ctrl.setting s).toNat

/-- `atomic_store(&ctrl->s, cfg->s)`, with the LED flag `slot_config_to_controller` stores along with
it. -/
def applySetting (cfg : SlotConfig) (ctrl : Controller) (s : Setting) : Controller :=
  match s with
  | .ledEffect =>
      { ctrl.store s (cfg.setting s).toNat with ledStatic := cfg.ledEffect == 0 }
  | .playerLeds => { ctrl.store s (cfg.setting s).toNat with ledRequestPending := true }
  | s => ctrl.store s (cfg.setting s).toNat

theorem mem_readOrder (s : Setting) : s ∈ readOrder := by
  cases s <;> simp [readOrder, keymapOrder]

theorem mem_storeOrder (s : Setting) : s ∈ storeOrder := by
  cases s <;> simp [storeOrder, keymapOrder]

theorem nodup_storeOrder : storeOrder.Nodup := by decide +kernel

theorem setting_readSetting (ctrl : Controller) (cfg : SlotConfig) (s t : Setting) :
    (readSetting ctrl cfg s).setting t = if t = s then ctrl.setting s else cfg.setting t := by
  unfold readSetting
  rw [SlotConfig.setting_set]
  unfold Controller.setting
  rw [Setting.convert_setting]

theorem setting_applySetting (cfg : SlotConfig) (ctrl : Controller) (s t : Setting) :
    (applySetting cfg ctrl s).setting t = if t = s then cfg.setting s else ctrl.setting t := by
  have hstore : (ctrl.store s (cfg.setting s).toNat).setting t =
      if t = s then cfg.setting s else ctrl.setting t := by
    rw [Controller.setting_store, Setting.convert_setting]
  rw [← hstore]
  cases s <;> rfl

/-- Reading every setting reads the slot. -/
theorem foldl_readSetting (ctrl : Controller) (cfg : SlotConfig) :
    readOrder.foldl (readSetting ctrl) cfg = controllerToSlotConfig ctrl := by
  have hfold : ∀ (l : List Setting) (cfg : SlotConfig) (t : Setting),
      (l.foldl (readSetting ctrl) cfg).setting t =
        if t ∈ l then ctrl.setting t else cfg.setting t := by
    intro l
    induction l with
    | nil => simp
    | cons s l ih =>
        intro cfg t
        rw [List.foldl_cons, ih, setting_readSetting]
        by_cases ht : t = s
        · subst ht
          simp
        · simp [ht]
  apply SlotConfig.ext_setting
  intro t
  rw [hfold, if_pos (mem_readOrder t)]
  rfl

/-- A written switch is stored as it was. -/
theorem switch_ne_zero (b : Bool) : ((b.toUInt8.toNat : Int) != 0) = b := by
  cases b <;> decide

/-- Storing the keymap entries in `l`. -/
theorem foldl_applySetting_keymap (cfg : SlotConfig) :
    ∀ (l : List (Fin phyBtnCount)) (ctrl : Controller),
      (l.map Setting.keymap).foldl (applySetting cfg) ctrl =
        { ctrl with keymap := fun k => if k ∈ l then cfg.keymap k else ctrl.keymap k }
  | [], ctrl => by simp
  | k :: l, ctrl => by
      have hstep : applySetting cfg ctrl (.keymap k) =
          { ctrl with keymap := Function.update ctrl.keymap k (cfg.keymap k) } := by
        simp only [applySetting, Controller.store, SlotConfig.setting, toU8_toNat]
      rw [List.map_cons, List.foldl_cons, foldl_applySetting_keymap cfg l, hstep]
      have hmap : (fun j => if j ∈ l then cfg.keymap j
            else Function.update ctrl.keymap k (cfg.keymap k) j) =
          fun j => if j ∈ k :: l then cfg.keymap j else ctrl.keymap j := by
        funext j
        by_cases hj : j = k
        · subst hj
          simp
        · simp [hj]
      rw [hmap]

/-- Storing every setting stores the slot. -/
theorem foldl_applySetting (cfg : SlotConfig) (ctrl : Controller) :
    storeOrder.foldl (applySetting cfg) ctrl = slotConfigToController cfg ctrl := by
  simp only [storeOrder, keymapOrder, List.foldl_append, foldl_applySetting_keymap, List.foldl_cons,
    List.foldl_nil, applySetting, Controller.store, SlotConfig.setting, toU8_toNat, switch_ne_zero,
    List.mem_finRange, if_true]
  rfl

end Dstx
