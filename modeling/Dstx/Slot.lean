/-
# Dstx.Slot — the per-slot settings: `slot_config_t`, its shared-memory twin, and the conversions.

`SlotConfig` is `slot_config_t` field by field.  `Controller` is the part of `controller_t` the
settings thread and its clients share through memory: the twenty-three settings and the keymap under
their shared-memory names, plus the LED request flags the conversion writes alongside them.  The
input state, descriptors and device data of `controller_t` are not read or written by this code.

`led_request_effect` is an `int` in shared memory and a `uint8_t` in the profile, so reading it
TRUNCATES (`toU8`); every other field has the same type on both sides.
-/
import Dstx.CJson
import Mathlib.Data.Fintype.Pi

namespace Dstx

/-- `MAX_SLOTS`. -/
def maxSlots : Nat := 4

theorem maxSlots_pos : 0 < maxSlots := by decide

theorem one_lt_maxSlots : 1 < maxSlots := by decide

/-- Slot 0, the first one that `find_free_slot` looks at. -/
def firstSlot : Fin maxSlots := ⟨0, maxSlots_pos⟩

/-- Slot 1. -/
def secondSlot : Fin maxSlots := ⟨1, one_lt_maxSlots⟩

/-- `PHY_BTN_COUNT`. -/
def phyBtnCount : Nat := 18

/-- `LOGICAL_BTN_COUNT` (the physical buttons and `LOGICAL_BTN_NONE`). -/
def logicalBtnCount : Nat := 19

/-- `SENS_PRESET_COUNT`. -/
def sensPresetCount : Nat := 8

/-- `SENS_PRESET_DEFAULT`. -/
def sensPresetDefault : UInt8 := 0

/-- `LEDFX_COUNT`. -/
def ledfxCount : Nat := 9

/-- `PROFILE_NAME_LEN`. -/
def profileNameLen : Nat := 64

/-- `uint8_t keymap[PHY_BTN_COUNT]`. -/
abbrev Keymap := Fin phyBtnCount → UInt8

/-- A C conversion to `uint8_t`. -/
def toU8 (v : Int) : UInt8 := UInt8.ofNat (v % 256).toNat

/-- The conversion keeps the value modulo 256. -/
theorem toNat_toU8_mod (v : Int) : ((toU8 v).toNat : Int) = v % 256 := by
  rw [toU8, UInt8.toNat_ofNat']
  omega

/-- It keeps the values of a byte. -/
theorem toNat_toU8 {v : Int} (h : 0 ≤ v ∧ v < 256) : ((toU8 v).toNat : Int) = v := by
  rw [toNat_toU8_mod]
  omega

@[simp] theorem toU8_toNat (b : UInt8) : toU8 b.toNat = b := by
  have hb := b.toNat_lt
  have h : ((toU8 b.toNat).toNat : Int) = b.toNat := toNat_toU8 (by omega)
  exact UInt8.toNat_inj.mp (Int.ofNat_inj.mp h)

/-- `keys_get_default_map`: every physical button produces the logical button of its own index. -/
def keysGetDefaultMap : Keymap := fun i => UInt8.ofNat (i + 1)

/-- **`slot_config_t`**. -/
@[ext]
structure SlotConfig where
  ledR : UInt8
  ledG : UInt8
  ledB : UInt8
  ledBaseR : UInt8
  ledBaseG : UInt8
  ledBaseB : UInt8
  rumbleGain : UInt8
  deadzone : UInt8
  globalLedBrightness : UInt8
  playerLeds : UInt8
  debounceEnabled : Bool
  emulateActive : Bool
  isUhid : Bool
  ledReapply : Bool
  rumbleActive : Bool
  invertLy : Bool
  invertRy : Bool
  sensitivityLeftPreset : UInt8
  sensitivityRightPreset : UInt8
  ledEffect : UInt8
  ledEffectSpeed : UInt8
  ledEffectBrightness : UInt8
  keymap : Keymap
  treatTriggersAsDigital : Bool
  deriving DecidableEq

/-- `slot_config_t slots[MAX_SLOTS]`. -/
abbrev Slots := Fin maxSlots → SlotConfig

/-- **`controller_t`**, the settings and LED request part. -/
structure Controller where
  ledR : UInt8
  ledG : UInt8
  ledB : UInt8
  ledBaseR : UInt8
  ledBaseG : UInt8
  ledBaseB : UInt8
  rumbleGain : UInt8
  deadzone : UInt8
  globalLedBrightness : UInt8
  playerLeds : UInt8
  debounceEnabled : Bool
  emulateActive : Bool
  isUhid : Bool
  ledReapply : Bool
  rumbleActive : Bool
  invertLy : Bool
  invertRy : Bool
  sensitivityLeftPreset : UInt8
  sensitivityRightPreset : UInt8
  ledStatic : Bool
  ledRequestEffect : Int
  ledRequestSpeed : UInt8
  ledRequestBrightness : UInt8
  ledRequestPending : Bool
  ledDirty : Bool
  isTriggerDigital : Bool
  keymap : Keymap

/-- **`slot_config_to_controller`** — store a profile's slot into shared memory.  The one-shot
request flags of the controller are left alone. -/
def slotConfigToController (cfg : SlotConfig) (ctrl : Controller) : Controller :=
  { ctrl with
    ledR := cfg.ledR
    ledG := cfg.ledG
    ledB := cfg.ledB
    ledBaseR := cfg.ledBaseR
    ledBaseG := cfg.ledBaseG
    ledBaseB := cfg.ledBaseB
    rumbleGain := cfg.rumbleGain
    deadzone := cfg.deadzone
    globalLedBrightness := cfg.globalLedBrightness
    debounceEnabled := cfg.debounceEnabled
    keymap := cfg.keymap
    emulateActive := cfg.emulateActive
    isUhid := cfg.isUhid
    ledReapply := cfg.ledReapply
    rumbleActive := cfg.rumbleActive
    invertLy := cfg.invertLy
    invertRy := cfg.invertRy
    sensitivityLeftPreset := cfg.sensitivityLeftPreset
    sensitivityRightPreset := cfg.sensitivityRightPreset
    ledStatic := cfg.ledEffect == 0
    ledRequestEffect := cfg.ledEffect.toNat
    ledRequestSpeed := cfg.ledEffectSpeed
    ledRequestBrightness := cfg.ledEffectBrightness
    playerLeds := cfg.playerLeds
    ledRequestPending := true
    isTriggerDigital := cfg.treatTriggersAsDigital }

/-- **`controller_to_slot_config`** — the persistent settings of a controller. -/
def controllerToSlotConfig (ctrl : Controller) : SlotConfig where
  ledR := ctrl.ledR
  ledG := ctrl.ledG
  ledB := ctrl.ledB
  ledBaseR := ctrl.ledBaseR
  ledBaseG := ctrl.ledBaseG
  ledBaseB := ctrl.ledBaseB
  rumbleGain := ctrl.rumbleGain
  deadzone := ctrl.deadzone
  globalLedBrightness := ctrl.globalLedBrightness
  playerLeds := ctrl.playerLeds
  debounceEnabled := ctrl.debounceEnabled
  keymap := ctrl.keymap
  emulateActive := ctrl.emulateActive
  isUhid := ctrl.isUhid
  ledReapply := ctrl.ledReapply
  rumbleActive := ctrl.rumbleActive
  invertLy := ctrl.invertLy
  invertRy := ctrl.invertRy
  sensitivityLeftPreset := ctrl.sensitivityLeftPreset
  sensitivityRightPreset := ctrl.sensitivityRightPreset
  ledEffect := toU8 ctrl.ledRequestEffect
  ledEffectSpeed := ctrl.ledRequestSpeed
  ledEffectBrightness := ctrl.ledRequestBrightness
  treatTriggersAsDigital := ctrl.isTriggerDigital

/-- Applying a configuration and reading it back gives the configuration, whatever the controller
held before. -/
@[simp] theorem controllerToSlotConfig_slotConfigToController (cfg : SlotConfig)
    (ctrl : Controller) : controllerToSlotConfig (slotConfigToController cfg ctrl) = cfg := by
  simp [controllerToSlotConfig, slotConfigToController]

/-- `led_dirty` is not a persisted setting. -/
@[simp] theorem controllerToSlotConfig_ledDirty (ctrl : Controller) (b : Bool) :
    controllerToSlotConfig { ctrl with ledDirty := b } = controllerToSlotConfig ctrl := rfl

/-- The field-by-field comparison of `profile_sync_shm_to_active`, in the source's order. -/
def slotDiffers (cfg newCfg : SlotConfig) : Bool :=
  cfg.ledR != newCfg.ledR ||
  cfg.ledG != newCfg.ledG ||
  cfg.ledB != newCfg.ledB ||
  cfg.ledBaseR != newCfg.ledBaseR ||
  cfg.ledBaseG != newCfg.ledBaseG ||
  cfg.ledBaseB != newCfg.ledBaseB ||
  cfg.rumbleGain != newCfg.rumbleGain ||
  cfg.deadzone != newCfg.deadzone ||
  cfg.globalLedBrightness != newCfg.globalLedBrightness ||
  cfg.playerLeds != newCfg.playerLeds ||
  cfg.debounceEnabled != newCfg.debounceEnabled ||
  cfg.emulateActive != newCfg.emulateActive ||
  cfg.isUhid != newCfg.isUhid ||
  cfg.ledReapply != newCfg.ledReapply ||
  cfg.rumbleActive != newCfg.rumbleActive ||
  cfg.invertLy != newCfg.invertLy ||
  cfg.invertRy != newCfg.invertRy ||
  cfg.sensitivityLeftPreset != newCfg.sensitivityLeftPreset ||
  cfg.sensitivityRightPreset != newCfg.sensitivityRightPreset ||
  cfg.ledEffect != newCfg.ledEffect ||
  cfg.ledEffectSpeed != newCfg.ledEffectSpeed ||
  cfg.ledEffectBrightness != newCfg.ledEffectBrightness ||
  cfg.treatTriggersAsDigital != newCfg.treatTriggersAsDigital ||
  cfg.keymap != newCfg.keymap

/-- The comparison misses no field: it is false exactly on equal configurations. -/
theorem slotDiffers_eq_false_iff {a b : SlotConfig} : slotDiffers a b = false ↔ a = b := by
  constructor
  · intro h
    simp only [slotDiffers, Bool.or_eq_false_iff, bne_eq_false_iff_eq] at h
    cases a
    cases b
    simp_all
  · rintro rfl
    simp [slotDiffers]

end Dstx
