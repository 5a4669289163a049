/-
# Dstx.Profile.Codec — how a profile is written to and read from a JSON document (`settings.c`).

Two functions of the source, each with its own spelling of every key: `saveDocument` is the tree
`save_profile_to_disk` builds, `acceptDocument` / `loadSlot` is what `load_profile_from_disk` reads.
The reader VALIDATES: a field that is missing, not a number, or outside its range becomes the field's
default (`safeJsonGetIntRange`), a keymap entry becomes the identity entry.

The bridge between the two is `loadSlot_saveSlot`: reading a written slot gives `SlotConfig.normalize`
of it — every field as it was when it is in the reader's range, the reader's default otherwise.
-/
import Dstx.Slot

namespace Dstx

open Dstx.Lib

/-! ## The validation helpers -/

/-- **`safe_json_get_int_range`** — the value written to `*out` and the function's result. -/
def safeJsonGetIntRange (obj : CJson) (key : CStr) (minVal maxVal defaultVal : Int) : Int × Bool :=
  match obj.getObjectItem key with
  | none => (defaultVal, false)
  | some item =>
      if !item.isNumber then (defaultVal, false)
      else if item.valueint < minVal ∨ item.valueint > maxVal then (defaultVal, false)
      else (item.valueint, true)

/-- **`safe_json_get_bool`** — an integer 0/1. -/
def safeJsonGetBool (obj : CJson) (key : CStr) (defaultVal : Bool) : Bool × Bool :=
  let (val, found) := safeJsonGetIntRange obj key 0 1 (if defaultVal then 1 else 0)
  (val != 0, found)

/-- **`safe_json_get_uint8`**. -/
def safeJsonGetUint8 (obj : CJson) (key : CStr) (minVal maxVal defaultVal : UInt8) : UInt8 × Bool :=
  let (tmp, found) := safeJsonGetIntRange obj key minVal.toNat maxVal.toNat defaultVal.toNat
  (toU8 tmp, found)

/-! ## Reading a slot -/

/-- One keymap entry of `load_profile_from_disk`: the array element when it is a number below
`LOGICAL_BTN_COUNT`, the identity entry otherwise. -/
def loadKeymapEntry (keymapArr : CJson) (k : Fin phyBtnCount) : UInt8 :=
  let defaultMap : UInt8 := UInt8.ofNat (k + 1)
  if (k : Nat) < keymapArr.getArraySize then
    match keymapArr.getArrayItem k with
    | some item =>
        if item.isNumber then
          if 0 ≤ item.valueint ∧ item.valueint < logicalBtnCount then toU8 item.valueint
          else defaultMap
        else defaultMap
    | none => defaultMap
  else defaultMap

/-- The keymap part of the slot loop: without a keymap array, the identity. -/
def loadKeymap (slot : CJson) : Keymap :=
  match slot.getObjectItem "keymap".toList with
  | some keymapArr => if keymapArr.isArray then loadKeymapEntry keymapArr else keysGetDefaultMap
  | none => keysGetDefaultMap

/-- **The slot loop body of `load_profile_from_disk`**: every field of the slot is assigned. -/
def loadSlot (slot : CJson) : SlotConfig where
  ledR := (safeJsonGetUint8 slot "led_r".toList 0 255 0).1
  ledG := (safeJsonGetUint8 slot "led_g".toList 0 255 0).1
  ledB := (safeJsonGetUint8 slot "led_b".toList 0 255 255).1
  ledBaseR := (safeJsonGetUint8 slot "led_base_r".toList 0 255 0).1
  ledBaseG := (safeJsonGetUint8 slot "led_base_g".toList 0 255 0).1
  ledBaseB := (safeJsonGetUint8 slot "led_base_b".toList 0 255 255).1
  rumbleGain := (safeJsonGetUint8 slot "rumble_gain".toList 0 100 100).1
  deadzone := (safeJsonGetUint8 slot "deadzone".toList 0 100 10).1
  globalLedBrightness := (safeJsonGetUint8 slot "global_brightness".toList 0 100 80).1
  playerLeds := (safeJsonGetUint8 slot "player_leds".toList 0 5 0).1
  debounceEnabled := (safeJsonGetBool slot "debounce".toList true).1
  emulateActive := (safeJsonGetBool slot "emulate".toList true).1
  isUhid := (safeJsonGetBool slot "is_uhid".toList false).1
  ledReapply := (safeJsonGetBool slot "led_reapply".toList true).1
  rumbleActive := (safeJsonGetBool slot "rumble_active".toList true).1
  invertLy := (safeJsonGetBool slot "invert_ly".toList false).1
  invertRy := (safeJsonGetBool slot "invert_ry".toList false).1
  treatTriggersAsDigital := (safeJsonGetBool slot "triggers_digital".toList false).1
  sensitivityLeftPreset := (safeJsonGetUint8 slot "sensitivity_left".toList
    0 (UInt8.ofNat (sensPresetCount - 1)) sensPresetDefault).1
  sensitivityRightPreset := (safeJsonGetUint8 slot "sensitivity_right".toList
    0 (UInt8.ofNat (sensPresetCount - 1)) sensPresetDefault).1
  ledEffect := (safeJsonGetUint8 slot "led_effect".toList 0 (UInt8.ofNat (ledfxCount - 1)) 0).1
  ledEffectSpeed := (safeJsonGetUint8 slot "led_effect_speed".toList 1 10 5).1
  ledEffectBrightness := (safeJsonGetUint8 slot "led_effect_brightness".toList 0 100 80).1
  keymap := loadKeymap slot

/-- The members `load_profile_from_disk` insists on: the `version` and `last_modified` items (of any
type) and a `slots` array.  `none` is the early `return false`. -/
def acceptDocument (root : CJson) : Option (CJson × CJson × CJson) :=
  match root.getObjectItem "version".toList, root.getObjectItem "last_modified".toList,
      root.getObjectItem "slots".toList with
  | some version, some lastMod, some slots =>
      if slots.isArray then some (version, lastMod, slots) else none
  | _, _, _ => none

/-- **The slot loop** `for (i = 0; i < MAX_SLOTS && i < array_size; i++)`, over the slots the profile
held before: an index the array does not reach keeps its old configuration. -/
def loadSlots (slots : CJson) (old : Slots) : Slots := fun i =>
  if (i : Nat) < slots.getArraySize then
    match slots.getArrayItem i with
    | none => old i
    | some slot => loadSlot slot
  else old i

/-! ## Writing a document -/

/-- The slot object `save_profile_to_disk` builds. -/
def saveSlot (cfg : SlotConfig) : CJson :=
  .object [
    ("led_r".toList, .number cfg.ledR.toNat),
    ("led_g".toList, .number cfg.ledG.toNat),
    ("led_b".toList, .number cfg.ledB.toNat),
    ("led_base_r".toList, .number cfg.ledBaseR.toNat),
    ("led_base_g".toList, .number cfg.ledBaseG.toNat),
    ("led_base_b".toList, .number cfg.ledBaseB.toNat),
    ("rumble_gain".toList, .number cfg.rumbleGain.toNat),
    ("deadzone".toList, .number cfg.deadzone.toNat),
    ("global_brightness".toList, .number cfg.globalLedBrightness.toNat),
    ("player_leds".toList, .number cfg.playerLeds.toNat),
    ("debounce".toList, .number cfg.debounceEnabled.toNat),
    ("emulate".toList, .number cfg.emulateActive.toNat),
    ("is_uhid".toList, .number cfg.isUhid.toNat),
    ("led_reapply".toList, .number cfg.ledReapply.toNat),
    ("rumble_active".toList, .number cfg.rumbleActive.toNat),
    ("invert_ly".toList, .number cfg.invertLy.toNat),
    ("invert_ry".toList, .number cfg.invertRy.toNat),
    ("sensitivity_left".toList, .number cfg.sensitivityLeftPreset.toNat),
    ("sensitivity_right".toList, .number cfg.sensitivityRightPreset.toNat),
    ("led_effect".toList, .number cfg.ledEffect.toNat),
    ("led_effect_speed".toList, .number cfg.ledEffectSpeed.toNat),
    ("led_effect_brightness".toList, .number cfg.ledEffectBrightness.toNat),
    ("triggers_digital".toList, .number cfg.treatTriggersAsDigital.toNat),
    ("keymap".toList, .array (List.ofFn fun k => .number (cfg.keymap k).toNat))]

/-- The `slots` array of a saved document. -/
def saveSlots (slots : Slots) : CJson := .array (List.ofFn fun i => saveSlot (slots i))

/-- A `time(NULL)` reading, within the integers a `double` holds exactly. -/
abbrev TimeT := Fin (2 ^ 53)

instance neZeroTimeT : NeZero (2 ^ 53) := ⟨by decide⟩

/-- **The document `save_profile_to_disk` prints.** -/
def saveDocument (version : UInt32) (slots : Slots) (now : TimeT) : CJson :=
  .object [
    ("version".toList, .number version.toNat),
    ("last_modified".toList, .number now),
    ("slots".toList, saveSlots slots)]

/-! ## The reader's ranges -/

/-- `v` when it lies in `[lo, hi]`, the default otherwise. -/
def keepInRange (lo hi dflt v : UInt8) : UInt8 := if lo ≤ v ∧ v ≤ hi then v else dflt

theorem keepInRange_of_mem {lo hi dflt v : UInt8} (h : lo ≤ v ∧ v ≤ hi) :
    keepInRange lo hi dflt v = v := if_pos h

/-- **The reader's view of a configuration**: every field that is in the reader's range as it is,
every other one replaced by the reader's default (the identity entry for a keymap entry). -/
def SlotConfig.normalize (cfg : SlotConfig) : SlotConfig :=
  { cfg with
    rumbleGain := keepInRange 0 100 100 cfg.rumbleGain
    deadzone := keepInRange 0 100 10 cfg.deadzone
    globalLedBrightness := keepInRange 0 100 80 cfg.globalLedBrightness
    playerLeds := keepInRange 0 5 0 cfg.playerLeds
    sensitivityLeftPreset := keepInRange 0 7 0 cfg.sensitivityLeftPreset
    sensitivityRightPreset := keepInRange 0 7 0 cfg.sensitivityRightPreset
    ledEffect := keepInRange 0 8 0 cfg.ledEffect
    ledEffectSpeed := keepInRange 1 10 5 cfg.ledEffectSpeed
    ledEffectBrightness := keepInRange 0 100 80 cfg.ledEffectBrightness
    keymap := fun k => keepInRange 0 18 (UInt8.ofNat (k + 1)) (cfg.keymap k) }

/-- Every field is in the reader's range. -/
structure SlotConfig.InRange (cfg : SlotConfig) : Prop where
  rumbleGain : cfg.rumbleGain ≤ 100
  deadzone : cfg.deadzone ≤ 100
  globalLedBrightness : cfg.globalLedBrightness ≤ 100
  playerLeds : cfg.playerLeds ≤ 5
  sensitivityLeftPreset : cfg.sensitivityLeftPreset ≤ 7
  sensitivityRightPreset : cfg.sensitivityRightPreset ≤ 7
  ledEffect : cfg.ledEffect ≤ 8
  ledEffectSpeed : 1 ≤ cfg.ledEffectSpeed ∧ cfg.ledEffectSpeed ≤ 10
  ledEffectBrightness : cfg.ledEffectBrightness ≤ 100
  keymap : ∀ k, cfg.keymap k ≤ 18

theorem zero_le_byte (b : UInt8) : 0 ≤ b := by
  rw [UInt8.le_iff_toNat_le]
  exact Nat.zero_le _

/-- On an in-range configuration the reader changes nothing. -/
theorem SlotConfig.InRange.normalize_eq {cfg : SlotConfig} (h : cfg.InRange) :
    cfg.normalize = cfg := by
  have hkey : (fun k => keepInRange 0 18 (UInt8.ofNat (k.val + 1)) (cfg.keymap k)) = cfg.keymap := by
    funext k
    exact keepInRange_of_mem ⟨zero_le_byte _, h.keymap k⟩
  unfold SlotConfig.normalize
  rw [hkey, keepInRange_of_mem ⟨zero_le_byte _, h.rumbleGain⟩,
    keepInRange_of_mem ⟨zero_le_byte _, h.deadzone⟩,
    keepInRange_of_mem ⟨zero_le_byte _, h.globalLedBrightness⟩,
    keepInRange_of_mem ⟨zero_le_byte _, h.playerLeds⟩,
    keepInRange_of_mem ⟨zero_le_byte _, h.sensitivityLeftPreset⟩,
    keepInRange_of_mem ⟨zero_le_byte _, h.sensitivityRightPreset⟩,
    keepInRange_of_mem ⟨zero_le_byte _, h.ledEffect⟩, keepInRange_of_mem h.ledEffectSpeed,
    keepInRange_of_mem ⟨zero_le_byte _, h.ledEffectBrightness⟩]

/-- The identity keymap entries are themselves valid entries. -/
theorem identityEntry_le (k : Fin phyBtnCount) : UInt8.ofNat (k.val + 1) ≤ 18 := by
  revert k
  decide

theorem keepInRange_le {lo hi dflt : UInt8} (hd : dflt ≤ hi) (v : UInt8) :
    keepInRange lo hi dflt v ≤ hi := by
  unfold keepInRange
  split
  · rename_i h
    exact h.2
  · exact hd

theorem le_keepInRange {lo hi dflt : UInt8} (hd : lo ≤ dflt) (v : UInt8) :
    lo ≤ keepInRange lo hi dflt v := by
  unfold keepInRange
  split
  · rename_i h
    exact h.1
  · exact hd

/-- What the reader produces is always in range: EVERY default passes its own check. -/
theorem SlotConfig.normalize_inRange (cfg : SlotConfig) : cfg.normalize.InRange where
  rumbleGain := keepInRange_le (by decide) _
  deadzone := keepInRange_le (by decide) _
  globalLedBrightness := keepInRange_le (by decide) _
  playerLeds := keepInRange_le (by decide) _
  sensitivityLeftPreset := keepInRange_le (by decide) _
  sensitivityRightPreset := keepInRange_le (by decide) _
  ledEffect := keepInRange_le (by decide) _
  ledEffectSpeed := ⟨le_keepInRange (by decide) _, keepInRange_le (by decide) _⟩
  ledEffectBrightness := keepInRange_le (by decide) _
  keymap := fun k => keepInRange_le (identityEntry_le k) _

/-! ## What the reader produces -/

/-- The integer a range check lets through lies in the range, its default included. -/
theorem safeJsonGetIntRange_mem (obj : CJson) (key : CStr) {lo hi dflt : Int} (hlo : lo ≤ dflt)
    (hhi : dflt ≤ hi) : lo ≤ (safeJsonGetIntRange obj key lo hi dflt).1 ∧
      (safeJsonGetIntRange obj key lo hi dflt).1 ≤ hi := by
  unfold safeJsonGetIntRange
  split
  · exact ⟨hlo, hhi⟩
  · split
    · exact ⟨hlo, hhi⟩
    · split
      · exact ⟨hlo, hhi⟩
      · dsimp only
        omega

theorem toU8_le {v : Int} {hi : UInt8} (h₀ : 0 ≤ v) (h₁ : v ≤ hi.toNat) : toU8 v ≤ hi := by
  have hhi := hi.toNat_lt
  have hnat := toNat_toU8 (v := v) (by omega)
  rw [UInt8.le_iff_toNat_le]
  omega

theorem le_toU8 {v : Int} {lo hi : UInt8} (h₀ : lo.toNat ≤ v) (h₁ : v ≤ hi.toNat) :
    lo ≤ toU8 v := by
  have hhi := hi.toNat_lt
  have hnat := toNat_toU8 (v := v) (by omega)
  rw [UInt8.le_iff_toNat_le]
  omega

/-- A byte read through the range check lies in the range. -/
theorem safeJsonGetUint8_mem (obj : CJson) (key : CStr) {lo hi dflt : UInt8} (hlo : lo ≤ dflt)
    (hhi : dflt ≤ hi) : lo ≤ (safeJsonGetUint8 obj key lo hi dflt).1 ∧
      (safeJsonGetUint8 obj key lo hi dflt).1 ≤ hi := by
  have hlo' : (lo.toNat : Int) ≤ dflt.toNat := Int.ofNat_le.mpr (UInt8.le_iff_toNat_le.mp hlo)
  have hhi' : (dflt.toNat : Int) ≤ hi.toNat := Int.ofNat_le.mpr (UInt8.le_iff_toNat_le.mp hhi)
  obtain ⟨h₁, h₂⟩ := safeJsonGetIntRange_mem obj key hlo' hhi'
  unfold safeJsonGetUint8
  exact ⟨le_toU8 h₁ h₂, toU8_le (by omega) h₂⟩

theorem loadKeymapEntry_le (arr : CJson) (k : Fin phyBtnCount) : loadKeymapEntry arr k ≤ 18 := by
  unfold loadKeymapEntry
  dsimp only
  split
  · split
    · split
      · split
        · rename_i h
          have hlt : (_ : Int) < (19 : Nat) := h.2
          apply toU8_le h.1
          show _ ≤ ((18 : Nat) : Int)
          omega
        · exact identityEntry_le k
      · exact identityEntry_le k
    · exact identityEntry_le k
  · exact identityEntry_le k

theorem loadKeymap_le (slot : CJson) (k : Fin phyBtnCount) : loadKeymap slot k ≤ 18 := by
  unfold loadKeymap
  cases slot.getObjectItem "keymap".toList with
  | none => exact identityEntry_le k
  | some arr =>
      dsimp only
      by_cases harr : arr.isArray = true
      · rw [if_pos harr]
        exact loadKeymapEntry_le arr k
      · rw [if_neg harr]
        exact identityEntry_le k

/-- **What is accepted is well formed**: whatever the JSON value, the slot read from it is in range. -/
theorem loadSlot_inRange (slot : CJson) : (loadSlot slot).InRange where
  rumbleGain := (safeJsonGetUint8_mem slot _ (by decide) (by decide)).2
  deadzone := (safeJsonGetUint8_mem slot _ (by decide) (by decide)).2
  globalLedBrightness := (safeJsonGetUint8_mem slot _ (by decide) (by decide)).2
  playerLeds := (safeJsonGetUint8_mem slot _ (by decide) (by decide)).2
  sensitivityLeftPreset := (safeJsonGetUint8_mem slot _ (by decide) (by decide)).2
  sensitivityRightPreset := (safeJsonGetUint8_mem slot _ (by decide) (by decide)).2
  ledEffect := (safeJsonGetUint8_mem slot _ (by decide) (by decide)).2
  ledEffectSpeed := safeJsonGetUint8_mem slot _ (by decide) (by decide)
  ledEffectBrightness := (safeJsonGetUint8_mem slot _ (by decide) (by decide)).2
  keymap := loadKeymap_le slot

/-! ## Reading what was written -/

/-- A byte field that was written as a number is read back through the range check. -/
theorem safeJsonGetUint8_of_item {obj : CJson} {key : CStr} {b : UInt8} (lo hi dflt : UInt8)
    (h : obj.getObjectItem key = some (.number b.toNat)) :
    (safeJsonGetUint8 obj key lo hi dflt).1 = keepInRange lo hi dflt b := by
  have hrange : (lo ≤ b ∧ b ≤ hi) ↔ ¬((b.toNat : Int) < lo.toNat ∨ (b.toNat : Int) > hi.toNat) := by
    rw [UInt8.le_iff_toNat_le, UInt8.le_iff_toNat_le]
    omega
  simp only [safeJsonGetUint8, safeJsonGetIntRange, h, CJson.isNumber, CJson.valueint_byte,
    Bool.not_true, Bool.false_eq_true, if_false, keepInRange]
  by_cases hb : (b.toNat : Int) < lo.toNat ∨ (b.toNat : Int) > hi.toNat
  · rw [if_pos hb, if_neg (fun hin => hrange.mp hin hb)]
    exact toU8_toNat dflt
  · rw [if_neg hb, if_pos (hrange.mpr hb)]
    exact toU8_toNat b

/-- A colour component has the whole byte range, so it is read back unchanged. -/
theorem safeJsonGetUint8_colour {obj : CJson} {key : CStr} {b : UInt8} (dflt : UInt8)
    (h : obj.getObjectItem key = some (.number b.toNat)) :
    (safeJsonGetUint8 obj key 0 255 dflt).1 = b := by
  rw [safeJsonGetUint8_of_item 0 255 dflt h]
  refine keepInRange_of_mem ⟨zero_le_byte b, ?_⟩
  have := b.toNat_lt
  rw [UInt8.le_iff_toNat_le]
  show b.toNat ≤ 255
  omega

/-- A switch that was written as 0/1 is read back unchanged, whatever its default. -/
theorem safeJsonGetBool_of_item {obj : CJson} {key : CStr} {b : Bool} (dflt : Bool)
    (h : obj.getObjectItem key = some (.number b.toNat)) :
    (safeJsonGetBool obj key dflt).1 = b := by
  cases b <;>
    simp [safeJsonGetBool, safeJsonGetIntRange, h, CJson.isNumber, CJson.valueint, CJson.intMax,
      CJson.intMin]

/-- A written keymap array is read back entry by entry through the range check. -/
theorem loadKeymapEntry_ofFn (keymap : Keymap) (k : Fin phyBtnCount) :
    loadKeymapEntry (.array (List.ofFn fun k => .number (keymap k).toNat)) k =
      keepInRange 0 18 (UInt8.ofNat (k + 1)) (keymap k) := by
  have hrange : (0 ≤ keymap k ∧ keymap k ≤ 18) ↔
      (0 ≤ ((keymap k).toNat : Int) ∧ ((keymap k).toNat : Int) < logicalBtnCount) := by
    rw [UInt8.le_iff_toNat_le, UInt8.le_iff_toNat_le]
    show (0 ≤ (keymap k).toNat ∧ (keymap k).toNat ≤ 18) ↔
      (0 ≤ ((keymap k).toNat : Int) ∧ ((keymap k).toNat : Int) < (19 : Nat))
    omega
  simp only [loadKeymapEntry, CJson.getArraySize_array, CJson.getArrayItem_array, List.length_ofFn,
    k.isLt, if_true, List.getElem?_ofFn, dif_pos, Fin.eta, CJson.isNumber, CJson.valueint_byte,
    keepInRange]
  by_cases hk : 0 ≤ keymap k ∧ keymap k ≤ 18
  · rw [if_pos (hrange.mp hk), if_pos hk]
    exact toU8_toNat _
  · rw [if_neg (fun hin => hk (hrange.mpr hin)), if_neg hk]

/-- **Reading a written slot gives its normal form**: the two key lists agree, member by member. -/
theorem loadSlot_saveSlot (cfg : SlotConfig) : loadSlot (saveSlot cfg) = cfg.normalize := by
  unfold loadSlot SlotConfig.normalize
  apply SlotConfig.ext <;> dsimp only
  case ledR => exact safeJsonGetUint8_colour 0 rfl
  case ledG => exact safeJsonGetUint8_colour 0 rfl
  case ledB => exact safeJsonGetUint8_colour 255 rfl
  case ledBaseR => exact safeJsonGetUint8_colour 0 rfl
  case ledBaseG => exact safeJsonGetUint8_colour 0 rfl
  case ledBaseB => exact safeJsonGetUint8_colour 255 rfl
  case rumbleGain => exact safeJsonGetUint8_of_item 0 100 100 rfl
  case deadzone => exact safeJsonGetUint8_of_item 0 100 10 rfl
  case globalLedBrightness => exact safeJsonGetUint8_of_item 0 100 80 rfl
  case playerLeds => exact safeJsonGetUint8_of_item 0 5 0 rfl
  case debounceEnabled => exact safeJsonGetBool_of_item true rfl
  case emulateActive => exact safeJsonGetBool_of_item true rfl
  case isUhid => exact safeJsonGetBool_of_item false rfl
  case ledReapply => exact safeJsonGetBool_of_item true rfl
  case rumbleActive => exact safeJsonGetBool_of_item true rfl
  case invertLy => exact safeJsonGetBool_of_item false rfl
  case invertRy => exact safeJsonGetBool_of_item false rfl
  case sensitivityLeftPreset => exact safeJsonGetUint8_of_item 0 7 0 rfl
  case sensitivityRightPreset => exact safeJsonGetUint8_of_item 0 7 0 rfl
  case ledEffect => exact safeJsonGetUint8_of_item 0 8 0 rfl
  case ledEffectSpeed => exact safeJsonGetUint8_of_item 1 10 5 rfl
  case ledEffectBrightness => exact safeJsonGetUint8_of_item 0 100 80 rfl
  case keymap => exact funext fun k => loadKeymapEntry_ofFn cfg.keymap k
  case treatTriggersAsDigital => exact safeJsonGetBool_of_item false rfl

/-- The reader accepts every document the writer builds. -/
theorem acceptDocument_saveDocument (version : UInt32) (slots : Slots) (now : TimeT) :
    acceptDocument (saveDocument version slots now) =
      some (.number version.toNat, .number now, saveSlots slots) := rfl

/-- A written document has all four slots, so nothing of the old profile is left. -/
theorem loadSlots_saveSlots (slots old : Slots) :
    loadSlots (saveSlots slots) old = fun i => (slots i).normalize := by
  funext i
  have hi : (i : Nat) < maxSlots := i.isLt
  simp only [loadSlots, saveSlots, CJson.getArraySize_array, CJson.getArrayItem_array,
    List.length_ofFn, hi, if_true, List.getElem?_ofFn, dif_pos, Fin.eta]
  exact loadSlot_saveSlot (slots i)

/-! ## Printability of what is written -/

theorem exact_switch (b : Bool) : CJson.Exact (.number b.toNat) := by
  cases b <;> simp [CJson.Exact]

theorem exact_saveSlot (cfg : SlotConfig) : CJson.Exact (saveSlot cfg) := by
  have hkey : CJson.Exact (.array (List.ofFn fun k => .number (cfg.keymap k).toNat)) := by
    show CJson.ExactList _
    rw [CJson.exactList_iff]
    intro j hj
    obtain ⟨k, rfl⟩ := (List.mem_ofFn' _ _).mp hj
    exact CJson.exact_byte _
  show CJson.ExactMembers _
  simp only [CJson.ExactMembers, CJson.exact_byte, exact_switch, hkey, and_self]

theorem exact_saveDocument (version : UInt32) (slots : Slots) (now : TimeT) :
    CJson.Exact (saveDocument version slots now) := by
  have hv := version.toNat_lt
  have ht := now.isLt
  have hslots : CJson.ExactList (List.ofFn fun i => saveSlot (slots i)) := by
    rw [CJson.exactList_iff]
    intro j hj
    obtain ⟨i, rfl⟩ := (List.mem_ofFn' _ _).mp hj
    exact exact_saveSlot _
  refine ⟨?_, ?_, hslots, trivial⟩
  · show (version.toNat : Int).natAbs ≤ 2 ^ 53
    omega
  · show ((now : Nat) : Int).natAbs ≤ 2 ^ 53
    omega

end Dstx
