/-
# Dstx.Profile.Loading — `load_profile_from_disk` STORE BY STORE, and what a loaded profile can hold.

`loadProfileFromDisk` says what a load leaves as one update of the manager.  Here the function is the
program of the source: it looks at the document, returns `false` where the source does, and from then on
stores field after field into `pm->active_profile`.  `run_loadProfile` says that the two are the same.

A document that is refused leaves the manager alone, because every refusal comes before the first store, and
whatever an accepted one holds, the slots read from it are in range: `loadProfile_refuses_or_inRange`.

The switches are read through `safe_json_get_bool`, which accepts the NUMBERS 0 and 1.  A switch written
`true` or `false`, as the manual writes it, is not numeric and becomes the key's default:
`switches_loaded_iff`.
-/
import Dstx.Profile.Files
import Dstx.Lib.ExitCode

namespace Dstx

open Dstx.Lib

/-! ## The program -/

/-- The manager with other slots in its active profile. -/
def ProfileManager.setSlots (pm : ProfileManager) (slots : Slots) : ProfileManager :=
  { pm with activeProfile := { pm.activeProfile with slots := slots } }

@[simp] theorem ProfileManager.setSlots_slots (pm : ProfileManager) (slots : Slots) :
    (pm.setSlots slots).activeProfile.slots = slots := rfl

@[simp] theorem ProfileManager.setSlots_setSlots (pm : ProfileManager) (slots slots' : Slots) :
    (pm.setSlots slots).setSlots slots' = pm.setSlots slots' := rfl

@[simp] theorem ProfileManager.setSlots_self (pm : ProfileManager) :
    pm.setSlots pm.activeProfile.slots = pm := rfl

/-- A store into `pm->active_profile.slots[i]`. -/
def storeField (i : Fin maxSlots) (f : SlotConfig → SlotConfig) : StateM ProfileManager Unit :=
  modify fun pm => pm.setSlots
    (Function.update pm.activeProfile.slots i (f (pm.activeProfile.slots i)))

/-- `cfg->keymap[k] = …`. -/
def storeEntry (arr : CJson) (k : Fin phyBtnCount) (cfg : SlotConfig) : SlotConfig :=
  { cfg with keymap := Function.update cfg.keymap k (loadKeymapEntry arr k) }

/-- The stores of the keymap part: an entry each, or the default map. -/
def keymapStores (slot : CJson) : List (SlotConfig → SlotConfig) :=
  match slot.getObjectItem "keymap".toList with
  | some arr =>
      if arr.isArray then (List.finRange phyBtnCount).map (storeEntry arr)
      else [fun cfg => { cfg with keymap := keysGetDefaultMap }]
  | none => [fun cfg => { cfg with keymap := keysGetDefaultMap }]

/-- **The stores of one slot**, in the order of the source. -/
def slotStores (slot : CJson) : List (SlotConfig → SlotConfig) :=
  [fun cfg => { cfg with ledR := (safeJsonGetUint8 slot "led_r".toList 0 255 0).1 },
    fun cfg => { cfg with ledG := (safeJsonGetUint8 slot "led_g".toList 0 255 0).1 },
    fun cfg => { cfg with ledB := (safeJsonGetUint8 slot "led_b".toList 0 255 255).1 },
    fun cfg => { cfg with ledBaseR := (safeJsonGetUint8 slot "led_base_r".toList 0 255 0).1 },
    fun cfg => { cfg with ledBaseG := (safeJsonGetUint8 slot "led_base_g".toList 0 255 0).1 },
    fun cfg => { cfg with ledBaseB := (safeJsonGetUint8 slot "led_base_b".toList 0 255 255).1 },
    fun cfg => { cfg with rumbleGain := (safeJsonGetUint8 slot "rumble_gain".toList 0 100 100).1 },
    fun cfg => { cfg with deadzone := (safeJsonGetUint8 slot "deadzone".toList 0 100 10).1 },
    fun cfg => { cfg with
      globalLedBrightness := (safeJsonGetUint8 slot "global_brightness".toList 0 100 80).1 },
    fun cfg => { cfg with playerLeds := (safeJsonGetUint8 slot "player_leds".toList 0 5 0).1 },
    fun cfg => { cfg with debounceEnabled := (safeJsonGetBool slot "debounce".toList true).1 },
    fun cfg => { cfg with emulateActive := (safeJsonGetBool slot "emulate".toList true).1 },
    fun cfg => { cfg with isUhid := (safeJsonGetBool slot "is_uhid".toList false).1 },
    fun cfg => { cfg with ledReapply := (safeJsonGetBool slot "led_reapply".toList true).1 },
    fun cfg => { cfg with rumbleActive := (safeJsonGetBool slot "rumble_active".toList true).1 },
    fun cfg => { cfg with invertLy := (safeJsonGetBool slot "invert_ly".toList false).1 },
    fun cfg => { cfg with invertRy := (safeJsonGetBool slot "invert_ry".toList false).1 },
    fun cfg => { cfg with
      treatTriggersAsDigital := (safeJsonGetBool slot "triggers_digital".toList false).1 },
    fun cfg => { cfg with sensitivityLeftPreset := (safeJsonGetUint8 slot "sensitivity_left".toList
      0 (UInt8.ofNat (sensPresetCount - 1)) sensPresetDefault).1 },
    fun cfg => { cfg with sensitivityRightPreset := (safeJsonGetUint8 slot "sensitivity_right".toList
      0 (UInt8.ofNat (sensPresetCount - 1)) sensPresetDefault).1 },
    fun cfg => { cfg with
      ledEffect := (safeJsonGetUint8 slot "led_effect".toList 0 (UInt8.ofNat (ledfxCount - 1)) 0).1 },
    fun cfg => { cfg with
      ledEffectSpeed := (safeJsonGetUint8 slot "led_effect_speed".toList 1 10 5).1 },
    fun cfg => { cfg with
      ledEffectBrightness := (safeJsonGetUint8 slot "led_effect_brightness".toList 0 100 80).1 }] ++
    keymapStores slot

/-- The body of the slot loop. -/
def readSlot (slots : CJson) (i : Fin maxSlots) : StateM ProfileManager Unit :=
  if (i : Nat) < slots.getArraySize then
    match slots.getArrayItem i with
    | none => pure ()
    | some slot => (slotStores slot).forM (storeField i)
  else pure ()

/-- **`load_profile_from_disk`**, with the document its file holds; `none` is a file that cannot be read,
memory that cannot be had, or a text that is no JSON. -/
def loadProfile (name : CStr) (contents : Option CJson) : StateM ProfileManager Bool :=
  match contents with
  | none => return false
  | some root =>
      match acceptDocument root with
      | none => return false
      | some (version, lastMod, slots) => do
          modify fun pm => { pm with activeProfile := { pm.activeProfile with name := name } }
          modify fun pm => { pm with
            activeProfile := { pm.activeProfile with version := toU32 version.valueint } }
          modify fun pm => { pm with
            activeProfile := { pm.activeProfile with lastModified := toU64 lastMod.valueint } }
          (List.finRange maxSlots).forM (readSlot slots)
          return true

/-! ## What it computes -/

/-- A loop that assigns every position of a map leaves what it assigned. -/
theorem foldl_update_finRange {n : Nat} {α : Type} (g f : Fin n → α) :
    (List.finRange n).foldl (fun f i => Function.update f i (g i)) f = g := by
  have hlist : ∀ (l : List (Fin n)) (f : Fin n → α) (i : Fin n),
      l.foldl (fun f i => Function.update f i (g i)) f i = if i ∈ l then g i else f i := by
    intro l
    induction l with
    | nil => simp
    | cons j l ih =>
        intro f i
        rw [List.foldl_cons, ih]
        by_cases hij : i = j
        · subst hij
          simp
        · simp [hij]
  funext i
  rw [hlist]
  simp

/-- Stores into one slot, one after the other. -/
theorem run_forM_storeField (i : Fin maxSlots) (fs : List (SlotConfig → SlotConfig))
    (pm : ProfileManager) : ((fs.forM (storeField i)).run pm).2 =
      pm.setSlots (Function.update pm.activeProfile.slots i
        (fs.foldl (fun cfg f => f cfg) (pm.activeProfile.slots i))) := by
  induction fs generalizing pm with
  | nil =>
      show pm = _
      simp
  | cons f fs ih =>
      show ((fs.forM (storeField i)).run (pm.setSlots
        (Function.update pm.activeProfile.slots i (f (pm.activeProfile.slots i))))).2 = _
      rw [ih]
      simp

theorem foldl_keymapStores (slot : CJson) (cfg : SlotConfig) :
    (keymapStores slot).foldl (fun cfg f => f cfg) cfg = { cfg with keymap := loadKeymap slot } := by
  have hentries : ∀ (arr : CJson) (l : List (Fin phyBtnCount)) (cfg : SlotConfig),
      (l.map (storeEntry arr)).foldl (fun cfg f => f cfg) cfg = { cfg with
        keymap := l.foldl (fun map k => Function.update map k (loadKeymapEntry arr k)) cfg.keymap } := by
    intro arr l
    induction l with
    | nil => exact fun _ => rfl
    | cons k l ih => exact fun cfg => ih _
  unfold keymapStores loadKeymap
  cases slot.getObjectItem "keymap".toList with
  | none => rfl
  | some arr =>
      dsimp only
      split
      · rw [hentries, foldl_update_finRange]
      · rfl

/-- The stores of a slot assign EVERY field of it. -/
theorem foldl_slotStores (slot : CJson) (cfg : SlotConfig) :
    (slotStores slot).foldl (fun cfg f => f cfg) cfg = loadSlot slot := by
  rw [slotStores, List.foldl_append, foldl_keymapStores]
  rfl

theorem run_readSlot (slots : CJson) (i : Fin maxSlots) (pm : ProfileManager) :
    ((readSlot slots i).run pm).2 = pm.setSlots
      (Function.update pm.activeProfile.slots i (loadSlots slots pm.activeProfile.slots i)) := by
  unfold readSlot loadSlots
  split
  · cases slots.getArrayItem i with
    | none =>
        show pm = _
        simp
    | some slot =>
        show (((slotStores slot).forM (storeField i)).run pm).2 = _
        rw [run_forM_storeField, foldl_slotStores]
  · show pm = _
    simp

/-- What the loop has read is not read again, so each slot gets the value of `loadSlots`. -/
theorem run_forM_readSlot (slots : CJson) (old : Slots) (l : List (Fin maxSlots)) (hl : l.Nodup)
    (pm : ProfileManager) (hold : ∀ i ∈ l, pm.activeProfile.slots i = old i) :
    ((l.forM (readSlot slots)).run pm).2 = pm.setSlots
      (l.foldl (fun f i => Function.update f i (loadSlots slots old i)) pm.activeProfile.slots) := by
  induction l generalizing pm with
  | nil => rfl
  | cons i l ih =>
      obtain ⟨hi, hl⟩ := List.nodup_cons.mp hl
      have hslot : loadSlots slots pm.activeProfile.slots i = loadSlots slots old i := by
        simp only [loadSlots, hold i List.mem_cons_self]
      show ((l.forM (readSlot slots)).run ((readSlot slots i).run pm).2).2 = _
      rw [run_readSlot, hslot, ih hl]
      · rfl
      · intro j hj
        have hji : j ≠ i := fun h => hi (h ▸ hj)
        rw [ProfileManager.setSlots_slots, Function.update_of_ne hji]
        exact hold j (List.mem_cons_of_mem i hj)

/-- **An accepted document** sets name, version and date, and the slots its array reaches. -/
theorem run_loadProfile_accepted (name : CStr) {root version lastMod slots : CJson}
    (h : acceptDocument root = some (version, lastMod, slots)) (pm : ProfileManager) :
    (loadProfile name (some root)).run pm = (true, { pm with activeProfile :=
      { name := name
        version := toU32 version.valueint
        lastModified := toU64 lastMod.valueint
        slots := loadSlots slots pm.activeProfile.slots } }) := by
  simp only [loadProfile, h]
  have hloop := run_forM_readSlot slots pm.activeProfile.slots (List.finRange maxSlots)
    (List.nodup_finRange maxSlots) ({ pm with activeProfile :=
      { name := name
        version := toU32 version.valueint
        lastModified := toU64 lastMod.valueint
        slots := pm.activeProfile.slots } }) fun _ _ => rfl
  rw [foldl_update_finRange] at hloop
  exact Prod.ext rfl hloop

section Disk

variable {Text : Type} (J : CJson.Lib Text)

/-- The document in the file of a profile, as far as there is one. -/
def contentsOf (fs : Fs Text) (name : CStr) : Option CJson :=
  (fs.readFile (profilePath name)).bind fun r => J.parse r.1

/-- **The one-update model of `load_profile_from_disk` is what the program computes.** -/
theorem run_loadProfile (w : World Text) (name : CStr) :
    (loadProfile name (contentsOf J w.fs name)).run w.pm =
      ((loadProfileFromDisk J w name).1, (loadProfileFromDisk J w name).2.pm) := by
  unfold contentsOf loadProfileFromDisk
  cases w.fs.readFile (profilePath name) with
  | none => rfl
  | some r =>
      obtain ⟨text, fs⟩ := r
      simp only [Option.bind_some]
      cases J.parse text with
      | none => rfl
      | some root =>
          simp only [Option.bind_some]
          cases hacc : acceptDocument root with
          | none =>
              simp only [loadProfile, hacc]
              rfl
          | some doc =>
              obtain ⟨version, lastMod, slots⟩ := doc
              exact run_loadProfile_accepted name hacc w.pm

end Disk

/-! ## Refused or in range -/

/-- The refusals come before the first store. -/
theorem atomic_loadProfile (name : CStr) (contents : Option CJson) :
    Atomic true (loadProfile name contents) := by
  unfold loadProfile
  cases contents with
  | none => exact Atomic.ret false
  | some root =>
      dsimp only
      cases acceptDocument root with
      | none => exact Atomic.ret false
      | some doc =>
          apply Succeeds.atomic
          iterate 4 refine Succeeds.bind fun _ => ?_
          exact Succeeds.done

/-- A load that succeeds was given an acceptable document, and its slots are those of `loadSlots`. -/
theorem loadProfile_succeeds {name : CStr} {contents : Option CJson} {pm : ProfileManager}
    (h : ((loadProfile name contents).run pm).1 = true) :
    ∃ root slots, contents = some root ∧ root.getObjectItem "slots".toList = some slots ∧
      ((loadProfile name contents).run pm).2.activeProfile.slots =
        loadSlots slots pm.activeProfile.slots := by
  cases contents with
  | none => cases h
  | some root =>
      cases hacc : acceptDocument root with
      | none =>
          simp only [loadProfile, hacc] at h
          cases h
      | some doc =>
          obtain ⟨version, lastMod, slots⟩ := doc
          have hslots : root.getObjectItem "slots".toList = some slots := by
            unfold acceptDocument at hacc
            split at hacc
            · rename_i hs
              split_ifs at hacc
              cases hacc
              exact hs
            · cases hacc
          refine ⟨root, slots, rfl, hslots, ?_⟩
          rw [run_loadProfile_accepted name hacc pm]

/-- An index with an element is read. -/
theorem loadSlots_item {slots slot : CJson} {i : Fin maxSlots} (h : slots.getArrayItem i = some slot)
    (old : Slots) : loadSlots slots old i = loadSlot slot := by
  have hsize : (i : Nat) < slots.getArraySize :=
    (CJson.getArrayItem_isSome_iff slots i).mp (by rw [h]; rfl)
  simp only [loadSlots, hsize, if_true, h]

/-- **A load is refused and leaves the manager as it was, or succeeds, and every slot it read is in
range.**  For any content of the file and any manager; the colours are bytes, so 0 to 255 is all they can
hold. -/
theorem loadProfile_refuses_or_inRange (name : CStr) (contents : Option CJson) (pm : ProfileManager) :
    ((loadProfile name contents).run pm).1 = false ∧ ((loadProfile name contents).run pm).2 = pm ∨
    ((loadProfile name contents).run pm).1 = true ∧
      ∃ root slots, contents = some root ∧ root.getObjectItem "slots".toList = some slots ∧
        ∀ (i : Fin maxSlots) (slot : CJson), slots.getArrayItem i = some slot →
          (((loadProfile name contents).run pm).2.activeProfile.slots i).InRange := by
  cases hresult : ((loadProfile name contents).run pm).1 with
  | false =>
      left
      exact ⟨rfl, atomic_loadProfile name contents pm (by simp [hresult])⟩
  | true =>
      right
      obtain ⟨root, slots, hroot, hslots, hread⟩ := loadProfile_succeeds hresult
      refine ⟨rfl, root, slots, hroot, hslots, fun i slot hslot => ?_⟩
      rw [hread, loadSlots_item hslot]
      exact loadSlot_inRange slot

/-! ## The switches -/

/-- The eight switches of a slot. -/
inductive Switch where
  | debounce
  | emulate
  | isUhid
  | ledReapply
  | rumbleActive
  | invertLy
  | invertRy
  | triggersDigital

namespace Switch

/-- The key in the document. -/
def key : Switch → CStr
  | debounce => "debounce".toList
  | emulate => "emulate".toList
  | isUhid => "is_uhid".toList
  | ledReapply => "led_reapply".toList
  | rumbleActive => "rumble_active".toList
  | invertLy => "invert_ly".toList
  | invertRy => "invert_ry".toList
  | triggersDigital => "triggers_digital".toList

/-- The default the loader has for the key. -/
def dflt : Switch → Bool
  | debounce | emulate | ledReapply | rumbleActive => true
  | isUhid | invertLy | invertRy | triggersDigital => false

/-- The setting. -/
def setting (cfg : SlotConfig) : Switch → Bool
  | debounce => cfg.debounceEnabled
  | emulate => cfg.emulateActive
  | isUhid => cfg.isUhid
  | ledReapply => cfg.ledReapply
  | rumbleActive => cfg.rumbleActive
  | invertLy => cfg.invertLy
  | invertRy => cfg.invertRy
  | triggersDigital => cfg.treatTriggersAsDigital

theorem setting_loadSlot (slot : CJson) (s : Switch) :
    s.setting (loadSlot slot) = (safeJsonGetBool slot s.key s.dflt).1 := by
  cases s <;> rfl

end Switch

/-- **A switch written as in the manual is not numeric**, so the default is what is read. -/
theorem safeJsonGetBool_of_bool {obj : CJson} {key : CStr} {b : Bool} (dflt : Bool)
    (h : obj.getObjectItem key = some (.bool b)) : (safeJsonGetBool obj key dflt).1 = dflt := by
  cases dflt <;> simp [safeJsonGetBool, safeJsonGetIntRange, h, CJson.isNumber]

/-- `P i s b` holds of every switch `s` that the document gives slot `i`, with the value `b` it is given,
written `true` or `false`. -/
def EverySwitch (root : CJson) (P : Fin maxSlots → Switch → Bool → Prop) : Prop :=
  ∀ slots, root.getObjectItem "slots".toList = some slots →
    ∀ (i : Fin maxSlots) (slot : CJson), slots.getArrayItem i = some slot →
      ∀ (s : Switch) (b : Bool), slot.getObjectItem s.key = some (.bool b) → P i s b

/-- What a successful load makes of the switches: their defaults. -/
theorem setting_loaded {name : CStr} {root : CJson} {pm : ProfileManager}
    (hload : ((loadProfile name (some root)).run pm).1 = true) :
    EverySwitch root fun i s _ =>
      s.setting (((loadProfile name (some root)).run pm).2.activeProfile.slots i) = s.dflt := by
  intro slots hslots i slot hslot s b hb
  obtain ⟨root', slots', hroot, hslots', hread⟩ := loadProfile_succeeds hload
  obtain rfl := Option.some.inj hroot
  obtain rfl := Option.some.inj (hslots.symm.trans hslots')
  rw [hread, loadSlots_item hslot, Switch.setting_loadSlot]
  exact safeJsonGetBool_of_bool s.dflt hb

/-- **When a successful load gives every switch the value written for it.**  For any document that is
accepted: each switch that is written `true` or `false` is written with the default of its key. -/
theorem switches_loaded_iff {name : CStr} {root : CJson} {pm : ProfileManager}
    (hload : ((loadProfile name (some root)).run pm).1 = true) :
    (EverySwitch root fun i s b =>
      s.setting (((loadProfile name (some root)).run pm).2.activeProfile.slots i) = b) ↔
    EverySwitch root fun _ s b => b = s.dflt := by
  have hdflt := setting_loaded hload
  constructor
  · intro h slots hslots i slot hslot s b hb
    have hb' := h slots hslots i slot hslot s b hb
    exact hb'.symm.trans (hdflt slots hslots i slot hslot s b hb)
  · intro h slots hslots i slot hslot s b hb
    have hb' : b = s.dflt := h slots hslots i slot hslot s b hb
    exact (hdflt slots hslots i slot hslot s b hb).trans hb'.symm

/-- The example of the manual, with one slot and the emulation switched as given. -/
def manualProfile (emulate : Bool) : CJson :=
  .object [
    ("version".toList, .number 1),
    ("last_modified".toList, .number 1738452345),
    ("slots".toList, .array [.object [
      ("led_r".toList, .number 255), ("led_g".toList, .number 0), ("led_b".toList, .number 0),
      ("led_base_r".toList, .number 255), ("led_base_g".toList, .number 0),
      ("led_base_b".toList, .number 0),
      ("rumble_gain".toList, .number 100),
      ("deadzone".toList, .number 10),
      ("global_brightness".toList, .number 80),
      ("player_leds".toList, .number 0),
      ("debounce".toList, .bool true),
      ("emulate".toList, .bool emulate),
      ("is_uhid".toList, .bool false),
      ("led_reapply".toList, .bool true),
      ("rumble_active".toList, .bool true),
      ("invert_ly".toList, .bool false),
      ("invert_ry".toList, .bool false),
      ("sensitivity_left".toList, .number 0),
      ("sensitivity_right".toList, .number 0),
      ("led_effect".toList, .number 0),
      ("led_effect_speed".toList, .number 5),
      ("led_effect_brightness".toList, .number 80),
      ("triggers_digital".toList, .bool false),
      ("keymap".toList, .array ((List.range 18).map fun k => .number (k + 1)))]])]

theorem switches_loaded_iff_manual :
    (EverySwitch (manualProfile true) fun i s b => s.setting (((loadProfile defaultName
      (some (manualProfile true))).run (initialManager 0)).2.activeProfile.slots i) = b) ↔
    EverySwitch (manualProfile true) fun _ s b => b = s.dflt :=
  @switches_loaded_iff defaultName (manualProfile true) (initialManager 0) rfl

/-- **`"emulate": false` is loaded as on**, from a file in the format of the manual. -/
theorem emulate_false_loaded_true :
    ((loadProfile defaultName (some (manualProfile false))).run (initialManager 0)).1 = true ∧
    ¬EverySwitch (manualProfile false) fun i s b => s.setting (((loadProfile defaultName
      (some (manualProfile false))).run (initialManager 0)).2.activeProfile.slots i) = b := by
  refine ⟨rfl, fun h => ?_⟩
  have hemulate : Switch.emulate.setting (((loadProfile defaultName
      (some (manualProfile false))).run (initialManager 0)).2.activeProfile.slots firstSlot) = false :=
    h _ rfl firstSlot _ rfl .emulate false rfl
  cases hemulate

end Dstx
