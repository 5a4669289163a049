/-
# Dstx.Commands.Presets — the sensitivity presets are presets, in EVERY run.

Unlike the effect bytes of `Dstx.Commands.Ranges`, the two sensitivity presets are checked by every writer
there is: the command line, the text interface and the D-Bus setters test the number before they store it,
the reader of the profile files does too, and a zeroed slot holds the preset 0.  So both are below
`SENS_PRESET_COUNT` in every state the daemon reaches, with no condition on the run or on the files.
-/
import Dstx.Commands.Ranges

namespace Dstx

open Dstx.Lib

/-- Both sensitivity presets are presets. -/
def Controller.PresetsValid (c : Controller) : Prop :=
  c.sensitivityLeftPreset.toNat < sensPresetCount ∧ c.sensitivityRightPreset.toNat < sensPresetCount

/-- The same of a configuration. -/
def SlotConfig.PresetsValid (cfg : SlotConfig) : Prop :=
  cfg.sensitivityLeftPreset.toNat < sensPresetCount ∧ cfg.sensitivityRightPreset.toNat < sensPresetCount

theorem settingRange_presets : SettingRange SlotConfig.PresetsValid Controller.PresetsValid where
  saved := fun _ h => h
  restored := fun _ _ h => h
  dirty := fun _ _ h => h
  read := fun slot =>
    have h := loadSlot_inRange slot
    ⟨(le_ofNat_iff (n := 7) (by decide)).mp h.sensitivityLeftPreset,
      (le_ofNat_iff (n := 7) (by decide)).mp h.sensitivityRightPreset⟩

/-! ## The writers -/

section Writers

variable {slot slot' : Slot}

/-- A change whose preset, if it stores one, is a preset. -/
def SlotChange.PresetValid : SlotChange → Prop
  | .sensitivityLeft preset | .sensitivityRight preset => preset.toNat < sensPresetCount
  | _ => True

theorem SlotChange.Plain.presetValid {change : SlotChange} (h : change.Plain) : change.PresetValid := by
  cases change with
  | sensitivityLeft preset => exact h
  | sensitivityRight preset => exact h
  | _ => trivial

theorem SlotChange.PresetValid.apply {change : SlotChange} (hc : change.PresetValid)
    (h : slot.toController.PresetsValid) : (change.apply slot).toController.PresetsValid := by
  cases change with
  | sensitivityLeft preset => exact ⟨hc, h.2⟩
  | sensitivityRight preset => exact ⟨h.1, hc⟩
  | rumble on =>
      show (slot.setRumble on).toController.PresetsValid
      unfold Slot.setRumble
      split_ifs
      · exact h
      · exact h
  | _ => exact h

theorem presetsValid_executeSlotCommand {name : CStr} {args : List CStr}
    (h : slot.toController.PresetsValid) (heq : executeSlotCommand slot name args = some slot') :
    slot'.toController.PresetsValid := by
  obtain ⟨change, rfl, hchange⟩ := executeSlotCommand_change heq
  have hvalid : change.PresetValid := by
    cases hchange with
    | plain hplain => exact hplain.presetValid
    | _ => trivial
  exact hvalid.apply h

theorem presetsValid_runUiSlotCommand {line : CStr} (h : slot.toController.PresetsValid)
    (heq : runUiSlotCommand slot line = some slot') : slot'.toController.PresetsValid := by
  obtain ⟨change, rfl, hchange⟩ := runUiSlotCommand_change heq
  have hvalid : change.PresetValid := by
    cases hchange with
    | plain hplain => exact hplain.presetValid
    | _ => trivial
  exact hvalid.apply h

theorem presetsValid_dbusSet {call : DbusSetter} (h : slot.toController.PresetsValid)
    (heq : dbusSet slot call = some slot') : slot'.toController.PresetsValid := by
  obtain ⟨change, rfl, hchange⟩ := dbusSet_change heq
  have hvalid : change.PresetValid := by
    cases hchange with
    | plain hplain => exact hplain.presetValid
    | _ => trivial
  exact hvalid.apply h

theorem presetsValid_processLayoutRequests (h : slot.toController.PresetsValid) :
    (processLayoutRequests slot).toController.PresetsValid := by
  unfold processLayoutRequests
  dsimp only
  split_ifs <;> exact h

end Writers

/-! ## Every run -/

section System

variable {Text : Type} (J : CJson.Lib Text) {s : CommandSystem Text}

/-- Every move keeps the presets valid. -/
theorem moveKeeps_presets (move : CommandMove Text) : MoveKeeps Controller.PresetsValid move := by
  cases move with
  | cli i argv =>
      intro slot h
      exact keeps_processSlotArguments (P := fun slot => slot.toController.PresetsValid)
        (fun _ _ _ _ h heq => presetsValid_executeSlotCommand h heq) h argv
  | tui i line => exact fun _ _ h heq => presetsValid_runUiSlotCommand h heq
  | dbus i call => exact fun _ _ h heq => presetsValid_dbusSet h heq
  | layouts i => exact fun _ h => presetsValid_processLayoutRequests h
  | register i type isBluetooth => exact fun _ h => h
  | unregister | post | sync | requests | autoSave | inotify | files => trivial

/-- **The presets are presets in every state the daemon reaches.** -/
theorem presetsValid_reachable (fs : Fs Text) (shm : SharedData) (fd : Int) (env : Env Text)
    (cells : Fin maxSlots → Cells)
    (hrun : Run (commandStep J) free ⟨boot J fs shm fd env, cells⟩ s) (i : Fin maxSlots) :
    (s.slot i).toController.PresetsValid := by
  have hzero : zeroSlot.PresetsValid := ⟨by decide, by decide⟩
  have hdefault : defaultSlot.PresetsValid := ⟨by decide, by decide⟩
  have hinv : WorldKeeps SlotConfig.PresetsValid Controller.PresetsValid s.world := by
    refine hrun.invariant (I := fun s => WorldKeeps SlotConfig.PresetsValid Controller.PresetsValid s.world)
      ?_ ?_
    · intro move s₁ s₂ h₁ _ hstep
      exact h₁.commandStep J settingRange_presets (moveKeeps_presets move) hstep
    · exact worldKeeps_boot shm fd env settingRange_presets hdefault (Or.inr hzero)
  exact hinv.shared i

end System

end Dstx
