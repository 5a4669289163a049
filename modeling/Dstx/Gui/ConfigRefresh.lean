/-
# Dstx.Gui.ConfigRefresh — what a configuration refresh does to a controller (`fetch_config_update`,
`merge_controller_config`).

On `ControllerUpdated` the manager calls `get_controller_info`, which fills a NEW controller object from
the reply, and merges that object into the one it has.  The reply carries neither the keymap nor the
brightness of the effect.  The new object has them all the same, as zeros, and the merge copies them: when a
controller is first added its keymap is fetched separately, on a refresh it is not.

`refresh_right_iff` says when a refresh leaves alone what the reply does not carry and shows what it does.
-/
import Dstx.Gui.ControllerManager

namespace Dstx

/-! ## The refresh -/

/-- A controller object with `effect_brightness`, which no reply carries. -/
structure TunedController extends ListedController where
  effectBrightness : UInt8

/-- What `get_controller_info` returns for a reply. -/
def TunedController.fetched (slot : UInt8) (reply : List DBusValue) : TunedController where
  toListedController := ListedController.fetched slot reply
  effectBrightness := 0

/-- **`merge_controller_config`** on an existing controller. -/
def TunedController.mergeControllerConfig (existing updated : TunedController) : TunedController where
  toListedController := existing.toListedController.merge updated.toListedController
  effectBrightness := updated.effectBrightness

/-- **`fetch_config_update`** on the controller that has the slot and the type of the reply; `none` is a
call that failed. -/
def TunedController.fetchConfigUpdate (existing : TunedController) (reply : Option (List DBusValue)) :
    TunedController :=
  match reply with
  | none => existing
  | some values =>
      let updated := TunedController.fetched existing.slot values
      if updated.info.connected then existing.mergeControllerConfig updated else existing

/-! ## What is asked of it -/

/-- **A controller shows the configuration of a reply**: what stands before the sticks. -/
structure ShowsConfig (c : GuiController) (values : List UInt32) : Prop where
  controllerType : c.controllerType = ControllerType.ofCode (values.getD 0 0)
  isBluetooth : c.isBluetooth = (values.getD 1 0 != 0)
  ledR : c.ledR = (values.getD 2 0).toUInt8
  ledG : c.ledG = (values.getD 3 0).toUInt8
  ledB : c.ledB = (values.getD 4 0).toUInt8
  ledBaseR : c.ledBaseR = (values.getD 5 0).toUInt8
  ledBaseG : c.ledBaseG = (values.getD 6 0).toUInt8
  ledBaseB : c.ledBaseB = (values.getD 7 0).toUInt8
  battery : c.battery = intOf (values.getD 8 0)
  rumbleGain : c.rumbleGain = (values.getD 9 0).toUInt8
  deadzone : c.deadzone = (values.getD 10 0).toUInt8
  globalBrightness : c.globalBrightness = (values.getD 11 0).toUInt8
  playerLeds : c.playerLeds = (values.getD 12 0).toUInt8
  emulateActive : c.emulateActive = (values.getD 13 0 != 0)
  isUhid : c.isUhid = (values.getD 14 0 != 0)
  triggersDigital : c.triggersDigital = (values.getD 15 0 != 0)
  debounceEnabled : c.debounceEnabled = (values.getD 16 0 != 0)
  ledReapply : c.ledReapply = (values.getD 17 0 != 0)
  rumbleActive : c.rumbleActive = (values.getD 18 0 != 0)
  invertLy : c.invertLy = (values.getD 19 0 != 0)
  invertRy : c.invertRy = (values.getD 20 0 != 0)
  sensitivityLeftPreset : c.sensitivityLeftPreset = (values.getD 21 0).toUInt8
  sensitivityRightPreset : c.sensitivityRightPreset = (values.getD 22 0).toUInt8
  ledStatic : c.ledStatic = (values.getD 23 0 != 0)
  currentEffect : c.currentEffect = (values.getD 24 0).toUInt8
  effectSpeed : c.effectSpeed = (values.getD 25 0).toUInt8

/-- **A refresh done right**: what the reply does not carry is unchanged, and what it carries is shown.  A
reply of fewer than 52 values carries nothing. -/
structure RefreshRight (existing after : TunedController) (reply : Option (List DBusValue)) : Prop where
  keymap : after.keymap = existing.keymap
  effectBrightness : after.effectBrightness = existing.effectBrightness
  layoutMode : after.layoutMode = existing.layoutMode
  config : ∀ values, reply = some values → 52 ≤ (collectValues values).length →
    ShowsConfig after.info (collectValues values)

/-- **The condition**: there is nothing to lose, and the presets are presets. -/
structure NothingToLose (existing : TunedController) (values : List UInt32) : Prop where
  keymap : existing.keymap.take guiKeymapLength = List.replicate guiKeymapLength 0
  effectBrightness : existing.effectBrightness = 0
  leftPreset : (values.getD 21 0).toUInt8 ≤ 7
  rightPreset : (values.getD 22 0).toUInt8 ≤ 7

/-! ## One refresh -/

/-- A preset that goes through two setters arrives if it is one. -/
theorem setPreset_setPreset_iff (old v : UInt8) : setPreset old (setPreset 0 v) = v ↔ v ≤ 7 := by
  unfold setPreset
  by_cases h : v ≤ 7
  · rw [if_pos h, if_pos h]
    exact iff_of_true rfl h
  · rw [if_neg h, if_pos (by decide)]
    refine iff_of_false (fun hzero => h ?_) h
    rw [← hzero]
    decide

/-- **The merged object shows the reply** exactly when the presets are presets. -/
theorem showsConfig_mergeConfig_iff {existing : GuiController} (slot : Int) {values : List UInt32}
    (hlength : 52 ≤ values.length)
    (htype : existing.controllerType = ControllerType.ofCode (values.getD 0 0)) :
    ShowsConfig (existing.mergeConfig ((GuiController.new slot).updateFromDbusArguments values)) values ↔
      (values.getD 21 0).toUInt8 ≤ 7 ∧ (values.getD 22 0).toUInt8 ≤ 7 := by
  have hleft := setPreset_setPreset_iff existing.sensitivityLeftPreset (values.getD 21 0).toUInt8
  have hright := setPreset_setPreset_iff existing.sensitivityRightPreset (values.getD 22 0).toUInt8
  unfold GuiController.updateFromDbusArguments
  rw [if_neg (not_lt.mpr hlength)]
  constructor
  · intro h
    exact ⟨hleft.mp h.sensitivityLeftPreset, hright.mp h.sensitivityRightPreset⟩
  · rintro ⟨hl, hr⟩
    exact ⟨htype, rfl, rfl, rfl, rfl, rfl, rfl, rfl, rfl, rfl, rfl, rfl, rfl, rfl, rfl, rfl, rfl, rfl, rfl,
      rfl, rfl, hleft.mpr hl, hright.mpr hr, rfl, rfl, rfl⟩

/-- Zeros over the front of a list change nothing exactly when they stand there already. -/
theorem replicate_append_drop_eq_iff {α : Type} {l : List α} {a : α} {n : Nat} :
    List.replicate n a ++ l.drop n = l ↔ l.take n = List.replicate n a := by
  constructor
  · intro h
    have htake := congrArg (List.take n) h
    rw [List.take_left' (List.length_replicate)] at htake
    exact htake.symm
  · intro h
    rw [← h]
    exact List.take_append_drop n l

/-- The fetched object is connected exactly when the reply was long enough. -/
theorem fetched_connected_iff (slot : UInt8) (reply : List DBusValue) :
    (TunedController.fetched slot reply).info.connected = true ↔ 52 ≤ (collectValues reply).length := by
  show ((GuiController.new slot.toNat).updateFromDbusArguments (collectValues reply)).connected = true ↔ _
  unfold GuiController.updateFromDbusArguments
  by_cases hshort : (collectValues reply).length < 52
  · rw [if_pos hshort]
    refine iff_of_false (fun hconnected => ?_) (not_le.mpr hshort)
    cases (show false = true from hconnected)
  · rw [if_neg hshort]
    exact iff_of_true rfl (not_lt.mp hshort)

/-- **A merge** is right exactly when there is nothing to lose. -/
theorem merge_right_iff {existing : TunedController} {reply : List DBusValue}
    (hlength : 52 ≤ (collectValues reply).length)
    (hkey : existing.key = (TunedController.fetched existing.slot reply).key) :
    RefreshRight existing (existing.mergeControllerConfig (TunedController.fetched existing.slot reply))
        (some reply) ↔ NothingToLose existing (collectValues reply) := by
  have hfetched : (TunedController.fetched existing.slot reply).info.controllerType =
      ControllerType.ofCode ((collectValues reply).getD 0 0) := by
    show ((GuiController.new existing.slot.toNat).updateFromDbusArguments _).controllerType = _
    unfold GuiController.updateFromDbusArguments
    rw [if_neg (not_lt.mpr hlength)]
  have htype := (congrArg Prod.snd hkey).trans hfetched
  have hshows := showsConfig_mergeConfig_iff existing.slot.toNat hlength htype
  have hkeymap := replicate_append_drop_eq_iff (l := existing.keymap) (a := 0) (n := guiKeymapLength)
  constructor
  · intro h
    obtain ⟨hleft, hright⟩ := hshows.mp (h.config reply rfl hlength)
    refine ⟨hkeymap.mp ?_, h.effectBrightness.symm, hleft, hright⟩
    have hsame := h.keymap
    unfold TunedController.mergeControllerConfig ListedController.merge at hsame
    exact hsame
  · intro h
    refine ⟨hkeymap.mpr h.keymap, h.effectBrightness.symm, rfl, fun values hvalues _ => ?_⟩
    obtain rfl := Option.some.inj hvalues
    exact hshows.mpr ⟨h.leftPreset, h.rightPreset⟩

/-- **When a refresh is right.**  For every controller object and every answer to the call, where the answer
names the controller by slot and type: what the reply does not carry is unchanged and what it carries is
shown, exactly when the call failed, or the reply is short, or the first eighteen entries of the keymap and
the brightness of the effect are zero and the reply's presets are at most 7. -/
theorem refresh_right_iff (existing : TunedController) (reply : Option (List DBusValue))
    (hkey : ∀ values, reply = some values → 52 ≤ (collectValues values).length →
      existing.key = (TunedController.fetched existing.slot values).key) :
    RefreshRight existing (existing.fetchConfigUpdate reply) reply ↔
      ∀ values, reply = some values → 52 ≤ (collectValues values).length →
        NothingToLose existing (collectValues values) := by
  cases reply with
  | none =>
      refine iff_of_true ⟨rfl, rfl, rfl, fun values hvalues => ?_⟩ fun values hvalues => ?_
      · cases hvalues
      · cases hvalues
  | some values =>
      have hconnected := fetched_connected_iff existing.slot values
      unfold TunedController.fetchConfigUpdate
      dsimp only
      by_cases hlength : 52 ≤ (collectValues values).length
      · rw [if_pos (hconnected.mpr hlength), merge_right_iff hlength (hkey values rfl hlength)]
        constructor
        · intro h values' hvalues _
          obtain rfl := Option.some.inj hvalues
          exact h
        · intro h
          exact h values rfl hlength
      · rw [if_neg (fun h => hlength (hconnected.mp h))]
        constructor
        · intro _ values' hvalues hlength'
          obtain rfl := Option.some.inj hvalues
          exact absurd hlength' hlength
        · intro _
          refine ⟨rfl, rfl, rfl, fun values' hvalues hlength' => ?_⟩
          obtain rfl := Option.some.inj hvalues
          exact absurd hlength' hlength

/-- A DualSense in the list, every button bound to itself. -/
def boundController : TunedController where
  slot := 0
  info := getControllerInfo 0 (controllerInfo restingState)
  keymap := [1, 2, 3, 4, 5, 6, 7, 8, 9, 10, 11, 12, 13, 14, 15, 16, 17, 18]
  layoutMode := 0
  slotEq := updateFromDbusArguments_slot _ _
  effectBrightness := 0

/-- The same controller with nothing bound. -/
def unboundController : TunedController :=
  { boundController with keymap := List.replicate guiKeymapLength 0 }

/-- **A refresh that fetches the state the controller is in unbinds every button.** -/
theorem refresh_clears_keymap :
    ¬∀ (existing : TunedController) (reply : Option (List DBusValue)),
      (∀ values, reply = some values → 52 ≤ (collectValues values).length →
        existing.key = (TunedController.fetched existing.slot values).key) →
      RefreshRight existing (existing.fetchConfigUpdate reply) reply := by
  intro hall
  have hright := hall boundController (some (controllerInfo restingState)) fun values hvalues _ => by
    obtain rfl := Option.some.inj hvalues
    decide
  have hlost : (boundController.fetchConfigUpdate (some (controllerInfo restingState))).keymap ≠
      boundController.keymap := by decide
  exact hlost hright.keymap

/-- Nothing bound, nothing lost. -/
theorem refresh_right_unbound :
    RefreshRight unboundController
        (unboundController.fetchConfigUpdate (some (controllerInfo restingState)))
        (some (controllerInfo restingState)) := by
  refine (refresh_right_iff unboundController _ fun values hvalues _ => ?_).mpr fun values hvalues _ => ?_
  · obtain rfl := Option.some.inj hvalues
    decide
  · obtain rfl := Option.some.inj hvalues
    exact ⟨by decide, by decide, by decide, by decide⟩

end Dstx
