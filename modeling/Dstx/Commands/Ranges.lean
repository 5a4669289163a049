/-
# Dstx.Commands.Ranges — do the settings stay in their documented ranges?

Four writers store settings: the command line, the text interface, the D-Bus service and the settings
thread (profile loads).  Each validates on its own.  Every entry point but TWO keeps the ranges for
every argument: the interface's `ledfx` line stores whatever speed and brightness bytes were typed, and
`SetEffect` stores its three bytes unchecked; the sibling `cmd_ledfx` sanitises, and so do the other
setters.  `commands_keep_range` is the run result under the condition that no such call is made; at
start-up it needs a `Default` file that, if accepted, has an element for every slot.
-/
import Dstx.Profile.Ranges
import Dstx.Commands.Changes

namespace Dstx

open Dstx.Lib

/-! ## Changes that keep the ranges -/

section Changes

variable {slot slot' : Slot}

theorem update_keymap_lt {keymap : Keymap} (h : ∀ k, (keymap k).toNat < logicalBtnCount)
    (p : Fin phyBtnCount) {log : UInt8} (hl : log.toNat < logicalBtnCount) (k : Fin phyBtnCount) :
    (Function.update keymap p log k).toNat < logicalBtnCount := by
  by_cases hk : k = p
  · subst hk
    rw [Function.update_self]
    exact hl
  · rw [Function.update_of_ne hk]
    exact h k

theorem keysGetDefaultMap_lt (k : Fin phyBtnCount) :
    (keysGetDefaultMap k).toNat < logicalBtnCount := by
  revert k
  decide

theorem zero_effect_lt : (0 : Int) ≤ 0 ∧ (0 : Int) < ledfxCount := by decide

/-- A plain change keeps the ranges. -/
theorem SlotChange.Plain.inRange_apply {change : SlotChange} (hc : change.Plain)
    (h : slot.toController.InRange) : (change.apply slot).toController.InRange := by
  cases change with
  | colour | colourNoEffect | static | effect | rumble | playerLedsStatic => exact hc.elim
  | nothing => exact h
  | uhid | emulate | debounce | invertLy | invertRy | ledReapply | triggersDigital | requestReset
  | requestSwitch | requestXbox => exact { h with }
  | keybind p log => exact { h with keymap := update_keymap_lt h.keymap p hc }
  | sensitivityLeft preset => exact { h with sensitivityLeftPreset := hc }
  | sensitivityRight preset => exact { h with sensitivityRightPreset := hc }
  | gain v => exact { h with rumbleGain := hc }
  | deadzone v => exact { h with deadzone := hc }
  | brightness v => exact { h with globalLedBrightness := hc }
  | playerLeds mode => exact { h with playerLeds := hc }
  | defaultKeymap => exact { h with keymap := keysGetDefaultMap_lt }

theorem inRange_setRumble (h : slot.toController.InRange) (on : Bool) :
    (slot.setRumble on).toController.InRange := by
  unfold Slot.setRumble
  split_ifs
  · exact { h with }
  · exact { h with }

theorem inRange_requestEffect (h : slot.toController.InRange) {effect : Int}
    {speed brightness : UInt8} (he : 0 ≤ effect ∧ effect < ledfxCount)
    (hs : 1 ≤ speed ∧ speed ≤ 10) (hb : brightness ≤ 100) :
    (slot.requestEffect effect speed brightness).toController.InRange :=
  { h with ledRequestEffect := he, ledRequestSpeed := hs, ledRequestBrightness := hb }

/-! ## The command line -/

theorem inRange_executeSlotCommand {name : CStr} {args : List CStr} (h : slot.toController.InRange)
    (heq : executeSlotCommand slot name args = some slot') : slot'.toController.InRange := by
  obtain ⟨change, rfl, hchange⟩ := executeSlotCommand_change heq
  cases hchange with
  | colour => exact { h with }
  | static => exact { h with }
  | effect he hs hb => exact inRange_requestEffect h ⟨he.1.le, he.2⟩ hs hb
  | rumble => exact inRange_setRumble h _
  | plain hplain => exact hplain.inRange_apply h

/-- **A whole command line keeps what every accepted command keeps.** -/
theorem keeps_processSlotArguments {P : Slot → Prop}
    (hcmd : ∀ slot slot' name args, P slot → executeSlotCommand slot name args = some slot' → P slot')
    (h : P slot) (argv : List CStr) : P (processSlotArguments slot argv) := by
  have hone : ∀ (slot : Slot) (cmd : CStr × List CStr), P slot → P (runBatchCommand slot cmd) := by
    intro slot cmd h
    unfold runBatchCommand
    cases heq : executeSlotCommand slot cmd.1 cmd.2 with
    | none => exact h
    | some slot' => exact hcmd _ _ _ _ h heq
  have hall : ∀ (cmds : List (CStr × List CStr)) (slot : Slot), P slot →
      P (cmds.foldl runBatchCommand slot) := by
    intro cmds
    induction cmds with
    | nil => exact fun _ h => h
    | cons cmd cmds ih => exact fun slot h => ih _ (hone slot cmd h)
  unfold processSlotArguments
  split
  · exact h
  · rename_i arg
    split_ifs
    · exact hone _ _ h
    · exact hone _ ("color".toList, [arg]) h
    · exact hone _ _ h
  · split
    · exact hall _ _ h
    · exact h

/-! ## The text interface -/

/-- **The condition on a typed line**: if it is a `ledfx` line that requests an effect, the speed and
brightness bytes it stores are in range. -/
def LedfxLineInRange (line : CStr) : Prop :=
  ∀ effect speed brightness, "ledfx".toList.isPrefixOf line = true →
    scanLedfx (line.drop 5) = some (effect, speed, brightness) → 0 < effect → effect < ledfxCount →
      (1 ≤ toU8 speed ∧ toU8 speed ≤ 10) ∧ toU8 brightness ≤ 100

theorem inRange_runUiSlotCommand {line : CStr} (h : slot.toController.InRange)
    (hline : LedfxLineInRange line) (heq : runUiSlotCommand slot line = some slot') :
    slot'.toController.InRange := by
  obtain ⟨change, rfl, hchange⟩ := runUiSlotCommand_change heq
  cases hchange with
  | colour => exact { h with ledRequestEffect := zero_effect_lt }
  | static => exact { h with }
  | effect hpre hscan he =>
      obtain ⟨hs, hb⟩ := hline _ _ _ hpre hscan he.1 he.2
      exact inRange_requestEffect h ⟨he.1.le, he.2⟩ hs hb
  | playerLeds _ _ _ hm => exact { h with playerLeds := hm }
  | rumbleOn => exact inRange_setRumble h _
  | rumbleOff => exact inRange_setRumble h _
  | plain hplain => exact hplain.inRange_apply h

/-! ## The D-Bus service -/

/-- **The condition on a setter call**: the bytes of `SetEffect` are in range. -/
def SetterInRange : DbusSetter → Prop
  | .setEffect effect speed brightness =>
      effect.toNat < ledfxCount ∧ (1 ≤ speed ∧ speed ≤ 10) ∧ brightness ≤ 100
  | _ => True

theorem inRange_dbusSet {call : DbusSetter} (h : slot.toController.InRange)
    (hcall : SetterInRange call) (heq : dbusSet slot call = some slot') :
    slot'.toController.InRange := by
  obtain ⟨change, rfl, hchange⟩ := dbusSet_change heq
  cases hchange with
  | colour => exact { h with }
  | effect hset =>
      subst hset
      obtain ⟨he, hs, hb⟩ := hcall
      exact inRange_requestEffect h ⟨by omega, by omega⟩ hs hb
  | rumble => exact inRange_setRumble h _
  | plain hplain => exact hplain.inRange_apply h

end Changes

/-! ## The system -/

/-- **The shared memory with its writers**: the settings thread's world and the device cells. -/
structure CommandSystem (Text : Type) where
  world : World Text
  cells : Fin maxSlots → Cells

variable {Text : Type}

/-- The slot `i` of the shared memory. -/
def CommandSystem.slot (s : CommandSystem Text) (i : Fin maxSlots) : Slot :=
  { toController := s.world.shm.slots i
    toCells := s.cells i }

/-- Store a slot back. -/
def CommandSystem.setSlot (s : CommandSystem Text) (i : Fin maxSlots) (slot : Slot) :
    CommandSystem Text where
  world := writeSlot i (fun _ => slot.toController) s.world
  cells := Function.update s.cells i slot.toCells

/-- A zeroed controller, as `memset` leaves it when a slot is taken. -/
def zeroController : Controller :=
  { slotConfigToController zeroSlot initialController with
    ledStatic := false
    ledRequestPending := false
    ledDirty := false }

/-- **The slot part of `try_register_control`**: everything is zeroed and the settings restored. -/
def registerSlot (slot : Slot) (type : ControllerType) (isBluetooth : Bool) : Slot where
  toController :=
    { slotConfigToController (controllerToSlotConfig slot.toController) zeroController with
      ledDirty := type != .nswPro }
  toCells :=
    { initialCells with
      type := type
      isBluetooth := isBluetooth
      connected := true }

/-- Who moves. -/
inductive CommandMove (Text : Type) where
  /-- `dstx <slot> …` on the command line. -/
  | cli (i : Fin maxSlots) (argv : List CStr)
  /-- A line typed into the text interface, which shows slot `i`. -/
  | tui (i : Fin maxSlots) (line : CStr)
  /-- A D-Bus setter call. -/
  | dbus (i : Fin maxSlots) (call : DbusSetter)
  /-- The worker takes the layout requests. -/
  | layouts (i : Fin maxSlots)
  /-- A controller is plugged into the slot. -/
  | register (i : Fin maxSlots) (type : ControllerType) (isBluetooth : Bool)
  /-- The controller is gone. -/
  | unregister (i : Fin maxSlots)
  /-- A client posts a profile request. -/
  | post (c : Call)
  /-- `profile_sync_shm_to_active`. -/
  | sync (env : Env Text)
  /-- `profile_process_requests`. -/
  | requests (env : Env Text)
  /-- `profile_handle_auto_save`. -/
  | autoSave (env : Env Text)
  /-- `profile_handle_inotify`. -/
  | inotify (env : Env Text)
  /-- Another program leaves the file system as it likes. -/
  | files (fs : Fs Text)

section System

variable (J : CJson.Lib Text)

/-- **One step of the system.**  The command line and the D-Bus service refuse a slot that is not
connected; the interface does not look again. -/
def commandStep (move : CommandMove Text) (s : CommandSystem Text) : Option (CommandSystem Text) :=
  match move with
  | .cli i argv =>
      if (s.cells i).connected then some (s.setSlot i (processSlotArguments (s.slot i) argv)) else none
  | .tui i line => (runUiSlotCommand (s.slot i) line).map (s.setSlot i)
  | .dbus i call =>
      if (s.cells i).connected then (dbusSet (s.slot i) call).map (s.setSlot i) else none
  | .layouts i => some (s.setSlot i (processLayoutRequests (s.slot i)))
  | .register i type isBluetooth =>
      if (s.cells i).connected then none
      else some (s.setSlot i (registerSlot (s.slot i) type isBluetooth))
  | .unregister i =>
      some { s with cells := Function.update s.cells i { s.cells i with connected := false } }
  | .post c => some { s with world := { s.world with shm := postRequest c s.world.shm } }
  | .sync env => some { s with world := profileSyncShmToActive s.world env }
  | .requests env => some { s with world := profileProcessRequests J s.world env }
  | .autoSave env => some { s with world := profileHandleAutoSave J s.world env }
  | .inotify env => some { s with world := profileHandleInotify J s.world env }
  | .files fs => some { s with world := { s.world with fs := fs } }

/-- **The condition on a step**: it is not a `ledfx` line, and not a `SetEffect` call, with a value
out of range. -/
def RangedMove (move : CommandMove Text) (_ : CommandSystem Text) : Prop :=
  match move with
  | .tui _ line => LedfxLineInRange line
  | .dbus _ call => SetterInRange call
  | _ => True

variable {s s' : CommandSystem Text}

/-- **The writer of a move keeps a property of the settings**, on every slot. -/
def MoveKeeps (P : Controller → Prop) : CommandMove Text → Prop
  | .cli _ argv => ∀ slot : Slot, P slot.toController → P (processSlotArguments slot argv).toController
  | .tui _ line => ∀ slot slot' : Slot, P slot.toController → runUiSlotCommand slot line = some slot' →
      P slot'.toController
  | .dbus _ call => ∀ slot slot' : Slot, P slot.toController → dbusSet slot call = some slot' →
      P slot'.toController
  | .layouts _ => ∀ slot : Slot, P slot.toController → P (processLayoutRequests slot).toController
  | .register _ type isBluetooth => ∀ slot : Slot, P slot.toController →
      P (registerSlot slot type isBluetooth).toController
  | _ => True

variable {Q : SlotConfig → Prop} {P : Controller → Prop}

theorem WorldKeeps.setSlot (h : WorldKeeps Q P s.world) (i : Fin maxSlots) {slot : Slot}
    (hslot : P slot.toController) : WorldKeeps Q P (s.setSlot i slot).world := by
  refine ⟨h.active, fun j => ?_⟩
  by_cases hj : j = i
  · subst hj
    simp only [CommandSystem.setSlot, writeSlot, Function.update_self]
    exact hslot
  · simp only [CommandSystem.setSlot, writeSlot, Function.update_of_ne hj]
    exact h.shared j

theorem WorldKeeps.slot (h : WorldKeeps Q P s.world) (i : Fin maxSlots) : P (s.slot i).toController :=
  h.shared i

/-- **One step keeps what its writer and the settings thread keep.** -/
theorem WorldKeeps.commandStep {move : CommandMove Text} (h : WorldKeeps Q P s.world)
    (hR : SettingRange Q P) (hmove : MoveKeeps P move) (hstep : Dstx.commandStep J move s = some s') :
    WorldKeeps Q P s'.world := by
  cases move with
  | cli i argv =>
      simp only [Dstx.commandStep] at hstep
      split_ifs at hstep
      obtain rfl := Option.some.inj hstep
      exact h.setSlot i (hmove _ (h.slot i))
  | tui i line =>
      obtain ⟨slot, hslot, rfl⟩ := Option.map_eq_some_iff.mp hstep
      exact h.setSlot i (hmove _ _ (h.slot i) hslot)
  | dbus i call =>
      simp only [Dstx.commandStep] at hstep
      split_ifs at hstep
      obtain ⟨slot, hslot, rfl⟩ := Option.map_eq_some_iff.mp hstep
      exact h.setSlot i (hmove _ _ (h.slot i) hslot)
  | layouts i =>
      obtain rfl := Option.some.inj hstep
      exact h.setSlot i (hmove _ (h.slot i))
  | register i type isBluetooth =>
      simp only [Dstx.commandStep] at hstep
      split_ifs at hstep
      obtain rfl := Option.some.inj hstep
      exact h.setSlot i (hmove _ (h.slot i))
  | unregister i =>
      obtain rfl := Option.some.inj hstep
      exact h
  | post c =>
      obtain rfl := Option.some.inj hstep
      exact ⟨h.active, h.shared⟩
  | sync env =>
      obtain rfl := Option.some.inj hstep
      dsimp only
      exact h.sync hR env
  | requests env =>
      obtain rfl := Option.some.inj hstep
      dsimp only
      exact h.requests hR env
  | autoSave env =>
      obtain rfl := Option.some.inj hstep
      dsimp only
      exact h.autoSave env
  | inotify env =>
      obtain rfl := Option.some.inj hstep
      dsimp only
      exact h.inotify hR env
  | files fs =>
      obtain rfl := Option.some.inj hstep
      exact ⟨h.active, h.shared⟩

theorem logical_toNat_lt (b : Button) : b.logical.toNat < logicalBtnCount := by
  cases b <;> decide

theorem keysSetSwitchLayout_lt {map : Keymap} (h : ∀ k, (map k).toNat < logicalBtnCount) :
    ∀ k, (keysSetSwitchLayout map k).toNat < logicalBtnCount := by
  unfold keysSetSwitchLayout
  refine update_keymap_lt (update_keymap_lt (update_keymap_lt (update_keymap_lt h _ ?_) _ ?_) _ ?_) _ ?_
  all_goals exact logical_toNat_lt _

theorem keysSetXboxLayout_lt {map : Keymap} (h : ∀ k, (map k).toNat < logicalBtnCount) :
    ∀ k, (keysSetXboxLayout map k).toNat < logicalBtnCount := by
  unfold keysSetXboxLayout
  refine update_keymap_lt (update_keymap_lt (update_keymap_lt (update_keymap_lt h _ ?_) _ ?_) _ ?_) _ ?_
  all_goals exact logical_toNat_lt _

theorem inRange_processLayoutRequests {slot : Slot} (h : slot.toController.InRange) :
    (processLayoutRequests slot).toController.InRange := by
  unfold processLayoutRequests
  dsimp only
  have h₁ : (if slot.requestSwitchLayout then
      { slot with
        requestSwitchLayout := false
        keymap := keysSetSwitchLayout slot.keymap
        ledDirty := true }
      else slot : Slot).toController.InRange := by
    split_ifs
    · exact { h with keymap := keysSetSwitchLayout_lt h.keymap }
    · exact h
  generalize (if slot.requestSwitchLayout then
      { slot with
        requestSwitchLayout := false
        keymap := keysSetSwitchLayout slot.keymap
        ledDirty := true }
      else slot : Slot) = s₁ at h₁ ⊢
  have h₂ : (if s₁.requestXboxLayout then
      { s₁ with
        requestXboxLayout := false
        keymap := keysSetXboxLayout s₁.keymap
        ledDirty := true }
      else s₁ : Slot).toController.InRange := by
    split_ifs
    · exact { h₁ with keymap := keysSetXboxLayout_lt h₁.keymap }
    · exact h₁
  generalize (if s₁.requestXboxLayout then
      { s₁ with
        requestXboxLayout := false
        keymap := keysSetXboxLayout s₁.keymap
        ledDirty := true }
      else s₁ : Slot) = s₂ at h₂ ⊢
  split_ifs
  · exact { h₂ with keymap := keysGetDefaultMap_lt }
  · exact h₂

/-- A slot comes back from registration with the settings it was saved with. -/
theorem inRange_registerSlot {slot : Slot} (h : slot.toController.InRange) (type : ControllerType)
    (isBluetooth : Bool) : (registerSlot slot type isBluetooth).toController.InRange :=
  { h.config.controller zeroController with }

/-- **A move that meets the condition keeps the ranges.** -/
theorem RangedMove.keeps {move : CommandMove Text} (hok : RangedMove move s) :
    MoveKeeps Controller.InRange move := by
  cases move with
  | cli i argv =>
      intro slot h
      exact keeps_processSlotArguments (P := fun slot => slot.toController.InRange)
        (fun _ _ _ _ h heq => inRange_executeSlotCommand h heq) h argv
  | tui i line => exact fun _ _ h heq => inRange_runUiSlotCommand h hok heq
  | dbus i call => exact fun _ _ h heq => inRange_dbusSet h hok heq
  | layouts i => exact fun _ h => inRange_processLayoutRequests h
  | register i type isBluetooth => exact fun _ h => inRange_registerSlot h type isBluetooth
  | unregister | post | sync | requests | autoSave | inotify | files => trivial

/-- **One step keeps the ranges.** -/
theorem worldInRange_commandStep {move : CommandMove Text} (h : WorldInRange s.world)
    (hok : RangedMove move s) (hstep : commandStep J move s = some s') : WorldInRange s'.world :=
  (h.keeps.commandStep J settingRange_inRange hok.keeps hstep).inRange

/-- **The settings stay in range.**  From the daemon's start, over any shared memory and on any file
system whose `Default`, if it is accepted, has an element for every slot, every run of commands,
setter calls, loads and the settings thread whose steps meet `RangedMove` keeps every slot's settings
in their documented ranges. -/
theorem commands_keep_range (fs : Fs Text) (shm : SharedData) (fd : Int) (env : Env Text)
    (cells : Fin maxSlots → Cells)
    (hcomplete : ∀ arr, readSlots J fs defaultName = some arr → maxSlots ≤ arr.getArraySize)
    (hrun : Run (commandStep J) RangedMove ⟨boot J fs shm fd env, cells⟩ s) (i : Fin maxSlots) :
    (s.slot i).toController.InRange := by
  have hinv : WorldInRange s.world := by
    refine hrun.invariant (I := fun s => WorldInRange s.world) ?_ ?_
    · intro move s₁ s₂ h₁ hok hstep
      exact worldInRange_commandStep J h₁ hok hstep
    · exact worldInRange_boot shm fd env hcomplete
  exact hinv.shared i

end System

/-! ## A call that leaves the range -/

/-- The daemon right after its first start. -/
def firstSystem : CommandSystem (Option CJson) where
  world := firstBoot
  cells := fun _ => initialCells

/-- A DualSense is plugged into slot 0 and a D-Bus client requests an effect on it. -/
def effectRequested (effect speed brightness : UInt8) : List (CommandMove (Option CJson)) :=
  [.register ⟨0, maxSlots_pos⟩ .dualsense false,
    .dbus ⟨0, maxSlots_pos⟩ (.setEffect effect speed brightness)]

/-- The executable form of the condition, for the moves of the example. -/
def rangedCheck (move : CommandMove (Option CJson)) (_ : CommandSystem (Option CJson)) : Bool :=
  match move with
  | .dbus _ (.setEffect effect speed brightness) =>
      decide (effect.toNat < ledfxCount ∧ (1 ≤ speed ∧ speed ≤ 10) ∧ brightness ≤ 100)
  | .register _ _ _ => true
  | _ => false

theorem rangedMove_of_check (move : CommandMove (Option CJson)) (s : CommandSystem (Option CJson))
    (h : rangedCheck move s = true) : RangedMove move s := by
  unfold rangedCheck at h
  split at h
  · have hranges := of_decide_eq_true h
    exact hranges
  · trivial
  · cases h

theorem commands_keep_range_firstSystem :
    ∃ s, Run (commandStep CJson.treeLib) RangedMove firstSystem s ∧
      (s.slot ⟨0, by decide⟩).ledRequestSpeed = 5 ∧ (s.slot ⟨0, by decide⟩).toController.InRange := by
  obtain ⟨s, hrun, hspeed⟩ : ∃ s, Run (commandStep CJson.treeLib) RangedMove firstSystem s ∧
      ((s.slot ⟨0, by decide⟩).ledRequestSpeed == 5) = true :=
    exists_run_of_exec_checked rangedMove_of_check
      (p := fun s : CommandSystem (Option CJson) => (s.slot ⟨0, by decide⟩).ledRequestSpeed == 5)
      (effectRequested 3 5 80) (by decide +kernel)
  have hcomplete : ∀ arr, readSlots CJson.treeLib (Fs.blank fun _ => true) defaultName = some arr →
      maxSlots ≤ arr.getArraySize := by
    intro arr harr
    have hnone : (readSlots CJson.treeLib (Fs.blank fun _ => true) defaultName).isNone = true := by
      decide +kernel
    rw [harr] at hnone
    cases hnone
  exact ⟨s, hrun, beq_iff_eq.mp hspeed,
    commands_keep_range CJson.treeLib _ _ _ _ _ hcomplete hrun ⟨0, by decide⟩⟩

/-- `SetEffect` on a connected slot stores effect 200, speed 0 and brightness 255. -/
theorem setEffect_leaves_range :
    ∃ s, Run (commandStep CJson.treeLib) free firstSystem s ∧
      ¬(s.slot ⟨0, by decide⟩).toController.InRange := by
  obtain ⟨s, hrun, hspeed⟩ : ∃ s, Run (commandStep CJson.treeLib) free firstSystem s ∧
      ((s.slot ⟨0, by decide⟩).ledRequestSpeed == 0) = true :=
    exists_run_of_exec
      (p := fun s : CommandSystem (Option CJson) => (s.slot ⟨0, by decide⟩).ledRequestSpeed == 0)
      (effectRequested 200 0 255) (by decide +kernel)
  refine ⟨s, hrun, fun h => ?_⟩
  have hone := h.ledRequestSpeed.1
  rw [beq_iff_eq.mp hspeed] at hone
  exact absurd hone (by decide)

end Dstx
