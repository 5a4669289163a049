/-
# Dstx.Daemon.Registration — what registering a controller does to the record of its slot.

`try_register_control` saves the persistent settings of the free slot, zeroes the WHOLE record, fills in the
device, restores the settings and then re-initialises a list of fields by hand.  `tryRegisterControl` is
that sequence, one statement at a time, on the full record; `reconnect_eq` has the record it leaves as one
equation, and `toSlot_reconnect` connects it with `registerSlot`, the step of the command system.

A setting that was missing from one of the two copying functions, or was overwritten by one of the
re-initialisations, would be lost on every reconnect; `reconnect_keeps_settings` says none is.
-/
import Dstx.Record
import Dstx.Commands.Ranges

namespace Dstx

open Dstx.Lib

variable {ρ : Type}

/-- The record `memset` leaves. -/
def zeroRecord (zeroRest : ρ) : ControllerT ρ where
  toController := zeroController
  toCells := initialCells
  lx := 0
  ly := 0
  rx := 0
  ry := 0
  lt := 0
  rt := 0
  square := 0
  cross := 0
  circle := 0
  triangle := 0
  l1 := 0
  r1 := 0
  l2 := 0
  r2 := 0
  share := 0
  options := 0
  l3 := 0
  r3 := 0
  ps := 0
  touchBtn := 0
  hatX := 0
  hatY := 0
  battery := 0
  uinputFd := 0
  devPath := []
  uhidFd := 0
  workerHeartbeat := 0
  workerStop := false
  activeEffectId := 0
  activeEffectType := 0
  writingOutput := false
  lastExternalRetry := ⟨0, 0⟩
  dpadUp := 0
  dpadDown := 0
  dpadLeft := 0
  dpadRight := 0
  outputSeq := 0
  rest := zeroRest

/-- The size of `dev_path`. -/
def devPathSize : Nat := 128

/-- A store into the record. -/
abbrev storeRecord (f : ControllerT ρ → ControllerT ρ) : StateM (ControllerT ρ) Unit := modify f

/-- **The slot part of `try_register_control`**, statement by statement; `zeroRest` is the rest of the
record with all its bytes zero. -/
def tryRegisterControl (zeroRest : ρ) (path : CStr) (type : ControllerType) (isBluetooth : Bool) :
    StateM (ControllerT ρ) Unit := do
  -- save the persistent configuration, and zero the slot
  let slot ← get
  let savedConfig := controllerToSlotConfig slot.toController
  set (zeroRecord zeroRest)
  -- the fields of the connection
  storeRecord fun s => { s with devPath := strncpy devPathSize path }
  storeRecord fun s => { s with type := type }
  storeRecord fun s => { s with isBluetooth := isBluetooth }
  storeRecord fun s => { s with connected := true }
  -- restore the persistent configuration
  storeRecord fun s => { s with toController := slotConfigToController savedConfig s.toController }
  -- state fields that are not persisted
  storeRecord fun s => { s with activeEffectId := -1 }
  storeRecord fun s => { s with activeEffectType := 0 }
  storeRecord fun s => { s with uinputFd := -1 }
  storeRecord fun s => { s with uhidFd := -1 }
  storeRecord fun s => { s with externalRetryCount := 0 }
  storeRecord fun s => { s with lastExternalRetry := ⟨0, 0⟩ }
  storeRecord fun s => { s with battery := 100 }
  storeRecord fun s => { s with outputSeq := 0 }
  storeRecord fun s => { s with writingOutput := false }
  -- watchdog
  storeRecord fun s => { s with workerHeartbeat := 0 }
  storeRecord fun s => { s with workerStop := false }
  if type ≠ .nswPro then
    storeRecord fun s => { s with ledDirty := true }
  else
    storeRecord fun s => { s with ledDirty := false }

/-- The record after the sequence. -/
def reconnect (zeroRest : ρ) (path : CStr) (type : ControllerType) (isBluetooth : Bool)
    (s : ControllerT ρ) : ControllerT ρ := ((tryRegisterControl zeroRest path type isBluetooth).run s).2

section Reconnect

variable (zeroRest : ρ) (path : CStr) (type : ControllerType) (isBluetooth : Bool) (s : ControllerT ρ)

/-- **The statements in sequence leave one record**: zeros, the device, the settings, and the fields with a
value of their own. -/
theorem reconnect_eq : reconnect zeroRest path type isBluetooth s =
    { zeroRecord zeroRest with
      toSlot := registerSlot s.toSlot type isBluetooth
      devPath := strncpy devPathSize path
      activeEffectId := -1
      uinputFd := -1
      uhidFd := -1
      battery := 100 } := by
  cases type <;> rfl

/-- The registration of the command system is this one. -/
theorem toSlot_reconnect :
    (reconnect zeroRest path type isBluetooth s).toSlot = registerSlot s.toSlot type isBluetooth := by
  rw [reconnect_eq]

/-- The settings after a registration are the ones before it. -/
theorem controllerToSlotConfig_reconnect :
    controllerToSlotConfig (reconnect zeroRest path type isBluetooth s).toController =
      controllerToSlotConfig s.toController := by
  rw [toSlot_reconnect]
  show controllerToSlotConfig { slotConfigToController (controllerToSlotConfig s.toController)
    zeroController with ledDirty := type != .nswPro } = _
  rw [controllerToSlotConfig_ledDirty, controllerToSlotConfig_slotConfigToController]

/-- An effect that fits a byte is kept in its cell, too. -/
theorem ledRequestEffect_reconnect (h : 0 ≤ s.ledRequestEffect ∧ s.ledRequestEffect < 256) :
    (reconnect zeroRest path type isBluetooth s).ledRequestEffect = s.ledRequestEffect := by
  rw [toSlot_reconnect]
  exact toNat_toU8 h

end Reconnect

/-- **Reconnecting keeps a slot's settings.**  The two conversions undo each other on every configuration
and controller; and for every record, path and device the sequence of `try_register_control` leaves the
settings as they were, with no effect playing and no stop or layout request left over. -/
theorem reconnect_keeps_settings :
    (∀ (cfg : SlotConfig) (c : Controller),
      controllerToSlotConfig (slotConfigToController cfg c) = cfg) ∧
    ∀ (ρ : Type) (zeroRest : ρ) (path : CStr) (type : ControllerType) (isBluetooth : Bool)
      (s : ControllerT ρ),
      controllerToSlotConfig (reconnect zeroRest path type isBluetooth s).toController =
        controllerToSlotConfig s.toController ∧
      (reconnect zeroRest path type isBluetooth s).activeEffectId = -1 ∧
      (reconnect zeroRest path type isBluetooth s).workerStop = false ∧
      (reconnect zeroRest path type isBluetooth s).requestSwitchLayout = false ∧
      (reconnect zeroRest path type isBluetooth s).requestXboxLayout = false ∧
      (reconnect zeroRest path type isBluetooth s).requestResetAllKeybinds = false := by
  refine ⟨controllerToSlotConfig_slotConfigToController, fun ρ zeroRest path type isBluetooth s => ?_⟩
  refine ⟨controllerToSlotConfig_reconnect zeroRest path type isBluetooth s, ?_⟩
  rw [reconnect_eq]
  exact ⟨rfl, rfl, rfl, rfl, rfl⟩

end Dstx
