/-
# Dstx.Commands.Handlers — the slot commands STORE BY STORE: a failed one changes nothing.

`Dstx.Commands.Cli` says what each `cmd_*` handler leaves as ONE update of the slot, which has the law
"a failed command leaves the slot" built into its type.  Here the handlers are programs, written as
`commands.c` writes them: a state transformer that returns early with its exit code and stores field
after field, so a store before a failed check WOULD stay.  `atomic_executeSlotCommand` is the law, had
from the order of checks and stores alone; `run_executeSlotCommand` says that the one-update model is
exactly what these programs compute.

The locking and the printing of the handlers are left out: neither reads or writes the slot.
-/
import Dstx.Commands.Cli
import Dstx.Lib.ExitCode

namespace Dstx

open Dstx.Lib

/-- `int (*handler)(controller_t *slot, int argc, char **argv)`. -/
abbrev Handler := List CStr → StateM Slot Int

namespace Handler

/-- `atomic_store` to a field of the slot. -/
abbrev store (f : Slot → Slot) : StateM Slot Unit := modify f

/-- `slot->keymap[phy] = log`; the handlers index the array behind their check only. -/
def storeKeymap (phy : Int) (log : UInt8) : StateM Slot Unit :=
  match phyIndex phy with
  | some p => store fun slot => { slot with keymap := Function.update slot.keymap p log }
  | none => pure ()

/-! ## The handlers, as `commands.c` writes them -/

/-- `cmd_color`. -/
def cmdColor : Handler := fun argv => do
  if argv.length < 1 then
    return 1
  match scanColour (argv.getD 0 []) with
  | none => return 1
  | some (r, g, b) =>
      store fun slot => { slot with ledBaseR := toU8 r }
      store fun slot => { slot with ledBaseG := toU8 g }
      store fun slot => { slot with ledBaseB := toU8 b }
      store fun slot => { slot with ledR := toU8 r }
      store fun slot => { slot with ledG := toU8 g }
      store fun slot => { slot with ledB := toU8 b }
      store fun slot => { slot with ledStatic := true }
      store fun slot => { slot with ledRequestPending := false }
      store fun slot => { slot with ledDirty := true }
      return 0

/-- `cmd_emulation`. -/
def cmdEmulation : Handler := fun argv => do
  if argv.length < 1 then
    return 1
  let val := strToBool (argv.getD 0 [])
  store fun slot => { slot with emulateActive := val }
  return 0

/-- `cmd_uhid`. -/
def cmdUhid : Handler := fun argv => do
  if argv.length < 1 then
    return 1
  let val := strToBool (argv.getD 0 [])
  store fun slot => { slot with isUhid := val }
  store fun slot => { slot with emulateActive := false }
  store fun slot => { slot with emulateActive := true }
  return 0

/-- `cmd_keybind`. -/
def cmdKeybind : Handler := fun argv => do
  if argv.length < 2 then
    return 1
  let phy := atoi (argv.getD 0 [])
  let log := atoi (argv.getD 1 [])
  if phy < 0 ∨ phy ≥ phyBtnCount ∨ log < 0 ∨ log ≥ logicalBtnCount then
    return 1
  storeKeymap phy (toU8 log)
  store fun slot => { slot with ledDirty := true }
  return 0

/-- `cmd_keymap` prints. -/
def cmdKeymap : Handler := fun _ => return 0

/-- `cmd_reset_all_keybinds`. -/
def cmdResetAllKeybinds : Handler := fun _ => do
  store fun slot => { slot with requestResetAllKeybinds := true }
  return 0

/-- `cmd_invert`; the count of its arguments is checked twice. -/
def cmdInvert : Handler := fun argv => do
  if argv.length < 2 then
    return 1
  let which := argv.getD 0 []
  if which = "status".toList then
    return 0
  if argv.length < 2 then
    return 1
  let val := strToBool (argv.getD 1 [])
  if which = "ly".toList then
    store fun slot => { slot with invertLy := val }
  else if which = "ry".toList then
    store fun slot => { slot with invertRy := val }
  else
    return 1
  return 0

/-- `cmd_sensitivity`. -/
def cmdSensitivity : Handler := fun argv => do
  if argv.length < 1 then
    return 1
  let which := argv.getD 0 []
  if which = "status".toList then
    return 0
  if argv.length < 2 then
    return 1
  let preset := atoi (argv.getD 1 [])
  if preset < 0 ∨ preset ≥ sensPresetCount then
    return 1
  if which = "left".toList then
    store fun slot => slot.applySensitivityPresetLeft preset
  else if which = "right".toList then
    store fun slot => slot.applySensitivityPresetRight preset
  else
    return 1
  return 0

/-- `cmd_triggers_digital`. -/
def cmdTriggersDigital : Handler := fun argv => do
  if argv.length < 1 then
    return 1
  let sub := argv.getD 0 []
  if sub = "status".toList then
    return 0
  let val := strToBool sub
  store fun slot => { slot with isTriggerDigital := val }
  return 0

/-- `cmd_ledfx`. -/
def cmdLedfx : Handler := fun argv => do
  if argv.length < 1 then
    return 1
  let effect := atoi (argv.getD 0 [])
  if effect < 0 ∨ effect ≥ ledfxCount then
    return 1
  let speed : UInt8 := if argv.length ≥ 2 then toU8 (atoi (argv.getD 1 [])) else 5
  let brightness : UInt8 := if argv.length ≥ 3 then toU8 (atoi (argv.getD 2 [])) else 80
  if effect = 0 then
    store fun slot => { slot with ledStatic := true }
    store fun slot => { slot with ledRequestPending := false }
    store fun slot => { slot with ledR := slot.ledBaseR }
    store fun slot => { slot with ledG := slot.ledBaseG }
    store fun slot => { slot with ledB := slot.ledBaseB }
    store fun slot => { slot with ledDirty := true }
  else
    store fun slot => { slot with ledStatic := false }
    store fun slot => { slot with ledRequestEffect := effect }
    store fun slot => { slot with ledRequestSpeed := sanitizeSpeed speed }
    store fun slot => { slot with ledRequestBrightness := sanitizeBrightness brightness }
    store fun slot => { slot with ledRequestPending := true }
  return 0

/-- `cmd_brightness`. -/
def cmdBrightness : Handler := fun argv => do
  if argv.length < 1 then
    return 1
  let b := atoi (argv.getD 0 [])
  if b < 0 ∨ b > 100 then
    return 1
  store fun slot => { slot with globalLedBrightness := toU8 b }
  store fun slot => { slot with ledDirty := true }
  return 0

/-- `cmd_deadzone`. -/
def cmdDeadzone : Handler := fun argv => do
  if argv.length < 1 then
    return 1
  let dz := atoi (argv.getD 0 [])
  if dz < 0 ∨ dz > 100 then
    return 1
  store fun slot => { slot with deadzone := toU8 dz }
  return 0

/-- `cmd_gain`. -/
def cmdGain : Handler := fun argv => do
  if argv.length < 1 then
    return 1
  let g := atoi (argv.getD 0 [])
  if g < 0 ∨ g > 100 then
    return 1
  store fun slot => { slot with rumbleGain := toU8 g }
  return 0

/-- `cmd_rumble`. -/
def cmdRumble : Handler := fun argv => do
  if argv.length < 1 then
    return 1
  let sub := argv.getD 0 []
  if sub = "status".toList then
    return 0
  let val := strToBool sub
  store fun slot => { slot with rumbleActive := val }
  if !val then
    store fun slot => { slot with rumbleStrong := 0 }
    store fun slot => { slot with rumbleWeak := 0 }
    store fun slot => { slot with rumbleDirty := true }
  return 0

/-- `cmd_debounce`. -/
def cmdDebounce : Handler := fun argv => do
  if argv.length < 1 then
    return 1
  let val := strToBool (argv.getD 0 [])
  store fun slot => { slot with debounceEnabled := val }
  return 0

/-- `cmd_reapply`. -/
def cmdReapply : Handler := fun argv => do
  if argv.length < 1 then
    return 1
  let sub := argv.getD 0 []
  if sub = "status".toList then
    return 0
  let val := strToBool sub
  store fun slot => { slot with ledReapply := val }
  return 0

/-- `cmd_pled`: the type of the device is the LAST check. -/
def cmdPled : Handler := fun argv => do
  if argv.length < 1 then
    return 1
  let p := atoi (argv.getD 0 [])
  if p < 0 ∨ p > 5 then
    return 1
  let slot ← get
  if slot.type ≠ .dualsense then
    return 1
  store fun slot => { slot with playerLeds := toU8 p }
  store fun slot => { slot with ledDirty := true }
  return 0

/-- `cmd_layout`. -/
def cmdLayout : Handler := fun argv => do
  if argv.length < 1 then
    return 1
  let sub := argv.getD 0 []
  let slot ← get
  if sub = "switch".toList then
    if slot.type ≠ .nswPro then
      return 1
    store fun slot => { slot with requestSwitchLayout := true }
  else if sub = "xbox".toList then
    if slot.type ≠ .nswPro then
      return 1
    store fun slot => { slot with requestXboxLayout := true }
  else
    return 1
  return 0

/-- **`slot_commands[]`**. -/
def slotCommands : List (CStr × Handler) :=
  [("color".toList, cmdColor),
    ("emulation".toList, cmdEmulation),
    ("uhid".toList, cmdUhid),
    ("keybind".toList, cmdKeybind),
    ("keymap".toList, cmdKeymap),
    ("reset-keybinds".toList, cmdResetAllKeybinds),
    ("invert".toList, cmdInvert),
    ("sensitivity".toList, cmdSensitivity),
    ("triggers-digital".toList, cmdTriggersDigital),
    ("ledfx".toList, cmdLedfx),
    ("brightness".toList, cmdBrightness),
    ("deadzone".toList, cmdDeadzone),
    ("gain".toList, cmdGain),
    ("rumble".toList, cmdRumble),
    ("debounce".toList, cmdDebounce),
    ("reapply".toList, cmdReapply),
    ("pled".toList, cmdPled),
    ("layout".toList, cmdLayout)]

/-- **`execute_slot_command`**: the first entry of that name, else exit code 1. -/
def executeSlotCommand (cmdName : CStr) : Handler := fun argv =>
  match slotCommands.find? fun sc => sc.1 == cmdName with
  | some sc => sc.2 argv
  | none => return 1

/-! ## Checks first, stores after -/

section Order

variable (argv : List CStr)

/-- One store and the return. -/
theorem succeeds_store (f : Slot → Slot) :
    Succeeds 0 (do store f; return 0 : StateM Slot Int) :=
  Succeeds.bind fun _ => Succeeds.done

theorem atomic_cmdColor : Atomic 0 (cmdColor argv) := by
  refine Atomic.check fun _ => ?_
  cases scanColour (argv.getD 0 []) with
  | none => exact Atomic.ret 1
  | some c =>
      apply Succeeds.atomic
      iterate 9 refine Succeeds.bind fun _ => ?_
      exact Succeeds.done

theorem atomic_cmdEmulation : Atomic 0 (cmdEmulation argv) :=
  Atomic.check fun _ => (succeeds_store _).atomic

theorem atomic_cmdUhid : Atomic 0 (cmdUhid argv) := by
  refine Atomic.check fun _ => Succeeds.atomic ?_
  iterate 2 refine Succeeds.bind fun _ => ?_
  exact succeeds_store _

theorem atomic_cmdKeybind : Atomic 0 (cmdKeybind argv) := by
  refine Atomic.check fun _ => Atomic.check fun _ => Succeeds.atomic ?_
  exact Succeeds.bind fun _ => succeeds_store _

theorem atomic_cmdInvert : Atomic 0 (cmdInvert argv) := by
  refine Atomic.check fun _ => Atomic.check fun _ => Atomic.check fun _ => ?_
  refine Atomic.ite (succeeds_store _).atomic ?_
  exact Atomic.ite (succeeds_store _).atomic (Atomic.ret 1)

theorem atomic_cmdSensitivity : Atomic 0 (cmdSensitivity argv) := by
  refine Atomic.check fun _ => Atomic.check fun _ => Atomic.check fun _ => Atomic.check fun _ => ?_
  refine Atomic.ite (succeeds_store _).atomic ?_
  exact Atomic.ite (succeeds_store _).atomic (Atomic.ret 1)

/-- The shape of the handlers with a `status` word. -/
theorem atomic_status {c c' : Prop} [Decidable c] [Decidable c'] (f : Slot → Slot) :
    Atomic 0 (if c then return 1 else if c' then return 0 else do store f; return 0 : StateM Slot Int) :=
  Atomic.check fun _ => Atomic.check fun _ => (succeeds_store f).atomic

theorem atomic_cmdLedfx : Atomic 0 (cmdLedfx argv) := by
  refine Atomic.check fun _ => Atomic.check fun _ => Atomic.ite ?_ ?_
  · apply Succeeds.atomic
    iterate 6 refine Succeeds.bind fun _ => ?_
    exact Succeeds.done
  · apply Succeeds.atomic
    iterate 5 refine Succeeds.bind fun _ => ?_
    exact Succeeds.done

/-- The shape of the handlers with one number. -/
theorem atomic_number {c c' : Prop} [Decidable c] [Decidable c'] (f : Slot → Slot) :
    Atomic 0 (if c then return 1 else if c' then return 1 else do store f; return 0 : StateM Slot Int) :=
  Atomic.check fun _ => Atomic.check fun _ => (succeeds_store f).atomic

theorem atomic_cmdBrightness : Atomic 0 (cmdBrightness argv) := by
  refine Atomic.check fun _ => Atomic.check fun _ => Succeeds.atomic ?_
  exact Succeeds.bind fun _ => succeeds_store _

theorem atomic_cmdRumble : Atomic 0 (cmdRumble argv) := by
  refine Atomic.check fun _ => Atomic.check fun _ => Succeeds.atomic ?_
  refine Succeeds.bind fun _ => ?_
  cases strToBool (argv.getD 0 []) with
  | true => exact Succeeds.done
  | false =>
      iterate 2 refine Succeeds.bind fun _ => ?_
      exact succeeds_store _

theorem atomic_cmdPled : Atomic 0 (cmdPled argv) := by
  refine Atomic.check fun _ => Atomic.check fun _ => ReadOnly.get.bind fun slot => ?_
  refine Atomic.check fun _ => Succeeds.atomic ?_
  exact Succeeds.bind fun _ => succeeds_store _

theorem atomic_cmdLayout : Atomic 0 (cmdLayout argv) := by
  refine Atomic.check fun _ => ReadOnly.get.bind fun slot => ?_
  refine Atomic.ite (Atomic.check fun _ => (succeeds_store _).atomic) ?_
  exact Atomic.ite (Atomic.check fun _ => (succeeds_store _).atomic) (Atomic.ret 1)

/-- Every handler of the table is atomic. -/
theorem atomic_of_mem {sc : CStr × Handler} (h : sc ∈ slotCommands) : Atomic 0 (sc.2 argv) := by
  simp only [slotCommands, List.mem_cons, List.not_mem_nil, or_false] at h
  rcases h with rfl | rfl | rfl | rfl | rfl | rfl | rfl | rfl | rfl | rfl | rfl | rfl | rfl | rfl |
    rfl | rfl | rfl | rfl
  · exact atomic_cmdColor argv
  · exact atomic_cmdEmulation argv
  · exact atomic_cmdUhid argv
  · exact atomic_cmdKeybind argv
  · exact Atomic.ret 0
  · exact (succeeds_store _).atomic
  · exact atomic_cmdInvert argv
  · exact atomic_cmdSensitivity argv
  · exact atomic_status _
  · exact atomic_cmdLedfx argv
  · exact atomic_cmdBrightness argv
  · exact atomic_number _
  · exact atomic_number _
  · exact atomic_cmdRumble argv
  · exact Atomic.check fun _ => (succeeds_store _).atomic
  · exact atomic_status _
  · exact atomic_cmdPled argv
  · exact atomic_cmdLayout argv

/-- **A slot command that fails leaves the slot exactly as it was**, whatever its name, its arguments and
the slot. -/
theorem atomic_executeSlotCommand (cmdName : CStr) (slot : Slot)
    (hcode : ((executeSlotCommand cmdName argv).run slot).1 ≠ 0) :
    ((executeSlotCommand cmdName argv).run slot).2 = slot := by
  have hatomic : Atomic 0 (executeSlotCommand cmdName argv) := by
    unfold executeSlotCommand
    cases hfind : slotCommands.find? fun sc => sc.1 == cmdName with
    | none => exact Atomic.ret 1
    | some sc => exact atomic_of_mem argv (List.mem_of_find?_eq_some hfind)
  exact hatomic slot hcode

/-- `brightness 200` on a slot as the daemon initialised it. -/
theorem atomic_executeSlotCommand_brightness :
    ((executeSlotCommand "brightness".toList ["200".toList]).run
      ⟨initialController, initialCells⟩).1 ≠ 0 ∧
    ((executeSlotCommand "brightness".toList ["200".toList]).run
      ⟨initialController, initialCells⟩).2 = ⟨initialController, initialCells⟩ := by
  have hcode : ((executeSlotCommand "brightness".toList ["200".toList]).run
      ⟨initialController, initialCells⟩).1 ≠ 0 := by decide
  exact ⟨hcode, atomic_executeSlotCommand ["200".toList] "brightness".toList _ hcode⟩

end Order

/-! ## The one-update model -/

/-- The exit code and the slot that the one-update model stands for. -/
def exitOf (slot : Slot) : Option Slot → Int × Slot
  | some slot' => (0, slot')
  | none => (1, slot)

/-- The program computes what the one-update model says, on every slot and all arguments. -/
def Computes (h : Handler) (cmd : SlotCommand) : Prop :=
  ∀ argv slot, (h argv).run slot = exitOf slot (cmd slot argv)

section Computes

variable {c : Prop} [Decidable c] {m m' : StateM Slot Int} {slot : Slot} {o o' : Option Slot}

/-- A check of the program is a check of the model. -/
theorem run_check (h : m.run slot = exitOf slot o) :
    (if c then return 1 else m).run slot = exitOf slot (if c then none else o) := by
  split
  · rfl
  · exact h

theorem run_ite (hm : m.run slot = exitOf slot o) (hm' : m'.run slot = exitOf slot o') :
    (if c then m else m').run slot = exitOf slot (if c then o else o') := by
  split
  · exact hm
  · exact hm'

/-- A number checked against its bounds. -/
theorem run_inBounds {hi v : Int} {o : Int → Option Slot} (h : m.run slot = exitOf slot (o v)) :
    (if v < 0 ∨ v > hi then return 1 else m).run slot = exitOf slot ((inBounds hi v).bind o) := by
  unfold inBounds
  split
  · rfl
  · exact h

/-- A handler that wants an argument refuses an empty list, and has one to look at behind that check. -/
theorem computes_of_cons {h : Handler} {cmd : SlotCommand} {k : Handler}
    (hprog : h = fun argv => if argv.length < 1 then return 1 else k argv)
    (hnil : ∀ slot, cmd slot [] = none)
    (hcons : ∀ arg rest slot, (k (arg :: rest)).run slot = exitOf slot (cmd slot (arg :: rest))) :
    Computes h cmd := by
  rintro (_ | ⟨arg, rest⟩) slot
  · rw [hprog, hnil]
    rfl
  · rw [hprog]
    have hlen : ¬(arg :: rest).length < 1 := by simp
    show (if (arg :: rest).length < 1 then return 1 else k (arg :: rest)).run slot = _
    rw [if_neg hlen]
    exact hcons arg rest slot

end Computes

theorem computes_cmdColor : Computes cmdColor Dstx.cmdColor := by
  refine computes_of_cons rfl (fun _ => rfl) fun arg rest slot => ?_
  simp only [Dstx.cmdColor, List.getD_cons_zero]
  cases scanColour arg <;> rfl

theorem computes_cmdEmulation : Computes cmdEmulation Dstx.cmdEmulation :=
  computes_of_cons rfl (fun _ => rfl) fun _ _ _ => rfl

theorem computes_cmdUhid : Computes cmdUhid Dstx.cmdUhid :=
  computes_of_cons rfl (fun _ => rfl) fun _ _ _ => rfl

theorem computes_cmdInvert : Computes cmdInvert Dstx.cmdInvert := by
  rintro (_ | ⟨which, _ | ⟨val, rest⟩⟩) slot
  · rfl
  · rfl
  · have hlen : ¬(which :: val :: rest).length < 2 := by simp
    simp only [cmdInvert, if_neg hlen]
    exact run_ite rfl (run_ite rfl (run_ite rfl rfl))

theorem computes_cmdSensitivity : Computes cmdSensitivity Dstx.cmdSensitivity := by
  refine computes_of_cons rfl (fun _ => rfl) fun which rest slot => run_ite rfl ?_
  cases rest with
  | nil => rfl
  | cons arg rest => exact run_check (run_check (run_ite rfl (run_ite rfl rfl)))

theorem computes_cmdTriggersDigital : Computes cmdTriggersDigital Dstx.cmdTriggersDigital :=
  computes_of_cons rfl (fun _ => rfl) fun _ _ _ => run_ite rfl rfl

theorem computes_cmdLedfx : Computes cmdLedfx Dstx.cmdLedfx := by
  refine computes_of_cons rfl (fun _ => rfl) fun effect rest slot => run_check ?_
  rcases rest with _ | ⟨speed, _ | ⟨brightness, rest⟩⟩
  · exact run_ite rfl rfl
  · exact run_ite rfl rfl
  · exact run_ite rfl rfl

theorem computes_cmdBrightness : Computes cmdBrightness Dstx.cmdBrightness := by
  refine computes_of_cons rfl (fun _ => rfl) fun arg rest slot => ?_
  simp only [Dstx.cmdBrightness, Option.map_eq_bind]
  exact run_inBounds rfl

theorem computes_cmdDeadzone : Computes cmdDeadzone Dstx.cmdDeadzone := by
  refine computes_of_cons rfl (fun _ => rfl) fun arg rest slot => ?_
  simp only [Dstx.cmdDeadzone, Option.map_eq_bind]
  exact run_inBounds rfl

theorem computes_cmdRumble : Computes cmdRumble Dstx.cmdRumble := by
  refine computes_of_cons rfl (fun _ => rfl) fun sub rest slot => run_ite rfl ?_
  simp only [List.getD_cons_zero]
  cases strToBool sub <;> rfl

theorem computes_cmdPled : Computes cmdPled Dstx.cmdPled := by
  refine computes_of_cons rfl (fun _ => rfl) fun arg rest slot => ?_
  have hmodel : Dstx.cmdPled slot (arg :: rest) = (inBounds 5 (atoi arg)).bind fun p =>
      if slot.type ≠ .dualsense then none
      else some { slot with playerLeds := toU8 p, ledDirty := true } := by
    simp only [Dstx.cmdPled]
    cases inBounds 5 (atoi arg) <;> rfl
  rw [hmodel]
  exact run_inBounds (run_check rfl)

theorem computes_cmdLayout : Computes cmdLayout Dstx.cmdLayout := by
  refine computes_of_cons rfl (fun _ => rfl) fun sub rest slot => ?_
  refine run_ite (run_check rfl) (run_ite (run_check rfl) rfl)

theorem computes_cmdKeybind : Computes cmdKeybind Dstx.cmdKeybind := by
  rintro (_ | ⟨phy, _ | ⟨log, rest⟩⟩) slot
  · rfl
  · rfl
  · have hlen : ¬(phy :: log :: rest).length < 2 := by simp
    simp only [cmdKeybind, Dstx.cmdKeybind, Slot.keybind, if_neg hlen, List.getD_cons_zero,
      List.getD_cons_succ]
    unfold storeKeymap phyIndex
    by_cases hphy : 0 ≤ atoi phy ∧ atoi phy < phyBtnCount
    · simp only [dif_pos hphy]
      by_cases hlog : 0 ≤ atoi log ∧ atoi log < logicalBtnCount
      · rw [if_pos hlog, if_neg (by omega)]
        rfl
      · rw [if_neg hlog, if_pos (by omega)]
        rfl
    · rw [dif_neg hphy, if_pos (by omega)]
      rfl

theorem computes_cmdGain : Computes cmdGain Dstx.cmdGain := by
  refine computes_of_cons rfl (fun _ => rfl) fun arg rest slot => ?_
  simp only [Dstx.cmdGain, Option.map_eq_bind]
  exact run_inBounds rfl

theorem computes_cmdDebounce : Computes cmdDebounce Dstx.cmdDebounce :=
  computes_of_cons rfl (fun _ => rfl) fun _ _ _ => rfl

theorem computes_cmdReapply : Computes cmdReapply Dstx.cmdReapply :=
  computes_of_cons rfl (fun _ => rfl) fun _ _ _ => run_ite rfl rfl

/-- An entry of the programs' table and one of the models' table. -/
def EntryComputes (sc : CStr × Handler) (mc : CStr × SlotCommand) : Prop :=
  sc.1 = mc.1 ∧ Computes sc.2 mc.2

/-- The two dispatch tables, entry by entry. -/
theorem slotCommands_computes :
    List.Forall₂ EntryComputes slotCommands Dstx.slotCommands :=
  .cons ⟨rfl, computes_cmdColor⟩ <|
  .cons ⟨rfl, computes_cmdEmulation⟩ <|
  .cons ⟨rfl, computes_cmdUhid⟩ <|
  .cons ⟨rfl, computes_cmdKeybind⟩ <|
  .cons ⟨rfl, fun _ _ => rfl⟩ <|
  .cons ⟨rfl, fun _ _ => rfl⟩ <|
  .cons ⟨rfl, computes_cmdInvert⟩ <|
  .cons ⟨rfl, computes_cmdSensitivity⟩ <|
  .cons ⟨rfl, computes_cmdTriggersDigital⟩ <|
  .cons ⟨rfl, computes_cmdLedfx⟩ <|
  .cons ⟨rfl, computes_cmdBrightness⟩ <|
  .cons ⟨rfl, computes_cmdDeadzone⟩ <|
  .cons ⟨rfl, computes_cmdGain⟩ <|
  .cons ⟨rfl, computes_cmdRumble⟩ <|
  .cons ⟨rfl, computes_cmdDebounce⟩ <|
  .cons ⟨rfl, computes_cmdReapply⟩ <|
  .cons ⟨rfl, computes_cmdPled⟩ <|
  .cons ⟨rfl, computes_cmdLayout⟩ .nil

/-- Looking a name up in two tables that agree entry by entry. -/
theorem find?_computes {l : List (CStr × Handler)} {l' : List (CStr × SlotCommand)}
    (h : List.Forall₂ EntryComputes l l') (cmdName : CStr) :
    Option.Rel EntryComputes (l.find? fun sc => sc.1 == cmdName)
      (l'.find? fun mc => mc.1 == cmdName) := by
  induction h with
  | nil => exact .none
  | @cons sc mc l l' hentry _ ih =>
      rw [List.find?_cons, List.find?_cons, hentry.1]
      split
      · exact .some hentry
      · exact ih

/-- **The one-update model of the slot commands is what the programs compute.** -/
theorem run_executeSlotCommand (cmdName : CStr) (argv : List CStr) (slot : Slot) :
    (executeSlotCommand cmdName argv).run slot =
      exitOf slot (Dstx.executeSlotCommand slot cmdName argv) := by
  have hfind := find?_computes slotCommands_computes cmdName
  unfold executeSlotCommand Dstx.executeSlotCommand
  revert hfind
  generalize (slotCommands.find? fun sc => sc.1 == cmdName) = o
  generalize (Dstx.slotCommands.find? fun mc => mc.1 == cmdName) = o'
  rintro (hentry | -)
  · exact hentry.2 argv slot
  · rfl

end Handler

end Dstx
