/-
# Dstx.Commands.KeymapOps — keymap operations between two iterations of a worker: are they taken in ORDER?

A keybind stores its entry at once, and so does the `ResetKeybinds` call of the D-Bus service.  The two
layouts and the full reset are one-shot flags, which the slot's worker serves once an iteration, in its own
order: switch layout, xbox layout, reset.  So of a batch issued between two iterations the stores come first
and the requests after, whatever order the user gave; `dstx 0 --reset-keybinds --keybind 0 5` loses the
keybind.

All of them are ABSOLUTE stores (`KeymapOp.patch`), so the comparison is one of last writes
(`Dstx.Lib.Patch`): `keymap_afterBatch_iff` says for which batches the worker leaves the keymap that the
operations leave in their order.
-/
import Dstx.Commands.Tui
import Dstx.Commands.Dbus
import Dstx.Lib.Patch

namespace Dstx

open Dstx.Lib

/-! ## The operations -/

/-- **A keymap operation**, as a front end issues it. -/
inductive KeymapOp where
  | keybind (phy : Fin phyBtnCount) (log : UInt8)
  /-- The D-Bus call that stores the default map at once. -/
  | defaultKeymap
  | requestSwitch
  | requestXbox
  | requestReset
  deriving DecidableEq

namespace KeymapOp

/-- What issuing it stores in the slot: an entry, the map, or a flag. -/
def store (slot : Slot) : KeymapOp → Slot
  | keybind phy log => slot.setKeybind phy log
  | defaultKeymap => { slot with keymap := keysGetDefaultMap, ledDirty := true }
  | requestSwitch => { slot with requestSwitchLayout := true }
  | requestXbox => { slot with requestXboxLayout := true }
  | requestReset => { slot with requestResetAllKeybinds := true }

/-- **What it is for**: its effect on the keymap. -/
def onKeymap (map : Keymap) : KeymapOp → Keymap
  | keybind phy log => Function.update map phy log
  | defaultKeymap => keysGetDefaultMap
  | requestSwitch => keysSetSwitchLayout map
  | requestXbox => keysSetXboxLayout map
  | requestReset => keysGetDefaultMap

/-- The operations whose effect comes at once. -/
def immediate : KeymapOp → Bool
  | keybind _ _ | defaultKeymap => true
  | requestSwitch | requestXbox | requestReset => false

/-- The keys of the face buttons. -/
def isFace (p : Fin phyBtnCount) : Bool :=
  p = Button.cross.phy || p = Button.circle.phy || p = Button.square.phy || p = Button.triangle.phy

/-- The keys an operation writes, with their values. -/
def patch : KeymapOp → Patch (Fin phyBtnCount) UInt8
  | keybind phy log => fun p => if p = phy then some log else none
  | defaultKeymap | requestReset => fun p => some (keysGetDefaultMap p)
  | requestSwitch => fun p => if isFace p then some (keysSetSwitchLayout keysGetDefaultMap p) else none
  | requestXbox => fun p => if isFace p then some (keysSetXboxLayout keysGetDefaultMap p) else none

end KeymapOp

/-! ## The front ends -/

/-- A call of a front end on a slot. -/
inductive FrontCall where
  /-- A slot command of the command line. -/
  | cli (name : CStr) (args : List CStr)
  /-- A line typed into the text interface. -/
  | tui (line : CStr)
  /-- A setter call on the D-Bus service. -/
  | dbus (call : DbusSetter)

/-- What the call does to the slot; `none` when it is refused. -/
def FrontCall.run (slot : Slot) : FrontCall → Option Slot
  | .cli name args => executeSlotCommand slot name args
  | .tui line => runUiSlotCommand slot line
  | .dbus call => dbusSet slot call

/-- The slot after the call. -/
def FrontCall.issue (slot : Slot) (call : FrontCall) : Slot := (call.run slot).getD slot

/-- A keybind with both numbers in range. -/
def keybindOp (phy log : Int) : Option KeymapOp :=
  (phyIndex phy).bind fun p =>
    if 0 ≤ log ∧ log < logicalBtnCount then some (.keybind p (toU8 log)) else none

/-- A layout, for the one kind of controller that has two. -/
def layoutOp (type : ControllerType) (op : KeymapOp) : Option KeymapOp :=
  if type ≠ .nswPro then none else some op

/-- The keymap operation of a slot command. -/
def cliKeymapOp (type : ControllerType) (name : CStr) (args : List CStr) : Option KeymapOp :=
  if name = "keybind".toList then
    match args with
    | phy :: log :: _ => keybindOp (atoi phy) (atoi log)
    | _ => none
  else if name = "reset-keybinds".toList then some .requestReset
  else if name = "layout".toList ∧ args.head? = some "switch".toList then layoutOp type .requestSwitch
  else if name = "layout".toList ∧ args.head? = some "xbox".toList then layoutOp type .requestXbox
  else none

/-- The keymap operation of a typed line. -/
def tuiKeymapOp (type : ControllerType) (line : CStr) : Option KeymapOp :=
  if line = "layout switch".toList then layoutOp type .requestSwitch
  else if line = "layout xbox".toList then layoutOp type .requestXbox
  else if line = "reset-keybinds".toList then some .requestReset
  else if "keybind ".toList.isPrefixOf line then
    (scanTwoInts (line.drop 8)).bind fun k => keybindOp k.1 k.2
  else none

/-- The keymap operation of a setter call; the legacy call asks for one layout or the other. -/
def dbusKeymapOp : DbusSetter → Option KeymapOp
  | .setKeybind physical logical => keybindOp physical.toNat logical.toNat
  | .resetKeybinds => some .defaultKeymap
  | .resetAllKeybinds => some .requestReset
  | .applySwitchLayout => some .requestSwitch
  | .applyXboxLayout => some .requestXbox
  | .setSwitchLayoutLegacy enable => some (if enable then .requestSwitch else .requestXbox)
  | _ => none

/-- **The keymap operation a call issues**, if it issues one. -/
def FrontCall.keymapOp (type : ControllerType) : FrontCall → Option KeymapOp
  | .cli name args => cliKeymapOp type name args
  | .tui line => tuiKeymapOp type line
  | .dbus call => dbusKeymapOp call

/-! ## What a call stores -/

section Calls

variable {slot : Slot} {op : KeymapOp}

/-- A checked keybind is the operation `keybindOp` names. -/
theorem keybind_eq_map (slot : Slot) (phy log : Int) :
    slot.keybind phy log = (keybindOp phy log).map fun op => op.store slot := by
  unfold Slot.keybind keybindOp
  cases phyIndex phy with
  | none => rfl
  | some p =>
      show (if 0 ≤ log ∧ log < logicalBtnCount then some (slot.setKeybind p (toU8 log)) else none) =
        Option.map _ (if 0 ≤ log ∧ log < logicalBtnCount then _ else none)
      split <;> rfl

theorem eq_of_layoutOp {request : KeymapOp} (h : layoutOp slot.type request = some op) :
    slot.type = .nswPro ∧ op = request := by
  unfold layoutOp at h
  split_ifs at h with htype
  exact ⟨not_not.mp htype, (Option.some.inj h).symm⟩

theorem run_cli {name : CStr} {args : List CStr} (h : cliKeymapOp slot.type name args = some op) :
    executeSlotCommand slot name args = some (op.store slot) := by
  unfold cliKeymapOp at h
  split_ifs at h with hkeybind hreset hswitch hxbox
  · subst hkeybind
    match args with
    | [] => cases h
    | [_] => cases h
    | phy :: log :: rest =>
        show slot.keybind (atoi phy) (atoi log) = some (op.store slot)
        rw [keybind_eq_map, show keybindOp (atoi phy) (atoi log) = some op from h]
        rfl
  · subst hreset
    obtain rfl := Option.some.inj h
    rfl
  · obtain ⟨rfl, hargs⟩ := hswitch
    obtain ⟨htype, rfl⟩ := eq_of_layoutOp h
    obtain ⟨rest, rfl⟩ : ∃ rest, args = "switch".toList :: rest := List.head?_eq_some_iff.mp hargs
    show (if slot.type ≠ .nswPro then none else some _) = _
    rw [if_neg (not_not.mpr htype)]
    rfl
  · obtain ⟨rfl, hargs⟩ := hxbox
    obtain ⟨htype, rfl⟩ := eq_of_layoutOp h
    obtain ⟨rest, rfl⟩ : ∃ rest, args = "xbox".toList :: rest := List.head?_eq_some_iff.mp hargs
    show (if slot.type ≠ .nswPro then none else some _) = _
    rw [if_neg (not_not.mpr htype)]
    rfl

theorem run_tui {line : CStr} (h : tuiKeymapOp slot.type line = some op) :
    runUiSlotCommand slot line = some (op.store slot) := by
  unfold tuiKeymapOp at h
  split_ifs at h with hswitch hxbox hreset hkeybind
  · subst hswitch
    obtain ⟨htype, rfl⟩ := eq_of_layoutOp h
    show (if slot.type = .nswPro then some _ else none) = _
    rw [if_pos htype]
    rfl
  · subst hxbox
    obtain ⟨htype, rfl⟩ := eq_of_layoutOp h
    show (if slot.type = .nswPro then some _ else none) = _
    rw [if_pos htype]
    rfl
  · subst hreset
    obtain rfl := Option.some.inj h
    rfl
  · obtain ⟨rest, rfl⟩ := List.isPrefixOf_iff_prefix.mp hkeybind
    have hrest : ("keybind ".toList ++ rest).drop 8 = rest := rfl
    rw [hrest] at h
    obtain ⟨⟨physical, logical⟩, hscan, hop⟩ := Option.bind_eq_some_iff.mp h
    show uiKeybind slot rest = some (op.store slot)
    simp only [uiKeybind, hscan]
    rw [keybind_eq_map, hop]
    rfl

theorem run_dbusKeybind {physical logical : UInt8}
    (h : keybindOp physical.toNat logical.toNat = some op) :
    dbusSet slot (.setKeybind physical logical) = some (op.store slot) := by
  unfold keybindOp at h
  obtain ⟨p, hp, hlog⟩ := Option.bind_eq_some_iff.mp h
  split_ifs at hlog with hrange
  obtain rfl := Option.some.inj hlog
  have hlt : ¬logical.toNat ≥ logicalBtnCount := by omega
  unfold dbusSet
  simp only [hp, if_neg hlt, toU8_toNat]
  rfl

theorem run_dbus {call : DbusSetter} (h : dbusKeymapOp call = some op) :
    dbusSet slot call = some (op.store slot) := by
  cases call with
  | setKeybind physical logical => exact run_dbusKeybind h
  | setSwitchLayoutLegacy enable =>
      obtain rfl := Option.some.inj h
      cases enable <;> rfl
  | resetKeybinds | resetAllKeybinds | applySwitchLayout | applyXboxLayout =>
      obtain rfl := Option.some.inj h
      rfl
  | _ => cases h

/-- **A call that issues a keymap operation is accepted, and stores what the operation stores**, whatever
front end it comes from. -/
theorem FrontCall.run_eq {call : FrontCall} (h : call.keymapOp slot.type = some op) :
    call.run slot = some (op.store slot) := by
  cases call with
  | cli name args => exact run_cli h
  | tui line => exact run_tui h
  | dbus call => exact run_dbus h

end Calls

/-! ## The slot after a batch -/

/-- A map with the four face keys set, as both layouts set them. -/
def withFaces (cross circle square triangle : UInt8) (map : Keymap) : Keymap :=
  Function.update
    (Function.update
      (Function.update (Function.update map Button.cross.phy cross) Button.circle.phy circle)
      Button.square.phy square)
    Button.triangle.phy triangle

namespace KeymapOp

variable (slot : Slot) (op : KeymapOp)

@[simp] theorem store_type : (op.store slot).type = slot.type := by
  cases op <;> rfl

theorem store_keymap :
    (op.store slot).keymap = if op.immediate then op.onKeymap slot.keymap else slot.keymap := by
  cases op <;> rfl

theorem store_requestSwitchLayout : (op.store slot).requestSwitchLayout =
    (slot.requestSwitchLayout || decide (op = .requestSwitch)) := by
  cases op <;> simp [store, Slot.setKeybind]

theorem store_requestXboxLayout : (op.store slot).requestXboxLayout =
    (slot.requestXboxLayout || decide (op = .requestXbox)) := by
  cases op <;> simp [store, Slot.setKeybind]

theorem store_requestResetAllKeybinds : (op.store slot).requestResetAllKeybinds =
    (slot.requestResetAllKeybinds || decide (op = .requestReset)) := by
  cases op <;> simp [store, Slot.setKeybind]

/-- A map whose four face keys are set is the given values on these keys, whatever it was there. -/
theorem faces_getD (cross circle square triangle : UInt8) (map : Keymap) (p : Fin phyBtnCount) :
    (if isFace p then some (withFaces cross circle square triangle keysGetDefaultMap p) else none).getD
      (map p) = withFaces cross circle square triangle map p := by
  unfold isFace withFaces
  by_cases hp : p = Button.cross.phy ∨ p = Button.circle.phy ∨ p = Button.square.phy ∨
      p = Button.triangle.phy
  · rcases hp with rfl | rfl | rfl | rfl <;> rfl
  · simp only [not_or] at hp
    simp [Function.update_of_ne, hp]

/-- The operations are absolute: what they do to a map is a patch. -/
theorem patch_apply (map : Keymap) : op.patch.apply map = op.onKeymap map := by
  funext p
  cases op with
  | keybind phy log =>
      show (if p = phy then some log else none).getD (map p) = Function.update map phy log p
      by_cases hp : p = phy
      · subst hp
        simp
      · simp [hp]
  | defaultKeymap | requestReset => rfl
  | requestSwitch => exact faces_getD _ _ _ _ map p
  | requestXbox => exact faces_getD _ _ _ _ map p

/-- A sequence of operations, in its order. -/
def inOrder (map : Keymap) (ops : List KeymapOp) : Keymap :=
  ops.foldl (fun map op => op.onKeymap map) map

/-- **The requests of a batch, as the worker serves them**: each once, in the worker's order. -/
def served (ops : List KeymapOp) : List KeymapOp :=
  [requestSwitch, requestXbox, requestReset].filter fun op => op ∈ ops

/-- **The last value that the operations give a key**, if they give it one. -/
def lastValue (ops : List KeymapOp) (p : Fin phyBtnCount) : Option UInt8 :=
  Patch.last (ops.map patch) p

/-- **The condition on a batch**: on every key that one of its requests writes, the last operation that
wrote the key, in the order of the user, gave it the value of the request that the worker serves last
there. -/
def ServedLast (ops : List KeymapOp) : Prop :=
  ∀ p v, lastValue (served ops) p = some v → lastValue ops p = some v

theorem inOrder_eq_apply (map : Keymap) (ops : List KeymapOp) :
    inOrder map ops = (Patch.last (ops.map patch)).apply map := by
  rw [← Patch.foldl_apply, List.foldl_map]
  simp only [inOrder, patch_apply]

theorem mem_served {ops : List KeymapOp} {op : KeymapOp} :
    op ∈ served ops ↔ op ∈ ops ∧ op.immediate = false := by
  cases op <;> simp [served, immediate]

end KeymapOp

open KeymapOp

/-- The slot after issuing the operations. -/
def issueOps (slot : Slot) (ops : List KeymapOp) : Slot := ops.foldl (fun slot op => op.store slot) slot

theorem issueOps_cons (slot : Slot) (op : KeymapOp) (ops : List KeymapOp) :
    issueOps slot (op :: ops) = issueOps (op.store slot) ops := rfl

/-- The stores of a batch are those of its immediate operations. -/
theorem issueOps_keymap (slot : Slot) (ops : List KeymapOp) :
    (issueOps slot ops).keymap = inOrder slot.keymap (ops.filter immediate) := by
  induction ops generalizing slot with
  | nil => rfl
  | cons op ops ih =>
      rw [issueOps_cons, ih, store_keymap, List.filter_cons]
      split <;> rfl

/-- A flag that issuing one kind of request sets, and nothing clears, is up when one was issued. -/
theorem issueOps_flag (flag : Slot → Bool) {request : KeymapOp}
    (hstore : ∀ slot op, flag (op.store slot) = (flag slot || decide (op = request))) (slot : Slot)
    (ops : List KeymapOp) : flag (issueOps slot ops) = (flag slot || decide (request ∈ ops)) := by
  induction ops generalizing slot with
  | nil => simp [issueOps]
  | cons op ops ih =>
      rw [issueOps_cons, ih, hstore, Bool.or_assoc]
      simp [eq_comm]

/-! ## The worker -/

/-- **No request is pending.** -/
structure NoRequests (slot : Slot) : Prop where
  requestSwitchLayout : slot.requestSwitchLayout = false
  requestXboxLayout : slot.requestXboxLayout = false
  requestResetAllKeybinds : slot.requestResetAllKeybinds = false

/-- An iteration serves every request. -/
theorem noRequests_processLayoutRequests (slot : Slot) : NoRequests (processLayoutRequests slot) := by
  unfold processLayoutRequests
  constructor <;> dsimp only <;> split_ifs <;> simp_all

/-- What an iteration does to the keymap: the pending requests, in the worker's order. -/
theorem processLayoutRequests_keymap {slot : Slot} {ops : List KeymapOp}
    (hswitch : slot.requestSwitchLayout = decide (requestSwitch ∈ ops))
    (hxbox : slot.requestXboxLayout = decide (requestXbox ∈ ops))
    (hreset : slot.requestResetAllKeybinds = decide (requestReset ∈ ops)) :
    (processLayoutRequests slot).keymap = inOrder slot.keymap (served ops) := by
  unfold processLayoutRequests served
  by_cases h₁ : requestSwitch ∈ ops <;> by_cases h₂ : requestXbox ∈ ops <;>
    by_cases h₃ : requestReset ∈ ops <;>
    simp [h₁, h₂, h₃, hswitch, hxbox, hreset, inOrder, onKeymap]

/-- The keymap after a batch and an iteration. -/
theorem keymap_after_ops {slot : Slot} (h : NoRequests slot) (ops : List KeymapOp) :
    (processLayoutRequests (issueOps slot ops)).keymap =
      inOrder slot.keymap (ops.filter immediate ++ served ops) := by
  have hswitch := issueOps_flag (fun s => s.requestSwitchLayout) store_requestSwitchLayout slot ops
  have hxbox := issueOps_flag (fun s => s.requestXboxLayout) store_requestXboxLayout slot ops
  have hreset := issueOps_flag (fun s => s.requestResetAllKeybinds) store_requestResetAllKeybinds slot ops
  rw [h.requestSwitchLayout, Bool.false_or] at hswitch
  rw [h.requestXboxLayout, Bool.false_or] at hxbox
  rw [h.requestResetAllKeybinds, Bool.false_or] at hreset
  rw [processLayoutRequests_keymap hswitch hxbox hreset, issueOps_keymap]
  simp [inOrder]

/-- **For which batches the worker keeps the order.** -/
theorem keymap_after_ops_iff {slot : Slot} (h : NoRequests slot) (ops : List KeymapOp) :
    (processLayoutRequests (issueOps slot ops)).keymap = inOrder slot.keymap ops ↔ ServedLast ops := by
  rw [keymap_after_ops h, inOrder_eq_apply, inOrder_eq_apply, List.map_append]
  refine Patch.apply_putOff_iff (fun p hp => ?_) (fun p hp => ?_) slot.keymap
  · -- a request that does not write `p` when served does not write it when issued
    rw [Patch.last_eq_none_iff] at hp
    refine Patch.last_filter fun op hop himm => ?_
    exact hp op.patch (List.mem_map_of_mem (mem_served.mpr ⟨hop, himm⟩))
  · -- a request that is served was issued
    by_contra hnone
    have hnone : Patch.last (ops.map patch) p = none := by simpa using hnone
    rw [Patch.last_eq_none_iff] at hnone
    have hserved : Patch.last ((served ops).map patch) p = none := by
      rw [Patch.last_eq_none_iff]
      intro q hq
      obtain ⟨op, hop, rfl⟩ := List.mem_map.mp hq
      exact hnone op.patch (List.mem_map_of_mem (mem_served.mp hop).1)
    simp [hserved] at hp

/-! ## The front ends and the worker -/

/-- **Two iterations of the worker with calls of the front ends between them.** -/
def afterBatch (slot : Slot) (calls : List FrontCall) : Slot :=
  processLayoutRequests (calls.foldl FrontCall.issue (processLayoutRequests slot))

/-- Calls that issue keymap operations store what these store. -/
theorem foldl_issue {slot : Slot} {calls : List FrontCall} {ops : List KeymapOp}
    (h : calls.map (FrontCall.keymapOp slot.type) = ops.map some) :
    calls.foldl FrontCall.issue slot = issueOps slot ops := by
  induction calls generalizing slot ops with
  | nil =>
      obtain rfl : ops = [] := by simpa using h.symm
      rfl
  | cons call calls ih =>
      cases ops with
      | nil => simp at h
      | cons op ops =>
          simp only [List.map_cons, List.cons.injEq] at h
          have hcall : FrontCall.issue slot call = op.store slot := by
            rw [FrontCall.issue, FrontCall.run_eq h.1]
            rfl
          rw [List.foldl_cons, hcall, issueOps_cons]
          exact ih (by rw [store_type]; exact h.2)

theorem processLayoutRequests_type (slot : Slot) : (processLayoutRequests slot).type = slot.type := by
  unfold processLayoutRequests
  dsimp only
  split_ifs <;> rfl

/-- **For which batches of calls the keymap is the one that the operations give in the order they were
issued**: on every slot, for any calls of any front ends that issue keymap operations. -/
theorem keymap_afterBatch_iff (slot : Slot) (calls : List FrontCall) (ops : List KeymapOp)
    (hops : calls.map (FrontCall.keymapOp slot.type) = ops.map some) :
    (afterBatch slot calls).keymap = inOrder (processLayoutRequests slot).keymap ops ↔
      ServedLast ops := by
  rw [← processLayoutRequests_type] at hops
  rw [afterBatch, foldl_issue hops]
  exact keymap_after_ops_iff (noRequests_processLayoutRequests slot) ops

/-- A slot as the daemon initialised it. -/
def initialSlot : Slot := ⟨initialController, initialCells⟩

/-- `dstx 0 --reset-keybinds --keybind 0 5`, as two calls. -/
def resetThenKeybind : List FrontCall :=
  [.cli "reset-keybinds".toList [], .cli "keybind".toList ["0".toList, "5".toList]]

theorem resetThenKeybind_ops : resetThenKeybind.map (FrontCall.keymapOp initialSlot.type) =
    [requestReset, keybind Button.cross.phy 5].map some := by decide

theorem keymap_afterBatch_iff_resetThenKeybind :
    (afterBatch initialSlot resetThenKeybind).keymap =
        inOrder (processLayoutRequests initialSlot).keymap [requestReset, keybind Button.cross.phy 5] ↔
      ServedLast [requestReset, keybind Button.cross.phy 5] :=
  keymap_afterBatch_iff initialSlot resetThenKeybind _ resetThenKeybind_ops

/-- **A keybind after a reset is lost**: the worker resets the keymap with the keybind already in it. -/
theorem keybind_after_reset_lost :
    resetThenKeybind.map (FrontCall.keymapOp initialSlot.type) =
        [requestReset, keybind Button.cross.phy 5].map some ∧
      (afterBatch initialSlot resetThenKeybind).keymap ≠
        inOrder (processLayoutRequests initialSlot).keymap [requestReset, keybind Button.cross.phy 5] := by
  refine ⟨resetThenKeybind_ops, fun h => ?_⟩
  have hcross := congrFun h Button.cross.phy
  revert hcross
  decide

end Dstx
