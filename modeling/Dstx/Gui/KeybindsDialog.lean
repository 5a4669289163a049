/-
# Dstx.Gui.KeybindsDialog — the keybinds dialog, and the keymap in the daemon that its rows speak about.

A row of the dialog changes as soon as the user changes it; the call that sets the keybind is on its way, and
`current_keymap`, with which the next change of a row is compared, follows only with the reply.  A reset and a
change of layout are read back: the reset after its reply, the layout 300 ms after it, since the worker serves
it and not the bridge.  A keybind that fails is read back at once.  While a keymap is being read, rows and
layout may still be clicked, and nothing comes of it; a reading that is asked for meanwhile is dropped.

`keybindsDialog_shows` says that this is right: whatever the user clicks, and in whatever order replies and
timers come between, as soon as nothing is under way the rows show the slot's keymap — provided that no reading
fails, that the worker has served a layout before it is read, and that no row is set back while its keybind is
under way (`DialogMove.Orderly`).  `set_back_out_of_step` and `first_reading_failed` are what happens otherwise.
`reset_in_layout_delay` is about the layout buttons: a reset in those 300 ms, and they show a layout that the
slot does not have.
-/
import Dstx.Commands.KeymapOps
import Dstx.Gui.SettingsController
import Dstx.Lib.Settle
import Mathlib.Algebra.Ring.Nat

namespace Dstx

open Dstx.Lib

/-! ## The dialog -/

/-- **What goes on after `load_keymap`**: nothing, `on_layout_triggered` or `on_reset_clicked`. -/
inductive AfterLoad where
  | nothing
  | layout (toSwitch : Bool)
  | reset
  deriving DecidableEq

/-- A call that changes the keymap. -/
inductive KeymapCall where
  | keybind (phy : Fin phyBtnCount) (log : UInt8)
  | reset
  | layout (toSwitch : Bool)
  deriving DecidableEq

/-- A call of the dialog; `get_keymap` with what waits for it. -/
inductive DialogCall where
  | load (after : AfterLoad)
  | set (call : KeymapCall)
  deriving DecidableEq

/-- A reply on its way back. -/
inductive DialogReply where
  | loaded (map : Keymap) (after : AfterLoad)
  | notLoaded (after : AfterLoad)
  | done (call : KeymapCall)
  | failed (call : KeymapCall)
  deriving DecidableEq

/-- The method of the service. -/
def KeymapCall.setter : KeymapCall → DbusSetter
  | keybind phy log => .setKeybind (UInt8.ofNat phy) log
  | reset => .resetKeybinds
  | layout true => .applySwitchLayout
  | layout false => .applyXboxLayout

/-- **`KeybindsDialog`** with the parts of its `Controller` that it writes, and the slot it is about.  `calls`
were sent and not yet handled, `replies` are on their way back, both in order; `asleep` are the layouts in
their 300 ms.  `toggle` is `none` where there is no toggle group, and says else whether it shows the switch
layout.  `fresh` is no field of the dialog: nobody else has written to the slot since it was last read. -/
structure KeybindsDialog where
  /-- `current_keymap`, null until one was read. -/
  current : Option Keymap
  /-- The selected entries of `rows_by_physical`. -/
  rows : Fin phyBtnCount → UInt8
  loading : Bool
  layoutUpdating : Bool
  toggle : Option Bool
  /-- `controller.layout_mode`. -/
  layoutMode : Int
  /-- `controller.keymap`. -/
  controllerKeymap : Keymap
  /-- A null `current_keymap` was indexed. -/
  crashed : Bool
  slot : Slot
  calls : List DialogCall
  replies : List DialogReply
  asleep : List Bool
  fresh : Bool

/-- The length of `logical_names`. -/
def logicalNamesLength : Nat := 19

/-- `if (logical >= logical_names.length) logical = 0`. -/
def rowOf (logical : UInt8) : UInt8 := if logical.toNat ≥ logicalNamesLength then 0 else logical

namespace KeybindsDialog

variable (d : KeybindsDialog)

def send (call : DialogCall) : KeybindsDialog := { d with calls := d.calls ++ [call] }

/-- `update_layout_toggle_from_controller`. -/
def updateLayoutToggle : KeybindsDialog := { d with toggle := d.toggle.map fun _ => d.layoutMode = 1 }

/-- The rest of `on_layout_triggered` and of `on_reset_clicked`. -/
def afterLoad : AfterLoad → KeybindsDialog
  | .nothing => d
  | .layout toSwitch =>
      { updateLayoutToggle { d with layoutMode := if toSwitch then 1 else 0 } with layoutUpdating := false }
  | .reset => updateLayoutToggle { d with layoutMode := 0 }

/-- `load_keymap`, up to the call. -/
def loadKeymap (after : AfterLoad) : KeybindsDialog :=
  if d.loading then d.afterLoad after else { d with loading := true }.send (.load after)

/-- `load_keymap`, with the reply. -/
def showKeymap (map : Keymap) : KeybindsDialog :=
  let d := { d with current := some map, rows := fun phy => rowOf (map phy), controllerKeymap := map }
  { d.updateLayoutToggle with loading := false }

/-- `current_keymap[physical] = logical`; there is one, since the row was compared with it. -/
def storeKeybind (phy : Fin phyBtnCount) (log : UInt8) : KeybindsDialog :=
  { d with current := d.current.map fun map => Function.update map phy log }

/-- The handler of a row's `selected`, and `apply_keybind` up to the call. -/
def onRowSelected (phy : Fin phyBtnCount) (selected : UInt8) : KeybindsDialog :=
  let d := { d with rows := Function.update d.rows phy selected }
  if d.loading then d
  else
    match d.current with
    | none => { d with crashed := true }
    | some map => if selected = map phy then d else d.send (.set (.keybind phy selected))

/-- The handler of the toggle group, and `on_layout_triggered` up to the call. -/
def onToggle (toSwitch : Bool) : KeybindsDialog :=
  let d := { d with toggle := some toSwitch }
  if d.layoutUpdating || d.loading then d
  else { d with layoutUpdating := true }.send (.set (.layout toSwitch))

/-- **A method goes on** with its reply. -/
def onReply : DialogReply → KeybindsDialog
  | .loaded map after => (d.showKeymap map).afterLoad after
  | .notLoaded after => { d with loading := false }.afterLoad after
  | .done (.keybind phy log) => d.storeKeybind phy log
  | .done .reset => d.loadKeymap .reset
  | .done (.layout toSwitch) => { d with asleep := d.asleep ++ [toSwitch] }
  | .failed (.keybind _ _) => d.loadKeymap .nothing
  | .failed .reset => d
  | .failed (.layout _) => { d.updateLayoutToggle with layoutUpdating := false }

/-- **The bridge handles a call**, if it finds the slot. -/
def serve (available : Bool) : DialogCall → KeybindsDialog
  | .load after =>
      if available then { d with replies := d.replies ++ [.loaded d.slot.keymap after], fresh := true }
      else { d with replies := d.replies ++ [.notLoaded after] }
  | .set call =>
      match if available then dbusSet d.slot call.setter else none with
      | some slot => { d with slot := slot, replies := d.replies ++ [.done call] }
      | none => { d with replies := d.replies ++ [.failed call] }

end KeybindsDialog

/-! ## Everything that can happen -/

/-- The user, the bridge, the worker and everybody else. -/
inductive DialogMove where
  | select (phy : Fin phyBtnCount) (selected : UInt8)
  | toggle (toSwitch : Bool)
  /-- The reset, once it was confirmed. -/
  | reset
  | handle (available : Bool)
  | reply
  /-- The 300 ms of the oldest layout are over. -/
  | elapsed
  /-- An iteration of the slot's worker. -/
  | worker
  /-- Another front end, or a profile. -/
  | others (slot : Slot)

/-- **One step.**  A widget notifies only a change; the toggle group is insensitive while a layout is applied. -/
def dialogStep (move : DialogMove) (d : KeybindsDialog) : Option KeybindsDialog :=
  if d.crashed then none
  else
    match move with
    | .select phy selected =>
        if selected.toNat ≥ logicalNamesLength ∨ d.rows phy = selected then none
        else some (d.onRowSelected phy selected)
    | .toggle toSwitch =>
        if d.toggle = some (!toSwitch) ∧ d.layoutUpdating = false then some (d.onToggle toSwitch) else none
    | .reset => some (d.send (.set .reset))
    | .handle available =>
        match d.calls with
        | [] => none
        | call :: rest => some ({ d with calls := rest }.serve available call)
    | .reply =>
        match d.replies with
        | [] => none
        | r :: rest => some ({ d with replies := rest }.onReply r)
    | .elapsed =>
        match d.asleep with
        | [] => none
        | toSwitch :: rest => some ({ d with asleep := rest }.loadKeymap (.layout toSwitch))
    | .worker => some { d with slot := processLayoutRequests d.slot }
    | .others slot => some { d with slot := slot, fresh := false }

/-- The dialog as its constructor leaves it: the keymap is asked for, everything else is arbitrary. -/
structure KeybindsDialog.Opened (d : KeybindsDialog) : Prop where
  current : d.current = none
  loading : d.loading = true
  layoutUpdating : d.layoutUpdating = false
  crashed : d.crashed = false
  calls : d.calls = [.load .nothing]
  replies : d.replies = []
  asleep : d.asleep = []

/-! ## What is under way -/

/-- The keybinds among the replies that succeeded. -/
def DialogReply.stored? : DialogReply → Option (Fin phyBtnCount × UInt8)
  | .done (.keybind phy log) => some (phy, log)
  | _ => none

/-- The keybinds among the calls. -/
def DialogCall.sent? : DialogCall → Option (Fin phyBtnCount × UInt8)
  | .set (.keybind phy log) => some (phy, log)
  | _ => none

/-- Keybinds one after another. -/
def bindAll (binds : List (Fin phyBtnCount × UInt8)) (map : Keymap) : Keymap :=
  binds.foldl (fun map bind => Function.update map bind.1 bind.2) map

namespace KeybindsDialog

variable (d : KeybindsDialog)

/-- The keybinds the bridge has stored and the dialog does not know of. -/
def stored : List (Fin phyBtnCount × UInt8) := d.replies.filterMap DialogReply.stored?

/-- The keybinds the bridge has yet to see. -/
def sent : List (Fin phyBtnCount × UInt8) := d.calls.filterMap DialogCall.sent?

/-- Nothing is under way. -/
structure Quiet : Prop where
  calls : d.calls = []
  replies : d.replies = []
  asleep : d.asleep = []

/-- **What a dialog at rest shows**: the buttons show the layout mode; and where nobody else has written since the
keymap was read, the rows show the slot's keymap, which is the one the next change will be compared with, and no
layout is still to be served. -/
structure Shows : Prop where
  toggle : d.toggle = d.toggle.map fun _ => decide (d.layoutMode = 1)
  rows : d.fresh = true → d.rows = fun phy => rowOf (d.slot.keymap phy)
  current : d.fresh = true → d.current = some d.slot.keymap
  served : d.fresh = true → NoRequests d.slot

end KeybindsDialog

/-- **The order that keeps the dialog right.**  The keymap is read, and read after the worker has served the
layouts; a row is not set back to what it was while the keybind is under way. -/
def DialogMove.Orderly (move : DialogMove) (d : KeybindsDialog) : Prop :=
  match move with
  | .select phy selected =>
      d.loading = true ∨ d.current.map (fun map => map phy) ≠ some selected ∨
        ∀ log, (phy, log) ∉ d.stored ++ d.sent
  | .handle available =>
      ∀ after rest, d.calls = .load after :: rest → available = true ∧ NoRequests d.slot
  | _ => True

/-- What the dialog does by itself: calls are handled, replies arrive, timers end. -/
def DialogMove.Own : DialogMove → Prop
  | .handle _ | .reply | .elapsed => True
  | _ => False


/-! ## Keybinds one after another -/

theorem bindAll_append (binds later : List (Fin phyBtnCount × UInt8)) (map : Keymap) :
    bindAll (binds ++ later) map = bindAll later (bindAll binds map) := List.foldl_append ..

/-- A button that no keybind is about. -/
theorem bindAll_of_not_mem {phy : Fin phyBtnCount} (binds : List (Fin phyBtnCount × UInt8)) (map : Keymap)
    (h : ∀ log, (phy, log) ∉ binds) : bindAll binds map phy = map phy := by
  induction binds generalizing map with
  | nil => rfl
  | cons bind binds ih =>
      show bindAll binds (Function.update map bind.1 bind.2) phy = map phy
      rw [ih _ fun log hmem => h log (List.mem_cons_of_mem _ hmem)]
      have hne : phy ≠ bind.1 := by
        rintro rfl
        exact h bind.2 List.mem_cons_self
      exact Function.update_of_ne hne _ _

theorem rowOf_of_lt {v : UInt8} (h : v.toNat < logicalNamesLength) : rowOf v = v := if_neg (Nat.not_le.mpr h)

theorem phyIndex_ofNat (phy : Fin phyBtnCount) : phyIndex (UInt8.ofNat phy).toNat = some phy := by
  have hphy : (UInt8.ofNat phy).toNat = phy.val :=
    UInt8.toNat_ofNat_of_lt' (lt_trans phy.isLt (by decide))
  have hrange : (0 : Int) ≤ (phy.val : Int) ∧ (phy.val : Int) < (phyBtnCount : Int) :=
    ⟨Int.natCast_nonneg _, Int.ofNat_lt.mpr phy.isLt⟩
  rw [hphy, phyIndex, dif_pos hrange]
  rfl

/-- **What the bridge does with a keybind that it accepts.** -/
theorem dbusSet_keybind {slot slot' : Slot} {phy : Fin phyBtnCount} {log : UInt8}
    (h : dbusSet slot (KeymapCall.keybind phy log).setter = some slot') :
    slot'.keymap = Function.update slot.keymap phy log ∧ (NoRequests slot → NoRequests slot') := by
  have hset : dbusSet slot (.setKeybind (UInt8.ofNat phy) log) = some slot' := h
  unfold dbusSet at hset
  simp only [phyIndex_ofNat] at hset
  split at hset
  · cases hset
  · obtain rfl := Option.some.inj hset
    exact ⟨rfl, fun hnone => ⟨hnone.requestSwitchLayout, hnone.requestXboxLayout, hnone.requestResetAllKeybinds⟩⟩

/-- Without requests the worker leaves the slot alone. -/
theorem processLayoutRequests_of_noRequests {slot : Slot} (h : NoRequests slot) :
    processLayoutRequests slot = slot := by
  simp [processLayoutRequests, h.requestSwitchLayout, h.requestXboxLayout, h.requestResetAllKeybinds]

/-! ## The keymap while methods are suspended -/

/-- The replies of a reading. -/
def DialogReply.isLoad : DialogReply → Bool
  | .loaded _ _ | .notLoaded _ => true
  | .done _ | .failed _ => false

def DialogCall.isLoad : DialogCall → Bool
  | .load _ => true
  | .set _ => false

/-- The replies after which the keymap is read. -/
def DialogReply.readsAgain : DialogReply → Bool
  | .done .reset | .done (.layout _) | .failed (.keybind _ _) => true
  | _ => false

namespace KeybindsDialog

variable (d : KeybindsDialog)

/-- The keymap will be read. -/
def ReadsAgain : Prop := d.asleep ≠ [] ∨ ∃ r ∈ d.replies, r.readsAgain = true

/-- **The dialog knows the keymap**, up to its own keybinds that are under way: `map` is `current_keymap`. -/
structure InStep (map : Keymap) : Prop where
  keymap : bindAll d.stored map = d.slot.keymap
  rows : d.rows = fun phy => rowOf (bindAll (d.stored ++ d.sent) map phy)
  served : NoRequests d.slot

/-- What concerns the layout buttons. -/
def withLayout (toggle : Option Bool) (layoutMode : Int) (layoutUpdating : Bool) : KeybindsDialog :=
  { d with toggle := toggle, layoutMode := layoutMode, layoutUpdating := layoutUpdating }

theorem afterLoad_eq (after : AfterLoad) : ∃ t m u, d.afterLoad after = d.withLayout t m u := by
  cases after <;> exact ⟨_, _, _, rfl⟩

theorem loadKeymap_of_loading {d : KeybindsDialog} (h : d.loading = true) (after : AfterLoad) :
    d.loadKeymap after = d.afterLoad after := if_pos h

theorem loadKeymap_of_not_loading {d : KeybindsDialog} (h : d.loading = false) (after : AfterLoad) :
    d.loadKeymap after = { d with loading := true }.send (.load after) := by
  rw [loadKeymap, h]
  rfl

end KeybindsDialog

/-- **The invariant of the keymap.**  No reading is under way: then, unless one is promised, the dialog knows the
keymap.  Or one was asked for, or is on its way back: then nothing but resets comes behind it, and what was read
is the keymap until one of them is handled. -/
inductive DialogKept (d : KeybindsDialog) : Prop
  | idle (map : Keymap) (hloading : d.loading = false) (hcurrent : d.current = some map)
      (hcalls : ∀ c ∈ d.calls, c.isLoad = false) (hreplies : ∀ r ∈ d.replies, r.isLoad = false)
      (hstep : d.fresh = true → ¬d.ReadsAgain → d.InStep map)
  | asked (before : List DialogCall) (after : AfterLoad) (later : List DialogCall) (hloading : d.loading = true)
      (hcalls : d.calls = before ++ .load after :: later) (hbefore : ∀ c ∈ before, c.isLoad = false)
      (hlater : ∀ c ∈ later, c = .set .reset) (hreplies : ∀ r ∈ d.replies, r.isLoad = false)
  | read (before : List DialogReply) (map : Keymap) (after : AfterLoad) (later : List DialogReply)
      (hloading : d.loading = true) (hreplies : d.replies = before ++ .loaded map after :: later)
      (hbefore : ∀ r ∈ before, r.isLoad = false) (hlater : ∀ r ∈ later, r = .done .reset ∨ r = .failed .reset)
      (hcalls : ∀ c ∈ d.calls, c = .set .reset)
      (hmap : d.fresh = true → .done .reset ∉ later → map = d.slot.keymap ∧ NoRequests d.slot)

section Kept

variable {d d' : KeybindsDialog}

/-- The layout buttons do not matter. -/
theorem DialogKept.withLayout (h : DialogKept d) (t : Option Bool) (m : Int) (u : Bool) :
    DialogKept (d.withLayout t m u) := by
  cases h with
  | idle map hloading hcurrent hcalls hreplies hstep =>
      exact .idle map hloading hcurrent hcalls hreplies fun hfresh hnot =>
        ⟨(hstep hfresh hnot).keymap, (hstep hfresh hnot).rows, (hstep hfresh hnot).served⟩
  | asked before after later hloading hcalls hbefore hlater hreplies =>
      exact .asked before after later hloading hcalls hbefore hlater hreplies
  | read before map after later hloading hreplies hbefore hlater hcalls hmap =>
      exact .read before map after later hloading hreplies hbefore hlater hcalls hmap

/-- **A reading begins.** -/
theorem DialogKept.loadKeymap (hloading : d.loading = false) (hcalls : ∀ c ∈ d.calls, c.isLoad = false)
    (hreplies : ∀ r ∈ d.replies, r.isLoad = false) (after : AfterLoad) : DialogKept (d.loadKeymap after) := by
  rw [KeybindsDialog.loadKeymap_of_not_loading hloading]
  exact .asked d.calls after [] rfl rfl hcalls nofun hreplies

theorem forall_mem_concat {α : Type} {P : α → Prop} {l : List α} {a : α} (h : ∀ x ∈ l, P x) (ha : P a) :
    ∀ x ∈ l ++ [a], P x := List.forall_mem_append.mpr ⟨h, List.forall_mem_singleton.mpr ha⟩

/-- **A row is changed.** -/
theorem DialogKept.select (h : DialogKept d) {phy : Fin phyBtnCount} {selected : UInt8}
    (hrange : selected.toNat < logicalNamesLength) (hok : (DialogMove.select phy selected).Orderly d) :
    DialogKept (d.onRowSelected phy selected) := by
  cases h with
  | idle map hloading hcurrent hcalls hreplies hstep =>
      have heq : d.onRowSelected phy selected =
          if selected = map phy then { d with rows := Function.update d.rows phy selected }
          else { d with rows := Function.update d.rows phy selected }.send (.set (.keybind phy selected)) := by
        simp only [KeybindsDialog.onRowSelected, hloading, hcurrent]
        rfl
      rw [heq]
      split
      -- back to what the dialog knows: nothing is sent, so nothing may be under way for this row
      · rename_i hsame
        have hnone : ∀ log, (phy, log) ∉ d.stored ++ d.sent := by
          rcases hok with hyes | hother | hnone
          · rw [hloading] at hyes
            cases hyes
          · rw [hcurrent] at hother
            exact absurd (congrArg some hsame.symm) hother
          · exact hnone
        refine .idle map hloading hcurrent hcalls hreplies fun hfresh hnot => ?_
        have hin := hstep hfresh hnot
        refine ⟨hin.keymap, ?_, hin.served⟩
        funext q
        show Function.update d.rows phy selected q = rowOf (bindAll (d.stored ++ d.sent) map q)
        by_cases hq : q = phy
        · subst hq
          rw [Function.update_self, bindAll_of_not_mem _ _ hnone, ← hsame, rowOf_of_lt hrange]
        · rw [Function.update_of_ne hq, hin.rows]
      · refine .idle map hloading hcurrent (forall_mem_concat hcalls rfl) hreplies fun hfresh hnot => ?_
        have hin := hstep hfresh hnot
        refine ⟨hin.keymap, ?_, hin.served⟩
        have hsent : d.stored ++ (d.calls ++ [DialogCall.set (.keybind phy selected)]).filterMap DialogCall.sent? =
            (d.stored ++ d.sent) ++ [(phy, selected)] := by
          rw [List.filterMap_append, ← List.append_assoc]
          rfl
        funext q
        show Function.update d.rows phy selected q = rowOf (bindAll (d.stored ++
          (d.calls ++ [DialogCall.set (.keybind phy selected)]).filterMap DialogCall.sent?) map q)
        rw [hsent, bindAll_append]
        show Function.update d.rows phy selected q =
          rowOf (Function.update (bindAll (d.stored ++ d.sent) map) phy selected q)
        by_cases hq : q = phy
        · subst hq
          rw [Function.update_self, Function.update_self, rowOf_of_lt hrange]
        · rw [Function.update_of_ne hq, Function.update_of_ne hq, hin.rows]
  | asked before after later hloading hcalls hbefore hlater hreplies =>
      have heq : d.onRowSelected phy selected = { d with rows := Function.update d.rows phy selected } := by
        simp only [KeybindsDialog.onRowSelected, hloading, if_true]
      rw [heq]
      exact .asked before after later hloading hcalls hbefore hlater hreplies
  | read before map after later hloading hreplies hbefore hlater hcalls hmap =>
      have heq : d.onRowSelected phy selected = { d with rows := Function.update d.rows phy selected } := by
        simp only [KeybindsDialog.onRowSelected, hloading, if_true]
      rw [heq]
      exact .read before map after later hloading hreplies hbefore hlater hcalls hmap

/-- A call that is no keybind is sent while no reading is under way. -/
theorem KeybindsDialog.InStep.send {map : Keymap} {call : KeymapCall} 
    (hnone : DialogCall.sent? (.set call) = none) (h : d.InStep map) : (d.send (.set call)).InStep map := by
  have hsent : (d.send (.set call)).sent = d.sent := by
    show (d.calls ++ [DialogCall.set call]).filterMap DialogCall.sent? = _
    rw [List.filterMap_append, List.filterMap_cons_none hnone]
    exact List.append_nil _
  refine ⟨h.keymap, ?_, h.served⟩
  rw [hsent]
  exact h.rows

/-- **A layout is chosen.** -/
theorem DialogKept.toggle (h : DialogKept d) (hupdating : d.layoutUpdating = false) (toSwitch : Bool) :
    DialogKept (d.onToggle toSwitch) := by
  unfold KeybindsDialog.onToggle
  dsimp only
  rw [hupdating, Bool.false_or]
  split
  · exact h.withLayout (some toSwitch) d.layoutMode false
  · rename_i hnot
    cases h with
    | idle map hloading hcurrent hcalls hreplies hstep =>
        refine .idle map hloading hcurrent (forall_mem_concat hcalls rfl) hreplies fun hfresh hread => ?_
        have hsend : (d.send (.set (.layout toSwitch))).InStep map := .send rfl (hstep hfresh hread)
        exact ⟨hsend.keymap, hsend.rows, hsend.served⟩
    | asked _ _ _ hloading => exact absurd hloading hnot
    | read _ _ _ _ hloading => exact absurd hloading hnot

/-- **A reset is confirmed.** -/
theorem DialogKept.reset (h : DialogKept d) : DialogKept (d.send (.set .reset)) := by
  cases h with
  | idle map hloading hcurrent hcalls hreplies hstep =>
      exact .idle map hloading hcurrent (forall_mem_concat hcalls rfl) hreplies fun hfresh hread =>
        .send rfl (hstep hfresh hread)
  | asked before after later hloading hcalls hbefore hlater hreplies =>
      refine .asked before after (later ++ [DialogCall.set .reset]) hloading ?_ hbefore
        (forall_mem_concat hlater rfl) hreplies
      show d.calls ++ [DialogCall.set .reset] = _
      rw [hcalls, List.append_assoc, List.cons_append]
  | read before map after later hloading hreplies hbefore hlater hcalls hmap =>
      exact .read before map after later hloading hreplies hbefore hlater (forall_mem_concat hcalls rfl) hmap

end Kept

section Kept

variable {d d' : KeybindsDialog}

/-- What the bridge answers to a call that changes the keymap. -/
def KeybindsDialog.setResult (d : KeybindsDialog) (available : Bool) (call : KeymapCall) : Option Slot :=
  if available then dbusSet d.slot call.setter else none

theorem serve_set (d : KeybindsDialog) (available : Bool) (call : KeymapCall) :
    (d.setResult available call = none ∧
        d.serve available (.set call) = { d with replies := d.replies ++ [DialogReply.failed call] }) ∨
      ∃ slot, d.setResult available call = some slot ∧
        d.serve available (.set call) =
          { d with slot := slot, replies := d.replies ++ [DialogReply.done call] } := by
  cases hset : d.setResult available call with
  | none =>
      refine .inl ⟨rfl, ?_⟩
      unfold KeybindsDialog.serve
      dsimp only
      rw [show (if available then dbusSet d.slot call.setter else none) = none from hset]
  | some slot =>
      refine .inr ⟨slot, rfl, ?_⟩
      unfold KeybindsDialog.serve
      dsimp only
      rw [show (if available then dbusSet d.slot call.setter else none) = some slot from hset]

theorem dbusSet_of_setResult {available : Bool} {call : KeymapCall} {slot : Slot}
    (h : d.setResult available call = some slot) : dbusSet d.slot call.setter = some slot := by
  unfold KeybindsDialog.setResult at h
  split at h
  · exact h
  · cases h

/-- A reply that promises a reading. -/
theorem readsAgain_of_last {replies : List DialogReply} {r : DialogReply} (hr : r.readsAgain = true) :
    ({ d with replies := replies ++ [r] } : KeybindsDialog).ReadsAgain :=
  .inr ⟨r, List.mem_append_right _ (List.mem_singleton_self r), hr⟩

/-- A reading that is promised stays so. -/
theorem readsAgain_append {r : DialogReply} {slot : Slot} {calls : List DialogCall} (h : d.ReadsAgain) :
    ({ d with slot := slot, calls := calls, replies := d.replies ++ [r] } : KeybindsDialog).ReadsAgain :=
  h.imp id fun ⟨x, hx, hread⟩ => ⟨x, List.mem_append_left _ hx, hread⟩

/-- **A call that changes the keymap is handled** while no reading is under way. -/
theorem DialogKept.handle_idle {map : Keymap} (hloading : d.loading = false) (hcurrent : d.current = some map)
    {call : KeymapCall} {rest : List DialogCall} (hcalls : d.calls = .set call :: rest)
    (hload : ∀ c ∈ rest, c.isLoad = false) (hreplies : ∀ r ∈ d.replies, r.isLoad = false)
    (hstep : d.fresh = true → ¬d.ReadsAgain → d.InStep map) (available : Bool) :
    DialogKept ({ d with calls := rest }.serve available (.set call)) := by
  have hsent : d.sent = (DialogCall.sent? (.set call)).toList ++ rest.filterMap DialogCall.sent? := by
    unfold KeybindsDialog.sent
    rw [hcalls, List.filterMap_cons]
    cases DialogCall.sent? (.set call) <;> rfl
  rcases serve_set { d with calls := rest } available call with ⟨-, hserve⟩ | ⟨slot, hresult, hserve⟩
  -- refused: a keybind is read back, and the other two have done nothing
  · rw [hserve]
    refine .idle map hloading hcurrent hload (forall_mem_concat hreplies rfl) fun hfresh hnot => ?_
    have hin := hstep hfresh fun hread => hnot (readsAgain_append hread)
    cases call with
    | keybind phy log => exact absurd (readsAgain_of_last rfl) hnot
    | reset | layout toSwitch =>
        have hstored (c : KeymapCall) :
            (d.replies ++ [DialogReply.failed c]).filterMap DialogReply.stored? = d.stored := by
          rw [List.filterMap_append]
          exact List.append_nil _
        refine ⟨?_, ?_, hin.served⟩
        · show bindAll ((d.replies ++ [DialogReply.failed _]).filterMap DialogReply.stored?) map = d.slot.keymap
          rw [hstored]
          exact hin.keymap
        · show d.rows = fun phy => rowOf (bindAll ((d.replies ++ [DialogReply.failed _]).filterMap
            DialogReply.stored? ++ rest.filterMap DialogCall.sent?) map phy)
          rw [hstored]
          have hrows := hin.rows
          rw [hsent] at hrows
          exact hrows
  -- stored: a reset and a layout are read back, and a keybind goes over from `sent` to `stored`
  · rw [hserve]
    refine .idle map hloading hcurrent hload (forall_mem_concat hreplies rfl) fun hfresh hnot => ?_
    have hin := hstep hfresh fun hread => hnot (readsAgain_append hread)
    cases call with
    | reset => exact absurd (readsAgain_of_last rfl) hnot
    | layout toSwitch => exact absurd (readsAgain_of_last rfl) hnot
    | keybind phy log =>
        obtain ⟨hkeymap, hserved⟩ := dbusSet_keybind (dbusSet_of_setResult hresult)
        have hstored : (d.replies ++ [DialogReply.done (.keybind phy log)]).filterMap DialogReply.stored? =
            d.stored ++ [(phy, log)] := by
          rw [List.filterMap_append]
          rfl
        refine ⟨?_, ?_, hserved hin.served⟩
        · show bindAll ((d.replies ++ [DialogReply.done (.keybind phy log)]).filterMap DialogReply.stored?) map =
            slot.keymap
          rw [hstored, bindAll_append, hin.keymap, hkeymap]
          rfl
        · show d.rows = fun phy' => rowOf (bindAll ((d.replies ++ [DialogReply.done (.keybind phy log)]).filterMap
            DialogReply.stored? ++ rest.filterMap DialogCall.sent?) map phy')
          rw [hstored, List.append_assoc]
          have hrows := hin.rows
          rw [hsent] at hrows
          exact hrows

/-- **The bridge handles a call.** -/
theorem DialogKept.handle (h : DialogKept d) {call : DialogCall} {rest : List DialogCall}
    (hhead : d.calls = call :: rest) {available : Bool} (hok : (DialogMove.handle available).Orderly d) :
    DialogKept ({ d with calls := rest }.serve available call) := by
  cases h with
  | idle map hloading hcurrent hcalls hreplies hstep =>
      rw [hhead] at hcalls
      cases call with
      | load after => cases hcalls _ List.mem_cons_self
      | set call =>
          exact .handle_idle hloading hcurrent hhead (fun c hc => hcalls c (List.mem_cons_of_mem _ hc)) hreplies
            hstep available
  | asked before after later hloading hcalls hbefore hlater hreplies =>
      cases before with
      -- the reading itself: what it finds is the keymap, since the worker has nothing left to serve
      | nil =>
          obtain ⟨rfl, rfl⟩ := List.cons.inj (hhead.symm.trans hcalls)
          obtain ⟨rfl, hserved⟩ := hok after rest hhead
          exact .read d.replies d.slot.keymap after [] hloading rfl hreplies nofun hlater
            fun _ _ => ⟨rfl, hserved⟩
      | cons c before =>
          rw [List.cons_append] at hcalls
          obtain ⟨rfl, rfl⟩ := List.cons.inj (hhead.symm.trans hcalls)
          have hrest : ∀ c ∈ before, c.isLoad = false := fun c hc => hbefore c (List.mem_cons_of_mem _ hc)
          cases call with
          | load other => cases hbefore _ List.mem_cons_self
          | set call =>
              rcases serve_set { d with calls := before ++ .load after :: later } available call with
                ⟨-, hserve⟩ | ⟨slot, -, hserve⟩
              · rw [hserve]
                exact .asked before after later hloading rfl hrest hlater (forall_mem_concat hreplies rfl)
              · rw [hserve]
                exact .asked before after later hloading rfl hrest hlater (forall_mem_concat hreplies rfl)
  | read before map after later hloading hreplies hbefore hlater hcalls hmap =>
      rw [hhead] at hcalls
      obtain rfl := hcalls call List.mem_cons_self
      have hrest : ∀ c ∈ rest, c = .set .reset := fun c hc => hcalls c (List.mem_cons_of_mem _ hc)
      have hsplit : ∀ r, d.replies ++ [r] = before ++ .loaded map after :: (later ++ [r]) := by
        intro r
        rw [hreplies, List.append_assoc, List.cons_append]
      rcases serve_set { d with calls := rest } available .reset with ⟨-, hserve⟩ | ⟨slot, -, hserve⟩
      · rw [hserve]
        refine .read before map after (later ++ [DialogReply.failed .reset]) hloading (hsplit _) hbefore
          (forall_mem_concat hlater (.inr rfl)) hrest fun hfresh hnone => ?_
        exact hmap hfresh fun hmem => hnone (List.mem_append_left _ hmem)
      · rw [hserve]
        refine .read before map after (later ++ [DialogReply.done .reset]) hloading (hsplit _) hbefore
          (forall_mem_concat hlater (.inl rfl)) hrest fun _ hnone => ?_
        exact absurd (List.mem_append_right _ (List.mem_singleton_self _)) hnone

/-- **While a reading is under way** the other methods go on without another. -/
theorem onReply_of_loading (hloading : d.loading = true) {r : DialogReply} (hr : r.isLoad = false) :
    ∃ current asleep t m u, d.onReply r = { d with current := current, asleep := asleep }.withLayout t m u := by
  have hload : ∀ after, ∃ t m u, d.loadKeymap after = d.withLayout t m u := by
    intro after
    rw [KeybindsDialog.loadKeymap_of_loading hloading]
    exact d.afterLoad_eq after
  cases r with
  | loaded map after => cases hr
  | notLoaded after => cases hr
  | done call =>
      cases call with
      | keybind phy log => exact ⟨_, d.asleep, d.toggle, d.layoutMode, d.layoutUpdating, rfl⟩
      | layout toSwitch => exact ⟨d.current, d.asleep ++ [toSwitch], d.toggle, d.layoutMode, d.layoutUpdating, rfl⟩
      | reset =>
          obtain ⟨t, m, u, heq⟩ := hload .reset
          exact ⟨d.current, d.asleep, t, m, u, heq⟩
  | failed call =>
      cases call with
      | keybind phy log =>
          obtain ⟨t, m, u, heq⟩ := hload .nothing
          exact ⟨d.current, d.asleep, t, m, u, heq⟩
      | reset => exact ⟨d.current, d.asleep, d.toggle, d.layoutMode, d.layoutUpdating, rfl⟩
      | layout toSwitch => exact ⟨d.current, d.asleep, _, d.layoutMode, false, rfl⟩

/-- A reply that promises nothing. -/
theorem not_readsAgain_cons {r : DialogReply} {rest : List DialogReply} (hreplies : d.replies = r :: rest)
    (hr : r.readsAgain = false) 
    (h : ¬({ d with replies := rest } : KeybindsDialog).ReadsAgain) : ¬d.ReadsAgain := by
  rintro (hasleep | ⟨x, hx, hread⟩)
  · exact h (.inl hasleep)
  · rw [hreplies] at hx
    rcases List.mem_cons.mp hx with rfl | hrest
    · rw [hr] at hread
      cases hread
    · exact h (.inr ⟨x, hrest, hread⟩)

/-- A reply that is about no keybind. -/
theorem KeybindsDialog.InStep.tail {map : Keymap} {r : DialogReply} {rest : List DialogReply}
    (hreplies : d.replies = r :: rest) (hr : r.stored? = none) (h : d.InStep map) :
    ({ d with replies := rest } : KeybindsDialog).InStep map := by
  have hstored : d.stored = rest.filterMap DialogReply.stored? := by
    unfold KeybindsDialog.stored
    rw [hreplies, List.filterMap_cons_none hr]
  have hkeymap := h.keymap
  have hrows := h.rows
  rw [hstored] at hkeymap hrows
  exact ⟨hkeymap, hrows, h.served⟩

/-- **A method goes on** while no reading is under way. -/
theorem DialogKept.reply_idle {map : Keymap} (hloading : d.loading = false) (hcurrent : d.current = some map)
    (hcalls : ∀ c ∈ d.calls, c.isLoad = false) {r : DialogReply} {rest : List DialogReply}
    (hhead : d.replies = r :: rest) (hr : r.isLoad = false) (hreplies : ∀ r ∈ rest, r.isLoad = false)
    (hstep : d.fresh = true → ¬d.ReadsAgain → d.InStep map) :
    DialogKept ({ d with replies := rest }.onReply r) := by
  have hquiet : r.readsAgain = false → r.stored? = none → DialogKept { d with replies := rest } :=
    fun hread hnone => .idle map hloading hcurrent hcalls hreplies fun hfresh hnot =>
      KeybindsDialog.InStep.tail hhead hnone (hstep hfresh (not_readsAgain_cons hhead hread hnot))
  cases r with
  | loaded map after => cases hr
  | notLoaded after => cases hr
  | done call =>
      cases call with
      | reset => exact .loadKeymap (d := { d with replies := rest }) hloading hcalls hreplies .reset
      | layout toSwitch =>
          refine .idle map hloading hcurrent hcalls hreplies fun _ hnot => ?_
          exact absurd (.inl (List.append_ne_nil_of_right_ne_nil _ (List.cons_ne_nil _ _))) hnot
      | keybind phy log =>
          refine .idle (Function.update map phy log) hloading ?_ hcalls hreplies fun hfresh hnot => ?_
          · exact congrArg (Option.map fun map => Function.update map phy log) hcurrent
          · have hin := hstep hfresh (not_readsAgain_cons hhead rfl hnot)
            have hstored : d.stored = (phy, log) :: rest.filterMap DialogReply.stored? := by
              unfold KeybindsDialog.stored
              rw [hhead]
              rfl
            have hkeymap := hin.keymap
            have hrows := hin.rows
            rw [hstored] at hkeymap hrows
            exact ⟨hkeymap, hrows, hin.served⟩
  | failed call =>
      cases call with
      | keybind phy log => exact .loadKeymap (d := { d with replies := rest }) hloading hcalls hreplies .nothing
      | reset => exact hquiet rfl rfl
      | layout toSwitch => exact (hquiet rfl rfl).withLayout _ _ _

/-- **A reply arrives.** -/
theorem DialogKept.reply (h : DialogKept d) {r : DialogReply} {rest : List DialogReply}
    (hhead : d.replies = r :: rest) : DialogKept ({ d with replies := rest }.onReply r) := by
  cases h with
  | idle map hloading hcurrent hcalls hreplies hstep =>
      rw [hhead] at hreplies
      exact .reply_idle hloading hcurrent hcalls hhead (hreplies r List.mem_cons_self)
        (fun x hx => hreplies x (List.mem_cons_of_mem _ hx)) hstep
  | asked before after later hloading hcalls hbefore hlater hreplies =>
      rw [hhead] at hreplies
      obtain ⟨current, asleep, t, m, u, heq⟩ :=
        onReply_of_loading (d := { d with replies := rest }) hloading (hreplies r List.mem_cons_self)
      rw [heq]
      have hkept : DialogKept { d with replies := rest, current := current, asleep := asleep } :=
        .asked before after later hloading hcalls hbefore hlater
          fun x hx => hreplies x (List.mem_cons_of_mem _ hx)
      exact hkept.withLayout t m u
  | read before map after later hloading hreplies hbefore hlater hcalls hmap =>
      cases before with
      -- the reading comes back: only resets are behind it, so no keybind is under way
      | nil =>
          obtain ⟨rfl, rfl⟩ := List.cons.inj (hhead.symm.trans hreplies)
          obtain ⟨t, m, u, heq⟩ :=
            (({ d with replies := rest } : KeybindsDialog).showKeymap map).afterLoad_eq after
          show DialogKept ((({ d with replies := rest } : KeybindsDialog).showKeymap map).afterLoad after)
          rw [heq]
          refine DialogKept.withLayout ?_ t m u
          have hstored : rest.filterMap DialogReply.stored? = [] := List.filterMap_eq_nil_iff.mpr fun x hx => by
            rcases hlater x hx with rfl | rfl <;> rfl
          have hsent : d.calls.filterMap DialogCall.sent? = [] := List.filterMap_eq_nil_iff.mpr fun c hc => by
            rw [hcalls c hc]
            rfl
          refine .idle map rfl rfl (fun c hc => by rw [hcalls c hc]; rfl)
            (fun x hx => by rcases hlater x hx with rfl | rfl <;> rfl) fun hfresh hnot => ?_
          obtain ⟨hkeymap, hserved⟩ := hmap hfresh fun hmem => hnot (.inr ⟨_, hmem, rfl⟩)
          refine ⟨?_, ?_, hserved⟩
          · show bindAll (rest.filterMap DialogReply.stored?) map = d.slot.keymap
            rw [hstored]
            exact hkeymap
          · show (fun phy => rowOf (map phy)) = fun phy =>
              rowOf (bindAll (rest.filterMap DialogReply.stored? ++ d.calls.filterMap DialogCall.sent?) map phy)
            rw [hstored, hsent]
            rfl
      | cons x before =>
          rw [List.cons_append] at hreplies
          obtain ⟨rfl, rfl⟩ := List.cons.inj (hhead.symm.trans hreplies)
          obtain ⟨current, asleep, t, m, u, heq⟩ :=
            onReply_of_loading (d := { d with replies := before ++ .loaded map after :: later }) hloading
              (hbefore r List.mem_cons_self)
          rw [heq]
          have hkept : DialogKept
              { d with replies := before ++ .loaded map after :: later, current := current, asleep := asleep } :=
            .read before map after later hloading rfl (fun x hx => hbefore x (List.mem_cons_of_mem _ hx)) hlater
              hcalls hmap
          exact hkept.withLayout t m u

/-- **The 300 ms are over.** -/
theorem DialogKept.elapsed (h : DialogKept d) (asleep : List Bool) (toSwitch : Bool) :
    DialogKept ({ d with asleep := asleep }.loadKeymap (.layout toSwitch)) := by
  obtain ⟨t, m, u, heq⟩ := ({ d with asleep := asleep } : KeybindsDialog).afterLoad_eq (.layout toSwitch)
  cases h with
  | idle map hloading hcurrent hcalls hreplies hstep =>
      exact .loadKeymap (d := { d with asleep := asleep }) hloading hcalls hreplies _
  | asked before after later hloading hcalls hbefore hlater hreplies =>
      rw [KeybindsDialog.loadKeymap_of_loading (d := { d with asleep := asleep }) hloading, heq]
      have hkept : DialogKept { d with asleep := asleep } :=
        .asked before after later hloading hcalls hbefore hlater hreplies
      exact hkept.withLayout t m u
  | read before map after later hloading hreplies hbefore hlater hcalls hmap =>
      rw [KeybindsDialog.loadKeymap_of_loading (d := { d with asleep := asleep }) hloading, heq]
      have hkept : DialogKept { d with asleep := asleep } :=
        .read before map after later hloading hreplies hbefore hlater hcalls hmap
      exact hkept.withLayout t m u

/-- **The worker serves the requests.** -/
theorem DialogKept.worker (h : DialogKept d) : DialogKept { d with slot := processLayoutRequests d.slot } := by
  cases h with
  | idle map hloading hcurrent hcalls hreplies hstep =>
      refine .idle map hloading hcurrent hcalls hreplies fun hfresh hnot => ?_
      have hin := hstep hfresh hnot
      rw [processLayoutRequests_of_noRequests hin.served]
      exact hin
  | asked before after later hloading hcalls hbefore hlater hreplies =>
      exact .asked before after later hloading hcalls hbefore hlater hreplies
  | read before map after later hloading hreplies hbefore hlater hcalls hmap =>
      refine .read before map after later hloading hreplies hbefore hlater hcalls fun hfresh hnone => ?_
      have hread := hmap hfresh hnone
      show map = (processLayoutRequests d.slot).keymap ∧ NoRequests (processLayoutRequests d.slot)
      rw [processLayoutRequests_of_noRequests hread.2]
      exact hread

/-- **Somebody else writes.** -/
theorem DialogKept.others (h : DialogKept d) (slot : Slot) :
    DialogKept { d with slot := slot, fresh := false } := by
  cases h with
  | idle map hloading hcurrent hcalls hreplies hstep => exact .idle map hloading hcurrent hcalls hreplies nofun
  | asked before after later hloading hcalls hbefore hlater hreplies =>
      exact .asked before after later hloading hcalls hbefore hlater hreplies
  | read before map after later hloading hreplies hbefore hlater hcalls hmap =>
      exact .read before map after later hloading hreplies hbefore hlater hcalls nofun

end Kept

/-! ## The layout buttons -/

/-- A call, or a reply, that `on_layout_triggered` waits for. -/
def DialogCall.forLayout : DialogCall → Bool
  | .load (.layout _) | .set (.layout _) => true
  | _ => false

def DialogReply.forLayout : DialogReply → Bool
  | .loaded _ (.layout _) | .notLoaded (.layout _) | .done (.layout _) | .failed (.layout _) => true
  | _ => false

/-- A layout is being applied. -/
def KeybindsDialog.LayoutUnderWay (d : KeybindsDialog) : Prop :=
  d.asleep ≠ [] ∨ (∃ c ∈ d.calls, c.forLayout = true) ∨ ∃ r ∈ d.replies, r.forLayout = true

/-- **The invariant of the layout buttons**, where no reading fails. -/
structure LayoutRight (d : KeybindsDialog) : Prop where
  answered : ∀ after, .notLoaded after ∉ d.replies
  toggle : d.loading = false → d.layoutUpdating = false →
    d.toggle = d.toggle.map fun _ => decide (d.layoutMode = 1)
  updating : d.layoutUpdating = true → d.LayoutUnderWay

section Layout

variable {d d' : KeybindsDialog}

theorem toggle_updateLayoutToggle (d : KeybindsDialog) :
    d.updateLayoutToggle.toggle = d.updateLayoutToggle.toggle.map fun _ => decide (d.layoutMode = 1) := by
  show d.toggle.map _ = (d.toggle.map _).map _
  cases d.toggle <;> rfl

/-- Only the calls grow. -/
theorem KeybindsDialog.LayoutUnderWay.send (h : d.LayoutUnderWay) (call : DialogCall) :
    (d.send call).LayoutUnderWay :=
  Or.imp id (Or.imp (fun ⟨c, hc, hfor⟩ => ⟨c, List.mem_append_left _ hc, hfor⟩) id) h

/-- A reply that no layout waits for is taken. -/
theorem KeybindsDialog.LayoutUnderWay.tail (h : d.LayoutUnderWay) {r : DialogReply} {rest : List DialogReply}
    (hhead : d.replies = r :: rest) (hr : r.forLayout = false) :
    ({ d with replies := rest } : KeybindsDialog).LayoutUnderWay := by
  refine Or.imp id (Or.imp id ?_) h
  rintro ⟨x, hx, hfor⟩
  rw [hhead] at hx
  rcases List.mem_cons.mp hx with rfl | hrest
  · rw [hr] at hfor
    cases hfor
  · exact ⟨x, hrest, hfor⟩

/-- **A reading is asked for** by another method. -/
theorem LayoutRight.loadKeymap (h : LayoutRight d) {after : AfterLoad} (hother : ∀ t, after ≠ .layout t) :
    LayoutRight (d.loadKeymap after) := by
  cases hloading : d.loading with
  | true =>
      rw [KeybindsDialog.loadKeymap_of_loading hloading]
      cases after with
      | nothing => exact h
      | layout t => exact absurd rfl (hother t)
      | reset => exact ⟨h.answered, fun _ _ => toggle_updateLayoutToggle _, h.updating⟩
  | false =>
      rw [KeybindsDialog.loadKeymap_of_not_loading hloading]
      exact ⟨h.answered, nofun, fun hup => (h.updating hup).send _⟩

/-- **A layout is over**, or the keymap is read for it. -/
theorem LayoutRight.loadKeymap_layout (h : ∀ after, .notLoaded after ∉ d.replies) (toSwitch : Bool) :
    LayoutRight (d.loadKeymap (.layout toSwitch)) := by
  cases hloading : d.loading with
  | true =>
      rw [KeybindsDialog.loadKeymap_of_loading hloading]
      exact ⟨h, fun _ _ => toggle_updateLayoutToggle _, nofun⟩
  | false =>
      rw [KeybindsDialog.loadKeymap_of_not_loading hloading]
      exact ⟨h, nofun, fun _ => .inr (.inl ⟨_, List.mem_append_right _ (List.mem_singleton_self _), rfl⟩)⟩

/-- **A reply arrives.** -/
theorem LayoutRight.reply (h : LayoutRight d) {r : DialogReply} {rest : List DialogReply}
    (hhead : d.replies = r :: rest) : LayoutRight ({ d with replies := rest }.onReply r) := by
  have hanswered : ∀ after, .notLoaded after ∉ rest := fun after hmem =>
    h.answered after (hhead ▸ List.mem_cons_of_mem _ hmem)
  have hrest : r.forLayout = false → LayoutRight { d with replies := rest } := fun hr =>
    ⟨hanswered, h.toggle, fun hup => (h.updating hup).tail hhead hr⟩
  cases r with
  | loaded map after =>
      cases after with
      | nothing =>
          exact ⟨hanswered, fun _ _ => toggle_updateLayoutToggle _, (hrest rfl).updating⟩
      | layout toSwitch => exact ⟨hanswered, fun _ _ => toggle_updateLayoutToggle _, nofun⟩
      | reset => exact ⟨hanswered, fun _ _ => toggle_updateLayoutToggle _, (hrest rfl).updating⟩
  | notLoaded after => exact absurd (hhead ▸ List.mem_cons_self) (h.answered after)
  | done call =>
      cases call with
      | keybind phy log =>
          have hleft := hrest rfl
          exact ⟨hleft.answered, hleft.toggle, hleft.updating⟩
      | reset => exact (hrest rfl).loadKeymap nofun
      | layout toSwitch =>
          exact ⟨hanswered, h.toggle, fun _ =>
            .inl (List.append_ne_nil_of_right_ne_nil _ (List.cons_ne_nil _ _))⟩
  | failed call =>
      cases call with
      | keybind phy log => exact (hrest rfl).loadKeymap nofun
      | reset => exact hrest rfl
      | layout toSwitch => exact ⟨hanswered, fun _ _ => toggle_updateLayoutToggle _, nofun⟩

/-- **The bridge handles a call.** -/
theorem LayoutRight.handle (h : LayoutRight d) {call : DialogCall} {rest : List DialogCall}
    (hhead : d.calls = call :: rest) {available : Bool} (hok : (DialogMove.handle available).Orderly d) :
    LayoutRight ({ d with calls := rest }.serve available call) := by
  -- the reply is about a layout when the call was
  have hmoved : ∀ (slot : Slot) (fresh : Bool) (r : DialogReply), r.forLayout = call.forLayout →
      (∀ after, r ≠ .notLoaded after) →
      LayoutRight { d with calls := rest, slot := slot, fresh := fresh, replies := d.replies ++ [r] } := by
    intro slot fresh r hr hload
    refine ⟨fun after hmem => ?_, h.toggle, fun hup => Or.imp id ?_ (h.updating hup)⟩
    · rcases List.mem_append.mp hmem with hold | hnew
      · exact h.answered after hold
      · exact hload after (List.mem_singleton.mp hnew).symm
    · rintro (⟨c, hc, hfor⟩ | ⟨x, hx, hfor⟩)
      · rw [hhead] at hc
        rcases List.mem_cons.mp hc with rfl | hin
        · exact .inr ⟨r, List.mem_append_right _ (List.mem_singleton_self r), hr.trans hfor⟩
        · exact .inl ⟨c, hin, hfor⟩
      · exact .inr ⟨x, List.mem_append_left _ hx, hfor⟩
  cases call with
  | load after =>
      obtain ⟨rfl, -⟩ := hok after rest hhead
      exact hmoved d.slot true _ (by cases after <;> rfl) nofun
  | set call =>
      rcases serve_set { d with calls := rest } available call with ⟨-, hserve⟩ | ⟨slot, -, hserve⟩
      · rw [hserve]
        exact hmoved d.slot d.fresh _ (by cases call <;> rfl) nofun
      · rw [hserve]
        exact hmoved slot d.fresh _ (by cases call <;> rfl) nofun

/-- A row is changed. -/
theorem LayoutRight.select (h : LayoutRight d) (phy : Fin phyBtnCount) (selected : UInt8) :
    LayoutRight (d.onRowSelected phy selected) := by
  have hrows : LayoutRight { d with rows := Function.update d.rows phy selected } :=
    ⟨h.answered, h.toggle, h.updating⟩
  unfold KeybindsDialog.onRowSelected
  dsimp only
  split
  · exact hrows
  · split
    · exact ⟨hrows.answered, hrows.toggle, hrows.updating⟩
    · split
      · exact hrows
      · exact ⟨hrows.answered, hrows.toggle, fun hup => (hrows.updating hup).send _⟩

/-- A layout is chosen. -/
theorem LayoutRight.choose (h : LayoutRight d) (hupdating : d.layoutUpdating = false) (toSwitch : Bool) :
    LayoutRight (d.onToggle toSwitch) := by
  unfold KeybindsDialog.onToggle
  dsimp only
  rw [hupdating, Bool.false_or]
  split
  · rename_i hloading
    exact ⟨h.answered, fun hidle => absurd (hidle.symm.trans hloading) Bool.false_ne_true, nofun⟩
  · exact ⟨h.answered, nofun, fun _ =>
      .inr (.inl ⟨_, List.mem_append_right _ (List.mem_singleton_self _), rfl⟩)⟩

end Layout

/-! ## Every step -/

/-- **What a step does.** -/
inductive DialogStepped (d : KeybindsDialog) : DialogMove → KeybindsDialog → Prop
  | select (phy : Fin phyBtnCount) (selected : UInt8) (hrange : selected.toNat < logicalNamesLength) :
      DialogStepped d (.select phy selected) (d.onRowSelected phy selected)
  | toggle (toSwitch : Bool) (hidle : d.layoutUpdating = false) :
      DialogStepped d (.toggle toSwitch) (d.onToggle toSwitch)
  | reset : DialogStepped d .reset (d.send (.set .reset))
  | handle (available : Bool) (call : DialogCall) (rest : List DialogCall) (hhead : d.calls = call :: rest) :
      DialogStepped d (.handle available) ({ d with calls := rest }.serve available call)
  | reply (r : DialogReply) (rest : List DialogReply) (hhead : d.replies = r :: rest) :
      DialogStepped d .reply ({ d with replies := rest }.onReply r)
  | elapsed (toSwitch : Bool) (rest : List Bool) (hhead : d.asleep = toSwitch :: rest) :
      DialogStepped d .elapsed ({ d with asleep := rest }.loadKeymap (.layout toSwitch))
  | worker : DialogStepped d .worker { d with slot := processLayoutRequests d.slot }
  | others (slot : Slot) : DialogStepped d (.others slot) { d with slot := slot, fresh := false }

section Run

variable {d d' : KeybindsDialog}

theorem dialogStep_inv {move : DialogMove} (h : dialogStep move d = some d') :
    d.crashed = false ∧ DialogStepped d move d' := by
  unfold dialogStep at h
  split at h
  · cases h
  rename_i hcrashed
  refine ⟨Bool.not_eq_true _ ▸ hcrashed, ?_⟩
  cases move with
  | select phy selected =>
      dsimp only at h
      split at h
      · cases h
      · rename_i hnot
        obtain rfl := Option.some.inj h
        exact .select phy selected (Nat.not_le.mp fun hle => hnot (.inl hle))
  | toggle toSwitch =>
      dsimp only at h
      split at h
      · rename_i hallowed
        obtain rfl := Option.some.inj h
        exact .toggle toSwitch hallowed.2
      · cases h
  | handle available =>
      dsimp only at h
      split at h
      · cases h
      · rename_i call rest hhead
        obtain rfl := Option.some.inj h
        exact .handle available call rest hhead
  | reply =>
      dsimp only at h
      split at h
      · cases h
      · rename_i r rest hhead
        obtain rfl := Option.some.inj h
        exact .reply r rest hhead
  | elapsed =>
      dsimp only at h
      split at h
      · cases h
      · rename_i toSwitch rest hhead
        obtain rfl := Option.some.inj h
        exact .elapsed toSwitch rest hhead
  | reset =>
      obtain rfl := Option.some.inj h
      exact .reset
  | worker =>
      obtain rfl := Option.some.inj h
      exact .worker
  | others slot =>
      obtain rfl := Option.some.inj h
      exact .others slot

/-- **Every step that is in order keeps the invariants.** -/
theorem dialogKept_step (h : DialogKept d ∧ LayoutRight d) {move : DialogMove} (hok : move.Orderly d)
    (hstep : dialogStep move d = some d') : DialogKept d' ∧ LayoutRight d' := by
  obtain ⟨hkept, hlayout⟩ := h
  cases (dialogStep_inv hstep).2 with
  | select phy selected hrange => exact ⟨hkept.select hrange hok, hlayout.select phy selected⟩
  | toggle toSwitch hidle => exact ⟨hkept.toggle hidle toSwitch, hlayout.choose hidle toSwitch⟩
  | reset => exact ⟨hkept.reset, hlayout.answered, hlayout.toggle, fun hup => (hlayout.updating hup).send _⟩
  | handle available call rest hhead => exact ⟨hkept.handle hhead hok, hlayout.handle hhead hok⟩
  | reply r rest hhead => exact ⟨hkept.reply hhead, hlayout.reply hhead⟩
  | elapsed toSwitch rest hhead =>
      refine ⟨hkept.elapsed rest toSwitch, ?_⟩
      exact .loadKeymap_layout (d := { d with asleep := rest }) hlayout.answered toSwitch
  | worker => exact ⟨hkept.worker, hlayout.answered, hlayout.toggle, hlayout.updating⟩
  | others slot => exact ⟨hkept.others slot, hlayout.answered, hlayout.toggle, hlayout.updating⟩

theorem dialogKept_opened (h : d.Opened) : DialogKept d ∧ LayoutRight d := by
  refine ⟨.asked [] .nothing [] h.loading h.calls nofun nofun ?_, ?_, fun hidle => ?_, fun hup => ?_⟩
  · rw [h.replies]
    exact nofun
  · rw [h.replies]
    exact fun _ => List.not_mem_nil
  · exact absurd (hidle.symm.trans h.loading) Bool.false_ne_true
  · exact absurd (h.layoutUpdating.symm.trans hup) Bool.false_ne_true

/-- **What a dialog at rest shows.** -/
theorem shows_of_quiet (h : DialogKept d ∧ LayoutRight d) (hquiet : d.Quiet) : d.Shows := by
  obtain ⟨hkept, hlayout⟩ := h
  cases hkept with
  | asked before after later _ hcalls =>
      rw [hquiet.calls] at hcalls
      exact absurd hcalls.symm (List.append_ne_nil_of_right_ne_nil _ (List.cons_ne_nil _ _))
  | read before map after later _ hreplies =>
      rw [hquiet.replies] at hreplies
      exact absurd hreplies.symm (List.append_ne_nil_of_right_ne_nil _ (List.cons_ne_nil _ _))
  | idle map hloading hcurrent hcalls hreplies hstep =>
      have hnot : ¬d.ReadsAgain := by
        rintro (hasleep | ⟨r, hr, -⟩)
        · exact hasleep hquiet.asleep
        · rw [hquiet.replies] at hr
          cases hr
      have hstored : d.stored = [] := by
        unfold KeybindsDialog.stored
        rw [hquiet.replies]
        rfl
      have hsent : d.sent = [] := by
        unfold KeybindsDialog.sent
        rw [hquiet.calls]
        rfl
      have hmap : d.fresh = true → map = d.slot.keymap := by
        intro hfresh
        have hkeymap := (hstep hfresh hnot).keymap
        rw [hstored] at hkeymap
        exact hkeymap
      refine ⟨hlayout.toggle hloading ?_, fun hfresh => ?_, fun hfresh => ?_,
        fun hfresh => (hstep hfresh hnot).served⟩
      · by_contra hup
        rcases (hlayout.updating (Bool.not_eq_false _ ▸ hup)) with hasleep | ⟨c, hc, -⟩ | ⟨r, hr, -⟩
        · exact hasleep hquiet.asleep
        · rw [hquiet.calls] at hc
          cases hc
        · rw [hquiet.replies] at hr
          cases hr
      · have hrows := (hstep hfresh hnot).rows
        rw [hstored, hsent] at hrows
        rw [← hmap hfresh]
        exact hrows
      · rw [hcurrent, hmap hfresh]

/-- Replies and timers index nothing. -/
theorem crashed_loadKeymap (d : KeybindsDialog) (after : AfterLoad) :
    (d.loadKeymap after).crashed = d.crashed := by
  unfold KeybindsDialog.loadKeymap
  split
  · cases after <;> rfl
  · rfl

theorem crashed_onReply (d : KeybindsDialog) (r : DialogReply) : (d.onReply r).crashed = d.crashed := by
  match r with
  | .loaded map after => cases after <;> rfl
  | .notLoaded after => cases after <;> rfl
  | .done (.keybind _ _) | .done (.layout _) | .failed .reset | .failed (.layout _) => rfl
  | .done .reset => exact crashed_loadKeymap d .reset
  | .failed (.keybind _ _) => exact crashed_loadKeymap d .nothing

theorem crashed_serve (d : KeybindsDialog) (available : Bool) (call : DialogCall) :
    (d.serve available call).crashed = d.crashed := by
  cases call with
  | load after => cases available <;> rfl
  | set call =>
      rcases serve_set d available call with ⟨-, hserve⟩ | ⟨slot, -, hserve⟩
      · rw [hserve]
      · rw [hserve]

/-- **The null keymap is not indexed**: while no reading is under way there is one. -/
theorem crashed_step (h : DialogKept d) {move : DialogMove} (hstep : dialogStep move d = some d') :
    d'.crashed = false := by
  obtain ⟨hsound, hstepped⟩ := dialogStep_inv hstep
  cases hstepped with
  | select phy selected _ =>
      unfold KeybindsDialog.onRowSelected
      dsimp only
      split
      · exact hsound
      · rename_i hidle
        cases h with
        | idle map _ hcurrent =>
            rw [hcurrent]
            dsimp only
            split
            · exact hsound
            · exact hsound
        | asked _ _ _ hloading => exact absurd hloading hidle
        | read _ _ _ _ hloading => exact absurd hloading hidle
  | toggle toSwitch _ =>
      unfold KeybindsDialog.onToggle
      dsimp only
      split
      · exact hsound
      · exact hsound
  | handle available call rest _ => exact (crashed_serve _ available call).trans hsound
  | reply r rest _ => exact (crashed_onReply _ r).trans hsound
  | elapsed toSwitch rest _ => exact (crashed_loadKeymap _ _).trans hsound
  | reset | worker | others _ => exact hsound

end Run

/-! ## Coming to rest -/

/-- The steps that a call or a reply can still lead to, at most. -/
def DialogCall.work : DialogCall → Nat
  | .load _ => 2
  | .set _ => 5

def DialogReply.work : DialogReply → Nat
  | .loaded _ _ | .notLoaded _ => 1
  | .done _ | .failed _ => 4

/-- The work under way. -/
def KeybindsDialog.work (d : KeybindsDialog) : Nat :=
  (d.calls.map DialogCall.work).sum + (d.replies.map DialogReply.work).sum + 3 * d.asleep.length

section Rest

variable {d d' : KeybindsDialog}

theorem work_loadKeymap (d : KeybindsDialog) (after : AfterLoad) : (d.loadKeymap after).work ≤ d.work + 2 := by
  unfold KeybindsDialog.loadKeymap
  split
  · have hsame : (d.afterLoad after).work = d.work := by
      cases after <;> rfl
    omega
  · simp only [KeybindsDialog.work, KeybindsDialog.send, DialogCall.work, List.map_append, List.map_cons,
      List.map_nil, List.sum_append, List.sum_cons, List.sum_nil]
    omega

theorem work_serve (d : KeybindsDialog) (available : Bool) (call : DialogCall) :
    (d.serve available call).work < d.work + call.work := by
  have hreply : ∀ (slot : Slot) (fresh : Bool) (r : DialogReply),
      ({ d with slot := slot, fresh := fresh, replies := d.replies ++ [r] } : KeybindsDialog).work =
        d.work + r.work := by
    intro slot fresh r
    simp only [KeybindsDialog.work, List.map_append, List.map_cons, List.map_nil, List.sum_append, List.sum_cons,
      List.sum_nil]
    omega
  cases call with
  | load after =>
      cases available with
      | true => exact lt_of_eq_of_lt (hreply d.slot true _) (Nat.add_lt_add_left (Nat.lt_succ_self _) _)
      | false => exact lt_of_eq_of_lt (hreply d.slot d.fresh _) (Nat.add_lt_add_left (Nat.lt_succ_self _) _)
  | set call =>
      rcases serve_set d available call with ⟨-, hserve⟩ | ⟨slot, -, hserve⟩
      · rw [hserve]
        exact lt_of_eq_of_lt (hreply d.slot d.fresh _) (Nat.add_lt_add_left (Nat.lt_succ_self _) _)
      · rw [hserve]
        exact lt_of_eq_of_lt (hreply slot d.fresh _) (Nat.add_lt_add_left (Nat.lt_succ_self _) _)

theorem work_onReply (d : KeybindsDialog) (r : DialogReply) : (d.onReply r).work < d.work + r.work := by
  match r with
  | .loaded map after => cases after <;> exact Nat.lt_succ_self _
  | .notLoaded after => cases after <;> exact Nat.lt_succ_self _
  | .done (.keybind _ _) | .failed .reset | .failed (.layout _) => exact Nat.lt_add_of_pos_right (Nat.succ_pos 3)
  | .done (.layout toSwitch) =>
      show (d.calls.map _).sum + (d.replies.map _).sum + 3 * (d.asleep ++ [toSwitch]).length < _
      rw [List.length_append, List.length_singleton]
      simp only [KeybindsDialog.work, DialogReply.work]
      omega
  | .done .reset => exact lt_of_le_of_lt (work_loadKeymap d .reset) (Nat.add_lt_add_left (show 2 < 4 by decide) _)
  | .failed (.keybind _ _) =>
      exact lt_of_le_of_lt (work_loadKeymap d .nothing) (Nat.add_lt_add_left (show 2 < 4 by decide) _)

/-- **Every step of its own leaves less to do.** -/
theorem work_step {move : DialogMove} (hown : move.Own) (hstep : dialogStep move d = some d') :
    d'.work < d.work := by
  cases (dialogStep_inv hstep).2 with
  | handle available call rest hhead =>
      have hwork : d.work = ({ d with calls := rest } : KeybindsDialog).work + call.work := by
        simp only [KeybindsDialog.work, hhead, List.map_cons, List.sum_cons]
        omega
      rw [hwork]
      exact work_serve _ available call
  | reply r rest hhead =>
      have hwork : d.work = ({ d with replies := rest } : KeybindsDialog).work + r.work := by
        simp only [KeybindsDialog.work, hhead, List.map_cons, List.sum_cons]
        omega
      rw [hwork]
      exact work_onReply _ r
  | elapsed toSwitch rest hhead =>
      have hwork : d.work = ({ d with asleep := rest } : KeybindsDialog).work + 3 := by
        simp only [KeybindsDialog.work, hhead, List.length_cons]
        omega
      rw [hwork]
      exact lt_of_le_of_lt (work_loadKeymap _ _) (Nat.lt_succ_self _)
  | select _ _ _ | toggle _ _ | reset | worker | others _ => exact hown.elim

/-- At rest nothing is under way. -/
theorem quiet_of_atRest (hsound : d.crashed = false) (h : AtRest dialogStep DialogMove.Own d) : d.Quiet := by
  have henabled : ∀ move, move.Own → (dialogStep move d).isSome = false := fun move hown => by
    rw [h move hown]
    rfl
  refine ⟨?_, ?_, ?_⟩
  · have hnone := henabled (.handle true) trivial
    simp only [dialogStep, hsound] at hnone
    cases hcalls : d.calls with
    | nil => rfl
    | cons call rest => simp [hcalls] at hnone
  · have hnone := henabled .reply trivial
    simp only [dialogStep, hsound] at hnone
    cases hreplies : d.replies with
    | nil => rfl
    | cons r rest => simp [hreplies] at hnone
  · have hnone := henabled .elapsed trivial
    simp only [dialogStep, hsound] at hnone
    cases hasleep : d.asleep with
    | nil => rfl
    | cons toSwitch rest => simp [hasleep] at hnone

end Rest

/-- **The keybinds dialog shows the keymap.**  From its opening, over every interleaving of what the user clicks
with the bridge, the worker, the replies, the timers and other front ends, as long as the steps are in order: a
null keymap is never indexed, what is under way ends, and as soon as nothing is, the buttons show the layout mode
and the rows the slot's keymap, unless somebody else has written since it was read. -/
theorem keybindsDialog_shows {d₀ d : KeybindsDialog} (hopened : d₀.Opened)
    (hrun : Run dialogStep DialogMove.Orderly d₀ d) :
    d.crashed = false ∧ Settles dialogStep DialogMove.Own d ∧
      (AtRest dialogStep DialogMove.Own d → d.Shows) := by
  have hinvariant : d.crashed = false ∧ DialogKept d ∧ LayoutRight d :=
    hrun.invariant (I := fun d => d.crashed = false ∧ DialogKept d ∧ LayoutRight d)
      (fun _ _ _ h hok hstep => ⟨crashed_step h.2.1 hstep, dialogKept_step h.2 hok hstep⟩)
      ⟨hopened.crashed, dialogKept_opened hopened⟩
  refine ⟨hinvariant.1, ?_, fun hrest => shows_of_quiet hinvariant.2 (quiet_of_atRest hinvariant.1 hrest)⟩
  exact settles_of_measure KeybindsDialog.work (I := fun _ => True) (fun _ _ _ _ _ _ => trivial)
    (fun _ _ _ _ hown hstep => work_step hown hstep) trivial

/-! ## Runs -/

section Runs

instance (slot : Slot) : Decidable (NoRequests slot) :=
  decidable_of_iff (slot.requestSwitchLayout = false ∧ slot.requestXboxLayout = false ∧
    slot.requestResetAllKeybinds = false) ⟨fun ⟨a, b, c⟩ => ⟨a, b, c⟩, fun ⟨a, b, c⟩ => ⟨a, b, c⟩⟩

/-- A test for the moves in order. -/
def dialogTest (move : DialogMove) (d : KeybindsDialog) : Bool :=
  match move with
  | .select phy selected =>
      d.loading || decide (d.current.map (fun map => map phy) ≠ some selected) ||
        (d.stored ++ d.sent).all fun bind => bind.1 != phy
  | .handle available =>
      match d.calls with
      | .load _ :: _ => available && decide (NoRequests d.slot)
      | _ => true
  | _ => true

theorem dialogOrderly_of_test (move : DialogMove) (d : KeybindsDialog) (h : dialogTest move d = true) :
    move.Orderly d := by
  cases move with
  | select phy selected =>
      simp only [dialogTest, Bool.or_eq_true, decide_eq_true_eq, List.all_eq_true, bne_iff_ne] at h
      rcases h with (hloading | hother) | hnone
      · exact .inl hloading
      · exact .inr (.inl hother)
      · exact .inr (.inr fun log hmem => hnone _ hmem rfl)
  | handle available =>
      intro after rest hcalls
      simp only [dialogTest, hcalls, Bool.and_eq_true, decide_eq_true_eq] at h
      exact h
  | toggle _ | reset | reply | elapsed | worker | others _ => trivial

/-- The dialog of a Pro Controller, just opened. -/
def openedDialog : KeybindsDialog where
  current := none
  rows := fun _ => 0
  loading := true
  layoutUpdating := false
  toggle := some false
  layoutMode := 0
  controllerKeymap := fun _ => 0
  crashed := false
  slot := pluggedSlot
  calls := [.load .nothing]
  replies := []
  asleep := []
  fresh := false

/-- Nothing under way, and nobody else has written. -/
def KeybindsDialog.restsFresh (d : KeybindsDialog) : Bool :=
  d.calls.isEmpty && d.replies.isEmpty && d.asleep.isEmpty && d.fresh

theorem quiet_of_restsFresh {d : KeybindsDialog} (h : d.restsFresh = true) : d.Quiet ∧ d.fresh = true := by
  simp only [KeybindsDialog.restsFresh, Bool.and_eq_true, List.isEmpty_iff] at h
  exact ⟨⟨h.1.1.1, h.1.1.2, h.1.2⟩, h.2⟩

theorem atRest_of_quiet {d : KeybindsDialog} (h : d.Quiet) : AtRest dialogStep DialogMove.Own d := by
  intro move hown
  unfold dialogStep
  split
  · rfl
  · cases move with
    | handle available =>
        dsimp only
        rw [h.calls]
    | reply =>
        dsimp only
        rw [h.replies]
    | elapsed =>
        dsimp only
        rw [h.asleep]
    | select _ _ | toggle _ | reset | worker | others _ => exact hown.elim

/-- L1 is bound to R1 and the switch layout chosen, both before the first reply. -/
theorem keybindsDialog_shows_switch : openedDialog.Opened ∧
    ∃ d, Run dialogStep DialogMove.Orderly openedDialog d ∧ d.fresh = true ∧ d.rows 4 = 6 ∧ d.toggle = some true ∧
      d.crashed = false ∧ d.Shows := by
  obtain ⟨d, hrun, hd⟩ : ∃ d, Run dialogStep DialogMove.Orderly openedDialog d ∧
      (d.restsFresh && d.rows 4 == 6 && d.toggle == some true) = true :=
    exists_run_of_exec_checked dialogOrderly_of_test
      (p := fun d : KeybindsDialog => d.restsFresh && d.rows 4 == 6 && d.toggle == some true)
      [.handle true, .reply, .select 4 6, .toggle true, .handle true, .handle true, .worker, .reply, .reply,
        .elapsed, .handle true, .reply]
      (by decide +kernel)
  simp only [Bool.and_eq_true, beq_iff_eq] at hd
  obtain ⟨⟨hrest, hrow⟩, htoggle⟩ := hd
  obtain ⟨hquiet, hfresh⟩ := quiet_of_restsFresh hrest
  have hopened : openedDialog.Opened := ⟨rfl, rfl, rfl, rfl, rfl, rfl, rfl⟩
  obtain ⟨hsound, -, hshows⟩ := keybindsDialog_shows hopened hrun
  exact ⟨hopened, d, hrun, hfresh, hrow, htoggle, hsound, hshows (atRest_of_quiet hquiet)⟩

/-- **A row set back too early**: L1 to R1 and back before the first reply, and the row shows L1 where the slot
has R1. -/
theorem set_back_out_of_step : ∃ d, Run dialogStep free openedDialog d ∧ d.Quiet ∧ d.fresh = true ∧
    d.rows 4 = 5 ∧ d.slot.keymap 4 = 6 := by
  obtain ⟨d, hrun, hd⟩ : ∃ d, Run dialogStep free openedDialog d ∧
      (d.restsFresh && d.rows 4 == 5 && d.slot.keymap 4 == 6) = true :=
    exists_run_of_exec (p := fun d : KeybindsDialog => d.restsFresh && d.rows 4 == 5 && d.slot.keymap 4 == 6)
      [.handle true, .reply, .select 4 6, .select 4 5, .handle true, .reply] (by decide +kernel)
  simp only [Bool.and_eq_true, beq_iff_eq] at hd
  obtain ⟨⟨hrest, hrow⟩, hslot⟩ := hd
  obtain ⟨hquiet, hfresh⟩ := quiet_of_restsFresh hrest
  exact ⟨d, hrun, hquiet, hfresh, hrow, hslot⟩

/-- **The first reading fails**, and the first change of a row indexes the null keymap. -/
theorem first_reading_failed : ∃ d, Run dialogStep free openedDialog d ∧ d.crashed = true :=
  exists_run_of_exec [.handle false, .reply, .select 4 6] (by decide +kernel)

/-- **A reset in the 300 ms of a layout**, with every step in order: the buttons show the switch layout, and the
slot has the default keymap. -/
theorem reset_in_layout_delay : ∃ d, Run dialogStep DialogMove.Orderly openedDialog d ∧ d.Quiet ∧ d.fresh = true ∧
    d.toggle = some true ∧ d.slot.keymap = keysGetDefaultMap := by
  obtain ⟨d, hrun, hd⟩ : ∃ d, Run dialogStep DialogMove.Orderly openedDialog d ∧
      (d.restsFresh && d.toggle == some true && decide (d.slot.keymap = keysGetDefaultMap)) = true :=
    exists_run_of_exec_checked dialogOrderly_of_test
      (p := fun d : KeybindsDialog =>
        d.restsFresh && d.toggle == some true && decide (d.slot.keymap = keysGetDefaultMap))
      [.handle true, .reply, .toggle true, .handle true, .worker, .reply, .reset, .handle true, .reply,
        .handle true, .reply, .elapsed, .handle true, .reply]
      (by decide +kernel)
  simp only [Bool.and_eq_true, beq_iff_eq, decide_eq_true_eq] at hd
  obtain ⟨⟨hrest, htoggle⟩, hkeymap⟩ := hd
  obtain ⟨hquiet, hfresh⟩ := quiet_of_restsFresh hrest
  exact ⟨d, hrun, hquiet, hfresh, htoggle, hkeymap⟩

end Runs

end Dstx
