/-
# Dstx.Commands.UiLoop — the main loop of the text user interface (`run_ui_loop`, `display.c`).

Each iteration takes a SNAPSHOT of the shared memory, draws it, and then waits up to 50 ms for one key.  A key
goes to the overlay that is open (help, info, profile list), else to the selection (arrows) or to the command
line.  A finished line is executed at once: the commands of the interface itself, the profile commands, and the
slot commands of `uiSlotBranches`, which work on the LIVE slot whose index the snapshot gave.

Between the snapshot and the key the daemon and the other clients write as they like, so an iteration is two
steps here, `look` and `key`, and `others` may come in between.

What is selected is remembered as a device PATH, not as an index; every `look` finds the index again.  So the
arrows, which walk round the connected slots of the snapshot, are only as good as the paths are distinct
(`ui_arrows_go_round`).  With no slot selected the index is -1, which C's remainder does not bring back into
range: `arrowFind` can look at `slots[-1]` (`arrowFind_outside_iff`).
-/
import Dstx.Commands.Changes
import Dstx.Profile.Request
import Dstx.Lib.Ring
import Dstx.Lib.Run

namespace Dstx

open Dstx.Lib

/-! ## State -/

/-- `MY_MAX_INPUT`. -/
def myMaxInput : Nat := 256

/-- `TOTAL_HELP_PAGES`. -/
def totalHelpPages : Nat := 4

/-- What the interface reads of a slot; `dev_path` has 128 bytes. -/
structure UiSlot where
  slot : Slot
  devPath : CStr
  fits : devPath.length < 128

/-- The slots, in shared memory or in a snapshot. -/
abbrev UiSlots := Fin maxSlots → UiSlot

/-- `connected` of every slot. -/
def UiSlots.connected (slots : UiSlots) (i : Fin maxSlots) : Bool := (slots i).slot.connected

/-- The slots after `stop_service`. -/
def UiSlots.disconnectAll (slots : UiSlots) : UiSlots := fun i =>
  { slots i with slot := { (slots i).slot with connected := false } }

/-- The slots after a slot command on one of them. -/
def UiSlots.command (slots : UiSlots) (i : Fin maxSlots) (line : CStr) : UiSlots :=
  match runUiSlotCommand (slots i).slot line with
  | some slot => Function.update slots i { slots i with slot := slot }
  | none => slots

/-- **What the interface remembers** from one iteration to the next. -/
structure Ui where
  keepRunning : Bool
  /-- `cmd_line`, `cmd_len` characters. -/
  cmdLine : CStr
  selectedDevPath : CStr
  helpMode : Bool
  helpPage : Nat
  infoMode : Bool
  listMode : Bool

/-- What an iteration has found out before it waits for a key. -/
structure UiView where
  /-- `shm_ptr != NULL`. -/
  mapped : Bool
  snap : UiSlots
  /-- `current_idx`; -1 is `none`. -/
  currentIdx : Option (Fin maxSlots)

/-- Where the loop is. -/
inductive UiPhase where
  | head
  | waiting (view : UiView)
  /-- It has looked at `slots[t]` outside the array. -/
  | outside (t : Int)

/-- What an executed line asks of the others. -/
inductive UiRequest where
  | profile (call : Call)
  | startService
  /-- With the mapping, it disconnects the slots. -/
  | stopService (mapped : Bool)
  | setup
  /-- A slot command, for the slot the snapshot showed; it works on the live one. -/
  | slot (i : Fin maxSlots) (line : CStr) (shown : UiSlot)

/-- **The interface and the shared memory.**  `log` and `turns` are ghosts: what was asked for, and how many
more times the selection was moved to the right than to the left. -/
structure UiWorld where
  slots : UiSlots
  ui : Ui
  phase : UiPhase
  log : List UiRequest
  turns : Int

/-- The interface as it starts. -/
def startedUi (slots : UiSlots) : UiWorld where
  slots := slots
  ui := ⟨true, [], [], false, 0, false, false⟩
  phase := .head
  log := []
  turns := 0

/-! ## The selection -/

/-- **`update_and_get_slot_idx`**: the connected slot with the selected path; else the first connected slot
with a path, which is selected then. -/
def updateAndGetSlotIdx (snap : UiSlots) (selected : CStr) : Option (Fin maxSlots) × CStr :=
  let again :=
    if selected ≠ [] then
      (List.finRange maxSlots).find? fun i => (snap i).slot.connected && (snap i).devPath == selected
    else none
  match again with
  | some i => (some i, selected)
  | none =>
      match (List.finRange maxSlots).find? fun i => (snap i).slot.connected && (snap i).devPath != [] with
      | some i => (some i, strncpy 128 (snap i).devPath)
      | none => (none, selected)

/-- `current_idx` as the `int` it is. -/
def currentIdxInt : Option (Fin maxSlots) → Int
  | some i => i
  | none => -1

/-- `t = (current_idx + (step * i) + MAX_SLOTS) % MAX_SLOTS`: C's remainder has the sign of the dividend. -/
def arrowTarget (currentIdx step : Int) (i : Nat) : Int := (currentIdx + step * i + maxSlots).tmod maxSlots

/-- What the search of an arrow key comes to. -/
inductive ArrowFind where
  | found (t : Fin maxSlots)
  | nothing
  /-- It reads `snap.slots[t]` for a `t` that is no index. -/
  | outside (t : Int)
  deriving DecidableEq

/-- The search, for the values of `i` that are left. -/
def arrowFindFrom (connected : Fin maxSlots → Bool) (currentIdx step : Int) : List Nat → ArrowFind
  | [] => .nothing
  | i :: is =>
      let t := arrowTarget currentIdx step i
      if h : 0 ≤ t ∧ t < maxSlots then
        if connected ⟨t.toNat, (Int.toNat_lt h.1).mpr h.2⟩ then .found ⟨t.toNat, (Int.toNat_lt h.1).mpr h.2⟩
        else arrowFindFrom connected currentIdx step is
      else .outside t

/-- **The search of an arrow key.** -/
def arrowFind (connected : Fin maxSlots → Bool) (currentIdx : Option (Fin maxSlots)) (step : Int) : ArrowFind :=
  arrowFindFrom connected (currentIdxInt currentIdx) step (List.range' 1 maxSlots)

/-! ## Lines -/

/-- `%31s` and `%63s`: white space, and then at most `width` other characters. -/
def scanWord (width : Nat) (s : CStr) : Option (CStr × CStr) :=
  let rest := s.dropWhile isSpaceC
  let word := (rest.takeWhile fun c => !isSpaceC c).take width
  if word = [] then none else some (word, rest.drop word.length)

/-- `sscanf(cmd_line + 8, "%31s %63s", subcmd, arg)`; a `subcmd` that is not filled keeps what was there. -/
def scanSubcommand (stale rest : CStr) : CStr × Option CStr :=
  match scanWord 31 rest with
  | none => (stale, none)
  | some (subcmd, rest) => (subcmd, (scanWord 63 rest).map Prod.fst)

/-- **`profile `**: the request it makes, if it is not a usage message. -/
def uiProfileCall (stale rest : CStr) : Option Call :=
  match scanSubcommand stale rest with
  | (subcmd, some arg) =>
      if subcmd = "load".toList then some ⟨.load, some arg, -1, -1⟩
      else if subcmd = "save".toList then some ⟨.save, some arg, -1, -1⟩
      else if subcmd = "delete".toList then some ⟨.delete, some arg, -1, -1⟩
      else if subcmd = "list".toList then some ⟨.list, none, -1, -1⟩
      else none
  | (subcmd, none) => if subcmd = "list".toList then some ⟨.list, none, -1, -1⟩ else none

/-- `sscanf(cmd_line, "auto-save delay %d", &delay)`, behind `auto-save`: a blank of the format takes any
amount of white space. -/
def scanAutoSaveDelay (rest : CStr) : Option Int :=
  let rest := rest.dropWhile isSpaceC
  if "delay".toList.isPrefixOf rest then (scanInt (rest.drop 5)).map Prod.fst else none

/-- **`auto-save`**. -/
def uiAutoSaveCall (line : CStr) : Option Call :=
  if line = "auto-save on".toList then some ⟨.setAutoSave, none, 1, -1⟩
  else if line = "auto-save off".toList then some ⟨.setAutoSave, none, 0, -1⟩
  else
    match scanAutoSaveDelay (line.drop 9) with
    | some delay => if 100 ≤ delay ∧ delay ≤ 10000 then some ⟨.setAutoSave, none, -1, delay⟩ else none
    | none => none

/-- What reading the terminal and asking the daemon give in an iteration: the key, the two bytes read behind an
escape, what an unfilled `subcmd` holds, and how `profile_request_sync` answers. -/
structure UiRead where
  c : Char
  seq : Option (Char × Char)
  stale : CStr
  ok : Bool
  respMsg : CStr

namespace UiWorld

/-- Something was asked for. -/
def ask (w : UiWorld) (r : UiRequest) : UiWorld := { w with log := w.log ++ [r] }

/-- The interface's own variables change. -/
def setUi (w : UiWorld) (u : Ui) : UiWorld := { w with ui := u }

/-- `profile_request_sync`: nothing is posted without a mapping. -/
def postCall (w : UiWorld) (v : UiView) (call : Call) : UiWorld :=
  if v.mapped then w.ask (.profile call) else w

/-- `display_show_profiles`, when the condition holds. -/
def showProfiles (w : UiWorld) (shown : Bool) : UiWorld :=
  if shown then w.setUi { w.ui with listMode := true } else w

/-- **`stop_service`**; and the selection is forgotten. -/
def stopService (w : UiWorld) (v : UiView) : UiWorld :=
  { w.ask (.stopService v.mapped) with
    slots := if v.mapped then w.slots.disconnectAll else w.slots
    ui := { w.ui with selectedDevPath := [] } }

/-- **A slot command**, on the live slot. -/
def slotCommand (w : UiWorld) (v : UiView) (i : Fin maxSlots) (line : CStr) : UiWorld :=
  { w.ask (.slot i line (v.snap i)) with slots := w.slots.command i line }

/-- **The execution of a line.** -/
def executeLine (w : UiWorld) (v : UiView) (r : UiRead) (line : CStr) : UiWorld :=
  if line = "exit".toList ∨ line = "q".toList then w.setUi { w.ui with keepRunning := false }
  else if line = "info".toList then w.setUi { w.ui with infoMode := true }
  else if line = "profiles".toList then
    (w.postCall v ⟨.list, none, -1, -1⟩).showProfiles (v.mapped && r.ok && decide (r.respMsg ≠ []))
  else if line = "start".toList then w.ask .startService
  else if line = "stop".toList then w.stopService v
  else if line = "setup".toList then w.ask .setup
  else if line = "help".toList then w.setUi { w.ui with helpMode := true, helpPage := 0 }
  else if "profile ".toList.isPrefixOf line then
    match uiProfileCall r.stale (line.drop 8) with
    | some call =>
        (w.postCall v call).showProfiles (decide (call.request = .list) && decide (r.respMsg ≠ []))
    | none => w
  else if "auto-save".toList.isPrefixOf line then
    match uiAutoSaveCall line with
    | some call => w.postCall v call
    | none => w
  else
    match v.currentIdx with
    | some i => w.slotCommand v i line
    | none => w

/-- The line is executed and cleared. -/
def enter (w : UiWorld) (v : UiView) (r : UiRead) : UiWorld :=
  let w := w.executeLine v r w.ui.cmdLine
  w.setUi { w.ui with cmdLine := [] }

/-! ## Keys -/

/-- A key in the help: the arrows turn the pages, every key but escape closes it. -/
def helpKey (w : UiWorld) (r : UiRead) : UiWorld :=
  if r.c = '\x1b' then
    match r.seq with
    | some ('[', 'C') =>
        if w.ui.helpPage + 1 < totalHelpPages then w.setUi { w.ui with helpPage := w.ui.helpPage + 1 } else w
    | some ('[', 'D') => w.setUi { w.ui with helpPage := w.ui.helpPage - 1 }
    | _ => w
  else w.setUi { w.ui with helpMode := false }

/-- The selection moves to a slot of the snapshot. -/
def selectSlot (w : UiWorld) (v : UiView) (t : Fin maxSlots) (turn : Int) : UiWorld :=
  { w.setUi { w.ui with selectedDevPath := strncpy 128 (v.snap t).devPath } with turns := w.turns + turn }

/-- An arrow key. -/
def arrowKey (w : UiWorld) (v : UiView) (step : Int) : UiWorld :=
  match arrowFind v.snap.connected v.currentIdx step with
  | .found t => w.selectSlot v t step
  | .nothing => w
  | .outside t => { w with phase := .outside t }

/-- An escape sequence: only its last byte is looked at. -/
def escapeKey (w : UiWorld) (v : UiView) (r : UiRead) : UiWorld :=
  match r.seq with
  | some (_, last) =>
      if last = 'C' ∧ v.mapped = true then w.arrowKey v 1
      else if last = 'D' ∧ v.mapped = true then w.arrowKey v (-1)
      else w
  | none => w

/-- `isprint`. -/
def isPrintC (c : Char) : Bool := decide (' ' ≤ c) && decide (c ≤ '~')

/-- A key on the command line. -/
def lineKey (w : UiWorld) (v : UiView) (r : UiRead) : UiWorld :=
  let line := w.ui.cmdLine
  if r.c = '\n' ∨ r.c = '\r' then if line = [] then w else w.enter v r
  else if (r.c = '\x7f' ∨ r.c = '\x08') ∧ line ≠ [] then w.setUi { w.ui with cmdLine := line.dropLast }
  else if line.length < myMaxInput - 1 ∧ isPrintC r.c = true then w.setUi { w.ui with cmdLine := line ++ [r.c] }
  else w

/-- **A key**, by the order in which the loop asks for it. -/
def key (w : UiWorld) (v : UiView) (r : UiRead) : UiWorld :=
  let w := { w with phase := .head }
  if w.ui.helpMode then w.helpKey r
  else if w.ui.infoMode then w.setUi { w.ui with infoMode := false }
  else if w.ui.listMode then w.setUi { w.ui with listMode := false }
  else if r.c = '\x1b' then w.escapeKey v r
  else w.lineKey v r

/-- The head of an iteration. -/
def look (w : UiWorld) (mapped taken alive : Bool) (stale : UiSlots) : UiWorld :=
  let snap := if taken then w.slots else stale
  if alive then
    let found := updateAndGetSlotIdx snap w.ui.selectedDevPath
    { w.setUi { w.ui with selectedDevPath := found.2 } with phase := .waiting ⟨mapped, snap, found.1⟩ }
  else { w with phase := .waiting ⟨mapped, snap, none⟩ }

end UiWorld

/-- What can happen next. -/
inductive UiMove where
  /-- The daemon or another client writes the shared memory. -/
  | others (slots : UiSlots)
  /-- The window is too small, and nothing else is done. -/
  | tooSmall
  /-- The snapshot, if it is taken, and the index, if the daemon is alive; a snapshot that is not taken is what
  the stack holds. -/
  | look (mapped taken alive : Bool) (stale : UiSlots)
  /-- No key within 50 ms. -/
  | timeout
  | key (r : UiRead)

/-- **One step of the interface or of the others.** -/
def uiStep (move : UiMove) (w : UiWorld) : Option UiWorld :=
  match move, w.phase with
  | .others slots, _ => some { w with slots := slots }
  | .tooSmall, .head => if w.ui.keepRunning then some w else none
  | .look mapped taken alive stale, .head =>
      if w.ui.keepRunning ∧ (taken = true → mapped = true) ∧ (alive = true → taken = true) then
        some (w.look mapped taken alive stale)
      else none
  | .timeout, .waiting _ => some { w with phase := .head }
  | .key r, .waiting v => some (w.key v r)
  | _, _ => none

/-! ## The arrows -/

instance : NeZero maxSlots := ⟨maxSlots_pos.ne'⟩

/-- The result of a search of a list. -/
def ArrowFind.ofOption : Option (Fin maxSlots) → ArrowFind
  | some t => .found t
  | none => .nothing

theorem ArrowFind.ofOption_ne_outside (o : Option (Fin maxSlots)) : ¬∃ t, ofOption o = .outside t := by
  rintro ⟨t, h⟩
  cases o <;> cases h

/-- A search whose targets are all indices is a search of a list of indices. -/
theorem arrowFindFrom_eq {connected : Fin maxSlots → Bool} {currentIdx step : Int} {f : Nat → Fin maxSlots}
    {ks : List Nat} (h : ∀ k ∈ ks, arrowTarget currentIdx step k = (f k : Nat)) :
    arrowFindFrom connected currentIdx step ks = .ofOption ((ks.map f).find? connected) := by
  induction ks with
  | nil => rfl
  | cons k ks ih =>
      have htarget := h k List.mem_cons_self
      have hrange : 0 ≤ arrowTarget currentIdx step k ∧ arrowTarget currentIdx step k < maxSlots := by
        rw [htarget]
        exact ⟨Int.natCast_nonneg _, by exact_mod_cast (f k).isLt⟩
      have hindex : (⟨(arrowTarget currentIdx step k).toNat, (Int.toNat_lt hrange.1).mpr hrange.2⟩ :
          Fin maxSlots) = f k := Fin.ext (by simp [htarget])
      unfold arrowFindFrom
      simp only [dif_pos hrange, hindex, List.map_cons, List.find?_cons]
      cases connected (f k) with
      | true => rfl
      | false => exact ih fun k hk => h k (List.mem_cons_of_mem _ hk)

/-- **From a selected slot the arrows look round the ring.** -/
theorem arrowFind_right (connected : Fin maxSlots → Bool) (i : Fin maxSlots) :
    arrowFind connected (some i) 1 = .ofOption (seek maxSlots connected 1 i) := by
  have htargets : ∀ i : Fin maxSlots, ∀ k ∈ List.range' 1 maxSlots,
      arrowTarget (currentIdxInt (some i)) 1 k = ((i + k • (1 : Fin maxSlots) : Fin maxSlots) : Nat) := by decide
  exact arrowFindFrom_eq (f := fun k => i + k • 1) (htargets i)

theorem arrowFind_left (connected : Fin maxSlots → Bool) (i : Fin maxSlots) :
    arrowFind connected (some i) (-1) = .ofOption (seek maxSlots connected (-1) i) := by
  have htargets : ∀ i : Fin maxSlots, ∀ k ∈ List.range' 1 maxSlots,
      arrowTarget (currentIdxInt (some i)) (-1) k = ((i + k • (-1 : Fin maxSlots) : Fin maxSlots) : Nat) := by
    decide
  exact arrowFindFrom_eq (f := fun k => i + k • (-1)) (htargets i)

/-- The slots as the ring that the arrows go round. -/
def slotRing (connected : Fin maxSlots → Bool) : Equiv.Perm {i // connected i = true} :=
  ring connected maxSlots_pos (show maxSlots • (1 : Fin maxSlots) = 0 by decide)

/-- Every connected slot is on it. -/
theorem slotRing_isCycleOn (connected : Fin maxSlots → Bool) : (slotRing connected).IsCycleOn Set.univ :=
  ring_isCycleOn connected maxSlots_pos _ (by decide)

/-- An arrow moves along the ring. -/
theorem arrowFind_ring (connected : Fin maxSlots → Bool) (i : {i // connected i = true}) {step : Int}
    (hstep : step = 1 ∨ step = -1) :
    arrowFind connected (some i.1) step = .found ((slotRing connected ^ step) i).1 := by
  rcases hstep with rfl | rfl
  · rw [arrowFind_right, seek_ring connected maxSlots_pos (by decide) i, zpow_one]
    rfl
  · rw [arrowFind_left, seek_ring_inv connected maxSlots_pos (by decide) i, zpow_neg_one]
    rfl

/-- With no slot selected, the left arrow looks at slots 2, 1 and 0, and then outside the array. -/
theorem arrowFind_left_none (connected : Fin maxSlots → Bool) :
    arrowFind connected none (-1) =
      if connected 2 then .found 2 else if connected 1 then .found 1 else if connected 0 then .found 0
      else .outside (-1) := rfl

/-- **When an arrow leaves the array**: to the left, with no slot selected and the first three not connected. -/
theorem arrowFind_outside_iff (connected : Fin maxSlots → Bool) (currentIdx : Option (Fin maxSlots))
    {step : Int} (hstep : step = 1 ∨ step = -1) :
    (∃ t, arrowFind connected currentIdx step = .outside t) ↔
      currentIdx = none ∧ step = -1 ∧ connected 0 = false ∧ connected 1 = false ∧ connected 2 = false := by
  cases currentIdx with
  | some i =>
      rcases hstep with rfl | rfl
      · simp [arrowFind_right, ArrowFind.ofOption_ne_outside]
      · simp [arrowFind_left, ArrowFind.ofOption_ne_outside]
  | none =>
      rcases hstep with rfl | rfl
      · have htargets : ∀ k ∈ List.range' 1 maxSlots, arrowTarget (currentIdxInt none) 1 k =
            ((k • (1 : Fin maxSlots) - 1 : Fin maxSlots) : Nat) := by decide
        rw [arrowFind, arrowFindFrom_eq htargets]
        simp [ArrowFind.ofOption_ne_outside]
      · rw [arrowFind_left_none]
        cases connected 0 <;> cases connected 1 <;> cases connected 2 <;> simp

/-! ## What a line does -/

theorem SlotChange.connected_apply (change : SlotChange) (slot : Slot) :
    (change.apply slot).connected = slot.connected := by
  cases change with
  | rumble on => cases on <;> rfl
  | _ => rfl

/-- A slot command changes neither connections … -/
@[simp] theorem connected_command (slots : UiSlots) (i : Fin maxSlots) (line : CStr) (j : Fin maxSlots) :
    (slots.command i line).connected j = slots.connected j := by
  unfold UiSlots.command
  split
  · rename_i slot hslot
    obtain ⟨change, rfl, -⟩ := runUiSlotCommand_change hslot
    by_cases hj : j = i
    · subst hj
      simp [UiSlots.connected, SlotChange.connected_apply]
    · simp [UiSlots.connected, hj]
  · rfl

/-- … nor paths. -/
@[simp] theorem devPath_command (slots : UiSlots) (i : Fin maxSlots) (line : CStr) (j : Fin maxSlots) :
    (slots.command i line j).devPath = (slots j).devPath := by
  unfold UiSlots.command
  cases runUiSlotCommand (slots i).slot line with
  | some slot =>
      by_cases hj : j = i
      · subst hj
        simp
      · simp [hj]
  | none => rfl

/-- What a request writes into the shared memory by the interface's own hand. -/
def UiRequest.onSlots (slots : UiSlots) : UiRequest → UiSlots
  | .stopService true => slots.disconnectAll
  | .slot i line _ => slots.command i line
  | .profile _ | .startService | .stopService false | .setup => slots

/-- The overlays, as the loop asks for them. -/
def Ui.overlays (u : Ui) : List Bool := [u.helpMode, u.infoMode, u.listMode]

/-- **What executing a line does**: at most some requests, and the memory changes as they say; a slot command
is for the slot the snapshot gave. -/
structure Executed (w w' : UiWorld) (v : UiView) (line : CStr) : Prop where
  phase : w'.phase = w.phase
  turns : w'.turns = w.turns
  cmdLine : w'.ui.cmdLine = w.ui.cmdLine
  selected : w'.ui.selectedDevPath = w.ui.selectedDevPath ∨
    line = "stop".toList ∧ w'.ui.selectedDevPath = []
  page : w'.ui.helpPage = w.ui.helpPage ∨ w'.ui.helpPage = 0
  overlays : w.ui.overlays.count true = 0 → w'.ui.overlays.count true ≤ 1
  writes : ∃ asked, w'.log = w.log ++ asked ∧ w'.slots = asked.foldl UiRequest.onSlots w.slots ∧
    ∀ i line' shown, .slot i line' shown ∈ asked →
      line' = line ∧ isGlobalLine line = false ∧ v.currentIdx = some i ∧ shown = v.snap i
  stopped : line ≠ "stop".toList → ∀ i, w'.slots.connected i = w.slots.connected i ∧
    (w'.slots i).devPath = (w.slots i).devPath

section

variable {w : UiWorld} {v : UiView} {line : CStr}

theorem overlays_le_one (u : Ui) (h : u.overlays.count true = 0) : u.overlays.count true ≤ 1 := by omega

/-- A line that only changes the interface. -/
theorem executed_setUi {u : Ui} (hline : u.cmdLine = w.ui.cmdLine)
    (hselected : u.selectedDevPath = w.ui.selectedDevPath) (hpage : u.helpPage = w.ui.helpPage ∨ u.helpPage = 0)
    (hoverlays : w.ui.overlays.count true = 0 → u.overlays.count true ≤ 1) : Executed w (w.setUi u) v line where
  phase := rfl
  turns := rfl
  cmdLine := hline
  selected := .inl hselected
  page := hpage
  overlays := hoverlays
  writes := ⟨[], (List.append_nil _).symm, rfl, fun _ _ _ h => absurd h List.not_mem_nil⟩
  stopped := fun _ _ => ⟨rfl, rfl⟩

/-- A line that does nothing. -/
theorem executed_nothing : Executed w w v line :=
  executed_setUi (u := w.ui) rfl rfl (.inl rfl) (overlays_le_one _)

/-- A line that asks for something. -/
theorem executed_ask {r : UiRequest} (hwrites : ∀ slots, r.onSlots slots = slots)
    (hslot : ∀ i line' shown, r ≠ .slot i line' shown) : Executed w (w.ask r) v line where
  phase := rfl
  turns := rfl
  cmdLine := rfl
  selected := .inl rfl
  page := .inl rfl
  overlays := overlays_le_one _
  writes := by
    refine ⟨[r], rfl, (hwrites w.slots).symm, fun i line' shown h => ?_⟩
    exact absurd (List.mem_singleton.mp h).symm (hslot i line' shown)
  stopped := fun _ _ => ⟨rfl, rfl⟩

/-- A profile command. -/
theorem executed_postCall (call : Call) : Executed w (w.postCall v call) v line := by
  unfold UiWorld.postCall
  split
  · exact executed_ask (fun _ => rfl) fun _ _ _ h => by cases h
  · exact executed_nothing

theorem executed_showProfiles {w' : UiWorld} (h : Executed w w' v line) (hui : w'.ui = w.ui) (shown : Bool) :
    Executed w (w'.showProfiles shown) v line := by
  unfold UiWorld.showProfiles
  split
  · refine { h with overlays := fun hnone => ?_ }
    have hcount : (Ui.overlays { w'.ui with listMode := true }).count true ≤ w.ui.overlays.count true + 1 := by
      rw [hui]
      simp only [Ui.overlays, List.count_cons, List.count_nil]
      split <;> split <;> split <;> simp_all
    exact hcount.trans (by omega)
  · exact h

theorem ui_postCall (call : Call) : (w.postCall v call).ui = w.ui := by
  unfold UiWorld.postCall
  split <;> rfl

theorem executed_stopService : Executed w (w.stopService v) v "stop".toList where
  phase := rfl
  turns := rfl
  cmdLine := rfl
  selected := .inr ⟨rfl, rfl⟩
  page := .inl rfl
  overlays := overlays_le_one _
  writes := by
    refine ⟨[.stopService v.mapped], rfl, ?_, fun i line' shown h => ?_⟩
    · show (if v.mapped then w.slots.disconnectAll else w.slots) = _
      cases v.mapped <;> rfl
    · cases List.mem_singleton.mp h
  stopped := fun h => absurd rfl h

theorem executed_slotCommand {i : Fin maxSlots} (hidx : v.currentIdx = some i)
    (hglobal : isGlobalLine line = false) : Executed w (w.slotCommand v i line) v line where
  phase := rfl
  turns := rfl
  cmdLine := rfl
  selected := .inl rfl
  page := .inl rfl
  overlays := overlays_le_one _
  writes := by
    refine ⟨[.slot i line (v.snap i)], rfl, rfl, fun j line' shown h => ?_⟩
    cases List.mem_singleton.mp h
    exact ⟨rfl, hglobal, hidx, rfl⟩
  stopped := fun _ j => ⟨connected_command _ _ _ _, devPath_command _ _ _ _⟩

/-- **Every line.** -/
theorem executed_executeLine (r : UiRead) : Executed w (w.executeLine v r line) v line := by
  unfold UiWorld.executeLine
  split_ifs with hexit hinfo hprofiles hstart hstop hsetup hhelp hprofile hauto
  · exact executed_setUi rfl rfl (.inl rfl) (overlays_le_one _)
  · refine executed_setUi rfl rfl (.inl rfl) fun hnone => ?_
    revert hnone
    simp only [Ui.overlays]
    cases w.ui.helpMode <;> cases w.ui.infoMode <;> cases w.ui.listMode <;> decide
  · exact executed_showProfiles (executed_postCall _) (ui_postCall _) _
  · exact executed_ask (fun _ => rfl) fun _ _ _ h => by cases h
  · subst hstop
    exact executed_stopService
  · exact executed_ask (fun _ => rfl) fun _ _ _ h => by cases h
  · refine executed_setUi rfl rfl (.inr rfl) fun hnone => ?_
    revert hnone
    simp only [Ui.overlays]
    cases w.ui.helpMode <;> cases w.ui.infoMode <;> cases w.ui.listMode <;> decide
  · split
    · exact executed_showProfiles (executed_postCall _) (ui_postCall _) _
    · exact executed_nothing
  · split
    · exact executed_postCall _
    · exact executed_nothing
  · split
    · refine executed_slotCommand ‹_› ?_
      simp only [isGlobalLine, Bool.or_eq_false_iff]
      refine ⟨⟨?_, eq_false_of_ne_true hprofile⟩, eq_false_of_ne_true hauto⟩
      simp_all
    · exact executed_nothing

end

/-! ## What a key does -/

/-- What the interface's variables keep among themselves. -/
structure UiFits (u : Ui) : Prop where
  /-- `cmd_line` has room for the terminator. -/
  line : u.cmdLine.length < myMaxInput
  printable : ∀ c ∈ u.cmdLine, UiWorld.isPrintC c = true
  page : u.helpPage < totalHelpPages
  /-- At most one overlay is open. -/
  overlays : u.overlays.count true ≤ 1
  selected : u.selectedDevPath.length < 128

/-- **The three things a key can do**: change the interface's variables, but not the selection; execute the
line; look for another slot. -/
inductive KeyCase (w : UiWorld) (v : UiView) (r : UiRead) : UiWorld → Prop
  | plain (u : Ui) (hfits : UiFits w.ui → UiFits u) (hselected : u.selectedDevPath = w.ui.selectedDevPath) :
      KeyCase w v r { w with ui := u, phase := .head }
  | enter (hkey : r.c = '\n' ∨ r.c = '\r') (hline : w.ui.cmdLine ≠ [])
      (hclosed : w.ui.overlays.count true = 0) : KeyCase w v r (UiWorld.enter { w with phase := .head } v r)
  | arrow (step : Int) (hstep : step = 1 ∨ step = -1) (hmapped : v.mapped = true) :
      KeyCase w v r (UiWorld.arrowKey { w with phase := .head } v step)

section

variable {w : UiWorld} {v : UiView} {r : UiRead}

/-- A key without effect. -/
theorem keyCase_nothing : KeyCase w v r { w with phase := .head } := .plain w.ui id rfl

theorem keyCase_help : KeyCase w v r (UiWorld.helpKey { w with phase := .head } r) := by
  unfold UiWorld.helpKey
  split
  · split
    · split
      · rename_i hpage
        exact .plain { w.ui with helpPage := w.ui.helpPage + 1 } (fun h => { h with page := hpage }) rfl
      · exact keyCase_nothing
    · refine .plain { w.ui with helpPage := w.ui.helpPage - 1 } (fun h => { h with page := ?_ }) rfl
      exact lt_of_le_of_lt (Nat.sub_le _ _) h.page
    · exact keyCase_nothing
  · refine .plain { w.ui with helpMode := false } (fun h => { h with overlays := ?_ }) rfl
    refine le_trans ?_ h.overlays
    simp only [Ui.overlays]
    cases w.ui.helpMode <;> simp

theorem keyCase_escape : KeyCase w v r (UiWorld.escapeKey { w with phase := .head } v r) := by
  unfold UiWorld.escapeKey
  split
  · split_ifs with hright hleft
    · exact .arrow 1 (.inl rfl) hright.2
    · exact .arrow (-1) (.inr rfl) hleft.2
    · exact keyCase_nothing
  · exact keyCase_nothing

theorem keyCase_line (hclosed : w.ui.overlays.count true = 0) :
    KeyCase w v r (UiWorld.lineKey { w with phase := .head } v r) := by
  unfold UiWorld.lineKey
  dsimp only
  split_ifs with henter hempty hback hfits
  · exact keyCase_nothing
  · exact .enter henter hempty hclosed
  · refine .plain { w.ui with cmdLine := w.ui.cmdLine.dropLast } (fun h => { h with line := ?_, printable := ?_ }) rfl
    · exact lt_of_le_of_lt ((List.dropLast_sublist _).length_le) h.line
    · exact fun c hc => h.printable c (List.mem_of_mem_dropLast hc)
  · refine .plain { w.ui with cmdLine := w.ui.cmdLine ++ [r.c] } (fun h => { h with line := ?_, printable := ?_ }) rfl
    · have hroom : w.ui.cmdLine.length < myMaxInput - 1 := hfits.1
      show (w.ui.cmdLine ++ [r.c]).length < myMaxInput
      rw [List.length_append, List.length_singleton]
      omega
    · intro c hc
      rcases List.mem_append.mp hc with hold | hnew
      · exact h.printable c hold
      · rw [List.mem_singleton.mp hnew]
        exact hfits.2
  · exact keyCase_nothing

/-- **Every key.** -/
theorem keyCase_key : KeyCase w v r (w.key v r) := by
  unfold UiWorld.key
  dsimp only
  split_ifs with hhelp hinfo hlist hescape
  · exact keyCase_help
  · refine .plain { w.ui with infoMode := false } (fun h => { h with overlays := ?_ }) rfl
    refine le_trans ?_ h.overlays
    simp [Ui.overlays, hinfo, List.count_cons]
  · refine .plain { w.ui with listMode := false } (fun h => { h with overlays := ?_ }) rfl
    refine le_trans ?_ h.overlays
    simp [Ui.overlays, hlist, List.count_cons]
  · exact keyCase_escape
  · refine keyCase_line ?_
    simp only [Ui.overlays]
    simp_all

end

/-! ## Every run -/

/-- **What holds whenever the interface waits or draws.**  The slot it works on is connected in its snapshot
and has the selected path; and so it was when a slot command was given. -/
structure UiKept (w : UiWorld) : Prop where
  fits : UiFits w.ui
  shown : ∀ v, w.phase = .waiting v → ∀ i, v.currentIdx = some i → v.mapped = true ∧
    v.snap.connected i = true ∧ (v.snap i).devPath = w.ui.selectedDevPath ∧ (v.snap i).devPath ≠ []
  asked : ∀ i line shown, .slot i line shown ∈ w.log → line ≠ [] ∧ line.length < myMaxInput ∧
    isGlobalLine line = false ∧ shown.slot.connected = true ∧ shown.devPath ≠ []

/-- The memory changes as the new requests say. -/
def WritesAsAsked (w w' : UiWorld) : Prop :=
  ∃ asked, w'.log = w.log ++ asked ∧ w'.slots = asked.foldl UiRequest.onSlots w.slots

theorem WritesAsAsked.refl (w : UiWorld) : WritesAsAsked w w := ⟨[], (List.append_nil _).symm, rfl⟩

theorem WritesAsAsked.trans {w w' w'' : UiWorld} (h : WritesAsAsked w w') (h' : WritesAsAsked w' w'') :
    WritesAsAsked w w'' := by
  obtain ⟨asked, hlog, hslots⟩ := h
  obtain ⟨asked', hlog', hslots'⟩ := h'
  refine ⟨asked ++ asked', by rw [hlog', hlog, List.append_assoc], ?_⟩
  rw [hslots', hslots, List.foldl_append]

/-- A path of a slot is copied whole. -/
theorem strncpy_devPath (s : UiSlot) : strncpy 128 s.devPath = s.devPath :=
  strncpy_of_length (Nat.le_sub_one_of_lt s.fits)

/-- **What `update_and_get_slot_idx` finds.** -/
theorem updateAndGetSlotIdx_some {snap : UiSlots} {selected : CStr} {i : Fin maxSlots}
    (h : (updateAndGetSlotIdx snap selected).1 = some i) :
    snap.connected i = true ∧ (snap i).devPath = (updateAndGetSlotIdx snap selected).2 ∧ (snap i).devPath ≠ [] := by
  revert h
  unfold updateAndGetSlotIdx
  dsimp only
  split
  · rename_i j hagain
    rintro ⟨⟩
    split_ifs at hagain with hselected
    have hfound := List.find?_some hagain
    obtain ⟨hconnected, hpath⟩ := Bool.and_eq_true_iff.mp hfound
    have hsame : (snap i).devPath = selected := beq_iff_eq.mp hpath
    exact ⟨hconnected, hsame, hsame ▸ hselected⟩
  · split
    · rename_i j hfirst
      rintro ⟨⟩
      have hfound := List.find?_some hfirst
      obtain ⟨hconnected, hpath⟩ := Bool.and_eq_true_iff.mp hfound
      exact ⟨hconnected, (strncpy_devPath _).symm, bne_iff_ne.mp hpath⟩
    · intro h
      cases h

/-- What it selects fits into the buffer. -/
theorem length_updateAndGetSlotIdx (snap : UiSlots) {selected : CStr} (h : selected.length < 128) :
    (updateAndGetSlotIdx snap selected).2.length < 128 := by
  unfold updateAndGetSlotIdx
  dsimp only
  split
  · exact h
  · split
    · exact lt_of_le_of_lt (strncpy_length _ _) (by decide)
    · exact h

section

variable {w w' : UiWorld}

theorem UiKept.key (h : UiKept w) {v : UiView} (hphase : w.phase = .waiting v) (r : UiRead)
    (hcase : KeyCase w v r w') : UiKept w' := by
  cases hcase with
  | plain u hfits _ =>
      exact ⟨hfits h.fits, (fun _ hwaiting => by cases hwaiting), h.asked⟩
  | enter _ hline hclosed =>
      have hdone : Executed { w with phase := .head } _ v w.ui.cmdLine := executed_executeLine r
      obtain ⟨asked, hlog, -, hasked⟩ := hdone.writes
      refine ⟨⟨?_, ?_, ?_, hdone.overlays hclosed, ?_⟩, fun v' hwaiting => ?_, fun i line shown hmem => ?_⟩
      · exact lt_of_lt_of_le Nat.zero_lt_one (by decide)
      · exact fun c hc => absurd hc List.not_mem_nil
      · rcases hdone.page with hpage | hpage
        · exact hpage ▸ h.fits.page
        · exact lt_of_eq_of_lt hpage (by decide)
      · rcases hdone.selected with hsame | ⟨-, hnone⟩
        · exact hsame ▸ h.fits.selected
        · exact lt_of_eq_of_lt (congrArg List.length hnone) (by decide)
      · have hhead := hdone.phase.symm.trans hwaiting
        cases hhead
      · have hmem' : UiRequest.slot i line shown ∈ w.log ++ asked := hlog ▸ hmem
        rcases List.mem_append.mp hmem' with hold | hnew
        · exact h.asked i line shown hold
        · obtain ⟨rfl, hglobal, hidx, rfl⟩ := hasked i line shown hnew
          obtain ⟨-, hconnected, -, hpath⟩ := h.shown v hphase i hidx
          exact ⟨hline, h.fits.line, hglobal, hconnected, hpath⟩
  | arrow step _ _ =>
      unfold UiWorld.arrowKey
      split
      · exact ⟨{ h.fits with selected := lt_of_le_of_lt (strncpy_length _ _) (by decide) },
          (fun _ hwaiting => by cases hwaiting), h.asked⟩
      · exact ⟨h.fits, (fun _ hwaiting => by cases hwaiting), h.asked⟩
      · exact ⟨h.fits, (fun _ hwaiting => by cases hwaiting), h.asked⟩

theorem UiKept.look (h : UiKept w) {mapped taken alive : Bool} (halive : alive = true → mapped = true)
    (stale : UiSlots) : UiKept (w.look mapped taken alive stale) := by
  unfold UiWorld.look
  dsimp only
  split
  · rename_i hrunning
    refine ⟨{ h.fits with selected := length_updateAndGetSlotIdx _ h.fits.selected }, ?_, h.asked⟩
    rintro v ⟨⟩ i hidx
    obtain ⟨hconnected, hpath, hne⟩ := updateAndGetSlotIdx_some hidx
    exact ⟨halive hrunning, hconnected, hpath, hne⟩
  · refine ⟨h.fits, ?_, h.asked⟩
    rintro v ⟨⟩ i hidx
    cases hidx

theorem UiKept.step (h : UiKept w) {move : UiMove} (hstep : uiStep move w = some w') : UiKept w' := by
  unfold uiStep at hstep
  split at hstep
  · cases hstep
    exact ⟨h.fits, h.shown, h.asked⟩
  · split at hstep
    · cases hstep
      exact h
    · cases hstep
  · split at hstep
    · rename_i hok
      cases hstep
      exact h.look (fun halive => hok.2.1 (hok.2.2 halive)) _
    · cases hstep
  · cases hstep
    exact ⟨h.fits, (fun _ hwaiting => by cases hwaiting), h.asked⟩
  · cases hstep
    exact h.key ‹_› _ keyCase_key
  · cases hstep

theorem uiKept_started (slots : UiSlots) : UiKept (startedUi slots) where
  fits := by
    refine ⟨?_, ?_, ?_, ?_, ?_⟩
    · show 0 < myMaxInput
      decide
    · exact fun c hc => absurd hc List.not_mem_nil
    · show 0 < totalHelpPages
      decide
    · show List.count true [false, false, false] ≤ 1
      decide
    · show 0 < 128
      decide
  shown := fun _ hwaiting => by cases hwaiting
  asked := fun _ _ _ hmem => absurd hmem List.not_mem_nil

/-- A move of the interface itself. -/
def UiMove.Own : UiMove → Prop
  | .others _ => False
  | .tooSmall | .look _ _ _ _ | .timeout | .key _ => True

instance : DecidablePred UiMove.Own := fun move =>
  match move with
  | .others _ => .isFalse id
  | .tooSmall | .look _ _ _ _ | .timeout | .key _ => .isTrue trivial

theorem writesAsAsked_key {v : UiView} {r : UiRead} (hcase : KeyCase w v r w') : WritesAsAsked w w' := by
  cases hcase with
  | plain u _ _ => exact .refl _
  | enter _ _ _ =>
      have hdone : Executed { w with phase := .head } _ v w.ui.cmdLine := executed_executeLine r
      obtain ⟨asked, hlog, hslots, -⟩ := hdone.writes
      exact ⟨asked, hlog, hslots⟩
  | arrow step _ _ =>
      unfold UiWorld.arrowKey
      split
      · exact .refl _
      · exact .refl _
      · exact .refl _

theorem writesAsAsked_step {move : UiMove} (hown : move.Own) (hstep : uiStep move w = some w') :
    WritesAsAsked w w' := by
  unfold uiStep at hstep
  split at hstep
  · exact hown.elim
  · split at hstep
    · cases hstep
      exact .refl _
    · cases hstep
  · split at hstep
    · cases hstep
      unfold UiWorld.look
      dsimp only
      split
      · exact .refl _
      · exact .refl _
    · cases hstep
  · cases hstep
    exact .refl _
  · cases hstep
    exact writesAsAsked_key keyCase_key
  · cases hstep

end

theorem uiKept_run {slots : UiSlots} {w : UiWorld} (hrun : Run uiStep free (startedUi slots) w) : UiKept w :=
  hrun.invariant (fun _ _ _ h _ hstep => h.step hstep) (uiKept_started slots)

theorem writesAsAsked_run {w w' : UiWorld} (hrun : Run uiStep (fun move _ => move.Own) w w') :
    WritesAsAsked w w' := by
  induction hrun with
  | refl => exact .refl _
  | tail _ hown hstep ih => exact ih.trans (writesAsAsked_step hown hstep)

/-! ## An example -/

/-- A slot with a controller at this path, or an empty one. -/
def plugged (connected : Bool) (path : CStr) (h : path.length < 128) : UiSlot where
  slot := { initialController, initialCells with connected := connected }
  devPath := path
  fits := h

/-- Two controllers, in slots 0 and 2. -/
def twoControllers (i : Fin maxSlots) : UiSlot :=
  if i = 0 then plugged true "/dev/hidraw0".toList (by decide)
  else if i = 2 then plugged true "/dev/hidraw3".toList (by decide)
  else plugged false [] (by decide)

/-- The head of an iteration with a daemon. -/
def lookAlive : UiMove := .look true true true twoControllers

/-- The right arrow. -/
def pressRight : UiMove := .key ⟨'\x1b', some ('[', 'C'), [], false, []⟩

/-- The interface shows the first controller. -/
def shownFirst : UiWorld := reached uiStep [lookAlive] (startedUi twoControllers)

/-- It is moved on to the other one. -/
def shownSecond : UiWorld := reached uiStep [pressRight, lookAlive] shownFirst

theorem run_shownFirst : Run uiStep free (startedUi twoControllers) shownFirst :=
  .single trivial (show uiStep lookAlive (startedUi twoControllers) = some shownFirst from rfl)

/-! ## Results -/

/-- **The interface over any run**, whatever the daemon and the other clients write meanwhile: its variables
keep within bounds, at most one overlay is open, and the slot it works on is the one it shows.  And it writes
the slots in no other way than by executing the requests it has logged, each slot command of which was a line
typed for a slot shown as connected. -/
theorem ui_keeps {slots : UiSlots} {w : UiWorld} (hrun : Run uiStep free (startedUi slots) w) :
    UiKept w ∧ ∀ w', Run uiStep (fun move _ => move.Own) w w' → WritesAsAsked w w' :=
  ⟨uiKept_run hrun, fun _ => writesAsAsked_run⟩

/-- A line is typed; the loop looks again after every key. -/
def typedLine (line : String) : List UiMove :=
  line.toList.flatMap fun c => [.key ⟨c, none, [], false, []⟩, lookAlive]

/-- The line is executed on the slot that is shown. -/
theorem ui_keeps_typed : ∃ w, Run uiStep (fun move _ => move.Own) shownFirst w ∧ UiKept w ∧
    WritesAsAsked shownFirst w ∧ (w.slots 0).slot.rumbleActive = false ∧
    (w.slots 2).slot.rumbleActive = true := by
  obtain ⟨w, hown, hoff⟩ : ∃ w, Run uiStep (fun move _ => move.Own) shownFirst w ∧
      (!(w.slots 0).slot.rumbleActive && (w.slots 2).slot.rumbleActive) = true :=
    exists_run_of_exec_checked (fun (move : UiMove) _ (h : decide move.Own = true) => of_decide_eq_true h)
      (typedLine "rumble off\n") (by decide +kernel)
  rw [Bool.and_eq_true, Bool.not_eq_true'] at hoff
  obtain ⟨-, hwrites⟩ := ui_keeps run_shownFirst
  obtain ⟨hkept, -⟩ := ui_keeps (run_shownFirst.trans (hown.mono fun _ _ _ => trivial))
  exact ⟨w, hown, hkept, hwrites w hown, hoff⟩

/-! ## Leaving the array -/

/-- The loop has not looked outside the array. -/
def InArray (w : UiWorld) : Prop := ∀ t, w.phase ≠ .outside t

/-- A left arrow that reaches the selection, while no slot is selected and the first three of the snapshot are not
connected. -/
structure LeftFromNowhere (w : UiWorld) (v : UiView) (r : UiRead) : Prop where
  closed : w.ui.overlays.count true = 0
  escape : r.c = '\x1b'
  left : ∃ b, r.seq = some (b, 'D')
  mapped : v.mapped = true
  nowhere : v.currentIdx = none
  unconnected : v.snap.connected 0 = false ∧ v.snap.connected 1 = false ∧ v.snap.connected 2 = false

/-- **The condition on a step**: it is no such arrow. -/
def NotLeftFromNowhere (move : UiMove) (w : UiWorld) : Prop :=
  match move, w.phase with
  | .key r, .waiting v => ¬LeftFromNowhere w v r
  | _, _ => True

section

variable {w : UiWorld} {v : UiView} {r : UiRead}

theorem phase_helpKey : (w.helpKey r).phase = w.phase := by
  unfold UiWorld.helpKey
  split
  · split
    · split <;> rfl
    · rfl
    · rfl
  · rfl

theorem phase_lineKey : (w.lineKey v r).phase = w.phase := by
  unfold UiWorld.lineKey
  dsimp only
  split_ifs
  · rfl
  · have hdone : Executed w _ v w.ui.cmdLine := executed_executeLine r
    exact hdone.phase
  · rfl
  · rfl
  · rfl

theorem inArray_arrowKey_iff (hin : InArray w) (step : Int) :
    InArray (w.arrowKey v step) ↔ ¬∃ t, arrowFind v.snap.connected v.currentIdx step = .outside t := by
  unfold UiWorld.arrowKey
  split
  · rename_i hfind
    exact iff_of_true hin fun ⟨t, hout⟩ => by cases hfind.symm.trans hout
  · rename_i hfind
    exact iff_of_true hin fun ⟨t, hout⟩ => by cases hfind.symm.trans hout
  · rename_i t hfind
    exact iff_of_false (fun h => h t rfl) (not_not.mpr ⟨t, hfind⟩)

/-- **A key leaves the array exactly if it is such an arrow.** -/
theorem inArray_key_iff : InArray (w.key v r) ↔ ¬LeftFromNowhere w v r := by
  have hhead : InArray { w with phase := .head } := fun t h => by cases h
  unfold UiWorld.key
  dsimp only
  split_ifs with hhelp hinfo hlist hescape
  · refine iff_of_true (fun t h => by cases phase_helpKey.symm.trans h) fun h => ?_
    simpa [Ui.overlays, hhelp, List.count_cons] using h.closed
  · refine iff_of_true (fun t h => by cases h) fun h => ?_
    simpa [Ui.overlays, hinfo, List.count_cons] using h.closed
  · refine iff_of_true (fun t h => by cases h) fun h => ?_
    simpa [Ui.overlays, hlist, List.count_cons] using h.closed
  · have hclosed : w.ui.overlays.count true = 0 := by
      simp only [Ui.overlays]
      simp_all
    unfold UiWorld.escapeKey
    split
    · rename_i b last hseq
      split_ifs with hright hleft
      · rw [inArray_arrowKey_iff hhead, arrowFind_outside_iff _ _ (.inl rfl)]
        refine iff_of_true (fun h => absurd h.2.1 (by decide)) fun h => ?_
        obtain ⟨b', hb⟩ := h.left
        rw [hseq, hright.1] at hb
        cases hb
      · rw [inArray_arrowKey_iff hhead, arrowFind_outside_iff _ _ (.inr rfl), not_iff_not]
        constructor
        · rintro ⟨hidx, -, hslots⟩
          exact ⟨hclosed, hescape, ⟨b, hleft.1 ▸ hseq⟩, hleft.2, hidx, hslots⟩
        · intro h
          exact ⟨h.nowhere, rfl, h.unconnected⟩
      · refine iff_of_true hhead fun h => hleft ⟨?_, h.mapped⟩
        obtain ⟨b', hb⟩ := h.left
        rw [hseq] at hb
        cases hb
        rfl
    · rename_i hseq
      refine iff_of_true hhead fun h => ?_
      obtain ⟨b, hb⟩ := h.left
      cases hseq.symm.trans hb
  · exact iff_of_true (fun t h => by cases phase_lineKey.symm.trans h) fun h => hescape h.escape

theorem inArray_step_iff {move : UiMove} {w' : UiWorld} (hin : InArray w) (hstep : uiStep move w = some w') :
    InArray w' ↔ NotLeftFromNowhere move w := by
  unfold uiStep at hstep
  unfold NotLeftFromNowhere
  split at hstep
  · cases hstep
    exact iff_of_true hin trivial
  · split at hstep
    · cases hstep
      exact iff_of_true hin trivial
    · cases hstep
  · split at hstep
    · cases hstep
      refine iff_of_true (fun t h => ?_) trivial
      revert h
      unfold UiWorld.look
      dsimp only
      split <;> exact fun h => by cases h
    · cases hstep
  · cases hstep
    exact iff_of_true (fun t h => by cases h) trivial
  · rename_i hphase
    cases hstep
    rw [hphase]
    exact inArray_key_iff
  · cases hstep

end

/-- **When the interface looks outside its array of slots**: an execution never does if and only if no left arrow
comes with no overlay open and the memory mapped, while no slot is selected and the first three slots of the
snapshot are not connected. -/
theorem ui_in_array_iff (slots : UiSlots) (moves : List UiMove) :
    Throughout uiStep InArray moves (startedUi slots) ↔ Meets uiStep NotLeftFromNowhere moves (startedUi slots) :=
  throughout_iff_meets (J := fun _ => True) (fun _ _ _ _ _ => trivial)
    (fun _ _ _ _ hin hstep => inArray_step_iff hin hstep) moves trivial (fun t h => by cases h)

/-- Without controllers the left arrow does. -/
example : (reached uiStep [lookAlive, .key ⟨'\x1b', some ('[', 'D'), [], false, []⟩]
    (startedUi fun _ => plugged false [] (by decide))).phase = .outside (-1) := rfl

/-! ## Going round -/

/-- The same connections and paths; settings and input may differ. -/
structure SameDevices (a b : UiSlots) : Prop where
  connected : a.connected = b.connected
  devPath : ∀ i, (a i).devPath = (b i).devPath

theorem SameDevices.refl (slots : UiSlots) : SameDevices slots slots := ⟨rfl, fun _ => rfl⟩

theorem SameDevices.trans {a b c : UiSlots} (h : SameDevices a b) (h' : SameDevices b c) : SameDevices a c :=
  ⟨h.connected.trans h'.connected, fun i => (h.devPath i).trans (h'.devPath i)⟩

/-- Every connected slot has a path of its own. -/
structure DistinctPaths (slots : UiSlots) : Prop where
  nonempty : ∀ i, slots.connected i = true → (slots i).devPath ≠ []
  distinct : ∀ i j, slots.connected i = true → slots.connected j = true →
    (slots i).devPath = (slots j).devPath → i = j

/-- **The condition on a step**: no device comes or goes, the daemon is alive, and `stop` is not entered. -/
def SteadyMove (slots : UiSlots) (move : UiMove) (w : UiWorld) : Prop :=
  match move with
  | .others slots' => SameDevices slots' slots
  | .look _ _ alive _ => alive = true
  | .key r => r.c = '\n' ∨ r.c = '\r' → w.ui.cmdLine ≠ "stop".toList
  | .tooSmall | .timeout => True

/-- A selected path is found again. -/
theorem updateAndGetSlotIdx_selected {snap : UiSlots} (h : DistinctPaths snap) {i : Fin maxSlots}
    (hi : snap.connected i = true) : updateAndGetSlotIdx snap (snap i).devPath = (some i, (snap i).devPath) := by
  have hself : ((snap i).slot.connected && (snap i).devPath == (snap i).devPath) = true := by
    rw [beq_self_eq_true, Bool.and_true]
    exact hi
  have hfound : ((List.finRange maxSlots).find? fun j =>
      (snap j).slot.connected && (snap j).devPath == (snap i).devPath) = some i := by
    cases hfind : (List.finRange maxSlots).find? fun j =>
        (snap j).slot.connected && (snap j).devPath == (snap i).devPath with
    | none =>
        have hnone := List.find?_eq_none.mp hfind i (List.mem_finRange i)
        exact absurd hself hnone
    | some j =>
        have hj := List.find?_some hfind
        obtain ⟨hconnected, hpath⟩ := Bool.and_eq_true_iff.mp hj
        rw [h.distinct j i hconnected hi (beq_iff_eq.mp hpath)]
  unfold updateAndGetSlotIdx
  rw [if_pos (h.nonempty i hi), hfound]

section

variable {slots : UiSlots} {start : {i // slots.connected i = true}} {turns : Int} {w w' : UiWorld}

/-- The slot that is selected after the turns since the start. -/
def turnedSlot (slots : UiSlots) (start : {i // slots.connected i = true}) (turns : Int) (w : UiWorld) :
    {i // slots.connected i = true} :=
  (slotRing slots.connected ^ (w.turns - turns)) start

/-- **The selection goes round the ring.** -/
structure OnRing (slots : UiSlots) (start : {i // slots.connected i = true}) (turns : Int) (w : UiWorld) :
    Prop where
  same : SameDevices w.slots slots
  selected : w.ui.selectedDevPath = (slots (turnedSlot slots start turns w).1).devPath
  shown : ∀ v, w.phase = .waiting v →
    v.currentIdx = some (turnedSlot slots start turns w).1 ∧ SameDevices v.snap slots
  inside : ∀ t, w.phase ≠ .outside t

theorem DistinctPaths.of_same {a b : UiSlots} (h : DistinctPaths b) (hsame : SameDevices a b) :
    DistinctPaths a where
  nonempty := fun i hi => by
    rw [hsame.connected] at hi
    rw [hsame.devPath]
    exact h.nonempty i hi
  distinct := fun i j hi hj hpath => by
    rw [hsame.connected] at hi hj
    rw [hsame.devPath, hsame.devPath] at hpath
    exact h.distinct i j hi hj hpath

theorem OnRing.look (h : OnRing slots start turns w) (hpaths : DistinctPaths slots) (mapped : Bool)
    (stale : UiSlots) : OnRing slots start turns (w.look mapped true true stale) := by
  have hconnected : w.slots.connected (turnedSlot slots start turns w).1 = true := by
    rw [h.same.connected]
    exact (turnedSlot slots start turns w).2
  have hfound := updateAndGetSlotIdx_selected (hpaths.of_same h.same) hconnected
  rw [h.same.devPath, ← h.selected] at hfound
  refine ⟨h.same, ?_, ?_, fun t hphase => by cases hphase⟩
  · show (updateAndGetSlotIdx w.slots w.ui.selectedDevPath).2 = _
    rw [hfound]
    exact h.selected
  · rintro v ⟨⟩
    exact ⟨congrArg Prod.fst hfound, h.same⟩

theorem OnRing.key (h : OnRing slots start turns w) {v : UiView} (hphase : w.phase = .waiting v) {r : UiRead}
    (hstop : r.c = '\n' ∨ r.c = '\r' → w.ui.cmdLine ≠ "stop".toList) (hcase : KeyCase w v r w') :
    OnRing slots start turns w' := by
  cases hcase with
  | plain u _ hselected =>
      exact ⟨h.same, hselected.trans h.selected, (fun _ hwaiting => by cases hwaiting),
        fun t hphase => by cases hphase⟩
  | enter hkey hline _ =>
      have hdone : Executed { w with phase := .head } _ v w.ui.cmdLine := executed_executeLine r
      have hsame := hdone.stopped (hstop hkey)
      have hturned : turnedSlot slots start turns (UiWorld.enter { w with phase := .head } v r) =
          turnedSlot slots start turns w := by
        have hturns : (UiWorld.enter { w with phase := .head } v r).turns = w.turns := hdone.turns
        rw [turnedSlot, turnedSlot, hturns]
      refine ⟨⟨?_, fun i => ?_⟩, ?_, fun v' hwaiting => ?_, fun t hout => ?_⟩
      · funext i
        exact ((hsame i).1).trans (congrFun h.same.connected i)
      · exact ((hsame i).2).trans (h.same.devPath i)
      · rw [hturned]
        rcases hdone.selected with hkept | ⟨hline', -⟩
        · exact hkept.trans h.selected
        · exact absurd hline' (hstop hkey)
      · cases hdone.phase.symm.trans hwaiting
      · cases hdone.phase.symm.trans hout
  | arrow step hstep _ =>
      obtain ⟨hidx, hsnap⟩ := h.shown v hphase
      have hfind : arrowFind v.snap.connected v.currentIdx step =
          .found ((slotRing slots.connected ^ step) (turnedSlot slots start turns w)).1 := by
        rw [hsnap.connected, hidx]
        exact arrowFind_ring slots.connected _ hstep
      have hturned : (slotRing slots.connected ^ (w.turns + step - turns)) start =
          (slotRing slots.connected ^ step) (turnedSlot slots start turns w) := by
        rw [turnedSlot, ← Equiv.Perm.mul_apply, ← zpow_add]
        congr 2
        omega
      unfold UiWorld.arrowKey
      rw [hfind]
      refine ⟨h.same, ?_, (fun _ hwaiting => by cases hwaiting), fun t hout => by cases hout⟩
      show strncpy 128 _ = (slots ((slotRing slots.connected ^ (w.turns + step - turns)) start).1).devPath
      rw [strncpy_devPath, hsnap.devPath, hturned]

theorem OnRing.step (h : OnRing slots start turns w) (hpaths : DistinctPaths slots) {move : UiMove}
    (hok : SteadyMove slots move w) (hstep : uiStep move w = some w') : OnRing slots start turns w' := by
  unfold uiStep at hstep
  split at hstep
  · cases hstep
    exact ⟨hok, h.selected, h.shown, h.inside⟩
  · split at hstep
    · cases hstep
      exact h
    · cases hstep
  · rename_i mapped taken alive stale _
    split at hstep
    · rename_i hmoves
      cases hstep
      obtain rfl : alive = true := hok
      obtain rfl : taken = true := hmoves.2.2 rfl
      exact h.look hpaths mapped stale
    · cases hstep
  · cases hstep
    exact ⟨h.same, h.selected, (fun _ hwaiting => by cases hwaiting), fun t hout => by cases hout⟩
  · cases hstep
    exact h.key ‹_› hok keyCase_key
  · cases hstep

end

/-- **The arrows go round the connected slots, and miss none.**  From any state of any run in which the
interface shows a slot of a snapshot that is in step, and the connected slots have paths of their own, as long as
no device comes or goes, the daemon is found alive and `stop` is not entered: whatever is typed and executed,
whatever overlays are opened and closed, whatever settings the others change, the slot shown is that many places
further round the ring as the selection was moved to the right more often than to the left.  The ring is one
cycle through all the connected slots. -/
theorem ui_arrows_go_round {slots : UiSlots} {w w' : UiWorld} (hrun : Run uiStep free (startedUi slots) w)
    {v : UiView} (hphase : w.phase = .waiting v) {i : Fin maxSlots} (hidx : v.currentIdx = some i)
    (hsnap : SameDevices v.snap w.slots) (hpaths : DistinctPaths w.slots)
    (hsteady : Run uiStep (SteadyMove w.slots) w w') :
    ∃ hi : w.slots.connected i = true,
      (∀ v', w'.phase = .waiting v' →
        v'.currentIdx = some ((slotRing w.slots.connected ^ (w'.turns - w.turns)) ⟨i, hi⟩).1) ∧
      (∀ t, w'.phase ≠ .outside t) ∧ (slotRing w.slots.connected).IsCycleOn Set.univ := by
  obtain ⟨-, hconnected, hpath, -⟩ := (uiKept_run hrun).shown v hphase i hidx
  have hi : w.slots.connected i = true := by
    rw [← hsnap.connected]
    exact hconnected
  have hstart : OnRing w.slots ⟨i, hi⟩ w.turns w := by
    have hzero : turnedSlot w.slots ⟨i, hi⟩ w.turns w = ⟨i, hi⟩ := by
      rw [turnedSlot, sub_self, zpow_zero, Equiv.Perm.one_apply]
    refine ⟨.refl _, ?_, ?_, ?_⟩
    · rw [hzero, ← hpath, hsnap.devPath]
    · intro v' hwaiting
      obtain rfl : v = v' := UiPhase.waiting.inj (hphase.symm.trans hwaiting)
      rw [hzero]
      exact ⟨hidx, hsnap⟩
    · intro t hout
      cases hphase.symm.trans hout
  have hend : OnRing w.slots ⟨i, hi⟩ w.turns w' :=
    hsteady.invariant (fun move _ _ h hok hstep => h.step hpaths hok hstep) hstart
  exact ⟨hi, fun v' hwaiting => (hend.shown v' hwaiting).1, hend.inside, slotRing_isCycleOn _⟩

theorem ui_arrows_go_round_second :
    ∃ hi : shownFirst.slots.connected 0 = true,
      (∀ v', shownSecond.phase = .waiting v' → v'.currentIdx =
        some ((slotRing shownFirst.slots.connected ^ (shownSecond.turns - shownFirst.turns)) ⟨0, hi⟩).1) ∧
      (∀ t, shownSecond.phase ≠ .outside t) ∧ (slotRing shownFirst.slots.connected).IsCycleOn Set.univ := by
  have hnotEnter : ¬('\x1b' = '\n' ∨ '\x1b' = '\r') := by decide
  have hpressed : Run uiStep (SteadyMove shownFirst.slots) shownFirst (reached uiStep [pressRight] shownFirst) :=
    .single (show SteadyMove shownFirst.slots pressRight shownFirst from fun hkey => absurd hkey hnotEnter) rfl
  have hsteady : Run uiStep (SteadyMove shownFirst.slots) shownFirst shownSecond :=
    hpressed.trans (.single (show SteadyMove shownFirst.slots lookAlive _ from rfl) rfl)
  refine ui_arrows_go_round run_shownFirst rfl rfl (.refl _) ?_ hsteady
  refine ⟨?_, ?_⟩
  · decide
  · decide

end Dstx
