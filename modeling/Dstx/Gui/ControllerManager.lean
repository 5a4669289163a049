/-
# Dstx.Gui.ControllerManager — which controllers the GUI lists (`controller-manager.vala`).

A connection signal changes nothing by itself.  It arms a 100 ms timer, ONE for a slot: a connect signal
cancels the timer of a disconnect signal and the other way round.  The connect timer starts a fetch
(`GetControllerInfo`, then `GetKeymap`), whose end queues an idle callback that adds the controller; the
disconnect timer queues one that removes the slot.  Fetches end in any order, idle callbacks run in the order
they were queued.

The list should hold one controller for each slot whose last signal was a connect signal (`ListsLastSignals`).
It does not always: entries are keyed by slot AND type, so a controller of another type is added beside the
old one; a removal cancels the timer of a newer connect signal; a slow fetch adds a slot that was removed in
the meantime.  `Orderly` is the condition on a step, and `settling_step_iff` says it is exactly what keeps the
manager on its way to the right list.
-/
import Dstx.Gui.Controller
import Dstx.Lib.Run

namespace Dstx

open Dstx.Lib

/-! ## The list -/

/-- **A controller object of the manager**: what the decoder filled in, the keymap and the layout mode.  Its
number is the slot it was fetched for. -/
structure ListedController where
  slot : UInt8
  info : GuiController
  keymap : List UInt8
  layoutMode : Int
  slotEq : info.slot = slot.toNat

/-- `controller_type`. -/
def ListedController.type (c : ListedController) : Option ControllerType := c.info.controllerType

/-- **`get_key`**: slot and type. -/
def ListedController.key (c : ListedController) : UInt8 × Option ControllerType := (c.slot, c.type)

/-- The length of a new controller's keymap. -/
def guiKeymapLength : Nat := 18

/-- `update_from_dbus_arguments` leaves the slot number alone. -/
theorem updateFromDbusArguments_slot (c : GuiController) (values : List UInt32) :
    (c.updateFromDbusArguments values).slot = c.slot := by
  unfold GuiController.updateFromDbusArguments
  split_ifs <;> rfl

/-- The controller of a `GetControllerInfo` reply. -/
def ListedController.fetched (slot : UInt8) (reply : List DBusValue) : ListedController where
  slot := slot
  info := getControllerInfo slot.toNat reply
  keymap := List.replicate guiKeymapLength 0
  layoutMode := 0
  slotEq := updateFromDbusArguments_slot _ _

/-- `fetch_keymap_for_controller`, on the reply; `none` is an error. -/
def ListedController.fetchKeymap (c : ListedController) (reply : Option (List UInt8)) : ListedController :=
  match reply with
  | some keymap =>
      if keymap.zipIdx.any fun entry => c.keymap.getD entry.2 0 != entry.1 then { c with keymap := keymap }
      else c
  | none => c

/-- `detect_and_set_layout_mode`. -/
def ListedController.detectAndSetLayoutMode (c : ListedController) : ListedController :=
  if c.keymap.length < 4 then c
  else
    { c with
      layoutMode :=
        if c.keymap.getD 1 0 = 1 ∧ c.keymap.getD 0 0 = 2 ∧ c.keymap.getD 3 0 = 3 ∧ c.keymap.getD 2 0 = 4 then 1
        else 0 }

/-- The configuration part of `merge_controller_config`. -/
def GuiController.mergeConfig (existing updated : GuiController) : GuiController :=
  { existing with
    ledBaseR := updated.ledBaseR
    ledBaseG := updated.ledBaseG
    ledBaseB := updated.ledBaseB
    ledR := updated.ledR
    ledG := updated.ledG
    ledB := updated.ledB
    ledStatic := updated.ledStatic
    ledReapply := updated.ledReapply
    playerLeds := updated.playerLeds
    globalBrightness := updated.globalBrightness
    currentEffect := updated.currentEffect
    effectSpeed := updated.effectSpeed
    rumbleGain := updated.rumbleGain
    rumbleActive := updated.rumbleActive
    deadzone := updated.deadzone
    sensitivityLeftPreset := setPreset existing.sensitivityLeftPreset updated.sensitivityLeftPreset
    sensitivityRightPreset := setPreset existing.sensitivityRightPreset updated.sensitivityRightPreset
    invertLy := updated.invertLy
    invertRy := updated.invertRy
    triggersDigital := updated.triggersDigital
    emulateActive := updated.emulateActive
    isUhid := updated.isUhid
    debounceEnabled := updated.debounceEnabled
    battery := updated.battery
    isBluetooth := updated.isBluetooth }

/-- **`merge_controller_config`** on an existing controller: slot and type stay. -/
def ListedController.merge (existing updated : ListedController) : ListedController :=
  { existing with
    info := existing.info.mergeConfig updated.info
    keymap := updated.keymap ++ existing.keymap.drop updated.keymap.length
    slotEq := existing.slotEq }

/-! ## The manager -/

/-- What a connection timer of a slot will do. -/
inductive Armed where
  | connect
  | disconnect
  deriving DecidableEq

/-- A queued idle callback. -/
inductive IdleCall where
  | add (c : ListedController)
  | remove (slot : UInt8)
  | selectFirst

/-- **The state of `ControllerManager`**: the list, the timers, what is under way and what is queued.
`controller_map` and the cards have an entry for each element of the list.  `lastSignal` and `lastFetched` are
history: the last connection signal of a slot, and the type in the last reply for it. -/
structure ControllerManager where
  connectedControllers : List ListedController
  timers : UInt8 → Option Armed
  infoFetches : List UInt8
  keymapFetches : List ListedController
  idles : List IdleCall
  selected : Option (UInt8 × Option ControllerType)
  lastSignal : UInt8 → Option Armed
  lastFetched : UInt8 → Option (Option ControllerType)

/-- A new manager. -/
def emptyManager : ControllerManager where
  connectedControllers := []
  timers := fun _ => none
  infoFetches := []
  keymapFetches := []
  idles := []
  selected := none
  lastSignal := fun _ => none
  lastFetched := fun _ => none

namespace ControllerManager

/-- `on_controller_connected` and `on_controller_disconnected`: the old timer goes, a new one is armed. -/
def onSignal (m : ControllerManager) (slot : UInt8) (signal : Armed) : ControllerManager :=
  { m with
    timers := Function.update m.timers slot (some signal)
    lastSignal := Function.update m.lastSignal slot (some signal) }

/-- The timer of a slot goes off. -/
def onTimer (m : ControllerManager) (slot : UInt8) (armed : Armed) : ControllerManager :=
  match armed with
  | .connect =>
      { m with
        timers := Function.update m.timers slot none
        infoFetches := m.infoFetches ++ [slot] }
  | .disconnect =>
      { m with
        timers := Function.update m.timers slot none
        idles := m.idles ++ [.remove slot] }

/-- The info of a slot arrives, or the call fails. -/
def onInfo (m : ControllerManager) (slot : UInt8) (reply : Option (List DBusValue)) : ControllerManager :=
  match reply.map (ListedController.fetched slot) with
  | some c =>
      if c.info.connected then
        { m with
          infoFetches := m.infoFetches.erase slot
          keymapFetches := m.keymapFetches ++ [c]
          lastFetched := Function.update m.lastFetched slot (some c.type) }
      else { m with infoFetches := m.infoFetches.erase slot }
  | none => { m with infoFetches := m.infoFetches.erase slot }

/-- The keymap of the `n`-th controller that waits for one arrives, or the call fails. -/
def onKeymap (m : ControllerManager) (n : Nat) (c : ListedController) (reply : Option (List UInt8)) :
    ControllerManager :=
  { m with
    keymapFetches := m.keymapFetches.eraseIdx n
    idles := m.idles ++ [.add (c.fetchKeymap reply).detectAndSetLayoutMode] }

/-- `select_first`. -/
def selectFirst (m : ControllerManager) : ControllerManager :=
  match m.connectedControllers with
  | c :: _ => { m with selected := some c.key }
  | [] => m

/-- **`add_controller`**: a known key is merged, another one appended. -/
def addController (m : ControllerManager) (c : ListedController) : ControllerManager :=
  if m.connectedControllers.any fun e => e.key == c.key then
    { m with
      connectedControllers := m.connectedControllers.map fun e => if e.key = c.key then e.merge c else e }
  else
    { m with
      connectedControllers := m.connectedControllers ++ [c]
      selected := if m.connectedControllers = [] then some c.key else m.selected }

/-- **`remove_controller`**: the FIRST controller of the slot goes, and the slot's timer with it. -/
def removeController (m : ControllerManager) (slot : UInt8) : ControllerManager :=
  if m.connectedControllers.any fun e => e.slot == slot then
    let left := m.connectedControllers.eraseP fun e => e.slot == slot
    let wasSelected := m.selected.any fun key => key.1 == slot
    { m with
      connectedControllers := left
      timers := Function.update m.timers slot none
      selected := if wasSelected then none else m.selected
      idles := if wasSelected && !left.isEmpty then m.idles ++ [.selectFirst] else m.idles }
  else m

/-- An idle callback runs. -/
def runIdle (m : ControllerManager) : IdleCall → ControllerManager
  | .add c => m.addController c
  | .remove slot => m.removeController slot
  | .selectFirst => m.selectFirst

end ControllerManager

/-- What happens to the manager. -/
inductive ManagerMove where
  /-- `ControllerConnected` or `ControllerDisconnected` arrives. -/
  | signal (slot : UInt8) (signal : Armed)
  /-- The timer of a slot goes off. -/
  | timer (slot : UInt8)
  /-- `GetControllerInfo` is answered; `none` is an error. -/
  | info (slot : UInt8) (reply : Option (List DBusValue))
  /-- `GetKeymap` is answered for the `n`-th controller that waits; `none` is an error. -/
  | keymap (n : Nat) (reply : Option (List UInt8))
  /-- The next idle callback runs. -/
  | idle

/-- **One step of the manager.** -/
def managerStep (move : ManagerMove) (m : ControllerManager) : Option ControllerManager :=
  match move with
  | .signal slot signal => some (m.onSignal slot signal)
  | .timer slot => (m.timers slot).map (m.onTimer slot)
  | .info slot reply => if slot ∈ m.infoFetches then some (m.onInfo slot reply) else none
  | .keymap n reply => m.keymapFetches[n]?.map fun c => m.onKeymap n c reply
  | .idle =>
      match m.idles with
      | [] => none
      | call :: rest => some ({ m with idles := rest }.runIdle call)

/-! ## The property -/

namespace ControllerManager

variable (m : ControllerManager) (slot : UInt8)

/-- The slots of the list. -/
def listedSlots : List UInt8 := m.connectedControllers.map (·.slot)

/-- A controller of this type is listed for the slot. -/
def Lists (type : Option ControllerType) : Prop :=
  ∃ c ∈ m.connectedControllers, c.slot = slot ∧ c.type = type

/-- All timers, idle callbacks and fetches have run. -/
structure Quiescent : Prop where
  timers : ∀ slot, m.timers slot = none
  infoFetches : m.infoFetches = []
  keymapFetches : m.keymapFetches = []
  idles : m.idles = []

/-- **The list is right**: the slots whose last signal was a connect signal, with the types last fetched. -/
structure ListsLastSignals : Prop where
  slots : ∀ slot, slot ∈ m.listedSlots ↔ m.lastSignal slot = some .connect
  types : ∀ c ∈ m.connectedControllers, m.lastFetched c.slot = some c.type

end ControllerManager

/-! ## The condition -/

/-- The queued callbacks add a controller of the slot and the type after the last removal of the slot. -/
def AddsLast (idles : List IdleCall) (slot : UInt8) (type : Option ControllerType) : Prop :=
  ∃ before c after, idles = before ++ .add c :: after ∧ c.slot = slot ∧ c.type = type ∧
    .remove slot ∉ after

namespace ControllerManager

variable (m : ControllerManager) (slot : UInt8)

/-- The removal of the slot is still to come. -/
def Removing : Prop := m.timers slot = some .disconnect ∨ .remove slot ∈ m.idles

/-- The controller last fetched for the slot is listed to stay, or on its way to the list. -/
def Arriving : Prop :=
  ∃ type, m.lastFetched slot = some type ∧
    ((∃ c ∈ m.keymapFetches, c.slot = slot ∧ c.type = type) ∨ AddsLast m.idles slot type ∨
      (.remove slot ∉ m.idles ∧ m.Lists slot type))

/-- The slot has another source than its timer. -/
def Sourced : Prop := slot ∈ m.infoFetches ∨ m.Arriving slot

end ControllerManager

/-- A reply is accepted: it comes, and the decoder takes it. -/
def AcceptedInfo (slot : UInt8) (reply : Option (List DBusValue)) : Prop :=
  ∃ values, reply = some values ∧ (ListedController.fetched slot values).info.connected = true

/-- **The condition on a step.**  A fetch fails only for a slot that is to be removed, or has another timer,
fetch or controller to show.  A controller is added only where none of another type is listed, and for a slot
to be removed only before its removal.  A removal cancels no connect timer, unless the slot has another
source. -/
def ManagerMove.Orderly (move : ManagerMove) (m : ControllerManager) : Prop :=
  match move with
  | .info slot reply =>
      m.lastSignal slot = some .connect → AcceptedInfo slot reply ∨ m.timers slot = some .connect ∨
        slot ∈ m.infoFetches.erase slot ∨ m.Arriving slot
  | .idle =>
      match m.idles with
      | .add c :: rest =>
          (∀ e ∈ m.connectedControllers, e.slot = c.slot → e.type = c.type) ∧
            (m.lastSignal c.slot = some .connect ∨ m.timers c.slot = some .disconnect ∨ .remove c.slot ∈ rest)
      | .remove slot :: _ =>
          slot ∈ m.listedSlots → m.timers slot = some .connect → m.Sourced slot
      | _ => True
  | _ => True

/-- **On the way to the right list.** -/
structure Settling (m : ControllerManager) : Prop where
  unique : m.listedSlots.Nodup
  connect : ∀ slot, m.lastSignal slot = some .connect → m.timers slot = some .connect ∨ m.Sourced slot
  gone : ∀ slot, m.lastSignal slot ≠ some .connect → slot ∈ m.listedSlots → m.Removing slot

/-- A timer is always that of the last signal. -/
def TimersRight (m : ControllerManager) : Prop :=
  ∀ slot armed, m.timers slot = some armed → m.lastSignal slot = some armed

/-- A manager on its way whose work is done has the right list. -/
theorem Settling.lists {m : ControllerManager} (h : Settling m) (hdone : m.Quiescent) :
    m.ListsLastSignals := by
  have hconnected : ∀ slot, m.lastSignal slot = some .connect →
      ∃ type, m.lastFetched slot = some type ∧ m.Lists slot type := by
    intro slot hlast
    rcases h.connect slot hlast with htimer | hinfo | ⟨type, htype, hkeymap | hidle | ⟨-, hlisted⟩⟩
    · rw [hdone.timers slot] at htimer
      cases htimer
    · rw [hdone.infoFetches] at hinfo
      cases hinfo
    · obtain ⟨c, hc, -⟩ := hkeymap
      rw [hdone.keymapFetches] at hc
      cases hc
    · obtain ⟨before, c, after, heq, -⟩ := hidle
      rw [hdone.idles] at heq
      exact absurd heq.symm (List.append_ne_nil_of_right_ne_nil _ (List.cons_ne_nil _ _))
    · exact ⟨type, htype, hlisted⟩
  have hlisted : ∀ slot, slot ∈ m.listedSlots → m.lastSignal slot = some .connect := by
    intro slot hmem
    by_contra hlast
    rcases h.gone slot hlast hmem with htimer | hidle
    · rw [hdone.timers slot] at htimer
      cases htimer
    · rw [hdone.idles] at hidle
      cases hidle
  refine ⟨fun slot => ⟨hlisted slot, fun hlast => ?_⟩, fun c hc => ?_⟩
  · obtain ⟨type, -, c, hc, hslot, -⟩ := hconnected slot hlast
    exact hslot ▸ List.mem_map_of_mem hc
  · have hlast := hlisted c.slot (List.mem_map_of_mem hc)
    obtain ⟨type, htype, e, he, hslot, rfl⟩ := hconnected c.slot hlast
    obtain rfl : e = c := List.inj_on_of_nodup_map h.unique he hc hslot
    exact htype

/-! ## The queue of idle callbacks -/

section Queue

variable {idles : List IdleCall} {slot : UInt8} {type : Option ControllerType}

/-- A callback that removes nothing from the slot comes after what adds to it. -/
theorem AddsLast.append (h : AddsLast idles slot type) {call : IdleCall} (hne : call ≠ .remove slot) :
    AddsLast (idles ++ [call]) slot type := by
  obtain ⟨before, c, after, rfl, hslot, htype, hafter⟩ := h
  refine ⟨before, c, after ++ [call], by simp, hslot, htype, ?_⟩
  rw [List.mem_append, List.mem_singleton, not_or]
  exact ⟨hafter, fun heq => hne heq.symm⟩

/-- The addition that was just queued is the last. -/
theorem addsLast_concat (idles : List IdleCall) (c : ListedController) :
    AddsLast (idles ++ [.add c]) c.slot c.type :=
  ⟨idles, c, [], rfl, rfl, rfl, List.not_mem_nil⟩

/-- **The head of the queue** adds last itself, or something behind it does. -/
theorem AddsLast.of_cons {call : IdleCall} (h : AddsLast (call :: idles) slot type) :
    AddsLast idles slot type ∨
      (.remove slot ∉ idles ∧ ∃ c, call = .add c ∧ c.slot = slot ∧ c.type = type) := by
  obtain ⟨before, c, after, heq, hslot, htype, hafter⟩ := h
  cases before with
  | nil =>
      obtain ⟨rfl, rfl⟩ := List.cons.inj heq
      exact Or.inr ⟨hafter, c, rfl, hslot, htype⟩
  | cons call' before =>
      obtain ⟨-, rfl⟩ := List.cons.inj heq
      exact Or.inl ⟨before, c, after, rfl, hslot, htype, hafter⟩

theorem AddsLast.cons (h : AddsLast idles slot type) (call : IdleCall) :
    AddsLast (call :: idles) slot type := by
  obtain ⟨before, c, after, rfl, hslot, htype, hafter⟩ := h
  exact ⟨call :: before, c, after, rfl, hslot, htype, hafter⟩

/-- What was queued behind it is not what adds last, unless it adds to the slot. -/
theorem AddsLast.of_append {call : IdleCall} (h : AddsLast (idles ++ [call]) slot type)
    (hne : ∀ c, call = .add c → c.slot ≠ slot) : AddsLast idles slot type := by
  induction idles with
  | nil =>
      rcases h.of_cons with ⟨before, c, after, heq, -⟩ | ⟨-, c, hcall, hslot, -⟩
      · exact absurd heq.symm (List.append_ne_nil_of_right_ne_nil _ (List.cons_ne_nil _ _))
      · exact absurd hslot (hne c hcall)
  | cons call' idles ih =>
      rcases AddsLast.of_cons h with hrest | ⟨hafter, c, rfl, hslot, htype⟩
      · exact (ih hrest).cons call'
      · refine ⟨[], c, idles, rfl, hslot, htype, fun hmem => hafter ?_⟩
        exact List.mem_append_left _ hmem

/-- A head that adds nothing does not matter. -/
theorem addsLast_cons_iff {call : IdleCall} (hne : ∀ c, call ≠ .add c) :
    AddsLast (call :: idles) slot type ↔ AddsLast idles slot type := by
  refine ⟨fun h => h.of_cons.resolve_right ?_, fun h => h.cons call⟩
  rintro ⟨-, c, heq, -⟩
  exact hne c heq

end Queue

/-! ## The list -/

section Listed

variable {m : ControllerManager} {c : ListedController} {slot : UInt8} {type : Option ControllerType}

/-- **What `add_controller` lists.** -/
theorem lists_addController :
    (m.addController c).Lists slot type ↔ m.Lists slot type ∨ (c.slot = slot ∧ c.type = type) := by
  unfold ControllerManager.addController
  by_cases hknown : (m.connectedControllers.any fun e => e.key == c.key) = true
  · rw [if_pos hknown]
    obtain ⟨e₀, he₀, hkey⟩ := List.any_eq_true.mp hknown
    obtain ⟨hslot₀, htype₀⟩ := Prod.mk.inj (beq_iff_eq.mp hkey)
    constructor
    · rintro ⟨e, he, hslot, htype⟩
      obtain ⟨e', he', rfl⟩ := List.mem_map.mp he
      refine Or.inl ⟨e', he', ?_⟩
      split_ifs at hslot htype <;> exact ⟨hslot, htype⟩
    · rintro (⟨e, he, hslot, htype⟩ | ⟨hslot, htype⟩)
      · refine ⟨_, List.mem_map_of_mem he, ?_⟩
        split_ifs <;> exact ⟨hslot, htype⟩
      · refine ⟨_, List.mem_map_of_mem he₀, ?_⟩
        split_ifs <;> exact ⟨hslot₀.trans hslot, htype₀.trans htype⟩
  · rw [if_neg hknown]
    simp only [ControllerManager.Lists, List.mem_append, List.mem_singleton, or_and_right, exists_or,
      exists_eq_left]

theorem mem_listedSlots : slot ∈ m.listedSlots ↔ ∃ type, m.Lists slot type := by
  constructor
  · intro h
    obtain ⟨c, hc, rfl⟩ := List.mem_map.mp h
    exact ⟨c.type, c, hc, rfl, rfl⟩
  · rintro ⟨-, c, hc, rfl, -⟩
    exact List.mem_map_of_mem hc

/-- One controller a slot is kept exactly when none of another type is there. -/
theorem nodup_addController (h : m.listedSlots.Nodup) :
    (m.addController c).listedSlots.Nodup ↔
      ∀ e ∈ m.connectedControllers, e.slot = c.slot → e.type = c.type := by
  unfold ControllerManager.addController
  by_cases hknown : (m.connectedControllers.any fun e => e.key == c.key) = true
  · rw [if_pos hknown]
    obtain ⟨e₀, he₀, hkey⟩ := List.any_eq_true.mp hknown
    obtain ⟨hslot₀, htype₀⟩ := Prod.mk.inj (beq_iff_eq.mp hkey)
    have hsame : (m.connectedControllers.map fun e => if e.key = c.key then e.merge c else e).map (·.slot) =
        m.connectedControllers.map (·.slot) := by
      rw [List.map_map]
      refine List.map_congr_left fun e _ => ?_
      show (if e.key = c.key then e.merge c else e).slot = e.slot
      split_ifs <;> rfl
    refine iff_of_true ?_ fun e he hslot => ?_
    · show ((m.connectedControllers.map fun e => if e.key = c.key then e.merge c else e).map
        (·.slot)).Nodup
      rw [hsame]
      exact h
    · obtain rfl : e = e₀ := List.inj_on_of_nodup_map h he he₀ (hslot.trans hslot₀.symm)
      exact htype₀
  · rw [if_neg hknown]
    have hother : ∀ e ∈ m.connectedControllers, e.slot = c.slot → e.type ≠ c.type := by
      intro e he hslot htype
      exact hknown (List.any_eq_true.mpr ⟨e, he, beq_iff_eq.mpr (Prod.ext hslot htype)⟩)
    show ((m.connectedControllers ++ [c]).map (·.slot)).Nodup ↔ _
    rw [List.map_append, List.map_singleton, List.nodup_append_comm, List.singleton_append,
      List.nodup_cons]
    constructor
    · rintro ⟨hfree, -⟩ e he hslot
      exact absurd (hslot ▸ List.mem_map_of_mem he) hfree
    · intro hall
      refine ⟨fun hmem => ?_, h⟩
      obtain ⟨e, he, hslot⟩ := List.mem_map.mp hmem
      exact hother e he hslot (hall e he hslot)

/-- **What `remove_controller` leaves listed**, when every slot has one controller. -/
theorem lists_removeController (h : m.listedSlots.Nodup) (gone : UInt8) :
    (m.removeController gone).Lists slot type ↔ slot ≠ gone ∧ m.Lists slot type := by
  unfold ControllerManager.removeController
  by_cases hlisted : (m.connectedControllers.any fun e => e.slot == gone) = true
  · rw [if_pos hlisted]
    obtain ⟨e₀, he₀, hgone₀⟩ := List.any_eq_true.mp hlisted
    obtain ⟨e, l₁, l₂, -, hgone, hl, hleft⟩ :=
      List.exists_of_eraseP (p := fun e : ListedController => e.slot == gone) he₀ hgone₀
    -- the one that goes is the only one of the slot
    have honly : ∀ e' ∈ l₁ ++ l₂, e'.slot ≠ gone := by
      intro e' he' hslot
      have hnodup := h
      rw [ControllerManager.listedSlots, hl, List.map_append, List.map_cons, List.nodup_middle,
        List.nodup_cons, ← List.map_append] at hnodup
      exact hnodup.1 ((hslot.trans (beq_iff_eq.mp hgone).symm) ▸ List.mem_map_of_mem he')
    show (∃ c ∈ m.connectedControllers.eraseP fun e => e.slot == gone, c.slot = slot ∧ c.type = type) ↔ _
    rw [hleft]
    constructor
    · rintro ⟨c, hc, rfl, rfl⟩
      refine ⟨honly c hc, c, ?_, rfl, rfl⟩
      rw [hl]
      exact List.mem_append.mpr ((List.mem_append.mp hc).imp id (List.mem_cons_of_mem e))
    · rintro ⟨hne, c, hc, rfl, rfl⟩
      refine ⟨c, ?_, rfl, rfl⟩
      rw [hl] at hc
      rcases List.mem_append.mp hc with hc | hc
      · exact List.mem_append_left _ hc
      · rcases List.mem_cons.mp hc with rfl | hc
        · exact absurd (beq_iff_eq.mp hgone) hne
        · exact List.mem_append_right _ hc
  · rw [if_neg hlisted]
    refine ⟨fun hlists => ⟨?_, hlists⟩, fun hlists => hlists.2⟩
    rintro rfl
    obtain ⟨c, hc, hslot, -⟩ := hlists
    exact hlisted (List.any_eq_true.mpr ⟨c, hc, beq_iff_eq.mpr hslot⟩)

theorem nodup_removeController (h : m.listedSlots.Nodup) (gone : UInt8) :
    (m.removeController gone).listedSlots.Nodup := by
  unfold ControllerManager.removeController
  split_ifs
  · exact h.sublist (List.Sublist.map _ List.eraseP_sublist)
  · exact h

end Listed

/-! ## One step -/

section Step

variable {m m' : ControllerManager} {slot : UInt8}

/-- **One slot is on its way.** -/
structure OnCourse (m : ControllerManager) (slot : UInt8) : Prop where
  connect : m.lastSignal slot = some .connect → m.timers slot = some .connect ∨ m.Sourced slot
  gone : m.lastSignal slot ≠ some .connect → slot ∈ m.listedSlots → m.Removing slot

theorem settling_iff : Settling m ↔ m.listedSlots.Nodup ∧ ∀ slot, OnCourse m slot :=
  ⟨fun h => ⟨h.unique, fun slot => ⟨h.connect slot, h.gone slot⟩⟩,
    fun h => ⟨h.1, fun slot => (h.2 slot).connect, fun slot => (h.2 slot).gone⟩⟩

/-- **A step that is not about the slot**: what is under way for it does not change. -/
structure SameFor (m m' : ControllerManager) (slot : UInt8) : Prop where
  timers : m'.timers slot = m.timers slot
  lastSignal : m'.lastSignal slot = m.lastSignal slot
  sourced : m.Sourced slot → m'.Sourced slot
  listed : slot ∈ m'.listedSlots → slot ∈ m.listedSlots
  removes : .remove slot ∈ m.idles → .remove slot ∈ m'.idles

theorem OnCourse.step (hcourse : OnCourse m slot) (h : SameFor m m' slot) : OnCourse m' slot where
  connect := fun hlast => by
    rw [h.lastSignal] at hlast
    rw [h.timers]
    exact (hcourse.connect hlast).imp id h.sourced
  gone := fun hlast hlisted => by
    rw [h.lastSignal] at hlast
    rcases hcourse.gone hlast (h.listed hlisted) with htimer | hidle
    · exact Or.inl (h.timers.trans htimer)
    · exact Or.inr (h.removes hidle)

/-- **A signal** keeps the manager on its way. -/
theorem settling_onSignal (h : Settling m) (slot : UInt8) (signal : Armed) :
    Settling (m.onSignal slot signal) := by
  rw [settling_iff] at h ⊢
  refine ⟨h.1, fun slot' => ?_⟩
  by_cases hslot : slot' = slot
  · subst hslot
    have htimer : (m.onSignal slot' signal).timers slot' = some signal := Function.update_self ..
    have hlast : (m.onSignal slot' signal).lastSignal slot' = some signal := Function.update_self ..
    refine ⟨fun hconnect => Or.inl (htimer.trans (hlast.symm.trans hconnect)), fun hne _ => Or.inl ?_⟩
    rw [hlast] at hne
    rw [htimer]
    cases signal with
    | connect => exact absurd rfl hne
    | disconnect => rfl
  · exact (h.2 slot').step ⟨Function.update_of_ne hslot _ _, Function.update_of_ne hslot _ _, id, id, id⟩

/-- **A timer that goes off** keeps it on its way. -/
theorem settling_onTimer (h : Settling m) (htimers : TimersRight m) {armed : Armed}
    (harmed : m.timers slot = some armed) : Settling (m.onTimer slot armed) := by
  have hlast := htimers slot armed harmed
  rw [settling_iff] at h ⊢
  cases armed with
  | connect =>
      refine ⟨h.1, fun slot' => ?_⟩
      by_cases hslot : slot' = slot
      · subst hslot
        exact ⟨fun _ => Or.inr (Or.inl (List.mem_append_right _ (List.mem_singleton_self _))),
          fun hne => absurd hlast hne⟩
      · refine (h.2 slot').step ⟨Function.update_of_ne hslot _ _, rfl, fun hsourced => ?_, id, id⟩
        exact hsourced.imp (List.mem_append_left _) id
  | disconnect =>
      refine ⟨h.1, fun slot' => ?_⟩
      by_cases hslot : slot' = slot
      · subst hslot
        refine ⟨fun hconnect => ?_, fun _ _ => Or.inr (List.mem_append_right _ (List.mem_singleton_self _))⟩
        exact absurd (Option.some.inj (hlast.symm.trans hconnect)) (by decide)
      · refine (h.2 slot').step ⟨Function.update_of_ne hslot _ _, rfl, fun hsourced => ?_, id,
          List.mem_append_left _⟩
        -- the removal that is queued is another slot's
        have hother : IdleCall.remove slot ≠ .remove slot' := fun heq => hslot (IdleCall.remove.inj heq).symm
        refine hsourced.imp id ?_
        rintro ⟨type, htype, hkeymap | hadds | ⟨hnone, hlists⟩⟩
        · exact ⟨type, htype, Or.inl hkeymap⟩
        · exact ⟨type, htype, Or.inr (Or.inl (hadds.append hother))⟩
        · refine ⟨type, htype, Or.inr (Or.inr ⟨?_, hlists⟩)⟩
          rw [ControllerManager.onTimer, List.mem_append, List.mem_singleton, not_or]
          exact ⟨hnone, fun heq => hother heq.symm⟩

/-- **A fetch that ends** keeps it on its way exactly when it brings a controller, or the slot does without. -/
theorem settling_onInfo_iff (h : Settling m) (reply : Option (List DBusValue)) :
    Settling (m.onInfo slot reply) ↔ (ManagerMove.info slot reply).Orderly m := by
  rw [settling_iff] at h
  have herase : ∀ slot', slot' ≠ slot → slot' ∈ m.infoFetches → slot' ∈ m.infoFetches.erase slot :=
    fun slot' hne hmem => (List.mem_erase_of_ne hne).mpr hmem
  by_cases haccepted : AcceptedInfo slot reply
  · refine iff_of_true ?_ fun _ => Or.inl haccepted
    obtain ⟨values, rfl, hconnected⟩ := haccepted
    have hleft : m.onInfo slot (some values) =
        { m with
          infoFetches := m.infoFetches.erase slot
          keymapFetches := m.keymapFetches ++ [.fetched slot values]
          lastFetched := Function.update m.lastFetched slot
            (some (ListedController.fetched slot values).type) } :=
      if_pos hconnected
    rw [hleft, settling_iff]
    refine ⟨h.1, fun slot' => ?_⟩
    by_cases hslot : slot' = slot
    · subst hslot
      refine ⟨fun _ => Or.inr (Or.inr ⟨_, Function.update_self .., Or.inl ?_⟩), (h.2 slot').gone⟩
      exact ⟨_, List.mem_append_right _ (List.mem_singleton_self _), rfl, rfl⟩
    · refine (h.2 slot').step ⟨rfl, rfl, fun hsourced => ?_, id, id⟩
      refine hsourced.imp (herase slot' hslot) ?_
      rintro ⟨type, htype, harriving⟩
      refine ⟨type, (Function.update_of_ne hslot _ _).trans htype, harriving.imp_left ?_⟩
      rintro ⟨c, hc, hrest⟩
      exact ⟨c, List.mem_append_left _ hc, hrest⟩
  · -- nothing is fetched: the slot loses a source
    have hleft : m.onInfo slot reply = { m with infoFetches := m.infoFetches.erase slot } := by
      unfold ControllerManager.onInfo
      cases reply with
      | none => rfl
      | some values => exact if_neg fun hconnected => haccepted ⟨values, rfl, hconnected⟩
    rw [hleft, settling_iff]
    constructor
    · rintro ⟨-, hcourse⟩ hlast
      exact Or.inr ((hcourse slot).connect hlast)
    · intro horderly
      refine ⟨h.1, fun slot' => ?_⟩
      by_cases hslot : slot' = slot
      · subst hslot
        exact ⟨fun hlast => (horderly hlast).resolve_left haccepted, (h.2 slot').gone⟩
      · exact (h.2 slot').step ⟨rfl, rfl, fun hsourced => hsourced.imp (herase slot' hslot) id, id, id⟩

theorem fetchKeymap_slot (c : ListedController) (reply : Option (List UInt8)) :
    (c.fetchKeymap reply).detectAndSetLayoutMode.slot = c.slot ∧
      (c.fetchKeymap reply).detectAndSetLayoutMode.type = c.type := by
  have hfetch : (c.fetchKeymap reply).slot = c.slot ∧ (c.fetchKeymap reply).type = c.type := by
    unfold ListedController.fetchKeymap
    split
    · split_ifs <;> exact ⟨rfl, rfl⟩
    · exact ⟨rfl, rfl⟩
  unfold ListedController.detectAndSetLayoutMode
  split
  · exact hfetch
  · exact hfetch

/-- **A keymap that arrives**: the controller goes from one queue to the other. -/
theorem settling_onKeymap (h : Settling m) {n : Nat} {c : ListedController}
    (hc : m.keymapFetches[n]? = some c) (reply : Option (List UInt8)) : Settling (m.onKeymap n c reply) := by
  rw [settling_iff] at h ⊢
  obtain ⟨hslot, htype⟩ := fetchKeymap_slot c reply
  have hadd : ∀ slot', IdleCall.add (c.fetchKeymap reply).detectAndSetLayoutMode ≠ .remove slot' :=
    fun slot' heq => IdleCall.noConfusion heq
  refine ⟨h.1, fun slot' => (h.2 slot').step ⟨rfl, rfl, fun hsourced => ?_, id, List.mem_append_left _⟩⟩
  refine hsourced.imp id ?_
  rintro ⟨type, hlast, ⟨e, he, rfl, rfl⟩ | hadds | ⟨hnone, hlists⟩⟩
  · -- the one that waited is now the last to be added, or it waits still
    refine ⟨e.type, hlast, ?_⟩
    by_cases hmem : e ∈ m.keymapFetches.eraseIdx n
    · exact Or.inl ⟨e, hmem, rfl, rfl⟩
    · obtain ⟨k, hk⟩ := List.mem_iff_getElem?.mp he
      obtain rfl : k = n := by
        by_contra hne
        exact hmem (List.mem_eraseIdx_iff_getElem?.mpr ⟨k, hne, hk⟩)
      obtain rfl := Option.some.inj (hk.symm.trans hc)
      refine Or.inr (Or.inl ?_)
      rw [← hslot, ← htype]
      exact addsLast_concat m.idles _
  · exact ⟨type, hlast, Or.inr (Or.inl (hadds.append (hadd slot')))⟩
  · refine ⟨type, hlast, Or.inr (Or.inr ⟨?_, hlists⟩)⟩
    rw [ControllerManager.onKeymap, List.mem_append, List.mem_singleton, not_or]
    exact ⟨hnone, fun heq => hadd slot' heq.symm⟩

/-- The rest of `add_controller`: it touches the list only. -/
theorem addController_rest (c : ListedController) :
    (m.addController c).timers = m.timers ∧ (m.addController c).infoFetches = m.infoFetches ∧
      (m.addController c).keymapFetches = m.keymapFetches ∧ (m.addController c).idles = m.idles ∧
      (m.addController c).lastSignal = m.lastSignal ∧ (m.addController c).lastFetched = m.lastFetched := by
  unfold ControllerManager.addController
  split <;> exact ⟨rfl, rfl, rfl, rfl, rfl, rfl⟩

/-- An addition takes no source from a slot: what was to be added is listed. -/
theorem sourced_addController {c : ListedController} {rest : List IdleCall}
    (hidles : m.idles = .add c :: rest) {slot' : UInt8} (h : m.Sourced slot') :
    ({ m with idles := rest }.addController c).Sourced slot' := by
  obtain ⟨-, hinfo, hkeymap, hleft, -, hfetched⟩ := addController_rest (m := { m with idles := rest }) c
  rw [ControllerManager.Sourced, hinfo]
  refine h.imp id ?_
  rintro ⟨type, htype, harriving⟩
  refine ⟨type, by rw [hfetched]; exact htype, ?_⟩
  rw [hidles] at harriving
  rw [hkeymap, hleft, lists_addController]
  rcases harriving with hwaits | hadds | ⟨hnone, hlisted⟩
  · exact Or.inl hwaits
  · -- the addition that runs is the last, or it is still queued
    rcases hadds.of_cons with hadds | ⟨hnone, c', heq, hslot, htype'⟩
    · exact Or.inr (Or.inl hadds)
    · obtain rfl := IdleCall.add.inj heq
      exact Or.inr (Or.inr ⟨hnone, Or.inr ⟨hslot, htype'⟩⟩)
  · exact Or.inr (Or.inr ⟨fun hmem => hnone (List.mem_cons_of_mem _ hmem), Or.inl hlisted⟩)

/-- The slots of the list after an addition. -/
theorem mem_listedSlots_addController {c : ListedController} :
    slot ∈ (m.addController c).listedSlots ↔ slot ∈ m.listedSlots ∨ slot = c.slot := by
  simp only [mem_listedSlots, lists_addController, exists_or, exists_and_left]
  simp [eq_comm]

/-- **An addition** keeps it on its way exactly when no other type is listed and the slot is to stay, or its
removal is still to come. -/
theorem settling_add_iff (h : Settling m) {c : ListedController} {rest : List IdleCall}
    (hidles : m.idles = .add c :: rest) :
    Settling ({ m with idles := rest }.addController c) ↔ ManagerMove.idle.Orderly m := by
  have horderly : ManagerMove.idle.Orderly m ↔
      (∀ e ∈ m.connectedControllers, e.slot = c.slot → e.type = c.type) ∧
        (m.lastSignal c.slot = some .connect ∨ m.timers c.slot = some .disconnect ∨ .remove c.slot ∈ rest) := by
    simp only [ManagerMove.Orderly, hidles]
  obtain ⟨htimers, -, -, hleft, hlast, -⟩ := addController_rest (m := { m with idles := rest }) c
  have hnodup : ({ m with idles := rest }.addController c).listedSlots.Nodup ↔
      ∀ e ∈ m.connectedControllers, e.slot = c.slot → e.type = c.type :=
    nodup_addController (m := { m with idles := rest }) h.unique
  rw [horderly, settling_iff, hnodup]
  refine and_congr_right fun _ => ?_
  constructor
  · intro hcourse
    by_cases hconnect : m.lastSignal c.slot = some .connect
    · exact Or.inl hconnect
    · have hne : ({ m with idles := rest }.addController c).lastSignal c.slot ≠ some .connect := by
        rw [hlast]
        exact hconnect
      have hremoving := (hcourse c.slot).gone hne (mem_listedSlots_addController.mpr (Or.inr rfl))
      rw [ControllerManager.Removing, htimers, hleft] at hremoving
      exact Or.inr hremoving
  · intro hstay slot'
    constructor
    · intro hconnect
      rw [hlast] at hconnect
      rw [htimers]
      exact (h.connect slot' hconnect).imp id (sourced_addController hidles)
    · intro hne hlisted
      rw [hlast] at hne
      rw [ControllerManager.Removing, htimers, hleft]
      by_cases hslot : slot' = c.slot
      · subst hslot
        exact hstay.resolve_left hne
      · have hbefore : slot' ∈ m.listedSlots :=
          (mem_listedSlots_addController.mp hlisted).resolve_right hslot
        refine (h.gone slot' hne hbefore).imp id fun hmem => ?_
        rw [hidles] at hmem
        exact (List.mem_cons.mp hmem).resolve_left fun heq => IdleCall.noConfusion heq

/-- **The rest of `remove_controller`**: the timer goes with a controller, and a selection may be queued. -/
theorem removeController_rest (gone : UInt8) :
    (m.removeController gone).infoFetches = m.infoFetches ∧
      (m.removeController gone).keymapFetches = m.keymapFetches ∧
      (m.removeController gone).lastSignal = m.lastSignal ∧
      (m.removeController gone).lastFetched = m.lastFetched ∧
      ((m.removeController gone).idles = m.idles ∨
        (m.removeController gone).idles = m.idles ++ [.selectFirst]) ∧
      ∀ slot', (m.removeController gone).timers slot' =
        if gone ∈ m.listedSlots ∧ slot' = gone then none else m.timers slot' := by
  have hany : (m.connectedControllers.any fun e => e.slot == gone) = true ↔ gone ∈ m.listedSlots := by
    rw [List.any_eq_true, ControllerManager.listedSlots, List.mem_map]
    simp only [beq_iff_eq]
  unfold ControllerManager.removeController
  by_cases hlisted : gone ∈ m.listedSlots
  · rw [if_pos (hany.mpr hlisted)]
    refine ⟨rfl, rfl, rfl, rfl, ?_, fun slot' => ?_⟩
    · dsimp only
      split
      · exact Or.inr rfl
      · exact Or.inl rfl
    · show Function.update m.timers gone none slot' = _
      rw [Function.update_apply]
      simp only [hlisted, true_and]
  · rw [if_neg fun h => hlisted (hany.mp h)]
    exact ⟨rfl, rfl, rfl, rfl, Or.inl rfl, fun slot' => by simp [hlisted]⟩

/-- A removal changes no slot's sources: what it removes was not there to stay. -/
theorem sourced_removeController (h : m.listedSlots.Nodup) {gone : UInt8} {rest : List IdleCall}
    (hidles : m.idles = .remove gone :: rest) (slot' : UInt8) :
    ({ m with idles := rest }.removeController gone).Sourced slot' ↔ m.Sourced slot' := by
  obtain ⟨hinfo, hkeymap, -, hfetched, hleft, -⟩ :=
    removeController_rest (m := { m with idles := rest }) gone
  have hlists : ∀ type, ({ m with idles := rest }.removeController gone).Lists slot' type ↔
      slot' ≠ gone ∧ m.Lists slot' type :=
    fun _ => lists_removeController (m := { m with idles := rest }) h gone
  have hadds : ∀ type, AddsLast ({ m with idles := rest }.removeController gone).idles slot' type ↔
      AddsLast m.idles slot' type := by
    intro type
    rw [hidles, addsLast_cons_iff fun c heq => IdleCall.noConfusion heq]
    rcases hleft with hsame | hselect
    · rw [hsame]
    · rw [hselect]
      exact ⟨fun happ => happ.of_append fun c heq => IdleCall.noConfusion heq,
        fun hadds => hadds.append fun heq => IdleCall.noConfusion heq⟩
  have hstays : ∀ type, (.remove slot' ∉ ({ m with idles := rest }.removeController gone).idles ∧
      ({ m with idles := rest }.removeController gone).Lists slot' type) ↔
        .remove slot' ∉ m.idles ∧ m.Lists slot' type := by
    intro type
    have hmem : .remove slot' ∈ ({ m with idles := rest }.removeController gone).idles ↔
        .remove slot' ∈ rest := by
      rcases hleft with hsame | hselect
      · rw [hsame]
      · rw [hselect, List.mem_append, List.mem_singleton]
        exact ⟨fun hor => hor.resolve_right fun heq => IdleCall.noConfusion heq, Or.inl⟩
    rw [hmem, hlists, hidles, List.mem_cons, not_or, IdleCall.remove.injEq]
    constructor
    · rintro ⟨hrest, hne, hlisted⟩
      exact ⟨⟨hne, hrest⟩, hlisted⟩
    · rintro ⟨⟨hne, hrest⟩, hlisted⟩
      exact ⟨hrest, hne, hlisted⟩
  simp only [ControllerManager.Sourced, ControllerManager.Arriving, hinfo, hkeymap, hfetched, hadds, hstays]

/-- **A removal** keeps it on its way exactly when it cancels no connect timer that is needed. -/
theorem settling_remove_iff (h : Settling m) (htimers : TimersRight m) {gone : UInt8} {rest : List IdleCall}
    (hidles : m.idles = .remove gone :: rest) :
    Settling ({ m with idles := rest }.removeController gone) ↔ ManagerMove.idle.Orderly m := by
  have horderly : ManagerMove.idle.Orderly m ↔
      (gone ∈ m.listedSlots → m.timers gone = some .connect → m.Sourced gone) := by
    simp only [ManagerMove.Orderly, hidles]
  obtain ⟨-, -, hlast, -, hleft, htimer⟩ := removeController_rest (m := { m with idles := rest }) gone
  have hsourced := sourced_removeController h.unique hidles
  rw [horderly]
  constructor
  · intro hsettled hlisted harmed
    rcases hsettled.connect gone (by rw [hlast]; exact htimers gone _ harmed) with hkept | hsource
    · have hnone := (htimer gone).trans (if_pos ⟨hlisted, rfl⟩)
      rw [hnone] at hkept
      cases hkept
    · exact (hsourced gone).mp hsource
  · intro hneeded
    refine ⟨nodup_removeController (m := { m with idles := rest }) h.unique gone, fun slot' hconnect => ?_,
      fun slot' hne hlisted => ?_⟩
    · rw [hlast] at hconnect
      rw [hsourced]
      rcases h.connect slot' hconnect with harmed | hsource
      · by_cases hgone : gone ∈ m.listedSlots ∧ slot' = gone
        · obtain ⟨hlisted, rfl⟩ := hgone
          exact Or.inr (hneeded hlisted harmed)
        · exact Or.inl (((htimer slot').trans (if_neg hgone)).trans harmed)
      · exact Or.inr hsource
    · rw [hlast] at hne
      obtain ⟨type, hlists⟩ := mem_listedSlots.mp hlisted
      obtain ⟨hother, hold⟩ := (lists_removeController (m := { m with idles := rest }) h.unique gone).mp hlists
      rcases h.gone slot' hne (mem_listedSlots.mpr ⟨type, hold⟩) with harmed | hmem
      · exact Or.inl (((htimer slot').trans (if_neg fun hand => hother hand.2)).trans harmed)
      · rw [hidles, List.mem_cons, IdleCall.remove.injEq] at hmem
        have hrest := hmem.resolve_left hother
        refine Or.inr ?_
        rcases hleft with hsame | hselect
        · exact hsame ▸ hrest
        · exact hselect ▸ List.mem_append_left _ hrest

/-- The first controller is selected: the list stays. -/
theorem settling_selectFirst (h : Settling m) {rest : List IdleCall} (hidles : m.idles = .selectFirst :: rest) :
    Settling ({ m with idles := rest }.selectFirst) := by
  have hselect : ∀ n : ControllerManager, Settling n → Settling n.selectFirst := by
    intro n hn
    unfold ControllerManager.selectFirst
    split
    · exact ⟨hn.unique, hn.connect, hn.gone⟩
    · exact hn
  have hrest : ∀ slot', .remove slot' ∈ m.idles → .remove slot' ∈ rest := by
    intro slot' hmem
    rw [hidles] at hmem
    exact (List.mem_cons.mp hmem).resolve_left fun heq => IdleCall.noConfusion heq
  refine hselect _ ?_
  rw [settling_iff] at h ⊢
  refine ⟨h.1, fun slot' => (h.2 slot').step ⟨rfl, rfl, fun hsourced => hsourced.imp id ?_, id, hrest slot'⟩⟩
  rintro ⟨type, htype, hwaits | hadds | ⟨hnone, hlists⟩⟩
  · exact ⟨type, htype, Or.inl hwaits⟩
  · rw [hidles, addsLast_cons_iff fun c heq => IdleCall.noConfusion heq] at hadds
    exact ⟨type, htype, Or.inr (Or.inl hadds)⟩
  · refine ⟨type, htype, Or.inr (Or.inr ⟨fun hmem => hnone ?_, hlists⟩)⟩
    rw [hidles]
    exact List.mem_cons_of_mem _ hmem

/-- A reply is for a slot that waits for one. -/
theorem managerStep_info {reply : Option (List DBusValue)}
    (hstep : managerStep (.info slot reply) m = some m') : m.onInfo slot reply = m' := by
  simp only [managerStep] at hstep
  split_ifs at hstep
  exact Option.some.inj hstep

/-- What runs is the head of the queue. -/
theorem managerStep_idle (hstep : managerStep .idle m = some m') :
    ∃ call rest, m.idles = call :: rest ∧ { m with idles := rest }.runIdle call = m' := by
  cases hidles : m.idles with
  | nil => simp [managerStep, hidles] at hstep
  | cons call rest => exact ⟨call, rest, rfl, by simpa [managerStep, hidles] using hstep⟩

/-- **The condition is exact**: a step keeps the manager on its way if and only if it meets it. -/
theorem settling_step_iff (h : Settling m) (htimers : TimersRight m) {move : ManagerMove}
    (hstep : managerStep move m = some m') : Settling m' ↔ move.Orderly m := by
  cases move with
  | signal slot signal =>
      obtain rfl := Option.some.inj hstep
      exact iff_of_true (settling_onSignal h slot signal) trivial
  | timer slot =>
      obtain ⟨armed, harmed, rfl⟩ := Option.map_eq_some_iff.mp hstep
      exact iff_of_true (settling_onTimer h htimers harmed) trivial
  | info slot reply =>
      obtain rfl := managerStep_info hstep
      exact settling_onInfo_iff h reply
  | keymap n reply =>
      obtain ⟨c, hc, rfl⟩ := Option.map_eq_some_iff.mp hstep
      exact iff_of_true (settling_onKeymap h hc reply) trivial
  | idle =>
      obtain ⟨call, rest, hidles, rfl⟩ := managerStep_idle hstep
      cases call with
      | add c => exact settling_add_iff h hidles
      | remove gone => exact settling_remove_iff h htimers hidles
      | selectFirst =>
          have horderly : ManagerMove.idle.Orderly m := by
            simp only [ManagerMove.Orderly, hidles]
          exact iff_of_true (settling_selectFirst h hidles) horderly

/-- A step that arms no timer and notes no signal. -/
theorem TimersRight.mono (h : TimersRight m) (hlast : m'.lastSignal = m.lastSignal)
    (hleft : ∀ slot armed, m'.timers slot = some armed → m.timers slot = some armed) : TimersRight m' := by
  intro slot armed harmed
  rw [hlast]
  exact h slot armed (hleft slot armed harmed)

/-- A step leaves only timers of last signals. -/
theorem timersRight_step (htimers : TimersRight m) {move : ManagerMove}
    (hstep : managerStep move m = some m') : TimersRight m' := by
  have hcleared : ∀ slot slot' armed, Function.update m.timers slot none slot' = some armed →
      m.timers slot' = some armed := by
    intro slot slot' armed harmed
    rw [Function.update_apply] at harmed
    split_ifs at harmed
    exact harmed
  cases move with
  | signal slot signal =>
      obtain rfl := Option.some.inj hstep
      intro slot' armed harmed
      simp only [ControllerManager.onSignal, Function.update_apply] at harmed ⊢
      split_ifs at harmed ⊢
      · exact harmed
      · exact htimers slot' armed harmed
  | timer slot =>
      obtain ⟨armed, -, rfl⟩ := Option.map_eq_some_iff.mp hstep
      cases armed with
      | connect => exact htimers.mono rfl (hcleared slot)
      | disconnect => exact htimers.mono rfl (hcleared slot)
  | info slot reply =>
      obtain rfl := managerStep_info hstep
      unfold ControllerManager.onInfo
      split
      · split_ifs <;> exact htimers
      · exact htimers
  | keymap n reply =>
      obtain ⟨c, -, rfl⟩ := Option.map_eq_some_iff.mp hstep
      exact htimers
  | idle =>
      obtain ⟨call, rest, -, rfl⟩ := managerStep_idle hstep
      cases call with
      | add c =>
          obtain ⟨htimer, -, -, -, hlast, -⟩ := addController_rest (m := { m with idles := rest }) c
          exact htimers.mono hlast fun slot armed harmed => htimer ▸ harmed
      | remove gone =>
          obtain ⟨-, -, hlast, -, -, htimer⟩ := removeController_rest (m := { m with idles := rest }) gone
          refine htimers.mono hlast fun slot armed harmed => ?_
          rw [ControllerManager.runIdle, htimer slot] at harmed
          split_ifs at harmed
          exact harmed
      | selectFirst =>
          show TimersRight ({ m with idles := rest }.selectFirst)
          unfold ControllerManager.selectFirst
          split <;> exact htimers

end Step

/-! ## Every run -/

theorem settling_emptyManager : Settling emptyManager where
  unique := List.nodup_nil
  connect := fun _ hlast => by cases hlast
  gone := fun _ _ hlisted => by cases hlisted

/-- The two invariants, along a run. -/
theorem settling_reachable {m : ControllerManager}
    (hrun : Run managerStep ManagerMove.Orderly emptyManager m) : Settling m ∧ TimersRight m := by
  have hstart : Settling emptyManager ∧ TimersRight emptyManager :=
    ⟨settling_emptyManager, fun _ _ harmed => by cases harmed⟩
  refine hrun.invariant (I := fun m => Settling m ∧ TimersRight m) (fun move m₁ m₂ h hok hstep => ?_) hstart
  exact ⟨(settling_step_iff h.1 h.2 hstep).mpr hok, timersRight_step h.2 hstep⟩

/-- **Whole executions**: the manager stays on its way to the right list exactly when every step is
orderly. -/
theorem settling_throughout_iff (moves : List ManagerMove) :
    Throughout managerStep Settling moves emptyManager ↔
      Meets managerStep ManagerMove.Orderly moves emptyManager :=
  throughout_iff_meets (J := TimersRight) (fun _ _ _ htimers hstep => timersRight_step htimers hstep)
    (fun _ _ _ htimers h hstep => settling_step_iff h htimers hstep) moves
    (fun _ _ harmed => by cases harmed) settling_emptyManager

/-- **The manager lists the right controllers.**  In every run whose steps are orderly, for any order of
signals, timers, replies and idle callbacks: no slot is ever listed twice, and once everything has run the
list holds exactly the slots whose last signal was a connect signal, with the types last fetched. -/
theorem manager_lists_lastSignals {m : ControllerManager}
    (hrun : Run managerStep ManagerMove.Orderly emptyManager m) :
    m.listedSlots.Nodup ∧ (m.Quiescent → m.ListsLastSignals) := by
  have hsettling := (settling_reachable hrun).1
  exact ⟨hsettling.unique, hsettling.lists⟩

/-- A controller is plugged into a slot, fetched and listed. -/
def shownOnce (slot : UInt8) (reply : List DBusValue) : List ManagerMove :=
  [.signal slot .connect, .timer slot, .info slot (some reply), .keymap 0 none, .idle]

/-- The resting controller as a DualShock 4. -/
def ds4State : ControllerState :=
  { restingState with slot := { restingState.slot with type := .ds4 } }

/-- A test for the condition on a step: the fetch is accepted; the slot of a controller to add is still connected
and shows no other type; the slot to remove is not being connected. -/
def ManagerMove.orderlyTest (move : ManagerMove) (m : ControllerManager) : Bool :=
  match move with
  | .info slot reply => reply.any fun values => (ListedController.fetched slot values).info.connected
  | .idle =>
      match m.idles with
      | .add c :: _ =>
          (m.connectedControllers.all fun e => e.slot != c.slot || e.type == c.type) &&
            m.lastSignal c.slot == some .connect
      | .remove slot :: _ => m.timers slot != some .connect
      | _ => true
  | _ => true

theorem ManagerMove.orderly_of_test (move : ManagerMove) (m : ControllerManager) (h : move.orderlyTest m = true) :
    move.Orderly m := by
  cases move with
  | signal slot signal => trivial
  | timer slot => trivial
  | keymap n reply => trivial
  | info slot reply =>
      obtain ⟨values, rfl, hconnected⟩ := (Option.any_eq_true _ _).mp h
      exact fun _ => Or.inl ⟨values, rfl, hconnected⟩
  | idle =>
      unfold ManagerMove.orderlyTest at h
      unfold ManagerMove.Orderly
      dsimp only at h ⊢
      cases hidles : m.idles with
      | nil => trivial
      | cons call rest =>
          rw [hidles] at h
          cases call with
          | add c =>
              simp only [Bool.and_eq_true, List.all_eq_true, Bool.or_eq_true, bne_iff_ne, beq_iff_eq] at h
              exact ⟨fun e he hslot => (h.1 e he).resolve_left (not_not_intro hslot), Or.inl h.2⟩
          | remove slot => exact fun _ htimer => absurd htimer (bne_iff_ne.mp h)
          | selectFirst => trivial

/-- A test for a manager whose work is done. -/
def ControllerManager.quiescentTest (m : ControllerManager) : Bool :=
  ((List.range 256).all fun n => (m.timers (UInt8.ofNat n)).isNone) && m.infoFetches.isEmpty &&
    m.keymapFetches.isEmpty && m.idles.isEmpty

theorem ControllerManager.quiescent_of_test {m : ControllerManager} (h : m.quiescentTest = true) : m.Quiescent := by
  simp only [ControllerManager.quiescentTest, Bool.and_eq_true, List.all_eq_true, List.mem_range,
    Option.isNone_iff_eq_none, List.isEmpty_iff] at h
  obtain ⟨⟨⟨htimers, hinfo⟩, hkeymap⟩, hidles⟩ := h
  refine ⟨fun slot => ?_, hinfo, hkeymap, hidles⟩
  have hslot := htimers slot.toNat slot.toNat_lt
  rwa [UInt8.ofNat_toNat] at hslot

/-- Two controllers are plugged in; the first is unplugged and removed, and its slot plugged in again with a
controller of another type. -/
def replugged : List ManagerMove :=
  shownOnce 0 (controllerInfo restingState) ++ shownOnce 1 (controllerInfo restingState) ++
    [.signal 0 .disconnect, .timer 0, .idle, .idle] ++ shownOnce 0 (controllerInfo ds4State)

theorem manager_lists_lastSignals_replugged :
    ∃ m, Run managerStep ManagerMove.Orderly emptyManager m ∧ m.listedSlots = [1, 0] ∧
      m.listedSlots.Nodup ∧ m.ListsLastSignals := by
  obtain ⟨m, hrun, hend⟩ : ∃ m, Run managerStep ManagerMove.Orderly emptyManager m ∧
      (m.quiescentTest && m.listedSlots == [1, 0]) = true :=
    exists_run_of_exec_checked (p := fun m : ControllerManager => m.quiescentTest && m.listedSlots == [1, 0])
      ManagerMove.orderly_of_test replugged (by decide +kernel)
  rw [Bool.and_eq_true, beq_iff_eq] at hend
  obtain ⟨hnodup, hlists⟩ := manager_lists_lastSignals hrun
  exact ⟨m, hrun, hend.2, hnodup, hlists (ControllerManager.quiescent_of_test hend.1)⟩

/-- **A DualSense is replaced by a DualShock 4 within 100 ms**: the connect signal cancels the removal, and
the slot is listed twice. -/
theorem replaced_listed_twice :
    ∃ m, Run managerStep free emptyManager m ∧ ¬m.listedSlots.Nodup := by
  obtain ⟨m, hrun, htwice⟩ : ∃ m, Run managerStep free emptyManager m ∧
      (decide ¬m.listedSlots.Nodup) = true :=
    exists_run_of_exec (p := fun m : ControllerManager => decide ¬m.listedSlots.Nodup)
      (shownOnce 0 (controllerInfo restingState) ++ .signal 0 .disconnect ::
        shownOnce 0 (controllerInfo ds4State)) (by decide +kernel)
  exact ⟨m, hrun, of_decide_eq_true htwice⟩

end Dstx
