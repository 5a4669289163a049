/-
# Dstx.Led.EffectTable — the effect engine on raw numbers: `g_effects` is never indexed out of range.

`Led.Engine` gives the running effect a type with nine values.  The C code has an `int` that other processes
write into shared memory, casts it to `led_effect_t` and indexes a table of nine entries with it.  Here the
engine is written with that number; an index behind the table's end makes a call `none`.

Every call gets whatever content the shared memory has at that moment, with no relation to the call before.
`engine_in_range` is the result over every sequence of calls; `typedRequest_eq` and `typedUpdate_eq` connect
the raw engine with the typed one.
-/
import Dstx.Led.Engine
import Dstx.Lib.Run
import Mathlib.Tactic.IntervalCases

namespace Dstx

open Dstx.Lib

/-! ## The engine on raw numbers -/

/-- `led_slot_state_t`, with `current_effect` as the number it is. -/
structure RawLedState (τ : Type) where
  currentEffect : Int
  startTime : τ
  speed : UInt8
  brightness : UInt8
  active : Bool
  lastWrite : Timeval
  last : Rgb

/-- **`g_effects`**: the colour functions, as many as the static assertion wants.  The phase is computed
from the state and the time, so an entry gets these. -/
structure EffectTable (τ : Type) where
  entries : List (RawLedState τ → Controller → Pad → τ → Rgb)
  complete : entries.length = ledfxCount

/-- `g_effects[effect]`; `none` outside the table. -/
def EffectTable.at? {τ : Type} (T : EffectTable τ) (effect : Int) :
    Option (RawLedState τ → Controller → Pad → τ → Rgb) :=
  if effect < 0 then none else T.entries[effect.toNat]?

variable {τ : Type} (T : EffectTable τ)

/-- What `ledfx_process_requests` makes of one slot of shared memory: `none` when it indexes the table out
of range (it logs the name of the effect it starts). -/
def rawProcessRequest (connected : Bool) (now : τ) (tv : Timeval) (c : Controller) (st : RawLedState τ) :
    Option (Controller × RawLedState τ) :=
  if !connected || !c.ledRequestPending then some (c, st)
  else if c.ledRequestEffect = 0 then
    some
      ({ c.show (baseColour c id) with
          ledRequestPending := false
          ledStatic := true
          ledDirty := true },
        { st with active := false })
  else if c.ledRequestEffect > 0 ∧ c.ledRequestEffect < ledfxCount then
    let c' := if c.ledRequestEffect = 7 ∨ c.ledRequestEffect = 8 then c.show Rgb.black else c
    (T.at? c.ledRequestEffect).map fun _ =>
      ({ c' with
          ledRequestPending := false
          ledStatic := false
          ledDirty := true },
        { st with
          active := true
          currentEffect := c.ledRequestEffect
          speed := sanitizeSpeed c.ledRequestSpeed
          brightness := sanitizeBrightness c.ledRequestBrightness
          startTime := now
          lastWrite := tv
          last := Rgb.black })
  else some ({ c with ledRequestPending := false }, st)

/-- The rate limit of `ledfx_update_slot`. -/
def RawLedState.rateLimited (st : RawLedState τ) (now : Timeval) : Bool :=
  let isFirstFrame := st.lastWrite.sec == 0 && st.lastWrite.usec == 0
  let cacheReset := st.last == Rgb.black
  !isFirstFrame && !cacheReset && decide (timevalDiffUs now st.lastWrite < 8000)

/-- `ledfx_update_slot` gets as far as calling the effect. -/
def RawLedState.runs (connected : Bool) (c : Controller) (st : RawLedState τ) (now : Timeval) : Bool :=
  connected && !c.ledStatic && st.active && !st.rateLimited now

/-- `ledfx_update_slot` on one slot: `none` when it indexes the table out of range. -/
def rawUpdateSlot (connected : Bool) (pad : Pad) (now : Timeval) (currentTime : τ) (c : Controller)
    (st : RawLedState τ) : Option (Bool × Controller × RawLedState τ) :=
  if st.runs connected c now then
    (T.at? st.currentEffect).map fun update =>
      let frame := update st c pad currentTime
      if frame ≠ st.last then
        (true, { c.show frame with ledDirty := true }, { st with last := frame, lastWrite := now })
      else (false, c, st)
  else some (false, c, st)

/-! ## Calls -/

/-- `g_slot_state`. -/
abbrev RawEngine (τ : Type) := Fin maxSlots → RawLedState τ

/-- **`ledfx_init`**, called with `g_initialized` false. -/
def ledfxInit (zero : τ) (_ : RawEngine τ) : RawEngine τ := fun _ =>
  { currentEffect := 0
    startTime := zero
    speed := 5
    brightness := 80
    active := false
    lastWrite := ⟨0, 0⟩
    last := Rgb.black }

/-- A slot of the shared memory, as one call finds it. -/
structure SlotView where
  connected : Bool
  controller : Controller
  pad : Pad

/-- A call of a worker, with the content of the shared memory at that moment and the clocks it reads. -/
inductive EngineCall (τ : Type) where
  | processRequests (shm : Fin maxSlots → SlotView) (now : Fin maxSlots → τ) (tv : Fin maxSlots → Timeval)
  | updateSlot (slotIdx : Int) (currentTime : τ) (view : SlotView) (now : Timeval)

/-- One round of the loop of `ledfx_process_requests`. -/
def processSlot (shm : Fin maxSlots → SlotView) (now : Fin maxSlots → τ) (tv : Fin maxSlots → Timeval)
    (i : Fin maxSlots) (e : RawEngine τ) : Option (RawEngine τ) :=
  (rawProcessRequest T (shm i).connected (now i) (tv i) (shm i).controller (e i)).map fun r =>
    Function.update e i r.2

theorem slotIdx_lt {slotIdx : Int} (h : 0 ≤ slotIdx ∧ slotIdx < maxSlots) : slotIdx.toNat < maxSlots := by
  omega

/-- **A call on the private state**; `none` when it indexes the effect table out of range. -/
def engineCall (call : EngineCall τ) (e : RawEngine τ) : Option (RawEngine τ) :=
  match call with
  | .processRequests shm now tv => exec (processSlot T shm now tv) (List.finRange maxSlots) e
  | .updateSlot slotIdx currentTime view now =>
      if h : 0 ≤ slotIdx ∧ slotIdx < maxSlots then
        let i : Fin maxSlots := ⟨slotIdx.toNat, slotIdx_lt h⟩
        (rawUpdateSlot T view.connected view.pad now currentTime view.controller (e i)).map fun r =>
          Function.update e i r.2.2
      else some e

/-! ## The invariant -/

/-- **The private state of a slot is in range.** -/
structure RawLedState.InRange (st : RawLedState τ) : Prop where
  effect : 0 ≤ st.currentEffect ∧ st.currentEffect < ledfxCount
  running : st.active = true → 1 ≤ st.currentEffect
  speed : 1 ≤ st.speed ∧ st.speed ≤ 10
  brightness : 1 ≤ st.brightness ∧ st.brightness ≤ 100

/-- The table has an entry for every number below `LEDFX_COUNT`. -/
theorem EffectTable.at?_eq_some {effect : Int} (h : 0 ≤ effect ∧ effect < ledfxCount) :
    ∃ update, T.at? effect = some update := by
  have hlt : effect.toNat < T.entries.length := by
    rw [T.complete]
    omega
  unfold EffectTable.at?
  rw [if_neg (not_lt.mpr h.1)]
  exact ⟨_, List.getElem?_eq_getElem hlt⟩

/-- **One request**: the state stays in range, whatever the request says. -/
theorem rawProcessRequest_inRange (connected : Bool) (now : τ) (tv : Timeval) (c : Controller)
    {st : RawLedState τ} (h : st.InRange) :
    ∃ r, rawProcessRequest T connected now tv c st = some r ∧ r.2.InRange := by
  unfold rawProcessRequest
  by_cases hidle : (!connected || !c.ledRequestPending) = true
  · rw [if_pos hidle]
    exact ⟨_, rfl, h⟩
  rw [if_neg hidle]
  by_cases hstatic : c.ledRequestEffect = 0
  · rw [if_pos hstatic]
    refine ⟨_, rfl, h.effect, fun hactive => ?_, h.speed, h.brightness⟩
    cases (show false = true from hactive)
  rw [if_neg hstatic]
  by_cases hknown : c.ledRequestEffect > 0 ∧ c.ledRequestEffect < ledfxCount
  · obtain ⟨update, hupdate⟩ := T.at?_eq_some ⟨hknown.1.le, hknown.2⟩
    rw [if_pos hknown, hupdate]
    exact ⟨_, rfl, ⟨hknown.1.le, hknown.2⟩, fun _ => hknown.1, sanitizeSpeed_mem _,
      sanitizeBrightness_mem _⟩
  · rw [if_neg hknown]
    exact ⟨_, rfl, h⟩

/-- **One update**: the effect table has an entry for the running effect, and the state stays in range. -/
theorem rawUpdateSlot_inRange (connected : Bool) (pad : Pad) (now : Timeval) (currentTime : τ)
    (c : Controller) {st : RawLedState τ} (h : st.InRange) :
    ∃ r, rawUpdateSlot T connected pad now currentTime c st = some r ∧ r.2.2.InRange := by
  unfold rawUpdateSlot
  split_ifs with hruns
  · obtain ⟨update, hupdate⟩ := T.at?_eq_some h.effect
    rw [hupdate, Option.map_some]
    refine ⟨_, rfl, ?_⟩
    dsimp only
    split_ifs
    · exact ⟨h.effect, h.running, h.speed, h.brightness⟩
    · exact h
  · exact ⟨_, rfl, h⟩

/-- Every slot is in range. -/
def EngineInRange (e : RawEngine τ) : Prop := ∀ i, (e i).InRange

theorem EngineInRange.update {e : RawEngine τ} (h : EngineInRange e) {i : Fin maxSlots} {st : RawLedState τ}
    (hst : st.InRange) : EngineInRange (Function.update e i st) := by
  intro j
  by_cases hj : j = i
  · subst hj
    rw [Function.update_self]
    exact hst
  · rw [Function.update_of_ne hj]
    exact h j

/-- **One call** stays within the table and keeps every slot in range. -/
theorem engineCall_inRange (call : EngineCall τ) {e : RawEngine τ} (h : EngineInRange e) :
    ∃ e', engineCall T call e = some e' ∧ EngineInRange e' := by
  cases call with
  | processRequests shm now tv =>
      refine exec_total (fun i e he => ?_) (List.finRange maxSlots) h
      obtain ⟨r, hr, hrange⟩ :=
        rawProcessRequest_inRange T (shm i).connected (now i) (tv i) (shm i).controller (he i)
      refine ⟨Function.update e i r.2, ?_, he.update hrange⟩
      unfold processSlot
      rw [hr, Option.map_some]
  | updateSlot slotIdx currentTime view now =>
      unfold engineCall
      dsimp only
      split_ifs with hslot
      · obtain ⟨r, hr, hrange⟩ := rawUpdateSlot_inRange T view.connected view.pad now currentTime
          view.controller (h ⟨slotIdx.toNat, slotIdx_lt hslot⟩)
        rw [hr, Option.map_some]
        exact ⟨_, rfl, h.update hrange⟩
      · exact ⟨e, rfl, h⟩

theorem ledfxInit_inRange (zero : τ) (before : RawEngine τ) : EngineInRange (ledfxInit zero before) := by
  intro i
  have hcount : (ledfxCount : Int) = 9 := rfl
  refine ⟨⟨Int.le_refl 0, ?_⟩, fun hactive => ?_, ?_, ?_⟩
  · show (0 : Int) < ledfxCount
    omega
  · cases (show false = true from hactive)
  · show (1 : UInt8) ≤ 5 ∧ (5 : UInt8) ≤ 10
    decide
  · show (1 : UInt8) ≤ 80 ∧ (80 : UInt8) ≤ 100
    decide

/-- A request with an unknown effect is consumed and changes nothing else. -/
def UnknownIsConsumed : Prop :=
  ∀ (now : τ) (tv : Timeval) (c : Controller) (st : RawLedState τ), c.ledRequestPending = true →
    (c.ledRequestEffect < 0 ∨ ledfxCount ≤ c.ledRequestEffect) →
      rawProcessRequest T true now tv c st = some ({ c with ledRequestPending := false }, st)

/-- **The effect table is never indexed out of range.**  For all colour functions, whatever `g_slot_state`
was before `ledfx_init`, and every sequence of calls, each with any content of the shared memory: no call
leaves the table, and every slot's `current_effect` is below `LEDFX_COUNT` and at least 1 when active, its
speed in 1..10 and its brightness in 1..100; and a request with an unknown effect is consumed without
changing the private state. -/
theorem engine_in_range (zero : τ) (before : RawEngine τ) (calls : List (EngineCall τ)) :
    (∃ e, exec (engineCall T) calls (ledfxInit zero before) = some e ∧ EngineInRange e) ∧
      UnknownIsConsumed T := by
  constructor
  · exact exec_total (fun call e he => engineCall_inRange T call he) calls (ledfxInit_inRange zero before)
  · intro now tv c st hpending hunknown
    have hcount : (ledfxCount : Int) = 9 := rfl
    unfold rawProcessRequest
    rw [if_neg (by simp [hpending]), if_neg (by omega), if_neg (by omega)]

/-! ## The typed engine -/

/-- The state with the effect's type; out of range it would be static. -/
def RawLedState.typed (st : RawLedState τ) : LedSlotState τ where
  currentEffect := (LedEffect.ofInt st.currentEffect).getD .static
  startTime := st.startTime
  speed := st.speed
  brightness := st.brightness
  active := st.active
  lastWrite := st.lastWrite
  last := st.last

/-- The effects, in the order of `led_effect_t`. -/
def ledEffects : List LedEffect :=
  [.static, .breath, .rainbow, .pulse, .strobe, .wave, .battery, .trigger, .buttonPress]

/-- The colour functions of `led.c`. -/
def ledTable {φ : Type} (M : LedMath τ φ) : EffectTable τ where
  entries := ledEffects.map fun effect st c pad currentTime =>
    effectUpdate M effect st.brightness c pad (M.phase effect st.speed st.startTime currentTime)
  complete := rfl

/-- The typed table lookup and the raw one find the same entry. -/
theorem ledTable_at? {φ : Type} (M : LedMath τ φ) (effect : Int) :
    (ledTable M).at? effect = (LedEffect.ofInt effect).map fun entry st c pad currentTime =>
      effectUpdate M entry st.brightness c pad (M.phase entry st.speed st.startTime currentTime) := by
  unfold EffectTable.at? LedEffect.ofInt
  by_cases h : effect < 0
  · rw [if_pos h, if_pos h]
    rfl
  · rw [if_neg h, if_neg h]
    exact List.getElem?_map

/-- What lies behind the table has no type. -/
theorem ofInt_eq_none {effect : Int} (h : ¬(0 ≤ effect ∧ effect < ledfxCount)) :
    LedEffect.ofInt effect = none := by
  have hcount : (ledfxCount : Int) = 9 := rfl
  unfold LedEffect.ofInt
  by_cases hneg : effect < 0
  · exact if_pos hneg
  · rw [if_neg hneg]
    apply List.getElem?_eq_none
    show 9 ≤ effect.toNat
    omega

theorem ofInt_eq_some {effect : Int} (h : 0 ≤ effect ∧ effect < ledfxCount) :
    ∃ entry, LedEffect.ofInt effect = some entry ∧
      (entry = .trigger ∨ entry = .buttonPress ↔ effect = 7 ∨ effect = 8) := by
  have hcount : (ledfxCount : Int) = 9 := rfl
  obtain ⟨h₀, h₁⟩ := h
  rw [hcount] at h₁
  interval_cases effect <;> exact ⟨_, rfl, by decide⟩

/-- **Requests**: the raw engine does what the typed one does. -/
theorem typedRequest_eq {φ : Type} (M : LedMath τ φ) (connected : Bool) (now : τ) (tv : Timeval)
    (c : Controller) (st : RawLedState τ) :
    (rawProcessRequest (ledTable M) connected now tv c st).map (fun r => (r.1, r.2.typed)) =
      some (ledfxProcessRequest connected now tv c st.typed) := by
  have hcount : (ledfxCount : Int) = 9 := rfl
  unfold rawProcessRequest ledfxProcessRequest
  by_cases hidle : (!connected || !c.ledRequestPending) = true
  · rw [if_pos hidle, if_pos hidle]
    rfl
  rw [if_neg hidle, if_neg hidle]
  by_cases hstatic : c.ledRequestEffect = 0
  · rw [if_pos hstatic, if_pos hstatic]
    rfl
  rw [if_neg hstatic, if_neg hstatic]
  by_cases hknown : c.ledRequestEffect > 0 ∧ c.ledRequestEffect < ledfxCount
  · obtain ⟨entry, hentry, hblack⟩ := ofInt_eq_some ⟨hknown.1.le, hknown.2⟩
    rw [if_pos hknown, ledTable_at?, hentry]
    simp only [Option.map_some, hblack]
    unfold RawLedState.typed
    simp only [hentry, Option.getD_some]
  · rw [if_neg hknown, ofInt_eq_none (by omega)]
    rfl

/-- **Updates** of a slot in range: the same. -/
theorem typedUpdate_eq {φ : Type} (M : LedMath τ φ) (connected : Bool) (pad : Pad) (now : Timeval)
    (currentTime : τ) (c : Controller) {st : RawLedState τ} (h : st.InRange) :
    (rawUpdateSlot (ledTable M) connected pad now currentTime c st).map
        (fun r => (r.1, r.2.1, r.2.2.typed)) =
      some (ledfxUpdate M connected pad now currentTime c st.typed) := by
  obtain ⟨entry, hentry, -⟩ := ofInt_eq_some h.effect
  have hframe : ledFrame M c pad st.typed currentTime =
      effectUpdate M entry st.brightness c pad (M.phase entry st.speed st.startTime currentTime) := by
    unfold ledFrame RawLedState.typed
    simp only [hentry, Option.getD_some]
  unfold rawUpdateSlot ledfxUpdate
  by_cases hruns : st.runs connected c now = true
  · rw [if_pos hruns, if_pos (show ledfxRuns connected c st.typed now = true from hruns), ledTable_at?,
      hentry, hframe]
    simp only [Option.map_some]
    by_cases hnew : effectUpdate M entry st.brightness c pad
        (M.phase entry st.speed st.startTime currentTime) ≠ st.last
    · rw [if_pos hnew, if_pos (show _ ≠ st.typed.last from hnew)]
      rfl
    · rw [if_neg hnew, if_neg (show ¬_ ≠ st.typed.last from hnew)]
  · rw [if_neg hruns, if_neg (show ¬ledfxRuns connected c st.typed now = true from hruns)]
    rfl

end Dstx
