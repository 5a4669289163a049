/-
# Dstx.Led.Animation — does a running LED effect look like a configuration change?

The settings thread compares the shared slots with the active profile field by field, `led_r/g/b`
included; the effect engine animates by writing exactly those three bytes.  The two modules meet here.

A sync touches neither `profile_dirty` nor `last_change` exactly when the profile is `InSync`
(`syncKeepsFlags_iff`).  One frame keeps a system in sync exactly when
it is QUIET: the engine computes no frame, or a frame it already wrote, or the colour the slot shows
(`inSync_ledfxUpdateSlot_iff`).  `animation_keeps_profile_clean_iff` is the run result, over any
number of frames on any slots.
-/
import Dstx.Led.Engine
import Dstx.Profile.Sync

namespace Dstx

variable {Text τ φ : Type}

/-! ## The system -/

/-- The daemon's shared world with the effect engine's private state. -/
structure LedSystem (Text τ : Type) where
  world : World Text
  connected : Fin maxSlots → Bool
  pads : Fin maxSlots → Pad
  /-- `g_initialized`. -/
  initialized : Bool
  /-- `g_slot_state`. -/
  engine : Fin maxSlots → LedSlotState τ

/-- A call of `ledfx_update_slot`, with the `gettimeofday` reading it makes. -/
structure UpdateCall (τ : Type) where
  slotIdx : Int
  currentTime : τ
  now : Timeval

/-- Replace the controller and the engine state of one slot. -/
def LedSystem.set (s : LedSystem Text τ) (i : Fin maxSlots) (c : Controller) (st : LedSlotState τ) :
    LedSystem Text τ :=
  { s with
    world := { s.world with shm := { s.world.shm with slots := Function.update s.world.shm.slots i c } }
    engine := Function.update s.engine i st }

variable (M : LedMath τ φ)

/-- **`ledfx_update_slot`**. -/
def ledfxUpdateSlot (call : UpdateCall τ) (s : LedSystem Text τ) : Bool × LedSystem Text τ :=
  if !s.initialized then (false, s)
  else if h : 0 ≤ call.slotIdx ∧ call.slotIdx < maxSlots then
    let i : Fin maxSlots := ⟨call.slotIdx.toNat, by omega⟩
    let r := ledfxUpdate M (s.connected i) (s.pads i) call.now call.currentTime (s.world.shm.slots i)
      (s.engine i)
    (r.1, s.set i r.2.1 r.2.2)
  else (false, s)

/-- A sequence of `ledfx_update_slot` calls. -/
def animate (calls : List (UpdateCall τ)) (s : LedSystem Text τ) : LedSystem Text τ :=
  calls.foldl (fun s call => (ledfxUpdateSlot M call s).2) s

@[simp] theorem animate_nil (s : LedSystem Text τ) : animate M [] s = s := rfl

@[simp] theorem animate_cons (call : UpdateCall τ) (calls : List (UpdateCall τ))
    (s : LedSystem Text τ) :
    animate M (call :: calls) s = animate M calls (ledfxUpdateSlot M call s).2 := rfl

/-- `profile_sync_shm_to_active` on the system. -/
def LedSystem.sync (s : LedSystem Text τ) (env : Env Text) : LedSystem Text τ :=
  { s with world := profileSyncShmToActive s.world env }

@[simp] theorem LedSystem.sync_world (s : LedSystem Text τ) (env : Env Text) :
    (s.sync env).world = profileSyncShmToActive s.world env := by
  simp only [LedSystem.sync]

/-! ## Quiet frames -/

/-- The colour a slot shows. -/
def Controller.shown (c : Controller) : Rgb := ⟨c.ledR, c.ledG, c.ledB⟩

/-- **The condition on a call**: `ledfx_update_slot` stops at one of its guards (engine not
initialised, slot index out of range, slot disconnected or static, no effect running, rate limit), or
the frame of the effect is the last one the engine wrote, or it is the colour the slot shows. -/
def QuietFrame (call : UpdateCall τ) (s : LedSystem Text τ) : Prop :=
  ∀ i : Fin maxSlots, call.slotIdx = (i : Nat) → s.initialized = true →
    ledfxRuns (s.connected i) (s.world.shm.slots i) (s.engine i) call.now = true →
      ledFrame M (s.world.shm.slots i) (s.pads i) (s.engine i) call.currentTime = (s.engine i).last ∨
        ledFrame M (s.world.shm.slots i) (s.pads i) (s.engine i) call.currentTime =
          (s.world.shm.slots i).shown

/-- Every call of the sequence is quiet in the state it is made in. -/
def QuietFrames : List (UpdateCall τ) → LedSystem Text τ → Prop
  | [], _ => True
  | call :: calls, s => QuietFrame M call s ∧ QuietFrames calls (ledfxUpdateSlot M call s).2

/-- Showing a colour is invisible to the profile exactly when the colour was shown already. -/
theorem controllerToSlotConfig_show_iff (c : Controller) (rgb : Rgb) :
    controllerToSlotConfig { c.show rgb with ledDirty := true } = controllerToSlotConfig c ↔
      rgb = c.shown := by
  constructor
  · intro h
    have hr : rgb.r = c.ledR := congrArg SlotConfig.ledR h
    have hg : rgb.g = c.ledG := congrArg SlotConfig.ledG h
    have hb : rgb.b = c.ledB := congrArg SlotConfig.ledB h
    cases rgb
    simp_all [Controller.shown]
  · rintro rfl
    rfl

/-- A call on one slot is invisible to the profile exactly when its frame is quiet. -/
theorem controllerToSlotConfig_ledfxUpdate_iff (connected : Bool) (pad : Pad) (now : Timeval)
    (currentTime : τ) (c : Controller) (st : LedSlotState τ) :
    controllerToSlotConfig (ledfxUpdate M connected pad now currentTime c st).2.1 =
        controllerToSlotConfig c ↔
      (ledfxRuns connected c st now = true →
        ledFrame M c pad st currentTime = st.last ∨ ledFrame M c pad st currentTime = c.shown) := by
  unfold ledfxUpdate
  by_cases hruns : ledfxRuns connected c st now = true
  · by_cases hlast : ledFrame M c pad st currentTime = st.last
    · simp [hruns, hlast]
    · simp only [hruns, hlast, ne_eq, not_false_eq_true, if_true, true_imp_iff, false_or]
      exact controllerToSlotConfig_show_iff c _
  · simp [hruns]

/-- Replacing one controller keeps the system in sync exactly when it reads as the old one. -/
theorem inSync_set_iff {s : LedSystem Text τ} (h : InSync s.world) (i : Fin maxSlots)
    (c : Controller) (st : LedSlotState τ) :
    InSync (s.set i c st).world ↔
      controllerToSlotConfig c = controllerToSlotConfig (s.world.shm.slots i) := by
  constructor
  · intro h'
    have hi := h' i
    simp only [LedSystem.set, Function.update_self] at hi
    rw [hi, h i]
  · intro hc j
    by_cases hj : j = i
    · subst hj
      simp only [LedSystem.set, Function.update_self]
      rw [hc, h j]
    · simp only [LedSystem.set, Function.update_of_ne hj]
      exact h j

/-- **One frame**: a system in sync stays in sync exactly when the frame is quiet. -/
theorem inSync_ledfxUpdateSlot_iff (call : UpdateCall τ) {s : LedSystem Text τ}
    (h : InSync s.world) :
    InSync (ledfxUpdateSlot M call s).2.world ↔ QuietFrame M call s := by
  unfold ledfxUpdateSlot
  split
  · -- not initialised
    rename_i hinit
    simp only [Bool.not_eq_true'] at hinit
    simp [QuietFrame, hinit, h]
  · rename_i hinit
    simp only [Bool.not_eq_true', Bool.not_eq_false] at hinit
    split
    · rename_i hrange
      have honly : ∀ j : Fin maxSlots, call.slotIdx = (j : Nat) →
          j = ⟨call.slotIdx.toNat, by omega⟩ := by
        intro j hj
        apply Fin.ext
        show (j : Nat) = call.slotIdx.toNat
        omega
      generalize hi : (⟨call.slotIdx.toNat, by omega⟩ : Fin maxSlots) = i at honly ⊢
      have hcall : call.slotIdx = (i : Nat) := by
        rw [← hi]
        show call.slotIdx = (call.slotIdx.toNat : Nat)
        omega
      have hquiet : QuietFrame M call s ↔
          (ledfxRuns (s.connected i) (s.world.shm.slots i) (s.engine i) call.now = true →
            ledFrame M (s.world.shm.slots i) (s.pads i) (s.engine i) call.currentTime =
                (s.engine i).last ∨
              ledFrame M (s.world.shm.slots i) (s.pads i) (s.engine i) call.currentTime =
                (s.world.shm.slots i).shown) := by
        constructor
        · intro hq
          exact hq i hcall hinit
        · intro hq j hj _
          rw [honly j hj]
          exact hq
      rw [hquiet, inSync_set_iff h]
      exact controllerToSlotConfig_ledfxUpdate_iff M _ _ _ _ _ _
    · -- slot index out of range
      rename_i hrange
      refine ⟨fun _ i hi => ?_, fun _ => h⟩
      exact absurd ⟨by omega, by omega⟩ hrange

/-- A system in sync stays in sync through every prefix exactly when every frame is quiet. -/
theorem inSync_animate_iff (calls : List (UpdateCall τ)) {s : LedSystem Text τ}
    (h : InSync s.world) :
    (∀ pre, pre <+: calls → InSync (animate M pre s).world) ↔ QuietFrames M calls s := by
  induction calls generalizing s with
  | nil =>
      refine ⟨fun _ => trivial, fun _ pre hpre => ?_⟩
      rw [List.prefix_nil.mp hpre]
      exact h
  | cons call calls ih =>
      constructor
      · intro hall
        have h₁ : InSync (ledfxUpdateSlot M call s).2.world := by
          simpa using hall [call] (List.cons_prefix_cons.mpr ⟨rfl, List.nil_prefix⟩)
        refine ⟨(inSync_ledfxUpdateSlot_iff M call h).mp h₁, (ih h₁).mp fun pre hpre => ?_⟩
        simpa using hall (call :: pre) (List.cons_prefix_cons.mpr ⟨rfl, hpre⟩)
      · rintro ⟨hq, hqs⟩ pre hpre
        have h₁ := (inSync_ledfxUpdateSlot_iff M call h).mpr hq
        rcases List.prefix_cons_iff.mp hpre with rfl | ⟨pre', rfl, hpre'⟩
        · exact h
        · simpa using (ih h₁).mpr hqs pre' hpre'

/-- **When animation is not a configuration change.**  Start from any state right after a sync, with
no writer but the effect engine: after every prefix of a sequence of `ledfx_update_slot` calls the
next sync leaves `profile_dirty` and `last_change` alone, if and only if every call is quiet. -/
theorem animation_keeps_profile_clean_iff (s : LedSystem Text τ) (env : Env Text)
    (calls : List (UpdateCall τ)) :
    (∀ pre, pre <+: calls → SyncKeepsFlags (animate M pre (s.sync env)).world) ↔
      QuietFrames M calls (s.sync env) := by
  have hin : InSync (s.sync env).world := by
    rw [LedSystem.sync_world]
    exact inSync_sync s.world env
  rw [← inSync_animate_iff M calls hin]
  simp only [syncKeepsFlags_iff]

/-! ## A frame that dirties the profile -/

/-- Integer stand-ins that agree with `led.c` where the example needs them: `255 * 1.0f` is 255. -/
def exampleLedMath : LedMath Unit Unit where
  phase _ _ _ _ := ()
  scale c brightness := UInt8.ofNat (c.toNat * brightness.toNat / 100)
  breath _ brightness c := UInt8.ofNat (c.toNat * brightness.toNat / 100)
  pulse _ brightness c := UInt8.ofNat (c.toNat * brightness.toNat / 100)
  rainbow _ _ := Rgb.black
  strobeOn _ := true
  wave _ _ := Rgb.black
  blink _ _ := 0
  depth _ _ _ := 0

/-- A pad with nothing pressed and a full battery. -/
def idlePad : Pad where
  lx := 0
  ly := 0
  rx := 0
  ry := 0
  lt := 0
  rt := 0
  buttons := fun _ => false
  hatX := 0
  hatY := 0
  battery := 100

/-- A slot that shows the blue of a fresh segment and has the battery effect requested. -/
def batteryEffectController : Controller :=
  { initialController with
    ledStatic := false
    ledRequestEffect := 6
    ledRequestBrightness := 100 }

/-- Every slot connected and running the battery effect at full brightness, the profile clean and in
sync. -/
def batteryEffectSystem : LedSystem (Option CJson) Unit where
  world :=
    { fs := Lib.Fs.blank fun _ => true
      inotify := ⟨fun _ => none, 1⟩
      pm := { initialManager 3 with
        activeProfile := { (initialManager 3).activeProfile with
          slots := fun _ => controllerToSlotConfig batteryEffectController }
        lastChange := ⟨5, 0⟩ }
      shm := { initialShm with slots := fun _ => batteryEffectController } }
  connected := fun _ => true
  pads := fun _ => idlePad
  initialized := true
  engine := fun _ => ⟨.battery, (), 5, 100, true, ⟨10, 0⟩, Rgb.black⟩

/-- ONE frame of a steady effect, and the next sync marks a clean profile dirty and moves
`last_change`. -/
theorem animation_dirties_profile :
    let s := batteryEffectSystem.sync ⟨⟨6, 0⟩, 6, .ok, [], []⟩
    let t := animate exampleLedMath [⟨0, (), ⟨11, 0⟩⟩] s
    let u := t.sync ⟨⟨11, 20⟩, 11, .ok, [], []⟩
    t.world.pm.profileDirty = false ∧ u.world.pm.profileDirty = true ∧
      t.world.pm.lastChange.sec = 5 ∧ u.world.pm.lastChange.sec = 11 := by
  decide +kernel

end Dstx
