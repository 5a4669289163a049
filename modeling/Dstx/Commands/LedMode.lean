/-
# Dstx.Commands.LedMode — is the LED mode saved that the slot shows?

The mode is stored TWICE: `led_static`, which the effect engine obeys, and `led_request_effect`, the only
one of the two that a profile keeps — `slot_config_to_controller` rebuilds `led_static` from it.  So a
slot survives a save and a reload (or a reconnection) exactly when the two agree, and that is the
invariant, `ModeAgrees`.

Most writers keep it.  The ones that switch to static mode and leave the old effect number behind do
not: `color` of the command line, `SetLed`, `ledfx 0` of both front ends and `pled` of the interface —
while the colour branches of the interface do reset the number — and `SetEffect` with effect 0, which
clears `led_static`.  `led_mode_survives` is the run result under the condition that none of them
happens while an effect is requested.
-/
import Dstx.Commands.Ranges

namespace Dstx

open Dstx.Lib

variable {τ : Type}

/-! ## The system -/

/-- A slot and the effect engine's state for it. -/
structure LedMode (τ : Type) where
  slot : Slot
  engine : LedSlotState τ

/-- Who moves. -/
inductive LedModeMove (τ : Type) where
  /-- A command of the command line (a bare colour word is `color`). -/
  | cli (name : CStr) (args : List CStr)
  /-- A line typed into the text interface. -/
  | tui (line : CStr)
  /-- A D-Bus setter call. -/
  | dbus (call : DbusSetter)
  /-- `ledfx_process_requests`. -/
  | process (now : τ) (tv : Timeval)
  /-- A profile is applied to the slot. -/
  | load (cfg : SlotConfig)
  /-- A controller is plugged into the slot. -/
  | register (type : ControllerType) (isBluetooth : Bool)

/-- **One step.** -/
def ledModeStep (move : LedModeMove τ) (s : LedMode τ) : Option (LedMode τ) :=
  match move with
  | .cli name args => (executeSlotCommand s.slot name args).map fun slot => { s with slot := slot }
  | .tui line => (runUiSlotCommand s.slot line).map fun slot => { s with slot := slot }
  | .dbus call => (dbusSet s.slot call).map fun slot => { s with slot := slot }
  | .process now tv =>
      let r := ledfxProcessRequest s.slot.connected now tv s.slot.toController s.engine
      some ⟨{ s.slot with toController := r.1 }, r.2⟩
  | .load cfg =>
      some { s with slot :=
        { s.slot with toController := slotConfigToController cfg s.slot.toController } }
  | .register type isBluetooth => some { s with slot := registerSlot s.slot type isBluetooth }

/-- **The mode survives** a save and a reload onto any controller: the same `led_static` and the same
effect number come back. -/
def ModeSurvives (c : Controller) : Prop :=
  ∀ d : Controller,
    (slotConfigToController (controllerToSlotConfig c) d).ledStatic = c.ledStatic ∧
      (slotConfigToController (controllerToSlotConfig c) d).ledRequestEffect = c.ledRequestEffect

/-- The two copies of the mode agree, and the effect number is a byte. -/
structure ModeAgrees (c : Controller) : Prop where
  static_iff : c.ledStatic = true ↔ c.ledRequestEffect = 0
  nonneg : 0 ≤ c.ledRequestEffect
  lt : c.ledRequestEffect < 256

/-! ## The condition -/

/-- A command of the command line that switches to static mode. -/
def cliGoesStatic (name : CStr) (args : List CStr) : Bool :=
  match args with
  | [] => false
  | arg :: _ =>
      name == "color".toList && (scanColour arg).isSome || name == "ledfx".toList && atoi arg == 0

/-- A typed line, other than a colour, that switches to static mode. -/
def tuiGoesStatic (slot : Slot) (line : CStr) : Bool :=
  "ledfx".toList.isPrefixOf line && (scanLedfx (line.drop 5)).map (·.1) == some 0 ||
    "pled ".toList.isPrefixOf line && slot.type == .dualsense &&
      decide (0 ≤ atoi (line.drop 5) ∧ atoi (line.drop 5) ≤ 5)

/-- **The condition on a step**: static mode is chosen through one of these commands only while no
effect is requested, and `SetEffect` does not request effect 0. -/
def KeepsLedMode (move : LedModeMove τ) (s : LedMode τ) : Prop :=
  match move with
  | .cli name args => cliGoesStatic name args = true → s.slot.ledRequestEffect = 0
  | .tui line => tuiGoesStatic s.slot line = true → s.slot.ledRequestEffect = 0
  | .dbus (.setLed _ _ _) => s.slot.ledRequestEffect = 0
  | .dbus (.setEffect effect _ _) => effect ≠ 0
  | _ => True

/-! ## The invariant -/

/-- Only `led_request_effect` is saved, as a byte. -/
theorem ModeAgrees.survives {c : Controller} (h : ModeAgrees c) : ModeSurvives c := by
  have heffect : ((toU8 c.ledRequestEffect).toNat : Int) = c.ledRequestEffect :=
    toNat_toU8 ⟨h.nonneg, h.lt⟩
  intro d
  refine ⟨?_, heffect⟩
  show (toU8 c.ledRequestEffect == 0) = c.ledStatic
  rw [Bool.eq_iff_iff, beq_iff_eq, h.static_iff, ← UInt8.toNat_inj]
  show (toU8 c.ledRequestEffect).toNat = 0 ↔ c.ledRequestEffect = 0
  omega

/-- An applied profile, and so a reconnected slot, always agrees. -/
theorem modeAgrees_slotConfigToController (cfg : SlotConfig) (d : Controller) :
    ModeAgrees (slotConfigToController cfg d) where
  static_iff := by
    show (cfg.ledEffect == 0) = true ↔ (cfg.ledEffect.toNat : Int) = 0
    rw [beq_iff_eq, ← UInt8.toNat_inj]
    show cfg.ledEffect.toNat = 0 ↔ (cfg.ledEffect.toNat : Int) = 0
    omega
  nonneg := Int.natCast_nonneg _
  lt := by
    have hlt := cfg.ledEffect.toNat_lt
    show (cfg.ledEffect.toNat : Int) < 256
    omega

section Changes

variable {slot : Slot}

/-- Switching to static mode is fine while no effect is requested. -/
theorem ModeAgrees.toStatic {c : Controller} (h : ModeAgrees slot.toController)
    (h0 : slot.ledRequestEffect = 0) (hs : c.ledStatic = true)
    (he : c.ledRequestEffect = slot.ledRequestEffect) : ModeAgrees c where
  static_iff := by simp [hs, he, h0]
  nonneg := by
    rw [he]
    exact h.nonneg
  lt := by
    rw [he]
    exact h.lt

/-- A command that touches neither copy. -/
theorem ModeAgrees.congr {c : Controller} (h : ModeAgrees slot.toController)
    (hs : c.ledStatic = slot.ledStatic) (he : c.ledRequestEffect = slot.ledRequestEffect) :
    ModeAgrees c where
  static_iff := by
    rw [hs, he]
    exact h.static_iff
  nonneg := by
    rw [he]
    exact h.nonneg
  lt := by
    rw [he]
    exact h.lt

theorem modeAgrees_requestEffect {effect : Int} (he : 0 < effect) (hlt : effect < 256)
    (speed brightness : UInt8) : ModeAgrees (slot.requestEffect effect speed brightness).toController where
  static_iff := by
    show false = true ↔ effect = 0
    simp [he.ne']
  nonneg := he.le
  lt := hlt

theorem modeAgrees_colourNoEffect (r g b : Int) :
    ModeAgrees ((SlotChange.colourNoEffect r g b).apply slot).toController where
  static_iff := by
    show true = true ↔ (0 : Int) = 0
    simp
  nonneg := le_refl (0 : Int)
  lt := by
    show (0 : Int) < 256
    omega

theorem modeAgrees_setRumble (h : ModeAgrees slot.toController) (on : Bool) :
    ModeAgrees (slot.setRumble on).toController := by
  unfold Slot.setRumble
  split_ifs
  · exact h.congr rfl rfl
  · exact h.congr rfl rfl

/-- A plain change touches neither copy of the mode. -/
theorem SlotChange.Plain.modeAgrees_apply {change : SlotChange} (hc : change.Plain)
    (h : ModeAgrees slot.toController) : ModeAgrees (change.apply slot).toController := by
  cases change with
  | colour | colourNoEffect | static | effect | rumble | playerLedsStatic => exact hc.elim
  | nothing => exact h
  | uhid | emulate | debounce | invertLy | invertRy | ledReapply | triggersDigital | requestReset
  | requestSwitch | requestXbox | keybind | sensitivityLeft | sensitivityRight | gain | deadzone
  | brightness | playerLeds | defaultKeymap => exact h.congr rfl rfl

end Changes

/-! ## Steps -/

section Steps

variable {s t : LedMode τ}

theorem modeAgrees_cli {slot slot' : Slot} {name : CStr} {args : List CStr}
    (h : ModeAgrees slot.toController)
    (hok : cliGoesStatic name args = true → slot.ledRequestEffect = 0)
    (heq : executeSlotCommand slot name args = some slot') : ModeAgrees slot'.toController := by
  obtain ⟨change, rfl, hchange⟩ := executeSlotCommand_change heq
  cases hchange with
  | colour hname hargs hscan =>
      subst hname hargs
      have hstatic := hok (by simp [cliGoesStatic, hscan])
      exact h.toStatic hstatic rfl rfl
  | static hname hargs h0 =>
      subst hname hargs
      have hstatic := hok (by simp [cliGoesStatic, h0])
      exact h.toStatic hstatic rfl rfl
  | effect he =>
      have hcount : (ledfxCount : Int) = 9 := rfl
      exact modeAgrees_requestEffect he.1 (by omega) _ _
  | rumble => exact modeAgrees_setRumble h _
  | plain hplain => exact hplain.modeAgrees_apply h

theorem modeAgrees_tui {slot slot' : Slot} {line : CStr} (h : ModeAgrees slot.toController)
    (hok : tuiGoesStatic slot line = true → slot.ledRequestEffect = 0)
    (heq : runUiSlotCommand slot line = some slot') : ModeAgrees slot'.toController := by
  obtain ⟨change, rfl, hchange⟩ := runUiSlotCommand_change heq
  cases hchange with
  | colour r g b => exact modeAgrees_colourNoEffect r g b
  | static hpre hscan =>
      have hstatic := hok (by rw [tuiGoesStatic, hpre, hscan]; simp)
      exact h.toStatic hstatic rfl rfl
  | effect hpre hscan he =>
      have hcount : (ledfxCount : Int) = 9 := rfl
      exact modeAgrees_requestEffect he.1 (by omega) _ _
  | playerLeds hpre htype hrange =>
      have hstatic := hok (by rw [tuiGoesStatic, hpre, htype]; simp [hrange])
      exact h.toStatic hstatic rfl rfl
  | rumbleOn => exact modeAgrees_setRumble h _
  | rumbleOff => exact modeAgrees_setRumble h _
  | plain hplain => exact hplain.modeAgrees_apply h

theorem modeAgrees_dbus {call : DbusSetter} {slot' : Slot} (h : ModeAgrees s.slot.toController)
    (hok : KeepsLedMode (.dbus call) s) (heq : dbusSet s.slot call = some slot') :
    ModeAgrees slot'.toController := by
  obtain ⟨change, rfl, hchange⟩ := dbusSet_change heq
  cases hchange with
  | colour hcall =>
      subst hcall
      exact h.toStatic hok rfl rfl
  | @effect effect speed brightness hcall =>
      subst hcall
      have hne : effect ≠ 0 := hok
      have hpos : effect.toNat ≠ 0 := fun h0 => hne (UInt8.toNat_inj.mp h0)
      have hlt := effect.toNat_lt
      exact modeAgrees_requestEffect (by omega) (by omega) _ _
  | rumble => exact modeAgrees_setRumble h _
  | plain hplain => exact hplain.modeAgrees_apply h

/-- The engine writes `led_static` from the effect number it finds. -/
theorem modeAgrees_ledfxProcessRequest {c : Controller} (h : ModeAgrees c) (connected : Bool) (now : τ)
    (tv : Timeval) (st : LedSlotState τ) :
    ModeAgrees (ledfxProcessRequest connected now tv c st).1 := by
  unfold ledfxProcessRequest
  split_ifs with hidle h0
  · exact h
  · exact
      { static_iff := by simpa [Controller.show] using h0
        nonneg := h.nonneg
        lt := h.lt }
  · split
    · rename_i effect _
      dsimp only
      have hkeep : ∀ rgb : Rgb,
          ModeAgrees { c.show rgb with
            ledRequestPending := false
            ledStatic := false
            ledDirty := true } := fun rgb =>
        { static_iff := by simpa [Controller.show] using h0
          nonneg := h.nonneg
          lt := h.lt }
      split_ifs
      · exact hkeep Rgb.black
      · exact hkeep ⟨c.ledR, c.ledG, c.ledB⟩
    · exact
        { static_iff := h.static_iff
          nonneg := h.nonneg
          lt := h.lt }

/-- **One step keeps the two copies in agreement.** -/
theorem modeAgrees_ledModeStep {move : LedModeMove τ} (h : ModeAgrees s.slot.toController)
    (hok : KeepsLedMode move s) (hstep : ledModeStep move s = some t) :
    ModeAgrees t.slot.toController := by
  cases move with
  | cli name args =>
      obtain ⟨slot', heq, rfl⟩ := Option.map_eq_some_iff.mp hstep
      exact modeAgrees_cli h hok heq
  | tui line =>
      obtain ⟨slot', heq, rfl⟩ := Option.map_eq_some_iff.mp hstep
      exact modeAgrees_tui h hok heq
  | dbus call =>
      obtain ⟨slot', heq, rfl⟩ := Option.map_eq_some_iff.mp hstep
      exact modeAgrees_dbus h hok heq
  | process now tv =>
      obtain rfl := Option.some.inj hstep
      exact modeAgrees_ledfxProcessRequest h s.slot.connected now tv s.engine
  | load cfg =>
      obtain rfl := Option.some.inj hstep
      exact modeAgrees_slotConfigToController cfg s.slot.toController
  | register type isBluetooth =>
      obtain rfl := Option.some.inj hstep
      have h' := modeAgrees_slotConfigToController (controllerToSlotConfig s.slot.toController)
        zeroController
      exact ⟨h'.static_iff, h'.nonneg, h'.lt⟩

end Steps

theorem modeAgrees_initialController : ModeAgrees initialController where
  static_iff := by decide
  nonneg := by decide
  lt := by decide

/-- A slot of a fresh segment, with the engine in any state. -/
def freshLed (engine : LedSlotState τ) : LedMode τ where
  slot := { toController := initialController, toCells := initialCells }
  engine := engine

/-- **The LED mode survives.**  In every run of commands, setter calls, loads, reconnections and
`ledfx_process_requests` steps whose steps meet `KeepsLedMode`, saving and reloading the slot gives back
the mode it is in. -/
theorem led_mode_survives (engine : LedSlotState τ) {s : LedMode τ}
    (hrun : Run ledModeStep KeepsLedMode (freshLed engine) s) : ModeSurvives s.slot.toController := by
  have hinv : ModeAgrees s.slot.toController := by
    refine hrun.invariant (I := fun s => ModeAgrees s.slot.toController) ?_ ?_
    · intro move s₁ s₂ h₁ hok hstep
      exact modeAgrees_ledModeStep h₁ hok hstep
    · exact modeAgrees_initialController
  exact hinv.survives

/-! ## Static on screen, an effect in the profile -/

/-- The executable form of the condition, for the moves of the example. -/
def keepsLedModeCheck (move : LedModeMove Unit) (s : LedMode Unit) : Bool :=
  match move with
  | .cli name args => !cliGoesStatic name args || s.slot.ledRequestEffect == 0
  | .process _ _ => true
  | .register _ _ => true
  | _ => false

theorem keepsLedMode_of_check (move : LedModeMove Unit) (s : LedMode Unit)
    (h : keepsLedModeCheck move s = true) : KeepsLedMode move s := by
  cases move with
  | cli name args =>
      intro hstatic
      simpa [keepsLedModeCheck, hstatic] using h
  | process now tv => trivial
  | register type isBluetooth => trivial
  | tui line => cases h
  | dbus call => cases h
  | load cfg => cases h

/-- The engine before its first request. -/
def idleEngine : LedSlotState Unit := ⟨.static, (), 5, 80, false, ⟨0, 0⟩, Rgb.black⟩

/-- A DualSense is plugged in and shows a colour, then effect 3 is requested and taken. -/
def effectThree : List (LedModeMove Unit) :=
  [.register .dualsense false, .cli "color".toList ["ff0000".toList], .cli "ledfx".toList ["3".toList],
    .process () ⟨1, 0⟩]

theorem led_mode_survives_effectThree :
    ∃ s, Run ledModeStep KeepsLedMode (freshLed idleEngine) s ∧
      (s.slot.ledRequestEffect = 3 ∧ s.slot.ledStatic = false) ∧ ModeSurvives s.slot.toController := by
  obtain ⟨s, hrun, hs⟩ : ∃ s, Run ledModeStep KeepsLedMode (freshLed idleEngine) s ∧
      (s.slot.ledRequestEffect == 3 && !s.slot.ledStatic) = true :=
    exists_run_of_exec_checked keepsLedMode_of_check
      (p := fun s : LedMode Unit => s.slot.ledRequestEffect == 3 && !s.slot.ledStatic) effectThree
      (by decide +kernel)
  simp only [Bool.and_eq_true, beq_iff_eq, Bool.not_eq_true'] at hs
  exact ⟨s, hrun, hs, led_mode_survives idleEngine hrun⟩

/-- `color` after an effect: the slot shows a static colour and is saved as the effect. -/
theorem colour_saved_as_effect :
    ∃ s, Run ledModeStep free (freshLed idleEngine) s ∧ ¬ModeSurvives s.slot.toController := by
  obtain ⟨s, hrun, hs⟩ : ∃ s, Run ledModeStep free (freshLed idleEngine) s ∧
      (s.slot.ledRequestEffect == 3 && s.slot.ledStatic) = true :=
    exists_run_of_exec
      (p := fun s : LedMode Unit => s.slot.ledRequestEffect == 3 && s.slot.ledStatic)
      (effectThree ++ [.cli "color".toList ["00ff00".toList]]) (by decide +kernel)
  simp only [Bool.and_eq_true, beq_iff_eq] at hs
  refine ⟨s, hrun, fun hsurvives => ?_⟩
  have hmode : (toU8 s.slot.ledRequestEffect == 0) = s.slot.ledStatic :=
    (hsurvives initialController).1
  rw [hs.1, hs.2] at hmode
  exact absurd hmode (by decide)

end Dstx
