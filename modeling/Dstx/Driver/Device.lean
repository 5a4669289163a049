/-
# Dstx.Driver.Device — what the uinput device shows, over whole histories of reports and settings.

A control that is not emitted in a trigger mode keeps whatever the device last saw.  So the state of the
device — the replay of every event ever sent — is a function of the last report's slot state and mode
only under conditions, which `device_shows_slot` states and `KeepsShown` names:

* the trigger mode differs from that of the last report only if that report left both triggers
  released; else `BTN_TL2` or `ABS_Z` stays where it was (`held_trigger_stays`).  The drivers' header says
  that a mode sends one kind of control and not the other; nothing sends the other one back to rest;
* in analog mode, when a pressed button is bound to a trigger, the trigger's own button and value tell
  the same story; else the axis depends on which of two buttons is down and the slot does not say
  (`axis_depends_on_more`).
-/
import Dstx.Driver.Triggers
import Dstx.Lib.Run

namespace Dstx

open Dstx.Lib

/-! ## The system -/

/-- The slot state and mode a report left. -/
structure Shown where
  keymap : Keymap
  digital : Bool
  pad : Pad

/-- The axis of a trigger, from the slot state alone. -/
def Shown.axis (shown : Shown) (t : Trigger) : Int :=
  if shown.pad.buttons t.button then getTriggerAxisValue shown.keymap shown.pad t else 0

/-- **The device as a function of slot state and mode**: the controls of the mode show the slot, the
trigger controls of the other mode are at rest. -/
def Shown.device (shown : Shown) (k : Control) : Int :=
  if k ∈ emittedControls shown.digital then shown.pad.control shown.axis k else 0

/-- A slot with its driver and its virtual device. -/
structure DeviceSystem where
  settings : Controller
  driver : DriverState
  /-- The replay of every event sent so far. -/
  device : Control → Int
  /-- What the last report left. -/
  shown : Shown

/-- Who moves. -/
inductive DeviceMove where
  /-- A report arrives and is translated. -/
  | report (r : Report)
  /-- Any settings are changed: mode, keymap, debounce, sensitivity. -/
  | settings (c : Controller)

section

variable (A : AxisMath) (fmt : ReportFormat)

/-- **One step**, with the same uinput device throughout. -/
def deviceStep (move : DeviceMove) (s : DeviceSystem) : Option DeviceSystem :=
  match move with
  | .report r =>
      let out := translate A fmt s.settings r s.driver
      some
        { s with
          driver := out.1
          device := replay s.device out.2
          shown := ⟨s.settings.keymap, s.settings.isTriggerDigital, out.1.pad⟩ }
  | .settings c => some { s with settings := c }

/-! ## The conditions -/

/-- Both triggers are released, in the terms of the mode. -/
def Shown.Released (shown : Shown) : Prop :=
  ∀ t : Trigger, if shown.digital then shown.pad.buttons t.button = false else shown.axis t = 0

/-- A report settles the trigger axes from the slot state: where a pressed button is bound to a trigger,
the two rules for its axis agree. -/
def AxesSettled (c : Controller) (r : Report) (debounce : Button → Debounce) : Prop :=
  ∀ t : Trigger,
    keysApplyMap c.keymap (phyStable fmt r c.debounceEnabled debounce) t.button = true →
      TriggerAgrees c.keymap (phyStable fmt r c.debounceEnabled debounce) (rawTrigger fmt r.buf t) t

/-- **The condition on a step.** -/
def KeepsShown (move : DeviceMove) (s : DeviceSystem) : Prop :=
  match move with
  | .report r =>
      (s.settings.isTriggerDigital ≠ s.shown.digital → s.shown.Released) ∧
        (s.settings.isTriggerDigital = false → AxesSettled fmt s.settings r s.driver.debounce)
  | .settings _ => True

/-! ## One report -/

/-- The controls a mode leaves out are the trigger controls of the other mode. -/
theorem not_mem_emittedControls {k : Control} {digital : Bool} (h : k ∉ emittedControls digital) :
    (digital = false ∧ (k = .btnTl2 ∨ k = .btnTr2)) ∨ (digital = true ∧ (k = .absZ ∨ k = .absRz)) := by
  revert h
  cases digital <;> cases k <;> decide

/-- Without a pressed button bound to it, the axis of a trigger is 0. -/
theorem uinputTrigger_of_up {keymap : Keymap} {pad : Pad} {stable : Button → Bool} {t : Trigger}
    (hbuttons : pad.buttons = keysApplyMap keymap stable) (hup : pad.buttons t.button = false) :
    uinputTrigger keymap pad stable t = 0 := by
  have hdown := keysApplyMap_trigger_iff keymap stable t
  rw [← hbuttons, hup] at hdown
  unfold uinputTrigger
  by_cases hstable : stable t.button = true
  · have hbound : t.bound keymap = false := by
      by_contra hb
      exact absurd (hdown.mpr (Or.inl ⟨hstable, by simpa using hb⟩)) (by simp)
    simp [hstable, hbound]
  · simp [hstable, hup]

/-- The axis sent for a settled report is the axis of the slot state. -/
theorem uinputTrigger_eq_axis (c : Controller) (r : Report) (st : DriverState)
    (hsettled : AxesSettled fmt c r st.debounce) (digital : Bool) (t : Trigger) :
    uinputTrigger c.keymap (translatePad A fmt c r st) (phyStable fmt r c.debounceEnabled st.debounce) t =
      Shown.axis ⟨c.keymap, digital, translatePad A fmt c r st⟩ t := by
  have hbuttons := translatePad_buttons A fmt c r st
  have hvalue := translatePad_value A fmt c r st t
  unfold Shown.axis
  dsimp only
  by_cases hdown : (translatePad A fmt c r st).buttons t.button = true
  · rw [if_pos hdown]
    have h0 := (rawTrigger_mem fmt r.buf t).1
    rw [← hvalue] at h0
    rw [hbuttons] at hdown
    have hagree := hsettled t hdown
    rw [← hvalue] at hagree
    exact (uinputTrigger_eq_iff hbuttons h0).mpr hagree
  · rw [if_neg hdown]
    exact uinputTrigger_of_up hbuttons (by simpa using hdown)

/-- A released trigger leaves its controls at rest. -/
theorem Shown.Released.device_eq_zero {shown : Shown} (h : shown.Released) {k : Control}
    {digital : Bool} (hk : k ∉ emittedControls digital) (hne : digital ≠ shown.digital) :
    shown.device k = 0 := by
  have hleft := h .left
  have hright := h .right
  unfold Shown.device
  rcases not_mem_emittedControls hk with ⟨rfl, hk'⟩ | ⟨rfl, hk'⟩
  · -- now analog: the last report was digital
    have hd : shown.digital = true := by simpa using hne.symm
    simp only [hd, if_true] at hleft hright
    rcases hk' with rfl | rfl
    · simp only [Pad.control, keyValue]
      rw [show shown.pad.buttons .l2 = false from hleft]
      simp
    · simp only [Pad.control, keyValue]
      rw [show shown.pad.buttons .r2 = false from hright]
      simp
  · have hd : shown.digital = false := by simpa using hne.symm
    simp only [hd, Bool.false_eq_true, if_false] at hleft hright
    rcases hk' with rfl | rfl
    · simp only [Pad.control, hleft, ite_self]
    · simp only [Pad.control, hright, ite_self]

/-- **One step keeps the device a function of what the last report left.** -/
theorem device_eq_deviceStep {move : DeviceMove} {s t : DeviceSystem}
    (h : s.device = s.shown.device) (hok : KeepsShown fmt move s)
    (hstep : deviceStep A fmt move s = some t) : t.device = t.shown.device := by
  cases move with
  | settings c =>
      obtain rfl := Option.some.inj hstep
      exact h
  | report r =>
      obtain ⟨hmode, hsettled⟩ := hok
      obtain rfl := Option.some.inj hstep
      funext k
      dsimp only [translate, translateEvents]
      rw [replay_sendAll]
      by_cases hk : k ∈ emittedControls s.settings.isTriggerDigital
      · rw [if_pos hk]
        unfold Shown.device
        rw [if_pos hk]
        dsimp only
        -- only the trigger axes depend on the rule, and they are emitted in analog mode only
        have haxis : ∀ t : Trigger, k = t.axis →
            uinputTrigger s.settings.keymap (translatePad A fmt s.settings r s.driver)
              (phyStable fmt r s.settings.debounceEnabled s.driver.debounce) t =
            Shown.axis ⟨s.settings.keymap, s.settings.isTriggerDigital,
              translatePad A fmt s.settings r s.driver⟩ t := by
          rintro t rfl
          have hanalog := (axis_mem_emittedControls t _).mp hk
          exact uinputTrigger_eq_axis A fmt s.settings r s.driver (hsettled hanalog) _ t
        cases k with
        | absZ => exact haxis .left rfl
        | absRz => exact haxis .right rfl
        | _ => rfl
      · rw [if_neg hk, h]
        unfold Shown.device
        rw [if_neg hk]
        by_cases hsame : s.settings.isTriggerDigital = s.shown.digital
        · rw [hsame] at hk
          rw [if_neg hk]
        · exact (hmode hsame).device_eq_zero hk hsame

/-! ## Whole runs -/

/-- A new device, all controls at 0, on a slot with any settings and driver state. -/
def newDevice (c : Controller) (driver : DriverState) : DeviceSystem where
  settings := c
  driver := driver
  device := fun _ => 0
  shown := ⟨c.keymap, c.isTriggerDigital, restPad⟩

theorem newDevice_shown (c : Controller) (driver : DriverState) :
    (newDevice c driver).device = (newDevice c driver).shown.device := by
  funext k
  show (0 : Int) = Shown.device ⟨c.keymap, c.isTriggerDigital, restPad⟩ k
  unfold Shown.device
  split_ifs
  · cases k <;> rfl
  · rfl

/-- **The device shows the slot.**  In every run of reports and settings changes whose steps meet
`KeepsShown`, the state of the device is a function of the slot state and mode of the last report; the
trigger buttons read 0 in analog mode and the trigger axes read 0 in digital mode. -/
theorem device_shows_slot (c : Controller) (driver : DriverState) {s : DeviceSystem}
    (hrun : Run (deviceStep A fmt) (KeepsShown fmt) (newDevice c driver) s) :
    s.device = s.shown.device ∧
      (s.shown.digital = false → s.device .btnTl2 = 0 ∧ s.device .btnTr2 = 0) ∧
      (s.shown.digital = true → s.device .absZ = 0 ∧ s.device .absRz = 0) := by
  have hdevice : s.device = s.shown.device := by
    refine hrun.invariant (I := fun s => s.device = s.shown.device) ?_ (newDevice_shown c driver)
    intro move s₁ s₂ h₁ hok hstep
    exact device_eq_deviceStep A fmt h₁ hok hstep
  refine ⟨hdevice, fun hd => ?_, fun hd => ?_⟩
  · simp [hdevice, Shown.device, hd, emittedControls]
  · simp [hdevice, Shown.device, hd, emittedControls]

end

/-! ## A trigger held across a mode change -/

/-- A USB report of a DS4 at rest but for the left trigger, fully pressed or released. -/
def leftTrigger (pressed : Bool) : Report where
  buf := fun i =>
    if i = 0 then 0x01
    else if i ≤ 4 then 128
    else if i = 5 then 8
    else if i = 6 then (if pressed then 0x04 else 0)
    else if i = 8 then (if pressed then 255 else 0)
    else 0
  now := fun _ => 0

/-- A test for the condition on a step: at a mode change both triggers are released, and the button of each
trigger tells what its value tells. -/
def keepsShownTest (fmt : ReportFormat) (move : DeviceMove) (s : DeviceSystem) : Bool :=
  match move with
  | .report r =>
      [Trigger.left, .right].all fun t =>
        (s.settings.isTriggerDigital == s.shown.digital ||
            if s.shown.digital then !s.shown.pad.buttons t.button else s.shown.axis t == 0) &&
          phyStable fmt r s.settings.debounceEnabled s.driver.debounce t.button ==
            decide (0 < rawTrigger fmt r.buf t)
  | .settings _ => true

theorem keepsShown_of_test {fmt : ReportFormat} (move : DeviceMove) (s : DeviceSystem)
    (h : keepsShownTest fmt move s = true) : KeepsShown fmt move s := by
  cases move with
  | settings c => trivial
  | report r =>
      have hall : ∀ t : Trigger,
          (s.settings.isTriggerDigital = s.shown.digital ∨
              if s.shown.digital then s.shown.pad.buttons t.button = false else s.shown.axis t = 0) ∧
            (phyStable fmt r s.settings.debounceEnabled s.driver.debounce t.button = true ↔
              0 < rawTrigger fmt r.buf t) := by
        intro t
        have ht := List.all_eq_true.mp h t (by cases t <;> simp)
        simp only [Bool.and_eq_true, Bool.or_eq_true, beq_iff_eq] at ht
        refine ⟨ht.1.imp id fun hrest => ?_, by rw [ht.2, decide_eq_true_iff]⟩
        split at hrest <;> simp_all
      exact ⟨fun hne t => (hall t).1.resolve_left hne, fun _ t _ => Or.inl (hall t).2⟩

/-- The trigger is pressed in analog mode, in digital mode and in analog mode again, and released before each
change of the mode. -/
def pressedInEachMode : List DeviceMove :=
  [.report (leftTrigger true), .report (leftTrigger false),
    .settings { initialController with isTriggerDigital := true },
    .report (leftTrigger true), .report (leftTrigger false),
    .settings initialController, .report (leftTrigger true)]

/-- The axis reads 255, and `BTN_TL2`, pressed in digital mode, reads 0. -/
theorem device_shows_slot_pressed :
    ∃ s, Run (deviceStep exampleAxisMath ds4Format) (KeepsShown ds4Format)
        (newDevice initialController restDriver) s ∧
      (s.shown.digital = false ∧ s.device .absZ = 255) ∧ s.device .btnTl2 = 0 ∧
      s.device = s.shown.device := by
  obtain ⟨s, hrun, hs⟩ : ∃ s, Run (deviceStep exampleAxisMath ds4Format) (KeepsShown ds4Format)
      (newDevice initialController restDriver) s ∧
        (!s.shown.digital && s.device .absZ == 255) = true :=
    exists_run_of_exec_checked (p := fun s : DeviceSystem => !s.shown.digital && s.device .absZ == 255)
      keepsShown_of_test pressedInEachMode (by decide +kernel)
  simp only [Bool.and_eq_true, Bool.not_eq_true', beq_iff_eq] at hs
  obtain ⟨hshown, hanalog, -⟩ := device_shows_slot exampleAxisMath ds4Format _ _ hrun
  exact ⟨s, hrun, hs, (hanalog hs.1).1, hshown⟩

/-- **The everyday failure**: the left trigger is held in digital mode, the mode is switched to analog,
the trigger is released — and the device's `BTN_TL2` still reads 1. -/
theorem held_trigger_stays :
    ∃ s, Run (deviceStep exampleAxisMath ds4Format) free
        (newDevice { initialController with isTriggerDigital := true } restDriver) s ∧
      s.shown.digital = false ∧ s.device .btnTl2 = 1 := by
  obtain ⟨s, hrun, hs⟩ : ∃ s, Run (deviceStep exampleAxisMath ds4Format) free
      (newDevice { initialController with isTriggerDigital := true } restDriver) s ∧
        (!s.shown.digital && s.device .btnTl2 == 1) = true :=
    exists_run_of_exec (p := fun s : DeviceSystem => !s.shown.digital && s.device .btnTl2 == 1)
      [.report (leftTrigger true), .settings initialController, .report (leftTrigger false)]
      (by decide +kernel)
  simp only [Bool.and_eq_true, Bool.not_eq_true', beq_iff_eq] at hs
  exact ⟨s, hrun, hs.1, hs.2⟩

/-- Cross bound to the left trigger. -/
def crossAsTrigger : Controller :=
  { initialController with
    keymap := Function.update keysGetDefaultMap Button.cross.phy Button.l2.logical }

/-- A DS4 report with cross down and the left trigger at 100, its button closed or not. -/
def crossAndTrigger (closed : Bool) : Report where
  buf := fun i =>
    if i = 0 then 0x01
    else if i ≤ 4 then 128
    else if i = 5 then 0x28
    else if i = 6 then (if closed then 0x04 else 0)
    else if i = 8 then 100
    else 0
  now := fun _ => 0

/-- TWO reports that leave the SAME slot state and send different values of `ABS_Z`. -/
theorem axis_depends_on_more :
    translatePad exampleAxisMath ds4Format crossAsTrigger (crossAndTrigger true) restDriver =
        translatePad exampleAxisMath ds4Format crossAsTrigger (crossAndTrigger false) restDriver ∧
      (Control.absZ, (100 : Int)) ∈
        (translateDs4 exampleAxisMath crossAsTrigger (crossAndTrigger true) restDriver).2 ∧
      (Control.absZ, (255 : Int)) ∈
        (translateDs4 exampleAxisMath crossAsTrigger (crossAndTrigger false) restDriver).2 := by
  have hbuttons :
      keysApplyMap crossAsTrigger.keymap
          (phyStable ds4Format (crossAndTrigger true) false restDriver.debounce) =
        keysApplyMap crossAsTrigger.keymap
          (phyStable ds4Format (crossAndTrigger false) false restDriver.debounce) := by
    funext b
    revert b
    have hall : ∀ b ∈ Button.all,
        keysApplyMap crossAsTrigger.keymap
            (phyStable ds4Format (crossAndTrigger true) false restDriver.debounce) b =
          keysApplyMap crossAsTrigger.keymap
            (phyStable ds4Format (crossAndTrigger false) false restDriver.debounce) b := by
      decide +kernel
    exact fun b => hall b (Button.mem_all b)
  have hdebounce : crossAsTrigger.debounceEnabled = false := rfl
  refine ⟨?_, by decide +kernel, by decide +kernel⟩
  unfold translatePad Pad.applyMap
  rw [hdebounce, hbuttons]
  rfl

end Dstx
