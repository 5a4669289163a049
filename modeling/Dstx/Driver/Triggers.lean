/-
# Dstx.Driver.Triggers — do the two virtual-device backends agree on the triggers?

For one and the same report, the uinput branches decide a trigger axis from the debounced BUTTON and
`uhid_build_input_report` from the ANALOG value (`get_trigger_axis_value`).  `trigger_axes_agree_iff` says
exactly on which reports, keymaps and debounce states the two give the same values: where button and
value tell the same story, and in two corners where they do not but the axis comes out the same.

In digital mode uinput sends no trigger axis, so there is nothing to compare; the report of the other
backend then has 0 in the byte of the left trigger and, as `memset` clears twelve bytes of thirteen,
whatever was in the buffer in the byte of the right one (`uhidReport_digital`).
-/
import Dstx.Driver.Translate
import Dstx.Profile.Manager

namespace Dstx

open Dstx.Lib

/-! ## The UHID input report -/

/-- The bits of the `buttons` word. -/
def uhidButtons (pad : Pad) (digital : Bool) : Nat :=
  let bit (b : Button) (k : Nat) : Nat := if pad.buttons b then 2 ^ k else 0
  bit .cross 0 + bit .circle 1 + bit .triangle 4 + bit .square 3 + bit .l1 6 + bit .r1 7 +
    bit .share 10 + bit .options 11 + bit .ps 12 + bit .l3 13 + bit .r3 14 +
    if digital then bit .l2 8 + bit .r2 9 else 0

/-- The direction of the hat: 0 is up, then clockwise, 8 is centred. -/
def uhidDpad (hatX hatY : Int) : UInt8 :=
  if hatY = -1 ∧ hatX = 0 then 0
  else if hatY = -1 ∧ hatX = 1 then 1
  else if hatY = 0 ∧ hatX = 1 then 2
  else if hatY = 1 ∧ hatX = 1 then 3
  else if hatY = 1 ∧ hatX = 0 then 4
  else if hatY = 1 ∧ hatX = -1 then 5
  else if hatY = 0 ∧ hatX = -1 then 6
  else if hatY = -1 ∧ hatX = -1 then 7
  else 8

/-- A stick axis as a byte. -/
def stickByte (v : Int) : UInt8 := toU8 ((v + 32768) / 256)

/-- The bytes `uhid_build_input_report` writes, over what the buffer held. -/
def uhidReportByte (c : Controller) (pad : Pad) (buf : Nat → UInt8) (i : Nat) : UInt8 :=
  if i = 0 then 0x01
  else if i = 1 then UInt8.ofNat (uhidButtons pad c.isTriggerDigital % 256)
  else if i = 2 then UInt8.ofNat (uhidButtons pad c.isTriggerDigital / 256 % 256)
  else if i = 3 then uhidDpad pad.hatX pad.hatY
  else if i = 4 then stickByte pad.lx
  else if i = 5 then stickByte pad.ly
  else if i = 8 then stickByte pad.rx
  else if i = 9 then stickByte pad.ry
  else if i = 11 ∧ c.isTriggerDigital = false then toU8 (getTriggerAxisValue c.keymap pad .left)
  else if i = 12 ∧ c.isTriggerDigital = false then toU8 (getTriggerAxisValue c.keymap pad .right)
  else if i < 12 then 0
  else buf i

/-- **`uhid_build_input_report`** — the size it returns and the buffer it leaves. -/
def uhidBuildInputReport (c : Controller) (pad : Pad) (buf : Nat → UInt8) (bufSize : Nat) :
    Nat × (Nat → UInt8) :=
  if bufSize < 12 then (0, buf) else (13, uhidReportByte c pad buf)

/-- The report the workers send: they pass a buffer of 64 bytes, not cleared. -/
def uhidReport (c : Controller) (pad : Pad) (buf : Nat → UInt8) : Nat → UInt8 :=
  (uhidBuildInputReport c pad buf 64).2

/-- The byte of a trigger in the report. -/
def Trigger.reportByte : Trigger → Nat
  | .left => 11
  | .right => 12

/-- The axis of a trigger on the uinput device. -/
def Trigger.axis : Trigger → Control
  | .left => .absZ
  | .right => .absRz

/-- In digital mode the left byte is 0 and the right one is not written. -/
theorem uhidReport_digital {c : Controller} (hd : c.isTriggerDigital = true) (pad : Pad)
    (buf : Nat → UInt8) : uhidReport c pad buf 11 = 0 ∧ uhidReport c pad buf 12 = buf 12 := by
  simp [uhidReport, uhidBuildInputReport, uhidReportByte, hd]

theorem uhidReport_analog {c : Controller} (hd : c.isTriggerDigital = false) (pad : Pad)
    (buf : Nat → UInt8) (t : Trigger) :
    uhidReport c pad buf t.reportByte = toU8 (getTriggerAxisValue c.keymap pad t) := by
  cases t <;> simp [uhidReport, uhidBuildInputReport, uhidReportByte, Trigger.reportByte, hd]

/-! ## The two rules for a trigger -/

/-- Another pressed button is bound to the trigger's logical button. -/
def BoundElsewhere (keymap : Keymap) (stable : Button → Bool) (t : Trigger) : Prop :=
  ∃ p, p ≠ t.button ∧ stable p = true ∧ keymap p.phy = t.button.logical

/-- **The condition for one trigger**, on the debounced buttons, the analog value and the keymap:
* the button is down exactly when the value is above 0;
* or the trigger is bound to something else and no other pressed button is bound to it;
* or the value is 255 while the button is up, and another pressed button is bound to the trigger. -/
def TriggerAgrees (keymap : Keymap) (stable : Button → Bool) (value : Int) (t : Trigger) : Prop :=
  (stable t.button = true ↔ 0 < value) ∨
    (t.bound keymap = false ∧ ¬BoundElsewhere keymap stable t) ∨
    (stable t.button = false ∧ t.bound keymap = true ∧ value = 255 ∧ BoundElsewhere keymap stable t)

theorem bound_iff {keymap : Keymap} {t : Trigger} :
    t.bound keymap = true ↔ keymap t.button.phy = t.button.logical := beq_iff_eq

/-- The trigger's logical button is down: through the trigger itself, or through another button. -/
theorem keysApplyMap_trigger_iff (keymap : Keymap) (stable : Button → Bool) (t : Trigger) :
    keysApplyMap keymap stable t.button = true ↔
      (stable t.button = true ∧ t.bound keymap = true) ∨ BoundElsewhere keymap stable t := by
  rw [keysApplyMap_eq_true_iff, bound_iff]
  constructor
  · rintro ⟨p, hp, hmap⟩
    by_cases hpt : p = t.button
    · subst hpt
      exact Or.inl ⟨hp, hmap⟩
    · exact Or.inr ⟨p, hpt, hp, hmap⟩
  · rintro (⟨hp, hmap⟩ | ⟨p, -, hp, hmap⟩)
    · exact ⟨t.button, hp, hmap⟩
    · exact ⟨p, hp, hmap⟩

/-- **The two rules for one trigger agree exactly under the condition.** -/
theorem uinputTrigger_eq_iff {keymap : Keymap} {pad : Pad} {stable : Button → Bool} {t : Trigger}
    (hbuttons : pad.buttons = keysApplyMap keymap stable) (h0 : 0 ≤ t.value pad) :
    uinputTrigger keymap pad stable t = getTriggerAxisValue keymap pad t ↔
      TriggerAgrees keymap stable (t.value pad) t := by
  have hdown := keysApplyMap_trigger_iff keymap stable t
  rw [← hbuttons] at hdown
  unfold uinputTrigger getTriggerAxisValue TriggerAgrees
  by_cases hstable : stable t.button = true
  · by_cases hvalue : t.value pad > 0
    · simp [hstable, hvalue]
    · -- button down, value 0
      have hzero : t.value pad = 0 := by omega
      by_cases hbound : t.bound keymap = true
      · have hb : pad.buttons t.button = true := hdown.mpr (Or.inl ⟨hstable, hbound⟩)
        simp [hstable, hbound, hzero, hb]
      · simp only [Bool.not_eq_true] at hbound
        by_cases helse : BoundElsewhere keymap stable t
        · have hb : pad.buttons t.button = true := hdown.mpr (Or.inr helse)
          simp [hstable, hbound, hzero, hb, helse]
        · have hb : pad.buttons t.button = false := by
            rw [← Bool.not_eq_true, hdown]
            simp [hbound, helse]
          simp [hstable, hbound, hzero, hb, helse]
  · simp only [Bool.not_eq_true] at hstable
    by_cases hvalue : t.value pad > 0
    · -- button up, value above 0
      by_cases helse : BoundElsewhere keymap stable t
      · have hb : pad.buttons t.button = true := hdown.mpr (Or.inr helse)
        by_cases hbound : t.bound keymap = true
        · simp only [hstable, hvalue, hb, hbound, helse, if_true, Bool.false_eq_true, if_false]
          constructor
          · intro h
            exact Or.inr (Or.inr ⟨trivial, trivial, h.symm, trivial⟩)
          · rintro (h | ⟨h, -⟩ | ⟨-, -, h, -⟩)
            · exact absurd (h.mpr trivial) (by simp)
            · exact absurd h (by simp)
            · exact h.symm
        · simp only [Bool.not_eq_true] at hbound
          simp [hstable, hvalue, hb, hbound, helse]
      · have hb : pad.buttons t.button = false := by
          rw [← Bool.not_eq_true, hdown]
          simp [hstable, helse]
        by_cases hbound : t.bound keymap = true
        · have hne : (0 : Int) ≠ t.value pad := by omega
          simp [hstable, hvalue, hb, hbound, helse, hne]
        · simp only [Bool.not_eq_true] at hbound
          simp [hstable, hvalue, hb, hbound, helse]
    · have hle : ¬(0 < t.value pad) := hvalue
      simp [hstable, hvalue]

/-! ## The two backends -/

/-- **The backends agree** on a list of uinput events and a UHID report: every trigger axis value sent to
uinput is the byte of that trigger in the report. -/
def AxesAgree (events : List UinputEvent) (report : Nat → UInt8) : Prop :=
  ∀ (t : Trigger) (v : Int), (t.axis, v) ∈ events → v = (report t.reportByte).toNat

/-- A trigger axis is emitted in analog mode only. -/
theorem axis_mem_emittedControls (t : Trigger) (digital : Bool) :
    t.axis ∈ emittedControls digital ↔ digital = false := by
  cases t <;> cases digital <;> decide

theorem axis_mem_translateEvents {c : Controller} {pad : Pad} {stable : Button → Bool} {t : Trigger}
    {v : Int} :
    (t.axis, v) ∈ translateEvents c pad stable ↔
      c.isTriggerDigital = false ∧ v = uinputTrigger c.keymap pad stable t := by
  have haxis : pad.control (uinputTrigger c.keymap pad stable) t.axis =
      uinputTrigger c.keymap pad stable t := by
    cases t <;> rfl
  unfold translateEvents sendAll
  rw [← axis_mem_emittedControls t, List.mem_map]
  constructor
  · rintro ⟨k, hk, heq⟩
    obtain ⟨rfl, rfl⟩ := Prod.mk.inj heq
    exact ⟨hk, haxis⟩
  · rintro ⟨hk, rfl⟩
    exact ⟨t.axis, hk, by rw [haxis]⟩

theorem getTriggerAxisValue_mem {keymap : Keymap} {pad : Pad} {t : Trigger}
    (h : t.value pad < 256) :
    0 ≤ getTriggerAxisValue keymap pad t ∧ getTriggerAxisValue keymap pad t < 256 := by
  unfold getTriggerAxisValue
  split_ifs <;> omega

/-- **When the backends agree.**  For every report of either controller (`fmt` is `ds4Format` or
`dualsenseFormat`), every setting, keymap and debounce state, the trigger axis values sent through
uinput are those of the UHID report for the slot state the same report produces, if and only if the
triggers are digital (none is sent) or the condition holds for both triggers. -/
theorem trigger_axes_agree_iff (A : AxisMath) (fmt : ReportFormat) (c : Controller) (report : Report)
    (st : DriverState) (stack : Nat → UInt8) :
    AxesAgree (translate A fmt c report st).2 (uhidReport c (translate A fmt c report st).1.pad stack) ↔
      (c.isTriggerDigital = false → ∀ t : Trigger,
        TriggerAgrees c.keymap (phyStable fmt report c.debounceEnabled st.debounce)
          (rawTrigger fmt report.buf t) t) := by
  have hrule : ∀ t : Trigger,
      uinputTrigger c.keymap (translatePad A fmt c report st)
          (phyStable fmt report c.debounceEnabled st.debounce) t =
        getTriggerAxisValue c.keymap (translatePad A fmt c report st) t ↔
      TriggerAgrees c.keymap (phyStable fmt report c.debounceEnabled st.debounce)
        (rawTrigger fmt report.buf t) t := by
    intro t
    have h0 := rawTrigger_mem fmt report.buf t
    rw [← translatePad_value A fmt c report st t] at h0 ⊢
    exact uinputTrigger_eq_iff (translatePad_buttons A fmt c report st) h0.1
  have hbyte : c.isTriggerDigital = false → ∀ t : Trigger,
      ((uhidReport c (translatePad A fmt c report st) stack t.reportByte).toNat : Int) =
        getTriggerAxisValue c.keymap (translatePad A fmt c report st) t := by
    intro hd t
    rw [uhidReport_analog hd]
    refine toNat_toU8 (getTriggerAxisValue_mem ?_)
    rw [translatePad_value]
    exact (rawTrigger_mem fmt report.buf t).2
  constructor
  · intro h hd t
    rw [← hrule t, ← hbyte hd t]
    exact h t _ (axis_mem_translateEvents.mpr ⟨hd, rfl⟩)
  · intro h t v hv
    obtain ⟨hd, rfl⟩ := axis_mem_translateEvents.mp hv
    exact ((hrule t).mpr (h hd t)).trans (hbyte hd t).symm

/-! ## A light press -/

/-- Integer stand-ins for the curves: the identity. -/
def exampleAxisMath : AxisMath where
  curve _ x y := (x, y)
  rescale _ x y := (x, y)

/-- A pad at rest. -/
def restPad : Pad where
  lx := 0
  ly := 0
  rx := 0
  ry := 0
  lt := 0
  rt := 0
  buttons := fun _ => false
  hatX := 0
  hatY := 0
  battery := 100

/-- A driver that has seen nothing. -/
def restDriver : DriverState where
  pad := restPad
  debounce := fun _ => ⟨0, false, false⟩

/-- A USB report of a DS4 with everything at rest but the left trigger: value 20, button bit not set. -/
def lightPress : Report where
  buf := fun i => if i ≤ 4 then (if i = 0 then 0x01 else 128) else if i = 5 then 8 else if i = 8 then 20 else 0
  now := fun _ => 0

/-- A LIGHT PRESS, below the point where the button closes: uinput gets 0, the UHID report 20. -/
theorem lightPress_differs :
    ¬AxesAgree (translateDs4 exampleAxisMath initialController lightPress restDriver).2
      (uhidReport initialController
        (translateDs4 exampleAxisMath initialController lightPress restDriver).1.pad fun _ => 0) := by
  intro h
  have hz := h .left 0 (by decide +kernel)
  revert hz
  decide +kernel

end Dstx
