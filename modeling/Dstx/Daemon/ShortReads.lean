/-
# Dstx.Daemon.ShortReads — what a report translates to, when the read was SHORT.

`controller_worker` reads into one buffer of 128 bytes that it never clears and hands the translators the
buffer without the length.  What the read did not fill is what was there before: bytes of an older report,
or of the stack.

The last field the translators read is the battery byte, and every smaller position is covered when that
one is.  `translation_depends_on_received_iff` says that this is exact: the translation depends only on the
bytes received if and only if the battery byte is among them.  A basic DS4 report of 10 bytes is too short
(`shortRead_shows_old_battery`).
-/
import Dstx.Daemon.UhidRecords
import Dstx.Driver.InputLayouts

namespace Dstx

open Dstx.Lib

/-! ## The read -/

/-- `n = read(fd, buf, sizeof(buf))`: the first `n` bytes are the report, the others stay. -/
def readInto (n : Nat) (received old : Nat → UInt8) (i : Nat) : UInt8 := if i < n then received i else old i

theorem readInto_of_lt {n i : Nat} (received old : Nat → UInt8) (hi : i < n) :
    readInto n received old i = received i := if_pos hi

/-- `if (n > 0) { … translate_ds4 or translate_dualsense … }`, by the type of the slot. -/
def translateRead (A : AxisMath) (pad : SonyPad) (c : Controller) (n : Nat) (received old : Nat → UInt8)
    (now : Button → UInt64) (st : DriverState) : DriverState × List UinputEvent :=
  if 0 < n then translate A pad.format c ⟨readInto n received old, now⟩ st else (st, [])

/-! ## What the translators look at -/

/-- The last position a translator reads in a report. -/
def lastRead (fmt : ReportFormat) (buf : Nat → UInt8) : Nat := fmt.offset buf + fmt.battery

/-- The battery byte lies behind all other fields, and within the buffer. -/
theorem lastRead_spec (pad : SonyPad) (buf : Nat → UInt8) :
    pad.format.triggers + 1 < pad.format.battery ∧ pad.format.buttons + 2 < pad.format.battery ∧
      lastRead pad.format buf < 128 := by
  have hoffset : pad.format.offset buf ≤ 3 := by
    unfold ReportFormat.offset
    cases pad <;> split_ifs <;> decide
  have hbattery : pad.format.battery ≤ 52 := by
    cases pad <;> decide
  refine ⟨?_, ?_, ?_⟩
  · cases pad <;> decide
  · cases pad <;> decide
  · unfold lastRead
    omega

/-- **Two buffers that agree up to the battery byte carry the same fields.** -/
theorem fields_congr (pad : SonyPad) {buf buf' : Nat → UInt8}
    (h : ∀ i ≤ lastRead pad.format buf, buf i = buf' i) :
    (pad.format.layout buf).fields buf = (pad.format.layout buf').fields buf' ∧
      pad.format.batteryOf buf = pad.format.batteryOf buf' := by
  obtain ⟨htriggers, hbuttons, -⟩ := lastRead_spec pad buf
  have hoffset : pad.format.offset buf = pad.format.offset buf' := by
    unfold ReportFormat.offset
    rw [h 0 (Nat.zero_le _)]
  have hat : ∀ k ≤ pad.format.battery,
      buf (pad.format.offset buf' + k) = buf' (pad.format.offset buf' + k) := by
    intro k hk
    refine h _ ?_
    unfold lastRead
    omega
  constructor
  · have hlayout : pad.format.layout buf = pad.format.layout buf' := by
      unfold ReportFormat.layout
      rw [hoffset, h 0 (Nat.zero_le _)]
    rw [hlayout]
    unfold InputLayout.fields ReportFormat.layout
    simp only [Nat.add_assoc, Nat.add_zero]
    rw [hat 1 (by omega), hat 2 (by omega), hat 3 (by omega), hat pad.format.triggers (by omega),
      hat (pad.format.triggers + 1) (by omega), hat pad.format.buttons (by omega),
      hat (pad.format.buttons + 1) (by omega), hat (pad.format.buttons + 2) (by omega)]
    have hfirst := hat 0 (by omega)
    rw [Nat.add_zero] at hfirst
    rw [hfirst]
  · unfold ReportFormat.batteryOf
    rw [hoffset, hat pad.format.battery (Nat.le_refl _)]

/-- Two battery bytes that show different levels. -/
theorem batteryLevel_zero_ne_five (pad : SonyPad) :
    pad.format.batteryLevel 0 ≠ pad.format.batteryLevel 5 := by
  cases pad <;> decide +kernel

/-! ## The dependence -/

/-- What a read translates to depends on the bytes received only: any two old contents give the same driver
state, battery level included, and the same events. -/
def DependsOnReceived (A : AxisMath) (pad : SonyPad) (c : Controller) (n : Nat) (received : Nat → UInt8)
    (now : Button → UInt64) (st : DriverState) : Prop :=
  ∀ old old' : Nat → UInt8,
    translateRead A pad c n received old now st = translateRead A pad c n received old' now st

/-- **When a report translates to what was received.**  For every read of `n > 0` bytes, every settings,
clock and driver state: the translation depends only on the bytes received if and only if the battery byte
is one of them: byte 30 of a DS4 report, 32 of one with id 0x11, byte 53 of a DualSense report, 54 of one
with id 0x31. -/
theorem translation_depends_on_received_iff (A : AxisMath) (pad : SonyPad) (c : Controller) {n : Nat}
    (hn : 0 < n) (received : Nat → UInt8) (now : Button → UInt64) (st : DriverState) :
    DependsOnReceived A pad c n received now st ↔ lastRead pad.format received < n := by
  -- the id is received, so the old content does not move the fields
  have hlast : ∀ old, lastRead pad.format (readInto n received old) = lastRead pad.format received := by
    intro old
    unfold lastRead ReportFormat.offset
    rw [readInto_of_lt received old hn]
  have htranslate : ∀ old, translateRead A pad c n received old now st =
      translate A pad.format c ⟨readInto n received old, now⟩ st := fun old => if_pos hn
  constructor
  · intro h
    by_contra hshort
    have hbattery : ∀ old, (translateRead A pad c n received old now st).1.pad.battery =
        pad.format.batteryLevel (old (lastRead pad.format received)) := by
      intro old
      rw [htranslate, translate_eq_translateFields]
      show pad.format.batteryLevel
        (readInto n received old (lastRead pad.format (readInto n received old))) = _
      rw [hlast, readInto, if_neg hshort]
    have hsame := congrArg (fun r => r.1.pad.battery) (h (fun _ => 0) fun _ => 5)
    rw [hbattery, hbattery] at hsame
    exact batteryLevel_zero_ne_five pad hsame
  · intro hlong old old'
    have hagree : ∀ i ≤ lastRead pad.format (readInto n received old),
        readInto n received old i = readInto n received old' i := by
      intro i hi
      rw [hlast] at hi
      have hlt : i < n := Nat.lt_of_le_of_lt hi hlong
      rw [readInto_of_lt received old hlt, readInto_of_lt received old' hlt]
    obtain ⟨hfields, hbattery⟩ := fields_congr pad hagree
    rw [htranslate, htranslate, translate_eq_translateFields, translate_eq_translateFields, hfields,
      hbattery]

/-- A basic DS4 report at rest: ten bytes. -/
def basicReport : Nat → UInt8 := fun i =>
  if i = 0 then 0x01 else if i ≤ 4 then 128 else if i = 5 then 8 else 0

theorem translation_depends_on_received_basic : 0 < 10 ∧
    (DependsOnReceived exampleAxisMath .ds4 initialController 10 basicReport (fun _ => 0) restDriver ↔
      lastRead SonyPad.ds4.format basicReport < 10) :=
  ⟨by decide, translation_depends_on_received_iff exampleAxisMath .ds4 initialController (by decide)
    basicReport (fun _ => 0) restDriver⟩

/-- TEN BYTES RECEIVED, and the slot's battery is read from what the buffer held before. -/
theorem shortRead_shows_old_battery :
    ¬DependsOnReceived exampleAxisMath .ds4 initialController 10 basicReport (fun _ => 0) restDriver ∧
      (translateRead exampleAxisMath .ds4 initialController 10 basicReport (fun _ => 0x00) (fun _ => 0)
        restDriver).1.pad.battery = 5 ∧
      (translateRead exampleAxisMath .ds4 initialController 10 basicReport (fun _ => 0x0A) (fun _ => 0)
        restDriver).1.pad.battery = 100 := by
  refine ⟨fun h => ?_, by decide +kernel, by decide +kernel⟩
  have hsame := congrArg (fun r => r.1.pad.battery) (h (fun _ => 0x00) fun _ => 0x0A)
  exact absurd hsame (by decide +kernel)

end Dstx
