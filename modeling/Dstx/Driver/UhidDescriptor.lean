/-
# Dstx.Driver.UhidDescriptor — does the UHID input report mean what the device's descriptor says?

`uhid.c` describes its virtual gamepad in a table of bytes and packs each report by hand.  The kernel reads
the reports by the TABLE.  `inputReportMatches_iff` says for which slot states and buffer sizes the two
agree: in analog mode, with trigger values that fit a byte, and with room for all the 13 bytes.

* The size check asks for 12 bytes, the report has 13: with a buffer of exactly 12 the last byte is written
  (analog) or read (digital) behind its end.
* `memset` clears 12 bytes of 13, and digital mode leaves the last one, the axis of the right trigger, as it
  was: the buffer's old content goes out as a trigger value (`digital_shows_old_content`).
-/
import Dstx.Driver.Triggers
import Dstx.Lib.HidDescriptor

namespace Dstx

open Dstx.Lib

/-! ## The descriptor -/

/-- `custom_descriptor` of `uhid_build_report_descriptor`. -/
def customDescriptor : List UInt8 :=
  [0x05, 0x01, 0x09, 0x05, 0xA1, 0x01,
    -- report id 1
    0x85, 0x01,
    -- buttons, and a bit of padding
    0x05, 0x09, 0x19, 0x01, 0x29, 0x0F, 0x15, 0x00, 0x25, 0x01, 0x75, 0x01, 0x95, 0x0F, 0x81, 0x02,
    0x75, 0x01, 0x95, 0x01, 0x81, 0x03,
    -- D-pad
    0x05, 0x01, 0x09, 0x39, 0x15, 0x00, 0x25, 0x07, 0x35, 0x00, 0x46, 0x3B, 0x01, 0x65, 0x14, 0x75, 0x08,
    0x95, 0x01, 0x81, 0x42,
    -- X, Y
    0x05, 0x01, 0x09, 0x30, 0x15, 0x00, 0x26, 0xFF, 0x00, 0x75, 0x08, 0x95, 0x01, 0x81, 0x02,
    0x09, 0x31, 0x15, 0x00, 0x26, 0xFF, 0x00, 0x75, 0x08, 0x95, 0x01, 0x81, 0x02,
    -- two bytes of padding
    0x05, 0x01, 0x09, 0x00, 0x15, 0x00, 0x26, 0xFF, 0x00, 0x75, 0x08, 0x95, 0x01, 0x81, 0x03,
    0x05, 0x01, 0x09, 0x00, 0x15, 0x00, 0x26, 0xFF, 0x00, 0x75, 0x08, 0x95, 0x01, 0x81, 0x03,
    -- Rx, Ry
    0x09, 0x33, 0x15, 0x00, 0x26, 0xFF, 0x00, 0x75, 0x08, 0x95, 0x01, 0x81, 0x02,
    0x09, 0x34, 0x15, 0x00, 0x26, 0xFF, 0x00, 0x75, 0x08, 0x95, 0x01, 0x81, 0x02,
    -- a byte of padding
    0x05, 0x01, 0x09, 0x00, 0x15, 0x00, 0x26, 0xFF, 0x00, 0x75, 0x08, 0x95, 0x01, 0x81, 0x03,
    -- Z, Rz
    0x05, 0x01, 0x09, 0x32, 0x15, 0x00, 0x26, 0xFF, 0x00, 0x75, 0x08, 0x95, 0x01, 0x81, 0x02,
    0x09, 0x35, 0x15, 0x00, 0x26, 0xFF, 0x00, 0x75, 0x08, 0x95, 0x01, 0x81, 0x02,
    -- rumble, an output report
    0x05, 0x0F, 0x09, 0x21, 0xA1, 0x02, 0x75, 0x08, 0x95, 0x04, 0x46, 0xFF, 0x00, 0x26, 0xFF, 0x00, 0x09,
    0x26, 0x91, 0x02, 0xC0,
    0xC0]

/-- The fields of the report, by the descriptor. -/
def uhidFields : List HidField := (inputFields customDescriptor).getD []

/-! ## Event codes -/

/-- An event type and code of the kernel. -/
inductive EvCode where
  | key (code : Nat)
  | abs (code : Nat)
  deriving DecidableEq

/-- The event code a control of the uinput device has (`BTN_GAMEPAD` is 0x130). -/
def Control.evCode : Control → EvCode
  | .absX => .abs 0x00
  | .absY => .abs 0x01
  | .absZ => .abs 0x02
  | .absRx => .abs 0x03
  | .absRy => .abs 0x04
  | .absRz => .abs 0x05
  | .hat0x => .abs 0x10
  | .hat0y => .abs 0x11
  | .btnSouth => .key 0x130
  | .btnEast => .key 0x131
  | .btnNorth => .key 0x133
  | .btnWest => .key 0x134
  | .btnTl => .key 0x136
  | .btnTr => .key 0x137
  | .btnTl2 => .key 0x138
  | .btnTr2 => .key 0x139
  | .btnSelect => .key 0x13a
  | .btnStart => .key 0x13b
  | .btnMode => .key 0x13c
  | .btnThumbl => .key 0x13d
  | .btnThumbr => .key 0x13e

/-- The event codes the kernel gives a field of a gamepad: button `n` is `BTN_GAMEPAD + n - 1`, the six axes
are in the order of their usages, a hat switch is two axes.  Constant fields are padding. -/
def hidEvCodes (f : HidField) : List EvCode :=
  if f.constant then []
  else if f.usagePage = 0x09 then [.key (0x130 + f.usage - 1)]
  else if f.usagePage = 0x01 then
    if 0x30 ≤ f.usage ∧ f.usage ≤ 0x35 then [.abs (f.usage - 0x30)]
    else if f.usage = 0x39 then [.abs 0x10, .abs 0x11]
    else []
  else []

/-- The directions of a hat switch, as it counts them. -/
def hatDirections : List (Int × Int) :=
  [(0, -1), (1, -1), (1, 0), (1, 1), (0, 1), (-1, 1), (-1, 0), (-1, -1)]

/-- The direction of a hat switch: clockwise from up; outside its logical range it is centred. -/
def hatDirection (f : HidField) (value : Nat) : Int × Int :=
  if f.logicalMin ≤ value ∧ (value : Int) ≤ f.logicalMax then
    hatDirections.getD (value - f.logicalMin).toNat (0, 0)
  else (0, 0)

/-- What a field shows under one of its event codes. -/
def hidEvValue (f : HidField) (code : EvCode) (value : Nat) : Int :=
  if code = .abs 0x10 then (hatDirection f value).1
  else if code = .abs 0x11 then (hatDirection f value).2
  else value

/-- The field of a report with this id and size that the kernel shows under an event code. -/
def hidFieldFor (fields : List HidField) (reportId size : Nat) (code : EvCode) : Option HidField :=
  fields.find? fun f =>
    f.reportId == reportId && decide (f.offset + f.size ≤ 8 * (size - 1)) && (hidEvCodes f).contains code

/-- **A report read by the descriptor**: the value under an event code. -/
def hidParse (fields : List HidField) (size : Nat) (report : Nat → UInt8) (code : EvCode) : Option Int :=
  (hidFieldFor fields (report 0).toNat size code).map fun f => hidEvValue f code (fieldValue report f)

/-! ## What a report is to say -/

/-- A slot state within the ranges of its types: sticks in `int16_t`, the hat in -1..1. -/
structure Pad.InRange (pad : Pad) : Prop where
  lx : -32768 ≤ pad.lx ∧ pad.lx < 32768
  ly : -32768 ≤ pad.ly ∧ pad.ly < 32768
  rx : -32768 ≤ pad.rx ∧ pad.rx < 32768
  ry : -32768 ≤ pad.ry ∧ pad.ry < 32768
  hatX : -1 ≤ pad.hatX ∧ pad.hatX ≤ 1
  hatY : -1 ≤ pad.hatY ∧ pad.hatY ≤ 1

/-- What each control is to show: the high byte of a stick axis, the button, the hat; a trigger is its axis
in analog mode and its button in digital mode, the other one is 0. -/
def uhidControl (c : Controller) (pad : Pad) : Control → Int
  | .absX => (pad.lx + 32768) / 256
  | .absY => (pad.ly + 32768) / 256
  | .absRx => (pad.rx + 32768) / 256
  | .absRy => (pad.ry + 32768) / 256
  | .absZ => if c.isTriggerDigital then 0 else getTriggerAxisValue c.keymap pad .left
  | .absRz => if c.isTriggerDigital then 0 else getTriggerAxisValue c.keymap pad .right
  | .btnTl2 => if c.isTriggerDigital then keyValue (pad.buttons .l2) else 0
  | .btnTr2 => if c.isTriggerDigital then keyValue (pad.buttons .r2) else 0
  | k => pad.control (fun _ => 0) k

/-- A report of `size` bytes says what the slot is: it is as long as the descriptor has it, every control
has its value under its event code, and nothing else is on. -/
structure ReportSays (c : Controller) (pad : Pad) (size : Nat) (report : Nat → UInt8) : Prop where
  length : 8 * (size - 1) = reportBits uhidFields (report 0).toNat
  control : ∀ k : Control, hidParse uhidFields size report k.evCode = some (uhidControl c pad k)
  other : ∀ code, (∀ k : Control, code ≠ k.evCode) →
    ∀ v, hidParse uhidFields size report code = some v → v = 0

/-- **`uhid_build_input_report` keeps its contract** in a slot state, with a buffer of `bufSize` bytes:
* it returns 0, or a report that says what the slot is, whatever the buffer held;
* no byte of the report depends on what the buffer held;
* nothing is written at or behind the end of the buffer. -/
structure InputReportMatches (c : Controller) (pad : Pad) (bufSize : Nat) : Prop where
  report : ∀ buf, (uhidBuildInputReport c pad buf bufSize).1 = 0 ∨
    ReportSays c pad (uhidBuildInputReport c pad buf bufSize).1 (uhidBuildInputReport c pad buf bufSize).2
  fresh : ∀ buf buf' i, i < (uhidBuildInputReport c pad buf bufSize).1 →
    (uhidBuildInputReport c pad buf bufSize).2 i = (uhidBuildInputReport c pad buf' bufSize).2 i
  within : ∀ buf i, bufSize ≤ i → (uhidBuildInputReport c pad buf bufSize).2 i = buf i

/-! ## Where the descriptor puts each control -/

/-- The controls. -/
def Control.all : List Control :=
  [.absX, .absY, .absRx, .absRy, .absZ, .absRz, .hat0x, .hat0y, .btnWest, .btnNorth, .btnSouth, .btnEast,
    .btnTl, .btnTr, .btnSelect, .btnStart, .btnThumbl, .btnThumbr, .btnMode, .btnTl2, .btnTr2]

/-- Offset and size of the field of a control. -/
def Control.hidPlace : Control → Nat × Nat
  | .btnSouth => (0, 1)
  | .btnEast => (1, 1)
  | .btnNorth => (3, 1)
  | .btnWest => (4, 1)
  | .btnTl => (6, 1)
  | .btnTr => (7, 1)
  | .btnTl2 => (8, 1)
  | .btnTr2 => (9, 1)
  | .btnSelect => (10, 1)
  | .btnStart => (11, 1)
  | .btnMode => (12, 1)
  | .btnThumbl => (13, 1)
  | .btnThumbr => (14, 1)
  | .hat0x => (16, 8)
  | .hat0y => (16, 8)
  | .absX => (24, 8)
  | .absY => (32, 8)
  | .absRx => (56, 8)
  | .absRy => (64, 8)
  | .absZ => (80, 8)
  | .absRz => (88, 8)

/-- The field of a control, by the descriptor. -/
theorem hidFieldFor_control (k : Control) :
    (hidFieldFor uhidFields 1 13 k.evCode).map (fun f => (f.offset, f.size)) = some k.hidPlace := by
  cases k <;> decide +kernel

/-- The hat switch counts from 0 to 7. -/
theorem hidFieldFor_hat {code : EvCode} {f : HidField} (hcode : code = .abs 0x10 ∨ code = .abs 0x11)
    (hf : hidFieldFor uhidFields 1 13 code = some f) : f.logicalMin = 0 ∧ f.logicalMax = 7 := by
  have hall : ∀ g ∈ (hidFieldFor uhidFields 1 13 (.abs 0x10)).toList ++
      (hidFieldFor uhidFields 1 13 (.abs 0x11)).toList, g.logicalMin = 0 ∧ g.logicalMax = 7 := by
    decide +kernel
  apply hall
  rcases hcode with rfl | rfl <;> simp [hf]

/-- The two buttons of the descriptor no control uses: `BTN_C` and `BTN_Z`. -/
def spareCodes : List EvCode := [.key 0x132, .key 0x135]

/-- A field shows a control, or it is one bit at one of the two spare places. -/
def onlySpare (f : HidField) (code : EvCode) : Bool :=
  spareCodes.contains code && f.size == 1 && (f.offset == 2 || f.offset == 5)

theorem hidEvCodes_spare : uhidFields.all (fun f => (hidEvCodes f).all fun code =>
    onlySpare f code || (Control.all.map Control.evCode).contains code) = true := by
  decide +kernel

theorem hidFieldFor_mem {fields : List HidField} {reportId size : Nat} {code : EvCode} {f : HidField}
    (hf : hidFieldFor fields reportId size code = some f) : f ∈ fields ∧ code ∈ hidEvCodes f := by
  unfold hidFieldFor at hf
  have hfound := List.find?_some hf
  simp only [Bool.and_eq_true, List.contains_iff_mem] at hfound
  exact ⟨List.mem_of_find?_eq_some hf, hfound.2⟩

theorem hidFieldFor_other {code : EvCode} (hcode : ∀ k : Control, code ≠ k.evCode) {f : HidField}
    (hf : hidFieldFor uhidFields 1 13 code = some f) :
    f.size = 1 ∧ (f.offset = 2 ∨ f.offset = 5) ∧ code ∈ spareCodes := by
  obtain ⟨hfield, hmem⟩ := hidFieldFor_mem hf
  have hspare := List.all_eq_true.mp (List.all_eq_true.mp hidEvCodes_spare f hfield) code hmem
  rw [Bool.or_eq_true] at hspare
  rcases hspare with hspare | hcontrol
  · simp only [onlySpare, Bool.and_eq_true, Bool.or_eq_true, beq_iff_eq, List.contains_iff_mem] at hspare
    exact ⟨hspare.1.2, hspare.2, hspare.1.1⟩
  · rw [List.contains_iff_mem] at hcontrol
    obtain ⟨k, -, hk⟩ := List.mem_map.mp hcontrol
    exact absurd hk.symm (hcode k)

/-! ## What the bytes say -/

theorem keyValue_eq (b : Bool) : keyValue b = (b.toNat : Int) := by
  cases b <;> rfl

section Bytes

variable (c : Controller) (pad : Pad) (buf : Nat → UInt8)

/-- The two button bytes together are the `buttons` word. -/
theorem reportBit_buttons {k : Nat} (hk : k < 16) :
    (reportBit (uhidReportByte c pad buf) k).toNat = uhidButtons pad c.isTriggerDigital / 2 ^ k % 2 := by
  unfold reportBit
  rw [Nat.toNat_testBit]
  by_cases hlow : k < 8
  · have hdiv : k / 8 = 0 := by omega
    have hmod : k % 8 = k := by omega
    have hbyte : (uhidReportByte c pad buf 1).toNat = uhidButtons pad c.isTriggerDigital % 2 ^ 8 := by
      simp [uhidReportByte]
    rw [hdiv, hmod, hbyte, ← Nat.toNat_testBit, ← Nat.toNat_testBit, Nat.testBit_mod_two_pow]
    simp [hlow]
  · have hdiv : k / 8 = 1 := by omega
    have hmod : k % 8 = k - 8 := by omega
    have hbyte : (uhidReportByte c pad buf 2).toNat =
        uhidButtons pad c.isTriggerDigital / 2 ^ 8 % 2 ^ 8 := by
      simp [uhidReportByte]
    have hlt : k - 8 < 8 := by omega
    have hsum : 8 + (k - 8) = k := by omega
    rw [hdiv, hmod, hbyte, ← Nat.toNat_testBit, ← Nat.toNat_testBit, Nat.testBit_mod_two_pow,
      Nat.testBit_div_two_pow]
    simp [hlt, Nat.add_comm, hsum]

/-- The `buttons` word as a sum of the buttons. -/
theorem uhidButtons_eq (digital : Bool) :
    uhidButtons pad digital =
      (pad.buttons .cross).toNat * 2 ^ 0 + (pad.buttons .circle).toNat * 2 ^ 1 +
        (pad.buttons .triangle).toNat * 2 ^ 4 + (pad.buttons .square).toNat * 2 ^ 3 +
        (pad.buttons .l1).toNat * 2 ^ 6 + (pad.buttons .r1).toNat * 2 ^ 7 +
        (pad.buttons .share).toNat * 2 ^ 10 + (pad.buttons .options).toNat * 2 ^ 11 +
        (pad.buttons .ps).toNat * 2 ^ 12 + (pad.buttons .l3).toNat * 2 ^ 13 +
        (pad.buttons .r3).toNat * 2 ^ 14 +
        (digital && pad.buttons .l2).toNat * 2 ^ 8 + (digital && pad.buttons .r2).toNat * 2 ^ 9 := by
  have hbit : ∀ (b : Bool) (n : Nat), (if b then n else 0) = b.toNat * n := by
    intro b n
    cases b <;> simp
  cases digital
  · simp [uhidButtons, hbit]
  · simp [uhidButtons, hbit, Nat.add_assoc]

/-- The first twelve bytes are written always. -/
theorem uhidReportByte_of_lt (buf' : Nat → UInt8) {i : Nat} (hi : i < 12) :
    uhidReportByte c pad buf i = uhidReportByte c pad buf' i := by
  unfold uhidReportByte
  rw [if_pos hi, if_pos hi]

/-- Behind the thirteenth byte nothing is written. -/
theorem uhidReportByte_of_ge {i : Nat} (hi : 13 ≤ i) : uhidReportByte c pad buf i = buf i := by
  have hne : ∀ n < 13, i ≠ n := by
    intro n hn
    omega
  unfold uhidReportByte
  rw [if_neg (hne 0 (by omega)), if_neg (hne 1 (by omega)), if_neg (hne 2 (by omega)),
    if_neg (hne 3 (by omega)), if_neg (hne 4 (by omega)), if_neg (hne 5 (by omega)),
    if_neg (hne 8 (by omega)), if_neg (hne 9 (by omega)), if_neg fun h => hne 11 (by omega) h.1,
    if_neg fun h => hne 12 (by omega) h.1, if_neg (by omega)]

/-- The eight directions and the centre survive the hat's coding. -/
theorem uhidDpad_direction {f : HidField} (hmin : f.logicalMin = 0) (hmax : f.logicalMax = 7)
    {x y : Int} (hx : -1 ≤ x ∧ x ≤ 1) (hy : -1 ≤ y ∧ y ≤ 1) :
    hatDirection f (uhidDpad x y).toNat = (x, y) := by
  have hx' : x = -1 ∨ x = 0 ∨ x = 1 := by omega
  have hy' : y = -1 ∨ y = 0 ∨ y = 1 := by omega
  unfold hatDirection
  rw [hmin, hmax]
  rcases hx' with rfl | rfl | rfl <;> rcases hy' with rfl | rfl | rfl <;> decide

end Bytes

/-! ## Reading one control -/

section Parse

variable {report : Nat → UInt8} {k : Control}

theorem hidParse_control (hid : report 0 = 1) (k : Control) :
    ∃ f, hidFieldFor uhidFields 1 13 k.evCode = some f ∧ (f.offset, f.size) = k.hidPlace ∧
      hidParse uhidFields 13 report k.evCode = some (hidEvValue f k.evCode (fieldValue report f)) := by
  obtain ⟨f, hf, hplace⟩ := Option.map_eq_some_iff.mp (hidFieldFor_control k)
  refine ⟨f, hf, hplace, ?_⟩
  have hone : (report 0).toNat = 1 := by rw [hid]; rfl
  unfold hidParse
  rw [hone, hf]
  rfl

theorem evCode_ne_hat (hx : k ≠ .hat0x) (hy : k ≠ .hat0y) :
    k.evCode ≠ .abs 0x10 ∧ k.evCode ≠ .abs 0x11 := by
  cases k with
  | hat0x => exact absurd rfl hx
  | hat0y => exact absurd rfl hy
  | _ => exact ⟨by decide, by decide⟩

/-- Every control but the hat shows the plain value of its field. -/
theorem hidEvValue_plain {f : HidField} {code : EvCode} (hx : code ≠ .abs 0x10) (hy : code ≠ .abs 0x11)
    (v : Nat) : hidEvValue f code v = v := by
  simp [hidEvValue, hx, hy]

theorem hidParse_bit (hid : report 0 = 1) {o : Nat} (hplace : k.hidPlace = (o, 1)) :
    hidParse uhidFields 13 report k.evCode = some ((reportBit report o).toNat : Int) := by
  obtain ⟨f, -, hf, hparse⟩ := hidParse_control hid k
  rw [hplace, Prod.mk.injEq] at hf
  have hhat : k.evCode ≠ .abs 0x10 ∧ k.evCode ≠ .abs 0x11 := by
    refine evCode_ne_hat ?_ ?_
    · rintro rfl
      cases hplace
    · rintro rfl
      cases hplace
  rw [hparse, hidEvValue_plain hhat.1 hhat.2, fieldValue_bit hf.2, hf.1]

theorem hidParse_byte (hid : report 0 = 1) {i : Nat} (hplace : k.hidPlace = (8 * i, 8))
    (hx : k ≠ .hat0x) (hy : k ≠ .hat0y) :
    hidParse uhidFields 13 report k.evCode = some ((report (1 + i)).toNat : Int) := by
  obtain ⟨f, -, hf, hparse⟩ := hidParse_control hid k
  rw [hplace, Prod.mk.injEq] at hf
  have hhat := evCode_ne_hat hx hy
  rw [hparse, hidEvValue_plain hhat.1 hhat.2, fieldValue_byte hf.2 hf.1]

theorem hidParse_hat (hid : report 0 = 1) {x y : Int} (hdpad : report 3 = uhidDpad x y)
    (hx : -1 ≤ x ∧ x ≤ 1) (hy : -1 ≤ y ∧ y ≤ 1) :
    hidParse uhidFields 13 report Control.hat0x.evCode = some x ∧
      hidParse uhidFields 13 report Control.hat0y.evCode = some y := by
  constructor
  · obtain ⟨f, hfield, hf, hparse⟩ := hidParse_control hid .hat0x
    obtain ⟨hmin, hmax⟩ := hidFieldFor_hat (Or.inl rfl) hfield
    have hvalue : fieldValue report f = (uhidDpad x y).toNat := by
      rw [← hdpad]
      exact fieldValue_byte (i := 2) (congrArg Prod.snd hf) (congrArg Prod.fst hf)
    rw [hparse, hvalue]
    show some (hatDirection f (uhidDpad x y).toNat).1 = some x
    rw [uhidDpad_direction hmin hmax hx hy]
  · obtain ⟨f, hfield, hf, hparse⟩ := hidParse_control hid .hat0y
    obtain ⟨hmin, hmax⟩ := hidFieldFor_hat (Or.inr rfl) hfield
    have hvalue : fieldValue report f = (uhidDpad x y).toNat := by
      rw [← hdpad]
      exact fieldValue_byte (i := 2) (congrArg Prod.snd hf) (congrArg Prod.fst hf)
    rw [hparse, hvalue]
    show some (hatDirection f (uhidDpad x y).toNat).2 = some y
    rw [uhidDpad_direction hmin hmax hx hy]

end Parse

/-! ## When the report says what the slot is -/

section Says

variable {c : Controller} {pad : Pad} {buf : Nat → UInt8}

theorem stickByte_toNat {v : Int} (h : -32768 ≤ v ∧ v < 32768) :
    ((stickByte v).toNat : Int) = (v + 32768) / 256 :=
  toNat_toU8 (by omega)

/-- The buttons, the trigger buttons among them, are right in either mode. -/
theorem hidParse_uhidButtons {k : Control} {o : Nat} (hplace : k.hidPlace = (o, 1)) :
    hidParse uhidFields 13 (uhidReportByte c pad buf) k.evCode = some (uhidControl c pad k) := by
  have ho : o < 16 := by
    cases k <;> simp [Control.hidPlace] at hplace <;> omega
  have hle := fun b => Bool.toNat_le (pad.buttons b)
  have hl2 := Bool.toNat_le (c.isTriggerDigital && pad.buttons .l2)
  have hr2 := Bool.toNat_le (c.isTriggerDigital && pad.buttons .r2)
  have hcross := hle .cross
  have hcircle := hle .circle
  have htriangle := hle .triangle
  have hsquare := hle .square
  have hl1 := hle .l1
  have hr1 := hle .r1
  have hshare := hle .share
  have hoptions := hle .options
  have hps := hle .ps
  have hl3 := hle .l3
  have hr3 := hle .r3
  have hand : ∀ b : Bool, (if c.isTriggerDigital then (b.toNat : Int) else 0) =
      ((c.isTriggerDigital && b).toNat : Int) := by
    intro b
    cases c.isTriggerDigital <;> rfl
  rw [hidParse_bit rfl hplace, reportBit_buttons c pad buf ho, uhidButtons_eq]
  cases k <;> simp only [Control.hidPlace, Prod.mk.injEq, and_true, and_false, Nat.reduceEqDiff] at hplace
  all_goals
    subst hplace
    simp only [uhidControl, Pad.control, keyValue_eq, hand]
    congr 1
    omega

/-- A trigger value that fits a byte goes through; the byte of a value that does not is another one. -/
theorem toU8_trigger_iff (pad : Pad) (t : Trigger) :
    ((toU8 (getTriggerAxisValue c.keymap pad t)).toNat : Int) = getTriggerAxisValue c.keymap pad t ↔
      getTriggerAxisValue c.keymap pad t < 256 := by
  have h0 : 0 ≤ getTriggerAxisValue c.keymap pad t := by
    unfold getTriggerAxisValue
    split_ifs <;> omega
  rw [toNat_toU8_mod]
  omega

theorem uhidReportByte_left (hd : c.isTriggerDigital = false) :
    uhidReportByte c pad buf 11 = toU8 (getTriggerAxisValue c.keymap pad .left) := by
  simp [uhidReportByte, hd]

theorem uhidReportByte_right (hd : c.isTriggerDigital = false) :
    uhidReportByte c pad buf 12 = toU8 (getTriggerAxisValue c.keymap pad .right) := by
  simp [uhidReportByte, hd]

/-- The controls without the trigger axes are right in either mode. -/
theorem hidParse_uhidReport (hpad : pad.InRange) {k : Control} (hz : k ≠ .absZ) (hrz : k ≠ .absRz) :
    hidParse uhidFields 13 (uhidReportByte c pad buf) k.evCode = some (uhidControl c pad k) := by
  have hhat := @hidParse_hat (uhidReportByte c pad buf) rfl _ _ rfl hpad.hatX hpad.hatY
  cases k with
  | absZ => exact absurd rfl hz
  | absRz => exact absurd rfl hrz
  | hat0x => exact hhat.1
  | hat0y => exact hhat.2
  | absX =>
      rw [hidParse_byte (i := 3) rfl rfl (by decide) (by decide)]
      exact congrArg some (stickByte_toNat hpad.lx)
  | absY =>
      rw [hidParse_byte (i := 4) rfl rfl (by decide) (by decide)]
      exact congrArg some (stickByte_toNat hpad.ly)
  | absRx =>
      rw [hidParse_byte (i := 7) rfl rfl (by decide) (by decide)]
      exact congrArg some (stickByte_toNat hpad.rx)
  | absRy =>
      rw [hidParse_byte (i := 8) rfl rfl (by decide) (by decide)]
      exact congrArg some (stickByte_toNat hpad.ry)
  | btnWest | btnNorth | btnSouth | btnEast | btnTl | btnTr | btnSelect | btnStart | btnThumbl | btnThumbr
  | btnMode | btnTl2 | btnTr2 => exact hidParse_uhidButtons rfl

/-- The trigger axes show bytes 11 and 12. -/
theorem hidParse_triggers :
    hidParse uhidFields 13 (uhidReportByte c pad buf) Control.absZ.evCode =
        some ((uhidReportByte c pad buf 11).toNat : Int) ∧
      hidParse uhidFields 13 (uhidReportByte c pad buf) Control.absRz.evCode =
        some ((uhidReportByte c pad buf 12).toNat : Int) :=
  ⟨hidParse_byte (i := 10) rfl rfl (by decide) (by decide),
    hidParse_byte (i := 11) rfl rfl (by decide) (by decide)⟩

/-- The spare buttons are off. -/
theorem hidParse_other {code : EvCode} (hcode : ∀ k : Control, code ≠ k.evCode) {v : Int}
    (hv : hidParse uhidFields 13 (uhidReportByte c pad buf) code = some v) : v = 0 := by
  obtain ⟨f, hf, rfl⟩ := Option.map_eq_some_iff.mp hv
  obtain ⟨hsize, hoffset, hspare⟩ := hidFieldFor_other hcode hf
  have hx : code ≠ .abs 0x10 := by
    rintro rfl
    exact absurd hspare (by decide)
  have hy : code ≠ .abs 0x11 := by
    rintro rfl
    exact absurd hspare (by decide)
  have hle := fun b => Bool.toNat_le (pad.buttons b)
  have hcross := hle .cross
  have hcircle := hle .circle
  have htriangle := hle .triangle
  have hsquare := hle .square
  have hzero : (reportBit (uhidReportByte c pad buf) f.offset).toNat = 0 := by
    rcases hoffset with ho | ho
    · rw [ho, reportBit_buttons c pad buf (by omega), uhidButtons_eq]
      omega
    · rw [ho, reportBit_buttons c pad buf (by omega), uhidButtons_eq]
      omega
  rw [hidEvValue_plain hx hy, fieldValue_bit hsize, hzero]
  rfl

/-- **Digital mode shows the old content** of the buffer as the right trigger. -/
theorem digital_shows_old_content (hd : c.isTriggerDigital = true) :
    hidParse uhidFields 13 (uhidReportByte c pad buf) Control.absRz.evCode =
      some ((buf 12).toNat : Int) := by
  rw [hidParse_triggers.2]
  simp [uhidReportByte, hd]

/-- In analog mode, with trigger values that fit, the report says what the slot is. -/
theorem reportSays_analog (hpad : pad.InRange) (hd : c.isTriggerDigital = false)
    (hfit : ∀ t, getTriggerAxisValue c.keymap pad t < 256) :
    ReportSays c pad 13 (uhidReportByte c pad buf) where
  length := by
    show 8 * (13 - 1) = reportBits uhidFields 1
    decide +kernel
  control k := by
    by_cases hz : k = .absZ
    · subst hz
      rw [hidParse_triggers.1, uhidReportByte_left hd]
      simpa [uhidControl, hd] using (toU8_trigger_iff pad .left).mpr (hfit .left)
    · by_cases hrz : k = .absRz
      · subst hrz
        rw [hidParse_triggers.2, uhidReportByte_right hd]
        simpa [uhidControl, hd] using (toU8_trigger_iff pad .right).mpr (hfit .right)
      · exact hidParse_uhidReport hpad hz hrz
  other _ hcode _ hv := hidParse_other hcode hv

/-- A report that says what the slot is, in analog mode, has room for the trigger values. -/
theorem fits_of_reportSays (hd : c.isTriggerDigital = false)
    (h : ReportSays c pad 13 (uhidReportByte c pad buf)) (t : Trigger) :
    getTriggerAxisValue c.keymap pad t < 256 := by
  rw [← toU8_trigger_iff pad t]
  cases t with
  | left =>
      have hz := h.control .absZ
      rw [hidParse_triggers.1, uhidReportByte_left hd] at hz
      simpa [uhidControl, hd] using hz
  | right =>
      have hrz := h.control .absRz
      rw [hidParse_triggers.2, uhidReportByte_right hd] at hrz
      simpa [uhidControl, hd] using hrz

end Says

/-- **When the UHID input report keeps its contract.**  For every configuration and every slot state within
its types, the report read by the descriptor says what the slot is, depends on nothing the buffer held and
stays within the buffer, if and only if there is no report at all (a buffer below 12 bytes), or the buffer
has room for 13 bytes, the triggers are analog and their values fit a byte. -/
theorem inputReportMatches_iff (c : Controller) {pad : Pad} (hpad : pad.InRange) (bufSize : Nat) :
    InputReportMatches c pad bufSize ↔
      bufSize < 12 ∨
        (13 ≤ bufSize ∧ c.isTriggerDigital = false ∧ ∀ t, getTriggerAxisValue c.keymap pad t < 256) := by
  by_cases hsize : bufSize < 12
  · have hnone : ∀ buf, uhidBuildInputReport c pad buf bufSize = (0, buf) := fun buf => if_pos hsize
    refine ⟨fun _ => Or.inl hsize, fun _ => ?_⟩
    refine ⟨fun buf => ?_, fun buf buf' i hi => ?_, fun buf i _ => ?_⟩
    · rw [hnone]
      exact Or.inl rfl
    · rw [hnone] at hi
      exact absurd hi (Nat.not_lt_zero i)
    · rw [hnone]
  · have hreport : ∀ buf, uhidBuildInputReport c pad buf bufSize = (13, uhidReportByte c pad buf) :=
      fun buf => if_neg hsize
    constructor
    · intro h
      -- a byte that is not written shows through
      have hd : c.isTriggerDigital = false := by
        by_contra hd
        rw [Bool.not_eq_false] at hd
        have hfresh := h.fresh (fun _ => 0) (fun _ => 1) 12
        rw [hreport, hreport] at hfresh
        have hsame := hfresh (by omega)
        simp [uhidReportByte, hd] at hsame
      -- a byte that is written behind the end shows there
      have hroom : 13 ≤ bufSize := by
        by_contra hroom
        have hbehind : ∀ buf : Nat → UInt8, toU8 (getTriggerAxisValue c.keymap pad .right) = buf 12 := by
          intro buf
          have hwithin := h.within buf 12 (by omega)
          rw [hreport] at hwithin
          exact (uhidReportByte_right hd).symm.trans hwithin
        exact absurd ((hbehind fun _ => 0).symm.trans (hbehind fun _ => 1)) (by decide)
      refine Or.inr ⟨hroom, hd, ?_⟩
      rcases h.report fun _ => 0 with hnone | hsays
      · rw [hreport] at hnone
        cases hnone
      · rw [hreport] at hsays
        exact fits_of_reportSays hd hsays
    · rintro (hlt | ⟨hroom, hd, hfit⟩)
      · exact absurd hlt hsize
      · refine ⟨fun buf => ?_, fun buf buf' i hi => ?_, fun buf i hi => ?_⟩
        · rw [hreport]
          exact Or.inr (reportSays_analog hpad hd hfit)
        · rw [hreport] at hi ⊢
          rw [hreport]
          have hlt : i < 13 := hi
          have hcases : i = 12 ∨ i < 12 := by omega
          rcases hcases with rfl | hlt
          · show uhidReportByte c pad buf 12 = uhidReportByte c pad buf' 12
            rw [uhidReportByte_right hd, uhidReportByte_right hd]
          · exact uhidReportByte_of_lt c pad buf buf' hlt
        · rw [hreport]
          exact uhidReportByte_of_ge c pad buf (Nat.le_trans hroom hi)

/-- A pad in use: the sticks at and near their ends, four buttons down, the hat up and to the right, the left
trigger at 200 and the right one pressed through another button. -/
def heldPad : Pad where
  lx := -32768
  ly := 32767
  rx := -1
  ry := -12000
  lt := 200
  rt := 0
  buttons := fun b => b == .cross || b == .r1 || b == .l2 || b == .r2
  hatX := 1
  hatY := -1
  battery := 100

theorem inputReportMatches_held : heldPad.InRange ∧ InputReportMatches initialController heldPad 64 ∧
    uhidControl initialController heldPad .absX = 0 ∧ uhidControl initialController heldPad .absRx = 127 ∧
    uhidControl initialController heldPad .absZ = 200 ∧ uhidControl initialController heldPad .absRz = 255 ∧
    uhidControl initialController heldPad .hat0y = -1 := by
  have hrange : heldPad.InRange := by
    constructor <;> exact ⟨by decide, by decide⟩
  refine ⟨hrange, (inputReportMatches_iff initialController hrange 64).mpr (Or.inr ⟨by decide, rfl, ?_⟩), ?_⟩
  · intro t
    cases t <;> decide
  · decide

/-- A controller in digital mode. -/
def digitalController : Controller := { initialController with isTriggerDigital := true }

/-- NOTHING IS PRESSED, and the right trigger shows what the stack held: 200 here. -/
theorem digital_report_differs :
    ¬InputReportMatches digitalController restPad 64 ∧
      uhidControl digitalController restPad .absRz = 0 ∧
      hidParse uhidFields 13 (uhidReport digitalController restPad fun _ => 200) Control.absRz.evCode =
        some 200 := by
  refine ⟨fun h => ?_, rfl, digital_shows_old_content rfl⟩
  have hfresh := h.fresh (fun _ => 0) (fun _ => 200) 12 (by decide +kernel)
  exact absurd hfresh (by decide +kernel)

end Dstx
