/-
# Dstx.Lib.HidDescriptor — HID report descriptors: from the bytes to the fields, from a report to values.

A report descriptor is a sequence of SHORT ITEMS: a prefix byte with the kind of the item and the size of
its data, then the data.  Global items set registers that stay; local items (the usages) are used up by the
next main item; an Input item lays `reportCount` fields of `reportSize` bits one after the other into the
report whose id the register holds (`inputFields`).

Bit `k` of a report's data is bit `k % 8` of byte `k / 8` after the id byte; the value of a field is the
number its bits spell, lowest first (`fieldValue`).  What callers need of it: a field of one bit reads that
bit, a field of eight bits at a byte boundary reads that byte.
-/
import Dstx.Lib.Records
import Mathlib.Data.Nat.Bitwise

namespace Dstx.Lib

/-! ## Items -/

/-- A short item: the prefix byte without its size bits, the size of the data, the data. -/
structure HidItem where
  kind : Nat
  size : Nat
  data : Nat

/-- The data as a signed number. -/
def HidItem.signed (item : HidItem) : Int :=
  if 2 * item.data < 256 ^ item.size then item.data else (item.data : Int) - 256 ^ item.size

/-- The size of the data: the two low bits of the prefix byte, where 3 stands for four bytes. -/
def hidItemSize (head : UInt8) : Nat := if head.toNat % 4 = 3 then 4 else head.toNat % 4

/-- The items of a descriptor, `none` when it ends inside an item.  The first argument bounds their number;
the length of the descriptor is enough. -/
def hidItems : Nat → List UInt8 → Option (List HidItem)
  | _, [] => some []
  | 0, _ :: _ => none
  | fuel + 1, head :: rest =>
      let size := hidItemSize head
      if rest.length < size then none
      else (hidItems fuel (rest.drop size)).map
        (⟨head.toNat / 4 * 4, size, leValue (rest.take size)⟩ :: ·)

/-! ## Fields -/

/-- A field of an input report; `offset` counts the bits after the id byte. -/
structure HidField where
  reportId : Nat
  usagePage : Nat
  usage : Nat
  offset : Nat
  size : Nat
  logicalMin : Int
  logicalMax : Int
  constant : Bool
  deriving DecidableEq

/-- The registers a descriptor works on, and the fields so far. -/
structure HidParser where
  usagePage : Nat
  logicalMin : Int
  logicalMax : Int
  reportSize : Nat
  reportCount : Nat
  reportId : Nat
  usages : List Nat
  usageMin : Nat
  fields : List HidField

/-- Nothing set, nothing seen. -/
def HidParser.start : HidParser := ⟨0, 0, 0, 0, 0, 0, [], 0, []⟩

/-- How many bits of a report are laid out. -/
def reportBits (fields : List HidField) (reportId : Nat) : Nat :=
  ((fields.filter (·.reportId == reportId)).map (·.size)).sum

/-- The usage of field number `k` of an item: the last usage goes on for the rest. -/
def HidParser.usageAt (p : HidParser) (k : Nat) : Nat := (p.usages[k]?).getD (p.usages.getLastD 0)

/-- **An Input item**: its fields are laid out after what the report has already. -/
def HidParser.input (p : HidParser) (flags : Nat) : HidParser :=
  let offset := reportBits p.fields p.reportId
  let field (k : Nat) : HidField :=
    ⟨p.reportId, p.usagePage, p.usageAt k, offset + k * p.reportSize, p.reportSize, p.logicalMin,
      p.logicalMax, flags.testBit 0⟩
  { p with fields := p.fields ++ (List.range p.reportCount).map field }

/-- Local items are used up by a main item. -/
def HidParser.clearLocals (p : HidParser) : HidParser := { p with usages := [], usageMin := 0 }

/-- **One item.**  Physical ranges and units do not move a field; Push, Pop and what is reserved are
refused. -/
def HidParser.item (p : HidParser) (item : HidItem) : Option HidParser :=
  match item.kind with
  | 0x80 => some (p.input item.data).clearLocals
  | 0x90 | 0xB0 | 0xA0 | 0xC0 => some p.clearLocals
  | 0x04 => some { p with usagePage := item.data }
  | 0x14 => some { p with logicalMin := item.signed }
  | 0x24 => some { p with logicalMax := item.signed }
  | 0x34 | 0x44 | 0x54 | 0x64 => some p
  | 0x74 => some { p with reportSize := item.data }
  | 0x84 => some { p with reportId := item.data }
  | 0x94 => some { p with reportCount := item.data }
  | 0x08 => some { p with usages := p.usages ++ [item.data] }
  | 0x18 => some { p with usageMin := item.data }
  | 0x28 => some { p with usages := p.usages ++ List.range' p.usageMin (item.data + 1 - p.usageMin) }
  | _ => none

/-- **The fields of the input reports a descriptor describes.** -/
def inputFields (descriptor : List UInt8) : Option (List HidField) :=
  (hidItems descriptor.length descriptor).bind fun items =>
    (items.foldlM HidParser.item HidParser.start).map (·.fields)

/-! ## Values -/

/-- A bit of the data of a report; byte 0 is the report id. -/
def reportBit (report : Nat → UInt8) (k : Nat) : Bool := (report (1 + k / 8)).toNat.testBit (k % 8)

/-- The number that `size` bits from `offset` on spell. -/
def bitsValue (bit : Nat → Bool) (offset : Nat) : Nat → Nat
  | 0 => 0
  | size + 1 => (bit offset).toNat + 2 * bitsValue bit (offset + 1) size

/-- **The value of a field in a report.** -/
def fieldValue (report : Nat → UInt8) (f : HidField) : Nat := bitsValue (reportBit report) f.offset f.size

/-- The bits of a number spell what is left of it. -/
theorem bitsValue_testBit (n : Nat) : ∀ size offset : Nat,
    bitsValue n.testBit offset size = n / 2 ^ offset % 2 ^ size := by
  intro size
  induction size with
  | zero =>
      intro offset
      simp [bitsValue, Nat.mod_one]
  | succ size ih =>
      intro offset
      have hlow : (n.testBit offset).toNat = n / 2 ^ offset % 2 := Nat.toNat_testBit n offset
      have hrest : n / 2 ^ (offset + 1) = n / 2 ^ offset / 2 := by rw [pow_succ, Nat.div_div_eq_div_mul]
      show (n.testBit offset).toNat + 2 * bitsValue n.testBit (offset + 1) size =
        n / 2 ^ offset % 2 ^ (size + 1)
      rw [ih, hlow, hrest, pow_succ, Nat.mul_comm (2 ^ size) 2, Nat.mod_mul]

/-- Bits that agree spell the same number. -/
theorem bitsValue_congr {bit bit' : Nat → Bool} : ∀ {size offset offset' : Nat},
    (∀ k < size, bit (offset + k) = bit' (offset' + k)) →
      bitsValue bit offset size = bitsValue bit' offset' size := by
  intro size
  induction size with
  | zero =>
      intro offset offset' _
      rfl
  | succ size ih =>
      intro offset offset' h
      have hfirst : bit offset = bit' offset' := h 0 (Nat.succ_pos size)
      have hrest : bitsValue bit (offset + 1) size = bitsValue bit' (offset' + 1) size := by
        refine ih fun k hk => ?_
        have hk' := h (k + 1) (by omega)
        rwa [← Nat.add_assoc, ← Nat.add_assoc, Nat.add_right_comm, Nat.add_right_comm offset'] at hk'
      show (bit offset).toNat + 2 * bitsValue bit (offset + 1) size =
        (bit' offset').toNat + 2 * bitsValue bit' (offset' + 1) size
      rw [hfirst, hrest]

variable {report : Nat → UInt8} {f : HidField}

/-- **A field of one bit reads that bit.** -/
theorem fieldValue_bit (hsize : f.size = 1) : fieldValue report f = (reportBit report f.offset).toNat := by
  rw [fieldValue, hsize]
  rfl

/-- **A field of eight bits at a byte boundary reads that byte.** -/
theorem fieldValue_byte {i : Nat} (hsize : f.size = 8) (hoffset : f.offset = 8 * i) :
    fieldValue report f = (report (1 + i)).toNat := by
  have hbits : bitsValue (reportBit report) (8 * i) 8 = bitsValue (report (1 + i)).toNat.testBit 0 8 := by
    refine bitsValue_congr fun k hk => ?_
    have hdiv : (8 * i + k) / 8 = i := by omega
    have hmod : (8 * i + k) % 8 = 0 + k := by omega
    show (report (1 + (8 * i + k) / 8)).toNat.testBit ((8 * i + k) % 8) = _
    rw [hdiv, hmod]
  have hlt : (report (1 + i)).toNat < 256 := (report (1 + i)).toNat_lt
  rw [fieldValue, hsize, hoffset, hbits, bitsValue_testBit]
  omega

end Dstx.Lib
