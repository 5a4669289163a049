/-
# Dstx.Lib.Records — byte buffers of variable-length records, as C programs walk over them.

A record has its numbers in little-endian bytes (`leBytes`, `leValue`), its text up to a terminating zero
(`cText`), and says its own size; a loop looks at the record at its pointer and advances by that size
(`scan`), or takes something out of every record (`collect`).  The rules for such loops are `scan_flatMap` and
`collect_flatMap`: over a buffer that holds whole records, one after the other, the loop finds what a search
of the list of records finds.

`infix_append_cons_iff` is about `strstr`: a text without the separator occurs in a path exactly when it
occurs in one of its components.
-/
import Mathlib.Algebra.Group.Nat.Defs
import Mathlib.Data.List.Infix
import Mathlib.Data.List.TakeDrop

namespace Dstx.Lib

/-! ## Little-endian numbers -/

/-- The number the bytes spell, lowest byte first. -/
def leValue : List UInt8 → Nat
  | [] => 0
  | b :: bs => b.toNat + 256 * leValue bs

/-- The lowest `width` bytes of a number. -/
def leBytes : Nat → Nat → List UInt8
  | 0, _ => []
  | width + 1, n => UInt8.ofNat (n % 256) :: leBytes width (n / 256)

@[simp] theorem length_leBytes (width n : Nat) : (leBytes width n).length = width := by
  induction width generalizing n with
  | zero => rfl
  | succ width ih => simp [leBytes, ih]

theorem leValue_leBytes {width n : Nat} (h : n < 256 ^ width) : leValue (leBytes width n) = n := by
  induction width generalizing n with
  | zero =>
      have hzero : n = 0 := by simpa using h
      rw [hzero]
      rfl
  | succ width ih =>
      have hrest : n / 256 < 256 ^ width := by
        rw [Nat.div_lt_iff_lt_mul (by decide)]
        rwa [← Nat.pow_succ]
      have hbyte : (UInt8.ofNat (n % 256)).toNat = n % 256 := by simp
      show (UInt8.ofNat (n % 256)).toNat + 256 * leValue (leBytes width (n / 256)) = n
      rw [ih hrest, hbyte]
      omega

/-- Dropping a field of a known width. -/
theorem drop_add_append {α : Type*} {a : List α} {n : Nat} (h : a.length = n) (k : Nat) (l : List α) :
    (a ++ l).drop (n + k) = l.drop k := by
  rw [← List.drop_drop, List.drop_left' h]

/-! ## Texts -/

/-- The text at the start of a buffer, up to the terminating zero. -/
def cText (bytes : List UInt8) : List UInt8 := bytes.takeWhile (· != 0)

theorem cText_append_zero {text : List UInt8} (h : 0 ∉ text) (rest : List UInt8) :
    cText (text ++ 0 :: rest) = text := by
  unfold cText
  rw [List.takeWhile_append_of_pos]
  · simp
  · intro b hb
    have hne : b ≠ 0 := fun hzero => h (hzero ▸ hb)
    simpa using hne

section Infix

variable {α : Type*} {s a b : List α} {c : α}

/-- A prefix that avoids the separator ends before it. -/
theorem prefix_append_cons (hc : c ∉ s) (h : s <+: a ++ c :: b) : s <+: a := by
  rcases Nat.le_total s.length a.length with hle | hle
  · exact List.prefix_of_prefix_length_le h (List.prefix_append a _) hle
  · -- otherwise `s` goes on behind `a`, and the next thing there is the separator
    obtain ⟨t, rfl⟩ := List.prefix_of_prefix_length_le (List.prefix_append a _) h hle
    rw [List.prefix_append_right_inj] at h
    cases t with
    | nil => simp
    | cons d t =>
        obtain ⟨rest, hrest⟩ := h
        have hd : d = c := (List.cons.inj hrest).1
        exact absurd (hd ▸ List.mem_append_right a List.mem_cons_self) hc

/-- **A text without the separator** occurs in a joined text exactly when it occurs in one of the parts. -/
theorem infix_append_cons_iff (hc : c ∉ s) : s <:+: a ++ c :: b ↔ s <:+: a ∨ s <:+: b := by
  constructor
  · intro h
    induction a with
    | nil =>
        rcases List.infix_cons_iff.mp h with hprefix | hrest
        · exact Or.inl (prefix_append_cons hc hprefix).isInfix
        · exact Or.inr hrest
    | cons x a ih =>
        rcases List.infix_cons_iff.mp h with hprefix | hrest
        · exact Or.inl (prefix_append_cons (a := x :: a) hc hprefix).isInfix
        · exact (ih hrest).imp_left List.infix_cons
  · rintro (h | h)
    · exact List.infix_append_of_infix_left h
    · exact List.infix_append_of_infix_right (List.infix_cons h)

end Infix

/-! ## The loop -/

section Scan

variable {β ρ : Type*}

/-- **A loop over a buffer of records**: it stops at the first record `hit` accepts, and at the end.  The
first argument bounds the rounds; the length of the buffer is enough. -/
def scan (size : List β → Nat) (hit : List β → Bool) : Nat → List β → Bool
  | _, [] => false
  | 0, _ :: _ => false
  | fuel + 1, b :: bs => hit (b :: bs) || scan size hit fuel ((b :: bs).drop (size (b :: bs)))

variable {encode : ρ → List β} {size : List β → Nat} {hit : List β → Bool} {p : ρ → Bool}

/-- **The rule for loops over records.** -/
theorem scan_flatMap (hne : ∀ r, encode r ≠ [])
    (hsize : ∀ r rest, size (encode r ++ rest) = (encode r).length)
    (hhit : ∀ r rest, hit (encode r ++ rest) = p r) :
    ∀ (records : List ρ) (fuel : Nat), records.length ≤ fuel →
      scan size hit fuel (records.flatMap encode) = records.any p := by
  intro records
  induction records with
  | nil =>
      intro fuel _
      cases fuel <;> rfl
  | cons r records ih =>
      intro fuel hfuel
      obtain ⟨b, bs, hb⟩ := List.exists_cons_of_ne_nil (hne r)
      cases fuel with
      | zero => exact absurd hfuel (by simp)
      | succ fuel =>
          have hbuf : (r :: records).flatMap encode = b :: (bs ++ records.flatMap encode) := by
            rw [List.flatMap_cons, hb]
            rfl
          have hcons : b :: (bs ++ records.flatMap encode) = encode r ++ records.flatMap encode := by
            rw [hb]
            rfl
          rw [hbuf]
          show (hit (b :: (bs ++ records.flatMap encode)) || scan size hit fuel
            ((b :: (bs ++ records.flatMap encode)).drop (size (b :: (bs ++ records.flatMap encode))))) = _
          rw [hcons, hhit, hsize, List.drop_left, ih fuel (by simpa using hfuel), List.any_cons]

/-- **A loop that takes something out of every record**, until the buffer ends. -/
def collect {γ : Type*} (size : List β → Nat) (item : List β → Option γ) : Nat → List β → List γ
  | _, [] => []
  | 0, _ :: _ => []
  | fuel + 1, b :: bs =>
      (item (b :: bs)).toList ++ collect size item fuel ((b :: bs).drop (size (b :: bs)))

/-- The rule for such loops. -/
theorem collect_flatMap {γ : Type*} {item : List β → Option γ} {f : ρ → Option γ} (hne : ∀ r, encode r ≠ [])
    (hsize : ∀ r rest, size (encode r ++ rest) = (encode r).length)
    (hitem : ∀ r rest, item (encode r ++ rest) = f r) :
    ∀ (records : List ρ) (fuel : Nat), records.length ≤ fuel →
      collect size item fuel (records.flatMap encode) = records.filterMap f := by
  intro records
  induction records with
  | nil =>
      intro fuel _
      cases fuel <;> rfl
  | cons r records ih =>
      intro fuel hfuel
      obtain ⟨b, bs, hb⟩ := List.exists_cons_of_ne_nil (hne r)
      cases fuel with
      | zero => exact absurd hfuel (by simp)
      | succ fuel =>
          have hcons : encode r ++ records.flatMap encode = b :: (bs ++ records.flatMap encode) := by
            rw [hb]
            rfl
          have hround : collect size item (fuel + 1) (encode r ++ records.flatMap encode) =
              (f r).toList ++ collect size item fuel (records.flatMap encode) := by
            rw [← hitem r (records.flatMap encode), hcons]
            show (item (b :: (bs ++ records.flatMap encode))).toList ++ collect size item fuel
              ((b :: (bs ++ records.flatMap encode)).drop (size (b :: (bs ++ records.flatMap encode)))) = _
            rw [← hcons, hsize, List.drop_left]
          rw [List.flatMap_cons, hround, ih fuel (by simpa using hfuel)]
          cases hf : f r with
          | none => simp [hf]
          | some x => simp [hf]

/-- Every record takes at least one element of the buffer. -/
theorem length_le_flatMap (hne : ∀ r, encode r ≠ []) (records : List ρ) :
    records.length ≤ (records.flatMap encode).length := by
  induction records with
  | nil => simp
  | cons r records ih =>
      have hpos := List.length_pos_of_ne_nil (hne r)
      rw [List.flatMap_cons, List.length_append, List.length_cons]
      omega

end Scan

end Dstx.Lib
