/-
# Dstx.Lib.Utf8 — which byte strings are UTF-8.

A text is a list of characters, one for each byte.  The bytes of a letter behind its first one are given by
RANGES: `utf8Ranges` says, for a first byte, in which range each of the following bytes must lie, with the
overlong forms, the surrogates and the numbers above 0x10FFFF left out.  `utf8Run` carries the ranges that are
still owed; a text is UTF-8 when every byte is taken and nothing is owed at its end.

The ranges owed all lie above ASCII (`Owes`), so an ASCII character never completes a letter: a text that is
cut inside a letter stays invalid when ASCII text is put round it (`validUtf8_between`).
-/
import Mathlib.Data.List.Basic

namespace Dstx.Lib

/-- The ranges of the bytes that follow the first byte of a letter; none for a byte that starts no letter. -/
def utf8Ranges (c : Char) : Option (List (Nat × Nat)) :=
  let n := c.toNat
  if n ≤ 0x7F then some []
  else if 0xC2 ≤ n ∧ n ≤ 0xDF then some [(0x80, 0xBF)]
  else if n = 0xE0 then some [(0xA0, 0xBF), (0x80, 0xBF)]
  else if n = 0xED then some [(0x80, 0x9F), (0x80, 0xBF)]
  else if 0xE1 ≤ n ∧ n ≤ 0xEF then some [(0x80, 0xBF), (0x80, 0xBF)]
  else if n = 0xF0 then some [(0x90, 0xBF), (0x80, 0xBF), (0x80, 0xBF)]
  else if n = 0xF4 then some [(0x80, 0x8F), (0x80, 0xBF), (0x80, 0xBF)]
  else if 0xF1 ≤ n ∧ n ≤ 0xF3 then some [(0x80, 0xBF), (0x80, 0xBF), (0x80, 0xBF)]
  else none

/-- The ranges owed after a text, from the ranges owed before it; none where a byte is refused. -/
def utf8Run : List (Nat × Nat) → List Char → Option (List (Nat × Nat))
  | owed, [] => some owed
  | [], c :: s =>
      match utf8Ranges c with
      | some owed => utf8Run owed s
      | none => none
  | (lo, hi) :: owed, c :: s => if lo ≤ c.toNat ∧ c.toNat ≤ hi then utf8Run owed s else none

/-- **The text is UTF-8.** -/
def validUtf8 (s : List Char) : Bool := utf8Run [] s == some []

theorem utf8Run_append (owed : List (Nat × Nat)) (s t : List Char) :
    utf8Run owed (s ++ t) = (utf8Run owed s).bind fun owed' => utf8Run owed' t := by
  induction s generalizing owed with
  | nil => cases owed <;> rfl
  | cons c s ih =>
      cases owed with
      | nil =>
          simp only [List.cons_append, utf8Run]
          cases utf8Ranges c with
          | none => rfl
          | some owed => exact ih owed
      | cons range owed =>
          simp only [List.cons_append, utf8Run]
          split_ifs
          · exact ih owed
          · rfl

/-- **Behind a text that is UTF-8, everything is read as from the start.** -/
theorem validUtf8_append {s : List Char} (hs : validUtf8 s = true) (t : List Char) :
    validUtf8 (s ++ t) = validUtf8 t := by
  have hrun : utf8Run [] s = some [] := by simpa [validUtf8] using hs
  simp [validUtf8, utf8Run_append, hrun]

/-- The ranges owed lie above ASCII. -/
def Owes (owed : List (Nat × Nat)) : Prop := ∀ range ∈ owed, 0x80 ≤ range.1

theorem owes_utf8Ranges {c : Char} {owed : List (Nat × Nat)} (h : utf8Ranges c = some owed) : Owes owed := by
  unfold utf8Ranges at h
  dsimp only at h
  split_ifs at h <;> obtain rfl := Option.some.inj h <;> simp [Owes]

theorem owes_utf8Run {owed owed' : List (Nat × Nat)} {s : List Char} (h : Owes owed)
    (hrun : utf8Run owed s = some owed') : Owes owed' := by
  induction s generalizing owed with
  | nil =>
      have heq : owed = owed' := by cases owed <;> exact Option.some.inj hrun
      exact heq ▸ h
  | cons c s ih =>
      cases owed with
      | nil =>
          simp only [utf8Run] at hrun
          cases hc : utf8Ranges c with
          | none => simp [hc] at hrun
          | some owed =>
              rw [hc] at hrun
              exact ih (owes_utf8Ranges hc) hrun
      | cons range owed =>
          simp only [utf8Run] at hrun
          split_ifs at hrun
          exact ih (fun r hr => h r (List.mem_cons_of_mem _ hr)) hrun

/-- **An ASCII character behind a text completes nothing.** -/
theorem validUtf8_snoc {c : Char} (hc : c.toNat ≤ 0x7F) (s : List Char) :
    validUtf8 (s ++ [c]) = validUtf8 s := by
  unfold validUtf8
  rw [utf8Run_append]
  cases hrun : utf8Run [] s with
  | none => rfl
  | some owed =>
      cases owed with
      | nil => simp [utf8Run, utf8Ranges, hc]
      | cons range owed =>
          have howes : Owes (range :: owed) :=
            owes_utf8Run (fun r hr => absurd hr List.not_mem_nil) hrun
          have hlo := howes range (List.mem_cons_self ..)
          have hout : ¬(range.1 ≤ c.toNat ∧ c.toNat ≤ range.2) := by omega
          simp [utf8Run, hout]

/-- **A text between ASCII texts** is UTF-8 as it is by itself. -/
theorem validUtf8_between {before : List Char} (hbefore : validUtf8 before = true) {c : Char}
    (hc : c.toNat ≤ 0x7F) (s : List Char) : validUtf8 (before ++ s ++ [c]) = validUtf8 s := by
  rw [List.append_assoc, validUtf8_append hbefore, validUtf8_snoc hc]

/-- Two letters of two bytes, and the same text cut inside the second. -/
example : validUtf8 ['\xC3', '\xA9', '\xC3', '\xA8'] = true ∧ validUtf8 ['\xC3', '\xA9', '\xC3'] = false := by
  decide

end Dstx.Lib
