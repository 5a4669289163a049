/-
# Dstx.Lib.CBuffer — character buffers that hold a terminated text.

A buffer is a list of characters of fixed length, and `cString` the text in front of its first terminator.
`Holds nul buf text` says that the buffer starts with a text and its terminator.  `strcat` writes at the
old terminator; where the new text and its terminator fit, it keeps the length of the buffer, which is to
say that it does not write outside.
-/
import Mathlib.Data.List.Basic
import Mathlib.Data.List.TakeWhile

namespace Dstx.Lib

variable {α : Type*}

/-- The text in front of the first terminator: what `strlen` and `strcat` see. -/
def cString [DecidableEq α] (nul : α) (buf : List α) : List α := buf.takeWhile (· ≠ nul)

/-- Store `data` from position `off` on. -/
def writeAt (buf : List α) (off : Nat) (data : List α) : List α :=
  buf.take off ++ data ++ buf.drop (off + data.length)

/-- **`strcat(buf, text)`**. -/
def strcat [DecidableEq α] (nul : α) (buf text : List α) : List α :=
  writeAt buf (cString nul buf).length (text ++ [nul])

/-- **The buffer holds a text.** -/
structure Holds (nul : α) (buf text : List α) : Prop where
  noNul : nul ∉ text
  starts : text ++ [nul] <+: buf

variable {nul : α} {buf text more : List α}

/-- An emptied buffer. -/
theorem holds_set_zero (h : buf ≠ []) : Holds nul (buf.set 0 nul) [] := by
  cases buf with
  | nil => exact absurd rfl h
  | cons c buf => exact ⟨List.not_mem_nil, by simp⟩

variable [DecidableEq α]

theorem Holds.cString_eq (h : Holds nul buf text) : cString nul buf = text := by
  obtain ⟨rest, hrest⟩ := h.starts
  have hall : ∀ c ∈ text, decide (c ≠ nul) = true := by
    intro c hc
    have hne : c ≠ nul := fun heq => h.noNul (heq ▸ hc)
    simpa using hne
  unfold cString
  rw [← hrest, List.append_assoc, List.takeWhile_append_of_pos hall]
  simp

/-- **`strcat` appends**, and stays inside where there is room for the terminator. -/
theorem Holds.strcat (h : Holds nul buf text) (hmore : nul ∉ more)
    (hfits : text.length + more.length < buf.length) :
    Holds nul (strcat nul buf more) (text ++ more) ∧ (strcat nul buf more).length = buf.length := by
  obtain ⟨rest, hrest⟩ := h.starts
  have htext : buf.take text.length = text := by
    rw [← hrest, List.append_assoc, List.take_left]
  have hstored : Lib.strcat nul buf more =
      text ++ more ++ [nul] ++ buf.drop (text.length + more.length + 1) := by
    unfold Lib.strcat writeAt
    rw [h.cString_eq, htext]
    simp [Nat.add_assoc]
  rw [hstored]
  refine ⟨⟨?_, List.prefix_append _ _⟩, ?_⟩
  · rw [List.mem_append, not_or]
    exact ⟨h.noNul, hmore⟩
  · simp
    omega

end Dstx.Lib
