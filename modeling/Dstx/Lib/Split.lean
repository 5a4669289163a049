/-
# Dstx.Lib.Split — texts made of pieces with a separator between or behind them.

`strsplit` is GLib's `g_strsplit` with a one-character delimiter: like `List.splitOn`, except that the
empty text has no pieces at all.  `terminated` is the text of lines that each end in a separator, `joined`
the pieces each preceded by one, and the round trips say when a text gives its pieces back.

A separator inside a piece makes a text ambiguous.  Two lemmas say what still settles it: the number of
separators in the piece (`append_cons_inj_of_count`), or a second text in which the same pieces are
followed by ANOTHER separator (`eq_of_two_separators`).
-/
import Mathlib.Data.List.Basic
import Mathlib.Data.List.DropRight
import Mathlib.Data.List.TakeWhile

namespace Dstx.Lib

/-! ## `g_strsplit` -/

section Split

variable {α : Type*} {sep : α}

/-- **`g_strsplit(text, sep, 0)`**. -/
def strsplit [BEq α] (sep : α) (text : List α) : List (List α) :=
  if text.isEmpty then [] else text.splitOn sep

theorem strsplit_of_ne_nil [BEq α] {text : List α} (h : text ≠ []) :
    strsplit sep text = text.splitOn sep := by
  cases text with
  | nil => exact absurd rfl h
  | cons a text => rfl

/-- Pieces, each with a separator in front of it. -/
def joined (sep : α) (pieces : List (List α)) : List α := pieces.flatMap fun piece => sep :: piece

/-- Lines, each with a separator behind it. -/
def terminated (sep : α) (lines : List (List α)) : List α := lines.flatMap fun line => line ++ [sep]

theorem terminated_eq_nil_iff {lines : List (List α)} : terminated sep lines = [] ↔ lines = [] := by
  cases lines with
  | nil => simp [terminated]
  | cons line lines => simp [terminated]

variable [BEq α] [LawfulBEq α]

/-- **Appended pieces are appended.** -/
theorem splitOn_append_joined {pieces : List (List α)} (h : ∀ piece ∈ pieces, sep ∉ piece) (text : List α) :
    (text ++ joined sep pieces).splitOn sep = text.splitOn sep ++ pieces := by
  induction pieces generalizing text with
  | nil => simp [joined]
  | cons piece pieces ih =>
      have hpiece : sep ∉ piece := h piece List.mem_cons_self
      have hrest : ∀ q ∈ pieces, sep ∉ q := fun q hq => h q (List.mem_cons_of_mem _ hq)
      have hjoined : joined sep (piece :: pieces) = sep :: (piece ++ joined sep pieces) := by
        simp [joined]
      rw [hjoined, List.splitOn_append_cons_self, ih hrest piece, List.splitOn_eq_singleton hpiece]
      simp

/-- **Terminated lines come back**, with an empty piece behind the last separator. -/
theorem splitOn_terminated {lines : List (List α)} (h : ∀ line ∈ lines, sep ∉ line) :
    (terminated sep lines).splitOn sep = lines ++ [[]] := by
  induction lines with
  | nil => rfl
  | cons line lines ih =>
      have hline : sep ∉ line := h line List.mem_cons_self
      have hrest : ∀ q ∈ lines, sep ∉ q := fun q hq => h q (List.mem_cons_of_mem _ hq)
      have hcons : terminated sep (line :: lines) = line ++ sep :: terminated sep lines := by
        simp [terminated]
      rw [hcons, List.splitOn_append_cons_self_of_not_mem hline, ih hrest, List.cons_append]

end Split

/-! ## White space at both ends -/

section Strip

variable {α : Type*} {space : α → Bool}

/-- `g_strstrip`: `g_strchug`, then `g_strchomp`. -/
def strip (space : α → Bool) (text : List α) : List α := (text.dropWhile space).rdropWhile space

/-- The text neither begins nor ends with white space. -/
def Trimmed (space : α → Bool) (text : List α) : Prop :=
  (∀ c ∈ text.head?, space c = false) ∧ ∀ c ∈ text.getLast?, space c = false

theorem strip_of_trimmed {text : List α} (h : Trimmed space text) : strip space text = text := by
  cases text with
  | nil => rfl
  | cons c text =>
      have hhead : space c = false := h.1 c rfl
      have hlast : ∀ hne : c :: text ≠ [], ¬space ((c :: text).getLast hne) = true := by
        intro hne
        simp [h.2 _ (List.getLast?_eq_some_getLast hne)]
      unfold strip
      rw [List.dropWhile_cons_of_neg (by simp [hhead]), List.rdropWhile_eq_self_iff]
      exact hlast

end Strip

/-! ## Ambiguous texts -/

section Ambiguous

variable {α : Type*} {c d : α}

/-- **As many separators in the first piece** as in the other first piece: the pieces are the same. -/
theorem append_cons_inj_of_count [BEq α] [LawfulBEq α] {b b' : List α} :
    ∀ {a a' : List α}, a.count c = a'.count c → a ++ c :: b = a' ++ c :: b' → a = a' ∧ b = b'
  | [], [], _, h => ⟨rfl, List.tail_eq_of_cons_eq h⟩
  | [], x :: a', hcount, h => by
      obtain ⟨rfl, -⟩ := List.cons.inj h
      simp at hcount
  | x :: a, [], hcount, h => by
      obtain ⟨rfl, -⟩ := List.cons.inj h
      simp at hcount
  | x :: a, y :: a', hcount, h => by
      obtain ⟨rfl, hrest⟩ := List.cons.inj h
      rw [List.count_cons, List.count_cons] at hcount
      obtain ⟨rfl, hb⟩ := append_cons_inj_of_count (Nat.add_right_cancel hcount) hrest
      exact ⟨rfl, hb⟩

/-- **Two texts with different separators** behind the same piece settle it. -/
theorem eq_of_two_separators (hne : c ≠ d) {b b' e e' : List α} :
    ∀ {a a' : List α}, a ++ c :: b = a' ++ c :: b' → a ++ d :: e = a' ++ d :: e' → a = a'
  | [], [], _, _ => rfl
  | [], x :: a', h, h' => by
      obtain ⟨rfl, -⟩ := List.cons.inj h
      obtain ⟨heq, -⟩ := List.cons.inj h'
      exact absurd heq.symm hne
  | x :: a, [], h, h' => by
      obtain ⟨rfl, -⟩ := List.cons.inj h
      obtain ⟨heq, -⟩ := List.cons.inj h'
      exact absurd heq hne
  | x :: a, y :: a', h, h' => by
      obtain ⟨rfl, hrest⟩ := List.cons.inj h
      obtain ⟨-, hrest'⟩ := List.cons.inj h'
      rw [eq_of_two_separators hne hrest hrest']

/-- And what is behind the piece, in either text. -/
theorem append_cons_inj_of_two_separators (hne : c ≠ d) {a a' b b' e e' : List α}
    (h : a ++ c :: b = a' ++ c :: b') (h' : a ++ d :: e = a' ++ d :: e') : a = a' ∧ b = b' ∧ e = e' := by
  obtain rfl := eq_of_two_separators hne h h'
  exact ⟨rfl, List.tail_eq_of_cons_eq (List.append_cancel_left h),
    List.tail_eq_of_cons_eq (List.append_cancel_left h')⟩

end Ambiguous

end Dstx.Lib
