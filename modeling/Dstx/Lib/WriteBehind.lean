/-
# Dstx.Lib.WriteBehind — a value in memory that is written out later.

A value is changed in memory, and each change leaves a write to be done (`pending`).  The write may fail, and
the process may end at any moment: what the next one starts with is read from the store (`reload`).

`view` is what the two kinds of reader see, the value in memory and the one a restart would bring back; every
operation is a simple operation on this pair, whatever the text in between looks like, as long as what was
written is read back.  `Faithful` is the reason nothing is lost: the two agree whenever no write is pending
and the last one did not fail.
-/
import Mathlib.Logic.Basic

namespace Dstx.Lib

variable {α τ : Type*}

/-- **A value with its store**: is a write pending, and did the last one fail? -/
structure WriteBehind (α τ : Type*) where
  value : α
  pending : Bool
  failed : Bool
  stored : τ

namespace WriteBehind

/-- The value is changed, and has to be written. -/
def modify (f : α → α) (w : WriteBehind α τ) : WriteBehind α τ :=
  { w with value := f w.value, pending := true }

/-- The value is written, or the write fails; either way it is no longer pending. -/
def flush (write : α → τ) (ok : Bool) (w : WriteBehind α τ) : WriteBehind α τ :=
  if ok then { w with pending := false, failed := false, stored := write w.value }
  else { w with pending := false, failed := true }

/-- A new process starts from the store; `unwritten` says whether what it starts with is still to be
written. -/
def reload (read : τ → α) (unwritten : τ → Bool) (w : WriteBehind α τ) : WriteBehind α τ :=
  { w with value := read w.stored, pending := unwritten w.stored, failed := false }

/-- The value in memory, and the one a restart would bring back. -/
def view (read : τ → α) (w : WriteBehind α τ) : α × α := (w.value, read w.stored)

/-- **Nothing is lost**: with no write pending and no failure the store holds the value. -/
def Faithful (read : τ → α) (w : WriteBehind α τ) : Prop :=
  w.pending = false → w.failed = false → read w.stored = w.value

section

variable {write : α → τ} {read : τ → α} {unwritten : τ → Bool} {w : WriteBehind α τ}

@[simp] theorem view_modify (f : α → α) :
    (w.modify f).view read = (f (w.view read).1, (w.view read).2) := rfl

theorem view_flush (hread : ∀ v, read (write v) = v) (ok : Bool) :
    (w.flush write ok).view read = ((w.view read).1, if ok then (w.view read).1 else (w.view read).2) := by
  cases ok with
  | true => exact Prod.ext rfl (hread w.value)
  | false => rfl

@[simp] theorem view_reload : (w.reload read unwritten).view read = ((w.view read).2, (w.view read).2) := rfl

theorem faithful_modify (f : α → α) : Faithful read (w.modify f) := fun h => (Bool.noConfusion h)

theorem faithful_flush (hread : ∀ v, read (write v) = v) (ok : Bool) : Faithful read (w.flush write ok) := by
  cases ok with
  | true => exact fun _ _ => hread w.value
  | false => exact fun _ h => Bool.noConfusion h

theorem faithful_reload : Faithful read (w.reload read unwritten) := fun _ _ => rfl

end

end WriteBehind

end Dstx.Lib
