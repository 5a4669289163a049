/-
# Dstx.Lib.ExitCode — programs with an exit code: a failed one leaves the state alone.

A program is a state transformer that ends with an exit code: `StateM σ ε`.  It may return early, and what
it stored before that STAYS; nothing rolls back.  With `ok` the code of success, `Atomic ok m` says:
whenever `m` ends with another code, the state is the one it started from.

The law is had by ORDER: checks first, stores after.  A part that only reads (`ReadOnly`) may stand before
an atomic rest (`ReadOnly.bind`); a part that stores may stand only before a rest that cannot fail any more
(`Succeeds.bind`).
-/
import Mathlib.Control.Lawful

namespace Dstx.Lib

variable {σ α ε : Type}

/-- The program changes nothing. -/
def ReadOnly (m : StateM σ α) : Prop := ∀ s, (m.run s).2 = s

/-- The program always ends with the code of success. -/
def Succeeds (ok : ε) (m : StateM σ ε) : Prop := ∀ s, (m.run s).1 = ok

/-- **A failed program leaves the state as it was.** -/
def Atomic (ok : ε) (m : StateM σ ε) : Prop := ∀ s, (m.run s).1 ≠ ok → (m.run s).2 = s

variable {ok : ε}

/-! ## Reading -/

namespace ReadOnly

theorem get : ReadOnly (MonadState.get : StateM σ σ) := fun _ => rfl

/-- **A part that only reads may stand before an atomic rest.** -/
theorem bind {m : StateM σ α} {k : α → StateM σ ε} (hm : ReadOnly m) (hk : ∀ a, Atomic ok (k a)) :
    Atomic ok (m >>= k) := by
  intro s hcode
  have hkeep : (m.run s).2 = s := hm s
  have hrest : ((m >>= k).run s) = (k (m.run s).1).run (m.run s).2 := rfl
  rw [hrest, hkeep] at hcode ⊢
  exact hk _ s hcode

end ReadOnly

/-! ## Storing -/

namespace Succeeds

theorem done : Succeeds ok (pure ok : StateM σ ε) := fun _ => rfl

/-- **What stands before a rest that cannot fail is free.** -/
theorem bind {m : StateM σ α} {k : α → StateM σ ε} (hk : ∀ a, Succeeds ok (k a)) :
    Succeeds ok (m >>= k) := fun s => hk (m.run s).1 (m.run s).2

theorem atomic {m : StateM σ ε} (h : Succeeds ok m) : Atomic ok m :=
  fun s hcode => absurd (h s) hcode

end Succeeds

/-! ## Failing -/

namespace Atomic

/-- Returning a code changes nothing. -/
theorem ret (code : ε) : Atomic ok (pure code : StateM σ ε) := fun _ _ => rfl

/-- A branch is atomic when both its arms are. -/
theorem ite {c : Prop} [Decidable c] {m m' : StateM σ ε} (hm : Atomic ok m) (hm' : Atomic ok m') :
    Atomic ok (if c then m else m') := by
  split
  · exact hm
  · exact hm'

/-- **A check**: return early, or go on with a rest that is atomic when the check has passed. -/
theorem check {c : Prop} [Decidable c] {code : ε} {m : StateM σ ε} (hm : ¬c → Atomic ok m) :
    Atomic ok (if c then pure code else m) := by
  split
  · exact ret code
  · rename_i h
    exact hm h

end Atomic

end Dstx.Lib
