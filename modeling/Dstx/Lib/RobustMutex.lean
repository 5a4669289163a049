/-
# Dstx.Lib.RobustMutex — a robust, recursive mutex, as POSIX describes it.

`RobustMutex τ` is a mutex for threads of any type `τ`.  A thread that DIES while it owns the mutex leaves
it free but INCONSISTENT: the next thread to lock it owns it and is told so (`ownerDead`).  It is expected
to mark the mutex consistent again before it unlocks it.  If it unlocks it without, the mutex is NOT
RECOVERABLE: no thread ever owns it again.

`mutex_lock_cases` and `notRecoverable_unlock` are all the rest of the development needs: what a
successful lock can be, and which unlock spoils the mutex.
-/
import Mathlib.Logic.Basic
import Mathlib.Tactic.SplitIfs

namespace Dstx.Lib

/-- **A robust recursive mutex.** -/
structure RobustMutex (τ : Type*) where
  owner : Option τ
  /-- How often the owner has locked it. -/
  depth : Nat
  /-- An owner died, and nobody has marked the mutex consistent since. -/
  inconsistent : Bool
  notRecoverable : Bool
  deriving DecidableEq

/-- What `lock` returns when it does not block. -/
inductive LockResult where
  | acquired
  /-- `EOWNERDEAD`: acquired, and the last owner died with it. -/
  | ownerDead
  /-- `ENOTRECOVERABLE`: not acquired. -/
  | notRecoverable
  deriving DecidableEq

namespace RobustMutex

variable {τ : Type*}

/-- A mutex as it is initialised. -/
def fresh : RobustMutex τ := ⟨none, 0, false, false⟩

variable [DecidableEq τ]

/-- `pthread_mutex_lock` by `t`; `none` while it blocks. -/
def lock (t : τ) (m : RobustMutex τ) : Option (LockResult × RobustMutex τ) :=
  if m.notRecoverable then some (.notRecoverable, m)
  else
    match m.owner with
    | none =>
        some (if m.inconsistent then .ownerDead else .acquired, { m with owner := some t, depth := 1 })
    | some u => if u = t then some (.acquired, { m with depth := m.depth + 1 }) else none

/-- `pthread_mutex_consistent` by `t`. -/
def consistent (t : τ) (m : RobustMutex τ) : RobustMutex τ :=
  if m.owner = some t then { m with inconsistent := false } else m

/-- `pthread_mutex_unlock` by `t`; without effect when `t` is not the owner. -/
def unlock (t : τ) (m : RobustMutex τ) : RobustMutex τ :=
  if m.owner = some t then
    if m.depth > 1 then { m with depth := m.depth - 1 }
    else ⟨none, 0, m.inconsistent, m.inconsistent || m.notRecoverable⟩
  else m

/-- The thread `t` dies. -/
def die (t : τ) (m : RobustMutex τ) : RobustMutex τ :=
  if m.owner = some t then { m with owner := none, depth := 0, inconsistent := true } else m

/-- The mutex waits for recovery: its last owner died, and nobody has locked it since. -/
def AwaitsRecovery (m : RobustMutex τ) : Prop := m.owner = none ∧ m.inconsistent = true

/-! ## Lemmas -/

variable {t : τ} {m m' : RobustMutex τ} {r : LockResult}

/-- **What a lock can be**: of a recoverable mutex that is free, or that `t` owns already. -/
theorem mutex_lock_cases (hrec : m.notRecoverable = false) (h : m.lock t = some (r, m')) :
    (m.owner = none ∧ (r = .ownerDead ↔ m.inconsistent = true) ∧
        m' = { m with owner := some t, depth := 1 }) ∨
      (m.owner = some t ∧ r = .acquired ∧ m' = { m with depth := m.depth + 1 }) := by
  unfold lock at h
  rw [if_neg (by simp [hrec])] at h
  cases howner : m.owner with
  | none =>
      rw [howner] at h
      obtain ⟨rfl, rfl⟩ := Prod.mk.inj (Option.some.inj h)
      refine Or.inl ⟨rfl, ?_, rfl⟩
      cases m.inconsistent <;> simp
  | some u =>
      rw [howner] at h
      by_cases hu : u = t
      · -- a recursive lock
        subst hu
        simp only [if_true] at h
        obtain ⟨rfl, rfl⟩ := Prod.mk.inj (Option.some.inj h)
        exact Or.inr ⟨rfl, rfl, rfl⟩
      · simp [hu] at h

/-- What an unlock keeps: an owner it leaves was the owner before, and it marks nothing. -/
theorem unlock_keeps {u : τ} (h : (m.unlock t).owner = some u) :
    m.owner = some u ∧ (m.unlock t).inconsistent = m.inconsistent := by
  unfold unlock at h ⊢
  by_cases howner : m.owner = some t
  · rw [if_pos howner] at h ⊢
    by_cases hdepth : m.depth > 1
    · rw [if_pos hdepth] at h ⊢
      exact ⟨h, rfl⟩
    · rw [if_neg hdepth] at h
      cases h
  · rw [if_neg howner] at h ⊢
    exact ⟨h, rfl⟩

/-- **An unlock spoils the mutex** only where its owner has not marked it consistent. -/
theorem notRecoverable_unlock (hrec : m.notRecoverable = false)
    (hcons : m.owner = some t → m.inconsistent = false) : (m.unlock t).notRecoverable = false := by
  unfold unlock
  split_ifs with howner hdepth
  · exact hrec
  · simp [hcons howner, hrec]
  · exact hrec

/-- **The lock of a mutex whose owner died, and the unlock without a mark**: the mutex is lost. -/
theorem lock_unlock_notRecoverable (hwait : m.AwaitsRecovery) (h : m.lock t = some (r, m')) :
    (m'.unlock t).notRecoverable = true := by
  obtain ⟨hfree, hinc⟩ := hwait
  unfold lock at h
  cases hrec : m.notRecoverable with
  | true =>
      -- it was lost before, and the lock changed nothing
      rw [hrec] at h
      obtain ⟨-, rfl⟩ := Prod.mk.inj (Option.some.inj h)
      unfold unlock
      rw [hfree, if_neg (by simp)]
      exact hrec
  | false =>
      rw [if_neg (by simp [hrec]), hfree] at h
      obtain ⟨-, rfl⟩ := Prod.mk.inj (Option.some.inj h)
      simp [unlock, hinc]

end RobustMutex

end Dstx.Lib
