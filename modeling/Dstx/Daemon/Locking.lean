/-
# Dstx.Daemon.Locking — `proc_mutex` among four programs, any of which may die with it.

The shared memory is guarded by ONE robust recursive mutex (`main.c` initialises it).  The daemon, the
command line and the text interface take it with `safe_shm_lock`, which marks the mutex consistent when
the last owner died.  The D-Bus service takes it with a plain `pthread_mutex_lock` — in `open_shm_handle`,
in `shm_request_sync` (twice) and in `daemon_monitor` — and drops the result.

So whether the mutex survives a death depends on who comes next: if it is the service, its unlock makes
the mutex unrecoverable for everybody (`bridge_unlock_loses_mutex`).  In every run in which the service
never locks a mutex that waits for recovery, the mutex is never lost.
-/
import Dstx.Lib.RobustMutex
import Dstx.Lib.Run
import Mathlib.Logic.Function.Basic

namespace Dstx

open Dstx.Lib

/-! ## The system -/

/-- The programs that map the shared memory. -/
inductive Program where
  | daemon
  | cli
  | tui
  /-- The D-Bus service. -/
  | bridge
  deriving DecidableEq

/-- The program takes the mutex with `safe_shm_lock`. -/
def Program.usesSafeShmLock : Program → Bool
  | .bridge => false
  | _ => true

/-- **The mutex and the threads around it**; `τ` is the type of threads, of whatever program. -/
structure LockSystem (τ : Type*) where
  mutex : RobustMutex τ
  /-- In `safe_shm_lock`, between `EOWNERDEAD` and `pthread_mutex_consistent`. -/
  marking : τ → Bool
  dead : τ → Bool

/-- Who moves. -/
inductive LockMove (τ : Type*) where
  /-- `pthread_mutex_lock`, inside `safe_shm_lock` or alone. -/
  | lock (t : τ)
  /-- `pthread_mutex_consistent`, inside `safe_shm_lock`. -/
  | consistent (t : τ)
  | unlock (t : τ)
  /-- The thread dies, holding the mutex or not. -/
  | die (t : τ)
  /-- The daemon starts on a new shared memory, or on one whose daemon is dead: `pthread_mutex_init`. -/
  | init (t : τ)

section

variable {τ : Type*} [DecidableEq τ] (program : τ → Program)

/-- **One step**: a dead thread does nothing, and a thread inside `safe_shm_lock` finishes it first. -/
def lockStep (move : LockMove τ) (s : LockSystem τ) : Option (LockSystem τ) :=
  match move with
  | .lock t =>
      if s.dead t || s.marking t then none
      else
        (s.mutex.lock t).map fun out =>
          { s with
            mutex := out.2
            marking :=
              Function.update s.marking t ((program t).usesSafeShmLock && out.1 == .ownerDead) }
  | .consistent t =>
      if s.marking t then
        some { s with mutex := s.mutex.consistent t, marking := Function.update s.marking t false }
      else none
  | .unlock t => if s.dead t || s.marking t then none else some { s with mutex := s.mutex.unlock t }
  | .die t =>
      some
        { mutex := s.mutex.die t
          marking := Function.update s.marking t false
          dead := Function.update s.dead t true }
  | .init t =>
      if s.dead t || program t != .daemon then none else some { s with mutex := RobustMutex.fresh }

/-- **The condition on a step**: the D-Bus service does not lock a mutex that waits for recovery. -/
def BridgeNotFirst (move : LockMove τ) (s : LockSystem τ) : Prop :=
  match move with
  | .lock t => program t = .bridge → ¬s.mutex.AwaitsRecovery
  | _ => True

/-- The start: the daemon has initialised the mutex. -/
def initialLocks : LockSystem τ := ⟨RobustMutex.fresh, fun _ => false, fun _ => false⟩

/-! ## The invariant -/

/-- **The mutex is kept recoverable**: whoever owns it inconsistent is about to mark it. -/
structure KeptRecoverable (s : LockSystem τ) : Prop where
  recoverable : s.mutex.notRecoverable = false
  marked : ∀ t, s.mutex.owner = some t → s.mutex.inconsistent = true → s.marking t = true

variable {program} {s s' : LockSystem τ}

/-- **A lock**, other than the service's on a mutex that waits for recovery. -/
theorem KeptRecoverable.lock (h : KeptRecoverable s) {t : τ} (hok : BridgeNotFirst program (.lock t) s)
    (hstep : lockStep program (.lock t) s = some s') : KeptRecoverable s' := by
  unfold lockStep at hstep
  dsimp only at hstep
  split_ifs at hstep with hbusy
  simp only [Bool.or_eq_true, not_or, Bool.not_eq_true] at hbusy
  obtain ⟨⟨r, m'⟩, hlock, rfl⟩ := Option.map_eq_some_iff.mp hstep
  rcases RobustMutex.mutex_lock_cases h.recoverable hlock with ⟨hfree, hresult, rfl⟩ | ⟨hown, rfl, rfl⟩
  · refine ⟨h.recoverable, fun u hu hinc => ?_⟩
    obtain rfl : t = u := Option.some.inj hu
    -- the lock returned EOWNERDEAD, so this is not the service
    have hdead : r = .ownerDead := hresult.mpr hinc
    have hsafe : (program t).usesSafeShmLock = true := by
      cases hprogram : program t with
      | bridge => exact absurd ⟨hfree, hinc⟩ (hok hprogram)
      | daemon => rfl
      | cli => rfl
      | tui => rfl
    show Function.update s.marking t _ t = true
    rw [Function.update_self, hdead, hsafe]
    rfl
  · refine ⟨h.recoverable, fun u hu hinc => ?_⟩
    -- an owner that is not marking owns a consistent mutex
    have hmark := h.marked t hown hinc
    rw [hbusy.2] at hmark
    cases hmark

/-- A thread that does not own the mutex stops marking: the owner does not. -/
theorem KeptRecoverable.marked_of_ne (h : KeptRecoverable s) {t u : τ} (hown : s.mutex.owner ≠ some t)
    (hu : s.mutex.owner = some u) (hinc : s.mutex.inconsistent = true) :
    Function.update s.marking t false u = true := by
  have hne : u ≠ t := by
    rintro rfl
    exact hown hu
  rw [Function.update_of_ne hne]
  exact h.marked u hu hinc

/-- **The mark**: the owner's mutex is consistent, and no other owner was meant. -/
theorem KeptRecoverable.consistent (h : KeptRecoverable s) {t : τ}
    (hstep : lockStep program (.consistent t) s = some s') : KeptRecoverable s' := by
  unfold lockStep at hstep
  dsimp only at hstep
  split_ifs at hstep
  obtain rfl := Option.some.inj hstep
  unfold RobustMutex.consistent
  split_ifs with hown
  · refine ⟨h.recoverable, fun u _ hinc => ?_⟩
    cases hinc
  · exact ⟨h.recoverable, fun u hu hinc => h.marked_of_ne hown hu hinc⟩

/-- **An unlock**: a thread that is not marking owns a consistent mutex. -/
theorem KeptRecoverable.unlock (h : KeptRecoverable s) {t : τ}
    (hstep : lockStep program (.unlock t) s = some s') : KeptRecoverable s' := by
  unfold lockStep at hstep
  dsimp only at hstep
  split_ifs at hstep with hbusy
  simp only [Bool.or_eq_true, not_or, Bool.not_eq_true] at hbusy
  obtain rfl := Option.some.inj hstep
  -- an owner of an inconsistent mutex would still be inside `safe_shm_lock`
  have hcons : s.mutex.owner = some t → s.mutex.inconsistent = false := by
    intro hown
    by_contra hinc
    have hmark := h.marked t hown (by simpa using hinc)
    rw [hbusy.2] at hmark
    cases hmark
  refine ⟨RobustMutex.notRecoverable_unlock h.recoverable hcons, fun u hu hinc => ?_⟩
  obtain ⟨hown, hsame⟩ := RobustMutex.unlock_keeps hu
  exact h.marked u hown (hsame.symm.trans hinc)

/-- **A death**: the mutex waits for recovery, or the dead thread did not own it. -/
theorem KeptRecoverable.die (h : KeptRecoverable s) {t : τ}
    (hstep : lockStep program (.die t) s = some s') : KeptRecoverable s' := by
  obtain rfl := Option.some.inj hstep
  unfold RobustMutex.die
  split_ifs with hown
  · -- nobody owns it now
    refine ⟨h.recoverable, fun u hu _ => ?_⟩
    cases hu
  · exact ⟨h.recoverable, fun u hu hinc => h.marked_of_ne hown hu hinc⟩

/-- **One step** keeps the mutex recoverable. -/
theorem KeptRecoverable.step (h : KeptRecoverable s) {move : LockMove τ}
    (hok : BridgeNotFirst program move s) (hstep : lockStep program move s = some s') :
    KeptRecoverable s' := by
  cases move with
  | lock t => exact h.lock hok hstep
  | consistent t => exact h.consistent hstep
  | unlock t => exact h.unlock hstep
  | die t => exact h.die hstep
  | init t =>
      unfold lockStep at hstep
      dsimp only at hstep
      split_ifs at hstep
      obtain rfl := Option.some.inj hstep
      refine ⟨rfl, fun u hu _ => ?_⟩
      cases hu

/-! ## Whole runs -/

/-- **The mutex is never lost**, in every run of any number of threads of the four programs, dying
anywhere, in which the D-Bus service locks no mutex that waits for recovery. -/
theorem mutex_stays_recoverable {program : τ → Program}
    (hrun : Run (lockStep program) (BridgeNotFirst program) initialLocks s) :
    s.mutex.notRecoverable = false := by
  have hstart : KeptRecoverable (initialLocks : LockSystem τ) := by
    refine ⟨rfl, fun u hu _ => ?_⟩
    cases hu
  have hend : KeptRecoverable s :=
    hrun.invariant (fun move a b ha hok hstep => ha.step hok hstep) hstart
  exact hend.recoverable

/-- **And the service loses it at once**: from any state in which the mutex waits for recovery, a lock and
an unlock with no mark between them end in a mutex that nobody can recover. -/
theorem bridge_unlock_loses_mutex {t : τ} {s₁ s₂ : LockSystem τ}
    (hwait : s.mutex.AwaitsRecovery) (hlock : lockStep program (.lock t) s = some s₁)
    (hunlock : lockStep program (.unlock t) s₁ = some s₂) : s₂.mutex.notRecoverable = true := by
  unfold lockStep at hlock hunlock
  dsimp only at hlock hunlock
  split_ifs at hlock hunlock with hbusy hbusy'
  obtain ⟨⟨r, m'⟩, hmutex, rfl⟩ := Option.map_eq_some_iff.mp hlock
  obtain rfl := Option.some.inj hunlock
  exact RobustMutex.lock_unlock_notRecoverable hwait hmutex

end

/-- **The command line dies with the mutex; the daemon recovers it; the service takes it after that.** -/
theorem mutex_stays_recoverable_daemonFirst :
    ∃ s, Run (lockStep id) (BridgeNotFirst id) (initialLocks : LockSystem Program) s ∧
      s.dead .cli = true ∧ s.mutex.owner = some .bridge ∧ s.mutex.notRecoverable = false := by
  have hrun : Run (lockStep id) (BridgeNotFirst id) (initialLocks : LockSystem Program)
      (reached (lockStep id)
        [.lock .cli, .die .cli, .lock .daemon, .consistent .daemon, .unlock .daemon, .lock .bridge]
        initialLocks) := by
    refine .tail (.tail (.tail (.tail (.tail (.tail (.refl _) (a := .lock .cli) ?_ rfl)
      (a := .die .cli) trivial rfl) (a := .lock .daemon) ?_ rfl) (a := .consistent .daemon) trivial rfl)
      (a := .unlock .daemon) trivial rfl) (a := .lock .bridge) ?_ rfl
    · intro h
      cases h
    · intro h
      cases h
    · intro _ h
      cases h.2
  exact ⟨_, hrun, rfl, rfl, mutex_stays_recoverable hrun⟩

/-- **The command line dies with the mutex and the service comes next**: it takes the mutex, drops
`EOWNERDEAD`, unlocks, and the mutex is lost. -/
theorem mutex_lost_to_bridge :
    ∃ s, Run (lockStep id) free (initialLocks : LockSystem Program) s ∧ s.mutex.notRecoverable = true :=
  exists_run_of_exec (p := fun s : LockSystem Program => s.mutex.notRecoverable)
    [.lock .cli, .die .cli, .lock .bridge, .unlock .bridge] rfl

end Dstx
