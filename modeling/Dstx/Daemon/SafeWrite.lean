/-
# Dstx.Daemon.SafeWrite — writing all bytes or failing (`safe_write` of `utils.c`).

`write` may take fewer bytes than it is given, may be interrupted, may fail, may take nothing.  What it does
at its `k`-th call, for any number of bytes, is a `WriteKernel`; the two things every kernel promises are
fields: a result is between -1 and the number of bytes, and interruptions come to an end.

`WritesInStep` is the invariant of the loop: the pointer and the count of remaining bytes add up to the
buffer, and the chunks taken so far are what lies in front of the pointer.  The measure is lexicographic: the
bytes left, and then the calls until the next one that is not interrupted.
-/
import Dstx.Lib.Loop
import Mathlib.Algebra.Order.Ring.Int
import Mathlib.Data.Nat.Find
import Mathlib.Data.Prod.Lex

namespace Dstx

open Dstx.Lib

/-- `EINTR`. -/
def eintr : Int := 4

/-- `EPIPE`. -/
def epipe : Int := 32

/-- What a call of `write` returns, and the `errno` it leaves when that is -1. -/
structure WriteResult where
  w : Int
  errno : Int

/-- The call was interrupted before it took anything. -/
def WriteResult.Interrupted (r : WriteResult) : Prop := r.w < 0 ∧ r.errno = eintr

instance (r : WriteResult) : Decidable r.Interrupted := inferInstanceAs (Decidable (_ ∧ _))

/-- **The other side of `write`**: the result of call `k` when it is asked to take `n` bytes. -/
structure WriteKernel where
  result : Nat → Nat → WriteResult
  bounds : ∀ k n, -1 ≤ (result k n).w ∧ (result k n).w ≤ n
  recovers : ∀ k n, ∃ j, k ≤ j ∧ ¬(result j n).Interrupted

/-- A buffer.  An object of C has at most `PTRDIFF_MAX` bytes. -/
structure WriteBuffer where
  bytes : List UInt8
  fits : bytes.length < 2 ^ 63

/-- `count`. -/
def WriteBuffer.count (buf : WriteBuffer) : Nat := buf.bytes.length

/-- The conversion of a `size_t` to `ssize_t`. -/
def toSsize (n : Nat) : Int := Int.bmod n (2 ^ 64)

theorem toSsize_count (buf : WriteBuffer) : toSsize buf.count = buf.count := by
  have hfits : buf.count < 2 ^ 63 := buf.fits
  unfold toSsize
  rw [Int.bmod_eq_of_le] <;> omega

/-- The variables of `safe_write`, with the calls made so far and the chunks they took, in order. -/
structure WriteState where
  p : Nat
  remaining : Nat
  calls : Nat
  accepted : List (List UInt8)
  errno : Int

/-- A return of `safe_write`. -/
structure WriteDone where
  ret : Int
  accepted : List (List UInt8)
  errno : Int
  deriving DecidableEq

/-- **The loop of `safe_write`**: one test of `remaining > 0`, and one call of `write`. -/
def safeWriteBody (kernel : WriteKernel) (buf : WriteBuffer) (s : WriteState) : WriteState ⊕ WriteDone :=
  if s.remaining > 0 then
    let r := kernel.result s.calls s.remaining
    if r.w < 0 then
      if r.errno = eintr then .inl { s with calls := s.calls + 1, errno := r.errno }
      else .inr ⟨-1, s.accepted, r.errno⟩
    else if r.w = 0 then .inr ⟨-1, s.accepted, epipe⟩
    else
      .inl
        { s with
          remaining := s.remaining - r.w.toNat
          p := s.p + r.w.toNat
          calls := s.calls + 1
          accepted := s.accepted ++ [(buf.bytes.drop s.p).take r.w.toNat] }
  else .inr ⟨toSsize buf.count, s.accepted, s.errno⟩

/-- The initialisers, before the first call. -/
def safeWriteStart (buf : WriteBuffer) (errno : Int) : WriteState where
  p := 0
  remaining := buf.count
  calls := 0
  accepted := []
  errno := errno

/-- **`safe_write(fd, buf, count)`** returns `done`. -/
def SafeWrite (kernel : WriteKernel) (buf : WriteBuffer) (errno : Int) (done : WriteDone) : Prop :=
  Returns (safeWriteBody kernel buf) (safeWriteStart buf errno) done

section Loop

variable {kernel : WriteKernel} {buf : WriteBuffer} {s s' : WriteState} {done : WriteDone}

/-- **Pointer and count are in step.** -/
structure WritesInStep (buf : WriteBuffer) (s : WriteState) : Prop where
  total : s.p + s.remaining = buf.count
  taken : s.accepted.flatten = buf.bytes.take s.p

theorem writesInStep_start (buf : WriteBuffer) (errno : Int) :
    WritesInStep buf (safeWriteStart buf errno) :=
  ⟨Nat.zero_add _, by simp [safeWriteStart]⟩

/-- **What an iteration does**: an interrupted call changes nothing but the number of calls, any other
takes some of the remaining bytes. -/
theorem safeWriteBody_again (h : safeWriteBody kernel buf s = .inl s') :
    ((kernel.result s.calls s.remaining).Interrupted ∧
        s' = { s with calls := s.calls + 1, errno := (kernel.result s.calls s.remaining).errno }) ∨
      ∃ w, 0 < w ∧ w ≤ s.remaining ∧
        s' =
          { s with
            remaining := s.remaining - w
            p := s.p + w
            calls := s.calls + 1
            accepted := s.accepted ++ [(buf.bytes.drop s.p).take w] } := by
  have hbounds := kernel.bounds s.calls s.remaining
  simp only [safeWriteBody] at h
  split_ifs at h with hleft hneg hintr hzero
  · exact Or.inl ⟨⟨hneg, hintr⟩, (Sum.inl.inj h).symm⟩
  · right
    refine ⟨(kernel.result s.calls s.remaining).w.toNat, ?_, ?_, (Sum.inl.inj h).symm⟩
    · omega
    · omega

/-- **How the loop returns**: with `count` and nothing left, or with -1 and something left. -/
theorem safeWriteBody_done (h : safeWriteBody kernel buf s = .inr done) :
    done.accepted = s.accepted ∧
      (done.ret = toSsize buf.count ∧ s.remaining = 0 ∨ done.ret = -1 ∧ 0 < s.remaining) := by
  simp only [safeWriteBody] at h
  split_ifs at h with hleft hneg hintr hzero
  · obtain rfl := Sum.inr.inj h
    exact ⟨rfl, Or.inr ⟨rfl, hleft⟩⟩
  · obtain rfl := Sum.inr.inj h
    exact ⟨rfl, Or.inr ⟨rfl, hleft⟩⟩
  · have hnone : s.remaining = 0 := by omega
    rw [← Sum.inr.inj h]
    dsimp only
    exact ⟨rfl, Or.inl ⟨rfl, hnone⟩⟩

theorem WritesInStep.again (hs : WritesInStep buf s) (h : safeWriteBody kernel buf s = .inl s') :
    WritesInStep buf s' := by
  obtain ⟨-, rfl⟩ | ⟨w, hpos, hle, rfl⟩ := safeWriteBody_again h
  · exact ⟨hs.total, hs.taken⟩
  · have htotal := hs.total
    refine ⟨?_, ?_⟩
    · show s.p + w + (s.remaining - w) = buf.count
      omega
    · show (s.accepted ++ [(buf.bytes.drop s.p).take w]).flatten = buf.bytes.take (s.p + w)
      rw [List.flatten_append, hs.taken, List.flatten_singleton, List.take_add]

/-! ## Termination -/

/-- The calls that are interrupted before the next one that is not. -/
def interruptions (kernel : WriteKernel) (k n : Nat) : Nat := Nat.find (kernel.recovers k n) - k

theorem interruptions_lt {k n : Nat} (h : (kernel.result k n).Interrupted) :
    interruptions kernel (k + 1) n < interruptions kernel k n := by
  obtain ⟨hle, hnot⟩ := Nat.find_spec (kernel.recovers k n)
  have hne : Nat.find (kernel.recovers k n) ≠ k := by
    intro heq
    rw [heq] at hnot
    exact hnot h
  have hmin : Nat.find (kernel.recovers (k + 1) n) ≤ Nat.find (kernel.recovers k n) :=
    Nat.find_min' _ ⟨by omega, hnot⟩
  have hle' := (Nat.find_spec (kernel.recovers (k + 1) n)).1
  unfold interruptions
  omega

/-- **The measure**: the bytes left, then the interruptions to come. -/
def safeWriteMeasure (kernel : WriteKernel) (s : WriteState) : Nat ×ₗ Nat :=
  toLex (s.remaining, interruptions kernel s.calls s.remaining)

theorem safeWriteMeasure_lt (h : safeWriteBody kernel buf s = .inl s') :
    safeWriteMeasure kernel s' < safeWriteMeasure kernel s := by
  unfold safeWriteMeasure
  rw [Prod.Lex.toLex_lt_toLex]
  obtain ⟨hintr, rfl⟩ | ⟨w, hpos, hle, rfl⟩ := safeWriteBody_again h
  · exact Or.inr ⟨rfl, interruptions_lt hintr⟩
  · left
    show s.remaining - w < s.remaining
    omega

/-- What a return says about the chunks. -/
theorem WritesInStep.returned (hs : WritesInStep buf s) (h : safeWriteBody kernel buf s = .inr done) :
    (done.ret = buf.count → done.accepted.flatten = buf.bytes) ∧
      (done.ret ≠ buf.count →
        done.ret = -1 ∧ done.accepted.flatten <+: buf.bytes ∧ done.accepted.flatten ≠ buf.bytes) := by
  have htotal := hs.total
  obtain ⟨haccepted, ⟨hret, hleft⟩ | ⟨hret, hleft⟩⟩ := safeWriteBody_done h
  · rw [toSsize_count] at hret
    refine ⟨fun _ => ?_, fun hne => absurd hret hne⟩
    rw [haccepted, hs.taken]
    apply List.take_of_length_le
    show buf.count ≤ s.p
    omega
  · refine ⟨fun heq => by omega, fun _ => ⟨hret, ?_, ?_⟩⟩
    · rw [haccepted, hs.taken]
      exact List.take_prefix _ _
    · rw [haccepted, hs.taken]
      intro heq
      have hlength : (buf.bytes.take s.p).length = buf.count := congrArg List.length heq
      rw [List.length_take] at hlength
      omega

/-- There is one result. -/
theorem SafeWrite.unique {errno : Int} {done' : WriteDone} (h : SafeWrite kernel buf errno done)
    (h' : SafeWrite kernel buf errno done') : done = done' :=
  Returns.unique h h'

end Loop

/-- **`safe_write` writes all bytes or fails.**  Whatever `write` does, call after call, `safe_write` comes
to an end.  If it returns `count`, the chunks that `write` took are the buffer; otherwise it returns -1 and
they are a part of it from the front, but not all. -/
theorem safeWrite_whole_or_failed (kernel : WriteKernel) (buf : WriteBuffer) (errno : Int) :
    ∃ done, SafeWrite kernel buf errno done ∧
      (done.ret = buf.count → done.accepted.flatten = buf.bytes) ∧
      (done.ret ≠ buf.count →
        done.ret = -1 ∧ done.accepted.flatten <+: buf.bytes ∧ done.accepted.flatten ≠ buf.bytes) :=
  returns_of_measure (safeWriteMeasure kernel)
    (fun _ _ hs h => ⟨WritesInStep.again hs h, safeWriteMeasure_lt h⟩)
    (fun _ _ hs h => WritesInStep.returned hs h) (writesInStep_start buf errno)

/-- A kernel that interrupts the first call and then takes two bytes at a time. -/
def slowKernel : WriteKernel where
  result := fun k n => if k = 0 then ⟨-1, eintr⟩ else ⟨min 2 n, 0⟩
  bounds := by
    intro k n
    split_ifs <;> constructor <;> simp
  recovers := by
    intro k n
    refine ⟨k + 1, by omega, ?_⟩
    simp [WriteResult.Interrupted]

/-- Three calls and two chunks. -/
example : SafeWrite slowKernel ⟨[1, 2, 3], by decide⟩ 0 ⟨3, [[1, 2], [3]], eintr⟩ :=
  Returns.of_loop (n := 4) (by decide)

end Dstx
