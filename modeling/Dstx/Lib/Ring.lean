/-
# Dstx.Lib.Ring — the next marked position on a ring.

A cursor stands on one of finitely many positions arranged in a ring, some of them MARKED, and is moved to
the next marked one in either direction.  Positions are elements of an additive commutative group; a direction
is an element `step` of which `n` make a full round, so the other direction is `-step`.

`seek` looks at `i + step`, `i + 2 • step`, …, `i + n • step` and takes the first marked position; the last
one it looks at is `i` itself.  The point of the module is that the two directions are INVERSE on the marked
positions (`seek_back`), hence that going round is a permutation of them (`ring`), and that this permutation
is ONE cycle when the step generates the ring (`ring_isCycleOn`): nothing marked is ever left out.
-/
import Mathlib.GroupTheory.Perm.Cycle.Basic

namespace Dstx.Lib

section

variable {G : Type*} [AddCommGroup G] {n : Nat} {marked : G → Bool} {step i j : G}

/-- **The first marked position behind `i`**, at most one round away. -/
def seek (n : Nat) (marked : G → Bool) (step i : G) : Option G :=
  ((List.range n).map fun k => i + (k + 1) • step).find? marked

/-- What was found is marked, less than a round away, and nothing in between is marked. -/
theorem seek_eq_some_iff : seek n marked step i = some j ↔
    ∃ k < n, j = i + (k + 1) • step ∧ marked j = true ∧ ∀ m < k, marked (i + (m + 1) • step) = false := by
  unfold seek
  rw [List.find?_eq_some_iff_getElem]
  constructor
  · rintro ⟨hj, k, hk, hget, hbefore⟩
    simp only [List.length_map, List.length_range, List.getElem_map, List.getElem_range] at hk hget hbefore
    refine ⟨k, hk, hget.symm, hj, fun m hm => ?_⟩
    have hnot := hbefore m hm
    simpa using hnot
  · rintro ⟨k, hk, hj, hmarked, hbefore⟩
    refine ⟨hmarked, k, by simpa using hk, by simp [hj], fun m hm => ?_⟩
    simp [hbefore m hm]

theorem marked_of_seek (h : seek n marked step i = some j) : marked j = true := by
  obtain ⟨k, -, -, hj, -⟩ := seek_eq_some_iff.mp h
  exact hj

/-- A marked position is found again after a full round, so something is found. -/
theorem exists_seek (hn : 0 < n) (hround : n • step = 0) (hi : marked i = true) :
    ∃ j, seek n marked step i = some j := by
  rw [← Option.isSome_iff_exists, seek, List.find?_isSome]
  refine ⟨i, ?_, hi⟩
  rw [List.mem_map]
  refine ⟨n - 1, List.mem_range.mpr (by omega), ?_⟩
  rw [Nat.sub_add_cancel hn, hround, add_zero]

/-- **The other direction leads back.** -/
theorem seek_back (hi : marked i = true) (h : seek n marked step i = some j) :
    seek n marked (-step) j = some i := by
  obtain ⟨k, hk, rfl, -, hbefore⟩ := seek_eq_some_iff.mp h
  refine seek_eq_some_iff.mpr ⟨k, hk, ?_, hi, fun m hm => ?_⟩
  · rw [smul_neg, add_neg_cancel_right]
  · -- `m + 1` steps back from the find are `k - m` steps on from the start
    have hsplit : (k + 1) • step = (k - m - 1 + 1) • step + (m + 1) • step := by
      rw [← add_nsmul]
      congr 1
      omega
    rw [hsplit, smul_neg, ← add_assoc, add_neg_cancel_right]
    exact hbefore (k - m - 1) (by omega)

end

section

variable {G : Type*} [AddCommGroup G] {n : Nat} {step : G} (marked : G → Bool)

/-- The next marked position, from a marked one. -/
def advance (n : Nat) (step : G) (hn : 0 < n) (hround : n • step = 0) (i : {i // marked i = true}) :
    {i // marked i = true} :=
  have hfound : (seek n marked step i).isSome := Option.isSome_iff_exists.mpr (exists_seek hn hround i.2)
  ⟨(seek n marked step i).get hfound, marked_of_seek (Option.some_get hfound).symm⟩

theorem seek_advance (hn : 0 < n) (hround : n • step = 0) (i : {i // marked i = true}) :
    seek n marked step i = some (advance marked n step hn hround i).1 :=
  (Option.some_get _).symm

theorem advance_eq_iff (hn : 0 < n) (hround : n • step = 0) (i j : {i // marked i = true}) :
    advance marked n step hn hround i = j ↔ seek n marked step i = some j.1 := by
  rw [seek_advance marked hn hround, Option.some_inj, Subtype.ext_iff]

/-- Backwards goes a full round, too. -/
theorem round_neg (hround : n • step = 0) : n • (-step) = 0 := by
  rw [smul_neg, hround, neg_zero]

/-- **Going round, as a permutation of the marked positions.** -/
def ring (hn : 0 < n) (hround : n • step = 0) : Equiv.Perm {i // marked i = true} where
  toFun := advance marked n step hn hround
  invFun := advance marked n (-step) hn (round_neg hround)
  left_inv i := by
    rw [advance_eq_iff]
    exact seek_back i.2 (seek_advance marked hn hround i)
  right_inv i := by
    rw [advance_eq_iff]
    have hback := seek_back i.2 (seek_advance marked hn (round_neg hround) i)
    rwa [neg_neg] at hback

/-- The permutation moves on … -/
theorem seek_ring (hn : 0 < n) (hround : n • step = 0) (i : {i // marked i = true}) :
    seek n marked step i = some (ring marked hn hround i).1 :=
  seek_advance marked hn hround i

/-- … and its inverse moves back. -/
theorem seek_ring_inv (hn : 0 < n) (hround : n • step = 0) (i : {i // marked i = true}) :
    seek n marked (-step) i = some ((ring marked hn hround)⁻¹ i).1 :=
  seek_advance marked hn (round_neg hround) i

/-- Every marked position ahead is come to: the induction is on the way that is left. -/
theorem ring_reaches (hn : 0 < n) (hround : n • step = 0) (j : {i // marked i = true}) :
    ∀ d < n, ∀ i : {i // marked i = true}, j.1 = i.1 + d • step → ∃ k : Nat, ((ring marked hn hround) ^ k) i = j := by
  intro d
  induction d using Nat.strong_induction_on with
  | _ d ih =>
    intro hd i hj
    by_cases hzero : d = 0
    · subst hzero
      rw [zero_nsmul, add_zero] at hj
      exact ⟨0, Subtype.ext hj.symm⟩
    · obtain ⟨k, hk, hnext, -, hbefore⟩ := seek_eq_some_iff.mp (seek_ring marked hn hround i)
      -- the next position is not behind `j`
      have hle : k + 1 ≤ d := by
        by_contra hlt
        have hmissed := hbefore (d - 1) (by omega)
        rw [Nat.sub_add_cancel (Nat.pos_of_ne_zero hzero), ← hj, j.2] at hmissed
        cases hmissed
      have hrest : j.1 = (ring marked hn hround i).1 + (d - (k + 1)) • step := by
        rw [hj, hnext, add_assoc, ← add_nsmul]
        congr 2
        omega
      obtain ⟨m, hm⟩ := ih (d - (k + 1)) (by omega) (by omega) (ring marked hn hround i) hrest
      exact ⟨m + 1, by rw [pow_succ, Equiv.Perm.mul_apply, hm]⟩

/-- **Nothing is left out**: the permutation is one cycle through all the marked positions. -/
theorem ring_isCycleOn (hn : 0 < n) (hround : n • step = 0)
    (hgenerates : ∀ a b : G, ∃ d < n, b = a + d • step) : (ring marked hn hround).IsCycleOn Set.univ := by
  refine ⟨Set.bijOn_univ.mpr (ring marked hn hround).bijective, fun i _ j _ => ?_⟩
  obtain ⟨d, hd, hj⟩ := hgenerates i.1 j.1
  obtain ⟨k, hk⟩ := ring_reaches marked hn hround j d hd i hj
  exact ⟨k, by rw [zpow_natCast, hk]⟩

end

end Dstx.Lib
