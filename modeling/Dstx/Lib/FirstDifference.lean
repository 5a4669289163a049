/-
# Dstx.Lib.FirstDifference — comparing two sequences at the first position where they differ.

`compareFrom` is the loop: from position `i` on it looks at `left` positions and stops at the first that
differs, with `-1` or `1`.  Where the sequences agree from the end of the loop on, its answer is the sign
of the LEXICOGRAPHIC order of the sequences (`Lex (ℕ → α)`), so what a comparison should satisfy
(antisymmetry, transitivity) is read off a linear order.
-/
import Mathlib.Order.PiLex
import Mathlib.Order.Fin.Basic
import Mathlib.Algebra.Order.Ring.Int

namespace Dstx.Lib

variable {α : Type*} [LinearOrder α]

/-- **The loop.** -/
def compareFrom (x y : ℕ → α) : ℕ → ℕ → Int
  | 0, _ => 0
  | left + 1, i => if x i ≠ y i then (if x i < y i then -1 else 1) else compareFrom x y left (i + 1)

variable {x y : ℕ → α}

theorem compareFrom_eq_zero_iff (left i : ℕ) :
    compareFrom x y left i = 0 ↔ ∀ j, i ≤ j → j < i + left → x j = y j := by
  induction left generalizing i with
  | zero =>
      simp only [compareFrom, true_iff]
      intro j hle hlt
      omega
  | succ left ih =>
      by_cases heq : x i = y i
      · rw [compareFrom, if_neg (by simp [heq]), ih (i + 1)]
        constructor
        · intro h j hle hlt
          obtain rfl | hlt' := hle.eq_or_lt
          · exact heq
          · exact h j hlt' (by omega)
        · intro h j hle hlt
          exact h j (by omega) (by omega)
      · have hdiffers : ¬∀ j, i ≤ j → j < i + (left + 1) → x j = y j :=
          fun h => heq (h i le_rfl (by omega))
        rw [compareFrom, if_pos heq]
        split_ifs <;> simp [hdiffers]

/-- **`-1`**: at the first position that differs the first sequence is smaller. -/
theorem compareFrom_eq_neg_one_iff (left i : ℕ) :
    compareFrom x y left i = -1 ↔
      ∃ j, i ≤ j ∧ j < i + left ∧ (∀ k, i ≤ k → k < j → x k = y k) ∧ x j < y j := by
  induction left generalizing i with
  | zero =>
      simp only [compareFrom]
      constructor
      · intro h
        omega
      · rintro ⟨j, hle, hlt, -⟩
        omega
  | succ left ih =>
      by_cases heq : x i = y i
      · rw [compareFrom, if_neg (by simp [heq]), ih (i + 1)]
        constructor
        · rintro ⟨j, hle, hlt, hsame, hless⟩
          refine ⟨j, by omega, by omega, fun k hk hkj => ?_, hless⟩
          obtain rfl | hk' := hk.eq_or_lt
          · exact heq
          · exact hsame k hk' hkj
        · rintro ⟨j, hle, hlt, hsame, hless⟩
          have hne : i ≠ j := by
            rintro rfl
            exact hless.ne heq
          exact ⟨j, by omega, by omega, fun k hk hkj => hsame k (by omega) hkj, hless⟩
      · rw [compareFrom, if_pos heq]
        constructor
        · intro h
          refine ⟨i, le_rfl, by omega, fun k hk hki => by omega, ?_⟩
          by_contra hless
          rw [if_neg hless] at h
          omega
        · rintro ⟨j, hle, hlt, hsame, hless⟩
          obtain rfl | hij := hle.eq_or_lt
          · rw [if_pos hless]
          · exact absurd (hsame i le_rfl hij) heq

/-- The other way round the answer is the opposite. -/
theorem compareFrom_swap (x y : ℕ → α) (left i : ℕ) : compareFrom y x left i = -compareFrom x y left i := by
  induction left generalizing i with
  | zero => rfl
  | succ left ih =>
      rcases lt_trichotomy (x i) (y i) with h | h | h
      · simp [compareFrom, h, h.ne, h.ne', h.not_gt]
      · simp [compareFrom, h, ih]
      · simp [compareFrom, h, h.ne, h.ne', h.not_gt]

theorem compareFrom_values (left i : ℕ) :
    compareFrom x y left i = -1 ∨ compareFrom x y left i = 0 ∨ compareFrom x y left i = 1 := by
  induction left generalizing i with
  | zero => simp [compareFrom]
  | succ left ih =>
      unfold compareFrom
      split_ifs <;> simp [ih (i + 1)]

/-- **The loop decides the lexicographic order** of sequences that agree from `n` on. -/
theorem compareFrom_lex {n : ℕ} (hrest : ∀ j, n ≤ j → x j = y j) :
    compareFrom x y n 0 = -1 ↔ toLex x < toLex y := by
  rw [compareFrom_eq_neg_one_iff]
  constructor
  · rintro ⟨j, -, -, hsame, hless⟩
    exact ⟨j, fun k hk => hsame k (Nat.zero_le k) hk, hless⟩
  · rintro ⟨j, hsame, hless⟩
    have hj : j < n := by
      by_contra hge
      exact hless.ne (hrest j (by omega))
    exact ⟨j, Nat.zero_le j, by omega, fun k _ hk => hsame k hk, hless⟩

theorem compareFrom_lex_eq {n : ℕ} (hrest : ∀ j, n ≤ j → x j = y j) :
    compareFrom x y n 0 = 0 ↔ toLex x = toLex y := by
  rw [compareFrom_eq_zero_iff]
  constructor
  · intro h
    apply congrArg toLex
    funext j
    by_cases hj : j < n
    · exact h j (Nat.zero_le j) (by omega)
    · exact hrest j (by omega)
  · intro h j _ _
    exact congrFun (congrArg ofLex h) j

theorem compareFrom_lex_le {n : ℕ} (hrest : ∀ j, n ≤ j → x j = y j) :
    compareFrom x y n 0 ≤ 0 ↔ toLex x ≤ toLex y := by
  have hswap : compareFrom y x n 0 = -1 ↔ toLex y < toLex x :=
    compareFrom_lex fun j hj => (hrest j hj).symm
  have hvalues := compareFrom_values (x := x) (y := y) n 0
  calc compareFrom x y n 0 ≤ 0 ↔ ¬compareFrom y x n 0 = -1 := by
        have hneg := compareFrom_swap x y n 0
        omega
    _ ↔ ¬toLex y < toLex x := not_congr hswap
    _ ↔ toLex x ≤ toLex y := not_lt

end Dstx.Lib
