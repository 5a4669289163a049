/-
# Dstx.Lib.CArith — the arithmetic of C: checked 32-bit integers and rounded single-precision numbers.

Signed overflow is undefined, so an operation on `int32_t` is a partial function (`mul32`, `add32`): `none`
where the exact result does not fit.  The sum of the squares of two 16-bit numbers fits, with ONE exception
(`sumSquares32_eq_some_iff`).

A single-precision operation is the exact one followed by `rnd`.  `SinglePrecision` has what IEEE 754
promises of `rnd` and `sqrtf` away from overflow: a relative error, an absolute one for tiny results, small
integers exact.  `exactPrecision` is an instance that can be computed with.
-/
import Mathlib.Data.Rat.Floor
import Mathlib.Data.Nat.Sqrt
import Mathlib.Tactic.Linarith
import Mathlib.Tactic.FieldSimp
import Mathlib.Tactic.Ring
import Mathlib.Tactic.NormNum

namespace Dstx.Lib

/-! ## Signed 32-bit integers -/

/-- An exact result as an `int32_t`, if it is one. -/
def checked32 (v : Int) : Option Int := if -2147483648 ≤ v ∧ v ≤ 2147483647 then some v else none

/-- `a * b`. -/
def mul32 (a b : Int) : Option Int := checked32 (a * b)

/-- `a + b`. -/
def add32 (a b : Int) : Option Int := checked32 (a + b)

/-- `x * x + y * y`. -/
def sumSquares32 (x y : Int) : Option Int :=
  (mul32 x x).bind fun xx => (mul32 y y).bind fun yy => add32 xx yy

/-- The range of `int16_t`. -/
def Int16Range (v : Int) : Prop := -32768 ≤ v ∧ v ≤ 32767

theorem mul_self_le_of_int16 {v : Int} (h : Int16Range v) : 0 ≤ v * v ∧ v * v ≤ 1073741824 := by
  obtain ⟨hlo, hhi⟩ := h
  exact ⟨mul_self_nonneg v, by nlinarith⟩

/-- Away from the lower end the square is smaller. -/
theorem mul_self_le_of_ne {v : Int} (h : Int16Range v) (hne : v ≠ -32768) : v * v ≤ 1073676289 := by
  obtain ⟨hlo, hhi⟩ := h
  have hlo' : -32767 ≤ v := by omega
  nlinarith

/-- **The squared length of a pair of 16-bit numbers is exact, except for the pair of the two lowest.** -/
theorem sumSquares32_eq_some_iff {x y : Int} (hx : Int16Range x) (hy : Int16Range y) :
    sumSquares32 x y = some (x * x + y * y) ↔ ¬(x = -32768 ∧ y = -32768) := by
  have hxx := mul_self_le_of_int16 hx
  have hyy := mul_self_le_of_int16 hy
  have hsum : sumSquares32 x y = add32 (x * x) (y * y) := by
    have hx32 : mul32 x x = some (x * x) := if_pos ⟨by omega, by omega⟩
    have hy32 : mul32 y y = some (y * y) := if_pos ⟨by omega, by omega⟩
    simp only [sumSquares32, hx32, hy32, Option.bind_some]
  rw [hsum]
  constructor
  · rintro h ⟨rfl, rfl⟩
    exact absurd h (by decide)
  · intro hcorner
    refine if_pos ⟨by omega, ?_⟩
    by_cases hxlow : x = -32768
    · have hylow : y ≠ -32768 := fun h => hcorner ⟨hxlow, h⟩
      have hyy' := mul_self_le_of_ne hy hylow
      omega
    · have hxx' := mul_self_le_of_ne hx hxlow
      omega

/-- What it returns is the exact value. -/
theorem sumSquares32_some {x y m : Int} (h : sumSquares32 x y = some m) : m = x * x + y * y := by
  unfold sumSquares32 mul32 add32 checked32 at h
  split_ifs at h with h₁ h₂ h₃ <;> simp_all

/-! ## Single precision -/

/-- **Single-precision arithmetic**: the rounding of an exact result, and the square root. -/
structure SinglePrecision where
  rnd : ℚ → ℚ
  sqrtf : ℚ → ℚ
  rnd_close : ∀ a, |rnd a - a| ≤ |a| / 2 ^ 23 + 1 / 2 ^ 126
  rnd_int : ∀ n : ℤ, |n| ≤ 2 ^ 24 → rnd n = n
  rnd_nonneg : ∀ a, 0 ≤ a → 0 ≤ rnd a
  sqrtf_nonneg : ∀ a, 0 ≤ a → 0 ≤ sqrtf a
  sqrtf_close : ∀ a, 0 ≤ a → |sqrtf a ^ 2 - a| ≤ a / 2 ^ 22

/-- `(int32_t)q`: towards zero. -/
def truncate (q : ℚ) : ℤ := if 0 ≤ q then ⌊q⌋ else ⌈q⌉

/-- A truncated number is low only when the number is. -/
theorem le_of_truncate_le {q : ℚ} {n : ℤ} (hn : n < 0) (h : truncate q ≤ n) : q ≤ n := by
  unfold truncate at h
  split_ifs at h with hq
  · have hfloor : 0 ≤ ⌊q⌋ := Int.floor_nonneg.mpr hq
    omega
  · exact Int.ceil_le.mp h

namespace SinglePrecision

variable (F : SinglePrecision)

/-- The rounding error, with a constant that is easy to calculate with. -/
theorem rnd_error (a : ℚ) : |F.rnd a - a| ≤ |a| / 1000000 + 1 / 1000000 := by
  have h := F.rnd_close a
  have habs := abs_nonneg a
  have hrel : |a| / 2 ^ 23 ≤ |a| / 1000000 := by
    rw [div_le_div_iff₀ (by norm_num) (by norm_num)]
    nlinarith
  have htiny : (1 : ℚ) / 2 ^ 126 ≤ 1 / 1000000 := by norm_num
  linarith

/-- Rounding lengthens a number by at most a millionth. -/
theorem abs_rnd_le {a M : ℚ} (h : |a| ≤ M) : |F.rnd a| ≤ M + M / 1000000 + 1 / 1000000 := by
  have herror := F.rnd_error a
  have htriangle : |F.rnd a| ≤ |F.rnd a - a| + |a| := by
    have := abs_add_le (F.rnd a - a) a
    rwa [sub_add_cancel] at this
  linarith

theorem sqrtf_sq_ge {a : ℚ} (h : 0 ≤ a) : a - a / 1000000 ≤ F.sqrtf a ^ 2 := by
  have hclose := (abs_le.mp (F.sqrtf_close a h)).1
  have hrel : a / 2 ^ 22 ≤ a / 1000000 := by
    rw [div_le_div_iff₀ (by norm_num) (by norm_num)]
    nlinarith
  linarith

end SinglePrecision

/-! ## An instance -/

/-- The square root of a rational number, rounded down to 23 binary places of its own scale. -/
def ratSqrt (a : ℚ) : ℚ :=
  (Nat.sqrt (a.num.toNat * a.den * (2 ^ 23 * 2 ^ 23)) : ℚ) / (a.den * 2 ^ 23)

theorem ratSqrt_close {a : ℚ} (h : 0 ≤ a) : |ratSqrt a ^ 2 - a| ≤ a / 2 ^ 22 := by
  have hden : (0 : ℚ) < a.den := by exact_mod_cast a.den_pos
  have hnum : (a.num.toNat : ℚ) = a.num := by
    have := Int.toNat_of_nonneg (Rat.num_nonneg.mpr h)
    exact_mod_cast this
  set N := a.num.toNat * a.den * (2 ^ 23 * 2 ^ 23) with hN
  have hlow : Nat.sqrt N * Nat.sqrt N ≤ N := Nat.sqrt_le N
  have hhigh : N ≤ Nat.sqrt N * Nat.sqrt N + Nat.sqrt N + Nat.sqrt N := Nat.sqrt_le_add N
  -- the rounding is small against the number itself
  have hsmall : Nat.sqrt N * 2 ^ 23 ≤ N := by
    by_cases hzero : a.num.toNat = 0
    · simp [hN, hzero]
    · have hone : 1 ≤ a.num.toNat * a.den := Nat.mul_pos (Nat.pos_of_ne_zero hzero) a.den_pos
      have hscale : 2 ^ 23 * 2 ^ 23 ≤ N := by
        rw [hN]
        exact Nat.le_mul_of_pos_left _ hone
      have hroot : 2 ^ 23 ≤ Nat.sqrt N := Nat.le_sqrt.mpr hscale
      exact le_trans (Nat.mul_le_mul_left _ hroot) hlow
  have ha : a = (N : ℚ) / (a.den * 2 ^ 23) ^ 2 := by
    have hfrac : a = a.num / a.den := (Rat.num_div_den a).symm
    have hcast : (N : ℚ) = a.num * a.den * (2 ^ 23 * 2 ^ 23) := by
      rw [hN]
      push_cast
      rw [hnum]
      norm_num
    rw [hcast, eq_div_iff (by positivity)]
    nth_rewrite 1 [hfrac]
    field_simp
  have hsq : ratSqrt a ^ 2 = (Nat.sqrt N * Nat.sqrt N : ℕ) / (a.den * 2 ^ 23) ^ 2 := by
    rw [ratSqrt, ← hN, div_pow]
    push_cast
    ring
  have hpos : (0 : ℚ) < (a.den * 2 ^ 23) ^ 2 := by positivity
  have hlow' : ((Nat.sqrt N * Nat.sqrt N : ℕ) : ℚ) ≤ N := by exact_mod_cast hlow
  have hhigh' : (N : ℚ) ≤ (Nat.sqrt N * Nat.sqrt N : ℕ) + 2 * (Nat.sqrt N : ℚ) := by
    have : (N : ℚ) ≤ (Nat.sqrt N * Nat.sqrt N + Nat.sqrt N + Nat.sqrt N : ℕ) := by exact_mod_cast hhigh
    push_cast at this ⊢
    linarith
  have hsmall' : (Nat.sqrt N : ℚ) * 2 ^ 23 ≤ N := by exact_mod_cast hsmall
  have hdiff : ratSqrt a ^ 2 - a = ((Nat.sqrt N * Nat.sqrt N : ℕ) - (N : ℚ)) / (a.den * 2 ^ 23) ^ 2 := by
    rw [hsq]
    nth_rewrite 2 [ha]
    rw [← sub_div]
  have hbound : a / 2 ^ 22 = (N : ℚ) / 2 ^ 22 / (a.den * 2 ^ 23) ^ 2 := by
    nth_rewrite 1 [ha]
    rw [div_right_comm]
  rw [hdiff, hbound, abs_div, abs_of_pos hpos]
  refine div_le_div_of_nonneg_right ?_ hpos.le
  rw [abs_sub_comm, abs_of_nonneg (by linarith), le_div_iff₀ (by norm_num)]
  nlinarith

/-- **Exact arithmetic**, with the square root good enough to be computed. -/
def exactPrecision : SinglePrecision where
  rnd := id
  sqrtf := ratSqrt
  rnd_close a := by
    have habs := abs_nonneg a
    simp only [id, sub_self, abs_zero]
    positivity
  rnd_int _ _ := rfl
  rnd_nonneg _ h := h
  sqrtf_nonneg a h := by
    unfold ratSqrt
    positivity
  sqrtf_close _ h := ratSqrt_close h

end Dstx.Lib
