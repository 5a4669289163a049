/-
# Dstx.Lib.Memo — a table of results that is filled on demand and cleared at times.

A result is `build k v`: it belongs to a key `k` and was built from the VERSION `v` that the key's data had
then.  `fetch` returns what the table holds for the key, or builds it.  The data can change without the
table hearing of it, so what is fetched may be out of date.

`firstFetch history k` is the version at the first fetch since the last clear, and that is what the table
holds (`Memoizes`).  A fetch is right exactly when the present version builds the same (`fetch_right_iff`).
-/
import Mathlib.Data.Option.Basic
import Mathlib.Logic.Function.Basic

namespace Dstx.Lib

variable {κ ν ρ : Type*} [DecidableEq κ]

/-- What can happen to the table: a fetch of a key whose data has the version `v`, or a clear. -/
inductive MemoEvent (κ ν : Type*) where
  | fetch (k : κ) (v : ν)
  | clear

/-- **Look the key up, or build its result and keep it.** -/
def memoFetch (table : κ → Option ρ) (k : κ) (built : ρ) : ρ × (κ → Option ρ) :=
  match table k with
  | some kept => (kept, table)
  | none => (built, Function.update table k (some built))

/-- **The version of the key's first fetch since the last clear**; histories are newest first. -/
def firstFetch : List (MemoEvent κ ν) → κ → Option ν
  | [], _ => none
  | .fetch k v :: earlier, a =>
      match firstFetch earlier a with
      | some first => some first
      | none => if a = k then some v else none
  | .clear :: _, _ => none

/-- **The table holds what was built then.** -/
def Memoizes (build : κ → ν → ρ) (history : List (MemoEvent κ ν)) (table : κ → Option ρ) : Prop :=
  ∀ k, table k = (firstFetch history k).map (build k)

variable {build : κ → ν → ρ} {history : List (MemoEvent κ ν)} {table : κ → Option ρ}

theorem memoizes_clear (history : List (MemoEvent κ ν)) :
    Memoizes build (.clear :: history) fun _ => none := fun _ => rfl

theorem Memoizes.fetch (h : Memoizes build history table) (k : κ) (v : ν) :
    Memoizes build (.fetch k v :: history) (memoFetch table k (build k v)).2 := by
  intro a
  have hk := h k
  have ha := h a
  unfold memoFetch
  cases hfirst : firstFetch history k with
  | some first =>
      rw [hfirst, Option.map_some] at hk
      rw [hk]
      cases hfirst' : firstFetch history a with
      | some first' => simp [firstFetch, hfirst', ha]
      | none =>
          have hne : a ≠ k := by
            rintro rfl
            rw [hfirst] at hfirst'
            cases hfirst'
          simp [firstFetch, hfirst', ha, hne]
  | none =>
      rw [hfirst, Option.map_none] at hk
      rw [hk]
      by_cases hak : a = k
      · subst hak
        simp [firstFetch, hfirst]
      · cases hfirst' : firstFetch history a <;> simp [firstFetch, hfirst', ha, hak]

/-- **When a fetch is right.** -/
theorem fetch_right_iff (h : Memoizes build history table) (k : κ) (v : ν) :
    (memoFetch table k (build k v)).1 = build k v ↔
      ∀ first ∈ firstFetch history k, build k first = build k v := by
  have hk := h k
  unfold memoFetch
  cases hfirst : firstFetch history k with
  | some first =>
      rw [hfirst, Option.map_some] at hk
      simp [hk]
  | none =>
      rw [hfirst, Option.map_none] at hk
      simp [hk]

end Dstx.Lib
