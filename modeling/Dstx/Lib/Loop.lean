/-
# Dstx.Lib.Loop — a `while` loop with `continue` and `return`.

The body of a loop takes a state and either goes on with another one (`.inl`) or returns (`.inr`).
`Returns body s r` is the loop's meaning: started in `s` it comes to an end, and returns `r`.  A loop has at
most one result (`Returns.unique`); `loop` computes it with a bound on the iterations.

The rule for total correctness is `returns_of_measure`: an invariant, a measure in a well-founded order that
goes down with every iteration, and what the invariant says about each `return`.
-/
import Mathlib.Order.WellFounded

namespace Dstx.Lib

variable {σ ρ : Type*}

/-- **The loop started in `s` returns `r`.** -/
inductive Returns (body : σ → σ ⊕ ρ) : σ → ρ → Prop
  | done {s : σ} {r : ρ} : body s = .inr r → Returns body s r
  | again {s s' : σ} {r : ρ} : body s = .inl s' → Returns body s' r → Returns body s r

/-- At most `n` iterations. -/
def loop (body : σ → σ ⊕ ρ) : ℕ → σ → Option ρ
  | 0, _ => none
  | n + 1, s =>
      match body s with
      | .inl s' => loop body n s'
      | .inr r => some r

variable {body : σ → σ ⊕ ρ}

theorem Returns.unique {s : σ} {r r' : ρ} (h : Returns body s r) (h' : Returns body s r') : r = r' := by
  induction h with
  | done hr =>
      cases h' with
      | done hr' => exact Sum.inr.inj (hr.symm.trans hr')
      | again hs _ => cases hr.symm.trans hs
  | again hs _ ih =>
      cases h' with
      | done hr' => cases hs.symm.trans hr'
      | again hs' hrest =>
          obtain rfl := Sum.inl.inj (hs.symm.trans hs')
          exact ih hrest

/-- **What the bounded loop computes is the result.** -/
theorem Returns.of_loop {n : ℕ} {s : σ} {r : ρ} (h : loop body n s = some r) : Returns body s r := by
  induction n generalizing s with
  | zero => cases h
  | succ n ih =>
      cases hbody : body s with
      | inl s' =>
          simp only [loop, hbody] at h
          exact .again hbody (ih h)
      | inr r' =>
          simp only [loop, hbody, Option.some.injEq] at h
          exact .done (h ▸ hbody)

/-- **Total correctness.** -/
theorem returns_of_measure {α : Type*} [Preorder α] [WellFoundedLT α] (measure : σ → α) {I : σ → Prop}
    {Q : ρ → Prop} (hagain : ∀ s s', I s → body s = .inl s' → I s' ∧ measure s' < measure s)
    (hdone : ∀ s r, I s → body s = .inr r → Q r) {s : σ} (hs : I s) :
    ∃ r, Returns body s r ∧ Q r := by
  induction hm : measure s using WellFoundedLT.induction generalizing s with
  | ind m ih =>
      cases hbody : body s with
      | inl s' =>
          obtain ⟨hs', hless⟩ := hagain s s' hs hbody
          rw [hm] at hless
          obtain ⟨r, hr, hq⟩ := ih (measure s') hless hs' rfl
          exact ⟨r, .again hbody hr, hq⟩
      | inr r => exact ⟨r, .done hbody, hdone s r hs hbody⟩

end Dstx.Lib
