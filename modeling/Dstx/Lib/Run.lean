/-
# Dstx.Lib.Run — guarded runs of a labelled step function.

A component is a state type `σ`, a label type `α` (who moves, with the environment's inputs) and a
PARTIAL step function `step : α → σ → Option σ`; `none` means "not enabled here" (a lock that is
held, a client that is not at that statement).  A RUN is any finite sequence of enabled steps.  A
guard `ok : α → σ → Prop` speaks about a label and the state BEFORE the step, so "every run whose
steps all meet a condition" is `Run step ok`, and "every run" is the guard that is always true.

The two rules the rest of the development uses: `Run.invariant` (a property of the first state that
every guarded step keeps holds at the end of every guarded run) and `Run.of_exec` (a concrete label
list that executes IS a run), the second of which turns a computed trace into a counterexample.

Where a guard is EXACT — a step from a good state leads to a good state if and only if it meets the
guard — whole executions are characterised at once: `throughout_iff_meets`.
-/
import Mathlib.Logic.Basic

namespace Dstx.Lib

variable {σ α : Type*}

/-- **`Run step ok s t`** — `t` is reached from `s` by enabled steps, each of which met `ok` in the
state it was taken from. -/
inductive Run (step : α → σ → Option σ) (ok : α → σ → Prop) : σ → σ → Prop
  | refl (s : σ) : Run step ok s s
  | tail {s t u : σ} {a : α} : Run step ok s t → ok a t → step a t = some u → Run step ok s u

/-- The unguarded guard: every enabled step is allowed. -/
def free : α → σ → Prop := fun _ _ => True

/-- Execute a list of labels; `none` as soon as one of them is not enabled. -/
def exec (step : α → σ → Option σ) : List α → σ → Option σ
  | [], s => some s
  | a :: as, s => (step a s).bind (exec step as)

/-- `step`, refusing what the test `check` refuses. -/
def checked (check : α → σ → Bool) (step : α → σ → Option σ) (a : α) (s : σ) : Option σ :=
  if check a s then step a s else none

/-- The state that executing `as` from `s` ends in; `s` when it does not execute. -/
def reached (step : α → σ → Option σ) (as : List α) (s : σ) : σ := (exec step as s).getD s

theorem eq_some_getD {o : Option σ} {s : σ} (h : o.isSome = true) : o = some (o.getD s) := by
  cases o with
  | none => cases h
  | some t => rfl

namespace Run

variable {step : α → σ → Option σ} {ok ok' : α → σ → Prop}

theorem single {s t : σ} {a : α} (hok : ok a s) (h : step a s = some t) : Run step ok s t :=
  .tail (.refl s) hok h

theorem trans {s t u : σ} (h₁ : Run step ok s t) (h₂ : Run step ok t u) : Run step ok s u := by
  induction h₂ with
  | refl => exact h₁
  | tail _ hok hs ih => exact .tail ih hok hs

/-- A stronger guard allows fewer runs. -/
theorem mono (hle : ∀ a s, ok a s → ok' a s) {s t : σ} (h : Run step ok s t) :
    Run step ok' s t := by
  induction h with
  | refl => exact .refl _
  | tail _ hok hs ih => exact .tail ih (hle _ _ hok) hs

/-- **A guard that follows from an invariant**: where what holds along the run makes every step meet `ok'`, the
run is one under `ok'`. -/
theorem strengthen {I : σ → Prop} (hstep : ∀ a s t, I s → ok a s → step a s = some t → I t)
    (hle : ∀ a s, I s → ok a s → ok' a s) {s t : σ} (h : Run step ok s t) (h0 : I s) :
    Run step ok' s t ∧ I t := by
  induction h with
  | refl => exact ⟨.refl _, h0⟩
  | tail _ hok hs ih => exact ⟨.tail ih.1 (hle _ _ ih.2 hok) hs, hstep _ _ _ ih.2 hok hs⟩

/-- **The invariant rule.** What holds at the start and survives every guarded step holds at the
end of every guarded run. -/
theorem invariant {I : σ → Prop}
    (hstep : ∀ a s t, I s → ok a s → step a s = some t → I t)
    {s t : σ} (h : Run step ok s t) (h0 : I s) : I t := by
  induction h with
  | refl => exact h0
  | tail _ hok hs ih => exact hstep _ _ _ ih hok hs

/-- A label list that executes is a run. -/
theorem of_exec : ∀ {as : List α} {s t : σ}, exec step as s = some t → Run step free s t
  | [], s, t, h => by
      cases h
      exact .refl s
  | a :: as, s, t, h => by
      simp only [exec, Option.bind_eq_some_iff] at h
      obtain ⟨u, hu, hrest⟩ := h
      exact (single trivial hu).trans (of_exec hrest)

/-- A label list that executes and passes a test for the guard is a guarded run. -/
theorem of_exec_checked {check : α → σ → Bool} (hcheck : ∀ a s, check a s = true → ok a s) :
    ∀ {as : List α} {s t : σ}, exec (checked check step) as s = some t → Run step ok s t
  | [], s, t, h => by
      cases h
      exact .refl s
  | a :: as, s, t, h => by
      simp only [exec, Option.bind_eq_some_iff] at h
      obtain ⟨u, hu, hrest⟩ := h
      unfold checked at hu
      split at hu
      · rename_i hpass
        exact (single (hcheck a s hpass) hu).trans (of_exec_checked hcheck hrest)
      · cases hu

end Run

/-! ## Exact guards -/

/-- **Every state that executing the labels passes through has `P`**, the first one included. -/
def Throughout (step : α → σ → Option σ) (P : σ → Prop) : List α → σ → Prop
  | [], s => P s
  | a :: as, s => P s ∧ ∀ t, step a s = some t → Throughout step P as t

/-- **Every step taken in executing the labels meets `ok`.** -/
def Meets (step : α → σ → Option σ) (ok : α → σ → Prop) : List α → σ → Prop
  | [], _ => True
  | a :: as, s => ∀ t, step a s = some t → ok a s ∧ Meets step ok as t

section Exact

variable {step : α → σ → Option σ} {ok : α → σ → Prop} {P J : σ → Prop}

theorem Throughout.head {as : List α} {s : σ} (h : Throughout step P as s) : P s := by
  cases as with
  | nil => exact h
  | cons a as => exact h.1

/-- An execution that stays in `P` ends in `P`. -/
theorem Throughout.of_exec : ∀ {as : List α} {s t : σ}, Throughout step P as s →
    exec step as s = some t → P t
  | [], s, t, h, ht => by
      cases ht
      exact h
  | a :: as, s, t, h, ht => by
      simp only [exec, Option.bind_eq_some_iff] at ht
      obtain ⟨u, hu, hrest⟩ := ht
      exact (h.2 u hu).of_exec hrest

/-- **The rule for exact guards.**  `J` holds along every execution; from a state with `P`, a step leads
to a state with `P` exactly when it meets `ok`.  Then an execution stays in `P` exactly when all its steps
meet `ok`. -/
theorem throughout_iff_meets (hJ : ∀ a s t, J s → step a s = some t → J t)
    (hP : ∀ a s t, J s → P s → step a s = some t → (P t ↔ ok a s)) :
    ∀ (as : List α) {s : σ}, J s → P s → (Throughout step P as s ↔ Meets step ok as s)
  | [], s, _, hs => iff_of_true hs trivial
  | a :: as, s, hj, hs => by
      constructor
      · rintro ⟨-, hrest⟩ t ht
        have hthrough := hrest t ht
        have hexact := hP a s t hj hs ht
        exact ⟨hexact.mp hthrough.head,
          (throughout_iff_meets hJ hP as (hJ a s t hj ht) hthrough.head).mp hthrough⟩
      · intro hmeets
        refine ⟨hs, fun t ht => ?_⟩
        obtain ⟨hok, hrest⟩ := hmeets t ht
        have ht' : P t := (hP a s t hj hs ht).mpr hok
        exact (throughout_iff_meets hJ hP as (hJ a s t hj ht) ht').mpr hrest

/-- Two guards that agree wherever `J` holds are met by the same executions. -/
theorem meets_congr {ok' : α → σ → Prop} (hJ : ∀ a s t, J s → step a s = some t → J t)
    (hok : ∀ a s t, J s → step a s = some t → (ok a s ↔ ok' a s)) :
    ∀ (as : List α) {s : σ}, J s → (Meets step ok as s ↔ Meets step ok' as s)
  | [], _, _ => Iff.rfl
  | a :: as, s, hj => by
      constructor
      · intro hmeets t ht
        obtain ⟨h, hrest⟩ := hmeets t ht
        exact ⟨(hok a s t hj ht).mp h, (meets_congr hJ hok as (hJ a s t hj ht)).mp hrest⟩
      · intro hmeets t ht
        obtain ⟨h, hrest⟩ := hmeets t ht
        exact ⟨(hok a s t hj ht).mpr h, (meets_congr hJ hok as (hJ a s t hj ht)).mpr hrest⟩

end Exact

/-- **Executions that never get stuck**: where every label is enabled in a state with `I` and keeps it,
every list of labels executes and ends in a state with `I`. -/
theorem exec_total {step : α → σ → Option σ} {I : σ → Prop}
    (hstep : ∀ a s, I s → ∃ t, step a s = some t ∧ I t) :
    ∀ (as : List α) {s : σ}, I s → ∃ t, exec step as s = some t ∧ I t
  | [], s, hs => ⟨s, rfl, hs⟩
  | a :: as, s, hs => by
      obtain ⟨t, ht, hI⟩ := hstep a s hs
      obtain ⟨u, hu, hI'⟩ := exec_total hstep as hI
      refine ⟨u, ?_, hI'⟩
      show (step a s).bind (exec step as) = some u
      rw [ht, Option.bind_some, hu]

/-- A computed trace as a counterexample: if executing `as` from `s` ends in a state where the
Boolean test `p` is true, then some run from `s` reaches a state where `p` is true. -/
theorem exists_run_of_exec {step : α → σ → Option σ} {s : σ} {p : σ → Bool} (as : List α)
    (h : (exec step as s).map p = some true) : ∃ t, Run step free s t ∧ p t = true := by
  obtain ⟨t, ht, hp⟩ := Option.map_eq_some_iff.mp h
  exact ⟨t, Run.of_exec ht, hp⟩

/-- The same for a guarded run. -/
theorem exists_run_of_exec_checked {step : α → σ → Option σ} {ok : α → σ → Prop}
    {check : α → σ → Bool} (hcheck : ∀ a s, check a s = true → ok a s) {s : σ} {p : σ → Bool}
    (as : List α) (h : (exec (checked check step) as s).map p = some true) :
    ∃ t, Run step ok s t ∧ p t = true := by
  obtain ⟨t, ht, hp⟩ := Option.map_eq_some_iff.mp h
  exact ⟨t, Run.of_exec_checked hcheck ht, hp⟩

end Dstx.Lib
