/-
# Dstx.Lib.Settle — systems that come to rest.

The labels of a step function are of two kinds: what the outside does, and what the system does BY ITSELF
(`own`), in whatever order its pending work happens to be done.  A state is AT REST when no own step is
enabled; a state SETTLES when no infinite run of own steps leads away from it.

`settles_of_measure` is the rule for settling: an invariant and a measure that goes down with every own step.
From a state that settles, every way of doing the pending work ends, and it ends at rest
(`Settles.exists_rest`); what the invariant says of states at rest is then what the system ends up with
(`comesToRest_of_measure`).
-/
import Dstx.Lib.Run
import Mathlib.Logic.Basic

namespace Dstx.Lib

variable {σ α : Type*}

/-- One step of the system's own. -/
def OwnStep (step : α → σ → Option σ) (own : α → Prop) (s t : σ) : Prop :=
  ∃ a, own a ∧ step a s = some t

/-- **Nothing of its own is left to do.** -/
def AtRest (step : α → σ → Option σ) (own : α → Prop) (s : σ) : Prop :=
  ∀ a, own a → step a s = none

/-- **No infinite run of own steps.** -/
def Settles (step : α → σ → Option σ) (own : α → Prop) (s : σ) : Prop :=
  Acc (fun t s => OwnStep step own s t) s

/-- **The system comes to rest, and `P` holds wherever it does.** -/
structure ComesToRest (step : α → σ → Option σ) (own : α → Prop) (P : σ → Prop) (s : σ) : Prop where
  settles : Settles step own s
  rests : ∀ t, Run step (fun a _ => own a) s t → AtRest step own t → P t

section

variable {step : α → σ → Option σ} {own : α → Prop}

/-- A state that settles can reach a state at rest by own steps. -/
theorem Settles.exists_rest {s : σ} (h : Settles step own s) :
    ∃ t, Run step (fun a _ => own a) s t ∧ AtRest step own t := by
  induction h with
  | intro s _ ih =>
      by_cases hrest : AtRest step own s
      · exact ⟨s, .refl s, hrest⟩
      · simp only [AtRest, not_forall] at hrest
        obtain ⟨a, ha, henabled⟩ := hrest
        obtain ⟨u, hu⟩ := Option.ne_none_iff_exists'.mp henabled
        obtain ⟨t, ht, hrest⟩ := ih u ⟨a, ha, hu⟩
        have hsu : Run step (fun a _ => own a) s u := .single ha hu
        exact ⟨t, hsu.trans ht, hrest⟩

/-- **The rule for settling.** -/
theorem settles_of_measure {β : Type*} [WellFoundedRelation β] (measure : σ → β) {I : σ → Prop}
    (hkeep : ∀ a s t, I s → own a → step a s = some t → I t)
    (hdown : ∀ a s t, I s → own a → step a s = some t →
      WellFoundedRelation.rel (measure t) (measure s)) {s : σ} (hs : I s) : Settles step own s := by
  have hacc : ∀ m, Acc WellFoundedRelation.rel m → ∀ s, I s → measure s = m → Settles step own s := by
    intro m hm
    induction hm with
    | intro m _ ih =>
        intro s hs hms
        refine Acc.intro s ?_
        rintro t ⟨a, ha, ht⟩
        have hless := hdown a s t hs ha ht
        rw [hms] at hless
        exact ih (measure t) hless t (hkeep a s t hs ha ht) rfl
  exact hacc (measure s) (WellFoundedRelation.wf.apply _) s hs rfl

/-- **The rule for what a system ends up with.** -/
theorem comesToRest_of_measure {β : Type*} [WellFoundedRelation β] (measure : σ → β) {I P : σ → Prop}
    (hkeep : ∀ a s t, I s → own a → step a s = some t → I t)
    (hdown : ∀ a s t, I s → own a → step a s = some t →
      WellFoundedRelation.rel (measure t) (measure s))
    (hrest : ∀ s, I s → AtRest step own s → P s) {s : σ} (hs : I s) : ComesToRest step own P s where
  settles := settles_of_measure measure hkeep hdown hs
  rests := by
    intro t ht hat
    exact hrest t (ht.invariant (I := I) (fun a s t hI ha => hkeep a s t hI ha) hs) hat

end

end Dstx.Lib
