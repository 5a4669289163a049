/-
# Dstx.Lib.Patch — absolute stores into a map of cells, in order and put off.

A `Patch` gives some cells a value, whatever they held before, and leaves the others.  A sequence of
patches is again one: each cell gets the value of the LAST patch that writes it (`Patch.last`,
`foldl_apply`).

Some systems do part of a sequence at once and put the rest off: the patches `done` are applied as they
come, the patches `served` afterwards, in an order of the server's own.  `apply_putOff_iff` says when that
is the same as the sequence in order: on every cell that is served, the value served last must be the
value of the last patch that wrote the cell.
-/
import Mathlib.Logic.Basic

namespace Dstx.Lib

variable {ι α : Type*}

/-- The cells a store writes, with their values. -/
abbrev Patch (ι α : Type*) := ι → Option α

namespace Patch

/-- The map after the store. -/
def apply (p : Patch ι α) (f : ι → α) : ι → α := fun i => (p i).getD (f i)

/-- **The patch of a whole sequence**: on each cell, the last one that writes it. -/
def last : List (Patch ι α) → Patch ι α
  | [] => fun _ => none
  | p :: ps => fun i => (last ps i).or (p i)

theorem last_cons (p : Patch ι α) (ps : List (Patch ι α)) (i : ι) :
    last (p :: ps) i = (last ps i).or (p i) := rfl

/-- **Patches one after another are their last writes.** -/
theorem foldl_apply (ps : List (Patch ι α)) (f : ι → α) :
    ps.foldl (fun f p => p.apply f) f = (last ps).apply f := by
  induction ps generalizing f with
  | nil => rfl
  | cons p ps ih =>
      rw [List.foldl_cons, ih]
      funext i
      show (last ps i).getD ((p i).getD (f i)) = ((last ps i).or (p i)).getD (f i)
      cases last ps i <;> simp

theorem last_append (ps qs : List (Patch ι α)) (i : ι) :
    last (ps ++ qs) i = (last qs i).or (last ps i) := by
  induction ps with
  | nil => simp [last]
  | cons p ps ih =>
      rw [List.cons_append, last_cons, ih, last_cons]
      exact Option.or_assoc

/-- A cell stays unwritten exactly when no patch writes it. -/
theorem last_eq_none_iff (ps : List (Patch ι α)) (i : ι) : last ps i = none ↔ ∀ p ∈ ps, p i = none := by
  induction ps with
  | nil => simp [last]
  | cons p ps ih => simp [last_cons, ih, and_comm]

/-- Operations that are left out and do not write the cell are not missed there. -/
theorem last_filter {β : Type*} {patch : β → Patch ι α} {q : β → Bool} {ops : List β} {i : ι}
    (h : ∀ op ∈ ops, q op = false → patch op i = none) :
    last ((ops.filter q).map patch) i = last (ops.map patch) i := by
  induction ops with
  | nil => rfl
  | cons op ops ih =>
      have ih := ih fun op' hop' => h op' (List.mem_cons_of_mem op hop')
      rw [List.filter_cons, List.map_cons, last_cons]
      split
      · rw [List.map_cons, last_cons, ih]
      · rename_i hq
        have hop := h op List.mem_cons_self (by simpa using hq)
        simp [ih, hop]

/-- **When putting off is harmless.**  The patches `done` at once and the ones `served` later together
write what the sequence `all` writes: a cell that is not served has its last write among those done, and a
cell that is served is written by the sequence too. -/
theorem apply_putOff_iff {done served all : List (Patch ι α)}
    (hdone : ∀ i, last served i = none → last done i = last all i)
    (hserved : ∀ i, (last served i).isSome → (last all i).isSome) (f : ι → α) :
    (last (done ++ served)).apply f = (last all).apply f ↔
      ∀ i v, last served i = some v → last all i = some v := by
  have hcell : ∀ i, (last (done ++ served)).apply f i = (last all).apply f i ↔
      ∀ v, last served i = some v → last all i = some v := by
    intro i
    show (last (done ++ served) i).getD (f i) = (last all i).getD (f i) ↔ _
    rw [last_append]
    cases hs : last served i with
    | none => simp [hdone i hs]
    | some v =>
        obtain ⟨w, hw⟩ := Option.isSome_iff_exists.mp (hserved i (by simp [hs]))
        simp [hw, eq_comm]
  constructor
  · intro h i
    exact (hcell i).mp (congrFun h i)
  · intro h
    exact funext fun i => (hcell i).mpr (h i)

end Patch

end Dstx.Lib
