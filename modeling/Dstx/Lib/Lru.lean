/-
# Dstx.Lib.Lru — what a least-recently-used cache must hold, read off its HISTORY alone.

A cache answers a sequence of calls.  Nothing here knows how one is built: the history (newest call
first) alone says when a key was last used (`lastUse`) and which value, if any, is held for it
(`held`).  A `put` of `k` into a cache of capacity `cap` keeps another key `a` exactly when `a`, `k` and
the keys that were used after `a` fit together; the rest are the least recently used ones.

An implementation keeps an ORDER: the held keys, oldest use first.  The rules it needs are about such
lists: using a key moves it to the end (`Oldest.use`), and dropping from the front drops exactly the keys
with too many later ones (`mem_drop_iff_rivals`).
-/
import Mathlib.Data.List.Nodup
import Mathlib.Data.Set.Card

namespace Dstx.Lib

variable {κ τ : Type*} [DecidableEq κ]

/-! ## The history -/

/-- A call of a cache; `invalidate p` forgets every key with `p`. -/
inductive CacheCall (κ τ : Type*) where
  | get (k : κ)
  | put (k : κ) (v : τ)
  | remove (k : κ)
  | invalidate (p : κ → Bool)
  | clear

/-- The key a call uses. -/
def CacheCall.used : CacheCall κ τ → Option κ
  | .get k => some k
  | .put k _ => some k
  | _ => none

/-- **When a key was last used**: the number of the call, counting from 1, and 0 for never. -/
def lastUse : List (CacheCall κ τ) → κ → Nat
  | [], _ => 0
  | call :: earlier, k => if call.used = some k then earlier.length + 1 else lastUse earlier k

/-- The keys that compete with `a` for room when `k` comes in: held, and used after `a`. -/
def rivals (has : κ → Option τ) (used : κ → Nat) (k a : κ) : Set κ :=
  {b | b ≠ k ∧ (has b).isSome = true ∧ used a < used b}

open Classical in
/-- **The value held for a key** after a history, with room for `cap` keys. -/
noncomputable def held (cap : Nat) : List (CacheCall κ τ) → κ → Option τ
  | [], _ => none
  | .get _ :: earlier, a => held cap earlier a
  | .put k v :: earlier, a =>
      if a = k then some v
      else if (rivals (held cap earlier) (lastUse earlier) k a).ncard + 2 ≤ cap then held cap earlier a
      else none
  | .remove k :: earlier, a => if a = k then none else held cap earlier a
  | .invalidate p :: earlier, a => if p a = true then none else held cap earlier a
  | .clear :: _, _ => none

theorem lastUse_le (calls : List (CacheCall κ τ)) (k : κ) : lastUse calls k ≤ calls.length := by
  induction calls with
  | nil => exact Nat.le_refl 0
  | cons call earlier ih =>
      unfold lastUse
      split
      · exact Nat.le_refl _
      · exact Nat.le_succ_of_le ih

theorem lastUse_used {call : CacheCall κ τ} {k : κ} (h : call.used = some k)
    (earlier : List (CacheCall κ τ)) : lastUse (call :: earlier) k = earlier.length + 1 := by
  rw [lastUse, if_pos h]

theorem lastUse_other {call : CacheCall κ τ} {k : κ} (h : call.used ≠ some k)
    (earlier : List (CacheCall κ τ)) : lastUse (call :: earlier) k = lastUse earlier k := by
  rw [lastUse, if_neg h]

/-! ## Orders -/

/-- **The order of last use**, oldest first. -/
def Oldest (used : κ → Nat) (order : List κ) : Prop := order.Pairwise fun a b => used a < used b

/-- What is left of an order when room is made for one more key. -/
def makeRoom (cap : Nat) (order : List κ) : List κ := order.drop (order.length + 1 - cap)

omit [DecidableEq κ] in
theorem Oldest.sublist {used : κ → Nat} {order order' : List κ} (h : Oldest used order)
    (hs : order'.Sublist order) : Oldest used order' := List.Pairwise.sublist hs h

/-- A call that uses no key of an order leaves the order as it is. -/
theorem Oldest.other {earlier : List (CacheCall κ τ)} {order : List κ} (call : CacheCall κ τ)
    (h : Oldest (lastUse earlier) order) (hu : ∀ a ∈ order, call.used ≠ some a) :
    Oldest (lastUse (call :: earlier)) order := by
  refine List.Pairwise.imp_of_mem ?_ h
  intro a b ha hb hab
  rw [lastUse_other (hu a ha), lastUse_other (hu b hb)]
  exact hab

/-- **The key that is used goes to the end.** -/
theorem Oldest.use {earlier : List (CacheCall κ τ)} {order : List κ} {call : CacheCall κ τ} {k : κ}
    (h : Oldest (lastUse earlier) order) (hk : k ∉ order) (hu : call.used = some k) :
    Oldest (lastUse (call :: earlier)) (order ++ [k]) := by
  have hother : ∀ a ∈ order, call.used ≠ some a := by
    intro a ha heq
    rw [hu, Option.some.injEq] at heq
    exact hk (heq ▸ ha)
  refine List.pairwise_append.mpr ⟨h.other call hother, List.pairwise_singleton _ _, ?_⟩
  intro a ha b hb
  rw [List.mem_singleton.mp hb, lastUse_used hu, lastUse_other (hother a ha)]
  exact Nat.lt_succ_of_le (lastUse_le earlier a)

omit [DecidableEq κ] in
/-- In an order without duplicates, the members used after `a` are those that stand behind it. -/
theorem later_iff {used : κ → Nat} {front behind : List κ} {a b : κ}
    (h : Oldest used (front ++ a :: behind)) (hb : b ∈ front ++ a :: behind) :
    used a < used b ↔ b ∈ behind := by
  obtain ⟨-, hrest, hcross⟩ := List.pairwise_append.mp h
  obtain ⟨hhead, -⟩ := List.pairwise_cons.mp hrest
  constructor
  · intro hlt
    rcases List.mem_append.mp hb with hfront | hback
    · have hba := hcross b hfront a (List.mem_cons_self ..)
      omega
    · rcases List.mem_cons.mp hback with rfl | hbehind
      · omega
      · exact hbehind
  · exact hhead b

/-- **Dropping from the front of an order drops the keys that too many others were used after.** -/
theorem mem_drop_iff_rivals {has : κ → Option τ} {used : κ → Nat} {order : List κ} {k a : κ}
    (hnodup : order.Nodup) (hold : Oldest used order)
    (hmem : ∀ b, b ∈ order ↔ b ≠ k ∧ (has b).isSome = true) (ha : a ∈ order) (n : Nat) :
    a ∈ order.drop n ↔ (rivals has used k a).ncard + n < order.length := by
  obtain ⟨front, behind, rfl⟩ := List.append_of_mem ha
  have hrivals : rivals has used k a = {b | b ∈ behind} := by
    ext b
    constructor
    · rintro ⟨hne, hsome, hlt⟩
      exact (later_iff hold ((hmem b).mpr ⟨hne, hsome⟩)).mp hlt
    · intro hb
      have hb' : b ∈ front ++ a :: behind :=
        List.mem_append_right _ (List.mem_cons_of_mem _ hb)
      exact ⟨((hmem b).mp hb').1, ((hmem b).mp hb').2, (later_iff hold hb').mpr hb⟩
  have hbehind : behind.Nodup := (List.nodup_cons.mp (List.nodup_append.mp hnodup).2.1).2
  have hcard : (rivals has used k a).ncard = behind.length := by
    rw [hrivals, ← List.coe_toFinset, Set.ncard_coe_finset, List.toFinset_card_of_nodup hbehind]
  have hlen : (front ++ a :: behind).length = front.length + behind.length + 1 := by simp; omega
  rw [hcard, hlen]
  constructor
  · intro hdrop
    by_contra hge
    -- past the front and `a`, the drop leaves part of what stands behind
    have hcut : (front ++ a :: behind).drop n = behind.drop (n - front.length - 1) := by
      rw [List.drop_append, List.drop_of_length_le (by omega), List.nil_append]
      obtain ⟨m, hm⟩ : ∃ m, n - front.length = m + 1 := ⟨n - front.length - 1, by omega⟩
      rw [hm, List.drop_succ_cons, Nat.add_sub_cancel]
    rw [hcut] at hdrop
    have hnot : a ∉ behind := (List.nodup_cons.mp (List.nodup_append.mp hnodup).2.1).1
    exact hnot (List.mem_of_mem_drop hdrop)
  · intro hlt
    rw [List.drop_append_of_le_length (by omega)]
    exact List.mem_append_right _ (List.mem_cons_self ..)

/-- Making room keeps a key exactly when it, the new key and its rivals fit. -/
theorem mem_makeRoom_iff {has : κ → Option τ} {used : κ → Nat} {order : List κ} {k a : κ} (cap : Nat)
    (hnodup : order.Nodup) (hold : Oldest used order)
    (hmem : ∀ b, b ∈ order ↔ b ≠ k ∧ (has b).isSome = true) (ha : a ∈ order) :
    a ∈ makeRoom cap order ↔ (rivals has used k a).ncard + 2 ≤ cap := by
  have hbound := (mem_drop_iff_rivals hnodup hold hmem ha 0).mp (by simpa using ha)
  unfold makeRoom
  rw [mem_drop_iff_rivals hnodup hold hmem ha]
  omega

omit [DecidableEq κ] in
/-- Room is made from the front while the order is full. -/
theorem makeRoom_cons_of_full {cap : Nat} {a : κ} {order : List κ} (hfull : cap ≤ (a :: order).length) :
    makeRoom cap (a :: order) = makeRoom cap order := by
  have hlen : (a :: order).length + 1 - cap = order.length + 1 - cap + 1 := by
    rw [List.length_cons] at hfull ⊢
    omega
  unfold makeRoom
  rw [hlen, List.drop_succ_cons]

omit [DecidableEq κ] in
/-- Where there is room nothing goes. -/
theorem makeRoom_of_lt {cap : Nat} {order : List κ} (h : order.length < cap) :
    makeRoom cap order = order := by
  have hzero : order.length + 1 - cap = 0 := by omega
  unfold makeRoom
  rw [hzero, List.drop_zero]

omit [DecidableEq κ] in
theorem length_makeRoom_lt {cap : Nat} (hcap : 0 < cap) (order : List κ) :
    (makeRoom cap order).length < cap := by
  unfold makeRoom
  rw [List.length_drop]
  omega

end Dstx.Lib
