/-
# Dstx.Gui.TextureCache — the texture cache of the GUI (`texture-cache-manager.vala`).

`TextureCacheManager` keeps two structures: `cache`, a hash table from keys to textures, and
`access_order`, the list of keys by last use, oldest first.  Six operations change them, each on its
own.  The hash table is an association list without duplicate keys; the order in which
`cache.get_keys()` enumerates it is unspecified, so a call of `invalidate_by_prefix` carries the
enumeration it saw, which may be any permutation of the keys.

`Tracks history m` says what the two structures are after a history: they hold the same keys, at most
`MAX_CACHE_SIZE`, ordered by last use, with the values that `Lib.held` reads off the history.  Every
operation keeps it, so it holds after every sequence of calls.
-/
import Dstx.Lib.Fs
import Dstx.Lib.Lru
import Dstx.Lib.Run
import Mathlib.Data.List.AList

namespace Dstx

open Dstx.Lib

/-- `MAX_CACHE_SIZE`. -/
def maxCacheSize : Nat := 10

/-- **`TextureCacheManager`**. -/
structure TextureCacheManager (Texture : Type) where
  cache : AList fun _ : CStr => Texture
  accessOrder : List CStr

namespace TextureCacheManager

variable {Texture : Type}

/-- The manager right after its constructor. -/
def new : TextureCacheManager Texture where
  cache := ∅
  accessOrder := []

/-- `get`. -/
def get (m : TextureCacheManager Texture) (key : CStr) : Option Texture × TextureCacheManager Texture :=
  if key ∈ m.cache then
    (m.cache.lookup key, { m with accessOrder := m.accessOrder.erase key ++ [key] })
  else (none, m)

/-- The removal of a key from both structures. -/
def forget (m : TextureCacheManager Texture) (key : CStr) : TextureCacheManager Texture where
  cache := m.cache.erase key
  accessOrder := m.accessOrder.erase key

/-- The eviction loop of `put`: while there are `MAX_CACHE_SIZE` keys or more, the first one goes. -/
def evict : List CStr → (AList fun _ : CStr => Texture) → TextureCacheManager Texture
  | [], cache => { cache := cache, accessOrder := [] }
  | oldest :: rest, cache =>
      if (oldest :: rest).length ≥ maxCacheSize then evict rest (cache.erase oldest)
      else { cache := cache, accessOrder := oldest :: rest }

/-- **`put`** — replace, make room, add. -/
def put (m : TextureCacheManager Texture) (key : CStr) (texture : Texture) :
    TextureCacheManager Texture :=
  let m₁ := if key ∈ m.cache then m.forget key else m
  let m₂ := evict m₁.accessOrder m₁.cache
  { cache := m₂.cache.insert key texture, accessOrder := m₂.accessOrder ++ [key] }

/-- `remove`. -/
def remove (m : TextureCacheManager Texture) (key : CStr) : TextureCacheManager Texture :=
  if key ∈ m.cache then m.forget key else m

/-- `invalidate_by_prefix`; `keys` is what `cache.get_keys()` enumerates. -/
def invalidateByPrefix (m : TextureCacheManager Texture) (pre : CStr) (keys : List CStr) :
    TextureCacheManager Texture :=
  (keys.filter fun key => pre.isPrefixOf key).foldl forget m

/-- `clear`, and `invalidate_all`, which only calls it. -/
def clear (_ : TextureCacheManager Texture) : TextureCacheManager Texture := new

end TextureCacheManager

/-- A call of the manager, with the enumeration of the keys where the call makes one. -/
inductive TextureCall (Texture : Type) where
  | get (key : CStr)
  | put (key : CStr) (texture : Texture)
  | remove (key : CStr)
  | invalidateByPrefix (pre : CStr) (keys : List CStr)
  | clear

section

variable {Texture : Type}

/-- **One call.**  The enumeration of a hash table is a permutation of its keys. -/
def textureStep (call : TextureCall Texture) (m : TextureCacheManager Texture) :
    Option (TextureCacheManager Texture) :=
  match call with
  | .get key => some (m.get key).2
  | .put key texture => some (m.put key texture)
  | .remove key => some (m.remove key)
  | .invalidateByPrefix pre keys =>
      if keys.Perm m.cache.keys then some (m.invalidateByPrefix pre keys) else none
  | .clear => some m.clear

/-- What a call says to the abstract cache. -/
def TextureCall.toCacheCall : TextureCall Texture → CacheCall CStr Texture
  | .get key => .get key
  | .put key texture => .put key texture
  | .remove key => .remove key
  | .invalidateByPrefix pre _ => .invalidate pre.isPrefixOf
  | .clear => .clear

/-- The history a list of calls leaves, newest first. -/
def textureHistory (calls : List (TextureCall Texture)) : List (CacheCall CStr Texture) :=
  (calls.map TextureCall.toCacheCall).reverse

/-! ## The invariant -/

/-- **The manager holds what the history says**, in both structures. -/
structure Tracks (history : List (CacheCall CStr Texture)) (m : TextureCacheManager Texture) : Prop where
  nodup : m.accessOrder.Nodup
  same : ∀ key, key ∈ m.accessOrder ↔ key ∈ m.cache
  bound : m.accessOrder.length ≤ maxCacheSize
  oldest : Oldest (lastUse history) m.accessOrder
  value : ∀ key, m.cache.lookup key = held maxCacheSize history key

theorem Tracks.mem_iff {history : List (CacheCall CStr Texture)} {m : TextureCacheManager Texture}
    (h : Tracks history m) (key : CStr) :
    key ∈ m.accessOrder ↔ (held maxCacheSize history key).isSome = true := by
  rw [h.same, ← h.value, AList.lookup_isSome]

theorem tracks_new : Tracks ([] : List (CacheCall CStr Texture)) .new where
  nodup := List.nodup_nil
  same := by simp [TextureCacheManager.new]
  bound := Nat.zero_le _
  oldest := List.Pairwise.nil
  value := fun _ => rfl

/-! ## The pieces of the operations -/

namespace TextureCacheManager

/-- Both structures hold the same keys, the list without duplicates. -/
structure Agrees (m : TextureCacheManager Texture) : Prop where
  nodup : m.accessOrder.Nodup
  same : ∀ key, key ∈ m.accessOrder ↔ key ∈ m.cache

theorem Agrees.forget {m : TextureCacheManager Texture} (h : m.Agrees) (key : CStr) :
    (m.forget key).Agrees where
  nodup := h.nodup.erase key
  same := by
    intro a
    show a ∈ m.accessOrder.erase key ↔ a ∈ m.cache.erase key
    rw [h.nodup.mem_erase_iff, AList.mem_erase, h.same]

theorem Agrees.erase_of_not_mem {m : TextureCacheManager Texture} (h : m.Agrees) {key : CStr}
    (hk : key ∉ m.cache) : m.accessOrder.erase key = m.accessOrder :=
  List.erase_of_not_mem fun hmem => hk ((h.same key).mp hmem)

/-- **The eviction loop** leaves the order that room is made in, and the values of the keys in it. -/
theorem evict_spec : ∀ (order : List CStr) (cache : AList fun _ : CStr => Texture), order.Nodup →
    (∀ key, key ∈ order ↔ key ∈ cache) →
    (evict order cache).accessOrder = makeRoom maxCacheSize order ∧
      ∀ key, (evict order cache).cache.lookup key =
        if key ∈ makeRoom maxCacheSize order then cache.lookup key else none
  | [], cache, _, hsame => by
      refine ⟨rfl, fun key => ?_⟩
      have hnone : cache.lookup key = none :=
        AList.lookup_eq_none.mpr fun hmem => List.not_mem_nil ((hsame key).mpr hmem)
      show cache.lookup key = _
      rw [hnone, ite_self]
  | oldest :: rest, cache, hnodup, hsame => by
      obtain ⟨hout, hrest⟩ := List.nodup_cons.mp hnodup
      unfold evict
      split
      · rename_i hfull
        have hsame' : ∀ key, key ∈ rest ↔ key ∈ cache.erase oldest := by
          intro key
          rw [AList.mem_erase, ← hsame, List.mem_cons]
          constructor
          · intro hmem
            exact ⟨fun heq => hout (heq ▸ hmem), Or.inr hmem⟩
          · rintro ⟨hne, rfl | hmem⟩
            · exact absurd rfl hne
            · exact hmem
        obtain ⟨horder, hlookup⟩ := evict_spec rest (cache.erase oldest) hrest hsame'
        rw [makeRoom_cons_of_full hfull]
        refine ⟨horder, fun key => ?_⟩
        rw [hlookup]
        split
        · rename_i hmem
          have hne : key ≠ oldest := fun heq => hout (heq ▸ List.mem_of_mem_drop hmem)
          exact AList.lookup_erase_ne hne
        · rfl
      · rename_i hroomy
        rw [makeRoom_of_lt (Nat.lt_of_not_le hroomy)]
        refine ⟨rfl, fun key => ?_⟩
        split
        · rfl
        · rename_i hmem
          exact AList.lookup_eq_none.mpr fun h => hmem ((hsame key).mpr h)

/-- **What `put` does**: the other keys make room, then the key comes last. -/
theorem put_spec {m : TextureCacheManager Texture} (h : m.Agrees) (key : CStr) (texture : Texture) :
    (m.put key texture).accessOrder = makeRoom maxCacheSize (m.accessOrder.erase key) ++ [key] ∧
      ∀ a, (m.put key texture).cache.lookup a =
        if a = key then some texture
        else if a ∈ makeRoom maxCacheSize (m.accessOrder.erase key) then m.cache.lookup a
        else none := by
  -- whether or not the key was there, it is now in neither structure
  have hout : ∃ m₁ : TextureCacheManager Texture, m₁.Agrees ∧
      m₁.accessOrder = m.accessOrder.erase key ∧ (∀ a, a ≠ key → m₁.cache.lookup a = m.cache.lookup a) ∧
      m.put key texture =
        { cache := (evict m₁.accessOrder m₁.cache).cache.insert key texture,
          accessOrder := (evict m₁.accessOrder m₁.cache).accessOrder ++ [key] } := by
    by_cases hk : key ∈ m.cache
    · refine ⟨m.forget key, h.forget key, rfl, fun a ha => AList.lookup_erase_ne ha, ?_⟩
      unfold put
      rw [if_pos hk]
    · refine ⟨m, h, (h.erase_of_not_mem hk).symm, fun a _ => rfl, ?_⟩
      unfold put
      rw [if_neg hk]
  obtain ⟨m₁, h₁, horder, hlookup, hput⟩ := hout
  obtain ⟨hevict, hvalues⟩ := evict_spec m₁.accessOrder m₁.cache h₁.nodup h₁.same
  rw [hput, ← horder]
  refine ⟨congrArg (· ++ [key]) hevict, fun a => ?_⟩
  by_cases ha : a = key
  · subst ha
    rw [if_pos rfl]
    exact AList.lookup_insert _
  · rw [if_neg ha]
    refine (AList.lookup_insert_ne ha).trans ?_
    rw [hvalues, hlookup a ha]

/-- Forgetting a list of keys, one by one. -/
theorem foldl_forget_spec (gone : List CStr) (m : TextureCacheManager Texture) (h : m.Agrees) :
    (gone.foldl forget m).Agrees ∧ (gone.foldl forget m).accessOrder.Sublist m.accessOrder ∧
      ∀ a, (gone.foldl forget m).cache.lookup a = if a ∈ gone then none else m.cache.lookup a := by
  induction gone generalizing m with
  | nil => exact ⟨h, List.Sublist.refl _, fun a => by simp⟩
  | cons key gone ih =>
      obtain ⟨hagrees, hsub, hlookup⟩ := ih (m.forget key) (h.forget key)
      refine ⟨hagrees, hsub.trans List.erase_sublist, fun a => ?_⟩
      rw [List.foldl_cons, hlookup]
      by_cases hgone : a ∈ gone
      · simp [hgone]
      · by_cases ha : a = key
        · subst ha
          simp [hgone, forget]
        · simp [hgone, ha, forget, AList.lookup_erase_ne ha]

end TextureCacheManager

/-! ## One call -/

theorem Tracks.agrees {history : List (CacheCall CStr Texture)} {m : TextureCacheManager Texture}
    (h : Tracks history m) : m.Agrees := ⟨h.nodup, h.same⟩

/-- A call that only takes keys away: the order shrinks, the remaining values stay. -/
theorem Tracks.shrink {history : List (CacheCall CStr Texture)} {m m' : TextureCacheManager Texture}
    (h : Tracks history m) (call : CacheCall CStr Texture) (hu : call.used = none) (ha : m'.Agrees)
    (hsub : m'.accessOrder.Sublist m.accessOrder)
    (hvalue : ∀ key, m'.cache.lookup key = held maxCacheSize (call :: history) key) :
    Tracks (call :: history) m' where
  nodup := ha.nodup
  same := ha.same
  bound := hsub.length_le.trans h.bound
  oldest := (h.oldest.sublist hsub).other call fun a _ => by simp [hu]
  value := hvalue

theorem Tracks.get {history : List (CacheCall CStr Texture)} {m : TextureCacheManager Texture}
    (h : Tracks history m) (key : CStr) : Tracks (.get key :: history) (m.get key).2 := by
  unfold TextureCacheManager.get
  split
  · rename_i hk
    have hmem : key ∈ m.accessOrder := (h.same key).mpr hk
    have hnot : key ∉ m.accessOrder.erase key := h.nodup.not_mem_erase
    have hperm : (m.accessOrder.erase key ++ [key]).Perm m.accessOrder :=
      (List.perm_append_singleton key _).trans (List.perm_cons_erase hmem).symm
    exact
      { nodup := hperm.nodup_iff.mpr h.nodup
        same := fun a => hperm.mem_iff.trans (h.same a)
        bound := hperm.length_eq.le.trans h.bound
        oldest := (h.oldest.sublist List.erase_sublist).use hnot rfl
        value := h.value }
  · rename_i hk
    have hout : ∀ a ∈ m.accessOrder, (CacheCall.get key : CacheCall CStr Texture).used ≠ some a := by
      intro a ha heq
      have hka : key = a := Option.some.inj heq
      exact hk ((h.same key).mp (hka ▸ ha))
    exact
      { nodup := h.nodup
        same := h.same
        bound := h.bound
        oldest := h.oldest.other _ hout
        value := h.value }

theorem Tracks.put {history : List (CacheCall CStr Texture)} {m : TextureCacheManager Texture}
    (h : Tracks history m) (key : CStr) (texture : Texture) :
    Tracks (.put key texture :: history) (m.put key texture) := by
  obtain ⟨horder, hlookup⟩ := TextureCacheManager.put_spec h.agrees key texture
  have hothers : ∀ a, a ∈ m.accessOrder.erase key ↔
      a ≠ key ∧ (held maxCacheSize history a).isSome = true := by
    intro a
    rw [h.nodup.mem_erase_iff, h.mem_iff]
  have hold := h.oldest.sublist (List.erase_sublist (l := m.accessOrder) (a := key))
  have hnodup : (m.accessOrder.erase key).Nodup := h.nodup.erase key
  have hkept : (makeRoom maxCacheSize (m.accessOrder.erase key)).Sublist (m.accessOrder.erase key) :=
    List.drop_sublist _ _
  have hnot : key ∉ makeRoom maxCacheSize (m.accessOrder.erase key) := fun hmem =>
    h.nodup.not_mem_erase (hkept.subset hmem)
  have hvalue : ∀ a, (m.put key texture).cache.lookup a =
      held maxCacheSize (.put key texture :: history) a := by
    intro a
    rw [hlookup, held]
    by_cases ha : a = key
    · rw [if_pos ha, if_pos ha]
    · rw [if_neg ha, if_neg ha]
      by_cases hin : a ∈ m.accessOrder.erase key
      · rw [← h.value a, if_congr (mem_makeRoom_iff maxCacheSize hnodup hold hothers hin) rfl rfl]
      · -- neither order nor table has the key: both sides are `none`
        have hnone : held maxCacheSize history a = none := by
          have hsome : ¬(held maxCacheSize history a).isSome = true := fun hs => hin ((hothers a).mpr ⟨ha, hs⟩)
          simpa using hsome
        rw [h.value a, hnone, ite_self, ite_self]
  have hsame : ∀ a, a ∈ (m.put key texture).accessOrder ↔ a ∈ (m.put key texture).cache := by
    intro a
    rw [← AList.lookup_isSome, hlookup, horder, List.mem_append, List.mem_singleton]
    by_cases ha : a = key
    · simp [ha]
    · rw [if_neg ha]
      constructor
      · rintro (hmem | heq)
        · rw [if_pos hmem, AList.lookup_isSome, ← h.same]
          exact List.mem_of_mem_erase (hkept.subset hmem)
        · exact absurd heq ha
      · intro hsome
        split at hsome
        · rename_i hmem
          exact Or.inl hmem
        · cases hsome
  refine ⟨?_, hsame, ?_, ?_, hvalue⟩
  · rw [horder]
    exact (List.perm_append_singleton key _).nodup_iff.mpr
      (List.nodup_cons.mpr ⟨hnot, hkept.nodup hnodup⟩)
  · rw [horder, List.length_append, List.length_singleton]
    exact length_makeRoom_lt (by decide) _
  · rw [horder]
    exact (hold.sublist hkept).use hnot rfl

theorem Tracks.forget {history : List (CacheCall CStr Texture)} {m : TextureCacheManager Texture}
    (h : Tracks history m) (key : CStr) : Tracks (.remove key :: history) (m.remove key) := by
  unfold TextureCacheManager.remove
  split
  · refine h.shrink _ rfl (h.agrees.forget key) List.erase_sublist fun a => ?_
    rw [held, ← h.value]
    split
    · rename_i ha
      rw [ha]
      exact AList.lookup_erase key m.cache
    · rename_i ha
      exact AList.lookup_erase_ne ha
  · rename_i hk
    refine h.shrink _ rfl h.agrees (List.Sublist.refl _) fun a => ?_
    rw [held, ← h.value]
    split
    · rename_i ha
      rw [ha]
      exact AList.lookup_eq_none.mpr hk
    · rfl

theorem Tracks.invalidateByPrefix {history : List (CacheCall CStr Texture)}
    {m : TextureCacheManager Texture} (h : Tracks history m) (pre : CStr) {keys : List CStr}
    (hkeys : keys.Perm m.cache.keys) :
    Tracks (.invalidate pre.isPrefixOf :: history) (m.invalidateByPrefix pre keys) := by
  obtain ⟨hagrees, hsub, hlookup⟩ := TextureCacheManager.foldl_forget_spec
    (keys.filter fun key => pre.isPrefixOf key) m h.agrees
  refine h.shrink _ rfl hagrees hsub fun a => ?_
  refine (hlookup a).trans ?_
  rw [held, ← h.value]
  by_cases hp : pre.isPrefixOf a = true
  · rw [if_pos hp]
    split
    · rfl
    · rename_i hnot
      apply AList.lookup_eq_none.mpr
      intro hmem
      exact hnot (List.mem_filter.mpr ⟨hkeys.mem_iff.mpr (AList.mem_keys.mp hmem), hp⟩)
  · rw [if_neg hp, if_neg fun hmem => hp (List.mem_filter.mp hmem).2]

theorem tracks_clear (history : List (CacheCall CStr Texture)) (m : TextureCacheManager Texture) :
    Tracks (.clear :: history) m.clear where
  nodup := List.nodup_nil
  same := tracks_new.same
  bound := Nat.zero_le _
  oldest := List.Pairwise.nil
  value := fun _ => rfl

/-- **The step lemma**: every call keeps the manager in step with its history. -/
theorem Tracks.step {history : List (CacheCall CStr Texture)} {m m' : TextureCacheManager Texture}
    (h : Tracks history m) (call : TextureCall Texture) (hs : textureStep call m = some m') :
    Tracks (call.toCacheCall :: history) m' := by
  cases call with
  | get key =>
      cases hs
      exact h.get key
  | put key texture =>
      cases hs
      exact h.put key texture
  | remove key =>
      cases hs
      exact h.forget key
  | invalidateByPrefix pre keys =>
      simp only [textureStep] at hs
      split at hs
      · rename_i hkeys
        cases hs
        exact h.invalidateByPrefix pre hkeys
      · cases hs
  | clear =>
      cases hs
      exact tracks_clear history m

/-- **The run lemma**: after every sequence of calls. -/
theorem Tracks.exec : ∀ (calls : List (TextureCall Texture)) {history : List (CacheCall CStr Texture)}
    {m m' : TextureCacheManager Texture}, Tracks history m → Lib.exec textureStep calls m = some m' →
    Tracks (textureHistory calls ++ history) m'
  | [], _, _, _, h, hs => by
      cases hs
      exact h
  | call :: calls, history, m, m', h, hs => by
      simp only [Lib.exec, Option.bind_eq_some_iff] at hs
      obtain ⟨m₁, hm₁, hrest⟩ := hs
      have hrun := Tracks.exec calls (h.step call hm₁) hrest
      have hhist : textureHistory (call :: calls) ++ history =
          textureHistory calls ++ (call.toCacheCall :: history) := by
        simp [textureHistory]
      rw [hhist]
      exact hrun

/-- **The texture cache is a least-recently-used cache.**  After every sequence of calls the two
structures hold the same keys, without duplicates, at most `MAX_CACHE_SIZE`, in the order of last use; a
`put` drops the first `length + 1 - MAX_CACHE_SIZE` of the OTHER keys and nothing else; and a `get`
returns what the history holds for the key. -/
theorem textureCache_lru (calls : List (TextureCall Texture)) (m : TextureCacheManager Texture)
    (h : Lib.exec textureStep calls .new = some m) :
    m.accessOrder.Nodup ∧ (∀ key, key ∈ m.accessOrder ↔ key ∈ m.cache) ∧
      m.accessOrder.length ≤ maxCacheSize ∧ Oldest (lastUse (textureHistory calls)) m.accessOrder ∧
      (∀ key texture, (m.put key texture).accessOrder =
        (m.accessOrder.erase key).drop ((m.accessOrder.erase key).length + 1 - maxCacheSize) ++ [key]) ∧
      ∀ key, (m.get key).1 = held maxCacheSize (textureHistory calls) key := by
  have htracks : Tracks (textureHistory calls) m := by
    have hrun := tracks_new.exec calls h
    rwa [List.append_nil] at hrun
  refine ⟨htracks.nodup, htracks.same, htracks.bound, htracks.oldest, ?_, fun key => ?_⟩
  · intro key texture
    exact (TextureCacheManager.put_spec htracks.agrees key texture).1
  · rw [← htracks.value]
    unfold TextureCacheManager.get
    split
    · rfl
    · rename_i hk
      exact (AList.lookup_eq_none.mpr hk).symm

/-- Ten textures fill the cache; the oldest is asked for again, two more are stored, and then one theme's is
invalidated and another removed. -/
def crowdedCalls : List (TextureCall Nat) :=
  "abcdefghij".toList.map (fun c => .put [c] c.toNat) ++
    [.get "a".toList, .put "dark:k".toList 1, .put "l".toList 2,
      .invalidateByPrefix "dark:".toList ("dark:k".toList :: "defghijal".toList.map fun c => [c]),
      .remove "d".toList]

/-- The two stores drop `b` and `c`, which the history holds no more; `a`, asked for in between, stays. -/
theorem textureCache_lru_crowded :
    (reached textureStep crowdedCalls .new).accessOrder = "efghijal".toList.map (fun c => [c]) ∧
      held maxCacheSize (textureHistory crowdedCalls) "b".toList = none ∧
      held maxCacheSize (textureHistory crowdedCalls) "a".toList = some 97 := by
  have hall := textureCache_lru crowdedCalls (reached textureStep crowdedCalls .new)
    (eq_some_getD (by decide +kernel))
  obtain ⟨-, -, -, -, -, hget⟩ := hall
  refine ⟨by decide +kernel, ?_, ?_⟩
  · rw [← hget]
    decide +kernel
  · rw [← hget]
    decide +kernel

end

end Dstx
