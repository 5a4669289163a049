/-
# Dstx.Profile.Sync — what `profile_sync_shm_to_active` does, exactly.

A sync copies every shared slot that differs into the active profile and, when there was one, marks
the profile dirty as of now.  Afterwards the profile is `InSync`: every shared slot reads as the active
profile has it.  And a sync leaves `profile_dirty` and `last_change` alone, whatever the clock reads,
if and only if the profile was in sync before.
-/
import Dstx.Profile.Manager

namespace Dstx

variable {Text : Type}

/-- Every shared slot reads as the active profile has it. -/
def InSync (w : World Text) : Prop :=
  ∀ i, controllerToSlotConfig (w.shm.slots i) = w.pm.activeProfile.slots i

/-- A sync changes neither `profile_dirty` nor `last_change`, whatever the clock reads. -/
def SyncKeepsFlags (w : World Text) : Prop :=
  ∀ env, (profileSyncShmToActive w env).pm.profileDirty = w.pm.profileDirty ∧
    (profileSyncShmToActive w env).pm.lastChange = w.pm.lastChange

/-- The loop reports no change exactly when every slot it visits is in sync. -/
theorem foldl_syncSlot_fst_iff (l : List (Fin maxSlots)) (s : Bool × World Text) :
    (l.foldl (fun s i => syncSlot i s) s).1 = false ↔
      s.1 = false ∧
        ∀ i ∈ l, controllerToSlotConfig (s.2.shm.slots i) = s.2.pm.activeProfile.slots i := by
  induction l generalizing s with
  | nil => simp
  | cons i l ih =>
      rw [List.foldl_cons, ih]
      cases hd : slotDiffers (s.2.pm.activeProfile.slots i)
          (controllerToSlotConfig (s.2.shm.slots i)) with
      | false =>
          have hstep : syncSlot i s = s := by simp [syncSlot, hd]
          have hin := slotDiffers_eq_false_iff.mp hd
          rw [hstep]
          simp [hin]
      | true =>
          have hflag : (syncSlot i s).1 = true := by simp [syncSlot, hd]
          have hout : controllerToSlotConfig (s.2.shm.slots i) ≠ s.2.pm.activeProfile.slots i := by
            intro h
            have := slotDiffers_eq_false_iff.mpr h.symm
            rw [hd] at this
            cases this
          simp [hflag, hout]

/-- The loop leaves the shared slots alone and brings every slot it visits into sync. -/
theorem foldl_syncSlot_slots (l : List (Fin maxSlots)) (s : Bool × World Text) :
    (l.foldl (fun s i => syncSlot i s) s).2.shm = s.2.shm ∧
      ∀ i, (l.foldl (fun s i => syncSlot i s) s).2.pm.activeProfile.slots i =
        if i ∈ l then controllerToSlotConfig (s.2.shm.slots i)
        else s.2.pm.activeProfile.slots i := by
  induction l generalizing s with
  | nil => simp
  | cons j l ih =>
      have hstep : (syncSlot j s).2.shm = s.2.shm ∧
          ∀ i, (syncSlot j s).2.pm.activeProfile.slots i =
            if i = j then controllerToSlotConfig (s.2.shm.slots i)
            else s.2.pm.activeProfile.slots i := by
        unfold syncSlot
        dsimp only
        split
        · refine ⟨rfl, fun i => ?_⟩
          by_cases hij : i = j
          · subst hij
            simp
          · simp [hij]
        · rename_i hsame
          refine ⟨rfl, fun i => ?_⟩
          have heq := slotDiffers_eq_false_iff.mp (Bool.eq_false_iff.mpr hsame)
          by_cases hij : i = j
          · subst hij
            simp [heq]
          · simp [hij]
      obtain ⟨hshm, hslots⟩ := ih (syncSlot j s)
      rw [List.foldl_cons]
      refine ⟨hshm.trans hstep.1, fun i => ?_⟩
      rw [hslots i, hstep.1, hstep.2 i]
      by_cases hil : i ∈ l
      · simp [hil]
      · by_cases hij : i = j <;> simp [hil, hij]

/-- A sync brings the profile into sync. -/
theorem inSync_sync (w : World Text) (env : Env Text) : InSync (profileSyncShmToActive w env) := by
  obtain ⟨hshm, hslots⟩ := foldl_syncSlot_slots (List.finRange maxSlots) (false, w)
  unfold profileSyncShmToActive
  cases hr : (List.finRange maxSlots).foldl (fun s i => syncSlot i s) (false, w) with
  | mk changed w' =>
      rw [hr] at hshm hslots
      dsimp only at hshm hslots ⊢
      have hin : InSync w' := by
        intro i
        rw [hshm, hslots i]
        simp
      cases changed <;> simpa [syncFlags, InSync] using hin

/-- **A sync leaves the flags alone exactly when the profile is in sync.** -/
theorem syncKeepsFlags_iff (w : World Text) : SyncKeepsFlags w ↔ InSync w := by
  have hflag := foldl_syncSlot_fst_iff (List.finRange maxSlots) (false, w)
  obtain ⟨-, hkeep⟩ := foldl_syncSlot_spec (List.finRange maxSlots) (false, w)
  simp only [List.mem_finRange, true_imp_iff, true_and] at hflag
  constructor
  · intro h
    by_contra hout
    -- a clock reading that differs from `last_change` makes the change visible
    have htv := (h ⟨⟨w.pm.lastChange.sec + 1, 0⟩, 0, .ok, [], []⟩).2
    have htrue : ((List.finRange maxSlots).foldl (fun s i => syncSlot i s) (false, w)).1 = true := by
      rw [← Bool.not_eq_false, hflag]
      exact hout
    unfold profileSyncShmToActive at htv
    simp only [htrue, syncFlags, if_true] at htv
    have hsec := congrArg Timeval.sec htv
    dsimp only at hsec
    omega
  · intro hin env
    have hfalse := hflag.mpr hin
    have hsame : profileSyncShmToActive w env = w := by
      unfold profileSyncShmToActive
      rw [hkeep hfalse]
      rfl
    rw [hsame]
    exact ⟨rfl, rfl⟩

end Dstx
