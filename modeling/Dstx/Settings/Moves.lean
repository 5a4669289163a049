/-
# Dstx.Settings.Moves — what a step of the thread does to the settings, said once.

Seen from the settings, the thread is in one of four places: in the loop that STORES the active profile
into shared memory, in the loop that READS shared memory into the active profile, on the short way from
that loop to the execution of a request, or anywhere else.  `Move` is the inversion of the thread's
step for this view: which settings change, in shared memory and in the active profile, and which
history goes with it.  `threadStep_move` proves it; the laws about the window between reading and
storing (`Settings.Window`) use `Move` and never unfold the thread.
-/
import Dstx.Settings.Mail
import Dstx.Profile.Steps

namespace Dstx

open Dstx.Lib
open Dstx.Lib.Mailbox (Party)

variable {Text ι : Type}

/-! ## The settings of a system -/

namespace Sys

/-- A setting in shared memory. -/
def shared (σ : Sys Text ι) (i : Fin maxSlots) (s : Setting) : UInt8 := (σ.world.shm.slots i).setting s

/-- A setting of the active profile. -/
def active (σ : Sys Text ι) (i : Fin maxSlots) (s : Setting) : UInt8 :=
  (σ.world.pm.activeProfile.slots i).setting s

/-- A setting of the profile that was active before the last load. -/
def previous (σ : Sys Text ι) (i : Fin maxSlots) (s : Setting) : UInt8 := (σ.hist.before i).setting s

end Sys

/-- A loop over `slots` that is at the settings `rest` of the first one still has the setting ahead. -/
def AheadIn (slots : List (Fin maxSlots)) (rest : List Setting) (i : Fin maxSlots) (s : Setting) :
    Prop :=
  match slots with
  | [] => False
  | i₀ :: more => i ∈ more ∨ (i = i₀ ∧ s ∈ rest)

namespace Pc

/-- The thread is in neither of the two loops. -/
def Plain : Pc → Prop
  | .applyLock _ | .apply .. | .sync .. => False
  | _ => True

/-- The thread has read the settings and not yet looked for a request. -/
def Synced : Pc → Prop
  | .syncEnd _ | .loadRequest => True
  | _ => False

/-- The thread has read a request and not yet executed it. -/
def Serving : Pc → Prop
  | .nameLock _ | .nameRead _ | .execute .. => True
  | _ => False

end Pc

/-- The step leaves shared settings and their history alone. -/
structure SameShared (σ σ' : Sys Text ι) : Prop where
  shared : σ'.shared = σ.shared
  touched : σ'.hist.touched = σ.hist.touched
  overwritten : σ'.hist.overwritten = σ.hist.overwritten

/-- The step leaves the active profile and the one before it alone. -/
structure SameActive (σ σ' : Sys Text ι) : Prop where
  active : σ'.active = σ.active
  previous : σ'.previous = σ.previous

/-- Where a step outside of the loops leads: to `Synced` only from `Synced`, and on to the execution
only with the request the thread has just read. -/
structure Onward (σ σ' : Sys Text ι) : Prop where
  synced : σ'.pc.Synced → σ.pc.Synced
  serving : σ'.pc.Serving → σ.pc.Synced ∨ (σ.pc.Serving ∧ σ'.hist.loaded = σ.hist.loaded)

/-- **A step of the thread, as the settings see it.** -/
inductive Move (σ σ' : Sys Text ι) : Prop
  /-- A step outside of the loops. -/
  | plain (hpc : σ.pc.Plain) (hpc' : σ'.pc.Plain) (hs : SameShared σ σ') (ha : σ'.active = σ.active)
      (hon : Onward σ σ')
  /-- The active profile was replaced and is about to be stored. -/
  | replace (k : Cont) (hpc : σ.pc.Plain) (hpc' : σ'.pc = .applyLock k) (hs : SameShared σ σ')
      (hprev : σ'.previous = σ.active)
  | beginStore (k : Cont) (hpc : σ.pc = .applyLock k)
      (hpc' : σ'.pc = .apply (List.finRange maxSlots) storeOrder k) (hs : SameShared σ σ')
      (ha : SameActive σ σ')
  /-- One setting is stored. -/
  | store (i : Fin maxSlots) (more : List (Fin maxSlots)) (s : Setting) (rest : List Setting) (k : Cont)
      (hpc : σ.pc = .apply (i :: more) (s :: rest) k) (hpc' : σ'.pc = .apply (i :: more) rest k)
      (hshared : ∀ j t, σ'.shared j t = if j = i ∧ t = s then σ.active i s else σ.shared j t)
      (htouched : ∀ j t, σ'.hist.touched j t = if j = i ∧ t = s then false else σ.hist.touched j t)
      (hover : σ'.hist.overwritten = σ.hist.overwritten ∨
        (∃ events, k = .reload events) ∧ σ.shared i s ≠ σ.previous i s)
      (ha : SameActive σ σ')
  | storeNext (i : Fin maxSlots) (more : List (Fin maxSlots)) (k : Cont)
      (hpc : σ.pc = .apply (i :: more) [] k) (hpc' : σ'.pc = .apply more storeOrder k)
      (hs : SameShared σ σ') (ha : SameActive σ σ')
  | endStore (rest : List Setting) (k : Cont) (hpc : σ.pc = .apply [] rest k)
      (hpc' : σ'.pc = .autoLock k) (hs : SameShared σ σ') (ha : σ'.active = σ.active)
  | beginRead (hpc : σ.pc = .syncLock)
      (hpc' : σ'.pc = .sync (List.finRange maxSlots) readOrder zeroSlot false)
      (hs : SameShared σ σ') (ha : σ'.active = σ.active)
  /-- One setting is read into `new_cfg`. -/
  | read (i : Fin maxSlots) (more : List (Fin maxSlots)) (s : Setting) (rest : List Setting)
      (newCfg newCfg' : SlotConfig) (changed : Bool)
      (hpc : σ.pc = .sync (i :: more) (s :: rest) newCfg changed)
      (hpc' : σ'.pc = .sync (i :: more) rest newCfg' changed)
      (hnew : ∀ t, newCfg'.setting t = if t = s then σ.shared i s else newCfg.setting t)
      (hshared : σ'.shared = σ.shared)
      (htouched : ∀ j t, σ'.hist.touched j t = if j = i ∧ t = s then false else σ.hist.touched j t)
      (hover : σ'.hist.overwritten = σ.hist.overwritten) (ha : σ'.active = σ.active)
  /-- A slot that was read is copied into the active profile. -/
  | copy (i : Fin maxSlots) (more : List (Fin maxSlots)) (newCfg : SlotConfig) (changed changed' : Bool)
      (hpc : σ.pc = .sync (i :: more) [] newCfg changed)
      (hpc' : σ'.pc = .sync more readOrder newCfg changed') (hs : SameShared σ σ')
      (ha : ∀ j t, σ'.active j t = if j = i then newCfg.setting t else σ.active j t)
  | endRead (rest : List Setting) (newCfg : SlotConfig) (changed : Bool)
      (hpc : σ.pc = .sync [] rest newCfg changed) (hpc' : σ'.pc = .syncEnd changed)
      (hs : SameShared σ σ') (ha : σ'.active = σ.active)

/-! ## Single accesses -/

/-- Replacing one slot of shared memory by one that differs in one setting. -/
theorem shared_setSlot {σ : Sys Text ι} {i : Fin maxSlots} {s : Setting} {ctrl : Controller} {v : UInt8}
    (h : ∀ t, ctrl.setting t = if t = s then v else (σ.world.shm.slots i).setting t)
    (j : Fin maxSlots) (t : Setting) :
    (σ.setShm (σ.world.shm.setSlot i ctrl)).shared j t =
      if j = i ∧ t = s then v else σ.shared j t := by
  show (Function.update σ.world.shm.slots i ctrl j).setting t = _
  by_cases hj : j = i
  · subst hj
    rw [Function.update_self, h]
    simp [Sys.shared]
  · rw [Function.update_of_ne hj, if_neg (fun h => hj h.1)]
    rfl

theorem touched_mark (σ : Sys Text ι) (i : Fin maxSlots) (s : Setting) (b : Bool)
    (j : Fin maxSlots) (t : Setting) :
    (σ.mark i s b).hist.touched j t = if j = i ∧ t = s then b else σ.hist.touched j t := by
  show Function.update σ.hist.touched i (Function.update (σ.hist.touched i) s b) j t = _
  by_cases hj : j = i
  · subst hj
    rw [Function.update_self]
    by_cases ht : t = s
    · subst ht
      rw [Function.update_self, if_pos ⟨rfl, rfl⟩]
    · rw [Function.update_of_ne ht, if_neg (fun h => ht h.2)]
  · rw [Function.update_of_ne hj, if_neg (fun h => hj h.1)]

/-- After the comparison the active slot is what was read, whether it differed or not. -/
theorem copySlot_active (w : World Text) (i : Fin maxSlots) (newCfg : SlotConfig) (changed : Bool)
    (j : Fin maxSlots) (t : Setting) :
    ((copySlot w i newCfg changed).2.pm.activeProfile.slots j).setting t =
      if j = i then newCfg.setting t else (w.pm.activeProfile.slots j).setting t := by
  unfold copySlot
  -- when nothing differs the slot is not copied, and need not be
  split
  · show (Function.update w.pm.activeProfile.slots i newCfg j).setting t = _
    by_cases hj : j = i
    · subst hj
      rw [Function.update_self, if_pos rfl]
    · rw [Function.update_of_ne hj, if_neg hj]
  · rename_i hdiff
    have hsame : w.pm.activeProfile.slots i = newCfg :=
      slotDiffers_eq_false_iff.mp (Bool.eq_false_iff.mpr hdiff)
    by_cases hj : j = i
    · subst hj
      rw [if_pos rfl, hsame]
    · rw [if_neg hj]

variable (J : CJson.Lib Text)

/-- A request replaces the active profile only when it then publishes it. -/
theorem processRequest_slots (w : World Text) (req : Int) (name : CStr) (env : Env Text) :
    (∃ result msg, (processRequest J w req name env).2 = .publish result msg) ∨
      (processRequest J w req name env).1.pm.activeProfile.slots = w.pm.activeProfile.slots := by
  unfold processRequest
  split
  · unfold processLoad
    split
    · exact Or.inl ⟨_, _, rfl⟩
    · rename_i w' heq
      obtain ⟨-, hsame⟩ := unchanged_load J heq
      right
      show w'.pm.activeProfile.slots = _
      rw [hsame.pm]
  split
  · right
    unfold processSave
    split
    all_goals
      rename_i w' heq
      have hslots : w'.pm.activeProfile.slots = w.pm.activeProfile.slots := by
        rcases saved_or_unchanged J heq with ⟨-, -, -, hpm, -⟩ | ⟨-, hsame⟩
        · rw [hpm]
        · rw [hsame.pm]
    · dsimp only
      split <;> exact hslots
    · exact hslots
  split
  · unfold processDelete
    split
    · dsimp only
      split
      · exact Or.inl ⟨_, _, rfl⟩
      · exact Or.inr rfl
    · exact Or.inr rfl
  split
  · exact Or.inr rfl
  split
  · exact Or.inr rfl
  · exact Or.inr rfl

/-- A due auto-save does not change the active settings. -/
theorem profileHandleAutoSave_slots (w : World Text) (env : Env Text) :
    (profileHandleAutoSave J w env).pm.activeProfile.slots = w.pm.activeProfile.slots := by
  rcases autoSave_cases J w env with hsame | ⟨-, -, -, hpm, -⟩
  · rw [hsame.pm]
  · rw [hpm]

theorem syncFlags_slots (changed : Bool) (w : World Text) (env : Env Text) :
    (syncFlags changed w env).pm.activeProfile.slots = w.pm.activeProfile.slots := by
  unfold syncFlags
  split <;> rfl

/-! ## Every step of the thread is a move -/

section Move

variable {σ σ' : Sys Text ι}

/-- A step outside of the loops that changes neither the shared slots nor the active ones. -/
theorem move_plain (w : World Text) (pc : Pc) (hshm : w.shm.slots = σ.world.shm.slots)
    (hpm : w.pm.activeProfile.slots = σ.world.pm.activeProfile.slots) (hpc : σ.pc.Plain)
    (hpc' : pc.Plain) (hsynced : pc.Synced → σ.pc.Synced)
    (hserving : pc.Serving → σ.pc.Synced ∨ σ.pc.Serving) (lock : Option (Party ι)) :
    Move σ { σ.become w pc with lock := lock } := by
  refine .plain hpc hpc' ⟨?_, rfl, rfl⟩ ?_ ⟨hsynced, ?_⟩
  · funext i s
    show (w.shm.slots i).setting s = _
    rw [hshm]
    rfl
  · funext i s
    show (w.pm.activeProfile.slots i).setting s = _
    rw [hpm]
    rfl
  · exact fun h => (hserving h).imp_right fun h => ⟨h, rfl⟩

/-- Taking the mutex outside of the loops. -/
theorem move_acquire {pc : Pc} (h : σ.acquire .server (σ.at_ pc) = some σ') (hpc : σ.pc.Plain)
    (hpc' : pc.Plain) (hsynced : pc.Synced → σ.pc.Synced)
    (hserving : pc.Serving → σ.pc.Synced ∨ σ.pc.Serving) : Move σ σ' := by
  obtain ⟨-, rfl⟩ := acquire_eq_some h
  exact move_plain σ.world pc rfl rfl hpc hpc' hsynced hserving _

/-- A continuation leads out of the loops and away from a request. -/
theorem Cont.next_plain (k : Cont) : k.next.Plain ∧ ¬k.next.Synced ∧ ¬k.next.Serving := by
  cases k <;> exact ⟨trivial, id, id⟩

/-- **Inversion of the thread's step**, for the settings. -/
theorem threadStep_move {env : Env Text} (h : threadStep J env σ = some σ') : Move σ σ' := by
  cases hpc : σ.pc with
  | applyLock k =>
      simp only [threadStep, hpc] at h
      obtain ⟨-, rfl⟩ := acquire_eq_some h
      exact .beginStore k hpc rfl ⟨rfl, rfl, rfl⟩ ⟨rfl, rfl⟩
  | apply slots rest k =>
      cases slots with
      | nil =>
          simp only [threadStep, hpc, Option.some.injEq] at h
          subst h
          exact .endStore rest k hpc rfl ⟨rfl, rfl, rfl⟩ rfl
      | cons i more =>
          cases rest with
          | nil =>
              simp only [threadStep, hpc, Option.some.injEq] at h
              subst h
              refine .storeNext i more k hpc rfl ⟨?_, rfl, rfl⟩ ⟨rfl, rfl⟩
              funext j t
              show (Function.update σ.world.shm.slots i _ j).setting t = _
              by_cases hj : j = i
              · subst hj
                rw [Function.update_self]
                rfl
              · rw [Function.update_of_ne hj]
                rfl
          | cons s rest =>
              simp only [threadStep, hpc, Option.some.injEq] at h
              subst h
              obtain ⟨lost, heq, hlost⟩ := applyCell_spec σ i s k
              rw [heq]
              refine .store i more s rest k hpc rfl ?_ ?_ hlost ⟨rfl, rfl⟩
              · exact shared_setSlot fun t => setting_applySetting _ _ s t
              · exact touched_mark σ i s false
  | autoLock k =>
      simp only [threadStep, hpc] at h
      exact move_acquire h (by rw [hpc]; trivial) trivial False.elim False.elim
  | autoStore k =>
      simp only [threadStep, hpc, Option.some.injEq] at h
      subst h
      cases k with
      | setAuto req msg =>
          exact move_plain (profileSyncAutoSaveToShm σ.world) (.respLock req 1 msg) rfl rfl
            (by rw [hpc]; trivial) trivial False.elim False.elim _
      | _ =>
          exact move_plain (profileSyncAutoSaveToShm σ.world) (.curLock _) rfl rfl
            (by rw [hpc]; trivial) trivial False.elim False.elim _
  | curLock k =>
      simp only [threadStep, hpc] at h
      exact move_acquire h (by rw [hpc]; trivial) trivial False.elim False.elim
  | curStore k =>
      simp only [threadStep, hpc, Option.some.injEq] at h
      subst h
      obtain ⟨hplain, hsynced, hserving⟩ := k.next_plain
      exact move_plain (profileUpdateShmCurrentName σ.world σ.world.pm.activeName) k.next rfl rfl
        (by rw [hpc]; trivial) hplain (fun h => absurd h hsynced) (fun h => absurd h hserving) _
  | syncLock =>
      simp only [threadStep, hpc] at h
      obtain ⟨-, rfl⟩ := acquire_eq_some h
      exact .beginRead hpc rfl ⟨rfl, rfl, rfl⟩ rfl
  | sync slots rest newCfg changed =>
      cases slots with
      | nil =>
          simp only [threadStep, hpc, Option.some.injEq] at h
          subst h
          exact .endRead rest newCfg changed hpc rfl ⟨rfl, rfl, rfl⟩ rfl
      | cons i more =>
          cases rest with
          | nil =>
              simp only [threadStep, hpc, Option.some.injEq] at h
              subst h
              refine .copy i more newCfg changed _ hpc rfl ⟨?_, rfl, rfl⟩ ?_
              · funext j t
                show ((copySlot σ.world i newCfg changed).2.shm.slots j).setting t = _
                rw [copySlot_shm]
                rfl
              · exact copySlot_active σ.world i newCfg changed
          | cons s rest =>
              simp only [threadStep, hpc, Option.some.injEq] at h
              subst h
              exact .read i more s rest newCfg _ changed hpc rfl
                (setting_readSetting (σ.world.shm.slots i) newCfg s) rfl (touched_mark σ i s false) rfl
                rfl
  | syncEnd changed =>
      simp only [threadStep, hpc, Option.some.injEq] at h
      subst h
      exact move_plain _ .loadRequest (congrArg SharedData.slots (syncFlags_shm ..)) (syncFlags_slots ..)
        (by rw [hpc]; trivial) trivial (fun _ => by rw [hpc]; trivial) False.elim _
  | loadRequest =>
      simp only [threadStep, hpc] at h
      split at h
      · cases h
        exact move_plain σ.world .autoSave rfl rfl (by rw [hpc]; trivial) trivial False.elim False.elim _
      · cases h
        exact .plain (by rw [hpc]; trivial) trivial ⟨rfl, rfl, rfl⟩ rfl
          ⟨False.elim, fun _ => Or.inl (by rw [hpc]; trivial)⟩
  | nameLock req =>
      simp only [threadStep, hpc] at h
      exact move_acquire h (by rw [hpc]; trivial) trivial False.elim fun _ => Or.inr (by rw [hpc]; trivial)
  | nameRead req =>
      simp only [threadStep, hpc, Option.some.injEq] at h
      subst h
      exact move_plain σ.world (.execute req _) rfl rfl (by rw [hpc]; trivial) trivial False.elim
        (fun _ => Or.inr (by rw [hpc]; trivial)) _
  | execute req name =>
      have hshm := processRequest_shm J σ.world req name env
      have hslots := processRequest_slots J σ.world req name env
      simp only [threadStep, hpc, Option.some.injEq] at h
      subst h
      cases hr : processRequest J σ.world req name env with
      | mk w out =>
          rw [hr] at hshm hslots
          have hshared : (fun i s => (w.shm.slots i).setting s) = σ.shared := by
            rw [show w.shm = σ.world.shm from hshm]
            rfl
          -- a load, or a delete of the active profile, goes on to store the new profile
          by_cases hpub : ∃ result msg, out = .publish result msg
          · obtain ⟨result, msg, rfl⟩ := hpub
            exact .replace _ (by rw [hpc]; trivial) rfl ⟨hshared, rfl, rfl⟩ rfl
          · have hactive : (fun i s => (w.pm.activeProfile.slots i).setting s) = σ.active := by
              rcases hslots with h | h
              · exact absurd h hpub
              · rw [show w.pm.activeProfile.slots = σ.world.pm.activeProfile.slots from h]
                rfl
            have hout : (out.next req).Plain ∧ ¬(out.next req).Synced ∧ ¬(out.next req).Serving := by
              cases out with
              | publish result msg => exact absurd ⟨result, msg, rfl⟩ hpub
              | _ => exact ⟨trivial, id, id⟩
            exact .plain (by rw [hpc]; trivial) hout.1 ⟨hshared, rfl, rfl⟩ hactive
              ⟨fun h => absurd h hout.2.1, fun h => absurd h hout.2.2⟩
  | listLock req text =>
      simp only [threadStep, hpc] at h
      exact move_acquire h (by rw [hpc]; trivial) trivial False.elim False.elim
  | listStore req text =>
      simp only [threadStep, hpc, Option.some.injEq] at h
      subst h
      exact .plain (by rw [hpc]; trivial) trivial ⟨rfl, rfl, rfl⟩ rfl ⟨False.elim, False.elim⟩
  | loadEnabled req =>
      simp only [threadStep, hpc, Option.some.injEq] at h
      subst h
      exact move_plain σ.world (.loadDelay req _) rfl rfl (by rw [hpc]; trivial) trivial False.elim False.elim _
  | loadDelay req enabled =>
      simp only [threadStep, hpc, Option.some.injEq] at h
      subst h
      exact .plain (by rw [hpc]; trivial) trivial ⟨rfl, rfl, rfl⟩ rfl ⟨False.elim, False.elim⟩
  | respLock req result msg =>
      simp only [threadStep, hpc] at h
      exact move_acquire h (by rw [hpc]; trivial) trivial False.elim False.elim
  | respStore req result msg =>
      simp only [threadStep, hpc, Option.some.injEq] at h
      subst h
      exact .plain (by rw [hpc]; trivial) trivial ⟨rfl, rfl, rfl⟩ rfl ⟨False.elim, False.elim⟩
  | respFinish req msg =>
      simp only [threadStep, hpc, Option.some.injEq] at h
      subst h
      exact .plain (by rw [hpc]; trivial) trivial ⟨rfl, rfl, rfl⟩ rfl ⟨False.elim, False.elim⟩
  | autoSave =>
      simp only [threadStep, hpc, Option.some.injEq] at h
      subst h
      exact move_plain _ .readEvents (congrArg SharedData.slots (profileHandleAutoSave_shm ..))
        (profileHandleAutoSave_slots ..) (by rw [hpc]; trivial) trivial False.elim False.elim _
  | readEvents =>
      simp only [threadStep, hpc] at h
      split at h
      · cases h
        exact move_plain σ.world .syncLock rfl rfl (by rw [hpc]; trivial) trivial False.elim False.elim _
      · cases h
        exact move_plain σ.world (.events _) rfl rfl (by rw [hpc]; trivial) trivial False.elim False.elim _
  | events rest =>
      cases rest with
      | nil =>
          simp only [threadStep, hpc, Option.some.injEq] at h
          subst h
          exact move_plain σ.world .syncLock rfl rfl (by rw [hpc]; trivial) trivial False.elim False.elim _
      | cons event rest =>
          cases event with
          | ignored =>
              simp only [threadStep, hpc, Option.some.injEq] at h
              subst h
              exact move_plain σ.world (.events rest) rfl rfl (by rw [hpc]; trivial) trivial False.elim False.elim _
          | modify =>
              have hshm := loadProfileFromDisk_shm J σ.world σ.world.pm.activeName
              simp only [threadStep, hpc] at h
              split at h
              · cases h
                exact move_plain σ.world (.events rest) rfl rfl (by rw [hpc]; trivial) trivial False.elim False.elim _
              · split at h
                · rename_i w' heq
                  rw [heq] at hshm
                  cases h
                  have hshared : (fun i s => (w'.shm.slots i).setting s) = σ.shared := by
                    rw [show w'.shm = σ.world.shm from hshm]
                    rfl
                  exact .replace _ (by rw [hpc]; trivial) rfl ⟨hshared, rfl, rfl⟩ rfl
                · rename_i w' heq
                  rw [heq] at hshm
                  obtain ⟨-, hsame⟩ := unchanged_load J heq
                  cases h
                  exact move_plain w' (.events rest) (congrArg SharedData.slots hshm) (by rw [hsame.pm])
                    (by rw [hpc]; trivial) trivial False.elim False.elim _

end Move

end Dstx
