/-
# Dstx.Profile.Ranges — the documented ranges of the settings, through the settings thread.

`Controller.InRange` is the documented range of every shared setting that has one.  The reader of the
profile files enforces the same ranges (`loadSlot_inRange`), so the settings thread passes only
in-range values on IF it starts with them.

Nothing in that argument is about these ranges: it is made once, for any property of the settings that
saving, restoring and reading keep (`SettingRange`).  Syncing, loading, deleting, reloading and publishing
then keep `WorldKeeps`.  At start-up the active slots are all zero, a speed of 0 among them, so the ranges
hold after start-up when the `Default` file, if it is accepted, has an element for every slot; a property
of the zero slot holds in any case.
-/
import Dstx.Profile.Sync
import Dstx.Profile.Consistency

namespace Dstx

open Dstx.Lib

/-! ## The ranges -/

/-- **Every shared setting is in its documented range.** -/
structure Controller.InRange (c : Controller) : Prop where
  rumbleGain : c.rumbleGain ≤ 100
  deadzone : c.deadzone ≤ 100
  globalLedBrightness : c.globalLedBrightness ≤ 100
  ledRequestBrightness : c.ledRequestBrightness ≤ 100
  sensitivityLeftPreset : c.sensitivityLeftPreset.toNat < sensPresetCount
  sensitivityRightPreset : c.sensitivityRightPreset.toNat < sensPresetCount
  playerLeds : c.playerLeds ≤ 5
  ledRequestEffect : 0 ≤ c.ledRequestEffect ∧ c.ledRequestEffect < ledfxCount
  ledRequestSpeed : 1 ≤ c.ledRequestSpeed ∧ c.ledRequestSpeed ≤ 10
  keymap : ∀ k, (c.keymap k).toNat < logicalBtnCount

theorem le_ofNat_iff {b : UInt8} {n : Nat} (hn : n < 256) :
    b ≤ UInt8.ofNat n ↔ b.toNat < n + 1 := by
  rw [UInt8.le_iff_toNat_le, UInt8.toNat_ofNat_of_lt' (by exact hn)]
  omega

/-- What is saved of an in-range controller is in the reader's ranges. -/
theorem Controller.InRange.config {c : Controller} (h : c.InRange) :
    (controllerToSlotConfig c).InRange where
  rumbleGain := h.rumbleGain
  deadzone := h.deadzone
  globalLedBrightness := h.globalLedBrightness
  playerLeds := h.playerLeds
  sensitivityLeftPreset := (le_ofNat_iff (n := 7) (by decide)).mpr h.sensitivityLeftPreset
  sensitivityRightPreset := (le_ofNat_iff (n := 7) (by decide)).mpr h.sensitivityRightPreset
  ledEffect := by
    have heffect : c.ledRequestEffect < 9 := h.ledRequestEffect.2
    refine toU8_le h.ledRequestEffect.1 ?_
    show c.ledRequestEffect ≤ 8
    omega
  ledEffectSpeed := h.ledRequestSpeed
  ledEffectBrightness := h.ledRequestBrightness
  keymap := fun k => (le_ofNat_iff (n := 18) (by decide)).mpr (h.keymap k)

/-- What is restored from an in-range configuration is in range, whatever the controller held. -/
theorem SlotConfig.InRange.controller {cfg : SlotConfig} (h : cfg.InRange) (c : Controller) :
    (slotConfigToController cfg c).InRange where
  rumbleGain := h.rumbleGain
  deadzone := h.deadzone
  globalLedBrightness := h.globalLedBrightness
  ledRequestBrightness := h.ledEffectBrightness
  sensitivityLeftPreset := (le_ofNat_iff (n := 7) (by decide)).mp h.sensitivityLeftPreset
  sensitivityRightPreset := (le_ofNat_iff (n := 7) (by decide)).mp h.sensitivityRightPreset
  playerLeds := h.playerLeds
  ledRequestEffect := by
    have heffect := (le_ofNat_iff (n := 8) (by decide)).mp h.ledEffect
    show 0 ≤ (cfg.ledEffect.toNat : Int) ∧ (cfg.ledEffect.toNat : Int) < (9 : Nat)
    omega
  ledRequestSpeed := h.ledEffectSpeed
  keymap := fun k => (le_ofNat_iff (n := 18) (by decide)).mp (h.keymap k)

/-! ## The settings thread -/

/-- **A property of the settings, of a configuration and of its shared twin, that every way between file,
profile and shared memory keeps.** -/
structure SettingRange (Q : SlotConfig → Prop) (P : Controller → Prop) : Prop where
  saved : ∀ c, P c → Q (controllerToSlotConfig c)
  restored : ∀ cfg c, Q cfg → P (slotConfigToController cfg c)
  dirty : ∀ c b, P c → P { c with ledDirty := b }
  read : ∀ slot, Q (loadSlot slot)

/-- The active profile and the shared slots have a property. -/
structure WorldKeeps {Text : Type} (Q : SlotConfig → Prop) (P : Controller → Prop) (w : World Text) :
    Prop where
  active : ∀ i, Q (w.pm.activeProfile.slots i)
  shared : ∀ i, P (w.shm.slots i)

/-- The active profile and the shared slots are in range. -/
structure WorldInRange {Text : Type} (w : World Text) : Prop where
  active : ActiveInRange w
  shared : ∀ i, (w.shm.slots i).InRange

theorem settingRange_inRange : SettingRange SlotConfig.InRange Controller.InRange where
  saved := fun _ h => h.config
  restored := fun _ c h => h.controller c
  dirty := fun _ _ h => { h with }
  read := loadSlot_inRange

section

variable {Text : Type} {J : CJson.Lib Text} {w : World Text} {Q : SlotConfig → Prop}
  {P : Controller → Prop}

theorem WorldInRange.keeps (h : WorldInRange w) :
    WorldKeeps SlotConfig.InRange Controller.InRange w := ⟨h.active, h.shared⟩

theorem WorldKeeps.inRange (h : WorldKeeps SlotConfig.InRange Controller.InRange w) : WorldInRange w :=
  ⟨h.active, h.shared⟩

/-- Slots read over slots with the property have it, however many the file has. -/
theorem SettingRange.loadSlots (hR : SettingRange Q P) (arr : CJson) {old : Slots} (h : ∀ i, Q (old i))
    (i : Fin maxSlots) : Q (Dstx.loadSlots arr old i) := by
  rcases loadSlots_apply arr old i with ⟨-, slot, -, hs⟩ | ⟨-, hs⟩
  · rw [hs]
    exact hR.read slot
  · rw [hs]
    exact h i

theorem WorldKeeps.load (h : WorldKeeps Q P w) (hR : SettingRange Q P) (name : CStr) :
    WorldKeeps Q P (loadProfileFromDisk J w name).2 := by
  refine ⟨fun i => ?_, fun i => ?_⟩
  · rcases loadProfileFromDisk_spec J w name with ⟨doc, -, -, hpm⟩ | ⟨-, -, hpm⟩
    · rw [hpm]
      exact hR.loadSlots doc.2.2 h.active i
    · rw [hpm]
      exact h.active i
  · rw [loadProfileFromDisk_shm]
    exact h.shared i

theorem saveProfileToDisk_pm (w : World Text) (name : CStr) (env : Env Text) :
    (saveProfileToDisk J w name env).2.pm = w.pm := by
  rcases saveProfileToDisk_spec J w name env with ⟨-, hs⟩ | ⟨-, hs⟩
  · exact hs.pm
  · exact hs.pm

theorem WorldKeeps.save (h : WorldKeeps Q P w) (name : CStr) (env : Env Text) :
    WorldKeeps Q P (saveProfileToDisk J w name env).2 := by
  refine ⟨fun i => ?_, fun i => ?_⟩
  · rw [saveProfileToDisk_pm]
    exact h.active i
  · rw [saveProfileToDisk_shm]
    exact h.shared i

theorem WorldKeeps.updateInotify (h : WorldKeeps Q P w) : WorldKeeps Q P (profileUpdateInotify w) := by
  obtain ⟨kernel, wd, heq, -⟩ := profileUpdateInotify_spec w
  rw [heq]
  exact ⟨h.active, h.shared⟩

theorem WorldKeeps.applySlot (h : WorldKeeps Q P w) (hR : SettingRange Q P) (i : Fin maxSlots) :
    WorldKeeps Q P (applySlot i w) := by
  refine ⟨h.active, fun j => ?_⟩
  by_cases hj : j = i
  · subst hj
    simp only [Dstx.applySlot, Function.update_self]
    exact hR.dirty _ true (hR.restored _ (w.shm.slots j) (h.active j))
  · simp only [Dstx.applySlot, Function.update_of_ne hj]
    exact h.shared j

theorem WorldKeeps.apply (h : WorldKeeps Q P w) (hR : SettingRange Q P) :
    WorldKeeps Q P (profileApplyToShm w) := by
  unfold profileApplyToShm
  generalize List.finRange maxSlots = l
  induction l generalizing w with
  | nil => exact h
  | cons i l ih => exact ih (h.applySlot hR i)

theorem WorldKeeps.publish (h : WorldKeeps Q P w) (hR : SettingRange Q P) : WorldKeeps Q P (publish w) :=
  ⟨(h.apply hR).active, (h.apply hR).shared⟩

/-- A sync copies in-range slots. -/
theorem WorldKeeps.sync (h : WorldKeeps Q P w) (hR : SettingRange Q P) (env : Env Text) :
    WorldKeeps Q P (profileSyncShmToActive w env) := by
  have hshm : (profileSyncShmToActive w env).shm = w.shm := by
    rcases profileSyncShmToActive_spec w env with heq | ⟨slots, heq⟩ <;> rw [heq]
  refine ⟨fun i => ?_, fun i => ?_⟩
  · rw [← inSync_sync w env i, hshm]
    exact hR.saved _ (h.shared i)
  · rw [hshm]
    exact h.shared i

theorem WorldKeeps.autoSave (h : WorldKeeps Q P w) (env : Env Text) :
    WorldKeeps Q P (profileHandleAutoSave J w env) := by
  have hsave := h.save (J := J) w.pm.activeName env
  unfold profileHandleAutoSave
  split
  · split <;> rename_i heq <;> rw [heq] at hsave <;> exact ⟨hsave.active, hsave.shared⟩
  · exact h

theorem WorldKeeps.processRequest (h : WorldKeeps Q P w) (hR : SettingRange Q P) (req : Int)
    (name : CStr) (env : Env Text) : WorldKeeps Q P (processRequest J w req name env).1 := by
  unfold Dstx.processRequest
  split_ifs
  · -- load
    have hload := h.load (J := J) hR name
    unfold processLoad
    split <;> rename_i heq <;> rw [heq] at hload
    · exact WorldKeeps.updateInotify ⟨hload.active, hload.shared⟩
    · exact hload
  · -- save
    have hsave := h.save (J := J) name env
    unfold processSave
    split <;> rename_i heq <;> rw [heq] at hsave
    · dsimp only
      split_ifs
      · exact ⟨hsave.active, hsave.shared⟩
      · exact hsave
    · exact hsave
  · -- delete
    unfold processDelete
    split
    · rename_i fs _
      dsimp only
      have hfs : WorldKeeps Q P { w with fs := fs } := ⟨h.active, h.shared⟩
      split_ifs
      · have hload := hfs.load (J := J) hR defaultName
        exact WorldKeeps.updateInotify ⟨hload.active, hload.shared⟩
      · exact hfs
    · exact h
  · exact h
  · exact h
  · exact h

theorem WorldKeeps.answer {r : World Text × Outcome} (h : WorldKeeps Q P r.1)
    (hR : SettingRange Q P) (req : Int) : WorldKeeps Q P (answer req r) := by
  obtain ⟨w, out⟩ := r
  cases out with
  | publish result msg => exact ⟨(h.publish hR).active, (h.publish hR).shared⟩
  | respond result msg => exact ⟨h.active, h.shared⟩
  | list text => exact ⟨h.active, h.shared⟩
  | autoSave => exact ⟨h.active, h.shared⟩

theorem WorldKeeps.requests (h : WorldKeeps Q P w) (hR : SettingRange Q P) (env : Env Text) :
    WorldKeeps Q P (profileProcessRequests J w env) := by
  unfold profileProcessRequests
  dsimp only
  split_ifs
  · exact h
  · exact (h.processRequest hR _ _ env).answer hR _

theorem WorldKeeps.inotifyEvent (h : WorldKeeps Q P w) (hR : SettingRange Q P) (event : InotifyEvent) :
    WorldKeeps Q P (handleInotifyEvent J w event) := by
  cases event with
  | ignored => exact h
  | modify =>
      have hload := h.load (J := J) hR w.pm.activeName
      unfold handleInotifyEvent
      dsimp only
      split_ifs
      · exact h
      · split <;> rename_i heq <;> rw [heq] at hload
        · exact hload.publish hR
        · exact hload

theorem WorldKeeps.foldl_inotifyEvent (hR : SettingRange Q P) (events : List InotifyEvent)
    (h : WorldKeeps Q P w) :
    WorldKeeps Q P (events.foldl (handleInotifyEvent J) w) := by
  induction events generalizing w with
  | nil => exact h
  | cons event events ih => exact ih (h.inotifyEvent hR event)

theorem WorldKeeps.inotify (h : WorldKeeps Q P w) (hR : SettingRange Q P) (env : Env Text) :
    WorldKeeps Q P (profileHandleInotify J w env) := by
  unfold profileHandleInotify
  split_ifs
  · exact h
  · exact WorldKeeps.foldl_inotifyEvent hR env.events h

/-! ## Start-up -/

/-- Applying a profile brings every slot it visits the property of the active slots. -/
theorem foldl_applySlot_keeps (hR : SettingRange Q P) (i : Fin maxSlots) (l : List (Fin maxSlots))
    {w : World Text} (hactive : ∀ i, Q (w.pm.activeProfile.slots i)) (hi : i ∈ l ∨ P (w.shm.slots i)) :
    P ((l.foldl (fun w i => Dstx.applySlot i w) w).shm.slots i) := by
  induction l generalizing w with
  | nil => exact hi.resolve_left List.not_mem_nil
  | cons j l ih =>
      rw [List.foldl_cons]
      refine ih (w := Dstx.applySlot j w) hactive ?_
      by_cases hij : i = j
      · subst hij
        right
        simp only [Dstx.applySlot, Function.update_self]
        exact hR.dirty _ true (hR.restored _ (w.shm.slots i) (hactive i))
      · rcases hi with hmem | hin
        · exact Or.inl ((List.mem_cons.mp hmem).resolve_left hij)
        · right
          simp only [Dstx.applySlot, Function.update_of_ne hij]
          exact hin

/-- Publishing overwrites every shared slot, so only the active slots matter. -/
theorem worldKeeps_publish (hR : SettingRange Q P) (hactive : ∀ i, Q (w.pm.activeProfile.slots i)) :
    WorldKeeps Q P (Dstx.publish w) := by
  have hpm : (Dstx.publish w).pm = w.pm := publish_pm w
  refine ⟨fun i => ?_, fun i => ?_⟩
  · rw [hpm]
    exact hactive i
  · exact foldl_applySlot_keeps hR i _ hactive (Or.inl (List.mem_finRange i))

/-- The first load, over the zeroed slots: every slot is read from the file, or a zero slot has the
property. -/
theorem activeKeeps_load {fs : Fs Text} {shm : SharedData} {fd : Int} (hR : SettingRange Q P)
    (hcomplete : (∀ arr, readSlots J fs defaultName = some arr → maxSlots ≤ arr.getArraySize) ∨ Q zeroSlot)
    (hload : loadProfileFromDisk J ⟨fs, ⟨fun _ => none, 1⟩, initialManager fd, shm⟩ defaultName =
      (true, w)) : ∀ i, Q (w.pm.activeProfile.slots i) := by
  have hspec := loadProfileFromDisk_spec J ⟨fs, ⟨fun _ => none, 1⟩, initialManager fd, shm⟩ defaultName
  rw [hload] at hspec
  rcases hspec with ⟨doc, hread, -, hpm⟩ | ⟨-, hfalse, -⟩
  · intro i
    dsimp only at hpm hread
    rw [hpm]
    rcases loadSlots_apply doc.2.2 (initialManager fd).activeProfile.slots i with
      ⟨-, slot, -, hs⟩ | ⟨hle, hs⟩
    · dsimp only
      rw [hs]
      exact hR.read slot
    · rcases hcomplete with hsizes | hzero
      · have hsize := hsizes doc.2.2 (by unfold readSlots; rw [hread]; rfl)
        have hi : (i : Nat) < maxSlots := i.isLt
        omega
      · dsimp only
        rw [hs]
        exact hzero
  · cases hfalse

/-- **After start-up**, when an accepted `Default` has every slot, or a zero slot has the property. -/
theorem worldKeeps_boot {fs : Fs Text} (shm : SharedData) (fd : Int) (env : Env Text)
    (hR : SettingRange Q P) (hdefault : Q defaultSlot)
    (hcomplete : (∀ arr, readSlots J fs defaultName = some arr → maxSlots ≤ arr.getArraySize) ∨
      Q zeroSlot) : WorldKeeps Q P (boot J fs shm fd env) := by
  refine worldKeeps_publish hR ?_
  unfold profileManagerInit
  dsimp only
  split
  · rename_i w heq
    obtain ⟨kernel, wd, hup, -⟩ := profileUpdateInotify_spec w
    have hactive := activeKeeps_load hR hcomplete heq
    rw [hup]
    exact hactive
  · -- the built-in default, written to a file that may or may not take it
    rename_i w heq
    obtain ⟨kernel, wd, hup, -⟩ := profileUpdateInotify_spec
      (saveProfileToDisk J { w with pm := { w.pm with activeProfile :=
        { name := defaultName
          version := 1
          lastModified := UInt64.ofNat env.now
          slots := fun _ => defaultSlot } } } defaultName env).2
    rw [hup]
    intro i
    dsimp only
    rw [saveProfileToDisk_pm]
    exact hdefault

/-- The same for the documented ranges. -/
theorem worldInRange_boot {fs : Fs Text} (shm : SharedData) (fd : Int) (env : Env Text)
    (hcomplete : ∀ arr, readSlots J fs defaultName = some arr → maxSlots ≤ arr.getArraySize) :
    WorldInRange (boot J fs shm fd env) :=
  (worldKeeps_boot shm fd env settingRange_inRange defaultSlot_inRange (Or.inl hcomplete)).inRange

end

end Dstx
