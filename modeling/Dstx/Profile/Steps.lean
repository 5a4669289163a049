/-
# Dstx.Profile.Steps — the profile manager as a state machine, one function of `settings.c` per step.

The settings thread alternates `profile_sync_shm_to_active`, `profile_process_requests`,
`profile_handle_auto_save` and `profile_handle_inotify`; between them clients store settings and other
programs edit files.  `Action` has one label for each of these and `act` runs the function of
`Profile.Manager`, in ANY order, so a statement about every run of `act` covers the thread's loop.

The rest of the module says once what each action can do, through the four things the invariants
read: the manager, the profile files (`SameDisk`, `Removed`, `SavedAs`), the watch, and the published
name.  No later proof unfolds a function of `Profile.Manager`.
-/
import Dstx.Lib.Run
import Dstx.Profile.Files
import Dstx.Profile.Request

namespace Dstx

open Dstx.Lib

variable {Text : Type}

/-! ## The machine -/

/-- One step of the manager's life. -/
inductive Action (Text : Type) where
  /-- A client stores settings into a shared slot. -/
  | write (i : Fin maxSlots) (f : Controller → Controller)
  /-- `profile_sync_shm_to_active`. -/
  | sync (env : Env Text)
  /-- A client's request, posted and processed. -/
  | request (c : Call) (env : Env Text)
  /-- `profile_handle_auto_save`. -/
  | autoSave (env : Env Text)
  /-- `profile_handle_inotify`. -/
  | inotify (env : Env Text)
  /-- Another program rewrites an existing file in place. -/
  | edit (p : Path) (t : Text)

/-- A client stores into the slot `i`. -/
def writeSlot (i : Fin maxSlots) (f : Controller → Controller) (w : World Text) : World Text :=
  { w with shm := { w.shm with slots := Function.update w.shm.slots i (f (w.shm.slots i)) } }

variable (J : CJson.Lib Text)

/-- **What an action does.** -/
def act (a : Action Text) (w : World Text) : World Text :=
  match a with
  | .write i f => writeSlot i f w
  | .sync env => profileSyncShmToActive w env
  | .request c env => serve J w c env
  | .autoSave env => profileHandleAutoSave J w env
  | .inotify env => profileHandleInotify J w env
  | .edit p t => { w with fs := w.fs.editInPlace p t }

/-- Every action is enabled in every state. -/
def step (a : Action Text) (w : World Text) : Option (World Text) := some (act J a w)

/-! ## What a served request does -/

/-- **The watch is on the active file**: with inotify available and the last watch added, the watched
inode is the inode the active name shows, if it shows one. -/
def WatchesActive (w : World Text) : Prop :=
  0 ≤ w.pm.inotifyFd → 0 ≤ w.pm.inotifyWd →
    ∀ n, fileOf w.fs w.pm.activeName = some n → w.inotify.watch w.pm.inotifyWd = some n.ino

theorem watchesActive_profileUpdateInotify (w : World Text) :
    WatchesActive (profileUpdateInotify w) := by
  obtain ⟨kernel, wd, heq, hwatch⟩ := profileUpdateInotify_spec w
  rw [heq]
  intro hfd hwd n hn
  obtain ⟨m, hm, hk⟩ := hwatch hfd hwd
  have hnm : n = m := by
    have hn' : w.fs.stat (profilePath w.pm.activeName) = some n := hn
    exact Option.some.inj (hn'.symm.trans hm)
  rw [hnm]
  exact hk

/-- Nothing the manager's invariants read has changed. -/
structure Unchanged (w w' : World Text) : Prop where
  pm : w'.pm = w.pm
  inotify : w'.inotify = w.inotify
  published : w'.shm.currentProfileName = w.shm.currentProfileName
  disk : SameDisk w.fs w'.fs

theorem Unchanged.refl (w : World Text) : Unchanged w w := ⟨rfl, rfl, rfl, SameDisk.refl _⟩

/-- The active profile a load of an accepted document leaves. -/
def loadedProfile (name : CStr) (doc : CJson × CJson × CJson) (old : Slots) : Profile where
  name := name
  version := toU32 doc.1.valueint
  lastModified := toU64 doc.2.1.valueint
  slots := loadSlots doc.2.2 old

/-- `name` became the active profile: it is the active and the published name, the watch was renewed,
and the rest of the manager is as before up to the profile `prof`. -/
structure Switched (w w' : World Text) (name : CStr) (prof : Profile) : Prop where
  pm : ∃ wd, w'.pm = { w.pm with activeProfile := prof, activeName := name, inotifyWd := wd }
  watch : WatchesActive w'
  published : w'.shm.currentProfileName = strncpy profileNameLen name

/-- A case that renews the watch and answers by publishing completes a switch. -/
theorem switched_answer {w w₁ : World Text} {name : CStr} {prof : Profile}
    (hpm : w₁.pm = { w.pm with activeProfile := prof, activeName := name })
    (req result : Int) (msg : CStr) :
    Switched w (answer req (profileUpdateInotify w₁, .publish result msg)) name prof := by
  obtain ⟨kernel, wd, hw, -⟩ := profileUpdateInotify_spec w₁
  have hname : w₁.pm.activeName = name := by rw [hpm]
  refine ⟨⟨wd, ?_⟩, ?_, ?_⟩
  · show (publish (profileUpdateInotify w₁)).pm = _
    rw [publish_pm, hw]
    dsimp only
    rw [hpm]
  · have hwatch := watchesActive_profileUpdateInotify w₁
    have hpm' : (answer req (profileUpdateInotify w₁, .publish result msg)).pm =
        (profileUpdateInotify w₁).pm := publish_pm _
    unfold WatchesActive at hwatch ⊢
    rw [hpm', answer_fs, answer_inotify]
    exact hwatch
  · show (publish (profileUpdateInotify w₁)).shm.currentProfileName = _
    rw [publish_currentProfileName, hw]
    dsimp only
    rw [hname]

/-- A case that answers without touching the manager leaves everything else to its own effect. -/
theorem unchanged_respond {w w₁ : World Text} (h : Unchanged w w₁) (req result : Int) (msg : CStr) :
    Unchanged w (answer req (w₁, .respond result msg)) :=
  ⟨h.pm, h.inotify, h.published, h.disk⟩

/-- A failed load changes nothing. -/
theorem unchanged_load {w w₁ : World Text} {name : CStr}
    (hl : loadProfileFromDisk J w name = (false, w₁)) :
    readProfile J w.fs name = none ∧ Unchanged w w₁ := by
  have hdisk := sameDisk_load J w name
  obtain ⟨hshm, hin, -⟩ := loadProfileFromDisk_frame J w name
  rcases loadProfileFromDisk_spec J w name with ⟨doc, -, hok, -⟩ | ⟨hnone, -, hpm⟩
  · rw [hl] at hok
    cases hok
  · rw [hl] at hdisk hshm hin hpm
    refine ⟨hnone, hpm, hin, ?_, hdisk⟩
    rw [hshm]

/-- A load that works sets the active profile from the accepted document, and nothing else. -/
theorem loaded_load {w w₁ : World Text} {name : CStr}
    (hl : loadProfileFromDisk J w name = (true, w₁)) :
    ∃ doc, readProfile J w.fs name = some doc ∧ SameDisk w.fs w₁.fs ∧ w₁.inotify = w.inotify ∧
      w₁.shm = w.shm ∧
      w₁.pm = { w.pm with activeProfile := loadedProfile name doc w.pm.activeProfile.slots } := by
  have hdisk := sameDisk_load J w name
  obtain ⟨hshm, hin, -⟩ := loadProfileFromDisk_frame J w name
  rcases loadProfileFromDisk_spec J w name with ⟨doc, hdoc, -, hpm⟩ | ⟨-, hok, -⟩
  · rw [hl] at hdisk hshm hin hpm
    exact ⟨doc, hdoc, hdisk, hin, hshm, hpm⟩
  · rw [hl] at hok
    cases hok

section Serve

variable (w : World Text) (c : Call) (env : Env Text)

/-- The world a request is processed in: the posted cells, and nothing else new. -/
def posted : World Text := { w with shm := postRequest c w.shm }

theorem unchanged_posted : Unchanged w (posted w c) := ⟨rfl, rfl, rfl, SameDisk.refl _⟩

/-- A served request is the `switch` on the posted code and name, and the answer. -/
theorem serve_eq :
    serve J w c env =
      answer c.request.code (processRequest J (posted w c) c.request.code c.postedName env) := by
  unfold serve profileProcessRequests
  have hreq : (postRequest c w.shm).profileRequest = c.request.code := rfl
  have hname : strncpy profileNameLen (postRequest c w.shm).profileName = c.postedName :=
    strncpy_postedName c
  simp only [hreq, hname, c.request.code_ne_zero, if_false]
  rfl

/-- **A served load**: the disk is only read; the file is accepted and becomes the active profile, or
nothing changes. -/
theorem serve_load (h : c.request = .load) :
    (SameDisk w.fs (serve J w c env).fs ∧
      ∃ doc, readProfile J w.fs c.postedName = some doc ∧
        Switched w (serve J w c env) c.postedName
          (loadedProfile c.postedName doc w.pm.activeProfile.slots)) ∨
      (readProfile J w.fs c.postedName = none ∧ Unchanged w (serve J w c env)) := by
  have heq : serve J w c env = answer 1 (processLoad J (posted w c) c.postedName) := by
    rw [serve_eq, h]
    rfl
  rw [heq]
  unfold processLoad
  cases hl : loadProfileFromDisk J (posted w c) c.postedName with
  | mk ok w₁ =>
      cases ok with
      | true =>
          left
          obtain ⟨doc, hdoc, hdisk, -, -, hpm⟩ := loaded_load J hl
          refine ⟨?_, doc, hdoc, ?_⟩
          · rw [answer_fs, profileUpdateInotify_fs]
            exact hdisk
          · apply switched_answer
            dsimp only
            rw [hpm]
            rfl
      | false =>
          right
          obtain ⟨hnone, hsame⟩ := unchanged_load J hl
          refine ⟨hnone, unchanged_respond ?_ _ _ _⟩
          exact ⟨hsame.pm, hsame.inotify, hsame.published, hsame.disk⟩

/-- The outcome of a save, as the invariants see it. -/
theorem saved_or_unchanged {w w₁ : World Text} {name : CStr} {env : Env Text} {ok : Bool}
    (hs : saveProfileToDisk J w name env = (ok, w₁)) :
    (ok = true ∧ env.io.replaces = true ∧ Stored w.fs w₁.fs name (savedText J w env) ∧
        w₁.pm = w.pm ∧ w₁.inotify = w.inotify ∧ w₁.shm = w.shm) ∨
      (ok = false ∧ Unchanged w w₁) := by
  have hspec := saveProfileToDisk_spec J w name env
  rw [hs] at hspec
  rcases hspec with ⟨hok, hsaved⟩ | ⟨hok, hfail⟩
  · have hio : env.io.replaces = true := by
      apply replaces_of_saved J (w := w)
      rw [hs]
      exact hok
    exact Or.inl ⟨hok, hio, hsaved.stored, hsaved.pm, hsaved.inotify, hsaved.shm⟩
  · refine Or.inr ⟨hok, hfail.pm, hfail.inotify, ?_, hfail.isDir, hfail.files⟩
    rw [hfail.shm]

/-- The manager after a save request under `name` that worked. -/
def savedManager (pm : ProfileManager) (name : CStr) : ProfileManager :=
  if name = pm.activeName then { pm with profileDirty := false } else pm

/-- **A served save**: nothing changes, or the active profile is stored under the posted name and,
when that is the active name, counts as saved. -/
theorem serve_save (h : c.request = .save) :
    (env.io.replaces = true ∧
      Stored w.fs (serve J w c env).fs c.postedName (savedText J w env) ∧
      (serve J w c env).pm = savedManager w.pm c.postedName ∧
      (serve J w c env).inotify = w.inotify ∧
      (serve J w c env).shm.currentProfileName = w.shm.currentProfileName) ∨
      Unchanged w (serve J w c env) := by
  have heq : serve J w c env = answer 2 (processSave J (posted w c) c.postedName env) := by
    rw [serve_eq, h]
    rfl
  rw [heq]
  unfold processSave
  cases hs : saveProfileToDisk J (posted w c) c.postedName env with
  | mk ok w₁ =>
      rcases saved_or_unchanged J hs with ⟨rfl, hio, hstored, hpm, hin, hshm⟩ | ⟨rfl, hsame⟩
      · left
        have hpm' : w₁.pm = w.pm := hpm
        have hpub : w₁.shm.currentProfileName = w.shm.currentProfileName := by
          rw [hshm]
          rfl
        unfold savedManager
        dsimp only
        rw [hpm']
        by_cases hactive : c.postedName = w.pm.activeName
        · rw [if_pos hactive, if_pos hactive]
          exact ⟨hio, hstored, rfl, hin, hpub⟩
        · rw [if_neg hactive, if_neg hactive]
          exact ⟨hio, hstored, hpm', hin, hpub⟩
      · right
        have hsame' : Unchanged w w₁ := ⟨hsame.pm, hsame.inotify, hsame.published, hsame.disk⟩
        exact unchanged_respond hsame' _ _ _

/-- **A served delete.**  Nothing changes; or the file is removed and the manager is as before; or the
ACTIVE name's file is removed and `Default` becomes active, with the profile of its file when that is
accepted and the deleted profile otherwise. -/
theorem serve_delete (h : c.request = .delete) :
    (fileOf w.fs c.postedName = none ∧ Unchanged w (serve J w c env)) ∨
      ((fileOf w.fs c.postedName).isSome ∧ c.postedName ≠ w.pm.activeName ∧
        Removed w.fs (serve J w c env).fs c.postedName ∧ (serve J w c env).pm = w.pm ∧
        (serve J w c env).inotify = w.inotify ∧
        (serve J w c env).shm.currentProfileName = w.shm.currentProfileName) ∨
      ((fileOf w.fs c.postedName).isSome ∧ c.postedName = w.pm.activeName ∧
        Removed w.fs (serve J w c env).fs c.postedName ∧
        ((∃ doc, readProfile J (serve J w c env).fs defaultName = some doc ∧
            Switched w (serve J w c env) defaultName
              (loadedProfile defaultName doc w.pm.activeProfile.slots)) ∨
          (readProfile J (serve J w c env).fs defaultName = none ∧
            Switched w (serve J w c env) defaultName w.pm.activeProfile))) := by
  have heq : serve J w c env = answer 3 (processDelete J (posted w c) c.postedName) := by
    rw [serve_eq, h]
    rfl
  rw [heq]
  unfold processDelete
  have hiff := unlink_isSome_iff (posted w c).fs c.postedName
  cases hu : (posted w c).fs.unlink (profilePath c.postedName) with
  | none =>
      rw [hu] at hiff
      refine Or.inl ⟨?_, unchanged_respond (unchanged_posted w c) _ _ _⟩
      have hnone : (fileOf w.fs c.postedName).isSome = false := hiff.symm
      simpa using hnone
  | some fs =>
      rw [hu] at hiff
      have hremoved : Removed w.fs fs c.postedName := removed_of_unlink hu
      dsimp only
      by_cases hactive : c.postedName = w.pm.activeName
      · right; right
        refine ⟨hiff.symm, hactive, ?_⟩
        rw [if_pos (show c.postedName = (posted w c).pm.activeName from hactive)]
        cases hl : loadProfileFromDisk J { posted w c with fs := fs } defaultName with
        | mk ok w₁ =>
            cases ok with
            | true =>
                obtain ⟨doc, hdoc, hdisk, -, -, hpm⟩ := loaded_load J hl
                refine ⟨?_, Or.inl ⟨doc, ?_, ?_⟩⟩
                · rw [answer_fs, profileUpdateInotify_fs]
                  exact ⟨hdisk.isDir.trans hremoved.isDir, fun name =>
                    (hdisk.files name).trans (hremoved.files name)⟩
                · rw [answer_fs, profileUpdateInotify_fs]
                  exact (hdisk.readProfile_eq J defaultName).trans hdoc
                · apply switched_answer
                  dsimp only
                  rw [hpm]
                  rfl
            | false =>
                obtain ⟨hnone, hsame⟩ := unchanged_load J hl
                refine ⟨?_, Or.inr ⟨?_, ?_⟩⟩
                · rw [answer_fs, profileUpdateInotify_fs]
                  exact ⟨hsame.disk.isDir.trans hremoved.isDir, fun name =>
                    (hsame.disk.files name).trans (hremoved.files name)⟩
                · rw [answer_fs, profileUpdateInotify_fs]
                  exact (hsame.disk.readProfile_eq J defaultName).trans hnone
                · apply switched_answer
                  dsimp only
                  rw [hsame.pm]
                  rfl
      · right; left
        rw [if_neg (show ¬(c.postedName = (posted w c).pm.activeName) from hactive)]
        exact ⟨hiff.symm, hactive, hremoved, rfl, rfl, rfl⟩

/-- **A served list or auto-save request** leaves the active profile, its name, the dirty flag, the
watch and the disk alone. -/
theorem serve_other (h : c.request = .list ∨ c.request = .setAutoSave) :
    ∃ enabled delay, Unchanged
      { w with pm := { w.pm with autoSaveEnabled := enabled, autoSaveDelayMs := delay } }
      (serve J w c env) := by
  rw [serve_eq]
  rcases h with h | h
  · rw [h]
    exact ⟨w.pm.autoSaveEnabled, w.pm.autoSaveDelayMs, rfl, rfl, rfl, SameDisk.refl _⟩
  · rw [h]
    exact ⟨_, _, rfl, rfl, rfl, SameDisk.refl _⟩

end Serve

/-! ## What the thread's other functions do -/

/-- **`profile_handle_auto_save`**: not due, or failed, nothing changes; else the active profile is in
the active name's file and counts as saved. -/
theorem autoSave_cases (w : World Text) (env : Env Text) :
    Unchanged w (profileHandleAutoSave J w env) ∨
      (autoSaveDue w.pm env.tv = true ∧ env.io.replaces = true ∧
        Stored w.fs (profileHandleAutoSave J w env).fs w.pm.activeName (savedText J w env) ∧
        (profileHandleAutoSave J w env).pm = { w.pm with profileDirty := false } ∧
        (profileHandleAutoSave J w env).inotify = w.inotify ∧
        (profileHandleAutoSave J w env).shm = w.shm) := by
  unfold profileHandleAutoSave
  by_cases hdue : autoSaveDue w.pm env.tv = true
  · rw [if_pos hdue]
    cases hs : saveProfileToDisk J w w.pm.activeName env with
    | mk ok w₁ =>
        rcases saved_or_unchanged J hs with ⟨rfl, hio, hstored, hpm, hin, hshm⟩ | ⟨rfl, hsame⟩
        · right
          dsimp only
          rw [hpm]
          exact ⟨hdue, hio, hstored, rfl, hin, hshm⟩
        · exact Or.inl hsame
  · rw [if_neg hdue]
    exact Or.inl (Unchanged.refl w)

/-- The active profile was read again from its file. -/
structure Reloaded (w w' : World Text) : Prop where
  clean : w.pm.profileDirty = false
  pm : ∃ doc, readProfile J w.fs w.pm.activeName = some doc ∧ w'.pm = { w.pm with
    activeProfile := loadedProfile w.pm.activeName doc w.pm.activeProfile.slots }
  inotify : w'.inotify = w.inotify
  published : w'.shm.currentProfileName = strncpy profileNameLen w.pm.activeName
  disk : SameDisk w.fs w'.fs

/-- One inotify event: nothing, or a reload of a profile without unsaved changes. -/
theorem handleInotifyEvent_cases (w : World Text) (event : InotifyEvent) :
    Unchanged w (handleInotifyEvent J w event) ∨ Reloaded J w (handleInotifyEvent J w event) := by
  cases event with
  | ignored => exact Or.inl (Unchanged.refl w)
  | modify =>
      unfold handleInotifyEvent
      dsimp only
      cases hd : w.pm.profileDirty with
      | true => exact Or.inl (Unchanged.refl w)
      | false =>
          rw [if_neg Bool.false_ne_true]
          cases hl : loadProfileFromDisk J w w.pm.activeName with
          | mk ok w₁ =>
              cases ok with
              | true =>
                  right
                  obtain ⟨doc, hdoc, hdisk, hin, -, hpm⟩ := loaded_load J hl
                  refine ⟨hd, ⟨doc, hdoc, ?_⟩, ?_, ?_, ?_⟩
                  · exact (publish_pm w₁).trans hpm
                  · exact (publish_inotify w₁).trans hin
                  · rw [publish_currentProfileName, hpm]
                  · rw [publish_fs]
                    exact hdisk
              | false => exact Or.inl (unchanged_load J hl).2

/-- What every event keeps, `profile_handle_inotify` keeps. -/
theorem profileHandleInotify_keeps {P : World Text → Prop}
    (hstep : ∀ w event, P w → P (handleInotifyEvent J w event)) (w : World Text) (env : Env Text)
    (h : P w) : P (profileHandleInotify J w env) := by
  unfold profileHandleInotify
  split
  · exact h
  · rename_i hfd
    clear hfd
    generalize env.events = events
    induction events generalizing w with
    | nil => exact h
    | cons event events ih => exact ih _ (hstep w event h)

/-- An edit in place changes no file's inode. -/
theorem editInPlace_ino (fs : Fs Text) (p : Path) (t : Text) (name : CStr) :
    (fileOf (fs.editInPlace p t) name).map Node.ino = (fileOf fs name).map Node.ino := by
  unfold Fs.editInPlace
  cases hp : fs.node p with
  | none => rfl
  | some n =>
      show ((profileFile fs name).bind (fs.put p t).node).map _ =
        ((profileFile fs name).bind fs.node).map _
      cases profileFile fs name with
      | none => rfl
      | some q =>
          show ((fs.put p t).node q).map _ = (fs.node q).map _
          by_cases hq : q = p
          · subst hq
            simp [hp, Fs.written]
          · rw [Fs.put_node_of_ne _ _ hq]

/-! ## The start -/

/-- The start leaves the watch on the active file. -/
theorem watchesActive_boot (fs : Fs Text) (shm : SharedData) (fd : Int) (env : Env Text) :
    WatchesActive (boot J fs shm fd env) := by
  have hinit : ∃ w, profileManagerInit J fs shm fd env = profileUpdateInotify w := by
    unfold profileManagerInit
    dsimp only
    split
    · exact ⟨_, rfl⟩
    · exact ⟨_, rfl⟩
  obtain ⟨w, hw⟩ := hinit
  have hwatch := watchesActive_profileUpdateInotify w
  unfold boot WatchesActive at *
  rw [publish_pm, publish_fs, publish_inotify, hw]
  exact hwatch

/-- **The first start**: with no `Default` to load, the default profile is created, stored and
published. -/
theorem boot_created {fs : Fs Text} (shm : SharedData) (fd : Int) {env : Env Text}
    (hempty : readProfile J fs defaultName = none) (hio : env.io = .ok)
    (hres : (profileFile fs defaultName).isSome) :
    (boot J fs shm fd env).pm.activeProfile.name = defaultName ∧
      (boot J fs shm fd env).pm.activeName = defaultName ∧
      (boot J fs shm fd env).pm.activeProfile.slots = (fun _ => defaultSlot) ∧
      (boot J fs shm fd env).shm.currentProfileName = defaultName ∧
      ∃ version, readProfile J (boot J fs shm fd env).fs defaultName =
        some (version, .number env.now, saveSlots fun _ => defaultSlot) := by
  unfold boot profileManagerInit
  dsimp only
  set w₀ : World Text := ⟨fs, ⟨fun _ => none, 1⟩, initialManager fd, shm⟩ with hw₀
  cases hl : loadProfileFromDisk J w₀ defaultName with
  | mk ok w₁ =>
      cases ok with
      | true =>
          obtain ⟨doc, hdoc, -⟩ := loaded_load J hl
          have habsurd : some doc = none := hdoc.symm.trans hempty
          cases habsurd
      | false =>
          obtain ⟨-, hsame⟩ := unchanged_load J hl
          dsimp only
          -- the manager the default profile is saved from
          set w₂ : World Text := { w₁ with pm := { w₁.pm with activeProfile :=
            ⟨defaultName, fun _ => defaultSlot, UInt64.ofNat env.now, 1⟩ } } with hw₂
          have hactive : w₂.pm.activeName = defaultName := by
            show w₁.pm.activeName = _
            rw [hsame.pm]
            rfl
          have hres₂ : (profileFile w₂.fs defaultName).isSome := by
            unfold profileFile
            rw [show w₂.fs.isDir = fs.isDir from hsame.disk.isDir]
            exact hres
          obtain ⟨-, hsaved⟩ := saveProfileToDisk_ok J hio hres₂
          have hread := hsaved.stored.readProfile_saved J (show SameFile w₂.fs defaultName defaultName from rfl)
          obtain ⟨kernel, wd, hup, -⟩ :=
            profileUpdateInotify_spec (saveProfileToDisk J w₂ defaultName env).2
          rw [hsaved.pm] at hup
          rw [publish_pm, publish_fs, publish_currentProfileName, hup]
          refine ⟨rfl, hactive, rfl, ?_, _, hread⟩
          show strncpy profileNameLen w₂.pm.activeName = _
          rw [hactive]
          rfl

end Dstx
