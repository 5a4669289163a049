/-
# Dstx.Profile.Manager — the profile manager of the settings thread (`settings.c`), function by function.

State: the profile manager `pm` (private to the thread), the shared memory `shm`, the file system and
the kernel's inotify watches, together a `World`.  Every function of the source is a function on
worlds under the source's name; what the operating system decides (clock readings, whether a write
succeeds, which inotify events are read, the directory listing) is an explicit input, the `Env`.

`profile_process_requests` is cut where it leaves the thread's private state: `processRequest` is the
`switch` up to the first access to shared memory and says in its `Outcome` what is left to do there,
`answer` is the shared-memory sections that follow.  `profileProcessRequests` composes them.

Not modelled: `syslog` output, and failure of the allocations in `load_profile_from_disk`.
-/
import Dstx.Profile.Codec

namespace Dstx

open Dstx.Lib

/-! ## State -/

/-- `profile_t`. -/
structure Profile where
  name : CStr
  slots : Slots
  lastModified : UInt64
  version : UInt32

/-- `struct timeval`. -/
structure Timeval where
  sec : Int
  usec : Int

/-- **`profile_manager_t`**.  The directory fields are the constant `profilesDir`. -/
structure ProfileManager where
  activeProfile : Profile
  activeName : CStr
  profileDirty : Bool
  lastChange : Timeval
  autoSaveEnabled : Bool
  autoSaveDelayMs : UInt32
  inotifyFd : Int
  inotifyWd : Int

/-- **`shared_data_t`**, the slots and the profile command cells. -/
structure SharedData where
  slots : Fin maxSlots → Controller
  profileRequest : Int
  profileName : CStr
  profileResponse : Int
  profileResponseMsg : CStr
  autoSaveEnabled : Int
  autoSaveDelayMs : Int
  currentProfileName : CStr

/-- The kernel's watch table: a watch descriptor is bound to the INODE it was added on. -/
structure Inotify where
  watch : Int → Option Nat
  nextWd : Int

/-- Everything the settings thread reads and writes. -/
structure World (Text : Type) where
  fs : Fs Text
  inotify : Inotify
  pm : ProfileManager
  shm : SharedData

/-- How the operating system answers one `save_profile_to_disk`: it works; an allocation or `fopen`
fails; the (unchecked) `fprintf` writes something else; or the temporary file is written and
`rename` fails. -/
inductive SaveIo (Text : Type) where
  | ok
  | fails
  | shortWrite (t : Text)
  | renameFails

/-- An inotify event by its mask: a modification, or the notice that a watch is gone. -/
inductive InotifyEvent where
  | modify
  | ignored
  deriving DecidableEq

/-- A directory entry as `readdir` returns it. -/
structure Dirent where
  name : CStr
  isReg : Bool

/-- What the environment supplies to one call: `gettimeofday`, `time`, the outcome of a save, the
inotify events waiting, the directory listing. -/
structure Env (Text : Type) where
  tv : Timeval
  now : TimeT
  io : SaveIo Text
  events : List InotifyEvent
  dirents : List Dirent

/-- A C conversion to `uint32_t`. -/
def toU32 (v : Int) : UInt32 := UInt32.ofNat (v % 2 ^ 32).toNat

/-- A C conversion to `uint64_t`. -/
def toU64 (v : Int) : UInt64 := UInt64.ofNat (v % 2 ^ 64).toNat

/-! ## Paths -/

/-- `pm->profiles_dir`. -/
def profilesDir : CStr := "/etc/dstx/profiles".toList

/-- The same directory as a path. -/
def profilesPath : Path := ["etc".toList, "dstx".toList, "profiles".toList]

/-- `asprintf(&path, "%s/%s.json", pm->profiles_dir, name)`. -/
def profilePath (name : CStr) : CStr := profilesDir ++ '/' :: (name ++ ".json".toList)

/-- `asprintf(&tmp_path, "%s.tmp", path)`. -/
def profileTmpPath (name : CStr) : CStr := profilePath name ++ ".tmp".toList

variable {Text : Type} (J : CJson.Lib Text)

/-! ## Loading and saving -/

/-- **`load_profile_from_disk`** — the result and the world after the call. -/
def loadProfileFromDisk (w : World Text) (name : CStr) : Bool × World Text :=
  match w.fs.readFile (profilePath name) with
  | none => (false, w)
  | some (text, fs) =>
      match (J.parse text).bind acceptDocument with
      | none => (false, { w with fs := fs })
      | some (version, lastMod, slots) =>
          (true, { w with
            fs := fs
            pm := { w.pm with
              activeProfile :=
                { name := name
                  version := toU32 version.valueint
                  lastModified := toU64 lastMod.valueint
                  slots := loadSlots slots w.pm.activeProfile.slots } } })

/-- The end of `save_profile_to_disk`: write the temporary file, rename it over the profile. -/
def writeAndRename (w : World Text) (name : CStr) (text : Text) : Bool × World Text :=
  match w.fs.writeFile (profileTmpPath name) text with
  | none => (false, w)
  | some fs₁ =>
      match fs₁.rename (profileTmpPath name) (profilePath name) with
      | none => (false, { w with fs := fs₁ })
      | some fs₂ => (true, { w with fs := fs₂ })

/-- The text `save_profile_to_disk` prints for the active profile. -/
def profileText (pm : ProfileManager) (now : TimeT) : Text :=
  J.print (saveDocument pm.activeProfile.version pm.activeProfile.slots now)

/-- **`save_profile_to_disk`** — the ACTIVE profile is written under `name`. -/
def saveProfileToDisk (w : World Text) (name : CStr) (env : Env Text) : Bool × World Text :=
  match env.io with
  | .ok => writeAndRename w name (profileText J w.pm env.now)
  | .fails => (false, w)
  | .shortWrite t => writeAndRename w name t
  | .renameFails =>
      match w.fs.writeFile (profileTmpPath name) (profileText J w.pm env.now) with
      | none => (false, w)
      | some fs => (false, { w with fs := fs })

/-- **`profile_update_inotify`** — drop the current watch, watch the active profile's file. -/
def profileUpdateInotify (w : World Text) : World Text :=
  if w.pm.inotifyFd < 0 then w
  else
    let watch := if w.pm.inotifyWd ≥ 0 then Function.update w.inotify.watch w.pm.inotifyWd none
      else w.inotify.watch
    match w.fs.stat (profilePath w.pm.activeName) with
    | none =>
        { w with
          inotify := { w.inotify with watch := watch }
          pm := { w.pm with inotifyWd := -1 } }
    | some n =>
        { w with
          inotify :=
            { watch := Function.update watch w.inotify.nextWd (some n.ino)
              nextWd := w.inotify.nextWd + 1 }
          pm := { w.pm with inotifyWd := w.inotify.nextWd } }

/-! ## The shared-memory sections -/

/-- **`profile_sync_auto_save_to_shm`**. -/
def profileSyncAutoSaveToShm (w : World Text) : World Text :=
  { w with shm := { w.shm with
      autoSaveEnabled := if w.pm.autoSaveEnabled then 1 else 0
      autoSaveDelayMs := w.pm.autoSaveDelayMs.toNat } }

/-- **`profile_update_shm_current_name`**. -/
def profileUpdateShmCurrentName (w : World Text) (name : CStr) : World Text :=
  { w with shm := { w.shm with currentProfileName := strncpy profileNameLen name } }

/-- One slot of the loop in `profile_apply_to_shm`. -/
def applySlot (i : Fin maxSlots) (w : World Text) : World Text :=
  { w with shm := { w.shm with
      slots := Function.update w.shm.slots i
        { slotConfigToController (w.pm.activeProfile.slots i) (w.shm.slots i) with
          ledDirty := true } } }

/-- **`profile_apply_to_shm`**. -/
def profileApplyToShm (w : World Text) : World Text :=
  (List.finRange maxSlots).foldl (fun w i => applySlot i w) w

/-- One slot of the loop in `profile_sync_shm_to_active`: copy the slot when it differs.  The flag
is the accumulated `changed`. -/
def syncSlot (i : Fin maxSlots) (s : Bool × World Text) : Bool × World Text :=
  let newCfg := controllerToSlotConfig (s.2.shm.slots i)
  if slotDiffers (s.2.pm.activeProfile.slots i) newCfg then
    (true, { s.2 with pm := { s.2.pm with activeProfile := { s.2.pm.activeProfile with
      slots := Function.update s.2.pm.activeProfile.slots i newCfg } } })
  else s

/-- The end of `profile_sync_shm_to_active`, after the mutex is released. -/
def syncFlags (changed : Bool) (w : World Text) (env : Env Text) : World Text :=
  if changed then
    { w with pm := { w.pm with
        activeProfile := { w.pm.activeProfile with lastModified := UInt64.ofNat env.now }
        profileDirty := true
        lastChange := env.tv } }
  else w

/-- **`profile_sync_shm_to_active`**. -/
def profileSyncShmToActive (w : World Text) (env : Env Text) : World Text :=
  let (changed, w') := (List.finRange maxSlots).foldl (fun s i => syncSlot i s) (false, w)
  syncFlags changed w' env

/-! ## Auto-save -/

/-- `elapsed_ms` of `profile_handle_auto_save` (C division truncates). -/
def elapsedMs (now last : Timeval) : Int :=
  (now.sec - last.sec) * 1000 + (now.usec - last.usec).tdiv 1000

/-- The auto-save is due: enabled, something unsaved, and the delay has passed. -/
def autoSaveDue (pm : ProfileManager) (tv : Timeval) : Bool :=
  pm.autoSaveEnabled && pm.profileDirty && decide (elapsedMs tv pm.lastChange ≥ pm.autoSaveDelayMs.toNat)

/-- **`profile_handle_auto_save`**. -/
def profileHandleAutoSave (w : World Text) (env : Env Text) : World Text :=
  if autoSaveDue w.pm env.tv then
    match saveProfileToDisk J w w.pm.activeName env with
    | (true, w') => { w' with pm := { w'.pm with profileDirty := false } }
    | (false, w') => w'
  else w

/-! ## Requests -/

/-- `strrchr`: the string before the last `c`, and the rest from that `c` on. -/
def splitAtLast (c : Char) : CStr → Option (CStr × CStr)
  | [] => none
  | x :: xs =>
      match splitAtLast c xs with
      | some (a, b) => some (x :: a, b)
      | none => if x = c then some ([], x :: xs) else none

/-- One `readdir` result of `profile_list`. -/
def profileListEntry (outputSize : Nat) (output : CStr) (ent : Dirent) : CStr :=
  if ent.isReg then
    match splitAtLast '.' ent.name with
    | some (stem, dot) =>
        if dot = ".json".toList then
          if output.length + stem.length + 2 < outputSize then output ++ stem ++ ['\n'] else output
        else output
    | none => output
  else output

/-- **`profile_list`** — the regular `*.json` entries without extension, one per line, as long as
they fit. -/
def profileList (outputSize : Nat) (dirents : List Dirent) : CStr :=
  dirents.foldl (profileListEntry outputSize) []

/-- `snprintf(msg, …, "Profile '%s' loaded", name)` and its siblings. -/
def profileMsg (before name after : CStr) : CStr := before ++ '\'' :: name ++ '\'' :: after

/-- What a `switch` case still has to do in shared memory before it answers. -/
inductive Outcome where
  /-- Apply the profile, sync the auto-save settings, update the current name, answer. -/
  | publish (result : Int) (msg : CStr)
  /-- Answer. -/
  | respond (result : Int) (msg : CStr)
  /-- Put the listing into the response text, answer. -/
  | list (text : CStr)
  /-- Read the auto-save cells, sync them back, answer. -/
  | autoSave

/-- `case 1`: load. -/
def processLoad (w : World Text) (name : CStr) : World Text × Outcome :=
  match loadProfileFromDisk J w name with
  | (true, w') =>
      (profileUpdateInotify { w' with pm := { w'.pm with activeName := name } },
        .publish 1 (profileMsg "Profile ".toList name " loaded".toList))
  | (false, w') => (w', .respond (-1) (profileMsg "Failed to load profile ".toList name []))

/-- `case 2`: save. -/
def processSave (w : World Text) (name : CStr) (env : Env Text) : World Text × Outcome :=
  match saveProfileToDisk J w name env with
  | (true, w') =>
      (if name = w'.pm.activeName then { w' with pm := { w'.pm with profileDirty := false } } else w',
        .respond 1 (profileMsg "Profile ".toList name " saved".toList))
  | (false, w') => (w', .respond (-1) (profileMsg "Failed to save profile ".toList name []))

/-- The name of the profile that replaces a deleted active one. -/
def defaultName : CStr := "Default".toList

/-- `case 3`: delete.  When the ACTIVE profile is deleted, `Default` becomes active; the result of
loading it is not looked at. -/
def processDelete (w : World Text) (name : CStr) : World Text × Outcome :=
  match w.fs.unlink (profilePath name) with
  | some fs =>
      let msg := profileMsg "Profile ".toList name " deleted".toList
      if name = w.pm.activeName then
        let w' := (loadProfileFromDisk J { w with fs := fs } defaultName).2
        (profileUpdateInotify { w' with pm := { w'.pm with activeName := defaultName } },
          .publish 1 msg)
      else ({ w with fs := fs }, .respond 1 msg)
  | none => (w, .respond (-1) (profileMsg "Failed to delete profile ".toList name []))

/-- **The `switch` of `profile_process_requests`**, up to its shared-memory sections. -/
def processRequest (w : World Text) (req : Int) (name : CStr) (env : Env Text) :
    World Text × Outcome :=
  if req = 1 then processLoad J w name
  else if req = 2 then processSave J w name env
  else if req = 3 then processDelete J w name
  else if req = 4 then (w, .list (profileList 4096 env.dirents))
  else if req = 5 then (w, .autoSave)
  else (w, .respond (-1) ("Unknown request: ".toList ++ (toString req).toList))

/-- `case 5` once the two cells are read: `-1` and non-positive delays change nothing. -/
def setAutoSave (enabled delay : Int) (w : World Text) : World Text :=
  { w with pm := { w.pm with
      autoSaveEnabled := if enabled ≠ -1 then enabled != 0 else w.pm.autoSaveEnabled
      autoSaveDelayMs := if delay > 0 then toU32 delay else w.pm.autoSaveDelayMs } }

/-- The answer text of `case 5`. -/
def autoSaveMsg (pm : ProfileManager) : CStr :=
  "Auto-save ".toList ++ (if pm.autoSaveEnabled then "enabled".toList else "disabled".toList) ++
    ", delay=".toList ++ (toString pm.autoSaveDelayMs.toNat).toList ++ "ms".toList

/-- `profile_apply_to_shm; profile_sync_auto_save_to_shm; profile_update_shm_current_name`. -/
def publish (w : World Text) : World Text :=
  profileUpdateShmCurrentName (profileSyncAutoSaveToShm (profileApplyToShm w)) w.pm.activeName

/-- The last section of `profile_process_requests`: response, text, request cell cleared. -/
def finishRequest (w : World Text) (req result : Int) (msg : CStr) : World Text :=
  { w with shm := { w.shm with
      profileResponse := result
      profileResponseMsg :=
        if req ≠ 4 ∧ msg ≠ [] then strncpy 4096 msg else w.shm.profileResponseMsg
      profileRequest := 0 } }

/-- What follows the `switch`: the case's shared-memory sections, and the answer. -/
def answer (req : Int) : World Text × Outcome → World Text
  | (w, .publish result msg) => finishRequest (publish w) req result msg
  | (w, .respond result msg) => finishRequest w req result msg
  | (w, .list text) =>
      finishRequest
        { w with shm := { w.shm with profileResponseMsg := strncpy 4096 text } } req 1 []
  | (w, .autoSave) =>
      let w' := setAutoSave w.shm.autoSaveEnabled w.shm.autoSaveDelayMs w
      finishRequest (profileSyncAutoSaveToShm w') req 1 (autoSaveMsg w'.pm)

/-- **`profile_process_requests`**. -/
def profileProcessRequests (w : World Text) (env : Env Text) : World Text :=
  let req := w.shm.profileRequest
  if req = 0 then w
  else answer req (processRequest J w req (strncpy profileNameLen w.shm.profileName) env)

/-! ## External modifications -/

/-- One event of the loop in `profile_handle_inotify`. -/
def handleInotifyEvent (w : World Text) (event : InotifyEvent) : World Text :=
  match event with
  | .ignored => w
  | .modify =>
      if w.pm.profileDirty then w
      else
        match loadProfileFromDisk J w w.pm.activeName with
        | (true, w') => publish w'
        | (false, w') => w'

/-- **`profile_handle_inotify`** (`env.events` is what `read` returned). -/
def profileHandleInotify (w : World Text) (env : Env Text) : World Text :=
  if w.pm.inotifyFd < 0 then w else env.events.foldl (handleInotifyEvent J) w

/-! ## Start-up and the loop -/

/-- A slot after `memset(pm, 0, sizeof *pm)`. -/
def zeroSlot : SlotConfig where
  ledR := 0
  ledG := 0
  ledB := 0
  ledBaseR := 0
  ledBaseG := 0
  ledBaseB := 0
  rumbleGain := 0
  deadzone := 0
  globalLedBrightness := 0
  playerLeds := 0
  debounceEnabled := false
  emulateActive := false
  isUhid := false
  ledReapply := false
  rumbleActive := false
  invertLy := false
  invertRy := false
  sensitivityLeftPreset := 0
  sensitivityRightPreset := 0
  ledEffect := 0
  ledEffectSpeed := 0
  ledEffectBrightness := 0
  keymap := fun _ => 0
  treatTriggersAsDigital := false

/-- The slot of the default profile `profile_manager_init` creates. -/
def defaultSlot : SlotConfig where
  ledR := 0
  ledG := 0
  ledB := 255
  ledBaseR := 0
  ledBaseG := 0
  ledBaseB := 255
  rumbleGain := 100
  deadzone := 10
  globalLedBrightness := 80
  playerLeds := 0
  debounceEnabled := true
  emulateActive := true
  isUhid := false
  ledReapply := true
  rumbleActive := true
  invertLy := false
  invertRy := false
  sensitivityLeftPreset := sensPresetDefault
  sensitivityRightPreset := sensPresetDefault
  ledEffect := 0
  ledEffectSpeed := 5
  ledEffectBrightness := 80
  keymap := keysGetDefaultMap
  treatTriggersAsDigital := false

/-- A slot of a new shared-memory segment, as the daemon's `main` initialises it. -/
def initialController : Controller where
  ledR := 0
  ledG := 0
  ledB := 255
  ledBaseR := 0
  ledBaseG := 0
  ledBaseB := 255
  rumbleGain := 100
  deadzone := 0
  globalLedBrightness := 100
  playerLeds := 0
  debounceEnabled := false
  emulateActive := false
  isUhid := false
  ledReapply := true
  rumbleActive := true
  invertLy := false
  invertRy := false
  sensitivityLeftPreset := sensPresetDefault
  sensitivityRightPreset := sensPresetDefault
  ledStatic := true
  ledRequestEffect := 0
  ledRequestSpeed := 5
  ledRequestBrightness := 80
  ledRequestPending := false
  ledDirty := true
  isTriggerDigital := false
  keymap := keysGetDefaultMap

/-- A new shared-memory segment: the slots of `main`, zeros everywhere else. -/
def initialShm : SharedData where
  slots := fun _ => initialController
  profileRequest := 0
  profileName := []
  profileResponse := 0
  profileResponseMsg := []
  autoSaveEnabled := 0
  autoSaveDelayMs := 0
  currentProfileName := []

/-- The manager right before `profile_manager_init` looks for the default profile; `fd` is what
`inotify_init1` returned. -/
def initialManager (fd : Int) : ProfileManager where
  activeProfile := { name := [], slots := fun _ => zeroSlot, lastModified := 0, version := 0 }
  activeName := defaultName
  profileDirty := false
  lastChange := ⟨0, 0⟩
  autoSaveEnabled := true
  autoSaveDelayMs := 2000
  inotifyFd := fd
  inotifyWd := 0

/-- **`profile_manager_init`** — load `Default`, or create and save it; then watch it. -/
def profileManagerInit (fs : Fs Text) (shm : SharedData) (fd : Int) (env : Env Text) : World Text :=
  let w₀ : World Text := ⟨fs, ⟨fun _ => none, 1⟩, initialManager fd, shm⟩
  match loadProfileFromDisk J w₀ defaultName with
  | (true, w) => profileUpdateInotify w
  | (false, w) =>
      let w' := { w with pm := { w.pm with
        activeProfile :=
          { name := defaultName
            version := 1
            lastModified := UInt64.ofNat env.now
            slots := fun _ => defaultSlot } } }
      profileUpdateInotify (saveProfileToDisk J w' defaultName env).2

/-- `settings_init` and the prologue of `settings_worker`. -/
def boot (fs : Fs Text) (shm : SharedData) (fd : Int) (env : Env Text) : World Text :=
  publish (profileManagerInit J fs shm fd env)

/-- **One iteration of `settings_worker`**, with nobody else moving. -/
def settingsIteration (w : World Text) (env : Env Text) : World Text :=
  profileHandleInotify J
    (profileHandleAutoSave J (profileProcessRequests J (profileSyncShmToActive w env) env) env) env

/-! ## Frames of the shared-memory sections -/

/-- Applying slots to shared memory changes the shared slots and nothing else. -/
theorem foldl_applySlot_frame (l : List (Fin maxSlots)) (w : World Text) :
    ∃ slots, l.foldl (fun w i => applySlot i w) w =
      { w with shm := { w.shm with slots := slots } } := by
  induction l generalizing w with
  | nil => exact ⟨w.shm.slots, rfl⟩
  | cons i l ih =>
      obtain ⟨slots, h⟩ := ih (applySlot i w)
      exact ⟨slots, h⟩

/-- **Spec of `publish`**: the manager, the files and the request cells are untouched; the shared
name is the active name and the auto-save cells mirror the manager. -/
theorem publish_spec (w : World Text) :
    ∃ slots, publish w = { w with shm := { w.shm with
      slots := slots
      autoSaveEnabled := if w.pm.autoSaveEnabled then 1 else 0
      autoSaveDelayMs := w.pm.autoSaveDelayMs.toNat
      currentProfileName := strncpy profileNameLen w.pm.activeName } } := by
  obtain ⟨slots, h⟩ := foldl_applySlot_frame (List.finRange maxSlots) w
  refine ⟨slots, ?_⟩
  unfold publish profileApplyToShm
  rw [h]
  rfl

@[simp] theorem publish_fs (w : World Text) : (publish w).fs = w.fs := by
  obtain ⟨slots, h⟩ := publish_spec w
  rw [h]

@[simp] theorem publish_pm (w : World Text) : (publish w).pm = w.pm := by
  obtain ⟨slots, h⟩ := publish_spec w
  rw [h]

@[simp] theorem publish_inotify (w : World Text) : (publish w).inotify = w.inotify := by
  obtain ⟨slots, h⟩ := publish_spec w
  rw [h]

@[simp] theorem publish_currentProfileName (w : World Text) :
    (publish w).shm.currentProfileName = strncpy profileNameLen w.pm.activeName := by
  obtain ⟨slots, h⟩ := publish_spec w
  rw [h]

@[simp] theorem finishRequest_fs (w : World Text) (req result : Int) (msg : CStr) :
    (finishRequest w req result msg).fs = w.fs := rfl
@[simp] theorem finishRequest_pm (w : World Text) (req result : Int) (msg : CStr) :
    (finishRequest w req result msg).pm = w.pm := rfl
@[simp] theorem finishRequest_inotify (w : World Text) (req result : Int) (msg : CStr) :
    (finishRequest w req result msg).inotify = w.inotify := rfl
@[simp] theorem finishRequest_currentProfileName (w : World Text) (req result : Int) (msg : CStr) :
    (finishRequest w req result msg).shm.currentProfileName = w.shm.currentProfileName := rfl

/-- The answer makes no file call and moves no watch. -/
@[simp] theorem answer_fs (req : Int) (r : World Text × Outcome) : (answer req r).fs = r.1.fs := by
  obtain ⟨w, out⟩ := r
  cases out <;> simp [answer, setAutoSave, profileSyncAutoSaveToShm]

@[simp] theorem answer_inotify (req : Int) (r : World Text × Outcome) :
    (answer req r).inotify = r.1.inotify := by
  obtain ⟨w, out⟩ := r
  cases out <;> simp [answer, setAutoSave, profileSyncAutoSaveToShm]

/-- **Spec of `profile_update_inotify`**: only the watch table and the watch descriptor change.  With
inotify available, the descriptor is then valid exactly when the active file exists, and is bound to
that file's inode. -/
theorem profileUpdateInotify_spec (w : World Text) :
    ∃ kernel wd, profileUpdateInotify w =
        { w with inotify := kernel, pm := { w.pm with inotifyWd := wd } } ∧
      (0 ≤ w.pm.inotifyFd → 0 ≤ wd →
        ∃ n, w.fs.stat (profilePath w.pm.activeName) = some n ∧ kernel.watch wd = some n.ino) := by
  unfold profileUpdateInotify
  split
  · rename_i hfd
    exact ⟨w.inotify, w.pm.inotifyWd, rfl, fun h => absurd hfd (by omega)⟩
  · dsimp only
    cases hs : w.fs.stat (profilePath w.pm.activeName) with
    | none => exact ⟨_, -1, rfl, fun _ h => absurd h (by decide)⟩
    | some n => exact ⟨_, w.inotify.nextWd, rfl, fun _ _ => ⟨n, rfl, by simp⟩⟩

@[simp] theorem profileUpdateInotify_fs (w : World Text) : (profileUpdateInotify w).fs = w.fs := by
  obtain ⟨kernel, wd, h, -⟩ := profileUpdateInotify_spec w
  rw [h]

@[simp] theorem profileUpdateInotify_shm (w : World Text) :
    (profileUpdateInotify w).shm = w.shm := by
  obtain ⟨kernel, wd, h, -⟩ := profileUpdateInotify_spec w
  rw [h]

/-- The synchronising loop changes the active slots and nothing else; with the flag still false it
changed nothing. -/
theorem foldl_syncSlot_spec (l : List (Fin maxSlots)) (s : Bool × World Text) :
    (∃ slots, (l.foldl (fun s i => syncSlot i s) s).2 = { s.2 with pm := { s.2.pm with
        activeProfile := { s.2.pm.activeProfile with slots := slots } } }) ∧
      ((l.foldl (fun s i => syncSlot i s) s).1 = false →
        l.foldl (fun s i => syncSlot i s) s = s) := by
  induction l generalizing s with
  | nil => exact ⟨⟨s.2.pm.activeProfile.slots, rfl⟩, fun _ => rfl⟩
  | cons i l ih =>
      obtain ⟨⟨slots, hslots⟩, hkeep⟩ := ih (syncSlot i s)
      rw [List.foldl_cons]
      have hstep : (∃ slots', (syncSlot i s).2 = { s.2 with pm := { s.2.pm with
            activeProfile := { s.2.pm.activeProfile with slots := slots' } } }) ∧
          ((syncSlot i s).1 = false → syncSlot i s = s) := by
        unfold syncSlot
        dsimp only
        split
        · exact ⟨⟨_, rfl⟩, nofun⟩
        · exact ⟨⟨s.2.pm.activeProfile.slots, rfl⟩, fun _ => rfl⟩
      obtain ⟨⟨slots', hslots'⟩, hkeep'⟩ := hstep
      refine ⟨⟨slots, ?_⟩, ?_⟩
      · rw [hslots, hslots']
      · intro hfalse
        have h₁ := hkeep hfalse
        rw [h₁] at hfalse ⊢
        exact hkeep' hfalse

/-- **Spec of `profile_sync_shm_to_active`**: either nothing changed at all, or the active slots
changed and the profile is dirty as of now. -/
theorem profileSyncShmToActive_spec (w : World Text) (env : Env Text) :
    profileSyncShmToActive w env = w ∨
      ∃ slots, profileSyncShmToActive w env = { w with pm := { w.pm with
        activeProfile := { w.pm.activeProfile with
          slots := slots
          lastModified := UInt64.ofNat env.now }
        profileDirty := true
        lastChange := env.tv } } := by
  obtain ⟨⟨slots, hslots⟩, hkeep⟩ := foldl_syncSlot_spec (List.finRange maxSlots) (false, w)
  unfold profileSyncShmToActive
  cases hr : (List.finRange maxSlots).foldl (fun s i => syncSlot i s) (false, w) with
  | mk changed w' =>
      rw [hr] at hslots hkeep
      dsimp only at hslots hkeep ⊢
      cases changed with
      | false =>
          left
          exact congrArg Prod.snd (hkeep rfl)
      | true =>
          right
          refine ⟨slots, ?_⟩
          rw [hslots]
          rfl

end Dstx
