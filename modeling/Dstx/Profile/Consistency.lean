/-
# Dstx.Profile.Consistency — the manager, its published name and its file, over whole runs.

The law: the active profile's name, the active name and the name published in shared memory are
equal, and while nothing is unsaved the active name's file exists and decodes to EXACTLY the slots of
the active profile.

Three kinds of step break it.  A load of a file with fewer than four slots leaves old slots in place;
a save of settings outside the reader's ranges stores what will be read back differently; and a
delete that removes the active file without a complete `Default` to fall back on (or under another
spelling of the name) leaves the manager with a profile that has no file.  `consistent_of_run` is the
law over every run that has no such step (`SoundStep`).
-/
import Dstx.Profile.Watch

namespace Dstx

open Dstx.Lib

variable {Text : Type} (J : CJson.Lib Text)

/-! ## The law -/

/-- The file of `name` is accepted and decodes to exactly `slots`, whatever was active before. -/
def Decodes (fs : Fs Text) (name : CStr) (slots : Slots) : Prop :=
  ∃ doc, readProfile J fs name = some doc ∧ ∀ old, loadSlots doc.2.2 old = slots

/-- **The law**, about one state. -/
structure Consistent (w : World Text) : Prop where
  activeName : w.pm.activeProfile.name = w.pm.activeName
  published : w.shm.currentProfileName = w.pm.activeName
  file : w.pm.profileDirty = false → Decodes J w.fs w.pm.activeName w.pm.activeProfile.slots

/-- The law's own setting: no external edit, no failing file operation. -/
def Undisturbed (a : Action Text) : Prop :=
  match a with
  | .edit _ _ => False
  | .request _ env => env.io = .ok
  | .autoSave env => env.io = .ok
  | _ => True

/-- Every slot of the active profile is in the reader's ranges. -/
def ActiveInRange (w : World Text) : Prop := ∀ i, (w.pm.activeProfile.slots i).InRange

/-- The file of `name` is accepted and has an element for every slot. -/
def Complete (fs : Fs Text) (name : CStr) : Prop :=
  ∃ arr, readSlots J fs name = some arr ∧ maxSlots ≤ arr.getArraySize

/-- **The condition on a step.**
* A load with nothing unsaved reads a file with an element for every slot.
* A save under the active name, and an auto-save that is due, finds the active slots in range.
* A delete that removes the active file does so under the active name, with a complete `Default` in
  another file; or under another spelling while there are unsaved changes. -/
def SoundStep (a : Action Text) (w : World Text) : Prop :=
  match a with
  | .request c _ =>
      match c.request with
      | .load => w.pm.profileDirty = false → (readProfile J w.fs c.postedName).isSome →
          Complete J w.fs c.postedName
      | .save => c.postedName = w.pm.activeName → ActiveInRange w
      | .delete => (fileOf w.fs c.postedName).isSome → SameFile w.fs c.postedName w.pm.activeName →
          (c.postedName = w.pm.activeName ∧ ¬SameFile w.fs defaultName w.pm.activeName ∧
              Complete J w.fs defaultName) ∨
            (c.postedName ≠ w.pm.activeName ∧ w.pm.profileDirty = true)
      | _ => True
  | .autoSave env => autoSaveDue w.pm env.tv = true → ActiveInRange w
  | _ => True

/-! ## Files that decode -/

section Decodes

variable {J}

theorem Decodes.of_sameDisk {fs fs' : Fs Text} {name : CStr} {slots : Slots}
    (h : Decodes J fs name slots) (hd : SameDisk fs fs') : Decodes J fs' name slots := by
  obtain ⟨doc, hdoc, hslots⟩ := h
  exact ⟨doc, (hd.readProfile_eq J name).trans hdoc, hslots⟩

/-- A complete file decodes to the slots a load just took from it. -/
theorem decodes_of_complete {fs : Fs Text} {name : CStr} {doc : CJson × CJson × CJson}
    (hdoc : readProfile J fs name = some doc) (hc : Complete J fs name) (old : Slots) :
    Decodes J fs name (loadSlots doc.2.2 old) := by
  obtain ⟨arr, harr, hsize⟩ := hc
  have harr' : arr = doc.2.2 := by
    unfold readSlots at harr
    rw [hdoc] at harr
    exact (Option.some.inj harr).symm
  subst harr'
  refine ⟨doc, hdoc, ?_⟩
  intro old'
  funext i
  have hi : (i : Nat) < maxSlots := i.isLt
  rcases loadSlots_apply doc.2.2 old i with ⟨-, slot, hs, h₁⟩ | ⟨hle, -⟩
  · rcases loadSlots_apply doc.2.2 old' i with ⟨-, slot', hs', h₂⟩ | ⟨hle, -⟩
    · have : slot = slot' := Option.some.inj (hs.symm.trans hs')
      rw [h₁, h₂, this]
    · omega
  · omega

/-- What a file decodes to is in range. -/
theorem Decodes.inRange {fs : Fs Text} {name : CStr} {slots : Slots} (h : Decodes J fs name slots)
    (i : Fin maxSlots) : (slots i).InRange := by
  obtain ⟨doc, -, hslots⟩ := h
  have hi := congrFun (hslots fun _ => zeroSlot.normalize) i
  rcases loadSlots_apply doc.2.2 (fun _ => zeroSlot.normalize) i with ⟨-, slot, -, h₁⟩ | ⟨-, h₁⟩
  · rw [← hi, h₁]
    exact loadSlot_inRange slot
  · rw [← hi, h₁]
    exact SlotConfig.normalize_inRange _

/-- In-range slots that were just stored are what the file decodes to. -/
theorem decodes_of_stored {fs fs' : Fs Text} {name name' : CStr} {pm : ProfileManager} {now : TimeT}
    (hs : Stored fs fs' name (profileText J pm now)) (hsame : SameFile fs name' name)
    (hin : ∀ i, (pm.activeProfile.slots i).InRange) :
    Decodes J fs' name' pm.activeProfile.slots := by
  refine ⟨_, hs.readProfile_saved J hsame, ?_⟩
  intro old
  rw [loadSlots_saveSlots]
  funext i
  exact (hin i).normalize_eq

end Decodes

/-! ## One step -/

/-- The law, with the length bound that makes publishing the name lossless. -/
structure ConsistentInv (w : World Text) : Prop extends Consistent J w where
  length : w.pm.activeName.length ≤ 63

variable {J}

/-- A step that keeps the three names has to care about the file only. -/
theorem ConsistentInv.of_names {w w' : World Text} (h : ConsistentInv J w)
    (hname : w'.pm.activeProfile.name = w.pm.activeProfile.name)
    (hactive : w'.pm.activeName = w.pm.activeName)
    (hpub : w'.shm.currentProfileName = w.shm.currentProfileName)
    (hfile : w'.pm.profileDirty = false →
      Decodes J w'.fs w.pm.activeName w'.pm.activeProfile.slots) : ConsistentInv J w' := by
  refine ⟨⟨?_, ?_, ?_⟩, ?_⟩
  · rw [hname, hactive]
    exact h.activeName
  · rw [hpub, hactive]
    exact h.published
  · rw [hactive]
    exact hfile
  · rw [hactive]
    exact h.length

theorem ConsistentInv.of_unchanged {w w' : World Text} (h : ConsistentInv J w)
    (hu : Unchanged w w') : ConsistentInv J w' := by
  have hpm := hu.pm
  apply h.of_names (by rw [hpm]) (by rw [hpm]) hu.published
  rw [hpm]
  intro hclean
  exact (h.file hclean).of_sameDisk hu.disk

theorem published_strncpy {name : CStr} (h : name.length ≤ 63) :
    strncpy profileNameLen name = name :=
  strncpy_of_length h

/-- A completed switch restores the law, given the file of the new active profile. -/
theorem consistentInv_of_switched {w w' : World Text} {name : CStr} {prof : Profile}
    (hsw : Switched w w' name prof) (hlen : name.length ≤ 63) (hname : prof.name = name)
    (hfile : w.pm.profileDirty = false → Decodes J w'.fs name prof.slots) : ConsistentInv J w' := by
  obtain ⟨wd, hpm⟩ := hsw.pm
  refine ⟨⟨?_, ?_, ?_⟩, ?_⟩
  · rw [hpm]
    exact hname
  · rw [hsw.published, hpm]
    exact published_strncpy hlen
  · rw [hpm]
    exact hfile
  · rw [hpm]
    exact hlen

theorem consistentInv_load {w : World Text} (h : ConsistentInv J w) {c : Call} (env : Env Text)
    (hreq : c.request = .load)
    (hok : w.pm.profileDirty = false → (readProfile J w.fs c.postedName).isSome →
      Complete J w.fs c.postedName) : ConsistentInv J (serve J w c env) := by
  rcases serve_load J w c env hreq with ⟨hdisk, doc, hdoc, hsw⟩ | ⟨-, hu⟩
  · apply consistentInv_of_switched hsw (postedName_length c) rfl
    intro hclean
    have hcomplete := hok hclean (by rw [hdoc]; rfl)
    exact (decodes_of_complete hdoc hcomplete _).of_sameDisk hdisk
  · exact h.of_unchanged hu

/-- A save that left the manager clean, or did not write the active file, or wrote what the active
file decoded to already. -/
theorem consistentInv_save {w : World Text} (h : ConsistentInv J w) {c : Call} {env : Env Text}
    (hreq : c.request = .save) (hio : env.io = .ok)
    (hok : c.postedName = w.pm.activeName → ActiveInRange w) :
    ConsistentInv J (serve J w c env) := by
  rcases serve_save J w c env hreq with ⟨-, hs, hpm, -, hpub⟩ | hu
  · have htext : savedText J w env = profileText J w.pm env.now := by
      unfold savedText
      rw [hio]
    rw [htext] at hs
    unfold savedManager at hpm
    by_cases hactive : c.postedName = w.pm.activeName
    · rw [if_pos hactive] at hpm
      rw [hactive] at hs
      apply h.of_names (by rw [hpm]) (by rw [hpm]) hpub
      intro _
      rw [hpm]
      exact decodes_of_stored hs (show SameFile w.fs w.pm.activeName w.pm.activeName from rfl)
        (hok hactive)
    · rw [if_neg hactive] at hpm
      apply h.of_names (by rw [hpm]) (by rw [hpm]) hpub
      rw [hpm]
      intro hclean
      have hfile := h.file hclean
      by_cases hsame : SameFile w.fs w.pm.activeName c.postedName
      · -- another spelling of the active name: the file already decoded to these slots
        exact decodes_of_stored hs hsame hfile.inRange
      · obtain ⟨doc, hdoc, hslots⟩ := hfile
        exact ⟨doc, (hs.readProfile_eq J hsame).trans hdoc, hslots⟩
  · exact h.of_unchanged hu

theorem consistentInv_delete {w : World Text} (h : ConsistentInv J w) {c : Call} (env : Env Text)
    (hreq : c.request = .delete)
    (hok : (fileOf w.fs c.postedName).isSome → SameFile w.fs c.postedName w.pm.activeName →
      (c.postedName = w.pm.activeName ∧ ¬SameFile w.fs defaultName w.pm.activeName ∧
          Complete J w.fs defaultName) ∨
        (c.postedName ≠ w.pm.activeName ∧ w.pm.profileDirty = true)) :
    ConsistentInv J (serve J w c env) := by
  rcases serve_delete J w c env hreq with
    ⟨-, hu⟩ | ⟨hex, hne, hr, hpm, -, hpub⟩ | ⟨hex, hactive, hr, hsw⟩
  · exact h.of_unchanged hu
  · apply h.of_names (by rw [hpm]) (by rw [hpm]) hpub
    rw [hpm]
    intro hclean
    have hother : ¬SameFile w.fs w.pm.activeName c.postedName := by
      intro hsame
      rcases hok hex hsame.symm with ⟨heq, -⟩ | ⟨-, hdirty⟩
      · exact hne heq
      · rw [hclean] at hdirty
        cases hdirty
    obtain ⟨doc, hdoc, hslots⟩ := h.file hclean
    exact ⟨doc, (hr.readProfile_eq J hother).trans hdoc, hslots⟩
  · have hsame : SameFile w.fs c.postedName w.pm.activeName := by rw [hactive]; rfl
    rcases hok hex hsame with ⟨-, hdef, hcomplete⟩ | ⟨hne, -⟩
    · -- `Default` is another file, so it is read as it was
      have hother : ¬SameFile w.fs defaultName c.postedName := by
        rw [hactive]
        exact hdef
      have hread := hr.readProfile_eq J hother
      rcases hsw with ⟨doc, hdoc, hsw⟩ | ⟨hnone, -⟩
      · apply consistentInv_of_switched hsw (by decide) rfl
        intro _
        have hc : Complete J (serve J w c env).fs defaultName := by
          obtain ⟨arr, harr, hsize⟩ := hcomplete
          refine ⟨arr, ?_, hsize⟩
          unfold readSlots at harr ⊢
          rw [hread]
          exact harr
        exact decodes_of_complete hdoc hc _
      · exfalso
        obtain ⟨arr, harr, -⟩ := hcomplete
        unfold readSlots at harr
        rw [← hread, hnone] at harr
        cases harr
    · exact absurd hactive hne

theorem consistentInv_serve_other {w : World Text} (h : ConsistentInv J w) {c : Call}
    (env : Env Text) (hreq : c.request = .list ∨ c.request = .setAutoSave) :
    ConsistentInv J (serve J w c env) := by
  obtain ⟨enabled, delay, hu⟩ := serve_other J w c env hreq
  have h' : ConsistentInv J { w with pm :=
      { w.pm with autoSaveEnabled := enabled, autoSaveDelayMs := delay } } :=
    ⟨⟨h.activeName, h.published, h.file⟩, h.length⟩
  exact h'.of_unchanged hu

/-- A reload of a consistent profile reads back what is active already. -/
theorem consistentInv_event {w : World Text} (h : ConsistentInv J w) (event : InotifyEvent) :
    ConsistentInv J (handleInotifyEvent J w event) := by
  rcases handleInotifyEvent_cases J w event with hu | hr
  · exact h.of_unchanged hu
  · obtain ⟨doc, hdoc, hpm⟩ := hr.pm
    have hfile := h.file hr.clean
    obtain ⟨doc', hdoc', hslots⟩ := hfile
    have hsame : doc = doc' := Option.some.inj (hdoc.symm.trans hdoc')
    refine ⟨⟨?_, ?_, ?_⟩, ?_⟩
    · rw [hpm]
      rfl
    · rw [hr.published, hpm]
      exact published_strncpy h.length
    · intro _
      rw [hpm]
      refine ⟨doc, (hr.disk.readProfile_eq J _).trans hdoc, ?_⟩
      intro old
      show loadSlots doc.2.2 old = loadSlots doc.2.2 w.pm.activeProfile.slots
      rw [hsame, hslots, hslots]
    · rw [hpm]
      exact h.length

/-- **One step.** -/
theorem consistentInv_step {a : Action Text} {w w' : World Text} (h : ConsistentInv J w)
    (hquiet : Undisturbed a) (hok : SoundStep J a w) (hstep : step J a w = some w') :
    ConsistentInv J w' := by
  cases hstep
  cases a with
  | write i f => exact ⟨⟨h.activeName, h.published, h.file⟩, h.length⟩
  | sync env =>
      show ConsistentInv J (profileSyncShmToActive w env)
      rcases profileSyncShmToActive_spec w env with heq | ⟨slots, heq⟩
      · rw [heq]
        exact h
      · rw [heq]
        exact ⟨⟨h.activeName, h.published, nofun⟩, h.length⟩
  | request c env =>
      show ConsistentInv J (serve J w c env)
      unfold SoundStep at hok
      cases hreq : c.request with
      | load =>
          simp only [hreq] at hok
          exact consistentInv_load h env hreq hok
      | save =>
          simp only [hreq] at hok
          exact consistentInv_save h hreq hquiet hok
      | delete =>
          simp only [hreq] at hok
          exact consistentInv_delete h env hreq hok
      | list => exact consistentInv_serve_other h env (Or.inl hreq)
      | setAutoSave => exact consistentInv_serve_other h env (Or.inr hreq)
  | autoSave env =>
      show ConsistentInv J (profileHandleAutoSave J w env)
      have htext : savedText J w env = profileText J w.pm env.now := by
        unfold savedText
        rw [show env.io = .ok from hquiet]
      rcases autoSave_cases J w env with hu | ⟨hdue, -, hs, hpm, -, hshm⟩
      · exact h.of_unchanged hu
      · rw [htext] at hs
        apply h.of_names (by rw [hpm]) (by rw [hpm]) (by rw [hshm])
        intro _
        rw [hpm]
        exact decodes_of_stored hs (show SameFile w.fs w.pm.activeName w.pm.activeName from rfl)
          (hok hdue)
  | inotify env =>
      refine profileHandleInotify_keeps J ?_ w env h
      intro w event hw
      exact consistentInv_event hw event
  | edit p t => exact absurd hquiet id

/-! ## Whole runs -/

/-- No file stands directly in the profiles directory. -/
def ProfilesEmpty (fs : Fs Text) : Prop := ∀ entry, fs.node (profilesPath ++ [entry]) = none

/-- The profiles directory exists (`mkdir` worked). -/
def ProfilesExist (fs : Fs Text) : Prop := walk fs.isDir [] profilesPath = some profilesPath

theorem profileFile_default {fs : Fs Text} (h : ProfilesExist fs) :
    profileFile fs defaultName = some (profilesPath ++ ["Default.json".toList]) := by
  have hsplit : ("Default.json".toList).splitOn '/' = [] ++ ["Default.json".toList] := by decide
  have hplain : Plain "Default.json".toList := by decide
  have hwalk : walk fs.isDir [] (([] :: profilesPath) ++ []) = some profilesPath := by
    rw [List.append_nil]
    simp only [walk, true_or, if_true]
    exact h
  have hres : profileFile fs defaultName =
      (walk fs.isDir [] (([] :: profilesPath) ++ [])).map (· ++ ["Default.json".toList]) :=
    resolve_below hsplit hplain
  rw [hres, hwalk]
  rfl

/-- The built-in default profile passes the reader's checks. -/
theorem defaultSlot_inRange : defaultSlot.InRange := by
  constructor <;> decide

/-- The first start is consistent. -/
theorem consistentInv_boot {fs : Fs Text} (hexist : ProfilesExist fs) (hempty : ProfilesEmpty fs)
    (shm : SharedData) (fd : Int) {env : Env Text} (hio : env.io = .ok) :
    ConsistentInv J (boot J fs shm fd env) := by
  have hfile := profileFile_default hexist
  have hread : readProfile J fs defaultName = none := by
    unfold readProfile
    rw [fileOf_eq, hfile, Option.bind_some, hempty]
    rfl
  obtain ⟨hname, hactive, hslots, hpub, version, hdoc⟩ :=
    boot_created J shm fd hread hio (by rw [hfile]; rfl)
  refine ⟨⟨?_, ?_, ?_⟩, ?_⟩
  · rw [hname, hactive]
  · rw [hpub, hactive]
  · intro _
    rw [hactive, hslots]
    refine ⟨_, hdoc, ?_⟩
    intro old
    rw [loadSlots_saveSlots]
    funext _
    exact defaultSlot_inRange.normalize_eq
  · rw [hactive]
    decide

/-- **Consistency over whole runs.**  From an empty profiles directory, with no external edit and no
failing file operation, along every order of steps that are sound, every state reached is consistent. -/
theorem consistent_of_run (fs : Fs Text) (shm : SharedData) (fd : Int) (env : Env Text)
    (w : World Text) (hexist : ProfilesExist fs) (hempty : ProfilesEmpty fs) (hio : env.io = .ok)
    (h : Run (step J) (fun a w => Undisturbed a ∧ SoundStep J a w) (boot J fs shm fd env) w) :
    Consistent J w := by
  have hinv : ConsistentInv J w := by
    refine h.invariant ?_ (consistentInv_boot hexist hempty shm fd hio)
    intro a s t hs hok hstep
    exact consistentInv_step hs hok.1 hok.2 hstep
  exact hinv.toConsistent

/-- A file whose array the daemon reads, with an element for every slot, is complete. -/
theorem complete_of_any {fs : Fs Text} {name : CStr}
    (h : ((readSlots J fs name).any fun arr => decide (maxSlots ≤ arr.getArraySize)) = true) :
    Complete J fs name := by
  obtain ⟨arr, harr, hsize⟩ := (Option.any_eq_true _ _).mp h
  exact ⟨arr, harr, of_decide_eq_true hsize⟩

/-- The active profile is saved over its own file, then under a second name. -/
def savedTwice : World (Option CJson) :=
  act CJson.treeLib (saveProfile "Racing".toList) (act CJson.treeLib (saveProfile defaultName) firstBoot)

/-- The second name is loaded. -/
def racingLoaded : World (Option CJson) := act CJson.treeLib (requestLoad "Racing".toList) savedTwice

/-- And deleted, while it is active: the manager falls back on `Default`. -/
def racingDeleted : World (Option CJson) := act CJson.treeLib (deleteProfile "Racing".toList) racingLoaded

/-- Each of the four steps meets a condition that bears on it: the slots saved over the active file are in
range, the file loaded is complete, and so is the `Default` the deletion falls back on. -/
theorem consistent_of_run_racing :
    Run (step CJson.treeLib) (fun a w => Undisturbed a ∧ SoundStep CJson.treeLib a w) firstBoot
        racingDeleted ∧
      racingDeleted.pm.activeName = defaultName ∧ racingDeleted.pm.profileDirty = false ∧
      Consistent CJson.treeLib racingDeleted := by
  have hexist : ProfilesExist (Fs.blank fun _ => true : Fs (Option CJson)) := by
    unfold ProfilesExist
    decide
  have hquiet (c : Call) : Undisturbed (.request c quietEnv : Action (Option CJson)) := rfl
  have hdefault : SoundStep CJson.treeLib (saveProfile defaultName) firstBoot := by
    intro _
    have hfirst : ConsistentInv CJson.treeLib firstBoot := consistentInv_boot hexist (fun _ => rfl) _ _ rfl
    exact (hfirst.file (by decide +kernel)).inRange
  have hracing : SoundStep CJson.treeLib (saveProfile "Racing".toList)
      (act CJson.treeLib (saveProfile defaultName) firstBoot) := by
    have hname : "Racing".toList ≠
        (act CJson.treeLib (saveProfile defaultName) firstBoot).pm.activeName := by decide +kernel
    exact fun h => absurd h hname
  have hload : SoundStep CJson.treeLib (requestLoad "Racing".toList) savedTwice := by
    intro _ _
    exact complete_of_any (by decide +kernel)
  have hdelete : SoundStep CJson.treeLib (deleteProfile "Racing".toList) racingLoaded := by
    intro _ _
    refine Or.inl ⟨?_, ?_, complete_of_any ?_⟩ <;> decide +kernel
  have hrun : Run (step CJson.treeLib) (fun a w => Undisturbed a ∧ SoundStep CJson.treeLib a w)
      firstBoot racingDeleted :=
    (((Run.single ⟨hquiet _, hdefault⟩ rfl).tail ⟨hquiet _, hracing⟩ rfl).tail ⟨hquiet _, hload⟩ rfl).tail
      ⟨hquiet _, hdelete⟩ rfl
  refine ⟨hrun, ?_, ?_, consistent_of_run _ _ _ _ _ hexist (fun _ => rfl) rfl hrun⟩ <;> decide +kernel

/-- **Deleting the active `Default`** right after the first start: the delete succeeds, nothing is
marked unsaved, and the active profile has no file. -/
theorem delete_default_leaves_no_file :
    ∃ w, Run (step CJson.treeLib) (fun a _ => Undisturbed a) firstBoot w ∧
      ¬Consistent CJson.treeLib w := by
  have hquiet : Undisturbed (deleteProfile defaultName) := rfl
  refine ⟨act CJson.treeLib (deleteProfile defaultName) firstBoot, Run.single hquiet rfl, ?_⟩
  intro h
  obtain ⟨doc, hdoc, -⟩ := h.file (by decide +kernel)
  have hnone : (readProfile CJson.treeLib
      (act CJson.treeLib (deleteProfile defaultName) firstBoot).fs
      (act CJson.treeLib (deleteProfile defaultName) firstBoot).pm.activeName).isNone = true := by
    decide +kernel
  rw [hdoc] at hnone
  cases hnone

end Dstx
