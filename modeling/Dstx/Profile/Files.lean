/-
# Dstx.Profile.Files — what loading, saving and deleting do to the profile files.

One spec lemma per file operation of `settings.c`, stated through `fileOf`: the node (inode and
text) a profile NAME currently names.  Two names may name one file (`Default` and `./Default`), so
the effect on every other name is decided by `SameFile`, not by string equality.

* a save that succeeds puts a NEW inode with the printed text under the name, and touches nothing else;
* a save that fails leaves every profile file alone (at most a temporary file is left behind);
* a delete removes the one file;
* a load reads, and changes nothing on disk.
-/
import Dstx.Profile.Manager

namespace Dstx

open Dstx.Lib

variable {Text : Type}

/-! ## Where a profile name leads -/

/-- The resolved path of a profile name. -/
def profileFile (fs : Fs Text) (name : CStr) : Option Path := resolve fs.isDir (profilePath name)

/-- The file a profile name currently names. -/
def fileOf (fs : Fs Text) (name : CStr) : Option (Node Text) := fs.stat (profilePath name)

/-- Two profile names lead to one path. -/
def SameFile (fs : Fs Text) (a b : CStr) : Prop := profileFile fs a = profileFile fs b

instance (fs : Fs Text) (a b : CStr) : Decidable (SameFile fs a b) :=
  inferInstanceAs (Decidable (_ = _))

theorem fileOf_eq (fs : Fs Text) (name : CStr) :
    fileOf fs name = (profileFile fs name).bind fs.node := rfl

theorem SameFile.fileOf_eq {fs : Fs Text} {a b : CStr} (h : SameFile fs a b) :
    fileOf fs a = fileOf fs b := by
  rw [Dstx.fileOf_eq, Dstx.fileOf_eq, h]

/-- `".json"` and `".json.tmp"` are plain file names whatever stands before them. -/
theorem plain_append_json (stem : CStr) : Plain (stem ++ ".json".toList) := by
  refine ⟨?_, ?_, ?_⟩ <;>
    · intro h
      have := congrArg List.length h
      simp at this

theorem plain_append_tmp (stem : CStr) : Plain (stem ++ ".json.tmp".toList) := by
  refine ⟨?_, ?_, ?_⟩ <;>
    · intro h
      have := congrArg List.length h
      simp at this

/-- The segments of `profilesDir` followed by a suffix of the profile's name. -/
theorem splitOn_profilesDir (rest : CStr) :
    (profilesDir ++ '/' :: rest).splitOn '/' = ([] :: profilesPath) ++ rest.splitOn '/' := by
  rw [List.splitOn_append_cons_self]
  rfl

/-- Resolve a path below `profilesDir` whose last segment `last` is plain. -/
theorem resolve_below {isDir : Path → Bool} {rest : CStr} {dirs : List CStr} {last : CStr}
    (hsplit : rest.splitOn '/' = dirs ++ [last]) (hlast : Plain last) :
    resolve isDir (profilesDir ++ '/' :: rest) =
      (walk isDir [] (([] :: profilesPath) ++ dirs)).map (· ++ [last]) := by
  have hsegs : (profilesDir ++ '/' :: rest).splitOn '/' =
      (([] :: profilesPath) ++ dirs) ++ [last] := by
    rw [splitOn_profilesDir, hsplit, List.append_assoc]
  unfold resolve
  rw [hsegs]
  simp only [List.getLast?_concat, List.dropLast_concat, if_pos hlast]

/-- **The profile file and its temporary file lie in one directory**: for every name there are the
directory segments and a stem, so that `<stem>.json` and `<stem>.json.tmp` are resolved alike. -/
theorem resolve_profile (isDir : Path → Bool) (name : CStr) :
    ∃ dirs stem, name.splitOn '/' = dirs ++ [stem] ∧
      resolve isDir (profilePath name) =
        (walk isDir [] (([] :: profilesPath) ++ dirs)).map (· ++ [stem ++ ".json".toList]) ∧
      resolve isDir (profileTmpPath name) =
        (walk isDir [] (([] :: profilesPath) ++ dirs)).map (· ++ [stem ++ ".json.tmp".toList]) := by
  obtain ⟨dirs, stem, hname, hjson⟩ :=
    splitOn_append_of_not_mem (show '/' ∉ ".json".toList by decide) name
  obtain ⟨dirs', stem', hname', htmp⟩ :=
    splitOn_append_of_not_mem (show '/' ∉ ".json.tmp".toList by decide) name
  have hsame : dirs' = dirs ∧ stem' = stem := by
    have h : dirs' ++ [stem'] = dirs ++ [stem] := hname'.symm.trans hname
    obtain ⟨h₁, h₂⟩ := List.append_inj' h rfl
    exact ⟨h₁, by simpa using h₂⟩
  obtain ⟨rfl, rfl⟩ := hsame
  have htmpPath : profileTmpPath name = profilesDir ++ '/' :: (name ++ ".json.tmp".toList) := by
    unfold profileTmpPath profilePath
    simp
  refine ⟨dirs', stem', hname, ?_, ?_⟩
  · exact resolve_below hjson (plain_append_json stem')
  · rw [htmpPath]
    exact resolve_below htmp (plain_append_tmp stem')

/-- No profile file is a temporary file. -/
theorem json_ne_tmp (d d' : Path) (a b : CStr) :
    d ++ [a ++ ".json".toList] ≠ d' ++ [b ++ ".json.tmp".toList] := by
  intro h
  have hlast : a ++ ".json".toList = b ++ ".json.tmp".toList := by
    simpa using (List.append_inj' h rfl).2
  -- the last characters differ
  have := congrArg List.getLast? hlast
  simp at this

/-- The path of any profile name is different from the temporary path of any profile name. -/
theorem profileFile_ne_tmp {fs : Fs Text} {name name' : CStr} {p q : Path}
    (hp : profileFile fs name = some p) (hq : resolve fs.isDir (profileTmpPath name') = some q) :
    p ≠ q := by
  obtain ⟨dirs, stem, -, hj, -⟩ := resolve_profile fs.isDir name
  obtain ⟨dirs', stem', -, -, ht⟩ := resolve_profile fs.isDir name'
  unfold profileFile at hp
  rw [hj] at hp
  rw [ht] at hq
  obtain ⟨d, -, rfl⟩ := Option.map_eq_some_iff.mp hp
  obtain ⟨d', -, rfl⟩ := Option.map_eq_some_iff.mp hq
  exact json_ne_tmp d d' stem stem'

/-- A profile name resolves exactly when its temporary name does. -/
theorem tmp_isSome_iff (fs : Fs Text) (name : CStr) :
    (resolve fs.isDir (profileTmpPath name)).isSome = (profileFile fs name).isSome := by
  obtain ⟨dirs, stem, -, hj, ht⟩ := resolve_profile fs.isDir name
  unfold profileFile
  rw [hj, ht, Option.isSome_map, Option.isSome_map]

/-- When only the node at the path of `name` changes (among the profile files), exactly the names of
that file see the change. -/
theorem fileOf_update {fs fs' : Fs Text} {name : CStr} {p : Path} {x : Option (Node Text)}
    (hdir : fs'.isDir = fs.isDir) (hp : profileFile fs name = some p) (hnode : fs'.node p = x)
    (hframe : ∀ name' r, profileFile fs name' = some r → r ≠ p → fs'.node r = fs.node r)
    (name' : CStr) :
    fileOf fs' name' = if SameFile fs name' name then x else fileOf fs name' := by
  have hfile : profileFile fs' name' = profileFile fs name' := by
    unfold profileFile
    rw [hdir]
  rw [fileOf_eq, fileOf_eq, hfile]
  by_cases hs : SameFile fs name' name
  · have hr : profileFile fs name' = some p := hs.trans hp
    rw [if_pos hs, hr]
    exact hnode
  · rw [if_neg hs]
    cases hr : profileFile fs name' with
    | none => rfl
    | some r =>
        have hrp : r ≠ p := by
          rintro rfl
          exact hs (hr.trans hp.symm)
        exact hframe name' r hr hrp

/-! ## Saving -/

variable (J : CJson.Lib Text)

/-- **The effect of a completed save**: under `name` (and every name of the same file) there is a
new node holding `text`, with an inode the file did not have before; every other profile file, the
directories, the manager, the watches and the shared memory are as before. -/
structure SavedAs (w w' : World Text) (name : CStr) (text : Text) : Prop where
  resolved : (profileFile w.fs name).isSome
  isDir : w'.fs.isDir = w.fs.isDir
  pm : w'.pm = w.pm
  shm : w'.shm = w.shm
  inotify : w'.inotify = w.inotify
  node : ∃ n : Node Text, n.text = text ∧ (∀ m, fileOf w.fs name = some m → n.ino ≠ m.ino) ∧
    ∀ name', fileOf w'.fs name' = if SameFile w.fs name' name then some n else fileOf w.fs name'
  ops : ∃ p q, profileFile w.fs name = some p ∧
    resolve w.fs.isDir (profileTmpPath name) = some q ∧
    w'.fs.ops = .replaced p :: .opened q :: w.fs.ops

/-- Writing the temporary file and renaming it works exactly when the name resolves. -/
theorem writeAndRename_spec (w : World Text) (name : CStr) (text : Text) :
    ((writeAndRename w name text).1 = true ∧ SavedAs w (writeAndRename w name text).2 name text) ∨
      (profileFile w.fs name = none ∧ writeAndRename w name text = (false, w)) := by
  cases hp : profileFile w.fs name with
  | none =>
      have hq : resolve w.fs.isDir (profileTmpPath name) = none := by
        have h := tmp_isSome_iff w.fs name
        rw [hp] at h
        simpa using h
      right
      refine ⟨rfl, ?_⟩
      simp [writeAndRename, Fs.writeFile, hq]
  | some p =>
      left
      obtain ⟨q, hq⟩ : ∃ q, resolve w.fs.isDir (profileTmpPath name) = some q := by
        have h := tmp_isSome_iff w.fs name
        rw [hp] at h
        exact Option.isSome_iff_exists.mp h
      have hpq : p ≠ q := profileFile_ne_tmp hp hq
      have hp' : resolve w.fs.isDir (profilePath name) = some p := hp
      have heq : writeAndRename w name text = (true, { w with
          fs := (((w.fs.put q text).log (.opened q)).move q p).log (.replaced p) }) := by
        simp [writeAndRename, Fs.writeFile, Fs.rename, hq, hp']
      rw [heq]
      refine ⟨rfl, ⟨by rw [hp]; rfl, rfl, rfl, rfl, rfl, ?_, ⟨p, q, hp, hq, rfl⟩⟩⟩
      refine ⟨w.fs.written q text, by simp, ?_, ?_⟩
      · -- the moved node is the temporary file's: an inode of its own, or a fresh one
        intro m hm he
        have hm' : w.fs.node p = some m := by
          rw [fileOf_eq, hp] at hm
          exact hm
        rcases w.fs.written_ino q text with ⟨n, hn, hi⟩ | ⟨-, hi⟩
        · exact hpq (w.fs.ino_inj _ _ _ _ hm' hn (he.symm.trans hi))
        · have := w.fs.ino_lt _ _ hm'
          omega
      · refine fileOf_update rfl hp (by simp) ?_
        intro name' r hr hrp
        have hrq : r ≠ q := profileFile_ne_tmp hr hq
        show (((w.fs.put q text).log (.opened q)).move q p).node r = _
        rw [Fs.move_node_of_ne _ hrq hrp, Fs.log_node, Fs.put_node_of_ne _ _ hrq]

/-- **A failed save** leaves the profile files, the manager and the shared memory alone; at most the
temporary file was opened. -/
structure SaveFailed (w w' : World Text) (name : CStr) : Prop where
  isDir : w'.fs.isDir = w.fs.isDir
  pm : w'.pm = w.pm
  shm : w'.shm = w.shm
  inotify : w'.inotify = w.inotify
  files : ∀ name', fileOf w'.fs name' = fileOf w.fs name'
  ops : w'.fs.ops = w.fs.ops ∨
    ∃ q, resolve w.fs.isDir (profileTmpPath name) = some q ∧ w'.fs.ops = .opened q :: w.fs.ops

/-- The answers of the operating system under which a save gets as far as replacing the file. -/
def SaveIo.replaces : SaveIo Text → Bool
  | .ok => true
  | .fails => false
  | .shortWrite _ => true
  | .renameFails => false

theorem replaces_of_saved {w : World Text} {name : CStr} {env : Env Text}
    (h : (saveProfileToDisk J w name env).1 = true) : env.io.replaces = true := by
  unfold saveProfileToDisk at h
  cases hio : env.io with
  | ok => rfl
  | shortWrite t => rfl
  | fails =>
      rw [hio] at h
      cases h
  | renameFails =>
      rw [hio] at h
      dsimp only at h
      split at h <;> cases h

/-- The text a save puts into the file, given how the operating system answers. -/
def savedText (w : World Text) (env : Env Text) : Text :=
  match env.io with
  | .shortWrite t => t
  | _ => profileText J w.pm env.now

/-- **Spec of `save_profile_to_disk`.** -/
theorem saveProfileToDisk_spec (w : World Text) (name : CStr) (env : Env Text) :
    ((saveProfileToDisk J w name env).1 = true ∧
        SavedAs w (saveProfileToDisk J w name env).2 name (savedText J w env)) ∨
      ((saveProfileToDisk J w name env).1 = false ∧
        SaveFailed w (saveProfileToDisk J w name env).2 name) := by
  have hsame : SaveFailed w w name := ⟨rfl, rfl, rfl, rfl, fun _ => rfl, Or.inl rfl⟩
  unfold saveProfileToDisk savedText
  cases env.io with
  | fails => exact Or.inr ⟨rfl, hsame⟩
  | ok =>
      rcases writeAndRename_spec w name (profileText J w.pm env.now) with h | ⟨-, h⟩
      · exact Or.inl h
      · right
        simp only [h]
        exact ⟨trivial, hsame⟩
  | shortWrite t =>
      rcases writeAndRename_spec w name t with h | ⟨-, h⟩
      · exact Or.inl h
      · right
        simp only [h]
        exact ⟨trivial, hsame⟩
  | renameFails =>
      right
      simp only [Fs.writeFile]
      cases hq : resolve w.fs.isDir (profileTmpPath name) with
      | none => exact ⟨rfl, hsame⟩
      | some q =>
          refine ⟨rfl, ⟨rfl, rfl, rfl, rfl, ?_, Or.inr ⟨q, hq, rfl⟩⟩⟩
          intro name'
          -- only the temporary file was written
          show (profileFile w.fs name').bind (w.fs.put q _).node = (profileFile w.fs name').bind _
          cases hn : profileFile w.fs name' with
          | none => rfl
          | some r => exact Fs.put_node_of_ne _ _ (profileFile_ne_tmp hn hq)

/-- With a cooperating operating system a save succeeds exactly when the name resolves. -/
theorem saveProfileToDisk_ok {w : World Text} {name : CStr} {env : Env Text} (hio : env.io = .ok)
    (hres : (profileFile w.fs name).isSome) :
    (saveProfileToDisk J w name env).1 = true ∧
      SavedAs w (saveProfileToDisk J w name env).2 name (profileText J w.pm env.now) := by
  have heq : saveProfileToDisk J w name env =
      writeAndRename w name (profileText J w.pm env.now) := by
    simp [saveProfileToDisk, hio]
  rw [heq]
  rcases writeAndRename_spec w name (profileText J w.pm env.now) with h | ⟨hnone, -⟩
  · exact h
  · rw [hnone] at hres
    cases hres

/-- Parsing the printed active profile gives back the document. -/
theorem parse_profileText (pm : ProfileManager) (now : TimeT) :
    (J.parse (profileText J pm now)).bind acceptDocument =
      some (.number pm.activeProfile.version.toNat, .number now, saveSlots pm.activeProfile.slots) := by
  unfold profileText
  rw [J.parse_print _ (exact_saveDocument _ _ _)]
  rfl

/-! ## Deleting -/

/-- **Spec of `unlink`** on a profile path. -/
theorem unlink_spec {fs fs' : Fs Text} {name : CStr} (h : fs.unlink (profilePath name) = some fs') :
    fs'.isDir = fs.isDir ∧ (fileOf fs name).isSome ∧
      (∃ p, profileFile fs name = some p ∧ fs'.ops = .unlinked p :: fs.ops) ∧
      ∀ name', fileOf fs' name' = if SameFile fs name' name then none else fileOf fs name' := by
  simp only [Fs.unlink, Option.bind_eq_some_iff, Option.map_eq_some_iff] at h
  obtain ⟨p, hp, n, hn, rfl⟩ := h
  have hp' : profileFile fs name = some p := hp
  refine ⟨rfl, ?_, ⟨p, hp', rfl⟩, ?_⟩
  · rw [fileOf_eq, hp']
    simp [hn]
  · refine fileOf_update rfl hp' (Fs.remove_node_self fs p) ?_
    intro name' r _ hrp
    exact Fs.remove_node_of_ne fs hrp

theorem unlink_isSome_iff (fs : Fs Text) (name : CStr) :
    (fs.unlink (profilePath name)).isSome = (fileOf fs name).isSome := by
  unfold Fs.unlink fileOf Fs.stat
  cases resolve fs.isDir (profilePath name) <;> simp

/-! ## Loading -/

/-- The document members a profile name's file offers to `load_profile_from_disk`, if it is
accepted. -/
def readProfile (fs : Fs Text) (name : CStr) : Option (CJson × CJson × CJson) :=
  (fileOf fs name).bind fun n => (J.parse n.text).bind acceptDocument

/-- The `slots` array of an accepted file. -/
def readSlots (fs : Fs Text) (name : CStr) : Option CJson := (readProfile J fs name).map (·.2.2)

/-- **Spec of `load_profile_from_disk`.**  A load is accepted exactly when `readProfile` is; then
name and slots are set; nothing else of the manager, and nothing on disk, changes. -/
theorem loadProfileFromDisk_spec (w : World Text) (name : CStr) :
    (∃ doc, readProfile J w.fs name = some doc ∧
        (loadProfileFromDisk J w name).1 = true ∧
        (loadProfileFromDisk J w name).2.pm = { w.pm with
          activeProfile :=
            { name := name
              version := toU32 doc.1.valueint
              lastModified := toU64 doc.2.1.valueint
              slots := loadSlots doc.2.2 w.pm.activeProfile.slots } }) ∨
      (readProfile J w.fs name = none ∧
        (loadProfileFromDisk J w name).1 = false ∧ (loadProfileFromDisk J w name).2.pm = w.pm) := by
  unfold loadProfileFromDisk readProfile fileOf Fs.stat Fs.readFile
  cases resolve w.fs.isDir (profilePath name) with
  | none => exact Or.inr ⟨rfl, rfl, rfl⟩
  | some p =>
      cases hn : w.fs.node p with
      | none =>
          right
          simp [hn]
      | some n =>
          simp only [Option.bind_some, Option.map_some, hn]
          cases (J.parse n.text).bind acceptDocument with
          | none => exact Or.inr ⟨rfl, rfl, rfl⟩
          | some doc => exact Or.inl ⟨doc, rfl, rfl, rfl⟩

/-- A load leaves shared memory, watches, directories and files alone. -/
theorem loadProfileFromDisk_frame (w : World Text) (name : CStr) :
    (loadProfileFromDisk J w name).2.shm = w.shm ∧
      (loadProfileFromDisk J w name).2.inotify = w.inotify ∧
      (loadProfileFromDisk J w name).2.fs.isDir = w.fs.isDir ∧
      (loadProfileFromDisk J w name).2.fs.node = w.fs.node ∧
      (loadProfileFromDisk J w name).2.fs.ops =
        ((profileFile w.fs name).bind fun p =>
          (w.fs.node p).map fun _ => FileOp.opened p).toList ++ w.fs.ops := by
  unfold loadProfileFromDisk Fs.readFile profileFile
  cases resolve w.fs.isDir (profilePath name) with
  | none => exact ⟨rfl, rfl, rfl, rfl, rfl⟩
  | some p =>
      cases hn : w.fs.node p with
      | none => simp [hn]
      | some n =>
          simp only [Option.bind_some, Option.map_some, hn]
          cases (J.parse n.text).bind acceptDocument <;> exact ⟨rfl, rfl, rfl, rfl, rfl⟩

/-! ## What never reaches shared memory -/

theorem loadProfileFromDisk_shm (w : World Text) (name : CStr) :
    (loadProfileFromDisk J w name).2.shm = w.shm :=
  (loadProfileFromDisk_frame J w name).1

theorem saveProfileToDisk_shm (w : World Text) (name : CStr) (env : Env Text) :
    (saveProfileToDisk J w name env).2.shm = w.shm := by
  rcases saveProfileToDisk_spec J w name env with ⟨-, h⟩ | ⟨-, h⟩
  · exact h.shm
  · exact h.shm

theorem profileHandleAutoSave_shm (w : World Text) (env : Env Text) :
    (profileHandleAutoSave J w env).shm = w.shm := by
  have hsave := saveProfileToDisk_shm J w w.pm.activeName env
  unfold profileHandleAutoSave
  split
  · split
    · rename_i heq
      rw [heq] at hsave
      exact hsave
    · rename_i heq
      rw [heq] at hsave
      exact hsave
  · rfl

/-- The `switch` of `profile_process_requests`, up to its shared-memory sections. -/
theorem processRequest_shm (w : World Text) (req : Int) (name : CStr) (env : Env Text) :
    (processRequest J w req name env).1.shm = w.shm := by
  unfold processRequest
  split
  · have hload := loadProfileFromDisk_shm J w name
    unfold processLoad
    split
    · rename_i heq
      rw [heq] at hload
      simpa using hload
    · rename_i heq
      rw [heq] at hload
      exact hload
  split
  · have hsave := saveProfileToDisk_shm J w name env
    unfold processSave
    split
    · rename_i heq
      rw [heq] at hsave
      dsimp only
      split
      · exact hsave
      · exact hsave
    · rename_i heq
      rw [heq] at hsave
      exact hsave
  split
  · unfold processDelete
    split
    · rename_i fs _
      dsimp only
      split
      · rw [profileUpdateInotify_shm]
        exact loadProfileFromDisk_shm J { w with fs := fs } defaultName
      · rfl
    · rfl
  split
  · rfl
  split
  · rfl
  · rfl

/-- Files seen through `fileOf` depend on directories and nodes only. -/
theorem fileOf_congr {fs fs' : Fs Text} (hd : fs'.isDir = fs.isDir) (hn : fs'.node = fs.node)
    (name : CStr) : fileOf fs' name = fileOf fs name := by
  unfold fileOf Fs.stat
  rw [hd, hn]

/-! ## What the disk looks like through profile names -/

/-- Every profile name names the same node as before. -/
structure SameDisk (fs fs' : Fs Text) : Prop where
  isDir : fs'.isDir = fs.isDir
  files : ∀ name, fileOf fs' name = fileOf fs name

/-- The file of `name` is gone, under all its names; the other profile files are as before. -/
structure Removed (fs fs' : Fs Text) (name : CStr) : Prop where
  isDir : fs'.isDir = fs.isDir
  files : ∀ name', fileOf fs' name' = if SameFile fs name' name then none else fileOf fs name'

/-- A new node with `text` is under `name`, under all its names; the other profile files are as
before. -/
structure Stored (fs fs' : Fs Text) (name : CStr) (text : Text) : Prop where
  resolved : (profileFile fs name).isSome
  isDir : fs'.isDir = fs.isDir
  files : ∃ n : Node Text, n.text = text ∧
    ∀ name', fileOf fs' name' = if SameFile fs name' name then some n else fileOf fs name'

theorem SavedAs.stored {w w' : World Text} {name : CStr} {text : Text}
    (h : SavedAs w w' name text) : Stored w.fs w'.fs name text := by
  obtain ⟨n, htext, -, hfiles⟩ := h.node
  exact ⟨h.resolved, h.isDir, n, htext, hfiles⟩

namespace SameDisk

theorem refl (fs : Fs Text) : SameDisk fs fs := ⟨rfl, fun _ => rfl⟩

theorem trans {fs₁ fs₂ fs₃ : Fs Text} (h₁ : SameDisk fs₁ fs₂) (h₂ : SameDisk fs₂ fs₃) :
    SameDisk fs₁ fs₃ :=
  ⟨h₂.isDir.trans h₁.isDir, fun name => (h₂.files name).trans (h₁.files name)⟩

theorem readProfile_eq {fs fs' : Fs Text} (h : SameDisk fs fs') (name : CStr) :
    readProfile J fs' name = readProfile J fs name := by
  unfold readProfile
  rw [h.files]

end SameDisk

/-- The names of other files read what they read before. -/
theorem Removed.readProfile_eq {fs fs' : Fs Text} {name name' : CStr} (h : Removed fs fs' name)
    (hne : ¬SameFile fs name' name) : readProfile J fs' name' = readProfile J fs name' := by
  unfold readProfile
  rw [h.files, if_neg hne]

theorem Stored.readProfile_eq {fs fs' : Fs Text} {name name' : CStr} {text : Text}
    (h : Stored fs fs' name text) (hne : ¬SameFile fs name' name) :
    readProfile J fs' name' = readProfile J fs name' := by
  obtain ⟨n, -, hfiles⟩ := h.files
  unfold readProfile
  rw [hfiles, if_neg hne]

/-- A file that was just saved is accepted under all its names, and offers the saved slots. -/
theorem Stored.readProfile_saved {fs fs' : Fs Text} {name name' : CStr} {pm : ProfileManager}
    {now : TimeT} (h : Stored fs fs' name (profileText J pm now)) (hs : SameFile fs name' name) :
    readProfile J fs' name' =
      some (.number pm.activeProfile.version.toNat, .number now,
        saveSlots pm.activeProfile.slots) := by
  obtain ⟨n, htext, hfiles⟩ := h.files
  unfold readProfile
  rw [hfiles, if_pos hs, Option.bind_some, htext]
  exact parse_profileText J pm now

/-- A load only reads. -/
theorem sameDisk_load (w : World Text) (name : CStr) :
    SameDisk w.fs (loadProfileFromDisk J w name).2.fs := by
  obtain ⟨-, -, hdir, hnode, -⟩ := loadProfileFromDisk_frame J w name
  exact ⟨hdir, fun name' => fileOf_congr hdir hnode name'⟩

theorem removed_of_unlink {fs fs' : Fs Text} {name : CStr}
    (h : fs.unlink (profilePath name) = some fs') : Removed fs fs' name := by
  obtain ⟨hdir, -, -, hfiles⟩ := unlink_spec h
  exact ⟨hdir, hfiles⟩

/-- The file of `name` is the printed form of `slots`. -/
def Records (fs : Fs Text) (name : CStr) (slots : Slots) : Prop :=
  ∃ n version now, fileOf fs name = some n ∧ n.text = J.print (saveDocument version slots now)

theorem records_of_stored {fs fs' : Fs Text} {name name' : CStr} {pm : ProfileManager} {now : TimeT}
    (hs : Stored fs fs' name (profileText J pm now)) (hsame : SameFile fs name' name) :
    Records J fs' name' pm.activeProfile.slots := by
  obtain ⟨n, htext, hfiles⟩ := hs.files
  refine ⟨n, pm.activeProfile.version, now, ?_, htext⟩
  rw [hfiles, if_pos hsame]

variable {J}

/-- What a file records is what it decodes to, up to the reader's ranges. -/
theorem Records.decoded {fs : Fs Text} {name : CStr} {slots : Slots} (h : Records J fs name slots) :
    ∃ doc, readProfile J fs name = some doc ∧
      ∀ old, loadSlots doc.2.2 old = fun i => (slots i).normalize := by
  obtain ⟨n, version, now, hfile, htext⟩ := h
  refine ⟨(.number version.toNat, .number now, saveSlots slots), ?_, fun old => loadSlots_saveSlots _ _⟩
  unfold readProfile
  rw [hfile, Option.bind_some, htext, J.parse_print _ (exact_saveDocument _ _ _)]
  exact acceptDocument_saveDocument _ _ _

/-- The red light a file shows for the first slot. -/
def filedRed (fs : Fs (Option CJson)) (name : CStr) : Option UInt8 :=
  (readProfile CJson.treeLib fs name).map fun doc =>
    (loadSlots doc.2.2 (fun _ => zeroSlot) ⟨0, maxSlots_pos⟩).ledR

/-- A file that shows another red light does not record the slots. -/
theorem not_records_of_red {fs : Fs (Option CJson)} {name : CStr} {slots : Slots} {red : UInt8}
    (h : filedRed fs name = some red) (hne : (slots ⟨0, by decide⟩).ledR ≠ red) :
    ¬Records CJson.treeLib fs name slots := by
  intro hrec
  obtain ⟨doc, hdoc, hslots⟩ := hrec.decoded
  unfold filedRed at h
  rw [hdoc, Option.map_some, hslots] at h
  exact hne (Option.some.inj h)

end Dstx
