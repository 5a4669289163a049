/-
# Dstx.Profile.Refusals — an answer of -1 means that NOTHING of the settings has moved.

`profile_process_requests` answers -1 from four places: a load, a save or a deletion that fails, and an
unknown request.  `Refused w w'` is what such an answer may leave: the files, since a failed save can leave
its temporary file, the answer itself, and a cleared request cell.  `processRequest_respond` goes through
the `switch` once; `profileProcessRequests_refused` is the law for every world, request and name.
-/
import Dstx.Profile.RoundTrip
import Dstx.Profile.Steps

namespace Dstx

open Dstx.Lib

variable {Text : Type} {J : CJson.Lib Text}

/-- **What a refused request may change**: files, the response cells, the request cell. -/
def Refused (w w' : World Text) : Prop :=
  ∃ fs response msg, w' = { w with
    fs := fs
    shm := { w.shm with
      profileResponse := response
      profileResponseMsg := msg
      profileRequest := 0 } }

/-- A world that differs in its files only. -/
def FilesOnly (w w' : World Text) : Prop := ∃ fs, w' = { w with fs := fs }

theorem filesOnly_load {w w₁ : World Text} {name : CStr}
    (h : loadProfileFromDisk J w name = (false, w₁)) : FilesOnly w w₁ := by
  obtain ⟨hshm, hin, -⟩ := loadProfileFromDisk_frame J w name
  rw [h] at hshm hin
  have hpm := (unchanged_load J h).2.pm
  refine ⟨w₁.fs, ?_⟩
  cases w₁
  simp_all

theorem filesOnly_save {w w₁ : World Text} {name : CStr} {env : Env Text}
    (h : saveProfileToDisk J w name env = (false, w₁)) : FilesOnly w w₁ := by
  have hspec := saveProfileToDisk_spec J w name env
  rw [h] at hspec
  rcases hspec with ⟨hok, -⟩ | ⟨-, hfail⟩
  · cases hok
  · refine ⟨w₁.fs, ?_⟩
    obtain ⟨hpm, hin, hshm⟩ : w₁.pm = w.pm ∧ w₁.inotify = w.inotify ∧ w₁.shm = w.shm :=
      ⟨hfail.pm, hfail.inotify, hfail.shm⟩
    cases w₁
    simp_all

/-- The answers of the `switch` other than 1 are given with nothing but files touched. -/
theorem processRequest_respond (w : World Text) (req : Int) (name : CStr) (env : Env Text) :
    (∃ w₁ msg, processRequest J w req name env = (w₁, .respond (-1) msg) ∧ FilesOnly w w₁) ∨
      (answer req (processRequest J w req name env)).shm.profileResponse = 1 := by
  unfold processRequest
  split_ifs
  · unfold processLoad
    cases hl : loadProfileFromDisk J w name with
    | mk ok w₁ =>
        cases ok with
        | true => exact Or.inr rfl
        | false => exact Or.inl ⟨_, _, rfl, filesOnly_load hl⟩
  · unfold processSave
    cases hs : saveProfileToDisk J w name env with
    | mk ok w₁ =>
        cases ok with
        | true => exact Or.inr rfl
        | false => exact Or.inl ⟨_, _, rfl, filesOnly_save hs⟩
  · unfold processDelete
    cases w.fs.unlink (profilePath name) with
    | none => exact Or.inl ⟨_, _, rfl, w.fs, rfl⟩
    | some fs =>
        right
        dsimp only
        split_ifs
        · rfl
        · rfl
  · exact Or.inr rfl
  · exact Or.inr rfl
  · exact Or.inl ⟨_, _, rfl, w.fs, rfl⟩

/-- A response of -1 comes with a refusal; with no request posted nothing happens at all. -/
theorem refused_of_response {w : World Text} {env : Env Text}
    (h : (profileProcessRequests J w env).shm.profileResponse = -1) :
    Refused w (profileProcessRequests J w env) := by
  unfold profileProcessRequests at h ⊢
  dsimp only at h ⊢
  split_ifs at h ⊢ with hreq
  · refine ⟨w.fs, w.shm.profileResponse, w.shm.profileResponseMsg, ?_⟩
    rw [← hreq]
  · rcases processRequest_respond (J := J) w w.shm.profileRequest
      (strncpy profileNameLen w.shm.profileName) env with ⟨w₁, msg, heq, fs, rfl⟩ | hone
    · rw [heq]
      exact ⟨fs, -1, _, rfl⟩
    · rw [hone] at h
      cases h

/-- **A request that is answered with -1 changed nothing but files**: the manager is as before, with the
active profile and its slots, its name, the dirty flag and the auto-save settings; so are the shared slots,
the shared auto-save cells and the shared name; and the request cell is cleared.  For every world, request
code and name. -/
theorem profileProcessRequests_refused (w : World Text) (env : Env Text)
    (h : (profileProcessRequests J w env).shm.profileResponse = -1) :
    (profileProcessRequests J w env).pm = w.pm ∧
      (profileProcessRequests J w env).shm.slots = w.shm.slots ∧
      (profileProcessRequests J w env).shm.autoSaveEnabled = w.shm.autoSaveEnabled ∧
      (profileProcessRequests J w env).shm.autoSaveDelayMs = w.shm.autoSaveDelayMs ∧
      (profileProcessRequests J w env).shm.currentProfileName = w.shm.currentProfileName ∧
      (profileProcessRequests J w env).shm.profileRequest = 0 := by
  obtain ⟨fs, response, msg, heq⟩ := refused_of_response h
  rw [heq]
  exact ⟨rfl, rfl, rfl, rfl, rfl, rfl⟩

/-- A load of a profile that does not exist. -/
def missingLoad : World (Option CJson) :=
  { blankWorld with shm := { initialShm with profileRequest := 1, profileName := "Racing".toList } }

theorem profileProcessRequests_refused_missing :
    (profileProcessRequests CJson.treeLib missingLoad quietEnv).shm.profileResponse = -1 ∧
      (profileProcessRequests CJson.treeLib missingLoad quietEnv).pm = missingLoad.pm ∧
      (profileProcessRequests CJson.treeLib missingLoad quietEnv).shm.slots = missingLoad.shm.slots ∧
      (profileProcessRequests CJson.treeLib missingLoad quietEnv).shm.autoSaveEnabled =
        missingLoad.shm.autoSaveEnabled ∧
      (profileProcessRequests CJson.treeLib missingLoad quietEnv).shm.autoSaveDelayMs =
        missingLoad.shm.autoSaveDelayMs ∧
      (profileProcessRequests CJson.treeLib missingLoad quietEnv).shm.currentProfileName =
        missingLoad.shm.currentProfileName ∧
      (profileProcessRequests CJson.treeLib missingLoad quietEnv).shm.profileRequest = 0 :=
  have hanswer : (profileProcessRequests CJson.treeLib missingLoad quietEnv).shm.profileResponse = -1 := by
    decide
  ⟨hanswer, profileProcessRequests_refused missingLoad quietEnv hanswer⟩

end Dstx
