/-
# Dstx.Profile.Request — what a client posts (`profile_request_sync`, `shm_request_sync`).

The two client functions are the same code under two names.  A call posts a request code, a profile
name cut to the cell's 63 bytes (a NULL name posts the empty string) and, when they are not negative,
new auto-save settings; it clears the previous response.  Every caller passes one of the five
documented request codes.
-/
import Dstx.Profile.Manager

namespace Dstx

open Dstx.Lib

/-- The documented request codes. -/
inductive ProfileRequest where
  | load
  | save
  | delete
  | list
  | setAutoSave
  deriving DecidableEq

/-- `1=load, 2=save, 3=delete, 4=list, 5=set_auto_save`. -/
def ProfileRequest.code : ProfileRequest → Int
  | .load => 1
  | .save => 2
  | .delete => 3
  | .list => 4
  | .setAutoSave => 5

theorem ProfileRequest.code_ne_zero (r : ProfileRequest) : r.code ≠ 0 := by
  cases r <;> decide

/-- The arguments of one `profile_request_sync` / `shm_request_sync` call. -/
structure Call where
  request : ProfileRequest
  name : Option CStr
  autoEnable : Int
  autoDelay : Int
  deriving DecidableEq

/-- The bytes a call puts into `shm->profile_name`. -/
def Call.postedName (c : Call) : CStr :=
  match c.name with
  | some name => strncpy profileNameLen name
  | none => []

/-- **The posting section of the client functions**, as one step. -/
def postRequest (c : Call) (shm : SharedData) : SharedData :=
  { shm with
    profileRequest := c.request.code
    profileName := c.postedName
    autoSaveEnabled := if 0 ≤ c.autoEnable then c.autoEnable else shm.autoSaveEnabled
    autoSaveDelayMs := if 0 ≤ c.autoDelay then c.autoDelay else shm.autoSaveDelayMs
    profileResponse := 0
    profileResponseMsg := [] }

/-- Reading the cell cuts nothing more off. -/
theorem strncpy_postedName (c : Call) : strncpy profileNameLen c.postedName = c.postedName := by
  apply strncpy_of_length
  unfold Call.postedName
  split
  · exact strncpy_length _ _
  · exact Nat.zero_le _

theorem postedName_length (c : Call) : c.postedName.length ≤ 63 := by
  unfold Call.postedName
  split
  · exact strncpy_length _ _
  · exact Nat.zero_le _

variable {Text : Type} (J : CJson.Lib Text)

/-- **A request served in one go**: a client posts it and the settings thread processes it. -/
def serve (w : World Text) (c : Call) (env : Env Text) : World Text :=
  profileProcessRequests J { w with shm := postRequest c w.shm } env

end Dstx
