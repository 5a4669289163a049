/-
# Dstx.Settings.Machine — the settings thread and its clients, statement by statement.

The whole protocol of `settings_worker` and `profile_request_sync` / `shm_request_sync`: one thread,
any number of clients `ι`, the shared memory and its mutex.  A step is ONE access to shared memory, one
lock operation, or one stretch of code that touches neither (`processRequest`, an auto-save, reading
the inotify queue).  Within a locked section, stores that no party reads without the lock are one step
with the unlock that ends the section.

`Pc` is the thread's control state with its local variables, `ClientPc` a client's.  `sysStep` gives the
next state of the label's party, or `none` when that party cannot move (the mutex is taken).  The
history `Hist` is what the statements about runs read and the code does not have.
-/
import Dstx.Lib.Run
import Dstx.Lib.Mailbox
import Dstx.Profile.Request
import Dstx.Settings.Setting

namespace Dstx

open Dstx.Lib
open Dstx.Lib.Mailbox (Party CallId)

/-! ## Control states -/

/-- What the thread does after `profile_apply_to_shm` and its companions. -/
inductive Cont where
  /-- Enter the loop (the prologue of `settings_worker`). -/
  | start
  /-- Answer the request. -/
  | request (req result : Int) (msg : CStr)
  /-- Answer a set-auto-save request, right after the auto-save cells. -/
  | setAuto (req : Int) (msg : CStr)
  /-- Go on with the inotify events. -/
  | reload (events : List InotifyEvent)

/-- Where the settings thread is. -/
inductive Pc where
  /-- `profile_apply_to_shm`: take the mutex. -/
  | applyLock (k : Cont)
  /-- The slots still to store; of the first one, the settings `rest`. -/
  | apply (slots : List (Fin maxSlots)) (rest : List Setting) (k : Cont)
  /-- `profile_sync_auto_save_to_shm`. -/
  | autoLock (k : Cont)
  | autoStore (k : Cont)
  /-- `profile_update_shm_current_name`. -/
  | curLock (k : Cont)
  | curStore (k : Cont)
  /-- `profile_sync_shm_to_active`: take the mutex. -/
  | syncLock
  /-- The slots still to read; of the first one, the settings `rest`; `new_cfg` and `changed`. -/
  | sync (slots : List (Fin maxSlots)) (rest : List Setting) (newCfg : SlotConfig) (changed : Bool)
  | syncEnd (changed : Bool)
  /-- `profile_process_requests`: read the request cell. -/
  | loadRequest
  | nameLock (req : Int)
  | nameRead (req : Int)
  | execute (req : Int) (name : CStr)
  | listLock (req : Int) (text : CStr)
  | listStore (req : Int) (text : CStr)
  | loadEnabled (req : Int)
  | loadDelay (req enabled : Int)
  | respLock (req result : Int) (msg : CStr)
  | respStore (req result : Int) (msg : CStr)
  | respFinish (req : Int) (msg : CStr)
  /-- `profile_handle_auto_save`. -/
  | autoSave
  /-- `profile_handle_inotify`. -/
  | readEvents
  | events (rest : List InotifyEvent)

/-- Where a client is in its call. -/
inductive ClientPc where
  | idle
  | postLock
  | storeRequest
  | storeName
  | storeEnable
  | storeDelay
  | clearResponse
  | clearMsg
  /-- The polls left before the time is up. -/
  | wait (left : Nat)
  | respLock (resp : Int)
  | readMsg (resp : Int)
  | takeResponse (resp : Int) (msg : CStr)
  deriving DecidableEq

/-- A client: how many calls it has started, the arguments of the last one, and where it is. -/
structure Client where
  calls : Nat
  call : Call
  pc : ClientPc

/-- `timeout_ms / step_ms` of the client functions. -/
def polls : Nat := 50

/-! ## History -/

/-- What has happened between the clients and the thread. -/
inductive Event (ι : Type) where
  | posted (id : CallId ι) (call : Call)
  /-- The thread executed the pair; `id` is the call that had stored the request code it read. -/
  | executed (id : Option (CallId ι)) (req : Int) (name : CStr)
  /-- A call returned the response and its text, or timed out. -/
  | returned (id : CallId ι) (response : Option (Int × CStr))

/-- The call of the last post, the call whose request the thread read last, the events, newest first;
the active slots before the thread last loaded a profile; the settings clients stored since the thread
last read or stored them; the settings a reload stored over that the profile before it did not
contain. -/
structure Hist (ι : Type) where
  last : Option (CallId ι × Call)
  loaded : Option (CallId ι)
  log : List (Event ι)
  before : Slots
  touched : Fin maxSlots → Setting → Bool
  overwritten : List (Fin maxSlots × Setting)

/-- **The system.** -/
structure Sys (Text ι : Type) where
  world : World Text
  lock : Option (Party ι)
  pc : Pc
  clients : ι → Client
  hist : Hist ι

variable {Text ι : Type}

/-- Who moves, with the environment's inputs. -/
inductive Label (Text ι : Type) where
  | thread (env : Env Text)
  /-- A client that is not in a call starts one. -/
  | call (c : ι) (call : Call)
  /-- A client's next statement. -/
  | client (c : ι)
  /-- A client that is not in a call stores a setting, with or without the mutex. -/
  | write (c : ι) (i : Fin maxSlots) (s : Setting) (v : Int)
  /-- Another program rewrites a file in place. -/
  | edit (p : Path) (t : Text)

/-- Replace one slot of shared memory. -/
def SharedData.setSlot (shm : SharedData) (i : Fin maxSlots) (ctrl : Controller) : SharedData :=
  { shm with slots := Function.update shm.slots i ctrl }

namespace Sys

/-- `pthread_mutex_lock`: `next` with the mutex, when it is free. -/
def acquire (σ : Sys Text ι) (p : Party ι) (next : Sys Text ι) : Option (Sys Text ι) :=
  match σ.lock with
  | none => some { next with lock := some p }
  | some _ => none

/-- The thread goes on at `pc`. -/
def at_ (σ : Sys Text ι) (pc : Pc) : Sys Text ι := { σ with pc := pc }

/-- The thread changes the world and goes on at `pc`. -/
def become (σ : Sys Text ι) (w : World Text) (pc : Pc) : Sys Text ι := { σ with world := w, pc := pc }

/-- Release the mutex. -/
def release (σ : Sys Text ι) : Sys Text ι := { σ with lock := none }

/-- Change shared memory. -/
def setShm (σ : Sys Text ι) (shm : SharedData) : Sys Text ι :=
  { σ with world := { σ.world with shm := shm } }

/-- The thread or a client has stored, or the thread has read, one setting. -/
def mark (σ : Sys Text ι) (i : Fin maxSlots) (s : Setting) (b : Bool) : Sys Text ι :=
  { σ with hist := { σ.hist with
      touched := Function.update σ.hist.touched i (Function.update (σ.hist.touched i) s b) } }

/-- Record an event. -/
def record (σ : Sys Text ι) (e : Event ι) : Sys Text ι :=
  { σ with hist := { σ.hist with log := e :: σ.hist.log } }

end Sys

/-! ## The thread -/

/-- The continuation after `profile_update_shm_current_name`. -/
def Cont.next : Cont → Pc
  | .start => .syncLock
  | .request req result msg => .respLock req result msg
  | .setAuto req msg => .respLock req 1 msg
  | .reload events => .events events

/-- What follows the `switch` of `profile_process_requests`. -/
def Outcome.next (req : Int) : Outcome → Pc
  | .publish result msg => .applyLock (.request req result msg)
  | .respond result msg => .respLock req result msg
  | .list text => .listLock req text
  | .autoSave => .loadEnabled req

/-- Store one setting of the active profile into shared memory.  A reload that stores over a value the
profile before it did not contain is recorded. -/
def Sys.applyCell (σ : Sys Text ι) (i : Fin maxSlots) (s : Setting) (k : Cont) : Sys Text ι :=
  let ctrl := σ.world.shm.slots i
  let stored := applySetting (σ.world.pm.activeProfile.slots i) ctrl s
  let σ' := (σ.setShm (σ.world.shm.setSlot i stored)).mark i s false
  match k with
  | .reload _ =>
      if ctrl.setting s = (σ.hist.before i).setting s then σ'
      else { σ' with hist := { σ'.hist with overwritten := (i, s) :: σ'.hist.overwritten } }
  | _ => σ'

/-- What storing a setting does: the setting is stored and no longer touched; what is overwritten is
recorded only in a reload, and only when the profile before it did not contain the value. -/
theorem applyCell_spec (σ : Sys Text ι) (i : Fin maxSlots) (s : Setting) (k : Cont) :
    ∃ lost, σ.applyCell i s k =
        { (σ.setShm (σ.world.shm.setSlot i
            (applySetting (σ.world.pm.activeProfile.slots i) (σ.world.shm.slots i) s))).mark i s
              false with
          hist := { (σ.mark i s false).hist with overwritten := lost } } ∧
      (lost = σ.hist.overwritten ∨
        (∃ events, k = .reload events) ∧
          (σ.world.shm.slots i).setting s ≠ (σ.hist.before i).setting s) := by
  unfold Sys.applyCell
  cases k with
  | start => exact ⟨σ.hist.overwritten, rfl, Or.inl rfl⟩
  | request req result msg => exact ⟨σ.hist.overwritten, rfl, Or.inl rfl⟩
  | setAuto req msg => exact ⟨σ.hist.overwritten, rfl, Or.inl rfl⟩
  | reload events =>
      dsimp only
      split
      · exact ⟨σ.hist.overwritten, rfl, Or.inl rfl⟩
      · rename_i hne
        exact ⟨(i, s) :: σ.hist.overwritten, rfl, Or.inr ⟨⟨events, rfl⟩, hne⟩⟩

/-- The end of a slot in `profile_sync_shm_to_active`: compare, and copy `new_cfg`. -/
def copySlot (w : World Text) (i : Fin maxSlots) (newCfg : SlotConfig) (changed : Bool) :
    Bool × World Text :=
  if slotDiffers (w.pm.activeProfile.slots i) newCfg then
    (true, { w with pm := { w.pm with activeProfile := { w.pm.activeProfile with
      slots := Function.update w.pm.activeProfile.slots i newCfg } } })
  else (changed, w)

variable (J : CJson.Lib Text)

/-- **The settings thread's next step.** -/
def threadStep (env : Env Text) (σ : Sys Text ι) : Option (Sys Text ι) :=
  let w := σ.world
  match σ.pc with
  | .applyLock k => σ.acquire .server (σ.at_ (.apply (List.finRange maxSlots) storeOrder k))
  | .apply [] _ k => some (σ.release.at_ (.autoLock k))
  | .apply (i :: more) (s :: rest) k => some ((σ.applyCell i s k).at_ (.apply (i :: more) rest k))
  | .apply (i :: more) [] k =>
      -- `led_dirty` ends the slot
      some ((σ.setShm (w.shm.setSlot i { w.shm.slots i with ledDirty := true })).at_
        (.apply more storeOrder k))
  | .autoLock k => σ.acquire .server (σ.at_ (.autoStore k))
  | .autoStore k =>
      -- the set-auto-save request syncs these two cells only
      some (σ.release.become (profileSyncAutoSaveToShm w)
        (match k with
          | .setAuto req msg => .respLock req 1 msg
          | k => .curLock k))
  | .curLock k => σ.acquire .server (σ.at_ (.curStore k))
  | .curStore k => some (σ.release.become (profileUpdateShmCurrentName w w.pm.activeName) k.next)
  | .syncLock =>
      σ.acquire .server (σ.at_ (.sync (List.finRange maxSlots) readOrder zeroSlot false))
  | .sync [] _ _ changed => some (σ.release.at_ (.syncEnd changed))
  | .sync (i :: more) (s :: rest) newCfg changed =>
      some ((σ.mark i s false).at_
        (.sync (i :: more) rest (readSetting (w.shm.slots i) newCfg s) changed))
  | .sync (i :: more) [] newCfg changed =>
      let r := copySlot w i newCfg changed
      some (σ.become r.2 (.sync more readOrder newCfg r.1))
  | .syncEnd changed => some (σ.become (syncFlags changed w env) .loadRequest)
  | .loadRequest =>
      -- the request cell is read WITHOUT the mutex
      if w.shm.profileRequest = 0 then some (σ.at_ .autoSave)
      else some { σ.at_ (.nameLock w.shm.profileRequest) with
        hist := { σ.hist with loaded := σ.hist.last.map Prod.fst } }
  | .nameLock req => σ.acquire .server (σ.at_ (.nameRead req))
  | .nameRead req =>
      -- the name is read under the mutex, and may be another call's by now
      some (σ.release.at_ (.execute req (strncpy profileNameLen w.shm.profileName)))
  | .execute req name =>
      let r := processRequest J w req name env
      some { σ.become r.1 (r.2.next req) with
        hist := { σ.hist with
          log := .executed σ.hist.loaded req name :: σ.hist.log
          before := w.pm.activeProfile.slots } }
  | .listLock req text => σ.acquire .server (σ.at_ (.listStore req text))
  | .listStore req text =>
      some ((σ.setShm { w.shm with profileResponseMsg := strncpy 4096 text }).release.at_
        (.respLock req 1 []))
  | .loadEnabled req => some (σ.at_ (.loadDelay req w.shm.autoSaveEnabled))
  | .loadDelay req enabled =>
      let w' := setAutoSave enabled w.shm.autoSaveDelayMs w
      some (σ.become w' (.autoLock (.setAuto req (autoSaveMsg w'.pm))))
  | .respLock req result msg => σ.acquire .server (σ.at_ (.respStore req result msg))
  | .respStore req result msg =>
      some ((σ.setShm { w.shm with profileResponse := result }).at_ (.respFinish req msg))
  | .respFinish req msg =>
      -- the request cell is emptied, whatever it holds by now
      some ((σ.setShm { w.shm with
        profileResponseMsg := if req ≠ 4 ∧ msg ≠ [] then strncpy 4096 msg
          else w.shm.profileResponseMsg
        profileRequest := 0 }).release.at_ .autoSave)
  | .autoSave => some (σ.become (profileHandleAutoSave J w env) .readEvents)
  | .readEvents =>
      if w.pm.inotifyFd < 0 then some (σ.at_ .syncLock) else some (σ.at_ (.events env.events))
  | .events [] => some (σ.at_ .syncLock)
  | .events (.ignored :: rest) => some (σ.at_ (.events rest))
  | .events (.modify :: rest) =>
      -- `profile_dirty` knows what the last sync saw
      if w.pm.profileDirty then some (σ.at_ (.events rest))
      else
        match loadProfileFromDisk J w w.pm.activeName with
        | (true, w') =>
            some { σ.become w' (.applyLock (.reload rest)) with
              hist := { σ.hist with before := w.pm.activeProfile.slots } }
        | (false, w') => some (σ.become w' (.events rest))

/-! ## The clients -/

section Clients

variable [DecidableEq ι]

/-- Client `c` goes on at `pc`. -/
def Sys.clientAt (σ : Sys Text ι) (c : ι) (pc : ClientPc) : Sys Text ι :=
  { σ with clients := Function.update σ.clients c { σ.clients c with pc := pc } }

/-- The call client `c` is in. -/
def Sys.callId (σ : Sys Text ι) (c : ι) : CallId ι := (c, (σ.clients c).calls)

/-- **A client's next step** in `profile_request_sync` / `shm_request_sync`. -/
def clientStep (c : ι) (σ : Sys Text ι) : Option (Sys Text ι) :=
  let shm := σ.world.shm
  let call := (σ.clients c).call
  match (σ.clients c).pc with
  | .idle => none
  | .postLock => σ.acquire (.client c) (σ.clientAt c .storeRequest)
  | .storeRequest =>
      let σ' := (σ.setShm { shm with profileRequest := call.request.code }).clientAt c .storeName
      some { σ' with hist := { σ'.hist with
        last := some (σ.callId c, call)
        log := .posted (σ.callId c) call :: σ.hist.log } }
  | .storeName =>
      some ((σ.setShm { shm with profileName := call.postedName }).clientAt c .storeEnable)
  | .storeEnable =>
      some ((σ.setShm { shm with autoSaveEnabled :=
        if 0 ≤ call.autoEnable then call.autoEnable else shm.autoSaveEnabled }).clientAt c .storeDelay)
  | .storeDelay =>
      some ((σ.setShm { shm with autoSaveDelayMs :=
        if 0 ≤ call.autoDelay then call.autoDelay else shm.autoSaveDelayMs }).clientAt c .clearResponse)
  | .clearResponse => some ((σ.setShm { shm with profileResponse := 0 }).clientAt c .clearMsg)
  | .clearMsg =>
      some ((σ.setShm { shm with profileResponseMsg := [] }).release.clientAt c (.wait polls))
  | .wait 0 => some ((σ.record (.returned (σ.callId c) none)).clientAt c .idle)
  | .wait (left + 1) =>
      -- any nonzero response is taken for the answer to this call
      if shm.profileResponse ≠ 0 then some (σ.clientAt c (.respLock shm.profileResponse))
      else some (σ.clientAt c (.wait left))
  | .respLock resp => σ.acquire (.client c) (σ.clientAt c (.readMsg resp))
  | .readMsg resp => some (σ.clientAt c (.takeResponse resp shm.profileResponseMsg))
  | .takeResponse resp msg =>
      some ((((σ.setShm { shm with profileResponse := 0 }).release).record
        (.returned (σ.callId c) (some (resp, msg)))).clientAt c .idle)

/-- A client starts a call. -/
def startCall (c : ι) (call : Call) (σ : Sys Text ι) : Option (Sys Text ι) :=
  match (σ.clients c).pc with
  | .idle =>
      some { σ with clients :=
        Function.update σ.clients c ⟨(σ.clients c).calls + 1, call, .postLock⟩ }
  | _ => none

/-- A client stores a setting. -/
def writeSetting (c : ι) (i : Fin maxSlots) (s : Setting) (v : Int) (σ : Sys Text ι) :
    Option (Sys Text ι) :=
  match (σ.clients c).pc with
  | .idle =>
      some ((σ.setShm (σ.world.shm.setSlot i ((σ.world.shm.slots i).store s v))).mark i s true)
  | _ => none

/-- **One step of the system.** -/
def sysStep (l : Label Text ι) (σ : Sys Text ι) : Option (Sys Text ι) :=
  match l with
  | .thread env => threadStep J env σ
  | .call c call => startCall c call σ
  | .client c => clientStep c σ
  | .write c i s v => writeSetting c i s v σ
  | .edit p t => some { σ with world := { σ.world with fs := σ.world.fs.editInPlace p t } }

end Clients

/-- **The start**: a zeroed shared-memory segment with initialised slots, the manager initialised
(`profile_manager_init`), the worker thread at its prologue, and no client in a call. -/
def initialSys (fs : Fs Text) (slots : Fin maxSlots → Controller) (fd : Int) (env : Env Text) :
    Sys Text ι where
  world := profileManagerInit J fs { initialShm with slots := slots } fd env
  lock := none
  pc := .applyLock .start
  clients := fun _ => ⟨0, ⟨.list, none, -1, -1⟩, .idle⟩
  hist :=
    { last := none
      loaded := none
      log := []
      before := fun _ => zeroSlot
      touched := fun _ _ => true
      overwritten := [] }

end Dstx
