/-
# Dstx.Settings.Mail — the request protocol of the settings thread is the mailbox protocol.

`Sys.mail` forgets everything but the request, name and response cells, the mutex, where each party is
in the protocol, and the history of calls.  Every step of the system is a step of `Lib.Mailbox` on that
view (`mail_step`): the thread and its clients IMPLEMENT the mailbox, and its invariants are theirs.
The one thing the view needs from below is `Tidy`: the thread holds the mutex in its locked sections,
and the name cell is terminated.
-/
import Dstx.Settings.Machine
import Dstx.Profile.Files

namespace Dstx

open Dstx.Lib
open Dstx.Lib.Mailbox (Mail Party CallId Stage Phase Post)

variable {Text ι : Type}

/-! ## The view -/

/-- What a call posts. -/
def Call.post (c : Call) : Post Int CStr := ⟨c.request.code, c.postedName, c.request.code_ne_zero⟩

/-- A client's stage. -/
def Client.stage (cl : Client) : Stage Int CStr Int :=
  match cl.pc with
  | .idle => .idle
  | .postLock => .entering cl.call.post
  | .storeRequest => .storing cl.call.post
  | .storeName => .naming cl.call.post
  | .storeEnable | .storeDelay | .clearResponse => .clearing cl.call.post
  | .clearMsg => .leaving cl.call.post
  | .wait _ => .waiting cl.call.post
  | .respLock resp => .answered cl.call.post resp
  | .readMsg resp | .takeResponse resp _ => .taking cl.call.post resp

/-- The phase of the request that a continuation serves. -/
def Cont.phase : Cont → Phase Int CStr
  | .start | .reload _ => .idle
  | .request .. | .setAuto .. => .working

/-- The thread's phase. -/
def Pc.phase : Pc → Phase Int CStr
  | .applyLock k | .apply _ _ k | .autoLock k | .autoStore k | .curLock k | .curStore k => k.phase
  | .nameLock req => .loaded req
  | .nameRead req => .reading req
  | .execute req name => .named req name
  | .listLock .. | .listStore .. | .loadEnabled _ | .loadDelay .. | .respLock .. | .respStore .. =>
      .working
  | .respFinish .. => .answering
  | _ => .idle

/-- An event, without the text of the response. -/
def Event.mail : Event ι → Mailbox.Event ι Int CStr Int
  | .posted id call => .posted id call.post
  | .executed id req name => .executed id req name
  | .returned id response => .returned id (response.map Prod.fst)

/-- **The mailbox view** of the system. -/
def Sys.mail (σ : Sys Text ι) : Mail ι Int CStr Int where
  code := σ.world.shm.profileRequest
  arg := σ.world.shm.profileName
  response := σ.world.shm.profileResponse
  lock := σ.lock
  phase := σ.pc.phase
  clients := fun c => ⟨(σ.clients c).stage, (σ.clients c).calls⟩
  last := σ.hist.last.map fun x => (x.1, x.2.post)
  loaded := σ.hist.loaded
  log := σ.hist.log.map Event.mail

/-! ## Who holds the mutex -/

/-- The thread is inside a locked section. -/
def Pc.locked : Pc → Prop
  | .apply .. | .autoStore _ | .curStore _ | .sync .. | .nameRead _ | .listStore .. | .respStore ..
  | .respFinish .. => True
  | _ => False

/-- The thread holds the mutex in its locked sections, and the name cell is terminated. -/
structure Tidy (σ : Sys Text ι) : Prop where
  exclusive : Mailbox.Exclusive σ.mail
  locked : σ.pc.locked → σ.lock = some .server
  name : σ.world.shm.profileName.length ≤ 63

theorem acquire_eq_some {σ next σ' : Sys Text ι} {p : Party ι} (h : σ.acquire p next = some σ') :
    σ.lock = none ∧ σ' = { next with lock := some p } := by
  unfold Sys.acquire at h
  cases hl : σ.lock with
  | none =>
      rw [hl] at h
      cases h
      exact ⟨rfl, rfl⟩
  | some q =>
      rw [hl] at h
      cases h

variable (J : CJson.Lib Text)

/-! ## Every step is a mailbox step -/

theorem copySlot_shm (w : World Text) (i : Fin maxSlots) (newCfg : SlotConfig) (changed : Bool) :
    (copySlot w i newCfg changed).2.shm = w.shm := by
  unfold copySlot
  split <;> rfl

theorem syncFlags_shm (changed : Bool) (w : World Text) (env : Env Text) :
    (syncFlags changed w env).shm = w.shm := by
  unfold syncFlags
  split <;> rfl

/-- Nothing the view shows has changed, except perhaps the mutex. -/
structure Quiet (σ σ' : Sys Text ι) : Prop where
  request : σ'.world.shm.profileRequest = σ.world.shm.profileRequest
  name : σ'.world.shm.profileName = σ.world.shm.profileName
  response : σ'.world.shm.profileResponse = σ.world.shm.profileResponse
  phase : σ'.pc.phase = σ.pc.phase
  clients : σ'.clients = σ.clients
  last : σ'.hist.last = σ.hist.last
  loaded : σ'.hist.loaded = σ.hist.loaded
  log : σ'.hist.log = σ.hist.log

theorem Quiet.mail_eq {σ σ' : Sys Text ι} (h : Quiet σ σ') :
    σ'.mail = { σ.mail with lock := σ'.lock } := by
  unfold Sys.mail
  rw [h.request, h.name, h.response, h.phase, h.clients, h.last, h.loaded, h.log]

/-- The view's phase is the program counter's. -/
theorem mail_phase {σ : Sys Text ι} {pc : Pc} (hpc : σ.pc = pc) : σ.mail.phase = pc.phase :=
  congrArg Pc.phase hpc

theorem quiet_at {σ : Sys Text ι} {pc : Pc} (hp : pc.phase = σ.pc.phase) : Quiet σ (σ.at_ pc) :=
  ⟨rfl, rfl, rfl, hp, rfl, rfl, rfl, rfl⟩

/-- The private part of the thread's code does not touch the request cells. -/
theorem quiet_become {σ : Sys Text ι} {w : World Text} {pc : Pc} (hw : w.shm = σ.world.shm)
    (hp : pc.phase = σ.pc.phase) : Quiet σ (σ.become w pc) := by
  refine ⟨?_, ?_, ?_, hp, rfl, rfl, rfl, rfl⟩
  · exact congrArg SharedData.profileRequest hw
  · exact congrArg SharedData.profileName hw
  · exact congrArg SharedData.profileResponse hw

section Step

variable [DecidableEq ι] {ok : Mail ι Int CStr Int → Prop} {σ σ' : Sys Text ι}

theorem Quiet.stay (h : Quiet σ σ') (hl : σ'.lock = σ.lock) : Mailbox.Step ok σ.mail σ'.mail := by
  rw [h.mail_eq, hl]
  exact .stay

theorem Quiet.unlock (h : Quiet σ σ') (hl : σ.lock = some .server) (hl' : σ'.lock = none) :
    Mailbox.Step ok σ.mail σ'.mail := by
  rw [h.mail_eq, hl']
  exact .unlock hl

/-- Taking the mutex for a section that the protocol does not see. -/
theorem quiet_acquire {next : Sys Text ι} (hq : Quiet σ next)
    (h : σ.acquire .server next = some σ') : Mailbox.Step ok σ.mail σ'.mail := by
  obtain ⟨hl, rfl⟩ := acquire_eq_some h
  have hq' : Quiet σ { next with lock := some .server } :=
    ⟨hq.request, hq.name, hq.response, hq.phase, hq.clients, hq.last, hq.loaded, hq.log⟩
  rw [hq'.mail_eq]
  exact .lock hl

/-- **The thread's steps.** -/
theorem mail_threadStep (ht : Tidy σ) {env : Env Text} (h : threadStep J env σ = some σ') :
    Mailbox.Step ok σ.mail σ'.mail := by
  cases hpc : σ.pc with
  | applyLock k =>
      simp only [threadStep, hpc] at h
      exact quiet_acquire (quiet_at (by rw [hpc]; rfl)) h
  | apply slots rest k =>
      have hl : σ.lock = some .server := ht.locked (by rw [hpc]; trivial)
      cases slots with
      | nil =>
          simp only [threadStep, hpc, Option.some.injEq] at h
          subst h
          exact Quiet.unlock ⟨rfl, rfl, rfl, by rw [hpc]; rfl, rfl, rfl, rfl, rfl⟩ hl rfl
      | cons i more =>
          cases rest with
          | nil =>
              simp only [threadStep, hpc, Option.some.injEq] at h
              subst h
              exact Quiet.stay ⟨rfl, rfl, rfl, by rw [hpc]; rfl, rfl, rfl, rfl, rfl⟩ rfl
          | cons s rest =>
              simp only [threadStep, hpc, Option.some.injEq] at h
              subst h
              obtain ⟨lost, heq, -⟩ := applyCell_spec σ i s k
              rw [heq]
              exact Quiet.stay ⟨rfl, rfl, rfl, by rw [hpc]; rfl, rfl, rfl, rfl, rfl⟩ rfl
  | autoLock k =>
      simp only [threadStep, hpc] at h
      exact quiet_acquire (quiet_at (by rw [hpc]; rfl)) h
  | autoStore k =>
      have hl : σ.lock = some .server := ht.locked (by rw [hpc]; trivial)
      simp only [threadStep, hpc, Option.some.injEq] at h
      subst h
      exact Quiet.unlock ⟨rfl, rfl, rfl, by rw [hpc]; cases k <;> rfl, rfl, rfl, rfl, rfl⟩ hl rfl
  | curLock k =>
      simp only [threadStep, hpc] at h
      exact quiet_acquire (quiet_at (by rw [hpc]; rfl)) h
  | curStore k =>
      have hl : σ.lock = some .server := ht.locked (by rw [hpc]; trivial)
      simp only [threadStep, hpc, Option.some.injEq] at h
      subst h
      exact Quiet.unlock ⟨rfl, rfl, rfl, by rw [hpc]; cases k <;> rfl, rfl, rfl, rfl, rfl⟩ hl rfl
  | syncLock =>
      simp only [threadStep, hpc] at h
      exact quiet_acquire (quiet_at (by rw [hpc]; rfl)) h
  | sync slots rest newCfg changed =>
      have hl : σ.lock = some .server := ht.locked (by rw [hpc]; trivial)
      cases slots with
      | nil =>
          simp only [threadStep, hpc, Option.some.injEq] at h
          subst h
          exact Quiet.unlock ⟨rfl, rfl, rfl, by rw [hpc]; rfl, rfl, rfl, rfl, rfl⟩ hl rfl
      | cons i more =>
          cases rest with
          | nil =>
              simp only [threadStep, hpc, Option.some.injEq] at h
              subst h
              exact (quiet_become (copySlot_shm ..) (by rw [hpc]; rfl)).stay rfl
          | cons s rest =>
              simp only [threadStep, hpc, Option.some.injEq] at h
              subst h
              exact Quiet.stay ⟨rfl, rfl, rfl, by rw [hpc]; rfl, rfl, rfl, rfl, rfl⟩ rfl
  | syncEnd changed =>
      simp only [threadStep, hpc, Option.some.injEq] at h
      subst h
      exact (quiet_become (syncFlags_shm ..) (by rw [hpc]; rfl)).stay rfl
  | loadRequest =>
      simp only [threadStep, hpc] at h
      split at h
      · cases h
        exact (quiet_at (by rw [hpc]; rfl)).stay rfl
      · rename_i hne
        cases h
        have hidle : σ.mail.phase = .idle := mail_phase hpc
        have heq : Sys.mail { σ.at_ (.nameLock σ.world.shm.profileRequest) with
            hist := { σ.hist with loaded := σ.hist.last.map Prod.fst } } =
            { σ.mail with
              phase := .loaded σ.mail.code
              loaded := σ.mail.last.map Prod.fst } := by
          unfold Sys.mail
          rw [Option.map_map]
          rfl
        rw [heq]
        exact .load hidle hne
  | nameLock req =>
      simp only [threadStep, hpc] at h
      obtain ⟨hl, rfl⟩ := acquire_eq_some h
      have hp : σ.mail.phase = .loaded req := mail_phase hpc
      exact .lockName hp hl
  | nameRead req =>
      have hl : σ.lock = some .server := ht.locked (by rw [hpc]; trivial)
      simp only [threadStep, hpc, Option.some.injEq] at h
      subst h
      have hp : σ.mail.phase = .reading req := mail_phase hpc
      -- the cell is terminated, so the copy is the whole cell
      rw [show strncpy profileNameLen σ.world.shm.profileName = σ.world.shm.profileName from
        strncpy_of_length ht.name]
      exact .readName hp hl
  | execute req name =>
      have hshm := processRequest_shm J σ.world req name env
      simp only [threadStep, hpc, Option.some.injEq] at h
      subst h
      have hp : σ.mail.phase = .named req name := mail_phase hpc
      have hnext : ((processRequest J σ.world req name env).2.next req).phase = .working := by
        cases (processRequest J σ.world req name env).2 <;> rfl
      have heq : Sys.mail { σ.become (processRequest J σ.world req name env).1
            ((processRequest J σ.world req name env).2.next req) with
          hist := { σ.hist with
            log := .executed σ.hist.loaded req name :: σ.hist.log
            before := σ.world.pm.activeProfile.slots } } =
          { σ.mail with
            phase := .working
            log := .executed σ.mail.loaded req name :: σ.mail.log } := by
        simp [Sys.mail, Sys.become, hshm, hnext, Event.mail]
      rw [heq]
      exact .execute hp
  | listLock req text =>
      simp only [threadStep, hpc] at h
      exact quiet_acquire (quiet_at (by rw [hpc]; rfl)) h
  | listStore req text =>
      have hl : σ.lock = some .server := ht.locked (by rw [hpc]; trivial)
      simp only [threadStep, hpc, Option.some.injEq] at h
      subst h
      exact Quiet.unlock ⟨rfl, rfl, rfl, by rw [hpc]; rfl, rfl, rfl, rfl, rfl⟩ hl rfl
  | loadEnabled req =>
      simp only [threadStep, hpc, Option.some.injEq] at h
      subst h
      exact (quiet_at (by rw [hpc]; rfl)).stay rfl
  | loadDelay req enabled =>
      simp only [threadStep, hpc, Option.some.injEq] at h
      subst h
      exact Quiet.stay ⟨rfl, rfl, rfl, by rw [hpc]; rfl, rfl, rfl, rfl, rfl⟩ rfl
  | respLock req result msg =>
      simp only [threadStep, hpc] at h
      exact quiet_acquire (quiet_at (by rw [hpc]; rfl)) h
  | respStore req result msg =>
      simp only [threadStep, hpc, Option.some.injEq] at h
      subst h
      have hp : σ.mail.phase = .working := mail_phase hpc
      exact .respond result hp
  | respFinish req msg =>
      have hl : σ.lock = some .server := ht.locked (by rw [hpc]; trivial)
      simp only [threadStep, hpc, Option.some.injEq] at h
      subst h
      have hp : σ.mail.phase = .answering := mail_phase hpc
      exact .finish hp hl
  | autoSave =>
      simp only [threadStep, hpc, Option.some.injEq] at h
      subst h
      exact (quiet_become (profileHandleAutoSave_shm ..) (by rw [hpc]; rfl)).stay rfl
  | readEvents =>
      simp only [threadStep, hpc] at h
      split at h
      · cases h
        exact (quiet_at (by rw [hpc]; rfl)).stay rfl
      · cases h
        exact (quiet_at (by rw [hpc]; rfl)).stay rfl
  | events rest =>
      cases rest with
      | nil =>
          simp only [threadStep, hpc, Option.some.injEq] at h
          subst h
          exact (quiet_at (by rw [hpc]; rfl)).stay rfl
      | cons event rest =>
          cases event with
          | ignored =>
              simp only [threadStep, hpc, Option.some.injEq] at h
              subst h
              exact (quiet_at (by rw [hpc]; rfl)).stay rfl
          | modify =>
              have hshm := loadProfileFromDisk_shm J σ.world σ.world.pm.activeName
              simp only [threadStep, hpc] at h
              split at h
              · cases h
                exact (quiet_at (by rw [hpc]; rfl)).stay rfl
              · split at h
                · rename_i w' heq
                  rw [heq] at hshm
                  cases h
                  have hq : Quiet σ (σ.become w' (.applyLock (.reload rest))) :=
                    quiet_become hshm (by rw [hpc]; rfl)
                  exact Quiet.stay ⟨hq.request, hq.name, hq.response, hq.phase, rfl, rfl, rfl, rfl⟩ rfl
                · rename_i w' heq
                  rw [heq] at hshm
                  cases h
                  exact (quiet_become hshm (by rw [hpc]; rfl)).stay rfl

/-- Replacing a client replaces its view. -/
theorem mail_setClient (c : ι) (cl : Client) :
    Sys.mail { σ with clients := Function.update σ.clients c cl } =
      σ.mail.setClient c ⟨cl.stage, cl.calls⟩ := by
  have hcl : (fun c' => Mailbox.Client.mk (Function.update σ.clients c cl c').stage
        (Function.update σ.clients c cl c').calls) =
      Function.update (fun c' => Mailbox.Client.mk (σ.clients c').stage (σ.clients c').calls) c
        ⟨cl.stage, cl.calls⟩ := by
    funext c'
    by_cases hcc : c' = c
    · subst hcc
      rw [Function.update_self, Function.update_self]
    · rw [Function.update_of_ne hcc, Function.update_of_ne hcc]
  unfold Sys.mail Mail.setClient
  dsimp only
  rw [hcl]

/-- A client that goes on at `pc` goes on to the stage of `pc`. -/
theorem mail_clientAt (σ : Sys Text ι) (c : ι) (pc : ClientPc) :
    (σ.clientAt c pc).mail = σ.mail.goTo c (Client.stage { σ.clients c with pc := pc }) :=
  mail_setClient c _

/-- A client that stays in its stage is not seen to move. -/
theorem mail_clientAt_stage (σ : Sys Text ι) (c : ι) {pc : ClientPc}
    (h : Client.stage { σ.clients c with pc := pc } = (σ.clients c).stage) :
    (σ.clientAt c pc).mail = σ.mail := by
  rw [mail_clientAt, h]
  unfold Mail.goTo Mail.setClient
  have hself : (⟨(σ.clients c).stage, (σ.mail.clients c).calls⟩ : Mailbox.Client Int CStr Int) =
      σ.mail.clients c := rfl
  rw [hself, Function.update_eq_self]

/-- **A client's steps.**  Only the store into the request cell needs the guard. -/
theorem mail_clientStep {c : ι} (hok : (σ.clients c).pc = .storeRequest → ok σ.mail)
    (h : clientStep c σ = some σ') : Mailbox.Step ok σ.mail σ'.mail := by
  have hstage : (σ.mail.clients c).stage = (σ.clients c).stage := rfl
  unfold Client.stage at hstage
  cases hpc : (σ.clients c).pc with
  | idle =>
      simp only [clientStep, hpc] at h
      cases h
  | postLock =>
      simp only [clientStep, hpc] at h
      obtain ⟨hl, rfl⟩ := acquire_eq_some h
      rw [hpc] at hstage
      have hview := mail_clientAt { σ with lock := some (.client c) } c .storeRequest
      exact hview ▸ Mailbox.Step.enter hstage hl
  | storeRequest =>
      simp only [clientStep, hpc, Option.some.injEq] at h
      subst h
      rw [hpc] at hstage
      have hview := mail_clientAt
        { σ.setShm { σ.world.shm with profileRequest := (σ.clients c).call.request.code } with
          hist := { σ.hist with
            last := some (σ.callId c, (σ.clients c).call)
            log := .posted (σ.callId c) (σ.clients c).call :: σ.hist.log } } c .storeName
      exact hview ▸ Mailbox.Step.post hstage (hok hpc)
  | storeName =>
      simp only [clientStep, hpc, Option.some.injEq] at h
      subst h
      rw [hpc] at hstage
      rw [mail_clientAt]
      exact Mailbox.Step.name hstage
  | storeEnable =>
      -- the auto-save cells are not part of the view
      simp only [clientStep, hpc, Option.some.injEq] at h
      subst h
      rw [mail_clientAt_stage _ c (by simp [Client.stage, Sys.setShm, hpc])]
      exact .stay
  | storeDelay =>
      simp only [clientStep, hpc, Option.some.injEq] at h
      subst h
      rw [mail_clientAt_stage _ c (by simp [Client.stage, Sys.setShm, hpc])]
      exact .stay
  | clearResponse =>
      simp only [clientStep, hpc, Option.some.injEq] at h
      subst h
      rw [hpc] at hstage
      rw [mail_clientAt]
      exact Mailbox.Step.clear hstage
  | clearMsg =>
      simp only [clientStep, hpc, Option.some.injEq] at h
      subst h
      rw [hpc] at hstage
      rw [mail_clientAt]
      exact Mailbox.Step.leave hstage
  | wait left =>
      rw [hpc] at hstage
      cases left with
      | zero =>
          simp only [clientStep, hpc, Option.some.injEq] at h
          subst h
          rw [mail_clientAt]
          exact Mailbox.Step.giveUp hstage
      | succ left =>
          simp only [clientStep, hpc] at h
          split at h
          · rename_i hne
            cases h
            rw [mail_clientAt]
            exact Mailbox.Step.see hstage hne
          · cases h
            rw [mail_clientAt_stage _ c (by simp [Client.stage, hpc])]
            exact .stay
  | respLock resp =>
      simp only [clientStep, hpc] at h
      obtain ⟨hl, rfl⟩ := acquire_eq_some h
      rw [hpc] at hstage
      have hview := mail_clientAt { σ with lock := some (.client c) } c (.readMsg resp)
      exact hview ▸ Mailbox.Step.reenter hstage hl
  | readMsg resp =>
      simp only [clientStep, hpc, Option.some.injEq] at h
      subst h
      rw [mail_clientAt_stage _ c (by simp [Client.stage, hpc])]
      exact .stay
  | takeResponse resp msg =>
      simp only [clientStep, hpc, Option.some.injEq] at h
      subst h
      rw [hpc] at hstage
      rw [mail_clientAt]
      exact Mailbox.Step.take hstage

/-- If the step stores a request, it does so in a state that meets `P`. -/
def PostsWhere (P : Sys Text ι → Prop) : Label Text ι → Sys Text ι → Prop
  | .client c, σ => (σ.clients c).pc = .storeRequest → P σ
  | _, _ => True

/-- **Every step of the system is a mailbox step.** -/
theorem mail_step (ht : Tidy σ) {l : Label Text ι} (hok : PostsWhere (fun σ => ok σ.mail) l σ)
    (h : sysStep J l σ = some σ') : Mailbox.Step ok σ.mail σ'.mail := by
  cases l with
  | thread env => exact mail_threadStep J ht h
  | call c call =>
      simp only [sysStep, startCall] at h
      split at h
      · rename_i hpc
        cases h
        have hstage : (σ.mail.clients c).stage = .idle := by
          show (σ.clients c).stage = _
          unfold Client.stage
          rw [hpc]
        rw [mail_setClient]
        exact .call call.post hstage
      · cases h
  | client c => exact mail_clientStep hok h
  | write c i s v =>
      simp only [sysStep, writeSetting] at h
      split at h
      · cases h
        exact Quiet.stay ⟨rfl, rfl, rfl, rfl, rfl, rfl, rfl, rfl⟩ rfl
      · cases h
  | edit p t =>
      cases h
      exact Quiet.stay ⟨rfl, rfl, rfl, rfl, rfl, rfl, rfl, rfl⟩ rfl

/-- With every post allowed there is nothing to check. -/
theorem mail_step_free (ht : Tidy σ) {l : Label Text ι} (h : sysStep J l σ = some σ') :
    Mailbox.Step (fun _ => True) σ.mail σ'.mail := by
  refine mail_step J ht ?_ h
  cases l with
  | client c => exact fun _ => trivial
  | _ => trivial

/-! ## The mutex is respected -/

omit [DecidableEq ι] in
/-- The thread is in a locked section only with the mutex. -/
theorem threadStep_locked (hlocked : σ.pc.locked → σ.lock = some .server) {env : Env Text}
    (h : threadStep J env σ = some σ') : σ'.pc.locked → σ'.lock = some .server := by
  have hacquire : ∀ {next : Sys Text ι}, σ.acquire .server next = some σ' →
      σ'.pc.locked → σ'.lock = some .server := by
    intro next h _
    obtain ⟨-, rfl⟩ := acquire_eq_some h
    rfl
  cases hpc : σ.pc
  -- inside the loops the mutex stays, at their end it goes
  case apply slots rest k =>
      have hserver : σ.lock = some .server := hlocked (by rw [hpc]; trivial)
      cases slots with
      | nil =>
          simp only [threadStep, hpc, Option.some.injEq] at h
          subst h
          exact fun hl => hl.elim
      | cons i more =>
          cases rest with
          | nil =>
              simp only [threadStep, hpc, Option.some.injEq] at h
              subst h
              exact fun _ => hserver
          | cons s rest =>
              simp only [threadStep, hpc, Option.some.injEq] at h
              subst h
              obtain ⟨lost, heq, -⟩ := applyCell_spec σ i s k
              rw [heq]
              exact fun _ => hserver
  case sync slots rest newCfg changed =>
      have hserver : σ.lock = some .server := hlocked (by rw [hpc]; trivial)
      cases slots with
      | nil =>
          simp only [threadStep, hpc, Option.some.injEq] at h
          subst h
          exact fun hl => hl.elim
      | cons i more =>
          cases rest <;> simp only [threadStep, hpc, Option.some.injEq] at h <;> subst h <;>
            exact fun _ => hserver
  case respStore req result msg =>
      simp only [threadStep, hpc, Option.some.injEq] at h
      subst h
      exact fun _ => hlocked (by rw [hpc]; trivial)
  -- where the code after a section depends on a value, none of its beginnings is locked
  case autoStore k =>
      simp only [threadStep, hpc, Option.some.injEq] at h
      subst h
      cases k <;> exact fun hl => hl.elim
  case curStore k =>
      simp only [threadStep, hpc, Option.some.injEq] at h
      subst h
      cases k <;> exact fun hl => hl.elim
  case execute req name =>
      simp only [threadStep, hpc, Option.some.injEq] at h
      subst h
      show ((processRequest J σ.world req name env).2.next req).locked → _
      cases (processRequest J σ.world req name env).2 <;> exact fun hl => hl.elim
  case loadRequest =>
      simp only [threadStep, hpc] at h
      split at h <;> cases h <;> exact fun hl => hl.elim
  case readEvents =>
      simp only [threadStep, hpc] at h
      split at h <;> cases h <;> exact fun hl => hl.elim
  case events rest =>
      cases rest with
      | nil =>
          simp only [threadStep, hpc, Option.some.injEq] at h
          subst h
          exact fun hl => hl.elim
      | cons event rest =>
          cases event with
          | ignored =>
              simp only [threadStep, hpc, Option.some.injEq] at h
              subst h
              exact fun hl => hl.elim
          | modify =>
              simp only [threadStep, hpc] at h
              split at h
              · cases h
                exact fun hl => hl.elim
              · split at h <;> cases h <;> exact fun hl => hl.elim
  all_goals
    simp only [threadStep, hpc] at h
    first
    | exact hacquire h
    | cases h; exact fun hl => hl.elim

/-- What a client's step leaves alone: the thread, the manager, the files and the settings; it takes a
free mutex or gives its own one back. -/
structure ClientKeeps (c : ι) (σ σ' : Sys Text ι) : Prop where
  pc : σ'.pc = σ.pc
  world : σ'.world = { σ.world with shm := σ'.world.shm }
  slots : σ'.world.shm.slots = σ.world.shm.slots
  lock : σ'.lock = σ.lock ∨ σ.lock = none ∨ (σ.clients c).stage.holds
  before : σ'.hist.before = σ.hist.before
  touched : σ'.hist.touched = σ.hist.touched
  overwritten : σ'.hist.overwritten = σ.hist.overwritten
  loaded : σ'.hist.loaded = σ.hist.loaded

theorem clientStep_keeps {c : ι} (h : clientStep c σ = some σ') : ClientKeeps c σ σ' := by
  have hacquire : ∀ {pc}, σ.acquire (.client c) (σ.clientAt c pc) = some σ' →
      ClientKeeps c σ σ' := by
    intro pc h
    obtain ⟨hl, rfl⟩ := acquire_eq_some h
    exact ⟨rfl, rfl, rfl, Or.inr (Or.inl hl), rfl, rfl, rfl, rfl⟩
  cases hpc : (σ.clients c).pc
  case idle =>
      simp only [clientStep, hpc] at h
      cases h
  case clearMsg =>
      have hholds : (σ.clients c).stage.holds := by simp [Client.stage, hpc, Stage.holds]
      simp only [clientStep, hpc, Option.some.injEq] at h
      subst h
      exact ⟨rfl, rfl, rfl, Or.inr (Or.inr hholds), rfl, rfl, rfl, rfl⟩
  case takeResponse resp msg =>
      have hholds : (σ.clients c).stage.holds := by simp [Client.stage, hpc, Stage.holds]
      simp only [clientStep, hpc, Option.some.injEq] at h
      subst h
      exact ⟨rfl, rfl, rfl, Or.inr (Or.inr hholds), rfl, rfl, rfl, rfl⟩
  case wait left =>
      cases left with
      | zero =>
          simp only [clientStep, hpc, Option.some.injEq] at h
          subst h
          exact ⟨rfl, rfl, rfl, Or.inl rfl, rfl, rfl, rfl, rfl⟩
      | succ left =>
          simp only [clientStep, hpc] at h
          split at h <;> cases h <;> exact ⟨rfl, rfl, rfl, Or.inl rfl, rfl, rfl, rfl, rfl⟩
  all_goals
    simp only [clientStep, hpc] at h
    first
    | exact hacquire h
    | cases h; exact ⟨rfl, rfl, rfl, Or.inl rfl, rfl, rfl, rfl, rfl⟩

/-- A client about to store its name stores the name of its call. -/
theorem stage_naming {cl : Client} {p : Post Int CStr} (h : cl.stage = .naming p) :
    p = cl.call.post := by
  unfold Client.stage at h
  split at h <;> cases h
  rfl

/-- **`Tidy` is kept** by every step. -/
theorem Tidy.step (ht : Tidy σ) {l : Label Text ι} (h : sysStep J l σ = some σ') : Tidy σ' := by
  have hmail := mail_step_free J ht h
  have hname : σ'.world.shm.profileName.length ≤ 63 := by
    rcases hmail.arg_eq with heq | ⟨c, p, hstage, heq⟩
    · rw [show σ'.world.shm.profileName = σ.world.shm.profileName from heq]
      exact ht.name
    · rw [show σ'.world.shm.profileName = p.arg from heq, stage_naming hstage]
      exact postedName_length _
  refine ⟨ht.exclusive.step hmail, ?_, hname⟩
  cases l with
  | thread env => exact threadStep_locked J ht.locked h
  | call c call =>
      simp only [sysStep, startCall] at h
      split at h
      · cases h
        exact ht.locked
      · cases h
  | client c =>
      have hk : ClientKeeps c σ σ' := clientStep_keeps h
      intro hl
      rw [hk.pc] at hl
      have hserver := ht.locked hl
      rcases hk.lock with hlock | hlock | hholds
      · rw [hlock]
        exact hserver
      · rw [hlock] at hserver
        cases hserver
      · -- the client would hold the mutex too
        exact absurd hholds (ht.exclusive.not_holds (Or.inr hserver) c)
  | write c i s v =>
      simp only [sysStep, writeSetting] at h
      split at h
      · cases h
        exact ht.locked
      · cases h
  | edit p t =>
      cases h
      exact ht.locked

end Step

/-! ## The start -/

theorem profileManagerInit_shm (fs : Fs Text) (shm : SharedData) (fd : Int) (env : Env Text) :
    (profileManagerInit J fs shm fd env).shm = shm := by
  have hload := loadProfileFromDisk_shm J ⟨fs, ⟨fun _ => none, 1⟩, initialManager fd, shm⟩ defaultName
  unfold profileManagerInit
  dsimp only
  split
  · rename_i heq
    rw [heq] at hload
    rw [profileUpdateInotify_shm]
    exact hload
  · rename_i heq
    rw [heq] at hload
    rw [profileUpdateInotify_shm, saveProfileToDisk_shm]
    exact hload

section Start

variable (fs : Fs Text) (slots : Fin maxSlots → Controller) (fd : Int) (env : Env Text)

theorem fresh_initialSys : Mailbox.Fresh (initialSys J fs slots fd env : Sys Text ι).mail := by
  refine ⟨fun _ => rfl, ?_, rfl, rfl, rfl, rfl⟩
  show (profileManagerInit J fs _ fd env).shm.profileRequest = 0
  rw [profileManagerInit_shm]
  rfl

theorem tidy_initialSys : Tidy (initialSys J fs slots fd env : Sys Text ι) := by
  refine ⟨(fresh_initialSys J fs slots fd env).paired.cells.exclusive, fun hl => hl.elim, ?_⟩
  show (profileManagerInit J fs _ fd env).shm.profileName.length ≤ 63
  rw [profileManagerInit_shm]
  exact Nat.zero_le _

end Start

end Dstx
