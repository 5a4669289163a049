/-
# Dstx.Settings.Alone — the thread running alone is the iteration of `settings_worker`.

`Settings.Machine` takes the thread apart into single accesses; `Profile.Manager` has its functions in
one piece each, and the laws about the manager's files are about those.  Here the two meet: with nobody
else moving, the single steps between one `syncLock` and the next compute `settingsIteration`
(`leads_iteration`), the prologue computes `publish` (`leads_start`), and a client's posting section
computes `postRequest` (`posts_alone`).

`Leads a b` is a run of the thread alone from `a` to `b`; each section of the code is one lemma, and the
loops are inductions over what is left of them.
-/
import Dstx.Settings.Machine

namespace Dstx

open Dstx.Lib
open Dstx.Lib.Mailbox (Party)

variable {Text ι : Type}

/-- The thread's part of a state: the world, whether the thread holds the mutex (else it is free), and
where the thread is. -/
structure Place (Text : Type) where
  world : World Text
  held : Bool
  pc : Pc

/-- The state with the clients and the history it is in. -/
def Place.sys (a : Place Text) (clients : ι → Client) (hist : Hist ι) : Sys Text ι :=
  ⟨a.world, if a.held then some .server else none, a.pc, clients, hist⟩

variable (J : CJson.Lib Text) (env : Env Text) (clients : ι → Client) [DecidableEq ι]

/-- **The thread alone gets from `a` to `b`**, whatever the history. -/
def Leads (a b : Place Text) : Prop :=
  ∀ hist : Hist ι, ∃ hist', Run (sysStep J) (fun l _ => l = .thread env) (a.sys clients hist)
    (b.sys clients hist')

variable {J env clients}

theorem Leads.refl (a : Place Text) : Leads J env clients a a := fun hist => ⟨hist, .refl _⟩

theorem Leads.trans {a b c : Place Text} (h₁ : Leads J env clients a b)
    (h₂ : Leads J env clients b c) : Leads J env clients a c := by
  intro hist
  obtain ⟨hist', hrun⟩ := h₁ hist
  obtain ⟨hist'', hrun'⟩ := h₂ hist'
  exact ⟨hist'', hrun.trans hrun'⟩

theorem Leads.of_step {a b : Place Text}
    (h : ∀ hist : Hist ι, ∃ hist', threadStep J env (a.sys clients hist) = some (b.sys clients hist')) :
    Leads J env clients a b := by
  intro hist
  obtain ⟨hist', hstep⟩ := h hist
  exact ⟨hist', Run.single rfl hstep⟩

/-- A step that leaves the history alone. -/
theorem Leads.of_eq {a b : Place Text}
    (h : ∀ hist : Hist ι, threadStep J env (a.sys clients hist) = some (b.sys clients hist)) :
    Leads J env clients a b :=
  .of_step fun hist => ⟨hist, h hist⟩

/-! ## The storing loop -/

/-- The world with one slot of shared memory replaced. -/
def World.withSlot (w : World Text) (i : Fin maxSlots) (ctrl : Controller) : World Text :=
  { w with shm := w.shm.setSlot i ctrl }

theorem withSlot_self (w : World Text) (i : Fin maxSlots) : w.withSlot i (w.shm.slots i) = w := by
  unfold World.withSlot SharedData.setSlot
  rw [Function.update_eq_self]

theorem withSlot_slots (w : World Text) (i : Fin maxSlots) (ctrl : Controller) :
    (w.withSlot i ctrl).shm.slots i = ctrl := Function.update_self ..

theorem withSlot_withSlot (w : World Text) (i : Fin maxSlots) (ctrl ctrl' : Controller) :
    (w.withSlot i ctrl).withSlot i ctrl' = w.withSlot i ctrl' := by
  unfold World.withSlot SharedData.setSlot
  dsimp only
  rw [Function.update_idem]

variable (J env clients)

/-- One slot of `profile_apply_to_shm`, from the settings `rest` on. -/
theorem leads_storeSlot (i : Fin maxSlots) (more : List (Fin maxSlots)) (k : Cont)
    (rest : List Setting) (w : World Text) :
    Leads J env clients ⟨w, true, .apply (i :: more) rest k⟩
      ⟨w.withSlot i (rest.foldl (applySetting (w.pm.activeProfile.slots i)) (w.shm.slots i)), true,
        .apply (i :: more) [] k⟩ := by
  induction rest generalizing w with
  | nil =>
      rw [List.foldl_nil, withSlot_self]
      exact .refl _
  | cons s rest ih =>
      have hrest := ih (w.withSlot i (applySetting (w.pm.activeProfile.slots i) (w.shm.slots i) s))
      rw [withSlot_slots, withSlot_withSlot] at hrest
      refine Leads.trans (.of_step fun hist => ?_) hrest
      let σ : Sys Text ι := Place.sys ⟨w, true, .apply (i :: more) (s :: rest) k⟩ clients hist
      obtain ⟨lost, heq, -⟩ := applyCell_spec σ i s k
      refine ⟨(σ.applyCell i s k).hist, ?_⟩
      show some ((σ.applyCell i s k).at_ _) = _
      rw [heq]
      rfl

/-- **`profile_apply_to_shm`**, from the slots `slots` on. -/
theorem leads_storeSlots (k : Cont) (slots : List (Fin maxSlots)) (w : World Text) :
    Leads J env clients ⟨w, true, .apply slots storeOrder k⟩
      ⟨slots.foldl (fun w i => applySlot i w) w, false, .autoLock k⟩ := by
  induction slots generalizing w with
  | nil => exact .of_eq fun _ => rfl
  | cons i more ih =>
      -- the settings of the slot, then its `led_dirty`, then the other slots
      have hslot := leads_storeSlot J env clients i more k storeOrder w
      rw [foldl_applySetting] at hslot
      refine (hslot.trans (.of_eq fun hist => ?_)).trans (ih (applySlot i w))
      simp [threadStep, Place.sys, Sys.setShm, Sys.at_, World.withSlot, SharedData.setSlot, applySlot]

/-- The thread alone takes the mutex for a section and does the section's work in one step. -/
theorem leads_section {w w' : World Text} {pc pc₁ pc' : Pc}
    (hlock : ∀ hist : Hist ι, threadStep J env (Place.sys ⟨w, false, pc⟩ clients hist) =
      some (Place.sys ⟨w, true, pc₁⟩ clients hist))
    (hwork : ∀ hist : Hist ι, threadStep J env (Place.sys ⟨w, true, pc₁⟩ clients hist) =
      some (Place.sys ⟨w', false, pc'⟩ clients hist)) :
    Leads J env clients ⟨w, false, pc⟩ ⟨w', false, pc'⟩ :=
  (Leads.of_eq hlock).trans (.of_eq hwork)

/-- `profile_apply_to_shm`, `profile_sync_auto_save_to_shm`, `profile_update_shm_current_name`. -/
theorem leads_publish (w : World Text) (k : Cont) (hk : ∀ req msg, k ≠ .setAuto req msg) :
    Leads J env clients ⟨w, false, .applyLock k⟩ ⟨publish w, false, k.next⟩ := by
  have hlock : Leads J env clients ⟨w, false, .applyLock k⟩
      ⟨w, true, .apply (List.finRange maxSlots) storeOrder k⟩ := .of_eq fun _ => rfl
  have hstore : Leads J env clients ⟨w, true, .apply (List.finRange maxSlots) storeOrder k⟩
      ⟨profileApplyToShm w, false, .autoLock k⟩ := leads_storeSlots J env clients k _ w
  have hauto : Leads J env clients ⟨profileApplyToShm w, false, .autoLock k⟩
      ⟨profileSyncAutoSaveToShm (profileApplyToShm w), false, .curLock k⟩ := by
    refine leads_section J env clients (fun _ => rfl) fun hist => ?_
    cases k with
    | setAuto req msg => exact absurd rfl (hk req msg)
    | _ => rfl
  have hcur : Leads J env clients
      ⟨profileSyncAutoSaveToShm (profileApplyToShm w), false, .curLock k⟩
      ⟨publish w, false, k.next⟩ := by
    have hname : (profileSyncAutoSaveToShm (profileApplyToShm w)).pm.activeName = w.pm.activeName := by
      obtain ⟨slots, h⟩ := foldl_applySlot_frame (List.finRange maxSlots) w
      show (profileApplyToShm w).pm.activeName = _
      unfold profileApplyToShm
      rw [h]
    refine leads_section J env clients (fun _ => rfl) fun hist => ?_
    unfold publish
    rw [← hname]
    rfl
  exact ((hlock.trans hstore).trans hauto).trans hcur

/-! ## The reading loop -/

/-- One slot of `profile_sync_shm_to_active`, from the settings `rest` on. -/
theorem leads_readSlot (w : World Text) (i : Fin maxSlots) (more : List (Fin maxSlots))
    (changed : Bool) (rest : List Setting) (newCfg : SlotConfig) :
    Leads J env clients ⟨w, true, .sync (i :: more) rest newCfg changed⟩
      ⟨w, true, .sync (i :: more) [] (rest.foldl (readSetting (w.shm.slots i)) newCfg) changed⟩ := by
  induction rest generalizing newCfg with
  | nil => exact .refl _
  | cons s rest ih =>
      refine Leads.trans (.of_step fun hist => ?_) (ih (readSetting (w.shm.slots i) newCfg s))
      exact ⟨_, rfl⟩

theorem copySlot_eq (i : Fin maxSlots) (r : Bool × World Text) :
    copySlot r.2 i (controllerToSlotConfig (r.2.shm.slots i)) r.1 = syncSlot i r := rfl

/-- The loop of **`profile_sync_shm_to_active`**, from the slots `slots` on. -/
theorem leads_readSlots (slots : List (Fin maxSlots)) (r : Bool × World Text) (newCfg : SlotConfig) :
    Leads J env clients ⟨r.2, true, .sync slots readOrder newCfg r.1⟩
      ⟨(slots.foldl (fun s i => syncSlot i s) r).2, false,
        .syncEnd (slots.foldl (fun s i => syncSlot i s) r).1⟩ := by
  induction slots generalizing r newCfg with
  | nil => exact .of_eq fun _ => rfl
  | cons i more ih =>
      have hslot := leads_readSlot J env clients r.2 i more r.1 readOrder newCfg
      rw [foldl_readSetting] at hslot
      have hcopy : Leads J env clients
          ⟨r.2, true, .sync (i :: more) [] (controllerToSlotConfig (r.2.shm.slots i)) r.1⟩
          ⟨(syncSlot i r).2, true,
            .sync more readOrder (controllerToSlotConfig (r.2.shm.slots i)) (syncSlot i r).1⟩ := by
        refine .of_eq fun hist => ?_
        rw [← copySlot_eq]
        rfl
      exact (hslot.trans hcopy).trans (ih (syncSlot i r) _)

/-- **`profile_sync_shm_to_active`**. -/
theorem leads_sync (w : World Text) :
    Leads J env clients ⟨w, false, .syncLock⟩
      ⟨profileSyncShmToActive w env, false, .loadRequest⟩ := by
  have hlock : Leads J env clients ⟨w, false, .syncLock⟩
      ⟨w, true, .sync (List.finRange maxSlots) readOrder zeroSlot false⟩ := .of_eq fun _ => rfl
  have hread := leads_readSlots J env clients (List.finRange maxSlots) (false, w) zeroSlot
  refine (hlock.trans hread).trans ?_
  unfold profileSyncShmToActive
  -- what the loop leaves, as variables
  generalize (List.finRange maxSlots).foldl (fun s i => syncSlot i s) (false, w) = r
  obtain ⟨changed, w'⟩ := r
  exact .of_eq fun _ => rfl

/-! ## Requests, auto-save, events -/

/-- The last section of `profile_process_requests`. -/
theorem leads_finish (w : World Text) (req result : Int) (msg : CStr) :
    Leads J env clients ⟨w, false, .respLock req result msg⟩
      ⟨finishRequest w req result msg, false, .autoSave⟩ := by
  have hstore : Leads J env clients ⟨w, false, .respLock req result msg⟩
      ⟨{ w with shm := { w.shm with profileResponse := result } }, true, .respFinish req msg⟩ :=
    Leads.trans (b := ⟨w, true, .respStore req result msg⟩) (.of_eq fun _ => rfl) (.of_eq fun _ => rfl)
  exact hstore.trans (.of_eq fun _ => rfl)

/-- What follows the `switch`. -/
theorem leads_answer (req : Int) (r : World Text × Outcome) :
    Leads J env clients ⟨r.1, false, r.2.next req⟩ ⟨answer req r, false, .autoSave⟩ := by
  obtain ⟨w, out⟩ := r
  cases out with
  | publish result msg =>
      exact (leads_publish J env clients w (.request req result msg) nofun).trans
        (leads_finish J env clients _ req result msg)
  | respond result msg => exact leads_finish J env clients w req result msg
  | list text =>
      exact (leads_section J env clients (fun _ => rfl) fun _ => rfl).trans
        (leads_finish J env clients _ req 1 [])
  | autoSave =>
      let w' := setAutoSave w.shm.autoSaveEnabled w.shm.autoSaveDelayMs w
      have hload : Leads J env clients ⟨w, false, .loadEnabled req⟩
          ⟨w', false, .autoLock (.setAuto req (autoSaveMsg w'.pm))⟩ :=
        Leads.trans (b := ⟨w, false, .loadDelay req w.shm.autoSaveEnabled⟩) (.of_eq fun _ => rfl)
          (.of_eq fun _ => rfl)
      have hsync : Leads J env clients ⟨w', false, .autoLock (.setAuto req (autoSaveMsg w'.pm))⟩
          ⟨profileSyncAutoSaveToShm w', false, .respLock req 1 (autoSaveMsg w'.pm)⟩ :=
        leads_section J env clients (fun _ => rfl) fun _ => rfl
      exact (hload.trans hsync).trans (leads_finish J env clients _ req 1 _)

/-- **`profile_process_requests`**. -/
theorem leads_processRequests (w : World Text) :
    Leads J env clients ⟨w, false, .loadRequest⟩
      ⟨profileProcessRequests J w env, false, .autoSave⟩ := by
  unfold profileProcessRequests
  by_cases hreq : w.shm.profileRequest = 0
  · rw [if_pos hreq]
    refine .of_eq fun hist => ?_
    simp [threadStep, Place.sys, hreq, Sys.at_]
  · rw [if_neg hreq]
    let req := w.shm.profileRequest
    let name := strncpy profileNameLen w.shm.profileName
    have hload : Leads J env clients ⟨w, false, .loadRequest⟩ ⟨w, false, .nameLock req⟩ := by
      refine .of_step fun hist => ⟨{ hist with loaded := hist.last.map Prod.fst }, ?_⟩
      simp [threadStep, Place.sys, hreq, Sys.at_, req]
    have hname : Leads J env clients ⟨w, false, .nameLock req⟩ ⟨w, false, .execute req name⟩ :=
      leads_section J env clients (fun _ => rfl) fun _ => rfl
    have hexec : Leads J env clients ⟨w, false, .execute req name⟩
        ⟨(processRequest J w req name env).1, false, (processRequest J w req name env).2.next req⟩ :=
      .of_step fun hist => ⟨_, rfl⟩
    exact ((hload.trans hname).trans hexec).trans (leads_answer J env clients req _)

/-- One event. -/
theorem leads_event (w : World Text) (event : InotifyEvent) (rest : List InotifyEvent) :
    Leads J env clients ⟨w, false, .events (event :: rest)⟩
      ⟨handleInotifyEvent J w event, false, .events rest⟩ := by
  cases event with
  | ignored => exact .of_eq fun _ => rfl
  | modify =>
      unfold handleInotifyEvent
      dsimp only
      by_cases hdirty : w.pm.profileDirty = true
      · rw [if_pos hdirty]
        refine .of_eq fun hist => ?_
        simp [threadStep, Place.sys, hdirty, Sys.at_]
      · rw [if_neg hdirty]
        cases hl : loadProfileFromDisk J w w.pm.activeName with
        | mk ok w' =>
            cases ok with
            | true =>
                have hload : Leads J env clients ⟨w, false, .events (.modify :: rest)⟩
                    ⟨w', false, .applyLock (.reload rest)⟩ := by
                  refine .of_step fun hist => ⟨{ hist with before := w.pm.activeProfile.slots }, ?_⟩
                  simp [threadStep, Place.sys, hdirty, hl, Sys.become]
                exact hload.trans (leads_publish J env clients w' (.reload rest) nofun)
            | false =>
                refine .of_eq fun hist => ?_
                simp [threadStep, Place.sys, hdirty, hl, Sys.become]

/-- **`profile_handle_inotify`**. -/
theorem leads_inotify (w : World Text) :
    Leads J env clients ⟨w, false, .readEvents⟩ ⟨profileHandleInotify J w env, false, .syncLock⟩ := by
  have hevents : ∀ (events : List InotifyEvent) (w : World Text),
      Leads J env clients ⟨w, false, .events events⟩
        ⟨events.foldl (handleInotifyEvent J) w, false, .syncLock⟩ := by
    intro events
    induction events with
    | nil => exact fun w => .of_eq fun _ => rfl
    | cons event rest ih => exact fun w => (leads_event J env clients w event rest).trans (ih _)
  unfold profileHandleInotify
  by_cases hfd : w.pm.inotifyFd < 0
  · rw [if_pos hfd]
    refine .of_eq fun hist => ?_
    simp [threadStep, Place.sys, hfd, Sys.at_]
  · rw [if_neg hfd]
    refine Leads.trans (.of_eq fun hist => ?_) (hevents env.events w)
    simp [threadStep, Place.sys, hfd, Sys.at_]

/-! ## The loop -/

/-- **The prologue of `settings_worker`.** -/
theorem leads_start (w : World Text) :
    Leads J env clients ⟨w, false, .applyLock .start⟩ ⟨publish w, false, .syncLock⟩ :=
  leads_publish J env clients w .start nofun

/-- **One iteration of `settings_worker`**: alone, the thread's single steps compute
`settingsIteration`. -/
theorem leads_iteration (w : World Text) :
    Leads J env clients ⟨w, false, .syncLock⟩ ⟨settingsIteration J w env, false, .syncLock⟩ := by
  have hsave : ∀ w : World Text, Leads J env clients ⟨w, false, .autoSave⟩
      ⟨profileHandleAutoSave J w env, false, .readEvents⟩ := fun w => .of_eq fun _ => rfl
  have hrequests := (leads_sync J env clients w).trans (leads_processRequests J env clients _)
  exact (hrequests.trans (hsave _)).trans (leads_inotify J env clients _)

/-- From the start, the thread alone gets to its loop in the state `boot` has. -/
theorem initialSys_boot (fs : Fs Text) (slots : Fin maxSlots → Controller) (fd : Int)
    (env₀ : Env Text) :
    ∃ hist, Run (sysStep J) (fun l _ => l = .thread env) (initialSys J fs slots fd env₀ : Sys Text ι)
      (Place.sys ⟨boot J fs { initialShm with slots := slots } fd env₀, false, .syncLock⟩
        (initialSys J fs slots fd env₀ : Sys Text ι).clients hist) :=
  leads_start J env _ _ (initialSys J fs slots fd env₀ : Sys Text ι).hist

/-! ## A post -/

/-- **The posting section of a client**: alone, its seven steps compute `postRequest`. -/
theorem posts_alone (c : ι) (σ : Sys Text ι) (hpc : (σ.clients c).pc = .postLock)
    (hlock : σ.lock = none) :
    ∃ σ', exec (sysStep J) (List.replicate 7 (.client c)) σ = some σ' ∧
      σ'.world = { σ.world with shm := postRequest (σ.clients c).call σ.world.shm } ∧
      σ'.lock = none ∧ (σ'.clients c).pc = .wait polls := by
  simp [exec, sysStep, clientStep, hpc, Sys.acquire, hlock, Sys.clientAt, Sys.setShm, Sys.release,
    postRequest]

end Dstx
