/-
# Dstx.Profile.Durability — is a synced change ever discarded?

The daemon around the manager: it runs, and it ends on a signal (`cleanup` calls `exit`) or through
`settings_shutdown`.  `Daemon` adds to the manager's world two HISTORY fields the code does not have:
`unsaved`, the slots of the last change `profile_sync_shm_to_active` took over, kept until the active
profile's file records them; and `discarded`, the changes that were given up while still unsaved —
because another profile became active, because the active slots were replaced, or because the daemon
ended.

The law is `discarded = []`.  Loads do not look at `profile_dirty` and the signal handler does not save,
so it fails (`synced_change_discarded`); `nothing_discarded` is the law over
every run in which those steps find nothing unsaved.  The documented way to end, `settings_shutdown`,
needs no such condition: it saves.
-/
import Dstx.Profile.Consistency

namespace Dstx

open Dstx.Lib

variable {Text : Type} (J : CJson.Lib Text)

/-! ## The end of the daemon -/

/-- **`profile_manager_cleanup`**, up to closing the watch. -/
def profileManagerCleanup (w : World Text) (env : Env Text) : World Text :=
  if w.pm.profileDirty && w.pm.autoSaveEnabled then
    (saveProfileToDisk J w w.pm.activeName env).2
  else w

/-! ## The daemon with its history -/

/-- **The daemon**, with the synced change that is not filed yet and the changes that were given up. -/
structure Daemon (Text : Type) where
  world : World Text
  running : Bool
  unsaved : Option Slots
  discarded : List (CStr × Slots)

/-- A daemon that has just started. -/
def Daemon.start (w : World Text) : Daemon Text := ⟨w, true, none, []⟩

/-- What the daemon does next: a step of the manager, or one of its two ends. -/
inductive DaemonAction (Text : Type) where
  | act (a : Action Text)
  /-- `SIGINT` / `SIGTERM`: `cleanup`. -/
  | signal
  /-- `settings_shutdown`. -/
  | shutdown (env : Env Text)

/-- The change that is unsaved after `a`, before looking at the files: a sync that changed the active
slots supersedes what was unsaved. -/
def changeAfter (a : Action Text) (w w' : World Text) (unsaved : Option Slots) : Option Slots :=
  match a with
  | .sync _ =>
      if w'.pm.activeProfile.slots = w.pm.activeProfile.slots then unsaved
      else some w'.pm.activeProfile.slots
  | _ => unsaved

open Classical in
/-- Book the unsaved change of the profile that was active before the step: filed, still held by the
running manager, or given up. -/
noncomputable def Daemon.account (d : Daemon Text) (w' : World Text) (running : Bool)
    (change : Option Slots) : Daemon Text :=
  match change with
  | none => ⟨w', running, none, d.discarded⟩
  | some s =>
      if Records J w'.fs d.world.pm.activeName s then ⟨w', running, none, d.discarded⟩
      else if running = true ∧ w'.pm.activeName = d.world.pm.activeName ∧
          w'.pm.activeProfile.slots = s then ⟨w', running, some s, d.discarded⟩
      else ⟨w', running, none, (d.world.pm.activeName, s) :: d.discarded⟩

/-- **One step of the daemon**; a daemon that has ended makes none. -/
noncomputable def daemonStep (a : DaemonAction Text) (d : Daemon Text) : Option (Daemon Text) :=
  if d.running then
    match a with
    | .act a =>
        some (d.account J (act J a d.world) true (changeAfter a d.world (act J a d.world) d.unsaved))
    | .signal => some (d.account J d.world false d.unsaved)
    | .shutdown env => some (d.account J (profileManagerCleanup J d.world env) false d.unsaved)
  else none

/-- The law's own setting: auto-save is enabled and file writes succeed. -/
def WritesSucceed (a : DaemonAction Text) (d : Daemon Text) : Prop :=
  d.world.pm.autoSaveEnabled = true ∧
    match a with
    | .act (.request _ env) => env.io = .ok
    | .act (.autoSave env) => env.io = .ok
    | .shutdown env => env.io = .ok ∧ (profileFile d.world.fs d.world.pm.activeName).isSome
    | _ => True

/-- **The condition on a step**: a load that is accepted, a delete of the active profile and a signal
find nothing unsaved. -/
def EndsClean (a : DaemonAction Text) (d : Daemon Text) : Prop :=
  match a with
  | .act (.request c _) =>
      (c.request = .load ∧ (readProfile J d.world.fs c.postedName).isSome) ∨
        (c.request = .delete ∧ c.postedName = d.world.pm.activeName) →
      d.world.pm.profileDirty = false
  | .signal => d.world.pm.profileDirty = false
  | _ => True

/-! ## One step -/

/-- Nothing was given up, and an unsaved change is what the manager holds, marked dirty. -/
structure DaemonInv (d : Daemon Text) : Prop where
  kept : d.discarded = []
  held : d.running = true → ∀ s, d.unsaved = some s →
    d.world.pm.profileDirty = true ∧ d.world.pm.activeProfile.slots = s

variable {J}

/-- With nothing unsaved there is nothing to give up. -/
theorem account_none {d : Daemon Text} (h : d.discarded = []) (w' : World Text) (running : Bool) :
    DaemonInv (d.account J w' running none) :=
  ⟨h, nofun⟩

/-- A change that is filed, or still held and marked dirty, is not given up. -/
theorem account_some {d : Daemon Text} (h : d.discarded = []) {w' : World Text} {running : Bool}
    {s : Slots}
    (hfate : Records J w'.fs d.world.pm.activeName s ∨
      (running = true ∧ w'.pm.activeName = d.world.pm.activeName ∧
        w'.pm.activeProfile.slots = s ∧ w'.pm.profileDirty = true)) :
    DaemonInv (d.account J w' running (some s)) := by
  unfold Daemon.account
  dsimp only
  by_cases hrec : Records J w'.fs d.world.pm.activeName s
  · rw [if_pos hrec]
    exact ⟨h, nofun⟩
  · rw [if_neg hrec]
    rcases hfate with hr | ⟨hrun, hname, hslots, hdirty⟩
    · exact absurd hr hrec
    · rw [if_pos ⟨hrun, hname, hslots⟩]
      refine ⟨h, ?_⟩
      intro _ s' hs'
      have hss : s = s' := Option.some.inj hs'
      exact ⟨hdirty, hslots.trans hss⟩

/-- The fate of a held change across a step of the manager: filed, or still held. -/
def Safe (J : CJson.Lib Text) (w w' : World Text) : Prop :=
  Records J w'.fs w.pm.activeName w.pm.activeProfile.slots ∨
    (w'.pm.activeName = w.pm.activeName ∧ w'.pm.activeProfile.slots = w.pm.activeProfile.slots ∧
      w'.pm.profileDirty = true)

theorem safe_of_unchanged {w w' : World Text} (hdirty : w.pm.profileDirty = true)
    (hpm : w'.pm = w.pm) : Safe J w w' := by
  right
  rw [hpm]
  exact ⟨rfl, rfl, hdirty⟩

/-- A sync keeps the active name; what was dirty stays dirty, and a change makes it dirty. -/
theorem sync_keeps (w : World Text) (env : Env Text) :
    (profileSyncShmToActive w env).pm.activeName = w.pm.activeName ∧
      (w.pm.profileDirty = true ∨
          (profileSyncShmToActive w env).pm.activeProfile.slots ≠ w.pm.activeProfile.slots →
        (profileSyncShmToActive w env).pm.profileDirty = true) := by
  rcases profileSyncShmToActive_spec w env with heq | ⟨slots, heq⟩
  · rw [heq]
    refine ⟨rfl, ?_⟩
    rintro (hdirty | hne)
    · exact hdirty
    · exact absurd rfl hne
  · rw [heq]
    exact ⟨rfl, fun _ => rfl⟩

/-- A served request is safe for unsaved changes unless it switches profiles. -/
theorem safe_serve {w : World Text} (hdirty : w.pm.profileDirty = true) (c : Call) {env : Env Text}
    (hio : env.io = .ok)
    (hload : c.request = .load → readProfile J w.fs c.postedName = none)
    (hdelete : c.request = .delete → c.postedName ≠ w.pm.activeName) :
    Safe J w (serve J w c env) := by
  cases hreq : c.request with
  | load =>
      rcases serve_load J w c env hreq with ⟨-, doc, hdoc, -⟩ | ⟨-, hu⟩
      · rw [hload hreq] at hdoc
        cases hdoc
      · exact safe_of_unchanged hdirty hu.pm
  | save =>
      rcases serve_save J w c env hreq with ⟨-, hs, hpm, -⟩ | hu
      · unfold savedManager at hpm
        by_cases hactive : c.postedName = w.pm.activeName
        · have htext : savedText J w env = profileText J w.pm env.now := by
            unfold savedText
            rw [hio]
          rw [htext, hactive] at hs
          exact Or.inl (records_of_stored J hs (show SameFile w.fs w.pm.activeName w.pm.activeName from rfl))
        · rw [if_neg hactive] at hpm
          exact safe_of_unchanged hdirty hpm
      · exact safe_of_unchanged hdirty hu.pm
  | delete =>
      rcases serve_delete J w c env hreq with ⟨-, hu⟩ | ⟨-, -, -, hpm, -⟩ | ⟨-, hactive, -⟩
      · exact safe_of_unchanged hdirty hu.pm
      · exact safe_of_unchanged hdirty hpm
      · exact absurd hactive (hdelete hreq)
  | list =>
      obtain ⟨enabled, delay, hu⟩ := serve_other J w c env (Or.inl hreq)
      right
      rw [hu.pm]
      exact ⟨rfl, rfl, hdirty⟩
  | setAutoSave =>
      obtain ⟨enabled, delay, hu⟩ := serve_other J w c env (Or.inr hreq)
      right
      rw [hu.pm]
      exact ⟨rfl, rfl, hdirty⟩

/-- A due auto-save files the change, any other one leaves it where it is. -/
theorem safe_autoSave {w : World Text} (hdirty : w.pm.profileDirty = true) {env : Env Text}
    (hio : env.io = .ok) : Safe J w (profileHandleAutoSave J w env) := by
  rcases autoSave_cases J w env with hu | ⟨-, -, hs, -⟩
  · exact safe_of_unchanged hdirty hu.pm
  · have htext : savedText J w env = profileText J w.pm env.now := by
      unfold savedText
      rw [hio]
    rw [htext] at hs
    exact Or.inl (records_of_stored J hs (show SameFile w.fs w.pm.activeName w.pm.activeName from rfl))

/-- An auto-save that leaves nothing dirty has filed the change. -/
theorem records_autoSave {w : World Text} (hdirty : w.pm.profileDirty = true) {env : Env Text}
    (hio : env.io = .ok) (hclean : (profileHandleAutoSave J w env).pm.profileDirty = false) :
    Records J (profileHandleAutoSave J w env).fs w.pm.activeName w.pm.activeProfile.slots := by
  rcases safe_autoSave hdirty hio with hrec | ⟨-, -, hstill⟩
  · exact hrec
  · rw [hclean] at hstill
    cases hstill

/-- Reloads pass by a manager with unsaved changes. -/
theorem inotify_dirty {w : World Text} (hdirty : w.pm.profileDirty = true) (env : Env Text) :
    (profileHandleInotify J w env).pm = w.pm := by
  refine profileHandleInotify_keeps J (P := fun w' => w'.pm = w.pm) ?_ w env rfl
  intro w' event hpm
  rcases handleInotifyEvent_cases J w' event with hu | hr
  · exact hu.pm.trans hpm
  · have hclean := hr.clean
    rw [hpm, hdirty] at hclean
    cases hclean

/-- **A step of the manager.** -/
theorem daemonInv_act {d : Daemon Text} (h : DaemonInv d) (hrun : d.running = true) {a : Action Text}
    (hio : WritesSucceed (.act a) d) (hok : EndsClean J (.act a) d) :
    DaemonInv (d.account J (act J a d.world) true
      (changeAfter a d.world (act J a d.world) d.unsaved)) := by
  -- a change that was held before the step, and is not superseded by it
  have hheld : ∀ {w' : World Text}, (d.world.pm.profileDirty = true → Safe J d.world w') →
      DaemonInv (d.account J w' true d.unsaved) := by
    intro w' hsafe
    cases hun : d.unsaved with
    | none => exact account_none h.kept _ _
    | some s =>
        obtain ⟨hdirty, rfl⟩ := h.held hrun s hun
        apply account_some h.kept
        rcases hsafe hdirty with hrec | ⟨hname, hslots, hdirty'⟩
        · exact Or.inl hrec
        · exact Or.inr ⟨rfl, hname, hslots, hdirty'⟩
  cases a with
  | write i f => exact hheld fun hdirty => safe_of_unchanged hdirty rfl
  | sync env =>
      have hact : act J (.sync env) d.world = profileSyncShmToActive d.world env := rfl
      rw [hact]
      obtain ⟨hname, hdirty⟩ := sync_keeps d.world env
      generalize profileSyncShmToActive d.world env = w' at hname hdirty ⊢
      by_cases hslots : w'.pm.activeProfile.slots = d.world.pm.activeProfile.slots
      · have hchange : changeAfter (.sync env) d.world w' d.unsaved = d.unsaved := if_pos hslots
        rw [hchange]
        exact hheld fun h => Or.inr ⟨hname, hslots, hdirty (Or.inl h)⟩
      · have hchange : changeAfter (.sync env) d.world w' d.unsaved =
            some w'.pm.activeProfile.slots := if_neg hslots
        rw [hchange]
        exact account_some h.kept (Or.inr ⟨rfl, hname, rfl, hdirty (Or.inr hslots)⟩)
  | request c env =>
      refine hheld fun hdirty => safe_serve hdirty c hio.2 ?_ ?_
      · intro hreq
        by_contra hsome
        have hclean := hok (Or.inl ⟨hreq, Option.isSome_iff_ne_none.mpr hsome⟩)
        rw [hdirty] at hclean
        cases hclean
      · intro hreq hname
        have hclean := hok (Or.inr ⟨hreq, hname⟩)
        rw [hdirty] at hclean
        cases hclean
  | autoSave env => exact hheld fun hdirty => safe_autoSave hdirty hio.2
  | inotify env => exact hheld fun hdirty => safe_of_unchanged hdirty (inotify_dirty hdirty env)
  | edit p t => exact hheld fun hdirty => safe_of_unchanged hdirty rfl

/-- `settings_shutdown` files what is unsaved. -/
theorem records_shutdown {w : World Text} {env : Env Text} (hdirty : w.pm.profileDirty = true)
    (hauto : w.pm.autoSaveEnabled = true) (hio : env.io = .ok)
    (hres : (profileFile w.fs w.pm.activeName).isSome) :
    Records J (profileManagerCleanup J w env).fs w.pm.activeName w.pm.activeProfile.slots := by
  unfold profileManagerCleanup
  rw [hdirty, hauto]
  obtain ⟨-, hsaved⟩ := saveProfileToDisk_ok J hio hres
  exact records_of_stored J hsaved.stored (show SameFile w.fs w.pm.activeName w.pm.activeName from rfl)

/-- **One step of the daemon.** -/
theorem daemonInv_step {a : DaemonAction Text} {d d' : Daemon Text} (h : DaemonInv d)
    (hio : WritesSucceed a d) (hok : EndsClean J a d) (hstep : daemonStep J a d = some d') :
    DaemonInv d' := by
  unfold daemonStep at hstep
  split at hstep
  · rename_i hrun
    cases a with
    | act a =>
        cases hstep
        exact daemonInv_act h hrun hio hok
    | signal =>
        cases hstep
        cases hun : d.unsaved with
        | none => exact account_none h.kept _ _
        | some s =>
            -- a signal comes only when nothing is dirty, and an unsaved change is
            have hclean : d.world.pm.profileDirty = false := hok
            rw [(h.held hrun s hun).1] at hclean
            cases hclean
    | shutdown env =>
        cases hstep
        cases hun : d.unsaved with
        | none => exact account_none h.kept _ _
        | some s =>
            obtain ⟨hdirty, rfl⟩ := h.held hrun s hun
            exact account_some h.kept (Or.inl (records_shutdown hdirty hio.1 hio.2.1 hio.2.2))
  · cases hstep

/-! ## Whole runs -/

/-- **No synced change is discarded** — from every start, along every run in which auto-save is enabled
and file writes succeed, and in which accepted loads, deletes of the active profile and signals find
nothing unsaved. -/
theorem nothing_discarded (w : World Text) (d : Daemon Text)
    (h : Run (daemonStep J) (fun a d => WritesSucceed a d ∧ EndsClean J a d) (Daemon.start w) d) :
    d.discarded = [] := by
  have hinv : DaemonInv d := by
    refine h.invariant ?_ ⟨rfl, nofun⟩
    intro a s t hs hok hstep
    exact daemonInv_step hs hok.1 hok.2 hstep
  exact hinv.kept

/-! ## A change that is filed in time

The light is turned on under `Default` and synced.  When the auto-save is due it files the change; only then
another profile is loaded and the daemon told to stop. -/

/-- With nothing unsaved, a step other than a sync leaves nothing unsaved. -/
theorem daemonStep_quiet {w w' : World Text} {a : Action Text} (hw : act J a w = w')
    (ha : changeAfter a w w' none = none) (lost : List (CStr × Slots)) :
    daemonStep J (.act a) ⟨w, true, none, lost⟩ = some ⟨w', true, none, lost⟩ := by
  unfold daemonStep
  dsimp only
  rw [if_pos rfl, hw, ha]
  rfl

/-- A sync that changes the active slots leaves a change unsaved, until the file records it. -/
theorem daemonStep_sync {w w' : World Text} {env : Env Text} (hw : act J (.sync env) w = w')
    (hslots : ¬(w'.pm.activeProfile.slots = w.pm.activeProfile.slots))
    (hrec : ¬Records J w'.fs w.pm.activeName w'.pm.activeProfile.slots)
    (lost : List (CStr × Slots)) :
    daemonStep J (.act (.sync env)) ⟨w, true, none, lost⟩ =
      some ⟨w', true, some w'.pm.activeProfile.slots, lost⟩ := by
  have hact : act J (.sync env) w = profileSyncShmToActive w env := rfl
  have hname : w'.pm.activeName = w.pm.activeName := by
    rw [← hw, hact]
    exact (sync_keeps w env).1
  have hchange : changeAfter (.sync env) w w' none = some w'.pm.activeProfile.slots := by
    unfold changeAfter
    dsimp only
    rw [if_neg hslots]
  unfold daemonStep
  dsimp only
  rw [if_pos rfl, hw, hchange]
  unfold Daemon.account
  dsimp only
  rw [if_neg hrec, if_pos ⟨rfl, hname, rfl⟩]

/-- A step that files the unsaved change, and is no sync, leaves nothing unsaved. -/
theorem daemonStep_filed {w w' : World Text} {a : Action Text} {s : Slots} (hw : act J a w = w')
    (ha : changeAfter a w w' (some s) = some s) (hrec : Records J w'.fs w.pm.activeName s)
    (lost : List (CStr × Slots)) :
    daemonStep J (.act a) ⟨w, true, some s, lost⟩ = some ⟨w', true, none, lost⟩ := by
  unfold daemonStep
  dsimp only
  rw [if_pos rfl, hw, ha]
  unfold Daemon.account
  dsimp only
  rw [if_pos hrec]

/-- A signal that finds nothing unsaved ends the daemon. -/
theorem daemonStep_end (w : World Text) (lost : List (CStr × Slots)) :
    daemonStep J .signal ⟨w, true, none, lost⟩ = some ⟨w, false, none, lost⟩ := by
  unfold daemonStep
  rw [if_pos rfl]
  rfl

/-- With nothing dirty, whatever ends the profile or the daemon ends it clean. -/
theorem endsClean_of_clean {a : DaemonAction Text} {w : World Text} (h : w.pm.profileDirty = false)
    (running : Bool) (unsaved : Option Slots) (lost : List (CStr × Slots)) :
    EndsClean J a ⟨w, running, unsaved, lost⟩ := by
  unfold EndsClean
  split
  · exact fun _ => h
  · exact h
  · trivial

/-- A client turns the red light of the first controller on. -/
def lightOn : Action (Option CJson) := .write ⟨0, maxSlots_pos⟩ fun c => { c with ledR := 255 }

/-- The manager after the first start and a save as `Racing`. -/
def racingWorld : World (Option CJson) := act CJson.treeLib (saveProfile "Racing".toList) firstBoot

/-- Then the light is turned on. -/
def litWorld : World (Option CJson) := act CJson.treeLib lightOn racingWorld

/-- Then the light is synced: the change is in the active profile. -/
def syncedWorld : World (Option CJson) := act CJson.treeLib (.sync (laterEnv 1)) litWorld

/-- A client loads `Racing`. -/
def loadRacing : Call := ⟨.load, some "Racing".toList, -1, -1⟩

/-- Eight seconds after the sync the auto-save is due. -/
def filedWorld : World (Option CJson) := act CJson.treeLib (.autoSave (laterEnv 9)) syncedWorld

/-- `Racing` instead of `Default`, after the auto-save. -/
def racedWorld : World (Option CJson) := act CJson.treeLib (.request loadRacing (laterEnv 10)) filedWorld

/-- `Racing` instead of `Default`, one second after the sync. -/
def switchedWorld : World (Option CJson) :=
  act CJson.treeLib (.request loadRacing (laterEnv 2)) syncedWorld

/-- The sync takes the light in; until the auto-save the file does not show it, whatever is active. -/
theorem syncedWorld_red :
    (litWorld.pm.activeProfile.slots ⟨0, by decide⟩).ledR = 0 ∧
      (syncedWorld.pm.activeProfile.slots ⟨0, by decide⟩).ledR ≠ 0 ∧
      filedRed syncedWorld.fs litWorld.pm.activeName = some 0 ∧
      filedRed syncedWorld.fs syncedWorld.pm.activeName = some 0 ∧
      filedRed switchedWorld.fs syncedWorld.pm.activeName = some 0 := by
  decide +kernel

/-- Auto-save stays enabled, and the flag is down from the auto-save on. -/
theorem racedWorld_clean :
    (racingWorld.pm.autoSaveEnabled ∧ litWorld.pm.autoSaveEnabled ∧ syncedWorld.pm.autoSaveEnabled ∧
        filedWorld.pm.autoSaveEnabled ∧ racedWorld.pm.autoSaveEnabled) ∧
      syncedWorld.pm.profileDirty = true ∧ filedWorld.pm.profileDirty = false ∧
      racedWorld.pm.profileDirty = false := by
  decide +kernel

/-- Up to the sync nothing ends and nothing fails; then the change is unsaved. -/
theorem run_to_synced :
    Run (daemonStep CJson.treeLib) (fun a d => WritesSucceed a d ∧ EndsClean CJson.treeLib a d)
      (Daemon.start firstBoot) ⟨syncedWorld, true, some syncedWorld.pm.activeProfile.slots, []⟩ := by
  obtain ⟨hlit, hred, hfiled, -, -⟩ := syncedWorld_red
  obtain ⟨⟨hracing, hlight, -, -, -⟩, -⟩ := racedWorld_clean
  have hslots : ¬(syncedWorld.pm.activeProfile.slots = litWorld.pm.activeProfile.slots) := by
    intro h
    apply hred
    rw [h]
    exact hlit
  have hrec := not_records_of_red hfiled hred
  have h₁ : daemonStep CJson.treeLib (.act (saveProfile "Racing".toList)) (Daemon.start firstBoot) =
      some ⟨racingWorld, true, none, []⟩ := daemonStep_quiet rfl rfl []
  have h₂ : daemonStep CJson.treeLib (.act lightOn) ⟨racingWorld, true, none, []⟩ =
      some ⟨litWorld, true, none, []⟩ := daemonStep_quiet rfl rfl []
  have h₃ := daemonStep_sync (show act CJson.treeLib (.sync (laterEnv 1)) litWorld = syncedWorld from rfl)
    hslots hrec []
  refine Run.tail (Run.tail (Run.single ?_ h₁) ?_ h₂) ?_ h₃
  · refine ⟨⟨by decide, rfl⟩, ?_⟩
    rintro (⟨h, -⟩ | ⟨h, -⟩) <;> cases h
  · exact ⟨⟨hracing, trivial⟩, trivial⟩
  · exact ⟨⟨hlight, trivial⟩, trivial⟩

/-- The auto-save files the change. -/
theorem filedWorld_records :
    Records CJson.treeLib filedWorld.fs syncedWorld.pm.activeName syncedWorld.pm.activeProfile.slots := by
  obtain ⟨-, hdirty, hclean, -⟩ := racedWorld_clean
  have hact : filedWorld = profileHandleAutoSave CJson.treeLib syncedWorld (laterEnv 9) := rfl
  rw [hact] at hclean ⊢
  exact records_autoSave hdirty rfl hclean

/-- The change is synced, filed by the auto-save, and followed by a load and a `SIGTERM`: the daemon ends with
`Racing` active, the light is in the file of `Default`, and nothing was discarded. -/
theorem nothing_discarded_filed :
    ∃ d, Run (daemonStep CJson.treeLib)
        (fun a d => WritesSucceed a d ∧ EndsClean CJson.treeLib a d) (Daemon.start firstBoot) d ∧
      d.running = false ∧ d.world.pm.activeName = "Racing".toList ∧
      filedRed d.world.fs defaultName = some 255 ∧ d.discarded = [] := by
  obtain ⟨⟨-, -, hsync, hsaved, hswitch⟩, -, hclean, hswitched⟩ := racedWorld_clean
  have hfile : daemonStep CJson.treeLib (.act (.autoSave (laterEnv 9)))
      ⟨syncedWorld, true, some syncedWorld.pm.activeProfile.slots, []⟩ = some ⟨filedWorld, true, none, []⟩ :=
    daemonStep_filed rfl rfl filedWorld_records []
  have hload : daemonStep CJson.treeLib (.act (.request loadRacing (laterEnv 10)))
      ⟨filedWorld, true, none, []⟩ = some ⟨racedWorld, true, none, []⟩ := daemonStep_quiet rfl rfl []
  have hend : daemonStep CJson.treeLib .signal ⟨racedWorld, true, none, []⟩ =
      some ⟨racedWorld, false, none, []⟩ := daemonStep_end racedWorld []
  have hrun : Run (daemonStep CJson.treeLib)
      (fun a d => WritesSucceed a d ∧ EndsClean CJson.treeLib a d) (Daemon.start firstBoot)
      ⟨racedWorld, false, none, []⟩ := by
    refine ((run_to_synced.tail ?_ hfile).tail ?_ hload).tail ?_ hend
    · dsimp only [WritesSucceed]
      exact ⟨⟨hsync, rfl⟩, trivial⟩
    · dsimp only [WritesSucceed]
      exact ⟨⟨hsaved, rfl⟩, endsClean_of_clean hclean true none []⟩
    · dsimp only [WritesSucceed]
      exact ⟨⟨hswitch, trivial⟩, endsClean_of_clean hswitched true none []⟩
  have hlost := nothing_discarded _ _ hrun
  refine ⟨⟨racedWorld, false, none, []⟩, hrun, rfl, ?_, ?_, hlost⟩
  · dsimp only
    decide +kernel
  · dsimp only
    decide +kernel

/-! ## Runs that discard a change -/

/-- A change that is not filed and not held any more is given up. -/
theorem account_discards {d : Daemon Text} {w' : World Text} {running : Bool} {s : Slots}
    (hrec : ¬Records J w'.fs d.world.pm.activeName s)
    (hgone : running = false ∨ w'.pm.activeName ≠ d.world.pm.activeName) :
    (d.account J w' running (some s)).discarded = (d.world.pm.activeName, s) :: d.discarded := by
  have hnot : ¬(running = true ∧ w'.pm.activeName = d.world.pm.activeName ∧
      w'.pm.activeProfile.slots = s) := by
    rintro ⟨hrun, hname, -⟩
    rcases hgone with h | h
    · rw [hrun] at h
      cases h
    · exact h hname
  unfold Daemon.account
  dsimp only
  rw [if_neg hrec, if_neg hnot]

/-- A signal gives up every change the active file does not record. -/
theorem daemonStep_signal {w : World Text} {s : Slots} (hrec : ¬Records J w.fs w.pm.activeName s)
    (lost : List (CStr × Slots)) :
    ∃ d', daemonStep J .signal ⟨w, true, some s, lost⟩ = some d' ∧ d'.running = false ∧
      d'.discarded = (w.pm.activeName, s) :: lost := by
  unfold daemonStep
  dsimp only
  rw [if_pos rfl]
  refine ⟨_, rfl, ?_, account_discards hrec (Or.inl rfl)⟩
  unfold Daemon.account
  dsimp only
  rw [if_neg hrec, if_neg (by simp)]

/-- A request that makes another profile active gives up every change the file of the old one does not
record. -/
theorem daemonStep_switch {w w' : World Text} {c : Call} {env : Env Text} {s : Slots}
    (hw : act J (.request c env) w = w') (hname : w'.pm.activeName ≠ w.pm.activeName)
    (hrec : ¬Records J w'.fs w.pm.activeName s) (lost : List (CStr × Slots)) :
    ∃ d', daemonStep J (.act (.request c env)) ⟨w, true, some s, lost⟩ = some d' ∧
      d'.discarded = (w.pm.activeName, s) :: lost := by
  unfold daemonStep
  dsimp only [changeAfter]
  rw [if_pos rfl, hw]
  exact ⟨_, rfl, account_discards hrec (Or.inr hname)⟩

/-- **Two ways to lose a synced change**, with auto-save enabled and every write succeeding: another
profile is loaded before the auto-save is due, or the daemon is told to stop. -/
theorem synced_change_discarded :
    (∃ d, Run (daemonStep CJson.treeLib) WritesSucceed (Daemon.start firstBoot) d ∧
        d.discarded ≠ []) ∧
      ∃ d, Run (daemonStep CJson.treeLib) WritesSucceed (Daemon.start firstBoot) d ∧
        d.running = false ∧ d.discarded ≠ [] := by
  have hname : switchedWorld.pm.activeName ≠ syncedWorld.pm.activeName := by decide +kernel
  obtain ⟨-, hred, -, hfiled, hswitched⟩ := syncedWorld_red
  obtain ⟨⟨-, -, hsync, -, -⟩, -⟩ := racedWorld_clean
  have hsynced := run_to_synced.mono fun _ _ hok => hok.1
  constructor
  · obtain ⟨d, hstep, hlost⟩ := daemonStep_switch
      (show act CJson.treeLib (.request loadRacing (laterEnv 2)) syncedWorld = switchedWorld from rfl)
      hname (not_records_of_red hswitched hred) []
    refine ⟨d, hsynced.tail ?_ hstep, ?_⟩
    · dsimp only [WritesSucceed]
      exact ⟨hsync, rfl⟩
    rw [hlost]
    exact List.cons_ne_nil _ _
  · obtain ⟨d, hstep, hend, hlost⟩ :=
      daemonStep_signal (not_records_of_red hfiled hred) []
    refine ⟨d, hsynced.tail ?_ hstep, hend, ?_⟩
    · dsimp only [WritesSucceed]
      exact ⟨hsync, trivial⟩
    rw [hlost]
    exact List.cons_ne_nil _ _

end Dstx
