/-
# Dstx.Profile.Watch — does the inotify watch follow the active profile's file?

A watch is bound to an inode.  `save_profile_to_disk` writes a temporary file and RENAMES it over the
profile, so after a save the path shows a new inode; loads and deletes of the active profile renew the
watch (`profile_update_inotify`), saves do not.

`watch_follows_active` is the law under the exact condition that separates the two: in every run in
which no save REPLACES the watched file, the watch is on the file the active name shows.
`autoSave_loses_watch` is the run that breaks it: one setting changed, one auto-save.
-/
import Dstx.Profile.RoundTrip
import Dstx.Profile.Steps

namespace Dstx

open Dstx.Lib

variable {Text : Type}

/-- A save under `name` replaces the watched file of the active profile. -/
def ReplacesWatched (w : World Text) (name : CStr) (env : Env Text) : Prop :=
  env.io.replaces = true ∧ (profileFile w.fs name).isSome ∧ SameFile w.fs name w.pm.activeName ∧
    0 ≤ w.pm.inotifyFd ∧ 0 ≤ w.pm.inotifyWd

/-- **The condition on a step**: no save request, and no auto-save that is due, replaces the watched
file. -/
def KeepsWatchedFile (a : Action Text) (w : World Text) : Prop :=
  match a with
  | .request c env => c.request = .save → ¬ReplacesWatched w c.postedName env
  | .autoSave env => autoSaveDue w.pm env.tv = true → ¬ReplacesWatched w w.pm.activeName env
  | _ => True

instance (w : World Text) (name : CStr) (env : Env Text) : Decidable (ReplacesWatched w name env) :=
  inferInstanceAs (Decidable (_ ∧ _))

instance (a : Action Text) (w : World Text) : Decidable (KeepsWatchedFile a w) :=
  match a with
  | .request c env => inferInstanceAs (Decidable (c.request = .save → ¬ReplacesWatched w c.postedName env))
  | .autoSave env =>
      inferInstanceAs (Decidable (autoSaveDue w.pm env.tv = true → ¬ReplacesWatched w w.pm.activeName env))
  | .write _ _ | .sync _ | .inotify _ | .edit _ _ => .isTrue trivial

/-! ## Steps that cannot move the watch -/

/-- The law only reads the active name, the watch, and the inode under the active name. -/
theorem WatchesActive.congr {w w' : World Text} (h : WatchesActive w)
    (hfd : w'.pm.inotifyFd = w.pm.inotifyFd) (hwd : w'.pm.inotifyWd = w.pm.inotifyWd)
    (hname : w'.pm.activeName = w.pm.activeName) (hin : w'.inotify = w.inotify)
    (hino : 0 ≤ w.pm.inotifyFd → 0 ≤ w.pm.inotifyWd → ∀ n,
      fileOf w'.fs w.pm.activeName = some n →
        ∃ m, fileOf w.fs w.pm.activeName = some m ∧ m.ino = n.ino) : WatchesActive w' := by
  intro hfd' hwd' n hn
  rw [hfd] at hfd'
  rw [hwd] at hwd' ⊢
  rw [hname] at hn
  rw [hin]
  obtain ⟨m, hm, hino⟩ := hino hfd' hwd' n hn
  rw [← hino]
  exact h hfd' hwd' m hm

theorem WatchesActive.of_unchanged {w w' : World Text} (h : WatchesActive w)
    (hu : Unchanged w w') : WatchesActive w' := by
  apply h.congr (by rw [hu.pm]) (by rw [hu.pm]) (by rw [hu.pm]) hu.inotify
  intro _ _ n hn
  rw [hu.disk.files] at hn
  exact ⟨n, hn, rfl⟩

/-- The auto-save settings are not read. -/
theorem WatchesActive.of_autoSaveCells {w w' : World Text} {enabled : Bool} {delay : UInt32}
    (h : WatchesActive w)
    (hu : Unchanged
      { w with pm := { w.pm with autoSaveEnabled := enabled, autoSaveDelayMs := delay } } w') :
    WatchesActive w' := by
  refine WatchesActive.of_unchanged ?_ hu
  exact h

/-- A save that does not replace the watched file leaves it under the active name. -/
theorem WatchesActive.of_stored {w w' : World Text} {name : CStr} {text : Text} {env : Env Text}
    (h : WatchesActive w) (hs : Stored w.fs w'.fs name text) (hio : env.io.replaces = true)
    (hkeep : ¬ReplacesWatched w name env)
    (hfd : w'.pm.inotifyFd = w.pm.inotifyFd) (hwd : w'.pm.inotifyWd = w.pm.inotifyWd)
    (hname : w'.pm.activeName = w.pm.activeName) (hin : w'.inotify = w.inotify) :
    WatchesActive w' := by
  apply h.congr hfd hwd hname hin
  intro hfd₀ hwd₀ n hn
  have hne : ¬SameFile w.fs w.pm.activeName name := by
    intro hsame
    exact hkeep ⟨hio, hs.resolved, hsame.symm, hfd₀, hwd₀⟩
  obtain ⟨m, -, hfiles⟩ := hs.files
  rw [hfiles, if_neg hne] at hn
  exact ⟨n, hn, rfl⟩

variable (J : CJson.Lib Text)

/-- Removing a file shows no new inode under the active name. -/
theorem WatchesActive.of_removed {w w' : World Text} {name : CStr} (h : WatchesActive w)
    (hr : Removed w.fs w'.fs name) (hpm : w'.pm = w.pm) (hin : w'.inotify = w.inotify) :
    WatchesActive w' := by
  apply h.congr (by rw [hpm]) (by rw [hpm]) (by rw [hpm]) hin
  intro _ _ n hn
  rw [hr.files] at hn
  split at hn
  · cases hn
  · exact ⟨n, hn, rfl⟩

/-- **A served request keeps the watch on the active file**, unless it is a save that replaces it. -/
theorem watchesActive_serve {w : World Text} (c : Call) (env : Env Text) (h : WatchesActive w)
    (hok : c.request = .save → ¬ReplacesWatched w c.postedName env) :
    WatchesActive (serve J w c env) := by
  cases hreq : c.request with
  | load =>
      rcases serve_load J w c env hreq with ⟨-, doc, -, hsw⟩ | ⟨-, hu⟩
      · exact hsw.watch
      · exact h.of_unchanged hu
  | save =>
      rcases serve_save J w c env hreq with ⟨hio, hs, hpm, hin, -⟩ | hu
      · have hmgr : (savedManager w.pm c.postedName).inotifyFd = w.pm.inotifyFd ∧
            (savedManager w.pm c.postedName).inotifyWd = w.pm.inotifyWd ∧
            (savedManager w.pm c.postedName).activeName = w.pm.activeName := by
          unfold savedManager
          split <;> exact ⟨rfl, rfl, rfl⟩
        obtain ⟨hfd, hwd, hname⟩ := hmgr
        rw [← hpm] at hfd hwd hname
        exact h.of_stored hs hio (hok hreq) hfd hwd hname hin
      · exact h.of_unchanged hu
  | delete =>
      rcases serve_delete J w c env hreq with ⟨-, hu⟩ | ⟨-, -, hr, hpm, hin, -⟩ | ⟨-, -, -, hsw⟩
      · exact h.of_unchanged hu
      · exact h.of_removed hr hpm hin
      · rcases hsw with ⟨doc, -, hsw⟩ | ⟨-, hsw⟩
        · exact hsw.watch
        · exact hsw.watch
  | list =>
      obtain ⟨enabled, delay, hu⟩ := serve_other J w c env (Or.inl hreq)
      exact h.of_autoSaveCells hu
  | setAutoSave =>
      obtain ⟨enabled, delay, hu⟩ := serve_other J w c env (Or.inr hreq)
      exact h.of_autoSaveCells hu

/-- **One step.** -/
theorem watchesActive_step {a : Action Text} {w w' : World Text} (h : WatchesActive w)
    (hok : KeepsWatchedFile a w) (hstep : step J a w = some w') : WatchesActive w' := by
  cases hstep
  cases a with
  | write i f => exact h
  | sync env =>
      show WatchesActive (profileSyncShmToActive w env)
      rcases profileSyncShmToActive_spec w env with heq | ⟨slots, heq⟩
      · rw [heq]
        exact h
      · rw [heq]
        exact h
  | request c env => exact watchesActive_serve J c env h hok
  | autoSave env =>
      rcases autoSave_cases J w env with hu | ⟨hdue, hio, hs, hpm, hin, -⟩
      · exact h.of_unchanged hu
      · have hfd : (profileHandleAutoSave J w env).pm.inotifyFd = w.pm.inotifyFd := by rw [hpm]
        have hwd : (profileHandleAutoSave J w env).pm.inotifyWd = w.pm.inotifyWd := by rw [hpm]
        have hname : (profileHandleAutoSave J w env).pm.activeName = w.pm.activeName := by rw [hpm]
        exact h.of_stored hs hio (hok hdue) hfd hwd hname hin
  | inotify env =>
      refine profileHandleInotify_keeps J ?_ w env h
      intro w event h
      rcases handleInotifyEvent_cases J w event with hu | hr
      · exact h.of_unchanged hu
      · obtain ⟨doc, -, hpm⟩ := hr.pm
        apply h.congr (by rw [hpm]) (by rw [hpm]) (by rw [hpm]) hr.inotify
        intro _ _ n hn
        rw [hr.disk.files] at hn
        exact ⟨n, hn, rfl⟩
  | edit p t =>
      -- the content changes, the inode stays
      refine h.congr rfl rfl rfl rfl ?_
      intro _ _ n hn
      have hino := editInPlace_ino w.fs p t w.pm.activeName
      rw [show fileOf (w.fs.editInPlace p t) w.pm.activeName = some n from hn] at hino
      obtain ⟨m, hm, he⟩ := Option.map_eq_some_iff.mp hino.symm
      exact ⟨m, hm, he⟩

/-- **The watch follows the active profile** — from every start and along every order of client writes,
syncs, requests, auto-saves, reloads and external edits in which no save replaces the watched file. -/
theorem watch_follows_active (fs : Fs Text) (shm : SharedData) (fd : Int) (env : Env Text)
    (w : World Text) (h : Run (step J) KeepsWatchedFile (boot J fs shm fd env) w) :
    WatchesActive w := by
  refine h.invariant ?_ (watchesActive_boot J fs shm fd env)
  intro a s t hs hok hstep
  exact watchesActive_step J hs hok hstep

/-! ## A run that loses the watch -/

/-- The daemon's first start on a machine with every directory and no file. -/
def firstBoot : World (Option CJson) :=
  boot CJson.treeLib (Fs.blank fun _ => true) initialShm 3 quietEnv

/-- `quietEnv`, `sec` seconds later. -/
def laterEnv (sec : Int) : Env Text := { quietEnv with tv := ⟨sec, 0⟩ }

/-- A client saves the active profile under `name`. -/
def saveProfile (name : CStr) : Action (Option CJson) :=
  .request ⟨.save, some name, -1, -1⟩ quietEnv

/-- A client loads the profile `name`. -/
def requestLoad (name : CStr) : Action (Option CJson) :=
  .request ⟨.load, some name, -1, -1⟩ quietEnv

/-- A client deletes the profile `name`. -/
def deleteProfile (name : CStr) : Action (Option CJson) :=
  .request ⟨.delete, some name, -1, -1⟩ quietEnv

/-- `Racing` is saved, loaded and deleted; in between, `Default` is saved anew while it is not watched. -/
def racingTrace : List (Action (Option CJson)) :=
  [saveProfile "Racing".toList, requestLoad "Racing".toList, saveProfile defaultName,
    deleteProfile "Racing".toList]

/-- The watch is set and the active name has a file. -/
def watchSet (w : World Text) : Bool :=
  decide (0 ≤ w.pm.inotifyFd) && decide (0 ≤ w.pm.inotifyWd) && (fileOf w.fs w.pm.activeName).isSome

/-- Both saves of `racingTrace` replace a file, and neither the watched one: the deletion of the active profile
ends on the NEW file of `Default`, with the watch on it. -/
theorem watch_follows_active_racing :
    ∃ w n, Run (step CJson.treeLib) KeepsWatchedFile firstBoot w ∧ w.pm.activeName = defaultName ∧
      fileOf w.fs defaultName = some n ∧ w.inotify.watch w.pm.inotifyWd = some n.ino := by
  obtain ⟨w, hrun, hend⟩ : ∃ w, Run (step CJson.treeLib) KeepsWatchedFile firstBoot w ∧
      (watchSet w && decide (w.pm.activeName = defaultName)) = true :=
    exists_run_of_exec_checked (fun a w => of_decide_eq_true) racingTrace (by decide +kernel)
  simp only [watchSet, Bool.and_eq_true, decide_eq_true_eq, Option.isSome_iff_exists] at hend
  obtain ⟨⟨⟨hfd, hwd⟩, n, hn⟩, hname⟩ := hend
  have hwatch := watch_follows_active CJson.treeLib _ _ _ _ _ hrun hfd hwd n hn
  rw [hname] at hn
  exact ⟨w, n, hrun, hname, hn, hwatch⟩

/-- The watch is set and the active file shows another inode. -/
def watchLost (w : World Text) : Bool :=
  decide (0 ≤ w.pm.inotifyFd) && decide (0 ≤ w.pm.inotifyWd) &&
    match fileOf w.fs w.pm.activeName with
    | some n => w.inotify.watch w.pm.inotifyWd != some n.ino
    | none => false

theorem not_watchesActive_of_lost {w : World Text} (h : watchLost w = true) : ¬WatchesActive w := by
  intro hw
  unfold watchLost at h
  cases hn : fileOf w.fs w.pm.activeName with
  | none => simp [hn] at h
  | some n =>
      simp only [hn, Bool.and_eq_true, decide_eq_true_eq, bne_iff_ne, ne_eq] at h
      exact h.2 (hw h.1.1 h.1.2 n hn)

/-- **The everyday failure**: a client turns a light on, the change is synced, and the auto-save two
seconds later replaces the watched file. -/
theorem autoSave_loses_watch :
    ∃ w, Run (step CJson.treeLib) free firstBoot w ∧ ¬WatchesActive w := by
  obtain ⟨w, hrun, hlost⟩ : ∃ w, Run (step CJson.treeLib) free firstBoot w ∧ watchLost w = true :=
    exists_run_of_exec [.write ⟨0, by decide⟩ fun c => { c with ledR := 255 },
      .sync (laterEnv 1), .autoSave (laterEnv 3)] (by decide +kernel)
  exact ⟨w, hrun, not_watchesActive_of_lost hlost⟩

end Dstx
