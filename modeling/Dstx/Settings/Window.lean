/-
# Dstx.Settings.Window — the window between reading the settings and storing or saving them.

`profile_sync_shm_to_active` reads shared memory once per iteration; what the rest of the iteration
does with the active profile is about THAT copy.  A client that stores a setting after the copy was
made is not seen until the next iteration, and two things in the same iteration then go wrong:

* a reload stores the file's settings over it, although nothing of it is in the active profile
  (`reload_overwrites_setting`);
* a save request posted right after it is answered with a file that does not have it
  (`save_misses_setting`).

`reload_keeps_settings` and `save_holds_settings` are the two laws over every interleaving that keeps
out of the window.
-/
import Dstx.Settings.Moves
import Dstx.Settings.Requests

namespace Dstx

open Dstx.Lib
open Dstx.Lib.Mailbox (Party CallId)

variable {Text ι : Type}

/-! ## Where a setting is while the thread copies -/

/-- The settings a loop of the thread has still ahead. -/
def Pc.Ahead : Pc → Fin maxSlots → Setting → Prop
  | .applyLock _ => fun _ _ => True
  | .apply slots rest _ => AheadIn slots rest
  | .sync slots rest _ _ => AheadIn slots rest
  | _ => fun _ _ => False

/-- What the thread has of a setting: of the slot it is reading, `new_cfg`; else the active profile. -/
def Sys.taken (σ : Sys Text ι) (i : Fin maxSlots) (s : Setting) : UInt8 :=
  match σ.pc with
  | .sync (i₀ :: _) _ newCfg _ => if i = i₀ then newCfg.setting s else σ.active i s
  | _ => σ.active i s

/-- At the start of a slot, what is ahead is the slots that are left. -/
theorem aheadIn_iff {slots : List (Fin maxSlots)} {rest : List Setting} (h : ∀ s, s ∈ rest)
    (i : Fin maxSlots) (s : Setting) : AheadIn slots rest i s ↔ i ∈ slots := by
  cases slots with
  | nil => simp [AheadIn]
  | cons i₀ more => simp [AheadIn, h s, or_comm]

theorem aheadIn_finRange {rest : List Setting} (h : ∀ s, s ∈ rest) (i : Fin maxSlots) (s : Setting) :
    AheadIn (List.finRange maxSlots) rest i s :=
  (aheadIn_iff h i s).mpr (List.mem_finRange i)

/-- At the end of a slot, what is ahead is the slots after it. -/
theorem aheadIn_nil {i₀ : Fin maxSlots} {more : List (Fin maxSlots)} {i : Fin maxSlots} {s : Setting} :
    AheadIn (i₀ :: more) [] i s ↔ i ∈ more := by
  simp [AheadIn]

/-- Of the settings ahead, a step copies one. -/
theorem aheadIn_cons {i₀ : Fin maxSlots} {more : List (Fin maxSlots)} {s₀ : Setting}
    {rest : List Setting} {i : Fin maxSlots} {s : Setting} :
    AheadIn (i₀ :: more) (s₀ :: rest) i s ↔ AheadIn (i₀ :: more) rest i s ∨ (i = i₀ ∧ s = s₀) := by
  simp only [AheadIn, List.mem_cons]
  tauto

theorem not_ahead_of_plain {pc : Pc} (h : pc.Plain) (i : Fin maxSlots) (s : Setting) :
    ¬pc.Ahead i s := by
  cases pc <;> first | exact id | exact h.elim

theorem taken_of_plain {σ : Sys Text ι} (h : σ.pc.Plain) (i : Fin maxSlots) (s : Setting) :
    σ.taken i s = σ.active i s := by
  unfold Sys.taken
  split
  · rename_i hpc
    rw [hpc] at h
    exact h.elim
  · rfl

theorem taken_of_apply {σ : Sys Text ι} {slots : List (Fin maxSlots)} {rest : List Setting} {k : Cont}
    (h : σ.pc = .apply slots rest k) (i : Fin maxSlots) (s : Setting) :
    σ.taken i s = σ.active i s := by
  simp only [Sys.taken, h]

theorem taken_of_sync {σ : Sys Text ι} {i₀ : Fin maxSlots} {more : List (Fin maxSlots)}
    {rest : List Setting} {newCfg : SlotConfig} {changed : Bool}
    (h : σ.pc = .sync (i₀ :: more) rest newCfg changed) (i : Fin maxSlots) (s : Setting) :
    σ.taken i s = if i = i₀ then newCfg.setting s else σ.active i s := by
  simp only [Sys.taken, h]

/-- Of the slots that are not left, the thread has the active profile. -/
theorem taken_of_not_mem {σ : Sys Text ι} {slots : List (Fin maxSlots)} {rest : List Setting}
    {newCfg : SlotConfig} {changed : Bool} (h : σ.pc = .sync slots rest newCfg changed)
    {i : Fin maxSlots} (hi : i ∉ slots) (s : Setting) : σ.taken i s = σ.active i s := by
  cases slots with
  | nil => simp only [Sys.taken, h]
  | cons i₀ more =>
      rw [taken_of_sync h, if_neg]
      intro heq
      exact hi (heq ▸ List.mem_cons_self)

/-! ## A reload and the settings it stores over -/

/-- The thread is storing a profile it has reloaded from its file. -/
def Pc.Reloading : Pc → Prop
  | .applyLock (.reload _) | .apply _ _ (.reload _) => True
  | _ => False

theorem not_reloading_of_plain {pc : Pc} (h : pc.Plain) : ¬pc.Reloading := by
  cases pc <;> first | exact id | exact h.elim

/-- **What no client stored since the thread last copied it**, the thread has — and, while a reload is
storing, the profile before the reload has it. -/
structure Contained (σ : Sys Text ι) : Prop where
  clean : ∀ i s, σ.hist.touched i s = false → ¬σ.pc.Ahead i s → σ.shared i s = σ.taken i s
  reload : σ.pc.Reloading →
    ∀ i s, σ.hist.touched i s = false → σ.pc.Ahead i s → σ.shared i s = σ.previous i s
  nodup : ∀ slots rest k, σ.pc = .apply slots rest k → slots.Nodup ∧ rest.Nodup

/-- **The condition on a step**: a reload stores a setting only if no client stored it since the thread
last copied it. -/
def ReloadsUntouched : Label Text ι → Sys Text ι → Prop
  | .thread _, σ =>
      match σ.pc with
      | .apply (i :: _) (s :: _) (.reload _) => σ.hist.touched i s = false
      | _ => True
  | _, _ => True

section Contained

variable {σ σ' : Sys Text ι}

/-- A step after which the thread is outside of the loops, with what it had. -/
theorem Contained.toPlain (h : Contained σ) (hs : SameShared σ σ') (hpc' : σ'.pc.Plain)
    (ha : ∀ i s, ¬σ.pc.Ahead i s ∧ σ.taken i s = σ'.active i s) : Contained σ' := by
  refine ⟨?_, ?_, ?_⟩
  · intro i s ht _
    rw [hs.touched] at ht
    rw [hs.shared, taken_of_plain hpc', h.clean i s ht (ha i s).1]
    exact (ha i s).2
  · exact fun hr => absurd hr (not_reloading_of_plain hpc')
  · intro slots rest k hpc
    rw [hpc] at hpc'
    exact hpc'.elim

/-- While the thread copies, only what it has copied counts. -/
theorem Contained.ofSync {slots : List (Fin maxSlots)} {rest : List Setting} {newCfg : SlotConfig}
    {changed : Bool} (hpc : σ.pc = .sync slots rest newCfg changed)
    (hclean : ∀ i s, σ.hist.touched i s = false → ¬σ.pc.Ahead i s → σ.shared i s = σ.taken i s) :
    Contained σ := by
  refine ⟨hclean, ?_, ?_⟩
  · intro hr
    rw [hpc] at hr
    exact hr.elim
  · intro slots' rest' k hpc'
    rw [hpc] at hpc'
    cases hpc'

/-- **A step of the thread.** -/
theorem Contained.move (h : Contained σ) (hm : Move σ σ') : Contained σ' := by
  cases hm with
  | plain hpc hpc' hs ha hon =>
      refine h.toPlain hs hpc' ?_
      intro i s
      refine ⟨not_ahead_of_plain hpc i s, ?_⟩
      rw [taken_of_plain hpc, ha]
  | replace k hpc hpc' hs hprev =>
      -- everything is ahead, and what the thread had is what the profile before the load has
      refine ⟨?_, ?_, ?_⟩
      · intro i s _ hahead
        rw [hpc'] at hahead
        exact absurd trivial hahead
      · intro _ i s ht _
        rw [hs.touched] at ht
        rw [hs.shared, hprev, ← taken_of_plain hpc]
        exact h.clean i s ht (not_ahead_of_plain hpc i s)
      · intro slots rest k' hpc''
        rw [hpc'] at hpc''
        cases hpc''
  | beginStore k hpc hpc' hs ha =>
      refine ⟨?_, ?_, ?_⟩
      · intro i s _ hahead
        rw [hpc'] at hahead
        exact absurd (aheadIn_finRange mem_storeOrder i s) hahead
      · intro hr i s ht _
        rw [hs.touched] at ht
        rw [hs.shared, ha.previous]
        have hr' : σ.pc.Reloading := by
          rw [hpc'] at hr
          rw [hpc]
          cases k <;> exact hr
        exact h.reload hr' i s ht (by rw [hpc]; trivial)
      · intro slots rest k' hpc''
        rw [hpc'] at hpc''
        cases hpc''
        exact ⟨List.nodup_finRange _, nodup_storeOrder⟩
  | store i more s rest k hpc hpc' hshared htouched hover ha =>
      obtain ⟨hslots, hrest⟩ := h.nodup _ _ _ hpc
      have hahead : ∀ {j t}, ¬(j = i ∧ t = s) → (σ.pc.Ahead j t ↔ σ'.pc.Ahead j t) := by
        intro j t hne
        rw [hpc, hpc']
        exact aheadIn_cons.trans (or_iff_left hne)
      have hreloading : σ'.pc.Reloading → σ.pc.Reloading := by
        rw [hpc, hpc']
        cases k <;> exact id
      refine ⟨?_, ?_, ?_⟩
      · intro j t ht hnot
        rw [htouched] at ht
        rw [hshared, taken_of_apply hpc', ha.active]
        by_cases hjt : j = i ∧ t = s
        · rw [if_pos hjt, hjt.1, hjt.2]
        · rw [if_neg hjt] at ht ⊢
          rw [← taken_of_apply hpc]
          exact h.clean j t ht (fun hh => hnot ((hahead hjt).mp hh))
      · intro hr j t ht hyes
        rw [htouched] at ht
        rw [hshared, ha.previous]
        by_cases hjt : j = i ∧ t = s
        · -- the setting just stored comes only once
          rw [hpc'] at hyes
          rcases hyes with hmore | ⟨-, hmem⟩
          · exact absurd (hjt.1 ▸ hmore) (List.nodup_cons.mp hslots).1
          · exact absurd (hjt.2 ▸ hmem) (List.nodup_cons.mp hrest).1
        · rw [if_neg hjt] at ht ⊢
          exact h.reload (hreloading hr) j t ht ((hahead hjt).mpr hyes)
      · intro slots rest' k' hpc''
        rw [hpc'] at hpc''
        cases hpc''
        exact ⟨hslots, (List.nodup_cons.mp hrest).2⟩
  | storeNext i more k hpc hpc' hs ha =>
      -- the end of one slot and the beginning of the next have the same settings ahead
      have hahead : ∀ j t, σ.pc.Ahead j t ↔ σ'.pc.Ahead j t := by
        intro j t
        rw [hpc, hpc']
        exact aheadIn_nil.trans (aheadIn_iff mem_storeOrder j t).symm
      have hreloading : σ'.pc.Reloading → σ.pc.Reloading := by
        rw [hpc, hpc']
        cases k <;> exact id
      refine ⟨?_, ?_, ?_⟩
      · intro j t ht hnot
        rw [hs.touched] at ht
        rw [hs.shared, taken_of_apply hpc', ha.active, ← taken_of_apply hpc]
        exact h.clean j t ht (fun hh => hnot ((hahead j t).mp hh))
      · intro hr j t ht hyes
        rw [hs.touched] at ht
        rw [hs.shared, ha.previous]
        exact h.reload (hreloading hr) j t ht ((hahead j t).mpr hyes)
      · intro slots rest k' hpc''
        rw [hpc'] at hpc''
        cases hpc''
        exact ⟨(List.nodup_cons.mp (h.nodup _ _ _ hpc).1).2, nodup_storeOrder⟩
  | endStore rest k hpc hpc' hs ha =>
      refine h.toPlain hs (by rw [hpc']; trivial) ?_
      intro i s
      refine ⟨by rw [hpc]; exact id, ?_⟩
      rw [taken_of_apply hpc, ha]
  | beginRead hpc hpc' hs ha =>
      -- everything will be read: nothing is asked of a sync that begins
      refine .ofSync hpc' ?_
      intro i s _ hahead
      rw [hpc'] at hahead
      exact absurd (aheadIn_finRange mem_readOrder i s) hahead
  | read i more s rest newCfg newCfg' changed hpc hpc' hnew hshared htouched hover ha =>
      refine .ofSync hpc' ?_
      intro j t ht hnot
      rw [htouched] at ht
      rw [hshared, taken_of_sync hpc']
      by_cases hjt : j = i ∧ t = s
      · rw [if_pos hjt.1, hnew, if_pos hjt.2, hjt.1, hjt.2]
      · rw [if_neg hjt] at ht
        have hnot' : ¬σ.pc.Ahead j t := by
          rw [hpc'] at hnot
          rw [hpc]
          intro hh
          rcases aheadIn_cons.mp hh with hh | hh
          · exact hnot hh
          · exact hjt hh
        have hclean := h.clean j t ht hnot'
        rw [taken_of_sync hpc] at hclean
        rw [hclean]
        by_cases hj : j = i
        · rw [if_pos hj, if_pos hj, hnew, if_neg (fun ht => hjt ⟨hj, ht⟩)]
        · rw [if_neg hj, if_neg hj, ha]
  | copy i more newCfg changed changed' hpc hpc' hs ha =>
      refine .ofSync hpc' ?_
      intro j t ht hnot
      rw [hs.touched] at ht
      rw [hpc'] at hnot
      have hmem : j ∉ more := fun hh => hnot ((aheadIn_iff mem_readOrder j t).mpr hh)
      have hnot' : ¬σ.pc.Ahead j t := by
        rw [hpc]
        exact fun hh => hmem (aheadIn_nil.mp hh)
      -- the slot just read IS the active one now, the others are as before
      rw [hs.shared, taken_of_not_mem hpc' hmem, ha, ← taken_of_sync hpc]
      exact h.clean j t ht hnot'
  | endRead rest newCfg changed hpc hpc' hs ha =>
      refine h.toPlain hs (by rw [hpc']; trivial) ?_
      intro i s
      refine ⟨by rw [hpc]; exact id, ?_⟩
      rw [taken_of_not_mem hpc (List.not_mem_nil), ha]

/-- What the thread has is not affected by steps of others that leave what no client has stored. -/
theorem Contained.others (h : Contained σ) (hpc : σ'.pc = σ.pc) (ha : SameActive σ σ')
    (hs : ∀ i s, σ'.hist.touched i s = false →
      σ.hist.touched i s = false ∧ σ'.shared i s = σ.shared i s) : Contained σ' := by
  have htaken : σ'.taken = σ.taken := by
    unfold Sys.taken
    rw [hpc, ha.active]
  refine ⟨?_, ?_, ?_⟩
  · intro i s ht hnot
    rw [hpc] at hnot
    rw [(hs i s ht).2, htaken]
    exact h.clean i s (hs i s ht).1 hnot
  · intro hr i s ht hyes
    rw [hpc] at hr hyes
    rw [(hs i s ht).2, ha.previous]
    exact h.reload hr i s (hs i s ht).1 hyes
  · rw [hpc]
    exact h.nodup

/-- A client's step inside a call changes no setting. -/
theorem ClientKeeps.same {c : ι} (hk : ClientKeeps c σ σ') : SameShared σ σ' ∧ SameActive σ σ' := by
  refine ⟨⟨?_, hk.touched, hk.overwritten⟩, ⟨?_, ?_⟩⟩
  · unfold Sys.shared
    rw [hk.slots]
  · unfold Sys.active
    rw [hk.world]
  · unfold Sys.previous
    rw [hk.before]

variable (J : CJson.Lib Text) [DecidableEq ι]

/-- **One step.** -/
theorem Contained.step (h : Contained σ) {l : Label Text ι} (hstep : sysStep J l σ = some σ') :
    Contained σ' := by
  cases l with
  | thread env => exact h.move (threadStep_move J hstep)
  | call c call =>
      simp only [sysStep, startCall] at hstep
      split at hstep
      · cases hstep
        exact h.others rfl ⟨rfl, rfl⟩ fun _ _ ht => ⟨ht, rfl⟩
      · cases hstep
  | client c =>
      have hk : ClientKeeps c σ σ' := clientStep_keeps hstep
      obtain ⟨hs, ha⟩ := hk.same
      refine h.others hk.pc ha ?_
      rw [hs.touched, hs.shared]
      exact fun i s ht => ⟨ht, rfl⟩
  | write c i s v =>
      simp only [sysStep, writeSetting] at hstep
      split at hstep
      · cases hstep
        refine h.others rfl ⟨rfl, rfl⟩ ?_
        intro j t ht
        rw [touched_mark] at ht
        by_cases hjt : j = i ∧ t = s
        · rw [if_pos hjt] at ht
          cases ht
        · rw [if_neg hjt] at ht
          refine ⟨ht, ?_⟩
          have hstore := shared_setSlot (σ := σ) (Controller.setting_store (σ.world.shm.slots i) s · v) j t
          rw [if_neg hjt] at hstore
          exact hstore
      · cases hstep
  | edit p t =>
      cases hstep
      exact h.others rfl ⟨rfl, rfl⟩ fun _ _ ht => ⟨ht, rfl⟩

/-- A step that stores over something is a reload's, and the setting was touched. -/
theorem Contained.overwritten_step (h : Contained σ) {l : Label Text ι} (hok : ReloadsUntouched l σ)
    (hstep : sysStep J l σ = some σ') : σ'.hist.overwritten = σ.hist.overwritten := by
  cases l with
  | thread env =>
      cases threadStep_move J hstep with
      | store i more s rest k hpc hpc' hshared htouched hover ha =>
          rcases hover with hsame | ⟨⟨events, rfl⟩, hne⟩
          · exact hsame
          · simp only [ReloadsUntouched, hpc] at hok
            have hr : σ.pc.Reloading := by rw [hpc]; trivial
            have hyes : σ.pc.Ahead i s := by
              rw [hpc]
              exact Or.inr ⟨rfl, List.mem_cons_self⟩
            exact absurd (h.reload hr i s hok hyes) hne
      | read i more s rest newCfg newCfg' changed hpc hpc' hnew hshared htouched hover ha => exact hover
      | plain hpc hpc' hs ha hon => exact hs.overwritten
      | replace k hpc hpc' hs hprev => exact hs.overwritten
      | beginStore k hpc hpc' hs ha => exact hs.overwritten
      | storeNext i more k hpc hpc' hs ha => exact hs.overwritten
      | endStore rest k hpc hpc' hs ha => exact hs.overwritten
      | beginRead hpc hpc' hs ha => exact hs.overwritten
      | copy i more newCfg changed changed' hpc hpc' hs ha => exact hs.overwritten
      | endRead rest newCfg changed hpc hpc' hs ha => exact hs.overwritten
  | call c call =>
      simp only [sysStep, startCall] at hstep
      split at hstep
      · cases hstep
        rfl
      · cases hstep
  | client c => exact ClientKeeps.overwritten (clientStep_keeps hstep)
  | write c i s v =>
      simp only [sysStep, writeSetting] at hstep
      split at hstep
      · cases hstep
        rfl
      · cases hstep
  | edit p t =>
      cases hstep
      rfl

end Contained

section Reload

variable (J : CJson.Lib Text) (fs : Fs Text) (slots : Fin maxSlots → Controller) (fd : Int)
  (env : Env Text)

theorem contained_initialSys : Contained (initialSys J fs slots fd env : Sys Text ι) := by
  refine ⟨nofun, ?_, nofun⟩
  intro hr
  exact hr.elim

/-- **A reload stores over nothing that is not in the active profile** — along every interleaving in
which no client stores a setting between the sync that reads it and the reload that stores it. -/
theorem reload_keeps_settings [DecidableEq ι] (σ : Sys Text ι)
    (h : Run (sysStep J) ReloadsUntouched (initialSys J fs slots fd env) σ) :
    σ.hist.overwritten = [] := by
  have hstart : Contained (initialSys J fs slots fd env : Sys Text ι) ∧
      (initialSys J fs slots fd env : Sys Text ι).hist.overwritten = [] :=
    ⟨contained_initialSys J fs slots fd env, rfl⟩
  have hinv : Contained σ ∧ σ.hist.overwritten = [] := by
    refine h.invariant (I := fun σ => Contained σ ∧ σ.hist.overwritten = []) ?_ hstart
    intro l s t hs hok hstep
    refine ⟨hs.1.step J hstep, ?_⟩
    rw [hs.1.overwritten_step J hok hstep]
    exact hs.2
  exact hinv.2

end Reload

/-- `Default.json` is modified while the thread runs. -/
def editDefault : Label (Option CJson) (Fin 2) :=
  .edit (profilesPath ++ ["Default.json".toList]) (some (saveDocument 1 (fun _ => defaultSlot) 1))

/-- The next `n` steps of the thread, with a modification to be read from inotify. -/
def modifySteps (n : Nat) : List (Label (Option CJson) (Fin 2)) :=
  List.replicate n (.thread { quietEnv with events := [.modify] })

/-- A test for `ReloadsUntouched`. -/
def reloadsUntouched : Label Text ι → Sys Text ι → Bool
  | .thread _, σ =>
      match σ.pc with
      | .apply (i :: _) (s :: _) (.reload _) => !σ.hist.touched i s
      | _ => true
  | _, _ => true

theorem reloadsUntouched_of_test (l : Label Text ι) (σ : Sys Text ι)
    (h : reloadsUntouched l σ = true) : ReloadsUntouched l σ := by
  cases l with
  | thread env =>
      simp only [ReloadsUntouched]
      split
      · rename_i hpc
        simp only [reloadsUntouched, hpc] at h
        simpa using h
      · trivial
  | _ => trivial

/-- The thread is in the middle of a reload. -/
def storesReload : Pc → Bool
  | .apply _ _ (.reload _) => true
  | _ => false

theorem reload_keeps_settings_edit :
    ∃ σ, Run (sysStep CJson.treeLib) ReloadsUntouched firstStart σ ∧ storesReload σ.pc = true ∧
      σ.hist.overwritten = [] := by
  obtain ⟨σ, hrun, hreload⟩ : ∃ σ, Run (sysStep CJson.treeLib) ReloadsUntouched firstStart σ ∧
      storesReload σ.pc = true :=
    exists_run_of_exec_checked reloadsUntouched_of_test
      (atLoadRequest ++ [editDefault] ++ modifySteps 8) (by decide +kernel)
  exact ⟨σ, hrun, hreload, reload_keeps_settings _ _ _ _ _ σ hrun⟩

/-- **A reload stores over a setting that is in no profile**: after the sync of an iteration a client
turns the light red; in the same iteration the thread is told that `Default.json` was modified, finds
nothing unsaved, and stores the file over it. -/
theorem reload_overwrites_setting :
    ∃ σ, Run (sysStep CJson.treeLib) free firstStart σ ∧
      σ.hist.overwritten = [(⟨0, by decide⟩, .ledR)] := by
  obtain ⟨σ, hrun, htest⟩ : ∃ σ, Run (sysStep CJson.treeLib) free firstStart σ ∧
      decide (σ.hist.overwritten = [(⟨0, by decide⟩, .ledR)]) = true :=
    exists_run_of_exec (atLoadRequest ++ [editDefault, .write 0 ⟨0, by decide⟩ .ledR 255] ++
      modifySteps 6) (by decide +kernel)
  exact ⟨σ, hrun, of_decide_eq_true htest⟩

/-! ## A save and the settings it writes -/

/-- The thread stores its profile, or has just done so. -/
def Pc.Stores : Pc → Prop
  | .applyLock _ | .apply .. | .autoLock _ => True
  | _ => False

theorem Pc.Synced.plain {pc : Pc} (h : pc.Synced) : pc.Plain := by
  cases pc <;> trivial

theorem Pc.Synced.not_stores {pc : Pc} (h : pc.Synced) : ¬pc.Stores := by
  cases pc <;> first | exact id | exact h.elim

theorem Pc.Serving.not_stores {pc : Pc} (h : pc.Serving) : ¬pc.Stores := by
  cases pc <;> first | exact id | exact h.elim

/-- **Since its post**, the thread's way to the execution of the request `n` goes through a sync: what
it has of the setting satisfies `φ`. -/
structure Covers (n : CallId ι) (i : Fin maxSlots) (s : Setting) (φ : UInt8 → Prop)
    (σ : Sys Text ι) : Prop where
  reading : ∀ slots rest newCfg changed, σ.pc = .sync slots rest newCfg changed →
    ¬AheadIn slots rest i s → φ (σ.taken i s)
  synced : σ.pc.Synced → φ (σ.active i s)
  serving : σ.pc.Serving → σ.hist.loaded = some n → φ (σ.active i s)

section Covers

variable {n : CallId ι} {i : Fin maxSlots} {s : Setting} {φ : UInt8 → Prop} {σ σ' : Sys Text ι}

/-- Where the thread stores, nothing is asked. -/
theorem Covers.of_stores (h : σ.pc.Stores) : Covers n i s φ σ := by
  refine ⟨?_, ?_, ?_⟩
  · intro slots rest newCfg changed hpc
    rw [hpc] at h
    exact h.elim
  · exact fun hsynced => absurd h hsynced.not_stores
  · exact fun hserving => absurd h hserving.not_stores

/-- Where the thread reads, what it has read is asked about. -/
theorem Covers.of_reading {slots : List (Fin maxSlots)} {rest : List Setting} {newCfg : SlotConfig}
    {changed : Bool} (hpc : σ.pc = .sync slots rest newCfg changed)
    (h : ¬AheadIn slots rest i s → φ (σ.taken i s)) : Covers n i s φ σ := by
  refine ⟨?_, ?_, ?_⟩
  · intro slots' rest' newCfg' changed' hpc'
    rw [hpc] at hpc'
    cases hpc'
    exact h
  · rw [hpc]
    exact nofun
  · rw [hpc]
    exact nofun

/-- **A step of the thread**, in a state where the shared setting satisfies `φ`. -/
theorem Covers.move (h : Covers n i s φ σ) (hφ : φ (σ.shared i s)) (hm : Move σ σ') :
    Covers n i s φ σ' := by
  cases hm with
  | plain hpc hpc' hs ha hon =>
      refine ⟨?_, ?_, ?_⟩
      · intro slots rest newCfg changed hsync
        rw [hsync] at hpc'
        exact hpc'.elim
      · intro hsynced
        rw [ha]
        exact h.synced (hon.synced hsynced)
      · intro hserving hid
        rw [ha]
        -- the request was read just now, after the sync, or it is still the same
        rcases hon.serving hserving with hsynced | ⟨hserving, hloaded⟩
        · exact h.synced hsynced
        · exact h.serving hserving (hloaded ▸ hid)
  | replace k hpc hpc' hs hprev => exact .of_stores (by rw [hpc']; trivial)
  | beginStore k hpc hpc' hs ha => exact .of_stores (by rw [hpc']; trivial)
  | store i₀ more s₀ rest k hpc hpc' hshared htouched hover ha =>
      exact .of_stores (by rw [hpc']; trivial)
  | storeNext i₀ more k hpc hpc' hs ha => exact .of_stores (by rw [hpc']; trivial)
  | endStore rest k hpc hpc' hs ha => exact .of_stores (by rw [hpc']; trivial)
  | beginRead hpc hpc' hs ha =>
      refine .of_reading hpc' ?_
      intro hnot
      exact (hnot (aheadIn_finRange mem_readOrder i s)).elim
  | read i₀ more s₀ rest newCfg newCfg' changed hpc hpc' hnew hshared htouched hover ha =>
      refine .of_reading hpc' ?_
      intro hnot
      rw [taken_of_sync hpc']
      by_cases his : i = i₀ ∧ s = s₀
      · obtain ⟨rfl, rfl⟩ := his
        rw [if_pos rfl, hnew, if_pos rfl]
        exact hφ
      · have hnot' : ¬AheadIn (i₀ :: more) (s₀ :: rest) i s := by
          intro hh
          rcases aheadIn_cons.mp hh with hh | hh
          · exact hnot hh
          · exact his hh
        have hold := h.reading _ _ _ _ hpc hnot'
        rw [taken_of_sync hpc] at hold
        by_cases hi : i = i₀
        · rw [if_pos hi] at hold ⊢
          rw [hnew, if_neg (fun hs => his ⟨hi, hs⟩)]
          exact hold
        · rw [if_neg hi] at hold ⊢
          rw [ha]
          exact hold
  | copy i₀ more newCfg changed changed' hpc hpc' hs ha =>
      refine .of_reading hpc' ?_
      intro hnot
      have hmem : i ∉ more := fun hh => hnot ((aheadIn_iff mem_readOrder i s).mpr hh)
      have hold := h.reading _ _ _ _ hpc (fun hh => hmem (aheadIn_nil.mp hh))
      rw [taken_of_not_mem hpc' hmem, ha, ← taken_of_sync hpc]
      exact hold
  | endRead rest newCfg changed hpc hpc' hs ha =>
      refine ⟨?_, ?_, ?_⟩
      · intro slots rest' newCfg' changed' hsync
        rw [hpc'] at hsync
        cases hsync
      · intro _
        have hold := h.reading _ _ _ _ hpc id
        rw [taken_of_not_mem hpc List.not_mem_nil] at hold
        rw [ha]
        exact hold
      · rw [hpc']
        exact nofun

/-- The others' steps leave the thread and the active profile alone. -/
theorem Covers.others (h : Covers n i s φ σ) (hpc : σ'.pc = σ.pc) (ha : σ'.active = σ.active)
    (hloaded : σ'.hist.loaded = σ.hist.loaded) : Covers n i s φ σ' := by
  have htaken : σ'.taken = σ.taken := by
    unfold Sys.taken
    rw [hpc, ha]
  refine ⟨?_, ?_, ?_⟩
  · rw [hpc, htaken]
    exact h.reading
  · rw [hpc, ha]
    exact h.synced
  · rw [hpc, ha, hloaded]
    exact h.serving

variable (J : CJson.Lib Text) [DecidableEq ι]

/-- **One step.** -/
theorem Covers.step (h : Covers n i s φ σ) (hφ : φ (σ.shared i s)) {l : Label Text ι}
    (hstep : sysStep J l σ = some σ') : Covers n i s φ σ' := by
  cases l with
  | thread env => exact h.move hφ (threadStep_move J hstep)
  | call c call =>
      simp only [sysStep, startCall] at hstep
      split at hstep
      · cases hstep
        exact h.others rfl rfl rfl
      · cases hstep
  | client c =>
      have hk : ClientKeeps c σ σ' := clientStep_keeps hstep
      exact h.others hk.pc hk.same.2.active hk.loaded
  | write c j t v =>
      simp only [sysStep, writeSetting] at hstep
      split at hstep
      · cases hstep
        exact h.others rfl rfl rfl
      · cases hstep
  | edit p t =>
      cases hstep
      exact h.others rfl rfl rfl

end Covers

section Save

variable [DecidableEq ι] (J : CJson.Lib Text)

/-- **A save request from its post to its execution**: in `σ₀` client `c` is about to store it, in `σ₂`
the thread executes it, and the save works.  All the while the shared setting satisfies `φ` — with
`φ := (· = v)`, the client's `v` is not stored over. -/
structure SaveServed (c : ι) (i : Fin maxSlots) (s : Setting) (φ : UInt8 → Prop) (name : CStr)
    (env : Env Text) (σ₀ σ₁ σ₂ σ₃ : Sys Text ι) : Prop where
  about : (σ₀.clients c).pc = .storeRequest
  value : φ (σ₀.shared i s)
  post : sysStep J (.client c) σ₀ = some σ₁
  held : Run (sysStep J) (fun _ σ => φ (σ.shared i s)) σ₁ σ₂
  executes : σ₂.pc = .execute ProfileRequest.save.code name
  own : σ₂.hist.loaded = some (σ₀.callId c)
  execute : sysStep J (.thread env) σ₂ = some σ₃
  io : env.io = .ok
  saved : (saveProfileToDisk J σ₂.world name env).1 = true

variable {J} {c : ι} {i : Fin maxSlots} {s : Setting} {φ : UInt8 → Prop} {name : CStr} {env : Env Text}
  {σ σ' σ₀ σ₁ σ₂ σ₃ : Sys Text ι}

/-- Executing a save that works puts the active profile into the file. -/
theorem SaveServed.records (h : SaveServed J c i s φ name env σ₀ σ₁ σ₂ σ₃) :
    Records J σ₃.world.fs name σ₂.world.pm.activeProfile.slots := by
  have hstep := h.execute
  simp only [sysStep, threadStep, h.executes, Option.some.injEq] at hstep
  have hfs : σ₃.world.fs = (saveProfileToDisk J σ₂.world name env).2.fs := by
    rw [← hstep]
    show (processSave J σ₂.world name env).1.fs = _
    unfold processSave
    cases hs : saveProfileToDisk J σ₂.world name env with
    | mk ok w =>
        cases ok with
        | true =>
            dsimp only
            split <;> rfl
        | false => rfl
  rcases saveProfileToDisk_spec J σ₂.world name env with ⟨-, hsaved⟩ | ⟨hfail, -⟩
  · have htext : savedText J σ₂.world env = profileText J σ₂.world.pm env.now := by
      unfold savedText
      rw [h.io]
    rw [hfs]
    rw [htext] at hsaved
    exact records_of_stored J hsaved.stored rfl
  · rw [h.saved] at hfail
    cases hfail

variable (J) (fs : Fs Text) (slots : Fin maxSlots → Controller) (fd : Int) (env₀ : Env Text)

end Save

/-! ### A red light, saved -/

/-- A client saves under `Good`. -/
def saveGood : Call := ⟨.save, some "Good".toList, -1, -1⟩

/-- The thread has made `n` steps. -/
def afterSteps (n : Nat) : Sys (Option CJson) (Fin 2) :=
  reached (sysStep CJson.treeLib) (threadSteps n) firstStart

/-- Then client 0 turns the first light red. -/
def lit (n : Nat) : Sys (Option CJson) (Fin 2) :=
  (sysStep CJson.treeLib (.write 0 ⟨0, maxSlots_pos⟩ .ledR 255) (afterSteps n)).getD (afterSteps n)

/-- Then it calls for a save and takes the mutex. -/
def aboutToPost (n : Nat) : Sys (Option CJson) (Fin 2) :=
  reached (sysStep CJson.treeLib) (callSteps 0 saveGood 1) (lit n)

/-- Then it stores the request. -/
def savePosted (n : Nat) : Sys (Option CJson) (Fin 2) :=
  (sysStep CJson.treeLib (.client 0) (aboutToPost n)).getD (aboutToPost n)

/-- The light is red in shared memory. -/
def isRed (_ : Label (Option CJson) (Fin 2)) (σ : Sys (Option CJson) (Fin 2)) : Bool :=
  σ.shared ⟨0, maxSlots_pos⟩ .ledR == 255

/-- The client posts the rest and the thread makes `m` steps, under a red light. -/
def toExecute (m : Nat) : List (Label (Option CJson) (Fin 2)) :=
  List.replicate 5 (.client 0) ++ threadSteps m

def atExecute (n m : Nat) : Sys (Option CJson) (Fin 2) :=
  reached (checked isRed (sysStep CJson.treeLib)) (toExecute m) (savePosted n)

/-- Then the thread executes the request. -/
def executedSave (n m : Nat) : Sys (Option CJson) (Fin 2) :=
  (sysStep CJson.treeLib (.thread quietEnv) (atExecute n m)).getD (atExecute n m)

/-- The thread is about to save under `Good`. -/
def executesGood : Pc → Bool
  | .execute req name => req == ProfileRequest.save.code && name == "Good".toList
  | _ => false

theorem eq_execute_of_test {pc : Pc} (h : executesGood pc = true) :
    pc = .execute ProfileRequest.save.code "Good".toList := by
  unfold executesGood at h
  split at h
  · simp only [Bool.and_eq_true, beq_iff_eq] at h
    rw [h.1, h.2]
  · cases h

/-- All of these steps can be made. -/
structure RedSaveRuns (n m : Nat) : Prop where
  steps : (exec (sysStep CJson.treeLib) (threadSteps n) firstStart).isSome = true
  write : (sysStep CJson.treeLib (.write 0 ⟨0, by decide⟩ .ledR 255) (afterSteps n)).isSome = true
  call : (exec (sysStep CJson.treeLib) (callSteps 0 saveGood 1) (lit n)).isSome = true
  post : (sysStep CJson.treeLib (.client 0) (aboutToPost n)).isSome = true
  about : ((aboutToPost n).clients 0).pc = .storeRequest
  value : (aboutToPost n).shared ⟨0, by decide⟩ .ledR = 255
  held : (exec (checked isRed (sysStep CJson.treeLib)) (toExecute m) (savePosted n)).isSome = true
  executes : executesGood (atExecute n m).pc = true
  own : (atExecute n m).hist.loaded = some ((aboutToPost n).callId 0)
  execute : (sysStep CJson.treeLib (.thread quietEnv) (atExecute n m)).isSome = true
  saved : (saveProfileToDisk CJson.treeLib (atExecute n m).world "Good".toList quietEnv).1 = true

theorem RedSaveRuns.served {n m : Nat} (h : RedSaveRuns n m) :
    SaveServed CJson.treeLib 0 ⟨0, by decide⟩ .ledR (· = 255) "Good".toList quietEnv (aboutToPost n)
      (savePosted n) (atExecute n m) (executedSave n m) where
  about := h.about
  value := h.value
  post := eq_some_getD h.post
  held := Run.of_exec_checked (fun _ _ hred => beq_iff_eq.mp hred) (eq_some_getD h.held)
  executes := eq_execute_of_test h.executes
  own := h.own
  execute := eq_some_getD h.execute
  io := rfl
  saved := h.saved

end Dstx
