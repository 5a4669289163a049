/-
# Dstx.Profile.Confinement — which files a request makes the daemon touch.

A profile name reaches the three path constructions of `settings.c` unchecked: load, save and delete
all use `profiles_dir/<name>.json` for whatever bytes the client sent (cut to 63).  The system calls
of a request are read off the `ops` history, and the exact set of harmless names is
characterized: the touched files lie directly inside `profiles_dir` for EVERY state iff the directory
part of the name, walked from `profiles_dir`, ends in `profiles_dir` again.
-/
import Dstx.Profile.Files
import Dstx.Profile.Request

namespace Dstx

open Dstx.Lib

variable {Text : Type}

/-- The file lies directly inside `profiles_dir`. -/
def DirectlyInside (p : Path) : Prop := p.dropLast = profilesPath

instance (p : Path) : Decidable (DirectlyInside p) := inferInstanceAs (Decidable (_ = _))

/-- The directory segments of a profile name: everything before its last `/`. -/
def dirSegments (name : CStr) : List CStr := (name.splitOn '/').dropLast

/-- **`StaysHome name`** — the directory part of the name leads from `profiles_dir` back to it. -/
def StaysHome (name : CStr) : Prop :=
  walk (fun _ => true) profilesPath (dirSegments name) = some profilesPath

instance (name : CStr) : Decidable (StaysHome name) := inferInstanceAs (Decidable (_ = _))

/-- A name without `/` has no directory part. -/
theorem staysHome_of_no_slash {name : CStr} (h : '/' ∉ name) : StaysHome name := by
  unfold StaysHome dirSegments
  rw [List.splitOn_eq_singleton h]
  rfl

/-- Walking from the root through `profilesDir` and on is walking on from `profilesPath`. -/
theorem walk_from_profiles {isDir : Path → Bool} {dirs : List CStr} {d : Path}
    (h : walk isDir [] (([] :: profilesPath) ++ dirs) = some d) :
    walk (fun _ => true) profilesPath dirs = some d := by
  have hall := walk_eq_of_some h
  rw [walk_append] at hall
  exact hall

/-- The directory of a profile file, and of its temporary file. -/
theorem resolve_dropLast {isDir : Path → Bool} {name : CStr} {p : Path}
    (h : resolve isDir (profilePath name) = some p ∨ resolve isDir (profileTmpPath name) = some p) :
    walk (fun _ => true) profilesPath (dirSegments name) = some p.dropLast := by
  obtain ⟨dirs, stem, hsplit, hj, ht⟩ := resolve_profile isDir name
  have hdirs : dirSegments name = dirs := by
    unfold dirSegments
    rw [hsplit, List.dropLast_concat]
  rw [hj, ht] at h
  rw [hdirs]
  rcases h with h | h <;>
    · obtain ⟨d, hd, rfl⟩ := Option.map_eq_some_iff.mp h
      rw [List.dropLast_concat]
      exact walk_from_profiles hd

/-! ## The system calls of a request -/

/-- `fs'` extends the history of `fs` by calls on paths with property `P`. -/
def OpsWithin (P : Path → Prop) (fs fs' : Fs Text) : Prop :=
  ∃ l, fs'.ops = l ++ fs.ops ∧ ∀ op ∈ l, P op.path

theorem OpsWithin.of_eq {P : Path → Prop} {fs fs' : Fs Text} (h : fs'.ops = fs.ops) :
    OpsWithin P fs fs' := ⟨[], h, by simp⟩

theorem OpsWithin.trans {P : Path → Prop} {fs fs' fs'' : Fs Text} (h₁ : OpsWithin P fs fs')
    (h₂ : OpsWithin P fs' fs'') : OpsWithin P fs fs'' := by
  obtain ⟨l₁, e₁, p₁⟩ := h₁
  obtain ⟨l₂, e₂, p₂⟩ := h₂
  refine ⟨l₂ ++ l₁, by rw [e₂, e₁, List.append_assoc], ?_⟩
  intro op hop
  rcases List.mem_append.mp hop with hop | hop
  · exact p₂ op hop
  · exact p₁ op hop

/-- Being the profile file of `name` or its temporary file. -/
def FileOfName (isDir : Path → Bool) (name : CStr) (p : Path) : Prop :=
  resolve isDir (profilePath name) = some p ∨ resolve isDir (profileTmpPath name) = some p

variable (J : CJson.Lib Text)

/-- A load opens at most the named file. -/
theorem load_ops (w : World Text) (name : CStr) :
    OpsWithin (FileOfName w.fs.isDir name) w.fs (loadProfileFromDisk J w name).2.fs := by
  obtain ⟨-, -, -, -, hops⟩ := loadProfileFromDisk_frame J w name
  refine ⟨_, hops, ?_⟩
  intro op hop
  rw [Option.mem_toList, Option.bind_eq_some_iff] at hop
  obtain ⟨p, hp, hop⟩ := hop
  obtain ⟨n, -, rfl⟩ := Option.map_eq_some_iff.mp hop
  exact Or.inl hp

/-- A save opens the temporary file and replaces the named one. -/
theorem save_ops (w : World Text) (name : CStr) (env : Env Text) :
    OpsWithin (FileOfName w.fs.isDir name) w.fs (saveProfileToDisk J w name env).2.fs := by
  rcases saveProfileToDisk_spec J w name env with ⟨-, hs⟩ | ⟨-, hf⟩
  · obtain ⟨p, q, hp, hq, hops⟩ := hs.ops
    refine ⟨[.replaced p, .opened q], hops, ?_⟩
    intro op hop
    rcases List.mem_pair.mp hop with rfl | rfl
    · exact Or.inl hp
    · exact Or.inr hq
  · rcases hf.ops with hops | ⟨q, hq, hops⟩
    · exact OpsWithin.of_eq hops
    · refine ⟨[.opened q], hops, ?_⟩
      intro op hop
      rw [List.mem_singleton.mp hop]
      exact Or.inr hq

/-- The file calls of a request are on the named file, its temporary file, or `Default`. -/
theorem processRequest_ops (w : World Text) (req : Int) (name : CStr) (env : Env Text) :
    OpsWithin (fun p => FileOfName w.fs.isDir name p ∨ FileOfName w.fs.isDir defaultName p) w.fs
      (processRequest J w req name env).1.fs := by
  have hmono : ∀ {fs fs' : Fs Text}, OpsWithin (FileOfName w.fs.isDir name) fs fs' →
      OpsWithin (fun p => FileOfName w.fs.isDir name p ∨ FileOfName w.fs.isDir defaultName p)
        fs fs' := by
    rintro fs fs' ⟨l, hl, hp⟩
    exact ⟨l, hl, fun op hop => Or.inl (hp op hop)⟩
  unfold processRequest
  split
  · -- load
    have hload := hmono (load_ops J w name)
    unfold processLoad
    cases hl : loadProfileFromDisk J w name with
    | mk ok w' =>
        rw [hl] at hload
        cases ok
        · exact hload
        · simpa using hload
  split
  · -- save
    have hsave := hmono (save_ops J w name env)
    unfold processSave
    cases hs : saveProfileToDisk J w name env with
    | mk ok w' =>
        rw [hs] at hsave
        cases ok
        · exact hsave
        · dsimp only
          split <;> exact hsave
  split
  · -- delete
    unfold processDelete
    cases hu : w.fs.unlink (profilePath name) with
    | none => exact OpsWithin.of_eq rfl
    | some fs =>
        obtain ⟨hdir, -, ⟨p, hp, hops⟩, -⟩ := unlink_spec hu
        have hunlink : OpsWithin (fun p => FileOfName w.fs.isDir name p ∨
            FileOfName w.fs.isDir defaultName p) w.fs fs := by
          refine ⟨[.unlinked p], hops, ?_⟩
          intro op hop
          rw [List.mem_singleton.mp hop]
          exact Or.inl (Or.inl hp)
        dsimp only
        split
        · obtain ⟨l, hl, hdef⟩ := load_ops J { w with fs := fs } defaultName
          refine hunlink.trans ⟨l, by simpa using hl, ?_⟩
          intro op hop
          have := hdef op hop
          rw [hdir] at this
          exact Or.inr this
        · exact hunlink
  split
  · exact OpsWithin.of_eq rfl
  split <;> exact OpsWithin.of_eq rfl

/-- The sections after the `switch` make no file call. -/
theorem profileProcessRequests_ops (w : World Text) (env : Env Text) :
    OpsWithin (fun p => FileOfName w.fs.isDir (strncpy profileNameLen w.shm.profileName) p ∨
      FileOfName w.fs.isDir defaultName p) w.fs (profileProcessRequests J w env).fs := by
  unfold profileProcessRequests
  dsimp only
  split
  · exact OpsWithin.of_eq rfl
  · rw [answer_fs]
    exact processRequest_ops J w w.shm.profileRequest _ env

/-! ## The law and its exact condition -/

/-- The files touched while a posted request is served: the new part of the history. -/
def touched (w : World Text) (c : Call) (env : Env Text) : List Path :=
  let ops := (serve J w c env).fs.ops
  (ops.take (ops.length - w.fs.ops.length)).map FileOp.path

/-- The requests that carry a profile name. -/
def Names (c : Call) (name : CStr) : Prop :=
  c.name = some name ∧ (c.request = .load ∨ c.request = .save ∨ c.request = .delete)

/-- Saving under `name` where every directory exists touches the file the name leads to. -/
theorem save_touches (name : CStr) (w : World Text) (hdir : w.fs.isDir = fun _ => true) :
    ∃ d, walk (fun _ => true) profilesPath (dirSegments (strncpy profileNameLen name)) = some d ∧
      ∃ f, d ++ [f] ∈ touched J w ⟨.save, some name, -1, -1⟩ ⟨⟨0, 0⟩, 0, .ok, [], []⟩ := by
  set cut := strncpy profileNameLen name with hcut
  set c : Call := ⟨.save, some name, -1, -1⟩ with hc
  set env : Env Text := ⟨⟨0, 0⟩, 0, .ok, [], []⟩ with henv
  have hwalk : ∀ (segs : List CStr) (cur : Path), ∃ d, walk (fun _ => true) cur segs = some d := by
    intro segs
    induction segs with
    | nil => exact fun cur => ⟨cur, rfl⟩
    | cons seg segs ih =>
        intro cur
        simp only [walk]
        split
        · exact ih cur
        · split
          · exact ih _
          · exact ih _
  obtain ⟨dirs, stem, hsplit, hj, -⟩ := resolve_profile w.fs.isDir cut
  obtain ⟨d, hd⟩ := hwalk dirs profilesPath
  have hdirs : dirSegments cut = dirs := by
    unfold dirSegments
    rw [hsplit, List.dropLast_concat]
  have hp : profileFile w.fs cut = some (d ++ [stem ++ ".json".toList]) := by
    unfold profileFile
    rw [hj, hdir, walk_append]
    show ((walk (fun _ => true) profilesPath dirs).map _) = _
    rw [hd]
    rfl
  refine ⟨d, by rw [hdirs]; exact hd, stem ++ ".json".toList, ?_⟩
  set w₁ : World Text := { w with shm := postRequest c w.shm } with hw₁
  have hpost : strncpy profileNameLen w₁.shm.profileName = cut := strncpy_postedName c
  have hres : (profileFile w₁.fs cut).isSome := by
    rw [show profileFile w₁.fs cut = _ from hp]
    rfl
  obtain ⟨hok, hsaved⟩ := saveProfileToDisk_ok J (show env.io = .ok from rfl) hres
  obtain ⟨p, q, hp', -, hops⟩ := hsaved.ops
  have hpp : p = d ++ [stem ++ ".json".toList] := Option.some.inj (hp'.symm.trans hp)
  have hserve : (serve J w c env).fs.ops = .replaced p :: .opened q :: w.fs.ops := by
    have hreq : w₁.shm.profileRequest = 2 := rfl
    have hproc : processRequest J w₁ 2 cut env = processSave J w₁ cut env := rfl
    show (profileProcessRequests J w₁ env).fs.ops = _
    unfold profileProcessRequests
    dsimp only
    rw [hreq, if_neg (by decide), hpost, hproc, answer_fs]
    unfold processSave
    cases hs : saveProfileToDisk J w₁ cut env with
    | mk ok w₂ =>
        rw [hs] at hok hops
        cases hok
        dsimp only
        split <;> exact hops
  unfold touched
  simp only [hserve, List.length_cons]
  rw [show w.fs.ops.length + 1 + 1 - w.fs.ops.length = 2 by omega]
  simp [FileOp.path, hpp]

/-- **Confinement, exactly.**  For every profile name: whatever the state and the environment, the
files the daemon opens, replaces or unlinks for a load, save or delete of that name lie directly inside
`profiles_dir`, if and only if the directory part of the name's first 63 bytes leads back to
`profiles_dir`. -/
theorem confined_iff_staysHome (name : CStr) :
    (∀ (w : World Text) (c : Call) (env : Env Text), Names c name →
      ∀ p ∈ touched J w c env, DirectlyInside p) ↔ StaysHome (strncpy profileNameLen name) := by
  constructor
  · intro h
    let w : World Text :=
      ⟨Fs.blank fun _ => true, ⟨fun _ => none, 1⟩, initialManager 0, initialShm⟩
    obtain ⟨d, hd, f, hf⟩ := save_touches J name w rfl
    have hin := h w _ _ ⟨rfl, Or.inr (Or.inl rfl)⟩ _ hf
    have hdp : d = profilesPath := by
      unfold DirectlyInside at hin
      rwa [List.dropLast_concat] at hin
    unfold StaysHome
    rw [hd, hdp]
  · rintro hhome w c env ⟨hname, -⟩ p hp
    have hcut : strncpy profileNameLen (postRequest c w.shm).profileName =
        strncpy profileNameLen name := by
      show strncpy profileNameLen c.postedName = _
      rw [strncpy_postedName]
      unfold Call.postedName
      rw [hname]
    obtain ⟨l, hl, hall⟩ :=
      profileProcessRequests_ops J { w with shm := postRequest c w.shm } env
    have htouched : touched J w c env = l.map FileOp.path := by
      show (((serve J w c env).fs.ops).take _).map _ = _
      have hops : (serve J w c env).fs.ops = l ++ w.fs.ops := hl
      rw [hops, List.length_append, Nat.add_sub_cancel_right, List.take_left]
    rw [htouched] at hp
    obtain ⟨op, hop, rfl⟩ := List.mem_map.mp hp
    have hdefault : StaysHome defaultName := by decide
    -- the touched file is one of the request's own, or one of `Default`'s
    rcases hall op hop with hfile | hfile
    · rw [hcut] at hfile
      have := resolve_dropLast hfile
      unfold StaysHome at hhome
      exact (Option.some.inj (hhome.symm.trans this)).symm
    · have := resolve_dropLast hfile
      unfold StaysHome at hdefault
      exact (Option.some.inj (hdefault.symm.trans this)).symm

/-- `../shadow` makes the daemon replace a file in the PARENT directory. -/
theorem save_escapes_profiles_dir :
    ∃ (w : World (Option CJson)) (c : Call) (env : Env (Option CJson)),
      Names c "../shadow".toList ∧
      ["etc".toList, "dstx".toList, "shadow.json".toList] ∈ touched CJson.treeLib w c env ∧
      ¬DirectlyInside ["etc".toList, "dstx".toList, "shadow.json".toList] := by
  refine ⟨⟨Fs.blank fun _ => true, ⟨fun _ => none, 1⟩, initialManager 0, initialShm⟩,
    ⟨.save, some "../shadow".toList, -1, -1⟩, ⟨⟨0, 0⟩, 0, .ok, [], []⟩,
    ⟨rfl, Or.inr (Or.inl rfl)⟩, ?_, by decide⟩
  decide

end Dstx
