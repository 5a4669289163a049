/-
# Dstx.Profile.RoundTrip — saving and loading a profile.

Two results about `save_profile_to_disk` and `load_profile_from_disk` together with the file between
them:

* the ROUND TRIP: a save followed by a load of the same name leaves `SlotConfig.normalize` of every
  slot, hence the identity on in-range profiles and an idempotent map on all of them;
* the INDEPENDENCE of a load from the previous profile, which fails for short `slots` arrays: the
  slot loop stops at the array's end and the remaining slots keep what they held
  (`slots_independent_iff`).
-/
import Dstx.Profile.Files

namespace Dstx

open Dstx.Lib

variable {Text : Type} (J : CJson.Lib Text)

/-! ## Load after save -/

/-- `save_profile_to_disk(pm, name); load_profile_from_disk(pm, name)`. -/
def saveLoad (w : World Text) (name : CStr) (env : Env Text) : World Text :=
  (loadProfileFromDisk J (saveProfileToDisk J w name env).2 name).2

/-- One save and load: both succeed, every slot is normalized, and the name still resolves. -/
theorem saveLoad_spec {w : World Text} {name : CStr} {env : Env Text} (hio : env.io = .ok)
    (hres : (profileFile w.fs name).isSome) :
    (saveProfileToDisk J w name env).1 = true ∧
      (loadProfileFromDisk J (saveProfileToDisk J w name env).2 name).1 = true ∧
      (saveLoad J w name env).pm.activeProfile.slots =
        (fun i => (w.pm.activeProfile.slots i).normalize) ∧
      (profileFile (saveLoad J w name env).fs name).isSome := by
  obtain ⟨hsave, hsaved⟩ := saveProfileToDisk_ok J hio hres
  have hread := hsaved.stored.readProfile_saved J (show SameFile w.fs name name from rfl)
  have hdir : (saveLoad J w name env).fs.isDir = w.fs.isDir :=
    (loadProfileFromDisk_frame J _ name).2.2.1.trans hsaved.isDir
  have hres' : (profileFile (saveLoad J w name env).fs name).isSome := by
    unfold profileFile
    rw [hdir]
    exact hres
  rcases loadProfileFromDisk_spec J (saveProfileToDisk J w name env).2 name with
    ⟨doc, hdoc, hok, hpm⟩ | ⟨hnone, -⟩
  · refine ⟨hsave, hok, ?_, hres'⟩
    have hslots : doc.2.2 = saveSlots w.pm.activeProfile.slots := by
      have := hdoc.symm.trans hread
      rw [Option.some.inj this]
    show (loadProfileFromDisk J _ name).2.pm.activeProfile.slots = _
    rw [hpm, hslots]
    exact loadSlots_saveSlots _ _
  · rw [hread] at hnone
    cases hnone

/-- **Load after save.**  With file operations that succeed, saving the active profile under a name
and loading that name gives slots in which every field is the saved one when it is in the loader's
range and the loader's default otherwise; on in-range profiles this is the identity, and doing it
twice is doing it once. -/
theorem saveLoad_roundtrip (w : World Text) (name : CStr) (env : Env Text) (hio : env.io = .ok)
    (hres : (profileFile w.fs name).isSome) :
    (saveProfileToDisk J w name env).1 = true ∧
      (loadProfileFromDisk J (saveProfileToDisk J w name env).2 name).1 = true ∧
      (saveLoad J w name env).pm.activeProfile.slots =
        (fun i => (w.pm.activeProfile.slots i).normalize) ∧
      ((∀ i, (w.pm.activeProfile.slots i).InRange) →
        (saveLoad J w name env).pm.activeProfile.slots = w.pm.activeProfile.slots) ∧
      ∀ env' : Env Text, env'.io = .ok →
        (saveLoad J (saveLoad J w name env) name env').pm.activeProfile.slots =
          (saveLoad J w name env).pm.activeProfile.slots := by
  obtain ⟨hsave, hload, hslots, hres'⟩ := saveLoad_spec J hio hres
  refine ⟨hsave, hload, hslots, ?_, ?_⟩
  · intro hin
    rw [hslots]
    funext i
    exact (hin i).normalize_eq
  · intro env' hio'
    obtain ⟨-, -, hagain, -⟩ := saveLoad_spec J hio' hres'
    rw [hagain, hslots]
    funext i
    exact (w.pm.activeProfile.slots i).normalize_inRange.normalize_eq

/-- An environment in which everything works and nothing happens. -/
def quietEnv : Env Text := ⟨⟨0, 0⟩, 0, .ok, [], []⟩

/-- A manager on an empty file system with every directory present. -/
def blankWorld : World (Option CJson) :=
  ⟨Fs.blank fun _ => true, ⟨fun _ => none, 1⟩, initialManager 3, initialShm⟩

theorem saveLoad_roundtrip_blank :
    (profileFile blankWorld.fs "Racing".toList).isSome ∧
      (saveLoad CJson.treeLib blankWorld "Racing".toList quietEnv).pm.activeProfile.slots =
        fun i => (blankWorld.pm.activeProfile.slots i).normalize :=
  have hres : (profileFile blankWorld.fs "Racing".toList).isSome := by decide
  ⟨hres, (saveLoad_roundtrip CJson.treeLib blankWorld "Racing".toList quietEnv rfl hres).2.2.1⟩

/-! ## Independence from the previous profile -/

/-- The slots of the active profile after loading `name` with the manager `pm`. -/
def slotsAfterLoad (w : World Text) (pm : ProfileManager) (name : CStr) : Slots :=
  (loadProfileFromDisk J { w with pm := pm } name).2.pm.activeProfile.slots

/-- An accepted load runs the slot loop over what the manager held. -/
theorem slotsAfterLoad_eq {w : World Text} {name : CStr} {arr : CJson}
    (h : readSlots J w.fs name = some arr) (pm : ProfileManager) :
    slotsAfterLoad J w pm name = loadSlots arr pm.activeProfile.slots := by
  obtain ⟨doc, hdoc, rfl⟩ := Option.map_eq_some_iff.mp h
  rcases loadProfileFromDisk_spec J { w with pm := pm } name with ⟨doc', hdoc', -, hpm⟩ | ⟨hnone, -⟩
  · have hsame : doc' = doc := Option.some.inj (hdoc'.symm.trans hdoc)
    unfold slotsAfterLoad
    rw [hpm, hsame]
  · have habsurd : some doc = none := hdoc.symm.trans hnone
    cases habsurd

/-- A slot the array reaches is assigned from the array, the others are kept. -/
theorem loadSlots_apply (arr : CJson) (old : Slots) (i : Fin maxSlots) :
    ((i : Nat) < arr.getArraySize ∧ ∃ slot, arr.getArrayItem i = some slot ∧
        loadSlots arr old i = loadSlot slot) ∨
      (arr.getArraySize ≤ i ∧ loadSlots arr old i = old i) := by
  by_cases hi : (i : Nat) < arr.getArraySize
  · left
    obtain ⟨slot, hslot⟩ := Option.isSome_iff_exists.mp ((arr.getArrayItem_isSome_iff i).mpr hi)
    refine ⟨hi, slot, hslot, ?_⟩
    unfold loadSlots
    rw [if_pos hi, hslot]
  · right
    refine ⟨Nat.le_of_not_lt hi, ?_⟩
    unfold loadSlots
    rw [if_neg hi]

/-- **When a load depends on the file alone.**  For every accepted file, the slots after the load
are the same for all previous manager states exactly when the file's `slots` array has an element for
every slot. -/
theorem slots_independent_iff (w : World Text) (name : CStr) (arr : CJson)
    (h : readSlots J w.fs name = some arr) :
    (∀ pm pm' : ProfileManager, slotsAfterLoad J w pm name = slotsAfterLoad J w pm' name) ↔
      maxSlots ≤ arr.getArraySize := by
  constructor
  · intro hind
    by_contra hshort
    -- the last slot is out of the array's reach: two managers that differ there stay different
    let last : Fin maxSlots := ⟨3, by decide⟩
    let with_ (cfg : SlotConfig) : ProfileManager :=
      { initialManager 0 with activeProfile := ⟨[], fun _ => cfg, 0, 0⟩ }
    have heq : slotsAfterLoad J w (with_ zeroSlot) name last =
        slotsAfterLoad J w (with_ defaultSlot) name last := by
      rw [hind (with_ zeroSlot) (with_ defaultSlot)]
    rw [slotsAfterLoad_eq J h, slotsAfterLoad_eq J h] at heq
    have hreach : ¬((last : Nat) < arr.getArraySize) := by
      show ¬(3 < arr.getArraySize)
      have : ¬(4 ≤ arr.getArraySize) := hshort
      omega
    rcases loadSlots_apply arr (with_ zeroSlot).activeProfile.slots last with ⟨hlt, -⟩ | ⟨-, h₀⟩
    · exact hreach hlt
    rcases loadSlots_apply arr (with_ defaultSlot).activeProfile.slots last with ⟨hlt, -⟩ | ⟨-, h₁⟩
    · exact hreach hlt
    rw [h₀, h₁] at heq
    have hblue : zeroSlot.ledB = defaultSlot.ledB := congrArg SlotConfig.ledB heq
    exact absurd hblue (by decide)
  · intro hsize pm pm'
    rw [slotsAfterLoad_eq J h, slotsAfterLoad_eq J h]
    funext i
    have hi : (i : Nat) < maxSlots := i.isLt
    rcases loadSlots_apply arr pm.activeProfile.slots i with ⟨-, slot, hs, h₁⟩ | ⟨hle, -⟩
    · rcases loadSlots_apply arr pm'.activeProfile.slots i with ⟨-, slot', hs', h₂⟩ | ⟨hle, -⟩
      · have : slot = slot' := Option.some.inj (hs.symm.trans hs')
        rw [h₁, h₂, this]
      · omega
    · omega

/-- A file system whose only file is the profile `Short`: version, time and an EMPTY slots array. -/
def shortFs : Fs (Option CJson) :=
  (Fs.blank fun _ => true).put (profilesPath ++ ["Short.json".toList])
    (some (.object [("version".toList, .number 1), ("last_modified".toList, .number 0),
      ("slots".toList, .array [])]))

/-- A manager over that file system. -/
def shortWorld : World (Option CJson) := { blankWorld with fs := shortFs }

theorem slots_independent_iff_short :
    readSlots CJson.treeLib shortWorld.fs "Short".toList = some (.array []) ∧
      ¬(∀ pm pm' : ProfileManager, slotsAfterLoad CJson.treeLib shortWorld pm "Short".toList =
        slotsAfterLoad CJson.treeLib shortWorld pm' "Short".toList) := by
  have hread : readSlots CJson.treeLib shortWorld.fs "Short".toList = some (.array []) := rfl
  refine ⟨hread, ?_⟩
  rw [slots_independent_iff CJson.treeLib shortWorld "Short".toList (.array []) hread]
  decide

/-- Loading `Short` succeeds and leaves the colour of the profile that was active before. -/
theorem load_keeps_previous_slots :
    ∃ (w : World (Option CJson)) (pm pm' : ProfileManager) (name : CStr),
      (loadProfileFromDisk CJson.treeLib { w with pm := pm } name).1 = true ∧
      (loadProfileFromDisk CJson.treeLib { w with pm := pm' } name).1 = true ∧
      slotsAfterLoad CJson.treeLib w pm name ≠ slotsAfterLoad CJson.treeLib w pm' name := by
  refine ⟨shortWorld, initialManager 3,
    { initialManager 3 with activeProfile := ⟨defaultName, fun _ => defaultSlot, 0, 1⟩ },
    "Short".toList, rfl, rfl, ?_⟩
  intro h
  have hblue := congrArg (fun s : Slots => (s ⟨0, by decide⟩).ledB) h
  exact absurd hblue (by decide)

end Dstx
