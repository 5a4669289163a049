/-
# Dstx.Profile.Listing — the list of profiles, from the directory to the GUI.

`profile_list` appends the regular `*.json` names of the profile directory to a buffer, a name that does
not fit being left out; `get_profile_list` of the GUI splits the text at its newlines and trims the pieces.
`profileListInto` is the function on its BUFFER; `profileListInto_holds` connects it with `profileList`,
the text that the model of the daemon uses.

`profileList_round_trip`: whatever the directory and the size, the buffer ends up with whole names in
directory order, with all of them where they fit, and the GUI reads back exactly these.
-/
import Dstx.Lib.CBuffer
import Dstx.Lib.Split
import Dstx.Profile.Manager

namespace Dstx

open Dstx.Lib

/-- The character `'\0'`. -/
def nulChar : Char := '\x00'

/-- **What `readdir` enumerates**: names of the file system have no `'\0'`. -/
structure Directory where
  entries : List Dirent
  noNul : ∀ ent ∈ entries, nulChar ∉ ent.name

/-! ## `profile_list` on its buffer -/

/-- One `readdir` result. -/
def profileListStore (outputSize : Nat) (output : List Char) (ent : Dirent) : List Char :=
  if ent.isReg then
    match splitAtLast '.' ent.name with
    | some (stem, dot) =>
        if dot = ".json".toList then
          if (cString nulChar output).length + stem.length + 2 < outputSize then
            strcat nulChar (strcat nulChar output stem) ['\n']
          else output
        else output
    | none => output
  else output

/-- **`profile_list(pm, output, output_size)`**; there is no directory where `opendir` fails. -/
def profileListInto (outputSize : Nat) (directory : Option Directory) (output : List Char) : List Char :=
  match directory with
  | none => output.set 0 nulChar
  | some d => d.entries.foldl (profileListStore outputSize) (output.set 0 nulChar)

/-! ## `get_profile_list` -/

/-- `g_ascii_isspace`, which has no vertical tab. -/
def gAsciiIsspace (c : Char) : Bool := c == ' ' || c == '\t' || c == '\n' || c == '\x0c' || c == '\r'

/-- **`get_profile_list`**, of the text `list_profiles` returned. -/
def getProfileList (raw : CStr) : List CStr :=
  ((strsplit '\n' raw).map (strip gAsciiIsspace)).filter (· ≠ [])

/-! ## The names -/

/-- **A regular `*.json` entry, without its extension.** -/
def jsonName (ent : Dirent) : Option CStr :=
  if ent.isReg && ".json".toList.isSuffixOf ent.name then some (ent.name.take (ent.name.length - 5))
  else none

/-- The names of a directory, in directory order. -/
def profileNames (directory : Option Directory) : List CStr :=
  match directory with
  | none => []
  | some d => d.entries.filterMap jsonName

theorem splitAtLast_eq_append {c : Char} {s a b : CStr} (h : splitAtLast c s = some (a, b)) :
    s = a ++ b := by
  induction s generalizing a with
  | nil => cases h
  | cons x xs ih =>
      cases hsplit : splitAtLast c xs with
      | some ab =>
          simp only [splitAtLast, hsplit, Option.some.injEq, Prod.mk.injEq] at h
          obtain ⟨rfl, rfl⟩ := h
          rw [ih hsplit, List.cons_append]
      | none =>
          simp only [splitAtLast, hsplit] at h
          split_ifs at h
          simp only [Option.some.injEq, Prod.mk.injEq] at h
          obtain ⟨rfl, rfl⟩ := h
          rfl

theorem splitAtLast_append_cons {c : Char} {b : CStr} (hb : c ∉ b) (a : CStr) :
    splitAtLast c (a ++ c :: b) = some (a, c :: b) := by
  have hnone : splitAtLast c b = none := by
    induction b with
    | nil => rfl
    | cons x xs ih =>
        rw [List.mem_cons, not_or] at hb
        simp [splitAtLast, ih hb.2, Ne.symm hb.1]
  induction a with
  | nil => simp [splitAtLast, hnone]
  | cons x a ih => simp [splitAtLast, ih]

/-- `strrchr` and `strcmp` find the extension. -/
theorem jsonName_eq_some_iff {ent : Dirent} {name : CStr} :
    jsonName ent = some name ↔ ent.isReg = true ∧ ent.name = name ++ ".json".toList := by
  unfold jsonName
  constructor
  · intro h
    split_ifs at h with hjson
    rw [Bool.and_eq_true, List.isSuffixOf_iff_suffix] at hjson
    obtain ⟨hreg, stem, hstem⟩ := hjson
    obtain rfl := Option.some.inj h
    refine ⟨hreg, ?_⟩
    rw [← hstem]
    simp
  · rintro ⟨hreg, hname⟩
    simp [hreg, hname]

theorem splitAtLast_json_iff {name stem : CStr} :
    splitAtLast '.' name = some (stem, ".json".toList) ↔ name = stem ++ ".json".toList := by
  constructor
  · exact splitAtLast_eq_append
  · rintro rfl
    exact splitAtLast_append_cons (by decide) stem

/-- Append a name to the text where it fits. -/
def addName (outputSize : Nat) (output name : CStr) : CStr :=
  if output.length + name.length + 2 < outputSize then output ++ name ++ ['\n'] else output

/-- **One entry of the directory**: nothing, or its name. -/
theorem profileListEntry_eq (outputSize : Nat) (output : CStr) (ent : Dirent) :
    profileListEntry outputSize output ent =
      match jsonName ent with
      | some name => addName outputSize output name
      | none => output := by
  cases hjson : jsonName ent with
  | some name =>
      obtain ⟨hreg, hname⟩ := jsonName_eq_some_iff.mp hjson
      simp only [profileListEntry, hreg, splitAtLast_json_iff.mpr hname, if_true]
      rfl
  | none =>
      have hno : ∀ stem, ent.isReg = true → ¬splitAtLast '.' ent.name = some (stem, ".json".toList) := by
        intro stem hreg hsplit
        have hsome : jsonName ent = some stem :=
          jsonName_eq_some_iff.mpr ⟨hreg, splitAtLast_json_iff.mp hsplit⟩
        rw [hjson] at hsome
        cases hsome
      dsimp only
      unfold profileListEntry
      split_ifs with hreg
      · split
        · rename_i stem dot hsplit
          have hdot : dot ≠ ".json".toList := by
            rintro rfl
            exact hno stem hreg hsplit
          rw [if_neg hdot]
        · rfl
      · rfl

theorem profileList_eq_foldl (outputSize : Nat) (dirents : List Dirent) :
    profileList outputSize dirents = (dirents.filterMap jsonName).foldl (addName outputSize) [] := by
  unfold profileList
  generalize ([] : CStr) = output
  induction dirents generalizing output with
  | nil => rfl
  | cons ent dirents ih =>
      rw [List.foldl_cons, ih, profileListEntry_eq]
      cases hjson : jsonName ent with
      | some name => rw [List.filterMap_cons_some hjson, List.foldl_cons]
      | none => rw [List.filterMap_cons_none hjson]

/-! ## What is written -/

/-- **The loop over the names**: from a text that leaves room for two more characters. -/
theorem foldl_addName {outputSize : Nat} (names : List CStr) {output : CStr}
    (houtput : output.length + 2 ≤ outputSize) :
    ∃ kept, kept.Sublist names ∧ names.foldl (addName outputSize) output = output ++ terminated '\n' kept ∧
      (output ++ terminated '\n' kept).length + 2 ≤ outputSize ∧
      ((output ++ terminated '\n' names).length + 2 ≤ outputSize → kept = names) := by
  induction names generalizing output with
  | nil => exact ⟨[], .slnil, by simp [terminated], by simpa [terminated] using houtput, fun _ => rfl⟩
  | cons name names ih =>
      have hcons : ∀ rest, output ++ name ++ ['\n'] ++ terminated '\n' rest =
          output ++ terminated '\n' (name :: rest) := by
        intro rest
        simp [terminated]
      rw [List.foldl_cons]
      by_cases hfits : output.length + name.length + 2 < outputSize
      · have hadd : addName outputSize output name = output ++ name ++ ['\n'] := if_pos hfits
        have hroom : (output ++ name ++ ['\n']).length + 2 ≤ outputSize := by
          simp
          omega
        obtain ⟨kept, hsub, htext, hlength, hall⟩ := ih hroom
        refine ⟨name :: kept, hsub.cons_cons name, ?_, ?_, fun hwhole => ?_⟩
        · rw [hadd, htext, hcons]
        · rw [← hcons]
          exact hlength
        · rw [← hcons] at hwhole
          rw [hall hwhole]
      · have hskip : addName outputSize output name = output := if_neg hfits
        obtain ⟨kept, hsub, htext, hlength, -⟩ := ih houtput
        refine ⟨kept, hsub.cons name, by rw [hskip, htext], hlength, fun hwhole => ?_⟩
        -- the name would have been kept
        rw [← hcons] at hwhole
        simp at hwhole
        omega

theorem profileList_kept {outputSize : Nat} (hsize : 2 ≤ outputSize) (dirents : List Dirent) :
    ∃ kept, kept.Sublist (dirents.filterMap jsonName) ∧
      profileList outputSize dirents = terminated '\n' kept ∧
      (terminated '\n' kept).length + 2 ≤ outputSize ∧
      ((terminated '\n' (dirents.filterMap jsonName)).length + 2 ≤ outputSize →
        kept = dirents.filterMap jsonName) := by
  rw [profileList_eq_foldl]
  exact foldl_addName _ (by simpa using hsize)

/-! ## Buffer and text -/

/-- **An entry, stored.** -/
theorem profileListStore_holds {output text : List Char} {ent : Dirent} (h : Holds nulChar output text)
    (hnul : nulChar ∉ ent.name) :
    Holds nulChar (profileListStore output.length output ent) (profileListEntry output.length text ent) ∧
      (profileListStore output.length output ent).length = output.length := by
  unfold profileListStore profileListEntry
  rw [h.cString_eq]
  by_cases hreg : ent.isReg = true
  · rw [if_pos hreg, if_pos hreg]
    cases hsplit : splitAtLast '.' ent.name with
    | none => exact ⟨h, rfl⟩
    | some pieces =>
        obtain ⟨stem, dot⟩ := pieces
        have hstem : nulChar ∉ stem := by
          rw [splitAtLast_eq_append hsplit, List.mem_append, not_or] at hnul
          exact hnul.1
        dsimp only
        split_ifs with hdot hfits
        · obtain ⟨hname, hlength⟩ := h.strcat hstem (by omega)
          have hnewline : (text ++ stem).length + ['\n'].length < (strcat nulChar output stem).length := by
            rw [hlength]
            simp
            omega
          obtain ⟨hline, hlength'⟩ := hname.strcat (by decide) hnewline
          exact ⟨hline, hlength'.trans hlength⟩
        · exact ⟨h, rfl⟩
        · exact ⟨h, rfl⟩
  · rw [if_neg hreg, if_neg hreg]
    exact ⟨h, rfl⟩

theorem foldl_profileListStore_holds {size : Nat} {entries : List Dirent}
    (hnul : ∀ ent ∈ entries, nulChar ∉ ent.name) {output text : List Char} (h : Holds nulChar output text)
    (hlength : output.length = size) :
    Holds nulChar (entries.foldl (profileListStore size) output)
        (entries.foldl (profileListEntry size) text) ∧
      (entries.foldl (profileListStore size) output).length = size := by
  induction entries generalizing output text with
  | nil => exact ⟨h, hlength⟩
  | cons ent entries ih =>
      have hhead : nulChar ∉ ent.name := hnul ent List.mem_cons_self
      have htail : ∀ e ∈ entries, nulChar ∉ e.name := fun e he => hnul e (List.mem_cons_of_mem _ he)
      obtain ⟨hstored, hsame⟩ := profileListStore_holds h hhead
      rw [hlength] at hstored hsame
      exact ih htail hstored hsame

/-- The entries of a directory, none where `opendir` fails. -/
def readEntries (directory : Option Directory) : List Dirent :=
  match directory with
  | none => []
  | some d => d.entries

/-- **The buffer holds what `profileList` computes**, and nothing is written outside. -/
theorem profileListInto_holds (directory : Option Directory) {output : List Char} (houtput : output ≠ []) :
    Holds nulChar (profileListInto output.length directory output)
        (profileList output.length (readEntries directory)) ∧
      (profileListInto output.length directory output).length = output.length := by
  have hempty : Holds nulChar (output.set 0 nulChar) [] := holds_set_zero houtput
  cases directory with
  | none => exact ⟨hempty, List.length_set⟩
  | some d => exact foldl_profileListStore_holds d.noNul hempty List.length_set

/-! ## What is read back -/

/-- A name that survives the trip: not empty, on one line, and without white space at its ends. -/
def Listable (name : CStr) : Prop := name ≠ [] ∧ '\n' ∉ name ∧ Trimmed gAsciiIsspace name

/-- **The GUI reads the lines back.** -/
theorem getProfileList_terminated {names : List CStr} (h : ∀ name ∈ names, Listable name) :
    getProfileList (terminated '\n' names) = names := by
  cases names with
  | nil => rfl
  | cons name rest =>
      have hlines : ∀ q ∈ name :: rest, '\n' ∉ q := fun q hq => (h q hq).2.1
      have hne : terminated '\n' (name :: rest) ≠ [] := by
        rw [Ne, terminated_eq_nil_iff]
        exact List.cons_ne_nil _ _
      have hstrip : (name :: rest).map (strip gAsciiIsspace) = name :: rest := by
        conv_rhs => rw [← List.map_id (name :: rest)]
        apply List.map_congr_left
        intro q hq
        exact strip_of_trimmed (h q hq).2.2
      have hkeep : (name :: rest).filter (· ≠ []) = name :: rest := by
        apply List.filter_eq_self.mpr
        intro q hq
        simpa using (h q hq).1
      unfold getProfileList
      rw [strsplit_of_ne_nil hne, splitOn_terminated hlines, List.map_append, hstrip,
        List.filter_append, hkeep]
      simp [strip]

theorem profileNames_eq (directory : Option Directory) :
    profileNames directory = (readEntries directory).filterMap jsonName := by
  cases directory <;> rfl

/-- **`profile_list` and `get_profile_list` are inverse.**  For every directory and every buffer of at
least two characters: the buffer keeps its size and holds, terminated, at most `size - 2` characters; they
are the lines of a subsequence of the names, and of all names where these fit; and the GUI reads exactly
this subsequence back if all its names can be listed. -/
theorem profileList_round_trip (directory : Option Directory) {output : List Char}
    (hsize : 2 ≤ output.length) :
    ∃ kept, kept.Sublist (profileNames directory) ∧
      Holds nulChar (profileListInto output.length directory output) (terminated '\n' kept) ∧
      (profileListInto output.length directory output).length = output.length ∧
      (terminated '\n' kept).length ≤ output.length - 2 ∧
      ((terminated '\n' (profileNames directory)).length ≤ output.length - 2 →
        kept = profileNames directory) ∧
      ((∀ name ∈ kept, Listable name) →
        getProfileList (cString nulChar (profileListInto output.length directory output)) = kept) := by
  have hne : output ≠ [] := by
    rintro rfl
    simp at hsize
  obtain ⟨hholds, hlength⟩ := profileListInto_holds directory hne
  obtain ⟨kept, hsub, htext, hfits, hall⟩ := profileList_kept hsize (readEntries directory)
  rw [htext] at hholds
  rw [profileNames_eq]
  refine ⟨kept, hsub, hholds, hlength, by omega, fun hwhole => hall (by omega), fun hlistable => ?_⟩
  rw [hholds.cString_eq]
  exact getProfileList_terminated hlistable

/-- A directory with two profiles and a note. -/
def twoProfiles : Directory where
  entries := [⟨"Default.json".toList, true⟩, ⟨"notes.txt".toList, true⟩, ⟨"My game.json".toList, true⟩]
  noNul := by decide

theorem profileList_round_trip_twoProfiles :
    getProfileList (cString nulChar (profileListInto 18 (some twoProfiles) (List.replicate 18 'x'))) =
      ["Default".toList, "My game".toList] := by
  obtain ⟨kept, -, -, -, -, hall, hback⟩ :=
    profileList_round_trip (some twoProfiles) (show 2 ≤ (List.replicate 18 'x').length by decide)
  have hnames : profileNames (some twoProfiles) = ["Default".toList, "My game".toList] := by decide
  have hkept : kept = ["Default".toList, "My game".toList] := hnames ▸ hall (by decide)
  rw [hkept] at hback
  exact hback (by simp [Listable, Trimmed, gAsciiIsspace])

/-! ## The answer to a list request -/

/-- **The settings thread answers with the whole list**: its text fits the response cell. -/
theorem profileProcessRequests_list {Text : Type} (J : CJson.Lib Text) (w : World Text) (env : Env Text)
    (hreq : w.shm.profileRequest = 4) :
    (profileProcessRequests J w env).shm.profileResponseMsg = profileList 4096 env.dirents := by
  obtain ⟨kept, -, htext, hfits, -⟩ := profileList_kept (show 2 ≤ 4096 by decide) env.dirents
  have hwhole : strncpy 4096 (profileList 4096 env.dirents) = profileList 4096 env.dirents := by
    apply strncpy_of_length
    rw [htext]
    omega
  unfold profileProcessRequests
  simp [hreq, processRequest, answer, finishRequest, hwhole]

end Dstx
