/-
# Dstx.Lib.Fs — regular files with inode identity, reached by a POSIX path walk.

The library part of the file-system model: C strings as character lists (one `Char` per byte before
the terminating NUL), paths as component lists from the root, the kernel's segment-by-segment WALK
(empty and `.` segments stay, `..` goes up and stays at the root, a plain segment must name an
existing directory), and a table of regular files.

A file is a `Node`: its inode number and its text.  Opening for writing truncates IN PLACE and keeps
the inode; `rename` moves a node onto a path, so the path then shows the MOVED node's inode; this is
the difference an inode-bound watch is sensitive to.  `Fs` carries its own well-formedness: inode
numbers are below the allocation mark, and no two paths share one (no hard links), so a freshly
created file never reuses the identity of a file that exists.

`ops` is the system-call history: the resolved path of every file opened, replaced or unlinked.
-/
import Mathlib.Data.List.Basic
import Mathlib.Logic.Function.Basic
import Mathlib.Tactic.Cases

namespace Dstx.Lib

/-- A C string: the bytes before the NUL. -/
abbrev CStr := List Char

/-- `strncpy(dst, src, size - 1); dst[size - 1] = '\0'` into a buffer of `size` bytes. -/
def strncpy (size : Nat) (src : CStr) : CStr := src.take (size - 1)

theorem strncpy_length (size : Nat) (src : CStr) : (strncpy size src).length ≤ size - 1 :=
  List.length_take_le _ _

theorem strncpy_of_length {size : Nat} {src : CStr} (h : src.length ≤ size - 1) :
    strncpy size src = src :=
  List.take_of_length_le h

/-- An absolute path, as the list of its components. -/
abbrev Path := List CStr

/-! ## The path walk -/

/-- A segment that names a directory entry of its own (not empty, not `.`, not `..`). -/
def Plain (seg : CStr) : Prop := seg ≠ [] ∧ seg ≠ ['.'] ∧ seg ≠ ['.', '.']

instance (seg : CStr) : Decidable (Plain seg) :=
  inferInstanceAs (Decidable (_ ∧ _ ∧ _))

/-- **`walk isDir cur segs`** — follow `segs` from the directory `cur`. -/
def walk (isDir : Path → Bool) : Path → List CStr → Option Path
  | cur, [] => some cur
  | cur, seg :: segs =>
      if seg = [] ∨ seg = ['.'] then walk isDir cur segs
      else if seg = ['.', '.'] then walk isDir cur.dropLast segs
      else if isDir (cur ++ [seg]) then walk isDir (cur ++ [seg]) segs
      else none

/-- **`resolve isDir p`** — the file a path string names: its directory part is walked from the
root, its last segment has to be a plain name. -/
def resolve (isDir : Path → Bool) (p : CStr) : Option Path :=
  let segs := p.splitOn '/'
  match segs.getLast? with
  | none => none
  | some last =>
      if Plain last then (walk isDir [] segs.dropLast).map (· ++ [last]) else none

theorem walk_append (isDir : Path → Bool) :
    ∀ (xs ys : List CStr) (cur : Path),
      walk isDir cur (xs ++ ys) = (walk isDir cur xs).bind fun d => walk isDir d ys
  | [], _, _ => rfl
  | x :: xs, ys, cur => by
      simp only [List.cons_append, walk]
      split
      · exact walk_append isDir xs ys cur
      · split
        · exact walk_append isDir xs ys cur.dropLast
        · split
          · exact walk_append isDir xs ys (cur ++ [x])
          · rfl

/-- Whatever directories exist, a walk that succeeds ends where the walk through ALL directories
ends: existence only decides whether the walk gets there. -/
theorem walk_eq_of_some {isDir : Path → Bool} :
    ∀ {segs : List CStr} {cur d : Path}, walk isDir cur segs = some d →
      walk (fun _ => true) cur segs = some d
  | [], _, _, h => h
  | seg :: segs, cur, d, h => by
      simp only [walk] at h ⊢
      split at h
      · rename_i hs
        rw [if_pos hs]
        exact walk_eq_of_some h
      · rename_i hs
        rw [if_neg hs]
        split at h
        · rename_i hd
          rw [if_pos hd]
          exact walk_eq_of_some h
        · rename_i hd
          rw [if_neg hd, if_pos trivial]
          split at h
          · exact walk_eq_of_some h
          · cases h

/-- Splitting a string whose tail has no separator changes only the last piece. -/
theorem splitOn_append_of_not_mem {sep : Char} {b : CStr} (hb : sep ∉ b) :
    ∀ a : CStr, ∃ init last, a.splitOn sep = init ++ [last] ∧
      (a ++ b).splitOn sep = init ++ [last ++ b] := by
  intro a
  induction a with
  | nil =>
      refine ⟨[], [], by simp, ?_⟩
      simpa using List.splitOn_eq_singleton hb
  | cons c cs ih =>
      obtain ⟨init, last, h₁, h₂⟩ := ih
      by_cases hc : c = sep
      · refine ⟨[] :: init, last, ?_, ?_⟩ <;>
          simp [List.splitOn_cons_eq_if_modifyHead, hc, h₁, h₂]
      · cases init with
        | nil =>
            refine ⟨[], c :: last, ?_, ?_⟩ <;>
              simp_all [List.splitOn_cons_eq_if_modifyHead]
        | cons w ws =>
            refine ⟨(c :: w) :: ws, last, ?_, ?_⟩ <;>
              simp_all [List.splitOn_cons_eq_if_modifyHead]

/-! ## Files -/

/-- A regular file: inode number and content. -/
structure Node (Text : Type) where
  ino : Nat
  text : Text

/-- One completed system call on a file, with the path it resolved to. -/
inductive FileOp where
  | opened (p : Path)
  | replaced (p : Path)
  | unlinked (p : Path)
  deriving DecidableEq

/-- The file a system call was about. -/
def FileOp.path : FileOp → Path
  | .opened p => p
  | .replaced p => p
  | .unlinked p => p

/-- **`Fs Text`** — the directories that exist, the regular files with their inodes, the inode
allocation mark and the system-call history. -/
structure Fs (Text : Type) where
  isDir : Path → Bool
  node : Path → Option (Node Text)
  next : Nat
  ops : List FileOp
  ino_lt : ∀ p n, node p = some n → n.ino < next
  ino_inj : ∀ p q n m, node p = some n → node q = some m → n.ino = m.ino → p = q

namespace Fs

variable {Text : Type}

/-- The given directories, and no file. -/
def blank (isDir : Path → Bool) : Fs Text where
  isDir := isDir
  node := fun _ => none
  next := 0
  ops := []
  ino_lt := by
    intro p n h
    cases h
  ino_inj := by
    intro p q n m h
    cases h

/-- Record a system call. -/
def log (fs : Fs Text) (op : FileOp) : Fs Text := { fs with ops := op :: fs.ops }

@[simp] theorem log_node (fs : Fs Text) (op : FileOp) : (fs.log op).node = fs.node := rfl
@[simp] theorem log_isDir (fs : Fs Text) (op : FileOp) : (fs.log op).isDir = fs.isDir := rfl
@[simp] theorem log_ops (fs : Fs Text) (op : FileOp) : (fs.log op).ops = op :: fs.ops := rfl

/-- The node a write leaves at `p`: the same inode when the file exists, a fresh one otherwise. -/
def written (fs : Fs Text) (p : Path) (t : Text) : Node Text :=
  match fs.node p with
  | some n => ⟨n.ino, t⟩
  | none => ⟨fs.next, t⟩

@[simp] theorem written_text (fs : Fs Text) (p : Path) (t : Text) :
    (fs.written p t).text = t := by
  unfold written; split <;> rfl

theorem written_ino (fs : Fs Text) (p : Path) (t : Text) :
    (∃ n, fs.node p = some n ∧ (fs.written p t).ino = n.ino) ∨
      (fs.node p = none ∧ (fs.written p t).ino = fs.next) := by
  unfold written
  cases h : fs.node p with
  | none => exact Or.inr ⟨rfl, rfl⟩
  | some n => exact Or.inl ⟨n, rfl, rfl⟩

/-- Write `t` to the file at `p` (create or truncate in place). -/
def put (fs : Fs Text) (p : Path) (t : Text) : Fs Text where
  isDir := fs.isDir
  node := Function.update fs.node p (some (fs.written p t))
  next := fs.next + 1
  ops := fs.ops
  ino_lt := by
    intro q n hq
    by_cases hqp : q = p
    · subst hqp
      rw [Function.update_self] at hq
      cases hq
      rcases fs.written_ino q t with ⟨n, hn, he⟩ | ⟨_, he⟩
      · have := fs.ino_lt _ _ hn
        omega
      · omega
    · rw [Function.update_of_ne hqp] at hq
      have := fs.ino_lt _ _ hq
      omega
  ino_inj := by
    -- the written node keeps `p`'s old inode or takes one above every inode in use
    have hnew : ∀ q n, q ≠ p → fs.node q = some n → n.ino ≠ (fs.written p t).ino := by
      intro q n hqp hq he
      rcases fs.written_ino p t with ⟨m, hm, hw⟩ | ⟨_, hw⟩
      · exact hqp (fs.ino_inj _ _ _ _ hq hm (he.trans hw))
      · have := fs.ino_lt _ _ hq
        omega
    intro q r n m hq hr he
    by_cases hqp : q = p <;> by_cases hrp : r = p
    · rw [hqp, hrp]
    · subst hqp
      rw [Function.update_self] at hq
      rw [Function.update_of_ne hrp] at hr
      cases hq
      exact absurd he.symm (hnew r m hrp hr)
    · subst hrp
      rw [Function.update_self] at hr
      rw [Function.update_of_ne hqp] at hq
      cases hr
      exact absurd he (hnew q n hqp hq)
    · rw [Function.update_of_ne hqp] at hq
      rw [Function.update_of_ne hrp] at hr
      exact fs.ino_inj _ _ _ _ hq hr he

/-- Remove the entry at `p`. -/
def remove (fs : Fs Text) (p : Path) : Fs Text where
  isDir := fs.isDir
  node := Function.update fs.node p none
  next := fs.next
  ops := fs.ops
  ino_lt := by
    intro q n hq
    by_cases hqp : q = p
    · subst hqp
      rw [Function.update_self] at hq
      cases hq
    · rw [Function.update_of_ne hqp] at hq
      exact fs.ino_lt _ _ hq
  ino_inj := by
    intro q r n m hq hr he
    by_cases hqp : q = p
    · subst hqp
      rw [Function.update_self] at hq
      cases hq
    · by_cases hrp : r = p
      · subst hrp
        rw [Function.update_self] at hr
        cases hr
      · rw [Function.update_of_ne hqp] at hq
        rw [Function.update_of_ne hrp] at hr
        exact fs.ino_inj _ _ _ _ hq hr he

/-- Move the node at `src` onto `dst`; the node that was at `dst` is gone. -/
def move (fs : Fs Text) (src dst : Path) : Fs Text where
  isDir := fs.isDir
  node := fun q => if q = dst then fs.node src else if q = src then none else fs.node q
  next := fs.next
  ops := fs.ops
  ino_lt := by
    intro q n hq
    split at hq
    · exact fs.ino_lt _ _ hq
    · split at hq
      · cases hq
      · exact fs.ino_lt _ _ hq
  ino_inj := by
    intro q r n m hq hr he
    split at hq <;> rename_i hqd
    · split at hr <;> rename_i hrd
      · rw [hqd, hrd]
      · split at hr <;> rename_i hrs
        · cases hr
        · exact absurd (fs.ino_inj _ _ _ _ hq hr he).symm hrs
    · split at hq <;> rename_i hqs
      · cases hq
      · split at hr <;> rename_i hrd
        · exact absurd (fs.ino_inj _ _ _ _ hq hr he) hqs
        · split at hr
          · cases hr
          · exact fs.ino_inj _ _ _ _ hq hr he

@[simp] theorem put_isDir (fs : Fs Text) (p : Path) (t : Text) :
    (fs.put p t).isDir = fs.isDir := rfl
@[simp] theorem put_ops (fs : Fs Text) (p : Path) (t : Text) : (fs.put p t).ops = fs.ops := rfl
@[simp] theorem remove_isDir (fs : Fs Text) (p : Path) : (fs.remove p).isDir = fs.isDir := rfl
@[simp] theorem remove_ops (fs : Fs Text) (p : Path) : (fs.remove p).ops = fs.ops := rfl
@[simp] theorem move_isDir (fs : Fs Text) (p q : Path) : (fs.move p q).isDir = fs.isDir := rfl
@[simp] theorem move_ops (fs : Fs Text) (p q : Path) : (fs.move p q).ops = fs.ops := rfl

@[simp] theorem put_node_self (fs : Fs Text) (p : Path) (t : Text) :
    (fs.put p t).node p = some (fs.written p t) := by simp [put]

theorem put_node_of_ne (fs : Fs Text) {p q : Path} (t : Text) (h : q ≠ p) :
    (fs.put p t).node q = fs.node q := by simp [put, h]

@[simp] theorem remove_node_self (fs : Fs Text) (p : Path) : (fs.remove p).node p = none := by
  simp [remove]

theorem remove_node_of_ne (fs : Fs Text) {p q : Path} (h : q ≠ p) :
    (fs.remove p).node q = fs.node q := by simp [remove, h]

@[simp] theorem move_node_dst (fs : Fs Text) (p q : Path) : (fs.move p q).node q = fs.node p := by
  simp [move]

theorem move_node_of_ne (fs : Fs Text) {p q r : Path} (hp : r ≠ p) (hq : r ≠ q) :
    (fs.move p q).node r = fs.node r := by simp [move, hp, hq]

/-! ## System calls on path strings -/

/-- The node a path string names, if it names an existing file. -/
def stat (fs : Fs Text) (p : CStr) : Option (Node Text) :=
  (resolve fs.isDir p).bind fs.node

/-- `fopen(p, "r")` and reading the whole file. -/
def readFile (fs : Fs Text) (p : CStr) : Option (Text × Fs Text) :=
  (resolve fs.isDir p).bind fun q =>
    (fs.node q).map fun n => (n.text, fs.log (.opened q))

/-- `fopen(p, "w")`, writing `t`, `fclose`. -/
def writeFile (fs : Fs Text) (p : CStr) (t : Text) : Option (Fs Text) :=
  (resolve fs.isDir p).map fun q => (fs.put q t).log (.opened q)

/-- `rename(src, dst)`. -/
def rename (fs : Fs Text) (src dst : CStr) : Option (Fs Text) :=
  (resolve fs.isDir src).bind fun s =>
    (resolve fs.isDir dst).bind fun d =>
      (fs.node s).map fun _ => (fs.move s d).log (.replaced d)

/-- `unlink(p)`. -/
def unlink (fs : Fs Text) (p : CStr) : Option (Fs Text) :=
  (resolve fs.isDir p).bind fun q =>
    (fs.node q).map fun _ => (fs.remove q).log (.unlinked q)

/-- Another program rewrites the content of an existing file in place. -/
def editInPlace (fs : Fs Text) (p : Path) (t : Text) : Fs Text :=
  match fs.node p with
  | some _ => fs.put p t
  | none => fs

end Fs

end Dstx.Lib
