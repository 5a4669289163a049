/-
# Dstx.Driver.NswNodes — which event node a Switch Pro slot reads from (`nsw_find_evdev_device`).

A Switch Pro controller is found through its hidraw node, but read through an event node of
`/dev/input`.  `nsw_init` looks for that node BY NAME, over the whole directory, and takes the first entry
that opens and calls itself a Pro Controller; nothing ties it to the slot's own hidraw device, and nothing
asks whether another slot reads it already.

With one controller that finds the right node.  With two it finds the same node twice.
`event_nodes_distinct_iff` says exactly when: the slots read from different nodes as long as no slot is
initialised while the first Pro Controller of the directory is a node another slot reads from.
-/
import Dstx.Device
import Dstx.Lib.Fs
import Dstx.Lib.Run
import Mathlib.Data.List.Infix

namespace Dstx

open Dstx.Lib

/-! ## The search -/

/-- `strstr(text, sub) != NULL`. -/
def strstr (text sub : CStr) : Bool := decide (sub <:+: text)

/-- An entry of `/dev/input`: its name, whether it opens, and what `EVIOCGNAME` answers. -/
structure InputEntry where
  dName : CStr
  opens : Bool
  name : Option CStr
  deriving DecidableEq

/-- `is_pro_controller`: IMU devices are ignored. -/
def isProController (name : CStr) : Bool :=
  strstr name "Pro Controller".toList && !strstr name "IMU".toList ||
    strstr name "Nintendo".toList && strstr name "Controller".toList && !strstr name "IMU".toList

/-- `snprintf(path, …, "/dev/input/%s", entry->d_name)`. -/
def InputEntry.path (e : InputEntry) : CStr := "/dev/input/".toList ++ e.dName

/-- The entry is taken: an event node that opens, answers, and is a Pro Controller. -/
def InputEntry.taken (e : InputEntry) : Bool :=
  "event".toList.isPrefixOf e.dName && e.opens &&
    match e.name with
    | some name => isProController name
    | none => false

/-- **`nsw_find_evdev_device`** — the entry whose descriptor it returns; `none` when the directory does
not open or has no such entry. -/
def nswFindEvdevDevice (dir : Option (List InputEntry)) : Option InputEntry :=
  dir.bind fun entries => entries.find? InputEntry.taken

/-! ## The contexts -/

/-- `g_nsw_contexts[i]`, the part `nsw_init` and `nsw_cleanup` decide. -/
structure NodeContext where
  initialized : Bool
  isActive : Bool
  /-- The node `event_fd` was opened from. -/
  eventFd : Option CStr

/-- **The contexts of all slots**, with the input node each slot keeps for reference. -/
structure NodeTable where
  ctx : Fin maxSlots → NodeContext
  inputNode : Fin maxSlots → Option (CStr × CStr)

/-- `snprintf` into a cell of `size` bytes. -/
def snprintf (size : Nat) (text : CStr) : CStr := text.take (size - 1)

/-- **`nsw_init`** for slot `i`, on the directory as it is at that moment. -/
def nswInitNode (i : Fin maxSlots) (dir : Option (List InputEntry)) (t : NodeTable) : NodeTable :=
  if (t.ctx i).initialized then t
  else
    match nswFindEvdevDevice dir with
    | none => { t with ctx := Function.update t.ctx i ⟨false, false, none⟩ }
    | some e =>
        { ctx := Function.update t.ctx i ⟨true, true, some e.path⟩
          inputNode :=
            Function.update t.inputNode i
              (some (snprintf 4096 e.path, snprintf 128 (e.name.getD []))) }

/-- **`nsw_cleanup`**. -/
def nswCleanupNode (i : Fin maxSlots) (t : NodeTable) : NodeTable :=
  if (t.ctx i).initialized then { t with ctx := Function.update t.ctx i ⟨false, false, none⟩ } else t

/-- Who moves. -/
inductive NodeMove where
  /-- The worker of a Switch Pro slot calls `nsw_init`. -/
  | init (i : Fin maxSlots) (dir : Option (List InputEntry))
  /-- It ends and calls `nsw_cleanup`. -/
  | cleanup (i : Fin maxSlots)

/-- **One step.** -/
def nodeStep (move : NodeMove) (t : NodeTable) : Option NodeTable :=
  match move with
  | .init i dir => some (nswInitNode i dir t)
  | .cleanup i => some (nswCleanupNode i t)

/-- No slot is initialised. -/
def noNodes : NodeTable := ⟨fun _ => ⟨false, false, none⟩, fun _ => none⟩

/-! ## The property and its condition -/

/-- Slot `i` is initialised and reads from `node`. -/
def NodeTable.ReadsFrom (t : NodeTable) (i : Fin maxSlots) (node : CStr) : Prop :=
  (t.ctx i).initialized = true ∧ (t.ctx i).eventFd = some node

/-- **Different initialised slots read from different nodes.** -/
def DistinctNodes (t : NodeTable) : Prop :=
  ∀ i j node, t.ReadsFrom i node → t.ReadsFrom j node → i = j

/-- `node` belongs to the first entry of the directory that a search takes. -/
def FirstProController (entries : List InputEntry) (node : CStr) : Prop :=
  ∃ before e after, entries = before ++ e :: after ∧ e.taken = true ∧ e.path = node ∧
    ∀ x ∈ before, x.taken = false

/-- **The condition on a step**: no slot is initialised on a directory whose first Pro Controller is the
node another slot reads from. -/
def FirstNodeIsFree (move : NodeMove) (t : NodeTable) : Prop :=
  match move with
  | .init i dir =>
      (t.ctx i).initialized = false → ∀ entries, dir = some entries →
        ∀ j node, j ≠ i → t.ReadsFrom j node → ¬FirstProController entries node
  | .cleanup _ => True

/-! ## One step -/

theorem nswFindEvdevDevice_eq_some {dir : Option (List InputEntry)} {e : InputEntry}
    (h : nswFindEvdevDevice dir = some e) :
    ∃ entries, dir = some entries ∧ FirstProController entries e.path := by
  obtain ⟨entries, hdir, hfind⟩ := Option.bind_eq_some_iff.mp h
  obtain ⟨htaken, before, after, heq, hbefore⟩ := List.find?_eq_some_iff_append.mp hfind
  refine ⟨entries, hdir, before, e, after, heq, htaken, rfl, fun x hx => ?_⟩
  simpa using hbefore x hx

/-- The first Pro Controller is what the search finds. -/
theorem nswFindEvdevDevice_of_first {entries : List InputEntry} {node : CStr}
    (h : FirstProController entries node) :
    ∃ e, nswFindEvdevDevice (some entries) = some e ∧ e.path = node := by
  obtain ⟨before, e, after, heq, htaken, hpath, hbefore⟩ := h
  refine ⟨e, ?_, hpath⟩
  show entries.find? InputEntry.taken = some e
  refine List.find?_eq_some_iff_append.mpr ⟨htaken, before, after, heq, fun x hx => ?_⟩
  simp [hbefore x hx]

section

variable {t : NodeTable} {i : Fin maxSlots}

/-- The table after a slot's context was set. -/
theorem readsFrom_update {ctx : NodeContext} {nodes : Fin maxSlots → Option (CStr × CStr)}
    {j : Fin maxSlots} {node : CStr} :
    NodeTable.ReadsFrom ⟨Function.update t.ctx i ctx, nodes⟩ j node ↔
      if j = i then ctx.initialized = true ∧ ctx.eventFd = some node else t.ReadsFrom j node := by
  unfold NodeTable.ReadsFrom
  by_cases hj : j = i
  · subst hj
    simp
  · simp [hj]

/-- A slot that stops reading leaves the others apart. -/
theorem DistinctNodes.clear (h : DistinctNodes t) (nodes : Fin maxSlots → Option (CStr × CStr)) :
    DistinctNodes ⟨Function.update t.ctx i ⟨false, false, none⟩, nodes⟩ := by
  have hkeep : ∀ k n, NodeTable.ReadsFrom ⟨Function.update t.ctx i ⟨false, false, none⟩, nodes⟩ k n →
      t.ReadsFrom k n := by
    intro k n hk
    rw [readsFrom_update] at hk
    split_ifs at hk
    · cases hk.1
    · exact hk
  intro j k node hj hk
  exact h j k node (hkeep j node hj) (hkeep k node hk)

/-- **A slot that starts to read from `node`** leaves the slots apart exactly when no other one reads from
it. -/
theorem distinctNodes_update_iff (h : DistinctNodes t) {node : CStr}
    {nodes : Fin maxSlots → Option (CStr × CStr)} :
    DistinctNodes ⟨Function.update t.ctx i ⟨true, true, some node⟩, nodes⟩ ↔
      ∀ j, j ≠ i → ¬t.ReadsFrom j node := by
  constructor
  · intro hdistinct j hj hreads
    refine hj (hdistinct j i node ?_ ?_)
    · rw [readsFrom_update, if_neg hj]
      exact hreads
    · rw [readsFrom_update, if_pos rfl]
      exact ⟨rfl, rfl⟩
  · intro hfree j k n hj hk
    rw [readsFrom_update] at hj hk
    -- slot `i` reads from `node`, the others from what they read from before
    by_cases hji : j = i
    · by_cases hki : k = i
      · rw [hji, hki]
      · rw [if_pos hji] at hj
        rw [if_neg hki] at hk
        have hn : node = n := Option.some.inj hj.2
        subst hn
        exact absurd hk (hfree k hki)
    · rw [if_neg hji] at hj
      by_cases hki : k = i
      · rw [if_pos hki] at hk
        have hn : node = n := Option.some.inj hk.2
        subst hn
        exact absurd hj (hfree j hji)
      · rw [if_neg hki] at hk
        exact h j k n hj hk

/-- **`nsw_init`** leaves the slots apart exactly under the condition. -/
theorem distinctNodes_nswInitNode_iff (h : DistinctNodes t) (dir : Option (List InputEntry)) :
    DistinctNodes (nswInitNode i dir t) ↔ FirstNodeIsFree (.init i dir) t := by
  unfold nswInitNode
  cases hinit : (t.ctx i).initialized with
  | true =>
      -- a second call returns at once
      refine iff_of_true (by simpa using h) ?_
      intro hnot
      rw [hinit] at hnot
      cases hnot
  | false =>
      rw [if_neg (by simp)]
      cases hfind : nswFindEvdevDevice dir with
      | none =>
          -- no Pro Controller there: the context reads from nothing
          refine iff_of_true (h.clear _) ?_
          intro _ entries hdir j node _ _ hfirst
          obtain ⟨e, he, -⟩ := nswFindEvdevDevice_of_first hfirst
          rw [← hdir, hfind] at he
          cases he
      | some e =>
          dsimp only
          rw [distinctNodes_update_iff h]
          constructor
          · intro hfree _ entries hdir j node hj hreads hfirst
            obtain ⟨e', he', rfl⟩ := nswFindEvdevDevice_of_first hfirst
            rw [← hdir, hfind] at he'
            obtain rfl := Option.some.inj he'
            exact hfree j hj hreads
          · intro hfree j hj hreads
            obtain ⟨entries, hdir, hfirst⟩ := nswFindEvdevDevice_eq_some hfind
            exact hfree hinit entries hdir j e.path hj hreads hfirst

/-- **One step** likewise. -/
theorem distinctNodes_nodeStep_iff {move : NodeMove} {t' : NodeTable} (h : DistinctNodes t)
    (hstep : nodeStep move t = some t') : DistinctNodes t' ↔ FirstNodeIsFree move t := by
  cases move with
  | init i dir =>
      obtain rfl := Option.some.inj hstep
      exact distinctNodes_nswInitNode_iff h dir
  | cleanup i =>
      obtain rfl := Option.some.inj hstep
      refine iff_of_true ?_ trivial
      unfold nswCleanupNode
      split_ifs
      · exact h.clear _
      · exact h

end

/-! ## Whole runs -/

/-- **Event nodes, over every order of registrations and any contents of `/dev/input`**: different
initialised slots read from different nodes if and only if no slot is initialised while the first Pro
Controller of the directory is a node another slot reads from. -/
theorem event_nodes_distinct_iff (moves : List NodeMove) :
    Throughout nodeStep DistinctNodes moves noNodes ↔ Meets nodeStep FirstNodeIsFree moves noNodes := by
  have hstart : DistinctNodes noNodes := by
    intro i j node hi
    cases hi.1
  refine throughout_iff_meets (J := fun _ => True) (fun _ _ _ _ _ => trivial) ?_ moves trivial hstart
  intro move t t' _ ht hstep
  exact distinctNodes_nodeStep_iff ht hstep

/-- Two Switch Pro controllers, each with its event node. -/
def twoProControllers : List InputEntry :=
  [⟨"event5".toList, true, some "Pro Controller".toList⟩,
    ⟨"event6".toList, true, some "Pro Controller".toList⟩]

/-- **Two controllers, two slots, one node**: both slots read from `/dev/input/event5`. -/
theorem two_slots_read_event5 :
    ¬Throughout nodeStep DistinctNodes
      [.init firstSlot (some twoProControllers), .init secondSlot (some twoProControllers)]
      noNodes := by
  intro h
  have hlast := (h.2 _ rfl).2 _ rfl
  have hsame := hlast firstSlot secondSlot "/dev/input/event5".toList
    ⟨by decide +kernel, by decide +kernel⟩ ⟨by decide +kernel, by decide +kernel⟩
  revert hsame
  decide

end Dstx
