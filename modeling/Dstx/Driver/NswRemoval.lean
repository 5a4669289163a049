/-
# Dstx.Driver.NswRemoval — whose deletion disconnects a Switch Pro controller (`nsw_check_inotify`).

`nsw_check_inotify` walks over a buffer of inotify events and asks of each deleted name whether it OCCURS in
the slot's event path, where it means whether it IS the node of that path.  `event1` occurs in
`/dev/input/event12`, so the deletion of another controller's node takes this one away.

`removal_reported_iff` says for which batches the answer is right: the own node is among the deleted ones,
or no deleted name is part of `dev`, `input` or the node's name without being that name.  The buffer is
modelled byte by byte; the loop over it is the general one of `Lib.Records`.
-/
import Dstx.Lib.Records
import Mathlib.Data.Nat.Bitwise

namespace Dstx

open Dstx.Lib

/-! ## Names and events -/

/-- The byte of `/`. -/
def slashByte : UInt8 := 47

/-- **A name of a directory entry**: neither `/` nor the terminating zero. -/
structure NodeName where
  bytes : List UInt8
  noSlash : slashByte ∉ bytes
  noZero : 0 ∉ bytes

/-- The bytes of a text. -/
def textBytes (text : String) : List UInt8 := text.toList.map fun ch => UInt8.ofNat ch.toNat

/-- The event path of a node under `/dev/input`. -/
def NodeName.eventPath (node : NodeName) : List UInt8 := textBytes "/dev/input/" ++ node.bytes

/-- `IN_DELETE`. -/
def inDelete : Nat := 0x200

/-- The `name` of an event in the buffer: the terminating zero, and zeros behind it; nothing without a name. -/
def nameField (name : Option NodeName) (padding : Nat) : List UInt8 :=
  match name with
  | some name => name.bytes ++ 0 :: List.replicate padding 0
  | none => []

/-- **An event the kernel puts into the buffer.**  What is about the watch itself, or about none, has no name; a
deletion has one. -/
structure KernelEvent where
  wd : UInt32
  mask : UInt32
  cookie : UInt32
  name : Option NodeName
  padding : Nat
  fits : (nameField name padding).length < 256 ^ 4
  named : mask.toNat &&& inDelete ≠ 0 → name.isSome = true

/-- `struct inotify_event` in the buffer. -/
def KernelEvent.encode (e : KernelEvent) : List UInt8 :=
  leBytes 4 e.wd.toNat ++ (leBytes 4 e.mask.toNat ++ (leBytes 4 e.cookie.toNat ++
    (leBytes 4 (nameField e.name e.padding).length ++ nameField e.name e.padding)))

/-- What a read of the inotify descriptor gives. -/
def encodeBatch (events : List KernelEvent) : List UInt8 := events.flatMap KernelEvent.encode

/-! ## The source -/

/-- The part of `nsw_context_t` the monitor uses. -/
structure MonitorContext where
  initialized : Bool
  isActive : Bool
  connected : Bool
  inotifyWd : UInt32
  eventPath : List UInt8

/-- The fields of the event at the pointer. -/
def eventWd (buf : List UInt8) : Nat := leValue (buf.take 4)

def eventMask (buf : List UInt8) : Nat := leValue ((buf.drop 4).take 4)

def eventLen (buf : List UInt8) : Nat := leValue ((buf.drop 12).take 4)

def eventName (buf : List UInt8) : List UInt8 := cText (buf.drop 16)

/-- `strstr(text, sub) != NULL`, on bytes. -/
def strstrBytes (text sub : List UInt8) : Bool := decide (sub <:+: text)

/-- The two tests on one event. -/
def eventMatches (ctx : MonitorContext) (buf : List UInt8) : Bool :=
  eventWd buf == ctx.inotifyWd.toNat && eventMask buf &&& inDelete != 0 &&
    strstrBytes ctx.eventPath (eventName buf)

/-- **`nsw_check_inotify`** — on what the read gave; `none` when the descriptor is not open or the read gave
nothing. -/
def nswCheckInotify (ctx : MonitorContext) (buffer : Option (List UInt8)) : Bool :=
  match buffer with
  | none => false
  | some buf => scan (fun b => 16 + eventLen b) (eventMatches ctx) buf.length buf

/-- **`nsw_monitor`** — its result and the context it leaves. -/
def nswMonitor (ctx : MonitorContext) (buffer : Option (List UInt8)) : Bool × MonitorContext :=
  if !ctx.initialized || !ctx.isActive then (true, ctx)
  else if nswCheckInotify ctx buffer then (false, { ctx with connected := false })
  else (ctx.connected, ctx)

/-! ## The walk over a batch -/

/-- The tests on an event as the kernel wrote it. -/
def KernelEvent.hits (ctx : MonitorContext) (e : KernelEvent) : Bool :=
  e.wd == ctx.inotifyWd && e.mask.toNat &&& inDelete != 0 &&
    e.name.any fun name => strstrBytes ctx.eventPath name.bytes

theorem encode_ne_nil (e : KernelEvent) : e.encode ≠ [] := by
  intro h
  have hlength := congrArg List.length h
  simp [KernelEvent.encode] at hlength

/-- A number of a header is read back. -/
theorem leValue_take_leBytes (v : UInt32) (rest : List UInt8) :
    leValue ((leBytes 4 v.toNat ++ rest).take 4) = v.toNat := by
  have hlt : v.toNat < 256 ^ 4 := v.toNat_lt
  rw [List.take_left' (length_leBytes 4 _), leValue_leBytes hlt]

/-- The size of the name is read back. -/
theorem eventLen_eq (e : KernelEvent) (rest : List UInt8) :
    eventLen (e.encode ++ rest) = (nameField e.name e.padding).length := by
  unfold eventLen KernelEvent.encode
  simp only [List.append_assoc]
  show leValue (List.take 4 (List.drop (4 + (4 + (4 + 0))) _)) = _
  rw [drop_add_append (length_leBytes 4 _), drop_add_append (length_leBytes 4 _),
    drop_add_append (length_leBytes 4 _), List.drop_zero, List.take_left' (length_leBytes 4 _),
    leValue_leBytes e.fits]

/-- The size the loop advances by is the size of the event. -/
theorem eventLen_encode (e : KernelEvent) (rest : List UInt8) :
    16 + eventLen (e.encode ++ rest) = e.encode.length := by
  rw [eventLen_eq]
  simp [KernelEvent.encode]
  omega

/-- **The name of an event is read back**, where it has one. -/
theorem eventName_encode {e : KernelEvent} {name : NodeName} (h : e.name = some name) (rest : List UInt8) :
    eventName (e.encode ++ rest) = name.bytes := by
  unfold eventName KernelEvent.encode nameField
  rw [h]
  simp only [List.append_assoc, List.cons_append]
  show cText (List.drop (4 + (4 + (4 + (4 + 0)))) _) = _
  rw [drop_add_append (length_leBytes 4 _), drop_add_append (length_leBytes 4 _),
    drop_add_append (length_leBytes 4 _), drop_add_append (length_leBytes 4 _), List.drop_zero]
  exact cText_append_zero name.noZero _

/-- The tests read back what the kernel wrote. -/
theorem eventMatches_encode (ctx : MonitorContext) (e : KernelEvent) (rest : List UInt8) :
    eventMatches ctx (e.encode ++ rest) = e.hits ctx := by
  have hwd : eventWd (e.encode ++ rest) = e.wd.toNat := by
    unfold eventWd KernelEvent.encode
    simp only [List.append_assoc]
    exact leValue_take_leBytes e.wd _
  have hmask : eventMask (e.encode ++ rest) = e.mask.toNat := by
    unfold eventMask KernelEvent.encode
    simp only [List.append_assoc]
    rw [List.drop_left' (length_leBytes 4 _)]
    exact leValue_take_leBytes e.mask _
  have hbeq : (e.wd.toNat == ctx.inotifyWd.toNat) = (e.wd == ctx.inotifyWd) := by
    rw [Bool.eq_iff_iff, beq_iff_eq, beq_iff_eq, UInt32.toNat_inj]
  unfold eventMatches KernelEvent.hits
  rw [hwd, hmask, hbeq]
  by_cases hdelete : e.mask.toNat &&& inDelete = 0
  · -- nothing is deleted, and the name is not looked at
    rw [hdelete]
    simp
  · obtain ⟨name, hname⟩ := Option.isSome_iff_exists.mp (e.named hdelete)
    rw [eventName_encode hname, hname]
    rfl

/-- **The walk finds what a search of the events finds**, for any number of events of any sizes. -/
theorem nswCheckInotify_batch (ctx : MonitorContext) (events : List KernelEvent) :
    nswCheckInotify ctx (some (encodeBatch events)) = events.any (·.hits ctx) :=
  scan_flatMap encode_ne_nil eventLen_encode (eventMatches_encode ctx) events _
    (length_le_flatMap encode_ne_nil events)

/-! ## The property and its condition -/

/-- A deletion, for the watch of the context. -/
def KernelEvent.Deletes (ctx : MonitorContext) (e : KernelEvent) : Prop :=
  e.wd = ctx.inotifyWd ∧ e.mask.toNat &&& inDelete ≠ 0

/-- The batch contains, for the watch, the deletion of the node itself. -/
def OwnNodeDeleted (ctx : MonitorContext) (node : NodeName) (events : List KernelEvent) : Prop :=
  ∃ e ∈ events, e.Deletes ctx ∧ e.name = some node

/-- **Removal is reported for the own node only**: `nsw_check_inotify` says so exactly when the node is
deleted, and without that `nsw_monitor` does not disconnect the controller. -/
structure RemovalReported (ctx : MonitorContext) (node : NodeName) (events : List KernelEvent) : Prop where
  check : nswCheckInotify ctx (some (encodeBatch events)) = true ↔ OwnNodeDeleted ctx node events
  monitor : ¬OwnNodeDeleted ctx node events →
    (nswMonitor ctx (some (encodeBatch events))).2.connected = ctx.connected ∧
      ((nswMonitor ctx (some (encodeBatch events))).1 = false → ctx.connected = false)

/-- The name is part of the node's name, or of one of the directories above it. -/
def PartOfPath (node name : NodeName) : Prop :=
  name.bytes <:+: textBytes "dev" ∨ name.bytes <:+: textBytes "input" ∨ name.bytes <:+: node.bytes

/-- **A name occurs in the event path exactly when it is part of one of its components.** -/
theorem strstr_eventPath_iff (node name : NodeName) :
    strstrBytes node.eventPath name.bytes = true ↔ PartOfPath node name := by
  have hpath : node.eventPath = [] ++ slashByte :: (textBytes "dev" ++ slashByte ::
      (textBytes "input" ++ slashByte :: node.bytes)) := rfl
  have hempty : name.bytes <:+: [] → name.bytes <:+: textBytes "dev" := by
    intro h
    rw [List.infix_nil.mp h]
    exact List.nil_infix
  unfold strstrBytes PartOfPath
  rw [decide_eq_true_iff, hpath, infix_append_cons_iff name.noSlash, infix_append_cons_iff name.noSlash,
    infix_append_cons_iff name.noSlash]
  constructor
  · rintro (h | h)
    · exact Or.inl (hempty h)
    · exact h
  · exact Or.inr

/-- **When removal is reported for the own node only.**  For every context with a node under `/dev/input`
and every batch of events for any watches: if and only if the node itself is deleted, or every name deleted
for the watch that is part of the path's components is the name of the node. -/
theorem removal_reported_iff {ctx : MonitorContext} {node : NodeName}
    (hpath : ctx.eventPath = node.eventPath) (events : List KernelEvent) :
    RemovalReported ctx node events ↔
      OwnNodeDeleted ctx node events ∨
        ∀ e ∈ events, e.Deletes ctx → ∀ name, e.name = some name → PartOfPath node name → name = node := by
  have hhits : ∀ e : KernelEvent, e.hits ctx = true ↔
      e.Deletes ctx ∧ ∃ name, e.name = some name ∧ PartOfPath node name := by
    intro e
    unfold KernelEvent.hits KernelEvent.Deletes
    rw [Bool.and_eq_true, Bool.and_eq_true, beq_iff_eq, bne_iff_ne, hpath, Option.any_eq_true]
    simp only [strstr_eventPath_iff]
  have hcheck : nswCheckInotify ctx (some (encodeBatch events)) = true ↔
      ∃ e ∈ events, e.Deletes ctx ∧ ∃ name, e.name = some name ∧ PartOfPath node name := by
    rw [nswCheckInotify_batch, List.any_eq_true]
    simp only [hhits]
  -- the own node is part of its path
  have hown : OwnNodeDeleted ctx node events → nswCheckInotify ctx (some (encodeBatch events)) = true := by
    rintro ⟨e, he, hdeletes, hname⟩
    exact hcheck.mpr ⟨e, he, hdeletes, node, hname, Or.inr (Or.inr List.infix_rfl)⟩
  constructor
  · intro h
    by_cases hdeleted : OwnNodeDeleted ctx node events
    · exact Or.inl hdeleted
    · refine Or.inr fun e he hdeletes name hname hpart => ?_
      exact absurd (h.check.mp (hcheck.mpr ⟨e, he, hdeletes, name, hname, hpart⟩)) hdeleted
  · intro h
    have hiff : nswCheckInotify ctx (some (encodeBatch events)) = true ↔
        OwnNodeDeleted ctx node events := by
      refine ⟨fun hreported => ?_, hown⟩
      rcases h with hdeleted | hnames
      · exact hdeleted
      · obtain ⟨e, he, hdeletes, name, hname, hpart⟩ := hcheck.mp hreported
        exact ⟨e, he, hdeletes, hnames e he hdeletes name hname hpart ▸ hname⟩
    refine ⟨hiff, fun hdeleted => ?_⟩
    have hsilent : nswCheckInotify ctx (some (encodeBatch events)) = false := by
      rw [← Bool.not_eq_true, hiff]
      exact hdeleted
    unfold nswMonitor
    rw [hsilent]
    by_cases hidle : (!ctx.initialized || !ctx.isActive) = true
    · rw [if_pos hidle]
      exact ⟨rfl, fun hfalse => by cases hfalse⟩
    · rw [if_neg hidle]
      exact ⟨rfl, fun h => h⟩

/-- The node of the slot. -/
def event12 : NodeName := ⟨textBytes "event12", by decide, by decide⟩

/-- The node of another device. -/
def event1 : NodeName := ⟨textBytes "event1", by decide, by decide⟩

/-- A connected controller that reads `event12`. -/
def event12Context : MonitorContext := ⟨true, true, true, 1, event12.eventPath⟩

/-- The deletion of a node, as watch 1 reports it. -/
def deletionOf (name : NodeName) (h : (nameField (some name) 8).length < 256 ^ 4) : KernelEvent :=
  ⟨1, 0x200, 0, some name, 8, h, fun _ => rfl⟩

/-- The end of watch 1: `IN_IGNORED`, without a name. -/
def ignored : KernelEvent := ⟨1, 0x8000, 0, none, 0, by decide, fun h => absurd h (by decide)⟩

/-- An event of the watch that is no deletion, another device's that is no part of the path, and the own node's. -/
def mixedBatch : List KernelEvent :=
  [ignored, deletionOf ⟨textBytes "js3", by decide, by decide⟩ (by decide), deletionOf event12 (by decide)]

theorem removal_reported_event12 : event12Context.eventPath = event12.eventPath ∧
    RemovalReported event12Context event12 mixedBatch ∧
    nswCheckInotify event12Context (some (encodeBatch mixedBatch)) = true := by
  have hdeleted : OwnNodeDeleted event12Context event12 mixedBatch :=
    ⟨deletionOf event12 (by decide), by simp [mixedBatch], ⟨rfl, by decide⟩, rfl⟩
  have hpath : event12Context.eventPath = event12.eventPath := rfl
  have hreported := (removal_reported_iff hpath mixedBatch).mpr (Or.inl hdeleted)
  exact ⟨rfl, hreported, hreported.check.mpr hdeleted⟩

/-- ANOTHER DEVICE IS UNPLUGGED, `event1`, and the controller on `event12` is disconnected. -/
theorem other_deletion_disconnects :
    ¬RemovalReported event12Context event12 [deletionOf event1 (by decide)] ∧
      nswMonitor event12Context (some (encodeBatch [deletionOf event1 (by decide)])) =
        (false, { event12Context with connected := false }) := by
  have hcheck :
      nswCheckInotify event12Context (some (encodeBatch [deletionOf event1 (by decide)])) = true := by
    decide +kernel
  refine ⟨fun h => ?_, ?_⟩
  · obtain ⟨e, he, -, hname⟩ := h.check.mp hcheck
    rw [List.mem_singleton.mp he] at hname
    exact absurd (congrArg NodeName.bytes (Option.some.inj hname)) (by decide)
  · unfold nswMonitor
    rw [hcheck]
    rfl

end Dstx
