/-
# Dstx.Daemon.Hotplug — which device nodes the daemon gets to see.

`run_daemon_loop` asks inotify for the creations in `/dev`, THEN goes through the directory, and from then on
reads notices: up to 4096 bytes of them a round, walked event by event.  A node is tried by opening it, four
times at most; the one that opens is handed to `try_register_control`.

Nodes come and go at any time — between the watch and the listing, while the listing is under way, between
two attempts to open one.  Still none is missed (`hotplug_complete`): once the daemon has read all its
notices, every node in `/dev` was handed over since it was created, or refused to open four times.  The general
part of the argument is `Lib.Notices`; here are the buffer, the loop, and the rest of the daemon
(`Daemon.Workers`), which does as it always does meanwhile.
-/
import Dstx.Daemon.Lifecycle
import Dstx.Driver.NswRemoval
import Dstx.Lib.Notices

namespace Dstx

open Dstx.Lib

/-! ## Notices in the buffer -/

/-- A name in `/dev`, of at most `NAME_MAX` bytes. -/
structure DevName extends NodeName where
  short : bytes.length ≤ 255

theorem DevName.ext_bytes {m n : DevName} (h : m.bytes = n.bytes) : m = n := by
  obtain ⟨⟨mbytes, _, _⟩, _⟩ := m
  obtain ⟨⟨nbytes, _, _⟩, _⟩ := n
  obtain rfl : mbytes = nbytes := h
  rfl

instance : DecidableEq DevName := fun m n =>
  decidable_of_iff (m.bytes = n.bytes) ⟨DevName.ext_bytes, fun h => h ▸ rfl⟩

/-- Bytes as a text. -/
def charsOf (bytes : List UInt8) : CStr := bytes.map fun b => Char.ofNat b.toNat

/-- `IN_CREATE`, and `IN_Q_OVERFLOW`, whose event has no name. -/
def inCreate : UInt32 := 0x100

def inQOverflow : UInt32 := 0x4000

/-- The event of a creation; the kernel fills its name up to a multiple of the header's 16 bytes. -/
def DevName.created (n : DevName) : KernelEvent where
  wd := 1
  mask := inCreate
  cookie := 0
  name := some n.toNodeName
  padding := 15 - n.bytes.length % 16
  fits := by
    have hshort := n.short
    have hpow : (256 : Nat) ^ 4 = 4294967296 := rfl
    simp only [nameField, List.length_append, List.length_cons, List.length_replicate]
    omega
  named := fun _ => rfl

/-- The event of a queue that ran over, for no watch. -/
def queueOverflow : KernelEvent where
  wd := 0xffffffff
  mask := inQOverflow
  cookie := 0
  name := none
  padding := 0
  fits := Nat.pow_pos (Nat.succ_pos 255)
  named := fun h => (h rfl).elim

/-- The event of a notice. -/
def noticeEvent : Option DevName → KernelEvent
  | some n => n.created
  | none => queueOverflow

/-- A notice in the buffer. -/
def encodeNotice (x : Option DevName) : List UInt8 := (noticeEvent x).encode

/-- `sizeof(buffer)`. -/
def inotifyBufferSize : Nat := 4096

/-- How many of the notices a `read` of so many bytes takes: whole ones, as long as they fit. -/
def fitting : Nat → List (Option DevName) → Nat
  | _, [] => 0
  | room, x :: xs =>
      if (encodeNotice x).length ≤ room then fitting (room - (encodeNotice x).length) xs + 1 else 0

/-- **The `for` loop over the buffer**: the names of the events that have one. -/
def eventNames (buf : List UInt8) : List (List UInt8) :=
  collect (fun b => 16 + eventLen b) (fun b => if eventLen b ≠ 0 then some (eventName b) else none) buf.length buf

theorem encodeNotice_ne_nil (x : Option DevName) : encodeNotice x ≠ [] := encode_ne_nil _

/-- The size the loop advances by. -/
theorem eventLen_encodeNotice (x : Option DevName) (rest : List UInt8) :
    16 + eventLen (encodeNotice x ++ rest) = (encodeNotice x).length := eventLen_encode _ rest

/-- **The loop finds the names of the notices**, in their order. -/
theorem eventNames_encode (notices : List (Option DevName)) :
    eventNames (notices.flatMap encodeNotice) = notices.filterMap (Option.map fun n => n.bytes) := by
  refine collect_flatMap encodeNotice_ne_nil eventLen_encodeNotice (fun x rest => ?_) notices _
    (length_le_flatMap encodeNotice_ne_nil notices)
  cases x with
  | some n =>
      have hlen := eventLen_eq n.created rest
      have hsize : (nameField n.created.name n.created.padding).length ≠ 0 := by
        simp [nameField, DevName.created]
      show (if eventLen (n.created.encode ++ rest) ≠ 0 then some (eventName (n.created.encode ++ rest)) else
        none) = some n.bytes
      rw [hlen, if_pos hsize, eventName_encode (e := n.created) rfl]
  | none => rfl

/-! ## The loop -/

/-- `HOTPLUG_MAX_RETRIES`. -/
def hotplugMaxRetries : Nat := 4

/-- How far the start of the loop has come. -/
inductive ScanStage where
  /-- Before `inotify_add_watch`. -/
  | toWatch
  /-- Before `opendir`. -/
  | toOpen
  | listing
  | listed
  deriving DecidableEq

/-- **The daemon and `/dev`.**  `batch` holds the names of the events that were read and not yet walked over;
`offered` and `refused` are ghosts: the births of the nodes that were handed to `try_register_control`, and how
often each birth was not opened. -/
structure HotplugSystem where
  daemon : WorkerSystem
  dev : Notified DevName
  stage : ScanStage
  /-- This round's `poll` is over. -/
  polled : Bool
  batch : List (List UInt8)
  retryCount : Nat
  offered : List Nat
  refused : Nat → Nat

/-- The daemon enters `run_daemon_loop`. -/
def bootHotplug (slots : Fin maxSlots → WorkerSlot) (clock : UInt64) (dev : Notified DevName) : HotplugSystem where
  daemon := initialWorkers slots clock
  dev := dev
  stage := .toWatch
  polled := false
  batch := []
  retryCount := 0
  offered := []
  refused := fun _ => 0

/-- The test of the scan: `strncmp(d_name, "hidraw", 6) == 0`. -/
def isHidraw (bytes : List UInt8) : Bool := "hidraw".toList.isPrefixOf (charsOf bytes)

/-- The births under a name. -/
def HotplugSystem.births (h : HotplugSystem) (bytes : List UInt8) : List Nat :=
  (h.dev.entries.filter fun e => decide (e.1.bytes = bytes)).map (·.2)

/-- A name goes to `try_register_control`. -/
def HotplugSystem.offer (h : HotplugSystem) (bytes : List UInt8) : HotplugSystem :=
  { h with offered := h.births bytes ++ h.offered }

/-- The node of a name was not opened. -/
def HotplugSystem.refuse (h : HotplugSystem) (bytes : List UInt8) : HotplugSystem :=
  { h with refused := fun b => if b ∈ h.births bytes then h.refused b + 1 else h.refused b }

/-- The walk goes on to the next event. -/
def HotplugSystem.nextEvent (h : HotplugSystem) : HotplugSystem :=
  { h with batch := h.batch.tail, retryCount := 0 }

/-- The moves of the main thread that this module spells out. -/
def SystemMove.listens : SystemMove → Bool
  | .main (.scanEntry _) | .main .scanEnd | .main (.event _) | .main .pollEnd => true
  | _ => false

/-- What can happen. -/
inductive HotplugMove where
  /-- A node appears in `/dev`, or goes. -/
  | create (n : DevName)
  | remove (n : DevName)
  | addWatch (granted : Bool)
  | openDir (opened : Bool)
  /-- `readdir`. -/
  | readDir (n : DevName)
  | closeDir
  /-- `poll`, and the `read` after it, which may fail. -/
  | poll (reads : Bool)
  /-- An event whose name does not contain `hidraw`. -/
  | skip
  /-- An attempt to open the node of an event, and its outcome. -/
  | tryOpen (opened : Bool)
  | pollEnd
  /-- Anything else the daemon does. -/
  | daemon (move : SystemMove)

/-- **One step.** -/
def hotplugStep (move : HotplugMove) (h : HotplugSystem) : Option HotplugSystem :=
  match move with
  | .create n => if n ∈ h.dev.entries.map (·.1) then none else some { h with dev := h.dev.create n }
  | .remove n => some { h with dev := h.dev.remove n }
  | .addWatch granted =>
      match h.stage with
      | .toWatch => some { h with dev := h.dev.watch granted, stage := .toOpen }
      | _ => none
  | .openDir opened =>
      match h.stage with
      | .toOpen =>
          if opened then some { h with dev := h.dev.list, stage := .listing }
          else (mainStep .scanEnd h.daemon).map fun d => { h with daemon := d, stage := .listed }
      | _ => none
  | .readDir n =>
      match h.stage with
      | .listing =>
          (mainStep (.scanEntry (charsOf n.bytes)) h.daemon).map fun d =>
            { (if isHidraw n.bytes then h.offer n.bytes else h) with daemon := d, dev := h.dev.give n }
      | _ => none
  | .closeDir =>
      match h.stage with
      | .listing =>
          if h.dev.unlisted = [] then
            (mainStep .scanEnd h.daemon).map fun d => { h with daemon := d, stage := .listed }
          else none
      | _ => none
  | .poll reads =>
      match h.daemon.main with
      | .polling =>
          if h.polled || !h.batch.isEmpty then none
          else if reads then
            let k := fitting inotifyBufferSize h.dev.queue
            some { h with
              dev := h.dev.take k
              polled := true
              batch := eventNames ((h.dev.queue.take k).flatMap encodeNotice)
              retryCount := 0 }
          else some { h with polled := true }
      | _ => none
  | .skip =>
      match h.batch with
      | name :: _ =>
          if strstr (charsOf name) "hidraw".toList then none
          else (mainStep (.event (charsOf name)) h.daemon).map fun d => { h.nextEvent with daemon := d }
      | [] => none
  | .tryOpen opened =>
      match h.batch, h.daemon.main with
      | name :: _, .polling =>
          if !strstr (charsOf name) "hidraw".toList then none
          else if opened then
            -- only a node that is there opens
            if h.births name = [] then none
            else
              (mainStep (.event (charsOf name)) h.daemon).map fun d =>
                { (h.offer name).nextEvent with daemon := d }
          else if h.retryCount + 1 < hotplugMaxRetries then
            some { h.refuse name with retryCount := h.retryCount + 1 }
          else some (h.refuse name).nextEvent
      | _, _ => none
  | .pollEnd =>
      if h.polled && h.batch.isEmpty then
        (mainStep .pollEnd h.daemon).map fun d => { h with daemon := d, polled := false }
      else none
  | .daemon move =>
      if move.listens then none else (systemStep move h.daemon).map fun d => { h with daemon := d }

/-! ## What a step can do -/

/-- **The steps, one by one**, with what each of them found. -/
inductive HotplugStepped (h : HotplugSystem) : HotplugMove → HotplugSystem → Prop
  | create (n : DevName) : HotplugStepped h (.create n) { h with dev := h.dev.create n }
  | remove (n : DevName) : HotplugStepped h (.remove n) { h with dev := h.dev.remove n }
  | addWatch (granted : Bool) (hstage : h.stage = .toWatch) :
      HotplugStepped h (.addWatch granted) { h with dev := h.dev.watch granted, stage := .toOpen }
  | openDir (hstage : h.stage = .toOpen) :
      HotplugStepped h (.openDir true) { h with dev := h.dev.list, stage := .listing }
  | noDir {d : WorkerSystem} (hstage : h.stage = .toOpen) (hd : mainStep .scanEnd h.daemon = some d) :
      HotplugStepped h (.openDir false) { h with daemon := d, stage := .listed }
  | entry {d : WorkerSystem} (n : DevName) (hstage : h.stage = .listing) (hhidraw : isHidraw n.bytes = true)
      (hd : mainStep (.scanEntry (charsOf n.bytes)) h.daemon = some d) :
      HotplugStepped h (.readDir n) { h.offer n.bytes with daemon := d, dev := h.dev.give n }
  | passed {d : WorkerSystem} (n : DevName) (hstage : h.stage = .listing) (hother : isHidraw n.bytes = false)
      (hd : mainStep (.scanEntry (charsOf n.bytes)) h.daemon = some d) :
      HotplugStepped h (.readDir n) { h with daemon := d, dev := h.dev.give n }
  | closeDir {d : WorkerSystem} (hstage : h.stage = .listing) (hgiven : h.dev.unlisted = [])
      (hd : mainStep .scanEnd h.daemon = some d) :
      HotplugStepped h .closeDir { h with daemon := d, stage := .listed }
  | read (hbatch : h.batch = []) :
      HotplugStepped h (.poll true)
        { h with
          dev := h.dev.take (fitting inotifyBufferSize h.dev.queue)
          polled := true
          batch := eventNames
            ((h.dev.queue.take (fitting inotifyBufferSize h.dev.queue)).flatMap encodeNotice)
          retryCount := 0 }
  | nothing : HotplugStepped h (.poll false) { h with polled := true }
  | skip {name : List UInt8} {rest : List (List UInt8)} {d : WorkerSystem} (hbatch : h.batch = name :: rest)
      (hother : strstr (charsOf name) "hidraw".toList = false)
      (hd : mainStep (.event (charsOf name)) h.daemon = some d) :
      HotplugStepped h .skip { h.nextEvent with daemon := d }
  | opened {name : List UInt8} {rest : List (List UInt8)} {d : WorkerSystem} (hbatch : h.batch = name :: rest)
      (hd : mainStep (.event (charsOf name)) h.daemon = some d) :
      HotplugStepped h (.tryOpen true) { (h.offer name).nextEvent with daemon := d }
  | again {name : List UInt8} {rest : List (List UInt8)} (hbatch : h.batch = name :: rest) :
      HotplugStepped h (.tryOpen false) { h.refuse name with retryCount := h.retryCount + 1 }
  | givenUp {name : List UInt8} {rest : List (List UInt8)} (hbatch : h.batch = name :: rest)
      (hlast : hotplugMaxRetries ≤ h.retryCount + 1) :
      HotplugStepped h (.tryOpen false) (h.refuse name).nextEvent
  | pollEnd {d : WorkerSystem} (hd : mainStep .pollEnd h.daemon = some d) :
      HotplugStepped h .pollEnd { h with daemon := d, polled := false }
  | daemon {d : WorkerSystem} (move : SystemMove) (hd : systemStep move h.daemon = some d) :
      HotplugStepped h (.daemon move) { h with daemon := d }

theorem hotplugStep_stepped {h h' : HotplugSystem} {move : HotplugMove}
    (hstep : hotplugStep move h = some h') : HotplugStepped h move h' := by
  cases move with
  | create n =>
      simp only [hotplugStep] at hstep
      split at hstep
      · cases hstep
      · cases hstep
        exact .create n
  | remove n =>
      cases hstep
      exact .remove n
  | addWatch granted =>
      simp only [hotplugStep] at hstep
      split at hstep
      · rename_i hstage
        cases hstep
        exact .addWatch granted hstage
      · cases hstep
  | openDir opened =>
      simp only [hotplugStep] at hstep
      split at hstep
      · rename_i hstage
        cases opened with
        | true =>
            cases hstep
            exact .openDir hstage
        | false =>
            obtain ⟨d, hd, rfl⟩ := Option.map_eq_some_iff.mp hstep
            exact .noDir hstage hd
      · cases hstep
  | readDir n =>
      simp only [hotplugStep] at hstep
      split at hstep
      · rename_i hstage
        obtain ⟨d, hd, rfl⟩ := Option.map_eq_some_iff.mp hstep
        cases hhidraw : isHidraw n.bytes with
        | true => exact .entry n hstage hhidraw hd
        | false => exact .passed n hstage hhidraw hd
      · cases hstep
  | closeDir =>
      simp only [hotplugStep] at hstep
      split at hstep
      · rename_i hstage
        split at hstep
        · rename_i hgiven
          obtain ⟨d, hd, rfl⟩ := Option.map_eq_some_iff.mp hstep
          exact .closeDir hstage hgiven hd
        · cases hstep
      · cases hstep
  | poll reads =>
      simp only [hotplugStep] at hstep
      split at hstep
      · split at hstep
        · cases hstep
        · rename_i hidle
          rw [Bool.not_eq_true, Bool.or_eq_false_iff, Bool.not_eq_false', List.isEmpty_iff] at hidle
          cases reads with
          | true =>
              cases hstep
              exact .read hidle.2
          | false =>
              cases hstep
              exact .nothing
      · cases hstep
  | skip =>
      simp only [hotplugStep] at hstep
      split at hstep
      · rename_i name rest hbatch
        split at hstep
        · cases hstep
        · rename_i hother
          obtain ⟨d, hd, rfl⟩ := Option.map_eq_some_iff.mp hstep
          exact .skip hbatch (Bool.not_eq_true _ ▸ hother) hd
      · cases hstep
  | tryOpen opened =>
      simp only [hotplugStep] at hstep
      split at hstep
      · rename_i name rest hbatch hmain
        split at hstep
        · cases hstep
        · cases opened with
          | true =>
              rw [if_pos rfl] at hstep
              split at hstep
              · cases hstep
              · obtain ⟨d, hd, rfl⟩ := Option.map_eq_some_iff.mp hstep
                exact .opened hbatch hd
          | false =>
              rw [if_neg Bool.false_ne_true] at hstep
              split at hstep
              · cases hstep
                exact .again hbatch
              · rename_i hlast
                cases hstep
                exact .givenUp hbatch (Nat.le_of_not_lt hlast)
      · cases hstep
  | pollEnd =>
      simp only [hotplugStep] at hstep
      split at hstep
      · obtain ⟨d, hd, rfl⟩ := Option.map_eq_some_iff.mp hstep
        exact .pollEnd hd
      · cases hstep
  | daemon move =>
      simp only [hotplugStep] at hstep
      split at hstep
      · cases hstep
      · obtain ⟨d, hd, rfl⟩ := Option.map_eq_some_iff.mp hstep
        exact .daemon move hd

theorem exists_systemStep {d d' : WorkerSystem} {m : MainMove} (hd : mainStep m d = some d') :
    ∃ sys, systemStep sys d = some d' := ⟨.main m, hd⟩

/-- **One step is a step of the daemon, or none.** -/
theorem hotplugStep_refines {h h' : HotplugSystem} {move : HotplugMove} (hstep : hotplugStep move h = some h') :
    h'.daemon = h.daemon ∨ ∃ sys, systemStep sys h.daemon = some h'.daemon := by
  cases hotplugStep_stepped hstep with
  | create | remove | addWatch | openDir | read | nothing | again | givenUp => exact .inl rfl
  | noDir _ hd | entry _ _ _ hd | passed _ _ _ hd | closeDir _ _ hd | skip _ _ hd | opened _ hd | pollEnd hd =>
      exact .inr (exists_systemStep hd)
  | daemon move hd => exact .inr ⟨move, hd⟩

/-- **What the daemon does under hotplug, it could do in `Daemon.Workers`.** -/
theorem hotplug_refines {h h' : HotplugSystem} (hrun : Run hotplugStep free h h') :
    Run systemStep free h.daemon h'.daemon := by
  induction hrun with
  | refl => exact .refl _
  | tail _ _ hstep ih =>
      rcases hotplugStep_refines hstep with heq | ⟨sys, hsys⟩
      · rw [heq]
        exact ih
      · exact .tail ih trivial hsys

/-! ## Nothing is missed -/

/-- **The daemon is done with this birth of the name**, or has its notice in hand: the attempts made for the
event at the head were all made at this birth. -/
def HotplugSystem.Done (h : HotplugSystem) (n : DevName) (b : Nat) : Prop :=
  isHidraw n.bytes = false ∨ b ∈ h.offered ∨ hotplugMaxRetries ≤ h.refused b ∨ n.bytes ∈ h.batch.tail ∨
    (∃ rest, h.batch = n.bytes :: rest) ∧ h.retryCount ≤ h.refused b

/-- The invariant. -/
structure HotplugRight (h : HotplugSystem) : Prop where
  inOrder : h.dev.InOrder
  unasked : h.stage = .toWatch → h.dev.watchedAt = none
  unlisted : h.stage = .toWatch ∨ h.stage = .toOpen → h.dev.listedAt = none
  closed : h.stage ≠ .listing → h.dev.unlisted = []
  covered : h.dev.dropped = false → h.dev.Covered h.Done

theorem mem_births {h : HotplugSystem} {n : DevName} {b : Nat} (hmem : (n, b) ∈ h.dev.entries) :
    b ∈ h.births n.bytes :=
  List.mem_map.mpr ⟨(n, b), List.mem_filter.mpr ⟨hmem, decide_eq_true rfl⟩, rfl⟩

/-- A name the scan takes is a name the event loop takes. -/
theorem strstr_of_isHidraw {bytes : List UInt8} (h : isHidraw bytes = true) :
    strstr (charsOf bytes) "hidraw".toList = true :=
  decide_eq_true (List.isPrefixOf_iff_prefix.mp h).isInfix

section Done

variable {h : HotplugSystem} {n : DevName} {b : Nat}

/-- In a batch that was just read, every name counts. -/
theorem done_of_mem_batch (hmem : n.bytes ∈ h.batch) (hretry : h.retryCount = 0) : h.Done n b := by
  cases hbatch : h.batch with
  | nil =>
      rw [hbatch] at hmem
      cases hmem
  | cons x xs =>
      rw [hbatch, List.mem_cons] at hmem
      rcases hmem with hx | hxs
      · refine .inr (.inr (.inr (.inr ⟨⟨xs, ?_⟩, ?_⟩)))
        · rw [hbatch, hx]
        · rw [hretry]
          exact Nat.zero_le _
      · refine .inr (.inr (.inr (.inl ?_)))
        rw [hbatch]
        exact hxs

/-- **The walk goes on**, when the name at the head is done with. -/
theorem HotplugSystem.Done.next (hdone : h.Done n b)
    (hhead : (∃ rest, h.batch = n.bytes :: rest) → h.retryCount ≤ h.refused b → h.nextEvent.Done n b) :
    h.nextEvent.Done n b := by
  rcases hdone with hother | hoffered | hrefused | htail | ⟨hfirst, hretry⟩
  · exact .inl hother
  · exact .inr (.inl hoffered)
  · exact .inr (.inr (.inl hrefused))
  · exact done_of_mem_batch htail rfl
  · exact hhead hfirst hretry

/-- **An offer** to all births of a name. -/
theorem HotplugSystem.Done.offer (hdone : h.Done n b) (bytes : List UInt8) : (h.offer bytes).Done n b := by
  rcases hdone with hother | hoffered | hrest
  · exact .inl hother
  · exact .inr (.inl (List.mem_append_right _ hoffered))
  · exact .inr (.inr hrest)

theorem done_offered (hmem : (n, b) ∈ h.dev.entries) : (h.offer n.bytes).Done n b :=
  .inr (.inl (List.mem_append_left _ (mem_births hmem)))

/-- A refusal counts upwards. -/
theorem refused_le_refuse (bytes : List UInt8) (b : Nat) : h.refused b ≤ (h.refuse bytes).refused b := by
  unfold HotplugSystem.refuse
  dsimp only
  split
  · exact Nat.le_succ _
  · exact Nat.le_refl _

theorem refuse_births (hmem : (n, b) ∈ h.dev.entries) :
    (h.refuse n.bytes).refused b = h.refused b + 1 := if_pos (mem_births hmem)

end Done

/-! ## The rule for one step -/

section Step

variable {h h' : HotplugSystem}

/-- A step that touches neither `/dev` nor the walk. -/
theorem HotplugRight.congr (hright : HotplugRight h) (hdev : h'.dev = h.dev) (hstage : h'.stage = h.stage)
    (hdone : ∀ n b, (n, b) ∈ h.dev.entries → h.Done n b → h'.Done n b) : HotplugRight h' where
  inOrder := hdev ▸ hright.inOrder
  unasked := by
    rw [hdev, hstage]
    exact hright.unasked
  unlisted := by
    rw [hdev, hstage]
    exact hright.unlisted
  closed := by
    rw [hdev, hstage]
    exact hright.closed
  covered := by
    rw [hdev]
    intro hkept n b hmem howed
    exact (hright.covered hkept n b hmem howed).imp_right (Or.imp_right (hdone n b hmem))

/-- **What one step keeps.** -/
theorem HotplugRight.step (hright : HotplugRight h) {move : HotplugMove} (hstep : hotplugStep move h = some h') :
    HotplugRight h' := by
  cases hotplugStep_stepped hstep with
  | create n =>
      obtain ⟨-, -, hwatched, hlisted, hunlisted⟩ := h.dev.create_rest n
      obtain ⟨-, hdropped, -⟩ := h.dev.create_queue n
      refine ⟨hright.inOrder.create n, fun hs => hwatched.trans (hright.unasked hs),
        fun hs => hlisted.trans (hright.unlisted hs), fun hs => hunlisted.trans (hright.closed hs),
        fun hkept => ?_⟩
      refine (hright.covered ?_).create hright.inOrder n hkept
      cases hd : h.dev.dropped with
      | false => rfl
      | true => exact absurd (hdropped hd) (by rw [show (h.dev.create n).dropped = false from hkept]; decide)
  | remove n =>
      refine ⟨hright.inOrder.remove n, hright.unasked, hright.unlisted, fun hs => ?_,
        fun hkept => (hright.covered hkept).remove n⟩
      show h.dev.unlisted.filter _ = []
      rw [hright.closed hs, List.filter_nil]
  | addWatch granted hstage =>
      have hlisted : h.dev.listedAt = none := hright.unlisted (.inl hstage)
      exact ⟨hright.inOrder.watch hlisted granted, nofun, fun _ => hlisted,
        fun _ => hright.closed (by rw [hstage]; exact nofun),
        fun _ => Notified.Covered.watch hright.inOrder hlisted granted⟩
  | openDir hstage =>
      exact ⟨hright.inOrder.list, nofun, nofun, fun hs => absurd rfl hs, fun _ => Notified.covered_list⟩
  | noDir hstage hd =>
      exact ⟨hright.inOrder, nofun, nofun, fun _ => hright.closed (by rw [hstage]; exact nofun), hright.covered⟩
  | entry n hstage hhidraw hd =>
      refine ⟨hright.inOrder.give n, fun hs => ?_, fun hs => ?_, fun hs => absurd hstage hs, fun hkept => ?_⟩
      · exact hright.unasked hs
      · exact hright.unlisted hs
      · exact (hright.covered hkept).give (fun b hmem => done_offered hmem) fun m b hdone => hdone.offer n.bytes
  | passed n hstage hother hd =>
      refine ⟨hright.inOrder.give n, hright.unasked, hright.unlisted, fun hs => absurd hstage hs,
        fun hkept => ?_⟩
      exact (hright.covered hkept).give (fun b _ => .inl hother) fun m b hdone => hdone
  | closeDir hstage hgiven hd =>
      exact ⟨hright.inOrder, nofun, nofun, fun _ => hgiven, hright.covered⟩
  | read hbatch =>
      refine ⟨hright.inOrder.take _, hright.unasked, hright.unlisted, hright.closed, fun hkept => ?_⟩
      refine (hright.covered hkept).take (fun n b hqueued => ?_) fun n b hdone => ?_
      · refine done_of_mem_batch ?_ rfl
        show n.bytes ∈ eventNames _
        rw [eventNames_encode, List.mem_filterMap]
        exact ⟨some n, hqueued, rfl⟩
      · rcases hdone with hother | hoffered | hrefused | htail | ⟨⟨rest, hfirst⟩, -⟩
        · exact .inl hother
        · exact .inr (.inl hoffered)
        · exact .inr (.inr (.inl hrefused))
        · rw [hbatch] at htail
          cases htail
        · rw [hbatch] at hfirst
          cases hfirst
  | nothing => exact hright.congr rfl rfl fun _ _ _ hdone => hdone
  | skip hbatch hother hd =>
      refine hright.congr rfl rfl fun n b _ hdone => hdone.next ?_
      -- the event at the head is of no name the scan would take
      rintro ⟨rest, hfirst⟩ -
      rw [hbatch] at hfirst
      obtain ⟨rfl, -⟩ := List.cons.inj hfirst
      cases hhidraw : isHidraw n.bytes with
      | false => exact .inl hhidraw
      | true =>
          rw [strstr_of_isHidraw hhidraw] at hother
          cases hother
  | opened hbatch hd =>
      refine hright.congr rfl rfl fun n b hmem hdone => (hdone.offer _).next ?_
      rintro ⟨rest, hfirst⟩ -
      rw [show (h.offer _).batch = h.batch from rfl, hbatch] at hfirst
      obtain ⟨rfl, -⟩ := List.cons.inj hfirst
      exact .inr (.inl (List.mem_append_left _ (mem_births hmem)))
  | again hbatch =>
      refine hright.congr rfl rfl fun n b hmem hdone => ?_
      rcases hdone with hother | hoffered | hrefused | htail | ⟨⟨rest, hfirst⟩, hretry⟩
      · exact .inl hother
      · exact .inr (.inl hoffered)
      · exact .inr (.inr (.inl (hrefused.trans (refused_le_refuse _ b))))
      · exact .inr (.inr (.inr (.inl htail)))
      · refine .inr (.inr (.inr (.inr ⟨⟨rest, hfirst⟩, ?_⟩)))
        rw [hbatch] at hfirst
        obtain ⟨rfl, -⟩ := List.cons.inj hfirst
        show h.retryCount + 1 ≤ (h.refuse n.bytes).refused b
        rw [refuse_births hmem]
        exact Nat.succ_le_succ hretry
  | givenUp hbatch hlast =>
      refine hright.congr rfl rfl fun n b hmem hdone => ?_
      rcases hdone with hother | hoffered | hrefused | htail | ⟨⟨rest, hfirst⟩, hretry⟩
      · exact .inl hother
      · exact .inr (.inl hoffered)
      · exact .inr (.inr (.inl (hrefused.trans (refused_le_refuse _ b))))
      · exact done_of_mem_batch htail rfl
      · rw [hbatch] at hfirst
        obtain ⟨rfl, -⟩ := List.cons.inj hfirst
        refine .inr (.inr (.inl ?_))
        show hotplugMaxRetries ≤ (h.refuse n.bytes).refused b
        rw [refuse_births hmem]
        exact hlast.trans (Nat.succ_le_succ hretry)
  | pollEnd hd => exact hright.congr rfl rfl fun _ _ _ hdone => hdone
  | daemon move hd => exact hright.congr rfl rfl fun _ _ _ hdone => hdone

end Step

/-! ## Whole runs -/

theorem hotplugRight_boot (slots : Fin maxSlots → WorkerSlot) (clock : UInt64) {entries : List (DevName × Nat)}
    {nextBirth : Nat} (hborn : ∀ e ∈ entries, e.2 < nextBirth) (capacity : Nat) :
    HotplugRight (bootHotplug slots clock (.unwatched entries nextBirth capacity)) where
  inOrder := Notified.inOrder_unwatched hborn capacity
  unasked := fun _ => rfl
  unlisted := fun _ => rfl
  closed := fun _ => rfl
  covered := fun _ => Notified.covered_of_asked_nothing rfl rfl

/-- **No node is missed**, whatever appears and goes in `/dev` and whatever else the daemon does: after a
start at which both the watch was granted and the directory opened, and unless the kernel had to drop notices,
a daemon that has read its notices and walked over them has handed every hidraw node in `/dev` to
`try_register_control` since it was created, or has four times failed to open it.  And no slot ever has two
workers. -/
theorem hotplug_complete {slots : Fin maxSlots → WorkerSlot} {clock : UInt64}
    {entries : List (DevName × Nat)} {nextBirth capacity : Nat} (hborn : ∀ e ∈ entries, e.2 < nextBirth)
    {h : HotplugSystem}
    (hrun : Run hotplugStep free (bootHotplug slots clock (.unwatched entries nextBirth capacity)) h)
    {watchedAt listedAt : Nat} (hwatched : h.dev.watchedAt = some watchedAt)
    (hlisted : h.dev.listedAt = some listedAt) (hstage : h.stage = .listed) (hkept : h.dev.dropped = false)
    (hqueue : h.dev.queue = []) (hbatch : h.batch = []) :
    (∀ n b, (n, b) ∈ h.dev.entries → isHidraw n.bytes = true →
        b ∈ h.offered ∨ hotplugMaxRetries ≤ h.refused b) ∧
      ∀ t t' w w', h.daemon.workers t = some w → h.daemon.workers t' = some w' → w.slot = w'.slot → t = t' := by
  have hright : HotplugRight h :=
    hrun.invariant (fun _ _ _ hright _ hstep => hright.step hstep) (hotplugRight_boot slots clock hborn capacity)
  refine ⟨fun n b hmem hhidraw => ?_, (one_worker_per_slot (hotplug_refines hrun)).1⟩
  have howed : h.dev.Owed b := Notified.owed_of_watched_listed hright.inOrder hwatched hlisted b
  rcases hright.covered hkept n b hmem howed with hunlisted | hqueued | hdone
  · rw [hright.closed (by rw [hstage]; exact nofun)] at hunlisted
    cases hunlisted
  · rw [hqueue] at hqueued
    cases hqueued
  · rcases hdone with hother | hoffered | hrefused | htail | ⟨⟨rest, hfirst⟩, -⟩
    · rw [hhidraw] at hother
      cases hother
    · exact .inl hoffered
    · exact .inr hrefused
    · rw [hbatch] at htail
      cases htail
    · rw [hbatch] at hfirst
      cases hfirst

/-! ## A start with two nodes -/

def hidraw0 : DevName := ⟨⟨textBytes "hidraw0", by decide, by decide⟩, by decide⟩

def hidraw1 : DevName := ⟨⟨textBytes "hidraw1", by decide, by decide⟩, by decide⟩

/-- One round of the loop up to its `poll`, with nothing for the watchdog to do. -/
def quietRound : List HotplugMove :=
  .daemon (.main (.readClock 0)) ::
    (List.replicate (maxSlots + 1) (.daemon (.registrar .watch)) ++
      List.replicate (maxSlots + 1) (.daemon (.main .lostCheck)))

/-- `hidraw0` is there at the start, `hidraw1` appears between the watch and the listing, and is not listed. -/
def startWithTwo : List HotplugMove :=
  [.addWatch true, .create hidraw1, .openDir true, .readDir hidraw0, .daemon (.main (.openDevice none)),
      .remove hidraw1, .closeDir] ++ quietRound ++
    [.create hidraw1, .poll true, .tryOpen false, .tryOpen true, .daemon (.main (.openDevice none))]

theorem hotplug_complete_two :
    (∀ e ∈ [(hidraw0, 0)], e.2 < 1) ∧
      ∃ h, Run hotplugStep free
          (bootHotplug exampleWorkers.slots 0 (.unwatched [(hidraw0, 0)] 1 16384)) h ∧
        h.dev.entries = [(hidraw0, 0), (hidraw1, 2)] ∧
        ∀ n b, (n, b) ∈ h.dev.entries → isHidraw n.bytes = true →
          b ∈ h.offered ∨ hotplugMaxRetries ≤ h.refused b := by
  have hborn : ∀ e ∈ [(hidraw0, 0)], e.2 < 1 := by
    intro e he
    rw [List.mem_singleton.mp he]
    exact Nat.zero_lt_one
  obtain ⟨h, hrun, hh⟩ : ∃ h, Run hotplugStep free
      (bootHotplug exampleWorkers.slots 0 (.unwatched [(hidraw0, 0)] 1 16384)) h ∧
      (decide (h.dev.entries = [(hidraw0, 0), (hidraw1, 2)]) && decide (h.dev.watchedAt = some 1) &&
        decide (h.dev.listedAt = some 2) && decide (h.stage = .listed) && !h.dev.dropped &&
        decide (h.dev.queue = []) && decide (h.batch = [])) = true :=
    exists_run_of_exec
      (p := fun h : HotplugSystem =>
        decide (h.dev.entries = [(hidraw0, 0), (hidraw1, 2)]) && decide (h.dev.watchedAt = some 1) &&
          decide (h.dev.listedAt = some 2) && decide (h.stage = .listed) && !h.dev.dropped &&
          decide (h.dev.queue = []) && decide (h.batch = []))
      startWithTwo (by decide +kernel)
  simp only [Bool.and_eq_true, Bool.not_eq_true', decide_eq_true_eq] at hh
  obtain ⟨⟨⟨⟨⟨⟨hentries, hwatched⟩, hlisted⟩, hstage⟩, hkept⟩, hqueue⟩, hbatch⟩ := hh
  exact ⟨hborn, h, hrun, hentries,
    (hotplug_complete hborn hrun hwatched hlisted hstage hkept hqueue hbatch).1⟩

end Dstx
