/-
# Dstx.Daemon.Workers — the main thread of the daemon, and a worker thread for every slot.

`run_daemon_loop` scans `/dev`, and then goes round: the watchdog, the slots that lost their connection,
the inotify events.  Three of its places call `try_register_control`, which takes a slot and starts a
`controller_worker` on it; the worker frees the slot when it ends.  Between the two stand four tables in
memory — the slots, the bitmap of free ones, `pthread_t threads[]`, and the threads there really are.

The mutex is held by the workers around their clean-up and by `try_register_control` around its two
critical sections, but not by the watchdog, whose `mark_slot_free` is a load and a store of the bitmap
like any other.  So the steps of this model are: the sections under the mutex that nobody can look into,
as ONE step each; every access to the bitmap outside them, and the workers' own, as a load and a store; and
every point at which the main thread waits.

`devPath` is what `dev_path` holds; `origin` is a GHOST, the path a slot was last registered under.
-/
import Dstx.Driver.NswNodes
import Dstx.Lib.Run

namespace Dstx

open Dstx.Lib

/-! ## State -/

/-- `free_slots_bitmap`: the bits that `find_free_slot` looks at. -/
abbrev Bitmap := Fin maxSlots → Bool

/-- The cells of a slot that registration, worker and watchdog share. -/
structure WorkerSlot where
  connected : Bool
  type : ControllerType
  devPath : CStr
  workerHeartbeat : UInt64
  workerStop : Bool
  origin : CStr

/-- Where a worker thread is. -/
inductive WorkerPhase where
  /-- Before its main loop. -/
  | starting
  | looping
  /-- It holds the mutex and has loaded the bitmap for `mark_slot_free`. -/
  | freeing (loaded : Bitmap)
  /-- It has released the mutex and is about to return. -/
  | freed

/-- **A live worker thread.** -/
structure Worker where
  slot : Fin maxSlots
  phase : WorkerPhase

/-- Who holds the mutex. -/
inductive MutexOwner where
  | main
  | worker (t : Nat)
  deriving DecidableEq

/-- Where `try_register_control` was called from. -/
inductive RegisterCaller where
  /-- `scan_existing_devices`. -/
  | scan
  /-- The watchdog, in the pass with this clock reading, after it stopped the worker of this slot. -/
  | watchdog (now : UInt64) (i : Fin maxSlots)
  | hotplug

/-- A call of `try_register_control`. -/
structure Registration where
  path : CStr
  caller : RegisterCaller

/-- **Where the main thread is.** -/
inductive MainPc where
  | scanning
  /-- The head of the loop. -/
  | top
  /-- The watchdog, about to look at slot `i`. -/
  | watch (now : UInt64) (i : Nat)
  /-- It waits for the worker it has stopped. -/
  | stopping (now : UInt64) (i : Fin maxSlots)
  /-- It is about to mark the slot free, WITHOUT the mutex. -/
  | marking (now : UInt64) (i : Fin maxSlots)
  | storing (now : UInt64) (i : Fin maxSlots) (loaded : Bitmap)
  /-- It is about to look at `dev_path`. -/
  | rechecking (now : UInt64) (i : Fin maxSlots)
  /-- About to look whether slot `i` lost its connection. -/
  | lost (i : Nat)
  | losing (i : Fin maxSlots)
  /-- Between two inotify events. -/
  | polling
  /-- `try_register_control` was called. -/
  | registering (r : Registration)
  /-- It knows the type, and is about to take the mutex. -/
  | checking (r : Registration) (type : ControllerType)
  /-- It has released the mutex, and waits for the last thread of the free slot. -/
  | joining (r : Registration) (type : ControllerType) (f : Fin maxSlots)
  | relocking (r : Registration) (type : ControllerType) (f : Fin maxSlots)
  /-- It holds the mutex, and is about to initialise the slot anew. -/
  | reinit (r : Registration) (type : ControllerType) (f : Fin maxSlots)
  /-- It has released the mutex, and is about to start the worker. -/
  | creating (r : Registration) (f : Fin maxSlots)
  /-- The thread could not be started. -/
  | undoing (r : Registration) (f : Fin maxSlots)
  /-- Shut down: about to wait for the thread of slot `i`. -/
  | ending (i : Nat)
  | done

/-- A worker stopped by the watchdog: the pass's clock reading, and the last heartbeat the worker had
stored. -/
structure WatchdogStop where
  tid : Nat
  now : UInt64
  lastBeat : Option UInt64

/-- **The daemon.**  `lastBeat` and `stops` are ghosts: the last heartbeat of every thread there was, and
what the watchdog has done. -/
structure WorkerSystem where
  slots : Fin maxSlots → WorkerSlot
  freeSlots : Bitmap
  /-- `threads[]`; none is 0. -/
  threads : Fin maxSlots → Option Nat
  workers : Nat → Option Worker
  nextTid : Nat
  owner : Option MutexOwner
  /-- The monotonic clock, when it was last read. -/
  clock : UInt64
  main : MainPc
  lastBeat : Nat → Option UInt64
  stops : List WatchdogStop

/-- The start of the loop: no slot is connected or used; the rest of the shared memory is what it was. -/
def initialWorkers (slots : Fin maxSlots → WorkerSlot) (clock : UInt64) : WorkerSystem where
  slots i := { slots i with connected := false, workerHeartbeat := 0, workerStop := false }
  freeSlots := fun _ => true
  threads := fun _ => none
  workers := fun _ => none
  nextTid := 0
  owner := none
  clock := clock
  main := .scanning
  lastBeat := fun _ => none
  stops := []

/-! ## Pieces -/

/-- `WORKER_HEARTBEAT_TIMEOUT_US`. -/
def workerHeartbeatTimeoutUs : UInt64 := 5000000

/-- `snprintf(dev_path, 128, "%s", path)`. -/
def storedPath (path : CStr) : CStr := path.take 127

/-- `snprintf(path, sizeof(path), "/dev/%s", name)`. -/
def devNode (name : CStr) : CStr := "/dev/".toList ++ name

/-- The type of a controller, by its USB ids. -/
def controlType (vendor product : UInt16) : Option ControllerType :=
  if vendor = 0x054c then
    if product = 0x09cc ∨ product = 0x05c4 then some .ds4
    else if product = 0x0ce6 then some .dualsense
    else none
  else if vendor = 0x057e ∧ product = 0x2009 then some .nswPro
  else none

/-- Where the main thread goes on after a call of `try_register_control`. -/
def RegisterCaller.resume : RegisterCaller → MainPc
  | .scan => .scanning
  | .watchdog now i => .watch now (i + 1)
  | .hotplug => .polling

/-- The slot whose memory the `path` argument points into. -/
def RegisterCaller.pathInSlot : RegisterCaller → Option (Fin maxSlots)
  | .watchdog _ i => some i
  | _ => none

/-- The main thread goes on at `pc`. -/
def WorkerSystem.goto (d : WorkerSystem) (pc : MainPc) : WorkerSystem := { d with main := pc }

/-- A slot is written. -/
def WorkerSystem.setSlot (d : WorkerSystem) (i : Fin maxSlots) (s : WorkerSlot) : WorkerSystem :=
  { d with slots := Function.update d.slots i s }

/-- A slot is disconnected. -/
def WorkerSystem.disconnect (d : WorkerSystem) (i : Fin maxSlots) : WorkerSystem :=
  d.setSlot i { d.slots i with connected := false }

/-- `mark_slot_free`, where nobody can come between its load and its store. -/
def WorkerSystem.markSlotFree (d : WorkerSystem) (i : Fin maxSlots) : WorkerSystem :=
  { d with freeSlots := Function.update d.freeSlots i true }

/-- `find_free_slot`. -/
def WorkerSystem.findFreeSlot (d : WorkerSystem) : Option (Fin maxSlots) :=
  (List.finRange maxSlots).find? d.freeSlots

/-- A thread's record changes. -/
def WorkerSystem.setWorker (d : WorkerSystem) (t : Nat) (w : Option Worker) : WorkerSystem :=
  { d with workers := Function.update d.workers t w }

/-- `pthread_join(threads[i])` and `threads[i] = 0`: it waits until the thread has ended. -/
def WorkerSystem.join (d : WorkerSystem) (i : Fin maxSlots) : Option WorkerSystem :=
  match d.threads i with
  | some t =>
      if (d.workers t).isNone then some { d with threads := Function.update d.threads i none } else none
  | none => none

/-- **The anti-ghost loop** of `try_register_control`, and whether it found the path in use: a connected
slot with this path is left alone when the path is accessible, and dropped when it is not. -/
def WorkerSystem.antiGhost (path : CStr) (accessible : Fin maxSlots → Bool) :
    List (Fin maxSlots) → WorkerSystem → WorkerSystem × Bool
  | [], d => (d, false)
  | i :: is, d =>
      if (d.slots i).connected = true ∧ (d.slots i).devPath = path then
        if accessible i then (d, true) else antiGhost path accessible is ((d.disconnect i).markSlotFree i)
      else antiGhost path accessible is d

/-- The first critical section of `try_register_control`. -/
def WorkerSystem.check (d : WorkerSystem) (r : Registration) (type : ControllerType)
    (accessible : Fin maxSlots → Bool) : WorkerSystem :=
  let ghosts := d.antiGhost r.path accessible (List.finRange maxSlots)
  if ghosts.2 then ghosts.1.goto r.caller.resume
  else
    match ghosts.1.findFreeSlot with
    | none => ghosts.1.goto r.caller.resume
    | some f =>
        match d.threads f with
        | some _ => ghosts.1.goto (.joining r type f)
        | none => { ghosts.1 with owner := some .main, main := .reinit r type f }

/-- The second one: the slot is zeroed and filled.  A `path` that points into the slot is gone by then. -/
def WorkerSystem.reinit (d : WorkerSystem) (r : Registration) (type : ControllerType)
    (f : Fin maxSlots) : WorkerSystem :=
  { d with
    slots := Function.update d.slots f
      { connected := true
        type := type
        devPath := if r.caller.pathInSlot = some f then [] else storedPath r.path
        workerHeartbeat := 0
        workerStop := false
        origin := r.path }
    freeSlots := Function.update d.freeSlots f false
    owner := none
    main := .creating r f }

/-- The watchdog looks at a slot. -/
def WorkerSystem.watchSlot (d : WorkerSystem) (now : UInt64) (i : Fin maxSlots) : WorkerSystem :=
  match d.threads i with
  | none => d.goto (.watch now (i + 1))
  | some t =>
      let hb := (d.slots i).workerHeartbeat
      if hb ≠ 0 ∧ now - hb > workerHeartbeatTimeoutUs then
        { d.setSlot i { d.slots i with workerStop := true } with
          main := .stopping now i
          stops := ⟨t, now, d.lastBeat t⟩ :: d.stops }
      else d.goto (.watch now (i + 1))

/-! ## The main thread -/

/-- The moves of the main thread that touch neither the threads nor the bitmap. -/
inductive MainMove where
  /-- `scan_existing_devices` reads an entry of `/dev`. -/
  | scanEntry (dName : CStr)
  | scanEnd
  | readClock (now : UInt64)
  | recheck (accessible : Bool)
  | lostCheck
  /-- The next inotify event. -/
  | event (name : CStr)
  | pollEnd
  /-- `open` and `HIDIOCGRAWINFO`: the vendor and the product. -/
  | openDevice (info : Option (UInt16 × UInt16))
  | shutdown
  | endNext
  | finish

/-- **A quiet step of the main thread.** -/
def mainStep (move : MainMove) (d : WorkerSystem) : Option WorkerSystem :=
  match move with
  | .scanEntry dName =>
      match d.main with
      | .scanning =>
          if "hidraw".toList.isPrefixOf dName then some (d.goto (.registering ⟨devNode dName, .scan⟩))
          else some d
      | _ => none
  | .scanEnd =>
      match d.main with
      | .scanning => some (d.goto .top)
      | _ => none
  | .readClock now =>
      match d.main with
      | .top => if d.clock ≤ now then some { d with clock := now, main := .watch now 0 } else none
      | _ => none
  | .recheck accessible =>
      match d.main with
      | .rechecking now i =>
          if (d.slots i).devPath ≠ [] ∧ accessible = true then
            some (d.goto (.registering ⟨(d.slots i).devPath, .watchdog now i⟩))
          else some (d.goto (.watch now (i + 1)))
      | _ => none
  | .lostCheck =>
      match d.main with
      | .lost i =>
          if h : i < maxSlots then
            if (d.threads ⟨i, h⟩).isNone then some (d.goto (.lost (i + 1)))
            else if d.owner.isSome then none
            else if (d.slots ⟨i, h⟩).connected then some (d.goto (.lost (i + 1)))
            else some (d.goto (.losing ⟨i, h⟩))
          else some (d.goto .polling)
      | _ => none
  | .event name =>
      match d.main with
      | .polling =>
          if strstr name "hidraw".toList then some (d.goto (.registering ⟨devNode name, .hotplug⟩))
          else some d
      | _ => none
  | .pollEnd =>
      match d.main with
      | .polling => some (d.goto .top)
      | _ => none
  | .openDevice info =>
      match d.main with
      | .registering r =>
          match info.bind fun ids => controlType ids.1 ids.2 with
          | none => some (d.goto r.caller.resume)
          | some type => some (d.goto (.checking r type))
      | _ => none
  | .shutdown =>
      match d.main with
      | .top => some (d.goto (.ending 0))
      | _ => none
  | .endNext =>
      match d.main with
      | .ending i =>
          if h : i < maxSlots then
            if (d.threads ⟨i, h⟩).isNone then some (d.goto (.ending (i + 1))) else none
          else none
      | _ => none
  | .finish =>
      match d.main with
      | .ending i =>
          if i < maxSlots then none
          else if d.owner.isSome then none
          else some { d with slots := fun i => { d.slots i with connected := false }, main := .done }
      | _ => none

/-- The moves that do. -/
inductive RegistrarMove where
  /-- The watchdog looks at the next slot. -/
  | watch
  /-- A `pthread_join` returns. -/
  | join
  /-- The load and the store of the watchdog's `mark_slot_free`. -/
  | markLoad
  | markStore
  | check (accessible : Fin maxSlots → Bool)
  | relock
  | reinit
  /-- `malloc` of the thread's arguments and `pthread_create`, with their outcomes. -/
  | create (allocated created : Bool)
  | undo

/-- **A step of the main thread on the tables.** -/
def registrarStep (move : RegistrarMove) (d : WorkerSystem) : Option WorkerSystem :=
  match move with
  | .watch =>
      match d.main with
      | .watch now i =>
          if h : i < maxSlots then some (d.watchSlot now ⟨i, h⟩) else some (d.goto (.lost 0))
      | _ => none
  | .join =>
      match d.main with
      | .stopping now i =>
          (d.join i).map fun d =>
            (d.setSlot i { d.slots i with workerStop := false, connected := false }).goto (.marking now i)
      | .losing i => (d.join i).map fun d => d.goto (.lost (i + 1))
      | .joining r type f => (d.join f).map fun d => d.goto (.relocking r type f)
      | .ending i =>
          if h : i < maxSlots then (d.join ⟨i, h⟩).map fun d => d.goto (.ending (i + 1)) else none
      | _ => none
  | .markLoad =>
      match d.main with
      | .marking now i => some (d.goto (.storing now i d.freeSlots))
      | _ => none
  | .markStore =>
      match d.main with
      | .storing now i loaded =>
          some { d with freeSlots := Function.update loaded i true, main := .rechecking now i }
      | _ => none
  | .check accessible =>
      match d.main with
      | .checking r type => if d.owner.isSome then none else some (d.check r type accessible)
      | _ => none
  | .relock =>
      match d.main with
      | .relocking r type f =>
          if d.owner.isSome then none else some { d with owner := some .main, main := .reinit r type f }
      | _ => none
  | .reinit =>
      match d.main with
      | .reinit r type f => some (d.reinit r type f)
      | _ => none
  | .create allocated created =>
      match d.main with
      | .creating r f =>
          if !allocated then some (d.goto r.caller.resume)
          else if created then
            some { d with
              workers := Function.update d.workers d.nextTid (some ⟨f, .starting⟩)
              threads := Function.update d.threads f (some d.nextTid)
              nextTid := d.nextTid + 1
              main := r.caller.resume }
          else some (d.goto (.undoing r f))
      | _ => none
  | .undo =>
      match d.main with
      | .undoing r f =>
          if d.owner.isSome then none
          else
            some { (d.disconnect f).markSlotFree f with
              threads := Function.update d.threads f none
              main := r.caller.resume }
      | _ => none

/-! ## The workers -/

/-- The moves of a worker thread. -/
inductive WorkerMove where
  /-- It enters its loop; the worker of a Switch Pro has stored its event node in `dev_path`. -/
  | ready (node : CStr)
  /-- It gives up before its loop. -/
  | fail
  /-- It stores a heartbeat: the time it is. -/
  | beat (now : UInt64)
  /-- It leaves its loop: stopped, disconnected, or after an error. -/
  | leave
  /-- The store of its `mark_slot_free`, and the end of its critical section. -/
  | store
  | exit

/-- **A step of the worker thread `t`.** -/
def workerStep (t : Nat) (move : WorkerMove) (d : WorkerSystem) : Option WorkerSystem :=
  match d.workers t with
  | none => none
  | some ⟨i, phase⟩ =>
      match move with
      | .ready node =>
          match phase with
          | .starting =>
              let s := d.slots i
              some ((d.setSlot i
                { s with devPath := if s.type = .nswPro then storedPath node else s.devPath }).setWorker t
                  (some ⟨i, .looping⟩))
          | _ => none
      | .fail =>
          match phase with
          | .starting =>
              if d.owner.isSome then none
              else
                some { (d.disconnect i).setWorker t (some ⟨i, .freeing d.freeSlots⟩) with
                  owner := some (.worker t) }
          | _ => none
      | .beat now =>
          match phase with
          | .looping =>
              if d.clock ≤ now then
                some { d.setSlot i { d.slots i with workerHeartbeat := now } with
                  clock := now
                  lastBeat := Function.update d.lastBeat t (some now) }
              else none
          | _ => none
      | .leave =>
          match phase with
          | .looping =>
              if d.owner.isSome then none
              else
                some { (d.setSlot i { d.slots i with connected := false, devPath := [] }).setWorker t
                    (some ⟨i, .freeing d.freeSlots⟩) with
                  owner := some (.worker t) }
          | _ => none
      | .store =>
          match phase with
          | .freeing loaded =>
              some { d.setWorker t (some ⟨i, .freed⟩) with
                freeSlots := Function.update loaded i true
                owner := none }
          | _ => none
      | .exit =>
          match phase with
          | .freed => some (d.setWorker t none)
          | _ => none

/-! ## The system -/

/-- Who moves. -/
inductive SystemMove where
  | main (move : MainMove)
  | registrar (move : RegistrarMove)
  | worker (t : Nat) (move : WorkerMove)
  /-- `stop_service` of a text interface disconnects every slot, under the mutex. -/
  | stopService

/-- **One step.** -/
def systemStep (move : SystemMove) (d : WorkerSystem) : Option WorkerSystem :=
  match move with
  | .main move => mainStep move d
  | .registrar move => registrarStep move d
  | .worker t move => workerStep t move d
  | .stopService =>
      if d.owner.isSome then none
      else some { d with slots := fun i => { d.slots i with connected := false } }

/-! ## Quiet steps -/

/-- A field that a write to a slot leaves alone is the same in every slot. -/
theorem apply_update {β : Type} (field : WorkerSlot → β) (slots : Fin maxSlots → WorkerSlot)
    {i : Fin maxSlots} {s : WorkerSlot} (h : field s = field (slots i)) (j : Fin maxSlots) :
    field (Function.update slots i s j) = field (slots j) := by
  by_cases hj : j = i
  · subst hj
    rw [Function.update_self]
    exact h
  · rw [Function.update_of_ne hj]

/-- An entry of a table in which one entry was replaced: the new one, or an old one. -/
theorem update_eq_some {α β : Type} [DecidableEq α] {table : α → Option β} {a b : α} {o : Option β} {x : β}
    (h : Function.update table a o b = some x) : b = a ∧ o = some x ∨ b ≠ a ∧ table b = some x := by
  by_cases hb : b = a
  · subst hb
    rw [Function.update_self] at h
    exact Or.inl ⟨rfl, h⟩
  · rw [Function.update_of_ne hb] at h
    exact Or.inr ⟨hb, h⟩

/-- The main thread is not in the middle of a change of the tables. -/
def MainPc.Plain : MainPc → Prop
  | .marking _ _ | .storing _ _ _ | .joining _ _ _ | .relocking _ _ _ | .reinit _ _ _ | .creating _ _
  | .undoing _ _ => False
  | _ => True

/-- A write that connects nothing. -/
theorem connected_update (slots : Fin maxSlots → WorkerSlot) {i : Fin maxSlots} {s : WorkerSlot}
    (h : s.connected = true → (slots i).connected = true) (j : Fin maxSlots)
    (hc : (Function.update slots i s j).connected = true) : (slots j).connected = true := by
  by_cases hj : j = i
  · subst hj
    rw [Function.update_self] at hc
    exact h hc
  · rwa [Function.update_of_ne hj] at hc

/-- A step that leaves the tables alone: slots are at most disconnected. -/
structure Calm (d d' : WorkerSystem) : Prop where
  freeSlots : d'.freeSlots = d.freeSlots
  threads : d'.threads = d.threads
  workers : d'.workers = d.workers
  nextTid : d'.nextTid = d.nextTid
  owner : d'.owner = d.owner
  lastBeat : d'.lastBeat = d.lastBeat
  main : d.main.Plain ∧ d'.main.Plain ∨ d'.main = d.main
  heartbeat : ∀ i, (d'.slots i).workerHeartbeat = (d.slots i).workerHeartbeat
  origin : ∀ i, (d'.slots i).origin = (d.slots i).origin
  connected : ∀ i, (d'.slots i).connected = true → (d.slots i).connected = true

theorem RegisterCaller.plain_resume (c : RegisterCaller) : c.resume.Plain := by
  cases c <;> trivial

theorem calm_goto {d : WorkerSystem} {pc pc' : MainPc} (hmain : d.main = pc) (h : pc.Plain)
    (h' : pc'.Plain) : Calm d (d.goto pc') :=
  ⟨rfl, rfl, rfl, rfl, rfl, rfl, Or.inl ⟨hmain ▸ h, h'⟩, fun _ => rfl, fun _ => rfl, fun _ hc => hc⟩

theorem Calm.refl (d : WorkerSystem) : Calm d d :=
  ⟨rfl, rfl, rfl, rfl, rfl, rfl, Or.inr rfl, fun _ => rfl, fun _ => rfl, fun _ hc => hc⟩

/-- All slots are disconnected. -/
theorem calm_disconnectAll (d : WorkerSystem) {pc : MainPc} (h : d.main.Plain ∧ pc.Plain ∨ pc = d.main) :
    Calm d { d with slots := fun i => { d.slots i with connected := false }, main := pc } :=
  ⟨rfl, rfl, rfl, rfl, rfl, rfl, h, fun _ => rfl, fun _ => rfl, fun _ hc => absurd hc Bool.noConfusion⟩

/-- **A quiet step of the main thread** is one. -/
theorem mainStep_calm {move : MainMove} {d d' : WorkerSystem} (h : mainStep move d = some d') :
    Calm d d' ∧ d'.stops = d.stops := by
  cases move with
  | scanEntry | event =>
      simp only [mainStep] at h
      split at h
      · rename_i hmain
        split at h
        · obtain rfl := Option.some.inj h
          exact ⟨calm_goto hmain trivial trivial, rfl⟩
        · obtain rfl := Option.some.inj h
          exact ⟨.refl d, rfl⟩
      · cases h
  | scanEnd | pollEnd | shutdown =>
      simp only [mainStep] at h
      split at h
      · rename_i hmain
        obtain rfl := Option.some.inj h
        exact ⟨calm_goto hmain trivial trivial, rfl⟩
      · cases h
  | readClock now =>
      simp only [mainStep] at h
      split at h
      · rename_i hmain
        split at h
        · obtain rfl := Option.some.inj h
          exact ⟨⟨rfl, rfl, rfl, rfl, rfl, rfl, Or.inl ⟨hmain ▸ trivial, trivial⟩, fun _ => rfl,
            fun _ => rfl, fun _ hc => hc⟩, rfl⟩
        · cases h
      · cases h
  | recheck accessible =>
      simp only [mainStep] at h
      split at h
      · rename_i hmain
        split at h <;> obtain rfl := Option.some.inj h <;>
          exact ⟨calm_goto hmain trivial trivial, rfl⟩
      · cases h
  | lostCheck =>
      simp only [mainStep] at h
      split at h
      · rename_i hmain
        split_ifs at h <;> obtain rfl := Option.some.inj h <;>
          exact ⟨calm_goto hmain trivial trivial, rfl⟩
      · cases h
  | openDevice info =>
      simp only [mainStep] at h
      split at h
      · rename_i hmain
        split at h
        · obtain rfl := Option.some.inj h
          exact ⟨calm_goto hmain trivial (RegisterCaller.plain_resume _), rfl⟩
        · obtain rfl := Option.some.inj h
          exact ⟨calm_goto hmain trivial trivial, rfl⟩
      · cases h
  | endNext =>
      simp only [mainStep] at h
      split at h
      · rename_i hmain
        split_ifs at h
        obtain rfl := Option.some.inj h
        exact ⟨calm_goto hmain trivial trivial, rfl⟩
      · cases h
  | finish =>
      simp only [mainStep] at h
      split at h
      · rename_i hmain
        split_ifs at h
        obtain rfl := Option.some.inj h
        exact ⟨calm_disconnectAll d (Or.inl ⟨hmain ▸ trivial, trivial⟩), rfl⟩
      · cases h

/-- The watchdog's look at a slot is one, apart from what it logs. -/
theorem calm_watchSlot {d : WorkerSystem} {now now' : UInt64} {i : Fin maxSlots} {k : Nat}
    (hmain : d.main = .watch now' k) : Calm d (d.watchSlot now i) := by
  unfold WorkerSystem.watchSlot
  split
  · exact calm_goto hmain trivial trivial
  · dsimp only
    split_ifs
    · exact ⟨rfl, rfl, rfl, rfl, rfl, rfl, Or.inl ⟨hmain ▸ trivial, trivial⟩,
        apply_update WorkerSlot.workerHeartbeat d.slots rfl, apply_update WorkerSlot.origin d.slots rfl,
        connected_update d.slots fun hc => hc⟩
    · exact calm_goto hmain trivial trivial

theorem calm_watch {d d' : WorkerSystem} (h : registrarStep .watch d = some d') : Calm d d' := by
  simp only [registrarStep] at h
  split at h
  · rename_i hmain
    split_ifs at h
    · obtain rfl := Option.some.inj h
      exact calm_watchSlot hmain
    · obtain rfl := Option.some.inj h
      exact calm_goto hmain trivial trivial
  · cases h

theorem calm_stopService {d d' : WorkerSystem} (h : systemStep .stopService d = some d') :
    Calm d d' ∧ d'.stops = d.stops := by
  simp only [systemStep] at h
  split_ifs at h
  obtain rfl := Option.some.inj h
  exact ⟨calm_disconnectAll d (Or.inr rfl), rfl⟩

/-! ## What the other steps do -/

/-- **A `pthread_join` has returned**: the thread of a slot had ended, and is forgotten. -/
structure Joined (d d' : WorkerSystem) (i : Fin maxSlots) : Prop where
  ended : ∃ t, d.threads i = some t ∧ d.workers t = none
  threads : d'.threads = Function.update d.threads i none
  freeSlots : d'.freeSlots = d.freeSlots
  workers : d'.workers = d.workers
  nextTid : d'.nextTid = d.nextTid
  owner : d'.owner = d.owner
  lastBeat : d'.lastBeat = d.lastBeat
  stops : d'.stops = d.stops
  main : d.main.Plain ∧ (d'.main.Plain ∨ ∃ now, d'.main = .marking now i) ∨
    ∃ r type, d.main = .joining r type i ∧ d'.main = .relocking r type i
  heartbeat : ∀ j, (d'.slots j).workerHeartbeat = (d.slots j).workerHeartbeat
  origin : ∀ j, (d'.slots j).origin = (d.slots j).origin
  connected : ∀ j, (d'.slots j).connected = true → (d.slots j).connected = true

theorem join_eq_some {d d' : WorkerSystem} {i : Fin maxSlots} (h : d.join i = some d') :
    (∃ t, d.threads i = some t ∧ d.workers t = none) ∧
      d' = { d with threads := Function.update d.threads i none } := by
  unfold WorkerSystem.join at h
  split at h
  · rename_i t ht
    split_ifs at h with hnone
    exact ⟨⟨t, ht, Option.isNone_iff_eq_none.mp hnone⟩, (Option.some.inj h).symm⟩
  · cases h

theorem joined_goto {d : WorkerSystem} {i : Fin maxSlots}
    (hended : ∃ t, d.threads i = some t ∧ d.workers t = none) {pc : MainPc}
    (hmain : d.main.Plain ∧ (pc.Plain ∨ ∃ now, pc = .marking now i) ∨
      ∃ r type, d.main = .joining r type i ∧ pc = .relocking r type i) :
    Joined d { d with threads := Function.update d.threads i none, main := pc } i :=
  ⟨hended, rfl, rfl, rfl, rfl, rfl, rfl, rfl, hmain, fun _ => rfl, fun _ => rfl, fun _ hc => hc⟩

theorem registrarStep_join {d d' : WorkerSystem} (h : registrarStep .join d = some d') :
    ∃ i, Joined d d' i := by
  simp only [registrarStep] at h
  split at h
  · -- the watchdog's: it disconnects the slot as well
    rename_i now i hmain
    obtain ⟨d₁, hjoin, rfl⟩ := Option.map_eq_some_iff.mp h
    obtain ⟨hended, rfl⟩ := join_eq_some hjoin
    refine ⟨i, hended, rfl, rfl, rfl, rfl, rfl, rfl, rfl,
      Or.inl ⟨hmain ▸ trivial, Or.inr ⟨now, rfl⟩⟩, ?_, ?_, ?_⟩
    · exact apply_update WorkerSlot.workerHeartbeat d.slots rfl
    · exact apply_update WorkerSlot.origin d.slots rfl
    · exact connected_update d.slots fun hc => absurd hc Bool.noConfusion
  · rename_i i hmain
    obtain ⟨d₁, hjoin, rfl⟩ := Option.map_eq_some_iff.mp h
    obtain ⟨hended, rfl⟩ := join_eq_some hjoin
    exact ⟨i, joined_goto hended (Or.inl ⟨hmain ▸ trivial, Or.inl trivial⟩)⟩
  · rename_i r type f hmain
    obtain ⟨d₁, hjoin, rfl⟩ := Option.map_eq_some_iff.mp h
    obtain ⟨hended, rfl⟩ := join_eq_some hjoin
    exact ⟨f, joined_goto hended (Or.inr ⟨r, type, hmain, rfl⟩)⟩
  · rename_i i hmain
    split_ifs at h with hi
    obtain ⟨d₁, hjoin, rfl⟩ := Option.map_eq_some_iff.mp h
    obtain ⟨hended, rfl⟩ := join_eq_some hjoin
    exact ⟨⟨i, hi⟩, joined_goto hended (Or.inl ⟨hmain ▸ trivial, Or.inl trivial⟩)⟩
  · cases h

/-- **The anti-ghost loop** disconnects slots and marks them free, and nothing else. -/
structure Ghosts (d d' : WorkerSystem) : Prop where
  threads : d'.threads = d.threads
  workers : d'.workers = d.workers
  nextTid : d'.nextTid = d.nextTid
  owner : d'.owner = d.owner
  lastBeat : d'.lastBeat = d.lastBeat
  stops : d'.stops = d.stops
  main : d'.main = d.main
  freeSlots : ∀ i, d.freeSlots i = true → d'.freeSlots i = true
  heartbeat : ∀ i, (d'.slots i).workerHeartbeat = (d.slots i).workerHeartbeat
  origin : ∀ i, (d'.slots i).origin = (d.slots i).origin
  devPath : ∀ i, (d'.slots i).devPath = (d.slots i).devPath
  connected : ∀ i, (d'.slots i).connected = true → (d.slots i).connected = true

theorem Ghosts.refl (d : WorkerSystem) : Ghosts d d :=
  ⟨rfl, rfl, rfl, rfl, rfl, rfl, rfl, fun _ h => h, fun _ => rfl, fun _ => rfl, fun _ => rfl,
    fun _ h => h⟩

theorem Ghosts.trans {d₁ d₂ d₃ : WorkerSystem} (h : Ghosts d₁ d₂) (h' : Ghosts d₂ d₃) : Ghosts d₁ d₃ :=
  ⟨h'.threads.trans h.threads, h'.workers.trans h.workers, h'.nextTid.trans h.nextTid,
    h'.owner.trans h.owner, h'.lastBeat.trans h.lastBeat, h'.stops.trans h.stops, h'.main.trans h.main,
    fun i hf => h'.freeSlots i (h.freeSlots i hf), fun i => (h'.heartbeat i).trans (h.heartbeat i),
    fun i => (h'.origin i).trans (h.origin i), fun i => (h'.devPath i).trans (h.devPath i),
    fun i hc => h.connected i (h'.connected i hc)⟩

theorem connected_of_disconnect {d : WorkerSystem} {i j : Fin maxSlots}
    (h : ((d.disconnect i).slots j).connected = true) : (d.slots j).connected = true ∧ j ≠ i := by
  change (Function.update d.slots i _ j).connected = true at h
  by_cases hj : j = i
  · subst hj
    rw [Function.update_self] at h
    cases h
  · rw [Function.update_of_ne hj] at h
    exact ⟨h, hj⟩

/-- A dropped slot. -/
theorem ghosts_drop (d : WorkerSystem) (i : Fin maxSlots) :
    Ghosts d ((d.disconnect i).markSlotFree i) where
  threads := rfl
  workers := rfl
  nextTid := rfl
  owner := rfl
  lastBeat := rfl
  stops := rfl
  main := rfl
  freeSlots := fun j hfree => by
    show Function.update d.freeSlots i true j = true
    by_cases hj : j = i
    · subst hj
      rw [Function.update_self]
    · rw [Function.update_of_ne hj]
      exact hfree
  heartbeat := apply_update WorkerSlot.workerHeartbeat d.slots rfl
  origin := apply_update WorkerSlot.origin d.slots rfl
  devPath := apply_update WorkerSlot.devPath d.slots rfl
  connected := fun _ hc => (connected_of_disconnect hc).1

theorem ghosts_antiGhost (path : CStr) (accessible : Fin maxSlots → Bool) (is : List (Fin maxSlots))
    (d : WorkerSystem) : Ghosts d (d.antiGhost path accessible is).1 := by
  induction is generalizing d with
  | nil => exact .refl d
  | cons i is ih =>
      unfold WorkerSystem.antiGhost
      -- in use, or dropped, or another path
      split_ifs
      · exact .refl d
      · exact (ghosts_drop d i).trans (ih _)
      · exact ih d

/-- **What the loop misses is not there**: when it has found the path nowhere in use, none of the slots
it went through is connected with that path. -/
theorem antiGhost_missed {path : CStr} {accessible : Fin maxSlots → Bool} {is : List (Fin maxSlots)}
    {d : WorkerSystem} (hmissed : (d.antiGhost path accessible is).2 = false) {i : Fin maxSlots}
    (hi : i ∈ is) (hconnected : ((d.antiGhost path accessible is).1.slots i).connected = true) :
    (d.slots i).devPath ≠ path := by
  induction is generalizing d with
  | nil => cases hi
  | cons k is ih =>
      unfold WorkerSystem.antiGhost at hmissed hconnected
      split_ifs at hmissed hconnected with hfound haccessible
      · -- slot `k` was dropped
        have hghosts := ghosts_antiGhost path accessible is ((d.disconnect k).markSlotFree k)
        obtain ⟨-, hne⟩ : (d.slots i).connected = true ∧ i ≠ k :=
          connected_of_disconnect (hghosts.connected i hconnected)
        have hrest : i ∈ is := (List.mem_cons.mp hi).resolve_left hne
        rw [← (ghosts_drop d k).devPath i]
        exact ih hmissed hrest hconnected
      · rcases List.mem_cons.mp hi with rfl | hrest
        · have hbefore := (ghosts_antiGhost path accessible is d).connected i hconnected
          exact fun hpath => hfound ⟨hbefore, hpath⟩
        · exact ih hmissed hrest hconnected

/-! ## Every step of the main thread on the tables -/

/-- **What such a step comes to.**  The first critical section of `try_register_control` goes back to the
caller; or it takes a slot that is free, to wait for its last thread, or to initialise it at once. -/
inductive RegistrarStepped (d : WorkerSystem) : RegistrarMove → WorkerSystem → Prop
  | watch {d' : WorkerSystem} : Calm d d' → RegistrarStepped d .watch d'
  | join {d' : WorkerSystem} {i : Fin maxSlots} : Joined d d' i → RegistrarStepped d .join d'
  | markLoad {now : UInt64} {i : Fin maxSlots} : d.main = .marking now i →
      RegistrarStepped d .markLoad (d.goto (.storing now i d.freeSlots))
  | markStore {now : UInt64} {i : Fin maxSlots} {loaded : Bitmap} : d.main = .storing now i loaded →
      RegistrarStepped d .markStore
        { d with freeSlots := Function.update loaded i true, main := .rechecking now i }
  | checkBack {accessible : Fin maxSlots → Bool} {r : Registration} {type : ControllerType}
      {g : WorkerSystem} : d.main = .checking r type → d.owner = none → Ghosts d g →
      RegistrarStepped d (.check accessible) (g.goto r.caller.resume)
  | checkWait {accessible : Fin maxSlots → Bool} {r : Registration} {type : ControllerType}
      {g : WorkerSystem} {f : Fin maxSlots} : d.main = .checking r type → d.owner = none → Ghosts d g →
      (∀ i, (g.slots i).connected = true → (d.slots i).devPath ≠ r.path) →
      RegistrarStepped d (.check accessible) (g.goto (.joining r type f))
  | checkTake {accessible : Fin maxSlots → Bool} {r : Registration} {type : ControllerType}
      {g : WorkerSystem} {f : Fin maxSlots} : d.main = .checking r type → d.owner = none → Ghosts d g →
      (∀ i, (g.slots i).connected = true → (d.slots i).devPath ≠ r.path) → d.threads f = none →
      RegistrarStepped d (.check accessible) { g with owner := some .main, main := .reinit r type f }
  | relock {r : Registration} {type : ControllerType} {f : Fin maxSlots} :
      d.main = .relocking r type f → d.owner = none →
      RegistrarStepped d .relock { d with owner := some .main, main := .reinit r type f }
  | reinit {r : Registration} {type : ControllerType} {f : Fin maxSlots} : d.main = .reinit r type f →
      RegistrarStepped d .reinit (d.reinit r type f)
  /-- `malloc` failed. -/
  | createNothing {created : Bool} {r : Registration} {f : Fin maxSlots} : d.main = .creating r f →
      RegistrarStepped d (.create false created) (d.goto r.caller.resume)
  | create {r : Registration} {f : Fin maxSlots} : d.main = .creating r f →
      RegistrarStepped d (.create true true)
        { d with
          workers := Function.update d.workers d.nextTid (some ⟨f, .starting⟩)
          threads := Function.update d.threads f (some d.nextTid)
          nextTid := d.nextTid + 1
          main := r.caller.resume }
  /-- `pthread_create` failed. -/
  | createFailed {r : Registration} {f : Fin maxSlots} : d.main = .creating r f →
      RegistrarStepped d (.create true false) (d.goto (.undoing r f))
  | undo {r : Registration} {f : Fin maxSlots} : d.main = .undoing r f → d.owner = none →
      RegistrarStepped d .undo
        { (d.disconnect f).markSlotFree f with
          threads := Function.update d.threads f none
          main := r.caller.resume }

theorem eq_none_of_not_isSome {α : Type} {o : Option α} (h : ¬o.isSome = true) : o = none := by
  cases o with
  | none => rfl
  | some a => exact absurd rfl h

/-- **The first critical section** is such a step. -/
theorem check_stepped {d : WorkerSystem} {r : Registration} {type : ControllerType}
    (hmain : d.main = .checking r type) (hnone : d.owner = none) (accessible : Fin maxSlots → Bool) :
    RegistrarStepped d (.check accessible) (d.check r type accessible) := by
  have hghosts := ghosts_antiGhost r.path accessible (List.finRange maxSlots) d
  unfold WorkerSystem.check
  dsimp only
  split_ifs with hfound
  · exact .checkBack hmain hnone hghosts
  · have hmissed : ∀ i,
        ((d.antiGhost r.path accessible (List.finRange maxSlots)).1.slots i).connected = true →
          (d.slots i).devPath ≠ r.path := by
      intro i hi
      exact antiGhost_missed (Bool.eq_false_of_not_eq_true hfound) (List.mem_finRange i) hi
    split
    · exact .checkBack hmain hnone hghosts
    · split
      · exact .checkWait hmain hnone hghosts hmissed
      · rename_i hthread
        exact .checkTake hmain hnone hghosts hmissed hthread

/-- **Every step** is. -/
theorem registrarStep_stepped {move : RegistrarMove} {d d' : WorkerSystem}
    (h : registrarStep move d = some d') : RegistrarStepped d move d' := by
  cases move with
  | watch => exact .watch (calm_watch h)
  | join =>
      obtain ⟨i, hjoin⟩ := registrarStep_join h
      exact .join hjoin
  | markLoad =>
      simp only [registrarStep] at h
      split at h
      · rename_i hmain
        obtain rfl := Option.some.inj h
        exact .markLoad hmain
      · cases h
  | markStore =>
      simp only [registrarStep] at h
      split at h
      · rename_i hmain
        obtain rfl := Option.some.inj h
        exact .markStore hmain
      · cases h
  | check accessible =>
      simp only [registrarStep] at h
      split at h
      · rename_i hmain
        split_ifs at h with hheld
        obtain rfl := Option.some.inj h
        exact check_stepped hmain (eq_none_of_not_isSome hheld) accessible
      · cases h
  | relock =>
      simp only [registrarStep] at h
      split at h
      · rename_i hmain
        split_ifs at h with hheld
        obtain rfl := Option.some.inj h
        exact .relock hmain (eq_none_of_not_isSome hheld)
      · cases h
  | reinit =>
      simp only [registrarStep] at h
      split at h
      · rename_i hmain
        obtain rfl := Option.some.inj h
        exact .reinit hmain
      · cases h
  | create allocated created =>
      simp only [registrarStep] at h
      split at h
      · rename_i hmain
        -- one case for each pair of outcomes
        cases allocated with
        | false =>
            obtain rfl := Option.some.inj h
            exact .createNothing hmain
        | true =>
            cases created with
            | true =>
                obtain rfl := Option.some.inj h
                exact .create hmain
            | false =>
                obtain rfl := Option.some.inj h
                exact .createFailed hmain
      · cases h
  | undo =>
      simp only [registrarStep] at h
      split at h
      · rename_i hmain
        split_ifs at h with hheld
        obtain rfl := Option.some.inj h
        exact .undo hmain (eq_none_of_not_isSome hheld)
      · cases h

/-! ## Every step of a worker -/

/-- **What a step of the worker thread `t` comes to.** -/
inductive WorkerCase (d : WorkerSystem) (t : Nat) : WorkerMove → WorkerSystem → Prop
  | ready {i : Fin maxSlots} {node : CStr} : d.workers t = some ⟨i, .starting⟩ →
      WorkerCase d t (.ready node)
        ((d.setSlot i
            { d.slots i with
              devPath :=
                if (d.slots i).type = .nswPro then storedPath node else (d.slots i).devPath }).setWorker
          t (some ⟨i, .looping⟩))
  | fail {i : Fin maxSlots} : d.workers t = some ⟨i, .starting⟩ → d.owner = none →
      WorkerCase d t .fail
        { (d.disconnect i).setWorker t (some ⟨i, .freeing d.freeSlots⟩) with owner := some (.worker t) }
  | beat {i : Fin maxSlots} {now : UInt64} : d.workers t = some ⟨i, .looping⟩ → d.clock ≤ now →
      WorkerCase d t (.beat now)
        { d.setSlot i { d.slots i with workerHeartbeat := now } with
          clock := now
          lastBeat := Function.update d.lastBeat t (some now) }
  | leave {i : Fin maxSlots} : d.workers t = some ⟨i, .looping⟩ → d.owner = none →
      WorkerCase d t .leave
        { (d.setSlot i { d.slots i with connected := false, devPath := [] }).setWorker t
            (some ⟨i, .freeing d.freeSlots⟩) with
          owner := some (.worker t) }
  | store {i : Fin maxSlots} {loaded : Bitmap} : d.workers t = some ⟨i, .freeing loaded⟩ →
      WorkerCase d t .store
        { d.setWorker t (some ⟨i, .freed⟩) with
          freeSlots := Function.update loaded i true
          owner := none }
  | exit {i : Fin maxSlots} : d.workers t = some ⟨i, .freed⟩ → WorkerCase d t .exit (d.setWorker t none)

theorem workerStep_case {t : Nat} {move : WorkerMove} {d d' : WorkerSystem}
    (h : workerStep t move d = some d') : WorkerCase d t move d' := by
  unfold workerStep at h
  split at h
  · cases h
  rename_i i phase halive
  cases move with
  | ready node =>
      simp only at h
      split at h
      · obtain rfl := Option.some.inj h
        exact .ready halive
      · cases h
  | fail =>
      simp only at h
      split at h
      · split_ifs at h with hheld
        obtain rfl := Option.some.inj h
        exact .fail halive (eq_none_of_not_isSome hheld)
      · cases h
  | beat now =>
      simp only at h
      split at h
      · split_ifs at h with hclock
        obtain rfl := Option.some.inj h
        exact .beat halive hclock
      · cases h
  | leave =>
      simp only at h
      split at h
      · split_ifs at h with hheld
        obtain rfl := Option.some.inj h
        exact .leave halive (eq_none_of_not_isSome hheld)
      · cases h
  | store =>
      simp only at h
      split at h
      · obtain rfl := Option.some.inj h
        exact .store halive
      · cases h
  | exit =>
      simp only at h
      split at h
      · obtain rfl := Option.some.inj h
        exact .exit halive
      · cases h

/-- **A worker's step** changes its own record only, and not its slot there. -/
structure WorkerStepped (d d' : WorkerSystem) (t : Nat) (i : Fin maxSlots) (record : Option Worker) :
    Prop where
  alive : ∃ phase, d.workers t = some ⟨i, phase⟩
  workers : d'.workers = Function.update d.workers t record
  slot : ∀ w, record = some w → w.slot = i
  threads : d'.threads = d.threads
  nextTid : d'.nextTid = d.nextTid
  main : d'.main = d.main
  stops : d'.stops = d.stops
  origin : ∀ j, (d'.slots j).origin = (d.slots j).origin
  connected : ∀ j, (d'.slots j).connected = true → (d.slots j).connected = true

theorem workerStep_stepped {t : Nat} {move : WorkerMove} {d d' : WorkerSystem}
    (h : workerStep t move d = some d') : ∃ i record, WorkerStepped d d' t i record := by
  have hown : ∀ (i : Fin maxSlots) (w : Worker) (phase : WorkerPhase),
      some (⟨i, phase⟩ : Worker) = some w → w.slot = i := by
    intro i w phase hw
    obtain rfl := Option.some.inj hw
    rfl
  cases workerStep_case h with
  | @ready i node halive =>
      exact ⟨i, _, ⟨_, halive⟩, rfl, fun w hw => hown i w _ hw, rfl, rfl, rfl, rfl,
        apply_update WorkerSlot.origin d.slots rfl, connected_update d.slots fun hc => hc⟩
  | @fail i halive hnone | @leave i halive hnone =>
      exact ⟨i, _, ⟨_, halive⟩, rfl, fun w hw => hown i w _ hw, rfl, rfl, rfl, rfl,
        apply_update WorkerSlot.origin d.slots rfl,
        connected_update d.slots fun hc => absurd hc Bool.noConfusion⟩
  | @beat i now halive hclock =>
      -- the record stays
      refine ⟨i, d.workers t, ⟨_, halive⟩, (Function.update_eq_self t d.workers).symm, fun w hw => ?_,
        rfl, rfl, rfl, rfl, apply_update WorkerSlot.origin d.slots rfl,
        connected_update d.slots fun hc => hc⟩
      rw [halive] at hw
      exact hown i w _ hw
  | @store i loaded halive =>
      exact ⟨i, _, ⟨_, halive⟩, rfl, fun w hw => hown i w _ hw, rfl, rfl, rfl, rfl, fun _ => rfl,
        fun _ hc => hc⟩
  | @exit i halive =>
      refine ⟨i, none, ⟨_, halive⟩, rfl, fun w hw => ?_, rfl, rfl, rfl, rfl, fun _ => rfl, fun _ hc => hc⟩
      cases hw

/-! ## Threads and workers -/

/-- The slot that the main thread is about to start a worker on, with no thread on it. -/
def MainPc.vacant : MainPc → Option (Fin maxSlots)
  | .relocking _ _ f | .reinit _ _ f | .creating _ f | .undoing _ f => some f
  | _ => none

theorem MainPc.Plain.vacant {pc : MainPc} (h : pc.Plain) : pc.vacant = none := by
  cases pc <;> first | rfl | exact h.elim

/-- **The thread table is right**: every live worker is the thread of its slot, thread numbers from
`nextTid` on are unused, and a slot that is about to get a worker has no thread. -/
structure ThreadsRight (d : WorkerSystem) : Prop where
  thread : ∀ t w, d.workers t = some w → d.threads w.slot = some t
  fresh : ∀ t, d.nextTid ≤ t → d.workers t = none
  vacant : ∀ f, d.main.vacant = some f → d.threads f = none

section ThreadsRight

variable {d d' : WorkerSystem}

/-- **Two live workers of one slot are the same thread.** -/
theorem ThreadsRight.unique (h : ThreadsRight d) {t t' : Nat} {w w' : Worker} (ht : d.workers t = some w)
    (ht' : d.workers t' = some w') (hslot : w.slot = w'.slot) : t = t' := by
  have hthread := h.thread t w ht
  rw [hslot, h.thread t' w' ht'] at hthread
  exact (Option.some.inj hthread).symm

/-- A slot without a thread has no live worker. -/
theorem ThreadsRight.no_worker (h : ThreadsRight d) {f : Fin maxSlots} (hnone : d.threads f = none)
    {t : Nat} {w : Worker} (ht : d.workers t = some w) : w.slot ≠ f := by
  rintro rfl
  rw [h.thread t w ht] at hnone
  cases hnone

/-- Nor has one whose thread has ended. -/
theorem ThreadsRight.no_worker_of_ended (h : ThreadsRight d) {f : Fin maxSlots}
    (hended : ∃ t, d.threads f = some t ∧ d.workers t = none) {t : Nat} {w : Worker}
    (ht : d.workers t = some w) : w.slot ≠ f := by
  rintro rfl
  obtain ⟨t', hthread, hnone⟩ := hended
  rw [h.thread t w ht] at hthread
  obtain rfl := Option.some.inj hthread
  rw [ht] at hnone
  cases hnone

/-- The tables are the same, and so is the slot that is about to get a worker, if any. -/
theorem ThreadsRight.congr (h : ThreadsRight d) (hthreads : d'.threads = d.threads)
    (hworkers : d'.workers = d.workers) (htid : d'.nextTid = d.nextTid)
    (hvacant : ∀ f, d'.main.vacant = some f → d.threads f = none) : ThreadsRight d' where
  thread := fun t w ht => by
    rw [hworkers] at ht
    rw [hthreads]
    exact h.thread t w ht
  fresh := fun t hle => by
    rw [hworkers]
    rw [htid] at hle
    exact h.fresh t hle
  vacant := fun f hf => by
    rw [hthreads]
    exact hvacant f hf

theorem ThreadsRight.calm (h : ThreadsRight d) (hcalm : Calm d d') : ThreadsRight d' := by
  refine h.congr hcalm.threads hcalm.workers hcalm.nextTid fun f hf => ?_
  rcases hcalm.main with ⟨-, hplain⟩ | hmain
  · rw [hplain.vacant] at hf
    cases hf
  · rw [hmain] at hf
    exact h.vacant f hf

theorem ThreadsRight.joined (h : ThreadsRight d) {i : Fin maxSlots} (hjoin : Joined d d' i) :
    ThreadsRight d' where
  thread := fun t w ht => by
    rw [hjoin.workers] at ht
    rw [hjoin.threads, Function.update_of_ne (h.no_worker_of_ended hjoin.ended ht)]
    exact h.thread t w ht
  fresh := fun t hle => by
    rw [hjoin.workers]
    rw [hjoin.nextTid] at hle
    exact h.fresh t hle
  vacant := fun f hf => by
    -- the slot that was waited for is the one that is vacant now
    rcases hjoin.main with ⟨-, hplain | ⟨now, hmain⟩⟩ | ⟨r, type, -, hmain⟩
    · rw [hplain.vacant] at hf
      cases hf
    · rw [hmain] at hf
      cases hf
    · rw [hmain] at hf
      obtain rfl := Option.some.inj hf
      rw [hjoin.threads, Function.update_self]

/-- A worker's record changes or goes. -/
theorem ThreadsRight.worker (h : ThreadsRight d) {t : Nat} {i : Fin maxSlots} {record : Option Worker}
    (hstep : WorkerStepped d d' t i record) : ThreadsRight d' where
  thread := fun t' w ht' => by
    rw [hstep.workers] at ht'
    rw [hstep.threads]
    rcases update_eq_some ht' with ⟨rfl, hnew⟩ | ⟨-, hold⟩
    · obtain ⟨phase, halive⟩ := hstep.alive
      rw [hstep.slot w hnew]
      exact h.thread t' _ halive
    · exact h.thread t' w hold
  fresh := fun t' hle => by
    rw [hstep.nextTid] at hle
    obtain ⟨phase, halive⟩ := hstep.alive
    have hne : t' ≠ t := by
      rintro rfl
      rw [h.fresh t' hle] at halive
      cases halive
    rw [hstep.workers, Function.update_of_ne hne]
    exact h.fresh t' hle
  vacant := fun f hf => by
    rw [hstep.main] at hf
    rw [hstep.threads]
    exact h.vacant f hf

/-- A new worker. -/
theorem ThreadsRight.create (h : ThreadsRight d) {f : Fin maxSlots} (hnone : d.threads f = none)
    {pc : MainPc} (hplain : pc.Plain) :
    ThreadsRight { d with
      workers := Function.update d.workers d.nextTid (some ⟨f, .starting⟩)
      threads := Function.update d.threads f (some d.nextTid)
      nextTid := d.nextTid + 1
      main := pc } where
  thread := fun t w ht => by
    change Function.update d.workers d.nextTid _ t = some w at ht
    show Function.update d.threads f _ w.slot = some t
    rcases update_eq_some ht with ⟨rfl, hnew⟩ | ⟨-, hold⟩
    · obtain rfl := Option.some.inj hnew
      exact Function.update_self ..
    · rw [Function.update_of_ne (h.no_worker hnone hold)]
      exact h.thread t w hold
  fresh := fun t hle => by
    change d.nextTid + 1 ≤ t at hle
    show Function.update d.workers d.nextTid _ t = none
    rw [Function.update_of_ne (by omega)]
    exact h.fresh t (by omega)
  vacant := fun f' hf' => by
    change pc.vacant = some f' at hf'
    rw [hplain.vacant] at hf'
    cases hf'

/-- **One step** keeps the thread table right. -/
theorem ThreadsRight.step (h : ThreadsRight d) {move : SystemMove} (hstep : systemStep move d = some d') :
    ThreadsRight d' := by
  cases move with
  | main move => exact h.calm (mainStep_calm hstep).1
  | stopService => exact h.calm (calm_stopService hstep).1
  | worker t move =>
      obtain ⟨i, record, hworker⟩ := workerStep_stepped hstep
      exact h.worker hworker
  | registrar move =>
      have hresume : ∀ (c : RegisterCaller) (f : Fin maxSlots), c.resume.vacant = some f → False := by
        intro c f hf
        rw [c.plain_resume.vacant] at hf
        cases hf
      cases registrarStep_stepped hstep with
      | watch hcalm => exact h.calm hcalm
      | join hjoin => exact h.joined hjoin
      | markLoad | markStore => exact h.congr rfl rfl rfl fun f hf => by cases hf
      | checkBack _ _ hghosts =>
          exact h.congr hghosts.threads hghosts.workers hghosts.nextTid fun f hf => (hresume _ f hf).elim
      | checkWait _ _ hghosts =>
          exact h.congr hghosts.threads hghosts.workers hghosts.nextTid fun f hf => by cases hf
      | checkTake _ _ hghosts _ hnone =>
          refine h.congr hghosts.threads hghosts.workers hghosts.nextTid fun f' hf' => ?_
          obtain rfl := Option.some.inj hf'
          exact hnone
      | relock hmain | reinit hmain =>
          -- the slot stays without a thread until its worker starts
          refine h.congr rfl rfl rfl fun f' hf' => h.vacant f' ?_
          rw [hmain]
          exact hf'
      | createNothing => exact h.congr rfl rfl rfl fun f hf => (hresume _ f hf).elim
      | @create r f hmain =>
          have hnone : d.threads f = none := h.vacant f (by rw [hmain]; rfl)
          exact h.create hnone r.caller.plain_resume
      | createFailed hmain =>
          refine h.congr rfl rfl rfl fun f' hf' => h.vacant f' ?_
          rw [hmain]
          exact hf'
      | @undo r f hmain =>
          -- `threads[f]` was 0 already
          have hnone : d.threads f = none := h.vacant f (by rw [hmain]; rfl)
          have hsame : Function.update d.threads f none = d.threads := by
            rw [← hnone]
            exact Function.update_eq_self f d.threads
          exact h.congr hsame rfl rfl fun f' hf' => (hresume _ f' hf').elim

end ThreadsRight

theorem threadsRight_initialWorkers (slots : Fin maxSlots → WorkerSlot) (clock : UInt64) :
    ThreadsRight (initialWorkers slots clock) := by
  refine ⟨fun t w ht => ?_, fun _ _ => rfl, fun f hf => ?_⟩
  · cases ht
  · cases hf

/-! ## A daemon to run -/

/-- The start of a daemon on a zeroed shared memory. -/
def exampleWorkers : WorkerSystem :=
  initialWorkers
    (fun _ =>
      { connected := false
        type := .ds4
        devPath := []
        workerHeartbeat := 0
        workerStop := false
        origin := [] })
    0

/-- The moves that register a DS4 and start its worker. -/
def registerDs4 (dName : CStr) : List SystemMove :=
  [.main (.scanEntry dName), .main (.openDevice (some (0x054c, 0x09cc))),
    .registrar (.check fun _ => true), .registrar .reinit, .registrar (.create true true)]

end Dstx
