/-
# Dstx.Daemon.Recreate — is a device registered again after the watchdog stopped its worker?

When a heartbeat has expired the watchdog stops the worker, waits for it, and then looks at the slot's
`dev_path`, to register the device anew if its node is still there.  But the worker that it waited for has
cleared `dev_path` in its clean-up, under the mutex, just before it ended; so the path the watchdog reads is
ALWAYS empty, whatever slot it is, and `try_register_control` is never called.  (If it were, its `path`
argument would point into the slot that it zeroes.)

`PathsCleared` is the fact about all reachable states that this rests on: a worker that has stored a
heartbeat is in its loop, or its slot has no path.  `watchdog_registers_again_iff` is the outcome of a whole
step of the watchdog, with any moves of the other threads in between: the device is registered afterwards
exactly when it was in ANOTHER slot, too, and that slot was left alone.
-/
import Dstx.Daemon.Watchdog

namespace Dstx

open Dstx.Lib

/-! ## The step and its outcome -/

/-- The main thread is inside the watchdog's step on a slot: it has not come back to the loop. -/
def insideStep (_ : SystemMove) (d : WorkerSystem) : Bool :=
  match d.main with
  | .watch _ _ => false
  | _ => true

/-- **The watchdog stops the worker of slot `i`**: from its look at the slot, through any moves of any
thread, until it is back in its loop. -/
structure WatchdogStep (d : WorkerSystem) (now : UInt64) (i : Fin maxSlots) (moves : List SystemMove)
    (d' : WorkerSystem) : Prop where
  look : d.main = .watch now i
  thread : d.threads i ≠ none
  stored : (d.slots i).workerHeartbeat ≠ 0
  expired : now - (d.slots i).workerHeartbeat > workerHeartbeatTimeoutUs
  steps : exec (checked insideStep systemStep) moves (d.watchSlot now i) = some d'
  back : d'.main = .watch now (i + 1)

/-- **The device is registered**: some slot is connected with the path. -/
def Registered (d : WorkerSystem) (path : CStr) : Prop :=
  ∃ j, (d.slots j).connected = true ∧ (d.slots j).devPath = path

/-- What a worker's move does to the record of its slot. -/
def WorkerMove.onSlot (move : WorkerMove) (s : WorkerSlot) : WorkerSlot :=
  match move with
  | .ready node => { s with devPath := if s.type = .nswPro then storedPath node else s.devPath }
  | .fail => { s with connected := false }
  | .beat now => { s with workerHeartbeat := now }
  | .leave => { s with connected := false, devPath := [] }
  | .store => s
  | .exit => s

/-- What a move of another thread does to the record of a slot with the thread `thread`. -/
def SystemMove.onSlot (move : SystemMove) (thread : Option Nat) (s : WorkerSlot) : WorkerSlot :=
  match move with
  | .worker t move => if thread = some t then move.onSlot s else s
  | .stopService => { s with connected := false }
  | _ => s

/-- The record after some moves of other threads. -/
def slotAfter (thread : Option Nat) (moves : List SystemMove) (s : WorkerSlot) : WorkerSlot :=
  moves.foldl (fun s move => move.onSlot thread s) s

/-- **The condition**: another slot than `i` has the path, and is connected with it when the other threads
have made their moves. -/
def HeldElsewhere (d : WorkerSystem) (i : Fin maxSlots) (moves : List SystemMove) (path : CStr) : Prop :=
  ∃ j, j ≠ i ∧
    (slotAfter (d.threads j) moves (d.slots j)).connected = true ∧
    (slotAfter (d.threads j) moves (d.slots j)).devPath = path

/-! ## What the moves do to the slots -/

section

variable {d d' : WorkerSystem}

/-- A worker changes its own slot, which is the one that has its thread. -/
theorem update_of_thread (hthreads : ThreadsRight d) (hbeats : BeatsRight d) {t : Nat} {i : Fin maxSlots}
    {phase : WorkerPhase} (halive : d.workers t = some ⟨i, phase⟩) (f : WorkerSlot → WorkerSlot)
    (j : Fin maxSlots) :
    Function.update d.slots i (f (d.slots i)) j =
      if d.threads j = some t then f (d.slots j) else d.slots j := by
  have hthread : d.threads i = some t := hthreads.thread t _ halive
  by_cases hj : j = i
  · subst hj
    rw [Function.update_self, if_pos hthread]
  · have hother : d.threads j ≠ some t := fun hsame => hj (hbeats.distinct j i t hsame hthread)
    rw [Function.update_of_ne hj, if_neg hother]

/-- A worker's move, on all slots. -/
theorem slots_workerStep (hthreads : ThreadsRight d) (hbeats : BeatsRight d) {t : Nat} {move : WorkerMove}
    (h : workerStep t move d = some d') (j : Fin maxSlots) :
    d'.slots j = (SystemMove.worker t move).onSlot (d.threads j) (d.slots j) := by
  have hwrite : ∀ {i phase}, d.workers t = some ⟨i, phase⟩ →
      Function.update d.slots i (move.onSlot (d.slots i)) j =
        (SystemMove.worker t move).onSlot (d.threads j) (d.slots j) :=
    fun halive => update_of_thread hthreads hbeats halive move.onSlot j
  cases workerStep_case h with
  | ready halive | fail halive | beat halive | leave halive => exact hwrite halive
  | store halive | exit halive => exact (ite_self (d.slots j)).symm

/-- A quiet step of the main thread keeps the paths. -/
theorem devPath_mainStep {move : MainMove} (h : mainStep move d = some d') (j : Fin maxSlots) :
    (d'.slots j).devPath = (d.slots j).devPath := by
  cases move with
  | scanEnd | pollEnd | shutdown =>
      simp only [mainStep] at h
      split at h
      · obtain rfl := Option.some.inj h
        rfl
      · cases h
  | openDevice info =>
      simp only [mainStep] at h
      split at h
      · split at h <;> obtain rfl := Option.some.inj h <;> rfl
      · cases h
  | _ =>
      simp only [mainStep] at h
      split at h
      · split_ifs at h <;> obtain rfl := Option.some.inj h <;> rfl
      · cases h

/-- So does the watchdog's look at a slot. -/
theorem devPath_watch (h : registrarStep .watch d = some d') :
    ∀ j, (d'.slots j).devPath = (d.slots j).devPath := by
  simp only [registrarStep] at h
  split at h
  · split_ifs at h
    · obtain rfl := Option.some.inj h
      unfold WorkerSystem.watchSlot
      split
      · exact fun _ => rfl
      · dsimp only
        split_ifs
        · exact apply_update WorkerSlot.devPath d.slots rfl
        · exact fun _ => rfl
    · obtain rfl := Option.some.inj h
      exact fun _ => rfl
  · cases h

/-- So does the end of a waiting. -/
theorem devPath_join (h : registrarStep .join d = some d') :
    ∀ j, (d'.slots j).devPath = (d.slots j).devPath := by
  simp only [registrarStep] at h
  split at h
  · obtain ⟨d₁, hjoin, rfl⟩ := Option.map_eq_some_iff.mp h
    obtain ⟨-, rfl⟩ := join_eq_some hjoin
    exact apply_update WorkerSlot.devPath d.slots rfl
  · obtain ⟨d₁, hjoin, rfl⟩ := Option.map_eq_some_iff.mp h
    obtain ⟨-, rfl⟩ := join_eq_some hjoin
    exact fun _ => rfl
  · obtain ⟨d₁, hjoin, rfl⟩ := Option.map_eq_some_iff.mp h
    obtain ⟨-, rfl⟩ := join_eq_some hjoin
    exact fun _ => rfl
  · split_ifs at h
    obtain ⟨d₁, hjoin, rfl⟩ := Option.map_eq_some_iff.mp h
    obtain ⟨-, rfl⟩ := join_eq_some hjoin
    exact fun _ => rfl
  · cases h

end

/-! ## The paths of stopped workers -/

/-- **Paths are cleared**: a thread that has stored a heartbeat is in its loop; or it has left the loop,
and its slot has no path any more. -/
def PathsCleared (d : WorkerSystem) : Prop :=
  ∀ i t, d.threads i = some t → d.lastBeat t ≠ none →
    d.workers t = some ⟨i, .looping⟩ ∨
      ((d.slots i).devPath = [] ∧ ∀ w, d.workers t = some w → w.phase ≠ .starting)

section

variable {d d' : WorkerSystem}

/-- What a step keeps of the threads there are, and of their slots. -/
theorem PathsCleared.congr (h : PathsCleared d)
    (hkeep : ∀ i t, d'.threads i = some t → d'.lastBeat t ≠ none →
      d.threads i = some t ∧ d'.workers t = d.workers t ∧ d'.lastBeat t = d.lastBeat t ∧
        (d'.slots i).devPath = (d.slots i).devPath) : PathsCleared d' := by
  intro i t hthread hbeat
  obtain ⟨hold, hworker, hlast, hpath⟩ := hkeep i t hthread hbeat
  rw [hworker, hpath]
  exact h i t hold (hlast ▸ hbeat)

/-- Threads may go, where nothing else happens to the others. -/
theorem PathsCleared.forget (h : PathsCleared d)
    (hthreads : ∀ i t, d'.threads i = some t → d.threads i = some t) (hworkers : d'.workers = d.workers)
    (hlast : d'.lastBeat = d.lastBeat) (hpath : ∀ i, (d'.slots i).devPath = (d.slots i).devPath) :
    PathsCleared d' :=
  h.congr fun i t hthread _ => ⟨hthreads i t hthread, by rw [hworkers], by rw [hlast], hpath i⟩

/-- **A worker's step.** -/
theorem PathsCleared.worker (h : PathsCleared d) (hthreads : ThreadsRight d) (hbeats : BeatsRight d)
    {t : Nat} {move : WorkerMove} (hstep : workerStep t move d = some d') : PathsCleared d' := by
  have hslots := slots_workerStep hthreads hbeats hstep
  obtain ⟨_, record, hworker⟩ := workerStep_stepped hstep
  intro j t' hthread hbeat
  rw [hworker.threads] at hthread
  by_cases ht : t' = t
  · -- the worker itself
    subst ht
    have hslot : d'.slots j = move.onSlot (d.slots j) := (hslots j).trans (if_pos hthread)
    have hown : ∀ {i phase}, d.workers t' = some ⟨i, phase⟩ → i = j := fun halive =>
      hbeats.distinct _ _ _ (hthreads.thread t' _ halive) hthread
    have hrecord : ∀ {record : Option Worker}, (∀ w, record = some w → w.phase ≠ .starting) →
        ∀ w, Function.update d.workers t' record t' = some w → w.phase ≠ .starting := by
      intro record hphase w hw
      rw [Function.update_self] at hw
      exact hphase w hw
    cases workerStep_case hstep with
    | @ready i node halive =>
        obtain rfl := hown halive
        exact Or.inl (Function.update_self ..)
    | @fail i halive hnone =>
        -- a worker that has stored a heartbeat does not start
        rcases h j t' hthread hbeat with hloops | ⟨-, hphase⟩
        · cases hloops.symm.trans halive
        · exact absurd rfl (hphase _ halive)
    | @beat i now halive hclock =>
        obtain rfl := hown halive
        exact Or.inl halive
    | @leave i halive hnone =>
        refine Or.inr ⟨by rw [hslot]; rfl, hrecord (fun w hw => ?_)⟩
        obtain rfl := Option.some.inj hw
        exact WorkerPhase.noConfusion
    | @store i loaded halive =>
        rcases h j t' hthread hbeat with hloops | ⟨hpath, -⟩
        · cases hloops.symm.trans halive
        · refine Or.inr ⟨hpath, hrecord (fun w hw => ?_)⟩
          obtain rfl := Option.some.inj hw
          exact WorkerPhase.noConfusion
    | @exit i halive =>
        rcases h j t' hthread hbeat with hloops | ⟨hpath, -⟩
        · cases hloops.symm.trans halive
        · refine Or.inr ⟨hpath, hrecord (fun w hw => ?_)⟩
          cases hw
  · -- another thread, and its slot
    have hother : d.threads j ≠ some t := fun hsame =>
      ht (Option.some.inj (hthread.symm.trans hsame))
    have hslot : d'.slots j = d.slots j := (hslots j).trans (if_neg hother)
    have hrecord : d'.workers t' = d.workers t' := by
      rw [hworker.workers, Function.update_of_ne ht]
    have hlast : d'.lastBeat t' = d.lastBeat t' := by
      cases workerStep_case hstep with
      | beat => exact Function.update_of_ne ht ..
      | _ => rfl
    rw [hlast] at hbeat
    rw [hrecord, hslot]
    exact h j t' hthread hbeat

/-- **One step** keeps the paths cleared. -/
theorem PathsCleared.step (h : PathsCleared d) (hthreads : ThreadsRight d) (hbeats : BeatsRight d)
    {move : SystemMove} (hstep : systemStep move d = some d') : PathsCleared d' := by
  cases move with
  | main move =>
      have hcalm := (mainStep_calm hstep).1
      exact h.forget (fun _ _ ht => hcalm.threads ▸ ht) hcalm.workers hcalm.lastBeat
        (devPath_mainStep hstep)
  | stopService =>
      simp only [systemStep] at hstep
      split_ifs at hstep
      obtain rfl := Option.some.inj hstep
      exact h.forget (fun _ _ ht => ht) rfl rfl fun _ => rfl
  | worker t move => exact h.worker hthreads hbeats hstep
  | registrar move =>
      have hgone : ∀ {f i t}, Function.update d.threads f none i = some t → d.threads i = some t := by
        intro f i t ht
        rcases update_eq_some ht with ⟨-, hnone⟩ | ⟨-, hold⟩
        · cases hnone
        · exact hold
      cases registrarStep_stepped hstep with
      | watch hcalm =>
          exact h.forget (fun _ _ ht => hcalm.threads ▸ ht) hcalm.workers hcalm.lastBeat
            (devPath_watch hstep)
      | join hjoin =>
          refine h.forget (fun i t ht => ?_) hjoin.workers hjoin.lastBeat (devPath_join hstep)
          rw [hjoin.threads] at ht
          exact hgone ht
      | checkBack _ _ hghosts | checkWait _ _ hghosts | checkTake _ _ hghosts =>
          exact h.forget (fun _ _ ht => hghosts.threads ▸ ht) hghosts.workers hghosts.lastBeat
            hghosts.devPath
      | markLoad | markStore | relock | createNothing | createFailed =>
          exact h.forget (fun _ _ ht => ht) rfl rfl fun _ => rfl
      | @reinit r type f hmain =>
          -- the slot that is initialised has no thread
          have hnone : d.threads f = none := hthreads.vacant f (by rw [hmain]; rfl)
          refine h.congr fun i t ht _ => ⟨ht, rfl, rfl, ?_⟩
          have hne : i ≠ f := by
            rintro rfl
            exact Option.some_ne_none t (ht.symm.trans hnone)
          show (Function.update d.slots f _ i).devPath = _
          rw [Function.update_of_ne hne]
      | @create r f hmain =>
          -- the new thread has not stored a heartbeat
          refine h.congr fun i t ht hbeat => ?_
          have hold : t ≠ d.nextTid := by
            rintro rfl
            exact hbeat (hbeats.silent d.nextTid (Nat.le_refl _))
          rcases update_eq_some ht with ⟨-, hnew⟩ | ⟨-, hthread⟩
          · exact absurd (Option.some.inj hnew).symm hold
          · exact ⟨hthread, Function.update_of_ne hold .., rfl, rfl⟩
      | @undo r f hmain hnone =>
          refine h.forget (fun i t ht => hgone ht) rfl rfl ?_
          exact apply_update WorkerSlot.devPath d.slots rfl

end

/-! ## Reachable states -/

/-- What holds of the tables in every state that is reached. -/
structure TablesRight (d : WorkerSystem) : Prop where
  threads : ThreadsRight d
  beats : BeatsRight d
  paths : PathsCleared d

theorem TablesRight.step {d d' : WorkerSystem} (h : TablesRight d) {move : SystemMove}
    (hstep : systemStep move d = some d') : TablesRight d' :=
  ⟨h.threads.step hstep, h.beats.step h.threads hstep, h.paths.step h.threads h.beats hstep⟩

theorem tablesRight_initialWorkers (slots : Fin maxSlots → WorkerSlot) (clock : UInt64) :
    TablesRight (initialWorkers slots clock) :=
  ⟨threadsRight_initialWorkers slots clock, beatsRight_initialWorkers slots clock, fun i t ht => by cases ht⟩

theorem tablesRight_of_run {slots : Fin maxSlots → WorkerSlot} {clock : UInt64} {d : WorkerSystem}
    (hrun : Run systemStep free (initialWorkers slots clock) d) : TablesRight d :=
  hrun.invariant (fun _ _ _ h _ hstep => h.step hstep) (tablesRight_initialWorkers slots clock)

/-! ## Inside the step -/

/-- The main thread has stopped the worker of slot `i` and goes on to the next slot. -/
def MainPc.recreating (now : UInt64) (i : Fin maxSlots) : MainPc → Prop
  | .marking now' i' => now' = now ∧ i' = i
  | .storing now' i' _ => now' = now ∧ i' = i
  | .rechecking now' i' => now' = now ∧ i' = i
  | .watch now' k => now' = now ∧ k = i + 1
  | _ => False

/-- A move of the main thread. -/
def SystemMove.ofMain : SystemMove → Bool
  | .main _ => true
  | .registrar _ => true
  | _ => false

section

variable {d d' : WorkerSystem} {now : UInt64} {i : Fin maxSlots} {move : SystemMove}

theorem onSlot_of_main (hmain : move.ofMain = true) (thread : Option Nat) (s : WorkerSlot) :
    move.onSlot thread s = s := by
  cases move with
  | main | registrar => rfl
  | worker | stopService => cases hmain

/-- A slot without a thread stays empty. -/
theorem onSlot_vacant {s : WorkerSlot} (hconnected : s.connected = false) (hpath : s.devPath = []) :
    (move.onSlot none s).connected = false ∧ (move.onSlot none s).devPath = [] := by
  cases move with
  | main | registrar | worker => exact ⟨hconnected, hpath⟩
  | stopService => exact ⟨rfl, hpath⟩

/-- The moves of the other threads leave the main thread where it is. -/
theorem step_of_other (h : TablesRight d) (hmain : move.ofMain = false)
    (hstep : systemStep move d = some d') :
    d'.main = d.main ∧ d'.threads = d.threads ∧
      (∀ j, d'.slots j = move.onSlot (d.threads j) (d.slots j)) ∧
      ∀ t, d.lastBeat t ≠ none → d'.lastBeat t ≠ none := by
  cases move with
  | main | registrar => cases hmain
  | stopService =>
      simp only [systemStep] at hstep
      split_ifs at hstep
      obtain rfl := Option.some.inj hstep
      exact ⟨rfl, rfl, fun _ => rfl, fun _ hbeat => hbeat⟩
  | worker t move =>
      obtain ⟨_, _, hworker⟩ := workerStep_stepped hstep
      refine ⟨hworker.main, hworker.threads, slots_workerStep h.threads h.beats hstep, fun t' hbeat => ?_⟩
      cases workerStep_case hstep with
      | @beat _ time =>
          show Function.update d.lastBeat t (some time) t' ≠ none
          by_cases ht : t' = t
          · subst ht
            rw [Function.update_self]
            exact Option.some_ne_none _
          · rwa [Function.update_of_ne ht]
      | _ => exact hbeat

/-- From where it waits, the main thread goes on when the worker has ended, with the slot disconnected. -/
theorem stopping_step (hpc : d.main = .stopping now i) (hmain : move.ofMain = true)
    (hstep : systemStep move d = some d') :
    (∃ t, d.threads i = some t ∧ d.workers t = none) ∧ d'.main = .marking now i ∧
      d'.threads = Function.update d.threads i none ∧
      d'.slots = Function.update d.slots i { d.slots i with workerStop := false, connected := false } := by
  cases move with
  | worker | stopService => cases hmain
  | main move => cases move <;> simp [systemStep, mainStep, hpc] at hstep
  | registrar move =>
      cases move with
      | join =>
          simp only [systemStep, registrarStep, hpc] at hstep
          obtain ⟨d₁, hjoin, rfl⟩ := Option.map_eq_some_iff.mp hstep
          obtain ⟨hended, rfl⟩ := join_eq_some hjoin
          exact ⟨hended, rfl, rfl, rfl⟩
      | _ => simp [systemStep, registrarStep, hpc] at hstep

/-- **With an empty path it goes straight on to the next slot.** -/
theorem recreating_step (hpc : d.main.recreating now i) (hinside : insideStep move d = true)
    (hpath : (d.slots i).devPath = []) (hmain : move.ofMain = true) (hstep : systemStep move d = some d') :
    d'.main.recreating now i ∧ d'.threads = d.threads ∧ d'.slots = d.slots := by
  cases hpc' : d.main with
  | marking now' i' | storing now' i' loaded =>
      rw [hpc'] at hpc
      obtain ⟨rfl, rfl⟩ : now' = now ∧ i' = i := hpc
      cases move with
      | worker | stopService => cases hmain
      | main move => cases move <;> simp [systemStep, mainStep, hpc'] at hstep
      | registrar move =>
          -- the load or the store, whichever it is about to do
          cases move <;> simp [systemStep, registrarStep, hpc'] at hstep
          obtain rfl := hstep
          exact ⟨⟨rfl, rfl⟩, rfl, rfl⟩
  | rechecking now' i' =>
      rw [hpc'] at hpc
      obtain ⟨rfl, rfl⟩ : now' = now ∧ i' = i := hpc
      cases move with
      | worker | stopService => cases hmain
      | registrar move => cases move <;> simp [systemStep, registrarStep, hpc'] at hstep
      | main move =>
          cases move with
          | recheck accessible =>
              -- the path is empty, so it does not matter whether a node is there
              simp only [systemStep, mainStep, hpc'] at hstep
              rw [if_neg fun hfound => hfound.1 hpath] at hstep
              obtain rfl := Option.some.inj hstep
              exact ⟨⟨rfl, rfl⟩, rfl, rfl⟩
          | _ => simp [systemStep, mainStep, hpc'] at hstep
  | watch now' k => simp [insideStep, hpc'] at hinside
  | _ =>
      rw [hpc'] at hpc
      exact hpc.elim

/-! ## The whole step -/

theorem slotAfter_concat (thread : Option Nat) (moves : List SystemMove) (move : SystemMove)
    (s : WorkerSlot) :
    slotAfter thread (moves ++ [move]) s = move.onSlot thread (slotAfter thread moves s) := by
  simp [slotAfter]

/-- **The invariant of the step** on slot `i` that began in `d₀`, after some moves: the worker has stored a
heartbeat, and is waited for; or it has ended, and its slot is empty.  The other slots are as the other
threads left them. -/
structure Recreating (d₀ : WorkerSystem) (now : UInt64) (i : Fin maxSlots) (moves : List SystemMove)
    (d : WorkerSystem) : Prop where
  tables : TablesRight d
  stage : (d.main = .stopping now i ∧ ∀ t, d.threads i = some t → d.lastBeat t ≠ none) ∨
    (d.main.recreating now i ∧ d.threads i = none ∧ (d.slots i).connected = false ∧
      (d.slots i).devPath = [])
  others : ∀ j, j ≠ i →
    d.threads j = d₀.threads j ∧ d.slots j = slotAfter (d₀.threads j) moves (d₀.slots j)

end

section

variable {d₀ d d' : WorkerSystem} {now : UInt64} {i : Fin maxSlots} {moves : List SystemMove}

/-- The watchdog's look at a slot whose worker it stops. -/
theorem watchSlot_of_expired (hthread : d₀.threads i ≠ none) (hstored : (d₀.slots i).workerHeartbeat ≠ 0)
    (hexpired : now - (d₀.slots i).workerHeartbeat > workerHeartbeatTimeoutUs) :
    ∃ t, d₀.threads i = some t ∧ d₀.watchSlot now i =
      { d₀.setSlot i { d₀.slots i with workerStop := true } with
        main := .stopping now i
        stops := ⟨t, now, d₀.lastBeat t⟩ :: d₀.stops } := by
  obtain ⟨t, ht⟩ := Option.ne_none_iff_exists'.mp hthread
  refine ⟨t, ht, ?_⟩
  unfold WorkerSystem.watchSlot
  rw [ht]
  exact if_pos ⟨hstored, hexpired⟩

/-- Its beginning. -/
theorem recreating_watchSlot (h : TablesRight d₀) (hlook : d₀.main = .watch now i)
    (hthread : d₀.threads i ≠ none) (hstored : (d₀.slots i).workerHeartbeat ≠ 0)
    (hexpired : now - (d₀.slots i).workerHeartbeat > workerHeartbeatTimeoutUs) :
    Recreating d₀ now i [] (d₀.watchSlot now i) := by
  have hstep : systemStep (.registrar .watch) d₀ = some (d₀.watchSlot now i) := by
    simp [systemStep, registrarStep, hlook]
  have htables := h.step hstep
  obtain ⟨t, ht, hslot⟩ := watchSlot_of_expired hthread hstored hexpired
  rw [hslot] at htables ⊢
  refine ⟨htables, Or.inl ⟨rfl, fun t' ht' => ?_⟩, fun j hj => ⟨rfl, Function.update_of_ne hj ..⟩⟩
  -- a heartbeat that is not 0 was stored by the thread
  intro hsilent
  have hbeat := h.beats.beat i t' ht'
  rw [show d₀.lastBeat t' = none from hsilent] at hbeat
  exact hstored hbeat

/-- **One move.** -/
theorem Recreating.step (h : Recreating d₀ now i moves d) {move : SystemMove}
    (hinside : insideStep move d = true) (hstep : systemStep move d = some d') :
    Recreating d₀ now i (moves ++ [move]) d' := by
  have htables := h.tables.step hstep
  by_cases hmain : move.ofMain = true
  · -- the main thread touches slot `i` only
    have hothers : (∀ j, j ≠ i → d'.threads j = d.threads j ∧ d'.slots j = d.slots j) →
        ∀ j, j ≠ i → d'.threads j = d₀.threads j ∧
          d'.slots j = slotAfter (d₀.threads j) (moves ++ [move]) (d₀.slots j) := by
      intro hsame j hj
      rw [(hsame j hj).1, (hsame j hj).2, slotAfter_concat, onSlot_of_main hmain]
      exact h.others j hj
    rcases h.stage with ⟨hpc, hbeat⟩ | ⟨hpc, hnone, hconnected, hpath⟩
    · obtain ⟨⟨t, ht, hended⟩, hpc', hthreads, hslots⟩ := stopping_step hpc hmain hstep
      refine ⟨htables, Or.inr ⟨?_, ?_, ?_, ?_⟩, hothers fun j hj => ?_⟩
      · rw [hpc']
        exact ⟨rfl, rfl⟩
      · rw [hthreads, Function.update_self]
      · rw [hslots, Function.update_self]
      · -- the worker that has ended has cleared the path
        rcases h.tables.paths i t ht (hbeat t ht) with hloops | ⟨hpath, -⟩
        · exact absurd (hended.symm.trans hloops) (Option.some_ne_none _).symm
        · rw [hslots, Function.update_self]
          exact hpath
      · rw [hthreads, hslots, Function.update_of_ne hj, Function.update_of_ne hj]
        exact ⟨rfl, rfl⟩
    · obtain ⟨hpc', hthreads, hslots⟩ := recreating_step hpc hinside hpath hmain hstep
      rw [← hthreads] at hnone
      rw [← hslots] at hconnected hpath
      refine ⟨htables, Or.inr ⟨hpc', hnone, hconnected, hpath⟩, hothers fun j _ => ?_⟩
      rw [hthreads, hslots]
      exact ⟨rfl, rfl⟩
  · obtain ⟨hpc', hthreads, hslots, hlast⟩ := step_of_other h.tables (by simpa using hmain) hstep
    refine ⟨htables, ?_, fun j hj => ?_⟩
    · rw [hpc', hthreads]
      rcases h.stage with ⟨hpc, hbeat⟩ | ⟨hpc, hnone, hconnected, hpath⟩
      · exact Or.inl ⟨hpc, fun t ht => hlast t (hbeat t ht)⟩
      · -- no worker has slot `i`
        refine Or.inr ⟨hpc, hnone, ?_⟩
        rw [hslots i, hnone]
        exact onSlot_vacant hconnected hpath
    · rw [hthreads, hslots j, slotAfter_concat, (h.others j hj).1, (h.others j hj).2]
      exact ⟨rfl, rfl⟩

/-- All moves of the step. -/
theorem recreating_of_exec (h : Recreating d₀ now i moves d) {rest : List SystemMove}
    (hexec : exec (checked insideStep systemStep) rest d = some d') :
    Recreating d₀ now i (moves ++ rest) d' := by
  induction rest generalizing moves d with
  | nil =>
      obtain rfl := Option.some.inj hexec
      simpa using h
  | cons move rest ih =>
      simp only [exec, Option.bind_eq_some_iff] at hexec
      obtain ⟨d₁, hstep, hrest⟩ := hexec
      unfold checked at hstep
      split_ifs at hstep with hinside
      simpa using ih (h.step hinside hstep) hrest

/-- **After the step** the slot is disconnected, and the other slots are as the other threads left them. -/
theorem WatchdogStep.slots (htables : TablesRight d) (h : WatchdogStep d now i moves d') :
    (d'.slots i).connected = false ∧
      ∀ j, j ≠ i → d'.slots j = slotAfter (d.threads j) moves (d.slots j) := by
  have hrecreating : Recreating d now i moves d' := by
    simpa using recreating_of_exec
      (recreating_watchSlot htables h.look h.thread h.stored h.expired) h.steps
  refine ⟨?_, fun j hj => (hrecreating.others j hj).2⟩
  rcases hrecreating.stage with ⟨hpc, -⟩ | ⟨-, -, hconnected, -⟩
  · exact MainPc.noConfusion (hpc.symm.trans h.back)
  · exact hconnected

/-- **When a device is registered again.**  In every run of the daemon, after the watchdog has stopped the
worker of a slot (any slot, with any other threads moving meanwhile, and the device's node there or not),
some slot is connected with the path that the stopped one had if and only if ANOTHER slot was connected with
it, too, and the other threads left it so. -/
theorem watchdog_registers_again_iff (slots : Fin maxSlots → WorkerSlot) (clock : UInt64)
    (hrun : Run systemStep free (initialWorkers slots clock) d) (hstep : WatchdogStep d now i moves d') :
    Registered d' (d.slots i).devPath ↔ HeldElsewhere d i moves (d.slots i).devPath := by
  obtain ⟨hself, hothers⟩ := hstep.slots (tablesRight_of_run hrun)
  constructor
  · rintro ⟨j, hconnected, hpath⟩
    have hj : j ≠ i := by
      rintro rfl
      rw [hself] at hconnected
      cases hconnected
    rw [hothers j hj] at hconnected hpath
    exact ⟨j, hj, hconnected, hpath⟩
  · rintro ⟨j, hj, hconnected, hpath⟩
    refine ⟨j, ?_, ?_⟩
    · rw [hothers j hj]
      exact hconnected
    · rw [hothers j hj]
      exact hpath

end

/-! ## A stuck worker -/

/-- A DS4 is registered in slot 0, its worker stores a heartbeat and gets stuck, and a pass of the watchdog
begins six seconds later. -/
def stuckMoves : List SystemMove :=
  registerDs4 "hidraw0".toList ++
    [.main .scanEnd, .worker 0 (.ready []), .worker 0 (.beat 100), .main (.readClock 6000100)]

/-- The worker comes back, sees that it is to stop, and cleans up; the node is still there. -/
def cleanUpMoves : List SystemMove :=
  [.worker 0 .leave, .worker 0 .store, .worker 0 .exit, .registrar .join, .registrar .markLoad,
    .registrar .markStore, .main (.recheck true)]

/-- The daemon at the beginning of that pass. -/
def stuckWorkers : WorkerSystem := reached systemStep stuckMoves exampleWorkers

/-- And after the watchdog's step on that slot. -/
def abandonedDevice : WorkerSystem :=
  reached (checked insideStep systemStep) cleanUpMoves (stuckWorkers.watchSlot 6000100 firstSlot)

theorem stuckWorkers_reached : exec systemStep stuckMoves exampleWorkers = some stuckWorkers :=
  eq_some_getD (s := exampleWorkers) (by decide +kernel)

theorem abandonedDevice_step :
    WatchdogStep stuckWorkers 6000100 firstSlot cleanUpMoves abandonedDevice where
  look := by rfl
  thread := by decide +kernel
  stored := by decide +kernel
  expired := by decide +kernel
  steps := eq_some_getD (s := stuckWorkers.watchSlot 6000100 firstSlot) (by decide +kernel)
  back := by rfl

theorem watchdog_registers_again_iff_stuck :
    Registered abandonedDevice (stuckWorkers.slots firstSlot).devPath ↔
      HeldElsewhere stuckWorkers firstSlot cleanUpMoves (stuckWorkers.slots firstSlot).devPath :=
  watchdog_registers_again_iff _ _ (Run.of_exec stuckWorkers_reached) abandonedDevice_step

/-- **The device is abandoned**: its node is there, the watchdog has stopped its worker, and no slot is
connected with it. -/
theorem stopped_worker_not_recreated :
    exec systemStep stuckMoves exampleWorkers = some stuckWorkers ∧
      WatchdogStep stuckWorkers 6000100 firstSlot cleanUpMoves abandonedDevice ∧
      (stuckWorkers.slots firstSlot).devPath = "/dev/hidraw0".toList ∧
      ¬Registered abandonedDevice "/dev/hidraw0".toList := by
  refine ⟨stuckWorkers_reached, abandonedDevice_step, by decide +kernel, ?_⟩
  rintro ⟨j, hconnected, -⟩
  have hnone : ∀ j, (abandonedDevice.slots j).connected = false := by decide +kernel
  rw [hnone j] at hconnected
  cases hconnected

end Dstx
