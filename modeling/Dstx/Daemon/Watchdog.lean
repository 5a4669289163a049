/-
# Dstx.Daemon.Watchdog — does the watchdog stop healthy workers?

A pass of the watchdog reads the clock ONCE, and then goes through the slots, loading the heartbeat of
each.  A worker that stores its heartbeat in between stores a time LATER than the pass's, and
`now_us - hb` is taken in unsigned 64-bit arithmetic: one microsecond becomes 2^64 - 1 of them.  So the
fresher the heartbeat, the surer the stop.

`stops` in the model logs every stop with the pass's clock reading and the last heartbeat the worker had
stored; `beatsRight` says that the heartbeat the watchdog loads is that one.
-/
import Dstx.Daemon.Workers

namespace Dstx

open Dstx.Lib

/-! ## The property and its condition -/

/-- The worker that was stopped had last stored a heartbeat more than the time-out before the pass's clock
reading, as integers. -/
def WatchdogStop.Justified (s : WatchdogStop) : Prop :=
  ∃ hb, s.lastBeat = some hb ∧ hb.toNat + workerHeartbeatTimeoutUs.toNat < s.now.toNat

/-- **The watchdog stops no healthy worker.** -/
def HealthySpared (d : WorkerSystem) : Prop := ∀ s ∈ d.stops, s.Justified

/-- A heartbeat is later than the pass, but not by so much that the difference, as an unsigned number,
falls under the time-out again. -/
def Overtakes (hb now : UInt64) : Prop :=
  now.toNat < hb.toNat ∧ hb.toNat - now.toNat < 2 ^ 64 - workerHeartbeatTimeoutUs.toNat

/-- **The condition on a step**: when the watchdog looks at a slot with a thread, its heartbeat is not
later than the pass's clock reading. -/
def NotOvertaken (move : SystemMove) (d : WorkerSystem) : Prop :=
  match move with
  | .registrar .watch =>
      ∀ now k (hk : k < maxSlots), d.main = .watch now k → d.threads ⟨k, hk⟩ ≠ none →
        ¬Overtakes (d.slots ⟨k, hk⟩).workerHeartbeat now
  | _ => True

/-! ## The arithmetic -/

/-- **What the test of the source means.** -/
theorem expired_iff (now hb : UInt64) :
    now - hb > workerHeartbeatTimeoutUs ↔
      hb.toNat + workerHeartbeatTimeoutUs.toNat < now.toNat ∨ Overtakes hb now := by
  -- the difference wraps around exactly when the heartbeat is later
  have hnow := now.toNat_lt
  have hhb := hb.toNat_lt
  have htimeout : workerHeartbeatTimeoutUs.toNat = 5000000 := rfl
  rw [gt_iff_lt, UInt64.lt_iff_toNat_lt, UInt64.toNat_sub, Overtakes, htimeout]
  omega

/-- A heartbeat later than the pass has expired. -/
theorem Overtakes.expired {hb now : UInt64} (h : Overtakes hb now) :
    hb ≠ 0 ∧ now - hb > workerHeartbeatTimeoutUs := by
  refine ⟨?_, (expired_iff now hb).mpr (Or.inr h)⟩
  rintro rfl
  exact Nat.not_lt_zero _ h.1

/-- **When a stop is right**: the heartbeat has expired and is not later than the pass. -/
theorem justified_iff {t : Nat} {now hb : UInt64} {last : Option UInt64} (hlast : hb = last.getD 0)
    (hstored : hb ≠ 0) (hexpired : now - hb > workerHeartbeatTimeoutUs) :
    (WatchdogStop.mk t now last).Justified ↔ ¬Overtakes hb now := by
  cases last with
  | none => exact absurd hlast hstored
  | some last =>
      obtain rfl : hb = last := hlast
      constructor
      · rintro ⟨hb', hsome, hold⟩ ⟨hlater, -⟩
        obtain rfl := Option.some.inj hsome
        change hb.toNat + workerHeartbeatTimeoutUs.toNat < now.toNat at hold
        omega
      · intro hnot
        rcases (expired_iff now hb).mp hexpired with hold | hover
        · exact ⟨hb, rfl, hold⟩
        · exact absurd hover hnot

/-! ## The invariant -/

/-- **The heartbeats are right**: the cell of a slot with a thread holds the thread's last heartbeat, or 0
if it has not stored any. -/
structure BeatsRight (d : WorkerSystem) : Prop where
  beat : ∀ i t, d.threads i = some t → (d.slots i).workerHeartbeat = (d.lastBeat t).getD 0
  known : ∀ i t, d.threads i = some t → t < d.nextTid
  distinct : ∀ i j t, d.threads i = some t → d.threads j = some t → i = j
  silent : ∀ t, d.nextTid ≤ t → d.lastBeat t = none
  waiting : ∀ r f, d.main = .creating r f → (d.slots f).workerHeartbeat = 0

section

variable {d d' : WorkerSystem}

theorem BeatsRight.congr (h : BeatsRight d) (hthreads : d'.threads = d.threads)
    (htid : d'.nextTid = d.nextTid) (hlast : d'.lastBeat = d.lastBeat)
    (hbeat : ∀ i, (d'.slots i).workerHeartbeat = (d.slots i).workerHeartbeat)
    (hwaiting : ∀ r f, d'.main = .creating r f → (d.slots f).workerHeartbeat = 0) : BeatsRight d' where
  beat := fun i t ht => by
    rw [hthreads] at ht
    rw [hbeat, hlast]
    exact h.beat i t ht
  known := by
    rw [hthreads, htid]
    exact h.known
  distinct := by
    rw [hthreads]
    exact h.distinct
  silent := by
    rw [htid, hlast]
    exact h.silent
  waiting := fun r f hm => (hbeat f).trans (hwaiting r f hm)

theorem MainPc.Plain.not_creating {pc : MainPc} (h : pc.Plain) (r : Registration) (f : Fin maxSlots) :
    pc ≠ .creating r f := by
  rintro rfl
  exact h

theorem BeatsRight.calm (h : BeatsRight d) (hcalm : Calm d d') : BeatsRight d' := by
  refine h.congr hcalm.threads hcalm.nextTid hcalm.lastBeat hcalm.heartbeat fun r f hmain => ?_
  rcases hcalm.main with ⟨-, hplain⟩ | hsame
  · exact absurd hmain (hplain.not_creating r f)
  · exact h.waiting r f (hsame ▸ hmain)

/-- A slot forgets its thread. -/
theorem BeatsRight.forget (h : BeatsRight d) {i : Fin maxSlots}
    (hthreads : d'.threads = Function.update d.threads i none) (htid : d'.nextTid = d.nextTid)
    (hlast : d'.lastBeat = d.lastBeat)
    (hbeat : ∀ j, (d'.slots j).workerHeartbeat = (d.slots j).workerHeartbeat)
    (hmain : ∀ r f, d'.main ≠ .creating r f) : BeatsRight d' := by
  have hold : ∀ j t, d'.threads j = some t → d.threads j = some t := by
    intro j t ht
    rw [hthreads] at ht
    rcases update_eq_some ht with ⟨-, hnone⟩ | ⟨-, hold⟩
    · cases hnone
    · exact hold
  refine ⟨fun j t ht => ?_, fun j t ht => ?_, fun j k t hj hk => ?_, ?_,
    fun r f hm => absurd hm (hmain r f)⟩
  · rw [hbeat, hlast]
    exact h.beat j t (hold j t ht)
  · rw [htid]
    exact h.known j t (hold j t ht)
  · exact h.distinct j k t (hold j t hj) (hold k t hk)
  · rw [htid, hlast]
    exact h.silent

/-- **A heartbeat.** -/
theorem BeatsRight.heartbeat (h : BeatsRight d) (hthreads : ThreadsRight d) {t : Nat} {w : Worker}
    (halive : d.workers t = some w) (now : UInt64) :
    BeatsRight { d.setSlot w.slot { d.slots w.slot with workerHeartbeat := now } with
      clock := now
      lastBeat := Function.update d.lastBeat t (some now) } := by
  have hthread := hthreads.thread t w halive
  -- no other slot has this thread, and no other thread is in this slot
  refine ⟨fun i t' ht' => ?_, h.known, h.distinct, fun t' hle => ?_, fun r f hmain => ?_⟩
  · change d.threads i = some t' at ht'
    show (Function.update d.slots w.slot _ i).workerHeartbeat = (Function.update d.lastBeat t _ t').getD 0
    by_cases hi : i = w.slot
    · subst hi
      rw [hthread] at ht'
      obtain rfl := Option.some.inj ht'
      rw [Function.update_self, Function.update_self]
      rfl
    · have hne : t' ≠ t := by
        rintro rfl
        exact hi (h.distinct i w.slot t' ht' hthread)
      rw [Function.update_of_ne hi, Function.update_of_ne hne]
      exact h.beat i t' ht'
  · have hne : t' ≠ t := by
      rintro rfl
      have hlt := h.known w.slot t' hthread
      exact absurd hle (Nat.not_le.mpr hlt)
    show Function.update d.lastBeat t _ t' = none
    rw [Function.update_of_ne hne]
    exact h.silent t' hle
  · -- the slot that waits for its worker has no thread
    have hne : f ≠ w.slot := by
      rintro rfl
      rw [hthreads.vacant w.slot (by rw [show d.main = .creating r w.slot from hmain]; rfl)] at hthread
      cases hthread
    show (Function.update d.slots w.slot _ f).workerHeartbeat = 0
    rw [Function.update_of_ne hne]
    exact h.waiting r f hmain

/-- A slot that is initialised, without a thread, is at 0. -/
theorem BeatsRight.reinit (h : BeatsRight d) {r : Registration} {type : ControllerType}
    {f : Fin maxSlots} (hnone : d.threads f = none) : BeatsRight (d.reinit r type f) := by
  refine ⟨fun i t ht => ?_, h.known, h.distinct, h.silent, fun r' f' hm => ?_⟩
  · change d.threads i = some t at ht
    have hne : i ≠ f := by
      rintro rfl
      rw [hnone] at ht
      cases ht
    show (Function.update d.slots f _ i).workerHeartbeat = _
    rw [Function.update_of_ne hne]
    exact h.beat i t ht
  · obtain ⟨-, rfl⟩ := MainPc.creating.inj hm
    show (Function.update d.slots f _ f).workerHeartbeat = 0
    rw [Function.update_self]

/-- A new worker has not stored a heartbeat, and its slot is at 0. -/
theorem BeatsRight.create (h : BeatsRight d) {r : Registration} {f : Fin maxSlots}
    (hmain : d.main = .creating r f) {pc : MainPc} (hplain : pc.Plain) :
    BeatsRight { d with
      workers := Function.update d.workers d.nextTid (some ⟨f, .starting⟩)
      threads := Function.update d.threads f (some d.nextTid)
      nextTid := d.nextTid + 1
      main := pc } := by
  have hcases : ∀ i t, Function.update d.threads f (some d.nextTid) i = some t →
      (i = f ∧ t = d.nextTid) ∨ (i ≠ f ∧ d.threads i = some t) := by
    intro i t ht
    rcases update_eq_some ht with ⟨hi, hnew⟩ | ⟨hi, hold⟩
    · exact Or.inl ⟨hi, (Option.some.inj hnew).symm⟩
    · exact Or.inr ⟨hi, hold⟩
  refine ⟨fun i t ht => ?_, fun i t ht => ?_, fun i j t hi hj => ?_, fun t hle => ?_,
    fun r f hm => absurd hm (hplain.not_creating r f)⟩
  · rcases hcases i t ht with ⟨rfl, rfl⟩ | ⟨-, hold⟩
    · show (d.slots i).workerHeartbeat = (d.lastBeat d.nextTid).getD 0
      rw [h.silent d.nextTid (Nat.le_refl _)]
      exact h.waiting r i hmain
    · exact h.beat i t hold
  · show t < d.nextTid + 1
    rcases hcases i t ht with ⟨-, rfl⟩ | ⟨-, hold⟩
    · exact Nat.lt_succ_self _
    · exact Nat.lt_succ_of_lt (h.known i t hold)
  · -- the new number was not in the table
    rcases hcases i t hi with ⟨rfl, rfl⟩ | ⟨-, hi'⟩
    · rcases hcases j _ hj with ⟨rfl, -⟩ | ⟨-, hj'⟩
      · rfl
      · exact absurd (h.known j _ hj') (Nat.lt_irrefl _)
    · rcases hcases j t hj with ⟨rfl, rfl⟩ | ⟨-, hj'⟩
      · exact absurd (h.known i _ hi') (Nat.lt_irrefl _)
      · exact h.distinct i j t hi' hj'
  · exact h.silent t (Nat.le_of_succ_le hle)

/-- **One step** keeps the heartbeats right. -/
theorem BeatsRight.step (h : BeatsRight d) (hthreads : ThreadsRight d) {move : SystemMove}
    (hstep : systemStep move d = some d') : BeatsRight d' := by
  cases move with
  | main move => exact h.calm (mainStep_calm hstep).1
  | stopService => exact h.calm (calm_stopService hstep).1
  | worker t move =>
      cases workerStep_case hstep with
      | beat halive => exact h.heartbeat hthreads halive _
      | ready | fail | leave =>
          exact h.congr rfl rfl rfl (apply_update WorkerSlot.workerHeartbeat d.slots rfl) h.waiting
      | store | exit => exact h.congr rfl rfl rfl (fun _ => rfl) h.waiting
  | registrar move =>
      cases registrarStep_stepped hstep with
      | watch hcalm => exact h.calm hcalm
      | @join _ i hjoin =>
          refine h.forget hjoin.threads hjoin.nextTid hjoin.lastBeat hjoin.heartbeat fun r f hm => ?_
          rcases hjoin.main with ⟨-, hplain | ⟨now, hto⟩⟩ | ⟨r', type, -, hto⟩
          · exact hplain.not_creating r f hm
          · exact MainPc.noConfusion (hto.symm.trans hm)
          · exact MainPc.noConfusion (hto.symm.trans hm)
      | markLoad | markStore | relock | createFailed =>
          exact h.congr rfl rfl rfl (fun _ => rfl) fun r f hm => MainPc.noConfusion hm
      | @checkBack _ r type g _ _ hghosts =>
          exact h.congr hghosts.threads hghosts.nextTid hghosts.lastBeat hghosts.heartbeat
            fun r' f hm => absurd hm (r.caller.plain_resume.not_creating r' f)
      | checkWait _ _ hghosts | checkTake _ _ hghosts =>
          exact h.congr hghosts.threads hghosts.nextTid hghosts.lastBeat hghosts.heartbeat
            fun r f hm => MainPc.noConfusion hm
      | @reinit r type f hmain => exact h.reinit (hthreads.vacant f (by rw [hmain]; rfl))
      | @createNothing _ r f hmain =>
          exact h.congr rfl rfl rfl (fun _ => rfl)
            fun r' f' hm => absurd hm (r.caller.plain_resume.not_creating r' f')
      | @create r f hmain => exact h.create hmain r.caller.plain_resume
      | @undo r f hmain =>
          exact h.forget rfl rfl rfl (apply_update WorkerSlot.workerHeartbeat d.slots rfl)
            r.caller.plain_resume.not_creating

/-! ## One step, exactly -/

/-- Only the watchdog's look at a slot stops a worker. -/
theorem stops_of_step {move : SystemMove} (hstep : systemStep move d = some d')
    (hne : move ≠ .registrar .watch) : d'.stops = d.stops := by
  cases move with
  | main move => exact (mainStep_calm hstep).2
  | stopService => exact (calm_stopService hstep).2
  | worker t move =>
      obtain ⟨i, record, hworker⟩ := workerStep_stepped hstep
      exact hworker.stops
  | registrar move =>
      cases registrarStep_stepped hstep with
      | watch => exact absurd rfl hne
      | join hjoin => exact hjoin.stops
      | checkBack _ _ hghosts | checkWait _ _ hghosts | checkTake _ _ hghosts => exact hghosts.stops
      | _ => rfl

/-- **The watchdog's look at a slot** stops a worker for a reason exactly when the slot has no thread, or
a heartbeat that is not later than the pass. -/
theorem watchSlot_exact (h : BeatsRight d) (hspared : HealthySpared d) (now : UInt64) (i : Fin maxSlots) :
    HealthySpared (d.watchSlot now i) ↔
      (d.threads i ≠ none → ¬Overtakes (d.slots i).workerHeartbeat now) := by
  unfold WorkerSystem.watchSlot
  split
  · -- no thread, no stop
    rename_i hnone
    exact iff_of_true hspared fun hsome => absurd hnone hsome
  · rename_i t hthread
    have hsome : d.threads i ≠ none := by
      rw [hthread]
      exact Option.some_ne_none t
    dsimp only
    split_ifs with hstop
    · -- the worker is stopped: the log gets one entry
      have hentry := justified_iff (t := t) (h.beat i t hthread) hstop.1 hstop.2
      constructor
      · intro hall _
        exact hentry.mp (hall _ List.mem_cons_self)
      · intro hnot s hs
        rcases List.mem_cons.mp hs with rfl | hold
        · exact hentry.mpr (hnot hsome)
        · exact hspared s hold
    · -- a later heartbeat would have stopped it
      exact iff_of_true hspared fun _ hover => hstop hover.expired

/-- **One step**, from a state in which every stop had a reason. -/
theorem healthySpared_step_iff (h : BeatsRight d) (hspared : HealthySpared d) {move : SystemMove}
    (hstep : systemStep move d = some d') : HealthySpared d' ↔ NotOvertaken move d := by
  by_cases hwatch : move = .registrar .watch
  · subst hwatch
    simp only [systemStep, registrarStep] at hstep
    split at hstep
    · rename_i now k hmain
      split_ifs at hstep with hk
      · obtain rfl := Option.some.inj hstep
        rw [watchSlot_exact h hspared]
        constructor
        · intro hnot now' k' hk' hmain' hthread
          obtain ⟨rfl, rfl⟩ := MainPc.watch.inj (hmain.symm.trans hmain')
          exact hnot hthread
        · intro hnot
          exact hnot now k hk hmain
      · -- the pass is over
        obtain rfl := Option.some.inj hstep
        refine iff_of_true hspared fun now' k' hk' hmain' _ => ?_
        obtain ⟨rfl, rfl⟩ := MainPc.watch.inj (hmain.symm.trans hmain')
        exact absurd hk' hk
    · cases hstep
  · have hsame : HealthySpared d' := by
      rw [HealthySpared, stops_of_step hstep hwatch]
      exact hspared
    refine iff_of_true hsame ?_
    cases move with
    | main => trivial
    | stopService => trivial
    | worker => trivial
    | registrar move =>
        cases move with
        | watch => exact absurd rfl hwatch
        | _ => trivial

end

/-! ## Whole runs -/

theorem beatsRight_initialWorkers (slots : Fin maxSlots → WorkerSlot) (clock : UInt64) :
    BeatsRight (initialWorkers slots clock) := by
  refine ⟨fun i t ht => ?_, fun i t ht => ?_, fun i j t ht => ?_, fun _ _ => rfl, fun r f hm => ?_⟩
  · cases ht
  · cases ht
  · cases ht
  · cases hm

/-- **When the watchdog spares the healthy**: over every interleaving of the workers' heartbeats with
its passes, all its stops have a reason exactly when it never looks at a slot whose heartbeat is later
than the pass. -/
theorem watchdog_spares_healthy_iff (slots : Fin maxSlots → WorkerSlot) (clock : UInt64)
    (moves : List SystemMove) :
    Throughout systemStep HealthySpared moves (initialWorkers slots clock) ↔
      Meets systemStep NotOvertaken moves (initialWorkers slots clock) := by
  refine throughout_iff_meets (J := fun d => ThreadsRight d ∧ BeatsRight d) ?_ ?_ moves
    ⟨threadsRight_initialWorkers slots clock, beatsRight_initialWorkers slots clock⟩ fun s hs => ?_
  · intro move a b ⟨hthreads, hbeats⟩ hstep
    exact ⟨hthreads.step hstep, hbeats.step hthreads hstep⟩
  · rintro move a b ⟨-, hbeats⟩ hspared hstep
    exact healthySpared_step_iff hbeats hspared hstep
  · cases hs

/-- The daemon starts a worker, and reads the clock for a pass of the watchdog; then the worker stores a
heartbeat, and then the watchdog looks at it. -/
def overtakingMoves : List SystemMove :=
  registerDs4 "hidraw0".toList ++
    [.main .scanEnd, .worker 0 (.ready []), .main (.readClock 100), .worker 0 (.beat 101),
      .registrar .watch]

/-- **A worker is stopped one microsecond after its heartbeat.** -/
theorem healthy_worker_stopped :
    ¬Throughout systemStep HealthySpared overtakingMoves exampleWorkers := by
  intro hall
  obtain ⟨d, hexec, hstops⟩ : ∃ d, exec systemStep overtakingMoves exampleWorkers = some d ∧
      d.stops = [⟨0, 100, some 101⟩] :=
    ⟨_, rfl, rfl⟩
  have hmem : (⟨0, 100, some 101⟩ : WatchdogStop) ∈ d.stops := by
    rw [hstops]
    exact List.mem_cons_self
  obtain ⟨hb, hlast, hold⟩ := hall.of_exec hexec _ hmem
  obtain rfl := Option.some.inj hlast
  exact absurd hold (by decide)

end Dstx
