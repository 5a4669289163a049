/-
# Dstx.Daemon.Lifecycle — does a busy slot have its worker?

Over every interleaving of the main thread with the workers, two things hold without exception: a slot
never has two live workers, and a slot is initialised anew only when its last worker has ended.  The
thread table alone is enough for both (`ThreadsRight`).

The third does not: that a slot which a registration attempt has left busy has a worker.  It breaks in two
places.  When `malloc` of the thread's arguments fails, `try_register_control` returns with the slot
marked busy and connected — the failure of `pthread_create`, three lines further down, is undone.  And the
watchdog's `mark_slot_free` works on the bitmap without the mutex, so that a worker which frees its own
slot between the watchdog's load and its store frees it in vain.  In every run without these, a busy slot
has a worker that has not freed it yet.
-/
import Dstx.Daemon.Workers

namespace Dstx

open Dstx.Lib

/-! ## The property and its condition -/

/-- The slot of a registration attempt that has marked it busy and has not finished. -/
def MainPc.serving : MainPc → Option (Fin maxSlots)
  | .creating _ f | .undoing _ f => some f
  | _ => none

/-- **Slots and workers correspond.** -/
structure WorkersKept (d : WorkerSystem) : Prop where
  /-- A slot never has two live workers. -/
  unique : ∀ t t' w w', d.workers t = some w → d.workers t' = some w' → w.slot = w'.slot → t = t'
  /-- A slot that is about to be initialised anew has none. -/
  reinit : ∀ r type f, d.main = .reinit r type f → ∀ t w, d.workers t = some w → w.slot ≠ f
  /-- A slot that is busy after its registration attempt has one. -/
  served : ∀ i, d.freeSlots i = false → d.main.serving ≠ some i →
    ∃ t w, d.workers t = some w ∧ w.slot = i

/-- **The condition on a step**: the arguments of a worker thread are allocated; and no worker stores the
bitmap between the watchdog's load and its store. -/
def TablesKept (move : SystemMove) (d : WorkerSystem) : Prop :=
  match move with
  | .registrar (.create allocated _) => allocated = true
  | .worker _ .store => ∀ now i loaded, d.main ≠ .storing now i loaded
  | _ => True

/-! ## The invariant -/

/-- The slot that the watchdog is marking free. -/
def MainPc.marked : MainPc → Option (Fin maxSlots)
  | .marking _ i | .storing _ i _ => some i
  | _ => none

theorem MainPc.Plain.serving {pc : MainPc} (h : pc.Plain) : pc.serving = none := by
  cases pc <;> first | rfl | exact h.elim

theorem MainPc.Plain.marked {pc : MainPc} (h : pc.Plain) : pc.marked = none := by
  cases pc <;> first | rfl | exact h.elim

/-- **The bitmap is right.**  A worker in its critical section, and the watchdog, work on the bitmap there
is; the slot that the watchdog marks is free already; and a busy slot has a worker that has not freed
it. -/
structure BitmapRight (d : WorkerSystem) : Prop where
  owner : ∀ t i loaded, d.workers t = some ⟨i, .freeing loaded⟩ →
    d.owner = some (.worker t) ∧ loaded = d.freeSlots
  held : ∀ r type f, d.main = .reinit r type f → d.owner = some .main
  loaded : ∀ now i loaded, d.main = .storing now i loaded → loaded = d.freeSlots
  marked : ∀ i, d.main.marked = some i → d.freeSlots i = true
  served : ∀ i, d.freeSlots i = false → d.main.serving ≠ some i →
    ∃ t phase, d.workers t = some ⟨i, phase⟩ ∧ phase ≠ .freed

/-- What is left of the main thread's place: none of its duties. -/
def MainPc.Idle (pc : MainPc) : Prop :=
  (∀ r type f, pc ≠ .reinit r type f) ∧ (∀ now i loaded, pc ≠ .storing now i loaded) ∧
    pc.marked = none ∧ pc.serving = none

theorem MainPc.Plain.idle {pc : MainPc} (h : pc.Plain) : pc.Idle := by
  refine ⟨?_, ?_, h.marked, h.serving⟩
  · rintro r type f rfl
    exact h
  · rintro now i loaded rfl
    exact h

theorem ne_some_of_none {α : Type} {o : Option α} (h : o = none) (a : α) : o ≠ some a := by
  rw [h]
  exact (Option.some_ne_none a).symm

section

variable {d d' : WorkerSystem}

theorem BitmapRight.congr (h : BitmapRight d) (hfree : d'.freeSlots = d.freeSlots)
    (hworkers : d'.workers = d.workers) (howner : d'.owner = d.owner) (hmain : d'.main = d.main) :
    BitmapRight d' := by
  constructor
  · rw [hworkers, howner, hfree]
    exact h.owner
  · rw [hmain, howner]
    exact h.held
  · rw [hmain, hfree]
    exact h.loaded
  · rw [hmain, hfree]
    exact h.marked
  · rw [hmain, hfree, hworkers]
    exact h.served

/-- Only the owner of the mutex is in a critical section. -/
theorem BitmapRight.not_freeing (h : BitmapRight d) (howner : d.owner = none ∨ d.owner = some .main)
    {t : Nat} {i : Fin maxSlots} {loaded : Bitmap} : d.workers t ≠ some ⟨i, .freeing loaded⟩ := by
  intro ht
  obtain ⟨hown, -⟩ := h.owner t i loaded ht
  rcases howner with hnone | hmain
  · rw [hnone] at hown
    cases hown
  · rw [hmain] at hown
    cases hown

/-- The main thread goes from one quiet place to another; slots may have been marked free. -/
theorem BitmapRight.move (h : BitmapRight d) (hserving : d.main.serving = none)
    (hfree : ∀ i, d.freeSlots i = true → d'.freeSlots i = true)
    (hsame : d'.freeSlots = d.freeSlots ∨ d.owner = none) (hworkers : d'.workers = d.workers)
    (howner : d'.owner = d.owner) (hidle : d'.main.Idle) : BitmapRight d' where
  owner := fun t i loaded ht => by
    rw [hworkers] at ht
    rcases hsame with hsame | hnone
    · obtain ⟨hown, hloaded⟩ := h.owner t i loaded ht
      exact ⟨howner.trans hown, hloaded.trans hsame.symm⟩
    · exact absurd ht (h.not_freeing (Or.inl hnone))
  held := fun r type f hmain => absurd hmain (hidle.1 r type f)
  loaded := fun now i loaded hmain => absurd hmain (hidle.2.1 now i loaded)
  marked := fun i hmarked => by
    rw [hidle.2.2.1] at hmarked
    cases hmarked
  served := fun i hbusy _ => by
    have hwas : d.freeSlots i = false := by
      cases hi : d.freeSlots i with
      | false => rfl
      | true =>
          rw [hfree i hi] at hbusy
          cases hbusy
    rw [hworkers]
    exact h.served i hwas (ne_some_of_none hserving i)

theorem BitmapRight.calm (h : BitmapRight d) (hcalm : Calm d d') : BitmapRight d' := by
  rcases hcalm.main with ⟨hfrom, hto⟩ | hmain
  · exact h.move hfrom.serving (fun i hi => by rw [hcalm.freeSlots]; exact hi) (Or.inl hcalm.freeSlots)
      hcalm.workers hcalm.owner hto.idle
  · exact h.congr hcalm.freeSlots hcalm.workers hcalm.owner hmain

/-- **A slot whose thread has ended is free.** -/
theorem BitmapRight.free_of_ended (h : BitmapRight d) (hthreads : ThreadsRight d) {i : Fin maxSlots}
    (hended : ∃ t, d.threads i = some t ∧ d.workers t = none) (hserving : d.main.serving = none) :
    d.freeSlots i = true := by
  by_contra hbusy
  obtain ⟨t, phase, ht, -⟩ := h.served i (by simpa using hbusy) (ne_some_of_none hserving i)
  exact hthreads.no_worker_of_ended hended ht rfl

theorem BitmapRight.joined (h : BitmapRight d) (hthreads : ThreadsRight d) {i : Fin maxSlots}
    (hjoin : Joined d d' i) : BitmapRight d' := by
  have hfree : ∀ j, d.freeSlots j = true → d'.freeSlots j = true := by
    intro j hj
    rw [hjoin.freeSlots]
    exact hj
  rcases hjoin.main with ⟨hfrom, hto | ⟨now, hto⟩⟩ | ⟨r, type, hfrom, hto⟩
  · exact h.move hfrom.serving hfree (Or.inl hjoin.freeSlots) hjoin.workers hjoin.owner hto.idle
  · -- the watchdog goes on to mark the slot, which its worker has freed
    have hi := h.free_of_ended hthreads hjoin.ended hfrom.serving
    refine ⟨?_, ?_, ?_, ?_, ?_⟩
    · rw [hjoin.workers, hjoin.owner, hjoin.freeSlots]
      exact h.owner
    · rw [hto]
      intro r type f hmain
      cases hmain
    · rw [hto]
      intro now i loaded hmain
      cases hmain
    · rw [hto, hjoin.freeSlots]
      intro j hj
      obtain rfl := Option.some.inj hj
      exact hi
    · rw [hjoin.freeSlots, hjoin.workers]
      intro j hj _
      exact h.served j hj (ne_some_of_none hfrom.serving j)
  · refine h.move (by rw [hfrom]; rfl) hfree (Or.inl hjoin.freeSlots) hjoin.workers hjoin.owner ?_
    rw [hto]
    exact ⟨fun _ _ _ => MainPc.noConfusion, fun _ _ _ => MainPc.noConfusion, rfl, rfl⟩

/-- A busy slot stays served while its worker goes from one phase to another and has not freed it. -/
theorem BitmapRight.served_update (h : BitmapRight d) {t : Nat} {i : Fin maxSlots}
    {phase phase' : WorkerPhase} (halive : d.workers t = some ⟨i, phase⟩) (hphase : phase' ≠ .freed)
    {j : Fin maxSlots} (hbusy : d.freeSlots j = false) (hserving : d.main.serving ≠ some j) :
    ∃ t' phase₁, Function.update d.workers t (some ⟨i, phase'⟩) t' = some ⟨j, phase₁⟩ ∧
      phase₁ ≠ .freed := by
  obtain ⟨t', phase₁, ht', hfreed⟩ := h.served j hbusy hserving
  by_cases heq : t' = t
  · subst heq
    rw [halive] at ht'
    obtain ⟨rfl, -⟩ := Worker.mk.inj (Option.some.inj ht')
    exact ⟨t', phase', Function.update_self .., hphase⟩
  · refine ⟨t', phase₁, ?_, hfreed⟩
    rw [Function.update_of_ne heq]
    exact ht'

/-- A step of a worker that does not touch the bitmap or the mutex, and does not free its slot. -/
theorem BitmapRight.work (h : BitmapRight d) {t : Nat} {i : Fin maxSlots} {phase phase' : WorkerPhase}
    (halive : d.workers t = some ⟨i, phase⟩) (hquiet : ∀ loaded, phase' ≠ .freeing loaded)
    (hphase : phase' ≠ .freed) (hfree : d'.freeSlots = d.freeSlots)
    (hworkers : d'.workers = Function.update d.workers t (some ⟨i, phase'⟩)) (howner : d'.owner = d.owner)
    (hmain : d'.main = d.main) : BitmapRight d' where
  owner := fun t' i' loaded ht' => by
    rw [hworkers] at ht'
    rw [howner, hfree]
    rcases update_eq_some ht' with ⟨-, hnew⟩ | ⟨-, hold⟩
    · exact absurd (congrArg Worker.phase (Option.some.inj hnew)) (hquiet loaded)
    · exact h.owner t' i' loaded hold
  held := by
    rw [hmain, howner]
    exact h.held
  loaded := by
    rw [hmain, hfree]
    exact h.loaded
  marked := by
    rw [hmain, hfree]
    exact h.marked
  served := fun j hbusy hserving => by
    rw [hfree] at hbusy
    rw [hmain] at hserving
    rw [hworkers]
    exact h.served_update halive hphase hbusy hserving

/-- A worker takes the mutex and loads the bitmap. -/
theorem BitmapRight.take (h : BitmapRight d) (hnone : d.owner = none) {t : Nat} {i : Fin maxSlots}
    {phase : WorkerPhase} (halive : d.workers t = some ⟨i, phase⟩) (hfree : d'.freeSlots = d.freeSlots)
    (hworkers : d'.workers = Function.update d.workers t (some ⟨i, .freeing d.freeSlots⟩))
    (howner : d'.owner = some (.worker t)) (hmain : d'.main = d.main) : BitmapRight d' where
  owner := fun t' i' loaded ht' => by
    rw [hworkers] at ht'
    rw [howner, hfree]
    rcases update_eq_some ht' with ⟨rfl, hnew⟩ | ⟨-, hold⟩
    · obtain ⟨-, hphase⟩ := Worker.mk.inj (Option.some.inj hnew)
      exact ⟨rfl, (WorkerPhase.freeing.inj hphase).symm⟩
    · exact absurd hold (h.not_freeing (Or.inl hnone))
  held := fun r type f hm => by
    rw [hmain] at hm
    have hheld := h.held r type f hm
    rw [hnone] at hheld
    cases hheld
  loaded := by
    rw [hmain, hfree]
    exact h.loaded
  marked := by
    rw [hmain, hfree]
    exact h.marked
  served := fun j hbusy hserving => by
    rw [hfree] at hbusy
    rw [hmain] at hserving
    rw [hworkers]
    exact h.served_update halive WorkerPhase.noConfusion hbusy hserving

/-- **A worker frees its slot.** -/
theorem BitmapRight.store (h : BitmapRight d) {t : Nat} {i : Fin maxSlots} {loaded : Bitmap}
    (halive : d.workers t = some ⟨i, .freeing loaded⟩)
    (hapart : ∀ now j loaded, d.main ≠ .storing now j loaded) :
    BitmapRight { d.setWorker t (some ⟨i, .freed⟩) with
      freeSlots := Function.update loaded i true
      owner := none } := by
  obtain ⟨hown, rfl⟩ := h.owner t i loaded halive
  have hgrow : ∀ j, d.freeSlots j = true → Function.update d.freeSlots i true j = true := by
    intro j hj
    by_cases heq : j = i
    · subst heq
      exact Function.update_self ..
    · rwa [Function.update_of_ne heq]
  refine ⟨fun t' i' loaded ht' => ?_, fun r type f hm => ?_,
    fun now j loaded hm => absurd hm (hapart now j loaded), fun j hj => hgrow j (h.marked j hj),
    fun j hbusy hserving => ?_⟩
  · -- nobody else was in its critical section
    rcases update_eq_some ht' with ⟨-, hnew⟩ | ⟨hne, hold⟩
    · cases hnew
    · have hother := (h.owner t' i' loaded hold).1
      rw [hown] at hother
      exact absurd (MutexOwner.worker.inj (Option.some.inj hother)).symm hne
  · have hheld := h.held r type f hm
    rw [hown] at hheld
    cases hheld
  · change Function.update d.freeSlots i true j = false at hbusy
    have hne : j ≠ i := by
      rintro rfl
      rw [Function.update_self] at hbusy
      cases hbusy
    rw [Function.update_of_ne hne] at hbusy
    obtain ⟨t', phase, ht', hfreed⟩ := h.served j hbusy hserving
    have hother : t' ≠ t := by
      rintro rfl
      rw [halive] at ht'
      exact hne (Worker.mk.inj (Option.some.inj ht')).1.symm
    refine ⟨t', phase, ?_, hfreed⟩
    show Function.update d.workers t _ t' = _
    rwa [Function.update_of_ne hother]

/-- A worker that has freed its slot returns. -/
theorem BitmapRight.exit (h : BitmapRight d) {t : Nat} {i : Fin maxSlots}
    (halive : d.workers t = some ⟨i, .freed⟩) : BitmapRight (d.setWorker t none) := by
  refine ⟨fun t' i' loaded ht' => ?_, h.held, h.loaded, h.marked, fun j hbusy hserving => ?_⟩
  · rcases update_eq_some ht' with ⟨-, hnew⟩ | ⟨-, hold⟩
    · cases hnew
    · exact h.owner t' i' loaded hold
  · obtain ⟨t', phase, ht', hfreed⟩ := h.served j hbusy hserving
    -- the worker that serves slot `j` has not freed it, so it is not this one
    have hother : t' ≠ t := by
      rintro rfl
      rw [halive] at ht'
      exact hfreed (Worker.mk.inj (Option.some.inj ht')).2.symm
    refine ⟨t', phase, ?_, hfreed⟩
    show Function.update d.workers t none t' = _
    rwa [Function.update_of_ne hother]

/-- **A step of a worker** under the condition. -/
theorem BitmapRight.worker (h : BitmapRight d) {t : Nat} {move : WorkerMove}
    (hok : TablesKept (.worker t move) d) (hstep : workerStep t move d = some d') : BitmapRight d' := by
  cases workerStep_case hstep with
  | ready halive =>
      exact h.work halive (fun _ => WorkerPhase.noConfusion) WorkerPhase.noConfusion rfl rfl rfl rfl
  | fail halive hnone | leave halive hnone => exact h.take hnone halive rfl rfl rfl rfl
  | beat => exact h.congr rfl rfl rfl rfl
  | store halive => exact h.store halive hok
  | exit halive => exact h.exit halive

/-- The main thread takes the mutex to initialise a slot. -/
theorem BitmapRight.lock (h : BitmapRight d) (hnone : d.owner = none) (hserving : d.main.serving = none)
    {r : Registration} {type : ControllerType} {f : Fin maxSlots} :
    BitmapRight { d with owner := some .main, main := .reinit r type f } where
  owner := fun _ _ _ ht => absurd ht (h.not_freeing (Or.inl hnone))
  held := fun _ _ _ _ => rfl
  loaded := fun _ _ _ hm => MainPc.noConfusion hm
  marked := fun i hi => by cases hi
  served := fun i hbusy _ => h.served i hbusy (ne_some_of_none hserving i)

/-- **A slot is initialised**, and marked busy. -/
theorem BitmapRight.reinit (h : BitmapRight d) {r : Registration} {type : ControllerType}
    {f : Fin maxSlots} (hmain : d.main = .reinit r type f) : BitmapRight (d.reinit r type f) where
  owner := fun _ _ _ ht => absurd ht (h.not_freeing (Or.inr (h.held r type f hmain)))
  held := fun _ _ _ hm => MainPc.noConfusion hm
  loaded := fun _ _ _ hm => MainPc.noConfusion hm
  marked := fun i hi => by cases hi
  served := fun i hbusy hserving => by
    change Function.update d.freeSlots f false i = false at hbusy
    have hne : i ≠ f := by
      rintro rfl
      exact hserving rfl
    rw [Function.update_of_ne hne] at hbusy
    exact h.served i hbusy (by rw [hmain]; exact ne_some_of_none rfl i)

/-- **Its worker starts.** -/
theorem BitmapRight.create (h : BitmapRight d) (hthreads : ThreadsRight d) {r : Registration}
    {f : Fin maxSlots} (hmain : d.main = .creating r f) {pc : MainPc} (hplain : pc.Plain) :
    BitmapRight { d with
      workers := Function.update d.workers d.nextTid (some ⟨f, .starting⟩)
      threads := Function.update d.threads f (some d.nextTid)
      nextTid := d.nextTid + 1
      main := pc } := by
  have hunused : d.workers d.nextTid = none := hthreads.fresh d.nextTid (Nat.le_refl _)
  refine ⟨fun t i loaded ht => ?_, fun r type f hm => absurd hm (hplain.idle.1 r type f),
    fun now i loaded hm => absurd hm (hplain.idle.2.1 now i loaded), fun i hi => ?_, fun i hbusy _ => ?_⟩
  · rcases update_eq_some ht with ⟨-, hnew⟩ | ⟨-, hold⟩
    · cases hnew
    · exact h.owner t i loaded hold
  · change pc.marked = some i at hi
    rw [hplain.marked] at hi
    cases hi
  · -- the new worker serves its own slot, the old ones theirs
    by_cases heq : i = f
    · subst heq
      exact ⟨d.nextTid, .starting, Function.update_self .., WorkerPhase.noConfusion⟩
    · have hserving : d.main.serving ≠ some i := by
        rw [hmain]
        exact fun hf => heq (Option.some.inj hf).symm
      obtain ⟨t, phase, ht, hfreed⟩ := h.served i hbusy hserving
      have hold : t ≠ d.nextTid := by
        rintro rfl
        rw [hunused] at ht
        cases ht
      refine ⟨t, phase, ?_, hfreed⟩
      show Function.update d.workers d.nextTid _ t = _
      rwa [Function.update_of_ne hold]

/-- Or it could not be started, and the slot is freed again. -/
theorem BitmapRight.undo (h : BitmapRight d) {r : Registration} {f : Fin maxSlots}
    (hmain : d.main = .undoing r f) (hnone : d.owner = none) {pc : MainPc} (hplain : pc.Plain) :
    BitmapRight { (d.disconnect f).markSlotFree f with
      threads := Function.update d.threads f none
      main := pc } := by
  refine ⟨fun t i loaded ht => ?_, fun r type f hm => absurd hm (hplain.idle.1 r type f),
    fun now i loaded hm => absurd hm (hplain.idle.2.1 now i loaded), fun i hi => ?_, fun i hbusy _ => ?_⟩
  · exact absurd ht (h.not_freeing (Or.inl hnone))
  · change pc.marked = some i at hi
    rw [hplain.marked] at hi
    cases hi
  · change Function.update d.freeSlots f true i = false at hbusy
    have hne : i ≠ f := by
      rintro rfl
      rw [Function.update_self] at hbusy
      cases hbusy
    rw [Function.update_of_ne hne] at hbusy
    refine h.served i hbusy ?_
    rw [hmain]
    exact fun hf => hne (Option.some.inj hf).symm

/-- The anti-ghost loop may mark slots free; the main thread holds the mutex. -/
theorem BitmapRight.ghosts (h : BitmapRight d) {r : Registration} {type : ControllerType}
    (hmain : d.main = .checking r type) (hnone : d.owner = none) {g : WorkerSystem} (hghosts : Ghosts d g)
    {pc : MainPc} (hidle : pc.Idle) : BitmapRight (g.goto pc) := by
  have hserving : d.main.serving = none := by
    rw [hmain]
    rfl
  exact h.move hserving hghosts.freeSlots (Or.inr hnone) hghosts.workers hghosts.owner hidle

theorem MainPc.idle_joining (r : Registration) (type : ControllerType) (f : Fin maxSlots) :
    (MainPc.joining r type f).Idle :=
  ⟨fun _ _ _ => MainPc.noConfusion, fun _ _ _ => MainPc.noConfusion, rfl, rfl⟩

/-- **A step of the main thread on the tables** under the condition. -/
theorem BitmapRight.registrar (h : BitmapRight d) (hthreads : ThreadsRight d) {move : RegistrarMove}
    (hok : TablesKept (.registrar move) d) (hstep : registrarStep move d = some d') : BitmapRight d' := by
  cases registrarStep_stepped hstep with
  | watch hcalm => exact h.calm hcalm
  | join hjoin => exact h.joined hthreads hjoin
  | @markLoad now i hmain =>
      have hi : d.freeSlots i = true := h.marked i (by rw [hmain]; rfl)
      refine ⟨h.owner, fun _ _ _ hm => MainPc.noConfusion hm, fun _ _ _ hm => ?_, fun j hj => ?_,
        fun j hbusy _ => h.served j hbusy (by rw [hmain]; exact ne_some_of_none rfl j)⟩
      · exact (MainPc.storing.inj hm).2.2.symm
      · obtain rfl := Option.some.inj hj
        exact hi
  | @markStore now i loaded hmain =>
      obtain rfl := h.loaded now i loaded hmain
      -- the slot was free, so the store changes nothing
      have hi : d.freeSlots i = true := h.marked i (by rw [hmain]; rfl)
      have hsame : Function.update d.freeSlots i true = d.freeSlots := by
        rw [← hi]
        exact Function.update_eq_self i d.freeSlots
      have hgrow : ∀ j, d.freeSlots j = true → Function.update d.freeSlots i true j = true := by
        intro j hj
        rw [hsame]
        exact hj
      exact h.move (by rw [hmain]; rfl) hgrow (Or.inl hsame) rfl rfl
        ⟨fun _ _ _ => MainPc.noConfusion, fun _ _ _ => MainPc.noConfusion, rfl, rfl⟩
  | @checkBack _ r type g hmain hnone hghosts =>
      exact h.ghosts hmain hnone hghosts r.caller.plain_resume.idle
  | @checkWait _ r type g f hmain hnone hghosts hmissed =>
      exact h.ghosts hmain hnone hghosts (MainPc.idle_joining r type f)
  | @checkTake _ r type g f hmain hnone hghosts =>
      -- as if it waited, and took the mutex at once
      have hwait : BitmapRight (g.goto (.joining r type f)) :=
        h.ghosts hmain hnone hghosts (MainPc.idle_joining r type f)
      exact hwait.lock (hghosts.owner.trans hnone) rfl
  | relock hmain hnone => exact h.lock hnone (by rw [hmain]; rfl)
  | reinit hmain => exact h.reinit hmain
  -- excluded: nobody would serve the slot
  | createNothing => exact Bool.noConfusion hok
  | @create r f hmain => exact h.create hthreads hmain r.caller.plain_resume
  | @createFailed r f hmain =>
      refine ⟨h.owner, fun _ _ _ hm => MainPc.noConfusion hm, fun _ _ _ hm => MainPc.noConfusion hm,
        fun j hj => ?_, fun j hbusy hserving => h.served j hbusy ?_⟩
      · cases hj
      · rw [hmain]
        exact hserving
  | @undo r f hmain hnone => exact h.undo hmain hnone r.caller.plain_resume

end

theorem bitmapRight_initialWorkers (slots : Fin maxSlots → WorkerSlot) (clock : UInt64) :
    BitmapRight (initialWorkers slots clock) := by
  refine ⟨fun t i loaded ht => ?_, fun r type f hm => ?_, fun now i loaded hm => ?_, fun i hi => ?_,
    fun i hbusy _ => ?_⟩
  · cases ht
  · cases hm
  · cases hm
  · cases hi
  · cases hbusy

/-! ## Whole runs -/

/-- **One worker a slot, without exception**: over every run, a slot never has two live workers, and a
slot that is about to be initialised anew has none. -/
theorem one_worker_per_slot {ok : SystemMove → WorkerSystem → Prop} {slots : Fin maxSlots → WorkerSlot}
    {clock : UInt64} {d : WorkerSystem} (hrun : Run systemStep ok (initialWorkers slots clock) d) :
    (∀ t t' w w', d.workers t = some w → d.workers t' = some w' → w.slot = w'.slot → t = t') ∧
      ∀ r type f, d.main = .reinit r type f → ∀ t w, d.workers t = some w → w.slot ≠ f := by
  have hend : ThreadsRight d :=
    hrun.invariant (fun move a b ha _ hstep => ha.step hstep) (threadsRight_initialWorkers slots clock)
  refine ⟨fun t t' w w' ht ht' => hend.unique ht ht', fun r type f hmain t w ht => ?_⟩
  exact hend.no_worker (hend.vacant f (by rw [hmain]; rfl)) ht

/-- **Slots and workers correspond**, over every interleaving of registrations, worker starts and exits,
watchdog expiries and failures whose steps meet the condition. -/
theorem workers_kept {slots : Fin maxSlots → WorkerSlot} {clock : UInt64} {d : WorkerSystem}
    (hrun : Run systemStep TablesKept (initialWorkers slots clock) d) : WorkersKept d := by
  obtain ⟨hunique, hreinit⟩ := one_worker_per_slot hrun
  have hend : ThreadsRight d ∧ BitmapRight d := by
    refine hrun.invariant (I := fun d => ThreadsRight d ∧ BitmapRight d) ?_
      ⟨threadsRight_initialWorkers slots clock, bitmapRight_initialWorkers slots clock⟩
    intro move a b ⟨hthreads, hbitmap⟩ hok hstep
    refine ⟨hthreads.step hstep, ?_⟩
    cases move with
    | main move => exact hbitmap.calm (mainStep_calm hstep).1
    | stopService => exact hbitmap.calm (calm_stopService hstep).1
    | registrar move => exact hbitmap.registrar hthreads hok hstep
    | worker t move => exact hbitmap.worker hok hstep
  refine ⟨hunique, hreinit, fun i hbusy hserving => ?_⟩
  obtain ⟨t, phase, ht, -⟩ := hend.2.served i hbusy hserving
  exact ⟨t, _, ht, rfl⟩

/-- A DS4 is found and its worker started; the worker leaves its loop and frees the slot. -/
theorem workers_kept_one_worker :
    ∃ d, Run systemStep TablesKept exampleWorkers d ∧ d.freeSlots firstSlot = true ∧
      d.threads firstSlot = some 0 ∧ WorkersKept d := by
  have hrun : Run systemStep TablesKept exampleWorkers
      (reached systemStep
        [.main (.scanEntry "hidraw0".toList), .main (.openDevice (some (0x054c, 0x09cc))),
          .registrar (.check fun _ => true), .registrar .reinit, .registrar (.create true true),
          .worker 0 (.ready []), .worker 0 .leave, .worker 0 .store] exampleWorkers) := by
    refine .tail (.tail (.tail (.tail (.tail (.tail (.tail (.tail (.refl _)
      (a := .main (.scanEntry "hidraw0".toList)) trivial rfl)
      (a := .main (.openDevice (some (0x054c, 0x09cc)))) trivial rfl)
      (a := .registrar (.check fun _ => true)) trivial rfl) (a := .registrar .reinit) trivial rfl)
      (a := .registrar (.create true true)) rfl rfl) (a := .worker 0 (.ready [])) trivial rfl)
      (a := .worker 0 .leave) trivial rfl) (a := .worker 0 .store) ?_ rfl
    exact fun _ _ _ => MainPc.noConfusion
  exact ⟨_, hrun, rfl, rfl, workers_kept hrun⟩

/-- **A slot is lost to a failed `malloc`**: the attempt has finished, the slot is busy and connected, and
no worker was ever started. -/
theorem slot_lost_to_malloc :
    ∃ d, Run systemStep free exampleWorkers d ∧ d.freeSlots firstSlot = false ∧
      (d.slots firstSlot).connected = true ∧ ¬WorkersKept d := by
  obtain ⟨d, hrun, hd⟩ : ∃ d, Run systemStep free exampleWorkers d ∧
      (!d.freeSlots firstSlot && (d.slots firstSlot).connected && (d.threads firstSlot).isNone &&
        decide (d.main.serving = none)) = true :=
    exists_run_of_exec
      (p := fun d : WorkerSystem =>
        !d.freeSlots firstSlot && (d.slots firstSlot).connected && (d.threads firstSlot).isNone &&
          decide (d.main.serving = none))
      [.main (.scanEntry "hidraw0".toList), .main (.openDevice (some (0x054c, 0x09cc))),
        .registrar (.check fun _ => true), .registrar .reinit, .registrar (.create false false)]
      (by decide +kernel)
  simp only [Bool.and_eq_true, Bool.not_eq_true', Option.isNone_iff_eq_none, decide_eq_true_eq] at hd
  obtain ⟨⟨⟨hbusy, hconn⟩, hthread⟩, hserving⟩ := hd
  refine ⟨d, hrun, hbusy, hconn, fun hlaw => ?_⟩
  have hthreads : ThreadsRight d :=
    hrun.invariant (fun move a b ha _ hstep => ha.step hstep) (threadsRight_initialWorkers _ _)
  obtain ⟨t, w, ht, hslot⟩ := hlaw.served firstSlot hbusy (ne_some_of_none hserving _)
  exact hthreads.no_worker hthread ht hslot

/-- **And one to the watchdog**: it has stopped the worker of slot 0 and loaded the bitmap; the worker of
slot 1 frees its slot and ends; the watchdog stores the old bitmap. -/
theorem slot_freed_in_vain :
    ∃ d, Run systemStep free exampleWorkers d ∧ d.freeSlots secondSlot = false ∧
      d.threads secondSlot = some 1 ∧ d.workers 1 = none ∧ ¬WorkersKept d := by
  obtain ⟨d, hrun, hd⟩ : ∃ d, Run systemStep free exampleWorkers d ∧
      (!d.freeSlots secondSlot && decide (d.threads secondSlot = some 1) && (d.workers 1).isNone &&
        decide (d.main.serving = none)) = true :=
    exists_run_of_exec
      (p := fun d : WorkerSystem =>
        !d.freeSlots secondSlot && decide (d.threads secondSlot = some 1) && (d.workers 1).isNone &&
          decide (d.main.serving = none))
      (registerDs4 "hidraw0".toList ++ registerDs4 "hidraw1".toList ++
        [.main .scanEnd, .worker 0 (.ready []), .worker 1 (.ready []), .worker 0 (.beat 1),
          .main (.readClock 6000000), .registrar .watch, .worker 0 .leave, .worker 0 .store,
          .worker 0 .exit, .registrar .join, .registrar .markLoad, .worker 1 .leave, .worker 1 .store,
          .registrar .markStore, .worker 1 .exit])
      (by decide +kernel)
  simp only [Bool.and_eq_true, Bool.not_eq_true', Option.isNone_iff_eq_none, decide_eq_true_eq] at hd
  obtain ⟨⟨⟨hbusy, hthread⟩, hnone⟩, hserving⟩ := hd
  refine ⟨d, hrun, hbusy, hthread, hnone, fun hlaw => ?_⟩
  have hthreads : ThreadsRight d :=
    hrun.invariant (fun move a b ha _ hstep => ha.step hstep) (threadsRight_initialWorkers _ _)
  obtain ⟨t, w, ht, hslot⟩ := hlaw.served secondSlot hbusy (ne_some_of_none hserving _)
  exact hthreads.no_worker_of_ended ⟨1, hthread, hnone⟩ ht hslot

end Dstx
