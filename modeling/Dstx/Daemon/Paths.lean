/-
# Dstx.Daemon.Paths — can one controller have two slots?

`try_register_control` looks for the path among the `dev_path`s of the connected slots, and leaves the
controller alone when it is there.  But `dev_path` is not always the path a slot was registered under:

* the worker of a Switch Pro stores its EVENT node there, over the hidraw node;
* the buffer holds 127 characters;
* the watchdog passes the slot's own `dev_path`, which is gone when the slot is zeroed.

A second registration of the hidraw node — `/dev` is watched before it is scanned, so that a node may well
be reported twice — then finds nothing, and takes a second slot.  `origin` is the path that `dev_path` was
filled from, and `Recognised` says that the two agree for the path under registration.
-/
import Dstx.Daemon.Workers

namespace Dstx

open Dstx.Lib

/-! ## The property and its condition -/

/-- **No controller in two slots**: two connected slots do not stem from one path. -/
def DistinctOrigins (d : WorkerSystem) : Prop :=
  ∀ i j, (d.slots i).connected = true → (d.slots j).connected = true →
    (d.slots i).origin = (d.slots j).origin → i = j

/-- **The condition on a step**: when `try_register_control` looks for a path, a connected slot that was
registered under it still has it in `dev_path`. -/
def Recognised (move : SystemMove) (d : WorkerSystem) : Prop :=
  match move with
  | .registrar (.check _) =>
      ∀ r type, d.main = .checking r type → ∀ i, (d.slots i).connected = true →
        (d.slots i).origin = r.path → (d.slots i).devPath = r.path
  | _ => True

/-! ## The invariant -/

/-- The registration that has found its path nowhere in use, and has not yet filled its slot. -/
def MainPc.claim : MainPc → Option Registration
  | .joining r _ _ | .relocking r _ _ | .reinit r _ _ => some r
  | _ => none

theorem MainPc.Plain.claim {pc : MainPc} (h : pc.Plain) : pc.claim = none := by
  cases pc <;> first | rfl | exact h.elim

/-- **The paths are right**: no two connected slots stem from one path, nor does one stem from the path
of a registration under way. -/
structure PathsRight (d : WorkerSystem) : Prop where
  distinct : DistinctOrigins d
  unclaimed : ∀ r, d.main.claim = some r → ∀ i, (d.slots i).connected = true → (d.slots i).origin ≠ r.path

section

variable {d d' : WorkerSystem}

/-- Slots are at most disconnected, and no registration comes up. -/
theorem PathsRight.congr (h : PathsRight d) (horigin : ∀ i, (d'.slots i).origin = (d.slots i).origin)
    (hconnected : ∀ i, (d'.slots i).connected = true → (d.slots i).connected = true)
    (hclaim : ∀ r, d'.main.claim = some r → d.main.claim = some r) : PathsRight d' where
  distinct := fun i j hi hj hsame => by
    rw [horigin, horigin] at hsame
    exact h.distinct i j (hconnected i hi) (hconnected j hj) hsame
  unclaimed := fun r hr i hi => by
    rw [horigin]
    exact h.unclaimed r (hclaim r hr) i (hconnected i hi)

theorem PathsRight.calm (h : PathsRight d) (hcalm : Calm d d') : PathsRight d' := by
  refine h.congr hcalm.origin hcalm.connected fun r hr => ?_
  rcases hcalm.main with ⟨-, hplain⟩ | hsame
  · rw [hplain.claim] at hr
    cases hr
  · rwa [hsame] at hr

theorem PathsRight.joined (h : PathsRight d) {i : Fin maxSlots} (hjoin : Joined d d' i) :
    PathsRight d' := by
  refine h.congr hjoin.origin hjoin.connected fun r hr => ?_
  rcases hjoin.main with ⟨-, hplain | ⟨now, hmain⟩⟩ | ⟨r', type, hfrom, hmain⟩
  · rw [hplain.claim] at hr
    cases hr
  · rw [hmain] at hr
    cases hr
  · -- the claim of the registration that waited
    rw [hmain] at hr
    rw [hfrom]
    exact hr

/-- **The first critical section** of `try_register_control`: what it has missed is in no slot. -/
theorem PathsRight.check (h : PathsRight d) {g : WorkerSystem} (hghosts : Ghosts d g)
    (hslots : d'.slots = g.slots)
    (hclaim : ∀ r, d'.main.claim = some r →
      (∀ i, (d.slots i).connected = true → (d.slots i).origin = r.path → (d.slots i).devPath = r.path) ∧
        ∀ i, (g.slots i).connected = true → (d.slots i).devPath ≠ r.path) : PathsRight d' where
  distinct := fun i j hi hj hsame => by
    rw [hslots] at hi hj hsame
    rw [hghosts.origin, hghosts.origin] at hsame
    exact h.distinct i j (hghosts.connected i hi) (hghosts.connected j hj) hsame
  unclaimed := fun r hr i hi horigin => by
    rw [hslots] at hi horigin
    rw [hghosts.origin] at horigin
    obtain ⟨hrecognised, hmissed⟩ := hclaim r hr
    exact hmissed i hi (hrecognised i (hghosts.connected i hi) horigin)

/-- **The second one**: the slot takes the path of the registration. -/
theorem PathsRight.reinit (h : PathsRight d) {r : Registration} {type : ControllerType}
    {f : Fin maxSlots} (hmain : d.main = .reinit r type f) : PathsRight (d.reinit r type f) := by
  have hfree : ∀ i, (d.slots i).connected = true → (d.slots i).origin ≠ r.path :=
    h.unclaimed r (by rw [hmain]; rfl)
  have hself : ((d.reinit r type f).slots f).origin = r.path := by
    show (Function.update d.slots f _ f).origin = r.path
    rw [Function.update_self]
  have hother : ∀ i, i ≠ f → (d.reinit r type f).slots i = d.slots i := by
    intro i hi
    exact Function.update_of_ne hi ..
  refine ⟨fun i j hi hj hsame => ?_, fun r' hr' => ?_⟩
  · -- slot `f` against an old one, in either order, or two old ones
    by_cases hif : i = f
    · by_cases hjf : j = f
      · rw [hif, hjf]
      · subst hif
        rw [hself, hother j hjf] at hsame
        rw [hother j hjf] at hj
        exact absurd hsame.symm (hfree j hj)
    · rw [hother i hif] at hi hsame
      by_cases hjf : j = f
      · subst hjf
        rw [hself] at hsame
        exact absurd hsame (hfree i hi)
      · rw [hother j hjf] at hj hsame
        exact h.distinct i j hi hj hsame
  · cases hr'

/-- **One step** that meets the condition. -/
theorem PathsRight.step (h : PathsRight d) {move : SystemMove} (hok : Recognised move d)
    (hstep : systemStep move d = some d') : PathsRight d' := by
  cases move with
  | main move => exact h.calm (mainStep_calm hstep).1
  | stopService => exact h.calm (calm_stopService hstep).1
  | worker t move =>
      obtain ⟨i, record, hworker⟩ := workerStep_stepped hstep
      refine h.congr hworker.origin hworker.connected fun r hr => ?_
      rwa [hworker.main] at hr
  | registrar move =>
      have hresume : ∀ (c : RegisterCaller) (r : Registration), c.resume.claim = some r → False := by
        intro c r hr
        rw [c.plain_resume.claim] at hr
        cases hr
      cases registrarStep_stepped hstep with
      | watch hcalm => exact h.calm hcalm
      | join hjoin => exact h.joined hjoin
      | markLoad | markStore | createFailed =>
          exact h.congr (fun _ => rfl) (fun _ hi => hi) fun r hr => by cases hr
      | checkBack _ _ hghosts => exact h.check hghosts rfl fun r hr => (hresume _ r hr).elim
      | @checkWait _ r type g f hmain _ hghosts hmissed
      | @checkTake _ r type g f hmain _ hghosts hmissed =>
          -- the registration claims its path from here on
          refine h.check hghosts rfl fun r' hr' => ?_
          obtain rfl := Option.some.inj hr'
          exact ⟨hok r type hmain, hmissed⟩
      | @relock r type f hmain =>
          refine h.congr (fun _ => rfl) (fun _ hi => hi) fun r' hr' => ?_
          rw [hmain]
          exact hr'
      | reinit hmain => exact h.reinit hmain
      | createNothing | create =>
          exact h.congr (fun _ => rfl) (fun _ hi => hi) fun r hr => (hresume _ r hr).elim
      | undo =>
          exact h.congr (apply_update WorkerSlot.origin d.slots rfl)
            (fun _ hi => (connected_of_disconnect hi).1) fun r hr => (hresume _ r hr).elim

end

theorem pathsRight_initialWorkers (slots : Fin maxSlots → WorkerSlot) (clock : UInt64) :
    PathsRight (initialWorkers slots clock) := by
  refine ⟨fun i j hi => ?_, fun r hr => ?_⟩
  · cases hi
  · cases hr

/-! ## Whole runs -/

/-- **No controller occupies two slots**, over every sequence of scan entries and events, whatever the
workers and the watchdog do in between, when every step meets the condition. -/
theorem no_controller_in_two_slots {slots : Fin maxSlots → WorkerSlot} {clock : UInt64}
    {d : WorkerSystem} (hrun : Run systemStep Recognised (initialWorkers slots clock) d) :
    DistinctOrigins d := by
  have hend : PathsRight d :=
    hrun.invariant (fun move a b ha hok hstep => ha.step hok hstep)
      (pathsRight_initialWorkers slots clock)
  exact hend.distinct

/-- A DS4 is found by the scan, and found again by it: it stays in its slot. -/
theorem no_controller_in_two_slots_ds4 :
    ∃ d, Run systemStep Recognised exampleWorkers d ∧ (d.slots firstSlot).connected = true ∧
      (d.slots firstSlot).origin = "/dev/hidraw0".toList ∧ (d.slots secondSlot).connected = false ∧
      DistinctOrigins d := by
  have hrun : Run systemStep Recognised exampleWorkers
      (reached systemStep
        (registerDs4 "hidraw0".toList ++
          [.worker 0 (.ready []), .main (.scanEntry "hidraw0".toList),
            .main (.openDevice (some (0x054c, 0x09cc))), .registrar (.check fun _ => true)])
        exampleWorkers) := by
    refine .tail (.tail (.tail (.tail (.tail (.tail (.tail (.tail (.tail (.refl _)
      (a := .main (.scanEntry "hidraw0".toList)) trivial rfl)
      (a := .main (.openDevice (some (0x054c, 0x09cc)))) trivial rfl)
      (a := .registrar (.check fun _ => true)) ?_ rfl) (a := .registrar .reinit) trivial rfl)
      (a := .registrar (.create true true)) trivial rfl) (a := .worker 0 (.ready [])) trivial rfl)
      (a := .main (.scanEntry "hidraw0".toList)) trivial rfl)
      (a := .main (.openDevice (some (0x054c, 0x09cc)))) trivial rfl)
      (a := .registrar (.check fun _ => true)) ?_ rfl
    · intro r type hmain i hi
      cases hi
    · intro r type hmain
      obtain ⟨rfl, -⟩ := MainPc.checking.inj hmain
      decide +kernel
  exact ⟨_, hrun, rfl, rfl, rfl, no_controller_in_two_slots hrun⟩

/-- A Switch Pro is found by the scan; its worker stores its event node over the hidraw node; the first
pass of the watchdog finds nothing to do; and an event reports the hidraw node once more. -/
def switchTwiceMoves : List SystemMove :=
  [.main (.scanEntry "hidraw0".toList), .main (.openDevice (some (0x057e, 0x2009))),
    .registrar (.check fun _ => true), .registrar .reinit, .registrar (.create true true),
    .worker 0 (.ready "/dev/input/event5".toList), .main .scanEnd, .main (.readClock 0),
    .registrar .watch, .registrar .watch, .registrar .watch, .registrar .watch, .registrar .watch,
    .main .lostCheck, .main .lostCheck, .main .lostCheck, .main .lostCheck, .main .lostCheck,
    .main (.event "hidraw0".toList), .main (.openDevice (some (0x057e, 0x2009))),
    .registrar (.check fun _ => true), .registrar .reinit]

/-- **It occupies two slots.** -/
theorem switchPro_in_two_slots :
    ∃ d, Run systemStep free exampleWorkers d ∧ (d.slots firstSlot).connected = true ∧
      (d.slots secondSlot).connected = true ∧
      (d.slots firstSlot).origin = (d.slots secondSlot).origin ∧ ¬DistinctOrigins d := by
  obtain ⟨d, hrun, hd⟩ : ∃ d, Run systemStep free exampleWorkers d ∧
      ((d.slots firstSlot).connected && (d.slots secondSlot).connected &&
        decide ((d.slots firstSlot).origin = (d.slots secondSlot).origin)) = true :=
    exists_run_of_exec
      (p := fun d : WorkerSystem =>
        (d.slots firstSlot).connected && (d.slots secondSlot).connected &&
          decide ((d.slots firstSlot).origin = (d.slots secondSlot).origin))
      switchTwiceMoves (by decide +kernel)
  simp only [Bool.and_eq_true, decide_eq_true_eq] at hd
  obtain ⟨⟨hfirst, hsecond⟩, hsame⟩ := hd
  refine ⟨d, hrun, hfirst, hsecond, hsame, fun hlaw => ?_⟩
  exact absurd (hlaw firstSlot secondSlot hfirst hsecond hsame) (by decide)

end Dstx
