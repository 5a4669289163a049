/-
# Dstx.Daemon.Answers — what a front end is told about the daemon.

A call of `try_connect_shm` or `is_daemon_alive` takes many steps, and everything it looks at may change between
two of them.  So its answer can only be right about a time when nothing changes: it is `true` if a daemon was
ready ever since the call began, and `false` if none was there (`liveness_answers_right`).

The proof is an annotation of the code: `Prober.Knows` says at each place of a call what the front end knows in
either case, the moves of everybody else leave that as it is (`CallRight.pass`), and each step of the call leads
from what is known before it to what is known after it (`CallRight.probe`).
-/
import Dstx.Daemon.Liveness

namespace Dstx

open Dstx.Lib

section

variable {ω : Type*} [DecidableEq ω] {d d' : LivenessSystem ω}

/-! ## Places in a call -/

/-- A place in the code of the call. -/
def ProberPc.fits : ProberCall → ProberPc → Bool
  | _, .idle => true
  | .stopService, .told _ => false
  | _, .told _ => true
  | .tryConnectShm, .opening | .tryConnectShm, .naming | .tryConnectShm, .waiting _ _
  | .tryConnectShm, .probing _ => true
  | .isDaemonAlive, .asking | .isDaemonAlive, .killing _ | .isDaemonAlive, .listening
  | .isDaemonAlive, .locking _ | .isDaemonAlive, .comparing _ => true
  | .stopService, .stopping => true
  | .tryConnectShm, _ => false
  | _, .clearing | _, .silencing | _, .unlocking => true
  | _, _ => false

/-- A place in `try_connect_shm`. -/
def ProberPc.connects : ProberPc → Bool
  | .opening | .naming | .waiting _ _ | .probing _ => true
  | _ => false

/-- A place in `is_daemon_alive` alone. -/
def ProberPc.checks : ProberPc → Bool
  | .asking | .killing _ | .listening | .locking _ | .comparing _ => true
  | _ => false

theorem call_of_connects {call : ProberCall} {pc : ProberPc} (hfits : pc.fits call = true)
    (hpc : pc.connects = true) : call = .tryConnectShm := by
  cases pc <;> first | (cases hpc; done) | (cases call <;> first | rfl | cases hfits)

theorem call_of_checks {call : ProberCall} {pc : ProberPc} (hfits : pc.fits call = true)
    (hpc : pc.checks = true) : call = .isDaemonAlive := by
  cases pc <;> first | (cases hpc; done) | (cases call <;> first | rfl | cases hfits)

/-- Whoever clears the entry goes on to the unlock. -/
theorem fits_unlocking (call : ProberCall) : ProberPc.fits call .clearing = ProberPc.fits call .unlocking ∧
    ProberPc.fits call .silencing = ProberPc.fits call .unlocking := by
  cases call <;> exact ⟨rfl, rfl⟩

theorem not_connects_of_checks {call : ProberCall} {pc : ProberPc} (hfits : pc.fits call = true)
    (hpc : pc.checks = true) : call ≠ .tryConnectShm := by
  rw [call_of_checks hfits hpc]
  simp

/-! ## What a front end knows -/

/-- The memory that is mapped names this pid, or nobody. -/
def LivenessSystem.Faded (d : LivenessSystem ω) (mapped : Option Nat) (pid : Int) : Prop :=
  ∀ s, mapped = some s → (d.shm s).daemonPid = pid ∨ (d.shm s).daemonPid ≤ 0

/-- The daemon has this pid. -/
def LivenessSystem.DaemonIs (d : LivenessSystem ω) (pid : Int) : Prop := ∀ r, d.daemon = some r → r.pid = pid

/-- **What a front end knows** at each place of a call, if a daemon was ready ever since it began, or none was
there. -/
def Prober.Knows (d : LivenessSystem ω) (p : Prober) : Prop :=
  match p.pc with
  | .idle | .opening | .asking | .stopping => True
  | .naming => p.ready = true → p.mapped = d.linked
  | .waiting pid _ | .probing pid => p.ready = true → p.mapped = d.linked ∧ d.DaemonIs pid
  | .killing pid => (p.ready = true → d.DaemonIs pid) ∧ (p.gone = true → d.Faded p.mapped pid)
  | .listening => p.gone = false
  | .locking pid | .comparing pid => p.ready = false ∧ (p.gone = true → d.Faded p.mapped pid)
  | .clearing => p.call = .isDaemonAlive → p.ready = false
  | .silencing | .unlocking => p.call = .isDaemonAlive → p.ready = false ∧ (p.gone = true → d.Faded p.mapped 0)
  | .told answer => (p.ready = true → answer = true) ∧
      (p.gone = true → answer = false ∧ (p.call = .isDaemonAlive → d.Faded p.mapped 0))

/-- **A call is on its way to the right answer.** -/
structure CallRight (d : LivenessSystem ω) (p : Prober) : Prop where
  served : p.ready = true → d.serves (p.target d) = true
  deserted : p.gone = true → p.deserted d = true
  fits : p.pc.fits p.call = true
  knows : p.Knows d

omit [DecidableEq ω] in
theorem serves_iff {target : Option Nat} : d.serves target = true ↔
    ∃ pid s, target = some s ∧ d.daemon = some ⟨pid, some (s, .looping)⟩ := by
  constructor
  · intro h
    simp only [LivenessSystem.serves, Option.any_eq_true, Bool.and_eq_true, beq_iff_eq] at h
    obtain ⟨⟨pid, place⟩, hd, ⟨s, pc⟩, hplace, htarget, hpc⟩ := h
    dsimp only at hplace htarget hpc
    rw [hplace, hpc] at hd
    exact ⟨pid, s, htarget, hd⟩
  · rintro ⟨pid, s, rfl, hd⟩
    simp [LivenessSystem.serves, hd]

omit [DecidableEq ω] in
/-- No daemon is there for whoever wants to connect. -/
theorem Prober.daemon_of_deserted {p : Prober} (h : p.deserted d = true) (hcall : p.call = .tryConnectShm) :
    d.daemon = none := by
  unfold Prober.deserted at h
  rw [hcall] at h
  exact Option.isNone_iff_eq_none.mp h

omit [DecidableEq ω] in
/-- No daemon uses the memory that is mapped. -/
theorem Prober.mapped_of_deserted {p : Prober} (h : p.deserted d = true) (hcall : p.call ≠ .tryConnectShm)
    {r : RunningDaemon} {s : Nat} {pc : StartPc} (hr : d.daemon = some r) (hplace : r.place = some (s, pc)) :
    p.mapped ≠ some s := by
  intro hs
  unfold Prober.deserted at h
  cases hc : p.call <;> rw [hc] at h
  · exact hcall hc
  · simp [hr, hplace, hs] at h
  · simp [hr, hplace, hs] at h

/-! ## The others' moves -/

/-- **What a move may do to a front end that does not make it**: the daemon and the name stay or go, and so does
the entry of a memory that the daemon does not use. -/
structure Passes (d d' : LivenessSystem ω) : Prop where
  pid : ∀ r r', d.daemon = some r → d'.daemon = some r' → r'.pid = r.pid
  linked : ∀ s s', d.linked = some s → d'.linked = some s' → s' = s
  entry : ∀ s, s < d.created → (∀ r pc, d'.daemon = some r → r.place ≠ some (s, pc)) →
    (d'.shm s).daemonPid = (d.shm s).daemonPid ∨ (d'.shm s).daemonPid = 0

omit [DecidableEq ω] in
/-- A move that leaves the daemon, the name and the pids alone. -/
theorem Passes.of_same (hdaemon : d'.daemon = d.daemon) (hlinked : d'.linked = d.linked)
    (hshm : ∀ s, (d'.shm s).daemonPid = (d.shm s).daemonPid) : Passes d d' where
  pid := fun r r' hr hr' => by
    rw [hdaemon, hr] at hr'
    rw [Option.some.inj hr']
  linked := fun s s' hs hs' => by
    rw [hlinked, hs] at hs'
    exact (Option.some.inj hs').symm
  entry := fun s _ _ => Or.inl (hshm s)

/-- **Every move passes.** -/
theorem move_passes {move : LivenessMove ω} (hmove : d.move move = some d') : Passes d d' := by
  cases move with
  | unlink =>
      cases hmove
      refine ⟨fun r r' hr hr' => ?_, fun s s' _ hs' => ?_, fun s _ _ => Or.inl rfl⟩
      · rw [Option.some.inj (hr.symm.trans hr')]
      · cases hs'
  | start pid =>
      simp only [LivenessSystem.move] at hmove
      split_ifs at hmove with hcan
      cases hmove
      simp only [Bool.and_eq_true, Option.isNone_iff_eq_none] at hcan
      refine ⟨fun r r' hr _ => ?_, fun s s' hs hs' => ?_, fun s _ _ => Or.inl rfl⟩
      · rw [hcan.1.1] at hr
        cases hr
      · exact Option.some.inj (hs'.symm.trans hs)
  | daemon =>
      have hmove : d.daemonStep = some d' := hmove
      unfold LivenessSystem.daemonStep at hmove
      split at hmove
      · cases hmove
      · rename_i pid hd
        split at hmove
        · rename_i s hs
          cases hmove
          refine ⟨fun r r' hr hr' => ?_, fun s s' hs hs' => ?_, fun s _ _ => Or.inl rfl⟩
          · rw [hd] at hr
            cases hr
            cases hr'
            rfl
          · exact Option.some.inj (hs'.symm.trans hs)
        · rename_i hlinked
          cases hmove
          refine ⟨fun r r' hr hr' => ?_, fun s s' hs _ => ?_, fun s hlt _ => Or.inl ?_⟩
          · rw [hd] at hr
            cases hr
            cases hr'
            rfl
          · rw [hlinked] at hs
            cases hs
          · show (Function.update d.shm d.created .zero s).daemonPid = _
            rw [Function.update_of_ne (Nat.ne_of_lt hlt)]
      · rename_i pid s pc hd
        obtain ⟨⟨pc', m'⟩, -, rfl⟩ := Option.map_eq_some_iff.mp hmove
        refine ⟨fun r r' hr hr' => ?_, fun s s' hs hs' => ?_, fun t _ hapart => Or.inl ?_⟩
        · rw [hd] at hr
          cases hr
          cases hr'
          rfl
        · exact Option.some.inj (hs'.symm.trans hs)
        · -- the daemon works on the memory it uses
          have hne : t ≠ s := by
            rintro rfl
            exact hapart _ pc' rfl rfl
          show (Function.update d.shm s m' t).daemonPid = _
          rw [Function.update_of_ne hne]
  | die =>
      cases hmove
      refine ⟨fun r r' _ hr' => ?_, fun s s' hs hs' => ?_, fun s _ _ => Or.inl ?_⟩
      · cases hr'
      · exact Option.some.inj (hs'.symm.trans hs)
      · exact (d.shm s).unlock_daemonPid _
  | spawn pid =>
      simp only [LivenessSystem.move] at hmove
      split_ifs at hmove
      cases hmove
      exact .of_same rfl rfl fun _ => rfl
  | exit pid =>
      cases hmove
      exact .of_same rfl rfl fun _ => rfl
  | call o call =>
      simp only [LivenessSystem.move] at hmove
      split_ifs at hmove
      cases hmove
      exact .of_same rfl rfl fun _ => rfl
  | prober o =>
      have hmove : d.proberStep o = some d' := hmove
      unfold LivenessSystem.proberStep at hmove
      dsimp only at hmove
      split at hmove
      · cases hmove
        exact .of_same rfl rfl fun _ => rfl
      · obtain ⟨s, hs, hstep⟩ := Option.bind_eq_some_iff.mp hmove
        obtain ⟨⟨pc', m', keep⟩, hprobe, rfl⟩ := Option.map_eq_some_iff.mp hstep
        refine ⟨fun r r' hr hr' => ?_, fun s s' hs hs' => ?_, fun t _ _ => ?_⟩
        · rw [Option.some.inj (hr.symm.trans hr')]
        · exact Option.some.inj (hs'.symm.trans hs)
        · show (Function.update d.shm s m' t).daemonPid = _ ∨ (Function.update d.shm s m' t).daemonPid = 0
          by_cases hts : t = s
          · subst hts
            rw [Function.update_self]
            exact (probeStep_probed hprobe).daemonPid
          · rw [Function.update_of_ne hts]
            exact Or.inl rfl
  | disconnect o =>
      simp only [LivenessSystem.move] at hmove
      split_ifs at hmove
      cases hmove
      exact .of_same rfl rfl fun _ => rfl
  | leave o =>
      cases hmove
      exact .of_same rfl rfl fun s => (d.shm s).unlock_daemonPid _

omit [DecidableEq ω] in
/-- The ghosts only fall. -/
theorem Prober.witness_ready {p : Prober} (h : (p.witness d).ready = true) :
    p.ready = true ∧ d.serves (p.target d) = true := Bool.and_eq_true_iff.mp h

omit [DecidableEq ω] in
theorem Prober.witness_gone {p : Prober} (h : (p.witness d).gone = true) :
    p.gone = true ∧ p.deserted d = true := Bool.and_eq_true_iff.mp h

omit [DecidableEq ω] in
/-- **A front end that does not move knows what it knew.** -/
theorem CallRight.pass {p : Prober} (h : CallRight d p) (hmapped : ∀ s, p.mapped = some s → s < d.created)
    (hpass : Passes d d') : CallRight d' (p.witness d') := by
  have hlinked : (p.witness d').ready = true → p.call = .tryConnectShm → d'.linked = d.linked := by
    intro hready hcall
    obtain ⟨hold, hnow⟩ := Prober.witness_ready hready
    obtain ⟨-, s, hs, -⟩ := serves_iff.mp (h.served hold)
    obtain ⟨-, s', hs', -⟩ := serves_iff.mp hnow
    simp only [Prober.target, hcall] at hs hs'
    rw [hs, hs', hpass.linked s s' hs hs']
  have hdaemon : (p.witness d').ready = true → ∀ q, d.DaemonIs q → d'.DaemonIs q := by
    intro hready q hq r' hr'
    obtain ⟨pid, s, -, hd⟩ := serves_iff.mp (h.served (Prober.witness_ready hready).1)
    rw [hpass.pid _ r' hd hr']
    exact hq _ hd
  have hfaded : (p.witness d').gone = true → p.call ≠ .tryConnectShm → ∀ q, d.Faded p.mapped q →
      d'.Faded p.mapped q := by
    intro hgone hcall q hq s hs
    have hapart : ∀ r pc, d'.daemon = some r → r.place ≠ some (s, pc) := fun r pc hr hplace =>
      Prober.mapped_of_deserted (Prober.witness_gone hgone).2 hcall hr hplace hs
    rcases hpass.entry s (hmapped s hs) hapart with hsame | hzero
    · rw [hsame]
      exact hq s hs
    · rw [hzero]
      exact Or.inr (Int.le_refl 0)
  have hready : p.ready = false → (p.witness d').ready = false := fun hold => by
    simp [Prober.witness, hold]
  refine ⟨fun hready => (Prober.witness_ready hready).2, fun hgone => (Prober.witness_gone hgone).2, h.fits, ?_⟩
  have hfits := h.fits
  have hknows := h.knows
  unfold Prober.Knows at hknows ⊢
  simp only [Prober.witness]
  generalize hpc : p.pc = pc at hknows hfits ⊢
  cases pc with
  | idle | opening | asking | stopping => trivial
  | naming =>
      intro hnow
      exact (hknows (Prober.witness_ready hnow).1).trans (hlinked hnow (call_of_connects hfits rfl)).symm
  | waiting pid left | probing pid =>
      intro hnow
      obtain ⟨hmap, hpid⟩ := hknows (Prober.witness_ready hnow).1
      exact ⟨hmap.trans (hlinked hnow (call_of_connects hfits rfl)).symm, hdaemon hnow pid hpid⟩
  | killing pid =>
      refine ⟨fun hnow => hdaemon hnow pid (hknows.1 (Prober.witness_ready hnow).1), fun hnow => ?_⟩
      exact hfaded hnow (not_connects_of_checks hfits rfl) pid (hknows.2 (Prober.witness_gone hnow).1)
  | listening => exact Bool.and_eq_false_iff.mpr (Or.inl hknows)
  | locking pid | comparing pid =>
      refine ⟨hready hknows.1, fun hnow => ?_⟩
      exact hfaded hnow (not_connects_of_checks hfits rfl) pid (hknows.2 (Prober.witness_gone hnow).1)
  | clearing => exact fun hcall => hready (hknows hcall)
  | silencing | unlocking =>
      intro hcall
      refine ⟨hready (hknows hcall).1, fun hnow => ?_⟩
      exact hfaded hnow (by rw [hcall]; simp) 0 ((hknows hcall).2 (Prober.witness_gone hnow).1)
  | told answer =>
      refine ⟨fun hnow => hknows.1 (Prober.witness_ready hnow).1, fun hnow => ?_⟩
      obtain ⟨hanswer, hentry⟩ := hknows.2 (Prober.witness_gone hnow).1
      exact ⟨hanswer, fun hcall => hfaded hnow (by rw [hcall]; simp) 0 (hentry hcall)⟩

/-! ## Its own moves -/

omit [DecidableEq ω] in
/-- What the ghosts say is so. -/
theorem CallRight.of_knows {p : Prober} (hfits : p.pc.fits p.call = true) (hknows : (p.witness d).Knows d) :
    CallRight d (p.witness d) :=
  ⟨fun h => (Prober.witness_ready h).2, fun h => (Prober.witness_gone h).2, hfits, hknows⟩

omit [DecidableEq ω] in
/-- **A call begins**; without a memory `is_daemon_alive` answers at once. -/
theorem CallRight.begin (p : Prober) (call : ProberCall) : CallRight d ((p.begin call).witness d) := by
  obtain ⟨mapped, mayKill, call₀, pc, ready, gone⟩ := p
  cases call with
  | tryConnectShm => exact .of_knows rfl trivial
  | isDaemonAlive =>
      cases mapped with
      | some s => exact .of_knows rfl trivial
      | none =>
          refine .of_knows rfl ⟨fun hready => ?_, fun _ => ⟨rfl, fun _ s hs => ?_⟩⟩
          · obtain ⟨pid, s, hs, -⟩ := serves_iff.mp (Prober.witness_ready hready).2
            cases hs
          · cases hs
  | stopService =>
      cases mapped with
      | some s => exact .of_knows rfl trivial
      | none => exact .of_knows rfl trivial

omit [DecidableEq ω] in
/-- **The memory is opened**: the one a ready daemon uses has the right magic. -/
theorem CallRight.opens {p : Prober} (h : CallRight d p) (hloop : LoopRegistered d) (hpc : p.pc = .opening)
    (probers : ω → Prober) :
    CallRight { d with probers := probers }
      (({ p with mapped := d.opened, pc := if d.opened.isSome then .naming else .told false } : Prober).witness
        { d with probers := probers }) := by
  have hcall : p.call = .tryConnectShm := call_of_connects h.fits (by rw [hpc]; rfl)
  cases hopened : d.opened with
  | some s =>
      refine .of_knows (by rw [hcall]; rfl) fun _ => ?_
      exact (Option.filter_eq_some_iff.mp hopened).1.symm
  | none =>
      refine .of_knows (by rw [hcall]; rfl) ⟨fun hready => ?_, fun _ => ⟨rfl, fun hc => ?_⟩⟩
      · obtain ⟨pid, s, hs, hd⟩ := serves_iff.mp (h.served (Prober.witness_ready hready).1)
        simp only [Prober.target, hcall] at hs
        have hsome : d.opened = some s := Option.filter_eq_some_iff.mpr ⟨hs, (hloop pid s hd).1⟩
        rw [hopened] at hsome
        cases hsome
      · have hc : p.call = .isDaemonAlive := hc
        rw [hcall] at hc
        cases hc

/-- **A call goes on** to the right answer. -/
theorem CallRight.probe {p : Prober} (h : CallRight d p) {o : ω} (hlive : LivenessRight d)
    (hp : ProberRight d o p) {s : Nat} (hs : p.mapped = some s) {pc' : ProberPc} {m' : ShmFile ω} {keep : Bool}
    (hstep : Probed o (d.kill p.mayKill) p.call (d.shm s) p.pc pc' m' keep) (probers : ω → Prober) :
    CallRight { d with shm := Function.update d.shm s m', probers := probers }
      (({ p with pc := pc', mapped := if keep then some s else none } : Prober).witness
        { d with shm := Function.update d.shm s m', probers := probers }) := by
  -- a daemon that is ready is registered in the memory that is mapped
  have hregistered : p.ready = true → (p.call = .tryConnectShm → p.mapped = d.linked) →
      ∃ pid, d.daemon = some ⟨pid, some (s, .looping)⟩ ∧ 0 < (d.shm s).daemonPid ∧ (d.shm s).daemonPid = pid ∧
        (d.shm s).heartbeat ≠ 0 := by
    intro hready hconnected
    obtain ⟨pid, t, ht, hd⟩ := serves_iff.mp (h.served hready)
    have hts : t = s := by
      unfold Prober.target at ht
      cases hc : p.call <;> rw [hc] at ht
      · rw [← hconnected hc, hs] at ht
        exact (Option.some.inj ht).symm
      · exact Option.some.inj (ht.symm.trans hs)
      · exact Option.some.inj (ht.symm.trans hs)
    subst hts
    obtain ⟨-, hpid, hbeat⟩ := hlive.loopRegistered pid t hd
    refine ⟨pid, hd, ?_, hpid, hbeat⟩
    rw [hpid]
    exact (hlive.alone _ hd).1
  -- a process that has the pid it holds is a daemon that uses this memory
  have hthere : ∀ q, p.pc.holds = some q → d.kill p.mayKill q ≠ .noSuchProcess → p.gone = false := by
    intro q hq hkill
    obtain ⟨-, hother, hheld⟩ := hp.held q hq
    obtain ⟨r, hr, hpid⟩ := exists_of_running hother (by simpa [kill_eq_noSuchProcess] using hkill)
    obtain ⟨t, pc, ht, hplace, -⟩ := hheld r hr hpid
    by_contra hgone
    have hdeserted := h.deserted (by simpa using hgone)
    by_cases hc : p.call = .tryConnectShm
    · rw [Prober.daemon_of_deserted hdeserted hc] at hr
      cases hr
    · exact Prober.mapped_of_deserted hdeserted hc hr hplace ht
  -- a pid that is nobody's is not the ready daemon's
  have hdead : ∀ q, d.DaemonIs q → d.kill p.mayKill q = .noSuchProcess → p.ready = false := by
    intro q hq hkill
    by_contra hready
    obtain ⟨pid, t, -, hd⟩ := serves_iff.mp (h.served (by simpa using hready))
    have hrunning : d.running pid = true := running_daemon hd
    rw [show pid = q from hq _ hd, kill_eq_noSuchProcess.mp hkill] at hrunning
    cases hrunning
  have hfade : ∀ q, (m'.daemonPid = q ∨ m'.daemonPid ≤ 0) →
      LivenessSystem.Faded { d with shm := Function.update d.shm s m', probers := probers }
        (if keep then some s else none) q := by
    intro q hq t ht
    split_ifs at ht
    cases ht
    show (Function.update d.shm s m' s).daemonPid = q ∨ (Function.update d.shm s m' s).daemonPid ≤ 0
    rw [Function.update_self]
    exact hq
  have hknows := h.knows
  have hfits := h.fits
  unfold Prober.Knows at hknows
  generalize hpc : p.pc = pc at hknows hfits hstep hthere
  cases hstep with
  | noPid hpid =>
      have hc := call_of_connects hfits rfl
      refine .of_knows (hc ▸ rfl) ⟨fun hready => ?_, fun _ => ⟨rfl, fun hcheck => ?_⟩⟩
      · have hold := (Prober.witness_ready hready).1
        obtain ⟨pid, -, hpos, -⟩ := hregistered hold fun _ => hknows hold
        omega
      · exact absurd (hc.symm.trans hcheck) (by simp)
  | pid hpid =>
      have hc := call_of_connects hfits rfl
      refine .of_knows (hc ▸ rfl) fun hready => ?_
      have hold := (Prober.witness_ready hready).1
      obtain ⟨pid, hd, -, hsame, -⟩ := hregistered hold fun _ => hknows hold
      refine ⟨hs.symm.trans (hknows hold), fun r hr => ?_⟩
      rw [hsame, ← Option.some.inj (hd.symm.trans hr)]
  | beat pid left | again pid left =>
      have hc := call_of_connects hfits rfl
      refine .of_knows (hc ▸ rfl) fun hready => ?_
      obtain ⟨hmap, hpid⟩ := hknows (Prober.witness_ready hready).1
      exact ⟨hs.symm.trans hmap, hpid⟩
  | noBeat pid hbeat =>
      have hc := call_of_connects hfits rfl
      refine .of_knows (hc ▸ rfl) ⟨fun hready => ?_, fun _ => ⟨rfl, fun hcheck => ?_⟩⟩
      · have hold := (Prober.witness_ready hready).1
        obtain ⟨pid', -, -, -, hne⟩ := hregistered hold fun _ => (hknows hold).1
        exact absurd hbeat hne
      · exact absurd (hc.symm.trans hcheck) (by simp)
  | noProcess pid hkill =>
      have hc := call_of_connects hfits rfl
      refine .of_knows (hc ▸ rfl) ⟨fun hready => ?_, fun _ => ⟨rfl, fun hcheck => ?_⟩⟩
      · have hold := (Prober.witness_ready hready).1
        rw [hdead pid (hknows hold).2 hkill] at hold
        cases hold
      · exact absurd (hc.symm.trans hcheck) (by simp)
  | process pid hkill =>
      have hc := call_of_connects hfits rfl
      refine .of_knows (hc ▸ rfl) ⟨fun _ => rfl, fun hgone => ?_⟩
      have hold := (Prober.witness_gone hgone).1
      rw [hthere pid rfl hkill] at hold
      cases hold
  | askedNone hpid =>
      have hc := call_of_checks hfits rfl
      refine .of_knows (hc ▸ rfl) ⟨fun hready => ?_, fun _ => ⟨rfl, fun _ => hfade 0 (Or.inr hpid)⟩⟩
      obtain ⟨pid, -, hpos, -⟩ :=
        hregistered (Prober.witness_ready hready).1 fun h => absurd (hc.symm.trans h) (by simp)
      omega
  | asked hpid =>
      have hc := call_of_checks hfits rfl
      refine .of_knows (hc ▸ rfl) ⟨fun hready r hr => ?_, fun _ => hfade _ (Or.inl rfl)⟩
      obtain ⟨pid, hd, -, hsame, -⟩ :=
        hregistered (Prober.witness_ready hready).1 fun h => absurd (hc.symm.trans h) (by simp)
      rw [hsame, ← Option.some.inj (hd.symm.trans hr)]
  | dead pid hkill =>
      have hc := call_of_checks hfits rfl
      have hready : p.ready = false := by
        by_contra hready
        have hold : p.ready = true := by simpa using hready
        rw [hdead pid (hknows.1 hold) hkill] at hold
        cases hold
      exact .of_knows (hc ▸ rfl) ⟨by simp [Prober.witness, hready],
        fun hgone => hfade pid (hknows.2 (Prober.witness_gone hgone).1 s hs)⟩
  | notPermitted pid hkill =>
      have hc := call_of_checks hfits rfl
      refine .of_knows (hc ▸ rfl) ⟨fun _ => rfl, fun hgone => ?_⟩
      have hold := (Prober.witness_gone hgone).1
      rw [hthere pid rfl hkill] at hold
      cases hold
  | there pid hkill =>
      have hc := call_of_checks hfits rfl
      exact .of_knows (hc ▸ rfl) (by simp [Prober.Knows, Prober.witness, hthere pid rfl hkill])
  | listened =>
      have hc := call_of_checks hfits rfl
      refine .of_knows (hc ▸ rfl) ⟨fun hready => ?_, fun hgone => ?_⟩
      · obtain ⟨pid, -, -, -, hne⟩ :=
          hregistered (Prober.witness_ready hready).1 fun h => absurd (hc.symm.trans h) (by simp)
        simpa using hne
      · have hold := (Prober.witness_gone hgone).1
        rw [hknows] at hold
        cases hold
  | locked pid hfree =>
      have hc := call_of_checks hfits rfl
      exact .of_knows (hc ▸ rfl) ⟨by simp [Prober.witness, hknows.1],
        fun hgone => hfade pid (hknows.2 (Prober.witness_gone hgone).1 s hs)⟩
  | same pid hsame =>
      have hc := call_of_checks hfits rfl
      exact .of_knows (hc ▸ rfl) fun _ => by simp [Prober.witness, hknows.1]
  | other pid hother =>
      have hc := call_of_checks hfits rfl
      refine .of_knows (hc ▸ rfl) fun _ => ⟨by simp [Prober.witness, hknows.1], fun hgone => hfade 0 (Or.inr ?_)⟩
      -- it is not the pid that was loaded, so it is nobody's
      exact (hknows.2 (Prober.witness_gone hgone).1 s hs).resolve_left hother
  | stopped hfree =>
      have hc : p.call = .stopService := by
        cases hc : p.call <;> rw [hc] at hfits <;> first | rfl | cases hfits
      refine .of_knows (hc ▸ rfl) fun hcheck => ?_
      exact absurd (hc.symm.trans hcheck) (by simp)
  | cleared =>
      obtain ⟨hclearing, hsilencing⟩ := fits_unlocking p.call
      refine .of_knows (hsilencing.trans (hclearing.symm.trans hfits)) fun hcheck => ?_
      exact ⟨by simp [Prober.witness, hknows hcheck], fun _ => hfade 0 (Or.inl rfl)⟩
  | silenced =>
      refine .of_knows ((fits_unlocking p.call).2.symm.trans hfits) fun hcheck => ?_
      refine ⟨by simp [Prober.witness, (hknows hcheck).1], fun hgone => ?_⟩
      exact hfade 0 ((hknows hcheck).2 (Prober.witness_gone hgone).1 s hs)
  | unlockedStop hcall => exact .of_knows rfl trivial
  | unlocked hcall =>
      have hc : p.call = .isDaemonAlive := by
        cases hc : p.call <;> rw [hc] at hfits hcall <;> first | rfl | exact absurd rfl hcall | cases hfits
      obtain ⟨hready, hentry⟩ := hknows hc
      refine .of_knows (hc ▸ rfl) ⟨by simp [Prober.witness, hready], fun hgone => ⟨rfl, fun _ => hfade 0 ?_⟩⟩
      rw [ShmFile.unlock_daemonPid]
      exact hentry (Prober.witness_gone hgone).1 s hs

/-! ## The answers are right -/

/-- **The answers are right**: `true` where a daemon was ready ever since the call began; `false` where none was
there, and then `is_daemon_alive` leaves no pid behind. -/
def AnswersRight (d : LivenessSystem ω) : Prop :=
  ∀ o answer, (d.probers o).pc = .told answer →
    ((d.probers o).ready = true → answer = true) ∧
    ((d.probers o).gone = true → answer = false ∧
      ((d.probers o).call = .isDaemonAlive → ∀ s, (d.probers o).mapped = some s → (d.shm s).daemonPid ≤ 0))

omit [DecidableEq ω] in
theorem answersRight_of_calls (h : ∀ o, CallRight d (d.probers o)) : AnswersRight d := by
  intro o answer hpc
  have hknows := (h o).knows
  unfold Prober.Knows at hknows
  rw [hpc] at hknows
  refine ⟨hknows.1, fun hgone => ⟨(hknows.2 hgone).1, fun hcall s hs => ?_⟩⟩
  rcases (hknows.2 hgone).2 hcall s hs with hzero | hle
  · exact Int.le_of_eq hzero
  · exact hle

omit [DecidableEq ω] in
/-- The other front ends do not matter. -/
theorem CallRight.others {p : Prober} (h : CallRight d p) (probers : ω → Prober) :
    CallRight { d with probers := probers } p := ⟨h.served, h.deserted, h.fits, h.knows⟩

/-- **A move is another's, or leads to what is right.** -/
theorem move_callRight (h : ∀ o, CallRight d (d.probers o)) (hlive : LivenessRight d) {move : LivenessMove ω}
    (hmove : d.move move = some d') (o : ω) :
    d'.probers o = d.probers o ∨ CallRight d' ((d'.probers o).witness d') := by
  have hother : ∀ {o' : ω} {p : Prober}, o ≠ o' → Function.update d.probers o' p o = d.probers o :=
    fun hne => Function.update_of_ne hne _ _
  cases move with
  | unlink | die | exit =>
      cases hmove
      exact Or.inl rfl
  | start pid | spawn pid =>
      simp only [LivenessSystem.move] at hmove
      split_ifs at hmove
      cases hmove
      exact Or.inl rfl
  | daemon =>
      have hmove : d.daemonStep = some d' := hmove
      unfold LivenessSystem.daemonStep at hmove
      split at hmove
      · cases hmove
      · split at hmove <;> cases hmove <;> exact Or.inl rfl
      · obtain ⟨out, -, rfl⟩ := Option.map_eq_some_iff.mp hmove
        exact Or.inl rfl
  | call o' call =>
      simp only [LivenessSystem.move] at hmove
      split_ifs at hmove
      cases hmove
      by_cases ho : o = o'
      · subst ho
        dsimp only
        rw [Function.update_self]
        exact Or.inr (.begin _ call)
      · exact Or.inl (hother ho)
  | prober o' =>
      have hmove : d.proberStep o' = some d' := hmove
      unfold LivenessSystem.proberStep at hmove
      dsimp only at hmove
      split at hmove
      · rename_i hpc
        cases hmove
        by_cases ho : o = o'
        · subst ho
          dsimp only
          rw [Function.update_self]
          exact Or.inr ((h o).opens hlive.loopRegistered hpc _)
        · exact Or.inl (hother ho)
      · obtain ⟨s, hs, hstep⟩ := Option.bind_eq_some_iff.mp hmove
        obtain ⟨⟨pc', m', keep⟩, hprobe, rfl⟩ := Option.map_eq_some_iff.mp hstep
        by_cases ho : o = o'
        · subst ho
          dsimp only
          rw [Function.update_self]
          exact Or.inr ((h o).probe hlive (hlive.prober o) hs (probeStep_probed hprobe) _)
        · exact Or.inl (hother ho)
  | disconnect o' =>
      simp only [LivenessSystem.move] at hmove
      split_ifs at hmove
      cases hmove
      by_cases ho : o = o'
      · subst ho
        dsimp only
        rw [Function.update_self]
        exact Or.inr (.of_knows rfl trivial)
      · exact Or.inl (hother ho)
  | leave o' =>
      cases hmove
      by_cases ho : o = o'
      · subst ho
        dsimp only
        rw [Function.update_self]
        exact Or.inr (.of_knows rfl trivial)
      · exact Or.inl (hother ho)

/-- **One step keeps every call on its way.** -/
theorem callRight_step (h : ∀ o, CallRight d (d.probers o)) (hlive : LivenessRight d) {move : LivenessMove ω}
    (hstep : livenessStep move d = some d') (o : ω) : CallRight d' (d'.probers o) := by
  obtain ⟨d₁, hmove, rfl⟩ := Option.map_eq_some_iff.mp hstep
  refine CallRight.others ?_ _
  rcases move_callRight h hlive hmove o with hsame | hright
  · show CallRight d₁ ((d₁.probers o).witness d₁)
    rw [hsame]
    exact (h o).pass (hlive.prober o).mapped (move_passes hmove)
  · exact hright

omit [DecidableEq ω] in
theorem CallRight.boot (others : Int → Bool) (mayKill : ω → Int → Bool) (o : ω) :
    CallRight (bootLiveness others mayKill) ((bootLiveness others mayKill).probers o) where
  served := fun h => by cases h
  deserted := fun h => by cases h
  fits := rfl
  knows := trivial

/-- **The answers about the daemon are right**, however daemons, one at a time, front ends and other processes come
and go: about the memory that the call looks at, which is the mapped one for `is_daemon_alive`. -/
theorem liveness_answers_right (others : Int → Bool) (mayKill : ω → Int → Bool)
    (hrun : Run livenessStep LivenessKept (bootLiveness others mayKill) d) : AnswersRight d := by
  have hboth := hrun.invariant
    (I := fun d => LivenessRight d ∧ ∀ o, CallRight d (d.probers o))
    (fun _ _ _ h hkept hstep => ⟨h.1.step hkept hstep, callRight_step h.2 h.1 hstep⟩)
    ⟨.boot others mayKill, CallRight.boot others mayKill⟩
  exact answersRight_of_calls hboth.2

theorem liveness_answers_right_restarted :
    AnswersRight livenessRestarted ∧ (livenessRestarted.probers ()).pc = .told false ∧
      (livenessRestarted.probers ()).gone = true :=
  ⟨liveness_answers_right _ _ (run_of_unit _ _ run_restarted), by decide, by decide⟩

end

end Dstx
