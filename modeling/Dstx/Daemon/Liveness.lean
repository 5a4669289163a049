/-
# Dstx.Daemon.Liveness — is the daemon there?

The daemon writes its pid and a heartbeat into the shared memory; the command line and the text interface
look there (`try_connect_shm`, `is_daemon_alive`), ask the kernel about the pid, and CLEAR the entry of a
daemon that is gone — the daemon itself does not: its `cleanup` exits inside the signal handler.  So every
front end writes to what the daemon lives by, while daemons die and start again.

Every load and store is a step of its own here, but for two things: `memset` with `pthread_mutex_init`, and a
front end's `shm_open` and `mmap` with its look at the magic.  The memory is a FILE: the service unit removes it
before a start (`ExecStartPre`), so that whoever has mapped the last daemon's memory goes on looking at that one.

Daemons run one at a time, as the unit runs them; `main` itself does not look for another one.

A daemon in its loop stays registered (`daemon_stays_registered`), if no front end is about to clear an entry
while the memory is wiped; and under the service unit none ever is (`run_of_unit`).  Where a daemon is started
by hand on the memory that is there, the wipe takes the mutex from whoever holds it, and the new daemon can
lose its entry (`wiped_memory_unregisters`).
-/
import Dstx.Lib.Run
import Mathlib.Logic.Function.Basic
import Mathlib.Tactic.SplitIfs

namespace Dstx

open Dstx.Lib

/-! ## The shared memory -/

/-- Who owns a `proc_mutex`. -/
inductive ShmOwner (ω : Type*) where
  | daemon
  | prober (o : ω)
  deriving DecidableEq

/-- **A shared memory**, as far as it tells about the daemon.  `magic` is whether it has the right value. -/
structure ShmFile (ω : Type*) where
  magic : Bool
  daemonPid : Int
  heartbeat : UInt32
  procMutex : Option (ShmOwner ω)

section

variable {ω : Type*}

/-- A memory that is all zeros. -/
def ShmFile.zero : ShmFile ω := ⟨false, 0, 0, none⟩

/-- `safe_shm_lock`; an owner that died has given the mutex up. -/
def ShmFile.lock (m : ShmFile ω) (who : ShmOwner ω) : Option (ShmFile ω) :=
  if m.procMutex.isNone then some { m with procMutex := some who } else none

/-- `pthread_mutex_unlock`: refused to whoever does not own the mutex. -/
def ShmFile.unlock [DecidableEq ω] (m : ShmFile ω) (who : ShmOwner ω) : ShmFile ω :=
  if m.procMutex = some who then { m with procMutex := none } else m

end

/-! ## The daemon -/

/-- Where a daemon that has mapped the memory is, in `main` and `run_daemon_loop`. -/
inductive StartPc where
  /-- Before it loads the pid that is there. -/
  | loading
  /-- Before it looks at the magic. -/
  | checking (oldPid : Int)
  /-- Before the `kill` of the pid it found. -/
  | probing (oldPid : Int)
  /-- Before `memset` and `pthread_mutex_init`. -/
  | wiping
  /-- Before the magic. -/
  | stamping
  /-- Before the pid 0. -/
  | zeroingPid
  /-- Before the heartbeat 0. -/
  | zeroingBeat
  | locking
  | beating
  | naming
  | unlocking
  /-- In `settings_init`, up to the lock of `run_daemon_loop`. -/
  | settling
  | namingAgain
  | beatingAgain
  | unlockingAgain
  /-- In the loop. -/
  | looping
  deriving DecidableEq

/-- A daemon process; it has no `place` before `shm_open`. -/
structure RunningDaemon where
  pid : Int
  place : Option (Nat × StartPc)
  deriving DecidableEq

/-- **One step of the daemon** on its memory. -/
def startStep {ω : Type*} [DecidableEq ω] (pid : Int) (running : Int → Bool) (pc : StartPc) (m : ShmFile ω) :
    Option (StartPc × ShmFile ω) :=
  match pc with
  | .loading => some (.checking m.daemonPid, m)
  | .checking oldPid =>
      if !m.magic then some (.wiping, m)
      else if oldPid > 0 then some (.probing oldPid, m)
      else some (.locking, m)
  | .probing oldPid => some (if running oldPid then .locking else .wiping, m)
  | .wiping => some (.stamping, .zero)
  | .stamping => some (.zeroingPid, { m with magic := true })
  | .zeroingPid => some (.zeroingBeat, { m with daemonPid := 0 })
  | .zeroingBeat => some (.locking, { m with heartbeat := 0 })
  | .locking => (m.lock .daemon).map fun m' => (.beating, m')
  | .beating => some (.naming, { m with heartbeat := 1 })
  | .naming => some (.unlocking, { m with daemonPid := pid })
  | .unlocking => some (.settling, m.unlock .daemon)
  | .settling => (m.lock .daemon).map fun m' => (.namingAgain, m')
  | .namingAgain => some (.beatingAgain, { m with daemonPid := pid })
  | .beatingAgain => some (.unlockingAgain, { m with heartbeat := 1 })
  | .unlockingAgain => some (.looping, m.unlock .daemon)
  | .looping => some (.looping, { m with heartbeat := m.heartbeat + 1 })

/-! ## The front ends -/

/-- What a front end calls. -/
inductive ProberCall where
  | tryConnectShm
  | isDaemonAlive
  /-- `stop_service`, after its `systemctl stop`. -/
  | stopService
  deriving DecidableEq

/-- Where in the call it is. -/
inductive ProberPc where
  | idle
  /-- `try_connect_shm`: before `shm_open`. -/
  | opening
  | naming
  /-- Before a load of the heartbeat, with so many attempts after it. -/
  | waiting (pid : Int) (left : Nat)
  | probing (pid : Int)
  /-- `is_daemon_alive`: before the load of the pid. -/
  | asking
  | killing (pid : Int)
  | listening
  | locking (pid : Int)
  | comparing (pid : Int)
  /-- `stop_service`: before the lock. -/
  | stopping
  | clearing
  | silencing
  | unlocking
  /-- The call has returned. -/
  | told (answer : Bool)
  deriving DecidableEq

/-- What `kill(pid, 0)` finds. -/
inductive KillResult where
  | ok
  | notPermitted
  | noSuchProcess
  deriving DecidableEq

/-- The attempts to find a heartbeat. -/
def heartbeatAttempts : Nat := 20

/-- **One step of a call** on the mapped memory; the last component says whether it stays mapped. -/
def probeStep {ω : Type*} [DecidableEq ω] (o : ω) (kill : Int → KillResult) (call : ProberCall) (pc : ProberPc)
    (m : ShmFile ω) : Option (ProberPc × ShmFile ω × Bool) :=
  match pc with
  | .idle | .opening | .told _ => none
  | .naming =>
      if m.daemonPid ≤ 0 then some (.told false, m, true)
      else some (.waiting m.daemonPid (heartbeatAttempts - 1), m, true)
  | .waiting pid left =>
      if m.heartbeat > 0 then some (.probing pid, m, true)
      else
        match left with
        | 0 => some (.told false, m, false)
        | left + 1 => some (.waiting pid left, m, true)
  | .probing pid =>
      match kill pid with
      | .noSuchProcess => some (.told false, m, false)
      | _ => some (.told true, m, true)
  | .asking =>
      if m.daemonPid ≤ 0 then some (.told false, m, true) else some (.killing m.daemonPid, m, true)
  | .killing pid =>
      match kill pid with
      | .noSuchProcess => some (.locking pid, m, true)
      | .notPermitted => some (.told true, m, true)
      | .ok => some (.listening, m, true)
  | .listening => some (.told (m.heartbeat != 0), m, true)
  | .locking pid => (m.lock (.prober o)).map fun m' => (.comparing pid, m', true)
  | .comparing pid => some (if m.daemonPid = pid then .clearing else .unlocking, m, true)
  | .stopping => (m.lock (.prober o)).map fun m' => (.clearing, m', true)
  | .clearing => some (.silencing, { m with daemonPid := 0 }, true)
  | .silencing => some (.unlocking, { m with heartbeat := 0 }, true)
  | .unlocking =>
      match call with
      | .stopService => some (.idle, m.unlock (.prober o), false)
      | _ => some (.told false, m.unlock (.prober o), true)

/-- **A front end.**  `mapped` is its `shm_ptr`; `ready` and `gone` are ghosts: ever since the call began, a daemon
in its loop was there for it to find; or none was. -/
structure Prober where
  mapped : Option Nat
  /-- The processes it may send signals to. -/
  mayKill : Int → Bool
  call : ProberCall
  pc : ProberPc
  ready : Bool
  gone : Bool

/-! ## The system -/

/-- **The machine**: the memories there ever were, the one that has the name in `/dev/shm`, the daemon — the unit
runs one at a time —, the other processes, and the front ends. -/
structure LivenessSystem (ω : Type*) where
  shm : Nat → ShmFile ω
  created : Nat
  linked : Option Nat
  daemon : Option RunningDaemon
  others : Int → Bool
  probers : ω → Prober

/-- What can happen. -/
inductive LivenessMove (ω : Type*) where
  /-- `rm -f /dev/shm/dstx_shared_mem`. -/
  | unlink
  | start (pid : Int)
  | daemon
  /-- The daemon's process ends, in whatever way. -/
  | die
  /-- Another process begins, or ends. -/
  | spawn (pid : Int)
  | exit (pid : Int)
  | call (o : ω) (call : ProberCall)
  | prober (o : ω)
  | disconnect (o : ω)
  /-- A front end ends, wherever it is. -/
  | leave (o : ω)

section

variable {ω : Type*} [DecidableEq ω]

/-- There is a process with this pid. -/
def LivenessSystem.running (d : LivenessSystem ω) (pid : Int) : Bool :=
  d.others pid || d.daemon.any fun r => r.pid == pid

/-- **`kill(pid, 0)`.** -/
def LivenessSystem.kill (d : LivenessSystem ω) (mayKill : Int → Bool) (pid : Int) : KillResult :=
  if !d.running pid then .noSuchProcess else if mayKill pid then .ok else .notPermitted

/-- **A step of the daemon**: it opens the memory that has the name, or creates one. -/
def LivenessSystem.daemonStep (d : LivenessSystem ω) : Option (LivenessSystem ω) :=
  match d.daemon with
  | none => none
  | some ⟨pid, none⟩ =>
      match d.linked with
      | some s => some { d with daemon := some ⟨pid, some (s, .loading)⟩ }
      | none =>
          some { d with
            shm := Function.update d.shm d.created .zero
            created := d.created + 1
            linked := some d.created
            daemon := some ⟨pid, some (d.created, .wiping)⟩ }
  | some ⟨pid, some (s, pc)⟩ =>
      (startStep pid d.running pc (d.shm s)).map fun out =>
        { d with shm := Function.update d.shm s out.2, daemon := some ⟨pid, some (s, out.1)⟩ }

/-- A front end calls. -/
def Prober.begin (p : Prober) (call : ProberCall) : Prober :=
  match call with
  | .tryConnectShm => { p with mapped := none, call := call, pc := .opening, ready := true, gone := true }
  | .isDaemonAlive =>
      { p with call := call, pc := if p.mapped.isNone then .told false else .asking, ready := true, gone := true }
  | .stopService =>
      { p with call := call, pc := if p.mapped.isNone then .idle else .stopping, ready := true, gone := true }

/-- `shm_open`, `mmap` and the magic. -/
def LivenessSystem.opened (d : LivenessSystem ω) : Option Nat := d.linked.filter fun s => (d.shm s).magic

/-- **A step of a front end.** -/
def LivenessSystem.proberStep (d : LivenessSystem ω) (o : ω) : Option (LivenessSystem ω) :=
  let p := d.probers o
  match p.pc with
  | .opening =>
      let pc := if d.opened.isSome then .naming else .told false
      some { d with probers := Function.update d.probers o { p with mapped := d.opened, pc := pc } }
  | pc =>
      p.mapped.bind fun s =>
        (probeStep o (d.kill p.mayKill) p.call pc (d.shm s)).map fun out =>
          { d with
            shm := Function.update d.shm s out.2.1
            probers := Function.update d.probers o
              { p with pc := out.1, mapped := if out.2.2 then some s else none } }

/-- A front end is in no call. -/
def ProberPc.free : ProberPc → Bool
  | .idle | .told _ => true
  | _ => false

/-- What happens, but for the ghosts. -/
def LivenessSystem.move (d : LivenessSystem ω) : LivenessMove ω → Option (LivenessSystem ω)
  | .unlink => some { d with linked := none }
  | .start pid =>
      if d.daemon.isNone && decide (0 < pid) && !d.running pid then some { d with daemon := some ⟨pid, none⟩ }
      else none
  | .daemon => d.daemonStep
  | .die => some { d with shm := fun s => (d.shm s).unlock .daemon, daemon := none }
  | .spawn pid => if d.running pid then none else some { d with others := Function.update d.others pid true }
  | .exit pid => some { d with others := Function.update d.others pid false }
  | .call o call =>
      if (d.probers o).pc.free then
        some { d with probers := Function.update d.probers o ((d.probers o).begin call) }
      else none
  | .prober o => d.proberStep o
  | .disconnect o =>
      if (d.probers o).pc.free then
        some { d with probers := Function.update d.probers o { d.probers o with mapped := none, pc := .idle } }
      else none
  | .leave o =>
      some { d with
        shm := fun s => (d.shm s).unlock (.prober o)
        probers := Function.update d.probers o { d.probers o with mapped := none, pc := .idle } }

/-- The memory a call is about: the one with the name, or the one that is mapped. -/
def Prober.target (p : Prober) (d : LivenessSystem ω) : Option Nat :=
  match p.call with
  | .tryConnectShm => d.linked
  | _ => p.mapped

/-- A daemon in its loop uses that memory. -/
def LivenessSystem.serves (d : LivenessSystem ω) (target : Option Nat) : Bool :=
  d.daemon.any fun r => r.place.any fun at' => target == some at'.1 && at'.2 == .looping

/-- A connecting front end finds no daemon at all, another none that uses its memory. -/
def Prober.deserted (p : Prober) (d : LivenessSystem ω) : Bool :=
  match p.call with
  | .tryConnectShm => d.daemon.isNone
  | _ => !d.daemon.any fun r => r.place.any fun at' => p.mapped == some at'.1

/-- The ghosts take note of the present. -/
def Prober.witness (d : LivenessSystem ω) (p : Prober) : Prober :=
  { p with ready := p.ready && d.serves (p.target d), gone := p.gone && p.deserted d }

/-- **One step.** -/
def livenessStep (move : LivenessMove ω) (d : LivenessSystem ω) : Option (LivenessSystem ω) :=
  (d.move move).map fun d' => { d' with probers := fun o => (d'.probers o).witness d' }

/-- The machine comes up: `/dev/shm` is empty, and no daemon runs. -/
def bootLiveness (others : Int → Bool) (mayKill : ω → Int → Bool) : LivenessSystem ω where
  shm := fun _ => .zero
  created := 0
  linked := none
  daemon := none
  others := others
  probers := fun o => ⟨none, mayKill o, .tryConnectShm, .idle, false, false⟩


/-! ## What a step can do -/

/-- **The steps of a call**, with what each of them found. -/
inductive Probed (o : ω) (kill : Int → KillResult) (call : ProberCall) (m : ShmFile ω) :
    ProberPc → ProberPc → ShmFile ω → Bool → Prop
  | noPid (hpid : m.daemonPid ≤ 0) : Probed o kill call m .naming (.told false) m true
  | pid (hpid : 0 < m.daemonPid) :
      Probed o kill call m .naming (.waiting m.daemonPid (heartbeatAttempts - 1)) m true
  | beat (pid : Int) (left : Nat) : Probed o kill call m (.waiting pid left) (.probing pid) m true
  | noBeat (pid : Int) (hbeat : m.heartbeat = 0) : Probed o kill call m (.waiting pid 0) (.told false) m false
  | again (pid : Int) (left : Nat) : Probed o kill call m (.waiting pid (left + 1)) (.waiting pid left) m true
  | noProcess (pid : Int) (hkill : kill pid = .noSuchProcess) :
      Probed o kill call m (.probing pid) (.told false) m false
  | process (pid : Int) (hkill : kill pid ≠ .noSuchProcess) :
      Probed o kill call m (.probing pid) (.told true) m true
  | askedNone (hpid : m.daemonPid ≤ 0) : Probed o kill call m .asking (.told false) m true
  | asked (hpid : 0 < m.daemonPid) : Probed o kill call m .asking (.killing m.daemonPid) m true
  | dead (pid : Int) (hkill : kill pid = .noSuchProcess) :
      Probed o kill call m (.killing pid) (.locking pid) m true
  | notPermitted (pid : Int) (hkill : kill pid ≠ .noSuchProcess) :
      Probed o kill call m (.killing pid) (.told true) m true
  | there (pid : Int) (hkill : kill pid ≠ .noSuchProcess) :
      Probed o kill call m (.killing pid) .listening m true
  | listened : Probed o kill call m .listening (.told (m.heartbeat != 0)) m true
  | locked (pid : Int) (hfree : m.procMutex = none) :
      Probed o kill call m (.locking pid) (.comparing pid) { m with procMutex := some (.prober o) } true
  | same (pid : Int) (hsame : m.daemonPid = pid) : Probed o kill call m (.comparing pid) .clearing m true
  | other (pid : Int) (hother : m.daemonPid ≠ pid) : Probed o kill call m (.comparing pid) .unlocking m true
  | stopped (hfree : m.procMutex = none) :
      Probed o kill call m .stopping .clearing { m with procMutex := some (.prober o) } true
  | cleared : Probed o kill call m .clearing .silencing { m with daemonPid := 0 } true
  | silenced : Probed o kill call m .silencing .unlocking { m with heartbeat := 0 } true
  | unlockedStop (hcall : call = .stopService) :
      Probed o kill call m .unlocking .idle (m.unlock (.prober o)) false
  | unlocked (hcall : call ≠ .stopService) :
      Probed o kill call m .unlocking (.told false) (m.unlock (.prober o)) true

omit [DecidableEq ω] in
theorem ShmFile.lock_eq {m m' : ShmFile ω} {who : ShmOwner ω} (h : m.lock who = some m') :
    m.procMutex = none ∧ m' = { m with procMutex := some who } := by
  unfold ShmFile.lock at h
  split_ifs at h with hfree
  exact ⟨Option.isNone_iff_eq_none.mp hfree, (Option.some.inj h).symm⟩

theorem probeStep_probed {o : ω} {kill : Int → KillResult} {call : ProberCall} {pc pc' : ProberPc}
    {m m' : ShmFile ω} {keep : Bool} (h : probeStep o kill call pc m = some (pc', m', keep)) :
    Probed o kill call m pc pc' m' keep := by
  cases pc with
  | idle => cases h
  | opening => cases h
  | told answer => cases h
  | naming =>
      simp only [probeStep] at h
      split_ifs at h with hpid <;> cases h
      · exact .noPid hpid
      · exact .pid (by omega)
  | waiting pid left =>
      simp only [probeStep] at h
      split_ifs at h with hbeat
      · cases h
        exact .beat pid left
      · cases left with
        | zero =>
            cases h
            exact .noBeat pid (by simpa [UInt32.pos_iff_ne_zero] using hbeat)
        | succ left =>
            cases h
            exact .again pid left
  | probing pid =>
      simp only [probeStep] at h
      cases hkill : kill pid <;> rw [hkill] at h <;> cases h
      · exact .process pid (by simp [hkill])
      · exact .process pid (by simp [hkill])
      · exact .noProcess pid hkill
  | asking =>
      simp only [probeStep] at h
      split_ifs at h with hpid <;> cases h
      · exact .askedNone hpid
      · exact .asked (by omega)
  | killing pid =>
      simp only [probeStep] at h
      cases hkill : kill pid <;> rw [hkill] at h <;> cases h
      · exact .there pid (by simp [hkill])
      · exact .notPermitted pid (by simp [hkill])
      · exact .dead pid hkill
  | listening =>
      cases h
      exact .listened
  | locking pid =>
      obtain ⟨m₁, hlock, hout⟩ := Option.map_eq_some_iff.mp h
      obtain ⟨hfree, rfl⟩ := ShmFile.lock_eq hlock
      cases hout
      exact .locked pid hfree
  | comparing pid =>
      simp only [probeStep] at h
      split_ifs at h with hsame <;> cases h
      · exact .same pid hsame
      · exact .other pid hsame
  | stopping =>
      obtain ⟨m₁, hlock, hout⟩ := Option.map_eq_some_iff.mp h
      obtain ⟨hfree, rfl⟩ := ShmFile.lock_eq hlock
      cases hout
      exact .stopped hfree
  | clearing =>
      cases h
      exact .cleared
  | silencing =>
      cases h
      exact .silenced
  | unlocking =>
      simp only [probeStep] at h
      cases call <;> cases h
      · exact .unlocked (by simp)
      · exact .unlocked (by simp)
      · exact .unlockedStop rfl

/-! ## Where the daemon has come -/

/-- It has found the right magic, or stored it. -/
def StartPc.stamped : StartPc → Bool
  | .loading | .checking _ | .wiping | .stamping => false
  | _ => true

/-- It owns the mutex. -/
def StartPc.holding : StartPc → Bool
  | .beating | .naming | .unlocking | .namingAgain | .beatingAgain | .unlockingAgain => true
  | _ => false

/-- It has stored its pid. -/
def StartPc.registered : StartPc → Bool
  | .unlocking | .settling | .namingAgain | .beatingAgain | .unlockingAgain | .looping => true
  | _ => false

/-- It has stored a heartbeat. -/
def StartPc.voiced (pc : StartPc) : Bool := pc == .naming || pc.registered

/-- It has taken the mutex for the first time. -/
def StartPc.begun (pc : StartPc) : Bool := pc.holding || pc.registered

/-- **What its memory says then.** -/
structure PlaceRight (pid : Int) (pc : StartPc) (m : ShmFile ω) : Prop where
  magic : pc.stamped = true → m.magic = true
  owner : pc.holding = true → m.procMutex = some .daemon
  pid : pc.registered = true → m.daemonPid = pid
  heartbeat : pc.voiced = true → m.heartbeat ≠ 0

omit [DecidableEq ω] in
/-- Nothing is said of a memory that is not in order yet. -/
theorem placeRight_of_not_stamped {pid : Int} {pc : StartPc} (h : pc.stamped = false) (m : ShmFile ω) :
    PlaceRight pid pc m := by
  have hpc : pc.holding = false ∧ pc.registered = false ∧ pc.voiced = false := by
    cases pc <;> first | exact ⟨rfl, rfl, rfl⟩ | cases h
  constructor <;> simp [h, hpc]

/-- **The steps of the daemon**, with what each of them found. -/
inductive Started (pid : Int) (running : Int → Bool) (m : ShmFile ω) : StartPc → StartPc → ShmFile ω → Prop
  | load : Started pid running m .loading (.checking m.daemonPid) m
  | noMagic (oldPid : Int) : Started pid running m (.checking oldPid) .wiping m
  | oldPid (oldPid : Int) (hmagic : m.magic = true) : Started pid running m (.checking oldPid) (.probing oldPid) m
  | noPid (oldPid : Int) (hmagic : m.magic = true) : Started pid running m (.checking oldPid) .locking m
  | alive (oldPid : Int) : Started pid running m (.probing oldPid) .locking m
  | dead (oldPid : Int) : Started pid running m (.probing oldPid) .wiping m
  | wipe : Started pid running m .wiping .stamping .zero
  | stamp : Started pid running m .stamping .zeroingPid { m with magic := true }
  | zeroPid : Started pid running m .zeroingPid .zeroingBeat { m with daemonPid := 0 }
  | zeroBeat : Started pid running m .zeroingBeat .locking { m with heartbeat := 0 }
  | lock (hfree : m.procMutex = none) :
      Started pid running m .locking .beating { m with procMutex := some .daemon }
  | beat : Started pid running m .beating .naming { m with heartbeat := 1 }
  | name : Started pid running m .naming .unlocking { m with daemonPid := pid }
  | unlock : Started pid running m .unlocking .settling (m.unlock .daemon)
  | relock (hfree : m.procMutex = none) :
      Started pid running m .settling .namingAgain { m with procMutex := some .daemon }
  | rename : Started pid running m .namingAgain .beatingAgain { m with daemonPid := pid }
  | rebeat : Started pid running m .beatingAgain .unlockingAgain { m with heartbeat := 1 }
  | reunlock : Started pid running m .unlockingAgain .looping (m.unlock .daemon)
  | loop : Started pid running m .looping .looping { m with heartbeat := m.heartbeat + 1 }

theorem startStep_started {pid : Int} {running : Int → Bool} {pc pc' : StartPc} {m m' : ShmFile ω}
    (h : startStep pid running pc m = some (pc', m')) : Started pid running m pc pc' m' := by
  cases pc with
  | loading =>
      cases h
      exact .load
  | checking oldPid =>
      simp only [startStep] at h
      split_ifs at h with hmagic hpid <;> cases h
      · exact .noMagic oldPid
      · exact .oldPid oldPid (by simpa using hmagic)
      · exact .noPid oldPid (by simpa using hmagic)
  | probing oldPid =>
      simp only [startStep] at h
      split_ifs at h <;> cases h
      · exact .alive oldPid
      · exact .dead oldPid
  | wiping =>
      cases h
      exact .wipe
  | stamping =>
      cases h
      exact .stamp
  | zeroingPid =>
      cases h
      exact .zeroPid
  | zeroingBeat =>
      cases h
      exact .zeroBeat
  | locking =>
      obtain ⟨m₁, hlock, hout⟩ := Option.map_eq_some_iff.mp h
      obtain ⟨hfree, rfl⟩ := ShmFile.lock_eq hlock
      cases hout
      exact .lock hfree
  | beating =>
      cases h
      exact .beat
  | naming =>
      cases h
      exact .name
  | unlocking =>
      cases h
      exact .unlock
  | settling =>
      obtain ⟨m₁, hlock, hout⟩ := Option.map_eq_some_iff.mp h
      obtain ⟨hfree, rfl⟩ := ShmFile.lock_eq hlock
      cases hout
      exact .relock hfree
  | namingAgain =>
      cases h
      exact .rename
  | beatingAgain =>
      cases h
      exact .rebeat
  | unlockingAgain =>
      cases h
      exact .reunlock
  | looping =>
      cases h
      exact .loop

@[simp] theorem ShmFile.unlock_magic (m : ShmFile ω) (who : ShmOwner ω) : (m.unlock who).magic = m.magic := by
  unfold ShmFile.unlock
  split_ifs <;> rfl

@[simp] theorem ShmFile.unlock_daemonPid (m : ShmFile ω) (who : ShmOwner ω) :
    (m.unlock who).daemonPid = m.daemonPid := by
  unfold ShmFile.unlock
  split_ifs <;> rfl

@[simp] theorem ShmFile.unlock_heartbeat (m : ShmFile ω) (who : ShmOwner ω) :
    (m.unlock who).heartbeat = m.heartbeat := by
  unfold ShmFile.unlock
  split_ifs <;> rfl

/-- Another's mutex stays as it is. -/
theorem ShmFile.unlock_of_ne {m : ShmFile ω} {who : ShmOwner ω} (h : m.procMutex ≠ some who) :
    m.unlock who = m := if_neg h

/-- **The daemon's own steps** keep its memory right, but for a heartbeat that comes round to 0. -/
theorem Started.placeRight {pid : Int} {running : Int → Bool} {pc pc' : StartPc} {m m' : ShmFile ω}
    (h : Started pid running m pc pc' m') (hright : PlaceRight pid pc m)
    (hround : pc = .looping → m.heartbeat + 1 ≠ 0) : PlaceRight pid pc' m' := by
  obtain ⟨hmagic, howner, hpid, hbeat⟩ := hright
  cases h with
  | loop => exact ⟨hmagic, howner, hpid, fun _ => hround rfl⟩
  | _ =>
      constructor <;> intro hpc <;>
        simp_all [StartPc.stamped, StartPc.holding, StartPc.registered, StartPc.voiced]

/-- What the daemon's steps do to its pid. -/
theorem Started.daemonPid {pid : Int} {running : Int → Bool} {pc pc' : StartPc} {m m' : ShmFile ω}
    (h : Started pid running m pc pc' m') :
    m'.daemonPid = m.daemonPid ∨ m'.daemonPid = 0 ∨ m'.daemonPid = pid ∧ pc'.registered = true := by
  cases h with
  | wipe | zeroPid => exact Or.inr (Or.inl rfl)
  | name | rename => exact Or.inr (Or.inr ⟨rfl, rfl⟩)
  | unlock | reunlock => exact Or.inl (m.unlock_daemonPid _)
  | _ => exact Or.inl rfl

/-- A registered daemon stays so. -/
theorem Started.registered {pid : Int} {running : Int → Bool} {pc pc' : StartPc} {m m' : ShmFile ω}
    (h : Started pid running m pc pc' m') (hpc : pc.registered = true) : pc'.registered = true := by
  cases h <;> first | rfl | cases hpc

/-- The daemon takes the mutex from nobody — unless it wipes the memory. -/
theorem Started.owner {pid : Int} {running : Int → Bool} {pc pc' : StartPc} {m m' : ShmFile ω} {o : ω}
    (h : Started pid running m pc pc' m') (hwipe : pc ≠ .wiping)
    (hown : m.procMutex = some (.prober o)) : m'.procMutex = some (.prober o) := by
  cases h with
  | wipe => exact absurd rfl hwipe
  | lock hfree | relock hfree =>
      rw [hown] at hfree
      cases hfree
  | unlock | reunlock =>
      rw [ShmFile.unlock_of_ne (by rw [hown]; intro h; cases h)]
      exact hown
  | _ => exact hown

/-- It begins only with a mutex that is free. -/
theorem Started.begun {pid : Int} {running : Int → Bool} {pc pc' : StartPc} {m m' : ShmFile ω}
    (h : Started pid running m pc pc' m') (hpc : pc'.begun = true) :
    pc.begun = true ∨ m.procMutex = none := by
  cases h with
  | lock hfree => exact Or.inr hfree
  | _ => first | exact Or.inl rfl | cases hpc

/-! ## Where a front end has come -/

/-- The pid it loaded. -/
def ProberPc.holds : ProberPc → Option Int
  | .waiting pid _ | .probing pid | .killing pid | .locking pid | .comparing pid => some pid
  | _ => none

/-- It owns the mutex. -/
def ProberPc.critical : ProberPc → Bool
  | .comparing _ | .clearing | .silencing | .unlocking => true
  | _ => false

/-- It is going to clear the entry. -/
def ProberPc.writes : ProberPc → Bool
  | .clearing | .silencing => true
  | _ => false

theorem ProberPc.critical_of_writes {pc : ProberPc} (h : pc.writes = true) : pc.critical = true := by
  cases pc <;> first | rfl | cases h

section

variable {o : ω} {kill : Int → KillResult} {call : ProberCall} {pc pc' : ProberPc} {m m' : ShmFile ω} {keep : Bool}

/-- A front end clears the pid, or leaves it. -/
theorem Probed.daemonPid (h : Probed o kill call m pc pc' m' keep) :
    m'.daemonPid = m.daemonPid ∨ m'.daemonPid = 0 := by
  cases h with
  | cleared => exact Or.inr rfl
  | unlockedStop | unlocked => exact Or.inl (m.unlock_daemonPid _)
  | _ => exact Or.inl rfl

/-- **The steps of a front end keep the daemon's memory right**, where its clearing does not meet a daemon that
has begun. -/
theorem Probed.placeRight (h : Probed o kill call m pc pc' m' keep) {pid : Int} {place : StartPc}
    (hright : PlaceRight pid place m) (hwrites : pc.writes = true → place.begun = false)
    (hcritical : pc.critical = true → m.procMutex = some (.prober o)) : PlaceRight pid place m' := by
  obtain ⟨hmagic, howner, hpid, hbeat⟩ := hright
  have hbegun : place.begun = false → place.registered = false ∧ place.voiced = false := by
    cases place <;> intro h <;> first | exact ⟨rfl, rfl⟩ | cases h
  cases h with
  | locked pid hfree | stopped hfree =>
      refine ⟨hmagic, fun hpc => ?_, hpid, hbeat⟩
      have hdaemon := howner hpc
      rw [hfree] at hdaemon
      cases hdaemon
  | cleared =>
      obtain ⟨hreg, -⟩ := hbegun (hwrites rfl)
      refine ⟨hmagic, howner, fun hpc => ?_, hbeat⟩
      rw [hreg] at hpc
      cases hpc
  | silenced =>
      obtain ⟨-, hvoiced⟩ := hbegun (hwrites rfl)
      refine ⟨hmagic, howner, hpid, fun hpc => ?_⟩
      rw [hvoiced] at hpc
      cases hpc
  | unlockedStop | unlocked =>
      refine ⟨fun hpc => ?_, fun hpc => ?_, fun hpc => ?_, fun hpc => ?_⟩
      · rw [ShmFile.unlock_magic]
        exact hmagic hpc
      · have hdaemon := howner hpc
        rw [hcritical rfl] at hdaemon
        cases hdaemon
      · rw [ShmFile.unlock_daemonPid]
        exact hpid hpc
      · rw [ShmFile.unlock_heartbeat]
        exact hbeat hpc
  | _ => exact ⟨hmagic, howner, hpid, hbeat⟩

theorem Probed.magic (h : Probed o kill call m pc pc' m' keep) : m'.magic = m.magic := by
  cases h with
  | unlockedStop | unlocked => exact m.unlock_magic _
  | _ => rfl

/-- It takes the mutex from nobody. -/
theorem Probed.owner_of_ne (h : Probed o kill call m pc pc' m' keep) {o' : ω} (hne : o' ≠ o)
    (hown : m.procMutex = some (.prober o')) : m'.procMutex = some (.prober o') := by
  cases h with
  | locked pid hfree | stopped hfree =>
      rw [hown] at hfree
      cases hfree
  | unlockedStop | unlocked =>
      rw [ShmFile.unlock_of_ne (by rw [hown]; exact fun h => hne (by cases h; rfl))]
      exact hown
  | _ => exact hown

/-- In its critical section it owns the mutex. -/
theorem Probed.owner (h : Probed o kill call m pc pc' m' keep)
    (hown : pc.critical = true → m.procMutex = some (.prober o)) (hpc : pc'.critical = true) :
    m'.procMutex = some (.prober o) := by
  cases h <;> first | rfl | exact hown rfl | cases hpc

/-- The pid it holds is the one it held, or the one that was there. -/
theorem Probed.holds (h : Probed o kill call m pc pc' m' keep) {q : Int} (hq : pc'.holds = some q) :
    pc.holds = some q ∨ m.daemonPid = q ∧ 0 < q := by
  cases h with
  | pid hpid | asked hpid =>
      cases hq
      exact Or.inr ⟨rfl, hpid⟩
  | _ => first | exact Or.inl hq | cases hq

/-- A memory that is let go is not worked with. -/
theorem Probed.kept (h : Probed o kill call m pc pc' m' keep)
    (hpc : pc'.critical = true ∨ pc'.holds.isSome = true) : keep = true := by
  cases h <;> first | rfl | (rcases hpc with hpc | hpc <;> cases hpc)

/-- The pid it holds has turned out to be nobody's. -/
def ProberPc.foundDead (pc : ProberPc) (q : Int) : Prop := pc = .locking q ∨ pc = .comparing q

theorem ProberPc.foundDead.holds {q : Int} (h : pc.foundDead q) : pc.holds = some q := by
  rcases h with rfl | rfl <;> rfl

theorem Probed.foundDead (h : Probed o kill call m pc pc' m' keep) {q : Int} (hq : pc'.foundDead q) :
    pc.foundDead q ∨ pc.holds = some q ∧ kill q = .noSuchProcess := by
  cases h with
  | dead pid hkill =>
      rcases hq with hq | hq <;> cases hq
      exact Or.inr ⟨rfl, hkill⟩
  | locked pid hfree =>
      rcases hq with hq | hq <;> cases hq
      exact Or.inl (Or.inl rfl)
  | _ => rcases hq with hq | hq <;> cases hq

/-- **Before it clears the entry** it has compared the pid, or it is a `stop_service`. -/
theorem Probed.writes (h : Probed o kill call m pc pc' m' keep) (hpc : pc'.writes = true) :
    pc.writes = true ∨ (∃ q, pc = .comparing q ∧ m.daemonPid = q) ∨ pc = .stopping := by
  cases h with
  | cleared => exact Or.inl rfl
  | same pid hsame => exact Or.inr (Or.inl ⟨pid, rfl, hsame⟩)
  | stopped => exact Or.inr (Or.inr rfl)
  | _ => cases hpc

end

/-! ## The invariant -/

/-- **A front end is right**: it owns the mutex in its critical section; the pid it holds is not another process's,
and if it is the daemon's, the daemon is registered in the memory that is mapped; what it found dead is not
the daemon; and while it clears the entry no daemon has begun to register there. -/
structure ProberRight (d : LivenessSystem ω) (o : ω) (p : Prober) : Prop where
  mapped : ∀ s, p.mapped = some s → s < d.created
  owner : p.pc.critical = true → ∃ s, p.mapped = some s ∧ (d.shm s).procMutex = some (.prober o)
  held : ∀ q, p.pc.holds = some q → 0 < q ∧ d.others q = false ∧ ∀ r, d.daemon = some r → r.pid = q →
    ∃ s pc, p.mapped = some s ∧ r.place = some (s, pc) ∧ pc.registered = true
  dead : ∀ q, p.pc.foundDead q → ∀ r, d.daemon = some r → r.pid ≠ q
  apart : p.pc.writes = true → ∀ r s pc, d.daemon = some r → r.place = some (s, pc) → p.mapped = some s →
    pc.begun = false

/-- **The registration is right.** -/
structure LivenessRight (d : LivenessSystem ω) : Prop where
  alone : ∀ r, d.daemon = some r → 0 < r.pid ∧ d.others r.pid = false
  place : ∀ r s pc, d.daemon = some r → r.place = some (s, pc) → s < d.created ∧ PlaceRight r.pid pc (d.shm s)
  named : ∀ s, 0 < (d.shm s).daemonPid → d.others (d.shm s).daemonPid = false ∧
    ∀ r, d.daemon = some r → r.pid = (d.shm s).daemonPid → ∃ pc, r.place = some (s, pc) ∧ pc.registered = true
  linked : ∀ s, d.linked = some s → s < d.created
  prober : ∀ o, ProberRight d o (d.probers o)

/-! ## The condition on a step -/

/-- A memory does not name the pid, and no front end holds it. -/
def LivenessSystem.Unused (d : LivenessSystem ω) (pid : Int) : Prop :=
  (∀ s, (d.shm s).daemonPid ≠ pid) ∧ ∀ o, (d.probers o).pc.holds ≠ some pid

/-- **The condition on a step.**  A new process does not get a pid that is still in use here; no front end is in
its critical section on a memory that the daemon wipes; the heartbeat does not come round to 0; and no daemon has
begun on the memory that a `stop_service` locks: its `systemctl stop` has stopped it. -/
def LivenessKept (move : LivenessMove ω) (d : LivenessSystem ω) : Prop :=
  match move with
  | .start pid | .spawn pid => d.Unused pid
  | .daemon => ∀ r s, d.daemon = some r →
      (r.place = some (s, .wiping) → ∀ o, (d.probers o).mapped = some s → (d.probers o).pc.critical = false) ∧
      (r.place = some (s, .looping) → (d.shm s).heartbeat + 1 ≠ 0)
  | .prober o => (d.probers o).pc = .stopping → ∀ r s pc, d.daemon = some r → r.place = some (s, pc) →
      (d.probers o).mapped = some s → pc.begun = false
  | _ => True

/-! ## Every step keeps it -/

variable {d d' : LivenessSystem ω}

omit [DecidableEq ω] in
/-- The daemon's process is one. -/
theorem running_daemon {r : RunningDaemon} (h : d.daemon = some r) : d.running r.pid = true := by
  simp [LivenessSystem.running, h]

omit [DecidableEq ω] in
/-- A process that is not another one is the daemon's. -/
theorem exists_of_running {pid : Int} (hother : d.others pid = false) (h : d.running pid = true) :
    ∃ r, d.daemon = some r ∧ r.pid = pid := by
  simpa [LivenessSystem.running, hother, Option.any_eq_true] using h

omit [DecidableEq ω] in
theorem kill_eq_noSuchProcess {mayKill : Int → Bool} {pid : Int} :
    d.kill mayKill pid = .noSuchProcess ↔ d.running pid = false := by
  unfold LivenessSystem.kill
  cases d.running pid <;> cases mayKill pid <;> simp

omit [DecidableEq ω] in
/-- **A front end stays right** where the daemon goes on, or another one with another pid comes. -/
theorem ProberRight.congr {o : ω} {p : Prober} (h : ProberRight d o p) (hcreated : d.created ≤ d'.created)
    (hmutex : ∀ s, p.mapped = some s → p.pc.critical = true → (d.shm s).procMutex = some (.prober o) →
      (d'.shm s).procMutex = some (.prober o))
    (hothers : ∀ q, p.pc.holds = some q → d.others q = false → d'.others q = false)
    (hdaemon : ∀ q r', p.pc.holds = some q → d'.daemon = some r' → r'.pid = q →
      ∃ r, d.daemon = some r ∧ r.pid = q ∧ ∀ s pc, r.place = some (s, pc) → pc.registered = true →
        ∃ pc', r'.place = some (s, pc') ∧ pc'.registered = true)
    (hapart : p.pc.writes = true → ∀ r s pc, d'.daemon = some r → r.place = some (s, pc) →
      p.mapped = some s → pc.begun = false) : ProberRight d' o p where
  mapped := fun s hs => Nat.lt_of_lt_of_le (h.mapped s hs) hcreated
  owner := fun hcritical => by
    obtain ⟨s, hs, hown⟩ := h.owner hcritical
    exact ⟨s, hs, hmutex s hs hcritical hown⟩
  held := fun q hq => by
    obtain ⟨hpos, hother, hreg⟩ := h.held q hq
    refine ⟨hpos, hothers q hq hother, fun r' hr' hpid => ?_⟩
    obtain ⟨r, hr, hrpid, hgoes⟩ := hdaemon q r' hq hr' hpid
    obtain ⟨s, pc, hs, hplace, hpc⟩ := hreg r hr hrpid
    obtain ⟨pc', hplace', hpc'⟩ := hgoes s pc hplace hpc
    exact ⟨s, pc', hs, hplace', hpc'⟩
  dead := fun q hq r' hr' hpid => by
    obtain ⟨r, hr, hrpid, -⟩ := hdaemon q r' hq.holds hr' hpid
    exact h.dead q hq r hr hrpid
  apart := hapart

omit [DecidableEq ω] in
/-- The same, where the daemon does nothing. -/
theorem ProberRight.congr_memory {o : ω} {p : Prober} (h : ProberRight d o p) (hcreated : d.created ≤ d'.created)
    (hmutex : ∀ s, (d.shm s).procMutex = some (.prober o) → (d'.shm s).procMutex = some (.prober o))
    (hothers : ∀ q, p.pc.holds = some q → d.others q = false → d'.others q = false)
    (hdaemon : d'.daemon = d.daemon) : ProberRight d' o p := by
  refine h.congr hcreated (fun s _ _ => hmutex s) hothers (fun q r hq hr hpid => ?_) ?_
  · rw [hdaemon] at hr
    exact ⟨r, hr, hpid, fun s pc hplace hpc => ⟨pc, hplace, hpc⟩⟩
  · rw [hdaemon]
    exact h.apart

omit [DecidableEq ω] in
/-- Nothing is said of a front end that is in no call, or about to open. -/
theorem ProberRight.of_free {o : ω} {p : Prober} (hmapped : ∀ s, p.mapped = some s → s < d.created)
    (hholds : p.pc.holds = none) (hcritical : p.pc.critical = false) : ProberRight d o p where
  mapped := hmapped
  owner := fun h => by
    rw [hcritical] at h
    cases h
  held := fun q hq => by
    rw [hholds] at hq
    cases hq
  dead := fun q hq => by
    rw [hq.holds] at hholds
    cases hholds
  apart := fun h => by
    rw [ProberPc.critical_of_writes h] at hcritical
    cases hcritical

/-- A mutex given up by somebody else. -/
theorem ShmFile.unlock_procMutex_of_ne {m : ShmFile ω} {who who' : ShmOwner ω} (hne : who ≠ who')
    (hown : m.procMutex = some who) : (m.unlock who').procMutex = some who := by
  rw [ShmFile.unlock_of_ne (by rw [hown]; exact fun h => hne (Option.some.inj h))]
  exact hown

omit [DecidableEq ω] in
/-- **A process starts.** -/
theorem LivenessRight.start (h : LivenessRight d) {pid : Int} (hunused : d.Unused pid) (hpos : 0 < pid)
    (hfree : d.running pid = false) : LivenessRight { d with daemon := some ⟨pid, none⟩ } where
  alone := fun r hr => by
    cases hr
    exact ⟨hpos, (Bool.or_eq_false_iff.mp hfree).1⟩
  place := fun r s pc hr hplace => by
    cases hr
    cases hplace
  named := fun s hs => ⟨(h.named s hs).1, fun r hr hpid => by
    cases hr
    exact absurd hpid.symm (hunused.1 s)⟩
  linked := h.linked
  prober := fun o => by
    refine (h.prober o).congr (Nat.le_refl _) (fun _ _ _ hown => hown) (fun _ _ hq => hq) ?_ ?_
    · intro q r' hq hr' hpid
      cases hr'
      cases hpid
      exact absurd hq (hunused.2 o)
    · intro _ r s pc hr hplace
      cases hr
      cases hplace

omit [DecidableEq ω] in
/-- **Another process starts.** -/
theorem LivenessRight.spawn (h : LivenessRight d) {pid : Int} (hunused : d.Unused pid)
    (hfree : d.running pid = false) :
    LivenessRight { d with others := Function.update d.others pid true } where
  alone := fun r hr => by
    refine ⟨(h.alone r hr).1, ?_⟩
    have hne : r.pid ≠ pid := by
      rintro rfl
      have hrunning : d.running r.pid = true := running_daemon hr
      rw [hfree] at hrunning
      cases hrunning
    show Function.update d.others pid true r.pid = false
    rw [Function.update_of_ne hne]
    exact (h.alone r hr).2
  place := h.place
  named := fun s hs => by
    refine ⟨?_, (h.named s hs).2⟩
    show Function.update d.others pid true (d.shm s).daemonPid = false
    rw [Function.update_of_ne (hunused.1 s)]
    exact (h.named s hs).1
  linked := h.linked
  prober := fun o => by
    refine (h.prober o).congr_memory (Nat.le_refl _) (fun _ hown => hown) (fun q hq hother => ?_) rfl
    show Function.update d.others pid true q = false
    rw [Function.update_of_ne (fun heq => hunused.2 o (by rw [hq, heq]))]
    exact hother

omit [DecidableEq ω] in
/-- **Another process ends.** -/
theorem LivenessRight.exit (h : LivenessRight d) (pid : Int) :
    LivenessRight { d with others := Function.update d.others pid false } := by
  have hothers : ∀ q, d.others q = false → Function.update d.others pid false q = false := by
    intro q hq
    by_cases heq : q = pid
    · rw [heq, Function.update_self]
    · rw [Function.update_of_ne heq]
      exact hq
  refine ⟨fun r hr => ⟨(h.alone r hr).1, hothers _ (h.alone r hr).2⟩, h.place,
    fun s hs => ⟨hothers _ (h.named s hs).1, (h.named s hs).2⟩, h.linked, fun o => ?_⟩
  exact (h.prober o).congr_memory (Nat.le_refl _) (fun _ hown => hown) (fun q _ => hothers q) rfl

/-- **The daemon dies.** -/
theorem LivenessRight.die (h : LivenessRight d) :
    LivenessRight { d with shm := fun s => (d.shm s).unlock .daemon, daemon := none } where
  alone := fun r hr => by cases hr
  place := fun r s pc hr => by cases hr
  named := fun s hs => by
    refine ⟨?_, fun r hr => by cases hr⟩
    dsimp only at hs ⊢
    rw [ShmFile.unlock_daemonPid] at hs ⊢
    exact (h.named s hs).1
  linked := h.linked
  prober := fun o => by
    refine (h.prober o).congr (Nat.le_refl _)
      (fun s _ _ hown => ShmFile.unlock_procMutex_of_ne (fun heq => by cases heq) hown) (fun _ _ hq => hq)
      (fun q r' _ hr' => by cases hr') (fun _ r s pc hr => by cases hr)

omit [DecidableEq ω] in
/-- **The daemon opens** the memory that has the name. -/
theorem LivenessRight.open (h : LivenessRight d) {pid : Int} (hd : d.daemon = some ⟨pid, none⟩) {s : Nat}
    (hs : d.linked = some s) : LivenessRight { d with daemon := some ⟨pid, some (s, .loading)⟩ } where
  alone := fun r hr => by
    cases hr
    exact h.alone ⟨pid, none⟩ hd
  place := fun r t pc hr hplace => by
    cases hr
    cases hplace
    exact ⟨h.linked s hs, placeRight_of_not_stamped rfl _⟩
  named := fun t ht => ⟨(h.named t ht).1, fun r hr hpid => by
    cases hr
    obtain ⟨pc, hplace, -⟩ := (h.named t ht).2 ⟨pid, none⟩ hd hpid
    cases hplace⟩
  linked := h.linked
  prober := fun o => by
    refine (h.prober o).congr (Nat.le_refl _) (fun _ _ _ hown => hown) (fun _ _ hq => hq) ?_ ?_
    · intro q r' _ hr' hpid
      cases hr'
      exact ⟨⟨pid, none⟩, hd, hpid, fun t pc hplace => by cases hplace⟩
    · intro _ r t pc hr hplace _
      cases hr
      cases hplace
      rfl

omit [DecidableEq ω] in
/-- **The daemon creates** a memory. -/
theorem LivenessRight.create (h : LivenessRight d) {pid : Int} (hd : d.daemon = some ⟨pid, none⟩) :
    LivenessRight { d with
      shm := Function.update d.shm d.created .zero
      created := d.created + 1
      linked := some d.created
      daemon := some ⟨pid, some (d.created, .wiping)⟩ } where
  alone := fun r hr => by
    cases hr
    exact h.alone ⟨pid, none⟩ hd
  place := fun r t pc hr hplace => by
    cases hr
    cases hplace
    exact ⟨Nat.lt_succ_self _, placeRight_of_not_stamped rfl _⟩
  named := fun t ht => by
    dsimp only at ht ⊢
    by_cases htc : t = d.created
    · rw [htc, Function.update_self] at ht
      exact absurd ht (Int.lt_irrefl 0)
    · rw [Function.update_of_ne htc] at ht ⊢
      refine ⟨(h.named t ht).1, fun r hr hpid => ?_⟩
      cases hr
      obtain ⟨pc, hplace, -⟩ := (h.named t ht).2 ⟨pid, none⟩ hd hpid
      cases hplace
  linked := fun t ht => by
    cases ht
    exact Nat.lt_succ_self _
  prober := fun o => by
    refine (h.prober o).congr (Nat.le_succ _) (fun s hs _ hown => ?_) (fun _ _ hq => hq) ?_ ?_
    · show (Function.update d.shm d.created .zero s).procMutex = _
      rw [Function.update_of_ne (Nat.ne_of_lt ((h.prober o).mapped s hs))]
      exact hown
    · intro q r' _ hr' hpid
      cases hr'
      exact ⟨⟨pid, none⟩, hd, hpid, fun t pc hplace => by cases hplace⟩
    · intro _ r t pc hr hplace _
      cases hr
      cases hplace
      rfl

/-- **The daemon goes on** in its memory. -/
theorem LivenessRight.run (h : LivenessRight d) {pid : Int} {s : Nat} {pc pc' : StartPc} {m' : ShmFile ω}
    (hd : d.daemon = some ⟨pid, some (s, pc)⟩) (hstep : Started pid d.running (d.shm s) pc pc' m')
    (hwipe : pc = .wiping → ∀ o, (d.probers o).mapped = some s → (d.probers o).pc.critical = false)
    (hround : pc = .looping → (d.shm s).heartbeat + 1 ≠ 0) :
    LivenessRight { d with
      shm := Function.update d.shm s m'
      daemon := some ⟨pid, some (s, pc')⟩ } where
  alone := fun r hr => by
    cases hr
    exact h.alone ⟨pid, some (s, pc)⟩ hd
  place := fun r t qc hr hplace => by
    cases hr
    cases hplace
    obtain ⟨hlt, hright⟩ := h.place _ s pc hd rfl
    refine ⟨hlt, ?_⟩
    show PlaceRight pid pc' (Function.update d.shm s m' s)
    rw [Function.update_self]
    exact hstep.placeRight hright hround
  named := fun t ht => by
    dsimp only at ht ⊢
    by_cases hts : t = s
    · subst hts
      rw [Function.update_self] at ht ⊢
      rcases hstep.daemonPid with hsame | hzero | ⟨hpid, hreg⟩
      · rw [hsame] at ht ⊢
        refine ⟨(h.named t ht).1, fun r hr hrpid => ?_⟩
        cases hr
        obtain ⟨qc, hplace, hqc⟩ := (h.named t ht).2 _ hd hrpid
        cases hplace
        exact ⟨pc', rfl, hstep.registered hqc⟩
      · rw [hzero] at ht
        exact absurd ht (Int.lt_irrefl 0)
      · rw [hpid]
        refine ⟨(h.alone _ hd).2, fun r hr _ => ?_⟩
        cases hr
        exact ⟨pc', rfl, hreg⟩
    · rw [Function.update_of_ne hts] at ht ⊢
      refine ⟨(h.named t ht).1, fun r hr hrpid => ?_⟩
      cases hr
      obtain ⟨qc, hplace, -⟩ := (h.named t ht).2 _ hd hrpid
      cases hplace
      exact absurd rfl hts
  linked := h.linked
  prober := fun o => by
    have hmutex : ∀ t, (d.probers o).mapped = some t → (d.probers o).pc.critical = true →
        (d.shm t).procMutex = some (.prober o) →
        (Function.update d.shm s m' t).procMutex = some (.prober o) := by
      intro t ht hcritical hown
      by_cases hts : t = s
      · subst hts
        rw [Function.update_self]
        refine hstep.owner (fun hpc => ?_) hown
        rw [hwipe hpc o ht] at hcritical
        cases hcritical
      · rw [Function.update_of_ne hts]
        exact hown
    refine (h.prober o).congr (Nat.le_refl _) hmutex (fun _ _ hq => hq) ?_ ?_
    · intro q r' _ hr' hpid
      cases hr'
      refine ⟨_, hd, hpid, fun t qc hplace hqc => ?_⟩
      cases hplace
      exact ⟨pc', rfl, hstep.registered hqc⟩
    · intro hwrites r t qc hr hplace ht
      cases hr
      cases hplace
      by_contra hbegun
      rcases hstep.begun (by simpa using hbegun) with hpc | hfree
      · rw [(h.prober o).apart hwrites _ s pc hd rfl ht] at hpc
        cases hpc
      · -- the front end owns the mutex
        obtain ⟨t, ht', hown⟩ := (h.prober o).owner (ProberPc.critical_of_writes hwrites)
        obtain rfl : t = s := Option.some.inj (ht'.symm.trans ht)
        rw [hfree] at hown
        cases hown

omit [DecidableEq ω] in
/-- Only the mapping and the place in the call matter, and not the other front ends. -/
theorem ProberRight.same {o : ω} {p p' : Prober} (h : ProberRight d o p) (hmapped : p'.mapped = p.mapped)
    (hpc : p'.pc = p.pc) (probers : ω → Prober) : ProberRight { d with probers := probers } o p' := by
  obtain ⟨mapped, mayKill, call, pc, ready, gone⟩ := p
  obtain ⟨mapped', mayKill', call', pc', ready', gone'⟩ := p'
  obtain rfl : mapped' = mapped := hmapped
  obtain rfl : pc' = pc := hpc
  exact ⟨h.mapped, h.owner, h.held, h.dead, h.apart⟩

/-- What changes about one front end and not about the memory. -/
theorem LivenessRight.setProber (h : LivenessRight d) {o : ω} {p : Prober} (hp : ProberRight d o p) :
    LivenessRight { d with probers := Function.update d.probers o p } where
  alone := h.alone
  place := h.place
  named := h.named
  linked := h.linked
  prober := fun o' => by
    dsimp only
    by_cases ho : o' = o
    · rw [ho, Function.update_self]
      exact hp.same rfl rfl _
    · rw [Function.update_of_ne ho]
      exact (h.prober o').same rfl rfl _

omit [DecidableEq ω] in
/-- A daemon that has begun owns the mutex, or is registered: nobody is about to clear its entry. -/
theorem LivenessRight.not_begun (h : LivenessRight d) {o : ω} {s : Nat} {q : Int}
    (hs : (d.probers o).mapped = some s) (hpc : (d.probers o).pc = .comparing q)
    (hsame : (d.shm s).daemonPid = q) {r : RunningDaemon} {pc : StartPc} (hr : d.daemon = some r)
    (hplace : r.place = some (s, pc)) : pc.begun = false := by
  obtain ⟨-, hright⟩ := h.place r s pc hr hplace
  by_contra hbegun
  rcases Bool.or_eq_true_iff.mp (by simpa using hbegun : pc.begun = true) with hholding | hregistered
  · obtain ⟨t, ht, hown⟩ := (h.prober o).owner (by rw [hpc]; rfl)
    obtain rfl : t = s := Option.some.inj (ht.symm.trans hs)
    rw [hright.owner hholding] at hown
    cases hown
  · exact (h.prober o).dead q (Or.inr hpc) r hr ((hright.pid hregistered).symm.trans hsame)

/-- **A front end goes on** in its call. -/
theorem LivenessRight.probe (h : LivenessRight d) {o : ω} {s : Nat} {pc' : ProberPc} {m' : ShmFile ω} {keep : Bool}
    (hs : (d.probers o).mapped = some s)
    (hstep : Probed o (d.kill (d.probers o).mayKill) (d.probers o).call (d.shm s) (d.probers o).pc pc' m' keep)
    (hstop : (d.probers o).pc = .stopping → ∀ r pc, d.daemon = some r → r.place = some (s, pc) →
      pc.begun = false) :
    LivenessRight { d with
      shm := Function.update d.shm s m'
      probers := Function.update d.probers o
        { d.probers o with pc := pc', mapped := if keep then some s else none } } := by
  have hcritical : (d.probers o).pc.critical = true → (d.shm s).procMutex = some (.prober o) := by
    intro hpc
    obtain ⟨t, ht, hown⟩ := (h.prober o).owner hpc
    obtain rfl : t = s := Option.some.inj (ht.symm.trans hs)
    exact hown
  -- the memory
  have hmemory : LivenessRight { d with
      shm := Function.update d.shm s m'
      probers := Function.update d.probers o ⟨none, fun _ => false, .tryConnectShm, .idle, false, false⟩ } :=
    { alone := h.alone
      place := fun r t pc hr hplace => by
        obtain ⟨hlt, hright⟩ := h.place r t pc hr hplace
        refine ⟨hlt, ?_⟩
        show PlaceRight r.pid pc (Function.update d.shm s m' t)
        by_cases hts : t = s
        · subst hts
          rw [Function.update_self]
          exact hstep.placeRight hright (fun hwrites => (h.prober o).apart hwrites r t pc hr hplace hs) hcritical
        · rw [Function.update_of_ne hts]
          exact hright
      named := fun t ht => by
        dsimp only at ht ⊢
        by_cases hts : t = s
        · subst hts
          rw [Function.update_self] at ht ⊢
          rcases hstep.daemonPid with hsame | hzero
          · rw [hsame] at ht ⊢
            exact h.named t ht
          · rw [hzero] at ht
            exact absurd ht (Int.lt_irrefl 0)
        · rw [Function.update_of_ne hts] at ht ⊢
          exact h.named t ht
      linked := h.linked
      prober := fun o' => by
        dsimp only
        by_cases ho : o' = o
        · subst ho
          rw [Function.update_self]
          exact .of_free (fun t ht => by cases ht) rfl rfl
        · rw [Function.update_of_ne ho]
          refine (h.prober o').congr_memory (Nat.le_refl _) (fun t hown => ?_) (fun _ _ hq => hq) rfl
          show (Function.update d.shm s m' t).procMutex = _
          by_cases hts : t = s
          · subst hts
            rw [Function.update_self]
            exact hstep.owner_of_ne ho hown
          · rw [Function.update_of_ne hts]
            exact hown }
  -- the front end
  have hprober := @LivenessRight.setProber _ _ _ hmemory o
    { d.probers o with pc := pc', mapped := if keep then some s else none }
    { mapped := fun t ht => by
        dsimp only at ht
        split_ifs at ht
        cases ht
        exact (h.prober o).mapped s hs
      owner := fun hpc => by
        refine ⟨s, if_pos (hstep.kept (Or.inl hpc)), ?_⟩
        show (Function.update d.shm s m' s).procMutex = _
        rw [Function.update_self]
        exact hstep.owner hcritical hpc
      held := fun q hq => by
        have hkeep : keep = true := hstep.kept (Or.inr (by rw [hq]; rfl))
        simp only [hkeep, if_true]
        rcases hstep.holds hq with hheld | ⟨hloaded, hpos⟩
        · have := (h.prober o).held q hheld
          rwa [hs] at this
        · subst hloaded
          obtain ⟨hother, hreg⟩ := h.named s hpos
          refine ⟨hpos, hother, fun r hr hpid => ?_⟩
          obtain ⟨pc, hplace, hpc⟩ := hreg r hr hpid
          exact ⟨s, pc, rfl, hplace, hpc⟩
      dead := fun q hq r hr hpid => by
        rcases hstep.foundDead hq with hdead | ⟨-, hkill⟩
        · exact (h.prober o).dead q hdead r hr hpid
        · have hrunning : d.running r.pid = true := running_daemon hr
          rw [hpid, kill_eq_noSuchProcess.mp hkill] at hrunning
          cases hrunning
      apart := fun hwrites r t pc hr hplace ht => by
        dsimp only at ht
        split_ifs at ht
        cases ht
        rcases hstep.writes hwrites with hold | ⟨q, hpc, hsame⟩ | hpc
        · exact (h.prober o).apart hold r s pc hr hplace hs
        · exact h.not_begun hs hpc hsame hr hplace
        · exact hstop hpc r pc hr hplace }
  simpa using hprober

/-- **A front end leaves**, and gives up what it owns. -/
theorem LivenessRight.leave (h : LivenessRight d) (o : ω) {p : Prober} (hmapped : p.mapped = none)
    (hpc : p.pc = .idle) :
    LivenessRight { d with
      shm := fun s => (d.shm s).unlock (.prober o)
      probers := Function.update d.probers o p } where
  alone := h.alone
  place := fun r s pc hr hplace => by
    obtain ⟨hlt, hmagic, howner, hpid, hbeat⟩ := h.place r s pc hr hplace
    refine ⟨hlt, fun hpc => ?_, fun hpc => ?_, fun hpc => ?_, fun hpc => ?_⟩
    · rw [ShmFile.unlock_magic]
      exact hmagic hpc
    · exact ShmFile.unlock_procMutex_of_ne (fun heq => by cases heq) (howner hpc)
    · rw [ShmFile.unlock_daemonPid]
      exact hpid hpc
    · rw [ShmFile.unlock_heartbeat]
      exact hbeat hpc
  named := fun s hs => by
    dsimp only at hs ⊢
    rw [ShmFile.unlock_daemonPid] at hs ⊢
    exact h.named s hs
  linked := h.linked
  prober := fun o' => by
    dsimp only
    by_cases ho : o' = o
    · rw [ho, Function.update_self]
      refine .of_free (fun s hs => ?_) (by rw [hpc]; rfl) (by rw [hpc]; rfl)
      rw [hmapped] at hs
      cases hs
    · rw [Function.update_of_ne ho]
      refine (h.prober o').congr_memory (Nat.le_refl _) (fun s hown => ?_) (fun _ _ hq => hq) rfl
      exact ShmFile.unlock_procMutex_of_ne (fun heq => ho (ShmOwner.prober.inj heq)) hown

/-- **What happens keeps the registration right.** -/
theorem LivenessRight.move (h : LivenessRight d) {move : LivenessMove ω} (hkept : LivenessKept move d)
    (hmove : d.move move = some d') : LivenessRight d' := by
  cases move with
  | unlink =>
      cases hmove
      refine ⟨h.alone, h.place, h.named, fun s hs => ?_, fun o => ?_⟩
      · cases hs
      · exact (h.prober o).congr_memory (Nat.le_refl _) (fun _ hown => hown) (fun _ _ hq => hq) rfl
  | start pid =>
      simp only [LivenessSystem.move] at hmove
      split_ifs at hmove with hcan
      cases hmove
      simp only [Bool.and_eq_true, decide_eq_true_eq, Bool.not_eq_true'] at hcan
      exact h.start hkept hcan.1.2 hcan.2
  | daemon =>
      have hmove : d.daemonStep = some d' := hmove
      unfold LivenessSystem.daemonStep at hmove
      split at hmove
      · cases hmove
      · rename_i pid hd
        split at hmove
        · rename_i s hs
          cases hmove
          exact h.open hd hs
        · cases hmove
          exact h.create hd
      · rename_i pid s pc hd
        obtain ⟨⟨pc', m'⟩, hstart, rfl⟩ := Option.map_eq_some_iff.mp hmove
        refine h.run hd (startStep_started hstart) (fun hpc => ?_) (fun hpc => ?_)
        · exact (hkept _ s hd).1 (by rw [hpc])
        · exact (hkept _ s hd).2 (by rw [hpc])
  | die =>
      cases hmove
      exact h.die
  | spawn pid =>
      simp only [LivenessSystem.move] at hmove
      split_ifs at hmove with hrunning
      cases hmove
      exact h.spawn hkept (by simpa using hrunning)
  | exit pid =>
      cases hmove
      exact h.exit pid
  | call o call =>
      simp only [LivenessSystem.move] at hmove
      split_ifs at hmove
      cases hmove
      refine h.setProber (.of_free (fun s hs => ?_) ?_ ?_)
      · cases call
        · cases hs
        · exact (h.prober o).mapped s hs
        · exact (h.prober o).mapped s hs
      · cases call <;> dsimp only [Prober.begin] <;> first | rfl | (split_ifs <;> rfl)
      · cases call <;> dsimp only [Prober.begin] <;> first | rfl | (split_ifs <;> rfl)
  | prober o =>
      have hmove : d.proberStep o = some d' := hmove
      unfold LivenessSystem.proberStep at hmove
      dsimp only at hmove
      split at hmove
      · cases hmove
        refine h.setProber (.of_free (fun s hs => ?_) ?_ ?_)
        · obtain ⟨hlinked, -⟩ := Option.filter_eq_some_iff.mp hs
          exact h.linked s hlinked
        · dsimp only
          split_ifs <;> rfl
        · dsimp only
          split_ifs <;> rfl
      · obtain ⟨s, hs, hstep⟩ := Option.bind_eq_some_iff.mp hmove
        obtain ⟨⟨pc', m', keep⟩, hprobe, rfl⟩ := Option.map_eq_some_iff.mp hstep
        exact h.probe hs (probeStep_probed hprobe) fun hpc r pc hr hplace => hkept hpc r s pc hr hplace hs
  | disconnect o =>
      simp only [LivenessSystem.move] at hmove
      split_ifs at hmove
      cases hmove
      exact h.setProber (.of_free (fun s hs => by cases hs) rfl rfl)
  | leave o =>
      cases hmove
      exact h.leave o rfl rfl

/-- **One step keeps the registration right**: the ghosts say nothing about it. -/
theorem LivenessRight.step (h : LivenessRight d) {move : LivenessMove ω} (hkept : LivenessKept move d)
    (hstep : livenessStep move d = some d') : LivenessRight d' := by
  obtain ⟨d₁, hmove, rfl⟩ := Option.map_eq_some_iff.mp hstep
  have h₁ := h.move hkept hmove
  refine ⟨h₁.alone, h₁.place, h₁.named, h₁.linked, fun o => ?_⟩
  exact @ProberRight.same ω d₁ o (d₁.probers o) ((d₁.probers o).witness d₁) (h₁.prober o) rfl rfl _

omit [DecidableEq ω] in
/-- It is right when the machine comes up. -/
theorem LivenessRight.boot (others : Int → Bool) (mayKill : ω → Int → Bool) :
    LivenessRight (bootLiveness others mayKill) where
  alone := fun r hr => by cases hr
  place := fun r s pc hr => by cases hr
  named := fun s hs => absurd hs (Int.lt_irrefl 0)
  linked := fun s hs => by cases hs
  prober := fun o => .of_free (fun s hs => by cases hs) rfl rfl

/-! ## Under the service unit -/

/-- **The condition that the service unit gives**: it removes the memory before it starts a daemon.  Nothing is
said of a wipe. -/
def UnitKept (move : LivenessMove ω) (d : LivenessSystem ω) : Prop :=
  match move with
  | .start pid => d.Unused pid ∧ d.linked = none
  | .daemon => ∀ r s, d.daemon = some r → r.place = some (s, .looping) → (d.shm s).heartbeat + 1 ≠ 0
  | move => LivenessKept move d

/-- It has found a memory, and is to see whose it was. -/
def StartPc.finding : StartPc → Bool
  | .loading | .checking _ | .probing _ => true
  | _ => false

/-- **A daemon sets up a memory of its own**: it never finds another's, and nobody else maps it before it has its
magic. -/
structure MemoryNew (d : LivenessSystem ω) : Prop where
  created : ∀ pid, d.daemon = some ⟨pid, none⟩ → d.linked = none
  own : ∀ r s pc, d.daemon = some r → r.place = some (s, pc) → pc.finding = false
  unmapped : ∀ r s pc, d.daemon = some r → r.place = some (s, pc) → pc.stamped = false →
    (d.shm s).magic = false ∧ ∀ o, (d.probers o).mapped ≠ some s

omit [DecidableEq ω] in
/-- Nothing is said where no daemon runs. -/
theorem MemoryNew.of_none (h : d.daemon = none) : MemoryNew d := by
  constructor <;> simp [h]

omit [DecidableEq ω] in
/-- **A memory stays new** where the daemon does not move and only what has its magic is mapped. -/
theorem MemoryNew.congr (h : MemoryNew d) (hdaemon : d'.daemon = d.daemon)
    (hlinked : d.linked = none → d'.linked = none) (hmagic : ∀ s, (d'.shm s).magic = (d.shm s).magic)
    (hmapped : ∀ o s, (d'.probers o).mapped = some s → (d.probers o).mapped = some s ∨ (d.shm s).magic = true) :
    MemoryNew d' where
  created := fun pid hd => hlinked (h.created pid (hdaemon ▸ hd))
  own := by
    rw [hdaemon]
    exact h.own
  unmapped := fun r s pc hr hplace hpc => by
    rw [hdaemon] at hr
    obtain ⟨hnone, hprobers⟩ := h.unmapped r s pc hr hplace hpc
    refine ⟨(hmagic s).trans hnone, fun o hs => ?_⟩
    rcases hmapped o s hs with hold | hright
    · exact hprobers o hold
    · rw [hnone] at hright
      cases hright

omit [DecidableEq ω] in
/-- The same for one front end. -/
theorem MemoryNew.setProber [DecidableEq ω] (h : MemoryNew d) {o : ω} {p : Prober}
    (hp : ∀ s, p.mapped = some s → (d.probers o).mapped = some s ∨ (d.shm s).magic = true) {shm : Nat → ShmFile ω}
    (hmagic : ∀ s, (shm s).magic = (d.shm s).magic) :
    MemoryNew { d with shm := shm, probers := Function.update d.probers o p } := by
  refine h.congr rfl id hmagic fun o' s hs => ?_
  dsimp only at hs
  by_cases ho : o' = o
  · subst ho
    rw [Function.update_self] at hs
    exact hp s hs
  · rw [Function.update_of_ne ho] at hs
    exact Or.inl hs

/-- **The daemon's move.** -/
theorem MemoryNew.daemonStep (h : MemoryNew d) (hlive : LivenessRight d) (hmove : d.daemonStep = some d') :
    MemoryNew d' := by
  unfold LivenessSystem.daemonStep at hmove
  split at hmove
  · cases hmove
  · rename_i pid hd
    rw [h.created pid hd] at hmove
    cases hmove
    refine ⟨fun pid' hd' => (by cases hd'), fun r s pc hr hplace => ?_, fun r s pc hr hplace _ => ?_⟩
    · cases hr
      cases hplace
      rfl
    · cases hr
      cases hplace
      refine ⟨?_, fun o ho => Nat.lt_irrefl _ ((hlive.prober o).mapped _ ho)⟩
      show (Function.update d.shm d.created .zero d.created).magic = false
      rw [Function.update_self]
      rfl
  · rename_i pid s pc hd
    obtain ⟨⟨pc', m'⟩, hstart, rfl⟩ := Option.map_eq_some_iff.mp hmove
    have hown := h.own _ s pc hd rfl
    have hnew := h.unmapped _ s pc hd rfl
    refine ⟨fun pid' hd' => (by cases hd'), fun r t qc hr hplace => ?_, fun r t qc hr hplace hqc => ?_⟩
    · cases hr
      cases hplace
      cases startStep_started hstart with
      | load | noMagic | oldPid => cases hown
      | _ => rfl
    · cases hr
      cases hplace
      show (Function.update d.shm s m' s).magic = false ∧ _
      rw [Function.update_self]
      cases startStep_started hstart with
      | load | noMagic | dead => cases hown
      | wipe => exact ⟨rfl, (hnew rfl).2⟩
      | _ => cases hqc

/-- **Every move under the service unit keeps a memory new.** -/
theorem MemoryNew.move (h : MemoryNew d) (hlive : LivenessRight d) {move : LivenessMove ω} (hkept : UnitKept move d)
    (hmove : d.move move = some d') : MemoryNew d' := by
  cases move with
  | unlink =>
      cases hmove
      exact h.congr rfl (fun _ => rfl) (fun _ => rfl) fun _ _ hs => Or.inl hs
  | start pid =>
      simp only [LivenessSystem.move] at hmove
      split_ifs at hmove
      cases hmove
      refine ⟨fun _ _ => hkept.2, fun r s pc hr hplace => ?_, fun r s pc hr hplace => ?_⟩ <;>
      · cases hr
        cases hplace
  | daemon => exact h.daemonStep hlive hmove
  | die =>
      cases hmove
      exact .of_none rfl
  | spawn pid =>
      simp only [LivenessSystem.move] at hmove
      split_ifs at hmove
      cases hmove
      exact h.congr rfl id (fun _ => rfl) fun _ _ hs => Or.inl hs
  | exit pid =>
      cases hmove
      exact h.congr rfl id (fun _ => rfl) fun _ _ hs => Or.inl hs
  | call o call =>
      simp only [LivenessSystem.move] at hmove
      split_ifs at hmove
      cases hmove
      refine h.setProber (fun s hs => ?_) fun _ => rfl
      cases call
      · cases hs
      · exact Or.inl hs
      · exact Or.inl hs
  | prober o =>
      have hmove : d.proberStep o = some d' := hmove
      unfold LivenessSystem.proberStep at hmove
      dsimp only at hmove
      split at hmove
      · cases hmove
        refine h.setProber (fun s hs => Or.inr ?_) fun _ => rfl
        exact (Option.filter_eq_some_iff.mp hs).2
      · obtain ⟨s, hs, hstep⟩ := Option.bind_eq_some_iff.mp hmove
        obtain ⟨⟨pc', m', keep⟩, hprobe, rfl⟩ := Option.map_eq_some_iff.mp hstep
        refine h.setProber (fun t ht => Or.inl ?_) fun t => ?_
        · dsimp only at ht
          split_ifs at ht
          cases ht
          exact hs
        · by_cases hts : t = s
          · subst hts
            rw [Function.update_self]
            exact (probeStep_probed hprobe).magic
          · rw [Function.update_of_ne hts]
  | disconnect o =>
      simp only [LivenessSystem.move] at hmove
      split_ifs at hmove
      cases hmove
      exact h.setProber (fun s hs => by cases hs) fun _ => rfl
  | leave o =>
      cases hmove
      exact h.setProber (fun s hs => by cases hs) fun s => (d.shm s).unlock_magic _

omit [DecidableEq ω] in
/-- **Under the service unit** no front end is in its critical section on a memory that is wiped. -/
theorem unitKept_kept (hnew : MemoryNew d) {move : LivenessMove ω} (hkept : UnitKept move d) :
    LivenessKept move d := by
  cases move with
  | start pid => exact hkept.1
  | daemon =>
      refine fun r s hr => ⟨fun hplace o ho => ?_, hkept r s hr⟩
      exact absurd ho ((hnew.unmapped r s .wiping hr hplace rfl).2 o)
  | _ => exact hkept

/-- **Runs under the service unit** are such as the results here are about. -/
theorem run_of_unit (others : Int → Bool) (mayKill : ω → Int → Bool)
    (hrun : Run livenessStep UnitKept (bootLiveness others mayKill) d) :
    Run livenessStep LivenessKept (bootLiveness others mayKill) d := by
  refine (hrun.strengthen (I := fun d => LivenessRight d ∧ MemoryNew d) (fun move s t h hkept hstep => ?_)
    (fun _ _ h hkept => unitKept_kept h.2 hkept) ⟨.boot others mayKill, .of_none rfl⟩).1
  refine ⟨h.1.step (unitKept_kept h.2 hkept) hstep, ?_⟩
  obtain ⟨d₁, hmove, rfl⟩ := Option.map_eq_some_iff.mp hstep
  exact (h.2.move h.1 hkept hmove).congr rfl id (fun _ => rfl) fun _ _ hs => Or.inl hs

/-! ## A restart -/

/-- A test for `UnitKept`, where no process starts and no service is stopped. -/
def unitTest (move : LivenessMove Unit) (d : LivenessSystem Unit) : Bool :=
  match move with
  | .start _ | .spawn _ => false
  | .daemon => d.daemon.all fun r => r.place.all fun at' => at'.2 != .looping || (d.shm at'.1).heartbeat + 1 != 0
  | .prober o => (d.probers o).pc != .stopping
  | _ => true

theorem unitKept_of_test {move : LivenessMove Unit} {d : LivenessSystem Unit} (h : unitTest move d = true) :
    UnitKept move d := by
  cases move with
  | start pid | spawn pid => cases h
  | daemon =>
      intro r s hr hplace
      simpa [unitTest, hr, hplace] using h
  | prober o => exact fun hpc => absurd hpc (by simpa [unitTest] using h)
  | _ => trivial

/-- One front end, and no other processes. -/
def bootAlone : LivenessSystem Unit := bootLiveness (fun _ => false) (fun _ _ => true)

/-- The daemon with this pid starts. -/
def startedAs (pid : Int) (d : LivenessSystem Unit) : LivenessSystem Unit := reached livenessStep [.start pid] d

/-- A daemon comes up, and a front end connects to it. -/
def livenessConnect : List (LivenessMove Unit) :=
  List.replicate 13 .daemon ++ [.call () .tryConnectShm] ++ List.replicate 4 (.prober ())

def livenessConnected : LivenessSystem Unit :=
  reached (checked unitTest livenessStep) livenessConnect (startedAs 7 bootAlone)

/-- The daemon dies; the front end has compared its pid when the memory is removed. -/
def livenessDeath : List (LivenessMove Unit) :=
  [.die, .call () .isDaemonAlive] ++ List.replicate 4 (.prober ()) ++ [.unlink]

def livenessDied : LivenessSystem Unit := reached (checked unitTest livenessStep) livenessDeath livenessConnected

/-- Another daemon comes up, and the front end clears the entry it found. -/
def livenessRestart : List (LivenessMove Unit) := List.replicate 14 .daemon ++ List.replicate 3 (.prober ())

def livenessRestarted : LivenessSystem Unit :=
  reached (checked unitTest livenessStep) livenessRestart (startedAs 8 livenessDied)

theorem run_startedAs {pid : Int} {d : LivenessSystem Unit} (hunused : d.Unused pid) (hlinked : d.linked = none)
    (hstart : (livenessStep (.start pid) d).isSome = true) (moves : List (LivenessMove Unit))
    (hmoves : (exec (checked unitTest livenessStep) moves (startedAs pid d)).isSome = true) :
    Run livenessStep UnitKept d (reached (checked unitTest livenessStep) moves (startedAs pid d)) := by
  have hstarted : livenessStep (.start pid) d = some (startedAs pid d) := by
    obtain ⟨d₁, h⟩ := Option.isSome_iff_exists.mp hstart
    rw [h, startedAs, reached, exec, h]
    rfl
  exact (Run.single (show UnitKept (.start pid) d from ⟨hunused, hlinked⟩) hstarted).trans
    (.of_exec_checked (fun _ _ => unitKept_of_test) (eq_some_getD hmoves))

/-- **The run**: a front end clears the entry of a daemon that died, while its successor runs. -/
theorem run_restarted : Run livenessStep UnitKept bootAlone livenessRestarted := by
  have hunused₀ : bootAlone.Unused 7 :=
    ⟨fun _ => show (0 : Int) ≠ 7 by decide, fun _ => show (none : Option Int) ≠ some 7 by decide⟩
  have hfirst : Run livenessStep UnitKept bootAlone livenessConnected :=
    run_startedAs hunused₀ rfl (by decide) livenessConnect (by decide)
  have hdeath : (exec (checked unitTest livenessStep) livenessDeath livenessConnected).isSome = true := by decide
  have hdied : Run livenessStep UnitKept livenessConnected livenessDied :=
    .of_exec_checked (fun _ _ => unitKept_of_test) (eq_some_getD (s := livenessConnected) hdeath)
  have hunused : livenessDied.Unused 8 := by
    refine ⟨fun s => ?_, fun o => show (livenessDied.probers ()).pc.holds ≠ some 8 by decide⟩
    cases s with
    | zero => decide
    | succ s => exact show (0 : Int) ≠ 8 by decide
  exact (hfirst.trans hdied).trans (run_startedAs hunused (by decide) (by decide) livenessRestart (by decide))

/-! ## A daemon stays registered -/

/-- **A daemon in its loop is registered**: the memory has the right magic, its pid, and a heartbeat. -/
def LoopRegistered (d : LivenessSystem ω) : Prop :=
  ∀ pid s, d.daemon = some ⟨pid, some (s, .looping)⟩ →
    (d.shm s).magic = true ∧ (d.shm s).daemonPid = pid ∧ (d.shm s).heartbeat ≠ 0

omit [DecidableEq ω] in
theorem LivenessRight.loopRegistered (h : LivenessRight d) : LoopRegistered d := by
  intro pid s hd
  obtain ⟨-, hright⟩ := h.place _ s .looping hd rfl
  exact ⟨hright.magic rfl, hright.pid rfl, hright.heartbeat rfl⟩

/-- **A daemon stays registered**, whatever the front ends do with what they found of its predecessors. -/
theorem daemon_stays_registered (others : Int → Bool) (mayKill : ω → Int → Bool)
    (hrun : Run livenessStep LivenessKept (bootLiveness others mayKill) d) : LoopRegistered d :=
  (hrun.invariant (fun _ _ _ h hkept hstep => LivenessRight.step h hkept hstep) (.boot others mayKill)).loopRegistered

theorem daemon_stays_registered_restarted :
    LoopRegistered livenessRestarted ∧ livenessRestarted.daemon = some ⟨8, some (1, .looping)⟩ :=
  ⟨daemon_stays_registered _ _ (run_of_unit _ _ run_restarted), by decide⟩

/-- Where the memory stays, as when a daemon is started by hand, and the next daemon wipes it. -/
def livenessWipe : List (LivenessMove Unit) :=
  .start 7 :: livenessConnect ++ [.die, .call () .isDaemonAlive] ++ List.replicate 4 (.prober ()) ++ [.start 8] ++
    List.replicate 17 .daemon ++ List.replicate 3 (.prober ())

/-- **A daemon that is not registered**: the wipe makes the mutex a new one, and the front end that had the old
one clears the entry of the daemon that came after. -/
theorem wiped_memory_unregisters : ∃ d, Run livenessStep free bootAlone d ∧ ¬LoopRegistered d := by
  refine ⟨reached livenessStep livenessWipe bootAlone, .of_exec (eq_some_getD (by decide)), fun h => ?_⟩
  exact absurd (h 8 0 (by decide)).2.1 (by decide)

end

end Dstx
