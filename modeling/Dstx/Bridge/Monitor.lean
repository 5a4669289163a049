/-
# Dstx.Bridge.Monitor — what a bus client learns from the signals of the bridge (`dbus-monitor.c`,
`dbus-signals.c`).

The monitor thread polls the shared memory.  It keeps the state of every slot from one iteration to the
next and emits the DIFFERENCES: `ControllerConnected`, `ControllerDisconnected`, and
`DaemonStatusChanged(false)` when it forgets everything because the daemon is gone.  A client that adds,
removes and clears along with these signals holds the connected slots of the monitor's previous state
(`Mirrors`), whatever the heartbeat, the process and the segment do.

The two alive flags, `last_alive_state` of the thread and the global `g_prev_daemon_alive`, are reset on
different branches, and the previous state on only one of them.  `FlagsAgree` is why that is enough: the
thread is never alive without its mapping, so the branch without shared memory finds nothing to forget.

Every emission is kept with whether it WENT OUT.  The thread is started before `setup_dbus`: with no
connection to the bus, `emit_…` returns silently, and the previous state is overwritten all the same.  What
is lost so is never said again (`startup_emission_lost`), so the correspondence is for the runs in which every
emission is sent.
-/
import Dstx.Bridge.State
import Dstx.Lib.Run
import Mathlib.Data.Finset.Basic

namespace Dstx

open Dstx.Lib

/-! ## The state of the bridge -/

/-- `rate_limit_t`. -/
structure RateLimit where
  lastTelemetryUs : UInt64
  lastButtonUs : UInt64
  lastAxisUs : UInt64
  lastControllerUpdateUs : UInt64

/-- `bridge_state_t`, what the method handlers read. -/
structure BridgeState where
  daemonAlive : Bool
  slots : Fin maxSlots → ControllerState
  lastUpdate : Timeval
  rateLimit : Fin maxSlots → RateLimit

/-- The signals of the bridge interface. -/
inductive BridgeSignal where
  | controllerConnected (slot : Fin maxSlots)
  | controllerDisconnected (slot : Fin maxSlots)
  | controllerUpdated (slot : Fin maxSlots)
  | telemetryUpdate (slot : Fin maxSlots) (args : List DBusValue)
  | buttonUpdate (slot : Fin maxSlots) (args : List DBusValue)
  | axisUpdate (slot : Fin maxSlots) (args : List DBusValue)
  | daemonStatusChanged (alive : Bool)

/-- A call of `emit_…`, and whether the signal went out. -/
structure Emission where
  signal : BridgeSignal
  sent : Bool

/-- **The monitor thread**: its locals, the globals it writes, and the signals it has emitted. -/
structure Monitor where
  shmMapped : Bool
  lastHeartbeat : UInt32
  lastHeartbeatTime : Timeval
  lastAliveState : Bool
  prevState : Fin maxSlots → ControllerState
  prevDaemonAlive : Bool
  bridge : BridgeState
  emissions : List Emission

/-- The clock readings of one slot in one iteration. -/
structure SlotReadings where
  updateNow : UInt64
  updateCheck : UInt64
  telemetryNow : UInt64
  telemetryCheck : UInt64
  buttonCheck : UInt64
  axisCheck : UInt64

/-- **What one iteration finds outside**: the segment (can it be opened, is it long enough, can it be
mapped, is its magic right), the daemon's heartbeat, process and slots, the clock, and for each signal
whether the bus connection is there when it is emitted. -/
structure MonitorInputs where
  opens : Bool
  fits : Bool
  maps : Bool
  magicOk : Bool
  heartbeat : UInt32
  now : Timeval
  daemonPid : Int
  noSuchProcess : Bool
  slots : Fin maxSlots → ControllerState
  clock : Fin maxSlots → SlotReadings
  updateTime : Timeval
  online : BridgeSignal → Bool

/-! ## Rate limits -/

/-- `CONTROLLER_UPDATE_INTERVAL_US`. -/
def controllerUpdateIntervalUs : UInt64 := 100000

/-- `TELEMETRY_MIN_INTERVAL_US`. -/
def telemetryMinIntervalUs : UInt64 := 16666

/-- `BUTTON_MIN_INTERVAL_US`. -/
def buttonMinIntervalUs : UInt64 := 33333

/-- `AXIS_MIN_INTERVAL_US`. -/
def axisMinIntervalUs : UInt64 := 16666

/-- `should_emit_signal`, with its reading of the clock. -/
def shouldEmitSignal (nowUs lastEmit minIntervalUs : UInt64) : Bool := nowUs - lastEmit ≥ minIntervalUs

/-- The arguments of `ButtonUpdate`. -/
def buttonArgs (slot : UInt8) (c : ControllerState) : List DBusValue :=
  [.byte slot, .uint16 (packButtons c.pad.buttons)]

/-- The arguments of `AxisUpdate`: those of `TelemetryUpdate` without the buttons. -/
def axisArgs (slot : UInt8) (c : ControllerState) : List DBusValue := (telemetryArgs slot c).dropLast

/-! ## One slot -/

namespace Monitor

/-- A call of `emit_…`. -/
def emit (m : Monitor) (inputs : MonitorInputs) (signal : BridgeSignal) : Monitor :=
  { m with emissions := m.emissions ++ [⟨signal, inputs.online signal⟩] }

/-- Store a slot's rate limits. -/
def setRate (m : Monitor) (i : Fin maxSlots) (rate : RateLimit) : Monitor :=
  { m with bridge := { m.bridge with rateLimit := Function.update m.bridge.rateLimit i rate } }

/-- `copy_controller_state(dst, src)`. -/
def copySlot (m : Monitor) (i : Fin maxSlots) (src : ControllerState) : Monitor :=
  { m with bridge := { m.bridge with
      slots := Function.update m.bridge.slots i (copyControllerState (m.bridge.slots i) src) } }

/-- The connection signals of a slot. -/
def announce (inputs : MonitorInputs) (i : Fin maxSlots) (m : Monitor) : Monitor :=
  if (m.bridge.slots i).slot.connected = (m.prevState i).slot.connected then m
  else if (m.bridge.slots i).slot.connected then m.emit inputs (.controllerConnected i)
  else m.emit inputs (.controllerDisconnected i)

/-- `ControllerUpdated`. -/
def reportConfig (inputs : MonitorInputs) (i : Fin maxSlots) (m : Monitor) : Monitor :=
  if configChanged (m.bridge.slots i).slot (m.prevState i).slot &&
      shouldEmitSignal (inputs.clock i).updateCheck (m.bridge.rateLimit i).lastControllerUpdateUs
        controllerUpdateIntervalUs then
    (m.emit inputs (.controllerUpdated i)).setRate i
      { m.bridge.rateLimit i with lastControllerUpdateUs := (inputs.clock i).updateNow }
  else m

/-- `TelemetryUpdate`. -/
def reportTelemetry (inputs : MonitorInputs) (i : Fin maxSlots) (m : Monitor) : Monitor :=
  if shouldEmitSignal (inputs.clock i).telemetryCheck (m.bridge.rateLimit i).lastTelemetryUs
      telemetryMinIntervalUs then
    (m.emit inputs (.telemetryUpdate i (telemetryArgs (UInt8.ofNat i) (m.bridge.slots i)))).setRate i
      { m.bridge.rateLimit i with lastTelemetryUs := (inputs.clock i).telemetryNow }
  else m

/-- `ButtonUpdate`. -/
def reportButtons (inputs : MonitorInputs) (i : Fin maxSlots) (m : Monitor) : Monitor :=
  if shouldEmitSignal (inputs.clock i).buttonCheck (m.bridge.rateLimit i).lastButtonUs buttonMinIntervalUs then
    (m.emit inputs (.buttonUpdate i (buttonArgs (UInt8.ofNat i) (m.bridge.slots i)))).setRate i
      { m.bridge.rateLimit i with lastButtonUs := (inputs.clock i).telemetryNow }
  else m

/-- `AxisUpdate`. -/
def reportAxes (inputs : MonitorInputs) (i : Fin maxSlots) (m : Monitor) : Monitor :=
  if shouldEmitSignal (inputs.clock i).axisCheck (m.bridge.rateLimit i).lastAxisUs axisMinIntervalUs then
    (m.emit inputs (.axisUpdate i (axisArgs (UInt8.ofNat i) (m.bridge.slots i)))).setRate i
      { m.bridge.rateLimit i with lastAxisUs := (inputs.clock i).telemetryNow }
  else m

/-- `buttons != prev_buttons`. -/
def buttonsChanged (m : Monitor) (i : Fin maxSlots) : Bool :=
  packButtons (m.bridge.slots i).pad.buttons != packButtons (m.prevState i).pad.buttons

/-- `axes_changed`. -/
def axesChanged (m : Monitor) (i : Fin maxSlots) : Bool :=
  telemetryChanged (m.bridge.slots i).pad (m.prevState i).pad

/-- The input signals of a connected slot. -/
def reportInput (inputs : MonitorInputs) (i : Fin maxSlots) (m : Monitor) : Monitor :=
  if m.buttonsChanged i || m.axesChanged i then
    let told := m.reportTelemetry inputs i
    let pressed := if m.buttonsChanged i then told.reportButtons inputs i else told
    if m.axesChanged i then pressed.reportAxes inputs i else pressed
  else m

/-- The signals of a slot that is connected. -/
def report (inputs : MonitorInputs) (i : Fin maxSlots) (m : Monitor) : Monitor :=
  if (m.bridge.slots i).slot.connected then (m.reportConfig inputs i).reportInput inputs i else m

/-- `copy_controller_state(prev, dst)`. -/
def keepSlot (i : Fin maxSlots) (m : Monitor) : Monitor :=
  { m with
    prevState := Function.update m.prevState i (copyControllerState (m.prevState i) (m.bridge.slots i)) }

/-- **The body of the slot loop.** -/
def scanSlot (inputs : MonitorInputs) (m : Monitor) (i : Fin maxSlots) : Monitor :=
  keepSlot i (report inputs i (announce inputs i (m.copySlot i (inputs.slots i))))

end Monitor

/-! ## One iteration -/

/-- A `controller_t` of zeros. -/
def zeroedSlot : Slot :=
  { initialController, initialCells with
    ledB := 0
    ledBaseB := 0
    rumbleGain := 0
    globalLedBrightness := 0
    ledReapply := false
    rumbleActive := false
    ledStatic := false
    ledRequestSpeed := 0
    ledRequestBrightness := 0
    ledDirty := false
    keymap := fun _ => 0 }

/-- Input state zero. -/
def zeroedPad : Pad := { centredPad with battery := 0 }

/-- A zeroed entry of `g_prev_state`. -/
def zeroedState : ControllerState where
  slot := zeroedSlot
  pad := zeroedPad
  axesRange := centredPad_axesRange
  intRange := fun v hv => by
    have hzero : v = 0 := by simpa [zeroedPad, centredPad, zeroedSlot, initialController] using hv
    omega

/-- `memset(&g_state.rate_limit, 0, …)`. -/
def zeroedRate : RateLimit := ⟨0, 0, 0, 0⟩

/-- The milliseconds between two clock readings, with C's division. -/
def timevalDiffMs (a b : Timeval) : Int := (a.sec - b.sec) * 1000 + (a.usec - b.usec).tdiv 1000

namespace Monitor

/-- Map the segment, unless it is mapped. -/
def openShm (inputs : MonitorInputs) (m : Monitor) : Monitor :=
  { m with shmMapped := m.shmMapped || (inputs.opens && inputs.fits && inputs.maps && inputs.magicOk) }

/-- A new heartbeat is stored with its time. -/
def readHeartbeat (inputs : MonitorInputs) (m : Monitor) : Monitor :=
  if inputs.heartbeat ≠ m.lastHeartbeat then
    { m with lastHeartbeat := inputs.heartbeat, lastHeartbeatTime := inputs.now }
  else m

/-- **`alive`**: a heartbeat that is new or at most a second old, and a process. -/
def findsDaemon (inputs : MonitorInputs) (m : Monitor) : Bool :=
  (inputs.heartbeat != m.lastHeartbeat || decide (timevalDiffMs inputs.now m.lastHeartbeatTime ≤ 1000)) &&
    !(decide (inputs.daemonPid ≤ 0) || inputs.noSuchProcess)

/-- The slot loop. -/
def scanSlots (inputs : MonitorInputs) (m : Monitor) : Monitor :=
  (List.finRange maxSlots).foldl (scanSlot inputs) m

/-- `g_state.daemon_alive = …`. -/
def setDaemonAlive (alive : Bool) (m : Monitor) : Monitor :=
  { m with bridge := { m.bridge with daemonAlive := alive } }

/-- `emit_daemon_status_signal`, with its flag. -/
def setStatus (inputs : MonitorInputs) (alive : Bool) (m : Monitor) : Monitor :=
  if m.prevDaemonAlive = alive then m
  else { m.emit inputs (.daemonStatusChanged alive) with prevDaemonAlive := alive }

/-- Daemon alive: the slots, and the status the first time. -/
def whenAlive (inputs : MonitorInputs) (m : Monitor) : Monitor :=
  let scanned := (m.setDaemonAlive true).scanSlots inputs
  let stamped := { scanned with bridge := { scanned.bridge with lastUpdate := inputs.updateTime } }
  if m.lastAliveState then stamped else stamped.setStatus inputs true

/-- `memset(&g_prev_state, 0, …)`, and the rate limits. -/
def forget (m : Monitor) : Monitor :=
  { m with
    prevState := fun _ => zeroedState
    bridge := { m.bridge with rateLimit := fun _ => zeroedRate } }

/-- Daemon gone: the status, everything forgotten, the mapping given up. -/
def whenGone (inputs : MonitorInputs) (m : Monitor) : Monitor :=
  let told := if m.lastAliveState then (m.setStatus inputs false).forget else m
  { told.setDaemonAlive false with shmMapped := false }

/-- No segment: the status. -/
def whenAbsent (inputs : MonitorInputs) (m : Monitor) : Monitor :=
  let told := if m.lastAliveState then m.setStatus inputs false else m
  told.setDaemonAlive false

/-- **One iteration of `daemon_monitor`.** -/
def iterate (inputs : MonitorInputs) (m : Monitor) : Monitor :=
  let opened := m.openShm inputs
  if opened.shmMapped then
    let alive := opened.findsDaemon inputs
    let read := opened.readHeartbeat inputs
    { (if alive then read.whenAlive inputs else read.whenGone inputs) with lastAliveState := alive }
  else { opened.whenAbsent inputs with lastAliveState := false }

end Monitor

/-- The thread starts: nothing mapped, nothing known, nothing said. -/
def initialMonitor : Monitor where
  shmMapped := false
  lastHeartbeat := 0
  lastHeartbeatTime := ⟨0, 0⟩
  lastAliveState := false
  prevState := fun _ => zeroedState
  prevDaemonAlive := false
  bridge :=
    { daemonAlive := false
      slots := fun _ => zeroedState
      lastUpdate := ⟨0, 0⟩
      rateLimit := fun _ => zeroedRate }
  emissions := []

/-- An iteration, as a step of a run. -/
def monitorStep (inputs : MonitorInputs) (m : Monitor) : Option Monitor := some (m.iterate inputs)

/-! ## A client -/

/-- **What a client does with a signal**: add, remove, clear. -/
def busClientStep (held : Finset (Fin maxSlots)) : BridgeSignal → Finset (Fin maxSlots)
  | .controllerConnected i => insert i held
  | .controllerDisconnected i => held.erase i
  | .daemonStatusChanged false => ∅
  | _ => held

/-- The signals that went out, in order. -/
def Monitor.heard (m : Monitor) : List BridgeSignal := (m.emissions.filter (·.sent)).map (·.signal)

/-- **The slots a client holds** that has listened from the start. -/
def Monitor.clientSet (m : Monitor) : Finset (Fin maxSlots) := m.heard.foldl busClientStep ∅

/-- Every signal went out. -/
def Monitor.AllSent (m : Monitor) : Prop := ∀ e ∈ m.emissions, e.sent = true

/-! ## What an emission does to the client -/

/-- A signal that no client acts on. -/
def BridgeSignal.Neutral (signal : BridgeSignal) : Prop := ∀ held, busClientStep held signal = held

section Client

variable {m m' : Monitor} {inputs : MonitorInputs} {signal : BridgeSignal}

theorem allSent_emit (h : (m.emit inputs signal).AllSent) : m.AllSent ∧ inputs.online signal = true := by
  constructor
  · intro e he
    exact h e (List.mem_append_left _ he)
  · exact h ⟨signal, inputs.online signal⟩ (List.mem_append_right _ (List.mem_singleton_self _))

/-- **A signal that goes out is one step of the client.** -/
theorem clientSet_emit (honline : inputs.online signal = true) :
    (m.emit inputs signal).clientSet = busClientStep m.clientSet signal := by
  simp [Monitor.clientSet, Monitor.heard, Monitor.emit, honline]

/-- **The client mirrors the monitor**: if all signals went out, it holds the connected slots of the
previous state. -/
def Mirrors (m : Monitor) : Prop :=
  m.AllSent → ∀ i, i ∈ m.clientSet ↔ (m.prevState i).slot.connected = true

/-- The parts of the monitor that no client sees are the same. -/
structure SameFlags (m m' : Monitor) : Prop where
  shmMapped : m'.shmMapped = m.shmMapped
  lastAliveState : m'.lastAliveState = m.lastAliveState
  prevDaemonAlive : m'.prevDaemonAlive = m.prevDaemonAlive

theorem SameFlags.refl (m : Monitor) : SameFlags m m := ⟨rfl, rfl, rfl⟩

theorem SameFlags.trans {m'' : Monitor} (h : SameFlags m m') (h' : SameFlags m' m'') : SameFlags m m'' :=
  ⟨h'.shmMapped.trans h.shmMapped, h'.lastAliveState.trans h.lastAliveState,
    h'.prevDaemonAlive.trans h.prevDaemonAlive⟩

/-- **A piece of the loop that changes nothing for the client**: it may emit, but only neutral signals. -/
structure ClientQuiet (m m' : Monitor) : Prop where
  flags : SameFlags m m'
  prevState : m'.prevState = m.prevState
  slots : m'.bridge.slots = m.bridge.slots
  client : m'.AllSent → m.AllSent ∧ m'.clientSet = m.clientSet

theorem ClientQuiet.refl (m : Monitor) : ClientQuiet m m :=
  ⟨.refl m, rfl, rfl, fun h => ⟨h, rfl⟩⟩

theorem ClientQuiet.trans {m'' : Monitor} (h : ClientQuiet m m') (h' : ClientQuiet m' m'') :
    ClientQuiet m m'' where
  flags := h.flags.trans h'.flags
  prevState := h'.prevState.trans h.prevState
  slots := h'.slots.trans h.slots
  client := fun hsent => by
    obtain ⟨hmid, hset⟩ := h'.client hsent
    obtain ⟨hfirst, hset'⟩ := h.client hmid
    exact ⟨hfirst, hset.trans hset'⟩

theorem ClientQuiet.ite {p : Prop} [Decidable p] (h : ClientQuiet m m') :
    ClientQuiet m (if p then m' else m) := by
  split_ifs
  · exact h
  · exact ClientQuiet.refl m

/-- A neutral signal with a new rate limit. -/
theorem clientQuiet_emit_setRate (hneutral : signal.Neutral) (i : Fin maxSlots) (rate : RateLimit) :
    ClientQuiet m ((m.emit inputs signal).setRate i rate) where
  flags := ⟨rfl, rfl, rfl⟩
  prevState := rfl
  slots := rfl
  client := fun hsent => by
    obtain ⟨hfirst, honline⟩ := allSent_emit (m := m) hsent
    refine ⟨hfirst, ?_⟩
    show (m.emit inputs signal).clientSet = m.clientSet
    rw [clientSet_emit honline, hneutral]

theorem clientQuiet_reportInput (i : Fin maxSlots) : ClientQuiet m (m.reportInput inputs i) := by
  have htelemetry : ClientQuiet m (m.reportTelemetry inputs i) :=
    ClientQuiet.ite (clientQuiet_emit_setRate (fun _ => rfl) i _)
  have hbuttons : ∀ n, ClientQuiet m n → ClientQuiet m (n.reportButtons inputs i) :=
    fun n h => h.trans (ClientQuiet.ite (clientQuiet_emit_setRate (fun _ => rfl) i _))
  have haxes : ∀ n, ClientQuiet m n → ClientQuiet m (n.reportAxes inputs i) :=
    fun n h => h.trans (ClientQuiet.ite (clientQuiet_emit_setRate (fun _ => rfl) i _))
  unfold Monitor.reportInput
  refine ClientQuiet.ite ?_
  dsimp only
  split_ifs
  · exact haxes _ (hbuttons _ htelemetry)
  · exact haxes _ htelemetry
  · exact hbuttons _ htelemetry
  · exact htelemetry

theorem clientQuiet_report (inputs : MonitorInputs) (i : Fin maxSlots) :
    ClientQuiet m (m.report inputs i) := by
  have hconfig : ClientQuiet m (m.reportConfig inputs i) :=
    ClientQuiet.ite (clientQuiet_emit_setRate (fun _ => rfl) i _)
  exact ClientQuiet.ite (hconfig.trans (clientQuiet_reportInput i))

end Client

/-! ## The slot loop -/

section Scan

variable {m : Monitor} (inputs : MonitorInputs)

/-- **The connection signals of a slot** move the client to the new flag. -/
theorem announce_spec (i : Fin maxSlots) (hmirrors : Mirrors m) :
    SameFlags m (m.announce inputs i) ∧ (m.announce inputs i).prevState = m.prevState ∧
      (m.announce inputs i).bridge = m.bridge ∧
      ((m.announce inputs i).AllSent → ∀ j, j ∈ (m.announce inputs i).clientSet ↔
        if j = i then (m.bridge.slots i).slot.connected = true else (m.prevState j).slot.connected = true) := by
  unfold Monitor.announce
  split_ifs with hsame hconn
  · refine ⟨.refl m, rfl, rfl, fun hsent j => ?_⟩
    rw [hmirrors hsent j]
    split_ifs with hj
    · rw [hj, hsame]
    · rfl
  · refine ⟨⟨rfl, rfl, rfl⟩, rfl, rfl, fun hsent j => ?_⟩
    obtain ⟨hbefore, honline⟩ := allSent_emit hsent
    rw [clientSet_emit honline, busClientStep, Finset.mem_insert, hmirrors hbefore j]
    split_ifs with hj
    · simp [hj, hconn]
    · simp [hj]
  · refine ⟨⟨rfl, rfl, rfl⟩, rfl, rfl, fun hsent j => ?_⟩
    obtain ⟨hbefore, honline⟩ := allSent_emit hsent
    rw [clientSet_emit honline, busClientStep, Finset.mem_erase, hmirrors hbefore j]
    split_ifs with hj
    · simp [hj, hconn]
    · simp [hj]

/-- **One slot of the loop**: the client still mirrors, and the previous state of the slot has the flag
that was read. -/
theorem scanSlot_spec (i : Fin maxSlots) (hmirrors : Mirrors m) :
    Mirrors (m.scanSlot inputs i) ∧ SameFlags m (m.scanSlot inputs i) ∧
      ∀ j, ((m.scanSlot inputs i).prevState j).slot.connected =
        if j = i then (inputs.slots i).slot.connected else (m.prevState j).slot.connected := by
  have hcopy : Mirrors (m.copySlot i (inputs.slots i)) := hmirrors
  have hslot : ((m.copySlot i (inputs.slots i)).bridge.slots i).slot.connected =
      (inputs.slots i).slot.connected := by
    simp [Monitor.copySlot]
  obtain ⟨hflags, hprev, hbridge, hclient⟩ := announce_spec inputs i hcopy
  have hquiet := clientQuiet_report (m := (m.copySlot i (inputs.slots i)).announce inputs i) inputs i
  have hconnected : ∀ j, ((m.scanSlot inputs i).prevState j).slot.connected =
      if j = i then (inputs.slots i).slot.connected else (m.prevState j).slot.connected := by
    intro j
    simp only [Monitor.scanSlot, Monitor.keepSlot, Function.update_apply, hquiet.slots, hquiet.prevState,
      hbridge, hprev]
    split_ifs with hj
    · rw [copyControllerState_connected, hslot]
    · rfl
  have hcopied : SameFlags m (m.copySlot i (inputs.slots i)) := ⟨rfl, rfl, rfl⟩
  have hreported := (hcopied.trans hflags).trans hquiet.flags
  refine ⟨fun hsent j => ?_, ⟨hreported.shmMapped, hreported.lastAliveState, hreported.prevDaemonAlive⟩,
    hconnected⟩
  rw [hconnected j]
  obtain ⟨hannounced, hset⟩ := hquiet.client hsent
  have hheld := hclient hannounced j
  rw [hslot] at hheld
  show j ∈ (((m.copySlot i (inputs.slots i)).announce inputs i).report inputs i).clientSet ↔ _
  rw [hset, hheld]
  split_ifs <;> rfl

/-- **The slot loop**, from any list of slots on. -/
theorem foldl_scanSlot_spec (l : List (Fin maxSlots)) (hmirrors : Mirrors m) :
    Mirrors (l.foldl (Monitor.scanSlot inputs) m) ∧ SameFlags m (l.foldl (Monitor.scanSlot inputs) m) ∧
      ∀ j, ((l.foldl (Monitor.scanSlot inputs) m).prevState j).slot.connected =
        if j ∈ l then (inputs.slots j).slot.connected else (m.prevState j).slot.connected := by
  induction l generalizing m with
  | nil => exact ⟨hmirrors, .refl m, fun j => by simp⟩
  | cons i l ih =>
      obtain ⟨hone, hflags, hprev⟩ := scanSlot_spec inputs i hmirrors
      obtain ⟨hrest, hflags', hprev'⟩ := ih hone
      refine ⟨hrest, hflags.trans hflags', fun j => ?_⟩
      rw [List.foldl_cons, hprev' j, hprev j]
      by_cases hl : j ∈ l
      · simp [hl]
      · by_cases hj : j = i <;> simp [hl, hj]

/-- **All slots**: the previous state has the flags of the snapshot. -/
theorem scanSlots_spec (hmirrors : Mirrors m) :
    Mirrors (m.scanSlots inputs) ∧ SameFlags m (m.scanSlots inputs) ∧
      ∀ j, ((m.scanSlots inputs).prevState j).slot.connected = (inputs.slots j).slot.connected := by
  obtain ⟨hscan, hflags, hprev⟩ := foldl_scanSlot_spec inputs (List.finRange maxSlots) hmirrors
  refine ⟨hscan, hflags, fun j => ?_⟩
  rw [Monitor.scanSlots, hprev j, if_pos (List.mem_finRange j)]

end Scan

/-! ## Whole runs -/

/-- **The alive flags agree**: a thread that found the daemon alive has its mapping and has told its
clients; one that did not has told them too, and has forgotten every slot. -/
structure FlagsAgree (m : Monitor) : Prop where
  alive : m.lastAliveState = true → m.shmMapped = true ∧ m.prevDaemonAlive = true
  gone : m.lastAliveState = false →
    m.prevDaemonAlive = false ∧ ∀ i, (m.prevState i).slot.connected = false

/-- **What every iteration keeps.** -/
structure MonitorRight (m : Monitor) : Prop where
  mirrors : Mirrors m
  flags : FlagsAgree m

theorem initialMonitor_right : MonitorRight initialMonitor where
  mirrors := fun _ i => by
    simp [Monitor.clientSet, Monitor.heard, initialMonitor, zeroedState, zeroedSlot, initialCells]
  flags := ⟨fun h => absurd h Bool.false_ne_true, fun _ => ⟨rfl, fun _ => rfl⟩⟩

section Iterate

variable {m : Monitor} (inputs : MonitorInputs)

/-- Daemon alive: the client holds the snapshot. -/
theorem whenAlive_spec (hright : MonitorRight m) :
    Mirrors (m.whenAlive inputs) ∧ (m.whenAlive inputs).shmMapped = m.shmMapped ∧
      (m.whenAlive inputs).prevDaemonAlive = true ∧
      ∀ j, ((m.whenAlive inputs).prevState j).slot.connected = (inputs.slots j).slot.connected := by
  obtain ⟨hmirrors, hflags⟩ := hright
  have hstart : Mirrors (m.setDaemonAlive true) := hmirrors
  obtain ⟨hscan, hsame, hprev⟩ := scanSlots_spec inputs hstart
  have hlast : SameFlags m ((m.setDaemonAlive true).scanSlots inputs) :=
    ⟨hsame.shmMapped, hsame.lastAliveState, hsame.prevDaemonAlive⟩
  simp only [Monitor.whenAlive]
  generalize (m.setDaemonAlive true).scanSlots inputs = scanned at hscan hlast hprev ⊢
  split_ifs with halive
  · exact ⟨hscan, hlast.shmMapped, hlast.prevDaemonAlive.trans (hflags.alive halive).2, hprev⟩
  · -- the first time: `DaemonStatusChanged(true)`, on which no client acts
    have hunknown := (hflags.gone (Bool.eq_false_iff.mpr halive)).1
    simp only [Monitor.setStatus, hlast.prevDaemonAlive, hunknown, Bool.false_eq_true, if_false]
    refine ⟨fun hsent j => ?_, hlast.shmMapped, trivial, hprev⟩
    obtain ⟨hbefore, honline⟩ := allSent_emit (m := scanned) hsent
    have hclient : (scanned.emit inputs (.daemonStatusChanged true)).clientSet = scanned.clientSet :=
      clientSet_emit honline
    show j ∈ (scanned.emit inputs (.daemonStatusChanged true)).clientSet ↔ _
    rw [hclient]
    exact hscan hbefore j

/-- The daemon is gone: the client is told, and holds nothing. -/
theorem whenGone_spec (hright : MonitorRight m) :
    Mirrors (m.whenGone inputs) ∧ (m.whenGone inputs).prevDaemonAlive = false ∧
      ∀ i, ((m.whenGone inputs).prevState i).slot.connected = false := by
  obtain ⟨hmirrors, hflags⟩ := hright
  simp only [Monitor.whenGone]
  split_ifs with halive
  · have hknown := (hflags.alive halive).2
    simp only [Monitor.setStatus, hknown, Bool.true_eq_false, if_false]
    refine ⟨fun hsent i => ?_, rfl, fun _ => rfl⟩
    obtain ⟨-, honline⟩ := allSent_emit (m := m) hsent
    have hclient : _ = (∅ : Finset (Fin maxSlots)) := clientSet_emit (m := m) honline
    show i ∈ (m.emit inputs (.daemonStatusChanged false)).clientSet ↔ zeroedSlot.connected = true
    rw [hclient]
    simp [zeroedSlot, initialCells]
  · obtain ⟨hunknown, hempty⟩ := hflags.gone (Bool.eq_false_iff.mpr halive)
    exact ⟨hmirrors, hunknown, hempty⟩

/-- No segment: nothing was known. -/
theorem whenAbsent_spec (hright : MonitorRight m) (habsent : m.shmMapped = false) :
    Mirrors (m.whenAbsent inputs) ∧ (m.whenAbsent inputs).prevDaemonAlive = false ∧
      ∀ i, ((m.whenAbsent inputs).prevState i).slot.connected = false := by
  obtain ⟨hmirrors, hflags⟩ := hright
  have hdead : m.lastAliveState = false := by
    cases hlast : m.lastAliveState with
    | false => rfl
    | true => exact absurd (habsent.symm.trans (hflags.alive hlast).1) Bool.false_ne_true
  obtain ⟨hunknown, hempty⟩ := hflags.gone hdead
  simp only [Monitor.whenAbsent, hdead, Bool.false_eq_true, if_false]
  exact ⟨hmirrors, hunknown, hempty⟩

theorem MonitorRight.openShm (h : MonitorRight m) : MonitorRight (m.openShm inputs) where
  mirrors := h.mirrors
  flags :=
    { alive := fun hlast => by
        have hmapped := (h.flags.alive hlast).1
        exact ⟨by simp [Monitor.openShm, hmapped], (h.flags.alive hlast).2⟩
      gone := h.flags.gone }

theorem MonitorRight.readHeartbeat (h : MonitorRight m) : MonitorRight (m.readHeartbeat inputs) := by
  unfold Monitor.readHeartbeat
  split_ifs
  · exact ⟨h.mirrors, ⟨h.flags.alive, h.flags.gone⟩⟩
  · exact h

theorem readHeartbeat_shmMapped : (m.readHeartbeat inputs).shmMapped = m.shmMapped := by
  unfold Monitor.readHeartbeat
  split_ifs <;> rfl

/-- What an iteration leaves when it did not find the daemon. -/
theorem MonitorRight.dead {alive : Bool} (halive : alive = false) (hmirrors : Mirrors m)
    (hunknown : m.prevDaemonAlive = false) (hempty : ∀ i, (m.prevState i).slot.connected = false) :
    MonitorRight { m with lastAliveState := alive } where
  mirrors := hmirrors
  flags := ⟨fun h => absurd (halive.symm.trans h) Bool.false_ne_true, fun _ => ⟨hunknown, hempty⟩⟩

/-- **One iteration** keeps what every iteration keeps; where it finds the daemon alive, the previous state
has the flags of the snapshot. -/
theorem iterate_spec (hright : MonitorRight m) :
    MonitorRight (m.iterate inputs) ∧
      ((m.iterate inputs).lastAliveState = true →
        ∀ i, ((m.iterate inputs).prevState i).slot.connected = (inputs.slots i).slot.connected) := by
  have hopened : MonitorRight (m.openShm inputs) := hright.openShm inputs
  have hread : MonitorRight ((m.openShm inputs).readHeartbeat inputs) := hopened.readHeartbeat inputs
  simp only [Monitor.iterate]
  split_ifs with hmapped halive
  · obtain ⟨hclient, hkept, hknown, hprev⟩ := whenAlive_spec inputs hread
    have hmapped' := (hkept.trans (readHeartbeat_shmMapped inputs)).trans hmapped
    exact ⟨⟨hclient, ⟨fun _ => ⟨hmapped', hknown⟩, fun h => Bool.noConfusion (halive.symm.trans h)⟩⟩,
      fun _ => hprev⟩
  · obtain ⟨hclient, hunknown, hempty⟩ := whenGone_spec inputs hread
    exact ⟨.dead (Bool.eq_false_iff.mpr halive) hclient hunknown hempty, fun h => absurd h halive⟩
  · have habsent := Bool.eq_false_iff.mpr hmapped
    obtain ⟨hclient, hunknown, hempty⟩ := whenAbsent_spec inputs hopened habsent
    exact ⟨.dead rfl hclient hunknown hempty, fun h => h.elim⟩

end Iterate

/-- The run: it keeps what every iteration keeps. -/
theorem monitorRight_reachable {m : Monitor} (hrun : Run monitorStep free initialMonitor m) :
    MonitorRight m := by
  refine hrun.invariant (fun inputs s t hright _ hstep => ?_) initialMonitor_right
  obtain rfl := Option.some.inj hstep
  exact (iterate_spec inputs hright).1

/-- **A client holds the snapshot.**  After any run of iterations, whatever they found, and one more
iteration that finds the daemon alive: a client that got every signal holds exactly the slots whose flag
was set in the shared memory of that iteration. -/
theorem client_holds_snapshot {m : Monitor} (hrun : Run monitorStep free initialMonitor m)
    (inputs : MonitorInputs) (hfound : (m.iterate inputs).lastAliveState = true)
    (hdelivered : (m.iterate inputs).AllSent) (i : Fin maxSlots) :
    i ∈ (m.iterate inputs).clientSet ↔ (inputs.slots i).slot.connected = true := by
  obtain ⟨hright, hprev⟩ := iterate_spec inputs (monitorRight_reachable hrun)
  rw [hright.mirrors hdelivered i, hprev hfound i]

/-- What an iteration finds with one controller, in slot `i`, and a daemon process or none. -/
def foundOne (i : Fin maxSlots) (heartbeat : UInt32) (noSuchProcess : Bool) : MonitorInputs where
  opens := true
  fits := true
  maps := true
  magicOk := true
  heartbeat := heartbeat
  now := ⟨100, 0⟩
  daemonPid := 42
  noSuchProcess := noSuchProcess
  slots := fun j => if j = i then restingState else zeroedState
  clock := fun _ => ⟨0, 0, 0, 0, 0, 0⟩
  updateTime := ⟨100, 0⟩
  online := fun _ => true

/-- The monitor after a daemon with a controller in slot 0 has come and died. -/
def bereftMonitor : Monitor :=
  (initialMonitor.iterate (foundOne firstSlot 1 false)).iterate (foundOne firstSlot 2 true)

theorem bereftMonitor_reachable : Run monitorStep free initialMonitor bereftMonitor :=
  (Run.single trivial rfl).trans (Run.single trivial rfl)

/-- The daemon comes back with a controller in slot 1. -/
theorem client_holds_snapshot_restart :
    secondSlot ∈ (bereftMonitor.iterate (foundOne secondSlot 3 false)).clientSet ↔
      ((foundOne secondSlot 3 false).slots secondSlot).slot.connected = true :=
  client_holds_snapshot bereftMonitor_reachable (foundOne secondSlot 3 false) (by decide)
    (by unfold Monitor.AllSent; decide) secondSlot

/-- The monitor after its first iteration, with a controller in slot 0, before `setup_dbus` has connected to
the bus. -/
def startupMonitor : Monitor :=
  initialMonitor.iterate { foundOne firstSlot 1 false with online := fun _ => false }

/-- **The start-up**: the connection of the controller was emitted into nothing.  From the next iteration on
the bus is there and the daemon alive, and the client does not hold the slot. -/
theorem startup_emission_lost :
    Run monitorStep free initialMonitor startupMonitor ∧
      (startupMonitor.iterate (foundOne firstSlot 2 false)).lastAliveState = true ∧
      ((foundOne firstSlot 2 false).slots firstSlot).slot.connected = true ∧
      firstSlot ∉ (startupMonitor.iterate (foundOne firstSlot 2 false)).clientSet :=
  ⟨Run.single trivial rfl, by decide, rfl, by decide⟩

end Dstx
