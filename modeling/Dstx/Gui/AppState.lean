/-
# Dstx.Gui.AppState — which page the GUI shows (`app-state-manager.vala`).

The state manager is a bundle of asynchronous methods over one main loop.  `initialize` looks for the
installation, waits for the bus, asks whether the service is active and then checks the controllers, at most
`MAX_RETRIES` times; a status signal of the daemon is debounced and starts a second check; the window can
start all of it again.  What each of them waits for is a `Wait`, answers come in any order, and everything
the methods share (`current_state`, `retry_count`, `checking_controllers`, the timers) is in
`AppStateManager`.

A transition shows its page LATER, from an idle callback.  `Shows` says that this loses nothing: the pages are
shown in the order of the transitions, each once.  `Waiting` says what is under way while a flag is set, and
`appStateManager_settles` puts both together with a measure: whatever the user, the daemon and the bus have
done, the pending work ends, and then the GUI shows the page of its state and no longer the splash screen.
-/
import Dstx.Lib.Settle
import Mathlib.Algebra.Order.BigOperators.Group.List
import Mathlib.Algebra.Order.Group.Nat
import Mathlib.Algebra.Ring.Nat
import Mathlib.Data.List.Perm.Basic
import Mathlib.Tactic.SplitIfs

namespace Dstx

open Dstx.Lib

/-! ## The state -/

/-- `AppState`. -/
inductive AppState where
  | splash
  | noService
  | noDaemon
  | noControllers
  | main
  deriving DecidableEq

/-- The child of `main_stack` that a state is shown as. -/
def AppState.page : AppState → String
  | .splash => "splash"
  | .noService => "no_service"
  | .noDaemon => "no_daemon"
  | .noControllers => "no_controllers"
  | .main => "main"

/-- A text of `update_splash_status`: the message to translate and the numbers printed into it. -/
structure SplashStatus where
  msgid : String
  args : List Nat := []
  deriving DecidableEq

/-- **What an asynchronous method waits for.** -/
inductive Wait where
  /-- `initialize`: `are_system_components_installed`, or `check_core_installed` outside Flatpak. -/
  | components
  /-- `initialize`: 100 ms of the wait for the bus before the version check. -/
  | versionConnection (waitCount : Nat)
  /-- `initialize`: `get_core_version`. -/
  | coreVersion
  /-- `initialize`: 100 ms of the wait for the bus. -/
  | connection (waitCount : Nat)
  /-- `initialize`: 500 ms after the bus connection failed. -/
  | connectionFailed
  /-- `initialize`: `is_core_service_active`. -/
  | daemonStatus
  /-- `initialize`: 500 ms after the service was found inactive. -/
  | daemonNotRunning
  /-- `check_state_with_retry`: the first 200 ms. -/
  | retryPause
  /-- `check_state_with_retry`: `is_core_service_active`. -/
  | retryDaemonStatus
  /-- `check_state_with_retry`: `get_controllers`. -/
  | retryControllers
  /-- `check_state_with_retry`: `RETRY_DELAY_MS`. -/
  | retryDelay
  /-- `check_controllers_with_delay`: the first 500 ms. -/
  | delayPause
  /-- `check_controllers_with_delay`: `is_core_service_active`. -/
  | delayDaemonStatus
  /-- `check_controllers_with_delay`: `get_controllers`. -/
  | delayControllers
  /-- `restart_check`: 500 ms. -/
  | restartPause
  deriving DecidableEq

/-- **What a method is resumed with**; an answer `none` is an error that was thrown. -/
inductive Answer where
  | elapsed
  | installed (yes : Bool)
  | version (v : Option String)
  | active (yes : Option Bool)
  | slots (found : Option (List UInt8))

/-- The signals of the state manager. -/
inductive AppSignal where
  | stateChanged (new : AppState)
  | transitionComplete (new : AppState)
  | controllersReady
  | daemonOffline
  deriving DecidableEq

/-- **The state of `AppStateManager`**, with the two properties of the D-Bus client it reads, what it waits
for and what it has queued.  `signals` and `lastCount` are history: the signals it has emitted, and the number
of controllers it was told last. -/
structure AppStateManager where
  initializing : Bool
  currentState : AppState
  retryCount : Nat
  daemonDebounceTimeout : Bool
  pendingDaemonAlive : Bool
  checkingControllers : Bool
  statusUpdateTimeout : Option SplashStatus
  splashStatusLabel : SplashStatus
  visibleChildName : String
  isConnected : Bool
  daemonAlive : Bool
  waits : List Wait
  idles : List AppState
  signals : List AppSignal
  lastCount : Option Nat

/-- `MAX_RETRIES`. -/
def maxRetries : Nat := 5

namespace AppStateManager

/-! ## The methods -/

/-- A method waits. -/
def await (w : Wait) (m : AppStateManager) : AppStateManager := { m with waits := m.waits ++ [w] }

/-- A signal is emitted. -/
def emit (signal : AppSignal) (m : AppStateManager) : AppStateManager :=
  { m with signals := m.signals ++ [signal] }

/-- **`transition_to_state`**: the page is shown from an idle callback. -/
def transitionToState (new : AppState) (m : AppStateManager) : AppStateManager :=
  if m.currentState = new then m
  else { m.emit (.stateChanged new) with currentState := new, idles := m.idles ++ [new] }

/-- **`update_splash_status`**: the label changes when the timer goes off, unless another text comes first. -/
def updateSplashStatus (status : SplashStatus) (m : AppStateManager) : AppStateManager :=
  { m with statusUpdateTimeout := some status }

/-- **`check_state_with_retry`**, up to its first wait. -/
def checkStateWithRetry (m : AppStateManager) : AppStateManager :=
  (m.updateSplashStatus
    ⟨"Checking controllers... (attempt %d/%d)", [m.retryCount + 1, maxRetries]⟩).await .retryPause

/-- An attempt of `check_state_with_retry` has failed. -/
def retryOrGiveUp (msgid : String) (m : AppStateManager) : AppStateManager :=
  let m := { m with retryCount := m.retryCount + 1 }
  if m.retryCount < maxRetries then
    (m.updateSplashStatus ⟨msgid, [m.retryCount, maxRetries]⟩).await .retryDelay
  else m.transitionToState .noDaemon

/-- `check_controllers_with_retry`. -/
def checkControllersWithRetry (m : AppStateManager) : AppStateManager :=
  { m with retryCount := 0 }.checkStateWithRetry

/-- `check_state_with_retry`, with the answer of `is_core_service_active`. -/
def retryDaemonStatus (active : Option Bool) (m : AppStateManager) : AppStateManager :=
  if active.getD false = false then
    m.retryOrGiveUp "Daemon not responding, retrying... (attempt %d/%d)"
  else if m.daemonAlive = false then
    m.retryOrGiveUp "D-Bus bridge not ready, retrying... (attempt %d/%d)"
  else m.await .retryControllers

/-- `check_state_with_retry`, with the answer of `get_controllers`. -/
def retryControllers (found : Option (List UInt8)) (m : AppStateManager) : AppStateManager :=
  match found with
  | some [] => { m with lastCount := some 0 }.transitionToState .noControllers
  | some slots => ({ m with lastCount := some slots.length }.transitionToState .main).emit .controllersReady
  | none => m.retryOrGiveUp "Error, retrying... (attempt %d/%d)"

/-- **`check_controllers_with_delay`**, up to its first wait. -/
def checkControllersWithDelay (m : AppStateManager) : AppStateManager :=
  if m.checkingControllers then m
  else
    ({ m with checkingControllers := true }.updateSplashStatus
      ⟨"Service detected, checking controllers...", []⟩).await .delayPause

/-- `check_controllers_with_delay`, with the answer of `is_core_service_active`. -/
def delayDaemonStatus (active : Option Bool) (m : AppStateManager) : AppStateManager :=
  if active.getD false = false then { m.transitionToState .noDaemon with checkingControllers := false }
  else m.await .delayControllers

/-- `check_controllers_with_delay`, with the answer of `get_controllers`. -/
def delayControllers (found : Option (List UInt8)) (m : AppStateManager) : AppStateManager :=
  match found with
  | some [] =>
      { { m with lastCount := some 0 }.transitionToState .noControllers with checkingControllers := false }
  | some slots =>
      let m := { m with lastCount := some slots.length }
      if m.currentState = .main then { m with checkingControllers := false }
      else { (m.transitionToState .main).emit .controllersReady with checkingControllers := false }
  | none => { m with checkingControllers := false }

/-- `initialize`, from the connection to the bus on: the test of the waiting loop. -/
def waitConnection (waitCount : Nat) (m : AppStateManager) : AppStateManager :=
  if m.isConnected = false ∧ waitCount < 50 then m.await (.connection waitCount)
  else if m.isConnected = false then
    (m.updateSplashStatus ⟨"D-Bus connection failed", []⟩).await .connectionFailed
  else (m.updateSplashStatus ⟨"Checking daemon status...", []⟩).await .daemonStatus

/-- `initialize`, step 3. -/
def connectToDBus (m : AppStateManager) : AppStateManager :=
  (m.updateSplashStatus ⟨"Connecting to D-Bus...", []⟩).waitConnection 0

/-- `initialize`, step 2: the test of the waiting loop. -/
def waitVersionConnection (waitCount : Nat) (m : AppStateManager) : AppStateManager :=
  if m.isConnected = false ∧ waitCount < 30 then m.await (.versionConnection waitCount)
  else if m.isConnected = false then m.connectToDBus
  else m.await .coreVersion

/-- **`initialize`**, up to its first wait. -/
def startInitialize (flatpak : Bool) (m : AppStateManager) : AppStateManager :=
  (m.updateSplashStatus
    ⟨if flatpak then "Checking system components..." else "Checking core installation...", []⟩).await
      .components

/-- `initialize` ends with a state. -/
def initialized (new : AppState) (m : AppStateManager) : AppStateManager :=
  { m with initializing := false }.transitionToState new

/-- `initialize`, with the answer of the installation check. -/
def componentsChecked (flatpak installed : Bool) (m : AppStateManager) : AppStateManager :=
  if installed = false then
    (m.updateSplashStatus
      ⟨if flatpak then "System service not installed" else "Core package not installed", []⟩).initialized
        .noService
  else if flatpak then (m.updateSplashStatus ⟨"Checking daemon version...", []⟩).waitVersionConnection 0
  else m.connectToDBus

/-- `initialize`, with the answer of `is_core_service_active`. -/
def daemonStatusChecked (active : Option Bool) (m : AppStateManager) : AppStateManager :=
  if active.getD false = false then
    (m.updateSplashStatus ⟨"Daemon is not running", []⟩).await .daemonNotRunning
  else { m with initializing := false }.checkControllersWithRetry

/-- **A waiting method goes on**; `none` where the answer is not what it waits for. -/
def goOn (flatpak : Bool) : Wait → Answer → AppStateManager → Option AppStateManager
  | .components, .installed yes, m => some (m.componentsChecked flatpak yes)
  | .versionConnection n, .elapsed, m => some (m.waitVersionConnection (n + 1))
  | .coreVersion, .version _, m => some m.connectToDBus
  | .connection n, .elapsed, m => some (m.waitConnection (n + 1))
  | .connectionFailed, .elapsed, m => some (m.initialized .noDaemon)
  | .daemonStatus, .active yes, m => some (m.daemonStatusChecked yes)
  | .daemonNotRunning, .elapsed, m => some (m.initialized .noDaemon)
  | .retryPause, .elapsed, m => some (m.await .retryDaemonStatus)
  | .retryDaemonStatus, .active yes, m => some (m.retryDaemonStatus yes)
  | .retryControllers, .slots found, m => some (m.retryControllers found)
  | .retryDelay, .elapsed, m => some m.checkStateWithRetry
  | .delayPause, .elapsed, m => some (m.await .delayDaemonStatus)
  | .delayDaemonStatus, .active yes, m => some (m.delayDaemonStatus yes)
  | .delayControllers, .slots found, m => some (m.delayControllers found)
  | .restartPause, .elapsed, m => some (m.startInitialize flatpak)
  | _, _, _ => none

/-- **`on_daemon_status_changed`**: one timer, and it will see the last status. -/
def onDaemonStatusChanged (alive : Bool) (m : AppStateManager) : AppStateManager :=
  if m.initializing then m
  else { m with pendingDaemonAlive := alive, daemonDebounceTimeout := true }

/-- `DBusClient.daemon_alive` is set; it signals changes only. -/
def setDaemonAlive (alive : Bool) (m : AppStateManager) : AppStateManager :=
  if m.daemonAlive = alive then m
  else { m with daemonAlive := alive }.onDaemonStatusChanged alive

/-- **`process_daemon_status_change`**. -/
def processDaemonStatusChange (alive : Bool) (m : AppStateManager) : AppStateManager :=
  if alive then
    if m.currentState = .noDaemon ∨ m.currentState = .splash then m.checkControllersWithDelay else m
  else (m.emit .daemonOffline).transitionToState .noDaemon

/-- `retry_connection`. -/
def retryConnection (m : AppStateManager) : AppStateManager :=
  if m.currentState = .noDaemon then m.checkControllersWithDelay else m

/-- `restart_check`, up to its first wait. -/
def restartCheck (m : AppStateManager) : AppStateManager :=
  (m.transitionToState .splash).await .restartPause

/-- `force_main`. -/
def forceMain (m : AppStateManager) : AppStateManager :=
  if m.currentState = .noControllers then m.transitionToState .main else m

/-- **`on_list_changed`** of the window. -/
def onListChanged (count : Nat) (m : AppStateManager) : AppStateManager :=
  let m := { m with lastCount := some count }
  if count = 0 ∧ m.currentState = .main then m.transitionToState .noControllers
  else if 0 < count ∧ m.currentState = .noControllers then m.forceMain
  else m

/-- The idle callback of a transition: the page is shown. -/
def showPage (new : AppState) (m : AppStateManager) : AppStateManager :=
  { m with visibleChildName := new.page }.emit (.transitionComplete new)

/-! ### What a transition leaves alone -/

section

variable (new : AppState) (m : AppStateManager)

@[simp] theorem transitionToState_currentState : (m.transitionToState new).currentState = new := by
  unfold transitionToState
  split
  · assumption
  · rfl

@[simp] theorem transitionToState_waits :
    (m.transitionToState new).waits = m.waits := by
  unfold transitionToState
  split <;> rfl

@[simp] theorem transitionToState_initializing :
    (m.transitionToState new).initializing = m.initializing := by
  unfold transitionToState
  split <;> rfl

@[simp] theorem transitionToState_checkingControllers :
    (m.transitionToState new).checkingControllers = m.checkingControllers := by
  unfold transitionToState
  split <;> rfl

@[simp] theorem transitionToState_daemonDebounceTimeout :
    (m.transitionToState new).daemonDebounceTimeout = m.daemonDebounceTimeout := by
  unfold transitionToState
  split <;> rfl

@[simp] theorem transitionToState_pendingDaemonAlive :
    (m.transitionToState new).pendingDaemonAlive = m.pendingDaemonAlive := by
  unfold transitionToState
  split <;> rfl

@[simp] theorem transitionToState_daemonAlive :
    (m.transitionToState new).daemonAlive = m.daemonAlive := by
  unfold transitionToState
  split <;> rfl

@[simp] theorem transitionToState_lastCount :
    (m.transitionToState new).lastCount = m.lastCount := by
  unfold transitionToState
  split <;> rfl

@[simp] theorem transitionToState_retryCount :
    (m.transitionToState new).retryCount = m.retryCount := by
  unfold transitionToState
  split <;> rfl

@[simp] theorem transitionToState_statusUpdateTimeout :
    (m.transitionToState new).statusUpdateTimeout = m.statusUpdateTimeout := by
  unfold transitionToState
  split <;> rfl

end

end AppStateManager

/-- **What happens to the state manager.** -/
inductive AppMove where
  /-- `connect_to_dbus` succeeds. -/
  | connected
  /-- `connect_to_dbus` fails. -/
  | connectFailed
  /-- `DaemonStatusChanged` arrives. -/
  | daemonStatus (alive : Bool)
  /-- The window calls `retry_connection`. -/
  | retryConnection
  /-- The window calls `restart_check`. -/
  | restartCheck
  /-- The controller list of the window has changed. -/
  | listChanged (count : Nat)
  /-- The debounce timer goes off. -/
  | debounce
  /-- The timer of the splash label goes off. -/
  | statusTimer
  /-- The next idle callback runs. -/
  | idle
  /-- The `n`-th waiting method is resumed. -/
  | resume (n : Nat) (answer : Answer)

/-- What the manager still does when nobody calls it any more. -/
def AppMove.Own : AppMove → Prop
  | .debounce | .statusTimer | .idle | .resume _ _ => True
  | _ => False

/-- **One step of the state manager.** -/
def appStep (flatpak : Bool) (move : AppMove) (m : AppStateManager) : Option AppStateManager :=
  match move with
  | .connected => some ({ m with isConnected := true }.setDaemonAlive true)
  | .connectFailed => some ({ m with isConnected := false }.setDaemonAlive false)
  | .daemonStatus alive => some (m.setDaemonAlive alive)
  | .retryConnection => some m.retryConnection
  | .restartCheck => some m.restartCheck
  | .listChanged count => some (m.onListChanged count)
  | .debounce =>
      if m.daemonDebounceTimeout then
        some { m.processDaemonStatusChange m.pendingDaemonAlive with daemonDebounceTimeout := false }
      else none
  | .statusTimer =>
      m.statusUpdateTimeout.map fun status =>
        { m with splashStatusLabel := status, statusUpdateTimeout := none }
  | .idle =>
      match m.idles with
      | [] => none
      | new :: rest => some ({ m with idles := rest }.showPage new)
  | .resume n answer =>
      m.waits[n]?.bind fun w => { m with waits := m.waits.eraseIdx n }.goOn flatpak w answer

/-- **The GUI as it starts**: `initialize` has begun; the bus may already be there. -/
def launched (flatpak isConnected daemonAlive : Bool) : AppStateManager :=
  AppStateManager.startInitialize flatpak
    { initializing := true
      currentState := .splash
      retryCount := 0
      daemonDebounceTimeout := false
      pendingDaemonAlive := false
      checkingControllers := false
      statusUpdateTimeout := none
      splashStatusLabel := ⟨"Checking service...", []⟩
      visibleChildName := AppState.splash.page
      isConnected := isConnected
      daemonAlive := daemonAlive
      waits := []
      idles := []
      signals := []
      lastCount := none }

/-! ## Pages are shown in order -/

/-- The transitions announced by `state_changed`, in order. -/
def changes (signals : List AppSignal) : List AppState :=
  signals.filterMap fun
    | .stateChanged new => some new
    | _ => none

/-- The transitions whose page has been shown, in order. -/
def completions (signals : List AppSignal) : List AppState :=
  signals.filterMap fun
    | .transitionComplete new => some new
    | _ => none

/-- **Each transition is shown once, in the order of the transitions.** -/
structure Shows (m : AppStateManager) : Prop where
  order : changes m.signals = completions m.signals ++ m.idles
  current : m.currentState = (changes m.signals).getLastD .splash
  page : m.visibleChildName = ((completions m.signals).getLastD .splash).page

theorem changes_append (s t : List AppSignal) : changes (s ++ t) = changes s ++ changes t :=
  List.filterMap_append

theorem completions_append (s t : List AppSignal) : completions (s ++ t) = completions s ++ completions t :=
  List.filterMap_append

namespace Shows

variable {m : AppStateManager}

/-- What `Shows` reads. -/
theorem congr {m' : AppStateManager} (h : Shows m) (hcurrent : m'.currentState = m.currentState)
    (hidles : m'.idles = m.idles) (hpage : m'.visibleChildName = m.visibleChildName)
    (hchanges : changes m'.signals = changes m.signals)
    (hcompletions : completions m'.signals = completions m.signals) : Shows m' where
  order := by rw [hchanges, hcompletions, hidles, h.order]
  current := by rw [hcurrent, hchanges, h.current]
  page := by rw [hpage, hcompletions, h.page]

/-- The manager is told a number of controllers. -/
theorem told (h : Shows m) (count : Nat) : Shows { m with lastCount := some count } :=
  h.congr rfl rfl rfl rfl rfl

theorem transitionToState (h : Shows m) (new : AppState) : Shows (m.transitionToState new) := by
  unfold AppStateManager.transitionToState
  split
  · exact h
  · refine ⟨?_, ?_, ?_⟩
    · show changes (m.signals ++ [.stateChanged new]) =
        completions (m.signals ++ [.stateChanged new]) ++ (m.idles ++ [new])
      rw [changes_append, completions_append, h.order]
      simp [changes, completions]
    · simp [changes, AppStateManager.emit]
    · simpa [completions, AppStateManager.emit] using h.page

theorem controllersReady (h : Shows m) : Shows (m.emit .controllersReady) :=
  h.congr rfl rfl rfl (by simp [changes, AppStateManager.emit])
    (by simp [completions, AppStateManager.emit])

theorem daemonOffline (h : Shows m) : Shows (m.emit .daemonOffline) :=
  h.congr rfl rfl rfl (by simp [changes, AppStateManager.emit])
    (by simp [completions, AppStateManager.emit])

/-- The next idle callback shows the next page. -/
theorem showPage {new : AppState} {rest : List AppState} (h : Shows m) (hidles : m.idles = new :: rest) :
    Shows ({ m with idles := rest }.showPage new) where
  order := by
    have horder := h.order
    rw [hidles] at horder
    simpa [changes, completions, AppStateManager.showPage, AppStateManager.emit] using horder
  current := by simpa [changes, AppStateManager.showPage, AppStateManager.emit] using h.current
  page := by simp [completions, AppStateManager.showPage, AppStateManager.emit]

theorem updateSplashStatus (h : Shows m) (status : SplashStatus) : Shows (m.updateSplashStatus status) :=
  h.congr rfl rfl rfl rfl rfl

theorem retryOrGiveUp (h : Shows m) (msgid : String) : Shows (m.retryOrGiveUp msgid) := by
  have hcount : Shows { m with retryCount := m.retryCount + 1 } := h.congr rfl rfl rfl rfl rfl
  simp only [AppStateManager.retryOrGiveUp]
  split
  · exact hcount.congr rfl rfl rfl rfl rfl
  · exact hcount.transitionToState _

theorem retryDaemonStatus (h : Shows m) (active : Option Bool) : Shows (m.retryDaemonStatus active) := by
  unfold AppStateManager.retryDaemonStatus
  split
  · exact h.retryOrGiveUp _
  split
  · exact h.retryOrGiveUp _
  · exact h.congr rfl rfl rfl rfl rfl

theorem retryControllers (h : Shows m) (found : Option (List UInt8)) : Shows (m.retryControllers found) := by
  unfold AppStateManager.retryControllers
  split
  · exact (h.told 0).transitionToState _
  · exact ((h.told _).transitionToState _).controllersReady
  · exact h.retryOrGiveUp _

theorem checkControllersWithDelay (h : Shows m) : Shows m.checkControllersWithDelay := by
  unfold AppStateManager.checkControllersWithDelay
  split
  · exact h
  · exact h.congr rfl rfl rfl rfl rfl

theorem delayDaemonStatus (h : Shows m) (active : Option Bool) : Shows (m.delayDaemonStatus active) := by
  unfold AppStateManager.delayDaemonStatus
  split
  · exact (h.transitionToState .noDaemon).congr rfl rfl rfl rfl rfl
  · exact h.congr rfl rfl rfl rfl rfl

theorem delayControllers (h : Shows m) (found : Option (List UInt8)) : Shows (m.delayControllers found) := by
  unfold AppStateManager.delayControllers
  split
  · exact ((h.told 0).transitionToState _).congr rfl rfl rfl rfl rfl
  · dsimp only
    split
    · exact h.congr rfl rfl rfl rfl rfl
    · exact ((h.told _).transitionToState _).controllersReady.congr rfl rfl rfl rfl rfl
  · exact h.congr rfl rfl rfl rfl rfl

theorem waitConnection (h : Shows m) (waitCount : Nat) : Shows (m.waitConnection waitCount) := by
  unfold AppStateManager.waitConnection
  split_ifs <;> exact h.congr rfl rfl rfl rfl rfl

theorem connectToDBus (h : Shows m) : Shows m.connectToDBus :=
  (h.updateSplashStatus _).waitConnection 0

theorem waitVersionConnection (h : Shows m) (waitCount : Nat) : Shows (m.waitVersionConnection waitCount) := by
  unfold AppStateManager.waitVersionConnection
  split_ifs
  · exact h.congr rfl rfl rfl rfl rfl
  · exact h.connectToDBus
  · exact h.congr rfl rfl rfl rfl rfl

theorem initialized (h : Shows m) (new : AppState) : Shows (m.initialized new) := by
  have hdone : Shows { m with initializing := false } := h.congr rfl rfl rfl rfl rfl
  exact hdone.transitionToState new

theorem componentsChecked (h : Shows m) (flatpak installed : Bool) :
    Shows (m.componentsChecked flatpak installed) := by
  unfold AppStateManager.componentsChecked
  split
  · exact (h.updateSplashStatus _).initialized _
  split
  · exact (h.updateSplashStatus _).waitVersionConnection 0
  · exact h.connectToDBus

theorem daemonStatusChecked (h : Shows m) (active : Option Bool) : Shows (m.daemonStatusChecked active) := by
  unfold AppStateManager.daemonStatusChecked
  split
  · exact h.congr rfl rfl rfl rfl rfl
  · exact h.congr rfl rfl rfl rfl rfl

/-- **A method that goes on keeps the order of the pages.** -/
theorem goOn {flatpak : Bool} {w : Wait} {answer : Answer} {m' : AppStateManager} (h : Shows m)
    (hgo : m.goOn flatpak w answer = some m') : Shows m' := by
  unfold AppStateManager.goOn at hgo
  split at hgo
  case h_16 => cases hgo
  all_goals cases hgo
  case h_1 => exact h.componentsChecked _ _
  case h_2 => exact h.waitVersionConnection _
  case h_3 => exact h.connectToDBus
  case h_4 => exact h.waitConnection _
  case h_5 => exact h.initialized _
  case h_6 => exact h.daemonStatusChecked _
  case h_7 => exact h.initialized _
  case h_9 => exact h.retryDaemonStatus _
  case h_10 => exact h.retryControllers _
  case h_13 => exact h.delayDaemonStatus _
  case h_14 => exact h.delayControllers _
  all_goals exact h.congr rfl rfl rfl rfl rfl

theorem onListChanged (h : Shows m) (count : Nat) : Shows (m.onListChanged count) := by
  unfold AppStateManager.onListChanged AppStateManager.forceMain
  dsimp only
  split_ifs
  all_goals first
    | exact (h.told count).transitionToState _
    | exact h.told count

theorem setDaemonAlive (h : Shows m) (alive : Bool) : Shows (m.setDaemonAlive alive) := by
  unfold AppStateManager.setDaemonAlive AppStateManager.onDaemonStatusChanged
  split_ifs <;> exact h.congr rfl rfl rfl rfl rfl

theorem processDaemonStatusChange (h : Shows m) (alive : Bool) : Shows (m.processDaemonStatusChange alive) := by
  unfold AppStateManager.processDaemonStatusChange
  split_ifs
  · exact h.checkControllersWithDelay
  · exact h
  · exact h.daemonOffline.transitionToState _

/-- **Every step keeps the order of the pages.** -/
theorem step {flatpak : Bool} {move : AppMove} {m' : AppStateManager} (h : Shows m)
    (hstep : appStep flatpak move m = some m') : Shows m' := by
  have hconnection (b : Bool) : Shows { m with isConnected := b } := h.congr rfl rfl rfl rfl rfl
  cases move with
  | connected => cases hstep; exact (hconnection true).setDaemonAlive true
  | connectFailed => cases hstep; exact (hconnection false).setDaemonAlive false
  | daemonStatus alive => cases hstep; exact h.setDaemonAlive alive
  | retryConnection =>
      cases hstep
      unfold AppStateManager.retryConnection
      split
      · exact h.checkControllersWithDelay
      · exact h
  | restartCheck => cases hstep; exact (h.transitionToState .splash).congr rfl rfl rfl rfl rfl
  | listChanged count => cases hstep; exact h.onListChanged count
  | debounce =>
      simp only [appStep, Option.ite_none_right_eq_some, Option.some.injEq] at hstep
      obtain ⟨-, rfl⟩ := hstep
      exact (h.processDaemonStatusChange m.pendingDaemonAlive).congr rfl rfl rfl rfl rfl
  | statusTimer =>
      obtain ⟨status, -, rfl⟩ := Option.map_eq_some_iff.mp hstep
      exact h.congr rfl rfl rfl rfl rfl
  | idle =>
      simp only [appStep] at hstep
      split at hstep
      · cases hstep
      · rename_i new rest hidles
        cases hstep
        exact h.showPage hidles
  | resume n answer =>
      obtain ⟨w, -, hgo⟩ := Option.bind_eq_some_iff.mp hstep
      have hresumed : Shows { m with waits := m.waits.eraseIdx n } := h.congr rfl rfl rfl rfl rfl
      exact hresumed.goOn hgo

end Shows

/-! ## What is under way -/

/-- The method that waits. -/
inductive WaitPhase where
  /-- `initialize`, and `restart_check` before it. -/
  | starting
  /-- `check_state_with_retry`. -/
  | retrying
  /-- `check_controllers_with_delay`. -/
  | delayed
  deriving DecidableEq

/-- The phase of a wait. -/
def Wait.phase : Wait → WaitPhase
  | .components | .versionConnection _ | .coreVersion | .connection _ | .connectionFailed | .daemonStatus
  | .daemonNotRunning | .restartPause => .starting
  | .retryPause | .retryDaemonStatus | .retryControllers | .retryDelay => .retrying
  | .delayPause | .delayDaemonStatus | .delayControllers => .delayed

/-- **What the flags of the manager say about the methods under way**: the phases of `running`, and those that
wait.  On the splash screen a check is under way that will leave it; while the manager is initializing,
`initialize` is; `checking_controllers` is set while exactly one delayed check is.  A debounce timer holds the
status the client has now.  The pages with and without controllers agree with the last number told. -/
structure Waiting (running : List WaitPhase) (m : AppStateManager) : Prop where
  splash : m.currentState = .splash → ∃ p ∈ running ++ m.waits.map Wait.phase, p ≠ .delayed
  initializing : m.initializing = true → .starting ∈ running ++ m.waits.map Wait.phase
  checking : (running ++ m.waits.map Wait.phase).count .delayed = if m.checkingControllers then 1 else 0
  debounce : m.daemonDebounceTimeout = true → m.initializing = false ∧ m.pendingDaemonAlive = m.daemonAlive
  withControllers : m.currentState = .main → ∃ n, m.lastCount = some (n + 1)
  withoutControllers : m.currentState = .noControllers → m.lastCount = some 0

namespace Waiting

variable {running : List WaitPhase} {m : AppStateManager}

/-- What `Waiting` reads, the methods under way up to their order. -/
theorem congr {running' : List WaitPhase} {m' : AppStateManager} (h : Waiting running m)
    (hphases : (running' ++ m'.waits.map Wait.phase).Perm (running ++ m.waits.map Wait.phase))
    (hcurrent : m'.currentState = m.currentState) (hinit : m'.initializing = m.initializing)
    (hchecking : m'.checkingControllers = m.checkingControllers)
    (hdebounce : m'.daemonDebounceTimeout = m.daemonDebounceTimeout)
    (hpending : m'.pendingDaemonAlive = m.pendingDaemonAlive) (halive : m'.daemonAlive = m.daemonAlive)
    (hcount : m'.lastCount = m.lastCount) : Waiting running' m' where
  splash hs := by
    obtain ⟨p, hp, hne⟩ := h.splash (hcurrent ▸ hs)
    exact ⟨p, hphases.mem_iff.mpr hp, hne⟩
  initializing hi := hphases.mem_iff.mpr (h.initializing (hinit ▸ hi))
  checking := by rw [hphases.count_eq, h.checking, hchecking]
  debounce hd := by
    rw [hinit, hpending, halive]
    exact h.debounce (hdebounce ▸ hd)
  withControllers hm := by
    rw [hcount]
    exact h.withControllers (hcurrent ▸ hm)
  withoutControllers hn := by
    rw [hcount]
    exact h.withoutControllers (hcurrent ▸ hn)

/-- **A method that waits is under way as before.** -/
theorem await {w : Wait} (h : Waiting (w.phase :: running) m) : Waiting running (m.await w) := by
  refine h.congr ?_ rfl rfl rfl rfl rfl rfl rfl
  have hperm : (m.waits ++ [w]).map Wait.phase = m.waits.map Wait.phase ++ [w.phase] := by simp
  show (running ++ (m.waits ++ [w]).map Wait.phase).Perm _
  rw [hperm, ← List.append_assoc]
  exact List.perm_append_singleton _ _

theorem updateSplashStatus (h : Waiting running m) (status : SplashStatus) :
    Waiting running (m.updateSplashStatus status) :=
  h.congr (.refl _) rfl rfl rfl rfl rfl rfl rfl

theorem emit (h : Waiting running m) (signal : AppSignal) : Waiting running (m.emit signal) :=
  h.congr (.refl _) rfl rfl rfl rfl rfl rfl rfl

theorem retryCount (h : Waiting running m) (n : Nat) : Waiting running { m with retryCount := n } :=
  h.congr (.refl _) rfl rfl rfl rfl rfl rfl rfl

/-- The manager arrives at a state it is told the right number for. -/
theorem arrive {m' : AppStateManager} (h : Waiting running m) (hcurrent : m'.currentState ≠ .splash)
    (hwaits : m'.waits = m.waits) (hinit : m'.initializing = m.initializing)
    (hchecking : m'.checkingControllers = m.checkingControllers)
    (hdebounce : m'.daemonDebounceTimeout = m.daemonDebounceTimeout)
    (hpending : m'.pendingDaemonAlive = m.pendingDaemonAlive) (halive : m'.daemonAlive = m.daemonAlive)
    (hmain : m'.currentState = .main → ∃ n, m'.lastCount = some (n + 1))
    (hnone : m'.currentState = .noControllers → m'.lastCount = some 0) : Waiting running m' where
  splash hs := absurd hs hcurrent
  initializing hi := by
    rw [hwaits]
    exact h.initializing (hinit ▸ hi)
  checking := by rw [hwaits, hchecking, h.checking]
  debounce hd := by
    rw [hinit, hpending, halive]
    exact h.debounce (hdebounce ▸ hd)
  withControllers := hmain
  withoutControllers := hnone

/-- A state with no number to tell. -/
theorem toNone (h : Waiting running m) {new : AppState} (hnew : new = .noService ∨ new = .noDaemon) :
    Waiting running (m.transitionToState new) := by
  refine h.arrive ?_ (by simp) (by simp) (by simp) (by simp) (by simp) (by simp) ?_ ?_
  all_goals
    rw [AppStateManager.transitionToState_currentState]
    rcases hnew with rfl | rfl <;> simp

/-- The manager is told that there is no controller. -/
theorem toNoControllers (h : Waiting running m) :
    Waiting running ({ m with lastCount := some 0 }.transitionToState .noControllers) :=
  h.arrive (by simp) (by simp) (by simp) (by simp) (by simp) (by simp) (by simp) (by simp) (by simp)

/-- The manager is told that there are controllers. -/
theorem toMain (h : Waiting running m) (n : Nat) :
    Waiting running ({ m with lastCount := some (n + 1) }.transitionToState .main) :=
  h.arrive (by simp) (by simp) (by simp) (by simp) (by simp) (by simp) (by simp)
    (fun _ => ⟨n, by simp⟩) (by simp)

/-- `check_state_with_retry` ends in a state other than the splash screen. -/
theorem retryingDone (h : Waiting (.retrying :: running) m) (hcurrent : m.currentState ≠ .splash) :
    Waiting running m where
  splash hs := absurd hs hcurrent
  initializing hi := by simpa using h.initializing hi
  checking := by simpa using h.checking
  debounce := h.debounce
  withControllers := h.withControllers
  withoutControllers := h.withoutControllers

/-- `initialize` ends in a state other than the splash screen. -/
theorem startingDone (h : Waiting (.starting :: running) m) (hcurrent : m.currentState ≠ .splash)
    (hinit : m.initializing = false) : Waiting running m where
  splash hs := absurd hs hcurrent
  initializing hi := by simp [hinit] at hi
  checking := by simpa using h.checking
  debounce := h.debounce
  withControllers := h.withControllers
  withoutControllers := h.withoutControllers

/-- `initialize` goes over to `check_controllers_with_retry`. -/
theorem startingChecks (h : Waiting (.starting :: running) m) :
    Waiting (.retrying :: running) { m with initializing := false } where
  splash hs := ⟨.retrying, by simp, by simp⟩
  initializing hi := by cases hi
  checking := by simpa using h.checking
  debounce hd := ⟨rfl, (h.debounce hd).2⟩
  withControllers := h.withControllers
  withoutControllers := h.withoutControllers

/-- `initialize` sets its flag back. -/
theorem initialized (h : Waiting (.starting :: running) m) :
    Waiting (.starting :: running) { m with initializing := false } where
  splash hs := ⟨.starting, by simp, by simp⟩
  initializing hi := by cases hi
  checking := h.checking
  debounce hd := ⟨rfl, (h.debounce hd).2⟩
  withControllers := h.withControllers
  withoutControllers := h.withoutControllers

/-- `check_controllers_with_delay` ends. -/
theorem delayedDone (h : Waiting (.delayed :: running) m) :
    Waiting running { m with checkingControllers := false } where
  splash hs := by
    obtain ⟨p, hp, hne⟩ := h.splash hs
    exact ⟨p, by simpa [hne] using hp, hne⟩
  initializing hi := by simpa using h.initializing hi
  checking := by
    have hcount := h.checking
    rw [List.cons_append, List.count_cons_self] at hcount
    split at hcount
    · simpa using hcount
    · omega
  debounce := h.debounce
  withControllers := h.withControllers
  withoutControllers := h.withoutControllers

/-- `check_controllers_with_delay` begins. -/
theorem delayedStarts (h : Waiting running m) (hchecking : m.checkingControllers = false) :
    Waiting (.delayed :: running) { m with checkingControllers := true } where
  splash hs := by
    obtain ⟨p, hp, hne⟩ := h.splash hs
    exact ⟨p, List.mem_cons_of_mem _ hp, hne⟩
  initializing hi := List.mem_cons_of_mem _ (h.initializing hi)
  checking := by
    have hcount := h.checking
    rw [hchecking] at hcount
    rw [List.cons_append, List.count_cons_self, hcount]
    rfl
  debounce := h.debounce
  withControllers := h.withControllers
  withoutControllers := h.withoutControllers

/-- `restart_check` begins. -/
theorem restarts (h : Waiting running m) : Waiting (.starting :: running) (m.transitionToState .splash) where
  splash _ := ⟨.starting, by simp, by simp⟩
  initializing _ := by simp
  checking := by simpa using h.checking
  debounce hd := by simpa using h.debounce (by simpa using hd)
  withControllers hm := by simp at hm
  withoutControllers hn := by simp at hn

theorem checkStateWithRetry (h : Waiting (.retrying :: running) m) :
    Waiting running m.checkStateWithRetry :=
  (h.updateSplashStatus _).await (w := .retryPause)

theorem retryOrGiveUp (h : Waiting (.retrying :: running) m) (msgid : String) :
    Waiting running (m.retryOrGiveUp msgid) := by
  have hcount := h.retryCount (m.retryCount + 1)
  simp only [AppStateManager.retryOrGiveUp]
  split
  · exact (hcount.updateSplashStatus _).await (w := .retryDelay)
  · exact (hcount.toNone (.inr rfl)).retryingDone (by simp)

theorem retryDaemonStatus (h : Waiting (.retrying :: running) m) (active : Option Bool) :
    Waiting running (m.retryDaemonStatus active) := by
  unfold AppStateManager.retryDaemonStatus
  split
  · exact h.retryOrGiveUp _
  split
  · exact h.retryOrGiveUp _
  · exact h.await (w := .retryControllers)

theorem retryControllers (h : Waiting (.retrying :: running) m) (found : Option (List UInt8)) :
    Waiting running (m.retryControllers found) := by
  match found with
  | some [] => exact h.toNoControllers.retryingDone (by simp)
  | some (slot :: slots) =>
      exact ((h.toMain slots.length).retryingDone (by simp)).emit .controllersReady
  | none => exact h.retryOrGiveUp _

theorem checkControllersWithDelay (h : Waiting running m) : Waiting running m.checkControllersWithDelay := by
  unfold AppStateManager.checkControllersWithDelay
  split
  · exact h
  · rename_i hchecking
    have hstarts := h.delayedStarts (Bool.eq_false_iff.mpr hchecking)
    exact (hstarts.updateSplashStatus _).await (w := .delayPause)

theorem delayDaemonStatus (h : Waiting (.delayed :: running) m) (active : Option Bool) :
    Waiting running (m.delayDaemonStatus active) := by
  unfold AppStateManager.delayDaemonStatus
  split
  · exact (h.toNone (.inr rfl)).delayedDone
  · exact h.await (w := .delayControllers)

/-- The manager is told a number in a state that it agrees with. -/
theorem told (h : Waiting running m) {count : Nat} (hmain : m.currentState = .main → 0 < count)
    (hnone : m.currentState = .noControllers → count = 0) :
    Waiting running { m with lastCount := some count } where
  splash := h.splash
  initializing := h.initializing
  checking := h.checking
  debounce := h.debounce
  withControllers hm := ⟨count - 1, by rw [Nat.sub_add_cancel (hmain hm)]⟩
  withoutControllers hn := by rw [hnone hn]

theorem delayControllers (h : Waiting (.delayed :: running) m) (found : Option (List UInt8)) :
    Waiting running (m.delayControllers found) := by
  match found with
  | some [] => exact h.toNoControllers.delayedDone
  | some (slot :: slots) =>
      simp only [AppStateManager.delayControllers]
      split
      · rename_i hmain
        exact (h.told (by simp) (by simp [hmain])).delayedDone
      · exact ((h.toMain slots.length).emit .controllersReady).delayedDone
  | none => exact h.delayedDone

theorem waitConnection (h : Waiting (.starting :: running) m) (waitCount : Nat) :
    Waiting running (m.waitConnection waitCount) := by
  unfold AppStateManager.waitConnection
  split
  · exact h.await (w := .connection waitCount)
  split
  · exact (h.updateSplashStatus _).await (w := .connectionFailed)
  · exact (h.updateSplashStatus _).await (w := .daemonStatus)

theorem connectToDBus (h : Waiting (.starting :: running) m) : Waiting running m.connectToDBus :=
  (h.updateSplashStatus _).waitConnection 0

theorem waitVersionConnection (h : Waiting (.starting :: running) m) (waitCount : Nat) :
    Waiting running (m.waitVersionConnection waitCount) := by
  unfold AppStateManager.waitVersionConnection
  split
  · exact h.await (w := .versionConnection waitCount)
  split
  · exact h.connectToDBus
  · exact h.await (w := .coreVersion)

theorem startInitialize (h : Waiting (.starting :: running) m) (flatpak : Bool) :
    Waiting running (m.startInitialize flatpak) :=
  (h.updateSplashStatus _).await (w := .components)

theorem initializedTo (h : Waiting (.starting :: running) m) {new : AppState}
    (hnew : new = .noService ∨ new = .noDaemon) : Waiting running (m.initialized new) := by
  refine (h.initialized.toNone hnew).startingDone ?_ (by simp)
  rw [AppStateManager.transitionToState_currentState]
  rcases hnew with rfl | rfl <;> simp

theorem componentsChecked (h : Waiting (.starting :: running) m) (flatpak installed : Bool) :
    Waiting running (m.componentsChecked flatpak installed) := by
  unfold AppStateManager.componentsChecked
  split
  · exact (h.updateSplashStatus _).initializedTo (.inl rfl)
  split
  · exact (h.updateSplashStatus _).waitVersionConnection 0
  · exact h.connectToDBus

theorem daemonStatusChecked (h : Waiting (.starting :: running) m) (active : Option Bool) :
    Waiting running (m.daemonStatusChecked active) := by
  unfold AppStateManager.daemonStatusChecked
  split
  · exact (h.updateSplashStatus _).await (w := .daemonNotRunning)
  · exact (h.startingChecks.retryCount 0).checkStateWithRetry

/-- **A method that goes on.** -/
theorem goOn {flatpak : Bool} {w : Wait} {answer : Answer} {m' : AppStateManager}
    (h : Waiting (w.phase :: running) m) (hgo : m.goOn flatpak w answer = some m') : Waiting running m' := by
  unfold AppStateManager.goOn at hgo
  split at hgo
  case h_16 => cases hgo
  all_goals cases hgo
  case h_1 => exact h.componentsChecked _ _
  case h_2 => exact h.waitVersionConnection _
  case h_3 => exact h.connectToDBus
  case h_4 => exact h.waitConnection _
  case h_5 => exact h.initializedTo (.inr rfl)
  case h_6 => exact h.daemonStatusChecked _
  case h_7 => exact h.initializedTo (.inr rfl)
  case h_8 => exact h.await (w := .retryDaemonStatus)
  case h_9 => exact h.retryDaemonStatus _
  case h_10 => exact h.retryControllers _
  case h_11 => exact h.checkStateWithRetry
  case h_12 => exact h.await (w := .delayDaemonStatus)
  case h_13 => exact h.delayDaemonStatus _
  case h_14 => exact h.delayControllers _
  case h_15 => exact h.startInitialize _

theorem onListChanged (h : Waiting running m) (count : Nat) : Waiting running (m.onListChanged count) := by
  simp only [AppStateManager.onListChanged, AppStateManager.forceMain]
  by_cases hzero : count = 0
  · subst hzero
    by_cases hmain : m.currentState = .main
    · simpa [hmain] using h.toNoControllers
    · simpa [hmain] using h.told (absurd · hmain) (fun _ => rfl)
  · obtain ⟨n, rfl⟩ := Nat.exists_eq_succ_of_ne_zero hzero
    by_cases hnone : m.currentState = .noControllers
    · simpa [hnone] using h.toMain n
    · simpa [hnone] using h.told (fun _ => n.succ_pos) (absurd · hnone)

theorem setDaemonAlive (h : Waiting running m) (alive : Bool) : Waiting running (m.setDaemonAlive alive) := by
  unfold AppStateManager.setDaemonAlive AppStateManager.onDaemonStatusChanged
  split_ifs with hsame hinit
  · exact h
  all_goals
    refine ⟨h.splash, h.initializing, h.checking, ?_, h.withControllers, h.withoutControllers⟩
    intro hd
  · exact absurd ((h.debounce hd).1.symm.trans hinit) (by simp)
  · exact ⟨Bool.eq_false_iff.mpr hinit, rfl⟩

theorem processDaemonStatusChange (h : Waiting running m) (alive : Bool) :
    Waiting running (m.processDaemonStatusChange alive) := by
  unfold AppStateManager.processDaemonStatusChange
  split_ifs
  · exact h.checkControllersWithDelay
  · exact h
  · exact (h.emit .daemonOffline).toNone (.inr rfl)

/-- Without its timer there is nothing to say about the pending status. -/
theorem debounced (h : Waiting running m) : Waiting running { m with daemonDebounceTimeout := false } :=
  ⟨h.splash, h.initializing, h.checking, fun hd => (Bool.false_ne_true hd).elim, h.withControllers,
    h.withoutControllers⟩

/-- **Every step.** -/
theorem step {flatpak : Bool} {move : AppMove} {m' : AppStateManager} (h : Waiting [] m)
    (hstep : appStep flatpak move m = some m') : Waiting [] m' := by
  have hconnection (b : Bool) : Waiting [] { m with isConnected := b } :=
    h.congr (.refl _) rfl rfl rfl rfl rfl rfl rfl
  cases move with
  | connected => cases hstep; exact (hconnection true).setDaemonAlive true
  | connectFailed => cases hstep; exact (hconnection false).setDaemonAlive false
  | daemonStatus alive => cases hstep; exact h.setDaemonAlive alive
  | retryConnection =>
      cases hstep
      unfold AppStateManager.retryConnection
      split
      · exact h.checkControllersWithDelay
      · exact h
  | restartCheck => cases hstep; exact h.restarts.await (w := .restartPause)
  | listChanged count => cases hstep; exact h.onListChanged count
  | debounce =>
      simp only [appStep, Option.ite_none_right_eq_some, Option.some.injEq] at hstep
      obtain ⟨-, rfl⟩ := hstep
      exact (h.processDaemonStatusChange m.pendingDaemonAlive).debounced
  | statusTimer =>
      obtain ⟨status, -, rfl⟩ := Option.map_eq_some_iff.mp hstep
      exact h.congr (.refl _) rfl rfl rfl rfl rfl rfl rfl
  | idle =>
      simp only [appStep] at hstep
      split at hstep
      · cases hstep
      · cases hstep
        exact h.congr (.refl _) rfl rfl rfl rfl rfl rfl rfl
  | resume n answer =>
      obtain ⟨w, hw, hgo⟩ := Option.bind_eq_some_iff.mp hstep
      obtain ⟨hn, rfl⟩ := List.getElem?_eq_some_iff.mp hw
      have hresumed : Waiting [m.waits[n].phase] { m with waits := m.waits.eraseIdx n } :=
        h.congr ((List.getElem_cons_eraseIdx_perm hn).map Wait.phase) rfl rfl rfl rfl rfl rfl rfl
      exact hresumed.goOn hgo

end Waiting

/-! ## The work that is left -/

/-- How far `initialize` is from handing over, at a wait. -/
def Wait.startRank : Wait → Nat
  | .restartPause => 100
  | .components => 99
  | .versionConnection waitCount => 58 + (30 - waitCount)
  | .coreVersion => 57
  | .connection waitCount => 3 + (50 - waitCount)
  | .daemonStatus => 2
  | .connectionFailed | .daemonNotRunning => 1
  | _ => 0

/-- How far a check of the controllers is from its end, at a wait; `left` attempts are left. -/
def Wait.checkRank (left : Nat) : Wait → Nat
  | .retryDelay => 5 * left + 4
  | .retryPause => 5 * left + 3
  | .retryDaemonStatus => 5 * left + 2
  | .retryControllers => 5 * left + 1
  | .delayPause => 3
  | .delayDaemonStatus => 2
  | .delayControllers => 1
  | _ => 0

namespace AppStateManager

/-- The work of the methods that initialise. -/
def startWork (m : AppStateManager) : Nat := (m.waits.map Wait.startRank).sum

/-- The work of the methods that check the controllers. -/
def checkWork (m : AppStateManager) : Nat :=
  (m.waits.map (Wait.checkRank (maxRetries - m.retryCount))).sum

/-- The work of the checks, the timers and the idle callbacks.  A check may end with a transition and a text,
and the debounce timer may start a check. -/
def otherWork (m : AppStateManager) : Nat :=
  3 * m.checkWork + 12 * m.daemonDebounceTimeout.toNat + m.idles.length + m.statusUpdateTimeout.isSome.toNat

/-- **The work that is left**: a method that initialises may bring any amount of other work. -/
def work (m : AppStateManager) : Nat × Nat := (m.startWork, m.otherWork)

variable {m : AppStateManager}

theorem startWork_await (w : Wait) : (m.await w).startWork = m.startWork + w.startRank := by
  simp [startWork, AppStateManager.await]

theorem otherWork_await (w : Wait) :
    (m.await w).otherWork = m.otherWork + 3 * w.checkRank (maxRetries - m.retryCount) := by
  simp only [otherWork, checkWork, AppStateManager.await, List.map_append, List.sum_append, List.map_cons,
    List.map_nil, List.sum_cons, List.sum_nil]
  omega

theorem startWork_updateSplashStatus (status : SplashStatus) :
    (m.updateSplashStatus status).startWork = m.startWork := rfl

@[simp] theorem updateSplashStatus_retryCount (status : SplashStatus) :
    (m.updateSplashStatus status).retryCount = m.retryCount := rfl

theorem otherWork_updateSplashStatus (status : SplashStatus) :
    (m.updateSplashStatus status).otherWork ≤ m.otherWork + 1 := by
  simp only [otherWork, checkWork, updateSplashStatus, Option.isSome_some, Bool.toNat_true]
  omega

theorem startWork_transitionToState (new : AppState) :
    (m.transitionToState new).startWork = m.startWork := by
  simp [startWork]

theorem otherWork_transitionToState (new : AppState) :
    (m.transitionToState new).otherWork ≤ m.otherWork + 1 := by
  unfold transitionToState
  split
  · exact Nat.le_succ _
  · simp only [otherWork, checkWork, emit, List.length_append, List.length_singleton]
    omega

/-- Fewer attempts are left, so less work. -/
theorem checkRank_mono {left left' : Nat} (h : left ≤ left') (w : Wait) : w.checkRank left ≤ w.checkRank left' := by
  cases w <;> simp only [Wait.checkRank] <;> omega

theorem otherWork_retryCount (n : Nat) (hn : m.retryCount ≤ n) :
    { m with retryCount := n }.otherWork ≤ m.otherWork := by
  have hsum : ((m.waits.map (Wait.checkRank (maxRetries - n))).sum) ≤ m.checkWork :=
    List.sum_le_sum fun w _ => checkRank_mono (Nat.sub_le_sub_left hn _) w
  simp only [otherWork, checkWork] at hsum ⊢
  omega

/-! ### The methods that initialise -/

theorem startWork_waitConnection (waitCount : Nat) :
    (m.waitConnection waitCount).startWork < m.startWork + (3 + (51 - waitCount)) := by
  unfold waitConnection
  split_ifs
  all_goals
    rw [startWork_await]
    simp only [startWork_updateSplashStatus, Wait.startRank]
    omega

theorem startWork_connectToDBus : m.connectToDBus.startWork < m.startWork + 54 :=
  startWork_waitConnection 0

theorem startWork_waitVersionConnection (waitCount : Nat) :
    (m.waitVersionConnection waitCount).startWork < m.startWork + (58 + (31 - waitCount)) := by
  unfold waitVersionConnection
  split_ifs
  · rw [startWork_await]
    simp only [Wait.startRank]
    omega
  · have hconnect := startWork_connectToDBus (m := m)
    omega
  · rw [startWork_await]
    simp only [Wait.startRank]
    omega

theorem startWork_componentsChecked (flatpak installed : Bool) :
    (m.componentsChecked flatpak installed).startWork < m.startWork + 99 := by
  unfold componentsChecked
  split
  · rw [initialized, startWork_transitionToState]
    show m.startWork < _
    omega
  split
  · have hversion := startWork_waitVersionConnection
      (m := m.updateSplashStatus ⟨"Checking daemon version...", []⟩) 0
    rw [startWork_updateSplashStatus] at hversion
    omega
  · have hconnect := startWork_connectToDBus (m := m)
    omega

theorem startWork_daemonStatusChecked (active : Option Bool) :
    (m.daemonStatusChecked active).startWork < m.startWork + 2 := by
  unfold daemonStatusChecked
  split_ifs
  · rw [startWork_await, startWork_updateSplashStatus]
    simp [Wait.startRank]
  · rw [checkControllersWithRetry, checkStateWithRetry, startWork_await, startWork_updateSplashStatus]
    show m.startWork + 0 < _
    omega

/-! ### The methods that check the controllers -/

theorem startWork_retryOrGiveUp (msgid : String) : (m.retryOrGiveUp msgid).startWork = m.startWork := by
  simp only [retryOrGiveUp]
  split_ifs
  · rw [startWork_await]
    rfl
  · rw [startWork_transitionToState]
    rfl

/-- **A failed attempt leaves less work than any point of the attempt.** -/
theorem otherWork_retryOrGiveUp (msgid : String) :
    (m.retryOrGiveUp msgid).otherWork < m.otherWork + 3 * (5 * (maxRetries - m.retryCount) + 1) := by
  have hcount := otherWork_retryCount (m := m) (m.retryCount + 1) (Nat.le_succ _)
  simp only [retryOrGiveUp]
  split_ifs with hleft
  · have hstatus := otherWork_updateSplashStatus (m := { m with retryCount := m.retryCount + 1 })
      ⟨msgid, [m.retryCount + 1, maxRetries]⟩
    rw [otherWork_await]
    simp only [Wait.checkRank, updateSplashStatus_retryCount]
    omega
  · have hgone := otherWork_transitionToState (m := { m with retryCount := m.retryCount + 1 }) .noDaemon
    omega

/-- **What the rest of an attempt leaves**: no method that initialises, and less work than before. -/
def Lighter (rank : Nat) (m m' : AppStateManager) : Prop :=
  m'.startWork = m.startWork ∧ m'.otherWork < m.otherWork + 3 * rank

theorem lighter_await {w : Wait} {rank : Nat} (hstart : w.startRank = 0)
    (hrank : w.checkRank (maxRetries - m.retryCount) < rank) : Lighter rank m (m.await w) := by
  rw [Lighter, startWork_await, otherWork_await, hstart]
  omega

theorem lighter_checkStateWithRetry :
    Lighter (5 * (maxRetries - m.retryCount) + 4) m m.checkStateWithRetry := by
  have hstatus := otherWork_updateSplashStatus (m := m)
    ⟨"Checking controllers... (attempt %d/%d)", [m.retryCount + 1, maxRetries]⟩
  rw [Lighter, checkStateWithRetry, startWork_await, otherWork_await, startWork_updateSplashStatus]
  simp only [Wait.checkRank, Wait.startRank, updateSplashStatus_retryCount]
  omega

theorem lighter_retryOrGiveUp (msgid : String) {rank : Nat}
    (hrank : 5 * (maxRetries - m.retryCount) + 1 ≤ rank) : Lighter rank m (m.retryOrGiveUp msgid) := by
  have hother := otherWork_retryOrGiveUp (m := m) msgid
  exact ⟨startWork_retryOrGiveUp msgid, by omega⟩

theorem lighter_retryDaemonStatus (active : Option Bool) :
    Lighter (5 * (maxRetries - m.retryCount) + 2) m (m.retryDaemonStatus active) := by
  unfold retryDaemonStatus
  split_ifs
  · exact lighter_retryOrGiveUp _ (by omega)
  · exact lighter_retryOrGiveUp _ (by omega)
  · exact lighter_await rfl (by simp only [Wait.checkRank]; omega)

/-- A transition, a signal and a number told are less than one wait. -/
theorem lighter_arrive (new : AppState) (count : Option Nat) {rank : Nat} (hrank : 0 < rank) :
    Lighter rank m ({ m with lastCount := count }.transitionToState new) := by
  have hother := otherWork_transitionToState (m := { m with lastCount := count }) new
  refine ⟨startWork_transitionToState new, ?_⟩
  have htold : { m with lastCount := count }.otherWork = m.otherWork := rfl
  omega

theorem lighter_retryControllers (found : Option (List UInt8)) :
    Lighter (5 * (maxRetries - m.retryCount) + 1) m (m.retryControllers found) := by
  match found with
  | some [] => exact lighter_arrive _ _ (Nat.succ_pos _)
  | some (slot :: slots) => exact lighter_arrive _ (some (slots.length + 1)) (Nat.succ_pos _)
  | none => exact lighter_retryOrGiveUp _ le_rfl

theorem lighter_delayDaemonStatus (active : Option Bool) : Lighter 2 m (m.delayDaemonStatus active) := by
  unfold delayDaemonStatus
  split_ifs
  · exact lighter_arrive _ m.lastCount (by omega)
  · exact lighter_await rfl (by simp only [Wait.checkRank]; omega)

theorem lighter_delayControllers (found : Option (List UInt8)) : Lighter 1 m (m.delayControllers found) := by
  have hsame : Lighter 1 m m := ⟨rfl, by omega⟩
  match found with
  | some [] => exact lighter_arrive .noControllers (some 0) (by omega)
  | some (slot :: slots) =>
      simp only [delayControllers]
      split_ifs
      · exact hsame
      · exact lighter_arrive .main (some (slots.length + 1)) (by omega)
  | none => exact hsame

/-! ### One step -/

/-- **A method that goes on leaves less work.** -/
theorem work_goOn {flatpak : Bool} {w : Wait} {answer : Answer} {m' : AppStateManager}
    (hgo : m.goOn flatpak w answer = some m') :
    m'.startWork < m.startWork + w.startRank ∨
      Lighter (w.checkRank (maxRetries - m.retryCount)) m m' ∧ w.startRank = 0 := by
  unfold goOn at hgo
  split at hgo
  case h_16 => cases hgo
  all_goals cases hgo
  case h_1 => exact .inl (startWork_componentsChecked _ _)
  case h_2 n =>
    have hwait := startWork_waitVersionConnection (m := m) (n + 1)
    left
    simp only [Wait.startRank]
    omega
  case h_3 =>
    have hconnect := startWork_connectToDBus (m := m)
    left
    simp only [Wait.startRank]
    omega
  case h_4 n =>
    have hwait := startWork_waitConnection (m := m) (n + 1)
    left
    simp only [Wait.startRank]
    omega
  case h_5 =>
    left
    rw [initialized, startWork_transitionToState]
    exact Nat.lt_succ_self _
  case h_6 => exact .inl (startWork_daemonStatusChecked _)
  case h_7 =>
    left
    rw [initialized, startWork_transitionToState]
    exact Nat.lt_succ_self _
  case h_8 => exact .inr ⟨lighter_await rfl (by simp only [Wait.checkRank]; omega), rfl⟩
  case h_9 => exact .inr ⟨lighter_retryDaemonStatus _, rfl⟩
  case h_10 => exact .inr ⟨lighter_retryControllers _, rfl⟩
  case h_11 => exact .inr ⟨lighter_checkStateWithRetry, rfl⟩
  case h_12 => exact .inr ⟨lighter_await rfl (by simp only [Wait.checkRank]; omega), rfl⟩
  case h_13 => exact .inr ⟨lighter_delayDaemonStatus _, rfl⟩
  case h_14 => exact .inr ⟨lighter_delayControllers _, rfl⟩
  case h_15 =>
    left
    rw [startInitialize, startWork_await, startWork_updateSplashStatus]
    exact Nat.add_lt_add_left (by decide) _

/-- The debounce timer is worth more than the check it may start. -/
theorem work_processDaemonStatusChange (alive : Bool) :
    (m.processDaemonStatusChange alive).startWork = m.startWork ∧
      (m.processDaemonStatusChange alive).otherWork ≤ m.otherWork + 10 ∧
      (m.processDaemonStatusChange alive).daemonDebounceTimeout = m.daemonDebounceTimeout := by
  have hgone := otherWork_transitionToState (m := m.emit .daemonOffline) .noDaemon
  have hoffline : (m.emit .daemonOffline).otherWork = m.otherWork := rfl
  have hstatus := otherWork_updateSplashStatus (m := { m with checkingControllers := true })
    ⟨"Service detected, checking controllers...", []⟩
  have hchecking : { m with checkingControllers := true }.otherWork = m.otherWork := rfl
  simp only [processDaemonStatusChange, checkControllersWithDelay]
  split_ifs
  · exact ⟨rfl, Nat.le_add_right _ _, rfl⟩
  · rw [startWork_await, otherWork_await]
    simp only [Wait.checkRank, Wait.startRank]
    exact ⟨rfl, by omega, rfl⟩
  · exact ⟨rfl, Nat.le_add_right _ _, rfl⟩
  · exact ⟨startWork_transitionToState _, by omega, transitionToState_daemonDebounceTimeout _ _⟩

/-- A waiting method is part of the work. -/
theorem work_waiting {n : Nat} (hn : n < m.waits.length) :
    m.startWork = { m with waits := m.waits.eraseIdx n }.startWork + m.waits[n].startRank ∧
      m.otherWork = { m with waits := m.waits.eraseIdx n }.otherWork +
        3 * m.waits[n].checkRank (maxRetries - m.retryCount) := by
  have hperm := List.getElem_cons_eraseIdx_perm hn
  have hstart := (hperm.map Wait.startRank).sum_eq
  have hcheck := (hperm.map (Wait.checkRank (maxRetries - m.retryCount))).sum_eq
  simp only [List.map_cons, List.sum_cons] at hstart hcheck
  simp only [startWork, otherWork, checkWork]
  omega

/-- **Every step of the manager's own leaves less work.** -/
theorem work_step {flatpak : Bool} {move : AppMove} {m' : AppStateManager} (hown : move.Own)
    (hstep : appStep flatpak move m = some m') : Prod.Lex (· < ·) (· < ·) m'.work m.work := by
  have hsame (hstart : m'.startWork = m.startWork) (hother : m'.otherWork < m.otherWork) :
      Prod.Lex (· < ·) (· < ·) m'.work m.work := by
    rw [work, work, hstart]
    exact .right _ hother
  cases move with
  | debounce =>
      simp only [appStep, Option.ite_none_right_eq_some, Option.some.injEq] at hstep
      obtain ⟨harmed, rfl⟩ := hstep
      obtain ⟨hstart, hother, htimer⟩ := work_processDaemonStatusChange (m := m) m.pendingDaemonAlive
      refine hsame hstart ?_
      rw [harmed] at htimer
      simp only [otherWork, checkWork, htimer, Bool.toNat_true, Bool.toNat_false] at hother ⊢
      omega
  | statusTimer =>
      obtain ⟨status, hstatus, rfl⟩ := Option.map_eq_some_iff.mp hstep
      refine hsame rfl ?_
      simp [otherWork, checkWork, hstatus]
  | idle =>
      simp only [appStep] at hstep
      split at hstep
      · cases hstep
      · rename_i new rest hidles
        cases hstep
        refine hsame rfl ?_
        simp only [otherWork, checkWork, showPage, emit, hidles, List.length_cons]
        omega
  | resume n answer =>
      obtain ⟨w, hw, hgo⟩ := Option.bind_eq_some_iff.mp hstep
      obtain ⟨hn, rfl⟩ := List.getElem?_eq_some_iff.mp hw
      obtain ⟨hstart, hother⟩ := work_waiting hn
      rcases work_goOn hgo with hless | ⟨⟨hsameStart, hless⟩, hzero⟩
      · rw [← hstart] at hless
        exact .left _ _ hless
      · refine hsame ?_ ?_
        · rw [hsameStart, hstart, hzero, Nat.add_zero]
        · rw [hother]
          exact hless
  | connected | connectFailed | daemonStatus | retryConnection | restartCheck | listChanged =>
      exact hown.elim

end AppStateManager

/-! ## At rest -/

/-- Every waiting method has an answer to wait for. -/
theorem exists_answer (flatpak : Bool) (w : Wait) (m : AppStateManager) :
    ∃ answer, (m.goOn flatpak w answer).isSome = true := by
  cases w
  case components => exact ⟨.installed true, rfl⟩
  case coreVersion => exact ⟨.version none, rfl⟩
  case daemonStatus => exact ⟨.active none, rfl⟩
  case retryDaemonStatus => exact ⟨.active none, rfl⟩
  case delayDaemonStatus => exact ⟨.active none, rfl⟩
  case retryControllers => exact ⟨.slots none, rfl⟩
  case delayControllers => exact ⟨.slots none, rfl⟩
  all_goals exact ⟨.elapsed, rfl⟩

/-- **At rest nothing waits, nothing is queued and no timer runs.** -/
theorem pending_of_atRest {flatpak : Bool} {m : AppStateManager}
    (h : AtRest (appStep flatpak) AppMove.Own m) :
    m.waits = [] ∧ m.idles = [] ∧ m.daemonDebounceTimeout = false ∧ m.statusUpdateTimeout = none := by
  refine ⟨?_, ?_, ?_, ?_⟩
  · cases hwaits : m.waits with
    | nil => rfl
    | cons w ws =>
        obtain ⟨answer, hanswer⟩ := exists_answer flatpak w { m with waits := ws }
        have hnone := h (.resume 0 answer) trivial
        simp only [appStep, hwaits, List.getElem?_cons_zero, Option.bind_some, List.eraseIdx_cons_zero]
          at hnone
        rw [hnone] at hanswer
        cases hanswer
  · cases hidles : m.idles with
    | nil => rfl
    | cons new rest =>
        have hnone := h .idle trivial
        simp [appStep, hidles] at hnone
  · have hnone := h .debounce trivial
    simpa [appStep] using hnone
  · have hnone := h .statusTimer trivial
    simpa [appStep] using hnone

/-- **What the GUI shows when all is done**: the page of its state, after every page before it; not the splash
screen; and no flag is left set. -/
structure Settled (m : AppStateManager) : Prop where
  page : m.visibleChildName = m.currentState.page
  shown : completions m.signals = changes m.signals
  left : m.currentState ≠ .splash
  initializing : m.initializing = false
  checking : m.checkingControllers = false
  withControllers : m.currentState = .main → ∃ n, m.lastCount = some (n + 1)
  withoutControllers : m.currentState = .noControllers → m.lastCount = some 0

theorem settled_of_atRest {flatpak : Bool} {m : AppStateManager} (hshows : Shows m) (hwaiting : Waiting [] m)
    (h : AtRest (appStep flatpak) AppMove.Own m) : Settled m := by
  obtain ⟨hwaits, hidles, -, -⟩ := pending_of_atRest h
  have hshown : completions m.signals = changes m.signals := by simpa [hidles] using hshows.order.symm
  refine ⟨?_, hshown, ?_, ?_, ?_, hwaiting.withControllers, hwaiting.withoutControllers⟩
  · rw [hshows.page, hshown, ← hshows.current]
  · intro hsplash
    obtain ⟨p, hp, -⟩ := hwaiting.splash hsplash
    simp [hwaits] at hp
  · rw [← Bool.not_eq_true]
    intro hinit
    have hmem := hwaiting.initializing hinit
    simp [hwaits] at hmem
  · have hcount := hwaiting.checking
    rw [hwaits] at hcount
    cases hchecking : m.checkingControllers with
    | false => rfl
    | true => simp [hchecking] at hcount

section

variable {flatpak isConnected daemonAlive : Bool}

theorem shows_launched : Shows (launched flatpak isConnected daemonAlive) := ⟨rfl, rfl, rfl⟩

theorem waiting_launched : Waiting [] (launched flatpak isConnected daemonAlive) where
  splash _ := ⟨.starting, by simp [launched, AppStateManager.startInitialize, AppStateManager.await, Wait.phase]⟩
  initializing _ := by simp [launched, AppStateManager.startInitialize, AppStateManager.await, Wait.phase]
  checking := rfl
  debounce hd := by cases hd
  withControllers hm := by cases hm
  withoutControllers hn := by cases hn

/-- Both invariants hold along every run. -/
theorem shows_and_waiting {m : AppStateManager}
    (hrun : Run (appStep flatpak) free (launched flatpak isConnected daemonAlive) m) :
    Shows m ∧ Waiting [] m :=
  hrun.invariant (I := fun m => Shows m ∧ Waiting [] m)
    (fun _ _ _ hI _ hstep => ⟨hI.1.step hstep, hI.2.step hstep⟩) ⟨shows_launched, waiting_launched⟩

end

/-- **What the manager shows and remembers while it works**, in every state it can reach: each transition's
page once and in order; on the splash screen a check that will leave it, and at most one delayed check; under
the debounce timer the status the daemon has now; the pages with and without controllers only after a number
that agrees. -/
theorem appStateManager_shows (flatpak isConnected daemonAlive : Bool) {m : AppStateManager}
    (hrun : Run (appStep flatpak) free (launched flatpak isConnected daemonAlive) m) :
    Shows m ∧ Waiting [] m :=
  shows_and_waiting hrun

/-- A run of the manager: it starts under Flatpak, finds one controller, and then the daemon goes away. -/
def daemonLostRun : List AppMove :=
  [.resume 0 (.installed true), .connected, .resume 0 .elapsed, .resume 0 (.version none),
    .resume 0 (.active (some true)), .resume 0 .elapsed, .resume 0 (.active (some true)),
    .resume 0 (.slots (some [2])), .idle, .daemonStatus false, .debounce]

theorem appStateManager_shows_example :
    Shows (reached (appStep true) daemonLostRun (launched true false false)) ∧
      Waiting [] (reached (appStep true) daemonLostRun (launched true false false)) :=
  appStateManager_shows true false false (.of_exec (eq_some_getD (rfl : (exec (appStep true) daemonLostRun _).isSome = true)))

/-- **The GUI always comes to rest, and never on the splash screen.**  Whatever the bus, the daemon and the
window have done since the start, in whatever order the waiting methods were resumed and with whatever answers:
what is under way ends, and then the page shown is that of the state, every transition has been shown, and no
check is left marked as running. -/
theorem appStateManager_settles (flatpak isConnected daemonAlive : Bool) {m : AppStateManager}
    (hrun : Run (appStep flatpak) free (launched flatpak isConnected daemonAlive) m) :
    ComesToRest (appStep flatpak) AppMove.Own Settled m := by
  have hinv : Shows m ∧ Waiting [] m := shows_and_waiting hrun
  refine comesToRest_of_measure AppStateManager.work (I := fun m => Shows m ∧ Waiting [] m) ?_ ?_ ?_ hinv
  · intro move s t hI _ hstep
    exact ⟨hI.1.step hstep, hI.2.step hstep⟩
  · intro move s t _ hown hstep
    exact AppStateManager.work_step hown hstep
  · intro s hI hrest
    exact settled_of_atRest hI.1 hI.2 hrest

theorem appStateManager_settles_example :
    ComesToRest (appStep true) AppMove.Own Settled
      (reached (appStep true) daemonLostRun (launched true false false)) :=
  appStateManager_settles true false false (.of_exec (eq_some_getD (rfl : (exec (appStep true) daemonLostRun _).isSome = true)))

end Dstx
