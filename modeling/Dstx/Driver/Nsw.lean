/-
# Dstx.Driver.Nsw — the Switch Pro path (`nsw.c`): evdev in, only-on-change events out.

`nsw_read_events` drains the evdev queue into the context (raw buttons and sticks) and the slot (the two
trigger values), shapes the sticks, applies the keymap, and then — if something was read and four
milliseconds have passed since the last time — forwards to the virtual device.  It sends a control only
when its value differs from a CACHE of what was sent last.

The cache belongs to the context, which lives as long as the worker; the uinput device behind it is
destroyed and created again whenever emulation is switched off and on, or to UHID and back.  A new device
shows 0 everywhere and the cache does not know.  So the device shows the slot after a forward
(`nsw_forward_shows_slot`) in every run in which a uinput device is created only while every cached
control is at rest; `button_lost_on_recreation` is the run without that.
-/
import Dstx.Driver.Triggers
import Dstx.Led.Engine
import Dstx.Lib.Run

namespace Dstx

open Dstx.Lib

/-! ## Events -/

/-- The evdev keys of the controller. -/
inductive NswKey where
  | south
  | east
  | north
  | west
  | tl
  | tr
  | tl2
  | tr2
  | select
  | start
  | mode
  | thumbl
  | thumbr
  /-- The capture button, `BTN_Z`. -/
  | z

/-- The physical button of a key. -/
def NswKey.button : NswKey → Button
  | .south => .cross
  | .east => .circle
  | .north => .triangle
  | .west => .square
  | .tl => .l1
  | .tr => .r1
  | .tl2 => .l2
  | .tr2 => .r2
  | .select => .share
  | .start => .options
  | .mode => .ps
  | .thumbl => .l3
  | .thumbr => .r3
  | .z => .touch

/-- An event read from the evdev device. -/
inductive EvdevEvent where
  | key (code : NswKey) (value : Int)
  | x (value : Int)
  | y (value : Int)
  | rx (value : Int)
  | ry (value : Int)
  | hat0x (value : Int)
  | hat0y (value : Int)
  /-- A type or code that is not handled. -/
  | other

/-- The part of `nsw_context_t` that the input path uses. -/
structure NswContext where
  /-- `uhid_fd >= 0`. -/
  uhid : Bool
  connected : Bool
  lx : Int
  ly : Int
  rx : Int
  ry : Int
  phyRaw : Button → Bool
  /-- The caches `last_*`, by the control each of them is about. -/
  last : Control → Int
  lastUinputTime : Timeval

/-- Conversion to `int16_t`. -/
def wrap16 (v : Int) : Int := (v + 2 ^ 15) % 2 ^ 16 - 2 ^ 15

/-- The `switch` on one event. -/
def nswEvent (s : NswContext × Pad) (ev : EvdevEvent) : NswContext × Pad :=
  match ev with
  | .key code value =>
      let ctx := { s.1 with phyRaw := Function.update s.1.phyRaw code.button (toU8 value != 0) }
      let analog : Int := if value ≠ 0 then 255 else 0
      match code with
      | .tl2 => (ctx, { s.2 with lt := analog })
      | .tr2 => (ctx, { s.2 with rt := analog })
      | _ => (ctx, s.2)
  | .x value => ({ s.1 with lx := wrap16 value }, s.2)
  | .y value => ({ s.1 with ly := wrap16 value }, s.2)
  | .rx value => ({ s.1 with rx := wrap16 value }, s.2)
  | .ry value => ({ s.1 with ry := wrap16 value }, s.2)
  | .hat0x value =>
      ({ s.1 with phyRaw :=
          Function.update (Function.update s.1.phyRaw .dpadLeft (value == -1)) .dpadRight (value == 1) },
        s.2)
  | .hat0y value =>
      ({ s.1 with phyRaw :=
          Function.update (Function.update s.1.phyRaw .dpadUp (value == -1)) .dpadDown (value == 1) },
        s.2)
  | .other => s

/-! ## Sticks -/

/-- `clamp_axis`. -/
def clampAxis (v : Int) : Int := max (-32768) (min v 32767)

/-- **`nsw_apply_transforms`**. -/
def nswApplyTransforms (A : AxisMath) (c : Controller) (isBluetooth : Bool) (ctx : NswContext)
    (pad : Pad) : Pad :=
  let left := if isBluetooth then (clampAxis (ctx.lx + 2545), clampAxis (ctx.ly - 2978)) else (ctx.lx, ctx.ly)
  let right :=
    if isBluetooth then (clampAxis (ctx.rx + 2438), clampAxis (ctx.ry - 2873)) else (ctx.rx, ctx.ry)
  let l := shapeStick A c.sensitivityLeftPreset c.invertLy c.deadzone left
  let r := shapeStick A c.sensitivityRightPreset c.invertRy c.deadzone right
  { pad with lx := l.1, ly := l.2, rx := r.1, ry := r.2 }

/-! ## Forwarding -/

/-- `NSW_UINPUT_RATE_LIMIT_US`. -/
def nswUinputRateLimitUs : Int := 4000

/-- The controls `nsw_read_events` compares, in order. -/
def nswControls (digital : Bool) : List Control :=
  [.btnSouth, .btnEast, .btnNorth, .btnWest, .btnTl, .btnTr, .btnSelect, .btnStart, .btnMode, .btnThumbl,
      .btnThumbr, .absX, .absY, .absRx, .absRy] ++
    (if digital then [.btnTl2, .btnTr2] else [.absZ, .absRz]) ++ [.hat0x, .hat0y]

/-- What the controls are to show. -/
def nswTarget (c : Controller) (pad : Pad) : Control → Int :=
  pad.control (getTriggerAxisValue c.keymap pad)

/-- One call of `nsw_read_events`: what the queue gave, whether it ended in `EAGAIN` (else the read
failed), and the clock. -/
structure NswRead where
  events : List EvdevEvent
  drained : Bool
  now : Timeval

/-- The slot after a call whose queue was drained. -/
def nswPad (A : AxisMath) (c : Controller) (isBluetooth : Bool) (s : NswContext × Pad) : Pad :=
  (nswApplyTransforms A c isBluetooth s.1 s.2).applyMap c.keymap s.1.phyRaw

/-- Something was read and the rate limit has passed. -/
def nswForwards (r : NswRead) (ctx : NswContext) : Bool :=
  r.drained && !r.events.isEmpty &&
    decide (timevalDiffUs r.now ctx.lastUinputTime ≥ nswUinputRateLimitUs)

/-- **`nsw_read_events`** — context, slot and the events sent to uinput; `ufd` is whether the descriptor
passed is open. -/
def nswReadEvents (A : AxisMath) (c : Controller) (isBluetooth ufd : Bool) (r : NswRead)
    (ctx : NswContext) (pad : Pad) : NswContext × Pad × List UinputEvent :=
  let s := r.events.foldl nswEvent (ctx, pad)
  if !r.drained then ({ s.1 with connected := false }, s.2, [])
  else
    let pad' := nswPad A c isBluetooth s
    if nswForwards r ctx then
      if ufd && !ctx.uhid then
        ({ s.1 with
            last := cacheSent s.1.last (nswTarget c pad') (nswControls c.isTriggerDigital)
            lastUinputTime := r.now },
          pad', sendChanged s.1.last (nswTarget c pad') (nswControls c.isTriggerDigital))
      else ({ s.1 with lastUinputTime := r.now }, pad', [])
    else (s.1, pad', [])

/-! ## The worker -/

/-- A Switch Pro slot with its worker: settings, pad, context, and the virtual device. -/
structure NswSystem where
  settings : Controller
  isBluetooth : Bool
  pad : Pad
  ctx : NswContext
  /-- The worker's copy of `is_uhid`. -/
  useUhid : Bool
  /-- The uinput device, as the replay of the events sent to it. -/
  device : Option (Control → Int)

/-- **`nsw_init`**: everything at rest, the trigger axes marked as never sent. -/
def nswInit (now : Timeval) : NswContext where
  uhid := false
  connected := true
  lx := 0
  ly := 0
  rx := 0
  ry := 0
  phyRaw := fun _ => false
  last := fun k => if k = .absZ ∨ k = .absRz then -1 else 0
  lastUinputTime := now

/-- Who moves. -/
inductive NswMove where
  /-- The worker calls `nsw_read_events`. -/
  | read (r : NswRead)
  /-- The worker's virtual device management, with the outcomes of creating either device. -/
  | manage (uinputOk uhidOk : Bool)
  /-- Any settings are changed. -/
  | settings (c : Controller)
  /-- The worker ends, its devices with it, and another one starts on the slot. -/
  | restart (isBluetooth : Bool) (now : Timeval)

/-- **Virtual device management.** -/
def nswManage (uinputOk uhidOk : Bool) (s : NswSystem) : NswSystem :=
  let s := { s with useUhid := s.settings.isUhid }
  if s.settings.emulateActive then
    if s.settings.isUhid then
      { s with device := none, ctx := { s.ctx with uhid := s.ctx.uhid || uhidOk } }
    else
      { s with
        ctx := { s.ctx with uhid := false }
        device :=
          match s.device with
          | some d => some d
          | none => if uinputOk then some fun _ => 0 else none }
  else { s with device := none, ctx := { s.ctx with uhid := false } }

/-- The call of `nsw_read_events` in the worker. -/
def nswCall (A : AxisMath) (r : NswRead) (s : NswSystem) : NswSystem :=
  let ufd := if s.useUhid then s.ctx.uhid else s.device.isSome
  let out := nswReadEvents A s.settings s.isBluetooth ufd r s.ctx s.pad
  { s with
    ctx := out.1
    pad := out.2.1
    device := s.device.map fun d => replay d out.2.2 }

/-- **One step.** -/
def nswStep (A : AxisMath) (move : NswMove) (s : NswSystem) : Option NswSystem :=
  match move with
  | .read r => some (nswCall A r s)
  | .manage uinputOk uhidOk => some (nswManage uinputOk uhidOk s)
  | .settings c => some { s with settings := c }
  | .restart isBluetooth now =>
      some
        { settings := s.settings
          isBluetooth := isBluetooth
          pad := restPad
          ctx := nswInit now
          useUhid := false
          device := none }

/-- The call forwards to uinput. -/
def NswSystem.forwards (s : NswSystem) (r : NswRead) : Bool :=
  nswForwards r s.ctx && !s.useUhid && s.device.isSome && !s.ctx.uhid

/-! ## The condition -/

/-- The mark of a trigger axis that was never sent. -/
def NeverSent (k : Control) (v : Int) : Prop := (k = .absZ ∨ k = .absRz) ∧ v = -1

/-- The cached controls are at rest, or marked as never sent. -/
def NswContext.AtRest (ctx : NswContext) : Prop := ∀ k, ctx.last k = 0 ∨ NeverSent k (ctx.last k)

/-- The pass creates a uinput device. -/
def NswSystem.creates (s : NswSystem) (uinputOk : Bool) : Bool :=
  s.settings.emulateActive && !s.settings.isUhid && s.device.isNone && uinputOk

/-- **The condition on a step**: a uinput device is created only while every cached control is at
rest. -/
def CreatesAtRest (move : NswMove) (s : NswSystem) : Prop :=
  match move with
  | .manage uinputOk _ => s.creates uinputOk = true → s.ctx.AtRest
  | _ => True

/-! ## One step -/

section

variable (A : AxisMath)

/-- Reading events does not touch the caches. -/
theorem nswEvent_last (s : NswContext × Pad) (ev : EvdevEvent) : (nswEvent s ev).1.last = s.1.last := by
  cases ev with
  | key code value => cases code <;> rfl
  | _ => rfl

theorem foldl_nswEvent_last (events : List EvdevEvent) (s : NswContext × Pad) :
    (events.foldl nswEvent s).1.last = s.1.last := by
  induction events generalizing s with
  | nil => rfl
  | cons ev events ih =>
      rw [List.foldl_cons, ih]
      exact nswEvent_last s ev

/-- A trigger axis is never set to -1. -/
theorem getTriggerAxisValue_nonneg (keymap : Keymap) (pad : Pad) (t : Trigger) :
    0 ≤ getTriggerAxisValue keymap pad t := by
  unfold getTriggerAxisValue
  split_ifs <;> omega

theorem not_neverSent_nswTarget (c : Controller) (pad : Pad) (k : Control) :
    ¬NeverSent k (nswTarget c pad k) := by
  rintro ⟨rfl | rfl, hv⟩
  · have h := getTriggerAxisValue_nonneg c.keymap pad .left
    have hz : getTriggerAxisValue c.keymap pad .left = -1 := hv
    omega
  · have h := getTriggerAxisValue_nonneg c.keymap pad .right
    have hz : getTriggerAxisValue c.keymap pad .right = -1 := hv
    omega

/-- A call that forwards to uinput. -/
theorem nswCall_of_forwards {s : NswSystem} {r : NswRead} (h : s.forwards r = true) :
    (nswCall A r s).settings = s.settings ∧
      (nswCall A r s).ctx.last =
        cacheSent s.ctx.last (nswTarget s.settings (nswCall A r s).pad)
          (nswControls s.settings.isTriggerDigital) ∧
      (nswCall A r s).device = s.device.map fun d =>
        replay d (sendChanged s.ctx.last (nswTarget s.settings (nswCall A r s).pad)
          (nswControls s.settings.isTriggerDigital)) := by
  simp only [NswSystem.forwards, Bool.and_eq_true, Bool.not_eq_true'] at h
  obtain ⟨⟨⟨hforward, huse⟩, hopen⟩, huhid⟩ := h
  have hdrained : r.drained = true := by
    simp only [nswForwards, Bool.and_eq_true] at hforward
    exact hforward.1.1
  have hlast := foldl_nswEvent_last r.events (s.ctx, s.pad)
  simp [nswCall, nswReadEvents, hdrained, hforward, huse, hopen, huhid, hlast]

/-- A call that does not: cache and device are as they were. -/
theorem nswCall_of_not_forwards {s : NswSystem} {r : NswRead} (h : s.forwards r = false) :
    (nswCall A r s).ctx.last = s.ctx.last ∧ (nswCall A r s).device = s.device := by
  have hlast := foldl_nswEvent_last r.events (s.ctx, s.pad)
  unfold nswCall nswReadEvents
  dsimp only
  by_cases hdrained : r.drained = true
  · by_cases hforward : nswForwards r s.ctx = true
    · have hclosed : ((if s.useUhid then s.ctx.uhid else s.device.isSome) && !s.ctx.uhid) = false := by
        simp only [NswSystem.forwards, hforward, Bool.true_and] at h
        cases huse : s.useUhid with
        | true => cases s.ctx.uhid <;> rfl
        | false => simpa [huse] using h
      simp [hdrained, hforward, hclosed, hlast]
    · simp [hdrained, hforward, hlast]
  · simp [hdrained, hlast]

/-- The cache is right about the device, if there is one. -/
def NswSystem.Coherent (s : NswSystem) : Prop :=
  ∀ d, s.device = some d → CacheRight NeverSent d s.ctx.last

theorem coherent_nswCall {s : NswSystem} (h : s.Coherent) (r : NswRead) : (nswCall A r s).Coherent := by
  intro d hd
  by_cases hf : s.forwards r = true
  · obtain ⟨-, hlast, hdevice⟩ := nswCall_of_forwards A hf
    rw [hdevice] at hd
    obtain ⟨d₀, hd₀, rfl⟩ := Option.map_eq_some_iff.mp hd
    rw [hlast]
    exact (h d₀ hd₀).sent fun k _ => not_neverSent_nswTarget s.settings _ k
  · obtain ⟨hlast, hdevice⟩ := nswCall_of_not_forwards A (by simpa using hf)
    rw [hlast]
    rw [hdevice] at hd
    exact h d hd

/-- Management closes the device, keeps it, or creates one under the condition. -/
theorem coherent_nswManage {s : NswSystem} {uinputOk : Bool} (h : s.Coherent) (uhidOk : Bool)
    (hok : s.creates uinputOk = true → s.ctx.AtRest) : (nswManage uinputOk uhidOk s).Coherent := by
  unfold nswManage
  dsimp only
  split
  · rename_i hemu
    split
    · intro d hd
      cases hd
    · rename_i huhid
      intro d hd
      dsimp only at hd
      cases hdev : s.device with
      | some d₀ =>
          rw [hdev] at hd
          obtain rfl := Option.some.inj hd
          exact h _ hdev
      | none =>
          rw [hdev] at hd
          dsimp only at hd
          split_ifs at hd with hcreate
          obtain rfl := Option.some.inj hd
          have hrest := hok (by simp [NswSystem.creates, hemu, huhid, hdev, hcreate])
          exact hrest
  · intro d hd
    cases hd

/-- **One step keeps the cache right.** -/
theorem coherent_nswStep {move : NswMove} {s t : NswSystem} (h : s.Coherent)
    (hok : CreatesAtRest move s) (hstep : nswStep A move s = some t) : t.Coherent := by
  cases move with
  | read r =>
      obtain rfl := Option.some.inj hstep
      exact coherent_nswCall A h r
  | manage uinputOk uhidOk =>
      obtain rfl := Option.some.inj hstep
      exact coherent_nswManage h uhidOk hok
  | settings c =>
      obtain rfl := Option.some.inj hstep
      exact h
  | restart isBluetooth now =>
      obtain rfl := Option.some.inj hstep
      intro d hd
      cases hd

/-! ## Whole runs -/

/-- A worker that has just started. -/
def nswStart (c : Controller) (isBluetooth : Bool) (now : Timeval) : NswSystem where
  settings := c
  isBluetooth := isBluetooth
  pad := restPad
  ctx := nswInit now
  useUhid := false
  device := none

/-- **Cached forwarding shows the slot.**  In every run of calls, device management, settings changes and
worker restarts whose steps meet `CreatesAtRest`, after a call of `nsw_read_events` that forwards to
uinput the current device shows the slot's buttons, sticks, hat and the triggers of the current mode. -/
theorem nsw_forward_shows_slot (c : Controller) (isBluetooth : Bool) (now : Timeval) {s t : NswSystem}
    (hrun : Run (nswStep A) CreatesAtRest (nswStart c isBluetooth now) s) {r : NswRead}
    (hread : nswStep A (.read r) s = some t) (hforward : s.forwards r = true) :
    ∃ d, t.device = some d ∧
      ∀ k ∈ nswControls t.settings.isTriggerDigital, d k = nswTarget t.settings t.pad k := by
  have hcoherent : s.Coherent := by
    refine hrun.invariant (I := NswSystem.Coherent) ?_ ?_
    · intro move s₁ s₂ h₁ hok hstep
      exact coherent_nswStep A h₁ hok hstep
    · intro d hd
      cases hd
  obtain rfl := Option.some.inj hread
  obtain ⟨hsettings, -, hdevice⟩ := nswCall_of_forwards A hforward
  have hopen : s.device.isSome = true := by
    simp only [NswSystem.forwards, Bool.and_eq_true] at hforward
    exact hforward.1.2
  obtain ⟨d, hd⟩ := Option.isSome_iff_exists.mp hopen
  rw [hd] at hdevice
  refine ⟨_, hdevice, fun k hk => ?_⟩
  rw [hsettings] at hk ⊢
  exact (hcoherent d hd).replay_eq hk (not_neverSent_nswTarget s.settings _ k)

end

/-! ## A button held while the device is replaced -/

/-- Settings with emulation on. -/
def emulating : Controller := { initialController with emulateActive := true }

/-- A worker that has just started, with emulation on. -/
def exampleStart : NswSystem := nswStart emulating false ⟨1, 0⟩

/-- The call that reads one event at a second. -/
def readOne (ev : EvdevEvent) (sec : Int) : NswRead := ⟨[ev], true, ⟨sec, 0⟩⟩

theorem nsw_forward_shows_slot_south :
    ∃ s t, Run (nswStep exampleAxisMath) CreatesAtRest exampleStart s ∧
      nswStep exampleAxisMath (.read (readOne (.key .south 1) 2)) s = some t ∧
      s.forwards (readOne (.key .south 1) 2) = true ∧
      ∃ d, t.device = some d ∧
        ∀ k ∈ nswControls t.settings.isTriggerDigital, d k = nswTarget t.settings t.pad k := by
  have hok : CreatesAtRest (.manage true true) exampleStart := by
    intro _ k
    cases k with
    | absZ => exact Or.inr ⟨Or.inl rfl, rfl⟩
    | absRz => exact Or.inr ⟨Or.inr rfl, rfl⟩
    | _ => exact Or.inl rfl
  have hrun : Run (nswStep exampleAxisMath) CreatesAtRest exampleStart
      (nswManage true true exampleStart) := Run.single hok rfl
  have hforward : (nswManage true true exampleStart).forwards (readOne (.key .south 1) 2) = true := by
    decide +kernel
  exact ⟨_, _, hrun, rfl, hforward,
    nsw_forward_shows_slot exampleAxisMath emulating false ⟨1, 0⟩ hrun rfl hforward⟩

/-- Emulation is switched off and on again while south is held. -/
def recreated : List NswMove :=
  [.manage true true, .read (readOne (.key .south 1) 2),
    .settings { emulating with emulateActive := false }, .manage true true,
    .settings emulating, .manage true true]

/-- The next event forwards, and the new device does not show the button that is down: the cache says
it was sent. -/
theorem button_lost_on_recreation :
    ∃ s t d, Run (nswStep exampleAxisMath) free exampleStart s ∧
      nswStep exampleAxisMath (.read (readOne (.x 100) 3)) s = some t ∧
      s.forwards (readOne (.x 100) 3) = true ∧ t.device = some d ∧
      Control.btnSouth ∈ nswControls t.settings.isTriggerDigital ∧
      d .btnSouth = 0 ∧ nswTarget t.settings t.pad .btnSouth = 1 := by
  obtain ⟨s, hrun, hs⟩ : ∃ s, Run (nswStep exampleAxisMath) free exampleStart s ∧
      (s.forwards (readOne (.x 100) 3) &&
        (nswCall exampleAxisMath (readOne (.x 100) 3) s).device.map (fun d => d .btnSouth) == some 0 &&
        decide (Control.btnSouth ∈ nswControls s.settings.isTriggerDigital) &&
        nswTarget s.settings (nswCall exampleAxisMath (readOne (.x 100) 3) s).pad .btnSouth == 1) = true :=
    exists_run_of_exec
      (p := fun s : NswSystem =>
        s.forwards (readOne (.x 100) 3) &&
          (nswCall exampleAxisMath (readOne (.x 100) 3) s).device.map (fun d => d .btnSouth) == some 0 &&
          decide (Control.btnSouth ∈ nswControls s.settings.isTriggerDigital) &&
          nswTarget s.settings (nswCall exampleAxisMath (readOne (.x 100) 3) s).pad .btnSouth == 1)
      recreated (by decide +kernel)
  simp only [Bool.and_eq_true, beq_iff_eq, decide_eq_true_eq] at hs
  obtain ⟨⟨⟨hforward, hdevice⟩, hmem⟩, htarget⟩ := hs
  obtain ⟨d, hd, hzero⟩ := Option.map_eq_some_iff.mp hdevice
  exact ⟨s, _, d, hrun, rfl, hforward, hd, hmem, hzero, htarget⟩

end Dstx
