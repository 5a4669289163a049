/-
# Dstx.Rumble.Switch — once rumble is off, nothing sent moves a motor.

Rumble is switched off from the three front ends in two ways.  A slot command clears `rumble_active` AND
the motor cells (`SwitchedOff.eq`).  The load of a profile with rumble off stores the switch alone:
the cells go on holding what the last effect left in them.  From there on:

* a force-feedback START is refused, and a stop can only clear the cells;
* on a Switch Pro the cells may still move — a periodic effect goes on being sampled — but
  `nsw_send_rumble` looks at the switch and sends nothing but stops;
* `send_output_report` does NOT look at the switch: it sends whatever the cells hold, and the keep-alive of
  `rumble_process_pipeline` sends it again and again.

So on a DS4 or DualSense everything rests on the cells.  `SwitchOff.LeavesSilent` is the condition that a
load finds nothing in them that would be sent; the two UHID handlers store into them without looking at the
switch either, and `UhidKeepsSilent` is the condition that they store nothing the sender would not scale to
zero.  In every run that meets both, no motor value is sent.
-/
import Dstx.Rumble.Gain
import Dstx.Commands.Changes
import Dstx.Lib.Run

namespace Dstx

open Dstx.Lib

/-! ## Switching off -/

/-- What `profile_apply_to_shm` does to a slot. -/
def Slot.applyProfile (cfg : SlotConfig) (slot : Slot) : Slot :=
  { slot with toController := { slotConfigToController cfg slot.toController with ledDirty := true } }

/-- The ways a front end can switch rumble off. -/
inductive SwitchOff where
  /-- A slot command of the command line. -/
  | cli (name : CStr) (args : List CStr)
  /-- A slot command of the text interface. -/
  | tui (line : CStr)
  /-- A Set call of the D-Bus service. -/
  | dbus (call : DbusSetter)
  /-- A profile load, asked for by any of the three, with what the profile holds for the slot. -/
  | load (cfg : SlotConfig)

/-- What it makes of the slot, if it is accepted. -/
def SwitchOff.apply : SwitchOff → Slot → Option Slot
  | .cli name args, slot => executeSlotCommand slot name args
  | .tui line, slot => runUiSlotCommand slot line
  | .dbus call, slot => dbusSet slot call
  | .load cfg, slot => some (slot.applyProfile cfg)

/-- **Rumble is switched off**: the slot is taken from on to off. -/
structure SwitchedOff (how : SwitchOff) (before after : Slot) : Prop where
  wasOn : before.rumbleActive = true
  isOff : after.rumbleActive = false
  accepted : how.apply before = some after

/-- Only a rumble command touches the switch. -/
theorem SlotChange.rumbleActive_apply {change : SlotChange} (h : ∀ on, change ≠ .rumble on)
    (slot : Slot) : (change.apply slot).rumbleActive = slot.rumbleActive := by
  cases change with
  | rumble on => exact absurd rfl (h on)
  | _ => rfl

/-- A change that switches rumble off is `rumble off`. -/
theorem SlotChange.eq_setRumble {change : SlotChange} {before : Slot} (hon : before.rumbleActive = true)
    (hoff : (change.apply before).rumbleActive = false) : change.apply before = before.setRumble false := by
  by_cases hrumble : ∃ on, change = .rumble on
  · obtain ⟨on, rfl⟩ := hrumble
    cases on with
    | false => rfl
    | true =>
        have hstays : true = false := hoff
        cases hstays
  · have hne : ∀ on, change ≠ .rumble on := fun on heq => hrumble ⟨on, heq⟩
    rw [SlotChange.rumbleActive_apply hne, hon] at hoff
    cases hoff

/-- **A slot command that switches rumble off clears the motor cells with it**; a load stores its
profile. -/
theorem SwitchedOff.eq {how : SwitchOff} {before after : Slot} (h : SwitchedOff how before after) :
    after = before.setRumble false ∨ ∃ cfg, how = .load cfg ∧ after = before.applyProfile cfg := by
  have hcommand : ∀ change : SlotChange, after = change.apply before → after = before.setRumble false := by
    rintro change rfl
    exact SlotChange.eq_setRumble h.wasOn h.isOff
  cases how with
  | cli name args =>
      obtain ⟨change, heq, _⟩ := executeSlotCommand_change h.accepted
      exact Or.inl (hcommand change heq)
  | tui line =>
      obtain ⟨change, heq, _⟩ := runUiSlotCommand_change h.accepted
      exact Or.inl (hcommand change heq)
  | dbus call =>
      obtain ⟨change, heq, _⟩ := dbusSet_change h.accepted
      exact Or.inl (hcommand change heq)
  | load cfg => exact Or.inr ⟨cfg, rfl, (Option.some.inj h.accepted).symm⟩

/-! ## Runs -/

/-- Who moves. -/
inductive OutputMove where
  /-- The worker handles an event of the uinput or the UHID device. -/
  | feedback (ev : Feedback)
  | rumblePipeline (env : PipelineEnv)
  | ledPipeline (env : PipelineEnv)

/-- **One step of the worker.** -/
def outputStep (crc32 : UInt32 → List UInt8 → UInt32) (W : WaveMath) (move : OutputMove)
    (w : OutputWorld) : Option OutputWorld :=
  match move with
  | .feedback ev => some { w with slot := ev.handle W w.slot }
  | .rumblePipeline env => some (rumbleProcessPipeline crc32 W env w).1
  | .ledPipeline env => some (ledProcessPipeline crc32 env w).1

/-- What is sent carries no motor value. -/
def Sent.MotorsOff : Sent → Prop
  | .report r => r.motors = ⟨0, 0⟩
  | .effect strong weak => strong = 0 ∧ weak = 0
  | .play _ => False
  | .stop _ => True

/-- The value `v`, scaled by the gain when it is stored (in a byte) and by the validated gain when it is
sent, is zero. -/
def VanishesAt (gain v : UInt8) : Prop :=
  v.toNat * gain.toNat / 100 % 256 * min gain.toNat 100 < 100

instance (gain v : UInt8) : Decidable (VanishesAt gain v) := inferInstanceAs (Decidable (_ < _))

/-- **The condition on a step**: on a DS4 or DualSense slot, a UHID event asks for no motor value that
does not vanish at the slot's gain. -/
def UhidKeepsSilent (move : OutputMove) (w : OutputWorld) : Prop :=
  match move with
  | .feedback (.uhid ev) =>
      w.slot.type ≠ .nswPro → ∀ m, uhidRequest ev = some m →
        VanishesAt w.slot.rumbleGain m.strong ∧ VanishesAt w.slot.rumbleGain m.weak
  | _ => True

/-- The value `v` of a motor cell, scaled by the validated gain when it is sent, is zero. -/
def SentAsZero (gain v : UInt8) : Prop := v.toNat * min gain.toNat 100 < 100

instance (gain v : UInt8) : Decidable (SentAsZero gain v) := inferInstanceAs (Decidable (_ < _))

/-- **The condition on the switch**: a load finds in the cells of a DS4 or DualSense slot nothing that would
be sent at the profile's gain. -/
def SwitchOff.LeavesSilent : SwitchOff → Slot → Prop
  | .load cfg, before =>
      before.type ≠ .nswPro →
        SentAsZero cfg.rumbleGain before.rumbleStrong ∧ SentAsZero cfg.rumbleGain before.rumbleWeak
  | _, _ => True

/-! ## Scaling twice -/

section Scaling

variable {v gain : UInt8}

/-- The validated gain is the smaller of the gain and 100. -/
theorem clampU8_gain_toNat (gain : UInt8) :
    (clampU8 gain.toNat 0 100 100).toNat = min gain.toNat 100 := by
  by_cases h : gain ≤ 100
  · have hg : gain.toNat ≤ 100 := h
    rw [clampU8_gain h, min_eq_left hg]
  · have hg : ¬gain.toNat ≤ 100 := h
    have hout : (gain.toNat : Int) < (0 : UInt8).toNat ∨ (gain.toNat : Int) > (100 : UInt8).toNat := by
      have h100 : (100 : UInt8).toNat = 100 := rfl
      omega
    have hmin : min gain.toNat 100 = 100 := by omega
    rw [clampU8, if_pos hout, hmin]
    rfl

/-- A vanishing value is sent as zero. -/
theorem VanishesAt.scale_scale (h : VanishesAt gain v) :
    scalePercent (scalePercent v gain) (clampU8 gain.toNat 0 100 100) = 0 := by
  have hsmall : v.toNat * gain.toNat / 100 % 256 * min gain.toNat 100 < 100 := h
  have hzero : (scalePercent (scalePercent v gain) (clampU8 gain.toNat 0 100 100)).toNat = 0 := by
    rw [scalePercent_toNat_mod, scalePercent_toNat_mod, clampU8_gain_toNat,
      Nat.div_eq_of_lt hsmall]
  exact UInt8.toNat_inj.mp hzero

/-- A cell that is sent as zero. -/
theorem SentAsZero.scale (h : SentAsZero gain v) :
    scalePercent v (clampU8 gain.toNat 0 100 100) = 0 := by
  have hsmall : v.toNat * min gain.toNat 100 < 100 := h
  have hzero : (scalePercent v (clampU8 gain.toNat 0 100 100)).toNat = 0 := by
    rw [scalePercent_toNat_mod, clampU8_gain_toNat, Nat.div_eq_of_lt hsmall]
  exact UInt8.toNat_inj.mp hzero

theorem scale_zero (percent : UInt8) : Motors.scale ⟨0, 0⟩ percent = ⟨0, 0⟩ := by
  have hzero : scalePercent 0 percent = 0 := by
    refine UInt8.toNat_inj.mp ?_
    rw [scalePercent_toNat_mod]
    show 0 * percent.toNat / 100 % 256 = 0
    simp
  rw [Motors.scale, hzero]

/-- What is sent for a slot depends on the motor cells and the gain. -/
theorem gainedMotors_congr {a b : Slot} (hmotors : a.motors = b.motors)
    (hgain : a.rumbleGain = b.rumbleGain) : a.gainedMotors = b.gainedMotors := by
  rw [Slot.gainedMotors, Slot.gainedMotors, hmotors, hgain]

end Scaling

/-! ## The invariant -/

/-- **Rumble stays off**: the switch is off; the cells of a DS4 or DualSense would be sent as zero; and
nothing sent so far carries a motor value. -/
structure RumbleOff (w : OutputWorld) : Prop where
  off : w.slot.rumbleActive = false
  cells : w.slot.type ≠ .nswPro → w.slot.toSlot.gainedMotors = ⟨0, 0⟩
  sent : ∀ m ∈ w.sent, m.MotorsOff

section Steps

variable {crc32 : UInt32 → List UInt8 → UInt32} {W : WaveMath} {w : OutputWorld}

/-- With rumble off, a force-feedback event leaves the cells alone or clears them. -/
theorem motors_handleFf_off {s : FfSlot} (hoff : s.rumbleActive = false) (ev : FfEvent) :
    (handleFf W s ev).toSlot.motors = s.toSlot.motors ∨
      (handleFf W s ev).toSlot.motors = ⟨0, 0⟩ := by
  cases ev with
  | upload begun =>
      left
      show (rumbleHandleFfUpload begun s).1.toSlot.motors = s.toSlot.motors
      rw [(rumbleHandleFfUpload_frame begun s).1]
  | other => exact Or.inl rfl
  | play code value now =>
      show (rumbleHandleFfEvent W code value now s).toSlot.motors = _ ∨
        (rumbleHandleFfEvent W code value now s).toSlot.motors = _
      rcases rumbleHandleFfEvent_cases W code value now s with h | ⟨i, hon, _⟩ | ⟨i, hon, _⟩ | h
      · exact Or.inl (by rw [h])
      · rw [hoff] at hon
        cases hon
      · rw [hoff] at hon
        cases hon
      · rw [h]
        exact Or.inr rfl

theorem storeUhidMotors_frame (data : List UInt8) (slot : Slot) :
    (storeUhidMotors data slot).toController = slot.toController ∧
      (storeUhidMotors data slot).type = slot.type := by
  unfold storeUhidMotors
  split <;> exact ⟨rfl, rfl⟩

theorem handleUhid_frame (ev : UhidEvent) (slot : Slot) :
    (handleUhid slot ev).toController = slot.toController ∧ (handleUhid slot ev).type = slot.type := by
  cases ev with
  | output data => exact storeUhidMotors_frame data slot
  | setReport rtype data =>
      show (uhidHandleSetReport rtype data slot).toController = _ ∧
        (uhidHandleSetReport rtype data slot).type = _
      unfold uhidHandleSetReport
      split_ifs
      · exact storeUhidMotors_frame data slot
      · exact ⟨rfl, rfl⟩
  | other => exact ⟨rfl, rfl⟩

/-- A UHID event that asks for nothing leaves the cells alone. -/
theorem motors_handleUhid_none {ev : UhidEvent} {slot : Slot} (hreq : uhidRequest ev = none) :
    (handleUhid slot ev).motors = slot.motors := by
  have hstore : ∀ data, reportRequest data = none → storeUhidMotors data slot = slot := by
    intro data hdata
    unfold storeUhidMotors
    split
    · cases hdata
    · rfl
  cases ev with
  | output data =>
      show (storeUhidMotors data slot).motors = slot.motors
      rw [hstore data hreq]
  | setReport rtype data =>
      change (if rtype = 2 then reportRequest data else none) = none at hreq
      show (uhidHandleSetReport rtype data slot).motors = slot.motors
      unfold uhidHandleSetReport
      split_ifs at hreq ⊢
      · rw [hstore data hreq]
      · rfl
  | other => rfl

/-- **A handled event** keeps rumble off. -/
theorem RumbleOff.feedback (h : RumbleOff w) {ev : Feedback} (hok : UhidKeepsSilent (.feedback ev) w) :
    RumbleOff { w with slot := ev.handle W w.slot } := by
  cases ev with
  | uinput ev =>
      obtain ⟨hsettings, htype⟩ := handleFf_frame (W := W) (s := w.slot) ev
      refine ⟨(congrArg Controller.rumbleActive hsettings).trans h.off, fun hds => ?_, h.sent⟩
      have hcells := h.cells (htype ▸ hds)
      have hgain : (handleFf W w.slot ev).rumbleGain = w.slot.rumbleGain :=
        congrArg Controller.rumbleGain hsettings
      rcases motors_handleFf_off (W := W) h.off ev with hmotors | hmotors
      · exact (gainedMotors_congr hmotors hgain).trans hcells
      · show (handleFf W w.slot ev).toSlot.gainedMotors = ⟨0, 0⟩
        rw [Slot.gainedMotors, hmotors, scale_zero]
  | uhid ev =>
      obtain ⟨hsettings, htype⟩ := handleUhid_frame ev w.slot.toSlot
      refine ⟨(congrArg Controller.rumbleActive hsettings).trans h.off, fun hds => ?_, h.sent⟩
      have hds' : w.slot.type ≠ .nswPro := htype ▸ hds
      have hgain : (handleUhid w.slot.toSlot ev).rumbleGain = w.slot.rumbleGain :=
        congrArg Controller.rumbleGain hsettings
      show (handleUhid w.slot.toSlot ev).gainedMotors = ⟨0, 0⟩
      cases hreq : uhidRequest ev with
      | none => exact (gainedMotors_congr (motors_handleUhid_none hreq) hgain).trans (h.cells hds')
      | some m =>
          obtain ⟨hstrong, hweak⟩ := hok hds' m hreq
          rw [Slot.gainedMotors, motors_handleUhid hreq, hgain]
          exact congrArg₂ Motors.mk hstrong.scale_scale hweak.scale_scale

/-- With rumble off, nothing but a stop goes to a Switch Pro controller. -/
theorem nswSendRumble_off {slot : Slot} (hoff : slot.rumbleActive = false) (r : NswReplies)
    (ctx : NswRumble) : ∀ m ∈ (nswSendRumble r slot ctx).2, m.MotorsOff := by
  have hstops : ∀ m ∈ ctx.stopSent, m.MotorsOff := by
    intro m hm
    obtain ⟨id, _, rfl⟩ := List.mem_map.mp hm
    trivial
  have hnone : ∀ m ∈ ([] : List Sent), m.MotorsOff := fun m hm => absurd hm List.not_mem_nil
  have hclosed : (!slot.rumbleActive) = true := by simp [hoff]
  unfold nswSendRumble
  rw [if_pos hclosed]
  split
  · exact hnone
  · split
    · exact hnone
    · exact hstops

/-- With the cells at zero, a sent report carries no motor value. -/
theorem RumbleOff.report (h : RumbleOff w) (fd : Bool) :
    ∀ m ∈ ((sendOutputReport crc32 fd w.slot.toSlot).map Sent.report).toList, m.MotorsOff := by
  intro m hm
  obtain ⟨report, hsent, rfl⟩ := Option.map_eq_some_iff.mp (Option.mem_toList.mp hm)
  obtain ⟨htype, hmotors⟩ := motors_sendOutputReport hsent
  exact hmotors.trans (h.cells htype)

/-- The sampling of a periodic effect touches nothing on a DS4 or DualSense, and no setting. -/
theorem updatePeriodic_frame (now : Timeval) (s : FfSlot) :
    (updatePeriodic W now s).toController = s.toController ∧ (updatePeriodic W now s).type = s.type ∧
      (s.type ≠ .nswPro → updatePeriodic W now s = s) := by
  unfold updatePeriodic
  split
  · rename_i hnsw
    have hds : ∀ t : FfSlot, s.type ≠ .nswPro → t = s := fun t hds => absurd hnsw.1 hds
    split
    · exact ⟨rfl, rfl, fun _ => rfl⟩
    · dsimp only
      split
      · exact ⟨rfl, rfl, hds _⟩
      · exact ⟨rfl, rfl, fun _ => rfl⟩
  · exact ⟨rfl, rfl, fun _ => rfl⟩

theorem RumbleOff.append (h : RumbleOff w) {sent : List Sent} (hsent : ∀ m ∈ sent, m.MotorsOff) :
    ∀ m ∈ w.sent ++ sent, m.MotorsOff := by
  intro m hm
  rcases List.mem_append.mp hm with hold | hnew
  · exact h.sent m hold
  · exact hsent m hnew

/-- **The rumble pipeline** keeps rumble off. -/
theorem RumbleOff.rumblePipeline (h : RumbleOff w) (env : PipelineEnv) :
    RumbleOff (rumbleProcessPipeline crc32 W env w).1 := by
  obtain ⟨hsettings, htype, hds⟩ := updatePeriodic_frame (W := W) env.now w.slot
  have hs : RumbleOff { w with slot := updatePeriodic W env.now w.slot } := by
    refine ⟨(congrArg Controller.rumbleActive hsettings).trans h.off, fun hne => ?_, h.sent⟩
    have hne' : w.slot.type ≠ .nswPro := htype ▸ hne
    show (updatePeriodic W env.now w.slot).toSlot.gainedMotors = _
    rw [hds hne']
    exact h.cells hne'
  unfold rumbleProcessPipeline
  dsimp only
  split_ifs
  · exact ⟨hs.off, hs.cells, hs.append (nswSendRumble_off hs.off env.nsw w.nsw)⟩
  · exact ⟨hs.off, hs.cells, hs.append (hs.report env.fd)⟩
  · exact hs

/-- **The LED pipeline** keeps rumble off. -/
theorem RumbleOff.ledPipeline (h : RumbleOff w) (env : PipelineEnv) :
    RumbleOff (ledProcessPipeline crc32 env w).1 := by
  unfold ledProcessPipeline
  dsimp only
  split_ifs
  all_goals first
    | exact h
    | exact ⟨h.off, h.cells, h.append (h.report env.fd)⟩

/-- **One step.** -/
theorem RumbleOff.step {w' : OutputWorld} {move : OutputMove} (h : RumbleOff w)
    (hok : UhidKeepsSilent move w) (hstep : outputStep crc32 W move w = some w') : RumbleOff w' := by
  cases move with
  | feedback ev =>
      obtain rfl := Option.some.inj hstep
      exact h.feedback hok
  | rumblePipeline env =>
      obtain rfl := Option.some.inj hstep
      exact h.rumblePipeline env
  | ledPipeline env =>
      obtain rfl := Option.some.inj hstep
      exact h.ledPipeline env

/-- Right after the switch nothing has been sent, and nothing in the cells would be. -/
theorem SwitchedOff.rumbleOff {how : SwitchOff} {before : Slot}
    (h : SwitchedOff how before w.slot.toSlot) (hsilent : how.LeavesSilent before) (hsent : w.sent = []) :
    RumbleOff w where
  off := h.isOff
  cells := fun hds => by
    rcases h.eq with hcommand | ⟨cfg, rfl, hload⟩
    · have hmotors : w.slot.toSlot.motors = ⟨0, 0⟩ := by
        rw [hcommand]
        rfl
      rw [Slot.gainedMotors, hmotors, scale_zero]
    · have htype : before.type ≠ .nswPro := fun hnsw => hds (by rw [hload]; exact hnsw)
      obtain ⟨hstrong, hweak⟩ := hsilent htype
      rw [hload]
      exact congrArg₂ Motors.mk hstrong.scale hweak.scale
  sent := by
    rw [hsent]
    exact fun m hm => absurd hm List.not_mem_nil

end Steps

/-- **Once rumble is switched off, nothing sent to the controller carries a motor value**: where the switch
leaves nothing to send, in every run of force-feedback events, UHID events and pipeline steps whose UHID
events keep it silent.  The log of what is sent starts at the switch. -/
theorem switched_off_stays_silent (crc32 : UInt32 → List UInt8 → UInt32) (W : WaveMath)
    {how : SwitchOff} {before : Slot} {w w' : OutputWorld} (hoff : SwitchedOff how before w.slot.toSlot)
    (hsilent : how.LeavesSilent before) (hsent : w.sent = [])
    (hrun : Run (outputStep crc32 W) UhidKeepsSilent w w') :
    ∀ m ∈ w'.sent, m.MotorsOff := by
  have hinv : RumbleOff w' :=
    hrun.invariant (I := RumbleOff) (fun _ _ _ h hok hstep => h.step hok hstep)
      (hoff.rumbleOff hsilent hsent)
  exact hinv.sent

/-! ## What still moves the motors -/

/-- A worker whose slot was just changed, with nothing sent since. -/
def exampleWorker (slot : FfSlot) : OutputWorld where
  slot := slot
  lastRumbleTime := ⟨0, 0⟩
  lastLedTime := ⟨0, 0⟩
  lastExternalRetry := ⟨0, 0⟩
  nsw :=
    { ready := false
      connected := false
      effectId := none
      lastStrong := 0
      lastWeak := 0
      lastRumbleTime := ⟨0, 0⟩ }
  sent := []

/-- A DualSense worker right after `rumble off`. -/
def exampleOff : OutputWorld :=
  exampleWorker { exampleFfSlot with toSlot := exampleFfSlot.toSlot.setRumble false }

/-- The DualSense while an effect plays. -/
def playingSlot : FfSlot := { exampleFfSlot with rumbleStrong := 255, rumbleWeak := 255 }

/-- The initial settings, with rumble off. -/
def quietConfig : SlotConfig := { controllerToSlotConfig initialController with rumbleActive := false }

/-- The worker right after the load of a profile with these settings. -/
def exampleLoaded (slot : FfSlot) : OutputWorld :=
  exampleWorker { slot with toSlot := slot.toSlot.applyProfile quietConfig }

/-- A pipeline step one second later. -/
def exampleEnv : PipelineEnv where
  now := ⟨1, 0⟩
  fd := true
  nsw :=
    { hangup := false
      now := ⟨1, 0⟩
      stopWritten := true
      uploaded := none
      playWritten := true }

theorem exampleOff_switchedOff :
    SwitchedOff (.cli "rumble".toList ["off".toList]) exampleFfSlot.toSlot exampleOff.slot.toSlot where
  wasOn := rfl
  isOff := rfl
  accepted := rfl

theorem exampleLoaded_switchedOff (slot : FfSlot) (hon : slot.rumbleActive = true) :
    SwitchedOff (.load quietConfig) slot.toSlot (exampleLoaded slot).slot.toSlot where
  wasOn := hon
  isOff := rfl
  accepted := rfl

/-- After `rumble off`, and after a load that finds the motors at rest: an upload, a start — refused — and a
pipeline step, which sends a report with both motors off. -/
theorem switched_off_stays_silent_start :
    (∃ w', Run (outputStep exampleCrc exampleWave) UhidKeepsSilent exampleOff w' ∧
      w'.sent.length = 1 ∧ ∀ m ∈ w'.sent, m.MotorsOff) ∧
    ∃ w', Run (outputStep exampleCrc exampleWave) UhidKeepsSilent (exampleLoaded exampleFfSlot) w' ∧
      w'.slot.ledDirty = false ∧ w'.sent.length = 1 ∧ ∀ m ∈ w'.sent, m.MotorsOff := by
  constructor
  · have hrun : ∃ w', Run (outputStep exampleCrc exampleWave) UhidKeepsSilent exampleOff w' ∧
        w'.sent.length = 1 :=
      ⟨_, .tail (.tail (.tail (.refl _)
        (a := .feedback (.uinput (.upload (some ⟨0, .rumble 0xFFFF 0xFFFF⟩)))) trivial rfl)
        (a := .feedback (.uinput (.play 0 1 ⟨0, 0⟩))) trivial rfl)
        (a := .rumblePipeline exampleEnv) trivial rfl, by decide +kernel⟩
    obtain ⟨w', hrun, hlength⟩ := hrun
    exact ⟨w', hrun, hlength,
      switched_off_stays_silent exampleCrc exampleWave exampleOff_switchedOff trivial rfl hrun⟩
  · have hrun : ∃ w', Run (outputStep exampleCrc exampleWave) UhidKeepsSilent (exampleLoaded exampleFfSlot)
        w' ∧ w'.slot.ledDirty = false ∧ w'.sent.length = 1 :=
      ⟨_, .tail (.tail (.tail (.refl _)
        (a := .feedback (.uinput (.upload (some ⟨0, .rumble 0xFFFF 0xFFFF⟩)))) trivial rfl)
        (a := .feedback (.uinput (.play 0 1 ⟨0, 0⟩))) trivial rfl)
        (a := .ledPipeline exampleEnv) trivial rfl, by decide +kernel⟩
    obtain ⟨w', hrun, hled, hlength⟩ := hrun
    exact ⟨w', hrun, hled, hlength,
      switched_off_stays_silent exampleCrc exampleWave (exampleLoaded_switchedOff exampleFfSlot rfl)
        (fun _ => by decide +kernel) rfl hrun⟩

/-- A UHID output report at full strength arrives after `rumble off`, or a profile with rumble off is loaded
while the motors turn: the next pipeline step sends the motor values. -/
theorem motors_move_when_off :
    (SwitchedOff (.cli "rumble".toList ["off".toList]) exampleFfSlot.toSlot exampleOff.slot.toSlot ∧
      exampleOff.sent = [] ∧
      ∃ w report, Run (outputStep exampleCrc exampleWave) free exampleOff w ∧
        w.slot.rumbleActive = false ∧ w.sent = [.report report] ∧ report.motors = ⟨255, 255⟩) ∧
    (SwitchedOff (.load quietConfig) playingSlot.toSlot (exampleLoaded playingSlot).slot.toSlot ∧
      (exampleLoaded playingSlot).sent = [] ∧
      ∃ w report, Run (outputStep exampleCrc exampleWave) UhidKeepsSilent (exampleLoaded playingSlot) w ∧
        w.slot.rumbleActive = false ∧ w.sent = [.report report] ∧ report.motors = ⟨255, 255⟩) := by
  refine ⟨⟨exampleOff_switchedOff, rfl, ?_⟩, exampleLoaded_switchedOff playingSlot rfl, rfl, ?_⟩
  · exact ⟨_, _, .tail (.tail (.refl _)
      (a := .feedback (.uhid (.output [1, 255, 255]))) trivial rfl)
      (a := .rumblePipeline exampleEnv) trivial rfl, by decide +kernel, rfl, by decide +kernel⟩
  · exact ⟨_, _, .tail (.refl _) (a := .rumblePipeline exampleEnv) trivial rfl, by decide +kernel, rfl,
      by decide +kernel⟩

end Dstx
