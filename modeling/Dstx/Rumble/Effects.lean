/-
# Dstx.Rumble.Effects — force feedback: the sixteen effects of a slot, upload, start and stop.

A game uploads an effect under an id, starts it and stops it.  A RUMBLE effect carries the two motor
values; a PERIODIC one a wave, whose value is sent to the strong motor above 127 and to the weak motor
up to 127.  The slot remembers in `active_effect_id` which effect is playing, and a stop clears the
motors only when it is for that effect.

But only a periodic start writes `active_effect_id`: a rumble start stores -1 there.  So the stop of a
rumble effect finds nothing to stop, and the motors keep their values.  `stop_silences_iff` is the
exact condition; the whole bookkeeping is in `silent_handleFfAll_iff`, which says what a sequence
without starts can do.
-/
import Dstx.Device
import Dstx.Led.Engine

namespace Dstx

/-! ## Effects -/

/-- `effect_type` and `active_effect_type`: 0, 1 or 2. -/
inductive EffectKind where
  | none
  | rumble
  | periodic
  deriving DecidableEq

/-- The values of the two motors. -/
structure Motors where
  strong : UInt8
  weak : UInt8
  deriving DecidableEq

/-- `periodic_effect_t`. -/
structure PeriodicEffect where
  active : Bool
  waveform : UInt16
  period : UInt16
  magnitude : Int
  offset : Int
  phase : UInt16
  startTime : Timeval
  lastValue : UInt8
  leftFreq : UInt16
  rightFreq : UInt16

/-- **The effect fields of `controller_t`.**  `active_effect_id` is -1 or one of the sixteen ids. -/
structure Effects where
  ffEffects : Fin 16 → Motors
  periodicEffects : Fin 16 → PeriodicEffect
  effectType : Fin 16 → EffectKind
  activeEffectId : Option (Fin 16)
  activeEffectType : EffectKind

/-- **A slot with its effects.** -/
structure FfSlot extends Slot, Effects

/-- The motor cells. -/
def Slot.motors (slot : Slot) : Motors := ⟨slot.rumbleStrong, slot.rumbleWeak⟩

/-- Both motor cells are zero. -/
def Slot.Silent (slot : Slot) : Prop := slot.rumbleStrong = 0 ∧ slot.rumbleWeak = 0

instance (slot : Slot) : Decidable slot.Silent := inferInstanceAs (Decidable (_ ∧ _))

/-- The index check `effect_id >= 0 && effect_id < 16`. -/
def effectIndex (id : Int) : Option (Fin 16) :=
  if h : 0 ≤ id ∧ id < 16 then some ⟨id.toNat, by omega⟩ else none

/-! ## The wave -/

/-- The floating-point part of `compute_periodic_wave`: waveform, period (ms), magnitude and offset,
and the microseconds into the period. -/
abbrev WaveMath := UInt16 → UInt16 → Int → Int → Int → UInt8

/-- **`compute_periodic_wave`**; `%` is C's. -/
def computePeriodicWave (W : WaveMath) (p : PeriodicEffect) (now : Timeval) : UInt8 :=
  let elapsedUs := timevalDiffUs now p.startTime
  let periodUs : Int := p.period.toNat * 1000
  if periodUs ≤ 0 then 0
  else W p.waveform p.period p.magnitude p.offset (elapsedUs.tmod periodUs)

/-- The two channels of a wave value. -/
def splitWave (waveValue : UInt8) : Motors :=
  if waveValue > 127 then ⟨waveValue, 0⟩ else ⟨0, waveValue⟩

/-- Store motor values. -/
def FfSlot.setMotors (s : FfSlot) (m : Motors) : FfSlot :=
  { s with rumbleStrong := m.strong, rumbleWeak := m.weak }

/-- **`apply_wave_to_rumble`**. -/
def applyWaveToRumble (s : FfSlot) (waveValue : UInt8) : FfSlot := s.setMotors (splitWave waveValue)

/-! ## Events -/

/-- The `u` of an uploaded `ff_effect`, by its type. -/
inductive FfBody where
  | rumble (strongMagnitude weakMagnitude : UInt16)
  | periodic (waveform period : UInt16) (magnitude offset : Int) (phase : UInt16)
  /-- A type that is not supported. -/
  | other

/-- The effect that `UI_BEGIN_FF_UPLOAD` hands over. -/
structure FfUpload where
  id : Int
  body : FfBody

/-- **An event read from the uinput device.** -/
inductive FfEvent where
  /-- `EV_UINPUT`, `UI_FF_UPLOAD`; nothing is handed over when the `ioctl` fails. -/
  | upload (begun : Option FfUpload)
  /-- `EV_FF`, at the time `now`. -/
  | play (code : UInt16) (value : Int) (now : Timeval)
  | other

/-- A start. -/
def FfEvent.IsStart : FfEvent → Prop
  | .play _ value _ => 0 < value
  | _ => False

/-- A stop of effect `i`. -/
def FfEvent.Stops (i : Fin 16) : FfEvent → Prop
  | .play code value _ => ¬0 < value ∧ effectIndex code.toNat = some i
  | _ => False

/-- The motor values a rumble effect asks for: the high bytes. -/
def rumbleValues (strongMagnitude weakMagnitude : UInt16) : Motors :=
  ⟨(strongMagnitude >>> 8).toUInt8, (weakMagnitude >>> 8).toUInt8⟩

/-- **`rumble_handle_ff_upload`**: the slot, and whether an effect was stored. -/
def rumbleHandleFfUpload (begun : Option FfUpload) (s : FfSlot) : FfSlot × Bool :=
  match begun with
  | none => (s, false)
  | some upload =>
      match effectIndex upload.id with
      | none => (s, false)
      | some i =>
          match upload.body with
          | .rumble strong weak =>
              ({ s with
                  effectType := Function.update s.effectType i .rumble
                  ffEffects := Function.update s.ffEffects i (rumbleValues strong weak) }, true)
          | .periodic waveform period magnitude offset phase =>
              -- `start_time` is left as it was
              ({ s with
                  effectType := Function.update s.effectType i .periodic
                  periodicEffects :=
                    Function.update s.periodicEffects i
                      { active := false
                        waveform := waveform
                        period := period
                        magnitude := magnitude
                        offset := offset
                        phase := phase
                        startTime := (s.periodicEffects i).startTime
                        lastValue := 0
                        leftFreq := 0
                        rightFreq := 0 } }, true)
          | .other => (s, false)

/-- The start of a rumble effect. -/
def startRumble (i : Fin 16) (s : FfSlot) : FfSlot :=
  { s.setMotors (s.ffEffects i) with
    rumbleDirty := true
    activeEffectId := none
    activeEffectType := .none }

/-- The start of a periodic effect. -/
def startPeriodic (W : WaveMath) (i : Fin 16) (now : Timeval) (s : FfSlot) : FfSlot :=
  let p := { s.periodicEffects i with startTime := now, active := true }
  let firstVal := computePeriodicWave W p now
  { applyWaveToRumble s firstVal with
    activeEffectId := some i
    activeEffectType := .periodic
    periodicEffects := Function.update s.periodicEffects i { p with lastValue := firstVal }
    rumbleDirty := true }

/-- The stop of the effect that is playing. -/
def stopEffect (s : FfSlot) : FfSlot :=
  { s.setMotors ⟨0, 0⟩ with
    activeEffectId := none
    activeEffectType := .none
    rumbleDirty := true }

/-- **`rumble_handle_ff_event`**.  With rumble switched off only a value of exactly 0 passes. -/
def rumbleHandleFfEvent (W : WaveMath) (code : UInt16) (value : Int) (now : Timeval) (s : FfSlot) :
    FfSlot :=
  if !s.rumbleActive && value != 0 then s
  else
    match effectIndex code.toNat with
    | none => s
    | some i =>
        if 0 < value then
          match s.effectType i with
          | .rumble => startRumble i s
          | .periodic => startPeriodic W i now s
          | .none => s
        else if s.activeEffectId = some i then stopEffect s
        else s

/-- The worker's dispatch of one event. -/
def handleFf (W : WaveMath) (s : FfSlot) : FfEvent → FfSlot
  | .upload begun => (rumbleHandleFfUpload begun s).1
  | .play code value now => rumbleHandleFfEvent W code value now s
  | .other => s

/-- A sequence of events. -/
def handleFfAll (W : WaveMath) (evs : List FfEvent) (s : FfSlot) : FfSlot := evs.foldl (handleFf W) s

/-! ## What an event leaves alone -/

section Events

variable {W : WaveMath} {s : FfSlot} {ev : FfEvent} {evs : List FfEvent}

/-- An upload stores effects, and touches neither the settings, nor the cells, nor what is playing. -/
theorem rumbleHandleFfUpload_frame (begun : Option FfUpload) (s : FfSlot) :
    (rumbleHandleFfUpload begun s).1.toSlot = s.toSlot ∧
      (rumbleHandleFfUpload begun s).1.activeEffectId = s.activeEffectId := by
  unfold rumbleHandleFfUpload
  split
  · exact ⟨rfl, rfl⟩
  · split
    · exact ⟨rfl, rfl⟩
    · split <;> exact ⟨rfl, rfl⟩

/-- With rumble switched on no event is refused. -/
theorem not_refused (hon : s.rumbleActive = true) (value : Int) :
    ¬((!s.rumbleActive && value != 0) = true) := by
  simp [hon]

/-- **What an event can do**: nothing, start an effect — only with rumble switched on — or stop the one
that is playing. -/
theorem rumbleHandleFfEvent_cases (W : WaveMath) (code : UInt16) (value : Int) (now : Timeval)
    (s : FfSlot) :
    rumbleHandleFfEvent W code value now s = s ∨
      (∃ i, s.rumbleActive = true ∧ rumbleHandleFfEvent W code value now s = startRumble i s) ∨
      (∃ i, s.rumbleActive = true ∧
        rumbleHandleFfEvent W code value now s = startPeriodic W i now s) ∨
      rumbleHandleFfEvent W code value now s = stopEffect s := by
  unfold rumbleHandleFfEvent
  split
  · exact Or.inl rfl
  · rename_i hopen
    split
    · exact Or.inl rfl
    · rename_i i _
      split
      · rename_i hstart
        have hon : s.rumbleActive = true := by
          have hne : value ≠ 0 := by omega
          simpa [hne] using hopen
        split
        · exact Or.inr (Or.inl ⟨i, hon, rfl⟩)
        · exact Or.inr (Or.inr (Or.inl ⟨i, hon, rfl⟩))
        · exact Or.inl rfl
      · split
        · exact Or.inr (Or.inr (Or.inr rfl))
        · exact Or.inl rfl

/-- The settings and the identity of the slot are left alone. -/
theorem handleFf_frame (ev : FfEvent) :
    (handleFf W s ev).toController = s.toController ∧ (handleFf W s ev).type = s.type := by
  cases ev with
  | upload begun =>
      show (rumbleHandleFfUpload begun s).1.toController = _ ∧ (rumbleHandleFfUpload begun s).1.type = _
      rw [(rumbleHandleFfUpload_frame begun s).1]
      exact ⟨rfl, rfl⟩
  | other => exact ⟨rfl, rfl⟩
  | play code value now =>
      show (rumbleHandleFfEvent W code value now s).toController = _ ∧
        (rumbleHandleFfEvent W code value now s).type = _
      rcases rumbleHandleFfEvent_cases W code value now s with h | ⟨i, _, h⟩ | ⟨i, _, h⟩ | h <;> rw [h] <;>
        exact ⟨rfl, rfl⟩

theorem handleFf_rumbleActive (ev : FfEvent) : (handleFf W s ev).rumbleActive = s.rumbleActive :=
  congrArg Controller.rumbleActive (handleFf_frame ev).1

theorem handleFfAll_rumbleActive (evs : List FfEvent) (s : FfSlot) :
    (handleFfAll W evs s).rumbleActive = s.rumbleActive := by
  induction evs generalizing s with
  | nil => rfl
  | cons ev evs ih =>
      show (handleFfAll W evs (handleFf W s ev)).rumbleActive = s.rumbleActive
      rw [ih, handleFf_rumbleActive]

/-! ## Sequences without a start -/

theorem silent_stopEffect (s : FfSlot) : (stopEffect s).toSlot.Silent := ⟨rfl, rfl⟩

/-- **An event that is no start** stops the effect that is playing, or leaves the motors and the
bookkeeping as they are. -/
theorem handleFf_of_not_isStart (hon : s.rumbleActive = true) (hev : ¬ev.IsStart) :
    (∃ i, s.activeEffectId = some i ∧ ev.Stops i ∧ handleFf W s ev = stopEffect s) ∨
      ((∀ i, s.activeEffectId = some i → ¬ev.Stops i) ∧
        (handleFf W s ev).toSlot.motors = s.toSlot.motors ∧
        (handleFf W s ev).activeEffectId = s.activeEffectId) := by
  cases ev with
  | upload begun =>
      refine Or.inr ⟨fun i _ h => h, ?_, (rumbleHandleFfUpload_frame begun s).2⟩
      show (rumbleHandleFfUpload begun s).1.toSlot.motors = s.toSlot.motors
      rw [(rumbleHandleFfUpload_frame begun s).1]
  | other => exact Or.inr ⟨fun i _ h => h, rfl, rfl⟩
  | play code value now =>
      have hpos : ¬0 < value := hev
      show (∃ i, _ ∧ _ ∧ rumbleHandleFfEvent W code value now s = _) ∨
        (_ ∧ (rumbleHandleFfEvent W code value now s).toSlot.motors = _ ∧
          (rumbleHandleFfEvent W code value now s).activeEffectId = _)
      rw [rumbleHandleFfEvent, if_neg (not_refused hon value)]
      cases hidx : effectIndex code.toNat with
      | none =>
          refine Or.inr ⟨fun i _ hstops => ?_, rfl, rfl⟩
          rw [hstops.2] at hidx
          cases hidx
      | some i =>
          simp only [if_neg hpos]
          split_ifs with hactive
          · exact Or.inl ⟨i, hactive, ⟨hpos, hidx⟩, rfl⟩
          · refine Or.inr ⟨fun j hj hstops => ?_, rfl, rfl⟩
            have hij : some i = some j := hidx.symm.trans hstops.2
            exact hactive (hj.trans hij.symm)

theorem silent_congr {a b : Slot} (h : a.motors = b.motors) : a.Silent ↔ b.Silent := by
  obtain ⟨hstrong, hweak⟩ := Motors.mk.inj h
  simp only [Slot.Silent, hstrong, hweak]

/-- **A sequence without a start** ends with the motors at zero exactly when they were at zero, or it
stops the effect that was playing. -/
theorem silent_handleFfAll_iff (hon : s.rumbleActive = true) (hevs : ∀ ev ∈ evs, ¬ev.IsStart) :
    (handleFfAll W evs s).toSlot.Silent ↔
      s.toSlot.Silent ∨ ∃ i, s.activeEffectId = some i ∧ ∃ ev ∈ evs, ev.Stops i := by
  induction evs generalizing s with
  | nil => simp [handleFfAll]
  | cons ev evs ih =>
      have hhead : ¬ev.IsStart := hevs ev List.mem_cons_self
      have htail : ∀ ev ∈ evs, ¬ev.IsStart := fun e he => hevs e (List.mem_cons_of_mem _ he)
      have hon' : (handleFf W s ev).rumbleActive = true := (handleFf_rumbleActive ev).trans hon
      show (handleFfAll W evs (handleFf W s ev)).toSlot.Silent ↔ _
      rw [ih hon' htail]
      rcases handleFf_of_not_isStart (W := W) hon hhead with ⟨i, hi, hstops, heq⟩ | ⟨hno, hmotors, hact⟩
      · rw [heq]
        exact iff_of_true (Or.inl (silent_stopEffect s)) (Or.inr ⟨i, hi, ev, List.mem_cons_self, hstops⟩)
      · rw [silent_congr hmotors, hact]
        refine or_congr Iff.rfl (exists_congr fun i => and_congr_right fun hi => ?_)
        simp only [List.exists_mem_cons_iff, hno i hi, false_or]

end Events

/-! ## Start and stop -/

/-- What the slot has stored for an id: nothing outside 0..15. -/
def FfSlot.kindOf (s : FfSlot) (code : UInt16) : EffectKind :=
  match effectIndex code.toNat with
  | none => .none
  | some i => s.effectType i

/-- The motor values stored for an id. -/
def FfSlot.valuesOf (s : FfSlot) (code : UInt16) : Motors :=
  match effectIndex code.toNat with
  | none => ⟨0, 0⟩
  | some i => s.ffEffects i

/-- **When a stop works**, by what the slot `s` has stored for the effect that is started: a periodic
effect; a rumble effect whose values are zero anyway; or an id without an effect, whose start and stop
do nothing, when the motors were at zero before or one of the later events `evs` stops the effect that
was playing. -/
def StopWorks (s : FfSlot) (code : UInt16) (evs : List FfEvent) : Prop :=
  match s.kindOf code with
  | .periodic => True
  | .rumble => s.valuesOf code = ⟨0, 0⟩
  | .none => s.toSlot.Silent ∨ ∃ i, s.activeEffectId = some i ∧ ∃ ev ∈ evs, ev.Stops i

section StartStop

variable {W : WaveMath} {s : FfSlot} {code : UInt16} {value : Int} {now : Timeval}

theorem kindOf_of_effectIndex {i : Fin 16} (hidx : effectIndex code.toNat = some i) :
    s.kindOf code = s.effectType i := by
  unfold FfSlot.kindOf
  rw [hidx]

theorem valuesOf_of_effectIndex {i : Fin 16} (hidx : effectIndex code.toNat = some i) :
    s.valuesOf code = s.ffEffects i := by
  unfold FfSlot.valuesOf
  rw [hidx]

/-- **What a start does**, by kind. -/
theorem rumbleHandleFfEvent_start (code : UInt16) (now : Timeval) (hon : s.rumbleActive = true)
    (hvalue : 0 < value) :
    (s.kindOf code = .none ∧ rumbleHandleFfEvent W code value now s = s) ∨
      ∃ i, effectIndex code.toNat = some i ∧
        ((s.effectType i = .rumble ∧ rumbleHandleFfEvent W code value now s = startRumble i s) ∨
          (s.effectType i = .periodic ∧
            rumbleHandleFfEvent W code value now s = startPeriodic W i now s)) := by
  rw [rumbleHandleFfEvent, if_neg (not_refused hon value)]
  unfold FfSlot.kindOf
  cases effectIndex code.toNat with
  | none => exact Or.inl ⟨rfl, rfl⟩
  | some i =>
      dsimp only
      rw [if_pos hvalue]
      cases hkind : s.effectType i with
      | none => exact Or.inl ⟨rfl, rfl⟩
      | rumble => exact Or.inr ⟨i, rfl, Or.inl ⟨hkind, rfl⟩⟩
      | periodic => exact Or.inr ⟨i, rfl, Or.inr ⟨hkind, rfl⟩⟩

/-- A slot is silent after a start and a later sequence without starts that stops it, exactly when
`StopWorks`. -/
theorem silent_after_start_iff (hon : s.rumbleActive = true) (hvalue : 0 < value)
    {evs : List FfEvent} (hevs : ∀ ev ∈ evs, ¬ev.IsStart)
    (hstop : ∃ stopped, FfEvent.play code 0 stopped ∈ evs) :
    (handleFfAll W evs (rumbleHandleFfEvent W code value now s)).toSlot.Silent ↔
      StopWorks s code evs := by
  have hon' : (rumbleHandleFfEvent W code value now s).rumbleActive = true :=
    (handleFf_rumbleActive (.play code value now)).trans hon
  rw [silent_handleFfAll_iff hon' hevs]
  rcases rumbleHandleFfEvent_start (W := W) code now hon hvalue with
    ⟨hkind, heq⟩ | ⟨i, hidx, ⟨hkind, heq⟩ | ⟨hkind, heq⟩⟩
  · rw [heq]
    unfold StopWorks
    rw [hkind]
  · have hof : s.kindOf code = .rumble := (kindOf_of_effectIndex hidx).trans hkind
    rw [heq]
    unfold StopWorks
    rw [hof]
    -- nothing is recorded as playing, so no stop can match
    show ((s.ffEffects i).strong = 0 ∧ (s.ffEffects i).weak = 0) ∨ (∃ j, none = some j ∧ _) ↔
      s.valuesOf code = ⟨0, 0⟩
    rw [valuesOf_of_effectIndex hidx]
    constructor
    · rintro (⟨hstrong, hweak⟩ | ⟨j, hj, _⟩)
      · exact congrArg₂ Motors.mk hstrong hweak
      · cases hj
    · intro h
      exact Or.inl (Motors.mk.inj h)
  · have hof : s.kindOf code = .periodic := (kindOf_of_effectIndex hidx).trans hkind
    obtain ⟨stopped, hmem⟩ := hstop
    rw [heq]
    unfold StopWorks
    rw [hof]
    exact iff_of_true (Or.inr ⟨i, rfl, _, hmem, (by decide), hidx⟩) trivial

end StartStop

/-- **After the stop of the effect that was started last the motors are off — exactly when
`StopWorks`.**  The slot has rumble switched on; `before` is any sequence of events, the effect `code`
is started, and neither `between` start and stop nor `after` the stop is another effect started. -/
theorem stop_silences_iff (W : WaveMath) {s : FfSlot} (hon : s.rumbleActive = true)
    (before : List FfEvent) (code : UInt16) {value : Int} (hvalue : 0 < value) (started : Timeval)
    {between : List FfEvent} (hbetween : ∀ ev ∈ between, ¬ev.IsStart) (stopped : Timeval)
    {after : List FfEvent} (hafter : ∀ ev ∈ after, ¬ev.IsStart) :
    (handleFfAll W
        (before ++ .play code value started :: (between ++ .play code 0 stopped :: after)) s).toSlot.Silent ↔
      StopWorks (handleFfAll W before s) code (between ++ .play code 0 stopped :: after) := by
  have hsplit : handleFfAll W
        (before ++ .play code value started :: (between ++ .play code 0 stopped :: after)) s =
      handleFfAll W (between ++ .play code 0 stopped :: after)
        (rumbleHandleFfEvent W code value started (handleFfAll W before s)) := by
    simp only [handleFfAll, List.foldl_append, List.foldl_cons, handleFf]
  have hon' : (handleFfAll W before s).rumbleActive = true :=
    (handleFfAll_rumbleActive before s).trans hon
  rw [hsplit]
  refine silent_after_start_iff hon' hvalue ?_ ⟨stopped, by simp⟩
  intro ev hev
  rcases List.mem_append.mp hev with h | h
  · exact hbetween ev h
  · rcases List.mem_cons.mp h with rfl | h
    · exact lt_irrefl 0
    · exact hafter ev h

/-! ## A rumble effect that does not stop -/

/-- A DualSense slot whose settings are the initial ones, with no effects. -/
def exampleFfSlot : FfSlot where
  toController := initialController
  toCells := { initialCells with type := .dualsense, connected := true }
  ffEffects := fun _ => ⟨0, 0⟩
  periodicEffects := fun _ =>
    { active := false
      waveform := 0
      period := 0
      magnitude := 0
      offset := 0
      phase := 0
      startTime := ⟨0, 0⟩
      lastValue := 0
      leftFreq := 0
      rightFreq := 0 }
  effectType := fun _ => .none
  activeEffectId := none
  activeEffectType := .none

/-- A wave that is always at 200. -/
def exampleWave : WaveMath := fun _ _ _ _ _ => 200

/-- Effect 0, a square wave, is stopped by its stop. -/
theorem stop_silences_square :
    exampleFfSlot.rumbleActive = true ∧
      (handleFfAll exampleWave
          ([.upload (some ⟨0, .periodic 88 100 16000 16000 0⟩)] ++ .play 0 1 ⟨1, 0⟩ ::
            ([] ++ .play 0 0 ⟨2, 0⟩ :: [])) exampleFfSlot).toSlot.Silent :=
  ⟨rfl, (stop_silences_iff exampleWave rfl [.upload (some ⟨0, .periodic 88 100 16000 16000 0⟩)] 0
    (by decide) ⟨1, 0⟩ (fun _ h => absurd h List.not_mem_nil) ⟨2, 0⟩
    (fun _ h => absurd h List.not_mem_nil)).mpr trivial⟩

/-- A rumble effect at full strength is uploaded, started and stopped: both motor cells still hold
255. -/
theorem rumble_not_stopped :
    exampleFfSlot.rumbleActive = true ∧
      ¬(handleFfAll exampleWave
          [.upload (some ⟨0, .rumble 0xFFFF 0xFFFF⟩), .play 0 1 ⟨1, 0⟩, .play 0 0 ⟨2, 0⟩]
          exampleFfSlot).toSlot.Silent := by
  refine ⟨rfl, ?_⟩
  decide +kernel

end Dstx
