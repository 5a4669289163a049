/-
# Dstx.Rumble.Gain — is the rumble gain applied ONCE on every path?

The sender scales the motor cells by `rumble_gain`.  The force-feedback handlers store what the effect
asks for, so on that path the gain is applied once.  The two UHID handlers scale BEFORE they store, so
there it is applied twice: at a gain of 50 a request of 200 is sent as 50, not as 100.  Twice is once
only when the gain is 100 or the first scaling already gives 0 (`scale_scale_iff`).
-/
import Dstx.Rumble.Output

namespace Dstx

/-! ## Requests -/

/-- What the virtual devices deliver to a worker. -/
inductive Feedback where
  | uinput (ev : FfEvent)
  | uhid (ev : UhidEvent)

/-- The worker's handling. -/
def Feedback.handle (W : WaveMath) (s : FfSlot) : Feedback → FfSlot
  | .uinput ev => handleFf W s ev
  | .uhid ev => { s with toSlot := handleUhid s.toSlot ev }

/-- The motor values that a played effect asks for: those of a rumble effect as uploaded, the first
value of a wave, and zero for the stop of what is playing. -/
def playRequest (W : WaveMath) (code : UInt16) (value : Int) (now : Timeval) (s : FfSlot) :
    Option Motors :=
  match effectIndex code.toNat with
  | none => none
  | some i =>
      if 0 < value then
        match s.effectType i with
        | .rumble => some (s.ffEffects i)
        | .periodic =>
            some (splitWave
              (computePeriodicWave W { s.periodicEffects i with startTime := now, active := true } now))
        | .none => none
      else if s.activeEffectId = some i then some ⟨0, 0⟩
      else none

/-- The motor values that a UHID report asks for: bytes 1 and 2. -/
def reportRequest : List UInt8 → Option Motors
  | _ :: strong :: weak :: _ => some ⟨strong, weak⟩
  | _ => none

/-- The motor values that a UHID event asks for. -/
def uhidRequest : UhidEvent → Option Motors
  | .output data => reportRequest data
  | .setReport rtype data => if rtype = 2 then reportRequest data else none
  | .other => none

/-- **The motor values an event asks for**, if it asks for any. -/
def Feedback.request (W : WaveMath) (s : FfSlot) : Feedback → Option Motors
  | .uinput (.play code value now) =>
      if !s.rumbleActive && value != 0 then none else playRequest W code value now s
  | .uinput _ => none
  | .uhid ev => uhidRequest ev

/-- **The condition**: the request is a force-feedback effect; or, for each motor, the gain is 100 or
scales the value to zero. -/
def ScaledOnce (gain : UInt8) (m : Motors) : Feedback → Prop
  | .uinput _ => True
  | .uhid _ =>
      (gain = 100 ∨ m.strong.toNat * gain.toNat < 100) ∧ (gain = 100 ∨ m.weak.toNat * gain.toNat < 100)

/-! ## Scaling -/

section Scaling

variable {v gain : UInt8}

theorem scalePercent_toNat_mod (v percent : UInt8) :
    (scalePercent v percent).toNat = v.toNat * percent.toNat / 100 % 256 := by
  have hnat := toNat_toU8_mod ((v.toNat * percent.toNat / 100 : Nat) : Int)
  rw [scalePercent]
  omega

/-- A percentage of at most 100 does not wrap. -/
theorem scalePercent_toNat (hgain : gain ≤ 100) :
    (scalePercent v gain).toNat = v.toNat * gain.toNat / 100 := by
  have hv := v.toNat_lt
  have hg : gain.toNat ≤ 100 := hgain
  have hmul : v.toNat * gain.toNat ≤ v.toNat * 100 := Nat.mul_le_mul_left _ hg
  rw [scalePercent_toNat_mod]
  omega

/-- The validated gain is the gain, when it is valid. -/
theorem clampU8_gain (hgain : gain ≤ 100) : clampU8 gain.toNat 0 100 100 = gain := by
  have hg : gain.toNat ≤ 100 := hgain
  have hin : ¬((gain.toNat : Int) < (0 : UInt8).toNat ∨ (gain.toNat : Int) > (100 : UInt8).toNat) := by
    have h0 : (0 : UInt8).toNat = 0 := rfl
    have h100 : (100 : UInt8).toNat = 100 := rfl
    omega
  rw [clampU8, if_neg hin, toU8_toNat]

/-- **Scaling twice is scaling once** only for a gain of 100 or a value that is scaled to zero. -/
theorem scale_scale_iff (hgain : gain ≤ 100) :
    (scalePercent (scalePercent v gain) gain).toNat = v.toNat * gain.toNat / 100 ↔
      gain = 100 ∨ v.toNat * gain.toNat < 100 := by
  rw [scalePercent_toNat hgain, scalePercent_toNat hgain]
  have hg : gain.toNat ≤ 100 := hgain
  generalize ha : v.toNat * gain.toNat / 100 = a
  constructor
  · intro h
    by_contra hne
    push Not at hne
    obtain ⟨hne, hbig⟩ := hne
    have hlt : gain.toNat ≤ 99 := by
      have h100 : gain.toNat ≠ 100 := fun h => hne (UInt8.toNat_inj.mp h)
      omega
    have hpos : 0 < a := by omega
    have hmul : a * gain.toNat ≤ a * 99 := Nat.mul_le_mul_left _ hlt
    omega
  · rintro (rfl | hsmall)
    · show a * 100 / 100 = a
      exact Nat.mul_div_cancel a (by decide)
    · have hzero : a = 0 := by omega
      rw [hzero]
      simp

end Scaling

/-! ## What is stored -/

section Stored

variable {W : WaveMath} {s : FfSlot} {m : Motors}

/-- A force-feedback event stores what it asks for. -/
theorem motors_handleFf {ev : FfEvent} (hreq : (Feedback.uinput ev).request W s = some m) :
    (handleFf W s ev).toSlot.motors = m := by
  cases ev with
  | upload begun => cases hreq
  | other => cases hreq
  | play code value now =>
      show (rumbleHandleFfEvent W code value now s).toSlot.motors = m
      change (if !s.rumbleActive && value != 0 then none else playRequest W code value now s) = some m
        at hreq
      rw [rumbleHandleFfEvent]
      split_ifs at hreq with hclosed
      rw [if_neg hclosed]
      unfold playRequest at hreq
      cases hidx : effectIndex code.toNat with
      | none =>
          rw [hidx] at hreq
          cases hreq
      | some i =>
          rw [hidx] at hreq
          dsimp only at hreq ⊢
          split_ifs at hreq ⊢ with hstart hactive
          · cases hkind : s.effectType i with
            | none =>
                rw [hkind] at hreq
                cases hreq
            | rumble =>
                rw [hkind] at hreq
                exact Option.some.inj hreq
            | periodic =>
                rw [hkind] at hreq
                exact Option.some.inj hreq
          · exact Option.some.inj hreq

theorem motors_storeUhidMotors {data : List UInt8} {slot : Slot} (hreq : reportRequest data = some m) :
    (storeUhidMotors data slot).motors = m.scale slot.rumbleGain := by
  unfold reportRequest at hreq
  split at hreq
  · obtain rfl := Option.some.inj hreq
    rfl
  · cases hreq

/-- A UHID event stores what it asks for, SCALED. -/
theorem motors_handleUhid {ev : UhidEvent} {slot : Slot} (hreq : uhidRequest ev = some m) :
    (handleUhid slot ev).motors = m.scale slot.rumbleGain := by
  cases ev with
  | output data => exact motors_storeUhidMotors hreq
  | setReport rtype data =>
      change (if rtype = 2 then reportRequest data else none) = some m at hreq
      show (uhidHandleSetReport rtype data slot).motors = _
      unfold uhidHandleSetReport
      split_ifs at hreq ⊢
      exact motors_storeUhidMotors hreq
  | other => cases hreq

/-- What a started effect asks for is what was uploaded: the high bytes of the magnitudes. -/
theorem request_uploaded_rumble (strong weak : UInt16) {code : UInt16} {i : Fin 16}
    (hidx : effectIndex code.toNat = some i) {value : Int} (hvalue : 0 < value) (now : Timeval)
    (hon : s.rumbleActive = true) :
    (Feedback.uinput (.play code value now)).request W
        (rumbleHandleFfUpload (some ⟨code.toNat, .rumble strong weak⟩) s).1 =
      some (rumbleValues strong weak) := by
  have hup : (rumbleHandleFfUpload (some ⟨code.toNat, .rumble strong weak⟩) s).1 =
      { s with
        effectType := Function.update s.effectType i .rumble
        ffEffects := Function.update s.ffEffects i (rumbleValues strong weak) } := by
    unfold rumbleHandleFfUpload
    dsimp only
    rw [hidx]
  rw [hup]
  show (if !s.rumbleActive && value != 0 then none else playRequest W code value now _) = _
  rw [if_neg (not_refused hon value)]
  unfold playRequest
  rw [hidx]
  dsimp only
  rw [if_pos hvalue, Function.update_self, Function.update_self]

end Stored

/-! ## The theorem -/

/-- **The motor bytes of the report are the requested values times the gain — exactly when
`ScaledOnce`.**  An event that asks for `m` is handled on the slot `s`, whose gain is valid; `sender` is
any later slot with the motor cells the event left and the same gain; and `report` is what
`send_output_report` sends for it, in any of the four layouts. -/
theorem gain_applied_once_iff (crc32 : UInt32 → List UInt8 → UInt32) (W : WaveMath) {s : FfSlot}
    {ev : Feedback} {m : Motors} {sender : Slot} {fd : Bool} {report : OutputReport}
    (hgain : s.rumbleGain ≤ 100) (hreq : ev.request W s = some m)
    (hmotors : sender.motors = (ev.handle W s).toSlot.motors)
    (hsame : sender.rumbleGain = s.rumbleGain)
    (hsent : sendOutputReport crc32 fd sender = some report) :
    (report.motors.strong.toNat = m.strong.toNat * s.rumbleGain.toNat / 100 ∧
        report.motors.weak.toNat = m.weak.toNat * s.rumbleGain.toNat / 100) ↔
      ScaledOnce s.rumbleGain m ev := by
  have hreport : report.motors = (ev.handle W s).toSlot.motors.scale s.rumbleGain := by
    rw [(motors_sendOutputReport hsent).2, Slot.gainedMotors, hsame, clampU8_gain hgain, hmotors]
  rw [hreport]
  cases ev with
  | uinput ev =>
      have hstored : (Feedback.handle W s (.uinput ev)).toSlot.motors = m := motors_handleFf hreq
      rw [hstored]
      exact iff_of_true ⟨scalePercent_toNat hgain, scalePercent_toNat hgain⟩ trivial
  | uhid ev =>
      have hstored : (Feedback.handle W s (.uhid ev)).toSlot.motors = m.scale s.rumbleGain :=
        motors_handleUhid hreq
      rw [hstored]
      exact and_congr (scale_scale_iff hgain) (scale_scale_iff hgain)

/-! ## Twice -/

/-- zlib's `crc32` does not matter for the motor bytes. -/
def exampleCrc : UInt32 → List UInt8 → UInt32 := fun crc _ => crc

/-- The DualSense slot at a gain of 50. -/
def exampleHalfGain : FfSlot := { exampleFfSlot with rumbleGain := 50 }

/-- A rumble effect at 200 of 255 that was uploaded as effect 0, at a gain of 50: 100 is sent. -/
theorem gain_applied_once_effect :
    ∃ report,
      sendOutputReport exampleCrc true
          ((Feedback.uinput (.play 0 1 ⟨0, 0⟩)).handle exampleWave
            (rumbleHandleFfUpload (some ⟨0, .rumble 0xC800 0xC800⟩) exampleHalfGain).1).toSlot =
        some report ∧
      report.motors.strong.toNat = 200 * 50 / 100 ∧ report.motors.weak.toNat = 200 * 50 / 100 := by
  have hreq : (Feedback.uinput (.play 0 1 ⟨0, 0⟩)).request exampleWave
      (rumbleHandleFfUpload (some ⟨0, .rumble 0xC800 0xC800⟩) exampleHalfGain).1 = some ⟨200, 200⟩ := by
    decide +kernel
  obtain ⟨report, hsent⟩ : ∃ report, sendOutputReport exampleCrc true
      ((Feedback.uinput (.play 0 1 ⟨0, 0⟩)).handle exampleWave
        (rumbleHandleFfUpload (some ⟨0, .rumble 0xC800 0xC800⟩) exampleHalfGain).1).toSlot =
      some report := ⟨_, rfl⟩
  refine ⟨report, hsent, ?_⟩
  exact (gain_applied_once_iff exampleCrc exampleWave (by decide +kernel) hreq rfl rfl hsent).mpr trivial

/-- The same values in a UHID output report and in a UHID set-report: 50 is sent. -/
theorem gain_applied_twice :
    exampleHalfGain.rumbleGain.toNat = 50 ∧
      (Feedback.uhid (.output [1, 200, 200])).request exampleWave exampleHalfGain = some ⟨200, 200⟩ ∧
      (∃ report,
        sendOutputReport exampleCrc true
            ((Feedback.uhid (.output [1, 200, 200])).handle exampleWave exampleHalfGain).toSlot =
          some report ∧
        report.motors = ⟨50, 50⟩) ∧
      (Feedback.uhid (.setReport 2 [1, 200, 200])).request exampleWave exampleHalfGain =
        some ⟨200, 200⟩ ∧
      ∃ report,
        sendOutputReport exampleCrc true
            ((Feedback.uhid (.setReport 2 [1, 200, 200])).handle exampleWave exampleHalfGain).toSlot =
          some report ∧
        report.motors = ⟨50, 50⟩ :=
  ⟨rfl, rfl, ⟨_, rfl, by decide +kernel⟩, rfl, _, rfl, by decide +kernel⟩

end Dstx
