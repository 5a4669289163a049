/-
# Dstx.Bridge.RateLimits — do the rate limits of the monitor swallow a change (`should_emit_signal`).

The monitor overwrites its previous snapshot whether or not a signal was sent, so a suppressed signal is
lost for good.  What saves it is the loop's own sleep: every rate limit is at most as long.

`rate_limits_lose_nothing` says so for every run on a clock whose iterations are 100000 microseconds apart.
The invariant is where the timestamps come from: each is zero, or a reading of the clock in an EARLIER
iteration.  Within an iteration the order of the readings does not matter.
-/
import Dstx.Bridge.Monitor

namespace Dstx

open Dstx.Lib

/-! ## Runs and their clock -/

/-- The monitor after a list of iterations. -/
def monitorAfter (run : List MonitorInputs) : Monitor :=
  run.foldl (fun m inputs => m.iterate inputs) initialMonitor

/-- The readings of `get_time_us` for a slot. -/
def SlotReadings.all (r : SlotReadings) : List UInt64 :=
  [r.updateNow, r.updateCheck, r.telemetryNow, r.telemetryCheck, r.buttonCheck, r.axisCheck]

/-- The iteration reads the clock at `t`. -/
def MonitorInputs.Reads (inputs : MonitorInputs) (t : UInt64) : Prop := ∃ i, t ∈ (inputs.clock i).all

/-- The readings of the second iteration are at least the sleep of the loop after those of the first. -/
def SleptBetween (a b : MonitorInputs) : Prop :=
  ∀ t t', a.Reads t → b.Reads t' → t.toNat + 100000 ≤ t'.toNat

/-- **The clock of a run**: it starts at 100000 or later, and the thread sleeps between two iterations. -/
structure SpacedClock (run : List MonitorInputs) : Prop where
  starts : ∀ inputs ∈ run, ∀ t, inputs.Reads t → 100000 ≤ t.toNat
  spaced : run.IsChain SleptBetween

/-- Two snapshots of a slot differ in an axis, a trigger, the hat or a button. -/
def TelemetryDiffers (new old : ControllerState) : Prop :=
  new.pad.axes ≠ old.pad.axes ∨ new.pad.hatX ≠ old.pad.hatX ∨ new.pad.hatY ≠ old.pad.hatY ∨
    new.pad.buttons ≠ old.pad.buttons

/-- **Between the two states the emission was made.** -/
def Emits (e : Emission) (m m' : Monitor) : Prop := ∃ new, m'.emissions = m.emissions ++ new ∧ e ∈ new

/-! ## Frames -/

section Frames

variable {m m' m'' : Monitor} {inputs : MonitorInputs} {signal : BridgeSignal} {i j : Fin maxSlots}

/-- What belongs to slot `i` is the same, and no emission is taken back. -/
structure Leaves (i : Fin maxSlots) (m m' : Monitor) : Prop where
  prevState : m'.prevState i = m.prevState i
  slots : m'.bridge.slots i = m.bridge.slots i
  rateLimit : m'.bridge.rateLimit i = m.bridge.rateLimit i
  emitted : m.emissions <+: m'.emissions

theorem Leaves.refl (i : Fin maxSlots) (m : Monitor) : Leaves i m m := ⟨rfl, rfl, rfl, List.prefix_rfl⟩

theorem Leaves.trans (h : Leaves i m m') (h' : Leaves i m' m'') : Leaves i m m'' :=
  ⟨h'.prevState.trans h.prevState, h'.slots.trans h.slots, h'.rateLimit.trans h.rateLimit,
    h.emitted.trans h'.emitted⟩

/-- **A piece of the loop body of slot `j`.** -/
structure OnlySlot (j : Fin maxSlots) (m m' : Monitor) : Prop where
  others : ∀ i, i ≠ j → Leaves i m m'
  emitted : m.emissions <+: m'.emissions

theorem OnlySlot.refl (j : Fin maxSlots) (m : Monitor) : OnlySlot j m m :=
  ⟨fun i _ => .refl i m, List.prefix_rfl⟩

theorem OnlySlot.trans (h : OnlySlot j m m') (h' : OnlySlot j m' m'') : OnlySlot j m m'' :=
  ⟨fun i hi => (h.others i hi).trans (h'.others i hi), h.emitted.trans h'.emitted⟩

theorem OnlySlot.ite {p : Prop} [Decidable p] (h : OnlySlot j m m') :
    OnlySlot j m (if p then m' else m) := by
  split_ifs
  · exact h
  · exact .refl j m

theorem onlySlot_emit (j : Fin maxSlots) : OnlySlot j m (m.emit inputs signal) :=
  ⟨fun _ _ => ⟨rfl, rfl, rfl, List.prefix_append _ _⟩, List.prefix_append _ _⟩

theorem onlySlot_setRate (j : Fin maxSlots) (rate : RateLimit) : OnlySlot j m (m.setRate j rate) :=
  ⟨fun _ hi => ⟨rfl, rfl, Function.update_of_ne hi _ _, List.prefix_rfl⟩, List.prefix_rfl⟩

theorem onlySlot_copySlot (j : Fin maxSlots) (src : ControllerState) : OnlySlot j m (m.copySlot j src) :=
  ⟨fun _ hi => ⟨rfl, Function.update_of_ne hi _ _, rfl, List.prefix_rfl⟩, List.prefix_rfl⟩

theorem onlySlot_keepSlot (j : Fin maxSlots) : OnlySlot j m (m.keepSlot j) :=
  ⟨fun _ hi => ⟨Function.update_of_ne hi _ _, rfl, rfl, List.prefix_rfl⟩, List.prefix_rfl⟩

theorem onlySlot_announce (inputs : MonitorInputs) (j : Fin maxSlots) :
    OnlySlot j m (m.announce inputs j) := by
  unfold Monitor.announce
  split_ifs
  · exact .refl j m
  · exact onlySlot_emit j
  · exact onlySlot_emit j

theorem onlySlot_reportConfig (inputs : MonitorInputs) (j : Fin maxSlots) :
    OnlySlot j m (m.reportConfig inputs j) :=
  OnlySlot.ite ((onlySlot_emit j).trans (onlySlot_setRate j _))

theorem onlySlot_reportTelemetry (inputs : MonitorInputs) (j : Fin maxSlots) :
    OnlySlot j m (m.reportTelemetry inputs j) :=
  OnlySlot.ite ((onlySlot_emit j).trans (onlySlot_setRate j _))

theorem onlySlot_reportButtons (inputs : MonitorInputs) (j : Fin maxSlots) :
    OnlySlot j m (m.reportButtons inputs j) :=
  OnlySlot.ite ((onlySlot_emit j).trans (onlySlot_setRate j _))

theorem onlySlot_reportAxes (inputs : MonitorInputs) (j : Fin maxSlots) :
    OnlySlot j m (m.reportAxes inputs j) :=
  OnlySlot.ite ((onlySlot_emit j).trans (onlySlot_setRate j _))

/-- The signals after `TelemetryUpdate`. -/
theorem onlySlot_reportInput_rest (inputs : MonitorInputs) (j : Fin maxSlots) (b b' : Bool) :
    OnlySlot j m
      (let pressed := if b then m.reportButtons inputs j else m
       if b' then pressed.reportAxes inputs j else pressed) := by
  have hbuttons : OnlySlot j m (if b then m.reportButtons inputs j else m) :=
    OnlySlot.ite (onlySlot_reportButtons inputs j)
  exact hbuttons.trans (OnlySlot.ite (onlySlot_reportAxes inputs j))

theorem onlySlot_reportInput (inputs : MonitorInputs) (j : Fin maxSlots) :
    OnlySlot j m (m.reportInput inputs j) :=
  OnlySlot.ite ((onlySlot_reportTelemetry inputs j).trans (onlySlot_reportInput_rest inputs j _ _))

theorem onlySlot_report (inputs : MonitorInputs) (j : Fin maxSlots) : OnlySlot j m (m.report inputs j) :=
  OnlySlot.ite ((onlySlot_reportConfig inputs j).trans (onlySlot_reportInput inputs j))

/-- **The loop body of a slot** leaves the other slots alone. -/
theorem onlySlot_scanSlot (inputs : MonitorInputs) (j : Fin maxSlots) :
    OnlySlot j m (m.scanSlot inputs j) :=
  (((onlySlot_copySlot j (inputs.slots j)).trans (onlySlot_announce inputs j)).trans
    (onlySlot_report inputs j)).trans (onlySlot_keepSlot j)

/-- The loop over slots other than `i`. -/
theorem leaves_foldl_scanSlot (inputs : MonitorInputs) (l : List (Fin maxSlots)) (hi : i ∉ l) :
    Leaves i m (l.foldl (Monitor.scanSlot inputs) m) := by
  induction l generalizing m with
  | nil => exact .refl i m
  | cons j l ih =>
      rw [List.mem_cons, not_or] at hi
      exact ((onlySlot_scanSlot inputs j).others i hi.1).trans (ih hi.2)

/-- **A slot is visited once**: before and after that the loop leaves it alone. -/
theorem scanSlots_visits (inputs : MonitorInputs) (m : Monitor) (i : Fin maxSlots) :
    ∃ v, Leaves i m v ∧ Leaves i (v.scanSlot inputs i) (m.scanSlots inputs) := by
  obtain ⟨before, after, hl⟩ := List.append_of_mem (List.mem_finRange i)
  have hnodup : (before ++ i :: after).Nodup := hl ▸ List.nodup_finRange maxSlots
  obtain ⟨-, hrest, hdisjoint⟩ := List.nodup_append.mp hnodup
  have hbefore : i ∉ before := fun hmem => hdisjoint i hmem i List.mem_cons_self rfl
  have hafter : i ∉ after := (List.nodup_cons.mp hrest).1
  refine ⟨before.foldl (Monitor.scanSlot inputs) m, leaves_foldl_scanSlot inputs before hbefore, ?_⟩
  unfold Monitor.scanSlots
  rw [hl, List.foldl_append, List.foldl_cons]
  exact leaves_foldl_scanSlot inputs after hafter

end Frames

/-! ## The slot that is visited -/

section Visit

variable {m : Monitor} {inputs : MonitorInputs} {i : Fin maxSlots}

theorem Emits.of_grows {m₁ m₂ m₃ : Monitor} {e : Emission} (h₁ : m.emissions <+: m₁.emissions)
    (h : Emits e m₁ m₂) (h₂ : m₂.emissions <+: m₃.emissions) : Emits e m m₃ := by
  obtain ⟨l₁, hl₁⟩ := h₁
  obtain ⟨l, hl, he⟩ := h
  obtain ⟨l₂, hl₂⟩ := h₂
  refine ⟨l₁ ++ (l ++ l₂), ?_, List.mem_append_right _ (List.mem_append_left _ he)⟩
  rw [← hl₂, hl, ← hl₁, List.append_assoc, List.append_assoc]

theorem emits_emit_setRate {signal : BridgeSignal} (honline : inputs.online signal = true)
    (rate : RateLimit) :
    Emits ⟨signal, true⟩ m ((m.emit inputs signal).setRate i rate) :=
  ⟨[⟨signal, inputs.online signal⟩], rfl, by rw [honline]; exact List.mem_singleton_self _⟩

/-- A limit that is at most the sleep of the loop lets the signal through. -/
theorem shouldEmitSignal_of_le {t s interval : UInt64} (h : s.toNat + 100000 ≤ t.toNat)
    (hinterval : interval ≤ 100000) : shouldEmitSignal t s interval = true := by
  have hle : s ≤ t := by
    rw [UInt64.le_iff_toNat_le]
    omega
  have hsmall : interval.toNat ≤ 100000 := hinterval
  unfold shouldEmitSignal
  rw [decide_eq_true_eq, ge_iff_le, UInt64.le_iff_toNat_le, UInt64.toNat_sub_of_le _ _ hle]
  omega

/-- A changed configuration is reported. -/
theorem emits_reportConfig
    (hdue : (m.bridge.rateLimit i).lastControllerUpdateUs.toNat + 100000 ≤
      (inputs.clock i).updateCheck.toNat)
    (honline : inputs.online (.controllerUpdated i) = true)
    (hchanged : configChanged (m.bridge.slots i).slot (m.prevState i).slot = true) :
    Emits ⟨.controllerUpdated i, true⟩ m (m.reportConfig inputs i) := by
  have hemit : shouldEmitSignal (inputs.clock i).updateCheck (m.bridge.rateLimit i).lastControllerUpdateUs
      controllerUpdateIntervalUs = true :=
    shouldEmitSignal_of_le hdue (by decide)
  unfold Monitor.reportConfig
  rw [hchanged, hemit]
  exact emits_emit_setRate honline _

/-- Changed telemetry is reported. -/
theorem emits_reportInput
    (hdue : (m.bridge.rateLimit i).lastTelemetryUs.toNat + 100000 ≤ (inputs.clock i).telemetryCheck.toNat)
    (honline : ∀ signal, inputs.online signal = true) (hchanged : m.axesChanged i = true) :
    Emits ⟨.telemetryUpdate i (telemetryArgs (UInt8.ofNat i) (m.bridge.slots i)), true⟩ m
      (m.reportInput inputs i) := by
  have hemit : shouldEmitSignal (inputs.clock i).telemetryCheck (m.bridge.rateLimit i).lastTelemetryUs
      telemetryMinIntervalUs = true :=
    shouldEmitSignal_of_le hdue (by decide)
  have htold : Emits ⟨.telemetryUpdate i (telemetryArgs (UInt8.ofNat i) (m.bridge.slots i)), true⟩ m
      (m.reportTelemetry inputs i) := by
    unfold Monitor.reportTelemetry
    rw [if_pos hemit]
    exact emits_emit_setRate (honline _) _
  unfold Monitor.reportInput
  rw [if_pos (by rw [hchanged, Bool.or_true])]
  exact htold.of_grows List.prefix_rfl (onlySlot_reportInput_rest inputs i _ _).emitted

theorem announce_keeps (inputs : MonitorInputs) (m : Monitor) (i : Fin maxSlots) :
    (m.announce inputs i).prevState = m.prevState ∧ (m.announce inputs i).bridge = m.bridge := by
  unfold Monitor.announce
  split_ifs
  · exact ⟨rfl, rfl⟩
  · exact ⟨rfl, rfl⟩
  · exact ⟨rfl, rfl⟩

/-- The configuration report keeps both snapshots and the limit of the telemetry. -/
theorem reportConfig_keeps (inputs : MonitorInputs) (m : Monitor) (i : Fin maxSlots) :
    (m.reportConfig inputs i).prevState = m.prevState ∧
      (m.reportConfig inputs i).bridge.slots = m.bridge.slots ∧
      ((m.reportConfig inputs i).bridge.rateLimit i).lastTelemetryUs =
        (m.bridge.rateLimit i).lastTelemetryUs := by
  unfold Monitor.reportConfig
  split_ifs
  · exact ⟨rfl, rfl, by simp [Monitor.setRate, Monitor.emit]⟩
  · exact ⟨rfl, rfl, rfl⟩

/-- The state in which the loop body reports. -/
def Monitor.scanned (m : Monitor) (inputs : MonitorInputs) (i : Fin maxSlots) : Monitor :=
  (m.copySlot i (inputs.slots i)).announce inputs i

theorem scanned_spec (inputs : MonitorInputs) (m : Monitor) (i : Fin maxSlots) :
    (m.scanned inputs i).prevState = m.prevState ∧
      (m.scanned inputs i).bridge.slots i = copyControllerState (m.bridge.slots i) (inputs.slots i) ∧
      (m.scanned inputs i).bridge.rateLimit = m.bridge.rateLimit ∧
      m.emissions <+: (m.scanned inputs i).emissions := by
  obtain ⟨hprev, hbridge⟩ := announce_keeps inputs (m.copySlot i (inputs.slots i)) i
  have hgrows := (onlySlot_copySlot (m := m) i (inputs.slots i)).trans (onlySlot_announce inputs i)
  refine ⟨hprev, ?_, ?_, hgrows.emitted⟩
  · unfold Monitor.scanned
    rw [hbridge]
    exact Function.update_self _ _ _
  · unfold Monitor.scanned
    rw [hbridge]
    rfl

/-- The report of a slot that was read as connected. -/
theorem report_scanned (hconnected : (inputs.slots i).slot.connected = true) :
    (m.scanned inputs i).report inputs i =
      ((m.scanned inputs i).reportConfig inputs i).reportInput inputs i := by
  obtain ⟨-, hslot, -, -⟩ := scanned_spec inputs m i
  unfold Monitor.report
  rw [hslot]
  exact if_pos hconnected

/-- **What the loop body leaves of its slot**: both snapshots are what was read. -/
theorem scanSlot_snapshots (inputs : MonitorInputs) (m : Monitor) (i : Fin maxSlots) :
    (m.scanSlot inputs i).bridge.slots i = copyControllerState (m.bridge.slots i) (inputs.slots i) ∧
      (m.scanSlot inputs i).prevState i =
        copyControllerState (m.prevState i) (copyControllerState (m.bridge.slots i) (inputs.slots i)) := by
  obtain ⟨hprev, hslot, -, -⟩ := scanned_spec inputs m i
  have hquiet := clientQuiet_report (m := m.scanned inputs i) inputs i
  have hslots : ((m.scanned inputs i).report inputs i).bridge.slots i =
      copyControllerState (m.bridge.slots i) (inputs.slots i) := by
    rw [hquiet.slots, hslot]
  refine ⟨hslots, ?_⟩
  show Function.update _ i _ i = _
  rw [Function.update_self]
  show copyControllerState (((m.scanned inputs i).report inputs i).prevState i)
    (((m.scanned inputs i).report inputs i).bridge.slots i) = _
  rw [hslots, hquiet.prevState, hprev]

/-- **The loop body reports a changed configuration.** -/
theorem emits_scanSlot_config (hconnected : (inputs.slots i).slot.connected = true)
    (hdue : (m.bridge.rateLimit i).lastControllerUpdateUs.toNat + 100000 ≤
      (inputs.clock i).updateCheck.toNat)
    (honline : ∀ signal, inputs.online signal = true)
    (hchanged : configChanged (inputs.slots i).slot (m.prevState i).slot = true) :
    Emits ⟨.controllerUpdated i, true⟩ m (m.scanSlot inputs i) := by
  obtain ⟨hprev, hslot, hrate, hgrows⟩ := scanned_spec inputs m i
  have hemits : Emits ⟨.controllerUpdated i, true⟩ (m.scanned inputs i)
      ((m.scanned inputs i).reportConfig inputs i) := by
    refine emits_reportConfig ?_ (honline _) ?_
    · rw [hrate]
      exact hdue
    · rw [hprev, hslot]
      exact hchanged
  refine hemits.of_grows hgrows ?_
  show _ <+: ((m.scanned inputs i).report inputs i).emissions
  rw [report_scanned hconnected]
  exact (onlySlot_reportInput inputs i).emitted

/-- **And changed telemetry.** -/
theorem emits_scanSlot_telemetry (hconnected : (inputs.slots i).slot.connected = true)
    (hdue : (m.bridge.rateLimit i).lastTelemetryUs.toNat + 100000 ≤ (inputs.clock i).telemetryCheck.toNat)
    (honline : ∀ signal, inputs.online signal = true)
    (hchanged : telemetryChanged (inputs.slots i).pad (m.prevState i).pad = true) :
    Emits ⟨.telemetryUpdate i (telemetryArgs (UInt8.ofNat i) (inputs.slots i)), true⟩ m
      (m.scanSlot inputs i) := by
  obtain ⟨hprev, hslot, hrate, hgrows⟩ := scanned_spec inputs m i
  obtain ⟨hprev', hslots', htelemetry⟩ := reportConfig_keeps inputs (m.scanned inputs i) i
  have hgrows' := (onlySlot_reportConfig (m := m.scanned inputs i) inputs i).emitted
  have hslot' : ((m.scanned inputs i).reportConfig inputs i).bridge.slots i =
      copyControllerState (m.bridge.slots i) (inputs.slots i) := by
    rw [hslots', hslot]
  have hemits : Emits ⟨.telemetryUpdate i (telemetryArgs (UInt8.ofNat i) (inputs.slots i)), true⟩
      ((m.scanned inputs i).reportConfig inputs i)
      (((m.scanned inputs i).reportConfig inputs i).reportInput inputs i) := by
    have hdue' : (((m.scanned inputs i).reportConfig inputs i).bridge.rateLimit i).lastTelemetryUs.toNat +
        100000 ≤ (inputs.clock i).telemetryCheck.toNat := by
      rw [htelemetry, hrate]
      exact hdue
    have hchanged' : ((m.scanned inputs i).reportConfig inputs i).axesChanged i = true := by
      unfold Monitor.axesChanged
      rw [hslot', hprev', hprev]
      exact hchanged
    have hinput := emits_reportInput hdue' honline hchanged'
    rw [hslot'] at hinput
    exact hinput
  refine hemits.of_grows (hgrows.trans hgrows') ?_
  show _ <+: ((m.scanned inputs i).report inputs i).emissions
  rw [report_scanned hconnected]

end Visit

/-! ## Where the timestamps come from -/

section Stamps

variable {m : Monitor} {inputs : MonitorInputs} {S : UInt64 → Prop}

/-- The four timestamps. -/
def RateLimit.stamps (rate : RateLimit) : List UInt64 :=
  [rate.lastTelemetryUs, rate.lastButtonUs, rate.lastAxisUs, rate.lastControllerUpdateUs]

/-- Every timestamp of every slot is one of `S`. -/
def StampsFrom (S : UInt64 → Prop) (m : Monitor) : Prop := ∀ i, ∀ s ∈ (m.bridge.rateLimit i).stamps, S s

theorem StampsFrom.mono {S' : UInt64 → Prop} (h : StampsFrom S m) (hle : ∀ s, S s → S' s) :
    StampsFrom S' m :=
  fun i s hs => hle s (h i s hs)

theorem StampsFrom.ite {m' : Monitor} {p : Prop} [Decidable p] (h : StampsFrom S m) (h' : StampsFrom S m') :
    StampsFrom S (if p then m' else m) := by
  split_ifs
  · exact h'
  · exact h

/-- Storing limits of which each is old or a reading of the clock. -/
theorem StampsFrom.setRate (h : StampsFrom S m) (i : Fin maxSlots) {rate : RateLimit}
    (hrate : ∀ s ∈ rate.stamps, S s) : StampsFrom S (m.setRate i rate) := by
  intro j s hs
  by_cases hj : j = i
  · subst hj
    refine hrate s ?_
    simpa [Monitor.setRate] using hs
  · refine h j s ?_
    simpa [Monitor.setRate, Function.update_of_ne hj] using hs

/-- **A signal with its timestamp**: the new limits are old, or a reading of the clock. -/
theorem StampsFrom.report (h : StampsFrom S m) (hreads : ∀ t, inputs.Reads t → S t) (i : Fin maxSlots)
    (signal : BridgeSignal) {p : Prop} [Decidable p] {rate : RateLimit}
    (hrate : ∀ s ∈ rate.stamps, s ∈ (m.bridge.rateLimit i).stamps ∨ inputs.Reads s) :
    StampsFrom S (if p then (m.emit inputs signal).setRate i rate else m) := by
  have hemitted : StampsFrom S (m.emit inputs signal) := h
  refine h.ite (hemitted.setRate i fun s hs => ?_)
  obtain hold | hnew := hrate s hs
  · exact h i s hold
  · exact hreads s hnew

theorem StampsFrom.reportConfig (h : StampsFrom S m) (hreads : ∀ t, inputs.Reads t → S t)
    (i : Fin maxSlots) :
    StampsFrom S (m.reportConfig inputs i) := by
  have hnow : inputs.Reads (inputs.clock i).updateNow := ⟨i, by simp [SlotReadings.all]⟩
  refine h.report hreads i _ ?_
  simp [RateLimit.stamps, hnow]

theorem StampsFrom.reportTelemetry (h : StampsFrom S m) (hreads : ∀ t, inputs.Reads t → S t)
    (i : Fin maxSlots) :
    StampsFrom S (m.reportTelemetry inputs i) := by
  have hnow : inputs.Reads (inputs.clock i).telemetryNow := ⟨i, by simp [SlotReadings.all]⟩
  refine h.report hreads i _ ?_
  simp [RateLimit.stamps, hnow]

theorem StampsFrom.reportButtons (h : StampsFrom S m) (hreads : ∀ t, inputs.Reads t → S t)
    (i : Fin maxSlots) :
    StampsFrom S (m.reportButtons inputs i) := by
  have hnow : inputs.Reads (inputs.clock i).telemetryNow := ⟨i, by simp [SlotReadings.all]⟩
  refine h.report hreads i _ ?_
  simp [RateLimit.stamps, hnow]

theorem StampsFrom.reportAxes (h : StampsFrom S m) (hreads : ∀ t, inputs.Reads t → S t) (i : Fin maxSlots) :
    StampsFrom S (m.reportAxes inputs i) := by
  have hnow : inputs.Reads (inputs.clock i).telemetryNow := ⟨i, by simp [SlotReadings.all]⟩
  refine h.report hreads i _ ?_
  simp [RateLimit.stamps, hnow]

theorem StampsFrom.reportInput (h : StampsFrom S m) (hreads : ∀ t, inputs.Reads t → S t)
    (i : Fin maxSlots) :
    StampsFrom S (m.reportInput inputs i) := by
  have htold := h.reportTelemetry hreads i
  have hpressed : StampsFrom S (if m.buttonsChanged i then
      (m.reportTelemetry inputs i).reportButtons inputs i else m.reportTelemetry inputs i) :=
    htold.ite (htold.reportButtons hreads i)
  exact h.ite (hpressed.ite (hpressed.reportAxes hreads i))

/-- **The loop body** stores readings of its own iteration. -/
theorem StampsFrom.scanSlot (h : StampsFrom S m) (hreads : ∀ t, inputs.Reads t → S t) (i : Fin maxSlots) :
    StampsFrom S (m.scanSlot inputs i) := by
  have hscanned : StampsFrom S (m.scanned inputs i) := by
    intro j s hs
    rw [(scanned_spec inputs m i).2.2.1] at hs
    exact h j s hs
  exact hscanned.ite ((hscanned.reportConfig hreads i).reportInput hreads i)

theorem StampsFrom.scanSlots (h : StampsFrom S m) (hreads : ∀ t, inputs.Reads t → S t) :
    StampsFrom S (m.scanSlots inputs) := by
  unfold Monitor.scanSlots
  generalize List.finRange maxSlots = l
  induction l generalizing m with
  | nil => exact h
  | cons i l ih => exact ih (h.scanSlot hreads i)

/-- A status signal touches no limit. -/
theorem stampsFrom_setStatus (h : StampsFrom S m) (inputs : MonitorInputs) (alive : Bool) :
    StampsFrom S (m.setStatus inputs alive) := by
  unfold Monitor.setStatus
  split_ifs
  · exact h
  · exact h

theorem StampsFrom.whenAlive (h : StampsFrom S ((m.setDaemonAlive true).scanSlots inputs)) :
    StampsFrom S (m.whenAlive inputs) := by
  unfold Monitor.whenAlive
  dsimp only
  split_ifs
  · exact h
  · refine stampsFrom_setStatus ?_ inputs true
    exact h

/-- Limits that are forgotten are zero. -/
theorem StampsFrom.whenGone (h : StampsFrom S m) (inputs : MonitorInputs) (hzero : S 0) :
    StampsFrom S (m.whenGone inputs) := by
  unfold Monitor.whenGone
  dsimp only
  split_ifs
  · intro i s hs
    have hs' : s = 0 := by
      simpa [Monitor.setDaemonAlive, Monitor.forget, zeroedRate, RateLimit.stamps] using hs
    rw [hs']
    exact hzero
  · exact h

theorem StampsFrom.whenAbsent (h : StampsFrom S m) (inputs : MonitorInputs) :
    StampsFrom S (m.whenAbsent inputs) := by
  have htold : StampsFrom S (if m.lastAliveState then m.setStatus inputs false else m) :=
    h.ite (stampsFrom_setStatus h inputs false)
  exact htold

/-- **One iteration.** -/
theorem StampsFrom.iterate (h : StampsFrom S m) (hzero : S 0) (hreads : ∀ t, inputs.Reads t → S t) :
    StampsFrom S (m.iterate inputs) := by
  have hopened : StampsFrom S (m.openShm inputs) := h
  have hread : StampsFrom S ((m.openShm inputs).readHeartbeat inputs) := by
    unfold Monitor.readHeartbeat
    split_ifs
    · exact h
    · exact h
  have hscan : StampsFrom S
      ((((m.openShm inputs).readHeartbeat inputs).setDaemonAlive true).scanSlots inputs) :=
    StampsFrom.scanSlots hread hreads
  have halive := hscan.whenAlive
  have hgone := hread.whenGone inputs hzero
  have habsent := hopened.whenAbsent inputs
  unfold Monitor.iterate
  dsimp only
  split_ifs
  · exact halive
  · exact hgone
  · exact habsent

end Stamps

/-! ## Iterations and runs -/

section Runs

variable {m : Monitor} {inputs : MonitorInputs} {i : Fin maxSlots}

theorem leaves_setStatus (inputs : MonitorInputs) (alive : Bool) (m : Monitor) (i : Fin maxSlots) :
    Leaves i m (m.setStatus inputs alive) := by
  unfold Monitor.setStatus
  split_ifs
  · exact .refl i m
  · exact ⟨rfl, rfl, rfl, List.prefix_append _ _⟩

theorem leaves_whenAlive (inputs : MonitorInputs) (m : Monitor) (i : Fin maxSlots) :
    Leaves i ((m.setDaemonAlive true).scanSlots inputs) (m.whenAlive inputs) := by
  unfold Monitor.whenAlive
  dsimp only
  split_ifs
  · exact ⟨rfl, rfl, rfl, List.prefix_rfl⟩
  · refine Leaves.trans ?_ (leaves_setStatus inputs true _ i)
    exact ⟨rfl, rfl, rfl, List.prefix_rfl⟩

/-- **An iteration that finds the daemon** visits every slot. -/
theorem iterate_visits (halive : (m.iterate inputs).lastAliveState = true) (i : Fin maxSlots) :
    ∃ v, Leaves i m v ∧ Leaves i (v.scanSlot inputs i) (m.iterate inputs) := by
  have hread : Leaves i m (((m.openShm inputs).readHeartbeat inputs).setDaemonAlive true) := by
    unfold Monitor.readHeartbeat
    split_ifs
    · exact ⟨rfl, rfl, rfl, List.prefix_rfl⟩
    · exact ⟨rfl, rfl, rfl, List.prefix_rfl⟩
  obtain ⟨v, hbefore, hafter⟩ :=
    scanSlots_visits inputs (((m.openShm inputs).readHeartbeat inputs).setDaemonAlive true) i
  refine ⟨v, hread.trans hbefore, hafter.trans ?_⟩
  have hwhen := leaves_whenAlive inputs ((m.openShm inputs).readHeartbeat inputs) i
  unfold Monitor.iterate at halive ⊢
  dsimp only at halive ⊢
  by_cases hmapped : (m.openShm inputs).shmMapped = true
  · rw [if_pos hmapped] at halive ⊢
    rw [if_pos (show (m.openShm inputs).findsDaemon inputs = true from halive)]
    exact ⟨hwhen.prevState, hwhen.slots, hwhen.rateLimit, hwhen.emitted⟩
  · rw [if_neg hmapped] at halive
    cases halive

/-- **After such an iteration** both snapshots of a slot are what was read. -/
theorem iterate_snapshots (halive : (m.iterate inputs).lastAliveState = true) (i : Fin maxSlots) :
    (∃ dst, (m.iterate inputs).bridge.slots i = copyControllerState dst (inputs.slots i)) ∧
      ∃ dst dst', (m.iterate inputs).prevState i =
        copyControllerState dst (copyControllerState dst' (inputs.slots i)) := by
  obtain ⟨v, -, hafter⟩ := iterate_visits halive i
  obtain ⟨hslots, hprev⟩ := scanSlot_snapshots inputs v i
  exact ⟨⟨_, hafter.slots.trans hslots⟩, ⟨_, _, hafter.prevState.trans hprev⟩⟩

theorem monitorAfter_append (run : List MonitorInputs) (inputs : MonitorInputs) :
    monitorAfter (run ++ [inputs]) = (monitorAfter run).iterate inputs := by
  unfold monitorAfter
  rw [List.foldl_append, List.foldl_cons, List.foldl_nil]

/-- **The timestamps of a run** are zero or readings of its iterations. -/
theorem stampsFrom_monitorAfter (run : List MonitorInputs) :
    StampsFrom (fun s => s = 0 ∨ ∃ inputs ∈ run, inputs.Reads s) (monitorAfter run) := by
  induction run using List.reverseRecOn with
  | nil =>
      intro i s hs
      have hzero : s = 0 := by
        simpa [monitorAfter, initialMonitor, zeroedRate, RateLimit.stamps] using hs
      exact .inl hzero
  | append_singleton run inputs ih =>
      rw [monitorAfter_append]
      refine (ih.mono ?_).iterate (.inl rfl) fun t ht => .inr ⟨inputs, by simp, ht⟩
      rintro s (hzero | ⟨a, ha, hreads⟩)
      · exact .inl hzero
      · exact .inr ⟨a, List.mem_append_left _ ha, hreads⟩

/-- The sleep adds up. -/
theorem sleptBetween_trans {a b c : MonitorInputs} (hab : SleptBetween a b) (hbc : SleptBetween b c) :
    SleptBetween a c := by
  intro t t' ht ht'
  have hmid : b.Reads (b.clock firstSlot).updateNow := ⟨firstSlot, by simp [SlotReadings.all]⟩
  have hfirst := hab t _ ht hmid
  have hsecond := hbc _ t' hmid ht'
  omega

/-- **In the last iteration of a run** every limit has run out. -/
theorem SpacedClock.due {run : List MonitorInputs} {last : MonitorInputs} (h : SpacedClock (run ++ [last]))
    (i : Fin maxSlots) {s t : UInt64} (hs : s ∈ ((monitorAfter run).bridge.rateLimit i).stamps)
    (ht : last.Reads t) : s.toNat + 100000 ≤ t.toNat := by
  obtain hzero | ⟨a, ha, hreads⟩ := stampsFrom_monitorAfter run i s hs
  · have hstart := h.starts last (by simp) t ht
    rw [hzero]
    show 0 + 100000 ≤ t.toNat
    omega
  · have htrans : IsTrans MonitorInputs SleptBetween := ⟨fun _ _ _ => sleptBetween_trans⟩
    have hpairwise := List.isChain_iff_pairwise.mp h.spaced
    exact (List.pairwise_append.mp hpairwise).2.2 a ha last (List.mem_singleton_self _) s t hreads ht

end Runs

/-! ## The result -/

/-- `telemetry_changed` sees every difference. -/
theorem telemetryChanged_of_differs {new old : ControllerState} (h : TelemetryDiffers new old) :
    telemetryChanged new.pad old.pad = true := by
  by_contra hfalse
  rw [Bool.not_eq_true] at hfalse
  simp only [telemetryChanged, Bool.or_eq_false_iff, bne_eq_false_iff_eq, and_assoc] at hfalse
  obtain ⟨hlx, hly, hrx, hry, hlt, hrt, hhatX, hhatY, hbuttons⟩ := hfalse
  obtain haxes | hhat | hhat | hbutton := h
  · apply haxes
    unfold Pad.axes
    rw [hlx, hly, hrx, hry, hlt, hrt]
  · exact hhat hhatX
  · exact hhat hhatY
  · apply hbutton
    funext k
    have hk := (List.any_eq_false.mp hbuttons) k (by cases k <;> decide)
    simpa using hk

/-- **The rate limits lose nothing.**  In every run of the monitor on such a clock, take two iterations that
follow each other and both find the daemon alive, and a slot that is connected in the second, whose sends
succeed.  If its snapshots differ in telemetry, the second iteration sends a `TelemetryUpdate` with the new
snapshot; if `config_changed` holds between them, it sends a `ControllerUpdated`. -/
theorem rate_limits_lose_nothing (before : List MonitorInputs) (a b : MonitorInputs)
    (hclock : SpacedClock (before ++ [a, b]))
    (hsends : ∀ signal, b.online signal = true)
    (ha : (monitorAfter (before ++ [a])).lastAliveState = true)
    (hb : (monitorAfter (before ++ [a, b])).lastAliveState = true) (i : Fin maxSlots)
    (hconnected : ((monitorAfter (before ++ [a, b])).bridge.slots i).slot.connected = true) :
    let old := (monitorAfter (before ++ [a])).bridge.slots i
    let new := (monitorAfter (before ++ [a, b])).bridge.slots i
    (TelemetryDiffers new old →
      Emits ⟨.telemetryUpdate i (telemetryArgs (UInt8.ofNat i) new), true⟩ (monitorAfter (before ++ [a]))
        (monitorAfter (before ++ [a, b]))) ∧
      (configChanged new.slot old.slot = true →
        Emits ⟨.controllerUpdated i, true⟩ (monitorAfter (before ++ [a]))
          (monitorAfter (before ++ [a, b]))) := by
  have hrun : before ++ [a, b] = before ++ [a] ++ [b] := by simp
  rw [hrun] at hclock hb hconnected ⊢
  rw [monitorAfter_append (before ++ [a])] at hb hconnected ⊢
  have hdue := fun s hs t ht => hclock.due i (s := s) (t := t) hs ht
  rw [monitorAfter_append before] at ha
  obtain ⟨⟨dst, hold⟩, dst', dst'', hprev⟩ := iterate_snapshots ha i
  rw [← monitorAfter_append] at hold hprev
  obtain ⟨⟨dstb, hnew⟩, -⟩ := iterate_snapshots hb i
  obtain ⟨v, hbefore, hafter⟩ := iterate_visits hb i
  rw [hnew] at hconnected ⊢
  rw [hold]
  have hread : ∀ t ∈ (b.clock i).all, b.Reads t := fun t ht => ⟨i, ht⟩
  constructor
  · intro hdiffers
    have htelemetry : (v.bridge.rateLimit i).lastTelemetryUs.toNat + 100000 ≤
        (b.clock i).telemetryCheck.toNat := by
      rw [hbefore.rateLimit]
      exact hdue _ (by simp [RateLimit.stamps]) _ (hread _ (by simp [SlotReadings.all]))
    have hemits := emits_scanSlot_telemetry (m := v) hconnected htelemetry hsends (by
      rw [hbefore.prevState, hprev]
      exact telemetryChanged_of_differs hdiffers)
    exact hemits.of_grows hbefore.emitted hafter.emitted
  · intro hchanged
    have hupdate : (v.bridge.rateLimit i).lastControllerUpdateUs.toNat + 100000 ≤
        (b.clock i).updateCheck.toNat := by
      rw [hbefore.rateLimit]
      exact hdue _ (by simp [RateLimit.stamps]) _ (hread _ (by simp [SlotReadings.all]))
    have hemits := emits_scanSlot_config (m := v) hconnected hupdate hsends (by
      rw [hbefore.prevState, hprev]
      exact hchanged)
    exact hemits.of_grows hbefore.emitted hafter.emitted

/-- An iteration at time `t` that finds one controller. -/
def ticked (heartbeat : UInt32) (t : UInt64) (c : ControllerState) : MonitorInputs :=
  { foundOne firstSlot heartbeat false with
    slots := fun j => if j = firstSlot then c else zeroedState
    clock := fun _ => ⟨t, t, t, t, t, t⟩ }

theorem ticked_reads {heartbeat : UInt32} {t s : UInt64} {c : ControllerState}
    (h : (ticked heartbeat t c).Reads s) : s = t := by
  obtain ⟨i, hs⟩ := h
  simpa [ticked, SlotReadings.all] using hs

theorem crossState_intRange :
    ∀ v ∈ [centredPad.hatX, centredPad.hatY, centredPad.battery, pluggedSlot.ledRequestEffect],
      -(2 ^ 31) ≤ v ∧ v < 2 ^ 31 :=
  centredPad_intRange 0 zero_int_range

/-- That controller with the cross button down and a red LED. -/
def crossState : ControllerState where
  slot := { pluggedSlot with ledR := 255 }
  pad := { centredPad with buttons := fun k => decide (k = .cross) }
  axesRange := centredPad_axesRange
  intRange := crossState_intRange

/-- The iteration before, with a bus connection or without one. -/
def tickedBefore (online : BridgeSignal → Bool) : MonitorInputs :=
  { ticked 1 100000 restingState with online := online }

theorem tickedBefore_reads {online : BridgeSignal → Bool} {s : UInt64} (h : (tickedBefore online).Reads s) :
    s = 100000 := by
  have hread : (ticked 1 100000 restingState).Reads s := h
  exact ticked_reads hread

/-- Two iterations, the sleep of the loop apart. -/
theorem ticked_spaced (online : BridgeSignal → Bool) :
    SpacedClock ([] ++ [tickedBefore online, ticked 2 200000 crossState]) where
  starts := by
    intro inputs hmem t ht
    rw [List.nil_append, List.mem_cons, List.mem_singleton] at hmem
    obtain rfl | rfl := hmem
    · rw [tickedBefore_reads ht]
      decide
    · rw [ticked_reads ht]
      decide
  spaced := by
    refine List.isChain_pair.mpr fun t t' ht ht' => ?_
    rw [tickedBefore_reads ht, ticked_reads ht']
    decide

/-- The button and the colour are both told, also when the bus was not there before. -/
theorem rate_limits_lose_nothing_cross :
    let old := monitorAfter [tickedBefore fun _ => false]
    let new := monitorAfter [tickedBefore fun _ => false, ticked 2 200000 crossState]
    Emits ⟨.telemetryUpdate firstSlot (telemetryArgs (UInt8.ofNat firstSlot) (new.bridge.slots firstSlot)),
        true⟩ old new ∧
      Emits ⟨.controllerUpdated firstSlot, true⟩ old new := by
  obtain ⟨htelemetry, hconfig⟩ := rate_limits_lose_nothing [] _ _ (ticked_spaced fun _ => false)
    (fun _ => rfl) (by decide) (by decide) firstSlot (by decide)
  refine ⟨htelemetry (.inr (.inr (.inr fun h => ?_))), hconfig (by decide)⟩
  exact absurd (congrFun h .cross) (by decide)

end Dstx
