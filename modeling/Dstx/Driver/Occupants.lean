/-
# Dstx.Driver.Occupants — does a controller notice who had its slot before?

`try_register_control` zeroes the slot's record, so that nothing in IT reaches the next controller but the
persistent settings.  The debounce table `g_phy_debounce` is a private array of the drivers, one row a slot;
registration does not touch it, and a new controller starts with the entries its predecessor left.  (The
driver of the Switch controllers clears its own context when it starts.)

This is a statement about TWO runs.  `newcomer_same_iff` has the exact condition under which no sequence of
reports tells two histories of the slot apart: the debounce is off, or the entries of all buttons that are
bound to something are `Alike`.  Being alike is kept by every sample, which is one direction; for the other
one, some reports tell entries apart that are not (`exists_telling_reports`): two samples of the button that
differs, and then as many as it takes until every other button reads as released in both runs.
-/
import Dstx.Driver.Triggers
import Dstx.Driver.Debounce
import Dstx.Daemon.Registration

namespace Dstx

open Dstx.Lib

/-! ## A slot and its occupants -/

/-- **A slot with what the drivers keep for it**: the settings and cells, the pad, and the row of
`g_phy_debounce`. -/
structure OccupiedSlot where
  slot : Slot
  driver : DriverState

/-- What happens to a slot. -/
inductive OccupantMove where
  /-- A controller is plugged in. -/
  | register (type : ControllerType) (isBluetooth : Bool)
  /-- A report of a DS4 or a DualSense. -/
  | report (r : Report)
  /-- The driver of a Switch controller, which has its own debounce, writes the pad. -/
  | nswInput (pad : Pad)
  /-- Any settings are changed. -/
  | settings (c : Controller)
  /-- The controller is gone. -/
  | disconnect

/-- The format of a controller's reports; a Switch controller has another driver. -/
def ControllerType.format : ControllerType → Option ReportFormat
  | .ds4 => some ds4Format
  | .dualsense => some dualsenseFormat
  | .nswPro => none

/-- The slot that `try_register_control` leaves: the record is new, THE DEBOUNCE TABLE IS NOT. -/
def OccupiedSlot.registered (s : OccupiedSlot) (type : ControllerType) (isBluetooth : Bool) :
    OccupiedSlot where
  slot := registerSlot s.slot type isBluetooth
  driver := { s.driver with pad := restPad }

section

variable (A : AxisMath)

/-- A report, translated for the controller in the slot. -/
def OccupiedSlot.reported (s : OccupiedSlot) (r : Report) : OccupiedSlot :=
  match s.slot.type.format with
  | some fmt => { s with driver := (translate A fmt s.slot.toController r s.driver).1 }
  | none => s

/-- **One move.**  Only a free slot is taken, and only a controller that is there reports. -/
def occupantStep (s : OccupiedSlot) (move : OccupantMove) : OccupiedSlot :=
  match move with
  | .register type isBluetooth => if s.slot.connected then s else s.registered type isBluetooth
  | .report r => if s.slot.connected then s.reported A r else s
  | .nswInput pad =>
      if s.slot.connected ∧ s.slot.type = .nswPro then { s with driver := { s.driver with pad := pad } }
      else s
  | .settings c => { s with slot := { s.slot with toController := c } }
  | .disconnect => { s with slot := { s.slot with connected := false } }

/-- The daemon starts: some slot, and a debounce table that is all zero. -/
def startedSlot (slot : Slot) (pad : Pad) : OccupiedSlot := ⟨slot, pad, fun _ => zeroDebounce⟩

/-- **The slot after a history.** -/
def OccupiedSlot.after (s : OccupiedSlot) (moves : List OccupantMove) : OccupiedSlot :=
  moves.foldl (occupantStep A) s

/-- **The logical buttons of a controller that is plugged in now**, after its reports. -/
def OccupiedSlot.newcomerButtons (s : OccupiedSlot) (type : ControllerType) (isBluetooth : Bool)
    (reports : List Report) : Button → Bool :=
  ((s.registered type isBluetooth).after A (reports.map .report)).driver.pad.buttons

end

/-- Both parts of a registered slot are those of the record that `try_register_control` leaves. -/
theorem registered_reconnect {ρ : Type} (zeroRest : ρ) (path : CStr) (type : ControllerType)
    (isBluetooth : Bool) (record : ControllerT ρ) (debounce : Button → Debounce) :
    OccupiedSlot.registered ⟨record.toSlot, record.toPad, debounce⟩ type isBluetooth =
      ⟨(reconnect zeroRest path type isBluetooth record).toSlot,
        (reconnect zeroRest path type isBluetooth record).toPad, debounce⟩ := by
  have hpad : (reconnect zeroRest path type isBluetooth record).toPad = restPad := by
    rw [reconnect_eq]
    unfold ControllerT.toPad restPad
    congr 1
    funext b
    cases b <;> rfl
  rw [toSlot_reconnect, hpad]
  rfl

/-! ## The reports of a newcomer -/

/-- The entry of a button after some reports. -/
def entryAfter (fmt : ReportFormat) (reports : List Report) (table : Button → Debounce) (p : Button) :
    Debounce := (samplesOf fmt p reports).foldl feed (table p)

theorem entryAfter_concat (fmt : ReportFormat) (reports : List Report) (r : Report)
    (table : Button → Debounce) (p : Button) :
    entryAfter fmt (reports ++ [r]) table p =
      debouncePhysical (r.now p) (phyRaw fmt r.buf p) (entryAfter fmt reports table p) := by
  simp [entryAfter, samplesOf, feed]

section

variable (A : AxisMath) {fmt : ReportFormat}

theorem after_concat (s : OccupiedSlot) (moves : List OccupantMove) (move : OccupantMove) :
    s.after A (moves ++ [move]) = occupantStep A (s.after A moves) move := by
  simp [OccupiedSlot.after]

/-- What a report of a controller that is there does. -/
theorem occupantStep_report {s : OccupiedSlot} (hconnected : s.slot.connected = true)
    (hfmt : s.slot.type.format = some fmt) (r : Report) :
    occupantStep A s (.report r) =
      { s with driver := (translate A fmt s.slot.toController r s.driver).1 } := by
  simp [occupantStep, OccupiedSlot.reported, hconnected, hfmt]

/-- The reports do not touch the slot, and feed the table when the debounce is on. -/
theorem after_reports {s : OccupiedSlot} (hconnected : s.slot.connected = true)
    (hfmt : s.slot.type.format = some fmt) (reports : List Report) :
    (s.after A (reports.map .report)).slot = s.slot ∧
      (s.after A (reports.map .report)).driver.debounce =
        if s.slot.debounceEnabled then entryAfter fmt reports s.driver.debounce
        else s.driver.debounce := by
  induction reports using List.reverseRecOn with
  | nil => exact ⟨rfl, by split <;> rfl⟩
  | append_singleton reports r ih =>
      obtain ⟨hslot, htable⟩ := ih
      rw [List.map_append, List.map_singleton, after_concat,
        occupantStep_report A (hslot ▸ hconnected) (hslot ▸ hfmt)]
      refine ⟨hslot, ?_⟩
      simp only [translate, debounceAll, hslot, htable]
      by_cases henabled : s.slot.debounceEnabled = true
      · simp only [henabled, if_true]
        funext p
        rw [entryAfter_concat]
      · simp only [henabled, if_false, Bool.false_eq_true]

/-- **The buttons after a sequence of reports**: with the debounce on, the last values of the entries. -/
theorem buttons_after_reports {s : OccupiedSlot} (hconnected : s.slot.connected = true)
    (hfmt : s.slot.type.format = some fmt) (reports : List Report) (r : Report) :
    (s.after A ((reports ++ [r]).map .report)).driver.pad.buttons =
      keysApplyMap s.slot.keymap
        (if s.slot.debounceEnabled then
          fun p => (entryAfter fmt (reports ++ [r]) s.driver.debounce p).stable
        else phyRaw fmt r.buf) := by
  obtain ⟨hslot, htable⟩ := after_reports A hconnected hfmt reports
  rw [List.map_append, List.map_singleton, after_concat,
    occupantStep_report A (hslot ▸ hconnected) (hslot ▸ hfmt)]
  simp only [translate, translatePad_buttons, phyStable, debounceAll, hslot, htable]
  by_cases henabled : s.slot.debounceEnabled = true
  · simp only [henabled, if_true]
    congr 1
    funext p
    rw [entryAfter_concat]
  · simp only [henabled, if_false, Bool.false_eq_true]

end

/-! ## Entries that no sample tells apart -/

/-- **Two entries are alike**: same returned value, same value being confirmed, and, while one IS being
confirmed, since the same time.  The stale time of an entry at rest does not count. -/
structure Alike (a b : Debounce) : Prop where
  stable : a.stable = b.stable
  pending : a.pending = b.pending
  since : a.pending ≠ a.stable → a.lastChangeUs = b.lastChangeUs

/-- A sample leaves alike entries alike. -/
theorem Alike.feed {a b : Debounce} (h : Alike a b) (s : Sample) : Alike (feed a s) (feed b s) := by
  unfold Dstx.feed debouncePhysical
  rw [← h.stable, ← h.pending]
  by_cases hstable : s.raw = a.stable
  · rw [if_pos hstable, if_pos hstable]
    exact ⟨rfl, rfl, fun hne => absurd hstable hne⟩
  · rw [if_neg hstable, if_neg hstable]
    by_cases hpending : s.raw = a.pending
    · rw [if_pos hpending, if_pos hpending, ← h.since (hpending ▸ hstable)]
      split
      · exact ⟨rfl, rfl, fun hne => absurd rfl hne⟩
      · exact h
    · rw [if_neg hpending, if_neg hpending]
      exact ⟨rfl, rfl, fun _ => rfl⟩

/-- So does a whole history. -/
theorem Alike.foldl {a b : Debounce} (h : Alike a b) (samples : List Sample) :
    Alike (samples.foldl Dstx.feed a) (samples.foldl Dstx.feed b) := by
  induction samples generalizing a b with
  | nil => exact h
  | cons s samples ih => exact ih (h.feed s)

/-! ## Entries that two samples tell apart -/

/-- Whatever the sample, the value of an entry being confirmed is then that of the sample. -/
theorem feed_pending (a : Debounce) (s : Sample) : (feed a s).pending = s.raw := by
  unfold feed debouncePhysical
  split_ifs <;> simp_all

/-- A sample of the returned value changes nothing that is returned. -/
theorem feed_stable_of_eq {a : Debounce} {s : Sample} (h : s.raw = a.stable) :
    (feed a s).stable = a.stable := by
  simp [feed, debouncePhysical, h]

/-- A value that has been confirmed for long enough is returned. -/
theorem feed_stable_of_late {a : Debounce} {s : Sample} (hpending : s.raw = a.pending)
    (hlate : s.time - a.lastChangeUs ≥ debounceDelayUs) : (feed a s).stable = s.raw := by
  unfold feed debouncePhysical
  by_cases hstable : s.raw = a.stable
  · simp [hstable]
  · rw [if_neg hstable, if_pos hpending, if_pos hlate]

/-- An entry at rest, or one that began to confirm its value JUST NOW, keeps what it returns, and again. -/
theorem feed_stable_of_fresh {a : Debounce} {s : Sample}
    (h : a.pending = a.stable ∨ a.lastChangeUs = s.time) :
    (feed a s).stable = a.stable ∧
      (s.raw = (feed a s).stable ∨ (feed a s).lastChangeUs = s.time) := by
  have hnow : ¬(s.time - s.time ≥ debounceDelayUs) := by
    rw [UInt64.sub_self]
    decide
  unfold feed debouncePhysical
  by_cases hstable : s.raw = a.stable
  · simp [hstable]
  · rw [if_neg hstable]
    by_cases hpending : s.raw = a.pending
    · have hlast : a.lastChangeUs = s.time :=
        h.resolve_left fun hrest => hstable (hpending.trans hrest)
      rw [if_pos hpending, hlast, if_neg hnow]
      exact ⟨rfl, Or.inr hlast⟩
    · rw [if_neg hpending]
      exact ⟨rfl, Or.inr rfl⟩

/-- Twice the same sample, at a time when one entry is due and the other one is not. -/
theorem feed_feed_ne {a b : Debounce} {s : Sample} (hstable : a.stable = b.stable)
    (hpending : s.raw = a.pending) (hraw : s.raw ≠ a.stable)
    (hlate : s.time - a.lastChangeUs ≥ debounceDelayUs)
    (hfresh : b.pending = b.stable ∨ b.lastChangeUs = s.time) :
    (feed (feed a s) s).stable ≠ (feed (feed b s) s).stable := by
  have ha := feed_stable_of_late hpending hlate
  obtain ⟨hb, hagain⟩ := feed_stable_of_fresh hfresh
  have hb' : (feed (feed b s) s).stable = (feed b s).stable := by
    rcases hagain with heq | hlast
    · exact feed_stable_of_eq heq
    · exact (feed_stable_of_fresh (Or.inr hlast)).1
  rw [feed_stable_of_eq ha.symm, ha, hb', hb, ← hstable]
  exact hraw

/-- The delay after a moment, the delay has passed. -/
theorem late_own (l : UInt64) : l + debounceDelayUs - l ≥ debounceDelayUs := by
  rw [UInt64.add_comm, UInt64.add_sub_cancel]
  exact UInt64.le_refl _

/-- Of two different moments, one is late with respect to the other: the clock is counted modulo 2^64. -/
theorem late_or_late {a b : UInt64} (h : a ≠ b) :
    b - a ≥ debounceDelayUs ∨ a - b ≥ debounceDelayUs := by
  have hne : a.toNat ≠ b.toNat := fun heq => h (UInt64.toNat_inj.mp heq)
  have ha := a.toNat_lt
  have hb := b.toNat_lt
  show debounceDelayUs ≤ b - a ∨ debounceDelayUs ≤ a - b
  rw [UInt64.le_iff_toNat_le, UInt64.le_iff_toNat_le, UInt64.toNat_sub, UInt64.toNat_sub]
  show 15000 ≤ _ ∨ 15000 ≤ _
  omega

/-- **Entries that are not alike are told apart** by some sample, given twice. -/
theorem exists_telling {a b : Debounce} (h : ¬Alike a b) :
    ∃ s : Sample, (feed (feed a s) s).stable ≠ (feed (feed b s) s).stable := by
  by_cases hstable : a.stable = b.stable
  · by_cases hpending : a.pending = b.pending
    · -- both confirm the same value, since different times
      have hwaits : a.pending ≠ a.stable := fun heq =>
        h ⟨hstable, hpending, fun hne => absurd heq hne⟩
      have hlast : a.lastChangeUs ≠ b.lastChangeUs := fun heq => h ⟨hstable, hpending, fun _ => heq⟩
      rcases late_or_late hlast with hlate | hlate
      · exact ⟨⟨b.lastChangeUs, a.pending⟩, feed_feed_ne hstable rfl hwaits hlate (Or.inr rfl)⟩
      · refine ⟨⟨a.lastChangeUs, a.pending⟩, Ne.symm ?_⟩
        exact feed_feed_ne hstable.symm hpending (hstable ▸ hwaits) hlate (Or.inr rfl)
    · -- one of them is at rest
      by_cases hrest : b.pending = b.stable
      · have hwaits : a.pending ≠ a.stable := fun heq =>
          hpending (heq.trans (hstable.trans hrest.symm))
        exact ⟨⟨a.lastChangeUs + debounceDelayUs, a.pending⟩,
          feed_feed_ne hstable rfl hwaits (late_own _) (Or.inl hrest)⟩
      · have hrest' : a.pending = a.stable := by
          revert hpending hrest
          rw [hstable]
          cases a.pending <;> cases b.pending <;> cases b.stable <;> simp
        refine ⟨⟨b.lastChangeUs + debounceDelayUs, b.pending⟩, Ne.symm ?_⟩
        exact feed_feed_ne hstable.symm rfl hrest (late_own _) (Or.inl hrest')
  · -- the value that one of them returns, at a time when the other one is not due
    refine ⟨⟨a.lastChangeUs, b.stable⟩, ?_⟩
    obtain ⟨ha, hagain⟩ := feed_stable_of_fresh (a := a) (s := ⟨a.lastChangeUs, b.stable⟩) (Or.inr rfl)
    have hlast := hagain.resolve_left fun heq => hstable (ha.symm.trans heq.symm)
    have hb := feed_stable_of_eq (a := b) (s := ⟨a.lastChangeUs, b.stable⟩) rfl
    rw [(feed_stable_of_fresh (Or.inr hlast)).1, ha, feed_stable_of_eq hb.symm, hb]
    exact hstable

/-- A moment at which the delay has passed since two given ones. -/
theorem exists_late (a b : UInt64) : ∃ t, t - a ≥ debounceDelayUs ∧ t - b ≥ debounceDelayUs := by
  have ha := a.toNat_lt
  have hb := b.toNat_lt
  have hor : (a + debounceDelayUs - b ≥ debounceDelayUs) ∨ (b + debounceDelayUs - a ≥ debounceDelayUs) := by
    show debounceDelayUs ≤ a + debounceDelayUs - b ∨ debounceDelayUs ≤ b + debounceDelayUs - a
    rw [UInt64.le_iff_toNat_le, UInt64.le_iff_toNat_le, UInt64.toNat_sub, UInt64.toNat_sub,
      UInt64.toNat_add, UInt64.toNat_add]
    show 15000 ≤ (_ + (_ + 15000) % _) % _ ∨ 15000 ≤ (_ + (_ + 15000) % _) % _
    omega
  rcases hor with h | h
  · exact ⟨a + debounceDelayUs, late_own a, h⟩
  · exact ⟨b + debounceDelayUs, h, late_own b⟩

/-- Any two entries, given a released button twice, at suitable times, return it as released. -/
theorem exists_released (a b : Debounce) : ∃ t : UInt64,
    (feed (feed a ⟨0, false⟩) ⟨t, false⟩).stable = false ∧
      (feed (feed b ⟨0, false⟩) ⟨t, false⟩).stable = false := by
  obtain ⟨t, ha, hb⟩ := exists_late (feed a ⟨0, false⟩).lastChangeUs (feed b ⟨0, false⟩).lastChangeUs
  have hreleased (c : Debounce) : (⟨t, false⟩ : Sample).raw = (feed c ⟨0, false⟩).pending :=
    (feed_pending c ⟨0, false⟩).symm
  exact ⟨t, feed_stable_of_late (hreleased a) ha, feed_stable_of_late (hreleased b) hb⟩

/-! ## Samples that tell tables apart -/

/-- The sample that another button gets, which is up. -/
def Sample.up (s : Sample) : Sample := ⟨s.time, false⟩

/-- A released button stays released. -/
theorem foldl_feed_up {a : Debounce} (h : a.stable = false) (samples : List Sample) :
    ((samples.map Sample.up).foldl feed a).stable = false := by
  induction samples generalizing a with
  | nil => exact h
  | cons s samples ih => exact ih ((feed_stable_of_eq (s := s.up) h.symm).trans h)

/-- **Other buttons are released**, one after the other, while an entry that returns 1, and one at rest that
returns 0, go on doing so. -/
theorem exists_draining (table table' : Button → Debounce) {a b : Debounce} (ha : a.stable = true)
    (hb : b.stable = false) (hrest : b.pending = false) (qs : List Button) :
    ∃ samples : List Sample, (samples.foldl feed a).stable = true ∧
      (samples.foldl feed b).stable = false ∧ (samples.foldl feed b).pending = false ∧
      ∀ q ∈ qs, ((samples.map Sample.up).foldl feed (table q)).stable = false ∧
        ((samples.map Sample.up).foldl feed (table' q)).stable = false := by
  induction qs with
  | nil => exact ⟨[], ha, hb, hrest, by simp⟩
  | cons q qs ih =>
      obtain ⟨samples, ha', hb', hrest', hqs⟩ := ih
      obtain ⟨t, ht, ht'⟩ := exists_released ((samples.map Sample.up).foldl feed (table q))
        ((samples.map Sample.up).foldl feed (table' q))
      -- the button itself is pressed once, and then released at a time that suits `q`
      refine ⟨samples ++ [⟨0, true⟩, ⟨t, false⟩], ?_, ?_, ?_, fun q' hq' => ?_⟩
      · have hpressed : (feed (samples.foldl feed a) ⟨0, true⟩).stable = true :=
          (feed_stable_of_eq ha'.symm).trans ha'
        have hconfirmed := (feed_pending (samples.foldl feed a) ⟨0, true⟩).trans hpressed.symm
        simp only [List.foldl_append, List.foldl_cons, List.foldl_nil]
        exact (feed_stable_of_fresh (Or.inl hconfirmed)).1.trans hpressed
      · have hpressed : (feed (samples.foldl feed b) ⟨0, true⟩).stable = false :=
          (feed_stable_of_fresh (Or.inl (hrest'.trans hb'.symm))).1.trans hb'
        simp only [List.foldl_append, List.foldl_cons, List.foldl_nil]
        exact (feed_stable_of_eq hpressed.symm).trans hpressed
      · simp only [List.foldl_append, List.foldl_cons, List.foldl_nil]
        exact feed_pending _ _
      · simp only [List.map_append, List.foldl_append]
        rcases List.mem_cons.mp hq' with rfl | hmem
        · exact ⟨ht, ht'⟩
        · exact ⟨foldl_feed_up (hqs q' hmem).1 _, foldl_feed_up (hqs q' hmem).2 _⟩

/-- Entries that return different values: some samples more, and every other button is released. -/
theorem exists_telling_of_stable (table table' : Button → Debounce) (p : Button) {samples : List Sample}
    (ha : (samples.foldl feed (table p)).stable = true)
    (hb : (samples.foldl feed (table' p)).stable = false) :
    ∃ samples' : List Sample, samples' ≠ [] ∧ (samples'.foldl feed (table p)).stable = true ∧
      (samples'.foldl feed (table' p)).stable = false ∧
      ∀ q, ((samples'.map Sample.up).foldl feed (table q)).stable = false ∧
        ((samples'.map Sample.up).foldl feed (table' q)).stable = false := by
  -- first the entry that returns 0 is put at rest, at a time when the other one is not due
  let s : Sample := ⟨(samples.foldl feed (table p)).lastChangeUs, false⟩
  have ha' : ((samples ++ [s]).foldl feed (table p)).stable = true := by
    simp only [List.foldl_append, List.foldl_cons, List.foldl_nil]
    exact (feed_stable_of_fresh (Or.inr rfl)).1.trans ha
  have hb' : ((samples ++ [s]).foldl feed (table' p)).stable = false := by
    simp only [List.foldl_append, List.foldl_cons, List.foldl_nil]
    exact (feed_stable_of_eq hb.symm).trans hb
  have hrest : ((samples ++ [s]).foldl feed (table' p)).pending = false := by
    simp only [List.foldl_append, List.foldl_cons, List.foldl_nil]
    exact feed_pending _ s
  obtain ⟨rest, hself, hself', -, hothers⟩ := exists_draining
    (fun q => ((samples ++ [s]).map Sample.up).foldl feed (table q))
    (fun q => ((samples ++ [s]).map Sample.up).foldl feed (table' q)) ha' hb' hrest Button.all
  refine ⟨(samples ++ [s]) ++ rest, by simp, ?_, ?_, fun q => ?_⟩
  · rw [List.foldl_append]
    exact hself
  · rw [List.foldl_append]
    exact hself'
  · rw [List.map_append, List.foldl_append, List.foldl_append]
    exact hothers q (Button.mem_all q)

/-- **Some samples tell two tables apart** whose entries for `p` are not alike, in that only `p` can read
differently in the end. -/
theorem exists_telling_samples (table table' : Button → Debounce) {p : Button}
    (h : ¬Alike (table p) (table' p)) :
    ∃ samples : List Sample, samples ≠ [] ∧
      (samples.foldl feed (table p)).stable ≠ (samples.foldl feed (table' p)).stable ∧
      ∀ q, ((samples.map Sample.up).foldl feed (table q)).stable = false ∧
        ((samples.map Sample.up).foldl feed (table' q)).stable = false := by
  obtain ⟨s, hs⟩ := exists_telling h
  cases ha : (feed (feed (table p) s) s).stable with
  | true =>
      have hb : (feed (feed (table' p) s) s).stable = false := by
        rw [ha] at hs
        simpa using hs.symm
      obtain ⟨samples, hne, hself, hself', hothers⟩ :=
        @exists_telling_of_stable table table' p [s, s] ha hb
      exact ⟨samples, hne, by simp [hself, hself'], hothers⟩
  | false =>
      have hb : (feed (feed (table' p) s) s).stable = true := by
        rw [ha] at hs
        simpa using hs.symm
      obtain ⟨samples, hne, hself, hself', hothers⟩ :=
        @exists_telling_of_stable table' table p [s, s] hb ha
      exact ⟨samples, hne, by simp [hself, hself'], fun q => (hothers q).symm⟩

/-! ## Reports that tell tables apart -/

/-- The three button bytes with one button down, or none: in the first, 8 is the released pad. -/
def buttonBytes : Option Button → UInt8 × UInt8 × UInt8
  | none => (8, 0, 0)
  | some .square => (0x18, 0, 0)
  | some .cross => (0x28, 0, 0)
  | some .circle => (0x48, 0, 0)
  | some .triangle => (0x88, 0, 0)
  | some .dpadUp => (0, 0, 0)
  | some .dpadDown => (4, 0, 0)
  | some .dpadLeft => (6, 0, 0)
  | some .dpadRight => (2, 0, 0)
  | some .l1 => (8, 0x01, 0)
  | some .r1 => (8, 0x02, 0)
  | some .l2 => (8, 0x04, 0)
  | some .r2 => (8, 0x08, 0)
  | some .share => (8, 0x10, 0)
  | some .options => (8, 0x20, 0)
  | some .l3 => (8, 0x40, 0)
  | some .r3 => (8, 0x80, 0)
  | some .ps => (8, 0, 0x01)
  | some .touch => (8, 0, 0x02)

/-- A USB report with one button down, or none. -/
def buttonReport (fmt : ReportFormat) (down : Option Button) (i : Nat) : UInt8 :=
  if i = 0 then 0x01
  else if i = 1 + fmt.buttons then (buttonBytes down).1
  else if i = 1 + fmt.buttons + 1 then (buttonBytes down).2.1
  else if i = 1 + fmt.buttons + 2 then (buttonBytes down).2.2
  else 128

/-- The formats of the two controllers. -/
theorem format_cases {type : ControllerType} {fmt : ReportFormat} (h : type.format = some fmt) :
    fmt = ds4Format ∨ fmt = dualsenseFormat := by
  cases type with
  | ds4 => exact Or.inl (Option.some.inj h).symm
  | dualsense => exact Or.inr (Option.some.inj h).symm
  | nswPro => cases h

/-- In such a report that button is down, and no other one. -/
theorem phyRaw_buttonReport {fmt : ReportFormat} (hfmt : fmt = ds4Format ∨ fmt = dualsenseFormat)
    (down : Option Button) (p : Button) :
    phyRaw fmt (buttonReport fmt down) p = decide (down = some p) := by
  have hds4 : ∀ down ∈ none :: Button.all.map some, ∀ p ∈ Button.all,
      phyRaw ds4Format (buttonReport ds4Format down) p = decide (down = some p) := by decide +kernel
  have hdualsense : ∀ down ∈ none :: Button.all.map some, ∀ p ∈ Button.all,
      phyRaw dualsenseFormat (buttonReport dualsenseFormat down) p = decide (down = some p) := by
    decide +kernel
  have hdown : down ∈ none :: Button.all.map some := by
    cases down with
    | none => exact List.mem_cons_self
    | some q => exact List.mem_cons_of_mem _ (List.mem_map_of_mem (Button.mem_all q))
  rcases hfmt with rfl | rfl
  · exact hds4 down hdown p (Button.mem_all p)
  · exact hdualsense down hdown p (Button.mem_all p)

/-- With all other buttons up, a logical button shows the one that is bound to it. -/
theorem keysApplyMap_alone {keymap : Keymap} {stable : Button → Bool} {p b : Button}
    (hbound : keymap p.phy = b.logical) (hothers : ∀ q, q ≠ p → stable q = false) :
    keysApplyMap keymap stable b = stable p := by
  rw [Bool.eq_iff_iff, keysApplyMap_eq_true_iff]
  constructor
  · rintro ⟨q, hq, -⟩
    by_cases hqp : q = p
    · exact hqp ▸ hq
    · rw [hothers q hqp] at hq
      cases hq
  · intro hp
    exact ⟨p, hp, hbound⟩

/-- All debounce calls for a report read the same time. -/
def Report.AtOneTime (r : Report) : Prop := ∃ time, r.now = fun _ => time

/-- The report that gives `p` the sample, and every other button one with the button up. -/
def sampleReport (fmt : ReportFormat) (p : Button) (s : Sample) : Report where
  buf := buttonReport fmt (if s.raw then some p else none)
  now := fun _ => s.time

theorem samplesOf_sampleReport {fmt : ReportFormat} (hfmt : fmt = ds4Format ∨ fmt = dualsenseFormat)
    (p q : Button) (samples : List Sample) :
    samplesOf fmt q (samples.map (sampleReport fmt p)) =
      if q = p then samples else samples.map Sample.up := by
  have hraw : ∀ s : Sample, phyRaw fmt (sampleReport fmt p s).buf q = (s.raw && decide (q = p)) := by
    intro s
    show phyRaw fmt (buttonReport fmt (if s.raw then some p else none)) q = _
    rw [phyRaw_buttonReport hfmt]
    cases s.raw with
    | false => simp
    | true => simp [eq_comm]
  unfold samplesOf
  rw [List.map_map]
  by_cases hq : q = p
  · rw [if_pos hq]
    refine List.map_id'' (fun s => ?_) samples
    rw [Function.comp_apply, hraw s, decide_eq_true hq, Bool.and_true]
    rfl
  · rw [if_neg hq]
    refine List.map_congr_left fun s _ => ?_
    rw [Function.comp_apply, hraw s, decide_eq_false hq, Bool.and_false]
    rfl

/-- **Some reports tell two tables apart** whose entries for `p` are not alike: in the end every other button
reads as released in both runs, and `p` does not read the same. -/
theorem exists_telling_reports {fmt : ReportFormat} (hfmt : fmt = ds4Format ∨ fmt = dualsenseFormat)
    (table table' : Button → Debounce) {p : Button} (h : ¬Alike (table p) (table' p)) :
    ∃ reports : List Report, reports ≠ [] ∧ (∀ r ∈ reports, r.AtOneTime) ∧
      (∀ q, q ≠ p → (entryAfter fmt reports table q).stable = false ∧
        (entryAfter fmt reports table' q).stable = false) ∧
      (entryAfter fmt reports table p).stable ≠ (entryAfter fmt reports table' p).stable := by
  obtain ⟨samples, hne, hself, hothers⟩ := exists_telling_samples table table' h
  refine ⟨samples.map (sampleReport fmt p), by simpa using hne, fun r hr => ?_, fun q hq => ?_, ?_⟩
  · obtain ⟨s, -, rfl⟩ := List.mem_map.mp hr
    exact ⟨s.time, rfl⟩
  · simp only [entryAfter, samplesOf_sampleReport hfmt, if_neg hq]
    exact hothers q
  · simp only [entryAfter, samplesOf_sampleReport hfmt, if_true]
    exact hself

/-! ## The newcomer -/

/-- Only the buttons that are bound to something count. -/
theorem keysApplyMap_congr {keymap : Keymap} {stable stable' : Button → Bool}
    (h : ∀ p b : Button, keymap p.phy = b.logical → stable p = stable' p) :
    keysApplyMap keymap stable = keysApplyMap keymap stable' := by
  funext b
  rw [Bool.eq_iff_iff, keysApplyMap_eq_true_iff, keysApplyMap_eq_true_iff]
  refine exists_congr fun p => and_congr_left fun hbound => ?_
  rw [h p b hbound]

section

variable (A : AxisMath) {type : ControllerType} {fmt : ReportFormat}

/-- **The condition**, on the settings and the tables of two slots: the debounce is off, or the entries of
every button that is bound to something are alike. -/
def EntriesAlike (s s' : OccupiedSlot) : Prop :=
  s.slot.debounceEnabled = false ∨
    ∀ p b : Button, s.slot.keymap p.phy = b.logical → Alike (s.driver.debounce p) (s'.driver.debounce p)

/-- The buttons of a newcomer after its reports, in terms of the slot it took. -/
theorem newcomerButtons_eq (hfmt : type.format = some fmt) (isBluetooth : Bool) (s : OccupiedSlot)
    (reports : List Report) (r : Report) :
    s.newcomerButtons A type isBluetooth (reports ++ [r]) =
      keysApplyMap s.slot.keymap
        (if s.slot.debounceEnabled then
          fun p => (entryAfter fmt (reports ++ [r]) s.driver.debounce p).stable
        else phyRaw fmt r.buf) :=
  buttons_after_reports A (s := s.registered type isBluetooth) rfl hfmt reports r

/-- Under the condition, a newcomer's buttons are the same on both slots. -/
theorem newcomerButtons_congr {s s' : OccupiedSlot} (hfmt : type.format = some fmt) (isBluetooth : Bool)
    (hcfg : controllerToSlotConfig s.slot.toController = controllerToSlotConfig s'.slot.toController)
    (h : EntriesAlike s s') (reports : List Report) :
    s.newcomerButtons A type isBluetooth reports = s'.newcomerButtons A type isBluetooth reports := by
  have hkeymap : s.slot.keymap = s'.slot.keymap := congrArg SlotConfig.keymap hcfg
  have henabled : s.slot.debounceEnabled = s'.slot.debounceEnabled :=
    congrArg SlotConfig.debounceEnabled hcfg
  rcases reports.eq_nil_or_concat' with rfl | ⟨reports, r, rfl⟩
  · rfl
  · rw [newcomerButtons_eq A hfmt, newcomerButtons_eq A hfmt, ← hkeymap, ← henabled]
    rcases h with hoff | halike
    · simp only [hoff, Bool.false_eq_true, if_false]
    · refine keysApplyMap_congr fun p b hbound => ?_
      split
      · exact ((halike p b hbound).foldl _).stable
      · rfl

/-- Without it, some reports make a difference, and each of them has one time for all buttons. -/
theorem entriesAlike_of_newcomerButtons {s s' : OccupiedSlot} (hfmt : type.format = some fmt)
    (isBluetooth : Bool)
    (hcfg : controllerToSlotConfig s.slot.toController = controllerToSlotConfig s'.slot.toController)
    (h : ∀ reports : List Report, (∀ r ∈ reports, r.AtOneTime) →
      s.newcomerButtons A type isBluetooth reports = s'.newcomerButtons A type isBluetooth reports) :
    EntriesAlike s s' := by
  have hkeymap : s.slot.keymap = s'.slot.keymap := congrArg SlotConfig.keymap hcfg
  have henabled : s.slot.debounceEnabled = s'.slot.debounceEnabled :=
    congrArg SlotConfig.debounceEnabled hcfg
  unfold EntriesAlike
  by_cases hoff : s.slot.debounceEnabled = false
  · exact Or.inl hoff
  refine Or.inr fun p b hbound => ?_
  by_contra hunlike
  obtain ⟨reports, hne, hone, hothers, hself⟩ := exists_telling_reports (format_cases hfmt) _ _ hunlike
  have hon : s.slot.debounceEnabled = true := by simpa using hoff
  -- at the logical button `b`, both runs show what they return for `p`
  have hsame := congrFun (h reports hone) b
  rw [← List.dropLast_concat_getLast hne] at hothers hself hsame
  rw [newcomerButtons_eq A hfmt, newcomerButtons_eq A hfmt, ← hkeymap, ← henabled, if_pos hon, if_pos hon,
    keysApplyMap_alone hbound fun q hq => (hothers q hq).1,
    keysApplyMap_alone hbound fun q hq => (hothers q hq).2] at hsame
  exact hself hsame

/-- **When a newcomer does not notice who was there before.**  For any two histories of a slot since the
daemon started that leave the same persistent settings, a DS4 or DualSense that is registered then shows the
same logical buttons on the same reports, for every sequence of reports, if and only if the debounce is off
or the debounce entries that the histories left are alike, for every button that is bound to something.

The clock is the wall clock, read anew for every button, so that the times are any; that the condition is
needed shows on reports with one time for all buttons. -/
theorem newcomer_same_iff (htype : type ≠ .nswPro) (isBluetooth : Bool) (slot slot' : Slot)
    (pad pad' : Pad) (history history' : List OccupantMove)
    (hcfg : controllerToSlotConfig ((startedSlot slot pad).after A history).slot.toController =
      controllerToSlotConfig ((startedSlot slot' pad').after A history').slot.toController) :
    (∀ reports : List Report,
      ((startedSlot slot pad).after A history).newcomerButtons A type isBluetooth reports =
        ((startedSlot slot' pad').after A history').newcomerButtons A type isBluetooth reports) ↔
      EntriesAlike ((startedSlot slot pad).after A history)
        ((startedSlot slot' pad').after A history') := by
  obtain ⟨fmt, hfmt⟩ : ∃ fmt, type.format = some fmt := by
    cases type with
    | ds4 => exact ⟨_, rfl⟩
    | dualsense => exact ⟨_, rfl⟩
    | nswPro => exact absurd rfl htype
  constructor
  · intro h
    exact entriesAlike_of_newcomerButtons A hfmt isBluetooth hcfg fun reports _ => h reports
  · exact newcomerButtons_congr A hfmt isBluetooth hcfg

end

/-! ## A button that was held -/

/-- Only a change of settings changes the settings. -/
theorem controllerToSlotConfig_occupantStep (A : AxisMath) (s : OccupiedSlot) {move : OccupantMove}
    (hmove : ∀ c, move ≠ .settings c) :
    controllerToSlotConfig (occupantStep A s move).slot.toController =
      controllerToSlotConfig s.slot.toController := by
  cases move with
  | register type isBluetooth =>
      show controllerToSlotConfig (if s.slot.connected = true then s
        else s.registered type isBluetooth).slot.toController = _
      split
      · rfl
      · exact controllerToSlotConfig_slotConfigToController _ zeroController
  | report r =>
      show controllerToSlotConfig (if s.slot.connected = true then s.reported A r
        else s).slot.toController = _
      unfold OccupiedSlot.reported
      split
      · split <;> rfl
      · rfl
  | nswInput pad =>
      unfold occupantStep
      dsimp only
      split <;> rfl
  | settings c => exact absurd rfl (hmove c)
  | disconnect => rfl

theorem controllerToSlotConfig_after (A : AxisMath) {moves : List OccupantMove}
    (hmoves : ∀ c, .settings c ∉ moves) (s : OccupiedSlot) :
    controllerToSlotConfig (s.after A moves).slot.toController =
      controllerToSlotConfig s.slot.toController := by
  induction moves generalizing s with
  | nil => rfl
  | cons move moves ih =>
      show controllerToSlotConfig ((occupantStep A s move).after A moves).slot.toController = _
      rw [ih fun c hc => hmoves c (List.mem_cons_of_mem _ hc)]
      exact controllerToSlotConfig_occupantStep A s fun c hc => hmoves c (hc ▸ List.mem_cons_self)

/-- The slot as the daemon starts with it, with the debounce switched on. -/
def debouncedSlot : Slot where
  toController := { initialController with debounceEnabled := true }
  toCells := initialCells

/-- A DS4 report at one time, with one button down or none. -/
def ds4At (time : UInt64) (down : Option Button) : Report := ⟨buttonReport ds4Format down, fun _ => time⟩

/-- A DS4 is unplugged while its cross button is held. -/
def unpluggedHolding : List OccupantMove :=
  [.register .ds4 false, .report (ds4At 1000 (some .cross)), .report (ds4At 20000 (some .cross)),
    .disconnect]

theorem newcomer_same_iff_unplugged :
    (∀ reports : List Report,
      ((startedSlot debouncedSlot restPad).after exampleAxisMath unpluggedHolding).newcomerButtons
          exampleAxisMath .dualsense true reports =
        ((startedSlot debouncedSlot restPad).after exampleAxisMath [.disconnect]).newcomerButtons
          exampleAxisMath .dualsense true reports) ↔
      EntriesAlike ((startedSlot debouncedSlot restPad).after exampleAxisMath unpluggedHolding)
        ((startedSlot debouncedSlot restPad).after exampleAxisMath [.disconnect]) :=
  newcomer_same_iff exampleAxisMath (by decide) true debouncedSlot debouncedSlot restPad restPad
    unpluggedHolding [.disconnect]
    ((controllerToSlotConfig_after exampleAxisMath (by simp [unpluggedHolding]) _).trans
      (controllerToSlotConfig_after exampleAxisMath (by simp) _).symm)

/-- **The held button comes back.**  The next controller reports NOTHING pressed, 80 ms later, and its cross
button reads as down; on a slot that had no occupant it reads as up.  The settings are the same. -/
theorem held_button_inherited :
    controllerToSlotConfig ((startedSlot debouncedSlot restPad).after exampleAxisMath
        unpluggedHolding).slot.toController =
      controllerToSlotConfig ((startedSlot debouncedSlot restPad).after exampleAxisMath
        []).slot.toController ∧
    ((startedSlot debouncedSlot restPad).after exampleAxisMath unpluggedHolding).newcomerButtons
      exampleAxisMath .ds4 false [ds4At 100000 none] .cross = true ∧
    ((startedSlot debouncedSlot restPad).after exampleAxisMath []).newcomerButtons
      exampleAxisMath .ds4 false [ds4At 100000 none] .cross = false := by
  refine ⟨controllerToSlotConfig_after exampleAxisMath (by simp [unpluggedHolding]) _, ?_, ?_⟩
  · decide +kernel
  · decide +kernel

end Dstx
