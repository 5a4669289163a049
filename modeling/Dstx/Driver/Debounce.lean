/-
# Dstx.Driver.Debounce — what `debounce_physical` filters, over whole histories of samples.

The function keeps three fields per button: the value it returns, the value being confirmed, and the time the
latter was first seen.  A value that comes back to the returned one leaves the time as it is, so that the
field is stale until the next change; what makes this sound is the invariant `TracksRun`: whenever a value IS
being confirmed, the time is that of the first sample of the run the history ends in.

`debounce_reference` compares the function with the filter one would write down: a sample changes the
returned value to its own exactly when the unbroken run of that value that it ends is old enough.
-/
import Dstx.Driver.Translate
import Mathlib.Data.List.DropRight

namespace Dstx

/-! ## Histories -/

/-- A sample of one button: the clock of the debounce call, and the raw value. -/
structure Sample where
  time : UInt64
  raw : Bool

/-- An entry of `g_phy_debounce` as the program starts with it. -/
def zeroDebounce : Debounce := ⟨0, false, false⟩

/-- One call. -/
def feed (db : Debounce) (s : Sample) : Debounce := debouncePhysical s.time s.raw db

/-- **The entry after a history**, fed from the zero state. -/
def debounceRun (samples : List Sample) : Debounce := samples.foldl feed zeroDebounce

/-- **When the run that `s` ends began**: the time of the first sample of the unbroken run of the value of
`s`, among the samples before it; `s` itself when the one before has the other value. -/
def runStart (before : List Sample) (s : Sample) : UInt64 :=
  ((before.rtakeWhile fun s' => s'.raw == s.raw).head?.map Sample.time).getD s.time

/-- The times do not go back. -/
def Chronological (samples : List Sample) : Prop := samples.Pairwise fun a b => a.time ≤ b.time

theorem debounceRun_concat (samples : List Sample) (s : Sample) :
    debounceRun (samples ++ [s]) = debouncePhysical s.time s.raw (debounceRun samples) := by
  simp [debounceRun, feed]

/-- A sample of the same value goes on with the run, one of the other value begins a new one. -/
theorem runStart_concat (before : List Sample) (s' s : Sample) :
    runStart (before ++ [s']) s = if s'.raw = s.raw then runStart before s' else s.time := by
  unfold runStart
  by_cases hraw : s'.raw = s.raw
  · rw [if_pos hraw, List.rtakeWhile_concat_pos _ _ _ (by simpa using hraw), hraw]
    cases hrun : before.rtakeWhile fun s' => s'.raw == s.raw with
    | nil => simp
    | cons a run => simp
  · rw [if_neg hraw, List.rtakeWhile_concat_neg _ _ _ (by simpa using hraw)]
    simp

theorem runStart_le {before : List Sample} {s : Sample} (h : Chronological (before ++ [s])) :
    runStart before s ≤ s.time := by
  unfold runStart
  cases hrun : (before.rtakeWhile fun s' => s'.raw == s.raw).head? with
  | none => simp
  | some a =>
      have hmem : a ∈ before :=
        (List.rtakeWhile_suffix _ _).subset (List.mem_of_mem_head? hrun)
      simpa using (List.pairwise_append.mp h).2.2 a hmem s (by simp)

/-- With the clock not behind, the difference of the source is a difference of numbers. -/
theorem delay_passed_iff {now start : UInt64} (h : start ≤ now) :
    now - start ≥ debounceDelayUs ↔ start.toNat + 15000 ≤ now.toNat := by
  have hsub := UInt64.toNat_sub_of_le now start h
  have hle := UInt64.le_iff_toNat_le.mp h
  show debounceDelayUs ≤ now - start ↔ _
  rw [UInt64.le_iff_toNat_le, hsub]
  show 15000 ≤ now.toNat - start.toNat ↔ _
  omega

/-! ## The invariant -/

/-- **What the entry knows of the history**: the last value, and, while that value is being confirmed, when
its run began. -/
structure TracksRun (samples : List Sample) (db : Debounce) : Prop where
  pending : db.pending = (samples.getLast?.map Sample.raw).getD false
  lastChange : db.stable ≠ db.pending →
    ∃ before s, samples = before ++ [s] ∧ db.lastChangeUs = runStart before s

theorem tracksRun_zero : TracksRun [] zeroDebounce := ⟨rfl, fun h => absurd rfl h⟩

/-- Another sample: the invariant is kept, and the returned value is the one of the filter. -/
theorem TracksRun.step {samples : List Sample} {db : Debounce} (h : TracksRun samples db) {s : Sample}
    (hc : Chronological (samples ++ [s])) :
    TracksRun (samples ++ [s]) (debouncePhysical s.time s.raw db) ∧
      (debouncePhysical s.time s.raw db).stable =
        if (runStart samples s).toNat + 15000 ≤ s.time.toNat then s.raw else db.stable := by
  unfold debouncePhysical
  by_cases hstable : s.raw = db.stable
  · -- back at the returned value: nothing is being confirmed
    rw [if_pos hstable]
    refine ⟨⟨by simp, fun hne => absurd hstable.symm hne⟩, ?_⟩
    simp [hstable]
  · rw [if_neg hstable]
    by_cases hpending : s.raw = db.pending
    · -- the value is still the one being confirmed, so its run goes on
      rw [if_pos hpending]
      have hne : db.stable ≠ db.pending := fun heq => hstable (hpending.trans heq.symm)
      obtain ⟨before, s', rfl, hlast⟩ := h.lastChange hne
      have hraw : s'.raw = s.raw := by
        have hp := h.pending
        simp only [List.getLast?_concat, Option.map_some, Option.getD_some] at hp
        rw [hpending, hp]
      have hstart : runStart (before ++ [s']) s = db.lastChangeUs := by
        rw [runStart_concat, if_pos hraw, hlast]
      have hle : db.lastChangeUs ≤ s.time := hstart ▸ runStart_le hc
      rw [hstart]
      by_cases hdelay : s.time - db.lastChangeUs ≥ debounceDelayUs
      · rw [if_pos hdelay, if_pos ((delay_passed_iff hle).mp hdelay)]
        exact ⟨⟨by simp, fun hne => absurd rfl hne⟩, rfl⟩
      · rw [if_neg hdelay, if_neg fun hold => hdelay ((delay_passed_iff hle).mpr hold)]
        exact ⟨⟨by simp [hpending], fun _ => ⟨before ++ [s'], s, rfl, hstart.symm⟩⟩, rfl⟩
    · -- a first sample of a new run
      rw [if_neg hpending]
      have hstart : runStart samples s = s.time := by
        cases samples using List.reverseRecOn with
        | nil => rfl
        | append_singleton before s' =>
            have hp := h.pending
            simp only [List.getLast?_concat, Option.map_some, Option.getD_some] at hp
            rw [runStart_concat, if_neg fun hraw => hpending (hraw.symm.trans hp.symm)]
      rw [hstart, if_neg (by omega)]
      exact ⟨⟨by simp, fun _ => ⟨samples, s, rfl, hstart.symm⟩⟩, rfl⟩

theorem tracksRun_debounceRun {samples : List Sample} (h : Chronological samples) :
    TracksRun samples (debounceRun samples) := by
  induction samples using List.reverseRecOn with
  | nil => exact tracksRun_zero
  | append_singleton before s ih =>
      rw [debounceRun_concat]
      exact ((ih (List.pairwise_append.mp h).1).step h).1

/-- **`debounce_physical` is the reference filter.**  After any history whose times do not go back, a sample
makes the returned value its own when the unbroken run of that value which it ends began at least
`DEBOUNCE_DELAY_US` before it, and otherwise leaves the returned value as it was. -/
theorem debounce_reference (before : List Sample) (s : Sample) (h : Chronological (before ++ [s])) :
    (debounceRun (before ++ [s])).stable =
      if (runStart before s).toNat + debounceDelayUs.toNat ≤ s.time.toNat then s.raw
      else (debounceRun before).stable := by
  have htracks := tracksRun_debounceRun (List.pairwise_append.mp h).1
  rw [debounceRun_concat]
  exact (htracks.step h).2

/-- A button held down from 1 ms on, sampled again at 16 ms. -/
def heldButton : List Sample := [⟨1000, true⟩, ⟨8000, true⟩]

theorem debounce_reference_held :
    (debounceRun (heldButton ++ [⟨16000, true⟩])).stable =
      if (runStart heldButton ⟨16000, true⟩).toNat + debounceDelayUs.toNat ≤ (16000 : UInt64).toNat then true
      else (debounceRun heldButton).stable :=
  debounce_reference heldButton ⟨16000, true⟩ (by simp [Chronological, heldButton])

/-! ## The table of a slot -/

/-- The samples that a button gets from a sequence of reports. -/
def samplesOf (fmt : ReportFormat) (b : Button) (reports : List Report) : List Sample :=
  reports.map fun r => ⟨r.now b, phyRaw fmt r.buf b⟩

/-- **With the debounce on, a slot's table is eighteen such entries**, each fed with its own button. -/
theorem foldl_debounceAll (fmt : ReportFormat) (b : Button) (reports : List Report)
    (table : Button → Debounce) :
    reports.foldl (fun table r => debounceAll fmt r true table) table b =
      (samplesOf fmt b reports).foldl feed (table b) := by
  induction reports generalizing table with
  | nil => rfl
  | cons r reports ih =>
      rw [List.foldl_cons, ih]
      rfl

end Dstx
