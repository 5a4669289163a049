/-
# Dstx.Led.Retries — how often the LED is sent again after another program changed it.

When another program writes to the controller, the worker sets `external_retry_count` and `led_dirty`.  The
LED pipeline then sends one report per 100 ms until the counter is used up, and a last one that clears the
flag.

`retries_bounded` counts them over every run of the worker in which nobody else writes the LED's cells, for
all clock readings.  The counter and the retries already sent always add up to the number that was set; all
the rest follows from that.
-/
import Dstx.Rumble.Output

namespace Dstx

/-! ## The worker -/

/-- The three stores of the worker when another program has written to the controller. -/
def externalIntervention (n : UInt8) (start : Timeval) (w : OutputWorld) : OutputWorld :=
  { w with
    slot := { w.slot with externalRetryCount := n, ledDirty := true }
    lastExternalRetry := start }

/-- **`IN_MODIFY` in the worker**: the write was not its own, and the LED is to be restored. -/
def onModify (hasLed writingOutput : Bool) (lastDaemonWrite now start : Timeval) (w : OutputWorld) :
    OutputWorld :=
  if !writingOutput && decide (timevalDiffUs now lastDaemonWrite > 50000) then
    if !w.slot.ledReapply then w
    else if hasLed && w.slot.ledStatic then externalIntervention 10 start w
    else w
  else w

/-- A report of the LED pipeline: when it was sent, and whether as a retry. -/
structure LedReport where
  now : Timeval
  retry : Bool

/-- A worker thread, the flag it read at the head of its loop, and what its LED pipeline has sent. -/
structure LedWorker where
  world : OutputWorld
  localLedDirty : Bool
  reports : List LedReport

/-- The worker's LED cells in another state of everything else. -/
def OutputWorld.withLedOf (other w : OutputWorld) : OutputWorld :=
  { other with
    slot := { other.slot with
      ledDirty := w.slot.ledDirty
      externalRetryCount := w.slot.externalRetryCount }
    lastExternalRetry := w.lastExternalRetry
    lastLedTime := w.lastLedTime }

inductive LedWorkerMove where
  /-- The head of the loop. -/
  | roundStart
  /-- The end of the loop. -/
  | pipeline (env : PipelineEnv)
  /-- Whatever else happens in this thread or in another. -/
  | other (world : OutputWorld)

/-- **One move**; the LED pipeline is called behind the worker's gate. -/
def LedWorker.move (crc32 : UInt32 → List UInt8 → UInt32) (hasLed : Bool) (s : LedWorker) :
    LedWorkerMove → LedWorker
  | .roundStart => { s with localLedDirty := hasLed && s.world.slot.ledDirty }
  | .pipeline env =>
      if hasLed && s.localLedDirty then
        let out := ledProcessPipeline crc32 env s.world
        { s with
          world := out.1
          reports :=
            if out.2 then s.reports ++ [⟨env.now, decide (s.world.slot.externalRetryCount > 0)⟩]
            else s.reports }
      else s
  | .other world => { s with world := world.withLedOf s.world }

/-- **A run of the worker.** -/
def LedWorker.run (crc32 : UInt32 → List UInt8 → UInt32) (hasLed : Bool) (moves : List LedWorkerMove)
    (s : LedWorker) : LedWorker :=
  moves.foldl (LedWorker.move crc32 hasLed) s

/-- The worker right after an intervention, at any point of its loop. -/
def afterIntervention (n : UInt8) (start : Timeval) (localLedDirty : Bool) (w : OutputWorld) : LedWorker :=
  ⟨externalIntervention n start w, localLedDirty, []⟩

/-! ## What is counted -/

/-- The times of the retries. -/
def LedWorker.retryTimes (s : LedWorker) : List Timeval := (s.reports.filter (·.retry)).map (·.now)

/-- At least the retry interval lies between the first and the second. -/
def RetriesApart (a b : Timeval) : Prop := ledRetryUs ≤ timevalDiffUs b a

/-- **The bounds** on what is sent after an intervention at `start` with `n` retries. -/
structure RetriesBounded (n : UInt8) (start : Timeval) (s : LedWorker) : Prop where
  atMost : s.reports.length ≤ n.toNat + 1
  noWrap : s.retryTimes.length + s.world.slot.externalRetryCount.toNat = n.toNat
  cleared : s.world.slot.ledDirty = false ↔ s.reports.length = n.toNat + 1
  apart : (start :: s.retryTimes).Pairwise RetriesApart

/-- **The invariant.** -/
structure Retrying (n : UInt8) (start : Timeval) (s : LedWorker) : Prop where
  left : s.retryTimes.length + s.world.slot.externalRetryCount.toNat = n.toNat
  kinds : s.reports.length = s.retryTimes.length + if s.world.slot.ledDirty then 0 else 1
  usedUp : s.world.slot.ledDirty = false → s.world.slot.externalRetryCount = 0
  apart : (start :: s.retryTimes).Pairwise RetriesApart
  latest : ∀ t ∈ start :: s.retryTimes, 0 ≤ timevalDiffUs s.world.lastExternalRetry t

/-! ## One step -/

section Step

variable {crc32 : UInt32 → List UInt8 → UInt32} {env : PipelineEnv} {w : OutputWorld}

/-- **What the LED pipeline does**: nothing, a retry, or the report that clears the flag. -/
theorem ledProcessPipeline_cases (crc32 : UInt32 → List UInt8 → UInt32) (env : PipelineEnv)
    (w : OutputWorld) :
    (ledProcessPipeline crc32 env w = (w, false)) ∨
      (w.slot.externalRetryCount > 0 ∧ ledRetryUs ≤ timevalDiffUs env.now w.lastExternalRetry ∧
        ∃ sent, ledProcessPipeline crc32 env w =
          ({ w with
              slot := { w.slot with externalRetryCount := w.slot.externalRetryCount - 1 }
              lastExternalRetry := env.now
              sent := sent }, true)) ∨
      (w.slot.externalRetryCount = 0 ∧ w.slot.ledDirty = true ∧
        ∃ sent, ledProcessPipeline crc32 env w =
          ({ w with
              slot := { w.slot with ledDirty := false }
              lastLedTime := env.now
              sent := sent }, true)) := by
  unfold ledProcessPipeline
  by_cases hidle : (!w.slot.ledDirty && w.slot.externalRetryCount == 0) = true
  · exact .inl (if_pos hidle)
  rw [if_neg hidle]
  by_cases hretry : w.slot.externalRetryCount > 0
  · simp only [hretry, decide_true, if_true]
    by_cases hdue : timevalDiffUs env.now w.lastExternalRetry ≥ ledRetryUs
    · exact .inr (.inl ⟨trivial, hdue, _, if_pos hdue⟩)
    · exact .inl (if_neg hdue)
  · have hzero : w.slot.externalRetryCount = 0 := UInt8.le_zero_iff.mp (UInt8.not_lt.mp hretry)
    have hdirty : w.slot.ledDirty = true := by
      rw [hzero] at hidle
      simpa using hidle
    simp only [hretry, decide_false, Bool.false_eq_true, if_false]
    by_cases hdue : timevalDiffUs env.now w.lastLedTime ≥
        if w.slot.ledStatic = true then ledTimeoutUs else ledFastTimeoutUs
    · exact .inr (.inr ⟨hzero, hdirty, _, if_pos hdue⟩)
    · exact .inl (if_neg hdue)

end Step

theorem timevalDiffUs_add (a b c : Timeval) :
    timevalDiffUs a b + timevalDiffUs b c = timevalDiffUs a c := by
  unfold timevalDiffUs
  omega

/-- A retry is logged with its time. -/
theorem LedWorker.retryTimes_append (s : LedWorker) (world : OutputWorld) (now : Timeval) (retry : Bool) :
    LedWorker.retryTimes { s with world := world, reports := s.reports ++ [⟨now, retry⟩] } =
      s.retryTimes ++ if retry then [now] else [] := by
  unfold LedWorker.retryTimes
  cases retry <;> simp

/-- **A retry** keeps the invariant. -/
theorem Retrying.retry {n : UInt8} {start now : Timeval} {s : LedWorker} {world : OutputWorld}
    (h : Retrying n start s) (hcount : s.world.slot.externalRetryCount > 0)
    (hdue : ledRetryUs ≤ timevalDiffUs now s.world.lastExternalRetry)
    (hleft : world.slot.externalRetryCount = s.world.slot.externalRetryCount - 1)
    (hdirty : world.slot.ledDirty = s.world.slot.ledDirty) (hlast : world.lastExternalRetry = now) :
    Retrying n start { s with world := world, reports := s.reports ++ [⟨now, true⟩] } := by
  have htimes := s.retryTimes_append world now true
  rw [if_pos rfl] at htimes
  have hlate : ∀ t ∈ start :: s.retryTimes, ledRetryUs ≤ timevalDiffUs now t := by
    intro t ht
    have hsum := timevalDiffUs_add now s.world.lastExternalRetry t
    have hsince := h.latest t ht
    omega
  have hpos : 0 < s.world.slot.externalRetryCount.toNat := hcount
  have hpred : world.slot.externalRetryCount.toNat = s.world.slot.externalRetryCount.toNat - 1 := by
    rw [hleft, UInt8.toNat_sub_of_le]
    · rfl
    · exact hcount
  constructor
  · have hold := h.left
    rw [htimes, List.length_append]
    show s.retryTimes.length + 1 + world.slot.externalRetryCount.toNat = n.toNat
    omega
  · have hold := h.kinds
    rw [htimes, List.length_append, List.length_append]
    show s.reports.length + 1 = s.retryTimes.length + 1 + if world.slot.ledDirty = true then 0 else 1
    rw [hdirty]
    omega
  · intro hclean
    have hzero := h.usedUp (hdirty.symm.trans hclean)
    rw [hzero] at hpos
    cases hpos
  · rw [htimes, ← List.cons_append, List.pairwise_append]
    refine ⟨h.apart, List.pairwise_singleton _ _, fun t ht t' ht' => ?_⟩
    rw [List.mem_singleton.mp ht']
    exact hlate t ht
  · intro t ht
    show 0 ≤ timevalDiffUs world.lastExternalRetry t
    rw [htimes, ← List.cons_append, List.mem_append] at ht
    rw [hlast]
    have hinterval : ledRetryUs = 100000 := rfl
    obtain hold | hnew := ht
    · have hgap := hlate t hold
      omega
    · rw [List.mem_singleton.mp hnew]
      unfold timevalDiffUs
      omega

/-- **The report that clears the flag** keeps it. -/
theorem Retrying.final {n : UInt8} {start now : Timeval} {s : LedWorker} {world : OutputWorld}
    (h : Retrying n start s) (hcount : s.world.slot.externalRetryCount = 0)
    (hdirty : s.world.slot.ledDirty = true)
    (hleft : world.slot.externalRetryCount = s.world.slot.externalRetryCount)
    (hclean : world.slot.ledDirty = false) (hlast : world.lastExternalRetry = s.world.lastExternalRetry) :
    Retrying n start { s with world := world, reports := s.reports ++ [⟨now, false⟩] } := by
  have htimes := s.retryTimes_append world now false
  rw [if_neg Bool.false_ne_true, List.append_nil] at htimes
  constructor
  · rw [htimes]
    show s.retryTimes.length + world.slot.externalRetryCount.toNat = n.toNat
    rw [hleft]
    exact h.left
  · have hold := h.kinds
    rw [if_pos hdirty] at hold
    rw [htimes, List.length_append]
    show s.reports.length + 1 = s.retryTimes.length + if world.slot.ledDirty = true then 0 else 1
    rw [hclean, hold]
    rfl
  · exact fun _ => hleft.trans hcount
  · rw [htimes]
    exact h.apart
  · intro t ht
    rw [htimes] at ht
    show 0 ≤ timevalDiffUs world.lastExternalRetry t
    rw [hlast]
    exact h.latest t ht

/-- **Every move keeps the invariant.** -/
theorem Retrying.move {n : UInt8} {start : Timeval} {s : LedWorker} (crc32 : UInt32 → List UInt8 → UInt32)
    (hasLed : Bool) (h : Retrying n start s) (move : LedWorkerMove) :
    Retrying n start (s.move crc32 hasLed move) := by
  cases move with
  | roundStart => exact ⟨h.left, h.kinds, h.usedUp, h.apart, h.latest⟩
  | other world => exact ⟨h.left, h.kinds, h.usedUp, h.apart, h.latest⟩
  | pipeline env =>
      unfold LedWorker.move
      dsimp only
      by_cases hgate : (hasLed && s.localLedDirty) = true
      · rw [if_pos hgate]
        obtain hout | ⟨hcount, hdue, sent, hout⟩ | ⟨hcount, hdirty, sent, hout⟩ :=
          ledProcessPipeline_cases crc32 env s.world
        · rw [hout]
          exact h
        · rw [hout, decide_eq_true hcount]
          exact h.retry hcount hdue rfl rfl rfl
        · have hnone : ¬s.world.slot.externalRetryCount > 0 := by
            rw [hcount]
            decide
          rw [hout, decide_eq_false hnone]
          exact h.final hcount hdirty rfl rfl rfl
      · rw [if_neg hgate]
        exact h

/-- Once the flag is clear, a move sends nothing. -/
theorem LedWorker.move_quiet {n : UInt8} {start : Timeval} {s : LedWorker}
    (crc32 : UInt32 → List UInt8 → UInt32) (hasLed : Bool) (h : Retrying n start s)
    (hclean : s.world.slot.ledDirty = false) (move : LedWorkerMove) :
    (s.move crc32 hasLed move).world.slot.ledDirty = false ∧
      (s.move crc32 hasLed move).reports = s.reports := by
  cases move with
  | roundStart => exact ⟨hclean, rfl⟩
  | other world => exact ⟨hclean, rfl⟩
  | pipeline env =>
      have hout : ledProcessPipeline crc32 env s.world = (s.world, false) := by
        unfold ledProcessPipeline
        refine if_pos ?_
        rw [hclean, h.usedUp hclean]
        rfl
      unfold LedWorker.move
      dsimp only
      rw [hout]
      by_cases hgate : (hasLed && s.localLedDirty) = true
      · rw [if_pos hgate]
        refine ⟨hclean, ?_⟩
        simp only [Bool.false_eq_true, if_false]
      · rw [if_neg hgate]
        exact ⟨hclean, rfl⟩

/-! ## Runs -/

theorem Retrying.run {n : UInt8} {start : Timeval} (crc32 : UInt32 → List UInt8 → UInt32) (hasLed : Bool)
    (moves : List LedWorkerMove) : ∀ {s : LedWorker}, Retrying n start s →
      Retrying n start (s.run crc32 hasLed moves) := by
  induction moves with
  | nil => exact id
  | cons move moves ih => exact fun h => ih (h.move crc32 hasLed move)

theorem LedWorker.run_quiet {n : UInt8} {start : Timeval} (crc32 : UInt32 → List UInt8 → UInt32)
    (hasLed : Bool) (moves : List LedWorkerMove) : ∀ {s : LedWorker}, Retrying n start s →
      s.world.slot.ledDirty = false → (s.run crc32 hasLed moves).reports = s.reports := by
  induction moves with
  | nil => exact fun _ _ => rfl
  | cons move moves ih =>
      intro s h hclean
      obtain ⟨hclean', hreports⟩ := LedWorker.move_quiet crc32 hasLed h hclean move
      exact (ih (h.move crc32 hasLed move) hclean').trans hreports

theorem retrying_afterIntervention (n : UInt8) (start : Timeval) (localLedDirty : Bool) (w : OutputWorld) :
    Retrying n start (afterIntervention n start localLedDirty w) := by
  refine ⟨Nat.zero_add _, rfl, fun hclean => ?_, List.pairwise_singleton _ _, fun t ht => ?_⟩
  · cases (show true = false from hclean)
  · rw [List.mem_singleton.mp ht]
    show 0 ≤ timevalDiffUs start start
    unfold timevalDiffUs
    omega

/-- The invariant gives the bounds. -/
theorem Retrying.bounded {n : UInt8} {start : Timeval} {s : LedWorker} (h : Retrying n start s) :
    RetriesBounded n start s := by
  have hleft := h.left
  have hkinds := h.kinds
  cases hdirty : s.world.slot.ledDirty with
  | true =>
      rw [hdirty, if_pos rfl] at hkinds
      refine ⟨by omega, hleft, ?_, h.apart⟩
      rw [hdirty]
      exact iff_of_false Bool.true_eq_false_eq_False (by omega)
  | false =>
      rw [hdirty, if_neg Bool.false_ne_true] at hkinds
      have hzero : s.world.slot.externalRetryCount.toNat = 0 := by
        rw [h.usedUp hdirty]
        rfl
      exact ⟨by omega, hleft, iff_of_true hdirty (by omega), h.apart⟩

/-- **What an `IN_MODIFY` costs**: it changes nothing, or in every run after it the pipeline sends at most eleven
reports, 100 ms apart. -/
theorem onModify_bounded (crc32 : UInt32 → List UInt8 → UInt32) (hasLed writingOutput localLedDirty : Bool)
    (lastDaemonWrite now start : Timeval) (w : OutputWorld) (moves : List LedWorkerMove) :
    onModify hasLed writingOutput lastDaemonWrite now start w = w ∨
      RetriesBounded 10 start
        (LedWorker.run crc32 hasLed moves
          ⟨onModify hasLed writingOutput lastDaemonWrite now start w, localLedDirty, []⟩) := by
  have hretries : RetriesBounded 10 start
      (LedWorker.run crc32 hasLed moves ⟨externalIntervention 10 start w, localLedDirty, []⟩) :=
    ((retrying_afterIntervention 10 start localLedDirty w).run crc32 hasLed moves).bounded
  unfold onModify
  split_ifs
  · exact .inl rfl
  · exact .inr hretries
  · exact .inl rfl
  · exact .inl rfl

/-- **What is sent after an external intervention.**  The worker has set `external_retry_count` to `n` and
`led_dirty` at the time `start`, at any point of its loop and in any state.  In every run in which nobody
else writes the LED's cells, for all clock readings: the LED pipeline sends at most `n + 1` reports; the
counter is `n` less the retries sent; `led_dirty` is clear exactly when `n + 1` reports were sent; retries
are 100 ms apart, the first one from the intervention; and once `led_dirty` is clear, nothing more is
sent. -/
theorem retries_bounded (crc32 : UInt32 → List UInt8 → UInt32) (hasLed localLedDirty : Bool) (n : UInt8)
    (start : Timeval) (w : OutputWorld) (moves more : List LedWorkerMove) :
    let s := (afterIntervention n start localLedDirty w).run crc32 hasLed moves
    RetriesBounded n start s ∧
      (s.world.slot.ledDirty = false → (s.run crc32 hasLed more).reports = s.reports) := by
  have hinv := (retrying_afterIntervention n start localLedDirty w).run crc32 hasLed moves
  exact ⟨hinv.bounded, LedWorker.run_quiet crc32 hasLed more hinv⟩

end Dstx
