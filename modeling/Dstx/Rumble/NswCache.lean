/-
# Dstx.Rumble.NswCache — is the cache of `nsw_send_rumble` what the controller plays?

`nsw_send_rumble` sends nothing when the target equals `last_strong`, `last_weak`.  So the pair has to be
what the controller is PLAYING.  Here is the other side of the event device: uploaded effects, and the
ones that play.  `nswFfOps` are the four operations — stop, `EVIOCRMFF`, `EVIOCSFF`, play — with their
outcomes, exit by exit of the function; the context is that of `nswSendRumble`.

Three kinds of exit let cache and device come apart:
* the RATE LIMIT stores the target in the cache and sends nothing;
* a playing effect is stopped to be replaced, and the upload or the play fails: silence, under a cache
  that still has the old values;
* an effect is given up although neither its stop nor its removal succeeded: it goes on, unknown.
In every run without these, the pair is what plays.
-/
import Dstx.Rumble.Switch

namespace Dstx

open Dstx.Lib

/-! ## The device -/

/-- The magnitudes of a rumble effect. -/
structure Magnitudes where
  strong : UInt16
  weak : UInt16
  deriving DecidableEq

/-- `strong_mag` and `weak_mag`: a byte times 257. -/
def Motors.magnitudes (m : Motors) : Magnitudes := ⟨m.strong.toUInt16 * 257, m.weak.toUInt16 * 257⟩

/-- **The force-feedback side of the event device.** -/
structure FfDevice where
  effects : Nat → Option Magnitudes
  playing : List Nat

/-- A force-feedback operation with its outcome. -/
inductive FfOp where
  /-- `EV_FF` with value 0. -/
  | stop (id : Nat) (written : Bool)
  | rmff (id : Nat) (done : Bool)
  /-- A successful `EVIOCSFF`. -/
  | sff (id : Nat) (m : Magnitudes)
  /-- `EV_FF` with value 1. -/
  | play (id : Nat) (written : Bool)

/-- What an operation does; a failed one does nothing.  Removing an effect also stops it. -/
def FfDevice.apply (dev : FfDevice) : FfOp → FfDevice
  | .stop id written => if written then { dev with playing := dev.playing.filter (· != id) } else dev
  | .rmff id done =>
      if done then
        ⟨Function.update dev.effects id none, dev.playing.filter (· != id)⟩
      else dev
  | .sff id m => { dev with effects := Function.update dev.effects id (some m) }
  | .play id written =>
      if written then { dev with playing := dev.playing.filter (· != id) ++ [id] } else dev

/-- The magnitudes of what is playing. -/
def FfDevice.played (dev : FfDevice) : List Magnitudes := dev.playing.filterMap dev.effects

/-! ## Calls -/

/-- The stop and the removal of the effect of a context, where there is one. -/
def NswRumble.stopOps (ctx : NswRumble) (written removed : Bool) : List FfOp :=
  match ctx.effectId with
  | none => []
  | some id => [.stop id written, .rmff id removed]

/-- The upload and the play of a new effect. -/
def newEffectOps (target : Motors) (r : NswReplies) : List FfOp :=
  match r.uploaded with
  | none => []
  | some id => if 0 ≤ id then [.sff id.toNat target.magnitudes, .play id.toNat r.playWritten] else []

/-- **The operations of one call of `nsw_send_rumble`**, in order; `removed` is whether `EVIOCRMFF`
succeeds if it comes to one. -/
def nswFfOps (r : NswReplies) (removed : Bool) (slot : Slot) (ctx : NswRumble) : List FfOp :=
  if !ctx.ready || !ctx.connected then []
  else if !slot.rumbleActive then ctx.stopOps r.stopWritten removed
  else if r.hangup then []
  else
    let target := slot.gainedMotors
    if target.strong = ctx.lastStrong ∧ target.weak = ctx.lastWeak then []
    else if target.strong = 0 ∧ target.weak = 0 then
      match ctx.effectId with
      | none => []
      | some id => if r.stopWritten then [.stop id true, .rmff id removed] else [.stop id false]
    else if timevalDiffUs r.now ctx.lastRumbleTime < nswRumbleRateLimitUs then []
    else ctx.stopOps r.stopWritten removed ++ newEffectOps target r

/-- A Switch Pro slot's output: the context and the device. -/
structure NswOutput where
  ctx : NswRumble
  device : FfDevice

/-- One call: the slot as it is then, and what the kernel answers. -/
structure NswSend where
  slot : Slot
  replies : NswReplies
  removed : Bool

/-- **One call of `nsw_send_rumble`.** -/
def nswSendStep (call : NswSend) (s : NswOutput) : Option NswOutput :=
  some
    { ctx := (nswSendRumble call.replies call.slot s.ctx).1
      device := (nswFfOps call.replies call.removed call.slot s.ctx).foldl FfDevice.apply s.device }

/-- After `nsw_init`: nothing cached, nothing uploaded. -/
def initialNswOutput (now : Timeval) : NswOutput :=
  ⟨⟨true, true, none, 0, 0, now⟩, ⟨fun _ => none, []⟩⟩

/-! ## The property and its condition -/

/-- The cached pair. -/
def NswRumble.cached (ctx : NswRumble) : Motors := ⟨ctx.lastStrong, ctx.lastWeak⟩

/-- **The cache is what plays**: the one effect of these magnitudes, none if the pair is zero. -/
def CacheIsPlaying (s : NswOutput) : Prop :=
  s.device.played = if s.ctx.cached = ⟨0, 0⟩ then [] else [s.ctx.cached.magnitudes]

/-- The new effect was uploaded and plays. -/
def NswReplies.started (r : NswReplies) : Prop :=
  (∃ id : Nat, r.uploaded = some (id : Int)) ∧ r.playWritten = true

/-- **The condition on a call** that gets as far as the operations:
* no new target falls under the rate limit;
* an effect that is playing — the pair is not zero — is stopped or removed when it is given up, because
  rumble is off or for a new one;
* and the new one is then uploaded and played. -/
def CallSucceeds (call : NswSend) (s : NswOutput) : Prop :=
  s.ctx.ready = true → s.ctx.connected = true →
    (call.slot.rumbleActive = false → s.ctx.cached ≠ ⟨0, 0⟩ →
        call.replies.stopWritten = true ∨ call.removed = true) ∧
      (call.slot.rumbleActive = true → call.replies.hangup = false →
        call.slot.gainedMotors ≠ s.ctx.cached → call.slot.gainedMotors ≠ ⟨0, 0⟩ →
          ¬timevalDiffUs call.replies.now s.ctx.lastRumbleTime < nswRumbleRateLimitUs ∧
            (s.ctx.cached ≠ ⟨0, 0⟩ →
              (call.replies.stopWritten = true ∨ call.removed = true) ∧ call.replies.started))

/-! ## The invariant -/

/-- **Cache, effect id and device agree**: silence under a zero pair, or the effect of the context playing
with the magnitudes of the pair. -/
inductive InStep : NswOutput → Prop
  | silent {s : NswOutput} (hcache : s.ctx.cached = ⟨0, 0⟩) (hplay : s.device.playing = []) : InStep s
  | playing {s : NswOutput} {id : Nat} (hcache : s.ctx.cached ≠ ⟨0, 0⟩) (hid : s.ctx.effectId = some id)
      (hplay : s.device.playing = [id])
      (heffect : s.device.effects id = some s.ctx.cached.magnitudes) : InStep s

theorem InStep.cacheIsPlaying {s : NswOutput} (h : InStep s) : CacheIsPlaying s := by
  unfold CacheIsPlaying FfDevice.played
  cases h with
  | silent hcache hplay =>
      rw [hplay, if_pos hcache]
      rfl
  | playing hcache hid hplay heffect =>
      rw [hplay, if_neg hcache]
      simp [heffect]

/-! ## The operations -/

section

variable {r : NswReplies} {written removed : Bool} {ctx : NswRumble} {dev : FfDevice}

/-- No stop or removal starts anything. -/
theorem playing_stopOps_of_silent (hplay : dev.playing = []) :
    ((ctx.stopOps written removed).foldl FfDevice.apply dev).playing = [] := by
  unfold NswRumble.stopOps
  cases ctx.effectId with
  | none => exact hplay
  | some id => cases written <;> cases removed <;> simp [FfDevice.apply, hplay]

/-- **Stopped or removed, the effect of the context is silent**, and nothing else played. -/
theorem playing_stopOps {id : Nat} (hid : ctx.effectId = some id) (hplay : dev.playing = [id])
    (hdone : written = true ∨ removed = true) :
    ((ctx.stopOps written removed).foldl FfDevice.apply dev).playing = [] := by
  unfold NswRumble.stopOps
  rw [hid]
  have hfilter : dev.playing.filter (· != id) = [] := by simp [hplay]
  rcases hdone with rfl | rfl
  · cases removed <;> simp [FfDevice.apply, hfilter]
  · cases written <;> simp [FfDevice.apply, hfilter]

/-- The new effect plays alone on a silent device. -/
theorem foldl_newEffectOps {target : Motors} (hplay : dev.playing = []) (id : Nat)
    (hup : r.uploaded = some (id : Int)) (hwritten : r.playWritten = true) :
    (newEffectOps target r).foldl FfDevice.apply dev =
      ⟨Function.update dev.effects id (some target.magnitudes), [id]⟩ := by
  unfold newEffectOps
  rw [hup]
  simp [FfDevice.apply, hplay, hwritten]

/-- One that does not start leaves the device silent. -/
theorem playing_newEffectOps {target : Motors} (hplay : dev.playing = []) (hnot : ¬r.started) :
    ((newEffectOps target r).foldl FfDevice.apply dev).playing = [] := by
  unfold newEffectOps
  cases hup : r.uploaded with
  | none => exact hplay
  | some id =>
      by_cases hid : 0 ≤ id
      · have hwritten : r.playWritten = false := by
          by_contra h
          refine hnot ⟨⟨id.toNat, ?_⟩, by simpa using h⟩
          rw [hup, Int.toNat_of_nonneg hid]
        simp [hid, FfDevice.apply, hwritten, hplay]
      · simp [hid, hplay]

end

/-! ## One call -/

section

variable {call : NswSend} {s : NswOutput}

/-- **The effect of the context is given up**: stopped or removed if it was playing, the device is
silent. -/
theorem InStep.playing_stopOps (h : InStep s) {written removed : Bool}
    (hdone : s.ctx.cached ≠ ⟨0, 0⟩ → written = true ∨ removed = true) :
    ((s.ctx.stopOps written removed).foldl FfDevice.apply s.device).playing = [] := by
  cases h with
  | silent _ hplay => exact playing_stopOps_of_silent hplay
  | playing hcache hid hplay _ => exact Dstx.playing_stopOps hid hplay (hdone hcache)

/-- **A new effect**: the old one is silenced, and the new one plays or nothing did. -/
theorem InStep.newEffect (h : InStep s) {target : Motors} {r : NswReplies} {removed : Bool}
    (htarget : target ≠ ⟨0, 0⟩)
    (hdone : s.ctx.cached ≠ ⟨0, 0⟩ → (r.stopWritten = true ∨ removed = true) ∧ r.started) :
    InStep
      { ctx := (nswNewEffect target r s.ctx).1
        device :=
          (s.ctx.stopOps r.stopWritten removed ++ newEffectOps target r).foldl FfDevice.apply
            s.device } := by
  rw [List.foldl_append]
  have hsilent := h.playing_stopOps fun hcache => (hdone hcache).1
  by_cases hstarted : r.started
  · obtain ⟨⟨id, hup⟩, hwritten⟩ := hstarted
    have hctx : (nswNewEffect target r s.ctx).1 =
        { s.ctx with
          effectId := some id
          lastStrong := target.strong
          lastWeak := target.weak
          lastRumbleTime := r.now } := by
      simp [nswNewEffect, hup, hwritten]
    rw [hctx, foldl_newEffectOps hsilent id hup hwritten]
    refine .playing htarget rfl rfl ?_
    exact Function.update_self ..
  · -- nothing was playing, and nothing plays now
    have hzero : s.ctx.cached = ⟨0, 0⟩ := by
      by_contra hne
      exact hstarted (hdone hne).2
    refine .silent ?_ (playing_newEffectOps hsilent hstarted)
    have hcache : (nswNewEffect target r s.ctx).1.cached = s.ctx.cached := by
      unfold nswNewEffect
      dsimp only
      split
      · rfl
      · rename_i id hup
        split_ifs with hid hwritten
        · refine absurd ⟨⟨id.toNat, ?_⟩, hwritten⟩ hstarted
          rw [hup, Int.toNat_of_nonneg hid]
        · rfl
        · rfl
    exact hcache.trans hzero

/-- Only the pair, the effect id and the device matter. -/
theorem InStep.congr (h : InStep s) {ctx : NswRumble} (hcached : ctx.cached = s.ctx.cached)
    (hid : ctx.effectId = s.ctx.effectId) : InStep ⟨ctx, s.device⟩ := by
  cases h with
  | silent hcache hplay => exact .silent (hcached.trans hcache) hplay
  | playing hcache hid' hplay heffect =>
      refine .playing ?_ (hid.trans hid') hplay ?_
      · show ctx.cached ≠ _
        rw [hcached]
        exact hcache
      · show s.device.effects _ = some ctx.cached.magnitudes
        rw [hcached]
        exact heffect

/-- The same, with the pair reset. -/
theorem InStep.silence (h : InStep s) {id : Nat} (hid : s.ctx.effectId = some id)
    {written removed : Bool} (hdone : s.ctx.cached ≠ ⟨0, 0⟩ → written = true ∨ removed = true)
    {ctx : NswRumble} (hcache : ctx.cached = ⟨0, 0⟩) :
    InStep ⟨ctx, [.stop id written, .rmff id removed].foldl FfDevice.apply s.device⟩ := by
  have hops : s.ctx.stopOps written removed = [.stop id written, .rmff id removed] := by
    unfold NswRumble.stopOps
    rw [hid]
  have hsilent := h.playing_stopOps hdone
  rw [hops] at hsilent
  exact .silent hcache hsilent

/-- A pair that is not zero belongs to the effect of the context. -/
theorem InStep.effectId_of_cached (h : InStep s) (hcache : s.ctx.cached ≠ ⟨0, 0⟩) :
    ∃ id, s.ctx.effectId = some id := by
  cases h with
  | silent hzero _ => exact absurd hzero hcache
  | playing _ hid _ _ => exact ⟨_, hid⟩

/-- **One call** under the condition keeps cache and device in step. -/
theorem InStep.step (h : InStep s) (hok : CallSucceeds call s) {t : NswOutput}
    (hstep : nswSendStep call s = some t) : InStep t := by
  obtain rfl := Option.some.inj hstep
  -- exit by exit, in the order of the source
  unfold nswSendRumble nswFfOps
  by_cases hready : (!s.ctx.ready || !s.ctx.connected) = true
  · rw [if_pos hready, if_pos hready]
    exact h
  rw [if_neg hready, if_neg hready]
  simp only [Bool.or_eq_true, Bool.not_eq_true', not_or, Bool.not_eq_false] at hready
  obtain ⟨hoff, hon⟩ := hok hready.1 hready.2
  by_cases hactive : (!call.slot.rumbleActive) = true
  · rw [if_pos hactive, if_pos hactive]
    unfold NswRumble.stopOps
    -- without an effect of its own the function has nothing to stop
    cases hid : s.ctx.effectId with
    | none => exact h
    | some id => exact h.silence hid (hoff (by simpa using hactive)) rfl
  rw [if_neg hactive, if_neg hactive]
  by_cases hhangup : call.replies.hangup = true
  · rw [if_pos hhangup, if_pos hhangup]
    exact h.congr rfl rfl
  rw [if_neg hhangup, if_neg hhangup]
  dsimp only
  by_cases hsame : call.slot.gainedMotors.strong = s.ctx.lastStrong ∧
      call.slot.gainedMotors.weak = s.ctx.lastWeak
  · rw [if_pos hsame, if_pos hsame]
    exact h.congr rfl rfl
  rw [if_neg hsame, if_neg hsame]
  have hne : call.slot.gainedMotors ≠ s.ctx.cached := by
    intro heq
    exact hsame ⟨congrArg Motors.strong heq, congrArg Motors.weak heq⟩
  by_cases hzero : call.slot.gainedMotors.strong = 0 ∧ call.slot.gainedMotors.weak = 0
  · rw [if_pos hzero, if_pos hzero]
    -- the pair is not zero, so the effect of the context is playing
    obtain ⟨id, hid⟩ := h.effectId_of_cached fun hcache => hsame
      ⟨hzero.1.trans (congrArg Motors.strong hcache).symm,
        hzero.2.trans (congrArg Motors.weak hcache).symm⟩
    rw [hid]
    dsimp only
    -- when the stop fails the function returns with the pair as it was
    cases hstop : call.replies.stopWritten with
    | false => exact h
    | true => exact h.silence hid (fun _ => Or.inl rfl) rfl
  rw [if_neg hzero, if_neg hzero]
  have htarget : call.slot.gainedMotors ≠ ⟨0, 0⟩ := by
    intro heq
    exact hzero ⟨congrArg Motors.strong heq, congrArg Motors.weak heq⟩
  -- the branch of the rate limit is excluded; what is left is a new effect
  obtain ⟨hlimit, hdone⟩ := hon (by simpa using hactive) (by simpa using hhangup) hne htarget
  rw [if_neg hlimit, if_neg hlimit]
  exact h.newEffect htarget hdone

end

/-! ## Whole runs -/

/-- **The cache is what plays**, after every sequence of calls of `nsw_send_rumble`, with any targets and
any clock, that meet the condition. -/
theorem nsw_cache_is_playing {now : Timeval} {s : NswOutput}
    (hrun : Run nswSendStep CallSucceeds (initialNswOutput now) s) : CacheIsPlaying s := by
  have hstart : InStep (initialNswOutput now) := .silent rfl rfl
  have hend : InStep s := hrun.invariant (fun call a b ha hok hstep => ha.step hok hstep) hstart
  exact hend.cacheIsPlaying

/-- A call for a strong motor at `strong`, at a time, with everything going well: effect number 7. -/
def rumbleCall (strong : UInt8) (now : Timeval) : NswSend where
  slot :=
    { exampleFfSlot.toSlot with
      type := .nswPro
      rumbleActive := true
      rumbleStrong := strong
      rumbleWeak := 0
      rumbleGain := 100 }
  replies := ⟨false, now, true, some 7, true⟩
  removed := true

/-- One effect a second after the start, and its end a second later. -/
theorem nsw_cache_is_playing_start_stop :
    ∃ s, Run nswSendStep CallSucceeds (initialNswOutput ⟨0, 0⟩) s ∧
      s.ctx.lastRumbleTime = ⟨2, 0⟩ ∧ s.device.played = [] ∧ CacheIsPlaying s := by
  have hrun : Run nswSendStep CallSucceeds (initialNswOutput ⟨0, 0⟩)
      (reached nswSendStep [rumbleCall 200 ⟨1, 0⟩, rumbleCall 0 ⟨2, 0⟩] (initialNswOutput ⟨0, 0⟩)) := by
    refine .tail (.tail (.refl _) (a := rumbleCall 200 ⟨1, 0⟩) ?_ rfl) (a := rumbleCall 0 ⟨2, 0⟩) ?_ rfl
    · intro _ _
      refine ⟨fun hoff => ?_, fun _ _ _ _ => ⟨by decide +kernel, fun _ => ?_⟩⟩
      · cases hoff
      · exact ⟨Or.inl rfl, ⟨7, rfl⟩, rfl⟩
    · intro _ _
      refine ⟨fun hoff => ?_, fun _ _ _ hne => absurd (by decide +kernel) hne⟩
      cases hoff
  exact ⟨_, hrun, rfl, by decide +kernel, nsw_cache_is_playing hrun⟩

/-- **The rate limit**: the strong motor plays at 200; 10 ms later 100 is asked for, and only cached; a
second later 100 is asked for again and, being cached, not sent.  The controller goes on at 200. -/
theorem rate_limit_drops_update :
    ∃ s, Run nswSendStep free (initialNswOutput ⟨0, 0⟩) s ∧
      s.ctx.cached = ⟨100, 0⟩ ∧ s.device.played = [(⟨200, 0⟩ : Motors).magnitudes] ∧
        ¬CacheIsPlaying s := by
  obtain ⟨s, hrun, hs⟩ : ∃ s, Run nswSendStep free (initialNswOutput ⟨0, 0⟩) s ∧
      (decide (s.ctx.cached = ⟨100, 0⟩) &&
        decide (s.device.played = [(⟨200, 0⟩ : Motors).magnitudes])) = true :=
    exists_run_of_exec
      (p := fun s : NswOutput =>
        decide (s.ctx.cached = ⟨100, 0⟩) && decide (s.device.played = [(⟨200, 0⟩ : Motors).magnitudes]))
      [rumbleCall 200 ⟨1, 0⟩, rumbleCall 100 ⟨1, 10000⟩, rumbleCall 100 ⟨2, 0⟩] (by decide +kernel)
  simp only [Bool.and_eq_true, decide_eq_true_eq] at hs
  obtain ⟨hcache, hplayed⟩ := hs
  refine ⟨s, hrun, hcache, hplayed, fun hlaw => ?_⟩
  unfold CacheIsPlaying at hlaw
  rw [hcache, hplayed] at hlaw
  revert hlaw
  decide

end Dstx
