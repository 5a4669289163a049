/-
# Dstx.Led.ColourCache — does the LED show the frame that was computed (`last_r/g/b`).

`ledfx_update_slot` stores a frame only if it differs from the last one it stored.  Starting an effect
resets that memory to black, while `led_r/g/b` keep the colour of what ran before (the trigger and the
button effect apart, which start with a black LED).  A black frame then looks like the one already stored,
and the LED keeps the OLD colour.

One slot is followed over any sequence of requests and updates.  Nobody else writes its colour; every
other field of the shared memory may change between any two of them.  `frames_shown_iff` says which runs
show every frame.
-/
import Dstx.Led.EffectTable
import Dstx.Led.Animation

namespace Dstx

open Dstx.Lib

variable {τ : Type} (T : EffectTable τ)

/-! ## One slot and its moves -/

/-- The colour in `led_r/g/b` and the private state. -/
structure ShownSlot (τ : Type) where
  shown : Rgb
  state : RawLedState τ

/-- A call that reaches the slot.  `memory` is what the shared memory holds in it at that moment, apart from
the colour. -/
inductive LedMove (τ : Type) where
  | request (connected : Bool) (memory : Controller) (now : τ) (tv : Timeval)
  | update (connected : Bool) (memory : Controller) (pad : Pad) (now : Timeval) (currentTime : τ)

/-- **A move**; `none` when it indexes the effect table out of range. -/
def ledMove : LedMove τ → ShownSlot τ → Option (ShownSlot τ)
  | .request connected memory now tv, s =>
      (rawProcessRequest T connected now tv (memory.show s.shown) s.state).map fun r => ⟨r.1.shown, r.2⟩
  | .update connected memory pad now currentTime, s =>
      (rawUpdateSlot T connected pad now currentTime (memory.show s.shown) s.state).map fun r =>
        ⟨r.2.1.shown, r.2.2⟩

/-- The frame a move computes, if it gets as far as calling the effect. -/
def computedFrame : LedMove τ → ShownSlot τ → Option Rgb
  | .request _ _ _ _, _ => none
  | .update connected memory pad now currentTime, s =>
      if s.state.runs connected (memory.show s.shown) now then
        (T.at? s.state.currentEffect).map fun update =>
          update s.state (memory.show s.shown) pad currentTime
      else none

/-- A slot after `ledfx_init`, with whatever colour it shows. -/
def startSlot (zero : τ) (before : RawEngine τ) (i : Fin maxSlots) (shown : Rgb) : ShownSlot τ :=
  ⟨shown, ledfxInit zero before i⟩

/-! ## The property and the condition -/

/-- **A computed frame is the colour the LED has when the call returns.** -/
def ShowsFrame (move : LedMove τ) (s : ShownSlot τ) : Prop :=
  ∀ frame t, computedFrame T move s = some frame → ledMove T move s = some t → t.shown = frame

/-- **The condition**: no black frame while the memory is black and the LED is not. -/
def NoHiddenBlack (move : LedMove τ) (s : ShownSlot τ) : Prop :=
  ¬(s.state.last = Rgb.black ∧ s.shown ≠ Rgb.black ∧ computedFrame T move s = some Rgb.black)

/-! ## The memory is black or right -/

/-- **The invariant**: while an effect runs, the memory is black or the colour of the LED. -/
def CacheCoherent (s : ShownSlot τ) : Prop :=
  s.state.active = true → s.state.last = Rgb.black ∨ s.state.last = s.shown

@[simp] theorem Controller.shown_show (c : Controller) (rgb : Rgb) : (c.show rgb).shown = rgb := rfl

variable {T}

/-- **What a request does** to the slot: nothing, or it stops the effect, or it resets the memory. -/
theorem ledMove_request {connected : Bool} {memory : Controller} {now : τ} {tv : Timeval}
    {s t : ShownSlot τ} (h : ledMove T (.request connected memory now tv) s = some t) :
    t = s ∨ t.state.active = false ∨ t.state.last = Rgb.black := by
  simp only [ledMove, Option.map_eq_some_iff] at h
  obtain ⟨r, hr, rfl⟩ := h
  unfold rawProcessRequest at hr
  by_cases hidle : (!connected || !(memory.show s.shown).ledRequestPending) = true
  · rw [if_pos hidle] at hr
    cases hr
    exact .inl rfl
  rw [if_neg hidle] at hr
  by_cases hstatic : (memory.show s.shown).ledRequestEffect = 0
  · rw [if_pos hstatic] at hr
    cases hr
    exact .inr (.inl rfl)
  rw [if_neg hstatic] at hr
  by_cases hknown : (memory.show s.shown).ledRequestEffect > 0 ∧
      (memory.show s.shown).ledRequestEffect < ledfxCount
  · rw [if_pos hknown] at hr
    obtain ⟨update, -, rfl⟩ := Option.map_eq_some_iff.mp hr
    exact .inr (.inr rfl)
  · rw [if_neg hknown] at hr
    cases hr
    exact .inl rfl

/-- **What an update does** when it computes a frame: it keeps everything if the memory holds that frame,
else the LED and the memory get it. -/
theorem ledMove_frame {move : LedMove τ} {s t : ShownSlot τ} {frame : Rgb}
    (hframe : computedFrame T move s = some frame) (h : ledMove T move s = some t) :
    s.state.active = true ∧
      (frame = s.state.last ∧ t = s ∨ frame ≠ s.state.last ∧ t.shown = frame ∧ t.state.last = frame) := by
  cases move with
  | request connected memory now tv => cases hframe
  | update connected memory pad now currentTime =>
      simp only [ledMove, Option.map_eq_some_iff] at h
      obtain ⟨r, hr, rfl⟩ := h
      simp only [computedFrame] at hframe
      unfold rawUpdateSlot at hr
      by_cases hruns : s.state.runs connected (memory.show s.shown) now = true
      · rw [if_pos hruns] at hframe hr
        obtain ⟨update, hupdate, rfl⟩ := Option.map_eq_some_iff.mp hframe
        rw [hupdate, Option.map_some] at hr
        have hactive : s.state.active = true := by
          unfold RawLedState.runs at hruns
          simp only [Bool.and_eq_true] at hruns
          exact hruns.1.2
        refine ⟨hactive, ?_⟩
        by_cases hnew : update s.state (memory.show s.shown) pad currentTime ≠ s.state.last
        · rw [if_pos hnew] at hr
          cases hr
          exact .inr ⟨hnew, rfl, rfl⟩
        · rw [if_neg hnew] at hr
          cases hr
          exact .inl ⟨not_not.mp hnew, rfl⟩
      · rw [if_neg hruns] at hframe
        cases hframe

/-- An update that computes no frame changes nothing. -/
theorem ledMove_update_of_none {connected : Bool} {memory : Controller} {pad : Pad} {now : Timeval}
    {currentTime : τ} {s t : ShownSlot τ}
    (hframe : computedFrame T (.update connected memory pad now currentTime) s = none)
    (h : ledMove T (.update connected memory pad now currentTime) s = some t) : t = s := by
  simp only [ledMove, Option.map_eq_some_iff] at h
  obtain ⟨r, hr, rfl⟩ := h
  simp only [computedFrame] at hframe
  unfold rawUpdateSlot at hr
  by_cases hruns : s.state.runs connected (memory.show s.shown) now = true
  · rw [if_pos hruns] at hframe hr
    rw [Option.map_eq_none_iff.mp hframe] at hr
    cases hr
  · rw [if_neg hruns] at hr
    cases hr
    rfl

/-- **Every move keeps the invariant.** -/
theorem cacheCoherent_ledMove {move : LedMove τ} {s t : ShownSlot τ} (hs : CacheCoherent s)
    (h : ledMove T move s = some t) : CacheCoherent t := by
  intro hactive
  cases hframe : computedFrame T move s with
  | some frame =>
      obtain ⟨-, ⟨-, rfl⟩ | ⟨-, hshown, hlast⟩⟩ := ledMove_frame hframe h
      · exact hs hactive
      · exact .inr (hlast.trans hshown.symm)
  | none =>
      cases move with
      | request connected memory now tv =>
          obtain rfl | hstopped | hreset := ledMove_request h
          · exact hs hactive
          · rw [hstopped] at hactive
            cases hactive
          · exact .inl hreset
      | update connected memory pad now currentTime =>
          obtain rfl := ledMove_update_of_none hframe h
          exact hs hactive

/-- **One move**: where the invariant holds the frame is shown exactly under the condition. -/
theorem showsFrame_iff {move : LedMove τ} {s t : ShownSlot τ} (hs : CacheCoherent s)
    (h : ledMove T move s = some t) : ShowsFrame T move s ↔ NoHiddenBlack T move s := by
  unfold ShowsFrame NoHiddenBlack
  constructor
  · rintro hshows ⟨hlast, hlit, hblack⟩
    have hshown : t.shown = Rgb.black := hshows Rgb.black t hblack h
    obtain ⟨-, ⟨-, rfl⟩ | ⟨hnew, -⟩⟩ := ledMove_frame hblack h
    · exact hlit hshown
    · exact hnew hlast.symm
  · intro hcond frame t' hframe ht'
    obtain ⟨hactive, ⟨hsame, rfl⟩ | ⟨-, hshown, -⟩⟩ := ledMove_frame hframe ht'
    · obtain hlast | hlast := hs hactive
      · -- the memory is black, so the frame is, and the condition says that the LED is
        by_contra hlit
        refine hcond ⟨hlast, fun hdark => hlit ?_, ?_⟩
        · rw [hdark, hsame, hlast]
        · rw [hframe, hsame, hlast]
      · exact (hsame.trans hlast).symm
    · exact hshown

/-- The table is never left. -/
theorem ledMove_inRange (T : EffectTable τ) (move : LedMove τ) {s : ShownSlot τ} (hs : s.state.InRange) :
    ∃ t, ledMove T move s = some t ∧ t.state.InRange := by
  cases move with
  | request connected memory now tv =>
      obtain ⟨r, hr, hrange⟩ := rawProcessRequest_inRange T connected now tv (memory.show s.shown) hs
      exact ⟨_, congrArg (Option.map _) hr, hrange⟩
  | update connected memory pad now currentTime =>
      obtain ⟨r, hr, hrange⟩ :=
        rawUpdateSlot_inRange T connected pad now currentTime (memory.show s.shown) hs
      exact ⟨_, congrArg (Option.map _) hr, hrange⟩

/-- **Which runs show every frame.**  For all colour functions, whatever the LED shows at the start, and
every sequence of requests and updates: all of them are executed, and every computed frame is shown exactly
when no update computes black while the memory is black and the LED is lit. -/
theorem frames_shown_iff (T : EffectTable τ) (zero : τ) (before : RawEngine τ) (i : Fin maxSlots)
    (shown : Rgb) (moves : List (LedMove τ)) :
    (∃ t, exec (ledMove T) moves (startSlot zero before i shown) = some t) ∧
      (Meets (ledMove T) (ShowsFrame T) moves (startSlot zero before i shown) ↔
        Meets (ledMove T) (NoHiddenBlack T) moves (startSlot zero before i shown)) := by
  constructor
  · have hstart : (startSlot zero before i shown).state.InRange := ledfxInit_inRange zero before i
    obtain ⟨t, ht, -⟩ := exec_total (fun move s => ledMove_inRange T move) moves hstart
    exact ⟨t, ht⟩
  · have hstart : CacheCoherent (startSlot zero before i shown) := fun _ => .inl rfl
    exact meets_congr (fun _ _ _ => cacheCoherent_ledMove) (fun _ _ _ => showsFrame_iff) moves hstart

/-- A base colour that a brightness of one per cent scales to black, with the strobe effect requested. -/
def dimStrobeController : Controller :=
  { initialController with
    ledBaseR := 50
    ledBaseG := 50
    ledBaseB := 50
    ledRequestPending := true
    ledRequestEffect := 4
    ledRequestSpeed := 5
    ledRequestBrightness := 1 }

/-- The request and the first frame of the effect. -/
def dimStrobeMoves : List (LedMove Unit) :=
  [.request true dimStrobeController () ⟨10, 0⟩,
    .update true { dimStrobeController with ledStatic := false } idlePad ⟨10, 16000⟩ ()]

/-- **The LED stays blue under a black frame.** -/
theorem strobe_leaves_blue :
    ¬∀ (before : RawEngine Unit) (i : Fin maxSlots) (shown : Rgb) (moves : List (LedMove Unit)),
      Meets (ledMove (ledTable exampleLedMath)) (ShowsFrame (ledTable exampleLedMath)) moves
        (startSlot () before i shown) := by
  intro hall
  have hrun := hall (fun _ => ⟨0, (), 0, 0, false, ⟨0, 0⟩, Rgb.black⟩) ⟨0, by decide⟩ ⟨0, 0, 255⟩
    dimStrobeMoves
  obtain ⟨-, hrest⟩ := hrun _ rfl
  obtain ⟨hshows, -⟩ := hrest _ rfl
  exact absurd (hshows Rgb.black _ rfl rfl) (by decide)

end Dstx
