/-
# Dstx.Record — the WHOLE `controller_t`, and `keys_apply_map` on it, store by store.

The other modules look at parts of `controller_t` (`Controller`, `Cells`, `Pad`).  `ControllerT` has all of it,
with the fields in the types of the source: the logical buttons are eighteen separate bytes.  What neither
function of this level reads or writes by name (the effect tables, the UHID buffer, the device texts, the
unused debounce cells) is one field `rest` of any type `ρ`, so that "no other field changes" and "everything
is zeroed" speak about it too.

`keys_apply_map` clears the bytes, loops over the eighteen physical buttons with its two `continue` tests and
its eighteen-way `switch`, and recomputes the hat.  `applyMap_eq` says what the record is afterwards, as ONE
equation; `toPad_applyMap` connects it with `Pad.applyMap`, which the drivers' models use.
-/
import Dstx.Keys
import Dstx.Profile.Manager

namespace Dstx

open Dstx.Lib

/-- **`controller_t`**. -/
structure ControllerT (ρ : Type) extends Slot where
  lx : Int
  ly : Int
  rx : Int
  ry : Int
  lt : Int
  rt : Int
  square : UInt8
  cross : UInt8
  circle : UInt8
  triangle : UInt8
  l1 : UInt8
  r1 : UInt8
  l2 : UInt8
  r2 : UInt8
  share : UInt8
  options : UInt8
  l3 : UInt8
  r3 : UInt8
  ps : UInt8
  touchBtn : UInt8
  hatX : Int
  hatY : Int
  battery : Int
  uinputFd : Int
  devPath : CStr
  uhidFd : Int
  workerHeartbeat : UInt64
  workerStop : Bool
  activeEffectId : Int
  activeEffectType : Int
  writingOutput : Bool
  lastExternalRetry : Timeval
  dpadUp : UInt8
  dpadDown : UInt8
  dpadLeft : UInt8
  dpadRight : UInt8
  outputSeq : UInt8
  rest : ρ

namespace ControllerT

variable {ρ : Type}

/-- The byte of a logical button. -/
def button (s : ControllerT ρ) : Button → UInt8
  | .cross => s.cross
  | .circle => s.circle
  | .square => s.square
  | .triangle => s.triangle
  | .l1 => s.l1
  | .r1 => s.r1
  | .l2 => s.l2
  | .r2 => s.r2
  | .share => s.share
  | .options => s.options
  | .l3 => s.l3
  | .r3 => s.r3
  | .ps => s.ps
  | .touch => s.touchBtn
  | .dpadUp => s.dpadUp
  | .dpadDown => s.dpadDown
  | .dpadLeft => s.dpadLeft
  | .dpadRight => s.dpadRight

/-- The record with other button bytes and another hat. -/
def withButtons (s : ControllerT ρ) (buttons : Button → UInt8) (hatX hatY : Int) : ControllerT ρ :=
  { s with
    cross := buttons .cross
    circle := buttons .circle
    square := buttons .square
    triangle := buttons .triangle
    l1 := buttons .l1
    r1 := buttons .r1
    l2 := buttons .l2
    r2 := buttons .r2
    share := buttons .share
    options := buttons .options
    l3 := buttons .l3
    r3 := buttons .r3
    ps := buttons .ps
    touchBtn := buttons .touch
    dpadUp := buttons .dpadUp
    dpadDown := buttons .dpadDown
    dpadLeft := buttons .dpadLeft
    dpadRight := buttons .dpadRight
    hatX := hatX
    hatY := hatY }

/-! ## `keys_apply_map` -/

/-- 1. Zero all logical buttons. -/
def clearButtons (s : ControllerT ρ) : ControllerT ρ :=
  { s with
    cross := 0
    circle := 0
    square := 0
    triangle := 0
    l1 := 0
    r1 := 0
    l2 := 0
    r2 := 0
    share := 0
    options := 0
    l3 := 0
    r3 := 0
    ps := 0
    touchBtn := 0
    dpadUp := 0
    dpadDown := 0
    dpadLeft := 0
    dpadRight := 0 }

/-- The `switch` on the logical button; its `default` only logs. -/
def switchLogical (logical : UInt8) (s : ControllerT ρ) : ControllerT ρ :=
  match logical.toNat with
  | 1 => { s with cross := 1 }
  | 2 => { s with circle := 1 }
  | 3 => { s with square := 1 }
  | 4 => { s with triangle := 1 }
  | 5 => { s with l1 := 1 }
  | 6 => { s with r1 := 1 }
  | 7 => { s with l2 := 1 }
  | 8 => { s with r2 := 1 }
  | 9 => { s with share := 1 }
  | 10 => { s with options := 1 }
  | 11 => { s with l3 := 1 }
  | 12 => { s with r3 := 1 }
  | 13 => { s with ps := 1 }
  | 14 => { s with touchBtn := 1 }
  | 15 => { s with dpadUp := 1 }
  | 16 => { s with dpadDown := 1 }
  | 17 => { s with dpadLeft := 1 }
  | 18 => { s with dpadRight := 1 }
  | _ => s

/-- 2. One iteration of the loop. -/
def mapPhysical (keymap raw : Fin phyBtnCount → UInt8) (s : ControllerT ρ) (phy : Fin phyBtnCount) :
    ControllerT ρ :=
  if raw phy = 0 then s
  else
    let logical := keymap phy
    if logical = 0 then s
    else if logical.toNat ≥ logicalBtnCount then s
    else switchLogical logical s

/-- 3. Recompute the hat from the d-pad bytes. -/
def recomputeHat (s : ControllerT ρ) : ControllerT ρ :=
  { s with
    hatX := if s.dpadRight ≠ 0 then 1 else if s.dpadLeft ≠ 0 then -1 else 0
    hatY := if s.dpadUp ≠ 0 then -1 else if s.dpadDown ≠ 0 then 1 else 0 }

/-- **`keys_apply_map`**. -/
def applyMap (keymap raw : Fin phyBtnCount → UInt8) (s : ControllerT ρ) : ControllerT ρ :=
  recomputeHat ((List.finRange phyBtnCount).foldl (mapPhysical keymap raw) (clearButtons s))

/-! ## What the record is afterwards -/

/-- The codes of the logical buttons are those from 1 up to `LOGICAL_BTN_COUNT`. -/
theorem exists_logical {code : UInt8} (h₀ : code ≠ 0) (hcount : code.toNat < logicalBtnCount) :
    ∃ b : Button, code = b.logical := by
  have hall : ∀ n : Fin logicalBtnCount, n.val ≠ 0 → ∃ b ∈ Button.all, UInt8.ofNat n = b.logical := by
    decide
  have hne : code.toNat ≠ 0 := fun h => h₀ (UInt8.toNat_inj.mp h)
  obtain ⟨b, -, hb⟩ := hall ⟨code.toNat, hcount⟩ hne
  exact ⟨b, by simpa using hb⟩

theorem logical_ne_zero (b : Button) : b.logical ≠ 0 := by
  cases b <;> decide

theorem logical_lt (b : Button) : b.logical.toNat < logicalBtnCount := by
  cases b <;> decide

/-- The eighteen cases of the `switch` are the eighteen buttons. -/
theorem switchLogical_logical (s : ControllerT ρ) (b : Button) : switchLogical b.logical s =
    s.withButtons (fun c => if c = b then 1 else s.button c) s.hatX s.hatY := by
  cases b <;> rfl

/-- A pressed physical button sets the byte of the logical button it is mapped to, if there is one. -/
theorem mapPhysical_eq (keymap raw : Fin phyBtnCount → UInt8) (s : ControllerT ρ) (phy : Fin phyBtnCount) :
    mapPhysical keymap raw s phy = s.withButtons
      (fun b => if raw phy ≠ 0 ∧ keymap phy = b.logical then 1 else s.button b) s.hatX s.hatY := by
  have hkeep : s = s.withButtons s.button s.hatX s.hatY := rfl
  unfold mapPhysical
  by_cases hraw : raw phy = 0
  · simp [hraw, ← hkeep]
  · by_cases hzero : keymap phy = 0
    · have hnone : ∀ b : Button, (0 : UInt8) ≠ b.logical := fun b h => logical_ne_zero b h.symm
      simp [hraw, hzero, hnone, ← hkeep]
    · by_cases hcount : (keymap phy).toNat ≥ logicalBtnCount
      · have hnone : ∀ b : Button, keymap phy ≠ b.logical := by
          intro b hb
          have hlt := logical_lt b
          rw [hb] at hcount
          omega
        simp [hraw, hzero, hcount, hnone, ← hkeep]
      · obtain ⟨b, hb⟩ := exists_logical hzero (by omega)
        simp only [hraw, hzero, hcount, if_false]
        rw [hb, switchLogical_logical]
        simp [hraw, Button.logical_injective.eq_iff, eq_comm]

@[simp] theorem button_withButtons (s : ControllerT ρ) (f : Button → UInt8) (hatX hatY : Int)
    (b : Button) : (s.withButtons f hatX hatY).button b = f b := by
  cases b <;> rfl

@[simp] theorem withButtons_withButtons (s : ControllerT ρ) (f g : Button → UInt8)
    (hatX hatY hatX' hatY' : Int) :
    (s.withButtons f hatX hatY).withButtons g hatX' hatY' = s.withButtons g hatX' hatY' := rfl

/-- The loop: a byte is set by some pressed button of the list, or is as before. -/
theorem foldl_mapPhysical (keymap raw : Fin phyBtnCount → UInt8) (l : List (Fin phyBtnCount))
    (s : ControllerT ρ) : l.foldl (mapPhysical keymap raw) s = s.withButtons
      (fun b => if ∃ p ∈ l, raw p ≠ 0 ∧ keymap p = b.logical then 1 else s.button b) s.hatX s.hatY := by
  induction l generalizing s with
  | nil =>
      simp only [List.foldl_nil, List.not_mem_nil, false_and, exists_false, if_false]
      rfl
  | cons phy l ih =>
      rw [List.foldl_cons, ih, mapPhysical_eq, withButtons_withButtons]
      have hbytes : (fun b => if ∃ p ∈ l, raw p ≠ 0 ∧ keymap p = b.logical then (1 : UInt8)
            else if raw phy ≠ 0 ∧ keymap phy = b.logical then 1 else s.button b) =
          fun b => if ∃ p ∈ phy :: l, raw p ≠ 0 ∧ keymap p = b.logical then 1 else s.button b := by
        funext b
        simp only [List.mem_cons, exists_eq_or_imp]
        by_cases hphy : raw phy ≠ 0 ∧ keymap phy = b.logical
        · simp [hphy]
        · simp [hphy]
      simp only [button_withButtons, hbytes]
      rfl

/-- The byte `keys_apply_map` gives a logical button. -/
def mappedByte (keymap raw : Fin phyBtnCount → UInt8) (b : Button) : UInt8 :=
  if ∃ p, raw p ≠ 0 ∧ keymap p = b.logical then 1 else 0

theorem mappedByte_ne_zero_iff {keymap raw : Fin phyBtnCount → UInt8} {b : Button} :
    mappedByte keymap raw b ≠ 0 ↔ ∃ p, raw p ≠ 0 ∧ keymap p = b.logical := by
  unfold mappedByte
  split <;> simp_all

/-- The hat from the directions: right before left. -/
def mappedHatX (keymap raw : Fin phyBtnCount → UInt8) : Int :=
  if mappedByte keymap raw .dpadRight = 1 then 1
  else if mappedByte keymap raw .dpadLeft = 1 then -1 else 0

/-- Up before down. -/
def mappedHatY (keymap raw : Fin phyBtnCount → UInt8) : Int :=
  if mappedByte keymap raw .dpadUp = 1 then -1
  else if mappedByte keymap raw .dpadDown = 1 then 1 else 0

theorem mappedByte_eq_one_iff {keymap raw : Fin phyBtnCount → UInt8} {b : Button} :
    mappedByte keymap raw b = 1 ↔ mappedByte keymap raw b ≠ 0 := by
  unfold mappedByte
  split <;> decide

/-- The record after `keys_apply_map`, as one equation. -/
theorem applyMap_eq_withButtons (keymap raw : Fin phyBtnCount → UInt8) (s : ControllerT ρ) :
    applyMap keymap raw s = s.withButtons (mappedByte keymap raw) (mappedHatX keymap raw)
      (mappedHatY keymap raw) := by
  have hclear : clearButtons s = s.withButtons (fun _ => 0) s.hatX s.hatY := rfl
  have hloop : (List.finRange phyBtnCount).foldl (mapPhysical keymap raw) (clearButtons s) =
      s.withButtons (mappedByte keymap raw) s.hatX s.hatY := by
    rw [foldl_mapPhysical, hclear, withButtons_withButtons]
    simp only [button_withButtons, List.mem_finRange, true_and]
    rfl
  unfold applyMap
  rw [hloop]
  unfold mappedHatX mappedHatY
  simp only [mappedByte_eq_one_iff]
  rfl

/-- **`keys_apply_map`**, for every record, every eighteen bytes of keymap and every state of the physical
buttons.  A logical button is 1 exactly when a pressed physical button is mapped to it and 0 otherwise; an
entry of 0, or one from `LOGICAL_BTN_COUNT` on, acts as if its button were not pressed; the hat is the
directions' combination, right before left and up before down; and NO OTHER FIELD of the record changes. -/
theorem applyMap_spec (keymap raw : Fin phyBtnCount → UInt8) (s : ControllerT ρ) :
    (∀ b : Button, (applyMap keymap raw s).button b =
      if ∃ p, raw p ≠ 0 ∧ keymap p = b.logical then 1 else 0) ∧
    (∀ p, keymap p = 0 ∨ (keymap p).toNat ≥ logicalBtnCount →
      applyMap keymap raw s = applyMap keymap (Function.update raw p 0) s) ∧
    (applyMap keymap raw s).hatX =
      (if (applyMap keymap raw s).dpadRight = 1 then 1
        else if (applyMap keymap raw s).dpadLeft = 1 then -1 else 0) ∧
    (applyMap keymap raw s).hatY =
      (if (applyMap keymap raw s).dpadUp = 1 then -1
        else if (applyMap keymap raw s).dpadDown = 1 then 1 else 0) ∧
    applyMap keymap raw s = s.withButtons (applyMap keymap raw s).button (applyMap keymap raw s).hatX
      (applyMap keymap raw s).hatY := by
  refine ⟨fun b => ?_, fun p hp => ?_, ?_, ?_, ?_⟩
  · rw [applyMap_eq_withButtons, button_withButtons]
    rfl
  · have hnone : ∀ b : Button, keymap p ≠ b.logical := by
      rintro b hb
      rcases hp with h | h
      · exact logical_ne_zero b (hb ▸ h)
      · have hlt := logical_lt b
        rw [hb] at h
        omega
    have hbytes : mappedByte keymap raw = mappedByte keymap (Function.update raw p 0) := by
      funext b
      have hiff : (∃ q, raw q ≠ 0 ∧ keymap q = b.logical) ↔
          ∃ q, Function.update raw p 0 q ≠ 0 ∧ keymap q = b.logical := by
        refine exists_congr fun q => ?_
        by_cases hq : q = p
        · subst hq
          simp [hnone b]
        · rw [Function.update_of_ne hq]
      unfold mappedByte
      simp only [hiff]
    rw [applyMap_eq_withButtons, applyMap_eq_withButtons]
    unfold mappedHatX mappedHatY
    rw [hbytes]
  · rw [applyMap_eq_withButtons]
    rfl
  · rw [applyMap_eq_withButtons]
    rfl
  · rw [applyMap_eq_withButtons]
    rfl

/-! ## The pad of the drivers' models -/

/-- The input state as the drivers' models have it. -/
def toPad (s : ControllerT ρ) : Pad where
  lx := s.lx
  ly := s.ly
  rx := s.rx
  ry := s.ry
  lt := s.lt
  rt := s.rt
  buttons := fun b => s.button b ≠ 0
  hatX := s.hatX
  hatY := s.hatY
  battery := s.battery

/-- Every index of the raw array is a button's. -/
theorem exists_phy (p : Fin phyBtnCount) : ∃ b : Button, b.phy = p := by
  have hall : ∀ p : Fin phyBtnCount, ∃ b ∈ Button.all, b.phy = p := by decide
  obtain ⟨b, -, hb⟩ := hall p
  exact ⟨b, hb⟩

theorem mappedByte_keysApplyMap (keymap raw : Fin phyBtnCount → UInt8) (b : Button) :
    decide (mappedByte keymap raw b ≠ 0) = keysApplyMap keymap (fun b => raw b.phy ≠ 0) b := by
  rw [Bool.eq_iff_iff, decide_eq_true_iff, keysApplyMap_eq_true_iff, mappedByte_ne_zero_iff]
  constructor
  · rintro ⟨p, hraw, hkey⟩
    obtain ⟨q, rfl⟩ := exists_phy p
    exact ⟨q, by simpa using hraw, hkey⟩
  · rintro ⟨q, hraw, hkey⟩
    exact ⟨q.phy, by simpa using hraw, hkey⟩

/-- **`Pad.applyMap` is `keys_apply_map` on the pad.** -/
theorem toPad_applyMap (keymap raw : Fin phyBtnCount → UInt8) (s : ControllerT ρ) :
    (applyMap keymap raw s).toPad = s.toPad.applyMap keymap fun b => raw b.phy ≠ 0 := by
  have hbuttons : (fun b => decide (mappedByte keymap raw b ≠ 0)) =
      keysApplyMap keymap fun b => raw b.phy ≠ 0 :=
    funext fun b => mappedByte_keysApplyMap keymap raw b
  rw [applyMap_eq_withButtons]
  unfold toPad Pad.applyMap hatXOf hatYOf mappedHatX mappedHatY
  simp only [button_withButtons, hbuttons, mappedByte_eq_one_iff, ← mappedByte_keysApplyMap,
    decide_eq_true_eq]
  rfl

end ControllerT

end Dstx
