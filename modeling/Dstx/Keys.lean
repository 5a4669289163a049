/-
# Dstx.Keys — the keybind system (`keys.c`): physical to logical buttons, and the layouts.

`keys_apply_map` clears every logical button and then, for each pressed physical button, sets the
logical button its keymap entry names; entries that name none are skipped.  Its specification is
`keysApplyMap_eq_true_iff`: a logical button is down EXACTLY when some pressed physical button is
bound to it.  The layout functions overwrite the four face entries, absolutely.
-/
import Dstx.Device

namespace Dstx

/-- One iteration of the loop of `keys_apply_map`. -/
def applyKey (keymap : Keymap) (raw : Button → Bool) (logical : Button → Bool) (p : Button) :
    Button → Bool :=
  if raw p then
    match Button.ofLogical (keymap p.phy) with
    | some b => Function.update logical b true
    | none => logical
  else logical

/-- **`keys_apply_map`** — the logical buttons. -/
def keysApplyMap (keymap : Keymap) (raw : Button → Bool) : Button → Bool :=
  Button.all.foldl (applyKey keymap raw) fun _ => false

/-- `slot->HATX`, recomputed from the directions. -/
def hatXOf (buttons : Button → Bool) : Int :=
  if buttons .dpadRight then 1 else if buttons .dpadLeft then -1 else 0

/-- `slot->HATY`. -/
def hatYOf (buttons : Button → Bool) : Int :=
  if buttons .dpadUp then -1 else if buttons .dpadDown then 1 else 0

/-- `keys_apply_map` on the pad: buttons and hat, nothing else. -/
def Pad.applyMap (pad : Pad) (keymap : Keymap) (raw : Button → Bool) : Pad :=
  { pad with
    buttons := keysApplyMap keymap raw
    hatX := hatXOf (keysApplyMap keymap raw)
    hatY := hatYOf (keysApplyMap keymap raw) }

theorem applyKey_eq_true_iff (keymap : Keymap) (raw logical : Button → Bool) (p b : Button) :
    applyKey keymap raw logical p b = true ↔
      logical b = true ∨ (raw p = true ∧ keymap p.phy = b.logical) := by
  unfold applyKey
  split
  · rename_i hraw
    cases hl : Button.ofLogical (keymap p.phy) with
    | none =>
        have hne : keymap p.phy ≠ b.logical := by
          intro h
          rw [h, Button.ofLogical_logical] at hl
          cases hl
        simp [hne]
    | some b' =>
        have hcode := Button.ofLogical_eq_some.mp hl
        by_cases hb : b = b'
        · subst hb
          simp [hraw, hcode]
        · have hne : keymap p.phy ≠ b.logical := by
            intro h
            exact hb (Button.logical_injective (h.symm.trans hcode))
          simp [Function.update_of_ne hb, hne]
  · rename_i hraw
    simp [hraw]

theorem foldl_applyKey_eq_true_iff (keymap : Keymap) (raw : Button → Bool) (b : Button) :
    ∀ (l : List Button) (logical : Button → Bool),
      l.foldl (applyKey keymap raw) logical b = true ↔
        logical b = true ∨ ∃ p ∈ l, raw p = true ∧ keymap p.phy = b.logical := by
  intro l
  induction l with
  | nil => simp
  | cons p l ih =>
      intro logical
      rw [List.foldl_cons, ih, applyKey_eq_true_iff]
      simp only [List.mem_cons, exists_eq_or_imp, or_assoc]

/-- **Spec of `keys_apply_map`**: a logical button is down exactly when a pressed physical button is
bound to it. -/
theorem keysApplyMap_eq_true_iff (keymap : Keymap) (raw : Button → Bool) (b : Button) :
    keysApplyMap keymap raw b = true ↔ ∃ p, raw p = true ∧ keymap p.phy = b.logical := by
  unfold keysApplyMap
  rw [foldl_applyKey_eq_true_iff]
  constructor
  · rintro (h | ⟨p, -, h⟩)
    · cases h
    · exact ⟨p, h⟩
  · rintro ⟨p, h⟩
    exact Or.inr ⟨p, Button.mem_all p, h⟩

/-! ## Layouts -/

/-- **`keys_set_xbox_layout`** — the face buttons produce themselves. -/
def keysSetXboxLayout (map : Keymap) : Keymap :=
  Function.update
    (Function.update
      (Function.update (Function.update map Button.cross.phy Button.cross.logical)
        Button.circle.phy Button.circle.logical)
      Button.square.phy Button.square.logical)
    Button.triangle.phy Button.triangle.logical

/-- **`keys_set_switch_layout`** — A and B, X and Y change places. -/
def keysSetSwitchLayout (map : Keymap) : Keymap :=
  Function.update
    (Function.update
      (Function.update (Function.update map Button.cross.phy Button.circle.logical)
        Button.circle.phy Button.cross.logical)
      Button.square.phy Button.triangle.logical)
    Button.triangle.phy Button.square.logical

/-- **The one-shot layout requests of the worker loop**, in the order the worker takes them: each
flag is exchanged for `false` and its layout applied. -/
def processLayoutRequests (slot : Slot) : Slot :=
  let s₁ : Slot :=
    if slot.requestSwitchLayout then
      { slot with
        requestSwitchLayout := false
        keymap := keysSetSwitchLayout slot.keymap
        ledDirty := true }
    else slot
  let s₂ : Slot :=
    if s₁.requestXboxLayout then
      { s₁ with
        requestXboxLayout := false
        keymap := keysSetXboxLayout s₁.keymap
        ledDirty := true }
    else s₁
  if s₂.requestResetAllKeybinds then
    { s₂ with
      requestResetAllKeybinds := false
      keymap := keysGetDefaultMap
      ledDirty := true }
  else s₂

end Dstx
