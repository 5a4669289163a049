/-
# Dstx.Commands.Grammar — the documented grammar of the slot commands, and what the handlers read.

`README.md` and the usage texts give each slot command a grammar: words from a short list, decimal numbers in
a range, six hexadecimal digits.  The handlers do not parse that grammar.  They read with `atoi`, `sscanf`
and `str_to_bool`, each of which makes a value out of far more texts, and never look at the number of
arguments beyond the ones they need.

`grammar_iff` says for each of the eighteen commands on WHICH inputs its handler returns 0 exactly for the
documented ones: whatever its reader accepts must be spelled as documented and be all there is.
-/
import Dstx.Commands.Cli

namespace Dstx

open Dstx.Lib

/-! ## Words -/

/-- `on|off` or `1|0`. -/
def IsBoolWord (s : CStr) : Prop :=
  s = "on".toList ∨ s = "off".toList ∨ s = "1".toList ∨ s = "0".toList

/-- The word `status`. -/
def statusWord : CStr := "status".toList

/-- A decimal integer in `lo..hi`. -/
def IsDecimal (lo hi : Nat) (s : CStr) : Prop :=
  s ≠ [] ∧ (∀ c ∈ s, isDigitC c = true) ∧ lo ≤ digitsVal s ∧ digitsVal s ≤ hi

/-- Six hexadecimal digits. -/
def IsHexColour (s : CStr) : Prop := s.length = 6 ∧ ∀ c ∈ s, (hexVal c).isSome = true

/-- `atoi` reads a number in `0..hi`. -/
def ReadsUpTo (hi : Int) (s : CStr) : Prop := 0 ≤ atoi s ∧ atoi s ≤ hi

theorem not_space_of_digit {c : Char} (h : isDigitC c = true) :
    isSpaceC c = false ∧ c ≠ '-' ∧ c ≠ '+' := by
  refine ⟨?_, ?_, ?_⟩
  · by_contra hspace
    simp only [isSpaceC, Bool.not_eq_false, Bool.or_eq_true, beq_iff_eq] at hspace
    rcases hspace with ((((rfl | rfl) | rfl) | rfl) | rfl) | rfl <;> revert h <;> decide
  · rintro rfl
    revert h
    decide
  · rintro rfl
    revert h
    decide

/-- **`atoi` reads a decimal integer** as the number it denotes. -/
theorem atoi_decimal {lo hi : Nat} {s : CStr} (h : IsDecimal lo hi s) (hhi : hi < 2 ^ 31) :
    atoi s = digitsVal s := by
  obtain ⟨hne, hdigits, -, hle⟩ := h
  obtain ⟨c, r, rfl⟩ := List.exists_cons_of_ne_nil hne
  obtain ⟨hspace, hminus, hplus⟩ := not_space_of_digit (hdigits c (List.mem_cons_self ..))
  have htake : (c :: r).takeWhile isDigitC = c :: r := List.takeWhile_eq_self_iff.mpr hdigits
  have hvalue : wrap32 (clampLong (digitsVal (c :: r) : Int)) = digitsVal (c :: r) := by
    unfold wrap32 clampLong
    omega
  unfold atoi scanInt
  simp only [List.dropWhile_cons, hspace, Bool.false_eq_true, if_false, hminus, hplus, scanDigits, htake,
    hvalue]

theorem IsDecimal.readsUpTo {lo hi : Nat} {s : CStr} (h : IsDecimal lo hi s) (hhi : hi < 2 ^ 31) :
    ReadsUpTo hi s := by
  unfold ReadsUpTo
  rw [atoi_decimal h hhi]
  have hle := h.2.2.2
  omega

theorem hexVal_facts {c : Char} {n : Nat} (h : hexVal c = some n) :
    isSpaceC c = false ∧ c ≠ '-' ∧ c ≠ '+' ∧ c ≠ 'x' ∧ c ≠ 'X' := by
  have hne : ∀ d, hexVal d = none → c ≠ d := by
    rintro d hnone rfl
    rw [hnone] at h
    cases h
  have hspace : isSpaceC c = false := by
    simp [isSpaceC, hne ' ' rfl, hne '\t' rfl, hne '\n' rfl, hne '\x0b' rfl, hne '\x0c' rfl, hne '\r' rfl]
  exact ⟨hspace, hne '-' rfl, hne '+' rfl, hne 'x' rfl, hne 'X' rfl⟩

/-- Two hexadecimal digits make a field. -/
theorem scanHex2_digits {a b : Char} {m n : Nat} (ha : hexVal a = some m) (hb : hexVal b = some n)
    (r : List Char) : scanHex2 (a :: b :: r) = some (16 * (m : Int) + n, r) := by
  obtain ⟨hspace, hminus, hplus, -⟩ := hexVal_facts ha
  obtain ⟨-, -, -, hx, hX⟩ := hexVal_facts hb
  simp [scanHex2, hexField, hspace, hminus, hplus, hx, hX, ha, hb]

/-- **Six hexadecimal digits are read as a colour.** -/
theorem scanColour_hex {s : CStr} (h : IsHexColour s) : (scanColour s).isSome = true := by
  obtain ⟨hlen, hdigits⟩ := h
  match s, hlen with
  | [a, b, c, d, e, f], _ =>
      simp only [List.forall_mem_cons, Option.isSome_iff_exists] at hdigits
      obtain ⟨⟨va, ha⟩, ⟨vb, hb⟩, ⟨vc, hc⟩, ⟨vd, hd⟩, ⟨ve, he⟩, ⟨vf, hf⟩, -⟩ := hdigits
      simp [scanColour, scanHex2_digits ha hb, scanHex2_digits hc hd, scanHex2_digits he hf]

/-- And so are other texts: `0x` is a field by itself, a sign takes the place of a digit. -/
example : scanColour "0x0x0x".toList = some (0, 0, 0) ∧ scanColour "-1+2 3".toList = some (-1, 2, 3) ∧
    scanColour "ff0".toList = none := by decide

/-! ## One word -/

/-- The documented form of a command with one word. -/
def OneWord (word : CStr → Prop) (args : List CStr) : Prop := ∃ s, args = [s] ∧ word s

/-- **The condition of a command that reads one word**: a word that its reader accepts is spelled as
documented, and is all there is. -/
def OneWordRegular (reads word : CStr → Prop) (args : List CStr) : Prop :=
  ∀ s rest, args = s :: rest → reads s → rest = [] ∧ word s

/-- A handler that accepts what is documented is exact when it accepts nothing else. -/
theorem exact_iff_imp {accepts documented : Prop} (h : documented → accepts) :
    (accepts ↔ documented) ↔ (accepts → documented) :=
  iff_def.trans (and_iff_left h)

/-- The family of commands that read one word and ignore the rest. -/
theorem oneWord_iff {accepts : Prop} {reads word : CStr → Prop} {args : List CStr}
    (hword : ∀ s, word s → reads s) (haccepts : accepts ↔ ∃ s rest, args = s :: rest ∧ reads s) :
    (accepts ↔ OneWord word args) ↔ OneWordRegular reads word args := by
  have hdocumented : OneWord word args → ∃ s rest, args = s :: rest ∧ reads s := by
    rintro ⟨s, rfl, hs⟩
    exact ⟨s, [], rfl, hword s hs⟩
  rw [haccepts, exact_iff_imp hdocumented]
  constructor
  · rintro h s rest rfl hreads
    obtain ⟨s', heq, hs'⟩ := h ⟨s, rest, rfl, hreads⟩
    injection heq with hs hrest
    subst hs
    exact ⟨hrest, hs'⟩
  · rintro h ⟨s, rest, rfl, hreads⟩
    obtain ⟨rfl, hs⟩ := h s rest rfl hreads
    exact ⟨s, rfl, hs⟩

/-! ## The grammar of each command -/

/-- A row of the grammar: the documented inputs, and the condition under which the handler returns 0 for
exactly those. -/
structure CommandGrammar where
  name : CStr
  handler : SlotCommand
  documented : ControllerType → List CStr → Prop
  regular : ControllerType → List CStr → Prop

/-- A command with one word, whatever the controller. -/
def oneWordGrammar (name : CStr) (handler : SlotCommand) (reads word : CStr → Prop) : CommandGrammar where
  name := name
  handler := handler
  documented := fun _ => OneWord word
  regular := fun _ => OneWordRegular reads word

/-- `<command> on|off`. -/
def boolGrammar (name : CStr) (handler : SlotCommand) : CommandGrammar :=
  oneWordGrammar name handler (fun _ => True) IsBoolWord

/-- `<command> on|off|status`. -/
def statusGrammar (name : CStr) (handler : SlotCommand) : CommandGrammar :=
  oneWordGrammar name handler (fun _ => True) fun s => IsBoolWord s ∨ s = statusWord

/-- `<command> <0-100>`. -/
def percentGrammar (name : CStr) (handler : SlotCommand) : CommandGrammar :=
  oneWordGrammar name handler (ReadsUpTo 100) (IsDecimal 0 100)

/-- A command without arguments. -/
def noArgGrammar (name : CStr) (handler : SlotCommand) : CommandGrammar where
  name := name
  handler := handler
  documented := fun _ args => args = []
  regular := fun _ args => args = []

/-- `color <RRGGBB>`. -/
def colorGrammar : CommandGrammar :=
  oneWordGrammar "color".toList cmdColor (fun s => (scanColour s).isSome = true) IsHexColour

/-- `keybind <phy> <log>`. -/
def keybindGrammar : CommandGrammar where
  name := "keybind".toList
  handler := cmdKeybind
  documented := fun _ args => ∃ phy log, args = [phy, log] ∧ IsDecimal 0 17 phy ∧ IsDecimal 0 18 log
  regular := fun _ args => ∀ phy log rest, args = phy :: log :: rest → ReadsUpTo 17 phy → ReadsUpTo 18 log →
    rest = [] ∧ IsDecimal 0 17 phy ∧ IsDecimal 0 18 log

/-- The names of the inverted axes. -/
def IsAxisWord (w : CStr) : Prop := w = "ly".toList ∨ w = "ry".toList

/-- `invert ly|ry on|off|status` or `invert status`. -/
def invertGrammar : CommandGrammar where
  name := "invert".toList
  handler := cmdInvert
  documented := fun _ args =>
    (∃ w v, args = [w, v] ∧ IsAxisWord w ∧ (IsBoolWord v ∨ v = statusWord)) ∨ args = [statusWord]
  regular := fun _ args => (∀ rest, args ≠ statusWord :: rest) ∧
    ∀ w v rest, args = w :: v :: rest → IsAxisWord w → rest = [] ∧ (IsBoolWord v ∨ v = statusWord)

/-- The names of the sticks. -/
def IsStickWord (w : CStr) : Prop := w = "left".toList ∨ w = "right".toList

/-- `sensitivity left|right <0-7>` or `sensitivity status`. -/
def sensitivityGrammar : CommandGrammar where
  name := "sensitivity".toList
  handler := cmdSensitivity
  documented := fun _ args =>
    (∃ w p, args = [w, p] ∧ IsStickWord w ∧ IsDecimal 0 7 p) ∨ args = [statusWord]
  regular := fun _ args => (∀ rest, args = statusWord :: rest → rest = []) ∧
    ∀ w p rest, args = w :: p :: rest → IsStickWord w → ReadsUpTo 7 p → rest = [] ∧ IsDecimal 0 7 p

/-- `[speed] [brightness]`. -/
def EffectArgs (args : List CStr) : Prop :=
  args = [] ∨ (∃ speed, args = [speed] ∧ IsDecimal 1 10 speed) ∨
    ∃ speed brightness, args = [speed, brightness] ∧ IsDecimal 1 10 speed ∧ IsDecimal 0 100 brightness

/-- `ledfx <effect> [speed] [brightness]`. -/
def ledfxGrammar : CommandGrammar where
  name := "ledfx".toList
  handler := cmdLedfx
  documented := fun _ args => ∃ effect rest, args = effect :: rest ∧ IsDecimal 0 8 effect ∧ EffectArgs rest
  regular := fun _ args => ∀ effect rest, args = effect :: rest → ReadsUpTo 8 effect →
    IsDecimal 0 8 effect ∧ EffectArgs rest

/-- `pled <0-5>`, on a DualSense. -/
def pledGrammar : CommandGrammar where
  name := "pled".toList
  handler := cmdPled
  documented := fun type => OneWord fun s => IsDecimal 0 5 s ∧ type = .dualsense
  regular := fun type => OneWordRegular (fun s => ReadsUpTo 5 s ∧ type = .dualsense)
    fun s => IsDecimal 0 5 s ∧ type = .dualsense

/-- A layout word, on a Switch Pro. -/
def IsLayoutWord (type : ControllerType) (s : CStr) : Prop :=
  (s = "switch".toList ∨ s = "xbox".toList) ∧ type = .nswPro

/-- `layout switch|xbox`. -/
def layoutGrammar : CommandGrammar where
  name := "layout".toList
  handler := cmdLayout
  documented := fun type => OneWord (IsLayoutWord type)
  regular := fun type => OneWordRegular (IsLayoutWord type) (IsLayoutWord type)

/-- **The documented grammar**, in the order of the dispatch table. -/
def commandGrammars : List CommandGrammar :=
  [colorGrammar,
    boolGrammar "emulation".toList cmdEmulation,
    boolGrammar "uhid".toList cmdUhid,
    keybindGrammar,
    noArgGrammar "keymap".toList cmdKeymap,
    noArgGrammar "reset-keybinds".toList cmdResetAllKeybinds,
    invertGrammar,
    sensitivityGrammar,
    statusGrammar "triggers-digital".toList cmdTriggersDigital,
    ledfxGrammar,
    percentGrammar "brightness".toList cmdBrightness,
    percentGrammar "deadzone".toList cmdDeadzone,
    percentGrammar "gain".toList cmdGain,
    statusGrammar "rumble".toList cmdRumble,
    boolGrammar "debounce".toList cmdDebounce,
    statusGrammar "reapply".toList cmdReapply,
    pledGrammar,
    layoutGrammar]

/-- It has a row for every entry of the table, and the entry's handler. -/
theorem commandGrammars_table :
    commandGrammars.map (fun g => (g.name, g.handler)) = slotCommands := rfl

/-- Executing a name runs its handler. -/
theorem executeSlotCommand_grammar (slot : Slot) (args : List CStr) :
    ∀ g ∈ commandGrammars, executeSlotCommand slot g.name args = g.handler slot args := by
  simp only [commandGrammars, List.forall_mem_cons]
  refine ⟨rfl, rfl, rfl, rfl, rfl, rfl, rfl, rfl, rfl, rfl, rfl, rfl, rfl, rfl, rfl, rfl, rfl, rfl, ?_⟩
  exact fun g hg => absurd hg List.not_mem_nil

/-! ## What the handlers read -/

/-- **A handler returns 0 exactly for the documented inputs** of a row, under the row's condition. -/
def CommandGrammar.Exact (g : CommandGrammar) : Prop :=
  ∀ (slot : Slot) (args : List CStr),
    ((g.handler slot args).isSome = true ↔ g.documented slot.type args) ↔ g.regular slot.type args

/-- A handler that reads one word and ignores the rest. -/
theorem oneWordGrammar_exact {name : CStr} {handler : SlotCommand} {reads word : CStr → Prop}
    (hword : ∀ s, word s → reads s)
    (hnil : ∀ slot, handler slot [] = none)
    (hcons : ∀ slot s rest, (handler slot (s :: rest)).isSome = true ↔ reads s) :
    (oneWordGrammar name handler reads word).Exact := by
  intro slot args
  refine oneWord_iff hword ?_
  constructor
  · intro hsome
    cases args with
    | nil =>
        have hnone := hnil slot
        simp [oneWordGrammar, hnone] at hsome
    | cons s rest => exact ⟨s, rest, rfl, (hcons slot s rest).mp hsome⟩
  · rintro ⟨s, rest, rfl, hreads⟩
    exact (hcons slot s rest).mpr hreads

theorem inBounds_isSome (hi v : Int) : (inBounds hi v).isSome = true ↔ 0 ≤ v ∧ v ≤ hi := by
  unfold inBounds
  split_ifs with h
  · simp only [Option.isSome_none, Bool.false_eq_true, false_iff]
    omega
  · simp only [Option.isSome_some, true_iff]
    omega

theorem percentGrammar_exact {name : CStr} {handler : SlotCommand} (hnil : ∀ slot, handler slot [] = none)
    (hcons : ∀ slot s rest, (handler slot (s :: rest)).isSome = (inBounds 100 (atoi s)).isSome) :
    (percentGrammar name handler).Exact := by
  refine oneWordGrammar_exact (fun s hs => hs.readsUpTo (by decide)) hnil fun slot s rest => ?_
  rw [hcons, inBounds_isSome]
  rfl

theorem keybind_isSome (slot : Slot) (phy log : CStr) :
    (slot.keybind (atoi phy) (atoi log)).isSome = true ↔ ReadsUpTo 17 phy ∧ ReadsUpTo 18 log := by
  have hphy : ReadsUpTo 17 phy ↔ 0 ≤ atoi phy ∧ atoi phy < phyBtnCount := by
    show 0 ≤ atoi phy ∧ atoi phy ≤ 17 ↔ 0 ≤ atoi phy ∧ atoi phy < (18 : Nat)
    omega
  have hlog : ReadsUpTo 18 log ↔ 0 ≤ atoi log ∧ atoi log < logicalBtnCount := by
    show 0 ≤ atoi log ∧ atoi log ≤ 18 ↔ 0 ≤ atoi log ∧ atoi log < (19 : Nat)
    omega
  rw [hphy, hlog]
  unfold Slot.keybind phyIndex
  by_cases hp : 0 ≤ atoi phy ∧ atoi phy < phyBtnCount
  · rw [dif_pos hp]
    dsimp only
    split_ifs with hl
    · simp [hp, hl]
    · simp [hl]
  · rw [dif_neg hp]
    simp [hp]

section Lists

variable {a b : CStr} {rest : List CStr}

/-- A list that starts with a word. -/
theorem exists_head {P : CStr → List CStr → Prop} : (∃ x r, a :: rest = x :: r ∧ P x r) ↔ P a rest := by
  constructor
  · rintro ⟨x, r, heq, hP⟩
    simp only [List.cons.injEq] at heq
    obtain ⟨rfl, rfl⟩ := heq
    exact hP
  · exact fun hP => ⟨a, rest, rfl, hP⟩

theorem forall_head {P : CStr → List CStr → Prop} : (∀ x r, a :: rest = x :: r → P x r) ↔ P a rest := by
  constructor
  · exact fun h => h a rest rfl
  · rintro h x r heq
    simp only [List.cons.injEq] at heq
    obtain ⟨rfl, rfl⟩ := heq
    exact h

/-- A list that starts with two words and is two words long. -/
theorem exists_pair {P : CStr → CStr → Prop} :
    (∃ x y, a :: b :: rest = [x, y] ∧ P x y) ↔ rest = [] ∧ P a b := by
  constructor
  · rintro ⟨x, y, heq, hP⟩
    simp only [List.cons.injEq] at heq
    obtain ⟨rfl, rfl, hrest⟩ := heq
    exact ⟨hrest, hP⟩
  · rintro ⟨rfl, hP⟩
    exact ⟨a, b, rfl, hP⟩

theorem forall_pair {P : CStr → CStr → List CStr → Prop} :
    (∀ x y r, a :: b :: rest = x :: y :: r → P x y r) ↔ P a b rest := by
  constructor
  · exact fun h => h a b rest rfl
  · rintro h x y r heq
    simp only [List.cons.injEq] at heq
    obtain ⟨rfl, rfl, rfl⟩ := heq
    exact h

end Lists

theorem keybindGrammar_exact : keybindGrammar.Exact := by
  intro slot args
  show ((cmdKeybind slot args).isSome = true ↔ ∃ phy log, args = [phy, log] ∧ IsDecimal 0 17 phy ∧
    IsDecimal 0 18 log) ↔ ∀ phy log rest, args = phy :: log :: rest → ReadsUpTo 17 phy → ReadsUpTo 18 log →
      rest = [] ∧ IsDecimal 0 17 phy ∧ IsDecimal 0 18 log
  match args with
  | [] => simp [cmdKeybind]
  | [a] => simp [cmdKeybind]
  | phy :: log :: rest =>
      have haccepts : (cmdKeybind slot (phy :: log :: rest)).isSome = true ↔
          ReadsUpTo 17 phy ∧ ReadsUpTo 18 log := keybind_isSome slot phy log
      have hdocumented : rest = [] ∧ IsDecimal 0 17 phy ∧ IsDecimal 0 18 log →
          ReadsUpTo 17 phy ∧ ReadsUpTo 18 log := by
        rintro ⟨-, hphy, hlog⟩
        exact ⟨hphy.readsUpTo (by decide), hlog.readsUpTo (by decide)⟩
      rw [haccepts, exists_pair, forall_pair, exact_iff_imp hdocumented, and_imp]

theorem noArgGrammar_exact {name : CStr} {handler : SlotCommand}
    (h : ∀ slot args, (handler slot args).isSome = true) : (noArgGrammar name handler).Exact := by
  intro slot args
  show ((handler slot args).isSome = true ↔ args = []) ↔ args = []
  simp [h slot args]

theorem statusWord_not_axis : ¬IsAxisWord statusWord := by
  rintro (h | h) <;> revert h <;> decide

theorem statusWord_not_stick : ¬IsStickWord statusWord := by
  rintro (h | h) <;> revert h <;> decide

theorem cmdInvert_isSome (slot : Slot) (w v : CStr) (rest : List CStr) :
    (cmdInvert slot (w :: v :: rest)).isSome = true ↔ w = statusWord ∨ IsAxisWord w := by
  simp only [cmdInvert, IsAxisWord]
  split_ifs with hstatus hly hry
  · exact iff_of_true rfl (Or.inl hstatus)
  · exact iff_of_true rfl (Or.inr (Or.inl hly))
  · exact iff_of_true rfl (Or.inr (Or.inr hry))
  · refine iff_of_false Bool.false_ne_true ?_
    rintro (h | h | h)
    · exact hstatus h
    · exact hly h
    · exact hry h

theorem invertGrammar_exact : invertGrammar.Exact := by
  intro slot args
  show ((cmdInvert slot args).isSome = true ↔ (∃ w v, args = [w, v] ∧ IsAxisWord w ∧
      (IsBoolWord v ∨ v = statusWord)) ∨ args = [statusWord]) ↔ (∀ rest, args ≠ statusWord :: rest) ∧
    ∀ w v rest, args = w :: v :: rest → IsAxisWord w → rest = [] ∧ (IsBoolWord v ∨ v = statusWord)
  match args with
  | [] => simp [cmdInvert]
  | [a] =>
      -- one word: refused, `status` among them
      have hnone : ¬(cmdInvert slot [a]).isSome = true := Bool.false_ne_true
      constructor
      · intro h
        refine ⟨fun rest heq => ?_, fun w v rest heq => by simp at heq⟩
        simp only [List.cons.injEq] at heq
        exact hnone (h.mpr (Or.inr (by rw [heq.1])))
      · rintro ⟨hstatus, -⟩
        refine iff_of_false hnone ?_
        rintro (⟨w, v, heq, -⟩ | heq)
        · simp at heq
        · exact hstatus [] heq
  | w :: v :: rest =>
      have hlong : w :: v :: rest ≠ [statusWord] := by simp
      rw [cmdInvert_isSome, exists_pair, forall_pair, or_iff_left hlong]
      by_cases hw : w = statusWord
      · -- `status` and more: accepted, not documented
        refine iff_of_false (fun h => ?_) fun h => h.1 (v :: rest) (by rw [hw])
        obtain ⟨-, haxis, -⟩ := h.mp (Or.inl hw)
        rw [hw] at haxis
        exact statusWord_not_axis haxis
      · have hstatus : ∀ rest', w :: v :: rest ≠ statusWord :: rest' :=
          fun rest' heq => hw (List.head_eq_of_cons_eq heq)
        have hdocumented : rest = [] ∧ IsAxisWord w ∧ (IsBoolWord v ∨ v = statusWord) → IsAxisWord w :=
          fun h => h.2.1
        rw [or_iff_right hw, and_iff_right hstatus, exact_iff_imp hdocumented]
        refine forall_congr' fun haxis => ?_
        rw [and_iff_right haxis]

theorem cmdSensitivity_isSome (slot : Slot) {w : CStr} (hw : w ≠ statusWord) (p : CStr)
    (rest : List CStr) :
    (cmdSensitivity slot (w :: p :: rest)).isSome = true ↔ IsStickWord w ∧ ReadsUpTo 7 p := by
  have hrange : ReadsUpTo 7 p ↔ ¬(atoi p < 0 ∨ atoi p ≥ sensPresetCount) := by
    show 0 ≤ atoi p ∧ atoi p ≤ 7 ↔ ¬(atoi p < 0 ∨ atoi p ≥ (8 : Nat))
    omega
  have hw' : w ≠ "status".toList := hw
  rw [hrange]
  simp only [cmdSensitivity, IsStickWord, if_neg hw']
  split_ifs with hout hleft hright
  · exact iff_of_false Bool.false_ne_true fun h => h.2 hout
  · exact iff_of_true rfl ⟨Or.inl hleft, hout⟩
  · exact iff_of_true rfl ⟨Or.inr hright, hout⟩
  · refine iff_of_false Bool.false_ne_true ?_
    rintro ⟨h | h, -⟩
    · exact hleft h
    · exact hright h

theorem sensitivityGrammar_exact : sensitivityGrammar.Exact := by
  intro slot args
  show ((cmdSensitivity slot args).isSome = true ↔ (∃ w p, args = [w, p] ∧ IsStickWord w ∧
      IsDecimal 0 7 p) ∨ args = [statusWord]) ↔ (∀ rest, args = statusWord :: rest → rest = []) ∧
    ∀ w p rest, args = w :: p :: rest → IsStickWord w → ReadsUpTo 7 p → rest = [] ∧ IsDecimal 0 7 p
  match args with
  | [] => simp [cmdSensitivity]
  | [a] =>
      have haccepts : (cmdSensitivity slot [a]).isSome = true ↔ a = statusWord := by
        simp only [cmdSensitivity]
        split_ifs with hstatus
        · exact iff_of_true rfl hstatus
        · exact iff_of_false Bool.false_ne_true hstatus
      rw [haccepts]
      refine iff_of_true ?_ ⟨fun rest heq => ?_, fun w p rest heq => by simp at heq⟩
      · constructor
        · rintro rfl
          exact Or.inr rfl
        · rintro (⟨w, p, heq, -⟩ | heq)
          · simp at heq
          · exact List.head_eq_of_cons_eq heq
      · simp only [List.cons.injEq] at heq
        exact heq.2.symm
  | w :: p :: rest =>
      rw [exists_pair, forall_pair]
      have hlong : w :: p :: rest ≠ [statusWord] := by simp
      by_cases hw : w = statusWord
      · -- `status` and more: accepted, not documented
        subst hw
        have hsome : (cmdSensitivity slot (statusWord :: p :: rest)).isSome = true := rfl
        refine iff_of_false ?_ ?_
        · intro h
          rcases h.mp hsome with ⟨-, hstick, -⟩ | hone
          · exact statusWord_not_stick hstick
          · exact hlong hone
        · rintro ⟨hstatus, -⟩
          exact absurd (hstatus (p :: rest) rfl) (List.cons_ne_nil p rest)
      · have hstatus : ∀ rest', w :: p :: rest = statusWord :: rest' → rest' = [] :=
          fun rest' heq => absurd (List.head_eq_of_cons_eq heq) hw
        have hdocumented : rest = [] ∧ IsStickWord w ∧ IsDecimal 0 7 p → IsStickWord w ∧ ReadsUpTo 7 p :=
          fun h => ⟨h.2.1, h.2.2.readsUpTo (by decide)⟩
        rw [cmdSensitivity_isSome slot hw, or_iff_left hlong, and_iff_right hstatus, exact_iff_imp hdocumented,
          and_imp]
        refine forall_congr' fun hstick => ?_
        rw [and_iff_right hstick]

theorem cmdLedfx_isSome (slot : Slot) (effect : CStr) (rest : List CStr) :
    (cmdLedfx slot (effect :: rest)).isSome = true ↔ ReadsUpTo 8 effect := by
  have hrange : ReadsUpTo 8 effect ↔ ¬(atoi effect < 0 ∨ atoi effect ≥ ledfxCount) := by
    show 0 ≤ atoi effect ∧ atoi effect ≤ 8 ↔ ¬(atoi effect < 0 ∨ atoi effect ≥ (9 : Nat))
    omega
  rw [hrange]
  simp only [cmdLedfx]
  split_ifs with hout hzero
  · simp [hout]
  · simp [hout]
  · simp [hout]

theorem ledfxGrammar_exact : ledfxGrammar.Exact := by
  intro slot args
  show ((cmdLedfx slot args).isSome = true ↔ ∃ effect rest, args = effect :: rest ∧ IsDecimal 0 8 effect ∧
    EffectArgs rest) ↔ ∀ effect rest, args = effect :: rest → ReadsUpTo 8 effect →
      IsDecimal 0 8 effect ∧ EffectArgs rest
  cases args with
  | nil => simp [cmdLedfx]
  | cons effect rest =>
      have hdocumented : IsDecimal 0 8 effect ∧ EffectArgs rest → ReadsUpTo 8 effect :=
        fun h => h.1.readsUpTo (by decide)
      rw [cmdLedfx_isSome, exists_head, forall_head, exact_iff_imp hdocumented]

theorem pledGrammar_exact : pledGrammar.Exact := by
  intro slot args
  refine oneWord_iff (fun s hs => ⟨hs.1.readsUpTo (by decide), hs.2⟩) ?_
  show (cmdPled slot args).isSome = true ↔ _
  cases args with
  | nil => simp [cmdPled]
  | cons s rest =>
      have haccepts : (cmdPled slot (s :: rest)).isSome = true ↔ ReadsUpTo 5 s ∧ slot.type = .dualsense := by
        have hbounds := inBounds_isSome 5 (atoi s)
        simp only [cmdPled]
        cases hin : inBounds 5 (atoi s) with
        | none =>
            rw [hin] at hbounds
            exact iff_of_false Bool.false_ne_true fun h => Bool.false_ne_true (hbounds.mpr h.1)
        | some p =>
            rw [hin] at hbounds
            have hreads : ReadsUpTo 5 s := hbounds.mp rfl
            dsimp only
            split_ifs with htype
            · exact iff_of_false Bool.false_ne_true fun h => htype h.2
            · exact iff_of_true rfl ⟨hreads, not_not.mp htype⟩
      rw [haccepts, exists_head]

theorem layoutGrammar_exact : layoutGrammar.Exact := by
  intro slot args
  refine oneWord_iff (fun s hs => hs) ?_
  show (cmdLayout slot args).isSome = true ↔ _
  cases args with
  | nil => simp [cmdLayout]
  | cons s rest =>
      have haccepts : (cmdLayout slot (s :: rest)).isSome = true ↔ IsLayoutWord slot.type s := by
        simp only [cmdLayout, IsLayoutWord]
        split_ifs with hswitch htype hxbox htype
        · exact iff_of_false Bool.false_ne_true fun h => htype h.2
        · exact iff_of_true rfl ⟨Or.inl hswitch, not_not.mp htype⟩
        · exact iff_of_false Bool.false_ne_true fun h => htype h.2
        · exact iff_of_true rfl ⟨Or.inr hxbox, not_not.mp htype⟩
        · refine iff_of_false Bool.false_ne_true ?_
          rintro ⟨h | h, -⟩
          · exact hswitch h
          · exact hxbox h
      rw [haccepts, exists_head]

/-! ## All commands -/

theorem colorGrammar_exact : colorGrammar.Exact := by
  refine oneWordGrammar_exact (fun s hs => scanColour_hex hs) (fun _ => rfl) fun slot s rest => ?_
  show ((scanColour s).map _).isSome = true ↔ _
  rw [Option.isSome_map]

/-- A handler that takes any word. -/
theorem anyWord_exact {name : CStr} {handler : SlotCommand} {word : CStr → Prop}
    (hnil : ∀ slot, handler slot [] = none)
    (hcons : ∀ slot s rest, (handler slot (s :: rest)).isSome = true) :
    (oneWordGrammar name handler (fun _ => True) word).Exact :=
  oneWordGrammar_exact (fun _ _ => trivial) hnil fun slot s rest => iff_of_true (hcons slot s rest) trivial

/-- `status`, or a store. -/
theorem ite_isSome {p : Prop} [Decidable p] {x y : Slot} :
    (if p then some x else some y : Option Slot).isSome = true := by
  split_ifs <;> rfl

theorem commandGrammars_exact : ∀ g ∈ commandGrammars, g.Exact := by
  simp only [commandGrammars, List.forall_mem_cons]
  refine ⟨colorGrammar_exact, anyWord_exact (fun _ => rfl) fun _ _ _ => rfl,
    anyWord_exact (fun _ => rfl) fun _ _ _ => rfl, keybindGrammar_exact,
    noArgGrammar_exact fun _ _ => rfl, noArgGrammar_exact fun _ _ => rfl, invertGrammar_exact,
    sensitivityGrammar_exact, anyWord_exact (fun _ => rfl) fun _ _ _ => ite_isSome, ledfxGrammar_exact,
    percentGrammar_exact (fun _ => rfl) fun _ _ _ => Option.isSome_map,
    percentGrammar_exact (fun _ => rfl) fun _ _ _ => Option.isSome_map,
    percentGrammar_exact (fun _ => rfl) fun _ _ _ => Option.isSome_map,
    anyWord_exact (fun _ => rfl) fun _ _ _ => ite_isSome, anyWord_exact (fun _ => rfl) fun _ _ _ => rfl,
    anyWord_exact (fun _ => rfl) fun _ _ _ => ite_isSome, pledGrammar_exact, layoutGrammar_exact, ?_⟩
  exact fun g hg => absurd hg List.not_mem_nil

/-- **When a slot command accepts exactly its documented grammar.**  For every command of the table, every
slot and every list of arguments: `return 0` is equivalent to the documented form exactly under the row's
condition. -/
theorem grammar_iff (slot : Slot) (args : List CStr) (g : CommandGrammar) (hg : g ∈ commandGrammars) :
    ((executeSlotCommand slot g.name args).isSome = true ↔ g.documented slot.type args) ↔
      g.regular slot.type args := by
  rw [executeSlotCommand_grammar slot args g hg]
  exact commandGrammars_exact g hg slot args

/-- A controller that was just connected. -/
def freshSlot : Slot :=
  { initialController, initialCells with connected := true }

/-- `color ff00aa` is taken for what it says; `color 0x0x0x` is taken as well, and is not documented. -/
theorem grammar_iff_color :
    ((executeSlotCommand freshSlot "color".toList ["ff00aa".toList]).isSome = true ↔
        IsHexColour "ff00aa".toList) ∧
      ¬((executeSlotCommand freshSlot "color".toList ["0x0x0x".toList]).isSome = true ↔
        colorGrammar.documented freshSlot.type ["0x0x0x".toList]) := by
  have hmem : colorGrammar ∈ commandGrammars := List.mem_cons_self ..
  have hword : IsHexColour "ff00aa".toList := ⟨rfl, List.all_eq_true.mp (by decide)⟩
  constructor
  · have hregular : colorGrammar.regular freshSlot.type ["ff00aa".toList] := by
      rintro s rest heq -
      simp only [List.cons.injEq] at heq
      obtain ⟨rfl, rfl⟩ := heq
      exact ⟨rfl, hword⟩
    have hexact := (grammar_iff freshSlot ["ff00aa".toList] colorGrammar hmem).mpr hregular
    exact iff_of_true (hexact.mpr ⟨_, rfl, hword⟩) hword
  · intro hexact
    have hregular := (grammar_iff freshSlot ["0x0x0x".toList] colorGrammar hmem).mp hexact
    obtain ⟨-, -, hdigits⟩ := hregular _ [] rfl (by decide)
    exact absurd (hdigits 'x' (by decide)) (by decide)

/-- **`emulation yes`** is accepted, and switches emulation OFF. -/
theorem emulation_takes_any_word :
    ¬((executeSlotCommand freshSlot "emulation".toList ["yes".toList]).isSome = true ↔
      (boolGrammar "emulation".toList cmdEmulation).documented freshSlot.type ["yes".toList]) := by
  intro h
  have haccepted : (executeSlotCommand freshSlot "emulation".toList ["yes".toList]).isSome = true := rfl
  obtain ⟨s, heq, hword⟩ := h.mp haccepted
  obtain rfl := List.head_eq_of_cons_eq heq
  rcases hword with h | h | h | h <;> revert h <;> decide

end Dstx
