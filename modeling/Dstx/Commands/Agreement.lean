/-
# Dstx.Commands.Agreement — do the command line and the text interface speak the same language?

The slot commands are implemented twice: as handlers that get their arguments as separate strings, and
as branches that look at the typed line.  A COMMAND LINE is a list of words; the command line passes the
words (`cliLine`), the interface the words joined by blanks (`Lib.line`).  For every line that BOTH
accept, `cli_tui_agree_iff` says exactly when they leave the same slot.

They do for fourteen of the eighteen commands, whatever the arguments.  They differ in four: a colour
(the interface resets the requested effect), `pled` (the interface switches to static mode), `ledfx`
(the command line sanitises speed and brightness, the interface does not, and `sscanf` reads on where
`atoi` stops) and `keybind` (the same reading on, for a first word such as `3+4`).
-/
import Dstx.Commands.Changes

namespace Dstx

open Dstx.Lib

/-! ## The two readings of a command line -/

/-- **A command line through the handlers**: a colour word alone, or a command with its arguments. -/
def cliLine (slot : Slot) : List Token → Option Slot
  | [] => none
  | name :: args =>
      if args.isEmpty && isColourWord name.chars then cmdColor slot [name.chars]
      else executeSlotCommand slot name.chars (args.map Token.chars)

/-- **A command line through the branches.** -/
def tuiLine (slot : Slot) (words : List Token) : Option Slot := runUiSlotCommand slot (line words)

/-! ## The condition -/

/-- The interface stores the byte `tui` where the command line replaces `cli` by a default unless it
lies in `lo..hi`. -/
def SameByte (lo hi dflt cli tui : UInt8) : Prop :=
  if lo ≤ cli ∧ cli ≤ hi then tui = cli else tui = dflt

/-- The byte of an optional argument of `cmd_ledfx`. -/
def argByte (dflt : UInt8) (arg : Option Token) : UInt8 :=
  (arg.map fun t => toU8 (atoi t.chars)).getD dflt

/-- `ledfx`: static mode is asked for, or the bytes that `sscanf` reads from the line are the
arguments of the command line, brought into range. -/
def SameLedfx (args : List Token) : Prop :=
  ∀ effect speed brightness, scanLedfx (lineTail args) = some (effect, speed, brightness) →
    effect ≠ 0 →
      SameByte 1 10 5 (argByte 5 args.tail.head?) (toU8 speed) ∧
        SameByte 1 100 80 (argByte 80 args.tail.tail.head?) (toU8 brightness)

/-- `keybind`: the second number on the line is the number of the second argument. -/
def SameKeybind (args : List Token) : Prop :=
  ∀ physical logical, scanTwoInts (line args) = some (physical, logical) →
    ∀ arg ∈ args.tail.head?, logical = atoi arg.chars

/-- **The condition under which the front ends agree on a line.** -/
def FrontEndsAgree (slot : Slot) : List Token → Prop
  | [] => True
  | name :: args =>
      if isColourWord name.chars ∨ name.chars = "color".toList then slot.ledRequestEffect = 0
      else if name.chars = "pled".toList then slot.ledStatic = true
      else if name.chars = "ledfx".toList then SameLedfx args
      else if name.chars = "keybind".toList then SameKeybind args
      else True

/-- The commands the front ends never differ on. -/
def isCommonName (name : CStr) : Bool :=
  !isColourWord name && name != "color".toList && name != "pled".toList && name != "ledfx".toList &&
    name != "keybind".toList

/-! ## Branches -/

/-- A branch agrees with the handlers on the lines it takes, under the condition and only then. -/
def BranchAgrees (branch : LineTest × UiAction) : Prop :=
  ∀ slot words rest s₁ s₂, cliLine slot words = some s₁ →
    branch.1.rest (line words) = some rest → branch.2 slot rest = some s₂ →
      (s₁ = s₂ ↔ FrontEndsAgree slot words)

theorem frontEndsAgree_of_common {name : Token} (h : isCommonName name.chars = true) (slot : Slot)
    (args : List Token) : FrontEndsAgree slot (name :: args) := by
  simp only [isCommonName, Bool.and_eq_true, Bool.not_eq_true', bne_iff_ne] at h
  obtain ⟨⟨⟨⟨hcolour, hcolor⟩, hpled⟩, hledfx⟩, hkeybind⟩ := h
  have hno : ¬(isColourWord name.chars = true ∨ name.chars = "color".toList) := by
    rintro (hc | hc)
    · rw [hcolour] at hc
      cases hc
    · exact hcolor hc
  unfold FrontEndsAgree
  dsimp only
  rw [if_neg hno, if_neg hpled, if_neg hledfx, if_neg hkeybind]
  trivial

theorem frontEndsAgree_colour {name : Token}
    (h : isColourWord name.chars = true ∨ name.chars = "color".toList) (slot : Slot)
    (args : List Token) : FrontEndsAgree slot (name :: args) ↔ slot.ledRequestEffect = 0 := by
  unfold FrontEndsAgree
  dsimp only
  rw [if_pos h]

theorem frontEndsAgree_pled {name : Token} (h : name.chars = "pled".toList) (slot : Slot)
    (args : List Token) : FrontEndsAgree slot (name :: args) ↔ slot.ledStatic = true := by
  unfold FrontEndsAgree
  dsimp only
  rw [h, if_neg (by decide), if_pos rfl]

theorem frontEndsAgree_ledfx {name : Token} (h : name.chars = "ledfx".toList) (slot : Slot)
    (args : List Token) : FrontEndsAgree slot (name :: args) ↔ SameLedfx args := by
  unfold FrontEndsAgree
  dsimp only
  rw [h, if_neg (by decide), if_neg (by decide), if_pos rfl]

theorem frontEndsAgree_keybind {name : Token} (h : name.chars = "keybind".toList) (slot : Slot)
    (args : List Token) : FrontEndsAgree slot (name :: args) ↔ SameKeybind args := by
  unfold FrontEndsAgree
  dsimp only
  rw [h, if_neg (by decide), if_neg (by decide), if_neg (by decide), if_pos rfl]

theorem isColourWord_of_common {name : CStr} (h : isCommonName name = true) :
    isColourWord name = false := by
  simp only [isCommonName, Bool.and_eq_true, Bool.not_eq_true'] at h
  exact h.1.1.1.1

/-- A line that is not a bare colour goes to the dispatch table. -/
theorem cliLine_eq {name : Token} (h : isColourWord name.chars = false) (slot : Slot)
    (args : List Token) :
    cliLine slot (name :: args) = executeSlotCommand slot name.chars (args.map Token.chars) := by
  simp [cliLine, h]

section Common

variable {name arg arg' : CStr} {action : UiAction}

/-- A line of one word. -/
theorem agrees_oneWord (hname : ' ' ∉ name) (hcommon : isCommonName name = true)
    (hsame : ∀ slot s₁ s₂, executeSlotCommand slot name [] = some s₁ → action slot [] = some s₂ →
      s₁ = s₂) : BranchAgrees (.exactly name, action) := by
  intro slot words rest s₁ s₂ hcli hrest hdo
  obtain ⟨hline, rfl⟩ := rest_exactly hrest
  cases words with
  | nil => cases hcli
  | cons w ws =>
      obtain ⟨rfl, rfl⟩ := line_eq_word hname hline
      rw [cliLine_eq (isColourWord_of_common hcommon)] at hcli
      exact iff_of_true (hsame slot s₁ s₂ hcli hdo) (frontEndsAgree_of_common hcommon slot [])

/-- A line of two words. -/
theorem agrees_twoWords (hname : ' ' ∉ name) (harg : ' ' ∉ arg) (hcommon : isCommonName name = true)
    (hsame : ∀ slot s₁ s₂, executeSlotCommand slot name [arg] = some s₁ → action slot [] = some s₂ →
      s₁ = s₂) : BranchAgrees (.exactly (name ++ ' ' :: arg), action) := by
  intro slot words rest s₁ s₂ hcli hrest hdo
  obtain ⟨hline, rfl⟩ := rest_exactly hrest
  cases words with
  | nil => cases hcli
  | cons w ws =>
      obtain ⟨rfl, w', ws', rfl, hline'⟩ := line_eq_append_blank hname hline
      obtain ⟨rfl, rfl⟩ := line_eq_word harg hline'.symm
      rw [cliLine_eq (isColourWord_of_common hcommon)] at hcli
      exact iff_of_true (hsame slot s₁ s₂ hcli hdo) (frontEndsAgree_of_common hcommon slot [w'])

/-- A line of three words. -/
theorem agrees_threeWords (hname : ' ' ∉ name) (harg : ' ' ∉ arg) (harg' : ' ' ∉ arg')
    (hcommon : isCommonName name = true)
    (hsame : ∀ slot s₁ s₂, executeSlotCommand slot name [arg, arg'] = some s₁ →
      action slot [] = some s₂ → s₁ = s₂) :
    BranchAgrees (.exactly (name ++ ' ' :: (arg ++ ' ' :: arg')), action) := by
  intro slot words rest s₁ s₂ hcli hrest hdo
  obtain ⟨hline, rfl⟩ := rest_exactly hrest
  cases words with
  | nil => cases hcli
  | cons w ws =>
      obtain ⟨rfl, w', ws', rfl, hline'⟩ := line_eq_append_blank hname hline
      obtain ⟨rfl, w'', ws'', rfl, hline''⟩ := line_eq_append_blank harg hline'.symm
      obtain ⟨rfl, rfl⟩ := line_eq_word harg' hline''.symm
      rw [cliLine_eq (isColourWord_of_common hcommon)] at hcli
      exact iff_of_true (hsame slot s₁ s₂ hcli hdo)
        (frontEndsAgree_of_common hcommon slot [w', w''])

/-- A line that starts with a word and a blank: at least one argument follows, and the branch works on
the line of the arguments. -/
theorem words_of_startsWith {words : List Token} {rest : CStr} (hname : ' ' ∉ name)
    (hne : words ≠ []) (hrest : (LineTest.startsWith (name ++ [' '])).rest (line words) = some rest) :
    ∃ w a args, words = w :: a :: args ∧ w.chars = name ∧ rest = line (a :: args) := by
  obtain ⟨hpre, rfl⟩ := rest_startsWith hrest
  obtain ⟨rest', hline⟩ := List.isPrefixOf_iff_prefix.mp hpre
  have hdrop : (line words).drop (name ++ [' ']).length = rest' := by
    rw [← hline]
    exact List.drop_left
  cases words with
  | nil => exact absurd rfl hne
  | cons w ws =>
      rw [List.append_assoc] at hline
      obtain ⟨hw, a, args, rfl, hargs⟩ := line_eq_append_blank hname hline.symm
      exact ⟨w, a, args, rfl, hw, hdrop.trans hargs⟩

/-- Such a line, when the command line accepts it, goes to the dispatch table under that word. -/
theorem command_of_startsWith {slot s₁ : Slot} {words : List Token} {rest : CStr} (hname : ' ' ∉ name)
    (hcolour : isColourWord name = false) (hcli : cliLine slot words = some s₁)
    (hrest : (LineTest.startsWith (name ++ [' '])).rest (line words) = some rest) :
    ∃ w a args, words = w :: a :: args ∧ w.chars = name ∧ rest = line (a :: args) ∧
      executeSlotCommand slot name ((a :: args).map Token.chars) = some s₁ := by
  have hne : words ≠ [] := by
    rintro rfl
    cases hcli
  obtain ⟨w, a, args, rfl, rfl, rfl⟩ := words_of_startsWith hname hne hrest
  rw [cliLine_eq hcolour] at hcli
  exact ⟨w, a, args, rfl, rfl, rfl, hcli⟩

/-- A command with a common name that starts with its name and a blank. -/
theorem agrees_startsWith (hname : ' ' ∉ name) (hcommon : isCommonName name = true)
    (hsame : ∀ slot a args s₁ s₂, executeSlotCommand slot name (a.chars :: args.map Token.chars) = some s₁ →
      action slot (line (a :: args)) = some s₂ → s₁ = s₂) :
    BranchAgrees (.startsWith (name ++ [' ']), action) := by
  intro slot words rest s₁ s₂ hcli hrest hdo
  obtain ⟨w, a, args, rfl, rfl, rfl, hcmd⟩ :=
    command_of_startsWith hname (isColourWord_of_common hcommon) hcli hrest
  exact iff_of_true (hsame slot a args s₁ s₂ hcmd hdo)
    (frontEndsAgree_of_common hcommon slot (a :: args))

end Common

/-! ## Numbers -/

/-- `atoi` of a line is `atoi` of its first word. -/
theorem atoi_line (a : Token) (args : List Token) : atoi (line (a :: args)) = atoi a.chars :=
  atoi_append a.nonempty a.noSpace (wordEnd_lineTail args)

/-- The first number on a line is the number of its first word. -/
theorem scanInt_line {a : Token} {args : List Token} {v : Int} {r : CStr}
    (h : scanInt (line (a :: args)) = some (v, r)) : v = atoi a.chars := by
  rw [← atoi_line a args, atoi, h]

/-- A blank in front of a line changes nothing. -/
theorem scanInt_lineTail (args : List Token) : scanInt (lineTail args) = scanInt (line args) := by
  cases args with
  | nil => rfl
  | cons a args =>
      have hblank : isSpaceC ' ' = true := by decide
      show scanInt (' ' :: line (a :: args)) = scanInt (line (a :: args))
      unfold scanInt
      rw [List.dropWhile_cons_of_pos hblank]

theorem agrees_gain : BranchAgrees (.startsWith ("gain".toList ++ [' ']), uiGain) := by
  refine agrees_startsWith (by decide) (by decide) fun slot a args s₁ s₂ hcli hdo => ?_
  unfold uiGain at hdo
  rw [atoi_line] at hdo
  exact Option.some.inj (hcli.symm.trans hdo)

theorem agrees_deadzone : BranchAgrees (.startsWith ("deadzone".toList ++ [' ']), uiDeadzone) := by
  refine agrees_startsWith (by decide) (by decide) fun slot a args s₁ s₂ hcli hdo => ?_
  unfold uiDeadzone at hdo
  rw [atoi_line] at hdo
  exact Option.some.inj (hcli.symm.trans hdo)

theorem agrees_brightness :
    BranchAgrees (.startsWith ("brightness".toList ++ [' ']), uiBrightness) := by
  refine agrees_startsWith (by decide) (by decide) fun slot a args s₁ s₂ hcli hdo => ?_
  unfold uiBrightness at hdo
  rw [atoi_line] at hdo
  exact Option.some.inj (hcli.symm.trans hdo)

/-- `sensitivity <side> <preset>`: the branch reads the preset behind the side. -/
theorem agrees_sensitivity {side : CStr} {action : UiAction} {apply : Slot → Int → Slot}
    (hside : ' ' ∉ side)
    (hcmd : ∀ slot preset args, executeSlotCommand slot "sensitivity".toList (side :: preset :: args) =
      if atoi preset < 0 ∨ atoi preset ≥ sensPresetCount then none else some (apply slot (atoi preset)))
    (haction : ∀ slot preset, action slot preset =
      if 0 ≤ atoi preset ∧ atoi preset < sensPresetCount then some (apply slot (atoi preset)) else none) :
    BranchAgrees (.startsWith ("sensitivity".toList ++ ' ' :: side ++ [' ']), action) := by
  intro slot words rest s₁ s₂ hcli hrest hdo
  obtain ⟨hpre, rfl⟩ := rest_startsWith hrest
  obtain ⟨rest', hline⟩ := List.isPrefixOf_iff_prefix.mp hpre
  have hdrop : (line words).drop ("sensitivity".toList ++ ' ' :: side ++ [' ']).length = rest' := by
    rw [← hline]
    exact List.drop_left
  rw [hdrop] at hdo
  cases words with
  | nil => cases hcli
  | cons w ws =>
      have hline₁ : line (w :: ws) = "sensitivity".toList ++ ' ' :: (side ++ ' ' :: rest') := by
        rw [← hline]
        simp only [List.append_assoc, List.cons_append, List.nil_append]
      obtain ⟨hw, a, args, rfl, hline₂⟩ := line_eq_append_blank (by decide) hline₁
      obtain ⟨ha, b, args', rfl, rfl⟩ := line_eq_append_blank hside hline₂.symm
      have hcommon : isCommonName w.chars = true := by
        rw [hw]
        decide
      refine iff_of_true ?_ (frontEndsAgree_of_common hcommon slot _)
      rw [cliLine_eq (isColourWord_of_common hcommon), hw, List.map_cons, List.map_cons, ha, hcmd] at hcli
      have hdo' : action slot (line (b :: args')) = some s₂ := hdo
      rw [haction, atoi_line] at hdo'
      split_ifs at hcli hdo' with hrefused hrange
      exact Option.some.inj (hcli.symm.trans hdo')

theorem agrees_sensitivityLeft :
    BranchAgrees (.startsWith ("sensitivity".toList ++ ' ' :: "left".toList ++ [' ']),
      uiSensitivityLeft) :=
  agrees_sensitivity (by decide) (fun _ _ _ => rfl) fun _ _ => rfl

theorem agrees_sensitivityRight :
    BranchAgrees (.startsWith ("sensitivity".toList ++ ' ' :: "right".toList ++ [' ']),
      uiSensitivityRight) :=
  agrees_sensitivity (by decide) (fun _ _ _ => rfl) fun _ _ => rfl

/-! ## Colours -/

/-- Writing the effect number 0 changes nothing exactly when it was 0. -/
theorem eq_with_effect_iff (slot : Slot) :
    slot = { slot with ledRequestEffect := 0 } ↔ slot.ledRequestEffect = 0 := by
  constructor
  · intro h
    exact congrArg (fun s : Slot => s.ledRequestEffect) h
  · intro h
    rw [← h]

theorem agrees_color : BranchAgrees (.startsWith ("color".toList ++ [' ']), uiColour) := by
  intro slot words rest s₁ s₂ hcli hrest hdo
  obtain ⟨w, a, args, rfl, hw, rfl, hcmd⟩ := command_of_startsWith (by decide) (by decide) hcli hrest
  obtain ⟨c, hc, rfl⟩ := Option.map_eq_some_iff.mp hcmd
  have hscan := scanColour_append a.noSpace hc (wordEnd_lineTail args)
  obtain ⟨c', hc', rfl⟩ := Option.map_eq_some_iff.mp hdo
  obtain rfl : c = c' := Option.some.inj (hscan.symm.trans hc')
  rw [eq_with_effect_iff, frontEndsAgree_colour (Or.inr hw)]
  exact Iff.rfl

theorem agrees_colourWord : BranchAgrees (.colourWord, uiColour) := by
  intro slot words rest s₁ s₂ hcli hrest hdo
  simp only [LineTest.rest] at hrest
  split_ifs at hrest with hcolour
  obtain rfl := Option.some.inj hrest
  have hblank : ' ' ∉ line words := by
    intro hmem
    simp only [isColourWord, Bool.and_eq_true, List.all_eq_true] at hcolour
    have hhex := hcolour.2 ' ' hmem
    rw [hexVal_blank] at hhex
    cases hhex
  cases words with
  | nil => cases hcli
  | cons w ws =>
      obtain ⟨hw, rfl⟩ := line_eq_word hblank rfl
      rw [← hw] at hcolour hdo
      have hcmd : cliLine slot [w] = cmdColor slot [w.chars] := by
        simp [cliLine, hcolour]
      obtain ⟨c, hc, rfl⟩ := Option.map_eq_some_iff.mp (hcmd.symm.trans hcli)
      obtain ⟨c', hc', rfl⟩ := Option.map_eq_some_iff.mp hdo
      obtain rfl : c = c' := Option.some.inj (hc.symm.trans hc')
      rw [eq_with_effect_iff, frontEndsAgree_colour (Or.inl hcolour)]
      exact Iff.rfl

/-! ## Player LEDs -/

/-- Switching to static mode changes nothing exactly when the slot was static. -/
theorem eq_with_static_iff (slot : Slot) :
    slot = { slot with ledStatic := true } ↔ slot.ledStatic = true := by
  constructor
  · intro h
    exact congrArg (fun s : Slot => s.ledStatic) h
  · intro h
    rw [← h]

theorem agrees_pled : BranchAgrees (.startsWith ("pled".toList ++ [' ']), uiPled) := by
  intro slot words rest s₁ s₂ hcli hrest hdo
  obtain ⟨w, a, args, rfl, hw, rfl, hcmd⟩ := command_of_startsWith (by decide) (by decide) hcli hrest
  change cmdPled slot ((a :: args).map Token.chars) = some s₁ at hcmd
  simp only [uiPled, atoi_line] at hdo
  split_ifs at hdo with htype
  obtain ⟨mode, hmode, rfl⟩ := Option.map_eq_some_iff.mp hdo
  simp only [cmdPled, List.map_cons, hmode] at hcmd
  rw [if_neg htype] at hcmd
  obtain rfl := Option.some.inj hcmd
  rw [frontEndsAgree_pled hw]
  exact eq_with_static_iff { slot with playerLeds := toU8 mode, ledDirty := true }

/-! ## Keybinds -/

/-- Two bindings of one button are the same exactly when they bind the same number. -/
theorem setKeybind_inj (slot : Slot) (p : Fin phyBtnCount) {a b : UInt8} :
    slot.setKeybind p a = slot.setKeybind p b ↔ a = b := by
  constructor
  · intro h
    have hmap := congrArg (fun s : Slot => s.keymap p) h
    simpa [Slot.setKeybind] using hmap
  · rintro rfl
    rfl

theorem toU8_inj_of_lt {a b : Int} (ha : 0 ≤ a ∧ a < 256) (hb : 0 ≤ b ∧ b < 256) :
    toU8 a = toU8 b ↔ a = b := by
  constructor
  · intro h
    have hnat : ((toU8 a).toNat : Int) = (toU8 b).toNat := by rw [h]
    rwa [toNat_toU8 ha, toNat_toU8 hb] at hnat
  · rintro rfl
    rfl

/-- Two accepted keybinds of one button. -/
theorem keybind_eq_iff {slot s₁ s₂ : Slot} {phy log₁ log₂ : Int}
    (h₁ : slot.keybind phy log₁ = some s₁) (h₂ : slot.keybind phy log₂ = some s₂) :
    s₁ = s₂ ↔ log₂ = log₁ := by
  have hcount : (logicalBtnCount : Int) = 19 := rfl
  unfold Slot.keybind at h₁ h₂
  cases hp : phyIndex phy with
  | none =>
      rw [hp] at h₁
      cases h₁
  | some p =>
      rw [hp] at h₁ h₂
      dsimp only at h₁ h₂
      split_ifs at h₁ with hr₁
      split_ifs at h₂ with hr₂
      obtain rfl := Option.some.inj h₁
      obtain rfl := Option.some.inj h₂
      rw [setKeybind_inj, toU8_inj_of_lt (by omega) (by omega)]
      exact eq_comm

/-- The first number `sscanf` reads is the one `atoi` reads. -/
theorem scanTwoInts_first {a : Token} {args : List Token} {physical logical : Int}
    (h : scanTwoInts (line (a :: args)) = some (physical, logical)) : physical = atoi a.chars := by
  unfold scanTwoInts at h
  cases hfirst : scanInt (line (a :: args)) with
  | none => simp [hfirst] at h
  | some vr =>
      rw [← scanInt_line (v := vr.1) (r := vr.2) hfirst]
      simp only [hfirst] at h
      split at h
      · cases h
      · simp only [Option.some.injEq, Prod.mk.injEq] at h
        exact h.1.symm

/-- The condition on a line whose two numbers were read. -/
theorem sameKeybind_iff {a b : Token} {args : List Token} {physical logical : Int}
    (hscan : scanTwoInts (line (a :: b :: args)) = some (physical, logical)) :
    SameKeybind (a :: b :: args) ↔ logical = atoi b.chars := by
  constructor
  · intro h
    exact h _ _ hscan b rfl
  · rintro rfl p l hpl arg harg
    obtain rfl : b = arg := Option.some.inj harg
    rw [hscan] at hpl
    obtain ⟨-, rfl⟩ := Prod.mk.inj (Option.some.inj hpl)
    rfl

theorem agrees_keybind : BranchAgrees (.startsWith ("keybind".toList ++ [' ']), uiKeybind) := by
  intro slot words rest s₁ s₂ hcli hrest hdo
  obtain ⟨w, a, args, rfl, hw, rfl, hcmd⟩ := command_of_startsWith (by decide) (by decide) hcli hrest
  change cmdKeybind slot ((a :: args).map Token.chars) = some s₁ at hcmd
  cases args with
  | nil => cases hcmd
  | cons b args =>
      have hkeybind : slot.keybind (atoi a.chars) (atoi b.chars) = some s₁ := hcmd
      simp only [uiKeybind] at hdo
      cases hscan : scanTwoInts (line (a :: b :: args)) with
      | none =>
          rw [hscan] at hdo
          cases hdo
      | some pl =>
          obtain ⟨physical, logical⟩ := pl
          obtain rfl := scanTwoInts_first hscan
          rw [hscan] at hdo
          rw [frontEndsAgree_keybind hw, sameKeybind_iff hscan]
          exact keybind_eq_iff hkeybind hdo

/-! ## LED effects -/

/-- A byte that is replaced by a default when it is out of range. -/
theorem sanitize_eq_iff (lo hi dflt cli tui : UInt8) :
    (if cli < lo ∨ cli > hi then dflt else cli) = tui ↔ SameByte lo hi dflt cli tui := by
  unfold SameByte
  by_cases h : cli < lo ∨ cli > hi
  · have hout : ¬(lo ≤ cli ∧ cli ≤ hi) := by
      simpa only [not_and_or, UInt8.not_le] using h
    rw [if_pos h, if_neg hout]
    exact eq_comm
  · have hin : lo ≤ cli ∧ cli ≤ hi := by
      simpa only [not_or, UInt8.not_lt] using h
    rw [if_neg h, if_pos hin]
    exact eq_comm

theorem sanitizeSpeed_eq_iff (cli tui : UInt8) : sanitizeSpeed cli = tui ↔ SameByte 1 10 5 cli tui :=
  sanitize_eq_iff 1 10 5 cli tui

theorem sanitizeBrightness_eq_iff (cli tui : UInt8) :
    sanitizeBrightness cli = tui ↔ SameByte 1 100 80 cli tui :=
  sanitize_eq_iff 1 100 80 cli tui

theorem requestEffect_inj (slot : Slot) (effect : Int) {s₁ s₂ b₁ b₂ : UInt8} :
    slot.requestEffect effect s₁ b₁ = slot.requestEffect effect s₂ b₂ ↔ s₁ = s₂ ∧ b₁ = b₂ := by
  constructor
  · intro h
    exact ⟨congrArg (fun s : Slot => s.ledRequestSpeed) h,
      congrArg (fun s : Slot => s.ledRequestBrightness) h⟩
  · rintro ⟨rfl, rfl⟩
    rfl

/-- A command whose name starts with `ledfx` is `ledfx`. -/
theorem name_eq_ledfx {slot s₁ : Slot} {name : CStr} {args : List CStr}
    (h : executeSlotCommand slot name args = some s₁) (hpre : "ledfx".toList <+: name) :
    name = "ledfx".toList := by
  have htable : ∀ sc ∈ slotCommands, "ledfx".toList.isPrefixOf sc.1 = true → sc.1 = "ledfx".toList := by
    simp only [slotCommands, List.forall_mem_cons, List.not_mem_nil, false_imp_iff, implies_true,
      and_true]
    decide
  unfold executeSlotCommand at h
  split at h
  · rename_i sc hfind
    have hname : sc.1 = name := by
      have hp := List.find?_some hfind
      exact beq_iff_eq.mp hp
    rw [← hname] at hpre ⊢
    exact htable sc (List.mem_of_find?_eq_some hfind) (List.isPrefixOf_iff_prefix.mpr hpre)
  · cases h

/-- The first number `sscanf` reads is the effect `atoi` reads. -/
theorem scanLedfx_effect {a : Token} {args : List Token} {effect speed brightness : Int}
    (h : scanLedfx (lineTail (a :: args)) = some (effect, speed, brightness)) :
    effect = atoi a.chars := by
  unfold scanLedfx at h
  rw [scanInt_lineTail] at h
  cases hfirst : scanInt (line (a :: args)) with
  | none => simp [hfirst] at h
  | some vr =>
      rw [← scanInt_line (v := vr.1) (r := vr.2) hfirst]
      simp only [hfirst] at h
      split at h
      · simp only [Option.some.injEq, Prod.mk.injEq] at h
        exact h.1.symm
      · split at h
        · simp only [Option.some.injEq, Prod.mk.injEq] at h
          exact h.1.symm
        · simp only [Option.some.injEq, Prod.mk.injEq] at h
          exact h.1.symm

/-- The bytes of `cmd_ledfx`, in the words of `argByte`. -/
theorem cmdLedfx_eq (slot : Slot) (a : Token) (args : List Token) :
    cmdLedfx slot ((a :: args).map Token.chars) =
      if atoi a.chars < 0 ∨ atoi a.chars ≥ ledfxCount then none
      else if atoi a.chars = 0 then some slot.setStatic
      else some (slot.requestEffect (atoi a.chars) (sanitizeSpeed (argByte 5 args.head?))
        (sanitizeBrightness (argByte 80 args.tail.head?))) := by
  have hspeed : ((args.map Token.chars).head?.map fun s => toU8 (atoi s)).getD 5 =
      argByte 5 args.head? := by
    cases args <;> rfl
  have hbrightness : ((args.map Token.chars).tail.head?.map fun s => toU8 (atoi s)).getD 80 =
      argByte 80 args.tail.head? := by
    rcases args with _ | ⟨b, _ | ⟨c, args⟩⟩ <;> rfl
  simp only [List.map_cons, cmdLedfx, hspeed, hbrightness]

/-- A prefix without a blank is a prefix of the first word. -/
theorem prefix_first_word {text : CStr} (htext : ' ' ∉ text) {w : Token} {ws : List Token}
    (hpre : text.isPrefixOf (line (w :: ws)) = true) : text <+: w.chars := by
  obtain ⟨r, hr⟩ := List.isPrefixOf_iff_prefix.mp hpre
  have hall : ∀ c ∈ text, (c != ' ') = true := by
    intro c hc
    have hne : c ≠ ' ' := fun hcb => htext (hcb ▸ hc)
    simpa using hne
  have hfirst : (line (w :: ws)).takeWhile (fun c => c != ' ') = w.chars :=
    takeWhile_line w (wordEnd_lineTail ws)
  rw [← hfirst, ← hr, List.takeWhile_append_of_pos hall]
  exact List.prefix_append _ _

/-- The condition on a line whose numbers were read. -/
theorem sameLedfx_iff {a : Token} {args : List Token} {effect speed brightness : Int}
    (hscan : scanLedfx (lineTail (a :: args)) = some (effect, speed, brightness)) :
    SameLedfx (a :: args) ↔
      (effect ≠ 0 → SameByte 1 10 5 (argByte 5 args.head?) (toU8 speed) ∧
        SameByte 1 100 80 (argByte 80 args.tail.head?) (toU8 brightness)) := by
  constructor
  · intro h
    exact h _ _ _ hscan
  · intro h e sp br hesb
    rw [hscan] at hesb
    obtain ⟨rfl, hsb⟩ := Prod.mk.inj (Option.some.inj hesb)
    obtain ⟨rfl, rfl⟩ := Prod.mk.inj hsb
    exact h

/-- A word that starts with `ledfx` is no colour. -/
theorem isColourWord_of_ledfx {w : CStr} (h : "ledfx".toList <+: w) : isColourWord w = false := by
  by_contra hc
  simp only [isColourWord, Bool.not_eq_false, Bool.and_eq_true, List.all_eq_true] at hc
  have hhex := hc.2 'l' (h.subset (by decide))
  revert hhex
  decide

theorem agrees_ledfx : BranchAgrees (.startsWith "ledfx".toList, uiLedfx) := by
  intro slot words rest s₁ s₂ hcli hrest hdo
  obtain ⟨hpre, rfl⟩ := rest_startsWith hrest
  cases words with
  | nil => cases hcli
  | cons w ws =>
      have hword := prefix_first_word (by decide) hpre
      rw [cliLine_eq (isColourWord_of_ledfx hword)] at hcli
      have hname := name_eq_ledfx hcli hword
      have hdrop : (line (w :: ws)).drop "ledfx".toList.length = lineTail ws := by
        rw [← hname]
        exact List.drop_left
      rw [hdrop] at hdo
      rw [hname] at hcli
      cases ws with
      | nil => cases hcli
      | cons a args =>
          have hcmd : cmdLedfx slot ((a :: args).map Token.chars) = some s₁ := hcli
          rw [cmdLedfx_eq] at hcmd
          simp only [uiLedfx] at hdo
          cases hscan : scanLedfx (lineTail (a :: args)) with
          | none =>
              rw [hscan] at hdo
              cases hdo
          | some esb =>
              obtain ⟨effect, speed, brightness⟩ := esb
              obtain rfl := scanLedfx_effect hscan
              rw [hscan] at hdo
              rw [frontEndsAgree_ledfx hname, sameLedfx_iff hscan]
              split_ifs at hcmd with hrange h0
              · -- static mode
                obtain rfl := Option.some.inj hcmd
                simp only [h0] at hdo
                have hs₂ : slot.setStatic = s₂ := Option.some.inj hdo
                exact iff_of_true hs₂ fun hne => absurd h0 hne
              · obtain rfl := Option.some.inj hcmd
                have hin : 0 ≤ atoi a.chars ∧ atoi a.chars < ledfxCount := by omega
                dsimp only at hdo
                rw [if_pos hin, if_neg h0] at hdo
                obtain rfl := Option.some.inj hdo
                rw [requestEffect_inj, sanitizeSpeed_eq_iff, sanitizeBrightness_eq_iff]
                exact ⟨fun h _ => h, fun h => h h0⟩

/-! ## All branches -/

/-- A branch that stores what the handler stores. -/
theorem same_of_stores {f : Slot → Slot} {run : Slot → Option Slot} (h : ∀ slot, run slot = some (f slot))
    (slot s₁ s₂ : Slot) (h₁ : run slot = some s₁) (h₂ : stores f slot [] = some s₂) : s₁ = s₂ := by
  rw [h] at h₁
  exact Option.some.inj (h₁.symm.trans h₂)

/-- A line that the command line refuses. -/
theorem same_of_refused {action : UiAction} {run : Slot → Option Slot} (h : ∀ slot, run slot = none)
    (slot s₁ s₂ : Slot) (h₁ : run slot = some s₁) (_ : action slot [] = some s₂) : s₁ = s₂ := by
  rw [h] at h₁
  cases h₁

theorem agrees_pair (name arg : CStr) {f : Slot → Slot} (hname : ' ' ∉ name) (harg : ' ' ∉ arg)
    (hcommon : isCommonName name = true)
    (h : ∀ slot, executeSlotCommand slot name [arg] = some (f slot)) :
    BranchAgrees (.exactly (name ++ ' ' :: arg), stores f) :=
  agrees_twoWords hname harg hcommon (same_of_stores h)

theorem agrees_single (name : CStr) {f : Slot → Slot} (hname : ' ' ∉ name)
    (hcommon : isCommonName name = true)
    (h : ∀ slot, executeSlotCommand slot name [] = some (f slot)) :
    BranchAgrees (.exactly name, stores f) :=
  agrees_oneWord hname hcommon (same_of_stores h)

/-- `invert <axis> <value>`. -/
theorem agrees_invert (axis val : CStr) {f : Slot → Slot} (haxis : ' ' ∉ axis) (hval : ' ' ∉ val)
    (h : ∀ slot, executeSlotCommand slot "invert".toList [axis, val] = some (f slot)) :
    BranchAgrees (.exactly ("invert".toList ++ ' ' :: (axis ++ ' ' :: val)), stores f) :=
  agrees_threeWords (by decide) haxis hval (by decide) (same_of_stores h)

/-- `invert status` alone is refused by the command line, which wants two arguments. -/
theorem agrees_invertStatus {f : Slot → Slot} :
    BranchAgrees (.exactly ("invert".toList ++ ' ' :: "status".toList), stores f) :=
  agrees_twoWords (by decide) (by decide) (by decide) (same_of_refused fun _ => rfl)

/-- `sensitivity` alone is refused by the command line. -/
theorem agrees_sensitivityAlone {f : Slot → Slot} :
    BranchAgrees (.exactly "sensitivity".toList, stores f) :=
  agrees_oneWord (by decide) (by decide) (same_of_refused fun _ => rfl)

/-- `layout <word>`: only a Nintendo controller has a layout. -/
theorem agrees_layout {word : CStr} {action : UiAction} {f : Slot → Slot} (hword : ' ' ∉ word)
    (hcmd : ∀ slot, executeSlotCommand slot "layout".toList [word] =
      if slot.type ≠ .nswPro then none else some (f slot))
    (haction : ∀ slot, action slot [] = if slot.type = .nswPro then some (f slot) else none) :
    BranchAgrees (.exactly ("layout".toList ++ ' ' :: word), action) := by
  refine agrees_twoWords (by decide) hword (by decide) fun slot s₁ s₂ h₁ h₂ => ?_
  rw [hcmd] at h₁
  rw [haction] at h₂
  split_ifs at h₁ h₂
  exact Option.some.inj (h₁.symm.trans h₂)

theorem agrees_layoutSwitch :
    BranchAgrees (.exactly ("layout".toList ++ ' ' :: "switch".toList), uiLayoutSwitch) :=
  agrees_layout (by decide) (fun _ => rfl) fun _ => rfl

theorem agrees_layoutXbox :
    BranchAgrees (.exactly ("layout".toList ++ ' ' :: "xbox".toList), uiLayoutXbox) :=
  agrees_layout (by decide) (fun _ => rfl) fun _ => rfl

/-- **Every branch of the chain** agrees with the handlers under the condition, and only then. -/
theorem branchAgrees_uiSlotBranches : ∀ branch ∈ uiSlotBranches, BranchAgrees branch := by
  simp only [uiSlotBranches, List.forall_mem_cons, List.not_mem_nil, false_imp_iff, implies_true,
    and_true]
  exact ⟨agrees_pair "uhid".toList "on".toList (by decide) (by decide) (by decide) fun _ => rfl,
    agrees_pair "uhid".toList "off".toList (by decide) (by decide) (by decide) fun _ => rfl,
    agrees_invert "ly".toList "on".toList (by decide) (by decide) fun _ => rfl,
    agrees_invert "ly".toList "off".toList (by decide) (by decide) fun _ => rfl,
    agrees_invert "ry".toList "on".toList (by decide) (by decide) fun _ => rfl,
    agrees_invert "ry".toList "off".toList (by decide) (by decide) fun _ => rfl,
    agrees_invertStatus,
    agrees_pair "triggers-digital".toList "on".toList (by decide) (by decide) (by decide) fun _ => rfl,
    agrees_pair "triggers-digital".toList "off".toList (by decide) (by decide) (by decide) fun _ => rfl,
    agrees_pair "triggers-digital".toList "status".toList (by decide) (by decide) (by decide) fun _ => rfl,
    agrees_sensitivityLeft, agrees_sensitivityRight,
    agrees_pair "sensitivity".toList "status".toList (by decide) (by decide) (by decide) fun _ => rfl,
    agrees_sensitivityAlone, agrees_layoutSwitch, agrees_layoutXbox,
    agrees_single "reset-keybinds".toList (by decide) (by decide) fun _ => rfl,
    agrees_single "keymap".toList (by decide) (by decide) fun _ => rfl,
    agrees_keybind,
    agrees_pair "emulation".toList "on".toList (by decide) (by decide) (by decide) fun _ => rfl,
    agrees_pair "emulation".toList "off".toList (by decide) (by decide) (by decide) fun _ => rfl,
    agrees_pair "debounce".toList "on".toList (by decide) (by decide) (by decide) fun _ => rfl,
    agrees_pair "debounce".toList "off".toList (by decide) (by decide) (by decide) fun _ => rfl,
    agrees_pair "rumble".toList "on".toList (by decide) (by decide) (by decide) fun _ => rfl,
    agrees_pair "rumble".toList "off".toList (by decide) (by decide) (by decide) fun _ => rfl,
    agrees_pair "rumble".toList "status".toList (by decide) (by decide) (by decide) fun _ => rfl,
    agrees_gain, agrees_deadzone,
    agrees_pair "reapply".toList "on".toList (by decide) (by decide) (by decide) fun _ => rfl,
    agrees_pair "reapply".toList "off".toList (by decide) (by decide) (by decide) fun _ => rfl,
    agrees_pair "reapply".toList "status".toList (by decide) (by decide) (by decide) fun _ => rfl,
    agrees_pled, agrees_color, agrees_colourWord, agrees_ledfx, agrees_brightness⟩

/-- **When the two front ends agree.**  For every slot and every line of words that both accept, they
leave the same slot if and only if the condition of the line's command holds. -/
theorem cli_tui_agree_iff (slot : Slot) (words : List Token) {s₁ s₂ : Slot}
    (hcli : cliLine slot words = some s₁) (htui : tuiLine slot words = some s₂) :
    s₁ = s₂ ↔ FrontEndsAgree slot words := by
  obtain ⟨branch, hmem, rest, hrest, hdo⟩ := runUiSlotCommand_eq_some htui
  exact branchAgrees_uiSlotBranches branch hmem slot words rest s₁ s₂ hcli hrest hdo

/-! ## A colour typed in two places -/

/-- A DualSense in a fresh slot. -/
def freshDualsense : Slot where
  toController := initialController
  toCells := { initialCells with type := .dualsense, connected := true }

/-- `color ff0000`. -/
def colourRed : List Token :=
  [⟨"color".toList, by decide, noSpace_of_all (by decide)⟩,
    ⟨"ff0000".toList, by decide, noSpace_of_all (by decide)⟩]

theorem cli_tui_agree_colourRed :
    ∃ s₁ s₂, cliLine freshDualsense colourRed = some s₁ ∧ tuiLine freshDualsense colourRed = some s₂ ∧
      (s₁ = s₂ ↔ FrontEndsAgree freshDualsense colourRed) ∧ s₁ = s₂ := by
  have hcli : cliLine freshDualsense colourRed = some (freshDualsense.setColour 255 0 0) := rfl
  have htui : tuiLine freshDualsense colourRed =
      some { freshDualsense.setColour 255 0 0 with ledRequestEffect := 0 } := rfl
  have hiff := cli_tui_agree_iff freshDualsense colourRed hcli htui
  exact ⟨_, _, hcli, htui, hiff, hiff.mpr ((frontEndsAgree_colour (Or.inr rfl) _ _).mpr rfl)⟩

/-- The same colour on a slot that runs effect 3: the command line leaves the effect number, the
interface resets it. -/
theorem colourRed_differs :
    ∃ s₁ s₂, cliLine (freshDualsense.requestEffect 3 5 80) colourRed = some s₁ ∧
      tuiLine (freshDualsense.requestEffect 3 5 80) colourRed = some s₂ ∧ s₁ ≠ s₂ := by
  refine ⟨(freshDualsense.requestEffect 3 5 80).setColour 255 0 0,
    { (freshDualsense.requestEffect 3 5 80).setColour 255 0 0 with ledRequestEffect := 0 }, rfl, rfl,
    fun h => ?_⟩
  have heffect : (3 : Int) = 0 := congrArg (fun s : Slot => s.ledRequestEffect) h
  omega

end Dstx
