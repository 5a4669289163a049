/-
# Dstx.Lib.CText — reading numbers from text the way the C library does.

Strings are lists of characters.  `scanInt` is the common core of `strtol` and of the `%d` conversion
of `sscanf`: skip white space, an optional sign, at least one decimal digit; the value saturates at
the limits of `long` and is then stored into an `int` (`wrap32`).  `scanHex2` is `%02x`: a field of at
most two characters.  What a conversion did not read is returned with its value, so conversions
compose.  Where libraries differ (what overflow gives, and whether a bare `0x` is a number), this is glibc.

A command line is a list of TOKENS (nonempty, without white space) separated by single blanks.  The
point of the module is `scanInt_append` and its relatives: reading from a token gives the same result
as reading from the line that continues after it.
-/
import Mathlib.Algebra.Ring.Int.Defs
import Mathlib.Data.List.Basic
import Mathlib.Data.List.TakeWhile
import Mathlib.Data.Option.Basic

namespace Dstx.Lib

/-! ## Characters -/

/-- `isspace` in the C locale. -/
def isSpaceC (c : Char) : Bool :=
  c == ' ' || c == '\t' || c == '\n' || c == '\x0b' || c == '\x0c' || c == '\r'

/-- `isdigit`. -/
def isDigitC (c : Char) : Bool := decide ('0' ≤ c) && decide (c ≤ '9')

/-- The value of a decimal digit. -/
def digitVal (c : Char) : Nat := c.toNat - '0'.toNat

/-- The value of a hexadecimal digit, and `none` for other characters (`isxdigit`). -/
def hexVal (c : Char) : Option Nat :=
  if isDigitC c then some (digitVal c)
  else if 'a' ≤ c ∧ c ≤ 'f' then some (c.toNat - 'a'.toNat + 10)
  else if 'A' ≤ c ∧ c ≤ 'F' then some (c.toNat - 'A'.toNat + 10)
  else none

/-! ## Integers -/

/-- Saturation at the limits of a 64-bit `long`. -/
def clampLong (v : Int) : Int := max (-(2 ^ 63)) (min v (2 ^ 63 - 1))

/-- Conversion of a `long` to a 32-bit `int`. -/
def wrap32 (v : Int) : Int := (v + 2 ^ 31) % 2 ^ 32 - 2 ^ 31

/-- The number a digit string denotes. -/
def digitsVal (ds : List Char) : Nat := ds.foldl (fun n c => 10 * n + digitVal c) 0

/-- Digits, at least one; the value is signed by `neg`. -/
def scanDigits (neg : Bool) (s : List Char) : Option (Int × List Char) :=
  match s.takeWhile isDigitC with
  | [] => none
  | ds =>
      let v : Int := digitsVal ds
      some (wrap32 (clampLong (if neg then -v else v)), s.dropWhile isDigitC)

/-- A decimal integer at the start of `s`, and what follows it. -/
def scanInt (s : List Char) : Option (Int × List Char) :=
  match s.dropWhile isSpaceC with
  | [] => none
  | c :: r =>
      if c = '-' then scanDigits true r
      else if c = '+' then scanDigits false r
      else scanDigits false (c :: r)

/-- **`atoi`** — 0 when there is no number. -/
def atoi (s : List Char) : Int :=
  match scanInt s with
  | none => 0
  | some (v, _) => v

/-! ## Two-character hexadecimal fields -/

/-- One hexadecimal digit, signed by `neg`, in front of `r`. -/
def hexDigit (neg : Bool) (c : Char) (r : List Char) : Option (Int × List Char) :=
  match hexVal c with
  | none => none
  | some n => some (if neg then -(n : Int) else (n : Int), r)

/-- A field of at most two characters: two hexadecimal digits, one followed by something else, or a
sign and one digit.  The indication `0x` fills the field and leaves the number 0. -/
def hexField : List Char → Option (Int × List Char)
  | [] => none
  | [c] => hexDigit false c []
  | c :: d :: r =>
      if c = '-' then hexDigit true d r
      else if c = '+' then hexDigit false d r
      else if c = '0' ∧ (d = 'x' ∨ d = 'X') then some (0, r)
      else
        match hexVal c, hexVal d with
        | some m, some n => some (16 * (m : Int) + n, r)
        | some m, none => some ((m : Int), d :: r)
        | none, _ => none

/-- The `%02x` conversion. -/
def scanHex2 (s : List Char) : Option (Int × List Char) := hexField (s.dropWhile isSpaceC)

/-- `sscanf(s, "%02x%02x%02x", &r, &g, &b) == 3`, with the three values. -/
def scanColour (s : List Char) : Option (Int × Int × Int) := do
  let (r, s₁) ← scanHex2 s
  let (g, s₂) ← scanHex2 s₁
  let (b, _) ← scanHex2 s₂
  return (r, g, b)

/-! ## Tokens and lines -/

/-- **A word of a command line**: nonempty, without white space. -/
structure Token where
  chars : List Char
  nonempty : chars ≠ []
  noSpace : ∀ c ∈ chars, isSpaceC c = false

/-- The test for a word without white space. -/
theorem noSpace_of_all {w : List Char} (h : w.all (fun c => !isSpaceC c) = true) :
    ∀ c ∈ w, isSpaceC c = false := by
  intro c hc
  simpa using List.all_eq_true.mp h c hc

/-- The part of a line after its first word: every further word after a blank. -/
def lineTail : List Token → List Char
  | [] => []
  | t :: ts => ' ' :: (t.chars ++ lineTail ts)

/-- **The line of a list of words.** -/
def line : List Token → List Char
  | [] => []
  | t :: ts => t.chars ++ lineTail ts

/-- What may follow a word in a line: nothing, or a blank. -/
def WordEnd (r : List Char) : Prop := r = [] ∨ ∃ r', r = ' ' :: r'

theorem wordEnd_lineTail (ts : List Token) : WordEnd (lineTail ts) := by
  cases ts with
  | nil => exact Or.inl rfl
  | cons t ts => exact Or.inr ⟨_, rfl⟩

/-- A character that is no white space is no blank. -/
theorem ne_blank_of_noSpace {c : Char} (h : isSpaceC c = false) : c ≠ ' ' := by
  rintro rfl
  revert h
  decide

/-- Taking from a word and what may follow it, for a test that fails on the blank. -/
theorem takeWhile_append_wordEnd {p : Char → Bool} (hp : p ' ' = false) (t : List Char)
    {r : List Char} (hr : WordEnd r) : (t ++ r).takeWhile p = t.takeWhile p := by
  induction t with
  | nil =>
      rcases hr with rfl | ⟨r', rfl⟩
      · rfl
      · simp [hp]
  | cons c t ih =>
      by_cases hc : p c = true
      · simp [hc, ih]
      · simp [hc]

/-- Dropping from a word and what may follow it. -/
theorem dropWhile_append_wordEnd {p : Char → Bool} (hp : p ' ' = false) (t : List Char)
    {r : List Char} (hr : WordEnd r) : (t ++ r).dropWhile p = t.dropWhile p ++ r := by
  induction t with
  | nil =>
      rcases hr with rfl | ⟨r', rfl⟩
      · rfl
      · simp [hp]
  | cons c t ih =>
      by_cases hc : p c = true
      · simp [hc, ih]
      · simp [hc]

/-- No white space is skipped in front of a word. -/
theorem dropWhile_isSpaceC_append {t : List Char} (hne : t ≠ []) (ht : ∀ c ∈ t, isSpaceC c = false)
    (r : List Char) : (t ++ r).dropWhile isSpaceC = t ++ r := by
  cases t with
  | nil => exact absurd rfl hne
  | cons c t => simp [ht c (List.mem_cons_self ..)]

/-! ## Cutting a line -/

/-- The first word of a line is what stands before the first blank. -/
theorem takeWhile_line (t : Token) {r : List Char} (hr : WordEnd r) :
    (t.chars ++ r).takeWhile (fun c => c != ' ') = t.chars := by
  rw [takeWhile_append_wordEnd (by decide) t.chars hr]
  apply List.takeWhile_eq_self_iff.mpr
  intro c hc
  simpa using ne_blank_of_noSpace (t.noSpace c hc)

/-- A line that is one word. -/
theorem line_eq_word {t : Token} {ts : List Token} {w : List Char} (hw : ' ' ∉ w)
    (h : line (t :: ts) = w) : t.chars = w ∧ ts = [] := by
  cases ts with
  | nil =>
      have hline : line [t] = t.chars := List.append_nil _
      exact ⟨hline.symm.trans h, rfl⟩
  | cons t' ts =>
      subst h
      simp [line, lineTail] at hw

/-- A line that starts with a word and a blank: the blank ends its first word. -/
theorem line_eq_append_blank {t : Token} {ts : List Token} {w rest : List Char} (hw : ' ' ∉ w)
    (h : line (t :: ts) = w ++ ' ' :: rest) :
    t.chars = w ∧ ∃ t' ts', ts = t' :: ts' ∧ rest = line ts := by
  have hfirst : t.chars = w := by
    have hw' : (w ++ ' ' :: rest).takeWhile (fun c => c != ' ') = w := by
      rw [takeWhile_append_wordEnd (by decide) w (Or.inr ⟨rest, rfl⟩)]
      apply List.takeWhile_eq_self_iff.mpr
      intro c hc
      have hne : c ≠ ' ' := fun hcb => hw (hcb ▸ hc)
      simpa using hne
    rw [← takeWhile_line t (wordEnd_lineTail ts), ← hw', ← h]
    rfl
  refine ⟨hfirst, ?_⟩
  have htail : lineTail ts = ' ' :: rest := by
    have h' : t.chars ++ lineTail ts = w ++ ' ' :: rest := h
    rw [hfirst] at h'
    exact List.append_cancel_left h'
  cases ts with
  | nil => cases htail
  | cons t' ts =>
      have hrest : t'.chars ++ lineTail ts = rest := List.tail_eq_of_cons_eq htail
      exact ⟨t', ts, rfl, hrest.symm⟩

theorem scanDigits_append (neg : Bool) (t : List Char) {r : List Char} (hr : WordEnd r) :
    scanDigits neg (t ++ r) = (scanDigits neg t).map fun x => (x.1, x.2 ++ r) := by
  have hblank : isDigitC ' ' = false := by decide
  unfold scanDigits
  rw [takeWhile_append_wordEnd hblank t hr, dropWhile_append_wordEnd hblank t hr]
  cases t.takeWhile isDigitC <;> rfl

/-- **Reading a number from a word or from the line that continues after it is the same.** -/
theorem scanInt_append {t : List Char} (hne : t ≠ []) (ht : ∀ c ∈ t, isSpaceC c = false)
    {r : List Char} (hr : WordEnd r) :
    scanInt (t ++ r) = (scanInt t).map fun x => (x.1, x.2 ++ r) := by
  unfold scanInt
  have hskip := dropWhile_isSpaceC_append hne ht []
  rw [List.append_nil] at hskip
  rw [dropWhile_isSpaceC_append hne ht r, hskip]
  cases t with
  | nil => exact absurd rfl hne
  | cons c t =>
      simp only [List.cons_append]
      split_ifs
      · exact scanDigits_append true t hr
      · exact scanDigits_append false t hr
      · exact scanDigits_append false (c :: t) hr

theorem atoi_append {t : List Char} (hne : t ≠ []) (ht : ∀ c ∈ t, isSpaceC c = false)
    {r : List Char} (hr : WordEnd r) : atoi (t ++ r) = atoi t := by
  unfold atoi
  rw [scanInt_append hne ht hr]
  cases scanInt t <;> rfl

theorem hexVal_blank : hexVal ' ' = none := by decide

theorem hexDigit_append {neg : Bool} {c : Char} {t rest : List Char} {v : Int}
    (h : hexDigit neg c t = some (v, rest)) (r : List Char) :
    hexDigit neg c (t ++ r) = some (v, rest ++ r) ∧ rest = t := by
  unfold hexDigit at h ⊢
  cases hc : hexVal c with
  | none => simp [hc] at h
  | some n =>
      simp only [hc, Option.some.injEq, Prod.mk.injEq] at h ⊢
      obtain ⟨rfl, rfl⟩ := h
      exact ⟨⟨rfl, rfl⟩, rfl⟩

/-- A field read from part of a word is read the same from the line, and what it leaves is part of
the word. -/
theorem hexField_append {t rest : List Char} {v : Int} (h : hexField t = some (v, rest))
    {r : List Char} (hr : WordEnd r) :
    hexField (t ++ r) = some (v, rest ++ r) ∧ rest <:+ t := by
  match t with
  | [] => cases h
  | [c] =>
      have hdigit : hexDigit false c [] = some (v, rest) := h
      obtain ⟨happ, rfl⟩ := hexDigit_append hdigit r
      refine ⟨?_, List.nil_suffix⟩
      rcases hr with rfl | ⟨r', rfl⟩
      · exact h
      · -- a sign is no digit, and a blank ends the field
        have hminus : c ≠ '-' := by
          rintro rfl
          cases hdigit
        have hplus : c ≠ '+' := by
          rintro rfl
          cases hdigit
        cases hc : hexVal c with
        | none => simp [hexDigit, hc] at hdigit
        | some n =>
            have hv : (n : Int) = v := by simpa [hexDigit, hc] using hdigit
            simp [hexField, hminus, hplus, hc, hexVal_blank, hv]
  | c :: d :: t' =>
      have htail : t' <:+ c :: d :: t' := (List.suffix_cons d t').trans (List.suffix_cons c _)
      simp only [List.cons_append, hexField] at h ⊢
      split_ifs at h ⊢ with hminus hplus hx
      · obtain ⟨happ, rfl⟩ := hexDigit_append h r
        exact ⟨happ, htail⟩
      · obtain ⟨happ, rfl⟩ := hexDigit_append h r
        exact ⟨happ, htail⟩
      · simp only [Option.some.injEq, Prod.mk.injEq] at h ⊢
        obtain ⟨rfl, rfl⟩ := h
        exact ⟨⟨rfl, rfl⟩, htail⟩
      · cases hc : hexVal c with
        | none => simp [hc] at h
        | some m =>
            cases hd : hexVal d with
            | some n =>
                simp only [hc, hd, Option.some.injEq, Prod.mk.injEq] at h ⊢
                obtain ⟨rfl, rfl⟩ := h
                exact ⟨⟨rfl, rfl⟩, htail⟩
            | none =>
                simp only [hc, hd, Option.some.injEq, Prod.mk.injEq] at h ⊢
                obtain ⟨rfl, rfl⟩ := h
                exact ⟨⟨rfl, rfl⟩, List.suffix_cons c _⟩

/-- The same for `%02x` on a part of a word. -/
theorem scanHex2_append {t rest : List Char} {v : Int} (ht : ∀ c ∈ t, isSpaceC c = false)
    (h : scanHex2 t = some (v, rest)) {r : List Char} (hr : WordEnd r) :
    scanHex2 (t ++ r) = some (v, rest ++ r) ∧ ∀ c ∈ rest, isSpaceC c = false := by
  have hne : t ≠ [] := by
    rintro rfl
    cases h
  unfold scanHex2 at h ⊢
  have hskip := dropWhile_isSpaceC_append hne ht []
  rw [List.append_nil] at hskip
  rw [hskip] at h
  rw [dropWhile_isSpaceC_append hne ht r]
  obtain ⟨happ, hsuf⟩ := hexField_append h hr
  exact ⟨happ, fun c hc => ht c (hsuf.subset hc)⟩

/-- A colour read from a word is read the same from the line that continues after it. -/
theorem scanColour_append {t : List Char} {rgb : Int × Int × Int}
    (ht : ∀ c ∈ t, isSpaceC c = false) (h : scanColour t = some rgb) {r : List Char}
    (hr : WordEnd r) : scanColour (t ++ r) = some rgb := by
  simp only [scanColour, Option.bind_eq_bind, Option.bind_eq_some_iff, Prod.exists] at h
  obtain ⟨v₁, s₁, h₁, v₂, s₂, h₂, v₃, s₃, h₃, hrgb⟩ := h
  obtain ⟨e₁, n₁⟩ := scanHex2_append ht h₁ hr
  obtain ⟨e₂, n₂⟩ := scanHex2_append n₁ h₂ hr
  obtain ⟨e₃, -⟩ := scanHex2_append n₂ h₃ hr
  simp only [scanColour, e₁, e₂, e₃, Option.bind_eq_bind, Option.bind_some]
  exact hrgb

end Dstx.Lib
