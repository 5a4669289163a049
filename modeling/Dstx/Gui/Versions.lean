/-
# Dstx.Gui.Versions — comparing version strings (`compare_versions` of `system-service-manager.vala`).

A version is split at its dots, and the shorter one is padded with zeros while the loop runs.  `version`
says what the comparison is about: the sequence of components, zero from some position on, in the
lexicographic order.  `compareVersions_le_iff` connects the two, and a total preorder it is because
sequences are linearly ordered.

`int.parse` is any function `parse` from texts to integers that gives 0 for the empty text, which is the
first component of `".5"` and what `split` leaves of `"1."`.
-/
import Dstx.Lib.FirstDifference
import Dstx.Lib.CText
import Dstx.Lib.Fs
import Dstx.Lib.Split
import Mathlib

namespace Dstx

open Dstx.Lib

section Versions

variable (parse : CStr → Int)

/-- `(i < parts.length) ? int.parse(parts[i]) : 0`. -/
def versionPart (parts : List CStr) (i : Nat) : Int := if h : i < parts.length then parse parts[i] else 0

/-- **`compare_versions`**. -/
def compareVersions (a b : CStr) : Int :=
  let partsA := strsplit '.' a
  let partsB := strsplit '.' b
  let maxLen := max partsA.length partsB.length
  compareFrom (versionPart parse partsA) (versionPart parse partsB) maxLen 0

/-- `get_expected_version`. -/
def expectedVersion : CStr := "0.7.0".toList

/-- **`is_outdated`**. -/
def isOutdated (currentVersion : CStr) : Bool :=
  decide (compareVersions parse currentVersion expectedVersion < 0)

/-! ## The order of the versions -/

/-- **What a version text stands for**: its components, and zeros behind them. -/
def version (text : CStr) : Lex (Nat → Int) := toLex (versionPart parse (strsplit '.' text))

theorem versionPart_of_length_le {parts : List CStr} {i : Nat} (h : parts.length ≤ i) :
    versionPart parse parts i = 0 :=
  dif_neg (by omega)

/-- Behind the longer of the two there are only zeros. -/
theorem versionPart_padded (partsA partsB : List CStr) (i : Nat) (h : max partsA.length partsB.length ≤ i) :
    versionPart parse partsA i = versionPart parse partsB i := by
  rw [versionPart_of_length_le parse (by omega), versionPart_of_length_le parse (by omega)]

theorem compareVersions_le_iff (a b : CStr) :
    compareVersions parse a b ≤ 0 ↔ version parse a ≤ version parse b :=
  compareFrom_lex_le (versionPart_padded parse _ _)

theorem compareVersions_eq_zero_iff (a b : CStr) :
    compareVersions parse a b = 0 ↔ version parse a = version parse b :=
  compareFrom_lex_eq (versionPart_padded parse _ _)

theorem compareVersions_eq_neg_one_iff (a b : CStr) :
    compareVersions parse a b = -1 ↔ version parse a < version parse b :=
  compareFrom_lex (versionPart_padded parse _ _)

theorem compareVersions_values (a b : CStr) :
    compareVersions parse a b = -1 ∨ compareVersions parse a b = 0 ∨ compareVersions parse a b = 1 :=
  compareFrom_values _ 0

/-- **What `is_outdated` says.** -/
theorem isOutdated_iff (currentVersion : CStr) :
    isOutdated parse currentVersion = true ↔
      version parse currentVersion < version parse expectedVersion := by
  have hvalues := compareVersions_values parse currentVersion expectedVersion
  rw [isOutdated, decide_eq_true_eq, ← compareVersions_eq_neg_one_iff]
  omega

theorem compareVersions_swap (a b : CStr) : compareVersions parse a b = -compareVersions parse b a := by
  unfold compareVersions
  dsimp only
  rw [max_comm]
  exact compareFrom_swap _ _ _ 0

/-- **Equal versions compare alike.** -/
theorem compareVersions_congr {a a' : CStr} (h : version parse a = version parse a') (b : CStr) :
    compareVersions parse a b = compareVersions parse a' b := by
  rcases lt_trichotomy (version parse a) (version parse b) with hab | hab | hab
  · have hab' : version parse a' < version parse b := h ▸ hab
    rw [(compareVersions_eq_neg_one_iff parse a b).mpr hab,
      (compareVersions_eq_neg_one_iff parse a' b).mpr hab']
  · have hab' : version parse a' = version parse b := h.symm.trans hab
    rw [(compareVersions_eq_zero_iff parse a b).mpr hab, (compareVersions_eq_zero_iff parse a' b).mpr hab']
  · have hab' : version parse b < version parse a' := h ▸ hab
    rw [compareVersions_swap, compareVersions_swap parse a',
      (compareVersions_eq_neg_one_iff parse b a).mpr hab,
      (compareVersions_eq_neg_one_iff parse b a').mpr hab']

/-! ## Appended components -/

theorem versionPart_append {extra : List CStr} (hextra : ∀ part ∈ extra, parse part = 0)
    (parts : List CStr) : versionPart parse (parts ++ extra) = versionPart parse parts := by
  funext i
  by_cases hi : i < parts.length
  · have hlong : i < (parts ++ extra).length := by simp; omega
    rw [versionPart, versionPart, dif_pos hi, dif_pos hlong, List.getElem_append_left hi]
  · have hbehind : versionPart parse parts i = 0 := versionPart_of_length_le parse (by omega)
    rw [hbehind]
    by_cases hlong : i < (parts ++ extra).length
    · have hmem : (parts ++ extra)[i] ∈ extra := by
        rw [List.getElem_append_right (by omega)]
        exact List.getElem_mem _
      rw [versionPart, dif_pos hlong]
      exact hextra _ hmem
    · exact versionPart_of_length_le parse (by omega)

/-- **Components that parse to 0 add nothing.** -/
theorem version_append (hempty : parse [] = 0) (a : CStr) {extra : List CStr}
    (hextra : ∀ part ∈ extra, '.' ∉ part ∧ parse part = 0) :
    version parse (a ++ joined '.' extra) = version parse a := by
  have hdots : ∀ part ∈ extra, '.' ∉ part := fun part hpart => (hextra part hpart).1
  have hzeros : ∀ part ∈ extra, parse part = 0 := fun part hpart => (hextra part hpart).2
  unfold version
  apply congrArg toLex
  cases a with
  | nil =>
      -- the empty text has no component, `".0"` has two
      cases extra with
      | nil => rfl
      | cons part rest =>
          have hne : ([] : CStr) ++ joined '.' (part :: rest) ≠ [] := by simp [joined]
          rw [strsplit_of_ne_nil hne, splitOn_append_joined hdots, List.splitOn_nil]
          have hall : ∀ q ∈ [] :: part :: rest, parse q = 0 := by
            intro q hq
            obtain rfl | hq := List.mem_cons.mp hq
            · exact hempty
            · exact hzeros q hq
          exact versionPart_append parse hall []
  | cons c a =>
      have hne : (c :: a) ++ joined '.' extra ≠ [] := by simp
      rw [strsplit_of_ne_nil hne, strsplit_of_ne_nil (List.cons_ne_nil c a), splitOn_append_joined hdots]
      exact versionPart_append parse hzeros _

end Versions

/-- **`compare_versions` is a total preorder** on all texts: its values are `-1`, `0` and `1`, a text is
equal to itself, exchanging the texts changes the sign, "at most" is transitive, and appended components
that parse to 0 do not matter, on either side. -/
theorem compareVersions_preorder (parse : CStr → Int) (hempty : parse [] = 0) :
    (∀ a b, compareVersions parse a b = -1 ∨ compareVersions parse a b = 0 ∨
      compareVersions parse a b = 1) ∧
      (∀ a, compareVersions parse a a = 0) ∧
      (∀ a b, compareVersions parse a b = -compareVersions parse b a) ∧
      (∀ a b c, compareVersions parse a b ≤ 0 → compareVersions parse b c ≤ 0 →
        compareVersions parse a c ≤ 0) ∧
      ∀ a b extra, (∀ part ∈ extra, '.' ∉ part ∧ parse part = 0) →
        compareVersions parse (a ++ joined '.' extra) b = compareVersions parse a b ∧
          compareVersions parse b (a ++ joined '.' extra) = compareVersions parse b a := by
  refine ⟨compareVersions_values parse, fun a => ?_, compareVersions_swap parse, ?_, ?_⟩
  · exact (compareVersions_eq_zero_iff parse a a).mpr rfl
  · intro a b c hab hbc
    rw [compareVersions_le_iff] at hab hbc ⊢
    exact hab.trans hbc
  · intro a b extra hextra
    have hleft : compareVersions parse (a ++ joined '.' extra) b = compareVersions parse a b :=
      compareVersions_congr parse (version_append parse hempty a hextra) b
    refine ⟨hleft, ?_⟩
    rw [compareVersions_swap, hleft, ← compareVersions_swap]

/-- With `atoi`, which `int.parse` is: `0.7` and `0.7.0` are the same version, and `0.6.12` is older. -/
theorem compareVersions_preorder_atoi :
    compareVersions atoi "0.7.0".toList "0.7.0".toList = compareVersions atoi "0.7".toList "0.7.0".toList ∧
      compareVersions atoi "0.6.12".toList "0.7".toList = -1 := by
  have happend := (compareVersions_preorder atoi rfl).2.2.2.2 "0.7".toList "0.7.0".toList ["0".toList]
    (by decide)
  exact ⟨happend.1, by decide⟩

end Dstx
