/-
# Dstx.Gui.SvgColorizer — does the key of a cached texture determine its picture (`svg-colorizer.vala`).

`colorize_svg_sync` looks a texture up under a key made of the resource path, four colours and the size, and
renders it from the style sheet of `generate_css` where there is none.  Key and style sheet choose their
colours by the same rule but with DIFFERENT light palettes, and the key separates its parts by colons that
may occur in them.

`generateCss_eq_iff`: for two requests with the same key the style sheets are the same exactly when both or
neither use the light palette, and corresponding parts have equally many colons.
-/
import Dstx.Gui.TextureCache
import Dstx.Lib.Split
import Mathlib

namespace Dstx

open Dstx.Lib

/-- `ControllerColors`; the code allows for a colour that is `null`. -/
structure ControllerColors where
  primary : Option CStr
  secondary : Option CStr
  accent : Option CStr
  symbol : Option CStr
  deriving DecidableEq

/-- The four local variables that a function picks. -/
@[ext] structure Palette where
  primary : CStr
  secondary : CStr
  accent : CStr
  symbol : CStr
  deriving DecidableEq

/-- The `LIGHT_` constants of `get_cache_key`. -/
def keyLightPalette : Palette :=
  ⟨"#999999".toList, "#666666".toList, "#3584e4".toList, "#2e3436".toList⟩

/-- The `LIGHT_` constants of `generate_css`. -/
def cssLightPalette : Palette :=
  ⟨"#c9c4c4".toList, "#a69d9d".toList, "#3584e4".toList, "#2e3436".toList⟩

/-- The `DARK_` constants, the same in both functions. -/
def darkPalette : Palette :=
  ⟨"#666666".toList, "#4d4d4d".toList, "#3584e4".toList, "#e6e6e6".toList⟩

/-- The parameters of `colorize_svg_sync`. -/
structure SvgRequest where
  svgResourcePath : CStr
  colors : Option ControllerColors
  uiMode : Int
  isSystemDark : Bool
  targetWidth : Int
  targetHeight : Int

/-- The second test of both functions: light mode, or system mode on a light system. -/
def SvgRequest.UsesLight (r : SvgRequest) : Prop := r.uiMode = 1 ∨ r.uiMode = 0 ∧ r.isSystemDark = false

instance (r : SvgRequest) : Decidable r.UsesLight := inferInstanceAs (Decidable (_ ∨ _))

/-- Custom colours, with the dark ones for those that are missing. -/
def ControllerColors.palette (c : ControllerColors) : Palette where
  primary := c.primary.getD darkPalette.primary
  secondary := c.secondary.getD darkPalette.secondary
  accent := c.accent.getD darkPalette.accent
  symbol := c.symbol.getD darkPalette.symbol

/-- **The selection of the colours**, with the light palette of the function that selects. -/
def SvgRequest.pick (r : SvgRequest) (light : Palette) : Palette :=
  match r.colors with
  | some c => if r.uiMode = 3 then c.palette else if r.UsesLight then light else darkPalette
  | none => if r.UsesLight then light else darkPalette

/-- **`swap_rb`**. -/
def swapRb (hexColor : CStr) : CStr :=
  let hex := if hexColor.head? = some '#' then hexColor.drop 1 else hexColor
  if hex.length = 6 then
    let r := hex.take 2
    let g := (hex.drop 2).take 2
    let b := (hex.drop 4).take 2
    '#' :: (b ++ g ++ r)
  else hexColor

/-- The four swaps at the end of both functions. -/
def Palette.swapped (p : Palette) : Palette :=
  ⟨swapRb p.primary, swapRb p.secondary, swapRb p.accent, swapRb p.symbol⟩

/-- The colours of the key. -/
def SvgRequest.keyColours (r : SvgRequest) : Palette := (r.pick keyLightPalette).swapped

/-- The colours of the style sheet. -/
def SvgRequest.cssColours (r : SvgRequest) : Palette := (r.pick cssLightPalette).swapped

/-- **`get_cache_key`**. -/
def getCacheKey (r : SvgRequest) : CStr :=
  r.svgResourcePath ++ ':' :: r.keyColours.primary ++ ':' :: r.keyColours.secondary ++
    ':' :: r.keyColours.accent ++ ':' :: r.keyColours.symbol

/-- The size in the key. -/
def sizeText (r : SvgRequest) : CStr := r.targetWidth.repr.toList ++ 'x' :: r.targetHeight.repr.toList

/-- **The key of `colorize_svg_sync`.** -/
def textureKey (r : SvgRequest) : CStr := getCacheKey r ++ ':' :: sizeText r

/-- The text in front of a colour in the style sheet. -/
def cssBefore (selector : String) : CStr :=
  "                .".toList ++ selector.toList ++ " \x7b fill: ".toList

/-- And behind it. -/
def cssAfter : CStr := "; stroke: none; \x7d\n".toList

/-- The style sheet with the given colours. -/
def Palette.css (p : Palette) : CStr :=
  '\n' :: (cssBefore "primary" ++ p.primary ++ cssAfter ++
    cssBefore "secondary" ++ p.secondary ++ cssAfter ++
    cssBefore "accent" ++ p.accent ++ cssAfter ++
    cssBefore "symbol" ++ p.symbol ++ cssAfter ++ "            ".toList)

/-- **`generate_css`**. -/
def generateCss (r : SvgRequest) : CStr := r.cssColours.css

/-! ## What the two functions pick -/

theorem SvgRequest.pick_of_not_usesLight {r : SvgRequest} (h : ¬r.UsesLight) (light light' : Palette) :
    r.pick light = r.pick light' := by
  unfold SvgRequest.pick
  rw [if_neg h, if_neg h]

theorem SvgRequest.pick_of_usesLight {r : SvgRequest} (h : r.UsesLight) (light : Palette) :
    r.pick light = light := by
  have hmode : r.uiMode ≠ 3 := by
    intro hcustom
    unfold SvgRequest.UsesLight at h
    omega
  unfold SvgRequest.pick
  rw [if_pos h]
  cases r.colors with
  | none => rfl
  | some c => exact if_neg hmode

theorem cssColours_of_not_usesLight {r : SvgRequest} (h : ¬r.UsesLight) : r.cssColours = r.keyColours :=
  congrArg Palette.swapped (r.pick_of_not_usesLight h _ _)

theorem cssColours_of_usesLight {r : SvgRequest} (h : r.UsesLight) :
    r.cssColours = cssLightPalette.swapped :=
  congrArg Palette.swapped (r.pick_of_usesLight h _)

theorem keyColours_of_usesLight {r : SvgRequest} (h : r.UsesLight) :
    r.keyColours = keyLightPalette.swapped :=
  congrArg Palette.swapped (r.pick_of_usesLight h _)

/-- How many characters the colours have together. -/
def Palette.length (p : Palette) : Nat :=
  p.primary.length + p.secondary.length + p.accent.length + p.symbol.length

/-- The two light palettes have equally many. -/
theorem length_cssColours (r : SvgRequest) : r.cssColours.length = r.keyColours.length := by
  by_cases h : r.UsesLight
  · rw [cssColours_of_usesLight h, keyColours_of_usesLight h]
    decide
  · rw [cssColours_of_not_usesLight h]

/-- `swap_rb` leaves the colons. -/
theorem count_swapRb (text : CStr) : (swapRb text).count ':' = text.count ':' := by
  have hbare : ∀ hex : CStr, hex.length = 6 →
      ('#' :: ((hex.drop 4).take 2 ++ (hex.drop 2).take 2 ++ hex.take 2)).count ':' = hex.count ':' := by
    intro hex hlength
    have hsplit : hex = hex.take 2 ++ ((hex.drop 2).take 2 ++ (hex.drop 4).take 2) := by
      have hend : (hex.drop 4).take 2 = hex.drop 4 := List.take_of_length_le (by simp; omega)
      have hmid : hex.drop 2 = (hex.drop 2).take 2 ++ hex.drop 4 := by
        conv_lhs => rw [← List.take_append_drop 2 (hex.drop 2), List.drop_drop]
      rw [hend, ← hmid, List.take_append_drop]
    conv_rhs => rw [hsplit]
    simp only [List.count_append, List.count_cons_of_ne (by decide : '#' ≠ ':')]
    omega
  unfold swapRb
  cases text with
  | nil => rfl
  | cons c text =>
      by_cases hc : c = '#'
      · subst hc
        have hdrop : (if ('#' :: text).head? = some '#' then ('#' :: text).drop 1 else '#' :: text) =
            text := by
          simp
        dsimp only
        rw [hdrop]
        split_ifs with hlength
        · rw [hbare text hlength, List.count_cons_of_ne (by decide)]
        · rfl
      · have hkeep : (if (c :: text).head? = some '#' then (c :: text).drop 1 else c :: text) =
            c :: text := by
          simp [hc]
        dsimp only
        rw [hkeep]
        split_ifs with hlength
        · exact hbare _ hlength
        · rfl

/-- **How many colons the parts of the key have**: the path and the four colours as they were given. -/
def SvgRequest.colons (r : SvgRequest) : List Nat :=
  [r.svgResourcePath, (r.pick keyLightPalette).primary, (r.pick keyLightPalette).secondary,
    (r.pick keyLightPalette).accent, (r.pick keyLightPalette).symbol].map (List.count ':')

/-! ## Taking the key apart -/

/-- A decimal number has digits and a minus sign. -/
theorem not_mem_repr {c : Char} (hdigit : c.isDigit = false) (hminus : c ≠ '-') (n : Int) :
    c ∉ n.repr.toList := by
  have hnat : ∀ m : Nat, c ∉ m.repr.toList := by
    intro m hmem
    rw [Nat.toList_repr] at hmem
    have hin := Nat.isDigit_of_mem_toDigits (by decide) (by decide) hmem
    rw [hdigit] at hin
    cases hin
  cases n with
  | ofNat m => exact hnat m
  | negSucc m =>
      have hneg : (Int.negSucc m).repr.toList = '-' :: (m + 1).repr.toList := by
        simp [Int.repr]
      rw [hneg, List.mem_cons, not_or]
      exact ⟨hminus, hnat (m + 1)⟩

theorem colon_not_mem_sizeText (r : SvgRequest) : ':' ∉ sizeText r := by
  unfold sizeText
  have hrepr := not_mem_repr (show ':'.isDigit = false by decide) (by decide)
  simp [hrepr]

/-- The text of a size determines the size. -/
theorem size_eq_of_sizeText_eq {r r' : SvgRequest} (h : sizeText r = sizeText r') :
    r.targetWidth = r'.targetWidth ∧ r.targetHeight = r'.targetHeight := by
  have hcount : ∀ n : Int, n.repr.toList.count 'x' = 0 := fun n =>
    List.count_eq_zero.mpr (not_mem_repr (by decide) (by decide) n)
  obtain ⟨hwidth, hheight⟩ := append_cons_inj_of_count ((hcount _).trans (hcount _).symm) h
  exact ⟨Int.repr_injective (String.ext hwidth), Int.repr_injective (String.ext hheight)⟩

/-- **Keys agree** when their parts in front of the size do, and the sizes. -/
theorem textureKey_eq_iff {r r' : SvgRequest} :
    textureKey r = textureKey r' ↔ getCacheKey r = getCacheKey r' ∧ sizeText r = sizeText r' := by
  constructor
  · intro h
    have hcount := congrArg (List.count ':') h
    have hsize := List.count_eq_zero.mpr (colon_not_mem_sizeText r)
    have hsize' := List.count_eq_zero.mpr (colon_not_mem_sizeText r')
    unfold textureKey at h hcount
    rw [List.count_append, List.count_append, List.count_cons_self, List.count_cons_self, hsize,
      hsize'] at hcount
    exact append_cons_inj_of_count (by omega) h
  · rintro ⟨hkey, hsize⟩
    unfold textureKey
    rw [hkey, hsize]

/-- The key without the path. -/
theorem getCacheKey_eq (r : SvgRequest) : getCacheKey r =
    r.svgResourcePath ++ ':' :: (r.keyColours.primary ++ ':' :: (r.keyColours.secondary ++
      ':' :: (r.keyColours.accent ++ ':' :: r.keyColours.symbol))) := by
  simp [getCacheKey]

theorem cssAfter_eq : cssAfter = ';' :: " stroke: none; \x7d\n".toList := rfl

/-- The style sheet, colour by colour. -/
theorem css_eq (p : Palette) : p.css =
    '\n' :: (cssBefore "primary" ++ (p.primary ++ ';' :: (" stroke: none; \x7d\n".toList ++
      (cssBefore "secondary" ++ (p.secondary ++ ';' :: (" stroke: none; \x7d\n".toList ++
        (cssBefore "accent" ++ (p.accent ++ ';' :: (" stroke: none; \x7d\n".toList ++
          (cssBefore "symbol" ++ (p.symbol ++ ';' :: (" stroke: none; \x7d\n".toList ++
            "            ".toList))))))))))))  := by
  simp [Palette.css, cssAfter_eq]

theorem length_eq_of_css_eq {p p' : Palette} (h : p.css = p'.css) : p.length = p'.length := by
  have hlength := congrArg List.length h
  rw [css_eq, css_eq] at hlength
  simp only [List.length_cons, List.length_append] at hlength
  unfold Palette.length
  omega

/-- Same key and same style sheet: the paths are the same. -/
theorem path_eq_of_css_eq {r r' : SvgRequest} (hkey : getCacheKey r = getCacheKey r')
    (hcss : generateCss r = generateCss r') : r.svgResourcePath = r'.svgResourcePath := by
  have hcolours : r.keyColours.length = r'.keyColours.length := by
    rw [← length_cssColours, ← length_cssColours]
    exact length_eq_of_css_eq hcss
  have hlength := congrArg List.length hkey
  rw [getCacheKey_eq, getCacheKey_eq] at hkey hlength
  simp only [List.length_append, List.length_cons] at hlength
  unfold Palette.length at hcolours
  exact (List.append_inj hkey (by omega)).1

/-- **The light palettes do not go together**: no request outside light mode has both the key and the style
sheet of one in light mode. -/
theorem css_ne_of_usesLight {r r' : SvgRequest} (hlight : r.UsesLight) (hother : ¬r'.UsesLight)
    (hkey : getCacheKey r = getCacheKey r') : generateCss r ≠ generateCss r' := by
  intro hcss
  have hpath := path_eq_of_css_eq hkey hcss
  rw [getCacheKey_eq, getCacheKey_eq, hpath, keyColours_of_usesLight hlight] at hkey
  have hfirst := List.tail_eq_of_cons_eq (List.append_cancel_left hkey)
  unfold generateCss at hcss
  rw [cssColours_of_usesLight hlight, cssColours_of_not_usesLight hother, css_eq, css_eq] at hcss
  have hfirst' := List.append_cancel_left (List.tail_eq_of_cons_eq hcss)
  have hkeyStart : keyLightPalette.swapped.primary = "#999999".toList := rfl
  have hcssStart : cssLightPalette.swapped.primary = "#c4c4c9".toList := rfl
  rw [hkeyStart] at hfirst
  rw [hcssStart] at hfirst'
  -- the second character of the first colour would have to be both `9` and `c`
  revert hfirst hfirst'
  generalize r'.keyColours.primary = first
  intro hfirst hfirst'
  rcases first with _ | ⟨x, _ | ⟨y, first⟩⟩
  · simp at hfirst
  · simp at hfirst
  · simp at hfirst hfirst'
    obtain ⟨-, rfl, -⟩ := hfirst
    obtain ⟨-, hc, -⟩ := hfirst'
    exact absurd hc (by decide)

/-- **Outside light mode** key and style sheet together determine the colours: in the one a colour ends at
a colon, in the other at a semicolon. -/
theorem keyColours_eq_of_css_eq {r r' : SvgRequest} (hlight : ¬r.UsesLight) (hlight' : ¬r'.UsesLight)
    (hkey : getCacheKey r = getCacheKey r') (hcss : generateCss r = generateCss r') :
    r.keyColours = r'.keyColours := by
  have hpath := path_eq_of_css_eq hkey hcss
  rw [getCacheKey_eq, getCacheKey_eq, hpath] at hkey
  have hkey₁ := List.tail_eq_of_cons_eq (List.append_cancel_left hkey)
  unfold generateCss at hcss
  rw [cssColours_of_not_usesLight hlight, cssColours_of_not_usesLight hlight', css_eq, css_eq] at hcss
  have hcss₁ := List.append_cancel_left (List.tail_eq_of_cons_eq hcss)
  obtain ⟨hprimary, hkey₂, hrest₂⟩ := append_cons_inj_of_two_separators (by decide) hkey₁ hcss₁
  have hcss₂ := List.append_cancel_left (List.append_cancel_left hrest₂)
  obtain ⟨hsecondary, hkey₃, hrest₃⟩ := append_cons_inj_of_two_separators (by decide) hkey₂ hcss₂
  have hcss₃ := List.append_cancel_left (List.append_cancel_left hrest₃)
  obtain ⟨haccent, hsymbol, -⟩ := append_cons_inj_of_two_separators (by decide) hkey₃ hcss₃
  exact Palette.ext hprimary hsecondary haccent hsymbol

/-- **Equally many colons** in every part: the parts are the same. -/
theorem parts_eq_of_colons_eq {r r' : SvgRequest} (hkey : getCacheKey r = getCacheKey r')
    (hcolons : r.colons = r'.colons) :
    r.svgResourcePath = r'.svgResourcePath ∧ r.keyColours = r'.keyColours := by
  simp only [SvgRequest.colons, List.map_cons, List.map_nil, List.cons.injEq, and_true] at hcolons
  obtain ⟨hpath, hprimary, hsecondary, haccent, -⟩ := hcolons
  rw [← count_swapRb] at hprimary hsecondary haccent
  rw [← count_swapRb (r'.pick keyLightPalette).primary] at hprimary
  rw [← count_swapRb (r'.pick keyLightPalette).secondary] at hsecondary
  rw [← count_swapRb (r'.pick keyLightPalette).accent] at haccent
  rw [getCacheKey_eq, getCacheKey_eq] at hkey
  obtain ⟨hpath', hkey₁⟩ := append_cons_inj_of_count hpath hkey
  obtain ⟨hprimary', hkey₂⟩ := append_cons_inj_of_count hprimary hkey₁
  obtain ⟨hsecondary', hkey₃⟩ := append_cons_inj_of_count hsecondary hkey₂
  obtain ⟨haccent', hsymbol'⟩ := append_cons_inj_of_count haccent hkey₃
  exact ⟨hpath', Palette.ext hprimary' hsecondary' haccent' hsymbol'⟩

/-- The same path and the same colours: equally many colons. -/
theorem colons_eq_of_parts_eq {r r' : SvgRequest} (hpath : r.svgResourcePath = r'.svgResourcePath)
    (hcolours : r.keyColours = r'.keyColours) : r.colons = r'.colons := by
  have hcount : ∀ text text' : CStr, swapRb text = swapRb text' → text.count ':' = text'.count ':' := by
    intro text text' h
    rw [← count_swapRb, ← count_swapRb text', h]
  have hprimary := hcount _ _ (congrArg Palette.primary hcolours)
  have hsecondary := hcount _ _ (congrArg Palette.secondary hcolours)
  have haccent := hcount _ _ (congrArg Palette.accent hcolours)
  have hsymbol := hcount _ _ (congrArg Palette.symbol hcolours)
  simp only [SvgRequest.colons, List.map_cons, List.map_nil]
  rw [hpath, hprimary, hsecondary, haccent, hsymbol]

/-- **When the key of a texture determines its style sheet.**  Two requests with the same key have the same
style sheet if and only if both or neither pick the light palette, and the path and each of the four colours
have equally many colons in both. -/
theorem generateCss_eq_iff {r r' : SvgRequest} (h : textureKey r = textureKey r') :
    generateCss r = generateCss r' ↔ (r.UsesLight ↔ r'.UsesLight) ∧ r.colons = r'.colons := by
  obtain ⟨hkey, -⟩ := textureKey_eq_iff.mp h
  constructor
  · intro hcss
    have hpath := path_eq_of_css_eq hkey hcss
    by_cases hlight : r.UsesLight <;> by_cases hlight' : r'.UsesLight
    · have hcolours : r.keyColours = r'.keyColours := by
        rw [keyColours_of_usesLight hlight, keyColours_of_usesLight hlight']
      exact ⟨iff_of_true hlight hlight', colons_eq_of_parts_eq hpath hcolours⟩
    · exact absurd hcss (css_ne_of_usesLight hlight hlight' hkey)
    · exact absurd hcss.symm (css_ne_of_usesLight hlight' hlight hkey.symm)
    · have hcolours := keyColours_eq_of_css_eq hlight hlight' hkey hcss
      exact ⟨iff_of_false hlight hlight', colons_eq_of_parts_eq hpath hcolours⟩
  · rintro ⟨hlights, hcolons⟩
    obtain ⟨-, hcolours⟩ := parts_eq_of_colons_eq hkey hcolons
    apply congrArg Palette.css
    by_cases hlight : r.UsesLight
    · rw [cssColours_of_usesLight hlight, cssColours_of_usesLight (hlights.mp hlight)]
    · have hlight' := fun h' => hlight (hlights.mpr h')
      rw [cssColours_of_not_usesLight hlight, cssColours_of_not_usesLight hlight', hcolours]

/-- A picture of the GUI in light mode. -/
def lightRequest : SvgRequest where
  svgResourcePath := "/org/dstx/gui/ds4.svg".toList
  colors := none
  uiMode := 1
  isSystemDark := false
  targetWidth := 600
  targetHeight := 400

/-- The same in custom mode, with the colours that the key has for the light one. -/
def greyRequest : SvgRequest :=
  { lightRequest with
    colors :=
      some ⟨some "#999999".toList, some "#666666".toList, some "#3584e4".toList, some "#2e3436".toList⟩
    uiMode := 3 }

/-- **Two pictures with one key.** -/
theorem lightRequest_collides :
    ¬∀ r r' : SvgRequest, textureKey r = textureKey r' → generateCss r = generateCss r' := by
  intro h
  have hkey : textureKey lightRequest = textureKey greyRequest := by decide
  have hcss : generateCss lightRequest ≠ generateCss greyRequest := by decide
  exact hcss (h lightRequest greyRequest hkey)

/-- In system mode on a light system the key and the style sheet are those of light mode. -/
theorem generateCss_eq_iff_lightRequest :
    generateCss lightRequest = generateCss { lightRequest with uiMode := 0 } :=
  (generateCss_eq_iff
      (show textureKey lightRequest = textureKey { lightRequest with uiMode := 0 } by decide)).mpr
    ⟨iff_of_true (by decide) (by decide), rfl⟩

/-- A colon in a colour: the key is that of a request with other colours. -/
example :
    let custom (p s : String) : SvgRequest :=
      { greyRequest with colors := some ⟨some p.toList, some s.toList, none, none⟩ }
    textureKey (custom "red:blue" "black") = textureKey (custom "red" "blue:black") ∧
      (custom "red:blue" "black").colons ≠ (custom "red" "blue:black").colons := by decide

/-! ## Cached textures -/

section Textures

variable {Texture : Type} (render : CStr → CStr → Int → Int → Option Texture)

/-- What `render_svg_to_texture` makes of a request. -/
def SvgRequest.rendered (r : SvgRequest) : Option Texture :=
  render r.svgResourcePath (generateCss r) r.targetWidth r.targetHeight

/-- **`colorize_svg_sync`**. -/
def colorizeSvgSync (r : SvgRequest) (m : TextureCacheManager Texture) :
    Option Texture × TextureCacheManager Texture :=
  match m.get (textureKey r) with
  | (some cached, m') => (some cached, m')
  | (none, m') =>
      match r.rendered render with
      | some texture => (some texture, m'.put (textureKey r) texture)
      | none => (none, m')

/-- Two requests that share a key share their picture: they meet the condition of `generateCss_eq_iff`. -/
def SamePicture (r r' : SvgRequest) : Prop :=
  textureKey r = textureKey r' → (r.UsesLight ↔ r'.UsesLight) ∧ r.colons = r'.colons

/-- **The same picture.** -/
theorem rendered_eq {r r' : SvgRequest} (h : SamePicture r r') (hkey : textureKey r = textureKey r') :
    r.rendered render = r'.rendered render := by
  have hcss := (generateCss_eq_iff hkey).mpr (h hkey)
  obtain ⟨hparts, hsize⟩ := textureKey_eq_iff.mp hkey
  obtain ⟨hwidth, hheight⟩ := size_eq_of_sizeText_eq hsize
  unfold SvgRequest.rendered
  rw [path_eq_of_css_eq hparts hcss, hcss, hwidth, hheight]

/-- What happens to the cache: a request, or `invalidate_all` when the theme changes. -/
inductive SvgCall where
  | colorize (r : SvgRequest)
  | invalidateAll

/-- One call. -/
def svgStep (m : TextureCacheManager Texture) : SvgCall → TextureCacheManager Texture
  | .colorize r => (colorizeSvgSync render r m).2
  | .invalidateAll => m.clear

/-- The cache after a list of calls. -/
def svgRun (calls : List SvgCall) : TextureCacheManager Texture := calls.foldl (svgStep render) .new

/-- The requests among the calls. -/
def svgRequests (calls : List SvgCall) : List SvgRequest :=
  calls.filterMap fun
    | .colorize r => some r
    | .invalidateAll => none

/-- **Every cached texture was rendered for a request with its key.** -/
structure Pictures (served : List SvgRequest) (m : TextureCacheManager Texture) : Prop where
  tracked : ∃ history, Tracks history m
  rendered : ∀ key texture, m.cache.lookup key = some texture →
    ∃ r ∈ served, textureKey r = key ∧ r.rendered render = some texture

theorem TextureCacheManager.get_spec (m : TextureCacheManager Texture) (key : CStr) :
    (m.get key).1 = m.cache.lookup key ∧ (m.get key).2.cache = m.cache := by
  unfold TextureCacheManager.get
  split_ifs with hk
  · exact ⟨rfl, rfl⟩
  · exact ⟨(AList.lookup_eq_none.mpr hk).symm, rfl⟩

variable {render} {served : List SvgRequest} {m : TextureCacheManager Texture}

theorem Pictures.mono {served' : List SvgRequest} (h : Pictures render served m)
    (hsub : ∀ r ∈ served, r ∈ served') : Pictures render served' m := by
  refine ⟨h.tracked, fun key texture hlookup => ?_⟩
  obtain ⟨r, hr, hkey, hrendered⟩ := h.rendered key texture hlookup
  exact ⟨r, hsub r hr, hkey, hrendered⟩

/-- **A request keeps it.** -/
theorem Pictures.colorize (h : Pictures render served m) (r : SvgRequest) (hr : r ∈ served) :
    Pictures render served (colorizeSvgSync render r m).2 := by
  obtain ⟨history, htracks⟩ := h.tracked
  obtain ⟨hvalue, hcache⟩ := m.get_spec (textureKey r)
  have htracks' : Tracks (.get (textureKey r) :: history) (m.get (textureKey r)).2 := htracks.get _
  have hkept : Pictures render served (m.get (textureKey r)).2 := by
    refine ⟨⟨_, htracks'⟩, fun key texture hlookup => h.rendered key texture ?_⟩
    rw [← hcache]
    exact hlookup
  unfold colorizeSvgSync
  cases hget : m.get (textureKey r) with
  | mk found m' =>
      rw [hget] at hkept htracks'
      cases found with
      | some cached => exact hkept
      | none =>
          cases hrendered : r.rendered render with
          | none => exact hkept
          | some texture =>
              refine ⟨⟨_, htracks'.put (textureKey r) texture⟩, fun key found hlookup => ?_⟩
              change (m'.put (textureKey r) texture).cache.lookup key = some found at hlookup
              rw [(TextureCacheManager.put_spec htracks'.agrees _ _).2] at hlookup
              split_ifs at hlookup with hkey hroom
              · exact ⟨r, hr, hkey.symm, hrendered.trans hlookup⟩
              · exact hkept.rendered key found hlookup

theorem pictures_run (calls : List SvgCall) :
    Pictures render (svgRequests calls) (svgRun render calls) := by
  induction calls using List.reverseRecOn with
  | nil =>
      refine ⟨⟨[], tracks_new⟩, fun key texture hlookup => ?_⟩
      cases hlookup
  | append_singleton calls call ih =>
      have hrun : svgRun render (calls ++ [call]) = svgStep render (svgRun render calls) call := by
        simp [svgRun]
      have hserved : svgRequests (calls ++ [call]) = svgRequests calls ++ svgRequests [call] := by
        simp [svgRequests]
      have hbefore : Pictures render (svgRequests (calls ++ [call])) (svgRun render calls) :=
        ih.mono fun r hr => hserved ▸ List.mem_append_left _ hr
      rw [hrun]
      cases call with
      | colorize r =>
          apply hbefore.colorize r
          rw [hserved]
          exact List.mem_append_right _ (List.mem_singleton_self r)
      | invalidateAll =>
          obtain ⟨history, -⟩ := hbefore.tracked
          refine ⟨⟨_, tracks_clear history (svgRun render calls)⟩, fun key texture hlookup => ?_⟩
          cases hlookup

/-- **A cached texture is the one that would be rendered**, in every run whose requests share a picture
with the present one wherever they share its key. -/
theorem colorizeSvgSync_rendered (calls : List SvgCall) (r : SvgRequest)
    (hsame : ∀ r' ∈ svgRequests calls, SamePicture r' r) :
    (colorizeSvgSync render r (svgRun render calls)).1 = r.rendered render := by
  have hpictures : Pictures render (svgRequests calls) (svgRun render calls) := pictures_run calls
  obtain ⟨hvalue, -⟩ := (svgRun render calls).get_spec (textureKey r)
  unfold colorizeSvgSync
  cases hget : (svgRun render calls).get (textureKey r) with
  | mk found m' =>
      rw [hget] at hvalue
      cases found with
      | some cached =>
          obtain ⟨r', hr', hkey, hrendered⟩ := hpictures.rendered _ _ hvalue.symm
          show some cached = r.rendered render
          rw [← hrendered]
          exact rendered_eq render (hsame r' hr') hkey
      | none =>
          cases hrendered : r.rendered render <;> rfl

end Textures

end Dstx
