/-
# Dstx.Gui.ThemeManager — the cached style sheets of the themes (`theme-manager.vala`).

In custom mode `apply_theme` writes the accent into the theme's window colours and loads the style sheet of
the theme.  `generate_theme_vars_css` keeps the sheets it has built in a table keyed by the theme's id, and
only `clear_cache` empties it: a theme that is applied again is shown with the accent of the first time.

The table is a `Lib.Memo`: the key is the id, and the version of a theme is the text of its accent, since
nothing else that the sheet shows ever changes (`ThemeInv`).  `loadsRight_iff` says, for every run, that all
loaded sheets are right exactly when every theme keeps its accent from one `clear_cache` to the next.

Floating point is a parameter: `scale x` is `(int)(x * 255)`, and `saved` is the blue that `set_ui_mode`
gives to `apply_theme`.
-/
import Dstx.Gui.SvgColorizer
import Dstx.Lib.Memo

namespace Dstx

open Dstx.Lib

/-! ## Themes -/

/-- `WindowColors`: its hash map. -/
abbrev WindowColors := CStr → Option CStr

/-- `WindowColors.get`. -/
def WindowColors.get (w : WindowColors) (key defaultValue : CStr) : CStr := (w key).getD defaultValue

/-- `WindowColors.set`. -/
def WindowColors.set (w : WindowColors) (key value : CStr) : WindowColors :=
  Function.update w key (some value)

/-- `--accent-bg`. -/
def accentBgKey : CStr := "--accent-bg".toList

/-- `--accent-color`. -/
def accentColorKey : CStr := "--accent-color".toList

/-- **`ThemeData`**, without the parts that only its thumbnail shows. -/
structure ThemeData where
  id : CStr
  themeType : CStr
  thumbnailAccent : CStr
  thumbnailText : CStr
  palette : List CStr
  window : WindowColors
  controller : ControllerColors

/-- **The themes that were loaded**: every theme is filed under its id. -/
structure ThemeTable where
  find : CStr → Option ThemeData
  ids : ∀ id theme, find id = some theme → theme.id = id

/-- A change of a theme in place. -/
def ThemeTable.modify (themes : ThemeTable) (id : CStr) (f : ThemeData → ThemeData)
    (hf : ∀ theme, (f theme).id = theme.id) : ThemeTable where
  find := Function.update themes.find id ((themes.find id).map f)
  ids := by
    intro a theme ha
    by_cases heq : a = id
    · subst heq
      rw [Function.update_self, Option.map_eq_some_iff] at ha
      obtain ⟨old, hold, rfl⟩ := ha
      rw [hf, themes.ids a old hold]
    · rw [Function.update_of_ne heq] at ha
      exact themes.ids a theme ha

theorem ThemeTable.find_modify (themes : ThemeTable) (id : CStr) {f : ThemeData → ThemeData}
    (hf : ∀ theme, (f theme).id = theme.id) :
    (themes.modify id f hf).find = Function.update themes.find id ((themes.find id).map f) := rfl

/-! ## The style sheet -/

/-- `theme.theme_type == "dark" ? dark : light`. -/
def ThemeData.byType (theme : ThemeData) (dark light : String) : CStr :=
  if theme.themeType = "dark".toList then dark.toList else light.toList

/-- **The colours of `generate_theme_vars_css`**, under the names they are defined as, in the order of the
style sheet. -/
def themeVars (theme : ThemeData) : List (CStr × CStr) :=
  let get (key : String) (dflt : CStr) : CStr := theme.window.get key.toList dflt
  let windowBg := get "--window-bg" (theme.byType "#1e1e1e" "#f6f5f4")
  let windowFg := get "--window-fg" (theme.byType "#e6e6e6" "#2e3436")
  let headerbarBg := get "--headerbar-bg" windowBg
  let sidebarBg := get "--sidebar-bg" windowBg
  let sidebarFg := get "--sidebar-fg" windowFg
  let sidebarBorder := get "--sidebar-border" "#cdc7c2".toList
  let secondarySidebarBg := get "--secondary-sidebar-bg" sidebarBg
  [("accent_fg_color".toList, get "--accent-fg" "#ffffff".toList),
    ("window_bg_color".toList, windowBg),
    ("window_fg_color".toList, windowFg),
    ("headerbar_bg_color".toList, headerbarBg),
    ("headerbar_fg_color".toList, get "--headerbar-fg" windowFg),
    ("popover_bg_color".toList, get "--popover-bg" windowBg),
    ("popover_fg_color".toList, get "--popover-fg" windowFg),
    ("card_bg_color".toList, get "--card-bg" windowBg),
    ("card_fg_color".toList, get "--card-fg" windowFg),
    ("sidebar_bg_color".toList, sidebarBg),
    ("sidebar_fg_color".toList, sidebarFg),
    ("sidebar_border_color".toList, sidebarBorder),
    ("secondary_sidebar_bg_color".toList, secondarySidebarBg),
    ("secondary_sidebar_fg_color".toList, get "--secondary-sidebar-fg" sidebarFg),
    ("secondary_sidebar_border_color".toList, get "--secondary-sidebar-border" sidebarBorder),
    ("border_color".toList, get "--border" "#cdc7c2".toList),
    ("button_bg_color".toList, get "--button-bg" windowBg),
    ("button_fg_color".toList, get "--button-fg" windowFg),
    ("button_hover_bg_color".toList, get "--button-hover" "#e5e3e0".toList),
    ("button_active_bg_color".toList, get "--button-active" "#d9d7d4".toList),
    ("accent_hover_bg_color".toList, get "--accent-hover" "#5e9bff".toList),
    ("accent_active_bg_color".toList, get "--accent-active" "#1c71d8".toList),
    ("view_bg_color".toList, get "--view-bg" windowBg),
    ("view_fg_color".toList, get "--view-fg" windowFg),
    ("dialog_bg_color".toList, get "--dialog-bg" windowBg),
    ("dialog_fg_color".toList, get "--dialog-fg" windowFg),
    ("window_backdrop_bg_color".toList, get "--window-backdrop-bg" windowBg),
    ("headerbar_backdrop_bg_color".toList, get "--headerbar-backdrop-bg" headerbarBg),
    ("sidebar_backdrop_bg_color".toList, get "--sidebar-backdrop-bg" sidebarBg),
    ("secondary_sidebar_backdrop_bg_color".toList,
      get "--secondary-sidebar-backdrop-bg" secondarySidebarBg)]

/-- `"@define-color name value;\\n"`. -/
def defineColor (name value : CStr) : CStr :=
  "@define-color ".toList ++ name ++ ' ' :: value ++ ";\n".toList

/-- The rules behind the colours. -/
def sidebarRules : CStr :=
  ("\n                \n" ++
    "                overlay-split-view:backdrop > widget.sidebar-pane \x7b\n" ++
    "                    background-color: @sidebar_backdrop_bg_color;\n" ++
    "                    border-right-color: alpha(@sidebar_border_color, 0.5);\n" ++
    "                \x7d\n" ++
    "                \n" ++
    "                overlay-split-view:backdrop > widget.sidebar-pane:last-child \x7b\n" ++
    "                    background-color: @secondary_sidebar_backdrop_bg_color;\n" ++
    "                    border-left-color: alpha(@secondary_sidebar_border_color, 0.5);\n" ++
    "                \x7d\n" ++
    "                \n" ++
    "                .right-split-view > widget.sidebar-pane \x7b\n" ++
    "                    background-color: @secondary_sidebar_bg_color;\n" ++
    "                    border-left: 1px solid @secondary_sidebar_border_color;\n" ++
    "                \x7d\n" ++
    "                \n" ++
    "                .right-split-view .sidebar-toolbar \x7b\n" ++
    "                    background-color: @secondary_sidebar_bg_color;\n" ++
    "                \x7d\n" ++
    "            ").toList

/-- `theme.window.get("--accent-bg", "#3584e4")`. -/
def ThemeData.accent (theme : ThemeData) : CStr := theme.window.get accentBgKey "#3584e4".toList

/-- **`generate_theme_vars_css` without its cache.** -/
def buildThemeVarsCss (theme : ThemeData) : CStr :=
  defineColor "accent_bg_color".toList theme.accent ++
    ((themeVars theme).flatMap fun row => defineColor row.1 row.2) ++ sidebarRules

/-- **`generate_theme_vars_css`**, with the table it keeps. -/
def generateThemeVarsCss (theme : ThemeData) (cache : CStr → Option CStr) : CStr × (CStr → Option CStr) :=
  match cache theme.id with
  | some css => (css, cache)
  | none => (buildThemeVarsCss theme, Function.update cache theme.id (some (buildThemeVarsCss theme)))

/-! ## The manager -/

/-- `Gdk.RGBA`. -/
structure Rgba (φ : Type) where
  red : φ
  green : φ
  blue : φ
  alpha : φ

/-- `n.to_string("%02X")` of a 32-bit `n`. -/
def hexByte (n : Int) : CStr :=
  let digits := (Nat.toDigits 16 (n % 2 ^ 32).toNat).map Char.toUpper
  if digits.length < 2 then '0' :: digits else digits

section Manager

variable {φ : Type} (scale : φ → Int) (saved : Rgba φ)

/-- **`color_to_hex`**. -/
def colorToHex (color : Rgba φ) : CStr :=
  '#' :: (hexByte (scale color.red) ++ hexByte (scale color.green) ++ hexByte (scale color.blue))

/-- **`ThemeManager`**: the state its theme operations work on.  A theme object is named by its id; a sheet
that only shows an accent is named by its colour, and so is the timer that will load one. -/
structure ThemeManager (φ : Type) where
  uiMode : Int
  isDark : Bool
  themes : ThemeTable
  currentThemeId : CStr
  currentTheme : Option CStr
  accentColor : Rgba φ
  selectedAccentIndex : Int
  themeCssCache : CStr → Option CStr
  currentThemeProvider : Option CStr
  accentOnlyProvider : Option (Rgba φ)
  interfaceUpdate : Option (Rgba φ)
  cachedControllerColorsHash : CStr
  controllerUpdate : Option Palette

/-- `theme.window.set(key, value)`. -/
def ThemeData.setWindow (theme : ThemeData) (key value : CStr) : ThemeData :=
  { theme with window := theme.window.set key value }

/-- `get_controller_colors_for_mode`; its `LIGHT_` constants are those of `get_cache_key`. -/
def getControllerColorsForMode (mode : Int) (isSystemDark : Bool) : Palette :=
  if mode = 1 then keyLightPalette
  else if mode = 2 then darkPalette
  else if isSystemDark then darkPalette
  else keyLightPalette

/-- The colours `apply_theme` gives to the controller. -/
def ThemeData.controllerPalette (theme : ThemeData) : Palette where
  primary := theme.controller.primary.getD (theme.byType "#666666" "#999999")
  secondary := theme.controller.secondary.getD (theme.byType "#4d4d4d" "#666666")
  accent := theme.controller.accent.getD theme.thumbnailAccent
  symbol := theme.controller.symbol.getD theme.thumbnailText

namespace ThemeManager

/-- `schedule_controller_update`. -/
def scheduleControllerUpdate (m : ThemeManager φ) (colors : Palette) : ThemeManager φ :=
  let newHash := colors.primary ++ ':' :: colors.secondary ++ ':' :: colors.accent ++ ':' :: colors.symbol
  if m.cachedControllerColorsHash = newHash then m
  else { m with cachedControllerColorsHash := newHash, controllerUpdate := some colors }

/-- **`apply_full_css`**. -/
def applyFullCss (m : ThemeManager φ) (theme : ThemeData) : ThemeManager φ :=
  let generated := generateThemeVarsCss theme m.themeCssCache
  { m with currentThemeProvider := some generated.1, themeCssCache := generated.2 }

/-- **`apply_interface_theme`**. -/
def applyInterfaceTheme (m : ThemeManager φ) (theme : ThemeData) (accent : Rgba φ) : ThemeManager φ :=
  if m.uiMode ≠ 3 then m
  else
    let hex := colorToHex scale accent
    let changed :=
      { m with
        accentOnlyProvider := none
        themes := m.themes.modify theme.id (fun t => t.setWindow accentBgKey hex) fun _ => rfl
        isDark := decide (theme.themeType = "dark".toList) }
    changed.applyFullCss (theme.setWindow accentBgKey hex)

/-- **`apply_theme`**. -/
def applyTheme (m : ThemeManager φ) (themeId : CStr) (accent : Rgba φ) : ThemeManager φ :=
  if m.uiMode ≠ 3 then m
  else
    match m.themes.find themeId with
    | none => m
    | some theme =>
        let chosen :=
          { m with
            currentThemeId := themeId
            currentTheme := some themeId
            accentColor := accent
            selectedAccentIndex := 0 }
        (chosen.applyInterfaceTheme scale theme accent).scheduleControllerUpdate theme.controllerPalette

/-- What `apply_accent_color` writes into the current theme.  An index below 0 is not one of the array. -/
def recolour (hex : CStr) (index : Int) (theme : ThemeData) : ThemeData :=
  { (theme.setWindow accentBgKey hex).setWindow accentColorKey hex with
    palette :=
      if 0 ≤ index ∧ index < theme.palette.length then theme.palette.set index.toNat hex
      else theme.palette }

/-- **`apply_accent_color`**. -/
def applyAccentColor (m : ThemeManager φ) (color : Rgba φ) (index : Int) : ThemeManager φ :=
  if m.uiMode ≠ 3 then m
  else
    { m with
      accentColor := color
      selectedAccentIndex := index
      themes :=
        match m.currentTheme with
        | some id => m.themes.modify id (recolour (colorToHex scale color) index) fun _ => rfl
        | none => m.themes
      interfaceUpdate := some color }

/-- `update_controller_colors_by_mode`; `dark` is what the style manager says. -/
def updateControllerColorsByMode (m : ThemeManager φ) (dark : Bool) : ThemeManager φ :=
  let isSystemDark := if m.uiMode = 0 then dark else decide (m.uiMode = 2)
  m.scheduleControllerUpdate (getControllerColorsForMode m.uiMode isSystemDark)

/-- **`set_ui_mode`**; `dark` and `systemAccent` are what the style manager and `get_current_system_accent`
say when it leaves custom mode. -/
def setUiMode (m : ThemeManager φ) (mode : Int) (dark : Bool) (systemAccent : Option (Rgba φ)) :
    ThemeManager φ :=
  if m.uiMode = mode then m
  else if mode = 3 then
    ({ m with uiMode := mode, accentOnlyProvider := none }).applyTheme scale "light".toList saved
  else
    let left :=
      { m with
        uiMode := mode
        currentThemeProvider := none
        accentOnlyProvider := none
        isDark := decide (mode = 2) || decide (mode = 0) && dark
        accentColor := systemAccent.getD m.accentColor }
    left.updateControllerColorsByMode dark

/-- **`clear_cache`**. -/
def clearCache (m : ThemeManager φ) : ThemeManager φ := { m with themeCssCache := fun _ => none }

/-- The timer of `schedule_interface_accent_update`: `apply_interface_accent`. -/
def accentTimer (m : ThemeManager φ) : ThemeManager φ :=
  match m.interfaceUpdate with
  | none => m
  | some color =>
      if m.uiMode ≠ 3 then { m with interfaceUpdate := none }
      else { m with accentOnlyProvider := some color, interfaceUpdate := none }

end ThemeManager

/-- The calls, and the timer of an accent. -/
inductive ThemeCall (φ : Type) where
  | applyTheme (themeId : CStr) (accent : Rgba φ)
  | applyAccentColor (color : Rgba φ) (index : Int)
  | setUiMode (mode : Int) (dark : Bool) (systemAccent : Option (Rgba φ))
  | clearCache
  | accentTimer

/-- **One call.** -/
def themeStep (m : ThemeManager φ) : ThemeCall φ → ThemeManager φ
  | .applyTheme themeId accent => m.applyTheme scale themeId accent
  | .applyAccentColor color index => m.applyAccentColor scale color index
  | .setUiMode mode dark systemAccent => m.setUiMode scale saved mode dark systemAccent
  | .clearCache => m.clearCache
  | .accentTimer => m.accentTimer

/-! ## What should be loaded -/

/-- The loaded sheet is the one of the theme's present values. -/
def ThemeManager.SheetRight (m : ThemeManager φ) (themeId : CStr) : Prop :=
  m.currentThemeProvider = (m.themes.find themeId).map buildThemeVarsCss

/-- The theme and the accent that a call applies in custom mode, entering it included. -/
def ThemeCall.applies (uiMode : Int) : ThemeCall φ → Option (CStr × Rgba φ)
  | .applyTheme themeId accent => if uiMode = 3 then some (themeId, accent) else none
  | .setUiMode mode _ _ => if uiMode ≠ mode ∧ mode = 3 then some ("light".toList, saved) else none
  | .applyAccentColor _ _ => none
  | .clearCache => none
  | .accentTimer => none

/-- **Every sheet that `apply_full_css` loads in the run is right.**  It loads one when a theme that there
is is applied. -/
def LoadsRight : List (ThemeCall φ) → ThemeManager φ → Prop
  | [], _ => True
  | call :: calls, m =>
      (∀ applied ∈ call.applies saved m.uiMode, (m.themes.find applied.1).isSome = true →
        (themeStep scale saved m call).SheetRight applied.1) ∧
      LoadsRight calls (themeStep scale saved m call)

/-- The mode a call leaves. -/
def ThemeCall.modeAfter (uiMode : Int) : ThemeCall φ → Int
  | .setUiMode mode _ _ => mode
  | .applyTheme _ _ => uiMode
  | .applyAccentColor _ _ => uiMode
  | .clearCache => uiMode
  | .accentTimer => uiMode

/-- What a call means to the table of sheets; `known` are the themes that there are. -/
def ThemeCall.event (known : CStr → Bool) (uiMode : Int) (call : ThemeCall φ) :
    Option (MemoEvent CStr CStr) :=
  match call with
  | .clearCache => some .clear
  | _ =>
      ((call.applies saved uiMode).filter fun applied => known applied.1).map fun applied =>
        .fetch applied.1 (colorToHex scale applied.2)

/-- **Every theme keeps its accent** until `clear_cache`: when a theme is applied, the text of the accent is
that of the first time since. -/
def AccentsKept (known : CStr → Bool) : List (ThemeCall φ) → Int → List (MemoEvent CStr CStr) → Prop
  | [], _, _ => True
  | call :: calls, uiMode, history =>
      (∀ applied ∈ call.applies saved uiMode, known applied.1 = true →
        ∀ first ∈ firstFetch history applied.1, first = colorToHex scale applied.2) ∧
      AccentsKept known calls (call.modeAfter uiMode)
        ((call.event scale saved known uiMode).toList ++ history)

/-! ## The values a sheet shows -/

theorem WindowColors.get_set_of_ne (w : WindowColors) {k a : CStr} (h : a ≠ k) (value dflt : CStr) :
    (w.set k value).get a dflt = w.get a dflt := by
  rw [WindowColors.get, WindowColors.set, Function.update_of_ne h]
  rfl

theorem ThemeData.setWindow_id (theme : ThemeData) (key value : CStr) :
    (theme.setWindow key value).id = theme.id := rfl

@[simp] theorem ThemeData.setWindow_accent (theme : ThemeData) (hex : CStr) :
    (theme.setWindow accentBgKey hex).accent = hex := by
  simp [ThemeData.setWindow, ThemeData.accent, WindowColors.get, WindowColors.set]

/-- **The accent is not among the other colours**: they depend on the other window colours only. -/
theorem themeVars_congr {theme theme' : ThemeData} (htype : theme'.themeType = theme.themeType)
    (hget : ∀ key, key ≠ accentBgKey → key ≠ accentColorKey → ∀ dflt,
      theme'.window.get key dflt = theme.window.get key dflt) : themeVars theme' = themeVars theme := by
  simp (disch := decide) only [themeVars, ThemeData.byType, htype, hget]

theorem themeVars_setWindow (theme : ThemeData) (hex : CStr) :
    themeVars (theme.setWindow accentBgKey hex) = themeVars theme :=
  themeVars_congr rfl fun _ hbg _ dflt => theme.window.get_set_of_ne hbg hex dflt

theorem ThemeManager.recolour_id (hex : CStr) (index : Int) (theme : ThemeData) :
    (ThemeManager.recolour hex index theme).id = theme.id := rfl

theorem themeVars_recolour (hex : CStr) (index : Int) (theme : ThemeData) :
    themeVars (ThemeManager.recolour hex index theme) = themeVars theme :=
  themeVars_congr rfl fun key hbg hcolor dflt =>
    calc ((theme.window.set accentBgKey hex).set accentColorKey hex).get key dflt
        = (theme.window.set accentBgKey hex).get key dflt := WindowColors.get_set_of_ne _ hcolor hex dflt
      _ = theme.window.get key dflt := WindowColors.get_set_of_ne _ hbg hex dflt

theorem defineColor_inj {name value value' : CStr} :
    defineColor name value = defineColor name value' ↔ value = value' := by
  refine ⟨fun h => ?_, congrArg (defineColor name)⟩
  have hvalue : ' ' :: value = ' ' :: value' := List.append_cancel_left (List.append_cancel_right h)
  exact (List.cons.inj hvalue).2

/-- The sheet that the themes give to an id once its accent is `hex`. -/
def sheetOf (themes : ThemeTable) (id hex : CStr) : CStr :=
  defineColor "accent_bg_color".toList hex ++
    ((((themes.find id).map themeVars).getD []).flatMap fun row => defineColor row.1 row.2) ++ sidebarRules

theorem buildThemeVarsCss_setWindow {themes : ThemeTable} {id : CStr} {theme : ThemeData}
    (h : (themes.find id).map themeVars = some (themeVars theme)) (hex : CStr) :
    buildThemeVarsCss (theme.setWindow accentBgKey hex) = sheetOf themes id hex := by
  rw [buildThemeVarsCss, ThemeData.setWindow_accent, themeVars_setWindow, sheetOf, h,
    Option.getD_some]

/-- **Every accent shows.** -/
theorem sheetOf_inj {themes : ThemeTable} {id hex hex' : CStr} :
    sheetOf themes id hex = sheetOf themes id hex' ↔ hex = hex' := by
  refine ⟨fun h => ?_, congrArg (sheetOf themes id)⟩
  exact defineColor_inj.mp (List.append_cancel_right (List.append_cancel_right h))

/-! ## The table of sheets -/

/-- **`generate_theme_vars_css` looks the sheet up or builds it.** -/
theorem generateThemeVarsCss_eq (theme : ThemeData) (cache : CStr → Option CStr) :
    generateThemeVarsCss theme cache = memoFetch cache theme.id (buildThemeVarsCss theme) := by
  unfold generateThemeVarsCss memoFetch
  cases cache theme.id <;> rfl

namespace ThemeManager

variable {scale saved} {m : ThemeManager φ}

/-- The colours of the controller are all that changes. -/
theorem scheduleControllerUpdate_frame (m : ThemeManager φ) (colors : Palette) :
    ∃ hash update, m.scheduleControllerUpdate colors =
      { m with cachedControllerColorsHash := hash, controllerUpdate := update } := by
  unfold scheduleControllerUpdate
  dsimp only
  split
  · exact ⟨m.cachedControllerColorsHash, m.controllerUpdate, rfl⟩
  · exact ⟨_, _, rfl⟩

/-- **What `apply_theme` does in custom mode**: the theme gets the accent, and its sheet is fetched. -/
theorem applyTheme_eq (hmode : m.uiMode = 3) {themeId : CStr} {theme : ThemeData}
    (hfind : m.themes.find themeId = some theme) (accent : Rgba φ) :
    (m.applyTheme scale themeId accent).uiMode = 3 ∧
      (m.applyTheme scale themeId accent).themes =
        m.themes.modify themeId (fun t => t.setWindow accentBgKey (colorToHex scale accent))
          (fun t => t.setWindow_id accentBgKey _) ∧
      ((m.applyTheme scale themeId accent).currentThemeProvider,
          (m.applyTheme scale themeId accent).themeCssCache) =
        (memoFetch m.themeCssCache themeId
          (buildThemeVarsCss (theme.setWindow accentBgKey (colorToHex scale accent)))).map some id := by
  obtain rfl := m.themes.ids themeId theme hfind
  unfold applyTheme
  rw [if_neg (not_not.mpr hmode), hfind]
  dsimp only
  obtain ⟨hash, update, hframe⟩ := scheduleControllerUpdate_frame
    (applyInterfaceTheme scale
      { m with currentThemeId := theme.id, currentTheme := some theme.id, accentColor := accent,
               selectedAccentIndex := 0 } theme accent) theme.controllerPalette
  rw [hframe]
  unfold applyInterfaceTheme
  rw [if_neg (not_not.mpr hmode)]
  dsimp only [applyFullCss]
  rw [generateThemeVarsCss_eq]
  exact ⟨hmode, rfl, rfl⟩

/-- The accent that was passed is then the theme's. -/
theorem applyTheme_accent (hmode : m.uiMode = 3) {themeId : CStr} {theme : ThemeData}
    (hfind : m.themes.find themeId = some theme) (accent : Rgba φ) :
    ((m.applyTheme scale themeId accent).themes.find themeId).map ThemeData.accent =
      some (colorToHex scale accent) := by
  obtain ⟨-, hthemes, -⟩ := applyTheme_eq hmode hfind accent
  rw [hthemes, ThemeTable.find_modify, Function.update_self, hfind, Option.map_some, Option.map_some,
    ThemeData.setWindow_accent]

/-- An id that no theme has. -/
theorem applyTheme_unknown {themeId : CStr} (hfind : m.themes.find themeId = none) (accent : Rgba φ) :
    m.applyTheme scale themeId accent = m := by
  unfold applyTheme
  rw [hfind, ite_self]

theorem applyTheme_uiMode (m : ThemeManager φ) (hmode : m.uiMode = 3) (themeId : CStr) (accent : Rgba φ) :
    (m.applyTheme scale themeId accent).uiMode = 3 := by
  cases hfind : m.themes.find themeId with
  | none => rw [applyTheme_unknown hfind, hmode]
  | some theme => exact (applyTheme_eq hmode hfind accent).1

end ThemeManager

/-! ## Every call keeps the invariant -/

/-- **The invariant of the cached sheets.**  The themes show what `themes` show but for their accents, and
the table holds the sheets of the first accents. -/
structure ThemeInv (themes : ThemeTable) (history : List (MemoEvent CStr CStr)) (m : ThemeManager φ) :
    Prop where
  vars : ∀ id, (m.themes.find id).map themeVars = (themes.find id).map themeVars
  memo : Memoizes (sheetOf themes) history m.themeCssCache

theorem ThemeTable.modify_vars (themes : ThemeTable) (id : CStr) {f : ThemeData → ThemeData}
    (hf : ∀ theme, (f theme).id = theme.id) (hvars : ∀ theme, themeVars (f theme) = themeVars theme)
    (a : CStr) : ((themes.modify id f hf).find a).map themeVars = (themes.find a).map themeVars := by
  rw [ThemeTable.find_modify]
  by_cases ha : a = id
  · subst ha
    rw [Function.update_self, Option.map_map]
    exact congrArg (fun shown => (themes.find a).map shown) (funext hvars)
  · rw [Function.update_of_ne ha]

section Steps

variable {scale saved} {themes : ThemeTable} {history : List (MemoEvent CStr CStr)} {m : ThemeManager φ}

theorem ThemeInv.known (h : ThemeInv themes history m) (id : CStr) :
    (m.themes.find id).isSome = (themes.find id).isSome := by
  have hvars := congrArg Option.isSome (h.vars id)
  rwa [Option.isSome_map, Option.isSome_map] at hvars

/-- The sheet `apply_theme` fetches. -/
theorem ThemeInv.sheet (h : ThemeInv themes history m) {themeId : CStr} {theme : ThemeData}
    (hfind : m.themes.find themeId = some theme) (hex : CStr) :
    buildThemeVarsCss (theme.setWindow accentBgKey hex) = sheetOf themes themeId hex := by
  have hvars := h.vars themeId
  rw [hfind, Option.map_some] at hvars
  exact buildThemeVarsCss_setWindow hvars.symm hex

/-- **`apply_theme` is one fetch.** -/
theorem ThemeInv.applyTheme (h : ThemeInv themes history m) (hmode : m.uiMode = 3) (themeId : CStr)
    (accent : Rgba φ) :
    ThemeInv themes
      ((if (themes.find themeId).isSome then [.fetch themeId (colorToHex scale accent)] else []) ++ history)
      (m.applyTheme scale themeId accent) := by
  cases hfind : m.themes.find themeId with
  | none =>
      have hknown := h.known themeId
      rw [hfind] at hknown
      rw [ThemeManager.applyTheme_unknown hfind, if_neg (by rw [← hknown]; simp)]
      exact h
  | some theme =>
      have hknown := h.known themeId
      rw [hfind] at hknown
      obtain ⟨-, hthemes, hsheet⟩ := ThemeManager.applyTheme_eq hmode hfind accent
      rw [h.sheet hfind] at hsheet
      rw [← hknown]
      refine ⟨fun id => ?_, ?_⟩
      · rw [hthemes]
        exact (m.themes.modify_vars themeId _ (fun t => themeVars_setWindow t _) id).trans
          (h.vars id)
      · have hcache := congrArg Prod.snd hsheet
        dsimp only [Prod.map_snd, id_eq] at hcache
        rw [hcache]
        exact h.memo.fetch themeId (colorToHex scale accent)

/-- **When the sheet that `apply_theme` loads is right.** -/
theorem ThemeInv.applyTheme_right_iff (h : ThemeInv themes history m) (hmode : m.uiMode = 3)
    {themeId : CStr} (hknown : (m.themes.find themeId).isSome = true) (accent : Rgba φ) :
    (m.applyTheme scale themeId accent).SheetRight themeId ↔
      ∀ first ∈ firstFetch history themeId, first = colorToHex scale accent := by
  obtain ⟨theme, hfind⟩ := Option.isSome_iff_exists.mp hknown
  obtain ⟨-, hthemes, hsheet⟩ := ThemeManager.applyTheme_eq hmode hfind accent
  have hloaded := congrArg Prod.fst hsheet
  have hpresent : ((m.applyTheme scale themeId accent).themes.find themeId).map buildThemeVarsCss =
      some (buildThemeVarsCss (theme.setWindow accentBgKey (colorToHex scale accent))) := by
    rw [hthemes, ThemeTable.find_modify, Function.update_self, hfind]
    rfl
  dsimp only [Prod.map_fst] at hloaded
  rw [ThemeManager.SheetRight, hloaded, hpresent, Option.some_inj, h.sheet hfind,
    fetch_right_iff h.memo themeId (colorToHex scale accent)]
  exact forall₂_congr fun first _ => sheetOf_inj

/-- A call that applies a theme is `apply_theme`, possibly on entering custom mode. -/
theorem themeStep_of_applies {call : ThemeCall φ} {applied : CStr × Rgba φ}
    (happlies : call.applies saved m.uiMode = some applied) :
    ∃ entered : ThemeManager φ, entered.uiMode = 3 ∧ entered.themes = m.themes ∧
      entered.themeCssCache = m.themeCssCache ∧ call.modeAfter m.uiMode = 3 ∧
      themeStep scale saved m call = entered.applyTheme scale applied.1 applied.2 := by
  cases call with
  | applyTheme themeId accent =>
      obtain ⟨hmode, ⟨⟩⟩ := Option.ite_none_right_eq_some.mp happlies
      exact ⟨m, hmode, rfl, rfl, hmode, rfl⟩
  | setUiMode mode dark systemAccent =>
      obtain ⟨⟨hother, rfl⟩, ⟨⟩⟩ := Option.ite_none_right_eq_some.mp happlies
      refine ⟨{ m with uiMode := 3, accentOnlyProvider := none }, rfl, rfl, rfl, rfl, ?_⟩
      rw [themeStep, ThemeManager.setUiMode, if_neg hother, if_pos rfl]
  | applyAccentColor color index => cases happlies
  | clearCache => cases happlies
  | accentTimer => cases happlies

theorem event_apply (known : CStr → Bool) (uiMode : Int) (call : ThemeCall φ) (h : call ≠ .clearCache) :
    call.event scale saved known uiMode =
      ((call.applies saved uiMode).filter fun applied => known applied.1).map fun applied =>
        .fetch applied.1 (colorToHex scale applied.2) := by
  cases call with
  | clearCache => exact absurd rfl h
  | applyTheme themeId accent => rfl
  | applyAccentColor color index => rfl
  | setUiMode mode dark systemAccent => rfl
  | accentTimer => rfl

/-- Its event. -/
theorem event_of_applies (known : CStr → Bool) {uiMode : Int} {call : ThemeCall φ}
    {applied : CStr × Rgba φ} (happlies : call.applies saved uiMode = some applied) :
    (call.event scale saved known uiMode).toList =
      if known applied.1 then [.fetch applied.1 (colorToHex scale applied.2)] else [] := by
  have happly : call ≠ .clearCache := by
    rintro rfl
    cases happlies
  rw [event_apply known uiMode call happly, happlies]
  cases hknown : known applied.1 <;> simp [Option.filter, hknown]

/-- Only the themes and the table count. -/
theorem ThemeInv.of_eq (h : ThemeInv themes history m) {m' : ThemeManager φ}
    (hthemes : m'.themes = m.themes) (hcache : m'.themeCssCache = m.themeCssCache) :
    ThemeInv themes history m' where
  vars := hthemes ▸ h.vars
  memo := hcache ▸ h.memo

theorem setUiMode_leave {mode : Int} (hother : m.uiMode ≠ mode) (hleave : mode ≠ 3) (dark : Bool)
    (systemAccent : Option (Rgba φ)) :
    (m.setUiMode scale saved mode dark systemAccent).uiMode = mode ∧
      (m.setUiMode scale saved mode dark systemAccent).themes = m.themes ∧
      (m.setUiMode scale saved mode dark systemAccent).themeCssCache = m.themeCssCache := by
  rw [ThemeManager.setUiMode, if_neg hother, if_neg hleave]
  dsimp only [ThemeManager.updateControllerColorsByMode]
  obtain ⟨hash, update, hframe⟩ := ThemeManager.scheduleControllerUpdate_frame
    { m with
      uiMode := mode
      currentThemeProvider := none
      accentOnlyProvider := none
      isDark := decide (mode = 2) || decide (mode = 0) && dark
      accentColor := systemAccent.getD m.accentColor }
    (getControllerColorsForMode mode (if mode = 0 then dark else decide (mode = 2)))
  rw [hframe]
  exact ⟨rfl, rfl, rfl⟩

theorem ThemeInv.applyAccentColor (h : ThemeInv themes history m) (color : Rgba φ) (index : Int) :
    ThemeInv themes history (m.applyAccentColor scale color index) ∧
      (m.applyAccentColor scale color index).uiMode = m.uiMode := by
  unfold ThemeManager.applyAccentColor
  split_ifs with hmode
  · exact ⟨h, rfl⟩
  refine ⟨⟨fun id => ?_, h.memo⟩, rfl⟩
  cases hcurrent : m.currentTheme with
  | none => exact h.vars id
  | some current =>
      exact (m.themes.modify_vars current (fun t => ThemeManager.recolour_id _ index t)
        (themeVars_recolour _ index) id).trans (h.vars id)

theorem ThemeInv.accentTimer (h : ThemeInv themes history m) :
    ThemeInv themes history m.accentTimer ∧ m.accentTimer.uiMode = m.uiMode := by
  unfold ThemeManager.accentTimer
  split
  · exact ⟨h, rfl⟩
  · split_ifs with hmode
    · exact ⟨h.of_eq rfl rfl, rfl⟩
    · exact ⟨h.of_eq rfl rfl, rfl⟩

/-- **A call that applies no theme** leaves what the themes show. -/
theorem ThemeInv.idle (h : ThemeInv themes history m) {call : ThemeCall φ} (known : CStr → Bool)
    (hidle : call.applies saved m.uiMode = none) :
    ThemeInv themes ((call.event scale saved known m.uiMode).toList ++ history)
        (themeStep scale saved m call) ∧
      (themeStep scale saved m call).uiMode = call.modeAfter m.uiMode := by
  cases call with
  | applyTheme themeId accent =>
      have houtside : m.uiMode ≠ 3 := fun hmode => by
        rw [ThemeCall.applies, if_pos hmode] at hidle
        cases hidle
      rw [event_apply known _ (.applyTheme themeId accent) nofun, hidle, themeStep,
        ThemeManager.applyTheme, if_pos houtside]
      exact ⟨h, rfl⟩
  | applyAccentColor color index => exact h.applyAccentColor color index
  | setUiMode mode dark systemAccent =>
      rw [event_apply known _ (.setUiMode mode dark systemAccent) nofun, hidle, themeStep]
      by_cases hsame : m.uiMode = mode
      · rw [ThemeManager.setUiMode, if_pos hsame]
        exact ⟨h, hsame⟩
      · have hleave : mode ≠ 3 := fun hmode => by
          rw [ThemeCall.applies, if_pos ⟨hsame, hmode⟩] at hidle
          cases hidle
        obtain ⟨hmode, hthemes, hcache⟩ := setUiMode_leave hsame hleave dark systemAccent
        exact ⟨h.of_eq hthemes hcache, hmode⟩
  | clearCache => exact ⟨⟨h.vars, memoizes_clear history⟩, rfl⟩
  | accentTimer => exact h.accentTimer

/-- **Every call keeps the invariant.** -/
theorem ThemeInv.step (h : ThemeInv themes history m) (call : ThemeCall φ) :
    ThemeInv themes
        ((call.event scale saved (fun id => (themes.find id).isSome) m.uiMode).toList ++ history)
        (themeStep scale saved m call) ∧
      (themeStep scale saved m call).uiMode = call.modeAfter m.uiMode := by
  cases happlies : call.applies saved m.uiMode with
  | none => exact h.idle _ happlies
  | some applied =>
      obtain ⟨entered, hmode, hthemes, hcache, hafter, hstep⟩ := themeStep_of_applies happlies
      rw [event_of_applies _ happlies, hstep, hafter]
      exact ⟨(h.of_eq hthemes hcache).applyTheme hmode applied.1 applied.2,
        entered.applyTheme_uiMode hmode applied.1 applied.2⟩

/-- **When the sheet that a call loads is right.** -/
theorem ThemeInv.right_iff (h : ThemeInv themes history m) {call : ThemeCall φ} {applied : CStr × Rgba φ}
    (happlies : call.applies saved m.uiMode = some applied)
    (hknown : (m.themes.find applied.1).isSome = true) :
    (themeStep scale saved m call).SheetRight applied.1 ↔
      ∀ first ∈ firstFetch history applied.1, first = colorToHex scale applied.2 := by
  obtain ⟨entered, hmode, hthemes, hcache, -, hstep⟩ := themeStep_of_applies happlies
  rw [hstep]
  exact (h.of_eq hthemes hcache).applyTheme_right_iff hmode (hthemes ▸ hknown) applied.2

end Steps

/-! ## Runs -/

variable {scale saved}

theorem ThemeInv.run_iff {themes : ThemeTable} (calls : List (ThemeCall φ)) :
    ∀ {history : List (MemoEvent CStr CStr)} {m : ThemeManager φ}, ThemeInv themes history m →
      (LoadsRight scale saved calls m ↔
        AccentsKept scale saved (fun id => (themes.find id).isSome) calls m.uiMode history) := by
  induction calls with
  | nil => exact fun _ => Iff.rfl
  | cons call calls ih =>
      intro history m h
      obtain ⟨hstep, hmode⟩ : _ ∧ (themeStep scale saved m call).uiMode = _ := h.step call
      rw [LoadsRight, AccentsKept, ih hstep, hmode]
      refine and_congr_left fun _ => forall₂_congr fun applied happlies => ?_
      rw [h.known applied.1]
      exact imp_congr_right fun hknown => h.right_iff happlies ((h.known applied.1).trans hknown)

/-- **A manager that has no sheet yet.** -/
theorem ThemeInv.start {m : ThemeManager φ} (hcache : m.themeCssCache = fun _ => none) :
    ThemeInv m.themes [] m where
  vars := fun _ => rfl
  memo := fun id => by rw [hcache]; rfl

/-- **When every sheet is right**: in a run from a manager that has no sheet yet, `apply_full_css` always
loads the sheet of the theme's present values exactly when every theme keeps its accent until
`clear_cache`. -/
theorem loadsRight_iff (m : ThemeManager φ) (hcache : m.themeCssCache = fun _ => none)
    (calls : List (ThemeCall φ)) :
    LoadsRight scale saved calls m ↔
      AccentsKept scale saved (fun id => (m.themes.find id).isSome) calls m.uiMode [] :=
  (ThemeInv.start hcache).run_iff calls

end Manager

/-! ## A theme with two accents -/

/-- `(int)(x * 255)` where `x` is 0 or 1. -/
def wholeScale (x : Int) : Int := x * 255

def red : Rgba Int := ⟨1, 0, 0, 1⟩

def blue : Rgba Int := ⟨0, 0, 1, 1⟩

/-- A theme that leaves every value to its default. -/
def lightTheme : ThemeData where
  id := "light".toList
  themeType := "light".toList
  thumbnailAccent := "#3584e4".toList
  thumbnailText := "#2e3436".toList
  palette := ["#3584e4".toList]
  window := fun _ => none
  controller := ⟨none, none, none, none⟩

/-- A manager with that theme, before it enters custom mode. -/
def lightManager : ThemeManager Int where
  uiMode := 0
  isDark := false
  themes :=
    { find := fun id => if id = lightTheme.id then some lightTheme else none
      ids := fun id theme h => by
        obtain ⟨rfl, ⟨⟩⟩ := Option.ite_none_right_eq_some.mp h
        rfl }
  currentThemeId := "light".toList
  currentTheme := none
  accentColor := blue
  selectedAccentIndex := 0
  themeCssCache := fun _ => none
  currentThemeProvider := none
  accentOnlyProvider := none
  interfaceUpdate := none
  cachedControllerColorsHash := []
  controllerUpdate := none

/-- **The second accent is not shown.** -/
theorem lightManager_keeps_red :
    ¬LoadsRight wholeScale blue
      [.applyTheme lightTheme.id red, .applyTheme lightTheme.id blue]
      { lightManager with uiMode := 3 } := by
  intro h
  obtain ⟨-, hsecond, -⟩ := (ThemeInv.run_iff _ (ThemeInv.start rfl)).mp h
  have hkept : colorToHex wholeScale red = colorToHex wholeScale blue :=
    hsecond (lightTheme.id, blue) rfl rfl _ rfl
  exact absurd hkept (by decide)

theorem loadsRight_iff_lightManager :
    LoadsRight wholeScale blue
      [.setUiMode 3 false none, .applyAccentColor red 0, .clearCache, .applyTheme lightTheme.id red]
      lightManager := by
  refine (loadsRight_iff lightManager rfl _).mpr ⟨?_, ?_, ?_, ?_, trivial⟩
  · rintro applied - - first ⟨⟩
  · rintro applied ⟨⟩
  · rintro applied ⟨⟩
  · rintro applied - - first ⟨⟩

end Dstx
