/-
# Dstx.Gui.SettingsManager — the GUI's own settings (`settings-manager.vala`).

The settings are the members of one JSON object.  A getter reads a member with the conversions of JSON-GLib
and falls back to a default; a setter does nothing where the getter already answers its value, and else
changes the member and arms ONE save timer; the timer, or `sync`, writes the file.  The process may end
between a change and its save, and a file may have been edited by hand.

`Memory` is what the object MEANS: the value of each preference, the recent colours and the accent colour.
`Kept` is the abstract store: what the getters answer now, and what they would answer after a restart.
`settings_kept` says that the manager is this store, over every run with saves, failing saves and restarts at
any moment, and that the two agree whenever no save is pending.
-/
import Dstx.Lib.CText
import Dstx.Lib.Fs
import Dstx.Lib.Run
import Dstx.Lib.WriteBehind
import Mathlib.Algebra.Ring.Nat

namespace Dstx

open Dstx.Lib

/-! ## JSON-GLib -/

/-- A JSON node. -/
inductive JsonNode where
  | null
  | int (v : Int64)
  | double (v : Float)
  | boolean (v : Bool)
  | string (s : CStr)
  | array (elements : List JsonNode)
  | object (members : List (String × JsonNode))

/-- A JSON object: its members, each name once. -/
abbrev JsonObject := List (String × JsonNode)

namespace JsonNode

/-- `get_node_type() == Json.NodeType.VALUE`. -/
def isValue : JsonNode → Bool
  | .int _ | .double _ | .boolean _ | .string _ => true
  | _ => false

/-- `get_int`. -/
def getInt : JsonNode → Int64
  | .int v => v
  | .double v => v.toInt64
  | .boolean v => if v then 1 else 0
  | _ => 0

/-- `get_boolean`. -/
def getBoolean : JsonNode → Bool
  | .boolean v => v
  | .int v => v != 0
  | .double v => v != 0
  | _ => false

/-- `get_double`. -/
def getDouble : JsonNode → Float
  | .double v => v
  | .int v => Float.ofInt v.toInt
  | .boolean v => if v then 1 else 0
  | _ => 0

/-- `get_string`; `none` is the null string. -/
def getString : JsonNode → Option CStr
  | .string s => some s
  | _ => none

end JsonNode

/-- `get_member`. -/
def getMember (key : String) : JsonObject → Option JsonNode
  | [] => none
  | member :: rest => if member.1 = key then some member.2 else getMember key rest

/-- `set_member`: a known member is replaced where it is, a new one comes last. -/
def setMember (key : String) (node : JsonNode) : JsonObject → JsonObject
  | [] => [(key, node)]
  | member :: rest => if member.1 = key then (key, node) :: rest else member :: setMember key node rest

theorem getMember_setMember (obj : JsonObject) (key key' : String) (node : JsonNode) :
    getMember key' (setMember key node obj) = if key = key' then some node else getMember key' obj := by
  induction obj with
  | nil => rfl
  | cons member rest ih =>
      unfold setMember
      split
      · rename_i hmember
        subst hmember
        simp only [getMember]
        split <;> rfl
      · rename_i hmember
        simp only [getMember, ih]
        split
        · rename_i hkey
          rw [if_neg fun h => hmember (hkey.trans h.symm)]
        · rfl

/-- **JSON-GLib's generator and parser** over file contents `Text`: an object that was written is read
back. -/
structure Json (Text : Type) where
  print : JsonObject → Text
  parse : Text → Option JsonNode
  parse_print : ∀ obj, parse (print obj) = some (.object obj)

/-! ## The preferences -/

/-- The preferences that have a getter and a setter of their own. -/
inductive Pref where
  | theme
  | language
  | autoStart
  | notifyConnect
  | notifyBattery
  | notifyUpdate
  | sidebarLeftVisible
  | customTheme
  | customThemeName
  | customAccentIndex
  | windowWidth
  | windowHeight
  | windowMaximized
  deriving DecidableEq

/-- A value of a preference; a null string is `string none`. -/
inductive PrefValue where
  | int (v : Int32)
  | bool (v : Bool)
  | string (s : Option CStr)
  deriving DecidableEq

/-- The type of a preference. -/
inductive PrefKind where
  | int
  | bool
  | string
  deriving DecidableEq

/-- `get_int`, `get_bool` and `get_string` on a node that is a value. -/
def PrefKind.read (kind : PrefKind) (node : JsonNode) : PrefValue :=
  match kind with
  | .int => .int node.getInt.toInt32
  | .bool => .bool node.getBoolean
  | .string => .string node.getString

/-- The node that `set_int`, `set_bool` and `set_string` store. -/
def PrefValue.node : PrefValue → JsonNode
  | .int v => .int v.toInt64
  | .bool v => .boolean v
  | .string (some s) => .string s
  | .string none => .null

/-- A value the setters of this type take: a string is not null. -/
def PrefKind.Takes : PrefKind → PrefValue → Prop
  | .int, .int _ => True
  | .bool, .bool _ => True
  | .string, .string (some _) => True
  | _, _ => False

instance (kind : PrefKind) (v : PrefValue) : Decidable (kind.Takes v) := by
  unfold PrefKind.Takes
  split <;> infer_instance

namespace Pref

/-- The name of the member. -/
def key : Pref → String
  | .theme => "theme"
  | .language => "language"
  | .autoStart => "auto_start"
  | .notifyConnect => "notify_connect"
  | .notifyBattery => "notify_battery"
  | .notifyUpdate => "notify_update"
  | .sidebarLeftVisible => "sidebar_left_visible"
  | .customTheme => "custom_theme"
  | .customThemeName => "custom_theme_name"
  | .customAccentIndex => "custom_accent_index"
  | .windowWidth => "window_width"
  | .windowHeight => "window_height"
  | .windowMaximized => "window_maximized"

/-- The default. -/
def default : Pref → PrefValue
  | .theme => .int 0
  | .language => .int 0
  | .autoStart => .bool true
  | .notifyConnect => .bool true
  | .notifyBattery => .bool true
  | .notifyUpdate => .bool true
  | .sidebarLeftVisible => .bool true
  | .customTheme => .string (some "light".toList)
  | .customThemeName => .string (some "Light".toList)
  | .customAccentIndex => .int 0
  | .windowWidth => .int 1200
  | .windowHeight => .int 800
  | .windowMaximized => .bool false

/-- The type. -/
def kind : Pref → PrefKind
  | .theme | .language | .customAccentIndex | .windowWidth | .windowHeight => .int
  | .autoStart | .notifyConnect | .notifyBattery | .notifyUpdate | .sidebarLeftVisible
  | .windowMaximized => .bool
  | .customTheme | .customThemeName => .string

theorem key_injective {p q : Pref} (h : p.key = q.key) : p = q := by
  cases p <;> cases q <;> first | rfl | exact absurd h (by decide)

end Pref

/-- **The getter of a preference.** -/
def getPref (p : Pref) (obj : JsonObject) : PrefValue :=
  match getMember p.key obj with
  | some node => if node.isValue then p.kind.read node else p.default
  | none => p.default

/-- What a setter stores is what the getter reads. -/
theorem read_node {kind : PrefKind} {v : PrefValue} (h : kind.Takes v) :
    v.node.isValue = true ∧ kind.read v.node = v := by
  match kind, v, h with
  | .int, .int v, _ => exact ⟨rfl, by simp [PrefKind.read, PrefValue.node, JsonNode.getInt]⟩
  | .bool, .bool v, _ => exact ⟨rfl, rfl⟩
  | .string, .string (some s), _ => exact ⟨rfl, rfl⟩

/-! ## Colours -/

/-- `Gdk.RGBA`; the manager's colours are opaque. -/
structure RgbaColor where
  red : Float32
  green : Float32
  blue : Float32

namespace RgbaColor

/-- The components as bytes: `(uint8)(component * 255)`. -/
def bytes (c : RgbaColor) : UInt8 × UInt8 × UInt8 :=
  ((c.red * 255).toUInt8, (c.green * 255).toUInt8, (c.blue * 255).toUInt8)

/-- The colour of three bytes. -/
def ofBytes (r g b : Nat) : RgbaColor where
  red := Float32.ofNat r / 255
  green := Float32.ofNat g / 255
  blue := Float32.ofNat b / 255

/-- A colour as it comes back from its bytes. -/
def rounded (c : RgbaColor) : RgbaColor := ofBytes c.bytes.1.toNat c.bytes.2.1.toNat c.bytes.2.2.toNat

/-- A colour as it comes back from three doubles. -/
def widened (c : RgbaColor) : RgbaColor where
  red := c.red.toFloat.toFloat32
  green := c.green.toFloat.toFloat32
  blue := c.blue.toFloat.toFloat32

/-- The tolerance of `set_custom_accent_color`: no component differs by 0.01. -/
def Near (current color : RgbaColor) : Prop :=
  (current.red - color.red).toFloat.abs < 0.01 ∧ (current.green - color.green).toFloat.abs < 0.01 ∧
    (current.blue - color.blue).toFloat.abs < 0.01

instance (current color : RgbaColor) : Decidable (current.Near color) :=
  inferInstanceAs (Decidable (_ ∧ _))

end RgbaColor

/-- One digit of `%X`. -/
def hexDigit (n : Nat) : Char := "0123456789ABCDEF".toList.getD n '0'

/-- `%02X`. -/
def byteToHex (b : UInt8) : CStr := [hexDigit (b.toNat / 16), hexDigit (b.toNat % 16)]

/-- `color_to_hex`. -/
def recentColorToHex (c : RgbaColor) : CStr :=
  '#' :: (byteToHex c.bytes.1 ++ byteToHex c.bytes.2.1 ++ byteToHex c.bytes.2.2)

/-- One round of the loop of `parse_hex_color`. -/
def hexStep (rgb : UInt32) (c : Char) : Option UInt32 :=
  (hexVal c).map fun v => rgb <<< 4 ||| UInt32.ofNat v

/-- **`parse_hex_color`**. -/
def parseHexColor (hex : CStr) : Option RgbaColor :=
  let h := if hex.head? = some '#' then hex.drop 1 else hex
  if h.length ≠ 6 then none
  else
    (h.foldlM hexStep 0).map fun (rgb : UInt32) =>
      RgbaColor.ofBytes ((rgb >>> 16) &&& 0xFF).toNat ((rgb >>> 8) &&& 0xFF).toNat (rgb &&& 0xFF).toNat

/-- `get_string_list`. -/
def getStringList (key : String) (obj : JsonObject) : List (Option CStr) :=
  match getMember key obj with
  | some (.array elements) => (elements.filter JsonNode.isValue).map JsonNode.getString
  | _ => []

/-- **`get_recent_colors`**: what is no colour is left out. -/
def getRecentColors (obj : JsonObject) : List RgbaColor :=
  (getStringList "recent_colors" obj).filterMap fun hex => hex.bind parseHexColor

/-- The member that `set_recent_colors` stores. -/
def recentColorsNode (colors : List RgbaColor) : JsonNode :=
  .array (colors.map fun c => .string (recentColorToHex c))

theorem hexVal_hexDigit : ∀ n : Fin 16, hexVal (hexDigit n.val) = some n.val := by decide

/-- A digit is appended to the number. -/
theorem toNat_hexStep {rgb rgb' : UInt32} {n : Nat} (hrgb : rgb.toNat < 2 ^ 28) (hn : n < 16)
    (h : hexStep rgb (hexDigit n) = some rgb') : rgb'.toNat = 16 * rgb.toNat + n := by
  have hval : hexVal (hexDigit n) = some n := hexVal_hexDigit ⟨n, hn⟩
  simp only [hexStep, hval, Option.map_some, Option.some.injEq] at h
  subst h
  have hshift : (rgb <<< 4).toNat = rgb.toNat <<< 4 := by
    rw [UInt32.toNat_shiftLeft]
    refine Nat.mod_eq_of_lt ?_
    rw [Nat.shiftLeft_eq]
    simp
    omega
  have hdigit : (UInt32.ofNat n).toNat = n := UInt32.toNat_ofNat_of_lt' (by simp [UInt32.size]; omega)
  rw [UInt32.toNat_or, hshift, hdigit, ← Nat.shiftLeft_add_eq_or_of_lt (by omega), Nat.shiftLeft_eq]
  omega

/-- Two digits append a byte. -/
theorem foldlM_byteToHex (rgb : UInt32) (hrgb : rgb.toNat < 2 ^ 24) (b : UInt8) :
    ∃ rgb' : UInt32, (byteToHex b).foldlM hexStep rgb = some rgb' ∧ rgb'.toNat = 256 * rgb.toNat + b.toNat := by
  have hb := b.toNat_lt
  have hstep (r : UInt32) (n : Nat) (hn : n < 16) : ∃ r', hexStep r (hexDigit n) = some r' := by
    have hval : hexVal (hexDigit n) = some n := hexVal_hexDigit ⟨n, hn⟩
    exact ⟨_, by rw [hexStep, hval, Option.map_some]⟩
  obtain ⟨high, hhigh⟩ := hstep rgb (b.toNat / 16) (by omega)
  obtain ⟨low, hlow⟩ := hstep high (b.toNat % 16) (by omega)
  have h1 := toNat_hexStep (by omega) (by omega) hhigh
  have h2 := toNat_hexStep (by omega) (by omega) hlow
  refine ⟨low, ?_, by omega⟩
  simp [byteToHex, List.foldlM_cons, hhigh, hlow]

/-- **A colour comes back from its hexadecimal form as the colour of its bytes.** -/
theorem parseHexColor_recentColorToHex (c : RgbaColor) : parseHexColor (recentColorToHex c) = some c.rounded := by
  obtain ⟨r, hr, hrn⟩ := foldlM_byteToHex 0 (by decide) c.bytes.1
  have hrb := c.bytes.1.toNat_lt
  have hgb := c.bytes.2.1.toNat_lt
  have hbb := c.bytes.2.2.toNat_lt
  simp only [UInt32.toNat_zero] at hrn
  obtain ⟨rg, hrg, hrgn⟩ := foldlM_byteToHex r (by omega) c.bytes.2.1
  obtain ⟨rgb, hrgb, hrgbn⟩ := foldlM_byteToHex rg (by omega) c.bytes.2.2
  have hfold : (byteToHex c.bytes.1 ++ byteToHex c.bytes.2.1 ++ byteToHex c.bytes.2.2).foldlM hexStep 0 = some rgb := by
    simp [List.foldlM_append, hr, hrg, hrgb]
  have hmask (n : Nat) : n &&& 255 = n % 256 := Nat.and_two_pow_sub_one_eq_mod n 8
  have h16 : ((rgb >>> 16) &&& 0xFF).toNat = c.bytes.1.toNat := by
    rw [UInt32.toNat_and, UInt32.toNat_shiftRight]
    simp only [UInt32.reduceToNat, Nat.reduceMod, hmask, Nat.shiftRight_eq_div_pow]
    omega
  have h8 : ((rgb >>> 8) &&& 0xFF).toNat = c.bytes.2.1.toNat := by
    rw [UInt32.toNat_and, UInt32.toNat_shiftRight]
    simp only [UInt32.reduceToNat, Nat.reduceMod, hmask, Nat.shiftRight_eq_div_pow]
    omega
  have h0 : (rgb &&& 0xFF).toNat = c.bytes.2.2.toNat := by
    rw [UInt32.toNat_and]
    simp only [UInt32.reduceToNat, hmask]
    omega
  have hlength : (byteToHex c.bytes.1 ++ byteToHex c.bytes.2.1 ++ byteToHex c.bytes.2.2).length = 6 := rfl
  simp only [parseHexColor, recentColorToHex, List.head?_cons, if_true, List.drop_succ_cons, List.drop_zero, hlength,
    ne_eq, not_true_eq_false, if_false, hfold, Option.map_some, h16, h8, h0]
  rfl

/-- The recent colours come back as the colours of their bytes. -/
theorem getRecentColors_setMember (obj : JsonObject) (colors : List RgbaColor) :
    getRecentColors (setMember "recent_colors" (recentColorsNode colors) obj) = colors.map RgbaColor.rounded := by
  simp only [getRecentColors, getStringList, getMember_setMember, if_true, recentColorsNode]
  induction colors with
  | nil => rfl
  | cons c cs ih =>
      simp only [List.map_cons, List.filter_cons, JsonNode.isValue, if_true, JsonNode.getString,
        List.filterMap_cons, Option.bind_some, parseHexColor_recentColorToHex]
      rw [ih]

/-- `DEFAULT_ACCENT_R`, `DEFAULT_ACCENT_G`, `DEFAULT_ACCENT_B`. -/
def defaultAccent : Float × Float × Float := (0.2, 0.5, 0.8)

/-- `get_double`, and the conversion to a component. -/
def accentComponent (key : String) (default : Float) (obj : JsonObject) : Float32 :=
  match getMember key obj with
  | some node => if node.isValue then node.getDouble.toFloat32 else default.toFloat32
  | none => default.toFloat32

/-- **`get_custom_accent_color`**. -/
def getCustomAccentColor (obj : JsonObject) : RgbaColor where
  red := accentComponent "custom_accent_r" defaultAccent.1 obj
  green := accentComponent "custom_accent_g" defaultAccent.2.1 obj
  blue := accentComponent "custom_accent_b" defaultAccent.2.2 obj

/-! ## The manager -/

/-- The signals of the settings manager. -/
inductive SettingsSignal where
  | themeChanged (mode : PrefValue)
  | languageChanged (id : PrefValue)
  | accentColorChanged (color : RgbaColor)

/-- **The settings manager**: the object, is the save timer armed, the file, and the signals emitted.
`saveFailed` is history: the last save failed. -/
structure SettingsManager (Text : Type) where
  settings : JsonObject
  saveTimeout : Bool
  file : Option Text
  saveFailed : Bool
  signals : List SettingsSignal

/-- `create_default_settings`, the members it sets in order. -/
def defaultMembers : List (String × JsonNode) :=
  [(Pref.theme.key, Pref.theme.default.node),
    (Pref.language.key, Pref.language.default.node),
    (Pref.autoStart.key, Pref.autoStart.default.node),
    (Pref.notifyConnect.key, Pref.notifyConnect.default.node),
    (Pref.notifyBattery.key, Pref.notifyBattery.default.node),
    (Pref.notifyUpdate.key, Pref.notifyUpdate.default.node),
    (Pref.sidebarLeftVisible.key, Pref.sidebarLeftVisible.default.node),
    (Pref.customTheme.key, Pref.customTheme.default.node),
    (Pref.customThemeName.key, Pref.customThemeName.default.node),
    (Pref.customAccentIndex.key, Pref.customAccentIndex.default.node),
    ("custom_accent_r", .double defaultAccent.1),
    ("custom_accent_g", .double defaultAccent.2.1),
    ("custom_accent_b", .double defaultAccent.2.2),
    (Pref.windowWidth.key, Pref.windowWidth.default.node),
    (Pref.windowHeight.key, Pref.windowHeight.default.node),
    (Pref.windowMaximized.key, Pref.windowMaximized.default.node)]

/-- The object `create_default_settings` builds. -/
def defaultSettings : JsonObject := defaultMembers.foldl (fun obj member => setMember member.1 member.2 obj) []

section

variable {Text : Type} (J : Json Text)

/-- The object of a file; `none` where it is missing, is no JSON, or is no object. -/
def readObject (file : Option Text) : Option JsonObject :=
  match file.bind J.parse with
  | some (.object members) => some members
  | _ => none

/-- **`load`** of a new manager: defaults are created, and saved, where the file gives no object. -/
def startManager (file : Option Text) : SettingsManager Text where
  settings := (readObject J file).getD defaultSettings
  saveTimeout := (readObject J file).isNone
  file := file
  saveFailed := false
  signals := []

namespace SettingsManager

/-- The end of `set_int`, `set_bool`, `set_string` and `set_string_list`: `save` arms the timer again. -/
def put (key : String) (node : JsonNode) (m : SettingsManager Text) : SettingsManager Text :=
  { m with settings := setMember key node m.settings, saveTimeout := true }

/-- `perform_save`, for `sync` and for the timer; `ok` is whether the file was written. -/
def performSave (ok : Bool) (m : SettingsManager Text) : SettingsManager Text :=
  if ok then { m with file := some (J.print m.settings), saveTimeout := false, saveFailed := false }
  else { m with saveTimeout := false, saveFailed := true }

/-- A signal is emitted. -/
def emit (signal : SettingsSignal) (m : SettingsManager Text) : SettingsManager Text :=
  { m with signals := m.signals ++ [signal] }

/-- **The setter of a preference**; the theme and the language have a signal. -/
def setPref (p : Pref) (v : PrefValue) (m : SettingsManager Text) : SettingsManager Text :=
  if getPref p m.settings = v then m
  else
    let m := m.put p.key v.node
    match p with
    | .theme => m.emit (.themeChanged v)
    | .language => m.emit (.languageChanged v)
    | _ => m

/-- `set_custom_accent_color`: a colour that is close enough is not stored. -/
def setCustomAccentColor (color : RgbaColor) (m : SettingsManager Text) : SettingsManager Text :=
  if (getCustomAccentColor m.settings).Near color then m
  else
    (((m.put "custom_accent_r" (.double color.red.toFloat)).put "custom_accent_g"
      (.double color.green.toFloat)).put "custom_accent_b" (.double color.blue.toFloat)).emit
        (.accentColorChanged color)

/-- `set_recent_colors`, and `clear_recent_colors` on no colours. -/
def setRecentColors (colors : List RgbaColor) (m : SettingsManager Text) : SettingsManager Text :=
  m.put "recent_colors" (recentColorsNode colors)

end SettingsManager

end

/-- **What happens to the settings.** -/
inductive SettingsMove where
  | set (p : Pref) (v : PrefValue)
  | setCustomAccentColor (color : RgbaColor)
  | setRecentColors (colors : List RgbaColor)
  /-- The save timer goes off. -/
  | saveTimer (ok : Bool)
  | sync (ok : Bool)
  /-- The process ends, as it is, and another one starts. -/
  | restart

/-- **One step of the settings manager.** -/
def settingsStep {Text : Type} (J : Json Text) (move : SettingsMove) (m : SettingsManager Text) :
    Option (SettingsManager Text) :=
  match move with
  | .set p v => if p.kind.Takes v then some (m.setPref p v) else none
  | .setCustomAccentColor color => some (m.setCustomAccentColor color)
  | .setRecentColors colors => some (m.setRecentColors colors)
  | .saveTimer ok => if m.saveTimeout then some (m.performSave J ok) else none
  | .sync ok => some (m.performSave J ok)
  | .restart => some (startManager J m.file)

/-! ## The abstract store -/

/-- **What the settings mean**: the value of each preference, the recent colours and the accent colour. -/
@[ext] structure Memory where
  prefs : Pref → PrefValue
  recentColors : List RgbaColor
  accent : RgbaColor

namespace Memory

/-- A preference gets a value. -/
def setPref (p : Pref) (v : PrefValue) (memory : Memory) : Memory :=
  { memory with prefs := Function.update memory.prefs p v }

/-- The recent colours are replaced, by the colours of their bytes. -/
def setRecentColors (colors : List RgbaColor) (memory : Memory) : Memory :=
  { memory with recentColors := colors.map RgbaColor.rounded }

/-- The accent colour is replaced, unless it is close enough. -/
def setAccent (color : RgbaColor) (memory : Memory) : Memory :=
  if memory.accent.Near color then memory else { memory with accent := color.widened }

theorem setAccent_prefs (color : RgbaColor) (memory : Memory) : (memory.setAccent color).prefs = memory.prefs := by
  unfold setAccent
  split <;> rfl

end Memory

/-- What the getters answer on an object. -/
def memory (obj : JsonObject) : Memory where
  prefs p := getPref p obj
  recentColors := getRecentColors obj
  accent := getCustomAccentColor obj

/-- **The abstract store**: what the getters answer now, and what they would answer after a restart. -/
structure Kept where
  current : Memory
  saved : Memory

/-- **One step of the abstract store**: setters change what is current, saves keep it, a restart goes back to
what was kept. -/
def keptStep (kept : Kept) : SettingsMove → Kept
  | .set p v => { kept with current := kept.current.setPref p v }
  | .setCustomAccentColor color => { kept with current := kept.current.setAccent color }
  | .setRecentColors colors => { kept with current := kept.current.setRecentColors colors }
  | .saveTimer ok | .sync ok => if ok then { kept with saved := kept.current } else kept
  | .restart => { kept with current := kept.saved }

/-! ### Members -/

/-- No preference is stored under the name. -/
def Free (key : String) : Prop := ∀ p : Pref, key ≠ p.key

instance (key : String) : Decidable (Free key) :=
  decidable_of_iff
    (∀ p ∈ [Pref.theme, .language, .autoStart, .notifyConnect, .notifyBattery, .notifyUpdate,
      .sidebarLeftVisible, .customTheme, .customThemeName, .customAccentIndex, .windowWidth, .windowHeight,
      .windowMaximized], key ≠ p.key)
    ⟨fun h p => h p (by cases p <;> decide), fun h p _ => h p⟩

/-- A member of another name changes no preference. -/
theorem prefs_setMember_free {key : String} (h : Free key) (node : JsonNode) (obj : JsonObject) :
    (memory (setMember key node obj)).prefs = (memory obj).prefs := by
  funext p
  simp only [memory, getPref, getMember_setMember, if_neg (h p)]

/-- Only its own member changes the recent colours. -/
theorem recentColors_setMember {key : String} (h : key ≠ "recent_colors") (node : JsonNode) (obj : JsonObject) :
    (memory (setMember key node obj)).recentColors = (memory obj).recentColors := by
  simp only [memory, getRecentColors, getStringList, getMember_setMember, if_neg h]

/-- The members of the accent colour. -/
def accentKeys : List String := ["custom_accent_r", "custom_accent_g", "custom_accent_b"]

/-- Only its own members change the accent colour. -/
theorem accent_setMember {key : String} (h : key ∉ accentKeys) (node : JsonNode) (obj : JsonObject) :
    (memory (setMember key node obj)).accent = (memory obj).accent := by
  simp only [accentKeys, List.mem_cons, List.not_mem_nil, or_false, not_or] at h
  simp only [memory, getCustomAccentColor, accentComponent, getMember_setMember, if_neg h.1, if_neg h.2.1,
    if_neg h.2.2]

/-- **The member of a preference is that preference.** -/
theorem memory_setMember_pref {p : Pref} {v : PrefValue} (h : p.kind.Takes v) (obj : JsonObject) :
    memory (setMember p.key v.node obj) = (memory obj).setPref p v := by
  obtain ⟨hvalue, hread⟩ := read_node h
  refine Memory.ext ?_ (recentColors_setMember (by cases p <;> decide) _ _)
    (accent_setMember (by cases p <;> decide) _ _)
  funext q
  show getPref q (setMember p.key v.node obj) = Function.update (memory obj).prefs p v q
  by_cases hq : q = p
  · subst hq
    simp [getPref, getMember_setMember, hvalue, hread]
  · have hkey : p.key ≠ q.key := fun hkey => hq (Pref.key_injective hkey).symm
    rw [Function.update_of_ne hq]
    simp only [memory, getPref, getMember_setMember, if_neg hkey]

theorem memory_setRecentColors (colors : List RgbaColor) (obj : JsonObject) :
    memory (setMember "recent_colors" (recentColorsNode colors) obj) = (memory obj).setRecentColors colors :=
  Memory.ext (prefs_setMember_free (by decide) _ _) (getRecentColors_setMember obj colors)
    (accent_setMember (by decide) _ _)

/-- The object after a new accent colour was stored. -/
def storeAccent (color : RgbaColor) (obj : JsonObject) : JsonObject :=
  setMember "custom_accent_b" (.double color.blue.toFloat)
    (setMember "custom_accent_g" (.double color.green.toFloat)
      (setMember "custom_accent_r" (.double color.red.toFloat) obj))

/-- **The three members of the accent colour are that colour.** -/
theorem memory_storeAccent (color : RgbaColor) (obj : JsonObject) :
    memory (storeAccent color obj) = { memory obj with accent := color.widened } := by
  refine Memory.ext ?_ ?_ ?_
  · unfold storeAccent
    rw [prefs_setMember_free (by decide), prefs_setMember_free (by decide), prefs_setMember_free (by decide)]
  · unfold storeAccent
    rw [recentColors_setMember (by decide), recentColors_setMember (by decide),
      recentColors_setMember (by decide)]
  · simp [memory, getCustomAccentColor, accentComponent, storeAccent, getMember_setMember, JsonNode.isValue,
      JsonNode.getDouble, RgbaColor.widened]

/-! ### The manager is the store -/

section

variable {Text : Type} {J : Json Text}

namespace SettingsManager

/-- The manager as a value that is written behind. -/
def cell (m : SettingsManager Text) : WriteBehind JsonObject (Option Text) where
  value := m.settings
  pending := m.saveTimeout
  failed := m.saveFailed
  stored := m.file

/-- The object a manager starts with. -/
def readFile (J : Json Text) (file : Option Text) : JsonObject := (readObject J file).getD defaultSettings

theorem readFile_print (obj : JsonObject) : readFile J (some (J.print obj)) = obj := by
  simp [readFile, readObject, J.parse_print]

theorem cell_performSave (ok : Bool) (m : SettingsManager Text) :
    (m.performSave J ok).cell = m.cell.flush (fun obj => some (J.print obj)) ok := by
  cases ok <;> rfl

theorem cell_restart (m : SettingsManager Text) :
    (startManager J m.file).cell = m.cell.reload (readFile J) (fun file => (readObject J file).isNone) := rfl

/-- A setter changes the object or does nothing. -/
theorem cell_setPref (p : Pref) (v : PrefValue) (m : SettingsManager Text) :
    (m.setPref p v).cell =
      if getPref p m.settings = v then m.cell else m.cell.modify (setMember p.key v.node) := by
  unfold setPref
  split
  · rfl
  · cases p <;> rfl

/-- **The abstract store of a manager**: what its object means, and what its file means. -/
def kept (J : Json Text) (m : SettingsManager Text) : Kept where
  current := memory (m.cell.view (readFile J)).1
  saved := memory (m.cell.view (readFile J)).2

/-- The file holds the object, unless a save is pending or has failed. -/
def Faithful (J : Json Text) (m : SettingsManager Text) : Prop := m.cell.Faithful (readFile J)

theorem faithful_put (key : String) (node : JsonNode) (m : SettingsManager Text) :
    Faithful J (m.put key node) :=
  WriteBehind.faithful_modify (w := m.cell) (setMember key node)

theorem kept_put (key : String) (node : JsonNode) (m : SettingsManager Text) :
    kept J (m.put key node) = { kept J m with current := memory (setMember key node m.settings) } := rfl

/-- A preference that has the value already keeps its memory. -/
theorem setPref_getPref (p : Pref) (obj : JsonObject) : (memory obj).setPref p (getPref p obj) = memory obj := by
  simp only [Memory.setPref, memory, Function.update_eq_self]

/-- **The setter of a preference.** -/
theorem setPref_kept {p : Pref} {v : PrefValue} (hv : p.kind.Takes v) {m : SettingsManager Text}
    (h : Faithful J m) :
    kept J (m.setPref p v) = keptStep (kept J m) (.set p v) ∧ Faithful J (m.setPref p v) := by
  unfold kept Faithful
  rw [cell_setPref]
  split
  · rename_i hsame
    subst hsame
    refine ⟨?_, h⟩
    simp only [keptStep, WriteBehind.view, cell, setPref_getPref]
  · refine ⟨?_, WriteBehind.faithful_modify _⟩
    rw [WriteBehind.view_modify]
    simp only [keptStep, WriteBehind.view, cell, memory_setMember_pref hv]

/-- **The setter of the accent colour.** -/
theorem setCustomAccentColor_kept (color : RgbaColor) {m : SettingsManager Text} (h : Faithful J m) :
    kept J (m.setCustomAccentColor color) = keptStep (kept J m) (.setCustomAccentColor color) ∧
      Faithful J (m.setCustomAccentColor color) := by
  have hcurrent : (kept J m).current = memory m.settings := rfl
  unfold setCustomAccentColor
  by_cases hnear : (getCustomAccentColor m.settings).Near color
  · rw [if_pos hnear]
    refine ⟨?_, h⟩
    simp only [keptStep, Memory.setAccent, hcurrent]
    rw [if_pos (show (memory m.settings).accent.Near color from hnear)]
    rfl
  · rw [if_neg hnear]
    refine ⟨?_, faithful_put "custom_accent_b" (.double color.blue.toFloat) _⟩
    simp only [keptStep, Memory.setAccent, hcurrent]
    rw [if_neg (show ¬(memory m.settings).accent.Near color from hnear), ← memory_storeAccent]
    rfl

/-- A save, by the timer or by `sync`. -/
theorem performSave_kept (ok : Bool) (m : SettingsManager Text) :
    kept J (m.performSave J ok) = keptStep (kept J m) (.sync ok) ∧ Faithful J (m.performSave J ok) := by
  unfold kept Faithful
  rw [cell_performSave]
  refine ⟨?_, WriteBehind.faithful_flush readFile_print ok⟩
  rw [WriteBehind.view_flush readFile_print]
  cases ok <;> rfl

/-- **Every step of the manager is a step of the store.** -/
theorem step_kept {move : SettingsMove} {m m' : SettingsManager Text} (h : Faithful J m)
    (hstep : settingsStep J move m = some m') :
    kept J m' = keptStep (kept J m) move ∧ Faithful J m' := by
  cases move with
  | set p v =>
      simp only [settingsStep, Option.ite_none_right_eq_some, Option.some.injEq] at hstep
      obtain ⟨hv, rfl⟩ := hstep
      exact setPref_kept hv h
  | setCustomAccentColor color =>
      cases hstep
      exact setCustomAccentColor_kept color h
  | setRecentColors colors =>
      cases hstep
      refine ⟨?_, faithful_put _ _ m⟩
      rw [setRecentColors, kept_put, memory_setRecentColors]
      rfl
  | saveTimer ok =>
      simp only [settingsStep, Option.ite_none_right_eq_some, Option.some.injEq] at hstep
      obtain ⟨-, rfl⟩ := hstep
      exact performSave_kept ok m
  | sync ok =>
      cases hstep
      exact performSave_kept ok m
  | restart =>
      cases hstep
      refine ⟨rfl, ?_⟩
      rw [Faithful, cell_restart]
      exact WriteBehind.faithful_reload

/-- A run of the manager is a run of the store. -/
theorem run_kept {moves : List SettingsMove} {m m' : SettingsManager Text} (h : Faithful J m)
    (hrun : exec (settingsStep J) moves m = some m') :
    kept J m' = moves.foldl keptStep (kept J m) ∧ Faithful J m' := by
  induction moves generalizing m with
  | nil =>
      cases hrun
      exact ⟨rfl, h⟩
  | cons move moves ih =>
      simp only [exec, Option.bind_eq_some_iff] at hrun
      obtain ⟨m₁, hm₁, hrest⟩ := hrun
      obtain ⟨hkept, hfaithful⟩ := step_kept h hm₁
      obtain ⟨hkept', hfaithful'⟩ := ih hfaithful hrest
      exact ⟨by rw [hkept', hkept, List.foldl_cons], hfaithful'⟩

end SettingsManager

end

/-- The store of a program that has just been started on a file. -/
def keptAtStart {Text : Type} (J : Json Text) (file : Option Text) : Kept where
  current := memory (startManager J file).settings
  saved := memory (startManager J file).settings

/-- **The settings manager is a store that forgets only what it had no time to save.**  For every content of
the settings file and every run of setters, saves, failing saves and restarts: the getters answer what the
abstract store has now, a restart would make them answer what the store has saved, and these two agree unless
a save is pending or the last one failed. -/
theorem settings_kept {Text : Type} (J : Json Text) (file : Option Text) (moves : List SettingsMove)
    {m : SettingsManager Text} (hrun : exec (settingsStep J) moves (startManager J file) = some m) :
    memory m.settings = (moves.foldl keptStep (keptAtStart J file)).current ∧
      memory (startManager J m.file).settings = (moves.foldl keptStep (keptAtStart J file)).saved ∧
      (m.saveTimeout = false → m.saveFailed = false → memory (startManager J m.file).settings = memory m.settings) := by
  have hstart : SettingsManager.Faithful J (startManager J file) := fun _ _ => rfl
  obtain ⟨hkept, hfaithful⟩ := SettingsManager.run_kept hstart hrun
  refine ⟨?_, ?_, fun hpending hfailed => ?_⟩
  · exact congrArg Kept.current hkept
  · exact congrArg Kept.saved hkept
  · exact congrArg memory (hfaithful hpending hfailed)

/-- A JSON library whose texts are the documents themselves. -/
def treeJson : Json JsonNode where
  print := .object
  parse := some
  parse_print _ := rfl

/-- A theme is saved; a language is not, and is forgotten in a restart; two colours are stored, and synced. -/
def exampleMoves : List SettingsMove :=
  [.set .theme (.int 3), .saveTimer true, .set .language (.int 2), .restart,
    .setRecentColors [.ofBytes 255 0 0], .setCustomAccentColor (.ofBytes 0 128 255), .sync true]

theorem settings_kept_example : ∃ m,
    exec (settingsStep treeJson) exampleMoves (startManager treeJson none) = some m ∧
      memory m.settings = (exampleMoves.foldl keptStep (keptAtStart treeJson none)).current ∧
      memory (startManager treeJson m.file).settings =
        (exampleMoves.foldl keptStep (keptAtStart treeJson none)).saved ∧
      memory (startManager treeJson m.file).settings = memory m.settings ∧
      getPref .theme m.settings = .int 3 ∧ getPref .language m.settings = .int 0 := by
  have hrun : exec (settingsStep treeJson) exampleMoves (startManager treeJson none) =
      some (reached (settingsStep treeJson) exampleMoves (startManager treeJson none)) := eq_some_getD rfl
  obtain ⟨hcurrent, hsaved, hsame⟩ := settings_kept treeJson none exampleMoves hrun
  have hprefs : (exampleMoves.foldl keptStep (keptAtStart treeJson none)).current.prefs =
      Function.update (memory defaultSettings).prefs .theme (.int 3) := Memory.setAccent_prefs _ _
  rw [← hcurrent] at hprefs
  refine ⟨_, hrun, hcurrent, hsaved, hsame rfl rfl, ?_, ?_⟩
  · exact congrFun hprefs .theme
  · exact congrFun hprefs .language

end Dstx
