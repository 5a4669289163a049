/-
# Dstx.CJson — the cJSON document tree as the profile code reads and builds it.

cJSON is a third-party library, so only its DOCUMENTED behaviour is modelled: the node kinds, the
type tests, `valueint` (the number truncated toward zero and saturated to `int`; the parser gives
`true` 1), the case-INSENSITIVE first-match lookup of `cJSON_GetObjectItem`, and array access.  A number node
carries the integer part of its `double`; the profile code never looks at the rest.

The text level is a parameter: `CJson.Lib Text` is a printer and a parser over an arbitrary type of
file contents, with the one fact the profile code relies on as a field — a document whose numbers are
integers a `double` holds exactly is parsed back unchanged after being printed.
-/
import Dstx.Lib.Fs
import Mathlib.Algebra.Ring.Int.Defs
import Mathlib.Algebra.Ring.Nat

namespace Dstx

open Dstx.Lib

/-- A cJSON node. -/
inductive CJson where
  | null
  | bool (b : Bool)
  | number (v : Int)
  | string (s : CStr)
  | array (items : List CJson)
  | object (items : List (CStr × CJson))

namespace CJson

/-- `case_insensitive_strcmp(a, b) == 0`: equal after `tolower` on every byte. -/
def sameKey (a b : CStr) : Bool := a.map Char.toLower == b.map Char.toLower

/-- **`cJSON_GetObjectItem`** — the first member whose key matches.  On anything but an object there
is no named child, so the answer is NULL. -/
def getObjectItem : CJson → CStr → Option CJson
  | .object items, key => (items.find? fun kv => sameKey key kv.1).map Prod.snd
  | _, _ => none

/-- `cJSON_IsNumber`. -/
def isNumber : CJson → Bool
  | .number _ => true
  | _ => false

/-- `cJSON_IsArray`. -/
def isArray : CJson → Bool
  | .array _ => true
  | _ => false

/-- `INT_MAX`. -/
def intMax : Int := 2 ^ 31 - 1

/-- `INT_MIN`. -/
def intMin : Int := -2 ^ 31

/-- The `valueint` member of a parsed node: a number saturated to `int`, 1 for `true`, else 0. -/
def valueint : CJson → Int
  | .number v => if intMax ≤ v then intMax else if v ≤ intMin then intMin else v
  | .bool true => 1
  | _ => 0

/-- The child list `cJSON_GetArraySize` and `cJSON_GetArrayItem` walk. -/
def children : CJson → List CJson
  | .array items => items
  | .object items => items.map Prod.snd
  | _ => []

/-- `cJSON_GetArraySize`. -/
def getArraySize (j : CJson) : Nat := j.children.length

/-- `cJSON_GetArrayItem`. -/
def getArrayItem (j : CJson) (i : Nat) : Option CJson := j.children[i]?

@[simp] theorem getArraySize_array (items : List CJson) :
    (CJson.array items).getArraySize = items.length := rfl

@[simp] theorem getArrayItem_array (items : List CJson) (i : Nat) :
    (CJson.array items).getArrayItem i = items[i]? := rfl

theorem getArrayItem_isSome_iff (j : CJson) (i : Nat) :
    (j.getArrayItem i).isSome ↔ i < j.getArraySize := by
  simp [getArrayItem, getArraySize]

/-- A number in `int` range is read back as itself. -/
theorem valueint_number {v : Int} (h₁ : intMin < v) (h₂ : v < intMax) :
    (CJson.number v).valueint = v := by
  simp only [valueint]
  rw [if_neg (by omega), if_neg (by omega)]

theorem valueint_byte (b : UInt8) : (CJson.number b.toNat).valueint = b.toNat := by
  have := b.toNat_lt
  apply valueint_number <;> simp only [intMin, intMax] <;> omega

/-! ## Printable documents and the text level -/

mutual

/-- Every number of the document is an integer that a `double` represents exactly. -/
def Exact : CJson → Prop
  | .number v => v.natAbs ≤ 2 ^ 53
  | .array items => ExactList items
  | .object items => ExactMembers items
  | _ => True

/-- `Exact` on every element of an array. -/
def ExactList : List CJson → Prop
  | [] => True
  | j :: js => Exact j ∧ ExactList js

/-- `Exact` on every member of an object. -/
def ExactMembers : List (CStr × CJson) → Prop
  | [] => True
  | kv :: kvs => Exact kv.2 ∧ ExactMembers kvs

end

theorem exactList_iff {items : List CJson} : ExactList items ↔ ∀ j ∈ items, Exact j := by
  induction items with
  | nil => simp [ExactList]
  | cons j js ih => simp [ExactList, ih]

theorem exact_byte (b : UInt8) : Exact (.number b.toNat) := by
  have := b.toNat_lt
  simp only [Exact]
  omega

/-- **`CJson.Lib Text`** — `cJSON_Print` and `cJSON_Parse` over file contents `Text`.  The field
`parse_print` is the assumption that integers survive printing and parsing. -/
structure Lib (Text : Type) where
  print : CJson → Text
  parse : Text → Option CJson
  parse_print : ∀ doc, Exact doc → parse (print doc) = some doc

/-- File contents taken as the document they parse to (`none`: text that is not JSON).  With this
instance a run of the model is executable. -/
def treeLib : Lib (Option CJson) where
  print := some
  parse := id
  parse_print := fun _ _ => rfl

end CJson

end Dstx
