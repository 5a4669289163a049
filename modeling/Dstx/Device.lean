/-
# Dstx.Device — the rest of `controller_t`: the buttons, the pad state and the device cells.

`Dstx.Slot` holds the settings part of `controller_t`.  Here are the other parts the daemon's
threads and the front ends work on:

* `Button` — `physical_button_t` and `logical_button_t` are the SAME eighteen buttons; the physical
  enumeration counts from 0, the logical one from 1, because `LOGICAL_BTN_NONE` is 0;
* `Pad` — the input state the drivers write (sticks, triggers, logical buttons, hat, battery);
* `Cells` — the device identity, the one-shot request flags and the rumble cells;
* `Slot` — settings and cells together, what a front end's command acts on.

Left out: descriptors, device paths and names, the watchdog cells, `output_seq` and `effect_phase`,
which no modelled function reads.
-/
import Dstx.Slot

namespace Dstx

instance : NeZero phyBtnCount := ⟨by decide⟩

/-- `controller_type_t`. -/
inductive ControllerType where
  | ds4
  | dualsense
  | nswPro
  deriving DecidableEq

/-- A button, physical (`PHY_BTN_*`) or logical (`LOGICAL_BTN_*`). -/
inductive Button where
  | cross
  | circle
  | square
  | triangle
  | l1
  | r1
  | l2
  | r2
  | share
  | options
  | l3
  | r3
  | ps
  | touch
  | dpadUp
  | dpadDown
  | dpadLeft
  | dpadRight
  deriving DecidableEq

namespace Button

/-- The buttons in the order of the enumerations. -/
def all : List Button :=
  [cross, circle, square, triangle, l1, r1, l2, r2, share, options, l3, r3, ps, touch, dpadUp,
    dpadDown, dpadLeft, dpadRight]

/-- The value of `PHY_BTN_*`. -/
def phy : Button → Fin phyBtnCount
  | cross => 0
  | circle => 1
  | square => 2
  | triangle => 3
  | l1 => 4
  | r1 => 5
  | l2 => 6
  | r2 => 7
  | share => 8
  | options => 9
  | l3 => 10
  | r3 => 11
  | ps => 12
  | touch => 13
  | dpadUp => 14
  | dpadDown => 15
  | dpadLeft => 16
  | dpadRight => 17

/-- The value of `LOGICAL_BTN_*`: one more than the physical index. -/
def logical (b : Button) : UInt8 := UInt8.ofNat (b.phy + 1)

/-- The button a keymap entry names; `LOGICAL_BTN_NONE` and the values from `LOGICAL_BTN_COUNT` on
name none. -/
def ofLogical (code : UInt8) : Option Button := all.find? fun b => b.logical == code

theorem mem_all (b : Button) : b ∈ all := by
  cases b <;> decide

theorem logical_injective : Function.Injective logical := by
  intro a b h
  revert h
  cases a <;> cases b <;> decide

@[simp] theorem ofLogical_logical (b : Button) : ofLogical b.logical = some b := by
  cases b <;> decide

theorem ofLogical_eq_some {code : UInt8} {b : Button} :
    ofLogical code = some b ↔ code = b.logical := by
  constructor
  · intro h
    have hp := List.find?_some h
    exact (beq_iff_eq.mp hp).symm
  · rintro rfl
    exact ofLogical_logical b

end Button

/-- **The input state of `controller_t`.**  The `uint8_t` button fields hold 0 or 1. -/
structure Pad where
  lx : Int
  ly : Int
  rx : Int
  ry : Int
  lt : Int
  rt : Int
  buttons : Button → Bool
  hatX : Int
  hatY : Int
  battery : Int

/-- The identity, request and rumble cells of `controller_t`. -/
structure Cells where
  type : ControllerType
  isBluetooth : Bool
  connected : Bool
  requestSwitchLayout : Bool
  requestXboxLayout : Bool
  requestResetAllKeybinds : Bool
  rumbleStrong : UInt8
  rumbleWeak : UInt8
  rumbleDirty : Bool
  externalRetryCount : UInt8
  deriving DecidableEq

/-- **A slot of the shared memory**: the settings and the cells. -/
structure Slot extends Controller, Cells

/-- The cells of a slot right after the daemon's `main` initialised it. -/
def initialCells : Cells where
  type := .ds4
  isBluetooth := false
  connected := false
  requestSwitchLayout := false
  requestXboxLayout := false
  requestResetAllKeybinds := false
  rumbleStrong := 0
  rumbleWeak := 0
  rumbleDirty := false
  externalRetryCount := 0

end Dstx
