/-
# Dstx.Daemon.VirtualDevice — the virtual device of a worker, pass after pass.

Each iteration of `controller_worker` brings the virtual device in line with `emulate_active` and
`is_uhid`: it destroys what is no longer wanted and creates what is missing.  Six variables follow along —
the worker's two descriptors, their mirrors in the slot, the poll entry `fds[1].fd`, and on a Switch Pro
the copy in the context.

The branches that switch a device OFF reset the poll entry.  The two that switch from one kind to the
other do not: they rely on the creation that comes next to overwrite it.  When that creation fails, the
worker polls a descriptor it has just closed.  `devices_in_order_iff` says that this is the only way the
variables come apart.
-/
import Dstx.Device
import Dstx.Lib.Run

namespace Dstx

open Dstx.Lib

/-! ## The variables -/

/-- An `int` that holds a descriptor, or -1. -/
abbrev Fd := Option Nat

/-- **The descriptors of a worker** and their copies. -/
structure VirtualDevices where
  ufd : Fd
  uhidFd : Fd
  /-- `slot->uinput_fd`. -/
  slotUinputFd : Fd
  /-- `slot->uhid_fd`. -/
  slotUhidFd : Fd
  /-- `fds[1].fd`. -/
  pollFd : Fd
  /-- `uhid_fd` of the Switch Pro context. -/
  nswUhidFd : Fd
  deriving DecidableEq

/-- The start of a worker: nothing is open. -/
def noDevices : VirtualDevices := ⟨none, none, none, none, none, none⟩

/-- One pass: the worker's copies of `emulate_active` and `is_uhid`, and what `uhid_create` and
`setup_uinput_indexed` return if they are called. -/
structure DevicePass where
  emuReq : Bool
  useUhid : Bool
  uhidCreate : Fd
  setupUinput : Fd

/-! ## Virtual device management -/

section

variable (type : ControllerType)

/-- `nsw_set_uhid_fd`, where the worker calls it. -/
def VirtualDevices.nswSetUhidFd (d : VirtualDevices) (fd : Fd) : VirtualDevices :=
  if type = .nswPro then { d with nswUhidFd := fd } else d

/-- The UHID branch: a uinput device that still exists is destroyed, a missing UHID device created. -/
def manageUhid (created : Fd) (d : VirtualDevices) : VirtualDevices :=
  let d := if d.ufd.isSome then { d with ufd := none, slotUinputFd := none } else d
  if d.uhidFd.isNone then
    match created with
    | none => d
    | some fd =>
        VirtualDevices.nswSetUhidFd type
          { d with uhidFd := some fd, pollFd := some fd, slotUhidFd := some fd } (some fd)
  else d

/-- The uinput branch, the other way round. -/
def manageUinput (created : Fd) (d : VirtualDevices) : VirtualDevices :=
  let d :=
    if d.uhidFd.isSome then { d.nswSetUhidFd type none with uhidFd := none, slotUhidFd := none } else d
  if d.ufd.isNone then
    match created with
    | none => d
    | some fd => { d with ufd := some fd, pollFd := some fd, slotUinputFd := some fd }
  else d

/-- The branch without emulation: both devices are destroyed. -/
def manageOff (d : VirtualDevices) : VirtualDevices :=
  let d := if d.ufd.isSome then { d with ufd := none, pollFd := none, slotUinputFd := none } else d
  if d.uhidFd.isSome then
    { d.nswSetUhidFd type none with uhidFd := none, pollFd := none, slotUhidFd := none }
  else d

/-- **Virtual device management**, one pass of the worker's loop. -/
def manageDevices (pass : DevicePass) (d : VirtualDevices) : VirtualDevices :=
  if pass.emuReq then
    if pass.useUhid then manageUhid type pass.uhidCreate d else manageUinput type pass.setupUinput d
  else manageOff type d

/-- The pass as a step. -/
def deviceMgmtStep (pass : DevicePass) (d : VirtualDevices) : Option VirtualDevices :=
  some (manageDevices type pass d)

end

/-! ## Order -/

/-- **The variables are in order**: at most one device is open, the slot mirrors both descriptors, and the
polled descriptor is the open one, or -1 when neither is open. -/
structure DevicesInOrder (d : VirtualDevices) : Prop where
  atMostOne : d.ufd = none ∨ d.uhidFd = none
  uinputMirror : d.slotUinputFd = d.ufd
  uhidMirror : d.slotUhidFd = d.uhidFd
  polled : d.pollFd = d.ufd.or d.uhidFd

/-- **The condition on a pass**: one that switches between the two kinds of device, with a device of the
other kind open, creates the new one. -/
def SwitchCreates (pass : DevicePass) (d : VirtualDevices) : Prop :=
  pass.emuReq = true →
    (pass.useUhid = true → d.ufd.isSome = true → pass.uhidCreate.isSome = true) ∧
      (pass.useUhid = false → d.uhidFd.isSome = true → pass.setupUinput.isSome = true)

theorem devicesInOrder_noDevices : DevicesInOrder noDevices := ⟨Or.inl rfl, rfl, rfl, rfl⟩

/-- Nothing is open, and nothing is polled. -/
def idleDevices (nsw : Fd) : VirtualDevices := ⟨none, none, none, none, none, nsw⟩

/-- A uinput device is open. -/
def uinputOpen (fd : Nat) (nsw : Fd) : VirtualDevices := ⟨some fd, none, some fd, none, some fd, nsw⟩

/-- A UHID device is open. -/
def uhidOpen (fd : Nat) (nsw : Fd) : VirtualDevices := ⟨none, some fd, none, some fd, some fd, nsw⟩

/-- **The three shapes** of variables in order. -/
theorem devicesInOrder_iff {d : VirtualDevices} :
    DevicesInOrder d ↔
      d = idleDevices d.nswUhidFd ∨ (∃ fd, d = uinputOpen fd d.nswUhidFd) ∨
        ∃ fd, d = uhidOpen fd d.nswUhidFd := by
  constructor
  · obtain ⟨ufd, uhidFd, slotUinputFd, slotUhidFd, pollFd, nswUhidFd⟩ := d
    rintro ⟨hone, hu, hh, hpoll⟩
    dsimp only at hone hu hh hpoll
    rw [hu, hh, hpoll]
    cases ufd with
    | some fd =>
        obtain rfl : uhidFd = none := by simpa using hone
        exact Or.inr (Or.inl ⟨fd, rfl⟩)
    | none =>
        cases uhidFd with
        | some fd => exact Or.inr (Or.inr ⟨fd, rfl⟩)
        | none => exact Or.inl rfl
  · rintro (h | ⟨fd, h⟩ | ⟨fd, h⟩)
    · rw [h]
      exact ⟨Or.inl rfl, rfl, rfl, rfl⟩
    · rw [h]
      exact ⟨Or.inr rfl, rfl, rfl, rfl⟩
    · rw [h]
      exact ⟨Or.inl rfl, rfl, rfl, rfl⟩

/-- Setting the context's copy leaves the rest alone. -/
theorem devicesInOrder_nswSetUhidFd {type : ControllerType} {d : VirtualDevices} {fd : Fd} :
    DevicesInOrder (d.nswSetUhidFd type fd) ↔ DevicesInOrder d := by
  unfold VirtualDevices.nswSetUhidFd
  split_ifs
  · exact ⟨fun h => ⟨h.1, h.2, h.3, h.4⟩, fun h => ⟨h.1, h.2, h.3, h.4⟩⟩
  · exact Iff.rfl

section

variable {type : ControllerType} {d : VirtualDevices}

/-- Nothing is open, but a descriptor is polled. -/
theorem not_devicesInOrder_of_stale {fd : Nat} (hu : d.ufd = none) (hh : d.uhidFd = none)
    (hpoll : d.pollFd = some fd) : ¬DevicesInOrder d := by
  intro h
  have hpolled := h.polled
  rw [hu, hh, hpoll] at hpolled
  cases hpolled

/-- **The UHID branch**: in order after it, exactly if a destroyed uinput device was replaced. -/
theorem devicesInOrder_manageUhid (h : DevicesInOrder d) (created : Fd) :
    DevicesInOrder (manageUhid type created d) ↔ (d.ufd.isSome = true → created.isSome = true) := by
  rcases devicesInOrder_iff.mp h with hd | ⟨fd, hd⟩ | ⟨fd, hd⟩
  · rw [hd]
    refine iff_of_true ?_ (by simp [idleDevices])
    cases created with
    | none => exact ⟨Or.inl rfl, rfl, rfl, rfl⟩
    | some new => exact devicesInOrder_nswSetUhidFd.mpr ⟨Or.inl rfl, rfl, rfl, rfl⟩
  · rw [hd]
    cases created with
    | none =>
        -- the uinput device is gone, and its descriptor still polled
        refine iff_of_false ?_ (by simp [uinputOpen])
        exact not_devicesInOrder_of_stale rfl rfl rfl
    | some new =>
        refine iff_of_true ?_ (by simp)
        exact devicesInOrder_nswSetUhidFd.mpr ⟨Or.inl rfl, rfl, rfl, rfl⟩
  · rw [hd]
    refine iff_of_true ?_ (by simp [uhidOpen])
    exact ⟨Or.inl rfl, rfl, rfl, rfl⟩

/-- **The uinput branch**, likewise. -/
theorem devicesInOrder_manageUinput (h : DevicesInOrder d) (created : Fd) :
    DevicesInOrder (manageUinput type created d) ↔
      (d.uhidFd.isSome = true → created.isSome = true) := by
  rcases devicesInOrder_iff.mp h with hd | ⟨fd, hd⟩ | ⟨fd, hd⟩
  · rw [hd]
    refine iff_of_true ?_ (by simp [idleDevices])
    cases created with
    | none => exact ⟨Or.inl rfl, rfl, rfl, rfl⟩
    | some new => exact ⟨Or.inr rfl, rfl, rfl, rfl⟩
  · rw [hd]
    refine iff_of_true ?_ (by simp [uinputOpen])
    exact ⟨Or.inr rfl, rfl, rfl, rfl⟩
  · rw [hd]
    cases created with
    | none =>
        -- the UHID device is gone, and its descriptor still polled
        refine iff_of_false ?_ (by simp [uhidOpen])
        cases type <;> exact not_devicesInOrder_of_stale rfl rfl rfl
    | some new =>
        refine iff_of_true ?_ (by simp)
        cases type <;> exact ⟨Or.inr rfl, rfl, rfl, rfl⟩

/-- The branch without emulation always leaves the variables in order. -/
theorem devicesInOrder_manageOff (h : DevicesInOrder d) : DevicesInOrder (manageOff type d) := by
  rcases devicesInOrder_iff.mp h with hd | ⟨fd, hd⟩ | ⟨fd, hd⟩
  · rw [hd]
    exact ⟨Or.inl rfl, rfl, rfl, rfl⟩
  · -- the poll entry is reset together with the descriptor
    rw [hd]
    exact ⟨Or.inl rfl, rfl, rfl, rfl⟩
  · rw [hd]
    cases type <;> exact ⟨Or.inl rfl, rfl, rfl, rfl⟩

/-- **One pass** keeps the variables in order exactly under the condition. -/
theorem devicesInOrder_manageDevices_iff (h : DevicesInOrder d) (pass : DevicePass) :
    DevicesInOrder (manageDevices type pass d) ↔ SwitchCreates pass d := by
  unfold manageDevices SwitchCreates
  cases hemu : pass.emuReq with
  | false => exact iff_of_true (devicesInOrder_manageOff h) (by simp)
  | true =>
      cases huhid : pass.useUhid with
      | true =>
          simp only [if_true, devicesInOrder_manageUhid h]
          simp
      | false =>
          simp only [if_true, Bool.false_eq_true, if_false, devicesInOrder_manageUinput h]
          simp

end

/-! ## Whole runs -/

/-- **The virtual device, over every sequence of passes**: at the end of each of them the variables are in
order, if and only if every pass that switches between the kinds creates the new device. -/
theorem devices_in_order_iff (type : ControllerType) (passes : List DevicePass) :
    Throughout (deviceMgmtStep type) DevicesInOrder passes noDevices ↔
      Meets (deviceMgmtStep type) SwitchCreates passes noDevices := by
  refine throughout_iff_meets (J := fun _ => True) (fun _ _ _ _ _ => trivial) ?_ passes trivial
    devicesInOrder_noDevices
  intro pass d d' _ hd hstep
  obtain rfl := Option.some.inj hstep
  exact devicesInOrder_manageDevices_iff hd pass

/-- **A failed switch to UHID**: a uinput device was created as descriptor 7, then `is_uhid` is set and
`uhid_create` fails.  Both descriptors are -1 and 7 is still polled. -/
theorem stale_descriptor_polled :
    manageDevices .ds4 ⟨true, true, none, none⟩
        (manageDevices .ds4 ⟨true, false, none, some 7⟩ noDevices) =
      ⟨none, none, none, none, some 7, none⟩ ∧
    ¬Throughout (deviceMgmtStep .ds4) DevicesInOrder
      [⟨true, false, none, some 7⟩, ⟨true, true, none, none⟩] noDevices := by
  refine ⟨by decide, ?_⟩
  intro h
  have hlast : DevicesInOrder ⟨none, none, none, none, some 7, none⟩ := (h.2 _ rfl).2 _ rfl
  exact not_devicesInOrder_of_stale rfl rfl rfl hlast

end Dstx
