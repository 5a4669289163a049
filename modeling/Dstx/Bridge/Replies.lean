/-
# Dstx.Bridge.Replies — how many replies a call of the bridge gets.

ONE, for every method, every list of arguments and every state, with two exceptions
(`messageHandler_oneReply_iff`).  There is none

* for a setter with valid arguments whose slot cannot be opened: the getters send an error there
  (`Controller not connected`), the setters return silently;
* where a text is refused that the bridge passes on.  The settings thread puts the name of a profile into its
  answer, and the name was cut to 63 bytes, possibly inside a letter (`loadProfile_fails_replies`).
-/
import Dstx.Bridge.Handlers
import Dstx.Profile.Watch

namespace Dstx

open Dstx.Lib

/-! ## How many replies -/

section Replies

variable {env : CallEnv}

theorem sendErrorText_eq (h : env.Succeeds) (name : BusError) {text : CStr} (htext : validUtf8 text = true) :
    env.sendErrorText name text = [.error name text] := by
  simp [CallEnv.sendErrorText, h.makesError, h.sendsError, htext]

/-- **An error is sent exactly when its text is UTF-8.** -/
theorem length_sendErrorText (h : env.Succeeds) (name : BusError) (text : CStr) :
    (env.sendErrorText name text).length = 1 ↔ validUtf8 text = true := by
  cases htext : validUtf8 text with
  | false => simp [CallEnv.sendErrorText, htext]
  | true => simp [sendErrorText_eq h name htext]

theorem length_sendError (h : env.Succeeds) (name : BusError) {text : String}
    (htext : validUtf8 text.toList = true) : (env.sendError name text).length = 1 :=
  (length_sendErrorText h name text.toList).mpr htext

theorem dies_eq_false_iff {args : List ReplyValue} :
    env.dies args = false ↔ (env.checksFatal = true → args.all ReplyValue.isUtf8 = true) := by
  unfold CallEnv.dies
  cases env.checksFatal <;> simp

/-- **A reply is sent unless a failed check ends the process.** -/
theorem length_sendReply (h : env.Succeeds) (args : List ReplyValue) :
    (env.sendReply args).length = 1 ↔ env.dies args = false := by
  unfold CallEnv.sendReply
  rw [if_pos h.makesReturn, if_pos h.sendsReturn]
  cases env.dies args <;> simp

/-- The same where the appending is checked: a text that is refused is answered with an error. -/
theorem length_sendChecked (h : env.Succeeds) {failure : String} (hfailure : validUtf8 failure.toList = true)
    (args : List ReplyValue) : (env.sendChecked failure args).length = 1 ↔ env.dies args = false := by
  unfold CallEnv.sendChecked
  split_ifs with hfails
  · simp only [Bool.and_eq_true, Bool.not_eq_true'] at hfails
    exact iff_of_true (length_sendError h _ hfailure) hfails.1.2
  · exact length_sendReply h args

theorem sendBasicReply_eq (h : env.Succeeds) : env.sendBasicReply = [.methodReturn []] := by
  have hargs : env.dies [] = false := dies_eq_false_iff.mpr fun _ => rfl
  simp [CallEnv.sendBasicReply, CallEnv.sendReply, h.makesReturn, h.sendsReturn, hargs]

/-- Arguments without a string are taken. -/
theorem dies_of_isUtf8 {args : List ReplyValue} (hargs : args.all ReplyValue.isUtf8 = true) :
    env.dies args = false :=
  dies_eq_false_iff.mpr fun _ => hargs

/-- **A handler that always sends one reply.** -/
def OneReply (handler : MethodHandler) : Prop :=
  ∀ (env : CallEnv) (w : BridgeWorld) (values : List DBusValue), env.Succeeds →
    (handler env w values).replies.length = 1

theorem sendReply_oneReply {args : CallEnv → BridgeWorld → List ReplyValue}
    (hargs : ∀ env w, (args env w).all ReplyValue.isUtf8 = true) :
    OneReply fun env w _ => ⟨env.sendReply (args env w), w⟩ := by
  intro env w values h
  exact (length_sendReply h _).mpr (dies_of_isUtf8 (hargs env w))

theorem sendChecked_oneReply {failure : String} (hfailure : validUtf8 failure.toList = true)
    {args : BridgeWorld → List ReplyValue} (hargs : ∀ w, (args w).all ReplyValue.isUtf8 = true) :
    OneReply fun env w _ => ⟨env.sendChecked failure (args w), w⟩ := by
  intro env w values h
  exact (length_sendChecked h hfailure _).mpr (dies_of_isUtf8 (hargs w))

/-- A handler with a slot number answers as its body does, and refuses the slot otherwise. -/
theorem slotHandler_replies (h : env.Succeeds) (body : CallEnv → BridgeWorld → Fin maxSlots → BridgeAnswer)
    (w : BridgeWorld) (values : List DBusValue) :
    (slotHandler body env w values).replies.length = 1 ↔
      ∀ (i : Fin maxSlots) (slot : UInt8) (rest : List DBusValue), values = .byte slot :: rest →
        slot.toNat = i → (body env w i).replies.length = 1 := by
  unfold slotHandler
  split
  · rename_i slot rest
    split_ifs with hrange
    · constructor
      · rintro hlen i slot' rest' heq hslot
        simp only [List.cons.injEq, DBusValue.byte.injEq] at heq
        obtain ⟨rfl, rfl⟩ := heq
        obtain rfl : (⟨slot.toNat, hrange⟩ : Fin maxSlots) = i := Fin.ext hslot
        exact hlen
      · exact fun hall => hall ⟨slot.toNat, hrange⟩ slot rest rfl rfl
    · refine iff_of_true (length_sendError h _ (by decide)) fun i slot' rest' heq hslot => ?_
      simp only [List.cons.injEq, DBusValue.byte.injEq] at heq
      obtain ⟨rfl, rfl⟩ := heq
      exact absurd (hslot ▸ i.isLt) hrange
  · rename_i hno
    refine iff_of_true (length_sendError h _ (by decide)) fun i slot rest heq _ => ?_
    exact absurd heq (hno slot rest)

theorem slotGetter_body_replies (h : env.Succeeds)
    (args : ControllerState → DeviceDetails → List ReplyValue) (w : BridgeWorld) (i : Fin maxSlots) :
    ((if w.bridge.daemonAlive then
        if (w.bridge.slots i).slot.connected then
          ⟨env.sendReply (args (w.bridge.slots i) (w.details i)), w⟩
        else ⟨env.sendError .failed "Controller not connected", w⟩
      else ⟨env.sendError .failed "Daemon not connected", w⟩ : BridgeAnswer).replies.length = 1) ↔
      (w.bridge.daemonAlive = true → (w.bridge.slots i).slot.connected = true →
        env.dies (args (w.bridge.slots i) (w.details i)) = false) := by
  split_ifs with halive hconnected
  · simp only [halive, hconnected, true_implies]
    exact length_sendReply h _
  · exact iff_of_true (length_sendError h _ (by decide)) fun _ hyes => absurd hyes hconnected
  · exact iff_of_true (length_sendError h _ (by decide)) fun hyes => absurd hyes halive

theorem slotGetter_oneReply {args : ControllerState → DeviceDetails → List ReplyValue}
    (hargs : ∀ c d, (args c d).all ReplyValue.isUtf8 = true) : OneReply (slotGetter args) := by
  intro env w values h
  refine (slotHandler_replies h _ w values).mpr fun i _ _ _ _ => ?_
  exact (slotGetter_body_replies h args w i).mpr fun _ _ => dies_of_isUtf8 (hargs _ _)

theorem segmentGetter_oneReply {send : CallEnv → Slot → List BridgeReply}
    (hsend : ∀ (env : CallEnv) slot, env.Succeeds → (send env slot).length = 1) :
    OneReply (segmentGetter send) := by
  intro env w values h
  refine (slotHandler_replies h _ w values).mpr fun i _ _ _ _ => ?_
  split
  · exact hsend env _ h
  · exact length_sendError h _ (by decide)

/-- A handler that maps the segment answers as its body does. -/
theorem segmentHandler_replies (h : env.Succeeds) (body : CallEnv → BridgeWorld → Segment → BridgeAnswer)
    (w : BridgeWorld) :
    (segmentHandler body env w).replies.length = 1 ↔
      ∀ seg, openShmHandleAny w = some seg → (body env w seg).replies.length = 1 := by
  unfold segmentHandler
  cases hopen : openShmHandleAny w with
  | none => exact iff_of_true (length_sendError h _ (by decide)) fun seg heq => by cases heq
  | some seg => simp

theorem segmentReader_replies (h : env.Succeeds) (args : Segment → List ReplyValue) (w : BridgeWorld) :
    (segmentHandler (fun env w seg => ⟨env.sendReply (args seg), w⟩) env w).replies.length = 1 ↔
      ∀ seg, openShmHandleAny w = some seg → env.dies (args seg) = false := by
  rw [segmentHandler_replies h]
  exact forall₂_congr fun seg _ => length_sendReply h _

end Replies

/-! ## Texts that libdbus does not take -/

/-- **The settings thread answers a request with a text that libdbus does not take**, as the handler reads it
into its buffer.  A refusal is passed on as an error; of the accepted requests only a list and the auto-save
settings have their text in the reply (`told`). -/
def AnswerRefused (env : CallEnv) (w : BridgeWorld) (call : Call) (size : Nat) (told : Bool) : Prop :=
  ∃ seg, openShmHandleAny w = some seg ∧
    (env.settings (postRequest call seg.shm)).profileResponse ≠ 0 ∧
    validUtf8 ((env.settings (postRequest call seg.shm)).profileResponseMsg.take (size - 1)) = false ∧
    ((env.settings (postRequest call seg.shm)).profileResponse = 1 → told = true ∧ env.checksFatal = true)

/-- A method with a profile name. -/
def NameRefused (env : CallEnv) (w : BridgeWorld) (request : ProfileRequest) (args : List DBusValue) : Prop :=
  ∃ name rest, args = .string name :: rest ∧ AnswerRefused env w ⟨request, some name, -1, -1⟩ 512 false

/-- **The text of a reply is not taken**, for each method that sends a text of somebody else.  With checks that
are not fatal a reply goes out without it, so that only the errors are lost. -/
def TextRefused (env : CallEnv) (w : BridgeWorld) (name : String) (args : List DBusValue) : Prop :=
  (name = "GetDetailedInfo" ∧ ∃ (i : Fin maxSlots) (slot : UInt8) (rest : List DBusValue),
    args = .byte slot :: rest ∧ slot.toNat = i ∧ w.bridge.daemonAlive = true ∧
      (w.bridge.slots i).slot.connected = true ∧ env.dies (detailsReply (w.details i)) = true) ∨
  (name = "GetCurrentProfile" ∧ ∃ seg, openShmHandleAny w = some seg ∧
    env.dies (currentProfileReply seg.shm) = true) ∨
  (name = "ListProfiles" ∧ AnswerRefused env w ⟨.list, none, -1, -1⟩ 4096 true) ∨
  (name = "LoadProfile" ∧ NameRefused env w .load args) ∨
  (name = "SaveProfile" ∧ NameRefused env w .save args) ∨
  (name = "DeleteProfile" ∧ NameRefused env w .delete args) ∨
  (name = "SetAutoSave" ∧ ∃ enable delayMs rest, args = .boolean enable :: .int32 delayMs :: rest ∧
    AnswerRefused env w ⟨.setAutoSave, none, if enable then 1 else 0, clampDelay delayMs⟩ 512 true)

section Texts

variable {env : CallEnv}

/-- **A request to the settings thread** gets one reply unless its text is refused; `told` is whether `send`
puts the text into the reply. -/
theorem requestHandler_replies (h : env.Succeeds) {send : CallEnv → CStr → List BridgeReply} {told : Bool}
    (hsend : ∀ text, (send env text).length = 1 ↔
      (told = true → env.checksFatal = true → validUtf8 text = true))
    (call : Call) (size : Nat) (w : BridgeWorld) :
    (requestHandler call size send env w).replies.length = 1 ↔ ¬AnswerRefused env w call size told := by
  unfold requestHandler AnswerRefused
  rw [segmentHandler_replies h, not_exists]
  refine forall_congr' fun seg => ?_
  rw [not_and]
  refine forall_congr' fun _ => ?_
  unfold shmRequestSync
  generalize env.settings (postRequest call seg.shm) = after
  dsimp only
  by_cases hsilent : after.profileResponse = 0
  · -- nothing came: the text is the handler's own
    simp only [hsilent, ne_eq, not_true_eq_false, if_false, Bool.false_eq_true, false_and, not_false_eq_true,
      iff_true]
    exact (length_sendErrorText h _ _).mpr (by decide)
  · simp only [ne_eq, hsilent, not_false_eq_true, if_true, true_and]
    by_cases haccepted : after.profileResponse = 1
    · simp only [haccepted, beq_self_eq_true, if_true, true_implies, hsend]
      cases validUtf8 (after.profileResponseMsg.take (size - 1)) <;> simp
    · have hrefused : (after.profileResponse == 1) = false := beq_eq_false_iff_ne.mpr haccepted
      simp only [hrefused, Bool.false_eq_true, if_false, haccepted, false_implies, and_true]
      rw [length_sendErrorText h]
      cases validUtf8 (after.profileResponseMsg.take (size - 1)) <;> simp

theorem textReply_all (text : CStr) :
    [ReplyValue.basic (.string text)].all ReplyValue.isUtf8 = validUtf8 text := by
  simp [ReplyValue.isUtf8]

theorem listProfiles_replies (h : env.Succeeds) (w : BridgeWorld) (args : List DBusValue) :
    (handleListProfiles env w args).replies.length = 1 ↔
      ¬AnswerRefused env w ⟨.list, none, -1, -1⟩ 4096 true := by
  refine requestHandler_replies h (fun text => ?_) _ _ w
  rw [length_sendChecked h (by decide), dies_eq_false_iff, textReply_all]
  simp

theorem namedProfile_replies (h : env.Succeeds) (request : ProfileRequest) (w : BridgeWorld)
    (args : List DBusValue) :
    (namedProfile request env w args).replies.length = 1 ↔ ¬NameRefused env w request args := by
  unfold namedProfile NameRefused
  split
  · rename_i name rest
    have hsend : ∀ text : CStr, ((fun (env : CallEnv) (_ : CStr) => env.sendBasicReply) env text).length = 1 ↔
        (false = true → env.checksFatal = true → validUtf8 text = true) := by
      intro text
      simp [sendBasicReply_eq h]
    rw [requestHandler_replies h hsend, not_iff_not]
    constructor
    · exact fun hrefused => ⟨name, rest, rfl, hrefused⟩
    · rintro ⟨name', rest', heq, hrefused⟩
      simp only [List.cons.injEq, DBusValue.string.injEq] at heq
      obtain ⟨rfl, -⟩ := heq
      exact hrefused
  · rename_i hno
    refine iff_of_true (length_sendError h _ (by decide)) ?_
    rintro ⟨name, rest, heq, -⟩
    exact hno name rest heq

theorem setAutoSave_replies (h : env.Succeeds) (w : BridgeWorld) (args : List DBusValue) :
    (handleSetAutoSave env w args).replies.length = 1 ↔
      ¬∃ enable delayMs rest, args = .boolean enable :: .int32 delayMs :: rest ∧
        AnswerRefused env w ⟨.setAutoSave, none, if enable then 1 else 0, clampDelay delayMs⟩ 512 true := by
  unfold handleSetAutoSave
  split
  · rename_i enable delayMs rest
    have hsend : ∀ text : CStr,
        ((fun (env : CallEnv) (text : CStr) => env.sendReply [.basic (.string text)]) env text).length = 1 ↔
          (true = true → env.checksFatal = true → validUtf8 text = true) := by
      intro text
      rw [length_sendReply h, dies_eq_false_iff, textReply_all]
      simp
    rw [requestHandler_replies h hsend, not_iff_not]
    constructor
    · exact fun hrefused => ⟨enable, delayMs, rest, rfl, hrefused⟩
    · rintro ⟨enable', delayMs', rest', heq, hrefused⟩
      simp only [List.cons.injEq, DBusValue.boolean.injEq, DBusValue.int32.injEq] at heq
      obtain ⟨rfl, rfl, -⟩ := heq
      exact hrefused
  · rename_i hno
    refine iff_of_true (length_sendError h _ (by decide)) ?_
    rintro ⟨enable, delayMs, rest, heq, -⟩
    exact hno enable delayMs rest heq

theorem detailedInfo_replies (h : env.Succeeds) (w : BridgeWorld) (args : List DBusValue) :
    (handleGetDetailedInfo env w args).replies.length = 1 ↔
      ¬∃ (i : Fin maxSlots) (slot : UInt8) (rest : List DBusValue), args = .byte slot :: rest ∧
        slot.toNat = i ∧ w.bridge.daemonAlive = true ∧ (w.bridge.slots i).slot.connected = true ∧
          env.dies (detailsReply (w.details i)) = true := by
  refine (slotHandler_replies h _ w args).trans ?_
  simp only [not_exists, not_and, Bool.not_eq_true]
  refine forall_congr' fun i => forall₄_congr fun slot rest _ _ => ?_
  exact slotGetter_body_replies h (fun _ d => detailsReply d) w i

theorem currentProfile_replies (h : env.Succeeds) (w : BridgeWorld) (args : List DBusValue) :
    (handleGetCurrentProfile env w args).replies.length = 1 ↔
      ¬∃ seg, openShmHandleAny w = some seg ∧ env.dies (currentProfileReply seg.shm) = true := by
  refine (segmentReader_replies h _ w).trans ?_
  simp only [not_exists, not_and, Bool.not_eq_true]

end Texts

/-! ## The setters -/

/-- **The slot cannot be opened**: the monitor does not find the daemon alive, there is no segment, it is too
short, cannot be mapped or has another magic, or the slot is not connected in it. -/
def SlotUnavailable (w : BridgeWorld) (i : Fin maxSlots) : Prop :=
  w.bridge.daemonAlive = false ∨ ∀ seg, w.segment = some seg →
    seg.fits = false ∨ seg.maps = false ∨ seg.magicOk = false ∨ (seg.slot i).connected = false

/-- One check, made twice: it refuses exactly what is not stored. -/
theorem refusal_iff {c : Prop} [Decidable c] (text : String) (slot : Slot) :
    (if c then some text else none) = none ↔ (if c then none else some slot : Option Slot).isSome = true := by
  split_ifs
  · exact iff_of_false not_false Bool.false_ne_true
  · exact iff_of_true rfl rfl

/-- **A call that passes its checks is stored.** -/
theorem setterRefusal_eq_none_iff (slot : Slot) (call : DbusSetter) :
    setterRefusal call = none ↔ (dbusSet slot call).isSome = true := by
  cases call with
  | setSensitivityPresetLeft preset => exact refusal_iff _ _
  | setSensitivityPresetRight preset => exact refusal_iff _ _
  | setKeybind physical logical =>
      have hindex : phyIndex physical.toNat = none ↔ physical.toNat ≥ phyBtnCount := by
        unfold phyIndex
        split_ifs with hrange
        · exact iff_of_false not_false (by omega)
        · exact iff_of_true rfl (by omega)
      change (if physical.toNat ≥ phyBtnCount then some "Physical button out of range"
        else if logical.toNat ≥ logicalBtnCount then some "Logical button out of range" else none) = none ↔ _
      unfold dbusSet
      dsimp only
      by_cases hphysical : physical.toNat ≥ phyBtnCount
      · rw [if_pos hphysical, hindex.mpr hphysical]
        exact iff_of_false (Option.some_ne_none _) Bool.false_ne_true
      · rw [if_neg hphysical]
        cases hsome : phyIndex physical.toNat with
        | none => exact absurd (hindex.mp hsome) hphysical
        | some p => exact refusal_iff _ _
  | setSwitchLayoutLegacy enable => cases enable <;> exact iff_of_true rfl rfl
  | _ => exact iff_of_true rfl rfl

theorem openShmHandle_eq_none_iff (w : BridgeWorld) (i : Fin maxSlots) :
    openShmHandle w i = none ↔ SlotUnavailable w i := by
  unfold openShmHandle openShmHandleAny SlotUnavailable
  cases hdaemon : w.bridge.daemonAlive with
  | false => exact iff_of_true rfl (Or.inl rfl)
  | true =>
      cases hseg : w.segment with
      | none => exact iff_of_true rfl (Or.inr fun seg h => absurd h.symm (Option.some_ne_none seg))
      | some seg =>
          simp only [if_true, Option.some.injEq, forall_eq', Bool.true_eq_false, false_or]
          by_cases hgood : (seg.fits && seg.maps && seg.magicOk) = true
          · obtain ⟨⟨hfits, hmaps⟩, hmagic⟩ := (Bool.and_eq_true_iff.trans
              (and_congr_left' Bool.and_eq_true_iff)).mp hgood
            simp [hfits, hmaps, hmagic]
          · rw [if_neg hgood]
            refine iff_of_true rfl ?_
            simp only [Bool.and_eq_true, not_and_or, Bool.not_eq_true] at hgood
            rcases hgood with (hfits | hmaps) | hmagic
            · exact Or.inl hfits
            · exact Or.inr (Or.inl hmaps)
            · exact Or.inr (Or.inr (Or.inl hmagic))

/-- A setter call whose arguments are valid, for slot `i`. -/
def ValidSetterCall (spec : SetterSpec) (values : List DBusValue) (i : Fin maxSlots) : Prop :=
  ∃ slot call, spec.decode values = some (slot, call) ∧ slot.toNat = i ∧ setterRefusal call = none

/-- The texts of a refusal. -/
theorem setterRefusal_utf8 {call : DbusSetter} {text : String} (h : setterRefusal call = some text) :
    validUtf8 text.toList = true := by
  unfold setterRefusal at h
  split at h
  · split_ifs at h
    obtain rfl := Option.some.inj h
    decide
  · split_ifs at h
    obtain rfl := Option.some.inj h
    decide
  · split_ifs at h <;> obtain rfl := Option.some.inj h <;> decide
  · cases h

/-- **A setter is silent** on a valid call for a slot that cannot be opened, and otherwise sends one reply. -/
theorem slotSetter_replies {env : CallEnv} (h : env.Succeeds) {spec : SetterSpec}
    (hexpected : validUtf8 spec.expected.toList = true) (w : BridgeWorld)
    (values : List DBusValue) :
    (slotSetter spec env w values).replies.length = 1 ↔
      ¬∃ i, ValidSetterCall spec values i ∧ SlotUnavailable w i := by
  have hinvalid : (∀ i, ¬ValidSetterCall spec values i) →
      ¬∃ i, ValidSetterCall spec values i ∧ SlotUnavailable w i := fun hnone ⟨i, hvalid, _⟩ => hnone i hvalid
  unfold slotSetter
  cases hdecode : spec.decode values with
  | none =>
      refine iff_of_true (length_sendError h _ hexpected) (hinvalid fun i ⟨slot, call, heq, _⟩ => ?_)
      rw [hdecode] at heq
      cases heq
  | some decoded =>
      obtain ⟨slot, call⟩ := decoded
      have hcall : ∀ i, ValidSetterCall spec values i → slot.toNat = i ∧ setterRefusal call = none := by
        rintro i ⟨slot', call', heq, hslot, hnone⟩
        rw [hdecode] at heq
        obtain ⟨rfl, rfl⟩ := Prod.mk.inj (Option.some.inj heq)
        exact ⟨hslot, hnone⟩
      dsimp only
      split_ifs with hrange
      · cases hrefusal : setterRefusal call with
        | some text =>
            refine iff_of_true (length_sendError h _ (setterRefusal_utf8 hrefusal))
              (hinvalid fun i hvalid => ?_)
            have hnone := (hcall i hvalid).2
            rw [hrefusal] at hnone
            cases hnone
        | none =>
            have hvalid : ValidSetterCall spec values ⟨slot.toNat, hrange⟩ :=
              ⟨slot, call, hdecode, rfl, hrefusal⟩
            cases hopen : openShmHandle w ⟨slot.toNat, hrange⟩ with
            | none =>
                refine iff_of_false (fun hlen => Nat.zero_ne_one hlen) ?_
                exact not_not.mpr ⟨_, hvalid, (openShmHandle_eq_none_iff w _).mp hopen⟩
            | some seg =>
                refine iff_of_true (by rw [sendBasicReply_eq h, List.length_singleton]) ?_
                rintro ⟨i, hi, hunavailable⟩
                obtain rfl : (⟨slot.toNat, hrange⟩ : Fin maxSlots) = i := Fin.ext (hcall i hi).1
                rw [(openShmHandle_eq_none_iff w _).mpr hunavailable] at hopen
                cases hopen
      · refine iff_of_true (length_sendError h _ (by decide)) (hinvalid fun i hvalid => hrange ?_)
        have hslot := (hcall i hvalid).1
        omega

/-- A setter that answers with an error has stored nothing. -/
theorem slotSetter_error_unchanged {env : CallEnv} (h : env.Succeeds) (spec : SetterSpec) (w : BridgeWorld)
    (values : List DBusValue) {name : BusError} {text : CStr}
    (herror : .error name text ∈ (slotSetter spec env w values).replies) :
    (slotSetter spec env w values).world = w := by
  unfold slotSetter at herror ⊢
  split
  · rfl
  · rename_i slot call hdecode
    rw [hdecode] at herror
    dsimp only at herror
    split_ifs at herror ⊢
    · split
      · rfl
      · rename_i hvalid
        rw [hvalid] at herror
        dsimp only at herror
        split
        · rfl
        · rename_i seg hseg
          rw [hseg] at herror
          simp [sendBasicReply_eq h] at herror
    · rfl

/-! ## Every method -/

/-- The methods that send a text of somebody else. -/
def textMethods : List String :=
  ["GetDetailedInfo", "GetCurrentProfile", "ListProfiles", "LoadProfile", "SaveProfile", "DeleteProfile",
    "SetAutoSave"]

/-- Only their texts can be refused. -/
theorem not_textRefused {env : CallEnv} {w : BridgeWorld} {name : String} {args : List DBusValue}
    (hname : name ∉ textMethods) : ¬TextRefused env w name args := by
  simp only [textMethods, List.mem_cons, not_or] at hname
  simp [TextRefused, hname]

/-- **How a row replies**: a method that is no setter once, unless a text of its is refused; a setter has no
text that could be. -/
def RowReplies (row : String × (MethodHandler ⊕ SetterSpec)) : Prop :=
  match row.2 with
  | .inl handler => ∀ (env : CallEnv) (w : BridgeWorld) (args : List DBusValue), env.Succeeds →
      ((handler env w args).replies.length = 1 ↔ ¬TextRefused env w row.1 args)
  | .inr spec => validUtf8 spec.expected.toList = true ∧ row.1 ∉ textMethods

/-- A method with texts of its own only. -/
theorem OneReply.row {name : String} {handler : MethodHandler} (h : OneReply handler)
    (hname : name ∉ textMethods) : RowReplies (methodRow name handler) :=
  fun env w args hlib => iff_of_true (h env w args hlib) (not_textRefused hname)

theorem keymap_oneReply : OneReply handleGetKeymap :=
  segmentGetter_oneReply fun _ _ h => (length_sendReply h _).mpr (dies_of_isUtf8 rfl)

theorem triggersDigital_oneReply : OneReply handleGetTriggersDigital :=
  segmentGetter_oneReply fun _ _ h => (length_sendChecked h (by decide) _).mpr (dies_of_isUtf8 rfl)

theorem autoSaveStatus_oneReply : OneReply handleGetAutoSaveStatus :=
  fun _ w _ h => (segmentReader_replies h _ w).mpr fun _ _ => dies_of_isUtf8 rfl

theorem detailedInfo_row : RowReplies (methodRow "GetDetailedInfo" handleGetDetailedInfo) :=
  fun _ w args h => (detailedInfo_replies h w args).trans (by simp [TextRefused, methodRow])

theorem currentProfile_row : RowReplies (methodRow "GetCurrentProfile" handleGetCurrentProfile) :=
  fun _ w args h => (currentProfile_replies h w args).trans (by simp [TextRefused, methodRow])

theorem listProfiles_row : RowReplies (methodRow "ListProfiles" handleListProfiles) :=
  fun _ w args h => (listProfiles_replies h w args).trans (by simp [TextRefused, methodRow])

/-- The three methods with a profile name. -/
theorem namedProfile_row {name : String} {request : ProfileRequest}
    (h : (name = "LoadProfile" ∧ request = .load) ∨ (name = "SaveProfile" ∧ request = .save) ∨
      (name = "DeleteProfile" ∧ request = .delete)) :
    RowReplies (methodRow name (namedProfile request)) := by
  intro env w args hlib
  refine (namedProfile_replies hlib request w args).trans ?_
  rcases h with ⟨rfl, rfl⟩ | ⟨rfl, rfl⟩ | ⟨rfl, rfl⟩ <;> simp [TextRefused, methodRow]

theorem setAutoSave_row : RowReplies (methodRow "SetAutoSave" handleSetAutoSave) :=
  fun _ w args h => (setAutoSave_replies h w args).trans (by simp [TextRefused, methodRow])

theorem bridgeMethods_replies : ∀ row ∈ bridgeMethods, RowReplies row := by
  have setter : ∀ {name : String} {spec : SetterSpec}, validUtf8 spec.expected.toList = true →
      name ∉ textMethods → RowReplies (setterRow name spec) := fun hexpected hname => ⟨hexpected, hname⟩
  simp only [bridgeMethods, List.forall_mem_cons]
  refine ⟨(sendChecked_oneReply (by decide) fun _ => rfl).row (by decide),
    (sendChecked_oneReply (by decide) fun _ => rfl).row (by decide),
    (slotGetter_oneReply fun _ _ => rfl).row (by decide),
    (slotGetter_oneReply fun _ _ => rfl).row (by decide), detailedInfo_row,
    (slotGetter_oneReply fun _ _ => rfl).row (by decide),
    (slotGetter_oneReply fun _ _ => rfl).row (by decide), keymap_oneReply.row (by decide),
    setter (by decide) (by decide), setter (by decide) (by decide), setter (by decide) (by decide),
    setter (by decide) (by decide), setter (by decide) (by decide), setter (by decide) (by decide),
    setter (by decide) (by decide), setter (by decide) (by decide), setter (by decide) (by decide),
    setter (by decide) (by decide), setter (by decide) (by decide), setter (by decide) (by decide),
    setter (by decide) (by decide), setter (by decide) (by decide), setter (by decide) (by decide),
    setter (by decide) (by decide), setter (by decide) (by decide), setter (by decide) (by decide),
    setter (by decide) (by decide), triggersDigital_oneReply.row (by decide),
    setter (by decide) (by decide), setter (by decide) (by decide), setter (by decide) (by decide),
    (sendReply_oneReply fun _ _ => rfl).row (by decide),
    (sendReply_oneReply fun _ _ => rfl).row (by decide),
    (sendReply_oneReply fun _ _ => rfl).row (by decide),
    (sendReply_oneReply fun _ _ => rfl).row (by decide),
    (sendReply_oneReply fun _ _ => rfl).row (by decide),
    (sendReply_oneReply fun _ _ => rfl).row (by decide),
    (sendReply_oneReply fun _ _ => rfl).row (by decide), autoSaveStatus_oneReply.row (by decide),
    currentProfile_row, listProfiles_row, namedProfile_row (Or.inl ⟨rfl, rfl⟩),
    namedProfile_row (Or.inr (Or.inl ⟨rfl, rfl⟩)), namedProfile_row (Or.inr (Or.inr ⟨rfl, rfl⟩)),
    setAutoSave_row, ?_⟩
  exact fun row hrow => absurd hrow List.not_mem_nil

/-- No two methods have one name. -/
theorem bridgeMethods_nodup : (bridgeMethods.map fun row => row.1.toList).Nodup := by
  decide +kernel

/-- In a list whose keys are distinct, looking a key up finds its row. -/
theorem find?_of_nodup_map {α β : Type} [BEq β] [LawfulBEq β] {key : α → β} {l : List α} (h : (l.map key).Nodup)
    {a : α} (ha : a ∈ l) : l.find? (fun b => key b == key a) = some a := by
  induction l with
  | nil => cases ha
  | cons b l ih =>
      rw [List.map_cons, List.nodup_cons] at h
      rw [List.find?_cons]
      rcases List.mem_cons.mp ha with rfl | hmem
      · simp
      · have hne : key b ≠ key a := fun heq => h.1 (heq ▸ List.mem_map_of_mem hmem)
        rw [beq_eq_false_iff_ne.mpr hne]
        exact ih h.2 hmem

/-- A call of a method runs the handler of its row. -/
theorem messageHandler_eq (env : CallEnv) (w : BridgeWorld) (args : List DBusValue)
    {row : String × (MethodHandler ⊕ SetterSpec)} (hrow : row ∈ bridgeMethods) :
    messageHandler env w ⟨some bridgeInterface, some row.1.toList, args⟩ =
      some (rowHandler row.2 env w args) := by
  have hfind := find?_of_nodup_map bridgeMethods_nodup hrow
  simp only [messageHandler, if_true]
  rw [hfind]
  rfl

/-- **A valid setter call for a slot that cannot be opened.** -/
def SetterUnavailable (w : BridgeWorld) (name : String) (args : List DBusValue) : Prop :=
  ∃ spec i, setterRow name spec ∈ bridgeMethods ∧ ValidSetterCall spec args i ∧ SlotUnavailable w i

/-- **How often the bridge replies.**  For each of its methods, every list of arguments and every state: if
the allocations and sends of libdbus succeed, exactly one reply is sent, unless a setter gets valid arguments
and its slot cannot be opened, or the text to be sent is not taken. -/
theorem messageHandler_oneReply_iff (env : CallEnv) (hlib : env.Succeeds) (w : BridgeWorld) {name : String}
    (hname : name ∈ bridgeMethods.map Prod.fst) (args : List DBusValue) :
    (∃ answer, messageHandler env w ⟨some bridgeInterface, some name.toList, args⟩ = some answer ∧
      answer.replies.length = 1) ↔ ¬SetterUnavailable w name args ∧ ¬TextRefused env w name args := by
  obtain ⟨⟨name', method⟩, hrow, rfl⟩ := List.mem_map.mp hname
  -- the row of a name is the only one
  have hunique : ∀ spec, setterRow name' spec ∈ bridgeMethods → method = .inr spec := by
    intro spec hspec
    have hfind := find?_of_nodup_map bridgeMethods_nodup hrow
    have hfind' := find?_of_nodup_map bridgeMethods_nodup hspec
    have heq : (name', method) = setterRow name' spec := Option.some.inj (hfind.symm.trans hfind')
    exact congrArg Prod.snd heq
  have hreplies : (∃ answer, messageHandler env w ⟨some bridgeInterface, some name'.toList, args⟩ =
      some answer ∧ answer.replies.length = 1) ↔ (rowHandler method env w args).replies.length = 1 := by
    rw [messageHandler_eq env w args hrow]
    constructor
    · rintro ⟨answer, heq, hlen⟩
      rw [← Option.some.inj heq] at hlen
      exact hlen
    · exact fun hlen => ⟨_, rfl, hlen⟩
  rw [hreplies]
  have hrowReplies := bridgeMethods_replies _ hrow
  cases method with
  | inl handler =>
      have hnotSetter : ¬SetterUnavailable w name' args := by
        rintro ⟨spec, i, hspec, -⟩
        exact absurd (hunique spec hspec) Sum.inl_ne_inr
      rw [and_iff_right hnotSetter]
      exact hrowReplies env w args hlib
  | inr spec =>
      obtain ⟨hexpected, hnoText⟩ := hrowReplies
      rw [and_iff_left (not_textRefused hnoText)]
      show (slotSetter spec env w args).replies.length = 1 ↔ _
      rw [slotSetter_replies hlib hexpected, not_iff_not]
      constructor
      · rintro ⟨i, hvalid, hunavailable⟩
        exact ⟨spec, i, hrow, hvalid, hunavailable⟩
      · rintro ⟨spec', i, hspec, hvalid, hunavailable⟩
        obtain rfl := Sum.inr.inj (hunique spec' hspec)
        exact ⟨i, hvalid, hunavailable⟩

/-! ## A name that is cut inside a letter -/

/-- The settings thread as the bridge meets it, with one pass over the requests while the bridge waits. -/
def settingsPass {Text : Type} (J : CJson.Lib Text) (world : World Text) (penv : Env Text)
    (shm : SharedData) : SharedData :=
  (profileProcessRequests J { world with shm := shm } penv).shm

/-- **A load that fails is answered exactly when the name is UTF-8 as it was cut.** -/
theorem loadProfile_fails_replies {Text : Type} (J : CJson.Lib Text) (world : World Text) (penv : Env Text)
    {env : CallEnv} (h : env.Succeeds) (hsettings : env.settings = settingsPass J world penv)
    {w : BridgeWorld} {seg : Segment} (hopen : openShmHandleAny w = some seg) (name : CStr)
    (rest : List DBusValue)
    (hfails : (loadProfileFromDisk J
      { world with shm := postRequest ⟨.load, some name, -1, -1⟩ seg.shm }
      (strncpy profileNameLen name)).1 = false) :
    (handleLoadProfile env w (.string name :: rest)).replies.length = 1 ↔
      validUtf8 (strncpy profileNameLen name) = true := by
  set call : Call := ⟨.load, some name, -1, -1⟩ with hcall
  have hname : strncpy profileNameLen (postRequest call seg.shm).profileName = strncpy profileNameLen name :=
    strncpy_postedName call
  -- the answer of the settings thread
  have hanswer : (settingsPass J world penv (postRequest call seg.shm)).profileResponse = -1 ∧
      (settingsPass J world penv (postRequest call seg.shm)).profileResponseMsg =
        strncpy 4096 (profileMsg "Failed to load profile ".toList (strncpy profileNameLen name) []) := by
    have hload : processRequest J { world with shm := postRequest call seg.shm } 1
        (strncpy profileNameLen name) penv =
          ((loadProfileFromDisk J { world with shm := postRequest call seg.shm }
              (strncpy profileNameLen name)).2,
            .respond (-1) (profileMsg "Failed to load profile ".toList (strncpy profileNameLen name) [])) := by
      unfold processRequest processLoad
      rw [if_pos rfl]
      split
      · rename_i heq
        rw [heq] at hfails
        cases hfails
      · rename_i heq
        rw [heq]
    have hreq : (postRequest call seg.shm).profileRequest = 1 := rfl
    unfold settingsPass profileProcessRequests
    dsimp only
    rw [hreq, hname, if_neg one_ne_zero, hload]
    exact ⟨rfl, rfl⟩
  have htext : (strncpy 4096 (profileMsg "Failed to load profile ".toList (strncpy profileNameLen name)
      [])).take (512 - 1) =
        "Failed to load profile '".toList ++ strncpy profileNameLen name ++ ['\''] := by
    have hlen : (strncpy profileNameLen name).length ≤ 63 := strncpy_length profileNameLen name
    generalize strncpy profileNameLen name = cut at hlen
    unfold strncpy profileMsg
    rw [List.take_take, List.take_of_length_le]
    · simp
    · simp only [List.length_append, List.length_cons, List.length_nil]
      have hverb : "Failed to load profile ".toList.length = 23 := by decide
      omega
  rw [handleLoadProfile, namedProfile_replies h]
  unfold NameRefused AnswerRefused
  rw [hsettings]
  constructor
  · intro hnot
    by_contra hbad
    refine hnot ⟨name, rest, rfl, seg, hopen, ?_, ?_, fun hone => ?_⟩
    · rw [hanswer.1]
      decide
    · rw [hanswer.2, htext, validUtf8_between (by decide) (by decide)]
      exact Bool.eq_false_iff.mpr hbad
    · rw [hanswer.1] at hone
      exact absurd hone (by decide)
  · rintro hgood ⟨name', rest', heq, seg', hopen', -, hbad, -⟩
    simp only [List.cons.injEq, DBusValue.string.injEq] at heq
    obtain ⟨rfl, rfl⟩ := heq
    obtain rfl := Option.some.inj (hopen.symm.trans hopen')
    rw [hanswer.2, htext, validUtf8_between (by decide) (by decide), hgood] at hbad
    cases hbad

/-! ## A controller and an empty slot -/

/-- A running daemon and bridge, whose slots all have these cells. -/
def bridgeWith (cells : Cells) : BridgeWorld where
  bridge := { initialMonitor.bridge with daemonAlive := true }
  details := fun _ => ⟨[], [], [], []⟩
  segment := some
    { fits := true
      maps := true
      magicOk := true
      shm := initialShm
      cells := fun _ => cells }

/-- A running daemon and bridge, without a controller. -/
def emptyBridge : BridgeWorld := bridgeWith initialCells

/-- Every libdbus call finds its memory, a failed check is fatal, and nobody else does anything. -/
def calmEnv : CallEnv where
  makesReturn := true
  makesError := true
  appends := true
  sendsReturn := true
  sendsError := true
  checksFatal := true
  settings := id
  systemd := ⟨fun _ => none, none, none, none⟩
  commandStatus := fun _ => 0

theorem calmEnv_succeeds : calmEnv.Succeeds := ⟨rfl, rfl, rfl, rfl, rfl⟩

/-- A profile that does not exist, with a letter of two bytes from byte 63 on: its refusal is never sent. -/
example :
    (handleLoadProfile { calmEnv with settings := settingsPass CJson.treeLib firstBoot quietEnv } emptyBridge
      [.string (List.replicate 62 'a' ++ ['\xC3', '\xA9'])]).replies.length ≠ 1 := by
  have hlib : CallEnv.Succeeds { calmEnv with settings := settingsPass CJson.treeLib firstBoot quietEnv } :=
    ⟨rfl, rfl, rfl, rfl, rfl⟩
  rw [ne_eq, loadProfile_fails_replies CJson.treeLib firstBoot quietEnv hlib rfl rfl _ [] (by decide +kernel)]
  decide

/-- `SetLED` for a controller that is connected: one reply. -/
theorem messageHandler_oneReply_setLed :
    ∃ answer, messageHandler calmEnv (bridgeWith { initialCells with connected := true })
        ⟨some bridgeInterface, some "SetLED".toList, [.byte 0, .byte 255, .byte 0, .byte 0]⟩ = some answer ∧
      answer.replies.length = 1 := by
  refine (messageHandler_oneReply_iff calmEnv calmEnv_succeeds _ (by decide) _).mpr
    ⟨?_, not_textRefused (by decide)⟩
  rintro ⟨spec, i, -, -, hdead | hshut⟩
  · cases hdead
  · rcases hshut _ rfl with h | h | h | h <;> cases h

/-- **`SetLED` for an empty slot**: the caller gets no reply at all. -/
theorem setLed_sends_no_reply :
    ¬∃ answer, messageHandler calmEnv emptyBridge ⟨some bridgeInterface, some "SetLED".toList,
      [.byte 0, .byte 255, .byte 0, .byte 0]⟩ = some answer ∧ answer.replies.length = 1 := by
  rintro ⟨answer, hanswer, hlen⟩
  have hrow : setterRow "SetLED" handleSetLed ∈ bridgeMethods := by
    simp [bridgeMethods]
  have hsilent := messageHandler_eq calmEnv emptyBridge [.byte 0, .byte 255, .byte 0, .byte 0] hrow
  have heq : rowHandler (setterRow "SetLED" handleSetLed).2 calmEnv emptyBridge
      [.byte 0, .byte 255, .byte 0, .byte 0] = answer := Option.some.inj (hsilent.symm.trans hanswer)
  rw [← heq] at hlen
  exact Nat.zero_ne_one hlen

end Dstx
