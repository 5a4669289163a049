/-
# Dstx.Lib.Replay — a panel of controls, driven by events.

A virtual device is a PANEL: every control `κ` shows a value `ν`, and an event sets one control.  The
state of the device is the replay of the events sent to it.  Two ways of driving it:

* `sendAll` — send every listed control;
* `sendChanged` — send only the listed controls whose value differs from a cache of what was sent last.

The second is as good as the first EXACTLY when no cached value lies about the panel
(`replay_sendChanged_eq_iff`): a control whose cached value equals the one to be shown must show it.
-/
import Mathlib.Logic.Function.Basic
import Mathlib.Data.List.Basic

namespace Dstx.Lib

variable {κ ν : Type*} [DecidableEq κ]

/-- **The panel after a list of events.** -/
def replay (panel : κ → ν) (events : List (κ × ν)) : κ → ν :=
  events.foldl (fun p e => Function.update p e.1 e.2) panel

@[simp] theorem replay_nil (panel : κ → ν) : replay panel [] = panel := rfl

@[simp] theorem replay_cons (panel : κ → ν) (e : κ × ν) (events : List (κ × ν)) :
    replay panel (e :: events) = replay (Function.update panel e.1 e.2) events := rfl

/-- Send the value `target` of every listed control. -/
def sendAll (target : κ → ν) (ks : List κ) : List (κ × ν) := ks.map fun k => (k, target k)

/-- Whatever is sent of `target`, a control it names shows `target` and the others are untouched. -/
theorem replay_sendAll (panel target : κ → ν) (ks : List κ) (k : κ) :
    replay panel (sendAll target ks) k = if k ∈ ks then target k else panel k := by
  induction ks generalizing panel with
  | nil => simp [sendAll]
  | cons a ks ih =>
      have hcons : sendAll target (a :: ks) = (a, target a) :: sendAll target ks := rfl
      rw [hcons, replay_cons, ih]
      by_cases hk : k ∈ ks
      · simp [hk]
      · by_cases ha : k = a
        · subst ha
          simp [hk]
        · simp [hk, ha]

section Cache

variable [DecidableEq ν]

/-- Send the listed controls whose value differs from the cached one. -/
def sendChanged (cache target : κ → ν) (ks : List κ) : List (κ × ν) :=
  sendAll target (ks.filter fun k => cache k ≠ target k)

/-- The cache after sending: what was compared is now cached. -/
def cacheSent (cache target : κ → ν) (ks : List κ) : κ → ν :=
  fun k => if k ∈ ks then target k else cache k

theorem replay_sendChanged (panel cache target : κ → ν) (ks : List κ) (k : κ) :
    replay panel (sendChanged cache target ks) k =
      if k ∈ ks ∧ cache k ≠ target k then target k else panel k := by
  unfold sendChanged
  rw [replay_sendAll]
  simp only [List.mem_filter, decide_eq_true_eq]

/-- **Cached sending shows the target exactly when the cache does not lie about it.** -/
theorem replay_sendChanged_eq_iff (panel cache target : κ → ν) {ks : List κ} {k : κ} (hk : k ∈ ks) :
    replay panel (sendChanged cache target ks) k = target k ↔
      (cache k = target k → panel k = target k) := by
  rw [replay_sendChanged]
  by_cases hc : cache k = target k
  · simp [hc]
  · simp [hk, hc]

/-- The cache of a control is right: it is what the panel shows, or a value the control is
never set to. -/
def CacheRight (never : κ → ν → Prop) (panel cache : κ → ν) : Prop :=
  ∀ k, cache k = panel k ∨ never k (cache k)

/-- A right cache lets cached sending show the target. -/
theorem CacheRight.replay_eq {never : κ → ν → Prop} {panel cache target : κ → ν} {ks : List κ} {k : κ}
    (h : CacheRight never panel cache) (hk : k ∈ ks) (hn : ¬never k (target k)) :
    replay panel (sendChanged cache target ks) k = target k := by
  rw [replay_sendChanged_eq_iff panel cache target hk]
  intro hc
  rcases h k with heq | hnever
  · exact heq.symm.trans hc
  · rw [hc] at hnever
    exact absurd hnever hn

/-- Cached sending keeps the cache right. -/
theorem CacheRight.sent {never : κ → ν → Prop} {panel cache target : κ → ν} {ks : List κ}
    (h : CacheRight never panel cache) (hn : ∀ k ∈ ks, ¬never k (target k)) :
    CacheRight never (replay panel (sendChanged cache target ks)) (cacheSent cache target ks) := by
  intro k
  by_cases hk : k ∈ ks
  · left
    rw [h.replay_eq hk (hn k hk), cacheSent, if_pos hk]
  · rw [replay_sendChanged, cacheSent, if_neg hk, if_neg (fun hand => hk hand.1)]
    exact h k

end Cache

end Dstx.Lib
