/-
# Dstx.Lib.Notices — a directory, the notices of its changes, and a listing of it.

A program that wants to know every entry of a directory LISTS it once and asks for NOTICES of later
creations.  Between the two, entries come and go.  The kernel keeps the notices in a queue of bounded length:
one that repeats the last one is dropped, one that does not fit is dropped too, and the queue says so
(`none`) and nothing more.  A listing gives every entry that was there all the time; of the others it
promises nothing.

Entries are told apart by their BIRTH, since a name can come back.  `Owed` says of which births the program
can hear at all; `owed_of_watched_listed` is the reason to ask for the notices first: then it is every one.
`Covered` is the invariant of such a program — an entry it can hear of is in the listing, in the queue, or
`done` — and there is one rule for each operation.
-/
import Mathlib.Data.List.Basic

namespace Dstx.Lib

variable {ν : Type*} [DecidableEq ν]

/-- **A directory with a watch and a listing.** -/
structure Notified (ν : Type*) where
  /-- The names in the directory, each with its birth. -/
  entries : List (ν × Nat)
  nextBirth : Nat
  /-- The first birth of which there are notices. -/
  watchedAt : Option Nat
  /-- The notices; `none` says that some were dropped. -/
  queue : List (Option ν)
  capacity : Nat
  dropped : Bool
  /-- The first birth too late for the listing. -/
  listedAt : Option Nat
  /-- The names that were there when the listing began, have been there since, and are still to come. -/
  unlisted : List ν

namespace Notified

/-- A directory nobody looks at. -/
def unwatched (entries : List (ν × Nat)) (nextBirth capacity : Nat) : Notified ν where
  entries := entries
  nextBirth := nextBirth
  watchedAt := none
  queue := []
  capacity := capacity
  dropped := false
  listedAt := none
  unlisted := []

/-! ## Operations -/

/-- A notice is queued. -/
def notify (d : Notified ν) (n : ν) : Notified ν :=
  if d.queue.getLast? = some (some n) then d
  else if d.queue.length < d.capacity then { d with queue := d.queue ++ [some n] }
  else
    { d with
      queue := if d.queue.getLast? = some none then d.queue else d.queue ++ [none]
      dropped := true }

/-- The name, which is not there, is created. -/
def create (d : Notified ν) (n : ν) : Notified ν :=
  let d' := { d with entries := d.entries ++ [(n, d.nextBirth)], nextBirth := d.nextBirth + 1 }
  if d.watchedAt.isSome then d'.notify n else d'

/-- The name is removed. -/
def remove (d : Notified ν) (n : ν) : Notified ν :=
  { d with
    entries := d.entries.filter (·.1 ≠ n)
    unlisted := d.unlisted.filter (· ≠ n) }

/-- The program asks for notices; the kernel may refuse. -/
def watch (d : Notified ν) (granted : Bool) : Notified ν :=
  { d with watchedAt := if granted then some d.nextBirth else none }

/-- The listing begins. -/
def list (d : Notified ν) : Notified ν :=
  { d with
    listedAt := some d.nextBirth
    unlisted := d.entries.map (·.1) }

/-- The listing gives a name. -/
def give (d : Notified ν) (n : ν) : Notified ν := { d with unlisted := d.unlisted.filter (· ≠ n) }

/-- The program takes the first notices out of the queue. -/
def take (d : Notified ν) (k : Nat) : Notified ν := { d with queue := d.queue.drop k }

/-! ## Births -/

/-- **The program can hear of this birth**: from the listing or from a notice. -/
def Owed (d : Notified ν) (b : Nat) : Prop :=
  (∃ l, d.listedAt = some l ∧ b < l) ∨ ∃ w, d.watchedAt = some w ∧ w ≤ b

/-- The births are in order, and the watch is older than the listing. -/
structure InOrder (d : Notified ν) : Prop where
  born : ∀ e ∈ d.entries, e.2 < d.nextBirth
  watched : ∀ w, d.watchedAt = some w → w ≤ d.nextBirth
  listed : ∀ l, d.listedAt = some l → l ≤ d.nextBirth
  order : ∀ w l, d.watchedAt = some w → d.listedAt = some l → w ≤ l

omit [DecidableEq ν] in
/-- **Who asks for notices before listing can hear of every entry.** -/
theorem owed_of_watched_listed {d : Notified ν} (h : d.InOrder) {w l : Nat} (hw : d.watchedAt = some w)
    (hl : d.listedAt = some l) (b : Nat) : d.Owed b := by
  rcases Nat.lt_or_ge b l with hlt | hge
  · exact .inl ⟨l, hl, hlt⟩
  · exact .inr ⟨w, hw, Nat.le_trans (h.order w l hw hl) hge⟩

/-- What queuing a notice leaves alone. -/
theorem notify_rest (d : Notified ν) (n : ν) :
    (d.notify n).entries = d.entries ∧ (d.notify n).nextBirth = d.nextBirth ∧
      (d.notify n).watchedAt = d.watchedAt ∧ (d.notify n).listedAt = d.listedAt ∧
      (d.notify n).unlisted = d.unlisted := by
  unfold notify
  split
  · exact ⟨rfl, rfl, rfl, rfl, rfl⟩
  · split
    · exact ⟨rfl, rfl, rfl, rfl, rfl⟩
    · exact ⟨rfl, rfl, rfl, rfl, rfl⟩

/-- What a creation leaves alone, and the new entry. -/
theorem create_rest (d : Notified ν) (n : ν) :
    (d.create n).entries = d.entries ++ [(n, d.nextBirth)] ∧ (d.create n).nextBirth = d.nextBirth + 1 ∧
      (d.create n).watchedAt = d.watchedAt ∧ (d.create n).listedAt = d.listedAt ∧
      (d.create n).unlisted = d.unlisted := by
  unfold create
  dsimp only
  split
  · exact notify_rest _ n
  · exact ⟨rfl, rfl, rfl, rfl, rfl⟩

/-- A queued notice stays, and the new one is there or was dropped. -/
theorem notify_queue (d : Notified ν) (n : ν) :
    (∀ x ∈ d.queue, x ∈ (d.notify n).queue) ∧ (d.dropped = true → (d.notify n).dropped = true) ∧
      (some n ∈ (d.notify n).queue ∨ (d.notify n).dropped = true) := by
  unfold notify
  split
  · rename_i hlast
    exact ⟨fun x hx => hx, id, .inl (List.mem_of_getLast? hlast)⟩
  · split
    · exact ⟨fun x hx => List.mem_append_left _ hx, id, .inl (List.mem_append_right _ (by simp))⟩
    · refine ⟨fun x hx => ?_, fun _ => rfl, .inr rfl⟩
      dsimp only
      split
      · exact hx
      · exact List.mem_append_left _ hx

/-- The same for a creation that is watched. -/
theorem create_queue (d : Notified ν) (n : ν) :
    (∀ x ∈ d.queue, x ∈ (d.create n).queue) ∧ (d.dropped = true → (d.create n).dropped = true) ∧
      (d.watchedAt.isSome → some n ∈ (d.create n).queue ∨ (d.create n).dropped = true) := by
  unfold create
  dsimp only
  split
  · obtain ⟨hold, hdropped, hnew⟩ := notify_queue
      { d with entries := d.entries ++ [(n, d.nextBirth)], nextBirth := d.nextBirth + 1 } n
    exact ⟨hold, hdropped, fun _ => hnew⟩
  · rename_i hunwatched
    exact ⟨fun x hx => hx, id, fun hwatched => absurd hwatched hunwatched⟩

section InOrder

variable {d : Notified ν}

omit [DecidableEq ν] in
theorem inOrder_unwatched {entries : List (ν × Nat)} {nextBirth : Nat}
    (h : ∀ e ∈ entries, e.2 < nextBirth) (capacity : Nat) :
    (unwatched entries nextBirth capacity).InOrder where
  born := h
  watched := nofun
  listed := nofun
  order := nofun

theorem InOrder.create (h : d.InOrder) (n : ν) : (d.create n).InOrder := by
  obtain ⟨hentries, hnext, hwatched, hlisted, -⟩ := d.create_rest n
  refine ⟨fun e he => ?_, fun w hw => ?_, fun l hl => ?_, fun w l hw hl => ?_⟩
  · rw [hentries, List.mem_append, List.mem_singleton] at he
    rw [hnext]
    rcases he with he | rfl
    · exact Nat.lt_succ_of_lt (h.born e he)
    · exact Nat.lt_succ_self _
  · rw [hnext]
    exact Nat.le_succ_of_le (h.watched w (hwatched ▸ hw))
  · rw [hnext]
    exact Nat.le_succ_of_le (h.listed l (hlisted ▸ hl))
  · exact h.order w l (hwatched ▸ hw) (hlisted ▸ hl)

theorem InOrder.remove (h : d.InOrder) (n : ν) : (d.remove n).InOrder where
  born := fun e he => h.born e (List.mem_of_mem_filter he)
  watched := h.watched
  listed := h.listed
  order := h.order

omit [DecidableEq ν] in
/-- The watch comes first. -/
theorem InOrder.watch (h : d.InOrder) (hlisted : d.listedAt = none) (granted : Bool) :
    (d.watch granted).InOrder where
  born := h.born
  watched := by
    intro w hw
    cases granted with
    | true =>
        obtain rfl := Option.some.inj hw
        exact Nat.le_refl _
    | false => cases hw
  listed := h.listed
  order := by
    intro w l _ hl
    rw [show d.listedAt = some l from hl] at hlisted
    cases hlisted

omit [DecidableEq ν] in
theorem InOrder.list (h : d.InOrder) : d.list.InOrder where
  born := h.born
  watched := h.watched
  listed := by
    intro l hl
    obtain rfl := Option.some.inj hl
    exact Nat.le_refl _
  order := by
    intro w l hw hl
    obtain rfl := Option.some.inj hl
    exact h.watched w hw

theorem InOrder.give (h : d.InOrder) (n : ν) : (d.give n).InOrder :=
  ⟨h.born, h.watched, h.listed, h.order⟩

omit [DecidableEq ν] in
theorem InOrder.take (h : d.InOrder) (k : Nat) : (d.take k).InOrder :=
  ⟨h.born, h.watched, h.listed, h.order⟩

end InOrder

/-! ## The invariant of the program -/

/-- **Every entry the program can hear of is still to come, or `done`.** -/
def Covered (d : Notified ν) (done : ν → Nat → Prop) : Prop :=
  ∀ n b, (n, b) ∈ d.entries → d.Owed b → n ∈ d.unlisted ∨ some n ∈ d.queue ∨ done n b

section Covered

variable {d : Notified ν} {done done' : ν → Nat → Prop}

omit [DecidableEq ν] in
/-- Nothing is owed to a program that has asked for nothing. -/
theorem covered_of_asked_nothing (hwatched : d.watchedAt = none) (hlisted : d.listedAt = none) :
    d.Covered done := by
  rintro n b - (⟨l, hl, -⟩ | ⟨w, hw, -⟩)
  · rw [hlisted] at hl
    cases hl
  · rw [hwatched] at hw
    cases hw

omit [DecidableEq ν] in
theorem Covered.mono (h : d.Covered done) (hdone : ∀ n b, done n b → done' n b) : d.Covered done' :=
  fun n b he howed => (h n b he howed).imp_right (Or.imp_right (hdone n b))

/-- **A creation**: its notice is in the queue, unless it was dropped. -/
theorem Covered.create (h : d.Covered done) (hd : d.InOrder) (n : ν)
    (hkept : (d.create n).dropped = false) : (d.create n).Covered done := by
  obtain ⟨hentries, -, hwatched, hlisted, hunlisted⟩ := d.create_rest n
  obtain ⟨hold, -, hnew⟩ := d.create_queue n
  intro m b he howed
  have howed' : d.Owed b := by
    unfold Owed at howed ⊢
    rwa [hwatched, hlisted] at howed
  rw [hentries, List.mem_append, List.mem_singleton] at he
  rw [hunlisted]
  rcases he with he | he
  · exact (h m b he howed').imp_right (Or.imp_left (hold _))
  · obtain ⟨rfl, rfl⟩ := Prod.mk.inj he
    rcases howed' with ⟨l, hl, hlt⟩ | ⟨w, hw, -⟩
    · exact absurd (hd.listed l hl) (Nat.not_le_of_lt hlt)
    · rcases hnew (by rw [hw]; rfl) with hqueued | hdropped
      · exact .inr (.inl hqueued)
      · rw [hkept] at hdropped
        cases hdropped

/-- **A removal** owes nothing about the name, and leaves the others where they are. -/
theorem Covered.remove (h : d.Covered done) (n : ν) : (d.remove n).Covered done := by
  intro m b he howed
  obtain ⟨hmem, hne⟩ := List.mem_filter.mp he
  exact (h m b hmem howed).imp_left fun hunlisted => List.mem_filter.mpr ⟨hunlisted, hne⟩

omit [DecidableEq ν] in
/-- **The watch**: no entry is as young as that. -/
theorem Covered.watch (hd : d.InOrder) (hlisted : d.listedAt = none) (granted : Bool) :
    (d.watch granted).Covered done := by
  rintro n b he (⟨l, hl, -⟩ | ⟨w, hw, hle⟩)
  · rw [show d.listedAt = some l from hl] at hlisted
    cases hlisted
  · cases granted with
    | true =>
        obtain rfl := Option.some.inj hw
        exact absurd (hd.born _ he) (Nat.not_lt_of_le hle)
    | false => cases hw

omit [DecidableEq ν] in
/-- **The listing begins**: every entry is still to come. -/
theorem covered_list : d.list.Covered done := fun _ _ he _ => .inl (List.mem_map_of_mem he)

/-- **A listed name**, when its entry is done with it. -/
theorem Covered.give (h : d.Covered done) {n : ν} (hgiven : ∀ b, (n, b) ∈ d.entries → done' n b)
    (hdone : ∀ m b, done m b → done' m b) : (d.give n).Covered done' := by
  intro m b he howed
  by_cases hm : m = n
  · subst hm
    exact .inr (.inr (hgiven b he))
  · refine (h m b he howed).imp (fun hunlisted => ?_) (Or.imp_right (hdone m b))
    exact List.mem_filter.mpr ⟨hunlisted, decide_eq_true hm⟩

omit [DecidableEq ν] in
/-- **Notices that are read**, when they are done with or noted. -/
theorem Covered.take (h : d.Covered done) {k : Nat}
    (htaken : ∀ n b, some n ∈ d.queue.take k → done' n b) (hdone : ∀ n b, done n b → done' n b) :
    (d.take k).Covered done' := by
  intro n b he howed
  rcases h n b he howed with hunlisted | hqueued | hdid
  · exact .inl hunlisted
  · rw [← List.take_append_drop k d.queue, List.mem_append] at hqueued
    exact .inr (hqueued.symm.imp_right (htaken n b))
  · exact .inr (.inr (hdone n b hdid))

end Covered

end Notified

end Dstx.Lib
