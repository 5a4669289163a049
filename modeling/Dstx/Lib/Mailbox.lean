/-
# Dstx.Lib.Mailbox — one request cell, one response cell, one polling server, any number of clients.

The protocol pattern, over arbitrary clients `ι`, request codes `κ`, arguments `α` and responses `ρ`
(`0` is "empty" in both cells):

* a client takes the lock, stores a code and then an argument, clears the response, releases the
  lock, and POLLS the response cell without the lock; on a nonzero response it takes the lock, clears
  the cell and returns; it may also give up;
* the server reads the code WITHOUT the lock, then takes the lock to read the argument, executes, and
  under the lock stores a response and empties the request cell.

There is no sequence number, so nothing ties the code the server read to the argument it read, or the
response a client sees to the call it made.  Both ties exist exactly as long as posts keep out of the
server's way: `Step ok` is the protocol in which a post is allowed only where `ok` holds.  `Paired`
(under `CodeSettled`) ties the code to the argument, `Answers` (under `Calm`) ties a response to the
execution of the call that gets it.

`last`, `loaded` and `log` are history: the call of the last post, the call whose code the server
read, and the posts, executions and returns so far, newest first.
-/
import Mathlib.Data.List.Basic
import Mathlib.Logic.Function.Basic

namespace Dstx.Lib.Mailbox

/-- Who holds the lock. -/
inductive Party (ι : Type) where
  | server
  | client (c : ι)
  deriving DecidableEq

/-- What a call posts: a code other than the empty one, and an argument. -/
structure Post (κ α : Type) [Zero κ] where
  code : κ
  arg : α
  code_ne : code ≠ 0

/-- Where a client is in its call. -/
inductive Stage (κ α ρ : Type) [Zero κ] where
  | idle
  /-- Wants the lock. -/
  | entering (p : Post κ α)
  /-- Holds the lock, about to store the code. -/
  | storing (p : Post κ α)
  /-- About to store the argument. -/
  | naming (p : Post κ α)
  /-- About to clear the response. -/
  | clearing (p : Post κ α)
  /-- About to release the lock. -/
  | leaving (p : Post κ α)
  /-- Polls. -/
  | waiting (p : Post κ α)
  /-- Saw the response `r`, wants the lock. -/
  | answered (p : Post κ α) (r : ρ)
  /-- Holds the lock, about to clear the response and return `r`. -/
  | taking (p : Post κ α) (r : ρ)

/-- The stages between taking and releasing the lock. -/
def Stage.holds {κ α ρ : Type} [Zero κ] : Stage κ α ρ → Prop
  | .storing _ | .naming _ | .clearing _ | .leaving _ | .taking _ _ => True
  | _ => False

/-- A client: its stage and how many calls it has started. -/
structure Client (κ α ρ : Type) [Zero κ] where
  stage : Stage κ α ρ
  calls : Nat

/-- Where the server is. -/
inductive Phase (κ α : Type) where
  | idle
  /-- Read the code `k`, wants the lock. -/
  | loaded (k : κ)
  /-- Holds the lock, about to read the argument. -/
  | reading (k : κ)
  /-- Read code and argument, about to execute. -/
  | named (k : κ) (a : α)
  /-- Executed. -/
  | working
  /-- Stored the response, about to empty the request cell. -/
  | answering

/-- A call: the client, and which of its calls. -/
abbrev CallId (ι : Type) := ι × Nat

/-- What has happened. -/
inductive Event (ι κ α ρ : Type) [Zero κ] where
  | posted (id : CallId ι) (p : Post κ α)
  /-- The server executed code and argument; `id` is the call whose code it had read. -/
  | executed (id : Option (CallId ι)) (k : κ) (a : α)
  /-- A call returned a response, or gave up. -/
  | returned (id : CallId ι) (r : Option ρ)

/-- **The mailbox**, with its history. -/
structure Mail (ι κ α ρ : Type) [Zero κ] where
  code : κ
  arg : α
  response : ρ
  lock : Option (Party ι)
  phase : Phase κ α
  clients : ι → Client κ α ρ
  last : Option (CallId ι × Post κ α)
  loaded : Option (CallId ι)
  log : List (Event ι κ α ρ)

variable {ι κ α ρ : Type} [Zero κ]

namespace Mail

/-- The call a client is in, or was in last. -/
def callId (m : Mail ι κ α ρ) (c : ι) : CallId ι := (c, (m.clients c).calls)

/-- The call `id` has not returned yet. -/
def InCall (m : Mail ι κ α ρ) (id : CallId ι) : Prop :=
  (m.clients id.1).calls = id.2 ∧ (m.clients id.1).stage ≠ .idle

variable [DecidableEq ι]

/-- Replace the state of the client `c`. -/
def setClient (m : Mail ι κ α ρ) (c : ι) (cl : Client κ α ρ) : Mail ι κ α ρ :=
  { m with clients := Function.update m.clients c cl }

/-- Client `c` goes on to the stage `s` of its call. -/
def goTo (m : Mail ι κ α ρ) (c : ι) (s : Stage κ α ρ) : Mail ι κ α ρ :=
  m.setClient c ⟨s, (m.clients c).calls⟩

theorem setClient_self (m : Mail ι κ α ρ) (c : ι) (cl : Client κ α ρ) :
    (m.setClient c cl).clients c = cl := Function.update_self ..

theorem setClient_of_ne (m : Mail ι κ α ρ) {c c' : ι} (cl : Client κ α ρ) (h : c' ≠ c) :
    (m.setClient c cl).clients c' = m.clients c' := Function.update_of_ne h ..

end Mail

/-- **The protocol**; `ok` says where a post is allowed. -/
inductive Step [DecidableEq ι] [Zero ρ] (ok : Mail ι κ α ρ → Prop) : Mail ι κ α ρ → Mail ι κ α ρ → Prop
  | call {m} {c : ι} (p : Post κ α) (h : (m.clients c).stage = .idle) :
      Step ok m (m.setClient c ⟨.entering p, (m.clients c).calls + 1⟩)
  | enter {m} {c : ι} {p} (h : (m.clients c).stage = .entering p) (hl : m.lock = none) :
      Step ok m { m.goTo c (.storing p) with lock := some (.client c) }
  | post {m} {c : ι} {p} (h : (m.clients c).stage = .storing p) (hok : ok m) :
      Step ok m { m.goTo c (.naming p) with
        code := p.code
        last := some (m.callId c, p)
        log := .posted (m.callId c) p :: m.log }
  | name {m} {c : ι} {p} (h : (m.clients c).stage = .naming p) :
      Step ok m { m.goTo c (.clearing p) with arg := p.arg }
  | clear {m} {c : ι} {p} (h : (m.clients c).stage = .clearing p) :
      Step ok m { m.goTo c (.leaving p) with response := 0 }
  | leave {m} {c : ι} {p} (h : (m.clients c).stage = .leaving p) :
      Step ok m { m.goTo c (.waiting p) with lock := none }
  | see {m} {c : ι} {p} (h : (m.clients c).stage = .waiting p) (hr : m.response ≠ 0) :
      Step ok m (m.goTo c (.answered p m.response))
  | giveUp {m} {c : ι} {p} (h : (m.clients c).stage = .waiting p) :
      Step ok m { m.goTo c .idle with log := .returned (m.callId c) none :: m.log }
  | reenter {m} {c : ι} {p r} (h : (m.clients c).stage = .answered p r) (hl : m.lock = none) :
      Step ok m { m.goTo c (.taking p r) with lock := some (.client c) }
  | take {m} {c : ι} {p r} (h : (m.clients c).stage = .taking p r) :
      Step ok m { m.goTo c .idle with
        response := 0
        lock := none
        log := .returned (m.callId c) (some r) :: m.log }
  | stay {m} : Step ok m m
  | lock {m} (hl : m.lock = none) : Step ok m { m with lock := some .server }
  | unlock {m} (hl : m.lock = some .server) : Step ok m { m with lock := none }
  | load {m} (hp : m.phase = .idle) (hc : m.code ≠ 0) :
      Step ok m { m with phase := .loaded m.code, loaded := m.last.map Prod.fst }
  | lockName {m k} (hp : m.phase = .loaded k) (hl : m.lock = none) :
      Step ok m { m with phase := .reading k, lock := some .server }
  | readName {m k} (hp : m.phase = .reading k) (hl : m.lock = some .server) :
      Step ok m { m with phase := .named k m.arg, lock := none }
  | execute {m k a} (hp : m.phase = .named k a) :
      Step ok m { m with phase := .working, log := .executed m.loaded k a :: m.log }
  | respond {m} (r : ρ) (hp : m.phase = .working) :
      Step ok m { m with phase := .answering, response := r }
  | finish {m} (hp : m.phase = .answering) (hl : m.lock = some .server) :
      Step ok m { m with phase := .idle, code := 0, lock := none }

theorem Step.mono [DecidableEq ι] [Zero ρ] {ok ok' : Mail ι κ α ρ → Prop} (hle : ∀ m, ok m → ok' m) {m m' : Mail ι κ α ρ}
    (h : Step ok m m') : Step ok' m m' := by
  cases h with
  | call p h => exact .call p h
  | enter h hl => exact .enter h hl
  | post h hok => exact .post h (hle _ hok)
  | name h => exact .name h
  | clear h => exact .clear h
  | leave h => exact .leave h
  | see h hr => exact .see h hr
  | giveUp h => exact .giveUp h
  | reenter h hl => exact .reenter h hl
  | take h => exact .take h
  | stay => exact .stay
  | lock hl => exact .lock hl
  | unlock hl => exact .unlock hl
  | load hp hc => exact .load hp hc
  | lockName hp hl => exact .lockName hp hl
  | readName hp hl => exact .readName hp hl
  | execute hp => exact .execute hp
  | respond r hp => exact .respond r hp
  | finish hp hl => exact .finish hp hl

/-- The argument cell changes only when a client stores its own argument. -/
theorem Step.arg_eq [DecidableEq ι] [Zero ρ] {ok : Mail ι κ α ρ → Prop} {m m' : Mail ι κ α ρ}
    (h : Step ok m m') :
    m'.arg = m.arg ∨ ∃ c p, (m.clients c).stage = .naming p ∧ m'.arg = p.arg := by
  cases h with
  | @name c p hst => exact Or.inr ⟨c, p, hst, rfl⟩
  | _ => exact Or.inl rfl

/-! ## The lock -/

/-- A client inside its locked section holds the lock. -/
def Exclusive (m : Mail ι κ α ρ) : Prop :=
  ∀ c, (m.clients c).stage.holds → m.lock = some (.client c)

section Exclusive

variable {m : Mail ι κ α ρ}

/-- While the lock is free or the server's, no client is inside its section. -/
theorem Exclusive.not_holds (h : Exclusive m) (hl : m.lock = none ∨ m.lock = some .server) (c : ι) :
    ¬(m.clients c).stage.holds := by
  intro hc
  have hlock := h c hc
  rcases hl with hl | hl
  · rw [hl] at hlock
    cases hlock
  · rw [hl] at hlock
    cases hlock

/-- At most one client is inside its section. -/
theorem Exclusive.unique (h : Exclusive m) {c c' : ι} (hc : (m.clients c).stage.holds)
    (hc' : (m.clients c').stage.holds) : c' = c := by
  have hlock := (h c hc).symm.trans (h c' hc')
  cases hlock
  rfl

/-- Rule for a client's step: what the mover's new stage needs, and what the others keep. -/
theorem exclusive_setClient [DecidableEq ι] {c : ι} {cl : Client κ α ρ} {lock : Option (Party ι)}
    (hs : cl.stage.holds → lock = some (.client c))
    (hother : ∀ c', c' ≠ c → (m.clients c').stage.holds → lock = some (.client c')) :
    ∀ c', ((m.setClient c cl).clients c').stage.holds → lock = some (.client c') := by
  intro c' hc'
  by_cases hcc : c' = c
  · subst hcc
    rw [Mail.setClient_self] at hc'
    exact hs hc'
  · rw [Mail.setClient_of_ne m cl hcc] at hc'
    exact hother c' hcc hc'

end Exclusive

theorem Exclusive.step [DecidableEq ι] [Zero ρ] {ok : Mail ι κ α ρ → Prop} {m m' : Mail ι κ α ρ} (h : Exclusive m)
    (hstep : Step ok m m') : Exclusive m' := by
  -- a step inside the section keeps the lock, a step out of it leaves nobody else inside
  have hinside : ∀ {c : ι} {s : Stage κ α ρ}, (m.clients c).stage.holds →
      ∀ c', ((m.goTo c s).clients c').stage.holds → m.lock = some (.client c') := by
    intro c s hc
    exact exclusive_setClient (fun _ => h c hc) fun c' _ hc' => h c' hc'
  have houtside : ∀ {c : ι} {cl : Client κ α ρ}, ¬cl.stage.holds →
      ∀ c', ((m.setClient c cl).clients c').stage.holds → m.lock = some (.client c') := by
    intro c cl hs
    exact exclusive_setClient (fun hs' => absurd hs' hs) fun c' _ hc' => h c' hc'
  have hleave : ∀ {c : ι} {s : Stage κ α ρ}, (m.clients c).stage.holds → ¬s.holds →
      ∀ c', ((m.goTo c s).clients c').stage.holds → none = some (Party.client c') := by
    intro c s hc hs
    refine exclusive_setClient (fun hs' => absurd hs' hs) ?_
    intro c' hne hc'
    exact absurd (h.unique hc hc') hne
  have henter : ∀ {c : ι} {s : Stage κ α ρ}, m.lock = none →
      ∀ c', ((m.goTo c s).clients c').stage.holds → some (Party.client c) = some (.client c') := by
    intro c s hl
    refine exclusive_setClient (fun _ => rfl) ?_
    intro c' _ hc'
    exact absurd hc' (h.not_holds (Or.inl hl) c')
  cases hstep with
  | call p hst => exact houtside id
  | enter hst hl => exact henter hl
  | post hst hok => exact hinside (by rw [hst]; trivial)
  | name hst => exact hinside (by rw [hst]; trivial)
  | clear hst => exact hinside (by rw [hst]; trivial)
  | leave hst => exact hleave (by rw [hst]; trivial) id
  | see hst hr => exact houtside id
  | giveUp hst => exact houtside id
  | reenter hst hl => exact henter hl
  | take hst => exact hleave (by rw [hst]; trivial) id
  | stay => exact h
  | lock hl => exact fun c hc => absurd hc (h.not_holds (Or.inl hl) c)
  | unlock hl => exact fun c hc => absurd hc (h.not_holds (Or.inr hl) c)
  | load hp hc => exact h
  | lockName hp hl => exact fun c hc => absurd hc (h.not_holds (Or.inl hl) c)
  | readName hp hl => exact fun c hc => absurd hc (h.not_holds (Or.inr hl) c)
  | execute hp => exact h
  | respond r hp => exact h
  | finish hp hl => exact fun c hc => absurd hc (h.not_holds (Or.inr hl) c)

/-! ## The cells -/

/-- **What the cells hold**: a nonempty code is the code of the last post, and so is the argument,
unless the poster is still about to store it. -/
structure Cells (m : Mail ι κ α ρ) : Prop where
  exclusive : Exclusive m
  code : m.code ≠ 0 → ∃ id p, m.last = some (id, p) ∧ p.code = m.code
  naming : ∀ c p, (m.clients c).stage = .naming p → m.last = some (m.callId c, p)
  arg : (∀ c p, (m.clients c).stage ≠ .naming p) → ∀ id p, m.last = some (id, p) → m.arg = p.arg
  posted : ∀ id p, m.last = some (id, p) → .posted id p ∈ m.log

section Cells

variable {m : Mail ι κ α ρ}

/-- Rule for a server's step: the clients, the last post and the argument stay, the code stays or is
emptied. -/
theorem Cells.server (h : Cells m) {m' : Mail ι κ α ρ} (hex : Exclusive m')
    (hcl : m'.clients = m.clients) (hcode : m'.code = m.code ∨ m'.code = 0) (harg : m'.arg = m.arg)
    (hlast : m'.last = m.last) (hlog : ∀ e, e ∈ m.log → e ∈ m'.log) : Cells m' := by
  refine ⟨hex, ?_, ?_, ?_, ?_⟩
  · intro hne
    rcases hcode with hcode | hcode
    · rw [hcode] at hne ⊢
      rw [hlast]
      exact h.code hne
    · exact absurd hcode hne
  · intro c p hc
    have hid : m'.callId c = m.callId c := by
      unfold Mail.callId
      rw [hcl]
    rw [hcl] at hc
    rw [hlast, hid]
    exact h.naming c p hc
  · rw [hcl, harg, hlast]
    exact h.arg
  · intro id p hp
    rw [hlast] at hp
    exact hlog _ (h.posted id p hp)

variable [DecidableEq ι]

/-- Rule for a step that stores into neither cell and moves one client from and to stages other than
`naming`. -/
theorem Cells.setClient (h : Cells m) {m' : Mail ι κ α ρ} (hex : Exclusive m') {c : ι}
    {cl : Client κ α ρ} (hcl : m'.clients = (m.setClient c cl).clients)
    (hold : ∀ p, (m.clients c).stage ≠ .naming p) (hnew : ∀ p, cl.stage ≠ .naming p)
    (hcode : m'.code = m.code) (harg : m'.arg = m.arg) (hlast : m'.last = m.last)
    (hlog : ∀ e, e ∈ m.log → e ∈ m'.log) : Cells m' := by
  refine ⟨hex, ?_, ?_, ?_, ?_⟩
  · rw [hcode, hlast]
    exact h.code
  · intro c' p hc'
    rw [hcl] at hc'
    by_cases hcc : c' = c
    · subst hcc
      rw [Mail.setClient_self] at hc'
      exact absurd hc' (hnew p)
    · rw [Mail.setClient_of_ne m cl hcc] at hc'
      have hid : m'.callId c' = m.callId c' := by
        unfold Mail.callId
        rw [hcl, Mail.setClient_of_ne m cl hcc]
      rw [hlast, hid]
      exact h.naming c' p hc'
  · intro hnone id p hp
    rw [hlast] at hp
    rw [harg]
    refine h.arg ?_ id p hp
    intro c' p' hc'
    by_cases hcc : c' = c
    · subst hcc
      exact hold p' hc'
    · refine hnone c' p' ?_
      rw [hcl, Mail.setClient_of_ne m cl hcc]
      exact hc'
  · intro id p hp
    rw [hlast] at hp
    exact hlog _ (h.posted id p hp)

/-- Storing the code makes the call the last post; its argument is still to come. -/
theorem Cells.post (h : Cells m) {c : ι} {p : Post κ α} (hst : (m.clients c).stage = .storing p)
    {m' : Mail ι κ α ρ} (hex : Exclusive m')
    (hm' : m' = { m.goTo c (.naming p) with
      code := p.code
      last := some (m.callId c, p)
      log := .posted (m.callId c) p :: m.log }) : Cells m' := by
  have hself : m'.clients c = ⟨.naming p, (m.clients c).calls⟩ := by
    rw [hm']
    exact Mail.setClient_self ..
  subst hm'
  refine ⟨hex, fun _ => ⟨_, p, rfl, rfl⟩, ?_, ?_, ?_⟩
  · intro c' p' hc'
    -- the section is exclusive, so the only client that can be naming is the poster
    have hholds : (m.clients c).stage.holds := by rw [hst]; trivial
    by_cases hcc : c' = c
    · subst hcc
      rw [hself] at hc'
      cases hc'
      show some (m.callId c', p) = some (_, p)
      unfold Mail.callId
      rw [hself]
    · have hc'' : (m.clients c').stage = .naming p' := by
        rw [← Mail.setClient_of_ne m _ hcc]
        exact hc'
      exact absurd (h.exclusive.unique hholds (by rw [hc'']; trivial)) hcc
  · intro hnone
    exact absurd (by rw [hself]) (hnone c p)
  · intro id p' hp'
    cases hp'
    exact List.mem_cons_self

/-- Storing the argument completes the last post. -/
theorem Cells.name (h : Cells m) {c : ι} {p : Post κ α} (hst : (m.clients c).stage = .naming p)
    {m' : Mail ι κ α ρ} (hex : Exclusive m')
    (hm' : m' = { m.goTo c (.clearing p) with arg := p.arg }) : Cells m' := by
  have hself : m'.clients c = ⟨.clearing p, (m.clients c).calls⟩ := by
    rw [hm']
    exact Mail.setClient_self ..
  have hlast := h.naming c p hst
  have hholds : (m.clients c).stage.holds := by rw [hst]; trivial
  subst hm'
  refine ⟨hex, h.code, ?_, ?_, h.posted⟩
  · intro c' p' hc'
    by_cases hcc : c' = c
    · subst hcc
      rw [hself] at hc'
      cases hc'
    · have hc'' : (m.clients c').stage = .naming p' := by
        rw [← Mail.setClient_of_ne m _ hcc]
        exact hc'
      exact absurd (h.exclusive.unique hholds (by rw [hc'']; trivial)) hcc
  · intro _ id p' hp'
    have hsame : some (id, p') = some (m.callId c, p) := hp'.symm.trans hlast
    cases hsame
    rfl

theorem Cells.step [Zero ρ] {ok : Mail ι κ α ρ → Prop} {m' : Mail ι κ α ρ} (h : Cells m)
    (hstep : Step ok m m') : Cells m' := by
  have hex := h.exclusive.step hstep
  cases hstep with
  | call p hst =>
      exact h.setClient hex rfl (by rw [hst]; nofun) nofun rfl rfl rfl fun _ he => he
  | enter hst hl => exact h.setClient hex rfl (by rw [hst]; nofun) nofun rfl rfl rfl fun _ he => he
  | post hst hok => exact h.post hst hex rfl
  | name hst => exact h.name hst hex rfl
  | clear hst => exact h.setClient hex rfl (by rw [hst]; nofun) nofun rfl rfl rfl fun _ he => he
  | leave hst => exact h.setClient hex rfl (by rw [hst]; nofun) nofun rfl rfl rfl fun _ he => he
  | see hst hr => exact h.setClient hex rfl (by rw [hst]; nofun) nofun rfl rfl rfl fun _ he => he
  | giveUp hst =>
      exact h.setClient hex rfl (by rw [hst]; nofun) nofun rfl rfl rfl fun _ => List.mem_cons_of_mem _
  | reenter hst hl =>
      exact h.setClient hex rfl (by rw [hst]; nofun) nofun rfl rfl rfl fun _ he => he
  | take hst =>
      exact h.setClient hex rfl (by rw [hst]; nofun) nofun rfl rfl rfl fun _ => List.mem_cons_of_mem _
  | stay => exact h
  | lock hl => exact h.server hex rfl (Or.inl rfl) rfl rfl fun _ he => he
  | unlock hl => exact h.server hex rfl (Or.inl rfl) rfl rfl fun _ he => he
  | load hp hc => exact h.server hex rfl (Or.inl rfl) rfl rfl fun _ he => he
  | lockName hp hl => exact h.server hex rfl (Or.inl rfl) rfl rfl fun _ he => he
  | readName hp hl => exact h.server hex rfl (Or.inl rfl) rfl rfl fun _ he => he
  | execute hp => exact h.server hex rfl (Or.inl rfl) rfl rfl fun _ => List.mem_cons_of_mem _
  | respond r hp => exact h.server hex rfl (Or.inl rfl) rfl rfl fun _ he => he
  | finish hp hl => exact h.server hex rfl (Or.inr rfl) rfl rfl fun _ he => he

end Cells

/-! ## The server executes what one call posted -/

/-- The server is not between reading a code and reading the argument. -/
def CodeSettled (m : Mail ι κ α ρ) : Prop :=
  ∀ k, m.phase ≠ .loaded k ∧ m.phase ≠ .reading k

/-- **Code and argument come from one call**, at every point of the server's way. -/
structure Paired (m : Mail ι κ α ρ) : Prop where
  cells : Cells m
  loaded : ∀ k, m.phase = .loaded k ∨ m.phase = .reading k →
    ∃ id p, m.last = some (id, p) ∧ m.loaded = some id ∧ p.code = k
  named : ∀ k a, m.phase = .named k a →
    ∃ id p, m.loaded = some id ∧ .posted id p ∈ m.log ∧ p.code = k ∧ p.arg = a
  executed : ∀ id k a, .executed id k a ∈ m.log →
    ∃ i p, id = some i ∧ .posted i p ∈ m.log ∧ p.code = k ∧ p.arg = a

section Paired

variable {m m' : Mail ι κ α ρ}

/-- Rule for a step that leaves the server where it is and executes nothing.  A post may change the
last call, but only while the server is not between its two reads. -/
theorem Paired.keep (h : Paired m) (hcells : Cells m') (hphase : m'.phase = m.phase)
    (hloaded : m'.loaded = m.loaded) (hlast : m'.last = m.last ∨ CodeSettled m)
    (hlog : ∀ e, e ∈ m.log → e ∈ m'.log)
    (hexec : ∀ id k a, .executed id k a ∈ m'.log → .executed id k a ∈ m.log) : Paired m' := by
  refine ⟨hcells, ?_, ?_, ?_⟩
  · intro k hk
    rw [hphase] at hk
    rcases hlast with hlast | hsettled
    · rw [hlast, hloaded]
      exact h.loaded k hk
    · rcases hk with hk | hk
      · exact absurd hk (hsettled k).1
      · exact absurd hk (hsettled k).2
  · intro k a hka
    rw [hphase] at hka
    obtain ⟨id, p, hid, hp, hrest⟩ := h.named k a hka
    exact ⟨id, p, hloaded.trans hid, hlog _ hp, hrest⟩
  · intro id k a he
    obtain ⟨i, p, hid, hp, hrest⟩ := h.executed id k a (hexec id k a he)
    exact ⟨i, p, hid, hlog _ hp, hrest⟩

/-- The argument the server reads under the lock is the last post's. -/
theorem Paired.arg_of_reading (h : Paired m) {k : κ} (hp : m.phase = .reading k)
    (hl : m.lock = some .server) :
    ∃ id p, m.last = some (id, p) ∧ m.loaded = some id ∧ p.code = k ∧ p.arg = m.arg := by
  obtain ⟨id, p, hlast, hloaded, hcode⟩ := h.loaded k (Or.inr hp)
  -- the server holds the lock: nobody is between storing a code and its argument
  have hnaming : ∀ c p, (m.clients c).stage ≠ .naming p := by
    intro c p hc
    exact h.cells.exclusive.not_holds (Or.inr hl) c (by rw [hc]; trivial)
  exact ⟨id, p, hlast, hloaded, hcode, (h.cells.arg hnaming id p hlast).symm⟩

/-- An event other than an execution adds none. -/
theorem executed_of_cons {e : Event ι κ α ρ} {log : List (Event ι κ α ρ)}
    (hne : ∀ id k a, e ≠ .executed id k a) (id : Option (CallId ι)) (k : κ) (a : α)
    (h : .executed id k a ∈ e :: log) : .executed id k a ∈ log := by
  rcases List.mem_cons.mp h with heq | h
  · exact absurd heq.symm (hne id k a)
  · exact h

theorem Paired.step [DecidableEq ι] [Zero ρ] (h : Paired m) (hstep : Step CodeSettled m m') :
    Paired m' := by
  have hcells := h.cells.step hstep
  cases hstep with
  | call p hst => exact h.keep hcells rfl rfl (Or.inl rfl) (fun _ he => he) fun _ _ _ he => he
  | enter hst hl => exact h.keep hcells rfl rfl (Or.inl rfl) (fun _ he => he) fun _ _ _ he => he
  | post hst hok =>
      -- the last post changes, but the guard says that no phase of the server refers to it
      refine h.keep hcells rfl rfl (Or.inr hok) (fun _ => List.mem_cons_of_mem _) ?_
      exact executed_of_cons nofun
  | name hst => exact h.keep hcells rfl rfl (Or.inl rfl) (fun _ he => he) fun _ _ _ he => he
  | clear hst => exact h.keep hcells rfl rfl (Or.inl rfl) (fun _ he => he) fun _ _ _ he => he
  | leave hst => exact h.keep hcells rfl rfl (Or.inl rfl) (fun _ he => he) fun _ _ _ he => he
  | see hst hr => exact h.keep hcells rfl rfl (Or.inl rfl) (fun _ he => he) fun _ _ _ he => he
  | giveUp hst =>
      refine h.keep hcells rfl rfl (Or.inl rfl) (fun _ => List.mem_cons_of_mem _) ?_
      exact executed_of_cons nofun
  | reenter hst hl => exact h.keep hcells rfl rfl (Or.inl rfl) (fun _ he => he) fun _ _ _ he => he
  | take hst =>
      refine h.keep hcells rfl rfl (Or.inl rfl) (fun _ => List.mem_cons_of_mem _) ?_
      exact executed_of_cons nofun
  | stay => exact h
  | lock hl => exact h.keep hcells rfl rfl (Or.inl rfl) (fun _ he => he) fun _ _ _ he => he
  | unlock hl => exact h.keep hcells rfl rfl (Or.inl rfl) (fun _ he => he) fun _ _ _ he => he
  | load hp hc =>
      -- a nonempty cell is the last post's, so that is the call the code comes from
      refine ⟨hcells, ?_, nofun, h.executed⟩
      intro k hk
      obtain ⟨id, p, hlast, hcode⟩ := h.cells.code hc
      refine ⟨id, p, hlast, ?_, ?_⟩
      · show m.last.map Prod.fst = some id
        rw [hlast]
        rfl
      · rcases hk with hk | hk
        · cases hk
          exact hcode
        · cases hk
  | lockName hp hl =>
      refine ⟨hcells, ?_, nofun, h.executed⟩
      intro k hk
      rcases hk with hk | hk
      · cases hk
      · cases hk
        exact h.loaded _ (Or.inl hp)
  | readName hp hl =>
      refine ⟨hcells, ?_, ?_, h.executed⟩
      · intro k' hk'
        rcases hk' with hk' | hk' <;> cases hk'
      · intro k' a hka
        obtain ⟨id, p, hlast, hloaded, hcode, harg⟩ := h.arg_of_reading hp hl
        cases hka
        exact ⟨id, p, hloaded, h.cells.posted id p hlast, hcode, harg⟩
  | execute hp =>
      refine ⟨hcells, ?_, nofun, ?_⟩
      · intro k' hk'
        rcases hk' with hk' | hk' <;> cases hk'
      · intro id k' a' he
        rcases List.mem_cons.mp he with heq | he
        · cases heq
          obtain ⟨i, p, hi, hposted, hrest⟩ := h.named _ _ hp
          exact ⟨i, p, hi, List.mem_cons_of_mem _ hposted, hrest⟩
        · obtain ⟨i, p, hi, hposted, hrest⟩ := h.executed id k' a' he
          exact ⟨i, p, hi, List.mem_cons_of_mem _ hposted, hrest⟩
  | respond r hp =>
      refine ⟨hcells, ?_, nofun, h.executed⟩
      intro k hk
      rcases hk with hk | hk <;> cases hk
  | finish hp hl =>
      refine ⟨hcells, ?_, nofun, h.executed⟩
      intro k hk
      rcases hk with hk | hk <;> cases hk

end Paired

/-! ## A call that gets a response was executed -/

/-- The server is idle, and the request cell is empty or its call has returned. -/
def Calm (m : Mail ι κ α ρ) : Prop :=
  m.phase = .idle ∧ (m.code = 0 ∨ ∀ id p, m.last = some (id, p) → ¬m.InCall id)

theorem Calm.codeSettled {m : Mail ι κ α ρ} (h : Calm m) : CodeSettled m := by
  intro k
  rw [h.1]
  exact ⟨nofun, nofun⟩

/-- The phases before the execution. -/
def Phase.before {κ α : Type} : Phase κ α → Prop
  | .working | .answering => False
  | _ => True

/-- The call `id` was posted and later executed. -/
def Served (m : Mail ι κ α ρ) (id : CallId ι) (p : Post κ α) : Prop :=
  [.executed (some id) p.code p.arg, .posted id p].Sublist m.log

/-- The call `id` is the last post and the server has not executed it yet. -/
structure Pending (m : Mail ι κ α ρ) (id : CallId ι) (p : Post κ α) : Prop where
  last : m.last = some (id, p)
  code : m.code ≠ 0
  phase : m.phase.before

/-- What a client may rely on at a stage of its call `id`. -/
def Stage.Sound (m : Mail ι κ α ρ) [Zero ρ] (id : CallId ι) : Stage κ α ρ → Prop
  | .naming p | .clearing p => Served m id p ∨ Pending m id p
  | .leaving p | .waiting p => Served m id p ∨ (Pending m id p ∧ m.response = 0)
  | .answered p _ | .taking p _ => Served m id p
  | _ => True

/-- **Every response belongs to an executed call.** -/
structure Answers [Zero ρ] (m : Mail ι κ α ρ) : Prop where
  paired : Paired m
  named : ∀ k a, m.phase = .named k a →
    ∃ id p, m.last = some (id, p) ∧ m.loaded = some id ∧ p.code = k ∧ p.arg = a
  sound : ∀ c, (m.clients c).stage.Sound m (m.callId c)
  returned : ∀ id r, .returned id (some r) ∈ m.log → ∃ p,
    [.returned id (some r), .executed (some id) p.code p.arg, .posted id p].Sublist m.log

section Answers

variable {m m' : Mail ι κ α ρ}

theorem Served.mono {id : CallId ι} {p : Post κ α} (h : Served m id p)
    (hlog : m.log.Sublist m'.log) : Served m' id p :=
  List.Sublist.trans h hlog

/-- The log only grows, so a return that was in order stays in order. -/
theorem returned_mono {e : Event ι κ α ρ}
    (h : ∀ id r, .returned id (some r) ∈ m.log → ∃ p,
      [.returned id (some r), .executed (some id) p.code p.arg, .posted id p].Sublist m.log)
    (hlog : m'.log = e :: m.log) (hne : ∀ id r, e ≠ .returned id (some r)) :
    ∀ id r, .returned id (some r) ∈ m'.log → ∃ p,
      [.returned id (some r), .executed (some id) p.code p.arg, .posted id p].Sublist m'.log := by
  intro id r hmem
  rw [hlog] at hmem ⊢
  rcases List.mem_cons.mp hmem with heq | hmem
  · exact absurd heq.symm (hne id r)
  · obtain ⟨p, hp⟩ := h id r hmem
    exact ⟨p, hp.cons e⟩

/-- A pending call stays pending when code, last post and phase stay. -/
theorem Pending.keep {id : CallId ι} {p : Post κ α} (h : Pending m id p) (hlast : m'.last = m.last)
    (hcode : m'.code = m.code) (hphase : m.phase.before → m'.phase.before) : Pending m' id p :=
  ⟨hlast.trans h.last, by rw [hcode]; exact h.code, hphase h.phase⟩

variable [Zero ρ]

/-- What a call relies on survives a step that keeps the log, and after which a pending call is
pending as before or served. -/
theorem Stage.Sound.keep {id : CallId ι} {s : Stage κ α ρ} (h : s.Sound m id)
    (hlog : m.log.Sublist m'.log)
    (hpending : ∀ p, Pending m id p →
      Served m' id p ∨ (Pending m' id p ∧ (m.response = 0 → m'.response = 0))) :
    s.Sound m' id := by
  have hkeep : ∀ p, Served m id p ∨ Pending m id p → Served m' id p ∨ Pending m' id p := by
    intro p hp
    rcases hp with hs | hp
    · exact Or.inl (hs.mono hlog)
    · exact (hpending p hp).imp_right And.left
  have hkeep' : ∀ p, Served m id p ∨ (Pending m id p ∧ m.response = 0) →
      Served m' id p ∨ (Pending m' id p ∧ m'.response = 0) := by
    intro p hp
    rcases hp with hs | ⟨hp, hr⟩
    · exact Or.inl (hs.mono hlog)
    · exact (hpending p hp).imp_right fun h => ⟨h.1, h.2 hr⟩
  cases s with
  | idle => trivial
  | entering p => trivial
  | storing p => trivial
  | naming p => exact hkeep p h
  | clearing p => exact hkeep p h
  | leaving p => exact hkeep' p h
  | waiting p => exact hkeep' p h
  | answered p r => exact Served.mono h hlog
  | taking p r => exact Served.mono h hlog

/-- Rule for a server's step: clients, last post and log stay or grow; pending calls are looked after
by `hpending`. -/
theorem Answers.server (h : Answers m) (hpaired : Paired m') (hcl : m'.clients = m.clients)
    (hlog : m.log.Sublist m'.log)
    (hpending : ∀ id p, Pending m id p →
      Served m' id p ∨ (Pending m' id p ∧ (m.response = 0 → m'.response = 0)))
    (hnamed : ∀ k a, m'.phase = .named k a →
      ∃ id p, m'.last = some (id, p) ∧ m'.loaded = some id ∧ p.code = k ∧ p.arg = a)
    (hret : ∀ id r, .returned id (some r) ∈ m'.log → ∃ p,
      [.returned id (some r), .executed (some id) p.code p.arg, .posted id p].Sublist m'.log) :
    Answers m' := by
  refine ⟨hpaired, hnamed, ?_, hret⟩
  intro c
  have hid : m'.callId c = m.callId c := by
    unfold Mail.callId
    rw [hcl]
  rw [hcl, hid]
  exact (h.sound c).keep hlog (hpending _)

/-- Rule for a server's step that only moves the lock or the phase, before the execution. -/
theorem Answers.serverQuiet (h : Answers m) (hpaired : Paired m') (hcl : m'.clients = m.clients)
    (hlog : m'.log = m.log) (hlast : m'.last = m.last) (hcode : m'.code = m.code)
    (hphase : m.phase.before → m'.phase.before) (hresp : m'.response = m.response)
    (hnamed : ∀ k a, m'.phase = .named k a →
      ∃ id p, m'.last = some (id, p) ∧ m'.loaded = some id ∧ p.code = k ∧ p.arg = a) :
    Answers m' := by
  refine h.server hpaired hcl (by rw [hlog]) ?_ hnamed (by rw [hlog]; exact h.returned)
  intro id p hp
  exact Or.inr ⟨hp.keep hlast hcode hphase, fun hr => hresp.trans hr⟩

/-- Rule for a client's step: the server stays where it is; the mover's new stage is sound; for the
other calls a pending one stays pending. -/
theorem Answers.client [DecidableEq ι] (h : Answers m) (hpaired : Paired m') {c : ι}
    {cl : Client κ α ρ} (hcl : m'.clients = (m.setClient c cl).clients)
    (hphase : m'.phase = m.phase) (hloaded : m'.loaded = m.loaded)
    (hlast : m'.last = m.last ∨ m.phase = .idle) (hlog : m.log.Sublist m'.log)
    (hmover : cl.stage.Sound m' (c, cl.calls))
    (hpending : ∀ c' p, c' ≠ c → (m.clients c').stage ≠ .idle → Pending m (m.callId c') p →
      Pending m' (m.callId c') p ∧ (m.response = 0 → m'.response = 0))
    (hret : ∀ id r, .returned id (some r) ∈ m'.log → ∃ p,
      [.returned id (some r), .executed (some id) p.code p.arg, .posted id p].Sublist m'.log) :
    Answers m' := by
  refine ⟨hpaired, ?_, ?_, hret⟩
  · intro k a hka
    rw [hphase] at hka
    rcases hlast with hlast | hidle
    · rw [hlast, hloaded]
      exact h.named k a hka
    · rw [hidle] at hka
      cases hka
  · intro c'
    unfold Mail.callId
    rw [hcl]
    by_cases hcc : c' = c
    · subst hcc
      rw [Mail.setClient_self]
      exact hmover
    · rw [Mail.setClient_of_ne m cl hcc]
      by_cases hidle : (m.clients c').stage = .idle
      · rw [hidle]
        trivial
      · refine (h.sound c').keep hlog ?_
        intro p hp
        exact Or.inr (hpending c' p hcc hidle hp)

/-- Rule for a client's step that leaves code, last post and server alone. -/
theorem Answers.clientQuiet [DecidableEq ι] (h : Answers m) (hpaired : Paired m') {c : ι}
    {cl : Client κ α ρ} (hcl : m'.clients = (m.setClient c cl).clients)
    (hphase : m'.phase = m.phase) (hloaded : m'.loaded = m.loaded) (hlast : m'.last = m.last)
    (hcode : m'.code = m.code) (hlog : m.log.Sublist m'.log)
    (hresp : m.response = 0 → m'.response = 0) (hmover : cl.stage.Sound m' (c, cl.calls))
    (hret : ∀ id r, .returned id (some r) ∈ m'.log → ∃ p,
      [.returned id (some r), .executed (some id) p.code p.arg, .posted id p].Sublist m'.log) :
    Answers m' := by
  refine h.client hpaired hcl hphase hloaded (Or.inl hlast) hlog hmover ?_ hret
  intro c' p _ _ hp
  exact ⟨hp.keep hlast hcode (by rw [hphase]; exact id), hresp⟩

theorem Answers.step [DecidableEq ι] (h : Answers m) (hstep : Step Calm m m') : Answers m' := by
  have hpaired := h.paired.step (hstep.mono fun _ => Calm.codeSettled)
  cases hstep with
  | call p hst => exact h.clientQuiet hpaired rfl rfl rfl rfl rfl (List.Sublist.refl _) id trivial h.returned
  | enter hst hl => exact h.clientQuiet hpaired rfl rfl rfl rfl rfl (List.Sublist.refl _) id trivial h.returned
  | @post c p hst hok =>
      refine h.client hpaired rfl rfl rfl (Or.inr hok.1) (List.sublist_cons_self _ _) ?_ ?_
        (returned_mono h.returned rfl nofun)
      · have hbefore : m.phase.before := by
          rw [hok.1]
          trivial
        exact Or.inr ⟨rfl, p.code_ne, hbefore⟩
      · -- a call that is still pending would still be in progress
        intro c' p' _ hactive hp'
        rcases hok.2 with hempty | hreturned
        · exact absurd hempty hp'.code
        · exact absurd ⟨rfl, hactive⟩ (hreturned _ p' hp'.last)
  | @name c p hst =>
      refine h.clientQuiet hpaired rfl rfl rfl rfl rfl (List.Sublist.refl _) id ?_ h.returned
      have hs := h.sound c
      rw [hst] at hs
      exact hs.imp (fun hs => hs) fun hp => hp.keep rfl rfl id
  | @clear c p hst =>
      refine h.clientQuiet hpaired rfl rfl rfl rfl rfl (List.Sublist.refl _) (fun _ => rfl) ?_ h.returned
      have hs := h.sound c
      rw [hst] at hs
      exact hs.imp (fun hs => hs) fun hp => ⟨hp.keep rfl rfl id, rfl⟩
  | @leave c p hst =>
      refine h.clientQuiet hpaired rfl rfl rfl rfl rfl (List.Sublist.refl _) id ?_ h.returned
      have hs := h.sound c
      rw [hst] at hs
      exact hs.imp (fun hs => hs) fun hp => ⟨hp.1.keep rfl rfl id, hp.2⟩
  | @see c p hst hr =>
      refine h.clientQuiet hpaired rfl rfl rfl rfl rfl (List.Sublist.refl _) id ?_ h.returned
      have hs := h.sound c
      rw [hst] at hs
      rcases hs with hs | ⟨-, hzero⟩
      · exact hs
      · exact absurd hzero hr
  | giveUp hst =>
      exact h.clientQuiet hpaired rfl rfl rfl rfl rfl (List.sublist_cons_self _ _) id trivial
        (returned_mono h.returned rfl nofun)
  | @reenter c p r hst hl =>
      refine h.clientQuiet hpaired rfl rfl rfl rfl rfl (List.Sublist.refl _) id ?_ h.returned
      have hs := h.sound c
      rw [hst] at hs
      exact hs
  | @take c p r hst =>
      -- the call was served when it saw the response, and the log only grows
      refine h.clientQuiet hpaired rfl rfl rfl rfl rfl (List.sublist_cons_self _ _) (fun _ => rfl) trivial ?_
      have hs := h.sound c
      rw [hst] at hs
      intro id r' hmem
      rcases List.mem_cons.mp hmem with heq | hmem
      · cases heq
        exact ⟨p, List.Sublist.cons_cons _ hs⟩
      · obtain ⟨p', hp'⟩ := h.returned id r' hmem
        exact ⟨p', hp'.cons _⟩
  | stay => exact h
  | lock hl => exact h.serverQuiet hpaired rfl rfl rfl rfl id rfl h.named
  | unlock hl => exact h.serverQuiet hpaired rfl rfl rfl rfl id rfl h.named
  | load hp hc => exact h.serverQuiet hpaired rfl rfl rfl rfl (fun _ => trivial) rfl nofun
  | lockName hp hl => exact h.serverQuiet hpaired rfl rfl rfl rfl (fun _ => trivial) rfl nofun
  | readName hp hl =>
      refine h.serverQuiet hpaired rfl rfl rfl rfl (fun _ => trivial) rfl ?_
      intro k a hka
      obtain ⟨id, p, hlast, hloaded, hcode, harg⟩ := h.paired.arg_of_reading hp hl
      cases hka
      exact ⟨id, p, hlast, hloaded, hcode, harg⟩
  | execute hp =>
      refine h.server hpaired rfl (List.sublist_cons_self _ _) ?_ nofun
        (returned_mono h.returned rfl nofun)
      intro id p hpend
      left
      -- a pending call is the last post, and the last post is what the server has read
      obtain ⟨id', p', hlast, hloaded, hcode, harg⟩ := h.named _ _ hp
      have hsame : some (id', p') = some (id, p) := hlast.symm.trans hpend.last
      cases hsame
      have hposted := h.paired.cells.posted id p hlast
      unfold Served
      rw [hloaded, hcode, harg]
      exact (List.singleton_sublist.mpr hposted).cons_cons _
  | respond r hp =>
      -- from the execution on nothing is pending, so any response may be stored
      refine h.server hpaired rfl (List.Sublist.refl _) ?_ nofun h.returned
      intro id p hpend
      have hbefore := hpend.phase
      rw [hp] at hbefore
      exact hbefore.elim
  | finish hp hl =>
      refine h.server hpaired rfl (List.Sublist.refl _) ?_ nofun h.returned
      intro id p hpend
      have hbefore := hpend.phase
      rw [hp] at hbefore
      exact hbefore.elim

end Answers

/-! ## Calls are numbered -/

/-- The call has stored its code. -/
def Stage.posted {κ α ρ : Type} [Zero κ] : Stage κ α ρ → Prop
  | .entering _ | .storing _ => False
  | _ => True

/-- The call `id` has stored its code. -/
def Mail.Posted (m : Mail ι κ α ρ) (id : CallId ι) : Prop :=
  id.2 < (m.clients id.1).calls ∨
    (id.2 = (m.clients id.1).calls ∧ (m.clients id.1).stage.posted)

/-- The last post and the code the server read are of calls that have stored their code. -/
structure Numbered (m : Mail ι κ α ρ) : Prop where
  last : ∀ id p, m.last = some (id, p) → m.Posted id
  loaded : ∀ id, m.loaded = some id → m.Posted id

section Numbered

variable {m m' : Mail ι κ α ρ}

/-- Rule for a server's step: the clients and the last post stay. -/
theorem Numbered.server (h : Numbered m) (hcl : m'.clients = m.clients) (hlast : m'.last = m.last)
    (hloaded : m'.loaded = m.loaded ∨ m'.loaded = m.last.map Prod.fst) : Numbered m' := by
  have hposted : ∀ id, m.Posted id → m'.Posted id := by
    intro id hid
    unfold Mail.Posted
    rw [hcl]
    exact hid
  refine ⟨?_, ?_⟩
  · intro id p hp
    rw [hlast] at hp
    exact hposted id (h.last id p hp)
  · intro id hid
    rcases hloaded with heq | heq
    · rw [heq] at hid
      exact hposted id (h.loaded id hid)
    · rw [heq] at hid
      obtain ⟨⟨i, p⟩, hp, rfl⟩ := Option.map_eq_some_iff.mp hid
      exact hposted i (h.last i p hp)

variable [DecidableEq ι]

/-- A client that goes on, in its call or to the next one, takes no post back. -/
theorem Mail.Posted.setClient {id : CallId ι} (h : m.Posted id) {c : ι} {cl : Client κ α ρ}
    (hcl : (m.clients c).calls < cl.calls ∨
      ((m.clients c).calls = cl.calls ∧ ((m.clients c).stage.posted → cl.stage.posted))) :
    (m.setClient c cl).Posted id := by
  unfold Mail.Posted
  by_cases hc : id.1 = c
  · rw [hc, setClient_self]
    unfold Mail.Posted at h
    rw [hc] at h
    rcases h with hlt | ⟨heq, hposted⟩
    · left
      rcases hcl with hcl | hcl
      · exact Nat.lt_trans hlt hcl
      · rw [← hcl.1]
        exact hlt
    · rcases hcl with hcl | hcl
      · exact Or.inl (heq ▸ hcl)
      · exact Or.inr ⟨heq.trans hcl.1, hcl.2 hposted⟩
  · rw [setClient_of_ne m cl hc]
    exact h

/-- Rule for a client's step other than a post. -/
theorem Numbered.client (h : Numbered m) {c : ι} {cl : Client κ α ρ}
    (hm' : m'.clients = (m.setClient c cl).clients) (hlast : m'.last = m.last)
    (hloaded : m'.loaded = m.loaded)
    (hcl : (m.clients c).calls < cl.calls ∨
      ((m.clients c).calls = cl.calls ∧ ((m.clients c).stage.posted → cl.stage.posted))) :
    Numbered m' := by
  have hposted : ∀ id, m.Posted id → m'.Posted id := by
    intro id hid
    have hset := hid.setClient hcl
    unfold Mail.Posted at hset ⊢
    rw [hm']
    exact hset
  refine ⟨?_, ?_⟩
  · intro id p hp
    rw [hlast] at hp
    exact hposted id (h.last id p hp)
  · intro id hid
    rw [hloaded] at hid
    exact hposted id (h.loaded id hid)

theorem Numbered.step [Zero ρ] {ok : Mail ι κ α ρ → Prop} (h : Numbered m) (hstep : Step ok m m') :
    Numbered m' := by
  cases hstep with
  | call p hst => exact h.client rfl rfl rfl (Or.inl (Nat.lt_succ_self _))
  | enter hst hl => exact h.client rfl rfl rfl (Or.inr ⟨rfl, by rw [hst]; exact id⟩)
  | @post c p hst hok =>
      have hposted : ∀ id, m.Posted id → (m.goTo c (.naming p)).Posted id := by
        intro id hid
        exact hid.setClient (Or.inr ⟨rfl, fun _ => trivial⟩)
      refine ⟨?_, fun id hid => hposted id (h.loaded id hid)⟩
      intro id p' hp'
      cases hp'
      right
      show (m.clients c).calls = ((m.goTo c (.naming p)).clients c).calls ∧
        ((m.goTo c (.naming p)).clients c).stage.posted
      unfold Mail.goTo
      rw [Mail.setClient_self]
      exact ⟨rfl, trivial⟩
  | name hst => exact h.client rfl rfl rfl (Or.inr ⟨rfl, fun _ => trivial⟩)
  | clear hst => exact h.client rfl rfl rfl (Or.inr ⟨rfl, fun _ => trivial⟩)
  | leave hst => exact h.client rfl rfl rfl (Or.inr ⟨rfl, fun _ => trivial⟩)
  | see hst hr => exact h.client rfl rfl rfl (Or.inr ⟨rfl, fun _ => trivial⟩)
  | giveUp hst => exact h.client rfl rfl rfl (Or.inr ⟨rfl, fun _ => trivial⟩)
  | reenter hst hl => exact h.client rfl rfl rfl (Or.inr ⟨rfl, fun _ => trivial⟩)
  | take hst => exact h.client rfl rfl rfl (Or.inr ⟨rfl, fun _ => trivial⟩)
  | stay => exact h
  | lock hl => exact h.server rfl rfl (Or.inl rfl)
  | unlock hl => exact h.server rfl rfl (Or.inl rfl)
  | load hp hc => exact h.server rfl rfl (Or.inr rfl)
  | lockName hp hl => exact h.server rfl rfl (Or.inl rfl)
  | readName hp hl => exact h.server rfl rfl (Or.inl rfl)
  | execute hp => exact h.server rfl rfl (Or.inl rfl)
  | respond r hp => exact h.server rfl rfl (Or.inl rfl)
  | finish hp hl => exact h.server rfl rfl (Or.inl rfl)

end Numbered

/-! ## The start -/

/-- Nobody is in a call, nothing is posted and nothing has happened. -/
structure Fresh (m : Mail ι κ α ρ) : Prop where
  stage : ∀ c, (m.clients c).stage = .idle
  code : m.code = 0
  phase : m.phase = .idle
  last : m.last = none
  loaded : m.loaded = none
  log : m.log = []

theorem Fresh.paired {m : Mail ι κ α ρ} (h : Fresh m) : Paired m := by
  have hlast : ∀ id p, m.last ≠ some (id, p) := by
    intro id p hp
    rw [h.last] at hp
    cases hp
  refine ⟨⟨?_, ?_, ?_, ?_, ?_⟩, ?_, ?_, ?_⟩
  · intro c hc
    rw [h.stage c] at hc
    exact hc.elim
  · exact fun hne => absurd h.code hne
  · intro c p hc
    rw [h.stage c] at hc
    cases hc
  · exact fun _ id p hp => absurd hp (hlast id p)
  · exact fun id p hp => absurd hp (hlast id p)
  · intro k hk
    rw [h.phase] at hk
    rcases hk with hk | hk <;> cases hk
  · intro k a hka
    rw [h.phase] at hka
    cases hka
  · intro id k a he
    rw [h.log] at he
    cases he

theorem Fresh.answers [Zero ρ] {m : Mail ι κ α ρ} (h : Fresh m) : Answers m := by
  refine ⟨h.paired, ?_, ?_, ?_⟩
  · intro k a hka
    rw [h.phase] at hka
    cases hka
  · intro c
    rw [h.stage c]
    trivial
  · intro id r hr
    rw [h.log] at hr
    cases hr

end Dstx.Lib.Mailbox
