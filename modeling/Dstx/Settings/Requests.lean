/-
# Dstx.Settings.Requests — what a client may conclude from the request protocol.

* As long as no client stores a request while the thread, having read one, waits for the mutex to read
  its name, every pair the thread executes was posted by one call (`executed_pair_posted`).
* As long as clients post only when the thread serves no request and the request cell holds no request
  of a call still in progress, every response goes to a call whose own request was executed
  (`response_means_executed`).

Both are the mailbox's invariants, read through `Sys.mail`.  Without these conditions both fail:
`delete_hits_other_name` and `response_without_execution` are the runs.
-/
import Dstx.Settings.Mail
import Dstx.Profile.RoundTrip

namespace Dstx

open Dstx.Lib
open Dstx.Lib.Mailbox (Mail Party CallId Stage Phase Post)

variable {Text ι : Type} (J : CJson.Lib Text)

/-! ## Code and name of an executed request -/

/-- **Every pair the thread executed was posted by one call.** -/
def PairsPosted (σ : Sys Text ι) : Prop :=
  ∀ id req name, .executed id req name ∈ σ.hist.log →
    ∃ i call, .posted i call ∈ σ.hist.log ∧ call.request.code = req ∧ call.postedName = name

/-- The thread has read a request and waits for the mutex to read its name. -/
def Pc.waitsForName : Pc → Bool
  | .nameLock _ => true
  | _ => false

theorem mem_mail_posted {σ : Sys Text ι} {id : CallId ι} {p : Post Int CStr}
    (h : .posted id p ∈ σ.mail.log) : ∃ call, .posted id call ∈ σ.hist.log ∧ call.post = p := by
  obtain ⟨e, he, heq⟩ := List.mem_map.mp h
  cases e with
  | posted i call =>
      cases heq
      exact ⟨call, he, rfl⟩
  | executed i req name => cases heq
  | returned i response => cases heq

theorem pairsPosted_of_paired {σ : Sys Text ι} (h : Mailbox.Paired σ.mail) : PairsPosted σ := by
  intro id req name he
  have he' : .executed id req name ∈ σ.mail.log := List.mem_map_of_mem he
  obtain ⟨i, p, -, hp, hcode, harg⟩ := h.executed id req name he'
  obtain ⟨call, hcall, rfl⟩ := mem_mail_posted hp
  exact ⟨i, call, hcall, hcode, harg⟩

theorem Pc.eq_of_phase_loaded {pc : Pc} {req : Int} (h : pc.phase = .loaded req) :
    pc = .nameLock req := by
  unfold Pc.phase at h
  split at h
  case h_7 =>
      cases h
      rfl
  all_goals first
    | cases h
    | rename_i k; cases k <;> cases h

theorem Pc.eq_of_phase_reading {pc : Pc} {req : Int} (h : pc.phase = .reading req) :
    pc = .nameRead req := by
  unfold Pc.phase at h
  split at h
  case h_8 =>
      cases h
      rfl
  all_goals first
    | cases h
    | rename_i k; cases k <;> cases h

/-- A client that is about to store a request holds the mutex, so the thread is not reading a name. -/
theorem codeSettled_of_store {σ : Sys Text ι} (ht : Tidy σ) {c : ι}
    (hc : (σ.clients c).pc = .storeRequest) (hp : σ.pc.waitsForName = false) :
    Mailbox.CodeSettled σ.mail := by
  have hholds : (σ.mail.clients c).stage.holds := by
    show (σ.clients c).stage.holds
    simp [Client.stage, hc, Stage.holds]
  intro req
  refine ⟨?_, ?_⟩
  · intro hphase
    rw [Pc.eq_of_phase_loaded hphase] at hp
    cases hp
  · intro hphase
    have hserver : σ.lock = some .server :=
      ht.locked (by rw [Pc.eq_of_phase_reading hphase]; trivial)
    exact ht.exclusive.not_holds (Or.inr hserver) c hholds

section Theorems

variable [DecidableEq ι] (fs : Fs Text) (slots : Fin maxSlots → Controller) (fd : Int) (env : Env Text)

/-- **The thread executes what one call posted** — along every interleaving of any number of clients
with the thread in which no request is stored while the thread waits to read a name. -/
theorem executed_pair_posted (σ : Sys Text ι)
    (h : Run (sysStep J) (PostsWhere fun σ => σ.pc.waitsForName = false)
      (initialSys J fs slots fd env) σ) : PairsPosted σ := by
  have hstart : Tidy (initialSys J fs slots fd env : Sys Text ι) ∧
      Mailbox.Paired (initialSys J fs slots fd env : Sys Text ι).mail :=
    ⟨tidy_initialSys J fs slots fd env, (fresh_initialSys J fs slots fd env).paired⟩
  have hinv : Tidy σ ∧ Mailbox.Paired σ.mail := by
    refine h.invariant (I := fun σ => Tidy σ ∧ Mailbox.Paired σ.mail) ?_ hstart
    intro l s t hs hok hstep
    have hposts : PostsWhere (fun σ => Mailbox.CodeSettled σ.mail) l s := by
      cases l with
      | client c => exact fun hc => codeSettled_of_store hs.1 hc (hok hc)
      | _ => trivial
    exact ⟨hs.1.step J hstep, hs.2.step (mail_step J hs.1 hposts hstep)⟩
  exact pairsPosted_of_paired hinv.2

end Theorems

/-! ## The call a response goes to -/

/-- **Every response went to a call that was posted and then executed.** -/
def ResponsesEarned (σ : Sys Text ι) : Prop :=
  ∀ id r, .returned id (some r) ∈ σ.hist.log → ∃ call,
    [.executed (some id) call.request.code call.postedName, .posted id call].Sublist σ.hist.log

/-- The call `id` has not returned yet. -/
def Sys.InCall (σ : Sys Text ι) (id : CallId ι) : Prop :=
  (σ.clients id.1).calls = id.2 ∧ (σ.clients id.1).pc ≠ .idle

/-- The thread serves no request, and the request cell is empty or holds the request of a call that
has returned (with a timeout). -/
def Unclaimed (σ : Sys Text ι) : Prop :=
  σ.pc.phase = .idle ∧
    (σ.world.shm.profileRequest = 0 ∨ ∀ id call, σ.hist.last = some (id, call) → ¬σ.InCall id)

theorem stage_ne_idle {cl : Client} (h : cl.stage ≠ .idle) : cl.pc ≠ .idle := by
  intro hpc
  apply h
  unfold Client.stage
  rw [hpc]

theorem Unclaimed.calm {σ : Sys Text ι} (h : Unclaimed σ) : Mailbox.Calm σ.mail := by
  refine ⟨h.1, h.2.imp_right ?_⟩
  intro hcall id p hlast hin
  obtain ⟨⟨i, call⟩, hx, heq⟩ := Option.map_eq_some_iff.mp hlast
  cases heq
  exact hcall _ call hx ⟨hin.1, stage_ne_idle hin.2⟩

theorem responsesEarned_of_answers {σ : Sys Text ι} (h : Mailbox.Answers σ.mail) :
    ResponsesEarned σ := by
  intro id r hr
  have hr' : .returned id (some r.1) ∈ σ.mail.log := List.mem_map_of_mem hr
  obtain ⟨p, hp⟩ := h.returned id r.1 hr'
  obtain ⟨l, hl, heq⟩ := List.sublist_map_iff.mp (List.sublist_of_cons_sublist hp)
  -- the two events of the view come from two events of the log
  match l, heq with
  | [.executed i req name, .posted j call], heq =>
      simp only [List.map_cons, List.map_nil, Event.mail, List.cons.injEq, and_true] at heq
      obtain ⟨hex, hpost⟩ := heq
      cases hex
      cases hpost
      exact ⟨call, hl⟩

section Theorems

variable [DecidableEq ι] (fs : Fs Text) (slots : Fin maxSlots → Controller) (fd : Int) (env : Env Text)

/-- **A response means the call was executed** — along every interleaving in which requests are stored
only while the request cell is unclaimed; calls may time out and be followed by others. -/
theorem response_means_executed (σ : Sys Text ι)
    (h : Run (sysStep J) (PostsWhere Unclaimed) (initialSys J fs slots fd env) σ) :
    ResponsesEarned σ := by
  have hstart : Tidy (initialSys J fs slots fd env : Sys Text ι) ∧
      Mailbox.Answers (initialSys J fs slots fd env : Sys Text ι).mail :=
    ⟨tidy_initialSys J fs slots fd env, (fresh_initialSys J fs slots fd env).answers⟩
  have hinv : Tidy σ ∧ Mailbox.Answers σ.mail := by
    refine h.invariant (I := fun σ => Tidy σ ∧ Mailbox.Answers σ.mail) ?_ hstart
    intro l s t hs hok hstep
    have hposts : PostsWhere (fun σ => Mailbox.Calm σ.mail) l s := by
      cases l with
      | client c => exact fun hc => (hok hc).calm
      | _ => trivial
    exact ⟨hs.1.step J hstep, hs.2.step (mail_step J hs.1 hposts hstep)⟩
  exact responsesEarned_of_answers hinv.2

end Theorems

/-! ### Runs on a first start -/

/-- Two clients and the daemon on a machine with every directory and no profile. -/
def firstStart : Sys (Option CJson) (Fin 2) :=
  initialSys CJson.treeLib (Fs.blank fun _ => true) initialShm.slots 3 quietEnv

/-- The next `n` steps of the thread. -/
def threadSteps (n : Nat) : List (Label (Option CJson) (Fin 2)) :=
  List.replicate n (.thread quietEnv)

/-- Client `c` calls and goes on for `n` steps; it has posted after seven. -/
def callSteps (c : Fin 2) (call : Call) (n : Nat) : List (Label (Option CJson) (Fin 2)) :=
  .call c call :: List.replicate n (.client c)

/-- The thread has published its profile and is through its first sync: it looks for a request. -/
def atLoadRequest : List (Label (Option CJson) (Fin 2)) := threadSteps 349

/-- A test for `PostsWhere`. -/
def postsWhere (test : Sys Text ι → Bool) : Label Text ι → Sys Text ι → Bool
  | .client c, σ =>
      match (σ.clients c).pc with
      | .storeRequest => test σ
      | _ => true
  | _, _ => true

theorem postsWhere_of_test {test : Sys Text ι → Bool} {P : Sys Text ι → Prop}
    (hP : ∀ σ, test σ = true → P σ) (l : Label Text ι) (σ : Sys Text ι)
    (h : postsWhere test l σ = true) : PostsWhere P l σ := by
  cases l with
  | client c =>
      intro hc
      simp only [postsWhere, hc] at h
      exact hP σ h
  | _ => trivial

/-- Some pair was executed that nobody posted. -/
def executesUnposted (log : List (Event ι)) : Bool :=
  log.any fun
    | .executed _ req name => log.all fun
        | .posted _ call => !(call.request.code == req && call.postedName == name)
        | _ => true
    | _ => false

theorem not_pairsPosted_of_test {σ : Sys Text ι} (h : executesUnposted σ.hist.log = true) :
    ¬PairsPosted σ := by
  intro hp
  obtain ⟨e, he, htest⟩ := List.any_eq_true.mp h
  cases e with
  | posted id call => cases htest
  | returned id response => cases htest
  | executed id req name =>
      obtain ⟨i, call, hcall, hcode, hname⟩ := hp id req name he
      have hne := List.all_eq_true.mp htest _ hcall
      simp [hcode, hname] at hne

/-- Some request was executed. -/
def executes (log : List (Event ι)) : Bool :=
  log.any fun
    | .executed .. => true
    | _ => false

theorem executed_pair_posted_save :
    ∃ σ, Run (sysStep CJson.treeLib) (PostsWhere fun σ => σ.pc.waitsForName = false) firstStart σ ∧
      executes σ.hist.log = true ∧ PairsPosted σ := by
  obtain ⟨σ, hrun, hexec⟩ : ∃ σ, Run (sysStep CJson.treeLib)
      (PostsWhere fun σ => σ.pc.waitsForName = false) firstStart σ ∧ executes σ.hist.log = true :=
    exists_run_of_exec_checked
      (postsWhere_of_test fun σ (h : (!σ.pc.waitsForName) = true) => Bool.not_eq_true' _ ▸ h)
      (callSteps 0 ⟨.save, some "Good".toList, -1, -1⟩ 7 ++ threadSteps 353) (by decide +kernel)
  exact ⟨σ, hrun, hexec, executed_pair_posted _ _ _ _ _ σ hrun⟩

/-- **A delete hits a name nobody asked to delete**: one client posts a delete of `Old`, the thread
reads the request code, another client posts a save of `Good`, the thread reads the name and executes
delete on `Good`. -/
theorem delete_hits_other_name :
    ∃ σ, Run (sysStep CJson.treeLib) free firstStart σ ∧ ¬PairsPosted σ := by
  obtain ⟨σ, hrun, htest⟩ : ∃ σ, Run (sysStep CJson.treeLib) free firstStart σ ∧
      executesUnposted σ.hist.log = true :=
    exists_run_of_exec (atLoadRequest ++ callSteps 0 ⟨.delete, some "Old".toList, -1, -1⟩ 7 ++
      threadSteps 1 ++ callSteps 1 ⟨.save, some "Good".toList, -1, -1⟩ 7 ++ threadSteps 3)
      (by decide +kernel)
  exact ⟨σ, hrun, not_pairsPosted_of_test htest⟩

/-- The request cell is empty and the thread between two requests. -/
def cellEmpty (σ : Sys Text ι) : Bool :=
  σ.world.shm.profileRequest == 0 &&
    match σ.pc.phase with
    | .idle => true
    | _ => false

theorem unclaimed_of_cellEmpty (σ : Sys Text ι) (h : cellEmpty σ = true) : Unclaimed σ := by
  simp only [cellEmpty, Bool.and_eq_true, beq_iff_eq] at h
  refine ⟨?_, Or.inl h.1⟩
  have hphase := h.2
  split at hphase
  · assumption
  · cases hphase

/-- The last event is a response for a call that was not executed. -/
def returnsUnexecuted [DecidableEq ι] : List (Event ι) → Bool
  | .returned id (some _) :: log => log.all fun
      | .executed i _ _ => i != some id
      | _ => true
  | _ => false

theorem not_responsesEarned_of_test [DecidableEq ι] {σ : Sys Text ι}
    (h : returnsUnexecuted σ.hist.log = true) : ¬ResponsesEarned σ := by
  intro hearned
  cases hlog : σ.hist.log with
  | nil =>
      rw [hlog] at h
      cases h
  | cons e log =>
      rw [hlog] at h
      match e, h with
      | .returned id (some r), h =>
          obtain ⟨call, hcall⟩ := hearned id r (by rw [hlog]; exact List.mem_cons_self)
          have hmem : .executed (some id) call.request.code call.postedName ∈ σ.hist.log :=
            hcall.subset List.mem_cons_self
          rw [hlog] at hmem
          rcases List.mem_cons.mp hmem with heq | hmem
          · cases heq
          · have hne := List.all_eq_true.mp h _ hmem
            simp at hne

/-- The last event is a response. -/
def answered : List (Event ι) → Bool
  | .returned _ (some _) :: _ => true
  | _ => false

theorem response_means_executed_save :
    ∃ σ, Run (sysStep CJson.treeLib) (PostsWhere Unclaimed) firstStart σ ∧
      answered σ.hist.log = true ∧ ResponsesEarned σ := by
  obtain ⟨σ, hrun, hans⟩ : ∃ σ, Run (sysStep CJson.treeLib) (PostsWhere Unclaimed) firstStart σ ∧
      answered σ.hist.log = true :=
    exists_run_of_exec_checked (postsWhere_of_test unclaimed_of_cellEmpty)
      (callSteps 0 ⟨.save, some "Good".toList, -1, -1⟩ 7 ++ threadSteps 356 ++
        List.replicate 4 (.client 0)) (by decide +kernel)
  exact ⟨σ, hrun, hans, response_means_executed _ _ _ _ _ σ hrun⟩

/-- **A response for a request that was never executed**: the thread has executed one client's save and
not yet answered; another client posts a delete, the thread stores its response and clears the request
cell, and the second client takes `1` for its delete. -/
theorem response_without_execution :
    ∃ σ, Run (sysStep CJson.treeLib) free firstStart σ ∧ ¬ResponsesEarned σ := by
  obtain ⟨σ, hrun, htest⟩ : ∃ σ, Run (sysStep CJson.treeLib) free firstStart σ ∧
      returnsUnexecuted σ.hist.log = true :=
    exists_run_of_exec (atLoadRequest ++ callSteps 0 ⟨.save, some "Good".toList, -1, -1⟩ 7 ++
      threadSteps 4 ++ callSteps 1 ⟨.delete, some "Old".toList, -1, -1⟩ 7 ++ threadSteps 3 ++
      List.replicate 4 (.client 1)) (by decide +kernel)
  exact ⟨σ, hrun, not_responsesEarned_of_test htest⟩

end Dstx
