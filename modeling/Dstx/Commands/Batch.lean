/-
# Dstx.Commands.Batch — `process_cli_command`: which commands a command line executes (`commands.c`).

`Dstx.Commands.Cli` says what each slot command stores.  Here is the function around them, with its
indices: a trailing `--wait` is taken off, the first word names the slot, and then either BATCH mode (more
than one further word, or one that starts with `--`) walks the vector with two nested loops, or SIMPLE mode
takes the one word as a colour or as a command without arguments.

* `runSlotWords_batch`: what the loops execute is the list cut at the words that start with `--`
  (`IsCut`), each command once, in order; the exit code is that of the last one that failed.
* `plain_eq_batch_iff`: batch mode is entered as soon as there are two further words, so a command with
  arguments but without the two dashes executes nothing.
-/
import Dstx.Commands.Cli

namespace Dstx

open Dstx.Lib

/-! ## The function -/

/-- `strtol(s, &end, 10)`: the number and what follows it; the whole text when there is none. -/
def strtol (s : CStr) : Int × CStr :=
  let body := s.dropWhile isSpaceC
  let neg := body.head? == some '-'
  let digits := if neg || body.head? == some '+' then body.tail else body
  match digits.takeWhile isDigitC with
  | [] => (0, s)
  | ds => (clampLong (if neg then -(digitsVal ds : Int) else digitsVal ds), digits.dropWhile isDigitC)

theorem toNat_lt_maxSlots {v : Int} (h : 0 ≤ v ∧ v < maxSlots) : v.toNat < maxSlots := by
  omega

/-- The slot the first word names: a number of a slot, and nothing after it. -/
def slotArgument (first : CStr) : Option (Fin maxSlots) :=
  if h : 0 ≤ (strtol first).1 ∧ (strtol first).1 < maxSlots then
    if (strtol first).2 = [] then some ⟨(strtol first).1.toNat, toNat_lt_maxSlots h⟩ else none
  else none

/-- A trailing `--wait` is taken off. -/
def stripWait (argv : List CStr) : List CStr :=
  if argv.getLast? = some "--wait".toList then argv.dropLast else argv

/-- The return value of `execute_slot_command`, and the slot it leaves. -/
def commandCode (slot : Slot) (cmd : CStr × List CStr) : Int × Slot :=
  match executeSlotCommand slot cmd.1 cmd.2 with
  | some slot' => (0, slot')
  | none => (1, slot)

/-- A run over the words of a command line: `ret`, the slot, and the commands executed so far. -/
structure WordRun where
  ret : Int
  slot : Slot
  executed : List (CStr × List CStr)

/-- `int cmd_ret = execute_slot_command(…); if (cmd_ret != 0) ret = cmd_ret;` -/
def WordRun.execute (run : WordRun) (cmd : CStr × List CStr) : WordRun where
  ret := if (commandCode run.slot cmd).1 ≠ 0 then (commandCode run.slot cmd).1 else run.ret
  slot := (commandCode run.slot cmd).2
  executed := run.executed ++ [cmd]

/-- The inner loop: the index of the next option, or the end. -/
def argsEnd (argv : List CStr) (i : Nat) : Nat :=
  if i < argv.length ∧ isOption (argv.getD i []) = false then argsEnd argv (i + 1) else i
termination_by argv.length - i

theorem le_argsEnd (argv : List CStr) (i : Nat) : i ≤ argsEnd argv i := by
  induction i using argsEnd.induct argv with
  | case1 i hcond ih =>
      rw [argsEnd, if_pos hcond]
      omega
  | case2 i hcond => rw [argsEnd, if_neg hcond]

/-- **The loop of batch mode** from index `i` on. -/
def batchLoop (argv : List CStr) (i : Nat) (run : WordRun) : WordRun :=
  if i < argv.length then
    if isOption (argv.getD i []) = false then { run with ret := 1 }
    else
      batchLoop argv (argsEnd argv (i + 1))
        (run.execute ((argv.getD i []).drop 2, (argv.drop (i + 1)).take (argsEnd argv (i + 1) - (i + 1))))
  else run
termination_by argv.length - i
decreasing_by
  have hle := le_argsEnd argv (i + 1)
  omega

/-- The simple mode, with the one word `arg`. -/
def simpleMode (slot : Slot) (arg : CStr) : WordRun :=
  if isColourWord arg then
    { ret := if (cmdColor slot [arg]).isSome then 0 else 1
      slot := (cmdColor slot [arg]).getD slot
      executed := [("color".toList, [arg])] }
  else
    match slotCommands.find? fun sc => sc.1 == arg with
    | some sc =>
        { ret := if (sc.2 slot []).isSome then 0 else 1
          slot := (sc.2 slot []).getD slot
          executed := [(arg, [])] }
    | none =>
        { ret := 1
          slot := slot
          executed := [] }

/-- The slot branch, on the vector that starts with the slot's number. -/
def runSlotWords (slot : Slot) (argv : List CStr) : WordRun :=
  if argv.length ≥ 2 ∧ (argv.length > 2 ∨ isOption (argv.getD 1 []) = true) then
    batchLoop argv 1 { ret := 0, slot := slot, executed := [] }
  else if argv.length = 2 then simpleMode slot (argv.getD 1 [])
  else
    { ret := 1
      slot := slot
      executed := [] }

/-- What a command-line process finds in the shared memory. -/
structure CliShm where
  magicOk : Bool
  daemonAlive : Bool
  slots : Fin maxSlots → Slot

/-- How a command line ends: refused before any command, handed to a global command, or run on a slot. -/
inductive CliOutcome where
  | refused
  | global (first : CStr) (argv : List CStr)
  | slot (i : Fin maxSlots) (run : WordRun)

/-- The words that ask for help. -/
def isHelp (first : CStr) : Bool :=
  first == "help".toList || first == "--help".toList || first == "-h".toList

/-- **`process_cli_command`**; `none` is a shared memory that cannot be opened. -/
def processCliCommand (shm : Option CliShm) (argv : List CStr) : CliOutcome :=
  match shm with
  | none => .refused
  | some shm =>
      if shm.magicOk = false then .refused
      else if shm.daemonAlive = false then .refused
      else if isHelp (argv.headD []) then .global (argv.headD []) (stripWait argv)
      else
        match slotArgument (argv.headD []) with
        | some i =>
            if (shm.slots i).connected = false then .refused
            else .slot i (runSlotWords (shm.slots i) (stripWait argv))
        | none => .global (argv.headD []) (stripWait argv)

/-! ## Cutting -/

/-- **`cmds` is `words` cut at the options**: written out again, each name behind its dashes, they are the
words, and no argument starts with two dashes. -/
def IsCut (words : List CStr) (cmds : List (CStr × List CStr)) : Prop :=
  (cmds.map fun cmd => ("--".toList ++ cmd.1) :: cmd.2).flatten = words ∧
    ∀ cmd ∈ cmds, ∀ a ∈ cmd.2, isOption a = false

/-- An option starts a command: the words before the next one are its arguments. -/
theorem batchCommands_cons_option {w : CStr} (hw : isOption w = true) (words : List CStr) :
    batchCommands (w :: words) = ([], (w.drop 2, (batchCommands words).1) :: (batchCommands words).2) := by
  simp [batchCommands, hw]

/-- Another word goes before the first option. -/
theorem batchCommands_cons_word {w : CStr} (hw : isOption w = false) (words : List CStr) :
    batchCommands (w :: words) = (w :: (batchCommands words).1, (batchCommands words).2) := by
  simp [batchCommands, hw]

/-- The words before the first option, and the rest from it on. -/
theorem batchCommands_eq (words : List CStr) :
    batchCommands words = (words.takeWhile (fun w => !isOption w),
      (batchCommands (words.dropWhile fun w => !isOption w)).2) := by
  induction words with
  | nil => rfl
  | cons w words ih =>
      cases hw : isOption w with
      | true => simp [batchCommands_cons_option hw, hw]
      | false =>
          rw [batchCommands_cons_word hw, ih]
          simp [hw]

theorem batchCommands_option {w : CStr} (hw : isOption w = true) (words : List CStr) :
    (batchCommands (w :: words)).2 =
      (w.drop 2, words.takeWhile fun w => !isOption w) ::
        (batchCommands (words.dropWhile fun w => !isOption w)).2 := by
  rw [batchCommands_cons_option hw, batchCommands_eq words]

/-- An option is its name behind two dashes. -/
theorem option_eq {w : CStr} (hw : isOption w = true) : w = "--".toList ++ w.drop 2 := by
  have htake : w.take 2 = "--".toList := beq_iff_eq.mp hw
  rw [← htake, List.take_append_drop]

/-- **What a batch is taken apart into**: the words before the first option and the commands, written out
again, are the words; only the names stood behind dashes. -/
theorem batchCommands_pieces (words : List CStr) :
    (batchCommands words).1 ++
        ((batchCommands words).2.map fun cmd => ("--".toList ++ cmd.1) :: cmd.2).flatten = words ∧
      (∀ a ∈ (batchCommands words).1, isOption a = false) ∧
      ∀ cmd ∈ (batchCommands words).2, ∀ a ∈ cmd.2, isOption a = false := by
  induction words with
  | nil => exact ⟨rfl, by simp [batchCommands], by simp [batchCommands]⟩
  | cons w words ih =>
      obtain ⟨hjoin, hhead, hargs⟩ := ih
      cases hw : isOption w with
      | true =>
          rw [batchCommands_cons_option hw]
          refine ⟨?_, by simp, ?_⟩
          · simp only [List.nil_append, List.map_cons, List.flatten_cons, List.cons_append]
            rw [← option_eq hw, hjoin]
          · intro cmd hcmd
            rcases List.mem_cons.mp hcmd with rfl | hmem
            · exact hhead
            · exact hargs cmd hmem
      | false =>
          rw [batchCommands_cons_word hw]
          refine ⟨?_, ?_, hargs⟩
          · rw [List.cons_append, hjoin]
          · intro a ha
            rcases List.mem_cons.mp ha with rfl | hmem
            · exact hw
            · exact hhead a hmem

/-- **The commands of a batch are its cut**, when the batch starts with an option or is empty. -/
theorem isCut_batchCommands (words : List CStr) (h : (batchCommands words).1 = []) :
    IsCut words (batchCommands words).2 := by
  obtain ⟨hjoin, -, hargs⟩ := batchCommands_pieces words
  rw [h, List.nil_append] at hjoin
  exact ⟨hjoin, hargs⟩

/-! ## The loops -/

/-- Every word list that starts, starts with an option. -/
def StartsWithOption (words : List CStr) : Prop := ∀ w, words.head? = some w → isOption w = true

theorem startsWithOption_dropWhile (words : List CStr) :
    StartsWithOption (words.dropWhile fun w => !isOption w) := by
  induction words with
  | nil =>
      intro w hw
      cases hw
  | cons a words ih =>
      intro w hw
      rw [List.dropWhile_cons] at hw
      split at hw
      · exact ih w hw
      · rename_i hnot
        obtain rfl : a = w := Option.some.inj hw
        simpa using hnot

theorem batchCommands_fst {words : List CStr} (h : StartsWithOption words) :
    (batchCommands words).1 = [] := by
  rw [batchCommands_eq]
  cases words with
  | nil => rfl
  | cons w words => simp [h w rfl]

theorem drop_eq_getD_cons {argv : List CStr} {i : Nat} (h : i < argv.length) :
    argv.drop i = argv.getD i [] :: argv.drop (i + 1) := by
  rw [List.drop_eq_getElem_cons h, List.getD_eq_getElem?_getD, List.getElem?_eq_getElem h,
    Option.getD_some]

/-- **The inner loop** takes the words up to the next option. -/
theorem argsEnd_spec (argv : List CStr) (i : Nat) :
    (argv.drop i).take (argsEnd argv i - i) = (argv.drop i).takeWhile (fun w => !isOption w) ∧
      argv.drop (argsEnd argv i) = (argv.drop i).dropWhile fun w => !isOption w := by
  induction i using argsEnd.induct argv with
  | case1 i hcond ih =>
      obtain ⟨htake, hdrop⟩ := ih
      have hle := le_argsEnd argv (i + 1)
      have hlen : argsEnd argv (i + 1) - i = argsEnd argv (i + 1) - (i + 1) + 1 := by omega
      have harg : (!isOption (argv.getD i [])) = true := by rw [hcond.2]; rfl
      rw [argsEnd, if_pos hcond, drop_eq_getD_cons hcond.1, hlen, List.take_succ_cons, htake, hdrop,
        List.takeWhile_cons_of_pos (p := fun w => !isOption w) harg,
        List.dropWhile_cons_of_pos (p := fun w => !isOption w) harg]
      exact ⟨rfl, rfl⟩
  | case2 i hcond =>
      rw [argsEnd, if_neg hcond, Nat.sub_self, List.take_zero]
      by_cases hi : i < argv.length
      · have hopt : isOption (argv.getD i []) = true := by
          by_contra hnot
          exact hcond ⟨hi, by simpa using hnot⟩
        have hstop : ¬(!isOption (argv.getD i [])) = true := by simp only [hopt]; decide
        rw [drop_eq_getD_cons hi, List.takeWhile_cons_of_neg (p := fun w => !isOption w) hstop,
          List.dropWhile_cons_of_neg (p := fun w => !isOption w) hstop]
        exact ⟨rfl, rfl⟩
      · rw [List.drop_eq_nil_of_le (by omega)]
        exact ⟨rfl, rfl⟩

/-- **The outer loop** executes the commands of the rest of the vector, in order. -/
theorem batchLoop_eq (argv : List CStr) (i : Nat) (run : WordRun)
    (h : StartsWithOption (argv.drop i)) :
    batchLoop argv i run = (batchCommands (argv.drop i)).2.foldl WordRun.execute run := by
  induction i, run using batchLoop.induct argv with
  | case1 i run hi hnot =>
      have hopt := h (argv.getD i []) (by rw [drop_eq_getD_cons hi]; rfl)
      rw [hnot] at hopt
      cases hopt
  | case2 i run hi hopt ih =>
      obtain ⟨htake, hdrop⟩ := argsEnd_spec argv (i + 1)
      have hopt' : isOption (argv.getD i []) = true := by simpa using hopt
      rw [batchLoop, if_pos hi, if_neg hopt]
      refine (ih ?_).trans ?_
      · rw [hdrop]
        exact startsWithOption_dropWhile _
      · rw [drop_eq_getD_cons hi, batchCommands_option hopt', List.foldl_cons, htake, hdrop]
  | case3 i run hi =>
      rw [batchLoop, if_neg hi, List.drop_eq_nil_of_le (by omega)]
      rfl

/-! ## What a list of commands does -/

/-- The return values of a list of commands, executed one after another, and the slot they leave. -/
def commandCodes : Slot → List (CStr × List CStr) → List Int × Slot
  | slot, [] => ([], slot)
  | slot, cmd :: cmds =>
      ((commandCode slot cmd).1 :: (commandCodes (commandCode slot cmd).2 cmds).1,
        (commandCodes (commandCode slot cmd).2 cmds).2)

/-- The last value that is not 0; 0 when all are. -/
def lastFailure (codes : List Int) : Int := ((codes.filter fun c => c ≠ 0).getLast?).getD 0

theorem lastFailure_eq_zero_iff (codes : List Int) : lastFailure codes = 0 ↔ ∀ c ∈ codes, c = 0 := by
  unfold lastFailure
  cases hlast : (codes.filter fun c => c ≠ 0).getLast? with
  | none =>
      have hnil := List.getLast?_eq_none_iff.mp hlast
      refine iff_of_true rfl fun c hc => ?_
      by_contra hne
      have hmem : c ∈ codes.filter fun c => c ≠ 0 := List.mem_filter.mpr ⟨hc, by simpa using hne⟩
      rw [hnil] at hmem
      exact List.not_mem_nil hmem
  | some c =>
      have hmem := List.mem_filter.mp (List.mem_of_getLast? hlast)
      have hne : c ≠ 0 := by simpa using hmem.2
      exact iff_of_false hne fun hall => hne (hall c hmem.1)

theorem lastFailure_cons (c : Int) (codes : List Int) :
    lastFailure (c :: codes) = if lastFailure codes ≠ 0 then lastFailure codes else c := by
  unfold lastFailure
  by_cases hc : c = 0
  · subst hc
    simp only [List.filter_cons]
    split_ifs <;> simp_all
  · rw [List.filter_cons_of_pos (by simpa using hc), List.getLast?_cons]
    cases hlast : (codes.filter fun c => c ≠ 0).getLast? with
    | none => simp
    | some d =>
        have hmem := List.mem_filter.mp (List.mem_of_getLast? hlast)
        have hne : d ≠ 0 := by simpa using hmem.2
        simp [hne]

/-- **Executing a list of commands**: the slot they leave, each of them once and in order, and the code of
the last failing one over what was returned so far. -/
theorem foldl_execute (cmds : List (CStr × List CStr)) (run : WordRun) :
    cmds.foldl WordRun.execute run =
      { ret :=
          if lastFailure (commandCodes run.slot cmds).1 ≠ 0 then lastFailure (commandCodes run.slot cmds).1
          else run.ret
        slot := (commandCodes run.slot cmds).2
        executed := run.executed ++ cmds } := by
  induction cmds generalizing run with
  | nil => simp [commandCodes, lastFailure]
  | cons cmd cmds ih =>
      rw [List.foldl_cons, ih]
      simp only [commandCodes, WordRun.execute, lastFailure_cons, List.append_assoc, List.singleton_append]
      congr 1
      split_ifs <;> simp_all

/-! ## The whole command line -/

section CommandLine

variable {shm : CliShm} {i : Fin maxSlots} {slotWord : CStr}

/-- The number of a slot is no request for help. -/
theorem isHelp_of_slotArgument (hslot : slotArgument slotWord = some i) : isHelp slotWord = false := by
  have hnone : ∀ w ∈ ["help".toList, "--help".toList, "-h".toList], slotArgument w = none := by decide
  by_contra hhelp
  have hmem : slotWord ∈ ["help".toList, "--help".toList, "-h".toList] := by
    simp only [isHelp, Bool.not_eq_false, Bool.or_eq_true, beq_iff_eq, or_assoc] at hhelp
    simp only [List.mem_cons, List.not_mem_nil, or_false]
    exact hhelp
  rw [hnone slotWord hmem] at hslot
  cases hslot

/-- With the daemon reachable and the slot connected, the words are run on the slot. -/
theorem processCliCommand_slot (hmagic : shm.magicOk = true) (halive : shm.daemonAlive = true)
    (hslot : slotArgument slotWord = some i) (hconn : (shm.slots i).connected = true)
    (words : List CStr) :
    processCliCommand (some shm) (slotWord :: words) =
      .slot i (runSlotWords (shm.slots i) (stripWait (slotWord :: words))) := by
  have hhelp := isHelp_of_slotArgument hslot
  simp [processCliCommand, hmagic, halive, hhelp, hslot, hconn]

theorem stripWait_cons {words : List CStr} (hne : words ≠ []) :
    stripWait (slotWord :: words) = slotWord :: stripWait words := by
  unfold stripWait
  rw [List.getLast?_cons, List.dropLast_cons_of_ne_nil hne]
  cases hlast : words.getLast? with
  | none => exact absurd (List.getLast?_eq_none_iff.mp hlast) hne
  | some last =>
      simp only [Option.getD_some]
      split_ifs <;> rfl

theorem stripWait_of_last {words : List CStr} (h : words.getLast? ≠ some "--wait".toList) :
    stripWait words = words := if_neg h

/-- A vector whose first word after the slot is an option is run in batch mode. -/
theorem runSlotWords_batch (slot : Slot) {words : List CStr} (hne : words ≠ [])
    (h : StartsWithOption words) :
    runSlotWords slot (slotWord :: words) =
      { ret := lastFailure (commandCodes slot (batchCommands words).2).1
        slot := (commandCodes slot (batchCommands words).2).2
        executed := (batchCommands words).2 } := by
  obtain ⟨w, rest, rfl⟩ := List.exists_cons_of_ne_nil hne
  have hopt : isOption w = true := h w rfl
  have hmode : (slotWord :: w :: rest).length ≥ 2 ∧
      ((slotWord :: w :: rest).length > 2 ∨ isOption ((slotWord :: w :: rest).getD 1 []) = true) :=
    ⟨by simp, Or.inr hopt⟩
  have hloop := batchLoop_eq (slotWord :: w :: rest) 1 { ret := 0, slot := slot, executed := [] } h
  unfold runSlotWords
  rw [if_pos hmode, hloop, foldl_execute]
  simp only [List.drop_succ_cons, List.drop_zero, List.nil_append]
  congr 1
  split_ifs with hfailed
  · rfl
  · exact (not_not.mp hfailed).symm

/-- **What the command line must do with `words` after the slot**: execute the commands they are cut into,
less a trailing `--wait`, and nothing else, and return the code of the last that failed. -/
def RunsItsCut (shm : CliShm) (i : Fin maxSlots) (slotWord : CStr) (words : List CStr) : Prop :=
  ∃ run, processCliCommand (some shm) (slotWord :: words) = .slot i run ∧
    IsCut (stripWait words) run.executed ∧
    run.slot = (commandCodes (shm.slots i) run.executed).2 ∧
    run.ret = lastFailure (commandCodes (shm.slots i) run.executed).1 ∧
    (run.ret = 0 ↔ ∀ c ∈ (commandCodes (shm.slots i) run.executed).1, c = 0)

/-- **Batch mode executes its cut**: for every vector whose first word after the slot, once a trailing
`--wait` is taken off, starts with two dashes. -/
theorem processCliCommand_batch (hmagic : shm.magicOk = true) (halive : shm.daemonAlive = true)
    (hslot : slotArgument slotWord = some i) (hconn : (shm.slots i).connected = true)
    {words : List CStr} {w : CStr} (hfirst : (stripWait words).head? = some w) (hopt : isOption w = true) :
    RunsItsCut shm i slotWord words := by
  have hne : words ≠ [] := by
    rintro rfl
    cases hfirst
  have hstripped : stripWait words ≠ [] := by
    intro hnil
    rw [hnil] at hfirst
    cases hfirst
  have hstarts : StartsWithOption (stripWait words) := by
    intro w' hw'
    rw [hfirst] at hw'
    exact (Option.some.inj hw') ▸ hopt
  refine ⟨_, processCliCommand_slot hmagic halive hslot hconn words, ?_⟩
  rw [stripWait_cons hne, runSlotWords_batch _ hstripped hstarts]
  exact ⟨isCut_batchCommands _ (batchCommands_fst hstarts), rfl, rfl, lastFailure_eq_zero_iff _⟩

/-- A running daemon with a controller in every slot. -/
def connectedShm : CliShm where
  magicOk := true
  daemonAlive := true
  slots := fun _ =>
    { initialController, initialCells with connected := true }

theorem zero_slotArgument : slotArgument "0".toList = some firstSlot := by decide

theorem processCliCommand_batch_rumble :
    RunsItsCut connectedShm firstSlot "0".toList
      ["--color".toList, "00ff00".toList, "--rumble".toList, "--wait".toList] :=
  processCliCommand_batch rfl rfl zero_slotArgument rfl (w := "--color".toList) (by decide) (by decide)

/-- **A lone `--wait`** starts with two dashes and is taken off: no command is executed, none fails, and
the exit code is 1 (the usage message). -/
theorem wait_alone_runs_nothing : ¬RunsItsCut connectedShm firstSlot "0".toList ["--wait".toList] := by
  rintro ⟨run, hrun, -, -, -, hzero⟩
  have hrunSlot : processCliCommand (some connectedShm) ["0".toList, "--wait".toList] =
      .slot firstSlot (runSlotWords (connectedShm.slots firstSlot)
        (stripWait ["0".toList, "--wait".toList])) :=
    processCliCommand_slot rfl rfl zero_slotArgument rfl ["--wait".toList]
  have hwords : stripWait ["0".toList, "--wait".toList] = ["0".toList] := by decide
  rw [hwords] at hrunSlot
  rw [hrunSlot] at hrun
  injection hrun with _ hrun
  subst hrun
  have hret : (runSlotWords (connectedShm.slots firstSlot) ["0".toList]).ret = 1 := rfl
  have hexecuted : (runSlotWords (connectedShm.slots firstSlot) ["0".toList]).executed = [] := rfl
  rw [hret, hexecuted] at hzero
  have hone := hzero.mpr fun c hc => absurd hc List.not_mem_nil
  exact absurd hone (by decide)

/-! ## The plain form -/

/-- The names of the table: no option, no colour, and not `wait`. -/
theorem commandName_facts : ∀ name ∈ slotCommands.map Prod.fst,
    isOption name = false ∧ isColourWord name = false ∧ name ≠ "wait".toList := by
  decide

theorem commandName_ne_wait {name : CStr} (hname : name ∈ slotCommands.map Prod.fst) :
    name ≠ "--wait".toList := by
  rintro rfl
  have hopt := (commandName_facts _ hname).1
  revert hopt
  decide

/-- In simple mode a word that is no colour is executed without arguments. -/
theorem simpleMode_eq (slot : Slot) {arg : CStr} (harg : isColourWord arg = false) :
    (simpleMode slot arg).ret = (commandCode slot (arg, [])).1 ∧
      (simpleMode slot arg).slot = (commandCode slot (arg, [])).2 := by
  unfold simpleMode commandCode executeSlotCommand
  rw [if_neg (by rw [harg]; exact Bool.false_ne_true)]
  dsimp only
  cases slotCommands.find? fun sc => sc.1 == arg with
  | none => exact ⟨rfl, rfl⟩
  | some sc =>
      dsimp only
      cases sc.2 slot [] with
      | none => exact ⟨rfl, rfl⟩
      | some slot' => exact ⟨rfl, rfl⟩

/-- Batch mode with one command. -/
theorem batchCommands_single {name : CStr} {args : List CStr} (hargs : ∀ a ∈ args, isOption a = false) :
    (batchCommands (("--".toList ++ name) :: args)).2 = [(name, args)] := by
  have hopt : isOption ("--".toList ++ name) = true := rfl
  have hpass : ∀ a ∈ args, (!isOption a) = true := by
    intro a ha
    rw [hargs a ha]
    rfl
  rw [batchCommands_option hopt, List.takeWhile_eq_self_iff.mpr hpass,
    List.dropWhile_eq_nil_iff.mpr hpass]
  rfl

theorem getLast?_ne_wait {first : CStr} {args : List CStr} (hfirst : first ≠ "--wait".toList)
    (hargs : ∀ a ∈ args, isOption a = false) :
    (slotWord :: first :: args).getLast? ≠ some "--wait".toList := by
  intro hlast
  rw [List.getLast?_cons_cons, List.getLast?_cons] at hlast
  cases hargsLast : args.getLast? with
  | none =>
      rw [hargsLast] at hlast
      exact hfirst (Option.some.inj hlast)
  | some a =>
      rw [hargsLast] at hlast
      have hwait : a = "--wait".toList := Option.some.inj hlast
      have hopt := hargs a (List.mem_of_getLast? hargsLast)
      rw [hwait] at hopt
      revert hopt
      decide

/-- The slot that one command leaves. -/
theorem commandCode_snd (slot : Slot) (cmd : CStr × List CStr) :
    (commandCode slot cmd).2 = runBatchCommand slot cmd := by
  unfold commandCode runBatchCommand
  cases executeSlotCommand slot cmd.1 cmd.2 <;> rfl

/-- The slot a list of commands leaves. -/
theorem commandCodes_snd (slot : Slot) (cmds : List (CStr × List CStr)) :
    (commandCodes slot cmds).2 = cmds.foldl runBatchCommand slot := by
  induction cmds generalizing slot with
  | nil => rfl
  | cons cmd cmds ih =>
      show (commandCodes (commandCode slot cmd).2 cmds).2 = _
      rw [ih, commandCode_snd, List.foldl_cons]

/-- With more than one word: the commands run when nothing stands before the first option. -/
theorem processSlotArguments_many (slot : Slot) (w w' : CStr) (words : List CStr) :
    processSlotArguments slot (w :: w' :: words) =
      if (batchCommands (w :: w' :: words)).1 = [] then
        (batchCommands (w :: w' :: words)).2.foldl runBatchCommand slot
      else slot := by
  unfold processSlotArguments
  split
  · rename_i heq
    cases heq
  · rename_i heq
    cases heq
  · generalize batchCommands (w :: w' :: words) = cut
    obtain ⟨front, cmds⟩ := cut
    cases front with
    | nil => rfl
    | cons a front => rfl

/-- **The slot that the loops leave is the one `processSlotArguments` says.** -/
theorem runSlotWords_slot (slot : Slot) (words : List CStr) :
    (runSlotWords slot (slotWord :: words)).slot = processSlotArguments slot words := by
  cases words with
  | nil => rfl
  | cons w words =>
      cases hw : isOption w with
      | true =>
          have hstarts : StartsWithOption (w :: words) := by
            intro w' hw'
            obtain rfl := Option.some.inj hw'
            exact hw
          rw [runSlotWords_batch slot (List.cons_ne_nil _ _) hstarts]
          show (commandCodes slot (batchCommands (w :: words)).2).2 = _
          rw [commandCodes_snd]
          cases words with
          | nil => simp [processSlotArguments, hw, batchCommands]
          | cons w' words => rw [processSlotArguments_many, if_pos (batchCommands_fst hstarts)]
      | false =>
          cases words with
          | nil =>
              have hmode : runSlotWords slot [slotWord, w] = simpleMode slot w := by
                simp [runSlotWords, hw]
              rw [hmode]
              by_cases hc : isColourWord w = true
              · simp [simpleMode, processSlotArguments, hw, hc]
              · have hc' : isColourWord w = false := by simpa using hc
                rw [(simpleMode_eq slot hc').2, commandCode_snd]
                simp [processSlotArguments, hw, hc']
          | cons w' words =>
              have hmode : runSlotWords slot (slotWord :: w :: w' :: words) =
                  { ret := 1, slot := slot, executed := [] } := by
                simp [runSlotWords, batchLoop, hw]
              have hfront : (batchCommands (w :: w' :: words)).1 ≠ [] := by
                rw [batchCommands_cons_word hw]
                exact List.cons_ne_nil _ _
              rw [hmode, processSlotArguments_many, if_neg hfront]

/-- One command in batch form, with arguments that are no options. -/
theorem processCliCommand_single (hmagic : shm.magicOk = true) (halive : shm.daemonAlive = true)
    (hslot : slotArgument slotWord = some i) (hconn : (shm.slots i).connected = true) {name : CStr}
    (hname : name ∈ slotCommands.map Prod.fst) {args : List CStr} (hargs : ∀ a ∈ args, isOption a = false) :
    processCliCommand (some shm) (slotWord :: ("--".toList ++ name) :: args) =
      .slot i
        { ret := (commandCode (shm.slots i) (name, args)).1
          slot := (commandCode (shm.slots i) (name, args)).2
          executed := [(name, args)] } := by
  have hdashed : "--".toList ++ name ≠ "--wait".toList := by
    intro heq
    have hwait : "--".toList ++ name = "--".toList ++ "wait".toList := heq
    exact (commandName_facts name hname).2.2 (List.append_cancel_left hwait)
  have hstarts : StartsWithOption (("--".toList ++ name) :: args) := by
    intro w hw
    obtain rfl := Option.some.inj hw
    rfl
  have hcode : ∀ c : Int, lastFailure [c] = c := by
    intro c
    rw [lastFailure_cons]
    exact if_neg (fun hne => hne rfl)
  rw [processCliCommand_slot hmagic halive hslot hconn, stripWait_of_last (getLast?_ne_wait hdashed hargs),
    runSlotWords_batch _ (List.cons_ne_nil _ _) hstarts, batchCommands_single hargs]
  simp only [commandCodes, hcode]

/-- **A command with arguments in the plain form executes nothing.** -/
theorem processCliCommand_plain_cons (hmagic : shm.magicOk = true) (halive : shm.daemonAlive = true)
    (hslot : slotArgument slotWord = some i) (hconn : (shm.slots i).connected = true) {name : CStr}
    (hname : name ∈ slotCommands.map Prod.fst) {a : CStr} {args : List CStr}
    (hargs : ∀ b ∈ a :: args, isOption b = false) :
    processCliCommand (some shm) (slotWord :: name :: a :: args) =
      .slot i { ret := 1, slot := shm.slots i, executed := [] } := by
  have hplain := (commandName_facts name hname).1
  rw [processCliCommand_slot hmagic halive hslot hconn,
    stripWait_of_last (getLast?_ne_wait (commandName_ne_wait hname) hargs)]
  simp [runSlotWords, batchLoop, hplain]

/-- A command without arguments in the plain form is executed. -/
theorem processCliCommand_plain_nil (hmagic : shm.magicOk = true) (halive : shm.daemonAlive = true)
    (hslot : slotArgument slotWord = some i) (hconn : (shm.slots i).connected = true) {name : CStr}
    (hname : name ∈ slotCommands.map Prod.fst) :
    processCliCommand (some shm) [slotWord, name] = .slot i (simpleMode (shm.slots i) name) := by
  have hplain := (commandName_facts name hname).1
  rw [processCliCommand_slot hmagic halive hslot hconn,
    stripWait_of_last (getLast?_ne_wait (commandName_ne_wait hname) (fun b hb => absurd hb List.not_mem_nil))]
  simp [runSlotWords, hplain]

/-- Two command lines with the same effect and the same exit code. -/
def SameRun : CliOutcome → CliOutcome → Prop
  | .slot i run, .slot j run' => i = j ∧ run.slot = run'.slot ∧ run.ret = run'.ret
  | _, _ => False

/-- **When the plain form does what the batch form does.**  `dstx SLOT name args…` and
`dstx SLOT --name args…` leave the same slot with the same exit code exactly when there are no arguments, or
the command refuses them. -/
theorem plain_eq_batch_iff (hmagic : shm.magicOk = true) (halive : shm.daemonAlive = true)
    (hslot : slotArgument slotWord = some i) (hconn : (shm.slots i).connected = true) {name : CStr}
    (hname : name ∈ slotCommands.map Prod.fst) {args : List CStr}
    (hargs : ∀ a ∈ args, isOption a = false) :
    SameRun (processCliCommand (some shm) (slotWord :: name :: args))
        (processCliCommand (some shm) (slotWord :: ("--".toList ++ name) :: args)) ↔
      args = [] ∨ executeSlotCommand (shm.slots i) name args = none := by
  rw [processCliCommand_single hmagic halive hslot hconn hname hargs]
  cases args with
  | nil =>
      rw [processCliCommand_plain_nil hmagic halive hslot hconn hname]
      obtain ⟨hret, hleft⟩ := simpleMode_eq (shm.slots i) (commandName_facts name hname).2.1
      exact iff_of_true ⟨rfl, hleft, hret⟩ (Or.inl rfl)
  | cons a args =>
      rw [processCliCommand_plain_cons hmagic halive hslot hconn hname hargs]
      unfold commandCode
      cases hexec : executeSlotCommand (shm.slots i) name (a :: args) with
      | none => exact iff_of_true ⟨rfl, rfl, rfl⟩ (Or.inr rfl)
      | some slot' =>
          refine iff_of_false ?_ ?_
          · rintro ⟨-, -, hret⟩
            have hone : (1 : Int) = 0 := hret
            exact absurd hone (by decide)
          · rintro (hnil | hnone)
            · cases hnil
            · cases hnone

/-- A command without arguments. -/
theorem plain_eq_batch_keymap :
    SameRun (processCliCommand (some connectedShm) ["0".toList, "keymap".toList])
      (processCliCommand (some connectedShm) ["0".toList, "--".toList ++ "keymap".toList]) := by
  have hname : "keymap".toList ∈ slotCommands.map Prod.fst := by decide
  have hiff := plain_eq_batch_iff (i := firstSlot) (show connectedShm.magicOk = true from rfl) rfl
    zero_slotArgument rfl hname (List.forall_mem_nil _)
  exact hiff.mpr (Or.inl rfl)

/-- **`dstx 0 color ff0000`**, the documented example, sets no colour. -/
theorem plain_color_ne_batch :
    ¬SameRun (processCliCommand (some connectedShm) ["0".toList, "color".toList, "ff0000".toList])
      (processCliCommand (some connectedShm) ["0".toList, "--".toList ++ "color".toList, "ff0000".toList]) := by
  have hname : "color".toList ∈ slotCommands.map Prod.fst := by decide
  have hwords : ∀ a ∈ ["ff0000".toList], isOption a = false := by decide
  have hmagic : connectedShm.magicOk = true := rfl
  rw [processCliCommand_plain_cons (i := firstSlot) hmagic rfl zero_slotArgument rfl hname hwords,
    processCliCommand_single (i := firstSlot) hmagic rfl zero_slotArgument rfl hname hwords]
  rintro ⟨-, -, hret⟩
  revert hret
  decide

end CommandLine

end Dstx
