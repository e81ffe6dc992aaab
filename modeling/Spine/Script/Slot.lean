import Spine.Script.Protocol

/-!
# A slot of the script server

`Spine.Script.Protocol` takes what the system answers to one command as given.
This module follows a slot over many commands.  The pipe from the server is
part of the state, so bytes that a command leaves there are found by the next
one.

* The pipe.  `slotReadLoop` is the read loop of `php_read_result` over the
  bytes that the server writes.  How the reads split these bytes is a list of
  `ReadChoice`.
* The slot.  `Slot.phpClose`, `Slot.phpInit`, `Slot.readResult` and
  `Slot.phpCmd` are the functions of `script/server.c`, `script/read.c` and
  `script/protocol.c` on a slot.
* The answers.  `slotCmd_eq_phpCmd` connects the slot to `phpCmd`: a command on
  a slot is `phpCmd` with the answers that `slotSystem` reads off the slot.
-/

namespace Spine

open Base.CString

/-! ## The pipe -/

/-- What one `read` finds: it is interrupted, or `size + 1` of the bytes still
to come are in the pipe. -/
inductive ReadChoice where
  | interrupted
  | available (size : Nat)
  deriving DecidableEq, Repr

/-- One `read` after the bytes `got`, with `size` bytes in the pipe: the bytes
afterwards, and the bytes still to come. -/
def readPipe (got unread : List UInt8) (size : Nat) : List UInt8 × List UInt8 :=
  let space := RESULTS_BUFFER - 1 - got.length
  (got ++ (unread.take size).take space, unread.drop (min space size))

/-- The read loop of `php_read_result` with the bytes before and the bytes still
to come.  It returns the result, where `none` is every end that is not a line
feed, and what stays in the pipe.  Without a further choice all bytes are in
the pipe.  When no byte is to come, the wait runs out. -/
def slotReadLoop : List UInt8 → List UInt8 → List ReadChoice → Option (List UInt8) × List UInt8
  | got, unread, [] =>
    let (got, unread) := readPipe got unread unread.length
    (if 10 ∈ cstr got then some got else none, unread)
  | got, unread, .interrupted :: choices => slotReadLoop got unread choices
  | got, unread, .available size :: choices =>
    if unread = [] then (none, [])
    else
      let (got, unread) := readPipe got unread (size + 1)
      if 10 ∈ cstr got then (some got, unread)
      else if RESULTS_BUFFER - 1 ≤ got.length then (none, unread)
      else slotReadLoop got unread choices

theorem readPipe_append (got unread : List UInt8) (size : Nat) :
    (readPipe got unread size).1 ++ (readPipe got unread size).2 = got ++ unread := by
  unfold readPipe
  dsimp only
  rw [List.take_take, List.append_assoc, List.take_append_drop]

theorem readPipe_length_le {got : List UInt8} (unread : List UInt8) (size : Nat)
    (h : got.length ≤ RESULTS_BUFFER - 1) :
    (readPipe got unread size).1.length ≤ RESULTS_BUFFER - 1 := by
  unfold readPipe
  dsimp only
  rw [List.length_append, List.length_take]
  omega

/-- A read that leaves room in the buffer empties the pipe of what was there. -/
theorem readPipe_of_room {got unread : List UInt8} {size : Nat}
    (h : (readPipe got unread size).1.length < RESULTS_BUFFER - 1) :
    (readPipe got unread size).2 = unread.drop size := by
  unfold readPipe at h ⊢
  dsimp only at h ⊢
  rw [List.length_append, List.length_take, List.length_take] at h
  by_cases hsize : size ≤ RESULTS_BUFFER - 1 - got.length
  · rw [Nat.min_eq_right hsize]
  · rw [List.drop_eq_nil_of_le (by omega), List.drop_eq_nil_of_le (by omega)]

/-- What the loop returns and what it leaves are the bytes that were there. -/
theorem slotReadLoop_eq_some {got unread taken rest : List UInt8} {choices : List ReadChoice}
    (hgot : got.length ≤ RESULTS_BUFFER - 1)
    (h : slotReadLoop got unread choices = (some taken, rest)) :
    taken ++ rest = got ++ unread ∧ (10 : UInt8) ∈ cstr taken ∧
      taken.length ≤ RESULTS_BUFFER - 1 := by
  induction choices generalizing got unread with
  | nil =>
    rw [slotReadLoop] at h
    dsimp only at h
    obtain ⟨htaken, hrest⟩ := Prod.mk.inj h
    split_ifs at htaken with hline
    cases htaken
    exact ⟨hrest ▸ readPipe_append got unread _, hline, readPipe_length_le unread _ hgot⟩
  | cons choice choices ih =>
    cases choice with
    | interrupted => exact ih hgot h
    | available size =>
      rw [slotReadLoop] at h
      split_ifs at h
      · cases h
      · dsimp only at h
        have hlength := readPipe_length_le unread (size + 1) hgot
        split_ifs at h with hline hfull
        · cases h
          exact ⟨readPipe_append got unread _, hline, hlength⟩
        · cases h
        · rw [← readPipe_append got unread (size + 1)]
          exact ih hlength h

/-! ## The slot -/

/-- `php_state`. -/
inductive PhpState where
  | ready
  | busy
  deriving DecidableEq, Repr

/-- What happens on a slot, in order.  A write goes to the pipe of a server. -/
inductive SlotEvent where
  | lock
  | write (server : Nat) (bytes : List UInt8)
  | close (server : Nat)
  | spawn (server : Nat)
  | unlock
  deriving DecidableEq, Repr

/-- A slot: its state, the number of its server while its process and its pipes
are open, the number of servers that were tried, the bytes to come from the
server, and what happened so far. -/
structure Slot where
  state : PhpState
  server : Option Nat
  tried : Nat
  unread : List UInt8
  events : List SlotEvent

/-- The systems around a slot.  For each server: whether it is spawned, whether
`select` can watch its pipe, and what it writes at its start.  For each command
of the slot: whether each attempt to write it succeeds, and what the server
writes in answer.  For both, how the reads are split. -/
structure SlotSystem where
  spawned : Nat → Bool
  watchable : Nat → Bool
  greeting : Nat → List UInt8
  greetingReads : Nat → List ReadChoice
  written : Nat → Nat → Bool
  answer : Nat → List UInt8
  reads : Nat → List ReadChoice

def Slot.log (slot : Slot) (event : SlotEvent) : Slot :=
  { slot with events := slot.events ++ [event] }

/-- The check of `php_cmd` before each attempt. -/
def Slot.usable (slot : Slot) : Bool := decide (slot.state = .ready) && slot.server.isSome

/-- `php_read_result` on a valid slot, with what `php_fail_read` does after it has
marked the slot. -/
def Slot.readResult (sys : SlotSystem) (reads : List ReadChoice) (restart : Slot → Slot)
    (slot : Slot) : Text × Slot :=
  if !slot.server.any sys.watchable then (undefinedText, restart { slot with state := .busy })
  else if slot.unread = [] then (undefinedText, restart { slot with state := .busy })
  else
    match slotReadLoop [] slot.unread reads with
    | (some got, unread) => (cstr got, { slot with state := .ready, unread := unread })
    | (none, unread) => (undefinedText, restart { slot with state := .busy, unread := unread })

/-- `php_close`.  The bytes of the server go with its pipe. -/
def Slot.phpClose (slot : Slot) : Slot :=
  { slot with
    server := none
    unread := []
    events := slot.events ++ (slot.server.map SlotEvent.close).toList }

/-- `php_init` for one slot.  The greeting is read without a restart. -/
def Slot.phpInit (sys : SlotSystem) (slot : Slot) : Slot :=
  let server := slot.tried
  if sys.spawned server then
    let slot :=
      { slot with
        server := some server
        tried := server + 1
        unread := sys.greeting server
        events := slot.events ++ [SlotEvent.spawn server] }
    let (text, slot) := slot.readResult sys (sys.greetingReads server) id
    { slot with state := if strstr text (lit "Started") then .ready else .busy }
  else { slot with state := .busy, server := none, tried := server + 1, unread := [] }

/-- `php_fail_read` with a restart, after the mark. -/
def Slot.restart (sys : SlotSystem) (slot : Slot) : Slot := slot.phpClose.phpInit sys

/-- The bytes that `php_cmd` writes for a command. -/
def phpFrame (command : Text) : List UInt8 := snprintfS BUFSIZE (command ++ [13, 10])

/-- A write that succeeds: the server has the command and will answer it. -/
def Slot.send (sys : SlotSystem) (call : Nat) (frame : List UInt8) (slot : Slot) : Slot :=
  { slot with
    unread := slot.unread ++ sys.answer call
    events := slot.events ++ (slot.server.map fun server => SlotEvent.write server frame).toList }

/-- The attempts of `php_cmd`, with the number of writes that are left. -/
def Slot.cmdLoop (sys : SlotSystem) (call : Nat) (frame : List UInt8) :
    Nat → Nat → Slot → Text × Slot
  | 0, _, slot => (undefinedText, slot)
  | left + 1, attempt, slot =>
    if !slot.usable then (undefinedText, slot)
    else if !sys.written call attempt then
      if left = 0 then (undefinedText, slot.phpClose)
      else
        let slot := slot.phpClose.phpInit sys
        if slot.state = .ready then slot.cmdLoop sys call frame left (attempt + 1)
        else (undefinedText, slot)
    else
      let (text, slot) := (slot.send sys call frame).readResult sys (sys.reads call) (.restart sys)
      (if text = [] then undefinedText else text, slot)

/-- `php_cmd` on a slot. -/
def Slot.phpCmd (sys : SlotSystem) (call : Nat) (command : Text) (slot : Slot) : Text × Slot :=
  let (text, slot) := (slot.log .lock).cmdLoop sys call (phpFrame command) 3 0
  (text, slot.log .unlock)

/-- One call of `php_cmd`. -/
structure SlotCall where
  command : Text
  text : Text
  before : Slot
  after : Slot

/-- The commands in order, with the number of the first one. -/
def Slot.run (sys : SlotSystem) : Nat → Slot → List Text → List SlotCall
  | _, _, [] => []
  | call, slot, command :: commands =>
    let (text, next) := slot.phpCmd sys call command
    ⟨command, text, slot, next⟩ :: next.run sys (call + 1) commands

/-! ## The answers -/

/-- The turns of the read loop. -/
def slotTurns : List UInt8 → List ReadChoice → List PhpTurn
  | unread, [] => if unread = [] then [] else [⟨.ready, .bytes unread⟩]
  | unread, .interrupted :: choices => ⟨.ready, .interrupted⟩ :: slotTurns unread choices
  | unread, .available size :: choices =>
    if unread = [] then []
    else ⟨.ready, .bytes (unread.take (size + 1))⟩ :: slotTurns (unread.drop (size + 1)) choices

theorem slotReadLoop_fst {got unread : List UInt8} {choices : List ReadChoice}
    (hgot : got.length < RESULTS_BUFFER - 1) (hline : (10 : UInt8) ∉ cstr got) :
    (slotReadLoop got unread choices).1 = phpReadLoop got (slotTurns unread choices) := by
  have hroom : ¬ RESULTS_BUFFER - 1 ≤ got.length := by omega
  induction choices generalizing got unread with
  | nil =>
    rw [slotReadLoop, slotTurns]
    by_cases hnil : unread = []
    · rw [if_pos hnil, hnil, readPipe, phpReadLoop]
      simpa using hline
    · rw [if_neg hnil, phpReadLoop, if_neg hroom, if_neg (by simp), readPipe]
      dsimp only
      rw [if_neg hnil, List.take_length, phpReadLoop, ite_self]
  | cons choice choices ih =>
    cases choice with
    | interrupted =>
      rw [slotReadLoop, slotTurns, phpReadLoop, if_neg hroom, if_neg (by simp)]
      exact ih hgot hline hroom
    | available size =>
      rw [slotReadLoop, slotTurns]
      by_cases hnil : unread = []
      · rw [if_pos hnil, if_pos hnil, phpReadLoop]
      · have hchunk : unread.take (size + 1) ≠ [] := by simp [hnil]
        rw [if_neg hnil, if_neg hnil, phpReadLoop, if_neg hroom, if_neg (by simp)]
        dsimp only
        rw [if_neg hchunk]
        have hfst : (readPipe got unread (size + 1)).1 =
            got ++ (unread.take (size + 1)).take (RESULTS_BUFFER - 1 - got.length) := rfl
        rw [← hfst]
        split_ifs with hfound hfull
        · rfl
        · rfl
        · rw [readPipe_of_room (by omega)]
          exact ih (by omega) hfound hfull

/-- What the system answers to one attempt. -/
def slotAttempt (sys : SlotSystem) (call attempt : Nat) (frame : List UInt8) (slot : Slot) :
    PhpAttempt where
  usable := slot.usable
  written := if sys.written call attempt then frame.length else -1
  restarted := decide ((slot.restart sys).state = .ready)
  watchable := slot.server.any sys.watchable
  select := if slot.unread ++ sys.answer call = [] then .timeout else .ready
  named := true
  turns := slotTurns (slot.unread ++ sys.answer call) (sys.reads call)

/-- The answers to a command on a slot.  A slot is restarted between two
attempts. -/
def slotSystem (sys : SlotSystem) (call : Nat) (command : Text) (slot : Slot) : PhpSystem where
  servers := 1
  process := 0
  attempt n := slotAttempt sys call n (phpFrame command) ((Slot.restart sys)^[n] slot)

theorem phpFrame_ne_nil (command : Text) : phpFrame command ≠ [] := by
  unfold phpFrame snprintfS
  simp [BUFSIZE]

/-- A result that was read is what `php_read_result` returns. -/
theorem Slot.readResult_fst (sys : SlotSystem) (call attempt : Nat) (frame : List UInt8)
    (failed : Slot → Slot) (slot : Slot) :
    ((slot.send sys call frame).readResult sys (sys.reads call) failed).1 =
      phpReadResult (slotAttempt sys call attempt frame slot) := by
  unfold Slot.readResult phpReadResult slotAttempt Slot.send
  dsimp only
  split
  · rfl
  · by_cases hnil : slot.unread ++ sys.answer call = []
    · rw [if_pos hnil, if_pos hnil]
    · rw [if_neg hnil, if_neg hnil]
      dsimp only
      rw [if_pos rfl, ← slotReadLoop_fst (by decide) (by decide)]
      split
      · rename_i hread
        rw [hread]
      · rename_i hread
        rw [hread]

theorem Slot.cmdLoop_fst (sys : SlotSystem) (call : Nat) (command : Text) (slot : Slot)
    (left attempt : Nat) :
    (((Slot.restart sys)^[attempt] slot).cmdLoop sys call (phpFrame command) left attempt).1 =
      phpCmdLoop (slotSystem sys call command slot) left attempt := by
  induction left generalizing attempt with
  | zero => rfl
  | succ left ih =>
    have hnext := ih (attempt + 1)
    rw [Function.iterate_succ_apply'] at hnext
    rw [Slot.cmdLoop, phpCmdLoop]
    show _ = if (!((Slot.restart sys)^[attempt] slot).usable) = true then _ else _
    generalize hslot : (Slot.restart sys)^[attempt] slot = current at hnext ⊢
    have hattempt : (slotSystem sys call command slot).attempt attempt =
        slotAttempt sys call attempt (phpFrame command) current := by rw [← hslot]; rfl
    rw [hattempt]
    split
    · rfl
    · have hpositive : ¬ ((phpFrame command).length : Int) ≤ 0 := by
        have := List.length_pos_iff.2 (phpFrame_ne_nil command)
        omega
      cases hwritten : sys.written call attempt with
      | false =>
        have hfailed : (slotAttempt sys call attempt (phpFrame command) current).written ≤ 0 := by
          simp [slotAttempt, hwritten]
        rw [if_pos (by rfl), if_pos hfailed]
        by_cases hleft : left = 0
        · simp [hleft]
        · by_cases hready : (current.restart sys).state = .ready
          · have hagain : left ≠ 0 ∧
                (slotAttempt sys call attempt (phpFrame command) current).restarted = true :=
              ⟨hleft, decide_eq_true hready⟩
            rw [if_neg hleft, if_pos hagain, ← hnext]
            exact congrArg Prod.fst (if_pos hready)
          · have hstop : ¬ (left ≠ 0 ∧
                (slotAttempt sys call attempt (phpFrame command) current).restarted = true) :=
              fun h => hready (of_decide_eq_true h.2)
            rw [if_neg hleft, if_neg hstop]
            exact congrArg Prod.fst (if_neg hready)
      | true =>
        have hdone : ¬ (slotAttempt sys call attempt (phpFrame command) current).written ≤ 0 := by
          simpa [slotAttempt, hwritten] using hpositive
        rw [if_neg (by simp), if_neg hdone]
        dsimp only
        rw [Slot.readResult_fst sys call attempt]

/-- A command on a slot is `php_cmd` with the answers of the slot. -/
theorem slotCmd_eq_phpCmd (sys : SlotSystem) (call : Nat) (command : Text) (slot : Slot) :
    (slot.phpCmd sys call command).1 =
      phpCmd (slotSystem sys call command (slot.log .lock)) := by
  have hvalid : ¬ ((0 : Int) < 0 ∨ (1 : Int) ≤ 0 ∨ MAX_PHP_SERVERS ≤ 0) := by decide
  rw [phpCmd]
  show _ = if (0 : Int) < 0 ∨ (1 : Int) ≤ 0 ∨ MAX_PHP_SERVERS ≤ 0 then _ else _
  rw [if_neg hvalid]
  exact Slot.cmdLoop_fst sys call command (slot.log .lock) 3 0

end Spine
