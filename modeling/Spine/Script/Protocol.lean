import Spine.Script.External

/-!
# Commands to the script server

`php_cmd` of `script/protocol.c` sends a command to a slot of the script
server and reads one line back with `php_read_result` of `script/read.c`.
The system answers in `PhpAttempt`, one record for each time that the command
is written.

* The read loop.  A turn waits, unless nothing has come yet, and reads.  The
  loop ends with the first line feed, and every other end gives the mark of
  an unknown value.
* The command.  A write that fails restarts the server and tries again, three
  times in all.  An empty answer becomes the mark of an unknown value.
-/

namespace Spine

open Base.CString

def MAX_PHP_SERVERS : Int := 15

/-! ## The read loop -/

/-- The answer of `read`.  Zero bytes and an error end the answer. -/
inductive PhpRead where
  | interrupted
  | ended
  | bytes (chunk : List UInt8)
  deriving DecidableEq, Repr

/-- One turn of the read loop. -/
structure PhpTurn where
  wait : WaitAnswer
  read : PhpRead
  deriving DecidableEq, Repr

/-- The read loop of `php_read_result`, with the bytes before.  `none` is
every end that is not a line feed.  After its last turn the server is
silent. -/
def phpReadLoop : List UInt8 → List PhpTurn → Option (List UInt8)
  | _, [] => none
  | got, turn :: turns =>
    if RESULTS_BUFFER - 1 ≤ got.length then none
    else if got ≠ [] ∧ turn.wait ≠ .ready then none
    else
      match turn.read with
      | .interrupted => phpReadLoop got turns
      | .ended => none
      | .bytes chunk =>
        if chunk = [] then none
        else
          let got := got ++ chunk.take (RESULTS_BUFFER - 1 - got.length)
          if 10 ∈ cstr got then some got
          else if RESULTS_BUFFER - 1 ≤ got.length then none
          else phpReadLoop got turns

/-- The answer of `select`, after the calls that were interrupted. -/
inductive SelectAnswer where
  | failed
  | timeout
  | ready
  deriving DecidableEq, Repr

/-- What happens when a command is written to a slot: whether the slot is
usable, the answer of `write`, whether a restart after a failed write gives a
ready server, whether `select` can watch the descriptor, its answer and
whether it names the descriptor, and the turns of the read loop. -/
structure PhpAttempt where
  usable : Bool
  written : Int
  restarted : Bool
  watchable : Bool
  select : SelectAnswer
  named : Bool
  turns : List PhpTurn
  deriving DecidableEq, Repr

/-- `php_read_result` on a valid slot. -/
def phpReadResult (attempt : PhpAttempt) : Text :=
  if !attempt.watchable then undefinedText
  else
    match attempt.select with
    | .failed => undefinedText
    | .timeout => undefinedText
    | .ready =>
      if attempt.named then
        match phpReadLoop [] attempt.turns with
        | some got => cstr got
        | none => undefinedText
      else undefinedText

/-! ## The command -/

/-- The number of servers, the slot that `php_get_process` returned, and the
attempts in their order. -/
structure PhpSystem where
  servers : Int
  process : Int
  attempt : Nat → PhpAttempt

/-- The attempts of `php_cmd`, with the number of writes that are left. -/
def phpCmdLoop (sys : PhpSystem) : Nat → Nat → Text
  | 0, _ => undefinedText
  | left + 1, n =>
    let attempt := sys.attempt n
    if !attempt.usable then undefinedText
    else if attempt.written ≤ 0 then
      if left ≠ 0 ∧ attempt.restarted then phpCmdLoop sys left (n + 1) else undefinedText
    else
      let result := phpReadResult attempt
      if result = [] then undefinedText else result

/-- `php_cmd`. -/
def phpCmd (sys : PhpSystem) : Text :=
  if sys.process < 0 ∨ sys.servers ≤ sys.process ∨ MAX_PHP_SERVERS ≤ sys.process then undefinedText
  else phpCmdLoop sys 3 0

end Spine
