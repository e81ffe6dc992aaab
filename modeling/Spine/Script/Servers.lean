import Spine.Base.Stages
import Spine.Process.Children
import Spine.Script.Slot

/-!
# The script servers and what they own

`Spine.Script.Slot` follows the bytes of one slot.  This module follows what the
slots own: a process and two pipe ends each, over any calls of `php_init`,
`php_close`, `php_cmd` and `php_get_process`.

* `PhpWorld` has the slots, the local variables of `php_init`, the descriptor
  table and the records of what was opened, closed, started, reaped and
  abandoned.  `openAt`, `closeAt` and `moveDesc` are what the code does with one
  variable or field.
* `initBody` is the loop body of `php_init` as a chain of stages, and `phpInit`
  is the loop with the cleanup behind it.
* `phpClose`, `phpCmdCall` and `phpGetProcess` are the other three functions.
* `phpCall` is one call with the answers of the system, and `phpRun` is a
  sequence of calls.

A descriptor carries the number of its opening and a server the number of its
start.  No branch reads them.  `none` stands for `-1` in a variable and in a
field.  A `close` of a number that is not this descriptor any more goes to
`stray`.  The kernel gives a number that is none of these descriptors, and a pid
above 1.  The descriptors of the other threads come and go among the other
numbers.  The quit message is left out.
-/

namespace Spine

open Base.Stages

def PHP_INIT : Int := 999

/-! ## Descriptors and slots -/

/-- An open descriptor and its serial number. -/
structure Desc where
  fd : Nat
  serial : Nat
  deriving DecidableEq

/-- A server and its serial number. -/
structure Server where
  pid : Nat
  serial : Nat
  deriving DecidableEq

/-- The descriptor variables of `php_init`: the two ends of `cacti2php_pdes` and
of `php2cacti_pdes`, and the two copies. -/
inductive PhpVar where
  | c2pRead
  | c2pWrite
  | p2cRead
  | p2cWrite
  | dupStdin
  | dupStdout
  deriving DecidableEq

/-- Where a descriptor can be written down. -/
inductive FdPlace where
  | var (v : PhpVar)
  | read (slot : Nat)
  | write (slot : Nat)
  deriving DecidableEq

/-- The slot at the moment when a command is written to it. -/
structure CommandWrite where
  state : PhpState
  server : Option Server
  readFd : Option Desc
  writeFd : Option Desc
  locked : Bool
  deriving DecidableEq

/-- The slots, the variables of `php_init` and the descriptors, with a record of what was
opened, closed, spawned and reaped. -/
structure PhpWorld where
  desc : FdPlace → Option Desc
  server : Nat → Option Server
  state : Nat → PhpState
  cursor : Int
  locked : Nat → Bool
  /-- Which of these descriptors the number is at the moment. -/
  fds : Nat → Option Nat
  opened : Nat
  closed : List Nat
  stray : List Desc
  spawned : Nat
  reaped : List Nat
  abandoned : List Nat
  writes : List CommandWrite

namespace PhpWorld

def setDesc (w : PhpWorld) (p : FdPlace) (d : Option Desc) : PhpWorld :=
  { w with desc := Function.update w.desc p d }

def setServer (w : PhpWorld) (slot : Nat) (s : Option Server) : PhpWorld :=
  { w with server := Function.update w.server slot s }

def setState (w : PhpWorld) (slot : Nat) (state : PhpState) : PhpWorld :=
  { w with state := Function.update w.state slot state }

def lock (w : PhpWorld) (slot : Nat) : PhpWorld :=
  { w with locked := Function.update w.locked slot true }

def unlock (w : PhpWorld) (slot : Nat) : PhpWorld :=
  { w with locked := Function.update w.locked slot false }

/-- A new descriptor with the number `n` goes to `p`. -/
def openAt (w : PhpWorld) (p : FdPlace) (n : Nat) : PhpWorld :=
  { w with
    desc := Function.update w.desc p (some ⟨n, w.opened⟩)
    fds := Function.update w.fds n (some w.opened)
    opened := w.opened + 1 }

/-- `close(fd)`. -/
def closeFd (w : PhpWorld) (d : Desc) : PhpWorld :=
  if w.fds d.fd = some d.serial then
    { w with fds := Function.update w.fds d.fd none, closed := w.closed ++ [d.serial] }
  else { w with fds := Function.update w.fds d.fd none, stray := w.stray ++ [d] }

/-- `php_close_fd`: close once and mark the place as gone. -/
def closeAt (w : PhpWorld) (p : FdPlace) : PhpWorld :=
  match w.desc p with
  | none => w
  | some d => (w.closeFd d).setDesc p none

def moveDesc (w : PhpWorld) (p q : FdPlace) : PhpWorld :=
  (w.setDesc q (w.desc p)).setDesc p none

/-- The check before a command is written and before a slot is handed out. -/
def usable (w : PhpWorld) (slot : Nat) : Bool :=
  decide (w.state slot = .ready) && (w.server slot).any (fun s => decide (1 < s.pid)) &&
    (w.desc (.read slot)).isSome && (w.desc (.write slot)).isSome

/-- `select` can watch the slot's pipe. -/
def watchable (w : PhpWorld) (slot : Nat) : Bool :=
  (w.desc (.read slot)).any fun d => decide (d.fd < FD_SETSIZE)

end PhpWorld

/-! ## `php_init` -/

/-- The answers to `php_init` for one slot.  A pipe comes with whether both ends
could be marked close-on-exec, and so does a copy.  `started` is whether the
greeting was read in time and says so. -/
structure SlotInitEnv where
  toPhp : Option (Nat × Nat × Bool)
  fromPhp : Option (Nat × Nat × Bool)
  fileActions : Bool
  attributes : Bool
  dupStdin : Option (Nat × Bool)
  dupStdout : Option (Nat × Bool)
  actions : Bool
  spawn : Nat → SpawnReply
  started : Bool

/-- What `php_init` is answered. -/
structure PhpInitEnv where
  strdup : Bool
  slot : Nat → SlotInitEnv

/-- `spine_open_pipe_cloexec`, with the variables for the two ends. -/
def openPipe (answer : Option (Nat × Nat × Bool)) (r s : PhpVar) : Stage PhpWorld := fun w =>
  match answer with
  | none => some (w, false)
  | some (rd, wr, cloexec) =>
    if w.fds rd = none ∧ w.fds wr = none ∧ rd ≠ wr then
      let opened := (w.openAt (.var r) rd).openAt (.var s) wr
      if cloexec then some (opened, true)
      else some ((opened.closeAt (.var r)).closeAt (.var s), false)
    else none

/-- An end that already sits on its standard descriptor is copied. -/
def dupStd (source copy : PhpVar) (std : Nat) (answer : Option (Nat × Bool)) : Stage PhpWorld :=
  fun w =>
    if (w.desc (.var source)).any fun d => decide (d.fd = std) then
      match answer with
      | none => some (w, false)
      | some (n, cloexec) =>
        if w.fds n = none then
          let opened := w.openAt (.var copy) n
          if cloexec then some (opened, true) else some (opened.closeAt (.var copy), false)
        else none
    else some (w, true)

/-- Both ends of the child are copied before either is looked at. -/
def dupBoth (env : SlotInitEnv) : Stage PhpWorld := fun w =>
  (dupStd .c2pRead .dupStdin 0 env.dupStdin w).bind fun r =>
    (dupStd .p2cWrite .dupStdout 1 env.dupStdout r.1).map fun r' => (r'.1, r.2 && r'.2)

def closeDups (w : PhpWorld) : PhpWorld :=
  (w.closeAt (.var .dupStdin)).closeAt (.var .dupStdout)

/-- The parent after the spawn: the slot takes over the server and its own two
ends, and the greeting decides the state. -/
def recordServer (slot pid : Nat) (started : Bool) (w : PhpWorld) : PhpWorld :=
  let w := (w.closeAt (.var .c2pRead)).closeAt (.var .p2cWrite)
  let w := { w.setServer slot (some ⟨pid, w.spawned⟩) with spawned := w.spawned + 1 }
  let w := (w.moveDesc (.var .c2pWrite) (.write slot)).moveDesc (.var .p2cRead) (.read slot)
  w.setState slot (if started && w.watchable slot then .ready else .busy)

def spawnServer (slot : Nat) (env : SlotInitEnv) : Stage PhpWorld := fun w =>
  match posixSpawnRetry env.spawn 3 0 with
  | none => some (closeDups w, false)
  | some pid =>
    if 1 < pid then some (recordServer slot pid env.started (closeDups w), true) else none

/-- The body of the loop, with `goto cleanup` as leaving the chain. -/
def initBody (slot : Nat) (env : SlotInitEnv) : Stage PhpWorld :=
  andThen (openPipe env.toPhp .c2pRead .c2pWrite) <|
    andThen (openPipe env.fromPhp .p2cRead .p2cWrite) <|
      andThen (check env.fileActions) <|
        andThen (check env.attributes) <|
          andThen (dupBoth env) <|
            andThen (check env.actions) (spawnServer slot env)

/-- The slots one after the other, with the one where it failed. -/
def initSlots (env : Nat → SlotInitEnv) : List Nat → PhpWorld → Option (PhpWorld × Option Nat)
  | [], w => some (w, none)
  | slot :: slots, w =>
    (initBody slot (env slot) w).bind fun r =>
      if r.2 then initSlots env slots r.1 else some (r.1, some slot)

def cleanupOrder : List PhpVar :=
  [.dupStdin, .dupStdout, .c2pRead, .c2pWrite, .p2cRead, .p2cWrite]

def cleanup (w : PhpWorld) : PhpWorld := cleanupOrder.foldl (fun w v => w.closeAt (.var v)) w

def resetSlot (slot : Nat) (w : PhpWorld) : PhpWorld :=
  (((w.setServer slot none).setDesc (.read slot) none).setDesc (.write slot) none).setState slot
    .busy

section Calls

variable (servers : Int)

/-- The slots of a call, if the number is in range. -/
def slotsOf (process : Int) : Option (List Nat) :=
  if servers < 0 ∨ MAX_PHP_SERVERS < servers ∨
      (process ≠ PHP_INIT ∧ (process < 0 ∨ servers ≤ process)) then none
  else if process = PHP_INIT then some (List.range servers.toNat)
  else some [process.toNat]

def phpInit (process : Int) (env : PhpInitEnv) (w : PhpWorld) : Option (PhpWorld × Bool) :=
  if !env.strdup then some (w, false)
  else
    match slotsOf servers process with
    | none => some (w, false)
    | some slots =>
      (initSlots env.slot slots w).map fun r =>
        match r.2 with
        | none => (cleanup r.1, true)
        | some slot => (resetSlot slot (cleanup r.1), false)

/-! ## `php_close` -/

/-- `php_terminate_and_reap` with the last answer of `waitpid`.  A server that is
not gone is abandoned. -/
def reapServer (slot : Nat) (reply : WaitReply) (w : PhpWorld) : PhpWorld :=
  match w.server slot with
  | none => w
  | some s =>
    if 1 < s.pid then
      if reply.gone s.pid then { w.setServer slot none with reaped := w.reaped ++ [s.serial] }
      else { w.setServer slot none with abandoned := w.abandoned ++ [s.serial] }
    else w

/-- The loop body of `php_close`.  The read end is closed without a check, which
does nothing for `-1`. -/
def closeSlot (reply : WaitReply) (w : PhpWorld) (slot : Nat) : PhpWorld :=
  (reapServer slot reply (w.closeAt (.write slot))).closeAt (.read slot)

def phpClose (process : Int) (replies : Nat → WaitReply) (w : PhpWorld) : PhpWorld :=
  match slotsOf servers process with
  | none => w
  | some slots => slots.foldl (fun w slot => closeSlot (replies slot) w slot) w

/-! ## `php_cmd` -/

/-- The answers to one `php_cmd`: for each attempt whether the command was
written and what a restart meets, and whether the result was read. -/
structure CmdEnv where
  written : Nat → Bool
  read : Bool
  reply : Nat → WaitReply
  init : Nat → PhpInitEnv

def PhpWorld.logWrite (w : PhpWorld) (slot : Nat) : PhpWorld :=
  { w with
    writes := w.writes ++ [⟨w.state slot, w.server slot, w.desc (.read slot),
      w.desc (.write slot), w.locked slot⟩] }

/-- `php_close` and then `php_init`, as every restart does. -/
def restartSlot (slot : Nat) (reply : WaitReply) (env : PhpInitEnv) (w : PhpWorld) :
    Option (PhpWorld × Bool) :=
  phpInit servers slot env (phpClose servers slot (fun _ => reply) w)

/-- The attempts with the lock held, and how many are left. -/
def cmdAttempts (slot : Nat) (env : CmdEnv) : Nat → Nat → PhpWorld → Option PhpWorld
  | 0, _, w => some w
  | left + 1, attempt, w =>
    if !w.usable slot then some w
    else if env.written attempt then
      if env.read && w.watchable slot then some ((w.logWrite slot).setState slot .ready)
      else
        (restartSlot servers slot (env.reply attempt) (env.init attempt)
          ((w.logWrite slot).setState slot .busy)).map Prod.fst
    else if left = 0 then
      some (phpClose servers slot (fun _ => env.reply attempt) (w.logWrite slot))
    else
      (restartSlot servers slot (env.reply attempt) (env.init attempt) (w.logWrite slot)).bind
        fun r =>
          if r.2 && decide (r.1.state slot = .ready) then
            cmdAttempts slot env left (attempt + 1) r.1
          else some r.1

def phpCmdCall (process : Int) (env : CmdEnv) (w : PhpWorld) : Option PhpWorld :=
  if process < 0 ∨ servers ≤ process ∨ MAX_PHP_SERVERS ≤ process then some w
  else
    (cmdAttempts servers process.toNat env 3 0 (w.lock process.toNat)).map fun w =>
      w.unlock process.toNat

/-! ## `php_get_process` -/

/-- The answers to one `php_get_process`: which slots another thread has locked
during the scan, whether the slot to recover is locked then, and what the
recovery meets. -/
structure SelectEnv where
  contended : Nat → Bool
  contendedAgain : Bool
  reply : WaitReply
  init : PhpInitEnv

/-- What the scan has found so far. -/
structure Scan where
  found : Option Nat
  contended : Option Nat
  recovery : Option Nat

def scanSlots (contended : Nat → Bool) : List Nat → PhpWorld → Scan → PhpWorld × Scan
  | [], w, scan => (w, scan)
  | slot :: slots, w, scan =>
    if contended slot then
      scanSlots contended slots w { scan with contended := scan.contended.or (some slot) }
    else if (w.lock slot).usable slot then
      ((w.lock slot).unlock slot, { scan with found := some slot })
    else
      scanSlots contended slots ((w.lock slot).unlock slot)
        { scan with recovery := scan.recovery.or (some slot) }

/-- The cursor under `LOCK_PHP`: where the scan starts, and what is stored. -/
def nextCursor (count cursor : Int) : Int × Int :=
  let start := if count ≤ cursor then 0 else cursor
  (start, start + 1)

/-- Recover one slot with its lock held. -/
def recoverSlot (slot : Nat) (env : SelectEnv) (w : PhpWorld) : Option (PhpWorld × Bool) :=
  if w.usable slot then some (w, true)
  else
    let w :=
      if (w.server slot).any (fun s => decide (1 < s.pid)) || (w.desc (.read slot)).isSome ||
          (w.desc (.write slot)).isSome then
        phpClose servers slot (fun _ => env.reply) w
      else w
    (phpInit servers slot env.init w).map fun r =>
      (r.1, r.2 && decide (r.1.state slot = .ready))

def phpGetProcess (env : SelectEnv) (w : PhpWorld) : Option (PhpWorld × Option Nat) :=
  if servers ≤ 0 then some (w, none)
  else
    let count := min servers MAX_PHP_SERVERS
    let (start, cursor) := nextCursor count w.cursor
    let candidates := (List.range count.toNat).map fun k : Nat =>
      ((start + (k : Int)) % count).toNat
    let (w, scan) :=
      scanSlots env.contended candidates { w with cursor := cursor } ⟨none, none, none⟩
    match scan.found, scan.recovery with
    | some slot, _ => some (w, some slot)
    | none, none => some (w, scan.contended)
    | none, some slot =>
      if env.contendedAgain then some (w, scan.contended)
      else
        (recoverSlot servers slot env (w.lock slot)).map fun r =>
          (r.1.unlock slot, if r.2 then some slot else scan.contended)

/-! ## Sequences of calls -/

/-- A call with the answers it meets. -/
inductive PhpCall where
  | init (process : Int) (env : PhpInitEnv)
  | close (process : Int) (replies : Nat → WaitReply)
  | cmd (process : Int) (env : CmdEnv)
  | getProcess (env : SelectEnv)

def phpCall (w : PhpWorld) : PhpCall → Option PhpWorld
  | .init process env => (phpInit servers process env w).map Prod.fst
  | .close process replies => some (phpClose servers process replies w)
  | .cmd process env => phpCmdCall servers process env w
  | .getProcess env => (phpGetProcess servers env w).map Prod.fst

def phpRun (w : PhpWorld) : List PhpCall → Option PhpWorld
  | [] => some w
  | call :: calls => (phpCall servers w call).bind fun w' => phpRun w' calls

end Calls

/-- `php_processes_initialize`, before anything was started. -/
structure PhpStart (w : PhpWorld) : Prop where
  desc : ∀ p, w.desc p = none
  server : ∀ slot, w.server slot = none
  locked : ∀ slot, w.locked slot = false
  fds : ∀ n, w.fds n = none
  opened : w.opened = 0
  closed : w.closed = []
  stray : w.stray = []
  spawned : w.spawned = 0
  reaped : w.reaped = []
  abandoned : w.abandoned = []
  writes : w.writes = []

end Spine
