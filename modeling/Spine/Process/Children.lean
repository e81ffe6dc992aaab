import Spine.Base.Interleaving
import Spine.Base.SwapRemove

/-!
# Script children and their registry

`nft_popen` starts a script, `nft_pclose` ends it, and a child that does not
exit in time is parked in `AbandonedPids` until a later sweep finds it dead.
Every access to the registry `PidList` and to `AbandonedPids` is inside a
`ListMutex` section, so a thread's step is one such section or the code between
two of them.

* `waitpidRetry` and `spineReapChildBounded` are the two loops around
  `waitpid(.., WNOHANG)`.
* `nftSweepAbandoned`, `nftAbandonChild`, `pidListCloseAndTake`,
  `nftPopenOpen` and `nftPopenSpawn` are the functions, each with the answers of
  the system calls it makes as an argument.
* `nftStep` puts them together to the steps of a thread.

A child carries the number of its spawn next to its pid.  No branch reads the
number.  It tells two children apart that were given the same pid one after the
other.  `spawned`, `reaped` and `dropped` are records of the same kind.

The kernel is in the guards of the steps: `pipe` and `open` return descriptors
that are not open, and `posix_spawn` returns a pid that no child has which was
not yet waited for.  Cancellation is left out, since no thread is ever
cancelled.
-/

namespace Spine

def NFT_ABANDONED_MAX : Nat := 64

def NFT_PCLOSE_SPIN_ATTEMPTS : Nat := 100

/-- How often one `waitpid` is repeated while signals interrupt it. -/
def EINTR_BUDGET : Nat := 1000

/-! ## Waiting for a child -/

/-- The errors of `waitpid`. -/
inductive WaitErrno where
  | eintr
  | echild
  | other (code : Nat)
  deriving DecidableEq

/-- The answer of `waitpid(pid, &status, WNOHANG)`.  A child that still runs is
answered by `returned 0`. -/
inductive WaitReply where
  | returned (pid : Nat) (status : Int)
  | failed (errno : WaitErrno)
  deriving DecidableEq

/-- The answers to a thread's successive `waitpid` calls, and for each whether
the clock has passed the deadline when the retry and when the attempt is
over. -/
structure WaitEnv where
  reply : Nat → WaitReply
  retryLate : Nat → Bool
  late : Nat → Bool

/-- The answer means that there is no such child any more. -/
def WaitReply.gone (pid : Nat) : WaitReply → Bool
  | .returned waited _ => waited == pid
  | .failed .echild => true
  | .failed _ => false

/-- `do waited = waitpid(..) while (EINTR && --eintr_budget > 0 && ..)`, with
the last answer and the number of the next call.  `stop` is the clock's part of
the condition. -/
def waitpidRetry (reply : Nat → WaitReply) (stop : Nat → Bool) : Nat → Nat → WaitReply × Nat
  | 0, call => (reply call, call + 1)
  | budget + 1, call =>
    match reply call with
    | .failed .eintr =>
      if stop call then (.failed .eintr, call + 1)
      else waitpidRetry reply stop budget (call + 1)
    | answer => (answer, call + 1)

/-- What waiting came to. -/
inductive ReapResult where
  | reaped (status : Int)
  | running
  | error (errno : WaitErrno)

/-- The attempts of `spine_reap_child_bounded`. -/
def reapAttempts (env : WaitEnv) (pid : Nat) : Nat → Nat → ReapResult
  | 0, _ => .running
  | attempts + 1, call =>
    match waitpidRetry env.reply env.retryLate (EINTR_BUDGET - 1) call with
    | (.returned waited status, next) =>
      if waited = pid then .reaped status
      else if env.late next then .running
      else reapAttempts env pid attempts next
    -- someone else reaped it, so no status is available
    | (.failed .echild, _) => .reaped 0
    | (.failed errno, _) => .error errno

def spineReapChildBounded (env : WaitEnv) (pid attempts : Nat) : ReapResult :=
  reapAttempts env pid attempts 0

/-! ## The state under `ListMutex` -/

/-- Who started a child: `nft_popen`, or `php_init`, whose servers reach this
component only when `php_close` abandons them. -/
inductive Origin where
  | script
  | server
  deriving DecidableEq

/-- A process.  Its serial number tells it from others with its pid. -/
structure Child where
  serial : Nat
  pid : Nat
  origin : Origin
  deriving DecidableEq

/-- A `struct pid` of the registry. -/
structure PidEntry where
  fd : Nat
  child : Child
  deriving DecidableEq

/-- The process's descriptor table: `script` descriptors were opened by
`nft_popen`, `foreign` ones by other code. -/
inductive FdUse where
  | closed
  | script
  | foreign
  deriving DecidableEq

/-- Why `nft_pclose` gives up on a child. -/
inductive PcloseFailure where
  | lingering
  | waitFailed (errno : WaitErrno)
  deriving DecidableEq

/-- Why a child is abandoned. -/
inductive AbandonReason where
  | pclose (failure : PcloseFailure)
  | server
  deriving DecidableEq

def AbandonReason.text : AbandonReason → String
  | .pclose .lingering => "did not exit before pipe close"
  | .pclose (.waitFailed _) => "waitpid failed"
  | .server => "PHP child survived shutdown budget"

/-- The line `nft_abandon_child` writes: a warning for a child it parked, and an
error for one it dropped. -/
structure AbandonLine where
  pid : Nat
  reason : String
  parked : Bool
  deriving DecidableEq

/-- The registry and the parked children, with a record of every child and of the log. -/
structure ChildTable where
  pidList : List PidEntry
  abandonedPids : List Child
  fds : Nat → FdUse
  spawned : List Child
  reaped : List Child
  dropped : List Child
  log : List AbandonLine

/-- The children that were not yet waited for. -/
def ChildTable.unreaped (s : ChildTable) : List Child :=
  s.spawned.filter fun c => c ∉ s.reaped

def ChildTable.freshPid (s : ChildTable) (pid : Nat) : Bool :=
  s.unreaped.all fun c => c.pid != pid

def ChildTable.newChild (s : ChildTable) (pid : Nat) (origin : Origin) : Child :=
  ⟨s.spawned.length, pid, origin⟩

/-- The descriptor table with some entries replaced. -/
def setFds (fds : Nat → FdUse) (changed : List Nat) (use : FdUse) : Nat → FdUse :=
  fun n => if n ∈ changed then use else fds n

/-! ## The abandoned children -/

/-- The loop of `nft_sweep_abandoned`, with what it asked and was answered. -/
def abandonedSweep (env : WaitEnv) (cells : List Child) :
    Base.SwapRemove.Sweep Child WaitReply Nat :=
  Base.SwapRemove.sweep
    (fun _ call => waitpidRetry env.reply (fun _ => false) (EINTR_BUDGET - 1) call)
    (fun c answer => answer.gone c.pid) cells 0

/-- The children a sweep removes. -/
def sweptChildren (env : WaitEnv) (cells : List Child) : List Child :=
  Base.SwapRemove.removes (fun c answer => WaitReply.gone c.pid answer)
    (abandonedSweep env cells).verdicts

def nftSweepAbandoned (env : WaitEnv) (s : ChildTable) : ChildTable :=
  { s with
    abandonedPids := (abandonedSweep env s.abandonedPids).cells
    reaped := s.reaped ++ sweptChildren env s.abandonedPids }

/-- The part of `nft_abandon_child` after the sweep. -/
def parkChild (s : ChildTable) (c : Child) (reason : AbandonReason) : ChildTable :=
  if s.abandonedPids.length < NFT_ABANDONED_MAX then
    { s with
      abandonedPids := s.abandonedPids ++ [c]
      log := s.log ++ [⟨c.pid, reason.text, true⟩] }
  else
    { s with
      dropped := s.dropped ++ [c]
      log := s.log ++ [⟨c.pid, reason.text, false⟩] }

def nftAbandonChild (env : WaitEnv) (s : ChildTable) (c : Child) (reason : AbandonReason) :
    ChildTable :=
  parkChild (nftSweepAbandoned env s) c reason

/-! ## The registry -/

/-- Close the descriptor of an entry and unlink the entry, both under the
lock. -/
def pidListCloseAndTake (s : ChildTable) (fd : Nat) : Option (Child × ChildTable) :=
  (s.pidList.find? fun e => e.fd == fd).map fun cur =>
    (cur.child,
      { s with
        pidList := s.pidList.eraseP fun e => e.fd == fd
        fds := setFds s.fds [cur.fd] .closed })

/-- The types of `nft_popen`. -/
inductive PopenMode where
  | read
  | write
  | duplex
  deriving DecidableEq

def popenMode (type : String) : Option PopenMode :=
  if type = "r+" then some .duplex
  else if type = "r" then some .read
  else if type = "w" then some .write
  else none

/-- The end of the pipe that the script gets. -/
def PopenMode.childEnd (mode : PopenMode) (rd wr : Nat) : Nat :=
  if mode = .write then rd else wr

/-- The end that `nft_popen` registers and returns. -/
def PopenMode.parentEnd (mode : PopenMode) (rd wr : Nat) : Nat :=
  if mode = .write then wr else rd

/-- The standard descriptor that the script's end is put on. -/
def PopenMode.target (mode : PopenMode) : Nat :=
  if mode = .write then 0 else 1

/-- The answer of `posix_spawn`. -/
inductive SpawnReply where
  | pid (pid : Nat)
  | eagain
  | enomem
  | failed (errno : Nat)

/-- `posix_spawn` with its retries on `EAGAIN` and `ENOMEM`. -/
def posixSpawnRetry (spawn : Nat → SpawnReply) : Nat → Nat → Option Nat
  | 0, attempt =>
    match spawn attempt with
    | .pid pid => some pid
    | _ => none
  | retries + 1, attempt =>
    match spawn attempt with
    | .pid pid => some pid
    | .failed _ => none
    | .eagain | .enomem => posixSpawnRetry spawn retries (attempt + 1)

/-- What fails in `nft_popen` before it takes the lock. -/
structure PopenEnv where
  pipe : Option (Nat × Nat)
  cloexec : Bool
  malloc : Bool
  strdup : Bool

/-- What happens in `nft_popen` while it holds the lock. -/
structure SpawnEnv where
  waits : WaitEnv
  fileActions : Bool
  attributes : Bool
  inheritFd : Option Nat
  spawn : Nat → SpawnReply

/-- The `errno` of a call that failed. -/
inductive NftErrno where
  | einval
  | ebadf
  | etimedout
  | wait (errno : WaitErrno)
  | system
  deriving DecidableEq

/-- What the last call returned. -/
inductive CallResult where
  | none
  | descriptor (fd : Nat)
  | status (status : Int)
  | pending (count : Nat)
  | failed (errno : NftErrno)
  deriving DecidableEq

/-- Where a thread is.  `opening` is inside `nft_popen` with the pipe open,
`closing` and `killing` are inside `nft_pclose` with a detached entry, and
`abandoning` is on the way into `nft_abandon_child`. -/
inductive ChildThread where
  | outside (result : CallResult)
  | opening (mode : PopenMode) (rd wr : Nat)
  | closing (child : Child)
  | killing (child : Child) (failure : PcloseFailure)
  | abandoning (child : Child) (reason : AbandonReason)
  deriving DecidableEq

/-- `nft_popen` up to the lock. -/
def nftPopenOpen (command type : Option String) (env : PopenEnv) (s : ChildTable) :
    Option (ChildTable × ChildThread) :=
  match command, type.bind popenMode with
  | some _, some mode =>
    match env.pipe with
    | none => some (s, .outside (.failed .system))
    | some (rd, wr) =>
      if s.fds rd = .closed ∧ s.fds wr = .closed ∧ rd ≠ wr then
        if env.cloexec && env.malloc && env.strdup then
          some ({ s with fds := setFds s.fds [rd, wr] .script }, .opening mode rd wr)
        else
          -- each of the failures closes both ends again
          some ({ s with fds := setFds (setFds s.fds [rd, wr] .script) [rd, wr] .closed },
            .outside (.failed .system))
      else none
  | _, _ => some (s, .outside (.failed .einval))

/-- The pid of the script, when everything up to `posix_spawn` works.  An end
that already sits on its standard descriptor has to be duplicated first. -/
def SpawnEnv.child (env : SpawnEnv) (mode : PopenMode) (rd wr : Nat) : Option Nat :=
  if env.fileActions && env.attributes &&
      (mode.childEnd rd wr != mode.target || env.inheritFd.isSome) then
    posixSpawnRetry env.spawn 3 0
  else none

/-- `nft_popen` from the lock on.  The duplicated end is opened and closed
inside the section. -/
def nftPopenSpawn (env : SpawnEnv) (mode : PopenMode) (rd wr : Nat) (table : ChildTable) :
    Option (ChildTable × ChildThread) :=
  let s := nftSweepAbandoned env.waits table
  match env.child mode rd wr with
  | none =>
    some ({ s with fds := setFds s.fds [rd, wr] .closed }, .outside (.failed .system))
  | some pid =>
    if s.freshPid pid then
      let child := s.newChild pid .script
      let fd := mode.parentEnd rd wr
      some ({ s with
        pidList := ⟨fd, child⟩ :: s.pidList
        fds := setFds s.fds [mode.childEnd rd wr] .closed
        spawned := s.spawned ++ [child] }, .outside (.descriptor fd))
    else none

/-! ## The steps of a thread -/

/-- A step of a thread, with what it is answered. -/
inductive ChildAction where
  /-- Other code opens or closes a descriptor of its own. -/
  | foreignOpen (fd : Nat)
  | foreignClose (fd : Nat)
  | popen (command type : Option String) (env : PopenEnv)
  | spawn (env : SpawnEnv)
  | pclose (fd : Nat)
  | reap (env : WaitEnv)
  /-- `kill(-pid, SIGKILL)`, whose result is ignored. -/
  | kill (result : Int)
  | abandon (env : WaitEnv)
  | pending (env : WaitEnv)
  /-- `php_close` gives up on a server. -/
  | server (pid : Nat)

/-- What `nft_pclose` returns after it abandoned a child.  `php_close` gets no
result. -/
def AbandonReason.result : AbandonReason → CallResult
  | .pclose .lingering => .failed .etimedout
  | .pclose (.waitFailed errno) => .failed (.wait errno)
  | .server => .none

def nftPcloseTake (s : ChildTable) (fd : Nat) : ChildTable × ChildThread :=
  match pidListCloseAndTake s fd with
  | none => (s, .outside (.failed .ebadf))
  | some (child, s') => (s', .closing child)

def nftPcloseReap (env : WaitEnv) (s : ChildTable) (c : Child) : ChildTable × ChildThread :=
  match spineReapChildBounded env c.pid NFT_PCLOSE_SPIN_ATTEMPTS with
  | .reaped status => ({ s with reaped := s.reaped ++ [c] }, .outside (.status status))
  | .running => (s, .killing c .lingering)
  | .error errno => (s, .killing c (.waitFailed errno))

def nftAbandonedPending (env : WaitEnv) (s : ChildTable) : ChildTable × ChildThread :=
  (nftSweepAbandoned env s, .outside (.pending (nftSweepAbandoned env s).abandonedPids.length))

def nftStep {ι : Type*} : Base.Interleaving.Step ι ChildAction ChildTable ChildThread
  | _, .foreignOpen fd, s, l =>
    if s.fds fd = .closed then some ({ s with fds := setFds s.fds [fd] .foreign }, l) else none
  | _, .foreignClose fd, s, l =>
    if s.fds fd = .foreign then some ({ s with fds := setFds s.fds [fd] .closed }, l) else none
  | _, .popen command type env, s, .outside _ => nftPopenOpen command type env s
  | _, .spawn env, s, .opening mode rd wr => nftPopenSpawn env mode rd wr s
  | _, .pclose fd, s, .outside _ => some (nftPcloseTake s fd)
  | _, .reap env, s, .closing child => some (nftPcloseReap env s child)
  | _, .kill _, s, .killing child failure => some (s, .abandoning child (.pclose failure))
  | _, .abandon env, s, .abandoning child reason =>
    some (nftAbandonChild env s child reason, .outside reason.result)
  | _, .pending env, s, .outside _ => some (nftAbandonedPending env s)
  | _, .server pid, s, .outside _ =>
    if s.freshPid pid then
      let child := s.newChild pid .server
      some ({ s with spawned := s.spawned ++ [child] }, .abandoning child .server)
    else none
  | _, _, _, _ => none

/-- Before the first call: no script was started, and no descriptor is a
script's. -/
structure ChildStart {ι : Type*} (c : Base.Interleaving.Config ι ChildTable ChildThread) :
    Prop where
  pidList : c.shared.pidList = []
  abandonedPids : c.shared.abandonedPids = []
  spawned : c.shared.spawned = []
  reaped : c.shared.reaped = []
  dropped : c.shared.dropped = []
  fds : ∀ n, c.shared.fds n ≠ .script
  threads : ∀ t, c.locals t = .outside .none

end Spine
