import Spine.Base.Descriptors
import Spine.Base.Ledger
import Spine.Process.Children

/-!
# One call of `nft_popen`

`nft_popen` opens a pipe or a socket pair, allocates a registry entry and a copy of
the command, takes `ListMutex`, prepares `posix_spawn` and starts the script.  Each of
these calls can fail, and most of the failures share the teardown at `spawn_failed`.

* `popenActions` are the file actions of the child, in their order.
* `nftPopen` is the whole call, with the answers of the calls it makes in
  `PopenAnswers`.  It keeps a log of what it opens and allocates, and of what it closes
  and frees.
* `AllOrNothing` says what the caller finds afterwards, and
  `nftPopen_allOrNothing` is the result.

The registry is the one that the call finds once it has the lock.  Of `errno` only the
argument check is kept apart from the rest, and the sweep of the abandoned children is
in `Process.Children`.
-/

namespace Spine

open Base.Descriptors (FileAction)
open Base.Ledger

/-! ## The file actions of the child -/

/-- The standard descriptors that the script's end is put on. -/
def PopenMode.isTarget : PopenMode → Nat → Bool
  | .read, fd => fd == 1
  | .duplex, fd => fd == 1 || fd == 0
  | .write, fd => fd == 0

/-- What is done with the ends of this spawn.  `inheritFd` is the duplicate that is made
of an end that already sits on its standard descriptor. -/
def endActions (mode : PopenMode) (rd wr : Nat) (inheritFd : Option Nat) : List FileAction :=
  match mode with
  | .read => [.close rd, .dup2 (inheritFd.getD wr) 1, .close (inheritFd.getD wr)]
  | .duplex => [.close rd, .dup2 (inheritFd.getD wr) 1, .close (inheritFd.getD wr), .dup2 1 0]
  | .write => [.dup2 (inheritFd.getD rd) 0, .close (inheritFd.getD rd), .close wr]

/-- The descriptors of older entries.  One that has the number of a redirected standard
descriptor is left out. -/
def olderFds (mode : PopenMode) (pidFds : List Nat) : List Nat :=
  pidFds.filter fun fd => !mode.isTarget fd

def popenActions (mode : PopenMode) (rd wr : Nat) (inheritFd : Option Nat) (pidFds : List Nat) :
    List FileAction :=
  endActions mode rd wr inheritFd ++ (olderFds mode pidFds).map .close

/-! ## The call -/

/-- A `struct pid`. -/
structure PidNode where
  fd : Nat
  pid : Nat
  deriving DecidableEq, Repr

/-- Whether the thread can be cancelled. -/
inductive CancelState where
  | enabled
  | disabled
  deriving DecidableEq, Repr

/-- What the call opens, allocates or sets up. -/
inductive PopenResource where
  | descriptor (fd : Nat)
  | entry
  | commandCopy
  | fileActions
  | attributes
  deriving DecidableEq, Repr

/-- The arguments of `posix_spawn`.  The attributes put the script into a process group
of its own. -/
structure SpawnRequest where
  path : String
  argv : List String
  fileActions : List FileAction
  deriving DecidableEq, Repr

/-- The answers of the calls that `nft_popen` makes. -/
structure PopenAnswers where
  socketpair : Option (Nat × Nat)
  pipe : Option (Nat × Nat)
  cloexecRead : Bool
  cloexecWrite : Bool
  malloc : Bool
  strdup : Bool
  fileActionsInit : Bool
  attrInit : Bool
  attrSetpgroup : Bool
  attrSetflags : Bool
  dup : Option Nat
  dupCloexec : Bool
  spawn : SpawnRequest → Nat → SpawnReply

/-- What `nft_popen` changes, and a ledger of it. -/
structure PopenState where
  pidList : List PidNode
  /-- The calling thread holds `ListMutex`. -/
  listMutex : Bool
  cancel : CancelState
  log : List (Event PopenResource)

namespace PopenState

/-- A thread calls `nft_popen`. -/
def start (pidList : List PidNode) (cancel : CancelState) : PopenState :=
  ⟨pidList, false, cancel, []⟩

def acquire (s : PopenState) (r : PopenResource) : PopenState :=
  { s with log := s.log ++ [.acquire r] }

def release (s : PopenState) (r : PopenResource) : PopenState :=
  { s with log := s.log ++ [.release r] }

def lock (s : PopenState) : PopenState := { s with listMutex := true }

def unlock (s : PopenState) : PopenState := { s with listMutex := false }

def setCancel (s : PopenState) (cancel : CancelState) : PopenState := { s with cancel := cancel }

def link (s : PopenState) (node : PidNode) : PopenState :=
  { s with pidList := node :: s.pidList }

def closeBoth (s : PopenState) (rd wr : Nat) : PopenState :=
  (s.release (.descriptor rd)).release (.descriptor wr)

def closeInherited (s : PopenState) : Option Nat → PopenState
  | none => s
  | some fd => s.release (.descriptor fd)

end PopenState

/-- Two new descriptors, and `spine_set_cloexec` on both. -/
def openEnds (env : PopenAnswers) (answer : Option (Nat × Nat)) (s : PopenState) :
    PopenState × Option (Nat × Nat) :=
  match answer with
  | none => (s, none)
  | some (rd, wr) =>
    let opened := (s.acquire (.descriptor rd)).acquire (.descriptor wr)
    if env.cloexecRead && env.cloexecWrite then (opened, some (rd, wr))
    else (opened.closeBoth rd wr, none)

def spineOpenPipeCloexec (env : PopenAnswers) (s : PopenState) : PopenState × Option (Nat × Nat) :=
  openEnds env env.pipe s

/-- The pair of the duplex mode. -/
def openSocketpair (env : PopenAnswers) (s : PopenState) : PopenState × Option (Nat × Nat) :=
  openEnds env env.socketpair s

def spineDupCloexec (env : PopenAnswers) (s : PopenState) : PopenState × Option Nat :=
  match env.dup with
  | none => (s, none)
  | some duplicate =>
    let opened := s.acquire (.descriptor duplicate)
    if env.dupCloexec then (opened, some duplicate)
    else (opened.release (.descriptor duplicate), none)

/-- The duplicate of an end that already sits on its standard descriptor. -/
def inheritEnd (env : PopenAnswers) (mode : PopenMode) (rd wr : Nat) (s : PopenState) :
    PopenState × Option (Option Nat) :=
  if mode.childEnd rd wr = mode.target then
    match spineDupCloexec env s with
    | (s, none) => (s, none)
    | (s, some duplicate) => (s, some (some duplicate))
  else (s, some none)

/-- The teardown at `spawn_failed`. -/
def spawnFailed (attrValid : Bool) (inheritFd : Option Nat) (rd wr : Nat)
    (cancelState : CancelState) (s : PopenState) : PopenState :=
  let destroyed := s.release .fileActions
  let destroyed := if attrValid then destroyed.release .attributes else destroyed
  (((((destroyed.closeInherited inheritFd).closeBoth rd wr).unlock).release .commandCopy).release
    .entry).setCancel cancelState

/-- The parent after a spawn. -/
def popenParent (mode : PopenMode) (inheritFd : Option Nat) (rd wr pid : Nat)
    (cancelState : CancelState) (s : PopenState) : PopenState :=
  let destroyed := (s.release .fileActions).release .attributes
  let closed := (destroyed.closeInherited inheritFd).release (.descriptor (mode.childEnd rd wr))
  (((closed.link ⟨mode.parentEnd rd wr, pid⟩).unlock).release .commandCopy).setCancel cancelState

def spawnRequest (command : String) (mode : PopenMode) (rd wr : Nat) (inheritFd : Option Nat)
    (pidList : List PidNode) : SpawnRequest :=
  ⟨"/bin/sh", ["sh", "-c", command], popenActions mode rd wr inheritFd (pidList.map PidNode.fd)⟩

/-- From the duplication of the child's end on.  The attributes are set up. -/
def popenStart (env : PopenAnswers) (command : String) (mode : PopenMode) (rd wr : Nat)
    (cancelState : CancelState) (s : PopenState) : PopenState × Except NftErrno Nat :=
  match inheritEnd env mode rd wr s with
  | (s, none) => (spawnFailed true none rd wr cancelState s, .error .system)
  | (s, some inheritFd) =>
    match posixSpawnRetry (env.spawn (spawnRequest command mode rd wr inheritFd s.pidList)) 3 0 with
    | none => (spawnFailed true inheritFd rd wr cancelState s, .error .system)
    | some pid =>
      (popenParent mode inheritFd rd wr pid cancelState s, .ok (mode.parentEnd rd wr))

/-- From `posix_spawnattr_init` on. -/
def popenSpawn (env : PopenAnswers) (command : String) (mode : PopenMode) (rd wr : Nat)
    (cancelState : CancelState) (s : PopenState) : PopenState × Except NftErrno Nat :=
  if env.attrInit then
    let s := s.acquire .attributes
    if env.attrSetpgroup && env.attrSetflags then
      popenStart env command mode rd wr cancelState s
    else (spawnFailed true none rd wr cancelState s, .error .system)
  else (spawnFailed false none rd wr cancelState s, .error .system)

/-- From the lock on. -/
def popenLocked (env : PopenAnswers) (command : String) (mode : PopenMode) (rd wr : Nat)
    (cancelState : CancelState) (s : PopenState) : PopenState × Except NftErrno Nat :=
  if env.fileActionsInit then
    popenSpawn env command mode rd wr cancelState (s.acquire .fileActions)
  else
    (((((s.closeBoth rd wr).unlock).release .commandCopy).release .entry).setCancel cancelState,
      .error .system)

/-- From the change of the cancellation state on. -/
def popenOpened (env : PopenAnswers) (command : String) (mode : PopenMode) (rd wr : Nat)
    (s : PopenState) : PopenState × Except NftErrno Nat :=
  let cancelState := s.cancel
  let s := s.setCancel .disabled
  if env.malloc then
    let s := s.acquire .entry
    if env.strdup then
      popenLocked env command mode rd wr cancelState ((s.acquire .commandCopy).lock)
    else (((s.closeBoth rd wr).release .entry).setCancel cancelState, .error .system)
  else ((s.closeBoth rd wr).setCancel cancelState, .error .system)

/-- The answer to the call that opens the pair of a mode. -/
def PopenAnswers.pair (env : PopenAnswers) (mode : PopenMode) : Option (Nat × Nat) :=
  if mode = .duplex then env.socketpair else env.pipe

/-- The pair that a mode needs. -/
def openForMode (env : PopenAnswers) (mode : PopenMode) (s : PopenState) :
    PopenState × Option (Nat × Nat) :=
  if mode = .duplex then openSocketpair env s else spineOpenPipeCloexec env s

theorem openForMode_eq (env : PopenAnswers) (mode : PopenMode) (s : PopenState) :
    openForMode env mode s = openEnds env (env.pair mode) s := by
  cases mode <;> rfl

def nftPopen (env : PopenAnswers) (command type : Option String) (s : PopenState) :
    PopenState × Except NftErrno Nat :=
  match command, type.bind popenMode with
  | some command, some mode =>
    match openForMode env mode s with
    | (s, none) => (s, .error .system)
    | (s, some (rd, wr)) => popenOpened env command mode rd wr s
  | _, _ => (s, .error .einval)

/-! ## What the caller finds -/

/-- The kernel gives out descriptors that are not open: the two ends differ, and the
duplicate is neither of them. -/
def NewDescriptors (env : PopenAnswers) : Prop :=
  ∀ mode rd wr, env.pair mode = some (rd, wr) →
    rd ≠ wr ∧ ∀ copy, env.dup = some copy → copy ≠ rd ∧ copy ≠ wr

/-- After `-1` nothing is left and the registry is as it was.  After a descriptor the
registry has one entry more, for that descriptor and the pid of the new child, and of
everything that was opened or allocated the descriptor and the entry are left. -/
def AllOrNothing (env : PopenAnswers) (pidList : List PidNode) (cancel : CancelState)
    (s : PopenState) (result : Except NftErrno Nat) : Prop :=
  s.listMutex = false ∧ s.cancel = cancel ∧
    match result with
    | .error _ => s.pidList = pidList ∧ Balanced s.log
    | .ok fd =>
      (∃ request attempt pid, env.spawn request attempt = .pid pid ∧
        s.pidList = ⟨fd, pid⟩ :: pidList) ∧
      Leaves s.log [.descriptor fd, .entry]

section Call

variable {env : PopenAnswers} {mode : PopenMode} {command : String} {rd wr : Nat}
  {cancel : CancelState} {pidList : List PidNode}

/-- The pid of a spawn is the answer to one of the attempts. -/
theorem posixSpawnRetry_pid {spawn : Nat → SpawnReply} {retries attempt pid : Nat}
    (h : posixSpawnRetry spawn retries attempt = some pid) :
    ∃ answered, spawn answered = .pid pid := by
  induction retries generalizing attempt with
  | zero =>
    unfold posixSpawnRetry at h
    split at h
    · cases h
      exact ⟨attempt, ‹_›⟩
    · cases h
  | succ retries ih =>
    unfold posixSpawnRetry at h
    split at h
    · cases h
      exact ⟨attempt, ‹_›⟩
    · cases h
    · exact ih h
    · exact ih h

/-- What is held when `posix_spawn` is called. -/
def popenHeld (rd wr : Nat) (attrValid : Bool) (inheritFd : Option Nat) : List PopenResource :=
  [.descriptor rd, .descriptor wr, .entry, .commandCopy] ++
    (.fileActions :: (if attrValid then [.attributes] else []) ++
      (inheritFd.map PopenResource.descriptor).toList)

/-- What the teardown releases. -/
def tornDown (rd wr : Nat) (attrValid : Bool) (inheritFd : Option Nat) : List PopenResource :=
  (.fileActions :: (if attrValid then [.attributes] else []) ++
    (inheritFd.map PopenResource.descriptor).toList) ++
    [.descriptor rd, .descriptor wr, .commandCopy, .entry]

/-- What the parent of a new child releases. -/
def handedOver (mode : PopenMode) (rd wr : Nat) (inheritFd : Option Nat) : List PopenResource :=
  (.fileActions :: .attributes :: (inheritFd.map PopenResource.descriptor).toList) ++
    [.descriptor (mode.childEnd rd wr), .commandCopy]

theorem popenHeld_nodup (hne : rd ≠ wr) (attrValid : Bool) {inheritFd : Option Nat}
    (hnew : ∀ copy, inheritFd = some copy → copy ≠ rd ∧ copy ≠ wr) :
    (popenHeld rd wr attrValid inheritFd).Nodup := by
  unfold popenHeld
  cases inheritFd with
  | none => cases attrValid <;> simp [hne]
  | some copy =>
    obtain ⟨hrd, hwr⟩ := hnew copy rfl
    cases attrValid <;> simp [hne, hrd.symm, hwr.symm]

/-- The teardown releases all that is held. -/
theorem popenHeld_perm (rd wr : Nat) (attrValid : Bool) (inheritFd : Option Nat) :
    (popenHeld rd wr attrValid inheritFd).Perm (tornDown rd wr attrValid inheritFd) := by
  unfold popenHeld tornDown
  refine List.perm_append_comm.trans (List.Perm.append_left _ ?_)
  exact ((List.Perm.swap _ _ _).cons _).cons _

/-- The parent keeps its end and the entry. -/
theorem popenHeld_perm_parent (mode : PopenMode) (rd wr : Nat) (inheritFd : Option Nat) :
    (popenHeld rd wr true inheritFd).Perm
      (handedOver mode rd wr inheritFd ++ [.descriptor (mode.parentEnd rd wr), .entry]) := by
  unfold popenHeld handedOver
  rw [List.append_assoc]
  refine List.perm_append_comm.trans (List.Perm.append_left _ ?_)
  refine List.perm_iff_count.2 fun r => ?_
  cases mode with
  | read =>
    simp [PopenMode.childEnd, PopenMode.parentEnd, List.count_cons]
    omega
  | write =>
    simp [PopenMode.childEnd, PopenMode.parentEnd, List.count_cons]
    omega
  | duplex =>
    simp [PopenMode.childEnd, PopenMode.parentEnd, List.count_cons]
    omega

theorem spawnFailed_eq (attrValid : Bool) (inheritFd : Option Nat) (rd wr : Nat)
    (cancel : CancelState) (s : PopenState) :
    spawnFailed attrValid inheritFd rd wr cancel s =
      ⟨s.pidList, false, cancel,
        s.log ++ (tornDown rd wr attrValid inheritFd).map .release⟩ := by
  cases attrValid <;> cases inheritFd <;>
    simp [spawnFailed, tornDown, PopenState.release, PopenState.closeInherited,
      PopenState.closeBoth, PopenState.unlock, PopenState.setCancel]

theorem popenParent_eq (mode : PopenMode) (inheritFd : Option Nat) (rd wr pid : Nat)
    (cancel : CancelState) (s : PopenState) :
    popenParent mode inheritFd rd wr pid cancel s =
      ⟨⟨mode.parentEnd rd wr, pid⟩ :: s.pidList, false, cancel,
        s.log ++ (handedOver mode rd wr inheritFd).map .release⟩ := by
  cases inheritFd <;>
    simp [popenParent, handedOver, PopenState.release, PopenState.closeInherited, PopenState.link,
      PopenState.unlock, PopenState.setCancel]

/-- A failure, from a log that acquires and then releases the same resources. -/
theorem allOrNothing_error {errno : NftErrno} (acquired released : List PopenResource)
    (hnodup : acquired.Nodup) (hperm : acquired.Perm released) :
    AllOrNothing env pidList cancel
      ⟨pidList, false, cancel, acquired.map .acquire ++ released.map .release⟩ (.error errno) := by
  refine ⟨rfl, rfl, rfl, Leaves.balanced (leaves_of_perm hnodup ?_)⟩
  rw [List.append_nil]
  exact hperm

/-- The four ways through the duplication of the child's end. -/
theorem inheritEnd_cases (env : PopenAnswers) (mode : PopenMode) (rd wr : Nat) (s : PopenState) :
    inheritEnd env mode rd wr s = (s, some none) ∨ inheritEnd env mode rd wr s = (s, none) ∨
      ∃ copy, env.dup = some copy ∧
        (inheritEnd env mode rd wr s = (s.acquire (.descriptor copy), some (some copy)) ∨
          inheritEnd env mode rd wr s =
            ((s.acquire (.descriptor copy)).release (.descriptor copy), none)) := by
  unfold inheritEnd
  split_ifs with hsits
  · unfold spineDupCloexec
    cases hdup : env.dup with
    | none => exact Or.inr (Or.inl rfl)
    | some copy =>
      cases hcloexec : env.dupCloexec with
      | false => exact Or.inr (Or.inr ⟨copy, rfl, Or.inr rfl⟩)
      | true => exact Or.inr (Or.inr ⟨copy, rfl, Or.inl rfl⟩)
  · exact Or.inl rfl

/-- A failure that ends in the teardown.  `copies` are duplicates that were closed
before. -/
theorem spawnFailed_allOrNothing {attrValid : Bool} {inheritFd : Option Nat} {s : PopenState}
    {acquired : List PopenResource} (copies : List PopenResource) (hpid : s.pidList = pidList)
    (hlog : s.log = acquired.map .acquire ++ copies.map .release) (hnodup : acquired.Nodup)
    (hperm : acquired.Perm (copies ++ tornDown rd wr attrValid inheritFd)) :
    AllOrNothing env pidList cancel (spawnFailed attrValid inheritFd rd wr cancel s)
      (.error .system) := by
  rw [spawnFailed_eq, hpid, hlog, List.append_assoc, ← List.map_append]
  exact allOrNothing_error _ _ hnodup hperm

/-- From the spawn on, in the state with the duplicate if there is one. -/
theorem popenParent_allOrNothing (hne : rd ≠ wr) {inheritFd : Option Nat}
    (hnew : ∀ copy, inheritFd = some copy → copy ≠ rd ∧ copy ≠ wr) {s : PopenState}
    (hpid : s.pidList = pidList)
    (hlog : s.log = (popenHeld rd wr true inheritFd).map .acquire) {request : SpawnRequest}
    {pid : Nat} (hspawn : posixSpawnRetry (env.spawn request) 3 0 = some pid) :
    AllOrNothing env pidList cancel (popenParent mode inheritFd rd wr pid cancel s)
      (.ok (mode.parentEnd rd wr)) := by
  obtain ⟨attempt, hattempt⟩ := posixSpawnRetry_pid hspawn
  rw [popenParent_eq, hpid, hlog]
  refine ⟨rfl, rfl, ⟨request, attempt, pid, hattempt, rfl⟩, ?_⟩
  exact leaves_of_perm (popenHeld_nodup hne true hnew) (popenHeld_perm_parent mode rd wr inheritFd)

theorem popenStart_of_inherit (hne : rd ≠ wr) {inheritFd : Option Nat}
    (hnew : ∀ copy, inheritFd = some copy → copy ≠ rd ∧ copy ≠ wr) {s opened : PopenState}
    (hpid : opened.pidList = pidList)
    (hlog : opened.log = (popenHeld rd wr true inheritFd).map .acquire)
    (hinherit : inheritEnd env mode rd wr s = (opened, some inheritFd)) :
    AllOrNothing env pidList cancel (popenStart env command mode rd wr cancel s).1
      (popenStart env command mode rd wr cancel s).2 := by
  unfold popenStart
  rw [hinherit]
  dsimp only
  cases hspawn : posixSpawnRetry
      (env.spawn (spawnRequest command mode rd wr inheritFd opened.pidList)) 3 0 with
  | none =>
    refine spawnFailed_allOrNothing [] hpid ?_ (popenHeld_nodup hne true hnew)
      (popenHeld_perm rd wr true inheritFd)
    rw [hlog, List.map_nil, List.append_nil]
  | some pid => exact popenParent_allOrNothing hne hnew hpid hlog hspawn

theorem popenStart_allOrNothing (hne : rd ≠ wr)
    (hnew : ∀ copy, env.dup = some copy → copy ≠ rd ∧ copy ≠ wr) {s : PopenState}
    (hpid : s.pidList = pidList) (hlog : s.log = (popenHeld rd wr true none).map .acquire) :
    AllOrNothing env pidList cancel (popenStart env command mode rd wr cancel s).1
      (popenStart env command mode rd wr cancel s).2 := by
  have hnone : ∀ copy, none = some copy → copy ≠ rd ∧ copy ≠ wr := nofun
  have hsome : ∀ {copy}, env.dup = some copy →
      ∀ other, some copy = some other → other ≠ rd ∧ other ≠ wr := fun hdup other heq =>
    hnew other (hdup.trans heq)
  have hcopied : ∀ copy, (s.acquire (.descriptor copy)).log =
      (popenHeld rd wr true (some copy)).map .acquire := fun copy => by
    show s.log ++ _ = _
    rw [hlog]
    rfl
  rcases inheritEnd_cases env mode rd wr s with hsame | hfailed | ⟨copy, hdup, hcopy | hclosed⟩
  · exact popenStart_of_inherit hne hnone hpid hlog hsame
  · unfold popenStart
    rw [hfailed]
    refine spawnFailed_allOrNothing [] hpid ?_ (popenHeld_nodup hne true hnone)
      (popenHeld_perm rd wr true none)
    rw [hlog, List.map_nil, List.append_nil]
  · have hsame : (s.acquire (.descriptor copy)).pidList = pidList := hpid
    exact popenStart_of_inherit hne (hsome hdup) hsame (hcopied copy) hcopy
  · unfold popenStart
    rw [hclosed]
    -- `spine_dup_cloexec` closed the duplicate, and the teardown closes the rest
    refine spawnFailed_allOrNothing [.descriptor copy] hpid ?_
      (popenHeld_nodup hne true (hsome hdup)) ?_
    · show (s.acquire (.descriptor copy)).log ++ _ = _
      rw [hcopied copy]
      rfl
    · have hlast : popenHeld rd wr true (some copy) =
          popenHeld rd wr true none ++ [.descriptor copy] := rfl
      rw [hlast]
      exact List.perm_append_comm.trans ((popenHeld_perm rd wr true none).append_left _)

/-- From the attributes on, with everything acquired that comes before them. -/
theorem popenSpawn_allOrNothing (hne : rd ≠ wr)
    (hnew : ∀ copy, env.dup = some copy → copy ≠ rd ∧ copy ≠ wr) {s : PopenState}
    (hpid : s.pidList = pidList) (hlog : s.log = (popenHeld rd wr false none).map .acquire) :
    AllOrNothing env pidList cancel (popenSpawn env command mode rd wr cancel s).1
      (popenSpawn env command mode rd wr cancel s).2 := by
  have hnone : ∀ copy, none = some copy → copy ≠ rd ∧ copy ≠ wr := nofun
  have hset : (s.acquire .attributes).log = (popenHeld rd wr true none).map .acquire := by
    show s.log ++ _ = _
    rw [hlog]
    rfl
  unfold popenSpawn
  split_ifs
  · exact popenStart_allOrNothing hne hnew hpid hset
  · refine spawnFailed_allOrNothing [] hpid ?_ (popenHeld_nodup hne true hnone)
      (popenHeld_perm rd wr true none)
    rw [hset, List.map_nil, List.append_nil]
  · refine spawnFailed_allOrNothing [] hpid ?_ (popenHeld_nodup hne false hnone)
      (popenHeld_perm rd wr false none)
    rw [hlog, List.map_nil, List.append_nil]

/-- From the open pair on. -/
theorem popenOpened_allOrNothing (hne : rd ≠ wr)
    (hnew : ∀ copy, env.dup = some copy → copy ≠ rd ∧ copy ≠ wr) :
    AllOrNothing env pidList cancel
      (popenOpened env command mode rd wr
        (((PopenState.start pidList cancel).acquire (.descriptor rd)).acquire (.descriptor wr))).1
      (popenOpened env command mode rd wr
        (((PopenState.start pidList cancel).acquire (.descriptor rd)).acquire
          (.descriptor wr))).2 := by
  unfold popenOpened
  split_ifs
  · unfold popenLocked
    split_ifs
    · exact popenSpawn_allOrNothing hne hnew rfl rfl
    · refine allOrNothing_error [.descriptor rd, .descriptor wr, .entry, .commandCopy]
        [.descriptor rd, .descriptor wr, .commandCopy, .entry] ?_ ?_
      · simp [hne]
      · exact ((List.Perm.swap _ _ _).cons _).cons _
  · refine allOrNothing_error [.descriptor rd, .descriptor wr, .entry]
      [.descriptor rd, .descriptor wr, .entry] ?_ (List.Perm.refl _)
    simp [hne]
  · refine allOrNothing_error [.descriptor rd, .descriptor wr]
      [.descriptor rd, .descriptor wr] ?_ (List.Perm.refl _)
    simp [hne]

/-- Nothing is left of a pair that could not be opened and marked. -/
theorem openEnds_allOrNothing {answer : Option (Nat × Nat)}
    (hne : ∀ rd wr, answer = some (rd, wr) → rd ≠ wr) :
    (∃ rd wr, answer = some (rd, wr) ∧
      openEnds env answer (.start pidList cancel) =
        (((PopenState.start pidList cancel).acquire (.descriptor rd)).acquire (.descriptor wr),
          some (rd, wr))) ∨
      ∃ s, openEnds env answer (.start pidList cancel) = (s, none) ∧
        AllOrNothing env pidList cancel s (.error .system) := by
  cases answer with
  | none => exact Or.inr ⟨_, rfl, allOrNothing_error [] [] List.nodup_nil (List.Perm.refl _)⟩
  | some ends =>
    obtain ⟨rd, wr⟩ := ends
    unfold openEnds
    dsimp only
    split_ifs
    · exact Or.inl ⟨rd, wr, rfl, rfl⟩
    · refine Or.inr ⟨_, rfl, ?_⟩
      refine allOrNothing_error [.descriptor rd, .descriptor wr]
        [.descriptor rd, .descriptor wr] ?_ (List.Perm.refl _)
      simp [hne rd wr rfl]

end Call

/-- `nft_popen` is all or nothing, for every command, every mode and every answer of the
calls it makes. -/
theorem nftPopen_allOrNothing (env : PopenAnswers) (hnew : NewDescriptors env)
    (command type : Option String) (pidList : List PidNode) (cancel : CancelState) :
    AllOrNothing env pidList cancel (nftPopen env command type (.start pidList cancel)).1
      (nftPopen env command type (.start pidList cancel)).2 := by
  have hinvalid : AllOrNothing env pidList cancel (.start pidList cancel) (.error .einval) :=
    allOrNothing_error [] [] List.nodup_nil (List.Perm.refl _)
  cases command with
  | none => exact hinvalid
  | some command =>
    cases hmode : type.bind popenMode with
    | none =>
      unfold nftPopen
      rw [hmode]
      exact hinvalid
    | some mode =>
      have hne : ∀ rd wr, env.pair mode = some (rd, wr) → rd ≠ wr :=
        fun rd wr hpair => (hnew mode rd wr hpair).1
      unfold nftPopen
      rw [hmode]
      dsimp only
      rw [openForMode_eq]
      rcases openEnds_allOrNothing hne with ⟨rd, wr, hanswer, hends⟩ | ⟨s, hends, hnothing⟩
      · rw [hends]
        obtain ⟨hne, hcopy⟩ := hnew mode rd wr hanswer
        exact popenOpened_allOrNothing hne hcopy
      · rw [hends]
        exact hnothing

/-- Standard output is closed in the daemon, so that the script's end is descriptor 1
and has to be duplicated.  The first two spawns find no process slot. -/
private def closedStdout : PopenAnswers where
  socketpair := some (1, 3)
  pipe := some (0, 1)
  cloexecRead := true
  cloexecWrite := true
  malloc := true
  strdup := true
  fileActionsInit := true
  attrInit := true
  attrSetpgroup := true
  attrSetflags := true
  dup := some 4
  dupCloexec := true
  spawn _ attempt := if attempt < 2 then .eagain else .pid 700

theorem nftPopen_closedStdout :
    (nftPopen closedStdout (some "uptime") (some "r") (.start [⟨7, 650⟩] .enabled)).2 = .ok 0 ∧
    AllOrNothing closedStdout [⟨7, 650⟩] .enabled
      (nftPopen closedStdout (some "uptime") (some "r") (.start [⟨7, 650⟩] .enabled)).1
      (nftPopen closedStdout (some "uptime") (some "r") (.start [⟨7, 650⟩] .enabled)).2 := by
  refine ⟨rfl, nftPopen_allOrNothing closedStdout ?_ _ _ _ _⟩
  intro mode rd wr hpair
  have hends : (rd, wr) = (1, 3) ∨ (rd, wr) = (0, 1) := by
    cases mode <;> simp_all [PopenAnswers.pair, closedStdout]
  have hdup : ∀ copy, closedStdout.dup = some copy → copy = 4 := fun copy hcopy =>
    (Option.some.inj hcopy).symm
  rcases hends with hends | hends
  · cases hends
    exact ⟨by decide, fun copy hcopy => by rw [hdup copy hcopy]; decide⟩
  · cases hends
    exact ⟨by decide, fun copy hcopy => by rw [hdup copy hcopy]; decide⟩

end Spine
