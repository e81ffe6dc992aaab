import Mathlib.Algebra.Order.BigOperators.Group.Finset
import Spine.Base.Interleaving
import Spine.Base.Resources
import Spine.Internal.Types

/-!
# Permits and connections of the workers

The launcher of `poller/workers.c` takes a permit of `available_threads` and
the startup permit before it creates a worker.  The worker gives the startup
permit back when it starts, and the thread permit when `poll_host` has
returned.  In between it takes connections from the pools of `database/pool.c`
and permits for its scripts.

The launcher is thread zero of a program in the sense of `Base.Interleaving`,
and the workers are the threads after it.  Every function that takes a lock is
one step.

* The program.  `launcherStep` and `workerStep` have all steps of the launcher
  and of a worker, with every failure of a permit, of `pthread_create` and of a
  connection.
* One step.  `launcherStep_conserves` and `workerStep_conserves` say what a
  step moves between the shared state and the thread that takes it.
* Runs.  `PermitInv` is the invariant, and `PermitsConserved` has the promises
  that are read off it for every interleaving.
-/

namespace Spine

open Base.Interleaving Base.Resources

/-! ## The program -/

/-- `spine_permits_try_acquire`. -/
def permitsTryAcquire (available : Nat) : Option Nat :=
  if 0 < available then some (available - 1) else none

/-- `spine_permits_release`. -/
def permitsRelease (available : Nat) : Nat :=
  if available < INT_MAX then available + 1 else available

/-- `db_get_connection` on the marks of one pool. -/
def dbGetConnection (free : List Bool) : Option (Nat × List Bool) :=
  (firstFree free).map fun entry => (entry, free.set entry false)

/-- `db_release_connection` on the marks of one pool. -/
def dbReleaseConnection (free : List Bool) (entry : Nat) : List Bool := free.set entry true

/-- What is fixed before the workers start: `set.poller.threads`,
`MAX_SIMULTANEOUS_SCRIPTS`, and whether a worker needs a remote connection. -/
structure PoolConfig where
  threads : Nat
  maxScripts : Nat
  remote : Bool
  threads_le : threads ≤ INT_MAX
  maxScripts_le : maxScripts ≤ INT_MAX

/-- What the threads share: the three semaphores, the marks of the two pools,
and the number of workers that were created. -/
structure PoolShared where
  threads : Nat
  startup : Nat
  scripts : Nat
  localFree : List Bool
  remoteFree : List Bool
  launched : Nat

/-- Where a thread is.  The first six are places of the launcher: in the loop
over the devices, with a thread permit, with both permits, after
`pthread_create` failed and the startup permit went back, in
`wait_for_workers`, and after it.  The others are places of a worker: before
its first step, before `db_get_connection`, with a local connection and before
the remote one, in `poll_host` with its connections, in `exec_poll` with a
permit, between the two releases, after `poll_host`, and at its end. -/
inductive ThreadPc where
  | launching
  | threadPermit
  | bothPermits
  | createFailed
  | waiting
  | waited
  | created
  | started
  | connected (entry : Nat)
  | polling (entry : Nat) (remote : Option Nat)
  | script (entry : Nat) (remote : Option Nat)
  | closing (remote : Nat)
  | polled
  | ended
  deriving DecidableEq, Repr

/-- What decides between the steps of a thread: a permit is tried, the wait for
it times out, `pthread_create` answers, a script is run, `poll_host` goes to
its end or the loop over the devices does, or there is no choice. -/
inductive PoolLabel where
  | acquire
  | timeOut
  | create (success : Bool)
  | exec
  | finish
  | next
  deriving DecidableEq, Repr

/-- `start_poll_worker` and `wait_for_workers`.  A launcher that could not
start a worker leaves the loop over the devices. -/
def launcherStep (cfg : PoolConfig) (s : PoolShared) : ThreadPc → PoolLabel →
    Option (PoolShared × ThreadPc)
  | .launching, .acquire =>
    match permitsTryAcquire s.threads with
    | some threads => some ({ s with threads := threads }, .threadPermit)
    | none => some (s, .launching)
  | .launching, .timeOut => some (s, .waiting)
  | .launching, .finish => some (s, .waiting)
  | .threadPermit, .acquire =>
    match permitsTryAcquire s.startup with
    | some startup => some ({ s with startup := startup }, .bothPermits)
    | none => some (s, .threadPermit)
  | .threadPermit, .timeOut => some ({ s with threads := permitsRelease s.threads }, .waiting)
  | .bothPermits, .create true => some ({ s with launched := s.launched + 1 }, .launching)
  | .bothPermits, .create false =>
    some ({ s with startup := permitsRelease s.startup }, .createFailed)
  | .createFailed, .next => some ({ s with threads := permitsRelease s.threads }, .waiting)
  | .waiting, .next =>
    if s.threads < cfg.threads then some (s, .waiting) else some (s, .waited)
  | _, _ => none

/-- `child`, with the steps of `poll_host` that take or give something. -/
def workerStep (cfg : PoolConfig) (s : PoolShared) : ThreadPc → PoolLabel →
    Option (PoolShared × ThreadPc)
  | .created, .next => some ({ s with startup := permitsRelease s.startup }, .started)
  | .started, .next =>
    match dbGetConnection s.localFree with
    | none => some (s, .polled)
    | some (entry, free) =>
      some ({ s with localFree := free },
        if cfg.remote then .connected entry else .polling entry none)
  | .connected entry, .next =>
    match dbGetConnection s.remoteFree with
    | none => some ({ s with localFree := dbReleaseConnection s.localFree entry }, .polled)
    | some (remote, free) => some ({ s with remoteFree := free }, .polling entry (some remote))
  | .polling entry remote, .exec =>
    match permitsTryAcquire s.scripts with
    | some scripts => some ({ s with scripts := scripts }, .script entry remote)
    | none => some (s, .polling entry remote)
  | .script entry remote, .next =>
    some ({ s with scripts := permitsRelease s.scripts }, .polling entry remote)
  | .polling entry none, .finish =>
    some ({ s with localFree := dbReleaseConnection s.localFree entry }, .polled)
  | .polling entry (some remote), .finish =>
    some ({ s with localFree := dbReleaseConnection s.localFree entry }, .closing remote)
  | .closing remote, .next =>
    some ({ s with remoteFree := dbReleaseConnection s.remoteFree remote }, .polled)
  | .polled, .next => some ({ s with threads := permitsRelease s.threads }, .ended)
  | _, _ => none

/-- One step of a thread.  A worker exists from its creation on. -/
def poolStep (cfg : PoolConfig) : Step ℕ PoolLabel PoolShared ThreadPc :=
  fun i label s pc =>
    if i = 0 then launcherStep cfg s pc label
    else if i ≤ s.launched then workerStep cfg s pc label
    else none

/-- The shared state and the place of every thread. -/
abbrev PoolState := Base.Interleaving.Config ℕ PoolShared ThreadPc

/-- The state before the first worker. -/
def startPool (cfg : PoolConfig) : PoolState where
  shared :=
    { threads := cfg.threads
      startup := 1
      scripts := cfg.maxScripts
      localFree := List.replicate cfg.threads true
      remoteFree := List.replicate cfg.threads true
      launched := 0 }
  locals i := if i = 0 then .launching else .created

/-! ## What a thread holds -/

/-- The permits of `available_threads`. -/
def ThreadPc.threads : ThreadPc → Nat
  | .launching | .waiting | .waited | .ended => 0
  | _ => 1

/-- The startup permit. -/
def ThreadPc.startup : ThreadPc → Nat
  | .bothPermits | .created => 1
  | _ => 0

/-- The permits of `available_scripts`. -/
def ThreadPc.scripts : ThreadPc → Nat
  | .script _ _ => 1
  | _ => 0

/-- The entry of the local pool. -/
def ThreadPc.localEntry : ThreadPc → Option Nat
  | .connected entry | .polling entry _ | .script entry _ => some entry
  | _ => none

/-- The entry of the remote pool. -/
def ThreadPc.remoteEntry : ThreadPc → Option Nat
  | .polling _ remote | .script _ remote => remote
  | .closing remote => some remote
  | _ => none

/-- The places of the launcher. -/
def ThreadPc.isLauncher : ThreadPc → Bool
  | .launching | .threadPermit | .bothPermits | .createFailed | .waiting | .waited => true
  | _ => false

/-! ## One step -/

theorem permitsTryAcquire_eq_some {available left : Nat}
    (h : permitsTryAcquire available = some left) : left + 1 = available := by
  unfold permitsTryAcquire at h
  split at h
  · cases h
    omega
  · cases h

theorem permitsRelease_of_lt {available : Nat} (h : available < INT_MAX) :
    permitsRelease available = available + 1 := if_pos h

theorem dbGetConnection_eq_some {free free' : List Bool} {entry : Nat}
    (h : dbGetConnection free = some (entry, free')) : PoolMove free free' none (some entry) := by
  obtain ⟨e, hfirst, heq⟩ := Option.map_eq_some_iff.1 h
  cases heq
  exact PoolMove.take hfirst

/-- What a step moves between the shared state and the thread that takes it,
and to the workers that it creates. -/
structure Conserves (s s' : PoolShared) (pc pc' : ThreadPc) (new : Nat) : Prop where
  launched : s'.launched = s.launched + new
  threads : s'.threads + pc'.threads + new * ThreadPc.created.threads = s.threads + pc.threads
  startup : s'.startup + pc'.startup + new * ThreadPc.created.startup = s.startup + pc.startup
  scripts : s'.scripts + pc'.scripts + new * ThreadPc.created.scripts = s.scripts + pc.scripts
  localMove : PoolMove s.localFree s'.localFree pc.localEntry pc'.localEntry
  remoteMove : PoolMove s.remoteFree s'.remoteFree pc.remoteEntry pc'.remoteEntry

/-- No permit count can pass `INT_MAX`. -/
structure PermitBounds (s : PoolShared) (pc : ThreadPc) : Prop where
  threads : s.threads + pc.threads ≤ INT_MAX
  startup : s.startup + pc.startup ≤ INT_MAX
  scripts : s.scripts + pc.scripts ≤ INT_MAX

section Steps

variable {cfg : PoolConfig} {s s' : PoolShared} {pc pc' : ThreadPc} {label : PoolLabel}

theorem launcherStep_conserves (hbound : PermitBounds s pc)
    (h : launcherStep cfg s pc label = some (s', pc')) :
    ∃ new, new ≤ 1 ∧ Conserves s s' pc pc' new := by
  have hthreads := hbound.threads
  have hstartup := hbound.startup
  unfold launcherStep at h
  split at h
  · split at h
    · rename_i threads htaken
      cases h
      have hone := permitsTryAcquire_eq_some htaken
      exact ⟨0, Nat.zero_le 1, rfl, hone, rfl, rfl, .refl _ _, .refl _ _⟩
    · cases h
      exact ⟨0, Nat.zero_le 1, rfl, rfl, rfl, rfl, .refl _ _, .refl _ _⟩
  · cases h
    exact ⟨0, Nat.zero_le 1, rfl, rfl, rfl, rfl, .refl _ _, .refl _ _⟩
  · cases h
    exact ⟨0, Nat.zero_le 1, rfl, rfl, rfl, rfl, .refl _ _, .refl _ _⟩
  · split at h
    · rename_i startup htaken
      cases h
      have hone := permitsTryAcquire_eq_some htaken
      exact ⟨0, Nat.zero_le 1, rfl, rfl, hone, rfl, .refl _ _, .refl _ _⟩
    · cases h
      exact ⟨0, Nat.zero_le 1, rfl, rfl, rfl, rfl, .refl _ _, .refl _ _⟩
  · cases h
    have hback : permitsRelease s.threads = s.threads + 1 := permitsRelease_of_lt hthreads
    exact ⟨0, Nat.zero_le 1, rfl, hback, rfl, rfl, .refl _ _, .refl _ _⟩
  · cases h
    exact ⟨1, Nat.le_refl 1, rfl, rfl, rfl, rfl, .refl _ _, .refl _ _⟩
  · cases h
    have hback : permitsRelease s.startup = s.startup + 1 := permitsRelease_of_lt hstartup
    exact ⟨0, Nat.zero_le 1, rfl, rfl, hback, rfl, .refl _ _, .refl _ _⟩
  · cases h
    have hback : permitsRelease s.threads = s.threads + 1 := permitsRelease_of_lt hthreads
    exact ⟨0, Nat.zero_le 1, rfl, hback, rfl, rfl, .refl _ _, .refl _ _⟩
  · split at h <;> cases h <;>
      exact ⟨0, Nat.zero_le 1, rfl, rfl, rfl, rfl, .refl _ _, .refl _ _⟩
  · cases h

theorem workerStep_conserves (hbound : PermitBounds s pc)
    (h : workerStep cfg s pc label = some (s', pc')) : Conserves s s' pc pc' 0 := by
  have hthreads := hbound.threads
  have hstartup := hbound.startup
  have hscripts := hbound.scripts
  unfold workerStep at h
  split at h
  · cases h
    have hback : permitsRelease s.startup = s.startup + 1 := permitsRelease_of_lt hstartup
    exact ⟨rfl, rfl, hback, rfl, .refl _ _, .refl _ _⟩
  · split at h
    · cases h
      exact ⟨rfl, rfl, rfl, rfl, .refl _ _, .refl _ _⟩
    · rename_i entry free htaken
      cases h
      have hmove := dbGetConnection_eq_some htaken
      cases hremote : cfg.remote
      · exact ⟨rfl, rfl, rfl, rfl, hmove, .refl _ _⟩
      · exact ⟨rfl, rfl, rfl, rfl, hmove, .refl _ _⟩
  · split at h
    · cases h
      exact ⟨rfl, rfl, rfl, rfl, .give _ _, .refl _ _⟩
    · rename_i remote free htaken
      cases h
      exact ⟨rfl, rfl, rfl, rfl, .refl _ _, dbGetConnection_eq_some htaken⟩
  · split at h
    · rename_i scripts htaken
      cases h
      have hone := permitsTryAcquire_eq_some htaken
      exact ⟨rfl, rfl, rfl, hone, .refl _ _, .refl _ _⟩
    · cases h
      exact ⟨rfl, rfl, rfl, rfl, .refl _ _, .refl _ _⟩
  · cases h
    have hback : permitsRelease s.scripts = s.scripts + 1 := permitsRelease_of_lt hscripts
    exact ⟨rfl, rfl, rfl, hback, .refl _ _, .refl _ _⟩
  · cases h
    exact ⟨rfl, rfl, rfl, rfl, .give _ _, .refl _ _⟩
  · cases h
    exact ⟨rfl, rfl, rfl, rfl, .give _ _, .refl _ _⟩
  · cases h
    exact ⟨rfl, rfl, rfl, rfl, .refl _ _, .give _ _⟩
  · cases h
    have hback : permitsRelease s.threads = s.threads + 1 := permitsRelease_of_lt hthreads
    exact ⟨rfl, hback, rfl, rfl, .refl _ _, .refl _ _⟩
  · cases h

theorem isLauncher_launcherStep (h : launcherStep cfg s pc label = some (s', pc')) :
    pc'.isLauncher = true := by
  unfold launcherStep at h
  split at h <;> (try split at h) <;> cases h <;> rfl

/-- A step of a worker starts at a place with a thread permit. -/
theorem isLauncher_workerStep (h : workerStep cfg s pc label = some (s', pc')) :
    pc ≠ .ended ∧ pc'.isLauncher = false := by
  unfold workerStep at h
  split at h <;> (try split at h) <;> cases h <;> refine ⟨ThreadPc.noConfusion, ?_⟩
  · rfl
  · rfl
  · cases cfg.remote <;> rfl
  all_goals rfl

/-- `wait_for_workers` returns when it has seen all permits. -/
theorem launcherStep_waited (h : launcherStep cfg s pc label = some (s', pc'))
    (hwaited : pc' = .waited) : s' = s ∧ cfg.threads ≤ s.threads := by
  unfold launcherStep at h
  split at h <;> (try split at h) <;> cases h <;> try cases hwaited
  rename_i hall
  exact ⟨rfl, Nat.le_of_not_lt hall⟩

end Steps

/-! ## Runs -/

/-- The threads that exist. -/
def PoolState.live (c : PoolState) : Finset ℕ := Finset.range (c.shared.launched + 1)

/-- The permits or entries that the threads hold. -/
def PoolState.total (c : PoolState) (weight : ThreadPc → ℕ) : ℕ :=
  ∑ i ∈ c.live, weight (c.locals i)

/-- The invariant of the program. -/
structure PermitInv (cfg : PoolConfig) (c : PoolState) : Prop where
  threads : c.shared.threads + c.total ThreadPc.threads = cfg.threads
  startup : c.shared.startup + c.total ThreadPc.startup = 1
  scripts : c.shared.scripts + c.total ThreadPc.scripts = cfg.maxScripts
  localPool : PoolInv c.live c.shared.localFree fun i => (c.locals i).localEntry
  remotePool : PoolInv c.live c.shared.remoteFree fun i => (c.locals i).remoteEntry
  localSize : c.shared.localFree.length = cfg.threads
  remoteSize : c.shared.remoteFree.length = cfg.threads
  launcher : ∀ i, (c.locals i).isLauncher = decide (i = 0)
  unborn : ∀ i, c.shared.launched < i → c.locals i = .created
  joined : c.locals 0 = .waited → ∀ i, 0 < i → i ≤ c.shared.launched → c.locals i = .ended

/-- A step of thread `i` that creates some workers, at most one. -/
structure Moves (c c' : PoolState) (i new : ℕ) : Prop where
  live : i ≤ c.shared.launched
  launched : c'.shared.launched = c.shared.launched + new
  new_le : new ≤ 1
  frame : ∀ j, j ≠ i → c'.locals j = c.locals j

section Moves

variable {cfg : PoolConfig} {c c' : PoolState} {i new : ℕ}

theorem PoolState.mem_live {j : ℕ} : j ∈ c.live ↔ j ≤ c.shared.launched :=
  Finset.mem_range.trans Nat.lt_succ_iff

theorem PoolState.le_total (weight : ThreadPc → ℕ) (hi : i ≤ c.shared.launched) :
    weight (c.locals i) ≤ c.total weight :=
  Finset.single_le_sum (f := fun j => weight (c.locals j)) (fun _ _ => Nat.zero_le _)
    (PoolState.mem_live.2 hi)

/-- A worker that was just created has done nothing. -/
theorem Moves.locals_new (h : Moves c c' i new)
    (hunborn : ∀ j, c.shared.launched < j → c.locals j = .created) :
    c'.locals (c.shared.launched + 1) = .created := by
  have hlive := h.live
  rw [h.frame _ (by omega)]
  exact hunborn _ (Nat.lt_succ_self _)

theorem Moves.total (h : Moves c c' i new)
    (hunborn : ∀ j, c.shared.launched < j → c.locals j = .created) (weight : ThreadPc → ℕ) :
    c'.total weight + weight (c.locals i) =
      c.total weight + weight (c'.locals i) + new * weight .created := by
  have hold : ∑ j ∈ c.live, weight (c'.locals j) + weight (c.locals i) =
      c.total weight + weight (c'.locals i) :=
    sum_of_frame (f := fun j => weight (c.locals j)) (g := fun j => weight (c'.locals j))
      (PoolState.mem_live.2 h.live) fun j hj => congrArg weight (h.frame j hj)
  have hlaunched := h.launched
  unfold PoolState.live at hold
  rcases Nat.le_one_iff_eq_zero_or_eq_one.1 h.new_le with rfl | rfl
  · unfold PoolState.total PoolState.live at hold ⊢
    rw [hlaunched, Nat.zero_mul]
    exact hold
  · have hsum : c'.total weight =
        ∑ j ∈ Finset.range (c.shared.launched + 1), weight (c'.locals j) + weight .created := by
      unfold PoolState.total PoolState.live
      rw [hlaunched, Finset.sum_range_succ, h.locals_new hunborn]
    omega

theorem Moves.pool {entry : ThreadPc → Option ℕ} {free free' : List Bool} (h : Moves c c' i new)
    (hunborn : ∀ j, c.shared.launched < j → c.locals j = .created)
    (hcreated : entry .created = none)
    (hpool : PoolInv c.live free fun j => entry (c.locals j))
    (hmove : PoolMove free free' (entry (c.locals i)) (entry (c'.locals i))) :
    PoolInv c'.live free' fun j => entry (c'.locals j) := by
  have hold : PoolInv c.live free' fun j => entry (c'.locals j) :=
    hpool.move (PoolState.mem_live.2 h.live) hmove fun j hj => congrArg entry (h.frame j hj)
  unfold PoolState.live at hold ⊢
  rw [h.launched]
  rcases Nat.le_one_iff_eq_zero_or_eq_one.1 h.new_le with rfl | rfl
  · exact hold
  · rw [Finset.range_add_one]
    refine hold.insert Finset.notMem_range_self ?_
    rw [h.locals_new hunborn, hcreated]

theorem PermitInv.bounds (h : PermitInv cfg c) (hi : i ≤ c.shared.launched) :
    PermitBounds c.shared (c.locals i) := by
  have hthreads := PoolState.le_total ThreadPc.threads hi
  have hstartup := PoolState.le_total ThreadPc.startup hi
  have hscripts := PoolState.le_total ThreadPc.scripts hi
  have hmaxThreads := cfg.threads_le
  have hmaxScripts := cfg.maxScripts_le
  have hone : 1 ≤ INT_MAX := by decide
  refine ⟨?_, ?_, ?_⟩
  · have := h.threads
    omega
  · have := h.startup
    omega
  · have := h.scripts
    omega

/-- A step is one of the launcher or of a worker that exists. -/
theorem poolStep_cases {i : ℕ} {label : PoolLabel} {s : PoolShared} {pc : ThreadPc}
    {next : PoolShared × ThreadPc} (h : poolStep cfg i label s pc = some next) :
    (i = 0 ∧ launcherStep cfg s pc label = some next) ∨
      (i ≠ 0 ∧ i ≤ s.launched ∧ workerStep cfg s pc label = some next) := by
  unfold poolStep at h
  split at h
  · rename_i hzero
    exact Or.inl ⟨hzero, h⟩
  · rename_i hpos
    split at h
    · rename_i hlive
      exact Or.inr ⟨hpos, hlive, h⟩
    · cases h

/-- What a step does, to the threads and to what they share. -/
theorem PermitInv.step_cases {e : ℕ × PoolLabel} (h : PermitInv cfg c)
    (hstep : stepAt (poolStep cfg) c e = some c') :
    ∃ new, Moves c c' e.1 new ∧
      Conserves c.shared c'.shared (c.locals e.1) (c'.locals e.1) new := by
  obtain ⟨s, pc, hpc, rfl, rfl, hframe⟩ := stepAt_eq_some hstep
  rcases poolStep_cases hpc with ⟨hzero, hlauncher⟩ | ⟨-, hlive, hworker⟩
  · have hlive : e.1 ≤ c.shared.launched := by omega
    obtain ⟨new, hnew, hmoved⟩ := launcherStep_conserves (h.bounds hlive) hlauncher
    exact ⟨new, ⟨hlive, hmoved.launched, hnew, hframe⟩, hmoved⟩
  · have hmoved := workerStep_conserves (h.bounds hlive) hworker
    exact ⟨0, ⟨hlive, hmoved.launched, Nat.zero_le 1, hframe⟩, hmoved⟩

theorem ThreadPc.eq_ended {pc : ThreadPc} (hnone : pc.threads = 0)
    (hworker : pc.isLauncher = false) : pc = .ended := by
  cases pc <;> first
    | rfl
    | exact absurd hnone Nat.one_ne_zero
    | exact Bool.noConfusion hworker

/-- When all permits are back, every worker has ended. -/
theorem ended_of_permits (hthreads : c.shared.threads + c.total ThreadPc.threads = cfg.threads)
    (hlauncher : ∀ j, (c.locals j).isLauncher = decide (j = 0))
    (hall : cfg.threads ≤ c.shared.threads) (hpos : 0 < i) (hi : i ≤ c.shared.launched) :
    c.locals i = .ended := by
  have hle := PoolState.le_total ThreadPc.threads hi
  refine ThreadPc.eq_ended (by omega) ?_
  rw [hlauncher i]
  exact decide_eq_false (Nat.ne_of_gt hpos)

theorem PermitInv.launcher_step {e : ℕ × PoolLabel} (h : PermitInv cfg c)
    (hstep : stepAt (poolStep cfg) c e = some c') (j : ℕ) :
    (c'.locals j).isLauncher = decide (j = 0) := by
  obtain ⟨s, pc, hpc, -, rfl, hframe⟩ := stepAt_eq_some hstep
  refine forall_locals_of_frame (P := fun i pc => pc.isLauncher = decide (i = 0)) hframe ?_
    h.launcher j
  rcases poolStep_cases hpc with ⟨hzero, hlauncher⟩ | ⟨hpos, -, hworker⟩
  · rw [isLauncher_launcherStep hlauncher]
    exact (decide_eq_true hzero).symm
  · rw [(isLauncher_workerStep hworker).2]
    exact (decide_eq_false hpos).symm

/-- Only `wait_for_workers` makes the launcher wait no longer, and nobody moves
after it. -/
theorem PermitInv.waited_step {e : ℕ × PoolLabel} (h : PermitInv cfg c)
    (hstep : stepAt (poolStep cfg) c e = some c') (hwaited : c'.locals 0 = .waited) :
    cfg.threads ≤ c'.shared.threads := by
  obtain ⟨s, pc, hpc, rfl, rfl, hframe⟩ := stepAt_eq_some hstep
  rcases poolStep_cases hpc with ⟨hzero, hlauncher⟩ | ⟨hpos, hlive, hworker⟩
  · rw [← hzero] at hwaited
    obtain ⟨hsame, hall⟩ := launcherStep_waited hlauncher hwaited
    rw [hsame]
    exact hall
  · rw [hframe 0 (Ne.symm hpos)] at hwaited
    have hended := h.joined hwaited e.1 (Nat.pos_of_ne_zero hpos) hlive
    exact absurd hended (isLauncher_workerStep hworker).1

theorem PermitInv.step {e : ℕ × PoolLabel} (h : PermitInv cfg c)
    (hstep : stepAt (poolStep cfg) c e = some c') : PermitInv cfg c' := by
  obtain ⟨new, hmoves, hmoved⟩ := h.step_cases hstep
  have htotal := hmoves.total h.unborn
  have hthreads : c'.shared.threads + c'.total ThreadPc.threads = cfg.threads := by
    have hold := h.threads
    have hpermit := hmoved.threads
    have hheld := htotal ThreadPc.threads
    omega
  have hlauncher := h.launcher_step hstep
  refine ⟨hthreads, ?_, ?_, ?_, ?_, ?_, ?_, hlauncher, ?_, ?_⟩
  · have hold := h.startup
    have hpermit := hmoved.startup
    have hheld := htotal ThreadPc.startup
    omega
  · have hold := h.scripts
    have hpermit := hmoved.scripts
    have hheld := htotal ThreadPc.scripts
    omega
  · exact hmoves.pool h.unborn rfl h.localPool hmoved.localMove
  · exact hmoves.pool h.unborn rfl h.remotePool hmoved.remoteMove
  · exact hmoved.localMove.length_eq.trans h.localSize
  · exact hmoved.remoteMove.length_eq.trans h.remoteSize
  · intro j hj
    have hlive := hmoves.live
    have hlaunched := hmoves.launched
    rw [hmoves.frame j (by omega)]
    exact h.unborn j (by omega)
  · intro hwaited j hpos hj
    exact ended_of_permits hthreads hlauncher (h.waited_step hstep hwaited) hpos hj

theorem startPool_total (cfg : PoolConfig) (weight : ThreadPc → ℕ) :
    (startPool cfg).total weight = weight .launching := by
  unfold PoolState.total PoolState.live startPool
  simp

/-- Nobody holds anything at the start. -/
theorem startPool_pool (cfg : PoolConfig) {entry : ThreadPc → Option ℕ}
    (hlaunching : entry .launching = none) (n : ℕ) :
    PoolInv (startPool cfg).live (List.replicate n true)
      fun j => entry ((startPool cfg).locals j) := by
  have hnone : ∀ j ∈ (startPool cfg).live, entry ((startPool cfg).locals j) = none := by
    intro j hj
    have hzero : j = 0 := Nat.le_zero.1 (PoolState.mem_live.1 hj)
    rw [hzero]
    exact hlaunching
  refine ⟨?_, ?_, ?_⟩
  · intro j hj e he
    rw [hnone j hj] at he
    cases he
  · intro j hj k _ e he _
    rw [hnone j hj] at he
    cases he
  · rw [Finset.sum_eq_zero fun j hj => congrArg held (hnone j hj)]
    simp [List.count_replicate]

theorem permitInv_startPool (cfg : PoolConfig) : PermitInv cfg (startPool cfg) where
  threads := by rw [startPool_total]; rfl
  startup := by rw [startPool_total]; rfl
  scripts := by rw [startPool_total]; rfl
  localPool := startPool_pool cfg rfl cfg.threads
  remotePool := startPool_pool cfg rfl cfg.threads
  localSize := List.length_replicate
  remoteSize := List.length_replicate
  launcher i := by
    by_cases hi : i = 0
    · simp [startPool, hi, ThreadPc.isLauncher]
    · simp [startPool, hi, ThreadPc.isLauncher]
  unborn i hi := if_neg (Nat.ne_of_gt hi)
  joined h := by cases h

/-- A thread that has a permit and no entry finds one. -/
theorem PermitInv.dbGetConnection_ne_none {entry : ThreadPc → Option ℕ} {free : List Bool}
    (h : PermitInv cfg c) (hpool : PoolInv c.live free fun j => entry (c.locals j))
    (hsize : free.length = cfg.threads) (hpermit : ∀ pc, held (entry pc) ≤ pc.threads)
    (hi : i ≤ c.shared.launched) (hlt : held (entry (c.locals i)) < (c.locals i).threads) :
    dbGetConnection free ≠ none := by
  have hsum : ∑ j ∈ c.live, held (entry (c.locals j)) < c.total ThreadPc.threads :=
    Finset.sum_lt_sum (fun j _ => hpermit (c.locals j)) ⟨i, PoolState.mem_live.2 hi, hlt⟩
  have hthreads := h.threads
  have hfirst := hpool.firstFree_ne_none (by omega)
  exact fun hnone => hfirst (Option.map_eq_none_iff.1 hnone)

theorem ThreadPc.held_localEntry_le (pc : ThreadPc) : held pc.localEntry ≤ pc.threads := by
  cases pc <;> first | exact Nat.zero_le _ | exact held_le_one _

theorem ThreadPc.held_remoteEntry_le (pc : ThreadPc) : held pc.remoteEntry ≤ pc.threads := by
  cases pc <;> first | exact Nat.zero_le _ | exact held_le_one _

/-- Who holds an entry exists. -/
theorem PermitInv.live_of_ne_created (h : PermitInv cfg c) (hi : c.locals i ≠ .created) :
    i ≤ c.shared.launched :=
  Nat.le_of_not_lt fun hlt => hi (h.unborn i hlt)

theorem PermitInv.distinct {entry : ThreadPc → Option ℕ} {free : List Bool} {j e : ℕ}
    (h : PermitInv cfg c) (hpool : PoolInv c.live free fun j => entry (c.locals j))
    (hcreated : entry .created = none) (hi : entry (c.locals i) = some e)
    (hj : entry (c.locals j) = some e) : i = j := by
  have hlive : ∀ k, entry (c.locals k) = some e → k ∈ c.live := by
    intro k hk
    refine PoolState.mem_live.2 (h.live_of_ne_created fun heq => ?_)
    rw [heq, hcreated] at hk
    cases hk
  exact hpool.distinct i (hlive i hi) j (hlive j hj) e hi hj

end Moves

/-- The promises about permits and connections: every permit is available or
held by a thread, no two threads hold one entry, every thread that asks for a
connection gets one, and the launcher waits for every worker. -/
structure PermitsConserved (cfg : PoolConfig) (c : PoolState) : Prop where
  threads : c.shared.threads + ∑ i ∈ Finset.range (c.shared.launched + 1),
    (c.locals i).threads = cfg.threads
  startup : c.shared.startup + ∑ i ∈ Finset.range (c.shared.launched + 1),
    (c.locals i).startup = 1
  scripts : c.shared.scripts + ∑ i ∈ Finset.range (c.shared.launched + 1),
    (c.locals i).scripts = cfg.maxScripts
  localDistinct : ∀ i j e : ℕ, (c.locals i).localEntry = some e →
    (c.locals j).localEntry = some e → i = j
  remoteDistinct : ∀ i j e : ℕ, (c.locals i).remoteEntry = some e →
    (c.locals j).remoteEntry = some e → i = j
  localFound : ∀ i : ℕ, c.locals i = .started → dbGetConnection c.shared.localFree ≠ none
  remoteFound : ∀ i e : ℕ, c.locals i = .connected e → dbGetConnection c.shared.remoteFree ≠ none
  joined : c.locals 0 = .waited → ∀ i : ℕ, 0 < i → i ≤ c.shared.launched → c.locals i = .ended

/-- In every interleaving of the launcher and the workers, and whatever fails,
the permits and the entries are conserved. -/
theorem permits_conserved (cfg : PoolConfig) (trace : List (ℕ × PoolLabel)) (c : PoolState)
    (hrun : run (poolStep cfg) (startPool cfg) trace = some c) : PermitsConserved cfg c := by
  have hinv : PermitInv cfg c :=
    run_invariant (fun _ _ _ h hstep => h.step hstep) (permitInv_startPool cfg) hrun
  refine ⟨hinv.threads, hinv.startup, hinv.scripts, ?_, ?_, ?_, ?_, hinv.joined⟩
  · exact fun i j e hi hj => hinv.distinct hinv.localPool rfl hi hj
  · exact fun i j e hi hj => hinv.distinct hinv.remotePool rfl hi hj
  · intro i hi
    have hlive := hinv.live_of_ne_created (i := i) (by rw [hi]; exact ThreadPc.noConfusion)
    refine hinv.dbGetConnection_ne_none hinv.localPool hinv.localSize
      ThreadPc.held_localEntry_le hlive ?_
    rw [hi]
    exact Nat.zero_lt_one
  · intro i e hi
    have hlive := hinv.live_of_ne_created (i := i) (by rw [hi]; exact ThreadPc.noConfusion)
    refine hinv.dbGetConnection_ne_none hinv.remotePool hinv.remoteSize
      ThreadPc.held_remoteEntry_le hlive ?_
    rw [hi]
    exact Nat.zero_lt_one

/-- Two threads, one script, and remote connections. -/
private def twoThreads : PoolConfig := ⟨2, 1, true, by decide, by decide⟩

/-- The first of two workers runs a script and ends.  The second one waits for
its remote connection, and a third one cannot be created. -/
private def twoThreadsTrace : List (ℕ × PoolLabel) :=
  [(0, .acquire), (0, .acquire), (0, .create true), (1, .next), (0, .acquire), (0, .acquire),
    (1, .next), (0, .create true), (2, .next), (1, .next), (1, .exec), (2, .next), (1, .next),
    (1, .finish), (1, .next), (1, .next), (0, .acquire), (0, .acquire), (0, .create false)]

theorem permits_conserved_twoThreads :
    ∃ c, run (poolStep twoThreads) (startPool twoThreads) twoThreadsTrace = some c ∧
      c.locals 0 = .createFailed ∧ c.locals 1 = .ended ∧ c.locals 2 = .connected 1 ∧
      PermitsConserved twoThreads c :=
  ⟨_, rfl, rfl, rfl, rfl, permits_conserved twoThreads twoThreadsTrace _ rfl⟩

end Spine
