import Spine.Base.LockOrder

/-!
# The locks of Spine

`platform/locks.c` has a mutex for each shared thing, the permits and the list of script
children have mutexes of their own, and `log_to_file` serialises the records of the log.
A thread of Spine runs a sequence of functions that take these locks.  Their locked parts
are short, but some of them write to the log, and the slot of a script server stays locked
while the server is restarted and its old child goes to the list of abandoned children.

* The functions.  Each function that takes a lock is the program of its operations on
  locks, under its own name.  What decides between its branches is an input: how many
  records it logs, whether a child outlives its server, what a server answers.
* `Call` collects them, and `thread` is what a thread does: any calls in any order.
* `rank` is the order: a script server's slot first, the log last.
-/

namespace Spine.Locks

open Base.LockOrder Base.Interleaving

/-! ## Locks -/

/-- The three counters of permits. -/
inductive Permits where
  | availableThreads
  | availableScripts
  | threadInit
  deriving DecidableEq, Repr

/-- The locks of `platform/locks.c` that are taken, `ListMutex` of `nft_popen.c`, the mutexes
of the permits, and the mutex of `log_to_file`. -/
inductive SpineLock where
  | snmp
  | icmp
  | ghbn
  | pool
  | php
  | phpProc (slot : Nat)
  | thdet
  | list
  | permits (counter : Permits)
  | log
  deriving DecidableEq, Repr

/-- The order in which a thread may come to hold several locks. -/
def rank : SpineLock → Nat
  | .phpProc _ => 0
  | .log => 2
  | _ => 1

abbrev LockProg := Prog SpineLock

/-- `spine_log` for a record that goes to the log file. -/
def spineLog : LockProg := .within .log .done

/-- A number of records. -/
def records : Nat → LockProg
  | 0 => .done
  | n + 1 => spineLog.seq (records n)

/-- The records of the functions of `platform/locks.c`, which are logged at the highest
verbosity only. -/
def lockRecords (debug : Bool) (n : Nat) : LockProg := if debug then records n else .done

/-- What a thread does between `thread_mutex_lock` and `thread_mutex_unlock`.  Each of the
two logs before and after its operation, and `get_lock` once as well. -/
def locked (debug : Bool) (l : SpineLock) (body : LockProg) : LockProg :=
  (lockRecords debug 2).seq
    ((Prog.within l ((lockRecords debug 1).seq (body.seq (lockRecords debug 2)))).seq
      (lockRecords debug 1))

/-- `thread_mutex_trylock`: what is done if the lock was free, up to
`thread_mutex_unlock`, what follows that, and what is done if it was not. -/
def tryLocked (debug : Bool) (l : SpineLock) (body after busy : LockProg) : LockProg :=
  (lockRecords debug 2).seq
    (.tryLock l
      (((lockRecords debug 1).seq (body.seq (lockRecords debug 2))).seq
        (.unlock l ((lockRecords debug 1).seq after)))
      ((lockRecords debug 1).seq busy))

/-! ## Functions with one locked part -/

/-- `spine_permits_try_acquire`, `spine_permits_release` and `spine_permits_available`. -/
def spinePermits (counter : Permits) : LockProg := .within (.permits counter) .done

/-- The locked parts of `complete_poll_host`, `start_poll_worker`, `launch_poll_workers`,
`report_worker_launch` and `report_worker_completion`, with the records that they log. -/
def threadDetails (debug : Bool) (logged : Nat) : LockProg :=
  locked debug .thdet (records logged)

/-- `db_get_connection`, which logs the entries that it passes. -/
def dbGetConnection (debug : Bool) (logged : Nat) : LockProg := locked debug .pool (records logged)

/-- `db_release_connection`. -/
def dbReleaseConnection (debug : Bool) (logged : Nat) : LockProg :=
  locked debug .pool (records logged)

/-- The sequence number of `ping_icmp` and `ping_icmp_ipv6`. -/
def pingSequence (debug : Bool) : LockProg := locked debug .ghbn .done

/-- `snmp_sess_open` in `snmp_host_init`, and `snmp_host_cleanup`. -/
def snmpSession (debug : Bool) : LockProg := locked debug .snmp .done

/-- `icmp_shared_register` and `icmp_shared_unregister`. -/
def icmpSharedList (debug : Bool) : LockProg := locked debug .icmp .done

/-! ## Waiting for a shared reply -/

/-- A turn of the loop of `icmp_shared_await`: to sleep while another thread reads, or to
read and to hand out a number of batches. -/
inductive AwaitTurn where
  | sleep
  | read (batches : Nat)
  deriving DecidableEq, Repr

/-- The batches that a reader hands out. -/
def dispatchBatches (debug : Bool) : Nat → LockProg
  | 0 => .done
  | n + 1 => (locked debug .icmp .done).seq (dispatchBatches debug n)

/-- The loop of `icmp_shared_await`, which starts and ends with the lock held.
`pthread_cond_timedwait` gives the lock back and takes it again, after at most the time
that is left. -/
def awaitTurns (debug : Bool) : List AwaitTurn → LockProg
  | [] => .done
  | .sleep :: rest =>
    (lockRecords debug 1).seq (.unlock .icmp (.lock .icmp (awaitTurns debug rest)))
  | .read batches :: rest =>
    (lockRecords debug 2).seq (.unlock .icmp
      ((lockRecords debug 1).seq ((dispatchBatches debug batches).seq
        ((lockRecords debug 2).seq (.lock .icmp
          ((lockRecords debug 1).seq (awaitTurns debug rest)))))))

/-- `icmp_shared_await`. -/
def icmpSharedAwait (debug : Bool) (turns : List AwaitTurn) : LockProg :=
  locked debug .icmp (awaitTurns debug turns)

/-! ## Script children -/

/-- `nft_popen`, which logs the children that it reaps and what fails. -/
def nftPopen (logged : Nat) : LockProg := .within .list (records logged)

/-- `pid_list_close_and_take` of `nft_pclose`. -/
def pidListCloseAndTake : LockProg := .within .list .done

/-- `nft_pchild`. -/
def nftPchild : LockProg := .within .list .done

/-- `nft_abandoned_pending`. -/
def nftAbandonedPending (reaped : Nat) : LockProg := .within .list (records reaped)

/-- `nft_abandon_child`. -/
def nftAbandonChild (reaped : Nat) : LockProg := (Prog.within .list (records reaped)).seq spineLog

/-! ## Script servers -/

/-- A call of `php_close` for one slot: its records, and the children that the sweep reaps if
the server's child outlives it. -/
structure CloseRun where
  logged : Nat
  abandoned : Option Nat

/-- `php_close`. -/
def phpClose (run : CloseRun) : LockProg :=
  (records run.logged).seq (run.abandoned.elim .done nftAbandonChild)

/-- `php_init`, with the records of `php_read_result` that it waits for. -/
def phpInit (logged : Nat) : LockProg := records logged

/-- A restart: `php_close` and `php_init`. -/
def restart (close : CloseRun) (started : Nat) : LockProg := (phpClose close).seq (phpInit started)

/-- A turn of `php_cmd` with the slot locked: the slot cannot be used, the write fails and the
server is closed and perhaps started again, or `php_readpipe` reads a result and perhaps
restarts the server. -/
inductive CommandTurn where
  | unavailable
  | lost (logged : Nat) (close : CloseRun) (started : Option Nat)
  | answered (logged : Nat) (restarted : Option (CloseRun × Nat))

/-- What a turn of `php_cmd` does with locks. -/
def commandTurn : CommandTurn → LockProg
  | .unavailable => .done
  | .lost logged close started =>
    (records logged).seq ((phpClose close).seq (started.elim .done phpInit))
  | .answered logged restarted =>
    (records logged).seq (restarted.elim .done fun run => restart run.1 run.2)

/-- The turns of `php_cmd`. -/
def commandTurns : List CommandTurn → LockProg
  | [] => .done
  | turn :: rest => (commandTurn turn).seq (commandTurns rest)

/-- `php_cmd`, which logs a slot that cannot be used after it has given the lock back. -/
def phpCmd (debug : Bool) (slot : Nat) (turns : List CommandTurn) (logged : Nat) : LockProg :=
  (locked debug (.phpProc slot) (commandTurns turns)).seq (records logged)

/-- The recovery of a slot by `php_get_process`: `php_close` if there is something to close,
and `php_init`. -/
structure RecoveryRun where
  close : Option CloseRun
  started : Nat

/-- The end of `php_get_process`: the slot that needs recovery is tried, and it is recovered
unless it turns out to be ready. -/
def recoverSlot (debug : Bool) (recovery : Option RecoveryRun) (slot : Nat) : LockProg :=
  tryLocked debug (.phpProc slot)
    (recovery.elim .done fun run => (run.close.elim .done phpClose).seq (phpInit run.started))
    .done .done

/-- The loop of `php_get_process` over the slots that are left, with the first slot that needs
recovery.  `ready` says what the slot is found to be while it is locked. -/
def tryCandidates (debug : Bool) (ready : Nat → Bool) (recovery : Option RecoveryRun) :
    List Nat → Option Nat → LockProg
  | [], none => .done
  | [], some slot => recoverSlot debug recovery slot
  | slot :: rest, failed =>
    tryLocked debug (.phpProc slot) .done
      (if ready slot then .done
        else tryCandidates debug ready recovery rest (failed <|> some slot))
      (tryCandidates debug ready recovery rest failed)

/-- `php_get_process`. -/
def phpGetProcess (debug : Bool) (ready : Nat → Bool) (recovery : Option RecoveryRun)
    (candidates : List Nat) : LockProg :=
  (locked debug .php .done).seq (tryCandidates debug ready recovery candidates none)

/-! ## Threads -/

/-- A call of a function that takes locks. -/
inductive Call where
  | spineLog
  | spinePermits (counter : Permits)
  | threadDetails (logged : Nat)
  | dbGetConnection (logged : Nat)
  | dbReleaseConnection (logged : Nat)
  | pingSequence
  | snmpSession
  | icmpSharedList
  | icmpSharedAwait (turns : List AwaitTurn)
  | nftPopen (logged : Nat)
  | pidListCloseAndTake
  | nftPchild
  | nftAbandonedPending (reaped : Nat)
  | nftAbandonChild (reaped : Nat)
  | phpCmd (slot : Nat) (turns : List CommandTurn) (logged : Nat)
  | phpGetProcess (ready : Nat → Bool) (recovery : Option RecoveryRun) (candidates : List Nat)

def Call.prog (debug : Bool) : Call → LockProg
  | .spineLog => Locks.spineLog
  | .spinePermits counter => Locks.spinePermits counter
  | .threadDetails logged => Locks.threadDetails debug logged
  | .dbGetConnection logged => Locks.dbGetConnection debug logged
  | .dbReleaseConnection logged => Locks.dbReleaseConnection debug logged
  | .pingSequence => Locks.pingSequence debug
  | .snmpSession => Locks.snmpSession debug
  | .icmpSharedList => Locks.icmpSharedList debug
  | .icmpSharedAwait turns => Locks.icmpSharedAwait debug turns
  | .nftPopen logged => Locks.nftPopen logged
  | .pidListCloseAndTake => Locks.pidListCloseAndTake
  | .nftPchild => Locks.nftPchild
  | .nftAbandonedPending reaped => Locks.nftAbandonedPending reaped
  | .nftAbandonChild reaped => Locks.nftAbandonChild reaped
  | .phpCmd slot turns logged => Locks.phpCmd debug slot turns logged
  | .phpGetProcess ready recovery candidates =>
    Locks.phpGetProcess debug ready recovery candidates

/-- A thread: one call after the other. -/
def thread (debug : Bool) : List Call → LockProg
  | [] => .done
  | call :: rest => (call.prog debug).seq (thread debug rest)

/-! ## The order -/

section Order

variable {debug : Bool} {l : SpineLock} {r : Nat} {body after busy : LockProg}
  {held : Finset SpineLock}

theorem rank_le (l : SpineLock) : rank l ≤ 2 := by
  cases l <;> simp [rank]

/-- While a slot is held, a record can be logged. -/
theorem rank_phpProc_lt (slot : Nat) : rank (.phpProc slot) + 1 ≤ 2 := Nat.le_succ 1

theorem nested_spineLog : Nested rank 2 spineLog := nested_done.within (Nat.le_refl 2)

/-- A record can be logged while any other lock is held. -/
theorem nested_records (n : Nat) : Nested rank 2 (records n) := by
  induction n with
  | zero => exact nested_done
  | succ n ih => exact nested_spineLog.seq ih

theorem nested_lockRecords (debug : Bool) (n : Nat) : Nested rank 2 (lockRecords debug n) := by
  cases debug with
  | true => exact nested_records n
  | false => exact nested_done

/-- The records of a lock function around a part that keeps to the order. -/
theorem nested_recorded (hbody : Nested rank r body) (hle : r ≤ 2) (before behind : Nat) :
    Nested rank r ((lockRecords debug before).seq (body.seq (lockRecords debug behind))) :=
  ((nested_lockRecords debug before).mono hle).seq
    (hbody.seq ((nested_lockRecords debug behind).mono hle))

theorem nested_locked (hlog : rank l + 1 ≤ 2) (hle : r ≤ rank l)
    (hbody : Nested rank (rank l + 1) body) : Nested rank r (locked debug l body) :=
  nested_recorded ((nested_recorded hbody hlog 1 2).within hle) (by omega) 2 1

theorem nested_tryLocked (hlog : rank l + 1 ≤ 2) (hle : r ≤ rank l)
    (hbody : Nested rank (rank l + 1) body) (hafter : Nested rank r after)
    (hbusy : Nested rank r busy) : Nested rank r (tryLocked debug l body after busy) := by
  have hrecords : ∀ n, Nested rank r (lockRecords debug n) :=
    fun n => (nested_lockRecords debug n).mono (by omega)
  refine (hrecords 2).seq ?_
  exact (nested_recorded hbody hlog 1 2).tryLock hle ((hrecords 1).seq hafter)
    ((hrecords 1).seq hbusy)

variable (debug) in
/-- The loop of `icmp_shared_await` gives its lock back and takes it again. -/
theorem ordered_awaitTurns (turns : List AwaitTurn) (hheld : ∀ k ∈ held, rank k < 1) :
    Ordered rank (insert .icmp held) (awaitTurns debug turns) (insert .icmp held) := by
  have hwith : ∀ k ∈ insert .icmp held, rank k < 2 :=
    forall_insert_lt hheld (Nat.le_refl 1)
  have hrecords := fun n => nested_lockRecords debug n _ hwith
  have herase : (insert .icmp held).erase .icmp = held :=
    Finset.erase_insert (notMem_of_rank hheld (Nat.le_refl 1))
  induction turns with
  | nil => rfl
  | cons turn rest ih =>
    cases turn with
    | sleep =>
      refine (hrecords 1).seq ⟨Finset.mem_insert_self _ _, ?_⟩
      rw [herase]
      exact ⟨hheld, ih⟩
    | read batches =>
      refine (hrecords 2).seq ⟨Finset.mem_insert_self _ _, ?_⟩
      rw [herase]
      have hbatches : Nested rank 1 (dispatchBatches debug batches) := by
        induction batches with
        | zero => exact nested_done
        | succ n ih =>
          exact (nested_locked (l := .icmp) (by decide) (Nat.le_refl 1) nested_done).seq ih
      have hfree := fun n => (nested_lockRecords debug n).mono (show 1 ≤ 2 by decide) held hheld
      refine (hfree 1).seq ((hbatches held hheld).seq ((hfree 2).seq ⟨hheld, ?_⟩))
      exact (hrecords 1).seq ih

theorem nested_icmpSharedAwait (turns : List AwaitTurn) :
    Nested rank 1 (icmpSharedAwait debug turns) := by
  intro held hheld
  have hrecords := fun n => (nested_lockRecords debug n).mono (show 1 ≤ 2 by decide) held hheld
  have hwith : ∀ k ∈ insert .icmp held, rank k < 2 := forall_insert_lt hheld (Nat.le_refl 1)
  have hinside := fun n => nested_lockRecords debug n _ hwith
  have hbody := (hinside 1).seq ((ordered_awaitTurns debug turns hheld).seq (hinside 2))
  have herase : (insert .icmp held).erase .icmp = held :=
    Finset.erase_insert (notMem_of_rank hheld (Nat.le_refl 1))
  refine (hrecords 2).seq (Ordered.seq ⟨hheld, hbody.seq ?_⟩ (hrecords 1))
  exact ⟨Finset.mem_insert_self _ _, herase⟩

theorem nested_list (logged : Nat) : Nested rank 1 (.within .list (records logged)) :=
  Nested.within (l := SpineLock.list) (nested_records logged) (Nat.le_refl 1)

theorem nested_nftAbandonChild (reaped : Nat) : Nested rank 1 (nftAbandonChild reaped) :=
  (nested_list reaped).seq (nested_spineLog.mono (by decide))

theorem nested_phpClose (run : CloseRun) : Nested rank 1 (phpClose run) := by
  refine ((nested_records run.logged).mono (by decide)).seq ?_
  cases run.abandoned with
  | none => exact nested_done
  | some reaped => exact nested_nftAbandonChild reaped

theorem nested_phpInit (logged : Nat) : Nested rank 1 (phpInit logged) :=
  (nested_records logged).mono (by decide)

theorem nested_commandTurns (turns : List CommandTurn) : Nested rank 1 (commandTurns turns) := by
  have hrecords : ∀ n, Nested rank 1 (records n) := fun n => (nested_records n).mono (by decide)
  induction turns with
  | nil => exact nested_done
  | cons turn rest ih =>
    refine Nested.seq ?_ ih
    cases turn with
    | unavailable => exact nested_done
    | lost logged close started =>
      refine (hrecords logged).seq ((nested_phpClose close).seq ?_)
      cases started with
      | none => exact nested_done
      | some started => exact nested_phpInit started
    | answered logged restarted =>
      refine (hrecords logged).seq ?_
      cases restarted with
      | none => exact nested_done
      | some run => exact (nested_phpClose run.1).seq (nested_phpInit run.2)

theorem nested_recoverSlot (recovery : Option RecoveryRun) (slot : Nat) :
    Nested rank 0 (recoverSlot debug recovery slot) := by
  refine nested_tryLocked (rank_phpProc_lt slot) (Nat.le_refl 0) ?_ nested_done
    nested_done
  cases recovery with
  | none => exact nested_done
  | some run =>
    refine Nested.seq ?_ (nested_phpInit run.started)
    cases run.close with
    | none => exact nested_done
    | some close => exact nested_phpClose close

theorem nested_tryCandidates (ready : Nat → Bool) (recovery : Option RecoveryRun)
    (candidates : List Nat) (failed : Option Nat) :
    Nested rank 0 (tryCandidates debug ready recovery candidates failed) := by
  induction candidates generalizing failed with
  | nil =>
    cases failed with
    | none => exact nested_done
    | some slot => exact nested_recoverSlot recovery slot
  | cons slot rest ih =>
    refine nested_tryLocked (rank_phpProc_lt slot) (Nat.le_refl 0) nested_done ?_ (ih failed)
    split
    · exact nested_done
    · exact ih _

/-- Every function of Spine keeps to the order. -/
theorem Call.nested (call : Call) : Nested rank 0 (call.prog debug) := by
  have hplain : ∀ (l : SpineLock) (logged : Nat), rank l = 1 →
      Nested rank 0 (locked debug l (records logged)) := by
    intro l logged hrank
    refine nested_locked (by rw [hrank]) (Nat.zero_le _) ?_
    rw [hrank]
    exact nested_records logged
  have hlist : ∀ logged, Nested rank 0 (.within .list (records logged)) :=
    fun logged => (nested_list logged).mono (Nat.zero_le 1)
  cases call with
  | spineLog => exact nested_spineLog.mono (Nat.zero_le 2)
  | spinePermits counter => exact nested_done.within (Nat.zero_le _)
  | threadDetails logged => exact hplain _ logged rfl
  | dbGetConnection logged => exact hplain _ logged rfl
  | dbReleaseConnection logged => exact hplain _ logged rfl
  | pingSequence => exact hplain _ 0 rfl
  | snmpSession => exact hplain _ 0 rfl
  | icmpSharedList => exact hplain _ 0 rfl
  | icmpSharedAwait turns => exact (nested_icmpSharedAwait turns).mono (Nat.zero_le 1)
  | nftPopen logged => exact hlist logged
  | pidListCloseAndTake => exact hlist 0
  | nftPchild => exact hlist 0
  | nftAbandonedPending reaped => exact hlist reaped
  | nftAbandonChild reaped => exact (nested_nftAbandonChild reaped).mono (Nat.zero_le 1)
  | phpCmd slot turns logged =>
    refine Nested.seq ?_ ((nested_records logged).mono (Nat.zero_le 2))
    exact nested_locked (rank_phpProc_lt slot) (Nat.le_refl 0) (nested_commandTurns turns)
  | phpGetProcess ready recovery candidates =>
    refine Nested.seq (hplain _ 0 rfl) ?_
    exact nested_tryCandidates ready recovery candidates none

theorem nested_thread (calls : List Call) : Nested rank 0 (thread debug calls) := by
  induction calls with
  | nil => exact nested_done
  | cons call rest ih => exact call.nested.seq ih

end Order

/-! ## Every run ends -/

section Runs

variable {ι : Type*} [DecidableEq ι]

/-- Threads that have not started, with every lock free. -/
def startThreads (debug : Bool) (calls : ι → List Call) :
    Base.Interleaving.Config ι (SpineLock → Option ι) LockProg :=
  ⟨fun _ => none, fun i => thread debug (calls i)⟩

omit [DecidableEq ι] in
theorem disciplined_startThreads (debug : Bool) (calls : ι → List Call) :
    Disciplined rank (startThreads debug calls) := by
  intro i
  refine ⟨∅, fun l => iff_of_false (Finset.notMem_empty l) (fun h => by cases h), ?_⟩
  exact nested_thread (calls i) ∅ fun k hk => absurd hk (Finset.notMem_empty k)

/-- Whatever functions the threads of Spine call, with whatever outcomes, and however their
operations on locks are interleaved: as long as a thread is not finished some thread can go
on, no run has more operations than the calls have, and at the end every lock is free. -/
theorem threads_never_deadlock [Fintype ι] (debug : Bool) (calls : ι → List Call)
    (trace : List (ι × Unit)) {c : Base.Interleaving.Config ι (SpineLock → Option ι) LockProg}
    (hrun : run step (startThreads debug calls) trace = some c) :
    trace.length ≤ ∑ i, (thread debug (calls i)).size ∧
      ((∃ i, c.locals i ≠ .done) → ∃ j, (stepAt step c (j, ())).isSome) ∧
      ((∀ i, c.locals i = .done) → ∀ l, c.shared l = none) := by
  have hdisciplined : Disciplined rank c :=
    run_invariant (fun _ _ _ h hstep => h.stepAt hstep) (disciplined_startThreads debug calls) hrun
  refine ⟨?_, ?_, free_of_done hdisciplined⟩
  · exact Nat.le_of_add_right_le (run_length_le hrun)
  · rintro ⟨i, hlive⟩
    exact progress rank_le hdisciplined hlive

end Runs

/-- One thread restarts the server of a slot, and another one looks for a server. -/
def restartAndSelect : Bool → List Call
  | true => [.phpCmd 0 [.lost 0 ⟨0, some 0⟩ none] 0]
  | false => [.phpGetProcess (fun _ => false) none [0]]

/-- The second thread finds the slot locked and is finished, and the first one can go on. -/
theorem threads_never_deadlock_restart :
    ∃ c, run step (startThreads false restartAndSelect)
        [(true, ()), (false, ()), (false, ()), (false, ())] = some c ∧
      c.locals false = .done ∧ ∃ j, (stepAt step c (j, ())).isSome := by
  refine ⟨_, rfl, rfl, ?_⟩
  refine (threads_never_deadlock false restartAndSelect
    [(true, ()), (false, ()), (false, ()), (false, ())] rfl).2.1 ⟨true, ?_⟩
  intro h
  cases h

end Spine.Locks
