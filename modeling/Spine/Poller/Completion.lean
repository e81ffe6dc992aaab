import Spine.Base.Interleaving
import Spine.Internal.Types
import Mathlib.Data.Fintype.Card

/-!
# Completing a device

Every worker of a device ends with `complete_poll_host` of
`poller/poller.c`.  The function has two sections under `LOCK_THDET` and the
database writes between them, which run without the lock.

* The function.  `lockedCompletion` is the first locked section,
  `completionWrites` is the list of writes that follows it, and
  `failCompletion` is the second locked section.
* The threads.  `completionStep` is one step of one partition: a locked
  section, or one call of `db_insert` whose answer is the label.  A trace of
  `Base.Interleaving` is an interleaving of the partitions of a device.
* The invariant.  `CompletionInv` describes the shared record by what the
  partitions have done so far.  `completionStep_inv` is the step lemma.
* The result.  `completion_safe` reads the guarantees off the invariant.

Two fields are history.  `attempted` lists the writes of a partition with
their answers, and `entered` lists the partitions in the order of their first
locked section.
-/

namespace Spine

open Base.Interleaving

/-! ## The function -/

/-- The arguments of `complete_poll_host` that decide what it does.  `errors`
is the error count of the partition. -/
structure CompletionCall where
  outputFailed : Bool
  pollFailed : Bool
  errors : Int

/-- The three statements between the locked sections. -/
inductive CompletionWrite where
  | schedule
  | pollingTime
  | hostErrors
  deriving DecidableEq, Repr

/-- What `LOCK_THDET` guards: the record of the device, and whether the exit
code is `EXIT_FAILURE`. -/
structure CompletionState where
  device : PollerThread
  exitFailure : Bool

/-- The first locked section up to the counter. -/
def recordPartition (call : CompletionCall) (s : CompletionState) : CompletionState :=
  let s := if call.outputFailed then ⟨{ s.device with outputFailed := true }, true⟩ else s
  let s := if call.pollFailed then ⟨{ s.device with pollFailed := true }, true⟩ else s
  { s with device := { s.device with threadsComplete := s.device.threadsComplete + 1 } }

/-- The first locked section: the new state, `last_partition` and
`update_schedule`. -/
def lockedCompletion (cfg : Config) (call : CompletionCall) (s : CompletionState) :
    CompletionState × Bool × Bool :=
  let s := recordPartition call s
  if s.device.threadsComplete = s.device.hostThreads then
    let failed := s.device.outputFailed || s.device.pollFailed
    ({ s with device := { s.device with complete := !failed } }, true,
      decide (cfg.activeProfiles ≠ 1) && !failed)
  else
    (s, false, false)

/-- The writes between the locked sections.  A partition whose poll failed
skips them. -/
def completionWrites (call : CompletionCall) (lastPartition updateSchedule : Bool) :
    List CompletionWrite :=
  if call.pollFailed then []
  else
    (if updateSchedule then [.schedule] else []) ++
      (if lastPartition then [.pollingTime] else []) ++
      (if 0 < call.errors then [.hostErrors] else [])

/-- The second locked section, which a partition with a failed write takes. -/
def failCompletion (s : CompletionState) : CompletionState :=
  ⟨{ s.device with outputFailed := true, complete := false }, true⟩

/-! ### What the first section changes -/

section LockedSection

variable (cfg : Config) (call : CompletionCall) (s : CompletionState)

@[simp] theorem recordPartition_hostThreads :
    (recordPartition call s).device.hostThreads = s.device.hostThreads := by
  simp only [recordPartition]
  split_ifs <;> rfl

@[simp] theorem recordPartition_threadsComplete :
    (recordPartition call s).device.threadsComplete = s.device.threadsComplete + 1 := by
  simp only [recordPartition]
  split_ifs <;> rfl

@[simp] theorem recordPartition_complete :
    (recordPartition call s).device.complete = s.device.complete := by
  simp only [recordPartition]
  split_ifs <;> rfl

@[simp] theorem recordPartition_outputFailed :
    (recordPartition call s).device.outputFailed =
      (s.device.outputFailed || call.outputFailed) := by
  simp only [recordPartition]
  split_ifs <;> simp [*]

@[simp] theorem recordPartition_pollFailed :
    (recordPartition call s).device.pollFailed = (s.device.pollFailed || call.pollFailed) := by
  simp only [recordPartition]
  split_ifs <;> simp [*]

@[simp] theorem recordPartition_exitFailure :
    (recordPartition call s).exitFailure =
      (s.exitFailure || call.outputFailed || call.pollFailed) := by
  simp only [recordPartition]
  split_ifs <;> simp [*]

/-- The first section in one record: only the last partition touches
`complete`, and it alone may update the schedule. -/
theorem lockedCompletion_spec :
    (lockedCompletion cfg call s).1.device.hostThreads = s.device.hostThreads ∧
      (lockedCompletion cfg call s).1.device.threadsComplete = s.device.threadsComplete + 1 ∧
      (lockedCompletion cfg call s).1.device.outputFailed =
        (s.device.outputFailed || call.outputFailed) ∧
      (lockedCompletion cfg call s).1.device.pollFailed =
        (s.device.pollFailed || call.pollFailed) ∧
      (lockedCompletion cfg call s).1.exitFailure =
        (s.exitFailure || call.outputFailed || call.pollFailed) ∧
      (lockedCompletion cfg call s).1.device.complete =
        (if s.device.threadsComplete + 1 = s.device.hostThreads then
          !(s.device.outputFailed || call.outputFailed || (s.device.pollFailed || call.pollFailed))
        else s.device.complete) ∧
      ((lockedCompletion cfg call s).2.2 = true →
        s.device.threadsComplete + 1 = s.device.hostThreads ∧ cfg.activeProfiles ≠ 1 ∧
          (s.device.outputFailed || call.outputFailed) = false ∧
          (s.device.pollFailed || call.pollFailed) = false) := by
  simp only [lockedCompletion, recordPartition_threadsComplete, recordPartition_hostThreads]
  split
  · rename_i hlast
    refine ⟨by simp, by simp, by simp, by simp, by simp, by simp, ?_⟩
    intro hupdate
    simp only [recordPartition_outputFailed, recordPartition_pollFailed, Bool.and_eq_true,
      decide_eq_true_eq, Bool.not_eq_true', Bool.or_eq_false_iff] at hupdate
    obtain ⟨hprofiles, ⟨houtput, houtput'⟩, hpoll, hpoll'⟩ := hupdate
    exact ⟨hlast, hprofiles, by simp [houtput, houtput'], by simp [hpoll, hpoll']⟩
  · exact ⟨by simp, by simp, by simp, by simp, by simp, by simp, by simp⟩

/-- The state after partitions with these calls have passed the first locked
section, one after the other. -/
def passAll (calls : List CompletionCall) : CompletionState :=
  calls.foldl (fun s call => (lockedCompletion cfg call s).1) s

theorem passAll_threadsComplete (calls : List CompletionCall) :
    (passAll cfg s calls).device.threadsComplete = s.device.threadsComplete + calls.length := by
  unfold passAll
  induction calls generalizing s with
  | nil => rfl
  | cons call calls ih =>
    rw [List.foldl_cons, ih, (lockedCompletion_spec cfg call s).2.1, List.length_cons]
    omega

end LockedSection

theorem completionWrites_nodup (call : CompletionCall) (last update : Bool) :
    (completionWrites call last update).Nodup := by
  rw [completionWrites]
  split_ifs <;> decide

theorem schedule_mem_completionWrites {call : CompletionCall} {last update : Bool}
    (h : CompletionWrite.schedule ∈ completionWrites call last update) : update = true := by
  cases update with
  | true => rfl
  | false =>
    simp only [completionWrites, Bool.false_eq_true, if_false, List.nil_append] at h
    split_ifs at h <;> simp at h

/-! ## The partitions as threads -/

/-- Where a partition is in the function. -/
inductive CompletionPc where
  | entry
  | writing (pending : List CompletionWrite) (writeFailed : Bool)
  | returned
  deriving DecidableEq, Repr

/-- The writes that a partition still has to make. -/
def CompletionPc.pending : CompletionPc → List CompletionWrite
  | .writing pending _ => pending
  | _ => []

/-- A partition, with the history of its writes. -/
structure CompletionThread where
  pc : CompletionPc
  attempted : List (CompletionWrite × Bool)
  deriving DecidableEq, Repr

/-- The guarded state, with the history of the first locked sections. -/
structure CompletionShared (ι : Type*) where
  state : CompletionState
  entered : List ι

/-- All writes of a partition, made or pending. -/
def CompletionThread.writes (t : CompletionThread) : List CompletionWrite :=
  t.attempted.map Prod.fst ++ t.pc.pending

/-- One of the writes made so far was refused. -/
def CompletionThread.WriteFailed (t : CompletionThread) : Prop :=
  ∃ write, (write, false) ∈ t.attempted

section Threads

variable {ι : Type*}

/-- One step of partition `i`.  The label is the answer of `db_insert`, which
the locked sections ignore. -/
def completionStep (cfg : Config) (calls : ι → CompletionCall) :
    Step ι Bool (CompletionShared ι) CompletionThread :=
  fun i answer s t =>
    match t.pc with
    | .entry =>
      let (state, last, update) := lockedCompletion cfg (calls i) s.state
      some (⟨state, s.entered ++ [i]⟩,
        { t with pc := .writing (completionWrites (calls i) last update) false })
    | .writing (write :: pending) failed =>
      some (s, ⟨.writing pending (failed || !answer), t.attempted ++ [(write, answer)]⟩)
    | .writing [] true =>
      some (⟨failCompletion s.state, s.entered⟩, { t with pc := .returned })
    | .writing [] false => some (s, { t with pc := .returned })
    | .returned => none

/-- The four things that a step can do. -/
theorem completionStep_cases {cfg : Config} {calls : ι → CompletionCall} {i : ι} {answer : Bool}
    {s s' : CompletionShared ι} {t t' : CompletionThread}
    (h : completionStep cfg calls i answer s t = some (s', t')) :
    (t.pc = .entry ∧
      s' = ⟨(lockedCompletion cfg (calls i) s.state).1, s.entered ++ [i]⟩ ∧
      t' = { t with pc := .writing (completionWrites (calls i)
        (lockedCompletion cfg (calls i) s.state).2.1
        (lockedCompletion cfg (calls i) s.state).2.2) false }) ∨
    (∃ write pending failed, t.pc = .writing (write :: pending) failed ∧ s' = s ∧
      t' = ⟨.writing pending (failed || !answer), t.attempted ++ [(write, answer)]⟩) ∨
    (t.pc = .writing [] true ∧ s' = ⟨failCompletion s.state, s.entered⟩ ∧
      t' = { t with pc := .returned }) ∨
    (t.pc = .writing [] false ∧ s' = s ∧ t' = { t with pc := .returned }) := by
  rw [completionStep] at h
  split at h
  · rename_i hpc
    cases h
    exact Or.inl ⟨hpc, rfl, rfl⟩
  · rename_i write pending failed hpc
    cases h
    exact Or.inr (Or.inl ⟨write, pending, failed, hpc, rfl, rfl⟩)
  · rename_i hpc
    cases h
    exact Or.inr (Or.inr (Or.inl ⟨hpc, rfl, rfl⟩))
  · rename_i hpc
    cases h
    exact Or.inr (Or.inr (Or.inr ⟨hpc, rfl, rfl⟩))
  · cases h

end Threads

/-! ## The invariant -/

section Invariant

variable {n : Nat} (cfg : Config) (calls : Fin n → CompletionCall)

/-- What the partitions of a device and its record have to do with each
other at every moment. -/
structure CompletionInv
    (c : Base.Interleaving.Config (Fin n) (CompletionShared (Fin n)) CompletionThread) : Prop where
  hostThreads : c.shared.state.device.hostThreads = n
  threadsComplete : c.shared.state.device.threadsComplete = c.shared.entered.length
  nodup : c.shared.entered.Nodup
  entered : ∀ i, i ∈ c.shared.entered ↔ (c.locals i).pc ≠ .entry
  fresh : ∀ i, (c.locals i).pc = .entry → (c.locals i).attempted = []
  writeFailed : ∀ i pending failed, (c.locals i).pc = .writing pending failed →
    (failed = true ↔ (c.locals i).WriteFailed)
  pollFailed : c.shared.state.device.pollFailed = true ↔
    ∃ i ∈ c.shared.entered, (calls i).pollFailed = true
  outputFailed : c.shared.state.device.outputFailed = true ↔
    (∃ i ∈ c.shared.entered, (calls i).outputFailed = true) ∨
      ∃ i, (c.locals i).pc = .returned ∧ (c.locals i).WriteFailed
  complete : c.shared.state.device.complete = true ↔
    c.shared.entered.length = n ∧ c.shared.state.device.outputFailed = false ∧
      c.shared.state.device.pollFailed = false
  exitFailure : c.shared.state.device.outputFailed = true ∨
    c.shared.state.device.pollFailed = true → c.shared.state.exitFailure = true
  writesNodup : ∀ i, (c.locals i).writes.Nodup
  schedule : ∀ i, CompletionWrite.schedule ∈ (c.locals i).writes →
    c.shared.entered.length = n ∧ c.shared.entered.getLast? = some i ∧ cfg.activeProfiles ≠ 1 ∧
      ∀ j ∈ c.shared.entered, (calls j).outputFailed = false ∧ (calls j).pollFailed = false

variable {cfg calls}
  {c c' : Base.Interleaving.Config (Fin n) (CompletionShared (Fin n)) CompletionThread} {i : Fin n}

/-- A partition at the entry is not counted, so there is room for it. -/
theorem CompletionInv.entered_length_lt (h : CompletionInv cfg calls c)
    (hpc : (c.locals i).pc = .entry) : c.shared.entered.length < n := by
  have hmem : i ∉ c.shared.entered := fun hi => (h.entered i).1 hi hpc
  have hnodup : (i :: c.shared.entered).Nodup := List.nodup_cons.2 ⟨hmem, h.nodup⟩
  exact Nat.lt_of_succ_le (by simpa using hnodup.length_le_card)

/-- While both flags of the device are clear, no partition has failed. -/
theorem CompletionInv.calls_clear (h : CompletionInv cfg calls c)
    (houtput : c.shared.state.device.outputFailed = false)
    (hpoll : c.shared.state.device.pollFailed = false) {k : Fin n} (hk : k ∈ c.shared.entered) :
    (calls k).outputFailed = false ∧ (calls k).pollFailed = false := by
  refine ⟨Bool.eq_false_iff.2 fun hfailed => ?_, Bool.eq_false_iff.2 fun hfailed => ?_⟩
  · have hflag := h.outputFailed.2 (Or.inl ⟨k, hk, hfailed⟩)
    rw [houtput] at hflag
    cases hflag
  · have hflag := h.pollFailed.2 ⟨k, hk, hfailed⟩
    rw [hpoll] at hflag
    cases hflag

/-- The partitions that returned with a failed write, when a partition that has
not returned takes a step and does not return by it. -/
theorem returned_iff_of_frame (hframe : ∀ j, j ≠ i → c'.locals j = c.locals j)
    (hold : (c.locals i).pc ≠ .returned) (hnew : (c'.locals i).pc ≠ .returned) :
    (∃ j, (c'.locals j).pc = .returned ∧ (c'.locals j).WriteFailed) ↔
      ∃ j, (c.locals j).pc = .returned ∧ (c.locals j).WriteFailed := by
  refine exists_congr fun j => ?_
  rcases eq_or_ne j i with rfl | hne
  · exact iff_of_false (fun h => hnew h.1) fun h => hold h.1
  · rw [hframe j hne]

/-- Both flags were clear when the last partition came in, so no partition has
failed. -/
theorem CompletionInv.calls_clear_concat (h : CompletionInv cfg calls c)
    (houtput : (c.shared.state.device.outputFailed || (calls i).outputFailed) = false)
    (hpoll : (c.shared.state.device.pollFailed || (calls i).pollFailed) = false) {k : Fin n}
    (hk : k ∈ c.shared.entered ++ [i]) :
    (calls k).outputFailed = false ∧ (calls k).pollFailed = false := by
  rw [Bool.or_eq_false_iff] at houtput hpoll
  rw [List.mem_append, List.mem_singleton] at hk
  rcases hk with hk | rfl
  · exact h.calls_clear houtput.1 hpoll.1 hk
  · exact ⟨houtput.2, hpoll.2⟩

/-- The first locked section keeps the invariant. -/
theorem CompletionInv.enter (h : CompletionInv cfg calls c) (hpc : (c.locals i).pc = .entry)
    (hshared : c'.shared =
      ⟨(lockedCompletion cfg (calls i) c.shared.state).1, c.shared.entered ++ [i]⟩)
    (hlocal : c'.locals i = { c.locals i with pc := .writing (completionWrites (calls i)
      (lockedCompletion cfg (calls i) c.shared.state).2.1
      (lockedCompletion cfg (calls i) c.shared.state).2.2) false })
    (hframe : ∀ j, j ≠ i → c'.locals j = c.locals j) : CompletionInv cfg calls c' := by
  obtain ⟨hthreads, hcount, houtput, hpoll, hexit, hcomplete, hupdate⟩ :=
    lockedCompletion_spec cfg (calls i) c.shared.state
  have hlt := h.entered_length_lt hpc
  have hnotMem : i ∉ c.shared.entered := fun hi => (h.entered i).1 hi hpc
  have hattempted : (c'.locals i).attempted = [] := by rw [hlocal]; exact h.fresh i hpc
  have hwriting : (c'.locals i).pc ≠ .returned := by rw [hlocal]; simp
  have hreturned := returned_iff_of_frame hframe (by rw [hpc]; nofun) hwriting
  have hexists : ∀ p : Fin n → Prop,
      (∃ j ∈ c.shared.entered ++ [i], p j) ↔ (∃ j ∈ c.shared.entered, p j) ∨ p i := by
    intro p
    simp only [List.mem_append, List.mem_singleton, or_and_right, exists_or, exists_eq_left]
  refine ⟨?_, ?_, ?_, ?_, ?_, ?_, ?_, ?_, ?_, ?_, ?_, ?_⟩
  · rw [hshared, hthreads, h.hostThreads]
  · rw [hshared, hcount, h.threadsComplete, List.length_append, List.length_singleton]
  · rw [hshared]
    exact List.nodup_append.2 ⟨h.nodup, List.nodup_singleton i, by
      rintro j hj k hk rfl
      exact hnotMem (List.mem_singleton.1 hk ▸ hj)⟩
  · intro j
    rw [hshared, List.mem_append, List.mem_singleton]
    rcases eq_or_ne j i with rfl | hne
    · simp [hlocal]
    · rw [hframe j hne, ← h.entered j]
      simp [hne]
  · exact forall_locals_of_frame (P := fun _ t => t.pc = .entry → t.attempted = []) hframe
      (fun _ => hattempted) h.fresh
  · refine forall_locals_of_frame (P := fun _ t => ∀ pending failed,
      t.pc = .writing pending failed → (failed = true ↔ t.WriteFailed)) hframe ?_ h.writeFailed
    intro pending failed hi
    rw [hlocal] at hi
    obtain ⟨_, rfl⟩ := CompletionPc.writing.inj hi
    simp [CompletionThread.WriteFailed, hattempted]
  · rw [hshared, hpoll, Bool.or_eq_true, h.pollFailed, hexists]
  · rw [hreturned, hshared, houtput, Bool.or_eq_true, h.outputFailed, hexists]
    exact or_right_comm
  · rw [hshared, hcomplete, houtput, hpoll, h.threadsComplete, h.hostThreads, List.length_append,
      List.length_singleton]
    split
    · rename_i hlast
      simp [hlast]
    · rename_i hnotLast
      rw [h.complete]
      exact ⟨fun hc => absurd hc.1 (by omega), fun hc => absurd hc.1 hnotLast⟩
  · rw [hshared, houtput, hpoll, hexit]
    intro hfailed
    have hexitFailure := h.exitFailure
    simp only [Bool.or_eq_true] at hfailed ⊢
    rcases hfailed with (hold | hnew) | hold | hnew
    · exact Or.inl (Or.inl (hexitFailure (Or.inl hold)))
    · exact Or.inl (Or.inr hnew)
    · exact Or.inl (Or.inl (hexitFailure (Or.inr hold)))
    · exact Or.inr hnew
  · refine forall_locals_of_frame (P := fun _ t => t.writes.Nodup) hframe ?_ h.writesNodup
    rw [CompletionThread.writes, hattempted, hlocal]
    exact completionWrites_nodup _ _ _
  · intro j hj
    rcases eq_or_ne j i with rfl | hne
    · rw [CompletionThread.writes, hattempted, hlocal] at hj
      obtain ⟨hlast, hprofiles, hnoOutput, hnoPoll⟩ := hupdate (schedule_mem_completionWrites hj)
      rw [h.threadsComplete, h.hostThreads] at hlast
      rw [hshared]
      exact ⟨by simpa using hlast, by simp, hprofiles, fun k hk =>
        h.calls_clear_concat hnoOutput hnoPoll hk⟩
    · rw [hframe j hne] at hj
      exact absurd (h.schedule j hj).1 (by omega)

/-- A write keeps the invariant: it changes the history of its partition and
nothing else. -/
theorem CompletionInv.write (h : CompletionInv cfg calls c) {write : CompletionWrite}
    {pending : List CompletionWrite} {failed answer : Bool}
    (hpc : (c.locals i).pc = .writing (write :: pending) failed) (hshared : c'.shared = c.shared)
    (hlocal : c'.locals i =
      ⟨.writing pending (failed || !answer), (c.locals i).attempted ++ [(write, answer)]⟩)
    (hframe : ∀ j, j ≠ i → c'.locals j = c.locals j) : CompletionInv cfg calls c' := by
  have hwrites : ∀ j, (c'.locals j).writes = (c.locals j).writes :=
    forall_locals_of_frame (P := fun j t => t.writes = (c.locals j).writes) hframe
      (by simp [CompletionThread.writes, hlocal, hpc, CompletionPc.pending]) fun _ => rfl
  have hreturned := returned_iff_of_frame hframe (by rw [hpc]; nofun) (by rw [hlocal]; nofun)
  refine ⟨?_, ?_, ?_, ?_, ?_, ?_, ?_, ?_, ?_, ?_, ?_, ?_⟩
  · rw [hshared]; exact h.hostThreads
  · rw [hshared]; exact h.threadsComplete
  · rw [hshared]; exact h.nodup
  · rw [hshared]
    exact forall_locals_of_frame (P := fun j t => j ∈ c.shared.entered ↔ t.pc ≠ .entry) hframe
      (by simp [h.entered, hlocal, hpc]) h.entered
  · exact forall_locals_of_frame (P := fun _ t => t.pc = .entry → t.attempted = []) hframe
      (by simp [hlocal]) h.fresh
  · refine forall_locals_of_frame (P := fun _ t => ∀ pending failed,
      t.pc = .writing pending failed → (failed = true ↔ t.WriteFailed)) hframe ?_ h.writeFailed
    intro pending' failed' hi
    rw [hlocal] at hi
    obtain ⟨_, rfl⟩ := CompletionPc.writing.inj hi
    have hold := h.writeFailed i _ _ hpc
    rw [CompletionThread.WriteFailed] at hold ⊢
    rw [hlocal, Bool.or_eq_true, hold]
    simp only [List.mem_append, List.mem_singleton, Prod.mk.injEq, exists_or, exists_eq_left,
      Bool.not_eq_true']
    exact or_congr Iff.rfl eq_comm
  · rw [hshared]; exact h.pollFailed
  · rw [hreturned, hshared]; exact h.outputFailed
  · rw [hshared]; exact h.complete
  · rw [hshared]; exact h.exitFailure
  · intro j
    rw [hwrites]
    exact h.writesNodup j
  · intro j hj
    rw [hwrites] at hj
    rw [hshared]
    exact h.schedule j hj

/-- A partition that returns joins those that returned with a failed write exactly when
it had one. -/
theorem returned_iff_of_leave (hpc : (c.locals i).pc ≠ .returned)
    (hlocal : c'.locals i = ⟨.returned, (c.locals i).attempted⟩)
    (hframe : ∀ j, j ≠ i → c'.locals j = c.locals j) :
    (∃ j, (c'.locals j).pc = .returned ∧ (c'.locals j).WriteFailed) ↔
      (∃ j, (c.locals j).pc = .returned ∧ (c.locals j).WriteFailed) ∨
        (c.locals i).WriteFailed := by
  constructor
  · rintro ⟨j, hj, hfail⟩
    rcases eq_or_ne j i with rfl | hne
    · rw [CompletionThread.WriteFailed, hlocal] at hfail
      exact Or.inr hfail
    · exact Or.inl ⟨j, by rwa [hframe j hne] at hj, by rwa [hframe j hne] at hfail⟩
  · rintro (⟨j, hj, hfail⟩ | hfail)
    · have hne : j ≠ i := by rintro rfl; exact hpc hj
      exact ⟨j, by rwa [hframe j hne], by rwa [hframe j hne]⟩
    · refine ⟨i, by rw [hlocal], ?_⟩
      rw [CompletionThread.WriteFailed, hlocal]
      exact hfail

/-- Leaving the function keeps the invariant.  A partition with a failed write
goes through the second locked section first. -/
theorem CompletionInv.leave (h : CompletionInv cfg calls c) {failed : Bool}
    (hpc : (c.locals i).pc = .writing [] failed)
    (hshared : c'.shared = if failed then ⟨failCompletion c.shared.state, c.shared.entered⟩
      else c.shared)
    (hlocal : c'.locals i = ⟨.returned, (c.locals i).attempted⟩)
    (hframe : ∀ j, j ≠ i → c'.locals j = c.locals j) : CompletionInv cfg calls c' := by
  have hentered : c'.shared.entered = c.shared.entered := by
    rw [hshared]
    split <;> rfl
  have hwrites : ∀ j, (c'.locals j).writes = (c.locals j).writes :=
    forall_locals_of_frame (P := fun j t => t.writes = (c.locals j).writes) hframe
      (by simp [CompletionThread.writes, hlocal, hpc, CompletionPc.pending]) fun _ => rfl
  have hfailed := h.writeFailed i _ _ hpc
  have hreturned : (∃ j, (c'.locals j).pc = .returned ∧ (c'.locals j).WriteFailed) ↔
      (∃ j, (c.locals j).pc = .returned ∧ (c.locals j).WriteFailed) ∨ failed = true := by
    rw [hfailed]
    exact returned_iff_of_leave (by rw [hpc]; nofun) hlocal hframe
  refine ⟨?_, ?_, ?_, ?_, ?_, ?_, ?_, ?_, ?_, ?_, ?_, ?_⟩
  · rw [hshared]
    cases failed <;> exact h.hostThreads
  · rw [hentered, hshared]
    cases failed <;> exact h.threadsComplete
  · rw [hentered]; exact h.nodup
  · rw [hentered]
    exact forall_locals_of_frame (P := fun j t => j ∈ c.shared.entered ↔ t.pc ≠ .entry) hframe
      (by simp [h.entered, hlocal, hpc]) h.entered
  · exact forall_locals_of_frame (P := fun _ t => t.pc = .entry → t.attempted = []) hframe
      (by simp [hlocal]) h.fresh
  · exact forall_locals_of_frame (P := fun _ t => ∀ pending failed,
      t.pc = .writing pending failed → (failed = true ↔ t.WriteFailed)) hframe
      (by simp [hlocal]) h.writeFailed
  · rw [hentered, hshared]
    cases failed <;> exact h.pollFailed
  · rw [hreturned, hentered, hshared, ← or_assoc, ← h.outputFailed]
    cases failed <;> simp [failCompletion]
  · rw [hentered, hshared]
    cases failed
    · exact h.complete
    · simp [failCompletion]
  · rw [hshared]
    cases failed
    · exact h.exitFailure
    · exact fun _ => rfl
  · intro j
    rw [hwrites]
    exact h.writesNodup j
  · intro j hj
    rw [hwrites] at hj
    rw [hentered]
    exact h.schedule j hj

/-- Every step of every partition keeps the invariant. -/
theorem completionStep_inv (cfg : Config) (calls : Fin n → CompletionCall)
    (c : Base.Interleaving.Config (Fin n) (CompletionShared (Fin n)) CompletionThread)
    (e : Fin n × Bool) (c' : Base.Interleaving.Config (Fin n) (CompletionShared (Fin n))
      CompletionThread) (h : CompletionInv cfg calls c)
    (hstep : stepAt (completionStep cfg calls) c e = some c') : CompletionInv cfg calls c' := by
  obtain ⟨s, t, hlocal, rfl, rfl, hframe⟩ := stepAt_eq_some hstep
  rcases completionStep_cases hlocal with ⟨hpc, hs, ht⟩ | ⟨write, pending, failed, hpc, hs, ht⟩ |
    ⟨hpc, hs, ht⟩ | ⟨hpc, hs, ht⟩
  · exact h.enter hpc hs ht hframe
  · exact h.write hpc hs ht hframe
  · exact h.leave hpc (by simpa using hs) ht hframe
  · exact h.leave hpc (by simpa using hs) ht hframe

end Invariant

/-! ## The result -/

/-- The record of a device as `launch_poll_workers` makes it, for `n`
partitions. -/
def FreshDevice (n : Nat) (device : PollerThread) : Prop :=
  device.hostThreads = n ∧ device.threadsComplete = 0 ∧ device.complete = false ∧
    device.outputFailed = false ∧ device.pollFailed = false

/-- No partition has called `complete_poll_host` yet. -/
def startCompletion (n : Nat) (device : PollerThread) (exitFailure : Bool) :
    Base.Interleaving.Config (Fin n) (CompletionShared (Fin n)) CompletionThread :=
  ⟨⟨⟨device, exitFailure⟩, []⟩, fun _ => ⟨.entry, []⟩⟩

/-- One of the failures that a partition can have. -/
def PartitionFailed (call : CompletionCall) (t : CompletionThread) : Prop :=
  call.outputFailed = true ∨ call.pollFailed = true ∨ t.WriteFailed

theorem startCompletion_inv {n : Nat} (hn : 0 < n) (cfg : Config) (calls : Fin n → CompletionCall)
    {device : PollerThread} (hdevice : FreshDevice n device) (exitFailure : Bool) :
    CompletionInv cfg calls (startCompletion n device exitFailure) := by
  obtain ⟨hthreads, hcount, hcomplete, houtput, hpoll⟩ := hdevice
  refine ⟨hthreads, hcount, List.nodup_nil, ?_, ?_, ?_, ?_, ?_, ?_, ?_, ?_, ?_⟩
  · simp [startCompletion]
  · simp [startCompletion]
  · simp [startCompletion]
  · simp [startCompletion, hpoll]
  · simp [startCompletion, houtput]
  · simp [startCompletion, hcomplete, hn.ne]
  · simp [startCompletion, houtput, hpoll]
  · simp [startCompletion, CompletionThread.writes, CompletionPc.pending]
  · simp [startCompletion, CompletionThread.writes, CompletionPc.pending]

/-- Once as many partitions have entered as there are, every partition has. -/
theorem CompletionInv.all_entered {n : Nat} {cfg : Config} {calls : Fin n → CompletionCall}
    {c : Base.Interleaving.Config (Fin n) (CompletionShared (Fin n)) CompletionThread}
    (h : CompletionInv cfg calls c) :
    c.shared.entered.length = n ↔ ∀ i, (c.locals i).pc ≠ .entry := by
  have hcard : c.shared.entered.toFinset.card = c.shared.entered.length :=
    List.toFinset_card_of_nodup h.nodup
  constructor
  · intro hlen i
    have huniv : c.shared.entered.toFinset = Finset.univ :=
      Finset.eq_univ_of_card _ (by rw [hcard, hlen, Fintype.card_fin])
    rw [← h.entered i, ← List.mem_toFinset, huniv]
    exact Finset.mem_univ i
  · intro hall
    have huniv : c.shared.entered.toFinset = Finset.univ := by
      refine Finset.eq_univ_iff_forall.2 fun i => ?_
      rw [List.mem_toFinset, h.entered i]
      exact hall i
    rw [← hcard, huniv, Finset.card_univ, Fintype.card_fin]

/-- For every interleaving of the partitions of a device and every answer of
the database:

* the device is not complete before every partition has passed its first
  locked section;
* once every call has returned, the device is complete exactly when no
  partition failed;
* at most one partition attempts the schedule update, once, and it is the one
  that counted last; it does so only with several profiles and when no
  partition had a failed output or a failed poll;
* a failure makes the exit code `EXIT_FAILURE`. -/
theorem completion_safe {n : Nat} (hn : 0 < n) (cfg : Config) (calls : Fin n → CompletionCall)
    (device : PollerThread) (hdevice : FreshDevice n device) (exitFailure : Bool)
    (trace : List (Fin n × Bool))
    (c : Base.Interleaving.Config (Fin n) (CompletionShared (Fin n)) CompletionThread)
    (hrun : run (completionStep cfg calls) (startCompletion n device exitFailure) trace = some c) :
    (c.shared.state.device.complete = true → ∀ i, (c.locals i).pc ≠ .entry) ∧
      ((∀ i, (c.locals i).pc = .returned) →
        (c.shared.state.device.complete = true ↔
          ∀ i, ¬ PartitionFailed (calls i) (c.locals i))) ∧
      (∀ i, ((c.locals i).attempted.map Prod.fst).count .schedule ≤ 1 ∧
        (CompletionWrite.schedule ∈ (c.locals i).attempted.map Prod.fst →
          c.shared.state.device.threadsComplete = n ∧ c.shared.entered.getLast? = some i ∧
            cfg.activeProfiles ≠ 1 ∧
            ∀ j, (calls j).outputFailed = false ∧ (calls j).pollFailed = false)) ∧
      (∀ i, ((c.locals i).pc ≠ .entry ∧
            ((calls i).outputFailed = true ∨ (calls i).pollFailed = true) ∨
          (c.locals i).pc = .returned ∧ (c.locals i).WriteFailed) →
        c.shared.state.exitFailure = true) := by
  have h : CompletionInv cfg calls c :=
    run_invariant (completionStep_inv cfg calls) (startCompletion_inv hn cfg calls hdevice _) hrun
  refine ⟨fun hc => h.all_entered.1 (h.complete.1 hc).1, ?_, ?_, ?_⟩
  · intro hall
    have hentered : ∀ i, i ∈ c.shared.entered := fun i => (h.entered i).2 (by simp [hall i])
    have hlen := h.all_entered.2 fun i => (h.entered i).1 (hentered i)
    rw [h.complete, ← Bool.not_eq_true, h.outputFailed, ← Bool.not_eq_true, h.pollFailed]
    constructor
    · rintro ⟨_, hnoOutput, hnoPoll⟩ i (hi | hi | hi)
      · exact hnoOutput (Or.inl ⟨i, hentered i, hi⟩)
      · exact hnoPoll ⟨i, hentered i, hi⟩
      · exact hnoOutput (Or.inr ⟨i, hall i, hi⟩)
    · intro hnone
      refine ⟨hlen, ?_, ?_⟩
      · rintro (⟨i, _, hi⟩ | ⟨i, _, hi⟩)
        · exact hnone i (Or.inl hi)
        · exact hnone i (Or.inr (Or.inr hi))
      · rintro ⟨i, _, hi⟩
        exact hnone i (Or.inr (Or.inl hi))
  · intro i
    have hnodup := (List.nodup_append.1 (h.writesNodup i)).1
    refine ⟨List.nodup_iff_count_le_one.1 hnodup _, fun hmem => ?_⟩
    obtain ⟨hlen, hlast, hprofiles, hclean⟩ := h.schedule i (List.mem_append_left _ hmem)
    have hentered := h.all_entered.1 hlen
    exact ⟨by rw [h.threadsComplete, hlen], hlast, hprofiles,
      fun j => hclean j ((h.entered j).2 (hentered j))⟩
  · rintro i (⟨hi, hfail⟩ | ⟨hi, hfail⟩)
    · have hmem := (h.entered i).2 hi
      rcases hfail with hfail | hfail
      · exact h.exitFailure (Or.inl (h.outputFailed.2 (Or.inl ⟨i, hmem, hfail⟩)))
      · exact h.exitFailure (Or.inr (h.pollFailed.2 ⟨i, hmem, hfail⟩))
    · exact h.exitFailure (Or.inl (h.outputFailed.2 (Or.inr ⟨i, hi, hfail⟩)))

/-- A configuration with two profiles. -/
private def twoProfiles : Config := { Config.plain with activeProfiles := 2 }

/-- A device with two partitions. -/
private def twoPartitions : PollerThread := ⟨0, 7, 2, 2, 5, 0, 0, false, false, false⟩

/-- Partition 0 has an error to report, and partition 1 has none. -/
private def oneReport (i : Fin 2) : CompletionCall := ⟨false, false, if i = 0 then 1 else 0⟩

/-- A late failure undoes the completion: partition 0 has counted itself and
waits for its write, partition 1 is last, completes the device and returns,
and then the write of partition 0 is refused. -/
theorem completion_late_failure : ∃ c,
    run (completionStep twoProfiles oneReport) (startCompletion 2 twoPartitions false)
      [(0, true), (1, true), (1, true), (1, true), (1, true), (0, false), (0, true)] = some c ∧
    (∀ i, (c.locals i).pc = .returned) ∧ c.shared.state.device.complete = false ∧
    c.shared.state.exitFailure = true := by
  have heval : (run (completionStep twoProfiles oneReport) (startCompletion 2 twoPartitions false)
      [(0, true), (1, true), (1, true), (1, true), (1, true), (0, false), (0, true)]).map
      (fun c => ((c.locals 0).pc, (c.locals 1).pc, (c.locals 0).attempted)) =
      some (.returned, .returned, [(.hostErrors, false)]) := by decide
  obtain ⟨c, hrun, hc⟩ := Option.map_eq_some_iff.1 heval
  obtain ⟨hpc0, hpc1, hattempted⟩ : (c.locals 0).pc = .returned ∧ (c.locals 1).pc = .returned ∧
      (c.locals 0).attempted = [(.hostErrors, false)] := by simpa using hc
  have hall : ∀ i, (c.locals i).pc = .returned := Fin.forall_fin_two.2 ⟨hpc0, hpc1⟩
  have hfailed : (c.locals 0).WriteFailed := ⟨.hostErrors, by simp [hattempted]⟩
  obtain ⟨_, hcomplete, _, hexit⟩ := completion_safe (by decide) twoProfiles oneReport
    twoPartitions ⟨rfl, rfl, rfl, rfl, rfl⟩ false _ c hrun
  refine ⟨c, hrun, hall, ?_, hexit 0 (Or.inr ⟨hpc0, hfailed⟩)⟩
  rw [← Bool.not_eq_true, hcomplete hall]
  exact fun hnone => hnone 0 (Or.inr (Or.inr hfailed))

end Spine
